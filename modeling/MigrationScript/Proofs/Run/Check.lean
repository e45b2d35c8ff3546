import MigrationScript.Proofs.Version
import MigrationScript.Run.Check

/-!
# What the checks of a run answer

Each check reads a version literal first and compares then. These are the answers in the two cases:
the literal cannot be read, or it stands for a version.

A script asks for a version and then declares it. A version that a gate has let through with `>` is
declared as a rise, and one that it has let through with `>=` is declared without failing.
-/

namespace MigrationScript.Comparison

variable {asked : Comparison} {info : VersionInfo} {v : Version}

theorem version_of_bad (h : Version.parse? asked.value = none) :
    asked.version = .error (.badVersionLiteral asked.value) := by
  rw [version, h]

theorem version_of_parse (h : Version.parse? asked.value = some v) : asked.version = .ok v := by
  rw [version, h]

theorem raisedVersion?_of_bad (h : Version.parse? asked.value = none) :
    asked.raisedVersion? info = .error (.badVersionLiteral asked.value) := by
  rw [raisedVersion?, version_of_bad h]
  rfl

theorem raisedVersion?_of_parse (h : Version.parse? asked.value = some v) :
    asked.raisedVersion? info =
      if info.version < v.encode then .ok (some v.encode)
      else if v.encode < info.version then .error (.versionRegression v info.current)
      else .ok none := by
  rw [raisedVersion?, version_of_parse h]
  rfl

theorem checkVersion_of_parse (h : Version.parse? asked.value = some v) :
    asked.checkVersion info =
      match v.gate asked.operator info.version with
      | some true => .ok ()
      | some false => .error (.versionGateFailed asked.operator v info.current)
      | none => .error (.badGuardOperator "$dbu_version".toList asked.operator) := by
  rw [checkVersion, version_of_parse h]
  rfl

/-! ## Gates -/

/-- A version check passes exactly if the gate lets its version through. -/
theorem checkVersion_eq_ok {operator : Symbol} {literal : Text}
    (h : Version.parse? literal = some v) :
    (⟨operator, literal⟩ : Comparison).checkVersion info = .ok () ↔
      v.gate operator info.version = some true := by
  rw [checkVersion_of_parse h]
  split <;> simp_all

/-- What becomes of declaring the version of a literal after a gate for it. -/
structure Declares (literal : Text) (v : Version) (info : VersionInfo) (declared : Comparison) :
    Prop where
  greater : (⟨.greater, literal⟩ : Comparison).checkVersion info = .ok () →
    declared.raisedVersion? info = .ok (some v.encode)
  greaterEqual : (⟨.greaterEqual, literal⟩ : Comparison).checkVersion info = .ok () →
    ∃ raised, declared.raisedVersion? info = .ok raised

/-- A version that is not below the current one can be declared. -/
theorem raisedVersion?_of_le (h : Version.parse? asked.value = some v)
    (hle : info.version ≤ v.encode) : ∃ raised, asked.raisedVersion? info = .ok raised := by
  rw [raisedVersion?_of_parse h, if_neg (UInt32.not_lt.mpr hle)]
  split
  · exact ⟨_, rfl⟩
  · exact ⟨_, rfl⟩

/--
**A gate compares numbers.**

`>` lets through the version whose number is the next one, or the next multiple of a hundred; `=`
the version of the same number; `>=` what one of these two lets through. No other operator is a
gate. None of this is cut off at 32 bits, whatever number the current version is.
-/
theorem gates_by_number {literal : Text} (h : Version.parse? literal = some v) (current : UInt32) :
    v.Exact current ∧ v.Gates current ∧
      ∀ (info : VersionInfo) (declared : Comparison), declared.value = literal →
        Declares literal v info declared := by
  have hbounded := Version.parse?_bounded h
  refine ⟨Version.exact_of_bounded hbounded current, Version.gates_of_bounded hbounded current, ?_⟩
  rintro info declared rfl
  have hgates := Version.gates_of_bounded hbounded info.version
  constructor
  · intro hcheck
    have hrise := hgates.rises ((checkVersion_eq_ok h).mp hcheck)
    rw [raisedVersion?_of_parse h, if_pos hrise]
  · intro hcheck
    refine raisedVersion?_of_le h ?_
    -- the version is the current one, or a rise
    rcases hgates.greaterEqual.mp ((checkVersion_eq_ok h).mp hcheck) with ⟨hsame, -⟩ | ⟨hrise, -⟩
    · rw [hgates.equal.mp hsame]
      exact UInt32.le_refl _
    · exact UInt32.le_of_lt (hgates.rises hrise)

/-- Minor 0 of a major follows the last minor of the major before it. -/
theorem gates_by_number_turn :
    Version.parse? "4.00".toList = some ⟨4, 0⟩ ∧
      ((⟨4, 0⟩ : Version).gate .greater 399 = some true ∧
        ¬ (⟨4, 0⟩ : Version).gate .equal 399 = some true) ∧
      (⟨.plain, "4.00".toList⟩ : Comparison).raisedVersion? (.new 399 "shop".toList)
        = .ok (some 400) := by
  have hparse : Version.parse? "4.00".toList = some ⟨4, 0⟩ := by decide
  obtain ⟨-, hgates, hdeclares⟩ := gates_by_number hparse 399
  have hgreater : (⟨4, 0⟩ : Version).gate .greater 399 = some true :=
    hgates.greater.mpr (.inl rfl)
  refine ⟨hparse, ⟨hgreater, mt hgates.equal.mp (by decide)⟩, ?_⟩
  refine (hdeclares (.new 399 "shop".toList) ⟨.plain, "4.00".toList⟩ rfl).greater ?_
  exact (checkVersion_eq_ok hparse).mpr hgreater

end MigrationScript.Comparison
