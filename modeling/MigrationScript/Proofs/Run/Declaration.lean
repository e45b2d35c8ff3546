import Mathlib
import MigrationScript.Proofs.Literal
import MigrationScript.Proofs.Run.Application
import MigrationScript.Proofs.Run.History
import MigrationScript.Proofs.Source.Control
import MigrationScript.Proofs.Source.Twin

/-!
# What a declaration of a version declares

A line `$lastdbu ARGUMENT` declares a version. The argument is cut into words, and the declared
version is read from one of them: the first that is no operator. The run of the line is settled by
that word (`declaration_runs`). If it is a literal, the version is compared with the one of the
database; if it is none, the run fails before it does anything.

A literal with at most one operator before it is declared as that version
(`parse?_compared_of_plain`). What else stands in the argument is not looked at, neither further
words nor signs that belong to no word.
-/

namespace MigrationScript

open ApplicationName (compared value_words)
open Source

namespace Declaration

/-- The line that declares a version. -/
def line (argument : Text) : Text := "$lastdbu".toList ++ ' ' :: argument

/-- The directive that the line stands for. -/
def directive (argument : Text) : Directive :=
  ⟨.lastDbu, "$lastdbu".toList, (Lexeme.words argument).map Field.ofWord⟩

/-- The text of the line as it is stored. -/
def storedLine (argument : Text) : Text := "$lastdbu".toList ++ kept (' ' :: argument)

/-- The statement that the line stands for. -/
def statement (argument : Text) : Statement :=
  { symbol := .lastDbu, key := "$lastdbu".toList
    fields := (Lexeme.words argument).map Field.ofWord
    slots := [[storedLine argument]], line := 1 }

/-- The signs that can stand before a version. -/
def signs : List Text :=
  ["!".toList, "!=".toList, "=".toList, ">".toList, "<".toList, ">=".toList, "<=".toList]

/-- An argument is a version literal, with at most one sign before it and white space around. -/
def Plain (argument : Text) (v : Version) : Prop :=
  ∃ space sign literal, (∀ c ∈ space, Text.isBlank c = true) ∧ (sign = [] ∨ sign ∈ signs) ∧
    argument = space ++ (sign ++ literal) ∧ Version.parse? literal = some v

/-! ## The line as it is read -/

/-- The directive takes a single line, with a terminator at its end or without. -/
theorem ofDirective_directive (argument text : Text) (ended : Bool) :
    Script.Line.ofDirective (directive argument) text ended
      = .directive (directive argument) text true := by
  rw [← Bool.or_true ended]
  rfl

theorem ofText_line (argument : Text) : Script.Line.ofText (line argument)
    = .ok (.directive (directive argument) (storedLine argument) true) := by
  have hword : ∀ c ∈ "$lastdbu".toList, LexemeClass.word.holds c = true :=
    List.all_eq_true.mp (by decide)
  have hsymbol : Keyword.directive? "$lastdbu".toList = some .lastDbu := by decide
  have hfolded : Keyword.folded "$lastdbu".toList = "$lastdbu".toList := by decide
  have hread := ofText_word rfl hword (head_space argument) hsymbol
  rw [Lexeme.words_dropped (by decide), hfolded] at hread
  exact hread.trans (congrArg Except.ok (ofDirective_directive argument _ _))

theorem parse_line {argument : Text} (hline : '\n' ∉ argument) :
    Script.parse (line argument) = .ok [statement argument] := by
  have hone : '\n' ∉ line argument := by
    unfold line
    rw [List.mem_append, List.mem_cons]
    rintro (hword | hspace | hargument)
    · exact absurd hword (by decide)
    · exact absurd hspace (by decide)
    · exact hline hargument
  have hstep : Script.step 1 (.directive (directive argument) (storedLine argument) true) none
      = ([statement argument], none) := Script.step_single rfl rfl (storedLine argument)
  rw [Script.parse_cons (numberedLines_single hone) (ofText_line argument), hstep]
  rfl

/-- What the statement asks for. -/
theorem role_statement (argument : Text) :
    ∃ operator, (statement argument).role = .raiseVersion ⟨operator, compared argument⟩ := by
  rw [← value_words]
  exact ⟨_, rfl⟩

/-! ## Literals among the words -/

/-- The digits and the point of a literal belong to words. -/
theorem word_core (l : Version.Literal) : ∀ c ∈ l.core, LexemeClass.word.holds c = true := by
  have hdigit : ∀ {c : Char}, c.isDigit = true → LexemeClass.word.holds c = true := by
    intro c hc
    simp [LexemeClass.holds, LexemeClass.isWord, Char.isAlphanum, hc]
  intro c hc
  rcases List.mem_append.mp hc with hmajor | hrest
  · exact hdigit (l.major.decimal c hmajor)
  · rcases List.mem_cons.mp hrest with rfl | hminor
    · decide
    · exact hdigit (l.minor.decimal c hminor)

/-- A literal is one word. -/
theorem words_literal (l : Version.Literal) : Lexeme.words l.text = [l.core] := by
  have hbefore : ∀ c ∈ l.before, LexemeClass.of? c = none := fun c hc =>
    LexemeClass.of?_blank (l.blank_before c hc)
  have hafter : ∀ c ∈ l.after, LexemeClass.of? c = none := fun c hc =>
    LexemeClass.of?_blank (l.blank_after c hc)
  have hne : l.core ≠ [] := List.append_ne_nil_of_left_ne_nil l.major.ne_nil _
  rw [Version.Literal.text, Lexeme.words_append_none hafter, Lexeme.words_none_append hbefore,
    Lexeme.words_of_class hne (word_core l)]

/-- No operator has a point in it. -/
theorem not_operator_core (l : Version.Literal) :
    Keyword.operatorWords.contains (Keyword.folded l.core) = false := by
  have hpoint : '.' ∈ Keyword.folded l.core :=
    List.mem_map.mpr ⟨'.', List.mem_append_right _ List.mem_cons_self, by decide⟩
  have hnone : ∀ w ∈ Keyword.operatorWords, '.' ∉ w := by decide
  rw [Bool.eq_false_iff]
  intro hmem
  exact hnone _ (List.contains_iff_mem.mp hmem) hpoint

theorem signs_operators : ∀ sign ∈ signs, sign ≠ [] ∧
    sign.all LexemeClass.operator.holds = true ∧
    Keyword.operatorWords.contains (Keyword.folded sign) = true := by
  decide

/-- A literal begins with white space or a digit. -/
theorem head_literal (l : Version.Literal) :
    ∀ c ∈ l.text.head?, LexemeClass.operator.holds c = false := by
  intro c hc
  rw [Bool.eq_false_iff]
  intro hoperator
  have hblank := LexemeClass.not_isBlank_of_holds hoperator
  cases hbefore : l.before with
  | nil =>
      rw [Version.Literal.text, hbefore, List.nil_append, Version.Literal.core, List.append_assoc,
        List.head?_append_of_ne_nil _ l.major.ne_nil] at hc
      have hdigit := l.major.decimal c (List.mem_of_head? hc)
      have hword := LexemeClass.not_isWord_of_isOperator hoperator
      simp [LexemeClass.isWord, Char.isAlphanum, hdigit] at hword
  | cons d rest =>
      rw [Version.Literal.text, hbefore] at hc
      obtain rfl := Option.some.inj hc
      rw [l.blank_before d (hbefore ▸ List.mem_cons_self)] at hblank
      cases hblank

/-- **A literal with at most one sign before it is declared.** -/
theorem parse?_compared_of_plain {argument : Text} {v : Version} (h : Plain argument v) :
    Version.parse? (compared argument) = some v := by
  obtain ⟨space, sign, literal, hspace, hsign, rfl, hparse⟩ := h
  obtain ⟨l, rfl, hstands⟩ := Version.parse?_eq_some.mp hparse
  have hspace : ∀ c ∈ space, LexemeClass.of? c = none := fun c hc =>
    LexemeClass.of?_blank (hspace c hc)
  have hword : compared (space ++ (sign ++ l.text)) = l.core := by
    unfold compared
    rw [Lexeme.words_none_append hspace]
    rcases hsign with rfl | hsign
    · rw [List.nil_append, words_literal, List.find?_singleton, not_operator_core]
      rfl
    · obtain ⟨hne, hclass, hoperator⟩ := signs_operators sign hsign
      rw [Lexeme.words_run hne (List.all_eq_true.mp hclass) (head_literal l), words_literal,
        List.find?_cons, hoperator, List.find?_singleton, not_operator_core]
      rfl
  rw [hword]
  exact Version.parse?_eq_some.mpr
    ⟨{ l with before := [], after := [], blank_before := by simp, blank_after := by simp },
      List.append_nil _, hstands⟩

end Declaration

namespace Run

open Declaration

variable {σ τ : Type}

/-! ## The run -/

/-- A run that failed at its first statement and left everything as it was. -/
structure Refuses (cause : Failure) (ep : Episode σ τ) : Prop where
  result : ep.observed.result = .error ⟨0, cause⟩
  calls : ep.observed.calls = []
  saves : ep.observed.saves = []
  after : ep.after = ep.before

/-- A run that declared a version and did nothing else. -/
structure Declares (v : Version) (ep : Episode σ τ) : Prop where
  calls : ep.observed.calls = []
  /-- An older version is refused. -/
  older : v.encode < ep.before.info.version →
    Refuses (.versionRegression v ep.before.info.current) ep
  /-- The current version is accepted, and nothing changes. -/
  same : v.encode = ep.before.info.version →
    ep.observed.result = .ok 1 ∧ ep.observed.saves = [] ∧ ep.after = ep.before
  /-- A newer version is given to the store, and stays if the store keeps it. -/
  newer : ep.before.info.version < v.encode → ∃ answer,
    ep.observed.saves = [(v.encode, answer)] ∧
      (answer = .ok () → ep.observed.result = .ok 1
        ∧ ep.observed.info = { ep.before.info with version := v.encode }) ∧
      (∀ message, answer = .error message → ep.observed.result = .error ⟨1, .saveVersion message⟩
        ∧ ep.observed.info = ep.before.info)

variable {s : Statement} {asked : Comparison}

theorem refuses_of_step {db : Database σ} {store : VersionStore τ} {e : Engine σ τ}
    {cause : Failure} (hstep : step db.watched s (.start e.info ⟨e.database, []⟩)
      = (.fail cause, .start e.info ⟨e.database, []⟩)) :
    Refuses cause (e.episode db store [s]) := by
  rw [episode_eq, Engine.walked, walk_single, hstep]
  exact ⟨rfl, rfl, rfl, rfl⟩

/-- A statement that declares no literal is refused. -/
theorem refuses_of_bad_literal (db : Database σ) (store : VersionStore τ) (e : Engine σ τ)
    (hrole : s.role = .raiseVersion asked) (hparse : Version.parse? asked.value = none) :
    Refuses (.badVersionLiteral asked.value) (e.episode db store [s]) :=
  refuses_of_step (step_of_bad_literal db.watched _ hrole hparse)

/-- A statement with a literal declares its version. -/
theorem declares_of_literal (db : Database σ) (store : VersionStore τ) (e : Engine σ τ)
    (hrole : s.role = .raiseVersion asked) {v : Version}
    (hparse : Version.parse? asked.value = some v) : Declares v (e.episode db store [s]) := by
  have hstep := step_of_literal db.watched (.start e.info ⟨e.database, []⟩) hrole hparse
  have hversion : (Session.start e.info (⟨e.database, []⟩ : Watched σ)).info.version
      = e.info.version := rfl
  rw [hversion] at hstep
  by_cases hnewer : e.info.version < v.encode
  · -- the version is raised, and the store is asked for it
    rw [if_pos hnewer] at hstep
    rw [episode_eq, Engine.walked, walk_single, hstep]
    dsimp only [Session.raise, Session.advance]
    generalize (store.save v.encode).run e.store = saved
    obtain ⟨answer, kept⟩ := saved
    refine ⟨rfl, fun hlt => absurd (UInt32.lt_trans hnewer hlt) (UInt32.lt_irrefl _),
      fun hsame => absurd (hsame ▸ hnewer) (UInt32.lt_irrefl _), fun _ => ⟨answer, rfl, ?_, ?_⟩⟩
    · rintro rfl
      exact ⟨rfl, rfl⟩
    · rintro message rfl
      exact ⟨rfl, rfl⟩
  · rw [if_neg hnewer] at hstep
    by_cases holder : v.encode < e.info.version
    · -- an older version is refused
      rw [if_pos holder] at hstep
      have hrefuses : Refuses (.versionRegression v e.info.current) (e.episode db store [s]) :=
        refuses_of_step hstep
      refine ⟨hrefuses.calls, fun _ => hrefuses, fun hsame => ?_, fun hlt => absurd hlt hnewer⟩
      exact absurd (hsame ▸ holder) (UInt32.lt_irrefl _)
    · -- the current version is accepted, and the store is not asked
      rw [if_neg holder] at hstep
      rw [episode_eq, Engine.walked, walk_single, hstep]
      exact ⟨rfl, fun hlt => absurd hlt holder, fun _ => ⟨rfl, rfl, rfl⟩,
        fun hlt => absurd hlt hnewer⟩

/--
**A declaration is settled by the first word of its argument that is no operator.**

If the word is a literal, its version is declared; if it is none, the run fails with the word and
leaves everything as it was. An argument that is a literal with at most one sign before it is
declared as that literal.
-/
theorem declaration_runs {argument : Text} (hline : '\n' ∉ argument) :
    Script.parse (line argument) = .ok [statement argument] ∧
      (∀ {σ τ : Type} (db : Database σ) (store : VersionStore τ) (e : Engine σ τ),
        (∀ v, Version.parse? (compared argument) = some v →
          Declares v (e.episode db store [statement argument])) ∧
        (Version.parse? (compared argument) = none →
          Refuses (.badVersionLiteral (compared argument))
            (e.episode db store [statement argument]))) ∧
      ∀ v, Plain argument v → Version.parse? (compared argument) = some v := by
  refine ⟨parse_line hline, ?_, fun v => parse?_compared_of_plain⟩
  intro σ τ db store e
  obtain ⟨operator, hrole⟩ := role_statement argument
  constructor
  · intro v hparse
    exact declares_of_literal db store e hrole hparse
  · intro hparse
    exact refuses_of_bad_literal db store e hrole hparse

/-! ## An argument with a sign that is no operator -/

/-- An argument that is no literal is refused. -/
def Strict (argument : Text) : Prop :=
  (∃ v, Plain argument v) ∨
    ∀ (σ τ : Type) (db : Database σ) (store : VersionStore τ) (e : Engine σ τ)
      (statements : List Statement), Script.parse (line argument) = .ok statements →
      (∃ count value, (e.episode db store statements).observed.result
        = .error ⟨count, .badVersionLiteral value⟩) ∧
      (e.episode db store statements).observed.saves = []

/-- The first of two versions is declared, and neither the sign before it nor the rest counts. -/
theorem declaration_runs_signed :
    '\n' ∉ "- 3.6 or 4.0".toList ∧ Version.parse? (compared "- 3.6 or 4.0".toList) = some ⟨3, 6⟩ ∧
      Declares ⟨3, 6⟩ ((engineOf "shop".toList).episode (.willing fun _ _ => false) keeper
        [statement "- 3.6 or 4.0".toList]) ∧
      '\n' ∉ "3.6.1".toList ∧ Version.parse? (compared "3.6.1".toList) = none ∧
      Refuses (.badVersionLiteral "3.6.1".toList) ((engineOf "shop".toList).episode
        (.willing fun _ _ => false) keeper [statement "3.6.1".toList]) := by
  have hline : '\n' ∉ "- 3.6 or 4.0".toList := by decide
  have hline' : '\n' ∉ "3.6.1".toList := by decide
  have hliteral : Version.parse? (compared "- 3.6 or 4.0".toList) = some ⟨3, 6⟩ := by
    decide +kernel
  have hword : compared "3.6.1".toList = "3.6.1".toList := by decide +kernel
  have hnone : Version.parse? (compared "3.6.1".toList) = none := by decide +kernel
  have hdeclares := ((declaration_runs hline).2.1 (.willing fun _ _ => false) keeper
    (engineOf "shop".toList)).1 _ hliteral
  have hrefuses := ((declaration_runs hline').2.1 (.willing fun _ _ => false) keeper
    (engineOf "shop".toList)).2 hnone
  rw [hword] at hrefuses
  exact ⟨hline, hliteral, hdeclares, hline', hnone, hrefuses⟩

/-- A plain argument is written with white space and characters of words and operators. -/
theorem class_of_plain {argument : Text} {v : Version} (h : Plain argument v) :
    ∀ c ∈ argument, Text.isBlank c = true ∨ ∃ kind : LexemeClass, kind.holds c = true := by
  obtain ⟨space, sign, literal, hspace, hsign, rfl, hparse⟩ := h
  obtain ⟨l, rfl, -⟩ := Version.parse?_eq_some.mp hparse
  intro c hc
  rcases List.mem_append.mp hc with hc | hc
  · exact .inl (hspace c hc)
  rcases List.mem_append.mp hc with hc | hc
  · rcases hsign with rfl | hsign
    · cases hc
    · exact .inr ⟨.operator, List.all_eq_true.mp (signs_operators sign hsign).2.1 c hc⟩
  rcases List.mem_append.mp hc with hc | hc
  · rcases List.mem_append.mp hc with hc | hc
    · exact .inl (l.blank_before c hc)
    · exact .inr ⟨.word, word_core l c hc⟩
  · exact .inl (l.blank_after c hc)

/-- A negative number is declared as if there were no sign before it. -/
theorem not_strict_negative :
    '\n' ∉ "-3.6".toList ∧ ¬ "&&".toList <:+ "-3.6".toList ∧ ¬ Strict "-3.6".toList := by
  have hline : '\n' ∉ "-3.6".toList := by decide
  refine ⟨hline, by decide, ?_⟩
  rintro (⟨v, hplain⟩ | hrefused)
  · -- the sign is neither white space nor of a class
    rcases class_of_plain hplain '-' (by decide) with hblank | ⟨kind, hkind⟩
    · exact absurd hblank (by decide)
    · revert hkind
      cases kind <;> decide
  · have hliteral : Version.parse? (compared "-3.6".toList) = some ⟨3, 6⟩ := by decide +kernel
    obtain ⟨operator, hrole⟩ := role_statement "-3.6".toList
    obtain ⟨-, hnone⟩ := hrefused Unit Unit (.willing fun _ _ => false) keeper
      (engineOf "shop".toList) _ (parse_line hline)
    obtain ⟨answer, hsaved, -⟩ := (declares_of_literal (.willing fun _ _ => false) keeper
      (engineOf "shop".toList) hrole hliteral).newer (by decide)
    rw [hnone] at hsaved
    cases hsaved

end Run

end MigrationScript
