import MigrationScript.Proofs.Run.Check
import MigrationScript.Proofs.Run.Observation

/-!
# The books a walk keeps on the version

A walk holds the version twice: in the information that its statements meet, and as the version to
be saved at the end. This module shows that the two stay in step through any script. The invariant,
`Session.Ledger`, is relative to the statements dealt with so far: if one of them declared a version
greater than the one it met, the version to be saved is the current one and the greatest declared;
if none did, nothing is to be saved and the version is still the old one.

Only `$lastdbu` writes the books (`step_books`), so the invariant is a short induction over the
statements.
-/

namespace MigrationScript

/-- The version that a `$lastdbu` statement declares, as a database keeps it. -/
def Statement.declared? (s : Statement) : Option UInt32 :=
  match s.role with
  | .raiseVersion asked => (Version.parse? asked.value).map Version.encode
  | _ => none

namespace Run

variable {σ : Type}

/-- A statement that a walk has dealt with. -/
structure Processed where
  statement : Statement
  /-- The version that the statement met. -/
  current : UInt32
  /-- What the statement said about those after it. -/
  signal : Signal

/-- The statements that a walk deals with, in order. -/
def processed (db : Database σ) : List Statement → Session σ → List Processed
  | [], _ => []
  | statement :: rest, s =>
    ⟨statement, s.info.version, (step db statement s).1⟩ ::
      match step db statement s with
      | (.next, s) => processed db rest s
      | _ => []

/-- A statement declares a version greater than the one it meets. -/
def Processed.Raises (p : Processed) : Prop :=
  ∃ v, p.statement.declared? = some v ∧ p.current < v

/-- The versions declared by statements that did not fail. -/
def accepted (ps : List Processed) : List UInt32 :=
  ps.filterMap fun p => if p.signal = .next then p.statement.declared? else none

theorem accepted_append (ps qs : List Processed) :
    accepted (ps ++ qs) = accepted ps ++ accepted qs := List.filterMap_append

theorem mem_accepted {ps : List Processed} {v : UInt32} :
    v ∈ accepted ps ↔ ∃ p ∈ ps, p.signal = .next ∧ p.statement.declared? = some v := by
  simp [accepted]

/-! ## Only `$lastdbu` writes the books -/

/-- Two sessions with the same books. What is shown may differ. -/
structure Session.SameBooks (s s' : Session σ) : Prop where
  version : s'.info.version = s.info.version
  app : s'.info.app = s.info.app
  change : s'.info.change = s.info.change
  pending : s'.pending = s.pending

theorem Session.SameBooks.refl (s : Session σ) : s.SameBooks s := ⟨rfl, rfl, rfl, rfl⟩

theorem executeCommands_books (db : Database σ) (symbolOf : Slot → Symbol) (slots : List Slot)
    (s : Session σ) : s.SameBooks (executeCommands db symbolOf slots s).2 := by
  unfold executeCommands
  obtain ⟨signal, d⟩ := executeSlots db symbolOf 0 slots s.database
  cases signal <;> exact ⟨rfl, rfl, rfl, rfl⟩

theorem executeGuarded_books (db : Database σ) (object : Symbol) (name : Text) (negated : Bool)
    (symbolOf : Slot → Symbol) (slots : List Slot) (s : Session σ) :
    s.SameBooks (executeGuarded db object name negated symbolOf slots s).2 := by
  unfold executeGuarded
  split
  · exact .refl s
  · dsimp only
    split
    · obtain ⟨h1, h2, h3, h4⟩ := executeCommands_books db symbolOf slots
        { s with database := (db.has _ name s.database).2 }
      exact ⟨h1, h2, h3, h4⟩
    · exact ⟨rfl, rfl, rfl, rfl⟩

theorem executeBlock_books (db : Database σ) (lines : List Text) (s : Session σ) :
    s.SameBooks (executeBlock db lines s).2 := by
  unfold executeBlock
  split
  · obtain ⟨answer, d⟩ := db.executeVerbatim lines s.database
    cases answer <;> exact ⟨rfl, rfl, rfl, rfl⟩
  · exact ⟨rfl, rfl, rfl, rfl⟩

theorem afterCheck_books (s : Session σ) (answer : Except Failure Unit) :
    s.SameBooks (s.afterCheck answer).2 := by
  cases answer <;> exact ⟨rfl, rfl, rfl, rfl⟩

/-- What a statement other than `$lastdbu` does to the books, which is nothing. -/
theorem step_books_of_undeclared (db : Database σ) {statement : Statement} (s : Session σ)
    (h : ∀ asked, statement.role ≠ .raiseVersion asked) :
    s.SameBooks (step db statement s).2 := by
  unfold step
  cases hr : statement.role with
  | checkApplication asked => exact afterCheck_books s _
  | raiseVersion asked => exact absurd hr (h asked)
  | checkVersion asked => exact afterCheck_books s _
  | setShown _ => exact ⟨rfl, rfl, rfl, rfl⟩
  | setHidden _ => exact ⟨rfl, rfl, rfl, rfl⟩
  | guardedBlock guard =>
      dsimp only
      split
      · exact .refl s
      · exact executeGuarded_books db _ _ _ _ _ s
  | guardedLine guard negated => exact executeGuarded_books db _ _ _ _ _ s
  | verbatim => exact executeBlock_books db _ s
  | commands => exact executeCommands_books db _ _ s

theorem step_of_bad_literal (db : Database σ) {statement : Statement} (s : Session σ)
    {asked : Comparison} (hr : statement.role = .raiseVersion asked)
    (hv : Version.parse? asked.value = none) :
    step db statement s = (.fail (.badVersionLiteral asked.value), s) := by
  rw [step, hr]
  simp only [Comparison.raisedVersion?_of_bad hv]

theorem step_of_literal (db : Database σ) {statement : Statement} (s : Session σ)
    {asked : Comparison} {v : Version} (hr : statement.role = .raiseVersion asked)
    (hv : Version.parse? asked.value = some v) :
    step db statement s =
      if s.info.version < v.encode then (s.raise v.encode).advance 1
      else if v.encode < s.info.version then (.fail (.versionRegression v s.info.current), s)
      else s.advance 1 := by
  rw [step, hr]
  simp only [Comparison.raisedVersion?_of_parse hv]
  by_cases hgt : s.info.version < v.encode
  · rw [if_pos hgt, if_pos hgt]
  · rw [if_neg hgt, if_neg hgt]
    by_cases hlt : v.encode < s.info.version
    · rw [if_pos hlt, if_pos hlt]
    · rw [if_neg hlt, if_neg hlt]

/-- **What a statement does to the books.** It raises the version to a greater one that it declares,
or it leaves the books as they are; in that case a version that it declares without failing is the
current one. -/
theorem step_books (db : Database σ) (statement : Statement) (s : Session σ) :
    (∃ v, statement.declared? = some v ∧ s.info.version < v ∧
      step db statement s = (s.raise v).advance 1) ∨
    (s.SameBooks (step db statement s).2 ∧
      ∀ v, statement.declared? = some v →
        v ≤ s.info.version ∧ ((step db statement s).1 = .next → v = s.info.version)) := by
  by_cases hr : ∃ asked, statement.role = .raiseVersion asked
  · obtain ⟨asked, hr⟩ := hr
    cases hv : Version.parse? asked.value with
    | none =>
        refine .inr ⟨by rw [step_of_bad_literal db s hr hv]; exact .refl s, ?_⟩
        intro v hd
        simp [Statement.declared?, hr, hv] at hd
    | some v =>
        have hd : statement.declared? = some v.encode := by simp [Statement.declared?, hr, hv]
        have hstep := step_of_literal db s hr hv
        by_cases hgt : s.info.version < v.encode
        · -- a greater version raises the current one
          rw [if_pos hgt] at hstep
          exact .inl ⟨v.encode, hd, hgt, hstep⟩
        · rw [if_neg hgt] at hstep
          refine .inr ?_
          rw [hd, hstep]
          by_cases hlt : v.encode < s.info.version
          · -- an older version than the current one fails
            rw [if_pos hlt]
            refine ⟨.refl s, ?_⟩
            rintro w ⟨rfl⟩
            exact ⟨UInt32.le_of_lt hlt, by simp⟩
          · -- the current version is accepted, and nothing changes
            rw [if_neg hlt]
            refine ⟨⟨rfl, rfl, rfl, rfl⟩, ?_⟩
            rintro w ⟨rfl⟩
            have heq := UInt32.le_antisymm (UInt32.not_lt.mp hgt) (UInt32.not_lt.mp hlt)
            exact ⟨UInt32.not_lt.mp hgt, fun _ => heq⟩
  · -- no other statement declares a version
    refine .inr ⟨step_books_of_undeclared db s fun asked h => hr ⟨asked, h⟩, ?_⟩
    intro v hd
    exfalso
    unfold Statement.declared? at hd
    split at hd
    · exact hr ⟨_, by assumption⟩
    · simp at hd

/-! ## The books stay in step -/

/-- What the books say in a session, after some statements of a run that began with `before`. -/
structure Session.Ledger (before : VersionInfo) (ps : List Processed) (s : Session σ) : Prop where
  app : s.info.app = before.app
  change : s.info.change = before.change
  /-- If nothing is to be saved, the version is the old one and no statement raised it. -/
  idle : s.pending = none → s.info.version = before.version ∧ ∀ p ∈ ps, ¬ p.Raises
  /-- If a version is to be saved, it is the current one and a statement raised the old one. -/
  raised : ∀ v, s.pending = some v →
    s.info.version = v ∧ before.version < v ∧ v ∈ accepted ps ∧ ∃ p ∈ ps, p.Raises
  /-- No accepted version is greater than the current one. -/
  greatest : ∀ v ∈ accepted ps, v ≤ s.info.version

theorem ledger_start (before : VersionInfo) (d : σ) :
    (Session.start before d).Ledger before [] where
  app := rfl
  change := rfl
  idle _ := ⟨rfl, by simp⟩
  raised v h := by simp [Session.start] at h
  greatest v h := by simp [accepted] at h

/-- **The books stay in step through every statement.** -/
theorem ledger_step (db : Database σ) {before : VersionInfo} {ps : List Processed}
    {s : Session σ} (h : s.Ledger before ps) (statement : Statement) :
    (step db statement s).2.Ledger before
      (ps ++ [⟨statement, s.info.version, (step db statement s).1⟩]) := by
  rcases step_books db statement s with ⟨v, hd, hgt, hstep⟩ | ⟨hsame, hdecl⟩
  · -- the version goes up, and the new one is the greatest so far
    rw [hstep]
    change Session.Ledger before (ps ++ [⟨statement, s.info.version, .next⟩]) _
    have hraises : Processed.Raises ⟨statement, s.info.version, .next⟩ := ⟨v, hd, hgt⟩
    have hold : before.version ≤ s.info.version := by
      cases hp : s.pending with
      | none => rw [(h.idle hp).1]; exact UInt32.le_refl _
      | some w =>
          obtain ⟨hw, hlt, -⟩ := h.raised w hp
          rw [hw]; exact UInt32.le_of_lt hlt
    refine ⟨h.app, h.change, fun hp => by simp [Session.raise, Session.advance] at hp, ?_, ?_⟩
    · intro w hw
      obtain rfl : v = w := by simpa [Session.raise, Session.advance] using hw
      have hlast : (⟨statement, s.info.version, .next⟩ : Processed)
          ∈ ps ++ [⟨statement, s.info.version, .next⟩] := List.mem_append_right ps (by simp)
      exact ⟨rfl, UInt32.lt_of_le_of_lt hold hgt, mem_accepted.mpr ⟨_, hlast, rfl, hd⟩, _, hlast,
        hraises⟩
    · intro w hw
      rw [accepted_append, List.mem_append] at hw
      -- accepted before, or by this statement
      rcases hw with hw | hw
      · exact UInt32.le_of_lt (UInt32.lt_of_le_of_lt (h.greatest w hw) hgt)
      · obtain ⟨p, hp, -, hpd⟩ := mem_accepted.mp hw
        obtain rfl := List.mem_singleton.mp hp
        obtain rfl : v = w := by simpa [hd] using hpd
        exact UInt32.le_refl _
  · -- the books are untouched
    have hnot : ¬ Processed.Raises ⟨statement, s.info.version, (step db statement s).1⟩ := by
      rintro ⟨v, hd, hgt⟩
      exact UInt32.not_lt.mpr (hdecl v hd).1 hgt
    refine ⟨hsame.app.trans h.app, hsame.change.trans h.change, ?_, ?_, ?_⟩
    · intro hp
      rw [hsame.pending] at hp
      obtain ⟨hv, hno⟩ := h.idle hp
      refine ⟨hsame.version.trans hv, ?_⟩
      intro p hp
      rcases List.mem_append.mp hp with hp | hp
      · exact hno p hp
      · rw [List.mem_singleton.mp hp]; exact hnot
    · intro v hp
      rw [hsame.pending] at hp
      obtain ⟨hv, hlt, hmem, p, hps, hraises⟩ := h.raised v hp
      refine ⟨hsame.version.trans hv, hlt, ?_, p, List.mem_append_left _ hps, hraises⟩
      rw [accepted_append]
      exact List.mem_append_left _ hmem
    · intro v hv
      rw [hsame.version]
      rw [accepted_append, List.mem_append] at hv
      rcases hv with hv | hv
      · exact h.greatest v hv
      · obtain ⟨p, hp, -, hpd⟩ := mem_accepted.mp hv
        rw [List.mem_singleton.mp hp] at hpd
        exact (hdecl v hpd).1

/-- **The books are in step when a walk ends, however it ends.** -/
theorem ledger_walk (db : Database σ) {before : VersionInfo} (statements : List Statement)
    {ps : List Processed} {s : Session σ} (h : s.Ledger before ps) :
    (walk db statements s).2.Ledger before (ps ++ processed db statements s) := by
  induction statements generalizing ps s with
  | nil => simpa [walk, processed] using h
  | cons statement rest ih =>
      have hstep := ledger_step db h statement
      rw [walk, processed]
      rcases hs : step db statement s with ⟨signal, s'⟩
      rw [hs] at hstep
      cases signal with
      | next =>
          have := ih hstep
          rwa [List.append_assoc, List.singleton_append] at this
      | halt => exact hstep
      | fail _ => exact hstep

end Run

end MigrationScript
