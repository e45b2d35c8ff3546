import MigrationScript.Proofs.Run.Conduct
import MigrationScript.Proofs.Run.History

/-!
# How far a run gets

A run deals with one statement after another until one fails, or the database stops it. The
statements before that one have made all their calls, and have been counted by their weight. The one
that ends the run has made the first of its calls, up to the one that failed or stopped the run, or
none at all if it failed in a check of its own. No call follows, and the failure that is reported is
that of the walk, whatever the store answers.
-/

namespace MigrationScript

/-- How much a statement counts for: a verbatim block that is taken by its lines, any other
statement once. -/
def Statement.weight {σ : Type} (db : Database σ) (d : σ) (s : Statement) : Nat :=
  if s.role = .verbatim ∧ db.handlesVerbatim d = true then max 1 s.lines.length else 1

namespace Run

variable {σ τ : Type} {db : Database σ}

/-! ## The count -/

/-- A statement has been counted, if the run goes on after it. -/
def Counted (weight : Nat) (s : Session σ) (r : Signal × Session σ) : Prop :=
  r.2.count = s.count + if r.1 = .next then weight else 0

theorem counted_advance (s : Session σ) (n : Nat) : Counted n s (s.advance n) := rfl

theorem counted_afterCheck (s : Session σ) (answer : Except Failure Unit) :
    Counted 1 s (s.afterCheck answer) := by
  cases answer <;> rfl

theorem counted_executeCommands (db : Database σ) (symbolOf : Slot → Symbol) (slots : List Slot)
    (s : Session σ) : Counted 1 s (executeCommands db symbolOf slots s) := by
  unfold executeCommands
  obtain ⟨signal, d⟩ := executeSlots db symbolOf 0 slots s.database
  cases signal <;> rfl

theorem counted_executeGuarded (db : Database σ) (object : Symbol) (name : Text) (negated : Bool)
    (symbolOf : Slot → Symbol) (slots : List Slot) (s : Session σ) :
    Counted 1 s (executeGuarded db object name negated symbolOf slots s) := by
  unfold executeGuarded
  split
  · rfl
  · dsimp only
    split
    · exact counted_executeCommands db symbolOf slots
        { s with database := (db.has _ name s.database).2 }
    · rfl

theorem counted_executeBlock (db : Database σ) (lines : List Text) (s : Session σ) :
    Counted (if db.handlesVerbatim s.database then max 1 lines.length else 1) s
      (executeBlock db lines s) := by
  unfold executeBlock
  split
  · obtain ⟨answer, d⟩ := db.executeVerbatim lines s.database
    cases answer <;> rfl
  · rfl

/-- **A statement counts for its weight** if the run goes on after it, and for nothing if not. -/
theorem step_counted (db : Database σ) (statement : Statement) (s : Session σ) :
    Counted (statement.weight db s.database) s (step db statement s) := by
  -- only a verbatim block can count for more than one
  have hplain : statement.role ≠ .verbatim → statement.weight db s.database = 1 := by
    intro hrole
    rw [Statement.weight, if_neg fun h => hrole h.1]
  unfold step
  cases hrole : statement.role with
  | checkApplication asked =>
      rw [hplain (by simp [hrole])]
      exact counted_afterCheck s _
  | raiseVersion asked =>
      rw [hplain (by simp [hrole])]
      dsimp only
      split <;> rfl
  | checkVersion asked =>
      rw [hplain (by simp [hrole])]
      exact counted_afterCheck s _
  | setShown shown =>
      rw [hplain (by simp [hrole])]
      exact counted_advance _ 1
  | setHidden hidden =>
      rw [hplain (by simp [hrole])]
      exact counted_advance _ 1
  | guardedBlock guard =>
      rw [hplain (by simp [hrole])]
      dsimp only
      split
      · rfl
      · exact counted_executeGuarded db _ _ _ _ _ s
  | guardedLine guard negated =>
      rw [hplain (by simp [hrole])]
      exact counted_executeGuarded db _ _ _ _ _ s
  | verbatim =>
      simp only [Statement.weight, hrole, true_and]
      exact counted_executeBlock db statement.lines s
  | commands =>
      rw [hplain (by simp [hrole])]
      exact counted_executeCommands db _ _ s

/-! ## A whole walk -/

/-- The number of the statement that a walk ends at, counted from 0. It is the number of all
statements if the walk goes through them. -/
def endsAt (db : Database σ) : List Statement → Session σ → Nat
  | [], _ => 0
  | statement :: rest, s =>
    match step db statement s with
    | (.next, s) => endsAt db rest s + 1
    | _ => 0

/-- What statements in a row want, if the run goes on after each of them. -/
def wantedAll (db : Database σ) : List Statement → σ → List Call
  | [], _ => []
  | s :: rest, d => s.wanted db d ++ wantedAll db rest (db.after (s.wanted db d) d)

/-- What statements in a row count for, if the run goes on after each of them. -/
def weightAll (db : Database σ) : List Statement → σ → Nat
  | [], _ => 0
  | s :: rest, d => s.weight db d + weightAll db rest (db.after (s.wanted db d) d)

/-- How a walk ends at statement number `k`. -/
inductive Ending (db : Database σ) (statements : List Statement) (k : Nat) (d : σ) :
    List Call → Signal → Prop where
  /-- All statements have been passed. -/
  | finished (h : k = statements.length) : Ending db statements k d [] .next
  /-- The walk ended in the statement or at a check of it. -/
  | ended {s : Statement} {begun : List Call} {signal : Signal} (hs : statements[k]? = some s)
      (hsignal : signal ≠ .next) (h : Conduct db d s begun signal) :
      Ending db statements k d begun signal

theorem ending_cons (s : Statement) {rest : List Statement} {k : Nat} {d : σ}
    {begun : List Call} {signal : Signal} (h : Ending db rest k d begun signal) :
    Ending db (s :: rest) (k + 1) d begun signal := by
  cases h with
  | finished hk => exact .finished (congrArg Nat.succ hk)
  | ended hs hsignal hconduct => exact .ended hs hsignal hconduct

/-- A statement after which the walk goes on has made all its calls. -/
theorem accepts_of_conduct {s : Statement} {d : σ} {made : List Call}
    (h : Conduct db d s made .next) : made = s.wanted db d ∧ db.Accepts made d := by
  cases h with
  | attempted h =>
      cases h with
      | whole h => exact ⟨rfl, h⟩

/-- What a walk has done when it ends. -/
structure Walked (db : Database σ) (statements : List Statement) (s : Session (Watched σ))
    (k : Nat) (begun : List Call) (r : Signal × Session (Watched σ)) : Prop where
  /-- The walk went on after each call of the statements before. -/
  accepted : db.Accepts (wantedAll db (statements.take k) s.database.state) s.database.state
  /-- Nothing but these calls and those begun with has been made. -/
  database : r.2.database
    = (s.database.extended db (wantedAll db (statements.take k) s.database.state)).extended db begun
  /-- Those begun with belong to the statement that the walk ended at. -/
  ending : Ending db statements k
    (db.after (wantedAll db (statements.take k) s.database.state) s.database.state) begun r.1
  /-- The count is that of the statements before. -/
  count : r.2.count = s.count + weightAll db (statements.take k) s.database.state

theorem walk_walked (db : Database σ) (statements : List Statement) (s : Session (Watched σ)) :
    ∃ begun, Walked db statements s (endsAt db.watched statements s) begun
      (walk db.watched statements s) := by
  induction statements generalizing s with
  | nil => exact ⟨[], trivial, by simp [wantedAll, Watched.extended_nil, walk], .finished rfl, rfl⟩
  | cons statement rest ih =>
      obtain ⟨made, hleft, hconduct⟩ := step_conduct db statement s
      have hcount := step_counted db.watched statement s
      rw [walk, endsAt]
      generalize step db.watched statement s = r at hleft hconduct hcount ⊢
      obtain ⟨signal, s'⟩ := r
      cases signal with
      | next =>
          -- all calls of this statement are behind, and the rest starts where they leave off
          obtain ⟨begun, h⟩ := ih s'
          obtain ⟨rfl, haccepts⟩ := accepts_of_conduct hconduct
          have hstate : s'.database.state
              = db.after (statement.wanted db s.database.state) s.database.state :=
            congrArg Watched.state hleft
          refine ⟨begun, ?_, ?_, ?_, ?_⟩
          · rw [List.take_succ_cons, wantedAll, Database.accepts_append, ← hstate]
            exact ⟨haccepts, h.accepted⟩
          · rw [List.take_succ_cons, wantedAll, Watched.extended_append, ← hstate, ← hleft]
            exact h.database
          · rw [List.take_succ_cons, wantedAll, Database.after_append, ← hstate]
            exact ending_cons statement h.ending
          · rw [List.take_succ_cons, weightAll, ← hstate, ← Nat.add_assoc]
            exact h.count.trans (congrArg (· + _) hcount)
      | halt =>
          refine ⟨made, trivial, ?_, .ended rfl Signal.noConfusion hconduct, hcount⟩
          exact hleft.trans (by rw [← Watched.extended_append]; rfl)
      | fail cause =>
          refine ⟨made, trivial, ?_, .ended rfl Signal.noConfusion hconduct, hcount⟩
          exact hleft.trans (by rw [← Watched.extended_append]; rfl)

/-! ## A run -/

/-- The number of the statement that a run ends at, counted from 0. -/
def Episode.endsAt (db : Database σ) (ep : Episode σ τ) : Nat :=
  Run.endsAt db ep.statements (.start ep.before.info ep.before.database)

/-- The statements that a run has behind it when it ends. -/
def Episode.behind (db : Database σ) (ep : Episode σ τ) : List Statement :=
  ep.statements.take (ep.endsAt db)

/-- The calls of the statements that a run has behind it. -/
def Episode.made (db : Database σ) (ep : Episode σ τ) : List Call :=
  wantedAll db (ep.behind db) ep.before.database

/-- What the statements that a run has behind it count for. -/
def Episode.count (db : Database σ) (ep : Episode σ τ) : Nat :=
  weightAll db (ep.behind db) ep.before.database

/-- What a run returns, by how its walk ended and what the store answered. -/
structure Reports (signal : Signal) (count : Nat) (o : Observed σ) : Prop where
  /-- A failed walk is reported, whatever the store answers. -/
  failed : ∀ cause, signal = .fail cause → o.result = .error ⟨count, cause⟩
  /-- A save that fails is reported if the walk did not fail. -/
  unsaved : (∀ cause, signal ≠ .fail cause) → ∀ version message,
    (version, .error message) ∈ o.saves → o.result = .error ⟨count, .saveVersion message⟩
  /-- If neither fails, the count is returned. -/
  counted : (∀ cause, signal ≠ .fail cause) →
    (∀ version message, (version, .error message) ∉ o.saves) → o.result = .ok count

/-- **How far a run got** whose walk ended with a signal, after it had begun with some calls of the
statement that it ended at. -/
structure Progress (db : Database σ) (ep : Episode σ τ) (signal : Signal) (begun : List Call) :
    Prop where
  /-- The calls are those of the statements before, and those begun with. -/
  calls : ep.observed.calls = ep.made db ++ begun
  /-- The run went on after each call of the statements before. -/
  accepted : db.Accepts (ep.made db) ep.before.database
  /-- What was begun with are the first calls of the statement that the run ended at. -/
  ending : Ending db ep.statements (ep.endsAt db) (db.after (ep.made db) ep.before.database)
    begun signal
  /-- No call follows the first that fails or stops the run: it went on after each but the last. -/
  last : db.Accepts ep.observed.calls.dropLast ep.before.database
  /-- Nothing but these calls has been done to the database. -/
  database : ep.observed.database = db.after ep.observed.calls ep.before.database
  /-- The count is that of the statements before. -/
  reports : Reports signal (ep.count db) ep.observed

theorem endsAt_hom {ρ : Type} {db : Database σ} {db' : Database ρ} {f : σ → ρ} (h : db.Hom db' f)
    (statements : List Statement) (s : Session σ) :
    endsAt db' statements (s.mapDatabase f) = endsAt db statements s := by
  induction statements generalizing s with
  | nil => rfl
  | cons statement rest ih =>
      rw [endsAt, endsAt, step_hom h]
      rcases step db statement s with ⟨signal, s'⟩
      cases signal with
      | next => exact congrArg (· + 1) (ih s')
      | halt => rfl
      | fail _ => rfl

/-- The run went on after each call but the last. -/
theorem accepts_dropLast {statements : List Statement} {k : Nat} {d : σ} {made begun : List Call}
    {signal : Signal} (hmade : db.Accepts made d)
    (h : Ending db statements k (db.after made d) begun signal) :
    db.Accepts (made ++ begun).dropLast d := by
  have hnone : db.Accepts (made ++ []).dropLast d := by
    rw [List.append_nil]
    exact Database.accepts_of_begun hmade (List.dropLast_prefix made)
  have hlast : ∀ {before : List Call} {last : Call}, db.Accepts before (db.after made d) →
      db.Accepts (made ++ (before ++ [last])).dropLast d := by
    intro before last hbefore
    rw [← List.append_assoc, List.dropLast_concat]
    exact Database.accepts_append.mpr ⟨hmade, hbefore⟩
  cases h with
  | finished _ => exact hnone
  | ended _ hsignal hconduct =>
      cases hconduct with
      | refused _ => exact hnone
      | attempted hattempt =>
          cases hattempt with
          | whole _ => exact absurd rfl hsignal
          | stopped _ _ _ hbefore _ => exact hlast hbefore
          | failed _ _ _ hbefore _ => exact hlast hbefore

theorem reports_observed (before : VersionInfo) (signal : Signal) (s : Session (Watched σ))
    (saved : Option Save) : Reports signal s.count (s.observed before signal saved) where
  failed := by
    rintro cause rfl
    rfl
  unsaved hsignal version message hmem := by
    obtain rfl : saved = some (version, .error message) := Option.mem_toList.mp hmem
    cases signal with
    | next => rfl
    | halt => rfl
    | fail cause => exact absurd rfl (hsignal cause)
  counted hsignal hsaved := by
    have hanswer : ∀ version message, saved ≠ some (version, .error message) := by
      rintro version message rfl
      exact hsaved version message List.mem_cons_self
    match signal, saved with
    | .fail cause, _ => exact absurd rfl (hsignal cause)
    | _, some (version, .error message) => exact absurd rfl (hanswer version message)
    | .next, none => rfl
    | .halt, none => rfl
    | .next, some (_, .ok ()) => rfl
    | .halt, some (_, .ok ()) => rfl

/-- A watched run is a watched walk, and an answer of the store. -/
theorem episode_observed (db : Database σ) (store : VersionStore τ) (statements : List Statement)
    (e : Engine σ τ) :
    ∃ saved, (e.episode db store statements).observed
      = (e.walked db statements).2.observed e.info (e.walked db statements).1 saved := by
  rw [episode_eq]
  obtain ⟨signal, s⟩ := e.walked db statements
  dsimp only
  cases s.pending with
  | none => exact ⟨_, rfl⟩
  | some v => exact ⟨_, rfl⟩

/--
**A run ends at the first statement that fails or stops it, and says how far it got.**

This is so for every script, every database and every version store. What the statements before
that one count for is returned, or reported with the failure, and they have made all their calls.
The one that the run ends at has made its first calls, up to the one that ended the run, or none if
it failed in a check of its own.
-/
theorem progress_of_run (db : Database σ) (store : VersionStore τ) (statements : List Statement)
    (e : Engine σ τ) :
    ∃ signal begun, Progress db (e.episode db store statements) signal begun := by
  obtain ⟨begun, hwalked⟩ := walk_walked db statements (.start e.info ⟨e.database, []⟩)
  have hends : endsAt db.watched statements (.start e.info ⟨e.database, []⟩)
      = (e.episode db store statements).endsAt db :=
    (endsAt_hom db.watched_hom statements (.start e.info ⟨e.database, []⟩)).symm
  rw [hends] at hwalked
  obtain ⟨haccepted, hdatabase, hending, hcount⟩ := hwalked
  obtain ⟨saved, hobserved⟩ := episode_observed db store statements e
  have hreports := reports_observed e.info (e.walked db statements).1
    (e.walked db statements).2 saved
  rw [← hobserved, Engine.walked, hcount.trans (Nat.zero_add _)] at hreports
  have hleft : (e.walked db statements).2.database
      = Watched.extended db ⟨e.database, []⟩
        ((e.episode db store statements).made db ++ begun) := by
    rw [Watched.extended_append]
    exact hdatabase
  have hcalls : (e.episode db store statements).observed.calls
      = (e.episode db store statements).made db ++ begun := by
    rw [hobserved]
    exact congrArg Watched.calls hleft
  refine ⟨_, begun, hcalls, haccepted, hending, ?_, ?_, hreports⟩
  · rw [hcalls]
    exact accepts_dropLast haccepted hending
  · rw [hcalls, hobserved]
    exact congrArg Watched.state hleft

end Run

end MigrationScript
