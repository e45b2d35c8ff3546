import MigrationScript.Run.Walk

/-!
# Running a script

A run walks through a script and then saves the version, once, if the walk raised it, however the
walk ended. What the store keeps is then the version; if it keeps nothing, the version is what it
was before the run. What is shown, and all that the database has taken, stays as the walk left it.
-/

namespace MigrationScript.Run

variable {σ τ : Type}

/-- The session at the start of a run. -/
def Session.start (info : VersionInfo) (database : σ) : Session σ := { info, database }

/-- What a run returns, and the version information it leaves, once the store has answered. `before`
is the information before the run; `saved` is the store's answer, if it was asked. A failure of the
walk is reported rather than one of the store. -/
def Session.settle (before : VersionInfo) (signal : Signal) (s : Session σ)
    (saved : Option (UInt32 × Except String Unit)) : Except RunError Nat × VersionInfo :=
  let version :=
    match saved with
    | some (version, .ok ()) => version
    | _ => before.version
  let result :=
    match signal, saved with
    | .fail cause, _ => .error ⟨s.count, cause⟩
    | _, some (_, .error message) => .error ⟨s.count, .saveVersion message⟩
    | _, _ => .ok s.count
  (result, { s.info with version })

/-- What a run returns and leaves behind. -/
structure Outcome (σ : Type) where
  result : Except RunError Nat
  info : VersionInfo
  database : σ

/-- Runs statements, with a way to save the version that may have effects of its own. Returns the
number of statements dealt with, or the failure. -/
def execute {m : Type → Type} [Monad m] (db : Database σ)
    (save : UInt32 → m (Except String Unit)) (statements : List Statement) (info : VersionInfo)
    (d : σ) : m (Outcome σ) := do
  let (signal, s) := walk db statements (.start info d)
  let saved ←
    match s.pending with
    | none => pure none
    | some version => (fun answer => some (version, answer)) <$> save version
  let (result, settled) := s.settle info signal saved
  return { result, info := settled, database := s.database }

/-- Everything that lasts from one run to the next. -/
structure Engine (σ τ : Type) where
  info : VersionInfo
  database : σ
  store : τ

/-- Runs statements on an engine, whose version store answers without other effects. -/
def Engine.execute (db : Database σ) (store : VersionStore τ) (statements : List Statement)
    (e : Engine σ τ) : Except RunError Nat × Engine σ τ :=
  let (outcome, kept) := (Run.execute db store.save statements e.info e.database).run e.store
  (outcome.result, { info := outcome.info, database := outcome.database, store := kept })

end MigrationScript.Run
