import MigrationScript.Run.Engine

/-!
# Watching a run

What a run does to the outside is the sequence of its calls: what it asked the database, what it
handed over, and what it asked the store to keep. A database that writes its calls down, and a store
that does, make that sequence a value.

Watching changes nothing. A database that only adds a record to its state answers as before, so the
walk takes the same way (`walk_hom`), and a watched run returns and leaves what the plain run does
(`observe_faithful`). That is why theorems about the calls of a watched run are about all runs.
-/

namespace MigrationScript

/-- A call of a run to its database. -/
inductive Call where
  /-- A question, with its answer. -/
  | asked (kind : SchemaObject) (name : Text) (found : Bool)
  /-- A command, with the number of its slot. -/
  | executed (symbol : Symbol) (slot : Nat) (command : Text)
  /-- The lines of a data block. -/
  | verbatim (lines : List Text)
  deriving DecidableEq, Repr

/-- A version that the store was asked to keep, with its answer. -/
abbrev Save := UInt32 × Except String Unit

/-- The state of a watched database: its own, and the calls so far. -/
structure Watched (σ : Type) where
  state : σ
  calls : List Call := []

namespace Database

variable {σ ρ : Type}

/-- The database with every call written down. -/
def watched (db : Database σ) : Database (Watched σ) where
  has kind name d :=
    let (found, state) := db.has kind name d.state
    (found, ⟨state, d.calls ++ [.asked kind name found]⟩)
  execute symbol slot command d :=
    let (answer, state) := db.execute symbol slot command d.state
    (answer, ⟨state, d.calls ++ [.executed symbol slot command]⟩)
  handlesVerbatim d := db.handlesVerbatim d.state
  executeVerbatim lines d :=
    let (answer, state) := db.executeVerbatim lines d.state
    (answer, ⟨state, d.calls ++ [.verbatim lines]⟩)

/-- A database with a schema that stays as it is, which takes every command and no block. -/
def willing (schema : SchemaObject → Text → Bool) : Database Unit where
  has kind name d := (schema kind name, d)
  execute _ _ _ d := (.ok .proceed, d)
  handlesVerbatim _ := false
  executeVerbatim _ d := (.ok (), d)

/-- A map of states under which two databases give the same answers. -/
structure Hom (db : Database σ) (db' : Database ρ) (f : σ → ρ) : Prop where
  has : ∀ kind name d, db'.has kind name (f d) = (db.has kind name d).map id f
  execute : ∀ symbol slot command d,
    db'.execute symbol slot command (f d) = (db.execute symbol slot command d).map id f
  handlesVerbatim : ∀ d, db'.handlesVerbatim (f d) = db.handlesVerbatim d
  executeVerbatim : ∀ lines d,
    db'.executeVerbatim lines (f d) = (db.executeVerbatim lines d).map id f

/-- Forgetting the record leaves the database that was watched. -/
theorem watched_hom (db : Database σ) : Hom db.watched db Watched.state where
  has _ _ _ := rfl
  execute _ _ _ _ := rfl
  handlesVerbatim _ := rfl
  executeVerbatim _ _ := rfl

end Database

namespace Run

variable {σ ρ τ : Type} {db : Database σ} {db' : Database ρ} {f : σ → ρ}

/-- A session with the state of its database replaced. -/
def Session.mapDatabase (f : σ → ρ) (s : Session σ) : Session ρ :=
  { info := s.info, pending := s.pending, count := s.count, database := f s.database }

theorem executeSlots_hom (h : db.Hom db' f) (symbolOf : Slot → Symbol) (i : Nat)
    (slots : List Slot) (d : σ) :
    executeSlots db' symbolOf i slots (f d) = (executeSlots db symbolOf i slots d).map id f := by
  induction slots generalizing i d with
  | nil => rfl
  | cons slot rest ih =>
      rw [executeSlots, executeSlots, h.execute]
      obtain ⟨answer, d'⟩ := db.execute (symbolOf slot) i slot.command d
      match answer with
      | .ok .proceed => exact ih (i + 1) d'
      | .ok .stop => rfl
      | .error _ => rfl

theorem executeCommands_hom (h : db.Hom db' f) (symbolOf : Slot → Symbol) (slots : List Slot)
    (s : Session σ) :
    executeCommands db' symbolOf slots (s.mapDatabase f)
      = (executeCommands db symbolOf slots s).map id (Session.mapDatabase f) := by
  unfold executeCommands
  rw [show (s.mapDatabase f).database = f s.database from rfl, executeSlots_hom h]
  obtain ⟨signal, d⟩ := executeSlots db symbolOf 0 slots s.database
  cases signal <;> rfl

theorem executeGuarded_hom (h : db.Hom db' f) (object : Symbol) (name : Text) (negated : Bool)
    (symbolOf : Slot → Symbol) (slots : List Slot) (s : Session σ) :
    executeGuarded db' object name negated symbolOf slots (s.mapDatabase f)
      = (executeGuarded db object name negated symbolOf slots s).map id
          (Session.mapDatabase f) := by
  cases hkind : SchemaObject.ofGuard? object name with
  | none => simp only [executeGuarded, hkind, Prod.map, id]
  | some kind =>
      rcases hd : db.has kind name s.database with ⟨found, d⟩
      have hd' : db'.has kind name (f s.database) = (found, f d) := by rw [h.has, hd]; rfl
      simp only [executeGuarded, hkind, Session.mapDatabase, hd, hd']
      split
      · exact executeCommands_hom h symbolOf slots { s with database := d }
      · rfl

theorem executeBlock_hom (h : db.Hom db' f) (lines : List Text) (s : Session σ) :
    executeBlock db' lines (s.mapDatabase f)
      = (executeBlock db lines s).map id (Session.mapDatabase f) := by
  unfold executeBlock
  rw [show (s.mapDatabase f).database = f s.database from rfl, h.handlesVerbatim,
    h.executeVerbatim]
  split
  · obtain ⟨answer, d⟩ := db.executeVerbatim lines s.database
    cases answer <;> rfl
  · rfl

/-- **A statement does the same on both databases.** -/
theorem step_hom (h : db.Hom db' f) (statement : Statement) (s : Session σ) :
    step db' statement (s.mapDatabase f)
      = (step db statement s).map id (Session.mapDatabase f) := by
  unfold step
  cases statement.role with
  | checkApplication asked =>
      dsimp only [Session.mapDatabase]
      cases asked.checkApplication statement.key s.info <;> rfl
  | raiseVersion asked =>
      dsimp only [Session.mapDatabase]
      match asked.raisedVersion? s.info with
      | .ok (some _) => rfl
      | .ok none => rfl
      | .error _ => rfl
  | checkVersion asked =>
      dsimp only [Session.mapDatabase]
      cases asked.checkVersion s.info <;> rfl
  | setShown _ => rfl
  | setHidden _ => rfl
  | guardedBlock guard =>
      dsimp only
      split
      · rfl
      · exact executeGuarded_hom h _ _ _ _ _ s
  | guardedLine guard negated => exact executeGuarded_hom h _ _ _ _ _ s
  | verbatim => exact executeBlock_hom h _ s
  | commands => exact executeCommands_hom h _ _ s

/-- **A walk takes the same way on both databases.** -/
theorem walk_hom (h : db.Hom db' f) (statements : List Statement) (s : Session σ) :
    walk db' statements (s.mapDatabase f)
      = (walk db statements s).map id (Session.mapDatabase f) := by
  induction statements generalizing s with
  | nil => rfl
  | cons statement rest ih =>
      rw [walk, walk, step_hom h]
      obtain ⟨signal, s'⟩ := step db statement s
      cases signal with
      | next => exact ih s'
      | halt => rfl
      | fail _ => rfl

/-! ## Watched runs -/

/-- What a run returns and leaves behind, and every call that it made. -/
structure Observed (σ : Type) extends Outcome σ where
  /-- The calls to the database, in order. -/
  calls : List Call
  /-- The calls to the store, in order. -/
  saves : List Save

variable {m : Type → Type} [Monad m]

/-- A way to save the version, with every call written down. -/
def watchedSave (save : UInt32 → m (Except String Unit)) (version : UInt32) :
    StateT (List Save) m (Except String Unit) := do
  let answer ← save version
  modify fun saves => saves ++ [(version, answer)]
  return answer

/-- Runs statements, and writes down what the database and the store are asked. -/
def observe (db : Database σ) (save : UInt32 → m (Except String Unit))
    (statements : List Statement) (info : VersionInfo) (d : σ) : m (Observed σ) := do
  let (outcome, saves) ← (execute db.watched (watchedSave save) statements info ⟨d, []⟩).run []
  return { result := outcome.result, info := outcome.info, database := outcome.database.state
           calls := outcome.database.calls, saves }

/-- Asks for a version to be saved, if there is one. -/
def askStore (save : UInt32 → m (Except String Unit)) : Option UInt32 → m (Option Save)
  | none => pure none
  | some version => (fun answer => some (version, answer)) <$> save version

/-- The end of a watched run whose walk ended with a signal in a session. -/
def Session.observed (before : VersionInfo) (signal : Signal) (s : Session (Watched σ))
    (saved : Option Save) : Observed σ :=
  { result := (s.settle before signal saved).1, info := (s.settle before signal saved).2
    database := s.database.state, calls := s.database.calls, saves := saved.toList }

/-- **A watched run is the watched walk, then at most one question to the store.** -/
theorem observe_eq [LawfulMonad m] (db : Database σ) (save : UInt32 → m (Except String Unit))
    (statements : List Statement) (info : VersionInfo) (d : σ) :
    observe db save statements info d =
      (walk db.watched statements (.start info ⟨d, []⟩)).2.observed info
        (walk db.watched statements (.start info ⟨d, []⟩)).1
        <$> askStore save (walk db.watched statements (.start info ⟨d, []⟩)).2.pending := by
  unfold observe execute
  obtain ⟨signal, s⟩ := walk db.watched statements (.start info ⟨d, []⟩)
  cases hp : s.pending with
  | none => simp [hp, askStore, Session.observed]
  | some version =>
      simp [hp, askStore, Session.observed, watchedSave]

/-- A watched run whose store answers without other effects. -/
theorem observe_run (db : Database σ) (save : UInt32 → StateM τ (Except String Unit))
    (statements : List Statement) (info : VersionInfo) (d : σ) (t : τ) :
    (observe db save statements info d).run t =
      let (signal, s) := walk db.watched statements (.start info ⟨d, []⟩)
      match s.pending with
      | none => (s.observed info signal none, t)
      | some v =>
        let (answer, t) := (save v).run t
        (s.observed info signal (some (v, answer)), t) := by
  rw [observe_eq]
  rcases walk db.watched statements (.start info ⟨d, []⟩) with ⟨signal, s⟩
  dsimp only
  cases s.pending with
  | none => rfl
  | some v => rfl

/-- Watching changes nothing: a watched run returns and leaves what the plain run does. -/
theorem observe_faithful [LawfulMonad m] (db : Database σ)
    (save : UInt32 → m (Except String Unit)) (statements : List Statement) (info : VersionInfo)
    (d : σ) :
    Observed.toOutcome <$> observe db save statements info d
      = execute db save statements info d := by
  have hwalk := walk_hom db.watched_hom statements (.start info ⟨d, []⟩)
  rw [show (Session.start info (⟨d, []⟩ : Watched σ)).mapDatabase Watched.state
    = .start info d from rfl] at hwalk
  rw [observe_eq]
  unfold execute
  rw [hwalk]
  obtain ⟨signal, s⟩ := walk db.watched statements (.start info ⟨d, []⟩)
  cases hp : s.pending with
  | none => simp [Session.mapDatabase, hp, askStore, Session.observed]; rfl
  | some version => simp [Session.mapDatabase, hp, askStore, Session.observed]; rfl

end Run

end MigrationScript
