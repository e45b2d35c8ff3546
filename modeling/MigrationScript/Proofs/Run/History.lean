import MigrationScript.Proofs.Run.Ledger

/-!
# The version over a history of runs

An engine runs one script after another, and each run sees the version that the one before it left.
Each run keeps the books (`Run.Bookkeeping`): the store is asked at most once, for the greatest
version accepted, and what it answers decides which version stays. Over a history the version then
never goes down, and every version that the store keeps is greater than those it kept before.
-/

namespace MigrationScript.Run

variable {σ τ : Type}

/-- A run of an engine, with what it found. -/
structure Episode (σ τ : Type) where
  /-- The statements of the script. -/
  statements : List Statement
  /-- The engine as the run found it. -/
  before : Engine σ τ
  /-- What the run returned, what it left, and every call that it made. -/
  observed : Observed σ
  /-- What the run left of the store. -/
  store : τ

namespace Episode

/-- The engine that a run left. -/
def after (ep : Episode σ τ) : Engine σ τ :=
  ⟨ep.observed.info, ep.observed.database, ep.store⟩

/-- The versions that the store kept. -/
def kept (ep : Episode σ τ) : List UInt32 :=
  ep.observed.saves.filterMap fun save =>
    match save with
    | (version, .ok ()) => some version
    | _ => none

end Episode

/-- Runs statements on an engine, and writes down what happens. -/
def Engine.episode (db : Database σ) (store : VersionStore τ) (statements : List Statement)
    (e : Engine σ τ) : Episode σ τ :=
  let (observed, kept) := (observe db store.save statements e.info e.database).run e.store
  ⟨statements, e, observed, kept⟩

/-- An episode is a run of the engine. -/
theorem episode_faithful (db : Database σ) (store : VersionStore τ) (statements : List Statement)
    (e : Engine σ τ) :
    ((e.episode db store statements).observed.result, (e.episode db store statements).after)
      = Engine.execute db store statements e := by
  unfold Engine.execute
  rw [← observe_faithful]
  rfl

/-- The runs of an engine on scripts, one after another. -/
def history (db : Database σ) (store : VersionStore τ) :
    List (List Statement) → Engine σ τ → List (Episode σ τ)
  | [], _ => []
  | script :: rest, e =>
    e.episode db store script :: history db store rest (e.episode db store script).after

/-! ## One run -/

/-- The statements that a run deals with. -/
def Episode.processed (db : Database σ) (ep : Episode σ τ) : List Processed :=
  Run.processed db ep.statements (.start ep.before.info ep.before.database)

/-- **What a run does for the version**, however its walk ends. -/
structure Bookkeeping (db : Database σ) (ep : Episode σ τ) : Prop where
  /-- The store is asked at most once. -/
  once : ep.observed.saves.length ≤ 1
  /-- It is asked when the walk is over: the database has met the same, whatever the store. -/
  last : ∀ {ρ : Type} (store : VersionStore ρ) (r : ρ),
    let other := Engine.episode db store ep.statements ⟨ep.before.info, ep.before.database, r⟩
    other.observed.calls = ep.observed.calls ∧ other.observed.database = ep.observed.database
  /-- It is asked if some statement declared a version greater than the one it met, and only then. -/
  asked_iff : ep.observed.saves ≠ [] ↔ ∃ p ∈ ep.processed db, p.Raises
  /-- It is asked for the greatest version accepted, which is greater than the one before the run. -/
  greatest : ∀ save ∈ ep.observed.saves, save.1 ∈ accepted (ep.processed db)
    ∧ (∀ v ∈ accepted (ep.processed db), v ≤ save.1) ∧ ep.before.info.version < save.1
  /-- The version that the store keeps stays; if it keeps none, the one before the run does. -/
  settled : ep.observed.info.version = ep.kept.getLastD ep.before.info.version
  /-- The application and the change are those before the run. -/
  app : ep.observed.info.app = ep.before.info.app
  change : ep.observed.info.change = ep.before.info.change

/-- A watched walk meets and leaves the same versions as the plain one. -/
theorem processed_hom {ρ : Type} {db : Database σ} {db' : Database ρ} {f : σ → ρ}
    (h : db.Hom db' f) (statements : List Statement) (s : Session σ) :
    processed db' statements (s.mapDatabase f) = processed db statements s := by
  induction statements generalizing s with
  | nil => rfl
  | cons statement rest ih =>
      rw [processed, processed, step_hom h]
      rcases step db statement s with ⟨signal, s'⟩
      cases signal with
      | next => exact congrArg (List.cons _) (ih s')
      | halt => rfl
      | fail _ => rfl

/-- The watched walk of a run. -/
def Engine.walked (db : Database σ) (statements : List Statement) (e : Engine σ τ) :
    Signal × Session (Watched σ) :=
  walk db.watched statements (.start e.info ⟨e.database, []⟩)

/-- **A run is its walk, and then one question to the store if the walk left a version to be
saved.** -/
theorem episode_eq (db : Database σ) (store : VersionStore τ) (statements : List Statement)
    (e : Engine σ τ) :
    e.episode db store statements =
      let (signal, s) := e.walked db statements
      match s.pending with
      | none => ⟨statements, e, s.observed e.info signal none, e.store⟩
      | some v =>
        let (answer, kept) := (store.save v).run e.store
        ⟨statements, e, s.observed e.info signal (some (v, answer)), kept⟩ := by
  unfold Engine.episode
  rw [observe_run]
  change _ = let (signal, s) := walk db.watched statements (.start e.info ⟨e.database, []⟩); _
  rcases walk db.watched statements (.start e.info ⟨e.database, []⟩) with ⟨signal, s⟩
  dsimp only
  cases s.pending with
  | none => rfl
  | some v => rfl

theorem walk_single (db : Database σ) (s : Statement) (session : Session σ) :
    walk db [s] session = step db s session := by
  unfold walk
  obtain ⟨signal, session'⟩ := step db s session
  cases signal <;> rfl

/-- What the database meets in a run is settled by the walk. -/
theorem episode_calls (db : Database σ) (store : VersionStore τ) (statements : List Statement)
    (e : Engine σ τ) :
    (e.episode db store statements).observed.calls = (e.walked db statements).2.database.calls ∧
      (e.episode db store statements).observed.database
        = (e.walked db statements).2.database.state := by
  rw [episode_eq]
  generalize e.walked db statements = w
  obtain ⟨signal, s⟩ := w
  dsimp only
  cases s.pending with
  | none => exact ⟨rfl, rfl⟩
  | some v => exact ⟨rfl, rfl⟩

/-- **Every run keeps the books.** -/
theorem episode_bookkeeping (db : Database σ) (store : VersionStore τ)
    (statements : List Statement) (e : Engine σ τ) :
    Bookkeeping db (e.episode db store statements) := by
  have hwatch : processed db statements (.start e.info e.database)
      = processed db.watched statements (.start e.info ⟨e.database, []⟩) :=
    processed_hom db.watched_hom statements (.start e.info ⟨e.database, []⟩)
  -- watching the database does not change the books
  have hledger : (e.walked db statements).2.Ledger e.info
      (processed db statements (.start e.info e.database)) := by
    rw [hwatch]
    exact ledger_walk db.watched statements (ledger_start e.info _)
  have hcalls := episode_calls db store statements e
  have hlast : ∀ {ρ : Type} (store' : VersionStore ρ) (r : ρ),
      let other := Engine.episode db store' statements ⟨e.info, e.database, r⟩
      other.observed.calls = (e.episode db store statements).observed.calls ∧
        other.observed.database = (e.episode db store statements).observed.database := by
    intro ρ store' r
    rw [hcalls.1, hcalls.2]
    exact episode_calls db store' statements ⟨e.info, e.database, r⟩
  rw [episode_eq] at hlast ⊢
  generalize e.walked db statements = w at hledger hlast ⊢
  obtain ⟨signal, s⟩ := w
  cases hp : s.pending with
  | none =>
      -- no statement raised the version, and the store is not asked
      simp only [hp] at hlast ⊢
      obtain ⟨hversion, hno⟩ := hledger.idle hp
      refine ⟨by simp [Session.observed], hlast, ?_, ?_, rfl, hledger.app, hledger.change⟩
      · refine ⟨fun h => absurd rfl h, ?_⟩
        rintro ⟨p, hps, hraises⟩
        exact absurd hraises (hno p hps)
      · intro save hsave
        simp [Session.observed] at hsave
  | some v =>
      -- the store is asked for the current version of the walk, the greatest that was accepted
      simp only [hp] at hlast ⊢
      obtain ⟨hversion, hlt, hmem, hraised⟩ := hledger.raised v hp
      generalize (store.save v).run e.store = asked at hlast ⊢
      obtain ⟨answer, kept⟩ := asked
      refine ⟨by simp [Session.observed], hlast, ?_, ?_, ?_, hledger.app, hledger.change⟩
      · exact ⟨fun _ => hraised, fun _ => by simp [Session.observed]⟩
      · intro save hsave
        obtain rfl : save = (v, answer) := by simpa [Session.observed] using hsave
        refine ⟨hmem, fun w hw => ?_, hlt⟩
        have := hledger.greatest w hw
        rwa [hversion] at this
      · cases answer <;> rfl

/-! ## Any number of runs -/

theorem mem_history {db : Database σ} {store : VersionStore τ} {scripts : List (List Statement)}
    {e : Engine σ τ} {ep : Episode σ τ} (h : ep ∈ history db store scripts e) :
    ∃ e' : Engine σ τ, ep = e'.episode db store ep.statements := by
  induction scripts generalizing e with
  | nil => simp [history] at h
  | cons script rest ih =>
      rcases List.mem_cons.mp h with rfl | h
      · exact ⟨e, rfl⟩
      · exact ih h

/-- A run leaves a version that is no smaller, and greater if the store kept one. -/
theorem bookkeeping_version {db : Database σ} {ep : Episode σ τ} (h : Bookkeeping db ep) :
    (ep.kept = [] ∧ ep.observed.info.version = ep.before.info.version) ∨
      ∃ v, ep.kept = [v] ∧ ep.observed.info.version = v ∧ ep.before.info.version < v := by
  have hsettled := h.settled
  have honce := h.once
  unfold Episode.kept at hsettled ⊢
  match hs : ep.observed.saves with
  | [] => exact .inl ⟨rfl, by rw [hsettled, hs]; rfl⟩
  | [(v, .ok ())] =>
      refine .inr ⟨v, rfl, by rw [hsettled, hs]; rfl, ?_⟩
      exact (h.greatest (v, .ok ()) (by simp [hs])).2.2
  | [(v, .error _)] => exact .inl ⟨rfl, by rw [hsettled, hs]; rfl⟩
  | _ :: _ :: _ => rw [hs] at honce; simp at honce

/-- No run leaves a version that is lower than the one it found. -/
theorem version_le_after (db : Database σ) (store : VersionStore τ) (script : List Statement)
    (e : Engine σ τ) : e.info.version ≤ (e.episode db store script).after.info.version := by
  rcases bookkeeping_version (episode_bookkeeping db store script e) with ⟨-, hv⟩ | ⟨u, -, hv, hlt⟩
  · exact hv ▸ UInt32.le_refl _
  · exact hv ▸ UInt32.le_of_lt hlt

/-- The versions that an engine has at the end of each run. -/
def versions (eps : List (Episode σ τ)) : List UInt32 := eps.map fun ep => ep.observed.info.version

/-- The versions that the store kept, over all runs. -/
def keptVersions (eps : List (Episode σ τ)) : List UInt32 := eps.flatMap Episode.kept

theorem versions_sorted (db : Database σ) (store : VersionStore τ)
    (scripts : List (List Statement)) (e : Engine σ τ) :
    (e.info.version :: versions (history db store scripts e)).Pairwise (· ≤ ·) := by
  induction scripts generalizing e with
  | nil => simp [history, versions]
  | cons script rest ih =>
      have hrest := ih (e.episode db store script).after
      have hle := version_le_after db store script e
      refine List.pairwise_cons.mpr ⟨?_, hrest⟩
      intro v hv
      rcases List.mem_cons.mp hv with rfl | hv
      · exact hle
      · exact UInt32.le_trans hle ((List.pairwise_cons.mp hrest).1 v hv)

theorem keptVersions_sorted (db : Database σ) (store : VersionStore τ)
    (scripts : List (List Statement)) (e : Engine σ τ) :
    (e.info.version :: keptVersions (history db store scripts e)).Pairwise (· < ·) := by
  induction scripts generalizing e with
  | nil => simp [history, keptVersions]
  | cons script rest ih =>
      have hrest := ih (e.episode db store script).after
      rw [history, keptVersions, List.flatMap_cons]
      rcases bookkeeping_version (episode_bookkeeping db store script e) with
        ⟨hkept, hv⟩ | ⟨v, hkept, hv, hlt⟩
      · rw [hkept, List.nil_append]
        rwa [show (e.episode db store script).after.info.version = e.info.version from hv] at hrest
      · rw [hkept, List.singleton_append]
        rw [show (e.episode db store script).after.info.version = v from hv] at hrest
        refine List.pairwise_cons.mpr ⟨?_, hrest⟩
        intro w hw
        rcases List.mem_cons.mp hw with rfl | hw
        · exact hlt
        · exact UInt32.lt_trans hlt ((List.pairwise_cons.mp hrest).1 w hw)

/--
**The version over any history of runs.**

Every run keeps the books, whatever the scripts, the database and the store do. So the version never
goes down, and the versions that the store kept go up strictly, from the one before the first run.
-/
theorem version_history (db : Database σ) (store : VersionStore τ)
    (scripts : List (List Statement)) (e : Engine σ τ) :
    (∀ ep ∈ history db store scripts e, Bookkeeping db ep)
      ∧ (e.info.version :: versions (history db store scripts e)).Pairwise (· ≤ ·)
      ∧ (e.info.version :: keptVersions (history db store scripts e)).Pairwise (· < ·) := by
  refine ⟨?_, versions_sorted db store scripts e, keptVersions_sorted db store scripts e⟩
  intro ep hep
  obtain ⟨e', he'⟩ := mem_history hep
  rw [he']
  exact episode_bookkeeping db store ep.statements e'

end MigrationScript.Run
