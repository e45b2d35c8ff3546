import MigrationScript.Proofs.Run.Gate
import MigrationScript.Proofs.StateFile
import MigrationScript.Script

/-!
# A gated migration through a state file

Between two runs the version may live in a file only, which each run opens anew. Whether a migration
is applied again then rests on what the file remembers. A save that succeeds seals the version
in the file, and no later run breaks the seal: a greater version may take its place, and a write that
breaks off leaves a file that nobody can load. So every later run of the migration is turned away by
its gate, or does not start (`Barred`).
-/

namespace MigrationScript.Run

open StateFile (Holds Sealed Whole)

variable {σ τ ω : Type} {v : Version}

/-- A run that opens the state file anew. -/
structure Job (σ ω : Type) where
  statements : List Statement
  /-- The application that the state is for if there is no file. -/
  app : Text
  /-- The application that the run is for, given that of the state. -/
  target : Text → Text
  database : Database σ
  /-- The database when the run begins. -/
  found : σ
  /-- What happens to everything else before the run begins. -/
  meanwhile : ω → ω

/-- The run asked for a version to be saved, and it was not. -/
def SaveFailed (outcome : Except LoadError (Observed σ)) : Prop :=
  ∃ o version message, outcome = .ok o ∧ (version, Except.error message) ∈ o.saves

/-- What comes of a gated script once its version is saved. `spoiled` says that a save failed. -/
inductive Barred (v : Version) (spoiled : Prop) : Except LoadError (Observed σ) → Prop where
  /-- The gate refuses the script. -/
  | refused (found : VersionInfo) (o : Observed σ) (h : Refused v found o) :
      Barred v spoiled (.ok o)
  /-- The state file cannot be read, and nothing is run. -/
  | unread (fault : FileFault) : Barred v spoiled (.error (.file fault))
  /-- The state file has broken off, and nothing is run. -/
  | torn (fault : Json.Fault) (h : spoiled) : Barred v spoiled (.error (.record fault))

variable [FileSystem (StateM ω)]

/-- Opens the state file and runs the statements on what it holds. -/
def Job.run (path : Text) (job : Job σ ω) : StateM ω (Except LoadError (Observed σ)) := do
  match ← StateFile.load path job.app with
  | .error e => return .error e
  | .ok state =>
    let info := { state.info with app := job.target state.info.app }
    let observed ← observe job.database state.saver job.statements info job.found
    return .ok observed

/-- Jobs one after another, each with what came of it. -/
def reopenings (path : Text) : List (Job σ ω) → ω → List (Job σ ω × Except LoadError (Observed σ))
  | [], _ => []
  | job :: rest, w =>
    (job, ((job.run path).run (job.meanwhile w)).1) ::
      reopenings path rest ((job.run path).run (job.meanwhile w)).2

/-! ## One run on a state that was loaded -/

variable {path : Text} {content : ω → Option (List UInt8)} {version : UInt32}

/-- What a run leaves in the file if it found a version at or above a floor. -/
theorem observe_holds {state : StateFile} (hlasts : FileSystem.Lasts state.path content)
    (db : Database σ) (script : List Statement) (info : VersionInfo) (d : σ)
    (hfloor : version ≤ info.version) {w w' : ω} {o : Observed σ}
    (hrun : (observe db state.saver script info d).run w = (o, w')) :
    (Holds content (Sealed version) w → Holds content (Sealed version) w') ∧
      (Holds content (Whole version) w →
        SaveFailed (.ok o) ∨ Holds content (Whole version) w') := by
  have hpending := lt_of_pending db.watched script info ⟨d, []⟩
  rw [observe_run] at hrun
  generalize walk db.watched script (.start info ⟨d, []⟩) = walked at hpending hrun
  obtain ⟨signal, s⟩ := walked
  dsimp only at hpending hrun
  cases hp : s.pending with
  | none =>
      -- nothing is saved, so the file stays as it was
      simp only [hp] at hrun
      obtain rfl := (Prod.mk.inj hrun).2
      exact ⟨id, .inr⟩
  | some u =>
      -- a saved version is greater than the one found, so it seals the floor too
      have hle : version ≤ u := UInt32.le_of_lt (UInt32.lt_of_le_of_lt hfloor (hpending u hp))
      have hkeeps := (StateFile.saver_seals hlasts hle).keeps w
      have hsucceeds := (StateFile.saver_seals hlasts hle).succeeds w
      simp only [hp] at hrun
      generalize (state.saver u : StateM ω _).run w = asked at hkeeps hsucceeds hrun
      obtain ⟨answer, w₁⟩ := asked
      obtain ⟨rfl, rfl⟩ := Prod.mk.inj hrun
      refine ⟨hkeeps, fun _ => ?_⟩
      cases answer with
      | ok done => exact .inr (hsucceeds rfl)
      | error message => exact .inl ⟨_, u, message, rfl, by simp [Session.observed]⟩

/-- A gated script whose save succeeded leaves its version in the file, or a later one. -/
theorem observe_saved {state : StateFile} (hlasts : FileSystem.Lasts state.path content)
    (db : Database σ) {script : List Statement} (hscript : GatedAt v script) (info : VersionInfo)
    (d : σ) {w w' : ω} {o : Observed σ}
    (hrun : (observe db state.saver script info d).run w = (o, w')) (hsaved : o.Saved) :
    Holds content (Whole v.encode) w' := by
  have hpending := walk_pending db.watched hscript info ⟨d, []⟩
  rw [observe_run] at hrun
  generalize walk db.watched script (.start info ⟨d, []⟩) = walked at hpending hrun
  obtain ⟨signal, s⟩ := walked
  dsimp only at hpending hrun
  obtain ⟨u', hu'⟩ := hsaved
  cases hp : s.pending with
  | none =>
      simp only [hp] at hrun
      obtain rfl := (Prod.mk.inj hrun).1
      cases hu'
  | some u =>
      have hsucceeds := (StateFile.saver_seals hlasts (hpending u hp)).succeeds w
      simp only [hp] at hrun
      generalize (state.saver u : StateM ω _).run w = asked at hsucceeds hrun
      obtain ⟨answer, w₁⟩ := asked
      obtain ⟨rfl, rfl⟩ := Prod.mk.inj hrun
      obtain ⟨rfl, rfl⟩ : u' = u ∧ Except.ok () = answer := by
        simpa [Session.observed] using hu'
      exact hsucceeds rfl

/-! ## One job -/

/-- A job either cannot load the state, or runs on a state that it has loaded. -/
theorem job_run (path : Text) (job : Job σ ω) (w : ω) :
    (job.run path).run w =
      match (StateFile.load path job.app : StateM ω _).run w with
      | (.error e, w) => (.error e, w)
      | (.ok state, w) =>
        let (o, w) := (observe job.database state.saver job.statements
          { state.info with app := job.target state.info.app } job.found).run w
        (.ok o, w) := by
  unfold Job.run
  rw [StateFile.run_bind]
  rcases (StateFile.load path job.app : StateM ω _).run w with ⟨loaded, w'⟩
  cases loaded with
  | error e => rfl
  | ok state => rfl

/-- What a job leaves in a file that holds a version as a floor. -/
theorem job_holds (hlasts : FileSystem.Lasts path content) (job : Job σ ω) {w : ω}
    (h : Holds content (Sealed version) w) :
    Holds content (Sealed version) ((job.run path).run w).2 ∧
      (Holds content (Whole version) w →
        SaveFailed ((job.run path).run w).1 ∨
          Holds content (Whole version) ((job.run path).run w).2) := by
  obtain ⟨bytes, hbytes, hsealed⟩ := h
  have hthere := (StateFile.load_there hlasts hbytes job.app).1
  have hfloor : ∀ state, ((StateFile.load path job.app : StateM ω _).run w).1 = .ok state →
      version ≤ state.info.version := fun _ =>
    StateFile.load_sealed hlasts ⟨bytes, hbytes, hsealed⟩
  rw [job_run]
  generalize hload : (StateFile.load path job.app : StateM ω _).run w = loading at hthere hfloor ⊢
  obtain ⟨loaded, w₁⟩ := loading
  have hafter : Holds content (Sealed version) w₁ := ⟨bytes, hthere, hsealed⟩
  have hwhole : Holds content (Whole version) w → Holds content (Whole version) w₁ := by
    rintro ⟨bytes', hbytes', h⟩
    rw [hbytes] at hbytes'
    obtain rfl := Option.some.inj hbytes'
    exact ⟨bytes, hthere, h⟩
  cases loaded with
  | error e => exact ⟨hafter, fun h => .inr (hwhole h)⟩
  | ok state =>
      have hpath : state.path = path := StateFile.load_path (congrArg Prod.fst hload)
      have hholds := observe_holds (hpath ▸ hlasts) job.database job.statements
        { state.info with app := job.target state.info.app } job.found (hfloor state rfl)
        (w := w₁) rfl
      exact ⟨hholds.1 hafter, fun h => hholds.2 (hwhole h)⟩

theorem job_saved (hlasts : FileSystem.Lasts path content) (job : Job σ ω)
    (hscript : GatedAt v job.statements) {w : ω} {o : Observed σ}
    (hrun : ((job.run path).run w).1 = .ok o) (hsaved : o.Saved) :
    Holds content (Whole v.encode) ((job.run path).run w).2 := by
  rw [job_run] at hrun ⊢
  generalize hload : (StateFile.load path job.app : StateM ω _).run w = loading at hrun ⊢
  obtain ⟨loaded, w₁⟩ := loading
  cases loaded with
  | error e => cases hrun
  | ok state =>
      have hpath : state.path = path := StateFile.load_path (congrArg Prod.fst hload)
      obtain rfl := Except.ok.inj hrun
      exact observe_saved (hpath ▸ hlasts) job.database hscript _ _ rfl hsaved

/-- A job that finds the version of its gate in the file, or a later one, is barred. -/
theorem job_barred (hlasts : FileSystem.Lasts path content) (job : Job σ ω)
    (hscript : GatedAt v job.statements) {spoiled : Prop} {w : ω}
    (h : Holds content (Sealed v.encode) w) (hwhole : spoiled ∨ Holds content (Whole v.encode) w) :
    Barred v spoiled ((job.run path).run w).1 := by
  have hfloor : ∀ state, ((StateFile.load path job.app : StateM ω _).run w).1 = .ok state →
      v.encode ≤ state.info.version := fun _ => StateFile.load_sealed hlasts h
  have hload : spoiled ∨ _ := hwhole.imp_right fun h => StateFile.load_whole hlasts h job.app
  rw [job_run]
  generalize (StateFile.load path job.app : StateM ω _).run w = loading at hfloor hload ⊢
  obtain ⟨loaded, w₁⟩ := loading
  match loaded with
  | .error (.file fault) => exact .unread fault
  | .error (.record fault) =>
      rcases hload with hspoiled | ⟨fault', hf⟩ | ⟨state, hs⟩
      · exact .torn fault hspoiled
      · cases hf
      · cases hs
  | .ok state =>
      obtain ⟨o, ho, hobserve⟩ := observe_refused job.database
        (state.saver : UInt32 → StateM ω (Except String Unit)) hscript
        { state.info with app := job.target state.info.app } (hfloor state rfl) job.found
      dsimp only
      rw [hobserve]
      exact .refused _ o ho

/-! ## Any number of jobs -/

theorem barred_of_holds (hlasts : FileSystem.Lasts path content) {spoiled : Prop}
    {jobs : List (Job σ ω)}
    (hmeanwhile : ∀ job ∈ jobs, ∀ w, content (job.meanwhile w) = content w) {w : ω}
    (h : Holds content (Sealed v.encode) w) (hwhole : spoiled ∨ Holds content (Whole v.encode) w)
    (hspoiled : ∀ r ∈ reopenings path jobs w, SaveFailed r.2 → spoiled) :
    ∀ later ∈ reopenings path jobs w, GatedAt v later.1.statements →
      Barred v spoiled later.2 := by
  induction jobs generalizing w with
  | nil => simp [reopenings]
  | cons job rest ih =>
      have hcontent := hmeanwhile job List.mem_cons_self w
      have hbefore : Holds content (Sealed v.encode) (job.meanwhile w) := by
        unfold Holds
        rwa [hcontent]
      have hbefore' : spoiled ∨ Holds content (Whole v.encode) (job.meanwhile w) := by
        unfold Holds
        rwa [hcontent]
      have hafter := job_holds hlasts job hbefore
      have hfailed := hspoiled _ List.mem_cons_self
      -- the file is whole after the job, unless a save failed in it or before it
      have hafter' : spoiled ∨
          Holds content (Whole v.encode) ((job.run path).run (job.meanwhile w)).2 := by
        rcases hbefore' with hs | hw
        · exact .inl hs
        · rcases hafter.2 hw with hf | hw'
          · exact .inl (hfailed hf)
          · exact .inr hw'
      intro later hlater hscript
      rcases List.mem_cons.mp hlater with rfl | hlater
      · exact job_barred hlasts job hscript hbefore hbefore'
      · exact ih (fun j hj => hmeanwhile j (List.mem_cons_of_mem _ hj)) hafter.1 hafter'
          (fun r hr => hspoiled r (List.mem_cons_of_mem _ hr)) later hlater hscript

theorem reopenings_gated (hlasts : FileSystem.Lasts path content) (v : Version) {spoiled : Prop}
    {jobs : List (Job σ ω)}
    (hmeanwhile : ∀ job ∈ jobs, ∀ w, content (job.meanwhile w) = content w) {w : ω}
    (hspoiled : ∀ r ∈ reopenings path jobs w, SaveFailed r.2 → spoiled) :
    (reopenings path jobs w).Pairwise fun earlier later =>
      GatedAt v earlier.1.statements → (∃ o, earlier.2 = .ok o ∧ o.Saved) →
        GatedAt v later.1.statements → Barred v spoiled later.2 := by
  induction jobs generalizing w with
  | nil => exact .nil
  | cons job rest ih =>
      have hrest : ∀ j ∈ rest, ∀ w, content (j.meanwhile w) = content w :=
        fun j hj => hmeanwhile j (List.mem_cons_of_mem _ hj)
      have hspoiled' : ∀ r ∈ reopenings path rest ((job.run path).run (job.meanwhile w)).2,
          SaveFailed r.2 → spoiled := fun r hr => hspoiled r (List.mem_cons_of_mem _ hr)
      refine List.Pairwise.cons ?_ (ih hrest hspoiled')
      rintro later hlater hscript ⟨o, ho, hsaved⟩ hgated
      obtain ⟨bytes, hbytes, hwhole⟩ := job_saved hlasts job hscript ho hsaved
      exact barred_of_holds hlasts hrest ⟨bytes, hbytes, hwhole.sealed⟩
        (.inr ⟨bytes, hbytes, hwhole⟩) hspoiled' later hlater hgated

/--
**A gated migration is applied at most once.**

Over the runs of one engine, once the version of a gated migration is saved, however its run ended,
every later run of a migration with that gate is refused. Over runs that each open the state file
anew, every later run is barred: refused too, unless the file cannot be read, or has broken off in a
save that failed.
-/
theorem gated_migration_once (db : Database σ) (store : VersionStore τ) (v : Version)
    (scripts : List (List Statement)) (e : Engine σ τ) (hlasts : FileSystem.Lasts path content)
    (jobs : List (Job σ ω))
    (hmeanwhile : ∀ job ∈ jobs, ∀ w, content (job.meanwhile w) = content w) (w : ω) :
    ((history db store scripts e).Pairwise fun earlier later =>
      GatedAt v earlier.statements → earlier.observed.Saved → GatedAt v later.statements →
        Refused v later.before.info later.observed) ∧
    ((reopenings path jobs w).Pairwise fun earlier later =>
      GatedAt v earlier.1.statements → (∃ o, earlier.2 = .ok o ∧ o.Saved) →
        GatedAt v later.1.statements →
          Barred v (∃ r ∈ reopenings path jobs w, SaveFailed r.2) later.2) :=
  ⟨history_gated db store v scripts e,
    reopenings_gated hlasts v hmeanwhile fun r hr hf => ⟨r, hr, hf⟩⟩

/-- The statements of a migration to version 0.01. -/
def firstMigration : List Statement :=
  [{ symbol := .dbuVersion, key := "$dbu_version".toList
     fields := [⟨">".toList, .greater⟩, ⟨"0.01".toList, .plain⟩]
     slots := [["$dbu_version > 0.01".toList]], line := 1 },
   { symbol := .lastDbu, key := "$lastdbu".toList, fields := [⟨"0.01".toList, .plain⟩]
     slots := [["$lastdbu 0.01".toList]], line := 2 },
   { symbol := .sql, key := "sql".toList, fields := []
     slots := [["drop table a".toList]], line := 3 }]

example : Script.parse "$dbu_version > 0.01\n$lastdbu 0.01\ndrop table a&&".toList
    = .ok firstMigration := by cbv

/-- A run of the first migration on an empty database, with nothing done to the file before it. -/
def firstJob : Job Unit FileTree :=
  ⟨firstMigration, "shop".toList, id, .willing fun _ _ => false, (), id⟩

theorem firstJob_saved :
    ∃ o, ((firstJob.run "state.json".toList).run FileTree.empty).1 = .ok o ∧ o.Saved := by
  have hsaves : ((firstJob.run "state.json".toList).run FileTree.empty).1.toOption.map
      Observed.saves = some [(1, .ok ())] := by rfl
  generalize ((firstJob.run "state.json".toList).run FileTree.empty).1 = outcome at hsaves ⊢
  cases outcome with
  | error e => cases hsaves
  | ok o =>
      refine ⟨o, rfl, 1, ?_⟩
      rw [Option.some.inj hsaves]
      exact List.mem_singleton_self _

/-- The first migration twice, in an engine and through a file in an empty tree: the first run is
saved in both, and the second does nothing. -/
theorem gated_migration_twice :
    let db := Database.willing fun _ _ => false
    let store : VersionStore Unit := ⟨fun _ => pure (.ok ())⟩
    let jobs := reopenings "state.json".toList [firstJob, firstJob] FileTree.empty
    GatedAt ⟨0, 1⟩ firstMigration
      ∧ (∃ first second, history db store [firstMigration, firstMigration] ⟨{}, (), ()⟩
          = [first, second] ∧ first.observed.Saved
          ∧ Refused ⟨0, 1⟩ second.before.info second.observed)
      ∧ ∃ first second, jobs = [first, second] ∧ (∃ o, first.2 = .ok o ∧ o.Saved)
          ∧ Barred ⟨0, 1⟩ (∃ r ∈ jobs, SaveFailed r.2) second.2 := by
  intro db store jobs
  have hgated : GatedAt ⟨0, 1⟩ firstMigration :=
    ⟨"0.01".toList, _, by decide, by decide, rfl, by decide⟩
  have hmeanwhile : ∀ j ∈ [firstJob, firstJob], ∀ w,
      FileTree.content "state.json".toList (j.meanwhile w)
        = FileTree.content "state.json".toList w := by
    intro j hj w
    have hj' : j = firstJob := by simpa using hj
    rw [hj']
    rfl
  have hboth := gated_migration_once db store ⟨0, 1⟩ [firstMigration, firstMigration] ⟨{}, (), ()⟩
    (FileTree.lasts "state.json".toList) [firstJob, firstJob] hmeanwhile FileTree.empty
  have hfirst : (Engine.episode db store firstMigration ⟨{}, (), ()⟩).observed.Saved := by
    have hsaves : (Engine.episode db store firstMigration ⟨{}, (), ()⟩).observed.saves
        = [(1, .ok ())] := by rfl
    refine ⟨1, ?_⟩
    rw [hsaves]
    exact List.mem_singleton_self _
  refine ⟨hgated, ⟨_, _, rfl, hfirst, ?_⟩, ⟨_, _, rfl, firstJob_saved, ?_⟩⟩
  · exact List.pairwise_pair.mp hboth.1 hgated hfirst hgated
  · exact List.pairwise_pair.mp hboth.2 hgated firstJob_saved hgated

end MigrationScript.Run
