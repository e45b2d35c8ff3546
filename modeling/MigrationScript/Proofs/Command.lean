import MigrationScript.Command
import MigrationScript.Proofs.Reloading
import MigrationScript.Proofs.Run.Application
import MigrationScript.Proofs.Run.Gate

/-!
# The application of a run from the command line

A script that is run from the command line is compared with one application (`compares_walk`), and a
version that it saves goes to a state file that records one. Where there is a state file already,
they may differ on purpose. A new state file records the application of the configuration, although
the command line may have named another one, and then a later run that is not told of it compares
with the recorded one (`new_state_records`).
-/

namespace MigrationScript

open FileSystem (Looks looks_pure looks_bind)

namespace Run

variable {σ : Type}

/-! ## What a walk compares applications with -/

/-- Statements that ask for an application are compared with this one: they go on if they ask for
it, and fail if they ask for another. -/
def ComparesWith (app : Text) (ps : List Processed) : Prop :=
  ∀ p ∈ ps, ∀ asked, p.statement.role = .checkApplication ⟨.equal, asked⟩ →
    p.signal = if asked = app then .next else .fail (.wrongApplication app asked)

theorem step_app (db : Database σ) (statement : Statement) (s : Session σ) :
    (step db statement s).2.info.app = s.info.app := by
  rcases step_books db statement s with ⟨v, -, -, hstep⟩ | ⟨hsame, -⟩
  · rw [hstep]
    rfl
  · exact hsame.app

theorem step_compares (db : Database σ) {statement : Statement} {asked : Text}
    (h : statement.role = .checkApplication ⟨.equal, asked⟩) (s : Session σ) :
    (step db statement s).1
      = if asked = s.info.app then .next else .fail (.wrongApplication s.info.app asked) := by
  by_cases happ : asked = s.info.app
  · rw [step_passes db h happ.symm, if_pos happ]
    rfl
  · rw [step_refuses db h (Ne.symm happ), if_neg happ]

/-- **A walk compares with the application that it starts with.** -/
theorem compares_walk (db : Database σ) (statements : List Statement) (s : Session σ) :
    ComparesWith s.info.app (processed db statements s) := by
  induction statements generalizing s with
  | nil => exact fun p hp => nomatch hp
  | cons statement rest ih =>
      rw [processed]
      intro p hp asked hrole
      rcases List.mem_cons.mp hp with rfl | hp
      · exact step_compares db hrole s
      · have happ := step_app db statement s
        rcases hstep : step db statement s with ⟨signal, s'⟩
        rw [hstep] at hp happ
        cases signal with
        | next =>
            have hrest := ih s' p hp asked hrole
            rwa [show s'.info.app = s.info.app from happ] at hrest
        | halt => cases hp
        | fail cause => cases hp

/-! ## What fails because of an application -/

theorem executeSlots_fails {db : Database σ} {symbolOf : Slot → Symbol} {i : Nat}
    {slots : List Slot} {d : σ} {cause : Failure}
    (h : (executeSlots db symbolOf i slots d).1 = .fail cause) :
    ∃ message, cause = .executor message := by
  induction slots generalizing i d with
  | nil => cases h
  | cons slot rest ih =>
      rw [executeSlots] at h
      split at h
      · exact ih h
      · cases h
      · cases h
        exact ⟨_, rfl⟩

theorem executeCommands_fails {db : Database σ} {symbolOf : Slot → Symbol} {slots : List Slot}
    {s : Session σ} {cause : Failure}
    (h : (executeCommands db symbolOf slots s).1 = .fail cause) :
    ∃ message, cause = .executor message := by
  unfold executeCommands at h
  rcases hslots : executeSlots db symbolOf 0 slots s.database with ⟨signal, d⟩
  rw [hslots] at h
  cases signal with
  | next => cases h
  | halt => cases h
  | fail cause' =>
      cases h
      exact executeSlots_fails (congrArg Prod.fst hslots)

theorem executeGuarded_fails {db : Database σ} {object : Symbol} {name : Text} {negated : Bool}
    {symbolOf : Slot → Symbol} {slots : List Slot} {s : Session σ} {cause : Failure}
    (h : (executeGuarded db object name negated symbolOf slots s).1 = .fail cause) :
    cause = .badGuardObject object name ∨ ∃ message, cause = .executor message := by
  unfold executeGuarded at h
  split at h
  · cases h
    exact .inl rfl
  · dsimp only at h
    split at h
    · exact .inr (executeCommands_fails h)
    · cases h

theorem executeBlock_fails {db : Database σ} {lines : List Text} {s : Session σ} {cause : Failure}
    (h : (executeBlock db lines s).1 = .fail cause) : ∃ message, cause = .executor message := by
  unfold executeBlock at h
  split at h
  · split at h
    · cases h
    · cases h
      exact ⟨_, rfl⟩
  · cases h

variable {db : Database σ} {expected found : Text}

theorem afterCheck_fails {s : Session σ} {answer : Except Failure Unit} {cause : Failure}
    (h : (s.afterCheck answer).1 = .fail cause) : answer = .error cause := by
  cases answer with
  | ok _ => cases h
  | error cause' =>
      cases h
      rfl

/-- A check of the application fails with the application that it asks for. -/
theorem checkApplication_wrong {asked : Comparison} {directive : Text} {info : VersionInfo}
    (h : asked.checkApplication directive info = .error (.wrongApplication expected found)) :
    asked = ⟨.equal, found⟩ ∧ expected = info.app ∧ found ≠ info.app := by
  obtain ⟨operator, value⟩ := asked
  rw [Comparison.checkApplication] at h
  split at h
  · cases h
  split at h
  · rename_i hoperator happ
    cases h
    obtain rfl : operator = .equal := not_not.mp hoperator
    exact ⟨rfl, rfl, happ⟩
  · cases h

/-- What is wrong with a version is never the application. -/
theorem raisedVersion?_not_wrong (asked : Comparison) (info : VersionInfo) :
    asked.raisedVersion? info ≠ .error (.wrongApplication expected found) := by
  intro h
  cases hv : Version.parse? asked.value with
  | none =>
      rw [Comparison.raisedVersion?_of_bad hv] at h
      cases h
  | some v =>
      rw [Comparison.raisedVersion?_of_parse hv] at h
      split at h
      · cases h
      split at h
      · cases h
      · cases h

theorem checkVersion_not_wrong (asked : Comparison) (info : VersionInfo) :
    asked.checkVersion info ≠ .error (.wrongApplication expected found) := by
  intro h
  cases hv : Version.parse? asked.value with
  | none =>
      rw [Comparison.checkVersion, Comparison.version_of_bad hv] at h
      cases h
  | some v =>
      rw [Comparison.checkVersion_of_parse hv] at h
      split at h
      · cases h
      · cases h
      · cases h

/-- **Only a statement that asks for another application fails because of the application.** -/
theorem step_wrongApplication {statement : Statement} {s : Session σ}
    (h : (step db statement s).1 = .fail (.wrongApplication expected found)) :
    statement.role = .checkApplication ⟨.equal, found⟩ ∧ expected = s.info.app
      ∧ found ≠ s.info.app := by
  unfold step at h
  cases hrole : statement.role with
  | checkApplication asked =>
      rw [hrole] at h
      obtain ⟨rfl, hexpected, hfound⟩ := checkApplication_wrong (afterCheck_fails h)
      exact ⟨rfl, hexpected, hfound⟩
  | raiseVersion asked =>
      rw [hrole] at h
      dsimp only at h
      split at h
      · cases h
      · cases h
      · rename_i cause hraised
        cases h
        exact absurd hraised (raisedVersion?_not_wrong asked s.info)
  | checkVersion asked =>
      rw [hrole] at h
      exact absurd (afterCheck_fails h) (checkVersion_not_wrong asked s.info)
  | setShown shown =>
      rw [hrole] at h
      cases h
  | setHidden hidden =>
      rw [hrole] at h
      cases h
  -- what is handed to the database fails because of the database, or of the guard
  | guardedBlock guard =>
      rw [hrole] at h
      dsimp only at h
      split at h
      · cases h
      · rcases executeGuarded_fails h with hcause | ⟨message, hcause⟩ <;> cases hcause
  | guardedLine guard negated =>
      rw [hrole] at h
      rcases executeGuarded_fails h with hcause | ⟨message, hcause⟩ <;> cases hcause
  | verbatim =>
      rw [hrole] at h
      obtain ⟨message, hcause⟩ := executeBlock_fails h
      cases hcause
  | commands =>
      rw [hrole] at h
      obtain ⟨message, hcause⟩ := executeCommands_fails h
      cases hcause

theorem walk_wrongApplication {statements : List Statement} {s : Session σ}
    (h : (walk db statements s).1 = .fail (.wrongApplication expected found)) :
    expected = s.info.app ∧ found ≠ s.info.app
      ∧ ∃ st ∈ statements, st.role = .checkApplication ⟨.equal, found⟩ := by
  induction statements generalizing s with
  | nil => cases h
  | cons statement rest ih =>
      rw [walk] at h
      have happ := step_app db statement s
      rcases hstep : step db statement s with ⟨signal, s'⟩
      rw [hstep] at h happ
      cases signal with
      | next =>
          obtain ⟨hexpected, hfound, st, hst, hrole⟩ := ih h
          rw [show s'.info.app = s.info.app from happ] at hexpected hfound
          exact ⟨hexpected, hfound, st, List.mem_cons_of_mem _ hst, hrole⟩
      | halt => cases h
      | fail cause =>
          obtain rfl := Signal.fail.inj h
          obtain ⟨hrole, hexpected, hfound⟩ := step_wrongApplication (congrArg Prod.fst hstep)
          exact ⟨hexpected, hfound, statement, List.mem_cons_self, hrole⟩

end Run

/-! ## Running and watching -/

namespace Command

variable {ω : Type} [FileSystem (StateM ω)]

/-- A run that was started: what was run, on what, and what it did. -/
structure Trial where
  script : Script
  /-- The version information that the script is run on. -/
  info : VersionInfo
  catalog : Catalog
  observed : Run.Observed Console

/-- The statements that the run dealt with. -/
def Trial.processed (t : Trial) : List Run.Processed :=
  Run.processed (Console.database t.catalog) t.script.statements (.start t.info {})

/-- The report of a run that was started. -/
def Trial.report (t : Trial) : Report :=
  let printed := t.observed.database.sink.written
  match t.observed.result with
  | .ok count => { output := printed ++ (Report.lines [runSummary count]).output }
  | .error e => { output := printed, error := some (.run e) }

/-- The report of a run, which may not have been started. -/
def reportOf : Except CommandError Trial → Report
  | .error e => .failure e
  | .ok trial => trial.report

/-- Runs a script as `run` does, and writes down what it did. -/
def watch (name : Text) (options : RunOptions) (config : Config) :
    StateM ω (Except CommandError Trial) := do
  match ← loadScript name config with
  | .error e => return .error e
  | .ok script =>
    match ← StateFile.load (options.state.getD config.stateFile) config.app with
    | .error e => return .error (.load e)
    | .ok state =>
      let info := { state.info with app := config.resolveApp options.app state.info.app }
      match ← loadCatalog (options.catalog.or config.catalogFile) with
      | .error e => return .error (.load e)
      | .ok catalog =>
        let observed ←
          Run.observe (Console.database catalog) state.saver script.statements info {}
        return .ok ⟨script, info, catalog, observed⟩

theorem runOn_eq_watch (script : Script) (info : VersionInfo) (state : StateFile)
    (catalog : Catalog) :
    (runOn script info state catalog : StateM ω Report) = reportOf <$> (do
      let observed ← Run.observe (Console.database catalog) state.saver script.statements info {}
      return .ok ⟨script, info, catalog, observed⟩) := by
  have hwatched := Run.observe_faithful (Console.database catalog)
    (state.saver : UInt32 → StateM ω _) script.statements info {}
  unfold runOn
  change (do
    let outcome ← Run.execute (Console.database catalog) state.saver script.statements info {}
    _) = _
  rw [← hwatched, bind_map_left, map_bind]
  refine bind_congr fun observed => ?_
  change _ = pure (Trial.report ⟨script, info, catalog, observed⟩)
  unfold Trial.report
  dsimp only
  cases observed.result <;> rfl

/-- **Watching changes nothing.** -/
theorem run_eq_watch (name : Text) (options : RunOptions) (config : Config) :
    (run name options config : StateM ω Report) = reportOf <$> watch name options config := by
  unfold run watch
  rw [map_bind]
  refine bind_congr fun script => ?_
  cases script with
  | error e => rfl
  | ok script =>
      dsimp only
      rw [map_bind]
      refine bind_congr fun state => ?_
      cases state with
      | error e => rfl
      | ok state =>
          dsimp only
          rw [map_bind]
          refine bind_congr fun catalog => ?_
          cases catalog with
          | error e => rfl
          | ok catalog => exact runOn_eq_watch script _ state catalog

/-! ## How a run fails -/

theorem loadScript_ne_run {name : Text} {config : Config} {w : ω} {e : RunError} :
    ((loadScript name config : StateM ω _).run w).1 ≠ .error (.run e) := by
  intro h
  unfold loadScript at h
  rw [StateFile.run_bind] at h
  split at h
  · cases h
  rw [StateFile.run_bind] at h
  split at h
  · cases h
  split at h
  · cases h
  · cases h

/-- What keeps a run from being started is no failure of the run. -/
theorem watch_ne_run {name : Text} {options : RunOptions} {config : Config} {w : ω} {e : RunError} :
    ((watch name options config).run w).1 ≠ .error (.run e) := by
  intro h
  unfold watch at h
  rw [StateFile.run_bind] at h
  split at h
  · rename_i hscript
    cases h
    exact loadScript_ne_run hscript
  rw [StateFile.run_bind] at h
  split at h
  · cases h
  rw [StateFile.run_bind] at h
  split at h
  · cases h
  · cases h

theorem result_of_report {t : Trial} {e : RunError} (h : t.report.error = some (.run e)) :
    t.observed.result = .error e := by
  unfold Trial.report at h
  dsimp only at h
  split at h
  · cases h
  · rename_i hresult
    cases h
    exact hresult

/-- A watched run fails because of an application only where a statement asks for another one. -/
theorem wrongApplication_of_observe {state : StateFile} {db : Database Console}
    {statements : List Statement} {info : VersionInfo} {d : Console} {o : Run.Observed Console}
    {w w' : ω} {n : Nat} {expected found : Text}
    (h : (Run.observe db state.saver statements info d : StateM ω _).run w = (o, w'))
    (hresult : o.result = .error ⟨n, .wrongApplication expected found⟩) :
    expected = info.app ∧ found ≠ info.app
      ∧ ∃ s ∈ statements, s.role = .checkApplication ⟨.equal, found⟩ := by
  rw [Run.observe_run] at h
  rcases hwalk : Run.walk db.watched statements (.start info ⟨d, []⟩) with ⟨signal, s⟩
  rw [hwalk] at h
  have hobserved : ∃ saved, o = s.observed info signal saved := by
    dsimp only at h
    split at h
    · exact ⟨_, (Prod.mk.inj h).1.symm⟩
    · exact ⟨_, (Prod.mk.inj h).1.symm⟩
  obtain ⟨saved, rfl⟩ := hobserved
  -- an error of the store is another one
  have hsignal : signal = .fail (.wrongApplication expected found) := by
    unfold Run.Session.observed Run.Session.settle at hresult
    dsimp only at hresult
    split at hresult
    · cases hresult
      rfl
    · cases hresult
    · cases hresult
  exact Run.walk_wrongApplication ((congrArg Prod.fst hwalk).trans hsignal)

/-! ## What a run reads -/

section

variable (hfs : FileSystem.Faithful ω)

include hfs

theorem looks_load {α : Type} (ofJson : Text → Except Json.Fault α) (path : Text) :
    Looks (Json.load ofJson path : StateM ω _) := by
  refine looks_bind (hfs.readText path) fun read => ?_
  cases read with
  | error fault => exact looks_pure _
  | ok t =>
      dsimp only
      cases ofJson t <;> exact looks_pure _

theorem looks_loadState (path app : Text) : Looks (StateFile.load path app : StateM ω _) := by
  refine looks_bind (hfs.exists? path) fun found => ?_
  split
  · refine looks_bind (looks_load hfs _ path) fun loaded => ?_
    cases loaded <;> exact looks_pure _
  · exact looks_pure _

theorem looks_loadCatalog (path : Option Text) : Looks (loadCatalog path : StateM ω _) := by
  cases path with
  | none => exact looks_pure _
  | some path => exact looks_load hfs _ path

theorem looks_loadScript (name : Text) (config : Config) :
    Looks (loadScript name config : StateM ω _) := by
  have hresolve : Looks (config.resolveScript name : StateM ω _) := by
    refine looks_bind (hfs.isFile _) fun found => ?_
    split
    · exact looks_pure _
    refine looks_bind (hfs.isFile _) fun found => ?_
    split
    · exact looks_pure _
    refine looks_bind (hfs.isFile _) fun found => ?_
    split
    · exact looks_pure _
    · exact looks_pure _
  refine looks_bind hresolve fun path => ?_
  cases path with
  | none => exact looks_pure _
  | some path =>
      refine looks_bind (hfs.readText path) fun read => ?_
      cases read with
      | error fault => exact looks_pure _
      | ok source =>
          dsimp only
          cases Script.parse source <;> exact looks_pure _

/-- Where there is no state file, the state is new. -/
theorem load_missing {path : Text} {w : ω}
    (h : ((FileSystem.exists? path : StateM ω Bool).run w).1 = false) (app : Text) :
    (StateFile.load path app : StateM ω _).run w = (.ok ⟨path, .new 0 app⟩, w) := by
  unfold StateFile.load
  rw [StateFile.run_bind, (hfs.exists? path).run, h]
  rfl

variable {name : Text} {options : RunOptions} {config : Config} {trial : Trial} {w w' : ω}

/-- A run that was started has read its script and its state. -/
theorem state_of_watch (h : (watch name options config).run w = (.ok trial, w')) :
    ((loadScript name config : StateM ω _).run w).1 = .ok trial.script
    ∧ ∃ state, (StateFile.load (options.state.getD config.stateFile) config.app : StateM ω _).run w
        = (.ok state, w)
      ∧ trial.info = { state.info with app := config.resolveApp options.app state.info.app }
      ∧ (Run.observe (Console.database trial.catalog) state.saver trial.script.statements trial.info
          {} : StateM ω _).run w = (trial.observed, w') := by
  have hscript := (looks_loadScript hfs name config).run w
  have hstate := (looks_loadState hfs (options.state.getD config.stateFile) config.app).run w
  have hcatalog := (looks_loadCatalog hfs (options.catalog.or config.catalogFile)).run w
  unfold watch at h
  rw [StateFile.run_bind, hscript] at h
  dsimp only at h
  split at h
  · cases h
  rw [StateFile.run_bind, hstate] at h
  dsimp only at h
  split at h
  · cases h
  · rename_i script hread _ state hloaded
    rw [hloaded] at hstate
    rw [StateFile.run_bind, hcatalog] at h
    dsimp only at h
    split at h
    · cases h
    · cases h
      exact ⟨hread, state, hstate, rfl, rfl⟩

/-- A version that a run saved is in the state file, and nothing else of the state has changed. -/
theorem load_of_saved {state : StateFile} {db : Database Console} {statements : List Statement}
    {info : VersionInfo} {d : Console} {o : Run.Observed Console}
    (h : (Run.observe db state.saver statements info d : StateM ω _).run w = (o, w'))
    (hsaved : o.Saved) (app : Text) :
    ∃ version, (StateFile.load state.path app : StateM ω _).run w'
      = (.ok (state.withVersion version), w') := by
  rw [Run.observe_run] at h
  generalize Run.walk db.watched statements (.start info ⟨d, []⟩) = walked at h
  obtain ⟨signal, s⟩ := walked
  obtain ⟨version, hversion⟩ := hsaved
  dsimp only at h
  cases hp : s.pending with
  | none =>
      simp only [hp] at h
      obtain rfl := (Prod.mk.inj h).1
      cases hversion
  | some v =>
      simp only [hp] at h
      rcases hanswer : (state.saver v : StateM ω _).run w with ⟨answer, w₁⟩
      rw [hanswer] at h
      obtain ⟨rfl, rfl⟩ := Prod.mk.inj h
      -- the one version that was to be saved is the one that was
      obtain ⟨rfl, rfl⟩ := Prod.mk.inj (List.mem_singleton.mp hversion)
      have hsave : ((state.save version : StateM ω _).run w).1.1 = .ok () :=
        congrArg Prod.fst hanswer
      have hworld : ((state.save version : StateM ω _).run w).2 = w₁ := congrArg Prod.snd hanswer
      have hwrite := StateFile.write_of_save hsave
      rw [hworld] at hwrite
      exact ⟨version, StateFile.load_written hfs hwrite app⟩

/-- A run that fails because of an application was started, and asks for another one than the one
it is run for. -/
theorem run_wrongApplication {n : Nat} {expected found : Text}
    (h : ((run name options config : StateM ω Report).run w).1.error
      = some (.run ⟨n, .wrongApplication expected found⟩)) :
    ∃ state script, (StateFile.load (options.state.getD config.stateFile) config.app
          : StateM ω _).run w = (.ok state, w)
      ∧ ((loadScript name config : StateM ω _).run w).1 = .ok script
      ∧ expected = config.resolveApp options.app state.info.app ∧ found ≠ expected
      ∧ ∃ s ∈ script.statements, s.role = .checkApplication ⟨.equal, found⟩ := by
  rw [run_eq_watch] at h
  change (reportOf ((watch name options config : StateM ω _).run w).1).error = _ at h
  rcases hwatch : (watch name options config : StateM ω _).run w with ⟨outcome, w'⟩
  rw [hwatch] at h
  cases outcome with
  | error e =>
      obtain rfl : e = .run ⟨n, .wrongApplication expected found⟩ := Option.some.inj h
      exact absurd (congrArg Prod.fst hwatch) watch_ne_run
  | ok trial =>
      obtain ⟨hscript, state, hstate, hinfo, hobserve⟩ := state_of_watch hfs hwatch
      obtain ⟨hexpected, hfound, hasks⟩ :=
        wrongApplication_of_observe hobserve (result_of_report h)
      have happ : trial.info.app = config.resolveApp options.app state.info.app := by rw [hinfo]
      exact ⟨state, trial.script, hstate, hscript, hexpected.trans happ, hexpected ▸ hfound, hasks⟩

omit [FileSystem (StateM ω)] hfs in
/-- Without a state that differs, the application asked for counts, else the one configured. -/
theorem resolveApp_own (config : Config) (asked : Option Text) :
    config.resolveApp asked config.app = asked.getD config.app := by
  unfold Config.resolveApp
  cases asked with
  | some app => rfl
  | none => split <;> rfl

/--
**A new state file records the application of the configuration.**

A run without a state file compares with the application that the command line names, or else with
the one configured, and what it saves records the one configured. So a later run that is not told of
an application compares with the one configured. It fails because of that only if its script asks
for another one, which the first run did not let pass either unless it was told of another one too.
-/
theorem new_state_records
    (hmissing : ((FileSystem.exists? (options.state.getD config.stateFile) : StateM ω Bool).run
      w).1 = false)
    (hrun : (watch name options config).run w = (.ok trial, w')) (hsaved : trial.observed.Saved) :
    (run name options config : StateM ω Report).run w = (trial.report, w')
    ∧ Run.ComparesWith (options.app.getD config.app) trial.processed
    ∧ (∀ app, ∃ state, (StateFile.load (options.state.getD config.stateFile) app
        : StateM ω _).run w' = (.ok state, w') ∧ state.info.app = config.app)
    ∧ ∀ later n expected found,
      ((run later { options with app := none } config : StateM ω Report).run w').1.error
        = some (.run ⟨n, .wrongApplication expected found⟩) →
      expected = config.app ∧ found ≠ config.app
        ∧ ∃ script, ((loadScript later config : StateM ω _).run w').1 = .ok script
          ∧ ∃ s ∈ script.statements, s.role = .checkApplication ⟨.equal, found⟩
            ∧ (options.app = none ∨ options.app = some config.app →
              ∀ p ∈ trial.processed, p.statement.role = s.role → p.signal ≠ .next) := by
  obtain ⟨-, state, hstate, hinfo, hobserve⟩ := state_of_watch hfs hrun
  rw [load_missing hfs hmissing] at hstate
  obtain ⟨rfl⟩ : _ = state := Except.ok.inj (Prod.mk.inj hstate).1
  have hcompares : Run.ComparesWith (options.app.getD config.app) trial.processed := by
    have hwalk := Run.compares_walk (Console.database trial.catalog) trial.script.statements
      (.start trial.info {})
    have happ : trial.info.app = options.app.getD config.app := by
      rw [hinfo]
      exact resolveApp_own config options.app
    rwa [show (Run.Session.start trial.info ({} : Console)).info.app = trial.info.app from rfl,
      happ] at hwalk
  have hrecorded := fun app => load_of_saved hfs hobserve hsaved app
  refine ⟨?_, hcompares, ?_, ?_⟩
  · rw [run_eq_watch]
    change (reportOf ((watch name options config : StateM ω _).run w).1,
      ((watch name options config : StateM ω _).run w).2) = _
    rw [hrun]
    rfl
  · intro app
    obtain ⟨version, hload⟩ := hrecorded app
    exact ⟨_, hload, rfl⟩
  · intro later n expected found herror
    obtain ⟨state, script, hload, hscript, hexpected, hfound, s, hs, hrole⟩ :=
      run_wrongApplication hfs herror
    obtain ⟨version, hsavedLoad⟩ := hrecorded config.app
    have happ : state.info.app = config.app := by
      have hsame := hload.symm.trans hsavedLoad
      rw [Except.ok.inj (Prod.mk.inj hsame).1]
      rfl
    have hown : expected = config.app := by
      rw [hexpected, happ]
      exact resolveApp_own config none
    rw [hown] at hfound
    refine ⟨hown, hfound, script, hscript, s, hs, hrole, ?_⟩
    intro hagree p hp hsame hnext
    have hchecked : options.app.getD config.app = config.app := by
      rcases hagree with h | h <;> rw [h] <;> rfl
    -- the first run compared with the same application
    have hsignal := hcompares p hp found (hsame.trans hrole)
    rw [hchecked, if_neg hfound, hnext] at hsignal
    cases hsignal

end

/-! ## An application that is named once -/

/-- A script for the application `shop`. -/
def shopTree : FileTree := FileTree.empty.put ["work".toList, "s.dbu".toList]
  (.file (.text "$app_version = shop\n$lastdbu 0.01\n".toList))

/-- The options of a run that names the application. -/
def shopOptions : RunOptions := { app := some "shop".toList, state := some "state.json".toList }

/-- A configuration that names none. -/
def bareConfig : Config where
  installDir := "i".toList
  scriptsDir := "s".toList
  envName := "default".toList
  app := Config.noApp
  stateFile := "i/state.json".toList
  catalogFile := none

/-- The state file that the first run makes. -/
def shopState : StateFile := ⟨"state.json".toList, { version := 1, app := Config.noApp }⟩

theorem watch_shop : ∃ trial w', (watch "s.dbu".toList shopOptions bareConfig).run shopTree
    = (.ok trial, w') ∧ trial.observed.Saved := by
  have hsaves : ((watch "s.dbu".toList shopOptions bareConfig).run shopTree).1.toOption.map
      (fun trial => trial.observed.saves) = some [(1, .ok ())] := by cbv
  generalize (watch "s.dbu".toList shopOptions bareConfig).run shopTree = ran at hsaves ⊢
  obtain ⟨outcome, w'⟩ := ran
  cases outcome with
  | error e => cases hsaves
  | ok trial =>
      have hsaved : trial.observed.saves = [(1, .ok ())] := Option.some.inj hsaves
      refine ⟨trial, w', rfl, 1, ?_⟩
      rw [hsaved]
      exact List.mem_singleton_self _

theorem missing_shop : ((FileSystem.exists? (shopOptions.state.getD bareConfig.stateFile)
    : StateM FileTree Bool).run shopTree).1 = false := by
  cbv

/-- The state file of the first run is for no application, though the run was for one. -/
theorem new_state_records_shop :
    ((FileSystem.exists? (shopOptions.state.getD bareConfig.stateFile)
      : StateM FileTree Bool).run shopTree).1 = false
    ∧ ∃ trial w', (watch "s.dbu".toList shopOptions bareConfig).run shopTree = (.ok trial, w')
      ∧ trial.observed.Saved ∧ Run.ComparesWith "shop".toList trial.processed
      ∧ ∃ state, (StateFile.load (shopOptions.state.getD bareConfig.stateFile) "shop".toList
        : StateM FileTree _).run w' = (.ok state, w') ∧ state.info.app = Config.noApp := by
  obtain ⟨trial, w', hwatch, hsaved⟩ := watch_shop
  obtain ⟨-, hcompares, hrecords, -⟩ :=
    new_state_records FileTree.faithful missing_shop hwatch hsaved
  exact ⟨missing_shop, trial, w', hwatch, hsaved, hcompares, hrecords "shop".toList⟩

/-- The tree that the first run leaves. -/
def shopTreeAfter : FileTree :=
  shopTree.put ["work".toList, "state.json".toList] (.file (.text shopState.info.toJson))

theorem load_shopTreeAfter (app : Text) :
    (StateFile.load shopState.path app : StateM FileTree _).run shopTreeAfter
      = (.ok shopState, shopTreeAfter) := by
  have hwrite : (shopState.write : StateM FileTree _).run shopTree = (.ok (), shopTreeAfter) := by
    cbv
  exact StateFile.load_written FileTree.faithful hwrite app

/-- A run on a state and an empty catalog. -/
theorem run_of_loaded {name : Text} {options : RunOptions} {config : Config} {script : Script}
    {state : StateFile} {w : FileTree}
    (hscript : (loadScript name config : StateM FileTree _).run w = (.ok script, w))
    (hstate : (StateFile.load (options.state.getD config.stateFile) config.app
      : StateM FileTree _).run w = (.ok state, w))
    (hcatalog : options.catalog.or config.catalogFile = none) :
    (run name options config : StateM FileTree _).run w
      = (runOn script { state.info with app := config.resolveApp options.app state.info.app } state
          {} : StateM FileTree _).run w := by
  unfold run
  rw [StateFile.run_bind, hscript]
  dsimp only
  rw [StateFile.run_bind, hstate, hcatalog]
  rfl

/-- A script that asks for the application `shop` and declares a version, as it is loaded. -/
def shopScript : Script where
  path := "s.dbu".toList
  statements :=
    [{ symbol := .appVersion, key := "$app_version".toList
       fields := [⟨"=".toList, .equal⟩, ⟨"shop".toList, .plain⟩]
       slots := [["$app_version = shop".toList]], line := 1 },
     { symbol := .lastDbu, key := "$lastdbu".toList, fields := [⟨"0.01".toList, .plain⟩]
       slots := [["$lastdbu 0.01".toList]], line := 2 }]

/-- **A run that succeeds once does not succeed again**, for an application that it was told of the
first time only. -/
theorem not_recorded_shop :
    (run "s.dbu".toList shopOptions bareConfig : StateM FileTree _).run shopTree
        = (.lines [runSummary 2], shopTreeAfter)
      ∧ shopState.info.app = Config.noApp
      ∧ (∀ app, (StateFile.load shopState.path app : StateM FileTree _).run shopTreeAfter
        = (.ok shopState, shopTreeAfter))
      ∧ ((run "s.dbu".toList { shopOptions with app := none } bareConfig : StateM FileTree _).run
          shopTreeAfter).1.error
        = some (.run ⟨0, .wrongApplication "none".toList "shop".toList⟩) := by
  refine ⟨?_, rfl, load_shopTreeAfter, ?_⟩
  · cbv
  · have hscript : (loadScript "s.dbu".toList bareConfig : StateM FileTree _).run shopTreeAfter
        = (.ok shopScript, shopTreeAfter) := by cbv
    have hpath : ({ shopOptions with app := none } : RunOptions).state.getD bareConfig.stateFile
        = shopState.path := rfl
    have hstate := load_shopTreeAfter bareConfig.app
    rw [← hpath] at hstate
    have hrun := run_of_loaded hscript hstate rfl
    rw [hrun]
    rfl

end Command

end MigrationScript
