import Mathlib
import MigrationScript.Proofs.FileSystem.Candid
import MigrationScript.Proofs.Reloading

/-!
# Overrides and the file of the configuration

The first time that a configuration is loaded its defaults are written to a file, with the settings
of the process environment in place of the defaults that they override. So what overrides a setting
then is what is read for it later, where nothing overrides it again (`load_after_load`).

If the file cannot be written, nothing of that remains: what may be left of it is no configuration,
and the defaults are made anew.
-/

namespace MigrationScript

open FileSystem Json

/-- Overrides that fall back on others where they set nothing. -/
def Overrides.or (o o' : Overrides) : Overrides where
  app := o.app.or o'.app
  scriptsDir := o.scriptsDir.or o'.scriptsDir
  stateFile := o.stateFile.or o'.stateFile
  catalogFile := o.catalogFile.or o'.catalogFile

/-- The process environment with other overrides. -/
def Environment.under (env : Environment) (o : Overrides) : Environment :=
  { env with overrides := o }

namespace Config

/-! ## Overriding twice -/

/-- What is overridden last wins. -/
theorem override_override (c : Config) (first second : Overrides) :
    (c.override first).override second = c.override (second.or first) := by
  have hgetD (o o' : Option Text) (t : Text) : o.getD (o'.getD t) = (o.or o').getD t := by
    cases o <;> rfl
  have hor (o o' o'' : Option Text) : o.or (o'.or o'') = (o.or o').or o'' := by
    cases o <;> rfl
  simp only [override, Overrides.or, hgetD, hor]

/-- After other overrides some make the same of a configuration as without them: each setting is
overridden again, or was overridden by what it had been. -/
structure Settles (c : Config) (first second : Overrides) : Prop where
  app : second.app = none → ∀ t ∈ first.app, c.app = t
  scriptsDir : second.scriptsDir = none → ∀ t ∈ first.scriptsDir, c.scriptsDir = t
  stateFile : second.stateFile = none → ∀ t ∈ first.stateFile, c.stateFile = t
  catalogFile : second.catalogFile = none → ∀ t ∈ first.catalogFile, c.catalogFile = some t

theorem getD_or_eq {second first : Option Text} {t : Text} :
    (second.or first).getD t = second.getD t ↔ (second = none → ∀ s ∈ first, t = s) := by
  cases second with
  | some s => simp
  | none =>
      cases first with
      | none => simp
      | some s => simp [eq_comm]

theorem override_or_eq {c : Config} {first second : Overrides} :
    c.override (second.or first) = c.override second ↔ c.Settles first second := by
  have hcatalog : (second.catalogFile.or first.catalogFile).or c.catalogFile
      = second.catalogFile.or c.catalogFile ↔
        (second.catalogFile = none → ∀ t ∈ first.catalogFile, c.catalogFile = some t) := by
    cases second.catalogFile with
    | some t => simp
    | none =>
        cases first.catalogFile with
        | none => simp
        | some t => simp [eq_comm]
  constructor
  · intro h
    obtain ⟨-, hscripts, -, happ, hstate, hfile⟩ := Config.mk.inj h
    exact ⟨getD_or_eq.mp happ, getD_or_eq.mp hscripts, getD_or_eq.mp hstate, hcatalog.mp hfile⟩
  · rintro ⟨happ, hscripts, hstate, hfile⟩
    simp only [override, Overrides.or, Config.mk.injEq, true_and]
    exact ⟨getD_or_eq.mpr hscripts, getD_or_eq.mpr happ, getD_or_eq.mpr hstate,
      hcatalog.mpr hfile⟩

/-! ## Loading -/

/-- The defaults of an environment, before anything is overridden. `here` says whether there is a
directory for scripts where the program was started. -/
def plain (env : Environment) (here : Bool) : Config :=
  let installDir := env.installDir.getD env.directory
  { installDir
    scriptsDir := if here then localScripts else Path.join installDir "scripts".toList
    envName := env.name
    app := noApp
    stateFile := Path.join installDir "state.json".toList
    catalogFile := none }

/-- A configuration that broke off is not read. -/
theorem ofJson_torn {c : Config} {cut : Text} (h : Beginning cut c.toJson) :
    ∃ fault, ofJson cut = .error fault := by
  obtain ⟨fault, hf⟩ := document_torn c.fits_toMembers h
  refine ⟨fault, ?_⟩
  rw [ofJson, hf]
  rfl

variable {ω : Type} [FileSystem (StateM ω)]

/-- Whether there is a directory for scripts where the program was started. -/
def scriptsHere (w : ω) : Bool := ((isDirectory localScripts : StateM ω Bool).run w).1

section

variable (hfs : Faithful ω)

include hfs

theorem default_run (env : Environment) (w : ω) :
    (default env : StateM ω Config).run w
      = ((plain env (scriptsHere w)).override env.overrides, w) := by
  unfold default
  rw [StateFile.run_bind, (hfs.isDirectory localScripts).run]
  rfl

/-- With no file there, the defaults are loaded, and written. -/
theorem load_new (env : Environment) {w : ω}
    (hnew : ((exists? env.configPath : StateM ω Bool).run w).1 = false) :
    (load env : StateM ω Config).run w
      = ((plain env (scriptsHere w)).override env.overrides,
          ((((plain env (scriptsHere w)).override env.overrides).save env
            : StateM ω _).run w).2) := by
  unfold load
  rw [StateFile.run_bind, (hfs.exists? env.configPath).run, hnew]
  simp only [Bool.false_eq_true, if_false]
  rw [StateFile.run_bind, default_run hfs]
  rfl

/-- What is done with a file that is there. -/
theorem load_found (env : Environment) {w : ω}
    (hthere : ((exists? env.configPath : StateM ω Bool).run w).1 = true)
    {answer : Except LoadError Config}
    (hload : (loadFrom env.configPath : StateM ω _).run w = (answer, w)) :
    ((load env : StateM ω Config).run w).1
      = (answer.toOption.getD (plain env (scriptsHere w))).override env.overrides := by
  unfold load
  rw [StateFile.run_bind, (hfs.exists? env.configPath).run, hthere]
  simp only [if_true]
  rw [StateFile.run_bind, hload]
  cases answer with
  | ok c => rfl
  | error fault =>
      dsimp only
      rw [default_run hfs]
      rfl

/-- If no configuration can be read, the defaults are loaded, whether or not there is a file. -/
theorem load_unread (env : Environment) {w : ω}
    (hread : ∀ t c, ((readText env.configPath : StateM ω _).run w).1 = .ok t → ofJson t ≠ .ok c) :
    ((load env : StateM ω Config).run w).1
      = (plain env (scriptsHere w)).override env.overrides := by
  cases hthere : ((exists? env.configPath : StateM ω Bool).run w).1 with
  | false => rw [load_new hfs env hthere]
  | true =>
      have hload : ∃ fault, (loadFrom env.configPath : StateM ω _).run w = (.error fault, w) := by
        unfold loadFrom Json.load
        rw [StateFile.run_bind, (hfs.readText env.configPath).run]
        cases htext : ((readText env.configPath : StateM ω _).run w).1 with
        | error fault => exact ⟨_, rfl⟩
        | ok t =>
            dsimp only
            cases hjson : ofJson t with
            | error fault => exact ⟨_, rfl⟩
            | ok c => exact absurd hjson (hread t c htext)
      obtain ⟨fault, hload⟩ := hload
      exact load_found hfs env hthere hload

/-- What was written is loaded, and overridden by what overrides it now. -/
theorem load_saved {c : Config} (env : Environment) {w w' : ω}
    (h : (c.save env : StateM ω _).run w = (.ok (), w')) :
    ((load env : StateM ω Config).run w').1 = c.override env.overrides := by
  obtain ⟨hthere, hread⟩ := hfs.putText_found h
  exact load_found hfs env hthere (Json.load_of_readText hread c.ofJson_toJson)

end

/-- What could not be written is not loaded. -/
theorem load_refused (hfs : Faithful ω) (env : Environment) (hcandid : Candid ω env.configPath)
    {c : Config} {w w' : ω} {fault : FileFault}
    (hnew : ((exists? env.configPath : StateM ω Bool).run w).1 = false)
    (h : (c.save env : StateM ω _).run w = (.error fault, w')) :
    ((load env : StateM ω Config).run w').1
      = (plain env (scriptsHere w')).override env.overrides := by
  refine load_unread hfs env fun t found hread hfound => ?_
  obtain ⟨fault', hf⟩ := ofJson_torn (hcandid.less _ w w' fault t hnew h hread)
  rw [hf] at hfound
  cases hfound

/-! ## Loading after loading -/

/--
**What overrode a setting when the file was written is the default of every later load.**

There is no file at first, and it is loaded under some overrides and then under others. If the file
could be written, the second load returns the defaults with both overrides, the later ones winning.
That is what it returns without the first load exactly if each setting that the first ones changed
is overridden again. If the file could not be written, the second load returns the defaults with the
later overrides, and that is what it returns without the first load as long as the directory for
scripts has not been made meanwhile.
-/
theorem load_after_load (hfs : Faithful ω) (env : Environment)
    (hcandid : Candid ω env.configPath) (first second : Overrides) (w : ω)
    (hnew : ((exists? env.configPath : StateM ω Bool).run w).1 = false) :
    let base := plain env (scriptsHere w)
    let saved := ((base.override first).save env : StateM ω _).run w
    let w' := ((load (env.under first) : StateM ω Config).run w).2
    let again := ((load (env.under second) : StateM ω Config).run w').1
    let alone := ((load (env.under second) : StateM ω Config).run w).1
    alone = base.override second
    ∧ (saved.1 = .ok () → again = base.override (second.or first)
      ∧ (again = alone ↔ base.Settles first second))
    ∧ (saved.1 ≠ .ok () → again = (plain env (scriptsHere w')).override second
      ∧ (scriptsHere w' = scriptsHere w → again = alone)) := by
  intro base saved w' again alone
  have hleft : w' = saved.2 := congrArg Prod.snd (load_new hfs (env.under first) hnew)
  have halone : alone = base.override second :=
    congrArg Prod.fst (load_new hfs (env.under second) hnew)
  refine ⟨halone, fun hsaved => ?_, fun hrefused => ?_⟩
  · -- what was saved is read, so the first overrides are under the second
    have hagain : again = base.override (second.or first) := by
      rw [← override_override]
      exact load_saved hfs (env.under second) (Prod.ext hsaved hleft.symm)
    refine ⟨hagain, ?_⟩
    rw [hagain, halone]
    exact override_or_eq
  · cases hanswer : saved.1 with
    | ok u => exact absurd hanswer hrefused
    | error fault =>
        -- nothing that can be read was left, and the defaults are made anew
        have hagain : again = (plain env (scriptsHere w')).override second :=
          load_refused hfs (env.under second) hcandid hnew (Prod.ext hanswer hleft.symm)
        refine ⟨hagain, fun hsame => ?_⟩
        rw [hagain, halone, hsame]

/-- The default environment of a user whose directory is `home`. -/
def atHome : Environment := { home := some "home".toList }

theorem candid_atHome : Candid FileTree atHome.configPath :=
  FileTree.candid "home/.dbu/default".toList "config.json".toList
    (by decide) (by decide) (by decide) (by decide) (by decide)

/-- A tree with a file in place of the directory of the user. -/
def homeless : FileTree :=
  { FileTree.empty with
    entries := (["work".toList, "home".toList], .file (.text [])) :: FileTree.empty.entries }

/-- Once the file can be written, and once it cannot. -/
theorem load_after_load_atHome :
    let first : Overrides := { app := some "shop".toList, stateFile := some "a.json".toList }
    let second : Overrides := { stateFile := some "b.json".toList }
    let left (w : FileTree) := ((load (atHome.under first) : StateM FileTree Config).run w).2
    let again (w : FileTree) :=
      ((load (atHome.under second) : StateM FileTree Config).run (left w)).1
    again FileTree.empty
        = (plain atHome (scriptsHere FileTree.empty)).override (second.or first)
      ∧ again homeless = (plain atHome (scriptsHere (left homeless))).override second := by
  intro first second left again
  have hnew : ((exists? atHome.configPath : StateM FileTree Bool).run FileTree.empty).1
      = false := by cbv
  have hnone : ((exists? atHome.configPath : StateM FileTree Bool).run homeless).1
      = false := by cbv
  have hsaved : ((((plain atHome (scriptsHere FileTree.empty)).override first).save atHome
      : StateM FileTree _).run FileTree.empty).1 = .ok () := by cbv
  have hrefused : ((((plain atHome (scriptsHere homeless)).override first).save atHome
      : StateM FileTree _).run homeless).1 = .error .notDirectory := by cbv
  obtain ⟨-, hagain, -⟩ :=
    load_after_load FileTree.faithful atHome candid_atHome first second _ hnew
  obtain ⟨-, -, hanew⟩ :=
    load_after_load FileTree.faithful atHome candid_atHome first second _ hnone
  refine ⟨(hagain hsaved).1, (hanew ?_).1⟩
  intro hok
  rw [hrefused] at hok
  cases hok

/-- An application that is set for the first load only is loaded ever after. -/
theorem not_alone_shop :
    ¬ ∀ (env : Environment) (first second : Overrides) (w : FileTree),
      ((exists? env.configPath : StateM FileTree Bool).run w).1 = false →
      ((load (env.under second) : StateM FileTree Config).run
          ((load (env.under first) : StateM FileTree Config).run w).2).1
        = ((load (env.under second) : StateM FileTree Config).run w).1 := by
  intro h
  have hnew : ((exists? atHome.configPath : StateM FileTree Bool).run FileTree.empty).1
      = false := by cbv
  have hsaved : ((((plain atHome (scriptsHere FileTree.empty)).override
      { app := some "shop".toList }).save atHome : StateM FileTree _).run FileTree.empty).1
        = .ok () := by cbv
  have hsame := h atHome { app := some "shop".toList } {} FileTree.empty hnew
  rw [load_new FileTree.faithful (atHome.under { app := some "shop".toList }) hnew,
    load_new FileTree.faithful (atHome.under {}) hnew] at hsame
  have hagain := load_saved FileTree.faithful (atHome.under {}) (Prod.ext hsaved rfl)
  have happ : "shop".toList = noApp := congrArg Config.app (hagain.symm.trans hsame)
  exact absurd happ (by decide)

end Config

end MigrationScript
