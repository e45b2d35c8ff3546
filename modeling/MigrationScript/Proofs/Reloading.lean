import Mathlib
import MigrationScript.Config
import MigrationScript.Proofs.StateFile

/-!
# Records that are loaded again

A version state and a configuration go into a file as texts and come back from it as records. Both
come back as they were: what stands in a text, quotes, control characters and all, is read as it was
written (`VersionInfo.ofJson_toJson`, `Config.ofJson_toJson`), and a file that keeps what it has
taken adds nothing to that (`loads_what_was_written`). The application that a missing state file
would be made for plays no part once the file is there.
-/

namespace MigrationScript

open Json

namespace Config

theorem fits_toMembers (config : Config) : Fits shape config.toMembers where
  kind := by
    intro m hm
    simp only [toMembers, List.mem_cons, List.not_mem_nil, or_false] at hm
    rcases hm with rfl | rfl | rfl | rfl | rfl | rfl
    · exact ⟨.string, rfl, .string config.installDir⟩
    · exact ⟨.string, rfl, .string config.scriptsDir⟩
    · exact ⟨.string, rfl, .string config.envName⟩
    · exact ⟨.string, rfl, .string config.app⟩
    · exact ⟨.string, rfl, .string config.stateFile⟩
    · -- the one member that may be null
      refine ⟨.nullableString, rfl, ?_⟩
      cases config.catalogFile with
      | none => exact .absent
      | some file => exact .present file
  distinct := by
    simp only [toMembers, List.map_cons, List.map_nil]
    decide

/-- A configuration is read from a file as it was written. -/
theorem ofJson_toJson (config : Config) : ofJson config.toJson = .ok config := by
  have h := document_written config.fits_toMembers
  have hinstall : config.toMembers.text? "install_dir" = some config.installDir := rfl
  have hscripts : config.toMembers.text? "scripts_dir" = some config.scriptsDir := rfl
  have hname : config.toMembers.text? "env_name" = some config.envName := rfl
  have happ : config.toMembers.text? "app" = some config.app := rfl
  have hstate : config.toMembers.text? "state_file" = some config.stateFile := rfl
  have hcatalog : config.toMembers.text? "catalog_file" = config.catalogFile := by
    obtain ⟨_, _, _, _, _, catalogFile⟩ := config
    cases catalogFile with
    | none => rfl
    | some file => rfl
  have hmembers : ofMembers config.toMembers = some config := by
    simp [ofMembers, hinstall, hscripts, hname, happ, hstate, hcatalog]
  rw [ofJson, toJson, toMembers, h]
  change (ofMembers config.toMembers).elim (.error .mismatched) Except.ok = .ok config
  rw [hmembers]
  rfl

end Config

section

variable {ω : Type} [FileSystem (StateM ω)] (hfs : FileSystem.Faithful ω)

/-- A record is loaded from a file that holds a text of it. -/
theorem Json.load_of_readText {α : Type} {ofJson : Text → Except Fault α} {path t : Text} {a : α}
    {w w' : ω} (hread : (FileSystem.readText path : StateM ω _).run w = (.ok t, w'))
    (ha : ofJson t = .ok a) : (Json.load ofJson path : StateM ω _).run w = (.ok a, w') := by
  unfold Json.load
  rw [StateFile.run_bind, hread]
  dsimp only
  rw [ha]
  rfl

include hfs

/-- A configuration that has been written is loaded as it was. -/
theorem Config.loadFrom_saved {config : Config} {path : Text} {w w' : ω}
    (h : (config.saveTo path : StateM ω _).run w = (.ok (), w')) :
    ((Config.loadFrom path : StateM ω _).run w').1 = .ok config := by
  obtain ⟨-, hread⟩ := hfs.putText_found h
  unfold Config.loadFrom
  rw [Json.load_of_readText hread config.ofJson_toJson]

/-- A state that has been written is loaded as it was, whatever application it is loaded for. -/
theorem StateFile.load_written {state : StateFile} {w w' : ω}
    (h : (state.write : StateM ω _).run w = (.ok (), w')) (app : Text) :
    (StateFile.load state.path app : StateM ω _).run w' = (.ok state, w') := by
  obtain ⟨hfound, hread⟩ := hfs.putText_found h
  unfold StateFile.load
  rw [StateFile.run_bind, (hfs.exists? state.path).run, hfound]
  dsimp only
  rw [if_pos rfl, StateFile.run_bind, Json.load_of_readText hread state.info.ofJson_toJson]
  rfl

omit hfs in
/-- A version that is saved is written with its state. -/
theorem StateFile.write_of_save {state : StateFile} {version : UInt32} {w : ω}
    (h : ((state.save version : StateM ω _).run w).1.1 = .ok ()) :
    ((state.withVersion version).write : StateM ω _).run w
      = (.ok (), ((state.save version : StateM ω _).run w).2) := by
  unfold StateFile.save at h ⊢
  simp only [StateFile.run_bind] at h ⊢
  cases hw : ((state.withVersion version).write : StateM ω _).run w with
  | mk answer w' =>
      rw [hw] at h
      cases answer with
      | ok u => rfl
      | error fault => cases h

/-- **What was written is loaded again.** A state whose version was saved comes back with that
version and otherwise as it was, whatever application it is loaded for, and a configuration that was
saved comes back as it was. -/
theorem loads_what_was_written :
    (∀ (state : StateFile) (version : UInt32) (app : Text) (w : ω),
      ((state.save version : StateM ω _).run w).1.1 = .ok () →
      ((StateFile.load state.path app : StateM ω _).run
          ((state.save version : StateM ω _).run w).2).1
        = .ok ⟨state.path, { state.info with version }⟩)
    ∧ ∀ (config : Config) (path : Text) (w : ω),
      ((config.saveTo path : StateM ω _).run w).1 = .ok () →
      ((Config.loadFrom path : StateM ω _).run ((config.saveTo path : StateM ω _).run w).2).1
        = .ok config := by
  constructor
  · intro state version app w h
    have hload := StateFile.load_written hfs (StateFile.write_of_save h) app
    exact congrArg Prod.fst hload
  · intro config path w h
    exact Config.loadFrom_saved hfs (Prod.ext h rfl)

end

/-- A state with characters that are escaped, and with others that are no ASCII. -/
def escapedState : StateFile :=
  ⟨"run/state.json".toList,
    { version := 7, app := "my \"shop\"\\\n".toList, change := "\x01\x1f\x7fä€😀".toList
      shown := true, hidden := false }⟩

/-- A configuration with a catalog whose name is escaped. -/
def escapedConfig : Config where
  installDir := "/opt/\"dbu\"".toList
  scriptsDir := "scripts\t\r".toList
  envName := "größe".toList
  app := "a\\b".toList
  stateFile := []
  catalogFile := some "null\"".toList

theorem loads_what_was_written_escaped :
    ((StateFile.load "run/state.json".toList "other".toList : StateM FileTree _).run
        ((escapedState.save 8 : StateM FileTree _).run FileTree.empty).2).1
      = .ok ⟨"run/state.json".toList, { escapedState.info with version := 8 }⟩
    ∧ ((Config.loadFrom "c.json".toList : StateM FileTree _).run
        ((escapedConfig.saveTo "c.json".toList : StateM FileTree _).run FileTree.empty).2).1
      = .ok escapedConfig
    ∧ ((Config.loadFrom "c.json".toList : StateM FileTree _).run
        (({ escapedConfig with catalogFile := none }.saveTo "c.json".toList
          : StateM FileTree _).run FileTree.empty).2).1
      = .ok { escapedConfig with catalogFile := none } := by
  have hstate : ((escapedState.save 8 : StateM FileTree _).run FileTree.empty).1.1 = .ok () := by
    cbv
  have hconfig : ((escapedConfig.saveTo "c.json".toList : StateM FileTree _).run
      FileTree.empty).1 = .ok () := by cbv
  have habsent : (({ escapedConfig with catalogFile := none }.saveTo "c.json".toList
      : StateM FileTree _).run FileTree.empty).1 = .ok () := by cbv
  obtain ⟨hload, hconfigs⟩ := loads_what_was_written FileTree.faithful
  exact ⟨hload escapedState 8 "other".toList _ hstate, hconfigs _ _ _ hconfig,
    hconfigs _ _ _ habsent⟩

end MigrationScript
