import MigrationScript.Json.File
import MigrationScript.Run.Database
import MigrationScript.VersionInfo.Json

/-!
# State files

Without a live database the version information is kept in a file. Saving a version changes what is
held in memory first and writes the file then, so after a write that fails the two differ.
-/

namespace MigrationScript

/-- A state file, with what is held of it in memory. -/
structure StateFile where
  path : Text
  info : VersionInfo
  deriving DecidableEq, Repr

namespace StateFile

variable {m : Type → Type} [Monad m] [FileSystem m]

/-- Loads the state at a path. Where there is none, the state is that of a new database of the
application. -/
def load (path app : Text) : m (Except LoadError StateFile) := do
  if ← FileSystem.exists? path then
    match ← Json.load VersionInfo.ofJson path with
    | .ok info => return .ok ⟨path, info⟩
    | .error e => return .error e
  else return .ok ⟨path, .new 0 app⟩

/-- The state with another version in memory. -/
def withVersion (state : StateFile) (version : UInt32) : StateFile :=
  { state with info := { state.info with version } }

/-- Writes the state to its file. -/
def write (state : StateFile) : m (Except FileFault Unit) :=
  FileSystem.putText state.path state.info.toJson

/-- Saves a version, and says in words why if that fails. -/
def save (state : StateFile) (version : UInt32) : m (Except String Unit × StateFile) := do
  let state := state.withVersion version
  match ← state.write with
  | .ok () => return (.ok (), state)
  | .error fault => return (.error fault.report, state)

/-- A state file as the store of an engine, together with the files around it. -/
def store {ω : Type} [FileSystem (StateM ω)] : VersionStore (StateFile × ω) where
  save version := fun (state, w) =>
    let ((answer, state), w) := (state.save version : StateM ω _).run w
    (answer, (state, w))

end StateFile

end MigrationScript
