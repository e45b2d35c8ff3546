import MigrationScript.FileSystem
import MigrationScript.Json.Lexical

/-!
# Records in files

The version state, the catalog and the configuration are JSON records in files of their own. Loading
one fails if its file cannot be read or if what the file holds cannot be read as that record.
-/

namespace MigrationScript

/-- A fault of a record in words. -/
def Json.Fault.message : Json.Fault → String
  | ended => "the text ends too early"
  | malformed => "the text is no JSON"
  | mismatched => "a value is missing, comes twice or is of another kind"

/-- Why a record cannot be loaded from a file. -/
inductive LoadError where
  | file (fault : FileFault)
  | record (fault : Json.Fault)
  deriving DecidableEq, Repr

/-- A load error in words. -/
def LoadError.message : LoadError → String
  | file fault => fault.report
  | record fault => "ConfigError: " ++ fault.message

/-- Loads a record from a file, with a way to read it from a text. -/
def Json.load {α : Type} {m : Type → Type} [Monad m] [FileSystem m]
    (ofJson : Text → Except Json.Fault α) (path : Text) : m (Except LoadError α) := do
  match ← FileSystem.readText path with
  | .error fault => return .error (.file fault)
  | .ok t =>
    match ofJson t with
    | .error fault => return .error (.record fault)
    | .ok a => return .ok a

end MigrationScript
