import MigrationScript.Path

/-!
# File systems

Scripts, catalogs, the version state and the configuration are files. What is done with them is said
over any file system: a set of operations on paths, in any monad. Operations that can fail answer
with a fault.
-/

namespace MigrationScript

/-- Why a file operation fails. -/
inductive FileFault where
  /-- There is no such file or directory. -/
  | missing
  /-- The file holds bytes that are no text. -/
  | notText
  | isDirectory
  | notDirectory
  | other (message : String)
  deriving DecidableEq, Repr

/-- A file fault in words. -/
def FileFault.message : FileFault → String
  | missing => "No such file or directory (os error 2)"
  | notText => "stream did not contain valid UTF-8"
  | isDirectory => "Is a directory (os error 21)"
  | notDirectory => "Not a directory (os error 20)"
  | other message => message

/-- The fault of a name or a path that has too many bytes. -/
def FileFault.tooLong : FileFault := .other "File name too long (os error 36)"

/-- A file fault in words, marked as such. -/
def FileFault.report (fault : FileFault) : String := "IOError: " ++ fault.message

/-- The operations on files, which are named by their paths. -/
class FileSystem (m : Type → Type) where
  isFile : Text → m Bool
  isDirectory : Text → m Bool
  readText : Text → m (Except FileFault Text)
  /-- Puts a text into a file, in place of what was there. -/
  writeText : Text → Text → m (Except FileFault Unit)
  /-- Makes a directory and those it lies in, as far as they are missing. -/
  createDirectories : Text → m (Except FileFault Unit)
  /-- The names of what lies in a directory, in any order. -/
  list : Text → m (Except FileFault (List Text))

namespace FileSystem

/-- The most bytes that a path may have. -/
def pathLimit : Nat := 4095

/-- Fails on a path that cannot be followed in any file system: an empty one leads nowhere. -/
def checkPath (path : Text) : Except FileFault Unit :=
  if path.isEmpty then .error .missing
  else if path.contains '\x00' then .error (.other "file name contained an unexpected NUL byte")
  else if Text.utf8Length path > pathLimit then .error .tooLong
  else .ok ()

variable {m : Type → Type} [Monad m] [FileSystem m]

/-- Whether there is a file or directory. -/
def exists? (path : Text) : m Bool := do
  return (← isFile path) || (← isDirectory path)

/-- Puts a text into a file, and makes the directory of the file first if it is missing. -/
def putText (path t : Text) : m (Except FileFault Unit) := do
  match Path.parent? path with
  | none => writeText path t
  | some directory =>
    match ← createDirectories directory with
    | .ok () => writeText path t
    | .error fault => return .error fault

end FileSystem

end MigrationScript
