import MigrationScript.FileSystem

/-!
# File trees

A file tree is a file system held in memory. It knows what lies at each place, a place being the
names on the way there from the root; the root is always a directory. Relative paths start at the
working directory.

A path is followed part by part, and every part but the last has to lead to a directory. A separator
at the end of a path asks for a directory too.
-/

namespace MigrationScript

/-- What a file holds: a text, or bytes that are no text. -/
inductive Content where
  | text (t : Text)
  | bytes (b : List UInt8)
  deriving DecidableEq, Repr

/-- What lies at a place. -/
inductive Entry where
  | directory
  | file (content : Content)
  deriving DecidableEq, Repr

/-- The names on the way from the root to a place. -/
abbrev Place := List Text

/-- Files and directories by their places. -/
structure FileTree where
  entries : List (Place × Entry) := []
  workingDirectory : Place := []
  deriving DecidableEq, Repr

namespace FileTree

/-- A tree with nothing but a working directory. -/
def empty : FileTree :=
  { entries := [(["work".toList], .directory)], workingDirectory := ["work".toList] }

/-- What lies at a place, if anything does. -/
def entry? (tree : FileTree) (place : Place) : Option Entry :=
  if place.isEmpty then some .directory else tree.entries.lookup place

/-- Puts an entry at a place, instead of what was there. -/
def put (tree : FileTree) (place : Place) (entry : Entry) : FileTree :=
  { tree with entries := (place, entry) :: tree.entries.filter fun e => e.1 ≠ place }

/-! ## Following paths -/

/-- What one part of a path does at a place. -/
inductive Move where
  | stay
  | up
  | down (name : Text)
  deriving DecidableEq, Repr

/-- The most bytes that a name may have. -/
def nameLimit : Nat := 255

/-- The move that a part of a path stands for, if the part can be one. -/
def move? (part : Text) : Except FileFault Move :=
  if Path.isIdle part then .ok .stay
  else if part = ['.', '.'] then .ok .up
  else if Text.utf8Length part > nameLimit then .error .tooLong
  else .ok (.down part)

/-- Fails unless a directory lies at a place. -/
def requireDirectory (tree : FileTree) (place : Place) : Except FileFault Unit :=
  match tree.entry? place with
  | some .directory => .ok ()
  | some (.file _) => .error .notDirectory
  | none => .error .missing

/-- Follows the parts of a path from a place on. -/
def follow (tree : FileTree) : List Text → Place → Except FileFault Place
  | [], place => .ok place
  | part :: rest, place => do
    tree.requireDirectory place
    match ← move? part with
    | .stay => follow tree rest place
    | .up => follow tree rest place.dropLast
    | .down name =>
      if (tree.entry? (place ++ [name])).isSome then follow tree rest (place ++ [name])
      else .error .missing

/-- The place where following a path starts. -/
def start (tree : FileTree) (path : Text) : Place :=
  if Path.isAbsolute path then [] else tree.workingDirectory

/-- What lies at the end of a path, and where that is. -/
def find (tree : FileTree) (path : Text) : Except FileFault (Place × Entry) := do
  FileSystem.checkPath path
  let place ← tree.follow (path.splitOn Path.separator) (tree.start path)
  match tree.entry? place with
  | some entry => return (place, entry)
  | none => .error .missing

/-! ## Operations -/

/-- The text of a file. -/
def readText (tree : FileTree) (path : Text) : Except FileFault Text := do
  match ← tree.find path with
  | (_, .file (.text t)) => return t
  | (_, .file (.bytes _)) => .error .notText
  | (_, .directory) => .error .isDirectory

/-- The tree with a file holding a content. The directory of the file has to be there, and the path
may not end in a separator. -/
def write (tree : FileTree) (path : Text) (content : Content) : Except FileFault FileTree := do
  FileSystem.checkPath path
  let parts := path.splitOn Path.separator
  let names := (parts.reverse.dropWhile List.isEmpty).reverse
  let directory ← tree.follow names.dropLast (tree.start path)
  tree.requireDirectory directory
  if names.length < parts.length then .error .isDirectory
  else
    match ← move? (names.getLastD []) with
    | .down name =>
      match tree.entry? (directory ++ [name]) with
      | some .directory => .error .isDirectory
      | _ => return tree.put (directory ++ [name]) (.file content)
    | _ => .error .isDirectory

/-- Makes the directories along some parts of a path, from a place on. Those made before a fault
stay. -/
def createAlong (tree : FileTree) : List Text → Place → Except FileFault Unit × FileTree
  | [], place => (tree.requireDirectory place, tree)
  | part :: rest, place =>
    match tree.requireDirectory place, move? part with
    | .error fault, _ => (.error fault, tree)
    | .ok (), .error fault => (.error fault, tree)
    | .ok (), .ok .stay => createAlong tree rest place
    | .ok (), .ok .up => createAlong tree rest place.dropLast
    | .ok (), .ok (.down name) =>
      let next := place ++ [name]
      if (tree.entry? next).isSome then createAlong tree rest next
      else createAlong (tree.put next .directory) rest next

/-- Makes the directory that a path leads to, and all on the way there. The empty path leads to the
working directory here. -/
def createDirectories (tree : FileTree) (path : Text) : Except FileFault Unit × FileTree :=
  if path.isEmpty then (.ok (), tree)
  else
    match FileSystem.checkPath path with
    | .error fault => (.error fault, tree)
    | .ok () => tree.createAlong (path.splitOn Path.separator) (tree.start path)

/-- The names of what lies in a directory. -/
def list (tree : FileTree) (path : Text) : Except FileFault (List Text) := do
  match ← tree.find path with
  | (place, .directory) =>
    return (tree.entries.filter fun e => e.1.dropLast = place).filterMap fun e => e.1.getLast?
  | (_, .file _) => .error .notDirectory

instance : FileSystem (StateM FileTree) where
  isFile path := do
    return match (← get).find path with
      | .ok (_, .file _) => true
      | _ => false
  isDirectory path := do
    return match (← get).find path with
      | .ok (_, .directory) => true
      | _ => false
  readText path := do return (← get).readText path
  writeText path t := do
    match (← get).write path (.text t) with
    | .ok tree => set tree; return .ok ()
    | .error fault => return .error fault
  createDirectories path := modifyGet fun tree => tree.createDirectories path
  list path := do return (← get).list path

end FileTree

end MigrationScript
