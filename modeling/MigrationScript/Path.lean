import MigrationScript.Text

/-!
# Paths

A path is a text, and is kept as it was written: `a//b` and `./a/b` stay what they are. Only where a
path is followed do its parts count.
-/

namespace MigrationScript.Path

/-- The character between the parts of a path. -/
def separator : Char := '/'

/-- Whether a path starts at the root. -/
def isAbsolute (path : Text) : Bool := path.head? = some separator

/-- A path that starts where another one leads. An absolute path leads to where it always does. -/
def join (base path : Text) : Text :=
  if isAbsolute path || base.isEmpty then path
  else if base.getLast? = some separator then base ++ path
  else base ++ separator :: path

/-- Whether a part of a path leads nowhere: an empty part and a single point stay where they are. -/
def isIdle (part : Text) : Bool := part = [] || part = ['.']

/-- Parts of a path, without those at the end that lead nowhere. -/
def dropIdleEnd (parts : List Text) : List Text := (parts.reverse.dropWhile isIdle).reverse

/-- The path of the directory that a path leads into, up to there as it was written. The empty path
stands for the directory that relative paths start from. -/
def parent? (path : Text) : Option Text :=
  match dropIdleEnd (path.splitOn separator) with
  | [] => none
  | parts =>
    let directory := Text.join [separator] (dropIdleEnd parts.dropLast)
    some (if directory.isEmpty && isAbsolute path then [separator] else directory)

/-- The part of a file name after its last point. A point that starts the name does not count. -/
def extension? (name : Text) : Option Text :=
  let ending := (name.reverse.takeWhile (· ≠ '.')).reverse
  if ending.length + 1 < name.length then some ending else none

end MigrationScript.Path
