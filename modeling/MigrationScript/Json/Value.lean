import MigrationScript.Text

/-!
# JSON values and how they are written

Values are written one member or item to a line, with two spaces of indentation for each level. An
empty array or object stays on its line.
-/

namespace MigrationScript.Json

/-- A JSON value. All numbers are natural numbers, since no other occurs. -/
inductive Value where
  | null
  | bool (b : Bool)
  | number (n : Nat)
  | string (t : Text)
  | array (items : List Value)
  | object (members : List (Text × Value))
  deriving Repr, Inhabited

/-- A character inside a string. Quotes, backslashes and controls are escaped, and nothing else. -/
def escapedChar (c : Char) : Text :=
  match c with
  | '"' => ['\\', '"']
  | '\\' => ['\\', '\\']
  | '\x08' => ['\\', 'b']
  | '\x0c' => ['\\', 'f']
  | '\n' => ['\\', 'n']
  | '\r' => ['\\', 'r']
  | '\t' => ['\\', 't']
  | c =>
    if c.toNat < 0x20 then
      ['\\', 'u', '0', '0', Nat.digitChar (c.toNat / 16), Nat.digitChar (c.toNat % 16)]
    else [c]

/-- A string with its quotes. -/
def writtenString (t : Text) : Text := '"' :: t.flatMap escapedChar ++ ['"']

/-- A line break and the indentation of the line after it. -/
def lineBreak (level : Nat) : Text := '\n' :: List.replicate (2 * level) ' '

mutual

/-- A value as it is written at a level of indentation. -/
def Value.writtenAt (level : Nat) : Value → Text
  | .null => "null".toList
  | .bool true => "true".toList
  | .bool false => "false".toList
  | .number n => Nat.toDigits 10 n
  | .string t => writtenString t
  | .array [] => "[]".toList
  | .array (item :: rest) =>
    '[' :: lineBreak (level + 1) ++ item.writtenAt (level + 1) ++ writtenItems (level + 1) rest ++
      lineBreak level ++ [']']
  | .object [] => ['\x7b', '\x7d']
  | .object ((name, value) :: rest) =>
    '\x7b' :: lineBreak (level + 1) ++ writtenString name ++ ": ".toList ++
      value.writtenAt (level + 1) ++ writtenMembers (level + 1) rest ++ lineBreak level ++ ['\x7d']

/-- The items of an array after the first. -/
def writtenItems (level : Nat) : List Value → Text
  | [] => []
  | item :: rest =>
    ',' :: lineBreak level ++ item.writtenAt level ++ writtenItems level rest

/-- The members of an object after the first. -/
def writtenMembers (level : Nat) : List (Text × Value) → Text
  | [] => []
  | (name, value) :: rest =>
    ',' :: lineBreak level ++ writtenString name ++ ": ".toList ++ value.writtenAt level ++
      writtenMembers level rest

end

/-- A value as a document of its own, without a line break at the end. -/
def Value.written (v : Value) : Text := v.writtenAt 0

end MigrationScript.Json
