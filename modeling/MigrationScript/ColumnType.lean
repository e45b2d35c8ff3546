import MigrationScript.Text

/-!
# Column types

The value of a column is written into an `insert` statement according to the type of the column.
Only as much of a type is known as this needs.
-/

namespace MigrationScript

/-- The type of a column, as far as writing its values goes. -/
inductive ColumnType where
  | tinyInt
  | smallInt
  | mediumInt
  | int
  | bigInt
  | varchar
  | text
  | timestamp
  | other
  deriving DecidableEq, Repr

namespace ColumnType

/-- The names of types, in capitals. -/
def names : List (String × ColumnType) :=
  [("TINYINT", tinyInt), ("SMALLINT", smallInt), ("SHORT", smallInt), ("MEDIUMINT", mediumInt),
   ("INT", int), ("INTEGER", int), ("LONG", int), ("BIGINT", bigInt), ("INT64", bigInt),
   ("VARCHAR", varchar), ("VARYING", varchar), ("TEXT", text), ("BLOB", text),
   ("TIMESTAMP", timestamp), ("DATETIME", timestamp)]

/-- The type with a name, in any case of ASCII letters and with any white space around it. -/
def ofName (name : Text) : ColumnType :=
  let wanted := Text.asciiUpper (Text.trim name)
  ((names.find? fun entry => entry.1.toList == wanted).map Prod.snd).getD other

/-- Whether values of the type are whole numbers. -/
def isInteger : ColumnType → Bool
  | tinyInt | smallInt | mediumInt | int | bigInt => true
  | varchar | text | timestamp | other => false

/-- How many characters a printed value takes, where the type fixes that. -/
def width : ColumnType → Option Nat
  | tinyInt => some 4
  | smallInt => some 6
  | mediumInt => some 8
  | int => some 11
  | bigInt => some 20
  | timestamp => some 19
  | varchar | text | other => none

/-- The characters of a date and a time of day, without fractions of a second and time zone. -/
def timestampLength : Nat := 19

/-- A raw value in the form in which the type writes it. A whole number keeps its digits and is
negative if a minus sign stands anywhere; a time loses its `T` and whatever follows the seconds; any
other value is trimmed. -/
def clean (type : ColumnType) (raw : Text) : Text :=
  if type.isInteger then
    let digits := raw.filter Char.isDigit
    if raw.contains '-' then '-' :: digits else digits
  else if type = timestamp then
    ((Text.trim raw).map fun c => if c = 'T' then ' ' else c).take timestampLength
  else Text.trim raw

end ColumnType

end MigrationScript
