import MigrationScript.ColumnType
import MigrationScript.Text.Quoted
import MigrationScript.Text.WordChar

/-!
# Verbatim blocks

A verbatim block holds rows of a table. Its first line names the table and the columns,
`@TABLE,COL[type],…`; every line after it is a row, with as many values as there are columns, and
becomes one `insert` statement. Values are separated by commas and have no quotes of their own.

A block becomes statements as a whole or not at all.
-/

namespace MigrationScript

namespace Verbatim

/-- Why a block is no list of rows. -/
inductive Fault where
  | empty
  /-- The first line does not start with `@`. -/
  | noTableSign (line : Text)
  | noTableName
  | badColumn (column : Text)
  /-- A row has another number of values than there are columns. -/
  | wrongWidth (row : Text) (values columns : Nat)
  deriving DecidableEq, Repr

/-- A fault in words. -/
def Fault.message : Fault → String
  | empty => "empty verbatim block"
  | noTableSign line => "verbatim block must start with @table, found " ++ Text.quoted line
  | noTableName => "verbatim header names no table"
  | badColumn column => "bad column " ++ Text.quoted column ++ " in verbatim header"
  | wrongWidth row values columns =>
    "row " ++ Text.quoted row ++ " has " ++ toString values ++ " values for " ++ toString columns ++
      " columns"

/-- A column of a header. -/
structure Column where
  name : Text
  type : ColumnType
  deriving DecidableEq, Repr

/-- The first line of a block. -/
structure Header where
  table : Text
  columns : List Column
  deriving DecidableEq, Repr

/-! ## Reading the header -/

/-- A name at the start of a text, which may have white space around it, and what follows. -/
def name? (t : Text) : Option (Text × Text) :=
  let start := Text.trimStart t
  let name := start.takeWhile Text.isWordChar
  if name.isEmpty then none else some (name, Text.trimStart (start.dropWhile Text.isWordChar))

/-- Reads `NAME` or `NAME[type]`. -/
def column? (t : Text) : Option Column := do
  match ← name? t with
  | (name, []) => return ⟨name, .other⟩
  | (name, '[' :: rest) =>
    match ← name? rest with
    | (type, ']' :: after) =>
      if (Text.trimStart after).isEmpty then return ⟨name, .ofName type⟩ else failure
    | _ => failure
  | _ => failure

/-- Reads a column of a header. -/
def column (t : Text) : Except Fault Column :=
  match column? t with
  | some c => .ok c
  | none => .error (.badColumn t)

/-- Reads the first line of a block. -/
def header (line : Text) : Except Fault Header :=
  match line with
  | '@' :: rest => do
    let parts := rest.splitOn ','
    let table := Text.trim (parts.headD [])
    if table.isEmpty then .error .noTableName
    else return ⟨table, ← (parts.drop 1).mapM column⟩
  | _ => .error (.noTableSign line)

/-! ## Writing rows -/

/-- A character inside a quoted SQL literal: a quote is written twice. -/
def quotedChar (c : Char) : Text := if c = '\'' then ['\'', '\''] else [c]

/-- A text as a quoted SQL literal. -/
def quote (t : Text) : Text := '\'' :: t.flatMap quotedChar ++ ['\'']

/-- A raw value as an SQL literal. An empty value and the word `null` are NULL. -/
def literal (type : ColumnType) (raw : Text) : Text :=
  let value := type.clean raw
  if value.isEmpty || Text.sameIgnoringCase value "null".toList then "NULL".toList
  else if type.isInteger then value
  else quote value

/-- The names or values of a statement, in brackets. -/
def bracketed (parts : List Text) : Text := '(' :: Text.join ", ".toList parts ++ [')']

/-- The `insert` statement of a row. -/
def insert (h : Header) (row : Text) : Except Fault Text :=
  let values := row.splitOn ','
  if values.length = h.columns.length then
    .ok ("insert into ".toList ++ h.table ++ ' ' :: bracketed (h.columns.map Column.name) ++
      " values ".toList ++ bracketed (List.zipWith literal (h.columns.map Column.type) values))
  else .error (.wrongWidth row values.length h.columns.length)

/-- The `insert` statements of a block. The first fault counts. -/
def inserts : List Text → Except Fault (List Text)
  | [] => .error .empty
  | first :: rows => do
    let h ← header first
    rows.mapM (insert h)

end Verbatim

end MigrationScript
