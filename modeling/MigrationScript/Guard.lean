import MigrationScript.Statement

/-!
# What the fields of a directive say

A directive is followed by argument words. Read as a comparison they give an operator and a value
(`>= 3.4`); read as an existence guard they give an object and its name (`! exist table FOO`); read
as a one-line guard they also give the action of the command that follows (`create index IX on T`).

Reading never fails. What is missing stays at its default, the plain symbol or the empty name, and
the run decides whether that is an error.
-/

namespace MigrationScript

namespace Field

/-- The last symbol with a property among the fields, plain if there is none. -/
def lastSymbol (p : Symbol → Bool) (fields : List Field) : Symbol :=
  ((fields.map Field.symbol).reverse.find? p).getD .plain

/-- The first plain field with a text, empty if there is none. -/
def firstName (fields : List Field) : Text :=
  ((fields.find? fun f => f.symbol = .plain && !f.text.isEmpty).map Field.text).getD []

/-- Whether some field stands for a symbol. -/
def mentions (s : Symbol) (fields : List Field) : Bool := fields.any fun f => f.symbol = s

end Field

/-- An operator and the value it compares with, as in `$dbu_version >= 3.4`. The operator may be
missing, as in `$lastdbu 3.6`. -/
structure Comparison where
  operator : Symbol
  value : Text
  deriving DecidableEq, Repr

/-- The operator is the first field if that is one; the value is the first field that is none. -/
def Comparison.ofFields (fields : List Field) : Comparison where
  operator := (fields.head?.map Field.symbol).filter Symbol.isOperator |>.getD .plain
  value := ((fields.find? fun f => !f.symbol.isOperator).map Field.text).getD []

/-- The question of an `$if` line: `[!|not] exist[s] <object> <name>`. -/
structure ExistenceGuard where
  operator : Symbol
  negated : Bool
  object : Symbol
  name : Text
  deriving DecidableEq, Repr

/-- The parts may come in any order. Of several objects the last counts, of several names the
first. -/
def ExistenceGuard.ofFields (fields : List Field) : ExistenceGuard where
  operator := if Field.mentions .exist fields then .exist else .plain
  negated := Field.mentions .negation fields
  object := Field.lastSymbol Symbol.isSchemaObject fields
  name := Field.firstName fields

/-- The question of a `$ie` or `$ine` line, taken from the command that stands on it. -/
structure OneLineGuard where
  action : Symbol
  object : Symbol
  name : Text
  deriving DecidableEq, Repr

/-- The name stands before the first `on`. A name between the first `on` and the second is the table
that the object belongs to, and qualifies its name. -/
def OneLineGuard.ofFields (fields : List Field) : OneLineGuard :=
  let beforeOn (fs : List Field) := fs.takeWhile fun f => f.symbol ≠ .on
  let name := Field.firstName (beforeOn fields)
  let table := Field.firstName (beforeOn ((fields.dropWhile fun f => f.symbol ≠ .on).drop 1))
  { action := Field.lastSymbol (fun s => s = .create || s = .drop) fields
    object := Field.lastSymbol Symbol.isSchemaObject fields
    name := if table.isEmpty then name else table ++ '.' :: name }

end MigrationScript
