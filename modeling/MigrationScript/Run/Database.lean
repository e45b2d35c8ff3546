import MigrationScript.Text
import MigrationScript.Symbol

/-!
# What a run talks to

A run asks a database whether schema objects exist and hands it commands, and it asks a version
store to keep the version it raised. Both are known only by what they answer, and what they answer
may depend on everything they were asked before: each is a set of functions on a state of its own.
-/

namespace MigrationScript

/-- The kinds of schema object that a database can be asked for. -/
inductive SchemaObject where
  | table
  | column
  | index
  | procedure
  | function
  | trigger
  | domain
  | exception
  deriving DecidableEq, Repr

namespace SchemaObject

/-- Every kind of schema object. -/
def all : List SchemaObject :=
  [table, column, index, procedure, function, trigger, domain, exception]

/-- The kind of object that a guard asks for. A table name with a point is the name of a column, and
a column name without one the name of a table. -/
def ofGuard? (object : Symbol) (name : Text) : Option SchemaObject :=
  match object with
  | .table | .field => some (if name.contains '.' then column else table)
  | .index => some index
  | .function => some function
  | .procedure => some procedure
  | .trigger => some trigger
  | .exception => some exception
  | .domain => some domain
  | _ => none

end SchemaObject

/-- Whether a run goes on after a command. -/
inductive Flow where
  | proceed
  | stop
  deriving DecidableEq, Repr

/-- A database with states of type `σ`, as a run sees it. -/
structure Database (σ : Type) where
  /-- Whether an object exists. A column is named `table.column`. -/
  has : SchemaObject → Text → σ → Bool × σ
  /-- Takes a command, with the symbol it starts with and the number of its slot. -/
  execute : Symbol → Nat → Text → σ → Except String Flow × σ
  /-- Whether verbatim blocks are taken at all. -/
  handlesVerbatim : σ → Bool
  /-- Takes the lines of a verbatim block. -/
  executeVerbatim : List Text → σ → Except String Unit × σ

/-- A keeper of the schema version with states of type `τ`. -/
structure VersionStore (τ : Type) where
  save : UInt32 → StateM τ (Except String Unit)

end MigrationScript
