import MigrationScript.Json.Record
import MigrationScript.Run.Database
import MigrationScript.Text.UpperCase

/-!
# Catalogs

A catalog lists the objects of a schema by kind, so that scripts can be run without the database. It
is kept as a JSON file; lists that are missing there are empty. Columns and indexes are listed with
the name of their table in front, `TABLE.NAME`.

Names are compared by their upper case.
-/

namespace MigrationScript

/-- The names of the objects of a schema. -/
structure Catalog where
  tables : List Text := []
  columns : List Text := []
  indexes : List Text := []
  procedures : List Text := []
  functions : List Text := []
  triggers : List Text := []
  domains : List Text := []
  exceptions : List Text := []
  deriving DecidableEq, Repr

namespace Catalog

/-- The names of the objects of one kind. -/
def names (c : Catalog) : SchemaObject → List Text
  | .table => c.tables
  | .column => c.columns
  | .index => c.indexes
  | .procedure => c.procedures
  | .function => c.functions
  | .trigger => c.triggers
  | .domain => c.domains
  | .exception => c.exceptions

/-- Whether an object is listed under its kind, in any case. -/
def has (c : Catalog) (kind : SchemaObject) (name : Text) : Bool :=
  (c.names kind).any fun listed => Text.upper listed == Text.upper name

/-- The lists of a catalog file. -/
def shape : Json.Shape :=
  ["tables", "columns", "indexes", "procedures", "functions", "triggers", "domains",
    "exceptions"].map fun name => (name.toList, .strings)

/-- A catalog from the members of its file. -/
def ofMembers (m : Json.Members) : Catalog where
  tables := (m.texts? "tables").getD []
  columns := (m.texts? "columns").getD []
  indexes := (m.texts? "indexes").getD []
  procedures := (m.texts? "procedures").getD []
  functions := (m.texts? "functions").getD []
  triggers := (m.texts? "triggers").getD []
  domains := (m.texts? "domains").getD []
  exceptions := (m.texts? "exceptions").getD []

/-- Reads a catalog file. -/
def ofJson (t : Text) : Except Json.Fault Catalog := (Json.document shape t).map ofMembers

end Catalog

end MigrationScript
