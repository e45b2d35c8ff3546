import MigrationScript.Json.Value
import MigrationScript.Script

/-!
# Scripts in JSON

A script that has been read can be shown as a JSON value, statement by statement.
-/

namespace MigrationScript

/-- A list of texts as a JSON array. -/
def Json.Value.ofTexts (texts : List Text) : Json.Value := .array (texts.map .string)

/-- The name of a symbol as a JSON string. -/
def Symbol.toValue (s : Symbol) : Json.Value := .string s.name.toList

/-- A field as a JSON object. -/
def Field.toValue (f : Field) : Json.Value :=
  .object [("text".toList, .string f.text), ("kind".toList, f.symbol.toValue)]

/-- A statement as a JSON object. -/
def Statement.toValue (s : Statement) : Json.Value :=
  .object
    [("kind".toList, s.symbol.toValue), ("key".toList, .string s.key),
     ("fields".toList, .array (s.fields.map Field.toValue)),
     ("commands".toList, .array (s.slots.map Json.Value.ofTexts)), ("line".toList, .number s.line)]

/-- A script as a JSON object. -/
def Script.toValue (s : Script) : Json.Value :=
  .object
    [("path".toList, .string s.path),
     ("tokens".toList, .array (s.statements.map Statement.toValue))]

end MigrationScript
