import MigrationScript.Json.Record
import MigrationScript.Version

/-!
# Version information in JSON

What a database records about its schema is kept as a JSON record. Any member may be missing there;
it then has the value it has in a new database.
-/

namespace MigrationScript.VersionInfo

/-- The members of the record. -/
def shape : Json.Shape :=
  [("version".toList, .natural), ("app".toList, .string), ("change".toList, .string),
   ("show".toList, .boolean), ("hide".toList, .boolean)]

/-- Version information as a record. -/
def toMembers (info : VersionInfo) : Json.Members :=
  [("version".toList, .number info.version.toNat), ("app".toList, .string info.app),
   ("change".toList, .string info.change), ("show".toList, .bool info.shown),
   ("hide".toList, .bool info.hidden)]

/-- Version information from the members of its record. -/
def ofMembers (m : Json.Members) : VersionInfo :=
  let new : VersionInfo := {}
  { version := ((m.number? "version").map UInt32.ofNat).getD new.version
    app := (m.text? "app").getD new.app
    change := (m.text? "change").getD new.change
    shown := (m.bool? "show").getD new.shown
    hidden := (m.bool? "hide").getD new.hidden }

/-- Version information as it is written to a file. -/
def toJson (info : VersionInfo) : Text := (Json.Value.object info.toMembers).written

/-- Reads version information from a file. -/
def ofJson (t : Text) : Except Json.Fault VersionInfo := (Json.document shape t).map ofMembers

end MigrationScript.VersionInfo
