import MigrationScript.Guard
import MigrationScript.Run.Failure

/-!
# Checks of a run

A script can ask for an application and for a version, and can raise the version. Each of these
holds one comparison against the version information of the database, and either lets the run go on
or gives the cause of its failure.
-/

namespace MigrationScript.Comparison

/-- Whether the database belongs to the application that `$app_version` names. -/
def checkApplication (asked : Comparison) (directive : Text) (info : VersionInfo) :
    Except Failure Unit :=
  if asked.operator ≠ .equal then .error (.badGuardOperator directive asked.operator)
  else if asked.value ≠ info.app then .error (.wrongApplication info.app asked.value)
  else .ok ()

/-- The version literal of a comparison. -/
def version (asked : Comparison) : Except Failure Version :=
  match Version.parse? asked.value with
  | some v => .ok v
  | none => .error (.badVersionLiteral asked.value)

/-- The version that `$lastdbu` raises the database to, if it raises it at all. -/
def raisedVersion? (asked : Comparison) (info : VersionInfo) : Except Failure (Option UInt32) := do
  let declared ← asked.version
  if declared.encode > info.version then return some declared.encode
  else if declared.encode < info.version then .error (.versionRegression declared info.current)
  else return none

/-- Whether `$dbu_version` lets the script pass. -/
def checkVersion (asked : Comparison) (info : VersionInfo) : Except Failure Unit := do
  let required ← asked.version
  match required.gate asked.operator info.version with
  | some true => return ()
  | some false => .error (.versionGateFailed asked.operator required info.current)
  | none => .error (.badGuardOperator "$dbu_version".toList asked.operator)

end MigrationScript.Comparison
