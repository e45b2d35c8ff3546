import MigrationScript.Keyword
import MigrationScript.Version
import MigrationScript.Text.Quoted

/-!
# How a run fails

A run fails at one statement, for one cause. It reports the cause and how many statements it had
dealt with before.
-/

namespace MigrationScript

/-- Why a run fails. -/
inductive Failure where
  /-- The script is for another application than the database. -/
  | wrongApplication (expected found : Text)
  | badVersionLiteral (value : Text)
  /-- The script declares a version that the database has passed already. -/
  | versionRegression (declared current : Version)
  | versionGateFailed (operator : Symbol) (required current : Version)
  /-- A guard asks for something that is no schema object. -/
  | badGuardObject (object : Symbol) (name : Text)
  | badGuardOperator (directive : Text) (operator : Symbol)
  | executor (message : String)
  | saveVersion (message : String)
  deriving DecidableEq, Repr

/-- A version as messages show it. -/
def Version.shown (v : Version) : String := String.ofList v.text

/-- A failure in words. -/
def Failure.message : Failure → String
  | wrongApplication expected found =>
    "wrong database: script targets " ++ Text.quoted found ++ ", database belongs to " ++
      Text.quoted expected
  | badVersionLiteral value =>
    "bad version literal " ++ Text.quoted value ++ ", expected major.minor"
  | versionRegression declared current =>
    "$lastdbu " ++ declared.shown ++ " is older than the current version " ++ current.shown
  | versionGateFailed operator required current =>
    "$dbu_version " ++ operator.spelling ++ " " ++ required.shown ++
      " does not hold for current version " ++ current.shown
  | badGuardObject object name =>
    "bad object " ++ object.spelling ++ " in guard for " ++ Text.quoted name
  | badGuardOperator directive operator =>
    "bad operator " ++ operator.spelling ++ " for " ++ String.ofList directive
  | executor message => "executor failed: " ++ message
  | saveVersion message => "saving version failed: " ++ message

/-- A failure, and the number of statements dealt with before it. -/
structure RunError where
  statement : Nat
  cause : Failure
  deriving DecidableEq, Repr

/-- A failed run in words. -/
def RunError.message (e : RunError) : String :=
  "statement #" ++ toString e.statement ++ ": " ++ e.cause.message

end MigrationScript
