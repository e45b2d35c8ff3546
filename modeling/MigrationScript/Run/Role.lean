import MigrationScript.Guard
import MigrationScript.Lexeme

/-!
# The role of a statement

What a statement does in a run is decided by its directive alone. Its commands reach the database
with a symbol each, by which the database can tell directives and `add field` from other SQL.
-/

namespace MigrationScript

/-- How a statement takes part in a run. -/
inductive Role where
  | checkApplication (asked : Comparison)
  | raiseVersion (asked : Comparison)
  | checkVersion (asked : Comparison)
  | setShown (shown : Bool)
  | setHidden (hidden : Bool)
  | guardedBlock (guard : ExistenceGuard)
  | guardedLine (guard : OneLineGuard) (negated : Bool)
  | verbatim
  | commands
  deriving DecidableEq, Repr

/-- The role of a statement. -/
def Statement.role (s : Statement) : Role :=
  match s.symbol with
  | .appVersion => .checkApplication (.ofFields s.fields)
  | .lastDbu => .raiseVersion (.ofFields s.fields)
  | .dbuVersion => .checkVersion (.ofFields s.fields)
  | .showOn => .setShown true
  | .showOff => .setShown false
  | .hideOn => .setHidden true
  | .hideOff => .setHidden false
  | .ifBlock => .guardedBlock (.ofFields s.fields)
  | .ifExists => .guardedLine (.ofFields s.fields) false
  | .ifMissing => .guardedLine (.ofFields s.fields) true
  | .verbatimStart => .verbatim
  | _ => .commands

/-- The symbol that a command is handed over with, unless its guard gives another: the directive it
starts with if that is a directive for the database, `add` for `add field`, and otherwise plain. -/
def Slot.symbol (slot : Slot) : Symbol :=
  match Lexeme.words (slot.headD []) with
  | [] => .plain
  | head :: rest =>
    if head.head? = some '$' then
      match Keyword.directive? head with
      | some .exit => .exit
      | some .echo => .echo
      | some .set => .set
      | some .drop => .drop
      | some .dbu => .dbu
      | some .dbuStart => .dbuStart
      | some .dbuEnd => .dbuEnd
      | _ => .plain
    else if Keyword.sql? head = some .add && rest.head?.bind Keyword.directive? = some .field then
      .add
    else .plain

end MigrationScript
