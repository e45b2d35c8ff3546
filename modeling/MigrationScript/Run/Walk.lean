import MigrationScript.Run.Check
import MigrationScript.Run.Database
import MigrationScript.Run.Role

/-!
# Walking through a script

The statements of a script are dealt with once, from the first to the last. A statement checks
something, raises the version, changes what is shown, or hands its commands to the database, perhaps
only if a guard holds. The walk ends early when a check fails, or when the database fails or asks to
stop; what comes after that is never looked at.

Raising the version takes effect at once for the statements that follow.
-/

namespace MigrationScript.Run

/-- What a run knows between two statements. -/
structure Session (σ : Type) where
  info : VersionInfo
  /-- The version to be saved, if it was raised. -/
  pending : Option UInt32 := none
  /-- How many statements have been dealt with. -/
  count : Nat := 0
  database : σ

/-- What a statement says about those after it. At the end of a walk, `next` means that no statement
is left. -/
inductive Signal where
  | next
  | halt
  | fail (cause : Failure)
  deriving DecidableEq, Repr

variable {σ : Type}

/-- Goes on to the next statement, which is `n` further on in the count. -/
def Session.advance (s : Session σ) (n : Nat) : Signal × Session σ :=
  (.next, { s with count := s.count + n })

/-- Goes on to the next statement if a check came out well. -/
def Session.afterCheck (s : Session σ) : Except Failure Unit → Signal × Session σ
  | .ok () => s.advance 1
  | .error cause => (.fail cause, s)

/-- Raises the version, for the rest of the run and to be saved after it. -/
def Session.raise (s : Session σ) (version : UInt32) : Session σ :=
  { s with info := { s.info with version }, pending := some version }

/-- Hands slots to the database, from slot number `i` on, until one fails or stops the run. -/
def executeSlots (db : Database σ) (symbolOf : Slot → Symbol) (i : Nat) :
    List Slot → σ → Signal × σ
  | [], d => (.next, d)
  | slot :: rest, d =>
    match db.execute (symbolOf slot) i slot.command d with
    | (.ok .proceed, d) => executeSlots db symbolOf (i + 1) rest d
    | (.ok .stop, d) => (.halt, d)
    | (.error message, d) => (.fail (.executor message), d)

/-- Hands the slots of a statement to the database, and counts the statement if all were taken. -/
def executeCommands (db : Database σ) (symbolOf : Slot → Symbol) (slots : List Slot)
    (s : Session σ) : Signal × Session σ :=
  match executeSlots db symbolOf 0 slots s.database with
  | (.next, d) => { s with database := d }.advance 1
  | (signal, d) => (signal, { s with database := d })

/-- Hands the slots of a statement to the database if an object exists, or if it does not. -/
def executeGuarded (db : Database σ) (object : Symbol) (name : Text) (negated : Bool)
    (symbolOf : Slot → Symbol) (slots : List Slot) (s : Session σ) : Signal × Session σ :=
  match SchemaObject.ofGuard? object name with
  | none => (.fail (.badGuardObject object name), s)
  | some kind =>
    let (found, d) := db.has kind name s.database
    let s := { s with database := d }
    if found != negated then executeCommands db symbolOf slots s else s.advance 1

/-- Hands a verbatim block to the database, which counts as many statements as it has lines, and as
one statement if it has none or is not taken. -/
def executeBlock (db : Database σ) (lines : List Text) (s : Session σ) : Signal × Session σ :=
  if db.handlesVerbatim s.database then
    match db.executeVerbatim lines s.database with
    | (.ok (), d) => { s with database := d }.advance (max 1 lines.length)
    | (.error message, d) => (.fail (.executor message), { s with database := d })
  else s.advance 1

/-- What a statement does. -/
def step (db : Database σ) (statement : Statement) (s : Session σ) : Signal × Session σ :=
  match statement.role with
  | .checkApplication asked => s.afterCheck (asked.checkApplication statement.key s.info)
  | .raiseVersion asked =>
    match asked.raisedVersion? s.info with
    | .ok (some version) => (s.raise version).advance 1
    | .ok none => s.advance 1
    | .error cause => (.fail cause, s)
  | .checkVersion asked => s.afterCheck (asked.checkVersion s.info)
  | .setShown shown => { s with info := { s.info with shown } }.advance 1
  | .setHidden hidden => { s with info := { s.info with hidden } }.advance 1
  | .guardedBlock guard =>
    if guard.operator ≠ .exist then (.fail (.badGuardOperator statement.key guard.operator), s)
    else executeGuarded db guard.object guard.name guard.negated Slot.symbol statement.slots s
  | .guardedLine guard negated =>
    executeGuarded db guard.object guard.name negated (fun _ => guard.action) statement.slots s
  | .verbatim => executeBlock db statement.lines s
  | .commands => executeCommands db Slot.symbol statement.slots s

/-- Walks statements until one does not go on to the next. -/
def walk (db : Database σ) : List Statement → Session σ → Signal × Session σ
  | [], s => (.next, s)
  | statement :: rest, s =>
    match step db statement s with
    | (.next, s) => walk db rest s
    | (signal, s) => (signal, s)

end MigrationScript.Run
