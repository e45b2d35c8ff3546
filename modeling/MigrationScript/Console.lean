import MigrationScript.Catalog
import MigrationScript.Console.Sink
import MigrationScript.Lexeme
import MigrationScript.Run.Database
import MigrationScript.Verbatim

/-!
# The console

The console takes the place of a live database: it prints the SQL that a run would send, one command
after the other, and looks schema objects up in a catalog. It also prints what `$echo` says, keeps
what `$set @name value` assigns, and stops at `$exit`.
-/

namespace MigrationScript

/-- A console after some commands. -/
structure Console where
  /-- The values assigned by `$set`. -/
  «variables» : List (Text × Text) := []
  /-- How many commands have been sent as SQL. -/
  executed : Nat := 0
  sink : Sink := {}
  deriving DecidableEq, Repr

namespace Console

/-! ## Commands -/

/-- The statement that `add field T.C TYPE` stands for, `alter table T add C TYPE`. Single spaces
set the words of the type apart. -/
def addFieldStatement? (command : Text) : Option Text :=
  match Text.blankSeparated command with
  | _ :: field :: target :: type =>
    if Text.sameIgnoringCase field "field".toList && !type.isEmpty then
      match Text.splitOnce? (· = '.') target with
      | some (table, column) =>
        if table.isEmpty || column.isEmpty || column.contains '.' then none
        else some ("alter table ".toList ++ table ++ " add ".toList ++ column ++ ' ' ::
          Text.join [' '] type)
      | none => none
    else none
  | _ => none

/-- The text of a command after the directive word it starts with. -/
def argument (command : Text) : Text := Text.trim (Lexeme.dropLeadingWord command)

/-- A name and a value, which white space divides. -/
def assignment (t : Text) : Text × Text :=
  match Text.splitOnce? Text.isBlank t with
  | some (name, value) => (name, Text.trim value)
  | none => (t, [])

/-- Assigns a value to a name, in place of the value it had. -/
def assign (name value : Text) («variables» : List (Text × Text)) : List (Text × Text) :=
  (name, value) :: «variables».filter fun v => v.1 ≠ name

/-- What a command makes the console do. -/
inductive Action where
  /-- Print a line and stop the run. -/
  | stop (line : Text)
  /-- Print a line that is no SQL. -/
  | print (line : Text)
  | assign (name value : Text)
  /-- Send a command as SQL. -/
  | send (statement : Text)
  deriving DecidableEq, Repr

/-- What a command that starts with a symbol makes the console do. -/
def action (symbol : Symbol) (command : Text) : Action :=
  match symbol with
  | .exit => .stop "-- exit".toList
  | .echo => .print (argument command)
  | .set =>
    match argument command with
    | '@' :: rest =>
      let (name, value) := assignment rest
      .assign name value
    | _ => .send command
  | .dbu | .dbuStart | .dbuEnd => .print ("-- ".toList ++ command)
  | .add => .send ((addFieldStatement? command).getD command)
  | _ =>
    match command with
    | '$' :: rest => .send rest
    | _ => .send command

/-! ## Printing -/

/-- Prints a line. -/
def print (c : Console) (line : Text) : Except String Unit × Console :=
  let (written, sink) := c.sink.writeLine line
  (if written then .ok () else .error Sink.fullMessage, { c with sink })

/-- Prints a command as SQL. It counts as sent even if it does not fit. -/
def send (c : Console) (statement : Text) : Except String Unit × Console :=
  print { c with executed := c.executed + 1 } (statement ++ [';'])

/-- Prints commands as SQL, up to the first that does not fit. -/
def sendAll : List Text → Console → Except String Unit × Console
  | [], c => (.ok (), c)
  | statement :: rest, c =>
    match c.send statement with
    | (.ok (), c) => sendAll rest c
    | failed => failed

/-- Takes a command. -/
def execute (symbol : Symbol) (command : Text) (c : Console) : Except String Flow × Console :=
  match action symbol command with
  | .stop line => let (answer, c) := c.print line; (answer.map fun _ => .stop, c)
  | .print line => let (answer, c) := c.print line; (answer.map fun _ => .proceed, c)
  | .assign name value => (.ok .proceed, { c with «variables» := assign name value c.variables })
  | .send statement => let (answer, c) := c.send statement; (answer.map fun _ => .proceed, c)

/-- Takes a verbatim block: prints the statements it stands for, or nothing if there is a fault in
it. -/
def executeVerbatim (lines : List Text) (c : Console) : Except String Unit × Console :=
  match Verbatim.inserts lines with
  | .ok statements => sendAll statements c
  | .error fault => (.error fault.message, c)

/-- The console as a database with the objects of a catalog. -/
def database (catalog : Catalog) : Database Console where
  has kind name c := (catalog.has kind name, c)
  execute symbol _ command c := execute symbol command c
  handlesVerbatim _ := true
  executeVerbatim lines c := executeVerbatim lines c

end Console

end MigrationScript
