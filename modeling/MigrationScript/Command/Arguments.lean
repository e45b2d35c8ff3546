import MigrationScript.Text

/-!
# Command line arguments

A command line names a command, and for some commands the script and options. Arguments are read
from left to right, and the first that decides the matter does: a request for help or for the
version number, or a mistake.

An option takes its value after `=` or as the next argument, which then may not look like an option
itself; each option is given at most once. After `--` every argument is taken as it is.
-/

namespace MigrationScript.Command

/-- The options of `run`. -/
structure RunOptions where
  app : Option Text := none
  state : Option Text := none
  catalog : Option Text := none
  deriving DecidableEq, Repr

/-- What a command line asks for. -/
inductive Request where
  | run (script : Text) (options : RunOptions)
  | parse (script : Text)
  | list
  | configShow
  | configInit
  | configPath
  deriving DecidableEq, Repr

/-- Why a command line asks for nothing to be done. -/
inductive Stop where
  | help
  | version
  /-- The arguments make no sense. -/
  | usage
  deriving DecidableEq, Repr

/-! ## Single arguments -/

/-- An option, by its name. -/
inductive OptionName where
  | app
  | state
  | catalog
  deriving DecidableEq, Repr

/-- The option that a name stands for. -/
def OptionName.ofName? (name : Text) : Option OptionName :=
  if name = "app".toList then some app
  else if name = "state".toList then some state
  else if name = "catalog".toList then some catalog
  else none

/-- Sets an option. Options that are paths may not be empty, and none may be set twice. -/
def RunOptions.set (o : RunOptions) (name : OptionName) (value : Text) : Except Stop RunOptions :=
  match name with
  | .app => if o.app.isSome then .error .usage else .ok { o with app := some value }
  | .state =>
    if o.state.isSome || value.isEmpty then .error .usage else .ok { o with state := some value }
  | .catalog =>
    if o.catalog.isSome || value.isEmpty then .error .usage
    else .ok { o with catalog := some value }

/-- An argument by its form. -/
inductive Argument where
  /-- `--`, after which nothing is an option. -/
  | separator
  /-- `--name` or `--name=value`. -/
  | long (name : Text) (value : Option Text)
  /-- `-x`, with whatever follows. -/
  | short (letter : Char)
  | plain (value : Text)
  deriving DecidableEq, Repr

/-- The form of an argument. A lone `-` is plain. -/
def Argument.ofText : Text → Argument
  | ['-', '-'] => separator
  | '-' :: '-' :: rest =>
    match Text.splitOnce? (· = '=') rest with
    | some (name, value) => long name (some value)
    | none => long rest none
  | '-' :: c :: _ => short c
  | t => plain t

/-- Whether an argument asks for help. -/
def Argument.isHelp : Argument → Bool
  | long name none => name = "help".toList
  | short c => c = 'h'
  | _ => false

/-- Whether an argument asks for the version number. -/
def Argument.isVersion : Argument → Bool
  | long name none => name = "version".toList
  | short c => c = 'V'
  | _ => false

/-! ## The arguments of a command -/

/-- What a command takes besides its name. -/
structure Form where
  takesScript : Bool := false
  takesOptions : Bool := false

/-- What has been given to a command. -/
structure Given where
  script : Option Text := none
  options : RunOptions := {}

/-- Takes an argument that is no option. -/
def Form.plain (form : Form) (given : Given) (value : Text) : Except Stop Given :=
  if form.takesScript && given.script.isNone then .ok { given with script := some value }
  else .error .usage

/-- Reads the arguments of a command. -/
def Form.read (form : Form) (given : Given) : List Text → Except Stop Given
  | [] => .ok given
  | arg :: rest =>
    let argument := Argument.ofText arg
    if argument.isHelp then .error .help
    else
      match argument with
      | .separator => rest.foldlM form.plain given
      | .plain value => do read form (← form.plain given value) rest
      | .short _ => .error .usage
      | .long name value =>
        match if form.takesOptions then OptionName.ofName? name else none with
        | none => .error .usage
        | some option =>
          match value with
          | some value => do
            read form { given with options := ← given.options.set option value } rest
          | none =>
            match rest with
            | [] => .error .usage
            | next :: rest =>
              match Argument.ofText next with
              | .plain value => do
                read form { given with options := ← given.options.set option value } rest
              | _ => .error .usage

/-- Reads the arguments of a command that takes a script. -/
def readScript (takesOptions : Bool) (args : List Text) : Except Stop (Text × RunOptions) := do
  let given ← Form.read { takesScript := true, takesOptions } {} args
  match given.script with
  | some script => return (script, given.options)
  | none => .error .usage

/-- Reads the arguments of a command that takes none. -/
def readNothing (request : Request) (args : List Text) : Except Stop Request := do
  let _ ← Form.read {} {} args
  return request

/-! ## The command line -/

/-- What `help` stops with: the names after it have to lead to a command. -/
def helpStop (commands : List String) (args : List Text) : Stop :=
  match args with
  | [] => .help
  | [name] => if commands.any fun c => c.toList = name then .help else .usage
  | _ => .usage

/-- The commands below `config`. -/
def configCommands : List String := ["show", "init", "path", "help"]

/-- The commands. -/
def commands : List String := ["run", "parse", "list", "config", "help"]

/-- What `help` stops with on the whole command line. -/
def topHelpStop (args : List Text) : Stop :=
  match args with
  | [] => .help
  | name :: rest =>
    if name = "config".toList then helpStop configCommands rest else helpStop commands args

/-- Reads the arguments of `config`. -/
def readConfig (args : List Text) : Except Stop Request :=
  match args with
  | [] => .error .usage
  | name :: rest =>
    if name = "show".toList then readNothing .configShow rest
    else if name = "init".toList then readNothing .configInit rest
    else if name = "path".toList then readNothing .configPath rest
    else if name = "help".toList then .error (helpStop configCommands rest)
    else if (Argument.ofText name).isHelp then .error .help
    else .error .usage

/-- Reads a command line. -/
def Request.ofArguments (args : List Text) : Except Stop Request :=
  match args with
  | [] => .error .usage
  | name :: rest =>
    if name = "run".toList then do
      let (script, options) ← readScript true rest
      return .run script options
    else if name = "parse".toList then do
      let (script, _) ← readScript false rest
      return .parse script
    else if name = "list".toList then readNothing .list rest
    else if name = "config".toList then readConfig rest
    else if name = "help".toList then .error (topHelpStop rest)
    else if (Argument.ofText name).isHelp then .error .help
    else if (Argument.ofText name).isVersion then .error .version
    else .error .usage

end MigrationScript.Command
