import MigrationScript.Command.Arguments
import MigrationScript.Config
import MigrationScript.Console
import MigrationScript.Run.Engine
import MigrationScript.Script.Json
import MigrationScript.StateFile

/-!
# Commands

What the commands of the command line do, over any file system. A command gives what it prints and,
if it fails, why; what was printed before it failed is printed all the same.

The configuration of the environment is loaded before any command is carried out.
-/

namespace MigrationScript

/-- Why a command fails. -/
inductive CommandError where
  | notFound (what : Text)
  | load (e : LoadError)
  | parse (path : Text) (e : Script.ParseError)
  | run (e : RunError)
  deriving DecidableEq, Repr

/-- A failed command in words. -/
def CommandError.message : CommandError → String
  | notFound what => "FileNotFoundError: " ++ String.ofList what
  | load e => e.message
  | parse path e => "ParseError: " ++ e.message path
  | run e => "RunError: " ++ e.message

namespace Command

/-- What a command prints, and why it fails if it does. -/
structure Report where
  output : List UInt8 := []
  error : Option CommandError := none
  deriving DecidableEq, Repr

namespace Report

/-- The report of a command that prints lines. -/
def lines (ls : List Text) : Report := { output := ls.flatMap fun l => Text.utf8 (l ++ ['\n']) }

/-- The report of a command that fails before it prints anything. -/
def failure (e : CommandError) : Report := { error := some e }

/-- The exit status that tells how a command went. -/
def status (r : Report) : UInt8 := if r.error.isSome then 1 else 0

end Report

variable {m : Type → Type} [Monad m] [FileSystem m]

/-! ## Scripts -/

/-- What is said about a script that is not found. -/
def scriptNotFound (name : Text) (config : Config) : Text :=
  "Script '".toList ++ name ++ "' not found\n\nLooked in: ".toList ++ config.scriptsDir ++
    "\nSet DBU_SCRIPTS_DIR or pass a path to the script.".toList

/-- Finds and reads a script. -/
def loadScript (name : Text) (config : Config) : m (Except CommandError Script) := do
  match ← config.resolveScript name with
  | none => return .error (.notFound (scriptNotFound name config))
  | some path =>
    match ← FileSystem.readText path with
    | .error fault => return .error (.load (.file fault))
    | .ok source =>
      match Script.parse source with
      | .error e => return .error (.parse path e)
      | .ok statements => return .ok ⟨path, statements⟩

/-- Prints a script as JSON. -/
def parse (name : Text) (config : Config) : m Report := do
  match ← loadScript name config with
  | .error e => return .failure e
  | .ok script => return .lines [script.toValue.written]

/-! ## Running -/

/-- Loads the catalog, which is empty unless a file is given. -/
def loadCatalog : Option Text → m (Except LoadError Catalog)
  | none => return .ok {}
  | some path => Json.load Catalog.ofJson path

/-- What is said at the end of a run. -/
def runSummary (count : Nat) : Text :=
  "-- ".toList ++ Nat.toDigits 10 count ++ " statements processed".toList

/-- Runs a script on a state and a catalog, and saves the version it raises. -/
def runOn (script : Script) (info : VersionInfo) (state : StateFile) (catalog : Catalog) :
    m Report := do
  let save version := do
    let (answer, _) ← state.save version
    return answer
  let outcome ← Run.execute (Console.database catalog) save script.statements info {}
  let printed := outcome.database.sink.written
  match outcome.result with
  | .ok count => return { output := printed ++ (Report.lines [runSummary count]).output }
  | .error e => return { output := printed, error := some (.run e) }

/-- Runs a script on the console. A new state is that of the configured application. -/
def run (name : Text) (options : RunOptions) (config : Config) : m Report := do
  match ← loadScript name config with
  | .error e => return .failure e
  | .ok script =>
    match ← StateFile.load (options.state.getD config.stateFile) config.app with
    | .error e => return .failure (.load e)
    | .ok state =>
      let info := { state.info with app := config.resolveApp options.app state.info.app }
      match ← loadCatalog (options.catalog.or config.catalogFile) with
      | .error e => return .failure (.load e)
      | .ok catalog => runOn script info state catalog

/-! ## The other commands -/

/-- What is said about a scripts directory that is not there. -/
def directoryNotFound (config : Config) : Text :=
  "Scripts directory not found: ".toList ++ config.scriptsDir ++
    "\n\nTo fix this:\n1. Create the directory\n2. Or set DBU_SCRIPTS_DIR".toList

/-- Prints the scripts in the scripts directory. -/
def list (config : Config) : m Report := do
  if ← FileSystem.isDirectory config.scriptsDir then
    match ← config.listScripts with
    | .error fault => return .failure (.load (.file fault))
    | .ok [] => return .lines ["No .dbu or .sql scripts in ".toList ++ config.scriptsDir]
    | .ok scripts => return .lines scripts
  else return .failure (.notFound (directoryNotFound config))

/-- Writes the default configuration, unless there is one. -/
def configInit (env : Environment) : m Report := do
  let path := env.configPath
  if ← FileSystem.exists? path then
    return .lines
      ["Config already exists at: ".toList ++ path, "Remove the file to reinitialize.".toList]
  else
    let config ← Config.default env
    match ← config.save env with
    | .error fault => return .failure (.load (.file fault))
    | .ok () => return .lines ["Initialized new config at: ".toList ++ path]

/-- Carries out what a command line asks for. -/
def execute (request : Request) (env : Environment) : m Report := do
  let config ← Config.load env
  match request with
  | .run script options => run script options config
  | .parse script => parse script config
  | .list => list config
  | .configShow => return .lines [config.toJson]
  | .configInit => configInit env
  | .configPath => return .lines [env.configPath]

/-- The line that names the program and its version. -/
def versionLine : Text := "dbu-script 0.1.0".toList

end Command

end MigrationScript
