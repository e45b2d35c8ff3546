import MigrationScript.Json.File
import MigrationScript.Json.Record

/-!
# Configuration

The configuration says where scripts, the version state and the catalog are, and which application
the database belongs to. It is kept in a file for every environment of the user, `default` unless
named otherwise, and is written there with its defaults when it is first looked for. Four settings
can be overridden by the process environment; since the defaults are overridden too, an override in
force when the file is first written stays in it.
-/

namespace MigrationScript

/-- Settings that replace those of the configuration. -/
structure Overrides where
  app : Option Text := none
  scriptsDir : Option Text := none
  stateFile : Option Text := none
  catalogFile : Option Text := none
  deriving DecidableEq, Repr

/-- The process environment, as far as the configuration depends on it. -/
structure Environment where
  home : Option Text := none
  envName : Option Text := none
  installDir : Option Text := none
  overrides : Overrides := {}
  deriving DecidableEq, Repr

/-- The settings of one environment. -/
structure Config where
  installDir : Text
  scriptsDir : Text
  envName : Text
  app : Text
  stateFile : Text
  catalogFile : Option Text
  deriving DecidableEq, Repr

namespace Environment

/-- The directory of the user. -/
def homeDir (env : Environment) : Text := env.home.getD ['.']

/-- The name of the environment. -/
def name (env : Environment) : Text := env.envName.getD "default".toList

/-- The directory of the environment, below that of the user. -/
def directory (env : Environment) : Text :=
  Path.join (Path.join env.homeDir ".dbu".toList) env.name

/-- The file that keeps the configuration. -/
def configPath (env : Environment) : Text := Path.join env.directory "config.json".toList

end Environment

namespace Config

/-- The application of a configuration that names none. -/
def noApp : Text := "none".toList

/-! ## The record -/

/-- The members of the record. -/
def shape : Json.Shape :=
  [("install_dir".toList, .string), ("scripts_dir".toList, .string), ("env_name".toList, .string),
   ("app".toList, .string), ("state_file".toList, .string),
   ("catalog_file".toList, .nullableString)]

/-- A configuration as a record. -/
def toMembers (c : Config) : Json.Members :=
  [("install_dir".toList, .string c.installDir), ("scripts_dir".toList, .string c.scriptsDir),
   ("env_name".toList, .string c.envName), ("app".toList, .string c.app),
   ("state_file".toList, .string c.stateFile),
   ("catalog_file".toList, c.catalogFile.elim .null .string)]

/-- A configuration from the members of its record. The application and the catalog may be
missing. -/
def ofMembers (m : Json.Members) : Option Config := do
  return {
    installDir := ← m.text? "install_dir"
    scriptsDir := ← m.text? "scripts_dir"
    envName := ← m.text? "env_name"
    app := (m.text? "app").getD noApp
    stateFile := ← m.text? "state_file"
    catalogFile := m.text? "catalog_file" }

/-- A configuration as it is written to its file. -/
def toJson (c : Config) : Text := (Json.Value.object c.toMembers).written

/-- Reads a configuration from its file. -/
def ofJson (t : Text) : Except Json.Fault Config := do
  match ofMembers (← Json.document shape t) with
  | some c => return c
  | none => .error .mismatched

/-! ## Overriding -/

/-- A configuration with settings replaced. -/
def override (c : Config) (o : Overrides) : Config :=
  { c with
    app := o.app.getD c.app
    scriptsDir := o.scriptsDir.getD c.scriptsDir
    stateFile := o.stateFile.getD c.stateFile
    catalogFile := o.catalogFile.or c.catalogFile }

/-- The application that a run checks scripts against: the one asked for, else the one configured,
else the one that the state records. -/
def resolveApp (c : Config) (asked : Option Text) (stored : Text) : Text :=
  (asked.or (if c.app = noApp then none else some c.app)).getD stored

/-! ## Loading and saving -/

variable {m : Type → Type} [Monad m] [FileSystem m]

/-- Where scripts are looked for by default, if that is a directory. -/
def localScripts : Text := "./scripts".toList

/-- The configuration of an environment that has none yet. -/
def default (env : Environment) : m Config := do
  let installDir := env.installDir.getD env.directory
  let scriptsDir :=
    if ← FileSystem.isDirectory localScripts then localScripts
    else Path.join installDir "scripts".toList
  let config : Config :=
    { installDir, scriptsDir, envName := env.name, app := noApp
      stateFile := Path.join installDir "state.json".toList, catalogFile := none }
  return config.override env.overrides

/-- Loads a configuration from a file. -/
def loadFrom (path : Text) : m (Except LoadError Config) := Json.load ofJson path

/-- Writes a configuration to a file. -/
def saveTo (c : Config) (path : Text) : m (Except FileFault Unit) :=
  FileSystem.putText path c.toJson

/-- Writes a configuration to the file of an environment. -/
def save (c : Config) (env : Environment) : m (Except FileFault Unit) := c.saveTo env.configPath

/-- Loads the configuration of an environment, and writes the defaults if there is none. The
defaults also stand in for a file that cannot be loaded. -/
def load (env : Environment) : m Config := do
  if ← FileSystem.exists? env.configPath then
    match ← loadFrom env.configPath with
    | .ok config => return config.override env.overrides
    | .error _ => default env
  else
    let config ← default env
    let _ ← config.save env
    return config

/-! ## Scripts -/

/-- The file that a script is read from: the argument itself if it is the path of a file, else the
file of that name in the scripts directory, with or without its extension. -/
def resolveScript (c : Config) (name : Text) : m (Option Text) := do
  let inScripts := Path.join c.scriptsDir name
  let withExtension := Path.join c.scriptsDir (name ++ ".dbu".toList)
  if ← FileSystem.isFile name then return some name
  else if ← FileSystem.isFile inScripts then return some inScripts
  else if ← FileSystem.isFile withExtension then return some withExtension
  else return none

/-- Whether a file name has the extension of a script. -/
def isScriptName (name : Text) : Bool :=
  match Path.extension? name with
  | some ending => ending = "dbu".toList || ending = "sql".toList
  | none => false

/-- The scripts in the scripts directory, in the order of their names. -/
def listScripts (c : Config) : m (Except FileFault (List Text)) := do
  match ← FileSystem.list c.scriptsDir with
  | .error fault => return .error fault
  | .ok names =>
    let sorted := (names.filter isScriptName).mergeSort fun a b => !(decide (b < a))
    return .ok (sorted.map fun name => Path.join c.scriptsDir name)

end Config

end MigrationScript
