import MigrationScript.Command

/-!
# The program

The outermost layer: the files of the machine as a file system, the variables of the process as the
environment, and the report of a command as what the process prints and exits with.
-/

namespace MigrationScript.Main

/-- A failed operation on a file of the machine. -/
def faultOf (e : IO.Error) : FileFault :=
  match e with
  | .noFileOrDirectory .. => .missing
  | e => .other e.toString

/-- Carries out an operation on files, and turns its failure into a fault. -/
def guarded {α : Type} (operation : IO α) : IO (Except FileFault α) := do
  match ← operation.toBaseIO with
  | .ok a => return .ok a
  | .error e => return .error (faultOf e)

/-- Whether a path leads to something of a type. -/
def leadsTo (type : IO.FS.FileType) (path : Text) : IO Bool := do
  let found ← guarded do
    let real ← IO.FS.realPath (String.ofList path)
    return (← real.metadata).type == type
  match found with
  | .ok b => return b
  | .error _ => return false

instance : FileSystem IO where
  isFile := leadsTo .file
  isDirectory := leadsTo .dir
  readText path := do
    match ← guarded (IO.FS.readBinFile (String.ofList path)) with
    | .error fault => return .error fault
    | .ok bytes =>
      match String.fromUTF8? bytes with
      | some s => return .ok s.toList
      | none => return .error .notText
  writeText path t := guarded (IO.FS.writeFile (String.ofList path) (String.ofList t))
  createDirectories path :=
    if path.isEmpty then return .ok ()
    else
      match FileSystem.checkPath path with
      | .error fault => return .error fault
      | .ok () => guarded (IO.FS.createDirAll (String.ofList path))
  list path := guarded do
    let entries ← (← IO.FS.realPath (String.ofList path)).readDir
    return (entries.map fun entry => entry.fileName.toList).toList

/-- A variable of the process. -/
def readVariable (name : String) : IO (Option Text) := do
  return (← IO.getEnv name).map String.toList

/-- The variables of the process that the program looks at. -/
def environment : IO Environment := do
  return {
    home := ← readVariable "HOME"
    envName := ← readVariable "DBU_ENV"
    installDir := ← readVariable "DBU_INSTALL_DIR"
    overrides :=
      { app := ← readVariable "DBU_APP"
        scriptsDir := ← readVariable "DBU_SCRIPTS_DIR"
        stateFile := ← readVariable "DBU_STATE"
        catalogFile := ← readVariable "DBU_CATALOG" } }

/-- How the program is called. -/
def usage : String :=
  "dbu migration script runner\n\n" ++
  "Usage: dbu <COMMAND>\n\n" ++
  "Commands:\n" ++
  "  run <SCRIPT> [--app <APP>] [--state <STATE>] [--catalog <CATALOG>]\n" ++
  "          Run a script, printing the SQL it would execute\n" ++
  "  parse <SCRIPT>\n" ++
  "          Print the parsed tokens of a script as JSON\n" ++
  "  list    List scripts in the scripts directory\n" ++
  "  config show|init|path\n" ++
  "          Manage dbu configuration\n" ++
  "  help    Print this message\n\n" ++
  "Options:\n" ++
  "  -h, --help     Print help\n" ++
  "  -V, --version  Print version\n"

/-- Prints a report, and gives the exit status. -/
def conclude (report : Command.Report) : IO UInt32 := do
  let out ← IO.getStdout
  out.write (ByteArray.mk report.output.toArray)
  out.flush
  if let some e := report.error then
    IO.eprintln ("Error: " ++ e.message)
  return report.status.toUInt32

end MigrationScript.Main

open MigrationScript in
/-- Carries out a command line. -/
def main (args : List String) : IO UInt32 := do
  match Command.Request.ofArguments (args.map String.toList) with
  | .error .help =>
    IO.print Main.usage
    return 0
  | .error .version =>
    IO.println (String.ofList Command.versionLine)
    return 0
  | .error .usage =>
    IO.eprint Main.usage
    return 2
  | .ok request => Main.conclude (← Command.execute request (← Main.environment))
