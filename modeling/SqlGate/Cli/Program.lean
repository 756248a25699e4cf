import SqlGate.Cli.Report
import SqlGate.Embedded.Engine
import SqlGate.Wire.Inspector

namespace SqlGate
namespace Cli

/-!
# The program

The program reads its settings, finds the database that they name, and runs the
command.  Which databases can be reached is its surroundings: files by their
paths, and a server.
-/

/-- The databases that can be reached. -/
structure Surroundings where
  files : List (String × Embedded.Database) := []
  /-- Where a file can be made. -/
  isWritable : String -> Bool := fun _ => true
  server : Wire.Server := {}

namespace Surroundings

/-- The engine on the database of a configuration. -/
def engine (around : Surroundings) (config : ConnectionConfig) : Embedded.Engine :=
  if config.isInMemory then { location := .memory }
  else
    match around.files.lookup config.database with
    | some database => { location := .file, shared := database }
    | none =>
        { location := if around.isWritable config.database then .file else .unreachable }

/-- Keep what an engine left in a file. -/
def keep (around : Surroundings) (config : ConnectionConfig) (engine : Embedded.Engine) :
    Surroundings :=
  if engine.location = .file then
    { around with
      files := (config.database, engine.shared)
        :: around.files.filter fun entry => entry.1 != config.database }
  else around

/-- Run a command on the database of a configuration. -/
def run (around : Surroundings) (config : ConnectionConfig) (command : Command) :
    Report × Surroundings :=
  match config.kind with
  | .sqlite =>
      let done := command.report Embedded.Engine.driver Embedded.Engine.catalog config
        (around.engine config)
      (done.1, around.keep config done.2)
  | .postgres =>
      let done := command.report Wire.Server.driver Wire.Server.catalog config around.server
      (done.1, { around with server := done.2 })

end Surroundings

/-! ## Usage -/

def usage : String :=
  "\n".intercalate
    ["Usage: sqlgate [OPTIONS] --database <URL> <COMMAND>",
      "",
      "Commands:",
      "  tables             List tables and views",
      "  describe <TABLE>   Describe the columns, primary key and foreign keys of a table",
      "  query <SQL>        Run a statement; each -p, --param <VALUE> is bound to a placeholder",
      "  help               Print this text",
      "",
      "Options:",
      "  -d, --database <URL>       The database, postgres://... or sqlite:...",
      "      --log-level <LEVEL>    Which events are logged",
      "      --json-logs            Log them as documents",
      "  -h, --help                 Print this text",
      "  -V, --version              Print the version",
      ""]

/-- What is told of arguments that give no settings. -/
def ArgumentFault.report : ArgumentFault -> Report
  | .displayHelp => { exitCode := 0, output := usage }
  | .displayVersion => { exitCode := 0, output := "sqlgate 0.1.0\n" }
  | _ => { exitCode := 2, complaint := some usage }

def runProgram (around : Surroundings) (environment : String -> Option String)
    (arguments : List String) : Report × Surroundings :=
  match Settings.read arguments environment with
  | .error fault => (fault.report, around)
  | .ok settings =>
      match ConnectionConfig.ofUrl settings.database with
      | .error fault => (Report.ofFailure fault.toFailure none, around)
      | .ok config => around.run config settings.command

end Cli
end SqlGate
