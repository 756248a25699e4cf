import SqlGate.Cli.Scan

namespace SqlGate
namespace Cli

/-!
# Settings

The settings of the program come from its arguments, and what is not among them
from its environment.  The command is read before the options in front of it
are settled, so what is wrong behind a command is told first.
-/

/-- What the program is asked to do. -/
inductive Command where
  /-- List the tables and views. -/
  | tables
  | describe (table : String)
  /-- Run a statement with values for its placeholders. -/
  | query (sql : String) (params : List String)
deriving DecidableEq, Repr

/-- The settings of the program. -/
structure Settings where
  /-- The URL of the database. -/
  database : String
  /-- Which events are logged. -/
  logLevel : String
  /-- Whether they are logged as documents. -/
  jsonLogs : Bool
  /-- What to do. -/
  command : Command
deriving DecidableEq, Repr

/-! ## Levels -/

def helpOption : OptionSpec :=
  { name := .help, long := "help", short := some 'h' }

def programLevel : Level :=
  { options :=
      [{ name := .database, long := "database", short := some 'd', takesValue := true },
        { name := .logLevel, long := "log-level", takesValue := true },
        { name := .jsonLogs, long := "json-logs" },
        helpOption,
        { name := .version, long := "version", short := some 'V' }]
    commands := ["tables", "describe", "query", "help"] }

def tablesLevel : Level :=
  { options := [helpOption] }

def describeLevel : Level :=
  { options := [helpOption], plainCount := 1 }

def queryLevel : Level :=
  { options :=
      [{ name := .param, long := "param", short := some 'p', takesValue := true,
          isRepeatable := true },
        helpOption]
    plainCount := 1 }

/-! ## Commands -/

def readLevel (level : Level) (arguments : List String) : Except ArgumentFault Scan := do
  (<- Scan.run level {} arguments).1.settle

def neededPlain (scan : Scan) : Except ArgumentFault String :=
  match scan.plain with
  | argument :: _ => .ok argument
  | [] => .error .missingRequiredArgument

/-- What `help` answers: the usage, of a command if there is one of that name. -/
def helpFault : List String -> ArgumentFault
  | [] => .displayHelp
  | [name] => if programLevel.commands.contains name then .displayHelp else .invalidSubcommand
  | _ => .invalidSubcommand

def readCommand (name : String) (arguments : List String) : Except ArgumentFault Command :=
  match name with
  | "tables" => do
      let _ <- readLevel tablesLevel arguments
      return .tables
  | "describe" => do
      return .describe (<- neededPlain (<- readLevel describeLevel arguments))
  | "query" => do
      let scan <- readLevel queryLevel arguments
      return .query (<- neededPlain scan) (scan.values .param)
  | _ => .error (helpFault arguments)

/-! ## Environment -/

def variableOf? : OptionName -> Option String
  | .database => some "TARMAC_DATABASE"
  | .logLevel => some "TARMAC_LOG_LEVEL"
  | .jsonLogs => some "TARMAC_JSON_LOGS"
  | _ => none

/-- The value of an option, from the arguments or from the environment. -/
def valueOf? (scan : Scan) (environment : String -> Option String) (name : OptionName) :
    Option String :=
  match scan.values name with
  | value :: _ => some value
  | [] => (variableOf? name).bind environment

def truthOf : String -> Except ArgumentFault Bool
  | "true" => .ok true
  | "false" => .ok false
  | _ => .error .invalidValue

/-- What is logged unless something else is asked for. -/
def defaultLogLevel : String := "warn"

/-- The settings of an argument list in an environment. -/
def Settings.read (arguments : List String) (environment : String -> Option String) :
    Except ArgumentFault Settings := do
  let (scan, found) <- Scan.run programLevel {} arguments
  let command <- found.mapM fun entry => readCommand entry.1 entry.2
  let scan <- scan.settle
  let value := valueOf? scan environment
  let jsonLogs <- ((value .jsonLogs).map truthOf).getD (.ok false)
  match command, value .database with
  | some command, some database =>
      return ⟨database, (value .logLevel).getD defaultLogLevel, jsonLogs, command⟩
  | some _, none => .error .missingRequiredArgument
  | none, database =>
      if database.isNone && (value .logLevel).isNone && (value .jsonLogs).isNone then
        .error .displayHelpOnMissingArgumentOrSubcommand
      else .error .missingSubcommand

end Cli
end SqlGate
