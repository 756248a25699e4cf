import SqlGate.Cli.Program

namespace SqlGate
namespace Cli

/-!
# The command line

Arguments and environment are handed to the program, and its report is printed.
Files are kept in memory and forgotten at the end; servers are out of reach.
-/

def readEnvironment : IO (List (String × String)) := do
  let names := [OptionName.database, .logLevel, .jsonLogs].filterMap variableOf?
  let found <- names.mapM fun name => do
    return (<- IO.getEnv name).map fun value => (name, value)
  return found.filterMap id

/-- What is known of the world outside. -/
def outside : Surroundings :=
  { server := { refusal := some (.io "Connection refused (os error 111)") } }

def Report.print (report : Report) : IO Unit := do
  IO.print report.output
  for line in report.hint.toList.map ("Hint: " ++ ·) ++ report.complaint.toList do
    IO.eprintln line

end Cli
end SqlGate

/-- Run the program with the arguments of the process. -/
def main (arguments : List String) : IO UInt32 := do
  let environment <- SqlGate.Cli.readEnvironment
  let report := (SqlGate.Cli.runProgram SqlGate.Cli.outside
    (fun name => environment.lookup name) arguments).1
  report.print
  return UInt32.ofNat report.exitCode
