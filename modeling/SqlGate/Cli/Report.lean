import SqlGate.Catalog.Inspector
import SqlGate.Cli.Settings

namespace SqlGate
namespace Cli

/-!
# Running a command

A command is run on a manager of its own, which is made and tried first and
closed at the end.  What it answers is printed as a document; a failure is told
beside it, with a hint if it was the connection that failed.
-/

/-- What a run leaves behind. -/
structure Report where
  exitCode : Nat
  /-- What is printed. -/
  output : String := ""
  /-- What is told of a failure. -/
  complaint : Option String := none
  /-- What may help. -/
  hint : Option String := none
deriving DecidableEq, Repr

namespace Report

def ofDocument (document : Json) : Report :=
  { exitCode := 0, output := document.wide ++ "\n" }

def ofFailure (failure : Failure) (hint : Option String) : Report :=
  { exitCode := 1, complaint := some failure.message, hint := hint }

end Report

variable {σ : Type}

def Command.answer (driver : Driver σ) (catalog : Catalog σ) (m : ManagerId) (g : Gateway σ) :
    Command -> Outcome Json × Gateway σ
  | .tables =>
      let done := catalog.listTables driver m none g
      (done.1.map fun tables => .list (tables.map TableInfo.toJson), done.2)
  | .describe table =>
      let done := catalog.describe driver m table g
      (done.1.map TableSchema.toJson, done.2)
  | .query sql params =>
      let done := g.query driver m sql (params.map Value.parseLoose)
      (done.1.map QueryResult.toJson, done.2)

def Command.report (driver : Driver σ) (catalog : Catalog σ) (config : ConnectionConfig)
    (command : Command) (database : σ) : Report × σ :=
  match Gateway.connect driver config { database := database } with
  | (.error failure, g) => (Report.ofFailure failure failure.suggestion, g.database)
  | (.ok m, g) =>
      let done := command.answer driver catalog m g
      let report :=
        match done.1 with
        | .ok document => Report.ofDocument document
        | .error failure => Report.ofFailure failure none
      (report, (done.2.close driver m).database)

end Cli
end SqlGate
