import SqlGate.Gateway.Gateway
import SqlGate.Json.Outline
import SqlGate.Query.Builder

namespace SqlGate

/-!
# Running built statements

A builder is compiled first; only then the gateway is asked, once, to run the
statement.  Without a manager to run it on, nothing is asked of any database.
-/

namespace Builder

variable {σ : Type}

/-- The failure of a builder that has no manager. -/
def noConnection (b : Builder) : Failure :=
  .precondition .connection ("QueryBuilder(" ++ b.draft.table ++ ")")

/-- Run a statement on a manager, if there is one. -/
def run (driver : Driver σ) (target : Option ManagerId) (b : Builder) (statement : Statement)
    (g : Gateway σ) : Outcome QueryResult × Gateway σ :=
  match target with
  | none => (.error b.noConnection, g)
  | some m => g.query driver m statement.sql statement.params

/-- Compile with `build`, and run the statement. -/
def runBuilt (driver : Driver σ) (target : Option ManagerId) (b : Builder)
    (built : Except CompileFault Statement) (g : Gateway σ) :
    Outcome QueryResult × Gateway σ :=
  match built with
  | .error fault => (.error fault.toFailure, g)
  | .ok statement => b.run driver target statement g

/-- Change what an operation returns. -/
def mapOutcome {α β : Type} (f : α -> Outcome β) (done : Outcome α × Gateway σ) :
    Outcome β × Gateway σ :=
  (done.1.bind f, done.2)

def execute (driver : Driver σ) (target : Option ManagerId) (b : Builder) (g : Gateway σ) :
    Outcome QueryResult × Gateway σ :=
  b.runBuilt driver target b.build g

/-- Run the statement on the connection of a handle. -/
def executeIn (driver : Driver σ) (h : HandleId) (b : Builder) (g : Gateway σ) :
    Outcome QueryResult × Gateway σ :=
  match b.build with
  | .error fault => (.error fault.toFailure, g)
  | .ok statement => g.queryWithHandle driver h statement.sql statement.params

def getMany (driver : Driver σ) (target : Option ManagerId) (b : Builder) (g : Gateway σ) :
    Outcome (List Row) × Gateway σ :=
  mapOutcome (fun result => .ok result.rows) (b.execute driver target g)

def getOne (driver : Driver σ) (target : Option ManagerId) (b : Builder) (g : Gateway σ) :
    Outcome (Option Row) × Gateway σ :=
  mapOutcome (fun result => .ok result.first?) (b.runBuilt driver target b.buildOne g)

/-- The count that a value stands for. -/
def countOf (found : Option Json) : Outcome Int :=
  match found with
  | some (.number n) =>
      match n.toInt64? with
      | some count => .ok count.toInt
      | none => .error (.internal ("Count is not an integer: " ++ String.ofList n.write))
  | some (.text s) =>
      match Text.signed? 64 s with
      | some count => .ok count
      | none => .error (.internal ("Count is not an integer: " ++ s))
  | other => .error (.internal ("Unexpected count value: " ++ Json.outline? other))

/-- The count in the first row: the column of that name, or else the first one. -/
def countIn (result : QueryResult) : Outcome Int :=
  match result.first? with
  | none => .ok 0
  | some row => countOf ((row.get? "count").or row.values.head?)

def count (driver : Driver σ) (target : Option ManagerId) (b : Builder) (g : Gateway σ) :
    Outcome Int × Gateway σ :=
  mapOutcome countIn (b.runBuilt driver target b.buildCount g)

end Builder
end SqlGate
