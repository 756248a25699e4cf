import SqlGate.DriverFault
import SqlGate.Embedded.Define
import SqlGate.Embedded.Parser.Statement
import SqlGate.Value

namespace SqlGate
namespace Embedded

/-!
# Sessions

A session runs texts on a database.  Outside a transaction each statement is
kept at once; inside one, statements work on the database as it was when the
transaction first looked at it, and only its end decides what is kept.  A
session also counts the rows that its last writing statement wrote.
-/

/-- A point that a transaction can go back to. -/
structure Savepoint where
  name : String
  /-- The database at that point, if the transaction had looked at it. -/
  state : Option Database
  /-- Whether it opened the transaction. -/
  isOutermost : Bool := false

/-- Whether a session is in a transaction. -/
inductive Standing where
  | autocommit
  | transaction (seen : Option Database) (savepoints : List Savepoint)

/-- A session. -/
structure Session where
  /-- Whether it is in a transaction. -/
  standing : Standing := .autocommit
  /-- The number of rows written by the last statement that writes rows. -/
  written : Nat := 0

/-- A session with the database that it runs on. -/
structure Workspace where
  session : Session := {}
  kept : Database := {}

namespace Workspace

/-- The database as the session sees it. -/
def seen (w : Workspace) : Database :=
  match w.session.standing with
  | .autocommit => w.kept
  | .transaction seen _ => seen.getD w.kept

/-- Set whether the session is in a transaction. -/
def stand (w : Workspace) (standing : Standing) : Workspace :=
  { w with session := { w.session with standing := standing } }

/-- The workspace after a statement left a database behind. -/
def after (w : Workspace) (db : Database) : Workspace :=
  match w.session.standing with
  | .autocommit => { w with kept := db }
  | .transaction _ savepoints => w.stand (.transaction (some db) savepoints)

/-- Set the count of rows written. -/
def counted (w : Workspace) (written : Option Nat) : Workspace :=
  { w with session := { w.session with written := written.getD w.session.written } }

/-! ## Transactions -/

def begin (w : Workspace) : Except Fault Workspace :=
  match w.session.standing with
  | .autocommit => .ok (w.stand (.transaction none []))
  | .transaction _ _ => .error .nestedTransaction

def commit (w : Workspace) : Except Fault Workspace :=
  match w.session.standing with
  | .autocommit => .error .noTransactionToCommit
  | .transaction seen _ => .ok { w.stand .autocommit with kept := seen.getD w.kept }

def rollback (w : Workspace) : Except Fault Workspace :=
  match w.session.standing with
  | .autocommit => .error .noTransactionToRollBack
  | .transaction _ _ => .ok (w.stand .autocommit)

/-- Set a point to go back to; outside a transaction this opens one. -/
def savepoint (w : Workspace) (name : String) : Workspace :=
  match w.session.standing with
  | .autocommit => w.stand (.transaction none [⟨name, none, true⟩])
  | .transaction seen savepoints =>
      w.stand (.transaction seen ({ name := name, state := seen } :: savepoints))

/-- The savepoint of a name with those set before it. -/
def fromSavepoint? (name : String) (savepoints : List Savepoint) :
    Option (Savepoint × List Savepoint) :=
  match savepoints.dropWhile fun point => !sameName point.name name with
  | point :: earlier => some (point, earlier)
  | [] => none

/-- Forget a savepoint and all later ones, keeping what was done since. -/
def release (w : Workspace) (name : String) : Except Fault Workspace :=
  match w.session.standing with
  | .autocommit => .error (.noSuchSavepoint name)
  | .transaction seen savepoints =>
      match fromSavepoint? name savepoints with
      | none => .error (.noSuchSavepoint name)
      | some (point, earlier) =>
          if point.isOutermost then w.commit else .ok (w.stand (.transaction seen earlier))

/-- Go back to a savepoint, which stays. -/
def rollbackTo (w : Workspace) (name : String) : Except Fault Workspace :=
  match w.session.standing with
  | .autocommit => .error (.noSuchSavepoint name)
  | .transaction _ savepoints =>
      match fromSavepoint? name savepoints with
      | none => .error (.noSuchSavepoint name)
      | some (point, earlier) => .ok (w.stand (.transaction point.state (point :: earlier)))

/-! ## Statements -/

/-- What a statement does to a database. -/
def effectOf (db : Database) (parameters : List Cell) : Statement -> Except Fault Effect
  | .select q => do
      return { database := db, result := (<- db.query parameters db.viewDepth q) }
  | .insert table columns rows => db.insert parameters table columns rows
  | .insertDefaults table => db.insertDefaults table
  | .update table assignments condition => db.update parameters table assignments condition
  | .delete table condition => db.delete parameters table condition
  | .createTable lenient name columns clauses => db.createTable lenient name columns clauses
  | .createView lenient name q => db.createView lenient name q
  | .dropTable lenient name => db.dropTable lenient name
  | .dropView lenient name => db.dropView lenient name
  | _ => .ok { database := db }

def run (w : Workspace) (parameters : List Cell) (s : Statement) :
    Except Fault (ResultTable × Workspace) :=
  let without : Workspace -> ResultTable × Workspace := fun next => (⟨[], []⟩, next)
  match s with
  | .begin => w.begin.map without
  | .commit => w.commit.map without
  | .rollback => w.rollback.map without
  | .savepoint name => .ok (without (w.savepoint name))
  | .release name => (w.release name).map without
  | .rollbackTo name => (w.rollbackTo name).map without
  | other => do
      let effect <- effectOf w.seen parameters other
      return (effect.result, (w.after effect.database).counted effect.written)

/-- The workspace after a statement was refused: one that began to write has written nothing. -/
def refused (w : Workspace) (s : Statement) (fault : Fault) : Workspace :=
  if s.writesRows && fault.isLate then w.counted (some 0) else w

end Workspace

/-! ## Parameters -/

/-- The cell of a bound value. -/
def cellOf : Value -> Cell
  | .null => .null
  | .bool b => .int (if b then 1 else 0)
  | .int n => .int n
  | .float x => Cell.ofReal x
  | .text s => .text s
  | .json document => .text document.compact

/-- Which of the bound values a parameter takes, counted from one. -/
def argumentOf (name : String) (next : Nat) : Except DriverFault Nat :=
  let leading := fun (cs : List Char) => cs.takeWhile Char.isDigit
  match name.toList with
  | [] => .ok next
  | '?' :: rest => .ok (Number.digitsValue (leading rest))
  | '$' :: rest =>
      if (leading rest).isEmpty then
        .error (.protocol
          ("parameters with non-integer names are not currently supported: "
            ++ String.ofList rest))
      else .ok (Number.digitsValue (leading rest))
  | _ => .error (.protocol ("unsupported SQL parameter format: " ++ name))

/--
The cells of parameters in the order of their places, and how many values were
taken by parameters without a name.  The first parameter that asks for a value
that is not there leaves itself and all behind it without one.
-/
def bindFrom (names : ParameterNames) (values : List Value) (used : Nat) :
    List Nat -> Except DriverFault (List Cell × Nat)
  | [] => .ok ([], used)
  | place :: rest => do
      let name := (names.lookup place).getD ""
      let argument <- argumentOf name (used + 1)
      let used := if name.isEmpty then used + 1 else used
      match values[argument - 1]? with
      | some value =>
          let (cells, used) <- bindFrom names values used rest
          return (cellOf value :: cells, used)
      | none => return ([], used)

/-- The cells of the parameters of a statement; without values nothing is bound. -/
def bind (names : ParameterNames) (values : List Value) (used : Nat) :
    Except DriverFault (List Cell × Nat) :=
  if values.isEmpty then .ok ([], used)
  else bindFrom names values used ((List.range names.count).map (· + 1))

/-! ## Texts -/

/-- The fault that the driver reports for a fault of the database. -/
def Fault.toDriverFault (fault : Fault) : DriverFault :=
  .refused fault.message (some (String.ofList (Text.ofNat fault.code)))

/-- What a text did: its results in order, and the rows it counts as affected. -/
structure TextResult where
  /-- The results of its statements. -/
  tables : List ResultTable := []
  /-- The sum of the counts behind its statements. -/
  affected : Nat := 0

/-- Run the statements of a text one after another up to the first that fails. -/
def runStatements (values : List Value) (w : Workspace) (used : Nat) (done : TextResult) :
    List (List (LexemeKind × List Char)) -> Except DriverFault TextResult × Workspace
  | [] => (.ok done, w)
  | lexemes :: rest =>
      let (tokens, names) := tokensFrom [] [] lexemes
      match parse tokens with
      | .error fault => (.error fault.toDriverFault, w)
      | .ok none => runStatements values w used done rest
      | .ok (some statement) =>
          match bind names values used with
          | .error fault => (.error fault, w)
          | .ok (cells, used) =>
              match w.run cells statement with
              | .error fault => (.error fault.toDriverFault, w.refused statement fault)
              | .ok (table, next) =>
                  runStatements values next used
                    ⟨done.tables ++ [table], done.affected + next.session.written⟩ rest

def Workspace.runText (w : Workspace) (sql : String) (values : List Value) :
    Except DriverFault TextResult × Workspace :=
  runStatements values w 0 {} (statementLexemes (lexemes sql.toList))

end Embedded
end SqlGate
