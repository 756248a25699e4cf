import SqlGate.DriverFault
import SqlGate.Value

namespace SqlGate

/-!
# Drivers

A driver is all that the library knows of a database: connections can be
opened and closed, and on a connection a statement is run or a transaction is
begun, committed or rolled back.  The state `σ` holds the database and its
connections; nothing is assumed about it, so whatever is proved of a gateway
holds whatever the database answers.
-/

/-- The number of a connection. -/
abbrev ConnectionId := Nat

/-- What a driver reports for a statement. -/
structure Answer where
  /-- The rows, in order. -/
  rows : List Row
  /-- The number of rows that the driver reports as affected. -/
  affected : Nat

/-- The result of a statement: rows returned are counted, else rows affected. -/
def Answer.toResult (answer : Answer) : QueryResult :=
  ⟨answer.rows, if answer.rows.isEmpty then answer.affected else answer.rows.length⟩

/-- What can be done with a database whose state is a `σ`. -/
structure Driver (σ : Type) where
  /-- Open a connection. -/
  connect : σ -> Except DriverFault ConnectionId × σ
  /-- Close a connection. -/
  disconnect : ConnectionId -> σ -> σ
  /-- Run a statement with values for its placeholders. -/
  execute : ConnectionId -> String -> List Value -> σ -> Except DriverFault Answer × σ
  /-- Begin a transaction. -/
  begin : ConnectionId -> σ -> Except DriverFault Unit × σ
  /-- Commit the transaction that was begun last. -/
  commit : ConnectionId -> σ -> Except DriverFault Unit × σ
  /-- Roll back the transaction that was begun last. -/
  rollback : ConnectionId -> σ -> Except DriverFault Unit × σ

end SqlGate
