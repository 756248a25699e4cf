import SqlGate.Text.Digits

namespace SqlGate

/-!
# Failures

Every operation that can fail mentions how.  Configuration, precondition and
compile failures are raised before a statement is sent; the others tell what
the database or the connection reported.
-/

/-- What a model lacks before a statement can be made for it. -/
inductive Missing where
  | metadata
  | primaryKey
  | tableName
  | connection
deriving DecidableEq, Repr

def Missing.message : Missing -> String
  | .metadata => "no metadata registered"
  | .primaryKey => "no primary key defined"
  | .tableName => "no table name defined"
  | .connection => "no connection set"

/-- A failure of an operation of this library. -/
inductive Failure where
  /-- The configuration cannot be used. -/
  | configuration (message : String)
  /-- Something that the named model needs was not set up. -/
  | precondition (missing : Missing) (model : String)
  /-- No statement can be made of what was asked for. -/
  | compile (message : String)
  /-- The database cannot be reached. -/
  | connection (message suggestion : String)
  /-- The database refused a statement, perhaps with its own code. -/
  | database (message : String) (sqlState : Option String)
  /-- A transaction is not in the state that the call needs. -/
  | transaction (message transactionId : String)
  /-- Something took too long. -/
  | timeout (operation : String) (seconds : Nat)
  /-- An argument cannot be accepted. -/
  | invalidInput (message : String)
  /-- An answer is not what was expected. -/
  | internal (message : String)
deriving DecidableEq, Repr

namespace Failure

def message : Failure -> String
  | .configuration text => "Configuration error: " ++ text
  | .precondition missing model =>
      "Model precondition failed for " ++ model ++ ": " ++ missing.message
  | .compile text => "Query compile error: " ++ text
  | .connection text _ => "Connection failed: " ++ text
  | .database text _ => "Database error: " ++ text
  | .transaction text id => "Transaction error: " ++ text ++ " (transaction: " ++ id ++ ")"
  | .timeout operation seconds =>
      "Timeout: " ++ operation ++ " exceeded " ++ String.ofList (Text.ofNat seconds) ++ "s"
  | .invalidInput text => "Invalid input: " ++ text
  | .internal text => "Internal error: " ++ text

def suggestion : Failure -> Option String
  | .connection _ suggestion => some suggestion
  | _ => none

def sqlState : Failure -> Option String
  | .database _ sqlState => sqlState
  | _ => none

/-- Whether the failure was raised before anything was asked of a database. -/
def isPrecondition : Failure -> Bool
  | .configuration _ | .precondition _ _ | .compile _ => true
  | _ => false

end Failure

/-- The outcome of an operation that can fail. -/
abbrev Outcome (α : Type) := Except Failure α

end SqlGate
