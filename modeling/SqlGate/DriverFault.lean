import SqlGate.Failure

namespace SqlGate

/-!
# What database drivers report

A driver reports faults of its own kinds.  Each has one failure of this
library, and only a refusal by the database itself keeps a code.
-/

/-- A fault reported by a database driver; texts are the wording of the cause. -/
inductive DriverFault where
  | configuration (cause : String)
  | refused (message : String) (code : Option String)
  | noRow
  | poolTimeout
  | poolClosed
  | io (cause : String)
  | tls (cause : String)
  | protocol (message : String)
  | columnNotFound (column : String)
  | columnDecode (index cause : String)
  | decode (cause : String)
  | encode (cause : String)
  | workerCrashed
  | typeNotFound (name : String)
  | columnIndex (index count : Nat)
  | anyDriver (cause : String)
  | migrate (cause : String)
  | savepointStatement
  | beginFailed
  | invalidArgument (message : String)
deriving DecidableEq, Repr

namespace DriverFault

/-- Seconds to wait for a connection of a pool unless configured otherwise. -/
def acquireSeconds : Nat := 30

/-- The wording of faults that have no failure of their own. -/
def otherMessage : DriverFault -> String
  | .encode cause => "error occurred while encoding a value: " ++ cause
  | .typeNotFound name => "type named " ++ name ++ " not found"
  | .columnIndex index count =>
      "column index out of bounds: the len is " ++ String.ofList (Text.ofNat count)
        ++ ", but the index is " ++ String.ofList (Text.ofNat index)
  | .anyDriver cause => "error in Any driver mapping: " ++ cause
  | .migrate cause => cause
  | .savepointStatement => "attempted to call begin_with at non-zero transaction depth"
  | .beginFailed =>
      "got unexpected connection status after attempting to begin transaction"
  | .invalidArgument message => message
  | _ => ""

def toFailure : DriverFault -> Failure
  | .configuration cause =>
      .connection cause "Check the connection string format and credentials"
  | .refused message code => .database message code
  | .noRow => .database "No rows returned" none
  | .poolTimeout => .timeout "connection pool acquire" acquireSeconds
  | .poolClosed => .connection "Connection pool is closed" "Reconnect to the database"
  | .io cause =>
      .connection ("I/O error: " ++ cause) "Check network connectivity and database server status"
  | .tls cause =>
      .connection ("TLS error: " ++ cause) "Verify TLS configuration and certificates"
  | .protocol message =>
      .connection ("Protocol error: " ++ message) "Check database server compatibility"
  | .columnNotFound column => .database ("Column not found: " ++ column) none
  | .columnDecode index cause =>
      .internal ("Failed to decode column " ++ index ++ ": " ++ cause)
  | .decode cause => .internal ("Decode error: " ++ cause)
  | .workerCrashed => .internal "Database worker crashed"
  | other => .internal ("Unknown database error: " ++ other.otherMessage)

/-- No fault of a driver is taken for a failure before the database was asked. -/
theorem not_isPrecondition_toFailure (fault : DriverFault) :
    fault.toFailure.isPrecondition = false := by
  cases fault <;> rfl

end DriverFault
end SqlGate
