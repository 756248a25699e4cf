import SqlGate.Text.Digits

namespace SqlGate
namespace Embedded

/-!
# What the embedded database refuses

Every refusal has a wording and a code.  Faults of the text of a statement come
before faults of its names, and both before anything is changed.
-/

/-- Why the embedded database refuses a statement. -/
inductive Fault where
  /-- A token stands where no statement has it. -/
  | unexpected (token : String)
  /-- The text ends too early. -/
  | incomplete
  /-- A character begins no token. -/
  | unrecognized (token : String)
  | noSuchTable (name : String)
  | noSuchView (name : String)
  | noSuchColumn (name : String)
  | ambiguousColumn (name : String)
  | noSuchFunction (name : String)
  | wrongArgumentCount (function : String)
  | aggregateMisuse (function : String)
  | distinctWithoutArgument
  | aggregateOutsideGroups (function : String)
  | aggregateInGroupBy
  | havingWithoutGroups
  | noTables
  | termOutOfRange (ordinal : Nat) (clause : String) (count : Nat)
  | alreadyExists (kind name : String)
  | reservedName (name : String)
  | duplicateColumn (name : String)
  | manyPrimaryKeys (table : String)
  | noColumnNamed (table column : String)
  | countMismatch (values columns : Nat)
  | tableCountMismatch (table : String) (columns values : Nat)
  | unevenRows
  | isView (name : String)
  | useDropView (name : String)
  | useDropTable (name : String)
  | circularView (name : String)
  | keyMismatch (child parent : String)
  | notNullFailed (table column : String)
  | uniqueFailed (table : String) (columns : List String) (isPrimary : Bool)
  | rowKeyFailed (table : String)
  | foreignKeyFailed
  | restricted
  | tooManyLevels
  | datatypeMismatch
  | integerOverflow
  | noTransactionToCommit
  | noTransactionToRollBack
  | nestedTransaction
  | noSuchSavepoint (name : String)
  | cannotOpen
deriving DecidableEq, Repr

namespace Fault

def ordinalText (n : Nat) : String :=
  let ending :=
    if n % 100 / 10 = 1 then "th"
    else
      match n % 10 with
      | 1 => "st"
      | 2 => "nd"
      | 3 => "rd"
      | _ => "th"
  String.ofList (Text.ofNat n) ++ ending

/-- A number in text. -/
def count (n : Nat) : String :=
  String.ofList (Text.ofNat n)

def message : Fault -> String
  | .unexpected token => "near \"" ++ token ++ "\": syntax error"
  | .incomplete => "incomplete input"
  | .unrecognized token => "unrecognized token: \"" ++ token ++ "\""
  | .noSuchTable name => "no such table: " ++ name
  | .noSuchView name => "no such view: " ++ name
  | .noSuchColumn name => "no such column: " ++ name
  | .ambiguousColumn name => "ambiguous column name: " ++ name
  | .noSuchFunction name => "no such function: " ++ name
  | .wrongArgumentCount name => "wrong number of arguments to function " ++ name ++ "()"
  | .aggregateMisuse name => "misuse of aggregate function " ++ name ++ "()"
  | .distinctWithoutArgument => "DISTINCT aggregates must have exactly one argument"
  | .aggregateOutsideGroups name => "misuse of aggregate: " ++ name ++ "()"
  | .aggregateInGroupBy => "aggregate functions are not allowed in the GROUP BY clause"
  | .havingWithoutGroups => "HAVING clause on a non-aggregate query"
  | .noTables => "no tables specified"
  | .termOutOfRange ordinal clause columns =>
      ordinalText ordinal ++ " " ++ clause
        ++ " BY term out of range - should be between 1 and " ++ count columns
  | .alreadyExists kind name => kind ++ " " ++ name ++ " already exists"
  | .reservedName name => "object name reserved for internal use: " ++ name
  | .duplicateColumn name => "duplicate column name: " ++ name
  | .manyPrimaryKeys table => "table \"" ++ table ++ "\" has more than one primary key"
  | .noColumnNamed table column => "table " ++ table ++ " has no column named " ++ column
  | .countMismatch values columns =>
      count values ++ " values for " ++ count columns ++ " columns"
  | .tableCountMismatch table columns values =>
      "table " ++ table ++ " has " ++ count columns ++ " columns but " ++ count values
        ++ " values were supplied"
  | .unevenRows => "all VALUES must have the same number of terms"
  | .isView name => "cannot modify " ++ name ++ " because it is a view"
  | .useDropView name => "use DROP VIEW to delete view " ++ name
  | .useDropTable name => "use DROP TABLE to delete table " ++ name
  | .circularView name => "view " ++ name ++ " is circularly defined"
  | .keyMismatch child parent =>
      "foreign key mismatch - \"" ++ child ++ "\" referencing \"" ++ parent ++ "\""
  | .notNullFailed table column => "NOT NULL constraint failed: " ++ table ++ "." ++ column
  | .uniqueFailed table columns _ =>
      "UNIQUE constraint failed: "
        ++ ", ".intercalate (columns.map fun column => table ++ "." ++ column)
  | .rowKeyFailed table => "UNIQUE constraint failed: " ++ table ++ ".rowid"
  | .foreignKeyFailed | .restricted => "FOREIGN KEY constraint failed"
  | .tooManyLevels => "too many levels of trigger recursion"
  | .datatypeMismatch => "datatype mismatch"
  | .integerOverflow => "integer overflow"
  | .noTransactionToCommit => "cannot commit - no transaction is active"
  | .noTransactionToRollBack => "cannot rollback - no transaction is active"
  | .nestedTransaction => "cannot start a transaction within a transaction"
  | .noSuchSavepoint name => "no such savepoint: " ++ name
  | .cannotOpen => "unable to open database file"

def code : Fault -> Nat
  | .cannotOpen => 14
  | .datatypeMismatch => 20
  | .foreignKeyFailed => 787
  | .notNullFailed _ _ => 1299
  | .uniqueFailed _ _ isPrimary => if isPrimary then 1555 else 2067
  | .restricted => 1811
  | .rowKeyFailed _ => 2579
  | _ => 1

/-- Whether a fault is found only when a statement is carried out. -/
def isLate (fault : Fault) : Bool :=
  fault == .tooManyLevels || fault == .integerOverflow || fault.code != 1

end Fault
end Embedded
end SqlGate
