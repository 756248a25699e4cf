import SqlGate.Failure
import SqlGate.Metadata.ModelMetadata

namespace SqlGate

/-!
# Statements that make tables

The metadata of a type are enough for a statement that makes its table.
Columns stand in the order of their registration, and the key is declared at
its column, which has to be one of them.
-/

/-- Why metadata have no table statement. -/
inductive DdlFault where
  | noTable
  | noColumns (table : String)
  | unknownKey (key table : String)
deriving DecidableEq, Repr

namespace DdlFault

def message : DdlFault -> String
  | .noTable => "Cannot render CREATE TABLE without a table name"
  | .noColumns table => "Cannot render CREATE TABLE " ++ table ++ " without columns"
  | .unknownKey key table =>
      "Primary key '" ++ key ++ "' is not a registered column of " ++ table

def toFailure (fault : DdlFault) : Failure :=
  .invalidInput fault.message

end DdlFault

namespace ColumnMetadata

def typeText (c : ColumnMetadata) : String :=
  match c.options.length with
  | some length => c.sqlType ++ "(" ++ String.ofList (Text.ofNat length) ++ ")"
  | none => c.sqlType

def clauses (c : ColumnMetadata) (isKey : Bool) : List String :=
  let generated :=
    if c.options.generated = some true then ["GENERATED BY DEFAULT AS IDENTITY"] else []
  let constraints :=
    if isKey then ["PRIMARY KEY"]
    else
      (if c.options.nullable = some false then ["NOT NULL"] else [])
        ++ (if c.options.unique = some true then ["UNIQUE"] else [])
  let default :=
    match c.options.default with
    | some expression => ["DEFAULT " ++ expression]
    | none => []
  generated ++ constraints ++ default

def definition (c : ColumnMetadata) (isKey : Bool) : String :=
  " ".intercalate ([c.name, c.typeText] ++ c.clauses isKey)

end ColumnMetadata

namespace ModelMetadata

def definitions (m : ModelMetadata) : List String :=
  m.columns.values.map fun c => c.definition (m.primaryKey = some c.property)

/-- The statement that makes the table of a type. -/
def createTable (m : ModelMetadata) : Except DdlFault String :=
  if !m.hasTable then .error .noTable
  else if m.columns.isEmpty then .error (.noColumns m.tableName)
  else
    match m.primaryKey.filter fun key => !m.columns.contains key with
    | some key => .error (.unknownKey key m.tableName)
    | none =>
        .ok ("CREATE TABLE " ++ m.tableName ++ " (\n    "
          ++ ",\n    ".intercalate m.definitions ++ "\n)")

end ModelMetadata

def dropTable (table : String) (ifExists : Bool) : String :=
  (if ifExists then "DROP TABLE IF EXISTS " else "DROP TABLE ") ++ table

end SqlGate
