import SqlGate.Embedded.Parser.Query

namespace SqlGate
namespace Embedded

/-!
# Reading statements

A statement is read from the tokens up to a semicolon or the end of the text.
Tokens without a statement among them are no statement and no fault.
-/

namespace Parser

/-! ## Declarations -/

/-- A number with an optional sign inside the brackets of a type. -/
def signedNumber : Parser Unit := do
  let _ <- accept fun t => isSign "+" t || isSign "-" t
  unless <- accept (·.kind == .number) do stop

def typeWords : Nat -> Parser Unit
  | 0 => stop
  | fuel + 1 => do
      let t <- peek
      if (trailingNameOf? t).isSome && !isKeyword "GENERATED" t then
        advance
        typeWords fuel
      else return ()

/-- A type: words and perhaps one or two numbers in brackets. -/
def typeName : Parser Unit := do
  if (trailingNameOf? (<- peek)).isSome then
    typeWords (<- budget)
    if <- sign? "(" then
      signedNumber
      if <- sign? "," then signedNumber
      sign ")"

/-- What a default value may be: a value, a number with a sign, a word, or brackets. -/
def defaultValue : Parser (Expr × String) := do
  let t <- peek
  if isSign "(" t then
    advance
    let found <- withSource expression
    sign ")"
    return found
  else if isSign "+" t || isSign "-" t then
    advance
    let next <- peek
    match valueOf? next with
    | some _ =>
        advance
        return (.cell (if isSign "-" t then negatedCell next.text else numberCell next.text),
          t.text ++ next.text)
    | none => stop
  else
    match valueOf? t with
    | some value =>
        advance
        return (value, t.text)
    | none =>
        let word <- name
        return (.cell (.text word), t.text)

/-- The action behind `ON DELETE` or `ON UPDATE`. -/
def referenceAction : Parser ForeignKeyAction := do
  if <- keyword? "CASCADE" then return .cascade
  else if <- keyword? "RESTRICT" then return .restrict
  else if <- keyword? "NO" then
    keyword "ACTION"
    return .noAction
  else
    keyword "SET"
    if <- keyword? "NULL" then return .setNull
    else
      keyword "DEFAULT"
      return .setDefault

def referenceActions : Nat -> ReferenceClause -> Parser ReferenceClause
  | 0, _ => stop
  | fuel + 1, clause => do
      if <- keyword? "ON" then
        if <- keyword? "DELETE" then
          let action <- referenceAction
          referenceActions fuel { clause with onDelete := action }
        else
          keyword "UPDATE"
          let action <- referenceAction
          referenceActions fuel { clause with onUpdate := action }
      else return clause

def reference : Parser ReferenceClause := do
  let table <- name
  let column <- if <- sign? "(" then
      let found <- name
      sign ")"
      pure (some found)
    else pure none
  referenceActions (<- budget) { table := table, column := column }

def columnClauses : Nat -> ColumnClause -> Parser ColumnClause
  | 0, _ => stop
  | fuel + 1, column => do
      let t <- peek
      if isKeyword "CONSTRAINT" t then
        advance
        let _ <- name
        columnClauses fuel column
      else if isKeyword "PRIMARY" t then
        advance
        keyword "KEY"
        let descending <- keyword? "DESC"
        let _ <- keyword? "ASC"
        columnClauses fuel { column with primaryKey := some descending }
      else if isKeyword "NOT" t then
        advance
        keyword "NULL"
        columnClauses fuel { column with notNull := true }
      else if isKeyword "NULL" t then
        advance
        columnClauses fuel column
      else if isKeyword "UNIQUE" t then
        advance
        columnClauses fuel { column with unique := true }
      else if isKeyword "DEFAULT" t then
        advance
        let found <- defaultValue
        columnClauses fuel { column with default := some found }
      else if isKeyword "REFERENCES" t then
        advance
        let found <- reference
        columnClauses fuel { column with references := column.references ++ [found] }
      else return column

def column : Parser ColumnClause := do
  let columnName <- name
  let (_, declared) <- withSource typeName
  columnClauses (<- budget) { name := columnName, declared := declared }

/-- Whether a token begins a clause about the table. -/
def beginsTableClause (t : Token) : Bool :=
  ["CONSTRAINT", "PRIMARY", "UNIQUE", "CHECK", "FOREIGN"].any fun word => isKeyword word t

def tableClause : Parser TableClause := do
  if <- keyword? "CONSTRAINT" then
    let _ <- name
  if <- keyword? "PRIMARY" then
    keyword "KEY"
    return .primaryKey (<- bracketed (commaList name (<- budget)))
  else
    keyword "UNIQUE"
    return .unique (<- bracketed (commaList name (<- budget)))

def tableBody : Nat -> List ColumnClause -> Parser (List ColumnClause × List TableClause)
  | 0, _ => stop
  | fuel + 1, columns => do
      if !columns.isEmpty && beginsTableClause (<- peek) then
        return (columns, (<- commaList tableClause (<- budget)))
      else
        let added <- column
        if <- sign? "," then tableBody fuel (columns ++ [added])
        else return (columns ++ [added], [])

def ifNotExists : Parser Bool := do
  if <- keyword? "IF" then
    keywords ["NOT", "EXISTS"]
    return true
  else return false

def ifExists : Parser Bool := do
  if <- keyword? "IF" then
    keyword "EXISTS"
    return true
  else return false

/-! ## Statements -/

def create : Parser Statement := do
  if <- keyword? "TABLE" then
    let lenient <- ifNotExists
    let table <- qualifiedName
    let (columns, clauses) <- bracketed (tableBody (<- budget) [])
    return .createTable lenient table columns clauses
  else
    keyword "VIEW"
    let lenient <- ifNotExists
    let view <- qualifiedName
    keywords ["AS", "SELECT"]
    return .createView lenient view (<- query)

def drop : Parser Statement := do
  if <- keyword? "TABLE" then
    let lenient <- ifExists
    return .dropTable lenient (<- qualifiedName)
  else
    keyword "VIEW"
    let lenient <- ifExists
    return .dropView lenient (<- qualifiedName)

def valueRow : Parser (List Expr) :=
  bracketed expressions

def insert : Parser Statement := do
  keyword "INTO"
  let table <- qualifiedName
  let columns <- if isSign "(" (<- peek) then
      pure (some (<- bracketed (commaList name (<- budget))))
    else pure none
  if <- keyword? "DEFAULT" then
    keyword "VALUES"
    return .insertDefaults table
  else
    keyword "VALUES"
    return .insert table columns (<- commaList valueRow (<- budget))

def assignment : Parser (String × Expr) := do
  let target <- name
  sign "="
  return (target, (<- expression))

def update : Parser Statement := do
  let table <- qualifiedName
  keyword "SET"
  let assignments <- commaList assignment (<- budget)
  return .update table assignments (<- clause? "WHERE")

def delete : Parser Statement := do
  keyword "FROM"
  let table <- qualifiedName
  return .delete table (<- clause? "WHERE")

/-- `TRANSACTION` and a name, if they come next. -/
def transactionName : Parser Unit := do
  if <- keyword? "TRANSACTION" then
    if (nameOf? (<- peek)).isSome then advance

/-- The end of a transaction without its effects, or of a part of it. -/
def rollback : Parser Statement := do
  transactionName
  if <- keyword? "TO" then
    let _ <- keyword? "SAVEPOINT"
    return .rollbackTo (<- name)
  else return .rollback

def statement : Parser Statement := do
  let t <- peek
  if isKeyword "SELECT" t then
    advance
    return .select (<- query)
  else if isKeyword "INSERT" t then
    advance
    insert
  else if isKeyword "UPDATE" t then
    advance
    update
  else if isKeyword "DELETE" t then
    advance
    delete
  else if isKeyword "CREATE" t then
    advance
    create
  else if isKeyword "DROP" t then
    advance
    drop
  else if isKeyword "BEGIN" t then
    advance
    let _ <- accept fun word =>
      ["DEFERRED", "IMMEDIATE", "EXCLUSIVE"].any fun kind => isKeyword kind word
    transactionName
    return .begin
  else if isKeyword "COMMIT" t || isKeyword "END" t then
    advance
    transactionName
    return .commit
  else if isKeyword "ROLLBACK" t then
    advance
    rollback
  else if isKeyword "SAVEPOINT" t then
    advance
    return .savepoint (<- name)
  else if isKeyword "RELEASE" t then
    advance
    let _ <- keyword? "SAVEPOINT"
    return .release (<- name)
  else stop

def statementEnd : Parser Unit := do
  let t <- peek
  unless t.kind == .finish || isSign ";" t do stop

end Parser

/-- The statement of tokens, if there is one among them. -/
def parse (tokens : List Token) : Except Fault (Option Statement) :=
  match tokens with
  | [] => .ok none
  | t :: _ =>
      if t.kind == .finish || Parser.isSign ";" t then .ok none
      else do
        let (found, rest) <- Parser.statement tokens
        let _ <- Parser.statementEnd rest
        return some found

end Embedded
end SqlGate
