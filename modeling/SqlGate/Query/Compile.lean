import SqlGate.Failure
import SqlGate.Query.Draft
import SqlGate.Query.Template

namespace SqlGate

/-!
# Compiling drafts

A draft with a kind and a table compiles to a template if its payload is not
empty where the kind has one and every predicate that the kind writes has an
operand that its operator takes.  The first condition that fails is reported.
-/

/-- Why a draft has no statement. -/
inductive CompileFault where
  /-- No kind was chosen. -/
  | noKind
  /-- The table is blank. -/
  | noTable
  /-- There is nothing to insert. -/
  | nothingToInsert
  /-- There is nothing to set. -/
  | nothingToUpdate
  /-- A membership was asked of an empty list. -/
  | emptyList (op : Operator) (field : String)
  /-- A list was given to an operator that takes one value. -/
  | listRefused (op : Operator) (field : String)
  /-- No operand was given to an operator that needs one. -/
  | operandMissing (op : Operator) (field : String)
  /-- A text names no operator. -/
  | unknownOperator (trimmed : String)
  /-- Only rows of a selection are counted. -/
  | countNeedsSelect
deriving DecidableEq, Repr

namespace CompileFault

def message : CompileFault -> String
  | .noKind =>
      "No statement kind selected; call select(), insert(), update() or delete() first"
  | .noTable => "No table specified"
  | .nothingToInsert => "INSERT requires at least one value"
  | .nothingToUpdate => "UPDATE requires at least one value"
  | .emptyList op field => op.sql ++ " on '" ++ field ++ "' requires at least one value"
  | .listRefused op field => "Operator " ++ op.sql ++ " on '" ++ field ++ "' does not accept a list"
  | .operandMissing op field => "Operator " ++ op.sql ++ " on '" ++ field ++ "' requires a value"
  | .unknownOperator trimmed => "Unsupported operator '" ++ trimmed ++ "'"
  | .countNeedsSelect => "count() requires a SELECT statement"

def toFailure (fault : CompileFault) : Failure :=
  .compile fault.message

end CompileFault

namespace Predicate

def rightSide (p : Predicate) : Except CompileFault Template :=
  match p.operand, p.operator.isMembership with
  | .list [], true => .error (.emptyList p.operator p.field)
  | .list vs, true => .ok ([.text "("] ++ Template.values vs ++ [.text ")"])
  | .scalar v, true => .ok [.text "(", .bound v, .text ")"]
  | .scalar v, false => .ok [.bound v]
  | .list _, false => .error (.listRefused p.operator p.field)
  | .none, _ => .error (.operandMissing p.operator p.field)

/-- One predicate. -/
def template (p : Predicate) : Except CompileFault Template :=
  if p.operator.isUnary then .ok [.fragment p.field, .text (" " ++ p.operator.sql)]
  else p.rightSide.map fun right =>
    [.fragment p.field, .text (" " ++ p.operator.sql ++ " ")] ++ right

/-- What stands in front of a predicate that is not the first of its chain. -/
def joiner (p : Predicate) : Template :=
  match p.connective with
  | .and => [.text " AND "]
  | .or => [.text " OR "]

/-- The predicates of a chain behind the first one. -/
def followers (joiner : Predicate -> Template) : List Predicate -> Except CompileFault Template
  | [] => .ok []
  | p :: rest => do
      let here <- p.template
      let others <- followers joiner rest
      return joiner p ++ here ++ others

/-- A chain behind its keyword; nothing is written for an empty one. -/
def chain (keyword : String) (joiner : Predicate -> Template) :
    List Predicate -> Except CompileFault Template
  | [] => .ok []
  | p :: rest => do
      let here <- p.template
      let others <- followers joiner rest
      return .text keyword :: here ++ others

def whereClause : List Predicate -> Except CompileFault Template :=
  chain " WHERE " joiner

/-- The conditions on groups, whatever connectives they carry. -/
def havingClause : List Predicate -> Except CompileFault Template :=
  chain " HAVING " fun _ => [.text " AND "]

end Predicate

namespace Draft

open Template (commas)

def fragments (names : List String) : Template :=
  commas (names.map fun name => [.fragment name])

def columnList (draft : Draft) : Template :=
  if draft.columns.isEmpty then [.text "*"] else fragments draft.columns

def joinClause (join : Join) : Template :=
  let other : Template :=
    match join.alias? with
    | some name => [.text " AS ", .fragment name]
    | none => []
  [.text (" " ++ join.kind.sql ++ " "), .fragment join.table] ++ other
    ++ [.text " ON ", .fragment join.on]

def groupClause (draft : Draft) : Template :=
  if draft.groupBy.isEmpty then [] else .text " GROUP BY " :: fragments draft.groupBy

def orderClause (draft : Draft) : Template :=
  if draft.orderBy.isEmpty then []
  else .text " ORDER BY " ::
    commas (draft.orderBy.map fun o => [.fragment o.field, .text (" " ++ o.direction.sql)])

/-- A number behind its keyword. -/
def countClause (keyword : String) : Option Nat -> Template
  | some n => [.text (keyword ++ String.ofList (Text.ofNat n))]
  | none => []

/-- How many rows are returned, and from which on. -/
def pageClause (draft : Draft) : Template :=
  countClause " LIMIT " draft.limit ++ countClause " OFFSET " draft.offset

/-- What follows the column list of a selection, up to the conditions on groups. -/
def selectBody (draft : Draft) : Except CompileFault Template := do
  let wheres <- Predicate.whereClause draft.wheres
  let having <- Predicate.havingClause draft.having
  return [.text " FROM ", .fragment draft.table] ++ draft.joins.flatMap joinClause
    ++ wheres ++ draft.groupClause ++ having

def selectTemplate (draft : Draft) : Except CompileFault Template := do
  let body <- draft.selectBody
  return [.text "SELECT "] ++ draft.columnList ++ body ++ draft.orderClause ++ draft.pageClause

def insertTemplate (draft : Draft) : Except CompileFault Template :=
  if draft.insertValues.isEmpty then .error .nothingToInsert
  else .ok ([.text "INSERT INTO ", .fragment draft.table, .text " ("]
    ++ fragments draft.insertValues.keys ++ [.text ") VALUES ("]
    ++ Template.values draft.insertValues.values ++ [.text ")"])

def assignment (entry : String × Value) : Template :=
  [.fragment entry.1, .text " = ", .bound entry.2]

def updateTemplate (draft : Draft) : Except CompileFault Template :=
  if draft.updateValues.isEmpty then .error .nothingToUpdate
  else do
    let wheres <- Predicate.whereClause draft.wheres
    return [.text "UPDATE ", .fragment draft.table, .text " SET "]
      ++ commas (draft.updateValues.entries.map assignment) ++ wheres

def deleteTemplate (draft : Draft) : Except CompileFault Template := do
  let wheres <- Predicate.whereClause draft.wheres
  return [.text "DELETE FROM ", .fragment draft.table] ++ wheres

def template (draft : Draft) : Except CompileFault Template :=
  match draft.kind with
  | none => .error .noKind
  | some kind =>
      if Text.isBlankText draft.table then .error .noTable
      else
        match kind with
        | .select => draft.selectTemplate
        | .insert => draft.insertTemplate
        | .update => draft.updateTemplate
        | .delete => draft.deleteTemplate

def compile (draft : Draft) : Except CompileFault Statement :=
  draft.template.map Template.statement

end Draft
end SqlGate
