import SqlGate.Embedded.Parser.Expr

namespace SqlGate
namespace Embedded

/-!
# Reading queries

The clauses of a query stand in a fixed order, and all but the columns may be
left out.  A number of rows to pass over is named only behind the greatest
number of rows.
-/

namespace Parser

/-- Whether all columns of a table are asked for next, and of which. -/
def allOf? : Parser (Option String) :=
  fun tokens =>
    match tokens with
    | t :: point :: star :: rest =>
        match nameOf? t with
        | some found =>
            if isSign "." point && isSign "*" star then .ok (some found, rest)
            else .ok (none, tokens)
        | none => .ok (none, tokens)
    | _ => .ok (none, tokens)

/-- A column of a result.  What stands in front of the next token belongs to its source. -/
def resultItem : Parser ResultItem := do
  if <- sign? "*" then return .all
  else
    match <- allOf? with
    | some table => return .allOf table
    | none =>
        let (value, source) <- withSource expression
        let next <- peek
        return .expr value (<- alias?) (dropTrailingBlanks (source ++ next.blanks))

/-- The join that comes next, if one does. -/
def joinType? : Parser (Option JoinType) := do
  if <- sign? "," then return some .inner
  else if <- keyword? "JOIN" then return some .inner
  else if <- accept fun t => isKeyword "INNER" t || isKeyword "CROSS" t then
    keyword "JOIN"
    return some .inner
  else
    let outer : List (String × JoinType) :=
      [("LEFT", .left), ("RIGHT", .right), ("FULL", .full)]
    let t <- peek
    match outer.find? fun entry => isKeyword entry.1 t with
    | some (_, join) =>
        advance
        let _ <- keyword? "OUTER"
        keyword "JOIN"
        return some join
    | none => return none

def sourceTable (join : JoinType) : Parser SourceTable := do
  let table <- qualifiedName
  let known <- alias?
  return { join := join, name := table, alias? := known, on := (<- clause? "ON") }

/-- The tables joined to the first one. -/
def joined : Nat -> Parser (List SourceTable)
  | 0 => stop
  | fuel + 1 => do
      match <- joinType? with
      | some join => return (<- sourceTable join) :: (<- joined fuel)
      | none => return []

/-- The tables that are read. -/
def sources : Parser (List SourceTable) := do
  if <- keyword? "FROM" then
    let first <- sourceTable .inner
    return first :: (<- joined (<- budget))
  else return []

def orderTerm : Parser OrderTerm := do
  let value <- expression
  if <- keyword? "DESC" then return ⟨value, true⟩
  else
    let _ <- keyword? "ASC"
    return ⟨value, false⟩

/-- Terms behind two keywords, if these come next. -/
def termsBy {α : Type} (word : String) (term : Parser α) : Parser (List α) := do
  if <- keyword? word then
    keyword "BY"
    commaList term (<- budget)
  else return []

/-- The greatest number of rows and the number passed over. -/
def limits : Parser (Option Expr × Option Expr) := do
  match <- clause? "LIMIT" with
  | none => return (none, none)
  | some first =>
      if <- keyword? "OFFSET" then return (some first, some (<- expression))
      else if <- sign? "," then return (some (<- expression), some first)
      else return (some first, none)

def query : Parser Query := do
  let distinct <- keyword? "DISTINCT"
  unless distinct do
    let _ <- keyword? "ALL"
  let items <- commaList resultItem (<- budget)
  let tables <- sources
  let condition <- clause? "WHERE"
  let groupBy <- termsBy "GROUP" expression
  let having <- clause? "HAVING"
  let orderBy <- termsBy "ORDER" orderTerm
  let (limit, offset) <- limits
  return {
    distinct := distinct, items := items, sources := tables, condition := condition,
    groupBy := groupBy, having := having, orderBy := orderBy, limit := limit, offset := offset }

end Parser
end Embedded
end SqlGate
