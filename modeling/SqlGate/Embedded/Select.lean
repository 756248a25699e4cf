import SqlGate.Embedded.Database
import SqlGate.Embedded.Rows

namespace SqlGate
namespace Embedded

/-!
# Queries

The names of a query are looked up in a fixed order, which decides the fault
that is told when there are several: the tables from left to right, the bounds,
the columns of the result, the conditions, the order and the groups.  Only then
rows are read.
-/

/-- A column of a result. -/
structure ResultColumn where
  name : String
  /-- The declared type of the column that it shows, if it shows one. -/
  declared : Option String := none
  /-- Its affinity, if it shows a column. -/
  affinity : Option Affinity := none

/-- The result of a query. -/
structure ResultTable where
  columns : List ResultColumn
  rows : List (List Cell)

/-! ## Tables -/

/-- The columns of a table as names can mean them. -/
def Table.sourceColumns (table : Table) (known : String) : List SourceColumn :=
  table.columns.map (fun column =>
      { table := known, name := column.name, declared := some column.declared
        affinity := some column.affinity })
    ++ [{ table := known, name := ((table.rowKey.map table.columnName).getD "rowid")
          declared := some "INTEGER", affinity := some .integer, isRowId := true }]

/-- The rows of a table with their numbers behind the cells. -/
def Table.sourceRows (table : Table) : List (List Cell) :=
  table.rows.map fun row => row.cells ++ [Cell.ofInt row.id]

/-- The columns of a result as names can mean them. -/
def ResultTable.sourceColumns (result : ResultTable) (known : String) : List SourceColumn :=
  result.columns.map fun column =>
    { table := known, name := column.name, declared := column.declared
      affinity := column.affinity }

/-! ## Columns of the result -/

/-- A column of the result with its term and the name it can be called by. -/
structure Item where
  column : ResultColumn
  term : Term
  alias? : Option String := none

/-- The column of the result that shows a column of a table. -/
def itemOf (entry : SourceColumn × Nat) : Item :=
  { column := ⟨entry.1.name, entry.1.declared, entry.1.affinity⟩
    term := .column entry.2 entry.1.affinity }

/-- The column of the result for an expression. -/
def itemFor (scope : Scope) (t : Term) (alias? : Option String) (source : String) : Item :=
  match t with
  | .column place affinity =>
      let shown := scope.columns[place]?
      { column :=
          ⟨alias?.getD ((shown.map SourceColumn.name).getD source),
            shown.bind SourceColumn.declared, affinity⟩
        term := t, alias? := alias? }
  | _ => { column := { name := alias?.getD source }, term := t, alias? := alias? }

/-- A fault if `*` or `t.*` has no tables to stand for. -/
def ResultItem.check (scope : Scope) : ResultItem -> Except Fault Unit
  | .all => if scope.columns.isEmpty then .error .noTables else .ok ()
  | .allOf table =>
      if scope.columns.any fun column => Text.sameIgnoringCase column.table table then .ok ()
      else .error (.noSuchTable table)
  | .expr _ _ _ => .ok ()

/-- The columns that an item stands for. -/
def ResultItem.items (scope : Scope) : ResultItem -> Except Fault (List Item)
  | .all => .ok ((scope.placesOf fun column => !column.isRowId).map itemOf)
  | .allOf table =>
      .ok ((scope.placesOf fun column =>
        !column.isRowId && Text.sameIgnoringCase column.table table).map itemOf)
  | .expr e alias? source => do
      return [itemFor scope (<- e.resolve scope) alias? source]

/-! ## Order and groups -/

/-- The number that an expression is as it is written. -/
def Expr.ordinal? : Expr -> Option Int
  | .cell (.int n) => some n.toInt
  | _ => none

/-- The term at a place of the result, counted from one. -/
def ordinalTerm (items : List Item) (clause : String) (position : Nat) (n : Int) :
    Except Fault Term :=
  match if 1 ≤ n then items[n.toNat - 1]? else none with
  | some item => .ok item.term
  | none => .error (.termOutOfRange (position + 1) clause items.length)

/-- The term of an order: a column of the result by its name or place, or any expression. -/
def orderTermOf (scope : Scope) (items : List Item) (position : Nat) (e : Expr) :
    Except Fault Term :=
  let named :=
    match e with
    | .column name =>
        if name.table.isSome then none
        else items.find? fun (item : Item) =>
          (item.alias?.map fun known => Text.sameIgnoringCase known name.column) = some true
    | _ => none
  match named, e.ordinal? with
  | some item, _ => .ok item.term
  | none, some n => ordinalTerm items "ORDER" position n
  | none, none => e.resolve scope

/-- The term that rows are grouped by. -/
def groupTermOf (scope : Scope) (items : List Item) (position : Nat) (e : Expr) :
    Except Fault Term := do
  let t <- match e.ordinal? with
    | some n => ordinalTerm items "GROUP" position n
    | none => e.resolve scope
  if t.aggregate?.isSome then .error .aggregateInGroupBy else return t

/-! ## Queries without names -/

/-- A query whose names were looked up. -/
structure Plan where
  /-- The tables with the conditions they are joined under. -/
  sources : List (Source × Option Term)
  /-- The columns of the result. -/
  items : List Item
  /-- The condition on rows. -/
  condition : Option Term
  /-- Whether rows are summarised. -/
  isAggregate : Bool
  /-- What rows are grouped by. -/
  groupBy : List Term
  /-- The condition on groups. -/
  having : Option Term
  /-- The order with its directions. -/
  orderBy : List (Term × Bool)
  /-- Whether equal rows are given once. -/
  distinct : Bool
  /-- The greatest number of rows. -/
  limit : Option Term
  /-- The number of rows passed over. -/
  offset : Option Term

/-- A fault if there is an aggregate where single rows are tested. -/
def refuseAggregates (condition : Option Term) : Except Fault Unit :=
  match condition.bind Term.aggregate? with
  | some name => .error (.aggregateOutsideGroups name)
  | none => .ok ()

/-- Look up the names of a query over tables. -/
def Query.plan (q : Query) (sources : List Source) : Except Fault Plan := do
  let scope : Scope := { columns := sources.flatMap Source.columns }
  q.items.forM (ResultItem.check scope)
  let limit <- resolve? {} q.limit
  let offset <- resolve? {} q.offset
  let grouping := { scope with allowsAggregates := true }
  let items := (<- q.items.mapM (ResultItem.items grouping)).flatten
  let isAggregate := !q.groupBy.isEmpty || items.any fun item => item.term.aggregate?.isSome
  let named := items.filterMap fun item => item.alias?.map fun known => (known, item.term)
  let inner := { scope with results := named, allowsAggregates := isAggregate }
  if q.having.isSome && !isAggregate then throw .havingWithoutGroups
  let having <- resolve? inner q.having
  let condition <- resolve? inner q.condition
  let ons <- q.sources.mapM fun table => resolve? inner table.on
  let orderBy <- q.orderBy.zipIdx.mapM fun entry => do
    return ((<- orderTermOf inner items entry.2 entry.1.value), entry.1.descending)
  let groupBy <- q.groupBy.zipIdx.mapM fun entry => groupTermOf inner items entry.2 entry.1
  (condition :: ons).forM refuseAggregates
  return {
    sources := sources.zip ons, items := items, condition := condition,
    isAggregate := isAggregate, groupBy := groupBy, having := having, orderBy := orderBy,
    distinct := q.distinct, limit := limit, offset := offset }

namespace Plan

def columns (plan : Plan) : List ResultColumn :=
  plan.items.map Item.column

/-- The rows of the tables that satisfy the condition. -/
def baseRows (plan : Plan) (env : Env) : List (List Cell) :=
  (joinAll env 0 [[]] plan.sources).filter fun row => holdsIn { env with row := row } plan.condition

/-- The terms that are computed in each environment of the result. -/
def summaries (plan : Plan) : List Term :=
  plan.items.map Item.term ++ plan.orderBy.map Prod.fst ++ plan.having.toList

/-- What the columns of the result are computed in: a row each, or a group each. -/
def environments (plan : Plan) (env : Env) : List Env :=
  let rows := plan.baseRows env
  if plan.isAggregate then
    let groups := if plan.groupBy.isEmpty then [rows] else groupRows env plan.groupBy rows
    let shown := Term.searchesAmong (plan.items.map Item.term)
    let searches := if shown.isEmpty then Term.searchesAmong plan.summaries else shown
    (groups.map fun group =>
      { env with row := representative env searches group, group := group }).filter
        fun inner => holdsIn inner plan.having
  else rows.map fun row => { env with row := row }

def rows (plan : Plan) (parameters : List Cell) : Except Fault (List (List Cell)) := do
  let env : Env := { parameters := parameters }
  if (plan.environments env).any fun inner => Term.anyOverflows inner plan.summaries then
    throw .integerOverflow
  let computed := (plan.environments env).map fun inner =>
    (Term.values inner (plan.orderBy.map Prod.fst), Term.values inner (plan.items.map Item.term))
  let kept := if plan.distinct then distinctRows computed else computed
  let ordered := orderRows (plan.orderBy.map Prod.snd) kept
  cutRows env plan.limit plan.offset (ordered.map Prod.snd)

end Plan

/-- The result of a query on a database; views are read to a depth. -/
def Database.query (db : Database) (parameters : List Cell) : Nat -> Query ->
    Except Fault ResultTable
  | 0, q => .error (.circularView (plainName (((q.sources.head?).map SourceTable.name).getD "")))
  | depth + 1, q => do
      let sources <- q.sources.mapM fun wanted => do
        let known := wanted.alias?.getD (plainName wanted.name)
        match db.table? wanted.name, db.view? wanted.name with
        | some table, _ => return ⟨wanted.join, table.sourceColumns known, table.sourceRows⟩
        | none, some view =>
            let result <- db.query [] depth view.query
            return ⟨wanted.join, result.sourceColumns known, result.rows⟩
        | none, none => throw (.noSuchTable wanted.name)
      let plan <- q.plan sources
      return { columns := plan.columns, rows := (<- plan.rows parameters) }

/-- The columns of the result of a query, for which no row has to be read.  A view that is met
again while its own query is looked at is circular; `reading` holds the views on the way. -/
def Database.heading (db : Database) : Nat -> List String -> Query ->
    Except Fault (List ResultColumn)
  | 0, _, q => .error (.circularView (plainName (((q.sources.head?).map SourceTable.name).getD "")))
  | depth + 1, reading, q => do
      let sources <- q.sources.mapM fun wanted => do
        let known := wanted.alias?.getD (plainName wanted.name)
        match db.table? wanted.name, db.view? wanted.name with
        | some table, _ => return ⟨wanted.join, table.sourceColumns known, []⟩
        | none, some view =>
            if reading.any (sameName view.name) then throw (.circularView view.name)
            let shown <- db.heading depth (view.name :: reading) view.query
            return ⟨wanted.join, (ResultTable.mk shown []).sourceColumns known, []⟩
        | none, none => throw (.noSuchTable wanted.name)
      let plan <- q.plan sources
      return plan.columns

/-- The depth to which views can be built on each other. -/
def Database.viewDepth (db : Database) : Nat :=
  db.views.length + 1

end Embedded
end SqlGate
