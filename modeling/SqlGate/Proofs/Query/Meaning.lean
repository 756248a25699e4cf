import SqlGate.Proofs.Query.Chains
import SqlGate.Query.Terminal

namespace SqlGate

/-!
# What a selection means

A selection is answered from the contents of a database.  How texts of the caller
are understood is left to the contents: which rows a table and its joins have, when
a predicate holds in a row or in a group of rows, by which values rows are grouped.
What the clauses do with this is said here, after the standard.

* The rows are those of the table and its joins in which the chain of conditions is
  true; the chain is read by precedence, and unknown is not true.
* Every row of the answer is shown for a list of rows.  With fields to group by there
  is one list for all rows that agree in these fields, so there is none without rows.
  Without such fields, a column that is an aggregate, or a condition on groups, takes
  all rows together into one list, which is there even if it is empty; otherwise every
  row is alone.
* Only groups in which all conditions on groups are true are shown.

Nothing is said about the order of an answer: answers are compared up to order.
Selected columns are expressions, so they do not decide how many rows there are
except by being aggregates.
-/

/-- What is selected when rows are counted. -/
def countColumn : String := "COUNT(*) AS count"

/-- The document of a number of rows. -/
def rowsDocument (rows : Nat) : Json :=
  Json.orNull (Json.ofInt? rows)

/-- The contents of a database whose rows are a `ρ` and are grouped by values of type `κ`. -/
structure Contents (ρ κ : Type) where
  /-- The rows of a table with the tables joined to it. -/
  rows : String -> List Join -> List ρ
  /-- The truth of a predicate in a row. -/
  holds : Predicate -> ρ -> Truth
  /-- The value of a field that rows are grouped by. -/
  key : String -> ρ -> κ
  /-- The truth of a condition on groups in a group. -/
  holdsFor : Predicate -> List ρ -> Truth
  /-- Whether a column is worth something only for a group of rows. -/
  isAggregate : String -> Bool
  /-- The row shown for a group under the selected columns, all columns if none is named. -/
  shown : List String -> List ρ -> Row
  counts : isAggregate countColumn = true
  /-- It shows how many rows a group has. -/
  shown_count : ∀ group, shown [countColumn] group
    = Ordered.ofList [("count", rowsDocument group.length)]

namespace Predicate

/-- The truth of a chain of conditions, read by precedence; an empty chain is true. -/
def chainTruth (holds : Predicate -> Truth) (ps : List Predicate) : Truth :=
  if ps.isEmpty then some true
  else (condition ps).value fun place => (ps[place]?.map holds).getD none

end Predicate

namespace Contents

variable {ρ κ : Type} [DecidableEq κ]

/-- The rows in which the conditions of a draft are true. -/
def matching (contents : Contents ρ κ) (draft : Draft) : List ρ :=
  (contents.rows draft.table draft.joins).filter fun row =>
    (Predicate.chainTruth (fun p => contents.holds p row) draft.wheres).holds

def keyOf (contents : Contents ρ κ) (draft : Draft) (row : ρ) : List κ :=
  draft.groupBy.map fun field => contents.key field row

/-- The rows that agree, value by value, in the fields to group by. -/
def grouped (contents : Contents ρ κ) (draft : Draft) : List (List ρ) :=
  ((contents.matching draft).map (contents.keyOf draft)).eraseDups.map fun key =>
    (contents.matching draft).filter fun row => contents.keyOf draft row == key

/-- Whether all rows are taken together although there is no field to group by. -/
def collapses (contents : Contents ρ κ) (draft : Draft) : Bool :=
  draft.columns.any contents.isAggregate || !draft.having.isEmpty

/-- The lists of rows for which a row may be shown. -/
def groups (contents : Contents ρ κ) (draft : Draft) : List (List ρ) :=
  if draft.groupBy.isEmpty then
    if contents.collapses draft then [contents.matching draft]
    else (contents.matching draft).map fun row => [row]
  else contents.grouped draft

/-- The lists of rows in which all conditions on groups are true. -/
def selected (contents : Contents ρ κ) (draft : Draft) : List (List ρ) :=
  (contents.groups draft).filter fun group =>
    draft.having.all fun p => (contents.holdsFor p group).holds

/-- The rows of the answer, in no order. -/
def answer (contents : Contents ρ κ) (draft : Draft) : List Row :=
  (contents.selected draft).map (contents.shown draft.columns)

end Contents

/-- The connection that a manager lends shows certain contents: whatever a driver answers on it to
the statement of the draft are the rows that the draft means.  The meaning knows of no page, so this
is to be asked of drafts without one. -/
def Gateway.Shows {σ ρ κ : Type} [DecidableEq κ] (driver : Driver σ) (m : ManagerId)
    (g : Gateway σ) (contents : Contents ρ κ) (draft : Draft) : Prop :=
  ∀ (c : ConnectionId) (lent : Gateway σ) (statement : Statement) (answer : Answer),
    g.acquire driver m Manager.acquireFailure = (.ok c, lent) ->
    draft.compile = .ok statement ->
    (driver.execute c statement.sql statement.params lent.database).1 = .ok answer ->
    answer.rows.Perm (contents.answer draft)

end SqlGate
