import SqlGate.Embedded.Scope

namespace SqlGate
namespace Embedded

/-!
# Rows of a query

What is done with rows once every name is known: tables are joined, rows are
grouped, ordered and cut.  All of it is about lists of cells; nothing here looks
at names or at the database.
-/

/-- A table that is read, with its rows. -/
structure Source where
  join : JoinType
  columns : List SourceColumn
  rows : List (List Cell)

/-- A row of nothing. -/
def nothing (width : Nat) : List Cell :=
  List.replicate width .null

/-- The rows that a row in front makes with those of a table. -/
def pairings (env : Env) (on : Option Term) (left : List Cell) (rows : List (List Cell)) :
    List (List Cell) :=
  (rows.map (left ++ ·)).filter fun row => holdsIn { env with row := row } on

/-- Join a table to the rows in front of it, which have a number of columns. -/
def joinRows (env : Env) (width : Nat) (front : List (List Cell)) (source : Source)
    (on : Option Term) : List (List Cell) :=
  let keepsLeft := source.join == .left || source.join == .full
  let keepsRight := source.join == .right || source.join == .full
  let matched := front.flatMap fun left =>
    let found := pairings env on left source.rows
    if found.isEmpty && keepsLeft then [left ++ nothing source.columns.length] else found
  let unmatched := source.rows.filter fun right =>
    front.all fun left => !holdsIn { env with row := left ++ right } on
  if keepsRight then matched ++ unmatched.map (nothing width ++ ·) else matched

/-- Join tables from left to right, each under its condition. -/
def joinAll (env : Env) : Nat -> List (List Cell) -> List (Source × Option Term) ->
    List (List Cell)
  | _, front, [] => front
  | width, front, (source, on) :: rest =>
      joinAll env (width + source.columns.length) (joinRows env width front source on) rest

/-! ## Groups -/

def compareCells : List Cell -> List Cell -> Ordering
  | [], [] => .eq
  | [], _ :: _ => .lt
  | _ :: _, [] => .gt
  | a :: as, b :: bs => (a.compare b).then (compareCells as bs)

/-- Put a row into the group of its key; groups are in the order of their keys. -/
def addToGroup (key row : List Cell) :
    List (List Cell × List (List Cell)) -> List (List Cell × List (List Cell))
  | [] => [(key, [row])]
  | (other, rows) :: rest =>
      match compareCells key other with
      | .lt => (key, [row]) :: (other, rows) :: rest
      | .eq => (other, rows ++ [row]) :: rest
      | .gt => (other, rows) :: addToGroup key row rest

def groupRows (env : Env) (keys : List Term) (rows : List (List Cell)) : List (List (List Cell)) :=
  let groups := rows.foldl
    (fun groups row => addToGroup (Term.values { env with row := row } keys) row groups) []
  groups.map Prod.snd

/-! ## Order and bounds -/

/-- The order of two lists of keys, some of them descending. -/
def compareKeys : List Bool -> List Cell -> List Cell -> Ordering
  | descending :: flags, a :: as, b :: bs =>
      let first := a.compare b
      (if descending then first.swap else first).then (compareKeys flags as bs)
  | _, _, _ => .eq

/-- Order rows by their keys; rows with equal keys stay in their order. -/
def orderRows (flags : List Bool) (rows : List (List Cell × List Cell)) :
    List (List Cell × List Cell) :=
  rows.mergeSort fun a b => compareKeys flags a.1 b.1 != .gt

def distinctRows (rows : List (List Cell × List Cell)) : List (List Cell × List Cell) :=
  rows.foldl
    (fun kept row =>
      if kept.any fun other => compareCells other.2 row.2 == .eq then kept else kept ++ [row]) []

/-- The whole number that a bound has to be. -/
def wholeBound (a : Cell) : Except Fault Int :=
  match Affinity.toNumeric a with
  | .int n => .ok n.toInt
  | _ => .error .datatypeMismatch

/-- Pass over rows and keep at most some of those left; a negative limit is none. -/
def cutRows {α : Type} (env : Env) (limit offset : Option Term) (rows : List α) :
    Except Fault (List α) := do
  match limit with
  | none => return rows
  | some limit =>
      let most <- wholeBound (limit.value env)
      if most = 0 then return []
      else
        let passed <- match offset with
          | some offset => wholeBound (offset.value env)
          | none => pure 0
        let left := rows.drop passed.toNat
        return if most < 0 then left else left.take most.toNat

end Embedded
end SqlGate
