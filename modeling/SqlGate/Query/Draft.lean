import SqlGate.Query.Predicate

namespace SqlGate

/-!
# Drafts of statements

A draft holds all that was said about a statement before it is compiled.  It
keeps what its present kind does not use, so a statement can change its kind
and go back.
-/

/-- The kind of a statement. -/
inductive StatementKind where
  | select
  | insert
  | update
  | delete
deriving DecidableEq, Repr

/-- Which rows without a partner a join keeps. -/
inductive JoinKind where
  | inner
  | left
  | right
  | full
deriving DecidableEq, Repr

def JoinKind.sql : JoinKind -> String
  | .inner => "INNER JOIN"
  | .left => "LEFT JOIN"
  | .right => "RIGHT JOIN"
  | .full => "FULL JOIN"

/-- A joined table. -/
structure Join where
  /-- Which rows it keeps. -/
  kind : JoinKind
  table : String
  /-- Another name for the table in this statement. -/
  alias? : Option String
  /-- The condition, taken over as it stands. -/
  on : String
deriving DecidableEq, Repr

/-- Which way rows are sorted. -/
inductive Direction where
  | asc
  | desc
deriving DecidableEq, Repr

def Direction.sql : Direction -> String
  | .asc => "ASC"
  | .desc => "DESC"

/-- A field to sort by. -/
structure OrderBy where
  /-- The field, taken over as it stands. -/
  field : String
  /-- Which way to sort. -/
  direction : Direction
deriving DecidableEq, Repr

/-- What was said about a statement. -/
structure Draft where
  /-- The kind chosen last. -/
  kind : Option StatementKind := none
  table : String := ""
  /-- What is selected; everything if empty. -/
  columns : List String := []
  /-- The chain of conditions on rows. -/
  wheres : List Predicate := []
  /-- Joined tables, in a selection only. -/
  joins : List Join := []
  /-- What rows are grouped by. -/
  groupBy : List String := []
  /-- Conditions on groups, all of which must hold. -/
  having : List Predicate := []
  /-- What rows are sorted by. -/
  orderBy : List OrderBy := []
  /-- The greatest number of rows. -/
  limit : Option Nat := none
  /-- How many rows are left out in front. -/
  offset : Option Nat := none
  /-- The columns and values of an insertion. -/
  insertValues : Ordered Value := Ordered.empty
  /-- The columns and values of an update. -/
  updateValues : Ordered Value := Ordered.empty
deriving DecidableEq

end SqlGate
