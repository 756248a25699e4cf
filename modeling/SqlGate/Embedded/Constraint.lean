import SqlGate.Embedded.Database

namespace SqlGate
namespace Embedded

/-!
# Constraints

A row is written only if no column that refuses null is left empty and if its
keys differ from those of all other rows; a key with null in it differs from
every other.  A reference has to lead to a row or to be null once a statement is
done; until then it may dangle.
-/

namespace Table

def keyCells (key : Key) (cells : List Cell) : List Cell :=
  key.places.map (cellAt cells)

def sameKey (key : Key) (a b : List Cell) : Bool :=
  ((keyCells key a).zip (keyCells key b)).all fun pair =>
    !pair.1.isNull && pair.1.compare pair.2 == .eq

/-- The first of some places whose column refuses null and would hold it. -/
def emptyPlace? (table : Table) (cells : List Cell) : Option Nat :=
  (List.range table.columns.length).find? fun place =>
    ((table.columns[place]?).map Column.notNull).getD false && table.rowKey != some place
      && (cellAt cells place).isNull

/-- Refuse a row that cannot stand beside others. -/
def checkRow (table : Table) (others : List StoredRow) (row : StoredRow) : Except Fault Unit := do
  match table.emptyPlace? row.cells with
  | some place => throw (.notNullFailed table.name (table.columnName place))
  | none => pure ()
  if others.any fun other => other.id == row.id then
    match table.rowKey with
    | some place => throw (.uniqueFailed table.name [table.columnName place] true)
    | none => throw (.rowKeyFailed table.name)
  let broken := table.keys.reverse.find? fun key =>
    others.any fun other => sameKey key row.cells other.cells
  match broken with
  | some key => throw (.uniqueFailed table.name (key.places.map table.columnName) key.isPrimary)
  | none => return ()

/-- The number of a row from the cell of the column that stands for it. -/
def idOf (a : Cell) : Except Fault Int :=
  match Affinity.toNumeric a with
  | .int n => .ok n.toInt
  | _ => .error .datatypeMismatch

/-- Cells as they are stored in the columns of a table. -/
def stored (table : Table) (cells : List Cell) : List Cell :=
  (table.columns.zip cells).map fun entry => entry.1.affinity.store entry.2

end Table

/-! ## References -/

/-- Whether the values of a column differ from row to row. -/
def Table.isUniqueAt (table : Table) (place : Nat) : Bool :=
  table.rowKey == some place || table.keys.any fun key => key.places == [place]

/-- The place of the column that a reference leads to. -/
def Reference.targetPlace? (reference : Reference) (parent : Table) : Option Nat :=
  match reference.target with
  | some name => (parent.place? name).filter parent.isUniqueAt
  | none =>
      match parent.primaryKey with
      | [place] => some place
      | _ => none

/-- Whether a referring cell leads to the value of a key. -/
def leadsTo (affinity : Affinity) (referring key : Cell) : Bool :=
  !referring.isNull && (affinity.store referring).compare key == .eq

namespace Database

/-- The references to a table: the referring tables with their references. -/
def referencesTo (db : Database) (parent : Table) : List (Table × Reference) :=
  db.tables.flatMap fun child =>
    (child.references.filter fun reference => sameName reference.table parent.name).map (child, ·)

/-- Whether the reference of a row leads to no row. -/
def isDangling (db : Database) (reference : Reference) (row : StoredRow) : Bool :=
  let referring := cellAt row.cells reference.place
  match db.table? reference.table with
  | none => !referring.isNull
  | some parent =>
      match reference.targetPlace? parent with
      | none => !referring.isNull
      | some place =>
          !referring.isNull && !(parent.rows.any fun target =>
            leadsTo (parent.affinityAt place) referring (cellAt target.cells place))

/-- The references that lead to no row, each with its row. -/
def dangling (db : Database) : List (Reference × StoredRow) :=
  db.tables.flatMap fun child =>
    child.references.flatMap fun reference =>
      (child.rows.filter (db.isDangling reference)).map (reference, ·)

/-- Refuse a statement that leaves more references dangling than there were. -/
def checkReferences (before after : Database) : Except Fault Unit :=
  if before.dangling.length < after.dangling.length then .error .foreignKeyFailed else .ok ()

/-- Refuse to write references to what is no table or no key. -/
def checkParents (db : Database) (child : Table) (references : List Reference) :
    Except Fault Unit :=
  references.reverse.forM fun reference =>
    match db.table? reference.table, db.view? reference.table with
    | some parent, _ =>
        if (reference.targetPlace? parent).isSome then .ok ()
        else .error (.keyMismatch child.name reference.table)
    | none, some _ => .error (.keyMismatch child.name reference.table)
    | none, none => .error (.noSuchTable ("main." ++ reference.table))

/-- Refuse to change keys that are referred to as what they are not. -/
def checkChildren (db : Database) (parent : Table) (concerns : Reference -> Bool) :
    Except Fault Unit :=
  (db.referencesTo parent).forM fun entry =>
    if concerns entry.2 && (entry.2.targetPlace? parent).isNone then
      .error (.keyMismatch entry.1.name entry.2.table)
    else .ok ()

end Database
end Embedded
end SqlGate
