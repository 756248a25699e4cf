import SqlGate.Embedded.Constraint
import SqlGate.Embedded.Select

namespace SqlGate
namespace Embedded

/-!
# Writing rows

Every statement that writes is a list of changes to single rows.  A change of a
row is followed by the changes that references to it ask for, down to a depth.
A statement is refused as a whole; then nothing of it remains.
-/

/-- A change of a row that is there. -/
inductive Change where
  /-- Remove the row. -/
  | remove (table : String) (id : Int)
  /-- Put cells at places of the row. -/
  | assign (table : String) (id : Int) (cells : List (Nat × Cell))

/-- Put cells at places of a row. -/
def putCells (cells : List Cell) (changes : List (Nat × Cell)) : List Cell :=
  changes.foldl (fun cells change => cells.set change.1 change.2) cells

def Column.defaultCell (column : Column) : Cell :=
  match column.default with
  | some (e, _) =>
      match e.resolve {} with
      | .ok t => t.value {}
      | .error _ => .null
  | none => .null

/-- The cell of the default of the column at a place. -/
def Table.defaultAt (table : Table) (place : Nat) : Cell :=
  ((table.columns[place]?).map Column.defaultCell).getD .null

/-! ## Single rows -/

/-- Add a row with cells as they are given; a row without a number gets the next one. -/
def Table.add (table : Table) (cells : List Cell) : Except Fault Table := do
  let given := table.rowKey.map (cellAt cells)
  let id <- match given with
    | some .null | none => pure table.nextId
    | some cell => Table.idOf cell
  let stored := table.stored cells
  let row : StoredRow := ⟨id, match table.rowKey with
    | some place => stored.set place (Cell.ofInt id)
    | none => stored⟩
  table.checkRow table.rows row
  return { table with rows := Table.insertRow row table.rows }

/-- Put cells at places of a row. -/
def Table.assign (table : Table) (row : StoredRow) (changes : List (Nat × Cell)) :
    Except Fault (Table × StoredRow) := do
  let given := putCells row.cells changes
  let id <- match table.rowKey with
    | some place => Table.idOf (cellAt given place)
    | none => pure row.id
  let stored := table.stored given
  let changed : StoredRow := ⟨id, match table.rowKey with
    | some place => stored.set place (Cell.ofInt id)
    | none => stored⟩
  let others := table.rows.filter fun other => other.id != row.id
  table.checkRow others changed
  return ({ table with rows := Table.insertRow changed others }, changed)

def Table.remove (table : Table) (id : Int) : Table :=
  { table with rows := table.rows.filter fun row => row.id != id }

/-! ## What references ask for -/

/-- The affinity under which an action compares a referring column with a key: the key brings one
only as the number of a row. -/
def actionAffinity (parent : Table) (place : Nat) (child : Table) (reference : Reference) :
    Option Affinity :=
  let own := if parent.rowKey = some place then some Affinity.integer else none
  Affinity.common own (some (child.affinityAt reference.place))

/-- The rows of a table whose reference an action finds to lead to a key. -/
def referringRows (affinity : Option Affinity) (child : Table) (reference : Reference)
    (key : Cell) : List StoredRow :=
  child.rows.filter fun row =>
    Affinity.compare? affinity (cellAt row.cells reference.place) key == some .eq

/-- The change that an action makes of a referring row; `replacement` is the new key. -/
def actionChange (action : ForeignKeyAction) (child : Table) (reference : Reference)
    (row : StoredRow) (replacement : Option Cell) : Option Change :=
  match action, replacement with
  | .cascade, none => some (.remove child.name row.id)
  | .cascade, some key => some (.assign child.name row.id [(reference.place, key)])
  | .setNull, _ => some (.assign child.name row.id [(reference.place, .null)])
  | .setDefault, _ =>
      some (.assign child.name row.id [(reference.place, child.defaultAt reference.place)])
  | .restrict, _ | .noAction, _ => none

/-- What follows from a row being removed, or changed to other cells. -/
def Database.consequences (db : Database) (parent : Table) (before : List Cell)
    (after : Option (List Cell)) : Except Fault (List Change) := do
  let found <- (db.referencesTo parent).mapM fun entry => do
    let (child, reference) := entry
    match reference.targetPlace? parent with
    | none => return []
    | some place =>
        let key := cellAt before place
        let replacement := after.map fun cells => cellAt cells place
        let action := if after.isSome then reference.onUpdate else reference.onDelete
        if (replacement.map fun cell => Affinity.isSame none cell key) = some true then return []
        else
          let affinity := actionAffinity parent place child reference
          let rows := referringRows affinity child reference key
          if action == .restrict && !rows.isEmpty then throw .restricted
          else return rows.filterMap fun row => actionChange action child reference row replacement
  return found.flatten

/-- Carry a change out with all that follows from it, down to a depth. -/
def Database.change : Nat -> Database -> Change -> Except Fault Database
  | 0, _, _ => .error .tooManyLevels
  | depth + 1, db, .remove name id => do
      match db.table? name with
      | none => return db
      | some table =>
          match table.rows.find? fun row => row.id == id with
          | none => return db
          | some row =>
              let next := db.setTable (table.remove id)
              let following <- next.consequences table row.cells none
              following.foldlM (fun db change => db.change depth change) next
  | depth + 1, db, .assign name id cells => do
      match db.table? name with
      | none => return db
      | some table =>
          match table.rows.find? fun row => row.id == id with
          | none => return db
          | some row =>
              let (changed, written) <- table.assign row cells
              let next := db.setTable changed
              let following <- next.consequences table row.cells (some written.cells)
              following.foldlM (fun db change => db.change depth change) next

/-- The depth down to which references are followed. -/
def maxDepth : Nat := 1000

/-! ## Statements -/

/-- What a statement did. -/
structure Effect where
  /-- The database behind it. -/
  database : Database
  result : ResultTable := ⟨[], []⟩
  /-- The number of rows it wrote, if it is a statement that writes rows. -/
  written : Option Nat := none

/-- The places of named columns of a table. -/
def Table.placesOf (table : Table) (written : String) (names : List String) :
    Except Fault (List Nat) :=
  names.mapM fun name =>
    match table.place? name with
    | some place => .ok place
    | none => .error (.noColumnNamed written name)

/-- Fill a row up with the defaults of the columns that are not named.  A column that is named twice
takes its first cell.  The column that stands for the number of a row takes its last one and has no
default: the next number is its value. -/
def Table.filled (table : Table) (places : List Nat) (cells : List Cell) : List Cell :=
  let given := places.zip cells
  (List.range table.columns.length).map fun place =>
    let own := given.filter fun entry => entry.1 == place
    if table.rowKey = some place then ((own.getLast?).map Prod.snd).getD .null
    else ((own.head?).map Prod.snd).getD (table.defaultAt place)

/-- Refuse rows of another length than the columns they are for. -/
def Table.checkCount (table : Table) (written : String) (columns : Option (List String))
    (rows : List (List Expr)) : Except Fault Unit := do
  let count := (rows.headD []).length
  if rows.any fun row => row.length != count then throw .unevenRows
  match columns with
  | some names => if names.length != count then throw (.countMismatch count names.length)
  | none =>
      if table.columns.length != count then
        throw (.tableCountMismatch written table.columns.length count)

/-- Add rows of cells for the columns at some places to a table. -/
def Database.insertCells (db : Database) (table : Table) (places : List Nat)
    (rows : List (List Cell)) : Except Fault Effect := do
  db.checkParents table table.references
  let filled <- rows.foldlM
    (fun (table : Table) cells => table.add (table.filled places cells)) table
  let next := db.setTable filled
  db.checkReferences next
  return { database := next, written := some rows.length }

def Database.insert (db : Database) (parameters : List Cell) (name : String)
    (columns : Option (List String)) (rows : List (List Expr)) : Except Fault Effect := do
  let table <- db.writable name
  let places <- match columns with
    | some names => table.placesOf name names
    | none => pure (List.range table.columns.length)
  let terms <- rows.mapM fun row => Expr.resolveAll {} row
  table.checkCount name columns rows
  db.insertCells table places (terms.map (Term.values { parameters := parameters }))

def Database.insertDefaults (db : Database) (name : String) : Except Fault Effect := do
  db.insertCells (<- db.writable name) [] [[]]

/-- The rows of a table that satisfy a condition. -/
def Table.selected (table : Table) (env : Env) (condition : Option Term) : List StoredRow :=
  table.rows.filter fun row =>
    holdsIn { env with row := row.cells ++ [Cell.ofInt row.id] } condition

/-- Carry changes out one after another and count those that found their row. -/
def Database.changeAll (db : Database) (changes : List Change) : Except Fault (Database × Nat) :=
  changes.foldlM
    (fun (state : Database × Nat) change => do
      let there : Bool :=
        match change with
        | .remove name id | .assign name id _ =>
            ((state.1.table? name).map fun table => table.rows.any (·.id == id)).getD false
      let next <- state.1.change maxDepth change
      return (next, if there then state.2 + 1 else state.2)) (db, 0)

def Database.update (db : Database) (parameters : List Cell) (name : String)
    (assignments : List (String × Expr)) (condition : Option Expr) : Except Fault Effect := do
  let table <- db.writable name
  let scope : Scope := { columns := table.sourceColumns table.name }
  let terms <- assignments.mapM fun entry => do
    let t <- entry.2.resolve scope
    match table.place? entry.1 with
    | some place => return (place, t)
    | none => throw (.noSuchColumn entry.1)
  let condition <- resolve? scope condition
  let places := terms.map Prod.fst
  db.checkParents table (table.references.filter fun r => places.contains r.place)
  db.checkChildren table fun r =>
    match r.target with
    | some target => ((table.place? target).map places.contains).getD false
    | none => table.primaryKey.any places.contains
  let env : Env := { parameters := parameters }
  let changes := (table.selected env condition).map fun row =>
    Change.assign table.name row.id (terms.map fun entry =>
      (entry.1, entry.2.value { env with row := row.cells ++ [Cell.ofInt row.id] }))
  let (next, count) <- db.changeAll changes
  db.checkReferences next
  return { database := next, written := some count }

def Database.delete (db : Database) (parameters : List Cell) (name : String)
    (condition : Option Expr) : Except Fault Effect := do
  let table <- db.writable name
  let scope : Scope := { columns := table.sourceColumns table.name }
  let condition <- resolve? scope condition
  db.checkParents table table.references
  db.checkChildren table fun _ => true
  let chosen := table.selected { parameters := parameters } condition
  let (next, count) <- db.changeAll (chosen.map fun row => .remove table.name row.id)
  db.checkReferences next
  return { database := next, written := some count }

end Embedded
end SqlGate
