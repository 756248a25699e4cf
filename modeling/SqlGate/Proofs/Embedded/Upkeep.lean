import SqlGate.Proofs.Embedded.Counter
import SqlGate.Proofs.Embedded.Declarations

namespace SqlGate
namespace Embedded

/-!
# Which tables and views there are

Writing rows leaves the tables with their names and columns, whatever references
ask for.  Only the statements that make or drop something change which tables and
views there are.  What they make has a name that is not kept for the database
itself, a table has a column, and a view shows something, provided that the
statement was read from a text.  So this holds of a database after every statement
if it held before.
-/

/-- Whether a name is kept for the database itself, so that it cannot be given. -/
def isReserved (name : String) : Bool :=
  Text.beginsWith "sqlite_".toList (Text.lower name).toList

namespace Database

def names (db : Database) : List String :=
  db.tables.map Table.name ++ db.views.map View.name

/-- What holds of every database that was made by statements. -/
structure Sound (db : Database) : Prop where
  /-- Every table has a column. -/
  columns : ∀ table ∈ db.tables, table.columns ≠ []
  /-- Every view shows something. -/
  items : ∀ view ∈ db.views, view.query.items ≠ []
  /-- No name is one kept for the database itself. -/
  named : ∀ name ∈ db.names, isReserved name = false

theorem sound_empty : Sound {} where
  columns _ member := absurd member List.not_mem_nil
  items _ member := absurd member List.not_mem_nil
  named _ member := absurd member List.not_mem_nil

end Database

/-! ## Writing rows -/

/-- Whether two tables differ in their rows at most, as far as names and columns go. -/
def Table.Alike (table other : Table) : Prop :=
  table.name = other.name ∧ table.columns = other.columns

namespace Database

/-- Whether a database has the views of an earlier one, and of its tables some, with other rows. -/
structure Keeps (before after : Database) : Prop where
  /-- The views are the same. -/
  views : after.views = before.views
  /-- Every table was there before. -/
  tables : ∀ table ∈ after.tables, ∃ old ∈ before.tables, table.Alike old

theorem Keeps.refl (db : Database) : db.Keeps db :=
  ⟨rfl, fun table member => ⟨table, member, rfl, rfl⟩⟩

theorem Keeps.trans {first second third : Database} (one : first.Keeps second)
    (two : second.Keeps third) : first.Keeps third where
  views := two.views.trans one.views
  tables table member := by
    obtain ⟨middle, there, name, columns⟩ := two.tables table member
    obtain ⟨old, first, oldName, oldColumns⟩ := one.tables middle there
    exact ⟨old, first, name.trans oldName, columns.trans oldColumns⟩

theorem Keeps.sound {before after : Database} (keeps : before.Keeps after)
    (sound : before.Sound) : after.Sound where
  columns table member := by
    obtain ⟨old, there, -, columns⟩ := keeps.tables table member
    rw [columns]
    exact sound.columns old there
  items := keeps.views ▸ sound.items
  named name member := by
    rcases List.mem_append.mp member with ofTable | ofView
    · obtain ⟨table, there, rfl⟩ := List.mem_map.mp ofTable
      obtain ⟨old, before, same, -⟩ := keeps.tables table there
      rw [same]
      exact sound.named _ (List.mem_append_left _ (List.mem_map_of_mem before))
    · rw [keeps.views] at ofView
      exact sound.named _ (List.mem_append_right _ ofView)

theorem table?_mem {db : Database} {name : String} {table : Table}
    (found : db.table? name = some table) : table ∈ db.tables :=
  List.mem_of_find?_eq_some found

theorem keeps_setTable {db : Database} {table changed : Table} (there : table ∈ db.tables)
    (alike : changed.Alike table) : db.Keeps (db.setTable changed) where
  views := rfl
  tables other member := by
    obtain ⟨old, before, rfl⟩ := List.mem_map.mp member
    split
    · exact ⟨table, there, alike⟩
    · exact ⟨old, before, rfl, rfl⟩

end Database

theorem Table.alike_add {table filled : Table} {cells : List Cell}
    (added : table.add cells = .ok filled) : filled.Alike table := by
  unfold Table.add at added
  dsimp only at added
  split at added
  all_goals
    obtain ⟨id, -, added⟩ := exists_ok_of_bind added
    obtain ⟨checked, -, added⟩ := exists_ok_of_bind added
    cases added
    exact ⟨rfl, rfl⟩

theorem Table.alike_assign {table changed : Table} {row written : StoredRow}
    {changes : List (Nat × Cell)} (assigned : table.assign row changes = .ok (changed, written)) :
    changed.Alike table := by
  unfold Table.assign at assigned
  split at assigned
  all_goals
    obtain ⟨id, -, assigned⟩ := exists_ok_of_bind assigned
    obtain ⟨checked, -, assigned⟩ := exists_ok_of_bind assigned
    cases assigned
    exact ⟨rfl, rfl⟩

namespace Database

/-- A change of a row, with all that follows from it, keeps names and columns. -/
theorem keeps_change {depth : Nat} {db next : Database} {change : Change}
    (changed : db.change depth change = .ok next) : db.Keeps next := by
  induction depth generalizing db next change with
  | zero => cases changed
  | succ depth ih =>
      have followed : ∀ {start last : Database} {changes : List Change},
          changes.foldlM (fun db change => db.change depth change) start = .ok last ->
          start.Keeps last :=
        related_of_foldlM Keeps.refl Keeps.trans fun _ _ _ => ih
      cases change with
      | remove name id =>
          rw [Database.change] at changed
          split at changed
          · cases changed
            exact Keeps.refl db
          · rename_i table found
            split at changed
            · cases changed
              exact Keeps.refl db
            · obtain ⟨following, -, changed⟩ := exists_ok_of_bind changed
              have alike : (table.remove id).Alike table := ⟨rfl, rfl⟩
              exact (keeps_setTable (table?_mem found) alike).trans (followed changed)
      | assign name id cells =>
          rw [Database.change] at changed
          split at changed
          · cases changed
            exact Keeps.refl db
          · rename_i table found
            split at changed
            · cases changed
              exact Keeps.refl db
            · obtain ⟨⟨filled, written⟩, assigned, changed⟩ := exists_ok_of_bind changed
              obtain ⟨following, -, changed⟩ := exists_ok_of_bind changed
              exact (keeps_setTable (table?_mem found) (Table.alike_assign assigned)).trans
                (followed changed)

theorem keeps_changeAll {db next : Database} {changes : List Change} {count : Nat}
    (changed : db.changeAll changes = .ok (next, count)) : db.Keeps next := by
  refine related_of_foldlM (R := fun one two => one.1.Keeps two.1) (fun one => Keeps.refl one.1)
    Keeps.trans ?_ changed
  intro state change reached carried
  obtain ⟨next, changed, carried⟩ := exists_ok_of_bind carried
  cases carried
  exact keeps_change changed

theorem writable_mem {db : Database} {name : String} {table : Table}
    (found : db.writable name = .ok table) : table ∈ db.tables := by
  unfold writable at found
  split at found
  · rename_i table there
    cases found
    exact table?_mem there
  · split at found <;> cases found

theorem keeps_insertCells {db : Database} {table : Table} {places : List Nat}
    {rows : List (List Cell)} {effect : Effect} (there : table ∈ db.tables)
    (inserted : db.insertCells table places rows = .ok effect) : db.Keeps effect.database := by
  obtain ⟨checked, -, inserted⟩ := exists_ok_of_bind inserted
  obtain ⟨filled, added, inserted⟩ := exists_ok_of_bind inserted
  obtain ⟨referred, -, inserted⟩ := exists_ok_of_bind inserted
  cases inserted
  refine keeps_setTable there ?_
  refine related_of_foldlM (R := fun one two => two.Alike one) (fun _ => ⟨rfl, rfl⟩)
    (fun one two => ⟨two.1.trans one.1, two.2.trans one.2⟩) ?_ added
  exact fun _ _ _ => Table.alike_add

theorem keeps_insert {db : Database} {parameters : List Cell} {name : String}
    {columns : Option (List String)} {rows : List (List Expr)} {effect : Effect}
    (inserted : db.insert parameters name columns rows = .ok effect) :
    db.Keeps effect.database := by
  obtain ⟨table, found, inserted⟩ := exists_ok_of_bind inserted
  split at inserted
  all_goals
    obtain ⟨places, -, inserted⟩ := exists_ok_of_bind inserted
    obtain ⟨terms, -, inserted⟩ := exists_ok_of_bind inserted
    obtain ⟨counted, -, inserted⟩ := exists_ok_of_bind inserted
    exact keeps_insertCells (writable_mem found) inserted

theorem keeps_insertDefaults {db : Database} {name : String} {effect : Effect}
    (inserted : db.insertDefaults name = .ok effect) : db.Keeps effect.database := by
  obtain ⟨table, found, inserted⟩ := exists_ok_of_bind inserted
  exact keeps_insertCells (writable_mem found) inserted

theorem keeps_update {db : Database} {parameters : List Cell} {name : String}
    {assignments : List (String × Expr)} {condition : Option Expr} {effect : Effect}
    (updated : db.update parameters name assignments condition = .ok effect) :
    db.Keeps effect.database := by
  obtain ⟨table, -, updated⟩ := exists_ok_of_bind updated
  obtain ⟨terms, -, updated⟩ := exists_ok_of_bind updated
  obtain ⟨test, -, updated⟩ := exists_ok_of_bind updated
  obtain ⟨parents, -, updated⟩ := exists_ok_of_bind updated
  obtain ⟨children, -, updated⟩ := exists_ok_of_bind updated
  obtain ⟨⟨next, count⟩, changed, updated⟩ := exists_ok_of_bind updated
  obtain ⟨referred, -, updated⟩ := exists_ok_of_bind updated
  cases updated
  exact keeps_changeAll changed

theorem keeps_delete {db : Database} {parameters : List Cell} {name : String}
    {condition : Option Expr} {effect : Effect}
    (deleted : db.delete parameters name condition = .ok effect) : db.Keeps effect.database := by
  obtain ⟨table, -, deleted⟩ := exists_ok_of_bind deleted
  obtain ⟨test, -, deleted⟩ := exists_ok_of_bind deleted
  obtain ⟨parents, -, deleted⟩ := exists_ok_of_bind deleted
  obtain ⟨children, -, deleted⟩ := exists_ok_of_bind deleted
  obtain ⟨⟨next, count⟩, changed, deleted⟩ := exists_ok_of_bind deleted
  obtain ⟨referred, -, deleted⟩ := exists_ok_of_bind deleted
  cases deleted
  exact keeps_changeAll changed

/-! ## Making and dropping -/

/-- A database with fewer tables and views. -/
theorem Sound.of_subset {db next : Database} (sound : db.Sound) (tables : next.tables ⊆ db.tables)
    (views : next.views ⊆ db.views) : next.Sound where
  columns table member := sound.columns table (tables member)
  items view member := sound.items view (views member)
  named name member := by
    refine sound.named name (List.mem_append.mpr ?_)
    exact (List.mem_append.mp member).imp
      (fun ofTable => List.map_subset Table.name tables ofTable)
      fun ofView => List.map_subset View.name views ofView

/-- A name that can be given is none of those kept for the database. -/
theorem isReserved_of_checkNew {db : Database} {lenient : Bool} {name : String}
    (fresh : db.checkNew lenient name = .ok true) : isReserved name = false := by
  unfold checkNew at fresh
  split at fresh
  · cases fresh
  · rename_i free
    exact Bool.not_eq_true _ ▸ free

theorem Sound.addTable {db : Database} {table : Table} (sound : db.Sound)
    (columns : table.columns ≠ []) (named : isReserved table.name = false) :
    ({ db with tables := db.tables ++ [table] } : Database).Sound where
  columns other member := by
    rcases List.mem_append.mp member with old | new
    · exact sound.columns other old
    · rw [List.mem_singleton.mp new]
      exact columns
  items := sound.items
  named name member := by
    simp only [names, List.map_append, List.mem_append, List.map_cons, List.map_nil,
      List.mem_singleton] at member
    rcases member with (old | rfl) | view
    · exact sound.named name (List.mem_append_left _ old)
    · exact named
    · exact sound.named name (List.mem_append_right _ view)

theorem Sound.addView {db : Database} {view : View} (sound : db.Sound)
    (items : view.query.items ≠ []) (named : isReserved view.name = false) :
    ({ db with views := db.views ++ [view] } : Database).Sound where
  columns := sound.columns
  items other member := by
    rcases List.mem_append.mp member with old | new
    · exact sound.items other old
    · rw [List.mem_singleton.mp new]
      exact items
  named name member := by
    simp only [names, List.map_append, List.mem_append, List.map_cons, List.map_nil,
      List.mem_singleton] at member
    rcases member with table | old | rfl
    · exact sound.named name (List.mem_append_left _ table)
    · exact sound.named name (List.mem_append_right _ old)
    · exact named

theorem tableOf_eq {name : String} {columns : List ColumnClause} {clauses : List TableClause}
    {table : Table} (made : tableOf name columns clauses = .ok table) :
    table.name = name ∧ table.columns = columns.map ColumnClause.column := by
  obtain ⟨distinct, -, made⟩ := exists_ok_of_bind made
  obtain ⟨declared, -, made⟩ := exists_ok_of_bind made
  split at made
  · cases made
  · obtain ⟨written, -, made⟩ := exists_ok_of_bind made
    cases made
    exact ⟨rfl, rfl⟩

theorem sound_createTable {db : Database} {lenient : Bool} {name : String}
    {columns : List ColumnClause} {clauses : List TableClause} {effect : Effect} (sound : db.Sound)
    (given : columns ≠ []) (made : db.createTable lenient name columns clauses = .ok effect) :
    effect.database.Sound := by
  obtain ⟨fresh, checked, made⟩ := exists_ok_of_bind made
  cases fresh with
  | false =>
      cases made
      exact sound
  | true =>
      obtain ⟨table, entered, made⟩ := exists_ok_of_bind made
      cases made
      obtain ⟨named, with_columns⟩ := tableOf_eq entered
      refine sound.addTable ?_ ?_
      · rw [with_columns]
        simpa using given
      · rw [named]
        exact isReserved_of_checkNew checked

theorem sound_createView {db : Database} {lenient : Bool} {name : String} {q : Query}
    {effect : Effect} (sound : db.Sound) (given : q.items ≠ [])
    (made : db.createView lenient name q = .ok effect) : effect.database.Sound := by
  obtain ⟨fresh, checked, made⟩ := exists_ok_of_bind made
  cases fresh with
  | false =>
      cases made
      exact sound
  | true =>
      cases made
      exact sound.addView given (isReserved_of_checkNew checked)

theorem sound_dropTable {db : Database} {lenient : Bool} {name : String} {effect : Effect}
    (sound : db.Sound) (dropped : db.dropTable lenient name = .ok effect) :
    effect.database.Sound := by
  unfold dropTable at dropped
  split at dropped
  · obtain ⟨⟨next, written⟩, emptied, dropped⟩ := exists_ok_of_bind dropped
    cases dropped
    have keeps : db.Keeps next := by
      unfold Database.emptied at emptied
      split at emptied
      · cases emptied
        exact Keeps.refl db
      · obtain ⟨⟨reached, count⟩, changed, emptied⟩ := exists_ok_of_bind emptied
        obtain ⟨referred, -, emptied⟩ := exists_ok_of_bind emptied
        cases emptied
        exact keeps_changeAll changed
    exact (keeps.sound sound).of_subset (fun _ member => (List.mem_filter.mp member).1) fun _ => id
  · cases dropped
  · split at dropped <;> cases dropped
    exact sound

theorem sound_dropView {db : Database} {lenient : Bool} {name : String} {effect : Effect}
    (sound : db.Sound) (dropped : db.dropView lenient name = .ok effect) :
    effect.database.Sound := by
  unfold dropView at dropped
  split at dropped
  · cases dropped
    exact sound.of_subset (fun _ => id) fun _ member => (List.mem_filter.mp member).1
  · cases dropped
  · split at dropped <;> cases dropped
    exact sound

/-- Every statement that was read leaves a sound database sound. -/
theorem sound_effectOf {db : Database} {cells : List Cell} {s : Statement} {effect : Effect}
    (sound : db.Sound) (declares : s.Declares)
    (effected : Workspace.effectOf db cells s = .ok effect) : effect.database.Sound := by
  cases s with
  | select q =>
      obtain ⟨table, -, effected⟩ := exists_ok_of_bind effected
      cases effected
      exact sound
  | insert table columns rows => exact (keeps_insert effected).sound sound
  | insertDefaults table => exact (keeps_insertDefaults effected).sound sound
  | update table assignments condition => exact (keeps_update effected).sound sound
  | delete table condition => exact (keeps_delete effected).sound sound
  | createTable lenient name columns clauses => exact sound_createTable sound declares effected
  | createView lenient name q => exact sound_createView sound declares effected
  | dropTable lenient name => exact sound_dropTable sound effected
  | dropView lenient name => exact sound_dropView sound effected
  | _ =>
      cases effected
      exact sound

end Database
end Embedded
end SqlGate
