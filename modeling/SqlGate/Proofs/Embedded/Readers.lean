import SqlGate.Proofs.Embedded.Histories

namespace SqlGate

/-!
# Which names the readers of a catalog know

Three questions can be asked of a catalog about a name: whether it is among the
tables and views that are listed, whether there is one of exactly that name, and
which columns it has.  The first and the last take names as the database does,
whatever the case of their letters, and the second does not.  The list leaves out
every name that begins with `sqlite` and one character more, while only names that
begin with `sqlite_` cannot be given.  A view has no columns to tell while what it
is built on is gone, and the table of the catalog itself has columns though it is
neither listed nor found.  This module says of every name which answer each
question has, and so for which names the three agree.
-/

/-! ## Descriptions -/

namespace Catalog

variable {σ α : Type} {driver : Driver σ} {m : ManagerId} {g : Gateway σ}

/-- What a question fails with is never told as a fault of the input. -/
theorem ne_invalidInput_of_ask {question : ConnectionId -> σ -> Except DriverFault α × σ}
    {failure : Failure} {text : String} (failed : (ask driver m question g).1 = .error failure) :
    failure ≠ .invalidInput text := by
  have told : ∀ fault : DriverFault, fault.toFailure ≠ .invalidInput text := by
    intro fault
    cases fault <;> nofun
  unfold ask Gateway.lend Gateway.acquire at failed
  split at failed
  · rename_i refused
    cases failed
    split at refused
    · cases refused
      nofun
    · split at refused <;> cases refused
      exact told _
  · dsimp only at failed
    split at failed <;> cases failed
    exact told _

/-- A description fails for want of the table exactly if no columns are told of it. -/
theorem describe_eq_noTable_iff {catalog : Catalog σ} {table : String} :
    (catalog.describe driver m table g).1 = .error (noTable table) ↔
      (catalog.getColumns driver m table g).1 = .ok [] := by
  have other : ∀ {β : Type} {question : ConnectionId -> σ -> Except DriverFault β × σ}
      {g left : Gateway σ}, ask driver m question g ≠ (.error (noTable table), left) :=
    fun asked => ne_invalidInput_of_ask (congrArg Prod.fst asked) rfl
  unfold describe
  split
  · rename_i told
    rw [told]
    refine ⟨fun failed => ?_, nofun⟩
    cases failed
    exact absurd told other
  · rename_i told
    rw [told]
    exact ⟨fun _ => rfl, fun _ => rfl⟩
  · rename_i nonempty told
    rw [told]
    refine ⟨fun failed => ?_, fun none => absurd (Except.ok.inj none) nonempty⟩
    split at failed
    · rename_i keyed
      cases failed
      exact absurd keyed other
    · split at failed
      · rename_i referred
        cases failed
        exact absurd referred other
      · cases failed

end Catalog

namespace Embedded

/-! ## Names -/

theorem sameName_self (name : String) : sameName name name = true := by
  rw [sameName, Text.sameIgnoringCase, beq_self_eq_true]

theorem lower_eq_of_sameName {a b : String} (same : sameName a b = true) :
    Text.lower a = Text.lower b :=
  congrArg String.ofList (eq_of_beq same)

theorem isOwnName_of_sameName {a b : String} (same : sameName a b = true) :
    Database.isOwnName a = Database.isOwnName b := by
  rw [Database.isOwnName, Database.isOwnName, lower_eq_of_sameName same]

theorem isReserved_of_sameName {a b : String} (same : sameName a b = true) :
    isReserved a = isReserved b := by
  rw [isReserved, isReserved, lower_eq_of_sameName same]

/-- The names of the catalog itself are kept for the database. -/
theorem isReserved_of_isCatalog {name : String} (own : Database.isCatalog name = true) :
    isReserved name = true := by
  obtain ⟨known, member, same⟩ := List.any_eq_true.mp own
  rw [← isReserved_of_sameName same]
  have all : ∀ known ∈ Database.catalogNames, isReserved known = true := by decide +kernel
  exact all known member

namespace Database

/-- Whether there is a table or view of a name, whatever the case of its letters. -/
def holds (db : Database) (name : String) : Bool :=
  db.names.any fun known => sameName known name

theorem holds_of_mem {db : Database} {name : String} (there : name ∈ db.names) :
    db.holds name = true :=
  List.any_eq_true.mpr ⟨name, there, sameName_self name⟩

/-- No table or view of a sound database has a name of the catalog itself. -/
theorem Sound.not_holds {db : Database} (sound : db.Sound) {name : String}
    (own : isCatalog name = true) : db.holds name = false := by
  refine Bool.eq_false_iff.mpr ?_
  intro held
  obtain ⟨known, there, same⟩ := List.any_eq_true.mp held
  have free := sound.named known there
  rw [isReserved_of_sameName same, isReserved_of_isCatalog own] at free
  cases free

/-! ## The list, and the names in it -/

/-- A name is listed if there is a table or view of it, unless it is one that is left out. -/
theorem any_listed (db : Database) (name : String) :
    (db.listed.any fun info => sameName info.name name) = (db.holds name && !isOwnName name) := by
  refine Bool.eq_iff_iff.mpr ?_
  rw [List.any_eq_true, Bool.and_eq_true, holds, List.any_eq_true, Bool.not_eq_true']
  have listed : ∀ info : TableInfo, info ∈ db.listed ↔
      (info ∈ db.tables.map (fun table => ({ name := table.name, tableType := .table } : TableInfo))
          ++ db.views.map (fun view => ({ name := view.name, tableType := .view } : TableInfo)))
        ∧ isOwnName info.name = false := by
    intro info
    rw [Database.listed, List.mem_mergeSort, List.mem_filter, Bool.not_eq_true']
  constructor
  · rintro ⟨info, member, same⟩
    obtain ⟨there, shown⟩ := (listed info).mp member
    rw [isOwnName_of_sameName same] at shown
    refine ⟨⟨info.name, ?_, same⟩, shown⟩
    rcases List.mem_append.mp there with ofTable | ofView
    · obtain ⟨table, known, rfl⟩ := List.mem_map.mp ofTable
      exact List.mem_append_left _ (List.mem_map_of_mem known)
    · obtain ⟨view, known, rfl⟩ := List.mem_map.mp ofView
      exact List.mem_append_right _ (List.mem_map_of_mem known)
  · rintro ⟨⟨known, there, same⟩, shown⟩
    rw [← isOwnName_of_sameName same] at shown
    rcases List.mem_append.mp there with ofTable | ofView
    · obtain ⟨table, member, rfl⟩ := List.mem_map.mp ofTable
      refine ⟨{ name := table.name, tableType := .table }, (listed _).mpr ⟨?_, shown⟩, same⟩
      exact List.mem_append_left _ (List.mem_map_of_mem member)
    · obtain ⟨view, member, rfl⟩ := List.mem_map.mp ofView
      refine ⟨{ name := view.name, tableType := .view }, (listed _).mpr ⟨?_, shown⟩, same⟩
      exact List.mem_append_right _ (List.mem_map_of_mem member)

/-- A name is found if it is spelled as that of a table or view. -/
theorem hasExactly_iff (db : Database) (name : String) :
    db.hasExactly name = true ↔ name ∈ db.names := by
  rw [hasExactly, names, Bool.or_eq_true, List.any_eq_true, List.any_eq_true, List.mem_append,
    List.mem_map, List.mem_map]
  simp only [beq_iff_eq]

end Database

/-! ## Columns -/

/-- Whether every column is one of a table that has a column other than the number of its rows. -/
def Scope.Broad (scope : Scope) : Prop :=
  ∀ column ∈ scope.columns,
    ∃ other ∈ scope.columns, other.table = column.table ∧ other.isRowId = false

namespace Scope

theorem placesOf_ne_nil {scope : Scope} {p : SourceColumn -> Bool} {column : SourceColumn}
    (there : column ∈ scope.columns) (chosen : p column = true) : scope.placesOf p ≠ [] := by
  obtain ⟨place, within, found⟩ := List.mem_iff_getElem.mp there
  have entry : (column, place) ∈ scope.columns.zipIdx :=
    List.mem_zipIdx_iff_getElem?.mpr (found ▸ List.getElem?_eq_getElem within)
  exact List.ne_nil_of_mem (List.mem_filter.mpr ⟨entry, chosen⟩)

/-- An item that was accepted stands for at least one column. -/
theorem Broad.items_ne_nil {scope inner : Scope} (broad : scope.Broad) {item : ResultItem}
    {shown : List Item} (checked : item.check scope = .ok ()) (told : item.items inner = .ok shown)
    (same : inner.columns = scope.columns) : shown ≠ [] := by
  cases item with
  | all =>
      rw [ResultItem.check] at checked
      split at checked
      · cases checked
      · rename_i some
        cases told
        obtain ⟨column, there⟩ := List.exists_mem_of_ne_nil scope.columns fun none =>
          some (List.isEmpty_iff.mpr none)
        obtain ⟨other, among, -, whole⟩ := broad column there
        rw [Ne, List.map_eq_nil_iff]
        exact placesOf_ne_nil (same ▸ among) (by rw [whole]; rfl)
  | allOf table =>
      rw [ResultItem.check] at checked
      split at checked
      · rename_i known
        cases told
        obtain ⟨column, there, named⟩ := List.any_eq_true.mp known
        obtain ⟨other, among, alike, whole⟩ := broad column there
        rw [Ne, List.map_eq_nil_iff]
        refine placesOf_ne_nil (same ▸ among) ?_
        rw [whole, alike, named]
        rfl
      · cases checked
  | expr e alias? source =>
      obtain ⟨t, -, told⟩ := exists_ok_of_bind told
      cases told
      exact List.cons_ne_nil _ _

end Scope

/-- A plan of a query that shows something has a column. -/
theorem Query.columns_ne_nil_of_plan {q : Query} {sources : List Source} {plan : Plan}
    (broad : Scope.Broad { columns := sources.flatMap Source.columns }) (given : q.items ≠ [])
    (planned : q.plan sources = .ok plan) : plan.columns ≠ [] := by
  obtain ⟨item, rest, shows⟩ := List.exists_cons_of_ne_nil given
  obtain ⟨checked, accepted, planned⟩ := exists_ok_of_bind planned
  obtain ⟨limit, -, planned⟩ := exists_ok_of_bind planned
  obtain ⟨offset, -, planned⟩ := exists_ok_of_bind planned
  obtain ⟨items, told, planned⟩ := exists_ok_of_bind planned
  have shown : items.flatten ≠ [] := by
    rw [shows] at accepted
    rw [shows, List.mapM_cons] at told
    obtain ⟨_, first, -⟩ := exists_ok_of_bind accepted
    obtain ⟨front, computed, told⟩ := exists_ok_of_bind told
    obtain ⟨behind, -, told⟩ := exists_ok_of_bind told
    cases told
    have some := broad.items_ne_nil first computed rfl
    exact fun none => some (List.append_eq_nil_iff.mp none).1
  dsimp only at planned
  split at planned
  · cases planned
  · obtain ⟨having, -, planned⟩ := exists_ok_of_bind planned
    obtain ⟨condition, -, planned⟩ := exists_ok_of_bind planned
    obtain ⟨ons, -, planned⟩ := exists_ok_of_bind planned
    obtain ⟨orderBy, -, planned⟩ := exists_ok_of_bind planned
    obtain ⟨groupBy, -, planned⟩ := exists_ok_of_bind planned
    obtain ⟨refused, -, planned⟩ := exists_ok_of_bind planned
    cases planned
    rw [Plan.columns, Ne, List.map_eq_nil_iff]
    exact shown

namespace Database

variable {db : Database}

/-- Beside the number of a row every table has its columns. -/
theorem Sound.broad_sourceColumns (sound : db.Sound) {table : Table} (there : table ∈ db.tables)
    (known : String) : Scope.Broad { columns := table.sourceColumns known } := by
  obtain ⟨first, among⟩ := List.exists_mem_of_ne_nil table.columns (sound.columns table there)
  intro column member
  refine ⟨_, List.mem_append_left _ (List.mem_map_of_mem among), ?_, rfl⟩
  rcases List.mem_append.mp member with own | number
  · obtain ⟨shown, -, rfl⟩ := List.mem_map.mp own
    rfl
  · rw [List.mem_singleton.mp number]

theorem broad_of_result (result : ResultTable) (known : String) :
    Scope.Broad { columns := result.sourceColumns known } := by
  intro column member
  refine ⟨column, member, rfl, ?_⟩
  obtain ⟨shown, -, rfl⟩ := List.mem_map.mp member
  rfl

/-- What a view shows has a column, if the tables and columns that it is built on are there. -/
theorem Sound.heading_ne_nil (sound : db.Sound) {depth : Nat} {reading : List String} {q : Query}
    {columns : List ResultColumn} (given : q.items ≠ [])
    (told : db.heading depth reading q = .ok columns) : columns ≠ [] := by
  cases depth with
  | zero => cases told
  | succ depth =>
      rw [heading] at told
      obtain ⟨sources, read, told⟩ := exists_ok_of_bind told
      obtain ⟨plan, planned, told⟩ := exists_ok_of_bind told
      cases told
      refine Query.columns_ne_nil_of_plan ?_ given planned
      intro column member
      obtain ⟨source, among, there⟩ := List.mem_flatMap.mp member
      have broad : Scope.Broad { columns := source.columns } := by
        obtain ⟨wanted, -, reads⟩ := exists_of_mem_mapM read source among
        dsimp only at reads
        split at reads
        · rename_i table found
          cases reads
          exact sound.broad_sourceColumns (table?_mem found) _
        · split at reads
          · cases reads
          · obtain ⟨shown, -, reads⟩ := exists_ok_of_bind reads
            cases reads
            exact broad_of_result _ _
        · cases reads
      obtain ⟨other, beside, alike, whole⟩ := broad column there
      exact ⟨other, List.mem_flatMap.mpr ⟨source, among, beside⟩, alike, whole⟩

/-- Whether the columns of the table or view of a name can be told.  What a view is built on may
be gone. -/
def shows (db : Database) (name : String) : Bool :=
  match db.tables.find? fun table => sameName table.name name,
    db.views.find? fun view => sameName view.name name with
  | some _, _ => true
  | none, some view => (db.heading db.viewDepth [view.name] view.query).isOk
  | none, none => false

/-- What is neither a table nor a view is not among the tables or views. -/
theorem holds_eq_false_iff {name : String} :
    db.holds name = false ↔
      db.tables.find? (fun table => sameName table.name name) = none
        ∧ db.views.find? (fun view => sameName view.name name) = none := by
  rw [holds, names, List.any_append, Bool.or_eq_false_iff, List.any_map, List.any_map,
    List.find?_eq_none, List.find?_eq_none, List.any_eq_false, List.any_eq_false]
  rfl

/-- What has columns to tell is a table or view. -/
theorem holds_of_shows {name : String} (shown : db.shows name = true) : db.holds name = true := by
  by_contra lost
  obtain ⟨noTable, noView⟩ := holds_eq_false_iff.mp (Bool.not_eq_true _ ▸ lost)
  rw [shows, noTable, noView] at shown
  cases shown

/-- Columns are told of a table, of a view that can be looked at, and of the catalog itself. -/
theorem Sound.columnRecords_iff (sound : db.Sound) (name : String) :
    (∃ records, db.columnRecords name = .ok records ∧ records ≠ []) ↔
      db.shows name = true ∨ isCatalog name = true := by
  have unlike : db.holds name = true -> isCatalog name ≠ true := by
    intro held own
    rw [sound.not_holds own] at held
    cases held
  unfold columnRecords
  cases ofTable : db.tables.find? fun table => sameName table.name name with
  | some table =>
      have shown : db.shows name = true := by rw [shows, ofTable]
      have columns := sound.columns table (List.mem_of_find?_eq_some ofTable)
      refine ⟨fun _ => .inl shown, fun _ => ⟨_, rfl, ?_⟩⟩
      simpa using columns
  | none =>
      cases ofView : db.views.find? fun view => sameName view.name name with
      | some view =>
          have held : db.holds name = true := by
            by_contra lost
            obtain ⟨-, noView⟩ := holds_eq_false_iff.mp (Bool.not_eq_true _ ▸ lost)
            rw [noView] at ofView
            cases ofView
          have items := sound.items view (List.mem_of_find?_eq_some ofView)
          have same : db.shows name = (db.heading db.viewDepth [view.name] view.query).isOk := by
            rw [shows, ofTable, ofView]
          rw [same, or_iff_left (unlike held)]
          dsimp only
          cases told : db.heading db.viewDepth [view.name] view.query with
          | error fault =>
              exact ⟨fun ⟨_, records, _⟩ => (nomatch records), nofun⟩
          | ok columns =>
              refine ⟨fun _ => rfl, fun _ => ⟨_, rfl, ?_⟩⟩
              rw [Ne, List.map_eq_nil_iff]
              exact sound.heading_ne_nil items told
      | none =>
          have lost : db.shows name = false := by rw [shows, ofTable, ofView]
          rw [lost]
          cases own : isCatalog name with
          | true => exact ⟨fun _ => .inr rfl, fun _ => ⟨_, rfl, List.cons_ne_nil _ _⟩⟩
          | false =>
              constructor
              · rintro ⟨records, told, some⟩
                cases told
                exact absurd rfl some
              · rintro (shown | own)
                · cases shown
                · cases own

end Database

/-! ## What is answered on a connection -/

namespace Engine

/-- The database that a connection sees. -/
def seen? (engine : Engine) (c : ConnectionId) : Option Database :=
  (engine.workspace? c).map Workspace.seen

/-- Whether a name is among those that are listed, whatever the case of its letters. -/
def lists (engine : Engine) (schema : Option String) (c : ConnectionId) (name : String) : Bool :=
  match (catalog.tables schema c engine).1 with
  | .ok infos => infos.any fun info => sameName info.name name
  | .error _ => false

/-- Whether a name is found. -/
def finds (engine : Engine) (c : ConnectionId) (name : String) : Bool :=
  match (catalog.tableExists name c engine).1 with
  | .ok found => found
  | .error _ => false

/-- Whether a name has columns. -/
def tells (engine : Engine) (c : ConnectionId) (name : String) : Bool :=
  match (catalog.columns name c engine).1 with
  | .ok columns => !columns.isEmpty
  | .error _ => false

/-- Whether the three questions have one answer for a name. -/
def ReadersAgree (engine : Engine) (schema : Option String) (c : ConnectionId) (name : String) :
    Prop :=
  engine.lists schema c name = engine.finds c name ∧ engine.finds c name = engine.tells c name

section

variable {α : Type} {engine : Engine} {c : ConnectionId} {db : Database}

theorem look_of_ok (there : engine.seen? c = some db) {read : Database -> Except Fault α} {a : α}
    (given : read db = .ok a) : (look read c engine).1 = .ok a := by
  obtain ⟨w, reached, rfl⟩ := Option.map_eq_some_iff.mp there
  obtain ⟨connection, found, rfl⟩ := Option.map_eq_some_iff.mp reached
  simp only [look, within, found, given]

theorem look_of_error (there : engine.seen? c = some db) {read : Database -> Except Fault α}
    {fault : Fault} (failed : read db = .error fault) :
    (look read c engine).1 = .error fault.toDriverFault := by
  obtain ⟨w, reached, rfl⟩ := Option.map_eq_some_iff.mp there
  obtain ⟨connection, found, rfl⟩ := Option.map_eq_some_iff.mp reached
  simp only [look, within, found, failed]

theorem lists_iff (there : engine.seen? c = some db) (schema : Option String) (name : String) :
    engine.lists schema c name = true ↔
      db.holds name = true ∧ Database.isOwnName name = false := by
  have answered : (catalog.tables schema c engine).1 = .ok db.listed := look_of_ok there rfl
  rw [lists, answered]
  dsimp only
  rw [db.any_listed name, Bool.and_eq_true, Bool.not_eq_true']

theorem finds_iff (there : engine.seen? c = some db) (name : String) :
    engine.finds c name = true ↔ name ∈ db.names := by
  have answered : (catalog.tableExists name c engine).1 = .ok (db.hasExactly name) :=
    look_of_ok there rfl
  rw [finds, answered]
  exact db.hasExactly_iff name

theorem tells_iff (there : engine.seen? c = some db) (sound : db.Sound) (name : String) :
    engine.tells c name = true ↔ db.shows name = true ∨ Database.isCatalog name = true := by
  rw [← sound.columnRecords_iff, tells]
  cases told : db.columnRecords name with
  | error fault =>
      have failed : (catalog.columns name c engine).1 = .error fault.toDriverFault := by
        refine look_of_error there ?_
        rw [told]
        rfl
      rw [failed]
      exact ⟨nofun, fun ⟨_, records, _⟩ => (nomatch records)⟩
  | ok records =>
      have given : (catalog.columns name c engine).1 = .ok (ColumnRecord.definitions records) := by
        refine look_of_ok there ?_
        rw [told]
        rfl
      rw [given]
      cases records with
      | nil =>
          refine ⟨nofun, ?_⟩
          rintro ⟨others, same, some⟩
          cases same
          exact absurd rfl some
      | cons record rest => exact ⟨fun _ => ⟨_, rfl, List.cons_ne_nil _ _⟩, fun _ => rfl⟩

end

/-- After any history of an engine, whatever tables and views it made, and for every name: the name
is listed if there is a table or view of it and the name is not left out, it is found if one is
spelled so, and it has columns if those of the table or view can be told, or if it is a name of the
catalog itself.  So the three agree exactly on the names that are spelled as their table or view,
not left out, and have columns to tell, on those that fail in all three ways, and on those of
nothing but the catalog.  A description fails for want of the table exactly if no columns are
told of it. -/
theorem readersAgree_iff {location : Location} {history : List Event} {c : ConnectionId}
    {db : Database} (there : (history.foldl serve { location := location }).seen? c = some db)
    (schema : Option String) (name : String) :
    ((history.foldl serve { location := location }).lists schema c name = true ↔
        db.holds name = true ∧ Database.isOwnName name = false)
    ∧ ((history.foldl serve { location := location }).finds c name = true ↔ name ∈ db.names)
    ∧ ((history.foldl serve { location := location }).tells c name = true ↔
        db.shows name = true ∨ Database.isCatalog name = true)
    ∧ ((history.foldl serve { location := location }).ReadersAgree schema c name ↔
        if db.holds name then
          Database.isOwnName name = false ∧ name ∈ db.names ∧ db.shows name = true
          ∨ Database.isOwnName name = true ∧ name ∉ db.names ∧ db.shows name = false
        else Database.isCatalog name = false)
    ∧ ∀ (m : ManagerId) (g : Gateway Engine),
        (catalog.describe driver m name g).1 = .error (Catalog.noTable name) ↔
          (catalog.getColumns driver m name g).1 = .ok [] := by
  have sound : db.Sound := by
    obtain ⟨w, held, rfl⟩ := Option.map_eq_some_iff.mp there
    exact sound_seen history held
  have listed := lists_iff there schema name
  have found := finds_iff there name
  have told := tells_iff there sound name
  refine ⟨listed, found, told, ?_, fun m g => Catalog.describe_eq_noTable_iff⟩
  rw [ReadersAgree, Bool.eq_iff_iff.trans (iff_congr listed found),
    Bool.eq_iff_iff.trans (iff_congr found told)]
  cases held : db.holds name with
  | false =>
      have unfound : name ∉ db.names := by
        intro member
        rw [Database.holds_of_mem member] at held
        cases held
      have hidden : db.shows name ≠ true := by
        intro shown
        rw [Database.holds_of_shows shown] at held
        cases held
      cases Database.isCatalog name <;> simp [unfound, hidden]
  | true =>
      have apart : Database.isCatalog name = false := by
        refine Bool.eq_false_iff.mpr ?_
        intro own
        rw [sound.not_holds own] at held
        cases held
      by_cases spelled : name ∈ db.names <;> cases Database.isOwnName name <;>
        cases db.shows name <;> simp [apart, spelled]

/-- Two tables, one with a capital in its name and one whose name begins as no name of the
database itself does. -/
def twoTables : List Event :=
  [.opened, .sent 0 (.execute "CREATE TABLE Airport (id INTEGER)" []),
    .sent 0 (.execute "CREATE TABLE sqliteman (id INTEGER)" [])]

/-- The three agree on the name of the first table as it is spelled. -/
theorem readersAgree_airport :
    (twoTables.foldl serve { location := .memory }).ReadersAgree none 0 "Airport" := by
  have known : ((twoTables.foldl serve { location := .memory }).seen? 0).map (fun db =>
      (db.holds "Airport", db.names, db.shows "Airport"))
        = some (true, ["Airport", "sqliteman"], true) := by decide +kernel
  obtain ⟨db, there, facts⟩ := Option.map_eq_some_iff.mp known
  obtain ⟨held, facts⟩ := Prod.ext_iff.mp facts
  obtain ⟨spelled, shown⟩ := Prod.ext_iff.mp facts
  dsimp only at held spelled shown
  refine (readersAgree_iff there none "Airport").2.2.2.1.mpr ?_
  rw [held, if_pos rfl, spelled]
  exact .inl ⟨by decide +kernel, List.mem_cons_self, shown⟩

/-- A name in other letters is listed and has columns, but is not found; a name that begins with
`sqlite` without the underscore is found and has columns, but is not listed. -/
theorem answers_twoTables :
    let engine := twoTables.foldl serve { location := .memory }
    (["airport", "sqliteman"].map fun name =>
        (engine.lists none 0 name, engine.finds 0 name, engine.tells 0 name))
      = [(true, false, true), (false, true, true)] := by decide +kernel

/-- It is not so that the three agree on every name. -/
theorem not_forall_readersAgree :
    ¬ ∀ (location : Location) (history : List Event) (c : ConnectionId) (schema : Option String)
        (name : String), ((history.foldl serve { location := location }).seen? c).isSome = true ->
        (history.foldl serve { location := location }).ReadersAgree schema c name := by
  intro agree
  have same := (agree .memory twoTables 0 none "airport" (by decide +kernel)).1
  have answers := Prod.ext_iff.mp (List.cons.inj answers_twoTables).1
  have listed := answers.1
  have found := (Prod.ext_iff.mp answers.2).1
  dsimp only at listed found
  rw [listed, found] at same
  cases same

end Engine
end Embedded
end SqlGate
