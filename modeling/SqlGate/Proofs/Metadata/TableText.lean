import SqlGate.Proofs.Metadata.ColumnText
import SqlGate.Proofs.Metadata.Sharing
import SqlGate.Proofs.Success

namespace SqlGate

/-!
# Reading a table statement back

A table statement has a line for each column between its first and its last
line, and each of these lines but the last one ends with a comma.  No line break
comes from elsewhere, so the lines are found again, and with them the name of
the table and the shapes of the columns, in order.

Metadata are made by registrations.  These enter each column under its own
property, and it is this that makes the key one column: the key is looked up
among the properties, and told at the column whose property it is.
-/

/-! ## Writing and reading a table -/

namespace ColumnShape

/-- Whether the parts of a shape can be told from one another where they are written. -/
structure IsLegible (s : ColumnShape) : Prop where
  name : Text.isTableWord s.name = true
  sqlType : Text.isTableWord s.sqlType = true
  default : ∀ expression ∈ s.default, '\n' ∉ expression.toList

/-- The lines of columns, and the last line of the statement. -/
def writeLines : List ColumnShape -> List Char
  | [] => [')']
  | [last] => "    ".toList ++ (last.write ++ "\n)".toList)
  | s :: rest => "    ".toList ++ (s.write ++ (",\n".toList ++ writeLines rest))

/-- The columns of lines, the last of which closes the statement. -/
def readLines : List (List Char) -> List ColumnShape
  | [] | [_] => []
  | [last, _] => [read (last.drop 4)]
  | line :: rest => read (line.drop 4).dropLast :: readLines rest

/-- The name of the table and the shapes of the columns of a statement. -/
def readTable (sql : String) : String × List ColumnShape :=
  let lines := sql.toList.splitOn '\n'
  (String.ofList (((lines.headD []).drop "CREATE TABLE ".length).takeWhile (· != ' ')),
    readLines lines.tail)

theorem readLines_writeLines {shapes : List ColumnShape} (legible : ∀ s ∈ shapes, s.IsLegible) :
    readLines ((writeLines shapes).splitOn '\n') = shapes := by
  induction shapes with
  | nil => rfl
  | cons s rest ih =>
      have here := legible s List.mem_cons_self
      have oneLine := newline_not_mem_write here.name here.sqlType here.default
      cases rest with
      | nil =>
          have text : writeLines [s] = ("    ".toList ++ s.write) ++ '\n' :: [')'] := by
            rw [writeLines, List.append_assoc]
            rfl
          have noBreak : '\n' ∉ "    ".toList ++ s.write := by
            simpa using oneLine
          rw [text, List.splitOn_append_cons_self_of_not_mem noBreak,
            List.splitOn_eq_singleton (by decide), readLines]
          exact congrArg (fun found => [found]) (read_write here.name here.sqlType)
      | cons next others =>
          have text : writeLines (s :: next :: others)
              = ("    ".toList ++ s.write ++ [',']) ++ '\n' :: writeLines (next :: others) := by
            rw [writeLines, List.append_assoc, List.append_assoc]
            · rfl
            · simp
          have noBreak : '\n' ∉ "    ".toList ++ s.write ++ [','] := by
            simpa using oneLine
          have behind := ih fun t member => legible t (List.mem_cons_of_mem s member)
          rw [text, List.splitOn_append_cons_self_of_not_mem noBreak]
          generalize (writeLines (next :: others)).splitOn '\n' = found at behind ⊢
          -- A list of lines that holds a column has the last line behind it.
          rcases found with _ | ⟨first, _ | ⟨second, more⟩⟩
          · cases behind
          · cases behind
          · have line : (("    ".toList ++ s.write ++ [',']).drop 4).dropLast = s.write := by
              rw [List.append_assoc]
              exact List.dropLast_concat
            rw [readLines, behind, line, read_write here.name here.sqlType]
            · rintro ⟨⟩
            · rintro only ⟨⟩

/-- The statement of a table with these columns. -/
def writeTable (table : String) (shapes : List ColumnShape) : List Char :=
  "CREATE TABLE ".toList ++ (table.toList ++ (" (\n".toList ++ writeLines shapes))

/-- A table statement is read back. -/
theorem readTable_writeTable {table : String} {shapes : List ColumnShape}
    (named : Text.isTableWord table = true) (legible : ∀ s ∈ shapes, s.IsLegible) :
    readTable (String.ofList (writeTable table shapes)) = (table, shapes) := by
  have noBlank : ∀ c ∈ table.toList, (c != ' ') = true := fun c member =>
    bne_iff_ne.mpr (Text.ne_of_isTableWord named (by decide) c member)
  have name := Text.span_append [' ', '('] noBlank
    (fun c first => by cases first; rfl)
  have text : writeTable table shapes
      = ("CREATE TABLE ".toList ++ (table.toList ++ [' ', '('])) ++ '\n' :: writeLines shapes := by
    unfold writeTable
    generalize writeLines shapes = lines
    simp
  have noBreak : '\n' ∉ "CREATE TABLE ".toList ++ (table.toList ++ [' ', '(']) := by
    have outside : '\n' ∉ table.toList := fun member =>
      Text.ne_of_isTableWord named (by decide) '\n' member rfl
    simpa using outside
  rw [readTable, String.toList_ofList, text, List.splitOn_append_cons_self_of_not_mem noBreak]
  simp only [List.headD_cons, List.tail_cons, readLines_writeLines legible]
  have front : ("CREATE TABLE ".toList ++ (table.toList ++ [' ', '('])).drop
      "CREATE TABLE ".length = table.toList ++ [' ', '('] := rfl
  rw [front, name.1, String.ofList_toList]

/-- The lines of columns are their texts with commas and margins between them. -/
theorem writeLines_cons (s : ColumnShape) (rest : List ColumnShape) :
    writeLines (s :: rest) = "    ".toList
      ++ ((",\n    ".intercalate ((s :: rest).map fun t => String.ofList t.write)).toList
        ++ "\n)".toList) := by
  induction rest generalizing s with
  | nil => simp [writeLines]
  | cons next others ih =>
      have behind := ih next
      rw [List.map_cons] at behind
      have text : writeLines (s :: next :: others) = "    ".toList
          ++ (s.write ++ (",\n".toList ++ writeLines (next :: others))) := by
        rw [writeLines]
        rintro ⟨⟩
      rw [text, behind, List.map_cons, List.map_cons, String.intercalate_cons_cons]
      simp

end ColumnShape

namespace ModelMetadata

def shapes (m : ModelMetadata) : List ColumnShape :=
  m.columns.values.map fun c => c.shape (m.primaryKey = some c.property)

theorem definitions_eq (m : ModelMetadata) :
    m.definitions = m.shapes.map fun s => String.ofList s.write := by
  rw [definitions, shapes, List.map_map]
  refine List.map_congr_left ?_
  intro c _
  rw [Function.comp_apply, ← ColumnMetadata.toList_definition, String.ofList_toList]

theorem shapes_eq_nil_iff {m : ModelMetadata} : m.shapes = [] ↔ m.columns.isEmpty = true := by
  rw [shapes, List.map_eq_nil_iff, Ordered.values, List.map_eq_nil_iff, Ordered.isEmpty,
    List.isEmpty_iff]

/-- A statement is told by the name of the table and the shapes of its columns. -/
theorem text_eq {m : ModelMetadata} (some_column : m.columns.isEmpty = false) :
    "CREATE TABLE " ++ m.tableName ++ " (\n    " ++ ",\n    ".intercalate m.definitions ++ "\n)"
      = String.ofList (ColumnShape.writeTable m.tableName m.shapes) := by
  have nonempty : m.shapes ≠ [] := fun none =>
    absurd (shapes_eq_nil_iff.mp none) (by rw [some_column]; decide)
  obtain ⟨s, rest, shapes⟩ := List.exists_cons_of_ne_nil nonempty
  have lines := ColumnShape.writeLines_cons s rest
  rw [← shapes, ← definitions_eq] at lines
  apply String.toList_inj.mp
  rw [String.toList_ofList]
  unfold ColumnShape.writeTable
  generalize ColumnShape.writeLines m.shapes = written at lines ⊢
  subst lines
  generalize ",\n    ".intercalate m.definitions = columns
  simp

/-- Metadata have a table statement if there are a table, a column, and a column of the key. -/
theorem createTable_eq_ok_iff {m : ModelMetadata} {sql : String} :
    m.createTable = .ok sql ↔
      (m.tableName ≠ "" ∧ m.columns.isEmpty = false
        ∧ ∀ key, m.primaryKey = some key -> m.columns.contains key = true)
      ∧ sql = String.ofList (ColumnShape.writeTable m.tableName m.shapes) := by
  rw [createTable, hasTable]
  by_cases named : m.tableName = ""
  · simp [named]
  cases empty : m.columns.isEmpty with
  | true => simp [named]
  | false =>
      rw [← text_eq empty]
      generalize "CREATE TABLE " ++ m.tableName ++ " (\n    "
        ++ ",\n    ".intercalate m.definitions ++ "\n)" = text
      cases key : m.primaryKey with
      | none => simp [named, eq_comm (a := sql)]
      | some property =>
          cases known : m.columns.contains property with
          | false =>
              rw [Option.filter_some_pos (by rw [known]; rfl)]
              simp [named, known]
          | true =>
              rw [Option.filter_some_neg (by rw [known]; decide)]
              simp [named, known, eq_comm (a := sql)]

end ModelMetadata

/-! ## Metadata made by registrations -/

namespace Ordered

variable {α : Type} {m : Ordered α} {name : α -> String} {history : List α}

/-- What a map holds stands under its own name. -/
theorem map_values_of_holds (holds : m.Holds name history) : m.values.map name = m.keys := by
  rw [values, keys, List.map_map]
  refine List.map_congr_left ?_
  rintro ⟨key, thing⟩ member
  have found := holds.get? key
  rw [(m.get?_eq_some_iff key thing).mpr member] at found
  have last := List.mem_of_getLast? found.symm
  simpa using (List.mem_filter.mp last).2

theorem exists_get?_of_contains {key : String} (known : m.contains key = true) :
    ∃ thing, m.get? key = some thing := by
  obtain ⟨⟨_, thing⟩, member, rfl⟩ := List.mem_map.mp (List.contains_iff_mem.mp known)
  exact ⟨thing, (m.get?_eq_some_iff _ thing).mpr member⟩

theorem contains_iff_of_holds (holds : m.Holds name history) (key : String) :
    m.contains key = true ↔ ∃ thing ∈ history, name thing = key := by
  rw [contains, List.contains_iff_mem, holds.keys, List.mem_eraseDups, List.mem_map]

theorem isEmpty_iff_of_holds (holds : m.Holds name history) :
    m.isEmpty = true ↔ history = [] := by
  have none : m.isEmpty = true ↔ m.keys = [] := by
    rw [isEmpty, keys, List.isEmpty_iff, List.map_eq_nil_iff]
  rw [none, List.eq_nil_iff_forall_not_mem, List.eq_nil_iff_forall_not_mem, holds.keys]
  simp only [List.mem_eraseDups, List.mem_map]
  constructor
  · intro nothing thing member
    exact nothing (name thing) ⟨thing, member, rfl⟩
  · rintro nothing key ⟨thing, member, -⟩
    exact nothing thing member

theorem filter_of_nodup_map {l : List α} {a : α} (nodup : (l.map name).Nodup) (member : a ∈ l) :
    (l.filter fun b => decide (name b = name a)) = [a] := by
  induction l with
  | nil => cases member
  | cons first rest ih =>
      obtain ⟨fresh, nodup⟩ := List.nodup_cons.mp nodup
      rcases List.mem_cons.mp member with rfl | later
      · have others : (rest.filter fun b => decide (name b = name a)) = [] := by
          rw [List.filter_eq_nil_iff]
          intro b inside same
          exact fresh (of_decide_eq_true same ▸ List.mem_map_of_mem inside)
        rw [List.filter_cons_of_pos (by simp), others]
      · have different : name first ≠ name a := fun same =>
          fresh (same ▸ List.mem_map_of_mem later)
        rw [List.filter_cons_of_neg (by simpa using different), ih nodup later]

/-- Of all that a map holds, one thing has the name that it stands under. -/
theorem filter_values_of_holds (holds : m.Holds name history) {key : String} {thing : α}
    (found : m.get? key = some thing) :
    (m.values.filter fun other => decide (name other = key)) = [thing] := by
  have nodup : (m.values.map name).Nodup := by
    rw [map_values_of_holds holds]
    exact m.nodup
  have member : thing ∈ m.values :=
    List.mem_map_of_mem ((m.get?_eq_some_iff key thing).mp found)
  have named : name thing = key := by
    rw [holds.get? key] at found
    simpa using (List.mem_filter.mp (List.mem_of_getLast? found)).2
  rw [← named]
  exact filter_of_nodup_map nodup member

end Ordered

namespace ModelMetadata

/-- Words where a table statement has words, and defaults of one line. -/
structure IsOfWords (m : ModelMetadata) : Prop where
  table : Text.isTableWord m.tableName = true
  name : ∀ c ∈ m.columns.values, Text.isTableWord c.name = true
  sqlType : ∀ c ∈ m.columns.values, Text.isTableWord c.sqlType = true
  default : ∀ c ∈ m.columns.values, ∀ expression ∈ c.options.default, '\n' ∉ expression.toList

variable {m : ModelMetadata} {history : List ColumnMetadata}

theorem IsOfWords.isLegible (words : m.IsOfWords) : ∀ s ∈ m.shapes, s.IsLegible := by
  intro s member
  obtain ⟨c, inside, rfl⟩ := List.mem_map.mp member
  exact ⟨words.name c inside, words.sqlType c inside, words.default c inside⟩

/-- The table statement of words is read back. -/
theorem readTable_createTable {sql : String} (words : m.IsOfWords)
    (made : m.createTable = .ok sql) : ColumnShape.readTable sql = (m.tableName, m.shapes) := by
  rw [(createTable_eq_ok_iff.mp made).2]
  exact ColumnShape.readTable_writeTable words.table words.isLegible

theorem filter_shapes (m : ModelMetadata) :
    m.shapes.filter ColumnShape.isKey
      = (m.columns.values.filter fun c => decide (m.primaryKey = some c.property)).map
          fun c => c.shape true := by
  rw [shapes, List.filter_map]
  refine List.map_congr_left ?_
  intro c member
  exact congrArg c.shape (List.mem_filter.mp member).2

/-- Exactly the column that is registered for the key is told to be the key. -/
theorem filter_shapes_of_key (holds : m.columns.Holds ColumnMetadata.property history)
    {key : String} {column : ColumnMetadata} (keyed : m.primaryKey = some key)
    (found : m.columns.get? key = some column) :
    m.shapes.filter ColumnShape.isKey = [column.shape true] := by
  have own : (m.columns.values.filter fun c => decide (m.primaryKey = some c.property))
      = m.columns.values.filter fun c => decide (c.property = key) := by
    refine List.filter_congr ?_
    intro c _
    rw [keyed]
    simp [eq_comm]
  rw [filter_shapes, own, Ordered.filter_values_of_holds holds found]
  rfl

theorem filter_shapes_of_no_key (keyless : m.primaryKey = none) :
    m.shapes.filter ColumnShape.isKey = [] := by
  rw [filter_shapes, keyless]
  simp

/-- The columns of metadata are those registered, in order, each as it was registered last. -/
theorem holds_of_history {table : String} {registrations : List Registration}
    (built : m = registrations.foldl Registration.applyTo (new table)) :
    m.columns.Holds ColumnMetadata.property (registrations.filterMap Registration.column?) := by
  rw [built, foldl_applyTo]
  exact Ordered.holds_putAll ColumnMetadata.property _

theorem exists_createTable_iff (holds : m.columns.Holds ColumnMetadata.property history) :
    (∃ sql, m.createTable = .ok sql) ↔
      m.tableName ≠ "" ∧ history ≠ []
        ∧ ∀ key, m.primaryKey = some key -> ∃ column ∈ history, column.property = key := by
  have nonempty : m.columns.isEmpty = false ↔ history ≠ [] := by
    rw [Ne, ← Ordered.isEmpty_iff_of_holds holds, Bool.not_eq_true]
  simp only [createTable_eq_ok_iff, exists_and_left, exists_eq, and_true, nonempty,
    Ordered.contains_iff_of_holds holds]

/-- A table statement tells the table.  Metadata to which a table and registrations of any kind
lead, in any order, have a statement exactly if there is a table, a column was registered, and one
was for the key, if there is a key.  The columns stand in the order in which their properties came
up, each as it was registered last.  If the names and the types are words and the defaults have no
line break, then the name of the table and the shape of each column can be read back from the text;
a column for which the key is declared is told exactly if there is a key, and it is the one column
that is registered for it.  So two such statements have the same text exactly if they are of the
same name and of the same shapes. -/
theorem readTable_of_registrations {table : String} {registrations : List Registration}
    (built : m = registrations.foldl Registration.applyTo (new table)) :
    ((∃ sql, m.createTable = .ok sql) ↔
      m.tableName ≠ "" ∧ registrations.filterMap Registration.column? ≠ []
        ∧ ∀ key, m.primaryKey = some key ->
            ∃ column ∈ registrations.filterMap Registration.column?, column.property = key)
    ∧ m.columns.Holds ColumnMetadata.property (registrations.filterMap Registration.column?)
    ∧ ∀ sql, m.createTable = .ok sql -> m.IsOfWords ->
        ColumnShape.readTable sql = (m.tableName, m.shapes)
        ∧ (m.primaryKey = none ->
            (ColumnShape.readTable sql).2.filter ColumnShape.isKey = [])
        ∧ (∀ key, m.primaryKey = some key -> ∃ column, m.columns.get? key = some column
            ∧ (ColumnShape.readTable sql).2.filter ColumnShape.isKey = [column.shape true])
        ∧ ∀ (n : ModelMetadata) (other : String), n.IsOfWords -> n.createTable = .ok other ->
            (other = sql ↔ n.tableName = m.tableName ∧ n.shapes = m.shapes) := by
  have holds := holds_of_history built
  refine ⟨exists_createTable_iff holds, holds, ?_⟩
  intro sql made words
  have read := readTable_createTable words made
  have registered := (createTable_eq_ok_iff.mp made).1.2.2
  rw [read]
  refine ⟨rfl, filter_shapes_of_no_key, ?_, ?_⟩
  · intro key keyed
    obtain ⟨column, found⟩ := Ordered.exists_get?_of_contains (registered key keyed)
    exact ⟨column, found, filter_shapes_of_key holds keyed found⟩
  · intro n other otherWords otherMade
    constructor
    · rintro rfl
      have same := (readTable_createTable otherWords otherMade).symm.trans read
      exact ⟨congrArg Prod.fst same, congrArg Prod.snd same⟩
    · rintro ⟨name, shapes⟩
      rw [(createTable_eq_ok_iff.mp otherMade).2, (createTable_eq_ok_iff.mp made).2, name, shapes]

def flightColumns : List Registration :=
  [.column (ColumnMetadata.new "id" "integer").generated,
    .column (((ColumnMetadata.new "flightNo" "varchar").column "flight_no").length 8
      |>.nullable false |>.unique),
    .column ((ColumnMetadata.new "status" "text").defaultValue "'late, or DEFAULT'"),
    .primaryKey "id"]

/-- The metadata to which they lead. -/
def flightTable : ModelMetadata :=
  flightColumns.foldl Registration.applyTo (new "flights")

def flightTableSql : String :=
  "CREATE TABLE flights (\n"
    ++ "    id integer GENERATED BY DEFAULT AS IDENTITY PRIMARY KEY,\n"
    ++ "    flight_no varchar(8) NOT NULL UNIQUE,\n"
    ++ "    status text DEFAULT 'late, or DEFAULT'\n)"

theorem readTable_flightTable :
    flightTable.IsOfWords ∧ flightTable.createTable = .ok flightTableSql
      ∧ ColumnShape.readTable flightTableSql = ("flights", flightTable.shapes)
      ∧ (ColumnShape.readTable flightTableSql).2.filter ColumnShape.isKey
          = [(ColumnMetadata.new "id" "integer").generated.shape true] := by
  have words : flightTable.IsOfWords := ⟨by decide, by decide, by decide, by decide⟩
  have made : flightTable.createTable = .ok flightTableSql := eq_ok_of_toOption (by decide +kernel)
  have built : flightTable = flightColumns.foldl Registration.applyTo (new "flights") := rfl
  obtain ⟨-, -, reads⟩ := readTable_of_registrations built
  obtain ⟨read, -, key, -⟩ := reads _ made words
  obtain ⟨column, found, flagged⟩ := key "id" rfl
  have known : flightTable.columns.get? "id"
      = some (ColumnMetadata.new "id" "integer").generated := by decide
  rw [known] at found
  cases found
  exact ⟨words, made, read, flagged⟩

end ModelMetadata
end SqlGate
