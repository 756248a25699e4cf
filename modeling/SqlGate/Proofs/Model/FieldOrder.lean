import Mathlib.Data.Fintype.EquivFin
import Mathlib.Data.List.Basic
import SqlGate.Proofs.Model.Renaming
import SqlGate.Proofs.Ordered

namespace SqlGate

/-!
# The order of the fields that are not renamed

A row tells its columns in the order of the selection, and the fields that no renamed
column reads or writes go through the renaming with their values.  Their order does
not: where a column is taken out of the row, the last field moves into its place, in
front of all fields that stood behind the column.

So a model that renames any column at all changes the order of some row.  Which rows
these are is told for models whose columns have different properties, and for rows
that have none of the new names.  There every property is entered at the end of the
row, so that from the second renaming on the last field is one that was renamed; only
the first column that is found decides.  The order stays if the last field of the row
is of a renamed column itself, or if at most one field that is not renamed stands
behind the column.
-/

open Ordered (lastFirst lastFirst_concat lastFirst_perm putInto putInto_of_new)

/-! ## Fields that are kept -/

section

variable {keep : String -> Bool} {field : String × Json} {fields front behind : List (String × Json)}

/-- The fields whose names are kept, in order. -/
def keptFields (keep : String -> Bool) (fields : List (String × Json)) : List (String × Json) :=
  fields.filter fun field => keep field.1

theorem keptFields_append (keep : String -> Bool) (fields others : List (String × Json)) :
    keptFields keep (fields ++ others) = keptFields keep fields ++ keptFields keep others :=
  List.filter_append fields others

theorem keptFields_cons_of_pos (kept : keep field.1 = true) (fields : List (String × Json)) :
    keptFields keep (field :: fields) = field :: keptFields keep fields :=
  List.filter_cons_of_pos kept

theorem keptFields_cons_of_neg (out : keep field.1 = false) (fields : List (String × Json)) :
    keptFields keep (field :: fields) = keptFields keep fields :=
  List.filter_cons_of_neg (by rw [out]; nofun)

theorem keptFields_putInto {key : String} (out : keep key = false) (value : Json)
    (fields : List (String × Json)) :
    keptFields keep (putInto key value fields) = keptFields keep fields := by
  induction fields with
  | nil => exact keptFields_cons_of_neg out []
  | cons field fields ih =>
      rw [putInto]
      split
      · rename_i own
        rw [keptFields_cons_of_neg out, keptFields_cons_of_neg (own ▸ out)]
      · cases kept : keep field.1 with
        | false => rw [keptFields_cons_of_neg kept, keptFields_cons_of_neg kept, ih]
        | true => rw [keptFields_cons_of_pos kept, keptFields_cons_of_pos kept, ih]

theorem keptFields_eq_nil (out : ∀ field ∈ fields, keep field.1 = false) :
    keptFields keep fields = [] := by
  refine List.filter_eq_nil_iff.mpr fun field member => ?_
  rw [out field member]
  nofun

theorem keptFields_lastFirst_perm (keep : String -> Bool) (fields : List (String × Json)) :
    (keptFields keep (lastFirst fields)).Perm (keptFields keep fields) :=
  (lastFirst_perm fields).filter _

/-- A last field that is not kept may move. -/
theorem keptFields_lastFirst_of_out (out : ∀ last ∈ fields.getLast?, keep last.1 = false) :
    keptFields keep (lastFirst fields) = keptFields keep fields := by
  rcases List.eq_nil_or_concat fields with rfl | ⟨front, last, rfl⟩
  · rfl
  · rw [List.concat_eq_append] at out ⊢
    have gone := out last List.getLast?_concat
    rw [lastFirst_concat, keptFields_cons_of_neg gone, keptFields_append,
      keptFields_cons_of_neg gone]
    exact (List.append_nil _).symm

/-- The last field moves past kept fields exactly if it is kept itself and not alone. -/
theorem keptFields_lastFirst_eq_iff (distinct : (fields.map Prod.fst).Nodup) :
    keptFields keep (lastFirst fields) = keptFields keep fields ↔
      (∀ last ∈ fields.getLast?, keep last.1 = false) ∨ (keptFields keep fields).length ≤ 1 := by
  rcases List.eq_nil_or_concat fields with rfl | ⟨front, last, rfl⟩
  · exact iff_of_true rfl (.inr (Nat.zero_le 1))
  · rw [List.concat_eq_append] at distinct ⊢
    cases kept : keep last.1 with
    | false =>
        have out : ∀ other ∈ (front ++ [last]).getLast?, keep other.1 = false := by
          intro other found
          rw [List.getLast?_concat] at found
          cases found
          exact kept
        exact iff_of_true (keptFields_lastFirst_of_out out) (.inl out)
    | true =>
        have notOut : ¬∀ other ∈ (front ++ [last]).getLast?, keep other.1 = false := by
          intro out
          have gone := out last List.getLast?_concat
          rw [kept] at gone
          cases gone
        have elsewhere : last ∉ front := by
          rw [List.map_append, List.nodup_append] at distinct
          intro member
          exact distinct.2.2 _ (List.mem_map_of_mem member) _ List.mem_cons_self rfl
        rw [or_iff_right notOut, lastFirst_concat, keptFields_cons_of_pos kept, keptFields_append,
          keptFields_cons_of_pos kept]
        cases others : keptFields keep front with
        | nil => exact iff_of_true rfl (Nat.le_refl 1)
        | cons first rest =>
            refine iff_of_false ?_ ?_
            · intro same
              have first_eq : last = first := (List.cons.inj same).1
              have member : first ∈ keptFields keep front := others ▸ List.mem_cons_self
              exact elsewhere (first_eq ▸ List.mem_of_mem_filter member)
            · simp

end

/-! ## One column -/

section

variable {row : Row} {column : ColumnMetadata} {keep : String -> Bool}

/-- Whether a column goes by another name than its property. -/
def ColumnMetadata.isRenamed (column : ColumnMetadata) : Bool :=
  column.name != column.property

/-- Whether renaming a column does something to a row. -/
def ColumnMetadata.isMoved (row : Row) (column : ColumnMetadata) : Bool :=
  column.isRenamed && (row.get? column.name).isSome

theorem renameColumn_of_idle (idle : column.isMoved row = false) : renameColumn row column = row := by
  unfold renameColumn
  split
  · rfl
  · rename_i renamed
    split
    · rename_i value found
      rw [ColumnMetadata.isMoved, ColumnMetadata.isRenamed, found, Option.isSome_some,
        Bool.and_true] at idle
      exact absurd (bne_eq_false_iff_eq.mp idle) renamed
    · rfl

/-- A column that is renamed leaves its place to the last field. -/
theorem entries_renameColumn (moved : column.isMoved row = true) :
    ∃ front value, row.entries = front ++ (column.name, value) :: row.after column.name
      ∧ (renameColumn row column).entries
          = putInto column.property value (front ++ lastFirst (row.after column.name)) := by
  obtain ⟨renamed, present⟩ := Bool.and_eq_true_iff.mp moved
  obtain ⟨value, found⟩ := Option.isSome_iff_exists.mp present
  obtain ⟨front, behind, parts, absent⟩ := Ordered.exists_append_of_get? found
  have after := Ordered.after_eq parts absent
  refine ⟨front, value, after ▸ parts, ?_⟩
  unfold renameColumn
  rw [if_neg (bne_iff_ne.mp renamed), found, after,
    ← Ordered.swapRemoveFrom_append absent value behind, ← parts]
  rfl

/-- What one renaming does to the fields that are kept, if neither of its names is. -/
theorem keptFields_renameColumn (moved : column.isMoved row = true)
    (name : keep column.name = false) (property : keep column.property = false) :
    ∃ front, keptFields keep row.entries = front ++ keptFields keep (row.after column.name)
      ∧ keptFields keep (renameColumn row column).entries
          = front ++ keptFields keep (lastFirst (row.after column.name)) := by
  obtain ⟨front, value, parts, written⟩ := entries_renameColumn moved
  refine ⟨keptFields keep front, ?_, ?_⟩
  · rw [parts, keptFields_append, keptFields_cons_of_neg name]
  · rw [written, keptFields_putInto property, keptFields_append]

/-- A property that is new to the row comes in behind all other fields. -/
theorem getLast?_renameColumn (moved : column.isMoved row = true)
    (fresh : row.get? column.property = none) :
    ∃ value, (renameColumn row column).entries.getLast? = some (column.property, value) := by
  obtain ⟨front, value, parts, written⟩ := entries_renameColumn moved
  have absent := Ordered.get?_eq_none_iff.mp fresh
  have elsewhere : column.property
      ∉ (front ++ lastFirst (row.after column.name)).map Prod.fst := by
    rw [List.map_append, List.mem_append, ((lastFirst_perm _).map Prod.fst).mem_iff]
    rw [parts, List.map_append, List.mem_append, List.map_cons, List.mem_cons] at absent
    rintro (before | behind)
    · exact absent (.inl before)
    · exact absent (.inr (.inr behind))
  refine ⟨value, ?_⟩
  rw [written, putInto_of_new elsewhere, List.getLast?_concat]

theorem last_out_renameColumn (moved : column.isMoved row = true)
    (fresh : row.get? column.property = none) (property : keep column.property = false) :
    ∀ last ∈ (renameColumn row column).entries.getLast?, keep last.1 = false := by
  obtain ⟨value, found⟩ := getLast?_renameColumn moved fresh
  intro last given
  rw [found] at given
  cases given
  exact property

/-- The last field of the row passes kept fields exactly if it is kept itself and more than one kept
field stands behind the column. -/
theorem keptFields_after_eq_iff (moved : column.isMoved row = true) :
    keptFields keep (lastFirst (row.after column.name)) = keptFields keep (row.after column.name) ↔
      (∀ last ∈ row.entries.getLast?, keep last.1 = false)
        ∨ (keptFields keep (row.after column.name)).length ≤ 1 := by
  obtain ⟨front, value, parts, -⟩ := entries_renameColumn moved
  have distinct : ((row.after column.name).map Prod.fst).Nodup := by
    have keys := row.nodup
    rw [parts, List.map_append, List.nodup_append] at keys
    exact (List.nodup_cons.mp keys.2.1).2
  rw [keptFields_lastFirst_eq_iff distinct]
  -- The two last fields are the same unless nothing stands behind the column.
  cases known : (row.after column.name).getLast? with
  | none =>
      rw [List.getLast?_eq_none_iff.mp known]
      exact iff_of_true (.inr (Nat.zero_le 1)) (.inr (Nat.zero_le 1))
  | some last => rw [Ordered.getLast?_of_after parts known]

end

/-! ## All columns -/

section

variable {columns : List ColumnMetadata} {row : Row} {keep : String -> Bool}

/-- No name that a renaming reads or writes is kept. -/
def Spares (keep : String -> Bool) (columns : List ColumnMetadata) : Prop :=
  ∀ column ∈ columns, column.isRenamed = true ->
    keep column.name = false ∧ keep column.property = false

/-- No property of a renamed column is there. -/
def FreshProperties (columns : List ColumnMetadata) (row : Row) : Prop :=
  ∀ column ∈ columns, column.isRenamed = true -> row.get? column.property = none

instance (columns : List ColumnMetadata) (row : Row) : Decidable (FreshProperties columns row) :=
  inferInstanceAs (Decidable (∀ column ∈ columns,
    column.isRenamed = true -> row.get? column.property = none))

theorem Spares.of_moved {column : ColumnMetadata} (spares : Spares keep columns)
    (member : column ∈ columns) (moved : column.isMoved row = true) :
    keep column.name = false ∧ keep column.property = false :=
  spares column member (Bool.and_eq_true_iff.mp moved).1

theorem Spares.tail {column : ColumnMetadata} (spares : Spares keep (column :: columns)) :
    Spares keep columns :=
  fun later member => spares later (List.mem_cons_of_mem column member)

/-- Fields that are kept come through with their values. -/
theorem keptFields_foldl_perm (spares : Spares keep columns) :
    (keptFields keep (columns.foldl renameColumn row).entries).Perm
      (keptFields keep row.entries) := by
  induction columns generalizing row with
  | nil => exact List.Perm.refl _
  | cons column columns ih =>
      rw [List.foldl_cons]
      refine (ih spares.tail).trans ?_
      cases moved : column.isMoved row with
      | false => rw [renameColumn_of_idle moved]
      | true =>
          obtain ⟨name, property⟩ := spares.of_moved List.mem_cons_self moved
          obtain ⟨front, before, behind⟩ := keptFields_renameColumn moved name property
          rw [before, behind]
          exact (keptFields_lastFirst_perm keep _).append_left front

/-! ## Kept fields in front of all others -/

/-- No field that is kept stands behind one that is not. -/
def KeptFirst (keep : String -> Bool) (fields : List (String × Json)) : Prop :=
  fields.Pairwise fun first second => keep second.1 = true -> keep first.1 = true

theorem KeptFirst.putInto {key : String} {fields : List (String × Json)} (out : keep key = false)
    (value : Json) (first : KeptFirst keep fields) :
    KeptFirst keep (putInto key value fields) := by
  induction fields with
  | nil => exact List.pairwise_singleton _ _
  | cons field fields ih =>
      obtain ⟨here, later⟩ := List.pairwise_cons.mp first
      rw [Ordered.putInto]
      split
      · rename_i own
        refine List.pairwise_cons.mpr ⟨fun other member kept => ?_, later⟩
        have kept := here other member kept
        rw [own, out] at kept
        cases kept
      · refine List.pairwise_cons.mpr ⟨fun other member kept => ?_, ih later⟩
        rcases Ordered.mem_of_mem_putInto member with rfl | before
        · rw [out] at kept
          cases kept
        · exact here other before kept

/-- Nothing is kept behind a renamed column if what is kept stands in front of all others; so one
renaming leaves it there. -/
theorem KeptFirst.of_moved {column : ColumnMetadata} (moved : column.isMoved row = true)
    (name : keep column.name = false) (property : keep column.property = false)
    (first : KeptFirst keep row.entries) :
    KeptFirst keep (renameColumn row column).entries
      ∧ keptFields keep (renameColumn row column).entries = keptFields keep row.entries := by
  obtain ⟨front, value, parts, written⟩ := entries_renameColumn moved
  rw [parts] at first
  obtain ⟨before, behind, -⟩ := List.pairwise_append.mp first
  have out : ∀ field ∈ row.after column.name, keep field.1 = false := by
    intro field member
    refine Bool.eq_false_iff.mpr fun kept => ?_
    have also := (List.pairwise_cons.mp behind).1 field member kept
    rw [name] at also
    cases also
  have moving : ∀ field ∈ lastFirst (row.after column.name), keep field.1 = false :=
    fun field member => out field ((lastFirst_perm _).mem_iff.mp member)
  constructor
  · rw [written]
    refine KeptFirst.putInto property value (List.pairwise_append.mpr ⟨before, ?_, ?_⟩)
    · refine List.pairwise_of_forall_mem_list fun one _ other member kept => ?_
      rw [moving other member] at kept
      cases kept
    · intro one _ other member kept
      rw [moving other member] at kept
      cases kept
  · rw [written, keptFields_putInto property, parts, keptFields_append, keptFields_append,
      keptFields_cons_of_neg name, keptFields_eq_nil out, keptFields_eq_nil moving]

/-- Kept fields that stand in front of all others stay as they are. -/
theorem keptFields_foldl_of_keptFirst (spares : Spares keep columns)
    (first : KeptFirst keep row.entries) :
    keptFields keep (columns.foldl renameColumn row).entries = keptFields keep row.entries := by
  induction columns generalizing row with
  | nil => rfl
  | cons column columns ih =>
      rw [List.foldl_cons]
      cases moved : column.isMoved row with
      | false =>
          rw [renameColumn_of_idle moved]
          exact ih spares.tail first
      | true =>
          obtain ⟨name, property⟩ := spares.of_moved List.mem_cons_self moved
          obtain ⟨still, same⟩ := first.of_moved moved name property
          rw [ih spares.tail still, same]

/-- A renamed column in front of two kept fields brings the second of them in front of the first,
and then no other field in front of them. -/
theorem exists_reordered {column : ColumnMetadata} {one two : String}
    (renamed : column.isRenamed = true) (name : keep column.name = false)
    (property : keep column.property = false) (keepOne : keep one = true)
    (keepTwo : keep two = true) (apart : one ≠ two) :
    ∃ row : Row, KeptFirst keep (renameColumn row column).entries
      ∧ keptFields keep (renameColumn row column).entries ≠ keptFields keep row.entries := by
  have differs : ∀ other, keep other = true -> column.name ≠ other := by
    rintro other kept rfl
    exact absurd (kept.symm.trans name) nofun
  let row : Row :=
    { entries := [(column.name, .null), (one, .null), (two, .null)]
      nodup := by simp [differs one keepOne, differs two keepTwo, apart] }
  have moved : column.isMoved row = true := by
    rw [ColumnMetadata.isMoved, renamed, Bool.true_and]
    simp [row, Ordered.get?]
  have after : row.after column.name = [(one, .null), (two, .null)] := by
    simp [row, Ordered.after]
  obtain ⟨front, value, split, written⟩ := entries_renameColumn moved
  rw [after] at split written
  have alone : front = [] := by
    have lengths := congrArg List.length split
    simpa [row] using lengths
  rw [alone, List.nil_append] at written
  refine ⟨row, ?_, ?_⟩
  · rw [written]
    exact KeptFirst.putInto property value (by simp [KeptFirst, lastFirst, keepOne, keepTwo])
  · have swapped : keptFields keep (lastFirst [(one, Json.null), (two, .null)])
        = [(two, .null), (one, .null)] :=
      List.filter_eq_self.mpr (by simp [lastFirst, keepOne, keepTwo])
    have asGiven : keptFields keep row.entries = [(one, .null), (two, .null)] := by
      rw [keptFields_cons_of_neg name]
      exact List.filter_eq_self.mpr (by simp [keepOne, keepTwo])
    rw [written, keptFields_putInto property, swapped, asGiven]
    exact fun same => apart (Prod.ext_iff.mp (List.cons.inj same).1).1.symm

/-! ## Rows without the new names -/

theorem FreshProperties.renameColumn {column : ColumnMetadata}
    (properties : ((column :: columns).map ColumnMetadata.property).Nodup)
    (fresh : FreshProperties (column :: columns) row) :
    FreshProperties columns (renameColumn row column) := by
  intro later member renamed
  have other : later.property ∉ [column].map ColumnMetadata.property := by
    intro same
    rw [List.map_singleton, List.mem_singleton] at same
    exact (List.nodup_cons.mp properties).1 (same ▸ List.mem_map_of_mem member)
  exact get?_foldl_of_absent other (fresh later (List.mem_cons_of_mem column member) renamed)

/-- Behind a column that was renamed no kept field is passed any more. -/
theorem keptFields_foldl_of_last (spares : Spares keep columns)
    (properties : (columns.map ColumnMetadata.property).Nodup)
    (fresh : FreshProperties columns row)
    (out : ∀ last ∈ row.entries.getLast?, keep last.1 = false) :
    keptFields keep (columns.foldl renameColumn row).entries = keptFields keep row.entries := by
  induction columns generalizing row with
  | nil => rfl
  | cons column columns ih =>
      have others := (List.nodup_cons.mp properties).2
      rw [List.foldl_cons]
      cases moved : column.isMoved row with
      | false =>
          rw [renameColumn_of_idle moved]
          refine ih spares.tail others (fun later member => ?_) out
          exact fresh later (List.mem_cons_of_mem column member)
      | true =>
          obtain ⟨name, property⟩ := spares.of_moved List.mem_cons_self moved
          have new := fresh column List.mem_cons_self (Bool.and_eq_true_iff.mp moved).1
          have still := last_out_renameColumn moved new property
          rw [ih spares.tail others (fresh.renameColumn properties) still]
          obtain ⟨front, before, behind⟩ := keptFields_renameColumn moved name property
          rw [before, behind, keptFields_lastFirst_of_out]
          intro other found
          obtain ⟨first, value, parts, -⟩ := entries_renameColumn moved
          exact out other (Ordered.getLast?_of_after parts found)

/-- The first column that is found in the row decides. -/
theorem keptFields_foldl_eq_iff (spares : Spares keep columns)
    (properties : (columns.map ColumnMetadata.property).Nodup)
    (fresh : FreshProperties columns row) :
    keptFields keep (columns.foldl renameColumn row).entries = keptFields keep row.entries ↔
      ∀ column ∈ columns.find? (ColumnMetadata.isMoved row),
        (∀ last ∈ row.entries.getLast?, keep last.1 = false)
          ∨ (keptFields keep (row.after column.name)).length ≤ 1 := by
  induction columns with
  | nil => exact iff_of_true rfl nofun
  | cons column columns ih =>
      have others := (List.nodup_cons.mp properties).2
      have later : FreshProperties columns row :=
        fun other member => fresh other (List.mem_cons_of_mem column member)
      rw [List.foldl_cons]
      cases moved : column.isMoved row with
      | false =>
          rw [renameColumn_of_idle moved, List.find?_cons_of_neg (by rw [moved]; nofun)]
          exact ih spares.tail others later
      | true =>
          obtain ⟨name, property⟩ := spares.of_moved List.mem_cons_self moved
          have new := fresh column List.mem_cons_self (Bool.and_eq_true_iff.mp moved).1
          have out := last_out_renameColumn moved new property
          obtain ⟨front, before, behind⟩ := keptFields_renameColumn moved name property
          rw [keptFields_foldl_of_last spares.tail others (fresh.renameColumn properties) out,
            before, behind, List.append_cancel_left_eq, keptFields_after_eq_iff moved,
            List.find?_cons_of_pos moved]
          simp only [Option.mem_some_iff, forall_eq']

end

/-! ## Rows of a model -/

namespace ModelMetadata

/-- Whether a name is that of a renamed column, or the property it is renamed to. -/
def touches (m : ModelMetadata) (name : String) : Bool :=
  m.columns.values.any fun column =>
    column.isRenamed && (column.name == name || column.property == name)

/-- The fields that no renamed column reads or writes, in order. -/
def unmapped (m : ModelMetadata) (fields : List (String × Json)) : List (String × Json) :=
  keptFields (fun name => !m.touches name) fields

theorem touches_of_mem {m : ModelMetadata} {column : ColumnMetadata}
    (member : column ∈ m.columns.values) (renamed : column.isRenamed = true) :
    m.touches column.name = true ∧ m.touches column.property = true := by
  constructor <;>
    exact List.any_eq_true.mpr ⟨column, member, by simp [renamed]⟩

theorem spares_columns (m : ModelMetadata) : Spares (fun name => !m.touches name) m.columns.values := by
  intro column member renamed
  obtain ⟨name, property⟩ := touches_of_mem member renamed
  exact ⟨congrArg Bool.not name, congrArg Bool.not property⟩

/-- There are names that nothing touches. -/
theorem exists_untouched (m : ModelMetadata) (others : List String) :
    ∃ name, m.touches name = false ∧ name ∉ others := by
  obtain ⟨name, new⟩ := Infinite.exists_notMem_finset
    (m.columns.values.map ColumnMetadata.name ++ m.columns.values.map ColumnMetadata.property
      ++ others).toFinset
  rw [List.mem_toFinset, List.mem_append, List.mem_append, not_or, not_or] at new
  refine ⟨name, ?_, new.2⟩
  refine List.any_eq_false.mpr fun column member touched => ?_
  obtain ⟨-, own⟩ := Bool.and_eq_true_iff.mp touched
  rcases Bool.or_eq_true_iff.mp own with same | same
  · exact new.1.1 (eq_of_beq same ▸ List.mem_map_of_mem member)
  · exact new.1.2 (eq_of_beq same ▸ List.mem_map_of_mem member)

/-- Columns that go by their properties leave a row alone. -/
theorem foldl_renameColumn_of_plain {columns : List ColumnMetadata}
    (plain : ∀ column ∈ columns, column.isRenamed = false) (row : Row) :
    columns.foldl renameColumn row = row := by
  induction columns with
  | nil => rfl
  | cons column columns ih =>
      have idle : column.isMoved row = false := by
        rw [ColumnMetadata.isMoved, plain column List.mem_cons_self, Bool.false_and]
      rw [List.foldl_cons, renameColumn_of_idle idle]
      exact ih fun later member => plain later (List.mem_cons_of_mem column member)

/-- A model that renames a column changes the order of some row: the first column that it renames
does, and no other puts it right again. -/
theorem exists_unmapped_ne {m : ModelMetadata} {column : ColumnMetadata}
    (member : column ∈ m.columns.values) (renamed : column.isRenamed = true) :
    ∃ row : Row, m.unmapped (renameColumns m row).entries ≠ m.unmapped row.entries := by
  obtain ⟨first, found⟩ := Option.isSome_iff_exists.mp
    (List.find?_isSome.mpr ⟨column, member, renamed⟩)
  obtain ⟨own, before, behind, parts, plain⟩ := List.find?_eq_some_iff_append.mp found
  obtain ⟨name, property⟩ := m.spares_columns first (List.mem_of_find?_eq_some found) own
  obtain ⟨one, oneKept, -⟩ := m.exists_untouched []
  obtain ⟨two, twoKept, apart⟩ := m.exists_untouched [one]
  obtain ⟨row, still, moves⟩ := @exists_reordered (fun name => !m.touches name) first one two own
    name property (congrArg Bool.not oneKept) (congrArg Bool.not twoKept)
    fun same => apart (List.mem_singleton.mpr same.symm)
  have whole : renameColumns m row = behind.foldl renameColumn (renameColumn row first) := by
    have unchanged : before.foldl renameColumn row = row :=
      foldl_renameColumn_of_plain (fun other there => by simpa using plain other there) row
    rw [renameColumns, parts, List.foldl_append, unchanged, List.foldl_cons]
  have spares : Spares (fun name => !m.touches name) behind := by
    intro later there
    refine m.spares_columns later (parts ▸ ?_)
    exact List.mem_append_right before (List.mem_cons_of_mem first there)
  refine ⟨row, fun same => moves ?_⟩
  rw [whole] at same
  exact (keptFields_foldl_of_keptFirst spares still).symm.trans same

/-- What becomes of the fields that no renamed column reads or writes.

All of them come through with their values, for every model and every row.  Their order is kept for
every row only by a model that renames nothing.  It is kept in any case where they stand in front of
all other fields.  Where the columns have different properties and the row has none of the new
names, it is kept exactly if no renamed column is found in the row, or if the last field of the row
is of a renamed column itself, or if at most one of the fields stands behind the first renamed
column that is found: else the last field of the row moves past those in front of it. -/
theorem unmapped_renameColumns_eq_iff (m : ModelMetadata) :
    (∀ row : Row, (m.unmapped (renameColumns m row).entries).Perm (m.unmapped row.entries))
      ∧ ((∀ row : Row, m.unmapped (renameColumns m row).entries = m.unmapped row.entries)
        ↔ ∀ column ∈ m.columns.values, column.name = column.property)
      ∧ (∀ row : Row, KeptFirst (fun name => !m.touches name) row.entries ->
          m.unmapped (renameColumns m row).entries = m.unmapped row.entries)
      ∧ ∀ row : Row, (m.columns.values.map ColumnMetadata.property).Nodup ->
          FreshProperties m.columns.values row ->
          (m.unmapped (renameColumns m row).entries = m.unmapped row.entries
            ↔ ∀ column ∈ m.columns.values.find? (ColumnMetadata.isMoved row),
                (∀ last ∈ row.entries.getLast?, m.touches last.1 = true)
                  ∨ (m.unmapped (row.after column.name)).length ≤ 1) := by
  refine ⟨fun row => keptFields_foldl_perm m.spares_columns, ⟨?_, ?_⟩, ?_, ?_⟩
  · intro kept column member
    by_contra renamed
    obtain ⟨row, moves⟩ := exists_unmapped_ne member (bne_iff_ne.mpr renamed)
    exact moves (kept row)
  · intro plain row
    rw [renameColumns, foldl_renameColumn_of_plain]
    intro column member
    exact bne_eq_false_iff_eq.mpr (plain column member)
  · exact fun row first => keptFields_foldl_of_keptFirst m.spares_columns first
  · intro row properties fresh
    have decided := keptFields_foldl_eq_iff m.spares_columns properties fresh
    simp only [Bool.not_eq_false'] at decided
    exact decided

/-- Tickets whose seat goes by another name in the table. -/
def ticketModel : ModelMetadata :=
  (new "tickets").withColumn ((ColumnMetadata.new "seatNumber" "text").column "seat")

def ticketRow (columns : List String) : Row :=
  Ordered.ofList (columns.map fun column => (column, .text column))

/-- With one field behind the seat, the fields stay in order. -/
theorem unmapped_renameColumns_seat_between :
    let row := ticketRow ["gate", "seat", "fare"]
    (ticketModel.columns.values.map ColumnMetadata.property).Nodup
      ∧ FreshProperties ticketModel.columns.values row
      ∧ ticketModel.unmapped (renameColumns ticketModel row).entries
          = ticketModel.unmapped row.entries := by
  intro row
  have properties : (ticketModel.columns.values.map ColumnMetadata.property).Nodup := by decide
  have fresh : FreshProperties ticketModel.columns.values row := by decide
  have short : ∀ column ∈ ticketModel.columns.values.find? (ColumnMetadata.isMoved row),
      (∀ last ∈ row.entries.getLast?, ticketModel.touches last.1 = true)
        ∨ (ticketModel.unmapped (row.after column.name)).length ≤ 1 := by decide
  exact ⟨properties, fresh,
    ((unmapped_renameColumns_eq_iff ticketModel).2.2.2 row properties fresh).mpr short⟩

/-- With two fields behind the seat, the last of them comes first. -/
theorem not_forall_unmapped_renameColumns :
    (renameColumns ticketModel (ticketRow ["seat", "gate", "fare"])).keys
        = ["fare", "gate", "seatNumber"]
      ∧ ¬ ∀ (m : ModelMetadata) (row : Row),
          m.unmapped (renameColumns m row).entries = m.unmapped row.entries := by
  refine ⟨by decide, fun kept => ?_⟩
  exact absurd (kept ticketModel (ticketRow ["seat", "gate", "fare"])) (by decide)

end ModelMetadata
end SqlGate
