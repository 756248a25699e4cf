import SqlGate.Model.Hydration

namespace SqlGate

/-!
# Renaming columns one after another

Before a type reads its fields from a row, the columns that map to properties
of another name are renamed, one after another, in the row itself.  Meant is a
renaming of all of them at once: every property gets the value that the row
had in the column of this property.

The two agree only under a condition on the order of registration.  A column
may take a name that an earlier column has given up, but not one that a later
column still has to be read from: there the later value is overwritten, and
then leaves again under the later property, so the earlier property ends
without any value.  `ReadsBeforeWrites` is this condition, and it is exact: a
row that has all the columns is renamed as meant if and only if it holds.  A
swap of two names fails it in either order.
-/

namespace ColumnMetadata

/-- No column is renamed to a name from which a later column is still to be read. -/
def ReadsBeforeWrites (columns : List ColumnMetadata) : Prop :=
  columns.Pairwise fun earlier later => earlier.property ≠ later.name

instance : DecidablePred ReadsBeforeWrites := fun columns =>
  inferInstanceAs (Decidable (columns.Pairwise fun earlier later => earlier.property ≠ later.name))

end ColumnMetadata

open ColumnMetadata (ReadsBeforeWrites)

/-! ## One column -/

/-- Renaming a column that is there moves its value and nothing else. -/
theorem get?_renameColumn {row : Row} {column : ColumnMetadata}
    (present : (row.get? column.name).isSome = true) (key : String) :
    (renameColumn row column).get? key
      = if key = column.property then row.get? column.name
        else if key = column.name then none else row.get? key := by
  obtain ⟨value, found⟩ := Option.isSome_iff_exists.mp present
  unfold renameColumn
  by_cases kept : column.name = column.property
  · rw [if_pos kept]
    by_cases own : key = column.property
    · rw [if_pos own, own, kept]
    · rw [if_neg own, if_neg (kept ▸ own)]
  · rw [if_neg kept, found]
    simp only [Ordered.get?_put, Ordered.get?_swapRemove]

/-- A key that is neither the column nor the property is left alone. -/
theorem get?_renameColumn_of_ne {row : Row} {column : ColumnMetadata} {key : String}
    (property : key ≠ column.property) (name : key ≠ column.name) :
    (renameColumn row column).get? key = row.get? key := by
  unfold renameColumn
  split
  · rfl
  · cases row.get? column.name with
    | none => rfl
    | some value => simp only [Ordered.get?_put, Ordered.get?_swapRemove, property, name, if_false]

/-- The name of a column that is renamed is free afterwards. -/
theorem get?_renameColumn_name {row : Row} {column : ColumnMetadata}
    (renamed : column.name ≠ column.property) :
    (renameColumn row column).get? column.name = none := by
  unfold renameColumn
  rw [if_neg renamed]
  cases found : row.get? column.name with
  | none => exact found
  | some value => simp only [Ordered.get?_put, Ordered.get?_swapRemove, renamed, if_false, if_true]

/-! ## All columns -/

section

variable {columns : List ColumnMetadata} {row : Row} {key : String}

/-- A key that no column reads or writes keeps its value through all renamings. -/
theorem get?_foldl_of_untouched (written : key ∉ columns.map ColumnMetadata.property)
    (read : key ∉ columns.map ColumnMetadata.name) :
    (columns.foldl renameColumn row).get? key = row.get? key := by
  induction columns generalizing row with
  | nil => rfl
  | cons column rest ih =>
      have properties := not_or.mp (mt List.mem_cons.mpr written)
      have names := not_or.mp (mt List.mem_cons.mpr read)
      rw [List.foldl_cons, ih properties.2 names.2]
      exact get?_renameColumn_of_ne properties.1 names.1

/-- A key that is not there and that no column writes stays away. -/
theorem get?_foldl_of_absent (written : key ∉ columns.map ColumnMetadata.property)
    (absent : row.get? key = none) : (columns.foldl renameColumn row).get? key = none := by
  induction columns generalizing row with
  | nil => exact absent
  | cons column rest ih =>
      have properties := not_or.mp (mt List.mem_cons.mpr written)
      refine ih properties.2 ?_
      by_cases name : key = column.name
      · subst name
        exact get?_renameColumn_name properties.1
      · exact (get?_renameColumn_of_ne properties.1 name).trans absent

/-- A key that some column reads and none writes is gone at the end. -/
theorem get?_foldl_of_read (written : key ∉ columns.map ColumnMetadata.property)
    (read : key ∈ columns.map ColumnMetadata.name) :
    (columns.foldl renameColumn row).get? key = none := by
  induction columns generalizing row with
  | nil => cases read
  | cons column rest ih =>
      have properties := not_or.mp (mt List.mem_cons.mpr written)
      rw [List.foldl_cons]
      rcases List.mem_cons.mp read with here | later
      · subst here
        exact get?_foldl_of_absent properties.2 (get?_renameColumn_name properties.1)
      · exact ih properties.2 later

/-- Renaming one column leaves the columns behind it as they are, unless it takes the name of
one of them. -/
theorem get?_renameColumn_of_later {column later : ColumnMetadata}
    {rest : List ColumnMetadata}
    (names : ((column :: rest).map ColumnMetadata.name).Nodup) (member : later ∈ rest)
    (apart : column.property ≠ later.name) :
    (renameColumn row column).get? later.name = row.get? later.name := by
  have different : later.name ≠ column.name := fun same =>
    (List.nodup_cons.mp names).1 (same ▸ List.mem_map_of_mem member)
  exact get?_renameColumn_of_ne apart.symm different

/-- Reading before writing, every property gets the value of its column.  The induction keeps
the values of the columns that are still to be read. -/
theorem get?_foldl_of_readsBeforeWrites
    (properties : (columns.map ColumnMetadata.property).Nodup)
    (names : (columns.map ColumnMetadata.name).Nodup)
    (present : ∀ column ∈ columns, (row.get? column.name).isSome = true)
    (ordered : ReadsBeforeWrites columns) (column : ColumnMetadata) (member : column ∈ columns) :
    (columns.foldl renameColumn row).get? column.property = row.get? column.name := by
  induction columns generalizing row with
  | nil => cases member
  | cons first rest ih =>
      have propertyParts := List.nodup_cons.mp properties
      have nameParts := List.nodup_cons.mp names
      have orderParts := List.pairwise_cons.mp ordered
      have kept : ∀ later ∈ rest,
          (renameColumn row first).get? later.name = row.get? later.name :=
        fun later among => get?_renameColumn_of_later names among (orderParts.1 later among)
      rw [List.foldl_cons]
      rcases List.mem_cons.mp member with here | later
      · subst here
        have unread : column.property ∉ rest.map ColumnMetadata.name := by
          intro read
          obtain ⟨later, among, same⟩ := List.mem_map.mp read
          exact orderParts.1 later among same.symm
        rw [get?_foldl_of_untouched propertyParts.1 unread,
          get?_renameColumn (present column List.mem_cons_self), if_pos rfl]
      · rw [← kept column later]
        refine ih propertyParts.2 nameParts.2 ?_ orderParts.2 later
        intro other among
        rw [kept other among]
        exact present other (List.mem_cons_of_mem _ among)

/-- If every property gets the value of its column, no column was overwritten unread. -/
theorem readsBeforeWrites_of_get?_foldl
    (properties : (columns.map ColumnMetadata.property).Nodup)
    (names : (columns.map ColumnMetadata.name).Nodup)
    (present : ∀ column ∈ columns, (row.get? column.name).isSome = true)
    (renamed : ∀ column ∈ columns,
      (columns.foldl renameColumn row).get? column.property = row.get? column.name) :
    ReadsBeforeWrites columns := by
  induction columns generalizing row with
  | nil => exact List.Pairwise.nil
  | cons first rest ih =>
      have propertyParts := List.nodup_cons.mp properties
      have nameParts := List.nodup_cons.mp names
      have apart : ∀ later ∈ rest, first.property ≠ later.name := by
        intro later among same
        -- The name that the first column takes is read later on, and nobody writes it again.
        have lost : (rest.foldl renameColumn (renameColumn row first)).get? first.property = none :=
          get?_foldl_of_read propertyParts.1 (same ▸ List.mem_map_of_mem among)
        have value := present first List.mem_cons_self
        rw [← renamed first List.mem_cons_self, List.foldl_cons, lost] at value
        cases value
      have kept : ∀ later ∈ rest,
          (renameColumn row first).get? later.name = row.get? later.name :=
        fun later among => get?_renameColumn_of_later names among (apart later among)
      refine List.pairwise_cons.mpr ⟨apart, ?_⟩
      apply @ih (renameColumn row first) propertyParts.2 nameParts.2
      · intro later among
        rw [kept later among]
        exact present later (List.mem_cons_of_mem _ among)
      · intro later among
        rw [kept later among]
        exact renamed later (List.mem_cons_of_mem _ among)

end

/-! ## Rows of a model -/

namespace ModelMetadata

/-- Renaming one after another is renaming at once exactly if no column is overwritten before
it is read.

The columns of the model have different properties and different names, in any
order of registration, and the row has all of them.  Then every property ends
with the value that the row had in its column if and only if no column takes the
name of one that is registered later.  All other keys come out as meant in
either case: those of columns are gone, and the rest are as they were. -/
theorem renameColumns_atOnce_iff (m : ModelMetadata) (row : Row)
    (properties : (m.columns.values.map ColumnMetadata.property).Nodup)
    (names : (m.columns.values.map ColumnMetadata.name).Nodup)
    (present : ∀ column ∈ m.columns.values, (row.get? column.name).isSome = true) :
    ((∀ column ∈ m.columns.values,
        (renameColumns m row).get? column.property = row.get? column.name)
      ↔ ReadsBeforeWrites m.columns.values)
      ∧ ∀ key, key ∉ m.columns.values.map ColumnMetadata.property ->
          (renameColumns m row).get? key
            = if key ∈ m.columns.values.map ColumnMetadata.name then none else row.get? key := by
  refine ⟨⟨?_, ?_⟩, ?_⟩
  · exact readsBeforeWrites_of_get?_foldl properties names present
  · exact get?_foldl_of_readsBeforeWrites properties names present
  · intro key written
    split
    · rename_i read
      exact get?_foldl_of_read written read
    · rename_i read
      exact get?_foldl_of_untouched written read

/-- The code of an airport, in a table that has it in `iata`. -/
def airportCode : ColumnMetadata :=
  (ColumnMetadata.new "code" "char").column "iata"

/-- The city of an airport, in a table that has it in `code`. -/
def airportCity : ColumnMetadata :=
  (ColumnMetadata.new "cityName" "text").column "code"

/-- A row of that table. -/
def losAngeles : Row :=
  Ordered.ofList [("iata", .text "LAX"), ("code", .text "Los Angeles")]

/-- With the city registered first, its column is read before the code takes its name. -/
theorem renameColumns_atOnce_city_first :
    let m := ((new "airports").withColumn airportCity).withColumn airportCode
    (m.columns.values.map ColumnMetadata.property).Nodup
      ∧ (m.columns.values.map ColumnMetadata.name).Nodup
      ∧ (∀ column ∈ m.columns.values, (losAngeles.get? column.name).isSome = true)
      ∧ ∀ column ∈ m.columns.values,
          (renameColumns m losAngeles).get? column.property = losAngeles.get? column.name := by
  intro m
  have properties : (m.columns.values.map ColumnMetadata.property).Nodup := by decide
  have names : (m.columns.values.map ColumnMetadata.name).Nodup := by decide
  have present : ∀ column ∈ m.columns.values,
      (losAngeles.get? column.name).isSome = true := by decide
  have ordered : ReadsBeforeWrites m.columns.values := by decide
  exact ⟨properties, names, present,
    (renameColumns_atOnce_iff m losAngeles properties names present).1.mpr ordered⟩

/-- With the code registered first, the city is overwritten unread and what is left leaves
under the name of the city: the airport has no code. -/
theorem renameColumns_code_first_loses_code :
    let m := ((new "airports").withColumn airportCode).withColumn airportCity
    (m.columns.values.map ColumnMetadata.property).Nodup
      ∧ (m.columns.values.map ColumnMetadata.name).Nodup
      ∧ (∀ column ∈ m.columns.values, (losAngeles.get? column.name).isSome = true)
      ∧ (renameColumns m losAngeles).get? airportCode.property = none
      ∧ (renameColumns m losAngeles).get? airportCity.property
          = losAngeles.get? airportCode.name
      ∧ ¬ ∀ column ∈ m.columns.values,
          (renameColumns m losAngeles).get? column.property = losAngeles.get? column.name := by
  intro m
  refine ⟨by decide, by decide, by decide, rfl, rfl, ?_⟩
  intro atOnce
  have code := atOnce airportCode (by decide)
  cases code

end ModelMetadata
end SqlGate
