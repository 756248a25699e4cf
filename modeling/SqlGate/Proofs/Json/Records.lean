import Mathlib.Data.List.Basic
import SqlGate.Json.Record
import SqlGate.Proofs.Json.Forms

namespace SqlGate
namespace Json

/-!
# Records read back from their documents

A record has a slot for each of its fields, and what is written of a field goes
into its slot: a document, or nothing when the field is passed over.  The object
of the slots holds what was written in the order of the slots.  When it is read
with the names of all slots, each slot is found again, and an empty one is found
missing.

A record whose fields are read back in this way is read back as a whole.  What
an empty slot is read as is up to the reader: a field that may be absent has no
value, and a field with a default has that.
-/

/-! ## Readers that undo writers -/

section

variable {α : Type} {write : α -> Json} {read : Tree -> Option α}

/-- Whether every value is read back from what is written of it. -/
def Restores (write : α -> Json) (read : Tree -> Option α) : Prop :=
  ∀ a, read (write a).tree = some a

theorem restores_text : Restores .text Tree.string? := fun _ => rfl

theorem restores_bool : Restores .bool Tree.truth? := fun _ => rfl

/-- A choice is read back if its name determines it. -/
theorem restores_name {name : α -> String} {ofName? : String -> Option α}
    (named : ∀ a, ofName? (name a) = some a) :
    Restores (fun a => .text (name a)) fun tree => tree.choiceName?.bind ofName? :=
  named

/-- A whole number is read back at every width that it fits into. -/
theorem unsigned?_ofUInt64 {n : UInt64} {width : Nat} (fits : n.toNat < Nat.pow 2 width) :
    (ofUInt64 n).tree.unsigned? width = some n.toNat := by
  have inside : (decide (0 ≤ (n.toNat : Int))
      && decide ((n.toNat : Int) < Int.ofNat (Nat.pow 2 width))) = true := by
    rw [Bool.and_eq_true, decide_eq_true_eq, decide_eq_true_eq]
    exact ⟨Int.natCast_nonneg _, Int.ofNat_lt.mpr fits⟩
  exact (if_pos inside).trans (congrArg some (Int.toNat_natCast _))

theorem Restores.list (restores : Restores write read) :
    Restores (fun values => .list (values.map write)) (Tree.listOf read) := by
  intro values
  change (itemTrees (values.map write)).mapM read = some values
  rw [itemTrees_eq]
  induction values with
  | nil => rfl
  | cons a rest ih =>
      rw [List.map_cons, List.map_cons, List.mapM_cons, restores a, ih]
      rfl

/-- A value that a reader does not take null for is read as itself where null may stand. -/
theorem nullable_of_read {tree : Tree} {a : α} (solid : read .null = none)
    (reads : read tree = some a) : Tree.nullable read tree = some (some a) := by
  cases tree with
  | null =>
      rw [solid] at reads
      cases reads
  | _ => exact congrArg (Option.map some) reads

theorem Restores.orNull (restores : Restores write read) (solid : read .null = none) :
    Restores (fun found : Option α => orNull (found.map write)) (Tree.nullable read) := by
  intro found
  cases found with
  | none => rfl
  | some a => exact nullable_of_read solid (restores a)

/-- What is read from the tree of a document is read from both of its forms. -/
theorem IsExact.forms {document : Json} (exact : document.IsExact) {a : α}
    (reads : read document.tree = some a) :
    (Tree.parse? document.compact).bind read = some a
      ∧ (Tree.parse? document.wide).bind read = some a := by
  rw [exact.parse?_compact, exact.parse?_wide, Option.bind_some]
  exact ⟨reads, reads⟩

end

/-! ## What is written of slots -/

/-- The fields that have something written of them. -/
def written (slots : List (String × Option Json)) : List (String × Json) :=
  slots.filterMap fun slot => slot.2.map fun document => (slot.1, document)

theorem written_none (name : String) (rest : List (String × Option Json)) :
    written ((name, none) :: rest) = written rest := rfl

theorem written_some (name : String) (document : Json) (rest : List (String × Option Json)) :
    written ((name, some document) :: rest) = (name, document) :: written rest := rfl

theorem keys_written_sublist (slots : List (String × Option Json)) :
    ((written slots).map Prod.fst).Sublist (slots.map Prod.fst) := by
  induction slots with
  | nil => exact List.Sublist.refl []
  | cons slot rest ih =>
      obtain ⟨name, found⟩ := slot
      cases found with
      | none => exact ih.cons name
      | some document => exact ih.cons_cons name

theorem lookup_written {slots : List (String × Option Json)}
    (distinct : (slots.map Prod.fst).Nodup) {name : String} {found : Option Json}
    (slot : slots.lookup name = some found) : (written slots).lookup name = found := by
  induction slots with
  | nil => cases slot
  | cons first rest ih =>
      obtain ⟨key, document⟩ := first
      obtain ⟨fresh, others⟩ := List.nodup_cons.mp distinct
      rw [List.lookup_cons] at slot
      by_cases same : name = key
      · subst same
        rw [beq_self_eq_true] at slot
        cases slot
        cases found with
        | some document => rw [written_some, List.lookup_cons, beq_self_eq_true]
        | none =>
            -- No later slot has the name, so nothing else is found in place of the empty one.
            rw [written_none, List.lookup_eq_none_iff]
            intro field member
            have key := (keys_written_sublist rest).subset (List.mem_map_of_mem member)
            exact bne_iff_ne.mpr fun same => fresh (same ▸ key)
      · rw [beq_false_of_ne same] at slot
        cases document with
        | none => exact ih others slot
        | some document =>
            rw [written_some, List.lookup_cons, beq_false_of_ne same]
            exact ih others slot

theorem lookup_map_tree (name : String) (fields : List (String × Json)) :
    (fields.map fun field => (field.1, field.2.tree)).lookup name
      = (fields.lookup name).map tree := by
  induction fields with
  | nil => rfl
  | cons field rest ih =>
      rw [List.map_cons, List.lookup_cons, ih, List.lookup_cons]
      cases name == field.1 <;> rfl

namespace Record

theorem mapM_keyed (fields : List (String × Tree)) :
    (fields.map fun field => (some field.1, field.2)).mapM
      (fun field : Option String × Tree => field.1.map fun key => (key, field.2))
        = some fields := by
  induction fields with
  | nil => rfl
  | cons field rest ih =>
      rw [List.map_cons, List.mapM_cons, ih]
      rfl

/-- Different fields with names that are all known are all kept. -/
theorem knownFields?_of_known {names : List String} {fields : List (String × Tree)}
    (distinct : (fields.map Prod.fst).Nodup) (known : ∀ field ∈ fields, field.1 ∈ names) :
    knownFields? names (fields.map fun field => (some field.1, field.2)) = some fields := by
  have kept : (fields.filter fun field => names.contains field.1) = fields := by
    rw [List.filter_eq_self]
    exact fun field member => List.contains_iff_mem.mpr (known field member)
  rw [knownFields?, mapM_keyed]
  dsimp only
  rw [kept, if_pos distinct]

end Record

/-! ## Slots of a record -/

/-- The slots of a record with the given field names. -/
structure Slots (names : List String) where
  all : List (String × Option Json)
  named : all.map Prod.fst = names
  distinct : names.Nodup

namespace Slots

variable {names : List String} (slots : Slots names)

/-- The object of the slots. -/
def document : Json :=
  .object (written slots.all)

/-- The record that is read of the slots. -/
def record : Record where
  positional := false
  fields := (written slots.all).map fun field => (field.1, field.2.tree)

theorem isExact_document (each : ∀ slot ∈ slots.all, ∀ document ∈ slot.2, document.IsExact) :
    slots.document.IsExact := by
  rw [document, isExact_object]
  intro field member
  obtain ⟨slot, listed, made⟩ := List.mem_filterMap.mp member
  obtain ⟨document, found, rfl⟩ := Option.map_eq_some_iff.mp made
  exact each slot listed document found

/-- The object is read as a record in which every slot keeps its place. -/
theorem ofTree?_document : Record.ofTree? names slots.document.tree = some slots.record := by
  have keys : slots.record.fields.map Prod.fst = (written slots.all).map Prod.fst := by
    rw [record, List.map_map]
    rfl
  have within : (slots.record.fields.map Prod.fst).Sublist names := by
    have sublist := keys_written_sublist slots.all
    rw [slots.named, ← keys] at sublist
    exact sublist
  have trees : fieldTrees (written slots.all)
      = slots.record.fields.map fun field => (some field.1, field.2) := by
    rw [fieldTrees_eq, record, List.map_map, List.map_map]
    rfl
  have known := Record.knownFields?_of_known (slots.distinct.sublist within) fun field member =>
    within.subset (List.mem_map_of_mem member)
  rw [document, tree, Record.ofTree?, trees, known]
  rfl

variable (name : String)

/-- A field of the record is what was written of its slot. -/
theorem field?_record {found : Option Json} (slot : slots.all.lookup name = some found) :
    slots.record.field? name = found.map tree := by
  have distinct : (slots.all.map Prod.fst).Nodup := by
    rw [slots.named]
    exact slots.distinct
  rw [Record.field?, record, lookup_map_tree, lookup_written distinct slot]

section

variable {α : Type} {read : Tree -> Option α} {document : Json} {a : α}

theorem required_record (slot : slots.all.lookup name = some (some document))
    (reads : read document.tree = some a) : slots.record.required name read = some a := by
  rw [Record.required, slots.field?_record name slot]
  exact reads

theorem defaulted_record (slot : slots.all.lookup name = some (some document)) (absent : α)
    (reads : read document.tree = some a) :
    slots.record.defaulted name absent read = some a := by
  rw [Record.defaulted, slots.field?_record name slot]
  exact reads

/-- An empty slot is read as the default of its field. -/
theorem defaulted_record_of_empty (slot : slots.all.lookup name = some none) (absent : α) :
    slots.record.defaulted name absent read = some absent := by
  rw [Record.defaulted, slots.field?_record name slot]
  rfl

theorem optional_record {found : Option α} (slot : slots.all.lookup name = some (some document))
    (reads : Tree.nullable read document.tree = some found) :
    slots.record.optional name read = some found := by
  rw [Record.optional, slots.field?_record name slot]
  exact reads

/-- A slot that is filled exactly if there is a value is read as what there is. -/
theorem optional_record_of_map {write : α -> Json} {found : Option α}
    (slot : slots.all.lookup name = some (found.map write)) (restores : Restores write read)
    (solid : read .null = none) : slots.record.optional name read = some found := by
  cases found with
  | none =>
      rw [Record.optional, slots.field?_record name slot]
      rfl
  | some a => exact slots.optional_record name slot (nullable_of_read solid (restores a))

end

end Slots
end Json
end SqlGate
