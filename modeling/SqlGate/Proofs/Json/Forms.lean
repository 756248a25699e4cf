import SqlGate.Proofs.Json.Recognition
import SqlGate.Proofs.Json.Rereading

namespace SqlGate
namespace Json

/-!
# Two forms of one document

The wide form has line ends and indentation where the compact form has nothing.
They stand only around values and keys, so both forms are cut into the same
tokens and have the document for their tree.  What a reader of trees makes of a
document therefore does not depend on the form it was written in.

All of this is for documents whose doubles are read back from their digits.
Texts, truth values and whole numbers need no such care, and a list or an object
needs it only for what stands in it.
-/

/-! ## Blanks in front of an end -/

section

variable {gap : List Char}

theorem spells_list_gap {items : List (List Char × Tree)}
    (each : ∀ item ∈ items, Spells item.1 item.2) (some : items ≠ []) (blank : IsGap gap) :
    Spells ('[' :: (commas (items.map Prod.fst) ++ gap ++ [']']))
      (.list (items.map Prod.snd)) := by
  rcases List.eq_nil_or_concat' items with none | ⟨front, last, rfl⟩
  · exact absurd none some
  -- The blanks count as part of the last item.
  have behind : ∀ item ∈ front ++ [(last.1 ++ gap, last.2)], Spells item.1 item.2 := by
    rw [List.forall_mem_append] at each ⊢
    constructor
    · exact each.1
    · rw [List.forall_mem_singleton] at each ⊢
      exact each.2.behind blank
  have spelled := Spells.list behind (List.append_ne_nil_of_right_ne_nil _ (List.cons_ne_nil _ _))
  rw [List.map_append, List.map_append, List.map_singleton, List.map_singleton,
    commas_concat] at spelled ⊢
  rw [← List.append_assoc] at spelled
  exact spelled

theorem spells_object_gap {fields : List FieldText} (areFields : AreFields fields)
    (some : fields ≠ []) (blank : IsGap gap) :
    Spells ('\x7b' :: (commas (fields.map FieldText.chars) ++ gap ++ ['\x7d']))
      (.object (fields.map FieldText.entry)) := by
  rcases List.eq_nil_or_concat' fields with none | ⟨front, last, rfl⟩
  · exact absurd none some
  obtain ⟨keys, values⟩ := areFields
  rw [List.forall_mem_append, List.forall_mem_singleton] at keys values
  have longer : AreFields (front ++ [{ last with value := last.value ++ gap }]) := by
    constructor
    · rw [List.forall_mem_append, List.forall_mem_singleton]
      exact keys
    · rw [List.forall_mem_append, List.forall_mem_singleton]
      exact ⟨values.1, values.2.behind blank⟩
  have chars : FieldText.chars { last with value := last.value ++ gap } = last.chars ++ gap := by
    rw [FieldText.chars, FieldText.chars, List.append_assoc, List.cons_append]
  have spelled := Spells.object longer.keys longer.values
    (List.append_ne_nil_of_right_ne_nil _ (List.cons_ne_nil _ _))
  rw [List.map_append, List.map_append, List.map_singleton, List.map_singleton,
    commas_concat] at spelled ⊢
  rw [chars, ← List.append_assoc] at spelled
  exact spelled

end

/-! ## The wide form -/

theorem isGap_newLine (level : Nat) : IsGap (newLine level) := by
  apply isGap_cons rfl
  intro c member
  rw [List.eq_of_mem_replicate member]
  rfl

theorem writeWideItems_eq (level : Nat) (items : List Json) :
    writeWideItems level items
      = commas (items.map fun item => newLine level ++ writeWide level item) := by
  induction items with
  | nil => rfl
  | cons item rest ih =>
      cases rest with
      | nil => rfl
      | cons next rest =>
          rw [writeWideItems, ih]
          · rfl
          · exact List.cons_ne_nil _ _

/-- A field as it is written on a line of its own. -/
def wideFieldText (level : Nat) (field : String × Json) : FieldText where
  name := newLine level ++ writeString field.1
  key := some field.1
  value := ' ' :: writeWide level field.2
  tree := field.2.tree

theorem writeWideFields_eq (level : Nat) (fields : List (String × Json)) :
    writeWideFields level fields
      = commas ((fields.map (wideFieldText level)).map FieldText.chars) := by
  induction fields with
  | nil => rfl
  | cons field rest ih =>
      cases rest with
      | nil => rfl
      | cons next rest =>
          have first : commas (((field :: next :: rest).map (wideFieldText level)).map
                FieldText.chars)
              = newLine level ++ writeString field.1 ++ ':' :: ' ' :: writeWide level field.2
                ++ ',' :: commas (((next :: rest).map (wideFieldText level)).map
                  FieldText.chars) := rfl
          rw [first, ← ih, List.append_assoc, List.cons_append, List.cons_append]
          rfl

theorem fieldTrees_eq_wide (level : Nat) (fields : List (String × Json)) :
    fieldTrees fields = (fields.map (wideFieldText level)).map FieldText.entry := by
  rw [fieldTrees_eq, List.map_map, List.map_map]
  rfl

mutual

/-- The wide text of a document is the text of its tree. -/
theorem spells_writeWide (level : Nat) : (document : Json) -> FloatsReadBack document.parts ->
    Spells (writeWide level document) document.tree
  | .null, _ => .wordNull
  | .bool true, _ => .wordTrue
  | .bool false, _ => .wordFalse
  | .number _, back => spells_number back
  | .text s, _ => .string (quotes_escapes s)
  | .list [], _ => .emptyList isGap_nil
  | .list (item :: rest), back => by
      have each := spells_wideItems (level + 1) (item :: rest)
        (back.of_subset (List.subset_cons_self _ _))
      have lines : ∀ line ∈ (item :: rest).map fun i =>
          (newLine (level + 1) ++ writeWide (level + 1) i, i.tree), Spells line.1 line.2 :=
        List.forall_mem_map.mpr fun i member => (each i member).front (isGap_newLine _)
      have spelled := spells_list_gap lines (List.cons_ne_nil _ _) (isGap_newLine level)
      rw [List.map_map, List.map_map] at spelled
      rw [writeWide, writeWideItems_eq, tree, itemTrees_eq]
      exact spelled
  | .object [], _ => .emptyObject isGap_nil
  | .object (field :: rest), back => by
      have each := spells_wideFields (level + 1) (field :: rest)
        (back.of_subset (List.subset_cons_self _ _))
      have areFields : AreFields ((field :: rest).map (wideFieldText (level + 1))) := by
        constructor
        · rw [List.forall_mem_map]
          intro field _
          obtain ⟨inside, quotes, before, after, front, behind, whole⟩ :=
            spellsKey_writeString field.1
          refine ⟨inside, quotes, newLine (level + 1) ++ before, after,
            (isGap_newLine _).append front, behind, ?_⟩
          rw [wideFieldText, whole, List.append_assoc]
        · rw [List.forall_mem_map]
          exact fun field member => (each field member).front (isGap_cons rfl isGap_nil)
      rw [writeWide, writeWideFields_eq, tree, fieldTrees_eq_wide (level + 1)]
      exact spells_object_gap areFields (List.cons_ne_nil _ _) (isGap_newLine level)

theorem spells_wideItems (level : Nat) : (items : List Json) ->
    FloatsReadBack (itemsParts items) ->
    ∀ item ∈ items, Spells (writeWide level item) item.tree
  | [], _ => List.forall_mem_nil _
  | item :: rest, back =>
      List.forall_mem_cons.mpr
        ⟨spells_writeWide level item (back.of_subset (List.subset_append_left _ _)),
          spells_wideItems level rest (back.of_subset (List.subset_append_right _ _))⟩

theorem spells_wideFields (level : Nat) : (fields : List (String × Json)) ->
    FloatsReadBack (fieldsParts fields) ->
    ∀ field ∈ fields, Spells (writeWide level field.2) field.2.tree
  | [], _ => List.forall_mem_nil _
  | (_, value) :: rest, back =>
      List.forall_mem_cons.mpr
        ⟨spells_writeWide level value (back.of_subset (List.subset_append_left _ _)),
          spells_wideFields level rest (back.of_subset (List.subset_append_right _ _))⟩

end

/-! ## Documents whose doubles are read back -/

/-- Whether every double in a document is read back from its digits. -/
def IsExact (document : Json) : Prop :=
  FloatsReadBack document.parts

theorem isExact_of_scalar {document : Json} (alone : document.parts = [document])
    (noDouble : document.doubles = []) : document.IsExact := by
  rw [IsExact, alone]
  intro part member x double
  rw [List.mem_singleton.mp member, noDouble] at double
  exact absurd double List.not_mem_nil

@[simp] theorem isExact_null : IsExact .null := isExact_of_scalar rfl rfl

@[simp] theorem isExact_bool (b : Bool) : (bool b).IsExact := isExact_of_scalar rfl rfl

@[simp] theorem isExact_text (s : String) : (text s).IsExact := isExact_of_scalar rfl rfl

@[simp] theorem isExact_ofUInt64 (n : UInt64) : (ofUInt64 n).IsExact := isExact_of_scalar rfl rfl

@[simp] theorem isExact_orNull {α : Type} {write : α -> Json} {found : Option α} :
    (orNull (found.map write)).IsExact ↔ ∀ a ∈ found, (write a).IsExact := by
  cases found with
  | none => exact iff_of_true isExact_null nofun
  | some a => simp [orNull]

theorem itemsParts_eq (items : List Json) : itemsParts items = items.flatMap parts := by
  induction items with
  | nil => rfl
  | cons item rest ih => rw [itemsParts, ih, List.flatMap_cons]

theorem fieldsParts_eq (fields : List (String × Json)) :
    fieldsParts fields = fields.flatMap fun field => field.2.parts := by
  induction fields with
  | nil => rfl
  | cons field rest ih => rw [fieldsParts, ih, List.flatMap_cons]

@[simp] theorem isExact_list {items : List Json} :
    (list items).IsExact ↔ ∀ item ∈ items, item.IsExact := by
  rw [IsExact, FloatsReadBack, parts, itemsParts_eq, List.forall_mem_cons,
    List.forall_mem_flatMap]
  exact and_iff_right (List.forall_mem_nil _)

@[simp] theorem isExact_object {fields : List (String × Json)} :
    (object fields).IsExact ↔ ∀ field ∈ fields, field.2.IsExact := by
  rw [IsExact, FloatsReadBack, parts, fieldsParts_eq, List.forall_mem_cons,
    List.forall_mem_flatMap]
  exact and_iff_right (List.forall_mem_nil _)

/-- The compact form is read as the tree of its document. -/
theorem IsExact.parse?_compact {document : Json} (exact : document.IsExact) :
    Tree.parse? document.compact = some document.tree := by
  apply Spells.parse?
  rw [compact, String.toList_ofList]
  exact spells_write document exact

/-- The wide form is read as the tree of its document. -/
theorem IsExact.parse?_wide {document : Json} (exact : document.IsExact) :
    Tree.parse? document.wide = some document.tree := by
  apply Spells.parse?
  rw [wide, String.toList_ofList]
  exact spells_writeWide 0 document exact

end Json
end SqlGate
