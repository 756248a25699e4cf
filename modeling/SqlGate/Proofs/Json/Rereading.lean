import SqlGate.Proofs.Json.Documents
import SqlGate.Proofs.Metadata.Sharing
import SqlGate.Proofs.Ordered

namespace SqlGate

/-!
# Documents read back from their compact text

The compact text of a document is cut into tokens that have the document for
their tree, whatever follows that could not go on with a number.  The tree has
the document again if it is not nested too deep, no object holds a key twice or
begins with the key of a carrier, and every double in it is read back from its
digits.  The last is not so for every double: a reader that rounds a literal
once in each step may miss the number that the digits were chosen for.  And an
object that begins with the key of a carrier is never read, from no text at all.
-/

namespace Json

/-! ## Parts of a document -/

mutual

/-- How many lists and objects stand in one another. -/
def depth : Json -> Nat
  | .null | .bool _ | .number _ | .text _ => 0
  | .list items => itemsDepth items + 1
  | .object fields => fieldsDepth fields + 1

def itemsDepth : List Json -> Nat
  | [] => 0
  | item :: rest => max (depth item) (itemsDepth rest)

def fieldsDepth : List (String × Json) -> Nat
  | [] => 0
  | (_, value) :: rest => max (depth value) (fieldsDepth rest)

end

mutual

/-- A document with all documents in it. -/
def parts : Json -> List Json
  | .null => [.null]
  | .bool b => [.bool b]
  | .number n => [.number n]
  | .text s => [.text s]
  | .list items => .list items :: itemsParts items
  | .object fields => .object fields :: fieldsParts fields

def itemsParts : List Json -> List Json
  | [] => []
  | item :: rest => parts item ++ itemsParts rest

def fieldsParts : List (String × Json) -> List Json
  | [] => []
  | (_, value) :: rest => parts value ++ fieldsParts rest

end

def keys : Json -> List String
  | .object fields => fields.map Prod.fst
  | _ => []

/-- The double that a document is, if it is one. -/
def doubles : Json -> List Binary64
  | .number (.float x _) => [x]
  | _ => []

/-- Whether no object among some documents holds a key twice. -/
def KeysDiffer (documents : List Json) : Prop :=
  ∀ document ∈ documents, document.keys.Nodup

/-- Whether no object among some documents begins with the key of a carrier. -/
def CarryNothing (documents : List Json) : Prop :=
  ∀ document ∈ documents, document.keys.head? ≠ some carrierKey

/-- Whether the text of a double is read as the double. -/
def ReadsBack (x : Binary64) : Prop :=
  parse? (Number.jsonText x) = ofFinite? x

/-- Whether every double among some documents is read back. -/
def FloatsReadBack (documents : List Json) : Prop :=
  ∀ document ∈ documents, ∀ x ∈ document.doubles, ReadsBack x

instance (documents : List Json) : Decidable (KeysDiffer documents) :=
  inferInstanceAs (Decidable (∀ document ∈ documents, document.keys.Nodup))

instance (documents : List Json) : Decidable (CarryNothing documents) :=
  inferInstanceAs (Decidable (∀ document ∈ documents, document.keys.head? ≠ some carrierKey))

instance (x : Binary64) : Decidable (ReadsBack x) :=
  inferInstanceAs (Decidable (parse? (Number.jsonText x) = ofFinite? x))

instance (documents : List Json) : Decidable (FloatsReadBack documents) :=
  inferInstanceAs (Decidable (∀ document ∈ documents, ∀ x ∈ document.doubles, ReadsBack x))

mutual

def tree : Json -> Tree
  | .null => .null
  | .bool b => .bool b
  | .number n => .number (some n)
  | .text s => .text (some s)
  | .list items => .list (itemTrees items)
  | .object fields => .object (fieldTrees fields)

def itemTrees : List Json -> List Tree
  | [] => []
  | item :: rest => tree item :: itemTrees rest

def fieldTrees : List (String × Json) -> List (Option String × Tree)
  | [] => []
  | (key, value) :: rest => (some key, tree value) :: fieldTrees rest

end

/-! ## Texts of documents -/

/-- A double that is read back is the value of its text. -/
theorem spells_float {x : Binary64} (finite : x.isFinite = true) (back : ReadsBack x) :
    Spells (Numeral.float x finite).write (.number (some (.float x finite))) := by
  obtain ⟨t, -, written⟩ := exists_numberText_of_jsonText x
  have spelled : Spells (Number.jsonText x).toList (.number t.literal.value?) := by
    rw [← written]
    exact .number t
  have value : t.literal.value? = some (.float x finite) := by
    rw [ReadsBack, parse?_eq, spelled.parse?, ofFinite?, dif_pos finite] at back
    obtain ⟨n, given, same⟩ := Option.map_eq_some_iff.mp
      (show t.literal.value?.map number = some (.number (.float x finite)) from back)
    rw [given, number.inj same]
  rw [← value]
  exact spelled

theorem spells_number {n : Numeral} (back : FloatsReadBack [.number n]) :
    Spells n.write (.number (some n)) := by
  cases n with
  | whole n inRange =>
      rw [← chars_wholeText n inRange, ← (wholeText n).value?_literal (integer?_wholeText n) inRange]
      exact .number (wholeText n)
  | float x finite => exact spells_float finite (back _ List.mem_cons_self x List.mem_cons_self)

theorem quotes_escapes (s : String) : Quotes (s.toList.flatMap escape) (some s) := by
  have whole := Quotes.whole (writes_escapes s.toList)
  rwa [String.ofList_toList] at whole

theorem spellsKey_writeString (key : String) : SpellsKey (writeString key) (some key) :=
  ⟨_, quotes_escapes key, [], [], isGap_nil, isGap_nil, (List.append_nil _).symm⟩

theorem writeItems_eq (items : List Json) : writeItems items = commas (items.map write) := by
  induction items with
  | nil => rfl
  | cons item rest ih =>
      cases rest with
      | nil => rfl
      | cons next rest =>
          rw [writeItems, ih]
          · rfl
          · exact List.cons_ne_nil _ _

theorem itemTrees_eq (items : List Json) : itemTrees items = items.map tree := by
  induction items with
  | nil => rfl
  | cons item rest ih => rw [itemTrees, ih, List.map_cons]

def fieldText (field : String × Json) : FieldText where
  name := writeString field.1
  key := some field.1
  value := field.2.write
  tree := field.2.tree

theorem writeFields_eq (fields : List (String × Json)) :
    writeFields fields = commas ((fields.map fieldText).map FieldText.chars) := by
  induction fields with
  | nil => rfl
  | cons field rest ih =>
      cases rest with
      | nil => rfl
      | cons next rest =>
          have first : commas (((field :: next :: rest).map fieldText).map FieldText.chars)
              = writeString field.1 ++ ':' :: field.2.write
                ++ ',' :: commas (((next :: rest).map fieldText).map FieldText.chars) := rfl
          rw [first, ← ih, List.append_assoc, List.cons_append]
          rfl

theorem fieldTrees_eq (fields : List (String × Json)) :
    fieldTrees fields = (fields.map fieldText).map FieldText.entry := by
  induction fields with
  | nil => rfl
  | cons field rest ih =>
      rw [fieldTrees, ih]
      rfl

theorem FloatsReadBack.of_subset {some all : List Json} (back : FloatsReadBack all)
    (within : some ⊆ all) : FloatsReadBack some :=
  fun document member => back document (within member)

mutual

/-- The text of a document is the text of its tree. -/
theorem spells_write : (document : Json) -> FloatsReadBack document.parts ->
    Spells document.write document.tree
  | .null, _ => .wordNull
  | .bool true, _ => .wordTrue
  | .bool false, _ => .wordFalse
  | .number _, back => spells_number back
  | .text s, _ => .string (quotes_escapes s)
  | .list [], _ => .emptyList isGap_nil
  | .list (item :: rest), back => by
      have each := spells_items (item :: rest) (back.of_subset (List.subset_cons_self _ _))
      have spelled := Spells.list
        (List.forall_mem_map.mpr each : ∀ pair ∈ (item :: rest).map fun i => (i.write, i.tree),
          Spells pair.1 pair.2) (List.cons_ne_nil _ _)
      rw [List.map_map, List.map_map] at spelled
      rw [write, writeItems_eq, tree, itemTrees_eq]
      exact spelled
  | .object [], _ => .emptyObject isGap_nil
  | .object (field :: rest), back => by
      have each := spells_fields (field :: rest) (back.of_subset (List.subset_cons_self _ _))
      have keys : ∀ text ∈ (field :: rest).map fieldText, SpellsKey text.name text.key :=
        List.forall_mem_map.mpr fun field _ => spellsKey_writeString field.1
      rw [write, writeFields_eq, tree, fieldTrees_eq]
      exact .object keys (List.forall_mem_map.mpr each) (List.cons_ne_nil _ _)

theorem spells_items : (items : List Json) -> FloatsReadBack (itemsParts items) ->
    ∀ item ∈ items, Spells item.write item.tree
  | [], _ => List.forall_mem_nil _
  | item :: rest, back =>
      List.forall_mem_cons.mpr
        ⟨spells_write item (back.of_subset (List.subset_append_left _ _)),
          spells_items rest (back.of_subset (List.subset_append_right _ _))⟩

theorem spells_fields : (fields : List (String × Json)) -> FloatsReadBack (fieldsParts fields) ->
    ∀ field ∈ fields, Spells field.2.write field.2.tree
  | [], _ => List.forall_mem_nil _
  | (_, value) :: rest, back =>
      List.forall_mem_cons.mpr
        ⟨spells_write value (back.of_subset (List.subset_append_left _ _)),
          spells_fields rest (back.of_subset (List.subset_append_right _ _))⟩

end

theorem KeysDiffer.of_subset {some all : List Json} (differ : KeysDiffer all)
    (within : some ⊆ all) : KeysDiffer some :=
  fun document member => differ document (within member)

theorem CarryNothing.of_subset {some all : List Json} (nothing : CarryNothing all)
    (within : some ⊆ all) : CarryNothing some :=
  fun document member => nothing document (within member)

theorem head?_fieldTrees (fields : List (String × Json)) :
    ((fieldTrees fields).map Prod.fst).head? = ((fields.map Prod.fst).head?).map some := by
  cases fields <;> rfl

mutual

/-- The tree of a document has the document again. -/
theorem toJson?_tree (levels : Nat) : (document : Json) -> document.depth ≤ levels ->
    KeysDiffer document.parts -> CarryNothing document.parts ->
    Tree.toJson? parse? levels document.tree = some document
  | .null, _, _, _ => rfl
  | .bool _, _, _, _ => rfl
  | .number _, _, _, _ => rfl
  | .text _, _, _, _ => rfl
  | .list items, shallow, differ, nothing => by
      obtain ⟨levels, rfl⟩ := Nat.exists_eq_succ_of_ne_zero (Nat.ne_zero_of_lt shallow)
      rw [tree, Tree.toJson?, itemsToJson?_itemTrees levels items (Nat.le_of_succ_le_succ shallow)
        (differ.of_subset (List.subset_cons_self _ _))
        (nothing.of_subset (List.subset_cons_self _ _)), Option.map_some]
  | .object fields, shallow, differ, nothing => by
      obtain ⟨levels, rfl⟩ := Nat.exists_eq_succ_of_ne_zero (Nat.ne_zero_of_lt shallow)
      have own : ((fieldTrees fields).map Prod.fst).head? ≠ some (some carrierKey) := by
        have begins : (fields.map Prod.fst).head? ≠ some carrierKey :=
          nothing _ List.mem_cons_self
        rw [head?_fieldTrees]
        simpa using begins
      rw [tree, Tree.toJson?, carried?_eq_none own]
      dsimp only
      rw [fieldsToJson?_fieldTrees levels fields (Nat.le_of_succ_le_succ shallow)
        (differ.of_subset (List.subset_cons_self _ _))
        (nothing.of_subset (List.subset_cons_self _ _)), Option.map_some,
        Ordered.entries_ofList (differ _ List.mem_cons_self)]

theorem itemsToJson?_itemTrees (levels : Nat) : (items : List Json) ->
    itemsDepth items ≤ levels -> KeysDiffer (itemsParts items) ->
    CarryNothing (itemsParts items) ->
    Tree.itemsToJson? parse? levels (itemTrees items) = some items
  | [], _, _, _ => rfl
  | item :: rest, shallow, differ, nothing => by
      rw [itemTrees, Tree.itemsToJson?,
        toJson?_tree levels item (Nat.le_trans (Nat.le_max_left _ _) shallow)
          (differ.of_subset (List.subset_append_left _ _))
          (nothing.of_subset (List.subset_append_left _ _)),
        itemsToJson?_itemTrees levels rest (Nat.le_trans (Nat.le_max_right _ _) shallow)
          (differ.of_subset (List.subset_append_right _ _))
          (nothing.of_subset (List.subset_append_right _ _))]

theorem fieldsToJson?_fieldTrees (levels : Nat) : (fields : List (String × Json)) ->
    fieldsDepth fields ≤ levels -> KeysDiffer (fieldsParts fields) ->
    CarryNothing (fieldsParts fields) ->
    Tree.fieldsToJson? parse? levels (fieldTrees fields) = some fields
  | [], _, _, _ => rfl
  | (key, value) :: rest, shallow, differ, nothing => by
      rw [fieldTrees, Tree.fieldsToJson?.eq_def]
      dsimp only
      rw [toJson?_tree levels value (Nat.le_trans (Nat.le_max_left _ _) shallow)
          (differ.of_subset (List.subset_append_left _ _))
          (nothing.of_subset (List.subset_append_left _ _)),
        fieldsToJson?_fieldTrees levels rest (Nat.le_trans (Nat.le_max_right _ _) shallow)
          (differ.of_subset (List.subset_append_right _ _))
          (nothing.of_subset (List.subset_append_right _ _))]

end

/-- A document is read back from its compact text. -/
theorem parse?_compact {document : Json} (shallow : document.depth ≤ maxDepth)
    (differ : KeysDiffer document.parts) (back : FloatsReadBack document.parts)
    (nothing : CarryNothing document.parts) : parse? document.compact = some document := by
  have written : Spells document.compact.toList document.tree := by
    rw [compact, String.toList_ofList]
    exact spells_write document back
  rw [parse?_eq, written.parse?]
  exact toJson?_tree maxDepth document shallow differ nothing

-- The doubles cannot be left out: the digits of `1e-23` are read as a neighbour of the number.
example : parse? (number (.float ⟨0x3B282DB34012B251⟩ (by decide))).compact
    ≠ some (number (.float ⟨0x3B282DB34012B251⟩ (by decide))) := by decide +kernel

/-! ## Documents that were read -/

theorem mem_itemsParts {part : Json} {items : List Json} (member : part ∈ itemsParts items) :
    ∃ item ∈ items, part ∈ item.parts := by
  induction items with
  | nil => cases member
  | cons item rest ih =>
      rcases List.mem_append.mp member with here | behind
      · exact ⟨item, List.mem_cons_self, here⟩
      · rcases ih behind with ⟨other, there, inside⟩
        exact ⟨other, List.mem_cons_of_mem item there, inside⟩

theorem mem_fieldsParts {part : Json} {fields : List (String × Json)}
    (member : part ∈ fieldsParts fields) : ∃ field ∈ fields, part ∈ field.2.parts := by
  induction fields with
  | nil => cases member
  | cons field rest ih =>
      rcases List.mem_append.mp member with here | behind
      · exact ⟨field, List.mem_cons_self, here⟩
      · rcases ih behind with ⟨other, there, inside⟩
        exact ⟨other, List.mem_cons_of_mem field there, inside⟩

theorem carryNothing_of_scalar {document : Json} (alone : document.parts = [document])
    (noKeys : document.keys = []) : CarryNothing document.parts := by
  rw [alone, CarryNothing, List.forall_mem_singleton, noKeys]
  exact fun same => nomatch same

/-- The first key of a list of pairs stays the first when they are entered one by one. -/
theorem head?_keys_ofList (pairs : List (String × Json)) :
    (keys (.object (Ordered.ofList pairs).entries)).head? = (pairs.map Prod.fst).head? := by
  have entered : keys (.object (Ordered.ofList pairs).entries) = (pairs.map Prod.fst).eraseDups :=
    Ordered.keys_ofList pairs
  rw [entered]
  cases pairs with
  | nil => rfl
  | cons pair rest =>
      rw [List.map_cons, List.eraseDups_cons]
      rfl

/-- An object that begins with the key of a carrier is in no document that was read. -/
theorem Tree.Reads.carryNothing {levels : Nat} {tree : Tree} {document : Json}
    (reads : tree.Reads levels document) : CarryNothing document.parts := by
  induction reads with
  | null | bool _ | number _ | text _ => exact carryNothing_of_scalar rfl rfl
  | list _ ih =>
      intro part member
      rcases List.mem_cons.mp member with rfl | inside
      · exact fun same => nomatch same
      · rcases mem_itemsParts inside with ⟨item, there, within⟩
        rcases List.mem_map.mp there with ⟨reading, isReading, rfl⟩
        exact ih reading isReading part within
  | @object levels fields own _ ih =>
      intro part member
      rcases List.mem_cons.mp member with rfl | inside
      · have first : (fields.map FieldReading.entry).map Prod.fst
            = fields.map FieldReading.key := List.map_map
        rwa [head?_keys_ofList, first]
      · rcases mem_fieldsParts inside with ⟨field, there, within⟩
        rcases List.mem_map.mp (Ordered.mem_of_mem_ofList there) with ⟨reading, isReading, rfl⟩
        exact ih reading isReading part within
  | carrier _ _ ih => exact ih

theorem carryNothing_of_parse? {s : String} {document : Json} (read : parse? s = some document) :
    CarryNothing document.parts := by
  rcases parse?_eq_some_iff_reads.mp read with ⟨tree, -, reads⟩
  exact reads.carryNothing

end Json
end SqlGate
