import SqlGate.Proofs.Json.Carriers

namespace SqlGate
namespace Json

/-!
# Which trees have documents

What is read of a tree is told kind by kind.  A number beyond the doubles and
half a surrogate pair have no document wherever they stand, lists and objects
have one up to the last level that is read, and an object that begins with the
key of a carrier has the document of the text that it carries, if it carries
one.  So a document is null if its tree is, or if the text of null was carried.
-/

theorem text_ne_null (s : String) : Json.text s ≠ .null := fun same => nomatch same

/-- A field of an object with the tree and the document of its value. -/
structure FieldReading where
  key : String
  tree : Tree
  document : Json

def FieldReading.written (field : FieldReading) : Option String × Tree :=
  (some field.key, field.tree)

def FieldReading.entry (field : FieldReading) : String × Json :=
  (field.key, field.document)

namespace Tree

/-- A tree and the document that is read of it, with at most so many levels of lists and objects.
The text that is carried by an object has all levels for itself. -/
inductive Reads : Nat -> Tree -> Json -> Prop
  | null {levels : Nat} : Reads levels .null .null
  | bool {levels : Nat} (b : Bool) : Reads levels (.bool b) (.bool b)
  | number {levels : Nat} (n : Numeral) : Reads levels (.number (some n)) (.number n)
  | text {levels : Nat} (s : String) : Reads levels (.text (some s)) (.text s)
  | list {levels : Nat} {items : List (Tree × Json)}
      (each : ∀ item ∈ items, Reads levels item.1 item.2) :
      Reads (levels + 1) (.list (items.map Prod.fst)) (.list (items.map Prod.snd))
  | object {levels : Nat} {fields : List FieldReading}
      (own : (fields.map FieldReading.key).head? ≠ some carrierKey)
      (each : ∀ field ∈ fields, Reads levels field.tree field.document) :
      Reads (levels + 1) (.object (fields.map FieldReading.written))
        (.object (Ordered.ofList (fields.map FieldReading.entry)).entries)
  | carrier {levels : Nat} {s : String} {tree : Tree} {document : Json}
      (written : Spells s.toList tree) (reads : Reads maxDepth tree document) :
      Reads (levels + 1) (.object [(some carrierKey, .text (some s))]) document

/-- Whether a tree has a document with at most so many levels. -/
def Readable (levels : Nat) (tree : Tree) : Prop :=
  ∃ document, tree.Reads levels document

/-- Whether a tree is null, or an object that carries the text of null. -/
inductive IsNull : Tree -> Prop
  | null : IsNull .null
  | carrier {s : String} {tree : Tree} (written : Spells s.toList tree) (isNull : IsNull tree) :
      IsNull (.object [(some carrierKey, .text (some s))])

theorem eq_text_of_text? {tree : Tree} {s : String} (isText : tree.text? = some s) :
    tree = .text (some s) := by
  cases tree with
  | text value => exact congrArg _ isText
  | _ => cases isText

theorem head?_written (fields : List FieldReading) :
    ((fields.map FieldReading.written).map Prod.fst).head? = some (some carrierKey)
      ↔ (fields.map FieldReading.key).head? = some carrierKey := by
  cases fields with
  | nil => simp
  | cons field rest => simp [FieldReading.written]

/-! ## What is read -/

/-- Whether a reader of texts makes nothing but what their trees are read as. -/
def Sound (read : String -> Option Json) : Prop :=
  ∀ s document, read s = some document ->
    ∃ tree, Spells s.toList tree ∧ tree.Reads maxDepth document

section

variable {read : String -> Option Json}

mutual

theorem Sound.reads (sound : Sound read) (levels : Nat) : (tree : Tree) -> (document : Json) ->
    toJson? read levels tree = some document -> tree.Reads levels document
  | .null, _, made => by
      cases made
      exact .null
  | .bool b, _, made => by
      cases made
      exact .bool b
  | .number _, _, made => by
      rcases Option.map_eq_some_iff.mp made with ⟨n, rfl, rfl⟩
      exact .number n
  | .text _, _, made => by
      rcases Option.map_eq_some_iff.mp made with ⟨s, rfl, rfl⟩
      exact .text s
  | .list items, _, made => by
      cases levels with
      | zero => cases made
      | succ levels =>
          rcases Option.map_eq_some_iff.mp made with ⟨found, inside, rfl⟩
          rcases sound.exists_items levels items found inside with ⟨readings, each, rfl, rfl⟩
          exact .list each
  | .object fields, document, made => by
      cases levels with
      | zero => cases made
      | succ levels =>
          rw [toJson?] at made
          split at made
          · rename_i carrier
            rcases Option.bind_eq_some_iff.mp made with ⟨s, rfl, given⟩
            rcases eq_of_carried? carrier with ⟨value, rfl, isText⟩
            rcases sound s document given with ⟨tree, written, reads⟩
            rw [eq_text_of_text? isText]
            exact .carrier written reads
          · rename_i noCarrier
            rcases Option.map_eq_some_iff.mp made with ⟨found, inside, rfl⟩
            rcases sound.exists_fields levels fields found inside
              with ⟨readings, each, rfl, rfl⟩
            refine .object ?_ each
            rw [Ne, ← head?_written]
            exact head?_of_carried? noCarrier

theorem Sound.exists_items (sound : Sound read) (levels : Nat) : (items : List Tree) -> (found : List Json) ->
    itemsToJson? read levels items = some found ->
    ∃ readings : List (Tree × Json), (∀ item ∈ readings, item.1.Reads levels item.2)
      ∧ items = readings.map Prod.fst ∧ found = readings.map Prod.snd
  | [], _, made => by
      cases made
      exact ⟨[], List.forall_mem_nil _, rfl, rfl⟩
  | tree :: rest, _, made => by
      rw [itemsToJson?] at made
      split at made
      · rename_i first others readFirst readOthers
        cases made
        have head := sound.reads levels tree first readFirst
        rcases sound.exists_items levels rest others readOthers with ⟨readings, each, rfl, rfl⟩
        exact ⟨(tree, first) :: readings, List.forall_mem_cons.mpr ⟨head, each⟩, rfl, rfl⟩
      · cases made

theorem Sound.exists_fields (sound : Sound read) (levels : Nat) :
    (fields : List (Option String × Tree)) -> (found : List (String × Json)) ->
    fieldsToJson? read levels fields = some found ->
    ∃ readings : List FieldReading, (∀ field ∈ readings, field.tree.Reads levels field.document)
      ∧ fields = readings.map FieldReading.written ∧ found = readings.map FieldReading.entry
  | [], _, made => by
      cases made
      exact ⟨[], List.forall_mem_nil _, rfl, rfl⟩
  | (key, tree) :: rest, _, made => by
      rw [fieldsToJson?.eq_def] at made
      dsimp only at made
      split at made
      · rename_i key first others readFirst readOthers
        cases made
        have head := sound.reads levels tree first readFirst
        rcases sound.exists_fields levels rest others readOthers
          with ⟨readings, each, rfl, rfl⟩
        exact ⟨⟨key, tree, first⟩ :: readings, List.forall_mem_cons.mpr ⟨head, each⟩, rfl, rfl⟩
      · cases made

end

end

theorem sound_parseNested? (carriers : Nat) : Sound (parseNested? carriers) := by
  induction carriers with
  | zero =>
      intro s document read
      cases read
  | succ carriers ih =>
      intro s document read
      rcases Option.bind_eq_some_iff.mp read with ⟨tree, parsed, made⟩
      exact ⟨tree, parse?_eq_some_iff.mp parsed, ih.reads maxDepth tree document made⟩

theorem sound_parse? : Sound Json.parse? :=
  fun s => sound_parseNested? (s.length + 1) s

theorem itemsToJson?_of_forall {levels : Nat} {items : List (Tree × Json)}
    (each : ∀ item ∈ items, toJson? Json.parse? levels item.1 = some item.2) :
    itemsToJson? Json.parse? levels (items.map Prod.fst) = some (items.map Prod.snd) := by
  induction items with
  | nil => rfl
  | cons item rest ih =>
      rw [List.map_cons, itemsToJson?, each item List.mem_cons_self,
        ih fun other member => each other (List.mem_cons_of_mem _ member), List.map_cons]

theorem fieldsToJson?_of_forall {levels : Nat} {fields : List FieldReading}
    (each : ∀ field ∈ fields, toJson? Json.parse? levels field.tree = some field.document) :
    fieldsToJson? Json.parse? levels (fields.map FieldReading.written)
      = some (fields.map FieldReading.entry) := by
  induction fields with
  | nil => rfl
  | cons field rest ih =>
      rw [List.map_cons, fieldsToJson?.eq_def]
      dsimp only [FieldReading.written]
      rw [each field List.mem_cons_self,
        ih fun other member => each other (List.mem_cons_of_mem _ member)]
      rfl

theorem Reads.toJson? {levels : Nat} {tree : Tree} {document : Json}
    (reads : tree.Reads levels document) : Tree.toJson? Json.parse? levels tree = some document := by
  induction reads with
  | null | bool _ | number _ | text _ => rfl
  | list _ ih => rw [Tree.toJson?, itemsToJson?_of_forall ih, Option.map_some]
  | object own _ ih =>
      rw [Tree.toJson?, carried?_eq_none, fieldsToJson?_of_forall ih]
      · rfl
      · rwa [Ne, head?_written]
  | @carrier levels s tree document written _ ih =>
      have made : Tree.toJson? Json.parse? (levels + 1) (.object [(some carrierKey, .text (some s))])
          = Json.parse? s := rfl
      rw [made, parse?_eq, written.parse?, Option.bind_some, ih]

/-- What is read of a tree, the texts that it carries included. -/
theorem toJson?_eq_some_iff {levels : Nat} {tree : Tree} {document : Json} :
    toJson? Json.parse? levels tree = some document ↔ tree.Reads levels document :=
  ⟨sound_parse?.reads levels tree document, Reads.toJson?⟩

/-! ## Null -/

theorem Reads.isNull {levels : Nat} {tree : Tree} {document : Json}
    (reads : tree.Reads levels document) (null : document = .null) : tree.IsNull := by
  induction reads with
  | null => exact .null
  | carrier written _ ih => exact .carrier written (ih null)
  | _ => cases null

theorem IsNull.reads {levels : Nat} {tree : Tree} (isNull : tree.IsNull) (some : 0 < levels) :
    tree.Reads levels .null := by
  induction isNull generalizing levels with
  | null => exact .null
  | carrier written _ ih =>
      cases levels with
      | zero => cases some
      | succ levels => exact .carrier written (ih (by decide))

/-- Null is made of a tree that is null, or carries null, or cannot be read. -/
theorem getD_toJson?_eq_null_iff (tree : Tree) :
    (toJson? Json.parse? maxDepth tree).getD .null = .null
      ↔ tree.IsNull ∨ ¬ tree.Readable maxDepth := by
  cases made : toJson? Json.parse? maxDepth tree with
  | none =>
      refine iff_of_true rfl (.inr ?_)
      rintro ⟨document, reads⟩
      rw [reads.toJson?] at made
      cases made
  | some document =>
      have reads := toJson?_eq_some_iff.mp made
      rw [Option.getD_some]
      constructor
      · exact fun null => .inl (reads.isNull null)
      · rintro (isNull | unreadable)
        · rw [(isNull.reads (by decide)).toJson?] at made
          exact (Option.some.inj made).symm
        · exact absurd ⟨document, reads⟩ unreadable

end Tree

/-- The texts that have documents. -/
theorem parse?_eq_some_iff_reads {s : String} {document : Json} :
    parse? s = some document ↔ ∃ tree, Spells s.toList tree ∧ tree.Reads maxDepth document := by
  constructor
  · exact Tree.sound_parse? s document
  · rintro ⟨tree, spelled, reads⟩
    rw [parse?_eq, spelled.parse?, Option.bind_some, reads.toJson?]

end Json
end SqlGate
