import Mathlib.Data.List.Forall2
import SqlGate.Json.Content
import SqlGate.Proofs.Json.Documents
import SqlGate.Proofs.Metadata.Sharing

namespace SqlGate
namespace Json

/-!
# Contents and documents

A reader may make a document of a text at once, or keep the content of the text
and make the document afterwards.  Both come to the same, and one fails where
the other does, since values and levels are checked alike.  What becomes of the
text is told by a relation between the tree, in which repeated fields are all
there, and the document, in which each key stands where it came up first and
has the value that came last.
-/

/-! ## By way of a content -/

theorem text?_content {levels : Nat} {tree : Tree} {content : Content}
    (kept : Tree.content? levels tree = some content) : content.text? = tree.text? := by
  cases tree with
  | null | bool _ =>
      cases kept
      rfl
  | number n =>
      rcases Option.map_eq_some_iff.mp kept with ⟨value, -, rfl⟩
      rfl
  | text s =>
      rcases Option.map_eq_some_iff.mp kept with ⟨value, rfl, rfl⟩
      rfl
  | list items =>
      cases levels with
      | zero => cases kept
      | succ levels =>
          rcases Option.map_eq_some_iff.mp kept with ⟨found, -, rfl⟩
          rfl
  | object fields =>
      cases levels with
      | zero => cases kept
      | succ levels =>
          rcases Option.map_eq_some_iff.mp kept with ⟨found, -, rfl⟩
          rfl

/-- An object carries the same text before and after its content is kept. -/
theorem carried?_contents {levels : Nat} {fields : List (Option String × Tree)}
    {contents : List (String × Content)} (kept : Tree.fieldContents? levels fields = some contents) :
    carried? carrierKey Content.text? contents
      = carried? (some carrierKey) Tree.text? fields := by
  cases fields with
  | nil =>
      cases kept
      rfl
  | cons field rest =>
      rw [Tree.fieldContents?.eq_def] at kept
      dsimp only at kept
      split at kept
      · rename_i key content others isKey keptFirst keptOthers
        cases kept
        have alone : others.isEmpty = rest.isEmpty := by
          cases rest with
          | nil =>
              cases keptOthers
              rfl
          | cons next rest =>
              rw [Tree.fieldContents?.eq_def] at keptOthers
              dsimp only at keptOthers
              split at keptOthers
              · cases keptOthers
                rfl
              · cases keptOthers
        rw [carried?, carried?, isKey, text?_content keptFirst, alone]
        simp only [Option.some.injEq]
      · cases kept

mutual

/-- The document of a tree is that of its content. -/
theorem toJson?_eq_bind (levels : Nat) : (tree : Tree) ->
    Tree.toJson? parse? levels tree = (Tree.content? levels tree).bind Content.toJson?
  | .null | .bool _ => rfl
  | .number n => by
      rw [Tree.toJson?, Tree.content?, Option.bind_map]
      exact Option.map_eq_bind
  | .text s => by
      rw [Tree.toJson?, Tree.content?, Option.bind_map]
      exact Option.map_eq_bind
  | .list items => by
      cases levels with
      | zero => rfl
      | succ levels =>
          rw [Tree.toJson?, Tree.content?, itemsToJson?_eq_bind levels items, Option.map_bind,
            Option.bind_map]
          rfl
  | .object fields => by
      cases levels with
      | zero => rfl
      | succ levels =>
          rw [Tree.toJson?, Tree.content?, Option.bind_map, fieldsToJson?_eq_bind levels fields]
          cases kept : Tree.fieldContents? levels fields with
          | some contents =>
              rw [← carried?_contents kept]
              rfl
          | none =>
              split
              · rename_i carried carrier
                cases carried with
                | none => rfl
                | some s =>
                    -- A carrier has a content, whether or not its text has a document.
                    rcases eq_of_carried? carrier with ⟨value, rfl, isText⟩
                    rw [Tree.eq_text_of_text? isText] at kept
                    cases kept
              · rfl

theorem itemsToJson?_eq_bind (levels : Nat) : (items : List Tree) ->
    Tree.itemsToJson? parse? levels items
      = (Tree.itemContents? levels items).bind Content.itemsToJson?
  | [] => rfl
  | item :: rest => by
      rw [Tree.itemsToJson?, Tree.itemContents?, toJson?_eq_bind levels item,
        itemsToJson?_eq_bind levels rest]
      cases Tree.content? levels item with
      | none => rfl
      | some found =>
          cases Tree.itemContents? levels rest with
          | none =>
              rw [Option.bind_some]
              cases found.toJson? <;> rfl
          | some others => rfl

theorem fieldsToJson?_eq_bind (levels : Nat) : (fields : List (Option String × Tree)) ->
    Tree.fieldsToJson? parse? levels fields
      = (Tree.fieldContents? levels fields).bind Content.fieldsToJson?
  | [] => rfl
  | (key, value) :: rest => by
      rw [Tree.fieldsToJson?.eq_def, Tree.fieldContents?.eq_def]
      dsimp only
      rw [toJson?_eq_bind levels value, fieldsToJson?_eq_bind levels rest]
      cases key with
      | none => rfl
      | some key =>
          cases Tree.content? levels value with
          | none => rfl
          | some found =>
              cases Tree.fieldContents? levels rest with
              | none =>
                  rw [Option.bind_some]
                  cases found.toJson? <;> rfl
              | some others =>
                  simp only [Option.bind_some, Content.fieldsToJson?]
                  cases found.toJson? <;> cases Content.fieldsToJson? others <;> rfl

end

/-! ## What a tree means -/

def lastValue? {κ α : Type} [DecidableEq κ] (key : κ) (fields : List (κ × α)) : Option α :=
  (fields.filter fun field => decide (field.1 = key)).getLast?.map Prod.snd

/-- A tree means a document: parts without parts in them by their values, lists item by item, and
objects key by key, each key in the place where it came up first and with the value of its last
field; an object that begins with the key of a carrier means what the text in it means. -/
inductive Tree.Means : Tree -> Json -> Prop
  | null : Means .null .null
  | bool (b : Bool) : Means (.bool b) (.bool b)
  | number (n : Numeral) : Means (.number (some n)) (.number n)
  | text (s : String) : Means (.text (some s)) (.text s)
  | list {items : List Tree} {found : List Json} (each : List.Forall₂ Means items found) :
      Means (.list items) (.list found)
  | object {fields : List (Option String × Tree)} {found : List (String × Json)}
      (own : (fields.map Prod.fst).head? ≠ some (some carrierKey))
      (keys : found.map (fun field => some field.1) = (fields.map Prod.fst).eraseDups)
      (values : ∀ field ∈ found, ∀ tree, lastValue? (some field.1) fields = some tree ->
        Means tree field.2) :
      Means (.object fields) (.object found)
  | carrier {s : String} {tree : Tree} {document : Json} (written : Spells s.toList tree)
      (means : Means tree document) :
      Means (.object [(some carrierKey, .text (some s))]) document

theorem eraseDups_map_some (keys : List String) :
    (keys.map some).eraseDups = keys.eraseDups.map some := by
  cases keys with
  | nil => rfl
  | cons key rest =>
      rw [List.map_cons, List.eraseDups_cons, List.eraseDups_cons, List.map_cons, List.filter_map,
        ← eraseDups_map_some]
      rfl
termination_by keys.length
decreasing_by exact Nat.lt_succ_of_le (List.length_filter_le _ _)

section

variable {means : Tree -> Json -> Prop} {fields : List (Option String × Tree)}
  {found : List (String × Json)}

/-- Fields have the keys and the meaning of what was found of them. -/
def Match (means : Tree -> Json -> Prop) :
    List (Option String × Tree) -> List (String × Json) -> Prop :=
  List.Forall₂ fun field entry => field.1 = some entry.1 ∧ means field.2 entry.2

theorem Match.keys (paired : Match means fields found) :
    fields.map Prod.fst = (found.map Prod.fst).map some := by
  induction paired with
  | nil => rfl
  | cons first _ ih => rw [List.map_cons, ih, first.1, List.map_cons, List.map_cons]

theorem lastValue?_cons {κ α : Type} [DecidableEq κ] (key : κ) (field : κ × α)
    (rest : List (κ × α)) :
    lastValue? key (field :: rest)
      = (lastValue? key rest).or (if field.1 = key then some field.2 else none) := by
  rw [lastValue?]
  by_cases same : field.1 = key
  · rw [List.filter_cons_of_pos (by simpa using same), List.getLast?_cons, if_pos same, lastValue?]
    cases (rest.filter fun field => decide (field.1 = key)).getLast? <;> rfl
  · rw [List.filter_cons_of_neg (by simpa using same), if_neg same, Option.or_none, lastValue?]

/-- The last values of a key match too. -/
theorem Match.lastValue? (paired : Match means fields found) (key : String) :
    Option.Rel means (lastValue? (some key) fields) (lastValue? key found) := by
  induction paired with
  | nil => exact .none
  | @cons field entry fields found first _ ih =>
      rw [lastValue?_cons, lastValue?_cons, first.1]
      generalize Json.lastValue? (some key) fields = left at ih
      generalize Json.lastValue? key found = right at ih
      cases ih with
      | some both => exact .some both
      | none =>
          by_cases same : entry.1 = key
          · rw [if_pos (congrArg some same), if_pos same]
            exact .some first.2
          · rw [if_neg fun other => same (Option.some.inj other), if_neg same]
            exact .none

/-- Fields that match what was found are an object that means it, entered key by key. -/
theorem Match.means_object (paired : Match Tree.Means fields found)
    (own : (fields.map Prod.fst).head? ≠ some (some carrierKey)) :
    Tree.Means (.object fields) (.object (Ordered.ofList found).entries) := by
  refine .object own ?_ ?_
  · have named := congrArg (List.map some) (Ordered.keys_ofList found)
    rw [Ordered.keys, List.map_map] at named
    rw [paired.keys, eraseDups_map_some]
    exact named
  · rintro ⟨key, document⟩ member tree last
    have given := (Ordered.get?_eq_some_iff _ key document).mpr member
    rw [Ordered.ofList, Ordered.get?_putAll, Ordered.get?, Ordered.entries_empty, List.lookup_nil,
      Option.or_none] at given
    have both := paired.lastValue? key
    rw [last, show Json.lastValue? key found = some document from given] at both
    cases both with
    | some means => exact means

end

/-- The document that is read of a tree is what the tree means. -/
theorem Tree.Reads.means {levels : Nat} {tree : Tree} {document : Json}
    (reads : tree.Reads levels document) : tree.Means document := by
  induction reads with
  | null => exact .null
  | bool b => exact .bool b
  | number n => exact .number n
  | text s => exact .text s
  | list _ ih =>
      apply Means.list
      rw [List.forall₂_map_left_iff, List.forall₂_map_right_iff, List.forall₂_same]
      exact ih
  | object own _ ih =>
      apply Match.means_object
      · rw [Match, List.forall₂_map_left_iff, List.forall₂_map_right_iff, List.forall₂_same]
        exact fun field member => ⟨rfl, ih field member⟩
      · rwa [Ne, head?_written]
  | carrier written _ ih => exact .carrier written ih

end Json
end SqlGate
