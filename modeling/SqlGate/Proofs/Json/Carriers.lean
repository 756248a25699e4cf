import SqlGate.Json.Reading
import SqlGate.Proofs.Json.Recognition

namespace SqlGate
namespace Json

/-!
# Texts in texts

An object that begins with the key of a carrier is read as the document of the
text that it carries.  The text is shorter than the one it stands in, so that
reading comes to an end, and whatever bounds it from above does not matter: a
document is read by its tree, and the texts that are carried in it are read in
the same way.
-/

/-! ## Lengths -/

theorem Writes.length_le {inside content : List Char} (writes : Writes inside content) :
    content.length ≤ inside.length := by
  induction writes with
  | nil => exact Nat.le_refl 0
  | plain _ _ _ _ ih => exact Nat.succ_le_succ ih
  | short _ _ ih | unit _ _ ih | pair _ _ _ _ _ _ ih =>
      simp only [List.length_cons]
      omega

theorem Spells.length_lt {cs : List Char} {tree : Tree} (spelled : Spells cs tree) {s : String}
    (isText : tree.text? = some s) : s.length < cs.length := by
  induction spelled with
  | string quotes =>
      cases quotes with
      | whole writes =>
          cases isText
          have short := writes.length_le
          rw [String.length_ofList, List.length_cons, List.length_append]
          omega
      | half => cases isText
  | padded _ padded ih =>
      rcases padded with ⟨before, after, -, -, rfl⟩
      have short := ih isText
      simp only [List.length_append]
      omega
  | _ => cases isText

theorem length_le_commas {texts : List (List Char)} {cs : List Char} (member : cs ∈ texts) :
    cs.length ≤ (commas texts).length := by
  induction texts with
  | nil => cases member
  | cons first rest ih =>
      cases rest with
      | nil => rw [List.mem_singleton.mp member, commas]
      | cons next rest =>
          rw [commas, List.length_append, List.length_cons]
          rcases List.mem_cons.mp member with rfl | there
          · omega
          · have short := ih there
            omega

theorem length_value_lt {field : FieldText} {fields : List FieldText} (member : field ∈ fields) :
    field.value.length < (commas (fields.map FieldText.chars)).length := by
  have whole := length_le_commas (List.mem_map_of_mem (f := FieldText.chars) member)
  rw [FieldText.chars, List.length_append, List.length_cons] at whole
  omega

/-! ## What is carried -/

section

variable {κ α : Type} [DecidableEq κ] {carrier : κ} {text? : α -> Option String}

theorem carried?_eq_none {fields : List (κ × α)}
    (other : (fields.map Prod.fst).head? ≠ some carrier) :
    carried? carrier text? fields = none := by
  cases fields with
  | nil => rfl
  | cons field rest =>
      rw [carried?, if_neg]
      exact fun same => other (congrArg some same)

/-- Whatever is carried is the text of the one field. -/
theorem eq_of_carried? {fields : List (κ × α)} {s : String}
    (carried : carried? carrier text? fields = some (some s)) :
    ∃ value, fields = [(carrier, value)] ∧ text? value = some s := by
  cases fields with
  | nil => cases carried
  | cons field rest =>
      rw [carried?] at carried
      split at carried
      · rename_i same
        cases rest with
        | nil => exact ⟨field.2, by rw [← same], Option.some.inj carried⟩
        | cons next rest => cases carried
      · cases carried

theorem head?_of_carried? {fields : List (κ × α)} (carried : carried? carrier text? fields = none) :
    (fields.map Prod.fst).head? ≠ some carrier := by
  cases fields with
  | nil => exact fun same => nomatch same
  | cons field rest =>
      rw [carried?] at carried
      split at carried
      · cases carried
      · rename_i other
        exact fun same => other (Option.some.inj same)

end

/-! ## The bound does not matter -/

section

variable {f g : String -> Option Json}

theorem itemsToJson?_congr {levels : Nat} {items : List Tree}
    (each : ∀ item ∈ items, Tree.toJson? f levels item = Tree.toJson? g levels item) :
    Tree.itemsToJson? f levels items = Tree.itemsToJson? g levels items := by
  induction items with
  | nil => rfl
  | cons item rest ih =>
      rw [Tree.itemsToJson?, Tree.itemsToJson?, each item List.mem_cons_self,
        ih fun other member => each other (List.mem_cons_of_mem _ member)]

theorem fieldsToJson?_congr {levels : Nat} {fields : List (Option String × Tree)}
    (each : ∀ field ∈ fields, Tree.toJson? f levels field.2 = Tree.toJson? g levels field.2) :
    Tree.fieldsToJson? f levels fields = Tree.fieldsToJson? g levels fields := by
  induction fields with
  | nil => rfl
  | cons field rest ih =>
      rw [Tree.fieldsToJson?.eq_def, Tree.fieldsToJson?.eq_def g]
      dsimp only
      rw [each field List.mem_cons_self,
        ih fun other member => each other (List.mem_cons_of_mem _ member)]

/-- Readers that agree on all shorter texts make the same document of a tree. -/
theorem Spells.toJson?_congr {cs : List Char} {tree : Tree} (spelled : Spells cs tree)
    (same : ∀ s : String, s.length < cs.length -> f s = g s) (levels : Nat) :
    Tree.toJson? f levels tree = Tree.toJson? g levels tree := by
  induction spelled generalizing levels with
  | wordNull | wordTrue | wordFalse | number _ | string _ => rfl
  | emptyList _ | emptyObject _ => cases levels <;> rfl
  | @list items _ _ ih =>
      cases levels with
      | zero => rfl
      | succ levels =>
          rw [Tree.toJson?, Tree.toJson?, itemsToJson?_congr]
          rw [List.forall_mem_map]
          intro item member
          have inside := length_le_commas (List.mem_map_of_mem (f := Prod.fst) member)
          refine ih item member (fun s short => same s ?_) levels
          rw [List.length_cons, List.length_append]
          omega
  | @object fields _ each _ ih =>
      have inside : ∀ field ∈ fields, field.value.length
          < ('\x7b' :: (commas (fields.map FieldText.chars) ++ ['\x7d'])).length := by
        intro field member
        have short := length_value_lt member
        rw [List.length_cons, List.length_append]
        omega
      cases levels with
      | zero => rfl
      | succ levels =>
          rw [Tree.toJson?, Tree.toJson?]
          split
          · rename_i text carried
            cases text with
            | none => rfl
            | some s =>
                rcases eq_of_carried? carried with ⟨value, only, isText⟩
                rcases List.mem_map.mp (only ▸ List.mem_singleton_self (some carrierKey, value))
                  with ⟨field, member, entry⟩
                have isValue : field.tree = value := congrArg Prod.snd entry
                refine same s (Nat.lt_trans ?_ (inside field member))
                exact (each field member).length_lt (isValue ▸ isText)
          · rw [fieldsToJson?_congr]
            rw [List.forall_mem_map]
            intro field member
            exact ih field member
              (fun s short => same s (Nat.lt_trans short (inside field member))) levels
  | padded _ padded ih =>
      rcases padded with ⟨before, after, -, -, rfl⟩
      refine ih (fun s short => same s ?_) levels
      simp only [List.length_append]
      omega

end

/-- Any bound beyond the length of a text reads it. -/
theorem parseNested?_eq {carriers : Nat} {s : String} (enough : s.length < carriers) :
    parseNested? carriers s = parse? s := by
  -- By induction on the length: what is carried is shorter, and both bounds are enough for it.
  induction length : s.length using Nat.strongRecOn generalizing s carriers with
  | ind n ih =>
      rcases Nat.exists_eq_succ_of_ne_zero (Nat.ne_zero_of_lt enough) with ⟨bound, rfl⟩
      rw [parse?, parseNested?, parseNested?]
      cases parsed : Tree.parse? s with
      | none => rfl
      | some tree =>
          rw [Option.bind_some, Option.bind_some]
          refine (parse?_eq_some_iff.mp parsed).toJson?_congr ?_ maxDepth
          intro text short
          rw [String.length_toList] at short
          rw [ih text.length (by omega) (by omega) rfl, ih text.length (by omega) short rfl]

/-- A document is made of the tree of its text, and the texts it carries are read likewise. -/
theorem parse?_eq (s : String) :
    parse? s = (Tree.parse? s).bind (Tree.toJson? parse? maxDepth) := by
  rw [parse?, parseNested?]
  cases parsed : Tree.parse? s with
  | none => rfl
  | some tree =>
      refine (parse?_eq_some_iff.mp parsed).toJson?_congr ?_ maxDepth
      intro text short
      rw [String.length_toList] at short
      exact parseNested?_eq short

end Json
end SqlGate
