import SqlGate.Embedded.Decode

namespace SqlGate
namespace Embedded

/-!
# Cells that are lost

A file stores a cell of any class in a column of any declared type.  Most types
read it as what it is, and lose nothing.  A type of truth values reads nothing
but integers, and a type of bytes reads no numbers: what such a column holds
besides is shown as null, as if nothing had been stored.
-/

/-- Whether a declared type is one of truth values. -/
def isTruthType : Option String -> Bool
  | none => false
  | some declared => ["boolean", "bool"].contains (Text.lower declared)

/-- Whether a declared type is one of bytes: `blob` stands in it, and no part that is looked for
before. -/
def isBytesType : Option String -> Bool
  | none => false
  | some declared =>
      let name := Text.lower declared
      let mentions := fun parts => List.any parts (Text.contains name)
      mentions ["blob"] && !mentions ["int"] && !mentions ["char", "clob", "text"]

/-- Whether a cell holds a whole number or a double. -/
def isNumber : Cell -> Bool
  | .int _ | .real _ => true
  | _ => false

/-- Whether a cell holds a whole number. -/
def isWhole : Cell -> Bool
  | .int _ => true
  | _ => false

/-! ## Names of types -/

/-- The type names under which a cell is read as what it is. -/
def plainTypeNames : List String :=
  ["DATE", "TIME", "DATETIME", "INTEGER", "TEXT", "REAL", "NULL"]

theorem typeNameOf_of_isTruthType {declared : Option String}
    (truth : isTruthType declared = true) : typeNameOf declared = "BOOLEAN" := by
  cases declared with
  | none => cases truth
  | some declared =>
      have named : Text.lower declared = "boolean" ∨ Text.lower declared = "bool" := by
        simpa [isTruthType] using truth
      rw [typeNameOf, if_pos named]

theorem isBytesType_eq_false_of_isTruthType {declared : Option String}
    (truth : isTruthType declared = true) : isBytesType declared = false := by
  cases declared with
  | none => cases truth
  | some declared =>
      have named : Text.lower declared = "boolean" ∨ Text.lower declared = "bool" := by
        simpa [isTruthType] using truth
      rw [isBytesType]
      rcases named with named | named
      · rw [named]
        decide
      · rw [named]
        decide

/-- A type that is none of truth values has the name of bytes exactly if it is one of bytes. -/
theorem typeNameOf_of_not_isTruthType {declared : Option String}
    (noTruth : isTruthType declared = false) :
    (isBytesType declared = true ∧ typeNameOf declared = "BLOB")
      ∨ (isBytesType declared = false ∧ typeNameOf declared ∈ plainTypeNames) := by
  cases declared with
  | none => decide
  | some declared =>
      have noName : ¬(Text.lower declared = "boolean" ∨ Text.lower declared = "bool") := by
        simpa [isTruthType] using noTruth
      rw [typeNameOf, isBytesType]
      generalize Text.lower declared = name at noName
      rw [if_neg noName]
      by_cases date : name = "date"
      · subst date
        decide
      by_cases time : name = "time"
      · subst time
        decide
      by_cases moment : name = "datetime" ∨ name = "timestamp"
      · rcases moment with moment | moment
        · subst moment
          decide
        · subst moment
          decide
      -- what is left is decided by the parts that stand in the name
      rw [if_neg date, if_neg time, if_neg moment]
      dsimp only
      by_cases integer : ["int"].any (Text.contains name) = true
      · rw [if_pos integer, integer, Bool.not_true, Bool.and_false, Bool.false_and]
        decide
      by_cases text : ["char", "clob", "text"].any (Text.contains name) = true
      · rw [if_neg integer, if_pos text, text, Bool.not_true, Bool.and_false]
        decide
      rw [if_neg integer, if_neg text, Bool.eq_false_iff.mpr integer, Bool.eq_false_iff.mpr text,
        Bool.not_false, Bool.and_true, Bool.and_true]
      by_cases bytes : ["blob"].any (Text.contains name) = true
      · rw [if_pos bytes]
        exact .inl ⟨bytes, rfl⟩
      · rw [if_neg bytes]
        refine .inr ⟨Bool.eq_false_iff.mpr bytes, ?_⟩
        split
        · decide
        · decide

/-! ## Categories -/

theorem ofName_of_isTruthType {declared : Option String} (truth : isTruthType declared = true) :
    TypeCategory.ofName (typeNameOf declared) .sqlite = .boolean := by
  rw [typeNameOf_of_isTruthType truth]
  decide

theorem ofName_of_isBytesType {declared : Option String} (bytes : isBytesType declared = true) :
    TypeCategory.ofName (typeNameOf declared) .sqlite = .binary := by
  have noTruth : isTruthType declared = false := by
    cases truth : isTruthType declared with
    | false => rfl
    | true =>
        rw [isBytesType_eq_false_of_isTruthType truth] at bytes
        cases bytes
  rcases typeNameOf_of_not_isTruthType noTruth with ⟨-, named⟩ | ⟨noBytes, -⟩
  · rw [named]
    decide
  · rw [bytes] at noBytes
    cases noBytes

theorem mem_plainTypeNames {declared : Option String} (noTruth : isTruthType declared = false)
    (noBytes : isBytesType declared = false) : typeNameOf declared ∈ plainTypeNames := by
  rcases typeNameOf_of_not_isTruthType noTruth with ⟨bytes, -⟩ | ⟨-, named⟩
  · rw [noBytes] at bytes
    cases bytes
  · exact named

/-- A cell of any other type is read as what it is. -/
theorem decodeCell_of_plain {declared : Option String} (noTruth : isTruthType declared = false)
    (noBytes : isBytesType declared = false) (cell : Cell) :
    decodeCell declared cell = decodeAny (typeNameOf declared) cell := by
  have categories : ∀ name ∈ plainTypeNames,
      TypeCategory.ofName name .sqlite ≠ .boolean ∧ TypeCategory.ofName name .sqlite ≠ .binary
        ∧ TypeCategory.ofName name .sqlite ≠ .json := by
    decide
  rcases categories _ (mem_plainTypeNames noTruth noBytes) with ⟨noBoolean, noBinary, noJson⟩
  rw [decodeCell, decodeAs]
  · exact noBoolean
  · exact noBinary
  · exact noJson

/-- No declared type has a name with documents, so that a text is never read as one. -/
theorem decodeText_typeNameOf (declared : Option String) (s : String) :
    decodeText (typeNameOf declared) (.text s) = .text s := by
  have noDocuments : ∀ name ∈ "BOOLEAN" :: "BLOB" :: plainTypeNames,
      Text.contains (Text.lower name) "json" = false := by
    decide
  have member : typeNameOf declared ∈ "BOOLEAN" :: "BLOB" :: plainTypeNames := by
    cases truth : isTruthType declared with
    | true =>
        rw [typeNameOf_of_isTruthType truth]
        exact List.mem_cons_self
    | false =>
        rcases typeNameOf_of_not_isTruthType truth with ⟨-, named⟩ | ⟨-, named⟩
        · rw [named]
          decide
        · exact List.mem_cons_of_mem _ (List.mem_cons_of_mem _ named)
  rw [decodeText, noDocuments _ member]
  rfl

/-! ## What is lost -/

theorem realDocument_ne_null (x : Binary64) : realDocument x ≠ .null := by
  rw [realDocument, Json.ofFinite?]
  split
  · exact fun same => nomatch same
  · exact fun same => nomatch same

theorem decodeTruth_eq_null_iff (cell : Cell) :
    decodeTruth cell = .null ↔ isWhole cell = false := by
  cases cell <;> simp [decodeTruth, isWhole]

theorem decodeBinary_eq_null_iff (cell : Cell) :
    decodeBinary cell = .null ↔ cell = .null ∨ isNumber cell = true := by
  cases cell <;> simp [decodeBinary, binaryDocument, isNumber]

theorem decodeAny_eq_null_iff (declared : Option String) (cell : Cell) :
    decodeAny (typeNameOf declared) cell = .null ↔ cell = .null := by
  cases cell with
  | null => exact iff_of_true rfl rfl
  | int n => exact iff_of_false (fun same => nomatch same) (fun same => nomatch same)
  | real x => exact iff_of_false (realDocument_ne_null x) (fun same => nomatch same)
  | text s =>
      rw [decodeAny, decodeText_typeNameOf]
      exact iff_of_false (fun same => nomatch same) (fun same => nomatch same)
  | blob bytes => exact iff_of_false (fun same => nomatch same) (fun same => nomatch same)

/-- A cell is read as null exactly if it holds nothing, or a type of truth values holds no
integer, or a type of bytes holds a number. -/
theorem decodeCell_eq_null_iff (declared : Option String) (cell : Cell) :
    decodeCell declared cell = .null
      ↔ cell = .null ∨ (isTruthType declared = true ∧ isWhole cell = false)
        ∨ (isBytesType declared = true ∧ isNumber cell = true) := by
  cases truth : isTruthType declared with
  | true =>
      have noBytes := isBytesType_eq_false_of_isTruthType truth
      have read : decodeCell declared cell = decodeTruth cell := by
        rw [decodeCell, ofName_of_isTruthType truth]
        rfl
      rw [read, decodeTruth_eq_null_iff, noBytes]
      cases cell <;> simp [isWhole]
  | false =>
      cases bytes : isBytesType declared with
      | true =>
          have read : decodeCell declared cell = decodeBinary cell := by
            rw [decodeCell, ofName_of_isBytesType bytes]
            rfl
          rw [read, decodeBinary_eq_null_iff]
          simp
      | false =>
          rw [decodeCell_of_plain truth bytes, decodeAny_eq_null_iff]
          simp

/-- A text that is stored in a column of truth values is lost, although it is no document. -/
theorem not_forall_decodeCell_ne_null :
    ¬ ∀ (declared : Option String) (cell : Cell), cell ≠ .null ->
      decodeCell declared cell ≠ .null
        ∨ (TypeCategory.ofName (typeNameOf declared) .sqlite = .json
          ∧ ∃ s, cell = .text s ∧ Json.parse? s = some .null) := by
  intro noLoss
  have stored : Affinity.store (.ofDeclared "BOOLEAN") (.text "unknown") = .text "unknown" := by
    decide
  have holds : Affinity.store (.ofDeclared "BOOLEAN") (.text "unknown") ≠ Cell.null := by
    rw [stored]
    exact fun same => nomatch same
  rw [stored] at holds
  rcases noLoss (some "BOOLEAN") (.text "unknown") holds with shown | ⟨documents, -⟩
  · exact shown (by decide)
  · revert documents
    decide

end Embedded
end SqlGate
