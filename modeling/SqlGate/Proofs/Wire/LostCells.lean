import SqlGate.Proofs.Bytes.Utf8
import SqlGate.Proofs.Json.Documents
import SqlGate.Wire.Decode

namespace SqlGate
namespace Wire

/-!
# Cells that are lost

Bytes that no decoder reads are shown as they are, so that they are not lost.
Documents are kept from this, because null may be what was sent.  But null is
shown for a document that cannot be read, too: one with a number beyond the
doubles, with half a surrogate pair, or with too many levels.  And it is shown
for an object that carries the text of null.
-/

/-- Whether a type is named like one of documents. -/
def isDocumentName (name : String) : Bool :=
  ["json", "jsonb"].contains (Text.lower name)

/-- The bytes of a stored document behind its version, which the binary form begins with. -/
def behindVersion? (form : Form) (bytes : List UInt8) : Option (List UInt8) :=
  match form with
  | .text => some bytes
  | .binary =>
      match bytes with
      | 1 :: rest => some rest
      | _ => none

/-- The document of a cell as it was written, whether or not it can be read. -/
def sentTree? (type : ColumnType) (form : Form) (bytes : List UInt8) : Option Json.Tree :=
  match type with
  | .json => (Bytes.toText? bytes).bind Json.Tree.parse?
  | .jsonb => ((behindVersion? form bytes).bind Bytes.toText?).bind Json.Tree.parse?
  | _ => none

/-! ## Columns of documents -/

theorem ofName_eq_json_iff (name : String) :
    TypeCategory.ofName name .postgres = .json ↔ isDocumentName name = true := by
  have onlyRule : ∀ rule ∈ TypeCategory.rules, rule.category = .json ->
      rule.whole = ["json", "jsonb"] ∧ rule.parts = [] ∧ rule.starts = [] := by
    decide
  constructor
  · intro documents
    rw [TypeCategory.ofName, if_neg (fun numeric => nomatch numeric.1)] at documents
    split at documents
    · rename_i rule found
      rcases onlyRule rule (List.mem_of_find?_eq_some found) documents with ⟨whole, parts, starts⟩
      have fits := List.find?_some found
      rw [TypeCategory.Rule.matchesName, whole, parts, starts] at fits
      simpa [isDocumentName] using fits
    · cases documents
  · intro named
    have named : Text.lower name = "json" ∨ Text.lower name = "jsonb" := by
      simpa [isDocumentName] using named
    rw [TypeCategory.ofName, if_neg (fun numeric => nomatch numeric.1)]
    rcases named with named | named
    · rw [named]
      decide
    · rw [named]
      decide

theorem document?_stored (form : Form) (bytes : List UInt8) :
    document? form true bytes
      = ((behindVersion? form bytes).bind Bytes.toText?).bind Json.parse? := by
  cases form with
  | text => rfl
  | binary => rfl

/-- A decoder of documents reads what was written as far as it has a document. -/
theorem decodeAs?_json (type : ColumnType) (form : Form) (bytes : List UInt8) :
    decodeAs? .json type form bytes
      = (sentTree? type form bytes).bind (Json.Tree.toJson? Json.parse? Json.maxDepth) := by
  cases type with
  | json =>
      rw [decodeAs?, sentTree?, Option.bind_assoc, ← funext Json.parse?_eq]
      rfl
  | jsonb =>
      rw [decodeAs?, document?_stored, sentTree?, Option.bind_assoc (f := Json.Tree.parse?),
        ← funext Json.parse?_eq]
  | _ => rfl

/-! ## What is lost -/

theorem rawDocument_ne_null (bytes : List UInt8) : rawDocument bytes ≠ .null :=
  Json.text_ne_null _

/-- Nothing is lost in a column that is none of documents. -/
theorem decodeCell_ne_null {name : String} (noDocuments : isDocumentName name = false)
    (type : ColumnType) (form : Form) (bytes : List UInt8) :
    decodeCell name type form (some bytes) ≠ .null := by
  have category : TypeCategory.ofName name .postgres ≠ .json := by
    rw [Ne, ofName_eq_json_iff, noDocuments]
    exact Bool.false_ne_true
  rw [decodeCell]
  split
  · exact rawDocument_ne_null bytes
  · rename_i shown
    exact fun isNull => shown ⟨isNull, category⟩

theorem decodeCell_of_isDocumentName {name : String} (documents : isDocumentName name = true)
    (type : ColumnType) (form : Form) (bytes : List UInt8) :
    decodeCell name type form (some bytes)
      = ((sentTree? type form bytes).bind
          (Json.Tree.toJson? Json.parse? Json.maxDepth)).getD .null := by
  have category := (ofName_eq_json_iff name).mpr documents
  rw [decodeCell, category, if_neg (fun both => both.2 rfl), decodeAs?_json]

/-- A cell that was sent is read as null exactly if its type is named like one of documents and
the document is not well-formed, or null, or carries the text of null, or cannot be read. -/
theorem decodeCell_some_eq_null_iff (name : String) (type : ColumnType) (form : Form)
    (bytes : List UInt8) :
    decodeCell name type form (some bytes) = .null
      ↔ isDocumentName name = true
        ∧ ∀ tree, sentTree? type form bytes = some tree ->
          tree.IsNull ∨ ¬ tree.Readable Json.maxDepth := by
  cases documents : isDocumentName name with
  | false => exact iff_of_false (decodeCell_ne_null documents type form bytes) (by simp)
  | true =>
      rw [decodeCell_of_isDocumentName documents]
      cases sent : sentTree? type form bytes with
      | none => simp
      | some tree =>
          rw [Option.bind_some, Json.Tree.getD_toJson?_eq_null_iff]
          simp

/-- A document with a number beyond the doubles is lost, although it is not null. -/
theorem not_forall_sent_null :
    ¬ ∀ (name : String) (type : ColumnType) (form : Form) (bytes : List UInt8),
      decodeCell name type form (some bytes) = .null ->
        sentTree? type form bytes = some .null := by
  intro noLoss
  let written := "\x7b\"mass\": 1e400\x7d"
  have tokens : Json.tokens? written.toList
      = some [.openObject, .text "mass", .colon, .number none, .closeObject] := by
    decide
  have tree : sentTree? .json .text (Bytes.ofText written)
      = some (.object [(some "mass", .number none)]) := by
    rw [sentTree?, Bytes.toText?_ofText, Option.bind_some, Json.Tree.parse?, tokens]
    rfl
  have lost : decodeCell "JSON" .json .text (some (Bytes.ofText written)) = .null := by
    rw [decodeCell_of_isDocumentName (by decide), tree]
    rfl
  have sent := noLoss _ _ _ _ lost
  rw [tree] at sent
  cases sent

end Wire
end SqlGate
