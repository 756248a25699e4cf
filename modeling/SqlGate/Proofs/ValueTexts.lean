import SqlGate.Proofs.Json.Contents
import SqlGate.Proofs.Json.Recognition
import SqlGate.Proofs.Values

namespace SqlGate

/-!
# Two readers of values

One reader keeps the content of a text and takes the first kind that accepts
it, the other looks at the document and never fails.  Where the first one fails
the second gives the text as it stands, and elsewhere it gives the plain value
of what the first one has.  The two differ for one kind of text only: an object
that carries the text of a scalar is a document for the first reader, which has
seen an object, and the scalar for the second, which sees only the document.
What they give is told from the text: from the digits of a number, from what
the escapes of a string stand for, and from the fields of an object as they
were written.
-/

namespace Json

/-- Whether a tree is a list or an object. -/
def Tree.isNested : Tree -> Bool
  | .list _ | .object _ => true
  | _ => false

def Content.isNested : Content -> Bool
  | .list _ | .object _ => true
  | _ => false

def isNested : Json -> Bool
  | .list _ | .object _ => true
  | _ => false

/-- Whether a tree is an object that carries the text of a scalar, or of another such object. -/
inductive Tree.CarriesScalar : Tree -> Prop
  | scalar {s : String} {tree : Tree} (written : Spells s.toList tree)
      (flat : tree.isNested = false) : CarriesScalar (.object [(some carrierKey, .text (some s))])
  | carrier {s : String} {tree : Tree} (written : Spells s.toList tree)
      (inside : CarriesScalar tree) : CarriesScalar (.object [(some carrierKey, .text (some s))])

theorem Spells.unique {s : String} {tree other : Tree} (spelled : Spells s.toList tree)
    (also : Spells s.toList other) : tree = other :=
  Option.some.inj (spelled.parse?.symm.trans also.parse?)

theorem isNested_content {levels : Nat} {tree : Tree} {content : Content}
    (kept : Tree.content? levels tree = some content) : content.isNested = tree.isNested := by
  cases tree with
  | null | bool _ =>
      cases kept
      rfl
  | number _ | text _ =>
      rcases Option.map_eq_some_iff.mp kept with ⟨value, -, rfl⟩
      rfl
  | list _ | object _ =>
      cases levels with
      | zero => cases kept
      | succ levels =>
          rcases Option.map_eq_some_iff.mp kept with ⟨found, -, rfl⟩
          rfl

/-! ## Carried scalars -/

theorem Tree.CarriesScalar.isNested {tree : Tree} (carries : tree.CarriesScalar) :
    tree.isNested = true := by
  cases carries with
  | scalar _ _ | carrier _ _ => rfl

theorem Tree.CarriesScalar.head? {fields : List (Option String × Tree)}
    (carries : CarriesScalar (.object fields)) :
    (fields.map Prod.fst).head? = some (some carrierKey) := by
  cases carries with
  | scalar _ _ | carrier _ _ => rfl

theorem Tree.carriesScalar_iff {s : String} {tree : Tree} (written : Spells s.toList tree) :
    CarriesScalar (.object [(some carrierKey, .text (some s))])
      ↔ tree.isNested = false ∨ tree.CarriesScalar := by
  constructor
  · intro carries
    cases carries with
    | scalar also flat =>
        rw [written.unique also]
        exact .inl flat
    | carrier also inside =>
        rw [written.unique also]
        exact .inr inside
  · rintro (flat | inside)
    · exact .scalar written flat
    · exact .carrier written inside

/-- The document of a tree is a scalar just where the tree is one, or carries one. -/
theorem Tree.Reads.isNested_eq_false_iff {levels : Nat} {tree : Tree} {document : Json}
    (reads : tree.Reads levels document) :
    document.isNested = false ↔ tree.isNested = false ∨ tree.CarriesScalar := by
  induction reads with
  | null | bool _ | number _ | text _ => exact iff_of_true rfl (.inl rfl)
  | list _ _ =>
      refine iff_of_false (fun same => nomatch same) ?_
      rintro (flat | carries)
      · cases flat
      · cases carries
  | object own _ _ =>
      refine iff_of_false (fun same => nomatch same) ?_
      rintro (flat | carries)
      · cases flat
      · exact own ((Tree.head?_written _).mp carries.head?)
  | carrier written _ ih =>
      rw [ih, ← carriesScalar_iff written]
      exact (or_iff_right fun flat => nomatch flat).symm

end Json

namespace Value

/-! ## Both readers by the tree -/

/-- The value of a document of a text that is nested, or is not. -/
def ofKind (nested : Bool) (document : Json) : Value :=
  if nested then .json document else ofScalar document

/-- The first kind that accepts a content is a document for what is nested, and else the one that
its document shows. -/
theorem firstOf?_eq (content : Json.Content) :
    firstOf? content = content.toJson?.map (ofKind content.isNested) := by
  cases content with
  | null | bool _ | text _ => rfl
  | number n =>
      change firstOf? (.number n) = some (ofNumeral n)
      rw [ofNumeral]
      cases fits : n.toInt64? with
      | some i => simp only [firstOf?, List.findSome?_cons, nullOf?, boolOf?, intOf?, fits,
          Option.map_some]
      | none => simp only [firstOf?, List.findSome?_cons, nullOf?, boolOf?, intOf?, floatOf?, fits,
          Option.map_none]
  | list items =>
      change [jsonOf?].findSome? (fun kind => kind (.list items)) = _
      rw [List.findSome?_singleton]
      rfl
  | object fields =>
      change [jsonOf?].findSome? (fun kind => kind (.object fields)) = _
      rw [List.findSome?_singleton]
      rfl

/-- The reader that fails gives what the tree is read as, and nothing where it is not read. -/
theorem read?_of_parse? {s : String} {tree : Json.Tree} (parsed : Json.Tree.parse? s = some tree) :
    read? s = (Json.Tree.toJson? Json.parse? Json.maxDepth tree).map (ofKind tree.isNested) := by
  rw [read?, Json.Content.parse?, parsed, Option.bind_some, Json.toJson?_eq_bind]
  cases kept : Json.Tree.content? Json.maxDepth tree with
  | none => rfl
  | some content =>
      rw [Option.bind_some, Option.bind_some, firstOf?_eq, Json.isNested_content kept]

theorem exists_of_read? {s : String} {v : Value} (read : read? s = some v) :
    ∃ tree document, Json.Spells s.toList tree ∧ tree.Reads Json.maxDepth document
      ∧ v = ofKind tree.isNested document := by
  cases parsed : Json.Tree.parse? s with
  | none =>
      rw [read?, Json.Content.parse?, parsed] at read
      cases read
  | some tree =>
      rw [read?_of_parse? parsed] at read
      rcases Option.map_eq_some_iff.mp read with ⟨document, made, rfl⟩
      exact ⟨tree, document, Json.parse?_eq_some_iff.mp parsed,
        Json.Tree.toJson?_eq_some_iff.mp made, rfl⟩

theorem parseLoose_of_reads {s : String} {tree : Json.Tree} {document : Json}
    (spelled : Json.Spells s.toList tree) (reads : tree.Reads Json.maxDepth document) :
    parseLoose s = ofScalar document := by
  rw [parseLoose, Json.parse?_eq_some_iff_reads.mpr ⟨tree, spelled, reads⟩]

theorem parseLoose_of_read?_eq_none {s : String} (fails : read? s = none) :
    parseLoose s = .text s := by
  rw [parseLoose]
  split
  · rename_i document parsed
    rcases Json.parse?_eq_some_iff_reads.mp parsed with ⟨tree, spelled, reads⟩
    rw [read?_of_parse? spelled.parse?, reads.toJson?] at fails
    cases fails
  · rfl

theorem plain_ofScalar (document : Json) : (ofScalar document).plain = ofScalar document := by
  cases document with
  | null | bool _ | text _ | list _ | object _ => rfl
  | number n =>
      rw [ofScalar, ofNumeral]
      cases n.toInt64? with
      | none => rfl
      | some _ => rfl

theorem plain_json (document : Json) : (json document).plain = ofScalar document := by
  have finite : IsFinite (.json document) := nofun
  exact (ofScalar_toJson finite).symm

theorem plain_ofKind (nested : Bool) (document : Json) :
    (ofKind nested document).plain = ofScalar document := by
  cases nested with
  | true => exact plain_json document
  | false => exact plain_ofScalar document

theorem ofScalar_eq_json_iff (document : Json) :
    ofScalar document = .json document ↔ document.isNested = true := by
  have differs : ∀ {v : Value}, v ≠ .json document -> document.isNested = false ->
      (v = .json document ↔ document.isNested = true) := by
    intro v other plain
    rw [plain]
    exact iff_of_false other Bool.false_ne_true
  cases document with
  | list _ | object _ => exact iff_of_true rfl rfl
  | null | bool _ | text _ =>
      apply differs
      · intro same
        cases same
      · rfl
  | number n =>
      rw [ofScalar, ofNumeral]
      cases n.toInt64? with
      | none | some _ =>
          apply differs
          · intro same
            cases same
          · rfl

/-- The value of a tree is the one that its document shows, unless a scalar is carried. -/
theorem ofScalar_eq_ofKind_iff {levels : Nat} {tree : Json.Tree} {document : Json}
    (reads : tree.Reads levels document) :
    ofScalar document = ofKind tree.isNested document ↔ ¬ tree.CarriesScalar := by
  cases nested : tree.isNested with
  | false =>
      refine iff_of_true rfl ?_
      intro carries
      rw [carries.isNested] at nested
      cases nested
  | true =>
      change ofScalar document = .json document ↔ _
      rw [ofScalar_eq_json_iff, ← Bool.not_eq_false, reads.isNested_eq_false_iff, nested]
      simp

/-! ## By the kind of the text -/

theorem read?_number {number : Json.NumberText} {s : String}
    (padded : Json.Padded number.chars s.toList) :
    read? s = number.literal.value?.map ofNumeral := by
  rw [read?_of_parse? (Json.Spells.padded (.number number) padded).parse?, Json.Tree.toJson?,
    Option.map_map]
  rfl

/-- An integer of 64 bits with a sign is read as itself. -/
theorem read?_integer {number : Json.NumberText} {s : String}
    (padded : Json.Padded number.chars s.toList) {n : Int64}
    (written : number.integer? = some n.toInt) : read? s = some (.int n) := by
  have low := n.le_toInt
  have high : n.toInt < 9223372036854775808 := n.toInt_lt
  rw [read?_number padded, number.value?_literal written (Json.inRange_toInt n), Option.map_some,
    ofNumeral_whole, if_pos high, Int64.ofInt_toInt]

/-- Any other number is read as a double, if it is read. -/
theorem exists_float_of_read? {number : Json.NumberText} {s : String}
    (padded : Json.Padded number.chars s.toList)
    (other : ∀ n : Int64, number.integer? ≠ some n.toInt) {v : Value} (read : read? s = some v) :
    ∃ x, v = .float x := by
  rw [read?_number padded] at read
  obtain ⟨value, given, rfl⟩ := Option.map_eq_some_iff.mp read
  cases value with
  | float x finite => exact ⟨x, rfl⟩
  | whole n inRange =>
      have great : ¬ n < 9223372036854775808 := by
        intro small
        refine other (Int64.ofInt n) ?_
        rw [Int64.toInt_ofInt_of_le inRange.1 small]
        exact number.integer?_of_value? given
      rw [ofNumeral_whole, if_neg great]
      exact ⟨_, rfl⟩

/-- A string is read as what is written in it. -/
theorem read?_string {inside content : List Char} {s : String}
    (writes : Json.Writes inside content)
    (padded : Json.Padded ('"' :: (inside ++ ['"'])) s.toList) :
    read? s = some (.text (String.ofList content)) :=
  read?_of_parse? (Json.Spells.padded (.string (.whole writes)) padded).parse?

/-- A list or an object is read as the document that it means, if it is read. -/
theorem exists_json_of_read? {s : String} {tree : Json.Tree} (spelled : Json.Spells s.toList tree)
    (nested : tree.isNested = true) {v : Value} (read : read? s = some v) :
    ∃ document, v = .json document ∧ tree.Means document := by
  rcases exists_of_read? read with ⟨other, document, written, reads, rfl⟩
  rw [written.unique spelled] at reads ⊢
  rw [nested]
  exact ⟨document, rfl, reads.means⟩

/-- The two readers agree, unless the text is an object that carries the text of a scalar.  Where
the one that may fail has a value the other one has the plain value of it, which is the same except
for such an object, and where it fails the other one gives the text as it stands.  Blanks may stand
around what is read: the digits of an integer of 64 bits with a sign, zero behind a minus sign left
out, give the integer, and every other number that is read gives a double; a string gives what is
written in it; a list or an object that is read gives the document it means, in which each key
stands where it came up first and has the value that came last. -/
theorem readers_agree (s : String) :
    (∀ v, read? s = some v -> parseLoose s = v.plain
      ∧ (parseLoose s = v ↔ ∀ tree, Json.Spells s.toList tree -> ¬ tree.CarriesScalar))
    ∧ (read? s = none -> parseLoose s = .text s)
    ∧ (∀ number : Json.NumberText, Json.Padded number.chars s.toList ->
        (∀ n : Int64, number.integer? = some n.toInt ->
          read? s = some (.int n) ∧ parseLoose s = .int n)
        ∧ ((∀ n : Int64, number.integer? ≠ some n.toInt) ->
          ∀ v, read? s = some v -> ∃ x, v = .float x ∧ parseLoose s = .float x))
    ∧ (∀ inside content, Json.Writes inside content ->
        Json.Padded ('"' :: (inside ++ ['"'])) s.toList ->
        read? s = some (.text (String.ofList content))
        ∧ parseLoose s = .text (String.ofList content))
    ∧ (∀ tree, Json.Spells s.toList tree -> tree.isNested = true -> ∀ v, read? s = some v ->
        ∃ document, v = .json document ∧ tree.Means document
          ∧ (¬ tree.CarriesScalar -> parseLoose s = .json document)) := by
  have plain : ∀ v, read? s = some v -> parseLoose s = v.plain := by
    intro v read
    rcases exists_of_read? read with ⟨tree, document, spelled, reads, rfl⟩
    rw [parseLoose_of_reads spelled reads, plain_ofKind]
  have same : ∀ v, read? s = some v ->
      (parseLoose s = v ↔ ∀ tree, Json.Spells s.toList tree -> ¬ tree.CarriesScalar) := by
    intro v read
    rcases exists_of_read? read with ⟨tree, document, spelled, reads, rfl⟩
    rw [parseLoose_of_reads spelled reads, ofScalar_eq_ofKind_iff reads]
    constructor
    · intro noScalar other also
      rwa [also.unique spelled]
    · exact fun noScalar => noScalar tree spelled
  refine ⟨fun v read => ⟨plain v read, same v read⟩, parseLoose_of_read?_eq_none, ?_, ?_, ?_⟩
  · intro number padded
    constructor
    · intro n written
      have read := read?_integer padded written
      exact ⟨read, plain _ read⟩
    · intro other v read
      obtain ⟨x, rfl⟩ := exists_float_of_read? padded other read
      exact ⟨x, rfl, plain _ read⟩
  · intro inside content writes padded
    have read := read?_string writes padded
    exact ⟨read, plain _ read⟩
  · intro tree spelled nested v read
    rcases exists_json_of_read? spelled nested read with ⟨document, rfl, means⟩
    refine ⟨document, rfl, means, ?_⟩
    intro noScalar
    apply (same _ read).mpr
    intro other also
    rwa [also.unique spelled]

/-- Two digits behind a minus sign. -/
def minusTwelve : Json.NumberText where
  negative := true
  front := ['1', '2']
  behind := none
  exponent := none
  isFront := ⟨by decide, List.all_eq_true.mp rfl, by decide⟩

/-- Zero behind a minus sign. -/
def minusZero : Json.NumberText where
  negative := true
  front := ['0']
  behind := none
  exponent := none
  isFront := ⟨by decide, List.all_eq_true.mp rfl, by decide⟩

/-- A name with an escaped letter and an escaped pair. -/
def escapedName : List Char :=
  ['G', '\\', 'u', '0', '0', 'e', '9', '\\', 'u', 'D', '8', '3', 'D', '\\', 'u', 'D', 'E', '8', '0']

theorem writes_escapedName : Json.Writes escapedName ['G', 'é', '🚀'] := by
  have high : Bytes.Hex.natFrom? 0 ['D', '8', '3', 'D'] = some 0xD83D := by decide
  have low : Bytes.Hex.natFrom? 0 ['D', 'E', '8', '0'] = some 0xDE80 := by decide
  exact .plain (by decide) (by decide) (by decide) (.unit (by decide)
    (.pair high low (by decide) (by decide) (by decide) .nil))

/-- An object that was written with a key twice. -/
def gates : Json :=
  .object [("gate", .null), ("stand", .text "B2")]

theorem readers_agree_on_gates :
    (read? " -12\n" = some (.int (-12)) ∧ parseLoose " -12\n" = .int (-12))
    ∧ (∃ x, read? "-0" = some (.float x) ∧ parseLoose "-0" = .float x)
    ∧ parseLoose "\t\"G\\u00e9\\uD83D\\uDE80\"" = .text "Gé🚀"
    ∧ (parseLoose "\x7b\"gate\": 1, \"stand\": \"B2\", \"gate\": null\x7d" = .json gates
      ∧ ∃ tree, Json.Spells
          "\x7b\"gate\": 1, \"stand\": \"B2\", \"gate\": null\x7d".toList tree ∧ tree.Means gates)
    ∧ (read? carrierOfOne.compact = some (.json (Json.ofInt64 1))
      ∧ parseLoose carrierOfOne.compact = .int 1)
    ∧ parseLoose "LAX" = .text "LAX" := by
  refine ⟨?integer, ?zero, ?string, ?object, ?carrier, ?other⟩
  case integer =>
    have padded : Json.Padded minusTwelve.chars " -12\n".toList :=
      ⟨[' '], ['\n'], List.all_eq_true.mp rfl, List.all_eq_true.mp rfl, by decide⟩
    exact ((readers_agree _).2.2.1 minusTwelve padded).1 (-12) (by decide)
  case zero =>
    have padded : Json.Padded minusZero.chars "-0".toList :=
      ⟨[], [], nofun, nofun, by decide⟩
    have noInteger : minusZero.integer? = none := by decide
    have accepted : (read? "-0").isSome = true := by decide +kernel
    obtain ⟨v, read⟩ := Option.isSome_iff_exists.mp accepted
    have other : ∀ n : Int64, minusZero.integer? ≠ some n.toInt := by
      rw [noInteger]
      nofun
    obtain ⟨x, rfl, loose⟩ := ((readers_agree _).2.2.1 minusZero padded).2 other v read
    exact ⟨x, read, loose⟩
  case string =>
    have padded : Json.Padded ('"' :: (escapedName ++ ['"']))
        "\t\"G\\u00e9\\uD83D\\uDE80\"".toList :=
      ⟨['\t'], [], List.all_eq_true.mp rfl, nofun, by decide⟩
    exact ((readers_agree _).2.2.2.1 _ _ writes_escapedName padded).2
  case object =>
    have written : (Json.Tree.parse?
        "\x7b\"gate\": 1, \"stand\": \"B2\", \"gate\": null\x7d").any Json.Tree.isNested
        = true := by decide +kernel
    have read : read? "\x7b\"gate\": 1, \"stand\": \"B2\", \"gate\": null\x7d"
        = some (.json gates) := by decide +kernel
    obtain ⟨tree, parsed, nested⟩ := (Option.any_eq_true _ _).mp written
    have spelled := Json.parse?_eq_some_iff.mp parsed
    have loose : parseLoose "\x7b\"gate\": 1, \"stand\": \"B2\", \"gate\": null\x7d"
        = .json gates := by decide +kernel
    have noScalar := ((readers_agree _).1 _ read).2.mp loose tree spelled
    rcases (readers_agree _).2.2.2.2 tree spelled nested _ read with ⟨document, same, means, given⟩
    cases same
    exact ⟨given noScalar, tree, spelled, means⟩
  case carrier =>
    have read : read? carrierOfOne.compact = some (.json (Json.ofInt64 1)) := by decide +kernel
    exact ⟨read, ((readers_agree _).1 _ read).1⟩
  case other =>
    have fails : read? "LAX" = none := by decide +kernel
    exact (readers_agree _).2.1 fails

/-- The two readers differ on an object that carries the text of a number. -/
theorem not_forall_readers_agree :
    ¬ ∀ s v, read? s = some v -> parseLoose s = v := by
  intro agree
  have read : read? carrierOfOne.compact = some (.json (Json.ofInt64 1)) := by decide +kernel
  have loose : parseLoose carrierOfOne.compact = .int 1 := by decide +kernel
  have same := agree _ _ read
  rw [loose] at same
  cases same

end Value
end SqlGate
