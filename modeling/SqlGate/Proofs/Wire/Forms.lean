import SqlGate.Proofs.Bytes.Numbers
import SqlGate.Proofs.Calendar.Moments
import SqlGate.Proofs.Wire.Decimals
import SqlGate.Proofs.Wire.LostCells

namespace SqlGate
namespace Wire

/-!
# The two forms of a value

A value is sent as a text or in a binary form.  This module says what is sent
for every value of a type that has a decoder, and for which values the document
that is shown does not depend on the form.  Decimals are never among them.  All
others are, but for the days whose text the readers of the calendar do not
understand and for the end of a day.
-/

/-! ## Values -/

/-- A width of whole numbers. -/
inductive Width where
  | small
  | regular
  | big

namespace Width

def bytes : Width -> Nat
  | .small => 2
  | .regular => 4
  | .big => 8

def number : Width -> Nat
  | .small => 21
  | .regular => 23
  | .big => 20

end Width

/-- A value as a server holds it.  Dates and moments that are infinite, and those of years that the
calendar here does not reach, are left out, and so are doubles. -/
inductive Stored where
  | truth (value : Bool)
  | whole (width : Width) (n : Int) (fits : hasWidth (8 * width.bytes) n = true)
  | decimal (value : Decimal)
  | text (number : Nat) (isText : ColumnType.ofNumber number = .text) (value : String)
  | bytes (value : List UInt8)
  /-- A document; the server takes it apart, or keeps it as a text. -/
  | document (takenApart : Bool) (written : String)
  | identifier (value : List UInt8) (sixteen : value.length = 16)
  | date (value : Calendar.Date) (isDay : value.IsDay)
  /-- A time of a day, in microseconds after midnight. -/
  | time (micros : Nat) (inDay : micros ≤ 86400000000)
  /-- A moment, meant in a place or all over the world. -/
  | moment (universal : Bool) (day : Calendar.Date) (isDay : day.IsDay) (micros : Nat)
      (inDay : micros < 86400000000)

namespace Stored

def number : Stored -> Nat
  | .truth _ => 16
  | .whole width _ _ => width.number
  | .decimal _ => 1700
  | .text number _ _ => number
  | .bytes _ => 17
  | .document takenApart _ => if takenApart then 3802 else 114
  | .identifier _ _ => 2950
  | .date _ _ => 1082
  | .time _ _ => 1083
  | .moment universal _ _ _ _ => if universal then 1184 else 1114

def category : Stored -> TypeCategory
  | .truth _ => .boolean
  | .whole _ _ _ => .integer
  | .decimal _ => .decimal
  | .text number _ _ => TypeCategory.ofName (typeName number) .postgres
  | .bytes _ => .binary
  | .document _ _ => .json
  | .identifier _ _ => .uuid
  | .date _ _ => .date
  | .time _ _ => .time
  | .moment _ _ _ _ _ => .timestamp

def type : Stored -> ColumnType
  | .truth _ => .bool
  | .whole width _ _ => .int (8 * width.bytes)
  | .decimal _ => .other
  | .text _ _ _ => .text
  | .bytes _ => .bytes
  | .document takenApart _ => if takenApart then .jsonb else .json
  | .identifier _ _ => .uuid
  | .date _ _ => .date
  | .time _ _ => .time
  | .moment universal _ _ _ _ => if universal then .timestampTz else .timestamp

def written : Stored -> String
  | .truth value => if value then "t" else "f"
  | .whole _ n _ => Text.ofInt n
  | .decimal value => String.ofList value.written
  | .text _ _ value => value
  | .bytes value => String.ofList ('\\' :: 'x' :: value.flatMap Bytes.Hex.lowerPair)
  | .document _ written => written
  | .identifier value _ => identifierText value
  | .date value _ => String.ofList (value.written ++ value.mark)
  | .time micros _ => String.ofList (Calendar.writtenTime micros)
  | .moment universal day _ micros _ =>
      String.ofList (Calendar.Moment.written day micros
        ++ ((if universal then ['+', '0', '0'] else []) ++ day.mark))

def binary : Stored -> List UInt8
  | .truth value => [if value then 1 else 0]
  | .whole width n _ => Bytes.complement width.bytes n
  | .decimal value => value.bytes
  | .text _ _ value => Bytes.ofText value
  | .bytes value => value
  | .document takenApart written => (if takenApart then [1] else []) ++ Bytes.ofText written
  | .identifier value _ => value
  | .date value _ => Bytes.complement 4 value.toDay
  | .time micros _ => Bytes.complement 8 micros
  | .moment _ day _ micros _ =>
      Bytes.complement 8 (day.toDay * Calendar.TimeOfDay.microsPerDay + micros)

def sent (value : Stored) : Form -> List UInt8
  | .text => Bytes.ofText value.written
  | .binary => value.binary

def shown (value : Stored) (form : Form) : Json :=
  decodeCell (typeName value.number) (.ofNumber value.number) form (some (value.sent form))

/-- Whether a value is shown alike in both forms. -/
def isAlike : Stored -> Bool
  | .decimal _ => false
  | .date value _ => value.isPlain
  | .time micros _ => micros < 86400000000
  | .moment _ day _ _ _ => day.isPlain
  | _ => true

end Stored

/-! ## What a cell is shown as -/

theorem decodeCell_of_some {name : String} {type : ColumnType} {form : Form} {bytes : List UInt8}
    {document : Json}
    (decoded : decodeAs? (TypeCategory.ofName name .postgres) type form bytes = some document)
    (given : document ≠ .null) : decodeCell name type form (some bytes) = document := by
  rw [decodeCell, decoded, Option.getD_some, if_neg (fun both => given both.1)]

theorem decodeCell_of_none {name : String} {type : ColumnType} {form : Form} {bytes : List UInt8}
    (noDocuments : TypeCategory.ofName name .postgres ≠ .json)
    (decoded : decodeAs? (TypeCategory.ofName name .postgres) type form bytes = none) :
    decodeCell name type form (some bytes) = rawDocument bytes := by
  rw [decodeCell, decoded, Option.getD_none, if_pos ⟨rfl, noDocuments⟩]

theorem ofInt64_ne_null (n : Int64) : Json.ofInt64 n ≠ .null := fun same => nomatch same

theorem rawDocument_ofText (s : String) : rawDocument (Bytes.ofText s) = .text s := by
  rw [rawDocument, Bytes.toText?_ofText, Option.getD_some]

/-! ## Whole numbers -/

theorem hasWidth_iff {width : Nat} {n : Int} :
    hasWidth width n = true ↔ n < (2 ^ (width - 1) : Nat) ∧ -(2 ^ (width - 1) : Nat) ≤ n := by
  rw [hasWidth, Bool.and_eq_true, decide_eq_true_eq, decide_eq_true_eq]
  rfl

/-- The binary form of a number of so many bytes is read back. -/
theorem integer?_complement {count : Nat} {n : Int} (given : 1 ≤ count) (few : count ≤ 8)
    (fits : hasWidth (8 * count) n = true) :
    integer? (8 * count) .binary (Bytes.complement count n) = some n := by
  have range : 256 ^ count = 2 * 2 ^ (8 * count - 1) := by
    have bits : 8 * count = 8 * count - 1 + 1 := by omega
    calc 256 ^ count = (2 ^ 8) ^ count := rfl
      _ = 2 ^ (8 * count) := (Nat.pow_mul _ _ _).symm
      _ = 2 * 2 ^ (8 * count - 1) := by rw [bits, Nat.pow_succ', Nat.add_sub_cancel]
  have bounds := hasWidth_iff.mp fits
  have read : Bytes.toIntBigEndian (Bytes.complement count n) = n :=
    Bytes.toIntBigEndian_complement (by omega) (by omega)
  rw [integer?]
  simp only [Bytes.length_complement, decide_eq_true given, decide_eq_true few, read]
  exact Option.filter_some_pos fits

/-- The text of a number of 64 bits is read back. -/
theorem integer?_ofInt {width : Nat} {n : Int} (few : width ≤ 64) (fits : hasWidth width n = true) :
    integer? width .text (Bytes.ofText (Text.ofInt n)) = some n := by
  have bounds := hasWidth_iff.mp fits
  have wider : 2 ^ (width - 1) ≤ 2 ^ 63 := Nat.pow_le_pow_right (by decide) (by omega)
  have read : Text.signed? 64 (Text.ofInt n) = some n := by
    apply Text.signed?_ofInt
    · change -((2 ^ 63 : Nat) : Int) ≤ n
      omega
    · change n < ((2 ^ 63 : Nat) : Int)
      omega
  rw [integer?]
  simp only [Bytes.toText?_ofText, Option.bind_some, read]
  exact Option.filter_some_pos fits

/-! ## Bytes -/

theorem binary?_written (value : List UInt8) :
    binary? .text (Bytes.ofText (Stored.bytes value).written) = some value := by
  rw [Stored.written, binary?, Bytes.toText?_ofText, Option.map_some, String.toList_ofList]
  exact Bytes.Hex.decode?_lowerPairs value

theorem toList_identifierText (value : List UInt8) :
    (identifierText value).toList
      = (value.take 4).flatMap Bytes.Hex.lowerPair ++ '-' ::
        (((value.drop 4).take 2).flatMap Bytes.Hex.lowerPair ++ '-' ::
        (((value.drop 6).take 2).flatMap Bytes.Hex.lowerPair ++ '-' ::
        (((value.drop 8).take 2).flatMap Bytes.Hex.lowerPair ++ '-' ::
        ((value.drop 10).take 6).flatMap Bytes.Hex.lowerPair))) := by
  rw [identifierText, String.toList_intercalate]
  simp [Bytes.Hex.encode, List.intercalate]

theorem identifierDigits?_identifierText {value : List UInt8} (sixteen : value.length = 16) :
    identifierDigits? (identifierText value).toList
      = some (value.flatMap Bytes.Hex.lowerPair) := by
  rw [toList_identifierText]
  match value, sixteen with
  | [_, _, _, _, _, _, _, _, _, _, _, _, _, _, _, _], _ => rfl

theorem identifier?_written {value : List UInt8} (sixteen : value.length = 16) :
    identifier? .text (Bytes.ofText (identifierText value)) = some value := by
  rw [identifier?, Bytes.toText?_ofText, Option.bind_some,
    identifierDigits?_identifierText sixteen, Option.bind_some, Bytes.Hex.decode?_lowerPairs]
  exact Option.filter_some_pos (beq_iff_eq.mpr sixteen)

/-! ## Days and times -/

theorem date?_binary {value : Calendar.Date} (isDay : value.IsDay) :
    date? .binary (Bytes.complement 4 value.toDay) = some value := by
  have bounds := Calendar.Date.toDay_bounds isDay
  have fits : hasWidth (8 * 4) value.toDay = true := by
    rw [hasWidth_iff]
    constructor
    · change value.toDay < ((2147483648 : Nat) : Int)
      omega
    · change -((2147483648 : Nat) : Int) ≤ value.toDay
      omega
  have read : integer? 32 .binary (Bytes.complement 4 value.toDay) = some value.toDay :=
    integer?_complement (by decide) (by decide) fits
  rw [date?, read, Option.map_some, Calendar.Date.ofDay_toDay isDay]
  exact Option.filter_some_pos isDay.known

/-- The binary form of a number of microseconds that is not too far from the epoch is read back. -/
theorem integer?_micros {micros : Int} (low : -9000000000000000000 ≤ micros)
    (high : micros ≤ 9000000000000000000) :
    integer? 64 .binary (Bytes.complement 8 micros) = some micros := by
  have fits : hasWidth (8 * 8) micros = true := by
    rw [hasWidth_iff]
    constructor
    · change micros < ((9223372036854775808 : Nat) : Int)
      omega
    · change -((9223372036854775808 : Nat) : Int) ≤ micros
      omega
  exact integer?_complement (by decide) (by decide) fits

theorem time?_binary {micros : Nat} (inDay : micros ≤ 86400000000) :
    time? .binary (Bytes.complement 8 micros) = some (Calendar.TimeOfDay.ofMicros micros) := by
  rw [time?, integer?_micros (by omega) (by omega)]
  rfl

theorem moment?_binary (read : String -> Option Calendar.Moment) {day : Calendar.Date}
    (isDay : day.IsDay) {micros : Nat} (inDay : micros < 86400000000) :
    moment? read .binary
        (Bytes.complement 8 (day.toDay * Calendar.TimeOfDay.microsPerDay + micros))
      = some (Calendar.Moment.ofParts day micros) := by
  have bounds := Calendar.Date.toDay_bounds isDay
  have whole : (day.toDay * Calendar.TimeOfDay.microsPerDay + micros)
      / Calendar.TimeOfDay.microsPerDay = day.toDay := by
    unfold Calendar.TimeOfDay.microsPerDay
    omega
  have number : integer? 64 .binary
      (Bytes.complement 8 (day.toDay * Calendar.TimeOfDay.microsPerDay + micros))
        = some (day.toDay * Calendar.TimeOfDay.microsPerDay + micros) := by
    apply integer?_micros
    · unfold Calendar.TimeOfDay.microsPerDay
      omega
    · unfold Calendar.TimeOfDay.microsPerDay
      omega
  rw [moment?, number, Option.bind_some, Calendar.Moment.ofMicros?, whole,
    Calendar.Date.ofDay_toDay isDay, if_pos isDay.known, Calendar.Moment.ofParts,
    Calendar.TimeOfDay.ofMicros_add _ inDay, Calendar.TimeOfDay.ofMicros_eq inDay]

/-! ## What is shown -/

namespace Stored

/-- The numbers of types with the categories of their names and their decoders. -/
def decodedTypes : List (Nat × TypeCategory × ColumnType) :=
  [(16, .boolean, .bool), (21, .integer, .int 16), (23, .integer, .int 32),
    (20, .integer, .int 64), (1700, .decimal, .other), (17, .binary, .bytes), (114, .json, .json),
    (3802, .json, .jsonb), (2950, .uuid, .uuid), (1082, .date, .date), (1083, .time, .time),
    (1114, .timestamp, .timestamp), (1184, .timestamp, .timestampTz)]

theorem ofName_decodedTypes : ∀ entry ∈ decodedTypes,
    TypeCategory.ofName (typeName entry.1) .postgres = entry.2.1
      ∧ ColumnType.ofNumber entry.1 = entry.2.2 := by
  decide

theorem ofName_number (value : Stored) :
    TypeCategory.ofName (typeName value.number) .postgres = value.category
      ∧ ColumnType.ofNumber value.number = value.type := by
  cases value with
  | truth _ => exact ofName_decodedTypes (16, .boolean, .bool) (by decide)
  | whole width _ _ =>
      cases width with
      | small => exact ofName_decodedTypes (21, .integer, .int 16) (by decide)
      | regular => exact ofName_decodedTypes (23, .integer, .int 32) (by decide)
      | big => exact ofName_decodedTypes (20, .integer, .int 64) (by decide)
  | decimal _ => exact ofName_decodedTypes (1700, .decimal, .other) (by decide)
  | text number isText _ => exact ⟨rfl, isText⟩
  | bytes _ => exact ofName_decodedTypes (17, .binary, .bytes) (by decide)
  | document takenApart _ =>
      cases takenApart with
      | false => exact ofName_decodedTypes (114, .json, .json) (by decide)
      | true => exact ofName_decodedTypes (3802, .json, .jsonb) (by decide)
  | identifier _ _ => exact ofName_decodedTypes (2950, .uuid, .uuid) (by decide)
  | date _ _ => exact ofName_decodedTypes (1082, .date, .date) (by decide)
  | time _ _ => exact ofName_decodedTypes (1083, .time, .time) (by decide)
  | moment universal _ _ _ _ =>
      cases universal with
      | false => exact ofName_decodedTypes (1114, .timestamp, .timestamp) (by decide)
      | true => exact ofName_decodedTypes (1184, .timestamp, .timestampTz) (by decide)

theorem shown_of_some {value : Stored} {form : Form} {document : Json}
    (decoded : decodeAs? value.category value.type form (value.sent form) = some document)
    (given : document ≠ .null) : value.shown form = document := by
  rw [← (ofName_number value).1, ← (ofName_number value).2] at decoded
  exact decodeCell_of_some decoded given

/-- A text that no decoder reads is shown as it is. -/
theorem shown_of_none {value : Stored} (noDocuments : value.category ≠ .json)
    (decoded : decodeAs? value.category value.type .text (Bytes.ofText value.written) = none) :
    value.shown .text = .text value.written := by
  rw [← (ofName_number value).1] at noDocuments
  rw [← (ofName_number value).1, ← (ofName_number value).2] at decoded
  rw [← rawDocument_ofText]
  exact decodeCell_of_none noDocuments decoded

theorem shown_truth (value : Bool) (form : Form) : (truth value).shown form = .bool value := by
  have noNull : Json.bool value ≠ .null := fun same => nomatch same
  have read : truth? form ((truth value).sent form) = some value := by
    cases form with
    | text =>
        rw [sent, written, truth?, Bytes.toText?_ofText]
        cases value with
        | false => rfl
        | true => rfl
    | binary =>
        cases value with
        | false => rfl
        | true => rfl
  apply shown_of_some
  · rw [category, type, decodeAs?, read]
    rfl
  · exact noNull

theorem shown_whole {width : Width} {n : Int} {fits} (form : Form) :
    (whole width n fits).shown form = Json.ofInt64 (Int64.ofInt n) := by
  have few : width.bytes ≤ 8 := by cases width <;> decide
  have given : 1 ≤ width.bytes := by cases width <;> decide
  have read : integer? (8 * width.bytes) form ((whole width n fits).sent form) = some n := by
    cases form with
    | text =>
        rw [sent, written]
        exact integer?_ofInt (by omega) fits
    | binary =>
        rw [sent, binary]
        exact integer?_complement given few fits
  apply shown_of_some
  · rw [category, type, decodeAs?, read]
    rfl
  · exact ofInt64_ne_null _

theorem shown_decimal (value : Decimal) (form : Form) :
    (decimal value).shown form = rawDocument ((decimal value).sent form) := by
  rcases ofName_number (decimal value) with ⟨named, numbered⟩
  rw [shown, numbered]
  apply decodeCell_other
  rw [named]
  exact fun same => nomatch same

/-- A decimal is not shown alike. -/
theorem shown_decimal_ne (value : Decimal) :
    (decimal value).shown .text ≠ (decimal value).shown .binary := by
  rw [shown_decimal, shown_decimal, sent, written, rawDocument_ofText]
  exact (Decimal.rawDocument_bytes_ne value).symm

theorem decodeAs?_text (category : TypeCategory) (bytes : List UInt8) :
    decodeAs? category .text .text bytes = decodeAs? category .text .binary bytes := by
  cases category <;> rfl

theorem shown_text (number : Nat) (isText : ColumnType.ofNumber number = .text) (value : String) :
    (text number isText value).shown .text = (text number isText value).shown .binary := by
  rcases ofName_number (text number isText value) with ⟨-, numbered⟩
  rw [shown, shown, numbered, sent, sent, written, binary, type, decodeCell, decodeCell,
    decodeAs?_text]

theorem shown_bytes (value : List UInt8) (form : Form) :
    (bytes value).shown form = .text (Bytes.base64 value) := by
  have read : binary? form ((bytes value).sent form) = some value := by
    cases form with
    | text => exact binary?_written value
    | binary => rfl
  apply shown_of_some
  · rw [category, type, decodeAs?, read]
    rfl
  · exact Json.text_ne_null _

theorem sentTree?_document (takenApart : Bool) (written : String) :
    sentTree? (document takenApart written).type .text ((document takenApart written).sent .text)
      = sentTree? (document takenApart written).type .binary
        ((document takenApart written).sent .binary) := by
  cases takenApart with
  | false => rfl
  | true => rfl

/-- A document is shown alike, whether or not it can be read. -/
theorem shown_document (takenApart : Bool) (written : String) :
    (document takenApart written).shown .text = (document takenApart written).shown .binary := by
  rcases ofName_number (document takenApart written) with ⟨named, numbered⟩
  have documents := (ofName_eq_json_iff _).mp named
  rw [shown, shown, numbered, decodeCell_of_isDocumentName documents,
    decodeCell_of_isDocumentName documents, sentTree?_document]

theorem shown_identifier {value : List UInt8} (sixteen : value.length = 16) (form : Form) :
    (identifier value sixteen).shown form = .text (identifierText value) := by
  have read : identifier? form ((identifier value sixteen).sent form) = some value := by
    cases form with
    | text => rw [sent, written, identifier?_written sixteen]
    | binary =>
        rw [sent, binary, identifier?]
        simp [sixteen]
  apply shown_of_some
  · rw [category, type, decodeAs?, read]
    rfl
  · exact Json.text_ne_null _

/-- A value whose binary form is read is shown alike exactly under a condition, if its text is
read to the same under it, and is otherwise not read and not what is shown. -/
theorem shown_eq_iff_of_read {value : Stored} (condition : Bool) {display : String}
    (noDocuments : value.category ≠ .json)
    (binary : decodeAs? value.category value.type .binary (value.sent .binary)
      = some (.text display))
    (read : condition = true ->
      decodeAs? value.category value.type .text (Bytes.ofText value.written)
        = some (.text display))
    (unread : condition = false ->
      decodeAs? value.category value.type .text (Bytes.ofText value.written) = none)
    (differs : condition = false -> value.written ≠ display) :
    value.shown .text = value.shown .binary ↔ condition = true := by
  rw [shown_of_some binary (Json.text_ne_null display)]
  cases condition with
  | true => exact iff_of_true (shown_of_some (read rfl) (Json.text_ne_null display)) rfl
  | false =>
      rw [shown_of_none noDocuments (unread rfl)]
      exact iff_of_false (fun same => differs rfl (Json.text.inj same)) Bool.false_ne_true

theorem shown_date {value : Calendar.Date} (isDay : value.IsDay) :
    (date value isDay).shown .text = (date value isDay).shown .binary
      ↔ value.isPlain = true := by
  apply shown_eq_iff_of_read value.isPlain
  · exact fun same => nomatch same
  · rw [category, type, decodeAs?, sent, binary, date?_binary isDay]
    rfl
  · intro plain
    rw [category, type, decodeAs?, date?, Bytes.toText?_ofText, written, Option.bind_some,
      Calendar.Date.read?_written isDay plain]
    rfl
  · intro noPlain
    rw [category, type, decodeAs?, date?, Bytes.toText?_ofText, written, Option.bind_some,
      Calendar.Date.read?_written_of_not_isPlain isDay noPlain]
    rfl
  · exact Calendar.Date.written_ne_display

theorem shown_time {micros : Nat} (inDay : micros ≤ 86400000000) :
    (time micros inDay).shown .text = (time micros inDay).shown .binary
      ↔ decide (micros < 86400000000) = true := by
  have last : decide (micros < 86400000000) = false -> micros = 86400000000 := by
    intro late
    have := of_decide_eq_false late
    omega
  apply shown_eq_iff_of_read (decide (micros < 86400000000))
  · exact fun same => nomatch same
  · rw [category, type, decodeAs?, sent, binary, time?_binary inDay]
    rfl
  · intro early
    rw [category, type, decodeAs?, time?, Bytes.toText?_ofText, written, Option.bind_some,
      Calendar.TimeOfDay.read?_written (of_decide_eq_true early)]
    rfl
  · intro late
    rw [category, type, decodeAs?, time?, Bytes.toText?_ofText, written, Option.bind_some,
      last late, Calendar.TimeOfDay.read?_endOfDay]
    rfl
  · intro late
    rw [written, last late]
    decide

theorem shown_moment (universal : Bool) {day : Calendar.Date} (isDay : day.IsDay)
    {micros : Nat} (inDay : micros < 86400000000) :
    (moment universal day isDay micros inDay).shown .text
        = (moment universal day isDay micros inDay).shown .binary
      ↔ day.isPlain = true := by
  have noDocuments : ∀ universal,
      (moment universal day isDay micros inDay).category ≠ .json :=
    fun _ same => nomatch same
  cases universal with
  | false =>
      apply shown_eq_iff_of_read day.isPlain
      · exact noDocuments _
      · rw [category, type, if_neg Bool.false_ne_true, decodeAs?, sent, binary,
          moment?_binary _ isDay inDay]
        rfl
      · intro plain
        rw [category, type, if_neg Bool.false_ne_true, decodeAs?, moment?, Bytes.toText?_ofText,
          written, Option.bind_some, if_neg Bool.false_ne_true, List.nil_append,
          Calendar.Moment.read?_written isDay plain inDay]
        rfl
      · intro noPlain
        rw [category, type, if_neg Bool.false_ne_true, decodeAs?, moment?, Bytes.toText?_ofText,
          written, Option.bind_some, if_neg Bool.false_ne_true, List.nil_append,
          Calendar.Moment.read?_written_of_not_isPlain isDay noPlain inDay]
        rfl
      · exact Calendar.Moment.written_ne_display
  | true =>
      apply shown_eq_iff_of_read day.isPlain
      · exact noDocuments _
      · rw [category, type, if_pos rfl, decodeAs?, sent, binary, moment?_binary _ isDay inDay]
        rfl
      · intro plain
        rw [category, type, if_pos rfl, decodeAs?, moment?, Bytes.toText?_ofText, written,
          Option.bind_some, if_pos rfl, Calendar.Moment.readUniversal?_written isDay plain inDay]
        rfl
      · intro noPlain
        rw [category, type, if_pos rfl, decodeAs?, moment?, Bytes.toText?_ofText, written,
          Option.bind_some, if_pos rfl,
          Calendar.Moment.readUniversal?_written_of_not_isPlain isDay noPlain inDay]
        rfl
      · exact Calendar.Moment.written_ne_displayUniversal

/-- A value is shown alike in both forms exactly if it is no decimal, no day whose year takes a
sign, a mark or more than four digits, and not the end of a day. -/
theorem shown_eq_iff (value : Stored) :
    value.shown .text = value.shown .binary ↔ value.isAlike = true := by
  cases value with
  | truth value => exact iff_of_true (by rw [shown_truth, shown_truth]) rfl
  | whole width n fits => exact iff_of_true (by rw [shown_whole, shown_whole]) rfl
  | decimal value => exact iff_of_false (shown_decimal_ne value) Bool.false_ne_true
  | text number isText value => exact iff_of_true (shown_text number isText value) rfl
  | bytes value => exact iff_of_true (by rw [shown_bytes, shown_bytes]) rfl
  | document takenApart written => exact iff_of_true (shown_document takenApart written) rfl
  | identifier value sixteen =>
      exact iff_of_true (by rw [shown_identifier, shown_identifier]) rfl
  | date value isDay => exact shown_date isDay
  | time micros inDay => exact shown_time inDay
  | moment universal day isDay micros inDay => exact shown_moment universal isDay inDay

end Stored

end Wire
end SqlGate
