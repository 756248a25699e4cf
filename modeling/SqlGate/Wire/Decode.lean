import SqlGate.Bytes.Base64
import SqlGate.Bytes.Hex
import SqlGate.Bytes.Utf8
import SqlGate.Calendar.Reading
import SqlGate.Catalog.TypeCategory
import SqlGate.Number.Reading
import SqlGate.Value
import SqlGate.Wire.ColumnType

namespace SqlGate
namespace Wire

/-!
# Cells

A server sends a cell as bytes, either the text it would print or a binary
form.  The category of the type name decides which decoders are tried, and a
decoder accepts the types it is made for, in either form.  Bytes that no decoder
reads are shown as they are: as a text if they are one, and in base64 else.  A
document that cannot be read is null.
-/

/-- How cells are sent. -/
inductive Form where
  | text
  | binary
deriving DecidableEq, Repr

/-- A cell: the bytes that were sent, or null. -/
abbrev Cell := Option (List UInt8)

/-- The document of a double: infinities and what is no number are texts. -/
def realDocument (x : Binary64) : Json :=
  (Value.float x).toJson

def rawDocument (bytes : List UInt8) : Json :=
  .text ((Bytes.toText? bytes).getD (Bytes.base64 bytes))

/-! ## Decoders -/

/-- A truth value: one letter, or a byte. -/
def truth? (form : Form) (bytes : List UInt8) : Option Bool :=
  match form with
  | .text =>
      match Bytes.toText? bytes with
      | some "t" => some true
      | some "f" => some false
      | _ => none
  | .binary => bytes.head?.map (· != 0)

/-- Whether a number is one of so many bits with a sign. -/
def hasWidth (width : Nat) (n : Int) : Bool :=
  let bound := Int.ofNat (Nat.pow 2 (width - 1))
  n < bound && -bound ≤ n

/-- A whole number of so many bits, in up to eight bytes. -/
def integer? (width : Nat) (form : Form) (bytes : List UInt8) : Option Int :=
  let found :=
    match form with
    | .text => (Bytes.toText? bytes).bind (Text.signed? 64)
    | .binary =>
        if 1 ≤ bytes.length && bytes.length ≤ 8 then some (Bytes.toIntBigEndian bytes) else none
  found.filter (hasWidth width)

/-- A double; the bytes behind the eighth do not count. -/
def double? (form : Form) (bytes : List UInt8) : Option Binary64 :=
  match form with
  | .text => (Bytes.toText? bytes).bind Number.float?
  | .binary =>
      if 8 ≤ bytes.length then
        some ⟨UInt64.ofNat (Bytes.toNatBigEndian (bytes.take 8))⟩
      else none

/-- A single-precision number; the bytes behind the fourth do not count. -/
def single? (form : Form) (bytes : List UInt8) : Option Binary64 :=
  match form with
  | .text => (Bytes.toText? bytes).bind Number.single?
  | .binary =>
      if 4 ≤ bytes.length then
        some (Binary64.ofSingleBits (Bytes.toNatBigEndian (bytes.take 4)))
      else none

/-- Bytes: two digits each behind a mark, or themselves. -/
def binary? (form : Form) (bytes : List UInt8) : Option (List UInt8) :=
  match form with
  | .text =>
      match (Bytes.toText? bytes).map String.toList with
      | some ('\\' :: 'x' :: digits) => Bytes.Hex.decode? digits
      | _ => none
  | .binary => some bytes

/-- A document; the binary form of a stored one begins with its version. -/
def document? (form : Form) (stored : Bool) (bytes : List UInt8) : Option Json :=
  let content :=
    if stored && form == .binary then
      match bytes with
      | 1 :: rest => some rest
      | _ => none
    else some bytes
  (content.bind Bytes.toText?).bind Json.parse?

/-- The digits of an identifier between its four hyphens. -/
def hyphenated? (cs : List Char) : Option (List Char) :=
  if [8, 13, 18, 23].all fun i => cs[i]? == some '-' then
    some (cs.take 8 ++ (cs.drop 9).take 4 ++ (cs.drop 14).take 4 ++ (cs.drop 19).take 4
      ++ cs.drop 24)
  else none

/-- The digits of an identifier: bare, with hyphens, or with hyphens in braces or behind a scheme. -/
def identifierDigits? (cs : List Char) : Option (List Char) :=
  match cs.length, cs with
  | 32, _ => some cs
  | 36, _ => hyphenated? cs
  | 38, '\x7b' :: rest => if rest.getLast? = some '\x7d' then hyphenated? rest.dropLast else none
  | 45, _ =>
      if Text.beginsWith "urn:uuid:".toList cs then hyphenated? (cs.drop 9) else none
  | _, _ => none

/-- The sixteen bytes of an identifier. -/
def identifier? (form : Form) (bytes : List UInt8) : Option (List UInt8) :=
  let found :=
    match form with
    | .text => ((Bytes.toText? bytes).bind fun s => identifierDigits? s.toList).bind
        Bytes.Hex.decode?
    | .binary => some bytes
  found.filter fun bytes => bytes.length == 16

def identifierText (bytes : List UInt8) : String :=
  let group := fun start count => Bytes.Hex.encode ((bytes.drop start).take count)
  "-".intercalate [group 0 4, group 4 2, group 6 2, group 8 2, group 10 6]

/-- A day: its text, or its number. -/
def date? (form : Form) (bytes : List UInt8) : Option Calendar.Date :=
  match form with
  | .text => (Bytes.toText? bytes).bind Calendar.Date.read?
  | .binary =>
      ((integer? 32 .binary bytes).map Calendar.Date.ofDay).filter fun date =>
        Calendar.Date.hasKnownYear date.year

/-- A time of a day: its text, or microseconds. -/
def time? (form : Form) (bytes : List UInt8) : Option Calendar.TimeOfDay :=
  match form with
  | .text => (Bytes.toText? bytes).bind Calendar.TimeOfDay.read?
  | .binary => (integer? 64 .binary bytes).map Calendar.TimeOfDay.ofMicros

/-- A moment: what `read` makes of its text, or microseconds. -/
def moment? (read : String -> Option Calendar.Moment) (form : Form) (bytes : List UInt8) :
    Option Calendar.Moment :=
  match form with
  | .text => (Bytes.toText? bytes).bind read
  | .binary => (integer? 64 .binary bytes).bind Calendar.Moment.ofMicros?

/-! ## Documents of cells -/

/--
What the decoders of a category read in a column of a type.  A decimal is taken
as it is sent, whatever the form; every other decoder is made for certain types.
-/
def decodeAs? (category : TypeCategory) (type : ColumnType) (form : Form) (bytes : List UInt8) :
    Option Json :=
  match category, type with
  | .decimal, _ => (Bytes.toText? bytes).map .text
  | .integer, .int width => (integer? width form bytes).map fun n => Json.ofInt64 (Int64.ofInt n)
  | .boolean, .bool => (truth? form bytes).map .bool
  | .float, .double => (double? form bytes).map realDocument
  | .float, .single => (single? form bytes).map realDocument
  | .binary, .bytes => (binary? form bytes).map fun found => .text (Bytes.base64 found)
  | .json, .json => document? form false bytes
  | .json, .jsonb => document? form true bytes
  | .uuid, .uuid => (identifier? form bytes).map fun found => .text (identifierText found)
  | .timestamp, .timestampTz =>
      (moment? Calendar.Moment.readUniversal? form bytes).map fun moment =>
        .text moment.displayUniversal
  | .timestamp, .timestamp =>
      (moment? Calendar.Moment.read? form bytes).map fun moment => .text moment.display
  | .date, .date => (date? form bytes).map fun date => .text date.display
  | .time, .time => (time? form bytes).map fun time => .text time.display
  | .text, .text | .unknown, .text => (Bytes.toText? bytes).map .text
  | _, _ => none

/--
The document of a cell, in a column whose type has a name.  What the decoders
do not read is null at first, and then shown as it is, unless the column is one
of documents, where null may be what was sent.
-/
def decodeCell (name : String) (type : ColumnType) (form : Form) (cell : Cell) : Json :=
  match cell with
  | none => .null
  | some bytes =>
      let category := TypeCategory.ofName name .postgres
      let document := (decodeAs? category type form bytes).getD .null
      if document = .null ∧ category ≠ .json then rawDocument bytes else document

/-- A type without a decoder shows the bytes, unless it is named like one of documents. -/
theorem decodeCell_other {name : String} (named : TypeCategory.ofName name .postgres ≠ .json)
    (form : Form) (bytes : List UInt8) :
    decodeCell name .other form (some bytes) = rawDocument bytes := by
  cases category : TypeCategory.ofName name .postgres
  case json => exact absurd category named
  case decimal =>
    simp only [decodeCell, category, decodeAs?, rawDocument]
    cases Bytes.toText? bytes <;> simp
  all_goals simp [decodeCell, category, decodeAs?]

end Wire
end SqlGate
