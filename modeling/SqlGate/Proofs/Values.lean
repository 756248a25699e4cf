import SqlGate.Proofs.Json.Rereading
import SqlGate.Value

namespace SqlGate
namespace Value

/-!
# Values through their text

A value has a document, and the compact text of the document is read as a value
again.  A scalar document and the value of its own kind have one text, so the
value that is read is the plain one; all other values come back as they were,
unless an object in them begins with the key of a carrier: such an object is
read as what it carries, and no text is read as one.  The text that a value is serialized to is the same one, except for infinite
numbers and NaN, which are told by their names in the document of a row and are
null where a value is serialized.
-/

/-- Whether the value is neither an infinite number nor NaN. -/
def IsFinite (v : Value) : Prop :=
  ∀ x, v = .float x -> x.isFinite = true

/-- The value of a scalar document: a number is an integer if it is one of 64 bits with a sign, and
a double otherwise.  All other values stand for themselves. -/
def plain : Value -> Value
  | .json .null => .null
  | .json (.bool b) => .bool b
  | .json (.number (.whole n _)) =>
      if n < 9223372036854775808 then .int (Int64.ofInt n) else .float (Binary64.ofInt n)
  | .json (.number (.float x _)) => .float x
  | .json (.text s) => .text s
  | v => v

theorem toJson_float {x : Binary64} (finite : x.isFinite = true) :
    toJson (.float x) = .number (.float x finite) := by
  rw [toJson, Json.ofFinite?, dif_pos finite, Option.getD_some]

/-- A whole number is an integer where it fits, and else the nearest double. -/
theorem ofNumeral_whole (n : Int)
    (inRange : -9223372036854775808 ≤ n ∧ n < 18446744073709551616) :
    ofNumeral (.whole n inRange)
      = if n < 9223372036854775808 then .int (Int64.ofInt n) else .float (Binary64.ofInt n) := by
  rw [ofNumeral, Json.Numeral.toInt64?]
  by_cases small : n < 9223372036854775808
  · rw [if_pos small, if_pos small]
  · rw [if_neg small, if_neg small]
    rfl

/-- The value that a document is read as is the plain one of the value it was made of. -/
theorem ofScalar_toJson {v : Value} (finite : v.IsFinite) : ofScalar v.toJson = v.plain := by
  cases v with
  | null | bool _ | text _ => rfl
  | int n =>
      have small : n.toInt < 9223372036854775808 := n.toInt_lt
      change ofNumeral (.whole n.toInt _) = .int n
      rw [ofNumeral_whole, if_pos small, Int64.ofInt_toInt]
  | float x =>
      rw [toJson_float (finite x rfl)]
      rfl
  | json document =>
      cases document with
      | number value =>
          cases value with
          | whole n inRange => exact ofNumeral_whole n inRange
          | float x finite => rfl
      | _ => rfl

/-- Each kind is serialized to the text of its document. -/
theorem serialized_eq {v : Value} (finite : v.IsFinite) : v.serialized = v.toJson.compact := by
  cases v with
  | null | bool _ | text _ | json _ => rfl
  | int n => exact String.ofList_toList.symm
  | float x =>
      rw [toJson_float (finite x rfl), serialized, if_pos (finite x rfl)]
      exact String.ofList_toList.symm

/-- A number that is not finite is serialized as null and named in its document. -/
theorem serialized_ne_of_not_isFinite {x : Binary64} (infinite : x.isFinite ≠ true) :
    serialized (.float x) ≠ (toJson (.float x)).compact := by
  intro same
  have begins := congrArg (fun s => s.toList.head?) same
  simp only [serialized, if_neg infinite, toJson, Json.ofFinite?, dif_neg infinite,
    Option.getD_none, Json.compact, String.toList_ofList] at begins
  cases begins

theorem ofScalar_eq_json {document found : Json} (same : ofScalar found = .json document) :
    found = document := by
  cases found with
  | number n =>
      rw [ofScalar, ofNumeral] at same
      split at same
      · cases same
      · cases same
  | null | bool _ | text _ => cases same
  | list _ | object _ => exact json.inj same

/-- What a reader gives as a document is the document of the text. -/
theorem parse?_of_parseLoose {s : String} {document : Json} (read : parseLoose s = .json document) :
    Json.parse? s = some document := by
  rw [parseLoose] at read
  split at read
  · rename_i found parsed
    rw [parsed, ofScalar_eq_json read]
  · cases read

/-- What comes back holds no object that begins with the key of a carrier. -/
theorem carryNothing_of_plain {v : Value} (read : parseLoose v.toJson.compact = v.plain) :
    Json.CarryNothing v.toJson.parts := by
  cases v with
  | null | bool _ | int _ | text _ => exact Json.carryNothing_of_scalar rfl rfl
  | float x =>
      rw [toJson, Json.ofFinite?]
      split
      · exact Json.carryNothing_of_scalar rfl rfl
      · exact Json.carryNothing_of_scalar rfl rfl
  | json document =>
      cases document with
      | null | bool _ | number _ | text _ => exact Json.carryNothing_of_scalar rfl rfl
      | list _ | object _ => exact Json.carryNothing_of_parse? (parse?_of_parseLoose read)

/-- A value is read back from the compact text of its document, a scalar document as its plain
value, exactly if no object in the document begins with the key of a carrier; provided that the
document is one that a program can hold and a reader reads: it is nested no deeper than 127 levels,
no object in it holds a key twice, and every double in it is read back from its digits.  The text
that the value is serialized to is the same text, whatever the value is, unless it is an infinite
number or NaN. -/
theorem parseLoose_compact_toJson (v : Value) :
    (v.IsFinite -> v.toJson.depth ≤ 127 -> Json.KeysDiffer v.toJson.parts ->
        Json.FloatsReadBack v.toJson.parts ->
        (parseLoose v.toJson.compact = v.plain ↔ Json.CarryNothing v.toJson.parts))
    ∧ (v.serialized = v.toJson.compact ↔ v.IsFinite) := by
  refine ⟨?_, ?_, ?_⟩
  · intro finite shallow differ back
    refine ⟨carryNothing_of_plain, ?_⟩
    intro nothing
    rw [parseLoose, Json.parse?_compact shallow differ back nothing]
    exact ofScalar_toJson finite
  · intro same x isFloat
    by_contra infinite
    rw [isFloat] at same
    exact serialized_ne_of_not_isFinite infinite same
  · exact serialized_eq

/-- A document with the greatest number of 64 bits, a double, a control and quotes in a text, and
an object without fields in a list. -/
def boarding : Json :=
  .object [("gate \"A\"\n\x01", .text "C:\\é"),
    ("codes", .list [.null, .bool true, .number (.whole 18446744073709551615 (by decide)),
      .number (.whole (-7) (by decide)), .number (.float ⟨0x3FF8000000000000⟩ (by decide)),
      .object []])]

theorem parseLoose_boarding : parseLoose boarding.compact = .json boarding := by
  have finite : IsFinite (.json boarding) := nofun
  exact ((parseLoose_compact_toJson (.json boarding)).1 finite (by decide +kernel)
    (by decide +kernel) (by decide +kernel)).mpr (by decide +kernel)

/-- An object that carries the text of a number. -/
def carrierOfOne : Json :=
  .object [(Json.carrierKey, .text "1")]

/-- An object that begins with the key of a carrier is not read back: the number is. -/
theorem not_forall_parseLoose_compact :
    ¬ ∀ v : Value, v.IsFinite -> v.toJson.depth ≤ 127 -> Json.KeysDiffer v.toJson.parts ->
      Json.FloatsReadBack v.toJson.parts -> parseLoose v.toJson.compact = v.plain := by
  intro readBack
  have finite : IsFinite (.json carrierOfOne) := nofun
  have same : parseLoose carrierOfOne.compact = .json carrierOfOne :=
    readBack (.json carrierOfOne) finite (by decide +kernel) (by decide +kernel)
      (by decide +kernel)
  have number : parseLoose carrierOfOne.compact = .int 1 := by decide +kernel
  rw [number] at same
  cases same

end Value
end SqlGate
