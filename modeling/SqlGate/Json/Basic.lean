import SqlGate.Number.Binary64

namespace SqlGate

/-!
# JSON documents

Rows carry JSON, documents describe configurations and schemas, and a bound
value may be a document itself.  A number is a whole number that fits into 64
bits, signed or not, or a finite double; the two kinds are kept apart even
where they are equal as numbers.
-/

/-- A number of a JSON document. -/
inductive Json.Numeral where
  /-- A whole number of 64 bits. -/
  | whole (n : Int) (inRange : -9223372036854775808 ≤ n ∧ n < 18446744073709551616)
  /-- A finite double. -/
  | float (x : Binary64) (finite : x.isFinite = true)
deriving DecidableEq

/-- A JSON document. -/
inductive Json where
  | null
  | bool (value : Bool)
  | number (value : Json.Numeral)
  | text (value : String)
  | list (items : List Json)
  | object (fields : List (String × Json))
deriving Inhabited

namespace Json

/-! ## Equality -/

mutual

/-- Whether two documents are the same, fields in the same order. -/
def decEq : (a b : Json) -> Decidable (a = b)
  | .null, .null => isTrue rfl
  | .bool a, .bool b =>
      if h : a = b then isTrue (by rw [h]) else isFalse (by simp [h])
  | .number a, .number b =>
      if h : a = b then isTrue (by rw [h]) else isFalse (by simp [h])
  | .text a, .text b =>
      if h : a = b then isTrue (by rw [h]) else isFalse (by simp [h])
  | .list a, .list b =>
      match decEqItems a b with
      | isTrue h => isTrue (by rw [h])
      | isFalse h => isFalse (by simp [h])
  | .object a, .object b =>
      match decEqFields a b with
      | isTrue h => isTrue (by rw [h])
      | isFalse h => isFalse (by simp [h])
  | .null, .bool _ | .null, .number _ | .null, .text _ | .null, .list _ | .null, .object _
  | .bool _, .null | .bool _, .number _ | .bool _, .text _ | .bool _, .list _ | .bool _, .object _
  | .number _, .null | .number _, .bool _ | .number _, .text _ | .number _, .list _
  | .number _, .object _
  | .text _, .null | .text _, .bool _ | .text _, .number _ | .text _, .list _ | .text _, .object _
  | .list _, .null | .list _, .bool _ | .list _, .number _ | .list _, .text _ | .list _, .object _
  | .object _, .null | .object _, .bool _ | .object _, .number _ | .object _, .text _
  | .object _, .list _ => isFalse (by simp)

def decEqItems : (a b : List Json) -> Decidable (a = b)
  | [], [] => isTrue rfl
  | [], _ :: _ => isFalse (by simp)
  | _ :: _, [] => isFalse (by simp)
  | x :: xs, y :: ys =>
      match decEq x y, decEqItems xs ys with
      | isTrue h, isTrue hs => isTrue (by rw [h, hs])
      | isFalse h, _ => isFalse (by simp [h])
      | _, isFalse hs => isFalse (by simp [hs])

def decEqFields : (a b : List (String × Json)) -> Decidable (a = b)
  | [], [] => isTrue rfl
  | [], _ :: _ => isFalse (by simp)
  | _ :: _, [] => isFalse (by simp)
  | (k, x) :: xs, (l, y) :: ys =>
      match decEq x y, decEqFields xs ys with
      | isTrue h, isTrue hs =>
          if hk : k = l then isTrue (by rw [h, hs, hk]) else isFalse (by simp [hk])
      | isFalse h, _ => isFalse (by simp [h])
      | _, isFalse hs => isFalse (by simp [hs])

end

instance : DecidableEq Json := decEq

/-! ## Making documents -/

theorem inRange_toInt (n : Int64) :
    -9223372036854775808 ≤ n.toInt ∧ n.toInt < 18446744073709551616 := by
  have low := n.le_toInt
  have high := n.toInt_lt
  omega

def ofInt64 (n : Int64) : Json :=
  .number (.whole n.toInt (inRange_toInt n))

/-- A number of 64 bits, `none` when it takes more. -/
def ofInt? (n : Int) : Option Json :=
  if h : -9223372036854775808 ≤ n ∧ n < 18446744073709551616 then some (.number (.whole n h))
  else none

/-- A natural number below `2 ^ 64`. -/
def ofUInt64 (n : UInt64) : Json :=
  .number (.whole (n.toNat : Int) (by
    have := n.toNat_lt
    omega))

/-- A finite double, `none` for the others. -/
def ofFinite? (x : Binary64) : Option Json :=
  if h : x.isFinite = true then some (.number (.float x h)) else none

/-- An optional part of a document: null when it is absent. -/
def orNull (found : Option Json) : Json :=
  found.getD .null

/-- The number as a signed one of 64 bits, if it is whole and fits. -/
def Numeral.toInt64? : Numeral -> Option Int64
  | .whole n _ => if n < 9223372036854775808 then some (Int64.ofInt n) else none
  | .float _ _ => none

def Numeral.toBinary64 : Numeral -> Binary64
  | .whole n _ => Binary64.ofInt n
  | .float x _ => x

def field? (key : String) : Json -> Option Json
  | .object fields => fields.lookup key
  | _ => none

end Json
end SqlGate
