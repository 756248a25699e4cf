import SqlGate.Bytes.Hex
import SqlGate.Bytes.Utf8

namespace SqlGate
namespace Bytes

/-!
# Percent encoding

A URL writes a byte as `%` and two capital hexadecimal digits.  Which ASCII
characters are written so depends on the part of the URL, and is given as a
predicate; bytes outside ASCII are always written so.  Reading leaves a `%`
alone that is not followed by two digits.
-/

namespace Percent

/-- `%` and the two digits of a byte. -/
def escape (b : UInt8) : List Char :=
  '%' :: Hex.upperPair b

/-- Encode what `reserved` names and all that is not ASCII. -/
def encodeWith (reserved : Char -> Bool) (cs : List Char) : List Char :=
  cs.flatMap fun c =>
    if c.toNat < 0x80 && !reserved c then [c] else (String.utf8EncodeChar c).flatMap escape

/-- The bytes of a text in which `%` and two digits stand for one byte. -/
def decodeBytes : List UInt8 -> List UInt8
  | [] => []
  | 0x25 :: a :: b :: rest =>
      match Hex.byte? (Char.ofNat a.toNat) (Char.ofNat b.toNat) with
      | some byte => byte :: decodeBytes rest
      | none => 0x25 :: decodeBytes (a :: b :: rest)
  | byte :: rest => byte :: decodeBytes rest

/-- C0 controls and DEL. -/
def isControl (c : Char) : Bool :=
  c.toNat < 0x20 || c.toNat == 0x7F

/-- What is encoded in a query. -/
def inQuery (c : Char) : Bool :=
  isControl c || [' ', '"', '#', '<', '>'].contains c

/-- What is encoded in a path. -/
def inPath (c : Char) : Bool :=
  inQuery c || ['?', '\x60', '\x7b', '\x7d', '^'].contains c

/-- What is encoded in a user name or a password. -/
def inUserInfo (c : Char) : Bool :=
  inPath c || ['/', ':', ';', '=', '@', '[', '\\', ']', '^', '|'].contains c

end Percent

end Bytes
end SqlGate
