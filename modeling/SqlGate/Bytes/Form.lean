import SqlGate.Bytes.Percent

namespace SqlGate
namespace Bytes

/-!
# URL-encoded forms

The query of a URL is a list of name and value pairs: `&` between pairs, `=`
between name and value, `+` for a blank, and percent encoding for the rest.
Empty pieces between two `&` count for nothing.
-/

namespace Form

/-- Bytes that stand for themselves in a form. -/
def isPlain (b : UInt8) : Bool :=
  let c := Char.ofNat b.toNat
  b < 0x80 && (c.isAlphanum || c == '*' || c == '-' || c == '.' || c == '_')

/-- One name or value. -/
def encodePart (s : String) : List Char :=
  (ofText s).flatMap fun b =>
    if isPlain b then [Char.ofNat b.toNat]
    else if b == 0x20 then ['+']
    else Percent.escape b

/-- A list of pairs. -/
def encode (pairs : List (String × String)) : String :=
  let piece := fun (pair : String × String) =>
    encodePart pair.1 ++ '=' :: encodePart pair.2
  String.ofList (List.intercalate ['&'] (pairs.map piece))

/-- The name or value that a piece of a form stands for. -/
def decodePart (bytes : List UInt8) : String :=
  let blanks := bytes.map fun b => if b == 0x2B then 0x20 else b
  String.ofList (Utf8.decodeLossy (Percent.decodeBytes blanks))

/-- The name before the first `=` and the value behind it. -/
def decodePair (piece : List UInt8) : String × String :=
  (decodePart (piece.takeWhile (· != 0x3D)),
    decodePart ((piece.dropWhile (· != 0x3D)).drop 1))

/-- The pairs of a query. -/
def decode (query : String) : List (String × String) :=
  let pieces := (ofText query).splitOnP (· == 0x26)
  (pieces.filter fun piece => !piece.isEmpty).map decodePair

end Form

end Bytes
end SqlGate
