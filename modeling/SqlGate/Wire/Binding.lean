import SqlGate.Bytes.Hex
import SqlGate.Bytes.Utf8
import SqlGate.Value
import SqlGate.Wire.Decode

namespace SqlGate
namespace Wire

/-!
# Bound values

A value travels beside the statement: the number of its type and its binary
form.  Null travels without a type, so that the server takes the one that the
place in the statement asks for.
-/

/-- A value ready to travel. -/
structure Bound where
  /-- The number of its type, zero if the server is to choose. -/
  type : Nat
  /-- Its bytes. -/
  cell : Cell
deriving DecidableEq, Repr

namespace Bound

def ofText? (s : Option String) : Bound :=
  ⟨25, s.map Bytes.ofText⟩

def ofValue : Value -> Bound
  | .null => ⟨0, none⟩
  | .bool b => ⟨16, some [if b then 1 else 0]⟩
  | .int n => ⟨20, some (Bytes.bigEndian 8 n.toUInt64.toNat)⟩
  | .float x => ⟨701, some (Bytes.bigEndian 8 x.bits.toNat)⟩
  | .text s => ofText? (some s)
  | .json document => ⟨3802, some (1 :: Bytes.ofText document.compact)⟩

end Bound
end Wire
end SqlGate
