namespace SqlGate
namespace Bytes

/-!
# Hexadecimal digits

Two digits a byte, the high half first.  Digits of either case are read; the
writer is told which case to use.
-/

namespace Hex

/-- The value of a hexadecimal digit. -/
def digitValue? (c : Char) : Option Nat :=
  if c.isDigit then some (c.toNat - '0'.toNat)
  else if 'a' ≤ c && c ≤ 'f' then some (c.toNat - 'a'.toNat + 10)
  else if 'A' ≤ c && c ≤ 'F' then some (c.toNat - 'A'.toNat + 10)
  else none

def lowerDigit (n : Nat) : Char :=
  if n < 10 then Char.ofNat ('0'.toNat + n) else Char.ofNat ('a'.toNat + (n - 10))

def upperDigit (n : Nat) : Char :=
  if n < 10 then Char.ofNat ('0'.toNat + n) else Char.ofNat ('A'.toNat + (n - 10))

def lowerPair (b : UInt8) : List Char :=
  [lowerDigit (b.toNat / 16), lowerDigit (b.toNat % 16)]

def upperPair (b : UInt8) : List Char :=
  [upperDigit (b.toNat / 16), upperDigit (b.toNat % 16)]

/-- The byte written by two digits. -/
def byte? (high low : Char) : Option UInt8 :=
  match digitValue? high, digitValue? low with
  | some h, some l => some (UInt8.ofNat (h * 16 + l))
  | _, _ => none

/-- The bytes of an even number of digits. -/
def decode? : List Char -> Option (List UInt8)
  | [] => some []
  | high :: low :: rest =>
      match byte? high low, decode? rest with
      | some b, some bytes => some (b :: bytes)
      | _, _ => none
  | [_] => none

/-- Small digits. -/
def encode (bytes : List UInt8) : String :=
  String.ofList (bytes.flatMap lowerPair)

/-- The number written by a run of digits. -/
def natFrom? (value : Nat) : List Char -> Option Nat
  | [] => some value
  | c :: rest =>
      match digitValue? c with
      | some d => natFrom? (value * 16 + d) rest
      | none => none

end Hex

/-- The bytes of a number, the most significant first, `count` of them. -/
def bigEndian (count n : Nat) : List UInt8 :=
  (List.range count).map fun i => UInt8.ofNat (n / Nat.pow 256 (count - 1 - i))

def toNatBigEndian (bytes : List UInt8) : Nat :=
  bytes.foldl (fun n b => n * 256 + b.toNat) 0

/-- The two's complement number of bytes in big-endian order. -/
def toIntBigEndian (bytes : List UInt8) : Int :=
  let n := toNatBigEndian bytes
  let range := Nat.pow 256 bytes.length
  if 2 * n < range then Int.ofNat n else Int.ofNat n - Int.ofNat range

end Bytes
end SqlGate
