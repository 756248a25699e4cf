namespace SqlGate
namespace Bytes

/-!
# Base64

Binary columns are shown in the standard alphabet with padding: three bytes
become four characters, and the last group is filled up with `=`.
-/

namespace Base64

/-- The character of a six-bit value in the standard alphabet. -/
def character (n : Nat) : Char :=
  if n < 26 then Char.ofNat ('A'.toNat + n)
  else if n < 52 then Char.ofNat ('a'.toNat + (n - 26))
  else if n < 62 then Char.ofNat ('0'.toNat + (n - 52))
  else if n = 62 then '+'
  else '/'

def encode : List UInt8 -> List Char
  | [] => []
  | [a] =>
      let n := a.toNat * 65536
      [character (n / 262144), character (n / 4096 % 64), '=', '=']
  | [a, b] =>
      let n := a.toNat * 65536 + b.toNat * 256
      [character (n / 262144), character (n / 4096 % 64), character (n / 64 % 64), '=']
  | a :: b :: c :: rest =>
      let n := a.toNat * 65536 + b.toNat * 256 + c.toNat
      character (n / 262144) :: character (n / 4096 % 64) :: character (n / 64 % 64)
        :: character (n % 64) :: encode rest

end Base64

def base64 (bytes : List UInt8) : String :=
  String.ofList (Base64.encode bytes)

end Bytes
end SqlGate
