namespace SqlGate
namespace Bytes

/-!
# UTF-8

Texts leave and enter the library as bytes: percent-encoded URL parts, cells
of a wire protocol and values bound to a statement.  One step of the decoder
takes a character or the longest part of a malformed sequence from the front;
strict decoding refuses the second case, lenient decoding puts U+FFFD there.
-/

namespace Utf8

def encode (cs : List Char) : List UInt8 :=
  cs.flatMap String.utf8EncodeChar

def isTail (b : UInt8) : Bool :=
  0x80 ≤ b && b ≤ 0xBF

/-- The six bits a continuing byte carries. -/
def tailBits (b : UInt8) : Nat :=
  b.toNat - 0x80

/-- The least second byte after `lead` that is neither overlong nor out of range. -/
def secondFrom (lead : UInt8) : UInt8 :=
  if lead == 0xE0 then 0xA0 else if lead == 0xF0 then 0x90 else 0x80

/-- The greatest second byte after `lead` that is neither a surrogate nor too large. -/
def secondTo (lead : UInt8) : UInt8 :=
  if lead == 0xED then 0x9F else if lead == 0xF4 then 0x8F else 0xBF

/-- Whether `b` may follow `lead`. -/
def follows (lead b : UInt8) : Bool :=
  secondFrom lead ≤ b && b ≤ secondTo lead

/--
One step behind the byte `lead`: the character, or `none` for a malformed
sequence, and the bytes that are left.  A malformed sequence ends before the
first byte that cannot continue it.
-/
def step (lead : UInt8) (rest : List UInt8) : Option Char × List UInt8 :=
  if lead < 0x80 then (some (Char.ofNat lead.toNat), rest)
  else if 0xC2 ≤ lead && lead ≤ 0xDF then
    match rest with
    | b :: rest' =>
        if isTail b then
          (some (Char.ofNat ((lead.toNat - 0xC0) * 64 + tailBits b)), rest')
        else (none, rest)
    | [] => (none, [])
  else if 0xE0 ≤ lead && lead ≤ 0xEF then
    match rest with
    | b :: rest' =>
        if follows lead b then
          match rest' with
          | c :: rest'' =>
              if isTail c then
                (some (Char.ofNat
                  ((lead.toNat - 0xE0) * 4096 + tailBits b * 64 + tailBits c)), rest'')
              else (none, rest')
          | [] => (none, [])
        else (none, rest)
    | [] => (none, [])
  else if 0xF0 ≤ lead && lead ≤ 0xF4 then
    match rest with
    | b :: rest' =>
        if follows lead b then
          match rest' with
          | c :: rest'' =>
              if isTail c then
                match rest'' with
                | d :: rest''' =>
                    if isTail d then
                      (some (Char.ofNat
                        ((lead.toNat - 0xF0) * 262144 + tailBits b * 4096
                          + tailBits c * 64 + tailBits d)), rest''')
                    else (none, rest'')
                | [] => (none, [])
              else (none, rest')
          | [] => (none, [])
        else (none, rest)
    | [] => (none, [])
  else (none, rest)

theorem length_step_le (lead : UInt8) (rest : List UInt8) :
    (step lead rest).2.length ≤ rest.length := by
  unfold step
  repeat' split
  all_goals simp
  all_goals omega

/-- The characters of a byte sequence, `none` where a sequence is malformed. -/
def decodeSteps : List UInt8 -> List (Option Char)
  | [] => []
  | lead :: rest => (step lead rest).1 :: decodeSteps (step lead rest).2
termination_by bytes => bytes.length
decreasing_by
  have := length_step_le lead rest
  simp
  omega

/-- Strict decoding. -/
def decode? (bytes : List UInt8) : Option (List Char) :=
  (decodeSteps bytes).mapM id

/-- Lenient decoding: one U+FFFD for each malformed sequence. -/
def decodeLossy (bytes : List UInt8) : List Char :=
  (decodeSteps bytes).map fun found => found.getD (Char.ofNat 0xFFFD)

end Utf8

def ofText (s : String) : List UInt8 :=
  Utf8.encode s.toList

/-- The text whose UTF-8 bytes are given, if there is one. -/
def toText? (bytes : List UInt8) : Option String :=
  (Utf8.decode? bytes).map String.ofList

end Bytes
end SqlGate
