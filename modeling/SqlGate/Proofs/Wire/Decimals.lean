import Mathlib.Data.List.DropRight
import Mathlib.Data.Nat.Digits.Lemmas
import SqlGate.Proofs.Bytes.Numbers
import SqlGate.Proofs.Bytes.Utf8
import SqlGate.Proofs.Text.Digits
import SqlGate.Wire.Decode

namespace SqlGate
namespace Wire

/-!
# The two forms of a decimal

A server holds a decimal in groups of four digits, and sends it as a text or as
these groups behind a head of eight bytes.  A decimal is shown as the bytes that
were sent, whatever their form.  So it is never shown alike in both: where the
groups happen to be a text, a character of the head stands in it that no number
is written with, and else they are shown in base64, which begins with a letter.
-/

/-- A decimal as a server holds it. -/
inductive Decimal where
  /-- So many units of the last of so many decimal places. -/
  | finite (units : Int) (places : Nat)
      (fits : places ≤ 16383 ∧ units.natAbs < 10 ^ (131072 + places))
  | nan
  | infinite (negative : Bool)

namespace Decimal

/-! ## Forms -/

def written : Decimal -> List Char
  | .finite units places _ =>
      (if units < 0 then ['-'] else []) ++ (Text.ofNat (units.natAbs / 10 ^ places)
        ++ if places = 0 then []
          else '.' :: (Text.padded places (units.natAbs % 10 ^ places)).toList)
  | .nan => ['N', 'a', 'N']
  | .infinite negative =>
      (if negative then ['-'] else []) ++ ['I', 'n', 'f', 'i', 'n', 'i', 't', 'y']

/-- The groups of four digits, aligned to the point, the most significant first. -/
def groups (units : Int) (places : Nat) : List Nat :=
  (Nat.digits 10000 (units.natAbs * 10 ^ ((4 - places % 4) % 4))).reverse

/-- The head of the binary form: the number of groups, the weight of the first one, the sign and
the number of places. -/
def head (count : Nat) (weight : Int) (sign places : Nat) : List UInt8 :=
  Bytes.bigEndian 2 count ++ (Bytes.complement 2 weight
    ++ (Bytes.bigEndian 2 sign ++ Bytes.bigEndian 2 places))

/-- The binary form of a decimal: groups that are zero are left out at the end. -/
def bytes : Decimal -> List UInt8
  | .finite units places _ =>
      let all := groups units places
      let kept := all.rdropWhile (· == 0)
      let weight : Int := if kept.isEmpty then 0 else all.length - ((places + 3) / 4 : Nat) - 1
      head kept.length weight (if units < 0 then 0x4000 else 0) places
        ++ kept.flatMap (Bytes.bigEndian 2)
  | .nan => head 0 0 0xC000 0
  | .infinite negative => head 0 0 (if negative then 0xF000 else 0xD000) 0x20

end Decimal

/-! ## Bytes that are shown as they are -/

theorem head_base64 (a b c : UInt8) (rest : List UInt8) :
    (Bytes.base64 (a :: b :: c :: rest)).toList.head?
      = some (Bytes.Base64.character (a.toNat / 4)) := by
  have second := b.toNat_lt
  have third := c.toNat_lt
  have first : (a.toNat * 65536 + b.toNat * 256 + c.toNat) / 262144 = a.toNat / 4 := by omega
  rw [Bytes.base64, String.toList_ofList, Bytes.Base64.encode, first]
  rfl

theorem le_toNat_character {n : Nat} (letter : n < 52) :
    'A'.toNat ≤ (Bytes.Base64.character n).toNat := by
  have table : ∀ n < 52, 'A'.toNat ≤ (Bytes.Base64.character n).toNat := by decide
  exact table n letter

/-- Bytes are not shown as a text that has neither the character of an ASCII byte among them nor
the first one of their base64. -/
theorem rawDocument_ne_text (byte : UInt8) {a b c : UInt8} {rest : List UInt8} {s : String}
    (ascii : byte < 0x80) (member : byte ∈ a :: b :: c :: rest)
    (noByte : Char.ofNat byte.toNat ∉ s.toList)
    (noLetter : Bytes.Base64.character (a.toNat / 4) ∉ s.toList) :
    rawDocument (a :: b :: c :: rest) ≠ .text s := by
  intro same
  have same : (Bytes.toText? (a :: b :: c :: rest)).getD (Bytes.base64 (a :: b :: c :: rest)) = s :=
    Json.text.inj same
  cases read : Bytes.toText? (a :: b :: c :: rest) with
  | none =>
      rw [read, Option.getD_none] at same
      apply noLetter
      rw [← same]
      exact List.mem_of_mem_head? (head_base64 a b c rest)
  | some found =>
      rw [read, Option.getD_some] at same
      subst same
      rw [Bytes.toText?, Option.map_eq_some_iff] at read
      rcases read with ⟨cs, decoded, rfl⟩
      have inside := Bytes.Utf8.mem_decodeSteps ascii member
      rw [Bytes.Utf8.decodeSteps_of_decode? decoded] at inside
      rcases List.mem_map.mp inside with ⟨found, member, same⟩
      cases same
      rw [String.toList_ofList] at noByte
      exact noByte member

/-! ## Decimals -/

namespace Decimal

/-- The sign of a decimal has a byte that no number is written with. -/
theorem mem_sign (negative : Prop) [Decidable negative] :
    ∃ byte ∈ Bytes.bigEndian 2 (if negative then 0x4000 else 0),
      byte < 0x80 ∧ (byte = 0 ∨ byte = 0x40) := by
  split
  · exact ⟨0x40, by decide, by decide, .inr rfl⟩
  · exact ⟨0, by decide, by decide, .inl rfl⟩

/-- A finite decimal is written with digits, a minus sign and a point. -/
theorem toNat_of_mem_written {units : Int} {places : Nat} {fits} {c : Char}
    (member : c ∈ (finite units places fits).written) : '-'.toNat ≤ c.toNat ∧ c.toNat ≤ '9'.toNat := by
  have digit : c.isDigit = true -> '-'.toNat ≤ c.toNat ∧ c.toNat ≤ '9'.toNat := by
    intro digit
    have code := Text.toNat_of_isDigit digit
    exact ⟨Nat.le_trans (by decide) code.1, code.2⟩
  rw [written, List.mem_append, List.mem_append] at member
  rcases member with member | member | member
  · split at member
    · rw [List.mem_singleton.mp member]
      decide
    · cases member
  · exact digit (Text.isDigit_of_mem_ofNat member)
  · split at member
    · cases member
    · rcases List.mem_cons.mp member with rfl | member
      · decide
      · exact digit (Text.isDigit_of_mem_padded member)

/-- The limits of a decimal leave it with so few groups that their number begins with a byte for
which base64 has a letter. -/
theorem length_groups_lt {units : Int} {places : Nat}
    (fits : places ≤ 16383 ∧ units.natAbs < 10 ^ (131072 + places)) :
    (groups units places).length < 0xD000 := by
  have aligned : ∀ count, 131072 + places + 3 ≤ 4 * count ->
      units.natAbs * 10 ^ ((4 - places % 4) % 4) < 10000 ^ count := by
    intro count room
    calc units.natAbs * 10 ^ ((4 - places % 4) % 4)
        < 10 ^ (131072 + places) * 10 ^ ((4 - places % 4) % 4) :=
          Nat.mul_lt_mul_of_pos_right fits.2 (Nat.pow_pos (by decide))
      _ = 10 ^ (131072 + places + (4 - places % 4) % 4) := (Nat.pow_add _ _ _).symm
      _ ≤ 10 ^ (4 * count) := Nat.pow_le_pow_right (by decide) (by omega)
      _ = (10 ^ 4) ^ count := Nat.pow_mul _ _ _
  have short : (Nat.digits 10000 (units.natAbs * 10 ^ ((4 - places % 4) % 4))).length ≤ 40000 :=
    (Nat.digits_length_le_iff (by decide) _).mpr (aligned 40000 (by omega))
  rw [groups, List.length_reverse]
  omega

theorem bigEndian_two (n : Nat) :
    Bytes.bigEndian 2 n = [UInt8.ofNat (n / 256), UInt8.ofNat n] := by
  rw [Bytes.bigEndian_succ, Bytes.bigEndian_succ]
  rfl

/-- A head begins with the number of groups. -/
theorem head_eq_cons (count : Nat) (weight : Int) (sign places : Nat) :
    ∃ c rest, head count weight sign places
      = UInt8.ofNat (count / 256) :: UInt8.ofNat count :: c :: rest := by
  rw [head, bigEndian_two, Bytes.complement, bigEndian_two]
  exact ⟨_, _, rfl⟩

theorem rawDocument_finite_ne {units : Int} {places : Nat} {fits} :
    rawDocument (finite units places fits).bytes
      ≠ .text (String.ofList (finite units places fits).written) := by
  rcases mem_sign (units < 0) with ⟨byte, member, ascii, code⟩
  have few : ((groups units places).rdropWhile (· == 0)).length < 0xD000 :=
    Nat.lt_of_le_of_lt (List.rdropWhile_prefix _ _).length_le (length_groups_lt fits)
  rw [bytes]
  generalize (groups units places).rdropWhile (· == 0) = kept at few ⊢
  generalize (if kept.isEmpty then (0 : Int) else _) = weight
  have inside : byte ∈ head kept.length weight (if units < 0 then 0x4000 else 0) places := by
    rw [head, List.mem_append, List.mem_append, List.mem_append]
    exact .inr (.inr (.inl member))
  rcases head_eq_cons kept.length weight (if units < 0 then 0x4000 else 0) places
    with ⟨c, rest, begins⟩
  rw [begins] at inside ⊢
  -- the sign betrays groups that are a text, the number of groups those that are none
  apply rawDocument_ne_text byte ascii
  · exact List.mem_append_left _ inside
  · rw [String.toList_ofList]
    intro shown
    have written := toNat_of_mem_written shown
    rcases code with rfl | rfl
    · exact absurd written.1 (by decide)
    · exact absurd written.2 (by decide)
  · rw [String.toList_ofList]
    intro shown
    have written := toNat_of_mem_written shown
    have letter : 'A'.toNat
        ≤ (Bytes.Base64.character ((UInt8.ofNat (kept.length / 256)).toNat / 4)).toNat := by
      apply le_toNat_character
      rw [UInt8.toNat_ofNat']
      omega
    exact absurd (Nat.le_trans letter written.2) (by decide)

/-- A decimal is not shown alike in both forms. -/
theorem rawDocument_bytes_ne (decimal : Decimal) :
    rawDocument decimal.bytes ≠ .text (String.ofList decimal.written) := by
  cases decimal with
  | finite units places fits => exact rawDocument_finite_ne
  | nan => exact rawDocument_ne_text 0 (by decide) (by decide) (by decide) (by decide)
  | infinite negative =>
      cases negative with
      | false => exact rawDocument_ne_text 0 (by decide) (by decide) (by decide) (by decide)
      | true => exact rawDocument_ne_text 0 (by decide) (by decide) (by decide) (by decide)

end Decimal

end Wire
end SqlGate
