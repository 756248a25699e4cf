import Mathlib.Tactic.Ring
import SqlGate.Bytes.Hex

namespace SqlGate
namespace Bytes

/-!
# Numbers and bytes read back

A whole number travels as a fixed number of bytes, a negative one as its
complement; bytes are shown as two hexadecimal digits each.  Both are read back
as they were.
-/

/-! ## Numbers as bytes -/

theorem length_bigEndian (count n : Nat) : (bigEndian count n).length = count := by
  rw [bigEndian, List.length_map, List.length_range]

theorem bigEndian_succ (count n : Nat) :
    bigEndian (count + 1) n = bigEndian count (n / 256) ++ [UInt8.ofNat n] := by
  rw [bigEndian, List.range_succ, List.map_append, List.map_singleton]
  congr 1
  · refine List.map_congr_left fun i member => ?_
    have below : i < count := List.mem_range.mp member
    have places : count + 1 - 1 - i = (count - 1 - i) + 1 := by omega
    have power : Nat.pow 256 (count - 1 - i + 1) = 256 * Nat.pow 256 (count - 1 - i) :=
      Nat.pow_succ'
    rw [places, power, Nat.div_div_eq_div_mul]
  · have last : count + 1 - 1 - count = 0 := by omega
    rw [last]
    exact congrArg (fun m => [UInt8.ofNat m]) (Nat.div_one n)

theorem toNatBigEndian_append_singleton (bytes : List UInt8) (b : UInt8) :
    toNatBigEndian (bytes ++ [b]) = toNatBigEndian bytes * 256 + b.toNat := by
  rw [toNatBigEndian, List.foldl_append]
  rfl

/-- The bytes of a number are read as what fits into them. -/
theorem toNatBigEndian_bigEndian (count n : Nat) :
    toNatBigEndian (bigEndian count n) = n % 256 ^ count := by
  induction count generalizing n with
  | zero => exact (Nat.mod_one n).symm
  | succ count ih =>
      have last : (UInt8.ofNat n).toNat = n % 256 := UInt8.toNat_ofNat'
      rw [bigEndian_succ, toNatBigEndian_append_singleton, ih, last, Nat.pow_succ',
        Nat.mod_mul (a := 256)]
      ring

/-- The bytes of a number with a sign: a negative one is counted from the end. -/
def complement (count : Nat) (n : Int) : List UInt8 :=
  bigEndian count (n % (256 ^ count : Nat)).toNat

theorem length_complement (count : Nat) (n : Int) : (complement count n).length = count :=
  length_bigEndian count _

theorem toNatBigEndian_complement (count : Nat) (n : Int) :
    (toNatBigEndian (complement count n) : Int) = n % (256 ^ count : Nat) := by
  have positive : 0 < 256 ^ count := Nat.pow_pos (by decide)
  rw [complement, toNatBigEndian_bigEndian]
  generalize 256 ^ count = range at positive ⊢
  have low : 0 ≤ n % (range : Int) := Int.emod_nonneg n (by omega)
  have high : n % (range : Int) < range := Int.emod_lt_of_pos n (by omega)
  rw [Nat.mod_eq_of_lt]
  · exact Int.toNat_of_nonneg low
  · omega

/-- A number with a sign is read back if it is less than half the range away from zero. -/
theorem toIntBigEndian_complement {count : Nat} {n : Int}
    (low : -(256 ^ count : Nat) ≤ 2 * n) (high : 2 * n < (256 ^ count : Nat)) :
    toIntBigEndian (complement count n) = n := by
  have read := toNatBigEndian_complement count n
  simp only [toIntBigEndian, length_complement, Nat.pow_eq, Int.ofNat_eq_natCast]
  generalize 256 ^ count = range at low high read ⊢
  generalize toNatBigEndian (complement count n) = found at read ⊢
  by_cases negative : n < 0
  · have wrapped : n % range = n + range := by
      rw [← Int.add_emod_right, Int.emod_eq_of_lt]
      · omega
      · omega
    rw [if_neg (by omega)]
    omega
  · have kept : n % range = n := Int.emod_eq_of_lt (by omega) (by omega)
    rw [if_pos (by omega)]
    omega

/-! ## Bytes as digits -/

namespace Hex

/-- The two digits of a byte are read back, whichever case they have. -/
theorem byte?_of_digits {digit : Nat -> Char} (read : ∀ n < 16, digitValue? (digit n) = some n)
    (b : UInt8) : byte? (digit (b.toNat / 16)) (digit (b.toNat % 16)) = some b := by
  have high : b.toNat / 16 < 16 := by
    have := b.toNat_lt
    omega
  have low : b.toNat % 16 < 16 := Nat.mod_lt _ (by decide)
  have whole : b.toNat / 16 * 16 + b.toNat % 16 = b.toNat := by omega
  rw [byte?, read _ high, read _ low]
  simp only [whole, UInt8.ofNat_toNat]

theorem byte?_lowerPair (b : UInt8) :
    byte? (lowerDigit (b.toNat / 16)) (lowerDigit (b.toNat % 16)) = some b :=
  byte?_of_digits (by decide) b

/-- Small digits are read back. -/
theorem decode?_lowerPairs (bytes : List UInt8) : decode? (bytes.flatMap lowerPair) = some bytes := by
  induction bytes with
  | nil => rfl
  | cons b bytes ih =>
      rw [List.flatMap_cons, lowerPair, List.cons_append, List.cons_append, List.nil_append,
        decode?, byte?_lowerPair, ih]

theorem lt_of_digitValue? {c : Char} {d : Nat} (read : digitValue? c = some d) : d < 16 := by
  have le : ∀ {a b : Char}, a ≤ b -> a.toNat ≤ b.toNat := fun below => below
  rw [digitValue?] at read
  split at read
  · rename_i digit
    have high : c.toNat ≤ 57 := by
      simp only [Char.isDigit, Bool.and_eq_true, decide_eq_true_eq] at digit
      exact digit.2
    cases read
    change c.toNat - 48 < 16
    omega
  · split at read
    · rename_i small
      rw [Bool.and_eq_true, decide_eq_true_eq, decide_eq_true_eq] at small
      have high : c.toNat ≤ 102 := le small.2
      cases read
      change c.toNat - 97 + 10 < 16
      omega
    · split at read
      · rename_i capital
        rw [Bool.and_eq_true, decide_eq_true_eq, decide_eq_true_eq] at capital
        have high : c.toNat ≤ 70 := le capital.2
        cases read
        change c.toNat - 65 + 10 < 16
        omega
      · cases read

/-- Each digit is a place more. -/
theorem lt_of_natFrom? {cs : List Char} {value n : Nat} (read : natFrom? value cs = some n) :
    n < (value + 1) * 16 ^ cs.length := by
  induction cs generalizing value with
  | nil =>
      cases read
      rw [List.length_nil, Nat.pow_zero, Nat.mul_one]
      exact Nat.lt_succ_self _
  | cons c cs ih =>
      rw [natFrom?] at read
      split at read
      · rename_i d digit
        have small := lt_of_digitValue? digit
        calc n < (value * 16 + d + 1) * 16 ^ cs.length := ih read
          _ ≤ ((value + 1) * 16) * 16 ^ cs.length := Nat.mul_le_mul_right _ (by omega)
          _ = (value + 1) * 16 ^ (c :: cs).length := by
            rw [List.length_cons, Nat.pow_succ, Nat.mul_assoc, Nat.mul_comm 16]
      · cases read

end Hex
end Bytes
end SqlGate
