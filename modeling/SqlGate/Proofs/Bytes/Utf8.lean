import Mathlib.Data.List.Basic
import SqlGate.Bytes.Utf8

namespace SqlGate
namespace Bytes
namespace Utf8

/-!
# Decoding what was encoded

A character is encoded as one to four bytes, according to its number.  For each
of the four lengths one step of the decoder takes the bytes from the front and
puts the number together again; so a text is decoded one character a step.
-/

variable {lead b c d : UInt8} {rest : List UInt8} {n : Nat}

theorem isTail_of_toNat {k : Nat} (eq : b.toNat = 0x80 + k) (below : k < 0x40) :
    isTail b = true := by
  simp [isTail, UInt8.le_iff_toNat_le, eq]
  omega

theorem tailBits_of_toNat {k : Nat} (eq : b.toNat = 0x80 + k) : tailBits b = k := by
  unfold tailBits
  omega

theorem step_one (eq : lead.toNat = n) (top : n < 0x80) :
    step lead rest = (some (Char.ofNat n), rest) := by
  have small : lead < 0x80 := by
    rw [UInt8.lt_iff_toNat_lt, eq]
    exact top
  unfold step
  rw [if_pos small, eq]

theorem step_two (first : lead.toNat = 0xC0 + n / 0x40) (second : b.toNat = 0x80 + n % 0x40)
    (bottom : 0x80 ≤ n) (top : n < 0x800) :
    step lead (b :: rest) = (some (Char.ofNat n), rest) := by
  have large : ¬lead < 0x80 := by
    simp [UInt8.lt_iff_toNat_lt, first]
    omega
  have two : (0xC2 ≤ lead && lead ≤ 0xDF) = true := by
    simp [UInt8.le_iff_toNat_le, first]
    omega
  have number : (lead.toNat - 0xC0) * 64 + tailBits b = n := by
    rw [first, tailBits_of_toNat second]
    omega
  unfold step
  rw [if_neg large, if_pos two]
  simp only [isTail_of_toNat second (by omega), if_true, number]

/-- A second byte is admitted if the number is written in no fewer bytes and is no surrogate. -/
theorem follows_of_toNat {k : Nat} (second : b.toNat = 0x80 + k) (below : k < 0x40)
    (notShort3 : lead.toNat = 0xE0 -> 0x20 ≤ k) (notShort4 : lead.toNat = 0xF0 -> 0x10 ≤ k)
    (noSurrogate : lead.toNat = 0xED -> k < 0x20) (inRange : lead.toNat = 0xF4 -> k < 0x10) :
    follows lead b = true := by
  simp only [follows, secondFrom, secondTo, beq_iff_eq, ← UInt8.toNat_inj, UInt8.le_iff_toNat_le,
    Bool.and_eq_true, decide_eq_true_eq, second]
  constructor
  · split
    · have := notShort3 ‹_›
      simp
      omega
    · split
      · have := notShort4 ‹_›
        simp
        omega
      · simp
  · split
    · have := noSurrogate ‹_›
      simp
      omega
    · split
      · have := inRange ‹_›
        simp
        omega
      · simp
        omega

theorem step_three (first : lead.toNat = 0xE0 + n / 0x1000)
    (second : b.toNat = 0x80 + n / 0x40 % 0x40) (third : c.toNat = 0x80 + n % 0x40)
    (bottom : 0x800 ≤ n) (top : n < 0x10000) (noSurrogate : n < 0xD800 ∨ 0xDFFF < n) :
    step lead (b :: c :: rest) = (some (Char.ofNat n), rest) := by
  have large : ¬lead < 0x80 := by
    simp [UInt8.lt_iff_toNat_lt, first]
    omega
  have notTwo : ¬(0xC2 ≤ lead && lead ≤ 0xDF) = true := by
    simp [UInt8.le_iff_toNat_le, first]
    omega
  have three : (0xE0 ≤ lead && lead ≤ 0xEF) = true := by
    simp [UInt8.le_iff_toNat_le, first]
    omega
  have admitted : follows lead b = true :=
    follows_of_toNat second (by omega) (by omega) (by omega) (by omega) (by omega)
  have number : (lead.toNat - 0xE0) * 4096 + tailBits b * 64 + tailBits c = n := by
    rw [first, tailBits_of_toNat second, tailBits_of_toNat third]
    omega
  unfold step
  rw [if_neg large, if_neg notTwo, if_pos three]
  simp only [admitted, isTail_of_toNat third (by omega), if_true, number]

theorem step_four (first : lead.toNat = 0xF0 + n / 0x40000)
    (second : b.toNat = 0x80 + n / 0x1000 % 0x40) (third : c.toNat = 0x80 + n / 0x40 % 0x40)
    (fourth : d.toNat = 0x80 + n % 0x40) (bottom : 0x10000 ≤ n) (top : n < 0x110000) :
    step lead (b :: c :: d :: rest) = (some (Char.ofNat n), rest) := by
  have large : ¬lead < 0x80 := by
    simp [UInt8.lt_iff_toNat_lt, first]
    omega
  have notTwo : ¬(0xC2 ≤ lead && lead ≤ 0xDF) = true := by
    simp [UInt8.le_iff_toNat_le, first]
    omega
  have notThree : ¬(0xE0 ≤ lead && lead ≤ 0xEF) = true := by
    simp [UInt8.le_iff_toNat_le, first]
    omega
  have four : (0xF0 ≤ lead && lead ≤ 0xF4) = true := by
    simp [UInt8.le_iff_toNat_le, first]
    omega
  have admitted : follows lead b = true :=
    follows_of_toNat second (by omega) (by omega) (by omega) (by omega) (by omega)
  have number : (lead.toNat - 0xF0) * 262144 + tailBits b * 4096 + tailBits c * 64
      + tailBits d = n := by
    rw [first, tailBits_of_toNat second, tailBits_of_toNat third, tailBits_of_toNat fourth]
    omega
  unfold step
  rw [if_neg large, if_neg notTwo, if_neg notThree, if_pos four]
  simp only [admitted, isTail_of_toNat third (by omega), isTail_of_toNat fourth (by omega),
    if_true, number]

/-- One step takes the bytes of one character, whatever follows them. -/
theorem exists_step_encodeChar (char : Char) (rest : List UInt8) :
    ∃ lead tail, String.utf8EncodeChar char = lead :: tail
      ∧ step lead (tail ++ rest) = (some char, rest) := by
  have valid : char.toNat < 0xD800 ∨ 0xDFFF < char.toNat ∧ char.toNat < 0x110000 := char.valid
  have number : Char.ofNat char.toNat = char := Char.ofNat_toNat char
  -- the encoder cuts the numbers at the same places as the four lemmas above
  rw [String.utf8EncodeChar.eq_1, Char.toNat_val]
  generalize char.toNat = n at valid number
  subst number
  by_cases one : n ≤ 127
  · rw [if_pos one]
    exact ⟨_, _, rfl, step_one (by simp; omega) (by omega)⟩
  · rw [if_neg one]
    by_cases two : n ≤ 2047
    · rw [if_pos two]
      refine ⟨_, _, rfl, step_two ?_ ?_ (by omega) (by omega)⟩
      all_goals
        simp
        omega
    · rw [if_neg two]
      by_cases three : n ≤ 65535
      · rw [if_pos three]
        refine ⟨_, _, rfl, step_three ?_ ?_ ?_ (by omega) (by omega) (by omega)⟩
        all_goals
          simp
          omega
      · rw [if_neg three]
        refine ⟨_, _, rfl, step_four ?_ ?_ ?_ ?_ (by omega) (by omega)⟩
        all_goals
          simp
          omega

theorem decodeSteps_encode (cs : List Char) : decodeSteps (encode cs) = cs.map some := by
  induction cs with
  | nil => rw [encode, List.flatMap_nil, decodeSteps, List.map_nil]
  | cons char cs ih =>
      obtain ⟨lead, tail, bytes, stepped⟩ := exists_step_encodeChar char (encode cs)
      have split : encode (char :: cs) = lead :: (tail ++ encode cs) := by
        rw [encode, List.flatMap_cons, bytes, List.cons_append]
        rfl
      rw [split, decodeSteps, stepped, ih, List.map_cons]

/-- An encoded text is decoded to itself. -/
theorem decode?_encode (cs : List Char) : decode? (encode cs) = some cs := by
  rw [decode?, decodeSteps_encode]
  induction cs with
  | nil => rfl
  | cons char cs ih =>
      rw [List.map_cons, List.mapM_cons, ih]
      rfl

/-! ## Bytes of ASCII characters -/

theorem mem_of_mem_cons_of_isTail (ascii : b < 0x80) (tail : isTail c = true)
    (member : b ∈ c :: rest) : b ∈ rest := by
  rcases List.mem_cons.mp member with rfl | member
  · rw [isTail, Bool.and_eq_true, decide_eq_true_eq] at tail
    exact absurd tail.1 (UInt8.not_le.mpr ascii)
  · exact member

theorem mem_of_mem_cons_of_follows (ascii : b < 0x80) (follow : follows lead c = true)
    (member : b ∈ c :: rest) : b ∈ rest := by
  have high : 0x80 ≤ secondFrom lead := by
    rw [secondFrom]
    split
    · decide
    · split
      · decide
      · decide
  rcases List.mem_cons.mp member with rfl | member
  · rw [follows, Bool.and_eq_true, decide_eq_true_eq] at follow
    exact absurd (UInt8.le_trans high follow.1) (UInt8.not_le.mpr ascii)
  · exact member

/-- A step takes no byte of an ASCII character but the one in front. -/
theorem mem_step (ascii : b < 0x80) (member : b ∈ rest) (lead : UInt8) :
    b ∈ (step lead rest).2 := by
  have second : ∀ {c more}, follows lead c = true -> b ∈ c :: more -> b ∈ more :=
    mem_of_mem_cons_of_follows ascii
  have tail : ∀ {c more}, isTail c = true -> b ∈ c :: more -> b ∈ more :=
    mem_of_mem_cons_of_isTail ascii
  unfold step
  split
  · exact member
  · split
    -- two bytes
    · split
      · split
        · exact tail ‹_› member
        · exact member
      · exact member
    · split
      -- three bytes
      · split
        · split
          · split
            · split
              · exact tail ‹_› (second ‹_› member)
              · exact second ‹_› member
            · exact second ‹_› member
          · exact member
        · exact member
      · split
        -- four bytes
        · split
          · split
            · split
              · split
                · split
                  · split
                    · exact tail ‹_› (tail ‹_› (second ‹_› member))
                    · exact tail ‹_› (second ‹_› member)
                  · exact tail ‹_› (second ‹_› member)
                · exact second ‹_› member
              · exact second ‹_› member
            · exact member
          · exact member
        · exact member

/-- The byte of an ASCII character is decoded to it, whatever stands around it. -/
theorem mem_decodeSteps {bytes : List UInt8} (ascii : b < 0x80) (member : b ∈ bytes) :
    some (Char.ofNat b.toNat) ∈ decodeSteps bytes := by
  -- the steps of the decoder, since a step may take several bytes
  induction bytes using decodeSteps.induct with
  | case1 => cases member
  | case2 lead rest ih =>
      rw [decodeSteps]
      rcases List.mem_cons.mp member with rfl | member
      · have taken : (step b rest).1 = some (Char.ofNat b.toNat) := by
          rw [step.eq_def, if_pos ascii]
        rw [taken]
        exact List.mem_cons_self
      · exact List.mem_cons_of_mem _ (ih (mem_step ascii member lead))

theorem decodeSteps_of_decode? {bytes : List UInt8} {cs : List Char}
    (decoded : decode? bytes = some cs) : decodeSteps bytes = cs.map some := by
  rw [decode?] at decoded
  generalize decodeSteps bytes = steps at decoded
  induction steps generalizing cs with
  | nil =>
      cases decoded
      rfl
  | cons found steps ih =>
      rw [List.mapM_cons, Option.bind_eq_bind, Option.bind_eq_some_iff] at decoded
      rcases decoded with ⟨c, isSome, decoded⟩
      rw [Option.bind_eq_bind, Option.bind_eq_some_iff] at decoded
      rcases decoded with ⟨rest, others, joined⟩
      cases joined
      rw [List.map_cons, ← ih others]
      exact congrArg (· :: steps) isSome

end Utf8

@[simp] theorem toText?_ofText (s : String) : toText? (ofText s) = some s := by
  rw [toText?, ofText, Utf8.decode?_encode, Option.map_some, String.ofList_toList]

end Bytes
end SqlGate
