import SqlGate.Bytes.Percent
import SqlGate.Proofs.Bytes.Numbers
import SqlGate.Proofs.Bytes.Utf8

namespace SqlGate
namespace Bytes

/-!
# Percent encoding read back

Whatever part of the characters is encoded, `%` among them, decoding restores
the text.  Text encoded as widely as possible has no character left but the
unreserved ones, `%` and the digits behind it, so that none of the encodings of
the parts of a URL changes it once more.
-/

namespace Hex

theorem toNat_upperDigit_lt {n : Nat} (half : n < 16) : (upperDigit n).toNat < 0x80 := by
  have table : ∀ n < 16, (upperDigit n).toNat < 0x80 := by decide
  exact table n half

theorem byte?_upperPair (b : UInt8) :
    byte? (upperDigit (b.toNat / 16)) (upperDigit (b.toNat % 16)) = some b :=
  byte?_of_digits (by decide) b

end Hex

namespace Utf8

theorem encodeChar_of_ascii {c : Char} (ascii : c.toNat < 0x80) :
    String.utf8EncodeChar c = [UInt8.ofNat c.toNat] := by
  rw [String.utf8EncodeChar.eq_1, Char.toNat_val, if_pos (by omega)]

theorem toNat_byte_of_ascii {c : Char} (ascii : c.toNat < 0x80) :
    (UInt8.ofNat c.toNat).toNat = c.toNat := by
  rw [UInt8.toNat_ofNat', Nat.mod_eq_of_lt (by omega)]

theorem encode_cons_of_ascii {c : Char} (ascii : c.toNat < 0x80) (cs : List Char) :
    encode (c :: cs) = UInt8.ofNat c.toNat :: encode cs := by
  rw [encode, List.flatMap_cons, encodeChar_of_ascii ascii]
  rfl

theorem encode_injective {cs ds : List Char} (same : encode cs = encode ds) : cs = ds := by
  have decoded := congrArg decode? same
  rw [decode?_encode, decode?_encode] at decoded
  exact Option.some.inj decoded

end Utf8

namespace Percent

theorem encodeWith_cons (reserved : Char -> Bool) (c : Char) (cs : List Char) :
    encodeWith reserved (c :: cs)
      = (if c.toNat < 0x80 && !reserved c then [c] else (String.utf8EncodeChar c).flatMap escape)
        ++ encodeWith reserved cs := rfl

/-! ## Decoding -/

theorem decodeBytes_cons_of_ne {b : UInt8} (plain : b ≠ 0x25) (rest : List UInt8) :
    decodeBytes (b :: rest) = b :: decodeBytes rest := by
  rw [decodeBytes.eq_def]
  split
  · cases ‹b :: rest = []›
  · rename_i same
    cases same
    exact absurd rfl plain
  · rename_i same
    cases same
    rfl

theorem decodeBytes_of_pair {high low : Char} {b : UInt8} (first : high.toNat < 0x80)
    (second : low.toNat < 0x80) (byte : Hex.byte? high low = some b) (cs : List Char) :
    decodeBytes (Utf8.encode ('%' :: high :: low :: cs)) = b :: decodeBytes (Utf8.encode cs) := by
  rw [Utf8.encode_cons_of_ascii (by decide), Utf8.encode_cons_of_ascii first,
    Utf8.encode_cons_of_ascii second]
  change decodeBytes (0x25 :: _ :: _ :: _) = _
  rw [decodeBytes, Utf8.toNat_byte_of_ascii first, Utf8.toNat_byte_of_ascii second,
    Char.ofNat_toNat, Char.ofNat_toNat, byte]

theorem decodeBytes_escape (b : UInt8) (cs : List Char) :
    decodeBytes (Utf8.encode (escape b ++ cs)) = b :: decodeBytes (Utf8.encode cs) := by
  have half := b.toNat_lt
  refine decodeBytes_of_pair ?_ ?_ (Hex.byte?_upperPair b) cs
  · exact Hex.toNat_upperDigit_lt (by omega)
  · exact Hex.toNat_upperDigit_lt (Nat.mod_lt _ (by decide))

theorem decodeBytes_flatMap_escape (bytes : List UInt8) (cs : List Char) :
    decodeBytes (Utf8.encode (bytes.flatMap escape ++ cs))
      = bytes ++ decodeBytes (Utf8.encode cs) := by
  induction bytes with
  | nil => rfl
  | cons b bytes ih =>
      rw [List.flatMap_cons, List.append_assoc, decodeBytes_escape, ih, List.cons_append]

/-- Decoding restores the bytes of a text of which at least every `%` was encoded. -/
theorem decodeBytes_encodeWith {reserved : Char -> Bool} (percent : reserved '%' = true)
    (cs : List Char) : decodeBytes (Utf8.encode (encodeWith reserved cs)) = Utf8.encode cs := by
  induction cs with
  | nil => rfl
  | cons c cs ih =>
      rw [encodeWith_cons]
      split
      · rename_i kept
        obtain ⟨ascii, unreserved⟩ : c.toNat < 0x80 ∧ reserved c = false := by simpa using kept
        have plain : UInt8.ofNat c.toNat ≠ 0x25 := by
          intro same
          have code : c.toNat = '%'.toNat := by
            rw [← Utf8.toNat_byte_of_ascii ascii, same]
            rfl
          rw [Char.toNat_inj.mp code, percent] at unreserved
          cases unreserved
        rw [List.cons_append, List.nil_append, Utf8.encode_cons_of_ascii ascii,
          decodeBytes_cons_of_ne plain, ih, Utf8.encode_cons_of_ascii ascii]
      · rw [decodeBytes_flatMap_escape, ih]
        rfl

/-! ## What encoding leaves alone -/

theorem encodeWith_of_forall {reserved : Char -> Bool} {cs : List Char}
    (kept : ∀ c ∈ cs, c.toNat < 0x80 ∧ reserved c = false) : encodeWith reserved cs = cs := by
  induction cs with
  | nil => rfl
  | cons c cs ih =>
      obtain ⟨ascii, unreserved⟩ := kept c List.mem_cons_self
      rw [encodeWith_cons, ih fun d member => kept d (List.mem_cons_of_mem c member)]
      simp [ascii, unreserved]

theorem one_lt_length_escaped (c : Char) :
    1 < ((String.utf8EncodeChar c).flatMap escape).length := by
  obtain ⟨lead, tail, bytes, -⟩ := Utf8.exists_step_encodeChar c []
  rw [bytes, List.flatMap_cons, List.length_append]
  change 1 < 3 + _
  omega

theorem length_le_length_encodeWith (reserved : Char -> Bool) (cs : List Char) :
    cs.length ≤ (encodeWith reserved cs).length := by
  induction cs with
  | nil => exact Nat.le_refl 0
  | cons c cs ih =>
      rw [encodeWith_cons, List.length_append, List.length_cons]
      split
      · rw [List.length_singleton]
        omega
      · have := one_lt_length_escaped c
        omega

/-- Encoding a character makes the text longer, so only what is left alone keeps its text. -/
theorem encodeWith_eq_self_iff {reserved : Char -> Bool} {cs : List Char} :
    encodeWith reserved cs = cs ↔ ∀ c ∈ cs, c.toNat < 0x80 ∧ reserved c = false := by
  constructor
  · intro same c member
    induction cs with
    | nil => cases member
    | cons d cs ih =>
        rw [encodeWith_cons] at same
        split at same
        · rename_i kept
          rcases List.mem_cons.mp member with rfl | member
          · simpa using kept
          · exact ih (List.cons.inj same).2 member
        · -- an encoded character takes more room than it had, and nothing gives room back
          have := congrArg List.length same
          have := length_le_length_encodeWith reserved cs
          have := one_lt_length_escaped d
          rw [List.length_append, List.length_cons] at *
          omega
  · exact encodeWith_of_forall

/-! ## Unreserved characters -/

/-- The characters that stand for themselves everywhere in a URL. -/
def isUnreserved (c : Char) : Bool :=
  c.isAlphanum || ['-', '.', '_', '~'].contains c

/-- Whether a text has none but unreserved characters. -/
def isPlain (s : String) : Bool :=
  s.toList.all isUnreserved

/-- Encode every character that is not unreserved. -/
def encodeText (s : String) : String :=
  String.ofList (encodeWith (fun c => !isUnreserved c) s.toList)

/-- The text whose encoding is given, if it is UTF-8. -/
def decodeText? (s : String) : Option String :=
  toText? (decodeBytes (ofText s))

/-- The characters of an encoded text. -/
def isWritten (c : Char) : Bool :=
  isUnreserved c || c == '%'

/-- Texts that need no encoding, because they have been encoded or have no reserved character. -/
def Written (cs : List Char) : Prop :=
  ∀ c ∈ cs, isWritten c = true

theorem toNat_lt_of_isWritten {c : Char} (written : isWritten c = true) : c.toNat < 128 := by
  have ranges : c.isAlphanum
      = ((decide (c.val ≥ 65 ∧ c.val ≤ 90) || (c.val ≥ 97 && c.val ≤ 122))
        || (c.val ≥ 48 && c.val ≤ 57)) := rfl
  have code : c.val.toNat = c.toNat := rfl
  simp [isWritten, isUnreserved, ranges, UInt32.le_iff_toNat_le] at written
  rcases written with ((((upper | lower) | digit) | rfl | rfl | rfl | rfl) | rfl)
  case inl.inl.inl.inl | inl.inl.inl.inr | inl.inl.inr => omega
  all_goals decide

/-- What holds of the characters of an encoded text can be looked up in the table of ASCII. -/
theorem Written.forall {cs : List Char} (written : Written cs) {P : Char -> Prop}
    (table : ∀ n < 128, isWritten (Char.ofNat n) = true -> P (Char.ofNat n)) :
    ∀ c ∈ cs, P c := by
  intro c member
  have found := table c.toNat (toNat_lt_of_isWritten (written c member))
  rw [Char.ofNat_toNat] at found
  exact found (written c member)

theorem Written.not_mem {cs : List Char} (written : Written cs) {c : Char}
    (delimiter : isWritten c = false) : c ∉ cs := by
  intro member
  rw [written c member] at delimiter
  cases delimiter

theorem isWritten_of_isUnreserved {c : Char} (unreserved : isUnreserved c = true) :
    isWritten c = true := by
  rw [isWritten, unreserved, Bool.true_or]

theorem isWritten_of_isAlphanum {c : Char} (letter : c.isAlphanum = true) :
    isWritten c = true := by
  refine isWritten_of_isUnreserved ?_
  rw [isUnreserved, letter, Bool.true_or]

theorem written_of_isAlpha {cs : List Char} (letters : ∀ c ∈ cs, c.isAlpha = true) :
    Written cs := by
  intro c member
  refine isWritten_of_isAlphanum ?_
  rw [Char.isAlphanum, letters c member, Bool.true_or]

theorem written_of_isPlain {s : String} (plain : isPlain s = true) : Written s.toList :=
  fun c member => isWritten_of_isUnreserved (List.all_eq_true.mp plain c member)

theorem isWritten_escape {b : UInt8} {c : Char} (member : c ∈ escape b) : isWritten c = true := by
  have table : ∀ n < 16, isWritten (Hex.upperDigit n) = true := by decide
  have half := b.toNat_lt
  simp only [escape, Hex.upperPair, List.mem_cons, List.not_mem_nil, or_false] at member
  rcases member with rfl | rfl | rfl
  · rfl
  · exact table _ (by omega)
  · exact table _ (Nat.mod_lt _ (by decide))

theorem written_encodeText (s : String) : Written (encodeText s).toList := by
  intro c member
  rw [encodeText, String.toList_ofList, encodeWith, List.mem_flatMap] at member
  obtain ⟨d, -, member⟩ := member
  split at member
  · rename_i kept
    rw [List.mem_singleton] at member
    subst member
    simp only [Bool.not_not, Bool.and_eq_true] at kept
    exact isWritten_of_isUnreserved kept.2
  · obtain ⟨b, -, member⟩ := List.mem_flatMap.mp member
    exact isWritten_escape member

theorem decodeBytes_encodeText (s : String) : decodeBytes (ofText (encodeText s)) = ofText s := by
  rw [ofText, encodeText, String.toList_ofList]
  exact decodeBytes_encodeWith (by decide) s.toList

theorem decodeText?_encodeText (s : String) : decodeText? (encodeText s) = some s := by
  rw [decodeText?, decodeBytes_encodeText, toText?_ofText]

/-- Only a text without reserved characters is its own encoding. -/
theorem encodeText_eq_self_iff {s : String} : encodeText s = s ↔ isPlain s = true := by
  rw [encodeText, ← String.toList_inj, String.toList_ofList, encodeWith_eq_self_iff, isPlain,
    List.all_eq_true]
  refine forall₂_congr fun c _ => ?_
  rw [Bool.not_eq_false']
  constructor
  · exact And.right
  · intro unreserved
    exact ⟨toNat_lt_of_isWritten (isWritten_of_isUnreserved unreserved), unreserved⟩

theorem encodeText_ne_empty {s : String} (given : s ≠ "") : encodeText s ≠ "" := by
  intro empty
  have short := length_le_length_encodeWith (fun c => !isUnreserved c) s.toList
  rw [← String.toList_inj, encodeText, String.toList_ofList] at empty
  rw [empty] at short
  exact given (String.toList_inj.mp (List.length_eq_zero_iff.mp (Nat.le_zero.mp short)))

end Percent

end Bytes
end SqlGate
