namespace SqlGate
namespace Text

/-!
# Blank characters, words and trimming

A character is blank when it has the Unicode property `White_Space`.  Names are
required not to consist of blanks only, and an operator may be padded and
spaced with any of them, so every rule about spacing in this library goes
through the one predicate of this module.
-/

/-- The characters with the Unicode property `White_Space`. -/
def isBlank (c : Char) : Bool :=
  let code := c.toNat
  (9 ≤ code && code ≤ 13) || code == 0x20 || code == 0x85 || code == 0xA0 || code == 0x1680
    || (0x2000 ≤ code && code ≤ 0x200A) || code == 0x2028 || code == 0x2029
    || code == 0x202F || code == 0x205F || code == 0x3000

/-- The maximal runs of characters that are not blank, in order. -/
def words : List Char -> List (List Char)
  | [] => []
  | c :: rest =>
      if isBlank c then words rest
      else
        match rest, words rest with
        | [], _ => [[c]]
        | d :: _, found =>
            if isBlank d then [c] :: found
            else
              match found with
              | [] => [[c]]
              | word :: others => (c :: word) :: others

def trimStart (cs : List Char) : List Char :=
  cs.dropWhile isBlank

def trim (cs : List Char) : List Char :=
  (trimStart (trimStart cs).reverse).reverse

def isBlankText (s : String) : Bool :=
  s.toList.all isBlank

@[simp] theorem words_nil : words [] = [] := rfl

theorem words_cons_blank {c : Char} (h : isBlank c = true) (rest : List Char) :
    words (c :: rest) = words rest := by
  simp [words, h]

end Text
end SqlGate
