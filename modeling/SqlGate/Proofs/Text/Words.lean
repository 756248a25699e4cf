import Mathlib.Data.List.Basic
import SqlGate.Text.Blank
import SqlGate.Text.Case

namespace SqlGate
namespace Text

/-!
# The words of a text

A text is words with gaps between them: a gap before, between and behind them may be
any run of blanks, but two words do not touch.  `Spaced` says this of a text and a
list of words without saying how the words are found, and every text has exactly one
list of words in this sense.  So the words do not depend on which blanks stand in a
gap or how many.

A blank inside a word makes two words of it.  That leaves all that is not blank
where it was, and counts one word more.
-/

variable {c d : Char} {cs front gap behind rest w : List Char} {ws : List (List Char)}

/-- A word has a character, and none that is blank. -/
structure IsWord (w : List Char) : Prop where
  /-- There is something in it. -/
  ne_nil : w ≠ []
  /-- No blank is in it. -/
  solid : ∀ c ∈ w, isBlank c = false

/-- Only blanks. -/
def IsGap (gap : List Char) : Prop :=
  ∀ c ∈ gap, isBlank c = true

/-- Nothing, or something that begins with a blank. -/
def Parted (rest : List Char) : Prop :=
  ∀ c ∈ rest.head?, isBlank c = true

theorem IsGap.map {f : Char -> Char} (keeps : ∀ c, isBlank (f c) = isBlank c)
    (blank : IsGap gap) : IsGap (gap.map f) := by
  intro d member
  obtain ⟨c, inside, rfl⟩ := List.mem_map.mp member
  rw [keeps, blank c inside]

/-- Nothing in a gap is not blank. -/
theorem IsGap.filter_eq_nil (blank : IsGap gap) : gap.filter (fun c => !isBlank c) = [] := by
  rw [List.filter_eq_nil_iff]
  intro c member
  rw [blank c member]
  exact Bool.false_ne_true

theorem parted_nil : Parted [] := nofun

theorem parted_cons (blank : isBlank c = true) (rest : List Char) : Parted (c :: rest) := by
  intro d first
  cases first
  exact blank

/-- A text is made of words with gaps before, between and behind them. -/
inductive Spaced : List (List Char) -> List Char -> Prop
  | gap {gap : List Char} (blank : IsGap gap) : Spaced [] gap
  | word {gap w rest : List Char} {ws : List (List Char)} (blank : IsGap gap) (given : IsWord w)
      (parted : Parted rest) (more : Spaced ws rest) : Spaced (w :: ws) (gap ++ (w ++ rest))

/-! ## One character more -/

theorem words_cons_last (solid : isBlank c = false) (parted : Parted rest) :
    words (c :: rest) = [c] :: words rest := by
  cases rest with
  | nil => simp [words, solid]
  | cons d more => simp [words, solid, parted d rfl]

theorem words_cons_inside (solid : isBlank c = false) (next : isBlank d = false)
    (found : words (d :: rest) = w :: ws) : words (c :: d :: rest) = (c :: w) :: ws := by
  rw [words, if_neg (Bool.eq_false_iff.mp solid), found]
  simp [next]

theorem words_gap_append (blank : IsGap gap) (rest : List Char) :
    words (gap ++ rest) = words rest := by
  induction gap with
  | nil => rfl
  | cons c gap ih =>
      rw [List.cons_append, words_cons_blank (blank c List.mem_cons_self)]
      exact ih fun d member => blank d (List.mem_cons_of_mem c member)

theorem words_word_append (given : IsWord w) (parted : Parted rest) :
    words (w ++ rest) = w :: words rest := by
  obtain ⟨c, more, rfl⟩ := List.exists_cons_of_ne_nil given.ne_nil
  induction more generalizing c with
  | nil => exact words_cons_last (given.solid c List.mem_cons_self) parted
  | cons d more ih =>
      have after : IsWord (d :: more) :=
        ⟨List.cons_ne_nil d more, fun e member => given.solid e (List.mem_cons_of_mem c member)⟩
      exact words_cons_inside (given.solid c List.mem_cons_self)
        (after.solid d List.mem_cons_self) (ih d after)

/-! ## The words of a text are its only ones -/

theorem words_of_spaced (spaced : Spaced ws cs) : words cs = ws := by
  induction spaced with
  | gap blank => simpa using words_gap_append blank []
  | word blank given parted more ih => rw [words_gap_append blank, words_word_append given parted, ih]

theorem Spaced.cons_blank (blank : isBlank c = true) (spaced : Spaced ws cs) :
    Spaced ws (c :: cs) := by
  have longer : ∀ {gap : List Char}, IsGap gap -> IsGap (c :: gap) := by
    intro gap given d member
    rcases List.mem_cons.mp member with rfl | later
    · exact blank
    · exact given d later
  cases spaced with
  | gap given => exact .gap (longer given)
  | word given isWord parted more => exact .word (longer given) isWord parted more

theorem Spaced.cons_last (solid : isBlank c = false) (parted : Parted cs)
    (spaced : Spaced ws cs) : Spaced ([c] :: ws) (c :: cs) := by
  refine @Spaced.word [] [c] cs ws nofun ⟨List.cons_ne_nil c [], ?_⟩ parted spaced
  intro d member
  rw [List.mem_singleton.mp member, solid]

/-- A character in front of a word belongs to the word. -/
theorem Spaced.cons_inside (solid : isBlank c = false) (next : isBlank d = false)
    (spaced : Spaced ws (d :: rest)) :
    ∃ w others, ws = w :: others ∧ Spaced ((c :: w) :: others) (c :: d :: rest) := by
  generalize whole : d :: rest = cs at spaced
  cases spaced with
  | gap blank =>
      have member : d ∈ cs := whole ▸ List.mem_cons_self
      exact absurd (blank d member) (by rw [next]; nofun)
  | @word gap w behind others blank given parted more =>
      cases gap with
      | cons e gap =>
          have same : d = e := (List.cons.inj whole).1
          exact absurd (blank e List.mem_cons_self) (by rw [← same, next]; nofun)
      | nil =>
          refine ⟨w, others, rfl, ?_⟩
          refine @Spaced.word [] (c :: w) behind others nofun ⟨List.cons_ne_nil c w, ?_⟩ parted more
          intro e member
          rcases List.mem_cons.mp member with rfl | later
          · exact solid
          · exact given.solid e later

theorem spaced_words (cs : List Char) : Spaced (words cs) cs := by
  induction cs with
  | nil => exact .gap nofun
  | cons c rest ih =>
      by_cases blank : isBlank c = true
      · rw [words_cons_blank blank]
        exact ih.cons_blank blank
      · have solid : isBlank c = false := Bool.not_eq_true _ ▸ blank
        by_cases parted : Parted rest
        · rw [words_cons_last solid parted]
          exact ih.cons_last solid parted
        · cases rest with
          | nil => exact absurd parted_nil parted
          | cons d more =>
              have next : isBlank d = false :=
                Bool.eq_false_iff.mpr fun blank => parted (parted_cons blank more)
              obtain ⟨w, others, found, spaced⟩ := ih.cons_inside solid next
              rw [words_cons_inside solid next found]
              exact spaced

/-- Every text has one list of words. -/
theorem words_eq_iff : words cs = ws ↔ Spaced ws cs :=
  ⟨fun found => found ▸ spaced_words cs, words_of_spaced⟩

/-! ## Words that are changed or put together -/

/-- A change of characters that keeps blanks and other characters apart changes word by word. -/
theorem Spaced.map {f : Char -> Char} (keeps : ∀ c, isBlank (f c) = isBlank c)
    (spaced : Spaced ws cs) : Spaced (ws.map (List.map f)) (cs.map f) := by
  induction spaced with
  | gap blank => exact .gap (blank.map keeps)
  | @word gap w rest ws blank given parted more ih =>
      rw [List.map_append, List.map_append]
      refine .word (blank.map keeps) ⟨?_, ?_⟩ ?_ ih
      · simpa using given.ne_nil
      · intro d member
        obtain ⟨c, inside, rfl⟩ := List.mem_map.mp member
        rw [keeps]
        exact given.solid c inside
      · intro d first
        rw [List.head?_map] at first
        obtain ⟨c, front, rfl⟩ := Option.map_eq_some_iff.mp first
        rw [keeps]
        exact parted c front

theorem words_map {f : Char -> Char} (keeps : ∀ c, isBlank (f c) = isBlank c) (cs : List Char) :
    words (cs.map f) = (words cs).map (List.map f) :=
  words_of_spaced ((spaced_words cs).map keeps)

/-- All words of a text are words. -/
theorem Spaced.isWord (spaced : Spaced ws cs) : ∀ w ∈ ws, IsWord w := by
  induction spaced with
  | gap blank => nofun
  | word blank given parted more ih =>
      intro other member
      rcases List.mem_cons.mp member with rfl | later
      · exact given
      · exact ih other later

/-- Words with one blank between them have these words. -/
theorem words_intercalate (given : ∀ w ∈ ws, IsWord w) : words ([' '].intercalate ws) = ws := by
  induction ws with
  | nil => rfl
  | cons w ws ih =>
      have here := given w List.mem_cons_self
      have behind := ih fun other member => given other (List.mem_cons_of_mem w member)
      cases ws with
      | nil =>
          have alone := words_word_append here parted_nil
          rw [List.append_nil, words_nil] at alone
          rw [List.intercalate_singleton, alone]
      | cons next others =>
          have parted : Parted ([' '] ++ [' '].intercalate (next :: others)) := parted_cons rfl _
          rw [List.intercalate_cons_cons, List.append_assoc, words_word_append here parted,
            List.singleton_append, words_cons_blank rfl, behind]

/-- Words keep all that is not blank, in its order. -/
theorem flatten_words (cs : List Char) :
    (words cs).flatten = cs.filter fun c => !isBlank c := by
  have spaced := spaced_words cs
  generalize words cs = ws at spaced
  induction spaced with
  | gap blank => rw [blank.filter_eq_nil, List.flatten_nil]
  | @word gap w rest ws blank given parted more ih =>
      have kept : w.filter (fun c => !isBlank c) = w := by
        rw [List.filter_eq_self]
        intro c member
        rw [given.solid c member]
        rfl
      rw [List.flatten_cons, List.filter_append, List.filter_append, blank.filter_eq_nil, kept, ih,
        List.nil_append]

/-! ## A blank inside a word -/

/-- What stands in front of a gap and what stands behind it have their words for themselves. -/
theorem words_append_parted (parted : Parted rest) (front : List Char) :
    words (front ++ rest) = words front ++ words rest := by
  induction front with
  | nil => rfl
  | cons c front ih =>
      rw [List.cons_append]
      by_cases blank : isBlank c = true
      · rw [words_cons_blank blank, words_cons_blank blank, ih]
      · have solid : isBlank c = false := Bool.not_eq_true _ ▸ blank
        cases front with
        | nil =>
            rw [List.nil_append, words_cons_last solid parted, words_cons_last solid parted_nil]
            rfl
        | cons d more =>
            by_cases last : isBlank d = true
            · rw [List.cons_append] at ih ⊢
              rw [words_cons_last solid (parted_cons last _),
                words_cons_last solid (parted_cons last _), ih]
              rfl
            · have next : isBlank d = false := Bool.not_eq_true _ ▸ last
              obtain ⟨w, others, found, -⟩ := (spaced_words (d :: more)).cons_inside solid next
              rw [found, List.cons_append, List.cons_append] at ih
              rw [List.cons_append, words_cons_inside solid next ih,
                words_cons_inside solid next found]
              rfl

/-- Where a word is cut in two, one word more is counted. -/
theorem length_words_cut (last : isBlank c = false) (next : isBlank d = false)
    (front behind : List Char) :
    (words (front ++ [c])).length + (words (d :: behind)).length
      = (words (front ++ c :: d :: behind)).length + 1 := by
  induction front with
  | nil =>
      obtain ⟨w, others, found, -⟩ := (spaced_words (d :: behind)).cons_inside last next
      rw [List.nil_append, List.nil_append, words_cons_inside last next found,
        words_cons_last last parted_nil, found, words_nil]
      simp only [List.length_cons, List.length_nil]
      omega
  | cons e front ih =>
      rw [List.cons_append, List.cons_append]
      by_cases blank : isBlank e = true
      · rw [words_cons_blank blank, words_cons_blank blank, ih]
      · have solid : isBlank e = false := Bool.not_eq_true _ ▸ blank
        -- Both texts go on with the same character, which parts `e` from the rest or does not.
        have same : ∃ f one two, front ++ [c] = f :: one ∧ front ++ c :: d :: behind = f :: two := by
          cases front with
          | nil => exact ⟨c, [], d :: behind, rfl, rfl⟩
          | cons f more => exact ⟨f, more ++ [c], more ++ c :: d :: behind, rfl, rfl⟩
        obtain ⟨f, one, two, short, long⟩ := same
        rw [short, long] at ih ⊢
        by_cases ends : isBlank f = true
        · rw [words_cons_last solid (parted_cons ends one),
            words_cons_last solid (parted_cons ends two)]
          simp only [List.length_cons]
          omega
        · have inside : isBlank f = false := Bool.not_eq_true _ ▸ ends
          obtain ⟨v, others, found, -⟩ := (spaced_words (f :: one)).cons_inside solid inside
          obtain ⟨w, more, also, -⟩ := (spaced_words (f :: two)).cons_inside solid inside
          rw [words_cons_inside solid inside found, words_cons_inside solid inside also]
          rw [found, also] at ih
          simpa using ih

/-- A gap inside a word adds a word and moves nothing that is not blank. -/
theorem words_gap_inside (last : isBlank c = false) (next : isBlank d = false)
    (given : gap ≠ []) (blank : IsGap gap) (front behind : List Char) :
    (words (front ++ c :: (gap ++ d :: behind))).length
        = (words (front ++ c :: d :: behind)).length + 1
      ∧ (words (front ++ c :: (gap ++ d :: behind))).flatten
        = (words (front ++ c :: d :: behind)).flatten := by
  constructor
  · have parted : Parted (gap ++ d :: behind) := by
      obtain ⟨e, more, rfl⟩ := List.exists_cons_of_ne_nil given
      exact parted_cons (blank e List.mem_cons_self) _
    have apart := words_append_parted parted (front ++ [c])
    rw [List.append_assoc, List.singleton_append, words_gap_append blank] at apart
    rw [apart, List.length_append, length_words_cut last next]
  · rw [flatten_words, flatten_words]
    simp [List.filter_append, List.filter_cons, blank.filter_eq_nil]

/-! ## ASCII case -/

/-- Raising a letter neither makes a blank nor takes one away. -/
theorem isBlank_toUpper (c : Char) : isBlank c.toUpper = isBlank c := by
  unfold Char.toUpper
  split
  · rename_i small
    have range : 97 ≤ c.val.toNat ∧ c.val.toNat ≤ 122 := by
      simpa [UInt32.le_iff_toNat_le] using small
    have raised : (c.val + ('A'.val - 'a'.val)).toNat = c.val.toNat - 32 := by
      rw [UInt32.toNat_add]
      have less : ('A'.val - 'a'.val).toNat = 2 ^ 32 - 32 := rfl
      omega
    -- Both codes are those of letters, and no blank is among them.
    rw [Bool.eq_iff_iff]
    simp only [isBlank, Char.toNat, raised, Bool.or_eq_true, Bool.and_eq_true, decide_eq_true_eq,
      beq_iff_eq]
    omega
  · rfl

end Text
end SqlGate
