import SqlGate.Proofs.Calendar.Written

namespace SqlGate
namespace Calendar

/-!
# Moments as a server writes them

A moment is written as its day, a blank and its time; one that is meant all over
the world has an offset behind, which is always zero here, and the mark of the
years before the first stands behind all of it.  A moment is read back exactly
if its day is: what cannot be read of another one is left over at the end.
-/

namespace Reading

theorem takeTime_blank (cs : List Char) : takeTime (' ' :: cs) = takeTime cs := rfl

theorem takeMoment_written {date : Date} (small : date.writtenYear < 10000)
    (month : date.month < 100) (day : date.day < 100) {micros : Nat}
    (inDay : micros ≤ 86400000000) {rest : List Char} (ends : Ends rest)
    (noPoint : rest.head? ≠ some '.') :
    takeMoment (date.written ++ ' ' :: (writtenTime micros ++ rest))
      = (Date.make? (Int.ofNat date.writtenYear) date.month date.day).bind fun taken =>
        (TimeOfDay.make? (micros / 3600000000) (micros / 60000000 % 60) (micros / 1000000 % 60)
          (micros % 1000000 * 1000)).map fun time => (⟨taken, time⟩, rest) := by
  rw [takeMoment, takeDate_written small month day]
  cases Date.make? (Int.ofNat date.writtenYear) date.month date.day with
  | none => rfl
  | some taken =>
      simp only [Option.map_some, Option.bind_eq_bind, Option.bind_some, takeTime_blank,
        takeTime_written inDay ends noPoint]
      rw [Option.map_eq_bind, Option.map_eq_bind, Option.bind_assoc]
      rfl

theorem takeMoment_written_of_le {date : Date} (large : 10000 ≤ date.writtenYear)
    (rest : List Char) : takeMoment (date.written ++ rest) = none := by
  rw [takeMoment, takeDate_written_of_le large]
  rfl

end Reading

namespace Moment

variable {date : Date} {micros : Nat}

def written (date : Date) (micros : Nat) : List Char :=
  date.written ++ ' ' :: writtenTime micros

/-- The moment of a day and a number of microseconds after midnight. -/
def ofParts (date : Date) (micros : Nat) : Moment :=
  ⟨date, TimeOfDay.ofMicros micros⟩

theorem takeMoment_written (isDay : date.IsDay) (plain : date.isPlain = true)
    (inDay : micros < 86400000000) (rest : List Char) (ends : Reading.Ends rest)
    (noPoint : rest.head? ≠ some '.') :
    Reading.takeMoment (written date micros ++ rest) = some (ofParts date micros, rest) := by
  rcases Date.writtenYear_of_isPlain plain with ⟨small, year⟩
  rw [written, List.append_assoc, List.cons_append,
    Reading.takeMoment_written small isDay.month_lt isDay.day_lt inDay.le ends noPoint, year,
    isDay.make?_eq, TimeOfDay.make?_eq inDay, ofParts, TimeOfDay.ofMicros_eq inDay]
  rfl

/-- Of a moment of another year nothing is taken, or the mark is left behind it. -/
theorem takeMoment_written_of_not_isPlain (isDay : date.IsDay) (noPlain : date.isPlain = false)
    (inDay : micros < 86400000000) (zone : List Char) (ends : Reading.Ends (zone ++ date.mark))
    (noPoint : (zone ++ date.mark).head? ≠ some '.') {moment : Moment} {rest : List Char}
    (taken : Reading.takeMoment (written date micros ++ (zone ++ date.mark))
      = some (moment, rest)) :
    rest = zone ++ [' ', 'B', 'C'] := by
  rw [written, List.append_assoc, List.cons_append] at taken
  by_cases small : date.writtenYear < 10000
  · rcases Date.long_or_marked noPlain with long | marked
    · exact absurd long (Nat.not_le.mpr small)
    · rw [Reading.takeMoment_written small isDay.month_lt isDay.day_lt inDay.le ends noPoint,
        Option.bind_eq_some_iff] at taken
      rcases taken with ⟨found, -, taken⟩
      rw [Option.map_eq_some_iff] at taken
      rcases taken with ⟨time, -, taken⟩
      cases taken
      rw [marked]
  · rw [Reading.takeMoment_written_of_le (Nat.not_lt.mp small)] at taken
    cases taken

/-! ## Moments without an offset -/

theorem noPlus_written : '+' ∉ written date micros := by
  have noDigit : ∀ width n, '+' ∉ (Text.padded width n).toList := fun width n member =>
    absurd (Text.isDigit_of_mem_padded member) (by decide)
  have noFraction : '+' ∉ writtenFraction (micros % 1000000) := by
    rw [writtenFraction]
    split
    · exact List.not_mem_nil
    · intro member
      rcases List.mem_cons.mp member with same | member
      · exact absurd same (by decide)
      · exact noDigit _ _ ((List.rdropWhile_prefix _ _).subset member)
  rw [written, Date.written, writtenTime]
  simp only [List.mem_append, List.mem_cons, noDigit, noFraction, or_false, false_or]
  decide

theorem read?_written (isDay : date.IsDay) (plain : date.isPlain = true)
    (inDay : micros < 86400000000) :
    read? (String.ofList (written date micros ++ date.mark)) = some (ofParts date micros) := by
  have taken := takeMoment_written isDay plain inDay [] Reading.ends_nil (fun same => nomatch same)
  rw [List.append_nil] at taken
  have noPlus : (written date micros).contains '+' = false := by
    simpa using noPlus_written
  rw [Date.mark_of_isPlain plain, List.append_nil, read?, String.toList_ofList, taken]
  simp only [Option.bind_eq_bind, Option.bind_some, noPlus]
  rfl

theorem ends_mark (date : Date) : Reading.Ends date.mark ∧ date.mark.head? ≠ some '.' := by
  rw [Date.mark]
  split
  · exact ⟨Reading.ends_nil, by decide⟩
  · exact ⟨Reading.ends_cons (by decide) _, by decide⟩

theorem read?_written_of_not_isPlain (isDay : date.IsDay) (noPlain : date.isPlain = false)
    (inDay : micros < 86400000000) :
    read? (String.ofList (written date micros ++ date.mark)) = none := by
  rw [read?, String.toList_ofList]
  cases taken : Reading.takeMoment (written date micros ++ date.mark) with
  | none => rfl
  | some found =>
      have left := takeMoment_written_of_not_isPlain isDay noPlain inDay [] (ends_mark date).1
        (ends_mark date).2 taken
      rcases found with ⟨moment, rest⟩
      cases left
      simp only [Option.bind_eq_bind, Option.bind_some]
      -- whether or not an offset is looked for, the mark is none and is left over
      split
      · rfl
      · rfl

theorem written_ne_display (noPlain : date.isPlain = false) :
    String.ofList (written date micros ++ date.mark) ≠ (ofParts date micros).display := by
  rw [Ne, ← String.toList_inj, String.toList_ofList, display, String.toList_append,
    String.toList_append, List.append_assoc, written, List.append_assoc]
  apply Date.written_append_ne_display noPlain
  · exact fun marked => List.mem_append_right _ (Date.mem_mark marked)
  · simp [TimeOfDay.noLetter_display]

/-! ## Moments all over the world -/

/-- No minutes earlier is the same moment. -/
theorem earlier?_zero (isDay : date.IsDay) (inDay : micros < 86400000000) :
    earlier? 0 (ofParts date micros) = some (ofParts date micros) := by
  have day : (date.toDay * 1440 + ((micros / 3600000000 : Nat) : Int) * 60
      + ((micros / 60000000 % 60 : Nat) : Int) - 0) / 1440 = date.toDay := by
    omega
  have left : ((date.toDay * 1440 + ((micros / 3600000000 : Nat) : Int) * 60
      + ((micros / 60000000 % 60 : Nat) : Int) - 0) % 1440).toNat
      = micros / 3600000000 * 60 + micros / 60000000 % 60 := by
    omega
  have hour : (micros / 3600000000 * 60 + micros / 60000000 % 60) / 60 = micros / 3600000000 := by
    omega
  have minute : (micros / 3600000000 * 60 + micros / 60000000 % 60) % 60
      = micros / 60000000 % 60 := by
    omega
  rw [ofParts, TimeOfDay.ofMicros_eq inDay, earlier?]
  simp only [day, left, hour, minute, Date.ofDay_toDay isDay, isDay.known, if_true]

theorem readUniversal?_written (isDay : date.IsDay) (plain : date.isPlain = true)
    (inDay : micros < 86400000000) :
    readUniversal? (String.ofList (written date micros ++ (['+', '0', '0'] ++ date.mark)))
      = some (ofParts date micros) := by
  have taken := takeMoment_written isDay plain inDay ['+', '0', '0']
    (Reading.ends_cons (by decide) _) (by decide)
  have offset : Reading.whole (Reading.takeOffset ['+', '0', '0']) = some 0 := by decide
  rw [Date.mark_of_isPlain plain, List.append_nil, readUniversal?, String.toList_ofList, taken]
  simp only [Option.bind_eq_bind, Option.bind_some, offset]
  exact earlier?_zero isDay inDay

theorem readUniversal?_written_of_not_isPlain (isDay : date.IsDay)
    (noPlain : date.isPlain = false) (inDay : micros < 86400000000) :
    readUniversal? (String.ofList (written date micros ++ (['+', '0', '0'] ++ date.mark)))
      = none := by
  rw [readUniversal?, String.toList_ofList]
  cases taken : Reading.takeMoment (written date micros ++ (['+', '0', '0'] ++ date.mark)) with
  | none => rfl
  | some found =>
      have left := takeMoment_written_of_not_isPlain isDay noPlain inDay ['+', '0', '0']
        (Reading.ends_cons (by decide) _) (by simp) taken
      rcases found with ⟨moment, rest⟩
      cases left
      simp only [Option.bind_eq_bind, Option.bind_some]
      rfl

theorem written_ne_displayUniversal (noPlain : date.isPlain = false) :
    String.ofList (written date micros ++ (['+', '0', '0'] ++ date.mark))
      ≠ (ofParts date micros).displayUniversal := by
  rw [Ne, ← String.toList_inj, String.toList_ofList, displayUniversal, String.toList_append,
    String.toList_append, String.toList_append, List.append_assoc, List.append_assoc, written,
    List.append_assoc]
  apply Date.written_append_ne_display noPlain
  · exact fun marked => List.mem_append_right _ (List.mem_append_right _ (Date.mem_mark marked))
  · simp [TimeOfDay.noLetter_display]

end Moment

end Calendar
end SqlGate
