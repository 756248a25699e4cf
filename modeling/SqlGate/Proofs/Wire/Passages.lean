import SqlGate.Proofs.Wire.Forms
import SqlGate.Wire.Server

namespace SqlGate
namespace Wire

/-!
# The two passages of a statement

A statement without values bound to it travels as a text, and what it selects
comes back as texts.  One with values is prepared, and what it selects comes
back in binary.  Which of the two was taken is not told by the answer, as long
as every value is one that is shown alike in both forms.
-/

namespace Stored

/-- The reply to a statement that selects a value. -/
def reply (value : Stored) (name : String) (form : Form) : Reply :=
  .done [⟨name, value.number⟩] [[some (value.sent form)]] "SELECT 1"

/-- The answer to a statement that selects a value. -/
def answer (value : Stored) (name : String) (form : Form) : Answer :=
  ⟨[Ordered.ofList [(name, value.shown form)]], 1⟩

theorem ofList_singleton_inj {name : String} {a b : Json} :
    Ordered.ofList [(name, a)] = Ordered.ofList [(name, b)] ↔ a = b := by
  constructor
  · intro same
    have found := congrArg (fun row => row.get? name) same
    simpa [Ordered.ofList] using found
  · rintro rfl
    rfl

theorem answer_inj (value : Stored) (name : String) :
    value.answer name .text = value.answer name .binary
      ↔ value.shown .text = value.shown .binary := by
  rw [answer, answer, Answer.mk.injEq, List.cons.injEq, ofList_singleton_inj]
  simp only [and_true]

/-- What came back for a value is answered as it is shown. -/
theorem toAnswer_reply (value : Stored) (name : String) (form : Form) :
    RawResult.toAnswer ⟨[⟨name, value.number⟩], [[some (value.sent form)]], form,
        affectedOf "SELECT 1"⟩
      = value.answer name form := by
  have count : affectedOf "SELECT 1" = 1 := by decide
  rw [count]
  rfl

end Stored

namespace Server

/-- The server with a reply to give next. -/
def answering (server : Server) (reply : Reply) : Server :=
  { server with replies := reply :: server.replies }

variable (value : Stored) (name sql : String) (c : ConnectionId) (server : Server)

theorem execute_simple (noWord : isTransactionWord sql = false) :
    (execute c sql [] (server.answering (value.reply name .text))).1
      = .ok (value.answer name .text) := by
  rw [execute, List.isEmpty_nil, if_pos rfl, runSimple, noWord, if_neg Bool.false_ne_true]
  exact congrArg Except.ok (value.toAnswer_reply name .text)

theorem execute_extended (bound : Value) (others : List Value)
    (kept : ∀ prepared, server.prepared? c sql = some prepared ->
      prepared.columns = [⟨name, value.number⟩]) :
    (execute c sql (bound :: others) (server.answering (value.reply name .binary))).1
      = .ok (value.answer name .binary) := by
  rw [execute, List.isEmpty_cons, if_neg Bool.false_ne_true, runExtended]
  have connections : (server.answering (value.reply name .binary)).prepared? c sql
      = server.prepared? c sql := rfl
  rw [connections]
  -- a statement that was prepared before has the columns that were kept of it
  cases found : server.prepared? c sql with
  | none => exact congrArg Except.ok (value.toAnswer_reply name .binary)
  | some prepared =>
      have columns := kept prepared found
      rcases prepared with ⟨types, _⟩
      cases columns
      exact congrArg Except.ok (value.toAnswer_reply name .binary)

/-- A value that is selected without values bound is answered as it is with some exactly if it is
shown alike in both forms. -/
theorem execute_eq_iff_isAlike (bound : Value) (others : List Value)
    (noWord : isTransactionWord sql = false)
    (kept : ∀ prepared, server.prepared? c sql = some prepared ->
      prepared.columns = [⟨name, value.number⟩]) :
    (execute c sql [] (server.answering (value.reply name .text))).1
        = (execute c sql (bound :: others) (server.answering (value.reply name .binary))).1
      ↔ value.isAlike = true := by
  rw [execute_simple _ _ _ _ _ noWord, execute_extended _ _ _ _ _ _ _ kept, Except.ok.injEq,
    Stored.answer_inj, Stored.shown_eq_iff]

/-- The leap day of 2024. -/
def leapDay : Stored :=
  .date ⟨2024, 2, 29⟩ ⟨by decide, by decide, by decide, by decide, by decide⟩

theorem execute_eq_of_leapDay :
    isTransactionWord "SELECT day FROM flight" = false
      ∧ (∀ prepared, prepared? {} 0 "SELECT day FROM flight" = some prepared ->
        prepared.columns = [⟨"day", leapDay.number⟩])
      ∧ (execute 0 "SELECT day FROM flight" [] (answering {} (leapDay.reply "day" .text))).1
        = (execute 0 "SELECT day FROM flight" [.int 7]
          (answering {} (leapDay.reply "day" .binary))).1 := by
  have noWord : isTransactionWord "SELECT day FROM flight" = false := by decide
  have kept : ∀ prepared, prepared? {} 0 "SELECT day FROM flight" = some prepared ->
      prepared.columns = [⟨"day", leapDay.number⟩] := by
    intro prepared found
    cases found
  have alike : leapDay.isAlike = true := by decide
  exact ⟨noWord, kept,
    (execute_eq_iff_isAlike leapDay "day" _ 0 {} (.int 7) [] noWord kept).mpr alike⟩

/-- A decimal is answered differently through the two passages. -/
theorem not_forall_execute_eq :
    ¬ ∀ (value : Stored) (name sql : String) (c : ConnectionId) (server : Server) (bound : Value),
      isTransactionWord sql = false -> server.prepared? c sql = none ->
      (execute c sql [] (server.answering (value.reply name .text))).1
        = (execute c sql [bound] (server.answering (value.reply name .binary))).1 := by
  intro alike
  have large : ∀ places, 2 ≤ places -> (15 : Int).natAbs < 10 ^ places := by
    intro places enough
    calc (15 : Int).natAbs < 10 ^ 2 := by decide
      _ ≤ 10 ^ places := Nat.pow_le_pow_right (by decide) enough
  let price : Stored := .decimal (.finite 15 1 ⟨by decide, large _ (by omega)⟩)
  have noWord : isTransactionWord "SELECT price FROM ticket" = false := by decide
  have fresh : prepared? {} 0 "SELECT price FROM ticket" = none := rfl
  have same := alike price "price" _ 0 {} (.int 7) noWord fresh
  rw [execute_simple _ _ _ _ _ noWord,
    execute_extended _ _ _ _ _ _ _ (fun _ found => nomatch fresh.symm.trans found),
    Except.ok.injEq, Stored.answer_inj] at same
  exact Stored.shown_decimal_ne _ same

end Server
end Wire
end SqlGate
