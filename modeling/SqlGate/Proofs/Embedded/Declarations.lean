import SqlGate.Embedded.Parser.Statement
import SqlGate.Proofs.Success

namespace SqlGate
namespace Embedded

/-!
# What a declaration that was read holds

A list between commas is never empty, and neither are the columns of a table: where
a parser looks for one of them, it takes one or stops.  So a table that is made by
a statement that was read has a column, and a view shows something.

What a parser reads is followed from step to step without regard to the tokens:
the last step decides what is read, and the steps before it matter only where it
uses what they read.
-/

/-- Whether a statement that makes a table gives it a column, and one that makes a view lets it
show something. -/
def Statement.Declares : Statement -> Prop
  | .createTable _ _ columns _ => columns ≠ []
  | .createView _ _ q => q.items ≠ []
  | _ => True

namespace Parser

variable {α β : Type}

/-- Whatever a parser reads has a property. -/
def Yields (p : Parser α) (holds : α -> Prop) : Prop :=
  ∀ tokens a rest, p tokens = .ok (a, rest) -> holds a

section

variable {holds : α -> Prop}

theorem Yields.pure {a : α} (given : holds a) : Yields (pure a) holds := by
  intro tokens b rest read
  cases read
  exact given

theorem Yields.stop : Yields stop holds := by
  intro tokens a rest read
  cases read

theorem Yields.always {p : Parser α} (given : ∀ a, holds a) : Yields p holds :=
  fun _ a _ _ => given a

theorem Yields.ite {condition : Prop} [Decidable condition] {p q : Parser α}
    (first : Yields p holds) (second : Yields q holds) :
    Yields (if condition then p else q) holds := by
  split
  · exact first
  · exact second

/-- The last of two steps decides what is read, given what the first one read. -/
theorem Yields.bind {p : Parser β} {f : β -> Parser α} {given : β -> Prop}
    (first : Yields p given) (each : ∀ b, given b -> Yields (f b) holds) :
    Yields (p >>= f) holds := by
  intro tokens a rest read
  obtain ⟨⟨b, left⟩, before, after⟩ := exists_ok_of_bind read
  exact each b (first tokens b left before) left a rest after

theorem Yields.bindAny {p : Parser β} {f : β -> Parser α} (each : ∀ b, Yields (f b) holds) :
    Yields (p >>= f) holds :=
  Yields.bind (Yields.always fun _ => trivial) fun b _ => each b

end

/-! ## Lists -/

theorem yields_commaList (item : Parser α) (fuel : Nat) :
    Yields (commaList item fuel) (· ≠ []) := by
  cases fuel with
  | zero => exact Yields.stop
  | succ fuel =>
      refine Yields.bindAny fun first => Yields.bindAny fun more => Yields.ite ?_ ?_
      · exact Yields.bindAny fun others => Yields.pure (List.cons_ne_nil first others)
      · exact Yields.pure (List.cons_ne_nil first [])

theorem yields_tableBody (fuel : Nat) (columns : List ColumnClause) :
    Yields (tableBody fuel columns) fun body => body.1 ≠ [] := by
  induction fuel generalizing columns with
  | zero => exact Yields.stop
  | succ fuel ih =>
      refine Yields.bindAny fun t => ?_
      by_cases done : (!columns.isEmpty && beginsTableClause t) = true
      · have given : columns ≠ [] := by
          simpa using (Bool.and_eq_true_iff.mp done).1
        rw [if_pos done]
        exact Yields.bindAny fun count => Yields.bindAny fun clauses => Yields.pure given
      · rw [if_neg done]
        have longer : ∀ added, columns ++ [added] ≠ [] := fun added => by simp
        exact Yields.bindAny fun added => Yields.bindAny fun more =>
          Yields.ite (ih _) (Yields.pure (longer added))

theorem yields_bracketed {p : Parser α} {holds : α -> Prop} (given : Yields p holds) :
    Yields (bracketed p) holds :=
  Yields.bindAny fun _ => Yields.bind given fun _ read => Yields.bindAny fun _ => Yields.pure read

/-! ## Statements -/

theorem yields_query : Yields query fun q => q.items ≠ [] := by
  unfold query
  refine Yields.bindAny fun distinct => Yields.ite ?_ (Yields.bindAny fun _ => ?_)
  all_goals
    refine Yields.bindAny fun count => ?_
    refine Yields.bind (yields_commaList resultItem count) fun items given => ?_
    -- None of the clauses behind the columns changes them.
    refine Yields.bindAny fun sources => Yields.bindAny fun condition => ?_
    refine Yields.bindAny fun groupBy => Yields.bindAny fun having => ?_
    refine Yields.bindAny fun orderBy => Yields.bindAny fun limits => ?_
    exact Yields.pure given

theorem yields_create : Yields create Statement.Declares := by
  unfold create
  refine Yields.bindAny fun isTable => Yields.ite ?_ ?_
  · refine Yields.bindAny fun lenient => Yields.bindAny fun table => ?_
    refine Yields.bindAny fun count => ?_
    refine Yields.bind (yields_bracketed (yields_tableBody count [])) fun body given => ?_
    exact Yields.pure given
  · refine Yields.bindAny fun _ => Yields.bindAny fun lenient => Yields.bindAny fun view => ?_
    exact Yields.bindAny fun _ => Yields.bind yields_query fun q given => Yields.pure given

theorem yields_drop : Yields drop Statement.Declares := by
  unfold drop
  refine Yields.bindAny fun isTable => Yields.ite ?_ ?_
  · exact Yields.bindAny fun _ => Yields.bindAny fun _ => Yields.pure trivial
  · exact Yields.bindAny fun _ => Yields.bindAny fun _ => Yields.bindAny fun _ =>
      Yields.pure trivial

theorem yields_insert : Yields insert Statement.Declares := by
  unfold insert
  refine Yields.bindAny fun _ => Yields.bindAny fun table => Yields.bindAny fun t => ?_
  refine Yields.ite (Yields.bindAny fun _ => Yields.bindAny fun _ => ?_) ?_
  all_goals
    refine Yields.bindAny fun columns => Yields.bindAny fun defaults => Yields.ite ?_ ?_
    · exact Yields.bindAny fun _ => Yields.pure trivial
    · exact Yields.bindAny fun _ => Yields.bindAny fun _ => Yields.bindAny fun _ =>
        Yields.pure trivial

theorem yields_update : Yields update Statement.Declares := by
  unfold update
  refine Yields.bindAny fun table => Yields.bindAny fun _ => Yields.bindAny fun count => ?_
  exact Yields.bindAny fun assignments => Yields.bindAny fun condition => Yields.pure trivial

theorem yields_delete : Yields delete Statement.Declares := by
  unfold delete
  exact Yields.bindAny fun _ => Yields.bindAny fun table => Yields.bindAny fun condition =>
    Yields.pure trivial

theorem yields_rollback : Yields rollback Statement.Declares := by
  unfold rollback
  refine Yields.bindAny fun _ => Yields.bindAny fun named => Yields.ite ?_ ?_
  · exact Yields.bindAny fun _ => Yields.bindAny fun name => Yields.pure trivial
  · exact Yields.pure trivial

theorem yields_statement : Yields statement Statement.Declares := by
  unfold statement
  refine Yields.bindAny fun t => Yields.ite ?select (Yields.ite ?insert (Yields.ite ?update
    (Yields.ite ?delete (Yields.ite ?create (Yields.ite ?drop (Yields.ite ?begin
      (Yields.ite ?commit (Yields.ite ?rollback (Yields.ite ?savepoint
        (Yields.ite ?release Yields.stop))))))))))
  case select => exact Yields.bindAny fun _ => Yields.bindAny fun q => Yields.pure trivial
  case insert => exact Yields.bindAny fun _ => yields_insert
  case update => exact Yields.bindAny fun _ => yields_update
  case delete => exact Yields.bindAny fun _ => yields_delete
  case create => exact Yields.bindAny fun _ => yields_create
  case drop => exact Yields.bindAny fun _ => yields_drop
  case begin =>
    exact Yields.bindAny fun _ => Yields.bindAny fun _ => Yields.bindAny fun _ =>
      Yields.pure trivial
  case commit => exact Yields.bindAny fun _ => Yields.bindAny fun _ => Yields.pure trivial
  case rollback => exact Yields.bindAny fun _ => yields_rollback
  case savepoint => exact Yields.bindAny fun _ => Yields.bindAny fun name => Yields.pure trivial
  case release =>
    exact Yields.bindAny fun _ => Yields.bindAny fun _ => Yields.bindAny fun name =>
      Yields.pure trivial

end Parser

/-- A statement that was read declares what it makes. -/
theorem declares_of_parse {tokens : List Token} {s : Statement}
    (read : parse tokens = .ok (some s)) : s.Declares := by
  unfold parse at read
  split at read
  · cases read
  · split at read
    · cases read
    · obtain ⟨⟨found, rest⟩, first, read⟩ := exists_ok_of_bind read
      obtain ⟨ended, -, read⟩ := exists_ok_of_bind read
      cases read
      exact Parser.yields_statement _ _ _ first

end Embedded
end SqlGate
