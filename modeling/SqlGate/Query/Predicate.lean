import SqlGate.Query.Operator
import SqlGate.Value

namespace SqlGate

/-!
# Predicates

A predicate compares a field with bound values.  Predicates stand in a flat
chain without parentheses: each after the first is joined by its own connective
to all that stands before it.
-/

/-- What stands to the right of an operator. -/
inductive Operand where
  /-- Nothing. -/
  | none
  /-- One value. -/
  | scalar (value : Value)
  | list (values : List Value)
deriving DecidableEq

/-- What joins a predicate to those before it. -/
inductive Connective where
  | and
  | or
deriving DecidableEq, Repr

/-- One link of a chain of predicates. -/
structure Predicate where
  /-- What is compared, taken over as it stands. -/
  field : String
  /-- How it is compared. -/
  operator : Operator
  /-- What it is compared with. -/
  operand : Operand
  /-- What joins it to the predicates before it. -/
  connective : Connective := .and
deriving DecidableEq

namespace Operand

def values : Operand -> List Value
  | .none => []
  | .scalar v => [v]
  | .list vs => vs

end Operand

/-- The values a predicate binds: none for an operator without a right side. -/
def Predicate.values (p : Predicate) : List Value :=
  if p.operator.isUnary then [] else p.operand.values

/-- What can stand to the right of an operator. -/
class ToOperand (α : Type) where
  toOperand : α -> Operand

export ToOperand (toOperand)

/-- Whatever can be bound is one value. -/
instance (priority := low) {α : Type} [ToValue α] : ToOperand α :=
  ⟨fun a => .scalar (toValue a)⟩

/-- A list of what can be bound is a list of values. -/
instance {α : Type} [ToValue α] : ToOperand (List α) :=
  ⟨fun xs => .list (xs.map toValue)⟩

end SqlGate
