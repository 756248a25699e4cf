import SqlGate.Text.Blank
import SqlGate.Text.Case

namespace SqlGate

/-!
# Comparison operators

An operator is written in one way in statements, and read from a text whose
words are joined by single blanks and whose ASCII letters are raised.  How the
words are spaced does not matter.
-/

/-- The comparison of a predicate. -/
inductive Operator where
  | eq
  | notEq
  | gt
  | gte
  | lt
  | lte
  | like
  | ilike
  | isIn
  | notIn
  | isNull
  | isNotNull
deriving DecidableEq, Repr

namespace Operator

def sql : Operator -> String
  | .eq => "="
  | .notEq => "!="
  | .gt => ">"
  | .gte => ">="
  | .lt => "<"
  | .lte => "<="
  | .like => "LIKE"
  | .ilike => "ILIKE"
  | .isIn => "IN"
  | .notIn => "NOT IN"
  | .isNull => "IS NULL"
  | .isNotNull => "IS NOT NULL"

/-- Whether nothing stands to the right of the operator. -/
def isUnary : Operator -> Bool
  | .isNull | .isNotNull => true
  | _ => false

/-- Whether a list in parentheses stands to the right of the operator. -/
def isMembership : Operator -> Bool
  | .isIn | .notIn => true
  | _ => false

def all : List Operator :=
  [.eq, .notEq, .gt, .gte, .lt, .lte, .like, .ilike, .isIn, .notIn, .isNull, .isNotNull]

/-- A text with one blank between its words and with ASCII letters raised. -/
def collapsed (s : String) : String :=
  Text.upper (String.ofList ([' '].intercalate (Text.words s.toList)))

/-- The operator of a collapsed text. -/
def ofCollapsed? : String -> Option Operator
  | "=" => some .eq
  | "!=" | "<>" => some .notEq
  | ">" => some .gt
  | ">=" => some .gte
  | "<" => some .lt
  | "<=" => some .lte
  | "LIKE" => some .like
  | "ILIKE" => some .ilike
  | "IN" => some .isIn
  | "NOT IN" => some .notIn
  | "IS NULL" => some .isNull
  | "IS NOT NULL" => some .isNotNull
  | _ => none

def parse? (s : String) : Option Operator :=
  ofCollapsed? (collapsed s)

theorem mem_all (op : Operator) : op ∈ all := by
  cases op <;> decide

end Operator
end SqlGate
