import SqlGate.Embedded.Parser.Basic
import SqlGate.Embedded.Syntax

namespace SqlGate
namespace Embedded

/-!
# Reading expressions

Operators bind by their level: `OR` least, then `AND`, `NOT`, the tests for
equality and membership, the comparisons, sums, products, and the joining of
texts.  Operators of one level group to the left.
-/

namespace Level

/-- The level of the negation of a condition. -/
def negation : Nat := 3

/-- The level of the tests for equality and membership. -/
def equality : Nat := 4

def comparison : Nat := 5

/-- The level of a sign in front of a number. -/
def sign : Nat := 10

end Level

/-- The operator that a token is, with its level. -/
def binaryOp? (t : Token) : Option (BinaryOp × Nat) :=
  match t.kind with
  | .word =>
      match Text.upper t.text with
      | "OR" => some (.or, 1)
      | "AND" => some (.and, 2)
      | "LIKE" => some (.like, Level.equality)
      | _ => none
  | .sign =>
      match t.text with
      | "=" | "==" => some (.eq, Level.equality)
      | "!=" | "<>" => some (.ne, Level.equality)
      | "<" => some (.lt, Level.comparison)
      | "<=" => some (.le, Level.comparison)
      | ">" => some (.gt, Level.comparison)
      | ">=" => some (.ge, Level.comparison)
      | "+" => some (.add, 7)
      | "-" => some (.sub, 7)
      | "*" => some (.mul, 8)
      | "/" => some (.div, 8)
      | "%" => some (.rem, 8)
      | "||" => some (.concat, 9)
      | _ => none
  | _ => none

/-- The cell of a number as it is written. -/
def numberCell (text : String) : Cell :=
  Cell.ofNumberPrefix text

/-- The cell of a number with a minus sign in front. -/
def negatedCell (text : String) : Cell :=
  Cell.ofNumberPrefix ("-" ++ text)

namespace Parser

/-- What a token that is a value by itself stands for. -/
def valueOf? (t : Token) : Option Expr :=
  match t.kind with
  | .number => some (.cell (numberCell t.text))
  | .string s => some (.cell (.text s))
  | .blob bytes => some (.cell (.blob bytes))
  | .parameter place => some (.parameter place)
  | .word => if Text.sameIgnoringCase t.text "NULL" then some (.cell .null) else none
  | _ => none

/-- Whether a token is a name between double quotes. -/
def isDoubleQuoted (t : Token) : Bool :=
  match t.kind with
  | .name _ double => double
  | _ => false

/-- The rest of a column behind its first name. -/
def columnFrom (first : String) (mayBeText : Bool) : Parser Expr := do
  if <- sign? "." then
    let second <- name
    if <- sign? "." then return .column { table := some second, column := (<- name) }
    else return .column { table := some first, column := second }
  else return .column { column := first, mayBeText := mayBeText }

mutual

/-- An expression whose operators bind at least at a level. -/
def expr : Nat -> Nat -> Parser Expr
  | 0, _ => stop
  | fuel + 1, level => do
      let first <- operand fuel
      operators fuel level first

def operand : Nat -> Parser Expr
  | 0 => stop
  | fuel + 1 => do
      let t <- peek
      match valueOf? t with
      | some value =>
          advance
          return value
      | none =>
          if isSign "(" t then
            advance
            let inner <- expr fuel 0
            sign ")"
            return inner
          else if isSign "-" t then
            advance
            let next <- peek
            if next.kind == .number then
              advance
              return .cell (negatedCell next.text)
            else return .unary .negate (<- expr fuel Level.sign)
          else if isSign "+" t then
            advance
            return .unary .same (<- expr fuel Level.sign)
          else if isKeyword "NOT" t then
            advance
            return .unary .not (<- expr fuel Level.negation)
          else
            let first <- name
            if <- sign? "(" then call fuel first
            else columnFrom first (isDoubleQuoted t)

/-- The arguments of a function behind the opening bracket. -/
def call : Nat -> String -> Parser Expr
  | 0, _ => stop
  | fuel + 1, function => do
      if <- sign? "*" then
        sign ")"
        return .countAll function
      else
        let distinct <- keyword? "DISTINCT"
        if !distinct then discard (keyword? "ALL")
        if <- sign? ")" then return .call function distinct []
        else
          let arguments <- exprs fuel
          sign ")"
          return .call function distinct arguments

def exprs : Nat -> Parser (List Expr)
  | 0 => stop
  | fuel + 1 => do
      let first <- expr fuel 0
      if <- sign? "," then return first :: (<- exprs fuel)
      else return [first]

/-- What follows an operand: operators that bind at least at a level, with their operands. -/
def operators : Nat -> Nat -> Expr -> Parser Expr
  | 0, _, _ => stop
  | fuel + 1, level, left => do
      let t <- peek
      match binaryOp? t with
      | some (op, bound) =>
          if bound < level then return left
          else
            advance
            let right <- expr fuel (bound + 1)
            operators fuel level (.binary op left right)
      | none =>
          if Level.equality < level then return left
          else if isKeyword "ISNULL" t then
            advance
            operators fuel level (.unary .isNull left)
          else if isKeyword "NOTNULL" t then
            advance
            operators fuel level (.unary .notNull left)
          else if isKeyword "IS" t then
            advance
            let negated <- keyword? "NOT"
            let right <- expr fuel Level.comparison
            operators fuel level (.binary (if negated then .isNot else .is) left right)
          else if isKeyword "NOT" t then
            advance
            if <- keyword? "NULL" then operators fuel level (.unary .notNull left)
            else
              let test <- membership fuel left
              operators fuel level (.unary .not test)
          else if isKeyword "IN" t || isKeyword "BETWEEN" t then
            let test <- membership fuel left
            operators fuel level test
          else return left

/-- A test that `NOT` may stand in front of. -/
def membership : Nat -> Expr -> Parser Expr
  | 0, _ => stop
  | fuel + 1, left => do
      if <- keyword? "IN" then
        sign "("
        if <- sign? ")" then return .isIn left []
        else
          let items <- exprs fuel
          sign ")"
          return .isIn left items
      else if <- keyword? "BETWEEN" then
        let low <- expr fuel Level.comparison
        keyword "AND"
        let high <- expr fuel Level.comparison
        return .between left low high
      else if <- keyword? "LIKE" then
        return .binary .like left (<- expr fuel Level.comparison)
      else stop

end

def expression : Parser Expr := do
  expr (<- budget) 0

def expressions : Parser (List Expr) := do
  exprs (<- budget)

/-- An expression behind a keyword, if the keyword comes next. -/
def clause? (word : String) : Parser (Option Expr) := do
  if <- keyword? word then return some (<- expression)
  else return none

end Parser
end Embedded
end SqlGate
