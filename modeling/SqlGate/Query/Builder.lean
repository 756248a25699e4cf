import SqlGate.Query.Compile

namespace SqlGate

/-!
# Building statements

A builder collects what is said about one statement, call after call.  Calls
are data: a builder is the result of applying a list of calls to a fresh one.
Once a text that names no operator was given, the first such text is reported
whenever the builder is compiled, unless a finished statement was given.
-/

/-- How the operator of a call is given. -/
inductive OperatorSource where
  /-- The operator itself. -/
  | known (op : Operator)
  /-- A text to be read. -/
  | spelled (text : String)
deriving DecidableEq, Repr

/-- The operator that a call asks for, or the text that names none. -/
def OperatorSource.resolve : OperatorSource -> Except CompileFault Operator
  | .known op => .ok op
  | .spelled text =>
      match Operator.parse? text with
      | some op => .ok op
      | none => .error (.unknownOperator (String.ofList (Text.trim text.toList)))

/-- One call on a builder. -/
inductive Call where
  | select
  | delete
  | insert (payload : List (String × Value))
  | update (payload : List (String × Value))
  | columns (names : List String)
  | table (name : String)
  | raw (sql : String) (params : List Value)
  | condition (connective : Connective) (field : String) (op : OperatorSource) (operand : Operand)
  | having (field : String) (op : OperatorSource) (operand : Operand)
  | join (join : Join)
  | groupBy (fields : List String)
  | orderBy (field : String) (direction : Direction)
  | limit (count : Nat)
  | offset (count : Nat)
deriving DecidableEq

/-- What was said about a statement. -/
structure Builder where
  draft : Draft
  /-- A finished statement, which takes the place of the draft. -/
  raw : Option Statement := none
  /-- The first fault of a call. -/
  fault : Option CompileFault := none
deriving DecidableEq

namespace Builder

def new (table : String) : Builder :=
  { draft := { table := table } }

def edit (b : Builder) (change : Draft -> Draft) : Builder :=
  { b with draft := change b.draft }

/-- Keep the first fault. -/
def reject (b : Builder) (fault : CompileFault) : Builder :=
  { b with fault := b.fault.or (some fault) }

def select (b : Builder) : Builder :=
  b.edit fun d => { d with kind := some .select }

def delete (b : Builder) : Builder :=
  b.edit fun d => { d with kind := some .delete }

def insert (b : Builder) (payload : List (String × Value)) : Builder :=
  b.edit fun d => { d with kind := some .insert, insertValues := Ordered.ofList payload }

def update (b : Builder) (payload : List (String × Value)) : Builder :=
  b.edit fun d => { d with kind := some .update, updateValues := Ordered.ofList payload }

def columns (b : Builder) (names : List String) : Builder :=
  b.edit fun d => { d with columns := names }

def table (b : Builder) (name : String) : Builder :=
  b.edit fun d => { d with table := name }

/-- Give a finished statement. -/
def setRaw (b : Builder) (sql : String) (params : List Value) : Builder :=
  { b with raw := some ⟨sql, params⟩ }

def condition (b : Builder) (connective : Connective) (field : String) (op : OperatorSource)
    (operand : Operand) : Builder :=
  match op.resolve with
  | .ok op => b.edit fun d => { d with wheres := d.wheres ++ [⟨field, op, operand, connective⟩] }
  | .error fault => b.reject fault

def having (b : Builder) (field : String) (op : OperatorSource) (operand : Operand) : Builder :=
  match op.resolve with
  | .ok op => b.edit fun d => { d with having := d.having ++ [⟨field, op, operand, .and⟩] }
  | .error fault => b.reject fault

def join (b : Builder) (join : Join) : Builder :=
  b.edit fun d => { d with joins := d.joins ++ [join] }

def groupBy (b : Builder) (fields : List String) : Builder :=
  b.edit fun d => { d with groupBy := d.groupBy ++ fields }

def orderBy (b : Builder) (field : String) (direction : Direction) : Builder :=
  b.edit fun d => { d with orderBy := d.orderBy ++ [⟨field, direction⟩] }

def limit (b : Builder) (count : Nat) : Builder :=
  b.edit fun d => { d with limit := some count }

def offset (b : Builder) (count : Nat) : Builder :=
  b.edit fun d => { d with offset := some count }

/-! ## Conditions of fixed form -/

def whereEq (b : Builder) (field : String) (value : Value) : Builder :=
  b.condition .and field (.known .eq) (.scalar value)

def whereNull (b : Builder) (field : String) : Builder :=
  b.condition .and field (.known .isNull) .none

def whereNotNull (b : Builder) (field : String) : Builder :=
  b.condition .and field (.known .isNotNull) .none

/-- Require a field to be one of a list of values. -/
def whereIn (b : Builder) (field : String) (values : List Value) : Builder :=
  b.condition .and field (.known .isIn) (.list values)

/-! ## Calls as data -/

def apply (b : Builder) : Call -> Builder
  | .select => b.select
  | .delete => b.delete
  | .insert payload => b.insert payload
  | .update payload => b.update payload
  | .columns names => b.columns names
  | .table name => b.table name
  | .raw sql params => b.setRaw sql params
  | .condition connective field op operand => b.condition connective field op operand
  | .having field op operand => b.having field op operand
  | .join join => b.join join
  | .groupBy fields => b.groupBy fields
  | .orderBy field direction => b.orderBy field direction
  | .limit count => b.limit count
  | .offset count => b.offset count

def applyAll (b : Builder) (calls : List Call) : Builder :=
  calls.foldl apply b

/-! ## Compiling -/

/-- The statement: the finished one if there is one, else that of the draft. -/
def build (b : Builder) : Except CompileFault Statement :=
  match b.raw with
  | some statement => .ok statement
  | none =>
      match b.fault with
      | some fault => .error fault
      | none => b.draft.compile

def buildOne (b : Builder) : Except CompileFault Statement :=
  (b.limit 1).build

/-- The draft of the statement that counts rows: no order and no page, one column. -/
def countDraft (draft : Draft) : Draft :=
  { draft with columns := ["COUNT(*) AS count"], orderBy := [], limit := none, offset := none }

/-- Whether a kind other than a selection was chosen. -/
def isOtherKind (b : Builder) : Bool :=
  b.draft.kind.isSome && b.draft.kind != some .select

def buildCount (b : Builder) : Except CompileFault Statement :=
  if b.raw.isNone && b.isOtherKind then .error .countNeedsSelect
  else (b.edit countDraft).build

end Builder
end SqlGate
