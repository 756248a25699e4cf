import SqlGate.Value

namespace SqlGate

/-!
# Statement templates

A statement is put together from pieces of three kinds: text of the statement
language, fragments taken over from the caller as they stand, and bound values.
Only the last pieces become placeholders.  They are numbered from one in the
order in which they stand, so the parameters of the statement are the bound
values in that order, and no value reaches the text.
-/

/-- A finished statement: its text and the values of its placeholders. -/
structure Statement where
  /-- The text, with placeholders. -/
  sql : String
  /-- The value of each placeholder. -/
  params : List Value
deriving DecidableEq

/-- Whether two statements are equal, numbers compared as numbers. -/
def Statement.same (a b : Statement) : Bool :=
  a.sql == b.sql && a.params.length == b.params.length
    && (a.params.zip b.params).all fun pair => pair.1.same pair.2

/-- A placeholder: the number of a parameter, counted from one. -/
structure Placeholder where
  /-- The number of the parameter. -/
  number : Nat

def Placeholder.write (p : Placeholder) : List Char :=
  '$' :: Text.ofNat p.number

def Placeholder.text (p : Placeholder) : String :=
  String.ofList p.write

namespace Template

/-- A piece of a statement. -/
inductive Piece where
  /-- Text of the statement language. -/
  | text (s : String)
  /-- Text taken over from the caller. -/
  | fragment (s : String)
  /-- A value, which stands as a placeholder. -/
  | bound (value : Value)
deriving DecidableEq

end Template

/-- The pieces of a statement in order. -/
abbrev Template := List Template.Piece

namespace Template

/-- The text of a template whose first placeholder has the number `next`. -/
def write (next : Nat) : Template -> List Char
  | [] => []
  | .text s :: rest => s.toList ++ write next rest
  | .fragment s :: rest => s.toList ++ write next rest
  | .bound _ :: rest => (Placeholder.mk next).write ++ write (next + 1) rest

def params : Template -> List Value
  | [] => []
  | .bound value :: rest => value :: params rest
  | _ :: rest => params rest

def statement (template : Template) : Statement :=
  ⟨String.ofList (write 1 template), params template⟩

def separated (separator : Template) : List Template -> Template
  | [] => []
  | [template] => template
  | template :: rest => template ++ separator ++ separated separator rest

def commas : List Template -> Template :=
  separated [.text ", "]

def values (vs : List Value) : Template :=
  commas (vs.map fun v => [.bound v])

@[simp] theorem params_nil : params [] = [] := rfl

@[simp] theorem params_text (s : String) (rest : Template) :
    params (.text s :: rest) = params rest := rfl

@[simp] theorem params_fragment (s : String) (rest : Template) :
    params (.fragment s :: rest) = params rest := rfl

@[simp] theorem params_bound (v : Value) (rest : Template) :
    params (.bound v :: rest) = v :: params rest := rfl

@[simp] theorem params_append (front behind : Template) :
    params (front ++ behind) = params front ++ params behind := by
  induction front with
  | nil => simp
  | cons piece rest ih => cases piece <;> simp [ih]

/-- The text of two templates: the second goes on counting where the first ends. -/
theorem write_append (next : Nat) (front behind : Template) :
    write next (front ++ behind)
      = write next front ++ write (next + (params front).length) behind := by
  induction front generalizing next with
  | nil => simp [write]
  | cons piece rest ih =>
      cases piece with
      | text s => simp [write, ih]
      | fragment s => simp [write, ih]
      | bound v =>
          have h : next + 1 + (params rest).length = next + ((params rest).length + 1) := by omega
          simp [write, ih, h]

end Template
end SqlGate
