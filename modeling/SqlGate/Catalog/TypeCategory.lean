import SqlGate.Config.PoolOptions

namespace SqlGate

/-!
# Categories of column types

The values of a column are decoded by the category of its declared type, which
is found in the name of the type.  The first rule that matches decides.
-/

/-- What kind of values a column type holds. -/
inductive TypeCategory where
  | integer
  | float
  | decimal
  | boolean
  | text
  | binary
  | json
  | uuid
  | timestamp
  | date
  | time
  | unknown
deriving DecidableEq, Repr

namespace TypeCategory

/-- A rule that finds a category in a name of small letters. -/
structure Rule where
  /-- The names that the rule matches as a whole. -/
  whole : List String := []
  /-- The parts that the rule finds anywhere in a name. -/
  parts : List String := []
  /-- The beginnings that the rule finds. -/
  starts : List String := []
  category : TypeCategory

/-- Whether a rule matches a name of small letters. -/
def Rule.matchesName (rule : Rule) (name : String) : Bool :=
  rule.whole.contains name || rule.parts.any (Text.contains name)
    || rule.starts.any fun start => Text.beginsWith start.toList name.toList

/-- The rules in the order in which they are tried. -/
def rules : List Rule :=
  [{ parts := ["decimal", "numeric"], category := .decimal },
    { whole := ["interval", "point"], category := .unknown },
    { parts := ["int", "serial"], category := .integer },
    { whole := ["bool", "boolean"], category := .boolean },
    { whole := ["real"], parts := ["float", "double"], category := .float },
    { whole := ["json", "jsonb"], category := .json },
    { whole := ["uuid"], category := .uuid },
    { whole := ["bytea"], parts := ["blob"], category := .binary },
    { whole := ["datetime"], starts := ["timestamp"], category := .timestamp },
    { whole := ["date"], category := .date },
    { whole := ["time"], category := .time },
    { whole := ["text", "name"], parts := ["char"], category := .text }]

/-- The category of a type name: a file database keeps what is declared numeric as a float. -/
def ofName (name : String) (kind : DatabaseKind) : TypeCategory :=
  let name := Text.lower name
  if kind = .sqlite ∧ name = "numeric" then .float
  else
    match rules.find? fun rule => rule.matchesName name with
    | some rule => rule.category
    | none => .unknown

end TypeCategory
end SqlGate
