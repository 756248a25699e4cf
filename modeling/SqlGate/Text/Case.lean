namespace SqlGate
namespace Text

/-!
# ASCII case

Keywords, type names and option keys are compared without regard to the case
of the twenty-six ASCII letters.  Letters outside ASCII are left alone: none of
the words compared with has a letter that a wider case map would reach.
-/

def lower (s : String) : String :=
  String.ofList (s.toList.map Char.toLower)

def upper (s : String) : String :=
  String.ofList (s.toList.map Char.toUpper)

/-- Equality up to the case of ASCII letters. -/
def sameIgnoringCase (s t : String) : Bool :=
  s.toList.map Char.toLower == t.toList.map Char.toLower

/-- Whether `part` stands at the beginning of `cs`. -/
def beginsWith (part cs : List Char) : Bool :=
  part.isPrefixOf cs

def occursIn (part : List Char) : List Char -> Bool
  | [] => part.isEmpty
  | c :: rest => part.isPrefixOf (c :: rest) || occursIn part rest

def contains (s part : String) : Bool :=
  occursIn part.toList s.toList

@[simp] theorem toList_lower (s : String) : (lower s).toList = s.toList.map Char.toLower := by
  simp [lower]

@[simp] theorem toList_upper (s : String) : (upper s).toList = s.toList.map Char.toUpper := by
  simp [upper]

end Text
end SqlGate
