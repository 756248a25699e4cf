namespace SqlGate

/-!
# Three-valued truth

A condition over cells is true, false or unknown: what is compared with an
absent value is unknown.  A row is taken only where its condition is true.
-/

/-- The truth of a condition; `none` is unknown. -/
abbrev Truth := Option Bool

namespace Truth

/-- The opposite; the opposite of unknown is unknown. -/
def not : Truth -> Truth
  | some b => some (!b)
  | none => none

/-- Both: false as soon as one is false. -/
def and : Truth -> Truth -> Truth
  | some false, _ => some false
  | _, some false => some false
  | some true, some true => some true
  | _, _ => none

/-- Either: true as soon as one is true. -/
def or : Truth -> Truth -> Truth
  | some true, _ => some true
  | _, some true => some true
  | some false, some false => some false
  | _, _ => none

def holds : Truth -> Bool
  | some true => true
  | _ => false

end Truth
end SqlGate
