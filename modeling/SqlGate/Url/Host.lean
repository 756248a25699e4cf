import SqlGate.Bytes.Percent
import SqlGate.Text.Digits

namespace SqlGate
namespace Url

/-!
# Hosts

The host of a URL whose scheme has no rules of its own is a name without
certain delimiters, or an IPv6 address between brackets.  A name keeps its case
and is percent-encoded; an address is written in its shortest form.
-/

/-- Why a text is no URL. -/
inductive Fault where
  | emptyHost
  | invalidPort
  | invalidAddress
  | invalidDomain
deriving DecidableEq, Repr

def Fault.message : Fault -> String
  | .emptyHost => "empty host"
  | .invalidPort => "invalid port number"
  | .invalidAddress => "invalid IPv6 address"
  | .invalidDomain => "invalid domain character"

/-! ## IPv6 addresses -/

/-- Sixteen-bit groups read so far, and how many of them stand in front of `::`. -/
structure Groups where
  /-- The groups in order. -/
  groups : List Nat
  /-- The number of groups in front of `::`, if it was read. -/
  gap : Option Nat

/-- A number from 0 to 255 without a zero in front. -/
def octet? (cs : List Char) : Option Nat :=
  match cs with
  | [c] => Text.digit? c
  | '0' :: _ => none
  | cs => (Text.digitsToNat? cs).filter (· ≤ 255)

/-- Four numbers with points between them, as two groups. -/
def quad? (cs : List Char) : Option (List Nat) :=
  match (cs.splitOnP (· == '.')).mapM octet? with
  | some [a, b, c, d] => some [a * 256 + b, c * 256 + d]
  | _ => none

/-- The groups that take part in the count of eight, `::` being at least one. -/
def Groups.places (found : Groups) : Nat :=
  found.groups.length + if found.gap.isSome then 1 else 0

/-- Read groups from where one may begin; the fuel bounds the characters. -/
def readGroups : Nat -> Groups -> List Char -> Option Groups
  | _, found, [] => some found
  | 0, _, _ => none
  | fuel + 1, found, c :: rest =>
      if found.places = 8 then none
      else if c = ':' then
        if found.gap.isSome then none
        else readGroups fuel { found with gap := some found.groups.length } rest
      else
        let cs := c :: rest
        let digits := (cs.take 4).takeWhile fun d => (Bytes.Hex.digitValue? d).isSome
        let value := (Bytes.Hex.natFrom? 0 digits).getD 0
        let next := { found with groups := found.groups ++ [value] }
        match cs.drop digits.length with
        | [] => some next
        | ':' :: [] => none
        | ':' :: after => readGroups fuel next after
        | '.' :: _ =>
            if digits.isEmpty || 6 < found.places then none
            else (quad? cs).map fun two => { found with groups := found.groups ++ two }
        | _ => none

/-- Fill the gap with zeros; without a gap there must be eight groups. -/
def Groups.fill? (found : Groups) : Option (List Nat) :=
  match found.gap with
  | some front =>
      some (found.groups.take front ++ List.replicate (8 - found.groups.length) 0
        ++ found.groups.drop front)
  | none => if found.groups.length = 8 then some found.groups else none

/-- The eight groups of an address. -/
def addressGroups? (cs : List Char) : Option (List Nat) :=
  let start : Groups := ⟨[], none⟩
  let found :=
    match cs with
    | [] | [_] => none
    | ':' :: ':' :: rest => readGroups rest.length { start with gap := some 0 } rest
    | ':' :: _ => none
    | cs => readGroups cs.length start cs
  found.bind Groups.fill?

/-- The length of the run of zeros at the front. -/
def zeroRun (groups : List Nat) : Nat :=
  (groups.takeWhile (· == 0)).length

/-- Where the first longest run of zeros begins, and its length. -/
def longestRun (groups : List Nat) : Nat × Nat :=
  (List.range groups.length).foldl
    (fun best i =>
      let run := zeroRun (groups.drop i)
      if best.2 < run then (i, run) else best)
    (0, 0)

/-- Groups in small hexadecimal digits with colons between them. -/
def groupsText (groups : List Nat) : List Char :=
  List.intercalate [':'] (groups.map fun g => Nat.toDigits 16 g)

/-- The shortest text of an address: `::` stands for the first longest run of zeros. -/
def addressText (groups : List Nat) : List Char :=
  let run := longestRun groups
  if run.2 < 2 then groupsText groups
  else
    groupsText (groups.take run.1) ++ [':', ':'] ++ groupsText (groups.drop (run.1 + run.2))

/-! ## Names -/

/-- Delimiters that no host name holds. -/
def isForbidden (c : Char) : Bool :=
  ['\x00', '\t', '\n', '\r', ' ', '#', '/', ':', '<', '>', '?', '@', '[', '\\', ']', '^',
    '|'].contains c

/-- The host that a text stands for, as it is written in the URL. -/
def host? (cs : List Char) : Except Fault (List Char) :=
  match cs with
  | '[' :: rest =>
      if rest.getLast? = some ']' then
        match addressGroups? rest.dropLast with
        | some groups => .ok ('[' :: (addressText groups ++ [']']))
        | none => .error .invalidAddress
      else .error .invalidAddress
  | cs =>
      if cs.any isForbidden then .error .invalidDomain
      else .ok (Bytes.Percent.encodeWith Bytes.Percent.isControl cs)

end Url
end SqlGate
