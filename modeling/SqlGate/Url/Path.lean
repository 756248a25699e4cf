import SqlGate.Bytes.Percent

namespace SqlGate
namespace Url

/-!
# Paths

A path is a list of segments.  A segment of one dot stands for nothing and one
of two dots takes back the segment before it, also when a dot is written as
`%2e`; only a segment that looks like a drive is never taken back.
-/

/-- The texts of a dot in a segment. -/
def dropDot : List Char -> Option (List Char)
  | '.' :: rest => some rest
  | '%' :: '2' :: e :: rest => if e = 'e' || e = 'E' then some rest else none
  | _ => none

def isSingleDot (segment : List Char) : Bool :=
  dropDot segment == some []

def isDoubleDot (segment : List Char) : Bool :=
  (dropDot segment).bind dropDot == some []

/-- A letter followed by a colon or a bar. -/
def isDrive (segment : List Char) : Bool :=
  match segment with
  | [c, d] => c.isAlpha && (d == ':' || d == '|')
  | _ => false

/-- Take back the last segment; segments are listed with the last one first. -/
def takeBack : List (List Char) -> List (List Char)
  | [] => []
  | segment :: rest => if isDrive segment then segment :: rest else rest

/-- Resolve dots; segments are listed in order, the result with the last one first. -/
def resolve (done : List (List Char)) : List (List Char) -> List (List Char)
  | [] => done
  | [last] =>
      if isDoubleDot last then [] :: takeBack done
      else if isSingleDot last then [] :: done
      else last :: done
  | segment :: rest =>
      if isDoubleDot segment then resolve (takeBack done) rest
      else if isSingleDot segment then resolve done rest
      else resolve (segment :: done) rest

/-- The path of the text behind its first slash. -/
def pathBehindSlash (cs : List Char) : List Char :=
  let segments := (cs.splitOnP (· == '/')).map
    (Bytes.Percent.encodeWith Bytes.Percent.inPath)
  ((resolve [] segments).reverse).flatMap fun segment => '/' :: segment

/-- The path behind a host: empty, or with a slash in front. -/
def pathBehindHost : List Char -> List Char
  | [] => []
  | '/' :: rest => pathBehindSlash rest
  | cs => pathBehindSlash cs

/-- A path without a slash in front, which is taken as it stands. -/
def opaquePath (cs : List Char) : List Char :=
  Bytes.Percent.encodeWith Bytes.Percent.isControl cs

end Url
end SqlGate
