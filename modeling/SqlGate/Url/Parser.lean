import SqlGate.Bytes.Form
import SqlGate.Url.Host
import SqlGate.Url.Path

namespace SqlGate

/-!
# URLs

A URL is cut at its delimiters: the scheme up to the first colon, behind two
slashes the user, host and port, the path up to a question mark or a number
sign, and the query in between.  Tabs and line ends anywhere and blanks around
the whole vanish first.  The schemes served here have no rules of their own, so
a path without a slash in front is taken as it stands.
-/

/-- The parts of a URL; user, password, path and host are percent-encoded. -/
structure Url where
  /-- The scheme in small letters. -/
  scheme : String
  /-- The user, empty if none was given. -/
  username : String
  /-- The password; an empty one counts as none. -/
  password : Option String
  /-- The host, unless it is empty. -/
  host : Option String
  port : Option Nat
  path : String
  /-- Whether the path has no slash in front and no host before it. -/
  isOpaque : Bool
  /-- The query as it was written. -/
  query : Option String
  /-- Whether a fragment follows. -/
  hasFragment : Bool
deriving DecidableEq, Repr

namespace Url

/-- User and password in front of a host. -/
structure UserInfo where
  /-- The user. -/
  username : List Char
  password : Option (List Char)

/-- Encode what is written of a user or password. -/
def encodeUser (cs : List Char) : List Char :=
  Bytes.Percent.encodeWith Bytes.Percent.inUserInfo cs

/-- The user up to the first colon, and the password behind it unless it is empty. -/
def userInfo (cs : List Char) : UserInfo :=
  let password := (cs.dropWhile (· != ':')).drop 1
  ⟨encodeUser (cs.takeWhile (· != ':')),
    if password.isEmpty then none else some (encodeUser password)⟩

/-- Whether a user or a password is there. -/
def UserInfo.isGiven (info : UserInfo) : Bool :=
  !info.username.isEmpty || info.password.isSome

/-- What ends the part of a URL that names user, host and port. -/
def endsAuthority (c : Char) : Bool :=
  c == '/' || c == '?' || c == '#'

/-- Cut at the last `@`: what stands in front of it, and what behind it. -/
def splitLastAt (cs : List Char) : Option (List Char × List Char) :=
  let reversed := cs.reverse
  if cs.contains '@' then
    some (((reversed.dropWhile (· != '@')).drop 1).reverse, (reversed.takeWhile (· != '@')).reverse)
  else none

/-- Cut the user from the text behind two slashes. -/
def splitUser (cs : List Char) : Except Fault (UserInfo × List Char) :=
  let authority := cs.takeWhile fun c => !endsAuthority c
  let behind := cs.dropWhile fun c => !endsAuthority c
  match splitLastAt authority with
  | none => .ok (⟨[], none⟩, cs)
  | some ([], rest) =>
      if rest.isEmpty && !behind.isEmpty then .error .emptyHost
      else .ok (⟨[], none⟩, rest ++ behind)
  | some (front, rest) => .ok (userInfo front, rest ++ behind)

/-- The text of a host: up to a colon outside brackets or to the path. -/
def hostText (inside : Bool) : List Char -> List Char
  | [] => []
  | c :: rest =>
      if endsAuthority c || (c == ':' && !inside) then []
      else c :: hostText (if c = '[' then true else if c = ']' then false else inside) rest

/-- The port behind a colon; no digits are no port. -/
def splitPort (cs : List Char) : Except Fault (Option Nat × List Char) :=
  let digits := cs.takeWhile Char.isDigit
  let rest := cs.dropWhile Char.isDigit
  let value := (Text.natFromDigits 0 digits).getD 0
  let ends :=
    match rest with
    | [] => true
    | c :: _ => endsAuthority c || c == '\\'
  if 65535 < value || !ends then .error .invalidPort
  else .ok (if digits.isEmpty then none else some value, rest)

/-- Cut a text at its fragment and its query: the path, the query, and whether a fragment follows. -/
def splitQuery (cs : List Char) : List Char × Option (List Char) × Bool :=
  let whole := cs.takeWhile (· != '#')
  let path := whole.takeWhile (· != '?')
  let query := whole.dropWhile (· != '?')
  (path, if query.isEmpty then none else some (query.drop 1), cs.contains '#')

/-- The URL of a scheme and the text behind two slashes. -/
def ofAuthority (scheme : String) (cs : List Char) : Except Fault Url := do
  let (info, cs) <- splitUser cs
  let written := hostText false cs
  let host <- host? written
  let behind := cs.drop written.length
  let portGiven := behind.head? == some ':'
  if host.isEmpty && portGiven then throw .emptyHost
  let (port, rest) <- if portGiven then splitPort (behind.drop 1) else .ok (none, behind)
  if host.isEmpty && info.isGiven then throw .emptyHost
  let (path, query, hasFragment) := splitQuery rest
  return {
    scheme := scheme
    username := String.ofList info.username
    password := info.password.map String.ofList
    host := if host.isEmpty then none else some (String.ofList host)
    port := port
    path := String.ofList (pathBehindHost path)
    isOpaque := false
    query := query.map String.ofList
    hasFragment := hasFragment }

/-- The URL of a scheme and a text without a host. -/
def ofPath (scheme : String) (cs : List Char) : Url :=
  let (path, query, hasFragment) := splitQuery cs
  let isOpaque := path.head? != some '/'
  { scheme := scheme
    username := ""
    password := none
    host := none
    port := none
    path := String.ofList (if isOpaque then opaquePath path else pathBehindSlash (path.drop 1))
    isOpaque := isOpaque
    query := query.map String.ofList
    hasFragment := hasFragment }

/-- Blanks and controls, which vanish around a URL. -/
def isOuterBlank (c : Char) : Bool :=
  c.toNat ≤ 0x20

/-- Tabs and line ends, which vanish everywhere. -/
def isIgnored (c : Char) : Bool :=
  c == '\t' || c == '\n' || c == '\r'

def clean (cs : List Char) : List Char :=
  let trimmed := ((cs.dropWhile isOuterBlank).reverse.dropWhile isOuterBlank).reverse
  trimmed.filter fun c => !isIgnored c

def parse (s : String) : Except Fault Url :=
  let cs := clean s.toList
  let scheme := String.ofList ((cs.takeWhile (· != ':')).map Char.toLower)
  match (cs.dropWhile (· != ':')).drop 1 with
  | '/' :: '/' :: rest => ofAuthority scheme rest
  | rest => .ok (ofPath scheme rest)

def queryPairs (url : Url) : List (String × String) :=
  Bytes.Form.decode (url.query.getD "")

/-- The path once the query is taken away: blanks at the end of an opaque path go with it. -/
def pathWithoutQuery (url : Url) : String :=
  if url.isOpaque && !url.hasFragment then
    String.ofList (url.path.toList.reverse.dropWhile (· == ' ')).reverse
  else url.path

end Url
end SqlGate
