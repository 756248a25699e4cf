import SqlGate.Proofs.Url.Written

namespace SqlGate
namespace Url

/-!
# URLs of files

The path of a file is a list of names with slashes between them, with a slash in
front if it begins at the root.  Behind the colon of a scheme such a path is read
as it stands.  Behind two slashes a URL has a host, which ends at the next slash:
a path from the root has an empty one and is read as it stands, but of any other
path the first name is taken for the host.
-/

open Bytes.Percent (Written encodeWith encodeWith_of_forall isWritten_of_isAlphanum
  written_of_isAlpha)

/-- Whether a text is the name of a file: letters, digits and `.`, `_` and `-`, but no dots that
stand for a directory. -/
def isFileName (name : String) : Bool :=
  !name.isEmpty && name.toList.all (fun c => c.isAlphanum || ['.', '_', '-'].contains c)
    && name != "." && name != ".."

/-- The path of a file. -/
structure FilePath where
  /-- Whether it begins at the root. -/
  isAbsolute : Bool
  /-- Its first name. -/
  first : String
  /-- The names behind the first one. -/
  others : List String
  /-- All of them are names. -/
  named : ∀ name ∈ first :: others, isFileName name = true

/-- Names, each with a slash in front. -/
def rooted (names : List String) : List Char :=
  names.flatMap fun name => '/' :: name.toList

namespace FilePath

/-- The names of a path as they are written, without a slash in front of the first one. -/
def written (path : FilePath) : List Char :=
  path.first.toList ++ rooted path.others

def text (path : FilePath) : String :=
  String.ofList (if path.isAbsolute then '/' :: path.written else path.written)

/-- The text of a path without its first name. -/
def behindFirst (path : FilePath) : String :=
  String.ofList (rooted path.others)

end FilePath

/-! ## Names -/

theorem written_of_isFileName {name : String} (named : isFileName name = true) :
    Written name.toList := by
  simp only [isFileName, Bool.and_eq_true, List.all_eq_true] at named
  intro c member
  rcases Bool.or_eq_true_iff.mp (named.1.1.2 c member) with letter | sign
  · exact isWritten_of_isAlphanum letter
  · rw [List.contains_eq_mem, decide_eq_true_eq] at sign
    simp only [List.mem_cons, List.not_mem_nil, or_false] at sign
    rcases sign with rfl | rfl | rfl
    all_goals rfl

theorem ne_nil_of_isFileName {name : String} (named : isFileName name = true) :
    name.toList ≠ [] := by
  simp only [isFileName, Bool.and_eq_true, Bool.not_eq_true'] at named
  intro empty
  rw [String.toList_eq_nil_iff] at empty
  subst empty
  exact absurd named.1.1.1 (by decide)

theorem eq_of_dropDot {segment rest : List Char} (noPercent : '%' ∉ segment)
    (dot : dropDot segment = some rest) : segment = '.' :: rest := by
  unfold dropDot at dot
  split at dot
  · rw [Option.some.inj dot]
  · exact absurd List.mem_cons_self noPercent
  · cases dot

/-- A name is no segment that stands for a directory. -/
theorem noDots_of_isFileName {name : String} (named : isFileName name = true) :
    isSingleDot name.toList = false ∧ isDoubleDot name.toList = false := by
  have noPercent : '%' ∉ name.toList := by
    simp only [isFileName, Bool.and_eq_true, List.all_eq_true] at named
    intro member
    exact absurd (named.1.1.2 '%' member) (by decide)
  simp only [isFileName, Bool.and_eq_true, bne_iff_ne] at named
  constructor
  · refine Bool.eq_false_iff.mpr fun dot => named.1.2 ?_
    rw [isSingleDot, beq_iff_eq] at dot
    exact String.toList_inj.mp (eq_of_dropDot noPercent dot)
  · refine Bool.eq_false_iff.mpr fun dots => named.2 ?_
    rw [isDoubleDot, beq_iff_eq, Option.bind_eq_some_iff] at dots
    obtain ⟨rest, first, second⟩ := dots
    have written := eq_of_dropDot noPercent first
    have behind := eq_of_dropDot (fun member => noPercent (written ▸ List.mem_cons_of_mem _ member))
      second
    rw [behind] at written
    exact String.toList_inj.mp written

/-! ## Lists of names -/

theorem rooted_cons (name : String) (names : List String) :
    rooted (name :: names) = '/' :: (name.toList ++ rooted names) :=
  List.flatMap_cons

/-- What holds of a slash and of the characters of an encoded text holds all along a path. -/
theorem forall_rooted {names : List String} (named : ∀ name ∈ names, isFileName name = true)
    {P : Char -> Prop} (slash : P '/')
    (table : ∀ n < 128, Bytes.Percent.isWritten (Char.ofNat n) = true -> P (Char.ofNat n)) :
    ∀ c ∈ rooted names, P c := by
  intro c member
  obtain ⟨name, there, inside⟩ := List.mem_flatMap.mp member
  rcases List.mem_cons.mp inside with rfl | inside
  · exact slash
  · exact (written_of_isFileName (named name there)).forall table c inside

/-- Behind its first slash, a path is split into its names. -/
theorem splitOnP_written {first : String} {others : List String}
    (named : ∀ name ∈ first :: others, isFileName name = true) :
    (first.toList ++ rooted others).splitOnP (· == '/')
      = (first :: others).map String.toList := by
  have noSlash : ∀ {name}, name ∈ first :: others -> ∀ c ∈ name.toList, (c == '/') = false :=
    fun member => (written_of_isFileName (named _ member)).forall (by decide)
  induction others generalizing first with
  | nil =>
      rw [rooted, List.flatMap_nil, List.append_nil,
        List.splitOnP_eq_singleton (noSlash List.mem_cons_self)]
      rfl
  | cons second others ih =>
      have inner := ih (fun name member => named name (List.mem_cons_of_mem first member))
        (fun member => noSlash (List.mem_cons_of_mem first member))
      rw [rooted_cons, List.splitOnP_append_cons_of_forall_mem (noSlash List.mem_cons_self) '/' rfl,
        inner]
      rfl

theorem resolve_of_names {names : List String}
    (named : ∀ name ∈ names, isFileName name = true) (done : List (List Char)) :
    resolve done (names.map String.toList) = (names.map String.toList).reverse ++ done := by
  induction names generalizing done with
  | nil => rfl
  | cons name names ih =>
      obtain ⟨noDot, noDots⟩ := noDots_of_isFileName (named name List.mem_cons_self)
      have inner := ih (fun other member => named other (List.mem_cons_of_mem name member))
        (name.toList :: done)
      rw [List.map_cons]
      cases names with
      | nil => simp [resolve, noDot, noDots]
      | cons second names =>
          rw [List.map_cons] at inner ⊢
          rw [resolve, noDots, noDot]
          · simp only [Bool.false_eq_true, if_false]
            rw [inner]
            simp
          · simp

/-- Nothing in a path of names has to be encoded or resolved. -/
theorem pathBehindSlash_written {first : String} {others : List String}
    (named : ∀ name ∈ first :: others, isFileName name = true) :
    pathBehindSlash (first.toList ++ rooted others) = rooted (first :: others) := by
  have kept : ((first :: others).map String.toList).map (encodeWith Bytes.Percent.inPath)
      = (first :: others).map String.toList := by
    rw [List.map_map]
    refine List.map_congr_left fun name member => ?_
    exact encodePath_of_written (written_of_isFileName (named name member))
  rw [pathBehindSlash, splitOnP_written named, kept, resolve_of_names named, List.append_nil,
    List.reverse_reverse, List.flatMap_map]
  rfl

theorem rooted_ne_slashes {names : List String}
    (named : ∀ name ∈ names, isFileName name = true) (more : List Char) :
    rooted names ≠ '/' :: '/' :: more := by
  intro same
  cases names with
  | nil => cases same
  | cons first others =>
      have firstNamed := named first List.mem_cons_self
      have noSlash : '/' ∉ first.toList := (written_of_isFileName firstNamed).not_mem rfl
      rw [rooted_cons] at same
      cases letters : first.toList with
      | nil => exact ne_nil_of_isFileName firstNamed letters
      | cons c rest =>
          rw [letters] at same noSlash
          cases same
          exact noSlash List.mem_cons_self

theorem pathBehindHost_rooted {names : List String}
    (named : ∀ name ∈ names, isFileName name = true) :
    pathBehindHost (rooted names) = rooted names := by
  cases names with
  | nil => rfl
  | cons first others =>
      rw [rooted_cons, pathBehindHost, pathBehindSlash_written named, rooted_cons]

/-! ## Reading -/

/-- A URL with nothing but a host and a path. -/
def ofFile (scheme : String) (host : Option String) (path : String) (isOpaque : Bool) : Url :=
  { scheme := scheme
    username := ""
    password := none
    host := host
    port := none
    path := path
    isOpaque := isOpaque
    query := none
    hasFragment := false }

theorem parse_of_clean_path {s : String} {scheme rest : List Char} (noColon : ':' ∉ scheme)
    (cleaned : clean s.toList = scheme ++ ':' :: rest)
    (noHost : ∀ more, rest ≠ '/' :: '/' :: more) :
    parse s = .ok (ofPath (String.ofList (scheme.map Char.toLower)) rest) := by
  have other := bne_of_not_mem noColon
  have stop : (':' != ':') = false := by decide
  rw [parse, cleaned, List.takeWhile_append_of_pos other, List.dropWhile_append_of_pos other,
    List.takeWhile_cons, List.dropWhile_cons, stop]
  split
  · exact absurd ‹_› (by simpa using noHost _)
  · simp

/-- Behind two slashes, a path from the root has an empty host. -/
theorem ofAuthority_rooted {names : List String} (named : ∀ name ∈ names, isFileName name = true)
    (given : names ≠ []) (scheme : String) :
    ofAuthority scheme (rooted names)
      = .ok (ofFile scheme none (String.ofList (rooted names)) false) := by
  have noUser : splitUser (rooted names) = .ok (⟨[], none⟩, rooted names) := by
    cases names with
    | nil => exact absurd rfl given
    | cons first others => rfl
  have noHost : hostText false (rooted names) = [] := by
    cases names with
    | nil => rfl
    | cons first others => rfl
  have noPort : ((rooted names).head? == some ':') = false := by
    cases names with
    | nil => rfl
    | cons first others => rfl
  have whole := splitQuery_of_forall (forall_rooted named (by decide) (by decide))
  simp only [ofAuthority, noUser, noHost, host?, noPort, whole, pathBehindHost_rooted named, bind,
    Except.bind, pure, Except.pure, List.length_nil, List.drop_zero, UserInfo.isGiven, ofFile]
  rfl

theorem splitUser_of_not_mem_at {cs : List Char} (noUser : '@' ∉ cs) :
    splitUser cs = .ok (⟨[], none⟩, cs) := by
  have absent : (cs.takeWhile fun c => !endsAuthority c).contains '@' = false := by
    rw [List.contains_eq_mem, decide_eq_false_iff_not]
    exact fun member => noUser ((List.takeWhile_prefix _).mem member)
  simp only [splitUser, splitLastAt, absent, Bool.false_eq_true, if_false]

/-- Behind two slashes, the first name of any other path is the host. -/
theorem ofAuthority_written {first : String} {others : List String}
    (named : ∀ name ∈ first :: others, isFileName name = true) (scheme : String) :
    ofAuthority scheme (first.toList ++ rooted others)
      = .ok (ofFile scheme (some first) (String.ofList (rooted others)) false) := by
  have firstNamed := named first List.mem_cons_self
  have othersNamed : ∀ name ∈ others, isFileName name = true :=
    fun name member => named name (List.mem_cons_of_mem first member)
  have written := written_of_isFileName firstNamed
  have noUser : splitUser (first.toList ++ rooted others)
      = .ok (⟨[], none⟩, first.toList ++ rooted others) := by
    apply splitUser_of_not_mem_at
    intro member
    rcases List.mem_append.mp member with inFirst | inOthers
    · exact written.not_mem rfl inFirst
    · exact forall_rooted othersNamed (P := (· ≠ '@')) (by decide) (by decide) _ inOthers rfl
  have ends : hostText false (rooted others) = [] ∧ ((rooted others).head? == some ':') = false := by
    cases others with
    | nil => exact ⟨rfl, rfl⟩
    | cons second others => exact ⟨rfl, rfl⟩
  have given : first.toList.isEmpty = false :=
    List.isEmpty_eq_false_iff.mpr (ne_nil_of_isFileName firstNamed)
  have whole := splitQuery_of_forall (forall_rooted othersNamed (by decide) (by decide))
  simp only [ofAuthority, noUser, hostText_of_written written ends.1, host?_of_written written,
    List.drop_left, ends.2, given, whole, pathBehindHost_rooted othersNamed, bind, Except.bind,
    pure, Except.pure, Bool.false_and, Bool.false_eq_true, if_false, String.ofList_toList, ofFile]
  rfl

namespace FilePath

theorem named_others (path : FilePath) : ∀ name ∈ path.others, isFileName name = true :=
  fun name member => path.named name (List.mem_cons_of_mem path.first member)

/-- What holds of a slash and of the characters of an encoded text holds all along a path. -/
theorem forall_written (path : FilePath) {P : Char -> Prop} (slash : P '/')
    (table : ∀ n < 128, Bytes.Percent.isWritten (Char.ofNat n) = true -> P (Char.ofNat n)) :
    ∀ c ∈ path.written, P c := by
  rw [written, List.forall_mem_append]
  constructor
  · exact (written_of_isFileName (path.named path.first List.mem_cons_self)).forall table
  · exact forall_rooted path.named_others slash table

/-- A path that does not begin at the root begins with a character of its first name. -/
theorem exists_written_eq_cons (path : FilePath) :
    ∃ c rest, path.written = c :: rest ∧ c ≠ '/' := by
  have named := path.named path.first List.mem_cons_self
  have noSlash : ∀ c ∈ path.first.toList, c ≠ '/' :=
    (written_of_isFileName named).forall (by decide)
  cases letters : path.first.toList with
  | nil => exact absurd letters (ne_nil_of_isFileName named)
  | cons c rest =>
      rw [letters] at noSlash
      exact ⟨c, rest ++ rooted path.others, by rw [written, letters]; rfl,
        noSlash c List.mem_cons_self⟩

theorem forall_text (path : FilePath) {P : Char -> Prop} (slash : P '/')
    (table : ∀ n < 128, Bytes.Percent.isWritten (Char.ofNat n) = true -> P (Char.ofNat n)) :
    ∀ c ∈ path.text.toList, P c := by
  rw [text, String.toList_ofList]
  split
  · rw [List.forall_mem_cons]
    exact ⟨slash, path.forall_written slash table⟩
  · exact path.forall_written slash table

theorem text_ne_slashes (path : FilePath) (more : List Char) :
    path.text.toList ≠ '/' :: '/' :: more := by
  rw [text, String.toList_ofList]
  cases path.isAbsolute with
  | true =>
      rw [if_pos rfl, written, ← rooted_cons]
      exact rooted_ne_slashes path.named more
  | false =>
      rcases path.exists_written_eq_cons with ⟨c, rest, begins, noSlash⟩
      rw [if_neg Bool.false_ne_true, begins]
      exact fun same => noSlash (List.cons.inj same).1

/-- A path that does not begin at the root is shorter without its first name. -/
theorem behindFirst_ne_text {path : FilePath} (relative : path.isAbsolute = false) :
    path.behindFirst ≠ path.text := by
  intro same
  have lost : rooted path.others = path.first.toList ++ rooted path.others := by
    simpa [behindFirst, text, written, relative] using congrArg String.toList same
  exact ne_nil_of_isFileName (path.named path.first List.mem_cons_self)
    (List.self_eq_append_left.mp lost)

/-- The characters of a path are taken as they stand. -/
theorem clean_append_text (path : FilePath) {front : List Char} (given : front ≠ [])
    (solid : ∀ c ∈ front, isOuterBlank c = false) :
    clean (front ++ path.text.toList) = front ++ path.text.toList := by
  apply clean_of_forall
  · simp [given]
  · rw [List.forall_mem_append]
    exact ⟨solid, path.forall_text (by decide) (by decide)⟩

/-- Without a host in front of it, a path is taken as it stands. -/
theorem ofPath_text (path : FilePath) (scheme : String) :
    ofPath scheme path.text.toList = ofFile scheme none path.text (!path.isAbsolute) := by
  have whole := splitQuery_of_forall (path.forall_text (by decide) (by decide))
  have chars : path.text.toList = if path.isAbsolute then '/' :: path.written else path.written :=
    String.toList_ofList
  cases absolute : path.isAbsolute with
  | true =>
      rw [absolute, if_pos rfl] at chars
      have slash : (path.text.toList.head? != some '/') = false := by
        rw [chars]
        rfl
      have resolved : pathBehindSlash (path.text.toList.drop 1) = path.text.toList := by
        rw [chars]
        exact (pathBehindSlash_written path.named).trans (rooted_cons _ _)
      simp only [ofPath, whole, slash, Bool.false_eq_true, if_false, resolved,
        String.ofList_toList, ofFile]
      rfl
  | false =>
      rw [absolute, if_neg Bool.false_ne_true] at chars
      rcases path.exists_written_eq_cons with ⟨c, rest, begins, noSlash⟩
      have noFirstSlash : (path.text.toList.head? != some '/') = true := by
        rw [chars, begins, List.head?_cons, bne_iff_ne]
        exact fun same => noSlash (Option.some.inj same)
      have kept : opaquePath path.text.toList = path.text.toList :=
        encodeWith_of_forall (path.forall_text (by decide) (by decide))
      simp only [ofPath, whole, noFirstSlash, if_true, kept, String.ofList_toList, ofFile]
      rfl

variable {scheme : String}

/-- Behind the colon of a scheme, a path is read as it stands. -/
theorem parse_behindColon (path : FilePath) (letters : ∀ c ∈ scheme.toList, c.isAlpha = true) :
    parse (scheme ++ ":" ++ path.text)
      = .ok (ofFile (Text.lower scheme) none path.text (!path.isAbsolute)) := by
  have schemeWritten := written_of_isAlpha letters
  have cleaned : clean (scheme ++ ":" ++ path.text).toList
      = scheme.toList ++ ':' :: path.text.toList := by
    have solid : ∀ c ∈ scheme.toList ++ [':'], isOuterBlank c = false := by
      simp only [List.forall_mem_append, List.forall_mem_singleton]
      exact ⟨isOuterBlank_of_written schemeWritten, rfl⟩
    simpa using path.clean_append_text (by simp) solid
  rw [parse_of_clean_path (schemeWritten.not_mem rfl) cleaned path.text_ne_slashes, ofPath_text]
  rfl

/-- Behind two slashes, only a path from the root is read as it stands. -/
theorem parse_behindSlashes (path : FilePath) (letters : ∀ c ∈ scheme.toList, c.isAlpha = true) :
    parse (scheme ++ "://" ++ path.text)
      = .ok (if path.isAbsolute then ofFile (Text.lower scheme) none path.text false
        else ofFile (Text.lower scheme) (some path.first) path.behindFirst false) := by
  have schemeWritten := written_of_isAlpha letters
  have cleaned : clean (scheme ++ "://" ++ path.text).toList
      = scheme.toList ++ ':' :: '/' :: '/' :: path.text.toList := by
    have solid : ∀ c ∈ scheme.toList ++ [':', '/', '/'], isOuterBlank c = false := by
      simp only [List.forall_mem_append, List.forall_mem_cons]
      exact ⟨isOuterBlank_of_written schemeWritten, rfl, rfl, rfl, by simp⟩
    simpa using path.clean_append_text (by simp) solid
  rw [parse_of_clean (schemeWritten.not_mem rfl) cleaned, text, String.toList_ofList]
  cases path.isAbsolute with
  | true =>
      have names : '/' :: path.written = rooted (path.first :: path.others) :=
        (rooted_cons _ _).symm
      simp only [if_true, names]
      exact ofAuthority_rooted path.named (by simp) _
  | false =>
      simp only [Bool.false_eq_true, if_false, written, behindFirst]
      exact ofAuthority_written path.named _

end FilePath

end Url
end SqlGate
