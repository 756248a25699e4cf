import SqlGate.Proofs.Text.Digits
import SqlGate.Proofs.Url.UserInfo

namespace SqlGate

/-!
# URLs put together from written parts

A part of a URL is written if it has no character but unreserved ones and `%`.
A URL whose user, password, host and path are written, with a port in decimal
digits, is cut at exactly the delimiters it was put together with, and every
part is delivered as it was written: nothing is encoded once more, and nothing
is decoded.
-/

open Bytes.Percent (Written encodeWith encodeWith_of_forall isWritten_of_isAlphanum
  written_of_isAlpha)

namespace Url

/-! ## Written characters -/

theorem encodeUser_of_written {cs : List Char} (written : Written cs) : encodeUser cs = cs :=
  encodeWith_of_forall (written.forall (by decide))

theorem encodePath_of_written {cs : List Char} (written : Written cs) :
    encodeWith Bytes.Percent.inPath cs = cs :=
  encodeWith_of_forall (written.forall (by decide))

theorem written_ofNat (n : Nat) : Written (Text.ofNat n) := by
  intro c member
  refine isWritten_of_isAlphanum ?_
  rw [Char.isAlphanum, Text.isDigit_of_mem_ofNat member, Bool.or_true]

/-! ## The parts -/

theorem clean_of_forall {cs : List Char} (given : cs ≠ [])
    (solid : ∀ c ∈ cs, isOuterBlank c = false) : clean cs = cs := by
  have cleaned := clean_append given solid []
  rw [List.append_nil] at cleaned
  rw [cleaned, List.rdropWhile_nil, List.filter_nil, List.append_nil]

theorem splitUser_of_not_mem {front behind : List Char} (given : front ≠ [])
    (solid : ∀ c ∈ front, endsAuthority c = false) (last : '@' ∉ behind) :
    splitUser (front ++ '@' :: behind) = .ok (userInfo front, behind) := by
  have lastCut : '@' ∉ behind.takeWhile fun c => !endsAuthority c :=
    fun member => last ((List.takeWhile_prefix _).mem member)
  rw [splitUser_of_front solid (splitLastAt_of_not_mem lastCut front) given,
    List.takeWhile_append_dropWhile]

/-- A host goes on to where a host without a character would end. -/
theorem hostText_of_written {host : List Char} (written : Written host) {rest : List Char}
    (ends : hostText false rest = []) : hostText false (host ++ rest) = host := by
  induction host with
  | nil => exact ends
  | cons c host ih =>
      have goesOn : ∀ d ∈ c :: host, (endsAuthority d || (d == ':' && !false)) = false :=
        written.forall (by decide)
      have noOpen : c ≠ '[' := by
        rintro rfl
        exact written.not_mem rfl List.mem_cons_self
      rw [List.cons_append, hostText, goesOn c List.mem_cons_self, if_neg noOpen, ite_self]
      simp only [Bool.false_eq_true, if_false]
      rw [ih fun d member => written d (List.mem_cons_of_mem c member)]

theorem host?_of_written {host : List Char} (written : Written host) :
    host? host = .ok host := by
  have allowed : host.any isForbidden = false := by
    have allowedAll : ∀ c ∈ host, isForbidden c = false := written.forall (by decide)
    refine List.any_eq_false.mpr fun c member => ?_
    rw [allowedAll c member]
    exact Bool.false_ne_true
  have kept : encodeWith Bytes.Percent.isControl host = host :=
    encodeWith_of_forall (written.forall (by decide))
  unfold host?
  split
  · exact absurd List.mem_cons_self (written.not_mem (c := '[') rfl)
  · rw [allowed, kept]
    rfl

theorem splitPort_ofNat {port : Nat} (small : port ≤ 65535) (path : List Char) :
    splitPort (Text.ofNat port ++ '/' :: path) = .ok (some port, '/' :: path) := by
  have digits : ∀ c ∈ Text.ofNat port, c.isDigit = true := fun _ => Text.isDigit_of_mem_ofNat
  have stop : '/'.isDigit = false := by decide
  have written : (Text.ofNat port).isEmpty = false := by
    rw [List.isEmpty_eq_false_iff]
    exact Nat.toDigits_ne_nil
  have ends : endsAuthority '/' = true := by decide
  have inRange : decide (65535 < port) = false := decide_eq_false (Nat.not_lt.mpr small)
  rw [splitPort, List.takeWhile_append_of_pos digits, List.dropWhile_append_of_pos digits,
    List.takeWhile_cons, List.dropWhile_cons, stop]
  simp [Text.natFromDigits_ofNat, written, ends, inRange]

theorem target_of_written {host path : List Char} {port : Nat} (given : host ≠ [])
    (written : Written host) (small : port ≤ 65535) :
    target (host ++ ':' :: (Text.ofNat port ++ '/' :: path))
      = .ok ⟨host, some port, '/' :: path⟩ := by
  have there : host.isEmpty = false := by rwa [List.isEmpty_eq_false_iff]
  have ends : hostText false (':' :: (Text.ofNat port ++ '/' :: path)) = [] := by simp [hostText]
  simp only [target, hostText_of_written written ends, host?_of_written written,
    List.drop_left, there, List.head?_cons, List.drop_succ_cons, List.drop_zero,
    splitPort_ofNat small]
  rfl

theorem splitQuery_of_forall {path : List Char} (plain : ∀ c ∈ path, c ≠ '#' ∧ c ≠ '?') :
    splitQuery path = (path, none, false) := by
  have noFragment : path.takeWhile (· != '#') = path :=
    List.takeWhile_eq_self_iff.mpr fun c member => bne_iff_ne.mpr (plain c member).1
  have noQuery : path.takeWhile (· != '?') = path :=
    List.takeWhile_eq_self_iff.mpr fun c member => bne_iff_ne.mpr (plain c member).2
  have noRest : path.dropWhile (· != '?') = [] :=
    List.dropWhile_eq_nil_iff.mpr fun c member => bne_iff_ne.mpr (plain c member).2
  have absent : path.contains '#' = false := by
    rw [List.contains_eq_mem, decide_eq_false_iff_not]
    exact fun member => (plain '#' member).1 rfl
  simp only [splitQuery, noFragment, noQuery, noRest, absent, List.isEmpty_nil, if_true]

theorem splitQuery_of_written {path : List Char} (written : Written path) :
    splitQuery ('/' :: path) = ('/' :: path, none, false) := by
  refine splitQuery_of_forall ?_
  rw [List.forall_mem_cons]
  exact ⟨by decide, written.forall (by decide)⟩

/-- A written segment that is no dots is a path of its own. -/
theorem pathBehindHost_of_written {segment : List Char} (written : Written segment)
    (noDot : isSingleDot segment = false)
    (noDots : isDoubleDot segment = false) :
    pathBehindHost ('/' :: segment) = '/' :: segment := by
  have noSlash : ∀ c ∈ segment, (c == '/') = false := written.forall (by decide)
  rw [pathBehindHost, pathBehindSlash, List.splitOnP_eq_singleton noSlash]
  simp [encodePath_of_written written, resolve, noDot, noDots]

/-! ## Dots -/

open Bytes (Utf8.encode ofText)
open Bytes.Percent (decodeBytes encodeText)

/-- However a dot is written in a segment, it is one. -/
theorem decodeBytes_of_dropDot {segment rest : List Char} (dot : dropDot segment = some rest) :
    decodeBytes (Utf8.encode segment) = 0x2E :: decodeBytes (Utf8.encode rest) := by
  unfold dropDot at dot
  split at dot
  · cases dot
    rw [Bytes.Utf8.encode_cons_of_ascii (by decide)]
    exact Bytes.Percent.decodeBytes_cons_of_ne (by decide) _
  · split at dot
    · rename_i letter
      rw [Bool.or_eq_true, decide_eq_true_eq, decide_eq_true_eq] at letter
      cases dot
      rcases letter with rfl | rfl
      · exact Bytes.Percent.decodeBytes_of_pair (by decide) (by decide) (by decide) _
      · exact Bytes.Percent.decodeBytes_of_pair (by decide) (by decide) (by decide) _
    · cases dot
  · cases dot

theorem eq_of_decodeBytes_encodeText {s t : String}
    (decoded : decodeBytes (Utf8.encode (encodeText s).toList) = ofText t) : s = t := by
  have same := (Bytes.Percent.decodeBytes_encodeText s).symm.trans decoded
  exact String.toList_inj.mp (Bytes.Utf8.encode_injective same)

theorem isSingleDot_encodeText {s : String} (noDot : s ≠ ".") :
    isSingleDot (encodeText s).toList = false := by
  refine Bool.eq_false_iff.mpr fun dot => noDot (eq_of_decodeBytes_encodeText ?_)
  rw [isSingleDot, beq_iff_eq] at dot
  rw [decodeBytes_of_dropDot dot]
  rfl

theorem isDoubleDot_encodeText {s : String} (noDots : s ≠ "..") :
    isDoubleDot (encodeText s).toList = false := by
  refine Bool.eq_false_iff.mpr fun dots => noDots (eq_of_decodeBytes_encodeText ?_)
  rw [isDoubleDot, beq_iff_eq, Option.bind_eq_some_iff] at dots
  obtain ⟨rest, first, second⟩ := dots
  rw [decodeBytes_of_dropDot first, decodeBytes_of_dropDot second]
  rfl

/-! ## The whole -/

/-- A URL put together from written parts is read as these parts. -/
theorem parse_ofParts_of_written {scheme user password host path : String} {port : Nat}
    (letters : ∀ c ∈ scheme.toList, c.isAlpha = true) (userWritten : Written user.toList)
    (passwordGiven : password ≠ "") (passwordWritten : Written password.toList)
    (hostGiven : host ≠ "") (hostWritten : Written host.toList) (small : port ≤ 65535)
    (pathWritten : Written path.toList) (noDot : isSingleDot path.toList = false)
    (noDots : isDoubleDot path.toList = false) :
    parse (ofParts scheme user password
        (host ++ ":" ++ String.ofList (Text.ofNat port) ++ "/" ++ path))
      = .ok
        { scheme := Text.lower scheme
          username := user
          password := some password
          host := some host
          port := some port
          path := "/" ++ path
          isOpaque := false
          query := none
          hasFragment := false } := by
  let front := user.toList ++ ':' :: password.toList
  let behind := host.toList ++ ':' :: (Text.ofNat port ++ '/' :: path.toList)
  have nonempty : ∀ {s : String}, s ≠ "" -> s.toList ≠ [] :=
    fun given empty => given (String.toList_inj.mp empty)
  have schemeWritten := written_of_isAlpha letters
  have portWritten := written_ofNat port
  have cleaned : clean (ofParts scheme user password
      (host ++ ":" ++ String.ofList (Text.ofNat port) ++ "/" ++ path)).toList
        = scheme.toList ++ ':' :: '/' :: '/' :: (front ++ '@' :: behind) := by
    have solid : ∀ c ∈ scheme.toList ++ ':' :: '/' :: '/' :: (front ++ '@' :: behind),
        isOuterBlank c = false := by
      simp only [front, behind, List.forall_mem_append, List.forall_mem_cons]
      exact ⟨isOuterBlank_of_written schemeWritten, rfl, rfl, rfl,
        ⟨isOuterBlank_of_written userWritten, rfl, isOuterBlank_of_written passwordWritten⟩, rfl,
        isOuterBlank_of_written hostWritten, rfl, isOuterBlank_of_written portWritten, rfl,
        isOuterBlank_of_written pathWritten⟩
    rw [toList_ofParts]
    simpa [front, behind] using clean_of_forall (by simp) solid
  have cut : splitUser (front ++ '@' :: behind)
      = .ok (⟨user.toList, some password.toList⟩, behind) := by
    have solid : ∀ c ∈ front, endsAuthority c = false := by
      simp only [front, List.forall_mem_append, List.forall_mem_cons]
      exact ⟨endsAuthority_of_written userWritten, rfl, endsAuthority_of_written passwordWritten⟩
    have last : '@' ∉ behind := by
      simp only [behind, List.mem_append, List.mem_cons, not_or]
      exact ⟨hostWritten.not_mem rfl, by decide, portWritten.not_mem rfl, by decide,
        pathWritten.not_mem rfl⟩
    rw [splitUser_of_not_mem (by simp [front]) solid last,
      userInfo_eq (userWritten.not_mem rfl) (nonempty passwordGiven),
      encodeUser_of_written userWritten, encodeUser_of_written passwordWritten]
  rw [parse_of_clean (schemeWritten.not_mem rfl) cleaned, ofAuthority_of_splitUser cut,
    target_of_written (nonempty hostGiven) hostWritten small]
  simp only [Except.map, ofTarget, splitQuery_of_written pathWritten,
    pathBehindHost_of_written pathWritten noDot noDots, String.ofList_toList, Option.map_none]
  rw [String.ofList_cons, String.ofList_toList]
  rfl

end Url
end SqlGate
