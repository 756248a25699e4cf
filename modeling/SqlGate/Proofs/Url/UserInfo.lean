import Mathlib.Data.List.DropRight
import SqlGate.Proofs.Bytes.Percent
import SqlGate.Text.Case
import SqlGate.Url.Parser

namespace SqlGate
namespace Url

/-!
# URLs that name a user and a password

The parser takes blanks from the end of a URL and cuts it at delimiters.  The
user and the password are cut off before the host is looked at, at the last `@`
in front of the path: what is written behind the first `@` may still belong to
the password.  But where that cut is does not depend on the password that stands
in front of the first `@`, and what is cut off is only stored.
-/

open Bytes.Percent (Written)

/-- A URL with a user and a password in front of the rest. -/
def ofParts (scheme user password rest : String) : String :=
  scheme ++ "://" ++ user ++ ":" ++ password ++ "@" ++ rest

def withoutPassword (url : Url) : Url :=
  { url with password := none }

theorem toList_ofParts (scheme user password rest : String) :
    (ofParts scheme user password rest).toList
      = scheme.toList ++ ':' :: '/' :: '/'
        :: ((user.toList ++ ':' :: password.toList) ++ '@' :: rest.toList) := by
  simp [ofParts]

/-! ## Characters that are no delimiters -/

theorem endsAuthority_of_written {cs : List Char} (written : Written cs) :
    ∀ c ∈ cs, endsAuthority c = false :=
  written.forall (by decide)

theorem isOuterBlank_of_written {cs : List Char} (written : Written cs) :
    ∀ c ∈ cs, isOuterBlank c = false :=
  written.forall (by decide)

theorem bne_of_not_mem {cs : List Char} {d : Char} (absent : d ∉ cs) :
    ∀ c ∈ cs, (c != d) = true := by
  intro c member
  refine bne_iff_ne.mpr ?_
  rintro rfl
  exact absent member

/-! ## Cutting at the last `@` -/

theorem splitLastAt_of_not_mem {behind : List Char} (last : '@' ∉ behind) (front : List Char) :
    splitLastAt (front ++ '@' :: behind) = some (front, behind) := by
  have other := bne_of_not_mem fun member => last (List.mem_reverse.mp member)
  have there : (front ++ '@' :: behind).contains '@' = true := by simp
  have turned : (front ++ '@' :: behind).reverse = behind.reverse ++ '@' :: front.reverse := by
    simp
  rw [splitLastAt, if_pos there, turned, List.takeWhile_append_of_pos other,
    List.dropWhile_append_of_pos other]
  simp

/-- What stands behind an `@` decides where the last one is, and how much in front of it is taken
to the user. -/
theorem exists_splitLastAt (behind : List Char) :
    ∃ more rest, ∀ front,
      splitLastAt (front ++ '@' :: behind) = some (front ++ more, rest) := by
  by_cases again : '@' ∈ behind
  · obtain ⟨final, before, turned, once⟩ := List.eq_append_cons_of_mem (List.mem_reverse.mpr again)
    have order : behind = before.reverse ++ '@' :: final.reverse := by
      rw [← List.reverse_reverse behind, turned]
      simp
    have last : '@' ∉ final.reverse := fun member => once (List.mem_reverse.mp member)
    refine ⟨'@' :: before.reverse, final.reverse, ?_⟩
    intro front
    have cut := splitLastAt_of_not_mem last (front ++ '@' :: before.reverse)
    rw [order]
    simpa using cut
  · refine ⟨[], behind, ?_⟩
    intro front
    rw [splitLastAt_of_not_mem again, List.append_nil]

/-! ## User and password -/

theorem splitUser_of_front {front behind : List Char}
    (solid : ∀ c ∈ front, endsAuthority c = false) {cut rest : List Char}
    (last : splitLastAt (front ++ '@' :: behind.takeWhile fun c => !endsAuthority c)
      = some (cut, rest)) (longer : cut ≠ []) :
    splitUser (front ++ '@' :: behind)
      = .ok (userInfo cut, rest ++ behind.dropWhile fun c => !endsAuthority c) := by
  have kept : ∀ c ∈ front ++ ['@'], (!endsAuthority c) = true := by
    intro c member
    rcases List.mem_append.mp member with member | member
    · rw [solid c member]
      rfl
    · rw [List.mem_singleton.mp member]
      decide
  have joined : front ++ '@' :: behind = (front ++ ['@']) ++ behind := by simp
  have split : (front ++ '@' :: behind.takeWhile fun c => !endsAuthority c)
      = (front ++ ['@']) ++ behind.takeWhile fun c => !endsAuthority c := by simp
  rw [splitUser, joined, List.takeWhile_append_of_pos kept, List.dropWhile_append_of_pos kept,
    ← split, last]
  cases cut with
  | nil => exact absurd rfl longer
  | cons c cut => rfl

/-- Behind the first colon of what is cut off stands the password. -/
theorem userInfo_eq {user password : List Char} (noColon : ':' ∉ user) (given : password ≠ []) :
    userInfo (user ++ ':' :: password) = ⟨encodeUser user, some (encodeUser password)⟩ := by
  have other := bne_of_not_mem noColon
  have stop : (':' != ':') = false := by decide
  rw [userInfo, List.takeWhile_append_of_pos other, List.dropWhile_append_of_pos other,
    List.takeWhile_cons, List.dropWhile_cons, stop]
  cases password with
  | nil => exact absurd rfl given
  | cons c password => simp

/-- Where the rest of a URL begins does not depend on the password in front of it. -/
theorem exists_splitUser {user : List Char} (plain : Written user) (behind : List Char) :
    ∃ more rest, ∀ password : List Char, password ≠ [] -> Written password ->
      splitUser ((user ++ ':' :: password) ++ '@' :: behind)
        = .ok (⟨encodeUser user, some (encodeUser (password ++ more))⟩, rest) := by
  -- the last `@` is searched behind the password, in front of the path
  obtain ⟨more, rest, cut⟩ := exists_splitLastAt (behind.takeWhile fun c => !endsAuthority c)
  refine ⟨more, rest ++ behind.dropWhile fun c => !endsAuthority c, ?_⟩
  intro password given written
  have solid : ∀ c ∈ user ++ ':' :: password, endsAuthority c = false := by
    simp only [List.forall_mem_append, List.forall_mem_cons]
    exact ⟨endsAuthority_of_written plain, rfl, endsAuthority_of_written written⟩
  have noColon : ':' ∉ user := plain.not_mem rfl
  rw [splitUser_of_front solid (cut _) (by simp), List.append_assoc, List.cons_append,
    userInfo_eq noColon (by simp [given])]

/-! ## Behind the user -/

/-- Where a URL leads: the host, the port and the text behind them. -/
structure Target where
  host : List Char
  port : Option Nat
  rest : List Char

/-- The target in the text behind a user; it has to have a host. -/
def target (cs : List Char) : Except Fault Target :=
  let written := hostText false cs
  let behind := cs.drop written.length
  match host? written with
  | .error fault => .error fault
  | .ok host =>
      if host.isEmpty then .error .emptyHost
      else if behind.head? == some ':' then
        (splitPort (behind.drop 1)).map fun found => ⟨host, found.1, found.2⟩
      else .ok ⟨host, none, behind⟩

/-- The URL that leads a user with a password to a target. -/
def ofTarget (scheme : String) (user password : List Char) (target : Target) : Url :=
  let parts := splitQuery target.rest
  { scheme := scheme
    username := String.ofList user
    password := some (String.ofList password)
    host := some (String.ofList target.host)
    port := target.port
    path := String.ofList (pathBehindHost parts.1)
    isOpaque := false
    query := parts.2.1.map String.ofList
    hasFragment := parts.2.2 }

theorem withoutPassword_ofTarget (scheme : String) (user password other : List Char)
    (target : Target) :
    (ofTarget scheme user password target).withoutPassword
      = (ofTarget scheme user other target).withoutPassword := rfl

/-- Behind a user with a password, a URL is read without looking at them. -/
theorem ofAuthority_of_splitUser {scheme : String} {cs user password rest : List Char}
    (cut : splitUser cs = .ok (⟨user, some password⟩, rest)) :
    ofAuthority scheme cs = (target rest).map (ofTarget scheme user password) := by
  have given : UserInfo.isGiven ⟨user, some password⟩ = true := by simp [UserInfo.isGiven]
  unfold ofAuthority target
  rw [cut]
  simp only [bind, Except.bind, given, Bool.and_true]
  generalize rest.drop (hostText false rest).length = behind
  generalize splitPort (behind.drop 1) = found
  -- an empty host is refused whether a port follows or not
  rcases host? (hostText false rest) with fault | (_ | ⟨c, host⟩)
  · rfl
  · cases behind.head? == some ':'
    · rfl
    · rfl
  · cases behind.head? == some ':'
    · rfl
    · cases found
      · rfl
      · rfl

/-! ## The whole -/

theorem rdropWhile_append {front : List Char}
    (solid : ∀ c ∈ front, isOuterBlank c = false) (rest : List Char) :
    (front ++ rest).rdropWhile isOuterBlank = front ++ rest.rdropWhile isOuterBlank := by
  have stays : front.reverse.dropWhile isOuterBlank = front.reverse := by
    refine List.dropWhile_eq_self_iff.mpr ?_
    intro more
    rw [solid _ (List.mem_reverse.mp (List.getElem_mem more))]
    exact Bool.false_ne_true
  rw [List.rdropWhile, List.rdropWhile, List.reverse_append, List.dropWhile_append, stays]
  split
  · rename_i empty
    rw [List.isEmpty_iff.mp empty, List.reverse_nil, List.append_nil, List.reverse_reverse]
  · rw [List.reverse_append, List.reverse_reverse]

/-- Blanks are taken from the end only, if the text begins with none. -/
theorem clean_append {front : List Char} (given : front ≠ [])
    (solid : ∀ c ∈ front, isOuterBlank c = false) (rest : List Char) :
    clean (front ++ rest)
      = front ++ (rest.rdropWhile isOuterBlank).filter fun c => !isIgnored c := by
  have kept : front.filter (fun c => !isIgnored c) = front := by
    refine List.filter_eq_self.mpr ?_
    intro c member
    have ignored : isIgnored c = true -> isOuterBlank c = true := by
      intro ignored
      simp only [isIgnored, Bool.or_eq_true, beq_iff_eq] at ignored
      rcases ignored with (rfl | rfl) | rfl
      all_goals rfl
    rw [Bool.not_eq_true', Bool.eq_false_iff]
    intro found
    rw [solid c member] at ignored
    cases ignored found
  have head : (front ++ rest).dropWhile isOuterBlank = front ++ rest := by
    cases front with
    | nil => exact absurd rfl given
    | cons c front =>
        rw [List.cons_append, List.dropWhile_cons, solid c List.mem_cons_self]
        rfl
  change ((((front ++ rest).dropWhile isOuterBlank).rdropWhile isOuterBlank).filter _) = _
  rw [head, rdropWhile_append solid, List.filter_append, kept]

theorem parse_of_clean {s : String} {scheme rest : List Char} (noColon : ':' ∉ scheme)
    (cleaned : clean s.toList = scheme ++ ':' :: '/' :: '/' :: rest) :
    parse s = ofAuthority (String.ofList (scheme.map Char.toLower)) rest := by
  have other := bne_of_not_mem noColon
  have stop : (':' != ':') = false := by decide
  rw [parse, cleaned, List.takeWhile_append_of_pos other, List.dropWhile_append_of_pos other,
    List.takeWhile_cons, List.dropWhile_cons, stop]
  simp

/-- A URL leads the user to the same target whatever the password is. -/
theorem exists_parse {scheme user : String} (noColon : ':' ∉ scheme.toList)
    (solid : ∀ c ∈ scheme.toList, isOuterBlank c = false)
    (plain : Written user.toList) (rest : String) :
    ∃ (more : List Char) (target : Except Fault Target), ∀ password : String, password ≠ "" ->
      Written password.toList ->
        parse (ofParts scheme user password rest)
          = target.map (ofTarget (Text.lower scheme) (encodeUser user.toList)
              (encodeUser (password.toList ++ more))) := by
  let tidy := (rest.toList.rdropWhile isOuterBlank).filter fun c => !isIgnored c
  obtain ⟨more, behind, cut⟩ := exists_splitUser plain tidy
  refine ⟨more, target behind, ?_⟩
  intro password given written
  have front : ∀ c ∈ scheme.toList ++ ':' :: '/' :: '/'
      :: ((user.toList ++ ':' :: password.toList) ++ ['@']), isOuterBlank c = false := by
    simp only [List.forall_mem_append, List.forall_mem_cons]
    exact ⟨solid, rfl, rfl, rfl,
      ⟨isOuterBlank_of_written plain, rfl, isOuterBlank_of_written written⟩, rfl, by simp⟩
  have cleaned : clean (ofParts scheme user password rest).toList
      = scheme.toList ++ ':' :: '/' :: '/'
        :: ((user.toList ++ ':' :: password.toList) ++ '@' :: tidy) := by
    have joined := clean_append (by simp) front rest.toList
    rw [toList_ofParts]
    simpa using joined
  rw [parse_of_clean noColon cleaned]
  refine ofAuthority_of_splitUser (cut password.toList ?_ written)
  intro empty
  exact given (String.toList_inj.mp empty)

end Url
end SqlGate
