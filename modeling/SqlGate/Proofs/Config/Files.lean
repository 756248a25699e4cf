import SqlGate.Proofs.Config.Passwords
import SqlGate.Proofs.Url.Files

namespace SqlGate
namespace ConnectionConfig

/-!
# The file that a URL names

The URL of a file may be written with two slashes behind the scheme or without
them.  Without them the path of a file is told as it is.  With them this holds of
the paths that begin at the root; of any other path the first name is lost, since
it is taken for a host, and a path of one name is not told at all.
-/

open Url (FilePath ofFile rooted rooted_ne_slashes forall_rooted)

theorem dropSlashPairs_of_forall_ne {cs : List Char} (single : ∀ more, cs ≠ '/' :: '/' :: more) :
    dropSlashPairs cs = cs := by
  unfold dropSlashPairs
  split
  · exact absurd rfl (single _)
  · rfl

theorem pathWithoutQuery_ofFile {path : String} (noBlank : ' ' ∉ path.toList) (scheme : String)
    (host : Option String) (isOpaque : Bool) :
    (ofFile scheme host path isOpaque).pathWithoutQuery = path := by
  have kept : path.toList.reverse.dropWhile (· == ' ') = path.toList.reverse := by
    apply List.dropWhile_eq_self_iff.mpr
    intro there
    rw [beq_iff_eq]
    exact fun blank => noBlank (List.mem_reverse.mp (blank ▸ List.getElem_mem there))
  cases isOpaque with
  | true =>
      change String.ofList (path.toList.reverse.dropWhile (· == ' ')).reverse = path
      rw [kept, List.reverse_reverse, String.ofList_toList]
  | false => rfl

/-- Of a URL with a path that no pair of slashes begins, the path is the file. -/
theorem ofFileUrl_ofFile {path : String} (noBlank : ' ' ∉ path.toList)
    (single : ∀ more, path.toList ≠ '/' :: '/' :: more) (scheme : String) (host : Option String)
    (isOpaque : Bool) (pool : PoolOptions) :
    ofFileUrl (ofFile scheme host path isOpaque) pool
      = if path.isEmpty then .error .missingDatabase else .ok ((sqlite path).withPool pool) := by
  simp only [ofFileUrl, pathWithoutQuery_ofFile noBlank, dropSlashPairs_of_forall_ne single,
    String.ofList_toList]

theorem ofConnectionText?_behindColon (rest : String) :
    DatabaseKind.ofConnectionText? ("sqlite:" ++ rest) = some .sqlite := by
  rw [DatabaseKind.ofConnectionText?, String.toList_append]
  rfl

/-- A URL whose path is a file of its own is read as that file. -/
theorem ofUrl_of_parse {rest path : String} {host : Option String} {isOpaque : Bool}
    (parsed : Url.parse ("sqlite:" ++ rest) = .ok (ofFile "sqlite" host path isOpaque))
    (noBlank : ' ' ∉ path.toList) (single : ∀ more, path.toList ≠ '/' :: '/' :: more) :
    ofUrl ("sqlite:" ++ rest)
      = if path.isEmpty then .error .missingDatabase else .ok (sqlite path) := by
  rw [ofUrl_of_ofConnectionText? (ofConnectionText?_behindColon rest), parsed]
  simp only [Except.mapError, bind, Except.bind]
  rw [ofParsed_of_noQuery rfl]
  exact ofFileUrl_ofFile noBlank single _ _ _ _

theorem isEmpty_text (path : FilePath) : path.text.isEmpty = false := by
  rw [Bool.eq_false_iff, Ne, String.isEmpty_iff, ← String.toList_eq_nil_iff, FilePath.text,
    String.toList_ofList]
  rcases path.exists_written_eq_cons with ⟨c, rest, begins, -⟩
  rw [begins]
  split
  · exact List.cons_ne_nil _ _
  · exact List.cons_ne_nil _ _

theorem isEmpty_behindFirst (path : FilePath) :
    path.behindFirst.isEmpty = path.others.isEmpty := by
  rw [FilePath.behindFirst]
  cases path.others with
  | nil => rfl
  | cons second others =>
      rw [Url.rooted_cons, List.isEmpty_cons, Bool.eq_false_iff, Ne, String.isEmpty_iff,
        ← String.toList_eq_nil_iff, String.toList_ofList]
      exact List.cons_ne_nil _ _

theorem isAlpha_sqlite : ∀ c ∈ "sqlite".toList, c.isAlpha = true := by
  have named : DatabaseKind.ofScheme? "sqlite" = some .sqlite := by decide
  exact DatabaseKind.isAlpha_of_ofScheme? named

theorem lower_sqlite : Text.lower "sqlite" = "sqlite" := by decide

theorem noBlank_text (path : FilePath) : ' ' ∉ path.text.toList :=
  fun member => path.forall_text (P := (· ≠ ' ')) (by decide) (by decide) _ member rfl

theorem ofUrl_behindColon (path : FilePath) :
    ofUrl ("sqlite:" ++ path.text) = .ok (sqlite path.text) := by
  have parsed := path.parse_behindColon isAlpha_sqlite
  have joined : "sqlite" ++ ":" = "sqlite:" := by decide
  rw [joined, lower_sqlite] at parsed
  rw [ofUrl_of_parse parsed (noBlank_text path) path.text_ne_slashes, isEmpty_text]
  rfl

theorem ofUrl_behindSlashes (path : FilePath) :
    ofUrl ("sqlite://" ++ path.text)
      = if path.isAbsolute then .ok (sqlite path.text)
        else if path.others.isEmpty then .error .missingDatabase
        else .ok (sqlite path.behindFirst) := by
  have parsed := path.parse_behindSlashes isAlpha_sqlite
  have joined : "sqlite" ++ "://" = "sqlite:" ++ "//" := by decide
  have slashes : "sqlite://" = "sqlite:" ++ "//" := by decide
  rw [joined, lower_sqlite, String.append_assoc] at parsed
  rw [slashes, String.append_assoc]
  cases absolute : path.isAbsolute with
  | true =>
      rw [absolute, if_pos rfl] at parsed
      rw [ofUrl_of_parse parsed (noBlank_text path) path.text_ne_slashes, isEmpty_text]
      rfl
  | false =>
      rw [absolute, if_neg Bool.false_ne_true] at parsed
      have chars : path.behindFirst.toList = rooted path.others := String.toList_ofList
      have noBlank : ' ' ∉ path.behindFirst.toList := by
        rw [chars]
        exact fun member =>
          forall_rooted path.named_others (P := (· ≠ ' ')) (by decide) (by decide) _ member rfl
      have single : ∀ more, path.behindFirst.toList ≠ '/' :: '/' :: more := by
        rw [chars]
        exact rooted_ne_slashes path.named_others
      rw [ofUrl_of_parse parsed noBlank single, isEmpty_behindFirst]
      rfl

/-- Without two slashes behind the scheme, a URL names the file of its path; with them it names
this file exactly if the path begins at the root. -/
theorem ofUrl_filePath (path : FilePath) :
    ofUrl ("sqlite:" ++ path.text) = .ok (sqlite path.text)
      ∧ ofUrl ("sqlite://" ++ path.text)
        = (if path.isAbsolute then .ok (sqlite path.text)
          else if path.others.isEmpty then .error .missingDatabase
          else .ok (sqlite path.behindFirst))
      ∧ ((ofUrl ("sqlite://" ++ path.text)).map database = .ok path.text
        ↔ path.isAbsolute = true) := by
  have behindSlashes := ofUrl_behindSlashes path
  refine ⟨ofUrl_behindColon path, behindSlashes, ?_⟩
  rw [behindSlashes]
  cases absolute : path.isAbsolute with
  | true => exact iff_of_true rfl rfl
  | false =>
      apply iff_of_false
      · rw [if_neg Bool.false_ne_true]
        split
        · exact fun same => nomatch same
        · exact fun same => FilePath.behindFirst_ne_text absolute (Except.ok.inj same)
      · exact Bool.false_ne_true

/-- The two spellings do not name the same file: the first directory of a path is taken for a
host. -/
theorem not_forall_filePath :
    ¬ ∀ path : FilePath,
      (ofUrl ("sqlite:" ++ path.text)).map database = .ok path.text
        ∧ (ofUrl ("sqlite://" ++ path.text)).map database = .ok path.text := by
  intro both
  have named : ∀ name ∈ ["data", "airline.db"], Url.isFileName name = true := by decide
  let path : FilePath := ⟨false, "data", ["airline.db"], named⟩
  have told := (both path).2
  have relative : path.isAbsolute = false := rfl
  have more : path.others.isEmpty = false := rfl
  rw [ofUrl_behindSlashes, relative, more] at told
  exact FilePath.behindFirst_ne_text relative (Except.ok.inj told)

end ConnectionConfig
end SqlGate
