import SqlGate.Proofs.Config.Passwords
import SqlGate.Proofs.Url.Written

namespace SqlGate

/-!
# What a configuration keeps of an encoded URL

A user, a password or a database with reserved characters has to be encoded to
stand in a URL.  The parser delivers these parts as they are written, and a
configuration keeps them as they are delivered.  So it holds their encodings,
which are the parts themselves only if nothing had to be encoded; decoding the
three fields restores the parts in any case.
-/

open Bytes.Percent (isPlain encodeText decodeText? decodeText?_encodeText encodeText_eq_self_iff
  written_encodeText written_of_isPlain encodeText_ne_empty)

namespace ConnectionConfig

/-- The URL of a server, with the user, the password and the database encoded. -/
def encodedUrl (user password host : String) (port : UInt16) (database : String) : String :=
  Url.ofParts "postgres" (encodeText user) (encodeText password)
    (host ++ ":" ++ String.ofList (Text.ofNat port.toNat) ++ "/" ++ encodeText database)

/-- A configuration leads a user with a password to a database on a host. -/
def HasParts (config : ConnectionConfig) (user password host : String) (port : UInt16)
    (database : String) : Prop :=
  config.username = some user ∧ config.password = some password ∧ config.host = some host
    ∧ config.port = some port ∧ config.database = database

/-- The configuration with its user, password and database decoded. -/
def decoded? (config : ConnectionConfig) : Option ConnectionConfig := do
  let username <- config.username.mapM decodeText?
  let password <- config.password.mapM decodeText?
  let database <- decodeText? config.database
  return { config with username := username, password := password, database := database }

/-- Without a query, a parsed URL names a server by its parts as they are. -/
theorem ofParsed_of_parts {scheme user password host database : String} {port : UInt16}
    (userGiven : user ≠ "") (databaseGiven : database ≠ "") (noSlash : '/' ∉ database.toList) :
    ofParsed .postgres
        { scheme := scheme
          username := user
          password := some password
          host := some host
          port := some port.toNat
          path := "/" ++ database
          isOpaque := false
          query := none
          hasFragment := false }
      = .ok (postgres host port database user password) := by
  have named : database.isEmpty = false := by
    rw [Bool.eq_false_iff, Ne, String.isEmpty_iff]
    exact databaseGiven
  have owned : user.isEmpty = false := by
    rw [Bool.eq_false_iff, Ne, String.isEmpty_iff]
    exact userGiven
  have path : dropSlashes ("/" ++ database).toList = database.toList := by
    have first : database.toList.dropWhile (· == '/') = database.toList := by
      refine List.dropWhile_eq_self_iff.mpr fun there => ?_
      rw [beq_iff_eq]
      exact fun slash => noSlash (slash ▸ List.getElem_mem there)
    rw [String.toList_append]
    exact first
  rw [ofParsed_of_noQuery rfl]
  simp only [ofServerUrl, Url.pathWithoutQuery, Bool.false_and, Bool.false_eq_true, if_false, path,
    String.ofList_toList, named, owned, Option.map_some, UInt16.ofNat_toNat, Option.some_or]
  rfl

/-- The parts of an encoded URL are kept as they are encoded, which is as they are exactly if none
of them has a reserved character; they can be told by decoding them. -/
theorem ofUrl_encodedUrl {user password host database : String} {port : UInt16}
    (userGiven : user ≠ "") (passwordGiven : password ≠ "") (hostGiven : host ≠ "")
    (hostPlain : isPlain host = true) (databaseGiven : database ≠ "") (noDot : database ≠ ".")
    (noDots : database ≠ "..") :
    ∃ config, ofUrl (encodedUrl user password host port database) = .ok config
      ∧ config = postgres host port (encodeText database) (encodeText user) (encodeText password)
      ∧ (config.HasParts user password host port database
        ↔ isPlain user = true ∧ isPlain password = true ∧ isPlain database = true)
      ∧ config.decoded? = some (postgres host port database user password) := by
  have small : port.toNat ≤ 65535 := by
    have := port.toNat_lt
    omega
  have named : DatabaseKind.ofScheme? "postgres" = some .postgres := by decide
  have letters := DatabaseKind.isAlpha_of_ofScheme? named
  have parsed := Url.parse_ofParts_of_written letters (written_encodeText user)
    (encodeText_ne_empty passwordGiven) (written_encodeText password) hostGiven
    (written_of_isPlain hostPlain) small (written_encodeText database)
    (Url.isSingleDot_encodeText noDot) (Url.isDoubleDot_encodeText noDots)
  have known : DatabaseKind.ofConnectionText? (encodedUrl user password host port database)
      = some .postgres :=
    (DatabaseKind.ofConnectionText?_ofParts (by decide) ..).trans named
  refine ⟨_, ?_, rfl, ?_, ?_⟩
  · rw [ofUrl_of_ofConnectionText? known, encodedUrl, parsed]
    simp only [Except.mapError, bind, Except.bind]
    exact ofParsed_of_parts (encodeText_ne_empty userGiven) (encodeText_ne_empty databaseGiven)
      ((written_encodeText database).not_mem rfl)
  · simp only [HasParts, postgres, Option.some.injEq, encodeText_eq_self_iff, true_and]
  · simp only [decoded?, postgres, Option.mapM_some, decodeText?_encodeText]
    rfl

theorem ofUrl_encodedUrl_of_mailAddress :
    "ana@ops" ≠ "" ∧ "p:ß/%" ≠ "" ∧ "db.internal" ≠ "" ∧ isPlain "db.internal" = true
      ∧ "flights 2024" ≠ "" ∧ "flights 2024" ≠ "." ∧ "flights 2024" ≠ ".."
      ∧ ∃ config,
        ofUrl (encodedUrl "ana@ops" "p:ß/%" "db.internal" 6543 "flights 2024") = .ok config
        ∧ config = postgres "db.internal" 6543 (encodeText "flights 2024") (encodeText "ana@ops")
          (encodeText "p:ß/%")
        ∧ (config.HasParts "ana@ops" "p:ß/%" "db.internal" 6543 "flights 2024"
          ↔ isPlain "ana@ops" = true ∧ isPlain "p:ß/%" = true ∧ isPlain "flights 2024" = true)
        ∧ config.decoded? = some (postgres "db.internal" 6543 "flights 2024" "ana@ops" "p:ß/%") :=
  ⟨by decide, by decide, by decide, by decide, by decide, by decide, by decide,
    ofUrl_encodedUrl (by decide) (by decide) (by decide) (by decide) (by decide) (by decide)
      (by decide)⟩

/-- The parts are not told as they were before they were encoded. -/
theorem not_forall_hasParts_of_encodedUrl :
    ¬ ∀ (user password host : String) (port : UInt16) (database : String),
      user ≠ "" -> password ≠ "" -> database ≠ "" -> database ≠ "." -> database ≠ ".." ->
      host ≠ "" -> host.toList.all (fun c => c.isAlphanum || c == '-' || c == '.') = true ->
        ∃ config, ofUrl (encodedUrl user password host port database) = .ok config
          ∧ config.HasParts user password host port database := by
  intro restored
  obtain ⟨config, read, parts⟩ := restored "ops" "p@ss" "db.internal" 6543 "airline" (by decide)
    (by decide) (by decide) (by decide) (by decide) (by decide) (by decide)
  have kept : (ofUrl (encodedUrl "ops" "p@ss" "db.internal" 6543 "airline")).map password
      = .ok (some "p%40ss") := by
    decide +kernel
  rw [read, Except.map, parts.2.1] at kept
  exact absurd kept (by decide)

end ConnectionConfig
end SqlGate
