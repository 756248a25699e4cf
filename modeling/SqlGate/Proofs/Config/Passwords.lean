import Mathlib
import SqlGate.Config.Connection
import SqlGate.Proofs.Url.UserInfo

namespace SqlGate

/-!
# Where the password of a URL goes

Two URLs that differ only in their password are read alike: as configurations
that differ only in the password, or with the same fault.  This holds once the
scheme of the URL is known.  If it is not, the fault quotes the whole URL, and
the password with it.
-/

open Bytes.Percent (isPlain written_of_isAlpha written_of_isPlain)

namespace ConfigFault

inductive Variant where
  | unknownDatabaseType
  | invalidUrl
  | missingDatabase
  | invalidPoolOptions
  | unsupportedOption
deriving DecidableEq, Repr

/-- The kind of a fault, without what it quotes. -/
def variant : ConfigFault -> Variant
  | .unknownDatabaseType _ => .unknownDatabaseType
  | .invalidUrl _ => .invalidUrl
  | .missingDatabase => .missingDatabase
  | .invalidPoolOptions _ => .invalidPoolOptions
  | .unsupportedOption _ => .unsupportedOption

theorem message_unknownDatabaseType_inj {text other : String}
    (same : message (.unknownDatabaseType text) = message (.unknownDatabaseType other)) :
    text = other :=
  (String.append_right_inj _).mp same

end ConfigFault

namespace ConnectionConfig

/-- The same target without a password. -/
def withoutPassword (config : ConnectionConfig) : ConnectionConfig :=
  { config with password := none }

theorem masked_withoutPassword (config : ConnectionConfig) :
    config.withoutPassword.masked = config.masked := rfl

theorem toJson_withoutPassword (config : ConnectionConfig) :
    config.withoutPassword.toJson = config.toJson := rfl

/-- Two results of reading a URL that cannot be told apart except by the password: what is shown
and what is written of two configurations is the same, or both are refused in the same words. -/
inductive AlikeButPassword :
    Except ConfigFault ConnectionConfig -> Except ConfigFault ConnectionConfig -> Prop where
  | ok {config other : ConnectionConfig} (fields : config.withoutPassword = other.withoutPassword)
      (shown : config.masked = other.masked)
      (written : config.toJson.compact = other.toJson.compact) :
      AlikeButPassword (.ok config) (.ok other)
  | error {fault other : ConfigFault} (variant : fault.variant = other.variant)
      (message : fault.message = other.message) : AlikeButPassword (.error fault) (.error other)

theorem AlikeButPassword.message_eq {fault other : ConfigFault}
    (alike : AlikeButPassword (.error fault) (.error other)) : fault.message = other.message := by
  cases alike with
  | error variant message => exact message

theorem alikeButPassword_of_map_eq {result other : Except ConfigFault ConnectionConfig}
    (same : result.map withoutPassword = other.map withoutPassword) :
    AlikeButPassword result other := by
  rcases result with fault | config
  · rcases other with fault' | config'
    · cases same
      exact .error rfl rfl
    · cases same
  · rcases other with fault' | config'
    · cases same
    · have fields : config.withoutPassword = config'.withoutPassword := Except.ok.inj same
      refine .ok fields ?_ ?_
      · rw [← masked_withoutPassword config, fields, masked_withoutPassword]
      · rw [← toJson_withoutPassword config, fields, toJson_withoutPassword]

end ConnectionConfig

/-! ## Known schemes -/

namespace DatabaseKind

/-- The database that the scheme of a URL names. -/
def ofScheme? (scheme : String) : Option DatabaseKind :=
  let word := Text.lower scheme
  if word = "postgres" ∨ word = "postgresql" then some .postgres
  else if word = "sqlite" then some .sqlite
  else none

/-- Up to the first colon, the beginning of a text is its scheme. -/
theorem prefix_colon_iff {word scheme : List Char} (schemeNoColon : ':' ∉ scheme)
    (wordNoColon : ':' ∉ word) {more rest : List Char} :
    word ++ ':' :: more <+: scheme ++ ':' :: rest ↔ scheme = word ∧ more <+: rest := by
  induction word generalizing scheme with
  | nil =>
      cases scheme with
      | nil => simp [List.cons_prefix_cons]
      | cons c scheme =>
          have other : ':' ≠ c := fun same => schemeNoColon (same ▸ List.mem_cons_self)
          simp [List.cons_prefix_cons, other]
  | cons d word ih =>
      cases scheme with
      | nil =>
          have other : d ≠ ':' := fun same => wordNoColon (same ▸ List.mem_cons_self)
          simp [List.cons_prefix_cons, other]
      | cons c scheme =>
          have inner := ih (fun member => schemeNoColon (List.mem_cons_of_mem c member))
            (fun member => wordNoColon (List.mem_cons_of_mem d member))
          rw [List.cons_append, List.cons_append, List.cons_prefix_cons, inner, List.cons.injEq,
            and_assoc, eq_comm]

theorem not_mem_map_toLower {cs : List Char} (noColon : ':' ∉ cs) :
    ':' ∉ cs.map Char.toLower := by
  intro member
  obtain ⟨c, there, same⟩ := List.mem_map.mp member
  have noLetter : ¬c.isUpper = true := by
    intro upper
    have letter := Char.isAlpha_toLower_eq_isAlpha c
    rw [same, Char.isAlpha.eq_1 c, upper, Bool.true_or] at letter
    cases letter
  rw [Char.toLower_eq_of_not_isUpper noLetter] at same
  exact noColon (same ▸ there)

/-- Only the scheme of a URL decides which database it names. -/
theorem ofConnectionText?_ofParts {scheme : String} (noColon : ':' ∉ scheme.toList)
    (user password rest : String) :
    ofConnectionText? (Url.ofParts scheme user password rest) = ofScheme? scheme := by
  have begins : ∀ word more : List Char, ':' ∉ word -> more <+: ['/', '/'] ->
      Text.beginsWith (word ++ ':' :: more)
          ((Url.ofParts scheme user password rest).toList.map Char.toLower)
        = decide (Text.lower scheme = String.ofList word) := by
    intro word more wordNoColon slashes
    have lowered : Text.lower scheme = String.ofList word
        ↔ scheme.toList.map Char.toLower = word := by
      rw [← String.toList_inj, Text.toList_lower, String.toList_ofList]
    rw [Url.toList_ofParts, List.map_append, List.map_cons]
    refine Bool.eq_iff_iff.mpr ?_
    rw [Text.beginsWith, List.isPrefixOf_iff_prefix, decide_eq_true_iff, lowered]
    refine (prefix_colon_iff (not_mem_map_toLower noColon) wordNoColon).trans
      (and_iff_left (slashes.trans ?_))
    exact List.prefix_append ['/', '/'] _
  have postgres : Text.beginsWith "postgres://".toList _ = _ :=
    begins "postgres".toList ['/', '/'] (by decide) (List.prefix_refl _)
  have postgresql : Text.beginsWith "postgresql://".toList _ = _ :=
    begins "postgresql".toList ['/', '/'] (by decide) (List.prefix_refl _)
  have sqlite : Text.beginsWith "sqlite:".toList _ = _ :=
    begins "sqlite".toList [] (by decide) List.nil_prefix
  unfold ofConnectionText? ofScheme?
  simp only [postgres, postgresql, sqlite, String.ofList_toList, Bool.or_eq_true,
    decide_eq_true_eq]

/-- A scheme that names a database consists of letters. -/
theorem isAlpha_of_ofScheme? {scheme : String} {kind : DatabaseKind}
    (known : ofScheme? scheme = some kind) : ∀ c ∈ scheme.toList, c.isAlpha = true := by
  have lowered : ∀ {word : String}, Text.lower scheme = word ->
      word.toList.all Char.isAlpha = true -> ∀ c ∈ scheme.toList, c.isAlpha = true := by
    rintro word rfl letters c member
    rw [Text.toList_lower, List.all_eq_true] at letters
    rw [← Char.isAlpha_toLower_eq_isAlpha]
    exact letters _ (List.mem_map_of_mem member)
  simp only [ofScheme?] at known
  split at known
  · rename_i word
    rcases word with word | word
    · exact lowered word (by decide)
    · exact lowered word (by decide)
  · split at known
    · exact lowered ‹_› (by decide)
    · cases known

end DatabaseKind

/-! ## Reading -/

namespace ConnectionConfig

/-- The configuration of a URL that has been parsed. -/
def ofParsed (kind : DatabaseKind) (url : Url) : Except ConfigFault ConnectionConfig :=
  let found := PoolOptions.extract url.queryPairs
  let pool := PoolOptions.ofValues found.options.get?
  match pool.validate with
  | .error fault => .error (.invalidPoolOptions fault)
  | .ok () =>
      if found.others.isEmpty then
        match kind with
        | .postgres => ofServerUrl url pool
        | .sqlite => ofFileUrl url pool
      else .error (.unsupportedOption (Bytes.Form.encode found.others))

theorem ofUrl_of_ofConnectionText? {s : String} {kind : DatabaseKind}
    (known : DatabaseKind.ofConnectionText? s = some kind) :
    ofUrl s = (Url.parse s).mapError ConfigFault.invalidUrl >>= ofParsed kind := by
  unfold ofUrl
  rw [known]
  cases Url.parse s with
  | error fault => rfl
  | ok url =>
      cases checked :
          (PoolOptions.ofValues (PoolOptions.extract url.queryPairs).options.get?).validate with
      | error fault => simp only [Except.mapError, bind, Except.bind, ofParsed, checked]
      | ok _ =>
          cases kind <;> simp only [Except.mapError, bind, Except.bind, ofParsed, checked]

theorem ofParsed_of_noQuery {url : Url} (noQuery : url.query = none) (kind : DatabaseKind) :
    ofParsed kind url
      = match kind with
        | .postgres => ofServerUrl url {}
        | .sqlite => ofFileUrl url {} := by
  have noPairs : url.queryPairs = [] := by
    rw [Url.queryPairs, noQuery]
    decide
  have defaults : PoolOptions.ofValues (PoolOptions.extract []).options.get? = {} := by decide
  have none : (PoolOptions.extract []).others.isEmpty = true := rfl
  have checked : PoolOptions.validate {} = .ok () := by decide
  simp only [ofParsed, noPairs, defaults, none, checked, if_true]

theorem map_ofServerUrl_withoutPassword (url : Url) (pool : PoolOptions) :
    (ofServerUrl url pool).map withoutPassword = ofServerUrl url.withoutPassword pool := by
  have path : url.withoutPassword.pathWithoutQuery = url.pathWithoutQuery := rfl
  simp only [ofServerUrl, path]
  cases (String.ofList (dropSlashes url.pathWithoutQuery.toList)).isEmpty
  · rfl
  · rfl

theorem map_ofFileUrl_withoutPassword (url : Url) (pool : PoolOptions) :
    (ofFileUrl url pool).map withoutPassword = ofFileUrl url.withoutPassword pool := by
  have path : url.withoutPassword.pathWithoutQuery = url.pathWithoutQuery := rfl
  simp only [ofFileUrl, path]
  cases (String.ofList (dropSlashPairs url.pathWithoutQuery.toList)).isEmpty
  · rfl
  · rfl

/-- The password of a URL goes to the password of the configuration and nowhere else. -/
theorem map_ofParsed_withoutPassword (kind : DatabaseKind) (url : Url) :
    (ofParsed kind url).map withoutPassword = ofParsed kind url.withoutPassword := by
  have queries : url.withoutPassword.queryPairs = url.queryPairs := rfl
  simp only [ofParsed, queries]
  cases (PoolOptions.ofValues (PoolOptions.extract url.queryPairs).options.get?).validate with
  | error fault => rfl
  | ok _ =>
      cases (PoolOptions.extract url.queryPairs).others.isEmpty with
      | false => rfl
      | true =>
          simp only [if_true]
          cases kind with
          | postgres => exact map_ofServerUrl_withoutPassword url _
          | sqlite => exact map_ofFileUrl_withoutPassword url _

/-- With a known scheme, the result of reading a URL depends on its password in the password
only. -/
theorem map_ofUrl_withoutPassword {scheme user password other : String} {kind : DatabaseKind}
    (known : DatabaseKind.ofScheme? scheme = some kind) (plain : isPlain user = true)
    (given : password ≠ "") (passwordPlain : isPlain password = true)
    (otherGiven : other ≠ "") (otherPlain : isPlain other = true) (rest : String) :
    (ofUrl (Url.ofParts scheme user password rest)).map withoutPassword
      = (ofUrl (Url.ofParts scheme user other rest)).map withoutPassword := by
  have letters := DatabaseKind.isAlpha_of_ofScheme? known
  have noColon : ':' ∉ scheme.toList := by
    intro member
    cases letters ':' member
  have solid := Url.isOuterBlank_of_written (written_of_isAlpha letters)
  obtain ⟨more, target, parsed⟩ :=
    Url.exists_parse noColon solid (written_of_isPlain plain) rest
  let bare := fun found =>
    (Url.ofTarget (Text.lower scheme) (Url.encodeUser user.toList) [] found).withoutPassword
  have read : ∀ {word : String}, word ≠ "" -> isPlain word = true ->
      (ofUrl (Url.ofParts scheme user word rest)).map withoutPassword
        = (target.mapError ConfigFault.invalidUrl >>= fun found => ofParsed kind (bare found)) := by
    intro word wordGiven wordPlain
    have named := (DatabaseKind.ofConnectionText?_ofParts noColon user word rest).trans known
    rw [ofUrl_of_ofConnectionText? named, parsed word wordGiven (written_of_isPlain wordPlain)]
    -- the target is the same for every password, so the two readings fail together
    cases target with
    | error fault => simp only [Except.map, Except.mapError, bind, Except.bind]
    | ok found =>
        have cleared := Url.withoutPassword_ofTarget (Text.lower scheme)
          (Url.encodeUser user.toList) (Url.encodeUser (word.toList ++ more)) [] found
        simp only [Except.mapError, bind, Except.bind, bare, ← cleared]
        exact map_ofParsed_withoutPassword kind _
  rw [read given passwordPlain, read otherGiven otherPlain]

/-- A URL of an unknown scheme is quoted in the fault, with its password. -/
theorem ofUrl_of_unknown {scheme : String} (noColon : ':' ∉ scheme.toList)
    (unknown : DatabaseKind.ofScheme? scheme = none) (user password rest : String) :
    ofUrl (Url.ofParts scheme user password rest)
      = .error (.unknownDatabaseType (Url.ofParts scheme user password rest)) := by
  unfold ofUrl
  rw [DatabaseKind.ofConnectionText?_ofParts noColon, unknown]

/-- Two URLs that differ in their passwords are read alike but for the password exactly if their
scheme names a database. -/
theorem alikeButPassword_iff {scheme user password other : String}
    (noColon : ':' ∉ scheme.toList) (plain : isPlain user = true)
    (given : password ≠ "") (passwordPlain : isPlain password = true)
    (otherGiven : other ≠ "") (otherPlain : isPlain other = true) (rest : String) :
    AlikeButPassword (ofUrl (Url.ofParts scheme user password rest))
        (ofUrl (Url.ofParts scheme user other rest))
      ↔ (DatabaseKind.ofScheme? scheme).isSome = true ∨ password = other := by
  cases named : DatabaseKind.ofScheme? scheme with
  | some kind =>
      refine iff_of_true (alikeButPassword_of_map_eq ?_) (Or.inl rfl)
      exact map_ofUrl_withoutPassword named plain given passwordPlain otherGiven otherPlain rest
  | none =>
      rw [ofUrl_of_unknown noColon named, ofUrl_of_unknown noColon named]
      constructor
      · intro alike
        have quoted := ConfigFault.message_unknownDatabaseType_inj alike.message_eq
        have text := congrArg String.toList quoted
        rw [Url.toList_ofParts, Url.toList_ofParts] at text
        refine Or.inr (String.toList_inj.mp ?_)
        simpa using text
      · rintro (found | rfl)
        · cases found
        · exact .error rfl rfl

theorem alikeButPassword_of_lounge :
    ':' ∉ "Postgres".toList ∧ isPlain "ops" = true ∧ "hunter2" ≠ "" ∧ isPlain "hunter2" = true
      ∧ "p-4.x_y~" ≠ "" ∧ isPlain "p-4.x_y~" = true
      ∧ AlikeButPassword (ofUrl (Url.ofParts "Postgres" "ops" "hunter2" "lounge@eu:5433/airline"))
          (ofUrl (Url.ofParts "Postgres" "ops" "p-4.x_y~" "lounge@eu:5433/airline")) :=
  ⟨by decide, by decide, by decide, by decide, by decide, by decide,
    (alikeButPassword_iff (by decide) (by decide) (by decide) (by decide) (by decide) (by decide)
      "lounge@eu:5433/airline").mpr (Or.inl (by decide))⟩

/-- The password reaches a message: a URL of letters in front of a colon that name no database. -/
theorem not_forall_alikeButPassword :
    ¬ ∀ scheme user password other rest : String,
      scheme.toList.all Char.isAlpha = true -> isPlain user = true ->
      password ≠ "" -> isPlain password = true -> other ≠ "" -> isPlain other = true ->
        AlikeButPassword (ofUrl (Url.ofParts scheme user password rest))
          (ofUrl (Url.ofParts scheme user other rest)) := by
  intro alike
  have same := alike "mysql" "ops" "hunter2" "secret" "db/airline" (by decide) (by decide)
    (by decide) (by decide) (by decide) (by decide)
  rw [ofUrl_of_unknown (by decide) (by decide), ofUrl_of_unknown (by decide) (by decide)] at same
  exact absurd (ConfigFault.message_unknownDatabaseType_inj same.message_eq) (by decide)

end ConnectionConfig
end SqlGate
