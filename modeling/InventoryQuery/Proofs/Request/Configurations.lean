import InventoryQuery.Proofs.Request.Settings

/-! Which configuration settings make. Only the five settings of a server are read, each of
them only if it is given, and then without the blanks around it. -/
namespace InventoryQuery

namespace Settings

/-- The credentials that settings give. A token wins over a login. -/
inductive Identifies (s : Settings) : Credentials → Prop
  | token {secret : String} (held : s.Holds "IPF_TOKEN" secret) : Identifies s (.token secret)
  | login {username password : String} (absent : ∀ secret, ¬s.Holds "IPF_TOKEN" secret)
    (user : s.Holds "IPF_USERNAME" username) (secret : s.Holds "IPF_PASSWORD" password) :
    Identifies s (.login username password)

theorem credentials?_eq_some_iff {s : Settings} {credentials : Credentials} :
    s.credentials? = some credentials ↔ s.Identifies credentials := by
  constructor
  · intro known
    rw [credentials?] at known
    split at known
    next token =>
      obtain rfl := Option.some.inj known
      exact .token (given?_eq_some_iff.1 token)
    next absent user secret =>
      obtain rfl := Option.some.inj known
      exact .login (given?_eq_none_iff.1 absent) (given?_eq_some_iff.1 user)
        (given?_eq_some_iff.1 secret)
    · cases known
  · rintro (held | ⟨absent, user, secret⟩)
    · have token : s.given? tokenName = some _ := given?_eq_some_iff.2 held
      rw [credentials?, token]
    · have token : s.given? tokenName = none := given?_eq_none_iff.2 absent
      have username : s.given? usernameName = some _ := given?_eq_some_iff.2 user
      have password : s.given? passwordName = some _ := given?_eq_some_iff.2 secret
      rw [credentials?, token, username, password]

def serverNames : List String :=
  ["IPF_ADDR", "IPF_TOKEN", "IPF_USERNAME", "IPF_PASSWORD", "IPF_SNAPSHOT"]

/-- Settings that give the same for a server. Values that differ in the blanks around them
give the same, and a blank value gives what an absent one gives. -/
def SameGiven (s s' : Settings) : Prop :=
  ∀ name ∈ serverNames, ∀ value, s.Holds name value ↔ s'.Holds name value

theorem SameGiven.given?_eq {s s' : Settings} (same : s.SameGiven s') {name : String}
    (member : name ∈ serverNames) : s.given? name = s'.given? name :=
  Option.ext fun value => by
    rw [given?_eq_some_iff, given?_eq_some_iff, same name member]

end Settings

namespace Config

variable {s s' : Settings}

/-- What settings make: the first error that there is cause for, or else a configuration. -/
inductive Makes (s : Settings) : Except ConfigError Config → Prop
  | missingAddress (absent : ∀ address, ¬s.Holds "IPF_ADDR" address) :
    Makes s (.error .missingAddress)
  | missingCredentials {address : String} (held : s.Holds "IPF_ADDR" address)
    (unknown : ¬s.Authenticates) : Makes s (.error .missingCredentials)
  | invalidAddress {address : String} (held : s.Holds "IPF_ADDR" address)
    (known : s.Authenticates) (other : ¬BeginsWithScheme address) :
    Makes s (.error (.invalidAddress address))
  | config {config : Config} (held : s.Holds "IPF_ADDR" config.address)
    (known : s.Identifies config.credentials) (scheme : BeginsWithScheme config.address)
    (snapshot : s.Holds "IPF_SNAPSHOT" config.snapshot ∨
      (∀ id, ¬s.Holds "IPF_SNAPSHOT" id) ∧ config.snapshot = "$last") :
    Makes s (.ok config)

theorem ofSettings_of_makes {outcome : Except ConfigError Config} (makes : Makes s outcome) :
    ofSettings s = outcome := by
  cases makes with
  | missingAddress absent =>
    have address : s.given? Settings.addressName = none := Settings.given?_eq_none_iff.2 absent
    rw [ofSettings, address]
  | missingCredentials held unknown =>
    have nobody : s.credentials? = none :=
      Option.eq_none_iff_forall_ne_some.2 fun credentials known =>
        unknown (Settings.credentials?_isSome_iff.1 ⟨credentials, known⟩)
    rw [ofSettings_of_holds held, nobody]
  | invalidAddress held known other =>
    obtain ⟨credentials, found⟩ := Settings.credentials?_isSome_iff.2 known
    rw [ofSettings_of_holds held, found]
    exact if_neg (mt hasScheme_iff.1 other)
  | config held known scheme snapshot =>
    refine ofSettings_eq_ok_iff.2 ⟨held, scheme, Settings.credentials?_eq_some_iff.2 known, ?_⟩
    rcases snapshot with given | ⟨absent, last⟩
    · have snapshot : s.given? Settings.snapshotName = some _ := Settings.given?_eq_some_iff.2 given
      rw [snapshot, Option.getD_some]
    · have snapshot : s.given? Settings.snapshotName = none := Settings.given?_eq_none_iff.2 absent
      rw [snapshot]
      exact last

theorem exists_makes (s : Settings) : ∃ outcome, Makes s outcome := by
  by_cases address : ∃ address, s.Holds "IPF_ADDR" address
  · obtain ⟨address, held⟩ := address
    by_cases known : s.Authenticates
    · by_cases scheme : BeginsWithScheme address
      · obtain ⟨credentials, found⟩ := Settings.credentials?_isSome_iff.2 known
        have identifies := Settings.credentials?_eq_some_iff.1 found
        cases given : s.given? "IPF_SNAPSHOT" with
        | some id =>
          have snapshot := Settings.given?_eq_some_iff.1 given
          exact ⟨.ok ⟨address, credentials, id⟩, .config held identifies scheme (.inl snapshot)⟩
        | none =>
          have absent := Settings.given?_eq_none_iff.1 given
          exact ⟨.ok ⟨address, credentials, "$last"⟩,
            .config held identifies scheme (.inr ⟨absent, rfl⟩)⟩
      · exact ⟨_, .invalidAddress held known scheme⟩
    · exact ⟨_, .missingCredentials held known⟩
  · exact ⟨_, .missingAddress (not_exists.1 address)⟩

theorem ofSettings_eq_iff {outcome : Except ConfigError Config} :
    ofSettings s = outcome ↔ Makes s outcome := by
  refine ⟨?_, ofSettings_of_makes⟩
  rintro rfl
  obtain ⟨outcome, makes⟩ := exists_makes s
  rwa [ofSettings_of_makes makes]

theorem ofSettings_congr (same : s.SameGiven s') : ofSettings s = ofSettings s' := by
  have given (name : String) (member : name ∈ Settings.serverNames) := same.given?_eq member
  rw [ofSettings, ofSettings, Settings.credentials?, Settings.credentials?,
    given Settings.addressName (by decide), given Settings.tokenName (by decide),
    given Settings.usernameName (by decide), given Settings.passwordName (by decide),
    given Settings.snapshotName (by decide)]

/-- Settings make the configuration that their given values say, or fail for the first
reason that there is: no address, no credentials, an address without a scheme. Nothing else
about the settings counts, so that blanks around values and blank values make no difference.
Requests go below the address, with one slash between. -/
theorem ofSettings_makes_given (s : Settings) :
    (∀ outcome, ofSettings s = outcome ↔ Makes s outcome) ∧
    (∀ s', s.SameGiven s' → ofSettings s' = ofSettings s) ∧
    ∀ config, ofSettings s = .ok config →
      config.apiBase =
        if "/".toList <:+ config.address.toList then config.address ++ "api/v1/"
        else config.address ++ "/api/v1/" :=
  ⟨fun _ => ofSettings_eq_iff, fun _ same => (ofSettings_congr same).symm,
    fun config _ => config.apiBase_eq_ite⟩

def adaSettings : Settings :=
  .ofList [("IPF_ADDR", "https://host/"), ("IPF_USERNAME", "ada"),
    ("IPF_PASSWORD", "red rose"), ("IPF_SNAPSHOT", "\u00a0")]

def paddedSettings : Settings :=
  .ofList [("IPF_ADDR", "\t https://host/\u3000"), ("IPF_TOKEN", " \n"),
    ("IPF_USERNAME", "ada\u2003"), ("IPF_PASSWORD", " red rose\r\n"), ("HOME", "/root")]

theorem ofSettings_makes_padded :
    adaSettings.SameGiven paddedSettings ∧
      ∃ config, ofSettings paddedSettings = .ok config ∧
        config = ⟨"https://host/", .login "ada" "red rose", "$last"⟩ ∧
        config.apiBase = "https://host/api/v1/" := by
  have given : ∀ name ∈ Settings.serverNames,
      adaSettings.given? name = paddedSettings.given? name := by decide
  have same : adaSettings.SameGiven paddedSettings := fun name member value => by
    rw [← Settings.given?_eq_some_iff, given name member, Settings.given?_eq_some_iff]
  have address : adaSettings.Holds "IPF_ADDR" "https://host/" := ⟨_, rfl, by decide, by decide⟩
  have user : adaSettings.Holds "IPF_USERNAME" "ada" := ⟨_, rfl, by decide, by decide⟩
  have secret : adaSettings.Holds "IPF_PASSWORD" "red rose" := ⟨_, rfl, by decide, by decide⟩
  have token : adaSettings.given? "IPF_TOKEN" = none := by decide
  have snapshot : adaSettings.given? "IPF_SNAPSHOT" = none := by decide
  let config : Config := ⟨"https://host/", .login "ada" "red rose", "$last"⟩
  have reads : Makes adaSettings (.ok config) :=
    .config address (.login (Settings.given?_eq_none_iff.1 token) user secret) (.inr (by decide))
      (.inr ⟨Settings.given?_eq_none_iff.1 snapshot, rfl⟩)
  obtain ⟨makes, moved, based⟩ := ofSettings_makes_given adaSettings
  have made := (makes _).2 reads
  exact ⟨same, config, (moved _ same).trans made, rfl, (based _ made).trans (by decide)⟩

end Config

end InventoryQuery
