import InventoryQuery.Proofs.Request.Settings
import InventoryQuery.Request.Client
import Mathlib.Data.Option.Defs

/-! Secrets do not show. Settings that differ in the token and the password alone give
configurations that display alike, or fail alike, and the clients made from them answer
every call alike, with the same events on the way. -/
namespace InventoryQuery

/-- Two outcomes with the same error, or with related values. -/
inductive Alike {ε α : Type} (related : α → α → Prop) : Except ε α → Except ε α → Prop
  | error (cause : ε) : Alike related (.error cause) (.error cause)
  | ok {a b : α} (both : related a b) : Alike related (.ok a) (.ok b)

theorem Alike.map {ε α β : Type} {related : α → α → Prop} {related' : β → β → Prop}
    {f : α → β} (keeps : ∀ a b, related a b → related' (f a) (f b)) {x y : Except ε α}
    (alike : Alike related x y) : Alike related' (x.map f) (y.map f) := by
  cases alike with
  | error cause => exact .error cause
  | ok both => exact .ok (keeps _ _ both)

/-- Credentials of one kind, and for a login of one user. -/
inductive Credentials.SameButSecret : Credentials → Credentials → Prop
  | token (secret secret' : String) : SameButSecret (.token secret) (.token secret')
  | login (username password password' : String) :
    SameButSecret (.login username password) (.login username password')

namespace Settings

def secretNames : List String := [tokenName, passwordName]

/-- The same settings but for the secrets. A secret that differs is blank on neither side,
so that both sides have one. -/
structure SameButSecrets (s s' : Settings) : Prop where
  others : ∀ name ∉ secretNames, s.get? name = s'.get? name
  secrets : ∀ name ∈ secretNames, s.get? name = s'.get? name ∨
    (∃ value, s.Holds name value) ∧ ∃ value, s'.Holds name value

variable {s s' : Settings}

theorem given?_congr {name : String} (same : s.get? name = s'.get? name) :
    s.given? name = s'.given? name := by
  rw [given?, given?, same]

namespace SameButSecrets

theorem given?_eq (alike : s.SameButSecrets s') {name : String} (plain : name ∉ secretNames) :
    s.given? name = s'.given? name := given?_congr (alike.others name plain)

theorem given?_secret (alike : s.SameButSecrets s') {name : String}
    (secret : name ∈ secretNames) :
    Option.Rel (fun _ _ => True) (s.given? name) (s'.given? name) := by
  obtain same | ⟨⟨value, held⟩, ⟨value', held'⟩⟩ := alike.secrets name secret
  · rw [given?_congr same]
    cases s'.given? name with
    | none => exact .none
    | some value => exact .some trivial
  · rw [given?_eq_some_iff.2 held, given?_eq_some_iff.2 held']
    exact .some trivial

theorem credentials? (alike : s.SameButSecrets s') :
    Option.Rel Credentials.SameButSecret s.credentials? s'.credentials? := by
  have token := alike.given?_secret (show tokenName ∈ secretNames by decide)
  have password := alike.given?_secret (show passwordName ∈ secretNames by decide)
  rw [Settings.credentials?, Settings.credentials?,
    alike.given?_eq (show usernameName ∉ secretNames by decide)]
  generalize s.given? tokenName = t, s'.given? tokenName = t' at token
  generalize s.given? passwordName = p, s'.given? passwordName = p' at password
  -- Which secrets are given decides the kind of the credentials, not their values.
  cases token with
  | some _ => exact .some (.token _ _)
  | none =>
    cases s'.given? usernameName with
    | none => exact .none
    | some user =>
      cases password with
      | some _ => exact .some (.login user _ _)
      | none => exact .none

end SameButSecrets

end Settings

namespace Config

theorem displayCredentials_eq {credentials credentials' : Credentials}
    (same : credentials.SameButSecret credentials') :
    displayCredentials credentials = displayCredentials credentials' := by
  -- The equations of the definition would evaluate the display of `redacted`.
  delta displayCredentials
  cases same with
  | token secret secret' => dsimp only
  | login username password password' => dsimp only

/-- The same configuration but for the secret of its credentials. -/
structure SameButSecret (c c' : Config) : Prop where
  address : c.address = c'.address
  snapshot : c.snapshot = c'.snapshot
  credentials : c.credentials.SameButSecret c'.credentials

theorem create_alike (address : String) {credentials credentials' : Credentials}
    (same : credentials.SameButSecret credentials') :
    Alike SameButSecret (create address credentials) (create address credentials') := by
  rw [create, create]
  split
  · exact .ok ⟨rfl, rfl, same⟩
  · exact .error _

theorem ofSettings_alike {s s' : Settings} (alike : s.SameButSecrets s') :
    Alike SameButSecret (ofSettings s) (ofSettings s') := by
  have credentials := alike.credentials?
  rw [ofSettings, ofSettings,
    alike.given?_eq (show Settings.addressName ∉ Settings.secretNames by decide),
    alike.given?_eq (show Settings.snapshotName ∉ Settings.secretNames by decide)]
  generalize s.credentials? = found, s'.credentials? = found' at credentials
  cases s'.given? Settings.addressName with
  | none => exact .error _
  | some address =>
    cases credentials with
    | none => exact .error _
    | some same =>
      refine (create_alike address same).map fun c c' both => ?_
      exact ⟨both.address, by rw [both.snapshot], both.credentials⟩

namespace SameButSecret

variable {c c' : Config}

theorem display_eq (same : c.SameButSecret c') : c.display = c'.display := by
  delta display
  rw [same.address, same.snapshot, displayCredentials_eq same.credentials]

theorem apiBase_eq (same : c.SameButSecret c') : c.apiBase = c'.apiBase := by
  rw [apiBase, apiBase, same.address]

theorem create_eq (same : c.SameButSecret c') (providers : List Capability) :
    Client.create c providers = Client.create c' providers := by
  rw [Client.create, Client.create, same.apiBase_eq, same.snapshot]

end SameButSecret

end Config

/-- Two clients that answer every call alike. -/
structure Client.Indistinguishable (client client' : Client) : Prop where
  prepare : ∀ capability table q,
    client.prepare capability table q = client'.prepare capability table q
  prepareUri : ∀ uri q, client.prepareUri uri q = client'.prepareUri uri q

/-- Two configurations that show the same and whose clients do. -/
structure Config.Indistinguishable (c c' : Config) : Prop where
  display : c.display = c'.display
  address : c.address = c'.address
  snapshot : c.snapshot = c'.snapshot
  apiBase : c.apiBase = c'.apiBase
  clients : ∀ providers,
    Alike Client.Indistinguishable (Client.create c providers) (Client.create c' providers)

theorem Config.SameButSecret.indistinguishable {c c' : Config} (same : c.SameButSecret c') :
    c.Indistinguishable c' where
  display := same.display_eq
  address := same.address
  snapshot := same.snapshot
  apiBase := same.apiBase_eq
  clients := fun providers => by
    rw [same.create_eq providers]
    cases Client.create c' providers with
    | error cause => exact .error cause
    | ok client => exact .ok ⟨fun _ _ _ => rfl, fun _ _ => rfl⟩

/-- Settings that differ in their secrets alone fail with the same error, or give
configurations that nothing tells apart. -/
theorem ofSettings_hides_secrets {s s' : Settings} (alike : s.SameButSecrets s') :
    Alike Config.Indistinguishable (Config.ofSettings s) (Config.ofSettings s') := by
  have outcomes := Config.ofSettings_alike alike
  generalize Config.ofSettings s = outcome, Config.ofSettings s' = outcome' at outcomes
  cases outcomes with
  | error cause => exact .error cause
  | ok same => exact .ok same.indistinguishable

def loginSettings (password : String) : Settings :=
  .ofList [(Settings.addressName, "https://host"), (Settings.usernameName, "ada"),
    (Settings.passwordName, password)]

@[simp] theorem get?_loginSettings (password name : String) :
    (loginSettings password).get? name =
      if Settings.passwordName = name then some password
      else if Settings.usernameName = name then some "ada"
      else if Settings.addressName = name then some "https://host" else none := by
  simp [loginSettings, Settings.ofList, Settings.get?_set]

theorem holds_loginSettings {password : String} (visible : Text.trim password ≠ "") :
    (loginSettings password).Holds Settings.passwordName (Text.trim password) :=
  ⟨password, by simp, rfl, visible⟩

theorem loginSettings_sameButSecrets {password password' : String}
    (visible : Text.trim password ≠ "") (visible' : Text.trim password' ≠ "") :
    (loginSettings password).SameButSecrets (loginSettings password') where
  others := fun name plain => by
    have other : Settings.passwordName ≠ name := fun same => plain (same ▸ by decide)
    simp [other]
  secrets := fun name secret => by
    by_cases here : Settings.passwordName = name
    · subst here
      exact .inr ⟨⟨_, holds_loginSettings visible⟩, _, holds_loginSettings visible'⟩
    · exact .inl (by simp [here])

theorem ofSettings_loginSettings {password : String} (visible : Text.trim password ≠ "") :
    Config.ofSettings (loginSettings password) =
      .ok ⟨"https://host", .login "ada" (Text.trim password), "$last"⟩ := by
  have address : (loginSettings password).Holds Settings.addressName "https://host" :=
    ⟨"https://host", by simp [Settings.passwordName, Settings.usernameName, Settings.addressName],
      by decide, by decide⟩
  have user : (loginSettings password).Holds Settings.usernameName "ada" :=
    ⟨"ada", by simp [Settings.passwordName, Settings.usernameName], by decide, by decide⟩
  have absent : (loginSettings password).given? Settings.tokenName = none := by
    simp [Settings.given?, Settings.passwordName, Settings.usernameName, Settings.addressName,
      Settings.tokenName]
  refine Config.ofSettings_eq_ok_iff.2
    ⟨address, Config.hasScheme_iff.1 (show Config.hasScheme "https://host" by decide), ?_, ?_⟩
  · rw [Settings.credentials?, absent, Settings.given?_eq_some_iff.2 user,
      Settings.given?_eq_some_iff.2 (holds_loginSettings visible)]
  · simp [Settings.given?, Settings.passwordName, Settings.usernameName, Settings.addressName,
      Settings.snapshotName, Config.defaultSnapshot]

theorem ofSettings_hides_secrets_login :
    (loginSettings "red").SameButSecrets (loginSettings " blue ") ∧
      ∃ c c' : Config, Config.ofSettings (loginSettings "red") = .ok c ∧
        Config.ofSettings (loginSettings " blue ") = .ok c' ∧
        c.credentials ≠ c'.credentials ∧ c.Indistinguishable c' := by
  have alike : (loginSettings "red").SameButSecrets (loginSettings " blue ") :=
    loginSettings_sameButSecrets (by decide) (by decide)
  have first := ofSettings_loginSettings (show Text.trim "red" ≠ "" by decide)
  have second := ofSettings_loginSettings (show Text.trim " blue " ≠ "" by decide)
  have outcomes := ofSettings_hides_secrets alike
  rw [first, second] at outcomes
  cases outcomes with
  | ok both => exact ⟨alike, _, _, first, second, by decide, both⟩

end InventoryQuery
