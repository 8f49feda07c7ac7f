import InventoryQuery.Request.Config
import Mathlib.Data.List.DropRight

/-! What settings say. Two collections with the same value under every name are the same
one, and a list of assignments leaves under each name the last value that it assigns. A
configuration is read off the settings that are given. -/
namespace InventoryQuery

namespace Text

theorem trimStart_of_prefix {part cs : List Char} (within : part <+: trimStart cs) :
    trimStart part = part := by
  cases part with
  | nil => rfl
  | cons c part =>
    obtain ⟨rest, same⟩ := within
    have first : (trimStart cs).head? = some c := by rw [← same]; rfl
    have visible := List.head?_dropWhile_not isBlank cs
    rw [← trimStart, first] at visible
    rw [trimStart_cons, if_neg (by simpa using visible)]

theorem trimmed_trimmed (cs : List Char) : trimmed (trimmed cs) = trimmed cs := by
  have within : trimmed cs <+: trimStart cs := List.rdropWhile_prefix isBlank _
  calc trimmed (trimmed cs) = trimEnd (trimmed cs) := by
        rw [trimmed, trimStart_of_prefix within]
    _ = trimmed cs := List.rdropWhile_idempotent isBlank (trimStart cs)

theorem trim_trim (text : String) : trim (trim text) = trim text := by
  rw [trim, toList_trim, trimmed_trimmed, ← trim]

theorem nonBlank?_eq_some_iff {text inside : String} :
    nonBlank? text = some inside ↔ trim text = inside ∧ inside ≠ "" := by
  rw [nonBlank?]
  by_cases blank : trim text = ""
  · rw [blank]
    exact ⟨nofun, fun ⟨same, other⟩ => absurd same.symm other⟩
  · simp only [String.isEmpty_iff, blank, if_false, Option.some.injEq]
    exact ⟨fun same => ⟨same, same ▸ blank⟩, And.left⟩

end Text

namespace Settings

theorem ext {a b : Settings} (same : ∀ name, a.get? name = b.get? name) : a = b := by
  obtain ⟨entries, left⟩ := a
  obtain ⟨others, right⟩ := b
  obtain rfl : entries = others := Association.ext left right same
  rfl

/-- Makes assignments one after another. -/
def setAll (s : Settings) (assignments : List (String × String)) : Settings :=
  assignments.foldl (fun s entry => s.set entry.1 entry.2) s

theorem setAll_append (s : Settings) (first second : List (String × String)) :
    s.setAll (first ++ second) = (s.setAll first).setAll second :=
  List.foldl_append

/-- The value that the last assignment to a name assigns. -/
def lastValue? (assignments : List (String × String)) (name : String) : Option String :=
  assignments.reverse.lookup name

theorem lastValue?_append (first second : List (String × String)) (name : String) :
    lastValue? (first ++ second) name = (lastValue? second name).or (lastValue? first name) := by
  rw [lastValue?, List.reverse_append, List.lookup_append]
  rfl

theorem lastValue?_singleton (entry : String × String) (name : String) :
    lastValue? [entry] name = if entry.1 = name then some entry.2 else none := by
  obtain ⟨key, value⟩ := entry
  by_cases here : key = name
  · simp [lastValue?, here]
  · have other : (name == key) = false := beq_false_of_ne (Ne.symm here)
    simp [lastValue?, List.lookup_cons, other, here]

theorem lastValue?_cons (entry : String × String) (rest : List (String × String))
    (name : String) :
    lastValue? (entry :: rest) name =
      (lastValue? rest name).or (if entry.1 = name then some entry.2 else none) := by
  rw [← lastValue?_singleton, ← lastValue?_append, List.singleton_append]

theorem lastValue?_eq_none {assignments : List (String × String)} {name : String}
    (absent : ∀ entry ∈ assignments, entry.1 ≠ name) : lastValue? assignments name = none := by
  induction assignments with
  | nil => rfl
  | cons entry rest ih =>
    obtain ⟨here, others⟩ := List.forall_mem_cons.1 absent
    rw [lastValue?_cons, ih others, if_neg here, Option.or_none]

theorem lastValue?_of_mem {assignments : List (String × String)}
    (distinct : (assignments.map Prod.fst).Nodup) {entry : String × String}
    (member : entry ∈ assignments) : lastValue? assignments entry.1 = some entry.2 := by
  induction assignments with
  | nil => cases member
  | cons head rest ih =>
    obtain ⟨absent, distinct'⟩ := List.nodup_cons.1 distinct
    rw [lastValue?_cons]
    rcases List.mem_cons.1 member with rfl | later
    · have others : lastValue? rest entry.1 = none := lastValue?_eq_none fun other inside same =>
        absent (List.mem_map.2 ⟨other, inside, same⟩)
      rw [others, if_pos rfl, Option.none_or]
    · rw [ih distinct' later, Option.some_or]

theorem get?_setAll (s : Settings) (assignments : List (String × String)) (name : String) :
    (s.setAll assignments).get? name = (lastValue? assignments name).or (s.get? name) := by
  induction assignments generalizing s with
  | nil => rfl
  | cons entry rest ih =>
    have step : s.setAll (entry :: rest) = (s.set entry.1 entry.2).setAll rest := rfl
    rw [step, ih, get?_set, lastValue?_cons, Option.or_assoc]
    by_cases here : entry.1 = name
    · simp [here]
    · simp [here]

theorem eq_setAll_iff {s base : Settings} {assignments : List (String × String)} :
    s = base.setAll assignments ↔
      ∀ name, s.get? name = (lastValue? assignments name).or (base.get? name) := by
  constructor
  · rintro rfl name
    exact get?_setAll base assignments name
  · intro same
    exact ext fun name => (same name).trans (get?_setAll base assignments name).symm

/-- A setting has a value that is not blank, and this is it without blanks around it. -/
def Holds (s : Settings) (name value : String) : Prop :=
  ∃ raw, s.get? name = some raw ∧ Text.trim raw = value ∧ value ≠ ""

theorem given?_eq_some_iff {s : Settings} {name value : String} :
    s.given? name = some value ↔ s.Holds name value := by
  rw [given?, Holds, Option.bind_eq_some_iff]
  exact exists_congr fun raw => and_congr_right fun _ => Text.nonBlank?_eq_some_iff

theorem given?_eq_none_iff {s : Settings} {name : String} :
    s.given? name = none ↔ ∀ value, ¬s.Holds name value := by
  rw [Option.eq_none_iff_forall_ne_some]
  exact forall_congr' fun value => not_congr given?_eq_some_iff

theorem Holds.trim_eq {s : Settings} {name value : String} (held : s.Holds name value) :
    Text.trim value = value := by
  obtain ⟨raw, -, rfl, -⟩ := held
  exact Text.trim_trim raw

theorem Holds.unique {s : Settings} {name value other : String} (held : s.Holds name value)
    (also : s.Holds name other) : value = other :=
  Option.some.inj ((given?_eq_some_iff.2 held).symm.trans (given?_eq_some_iff.2 also))

/-- There is a token, or else a username and a password. -/
def Authenticates (s : Settings) : Prop :=
  (∃ token, s.Holds tokenName token) ∨
    (∃ username, s.Holds usernameName username) ∧ ∃ password, s.Holds passwordName password

theorem credentials?_isSome_iff {s : Settings} :
    (∃ credentials, s.credentials? = some credentials) ↔ s.Authenticates := by
  simp only [Authenticates, ← given?_eq_some_iff, credentials?]
  cases s.given? tokenName <;> cases s.given? usernameName <;> cases s.given? passwordName <;>
    simp

end Settings

namespace Config

/-- One of the two schemes stands in front. -/
def BeginsWithScheme (address : String) : Prop :=
  "http://".toList <+: address.toList ∨ "https://".toList <+: address.toList

theorem hasScheme_iff {address : String} :
    hasScheme address = true ↔ BeginsWithScheme address := by
  simp [hasScheme, schemes, BeginsWithScheme]

theorem ofSettings_of_holds {s : Settings} {address : String}
    (held : s.Holds Settings.addressName address) :
    ofSettings s =
      match s.credentials? with
      | none => .error .missingCredentials
      | some credentials =>
        if hasScheme address then
          .ok ⟨address, credentials,
            (s.given? Settings.snapshotName).getD defaultSnapshot⟩
        else .error (.invalidAddress address) := by
  rw [ofSettings, Settings.given?_eq_some_iff.2 held]
  cases s.credentials? with
  | none => rfl
  | some credentials =>
    -- The address is trimmed once more, which changes nothing.
    change (create address credentials).map _ = _
    rw [create, held.trim_eq]
    by_cases scheme : hasScheme address
    · rw [if_pos scheme]
      exact (if_pos scheme).symm
    · rw [if_neg scheme]
      exact (if_neg scheme).symm

theorem ofSettings_eq_ok_iff {s : Settings} {config : Config} :
    ofSettings s = .ok config ↔
      s.Holds Settings.addressName config.address ∧ BeginsWithScheme config.address ∧
        s.credentials? = some config.credentials ∧
        config.snapshot = (s.given? Settings.snapshotName).getD defaultSnapshot := by
  cases address : s.given? Settings.addressName with
  | none =>
    have absent := Settings.given?_eq_none_iff.1 address
    rw [ofSettings, address]
    exact ⟨nofun, fun ⟨held, _⟩ => absurd held (absent _)⟩
  | some found =>
    have held := Settings.given?_eq_some_iff.1 address
    rw [ofSettings_of_holds held]
    cases s.credentials? with
    | none => exact ⟨nofun, fun ⟨_, _, same, _⟩ => nomatch same⟩
    | some credentials =>
      change (if hasScheme found then _ else _) = _ ↔ _
      split
      next scheme =>
        rw [hasScheme_iff] at scheme
        constructor
        · intro made
          obtain rfl := Except.ok.inj made
          exact ⟨held, scheme, rfl, rfl⟩
        · obtain ⟨given, secret, snapshot⟩ := config
          rintro ⟨same, _, known, chosen⟩
          obtain rfl := held.unique same
          obtain rfl := Option.some.inj known
          obtain rfl : snapshot = _ := chosen
          rfl
      next other =>
        refine ⟨nofun, fun ⟨same, also, _⟩ => absurd ?_ other⟩
        rwa [hasScheme_iff, held.unique same]

theorem apiBase_eq_ite (config : Config) :
    config.apiBase =
      if "/".toList <:+ config.address.toList then config.address ++ "api/v1/"
      else config.address ++ "/api/v1/" := by
  have ended : config.address.toList.getLast? = some '/' ↔ "/".toList <:+ config.address.toList :=
    List.getLast?_eq_some_iff.trans (exists_congr fun _ => eq_comm)
  rw [apiBase, apiPath]
  simp only [ended]
  split
  · rw [String.append_empty]
  · rw [String.append_assoc]
    rfl

end Config

end InventoryQuery
