import InventoryQuery.Proofs.Request.Secrets
import Mathlib.Data.List.Induction
import Mathlib.Data.List.Nodup

/-! The capabilities of a client. Capabilities whose names differ are all registered, each
under its own name, so that their order makes no difference; the first one whose name is
taken ends the registration. -/
namespace InventoryQuery

theorem Association.isSome_get?_iff {α : Type} {key : String} {entries : List (String × α)} :
    (get? key entries).isSome = true ↔ key ∈ entries.map Prod.fst := by
  induction entries with
  | nil => simp [get?]
  | cons head rest ih =>
    by_cases here : head.1 = key
    · simp [get?, here]
    · simp [get?, here, ih, Ne.symm here]

namespace Registry

variable {r : Registry} {providers before : List Capability} {c : Capability}

theorem ext {a b : Registry} (same : ∀ name, a.get? name = b.get? name) : a = b := by
  obtain ⟨entries, left⟩ := a
  obtain ⟨others, right⟩ := b
  obtain rfl : entries = others := Association.ext left right same
  rfl

theorem names_ascending (r : Registry) : r.names.Pairwise (· < ·) :=
  List.pairwise_map.2 r.ascending

theorem names_nodup (r : Registry) : r.names.Nodup :=
  r.names_ascending.imp fun {a b} (less : a < b) (same : a = b) =>
    String.lt_irrefl b (same ▸ less)

/-- A registry that has the given capabilities under their names, and nothing else. -/
def Holds (r : Registry) (providers : List Capability) : Prop :=
  ∀ name c, r.get? name = some c ↔ c ∈ providers ∧ c.name = name

theorem holds_empty : empty.Holds [] := by simp [Holds]

theorem Holds.add (holds : r.Holds before) (fresh : c.name ∉ before.map Capability.name) :
    (r.add c).Holds (before ++ [c]) := by
  intro name d
  have other : ∀ e ∈ before, e.name ≠ c.name := fun e member same =>
    fresh (List.mem_map.2 ⟨e, member, same⟩)
  rw [get?_add, List.mem_append, List.mem_singleton]
  split
  next here =>
    subst here
    constructor
    · rintro ⟨⟩
      exact ⟨.inr rfl, rfl⟩
    · rintro ⟨member | rfl, same⟩
      · exact absurd same (other d member)
      · rfl
  next differ =>
    rw [holds name d]
    refine ⟨fun ⟨member, same⟩ => ⟨.inl member, same⟩, ?_⟩
    rintro ⟨member | rfl, same⟩
    · exact ⟨member, same⟩
    · exact absurd same differ

theorem Holds.isSome_iff (holds : r.Holds before) (name : String) :
    (r.get? name).isSome = true ↔ name ∈ before.map Capability.name := by
  rw [Option.isSome_iff_exists, List.mem_map]
  exact exists_congr fun c => holds name c

theorem Holds.names_perm (holds : r.Holds providers)
    (distinct : (providers.map Capability.name).Nodup) :
    r.names.Perm (providers.map Capability.name) := by
  refine (List.perm_ext_iff_of_nodup r.names_nodup distinct).2 fun name => ?_
  rw [← holds.isSome_iff]
  exact Association.isSome_get?_iff.symm

theorem Holds.unique {r' : Registry} (holds : r.Holds providers) (also : r'.Holds providers) :
    r = r' :=
  ext fun name => Option.ext fun c => (holds name c).trans (also name c).symm

theorem Holds.perm {others : List Capability} (holds : r.Holds providers)
    (perm : others.Perm providers) : r.Holds others := by
  intro name c
  rw [holds name c, perm.mem_iff]

theorem addAll_distinct (holds : r.Holds before)
    (distinct : ((before ++ providers).map Capability.name).Nodup) :
    ∃ registry, r.addAll providers = .ok registry ∧ registry.Holds (before ++ providers) := by
  induction providers generalizing r before with
  | nil => exact ⟨r, rfl, by rwa [List.append_nil]⟩
  | cons c rest ih =>
    have fresh : c.name ∉ before.map Capability.name := fun taken => by
      rw [List.map_append] at distinct
      exact List.disjoint_of_nodup_append distinct taken List.mem_cons_self
    have split : before ++ c :: rest = before ++ [c] ++ rest := List.append_cons before c rest
    rw [split] at distinct ⊢
    rw [addAll, if_neg (mt (holds.isSome_iff c.name).1 fresh)]
    exact ih (holds.add fresh) distinct

theorem addAll_append (r : Registry) (before after : List Capability) :
    r.addAll (before ++ after) = r.addAll before >>= fun registry => registry.addAll after := by
  induction before generalizing r with
  | nil => rfl
  | cons c rest ih =>
    rw [List.cons_append, addAll, addAll]
    split
    · rfl
    · exact ih _

theorem addAll_taken (distinct : (before.map Capability.name).Nodup)
    (taken : c.name ∈ before.map Capability.name) (after : List Capability) :
    empty.addAll (before ++ c :: after) = .error (.duplicateCapability c.name) := by
  have all : (([] ++ before).map Capability.name).Nodup := distinct
  obtain ⟨registry, added, holds⟩ := addAll_distinct holds_empty all
  rw [addAll_append, added]
  exact if_pos ((holds.isSome_iff c.name).2 taken)

theorem exists_taken (repeated : ¬(providers.map Capability.name).Nodup) :
    ∃ before c after, providers = before ++ c :: after ∧
      (before.map Capability.name).Nodup ∧ c.name ∈ before.map Capability.name := by
  induction providers using List.reverseRecOn with
  | nil => exact absurd List.nodup_nil repeated
  | append_singleton before c ih =>
    by_cases distinct : (before.map Capability.name).Nodup
    · refine ⟨before, c, [], rfl, distinct, by_contra fun fresh => repeated ?_⟩
      rw [List.map_append, List.map_singleton]
      exact distinct.append (List.nodup_singleton _) (by simpa using fresh)
    · obtain ⟨first, d, after, rfl, apart, taken⟩ := ih distinct
      exact ⟨first, d, after ++ [c], by simp, apart, taken⟩

end Registry

namespace Client

theorem create_of_repeated (config : Config) {providers : List Capability}
    (repeated : ¬(providers.map Capability.name).Nodup) :
    ∃ before c after, providers = before ++ c :: after ∧
      (before.map Capability.name).Nodup ∧ c.name ∈ before.map Capability.name ∧
      create config providers = .error (.duplicateCapability c.name) := by
  obtain ⟨before, c, after, rfl, distinct, taken⟩ := Registry.exists_taken repeated
  refine ⟨before, c, after, rfl, distinct, taken, ?_⟩
  rw [create, Registry.addAll_taken distinct taken]
  rfl

theorem create_eq_ok_iff {config : Config} {providers : List Capability} {client : Client} :
    create config providers = .ok client ↔
      (providers.map Capability.name).Nodup ∧ client.apiBase = config.apiBase ∧
        client.snapshot = config.snapshot ∧ client.registry.Holds providers := by
  by_cases distinct : (providers.map Capability.name).Nodup
  · obtain ⟨registry, added, holds⟩ := Registry.addAll_distinct Registry.holds_empty distinct
    rw [create, added]
    constructor
    · intro made
      obtain rfl := Except.ok.inj made
      exact ⟨distinct, rfl, rfl, holds⟩
    · obtain ⟨base, snapshot, registered⟩ := client
      rintro ⟨-, rfl, rfl, also⟩
      obtain rfl := holds.unique also
      rfl
  · obtain ⟨_, _, _, -, -, -, refused⟩ := create_of_repeated config distinct
    rw [refused]
    constructor
    · intro made
      cases made
    · intro made
      exact absurd made.1 distinct

theorem exists_create (config : Config) {providers : List Capability}
    (distinct : (providers.map Capability.name).Nodup) :
    ∃ client, create config providers = .ok client := by
  obtain ⟨registry, -, holds⟩ := Registry.addAll_distinct Registry.holds_empty distinct
  exact ⟨⟨config.apiBase, config.snapshot, registry⟩,
    create_eq_ok_iff.2 ⟨distinct, rfl, rfl, holds⟩⟩

/-- A client is made just where the names of the capabilities differ, and else the first
capability with the name of an earlier one is blamed. The client has each capability under
its name, lists the names in ascending order, and is the same to all who ask it if the
capabilities come in another order. -/
theorem create_registers (config : Config) (providers : List Capability) :
    ((∃ client, create config providers = .ok client) ↔
      (providers.map Capability.name).Nodup) ∧
    (¬(providers.map Capability.name).Nodup →
      ∃ before c after, providers = before ++ c :: after ∧
        (before.map Capability.name).Nodup ∧ c.name ∈ before.map Capability.name ∧
        create config providers = .error (.duplicateCapability c.name)) ∧
    ∀ client, create config providers = .ok client →
      client.registry.names.Pairwise (· < ·) ∧
      client.registry.names.Perm (providers.map Capability.name) ∧
      (∀ name c, client.registry.get? name = some c ↔ c ∈ providers ∧ c.name = name) ∧
      ∀ others, others.Perm providers →
        ∃ other, create config others = .ok other ∧ other.Indistinguishable client := by
  refine ⟨⟨fun ⟨_, made⟩ => (create_eq_ok_iff.1 made).1, exists_create config⟩,
    create_of_repeated config, fun client made => ?_⟩
  obtain ⟨distinct, base, snapshot, holds⟩ := create_eq_ok_iff.1 made
  refine ⟨client.registry.names_ascending, holds.names_perm distinct, holds,
    fun others perm => ⟨client, ?_, ⟨fun _ _ _ => rfl, fun _ _ => rfl⟩⟩⟩
  -- Nothing but the set of capabilities counts, so the very same client is made.
  have apart : (others.map Capability.name).Nodup := (perm.map _).nodup_iff.2 distinct
  exact create_eq_ok_iff.2 ⟨apart, base, snapshot, holds.perm perm⟩

def hostConfig : Config := ⟨"https://host", .token "secret", "$last"⟩

theorem create_registers_builtIn :
    (∃ client other, create hostConfig [.inventory, .configurations] = .ok client ∧
      create hostConfig [.configurations, .inventory] = .ok other ∧
      client.registry.names = ["configs", "inventory"] ∧
      client.registry.get? "inventory" = some .inventory ∧ other.Indistinguishable client) ∧
    ∃ before c after, [.configurations, .inventory, .inventory] = before ++ c :: after ∧
      (before.map Capability.name).Nodup ∧ c.name ∈ before.map Capability.name ∧
      create hostConfig [.configurations, .inventory, .inventory] =
        .error (.duplicateCapability c.name) := by
  obtain ⟨made, -, registers⟩ := create_registers hostConfig [.inventory, .configurations]
  obtain ⟨-, repeated, -⟩ :=
    create_registers hostConfig [.configurations, .inventory, .inventory]
  obtain ⟨client, here⟩ := made.2 (by decide)
  obtain ⟨ascending, names, registered, moved⟩ := registers client here
  obtain ⟨other, there, alike⟩ := moved [.configurations, .inventory] (.swap _ _ _)
  refine ⟨⟨client, other, here, there, ?_, ?_, alike⟩, repeated (by decide)⟩
  · have swapped : client.registry.names.Perm ["configs", "inventory"] :=
      names.trans (.swap _ _ _)
    exact swapped.eq_of_pairwise (fun _ _ _ _ less more => absurd more (String.lt_asymm less))
      ascending (by decide)
  · exact (registered _ _).2 ⟨by decide, rfl⟩

end Client

end InventoryQuery
