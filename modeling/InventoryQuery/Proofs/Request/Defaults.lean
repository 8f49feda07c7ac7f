import Mathlib
import InventoryQuery.Proofs.Noted
import InventoryQuery.Request.Client

/-! Requests for named tables. A named table is an address with defaults, so the request for
it is the one for its address with the defaults written into the query. The preset filter of
a table stays in force whatever the caller asks for. -/
namespace InventoryQuery

/-- What the preset of a table compiles to, if it has one. -/
def TableSpec.Presets (spec : TableSpec) : Option Document → Prop
  | none => spec.preset = none
  | some preset => ∃ source, spec.preset = some source ∧
      (Filter.compileText source).result = .ok preset

namespace Query

def withFilter (q : Query) : Option Document → Query
  | none => q
  | some preset => { q with filter := some ((q.filter.getD .empty).merge preset) }

/-- A query with all that a table adds to it. -/
def writtenOut (q : Query) (spec : TableSpec) (preset : Option Document) : Query :=
  { q.withFilter preset with
    columns := if q.columns = none ∧ spec.columns ≠ [] then some spec.columns else q.columns
    sort := if q.sort = none then spec.sort else q.sort
    reports := if q.reports = none then spec.reports else q.reports }

end Query

namespace Client

theorem withPreset_result {spec : TableSpec} {preset : Option Document}
    (presets : spec.Presets preset) (q : Query) :
    (withPreset spec q).result = .ok (q.withFilter preset) := by
  rw [withPreset]
  cases preset with
  | none =>
    rw [TableSpec.Presets] at presets
    rw [presets]
    rfl
  | some condition =>
    obtain ⟨source, given, compiled⟩ := presets
    rw [given]
    have reached := (Noted.mapError_eq_ok (ClientError.presetFilter spec.name) _ _).2 compiled
    exact Noted.bind_eq_ok.2 ⟨condition, reached, rfl⟩

theorem withDefaults_withFilter (spec : TableSpec) (preset : Option Document) (q : Query) :
    withDefaults spec (q.withFilter preset) = q.writtenOut spec preset := by
  have kept : (q.withFilter preset).columns = q.columns ∧ (q.withFilter preset).sort = q.sort ∧
      (q.withFilter preset).reports = q.reports := by
    cases preset <;> exact ⟨rfl, rfl, rfl⟩
  rw [withDefaults, Query.writtenOut, kept.1, kept.2.1, kept.2.2]
  congr 1
  · cases q.columns <;> cases spec.columns <;> simp
  · cases q.sort <;> simp
  · cases q.reports <;> simp

theorem prepareUri_result (client : Client) (uri : String) (q : Query) :
    (client.prepareUri uri q).result = .ok ⟨client.url uri, client.body q⟩ := rfl

theorem prepareTable_result (client : Client) {spec : TableSpec} {preset : Option Document}
    (presets : spec.Presets preset) (q : Query) :
    (client.prepareTable spec q).result =
      .ok ⟨client.url spec.uri, client.body (q.writtenOut spec preset)⟩ := by
  rw [← withDefaults_withFilter, prepareTable]
  exact Noted.bind_eq_ok.2 ⟨_, withPreset_result presets q, rfl⟩

/-- A request for a named table is the request for its address with the defaults of the
table written out. Each member of the preset is in its filter as the preset has it, and the
other members that the caller's filter has stay. -/
theorem prepare_eq_prepareUri (client : Client) {capability table : String} {c : Capability}
    {spec : TableSpec} {preset : Option Document}
    (registered : client.registry.get? capability = some c)
    (listed : c.table? table = some spec) (presets : spec.Presets preset) (q : Query) :
    ∃ request, (client.prepare capability table q).result = .ok request ∧
      (client.prepareUri spec.uri (q.writtenOut spec preset)).result = .ok request ∧
      ∀ condition, preset = some condition →
        (∀ key value, condition.get? key = some value →
          request.body.filters.get? key = some value) ∧
        ∀ given key value, q.filter = some given → given.get? key = some value →
          condition.get? key = none → request.body.filters.get? key = some value := by
  refine ⟨_, ?_, client.prepareUri_result _ _, ?_⟩
  · rw [prepare, registered]
    simp only [listed]
    exact client.prepareTable_result presets q
  · rintro condition rfl
    have filters : (client.body (q.writtenOut spec (some condition))).filters =
        (q.filter.getD .empty).merge condition := rfl
    simp only [filters, Document.get?_merge]
    refine ⟨fun key value member => ?_, fun given key value asked member other => ?_⟩
    · rw [member, Option.some_or]
    · rw [other, Option.none_or, asked]
      exact member

def ofHost : Client :=
  ⟨"https://host/api/v1/", "$last",
    (Registry.empty.add Capability.inventory).add Capability.configurations⟩

/-- What `pid color = green` compiles to. -/
def greenParts : Document :=
  .entry "pid" (.array [.string "color", .string "eq", .number (.integer 0 (by decide))])

def otherParts : Document :=
  (Document.entry "hostname" (.string "core")).merge (.entry "pid" (.string "any"))

theorem prepare_eq_prepareUri_optics :
    let q : Query := { columns := some [], filter := some otherParts }
    ∃ request, (ofHost.prepare "inventory" "optics" q).result = .ok request ∧
      (ofHost.prepareUri "tables/inventory/pn"
        (q.writtenOut Capability.optics (some greenParts))).result = .ok request ∧
      request.body.filters.get? "pid" = greenParts.get? "pid" ∧
      request.body.filters.get? "hostname" = some (.string "core") := by
  intro q
  have registered : ofHost.registry.get? "inventory" = some Capability.inventory := by
    simp [ofHost, Registry.get?_add, Capability.inventory, Capability.configurations]
  have listed : Capability.inventory.table? "optics" = some Capability.optics := by decide
  have presets : Capability.optics.Presets (some greenParts) := ⟨_, rfl, by cbv⟩
  have own : otherParts.get? "hostname" = some (.string "core") := by
    simp [otherParts, Document.get?_merge, Document.string]
  obtain ⟨request, named, plain, inForce⟩ :=
    prepare_eq_prepareUri ofHost registered listed presets q
  obtain ⟨kept, stays⟩ := inForce greenParts rfl
  exact ⟨request, named, plain, kept "pid" _ rfl, stays _ "hostname" _ rfl own rfl⟩

end Client

end InventoryQuery
