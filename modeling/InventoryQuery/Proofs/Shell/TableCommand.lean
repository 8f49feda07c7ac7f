import Mathlib
import InventoryQuery.Proofs.Noted
import InventoryQuery.Proofs.Shell.EnvFile
import InventoryQuery.Proofs.Shell.Saving

/-! The table command from its settings to its output. The settings of the environment lie
under those of a file; they admit the command or refuse it, and the request answers to
them and to the arguments of the command. -/
namespace InventoryQuery

theorem Query.applyAll_append (q : Query) (calls others : List Query.Call) :
    q.applyAll (calls ++ others) = q.applyAll calls >>= fun next => next.applyAll others := by
  induction calls generalizing q with
  | nil => rfl
  | cons call rest ih => simp only [List.cons_append, applyAll, bind_assoc, ih]

namespace Shell

variable {read : ReadFile} {environment settings : Settings} {a : TableArguments}

/-- What is assigned by the file of settings that a command names. It is readable, and each
of its lines is well formed; without a file nothing is assigned. -/
inductive Assigns (read : ReadFile) : Option String → List (String × String) → Prop
  | nothing : Assigns read none []
  | lines {path content : String} {readings : List EnvFile.Line}
      (readable : read path = .ok content)
      (reads : List.Forall₂ (fun line reading => EnvFile.Reads line.toList reading)
        (Text.lines content) readings)
      (wellFormed : ∀ reading ∈ readings, reading.WellFormed) :
      Assigns read (some path) (readings.filterMap EnvFile.Line.assigned?)

/-- The settings of an environment under the assignments of a file. The last assignment to a
name counts, and a name without one keeps its value. -/
def Effective (read : ReadFile) (environment : Settings) (file : Option String)
    (settings : Settings) : Prop :=
  ∃ assignments, Assigns read file assignments ∧
    ∀ name, settings.get? name =
      (Settings.lastValue? assignments name).or (environment.get? name)

theorem Assigns.unique {file : Option String} {first second : List (String × String)}
    (assigns : Assigns read file first) (also : Assigns read file second) : first = second := by
  cases assigns with
  | nothing => cases also; rfl
  | lines readable reads =>
    cases also with
    | lines again others =>
      obtain rfl := Except.ok.inj (readable.symm.trans again)
      rw [EnvFile.forall₂_reads_iff.1 reads, EnvFile.forall₂_reads_iff.1 others]

theorem Effective.blank {file : Option String} {assignments : List (String × String)}
    {name value : String} (effective : Effective read environment file settings)
    (assigns : Assigns read file assignments)
    (last : Settings.lastValue? assignments name = some value) (blank : Text.trim value = "") :
    ∀ shown, ¬settings.Holds name shown := by
  rintro shown ⟨raw, here, trimmed, visible⟩
  obtain ⟨_, others, same⟩ := effective
  obtain rfl := others.unique assigns
  have found : settings.get? name = some value := by rw [same, last, Option.some_or]
  obtain rfl := Option.some.inj (here.symm.trans found)
  exact visible (trimmed.symm.trans blank)

theorem settingsFor_file_eq_ok_iff {path : String} :
    settingsFor read environment (some path) = .ok settings ↔
      ∃ content, read path = .ok content ∧
        EnvFile.load environment content = (settings, none) := by
  rw [settingsFor, loadSettings]
  cases read path with
  | error cause => simp
  | ok content =>
    rcases loading : EnvFile.load environment content with ⟨loaded, failed⟩
    cases failed <;> simp [loading]

theorem settingsFor_eq_ok_iff {file : Option String} :
    settingsFor read environment file = .ok settings ↔
      Effective read environment file settings := by
  -- The values under all names determine settings, so these are the ones that loading leaves.
  simp only [Effective, ← Settings.eq_setAll_iff]
  cases file with
  | none =>
    constructor
    · intro same
      exact ⟨[], .nothing, (Except.ok.inj same).symm⟩
    · rintro ⟨_, ⟨⟩, rfl⟩
      rfl
  | some path =>
    simp only [settingsFor_file_eq_ok_iff, EnvFile.load_eq_ok_iff]
    constructor
    · rintro ⟨content, readable, readings, reads, wellFormed, same⟩
      exact ⟨_, .lines readable reads wellFormed, same⟩
    · rintro ⟨_, _ | ⟨readable, reads, wellFormed⟩, same⟩
      exact ⟨_, readable, _, reads, wellFormed, same⟩

/-- What a filter expression compiles to, or the empty filter where there is none. -/
inductive Filters : Option String → Document → Prop
  | everything : Filters none .empty
  | compiled {source : String} {condition : Document}
      (compiles : (Filter.compileText source).result = .ok condition) :
      Filters (some source) condition

def unfiltered (a : TableArguments) : Query :=
  { columns := if a.columns.isEmpty then none else some a.columns
    pagination := page? a, snapshot := a.snapshot }

theorem ofCalls_queryCalls (a : TableArguments) :
    Query.ofCalls (queryCalls a) =
      match a.filter with
      | none => pure (unfiltered a)
      | some source => do
        let condition ← (Filter.compileText source).mapError (Query.Failure.mk source)
        return { unfiltered a with filter := some condition } := by
  have columns (q : Query) : q.applyAll (if a.columns.isEmpty then [] else [.columns a.columns]) =
      pure { q with columns := if a.columns.isEmpty then q.columns else some a.columns } := by
    split <;> rfl
  have page (q : Query) :
      q.applyAll ((page? a).map fun page => .pagination page.start page.limit).toList =
        pure { q with pagination := (page? a).or q.pagination } := by
    cases page? a <;> rfl
  have snapshot (q : Query) : q.applyAll (a.snapshot.map .snapshot).toList =
      pure { q with snapshot := a.snapshot.or q.snapshot } := by
    cases a.snapshot <;> rfl
  -- Only the call for the filter can fail; the calls around it become field updates.
  simp only [Query.ofCalls, queryCalls, Query.applyAll_append, columns, page, snapshot,
    pure_bind, bind_assoc]
  cases a.filter with
  | none =>
    simp only [Option.map_none, Option.toList_none, Query.applyAll, pure_bind, Option.or_none]
    rfl
  | some source =>
    simp only [Option.map_some, Option.toList_some, Query.applyAll, Query.apply, bind_assoc,
      pure_bind, Option.or_none]
    rfl

theorem filters_of_ofCalls {q : Query}
    (asked : (Query.ofCalls (queryCalls a)).result = .ok q) :
    Filters a.filter (q.filter.getD .empty) ∧ q = { unfiltered a with filter := q.filter } := by
  rw [ofCalls_queryCalls] at asked
  cases source : a.filter with
  | none =>
    rw [source] at asked
    obtain rfl := Except.ok.inj asked
    exact ⟨.everything, rfl⟩
  | some source =>
    simp only [source, Noted.bind_eq_ok, Noted.mapError_eq_ok] at asked
    obtain ⟨condition, compiles, same⟩ := asked
    obtain rfl := Except.ok.inj same
    exact ⟨.compiled compiles, rfl⟩

theorem ofCalls_of_filters {condition : Document} (filters : Filters a.filter condition) :
    ∃ q, (Query.ofCalls (queryCalls a)).result = .ok q := by
  rw [ofCalls_queryCalls]
  cases source : a.filter with
  | none => exact ⟨_, rfl⟩
  | some source =>
    rw [source] at filters
    obtain _ | ⟨compiles⟩ := filters
    exact ⟨_, Noted.bind_eq_ok.2 ⟨condition, (Noted.mapError_eq_ok _ _ _).2 compiles, rfl⟩⟩

theorem create_builtIn (config : Config) :
    ∃ registry, Client.create config Capability.builtIn =
      .ok ⟨config.apiBase, config.snapshot, registry⟩ := by
  refine ⟨(Registry.empty.add .inventory).add .configurations, ?_⟩
  have other : (Registry.empty.add .inventory).get? Capability.configurations.name = none := by
    rw [Registry.get?_add, if_neg (by decide), Registry.get?_empty]
  simp [Client.create, Capability.builtIn, Registry.addAll, other, Except.map]

/-- The request of a client with a configuration for the arguments and a query. -/
def requestOf (config : Config) (a : TableArguments) (q : Query) : Request :=
  { url := config.apiBase ++ String.ofList (a.uri.toList.dropWhile (· = '/'))
    body := { snapshot := q.snapshot.getD config.snapshot, filters := q.filter.getD .empty
              columns := q.columns, pagination := q.pagination, sort := q.sort
              reports := q.reports } }

theorem tableRequest_eq_ok_iff {request : Request} :
    (tableRequest read environment a).result = .ok request ↔
      ∃ settings config q, Effective read environment a.envFile settings ∧
        Config.ofSettings settings = .ok config ∧
        (Query.ofCalls (queryCalls a)).result = .ok q ∧ request = requestOf config a q := by
  simp only [tableRequest, Noted.bind_eq_ok, Noted.lift_mapError, Noted.mapError_eq_ok,
    Noted.lift_result, settingsFor_eq_ok_iff]
  constructor
  · rintro ⟨settings, effective, config, configured, client, made, q, asked, sent, prepared,
      _, _, same⟩
    obtain ⟨registry, builtIn⟩ := create_builtIn config
    obtain rfl := Except.ok.inj (made.symm.trans builtIn)
    obtain rfl := Except.ok.inj prepared
    exact ⟨settings, config, q, effective, configured, asked, (Except.ok.inj same).symm⟩
  · rintro ⟨settings, config, q, effective, configured, asked, rfl⟩
    obtain ⟨registry, builtIn⟩ := create_builtIn config
    exact ⟨settings, effective, config, configured, _, builtIn, q, asked, _, rfl, (), rfl, rfl⟩

/-- What settings and arguments need for an output. -/
structure Admits (a : TableArguments) (settings : Settings) : Prop where
  address : ∃ address, settings.Holds "IPF_ADDR" address ∧ Config.BeginsWithScheme address
  authenticates : settings.Authenticates
  compiles : ∃ condition, Filters a.filter condition

/-- The snapshot that the command names, or else that of the settings, or else the last. -/
inductive Snapshot (settings : Settings) : Option String → String → Prop
  | named (id : String) : Snapshot settings (some id) id
  | held {id : String} (given : settings.Holds "IPF_SNAPSHOT" id) : Snapshot settings none id
  | last (absent : ∀ id, ¬settings.Holds "IPF_SNAPSHOT" id) : Snapshot settings none "$last"

/-- The request that settings and arguments ask for. -/
structure Answers (a : TableArguments) (settings : Settings) (request : Request) : Prop where
  url : ∀ address, settings.Holds "IPF_ADDR" address → request.url =
    (if "/".toList <:+ address.toList then address ++ "api/v1/" else address ++ "/api/v1/") ++
      String.ofList (a.uri.toList.dropWhile (· = '/'))
  snapshot : Snapshot settings a.snapshot request.body.snapshot
  filters : Filters a.filter request.body.filters
  columns : request.body.columns = if a.columns = [] then none else some a.columns
  pagination : ∀ page, request.body.pagination = some page ↔
    a.start = some page.start ∧ a.limit = some page.limit
  sort : request.body.sort = none
  reports : request.body.reports = none

theorem page?_eq_some_iff {page : Pagination} :
    page? a = some page ↔ a.start = some page.start ∧ a.limit = some page.limit := by
  obtain ⟨start, limit⟩ := page
  rw [page?]
  cases a.start <;> cases a.limit <;> simp

theorem snapshot_getD (settings : Settings) (named : Option String) :
    Snapshot settings named (named.getD ((settings.given? "IPF_SNAPSHOT").getD "$last")) := by
  cases named with
  | some id => exact .named id
  | none =>
    cases given : settings.given? "IPF_SNAPSHOT" with
    | some id => exact .held (Settings.given?_eq_some_iff.1 given)
    | none => exact .last (Settings.given?_eq_none_iff.1 given)

theorem answers_requestOf {config : Config} {q : Query}
    (configured : Config.ofSettings settings = .ok config)
    (asked : (Query.ofCalls (queryCalls a)).result = .ok q) :
    Answers a settings (requestOf config a q) := by
  obtain ⟨held, -, -, snapshot⟩ := Config.ofSettings_eq_ok_iff.1 configured
  obtain ⟨filters, same⟩ := filters_of_ofCalls asked
  rw [same]
  refine ⟨fun address also => ?_, ?_, filters, ?_, fun page => page?_eq_some_iff, rfl, rfl⟩
  · rw [requestOf, config.apiBase_eq_ite, held.unique also]
  · change Snapshot settings a.snapshot (a.snapshot.getD config.snapshot)
    rw [snapshot]
    exact snapshot_getD settings a.snapshot
  · simp [requestOf, unfiltered]

theorem tableRequest_sound {request : Request}
    (reached : (tableRequest read environment a).result = .ok request) :
    ∃ settings, Effective read environment a.envFile settings ∧ Admits a settings ∧
      Answers a settings request := by
  obtain ⟨settings, config, q, effective, configured, asked, rfl⟩ :=
    tableRequest_eq_ok_iff.1 reached
  obtain ⟨held, scheme, known, -⟩ := Config.ofSettings_eq_ok_iff.1 configured
  have authenticates := Settings.credentials?_isSome_iff.1 ⟨_, known⟩
  exact ⟨settings, effective,
    ⟨⟨config.address, held, scheme⟩, authenticates, ⟨_, (filters_of_ofCalls asked).1⟩⟩,
    answers_requestOf configured asked⟩

theorem tableRequest_complete (effective : Effective read environment a.envFile settings)
    (admits : Admits a settings) :
    ∃ request, (tableRequest read environment a).result = .ok request ∧
      Answers a settings request := by
  obtain ⟨⟨address, held, scheme⟩, authenticates, condition, filters⟩ := admits
  obtain ⟨credentials, known⟩ := Settings.credentials?_isSome_iff.2 authenticates
  obtain ⟨q, asked⟩ := ofCalls_of_filters filters
  let config : Config := ⟨address, credentials,
    (settings.given? Settings.snapshotName).getD Config.defaultSnapshot⟩
  have configured : Config.ofSettings settings = .ok config :=
    Config.ofSettings_eq_ok_iff.2 ⟨held, scheme, known, rfl⟩
  exact ⟨_, tableRequest_eq_ok_iff.2 ⟨settings, _, q, effective, configured, asked, rfl⟩,
    answers_requestOf configured asked⟩

def hostLines : String := "IPF_ADDR = 'https://host'\nexport IPF_SNAPSHOT=\n"

def hostFiles : Directory := ⟨[("env", hostLines.toUTF8)]⟩

def hostEnvironment : Settings :=
  Settings.ofList [("IPF_TOKEN", " secret "), ("IPF_SNAPSHOT", "nightly")]

def hostRows : TableArguments :=
  { uri := "/tables/x", filter := some "a = 1", start := some 0, limit := some 5
    envFile := some "env" }

end Shell

end InventoryQuery
