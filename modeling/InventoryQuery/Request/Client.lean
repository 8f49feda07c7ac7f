import InventoryQuery.Request.Config
import InventoryQuery.Request.Query

/-! Clients and the requests they prepare. A client holds the address that requests
begin with, a snapshot, and its capabilities by name; a request is an address
and a body. A named table adds its defaults to the query, and its preset filter
is merged over the caller's. -/
namespace InventoryQuery

inductive ClientError
  | config (cause : ConfigError)
  | filter (cause : Filter.FilterError)
  | duplicateCapability (name : String)
  | unknownCapability (name : String)
  | unknownTable (capability table : String)
  | presetFilter (table : String) (cause : Filter.FilterError)

def ClientError.message : ClientError → String
  | config cause => "Configuration error: " ++ cause.message
  | filter cause => "Invalid filter expression: " ++ cause.message
  | duplicateCapability name => "Capability '" ++ name ++ "' registered more than once"
  | unknownCapability name => "Unknown capability: " ++ name
  | unknownTable capability table =>
    "Capability '" ++ capability ++ "' has no table named '" ++ table ++ "'"
  | presetFilter table cause =>
    "Preset filter for table '" ++ table ++ "' is invalid: " ++ cause.message

structure Body where
  snapshot : String
  filters : Document
  columns : Option (List String)
  pagination : Option Pagination
  sort : Option SortKey
  reports : Option String

structure Request where
  url : String
  body : Body

namespace Body

def member {α : Type} (key : String) (toJson : α → Json) : Option α → List (String × Json)
  | some value => [(key, toJson value)]
  | none => []

def paginationJson (p : Pagination) : Json :=
  .object [("start", Json.ofNat p.start), ("limit", Json.ofNat p.limit)]

def sortJson (s : SortKey) : Json :=
  .object [("column", .string s.column), ("order", .string s.order.name)]

/-- Fields that are not set are left out. -/
def toJson (b : Body) : Json :=
  .object ([("snapshot", .string b.snapshot), ("filters", b.filters.value)] ++
    member "columns" Json.strings b.columns ++ member "pagination" paginationJson b.pagination ++
    member "sort" sortJson b.sort ++ member "reports" .string b.reports)

end Body

def Request.toJson (r : Request) : Json :=
  .object [("url", .string r.url), ("body", r.body.toJson)]

/-- Capabilities by name, in the order of their names. -/
structure Registry where
  entries : List (String × Capability)
  ascending : Association.Ascending entries

namespace Registry

def empty : Registry := ⟨[], List.Pairwise.nil⟩

def get? (r : Registry) (name : String) : Option Capability := Association.get? name r.entries

def names (r : Registry) : List String := r.entries.map Prod.fst

def add (r : Registry) (c : Capability) : Registry :=
  ⟨Association.insert c.name c r.entries, Association.ascending_insert r.ascending⟩

/-- Adds capabilities until one has a name that is already taken. -/
def addAll (r : Registry) : List Capability → Except ClientError Registry
  | [] => .ok r
  | c :: rest =>
    if (r.get? c.name).isSome then .error (.duplicateCapability c.name)
    else (r.add c).addAll rest

@[simp] theorem get?_empty (name : String) : empty.get? name = none := rfl

theorem get?_add (r : Registry) (c : Capability) (name : String) :
    (r.add c).get? name = if c.name = name then some c else r.get? name :=
  Association.get?_insert c.name c r.entries name

end Registry

structure Client where
  apiBase : String
  snapshot : String
  registry : Registry

namespace Client

/-- A client for a configuration. The note that it is ready, which lists its capabilities
in no fixed order, is left out; all other events of a client are kept. -/
def create (config : Config) (providers : List Capability) : Except ClientError Client :=
  (Registry.empty.addAll providers).map fun registry =>
    ⟨config.apiBase, config.snapshot, registry⟩

def url (client : Client) (uri : String) : String :=
  client.apiBase ++ String.ofList (uri.toList.dropWhile (· = '/'))

def body (client : Client) (q : Query) : Body :=
  { snapshot := q.snapshot.getD client.snapshot, filters := q.filter.getD .empty
    columns := q.columns, pagination := q.pagination, sort := q.sort, reports := q.reports }

/-- A request for an address below the API, where `table` names it in events. -/
def request (client : Client) (table : Option String) (uri : String) (q : Query) :
    Noted ClientError Request := do
  let body := client.body q
  Noted.note (.preparedBody table body.filters)
  return ⟨client.url uri, body⟩

/-- A request for an address of the caller's own, without defaults. -/
def prepareUri (client : Client) (uri : String) (q : Query) : Noted ClientError Request :=
  client.request none uri q

def withPreset (spec : TableSpec) (q : Query) : Noted ClientError Query :=
  match spec.preset with
  | none => pure q
  | some source => do
    let preset ← (Filter.compileText source).mapError (.presetFilter spec.name)
    Noted.note (.mergingPreset spec.name preset)
    return { q with filter := some ((q.filter.getD .empty).merge preset) }

def withDefaults (spec : TableSpec) (q : Query) : Query :=
  { q with
    columns := q.columns.or (if spec.columns.isEmpty then none else some spec.columns)
    sort := q.sort.or spec.sort
    reports := q.reports.or spec.reports }

def prepareTable (client : Client) (spec : TableSpec) (q : Query) :
    Noted ClientError Request := do
  let preset ← withPreset spec q
  client.request (some spec.name) spec.uri (withDefaults spec preset)

def prepare (client : Client) (capability table : String) (q : Query) :
    Noted ClientError Request :=
  match client.registry.get? capability with
  | none => .fail (.unknownCapability capability)
  | some c =>
    match c.table? table with
    | none => .fail (.unknownTable capability table)
    | some spec => client.prepareTable spec q

end Client

end InventoryQuery
