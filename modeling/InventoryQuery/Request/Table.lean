import InventoryQuery.Text.Lowercase

/-! Tables of a server and what a request for one asks by default. A capability is a
named family of tables. -/
namespace InventoryQuery

inductive SortOrder
  | ascending
  | descending
deriving DecidableEq, Repr

namespace SortOrder

def name : SortOrder → String
  | .ascending => "asc"
  | .descending => "desc"

/-- Reads an order in any case; the error holds the text in lower case. -/
def ofText (text : String) : Except String SortOrder :=
  let lowered := Text.lowercase text
  if lowered = "asc" then .ok .ascending
  else if lowered = "desc" then .ok .descending
  else .error lowered

def errorMessage (lowered : String) : String := "Unknown sort order: " ++ lowered

end SortOrder

structure SortKey where
  column : String
  order : SortOrder
deriving DecidableEq

/-- One table: its path below the API, the columns asked for unless the caller
chooses some, a filter expression that always applies, and defaults. -/
structure TableSpec where
  name : String
  uri : String
  columns : List String := []
  preset : Option String := none
  sort : Option SortKey := none
  reports : Option String := none
deriving DecidableEq

structure Capability where
  name : String
  tables : List TableSpec
deriving DecidableEq

def Capability.table? (c : Capability) (name : String) : Option TableSpec :=
  c.tables.find? (·.name = name)

namespace Capability

def partColumns : List String :=
  ["deviceSn", "hostname", "siteName", "name", "dscr", "pid", "sn", "vid", "vendor",
    "platform", "model"]

def devices : TableSpec :=
  { name := "devices", uri := "tables/inventory/devices"
    columns := ["sn", "snHw", "hostname", "siteName", "loginIp", "loginType", "uptime",
      "vendor", "platform", "family", "version", "model"] }

def deviceParts : TableSpec :=
  { name := "device_parts", uri := "tables/inventory/pn", columns := partColumns }

def optics : TableSpec :=
  { name := "optics", uri := "tables/inventory/pn", columns := partColumns
    preset := some "pid color = green", reports := some "/inventory/part-numbers" }

def interfaces : TableSpec :=
  { name := "interfaces", uri := "tables/inventory/interfaces"
    columns := ["hostname", "intName", "siteName", "dscr"] }

def managedAddresses : TableSpec :=
  { name := "managed_ipaddrs", uri := "tables/addressing/managed-devs"
    columns := ["sn", "snHw", "hostname", "intName", "siteName", "mac", "ip", "net"] }

/-- References to saved configurations, the newest change first. -/
def configurationReferences : TableSpec :=
  { name := "config_refs", uri := "tables/management/configuration"
    columns := ["_id", "sn", "hostname", "lastChange", "lastCheck", "status", "hash"]
    sort := some ⟨"lastChange", .descending⟩
    reports := some "/management/configuration/first" }

def inventory : Capability :=
  ⟨"inventory", [devices, deviceParts, optics, interfaces, managedAddresses]⟩

def configurations : Capability := ⟨"configs", [configurationReferences]⟩

def builtIn : List Capability := [inventory, configurations]

end Capability

end InventoryQuery
