import InventoryQuery.Request.Settings
import InventoryQuery.Text.Display

/-! What a client must know about its server: the address, the credentials, and the
snapshot that requests use unless they name another. Secrets never show in the
display of a configuration. -/
namespace InventoryQuery

inductive Credentials
  | token (secret : String)
  | login (username password : String)
deriving DecidableEq

inductive ConfigError
  | missingAddress
  | missingCredentials
  | invalidAddress (address : String)
deriving DecidableEq, Repr

structure Config where
  address : String
  credentials : Credentials
  snapshot : String
deriving DecidableEq

namespace Settings

def addressName : String := "IPF_ADDR"

def usernameName : String := "IPF_USERNAME"

def passwordName : String := "IPF_PASSWORD"

def tokenName : String := "IPF_TOKEN"

def snapshotName : String := "IPF_SNAPSHOT"

/-- A token wins over a login, which needs both of its parts. -/
def credentials? (s : Settings) : Option Credentials :=
  match s.given? tokenName, s.given? usernameName, s.given? passwordName with
  | some token, _, _ => some (.token token)
  | none, some username, some password => some (.login username password)
  | none, _, _ => none

end Settings

namespace ConfigError

def message : ConfigError → String
  | missingAddress => "Missing required setting " ++ Settings.addressName
  | missingCredentials =>
    "Missing credentials: set " ++ Settings.tokenName ++ " or both " ++
      Settings.usernameName ++ " and " ++ Settings.passwordName
  | invalidAddress address =>
    "Invalid server address '" ++ address ++ "': expected an http:// or https:// URL"

end ConfigError

namespace Config

def defaultSnapshot : String := "$last"

def apiPath : String := "api/v1/"

def schemes : List String := ["http://", "https://"]

def hasScheme (address : String) : Bool :=
  schemes.any fun scheme => scheme.toList.isPrefixOf address.toList

def create (address : String) (credentials : Credentials) : Except ConfigError Config :=
  let trimmed := Text.trim address
  if hasScheme trimmed then .ok ⟨trimmed, credentials, defaultSnapshot⟩
  else .error (.invalidAddress trimmed)

/-- An absent address is found before absent credentials, and both before an
address without a scheme. -/
def ofSettings (s : Settings) : Except ConfigError Config :=
  match s.given? Settings.addressName with
  | none => .error .missingAddress
  | some address =>
    match s.credentials? with
    | none => .error .missingCredentials
    | some credentials =>
      (create address credentials).map fun config =>
        { config with snapshot := (s.given? Settings.snapshotName).getD config.snapshot }

def withSnapshot (config : Config) (snapshot : String) : Config :=
  { config with snapshot := snapshot }

def apiBase (config : Config) : String :=
  let slash := if config.address.toList.getLast? = some '/' then "" else "/"
  config.address ++ slash ++ apiPath

def redacted : String := Text.display "<redacted>"

def displayCredentials : Credentials → String
  | .token _ => "Token(" ++ redacted ++ ")"
  | .login username _ =>
    "Login \x7b username: " ++ Text.display username ++ ", password: " ++ redacted ++ " \x7d"

def display (config : Config) : String :=
  "ClientConfig \x7b base_url: " ++ Text.display config.address ++ ", credentials: " ++
    displayCredentials config.credentials ++ ", snapshot: " ++ Text.display config.snapshot ++
    " \x7d"

end Config

end InventoryQuery
