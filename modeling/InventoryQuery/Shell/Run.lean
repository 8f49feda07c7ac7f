import InventoryQuery.Filter.TreeJson
import InventoryQuery.Request.Client
import InventoryQuery.Shell.Arguments
import InventoryQuery.Shell.Directory
import InventoryQuery.Shell.EnvFile

/-! Running a command. A command computes its whole output before it prints or
writes any of it, so a failure leaves the output empty and all files as they
were. -/
namespace InventoryQuery

inductive ShellError
  | output (cause : FileError)
  | filter (source : String) (cause : Filter.FilterError)
  | client (cause : ClientError)
  | readSettings (path : String) (cause : FileError)
  | loadSettings (cause : EnvFile.LoadError)

namespace ShellError

def configurationMessage (reason : String) : String := "Configuration error: " ++ reason

def message : ShellError → String
  | output cause => "Failed to write output: " ++ cause.message
  | filter source cause => cause.report source
  | client cause => cause.message
  | readSettings path cause =>
    configurationMessage ("Failed to read env file " ++ path ++ ": " ++ cause.message)
  | loadSettings cause => configurationMessage cause.message

end ShellError

namespace Shell

def compileFilter (source : String) (pretty : Bool) : Noted ShellError String := do
  let condition ← (Filter.compileText source).mapError (.filter source)
  return condition.value.render pretty

/-- The canonical form of a filter expression that compiles, or its tree. -/
def checkFilter (source : String) (json : Bool) : Noted ShellError String := do
  let tree ← (Noted.lift (Filter.parse source)).mapError (.filter source)
  let _ ← tree.compile.mapError (.filter source)
  Noted.note (.comparisonCount tree.comparisonCount)
  return if json then tree.toJson.pretty else tree.canonicalText

abbrev ReadFile := String → Except FileError String

/-- Loads a file of settings. What it sets before an error stays set. -/
def loadSettings (read : ReadFile) (s : Settings) (path : String) :
    Settings × Option ShellError :=
  match read path with
  | .error cause => (s, some (.readSettings path cause))
  | .ok content =>
    let (loaded, failed) := EnvFile.load s content
    (loaded, failed.map .loadSettings)

/-- The settings of a run: those of the environment, under those of a file. -/
def settingsFor (read : ReadFile) (environment : Settings) :
    Option String → Except ShellError Settings
  | none => .ok environment
  | some path =>
    match loadSettings read environment path with
    | (loaded, none) => .ok loaded
    | (_, some cause) => .error cause

/-- The rows that a table command asks for, once it has both of their bounds. -/
def page? (a : TableArguments) : Option Pagination :=
  match a.start, a.limit with
  | some start, some limit => some ⟨start, limit⟩
  | _, _ => none

def queryCalls (a : TableArguments) : List Query.Call :=
  (if a.columns.isEmpty then [] else [.columns a.columns]) ++
    (a.filter.map .filterText).toList ++
    ((page? a).map fun page => .pagination page.start page.limit).toList ++
    (a.snapshot.map .snapshot).toList

def tableRequest (read : ReadFile) (environment : Settings) (a : TableArguments) :
    Noted ShellError Request := do
  let settings ← Noted.lift (settingsFor read environment a.envFile)
  let config ← Noted.lift
    ((Config.ofSettings settings).mapError fun cause => .client (.config cause))
  let client ← Noted.lift ((Client.create config Capability.builtIn).mapError .client)
  let query ← (Query.ofCalls (queryCalls a)).mapError fun failure =>
    .filter failure.source failure.cause
  let request ← (client.prepareUri a.uri query).mapError .client
  Noted.note (.preparedRequest request.url)
  return request

/-- The text that a command prints, or saves where it names a file. -/
def output (read : ReadFile) (environment : Settings) : Command → Noted ShellError String
  | .filter source pretty => compileFilter source pretty
  | .check source json => checkFilter source json
  | .table a => do
    let request ← tableRequest read environment a
    return request.toJson.pretty

def savePath? : Command → Option String
  | .table a => a.save
  | _ => none

/-- What a run leaves behind. -/
structure Outcome where
  printed : String
  directory : Directory
  events : List Event
  failure : Option ShellError

/-- Printed text ends its line; saved text is written as it is. -/
def emit (d : Directory) (events : List Event) (text : String) : Option String → Outcome
  | none => ⟨text ++ "\n", d, events, none⟩
  | some path =>
    match d.writeText path text with
    | .ok written => ⟨"", written, events, none⟩
    | .error cause => ⟨"", d, events, some (.output cause)⟩

def run (d : Directory) (environment : Settings) (command : Command) : Outcome :=
  let computed := output d.readText environment command
  match computed.result with
  | .error cause => ⟨"", d, computed.events, some cause⟩
  | .ok text => emit d computed.events text (savePath? command)

end Shell

end InventoryQuery
