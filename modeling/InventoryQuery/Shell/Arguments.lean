import InventoryQuery.Decimal.Numeral

/-! Command lines. Options have a long name and some a short one; an option with a
value takes it after an equals sign or from the next argument. A value is looked
at only when the next option or the end of the line completes it. -/
namespace InventoryQuery

inductive Usage
  | help
  | version
  | helpOnNothing
  | missingSubcommand
  | missingArgument
  | unknownArgument
  | invalidSubcommand
  | repeated
  | missingValue
  | invalidValue
  | unwantedValue
deriving DecidableEq, Repr

namespace Usage

def versionText : String := "ipf 0.1.0\n"

/-- Asking for help or the version is no failure. -/
def exitCode : Usage → Nat
  | help | version => 0
  | _ => 2

end Usage

inductive Flag
  | help
  | version
  | verbose
  | pretty
  | json
  | table
  | columns
  | filter
  | start
  | limit
  | snapshot
  | envFile
  | save
deriving DecidableEq, Repr

namespace Flag

def longName : Flag → String
  | help => "help"
  | version => "version"
  | verbose => "verbose"
  | pretty => "pretty"
  | json => "json"
  | table => "table"
  | columns => "columns"
  | filter => "filter"
  | start => "start"
  | limit => "limit"
  | snapshot => "snapshot"
  | envFile => "env-file"
  | save => "save"

def shortName? : Flag → Option Char
  | help => some 'h'
  | version => some 'V'
  | verbose => some 'v'
  | columns => some 'c'
  | _ => none

def takesValue : Flag → Bool
  | help | version | verbose | pretty | json => false
  | _ => true

def mayRepeat (f : Flag) : Bool := f = columns

def isCount (f : Flag) : Bool := f = start || f = limit

end Flag

inductive Scope
  | root
  | filter
  | check
  | table
deriving DecidableEq, Repr

namespace Scope

def flags : Scope → List Flag
  | root => [.verbose, .help, .version]
  | filter => [.pretty, .verbose, .help]
  | check => [.json, .verbose, .help]
  | table =>
    [.table, .columns, .filter, .start, .limit, .snapshot, .envFile, .save, .verbose, .help]

def positionals : Scope → Nat
  | root | table => 0
  | filter | check => 1

def ofCommand? (name : String) : Option Scope :=
  if name = "filter" then some filter
  else if name = "check" then some check
  else if name = "table" then some table
  else none

def helpCommand : String := "help"

def isCommand (name : String) : Bool := (ofCommand? name).isSome || name = helpCommand

def byLong? (s : Scope) (name : String) : Option Flag := s.flags.find? (·.longName = name)

def byShort? (s : Scope) (c : Char) : Option Flag := s.flags.find? (·.shortName? = some c)

end Scope

def greatestCount : Nat := 18446744073709551615

/-- A count in decimal digits with an optional plus. -/
def countOf? (text : String) : Option Nat :=
  let digits := match text.toList with
    | '+' :: rest => rest
    | cs => cs
  let value := Decimal.valueOfDigits digits
  if Decimal.isDigits digits && value ≤ greatestCount then some value else none

/-- What was read of a scope so far. An option stays `pending` until its value is
looked at. -/
structure Given where
  options : List (Flag × String) := []
  positionals : List String := []
  pending : Option (Flag × Option String) := none

namespace Given

def has (g : Given) (f : Flag) : Bool := g.options.any (·.1 = f)

def values (g : Given) (f : Flag) : List String :=
  (g.options.filter (·.1 = f)).map Prod.snd

def value? (g : Given) (f : Flag) : Option String := (g.values f).head?

def add (g : Given) (f : Flag) (value : String) : Except Usage Given :=
  if g.has f && !f.mayRepeat then .error .repeated
  else if f.isCount && (countOf? value).isNone then .error .invalidValue
  else .ok { g with options := g.options ++ [(f, value)] }

def settle (g : Given) : Except Usage Given :=
  match g.pending with
  | none => .ok g
  | some (_, none) => .error .missingValue
  | some (f, some value) => { g with pending := none }.add f value

/-- An option without a value takes effect at once. -/
def switch (g : Given) (f : Flag) : Except Usage Given := do
  let settled ← g.settle
  match f with
  | .help => .error .help
  | .version => .error .version
  | _ => settled.add f ""

/-- An option with a value, which the next argument holds if there is none here. -/
def valued (g : Given) (f : Flag) (value : Option String) : Except Usage Given := do
  let settled ← g.settle
  match value with
  | some text => settled.add f text
  | none => return { settled with pending := some (f, none) }

end Given

def splitLong (cs : List Char) : String × Option String :=
  let name := String.ofList (cs.takeWhile (· != '='))
  match cs.dropWhile (· != '=') with
  | [] => (name, none)
  | _ :: value => (name, some (String.ofList value))

def readLong (s : Scope) (g : Given) (cs : List Char) : Except Usage Given :=
  let (name, value) := splitLong cs
  match s.byLong? name with
  | none => .error .unknownArgument
  | some f =>
    if f.takesValue then g.valued f value
    else if value.isSome then .error .unwantedValue
    else g.switch f

/-- A cluster of short options, of which the first that takes a value takes what
follows it. -/
def readShort (s : Scope) (g : Given) : List Char → Except Usage Given
  | [] => .ok g
  | c :: rest =>
    match s.byShort? c with
    | none => .error .unknownArgument
    | some f =>
      if f.takesValue then
        match rest with
        | [] => g.valued f none
        | '=' :: value => g.valued f (some (String.ofList value))
        | value => g.valued f (some (String.ofList value))
      else
        match g.switch f with
        | .ok next => readShort s next rest
        | .error stop => .error stop

def readPositional (s : Scope) (g : Given) (argument : String) (afterDashes : Bool) :
    Except Usage Given :=
  if g.positionals.length < s.positionals then do
    let settled ← g.settle
    return { settled with positionals := settled.positionals ++ [argument] }
  else if s = .root ∧ ¬(afterDashes ∧ Scope.isCommand argument) then .error .invalidSubcommand
  else .error .unknownArgument

/-- One argument before any double dash. -/
def readArgument (s : Scope) (g : Given) (argument : String) : Except Usage Given :=
  match argument.toList with
  | '-' :: '-' :: name => readLong s g name
  | '-' :: c :: rest => readShort s g (c :: rest)
  | _ =>
    match g.pending with
    | some (f, none) => .ok { g with pending := some (f, some argument) }
    | _ => readPositional s g argument false

/-- Reads the arguments of a scope, all of them or up to the name of a command. -/
def readScope (s : Scope) (g : Given) (afterDashes : Bool) :
    List String → Except Usage (Given × Option (String × List String))
  | [] => .ok (g, none)
  | argument :: rest =>
    if afterDashes then do
      readScope s (← readPositional s g argument true) true rest
    else if s = .root ∧ Scope.isCommand argument then .ok (g, some (argument, rest))
    else if argument = "--" then readScope s g true rest
    else do
      readScope s (← readArgument s g argument) false rest

structure TableArguments where
  uri : String
  columns : List String := []
  filter : Option String := none
  start : Option Nat := none
  limit : Option Nat := none
  snapshot : Option String := none
  envFile : Option String := none
  save : Option String := none
deriving DecidableEq

inductive Command
  | filter (source : String) (pretty : Bool)
  | check (source : String) (json : Bool)
  | table (arguments : TableArguments)
deriving DecidableEq

structure Invocation where
  verbose : Bool
  command : Command
deriving DecidableEq

namespace Command

/-- The start and the limit of the rows, which are given together or not at all. -/
def rowsOf? (g : Given) : Except Usage (Option Nat × Option Nat) :=
  let start := (g.value? .start).bind countOf?
  let limit := (g.value? .limit).bind countOf?
  if start.isSome = limit.isSome then .ok (start, limit) else .error .missingArgument

def ofGiven (s : Scope) (g : Given) : Except Usage Command :=
  match s with
  | .root => .error .missingSubcommand
  | .filter =>
    match g.positionals with
    | source :: _ => .ok (.filter source (g.has .pretty))
    | [] => .error .missingArgument
  | .check =>
    match g.positionals with
    | source :: _ => .ok (.check source (g.has .json))
    | [] => .error .missingArgument
  | .table =>
    match g.value? .table with
    | none => .error .missingArgument
    | some uri => do
      let (start, limit) ← rowsOf? g
      return .table
        { uri := uri, columns := (g.values .columns).flatMap (·.splitOn ",")
          filter := g.value? .filter, start := start, limit := limit
          snapshot := g.value? .snapshot, envFile := g.value? .envFile
          save := g.value? .save }

end Command

def helpFor : List String → Usage
  | [] => .help
  | [name] => if Scope.isCommand name then .help else .invalidSubcommand
  | _ => .invalidSubcommand

namespace Invocation

def ofArguments (arguments : List String) : Except Usage Invocation := do
  let (root, found) ← readScope .root {} false arguments
  match found with
  | none =>
    let settled ← root.settle
    if settled.options.isEmpty then .error .helpOnNothing else .error .missingSubcommand
  | some (name, rest) =>
    match Scope.ofCommand? name with
    | none => .error (helpFor rest)
    | some scope =>
      let (given, _) ← readScope scope {} false rest
      let settled ← given.settle
      let command ← Command.ofGiven scope settled
      return ⟨root.has .verbose || settled.has .verbose, command⟩

end Invocation

end InventoryQuery
