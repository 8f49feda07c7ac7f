import InventoryQuery.Shell.Run

/-! The program: it reads its arguments, the environment and a file of settings, runs
one command, and writes what the command leaves behind. -/

open InventoryQuery

namespace InventoryQuery.Main

def fileError : IO.Error → FileError
  | .noFileOrDirectory .. | .noSuchThing .. => .notFound
  | .permissionDenied .. => .denied
  | .inappropriateType _ 21 _ => .isFolder
  | .inappropriateType .. => .notFolder
  | error => .other (toString error)

def environment : IO Settings := do
  let names := [Settings.addressName, Settings.usernameName, Settings.passwordName,
    Settings.tokenName, Settings.snapshotName]
  names.foldlM
    (fun s name => do
      match ← IO.getEnv name with
      | some value => return s.set name value
      | none => return s)
    Settings.empty

def readFile (path : String) : IO (Except FileError String) := do
  try
    let content ← IO.FS.readBinFile path
    match String.fromUTF8? content with
    | some text => return .ok text
    | none => return .error .notText
  catch error => return .error (fileError error)

def writeFile (path text : String) : IO (Except FileError Unit) := do
  try
    IO.FS.writeFile path text
    return .ok ()
  catch error => return .error (fileError error)

def envPath? : Command → Option String
  | .table a => a.envFile
  | _ => none

def levelName : Level → String
  | .debug => "DEBUG"
  | .info => "INFO"

def report (cause : ShellError) : IO UInt32 := do
  IO.eprintln cause.message
  return 1

def runCommand (i : Invocation) : IO UInt32 := do
  let settings ← environment
  let content ← match envPath? i.command with
    | some path => readFile path
    | none => pure (.error .notFound)
  let computed := Shell.output (fun _ => content) settings i.command
  if i.verbose then
    for event in computed.events do
      IO.eprintln (levelName event.level ++ " " ++ event.message)
  match computed.result with
  | .error cause => report cause
  | .ok text =>
    match Shell.savePath? i.command with
    | none =>
      IO.println text
      return 0
    | some path =>
      match ← writeFile path text with
      | .ok () => return 0
      | .error cause => report (.output cause)

def usageText : String :=
  "Usage: ipf [-v] filter EXPR [--pretty]\n" ++
  "       ipf [-v] check EXPR [--json]\n" ++
  "       ipf [-v] table --table URI [--columns LIST] [--filter EXPR]\n" ++
  "           [--start N --limit N] [--snapshot ID] [--env-file FILE] [--save FILE]\n"

def stop (usage : Usage) : IO UInt32 := do
  match usage with
  | .version => IO.print Usage.versionText
  | .help => IO.print usageText
  | _ => IO.eprint usageText
  return usage.exitCode.toUInt32

end InventoryQuery.Main

def main (arguments : List String) : IO UInt32 :=
  match Invocation.ofArguments arguments with
  | .ok invocation => InventoryQuery.Main.runCommand invocation
  | .error usage => InventoryQuery.Main.stop usage
