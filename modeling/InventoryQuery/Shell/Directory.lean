/-! A working directory with files and no folders. A path is walked step by step from
it, and reading or writing fails for the reasons a file system gives. A step enters a
folder, so no step leads on from a file or from a name that is free. -/
namespace InventoryQuery

inductive FileError
  | notFound
  | notFolder
  | isFolder
  | nameTooLong
  | zeroByte
  | notText
  | denied
  | other (reason : String)
deriving DecidableEq, Repr

def FileError.message : FileError → String
  | notFound => "No such file or directory (os error 2)"
  | notFolder => "Not a directory (os error 20)"
  | isFolder => "Is a directory (os error 21)"
  | nameTooLong => "File name too long (os error 36)"
  | zeroByte => "file name contained an unexpected NUL byte"
  | notText => "stream did not contain valid UTF-8"
  | denied => "Permission denied (os error 13)"
  | other reason => reason

/-- The folders that a path can reach. Those outside the working directory are not
told apart, and nothing is in them that a run has not written. -/
inductive Folder
  | working
  | outside
deriving DecidableEq, Repr

/-- The name under which a directory keeps a file of a folder. A file of the working
directory has no slash in its name. -/
def Folder.key (name : String) : Folder → String
  | working => name
  | outside => "../" ++ name

structure Directory where
  files : List (String × ByteArray)

namespace Directory

def empty : Directory := ⟨[]⟩

def bytes? (d : Directory) (name : String) : Option ByteArray := d.files.lookup name

def put (d : Directory) (name : String) (content : ByteArray) : Directory :=
  ⟨(name, content) :: d.files.filter (·.1 != name)⟩

def longestName : Nat := 255

def longestPath : Nat := 4095

/-- Where a path leads. A file and a free name carry the key that they have or would
have; a name can be too long for any folder to have it. -/
inductive Place
  | folder (f : Folder)
  | file (key : String) (content : ByteArray)
  | free (key : String)
  | unnamable

def lookUp (d : Directory) (f : Folder) (step : String) : Place :=
  if step = "." then .folder f
  else if step = ".." then .folder .outside
  else if longestName < step.utf8ByteSize then .unnamable
  else
    match d.bytes? (f.key step) with
    | some content => .file (f.key step) content
    | none => .free (f.key step)

/-- Takes one more step from a place, which has to be a folder. -/
def enter (d : Directory) (step : String) : Place → Except FileError Place
  | .folder f => .ok (d.lookUp f step)
  | .file .. => .error .notFolder
  | .free _ => .error .notFound
  | .unnamable => .error .nameTooLong

def walk (d : Directory) (start : Place) : List String → Except FileError Place
  | [] => .ok start
  | step :: rest =>
    match d.enter step start with
    | .error cause => .error cause
    | .ok place => walk d place rest

/-- The steps of a path. Slashes in a row divide it only once. -/
def steps (path : String) : List String := (path.splitOn "/").filter (· != "")

/-- A path that starts with a slash starts outside. -/
def start (path : String) : Place :=
  .folder (if path.startsWith "/" then .outside else .working)

def resolve (d : Directory) (path : String) : Except FileError Place :=
  if path.isEmpty then .error .notFound
  else if path.toList.any (·.toNat = 0) then .error .zeroByte
  else if longestPath < path.utf8ByteSize then .error .nameTooLong
  else d.walk (start path) (steps path)

/-- Only a folder may be named with a slash after it. -/
def asksForFolder (path : String) : Bool := path.endsWith "/"

def readBytes (d : Directory) (path : String) : Except FileError ByteArray :=
  match d.resolve path with
  | .error cause => .error cause
  | .ok (.folder _) => .error .isFolder
  | .ok (.free _) => .error .notFound
  | .ok .unnamable => .error .nameTooLong
  | .ok (.file _ content) =>
    if asksForFolder path then .error .notFolder else .ok content

def readText (d : Directory) (path : String) : Except FileError String :=
  match d.readBytes path with
  | .error cause => .error cause
  | .ok content =>
    match String.fromUTF8? content with
    | some text => .ok text
    | none => .error .notText

/-- Creates a file or replaces its content. A slash at the end is refused before the
last name is looked at. -/
def writeBytes (d : Directory) (path : String) (content : ByteArray) :
    Except FileError Directory :=
  match d.resolve path with
  | .error cause => .error cause
  | .ok place =>
    if asksForFolder path then .error .isFolder
    else
      match place with
      | .folder _ => .error .isFolder
      | .unnamable => .error .nameTooLong
      | .free key | .file key _ => .ok (d.put key content)

def writeText (d : Directory) (path text : String) : Except FileError Directory :=
  d.writeBytes path text.toUTF8

end Directory

end InventoryQuery
