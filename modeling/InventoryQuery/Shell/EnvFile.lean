import InventoryQuery.Request.Settings
import InventoryQuery.Text.Lines

/-! Files of settings, one `NAME=VALUE` a line. Blank lines and lines that begin with
a hash say nothing; the word `export` may stand in front of a name, and a value
may be quoted. Loading takes the lines in order and stops at the first that is
no assignment; what the lines before it set stays. -/
namespace InventoryQuery.EnvFile

inductive LoadError
  | malformedLine (number : Nat)
  | emptyName (number : Nat)
deriving DecidableEq, Repr

def LoadError.message : LoadError → String
  | malformedLine number =>
    "Invalid env file: malformed line " ++ toString number ++ " (expected KEY=VALUE)"
  | emptyName number => "Invalid env file: empty key at line " ++ toString number

inductive Line
  | nothing
  | assignment (name value : List Char)
  | malformed
  | emptyName
deriving DecidableEq, Repr

def exportWord : List Char := ['e', 'x', 'p', 'o', 'r', 't', ' ']

def dropExport (cs : List Char) : List Char :=
  if exportWord.isPrefixOf cs then cs.drop exportWord.length else cs

def unquoteBy? (quote : Char) (cs : List Char) : Option (List Char) :=
  if 2 ≤ cs.length ∧ cs.head? = some quote ∧ cs.getLast? = some quote then
    some cs.tail.dropLast
  else none

/-- One pair of double quotes is removed, or else one pair of single quotes. -/
def unquote (cs : List Char) : List Char :=
  ((unquoteBy? '"' cs).or (unquoteBy? '\'' cs)).getD cs

def splitAssignment? (cs : List Char) : Option (List Char × List Char) :=
  match cs.dropWhile (· != '=') with
  | [] => none
  | _ :: after => some (cs.takeWhile (· != '='), after)

def Line.ofText (cs : List Char) : Line :=
  match Text.trimmed cs with
  | [] => .nothing
  | '#' :: _ => .nothing
  | content =>
    match splitAssignment? (dropExport content) with
    | none => .malformed
    | some (name, value) =>
      if Text.trimmed name = [] then .emptyName
      else .assignment (Text.trimmed name) (unquote (Text.trimmed value))

/-- Loads lines, the first of which has the given number. -/
def loadLines (s : Settings) (number : Nat) : List Line → Settings × Option LoadError
  | [] => (s, none)
  | .nothing :: rest => loadLines s (number + 1) rest
  | .assignment name value :: rest =>
    loadLines (s.set (String.ofList name) (String.ofList value)) (number + 1) rest
  | .malformed :: _ => (s, some (.malformedLine number))
  | .emptyName :: _ => (s, some (.emptyName number))

def linesOf (content : String) : List Line :=
  (Text.lines content).map fun line => Line.ofText line.toList

def load (s : Settings) (content : String) : Settings × Option LoadError :=
  loadLines s 1 (linesOf content)

end InventoryQuery.EnvFile
