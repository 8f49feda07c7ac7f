import InventoryQuery.Filter.Blame
import InventoryQuery.Filter.Operator
import InventoryQuery.Text.Lines

/-! What can be wrong with a filter expression, and how it is reported: with its
source line, a caret below the offending character, and a message. -/
namespace InventoryQuery.Filter

/-- The source does not match the grammar. `expected` names the token classes that
would have been accepted at the offset, `found` the character there. -/
structure Mismatch where
  offset : Nat
  position : Text.Position
  expected : List String
  found : Option Char
deriving DecidableEq, Repr

namespace Mismatch

def ofRules (source : List Char) (offset : Nat) (rules : List Rule) : Mismatch :=
  ⟨offset, Text.Position.ofOffset source offset, Rule.descriptions rules,
    Text.charAt? source offset⟩

def ofBlame (source : List Char) (b : Blame) : Mismatch :=
  ofRules source b.offset (Rule.sort b.rules)

def message (m : Mismatch) : String :=
  let place := "syntax error at offset " ++ toString m.offset ++ " (line " ++
    toString m.position.line ++ ", column " ++ toString m.position.column ++ ")"
  let expected :=
    if m.expected.isEmpty then "" else ": expected " ++ " or ".intercalate m.expected
  let found :=
    match m.found with
    | some c => ", found '" ++ c.toString ++ "'"
    | none => ", found end of input"
  place ++ expected ++ found

end Mismatch

inductive FilterError
  | mismatch (cause : Mismatch)
  | unknownOperator (operator : String) (mode : Mode) (offset : Nat)
  | tooDeep (offset : Nat) (reason : String)
  | invalidNetwork (literal : String) (offset : Nat) (reason : String)
deriving DecidableEq, Repr

namespace FilterError

def offset : FilterError → Nat
  | mismatch cause => cause.offset
  | unknownOperator _ _ offset => offset
  | tooDeep offset _ => offset
  | invalidNetwork _ offset _ => offset

def message : FilterError → String
  | mismatch cause => cause.message
  | unknownOperator operator mode offset =>
    "unknown operator '" ++ operator ++ "' in " ++ mode.name ++ " comparison at offset " ++
      toString offset
  | tooDeep offset reason =>
    "expression nested too deeply at offset " ++ toString offset ++ ": " ++ reason
  | invalidNetwork literal offset reason =>
    "invalid CIDR literal '" ++ literal ++ "' at offset " ++ toString offset ++ ": " ++ reason

/-- The place that a report shows. An offset behind the source counts as its end. -/
def reportPosition (e : FilterError) (source : String) : Text.Position :=
  Text.Position.ofOffset source.toList (min e.offset (Text.byteLength source.toList))

def reportLine (e : FilterError) (source : String) : String :=
  (Text.lines source)[(e.reportPosition source).line - 1]?.getD ""

def report (e : FilterError) (source : String) : String :=
  let position := e.reportPosition source
  "Filter error at line " ++ toString position.line ++ ", column " ++
    toString position.column ++ ":\n" ++ e.reportLine source ++ "\n" ++
    String.ofList (List.replicate (position.column - 1) ' ') ++ "^\n" ++ e.message

end FilterError

end InventoryQuery.Filter
