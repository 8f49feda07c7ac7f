import InventoryQuery.Event
import InventoryQuery.Filter.Parse

/-! Compiling a tree into the nested condition that a table endpoint takes. A group
becomes an object with its connective as the only key, a comparison one with its
column as the only key. The first comparison in source order that cannot be
compiled decides the error. -/
namespace InventoryQuery.Filter

open Text (Span)

/-- The value of an operand; a column stands as an object of its own. -/
def Operand.toDocument : Operand → Document
  | .literal value => value.toDocument
  | .column name => .entry "column" (.string name)

/-- A severity by name is its ordinal; any other operand is taken as it is. -/
def Operand.severity : Operand → Document
  | .literal (.string name) =>
    match (severityOrdinal? name).bind Number.ofInteger? with
    | some ordinal => .number ordinal
    | none => .string name
  | other => other.toDocument

namespace Comparison

/-- The operand of a plain comparison: a network is checked, and an ordering of
something else than numbers is noted but allowed. -/
def plainOperand (c : Comparison Span) (opcode : Opcode) : Noted FilterError Document :=
  match c.operand with
  | .column _ => pure c.operand.toDocument
  | .literal literal =>
    if opcode = .cidr then
      match networkLiteral literal.networkText with
      | .ok network => pure network.toDocument
      | .error cause =>
        .fail (.invalidNetwork literal.networkText c.valuePlace.start cause.message)
    else if opcode.isOrdering && !literal.isNumber then do
      Noted.note (.orderedText c.operator literal c.column)
      return literal.toDocument
    else pure literal.toDocument

def criteria (c : Comparison Span) (opcode : Opcode) : Noted FilterError (List Document) :=
  match c.mode with
  | .plain => do
    let operand ← c.plainOperand opcode
    return [.string opcode.code, operand]
  | .column => pure [.string opcode.code, c.operand.toDocument]
  | .color => pure [.string "color", .string opcode.code, c.operand.severity]

def compile (c : Comparison Span) : Noted FilterError Document :=
  match Opcode.ofOperator? c.operator c.mode with
  | none => .fail (.unknownOperator c.operator c.mode c.operatorPlace.start)
  | some opcode => do
    let items ← c.criteria opcode
    return .entry c.column (.array items)

end Comparison

namespace Tree

mutual

def compile : Tree Span → Noted FilterError Document
  | group connective members _ => do
    let items ← compileMembers members
    return .entry connective.keyword (.array items)
  | comparison content => content.compile

def compileMembers : List (Tree Span) → Noted FilterError (List Document)
  | [] => pure []
  | member :: rest => do
    let first ← compile member
    let others ← compileMembers rest
    return first :: others

end

end Tree

def compileText (source : String) : Noted FilterError Document := do
  let tree ← Noted.lift (parse source)
  tree.compile

end InventoryQuery.Filter
