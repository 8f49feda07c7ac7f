import InventoryQuery.Filter.Tree

/-! The canonical text of a tree: one blank between the parts of a comparison, a
comma and a blank between members, and quotes around a text only where it would
otherwise read back as something else. -/
namespace InventoryQuery.Filter

def Operand.canonical : Operand → List Char
  | .literal value => value.canonical
  | .column name => name.toList

variable {σ : Type}

def Comparison.canonical (c : Comparison σ) : List Char :=
  let form :=
    match c.mode with
    | .plain => []
    | .column | .color => c.mode.name.toList ++ [' ']
  c.column.toList ++ ' ' :: (form ++ (c.operator.toList ++ ' ' :: c.operand.canonical))

namespace Tree

mutual

def canonical : Tree σ → List Char
  | group connective members _ =>
    connective.keyword.toList ++ ' ' :: '(' :: (canonicalMembers members ++ [')'])
  | comparison content => content.canonical

def canonicalMembers : List (Tree σ) → List Char
  | [] => []
  | [member] => canonical member
  | member :: rest => canonical member ++ ',' :: ' ' :: canonicalMembers rest

end

def canonicalText (t : Tree σ) : String := String.ofList t.canonical

end Tree

end InventoryQuery.Filter
