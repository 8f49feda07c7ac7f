import InventoryQuery.Filter.Tree

/-! The JSON form of a tree. Members of objects stand in the order in which a
reader of the tree looks for them, not in key order. -/
namespace InventoryQuery

def Text.Span.toJson (s : Text.Span) : Json :=
  .object [("start", .ofNat s.start), ("end", .ofNat s.stop),
    ("line", .ofNat s.position.line), ("column", .ofNat s.position.column)]

namespace Filter

def Operand.toJson : Operand → Json
  | .literal value => .object [("literal", value.toJson)]
  | .column name => .object [("column", .string name)]

def Comparison.toJson (c : Comparison Text.Span) : Json :=
  .object [("column", .string c.column), ("operator", .string c.operator),
    ("rhs", c.operand.toJson), ("mode", .string c.mode.name), ("span", c.place.toJson),
    ("operator_span", c.operatorPlace.toJson), ("value_span", c.valuePlace.toJson)]

namespace Tree

mutual

def toJson : Tree Text.Span → Json
  | group connective members place =>
    .object [("group", .object [("op", .string connective.keyword),
      ("children", .array (toJsonMembers members)), ("span", place.toJson)])]
  | comparison content => .object [("comparison", content.toJson)]

def toJsonMembers : List (Tree Text.Span) → List Json
  | [] => []
  | member :: rest => toJson member :: toJsonMembers rest

end

end Tree

end Filter

end InventoryQuery
