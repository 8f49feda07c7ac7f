/-! Comparison operators. An operator is kept as written and stands for an opcode
only in a mode; comparisons with another column and with a severity know the
six relations alone. -/
namespace InventoryQuery.Filter

inductive Connective
  | and
  | or
deriving DecidableEq, Repr

namespace Connective

def keyword : Connective → String
  | .and => "and"
  | .or => "or"

def ofKeyword? (text : String) : Option Connective :=
  if text = "and" then some .and else if text = "or" then some .or else none

theorem ofKeyword?_keyword (c : Connective) : ofKeyword? c.keyword = some c := by
  cases c <;> simp [ofKeyword?, keyword]

end Connective

/-- How the right side of a comparison is meant: as a value, as another column of
the same row, or as a severity. -/
inductive Mode
  | plain
  | column
  | color
deriving DecidableEq, Repr

def Mode.name : Mode → String
  | .plain => "plain"
  | .column => "column"
  | .color => "color"

inductive Opcode
  | eq
  | neq
  | reg
  | nreg
  | like
  | nlike
  | empty
  | lt
  | lte
  | gt
  | gte
  | cidr
deriving DecidableEq, Repr

namespace Opcode

def code : Opcode → String
  | .eq => "eq"
  | .neq => "neq"
  | .reg => "reg"
  | .nreg => "nreg"
  | .like => "like"
  | .nlike => "nlike"
  | .empty => "empty"
  | .lt => "lt"
  | .lte => "lte"
  | .gt => "gt"
  | .gte => "gte"
  | .cidr => "cidr"

def relations : List (String × Opcode) :=
  [("=", .eq), ("!=", .neq), ("<", .lt), ("<=", .lte), (">", .gt), (">=", .gte)]

def textOperators : List (String × Opcode) :=
  [("=~", .reg), ("!=~", .nreg), ("~", .like), ("has", .like), ("!~", .nlike),
    ("!has", .nlike), ("?", .empty), ("net", .cidr)]

def table : Mode → List (String × Opcode)
  | .plain => relations ++ textOperators
  | .column | .color => relations

def ofOperator? (operator : String) (mode : Mode) : Option Opcode :=
  (table mode).lookup operator

/-- Whether the opcode orders its operands, which is meant for numbers. -/
def isOrdering : Opcode → Bool
  | .lt | .lte | .gt | .gte => true
  | _ => false

end Opcode

end InventoryQuery.Filter
