/-! The rules of the grammar of filter expressions, in the order in which a report
names them, and the token class that each stands for. -/
namespace InventoryQuery.Filter

inductive Rule
  | endOfInput
  | space
  | filter
  | expression
  | group
  | connective
  | members
  | openParen
  | closeParen
  | comma
  | comparison
  | columnForm
  | colorForm
  | columnKeyword
  | colorKeyword
  | column
  | operator
  | value
  | quoted
  | singleQuotedText
  | doubleQuotedText
  | network
  | number
  | boolean
  | word
  | terminator
deriving DecidableEq, Repr

namespace Rule

def all : List Rule :=
  [endOfInput, space, filter, expression, group, connective, members, openParen, closeParen,
    comma, comparison, columnForm, colorForm, columnKeyword, colorKeyword, column, operator,
    value, quoted, singleQuotedText, doubleQuotedText, network, number, boolean, word,
    terminator]

theorem mem_all (r : Rule) : r ∈ all := by cases r <;> decide

def description : Rule → String
  | .endOfInput => "end of input"
  | .space | .terminator => "whitespace"
  | .filter => "filter expression"
  | .expression => "expression"
  | .group => "group"
  | .connective => "'and' or 'or'"
  | .members => "expression list"
  | .openParen => "'('"
  | .closeParen => "')'"
  | .comma => "','"
  | .comparison => "comparison"
  | .columnForm => "column comparison"
  | .colorForm => "color comparison"
  | .columnKeyword => "'column'"
  | .colorKeyword => "'color'"
  | .column => "column name"
  | .operator => "operator"
  | .value => "value"
  | .quoted => "quoted string"
  | .singleQuotedText | .doubleQuotedText => "string characters"
  | .network => "CIDR literal"
  | .number => "number"
  | .boolean => "boolean"
  | .word => "word"

def sort (rules : List Rule) : List Rule :=
  all.flatMap fun r => rules.filter (· = r)

theorem mem_sort {r : Rule} {rules : List Rule} : r ∈ sort rules ↔ r ∈ rules := by
  simp [sort, mem_all]

/-- The token classes of a list of rules, each once, in the order of the list. -/
def descriptions (rules : List Rule) : List String := (rules.map description).eraseDups

end Rule

end InventoryQuery.Filter
