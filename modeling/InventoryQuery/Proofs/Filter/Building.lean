import InventoryQuery.Filter.Parse

/-! Building a tree from phrases of the grammar's shape: what a phrase of each kind comes to
when its parts are those that the grammar puts there. -/
namespace InventoryQuery.Filter.Phrase

variable {start stop : Nat} {text : List Char}

theorem value_eq_ok {r : Rule} {inner : Phrase} {token : Token}
    (known : inner.token? = some token) :
    value ⟨r, start, stop, text, [inner]⟩ = .ok (token, ⟨start, stop⟩) := by
  simp only [value, List.head?_cons, Malformed.require_some, bind, Except.bind, known]
  rfl

theorem operand_of_ne_column {mode : Mode} (other : mode ≠ .column) (token : Token) :
    operand mode token = .literal (.ofToken token) := by
  cases mode with
  | column => exact absurd rfl other
  | plain | color => rfl

def IsForm (p : Phrase) (mode : Mode) (operator : String) (range : Text.Range) : Prop :=
  ∀ (start : Nat) (k : Known), k.mode = .plain →
    k.add start p = .ok { k with mode := mode, operator := some (operator, range) }

theorem isForm_operator {p : Phrase} (isOperator : p.rule = .operator) :
    p.IsForm .plain p.string p.range := fun start k plain => by
  rw [Known.add, isOperator, ← plain]

theorem addForm_eq_ok {r : Rule} {keyword operator : Phrase}
    (isKeyword : keyword.rule ≠ .operator) (isOperator : operator.rule = .operator)
    (k : Known) (offset : Nat) (mode : Mode) :
    k.addForm offset mode ⟨r, start, stop, text, [keyword, operator]⟩ =
      .ok { k with mode := mode, operator := some (operator.string, operator.range) } := by
  have found : part? ⟨r, start, stop, text, [keyword, operator]⟩ .operator = some operator := by
    simp [part?, isKeyword, isOperator]
  rw [Known.addForm, found]
  rfl

theorem isForm_column {keyword operator : Phrase} (isKeyword : keyword.rule ≠ .operator)
    (isOperator : operator.rule = .operator) :
    IsForm ⟨.columnForm, start, stop, text, [keyword, operator]⟩ .column operator.string
      operator.range :=
  fun offset k _ => addForm_eq_ok isKeyword isOperator k offset .column

theorem isForm_color {keyword operator : Phrase} (isKeyword : keyword.rule ≠ .operator)
    (isOperator : operator.rule = .operator) :
    IsForm ⟨.colorForm, start, stop, text, [keyword, operator]⟩ .color operator.string
      operator.range :=
  fun offset k _ => addForm_eq_ok isKeyword isOperator k offset .color

theorem comparison_eq_ok {r : Rule} {column form value : Phrase} {mode : Mode}
    {operator : String} {operatorRange valueRange : Text.Range} {token : Token}
    (isColumn : column.rule = .column) (isForm : form.IsForm mode operator operatorRange)
    (isValue : value.rule = .value) (known : value.value = .ok (token, valueRange)) :
    comparison ⟨r, start, stop, text, [column, form, value]⟩ =
      .ok { column := column.string, operator := operator, operand := operand mode token
            mode := mode, place := ⟨start, stop⟩, operatorPlace := operatorRange
            valuePlace := valueRange } := by
  have first : Known.add start {} column = .ok { column := some column.string } := by
    rw [Known.add, isColumn]
  have last (k : Known) : k.add start value = .ok { k with value := some (token, valueRange) } := by
    rw [Known.add, isValue]
    simp only [known]
    rfl
  have middle := isForm start { column := some column.string } rfl
  simp only [comparison, List.foldlM_cons, first, bind, Except.bind, middle, last]
  rfl

theorem tree_group {r : Rule} {inner : Phrase} (isGroup : inner.rule = .group) :
    tree ⟨r, start, stop, text, [inner]⟩ = inner.group := by
  rw [tree, isGroup]

theorem tree_comparison {r : Rule} {inner : Phrase} (isComparison : inner.rule = .comparison) :
    tree ⟨r, start, stop, text, [inner]⟩ = inner.comparison.map .comparison := by
  rw [tree, isComparison]

theorem expressions_nil : expressions [] = .ok [] := by
  rw [expressions]

theorem expressions_comma {comma : Phrase} {rest : List Phrase} (isComma : comma.rule = .comma) :
    expressions (comma :: rest) = expressions rest := by
  rw [expressions, isComma, if_neg (by decide)]

theorem expressions_cons {p : Phrase} {rest : List Phrase} {t : Tree Text.Range}
    {ts : List (Tree Text.Range)} (isExpression : p.rule = .expression) (first : p.tree = .ok t)
    (others : expressions rest = .ok ts) : expressions (p :: rest) = .ok (t :: ts) := by
  rw [expressions, if_pos isExpression, first, others]
  rfl

theorem group_eq_ok {r : Rule} {connective open_ members_ close : Phrase} {op : Connective}
    {ts : List (Tree Text.Range)} (isConnective : connective.rule = .connective)
    (keyword : connective.string = op.keyword) (isOpen : open_.rule = .openParen)
    (isMembers : members_.rule = .members) (trees : members_.members = .ok ts)
    (nonempty : ts ≠ []) (isClose : close.rule = .closeParen) :
    group ⟨r, start, stop, text, [connective, open_, members_, close]⟩ =
      .ok (.group op ts ⟨start, stop⟩) := by
  have parts : groupParts none [] [connective, open_, members_, close] = .ok (some op, ts) := by
    simp only [groupParts, isConnective, keyword, Connective.ofKeyword?_keyword,
      Malformed.require_some, isOpen, isMembers, trees, isClose, bind, Except.bind,
      List.nil_append]
  simp [group, parts, nonempty, bind, Except.bind]
  rfl

theorem filterTree_eq {r : Rule} {expression last : Phrase} (others : List Phrase)
    (isExpression : expression.rule = .expression) :
    filterTree (⟨r, start, stop, text, [expression, last]⟩ :: others) = expression.tree := by
  simp [filterTree, part?, isExpression, bind, Except.bind]

end InventoryQuery.Filter.Phrase
