import InventoryQuery.Proofs.Filter.Canonical

/-! What may follow the beginning of a filter expression. A beginning takes a sentence,
the members of a group or a value when every one of them leads on to an accepted
source; the beginnings that a reading goes through are built from these by what has
been read. -/
namespace InventoryQuery.Filter

def Accepted (cs : List Char) : Prop := ∃ t, parse (String.ofList cs) = .ok t

theorem accepted_iff {cs : List Char} : Accepted cs ↔
    ∃ (before after : Blanks) (s : Sentence), cs = before.text ++ (s.text ++ after.text) := by
  rw [Accepted]
  simp only [parse_eq_ok_iff, String.toList_ofList]
  constructor
  · rintro ⟨_, before, after, s, whole, -⟩
    exact ⟨before, after, s, whole⟩
  · rintro ⟨before, after, s, whole⟩
    exact ⟨_, before, after, s, whole, rfl⟩

/-- Whether a sentence can stand between two texts. -/
structure Takes (before after : List Char) : Prop where
  ends : atTerminator after = true
  accepted : ∀ s : Sentence, Accepted (before ++ (s.text ++ after))

/-- Whether members and a closing parenthesis can stand between two texts. -/
def TakesMembers (before after : List Char) : Prop :=
  ∀ (m : Members) (blanks : Blanks), Accepted (before ++ (m.text ++ (blanks.text ++ ')' :: after)))

theorem takes_start (blanks : Blanks) : Takes blanks.text [] where
  ends := rfl
  accepted := fun s => accepted_iff.2 ⟨blanks, Tree.noBlanks, s, rfl⟩

theorem accepted_end (before after : Blanks) (s : Sentence) :
    Accepted (before.text ++ (s.text ++ after.text)) := accepted_iff.2 ⟨before, after, s, rfl⟩

variable {before after : List Char}

theorem Takes.members (takes : Takes before after) (op : Connective)
    (beforeParen afterParen : Blanks) :
    TakesMembers (before ++ opening op beforeParen afterParen) after := by
  intro m blanks
  simpa [Sentence.text] using takes.accepted (.group op beforeParen afterParen m blanks)

theorem TakesMembers.takes (takes : TakesMembers before after) : Takes before (')' :: after) where
  ends := rfl
  accepted := fun s => takes (.one s) Tree.noBlanks

theorem TakesMembers.more (takes : TakesMembers before after) (s : Sentence)
    (beforeComma afterComma : Blanks) :
    TakesMembers (before ++ (s.text ++ (beforeComma.text ++ ',' :: afterComma.text))) after := by
  intro m blanks
  simpa [Members.text] using takes (.more s beforeComma afterComma m) blanks

def Value.zero : Value := .ofPlain ['0'] (by decide)

def Clause.withZero (column : Run isColumnChar) (gap : Run isSpace) (form : Form)
    (operator : Run isOperatorChar) : Clause where
  column := column
  gap := gap
  form := form
  operator := operator
  valueGap := blank
  value := .zero
  unambiguous := fun _ _ => by decide

theorem Clause.text_withZero (column : Run isColumnChar) (gap : Run isSpace) (form : Form)
    (operator : Run isOperatorChar) : (withZero column gap form operator).text =
      column.text ++ (gap.text ++ (form.text ++ (operator.text ++ [' ', '0']))) := by
  simp [text, beforeValue, beforeOperator, withZero, Value.zero, Value.ofPlain, Value.text]

theorem Takes.clause (takes : Takes before after) (k : Clause) :
    Accepted (before ++ (k.text ++ after)) := takes.accepted (.comparison k)

theorem Takes.form (takes : Takes before after) (column : Run isColumnChar) (gap : Run isSpace)
    (form : Form) (operator : Run isOperatorChar) :
    Accepted (before ++ (column.text ++ gap.text) ++
      (form.text ++ (operator.text ++ (' ' :: '0' :: after)))) := by
  simpa [Clause.text_withZero] using takes.clause (.withZero column gap form operator)

/-- Whether a value can stand between two texts. A value that begins like an operator
may be taken for one, and then another text must follow. -/
structure TakesValue (before after : List Char) : Prop where
  ends : atTerminator after = true
  accepted : ∀ v : Value, stops isOperatorChar v.text = true →
    Accepted (before ++ (v.text ++ after))
  boolean : ∃ more, atTerminator more = true ∧
    Accepted (before ++ (['t', 'r', 'u', 'e'] ++ more))

theorem Takes.value (takes : Takes before after) (column : Run isColumnChar)
    (gap : Run isSpace) (form : Form) (operator : Run isOperatorChar) (valueGap : Run isSpace) :
    TakesValue (before ++ (column.text ++ gap.text) ++
      (form.text ++ (operator.text ++ valueGap.text))) after where
  ends := takes.ends
  accepted := fun v start => by
    simpa [Clause.text, Clause.beforeValue, Clause.beforeOperator] using
      takes.clause ⟨column, gap, form, operator, valueGap, v, fun _ _ => start⟩
  boolean := by
    let truth : Value := .ofPlain ['t', 'r', 'u', 'e'] (by decide)
    let truthOperator : Run isOperatorChar := .ofText ['t', 'r', 'u', 'e'] rfl
    -- A longer comparison by that operator, where the present one is its keyword.
    have longer (form' : Form)
        (same : form'.text = form.text ++ (operator.text ++ valueGap.text)) :
        Accepted (before ++ (column.text ++ gap.text) ++ (form.text ++ (operator.text ++
          valueGap.text)) ++ (['t', 'r', 'u', 'e'] ++ (' ' :: '0' :: after))) := by
      have accepted := takes.form column gap form' truthOperator
      rw [show truthOperator.text = ['t', 'r', 'u', 'e'] from rfl, same] at accepted
      simpa using accepted
    by_cases special : form = .plain ∧ (operator.text = columnWord ∨ operator.text = colorWord)
    · obtain ⟨rfl, isColumn | isColor⟩ := special
      · exact ⟨_, rfl, longer (.column valueGap) (by simp [Form.text, isColumn])⟩
      · exact ⟨_, rfl, longer (.color valueGap) (by simp [Form.text, isColor])⟩
    · refine ⟨after, takes.ends, ?_⟩
      simpa [Clause.text, Clause.beforeValue, Clause.beforeOperator, truth, Value.ofPlain,
        Value.text] using takes.clause ⟨column, gap, form, operator, valueGap, truth,
          fun plain keyword => absurd ⟨plain, keyword⟩ special⟩

/-- Whether a text begins with text of a rule. With the end of input only the empty
text begins. -/
def Rule.Begins (r : Rule) (cs : List Char) : Prop :=
  (Grammar.recognizer r (Cursor.start cs)).found.isSome = true

namespace Rule

open Recognizer Grammar

variable {r : Rule} {cs rest : List Char}

theorem begins_of_found {p : List Phrase} {next : Cursor}
    (found : (recognizer r (Cursor.start cs)).found = some (p, next)) : r.Begins cs := by
  rw [Begins, found]
  rfl

theorem begins_of_token {l : Lexeme} {taken : List Char} (is : recognizer r = token r l)
    (read : l cs = some (taken, rest)) : r.Begins cs :=
  begins_of_found (is ▸ token_found_iff.2 ⟨taken, rest, read, rfl, rfl⟩)

theorem begins_endOfInput_iff : endOfInput.Begins cs ↔ cs = [] := by
  cases cs with
  | nil => exact ⟨fun _ => rfl, fun _ => begins_of_token rfl rfl⟩
  | cons c cs =>
    have lost : (token .endOfInput Lexeme.endOfInput (Cursor.start (c :: cs))).found = none :=
      token_lost rfl
    simp [Begins, recognizer, Grammar.endOfInput, lost]

theorem begins_expression (s : Sentence) (ends : endsAt rest s) :
    expression.Begins (s.text ++ rest) := by
  obtain ⟨p, found, -⟩ := expression_found (c := Cursor.start (s.text ++ rest)) s ends rfl
  exact begins_of_found found

theorem begins_comparison (k : Clause) (ends : k.value.endsAt rest) :
    comparison.Begins (k.text ++ rest) := by
  obtain ⟨p, found, -⟩ := comparison_found (c := Cursor.start (k.text ++ rest)) k ends rfl
  exact begins_of_found found

theorem begins_column (column : Run isColumnChar) (stop : stops isColumnChar rest = true) :
    Rule.column.Begins (column.text ++ rest) :=
  begins_of_token rfl (Lexeme.run_append column.nonempty column.inside stop)

theorem begins_operator (operator : Run isOperatorChar) (stop : stops isOperatorChar rest = true) :
    Rule.operator.Begins (operator.text ++ rest) :=
  begins_of_token rfl (Lexeme.run_append operator.nonempty operator.inside stop)

theorem begins_columnForm (gap : Run isSpace) (operator : Run isOperatorChar)
    (stop : stops isOperatorChar rest = true) :
    columnForm.Begins ((Form.column gap).text ++ (operator.text ++ rest)) := by
  have found := keyword_found (r := .columnKeyword) columnWord gap operator stop
    (c := Cursor.start ((Form.column gap).text ++ (operator.text ++ rest)))
    (by simp [Cursor.start, Form.text])
  exact begins_of_found (rule_found found)

theorem begins_colorForm (gap : Run isSpace) (operator : Run isOperatorChar)
    (stop : stops isOperatorChar rest = true) :
    colorForm.Begins ((Form.color gap).text ++ (operator.text ++ rest)) := by
  have found := keyword_found (r := .colorKeyword) colorWord gap operator stop
    (c := Cursor.start ((Form.color gap).text ++ (operator.text ++ rest)))
    (by simp [Cursor.start, Form.text])
  exact begins_of_found (rule_found found)

theorem begins_value (v : Value) (ends : v.endsAt rest) : value.Begins (v.text ++ rest) := by
  obtain ⟨p, found, -⟩ := value_found (c := Cursor.start (v.text ++ rest)) v ends rfl
  exact begins_of_found found

theorem begins_members (m : Members) (blanks : Blanks) :
    members.Begins (m.text ++ (blanks.text ++ ')' :: rest)) := by
  obtain ⟨q, found⟩ := members_phrase m blanks
    (c := Cursor.start (m.text ++ (blanks.text ++ ')' :: rest))) rfl
  exact begins_of_found found

theorem begins_group (op : Connective) (beforeParen afterParen : Blanks) (m : Members)
    (beforeClose : Blanks) : group.Begins
      ((Sentence.group op beforeParen afterParen m beforeClose).text ++ rest) := by
  obtain ⟨q, found⟩ := group_phrase op beforeParen afterParen m beforeClose (c := Cursor.start
    ((Sentence.group op beforeParen afterParen m beforeClose).text ++ rest)) rfl
  exact begins_of_found found

theorem begins_connective (op : Connective) : connective.Begins (op.keyword.toList ++ rest) := by
  obtain ⟨p, found, -⟩ := connective_found (c := Cursor.start (op.keyword.toList ++ rest)) rfl
  exact begins_of_found found

theorem begins_filter (s : Sentence) : filter.Begins s.text := by
  obtain ⟨p, last, found, -⟩ := filter_found (c := Cursor.start s.text) Tree.noBlanks
    Tree.noBlanks s (by simp [Cursor.start, Tree.noBlanks])
  exact begins_of_found found

end Rule

end InventoryQuery.Filter
