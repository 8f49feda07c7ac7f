import Mathlib
import InventoryQuery.Proofs.Filter.Canonical
import InventoryQuery.Proofs.Filter.Parsed
import InventoryQuery.Proofs.Filter.Places
import InventoryQuery.Proofs.Filter.Traversal

/-! Operators that the table does not list. Such an operator is named in the error, at the
place where it stands, unless it is one of the words `column` and `color` and the value
begins like an operator: then the grammar takes the two for the form of a comparison and
its operator, never reconsiders, and misses the value. -/
namespace InventoryQuery.Filter

open Text (byteLength slice? Span)

/-- Whether an operator and the value behind it are taken for a form and its operator. -/
def TakenForForm (op : Run isOperatorChar) (v : Value) : Prop :=
  (op.text = columnWord ∨ op.text = colorWord) ∧ stops isOperatorChar v.text = false

instance (op : Run isOperatorChar) (v : Value) : Decidable (TakenForForm op v) :=
  inferInstanceAs (Decidable (_ ∧ _))

def plainText (name : Run isColumnChar) (op : Run isOperatorChar) (v : Value) : String :=
  String.ofList (name.text ++ ' ' :: (op.text ++ ' ' :: v.text))

namespace Grammar

open Recognizer

variable {c : Cursor} {rest : List Char}

theorem form_found_of_keyword {keyword : List Char}
    (special : keyword = columnWord ∨ keyword = colorWord) (gap_ : Run isSpace)
    (op : Run isOperatorChar) (stop : stops isOperatorChar rest = true)
    (whole : c.rest = keyword ++ (gap_.text ++ (op.text ++ rest))) :
    ∃ ps, (choice [columnForm, colorForm, operator] c).found =
      some (ps, c.advance (keyword ++ (gap_.text ++ op.text)) rest) := by
  rcases special with rfl | rfl
  · exact ⟨_, orElse_found (rule_found (keyword_found columnWord gap_ op stop whole))⟩
  · have other : (columnForm c).found = none := by
      refine rule_lost_iff.2 (followedBy_lost (token_lost (Lexeme.exact_eq_none ?_)))
      simp [whole, colorWord]
    exact ⟨_, (orElse_lost other).trans
      (orElse_found (rule_found (keyword_found colorWord gap_ op stop whole)))⟩

theorem comparison_lost_of_form {keyword : List Char}
    (special : keyword = columnWord ∨ keyword = colorWord) (name : Run isColumnChar)
    (gap_ formGap : Run isSpace) (op : Run isOperatorChar)
    (stop : stops isOperatorChar rest = true) (blankless : stops isSpace rest = true)
    (whole : c.rest =
      name.text ++ (gap_.text ++ (keyword ++ (formGap.text ++ (op.text ++ rest))))) :
    (comparison c).found = none := by
  have letter : stops isSpace (keyword ++ (formGap.text ++ (op.text ++ rest))) = true := by
    rcases special with rfl | rfl <;> rfl
  have column : Lexeme.column c.rest =
      some (name.text, gap_.text ++ (keyword ++ (formGap.text ++ (op.text ++ rest)))) := by
    rw [whole]
    exact Lexeme.run_append name.nonempty name.inside
      (gap_.stops_text (fun _ => isColumnChar_space) _)
  have blanks := Lexeme.run_append gap_.nonempty gap_.inside letter
  obtain ⟨ps, form⟩ := form_found_of_keyword special formGap op stop
    (c := c.advance (name.text ++ gap_.text) (keyword ++ (formGap.text ++ (op.text ++ rest)))) rfl
  refine rule_lost_iff.2 ?_
  refine followedBy_lost_second (token_found_iff.2 ⟨_, _, column, rfl, rfl⟩) ?_
  refine followedBy_lost_second (skip_found_iff.2 ⟨_, _, blanks, rfl, rfl⟩) ?_
  refine followedBy_lost_second (by simpa using form) ?_
  exact followedBy_lost (skip_lost (Lexeme.run_eq_none_iff.2 blankless))

theorem expression_lost_of_form {keyword : List Char}
    (special : keyword = columnWord ∨ keyword = colorWord) (name : Run isColumnChar)
    (gap_ formGap : Run isSpace) (op : Run isOperatorChar)
    (stop : stops isOperatorChar rest = true) (blankless : stops isSpace rest = true)
    (whole : c.rest =
      name.text ++ (gap_.text ++ (keyword ++ (formGap.text ++ (op.text ++ rest))))) :
    (expression c).found = none := by
  have start : stops isSpace (keyword ++ (formGap.text ++ (op.text ++ rest))) = true ∧
      stops (· == '(') (keyword ++ (formGap.text ++ (op.text ++ rest))) = true := by
    rcases special with rfl | rfl <;> exact ⟨rfl, rfl⟩
  have noGroup := group_lost_of_column (e := expression) name gap_ start.1 start.2 whole
  have noComparison := comparison_lost_of_form special name gap_ formGap op stop blankless whole
  rw [expression_eq, rule_lost_iff, choice, orElse_lost noGroup, choice,
    orElse_lost noComparison, choice, found_failure]

end Grammar

theorem Value.exists_sign {v : Value} (begins : stops isOperatorChar v.text = false) :
    ∃ (sign : Run isOperatorChar) (rest : List Char), v.text = sign.text ++ rest ∧
      stops isOperatorChar rest = true ∧ stops isSpace rest = true := by
  obtain ⟨sign, rest, split, stop⟩ :=
    Run.exists_of_not_stops (show ¬stops isOperatorChar v.text = true by simp [begins])
  refine ⟨sign, rest, split, stop, ?_⟩
  cases v with
  | quoted delimiter content quote inside =>
    -- A quote is no operator character.
    rcases isQuote_iff.1 quote with rfl | rfl <;> exact absurd begins (by simp [text]; decide)
  | word run unquoted =>
    have word : ∀ d ∈ rest, isTerminator d = false := fun d member => by
      simpa using run.inside d (by simp [show run.text = _ from split, member])
    cases rest with
    | nil => rfl
    | cons d ds =>
      cases space : isSpace d with
      | false => simp [space]
      | true => exact absurd (isTerminator_of_isSpace space) (by simp [word d])

theorem parse_plainText_of_taken (name : Run isColumnChar) {op : Run isOperatorChar} {v : Value}
    (taken : TakenForForm op v) : ∃ m, parse (plainText name op v) = .error (.mismatch m) := by
  obtain ⟨special, begins⟩ := taken
  obtain ⟨sign, rest, split, stop, blankless⟩ := v.exists_sign begins
  let c := Cursor.start (plainText name op v).toList
  have whole : c.rest =
      name.text ++ (blank.text ++ (op.text ++ (blank.text ++ (sign.text ++ rest)))) := by
    simp [c, Cursor.start, plainText, split]
  have lost := Grammar.expression_lost_of_form special name blank blank sign stop blankless whole
  have noBlanks := Grammar.spaces_found (c := c) Tree.noBlanks
    (show stops isSpace c.rest = true by
      rw [whole]; exact name.stops_text (fun _ => isSpace_columnChar) _) rfl
  have noFilter : (Grammar.filter c).found = none :=
    Recognizer.rule_lost_iff.2 (Recognizer.followedBy_lost_second noBlanks
      (Recognizer.followedBy_lost (by simpa [Tree.noBlanks, Cursor.advance] using lost)))
  exact ⟨_, parse_eq_error_iff.2 ⟨noFilter, rfl⟩⟩

def plainClause (name : Run isColumnChar) (op : Run isOperatorChar) (v : Value)
    (free : ¬TakenForForm op v) : Clause where
  column := name
  gap := blank
  form := .plain
  operator := op
  valueGap := blank
  value := v
  unambiguous := fun _ special => by simpa [TakenForForm, special] using free

theorem parse_plainText (name : Run isColumnChar) {op : Run isOperatorChar} {v : Value}
    (free : ¬TakenForForm op v) : ∃ c : Comparison Span,
      parse (plainText name op v) = .ok (.comparison c) ∧ c.column = String.ofList name.text ∧
        c.mode = .plain ∧ c.operator = String.ofList op.text ∧ c.operand = .literal v.literal ∧
        c.operatorPlace.start = byteLength name.text + 1 ∧
        c.valuePlace.start = byteLength (name.text ++ ' ' :: (op.text ++ [' '])) ∧
        slice? (plainText name op v).toList c.valuePlace.toRange = some v.text := by
  let k := plainClause name op v free
  have whole : (plainText name op v).toList =
      Tree.noBlanks.text ++ ((Sentence.comparison k).text ++ Tree.noBlanks.text) := by
    simp [plainText, Tree.noBlanks, Sentence.text, k, plainClause, Clause.text,
      Clause.beforeValue, Clause.beforeOperator, Form.text]
  refine ⟨_, parse_eq_ok_iff.2 ⟨_, _, _, whole, rfl⟩, rfl, rfl, rfl, rfl, ?_, ?_, ?_⟩
  · simp [k, plainClause, Clause.comparison, Clause.placed, Comparison.map, Text.Span.ofRange,
      Clause.beforeOperator, Form.text, Tree.noBlanks]
    rfl
  · simp [k, plainClause, Clause.comparison, Clause.placed, Comparison.map, Text.Span.ofRange,
      Clause.beforeValue, Clause.beforeOperator, Form.text, Tree.noBlanks]
  · rw [whole]
    exact k.slice?_value Tree.noBlanks.text Tree.noBlanks.text

theorem compileText_of_free {name : Run isColumnChar} {op : Run isOperatorChar} {v : Value}
    (free : ¬TakenForForm op v)
    (unknown : String.ofList op.text ∉ (Opcode.table .plain).map Prod.fst) :
    (compileText (plainText name op v)).result =
      .error (.unknownOperator (String.ofList op.text) .plain (byteLength name.text + 1)) := by
  obtain ⟨c, read, -, plain, operator, -, start, -⟩ := parse_plainText name free
  rw [← operator, ← plain] at unknown
  rw [compileText_of_parse read, Tree.compile, (Comparison.Fails.unknownOperator unknown).compile,
    operator, plain, start]

/-- An operator outside the table is reported as unknown at the place where it stands, and
not as a mismatch, just when it and the value are not taken for a form and its operator. -/
theorem compileText_unknownOperator_iff (name : Run isColumnChar) (op : Run isOperatorChar)
    (v : Value) (unknown : String.ofList op.text ∉ (Opcode.table .plain).map Prod.fst) :
    ((compileText (plainText name op v)).result =
        .error (.unknownOperator (String.ofList op.text) .plain (byteLength name.text + 1)) ↔
      ¬TakenForForm op v) ∧
    ((∃ m, (compileText (plainText name op v)).result = .error (.mismatch m)) ↔
      TakenForForm op v) := by
  by_cases taken : TakenForForm op v
  · obtain ⟨m, refused⟩ := parse_plainText_of_taken name taken
    have result : (compileText (plainText name op v)).result = .error (.mismatch m) := by
      rw [compileText, refused]
      rfl
    simp [result, taken]
  · simp [compileText_of_free taken unknown, taken]

theorem compileText_unknownOperator_color :
    "color" ∉ (Opcode.table .plain).map Prod.fst ∧
      (compileText "a color 'red'").result = .error (.unknownOperator "color" .plain 2) ∧
      ∃ m, (compileText "a color red").result = .error (.mismatch m) := by
  let name : Run isColumnChar := .ofText ['a'] rfl
  let op : Run isOperatorChar := .ofText colorWord rfl
  have unknown : "color" ∉ (Opcode.table .plain).map Prod.fst := by decide
  have quoted := (compileText_unknownOperator_iff name op
    (.quoted '\'' ['r', 'e', 'd'] rfl (Quoted.inside_escape '\'' ['r', 'e', 'd'])) unknown).1
  have word := (compileText_unknownOperator_iff name op
    (.ofPlain ['r', 'e', 'd'] (by decide)) unknown).2
  exact ⟨unknown, quoted.2 (by decide), word.2 (by decide)⟩

/-- An operator `column` before a value that begins like an operator is not reported. -/
theorem compileText_misses_column_operator :
    "column" ∉ (Opcode.table .plain).map Prod.fst ∧
      (compileText "a column x").result =
        .error (.mismatch ⟨0, ⟨1, 1⟩, ["expression"], some 'a'⟩) ∧
      (compileText "a column x").result ≠ .error (.unknownOperator "column" .plain 2) := by
  have refused : (compileText "a column x").result =
      .error (.mismatch ⟨0, ⟨1, 1⟩, ["expression"], some 'a'⟩) := by cbv
  exact ⟨by decide, refused, by simp [refused]⟩

end InventoryQuery.Filter
