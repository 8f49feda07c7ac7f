import InventoryQuery.Proofs.Filter.Values

/-! Reading a comparison. The words `column` and `color` are taken for a form of
comparison as soon as an operator can follow them, and this is never reconsidered;
a clause is written so that its form is the one that is found. -/
namespace InventoryQuery.Filter

open Text (byteLength)

theorem isColumnChar_space {c : Char} (space : isSpace c = true) : isColumnChar c = false := by
  rcases isSpace_iff.1 space with rfl | rfl | rfl | rfl <;> decide

theorem isOperatorChar_space {c : Char} (space : isSpace c = true) :
    isOperatorChar c = false := by
  rcases isSpace_iff.1 space with rfl | rfl | rfl | rfl <;> decide

theorem isSpace_columnChar {c : Char} (letter : isColumnChar c = true) : isSpace c = false := by
  cases space : isSpace c with
  | false => rfl
  | true => simp [isColumnChar_space space] at letter

theorem isSpace_operatorChar {c : Char} (sign : isOperatorChar c = true) : isSpace c = false := by
  cases space : isSpace c with
  | false => rfl
  | true => simp [isOperatorChar_space space] at sign

theorem Value.text_ne_nil : (v : Value) → v.text ≠ []
  | .quoted _ _ _ _ => List.cons_ne_nil _ _
  | .word run _ => run.nonempty

theorem Value.stops_isSpace (v : Value) (rest : List Char) :
    stops isSpace (v.text ++ rest) = true := by
  cases v with
  | quoted delimiter content quote inside =>
    rcases isQuote_iff.1 quote with rfl | rfl <;> rfl
  | word run unquoted =>
    refine run.stops_text (fun c word => ?_) rest
    cases space : isSpace c with
    | false => rfl
    | true => simp [isTerminator_of_isSpace space] at word

theorem Clause.stops_value (k : Clause) (form : k.form = .plain)
    (special : k.operator.text = columnWord ∨ k.operator.text = colorWord) (rest : List Char) :
    stops isOperatorChar (k.value.text ++ rest) = true := by
  obtain ⟨d, ds, text⟩ := List.exists_cons_of_ne_nil k.value.text_ne_nil
  simpa [text] using k.unambiguous form special

theorem Clause.stops_form (k : Clause) {p : Char → Bool}
    (disjoint : ∀ c, isOperatorChar c = true → p c = false) (rest : List Char) :
    stops p (k.form.text ++ (k.operator.text ++ rest)) = true := by
  cases k.form with
  | plain => exact k.operator.stops_text disjoint rest
  | column gap_ => simp [Form.text, columnWord, disjoint 'c' (by decide)]
  | color gap_ => simp [Form.text, colorWord, disjoint 'c' (by decide)]

namespace Grammar

open Recognizer

variable {c next : Cursor} {rest keyword : List Char} {ps : List Phrase} {r : Rule}

theorem keyword_found (keyword : List Char) (gap_ : Run isSpace) (op : Run isOperatorChar)
    (stop : stops isOperatorChar rest = true)
    (whole : c.rest = keyword ++ (gap_.text ++ (op.text ++ rest))) :
    (sequence [token r (.exact keyword), gap, operator] c).found =
      some ([⟨r, c.offset, c.offset + byteLength keyword, keyword, []⟩,
        ⟨.operator, c.offset + byteLength (keyword ++ gap_.text),
          c.offset + byteLength (keyword ++ gap_.text) + byteLength op.text, op.text, []⟩],
        c.advance (keyword ++ (gap_.text ++ op.text)) rest) := by
  have word : Lexeme.exact keyword c.rest =
      some (keyword, gap_.text ++ (op.text ++ rest)) := by
    rw [whole, Lexeme.exact_append]
  have blanks : Lexeme.run isSpace (gap_.text ++ (op.text ++ rest)) =
      some (gap_.text, op.text ++ rest) :=
    Lexeme.run_append gap_.nonempty gap_.inside
      (op.stops_text (fun _ => isSpace_operatorChar) rest)
  have sign : Lexeme.operator (op.text ++ rest) = some (op.text, rest) :=
    Lexeme.run_append op.nonempty op.inside stop
  refine followedBy_token_iff.2 ⟨_, _, _, word, ?_, rfl⟩
  refine followedBy_skip_iff.2 ⟨_, _, blanks, ?_⟩
  exact followedBy_token_iff.2 ⟨_, _, [], sign, by simp [Recognizer.sequence], by simp⟩

theorem keyword_sound
    (found : (sequence [token r (.exact keyword), gap, operator] c).found = some (ps, next)) :
    ∃ (gap_ : Run isSpace) (op : Run isOperatorChar),
      c.rest = keyword ++ (gap_.text ++ (op.text ++ next.rest)) ∧
        stops isOperatorChar next.rest = true := by
  obtain ⟨_, _, _, word, found, -⟩ := followedBy_token_iff.1 found
  obtain ⟨_, _, blanks, found⟩ := followedBy_skip_iff.1 found
  obtain ⟨_, rest, _, sign, found, -⟩ := followedBy_token_iff.1 found
  obtain ⟨-, rfl⟩ : [] = _ ∧ _ = next := by simpa [Recognizer.sequence] using found
  obtain ⟨rfl, whole⟩ := Lexeme.exact_eq_some_iff.1 word
  obtain ⟨same, nonempty, inside, -⟩ := Lexeme.run_eq_some_iff.1 blanks
  obtain ⟨same', nonempty', inside', stop⟩ := Lexeme.run_eq_some_iff.1 sign
  rw [Cursor.rest_advance] at same same'
  exact ⟨⟨_, nonempty, inside⟩, ⟨_, nonempty', inside'⟩, by simp [whole, same, same'], stop⟩

theorem keyword_gap (letters : keyword.all isOperatorChar = true) (op : Run isOperatorChar)
    (gap_ : Run isSpace) (blankless : stops isSpace rest = true)
    (whole : c.rest = op.text ++ (gap_.text ++ rest)) {d₁ d₂ : Cursor} {qs : List Phrase}
    (found₁ : (token r (.exact keyword) c).found = some (ps, d₁))
    (found₂ : (gap d₁).found = some (qs, d₂)) :
    op.text = keyword ∧ d₂ = c.advance (op.text ++ gap_.text) rest := by
  obtain ⟨taken, tail, word, rfl, -⟩ := token_found_iff.1 found₁
  obtain ⟨rfl, same⟩ := Lexeme.exact_eq_some_iff.1 word
  obtain ⟨blanks, behind, read, -, rfl⟩ := skip_found_iff.1 found₂
  obtain ⟨more, split, rfl⟩ := exists_more (List.all_eq_true.1 letters)
    (gap_.stops_text (fun _ => isOperatorChar_space) rest) (same.symm.trans whole)
  -- The keyword is the whole operator, or the operator goes on and no gap follows.
  cases more with
  | nil =>
    have expected := Lexeme.run_append gap_.nonempty gap_.inside blankless
    obtain ⟨rfl, rfl⟩ : gap_.text = blanks ∧ rest = behind := by
      simpa [expected] using read
    exact ⟨by simpa using split, by simp [split]⟩
  | cons d more =>
    have sign := isSpace_operatorChar (op.inside d (by simp [split]))
    have none : Lexeme.run isSpace (d :: (more ++ (gap_.text ++ rest))) = none :=
      Lexeme.run_eq_none_iff.2 (by simp [sign])
    simp [none] at read

theorem keyword_lost (letters : keyword.all isOperatorChar = true)
    (op : Run isOperatorChar) (gap_ : Run isSpace)
    (alone : op.text = keyword → stops isOperatorChar rest = true)
    (blankless : stops isSpace rest = true)
    (whole : c.rest = op.text ++ (gap_.text ++ rest)) :
    (sequence [token r (.exact keyword), gap, operator] c).found = none := by
  cases found₁ : (token r (.exact keyword) c).found with
  | none => exact followedBy_lost found₁
  | some first =>
    refine followedBy_lost_second found₁ ?_
    cases found₂ : (gap first.2).found with
    | none => exact followedBy_lost found₂
    | some second =>
      -- With blanks behind it the keyword is the whole operator.
      obtain ⟨same, next⟩ := keyword_gap letters op gap_ blankless whole found₁ found₂
      refine followedBy_lost_second found₂ (followedBy_lost (token_lost ?_))
      rw [next]
      exact Lexeme.run_eq_none_iff.2 (alone same)

theorem keywords_lost (op : Run isOperatorChar) (gap_ : Run isSpace)
    (alone : op.text = columnWord ∨ op.text = colorWord → stops isOperatorChar rest = true)
    (blankless : stops isSpace rest = true) (whole : c.rest = op.text ++ (gap_.text ++ rest)) :
    (columnForm c).found = none ∧ (colorForm c).found = none := by
  constructor
  · exact rule_lost_iff.2
      (keyword_lost (by decide) op gap_ (fun same => alone (.inl same)) blankless whole)
  · exact rule_lost_iff.2
      (keyword_lost (by decide) op gap_ (fun same => alone (.inr same)) blankless whole)

theorem form_found (form : Form) (op : Run isOperatorChar) (gap_ : Run isSpace)
    (alone : form = .plain → op.text = columnWord ∨ op.text = colorWord →
      stops isOperatorChar rest = true)
    (blankless : stops isSpace rest = true)
    (whole : c.rest = form.text ++ (op.text ++ (gap_.text ++ rest))) :
    ∃ p, (choice [columnForm, colorForm, operator] c).found =
        some ([p], c.advance (form.text ++ op.text) (gap_.text ++ rest)) ∧
      p.IsForm form.mode (String.ofList op.text) ⟨c.offset + byteLength form.text,
        c.offset + byteLength form.text + byteLength op.text⟩ := by
  have stop := gap_.stops_text (q := isOperatorChar) (fun _ => isOperatorChar_space) rest
  cases form with
  | column formGap =>
    have found := keyword_found (r := .columnKeyword) columnWord formGap op stop
      (by simpa [Form.text] using whole)
    exact ⟨_, orElse_found (rule_found found), Phrase.isForm_column (by simp) rfl⟩
  | color formGap =>
    have other : (columnForm c).found = none := by
      refine rule_lost_iff.2 (followedBy_lost (token_lost (Lexeme.exact_eq_none ?_)))
      rw [whole, Form.text]
      simp [colorWord]
    have found := keyword_found (r := .colorKeyword) colorWord formGap op stop
      (by simpa [Form.text] using whole)
    exact ⟨_, (orElse_lost other).trans (orElse_found (rule_found found)),
      Phrase.isForm_color (by simp) rfl⟩
  | plain =>
    rw [Form.text, List.nil_append] at whole
    obtain ⟨noColumn, noColor⟩ := keywords_lost op gap_ (alone rfl) blankless whole
    have sign : Lexeme.operator c.rest = some (op.text, gap_.text ++ rest) := by
      rw [whole]
      exact Lexeme.run_append op.nonempty op.inside stop
    have found := orElse_found (b := choice [])
      (token_found_iff (r := .operator).2 ⟨_, _, sign, rfl, rfl⟩)
    exact ⟨_, (orElse_lost noColumn).trans ((orElse_lost noColor).trans found),
      Phrase.isForm_operator rfl⟩

theorem stops_of_keyword_lost (op : Run isOperatorChar) (gap_ : Run isSpace)
    (same : op.text = keyword) (whole : c.rest = op.text ++ (gap_.text ++ rest))
    (lost : (sequence [token r (.exact keyword), gap, operator] c).found = none) :
    stops isOperatorChar rest = true := by
  refine Decidable.byContradiction fun goes => ?_
  obtain ⟨next, more, split, stop⟩ := Run.exists_of_not_stops goes
  have found := keyword_found (r := r) keyword gap_ next stop (by rw [whole, same, split])
  rw [lost] at found
  simp at found

theorem form_sound (found : (choice [columnForm, colorForm, operator] c).found = some (ps, next)) :
    ∃ (form : Form) (op : Run isOperatorChar), c.rest = form.text ++ (op.text ++ next.rest) ∧
      stops isOperatorChar next.rest = true ∧
      (form = .plain → (columnForm c).found = none ∧ (colorForm c).found = none) := by
  rcases orElse_found_iff.1 found with found | ⟨noColumn, found⟩
  · obtain ⟨_, found, -⟩ := rule_found_iff.1 found
    obtain ⟨gap_, op, whole, stop⟩ := keyword_sound found
    exact ⟨.column gap_, op, by simpa [Form.text, columnWord] using whole, stop, by simp⟩
  rcases orElse_found_iff.1 found with found | ⟨noColor, found⟩
  · obtain ⟨_, found, -⟩ := rule_found_iff.1 found
    obtain ⟨gap_, op, whole, stop⟩ := keyword_sound found
    exact ⟨.color gap_, op, by simpa [Form.text, colorWord] using whole, stop, by simp⟩
  rcases orElse_found_iff.1 found with found | ⟨-, found⟩
  · obtain ⟨_, _, sign, rfl, -⟩ := token_found_iff.1 found
    obtain ⟨whole, nonempty, inside, stop⟩ := Lexeme.run_eq_some_iff.1 sign
    exact ⟨.plain, ⟨_, nonempty, inside⟩, whole, stop, fun _ => ⟨noColumn, noColor⟩⟩
  · simp [choice] at found

theorem comparison_found (k : Clause) (ends : k.value.endsAt rest)
    (whole : c.rest = k.text ++ rest) :
    ∃ p, (comparison c).found = some ([p], c.advance k.text rest) ∧
      p.rule = .comparison ∧ p.comparison = .ok (k.comparison c.offset) := by
  rw [Clause.text, Clause.beforeValue, Clause.beforeOperator] at whole
  simp only [List.append_assoc] at whole
  have column : Lexeme.column c.rest = some (k.column.text, k.gap.text ++ (k.form.text ++
      (k.operator.text ++ (k.valueGap.text ++ (k.value.text ++ rest))))) := by
    rw [whole]
    exact Lexeme.run_append k.column.nonempty k.column.inside
      (k.gap.stops_text (fun _ => isColumnChar_space) _)
  have blanks := Lexeme.run_append k.gap.nonempty k.gap.inside
    (k.stops_form (fun _ => isSpace_operatorChar) (k.valueGap.text ++ (k.value.text ++ rest)))
  have blanks' := Lexeme.run_append k.valueGap.nonempty k.valueGap.inside
    (k.value.stops_isSpace rest)
  obtain ⟨p, form, isForm⟩ := form_found k.form k.operator k.valueGap
    (fun form special => k.stops_value form special rest) (k.value.stops_isSpace rest)
    (c := c.advance (k.column.text ++ k.gap.text) (k.form.text ++ (k.operator.text ++
      (k.valueGap.text ++ (k.value.text ++ rest))))) rfl
  obtain ⟨v, value, isValue, token⟩ := value_found k.value ends
    (c := c.advance k.beforeValue (k.value.text ++ rest)) rfl
  have found : (sequence [Grammar.column, gap, choice [columnForm, colorForm, operator], gap,
      Grammar.value] c).found = some ([⟨.column, c.offset, c.offset + byteLength k.column.text,
        k.column.text, []⟩, p, v], c.advance k.text rest) := by
    refine followedBy_token_iff.2 ⟨_, _, [p, v], column, ?_, rfl⟩
    refine followedBy_skip_iff.2 ⟨_, _, blanks, ?_⟩
    refine followedBy_found_iff.2 ⟨[p], _, [v], by simpa using form, ?_, rfl⟩
    refine followedBy_skip_iff.2 ⟨_, _, blanks', followedBy_nothing_iff.2 ?_⟩
    simpa [Clause.beforeValue, Clause.beforeOperator, Clause.text] using value
  refine ⟨_, rule_found found, rfl, ?_⟩
  rw [Phrase.comparison_eq_ok rfl isForm isValue token]
  simp [Phrase.string, Value.operand_token, Clause.comparison, Clause.placed,
    Clause.beforeOperator, Clause.text, Nat.add_assoc]

theorem comparison_sound (found : (comparison c).found = some (ps, next)) :
    ∃ k : Clause, c.rest = k.text ++ next.rest ∧ k.value.endsAt next.rest := by
  obtain ⟨_, found, -⟩ := rule_found_iff.1 found
  obtain ⟨column, atGap, _, columnRead, found, -⟩ := followedBy_token_iff.1 found
  obtain ⟨gap_, atForm, gapRead, found⟩ := followedBy_skip_iff.1 found
  obtain ⟨_, afterForm, _, formFound, found, -⟩ := followedBy_found_iff.1 found
  obtain ⟨valueGap, atValue, valueGapRead, found⟩ := followedBy_skip_iff.1 found
  obtain ⟨v, valueWhole, ends⟩ := value_sound (followedBy_nothing_iff.1 found)
  obtain ⟨form, op, formWhole, -, plain⟩ := form_sound formFound
  obtain ⟨columnWhole, someColumn, columnInside, -⟩ := Lexeme.run_eq_some_iff.1 columnRead
  obtain ⟨gapWhole, someGap, gapInside, -⟩ := Lexeme.run_eq_some_iff.1 gapRead
  obtain ⟨valueGapWhole, someValueGap, valueGapInside, -⟩ :=
    Lexeme.run_eq_some_iff.1 valueGapRead
  rw [Cursor.rest_advance] at gapWhole formWhole valueWhole
  rw [valueGapWhole, valueWhole] at formWhole
  let k : Clause :=
    { column := ⟨column, someColumn, columnInside⟩
      gap := ⟨gap_, someGap, gapInside⟩
      form := form
      operator := op
      valueGap := ⟨valueGap, someValueGap, valueGapInside⟩
      value := v
      unambiguous := fun isPlain special => by
        obtain ⟨noColumn, noColor⟩ := plain isPlain
        have start : stops isOperatorChar (v.text ++ next.rest) = true := by
          rw [isPlain, Form.text, List.nil_append] at formWhole
          rcases special with special | special
          · exact stops_of_keyword_lost op ⟨valueGap, someValueGap, valueGapInside⟩ special
              formWhole (rule_lost_iff.1 noColumn)
          · exact stops_of_keyword_lost op ⟨valueGap, someValueGap, valueGapInside⟩ special
              formWhole (rule_lost_iff.1 noColor)
        obtain ⟨d, ds, first⟩ := List.exists_cons_of_ne_nil v.text_ne_nil
        simpa [first] using start }
  refine ⟨k, ?_, ends⟩
  simp [k, Clause.text, Clause.beforeValue, Clause.beforeOperator, columnWhole, gapWhole,
    formWhole]

end Grammar

end InventoryQuery.Filter
