import InventoryQuery.Proofs.Filter.Expressions
import InventoryQuery.Proofs.Filter.Trials

/-! How far a reading looks. What is found leaves few trials: blanks, signs and names that
are found leave none, a value is tried only where it begins, and no rule inside a found
sentence is tried at its end or behind it. -/
namespace InventoryQuery.Filter

open Text (byteLength)
open Trial (Before)

namespace Recognizer

variable {a b : Recognizer} {c next : Cursor} {ps : List Phrase}

/-- A recognizer that leaves no trials where it finds something. -/
def Clean (a : Recognizer) : Prop :=
  ∀ ⦃c ps next⦄, (a c).found = some (ps, next) → (a c).trials = []

theorem clean_skip (l : Lexeme) : Clean (skip l) := fun _ _ _ _ => rfl

theorem clean_token (r : Rule) (l : Lexeme) : Clean (token r l) :=
  fun _ _ _ => trials_token_found

theorem clean_nothing : Clean nothing := fun _ _ _ _ => rfl

theorem clean_followedBy (first : Clean a) (second : Clean b) : Clean (followedBy a b) := by
  intro c ps last found
  obtain ⟨_, next, _, left, right, -⟩ := followedBy_found_iff.1 found
  rw [trials_followedBy_found left, first left, second right, List.append_nil]

theorem clean_sequence {parts : List Recognizer} (each : ∀ a ∈ parts, Clean a) :
    Clean (sequence parts) := by
  induction parts with
  | nil => exact clean_nothing
  | cons a parts ih =>
    rw [List.forall_mem_cons] at each
    exact clean_followedBy each.1 (ih each.2)

theorem clean_rule {r : Rule} (body : Clean a) : Clean (rule r a) := by
  intro c ps next found
  obtain ⟨parts, found, -⟩ := rule_found_iff.1 found
  rw [trials_rule_found found, body found]

theorem Clean.tries {P : Rule → Nat → Prop} (clean : Clean a)
    (found : (a c).found = some (ps, next)) : Tries P a c := by
  rw [Tries, clean found]
  exact List.forall_mem_nil _

/-- A reading that turns on another one: it leaves the same trials, and it fails when that
one fails. -/
structure TurnsOn (a : Recognizer) (c : Cursor) (b : Recognizer) (d : Cursor) : Prop where
  trials_eq : (a c).trials = (b d).trials
  lost : (b d).found = none → (a c).found = none

theorem TurnsOn.trans {a b e : Recognizer} {c d f : Cursor} (first : TurnsOn a c b d)
    (second : TurnsOn b d e f) : TurnsOn a c e f :=
  ⟨first.trials_eq.trans second.trials_eq, fun lost => first.lost (second.lost lost)⟩

theorem TurnsOn.tries {P : Rule → Nat → Prop} {d : Cursor} (turns : TurnsOn a c b d)
    (tries : Tries P b d) : Tries P a c := by
  rw [Tries, turns.trials_eq]
  exact tries

theorem Clean.turnsOn (clean : Clean a) (found : (a c).found = some (ps, next))
    (b : Recognizer) : TurnsOn (followedBy a b) c b next where
  trials_eq := by rw [trials_followedBy_found found, clean found, List.nil_append]
  lost := followedBy_lost_second found

theorem turnsOn_followedBy_nothing (a : Recognizer) (c : Cursor) :
    TurnsOn (followedBy a nothing) c a c where
  trials_eq := by
    cases found : (a c).found with
    | none => exact trials_followedBy_lost found
    | some split => simp [trials_followedBy_found found]
  lost := followedBy_lost

end Recognizer

namespace Grammar

open Recognizer

variable {e : Recognizer} {c next : Cursor} {rest : List Char} {ps : List Phrase} {p : Nat}

theorem clean_spaces : Clean spaces := clean_skip _

theorem clean_gap : Clean gap := clean_skip _

theorem clean_column : Clean column := clean_token _ _

theorem clean_comma : Clean comma := clean_token _ _

theorem clean_connective : Clean connective := clean_token _ _

theorem clean_openParen : Clean openParen := clean_token _ _

theorem clean_keyword (r : Rule) (keyword : List Char) :
    Clean (sequence [token r (.exact keyword), gap, operator]) :=
  clean_sequence (by simp [clean_token, clean_gap, operator])

theorem clean_columnForm : Clean columnForm := clean_rule (clean_keyword _ _)

theorem clean_colorForm : Clean colorForm := clean_rule (clean_keyword _ _)

theorem column_turnsOn (column_ : Run isColumnChar) (gap_ : Run isSpace) (b : Recognizer)
    (blankless : stops isSpace rest = true)
    (whole : c.rest = column_.text ++ (gap_.text ++ rest)) :
    TurnsOn (followedBy column (followedBy gap b)) c b
      (c.advance (column_.text ++ gap_.text) rest) := by
  have read : Lexeme.column c.rest = some (column_.text, gap_.text ++ rest) := by
    rw [whole]
    exact Lexeme.run_append column_.nonempty column_.inside
      (gap_.stops_text (fun _ => isColumnChar_space) _)
  have blanks := Lexeme.run_append gap_.nonempty gap_.inside blankless
  have behind := clean_gap.turnsOn (skip_found_iff.2 ⟨_, _, blanks, rfl, rfl⟩) b
    (c := c.advance column_.text (gap_.text ++ rest))
  rw [Cursor.advance_advance] at behind
  exact (clean_column.turnsOn (token_found_iff.2 ⟨_, _, read, rfl, rfl⟩) _).trans behind

theorem tail_turnsOn (before after : Blanks) (blankless : stops isSpace rest = true)
    (whole : c.rest = before.text ++ ',' :: (after.text ++ rest)) :
    TurnsOn (sequence [spaces, comma, spaces, e]) c e
      (c.advance (before.text ++ ',' :: after.text) rest) := by
  have found₁ := spaces_found before rfl whole
  obtain ⟨_, found₂, -⟩ := exact_found (r := .comma) [',']
    (c := c.advance before.text (',' :: (after.text ++ rest))) rfl
  have found₃ := spaces_found (c := (c.advance before.text (',' :: (after.text ++ rest))).advance
    [','] (after.text ++ rest)) after blankless rfl
  have last := turnsOn_followedBy_nothing e (c.advance (before.text ++ ',' :: after.text) rest)
  refine (clean_spaces.turnsOn found₁ _).trans ((clean_comma.turnsOn found₂ _).trans
    ((clean_spaces.turnsOn found₃ _).trans ?_))
  simpa [Recognizer.sequence] using last

theorem opening_turnsOn (op : Connective) (beforeParen afterParen : Blanks) (b : Recognizer)
    (blankless : stops isSpace rest = true)
    (whole : c.rest = opening op beforeParen afterParen ++ rest) :
    TurnsOn (followedBy connective (followedBy spaces (followedBy openParen (followedBy spaces b))))
      c b (c.advance (opening op beforeParen afterParen) rest) := by
  simp only [opening, List.append_assoc, List.cons_append] at whole
  obtain ⟨_, found₁, -⟩ := connective_found whole
  have found₂ := spaces_found (c := c.advance op.keyword.toList (beforeParen.text ++ '(' ::
    (afterParen.text ++ rest))) beforeParen (show stops isSpace ('(' :: _) = true from rfl) rfl
  obtain ⟨_, found₃, -⟩ := exact_found (r := .openParen) ['('] (c := (c.advance op.keyword.toList
    (beforeParen.text ++ '(' :: (afterParen.text ++ rest))).advance beforeParen.text
      ('(' :: (afterParen.text ++ rest))) rfl
  have found₄ := spaces_found (c := ((c.advance op.keyword.toList
    (beforeParen.text ++ '(' :: (afterParen.text ++ rest))).advance beforeParen.text
      ('(' :: (afterParen.text ++ rest))).advance ['('] (afterParen.text ++ rest))
    afterParen blankless rfl
  have all := (clean_connective.turnsOn found₁ _).trans ((clean_spaces.turnsOn found₂ _).trans
    ((clean_openParen.turnsOn found₃ _).trans (clean_spaces.turnsOn found₄ b)))
  simpa [opening] using all

theorem early_value (start : c.offset < p) : Early p value c := by
  have here {r : Rule} {l : Lexeme} : Early p (token r l) c := tries_token fun _ => start
  exact tries_rule start (tries_orElse
    (tries_rule start (tries_orElse tries_quotedBy (tries_orElse tries_quotedBy tries_failure)))
    (tries_orElse here (tries_orElse here (tries_orElse here (tries_orElse here tries_failure)))))

theorem early_keyword {r : Rule} {keyword : List Char} (letters : keyword.all isOperatorChar = true)
    (op : Run isOperatorChar) (gap_ : Run isSpace) (start : c.offset < p)
    (behind : op.text = keyword → c.offset + byteLength (op.text ++ gap_.text) < p)
    (blankless : stops isSpace rest = true) (whole : c.rest = op.text ++ (gap_.text ++ rest)) :
    Early p (sequence [token r (.exact keyword), gap, operator]) c := by
  refine tries_followedBy (tries_token fun _ => start) fun _ d₁ found₁ => ?_
  refine tries_followedBy (tries_skip _) fun _ d₂ found₂ => ?_
  refine tries_followedBy (tries_token fun _ => ?_) fun _ _ _ => tries_nothing
  obtain ⟨same, rfl⟩ := keyword_gap letters op gap_ blankless whole found₁ found₂
  exact behind same

theorem early_form (form : Form) (op : Run isOperatorChar) (gap_ : Run isSpace)
    (start : c.offset < p)
    (behind : form = .plain → op.text = columnWord ∨ op.text = colorWord →
      c.offset + byteLength (op.text ++ gap_.text) < p)
    (blankless : stops isSpace rest = true)
    (whole : c.rest = form.text ++ (op.text ++ (gap_.text ++ rest))) :
    Early p (choice [columnForm, colorForm, operator]) c := by
  have stop := gap_.stops_text (q := isOperatorChar) (fun _ => isOperatorChar_space) rest
  cases form with
  | plain =>
    rw [Form.text, List.nil_append] at whole
    refine tries_orElse (tries_rule start ?_) (tries_orElse (tries_rule start ?_)
      (tries_orElse (tries_token fun _ => start) tries_failure))
    · exact early_keyword (by decide) op gap_ start (fun same => behind rfl (.inl same)) blankless
        whole
    · exact early_keyword (by decide) op gap_ start (fun same => behind rfl (.inr same)) blankless
        whole
  | column formGap =>
    have found : (columnForm c).found = _ := rule_found (keyword_found columnWord formGap op stop
      (by simpa [Form.text] using whole))
    exact tries_orElse_found found (clean_columnForm.tries found)
  | color formGap =>
    have split : c.rest = colorWord ++ (formGap.text ++ (op.text ++ (gap_.text ++ rest))) := by
      simpa [Form.text] using whole
    have other : (columnForm c).found = none := by
      refine rule_lost_iff.2 (followedBy_lost (token_lost (Lexeme.exact_eq_none ?_)))
      simp [split, colorWord]
    have found : (colorForm c).found = _ := rule_found (keyword_found colorWord formGap op stop split)
    refine tries_orElse ?_ (tries_orElse_found found (clean_colorForm.tries found))
    -- The word `color` stands where `column` is tried.
    exact tries_rule start (early_keyword (by decide) (.ofText colorWord rfl) formGap start
      (fun same => absurd same (by decide)) (op.stops_text (fun _ => isSpace_operatorChar) _) split)

theorem early_group_of_column (name : Run isColumnChar) (gap_ : Run isSpace)
    (blankless : stops isSpace rest = true) (closed : stops (· == '(') rest = true)
    (whole : c.rest = name.text ++ (gap_.text ++ rest))
    (reach : c.offset + byteLength (name.text ++ gap_.text) < p) :
    Early p (group e) c := by
  have start : c.offset < p := by omega
  refine tries_rule start (tries_followedBy (tries_token fun _ => start) fun _ d₁ found₁ => ?_)
  refine tries_followedBy (tries_skip _) fun _ d₂ found₂ => ?_
  obtain ⟨noParen, near⟩ := noParen_of_column blankless closed whole found₁ found₂
  refine tries_followedBy (tries_token fun _ => Nat.lt_of_le_of_lt near reach) fun _ _ found₃ => ?_
  have lost : (openParen d₂).found = none := exact_lost noParen
  simp [lost] at found₃

theorem comparison_trials (k : Clause) (blankless : stops isSpace rest = true)
    (alone : k.form = .plain → k.operator.text = columnWord ∨ k.operator.text = colorWord →
      stops isOperatorChar rest = true)
    (whole : c.rest = k.beforeValue ++ rest) (reach : c.offset + byteLength k.beforeValue ≤ p)
    (behind : k.form = .plain → k.operator.text = columnWord ∨ k.operator.text = colorWord →
      c.offset + byteLength k.beforeValue < p) :
    ∃ ts, Before p ts ∧
      (sequence [column, gap, choice [columnForm, colorForm, operator], gap, value] c).trials =
        ts ++ (value (c.advance k.beforeValue rest)).trials ∧
      ((value (c.advance k.beforeValue rest)).found = none → (comparison c).found = none) := by
  have split : c.rest = k.column.text ++ (k.gap.text ++
      (k.form.text ++ (k.operator.text ++ (k.valueGap.text ++ rest)))) := by
    simpa [Clause.beforeValue, Clause.beforeOperator] using whole
  have turns := column_turnsOn k.column k.gap
    (sequence [choice [columnForm, colorForm, operator], gap, value])
    (k.stops_form (fun _ => isSpace_operatorChar) (k.valueGap.text ++ rest)) split
  let atForm := c.advance (k.column.text ++ k.gap.text)
    (k.form.text ++ (k.operator.text ++ (k.valueGap.text ++ rest)))
  obtain ⟨f, form, -⟩ := form_found k.form k.operator k.valueGap alone blankless
    (c := atForm) rfl
  have blanks := Lexeme.run_append k.valueGap.nonempty k.valueGap.inside blankless
  have last := (clean_gap.turnsOn (skip_found_iff.2 ⟨_, _, blanks, rfl, rfl⟩) _
    (c := atForm.advance (k.form.text ++ k.operator.text) (k.valueGap.text ++ rest))).trans
      (turnsOn_followedBy_nothing value _)
  have atValue : (atForm.advance (k.form.text ++ k.operator.text)
      (k.valueGap.text ++ rest)).advance k.valueGap.text rest = c.advance k.beforeValue rest := by
    simp [atForm, Clause.beforeValue, Clause.beforeOperator]
  rw [atValue] at last
  have valueGap := Text.byteLength_pos k.valueGap.nonempty
  refine ⟨(choice [columnForm, colorForm, operator] atForm).trials, ?_, ?_, fun lost => ?_⟩
  · refine early_form k.form k.operator k.valueGap ?_ (fun form special => ?_) blankless rfl
    · simp only [atForm, Clause.beforeValue, Clause.beforeOperator, Cursor.offset_advance,
        Text.byteLength_append] at reach ⊢
      omega
    · have near := behind form special
      simpa [atForm, Clause.beforeValue, Clause.beforeOperator, form, Form.text, Nat.add_assoc]
        using near
  · rw [Recognizer.sequence, Recognizer.sequence, turns.trials_eq, Recognizer.sequence,
      trials_followedBy_found form]
    exact congrArg _ last.trials_eq
  · exact rule_lost_iff.2 (turns.lost (followedBy_lost_second form (last.lost lost)))

theorem early_comparison (k : Clause) (whole : c.rest = k.text ++ rest)
    (reach : c.offset + byteLength k.text ≤ p) : Early p comparison c := by
  have value := Text.byteLength_pos k.value.text_ne_nil
  rw [Clause.text, Text.byteLength_append] at reach
  obtain ⟨ts, before, trials, -⟩ := comparison_trials (p := p) k (k.value.stops_isSpace rest)
    (fun form special => k.stops_value form special rest)
    (by rw [whole, Clause.text, List.append_assoc]) (by omega) (fun _ _ => by omega)
  refine tries_rule (show c.offset < p by omega) ?_
  rw [Tries, trials]
  exact Trial.before_append.2 ⟨before, early_value (by rw [Cursor.offset_advance]; omega)⟩

mutual

theorem early_expression : (s : Sentence) → {c : Cursor} → {rest : List Char} → {p : Nat} →
    c.rest = s.text ++ rest → c.offset + byteLength s.text ≤ p → Early p expression c
  | .group op beforeParen afterParen m beforeClose, c, rest, p, whole, reach => by
    obtain ⟨_, found⟩ := group_phrase op beforeParen afterParen m beforeClose whole
    rw [Sentence.text, List.append_assoc, List.append_assoc, List.append_assoc] at whole
    have opened := opening_turnsOn op beforeParen afterParen
      (sequence [members expression, spaces, closeParen]) (stops_isSpace_members m _) whole
    let d := c.advance (opening op beforeParen afterParen)
      (m.text ++ (beforeClose.text ++ ')' :: rest))
    have close : d.offset + byteLength (m.text ++ beforeClose.text) < p := by
      have paren : 0 < byteLength [')'] := by decide
      simp only [d, Sentence.text, Cursor.offset_advance, Text.byteLength_append] at reach ⊢
      omega
    have start : c.offset < p := by
      simp only [d, Cursor.offset_advance] at close
      omega
    obtain ⟨first, others⟩ := early_members m beforeClose (c := d) rfl close
    obtain ⟨_, inner⟩ := members_phrase m beforeClose (c := d) rfl
    have atClose := spaces_found (c := d.advance m.text (beforeClose.text ++ ')' :: rest))
      beforeClose (show stops isSpace (')' :: rest) = true from rfl) rfl
    refine tries_of_eq (expression_eq c)
      (tries_rule start (tries_orElse_found found (tries_rule start ?_)))
    refine opened.tries (tries_followedBy_found (tries_rule (show d.offset < p by omega) ?_) inner ?_)
    · exact tries_followedBy first fun ps next found =>
        tries_followedBy (others ps next found) fun _ _ _ => tries_nothing
    refine tries_followedBy_found (tries_skip _) atClose ?_
    refine tries_followedBy (tries_token fun _ => ?_) fun _ _ _ => tries_nothing
    simpa [Nat.add_assoc] using close
  | .comparison k, c, rest, p, whole, reach => by
    rw [Sentence.text] at whole reach
    have split : c.rest = k.column.text ++ (k.gap.text ++ (k.form.text ++ (k.operator.text ++
        (k.valueGap.text ++ (k.value.text ++ rest))))) := by
      simpa [Clause.text, Clause.beforeValue, Clause.beforeOperator] using whole
    have near : c.offset + byteLength (k.column.text ++ k.gap.text) < p := by
      have operator := Text.byteLength_pos k.operator.nonempty
      simp only [Clause.text, Clause.beforeValue, Clause.beforeOperator,
        Text.byteLength_append] at reach ⊢
      omega
    have noGroup := early_group_of_column (e := expression) k.column k.gap
      (k.stops_form (fun _ => isSpace_operatorChar) _)
      (k.stops_form (fun _ => isOperatorChar_paren) _) split near
    exact tries_of_eq (expression_eq c) (tries_rule (show c.offset < p by omega)
      (tries_orElse noGroup (tries_orElse (early_comparison k whole reach) tries_failure)))

theorem early_members : (m : Members) → {c : Cursor} → {tail : List Char} → {p : Nat} →
    (blanks : Blanks) → c.rest = m.text ++ (blanks.text ++ ')' :: tail) →
    c.offset + byteLength (m.text ++ blanks.text) < p → Early p expression c ∧
      ∀ ps next, (expression c).found = some (ps, next) →
        Early p (repeated (sequence [spaces, comma, spaces, expression])) next
  | .one s, c, tail, p, blanks, whole, reach => by
    rw [Members.text] at whole reach
    rw [Text.byteLength_append] at reach
    refine ⟨early_expression s whole (by omega), fun ps next found => ?_⟩
    have ends := endsAt_of_atTerminator (atTerminator_blanks blanks
      (show atTerminator (')' :: tail) = true from rfl)) s
    obtain ⟨_, again, -⟩ := expression_found s ends whole
    obtain ⟨-, rfl⟩ := Prod.mk.inj (Option.some.inj (again.symm.trans found))
    have atClose := spaces_found (c := c.advance s.text (blanks.text ++ ')' :: tail)) blanks
      (show stops isSpace (')' :: tail) = true from rfl) rfl
    have noComma := exact_lost (r := .comma) (d := ',') (c := (c.advance s.text
      (blanks.text ++ ')' :: tail)).advance blanks.text (')' :: tail)) (by simp)
    have lost : (sequence [spaces, comma, spaces, expression]
        (c.advance s.text (blanks.text ++ ')' :: tail))).found = none :=
      followedBy_lost_second atClose (followedBy_lost noComma)
    refine tries_repeated_lost lost (tries_followedBy_found (tries_skip _) atClose
      (tries_followedBy (tries_token fun _ => ?_) fun _ _ also => ?_))
    · simpa [Nat.add_assoc] using reach
    · exact absurd (also.symm.trans noComma) (by simp)
  | .more s before after m, c, tail, p, blanks, whole, reach => by
    rw [Members.text] at whole reach
    simp only [List.append_assoc, List.cons_append] at whole
    have near : c.offset + byteLength s.text ≤ p := by
      simp only [Text.byteLength_append] at reach
      omega
    refine ⟨early_expression s whole near, fun ps next found => ?_⟩
    have ends := endsAt_of_atTerminator (atTerminator_blanks before
      (show atTerminator (',' :: (after.text ++ (m.text ++ (blanks.text ++ ')' :: tail)))) = true
        from rfl)) s
    obtain ⟨_, again, -⟩ := expression_found s ends whole
    obtain ⟨-, rfl⟩ := Prod.mk.inj (Option.some.inj (again.symm.trans found))
    let d := c.advance (s.text ++ (before.text ++ ',' :: after.text))
      (m.text ++ (blanks.text ++ ')' :: tail))
    obtain ⟨first, others⟩ := early_members m blanks (c := d) (p := p) rfl (by
      simpa [d, Nat.add_assoc] using reach)
    obtain ⟨_, _, next, inner, -⟩ := members_found m blanks (c := d) rfl
    obtain ⟨_, step, -, shorter⟩ := tail_found advances_expression before after
      (stops_isSpace_members m _) (c := c.advance s.text _) (by simpa [d] using inner) rfl
    have turns := tail_turnsOn (e := expression) before after (stops_isSpace_members m _)
      (c := c.advance s.text (before.text ++ ',' :: (after.text ++
        (m.text ++ (blanks.text ++ ')' :: tail))))) rfl
    rw [Cursor.advance_advance] at turns
    exact tries_repeated_found step shorter (turns.tries first) (others _ _ inner)

end

end Grammar

end InventoryQuery.Filter
