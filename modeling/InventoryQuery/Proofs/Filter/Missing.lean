import InventoryQuery.Proofs.Filter.Layout
import InventoryQuery.Proofs.Filter.Reach

/-! Comparisons without a value. Where a value is missing, the grammar gives up the comparison
and every group around it, and tries again what else could stand there; but all of that
begins before the gap, so the blame stays where the value should begin. -/
namespace InventoryQuery.Filter

open Text (byteLength)
open Trial (Before)
open Blame (Settled)

def isClosing (c : Char) : Bool := c == ',' || c == ')'

/-- Whether a text is at its end or goes on with a comma or a closing parenthesis. -/
def Ended (cs : List Char) : Prop := stops (fun c => !isClosing c) cs = true

theorem isClosing_iff {c : Char} : isClosing c = true ↔ c = ',' ∨ c = ')' := by
  simp [isClosing]

theorem Ended.stops {q : Char → Bool} (comma : q ',' = false) (paren : q ')' = false)
    {cs : List Char} (ended : Ended cs) : stops q cs = true := by
  refine stops_mono (fun c inside => ?_) ended
  cases closing : isClosing c with
  | false => rfl
  | true =>
    rcases isClosing_iff.1 closing with rfl | rfl
    · simp [comma] at inside
    · simp [paren] at inside

def Clause.widen (k : Clause) (blanks : Blanks) : Clause :=
  { k with valueGap :=
      { text := k.valueGap.text ++ blanks.text
        nonempty := List.append_ne_nil_of_left_ne_nil k.valueGap.nonempty _
        inside := List.forall_mem_append.2 ⟨k.valueGap.inside, blanks.inside⟩ } }

theorem Clause.beforeValue_widen (k : Clause) (blanks : Blanks) :
    (k.widen blanks).beforeValue = k.beforeValue ++ blanks.text := by
  simp [beforeValue, beforeOperator, widen]

/-- A clause whose operator is not one of the words `column` and `color`. -/
def Clause.Clear (k : Clause) : Prop :=
  k.form = .plain → k.operator.text ≠ columnWord ∧ k.operator.text ≠ colorWord

/-- A reading that fails and is blamed on one rule at an offset. -/
structure Recognizer.Misses (a : Recognizer) (c : Cursor) (missed : Rule) (p : Nat) : Prop where
  lost : (a c).found = none
  settled : Settled ⟨p, [missed]⟩ (a c).trials

namespace Recognizer

variable {a b : Recognizer} {c next : Cursor} {missed : Rule} {p : Nat}

namespace Misses

theorem of_eq (same : a c = b c) (misses : Misses b c missed p) : Misses a c missed p :=
  ⟨same ▸ misses.lost, same ▸ misses.settled⟩

theorem rule (misses : Misses a c missed p) (r : Rule) (start : c.offset < p) :
    Misses (Recognizer.rule r a) c missed p where
  lost := rule_lost_iff.2 misses.lost
  settled := by
    rw [trials_rule_lost misses.lost]
    exact misses.settled.inside r start

theorem followedBy (misses : Misses a c missed p) (b : Recognizer) :
    Misses (Recognizer.followedBy a b) c missed p where
  lost := followedBy_lost misses.lost
  settled := by
    rw [trials_followedBy_lost misses.lost]
    exact misses.settled

theorem followedBy_second {ps : List Phrase} (found : (a c).found = some (ps, next))
    (early : Early p a c) (misses : Misses b next missed p) :
    Misses (Recognizer.followedBy a b) c missed p where
  lost := followedBy_lost_second found misses.lost
  settled := by
    rw [trials_followedBy_found found]
    exact misses.settled.prepend early

theorem of_turnsOn {d : Cursor} (turns : TurnsOn a c b d) (misses : Misses b d missed p) :
    Misses a c missed p where
  lost := turns.lost misses.lost
  settled := turns.trials_eq ▸ misses.settled

theorem orElse_second (lost : (a c).found = none) (early : Early p a c)
    (misses : Misses b c missed p) : Misses (orElse a b) c missed p where
  lost := (orElse_lost lost).trans misses.lost
  settled := by
    rw [trials_orElse_lost lost]
    exact misses.settled.prepend early

theorem orElse_first (misses : Misses a c missed p) (lost : (b c).found = none)
    (early : Early p b c) : Misses (orElse a b) c missed p where
  lost := (orElse_lost misses.lost).trans lost
  settled := by
    rw [trials_orElse_lost misses.lost]
    exact misses.settled.append early

end Misses

end Recognizer

namespace Grammar

open Recognizer

variable {e : Recognizer} {c next : Cursor} {rest : List Char} {ps : List Phrase} {p : Nat}

theorem value_misses (ended : Ended c.rest) : Misses value c .value c.offset := by
  have noQuote := quoted_lost (ended.stops (q := isQuote) (by decide) (by decide))
  have start := ended.stops (q := isWordStart) (by decide) (by decide)
  have noNetwork : (network c).found = none := token_lost (Lexeme.network_wordStart start)
  have noNumber : (number c).found = none := token_lost (Lexeme.number_wordStart start)
  have noBoolean : (boolean c).found = none := token_lost (Lexeme.boolean_wordStart start)
  have noWord : (word c).found = none := token_lost (Lexeme.word_wordStart start)
  have lost : (choice [quoted, network, number, boolean, word] c).found = none := by
    rw [choice, orElse_lost noQuote]
    exact word_lost start
  refine ⟨rule_lost_iff.2 lost, ?_⟩
  have quotes : (choice [quotedBy .singleQuotedText '\'', quotedBy .doubleQuotedText '"'] c).trials =
      [] :=
    trials_eq_nil (tries_orElse tries_quotedBy (tries_orElse tries_quotedBy tries_failure))
  have noted : (choice [quoted, network, number, boolean, word] c).trials =
      Blame.leaves c.offset [.quoted, .network, .number, .boolean, .word] := by
    rw [choice, trials_orElse_lost noQuote, choice, trials_orElse_lost noNetwork, choice,
      trials_orElse_lost noNumber, choice, trials_orElse_lost noBoolean, choice,
      trials_orElse_lost noWord, quoted, trials_rule_lost (rule_lost_iff.1 noQuote), quotes,
      network, trials_token_lost noNetwork, number, trials_token_lost noNumber, boolean,
      trials_token_lost noBoolean, word, trials_token_lost noWord]
    rfl
  -- Where several of its classes fail the value speaks for them.
  rw [value, trials_rule_lost lost, noted]
  exact Blame.settled_alternatives .value c.offset (by decide)

theorem comparison_misses (k : Clause) (clear : k.Clear) (blanks : Blanks) (ended : Ended rest)
    (whole : c.rest = k.beforeValue ++ (blanks.text ++ rest)) :
    Misses comparison c .value (c.offset + byteLength (k.beforeValue ++ blanks.text)) := by
  have never (form : k.form = .plain) {P : Prop}
      (special : k.operator.text = columnWord ∨ k.operator.text = colorWord) : P :=
    (special.elim (clear form).1 (clear form).2).elim
  rw [← List.append_assoc, ← k.beforeValue_widen blanks] at whole
  have missing := value_misses (c := c.advance (k.widen blanks).beforeValue rest) ended
  obtain ⟨ts, before, trials, lost⟩ := comparison_trials (k.widen blanks)
    (ended.stops (by decide) (by decide)) (fun form => never form) whole (Nat.le_refl _)
    (fun form => never form)
  rw [← k.beforeValue_widen blanks]
  refine ⟨lost missing.lost, ?_⟩
  rw [comparison, trials_rule_lost (rule_lost_iff.1 (lost missing.lost)), trials]
  refine (missing.settled.prepend before).inside .comparison ?_
  have valueGap := Text.byteLength_pos (k.widen blanks).valueGap.nonempty
  simp only [Cursor.offset_advance, Clause.beforeValue, Text.byteLength_append]
  omega

theorem expression_misses_of_clause (k : Clause) (clear : k.Clear) (blanks : Blanks)
    (ended : Ended rest) (whole : c.rest = k.beforeValue ++ (blanks.text ++ rest)) :
    Misses expression c .value (c.offset + byteLength (k.beforeValue ++ blanks.text)) := by
  have split : c.rest = k.column.text ++ (k.gap.text ++ (k.form.text ++ (k.operator.text ++
      (k.valueGap.text ++ (blanks.text ++ rest))))) := by
    simpa [Clause.beforeValue, Clause.beforeOperator] using whole
  have spaceless := k.stops_form (p := isSpace) (fun _ => isSpace_operatorChar)
    (k.valueGap.text ++ (blanks.text ++ rest))
  have closed := k.stops_form (fun _ => isOperatorChar_paren)
    (k.valueGap.text ++ (blanks.text ++ rest))
  have near : byteLength (k.column.text ++ k.gap.text) <
      byteLength (k.beforeValue ++ blanks.text) := by
    have operator := Text.byteLength_pos k.operator.nonempty
    simp only [Clause.beforeValue, Clause.beforeOperator, Text.byteLength_append]
    omega
  have noGroup := group_lost_of_column (e := expression) k.column k.gap spaceless closed split
  have early := early_group_of_column (e := expression) k.column k.gap spaceless closed split
    (Nat.add_lt_add_left near c.offset)
  have missing := (comparison_misses k clear blanks ended whole).orElse_first
    (b := choice []) rfl Trial.before_nil
  exact .of_eq (expression_eq c) ((missing.orElse_second noGroup early).rule .expression (by omega))

theorem form_lost (stop : stops isOperatorChar c.rest = true) (start : c.offset < p) :
    (choice [columnForm, colorForm, operator] c).found = none ∧
      Early p (choice [columnForm, colorForm, operator]) c := by
  have noKeyword {r : Rule} {letters : List Char} :
      (token r (.exact ('c' :: letters)) c).found = none := by
    refine token_lost (Lexeme.exact_eq_none ?_)
    rintro ⟨tail, same⟩
    rw [← same, List.cons_append, stops_cons] at stop
    exact absurd stop (by decide)
  have keyword {r : Rule} {letters : List Char} : Early p
      (sequence [token r (.exact ('c' :: letters)), gap, operator]) c :=
    tries_followedBy (tries_token fun _ => start) fun _ _ found =>
      absurd (noKeyword.symm.trans found) (by simp)
  have noColumn : (columnForm c).found = none := rule_lost_iff.2 (followedBy_lost noKeyword)
  have noColor : (colorForm c).found = none := rule_lost_iff.2 (followedBy_lost noKeyword)
  have noOperator : (operator c).found = none := token_lost (Lexeme.run_eq_none_iff.2 stop)
  constructor
  · rw [choice, orElse_lost noColumn, choice, orElse_lost noColor, choice, orElse_lost noOperator,
      choice, found_failure]
  · exact tries_orElse (tries_rule start keyword) (tries_orElse (tries_rule start keyword)
      (tries_orElse (tries_token fun _ => start) tries_failure))

theorem comparison_lost_of_opening (op : Connective) (beforeParen afterParen : Blanks)
    (whole : c.rest = opening op beforeParen afterParen ++ rest)
    (reach : c.offset + byteLength (opening op beforeParen afterParen) ≤ p) :
    (comparison c).found = none ∧ Early p comparison c := by
  let behind := '(' :: (afterParen.text ++ rest)
  have split : c.rest = op.keyword.toList ++ (beforeParen.text ++ behind) := by
    simpa [opening] using whole
  have near : c.offset + byteLength (op.keyword.toList ++ beforeParen.text) < p := by
    have paren : 0 < Char.utf8Size '(' := by decide
    simp only [opening, Text.byteLength_append, Text.byteLength_cons] at reach ⊢
    omega
  have start : c.offset < p := by omega
  have column_ : Lexeme.column c.rest = some (op.keyword.toList, beforeParen.text ++ behind) := by
    rw [split]
    refine Lexeme.run_append (by cases op <;> simp [Connective.keyword])
      op.isColumnChar_keyword ?_
    cases text : beforeParen.text with
    | nil => rfl
    | cons d ds => simp [isColumnChar_space (beforeParen.inside d (by simp [text]))]
  have found₁ : (column c).found = _ := token_found_iff.2 ⟨_, _, column_, rfl, rfl⟩
  -- There may be no blanks behind the connective, and then already the gap is missing.
  have atForm {ps : List Phrase} {d : Cursor}
      (found₂ : (gap (c.advance op.keyword.toList (beforeParen.text ++ behind))).found =
        some (ps, d)) : d = c.advance (op.keyword.toList ++ beforeParen.text) behind := by
    obtain ⟨taken, rest', read, -, rfl⟩ := skip_found_iff.1 found₂
    obtain ⟨whole', -, inside, stop⟩ := Lexeme.run_eq_some_iff.1 read
    have expected := takeWhile_append_stops (p := isSpace) beforeParen.inside
      (show stops isSpace behind = true from rfl)
    rw [Cursor.rest_advance] at whole'
    rw [whole', takeWhile_append_stops inside stop] at expected
    subst expected
    rw [List.append_cancel_left whole', Cursor.advance_advance]
  obtain ⟨noForm, early⟩ := form_lost (p := p)
    (c := c.advance (op.keyword.toList ++ beforeParen.text) behind)
    (show stops isOperatorChar ('(' :: _) = true from rfl) near
  constructor
  · refine rule_lost_iff.2 (followedBy_lost_second found₁ ?_)
    cases found₂ : (gap (c.advance op.keyword.toList (beforeParen.text ++ behind))).found with
    | none => exact followedBy_lost found₂
    | some split =>
      exact followedBy_lost_second found₂ (followedBy_lost (atForm found₂ ▸ noForm))
  · refine tries_rule start (tries_followedBy_found (tries_token fun _ => start) found₁ ?_)
    refine tries_followedBy (tries_skip _) fun _ d found₂ => ?_
    obtain rfl := atForm found₂
    exact tries_followedBy early fun _ _ found₃ => absurd (noForm.symm.trans found₃) (by simp)

/-- Members that are blamed on a value: on that of the first one, or on that of a later one,
and then those before it are read up to the comma in front of it. -/
inductive StuckAt (c : Cursor) (p : Nat) : Prop
  | first (misses : Misses expression c .value p)
  | later {q : Phrase} {ps : List Phrase} {next last : Cursor} {blanks : Blanks}
    {rest : List Char} (found : (expression c).found = some ([q], next))
    (before : Early p expression c)
    (more : (repeated (sequence [spaces, comma, spaces, expression]) next).found = some (ps, last))
    (settled : Settled ⟨p, [.value]⟩
      (repeated (sequence [spaces, comma, spaces, expression]) next).trials)
    (comma : last.rest = blanks.text ++ ',' :: rest)
    (reach : last.offset + byteLength blanks.text < p)

theorem group_misses (op : Connective) (beforeParen afterParen : Blanks)
    (blankless : stops isSpace rest = true)
    (whole : c.rest = opening op beforeParen afterParen ++ rest)
    (reach : c.offset + byteLength (opening op beforeParen afterParen) < p)
    (stuck : StuckAt (c.advance (opening op beforeParen afterParen) rest) p) :
    Misses (group expression) c .value p := by
  have turns := opening_turnsOn op beforeParen afterParen
    (sequence [members expression, spaces, closeParen]) blankless whole
  refine Misses.rule (.of_turnsOn turns ?_) .group (by omega)
  cases stuck with
  | first misses => exact ((misses.followedBy _).rule .members reach).followedBy _
  | @later q ps next last blanks rest' found before more settled comma near =>
    let d := c.advance (opening op beforeParen afterParen) rest
    have body : (sequence [expression, repeated (sequence [spaces, Grammar.comma, spaces,
        expression])] d).found = some ([q] ++ ps, last) :=
      followedBy_found_iff.2 ⟨[q], next, ps, found, followedBy_nothing_iff.2 more, rfl⟩
    have inner : (members expression d).found = _ := rule_found body
    have atComma := spaces_found (c := last) blanks (show stops isSpace (',' :: rest') = true from rfl)
      comma
    have noClose : (closeParen (last.advance blanks.text (',' :: rest'))).found = none :=
      exact_lost (by simp)
    refine ⟨followedBy_lost_second inner (followedBy_lost_second atComma
      (followedBy_lost noClose)), ?_⟩
    rw [Recognizer.sequence, trials_followedBy_found inner]
    refine Settled.append ?_ ?_
    · rw [members, trials_rule_found body, Recognizer.sequence, trials_followedBy_found found,
        Recognizer.sequence, Recognizer.sequence, (turnsOn_followedBy_nothing _ next).trials_eq]
      exact settled.prepend before
    · have early : Early p (sequence [spaces, closeParen]) last :=
        tries_followedBy_found (tries_skip _) atComma (tries_followedBy
          (tries_token fun _ => near) fun _ _ also => absurd (noClose.symm.trans also) (by simp))
      exact early

theorem expression_misses_of_group (op : Connective) (beforeParen afterParen : Blanks)
    (blankless : stops isSpace rest = true)
    (whole : c.rest = opening op beforeParen afterParen ++ rest)
    (reach : c.offset + byteLength (opening op beforeParen afterParen) < p)
    (stuck : StuckAt (c.advance (opening op beforeParen afterParen) rest) p) :
    Misses expression c .value p := by
  have missing := group_misses op beforeParen afterParen blankless whole reach stuck
  obtain ⟨noComparison, early⟩ :=
    comparison_lost_of_opening op beforeParen afterParen whole (Nat.le_of_lt reach)
  have noOther : (choice [comparison] c).found = none := (orElse_lost noComparison).trans rfl
  have before : Early p (choice [comparison]) c := tries_orElse early tries_failure
  exact .of_eq (expression_eq c) ((missing.orElse_first noOther before).rule .expression (by omega))

theorem StuckAt.more (s : Sentence) (before after : Blanks) (blankless : stops isSpace rest = true)
    (whole : c.rest = s.text ++ (before.text ++ ',' :: (after.text ++ rest)))
    (stuck : StuckAt (c.advance (s.text ++ (before.text ++ ',' :: after.text)) rest) p)
    (reach : c.offset + byteLength (s.text ++ (before.text ++ ',' :: after.text)) ≤ p) :
    StuckAt c p := by
  have ends := endsAt_of_atTerminator (atTerminator_blanks before
    (show atTerminator (',' :: (after.text ++ rest)) = true from rfl)) s
  obtain ⟨q, found, -⟩ := expression_found s ends whole
  have comma : 0 < Char.utf8Size ',' := by decide
  simp only [Text.byteLength_append, Text.byteLength_cons] at reach
  have early := early_expression (p := p) s whole (by omega)
  have turns := tail_turnsOn (e := expression) before after blankless
    (c := c.advance s.text (before.text ++ ',' :: (after.text ++ rest))) rfl
  rw [Cursor.advance_advance] at turns
  cases stuck with
  | first misses =>
    have missing := Misses.of_turnsOn turns misses
    refine .later found early (repeated_lost missing.lost) ?_ rfl ?_
    · rw [trials_repeated_lost missing.lost]
      exact missing.settled
    · rw [Cursor.offset_advance]
      omega
  | later found' before' more settled stops near =>
    obtain ⟨_, step, -, shorter⟩ := tail_found advances_expression before after blankless
      (c := c.advance s.text (before.text ++ ',' :: (after.text ++ rest)))
      (by simpa using found') rfl
    refine .later found early (repeated_found step shorter more) ?_ stops near
    rw [trials_repeated_found step shorter, turns.trials_eq]
    exact settled.prepend before'

end Grammar

theorem Rule.descriptions_sort_singleton (r : Rule) : descriptions (sort [r]) = [r.description] := by
  cases r <;> rfl

theorem parse_of_misses {before rest : List Char} {missed : Rule} (moved : 0 < byteLength before)
    (misses : Recognizer.Misses Grammar.filter (Cursor.start (before ++ rest)) missed
      (byteLength before)) :
    parse (String.ofList (before ++ rest)) = .error (.mismatch ⟨byteLength before,
      Text.Position.ofOffset (before ++ rest) (byteLength before), [missed.description],
      rest.head?⟩) := by
  refine parse_eq_error_iff.2 ⟨by rw [String.toList_ofList]; exact misses.lost, ?_⟩
  rw [String.toList_ofList, misses.settled.ofTrials moved, Mismatch.ofBlame, Mismatch.ofRules,
    Rule.descriptions_sort_singleton, Text.charAt?, Text.splitAt?_append]
  cases rest <;> rfl

end InventoryQuery.Filter
