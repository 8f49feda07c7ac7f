import InventoryQuery.Proofs.Filter.Clauses

/-! Reading an expression. Soundness takes a found expression apart into a sentence,
by induction on what is left of the source; completeness finds every sentence
again, by induction on the sentence, wherever its end can be seen. -/
namespace InventoryQuery.Filter

open Text (byteLength)

theorem Connective.isColumnChar_keyword (op : Connective) :
    ∀ d ∈ op.keyword.toList, isColumnChar d = true := by
  cases op <;> simp [keyword] <;> decide

namespace Grammar

open Recognizer

variable {e e' : Recognizer} {c next : Cursor} {rest : List Char} {ps : List Phrase}

theorem advances_spaces : Advances spaces := advances_skip Lexeme.splits_span

theorem advances_connective : Advances connective :=
  advances_token (Lexeme.splits_either (Lexeme.splits_exact _) (Lexeme.splits_exact _))

theorem advances_openParen : Advances openParen := advances_token (Lexeme.splits_exact _)

theorem advances_closeParen : Advances closeParen := advances_token (Lexeme.splits_exact _)

theorem advances_comma : Advances comma := advances_token (Lexeme.splits_exact _)

theorem advances_comparison : Advances comparison := by
  intro c ps next found
  obtain ⟨k, whole, ends⟩ := comparison_sound found
  obtain ⟨p, again, -⟩ := comparison_found k ends whole
  obtain ⟨-, same⟩ : [p] = ps ∧ c.advance k.text next.rest = next := by simpa [again] using found
  exact ⟨k.text, same ▸ Cursor.leads_advance whole⟩

theorem advances_members (inner : Advances e) : Advances (members e) := by
  have tail : Advances (sequence [spaces, comma, spaces, e]) := advances_sequence (by
    simp [advances_spaces, advances_comma, inner])
  exact advances_rule (advances_sequence (by simp [inner, advances_repeated tail]))

theorem advances_group (inner : Advances e) : Advances (group e) :=
  advances_rule (advances_sequence (by
    simp [advances_connective, advances_spaces, advances_openParen, advances_closeParen,
      advances_members inner]))

theorem advances_expression : Advances expression := by
  intro c ps next found
  induction h : c.rest.length using Nat.strongRecOn generalizing c ps next with
  | _ n ih =>
    subst h
    have inner : Advances fun d =>
        if d.rest.length < c.rest.length then expression d else failure d := by
      intro d ps next found
      dsimp only at found
      split at found
      next shorter => exact ih _ shorter found rfl
      · simp at found
    rw [expression] at found
    exact advances_rule (advances_choice (by simp [advances_group inner, advances_comparison]))
      found

theorem connective_sound (found : (connective c).found = some (ps, next)) :
    ∃ op : Connective, c.rest = op.keyword.toList ++ next.rest := by
  obtain ⟨taken, rest, read, rfl, -⟩ := token_found_iff.1 found
  rcases Option.or_eq_some_iff.1 read with read | ⟨-, read⟩
  · exact ⟨.and, by simpa [Connective.keyword] using (Lexeme.exact_eq_some_iff.1 read).2⟩
  · exact ⟨.or, by simpa [Connective.keyword] using (Lexeme.exact_eq_some_iff.1 read).2⟩

theorem connective_shorter (found : (connective c).found = some (ps, next)) :
    next.rest.length < c.rest.length := by
  obtain ⟨op, whole⟩ := connective_sound found
  have letters : 0 < op.keyword.toList.length := by cases op <;> decide
  rw [whole, List.length_append]
  omega

theorem members_congr {bound : Nat} (same : ∀ d : Cursor, d.rest.length < bound → e d = e' d)
    (inner : Advances e) (short : c.rest.length < bound) : members e c = members e' c := by
  refine rule_congr (followedBy_congr (same c short) fun _ d found => ?_)
  have first := inner.length_le found
  refine followedBy_congr (repeated_congr fun d' bound' => ?_) fun _ _ _ => rfl
  refine followedBy_congr rfl fun _ d₁ found₁ => ?_
  refine followedBy_congr rfl fun _ d₂ found₂ => ?_
  refine followedBy_congr rfl fun _ d₃ found₃ => ?_
  have left₁ := advances_spaces.length_le found₁
  have left₂ := advances_comma.length_le found₂
  have left₃ := advances_spaces.length_le found₃
  exact followedBy_congr (same d₃ (by omega)) fun _ _ _ => rfl

theorem group_congr (same : ∀ d : Cursor, d.rest.length < c.rest.length → e d = e' d)
    (inner : Advances e) : group e c = group e' c := by
  refine rule_congr (followedBy_congr rfl fun _ d₁ found₁ => ?_)
  refine followedBy_congr rfl fun _ d₂ found₂ => ?_
  refine followedBy_congr rfl fun _ d₃ found₃ => ?_
  refine followedBy_congr rfl fun _ d₄ found₄ => ?_
  have left₁ := connective_shorter found₁
  have left₂ := advances_spaces.length_le found₂
  have left₃ := advances_openParen.length_le found₃
  have left₄ := advances_spaces.length_le found₄
  exact followedBy_congr (members_congr same inner (by omega)) fun _ _ _ => rfl

theorem expression_eq (c : Cursor) :
    expression c = rule .expression (choice [group expression, comparison]) c := by
  rw [expression]
  have shorter (d : Cursor) (short : d.rest.length < c.rest.length) :
      expression d = if d.rest.length < c.rest.length then expression d else failure d :=
    (if_pos short).symm
  have guarded := group_congr shorter advances_expression
  refine rule_congr ?_
  unfold choice orElse
  rw [guarded]

theorem spaces_sound (found : (spaces c).found = some (ps, next)) :
    ∃ blanks : Blanks, c.rest = blanks.text ++ next.rest := by
  obtain ⟨taken, rest, read, -, rfl⟩ := skip_found_iff.1 found
  obtain ⟨whole, inside, -⟩ := Lexeme.span_eq_some read
  exact ⟨⟨taken, inside⟩, whole⟩

theorem exact_sound {r : Rule} {text : List Char}
    (found : (token r (.exact text) c).found = some (ps, next)) : c.rest = text ++ next.rest := by
  obtain ⟨taken, rest, read, rfl, -⟩ := token_found_iff.1 found
  exact (Lexeme.exact_eq_some_iff.1 read).2

/-- A reader that finds only the texts of sentences, at cursors with less left than
a bound. -/
def SoundBelow (e : Recognizer) (bound : Nat) : Prop :=
  ∀ ⦃c ps next⦄, c.rest.length < bound → (e c).found = some (ps, next) →
    ∃ s : Sentence, c.rest = s.text ++ next.rest

theorem tail_sound {bound : Nat} (sound : SoundBelow e bound) (short : c.rest.length < bound)
    (found : (sequence [spaces, comma, spaces, e] c).found = some (ps, next)) :
    ∃ (before after : Blanks) (s : Sentence),
      c.rest = before.text ++ ',' :: (after.text ++ (s.text ++ next.rest)) := by
  obtain ⟨_, d₁, _, found₁, found, -⟩ := followedBy_found_iff.1 found
  obtain ⟨_, d₂, _, found₂, found, -⟩ := followedBy_found_iff.1 found
  obtain ⟨_, d₃, _, found₃, found, -⟩ := followedBy_found_iff.1 found
  obtain ⟨before, whole₁⟩ := spaces_sound found₁
  have whole₂ := exact_sound found₂
  obtain ⟨after, whole₃⟩ := spaces_sound found₃
  have shorter : d₃.rest.length < bound := by
    have left₁ := advances_spaces.length_le found₁
    have left₂ := advances_comma.length_le found₂
    have left₃ := advances_spaces.length_le found₃
    omega
  obtain ⟨s, whole⟩ := sound shorter (followedBy_nothing_iff.1 found)
  exact ⟨before, after, s, by simp [whole₁, whole₂, whole₃, whole]⟩

theorem repeated_sound {bound : Nat} (sound : SoundBelow e bound) (short : c.rest.length < bound)
    (found : (repeated (sequence [spaces, comma, spaces, e]) c).found = some (ps, next)) :
    c.rest = next.rest ∨ ∃ (before after : Blanks) (m : Members),
      c.rest = before.text ++ ',' :: (after.text ++ (m.text ++ next.rest)) := by
  induction h : c.rest.length using Nat.strongRecOn generalizing c ps with
  | _ n ih =>
    subst h
    rw [repeated] at found
    split at found
    · simp only [Option.some.injEq, Prod.mk.injEq] at found
      exact .inl (by rw [found.2])
    next phrases d step =>
      obtain ⟨before, after, s, whole⟩ := tail_sound sound short step
      have shorter : d.rest.length < c.rest.length := by
        simp only [whole, List.length_append, List.length_cons]
        omega
      rw [dif_pos shorter] at found
      obtain ⟨⟨others, _⟩, more, same⟩ := Option.map_eq_some_iff.1 found
      simp only [Prod.mk.injEq] at same
      obtain ⟨-, rfl⟩ := same
      refine .inr ?_
      rcases ih _ shorter (by omega) more rfl with last | ⟨before', after', m, whole'⟩
      · exact ⟨before, after, .one s, by simp [whole, last, Members.text]⟩
      · exact ⟨before, after, .more s before' after' m, by simp [whole, whole', Members.text]⟩

theorem members_sound {bound : Nat} (sound : SoundBelow e bound) (inner : Advances e)
    (short : c.rest.length < bound) (found : (members e c).found = some (ps, next)) :
    ∃ m : Members, c.rest = m.text ++ next.rest := by
  obtain ⟨_, found, -⟩ := rule_found_iff.1 found
  obtain ⟨_, d, _, first, found, -⟩ := followedBy_found_iff.1 found
  obtain ⟨s, whole⟩ := sound short first
  have left := inner.length_le first
  rcases repeated_sound sound (by omega) (followedBy_nothing_iff.1 found) with
    last | ⟨before, after, m, more⟩
  · exact ⟨.one s, by simp [whole, last, Members.text]⟩
  · exact ⟨.more s before after m, by simp [whole, more, Members.text]⟩

theorem group_sound (sound : SoundBelow e c.rest.length) (inner : Advances e)
    (found : (group e c).found = some (ps, next)) :
    ∃ (op : Connective) (beforeParen afterParen : Blanks) (m : Members) (beforeClose : Blanks),
      c.rest = (Sentence.group op beforeParen afterParen m beforeClose).text ++ next.rest := by
  obtain ⟨_, found, -⟩ := rule_found_iff.1 found
  obtain ⟨_, d₁, _, found₁, found, -⟩ := followedBy_found_iff.1 found
  obtain ⟨_, d₂, _, found₂, found, -⟩ := followedBy_found_iff.1 found
  obtain ⟨_, d₃, _, found₃, found, -⟩ := followedBy_found_iff.1 found
  obtain ⟨_, d₄, _, found₄, found, -⟩ := followedBy_found_iff.1 found
  obtain ⟨_, d₅, _, found₅, found, -⟩ := followedBy_found_iff.1 found
  obtain ⟨_, d₆, _, found₆, found, -⟩ := followedBy_found_iff.1 found
  obtain ⟨op, whole₁⟩ := connective_sound found₁
  obtain ⟨beforeParen, whole₂⟩ := spaces_sound found₂
  have whole₃ := exact_sound found₃
  obtain ⟨afterParen, whole₄⟩ := spaces_sound found₄
  have shorter : d₄.rest.length < c.rest.length := by
    have left₁ := connective_shorter found₁
    have left₂ := advances_spaces.length_le found₂
    have left₃ := advances_openParen.length_le found₃
    have left₄ := advances_spaces.length_le found₄
    omega
  obtain ⟨m, whole₅⟩ := members_sound sound inner shorter found₅
  obtain ⟨beforeClose, whole₆⟩ := spaces_sound found₆
  have whole₇ := exact_sound (followedBy_nothing_iff.1 found)
  exact ⟨op, beforeParen, afterParen, m, beforeClose, by
    simp [Sentence.text, opening, whole₁, whole₂, whole₃, whole₄, whole₅, whole₆, whole₇]⟩

theorem stops_isSpace_sentence (s : Sentence) (rest : List Char) :
    stops isSpace (s.text ++ rest) = true := by
  cases s with
  | group op beforeParen afterParen m beforeClose => cases op <;> rfl
  | comparison k =>
    rw [Sentence.text, Clause.text, Clause.beforeValue, Clause.beforeOperator]
    simp only [List.append_assoc]
    exact k.column.stops_text (fun _ => isSpace_columnChar) _

theorem stops_isSpace_members (m : Members) (rest : List Char) :
    stops isSpace (m.text ++ rest) = true := by
  cases m with
  | one s => exact stops_isSpace_sentence s rest
  | more s before after m =>
    rw [Members.text, List.append_assoc]
    exact stops_isSpace_sentence s _

theorem atTerminator_blanks (blanks : Blanks) (ends : atTerminator rest = true) :
    atTerminator (blanks.text ++ rest) = true := by
  cases text : blanks.text with
  | nil => exact ends
  | cons b bs => exact isTerminator_of_isSpace (blanks.inside b (by simp [text]))

/-- What may follow a sentence. A group ends with its parenthesis. -/
def endsAt (rest : List Char) : Sentence → Prop
  | .group _ _ _ _ _ => True
  | .comparison k => k.value.endsAt rest

theorem endsAt_of_atTerminator (ends : atTerminator rest = true) (s : Sentence) :
    endsAt rest s := by
  cases s with
  | group _ _ _ _ _ => trivial
  | comparison k => exact k.value.endsAt_of_atTerminator ends

theorem expression_sound (found : (expression c).found = some (ps, next)) :
    ∃ s : Sentence, c.rest = s.text ++ next.rest ∧ endsAt next.rest s := by
  induction h : c.rest.length using Nat.strongRecOn generalizing c ps next with
  | _ n ih =>
    subst h
    -- A group hands only what is left behind its parenthesis to the members.
    have sound : SoundBelow expression c.rest.length := fun d ps next shorter found => by
      obtain ⟨s, whole, -⟩ := ih _ shorter found rfl
      exact ⟨s, whole⟩
    rw [expression_eq] at found
    obtain ⟨_, found, -⟩ := rule_found_iff.1 found
    rcases orElse_found_iff.1 found with found | ⟨-, found⟩
    · obtain ⟨op, beforeParen, afterParen, m, beforeClose, whole⟩ :=
        group_sound sound advances_expression found
      exact ⟨.group op beforeParen afterParen m beforeClose, whole, trivial⟩
    rcases orElse_found_iff.1 found with found | ⟨-, found⟩
    · obtain ⟨k, whole, ends⟩ := comparison_sound found
      exact ⟨.comparison k, by rw [Sentence.text]; exact whole, ends⟩
    · simp [choice] at found

theorem spaces_found (blanks : Blanks) (stop : stops isSpace rest = true)
    (whole : c.rest = blanks.text ++ rest) :
    (spaces c).found = some ([], c.advance blanks.text rest) := by
  refine skip_found_iff.2 ⟨_, _, ?_, rfl, rfl⟩
  rw [whole]
  exact Lexeme.span_append blanks.inside stop

theorem exact_found {r : Rule} (text : List Char) (whole : c.rest = text ++ rest) :
    ∃ p, (token r (.exact text) c).found = some ([p], c.advance text rest) ∧ p.rule = r := by
  refine ⟨_, token_found_iff.2 ⟨text, rest, ?_, rfl, rfl⟩, rfl⟩
  rw [whole, Lexeme.exact_append]

theorem connective_found {op : Connective} (whole : c.rest = op.keyword.toList ++ rest) :
    ∃ p, (connective c).found = some ([p], c.advance op.keyword.toList rest) ∧
      p.rule = .connective ∧ p.string = op.keyword := by
  refine ⟨_, token_found_iff.2 ⟨op.keyword.toList, rest, ?_, rfl, rfl⟩, rfl,
    by simp [Phrase.string]⟩
  rw [whole]
  cases op <;> simp [Lexeme.connective, Lexeme.either, Lexeme.exact, Connective.keyword]

theorem exact_lost {r : Rule} {d : Char} (other : stops (· == d) c.rest = true) :
    (token r (.exact [d]) c).found = none := by
  refine token_lost (Lexeme.exact_eq_none ?_)
  rintro ⟨more, same⟩
  simp [← same] at other

theorem noParen_of_column {name : Run isColumnChar} {gap_ : Run isSpace} {d₁ d₂ : Cursor}
    {ps₁ ps₂ : List Phrase} (blankless : stops isSpace rest = true)
    (closed : stops (· == '(') rest = true)
    (whole : c.rest = name.text ++ (gap_.text ++ rest))
    (found₁ : (connective c).found = some (ps₁, d₁))
    (found₂ : (spaces d₁).found = some (ps₂, d₂)) :
    stops (· == '(') d₂.rest = true ∧
      d₂.offset ≤ c.offset + byteLength (name.text ++ gap_.text) := by
  obtain ⟨op, left⟩ := connective_sound found₁
  have leads := advances_connective.leads found₁ left
  obtain ⟨more, column, split⟩ := exists_more op.isColumnChar_keyword
    (gap_.stops_text (fun _ => isColumnChar_space) _) (left.symm.trans whole)
  cases more with
  | nil =>
    -- The column is the connective, and what follows the blanks comes where `(` would.
    have blanks := spaces_found (c := d₁) ⟨gap_.text, gap_.inside⟩ blankless split
    obtain ⟨-, rfl⟩ : [] = ps₂ ∧ d₁.advance gap_.text rest = d₂ := by simpa [blanks] using found₂
    rw [List.append_nil] at column
    exact ⟨closed, by simp [leads.offset, column, Nat.add_assoc]⟩
  | cons d more =>
    have letter := name.inside d (by simp [column])
    have blanks := spaces_found (c := d₁) ⟨[], by simp⟩
      (show stops isSpace d₁.rest = true by simp [split, isSpace_columnChar letter]) rfl
    obtain ⟨-, rfl⟩ : [] = ps₂ ∧ d₁.advance [] d₁.rest = d₂ := by simpa [blanks] using found₂
    have other : d ≠ '(' := by
      rintro rfl
      exact absurd letter (by decide)
    refine ⟨by simp [split, other], ?_⟩
    rw [Cursor.offset_advance, leads.offset, column]
    simp only [Text.byteLength_append, Text.byteLength_nil]
    omega

theorem group_lost_of_column (name : Run isColumnChar) (gap_ : Run isSpace)
    (blankless : stops isSpace rest = true) (closed : stops (· == '(') rest = true)
    (whole : c.rest = name.text ++ (gap_.text ++ rest)) : (group e c).found = none := by
  refine rule_lost_iff.2 ?_
  cases found₁ : (connective c).found with
  | none => exact followedBy_lost found₁
  | some first =>
    refine followedBy_lost_second found₁ ?_
    cases found₂ : (spaces first.2).found with
    | none => exact followedBy_lost found₂
    | some second =>
      have noParen := (noParen_of_column blankless closed whole found₁ found₂).1
      exact followedBy_lost_second found₂ (followedBy_lost (exact_lost noParen))

theorem isOperatorChar_paren {d : Char} (sign : isOperatorChar d = true) : (d == '(') = false := by
  rw [beq_eq_false_iff_ne]
  rintro rfl
  exact absurd sign (by decide)

theorem group_lost (k : Clause) (whole : c.rest = k.text ++ rest) :
    (group e c).found = none := by
  rw [Clause.text, Clause.beforeValue, Clause.beforeOperator] at whole
  simp only [List.append_assoc] at whole
  exact group_lost_of_column k.column k.gap (k.stops_form (fun _ => isSpace_operatorChar) _)
    (k.stops_form (fun _ => isOperatorChar_paren) _) whole

theorem group_found (op : Connective) {beforeParen afterParen beforeClose : Blanks}
    {text : List Char} {q : Phrase}
    (whole : c.rest = opening op beforeParen afterParen ++
      (text ++ (beforeClose.text ++ ')' :: rest)))
    (start : stops isSpace (text ++ (beforeClose.text ++ ')' :: rest)) = true)
    (inner : (members e (c.advance (opening op beforeParen afterParen)
      (text ++ (beforeClose.text ++ ')' :: rest)))).found =
        some ([q], (c.advance (opening op beforeParen afterParen)
          (text ++ (beforeClose.text ++ ')' :: rest))).advance text
            (beforeClose.text ++ ')' :: rest))) :
    ∃ p₁ o cl written, (group e c).found = some ([⟨.group, c.offset, c.offset + byteLength
        (opening op beforeParen afterParen ++ (text ++ (beforeClose.text ++ [')']))), written,
        [p₁, o, q, cl]⟩], c.advance (opening op beforeParen afterParen ++
          (text ++ (beforeClose.text ++ [')']))) rest) ∧ p₁.rule = .connective ∧
      p₁.string = op.keyword ∧ o.rule = .openParen ∧ cl.rule = .closeParen := by
  simp only [opening, List.append_assoc, List.cons_append] at whole
  obtain ⟨p₁, found₁, isConnective, keyword⟩ := connective_found whole
  have found₂ := spaces_found (c := c.advance op.keyword.toList (beforeParen.text ++ '(' ::
    (afterParen.text ++ (text ++ (beforeClose.text ++ ')' :: rest))))) beforeParen
    (show stops isSpace ('(' :: _) = true from rfl) rfl
  obtain ⟨o, found₃, isOpen⟩ := exact_found (r := .openParen) ['(']
    (c := c.advance (op.keyword.toList ++ beforeParen.text) ('(' ::
      (afterParen.text ++ (text ++ (beforeClose.text ++ ')' :: rest))))) rfl
  have found₄ := spaces_found (c := c.advance (op.keyword.toList ++ (beforeParen.text ++ ['(']))
    (afterParen.text ++ (text ++ (beforeClose.text ++ ')' :: rest)))) afterParen start rfl
  have found₆ := spaces_found (c := c.advance (opening op beforeParen afterParen ++ text)
    (beforeClose.text ++ ')' :: rest)) beforeClose
      (show stops isSpace (')' :: rest) = true from rfl) rfl
  obtain ⟨cl, found₇, isClose⟩ := exact_found (r := .closeParen) [')']
    (c := c.advance (opening op beforeParen afterParen ++ (text ++ beforeClose.text))
      (')' :: rest)) rfl
  have body : (sequence [connective, spaces, openParen, spaces, members e, spaces, closeParen]
      c).found = some ([p₁, o, q, cl], c.advance (opening op beforeParen afterParen ++
        (text ++ (beforeClose.text ++ [')']))) rest) := by
    refine followedBy_found_iff.2 ⟨[p₁], _, [o, q, cl], found₁, ?_, rfl⟩
    refine followedBy_found_iff.2 ⟨[], _, [o, q, cl], found₂, ?_, rfl⟩
    refine followedBy_found_iff.2 ⟨[o], _, [q, cl], by simpa [openParen] using found₃, ?_, rfl⟩
    refine followedBy_found_iff.2 ⟨[], _, [q, cl], by simpa using found₄, ?_, rfl⟩
    refine followedBy_found_iff.2 ⟨[q], _, [cl], by simpa [opening] using inner, ?_, rfl⟩
    refine followedBy_found_iff.2 ⟨[], _, [cl], by simpa [opening] using found₆, ?_, rfl⟩
    refine followedBy_nothing_iff.2 ?_
    simpa [opening, closeParen] using found₇
  exact ⟨p₁, o, cl, _, rule_found body, isConnective, keyword, isOpen, isClose⟩

theorem tail_found (moves : Advances e) (before after : Blanks) {p : Phrase}
    (start : stops isSpace rest = true)
    (inner : (e (c.advance (before.text ++ ',' :: after.text) rest)).found = some ([p], next))
    (whole : c.rest = before.text ++ ',' :: (after.text ++ rest)) :
    ∃ comma_, (sequence [spaces, comma, spaces, e] c).found = some ([comma_, p], next) ∧
      comma_.rule = .comma ∧ next.rest.length < c.rest.length := by
  have shorter : next.rest.length < c.rest.length := by
    have left := moves.length_le inner
    simp only [whole, Cursor.rest_advance, List.length_append, List.length_cons] at left ⊢
    omega
  obtain ⟨comma_, found, isComma⟩ := exact_found (r := .comma) [',']
    (c := c.advance before.text (',' :: (after.text ++ rest))) rfl
  refine ⟨comma_, followedBy_found_iff.2 ⟨[], _, [comma_, p], spaces_found before rfl whole, ?_,
    rfl⟩, isComma, shorter⟩
  refine followedBy_found_iff.2 ⟨[comma_], _, [p], by simpa [comma] using found, ?_, rfl⟩
  refine followedBy_found_iff.2 ⟨[], _, [p], spaces_found after start rfl, ?_, rfl⟩
  exact followedBy_nothing_iff.2 (by simpa using inner)

mutual

theorem expression_found : (s : Sentence) → {c : Cursor} → {rest : List Char} →
    endsAt rest s → c.rest = s.text ++ rest →
    ∃ p, (expression c).found = some ([p], c.advance s.text rest) ∧ p.rule = .expression ∧
      p.tree = .ok (s.tree c.offset)
  | .group op beforeParen afterParen m beforeClose, c, rest, _, whole => by
    rw [Sentence.text, opening] at whole
    simp only [List.append_assoc, List.cons_append, List.nil_append] at whole
    obtain ⟨p, ps, next, found, more, trees⟩ := members_found m
      (c := c.advance (opening op beforeParen afterParen)
        (m.text ++ (beforeClose.text ++ ')' :: rest))) beforeClose rfl
    have inner := rule_found (r := .members) (followedBy_found_iff.2
      ⟨[p], next, ps, found, followedBy_nothing_iff.2 more, rfl⟩)
    obtain ⟨p₁, o, cl, text, group, isConnective, keyword, isOpen, isClose⟩ :=
      group_found (e := expression) op (by simpa [opening] using whole)
        (stops_isSpace_members m _) inner
    rw [expression_eq, Sentence.text]
    refine ⟨_, rule_found (orElse_found group), rfl, ?_⟩
    rw [Phrase.tree_group rfl, Phrase.group_eq_ok isConnective keyword isOpen rfl
      (by rw [Phrase.members]; exact trees) (m.trees_ne_nil _) isClose]
    simp [Sentence.tree, Sentence.text]
  | .comparison k, c, rest, ends, whole => by
    rw [Sentence.text] at whole
    obtain ⟨p, found, isComparison, comparison⟩ := comparison_found k ends whole
    have inner := (orElse_lost (group_lost (e := expression) k whole)).trans
      (orElse_found (b := choice []) found)
    rw [expression_eq]
    refine ⟨_, rule_found inner, rfl, ?_⟩
    rw [Phrase.tree_comparison isComparison, comparison, Sentence.tree]
    rfl

theorem members_found : (m : Members) → {c : Cursor} → {tail : List Char} →
    (blanks : Blanks) → c.rest = m.text ++ (blanks.text ++ ')' :: tail) →
    ∃ p ps next, (expression c).found = some ([p], next) ∧
      (repeated (sequence [spaces, comma, spaces, expression]) next).found =
        some (ps, c.advance m.text (blanks.text ++ ')' :: tail)) ∧
      Phrase.expressions (p :: ps) = .ok (m.trees c.offset)
  | .one s, c, tail, blanks, whole => by
    rw [Members.text] at whole
    have ends := endsAt_of_atTerminator (atTerminator_blanks blanks
      (show atTerminator (')' :: tail) = true from rfl)) s
    obtain ⟨p, found, isExpression, tree⟩ := expression_found s ends whole
    have noComma : (sequence [spaces, comma, spaces, expression]
        (c.advance s.text (blanks.text ++ ')' :: tail))).found = none :=
      followedBy_lost_second (spaces_found blanks rfl rfl)
        (followedBy_lost (exact_lost (by simp)))
    exact ⟨p, [], _, found, repeated_lost noComma,
      Phrase.expressions_cons isExpression tree Phrase.expressions_nil⟩
  | .more s before after m, c, tail, blanks, whole => by
    rw [Members.text] at whole
    simp only [List.append_assoc, List.cons_append] at whole
    have ends := endsAt_of_atTerminator (atTerminator_blanks before
      (show atTerminator (',' :: (after.text ++ (m.text ++ (blanks.text ++ ')' :: tail)))) = true
        from rfl)) s
    obtain ⟨p₁, found₁, isExpression, tree⟩ := expression_found s ends whole
    obtain ⟨p, ps, next, found, more, trees⟩ := members_found m
      (c := c.advance (s.text ++ (before.text ++ ',' :: after.text))
        (m.text ++ (blanks.text ++ ')' :: tail))) blanks rfl
    obtain ⟨comma_, step, isComma, shorter⟩ := tail_found advances_expression (p := p)
      (c := c.advance s.text (before.text ++ ',' :: (after.text ++
        (m.text ++ (blanks.text ++ ')' :: tail))))) before after
          (stops_isSpace_members m _) (by simpa using found) rfl
    refine ⟨p₁, [comma_, p] ++ ps, _, found₁, ?_, ?_⟩
    · refine repeated_found step shorter ?_
      simpa [Members.text] using more
    · have others : Phrase.expressions ([comma_, p] ++ ps) =
          .ok (m.trees (c.offset + byteLength (s.text ++ (before.text ++ ',' :: after.text)))) :=
        (Phrase.expressions_comma isComma).trans trees
      rw [Phrase.expressions_cons isExpression tree others, Members.trees]

end

theorem members_phrase (m : Members) (blanks : Blanks)
    (whole : c.rest = m.text ++ (blanks.text ++ ')' :: rest)) :
    ∃ q, (members expression c).found =
      some ([q], c.advance m.text (blanks.text ++ ')' :: rest)) := by
  obtain ⟨p, ps, next, found, more, -⟩ := members_found m blanks whole
  exact ⟨_, rule_found (followedBy_found_iff.2
    ⟨[p], next, ps, found, followedBy_nothing_iff.2 more, rfl⟩)⟩

theorem group_phrase (op : Connective) (beforeParen afterParen : Blanks) (m : Members)
    (beforeClose : Blanks) (whole : c.rest =
      (Sentence.group op beforeParen afterParen m beforeClose).text ++ rest) :
    ∃ q, (group expression c).found = some ([q],
      c.advance (Sentence.group op beforeParen afterParen m beforeClose).text rest) := by
  obtain ⟨q, inner⟩ := members_phrase m beforeClose (c := c.advance
    (opening op beforeParen afterParen) (m.text ++ (beforeClose.text ++ ')' :: rest))) rfl
  obtain ⟨_, _, _, _, found, -⟩ := group_found op (by simpa [Sentence.text] using whole)
    (stops_isSpace_members m _) inner
  exact ⟨_, found⟩

end Grammar

end InventoryQuery.Filter
