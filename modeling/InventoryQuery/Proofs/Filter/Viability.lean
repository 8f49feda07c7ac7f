import InventoryQuery.Proofs.Filter.Attempts
import InventoryQuery.Proofs.Filter.Continuations
import Mathlib

/-! A syntax error blames a viable position. Every rule that fails anywhere in a
reading, also in alternatives that are given up, fails where text of that rule can
stand: what was read before it goes on to an accepted source from there. -/
namespace InventoryQuery.Filter

open Text (byteLength splitAt?)

/-- Whether what stands before an offset can go on with text of a rule, and then to the
end of an accepted source. -/
def Awaits (source : List Char) (r : Rule) (offset : Nat) : Prop :=
  ∃ before rest more, splitAt? source offset = some (before, rest) ∧ r.Begins more ∧
    Accepted (before ++ more)

variable {source before after more : List Char} {c next : Cursor} {ps : List Phrase} {r : Rule}

theorem awaits_of_leads (here : (Cursor.start source).Leads before c) (begins : r.Begins more)
    (accepted : Accepted (before ++ more)) : Awaits source r c.offset := by
  refine ⟨before, c.rest, more, ?_, begins, accepted⟩
  have whole : source = before ++ c.rest := here.whole
  have offset : c.offset = byteLength before := by
    rw [here.offset]
    exact Nat.zero_add _
  rw [whole, offset, Text.splitAt?_append]

namespace Grammar

open Recognizer

theorem gap_leads (found : (gap c).found = some (ps, next)) :
    ∃ blanks : Run isSpace, c.Leads blanks.text next := by
  obtain ⟨taken, rest, read, -, rfl⟩ := skip_found_iff.1 found
  obtain ⟨whole, nonempty, inside, -⟩ := Lexeme.run_eq_some_iff.1 read
  exact ⟨⟨taken, nonempty, inside⟩, Cursor.leads_advance whole⟩

theorem spaces_leads (found : (spaces c).found = some (ps, next)) :
    ∃ blanks : Blanks, c.Leads blanks.text next := by
  obtain ⟨blanks, whole⟩ := spaces_sound found
  exact ⟨blanks, advances_spaces.leads found whole⟩

theorem column_leads (found : (column c).found = some (ps, next)) :
    ∃ name : Run isColumnChar, c.Leads name.text next := by
  obtain ⟨taken, rest, read, rfl, -⟩ := token_found_iff.1 found
  obtain ⟨whole, nonempty, inside, -⟩ := Lexeme.run_eq_some_iff.1 read
  exact ⟨⟨taken, nonempty, inside⟩, Cursor.leads_advance whole⟩

theorem advances_form : Advances (choice [columnForm, colorForm, operator]) := by
  have word {r : Rule} (text : List Char) : Advances (token r (.exact text)) :=
    advances_token (Lexeme.splits_exact text)
  have blanks : Advances gap := advances_skip Lexeme.splits_run
  have sign : Advances operator := advances_token Lexeme.splits_run
  have form {r s : Rule} (text : List Char) :
      Advances (rule r (sequence [token s (.exact text), gap, operator])) :=
    advances_rule (advances_sequence (by simp [word text, blanks, sign]))
  refine advances_choice ?_
  simp only [List.forall_mem_cons, List.not_mem_nil, false_implies, implies_true, and_true]
  exact ⟨form _, form _, sign⟩

theorem exact_leads {text : List Char} (found : (token r (.exact text) c).found = some (ps, next)) :
    c.Leads text next :=
  (advances_token (Lexeme.splits_exact text)).leads found (exact_sound found)

theorem isTerminator_of_isPlainName {cs : List Char} (plain : isPlainName cs = true) :
    ∀ c ∈ cs, isTerminator c = false := fun c inside => by
  simpa using (isPlainName_iff.1 plain).2.1 c inside

theorem tries_value (here : (Cursor.start source).Leads before c) (takes : TakesValue before after) :
    Tries (Awaits source) value c := by
  obtain ⟨more, moreEnds, truth⟩ := takes.boolean
  have zero := takes.accepted .zero (by decide)
  have block := takes.accepted (.ofPlain ['0', '/', '0'] (by decide)) (by decide)
  have empty := takes.accepted (.quoted '\'' [] rfl .nil) (by decide)
  have digit := isTerminator_of_isPlainName (show isPlainName ['0'] = true by decide)
  have networkRead := (Lexeme.network_append (isTerminator_of_isPlainName
    (show isPlainName ['0', '/', '0'] = true by decide)) takes.ends).trans (if_pos (by decide))
  have numberRead := (Lexeme.number_append digit takes.ends).trans (if_pos (by decide))
  have booleanRead := (Lexeme.boolean_append (isTerminator_of_isPlainName
    (show isPlainName ['t', 'r', 'u', 'e'] = true by decide)) moreEnds).trans (if_pos (by decide))
  have wordRead := Lexeme.word_append (by simp) digit (by decide) takes.ends
  have quotedFound := quoted_found (c := Cursor.start ('\'' :: '\'' :: after))
    rfl (.nil : Inside '\'' []) rfl
  refine tries_rule (awaits_of_leads here
    (Rule.begins_value _ (Value.endsAt_of_atTerminator takes.ends _)) zero) ?_
  refine tries_orElse (tries_rule (awaits_of_leads here (Rule.begins_of_found quotedFound) empty)
    (tries_orElse tries_quotedBy (tries_orElse tries_quotedBy tries_failure))) ?_
  refine tries_orElse (tries_token fun _ =>
    awaits_of_leads here (Rule.begins_of_token rfl networkRead) block) ?_
  refine tries_orElse (tries_token fun _ =>
    awaits_of_leads here (Rule.begins_of_token rfl numberRead) zero) ?_
  refine tries_orElse (tries_token fun _ =>
    awaits_of_leads here (Rule.begins_of_token rfl booleanRead) truth) ?_
  exact tries_orElse (tries_token fun _ =>
    awaits_of_leads here (Rule.begins_of_token rfl wordRead) zero) tries_failure

def sample : Clause := .equal .plain .zero

def equalsSign : Run isOperatorChar := sample.operator

theorem tries_keyword {keyword : List Char} {r : Rule} {form : Run isSpace → Form}
    (is : recognizer r = token r (.exact keyword))
    (text : ∀ blanks, (form blanks).text = keyword ++ blanks.text)
    (here : (Cursor.start source).Leads before c)
    (accepted : ∀ blanks, Accepted (before ++ ((form blanks).text ++
      (equalsSign.text ++ (' ' :: '0' :: after))))) :
    Tries (Awaits source) (sequence [token r (.exact keyword), gap, operator]) c := by
  refine tries_followedBy (tries_token fun _ => ?_) fun _ d₁ found₁ => ?_
  · have ready := accepted blank
    rw [text, List.append_assoc] at ready
    exact awaits_of_leads here (Rule.begins_of_token is (Lexeme.exact_append keyword _)) ready
  refine tries_followedBy (tries_skip _) fun _ d₂ found₂ => ?_
  obtain ⟨blanks, gapLeads⟩ := gap_leads found₂
  have there := here.trans ((exact_leads found₁).trans gapLeads)
  refine tries_followedBy (tries_token fun _ => ?_) fun _ _ _ => tries_nothing
  have ready := accepted blanks
  rw [text, ← List.append_assoc] at ready
  exact awaits_of_leads there (Rule.begins_operator equalsSign
    (show stops isOperatorChar (' ' :: _) = true from rfl)) ready

theorem tries_form (here : (Cursor.start source).Leads before c)
    (accepted : ∀ form : Form, Accepted (before ++ (form.text ++
      (equalsSign.text ++ (' ' :: '0' :: after))))) :
    Tries (Awaits source) (choice [columnForm, colorForm, operator]) c := by
  refine tries_orElse (tries_rule ?_ (tries_keyword rfl (fun _ => rfl) here
    fun blanks => accepted (.column blanks))) ?_
  · exact awaits_of_leads here (Rule.begins_columnForm blank equalsSign rfl)
      (accepted (.column blank))
  refine tries_orElse (tries_rule ?_ (tries_keyword rfl (fun _ => rfl) here
    fun blanks => accepted (.color blanks))) ?_
  · exact awaits_of_leads here (Rule.begins_colorForm blank equalsSign rfl)
      (accepted (.color blank))
  refine tries_orElse (tries_token fun _ => ?_) tries_failure
  exact awaits_of_leads here (Rule.begins_operator equalsSign rfl) (accepted .plain)

theorem tries_comparison (here : (Cursor.start source).Leads before c)
    (takes : Takes before after) : Tries (Awaits source) comparison c := by
  have accepted := takes.clause sample
  refine tries_rule ?_ ?_
  · exact awaits_of_leads here (Rule.begins_comparison sample
      (Value.endsAt_of_atTerminator takes.ends _)) accepted
  refine tries_followedBy (tries_token fun _ => ?_) fun _ d₁ found₁ => ?_
  · exact awaits_of_leads here (Rule.begins_column sample.column
      (show stops isColumnChar (' ' :: _) = true from rfl)) accepted
  obtain ⟨column, columnLeads⟩ := column_leads found₁
  refine tries_followedBy (tries_skip _) fun _ d₂ found₂ => ?_
  obtain ⟨blanks, gapLeads⟩ := gap_leads found₂
  have atForm := here.trans (columnLeads.trans gapLeads)
  refine tries_followedBy (tries_form atForm fun form =>
    takes.form column blanks form equalsSign) fun _ d₃ found₃ => ?_
  obtain ⟨form, sign, whole, -⟩ := form_sound found₃
  have formLeads := advances_form.leads found₃ (by rw [whole, List.append_assoc])
  refine tries_followedBy (tries_skip _) fun _ d₄ found₄ => ?_
  obtain ⟨valueGap, valueLeads⟩ := gap_leads found₄
  have atValue := atForm.trans (formLeads.trans valueLeads)
  rw [List.append_assoc form.text] at atValue
  exact tries_followedBy (tries_value atValue
    (takes.value column blanks form sign valueGap)) fun _ _ _ => tries_nothing

def aSentence : Sentence := .comparison sample

/-- A reader of sentences that fails at awaited rules only, at cursors with less left
than a bound. -/
def TriesBelow (source : List Char) (e : Recognizer) (bound : Nat) : Prop :=
  ∀ ⦃before after : List Char⦄ ⦃c : Cursor⦄, c.rest.length < bound →
    (Cursor.start source).Leads before c → Takes before after → Tries (Awaits source) e c

theorem expression_leads (found : (expression c).found = some (ps, next)) :
    ∃ s : Sentence, c.Leads s.text next := by
  obtain ⟨s, whole, -⟩ := expression_sound found
  exact ⟨s, advances_expression.leads found whole⟩

theorem members_leads (found : (members expression c).found = some (ps, next)) :
    ∃ m : Members, c.Leads m.text next := by
  have sound : SoundBelow expression (c.rest.length + 1) := fun d ps next _ found => by
    obtain ⟨s, whole, -⟩ := expression_sound found
    exact ⟨s, whole⟩
  obtain ⟨m, whole⟩ := members_sound sound advances_expression (Nat.lt_succ_self _) found
  exact ⟨m, (advances_members advances_expression).leads found whole⟩

theorem tries_tail {bound : Nat} (tries : TriesBelow source expression bound) (s : Sentence)
    (here : (Cursor.start source).Leads (before ++ s.text) c) (takes : TakesMembers before after)
    (short : c.rest.length < bound) :
    Tries (Awaits source) (sequence [spaces, comma, spaces, expression]) c := by
  refine tries_followedBy (tries_skip _) fun _ d₁ found₁ => ?_
  obtain ⟨beforeComma, leads₁⟩ := spaces_leads found₁
  refine tries_followedBy (tries_token fun _ => ?_) fun _ d₂ found₂ => ?_
  · have accepted := takes (.more s beforeComma Tree.noBlanks (.one aSentence)) Tree.noBlanks
    refine awaits_of_leads (here.trans leads₁)
      (Rule.begins_of_token rfl (Lexeme.exact_append [','] (aSentence.text ++ ')' :: after))) ?_
    simpa [Members.text, Tree.noBlanks] using accepted
  refine tries_followedBy (tries_skip _) fun _ d₃ found₃ => ?_
  obtain ⟨afterComma, leads₃⟩ := spaces_leads found₃
  have there := here.trans (leads₁.trans ((exact_leads found₂).trans leads₃))
  have left₁ := advances_spaces.length_le found₁
  have left₂ := advances_comma.length_le found₂
  have left₃ := advances_spaces.length_le found₃
  refine tries_followedBy (tries (by omega) ?_ (takes.more s beforeComma afterComma).takes)
    fun _ _ _ => tries_nothing
  simpa using there

theorem tail_leads
    (found : (sequence [spaces, comma, spaces, expression] c).found = some (ps, next)) :
    ∃ (beforeComma afterComma : Blanks) (s : Sentence),
      c.Leads (beforeComma.text ++ ',' :: (afterComma.text ++ s.text)) next := by
  obtain ⟨_, d₁, _, found₁, found, -⟩ := followedBy_found_iff.1 found
  obtain ⟨_, d₂, _, found₂, found, -⟩ := followedBy_found_iff.1 found
  obtain ⟨_, d₃, _, found₃, found, -⟩ := followedBy_found_iff.1 found
  obtain ⟨beforeComma, leads₁⟩ := spaces_leads found₁
  obtain ⟨afterComma, leads₃⟩ := spaces_leads found₃
  obtain ⟨s, leads₄⟩ := expression_leads (followedBy_nothing_iff.1 found)
  exact ⟨beforeComma, afterComma, s, leads₁.trans ((exact_leads found₂).trans (leads₃.trans leads₄))⟩

theorem tries_members {bound : Nat} (tries : TriesBelow source expression bound)
    (here : (Cursor.start source).Leads before c) (takes : TakesMembers before after)
    (short : c.rest.length < bound) : Tries (Awaits source) (members expression) c := by
  refine tries_rule (awaits_of_leads here (Rule.begins_members (.one aSentence) Tree.noBlanks)
    (takes (.one aSentence) Tree.noBlanks)) ?_
  refine tries_followedBy (tries short here takes.takes) fun _ d found => ?_
  obtain ⟨s, first⟩ := expression_leads found
  refine tries_followedBy ?_ fun _ _ _ => tries_nothing
  -- What stands before the last member read so far takes members again.
  refine tries_repeated (fun d => d.rest.length < bound ∧ ∃ before s,
    (Cursor.start source).Leads (before ++ Sentence.text s) d ∧ TakesMembers before after)
    ?_ ?_ ?_
  · have left := advances_expression.length_le found
    exact ⟨by omega, before, s, here.trans first, takes⟩
  · rintro d ⟨short, before, s, here, takes⟩
    exact tries_tail tries s here takes short
  · rintro d ps next ⟨short, before, s, here, takes⟩ found
    obtain ⟨beforeComma, afterComma, s', leads⟩ := tail_leads found
    have left : next.rest.length ≤ d.rest.length := by simp [leads.whole]; omega
    refine ⟨by omega, _, s', ?_, takes.more s beforeComma afterComma⟩
    simpa using here.trans leads

theorem tries_group (tries : TriesBelow source expression c.rest.length)
    (here : (Cursor.start source).Leads before c) (takes : Takes before after) :
    Tries (Awaits source) (group expression) c := by
  have sampleGroup (op : Connective) (beforeParen afterParen : Blanks) :=
    takes.accepted (.group op beforeParen afterParen (.one aSentence) Tree.noBlanks)
  refine tries_rule (awaits_of_leads here (Rule.begins_group .and _ _ _ _)
    (sampleGroup .and Tree.noBlanks Tree.noBlanks)) ?_
  refine tries_followedBy (tries_token fun _ => ?_) fun _ d₁ found₁ => ?_
  · have accepted := sampleGroup .and Tree.noBlanks Tree.noBlanks
    rw [Sentence.text, opening, List.append_assoc, List.append_assoc] at accepted
    exact awaits_of_leads here (Rule.begins_connective .and) accepted
  obtain ⟨op, keyword⟩ := connective_sound found₁
  have leads₁ := advances_connective.leads found₁ keyword
  refine tries_followedBy (tries_skip _) fun _ d₂ found₂ => ?_
  obtain ⟨beforeParen, leads₂⟩ := spaces_leads found₂
  refine tries_followedBy (tries_token fun _ => ?_) fun _ d₃ found₃ => ?_
  · refine awaits_of_leads (here.trans (leads₁.trans leads₂))
      (Rule.begins_of_token rfl (Lexeme.exact_append ['('] (aSentence.text ++ ')' :: after))) ?_
    simpa [Sentence.text, opening, Members.text, Tree.noBlanks] using
      sampleGroup op beforeParen Tree.noBlanks
  refine tries_followedBy (tries_skip _) fun _ d₄ found₄ => ?_
  obtain ⟨afterParen, leads₄⟩ := spaces_leads found₄
  have atMembers : (Cursor.start source).Leads (before ++ opening op beforeParen afterParen) d₄ := by
    simpa [opening] using
      here.trans (leads₁.trans (leads₂.trans ((exact_leads found₃).trans leads₄)))
  have shorter : d₄.rest.length < c.rest.length := by
    have left₁ := connective_shorter found₁
    have left₂ := advances_spaces.length_le found₂
    have left₃ := advances_openParen.length_le found₃
    have left₄ := advances_spaces.length_le found₄
    omega
  refine tries_followedBy (tries_members tries atMembers (takes.members op beforeParen afterParen)
    shorter) fun _ d₅ found₅ => ?_
  obtain ⟨m, leads₅⟩ := members_leads found₅
  refine tries_followedBy (tries_skip _) fun _ d₆ found₆ => ?_
  obtain ⟨beforeClose, leads₆⟩ := spaces_leads found₆
  refine tries_followedBy (tries_token fun _ => ?_) fun _ _ _ => tries_nothing
  refine awaits_of_leads (atMembers.trans (leads₅.trans leads₆))
    (Rule.begins_of_token rfl (Lexeme.exact_append [')'] after)) ?_
  simpa using takes.members op beforeParen afterParen m beforeClose

theorem tries_expression (here : (Cursor.start source).Leads before c)
    (takes : Takes before after) : Tries (Awaits source) expression c := by
  induction h : c.rest.length using Nat.strongRecOn generalizing before after c with
  | _ n ih =>
    subst h
    have tries : TriesBelow source expression c.rest.length :=
      fun before after d shorter here takes => ih _ shorter here takes rfl
    refine tries_of_eq (expression_eq c) (tries_rule (awaits_of_leads here
      (Rule.begins_expression aSentence (endsAt_of_atTerminator takes.ends _))
      (takes.accepted aSentence)) ?_)
    exact tries_orElse (tries_group tries here takes)
      (tries_orElse (tries_comparison here takes) tries_failure)

/-- Every rule that fails on the way of reading a filter expression is awaited there. -/
theorem tries_filter (source : List Char) : Tries (Awaits source) filter (Cursor.start source) := by
  have start := Cursor.Leads.refl (Cursor.start source)
  refine tries_rule (awaits_of_leads start (Rule.begins_filter aSentence)
    (by simpa [Tree.noBlanks] using (takes_start Tree.noBlanks).accepted aSentence)) ?_
  refine tries_followedBy (tries_skip _) fun _ d₁ found₁ => ?_
  obtain ⟨blanks, leads₁⟩ := spaces_leads found₁
  refine tries_followedBy (tries_expression leads₁ (takes_start blanks)) fun _ d₂ found₂ => ?_
  obtain ⟨s, leads₂⟩ := expression_leads found₂
  refine tries_followedBy (tries_skip _) fun _ d₃ found₃ => ?_
  obtain ⟨after, leads₃⟩ := spaces_leads found₃
  refine tries_followedBy (tries_token fun _ => ?_) fun _ _ _ => tries_nothing
  refine awaits_of_leads (leads₁.trans (leads₂.trans leads₃))
    (Rule.begins_endOfInput_iff.2 rfl) ?_
  simpa using accepted_end blanks after s

end Grammar

theorem blamed_ne_nil {source : List Char}
    (lost : (Grammar.filter (Cursor.start source)).found = none) :
    (Blame.ofTrials (Grammar.filter (Cursor.start source)).trials).rules ≠ [] := by
  rw [Grammar.filter, Recognizer.rule, Recognizer.rule_lost_iff.1 lost]
  exact Blame.rules_ofTrials_ne_nil _ _

/-- Where a source is refused, what stands before the blamed offset can be gone on with
to an accepted source, and so with text of each class that is named as expected. With the
end of input nothing else goes on. -/
theorem parse_blames_viable_position {source : String} {m : Mismatch}
    (refused : parse source = .error (.mismatch m)) :
    ∃ before rest, splitAt? source.toList m.offset = some (before, rest) ∧
      (∃ more, Accepted (before ++ more)) ∧
      ∀ name ∈ m.expected, ∃ r more, Rule.description r = name ∧ r.Begins more ∧
        (r = .endOfInput → more = []) ∧ Accepted (before ++ more) := by
  obtain ⟨lost, same⟩ := parse_eq_error_iff.1 refused
  obtain rfl := FilterError.mismatch.inj same
  have awaited := Blame.each_ofTrials (Grammar.tries_filter source.toList)
  obtain ⟨r, blamed⟩ := List.exists_mem_of_ne_nil _ (blamed_ne_nil lost)
  obtain ⟨before, rest, more, split, begins, accepted⟩ := awaited r blamed
  refine ⟨before, rest, split, ⟨more, accepted⟩, fun name listed => ?_⟩
  obtain ⟨s, named, rfl⟩ := List.mem_map.1 (List.mem_eraseDups.1 listed)
  obtain ⟨before', rest', more, split', begins, accepted⟩ := awaited s (Rule.mem_sort.1 named)
  obtain ⟨rfl, rfl⟩ := Prod.mk.inj (Option.some.inj (split.symm.trans split'))
  refine ⟨s, more, rfl, begins, fun last => ?_, accepted⟩
  subst last
  exact Rule.begins_endOfInput_iff.1 begins

theorem parse_blames_viable_position_group :
    ∃ m, parse "and (a = b, c column )" = .error (.mismatch m) ∧ m.offset = 21 ∧
      m.expected = ["operator", "value"] ∧ ∀ name ∈ m.expected, ∃ r more,
        Rule.description r = name ∧ r.Begins more ∧ (r = .endOfInput → more = []) ∧
          Accepted ("and (a = b, c column ".toList ++ more) := by
  have refused : parse "and (a = b, c column )" =
      .error (.mismatch ⟨21, ⟨1, 22⟩, ["operator", "value"], some ')'⟩) := by cbv
  obtain ⟨before, rest, split, -, each⟩ := parse_blames_viable_position refused
  obtain rfl : "and (a = b, c column ".toList = before := by
    have found : splitAt? "and (a = b, c column )".toList 21 =
        some ("and (a = b, c column ".toList, [')']) := by decide
    exact congrArg Prod.fst (Option.some.inj (found.symm.trans split))
  exact ⟨_, refused, rfl, rfl, each⟩

end InventoryQuery.Filter
