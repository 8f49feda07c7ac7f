import InventoryQuery.Proofs.Filter.Expressions

/-! The parser accepts exactly the layouts of trees: a source is read as a tree just
when it is a sentence between blanks and the tree is what the sentence says. -/
namespace InventoryQuery.Filter

open Text (byteLength)

namespace Grammar

open Recognizer

variable {c next : Cursor} {ps : List Phrase}

theorem filter_found (before after : Blanks) (s : Sentence)
    (whole : c.rest = before.text ++ (s.text ++ after.text)) :
    ∃ p last, (filter c).found = some ([p], last) ∧
      Phrase.filterTree [p] = .ok (s.tree (c.offset + byteLength before.text)) := by
  have ends := atTerminator_blanks after (show atTerminator [] = true from rfl)
  rw [List.append_nil] at ends
  have found₁ := spaces_found before (stops_isSpace_sentence s after.text) whole
  obtain ⟨p, found₂, isExpression, tree⟩ := expression_found s
    (c := c.advance before.text (s.text ++ after.text))
    (endsAt_of_atTerminator ends s) rfl
  have found₃ := spaces_found (c := (c.advance before.text (s.text ++ after.text)).advance
    s.text after.text) after (show stops isSpace [] = true from rfl)
      (by simp)
  have found₄ := token_found_iff (r := .endOfInput) (l := .endOfInput)
    (c := ((c.advance before.text (s.text ++ after.text)).advance s.text after.text).advance
      after.text []).2 ⟨[], [], rfl, rfl, rfl⟩
  have found := followedBy_found_iff.2 ⟨_, _, _, found₁, followedBy_found_iff.2
    ⟨_, _, _, found₂, followedBy_found_iff.2 ⟨_, _, _, found₃,
      followedBy_nothing_iff.2 found₄, rfl⟩, rfl⟩, rfl⟩
  exact ⟨_, _, rule_found found, (Phrase.filterTree_eq [] isExpression).trans tree⟩

theorem filter_sound (found : (filter c).found = some (ps, next)) :
    ∃ (before after : Blanks) (s : Sentence), c.rest = before.text ++ (s.text ++ after.text) := by
  obtain ⟨_, found, -⟩ := rule_found_iff.1 found
  obtain ⟨_, d₁, _, found₁, found, -⟩ := followedBy_found_iff.1 found
  obtain ⟨_, d₂, _, found₂, found, -⟩ := followedBy_found_iff.1 found
  obtain ⟨_, d₃, _, found₃, found, -⟩ := followedBy_found_iff.1 found
  obtain ⟨before, whole₁⟩ := spaces_sound found₁
  obtain ⟨s, whole₂, -⟩ := expression_sound found₂
  obtain ⟨after, whole₃⟩ := spaces_sound found₃
  obtain ⟨taken, rest, read, -, -⟩ := token_found_iff.1 (followedBy_nothing_iff.1 found)
  have last : d₃.rest = [] := by
    cases left : d₃.rest with
    | nil => rfl
    | cons d ds => simp [left, Lexeme.endOfInput] at read
  exact ⟨before, after, s, by simp [whole₁, whole₂, whole₃, last]⟩

end Grammar

theorem parseRanges_eq_ok {source : String} {phrases : List Phrase} {t : Tree Text.Range}
    (matched : Grammar.run .filter source = .ok phrases)
    (tree : Phrase.filterTree phrases = .ok t) : parseRanges source = .ok t := by
  simp only [parseRanges, matched, tree]
  rfl

theorem parseRanges_eq_ok_iff {source : String} {t : Tree Text.Range} :
    parseRanges source = .ok t ↔ ∃ (before after : Blanks) (s : Sentence),
      source.toList = before.text ++ (s.text ++ after.text) ∧
        t = s.tree (byteLength before.text) := by
  have complete (before after : Blanks) (s : Sentence)
      (whole : source.toList = before.text ++ (s.text ++ after.text)) :
      parseRanges source = .ok (s.tree (byteLength before.text)) := by
    obtain ⟨p, last, found, tree⟩ :=
      Grammar.filter_found (c := Cursor.start source.toList) before after s whole
    have start : (Cursor.start source.toList).offset = 0 := rfl
    rw [start, Nat.zero_add] at tree
    exact parseRanges_eq_ok (by simp [Grammar.run, Grammar.recognizer, found]) tree
  constructor
  · intro read
    cases found : (Grammar.filter (Cursor.start source.toList)).found with
    | none => simp [parseRanges, Grammar.run, Grammar.recognizer, found] at read
    | some split =>
      obtain ⟨ps, next⟩ := split
      obtain ⟨before, after, s, whole⟩ := Grammar.filter_sound found
      have same := complete before after s whole
      rw [read] at same
      exact ⟨before, after, s, whole, Except.ok.inj same⟩
  · rintro ⟨before, after, s, whole, rfl⟩
    exact complete before after s whole

theorem bare_map {σ τ : Type} (f : σ → τ) (t : Tree σ) : (t.map f).bare = t.bare :=
  Tree.map_map f (fun _ => ()) t

theorem parse_eq_ok_iff {source : String} {t : Tree Text.Span} :
    parse source = .ok t ↔ ∃ (before after : Blanks) (s : Sentence),
      source.toList = before.text ++ (s.text ++ after.text) ∧
        t = (s.tree (byteLength before.text)).map (Text.Span.ofRange source.toList) := by
  rw [parse]
  constructor
  · intro read
    cases ranges : parseRanges source with
    | error cause => simp [ranges, Except.map] at read
    | ok tree =>
      obtain ⟨before, after, s, whole, rfl⟩ := parseRanges_eq_ok_iff.1 ranges
      exact ⟨before, after, s, whole, by simpa [ranges, Except.map] using read.symm⟩
  · rintro ⟨before, after, s, whole, rfl⟩
    rw [parseRanges_eq_ok_iff.2 ⟨before, after, s, whole, rfl⟩]
    rfl

theorem parse_eq_error_iff {source : String} {e : FilterError} :
    parse source = .error e ↔ (Grammar.filter (Cursor.start source.toList)).found = none ∧
      e = .mismatch (.ofBlame source.toList
        (.ofTrials (Grammar.filter (Cursor.start source.toList)).trials)) := by
  cases found : (Grammar.filter (Cursor.start source.toList)).found with
  | none =>
    simp [parse, parseRanges, Grammar.run, Grammar.recognizer, found, Except.map, eq_comm]
  | some split =>
    obtain ⟨ps, next⟩ := split
    obtain ⟨before, after, s, whole⟩ := Grammar.filter_sound found
    simp [parse_eq_ok_iff.2 ⟨before, after, s, whole, rfl⟩]

/-- A tree can be built from all that the grammar finds. So no phrase lacks a part that it
should have, and a source is refused just when the grammar does not match it. -/
theorem parse_builds_every_match (source : String) :
    (∀ phrases, Grammar.run .filter source = .ok phrases → ∃ t,
      Phrase.filterTree phrases = .ok t ∧
        parse source = .ok (t.map (Text.Span.ofRange source.toList))) ∧
    ∀ e, parse source = .error e ↔
      ∃ cause, Grammar.run .filter source = .error cause ∧ e = .mismatch cause := by
  constructor
  · intro phrases matched
    cases found : (Grammar.filter (Cursor.start source.toList)).found with
    | none => simp [Grammar.run, Grammar.recognizer, found] at matched
    | some split =>
      obtain ⟨ps, next⟩ := split
      obtain rfl : ps = phrases := by simpa [Grammar.run, Grammar.recognizer, found] using matched
      obtain ⟨before, after, s, whole⟩ := Grammar.filter_sound found
      obtain ⟨p, last, again, tree⟩ := Grammar.filter_found before after s whole
      obtain ⟨rfl, -⟩ : [p] = ps ∧ last = next := by simpa [again] using found
      refine ⟨_, tree, ?_⟩
      rw [parse, parseRanges_eq_ok matched tree]
      rfl
  · intro e
    rw [parse_eq_error_iff]
    cases found : (Grammar.filter (Cursor.start source.toList)).found <;>
      simp [Grammar.run, Grammar.recognizer, found]

theorem parse_builds_every_match_nested :
    ∃ phrases t, Grammar.run .filter "or(a = 'é',and ( b column = c , d color >= red ))" =
        .ok phrases ∧
      Phrase.filterTree phrases = .ok t ∧
      parse "or(a = 'é',and ( b column = c , d color >= red ))" = .ok (t.map
        (Text.Span.ofRange "or(a = 'é',and ( b column = c , d color >= red ))".toList)) := by
  have rules : ((Grammar.run .filter "or(a = 'é',and ( b column = c , d color >= red ))").map
      (List.map Phrase.rule)).toOption = some [.filter] := by decide +kernel
  cases matched : Grammar.run .filter "or(a = 'é',and ( b column = c , d color >= red ))" with
  | error cause => simp [matched, Except.map, Except.toOption] at rules
  | ok phrases =>
    obtain ⟨t, tree, read⟩ := (parse_builds_every_match _).1 phrases matched
    exact ⟨phrases, t, rfl, tree, read⟩

/-- The parser accepts exactly the layouts of a tree, and reads that tree. -/
theorem parse_ok_iff_layout (source : String) (t : Tree Unit) :
    (∃ tree, parse source = .ok tree ∧ tree.bare = t) ↔ Layout t source.toList := by
  simp only [parse_eq_ok_iff]
  constructor
  · rintro ⟨_, ⟨before, after, s, whole, rfl⟩, rfl⟩
    exact ⟨before, after, s, by rw [bare_map, s.bare_tree], whole⟩
  · rintro ⟨before, after, s, rfl, whole⟩
    exact ⟨_, ⟨before, after, s, whole, rfl⟩, by rw [bare_map, s.bare_tree]⟩

end InventoryQuery.Filter
