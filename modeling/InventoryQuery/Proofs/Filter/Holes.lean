import Mathlib
import InventoryQuery.Proofs.Filter.Missing
import InventoryQuery.Proofs.Filter.Parsed
import InventoryQuery.Proofs.Filter.Places
import InventoryQuery.Proofs.Filter.Traversal

/-! Sources with a hole where a value was. Whatever stands before and behind a comparison, in
groups of any depth, the source without its value is blamed on a value, at the first character
behind the blanks that follow the operator. -/
namespace InventoryQuery.Filter

open Text (Span byteLength)

/-- A clause in a text, with blanks behind it and then the end or a closing sign. -/
structure Hole where
  before : List Char
  clause : Clause
  blanks : Blanks
  rest : List Char
  ended : Ended rest

namespace Hole

def filled (h : Hole) : List Char := h.before ++ (h.clause.text ++ (h.blanks.text ++ h.rest))

def emptied (h : Hole) : List Char :=
  h.before ++ (h.clause.beforeValue ++ (h.blanks.text ++ h.rest))

/-- Where the value is missing, behind all blanks. -/
def offset (h : Hole) : Nat := byteLength (h.before ++ (h.clause.beforeValue ++ h.blanks.text))

def behind (text : List Char) (h : Hole) : Hole := { h with before := text ++ h.before }

@[simp] theorem filled_behind (text : List Char) (h : Hole) :
    (h.behind text).filled = text ++ h.filled := by
  simp [filled, behind]

@[simp] theorem emptied_behind (text : List Char) (h : Hole) :
    (h.behind text).emptied = text ++ h.emptied := by
  simp [emptied, behind]

@[simp] theorem offset_behind (text : List Char) (h : Hole) :
    (h.behind text).offset = byteLength text + h.offset := by
  simp [offset, behind]

theorem stops_emptied {q : Char → Bool} {h : Hole} (stop : stops q h.filled = true) :
    stops q h.emptied = true := by
  have nonempty : h.before ++ h.clause.beforeValue ≠ [] := by
    simp [Clause.beforeValue, h.clause.operator.nonempty]
  have filled : h.filled = (h.before ++ h.clause.beforeValue) ++
      (h.clause.value.text ++ (h.blanks.text ++ h.rest)) := by simp [Hole.filled, Clause.text]
  have emptied : h.emptied = (h.before ++ h.clause.beforeValue) ++ (h.blanks.text ++ h.rest) := by
    simp [Hole.emptied]
  rw [filled] at stop
  rwa [emptied, stops_append_congr nonempty]

theorem offset_pos (h : Hole) : 0 < h.offset := by
  refine Text.byteLength_pos ?_
  simp [Clause.beforeValue, h.clause.operator.nonempty]

end Hole

/-- A comparison whose operator is not one of the words `column` and `color`. -/
def Comparison.Clear {σ : Type} (c : Comparison σ) : Prop :=
  c.mode = .plain → c.operator.toList ≠ columnWord ∧ c.operator.toList ≠ colorWord

theorem Clause.clear_of_comparison {k : Clause} {offset : Nat}
    (clear : (k.comparison offset).Clear) : k.Clear := by
  intro plain
  have words := clear (show k.form.mode = .plain by rw [plain]; rfl)
  have operator : (k.comparison offset).operator.toList = k.operator.text := String.toList_ofList
  rwa [operator] at words

mutual

theorem Sentence.exists_hole : (s : Sentence) → (offset : Nat) → (blanks : Blanks) →
    {rest : List Char} → Ended rest → {c : Comparison Text.Range} →
    c ∈ (s.tree offset).comparisons → c.Clear →
    ∃ h : Hole, s.text ++ (blanks.text ++ rest) = h.filled ∧
      c = h.clause.comparison (offset + byteLength h.before) ∧
      ∀ d : Cursor, d.rest = h.emptied →
        Recognizer.Misses Grammar.expression d .value (d.offset + h.offset)
  | .group op beforeParen afterParen m beforeClose, offset, blanks, rest, ended, c, member,
      clear => by
    rw [Sentence.tree, Tree.comparisons] at member
    -- The hole is that of a member, moved behind the opening of the group.
    obtain ⟨h, whole, same, stuck⟩ :=
      m.exists_hole _ beforeClose (blanks.text ++ rest) member clear
    refine ⟨h.behind (opening op beforeParen afterParen), ?_, ?_, fun d start => ?_⟩
    · rw [Hole.filled_behind, ← whole]
      simp [Sentence.text]
    · rw [same]
      simp [Hole.behind, Nat.add_assoc]
    · rw [Hole.emptied_behind] at start
      have blankless := Hole.stops_emptied (whole ▸ Grammar.stops_isSpace_members m _)
      have inner := stuck (d.advance (opening op beforeParen afterParen) h.emptied) rfl
      have later := h.offset_pos
      rw [Cursor.offset_advance, Nat.add_assoc] at inner
      rw [Hole.offset_behind]
      exact Grammar.expression_misses_of_group op beforeParen afterParen blankless start
        (by omega) inner
  | .comparison k, offset, blanks, rest, ended, c, member, clear => by
    rw [Sentence.tree, Tree.comparisons, List.mem_singleton] at member
    subst member
    refine ⟨⟨[], k, blanks, rest, ended⟩, rfl, by simp, fun d start => ?_⟩
    exact Grammar.expression_misses_of_clause k (Clause.clear_of_comparison clear) blanks ended start

theorem Members.exists_hole : (m : Members) → (offset : Nat) → (blanks : Blanks) →
    (tail : List Char) → {c : Comparison Text.Range} →
    c ∈ Tree.comparisonsOf (m.trees offset) → c.Clear →
    ∃ h : Hole, m.text ++ (blanks.text ++ ')' :: tail) = h.filled ∧
      c = h.clause.comparison (offset + byteLength h.before) ∧
      ∀ d : Cursor, d.rest = h.emptied → Grammar.StuckAt d (d.offset + h.offset)
  | .one s, offset, blanks, tail, c, member, clear => by
    rw [Members.trees, Tree.comparisonsOf, Tree.comparisonsOf, List.append_nil] at member
    obtain ⟨h, whole, same, misses⟩ := s.exists_hole offset blanks
      (show Ended (')' :: tail) from rfl) member clear
    exact ⟨h, whole, same, fun d start => .first (misses d start)⟩
  | .more s before after m, offset, blanks, tail, c, member, clear => by
    rw [Members.trees, Tree.comparisonsOf, List.mem_append] at member
    rcases member with member | member
    · obtain ⟨h, whole, same, misses⟩ := s.exists_hole offset before
        (show Ended (',' :: (after.text ++ (m.text ++ (blanks.text ++ ')' :: tail)))) from rfl)
        member clear
      refine ⟨h, ?_, same, fun d start => .first (misses d start)⟩
      rw [← whole]
      simp [Members.text]
    · obtain ⟨h, whole, same, stuck⟩ := m.exists_hole _ blanks tail member clear
      refine ⟨h.behind (s.text ++ (before.text ++ ',' :: after.text)), ?_, ?_, fun d start => ?_⟩
      · rw [Hole.filled_behind, ← whole]
        simp [Members.text]
      · rw [same]
        simp [Hole.behind, Nat.add_assoc]
      · rw [Hole.emptied_behind] at start
        have blankless := Hole.stops_emptied (whole ▸ Grammar.stops_isSpace_members m _)
        have inner := stuck (d.advance (s.text ++ (before.text ++ ',' :: after.text)) h.emptied) rfl
        rw [Cursor.offset_advance, Nat.add_assoc] at inner
        rw [Hole.offset_behind]
        exact Grammar.StuckAt.more s before after blankless (by simpa using start) inner (by omega)

end

theorem Comparison.Compiles.clear {c : Comparison Span} (compiles : c.Compiles) : c.Clear := by
  intro plain
  have listed := compiles.known
  rw [plain] at listed
  have each : ∀ operator ∈ (Opcode.table .plain).map Prod.fst,
      operator.toList ≠ columnWord ∧ operator.toList ≠ colorWord := by decide
  exact each _ listed

/-- What stands around the value of a comparison in a source: the text up to its operator,
the blanks behind that, the value, and what comes after it. -/
structure Comparison.Around (source : List Char) (c : Comparison Span)
    (before gap value after : List Char) : Prop where
  whole : source = before ++ (gap ++ (value ++ after))
  operatorStop : c.operatorPlace.stop = byteLength before
  valueStart : c.valuePlace.start = byteLength (before ++ gap)
  valueStop : c.valuePlace.stop = byteLength (before ++ (gap ++ value))
  gap_ne_nil : gap ≠ []
  blank : ∀ d ∈ gap, isSpace d = true

theorem filter_misses {c : Cursor} {rest : List Char} {p : Nat} (blanks : Blanks)
    (blankless : stops isSpace rest = true) (whole : c.rest = blanks.text ++ rest)
    (misses : Recognizer.Misses Grammar.expression (c.advance blanks.text rest) .value p)
    (start : c.offset < p) : Recognizer.Misses Grammar.filter c .value p := by
  have turns := Grammar.clean_spaces.turnsOn (Grammar.spaces_found blanks blankless whole)
    (Recognizer.sequence [Grammar.expression, Grammar.spaces, Grammar.endOfInput])
  exact (Recognizer.Misses.of_turnsOn turns (misses.followedBy _)).rule .filter start

def Hole.beforeGap (h : Hole) : List Char :=
  h.before ++ (h.clause.beforeOperator ++ h.clause.operator.text)

theorem Hole.around (h : Hole) {source before : List Char} (whole : source = before ++ h.filled) :
    ((h.clause.comparison (byteLength before + byteLength h.before)).map
      (Span.ofRange source)).Around source (before ++ h.beforeGap) h.clause.valueGap.text
        h.clause.value.text (h.blanks.text ++ h.rest) where
  whole := by simp [whole, Hole.filled, Hole.beforeGap, Clause.text, Clause.beforeValue]
  operatorStop := by
    simp [Comparison.map, Span.ofRange, Clause.comparison, Clause.placed, Hole.beforeGap,
      Nat.add_assoc]
  valueStart := by
    simp [Comparison.map, Span.ofRange, Clause.comparison, Clause.placed, Hole.beforeGap,
      Clause.beforeValue, Nat.add_assoc]
  valueStop := by
    simp [Comparison.map, Span.ofRange, Clause.comparison, Clause.placed, Hole.beforeGap,
      Clause.text, Clause.beforeValue, Nat.add_assoc]
  gap_ne_nil := h.clause.valueGap.nonempty
  blank := h.clause.valueGap.inside

theorem Hole.parse_emptied (h : Hole) (blanks : Blanks) (blankless : stops isSpace h.emptied = true)
    (misses : ∀ d : Cursor, d.rest = h.emptied →
      Recognizer.Misses Grammar.expression d .value (d.offset + h.offset)) :
    ∃ position, parse (String.ofList (blanks.text ++ h.emptied)) =
      .error (.mismatch ⟨byteLength blanks.text + h.offset, position, ["value"], h.rest.head?⟩) := by
  let before := blanks.text ++ (h.before ++ (h.clause.beforeValue ++ h.blanks.text))
  have whole : blanks.text ++ h.emptied = before ++ h.rest := by simp [before, Hole.emptied]
  have offset : byteLength before = byteLength blanks.text + h.offset := by
    simp [before, Hole.offset]
  have positive := h.offset_pos
  have missing := filter_misses blanks (c := Cursor.start (blanks.text ++ h.emptied)) blankless rfl
    (misses _ rfl) (by simp only [Cursor.offset_advance]; omega)
  have zero : (Cursor.start (blanks.text ++ h.emptied)).offset = 0 := rfl
  rw [Cursor.offset_advance, zero, Nat.zero_add, whole, ← offset] at missing
  rw [whole, ← offset]
  exact ⟨_, parse_of_misses (by omega) missing⟩

/-- In an accepted filter each value is needed where it stands. Without it the source is
refused at the first character behind the operator that is not blank, or at the end, and there
just a value is expected. -/
theorem parse_blames_missing_value {source : String} {d : Document}
    (accepted : (compileText source).result = .ok d) :
    ∃ t, parse source = .ok t ∧ ∀ c ∈ t.comparisons, ∃ before gap value after,
      c.Around source.toList before gap value after ∧
      ∃ m, parse (String.ofList (before ++ (gap ++ after))) = .error (.mismatch m) ∧
        m.offset = byteLength (before ++ (gap ++ after).takeWhile isSpace) ∧
        m.expected = ["value"] ∧ m.found = ((gap ++ after).dropWhile isSpace).head? := by
  obtain ⟨t, read, ok⟩ := compileText_eq_ok_iff.1 accepted
  have compiles := t.compiles_of_compile ok
  refine ⟨t, read, fun c member => ?_⟩
  have clear := (compiles c member).clear
  obtain ⟨blanks, after, s, whole, rfl⟩ := parse_eq_ok_iff.1 read
  rw [Tree.comparisons_map] at member
  obtain ⟨c, inside, rfl⟩ := List.mem_map.1 member
  obtain ⟨h, filled, rfl, misses⟩ := s.exists_hole _ after (show Ended [] from rfl) inside clear
  rw [List.append_nil] at filled
  have blankless := Hole.stops_emptied (filled ▸ Grammar.stops_isSpace_sentence s after.text)
  obtain ⟨position, refused⟩ := h.parse_emptied blanks blankless misses
  have gap : h.clause.valueGap.text ++ (h.blanks.text ++ h.rest) =
      (h.clause.widen h.blanks).valueGap.text ++ h.rest := (List.append_assoc ..).symm
  have blank := (h.clause.widen h.blanks).valueGap.inside
  have stop : stops isSpace h.rest = true := h.ended.stops (by decide) (by decide)
  have emptied : (blanks.text ++ h.beforeGap) ++ (h.clause.valueGap.text ++
      (h.blanks.text ++ h.rest)) = blanks.text ++ h.emptied := by
    simp [Hole.beforeGap, Hole.emptied, Clause.beforeValue]
  refine ⟨_, _, _, _, h.around (whole.trans (by rw [filled])), _, emptied ▸ refused, ?_, rfl, ?_⟩
  · rw [gap, takeWhile_append_stops blank stop]
    simp [Hole.offset, Hole.beforeGap, Clause.widen, Clause.beforeValue]
  · rw [gap, dropWhile_append_stops blank stop]

example : parse "or(a = 'x, y' , and(b column != c, d color >=  ), e = 1)" =
    .error (.mismatch ⟨47, ⟨1, 48⟩, ["value"], some ')'⟩) := by cbv

theorem parse_blames_missing_value_nested :
    ∃ d t c, (compileText "or(a = 'x, y' , and(b column != c, d color >= red ), e = 1)").result =
        .ok d ∧
      parse "or(a = 'x, y' , and(b column != c, d color >= red ), e = 1)" = .ok t ∧
      c ∈ t.comparisons ∧ c.column = "d" ∧ ∃ before gap value after m,
        c.Around "or(a = 'x, y' , and(b column != c, d color >= red ), e = 1)".toList
          before gap value after ∧
        parse (String.ofList (before ++ (gap ++ after))) = .error (.mismatch m) ∧
        m.expected = ["value"] := by
  have accepted : ∃ d, (compileText
      "or(a = 'x, y' , and(b column != c, d color >= red ), e = 1)").result = .ok d :=
    ⟨.entry "or" (.array [
      .entry "a" (.array [.string "eq", .string "x, y"]),
      .entry "and" (.array [
        .entry "b" (.array [.string "neq", .entry "column" (.string "c")]),
        .entry "d" (.array [.string "color", .string "gte", .number (.integer 30 (by decide))])]),
      .entry "e" (.array [.string "eq", .number (.integer 1 (by decide))])]), by cbv⟩
  have listed : (parse "or(a = 'x, y' , and(b column != c, d color >= red ), e = 1)").map
      (fun t => t.comparisons.map Comparison.column) = .ok ["a", "b", "d", "e"] := by cbv
  obtain ⟨d, accepted⟩ := accepted
  obtain ⟨t, read, each⟩ := parse_blames_missing_value accepted
  obtain ⟨c, member, column⟩ := exists_comparison_of_map read listed (show "d" ∈ _ by simp)
  obtain ⟨before, gap, value, after, around, m, refused, -, expected, -⟩ := each c member
  exact ⟨d, t, c, accepted, read, member, column, before, gap, value, after, m, around, refused,
    expected⟩

end InventoryQuery.Filter
