import InventoryQuery.Proofs.Filter.Parsed
import Mathlib

/-! The places of a tree that was read describe its source. A place lies between characters
and starts in the line and column that counting gives; that of a comparison begins with its
column and ends with its value, that of a group encloses those of its members one after
another, and only blanks stand outside the tree. -/
namespace InventoryQuery

namespace Text

/-- The place right after a text, by its line feeds and the characters since the last. -/
def counted (before : List Char) : Position :=
  ⟨before.count '\n' + 1, (before.reverse.takeWhile (· != '\n')).length + 1⟩

theorem Position.after_eq_counted (before : List Char) : after before = counted before := by
  induction before using List.reverseRecOn with
  | nil => rfl
  | append_singleton before c ih =>
    rw [after_append_singleton, ih, next]
    split
    next feed => simp [counted, feed]
    next other => simp [counted, other]

/-- The line and the column of an offset, where one that lies outside the source or inside
a character counts as the end. -/
def lineColumn (source : List Char) (offset : Nat) : Position :=
  counted ((splitAt? source offset).elim source Prod.fst)

theorem ofOffset_eq_lineColumn (source : List Char) (offset : Nat) :
    Position.ofOffset source offset = lineColumn source offset := by
  rw [Position.ofOffset, lineColumn]
  cases splitAt? source offset <;> exact Position.after_eq_counted _

/-- A place that is not empty, lies between characters of a source, and knows the line
and the column of its start. -/
structure Span.Marks (source : List Char) (place : Span) : Prop where
  nonempty : place.start < place.stop
  inside : place.stop ≤ byteLength source
  startsBetween : (splitAt? source place.start).isSome = true
  stopsBetween : (splitAt? source place.stop).isSome = true
  position : place.position = lineColumn source place.start

theorem Span.marks_of_split {source before text after : List Char} (nonempty : text ≠ [])
    (whole : source = before ++ (text ++ after)) :
    Marks source (.ofRange source ⟨byteLength before, byteLength before + byteLength text⟩) where
  nonempty := Nat.lt_add_of_pos_right (byteLength_pos nonempty)
  inside := by
    simp only [whole, ofRange, byteLength_append]
    omega
  startsBetween := by simp [whole, ofRange, splitAt?_append]
  stopsBetween := by
    rw [whole, ← List.append_assoc, ofRange, ← byteLength_append, splitAt?_append]
    rfl
  position := ofOffset_eq_lineColumn source _

end Text

namespace Filter

open Text (Span byteLength slice?)

/-- A comparison whose places describe it in a source. -/
structure Comparison.Describes (source : List Char) (c : Comparison Span) : Prop where
  place : c.place.Marks source
  operatorPlace : c.operatorPlace.Marks source
  valuePlace : c.valuePlace.Marks source
  column : slice? source ⟨c.place.start, c.place.start + byteLength c.column.toList⟩ =
    some c.column.toList
  operator : slice? source c.operatorPlace.toRange = some c.operator.toList
  columnFirst : c.place.start + byteLength c.column.toList < c.operatorPlace.start
  operatorNext : c.operatorPlace.stop < c.valuePlace.start
  valueLast : c.valuePlace.stop = c.place.stop

/-- A node whose places describe it in a source. -/
def Tree.Describes (source : List Char) : Tree Span → Prop
  | group _ members place =>
    place.Marks source ∧
      (∀ member ∈ members, place.start < member.place.start ∧ member.place.stop < place.stop) ∧
      members.Pairwise fun earlier later => earlier.place.stop < later.place.start
  | comparison content => content.Describes source

theorem opening_ne_nil (connective : Connective) (beforeParen afterParen : Blanks) :
    opening connective beforeParen afterParen ≠ [] := by
  simp [opening]

theorem Clause.text_ne_nil (k : Clause) : k.text ≠ [] := by
  rw [Clause.text]
  exact List.append_ne_nil_of_right_ne_nil _ k.value.text_ne_nil

theorem Sentence.text_ne_nil (s : Sentence) : s.text ≠ [] := by
  cases s with
  | group connective beforeParen afterParen members beforeClose => simp [Sentence.text]
  | comparison clause => exact clause.text_ne_nil

theorem Sentence.place_tree (s : Sentence) (offset : Nat) :
    (s.tree offset).place = ⟨offset, offset + byteLength s.text⟩ := by
  cases s <;> rw [Sentence.tree] <;> rfl

theorem Clause.around_operator (k : Clause) (left right : List Char) :
    left ++ (k.text ++ right) = (left ++ k.beforeOperator) ++
      (k.operator.text ++ (k.valueGap.text ++ (k.value.text ++ right))) := by
  simp [text, beforeValue]

theorem Clause.around_value (k : Clause) (left right : List Char) :
    left ++ (k.text ++ right) = (left ++ k.beforeValue) ++ (k.value.text ++ right) := by
  simp [text]

theorem Clause.describes (k : Clause) {source left right : List Char}
    (whole : source = left ++ (k.text ++ right)) :
    ((k.comparison (byteLength left)).map (Span.ofRange source)).Describes source := by
  have gap := Text.byteLength_pos k.gap.nonempty
  have valueGap := Text.byteLength_pos k.valueGap.nonempty
  -- The source around each part of the clause.
  have aroundOperator := whole.trans (k.around_operator left right)
  have aroundValue := whole.trans (k.around_value left right)
  have aroundColumn : source = left ++ (k.column.text ++ ((k.gap.text ++ k.form.text) ++
      (k.operator.text ++ (k.valueGap.text ++ (k.value.text ++ right))))) := by
    simp [aroundOperator, Clause.beforeOperator]
  have valueEnd : byteLength k.text = byteLength k.beforeValue + byteLength k.value.text :=
    Text.byteLength_append _ _
  exact {
    place := Text.Span.marks_of_split k.text_ne_nil whole
    operatorPlace := by
      have marks := Text.Span.marks_of_split k.operator.nonempty aroundOperator
      rwa [Text.byteLength_append] at marks
    valuePlace := by
      have marks := Text.Span.marks_of_split k.value.text_ne_nil aroundValue
      rwa [Text.byteLength_append, Nat.add_assoc, ← valueEnd] at marks
    column := by
      have slice := Text.slice?_append left k.column.text
        ((k.gap.text ++ k.form.text) ++
          (k.operator.text ++ (k.valueGap.text ++ (k.value.text ++ right))))
      rw [← aroundColumn] at slice
      simpa [Clause.comparison, Clause.placed, Comparison.map, Span.ofRange] using slice
    operator := by
      have slice := Text.slice?_append (left ++ k.beforeOperator) k.operator.text
        (k.valueGap.text ++ (k.value.text ++ right))
      rw [← aroundOperator, Text.byteLength_append] at slice
      simpa [Clause.comparison, Clause.placed, Comparison.map, Span.ofRange] using slice
    columnFirst := by
      simp only [Clause.comparison, Clause.placed, Comparison.map, Span.ofRange,
        Clause.beforeOperator, Text.byteLength_append, String.toList_ofList]
      omega
    operatorNext := by
      simp only [Clause.comparison, Clause.placed, Comparison.map, Span.ofRange,
        Clause.beforeValue, Text.byteLength_append]
      omega
    valueLast := rfl }

theorem Members.places_trees (m : Members) (offset : Nat) :
    (∀ t ∈ m.trees offset, offset ≤ t.place.start ∧ t.place.stop ≤ offset + byteLength m.text) ∧
      (m.trees offset).Pairwise fun earlier later => earlier.place.stop < later.place.start := by
  cases m with
  | one sentence =>
    rw [Members.trees, Members.text]
    simp [sentence.place_tree]
  | more sentence beforeComma afterComma rest =>
    obtain ⟨between, apart⟩ := rest.places_trees
      (offset + byteLength (sentence.text ++ (beforeComma.text ++ ',' :: afterComma.text)))
    have whole : byteLength (Members.more sentence beforeComma afterComma rest).text =
        byteLength (sentence.text ++ (beforeComma.text ++ ',' :: afterComma.text)) +
          byteLength rest.text := by
      rw [← Text.byteLength_append]
      simp [Members.text]
    have comma : byteLength sentence.text <
        byteLength (sentence.text ++ (beforeComma.text ++ ',' :: afterComma.text)) := by
      have positive := Char.utf8Size_pos ','
      simp only [Text.byteLength_append, Text.byteLength_cons]
      omega
    rw [Members.trees]
    refine ⟨fun t inside => ?_, List.pairwise_cons.2 ⟨fun t inside => ?_, apart⟩⟩
    · rcases List.mem_cons.1 inside with rfl | inside
      · rw [sentence.place_tree]
        simp only
        omega
      · have bounds := between t inside
        omega
    · have bounds := between t inside
      rw [sentence.place_tree]
      simp only
      omega

theorem Sentence.describes (s : Sentence) {source left right : List Char}
    (whole : source = left ++ (s.text ++ right)) :
    ((s.tree (byteLength left)).map (Span.ofRange source)).Describes source := by
  have marks := Text.Span.marks_of_split s.text_ne_nil whole
  cases s with
  | group connective beforeParen afterParen members beforeClose =>
    rw [Sentence.tree, Tree.map, Tree.mapMembers_eq_map, Tree.Describes]
    obtain ⟨between, apart⟩ := members.places_trees
      (byteLength left + byteLength (opening connective beforeParen afterParen))
    refine ⟨marks, fun member inside => ?_, List.pairwise_map.2 ?_⟩
    · obtain ⟨t, here, rfl⟩ := List.mem_map.1 inside
      have bounds := between t here
      have opened := Text.byteLength_pos (opening_ne_nil connective beforeParen afterParen)
      have positive := Char.utf8Size_pos ')'
      simp only [Tree.place_map, Span.ofRange, Sentence.text, Text.byteLength_append,
        Text.byteLength_cons, Text.byteLength_nil]
      omega
    · simpa [Tree.place_map, Span.ofRange] using apart
  | comparison clause =>
    rw [Sentence.tree, Tree.map, Tree.Describes]
    exact clause.describes whole

/-- The places of every node of a tree that was read describe the node, and what lies
outside the place of the tree is blank. -/
theorem parse_places {source : String} {t : Tree Span} (read : parse source = .ok t) :
    (∀ node ∈ t.nodes, node.Describes source.toList) ∧
      ∃ before text after, source.toList = before ++ (text ++ after) ∧
        t.place.toRange = ⟨byteLength before, byteLength (before ++ text)⟩ ∧
        ∀ c ∈ before ++ after, isSpace c = true := by
  obtain ⟨before, after, s, whole, rfl⟩ := parse_eq_ok_iff.1 read
  refine ⟨fun node inside => ?_, before.text, s.text, after.text, whole, ?_, ?_⟩
  · rw [Tree.nodes_map] at inside
    obtain ⟨u, here, rfl⟩ := List.mem_map.1 inside
    obtain ⟨inner, left, right, same, rfl⟩ := s.exists_sentence before.text after.text here
    exact inner.describes (whole.trans same)
  · rw [Tree.place_map, s.place_tree, Text.byteLength_append]
    rfl
  · simp only [List.mem_append]
    rintro c (first | last)
    · exact before.inside c first
    · exact after.inside c last

def threeLines : Tree Span :=
  .group .or
    [.comparison ⟨"a", "=", .literal (.string "é\n"), .plain,
        ⟨⟨4, 13⟩, ⟨1, 5⟩⟩, ⟨⟨6, 7⟩, ⟨1, 7⟩⟩, ⟨⟨8, 13⟩, ⟨1, 9⟩⟩⟩,
      .comparison ⟨"b", "=", .column "c", .column,
        ⟨⟨16, 28⟩, ⟨3, 2⟩⟩, ⟨⟨25, 26⟩, ⟨3, 11⟩⟩, ⟨⟨27, 28⟩, ⟨3, 13⟩⟩⟩]
    ⟨⟨1, 29⟩, ⟨1, 2⟩⟩

theorem parse_places_three_lines :
    parse " or(a = 'é\n',\n b column = c)" = .ok threeLines ∧
      ∀ node ∈ threeLines.nodes, node.Describes " or(a = 'é\n',\n b column = c)".toList := by
  have read : parse " or(a = 'é\n',\n b column = c)" = .ok threeLines := by cbv
  exact ⟨read, (parse_places read).1⟩

end Filter

end InventoryQuery
