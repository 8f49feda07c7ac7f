import InventoryQuery.Proofs.Filter.Spans

/-! Cutting a node out of its source. What a sentence says does not depend on where it
stands, and what follows it there is replaced by the end of the source, so the stretch of
a node reads as that node, with all its places moved to the front. -/
namespace InventoryQuery

namespace Text

/-- A stretch as far behind an offset as it stood behind the start. -/
def Range.behind (offset : Nat) (range : Range) : Range :=
  ⟨offset + range.start, offset + range.stop⟩

end Text

namespace Filter

open Text (Span byteLength slice?)

theorem Clause.comparison_add (k : Clause) (base offset : Nat) :
    k.comparison (base + offset) = (k.comparison offset).map (Text.Range.behind base) := by
  simp [comparison, placed, Comparison.map, Text.Range.behind, Nat.add_assoc]

mutual

theorem Sentence.tree_add (base offset : Nat) : (s : Sentence) →
    s.tree (base + offset) = (s.tree offset).map (Text.Range.behind base)
  | .group connective beforeParen afterParen members beforeClose => by
    rw [Sentence.tree, Sentence.tree, Tree.map, Nat.add_assoc, Nat.add_assoc,
      members.trees_add]
    rfl
  | .comparison clause => by
    rw [Sentence.tree, Sentence.tree, Tree.map, clause.comparison_add]

theorem Members.trees_add (base offset : Nat) : (m : Members) →
    m.trees (base + offset) = Tree.mapMembers (Text.Range.behind base) (m.trees offset)
  | .one sentence => by
    rw [Members.trees, Members.trees, Tree.mapMembers, Tree.mapMembers, sentence.tree_add]
  | .more sentence beforeComma afterComma rest => by
    rw [Members.trees, Members.trees, Tree.mapMembers, sentence.tree_add, Nat.add_assoc,
      rest.trees_add]

end

theorem Sentence.parse_text (s : Sentence) :
    parse (String.ofList s.text) = .ok ((s.tree 0).map (Span.ofRange s.text)) :=
  parse_eq_ok_iff.2 ⟨Tree.noBlanks, Tree.noBlanks, s, by simp [Tree.noBlanks],
    by rw [String.toList_ofList]; rfl⟩

/-- Every node of a tree that was read can be cut out of the source by its place. The
stretch is read as the node, with each place as far behind the start as it stood behind
the start of the node, and with the lines and columns of the stretch. -/
theorem parse_slice {source : String} {t node : Tree Span} (read : parse source = .ok t)
    (inside : node ∈ t.nodes) :
    ∃ (text : List Char) (cut : Tree Text.Range),
      slice? source.toList node.place.toRange = some text ∧
      parse (String.ofList text) = .ok (cut.map (Span.ofRange text)) ∧
      node.map Span.toRange = cut.map (Text.Range.behind node.place.start) := by
  obtain ⟨before, after, s, whole, rfl⟩ := parse_eq_ok_iff.1 read
  rw [Tree.nodes_map] at inside
  obtain ⟨ranged, here, rfl⟩ := List.mem_map.1 inside
  obtain ⟨inner, left, right, same, rfl⟩ := s.exists_sentence before.text after.text here
  have place : ((inner.tree (byteLength left)).map (Span.ofRange source.toList)).place =
      Span.ofRange source.toList ⟨byteLength left, byteLength left + byteLength inner.text⟩ := by
    rw [Tree.place_map, inner.place_tree]
  refine ⟨inner.text, inner.tree 0, ?_, inner.parse_text, ?_⟩
  · rw [place, whole, same]
    exact Text.slice?_append left inner.text right
  · have moved := inner.tree_add (byteLength left) 0
    rw [Nat.add_zero] at moved
    rw [place, moved, Tree.map_map, Tree.map_map]
    rfl

/-- The group inside ` or(x = 'é\n', and(a = b, c column = d))`. -/
def innerGroup : Tree Span :=
  .group .and
    [.comparison ⟨"a", "=", .literal (.string "b"), .plain,
        ⟨⟨19, 24⟩, ⟨2, 8⟩⟩, ⟨⟨21, 22⟩, ⟨2, 10⟩⟩, ⟨⟨23, 24⟩, ⟨2, 12⟩⟩⟩,
      .comparison ⟨"c", "=", .column "d", .column,
        ⟨⟨26, 38⟩, ⟨2, 15⟩⟩, ⟨⟨35, 36⟩, ⟨2, 24⟩⟩, ⟨⟨37, 38⟩, ⟨2, 26⟩⟩⟩]
    ⟨⟨15, 39⟩, ⟨2, 4⟩⟩

def outerGroup : Tree Span :=
  .group .or
    [.comparison ⟨"x", "=", .literal (.string "é\n"), .plain,
        ⟨⟨4, 13⟩, ⟨1, 5⟩⟩, ⟨⟨6, 7⟩, ⟨1, 7⟩⟩, ⟨⟨8, 13⟩, ⟨1, 9⟩⟩⟩,
      innerGroup]
    ⟨⟨1, 40⟩, ⟨1, 2⟩⟩

theorem parse_slice_inner_group :
    parse " or(x = 'é\n', and(a = b, c column = d))" = .ok outerGroup ∧
      ∃ (text : List Char) (cut : Tree Text.Range),
        slice? " or(x = 'é\n', and(a = b, c column = d))".toList ⟨15, 39⟩ = some text ∧
        parse (String.ofList text) = .ok (cut.map (Span.ofRange text)) ∧
        innerGroup.map Span.toRange = cut.map (Text.Range.behind 15) := by
  have read : parse " or(x = 'é\n', and(a = b, c column = d))" = .ok outerGroup := by cbv
  have inside : innerGroup ∈ outerGroup.nodes := by
    simp [outerGroup, innerGroup, Tree.nodes, Tree.nodesOf]
  exact ⟨read, parse_slice read inside⟩

end Filter

end InventoryQuery
