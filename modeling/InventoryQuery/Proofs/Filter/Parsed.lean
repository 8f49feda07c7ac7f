import InventoryQuery.Proofs.Filter.Alike
import InventoryQuery.Proofs.Filter.Canonical

/-! The nodes of a tree that was read. Each is a sentence of the source, a comparison is
a clause, and its places lie where the parts of the clause stand. -/
namespace InventoryQuery

namespace Text

/-- The characters of a stretch whose ends lie between characters. -/
def slice? (source : List Char) (range : Range) : Option (List Char) :=
  (splitAt? source range.start).bind fun (_, rest) =>
    (splitAt? rest (range.stop - range.start)).map fun (text, _) => text

theorem slice?_append (before text after : List Char) :
    slice? (before ++ (text ++ after))
      ⟨byteLength before, byteLength before + byteLength text⟩ = some text := by
  simp only [slice?, splitAt?_append, Option.bind_some, Nat.add_sub_cancel_left, Option.map_some]

end Text

namespace Filter

open Text (Span byteLength slice?)

variable {σ τ : Type}

namespace Tree

mutual

theorem comparisons_map (f : σ → τ) : (t : Tree σ) →
    (t.map f).comparisons = t.comparisons.map (Comparison.map f)
  | group _ members _ => by rw [map, comparisons, comparisons, comparisonsOf_map f members]
  | comparison content => by rw [map, comparisons, comparisons, List.map_singleton]

theorem comparisonsOf_map (f : σ → τ) : (ts : List (Tree σ)) →
    comparisonsOf (mapMembers f ts) = (comparisonsOf ts).map (Comparison.map f)
  | [] => rfl
  | member :: rest => by
    rw [mapMembers, comparisonsOf, comparisonsOf, List.map_append, comparisons_map f member,
      comparisonsOf_map f rest]

end

mutual

/-- The nodes of a tree, a group before its members. -/
def nodes : Tree σ → List (Tree σ)
  | group connective members place => group connective members place :: nodesOf members
  | comparison content => [comparison content]

def nodesOf : List (Tree σ) → List (Tree σ)
  | [] => []
  | member :: rest => nodes member ++ nodesOf rest

end

mutual

theorem nodes_map (f : σ → τ) : (t : Tree σ) → (t.map f).nodes = t.nodes.map (map f)
  | group _ members _ => by
    rw [map, nodes, nodes, List.map_cons, nodesOf_map f members, map]
  | comparison content => by rw [map, nodes, nodes, List.map_singleton, map]

theorem nodesOf_map (f : σ → τ) : (ts : List (Tree σ)) →
    nodesOf (mapMembers f ts) = (nodesOf ts).map (map f)
  | [] => rfl
  | member :: rest => by
    rw [mapMembers, nodesOf, nodesOf, List.map_append, nodes_map f member, nodesOf_map f rest]

end

mutual

theorem comparison_mem_nodes : (t : Tree σ) → ∀ c ∈ t.comparisons, comparison c ∈ t.nodes
  | group _ members _, c, inside => by
    rw [comparisons] at inside
    exact List.mem_cons_of_mem _ (comparison_mem_nodesOf members c inside)
  | comparison _, c, inside => by
    rw [comparisons, List.mem_singleton] at inside
    rw [nodes, inside]
    exact List.mem_singleton.2 rfl

theorem comparison_mem_nodesOf : (ts : List (Tree σ)) →
    ∀ c ∈ comparisonsOf ts, comparison c ∈ nodesOf ts
  | [], _, nowhere => by simp [comparisonsOf] at nowhere
  | member :: rest, c, inside => by
    rw [comparisonsOf] at inside
    rw [nodesOf, List.mem_append]
    exact (List.mem_append.1 inside).imp (comparison_mem_nodes member c)
      (comparison_mem_nodesOf rest c)

end

theorem mapMembers_eq_map (f : σ → τ) (ts : List (Tree σ)) : mapMembers f ts = ts.map (map f) := by
  induction ts with
  | nil => rfl
  | cons t ts ih => rw [mapMembers, ih, List.map_cons]

theorem Legible.map (f : σ → τ) {t : Tree σ} (legible : t.Legible) : (t.map f).Legible := by
  induction legible with
  | group nonempty each ih =>
    rw [Tree.map, mapMembers_eq_map]
    refine .group (by simpa using nonempty) fun member inside => ?_
    obtain ⟨t, here, rfl⟩ := List.mem_map.1 inside
    exact ih t here
  | comparison legible =>
    rw [Tree.map]
    exact .comparison { legible with }

end Tree

mutual

theorem Sentence.exists_sentence (s : Sentence) (before after : List Char) {t : Tree Text.Range}
    (member : t ∈ (s.tree (byteLength before)).nodes) :
    ∃ (inner : Sentence) (left right : List Char),
      before ++ (s.text ++ after) = left ++ (inner.text ++ right) ∧
        t = inner.tree (byteLength left) := by
  cases s with
  | group connective beforeParen afterParen members beforeClose =>
    rw [Sentence.tree, Tree.nodes, List.mem_cons, ← Text.byteLength_append] at member
    rcases member with root | member
    · exact ⟨_, before, after, rfl, by rw [root, Sentence.tree, Text.byteLength_append]⟩
    · obtain ⟨inner, left, right, whole, same⟩ := members.exists_sentence
        (before ++ opening connective beforeParen afterParen)
        (beforeClose.text ++ ')' :: after) member
      exact ⟨inner, left, right, by rw [← whole]; simp [Sentence.text], same⟩
  | comparison clause =>
    rw [Sentence.tree, Tree.nodes, List.mem_singleton] at member
    exact ⟨.comparison clause, before, after, rfl, by rw [member, Sentence.tree]⟩

theorem Members.exists_sentence (m : Members) (before after : List Char) {t : Tree Text.Range}
    (member : t ∈ Tree.nodesOf (m.trees (byteLength before))) :
    ∃ (inner : Sentence) (left right : List Char),
      before ++ (m.text ++ after) = left ++ (inner.text ++ right) ∧
        t = inner.tree (byteLength left) := by
  cases m with
  | one sentence =>
    rw [Members.trees, Tree.nodesOf, Tree.nodesOf, List.append_nil] at member
    exact sentence.exists_sentence before after member
  | more sentence beforeComma afterComma rest =>
    rw [Members.trees, Tree.nodesOf, ← Text.byteLength_append] at member
    rcases List.mem_append.1 member with member | member
    · obtain ⟨inner, left, right, whole, same⟩ := sentence.exists_sentence before
        (beforeComma.text ++ ',' :: (afterComma.text ++ (rest.text ++ after))) member
      exact ⟨inner, left, right, by rw [← whole]; simp [Members.text], same⟩
    · obtain ⟨inner, left, right, whole, same⟩ := rest.exists_sentence _ after member
      exact ⟨inner, left, right, by rw [← whole]; simp [Members.text], same⟩

end

theorem Sentence.exists_clause (s : Sentence) (before after : List Char)
    {c : Comparison Text.Range} (member : c ∈ (s.tree (byteLength before)).comparisons) :
    ∃ (k : Clause) (left right : List Char),
      before ++ (s.text ++ after) = left ++ (k.text ++ right) ∧
        c = k.comparison (byteLength left) := by
  obtain ⟨inner, left, right, whole, same⟩ :=
    s.exists_sentence before after (Tree.comparison_mem_nodes _ c member)
  cases inner with
  | group connective beforeParen afterParen members beforeClose => simp [Sentence.tree] at same
  | comparison k =>
    rw [Sentence.tree, Tree.comparison.injEq] at same
    exact ⟨k, left, right, whole, same⟩

mutual

theorem Sentence.legible_tree (s : Sentence) (offset : Nat)
    (each : ∀ c ∈ (s.tree offset).comparisons, c.Legible) : (s.tree offset).Legible := by
  cases s with
  | group connective beforeParen afterParen members beforeClose =>
    rw [Sentence.tree] at each ⊢
    obtain ⟨nonempty, legible⟩ := members.legible_trees _ each
    exact .group nonempty legible
  | comparison clause =>
    rw [Sentence.tree] at each ⊢
    exact .comparison (each _ (by simp [Tree.comparisons]))

theorem Members.legible_trees (m : Members) (offset : Nat)
    (each : ∀ c ∈ Tree.comparisonsOf (m.trees offset), c.Legible) :
    m.trees offset ≠ [] ∧ ∀ t ∈ m.trees offset, t.Legible := by
  cases m with
  | one sentence =>
    rw [Members.trees] at each ⊢
    rw [Tree.comparisonsOf, Tree.comparisonsOf, List.append_nil] at each
    exact ⟨by simp, by simpa using sentence.legible_tree offset each⟩
  | more sentence beforeComma afterComma rest =>
    rw [Members.trees] at each ⊢
    rw [Tree.comparisonsOf] at each
    have first := sentence.legible_tree offset fun c inside =>
      each c (List.mem_append_left _ inside)
    have others := rest.legible_trees _ fun c inside => each c (List.mem_append_right _ inside)
    refine ⟨by simp, fun t inside => ?_⟩
    rcases List.mem_cons.1 inside with rfl | inside
    · exact first
    · exact others.2 t inside

end

theorem legible_of_parse {source : String} {t : Tree Span} (read : parse source = .ok t)
    (each : ∀ c ∈ t.comparisons, c.Legible) : t.Legible := by
  obtain ⟨before, after, s, whole, rfl⟩ := parse_eq_ok_iff.1 read
  refine (s.legible_tree _ fun c inside => ?_).map _
  rw [Tree.comparisons_map] at each
  exact { each _ (List.mem_map_of_mem inside) with }

theorem exists_clause_of_parse {source : String} {t : Tree Span} (read : parse source = .ok t)
    {c : Comparison Span} (member : c ∈ t.comparisons) :
    ∃ (k : Clause) (left right : List Char), source.toList = left ++ (k.text ++ right) ∧
      c = (k.comparison (byteLength left)).map (Span.ofRange source.toList) := by
  obtain ⟨before, after, s, whole, rfl⟩ := parse_eq_ok_iff.1 read
  rw [Tree.comparisons_map] at member
  obtain ⟨_, inside, rfl⟩ := List.mem_map.1 member
  obtain ⟨k, left, right, same, rfl⟩ := s.exists_clause before.text after.text inside
  exact ⟨k, left, right, whole.trans same, rfl⟩

theorem exists_comparison_of_map {α : Type} {f : Comparison Span → α} {xs : List α} {x : α}
    {source : String} {t : Tree Span} (read : parse source = .ok t)
    (listed : (parse source).map (fun t => t.comparisons.map f) = .ok xs) (inside : x ∈ xs) :
    ∃ c ∈ t.comparisons, f c = x := by
  rw [read] at listed
  obtain rfl : t.comparisons.map f = xs := Except.ok.inj listed
  exact List.mem_map.1 inside

theorem fits_of_parse {source : String} {t : Tree Span} (read : parse source = .ok t)
    {c : Comparison Span} (member : c ∈ t.comparisons) : c.Fits := by
  obtain ⟨k, left, right, -, rfl⟩ := exists_clause_of_parse read member
  rw [Comparison.Fits]
  cases mode : k.form.mode <;>
    simp [Comparison.map, Clause.comparison, Clause.placed, mode, Value.operand]

theorem comparison_legible_of_parse {source : String} {t : Tree Span}
    (read : parse source = .ok t) {c : Comparison Span} (member : c ∈ t.comparisons)
    (unambiguous : c.mode = .plain →
      c.operator.toList = columnWord ∨ c.operator.toList = colorWord →
        stops isOperatorChar c.operand.canonical = true)
    (operand : c.operand.Legible c.mode) : c.Legible := by
  obtain ⟨k, left, right, -, rfl⟩ := exists_clause_of_parse read member
  have column : (String.ofList k.column.text).toList = k.column.text := String.toList_ofList
  have operator : (String.ofList k.operator.text).toList = k.operator.text :=
    String.toList_ofList
  exact {
    column := column ▸ k.column.isRun_text
    operator := operator ▸ k.operator.isRun_text
    unambiguous := unambiguous
    operand := operand }

theorem Clause.slice?_value (k : Clause) (left right : List Char) :
    slice? (left ++ (k.text ++ right)) (k.comparison (byteLength left)).valuePlace =
      some k.value.text := by
  have place : (k.comparison (byteLength left)).valuePlace =
      ⟨byteLength (left ++ k.beforeValue),
        byteLength (left ++ k.beforeValue) + byteLength k.value.text⟩ := by
    simp [Clause.comparison, Clause.placed, Clause.text, Nat.add_assoc]
  rw [place, Clause.text, List.append_assoc, ← List.append_assoc left]
  exact Text.slice?_append _ _ _

end Filter

end InventoryQuery
