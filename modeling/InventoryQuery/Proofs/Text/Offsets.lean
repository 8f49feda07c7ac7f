import InventoryQuery.Proofs.Filter.Spans
import InventoryQuery.Proofs.Text.Lines

/-! Offsets and places of a text. A place further on in a text comes later, by its line first
and by its column second; so it tells its offset, which lies as many characters behind the
start of its line as come before its column. -/
namespace InventoryQuery.Text

variable {source : List Char}

/-- An offset between two characters of a source, or at one of its ends. -/
def IsBoundary (source : List Char) (offset : ℕ) : Prop :=
  ∃ before rest, source = before ++ rest ∧ offset = byteLength before

theorem isBoundary_iff {offset : ℕ} :
    IsBoundary source offset ↔ (splitAt? source offset).isSome = true := by
  constructor
  · rintro ⟨before, rest, rfl, rfl⟩
    rw [splitAt?_append]
    rfl
  · intro found
    obtain ⟨⟨before, rest⟩, split⟩ := Option.isSome_iff_exists.1 found
    exact ⟨before, rest, eq_of_splitAt? split⟩

instance (source : List Char) : DecidablePred (IsBoundary source) :=
  fun _ => decidable_of_iff _ isBoundary_iff.symm

/-- A text cut at the start of a line, behind as many line feeds as come before that line. -/
def cutAtLine? : ℕ → List Char → Option (List Char × List Char)
  | 0, cs => some ([], cs)
  | _ + 1, [] => none
  | feeds + 1, c :: cs =>
    (cutAtLine? (if c = '\n' then feeds else feeds + 1) cs).map
      fun (before, line) => (c :: before, line)

theorem cutAtLine?_append {head : List Char} (starts : head = [] ∨ head.getLast? = some '\n')
    (tail : List Char) : cutAtLine? (head.count '\n') (head ++ tail) = some (head, tail) := by
  induction head with
  | nil => rw [List.count_nil, List.nil_append, cutAtLine?]
  | cons c cs ih =>
    have feed : '\n' ∈ c :: cs := List.mem_of_getLast? (starts.resolve_left (List.cons_ne_nil c cs))
    have starts' : cs = [] ∨ cs.getLast? = some '\n' := by
      cases cs with
      | nil => exact .inl rfl
      | cons d ds => exact .inr (by simpa using starts)
    obtain ⟨feeds, counted⟩ := Nat.exists_eq_add_one.2 (List.count_pos_iff.2 feed)
    have left : (if c = '\n' then feeds else feeds + 1) = cs.count '\n' := by
      rw [List.count_cons] at counted
      split_ifs with here
      · simpa [here] using counted.symm
      · simpa [here] using counted.symm
    rw [counted, List.cons_append, cutAtLine?, left, ih starts']
    rfl

namespace Position

/-- Places in the order of their lines, and on one line in that of their columns. -/
def rank (p : Position) : ℕ ×ₗ ℕ := toLex (p.line, p.column)

theorem rank_lt_next (p : Position) (c : Char) : p.rank < (p.next c).rank := by
  rw [rank, rank, Prod.Lex.toLex_lt_toLex, next]
  split
  · exact .inl (Nat.lt_succ_self _)
  · exact .inr ⟨rfl, Nat.lt_succ_self _⟩

theorem rank_lt_foldl {more : List Char} (nonempty : more ≠ []) (p : Position) :
    p.rank < (more.foldl next p).rank := by
  induction more generalizing p with
  | nil => exact absurd rfl nonempty
  | cons c more ih =>
    rw [List.foldl_cons]
    rcases eq_or_ne more [] with rfl | others
    · exact rank_lt_next p c
    · exact (rank_lt_next p c).trans (ih others _)

theorem rank_after_lt (before : List Char) {more : List Char} (nonempty : more ≠ []) :
    (after before).rank < (after (before ++ more)).rank := by
  rw [after, after, List.foldl_append]
  exact rank_lt_foldl nonempty _

theorem strictMonoOn_rank_ofOffset (source : List Char) :
    StrictMonoOn (fun offset => (ofOffset source offset).rank)
      {offset | IsBoundary source offset} := by
  rintro _ ⟨before, rest, rfl, rfl⟩ _ ⟨further, behind, whole, rfl⟩ less
  rcases List.append_eq_append_iff.1 whole with ⟨more, rfl, -⟩ | ⟨more, rfl, -⟩
  · have nonempty : more ≠ [] := fun empty => by simp [empty] at less
    have here := ofOffset_append before rest
    have there := ofOffset_append (before ++ more) behind
    rw [← whole] at there
    simp only [here, there]
    exact rank_after_lt before nonempty
  · rw [byteLength_append] at less
    omega

theorem one_le_ofOffset (source : List Char) (offset : ℕ) :
    1 ≤ (ofOffset source offset).line ∧ 1 ≤ (ofOffset source offset).column := by
  rw [ofOffset_eq_lineColumn]
  exact ⟨Nat.le_add_left _ _, Nat.le_add_left _ _⟩

theorem after_eq_lastLine (before : List Char) :
    after before = ⟨before.count '\n' + 1, (lastLine before).length + 1⟩ := by
  rw [after_eq_counted, counted, lastLine, List.length_reverse]

/-- The offset of a place, if there is such a place: from the start of its line on, the
characters before its column are passed, all of which stand on that line. -/
def offset? (source : List Char) (p : Position) : Option ℕ :=
  (cutAtLine? (p.line - 1) source).bind fun (before, line) =>
    let passed := line.take (p.column - 1)
    if passed.length = p.column - 1 ∧ '\n' ∉ passed then
      some (byteLength before + byteLength passed)
    else none

theorem offset?_after (before rest : List Char) :
    (after before).offset? (before ++ rest) = some (byteLength before) := by
  obtain ⟨head, split, starts⟩ := lastLine_split before
  have feeds : before.count '\n' = head.count '\n' := by
    rw [split, List.count_append, List.count_eq_zero.2 (notMem_lastLine before), Nat.add_zero]
  have cut := cutAtLine?_append starts (lastLine before ++ rest)
  rw [← List.append_assoc, ← split] at cut
  have bytes : byteLength before = byteLength head + byteLength (lastLine before) := by
    rw [← byteLength_append, ← split]
  rw [after_eq_lastLine, feeds, offset?, Nat.add_sub_cancel, cut, Option.bind_some,
    Nat.add_sub_cancel]
  dsimp only
  rw [List.take_left, if_pos ⟨rfl, notMem_lastLine before⟩, bytes]

theorem offset?_ofOffset {offset : ℕ} (boundary : IsBoundary source offset) :
    (ofOffset source offset).offset? source = some offset := by
  obtain ⟨before, rest, rfl, rfl⟩ := boundary
  rw [ofOffset_append, offset?_after]

/-- Line and column identify an offset. They grow strictly with it, in the order of lines
first and columns second, and the offset is found from them: where the line starts, and from
there on over the characters before the column. -/
theorem ofOffset_identifies (source : List Char) :
    StrictMonoOn (fun offset => (ofOffset source offset).rank)
        {offset | IsBoundary source offset} ∧
      ∀ offset, IsBoundary source offset →
        1 ≤ (ofOffset source offset).line ∧ 1 ≤ (ofOffset source offset).column ∧
          (ofOffset source offset).offset? source = some offset := by
  refine ⟨strictMonoOn_rank_ofOffset source, fun offset boundary => ?_⟩
  obtain ⟨line, column⟩ := one_le_ofOffset source offset
  exact ⟨line, column, offset?_ofOffset boundary⟩

theorem ofOffset_identifies_end :
    IsBoundary "é\n\n😀b".toList 3 ∧ IsBoundary "é\n\n😀b".toList 9 ∧
      (ofOffset "é\n\n😀b".toList 3).rank < (ofOffset "é\n\n😀b".toList 9).rank ∧
      ofOffset "é\n\n😀b".toList 9 = ⟨3, 3⟩ ∧
      (ofOffset "é\n\n😀b".toList 9).offset? "é\n\n😀b".toList = some 9 := by
  obtain ⟨increases, found⟩ := ofOffset_identifies "é\n\n😀b".toList
  have first : IsBoundary "é\n\n😀b".toList 3 := by decide
  have last : IsBoundary "é\n\n😀b".toList 9 := by decide
  exact ⟨first, last, increases first last (by decide), by decide, (found 9 last).2.2⟩

end Position

end InventoryQuery.Text
