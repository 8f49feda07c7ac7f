import InventoryQuery.Proofs.Filter.Places
import InventoryQuery.Proofs.Filter.Spans
import InventoryQuery.Proofs.Filter.Traversal
import InventoryQuery.Proofs.Filter.Viability

/-! Every refused expression is refused at a place of its source. The offset of an error
lies between two characters, whether the grammar, an operator or a network is at fault, and
what the error tells of the place is true of the text there. -/
namespace InventoryQuery

open Text (Span byteLength lineColumn)

theorem nodup_eraseDups {α : Type} [BEq α] [LawfulBEq α] : (xs : List α) → xs.eraseDups.Nodup
  | [] => by simp
  | x :: xs => by
    have absent : x ∉ (xs.filter fun y => !y == x).eraseDups := by simp [List.mem_eraseDups]
    rw [List.eraseDups_cons, List.nodup_cons]
    exact ⟨absent, nodup_eraseDups (xs.filter fun y => !y == x)⟩
termination_by xs => xs.length
decreasing_by exact Nat.lt_succ_of_le (List.length_filter_le _ _)

namespace Text

theorem byteLength_eq_zero_iff {cs : List Char} : byteLength cs = 0 ↔ cs = [] := by
  constructor
  · intro zero
    by_contra nonempty
    exact absurd zero (Nat.ne_of_gt (byteLength_pos nonempty))
  · rintro rfl
    rfl

end Text

namespace Filter

/-- A mismatch that tells the truth of its source: its line and column are those of its
offset, it has the character found there, none only at the end, and it expects something
and nothing twice. -/
structure Mismatch.Describes (before rest : List Char) (m : Mismatch) : Prop where
  position : m.position = lineColumn (before ++ rest) m.offset
  found : m.found = rest.head?
  found_eq_none_iff : m.found = none ↔ m.offset = byteLength (before ++ rest)
  expected_ne_nil : m.expected ≠ []
  expected_nodup : m.expected.Nodup

/-- What an error tells of its source, the two sides of the offset. -/
def FilterError.Describes (before rest : List Char) : FilterError → Prop
  | .mismatch m => m.Describes before rest
  | .unknownOperator operator _ _ => operator.toList <+: rest
  | .invalidNetwork _ _ _ => True
  | .tooDeep _ _ => False

namespace Rule

theorem sort_ne_nil {rules : List Rule} (nonempty : rules ≠ []) : sort rules ≠ [] := by
  obtain ⟨r, member⟩ := List.exists_mem_of_ne_nil _ nonempty
  exact List.ne_nil_of_mem (mem_sort.2 member)

theorem descriptions_ne_nil {rules : List Rule} (nonempty : rules ≠ []) :
    descriptions rules ≠ [] := by
  obtain ⟨r, member⟩ := List.exists_mem_of_ne_nil _ nonempty
  exact List.ne_nil_of_mem (List.mem_eraseDups.2 (List.mem_map_of_mem member))

end Rule

theorem Mismatch.describes_ofBlame (before rest : List Char) {b : Blame} (nonempty : b.rules ≠ [])
    (offset : b.offset = byteLength before) :
    (ofBlame (before ++ rest) b).Describes before rest where
  position := Text.ofOffset_eq_lineColumn _ _
  found := by simp [ofBlame, ofRules, Text.charAt?, offset, Text.splitAt?_append]
  found_eq_none_iff := by
    simp [ofBlame, ofRules, Text.charAt?, offset, Text.splitAt?_append,
      Text.byteLength_eq_zero_iff]
  expected_ne_nil := Rule.descriptions_ne_nil (Rule.sort_ne_nil nonempty)
  expected_nodup := nodup_eraseDups _

theorem describes_of_parse {source : String} {e : FilterError}
    (refused : parse source = .error e) :
    ∃ before rest, source.toList = before ++ rest ∧ e.offset = byteLength before ∧
      e.Describes before rest := by
  obtain ⟨lost, rfl⟩ := parse_eq_error_iff.1 refused
  have nonempty := blamed_ne_nil lost
  obtain ⟨r, blamed⟩ := List.exists_mem_of_ne_nil _ nonempty
  obtain ⟨before, rest, -, split, -⟩ :=
    Blame.each_ofTrials (Grammar.tries_filter source.toList) r blamed
  obtain ⟨whole, offset⟩ := Text.eq_of_splitAt? split
  have described := Mismatch.describes_ofBlame before rest nonempty offset
  rw [← whole] at described
  exact ⟨before, rest, whole, offset, described⟩

theorem Tree.exists_fails {t : Tree Span} {e : FilterError}
    (refused : t.compile.result = .error e) :
    ∃ c ∈ t.comparisons, c.Fails e := by
  rw [← Noted.outline_result_eq_error, outline_compile, visit_result_eq_error_iff] at refused
  obtain ⟨before, c, after, split, -, fails⟩ := refused
  exact ⟨c, by simp [split], fails⟩

theorem describes_of_fails {source : String} {t : Tree Span} (read : parse source = .ok t)
    {c : Comparison Span} (member : c ∈ t.comparisons) {e : FilterError} (fails : c.Fails e) :
    ∃ before rest, source.toList = before ++ rest ∧ e.offset = byteLength before ∧
      e.Describes before rest := by
  obtain ⟨k, left, right, whole, rfl⟩ := exists_clause_of_parse read member
  cases fails with
  | unknownOperator missing =>
    refine ⟨left ++ k.beforeOperator, k.operator.text ++ (k.valueGap.text ++
      (k.value.text ++ right)), whole.trans (k.around_operator left right), ?_, ?_⟩
    · rw [Text.byteLength_append]
      rfl
    · rw [FilterError.Describes]
      simp [Comparison.map, Clause.comparison, Clause.placed]
  | invalidNetwork plain net literal refused =>
    refine ⟨left ++ k.beforeValue, k.value.text ++ right,
      whole.trans (k.around_value left right), ?_, trivial⟩
    rw [Text.byteLength_append]
    rfl

/-- A filter expression is refused at an offset between two characters of it, in the line
and column that the report shows, and what the error tells of the offset is so. -/
theorem compileText_describes {source : String} {e : FilterError}
    (refused : (compileText source).result = .error e) :
    e.offset ≤ byteLength source.toList ∧
      e.reportPosition source = lineColumn source.toList e.offset ∧
      ∃ before rest, source.toList = before ++ rest ∧ e.offset = byteLength before ∧
        e.Describes before rest := by
  have located : ∃ before rest, source.toList = before ++ rest ∧ e.offset = byteLength before ∧
      e.Describes before rest := by
    cases read : parse source with
    | error cause =>
      rw [compileText, read] at refused
      obtain rfl : cause = e := Except.error.inj refused
      exact describes_of_parse read
    | ok t =>
      rw [compileText_of_parse read] at refused
      obtain ⟨c, member, fails⟩ := t.exists_fails refused
      exact describes_of_fails read member fails
  obtain ⟨before, rest, whole, offset, described⟩ := located
  have inside : e.offset ≤ byteLength source.toList := by
    rw [whole, offset, Text.byteLength_append]
    exact Nat.le_add_right _ _
  refine ⟨inside, ?_, before, rest, whole, offset, described⟩
  rw [FilterError.reportPosition, Nat.min_eq_left inside, Text.ofOffset_eq_lineColumn]

theorem compileText_describes_missing_value :
    (compileText "or (a = 'é',\n b = )").result =
        .error (.mismatch ⟨19, ⟨2, 6⟩, ["value"], some ')'⟩) ∧
      ∃ before rest, "or (a = 'é',\n b = )".toList = before ++ rest ∧ 19 = byteLength before ∧
        Mismatch.Describes before rest ⟨19, ⟨2, 6⟩, ["value"], some ')'⟩ := by
  have refused : (compileText "or (a = 'é',\n b = )").result =
      .error (.mismatch ⟨19, ⟨2, 6⟩, ["value"], some ')'⟩) := by cbv
  exact ⟨refused, (compileText_describes refused).2.2⟩

end Filter

end InventoryQuery
