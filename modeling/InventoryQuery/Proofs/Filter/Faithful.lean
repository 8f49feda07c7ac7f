import InventoryQuery.Proofs.Filter.Parsed
import InventoryQuery.Proofs.Filter.Places
import Mathlib

/-! What a condition keeps of the tree it was compiled from: the groups, and of each
comparison the column, the mode, the opcode and the right side. Trees that were read
compile to one JSON value just when they agree in these. -/
namespace InventoryQuery.Filter

open Text (Span)

variable {f : Number → Number}

theorem Comparison.upTo_eq_of_alikeUpTo {c c' : Comparison Span} {d d' : Document}
    (alike : c.AlikeUpTo f c') (ok : c.compile.result = .ok d)
    (ok' : c'.compile.result = .ok d') : d.upTo f = d'.upTo f := by
  obtain ⟨opcode, known, rfl⟩ := compile_eq_ok ok
  obtain ⟨opcode', known', rfl⟩ := compile_eq_ok ok'
  obtain ⟨column, mode, opcodes, right⟩ := alike
  rw [known, known', Option.some.injEq] at opcodes
  refine Document.upTo_entry_array_inj.2 ⟨column, ?_⟩
  rw [mode, opcodes]
  cases c'.mode <;> simp [items, right]

namespace Tree

mutual

theorem upTo_eq_of_related : (t u : Tree Span) → (d d' : Document) →
    t.Related (Comparison.AlikeUpTo f) u → t.compile.result = .ok d →
    u.compile.result = .ok d' → d.upTo f = d'.upTo f
  | group connective members place, group connective' members' place', d, d', related, ok, ok' => by
    obtain ⟨ds, rfl, oks⟩ := compile_group_eq_ok.1 ok
    obtain ⟨ds', rfl, oks'⟩ := compile_group_eq_ok.1 ok'
    rw [Related] at related
    exact Document.upTo_entry_array_inj.2 ⟨by rw [related.1],
      map_upTo_eq_of_related members members' ds ds' related.2 oks oks'⟩
  | group _ _ _, comparison _, _, _, related, _, _ => by simp [Related] at related
  | comparison _, group _ _ _, _, _, related, _, _ => by simp [Related] at related
  | comparison content, comparison content', d, d', related, ok, ok' => by
    rw [Related] at related
    exact Comparison.upTo_eq_of_alikeUpTo related ok ok'

theorem map_upTo_eq_of_related : (ts us : List (Tree Span)) → (ds ds' : List Document) →
    RelatedMembers (Comparison.AlikeUpTo f) ts us → (compileMembers ts).result = .ok ds →
    (compileMembers us).result = .ok ds' → ds.map (Document.upTo f) = ds'.map (Document.upTo f)
  | [], [], ds, ds', _, oks, oks' => by
    rw [Except.ok.inj (oks.symm.trans oks')]
  | [], _ :: _, _, _, related, _, _ => by simp [RelatedMembers] at related
  | _ :: _, [], _, _, related, _, _ => by simp [RelatedMembers] at related
  | t :: ts, u :: us, ds, ds', related, oks, oks' => by
    obtain ⟨d, es, rfl, ok, oks⟩ := compileMembers_eq_ok.1 oks
    obtain ⟨d', es', rfl, ok', oks'⟩ := compileMembers_eq_ok.1 oks'
    rw [RelatedMembers] at related
    rw [List.map_cons, List.map_cons, upTo_eq_of_related t u d d' related.1 ok ok',
      map_upTo_eq_of_related ts us es es' related.2 oks oks']

end

/-- Compiling loses no structure: trees that were read compile to the same JSON value just
when they have the same groups and members in the same order, and their comparisons the
same columns, modes, opcodes and right-hand values. Numbers are compared as `f` takes
them: with the identity both sides speak of the same text, and with `Number.unsignedZero`
of JSON values in which the two zeros are one number. -/
theorem compile_upTo_eq_iff {source source' : String} {t u : Tree Span} {d d' : Document}
    (read : parse source = .ok t) (read' : parse source' = .ok u)
    (ok : t.compile.result = .ok d) (ok' : u.compile.result = .ok d') :
    d.upTo f = d'.upTo f ↔ t.Related (Comparison.AlikeUpTo f) u :=
  ⟨related_of_compile t u (fun _ => fits_of_parse read) (fun _ => fits_of_parse read') d d' ok ok',
    fun related => upTo_eq_of_related t u d d' related ok ok'⟩

end Tree

def zeroAndSeverity (negative : Bool) : Document :=
  .entry "and" (.array
    [.entry "a" (.array [.string "eq",
        .number (.real ⟨negative, 0, -1074, by decide, by decide, by decide, by decide⟩)]),
      .entry "and" (.array [.string "color", .string "eq", .number (.integer 30 (by decide))])])

theorem Tree.compile_upTo_eq_zeros : ∃ t u,
    parse "and(a = -0.0, and color = RED)" = .ok t ∧
    parse "and( a = 0.0 ,and color = 30)" = .ok u ∧
    t.Related (Comparison.AlikeUpTo Number.unsignedZero) u := by
  have minus : (compileText "and(a = -0.0, and color = RED)").result =
      .ok (zeroAndSeverity true) := by cbv
  have plus : (compileText "and( a = 0.0 ,and color = 30)").result =
      .ok (zeroAndSeverity false) := by cbv
  obtain ⟨t, read, ok⟩ := compileText_eq_ok_iff.1 minus
  obtain ⟨u, read', ok'⟩ := compileText_eq_ok_iff.1 plus
  have same : (zeroAndSeverity true).upTo Number.unsignedZero =
      (zeroAndSeverity false).upTo Number.unsignedZero := by
    simp [zeroAndSeverity, Number.unsignedZero]
  exact ⟨t, u, read, read', (Tree.compile_upTo_eq_iff read read' ok ok').1 same⟩

end InventoryQuery.Filter
