import InventoryQuery.Proofs.Filter.Canonical
import InventoryQuery.Proofs.Filter.Places

/-! Printing a tree and reading it again. Without numbers of the binary64 kind this is
the identity on legible trees, and what the tree compiles to stays the same. -/
namespace InventoryQuery.Filter

open Text (Span)

variable {σ : Type}

/-- Whether an operand is a number with a fraction or an exponent. -/
def Operand.isReal : Operand → Bool
  | .literal (.number (.real _)) => true
  | _ => false

theorem Operand.reread_of_isReal {o : Operand} (exact : o.isReal = false) : o.reread = o := by
  cases o with
  | column name => rfl
  | literal value =>
    cases value with
    | number n =>
      cases n with
      | integer value inRange =>
        simp [reread, Literal.reread, Literal.ofUnquoted, Number.text,
          Number.ofText?_integerText inRange]
      | real x => simp [isReal] at exact
    | string | boolean | network => rfl

namespace Tree

mutual

theorem reread_of_operands : (t : Tree σ) →
    (∀ c ∈ t.comparisons, c.operand.reread = c.operand) → t.reread = t
  | group connective members place, same => by
    rw [reread, rereadMembers_of_operands members same]
  | comparison content, same => by
    rw [reread, Comparison.reread, same content (by simp [comparisons])]

theorem rereadMembers_of_operands : (ts : List (Tree σ)) →
    (∀ c ∈ comparisonsOf ts, c.operand.reread = c.operand) → rereadMembers ts = ts
  | [], _ => rfl
  | member :: rest, same => by
    rw [comparisonsOf] at same
    rw [rereadMembers,
      reread_of_operands member fun c inside => same c (List.mem_append_left _ inside),
      rereadMembers_of_operands rest fun c inside => same c (List.mem_append_right _ inside)]

end

/-- Printing and reading again is the identity on legible trees without real numbers. -/
theorem parse_canonicalText_identity (t : Tree Span) (legible : t.Legible)
    (exact : ∀ c ∈ t.comparisons, c.operand.isReal = false) :
    ∃ tree, parse t.canonicalText = .ok tree ∧ tree.bare = t.bare ∧
      tree.compile.mapError FilterError.unplaced = t.compile.mapError FilterError.unplaced := by
  obtain ⟨tree, read, meaning⟩ := parse_canonicalText legible
  rw [t.reread_of_operands fun c member => Operand.reread_of_isReal (exact c member)] at meaning
  exact ⟨tree, read, meaning, compile_of_bare meaning⟩

def mixed (place : Span) : Tree Span :=
  .group .or [
    .comparison ⟨"name", "=", .literal (.string "it's, (no)\\"), .plain, place, place, place⟩,
    .group .and [
      .comparison ⟨"ip", "net", .literal (.network "10.0.0.0/8"), .plain, place, place, place⟩,
      .comparison ⟨"rx.p95", "<", .column "limit", .column, place, place, place⟩] place,
    .comparison ⟨"state", ">=", .literal (.string "Red"), .color, place, place, place⟩,
    .comparison ⟨"vlan", "=", .literal (.number (.integer (-7) (by decide))), .plain,
      place, place, place⟩] place

theorem parse_canonicalText_mixed :
    let t := mixed (Span.ofRange [] ⟨0, 0⟩)
    t.canonicalText = "or (name = 'it\\'s, (no)\\\\', and (ip net 10.0.0.0/8, " ++
      "rx.p95 column < limit), state color >= Red, vlan = -7)" ∧
    ∃ tree, parse t.canonicalText = .ok tree ∧ tree.bare = t.bare ∧
      tree.compile.mapError FilterError.unplaced = t.compile.mapError FilterError.unplaced := by
  refine ⟨by decide, parse_canonicalText_identity _ ?_ (by decide)⟩
  have name : Operand.Legible .plain (.literal (.string "it's, (no)\\")) := ⟨by decide, trivial⟩
  have network : Operand.Legible .plain (.literal (.network "10.0.0.0/8")) := ⟨by decide, rfl⟩
  have limit : Operand.Legible .column (.column "limit") := ⟨rfl, by decide⟩
  have severity : Operand.Legible .color (.literal (.string "Red")) := ⟨by decide, trivial⟩
  have vlan : Operand.Legible .plain (.literal (.number (.integer (-7) (by decide)))) :=
    ⟨by decide, trivial⟩
  refine .group (by simp) (List.forall_mem_cons.2 ⟨?_, List.forall_mem_cons.2 ⟨?_,
    List.forall_mem_cons.2 ⟨?_, List.forall_mem_singleton.2 ?_⟩⟩⟩)
  · exact .comparison ⟨by decide, by decide, by decide, name⟩
  · refine .group (by simp) (List.forall_mem_cons.2 ⟨?_, List.forall_mem_singleton.2 ?_⟩)
    · exact .comparison ⟨by decide, by decide, by decide, network⟩
    · exact .comparison ⟨by decide, by decide, by decide, limit⟩
  · exact .comparison ⟨by decide, by decide, by decide, severity⟩
  · exact .comparison ⟨by decide, by decide, by decide, vlan⟩

end Tree

end InventoryQuery.Filter
