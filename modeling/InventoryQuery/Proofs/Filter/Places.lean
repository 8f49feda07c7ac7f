import InventoryQuery.Filter.Compile
import InventoryQuery.Proofs.Filter.Sentence
import InventoryQuery.Proofs.Noted

/-! Compiling looks at the places of a tree only for the offsets of its errors. -/
namespace InventoryQuery

namespace Filter

open Text (Span)

def FilterError.unplaced : FilterError → FilterError
  | mismatch cause => mismatch { cause with offset := 0, position := .ofOffset [] 0 }
  | unknownOperator operator mode _ => unknownOperator operator mode 0
  | tooDeep _ reason => tooDeep 0 reason
  | invalidNetwork literal _ reason => invalidNetwork literal 0 reason

namespace Comparison

theorem plainOperand_map (f : Span → Span) (c : Comparison Span) (opcode : Opcode) :
    ((c.map f).plainOperand opcode).mapError FilterError.unplaced =
      (c.plainOperand opcode).mapError FilterError.unplaced := by
  rw [plainOperand, plainOperand]
  cases right : c.operand with
  | column name => simp only [map, right]
  | literal value =>
    simp only [map, right]
    split
    · cases networkLiteral value.networkText <;> rfl
    · rfl

theorem criteria_map (f : Span → Span) (c : Comparison Span) (opcode : Opcode) :
    ((c.map f).criteria opcode).mapError FilterError.unplaced =
      (c.criteria opcode).mapError FilterError.unplaced := by
  rw [criteria, criteria]
  cases mode : c.mode with
  | plain => simp only [map, mode, Noted.mapError_bind, ← plainOperand_map f c]
  | column | color => simp only [map, mode]

theorem compile_map (f : Span → Span) (c : Comparison Span) :
    (c.map f).compile.mapError FilterError.unplaced =
      c.compile.mapError FilterError.unplaced := by
  rw [compile, compile]
  simp only [map]
  split
  · rfl
  · simp only [Noted.mapError_bind, ← criteria_map f c]
    rfl

end Comparison

namespace Tree

mutual

theorem compile_map (f : Span → Span) : (t : Tree Span) →
    (t.map f).compile.mapError FilterError.unplaced = t.compile.mapError FilterError.unplaced
  | group connective members place => by
    simp only [map, compile, Noted.mapError_bind, compileMembers_map f members]
  | comparison content => content.compile_map f

theorem compileMembers_map (f : Span → Span) : (ts : List (Tree Span)) →
    (compileMembers (mapMembers f ts)).mapError FilterError.unplaced =
      (compileMembers ts).mapError FilterError.unplaced
  | [] => rfl
  | member :: rest => by
    simp only [mapMembers, compileMembers, Noted.mapError_bind, compile_map f member,
      compileMembers_map f rest]

end

theorem compile_of_bare {t u : Tree Span} (same : t.bare = u.bare) :
    t.compile.mapError FilterError.unplaced = u.compile.mapError FilterError.unplaced := by
  have anywhere (f : Unit → Span) (t : Tree Span) : t.bare.map f = t.map (fun _ => f ()) :=
    map_map _ f t
  rw [← compile_map (fun _ => t.place) t, ← compile_map (fun _ => t.place) u,
    ← anywhere (fun _ => t.place) t, ← anywhere (fun _ => t.place) u, same]

theorem compile_result_of_bare {t u : Tree Span} (same : t.bare = u.bare) (d : Document) :
    t.compile.result = .ok d ↔ u.compile.result = .ok d := by
  rw [← Noted.mapError_eq_ok FilterError.unplaced, compile_of_bare same, Noted.mapError_eq_ok]

end Tree

theorem compileText_of_parse {source : String} {t : Tree Span} (read : parse source = .ok t) :
    compileText source = t.compile := by
  rw [compileText, read]
  rfl

theorem compileText_eq_ok_iff {source : String} {d : Document} :
    (compileText source).result = .ok d ↔
      ∃ t, parse source = .ok t ∧ t.compile.result = .ok d := by
  rw [compileText, Noted.bind_eq_ok]
  rfl

end Filter

end InventoryQuery
