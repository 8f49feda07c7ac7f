import InventoryQuery.Proofs.Filter.Layout
import InventoryQuery.Proofs.Filter.Spelling

/-! The canonical text of a tree with legible parts is a sentence that says the tree,
so it is read as the same tree. -/
namespace InventoryQuery.Filter

variable {σ : Type}

/-- A right side that a value can spell in a mode. -/
def Operand.Legible (mode : Mode) : Operand → Prop
  | .literal value => mode ≠ .column ∧ value.Legible
  | .column name => mode = .column ∧ isPlainName name.toList = true

/-- A comparison whose parts have the characters that their places take. The words
`column` and `color` are plain operators only where no other operator can follow. -/
structure Comparison.Legible (c : Comparison σ) : Prop where
  column : isRun isColumnChar c.column.toList = true
  operator : isRun isOperatorChar c.operator.toList = true
  unambiguous : c.mode = .plain →
    c.operator.toList = columnWord ∨ c.operator.toList = colorWord →
      stops isOperatorChar c.operand.canonical = true
  operand : c.operand.Legible c.mode

/-- A tree of legible comparisons and groups with members. -/
inductive Tree.Legible : Tree σ → Prop
  | group {connective : Connective} {members : List (Tree σ)} {place : σ}
      (nonempty : members ≠ []) (each : ∀ member ∈ members, Legible member) :
      Legible (.group connective members place)
  | comparison {content : Comparison σ} (legible : content.Legible) :
      Legible (.comparison content)

def Operand.reread : Operand → Operand
  | .literal value => .literal value.reread
  | .column name => .column name

def Comparison.reread (c : Comparison σ) : Comparison σ := { c with operand := c.operand.reread }

namespace Tree

mutual

def reread : Tree σ → Tree σ
  | group connective members place => group connective (rereadMembers members) place
  | comparison content => comparison content.reread

def rereadMembers : List (Tree σ) → List (Tree σ)
  | [] => []
  | member :: rest => reread member :: rereadMembers rest

end

end Tree

theorem Operand.exists_value (mode : Mode) (o : Operand) (legible : o.Legible mode) :
    ∃ v : Value, v.text = o.canonical ∧ v.operand mode = o.reread := by
  cases o with
  | literal value =>
    obtain ⟨v, text, meaning⟩ := value.exists_value legible.2
    refine ⟨v, text, ?_⟩
    cases mode with
    | column => exact absurd rfl legible.1
    | plain | color => simp [Value.operand, meaning, reread]
  | column name =>
    obtain ⟨rfl, plain⟩ := legible
    obtain ⟨v, text, meaning, -⟩ := Value.exists_of_isPlainName plain
    exact ⟨v, text, by simp [Value.operand, meaning, reread]⟩

def blank : Run isSpace := .ofText [' '] rfl

@[simp] theorem text_blank : blank.text = [' '] := rfl

def Form.ofMode : Mode → Form
  | .plain => .plain
  | .column => .column blank
  | .color => .color blank

theorem Form.mode_ofMode (mode : Mode) : (ofMode mode).mode = mode := by
  cases mode <;> rfl

def Clause.equal (mode : Mode) (value : Value) : Clause where
  column := .ofText ['a'] rfl
  gap := blank
  form := .ofMode mode
  operator := .ofText ['='] rfl
  valueGap := blank
  value := value
  unambiguous := by
    rintro - (column | color)
    · cases column
    · cases color

theorem Comparison.exists_clause (c : Comparison σ) (legible : c.Legible) :
    ∃ k : Clause, k.text = c.canonical ∧ k.placed () () () = c.reread.map fun _ => () := by
  obtain ⟨v, text, meaning⟩ := c.operand.exists_value c.mode legible.operand
  let k : Clause := {
    column := .ofText c.column.toList legible.column
    gap := blank
    form := .ofMode c.mode
    operator := .ofText c.operator.toList legible.operator
    valueGap := blank
    value := v
    unambiguous := fun plain keyword => by
      have mode : c.mode = .plain := by rw [← Form.mode_ofMode c.mode, plain, Form.mode]
      rw [text]
      exact legible.unambiguous mode keyword }
  refine ⟨k, ?_, ?_⟩
  · cases mode : c.mode <;>
      simp [k, Clause.text, Clause.beforeValue, Clause.beforeOperator, Form.ofMode, Form.text,
        canonical, text, mode, Mode.name, columnWord, colorWord]
  · simp [k, Clause.placed, Form.mode_ofMode, meaning, Comparison.map, reread]

namespace Tree

def noBlanks : Blanks := ⟨[], by simp⟩

def oneBlank : Blanks := ⟨[' '], List.all_eq_true.1 rfl⟩

mutual

theorem exists_sentence : (t : Tree σ) → t.Legible →
    ∃ s : Sentence, s.text = t.canonical ∧ s.bare = t.reread.bare
  | group connective members place, .group nonempty each => by
    obtain ⟨m, text, meaning⟩ := exists_members members nonempty each
    refine ⟨.group connective oneBlank noBlanks m noBlanks, ?_, ?_⟩
    · simp [Sentence.text, opening, oneBlank, noBlanks, text, canonical]
    · rw [Sentence.bare, meaning, reread, bare, map]
  | comparison content, .comparison legible => by
    obtain ⟨k, text, meaning⟩ := content.exists_clause legible
    refine ⟨.comparison k, ?_, ?_⟩
    · rw [Sentence.text, text, canonical]
    · rw [Sentence.bare, meaning, reread, bare, map]

theorem exists_members : (ts : List (Tree σ)) → ts ≠ [] → (∀ t ∈ ts, t.Legible) →
    ∃ m : Members, m.text = canonicalMembers ts ∧
      m.bare = mapMembers (fun _ => ()) (rereadMembers ts)
  | [], nonempty, _ => absurd rfl nonempty
  | [member], _, each => by
    obtain ⟨s, text, meaning⟩ := exists_sentence member (each member (by simp))
    refine ⟨.one s, ?_, ?_⟩
    · rw [Members.text, text, canonicalMembers]
    · rw [Members.bare, meaning]
      rfl
  | member :: second :: rest, _, each => by
    obtain ⟨s, text, meaning⟩ := exists_sentence member (each member (by simp))
    obtain ⟨m, more, meanings⟩ := exists_members (second :: rest) (by simp)
      fun t inside => each t (List.mem_cons_of_mem _ inside)
    refine ⟨.more s noBlanks oneBlank m, ?_, ?_⟩
    · simp [Members.text, text, more, noBlanks, oneBlank, canonicalMembers]
    · rw [Members.bare, meaning, meanings]
      rfl

end

/-- The canonical text of a legible tree parses, and says the tree with its numbers
read anew. -/
theorem parse_canonicalText {t : Tree σ} (legible : t.Legible) :
    ∃ tree, parse t.canonicalText = .ok tree ∧ tree.bare = t.reread.bare := by
  obtain ⟨s, text, meaning⟩ := t.exists_sentence legible
  refine ⟨_, parse_eq_ok_iff.2 ⟨noBlanks, noBlanks, s, ?_, rfl⟩, ?_⟩
  · simp [canonicalText, noBlanks, text]
  · rw [bare_map, s.bare_tree, meaning]

end Tree

end InventoryQuery.Filter
