import InventoryQuery.Filter.Tree
import InventoryQuery.Proofs.Filter.Words

/-! Sentences, the written forms of filter expressions. A sentence keeps everything
that a source decides: blanks, delimiters, and the pieces of a text with their
character classes. Its text is a source, and its tree is what that source says,
with the ranges of the parts when the sentence stands at an offset. -/
namespace InventoryQuery.Filter

open Text (byteLength)

def isRun (p : Char → Bool) (cs : List Char) : Bool := !cs.isEmpty && cs.all p

theorem isRun_iff {p : Char → Bool} {cs : List Char} :
    isRun p cs = true ↔ cs ≠ [] ∧ ∀ c ∈ cs, p c = true := by
  rw [isRun, Bool.and_eq_true, Bool.not_eq_true', List.isEmpty_eq_false_iff, List.all_eq_true]

structure Run (p : Char → Bool) where
  text : List Char
  nonempty : text ≠ []
  inside : ∀ c ∈ text, p c = true

namespace Run

variable {p q : Char → Bool}

def ofText (cs : List Char) (run : isRun p cs = true) : Run p :=
  ⟨cs, (isRun_iff.1 run).1, (isRun_iff.1 run).2⟩

@[simp] theorem text_ofText (cs : List Char) (run : isRun p cs = true) :
    (ofText cs run).text = cs := rfl

theorem isRun_text (r : Run p) : isRun p r.text = true := isRun_iff.2 ⟨r.nonempty, r.inside⟩

theorem stops_text (r : Run p) (disjoint : ∀ c, p c = true → q c = false) (rest : List Char) :
    stops q (r.text ++ rest) = true := by
  obtain ⟨c, cs, first⟩ := List.exists_cons_of_ne_nil r.nonempty
  have outside := disjoint c (r.inside c (by simp [first]))
  simp [first, outside]

theorem exists_of_not_stops {cs : List Char} (goes : ¬stops p cs = true) :
    ∃ (r : Run p) (rest : List Char), cs = r.text ++ rest ∧ stops p rest = true := by
  have nonempty : cs.takeWhile p ≠ [] := by
    cases cs with
    | nil => simp at goes
    | cons c cs => simp_all
  exact ⟨⟨cs.takeWhile p, nonempty, mem_takeWhile⟩, cs.dropWhile p,
    List.takeWhile_append_dropWhile.symm, stops_dropWhile cs⟩

end Run

structure Blanks where
  text : List Char
  inside : ∀ c ∈ text, isSpace c = true

/-- The inside of a quoted text: pairs of a backslash and any character, and
characters other than the delimiter and the backslash. -/
inductive Inside (delimiter : Char) : List Char → Prop
  | nil : Inside delimiter []
  | pair (c : Char) {cs : List Char} (rest : Inside delimiter cs) :
      Inside delimiter ('\\' :: c :: cs)
  | single {c : Char} {cs : List Char} (open_ : c ≠ delimiter) (plain : c ≠ '\\')
      (rest : Inside delimiter cs) : Inside delimiter (c :: cs)

inductive Value
  | quoted (delimiter : Char) (content : List Char) (quote : isQuote delimiter = true)
      (inside : Inside delimiter content)
  | word (run : Run fun c => !isTerminator c) (unquoted : stops isQuote run.text = true)

namespace Value

def text : Value → List Char
  | quoted delimiter content _ _ => delimiter :: (content ++ [delimiter])
  | word run _ => run.text

/-- What a value says, without delimiters and escapes. -/
def content : Value → List Char
  | quoted delimiter content _ _ => Quoted.unescape delimiter content
  | word run _ => run.text

def literal : Value → Literal
  | quoted delimiter content _ _ =>
    .string (String.ofList (Quoted.unescape delimiter content))
  | word run _ =>
    if isNetworkText run.text then .network (String.ofList run.text)
    else .ofUnquoted (String.ofList run.text)

def operand (v : Value) : Mode → Operand
  | .column => .column (String.ofList v.content)
  | .plain | .color => .literal v.literal

end Value

def columnWord : List Char := ['c', 'o', 'l', 'u', 'm', 'n']

def colorWord : List Char := ['c', 'o', 'l', 'o', 'r']

/-- What stands before the operator of a comparison. -/
inductive Form
  | plain
  | column (gap : Run isSpace)
  | color (gap : Run isSpace)

namespace Form

def mode : Form → Mode
  | plain => .plain
  | column _ => .column
  | color _ => .color

def text : Form → List Char
  | plain => []
  | column gap => columnWord ++ gap.text
  | color gap => colorWord ++ gap.text

end Form

/-- A written comparison. The words `column` and `color` are operators of their own
only where no other operator can follow. -/
structure Clause where
  column : Run isColumnChar
  gap : Run isSpace
  form : Form
  operator : Run isOperatorChar
  valueGap : Run isSpace
  value : Value
  unambiguous : form = .plain → operator.text = columnWord ∨ operator.text = colorWord →
    stops isOperatorChar value.text = true

namespace Clause

def beforeOperator (k : Clause) : List Char := k.column.text ++ (k.gap.text ++ k.form.text)

def beforeValue (k : Clause) : List Char :=
  k.beforeOperator ++ (k.operator.text ++ k.valueGap.text)

def text (k : Clause) : List Char := k.beforeValue ++ k.value.text

variable {σ : Type}

def placed (k : Clause) (place operatorPlace valuePlace : σ) : Comparison σ where
  column := String.ofList k.column.text
  operator := String.ofList k.operator.text
  operand := k.value.operand k.form.mode
  mode := k.form.mode
  place := place
  operatorPlace := operatorPlace
  valuePlace := valuePlace

def comparison (offset : Nat) (k : Clause) : Comparison Text.Range :=
  let operator := offset + byteLength k.beforeOperator
  let value := offset + byteLength k.beforeValue
  let stop := offset + byteLength k.text
  k.placed ⟨offset, stop⟩ ⟨operator, operator + byteLength k.operator.text⟩ ⟨value, stop⟩

end Clause

mutual

inductive Sentence
  | group (connective : Connective) (beforeParen afterParen : Blanks) (members : Members)
      (beforeClose : Blanks)
  | comparison (clause : Clause)

inductive Members
  | one (sentence : Sentence)
  | more (sentence : Sentence) (beforeComma afterComma : Blanks) (rest : Members)

end

def opening (connective : Connective) (beforeParen afterParen : Blanks) : List Char :=
  connective.keyword.toList ++ (beforeParen.text ++ '(' :: afterParen.text)

mutual

def Sentence.text : Sentence → List Char
  | .group connective beforeParen afterParen members beforeClose =>
    opening connective beforeParen afterParen ++
      (members.text ++ (beforeClose.text ++ [')']))
  | .comparison clause => clause.text

def Members.text : Members → List Char
  | .one sentence => sentence.text
  | .more sentence beforeComma afterComma rest =>
    sentence.text ++ (beforeComma.text ++ ',' :: (afterComma.text ++ rest.text))

end

mutual

/-- What a sentence says. Groups and members stay in their order. -/
def Sentence.bare : Sentence → Tree Unit
  | .group connective _ _ members _ => .group connective members.bare ()
  | .comparison clause => .comparison (clause.placed () () ())

def Members.bare : Members → List (Tree Unit)
  | .one sentence => [sentence.bare]
  | .more sentence _ _ rest => sentence.bare :: rest.bare

end

mutual

def Sentence.tree (offset : Nat) : Sentence → Tree Text.Range
  | .group connective beforeParen afterParen members beforeClose =>
    .group connective
      (members.trees (offset + byteLength (opening connective beforeParen afterParen)))
      ⟨offset, offset + byteLength
        (Sentence.group connective beforeParen afterParen members beforeClose).text⟩
  | .comparison clause => .comparison (clause.comparison offset)

def Members.trees (offset : Nat) : Members → List (Tree Text.Range)
  | .one sentence => [sentence.tree offset]
  | .more sentence beforeComma afterComma rest =>
    sentence.tree offset :: rest.trees
      (offset + byteLength (sentence.text ++ (beforeComma.text ++ ',' :: afterComma.text)))

end

theorem Members.trees_ne_nil (offset : Nat) : (m : Members) → m.trees offset ≠ []
  | .one _ => by simp [Members.trees]
  | .more _ _ _ _ => by simp [Members.trees]

/-- A tree without its places. -/
def Tree.bare {σ : Type} (t : Tree σ) : Tree Unit := t.map fun _ => ()

/-- A text that lays out a tree: a sentence that says the tree, between blanks. -/
def Layout (t : Tree Unit) (cs : List Char) : Prop :=
  ∃ (before after : Blanks) (s : Sentence),
    s.bare = t ∧ cs = before.text ++ (s.text ++ after.text)

mutual

theorem Sentence.bare_tree (offset : Nat) : (s : Sentence) → (s.tree offset).bare = s.bare
  | .group connective beforeParen afterParen members beforeClose => by
    rw [Sentence.tree, Tree.bare, Tree.map, Members.bare_trees, Sentence.bare]
  | .comparison clause => by
    rw [Sentence.tree, Tree.bare, Tree.map, Sentence.bare]
    rfl

theorem Members.bare_trees (offset : Nat) : (m : Members) →
    Tree.mapMembers (fun _ => ()) (m.trees offset) = m.bare
  | .one sentence => by
    rw [Members.trees, Tree.mapMembers, Tree.mapMembers, Members.bare, ← sentence.bare_tree offset]
    rfl
  | .more sentence beforeComma afterComma rest => by
    rw [Members.trees, Tree.mapMembers, Members.bare_trees, Members.bare,
      ← sentence.bare_tree offset]
    rfl

end

end InventoryQuery.Filter
