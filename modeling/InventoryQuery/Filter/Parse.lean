import InventoryQuery.Filter.Canonical
import InventoryQuery.Filter.Error
import InventoryQuery.Filter.Grammar

/-! Reading a filter expression. The grammar finds phrases, and a tree is built
from them; a source that the grammar refuses is blamed on the trials that failed. -/
namespace InventoryQuery.Filter

namespace Grammar

def run (r : Rule) (source : String) : Except Mismatch (List Phrase) :=
  let reading := recognizer r (Cursor.start source.toList)
  match reading.found with
  | some (phrases, _) => .ok phrases
  | none => .error (Mismatch.ofBlame source.toList (Blame.ofTrials reading.trials))

end Grammar

/-- A phrase without a part that it should have: where it is blamed, and the rule that is
missed there. -/
structure Malformed where
  offset : Nat
  missed : Rule
deriving DecidableEq, Repr

def Malformed.require {α : Type} (part : Option α) (offset : Nat) (missed : Rule) :
    Except Malformed α :=
  match part with
  | some part => .ok part
  | none => .error ⟨offset, missed⟩

@[simp] theorem Malformed.require_some {α : Type} (part : α) (offset : Nat) (missed : Rule) :
    require (some part) offset missed = .ok part := rfl

namespace Phrase

def range (p : Phrase) : Text.Range := ⟨p.start, p.stop⟩

def string (p : Phrase) : String := String.ofList p.text

def part? (p : Phrase) (r : Rule) : Option Phrase := p.parts.find? fun part => part.rule = r

def token? (p : Phrase) : Option Token :=
  match p.rule with
  | .quoted =>
    let delimiter := if p.text.head? = some '"' then '"' else '\''
    let inside := (p.parts.head?.map Phrase.text).getD []
    some (.quoted (String.ofList (Quoted.unescape delimiter inside)))
  | .network => some (.network p.string)
  | .number => some (.number p.string)
  | .boolean => some (.boolean p.string)
  | .word => some (.word p.string)
  | _ => none

def value (p : Phrase) : Except Malformed (Token × Text.Range) := do
  let inner ← Malformed.require p.parts.head? p.start .value
  let token ← Malformed.require inner.token? p.start .value
  return (token, p.range)

def operand (mode : Mode) (token : Token) : Operand :=
  match mode with
  | .column => .column token.text
  | .plain | .color => .literal (.ofToken token)

/-- The parts of a comparison as far as they are known. -/
structure Known where
  column : Option String := none
  operator : Option (String × Text.Range) := none
  mode : Mode := .plain
  value : Option (Token × Text.Range) := none

namespace Known

def addForm (k : Known) (start : Nat) (mode : Mode) (form : Phrase) : Except Malformed Known := do
  let operator ← Malformed.require (form.part? .operator) start .operator
  return { k with mode := mode, operator := some (operator.string, operator.range) }

/-- A further part of the comparison that begins at `start`. Of two parts of a kind the
later one counts. -/
def add (start : Nat) (k : Known) (part : Phrase) : Except Malformed Known :=
  match part.rule with
  | .column => .ok { k with column := some part.string }
  | .operator => .ok { k with operator := some (part.string, part.range) }
  | .columnForm => k.addForm start .column part
  | .colorForm => k.addForm start .color part
  | .value => do
    let value ← part.value
    return { k with value := some value }
  | _ => .ok k

end Known

def comparison (p : Phrase) : Except Malformed (Comparison Text.Range) := do
  let known ← p.parts.foldlM (Known.add p.start) {}
  let column ← Malformed.require known.column p.start .column
  let (operator, operatorRange) ← Malformed.require known.operator p.start .operator
  let (token, valueRange) ← Malformed.require known.value p.stop .value
  return { column := column, operator := operator, operand := operand known.mode token
           mode := known.mode, place := p.range, operatorPlace := operatorRange
           valuePlace := valueRange }

mutual

def tree : Phrase → Except Malformed (Tree Text.Range)
  | ⟨_, start, _, _, inner :: _⟩ =>
    match inner.rule with
    | .group => group inner
    | .comparison => inner.comparison.map .comparison
    | _ => .error ⟨start, .expression⟩
  | ⟨_, start, _, _, []⟩ => .error ⟨start, .expression⟩

/-- A group has a connective and at least one member. -/
def group : Phrase → Except Malformed (Tree Text.Range)
  | ⟨_, start, stop, _, parts⟩ => do
    let (connective, trees) ← groupParts none [] parts
    let connective ← Malformed.require connective start .connective
    if trees.isEmpty then .error ⟨start, .members⟩
    else return .group connective trees ⟨start, stop⟩

/-- The connective of a group and its members, with those known before; of two
connectives the later one counts. -/
def groupParts (connective : Option Connective) (trees : List (Tree Text.Range)) :
    List Phrase → Except Malformed (Option Connective × List (Tree Text.Range))
  | [] => .ok (connective, trees)
  | part :: rest =>
    match part.rule with
    | .connective => do
      let connective ← Malformed.require (Connective.ofKeyword? part.string) part.start .connective
      groupParts (some connective) trees rest
    | .members => do
      let more ← members part
      groupParts connective (trees ++ more) rest
    | _ => groupParts connective trees rest

def members : Phrase → Except Malformed (List (Tree Text.Range))
  | ⟨_, _, _, _, parts⟩ => expressions parts

def expressions : List Phrase → Except Malformed (List (Tree Text.Range))
  | [] => .ok []
  | part :: rest =>
    if part.rule = .expression then do
      let tree ← tree part
      let trees ← expressions rest
      return tree :: trees
    else expressions rest

end

def filterTree (phrases : List Phrase) : Except Malformed (Tree Text.Range) := do
  let filter ← Malformed.require phrases.head? 0 .expression
  let expression ← Malformed.require (filter.part? .expression) 0 .expression
  expression.tree

end Phrase

/-- Reads a tree with the ranges of its parts. Phrases that no tree can be built from are
blamed on the rule that they miss. -/
def parseRanges (source : String) : Except FilterError (Tree Text.Range) :=
  match Grammar.run .filter source with
  | .error cause => .error (.mismatch cause)
  | .ok phrases =>
    (Phrase.filterTree phrases).mapError fun m =>
      .mismatch (Mismatch.ofRules source.toList m.offset [m.missed])

def parse (source : String) : Except FilterError (Tree Text.Span) :=
  (parseRanges source).map (Tree.map (Text.Span.ofRange source.toList))

end InventoryQuery.Filter
