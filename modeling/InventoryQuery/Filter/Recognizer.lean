import InventoryQuery.Filter.Rule
import InventoryQuery.Filter.Lexeme
import InventoryQuery.Text.Position

/-! Recognizers for an ordered-choice grammar. A recognizer reads phrases in front
of a cursor: it takes the first alternative that matches, repeats as often as it
can, and never reconsiders. Beside what it finds it lists the trials that failed
on the way; what it finds does not depend on them. -/
namespace InventoryQuery.Filter

structure Cursor where
  offset : Nat
  rest : List Char

namespace Cursor

def start (source : List Char) : Cursor := ⟨0, source⟩

def advance (c : Cursor) (taken rest : List Char) : Cursor :=
  ⟨c.offset + Text.byteLength taken, rest⟩

def upTo (c next : Cursor) : List Char := c.rest.take (c.rest.length - next.rest.length)

end Cursor

/-- A stretch of the source that matches a rule, with the phrases inside it. -/
structure Phrase where
  rule : Rule
  start : Nat
  stop : Nat
  text : List Char
  parts : List Phrase

/-- A rule that did not match at an offset, with the trials inside it. -/
structure Trial where
  rule : Rule
  offset : Nat
  inner : List Trial

structure Reading where
  found : Option (List Phrase × Cursor)
  trials : List Trial

abbrev Recognizer := Cursor → Reading

namespace Recognizer

def nothing : Recognizer := fun c => ⟨some ([], c), []⟩

def failure : Recognizer := fun _ => ⟨none, []⟩

/-- A lexeme that leaves no phrase and no trial. -/
def skip (a : Lexeme) : Recognizer := fun c =>
  ⟨(a c.rest).map fun (taken, rest) => ([], c.advance taken rest), []⟩

/-- A lexeme that is a phrase of its own. -/
def token (r : Rule) (a : Lexeme) : Recognizer := fun c =>
  match a c.rest with
  | some (taken, rest) =>
    let next := c.advance taken rest
    ⟨some ([⟨r, c.offset, next.offset, taken, []⟩], next), []⟩
  | none => ⟨none, [⟨r, c.offset, []⟩]⟩

def followedBy (a b : Recognizer) : Recognizer := fun c =>
  let first := a c
  match first.found with
  | none => ⟨none, first.trials⟩
  | some (phrases, next) =>
    let second := b next
    ⟨second.found.map fun (more, last) => (phrases ++ more, last), first.trials ++ second.trials⟩

def sequence : List Recognizer → Recognizer
  | [] => nothing
  | a :: rest => followedBy a (sequence rest)

def orElse (a b : Recognizer) : Recognizer := fun c =>
  let first := a c
  match first.found with
  | some found => ⟨some found, first.trials⟩
  | none =>
    let second := b c
    ⟨second.found, first.trials ++ second.trials⟩

def choice : List Recognizer → Recognizer
  | [] => failure
  | a :: rest => orElse a (choice rest)

/-- A recognizer as often as it matches and moves on. -/
def repeated (a : Recognizer) (c : Cursor) : Reading :=
  let first := a c
  match first.found with
  | none => ⟨some ([], c), first.trials⟩
  | some (phrases, next) =>
    if _ : next.rest.length < c.rest.length then
      let more := repeated a next
      ⟨more.found.map fun (others, last) => (phrases ++ others, last), first.trials ++ more.trials⟩
    else ⟨some (phrases, next), first.trials⟩
termination_by c.rest.length

/-- What a body finds is one phrase of the rule, and its failure one trial. -/
def rule (r : Rule) (body : Recognizer) : Recognizer := fun c =>
  let reading := body c
  match reading.found with
  | some (parts, next) =>
    ⟨some ([⟨r, c.offset, next.offset, c.upTo next, parts⟩], next), reading.trials⟩
  | none => ⟨none, [⟨r, c.offset, reading.trials⟩]⟩

@[simp] theorem found_nothing (c : Cursor) : (nothing c).found = some ([], c) := rfl

@[simp] theorem found_failure (c : Cursor) : (failure c).found = none := rfl

theorem found_followedBy (a b : Recognizer) (c : Cursor) :
    (followedBy a b c).found = (a c).found.bind fun (phrases, next) =>
      (b next).found.map fun (more, last) => (phrases ++ more, last) := by
  unfold followedBy
  cases h : (a c).found <;> simp [h]

theorem found_orElse (a b : Recognizer) (c : Cursor) :
    (orElse a b c).found = (a c).found.or (b c).found := by
  unfold orElse
  cases h : (a c).found <;> simp [h]

theorem found_rule (r : Rule) (body : Recognizer) (c : Cursor) :
    (rule r body c).found = (body c).found.map fun (parts, next) =>
      ([⟨r, c.offset, next.offset, c.upTo next, parts⟩], next) := by
  unfold rule
  cases h : (body c).found <;> simp [h]

end Recognizer

end InventoryQuery.Filter
