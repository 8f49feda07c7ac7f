import InventoryQuery.Filter.Recognizer

/-! Where a failed reading is blamed, and on which rules. Blame lies at one offset
and moves only forward. A failed rule replaces the rules noted inside it at its
own offset, except where they come to exactly one, which then speaks for it. -/
namespace InventoryQuery.Filter

structure Blame where
  offset : Nat
  rules : List Rule
deriving DecidableEq, Repr

namespace Blame

def none : Blame := ⟨0, []⟩

def countAt (b : Blame) (offset : Nat) : Nat :=
  if b.offset = offset then b.rules.length else 0

/-- Notes a rule at an offset after the first `kept` rules there. -/
def note (b : Blame) (r : Rule) (offset kept : Nat) : Blame :=
  if offset < b.offset then b
  else if offset = b.offset then ⟨offset, b.rules.take kept ++ [r]⟩
  else ⟨offset, [r]⟩

mutual

def addTrial (b : Blame) : Trial → Blame
  | ⟨r, offset, inner⟩ =>
    let inside := addTrials b inner
    if inside.countAt offset - b.countAt offset = 1 then inside
    else inside.note r offset (b.countAt offset)

def addTrials (b : Blame) : List Trial → Blame
  | [] => b
  | trial :: rest => addTrials (addTrial b trial) rest

end

def ofTrials (trials : List Trial) : Blame := addTrials none trials

end Blame

end InventoryQuery.Filter
