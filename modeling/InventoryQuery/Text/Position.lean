/-! Places in a text. Offsets count the bytes of the UTF-8 form; lines and
columns count from one, columns in characters, and only a line feed starts a
new line. -/
namespace InventoryQuery.Text

def byteLength : List Char → Nat
  | [] => 0
  | c :: cs => c.utf8Size + byteLength cs

@[simp] theorem byteLength_nil : byteLength [] = 0 := rfl

@[simp] theorem byteLength_cons (c : Char) (cs : List Char) :
    byteLength (c :: cs) = c.utf8Size + byteLength cs := rfl

@[simp] theorem byteLength_append (a b : List Char) :
    byteLength (a ++ b) = byteLength a + byteLength b := by
  induction a with
  | nil => simp
  | cons c cs ih => simp [ih, Nat.add_assoc]

theorem byteLength_pos {cs : List Char} (nonempty : cs ≠ []) : 0 < byteLength cs := by
  obtain ⟨c, rest, rfl⟩ := List.exists_cons_of_ne_nil nonempty
  have positive := c.utf8Size_pos
  rw [byteLength_cons]
  omega

/-- The characters on either side of an offset that lies between two characters. -/
def splitAt? : List Char → Nat → Option (List Char × List Char)
  | cs, 0 => some ([], cs)
  | [], _ + 1 => none
  | c :: cs, n + 1 =>
    if c.utf8Size ≤ n + 1 then
      (splitAt? cs (n + 1 - c.utf8Size)).map fun (before, rest) => (c :: before, rest)
    else none

theorem splitAt?_append (before rest : List Char) :
    splitAt? (before ++ rest) (byteLength before) = some (before, rest) := by
  induction before with
  | nil => cases rest <;> simp [splitAt?]
  | cons c cs ih =>
    have positive := c.utf8Size_pos
    obtain ⟨n, size⟩ : ∃ n, c.utf8Size + byteLength cs = n + 1 :=
      ⟨c.utf8Size + byteLength cs - 1, by omega⟩
    have left : n + 1 - c.utf8Size = byteLength cs := by omega
    have fits : c.utf8Size ≤ n + 1 := by omega
    simp [splitAt?, size, fits, left, ih]

theorem eq_of_splitAt? {cs before rest : List Char} {offset : Nat}
    (split : splitAt? cs offset = some (before, rest)) :
    cs = before ++ rest ∧ offset = byteLength before := by
  induction cs generalizing offset before rest with
  | nil => cases offset <;> simp_all [splitAt?]
  | cons c cs ih =>
    cases offset with
    | zero => simp_all [splitAt?]
    | succ n =>
      simp only [splitAt?] at split
      split at split
      · obtain ⟨⟨left, right⟩, inner, same⟩ := Option.map_eq_some_iff.1 split
        have tail := ih inner
        simp only [Prod.mk.injEq] at same
        obtain ⟨rfl, rfl⟩ := same
        refine ⟨by simp [tail.1], ?_⟩
        simp only [byteLength_cons]
        omega
      · simp at split

structure Position where
  line : Nat
  column : Nat
deriving DecidableEq, Repr

namespace Position

def start : Position := ⟨1, 1⟩

def next (p : Position) (c : Char) : Position :=
  if c = '\n' then ⟨p.line + 1, 1⟩ else ⟨p.line, p.column + 1⟩

def after (cs : List Char) : Position := cs.foldl next start

/-- The place of an offset. One that lies outside the source or inside a
character counts as the end of the source. -/
def ofOffset (source : List Char) (offset : Nat) : Position :=
  match splitAt? source offset with
  | some (before, _) => after before
  | none => after source

theorem after_append_singleton (cs : List Char) (c : Char) :
    after (cs ++ [c]) = (after cs).next c := by
  simp [after]

theorem ofOffset_append (before rest : List Char) :
    ofOffset (before ++ rest) (byteLength before) = after before := by
  simp [ofOffset, splitAt?_append]

end Position

structure Range where
  start : Nat
  stop : Nat
deriving DecidableEq, Repr

structure Span extends Range where
  position : Position
deriving DecidableEq, Repr

def Span.ofRange (source : List Char) (range : Range) : Span :=
  ⟨range, Position.ofOffset source range.start⟩

/-- The character at an offset, if one starts there. -/
def charAt? (source : List Char) (offset : Nat) : Option Char :=
  (splitAt? source offset).bind fun (_, rest) => rest.head?

end InventoryQuery.Text
