import InventoryQuery.Association
import InventoryQuery.Decimal.Layout
import InventoryQuery.Decimal.Width

/-! JSON values. A number is an integer of the signed or unsigned 64-bit range or
a finite binary64 value. The members of an object stand in the order given; a
value is `Ordered` when all its objects list their keys in strictly ascending
order, and `sortKeys` brings any value into that form. -/
namespace InventoryQuery

def minInteger : Int := -9223372036854775808

def maxInteger : Int := 18446744073709551615

inductive Number
  | integer (value : Int) (inRange : minInteger ≤ value ∧ value ≤ maxInteger)
  | real (value : Decimal.Binary64)
deriving DecidableEq

namespace Number

def ofInteger? (value : Int) : Option Number :=
  if inRange : minInteger ≤ value ∧ value ≤ maxInteger then some (.integer value inRange)
  else none

/-- A numeral with a point is the nearest binary64 value, one without a point is an
integer of 64 bits; either may have no representation. -/
def ofNumeral? (n : Decimal.Numeral) : Option Number :=
  match n.fraction with
  | none => n.integer?.bind ofInteger?
  | some fraction =>
    (Decimal.Binary64.ofDecimal? n.negative (Decimal.valueOfDigits (n.whole ++ fraction))
      (-(fraction.length : Int))).map .real

def ofText? (cs : List Char) : Option Number :=
  (Decimal.Numeral.ofText? cs).bind ofNumeral?

def integerText (value : Int) : List Char :=
  if value < 0 then '-' :: Nat.toDigits 10 value.natAbs else Nat.toDigits 10 value.natAbs

def text : Number → List Char
  | .integer value _ => integerText value
  | .real value => value.text

end Number

inductive Json
  | null
  | boolean (value : Bool)
  | number (value : Number)
  | string (value : String)
  | array (elements : List Json)
  | object (members : List (String × Json))

namespace Json

mutual

/-- The same value with the keys of every object in ascending order; the last of
several members with one key counts. -/
def sortKeys : Json → Json
  | .array elements => .array (sortElements elements)
  | .object members => .object (Association.ofList (sortMembers members))
  | .null => .null
  | .boolean value => .boolean value
  | .number value => .number value
  | .string value => .string value

def sortElements : List Json → List Json
  | [] => []
  | element :: rest => sortKeys element :: sortElements rest

def sortMembers : List (String × Json) → List (String × Json)
  | [] => []
  | (key, value) :: rest => (key, sortKeys value) :: sortMembers rest

end

inductive Ordered : Json → Prop
  | null : Ordered .null
  | boolean (value : Bool) : Ordered (.boolean value)
  | number (value : Number) : Ordered (.number value)
  | string (value : String) : Ordered (.string value)
  | array {elements : List Json} (inside : ∀ element ∈ elements, Ordered element) :
      Ordered (.array elements)
  | object {members : List (String × Json)} (ascending : Association.Ascending members)
      (inside : ∀ entry ∈ members, Ordered entry.2) : Ordered (.object members)

mutual

theorem ordered_sortKeys : (value : Json) → Ordered value.sortKeys
  | .array elements => by
    rw [sortKeys]
    exact .array (ordered_sortElements elements)
  | .object members => by
    rw [sortKeys]
    refine .object (Association.ascending_ofList _) fun entry member => ?_
    rcases Association.mem_union member with nowhere | member
    · simp at nowhere
    · exact ordered_sortMembers members entry member
  | .null => by rw [sortKeys]; exact .null
  | .boolean value => by rw [sortKeys]; exact .boolean value
  | .number value => by rw [sortKeys]; exact .number value
  | .string value => by rw [sortKeys]; exact .string value

theorem ordered_sortElements : (elements : List Json) →
    ∀ element ∈ sortElements elements, Ordered element
  | [] => by simp [sortElements]
  | head :: rest => by
    intro element member
    rw [sortElements] at member
    rcases List.mem_cons.1 member with rfl | member
    · exact ordered_sortKeys head
    · exact ordered_sortElements rest element member

theorem ordered_sortMembers : (members : List (String × Json)) →
    ∀ entry ∈ sortMembers members, Ordered entry.2
  | [] => by simp [sortMembers]
  | (key, value) :: rest => by
    intro entry member
    rw [sortMembers] at member
    rcases List.mem_cons.1 member with rfl | member
    · exact ordered_sortKeys value
    · exact ordered_sortMembers rest entry member

end

/-- A count. Counts beyond the range of numbers are written as text. -/
def ofNat (n : Nat) : Json :=
  match Number.ofInteger? n with
  | some value => .number value
  | none => .string (toString n)

def strings (items : List String) : Json := .array (items.map .string)

theorem ordered_singleton {key : String} {value : Json} (inside : value.Ordered) :
    Ordered (.object [(key, value)]) :=
  .object (List.pairwise_singleton _ _) fun entry member => by
    rw [List.mem_singleton] at member
    subst member
    exact inside

end Json

end InventoryQuery
