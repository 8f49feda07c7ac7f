import InventoryQuery.Decimal.Numeral

/-! Integers of a fixed width, read digit by digit. Behind a minus the digits are
taken off instead of added. Reading gives up at the first product or sum that the
width does not hold, so no integer wraps around. -/
namespace InventoryQuery.Decimal

structure Width where
  least : Int
  greatest : Int
  least_le_zero : least ≤ 0 := by decide
  zero_le_greatest : 0 ≤ greatest := by decide

namespace Width

def signed64 : Width where
  least := -9223372036854775808
  greatest := 9223372036854775807

def unsigned64 : Width where
  least := 0
  greatest := 18446744073709551615

def fit? (w : Width) (value : Int) : Option Int :=
  if w.least ≤ value ∧ value ≤ w.greatest then some value else none

def addDigit? (w : Width) (negative : Bool) (value : Int) (c : Char) : Option Int :=
  (w.fit? (10 * value)).bind fun tens =>
    w.fit? (if negative then tens - digitValue c else tens + digitValue c)

/-- Reads digits. A width without negative integers takes no minus. -/
def read? (w : Width) (negative : Bool) (digits : List Char) : Option Int :=
  if negative ∧ w.least = 0 then none else digits.foldlM (w.addDigit? negative) 0

end Width

/-- The integer of a numeral without a fraction: a signed one, or else an unsigned one. -/
def Numeral.integer? (n : Numeral) : Option Int :=
  (Width.signed64.read? n.negative n.whole).or (Width.unsigned64.read? n.negative n.whole)

end InventoryQuery.Decimal
