import InventoryQuery.Decimal.Shortest

/-! The text of a binary64 value. Powers of ten from `positionalFrom` up to but
not including `positionalBelow` are written with a point and at least one digit
after it; all others have one digit before the point and a signed exponent. -/
namespace InventoryQuery.Decimal

def positionalFrom : Int := -5

def positionalBelow : Int := 16

namespace Digits

def zeros (n : Nat) : List Char := List.replicate n '0'

def positional (d : Digits) : List Char :=
  if d.exponent < 0 then
    '0' :: '.' :: (zeros ((-d.exponent).toNat - 1) ++ d.digits)
  else
    let whole := d.exponent.toNat + 1
    if d.digits.length ≤ whole then
      d.digits ++ zeros (whole - d.digits.length) ++ ['.', '0']
    else d.digits.take whole ++ '.' :: d.digits.drop whole

def scientific (d : Digits) : List Char :=
  let mantissa :=
    match d.digits with
    | first :: second :: more => first :: '.' :: second :: more
    | short => short
  let sign := if d.exponent < 0 then '-' else '+'
  mantissa ++ 'e' :: sign :: Nat.toDigits 10 d.exponent.natAbs

def text (d : Digits) : List Char :=
  if positionalFrom ≤ d.exponent ∧ d.exponent < positionalBelow then d.positional
  else d.scientific

end Digits

namespace Binary64

def text (x : Binary64) : List Char :=
  let magnitude := if x.significand = 0 then ['0', '.', '0'] else x.shortest.text
  if x.negative then '-' :: magnitude else magnitude

end Binary64

end InventoryQuery.Decimal
