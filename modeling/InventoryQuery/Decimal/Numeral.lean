import InventoryQuery.Decimal.Binary64

/-! Numerals. A plain numeral is an optional minus, digits, and optionally a
point with more digits; it is the only form read as a number. The wider class
`isNumberLike` also covers signs, exponents, a bare point on one side and the
names of infinity and not-a-number. -/
namespace InventoryQuery.Decimal

def isDigit (c : Char) : Bool := '0' ≤ c && c ≤ '9'

def digitValue (c : Char) : Nat := c.toNat - '0'.toNat

def valueOfDigits (cs : List Char) : Nat :=
  cs.foldl (fun value c => 10 * value + digitValue c) 0

theorem valueOfDigits_append_singleton (cs : List Char) (c : Char) :
    valueOfDigits (cs ++ [c]) = 10 * valueOfDigits cs + digitValue c := by
  simp [valueOfDigits]

structure Numeral where
  negative : Bool
  whole : List Char
  fraction : Option (List Char)
deriving DecidableEq

def isDigits (cs : List Char) : Bool := !cs.isEmpty && cs.all isDigit

namespace Numeral

def unsigned? (negative : Bool) (cs : List Char) : Option Numeral :=
  let whole := cs.takeWhile isDigit
  match cs.dropWhile isDigit with
  | [] => if whole.isEmpty then none else some ⟨negative, whole, none⟩
  | '.' :: fraction =>
    if !whole.isEmpty && isDigits fraction then some ⟨negative, whole, some fraction⟩ else none
  | _ => none

def ofText? : List Char → Option Numeral
  | '-' :: cs => unsigned? true cs
  | cs => unsigned? false cs

end Numeral

def dropSign : List Char → List Char
  | '+' :: cs => cs
  | '-' :: cs => cs
  | cs => cs

def lowerAscii (c : Char) : Char :=
  if 'A' ≤ c && c ≤ 'Z' then Char.ofNat (c.toNat + 32) else c

/-- An exponent mark with an optional sign and at least one digit, or nothing. -/
def isExponent : List Char → Bool
  | [] => true
  | c :: cs => (c == 'e' || c == 'E') && isDigits (dropSign cs)

def isNumberLike (cs : List Char) : Bool :=
  let body := dropSign cs
  let name := String.ofList (body.map lowerAscii)
  if name == "inf" || name == "infinity" || name == "nan" then true
  else
    let whole := body.takeWhile isDigit
    match body.dropWhile isDigit with
    | '.' :: rest =>
      let fraction := rest.takeWhile isDigit
      !(whole.isEmpty && fraction.isEmpty) && isExponent (rest.dropWhile isDigit)
    | rest => !whole.isEmpty && isExponent rest

end InventoryQuery.Decimal
