import InventoryQuery.Decimal.Binary64

/-! The fewest decimal digits that read back as a given binary64 value. The
reals that round to a value form an interval around it, with its ends included
when the significand is even. For one digit, then two, and so on, the two grid
points next to the value are tested against that interval; the first grid with
a hit decides, and of two hits the nearer one is taken, a tie going to the even
digit. -/
namespace InventoryQuery.Decimal

def decimalLength (n : Nat) : Nat := (Nat.toDigits 10 n).length

/-- Decimal digits, the first of them at the power `exponent` of ten. -/
structure Digits where
  digits : List Char
  exponent : Int
deriving DecidableEq, Repr

namespace Digits

/-- The digits of a number of units at a power of ten, without zeros at the end. -/
def ofCount (count : Nat) (place : Int) : Digits :=
  let digits := Nat.toDigits 10 count
  ⟨(digits.reverse.dropWhile (· = '0')).reverse, place + digits.length - 1⟩

end Digits

namespace Binary64

def decimalExponent (num den : Nat) : Int :=
  let guess : Int := (decimalLength num : Int) - decimalLength den
  if den * power 10 guess ≤ num * power 10 (-guess) then guess else guess - 1

/-- The reals that round to a value: its magnitude and the two ends of its
interval over one denominator, and whether the ends belong to it. -/
structure Interval where
  low : Nat
  value : Nat
  high : Nat
  den : Nat
  closed : Bool

/-- Quarters of the last significand bit carry both ends: the lower gap is half
as wide at a power of two. -/
def interval (x : Binary64) : Interval :=
  let quarter := x.exponent - 2
  let unit := power 2 quarter
  let below := if x.significand = leastNormal ∧ x.exponent ≠ -1074 then 1 else 2
  { low := (4 * x.significand - below) * unit
    value := 4 * x.significand * unit
    high := (4 * x.significand + 2) * unit
    den := power 2 (-quarter)
    closed := x.significand % 2 = 0 }

def Interval.holds (i : Interval) (count : Nat) (place : Int) : Bool :=
  let point := count * power 10 place * i.den
  let scale := power 10 (-place)
  if i.closed then i.low * scale ≤ point && point ≤ i.high * scale
  else i.low * scale < point && point < i.high * scale

def Interval.over (i : Interval) (place : Int) : Nat × Nat :=
  (i.value * power 10 (-place), i.den * power 10 place)

/-- The grid point nearest to the value, among those of its two neighbours on the
grid of a power of ten that lie in the interval. -/
def Interval.onGrid? (i : Interval) (place : Int) : Option Nat :=
  let (num, den) := i.over place
  let down := num / den
  match i.holds down place, i.holds (down + 1) place with
  | true, true => some (roundDiv num den)
  | true, false => some down
  | false, true => some (down + 1)
  | false, false => none

/-- Seventeen digits always suffice. -/
def shortest (x : Binary64) : Digits :=
  let i := x.interval
  let first := decimalExponent i.value i.den
  let grid (n : Nat) : Option Digits :=
    let place := first - n
    (i.onGrid? place).map (Digits.ofCount · place)
  let last := first - 16
  ((List.range 17).findSome? grid).getD
    (Digits.ofCount (roundDiv (i.over last).1 (i.over last).2) last)

end Binary64

end InventoryQuery.Decimal
