/-! Finite binary64 values, kept exactly as a sign, a significand of at most 53 bits
and a power of two. Every value has one representation apart from the sign of
zero. Ratios of natural numbers are taken to the nearest value, a tie to the
even significand, and have none when they lie beyond the largest value. -/
namespace InventoryQuery.Decimal

/-- The nearest natural number to `num / den`, with a tie to the even one. -/
def roundDiv (num den : Nat) : Nat :=
  let quotient := num / den
  let remainder := num % den
  if 2 * remainder < den then quotient
  else if den < 2 * remainder then quotient + 1
  else quotient + quotient % 2

/-- A power of a base, where a negative exponent counts as zero. -/
def power (base : Nat) (exponent : Int) : Nat := Nat.pow base exponent.toNat

theorem power_pos {base : Nat} (positive : 0 < base) (exponent : Int) :
    0 < power base exponent :=
  Nat.pow_pos positive

def leastNormal : Nat := 4503599627370496

/-- The least significand with 54 bits, which is one too many. -/
def significandBound : Nat := 9007199254740992

structure Binary64 where
  negative : Bool
  significand : Nat
  exponent : Int
  significand_lt : significand < significandBound
  exponent_ge : -1074 ≤ exponent
  exponent_le : exponent ≤ 971
  normal : leastNormal ≤ significand ∨ exponent = -1074
deriving DecidableEq

namespace Binary64

def ofParts? (negative : Bool) (significand : Nat) (exponent : Int) : Option Binary64 :=
  if bounds : significand < significandBound ∧ -1074 ≤ exponent ∧ exponent ≤ 971 ∧
      (leastNormal ≤ significand ∨ exponent = -1074) then
    some ⟨negative, significand, exponent, bounds.1, bounds.2.1, bounds.2.2.1, bounds.2.2.2⟩
  else none

def scaled (num den : Nat) (exponent : Int) : Nat × Nat :=
  (num * power 2 (-exponent), den * power 2 exponent)

/-- The power of two that leaves 53 bits before the point of a ratio, or the
least one there is. -/
def exponentOf (num den : Nat) : Int :=
  let guess : Int := (num.log2 : Int) - den.log2 - 53
  let (n, d) := scaled num den guess
  max (-1074) (if d * significandBound ≤ n then guess + 1 else guess)

/-- The nearest value to `num / den`. -/
def ofRatio? (negative : Bool) (num den : Nat) : Option Binary64 :=
  if num = 0 then ofParts? negative 0 (-1074)
  else
    let exponent := exponentOf num den
    let (n, d) := scaled num den exponent
    let significand := roundDiv n d
    if significand = significandBound then ofParts? negative leastNormal (exponent + 1)
    else ofParts? negative significand exponent

def ofDecimal? (negative : Bool) (digits : Nat) (exponent : Int) : Option Binary64 :=
  ofRatio? negative (digits * power 10 exponent) (power 10 (-exponent))

theorem negative_of_ofParts? {negative : Bool} {significand : Nat} {exponent : Int}
    {x : Binary64} (found : ofParts? negative significand exponent = some x) :
    x.negative = negative ∧ x.significand = significand ∧ x.exponent = exponent := by
  unfold ofParts? at found
  split at found
  · cases found
    exact ⟨rfl, rfl, rfl⟩
  · simp at found

end Binary64

end InventoryQuery.Decimal
