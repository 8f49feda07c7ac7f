import InventoryQuery.Proofs.Decimal.Numerals
import InventoryQuery.Proofs.Decimal.Shortest

/-! Rounding gives the nearest value. What is rounded lies in the interval of its outcome, no
other value lies between the outcome and an end of the interval, and an outcome is missing
just from the point on that lies halfway beyond the greatest value. -/
namespace InventoryQuery.Decimal

theorem roundDiv_bounds (num : ℕ) {den : ℕ} (positive : 0 < den) :
    2 * (roundDiv num den * den) ≤ 2 * num + den ∧
      2 * num ≤ 2 * (roundDiv num den * den) + den ∧
      (roundDiv num den % 2 = 1 → 2 * (roundDiv num den * den) < 2 * num + den ∧
        2 * num < 2 * (roundDiv num den * den) + den) := by
  have split : num = num / den * den + num % den := by
    rw [mul_comm]; exact (Nat.div_add_mod num den).symm
  have small := Nat.mod_lt num positive
  unfold roundDiv
  dsimp only
  generalize num / den = q at *
  generalize num % den = r at *
  subst split
  split_ifs with down up
  · omega
  · rw [add_mul, one_mul]
    omega
  · -- A tie goes to the even neighbour.
    rcases Nat.mod_two_eq_zero_or_one q with even | odd
    · rw [even, add_zero]
      omega
    · rw [odd, add_mul, one_mul]
      omega

theorem rounded_roundDiv (num : ℕ) {den : ℕ} (den_pos : 0 < den) (e : ℤ) :
    Rounded (num / den) (roundDiv (num * power 2 (-e)) (den * power 2 e)) e := by
  have unit : (0 : ℚ) < 2 ^ e := by positivity
  have positive := Nat.mul_pos den_pos (power_pos (by decide : 0 < 2) e)
  have denPos : (0 : ℚ) < (den * power 2 e : ℕ) := by exact_mod_cast positive
  have ratio := scaled_ratio (b := 2) (by decide) num den e
  obtain ⟨low, high, inside⟩ := roundDiv_bounds (num * power 2 (-e)) positive
  rw [Nat.cast_ofNat, eq_div_iff unit.ne'] at ratio
  rw [← ratio]
  generalize num * power 2 (-e) = n at *
  generalize den * power 2 e = d at *
  have nat_le (a b : ℕ) : a ≤ b ↔ (a : ℚ) ≤ b := Nat.cast_le.symm
  have nat_lt (a b : ℕ) : a < b ↔ (a : ℚ) < b := Nat.cast_lt.symm
  simp only [nat_le, nat_lt] at low high inside
  push_cast at low high inside
  refine ⟨?_, ?_, fun odd => ⟨?_, ?_⟩⟩
  · refine mul_le_mul_of_nonneg_right ?_ unit.le
    rw [le_div_iff₀ denPos]
    linarith
  · refine mul_le_mul_of_nonneg_right ?_ unit.le
    rw [div_le_iff₀ denPos]
    linarith
  · refine mul_lt_mul_of_pos_right ?_ unit
    rw [lt_div_iff₀ denPos]
    linarith [(inside odd).1]
  · refine mul_lt_mul_of_pos_right ?_ unit
    rw [div_lt_iff₀ denPos]
    linarith [(inside odd).2]

namespace Rounded

variable {r : ℚ} {m : ℕ} {e : ℤ}

theorem le_bound (rounded : Rounded r m e) (small : r < 2 ^ (e + 53)) : m ≤ significandBound := by
  have unit : (0 : ℚ) < 2 ^ e := by positivity
  rw [zpow_add₀ (by norm_num), mul_comm] at small
  have below := lt_of_mul_lt_mul_right (lt_of_le_of_lt rounded.low small) unit.le
  refine Nat.le_of_not_lt fun more => ?_
  have many : (significandBound : ℚ) + 1 ≤ m := by exact_mod_cast more
  have bound : (significandBound : ℚ) = 2 ^ 53 := by norm_num [significandBound]
  linarith

theorem leastNormal_le (rounded : Rounded r m e) (large : (2 : ℚ) ^ (e + 52) ≤ r) :
    leastNormal ≤ m := by
  have unit : (0 : ℚ) < 2 ^ e := by positivity
  rw [zpow_add₀ (by norm_num), mul_comm] at large
  have above := le_of_mul_le_mul_right (le_trans large rounded.high) unit
  refine Nat.le_of_not_lt fun fewer => ?_
  have few : (m : ℚ) + 1 ≤ leastNormal := by exact_mod_cast fewer
  norm_num [leastNormal] at above few
  linarith

end Rounded

namespace Binary64

variable {r : ℚ} {x : Binary64} {num den : ℕ}

theorem exponentOf_bounds (num_pos : 0 < num) (den_pos : 0 < den) :
    -1074 ≤ exponentOf num den ∧ (num / den : ℚ) < 2 ^ (exponentOf num den + 53) ∧
      (exponentOf num den = -1074 ∨ (2 : ℚ) ^ (exponentOf num den + 52) ≤ num / den) := by
  have positive : (0 : ℚ) < num / den :=
    div_pos (by exact_mod_cast num_pos) (by exact_mod_cast den_pos)
  have below (k : ℤ) := Int.lt_zpow_iff_log_lt (b := 2) (x := k) (by decide) positive
  have above (k : ℤ) := Int.zpow_le_iff_le_log (b := 2) (x := k) (by decide) positive
  rw [Nat.cast_ofNat] at below above
  rw [exponentOf_eq num_pos den_pos, below, above]
  omega

theorem covers_of_rounded (rounded : Rounded r x.significand x.exponent)
    (reached : x.exponent = -1074 ∨ (2 : ℚ) ^ (x.exponent + 52) ≤ r) : x.Covers r := by
  refine ⟨?_, rounded.high, fun odd => ⟨?_, (rounded.inside odd).2⟩⟩
  · rw [lowEnd]
    split
    next short =>
      have unit : (0 : ℚ) < 2 ^ x.exponent := by positivity
      have large := reached.resolve_left short.2
      rw [zpow_add₀ (by norm_num), mul_comm] at large
      refine le_trans (mul_le_mul_of_nonneg_right ?_ unit.le) large
      norm_num [short.1, leastNormal]
    · exact rounded.low
  · have other : ¬(x.significand = leastNormal ∧ x.exponent ≠ -1074) := fun short => by
      rw [short.1] at odd
      exact absurd odd (by decide)
    rw [lowEnd, if_neg other]
    exact (rounded.inside odd).1

theorem covers_of_carry {e : ℤ} (least : -1074 ≤ e) (rounded : Rounded r significandBound e)
    (small : r < 2 ^ (e + 53)) (significand : x.significand = leastNormal)
    (exponent : x.exponent = e + 1) : x.Covers r := by
  have unit : (0 : ℚ) < 2 ^ e := by positivity
  have double : (2 : ℚ) ^ x.exponent = 2 * 2 ^ e := by
    rw [exponent, zpow_add₀ (by norm_num)]
    ring
  have low := rounded.low
  rw [zpow_add₀ (by norm_num)] at small
  norm_num [significandBound] at low small
  -- One bit too many is the least significand at the next power of two.
  refine ⟨?_, ?_, fun odd => ?_⟩
  · rw [lowEnd, if_pos ⟨significand, by omega⟩, double, significand]
    norm_num [leastNormal]
    linarith
  · rw [highEnd, double, significand]
    norm_num [leastNormal]
    linarith
  · rw [significand] at odd
    exact absurd odd (by decide)

theorem covers_of_ofRatio? {negative : Bool} (den_pos : 0 < den)
    (found : ofRatio? negative num den = some x) :
    x.negative = negative ∧ x.Covers (num / den) := by
  unfold ofRatio? at found
  split at found
  next none =>
    obtain ⟨sign, significand, exponent⟩ := negative_of_ofParts? found
    refine ⟨sign, ?_⟩
    have zero : (num / den : ℚ) = 0 := by simp [none]
    have unit : (0 : ℚ) < 2 ^ x.exponent := by positivity
    rw [zero]
    refine ⟨?_, ?_, by simp [significand]⟩
    · rw [lowEnd, if_neg (by simp [exponent]), significand]
      norm_num [unit.le]
    · rw [highEnd, significand]
      norm_num [unit.le]
  next some =>
    have num_pos := Nat.pos_of_ne_zero some
    obtain ⟨least, small, reached⟩ := exponentOf_bounds num_pos den_pos
    have rounded := rounded_roundDiv num den_pos (exponentOf num den)
    dsimp only [scaled] at found
    generalize exponentOf num den = e at *
    split at found
    next carry =>
      rw [carry] at rounded
      obtain ⟨sign, significand, exponent⟩ := negative_of_ofParts? found
      exact ⟨sign, covers_of_carry least rounded small significand exponent⟩
    · obtain ⟨sign, significand, exponent⟩ := negative_of_ofParts? found
      rw [← significand, ← exponent] at rounded
      rw [← exponent] at reached
      exact ⟨sign, covers_of_rounded rounded reached⟩

/-- Halfway from the greatest value to what would follow it. -/
def overflow : ℚ := (2 ^ 53 - 1 / 2) * 2 ^ (971 : ℤ)

theorem Covers.lt_overflow (covers : x.Covers r) : r < overflow := by
  have unit : (0 : ℚ) < 2 ^ x.exponent := by positivity
  have top : (2 : ℚ) ^ x.exponent ≤ 2 ^ (971 : ℤ) := zpow_le_zpow_right₀ (by norm_num) x.exponent_le
  have fits : (x.significand : ℚ) + 1 ≤ significandBound := by exact_mod_cast x.significand_lt
  have bound : (significandBound : ℚ) = 2 ^ 53 := by norm_num [significandBound]
  have ends : x.highEnd ≤ overflow := by
    rw [highEnd, overflow]
    exact mul_le_mul (by linarith) top unit.le (by norm_num)
  rcases Nat.mod_two_eq_zero_or_one x.significand with even | odd
  · -- The greatest significand is odd, so an even one is less.
    have less : (x.significand : ℚ) + 1 < significandBound := by
      have other : x.significand + 1 ≠ significandBound := by
        simp only [significandBound]
        omega
      exact_mod_cast lt_of_le_of_ne x.significand_lt other
    refine lt_of_le_of_lt covers.high ?_
    rw [highEnd, overflow]
    exact mul_lt_mul (by linarith) top unit (by norm_num)
  · exact lt_of_lt_of_le (covers.inside odd).2 ends

theorem ofParts?_isSome {negative : Bool} {m : ℕ} {e : ℤ} (small : m < significandBound)
    (least : -1074 ≤ e) (top : e ≤ 971) (normal : leastNormal ≤ m ∨ e = -1074) :
    (ofParts? negative m e).isSome = true := by
  rw [ofParts?, dif_pos ⟨small, least, top, normal⟩]
  rfl

theorem exponent_le_of_lt_overflow {e : ℤ} (large : (2 : ℚ) ^ (e + 52) ≤ r) (low : r < overflow) :
    e ≤ 971 := by
  have top : overflow < (2 : ℚ) ^ (53 + 971 : ℤ) := by
    rw [overflow, zpow_add₀ (by norm_num)]
    exact mul_lt_mul_of_pos_right (by norm_num) (by positivity)
  have less := (zpow_lt_zpow_iff_right₀ (by norm_num : (1 : ℚ) < 2)).1
    (lt_of_le_of_lt large (low.trans top))
  omega

theorem ofRatio?_isSome_iff (negative : Bool) (num : ℕ) (den_pos : 0 < den) :
    (ofRatio? negative num den).isSome = true ↔ (num / den : ℚ) < overflow := by
  constructor
  · intro found
    obtain ⟨x, found⟩ := Option.isSome_iff_exists.1 found
    exact (covers_of_ofRatio? den_pos found).2.lt_overflow
  · intro low
    unfold ofRatio?
    split
    · exact ofParts?_isSome (by decide) (by decide) (by decide) (.inr rfl)
    next some =>
      obtain ⟨least, small, reached⟩ := exponentOf_bounds (Nat.pos_of_ne_zero some) den_pos
      have rounded := rounded_roundDiv num den_pos (exponentOf num den)
      dsimp only [scaled]
      generalize exponentOf num den = e at *
      have top : e ≤ 971 := by
        rcases reached with rfl | large
        · decide
        · exact exponent_le_of_lt_overflow large low
      split
      next carry =>
        rw [carry] at rounded
        have notLast : e ≠ 971 := by
          rintro rfl
          have bound : (significandBound : ℚ) = 2 ^ 53 := by norm_num [significandBound]
          have high := rounded.low
          rw [bound] at high
          exact absurd high (not_le.2 low)
        exact ofParts?_isSome (by decide) (by omega) (by omega) (.inl (Nat.le_refl _))
      next other =>
        exact ofParts?_isSome (lt_of_le_of_ne (rounded.le_bound small) other) least top
          (reached.symm.imp_left rounded.leastNormal_le)

theorem magnitude_grid {x y : Binary64} (coarser : x.exponent ≤ y.exponent) :
    ∃ k : ℕ, y.magnitude = k * 2 ^ x.exponent := by
  obtain ⟨d, step⟩ := Int.le.dest coarser
  refine ⟨y.significand * 2 ^ d, ?_⟩
  rw [magnitude, ← step, zpow_add₀ (by norm_num), zpow_natCast]
  push_cast
  ring

theorem magnitude_le_of_finer {x y : Binary64} (finer : y.exponent < x.exponent) :
    y.magnitude ≤ (leastNormal - 1 / 2) * 2 ^ x.exponent := by
  have fits : (y.significand : ℚ) + 1 ≤ significandBound := by exact_mod_cast y.significand_lt
  have step : (2 : ℚ) ^ y.exponent ≤ 2 ^ (x.exponent - 1) :=
    zpow_le_zpow_right₀ (by norm_num) (by omega)
  have half : (2 : ℚ) ^ (x.exponent - 1) = 1 / 2 * 2 ^ x.exponent := by
    rw [zpow_sub₀ (by norm_num)]
    ring
  -- The greatest significand of finer bits ends half a bit below the least one here.
  calc y.magnitude ≤ (significandBound - 1) * 2 ^ (x.exponent - 1) := by
        exact mul_le_mul (by linarith) step (by positivity) (by norm_num [significandBound])
    _ = (leastNormal - 1 / 2) * 2 ^ x.exponent := by
        rw [half]
        norm_num [significandBound, leastNormal]
        ring

theorem leastNormal_le_of_finer {x y : Binary64} (finer : y.exponent < x.exponent) :
    (leastNormal : ℚ) ≤ x.significand := by
  have least := y.exponent_ge
  exact_mod_cast x.normal.resolve_right (by omega)

theorem highEnd_le_midpoint {x y : Binary64} (greater : x.magnitude < y.magnitude) :
    2 * x.highEnd ≤ x.magnitude + y.magnitude := by
  have unit : (0 : ℚ) < 2 ^ x.exponent := by positivity
  rcases le_or_gt x.exponent y.exponent with coarser | finer
  · obtain ⟨k, same⟩ := magnitude_grid coarser
    rw [same, magnitude] at greater
    have next : (x.significand : ℚ) + 1 ≤ k := by
      exact_mod_cast lt_of_mul_lt_mul_right greater unit.le
    have room := mul_le_mul_of_nonneg_right next unit.le
    rw [highEnd, magnitude, same]
    linarith
  · have below := magnitude_le_of_finer finer
    have normal := mul_le_mul_of_nonneg_right (leastNormal_le_of_finer finer) unit.le
    rw [magnitude] at greater
    linarith

theorem midpoint_le_lowEnd {x y : Binary64} (lesser : y.magnitude < x.magnitude) :
    x.magnitude + y.magnitude ≤ 2 * x.lowEnd := by
  have unit : (0 : ℚ) < 2 ^ x.exponent := by positivity
  have half := x.half_le_lowEnd
  rcases le_or_gt x.exponent y.exponent with coarser | finer
  · obtain ⟨k, same⟩ := magnitude_grid coarser
    rw [same, magnitude] at lesser
    have next : (k : ℚ) + 1 ≤ x.significand := by
      exact_mod_cast lt_of_mul_lt_mul_right lesser unit.le
    have room := mul_le_mul_of_nonneg_right next unit.le
    rw [magnitude, same]
    linarith
  · have below := magnitude_le_of_finer finer
    have notLeast : x.exponent ≠ -1074 := by
      have least := y.exponent_ge
      omega
    rcases (leastNormal_le_of_finer finer).eq_or_lt with same | more
    · -- Below a power of two the bits are half as wide, and so is the interval.
      have short : x.lowEnd = (leastNormal - 1 / 4) * 2 ^ x.exponent := by
        rw [lowEnd, if_pos ⟨by exact_mod_cast same.symm, notLeast⟩, ← same]
      rw [short, magnitude, ← same]
      linarith
    · have next : (leastNormal : ℚ) + 1 ≤ x.significand := by exact_mod_cast more
      have room := mul_le_mul_of_nonneg_right next unit.le
      rw [magnitude]
      linarith

theorem magnitude_nonneg (x : Binary64) : 0 ≤ x.magnitude :=
  mul_nonneg (Nat.cast_nonneg _) (by positivity)

theorem Covers.distance_le (covers : x.Covers r) (y : Binary64) :
    |r - x.magnitude| ≤ |r - y.magnitude| := by
  -- The interval reaches no further than the midpoint to a greater or to a lesser value.
  rcases lt_trichotomy x.magnitude y.magnitude with greater | same | lesser
  · have mid := highEnd_le_midpoint greater
    have high := covers.high
    refine le_trans (abs_le.2 ⟨?_, ?_⟩) (neg_le_abs _) <;> linarith
  · rw [same]
  · have mid := midpoint_le_lowEnd lesser
    have low := covers.low
    refine le_trans (abs_le.2 ⟨?_, ?_⟩) (le_abs_self _) <;> linarith

theorem Covers.distance_lt (covers : x.Covers r) (odd : x.significand % 2 = 1) {y : Binary64}
    (other : y.magnitude ≠ x.magnitude) : |r - x.magnitude| < |r - y.magnitude| := by
  obtain ⟨low, high⟩ := covers.inside odd
  rcases lt_or_gt_of_ne other with lesser | greater
  · have mid := midpoint_le_lowEnd lesser
    refine lt_of_lt_of_le (abs_lt.2 ⟨?_, ?_⟩) (le_abs_self _) <;> linarith
  · have mid := highEnd_le_midpoint greater
    refine lt_of_lt_of_le (abs_lt.2 ⟨?_, ?_⟩) (neg_le_abs _) <;> linarith

def withSign (x : Binary64) (r : ℚ) : ℚ := if x.negative then -r else r

theorem abs_withSign (x : Binary64) (r : ℚ) : |x.withSign r| = |r| := by
  rw [withSign]
  split
  · exact abs_neg r
  · rfl

theorem withSign_sub (x : Binary64) (r s : ℚ) :
    x.withSign r - x.withSign s = x.withSign (r - s) := by
  unfold withSign
  split <;> ring

theorem withSign_add (x : Binary64) (r s : ℚ) :
    x.withSign r + x.withSign s = x.withSign (r + s) := by
  unfold withSign
  split <;> ring

/-- The number that a value stands for. -/
def toRat (x : Binary64) : ℚ := x.withSign x.magnitude

theorem abs_toRat (x : Binary64) : |x.toRat| = x.magnitude := by
  rw [toRat, abs_withSign, abs_of_nonneg x.magnitude_nonneg]

/-- A value that is as near to a number as any, with an even significand where another one is
as near. -/
structure Nearest (x : Binary64) (v : ℚ) : Prop where
  least : ∀ y : Binary64, |v - x.toRat| ≤ |v - y.toRat|
  even : ∀ y : Binary64, |v - y.toRat| = |v - x.toRat| → y.toRat ≠ x.toRat →
    x.significand % 2 = 0

theorem Covers.nearest (covers : x.Covers r) (nonneg : 0 ≤ r) : x.Nearest (x.withSign r) := by
  have here : |x.withSign r - x.toRat| = |r - x.magnitude| := by
    rw [toRat, withSign_sub, abs_withSign]
  have there (y : Binary64) : |r - y.magnitude| ≤ |x.withSign r - y.toRat| := by
    have reverse := abs_abs_sub_abs_le (x.withSign r) y.toRat
    rwa [abs_withSign, abs_of_nonneg nonneg, abs_toRat] at reverse
  refine ⟨fun y => ?_, fun y tie differ => ?_⟩
  · rw [here]
    exact (covers.distance_le y).trans (there y)
  · refine (Nat.mod_two_eq_zero_or_one _).resolve_right fun odd => ?_
    have near := there y
    rw [tie, here] at near
    have same : y.magnitude = x.magnitude := by
      by_contra other
      exact absurd (covers.distance_lt odd other) (not_lt.2 near)
    -- Only the value with the other sign is left, and that is farther away.
    have opposite : y.toRat = -x.toRat := by
      rw [← abs_toRat, ← abs_toRat, abs_eq_abs] at same
      exact same.resolve_left differ
    have nonzero : x.significand ≠ 0 := by
      rintro zero
      rw [zero] at odd
      exact absurd odd (by decide)
    have positive := covers.pos nonzero
    have size := magnitude_pos nonzero
    rw [opposite, sub_neg_eq_add, here, toRat, withSign_add, abs_withSign,
      abs_of_pos (by linarith)] at tie
    have strict : |r - x.magnitude| < r + x.magnitude := abs_lt.2 ⟨by linarith, by linarith⟩
    linarith

/-- Decimals have a nearest value just below the overflow, and are taken to it. -/
theorem ofDecimal?_nearest (negative : Bool) (digits : ℕ) (exponent : ℤ) :
    let size : ℚ := digits * 10 ^ exponent
    (size < overflow → ∃ x, ofDecimal? negative digits exponent = some x ∧
      x.Nearest (if negative then -size else size)) ∧
    (overflow ≤ size → ofDecimal? negative digits exponent = none) := by
  have den_pos := power_pos (by decide : 0 < 10) (-exponent)
  have ratio := ratio_unit (b := 10) (by decide) digits exponent
  have found := ofRatio?_isSome_iff negative (digits * power 10 exponent) den_pos
  rw [Nat.cast_ofNat] at ratio
  rw [ratio] at found
  refine ⟨fun low => ?_, fun high => ?_⟩
  · obtain ⟨x, read⟩ := Option.isSome_iff_exists.1 (found.2 low)
    obtain ⟨rfl, covers⟩ := covers_of_ofRatio? den_pos read
    rw [ratio] at covers
    exact ⟨x, read, covers.nearest (by positivity)⟩
  · exact Option.not_isSome_iff_eq_none.1 fun some => absurd (found.1 some) (not_lt.2 high)

end Binary64

def Numeral.value (n : Numeral) : ℚ :=
  let size : ℚ := match n.fraction with
    | none => valueOfDigits n.whole
    | some fraction => valueOfDigits (n.whole ++ fraction) / 10 ^ fraction.length
  if n.negative then -size else size

theorem Numeral.value_of_whole {n : Numeral} (whole : n.fraction = none) :
    n.value = n.wholeValue := by
  rw [value, whole, wholeValue, signed]
  split <;> simp

end InventoryQuery.Decimal

namespace InventoryQuery.Number

open Decimal

theorem ofNumeral?_decimal {n : Numeral} (point : n.fraction ≠ none) :
    (|n.value| < Binary64.overflow →
      ∃ x : Binary64, ofNumeral? n = some (.real x) ∧ x.Nearest n.value) ∧
    (Binary64.overflow ≤ |n.value| → ofNumeral? n = none) := by
  obtain ⟨fraction, point⟩ := Option.ne_none_iff_exists'.1 point
  have size : (valueOfDigits (n.whole ++ fraction) : ℚ) * 10 ^ (-(fraction.length : ℤ)) =
      valueOfDigits (n.whole ++ fraction) / 10 ^ fraction.length := by
    rw [zpow_neg, zpow_natCast, div_eq_mul_inv]
  obtain ⟨finite, infinite⟩ := Binary64.ofDecimal?_nearest n.negative
    (valueOfDigits (n.whole ++ fraction)) (-(fraction.length : ℤ))
  rw [size] at finite infinite
  have value : n.value = if n.negative then
      -((valueOfDigits (n.whole ++ fraction) : ℚ) / 10 ^ fraction.length)
      else (valueOfDigits (n.whole ++ fraction) : ℚ) / 10 ^ fraction.length := by
    rw [Numeral.value, point]
  have abs : |n.value| = (valueOfDigits (n.whole ++ fraction) : ℚ) / 10 ^ fraction.length := by
    rw [value]
    split
    · rw [abs_neg, abs_of_nonneg (by positivity)]
    · exact abs_of_nonneg (by positivity)
  simp only [ofNumeral?, point]
  rw [abs, value]
  refine ⟨fun low => ?_, fun high => by rw [infinite high, Option.map_none]⟩
  obtain ⟨x, read, nearest⟩ := finite low
  exact ⟨x, by rw [read, Option.map_some], nearest⟩

end InventoryQuery.Number
