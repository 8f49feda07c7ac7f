import InventoryQuery.Decimal.Shortest
import Mathlib.Algebra.Order.Field.Power
import Mathlib.Data.Int.Log
import Mathlib.Data.Rat.Floor
import Mathlib.Tactic.FieldSimp
import Mathlib.Tactic.Linarith
import Mathlib.Tactic.Positivity

/-! Rounding a ratio to the nearest binary64 value. A ratio in the interval of a value
is taken to that value: the interval is what the tie rule leaves on both sides. -/
namespace InventoryQuery.Decimal

theorem power_eq {b : ℕ} (positive : 0 < b) (e : ℤ) :
    (power b e : ℚ) = (b : ℚ) ^ e * power b (-e) := by
  have nonzero : (b : ℚ) ≠ 0 := by exact_mod_cast positive.ne'
  have split : ((b : ℚ) ^ e.toNat) = (b : ℚ) ^ e * (b : ℚ) ^ (-e).toNat := by
    rw [← zpow_natCast, ← zpow_natCast, ← zpow_add₀ nonzero]
    congr 1
    omega
  simpa [power] using split

theorem scaled_ratio {b : ℕ} (positive : 0 < b) (num den : ℕ) (e : ℤ) :
    ((num * power b (-e) : ℕ) : ℚ) / ((den * power b e : ℕ) : ℚ) =
      (num / den : ℚ) / (b : ℚ) ^ e := by
  have other : (power b (-e) : ℚ) ≠ 0 := by exact_mod_cast (power_pos positive (-e)).ne'
  have nonzero : (b : ℚ) ≠ 0 := by exact_mod_cast positive.ne'
  push_cast
  rw [power_eq positive e, ← mul_assoc, mul_div_mul_right _ _ other, div_mul_eq_div_div]

theorem ratio_unit {b : ℕ} (positive : 0 < b) (a : ℕ) (e : ℤ) :
    ((a * power b e : ℕ) : ℚ) / (power b (-e) : ℕ) = a * (b : ℚ) ^ e := by
  have other : (power b (-e) : ℚ) ≠ 0 := by exact_mod_cast (power_pos positive (-e)).ne'
  push_cast
  rw [power_eq positive e, ← mul_assoc, mul_div_cancel_right₀ _ other]

theorem le_ratio_iff {num den : ℕ} (positive : 0 < den) (a : ℕ) :
    den * a ≤ num ↔ (a : ℚ) ≤ num / den := by
  have positive' : (0 : ℚ) < den := by exact_mod_cast positive
  rw [le_div_iff₀ positive', mul_comm]
  exact_mod_cast Iff.rfl

theorem power_le_iff {b : ℕ} (positive : 0 < b) (num : ℕ) {den : ℕ} (den_pos : 0 < den)
    (e : ℤ) (k : ℕ) : den * power b e * b ^ k ≤ num * power b (-e) ↔
      (b : ℚ) ^ (e + k) ≤ num / den := by
  have basePos : (0 : ℚ) < b := by exact_mod_cast positive
  have unit : (0 : ℚ) < (b : ℚ) ^ e := zpow_pos basePos e
  rw [le_ratio_iff (Nat.mul_pos den_pos (power_pos positive e)), scaled_ratio positive,
    le_div_iff₀ unit, zpow_add₀ basePos.ne', zpow_natCast, mul_comm, Nat.cast_pow]

theorem log_ratio {b : ℕ} (large : 1 < b) {num den : ℕ} (num_pos : 0 < num)
    (den_pos : 0 < den) :
    (Nat.log b num : ℤ) - Nat.log b den - 1 ≤ Int.log b (num / den : ℚ) ∧
      Int.log b (num / den : ℚ) ≤ (Nat.log b num : ℤ) - Nat.log b den := by
  have numPos : (0 : ℚ) < num := by exact_mod_cast num_pos
  have denPos : (0 : ℚ) < den := by exact_mod_cast den_pos
  have nonzero : (b : ℚ) ≠ 0 := by exact_mod_cast (by omega : b ≠ 0)
  have basePos : (0 : ℚ) < b := by exact_mod_cast (by omega : 0 < b)
  have numLow : (b : ℚ) ^ (Nat.log b num : ℤ) ≤ num := by
    exact_mod_cast Nat.pow_log_le_self b num_pos.ne'
  have numHigh : (num : ℚ) < (b : ℚ) ^ ((Nat.log b num : ℤ) + 1) := by
    exact_mod_cast Nat.lt_pow_succ_log_self large num
  have denLow : (b : ℚ) ^ (Nat.log b den : ℤ) ≤ den := by
    exact_mod_cast Nat.pow_log_le_self b den_pos.ne'
  have denHigh : (den : ℚ) < (b : ℚ) ^ ((Nat.log b den : ℤ) + 1) := by
    exact_mod_cast Nat.lt_pow_succ_log_self large den
  generalize (Nat.log b num : ℤ) = n at *
  generalize (Nat.log b den : ℤ) = d at *
  constructor
  · rw [← Int.zpow_le_iff_le_log large (div_pos numPos denPos), le_div_iff₀ denPos]
    calc (b : ℚ) ^ (n - d - 1) * den
        ≤ (b : ℚ) ^ (n - d - 1) * (b : ℚ) ^ (d + 1) := by gcongr
      _ = (b : ℚ) ^ n := by rw [← zpow_add₀ nonzero]; congr 1; ring
      _ ≤ num := numLow
  · rw [← Int.lt_add_one_iff, ← Int.lt_zpow_iff_log_lt large (div_pos numPos denPos),
      div_lt_iff₀ denPos]
    calc (num : ℚ) < (b : ℚ) ^ (n + 1) := numHigh
      _ = (b : ℚ) ^ (n - d + 1) * (b : ℚ) ^ d := by rw [← zpow_add₀ nonzero]; congr 1; ring
      _ ≤ (b : ℚ) ^ (n - d + 1) * den := by gcongr

theorem roundDiv_eq_of_nat {num den m : ℕ} (positive : 0 < den)
    (low : 2 * (m * den) ≤ 2 * num + den) (high : 2 * num ≤ 2 * (m * den) + den)
    (inside : m % 2 = 1 → 2 * (m * den) < 2 * num + den ∧ 2 * num < 2 * (m * den) + den) :
    roundDiv num den = m := by
  have split : num = num / den * den + num % den := by
    rw [mul_comm]; exact (Nat.div_add_mod num den).symm
  have small := Nat.mod_lt num positive
  have near : m = num / den ∨ m = num / den + 1 := by
    rcases Nat.lt_trichotomy m (num / den) with less | same | more
    · have room : (m + 1) * den ≤ num / den * den := Nat.mul_le_mul_right den less
      rw [add_mul, one_mul] at room
      omega
    · exact .inl same
    · refine .inr (Nat.le_antisymm (Nat.le_of_not_lt fun far => ?_) more)
      have room : (num / den + 2) * den ≤ m * den := Nat.mul_le_mul_right den far
      rw [add_mul] at room
      omega
  unfold roundDiv
  dsimp only
  generalize num / den = q at *
  generalize num % den = r at *
  rcases near with rfl | rfl
  · generalize m * den = a at *
    split_ifs <;> omega
  · rw [add_mul, one_mul] at low high inside
    generalize q * den = a at *
    split_ifs <;> omega

theorem roundDiv_eq {num den m : ℕ} (positive : 0 < den)
    (low : (m : ℚ) - 1 / 2 ≤ num / den) (high : (num / den : ℚ) ≤ m + 1 / 2)
    (inside : m % 2 = 1 → (m : ℚ) - 1 / 2 < num / den ∧ (num / den : ℚ) < m + 1 / 2) :
    roundDiv num den = m := by
  have denPos : (0 : ℚ) < den := by exact_mod_cast positive
  have nat_le (a b : ℕ) : a ≤ b ↔ (a : ℚ) ≤ b := Nat.cast_le.symm
  have nat_lt (a b : ℕ) : a < b ↔ (a : ℚ) < b := Nat.cast_lt.symm
  rw [le_div_iff₀ denPos] at low
  rw [div_le_iff₀ denPos] at high
  rw [lt_div_iff₀ denPos, div_lt_iff₀ denPos] at inside
  refine roundDiv_eq_of_nat positive ?_ ?_ fun odd => ⟨?_, ?_⟩
  · rw [nat_le]; push_cast; linarith
  · rw [nat_le]; push_cast; linarith
  · rw [nat_lt]; push_cast; linarith [(inside odd).1]
  · rw [nat_lt]; push_cast; linarith [(inside odd).2]

/-- A number that is nearest to a multiple of a power of two, a tie going to the even one. -/
structure Rounded (r : ℚ) (m : ℕ) (e : ℤ) : Prop where
  low : ((m : ℚ) - 1 / 2) * 2 ^ e ≤ r
  high : r ≤ (m + 1 / 2) * 2 ^ e
  inside : m % 2 = 1 → ((m : ℚ) - 1 / 2) * 2 ^ e < r ∧ r < (m + 1 / 2) * 2 ^ e

theorem roundDiv_of_rounded {num den m : ℕ} (den_pos : 0 < den) {e : ℤ}
    (rounded : Rounded (num / den) m e) :
    roundDiv (num * power 2 (-e)) (den * power 2 e) = m := by
  have unit : (0 : ℚ) < 2 ^ e := by positivity
  have ratio := scaled_ratio (b := 2) (by decide) num den e
  rw [Nat.cast_ofNat] at ratio
  refine roundDiv_eq (Nat.mul_pos den_pos (power_pos (by decide) e)) ?_ ?_ fun odd => ⟨?_, ?_⟩
  · rw [ratio, le_div_iff₀ unit]
    exact rounded.low
  · rw [ratio, div_le_iff₀ unit]
    exact rounded.high
  · rw [ratio, lt_div_iff₀ unit]
    exact (rounded.inside odd).1
  · rw [ratio, div_lt_iff₀ unit]
    exact (rounded.inside odd).2

namespace Binary64

theorem exponentOf_eq {num den : ℕ} (num_pos : 0 < num) (den_pos : 0 < den) :
    exponentOf num den = max (-1074) (Int.log 2 (num / den : ℚ) - 52) := by
  have positive : (0 : ℚ) < num / den :=
    div_pos (by exact_mod_cast num_pos) (by exact_mod_cast den_pos)
  obtain ⟨low, high⟩ := log_ratio (b := 2) (by decide) num_pos den_pos
  have bound : significandBound = 2 ^ 53 := by decide
  simp only [exponentOf, scaled, Nat.log2_eq_log_two, bound]
  generalize (Nat.log 2 num : ℤ) = n at *
  generalize (Nat.log 2 den : ℤ) = d at *
  have test := power_le_iff (b := 2) (by decide) num den_pos (n - d - 53) 53
  have sum : n - d - 53 + ((53 : ℕ) : ℤ) = n - d := by push_cast; ring
  rw [sum, Int.zpow_le_iff_le_log (by decide) positive] at test
  congr 1
  split
  next reached => linarith [test.1 reached]
  next short =>
    have := mt test.2 short
    omega

theorem one_le_significand {x : Binary64} (nonzero : x.significand ≠ 0) :
    (1 : ℚ) ≤ x.significand := by
  exact_mod_cast Nat.one_le_iff_ne_zero.2 nonzero

def lowEnd (x : Binary64) : ℚ :=
  (x.significand - if x.significand = leastNormal ∧ x.exponent ≠ -1074 then 1 / 4 else 1 / 2) *
    2 ^ x.exponent

def highEnd (x : Binary64) : ℚ := (x.significand + 1 / 2) * 2 ^ x.exponent

theorem half_le_lowEnd (x : Binary64) :
    ((x.significand : ℚ) - 1 / 2) * 2 ^ x.exponent ≤ x.lowEnd := by
  refine mul_le_mul_of_nonneg_right ?_ (by positivity)
  split <;> linarith

/-- A number in the interval of a value; the ends belong to an even significand. -/
structure Covers (x : Binary64) (r : ℚ) : Prop where
  low : x.lowEnd ≤ r
  high : r ≤ x.highEnd
  inside : x.significand % 2 = 1 → x.lowEnd < r ∧ r < x.highEnd

theorem ofParts?_self (x : Binary64) :
    ofParts? x.negative x.significand x.exponent = some x := by
  rw [ofParts?, dif_pos ⟨x.significand_lt, x.exponent_ge, x.exponent_le, x.normal⟩]

theorem log_eq_of_bounds {r : ℚ} {k : ℤ} (low : (2 : ℚ) ^ k ≤ r) (high : r < 2 ^ (k + 1)) :
    Int.log 2 r = k := by
  have positive : 0 < r := lt_of_lt_of_le (by positivity) low
  have lower := (Int.zpow_le_iff_le_log (b := 2) (by decide) positive).1 (by exact_mod_cast low)
  have upper := (Int.lt_zpow_iff_log_lt (b := 2) (by decide) positive).1 (by exact_mod_cast high)
  omega

namespace Covers

variable {x : Binary64} {r : ℚ}

theorem half_le (covers : x.Covers r) : ((x.significand : ℚ) - 1 / 2) * 2 ^ x.exponent ≤ r :=
  x.half_le_lowEnd.trans covers.low

theorem half_lt (covers : x.Covers r) (odd : x.significand % 2 = 1) :
    ((x.significand : ℚ) - 1 / 2) * 2 ^ x.exponent < r :=
  lt_of_le_of_lt x.half_le_lowEnd (covers.inside odd).1

theorem rounded (covers : x.Covers r) : Rounded r x.significand x.exponent :=
  ⟨covers.half_le, covers.high, fun odd => ⟨covers.half_lt odd, (covers.inside odd).2⟩⟩

theorem pos (covers : x.Covers r) (nonzero : x.significand ≠ 0) : 0 < r := by
  have one_le := one_le_significand nonzero
  exact lt_of_lt_of_le (mul_pos (by linarith) (by positivity)) covers.half_le

theorem lt_bound (covers : x.Covers r) : r < 2 ^ (x.exponent + 53) := by
  have fits : (x.significand : ℚ) + 1 ≤ 2 ^ 53 := by exact_mod_cast x.significand_lt
  calc r ≤ (x.significand + 1 / 2) * 2 ^ x.exponent := covers.high
    _ < 2 ^ 53 * 2 ^ x.exponent := by gcongr; linarith
    _ = 2 ^ (x.exponent + 53) := by rw [zpow_add₀ (by norm_num)]; ring

theorem exponentOf_eq_exponent {num den : ℕ} (num_pos : 0 < num) (den_pos : 0 < den)
    (covers : x.Covers (num / den))
    (reached : x.exponent = -1074 ∨ (2 : ℚ) ^ (x.exponent + 52) ≤ num / den) :
    exponentOf num den = x.exponent := by
  have positive : (0 : ℚ) < num / den :=
    div_pos (by exact_mod_cast num_pos) (by exact_mod_cast den_pos)
  have upper := (Int.lt_zpow_iff_log_lt (b := 2) (by decide) positive).1
    (by exact_mod_cast covers.lt_bound)
  rw [exponentOf_eq num_pos den_pos]
  have least := x.exponent_ge
  rcases reached with subnormal | reached
  · omega
  · have lower := (Int.zpow_le_iff_le_log (b := 2) (by decide) positive).1
      (by exact_mod_cast reached)
    omega

theorem significand_of_short (covers : x.Covers r) (notLeast : x.exponent ≠ -1074)
    (short : r < 2 ^ (x.exponent + 52)) : x.significand = leastNormal := by
  have normal : leastNormal ≤ x.significand := x.normal.resolve_right notLeast
  refine Nat.le_antisymm (Nat.le_of_not_lt fun more => ?_) normal
  -- A greater significand begins at least half a bit above the power of two.
  have many : (leastNormal : ℚ) + 1 ≤ x.significand := by exact_mod_cast more
  have unit : (0 : ℚ) < 2 ^ x.exponent := by positivity
  have room : ((leastNormal : ℚ) + 1 - 1 / 2) * 2 ^ x.exponent ≤ r :=
    le_trans (mul_le_mul_of_nonneg_right (by linarith) unit.le) covers.half_le
  rw [zpow_add₀ (by norm_num)] at short
  norm_num [leastNormal] at room short
  linarith

theorem quarter_le (covers : x.Covers r) (notLeast : x.exponent ≠ -1074)
    (least : x.significand = leastNormal) :
    ((leastNormal : ℚ) - 1 / 4) * 2 ^ x.exponent ≤ r := by
  have low := covers.low
  rwa [lowEnd, if_pos ⟨least, notLeast⟩, least] at low

end Covers

theorem ofRatio?_of_short {x : Binary64} {num den : ℕ} (num_pos : 0 < num) (den_pos : 0 < den)
    (covers : x.Covers (num / den)) (notLeast : x.exponent ≠ -1074)
    (short : (num / den : ℚ) < 2 ^ (x.exponent + 52)) :
    ofRatio? x.negative num den = some x := by
  have same := covers.significand_of_short notLeast short
  have low := covers.quarter_le notLeast same
  have least := x.exponent_ge
  have unit : (0 : ℚ) < 2 ^ x.exponent := by positivity
  have powers (k : ℤ) : (2 : ℚ) ^ (x.exponent + k) = 2 ^ k * 2 ^ x.exponent := by
    rw [zpow_add₀ (by norm_num), mul_comm]
  have half : (2 : ℚ) ^ (x.exponent - 1) = 1 / 2 * 2 ^ x.exponent := by
    rw [sub_eq_add_neg, powers]
    norm_num
  have below : exponentOf num den = x.exponent - 1 := by
    rw [exponentOf_eq num_pos den_pos, log_eq_of_bounds (k := x.exponent + 51)]
    · omega
    · rw [powers]
      norm_num [leastNormal] at low ⊢
      linarith
    · rwa [add_assoc]
  rw [powers] at short
  norm_num [leastNormal] at low short
  -- Right below a power of two the bits are half as wide, and rounding up reaches it.
  have rounds : roundDiv (num * power 2 (-(x.exponent - 1))) (den * power 2 (x.exponent - 1)) =
      significandBound := by
    refine roundDiv_of_rounded den_pos ⟨?_, ?_, fun odd => absurd odd (by decide)⟩
    · rw [half]
      norm_num [significandBound]
      linarith
    · rw [half]
      norm_num [significandBound]
      linarith
  rw [ofRatio?, if_neg num_pos.ne']
  simp only [below, scaled, rounds, if_true]
  rw [sub_add_cancel, ← same, ofParts?_self]

/-- A ratio in the interval of a value is taken to that value. -/
theorem ofRatio?_of_covers {x : Binary64} {num den : ℕ} (nonzero : x.significand ≠ 0)
    (den_pos : 0 < den) (covers : x.Covers (num / den)) :
    ofRatio? x.negative num den = some x := by
  have num_ne : num ≠ 0 := by
    rintro rfl
    simpa using covers.pos nonzero
  have num_pos := Nat.pos_of_ne_zero num_ne
  -- The exponent is that of the value, unless the ratio lies below its power of two.
  by_cases reached : x.exponent = -1074 ∨ (2 : ℚ) ^ (x.exponent + 52) ≤ num / den
  · have rounds := roundDiv_of_rounded den_pos covers.rounded
    rw [ofRatio?, if_neg num_ne]
    simp only [covers.exponentOf_eq_exponent num_pos den_pos reached, scaled, rounds]
    rw [if_neg (ne_of_lt x.significand_lt), ofParts?_self]
  · rw [not_or, not_le] at reached
    exact ofRatio?_of_short num_pos den_pos covers reached.1 reached.2

end Binary64

end InventoryQuery.Decimal
