import InventoryQuery.Proofs.Decimal.Rounding
import Mathlib.Algebra.Order.Floor.Semifield

/-! The shortest digits of a binary64 value lie in its interval. A grid with seventeen
digits is finer than the interval, so one of the two neighbours of the value is in it. -/
namespace InventoryQuery.Decimal

theorem decimalLength_eq {n : ℕ} (positive : 0 < n) : decimalLength n = Nat.log 10 n + 1 := by
  have length_le (k : ℕ) (some : 0 < k) :=
    Nat.length_toDigits_le_iff (b := 10) (n := n) (by decide) some
  have upper := (length_le (Nat.log 10 n + 1) (Nat.succ_pos _)).2
    (Nat.lt_pow_succ_log_self (by decide) n)
  have atLeast := Nat.length_toDigits_pos (b := 10) (n := n)
  rw [decimalLength]
  refine Nat.le_antisymm upper (Nat.le_of_not_lt fun short => ?_)
  have below := (length_le (Nat.toDigits 10 n).length atLeast).1 (Nat.le_refl _)
  have fits : 10 ^ (Nat.toDigits 10 n).length ≤ 10 ^ Nat.log 10 n :=
    Nat.pow_le_pow_right (by decide) (by omega)
  have := Nat.pow_log_le_self 10 positive.ne'
  omega

namespace Binary64

theorem decimalExponent_eq {num den : ℕ} (num_pos : 0 < num) (den_pos : 0 < den) :
    decimalExponent num den = Int.log 10 (num / den : ℚ) := by
  have positive : (0 : ℚ) < num / den :=
    div_pos (by exact_mod_cast num_pos) (by exact_mod_cast den_pos)
  obtain ⟨low, high⟩ := log_ratio (b := 10) (by decide) num_pos den_pos
  simp only [decimalExponent, decimalLength_eq num_pos, decimalLength_eq den_pos]
  have guess : ((Nat.log 10 num + 1 : ℕ) : ℤ) - ((Nat.log 10 den + 1 : ℕ) : ℤ) =
      Nat.log 10 num - Nat.log 10 den := by push_cast; ring
  rw [guess]
  generalize (Nat.log 10 num : ℤ) = n at *
  generalize (Nat.log 10 den : ℤ) = d at *
  have test := power_le_iff (b := 10) (by decide) num den_pos (n - d) 0
  rw [pow_zero, mul_one, Nat.cast_zero, add_zero, Int.zpow_le_iff_le_log (by decide) positive]
    at test
  split
  next reached => linarith [test.1 reached]
  next short =>
    have := mt test.2 short
    omega

def magnitude (x : Binary64) : ℚ := x.significand * 2 ^ x.exponent

theorem quarter (e : ℤ) : (2 : ℚ) ^ (e - 2) = 1 / 4 * 2 ^ e := by
  rw [zpow_sub₀ (by norm_num)]
  norm_num
  ring

theorem interval_value (x : Binary64) :
    (x.interval.value : ℚ) / x.interval.den = x.magnitude := by
  simp only [interval, ratio_unit (b := 2) (by decide), Nat.cast_ofNat, quarter, magnitude]
  push_cast
  ring

theorem interval_high (x : Binary64) :
    (x.interval.high : ℚ) / x.interval.den = x.highEnd := by
  simp only [interval, ratio_unit (b := 2) (by decide), Nat.cast_ofNat, quarter, highEnd]
  push_cast
  ring

theorem interval_low {x : Binary64} (nonzero : x.significand ≠ 0) :
    (x.interval.low : ℚ) / x.interval.den = x.lowEnd := by
  simp only [interval, ratio_unit (b := 2) (by decide), Nat.cast_ofNat, quarter, lowEnd]
  split
  · rw [Nat.cast_sub (by omega)]
    push_cast
    ring
  · rw [Nat.cast_sub (by omega)]
    push_cast
    ring

theorem interval_den_pos (x : Binary64) : 0 < x.interval.den := power_pos (by decide) _

theorem point_eq (count : ℕ) (place : ℤ) (den : ℕ) :
    ((count * power 10 place * den : ℕ) : ℚ) =
      count * 10 ^ place * den * power 10 (-place) := by
  push_cast
  rw [power_eq (by decide) place, Nat.cast_ofNat]
  ring

theorem le_point_iff {den : ℕ} (den_pos : 0 < den) (a count : ℕ) (place : ℤ) :
    a * power 10 (-place) ≤ count * power 10 place * den ↔
      (a : ℚ) / den ≤ count * 10 ^ place := by
  have denPos : (0 : ℚ) < den := by exact_mod_cast den_pos
  have scale : (0 : ℚ) < power 10 (-place) := by exact_mod_cast power_pos (by decide) (-place)
  rw [← Nat.cast_le (α := ℚ), point_eq, Nat.cast_mul, mul_le_mul_iff_left₀ scale,
    div_le_iff₀ denPos]

theorem point_le_iff {den : ℕ} (den_pos : 0 < den) (a count : ℕ) (place : ℤ) :
    count * power 10 place * den ≤ a * power 10 (-place) ↔
      (count * 10 ^ place : ℚ) ≤ a / den := by
  have denPos : (0 : ℚ) < den := by exact_mod_cast den_pos
  have scale : (0 : ℚ) < power 10 (-place) := by exact_mod_cast power_pos (by decide) (-place)
  rw [← Nat.cast_le (α := ℚ), point_eq, Nat.cast_mul, mul_le_mul_iff_left₀ scale,
    le_div_iff₀ denPos]

theorem holds_iff {x : Binary64} (nonzero : x.significand ≠ 0) (count : ℕ) (place : ℤ) :
    x.interval.holds count place = true ↔ x.Covers (count * 10 ^ place) := by
  have low := le_point_iff x.interval_den_pos x.interval.low count place
  have high := point_le_iff x.interval_den_pos x.interval.high count place
  have belowLow := point_le_iff x.interval_den_pos x.interval.low count place
  have aboveHigh := le_point_iff x.interval_den_pos x.interval.high count place
  rw [interval_low nonzero] at low belowLow
  rw [interval_high] at high aboveHigh
  have closed : x.interval.closed = decide (x.significand % 2 = 0) := rfl
  rw [Interval.holds, closed]
  split
  next even =>
    simp only [decide_eq_true_eq] at even
    simp only [Bool.and_eq_true, decide_eq_true_eq, low, high]
    exact ⟨fun ends => ⟨ends.1, ends.2, by omega⟩, fun covers => ⟨covers.low, covers.high⟩⟩
  next odd =>
    simp only [decide_eq_true_eq] at odd
    simp only [Bool.and_eq_true, decide_eq_true_eq, ← not_le, belowLow, aboveHigh]
    simp only [not_le]
    exact ⟨fun ends => ⟨ends.1.le, ends.2.le, fun _ => ends⟩,
      fun covers => covers.inside (by omega)⟩

theorem roundDiv_near (num den : ℕ) :
    roundDiv num den = num / den ∨ roundDiv num den = num / den + 1 := by
  unfold roundDiv
  dsimp only
  split_ifs <;> omega

theorem holds_of_onGrid? {i : Interval} {place : ℤ} {count : ℕ}
    (hit : i.onGrid? place = some count) : i.holds count place = true := by
  unfold Interval.onGrid? at hit
  dsimp only at hit
  split at hit
  next down up =>
    obtain rfl := Option.some.inj hit
    rcases roundDiv_near (i.over place).1 (i.over place).2 with same | same <;> rwa [same]
  next down up => rwa [← Option.some.inj hit]
  next down up => rwa [← Option.some.inj hit]
  · simp at hit

theorem onGrid?_isSome {i : Interval} {place : ℤ}
    (near : i.holds ((i.over place).1 / (i.over place).2) place = true ∨
      i.holds ((i.over place).1 / (i.over place).2 + 1) place = true) :
    (i.onGrid? place).isSome = true := by
  unfold Interval.onGrid?
  dsimp only
  rcases near with near | near <;> rw [near] <;> split <;> simp_all

theorem over_div (x : Binary64) (place : ℤ) :
    (x.interval.over place).1 / (x.interval.over place).2 = ⌊x.magnitude / 10 ^ place⌋₊ := by
  have ratio := scaled_ratio (b := 10) (by decide) x.interval.value x.interval.den place
  rw [interval_value, Nat.cast_ofNat] at ratio
  rw [← ratio, Nat.floor_div_eq_div]
  rfl

theorem magnitude_pos {x : Binary64} (nonzero : x.significand ≠ 0) : 0 < x.magnitude :=
  mul_pos (by linarith [one_le_significand nonzero]) (by positivity)

theorem lowEnd_lt_magnitude (x : Binary64) : x.lowEnd < x.magnitude := by
  refine mul_lt_mul_of_pos_right ?_ (by positivity)
  split <;> linarith

theorem magnitude_lt_highEnd (x : Binary64) : x.magnitude < x.highEnd :=
  mul_lt_mul_of_pos_right (by linarith) (by positivity)

theorem grid_lt_width (x : Binary64) : x.magnitude / 10 ^ 16 < x.highEnd - x.lowEnd := by
  have unit : (0 : ℚ) < 2 ^ x.exponent := by positivity
  have fits : (x.significand : ℚ) + 1 ≤ 2 ^ 53 := by exact_mod_cast x.significand_lt
  rw [magnitude, highEnd, lowEnd, ← sub_mul, div_eq_mul_inv, mul_right_comm]
  refine mul_lt_mul_of_pos_right ?_ unit
  split
  next boundary =>
    rw [boundary.1]
    norm_num [leastNormal]
  · norm_num at fits ⊢
    linarith

def firstPlace (x : Binary64) : ℤ := decimalExponent x.interval.value x.interval.den

theorem grid_le_magnitude {x : Binary64} (nonzero : x.significand ≠ 0) :
    (10 : ℚ) ^ (x.firstPlace - 16) ≤ x.magnitude / 10 ^ 16 := by
  have value_pos : 0 < x.interval.value :=
    Nat.mul_pos (by omega) (power_pos (by decide) _)
  have low := Int.zpow_log_le_self (b := 10) (by decide) (magnitude_pos nonzero)
  rw [firstPlace, decimalExponent_eq value_pos x.interval_den_pos, interval_value,
    le_div_iff₀ (by positivity), zpow_sub₀ (by norm_num)]
  simpa using low

theorem onGrid?_seventeen {x : Binary64} (nonzero : x.significand ≠ 0) :
    (x.interval.onGrid? (x.firstPlace - 16)).isSome = true := by
  have unit : (0 : ℚ) < 10 ^ (x.firstPlace - 16) := by positivity
  have narrow := lt_of_le_of_lt (grid_le_magnitude nonzero) x.grid_lt_width
  have ratio_pos := div_pos (magnitude_pos nonzero) unit
  have down := (le_div_iff₀ unit).1 (Nat.floor_le ratio_pos.le)
  have up := (div_lt_iff₀ unit).1 (Nat.lt_floor_add_one (x.magnitude / 10 ^ (x.firstPlace - 16)))
  have below := x.magnitude_lt_highEnd
  have above := x.lowEnd_lt_magnitude
  refine onGrid?_isSome ?_
  rw [over_div, holds_iff nonzero, holds_iff nonzero]
  generalize (10 : ℚ) ^ (x.firstPlace - 16) = g at *
  push_cast
  rw [add_mul, one_mul] at up ⊢
  -- When the lower neighbour is outside, one step of the grid does not leave the interval.
  rcases lt_or_ge x.lowEnd (⌊x.magnitude / g⌋₊ * g) with inside | outside
  · exact .inl ⟨inside.le, by linarith, fun _ => ⟨inside, by linarith⟩⟩
  · exact .inr ⟨by linarith, by linarith, fun _ => ⟨by linarith, by linarith⟩⟩

/-- The shortest digits are those of a decimal in the interval. -/
theorem exists_covered_count {x : Binary64} (nonzero : x.significand ≠ 0) :
    ∃ count place, x.shortest = Digits.ofCount count place ∧ x.Covers (count * 10 ^ place) := by
  let grid (n : ℕ) : Option Digits :=
    (x.interval.onGrid? (x.firstPlace - n)).map (Digits.ofCount · (x.firstPlace - n))
  have last : (grid 16).isSome = true := by
    simpa [grid] using onGrid?_seventeen nonzero
  obtain ⟨d, found⟩ : ∃ d, (List.range 17).findSome? grid = some d := by
    rw [← Option.isSome_iff_exists, List.findSome?_isSome_iff]
    exact ⟨16, by simp, last⟩
  have short : x.shortest = d := by
    have same : x.shortest = ((List.range 17).findSome? grid).getD _ := rfl
    rw [same, found, Option.getD_some]
  obtain ⟨n, -, hit⟩ := List.exists_of_findSome?_eq_some found
  obtain ⟨count, point, rfl⟩ := Option.map_eq_some_iff.1 hit
  exact ⟨count, _, short, (holds_iff nonzero _ _).1 (holds_of_onGrid? point)⟩

end Binary64

end InventoryQuery.Decimal
