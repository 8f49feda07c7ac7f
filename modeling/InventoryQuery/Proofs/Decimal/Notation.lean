import InventoryQuery.Proofs.Decimal.NumberText
import InventoryQuery.Proofs.Decimal.Shortest

/-! Reading the text of a binary64 value. The positional notation is a numeral and reads
back as the same value; the scientific notation is no numeral. -/
namespace InventoryQuery.Decimal

theorem valueOfDigits_append (cs ds : List Char) :
    valueOfDigits (cs ++ ds) = valueOfDigits cs * 10 ^ ds.length + valueOfDigits ds := by
  induction ds using List.reverseRecOn with
  | nil => simp [valueOfDigits]
  | append_singleton ds d ih =>
    rw [← List.append_assoc, valueOfDigits_append_singleton, valueOfDigits_append_singleton, ih,
      List.length_append, List.length_singleton, pow_succ]
    ring

namespace Digits

theorem isDigit_zeros {n : ℕ} {c : Char} (member : c ∈ zeros n) : isDigit c = true := by
  obtain rfl := List.eq_of_mem_replicate member
  rfl

theorem valueOfDigits_zeros (n : ℕ) : valueOfDigits (zeros n) = 0 := by
  induction n with
  | zero => rfl
  | succ n ih =>
    rw [zeros, List.replicate_succ', valueOfDigits_append_singleton]
    rw [zeros] at ih
    rw [ih]
    rfl

theorem length_zeros (n : ℕ) : (zeros n).length = n := List.length_replicate

theorem exists_zeros (count : ℕ) (place : ℤ) :
    ∃ n, Nat.toDigits 10 count = (ofCount count place).digits ++ zeros n := by
  refine ⟨((Nat.toDigits 10 count).reverse.takeWhile (· = '0')).length, ?_⟩
  have same : (Nat.toDigits 10 count).reverse.takeWhile (· = '0') =
      zeros ((Nat.toDigits 10 count).reverse.takeWhile (· = '0')).length :=
    List.eq_replicate_iff.2 ⟨rfl, fun c member => by simpa using List.mem_takeWhile_imp member⟩
  have split := List.takeWhile_append_dropWhile (p := (· = '0'))
    (l := (Nat.toDigits 10 count).reverse)
  have parts := congrArg List.reverse split
  rw [List.reverse_append, List.reverse_reverse, same, zeros, List.reverse_replicate] at parts
  exact parts.symm

theorem isDigits_ofCount {count : ℕ} (nonzero : count ≠ 0) (place : ℤ) :
    isDigits (ofCount count place).digits = true := by
  refine isDigits_iff.2 ⟨fun empty => nonzero ?_, fun c member =>
    isDigit_of_mem_toDigits ((sublist_ofCount count place).subset member)⟩
  obtain ⟨n, split⟩ := exists_zeros count place
  rw [← valueOfDigits_toDigits count, split, empty, List.nil_append, valueOfDigits_zeros]

theorem ofCount_value (count : ℕ) (place : ℤ) :
    let d := ofCount count place
    (valueOfDigits d.digits : ℚ) * 10 ^ (d.exponent + 1 - d.digits.length) =
      count * 10 ^ place := by
  intro d
  obtain ⟨n, split⟩ := exists_zeros count place
  have length : (Nat.toDigits 10 count).length = d.digits.length + n := by
    rw [split, List.length_append, length_zeros]
  have exponent : d.exponent + 1 - d.digits.length = n + place := by
    have same : d.exponent = place + (Nat.toDigits 10 count).length - 1 := rfl
    rw [same, length]
    push_cast
    ring
  have value : count = valueOfDigits d.digits * 10 ^ n := by
    conv_lhs => rw [← valueOfDigits_toDigits count, split]
    rw [valueOfDigits_append, valueOfDigits_zeros, length_zeros, add_zero]
  rw [exponent, zpow_add₀ (by norm_num), zpow_natCast, value]
  push_cast
  ring

theorem valueOfDigits_small (n : ℕ) (cs : List Char) :
    valueOfDigits (['0'] ++ (zeros n ++ cs)) = valueOfDigits cs := by
  rw [valueOfDigits_append, valueOfDigits_append, valueOfDigits_zeros, zero_mul, zero_add,
    show valueOfDigits ['0'] = 0 from rfl, zero_mul, zero_add]

theorem valueOfDigits_large (n : ℕ) (cs : List Char) :
    valueOfDigits (cs ++ zeros n ++ ['0']) = valueOfDigits cs * 10 ^ n * 10 := by
  rw [valueOfDigits_append, valueOfDigits_append, valueOfDigits_zeros, length_zeros,
    show valueOfDigits ['0'] = 0 from rfl]
  rfl

theorem exists_point {d : Digits} (digits : isDigits d.digits = true) :
    ∃ whole fraction, d.positional = whole ++ '.' :: fraction ∧ isDigits whole = true ∧
      isDigits fraction = true ∧
      (valueOfDigits (whole ++ fraction) : ℚ) * 10 ^ (-(fraction.length : ℤ)) =
        valueOfDigits d.digits * 10 ^ (d.exponent + 1 - d.digits.length) := by
  obtain ⟨nonempty, each⟩ := isDigits_iff.1 digits
  rw [positional]
  -- The point stands before all the digits, behind them, or between two of them.
  split
  next small =>
    refine ⟨['0'], zeros ((-d.exponent).toNat - 1) ++ d.digits, rfl, rfl, ?_, ?_⟩
    · refine isDigits_iff.2 ⟨by simp [nonempty], fun c member => ?_⟩
      rcases List.mem_append.1 member with member | member
      · exact isDigit_zeros member
      · exact each c member
    · rw [valueOfDigits_small, List.length_append, length_zeros]
      congr 2
      push_cast
      omega
  next large =>
    dsimp only
    split
    next fits =>
      refine ⟨d.digits ++ zeros (d.exponent.toNat + 1 - d.digits.length), ['0'], rfl,
        isDigits_append digits (fun _ => isDigit_zeros), rfl, ?_⟩
      have place : d.exponent + 1 - d.digits.length =
          ((d.exponent.toNat + 1 - d.digits.length : ℕ) : ℤ) := by omega
      rw [valueOfDigits_large, place, zpow_natCast]
      push_cast
      norm_num
      ring
    next longer =>
      refine ⟨d.digits.take (d.exponent.toNat + 1), d.digits.drop (d.exponent.toNat + 1), rfl,
        ?_, ?_, ?_⟩
      · exact isDigits_iff.2 ⟨by simp [nonempty], fun c member =>
          each c (List.mem_of_mem_take member)⟩
      · exact isDigits_iff.2 ⟨by simp; omega, fun c member =>
          each c (List.mem_of_mem_drop member)⟩
      · rw [List.take_append_drop, List.length_drop]
        congr 2
        omega

end Digits

namespace Binary64

theorem ofDecimal?_of_covers {x : Binary64} (nonzero : x.significand ≠ 0) {digits : ℕ} {e : ℤ}
    (covers : x.Covers (digits * 10 ^ e)) : ofDecimal? x.negative digits e = some x := by
  refine ofRatio?_of_covers nonzero (power_pos (by decide) _) ?_
  rwa [ratio_unit (by decide), Nat.cast_ofNat]

theorem exponent_of_zero {x : Binary64} (zero : x.significand = 0) : x.exponent = -1074 := by
  refine x.normal.resolve_left fun normal => ?_
  rw [zero] at normal
  exact absurd normal (by decide)

theorem ofDecimal?_zero {x : Binary64} (zero : x.significand = 0) (e : ℤ) :
    ofDecimal? x.negative 0 e = some x := by
  rw [ofDecimal?, ofRatio?, zero_mul, if_pos rfl, ← exponent_of_zero zero]
  conv_lhs => rw [← zero]
  exact ofParts?_self x

theorem isDigits_shortest {x : Binary64} (nonzero : x.significand ≠ 0) :
    isDigits x.shortest.digits = true := by
  obtain ⟨count, place, short, covers⟩ := exists_covered_count nonzero
  have count_ne : count ≠ 0 := by
    rintro rfl
    simpa using covers.pos nonzero
  rw [short]
  exact Digits.isDigits_ofCount count_ne place

def isPositional (x : Binary64) : Bool :=
  x.significand = 0 ||
    (positionalFrom ≤ x.shortest.exponent && x.shortest.exponent < positionalBelow)

theorem exists_numeral {x : Binary64} (positional : x.isPositional = true) :
    ∃ whole fraction, Numeral.ofText? x.text = some ⟨x.negative, whole, some fraction⟩ ∧
      ofDecimal? x.negative (valueOfDigits (whole ++ fraction)) (-(fraction.length : ℤ)) =
        some x := by
  have read {whole fraction : List Char} (digits : isDigits whole = true)
      (more : isDigits fraction = true) :
      Numeral.ofText? (if x.negative then '-' :: (whole ++ '.' :: fraction)
        else whole ++ '.' :: fraction) = some ⟨x.negative, whole, some fraction⟩ := by
    rw [Numeral.ofText?_signed, Numeral.unsigned?_fraction _ digits more]
    rw [List.head?_append_of_ne_nil _ (isDigits_iff.1 digits).1]
    exact head?_of_isDigits digits
  by_cases zero : x.significand = 0
  · have digits : isDigits ['0'] = true := rfl
    refine ⟨['0'], ['0'], ?_, ofDecimal?_zero zero _⟩
    rw [text, if_pos zero]
    exact read digits digits
  · have notation_ : x.shortest.text = x.shortest.positional := by
      rw [Digits.text, if_pos (by simpa [isPositional, zero] using positional)]
    obtain ⟨count, place, short, covers⟩ := exists_covered_count zero
    obtain ⟨whole, fraction, point, wholeDigits, fractionDigits, value⟩ :=
      Digits.exists_point (isDigits_shortest zero)
    refine ⟨whole, fraction, ?_, ofDecimal?_of_covers zero ?_⟩
    · rw [text, if_neg zero, notation_, point]
      exact read wholeDigits fractionDigits
    · rw [value, short, Digits.ofCount_value]
      exact covers

end Binary64

def isNumeralChar (c : Char) : Bool := isDigit c || c == '-' || c == '.'

theorem isNumeralChar_of_isDigit {c : Char} (digit : isDigit c = true) :
    isNumeralChar c = true := by
  simp [isNumeralChar, digit]

theorem isNumeralChar_of_isDigits {cs : List Char} (digits : isDigits cs = true) :
    ∀ c ∈ cs, isNumeralChar c = true :=
  fun c member => isNumeralChar_of_isDigit ((isDigits_iff.1 digits).2 c member)

theorem Numeral.all_unsignedText {n : Numeral} (valid : n.Valid) :
    ∀ c ∈ n.unsignedText, isNumeralChar c = true := by
  refine List.forall_mem_append.2 ⟨isNumeralChar_of_isDigits valid.whole, ?_⟩
  split
  · exact List.forall_mem_nil _
  next fraction point =>
    have digits := isNumeralChar_of_isDigits (valid.fraction fraction point)
    exact List.forall_mem_cons.2 ⟨rfl, digits⟩

theorem Numeral.all_text {cs : List Char} (numeral : (ofText? cs).isSome = true) :
    ∀ c ∈ cs, isNumeralChar c = true := by
  obtain ⟨n, read⟩ := Option.isSome_iff_exists.1 numeral
  obtain ⟨valid, rfl⟩ := ofText?_eq_some_iff.1 read
  have each := all_unsignedText valid
  rw [text]
  split
  · exact List.forall_mem_cons.2 ⟨rfl, each⟩
  · exact each

theorem Binary64.exponent_mem_text {x : Binary64} (scientific : x.isPositional = false) :
    'e' ∈ x.text := by
  rw [isPositional, Bool.or_eq_false_iff, decide_eq_false_iff_not] at scientific
  have notation_ : x.shortest.text = x.shortest.scientific := by
    rw [Digits.text, if_neg (by simpa using scientific.2)]
  rw [text, if_neg scientific.1, notation_]
  have mark : 'e' ∈ x.shortest.scientific := by simp [Digits.scientific]
  split
  · exact List.mem_cons_of_mem _ mark
  · exact mark

end InventoryQuery.Decimal

namespace InventoryQuery.Number

open Decimal

theorem ofText?_text_of_isPositional {x : Binary64} (positional : x.isPositional = true) :
    ofText? x.text = some (.real x) := by
  obtain ⟨whole, fraction, numeral, value⟩ := Binary64.exists_numeral positional
  simp only [ofText?, numeral, Option.bind_some, ofNumeral?, value, Option.map_some]

theorem ofText?_text_eq_none {x : Binary64} (scientific : x.isPositional = false) :
    ofText? x.text = none := by
  cases numeral : Numeral.ofText? x.text with
  | none => rw [ofText?, numeral, Option.bind_none]
  | some n =>
    exact absurd (Numeral.all_text (by simp [numeral]) _ (Binary64.exponent_mem_text scientific))
      (by decide)

theorem head_text (n : Number) : ∃ c cs, n.text = c :: cs ∧ (isDigit c = true ∨ c = '-') := by
  have first {cs : List Char} (digits : isDigits cs = true) :
      ∃ c rest, cs = c :: rest ∧ isDigit c = true := by
    obtain ⟨nonempty, each⟩ := isDigits_iff.1 digits
    obtain ⟨c, rest, rfl⟩ := List.exists_cons_of_ne_nil nonempty
    exact ⟨c, rest, rfl, each c List.mem_cons_self⟩
  cases n with
  | integer value inRange =>
    rw [text, integerText]
    split
    · exact ⟨'-', _, rfl, .inr rfl⟩
    · obtain ⟨c, rest, same, digit⟩ := first (isDigits_toDigits value.natAbs)
      exact ⟨c, rest, same, .inl digit⟩
  | real x =>
    rw [text, Binary64.text]
    split
    · exact ⟨'-', _, rfl, .inr rfl⟩
    split
    · exact ⟨'0', _, rfl, .inl rfl⟩
    next zero =>
      have digits := Binary64.isDigits_shortest zero
      rw [Digits.text]
      split
      · obtain ⟨whole, fraction, point, wholeDigits, -⟩ := Digits.exists_point digits
        obtain ⟨c, rest, rfl, digit⟩ := first wholeDigits
        exact ⟨c, _, point, .inl digit⟩
      · obtain ⟨c, rest, same, digit⟩ := first digits
        rw [Digits.scientific, same]
        cases rest <;> exact ⟨c, _, rfl, .inl digit⟩

end InventoryQuery.Number
