import InventoryQuery.Proofs.Decimal.Widths
import Mathlib.Data.List.TakeWhile

/-! Decimal digits and the numerals that they form. The digits of a natural number
read back as that number, and the text of an integer reads back as that integer. -/
namespace InventoryQuery.Decimal

theorem valueOfDigits_eq (cs : List Char) : valueOfDigits cs = Nat.ofDigitChars 10 cs 0 := by
  simp [valueOfDigits, Nat.ofDigitChars_eq_foldl, digitValue]

theorem valueOfDigits_toDigits (n : Nat) : valueOfDigits (Nat.toDigits 10 n) = n := by
  rw [valueOfDigits_eq, Nat.ofDigitChars_ten_toDigits]

theorem isDigit_of_mem_toDigits {n : Nat} {c : Char} (member : c ∈ Nat.toDigits 10 n) :
    isDigit c = true :=
  Nat.isDigit_of_mem_toDigits (by decide) (by decide) member

theorem isDigits_iff {cs : List Char} :
    isDigits cs = true ↔ cs ≠ [] ∧ ∀ c ∈ cs, isDigit c = true := by
  simp [isDigits]

theorem isDigits_append {cs ds : List Char} (digits : isDigits cs = true)
    (more : ∀ d ∈ ds, isDigit d = true) : isDigits (cs ++ ds) = true := by
  obtain ⟨nonempty, each⟩ := isDigits_iff.1 digits
  refine isDigits_iff.2 ⟨List.append_ne_nil_of_left_ne_nil nonempty ds, fun c member => ?_⟩
  rcases List.mem_append.1 member with member | member
  · exact each c member
  · exact more c member

theorem isDigits_toDigits (n : Nat) : isDigits (Nat.toDigits 10 n) = true :=
  isDigits_iff.2 ⟨Nat.toDigits_ne_nil, fun _ => isDigit_of_mem_toDigits⟩

namespace Numeral

theorem unsigned?_whole (negative : Bool) {whole : List Char} (digits : isDigits whole = true) :
    unsigned? negative whole = some ⟨negative, whole, none⟩ := by
  obtain ⟨nonempty, each⟩ := isDigits_iff.1 digits
  have taken : whole.takeWhile isDigit = whole := List.takeWhile_eq_self_iff.2 each
  have left : whole.dropWhile isDigit = [] := List.dropWhile_eq_nil_iff.2 each
  simp [unsigned?, taken, left, nonempty]

theorem unsigned?_fraction (negative : Bool) {whole fraction : List Char}
    (digits : isDigits whole = true) (more : isDigits fraction = true) :
    unsigned? negative (whole ++ '.' :: fraction) = some ⟨negative, whole, some fraction⟩ := by
  obtain ⟨nonempty, each⟩ := isDigits_iff.1 digits
  have point : isDigit '.' = false := by decide
  have taken : (whole ++ '.' :: fraction).takeWhile isDigit = whole := by
    rw [List.takeWhile_append_of_pos each]
    simp [point]
  have left : (whole ++ '.' :: fraction).dropWhile isDigit = '.' :: fraction := by
    rw [List.dropWhile_append_of_pos each]
    simp [point]
  simp [unsigned?, taken, left, nonempty, more]

theorem ofText?_signed (negative : Bool) {cs : List Char} (unsigned : cs.head? ≠ some '-') :
    ofText? (if negative then '-' :: cs else cs) = unsigned? negative cs := by
  cases negative with
  | true => rfl
  | false =>
    rw [if_neg (by simp)]
    unfold ofText?
    split
    · simp at unsigned
    · rfl

end Numeral

theorem head?_of_isDigits {cs : List Char} (digits : isDigits cs = true) :
    cs.head? ≠ some '-' := by
  intro first
  have member : '-' ∈ cs := List.mem_of_mem_head? (by simp [first])
  exact absurd ((isDigits_iff.1 digits).2 _ member) (by decide)

namespace Numeral

def unsignedText (n : Numeral) : List Char :=
  n.whole ++ match n.fraction with
    | none => []
    | some fraction => '.' :: fraction

def text (n : Numeral) : List Char :=
  if n.negative then '-' :: n.unsignedText else n.unsignedText

/-- Digits on both sides of a point, or digits without a point. -/
structure Valid (n : Numeral) : Prop where
  whole : isDigits n.whole = true
  fraction : ∀ fraction ∈ n.fraction, isDigits fraction = true

theorem unsigned?_unsignedText {n : Numeral} (valid : n.Valid) (negative : Bool) :
    unsigned? negative n.unsignedText = some ⟨negative, n.whole, n.fraction⟩ := by
  obtain ⟨sign, whole, fraction⟩ := n
  cases fraction with
  | none =>
    rw [unsignedText, List.append_nil]
    exact unsigned?_whole negative valid.whole
  | some fraction =>
    exact unsigned?_fraction negative valid.whole (valid.fraction fraction rfl)

theorem unsigned?_eq_some {negative : Bool} {cs : List Char} {n : Numeral}
    (found : unsigned? negative cs = some n) :
    n.Valid ∧ n.negative = negative ∧ cs = n.unsignedText := by
  have split := List.takeWhile_append_dropWhile (p := isDigit) (l := cs)
  have each : ∀ c ∈ cs.takeWhile isDigit, isDigit c = true :=
    fun _ member => List.mem_takeWhile_imp member
  unfold unsigned? at found
  dsimp only at found
  split at found
  next ends =>
    rw [Option.ite_none_left_eq_some, List.isEmpty_iff] at found
    obtain ⟨nonempty, rfl⟩ := found.imp_right Option.some.inj
    exact ⟨⟨isDigits_iff.2 ⟨nonempty, each⟩, by simp⟩, rfl, by
      simpa [unsignedText, ends] using split.symm⟩
  next fraction point =>
    rw [Option.ite_none_right_eq_some, Bool.and_eq_true, Bool.not_eq_true',
      List.isEmpty_eq_false_iff] at found
    obtain ⟨⟨nonempty, digits⟩, rfl⟩ := found.imp_right Option.some.inj
    rw [point] at split
    exact ⟨⟨isDigits_iff.2 ⟨nonempty, each⟩, by simpa using digits⟩, rfl, split.symm⟩
  · simp at found

theorem ofText?_eq_some_iff {cs : List Char} {n : Numeral} :
    ofText? cs = some n ↔ n.Valid ∧ cs = n.text := by
  constructor
  · intro found
    unfold ofText? at found
    split at found
    · obtain ⟨valid, sign, rfl⟩ := unsigned?_eq_some found
      exact ⟨valid, by rw [text, if_pos sign]⟩
    · obtain ⟨valid, sign, rfl⟩ := unsigned?_eq_some found
      exact ⟨valid, by rw [text, if_neg (by simp [sign])]⟩
  · rintro ⟨valid, rfl⟩
    have signless : n.unsignedText.head? ≠ some '-' := by
      have first := head?_of_isDigits valid.whole
      obtain ⟨c, cs, same⟩ := List.exists_cons_of_ne_nil (isDigits_iff.1 valid.whole).1
      rw [same] at first
      simpa [unsignedText, same] using first
    exact (ofText?_signed n.negative signless).trans (unsigned?_unsignedText valid n.negative)

end Numeral

end InventoryQuery.Decimal

namespace InventoryQuery.Number

open Decimal

theorem ofText?_integerText {value : Int} (inRange : minInteger ≤ value ∧ value ≤ maxInteger) :
    ofText? (integerText value) = some (.integer value inRange) := by
  have digits := isDigits_toDigits value.natAbs
  have sign := Numeral.ofText?_signed (decide (value < 0)) (head?_of_isDigits digits)
  rw [Numeral.unsigned?_whole _ digits] at sign
  have text : integerText value =
      if decide (value < 0) = true then '-' :: Nat.toDigits 10 value.natAbs
      else Nat.toDigits 10 value.natAbs := by
    simp [integerText]
  have whole : Numeral.wholeValue ⟨decide (value < 0), Nat.toDigits 10 value.natAbs, none⟩ =
      value := by
    rw [Numeral.wholeValue, valueOfDigits_toDigits, signed]
    by_cases negative : value < 0
    · simp only [negative, decide_true, if_true]
      omega
    · simp only [negative, decide_false]
      rw [if_neg (by simp)]
      omega
  rw [ofText?, text, sign, Option.bind_some, ofNumeral?_integer rfl, whole, ofInteger?,
    dif_pos inRange]

end InventoryQuery.Number
