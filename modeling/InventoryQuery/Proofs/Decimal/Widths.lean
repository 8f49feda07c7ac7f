import InventoryQuery.Json.Basic

/-! Reading an integer of a fixed width. From zero the digits lead further away step by
step, so once a product or a sum is out of the width, the whole value is too: reading
finds the value of the digits just when the width holds it. -/
namespace InventoryQuery.Decimal

def signed (negative : Bool) (count : Nat) : Int := if negative then -count else count

/-- The value of the digits before the point, with the sign. -/
def Numeral.wholeValue (n : Numeral) : Int := signed n.negative (valueOfDigits n.whole)

namespace Width

variable {w : Width}

def Holds (w : Width) (value : Int) : Prop := w.least ≤ value ∧ value ≤ w.greatest

instance (w : Width) (value : Int) : Decidable (w.Holds value) :=
  inferInstanceAs (Decidable (_ ∧ _))

theorem fit?_of_holds {value : Int} (holds : w.Holds value) : w.fit? value = some value :=
  if_pos holds

theorem fit?_eq_none {value : Int} (outside : ¬w.Holds value) : w.fit? value = none :=
  if_neg outside

theorem holds_of_between {value far : Int} (holds : w.Holds far)
    (between : 0 ≤ value ∧ value ≤ far ∨ far ≤ value ∧ value ≤ 0) : w.Holds value := by
  have low := w.least_le_zero
  have high := w.zero_le_greatest
  unfold Holds at holds ⊢
  omega

theorem holds_zero : w.Holds 0 := ⟨w.least_le_zero, w.zero_le_greatest⟩

def extend (count : Nat) (digits : List Char) : Nat :=
  digits.foldl (fun value c => 10 * value + digitValue c) count

theorem extend_cons (count : Nat) (c : Char) (digits : List Char) :
    extend count (c :: digits) = extend (10 * count + digitValue c) digits := by
  simp [extend]

theorem le_extend (count : Nat) (digits : List Char) : count ≤ extend count digits := by
  induction digits generalizing count with
  | nil => exact Nat.le_refl _
  | cons c digits ih =>
    have step : count ≤ 10 * count + digitValue c := by omega
    exact Nat.le_trans step (ih _)

theorem holds_of_le {negative : Bool} {near far : Nat} (le : near ≤ far)
    (holds : w.Holds (signed negative far)) : w.Holds (signed negative near) := by
  refine holds_of_between holds ?_
  cases negative <;> simp [signed] <;> omega

theorem addDigit?_signed (negative : Bool) (count : Nat) (c : Char) :
    w.addDigit? negative (signed negative count) c =
      (w.fit? (signed negative (10 * count))).bind fun _ =>
        w.fit? (signed negative (10 * count + digitValue c)) := by
  have tens : 10 * signed negative count = signed negative (10 * count) := by
    grind [signed]
  have sum : (if negative then signed negative (10 * count) - digitValue c
      else signed negative (10 * count) + digitValue c) =
        signed negative (10 * count + digitValue c) := by
    grind [signed]
  rw [addDigit?, tens]
  by_cases inside : w.Holds (signed negative (10 * count))
  · simp [fit?_of_holds inside, sum]
  · simp [fit?_eq_none inside]

theorem addDigit?_eq (negative : Bool) (count : Nat) (c : Char) :
    w.addDigit? negative (signed negative count) c =
      w.fit? (signed negative (10 * count + digitValue c)) := by
  rw [addDigit?_signed]
  -- A width that holds the outcome holds what was multiplied on the way.
  by_cases holds : w.Holds (signed negative (10 * count + digitValue c))
  · rw [fit?_of_holds (holds_of_le (Nat.le_add_right _ _) holds), Option.bind_some]
  · rw [fit?_eq_none holds, Option.bind_fun_none]

theorem foldlM_addDigit? (negative : Bool) (count : Nat) (digits : List Char)
    (start : w.Holds (signed negative count)) :
    digits.foldlM (w.addDigit? negative) (signed negative count) =
      w.fit? (signed negative (extend count digits)) := by
  induction digits generalizing count with
  | nil => exact (fit?_of_holds start).symm
  | cons c digits ih =>
    rw [List.foldlM_cons, extend_cons, addDigit?_eq]
    by_cases holds : w.Holds (signed negative (10 * count + digitValue c))
    · rw [fit?_of_holds holds]
      exact ih _ holds
    · -- What lies outside stays outside, whatever digits follow.
      rw [fit?_eq_none holds, fit?_eq_none fun far => holds (holds_of_le (le_extend ..) far)]
      rfl

theorem read?_eq (negative : Bool) (digits : List Char) : w.read? negative digits =
    if negative ∧ w.least = 0 then none else w.fit? (signed negative (valueOfDigits digits)) := by
  have zero : signed negative 0 = 0 := by cases negative <;> rfl
  have loop := foldlM_addDigit? (w := w) negative 0 digits (zero ▸ holds_zero)
  rw [zero] at loop
  rw [read?, loop]
  rfl

end Width

theorem Numeral.integer?_eq (n : Numeral) : n.integer? =
    if minInteger ≤ n.wholeValue ∧ n.wholeValue ≤ maxInteger then some n.wholeValue else none := by
  obtain ⟨negative, whole, fraction⟩ := n
  simp only [integer?, Width.read?_eq, wholeValue, Width.fit?, Width.signed64, Width.unsigned64,
    signed, minInteger, maxInteger]
  -- Below zero the unsigned width adds nothing.
  cases negative <;> grind

end InventoryQuery.Decimal

namespace InventoryQuery.Number

theorem ofNumeral?_integer {n : Decimal.Numeral} (whole : n.fraction = none) :
    ofNumeral? n = ofInteger? n.wholeValue := by
  rw [ofNumeral?, whole, n.integer?_eq]
  by_cases inRange : minInteger ≤ n.wholeValue ∧ n.wholeValue ≤ maxInteger
  · rw [if_pos inRange, Option.bind_some]
  · rw [if_neg inRange, Option.bind_none, ofInteger?, dif_neg inRange]

end InventoryQuery.Number
