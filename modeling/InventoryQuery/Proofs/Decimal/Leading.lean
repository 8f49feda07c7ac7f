import InventoryQuery.Proofs.Decimal.Numerals

/-! Zeros in front. The digits of a natural number have none, and digits that have none are
the digits of the number that they denote. -/
namespace InventoryQuery.Decimal

/-- Whether digits begin with a zero that can be left out. -/
def hasLeadingZero (cs : List Char) : Bool := cs.head? == some '0' && 1 < cs.length

theorem head?_toDigits_ne_zero {n : Nat} (positive : 0 < n) :
    (Nat.toDigits 10 n).head? ≠ some '0' := by
  induction n using Nat.strongRecOn with
  | ind n ih =>
    by_cases large : 10 ≤ n
    · rw [Nat.toDigits_of_base_le (by decide) large, List.head?_append,
        Option.or_of_isSome (List.isSome_head?.2 Nat.toDigits_ne_nil)]
      exact ih (n / 10) (by omega) (by omega)
    · have each : ∀ d < 10, 0 < d → (Nat.toDigits 10 d).head? ≠ some '0' := by decide
      exact each n (by omega) positive

theorem hasLeadingZero_toDigits (n : Nat) : hasLeadingZero (Nat.toDigits 10 n) = false := by
  rcases Nat.eq_zero_or_pos n with rfl | positive
  · decide
  · simp [hasLeadingZero, head?_toDigits_ne_zero positive]

theorem digitValue_spec {c : Char} (digit : isDigit c = true) :
    digitValue c < 10 ∧ c = Char.ofNat (48 + digitValue c) := by
  have bounds : 48 ≤ c.toNat ∧ c.toNat ≤ 57 := by
    simpa [isDigit, Char.le_def, UInt32.le_iff_toNat_le] using digit
  have value : digitValue c = c.toNat - 48 := rfl
  refine ⟨by omega, ?_⟩
  rw [value, Nat.add_sub_cancel' bounds.1, Char.ofNat_toNat]

theorem toDigits_digitValue {c : Char} (digit : isDigit c = true) :
    Nat.toDigits 10 (digitValue c) = [c] := by
  obtain ⟨small, same⟩ := digitValue_spec digit
  have each : ∀ d < 10, Nat.toDigits 10 d = [Char.ofNat (48 + d)] := by decide
  rw [each _ small, ← same]

theorem toDigits_append {count : Nat} {cs : List Char} (positive : 0 < count)
    (digits : ∀ c ∈ cs, isDigit c = true) :
    Nat.toDigits 10 count ++ cs = Nat.toDigits 10 (Width.extend count cs) := by
  induction cs generalizing count with
  | nil => simp [Width.extend]
  | cons c cs ih =>
    obtain ⟨first, others⟩ := List.forall_mem_cons.1 digits
    have next := Nat.toDigits_append_toDigits (b := 10) (by decide) positive
      (digitValue_spec first).1
    rw [toDigits_digitValue first] at next
    rw [Width.extend_cons, ← ih (by omega) others, ← next, List.append_assoc]
    rfl

theorem toDigits_valueOfDigits {cs : List Char} (digits : isDigits cs = true)
    (bare : hasLeadingZero cs = false) : Nat.toDigits 10 (valueOfDigits cs) = cs := by
  obtain ⟨nonempty, each⟩ := isDigits_iff.1 digits
  obtain ⟨c, cs, rfl⟩ := List.exists_cons_of_ne_nil nonempty
  obtain ⟨first, others⟩ := List.forall_mem_cons.1 each
  have value : valueOfDigits (c :: cs) = Width.extend (digitValue c) cs := by
    simp [valueOfDigits, Width.extend]
  rw [value]
  rcases Nat.eq_zero_or_pos (digitValue c) with zero | positive
  · have head : [c] = ['0'] := by rw [← toDigits_digitValue first, zero]; rfl
    obtain rfl : c = '0' := by simpa using head
    obtain rfl : cs = [] := by simpa [hasLeadingZero] using bare
    rfl
  · rw [← toDigits_append positive others, toDigits_digitValue first, List.singleton_append]

end InventoryQuery.Decimal

namespace InventoryQuery.Number

open Decimal

theorem integerText_signed (negative : Bool) (count : Nat) :
    integerText (signed negative count) =
      if negative ∧ 0 < count then '-' :: Nat.toDigits 10 count else Nat.toDigits 10 count := by
  cases negative with
  | false => simp [integerText, signed]
  | true => simp [integerText, signed, Int.natAbs_neg]

theorem integerText_eq_iff {negative : Bool} {cs : List Char} (digits : isDigits cs = true) :
    integerText (signed negative (valueOfDigits cs)) = (if negative then '-' :: cs else cs) ↔
      hasLeadingZero cs = false ∧ (negative = true → cs ≠ ['0']) := by
  have same : Nat.toDigits 10 (valueOfDigits cs) = cs ↔ hasLeadingZero cs = false :=
    ⟨fun same => same ▸ hasLeadingZero_toDigits _, toDigits_valueOfDigits digits⟩
  rw [integerText_signed]
  cases negative with
  | false => simpa using same
  | true =>
    rcases Nat.eq_zero_or_pos (valueOfDigits cs) with zero | positive
    · rw [zero] at same ⊢
      have bareZero : hasLeadingZero cs = false → cs = ['0'] := fun bare => (same.2 bare).symm
      simpa using bareZero
    · have other : cs ≠ ['0'] := by
        rintro rfl
        exact absurd positive (by decide)
      simpa [positive, other] using same

end InventoryQuery.Number
