import InventoryQuery.Proofs.Decimal.Numerals

/-! The characters of the text of a number, and the notation of a binary64 value. -/
namespace InventoryQuery.Decimal

def isNumberChar (c : Char) : Bool :=
  isDigit c || c == '-' || c == '.' || c == 'e' || c == '+'

theorem isNumberChar_of_isDigit {c : Char} (digit : isDigit c = true) :
    isNumberChar c = true := by
  simp [isNumberChar, digit]

theorem all_isNumberChar_toDigits (n : Nat) : (Nat.toDigits 10 n).all isNumberChar = true :=
  List.all_eq_true.2 fun _ member => isNumberChar_of_isDigit (isDigit_of_mem_toDigits member)

theorem all_of_sublist {cs ds : List Char} (sub : cs.Sublist ds)
    (each : ds.all isNumberChar = true) : cs.all isNumberChar = true :=
  List.all_eq_true.2 fun _ member => List.all_eq_true.1 each _ (sub.subset member)

namespace Digits

theorem sublist_ofCount (count : Nat) (place : Int) :
    (ofCount count place).digits.Sublist (Nat.toDigits 10 count) := by
  rw [← List.reverse_sublist, ofCount, List.reverse_reverse]
  exact (List.dropWhile_suffix _).sublist

theorem all_zeros (n : Nat) : (zeros n).all isNumberChar = true := by
  simp [zeros, isNumberChar, isDigit]

theorem all_positional {d : Digits} (each : d.digits.all isNumberChar = true) :
    d.positional.all isNumberChar = true := by
  have point : isNumberChar '.' = true := by decide
  have zero : isNumberChar '0' = true := by decide
  have front := all_of_sublist (List.take_sublist (d.exponent.toNat + 1) d.digits) each
  have back := all_of_sublist (List.drop_sublist (d.exponent.toNat + 1) d.digits) each
  rw [positional]
  split
  · simp only [List.all_cons, List.all_append, point, zero, all_zeros, each, Bool.and_self]
  · dsimp only
    split
    · simp only [List.all_cons, List.all_append, List.all_nil, point, zero, all_zeros, each,
        Bool.and_self]
    · simp only [List.all_cons, List.all_append, point, front, back, Bool.and_self]

theorem all_scientific {d : Digits} (each : d.digits.all isNumberChar = true) :
    d.scientific.all isNumberChar = true := by
  have point : isNumberChar '.' = true := by decide
  have mark : isNumberChar 'e' = true := by decide
  have sign : isNumberChar (if d.exponent < 0 then '-' else '+') = true := by
    split <;> decide
  rw [scientific]
  split
  next first second more shape =>
    rw [shape] at each
    simp only [List.all_cons, List.all_append, Bool.and_eq_true] at each ⊢
    exact ⟨⟨each.1, point, each.2⟩, mark, sign, all_isNumberChar_toDigits _⟩
  · simp only [List.all_cons, List.all_append, each, mark, sign, all_isNumberChar_toDigits,
      Bool.and_self]

theorem all_text {d : Digits} (each : d.digits.all isNumberChar = true) :
    d.text.all isNumberChar = true := by
  rw [text]
  split
  · exact all_positional each
  · exact all_scientific each

theorem positional_ne_nil (d : Digits) : d.positional ≠ [] := by
  rw [positional]
  split
  · simp
  · dsimp only
    split <;> simp

theorem text_ne_nil (d : Digits) : d.text ≠ [] := by
  rw [text]
  split
  · exact positional_ne_nil d
  · simp [scientific]

end Digits

namespace Binary64

theorem exists_ofCount (x : Binary64) :
    ∃ count place, x.shortest = Digits.ofCount count place := by
  rw [shortest]
  dsimp only
  cases found : (List.range 17).findSome? _ with
  | none => exact ⟨_, _, rfl⟩
  | some d =>
    obtain ⟨n, -, hit⟩ := List.exists_of_findSome?_eq_some found
    obtain ⟨count, -, rfl⟩ := Option.map_eq_some_iff.1 hit
    exact ⟨count, _, rfl⟩

theorem all_text (x : Binary64) : x.text.all isNumberChar = true := by
  obtain ⟨count, place, same⟩ := x.exists_ofCount
  have digits : x.shortest.digits.all isNumberChar = true := by
    rw [same]
    exact all_of_sublist (Digits.sublist_ofCount count place) (all_isNumberChar_toDigits count)
  have magnitude : (if x.significand = 0 then ['0', '.', '0'] else x.shortest.text).all
      isNumberChar = true := by
    split
    · decide
    · exact Digits.all_text digits
  rw [text]
  split
  · rw [List.all_cons, magnitude]
    decide
  · exact magnitude

theorem text_ne_nil (x : Binary64) : x.text ≠ [] := by
  rw [text]
  split
  · simp
  · split
    · simp
    · exact Digits.text_ne_nil _

end Binary64

end InventoryQuery.Decimal

namespace InventoryQuery.Number

open Decimal

theorem all_text : (n : Number) → n.text.all isNumberChar = true
  | .integer value _ => by
    rw [text, integerText]
    split
    · rw [List.all_cons, all_isNumberChar_toDigits]
      decide
    · exact all_isNumberChar_toDigits _
  | .real x => x.all_text

theorem text_ne_nil : (n : Number) → n.text ≠ []
  | .integer value _ => by
    rw [text, integerText]
    split
    · simp
    · exact Nat.toDigits_ne_nil
  | .real x => x.text_ne_nil

end InventoryQuery.Number
