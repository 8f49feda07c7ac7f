import InventoryQuery.Proofs.Decimal.Nearest
import InventoryQuery.Proofs.Filter.Numbers

/-! The classes of unquoted values. The grammar and the coercion of a value look at its text
independently; they agree on every text, so a number is coerced to a number wherever it can be
represented, a boolean to that boolean, and all else stays the text. -/
namespace InventoryQuery.Filter

open Text (byteLength)
open Decimal (Numeral Binary64)

/-- The shape of a text decides its class, and each class has its own shape. -/
structure Classed (text : List Char) (r : Rule) : Prop where
  network : r = .network ↔ ∃ address digits, text = address ++ '/' :: digits ∧ address ≠ [] ∧
    (∀ c ∈ address, isAddressChar c = true) ∧ Decimal.isDigits digits = true
  number : r = .number ↔ (Numeral.ofText? text).isSome = true
  boolean : r = .boolean ↔ text = ['t', 'r', 'u', 'e'] ∨ text = ['f', 'a', 'l', 's', 'e']
  word : r = .word ↔ r ≠ .network ∧ r ≠ .number ∧ r ≠ .boolean

theorem other_of_boolean {text : List Char}
    (boolean : text = ['t', 'r', 'u', 'e'] ∨ text = ['f', 'a', 'l', 's', 'e']) :
    isNetworkText text = false ∧ Numeral.ofText? text = none := by
  rcases boolean with rfl | rfl <;> decide

theorem classed_wordClass (text : List Char) : Classed text (wordClass text) := by
  have numeral : (Numeral.ofText? text).isSome = true → isNetworkText text = false :=
    Literal.not_isNetworkText_of_numeral
  unfold wordClass
  refine ⟨?_, ?_, ?_, ?_⟩
  · rw [← isNetworkText_iff]
    split_ifs <;> simp_all
  · split_ifs <;> simp_all
  · split_ifs with isNetwork isNumber isBoolean
    · exact ⟨nofun, fun same => absurd isNetwork (by simp [other_of_boolean same])⟩
    · exact ⟨nofun, fun same => absurd isNumber (by simp [other_of_boolean same])⟩
    · exact ⟨fun _ => isBoolean, fun _ => rfl⟩
    · exact ⟨nofun, fun same => absurd same isBoolean⟩
  · split_ifs <;> simp

/-- What an unquoted text of a class is coerced to. A numeral without a point is the integer
that it denotes, one with a point the nearest value; where there is none, it stays the text. -/
inductive Literal.OfClass (text : List Char) : Rule → Literal → Prop
  | network : OfClass text .network (.network (String.ofList text))
  | word : OfClass text .word (.string (String.ofList text))
  | boolean {value : Bool} (name : String.ofList text = Json.booleanText value) :
    OfClass text .boolean (.boolean value)
  | integer {n : Numeral} {v : ℤ} (valid : n.Valid) (spelled : text = n.text)
    (whole : n.fraction = none) (denotes : n.value = v)
    (inRange : minInteger ≤ v ∧ v ≤ maxInteger) :
    OfClass text .number (.number (.integer v inRange))
  | oversized {n : Numeral} {v : ℤ} (valid : n.Valid) (spelled : text = n.text)
    (whole : n.fraction = none) (denotes : n.value = v)
    (outside : v < minInteger ∨ maxInteger < v) :
    OfClass text .number (.string (String.ofList text))
  | decimal {n : Numeral} {x : Binary64} (valid : n.Valid) (spelled : text = n.text)
    (point : n.fraction ≠ none) (finite : |n.value| < Binary64.overflow)
    (nearest : x.Nearest n.value) : OfClass text .number (.number (.real x))
  | infinite {n : Numeral} (valid : n.Valid) (spelled : text = n.text)
    (point : n.fraction ≠ none) (beyond : Binary64.overflow ≤ |n.value|) :
    OfClass text .number (.string (String.ofList text))

namespace Literal

theorem ofUnquoted_boolean {text : List Char}
    (boolean : text = ['t', 'r', 'u', 'e'] ∨ text = ['f', 'a', 'l', 's', 'e']) :
    OfClass text .boolean (ofUnquoted (String.ofList text)) := by
  rcases boolean with rfl | rfl
  · exact .boolean (show _ = Json.booleanText true from rfl)
  · exact .boolean (show _ = Json.booleanText false from rfl)

theorem ofUnquoted_number {text : List Char} {n : Numeral}
    (read : Numeral.ofText? text = some n) :
    OfClass text .number (ofUnquoted (String.ofList text)) := by
  obtain ⟨valid, spelled⟩ := Numeral.ofText?_eq_some_iff.1 read
  rw [ofUnquoted_numeral read]
  by_cases whole : n.fraction = none
  · have denotes := Numeral.value_of_whole whole
    rw [Number.ofNumeral?_integer whole, Number.ofInteger?]
    split
    next inRange => exact .integer valid spelled whole denotes inRange
    next outside => exact .oversized valid spelled whole denotes (by omega)
  · obtain ⟨finite, infinite⟩ := Number.ofNumeral?_decimal whole
    rcases lt_or_ge |n.value| Binary64.overflow with low | high
    · obtain ⟨x, same, nearest⟩ := finite low
      rw [same]
      exact .decimal valid spelled whole low nearest
    · rw [infinite high]
      exact .infinite valid spelled whole high

theorem ofClass_wordClass (run : Run fun c => !isTerminator c)
    (unquoted : stops isQuote run.text = true) :
    OfClass run.text (wordClass run.text) (Value.word run unquoted).literal := by
  rw [Value.literal, wordClass]
  split
  · exact .network
  split
  next numeral =>
    obtain ⟨n, read⟩ := Option.isSome_iff_exists.1 numeral
    exact ofUnquoted_number read
  split
  next boolean => exact ofUnquoted_boolean boolean
  next noNumeral noBoolean =>
    have none : Number.ofText? run.text = none := by
      rw [Number.ofText?, Option.not_isSome_iff_eq_none.1 noNumeral, Option.bind_none]
    rw [not_or] at noBoolean
    rw [ofUnquoted_eq_string none noBoolean.1 noBoolean.2]
    exact .word

end Literal

/-- An unquoted text up to a terminator is read as one value, whole and in the class of its
shape, and it is coerced as its class says. -/
theorem unquoted_value_agrees (run : Run fun c => !isTerminator c) {c : Cursor} {rest : List Char}
    (unquoted : stops isQuote run.text = true) (ends : atTerminator rest = true)
    (whole : c.rest = run.text ++ rest) :
    ∃ p inner token, (Grammar.value c).found = some ([p], c.advance run.text rest) ∧
      p.parts = [inner] ∧ inner.text = run.text ∧ Classed run.text inner.rule ∧
      p.value = .ok (token, ⟨c.offset, c.offset + byteLength run.text⟩) ∧
      token.text = String.ofList run.text ∧
      Literal.OfClass run.text inner.rule (.ofToken token) := by
  refine ⟨_, _, (Value.word run unquoted).token,
    Grammar.value_found_word run unquoted ends whole, rfl, rfl, classed_wordClass run.text,
    Phrase.value_eq_ok (Value.token?_wordClass run unquoted), Value.text_token _, ?_⟩
  rw [Value.literal_token]
  exact Literal.ofClass_wordClass run unquoted

theorem unquoted_value_agrees_address :
    ∃ p inner token, (Grammar.value ⟨4, "10.0.0.1)".toList⟩).found = some ([p], ⟨12, [')']⟩) ∧
      p.parts = [inner] ∧ inner.rule = .word ∧ p.value = .ok (token, ⟨4, 12⟩) ∧
      Literal.ofToken token = .string "10.0.0.1" := by
  obtain ⟨p, inner, token, found, parts, -, classed, value, -, literal⟩ :=
    unquoted_value_agrees ⟨"10.0.0.1".toList, by decide, List.all_eq_true.1 rfl⟩
      (c := ⟨4, "10.0.0.1)".toList⟩) (by decide) (show atTerminator [')'] = true from rfl) rfl
  -- An address looks like a number and like a network, but is neither.
  have noNetwork := mt classed.network.1 (mt isNetworkText_iff.2 (by decide))
  have noNumber := mt classed.number.1 (by decide)
  have noBoolean := mt classed.boolean.1 (by decide)
  have rule := classed.word.2 ⟨noNetwork, noNumber, noBoolean⟩
  refine ⟨p, inner, token, found, parts, rule, value, ?_⟩
  rw [rule] at literal
  generalize Literal.ofToken token = l at literal
  cases literal with
  | word => rfl

end InventoryQuery.Filter
