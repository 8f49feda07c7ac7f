import Mathlib.Data.Nat.Digits.Defs
import InventoryQuery.Proofs.Filter.Classes
import InventoryQuery.Proofs.Filter.Networks

/-! Integers in conditions. An unquoted integer of any length is sent as just that integer where
a signed or an unsigned 64-bit integer holds it, and as its text elsewhere. -/
namespace InventoryQuery

namespace Decimal

theorem valueOfDigits_eq_ofDigits (cs : List Char) :
    valueOfDigits cs = Nat.ofDigits 10 (cs.reverse.map digitValue) := by
  rw [Nat.ofDigits_eq_foldr, List.foldr_map, List.foldr_reverse, valueOfDigits]
  simp only [Nat.cast_id, Nat.add_comm]

theorem lowerAscii_of_isNumeralChar {c : Char} (numeral : isNumeralChar c = true) :
    lowerAscii c = c := by
  have small : ¬(('A' ≤ c && c ≤ 'Z') = true) := by
    rw [isNumeralChar, Bool.or_eq_true, Bool.or_eq_true, beq_iff_eq, beq_iff_eq] at numeral
    rcases numeral with (digit | rfl) | rfl
    · have letter := Filter.isLetter_of_isDigit digit
      rw [Filter.isLetter, Bool.or_eq_false_iff] at letter
      simp [letter.2]
    · decide
    · decide
  rw [lowerAscii, if_neg small]

end Decimal

namespace Filter

open Decimal (Numeral digitValue)
open Text (slice?)

theorem severityOrdinal?_of_numeral {cs : List Char}
    (numeral : (Numeral.ofText? cs).isSome = true) : severityOrdinal? (String.ofList cs) = none := by
  have each := Numeral.all_text numeral
  have lower : cs.map Decimal.lowerAscii = cs := by
    rw [List.map_congr_left fun c member => Decimal.lowerAscii_of_isNumeralChar (each c member)]
    exact List.map_id _
  have names : ∀ entry ∈ severities, entry.1.toList.all Decimal.isNumeralChar = false := by decide
  rw [severityOrdinal?, String.toList_ofList, lower, List.lookup_eq_none_iff]
  intro entry member
  simp only [bne_iff_ne]
  intro same
  have digits : entry.1.toList.all Decimal.isNumeralChar = true := by
    rw [← same, String.toList_ofList]
    exact List.all_eq_true.2 each
  simp [names entry member] at digits

theorem Literal.ofUnquoted_integer {n : Numeral} (valid : n.Valid) (whole : n.fraction = none) :
    ofUnquoted (String.ofList n.text) =
      if inRange : minInteger ≤ n.wholeValue ∧ n.wholeValue ≤ maxInteger then
        .number (.integer n.wholeValue inRange)
      else .string (String.ofList n.text) := by
  rw [ofUnquoted_numeral (Numeral.ofText?_eq_some_iff.2 ⟨valid, rfl⟩),
    Number.ofNumeral?_integer whole, Number.ofInteger?]
  split <;> rfl

theorem Comparison.rightSide_of_numeral {c : Comparison Span} {cs : List Char}
    (numeral : (Numeral.ofText? cs).isSome = true)
    (operand : c.operand = Phrase.operand c.mode (.number (String.ofList cs))) :
    c.rightSide = if c.mode = .column then .entry "column" (.string (String.ofList cs))
      else (Literal.ofUnquoted (String.ofList cs)).toDocument := by
  rw [rightSide, operand]
  cases c.mode with
  | column => rfl
  | plain => rfl
  | color =>
    simp only [Phrase.operand, Literal.ofToken]
    rcases Literal.ofUnquoted_of_numeral numeral with ⟨n, same⟩ | same
    · rw [same]
      rfl
    · rw [same]
      simp [Operand.severity, severityOrdinal?_of_numeral numeral, Literal.toDocument]

theorem sends_numerals {source : String} {d : Document} {cs : List Char}
    (accepted : (compileText source).result = .ok d)
    (numeral : (Numeral.ofText? cs).isSome = true) :
    ∃ t, parse source = .ok t ∧ ∀ c ∈ t.comparisons,
      slice? source.toList c.valuePlace.toRange = some cs →
      ∃ opcode, (Document.entry c.column (.array (Comparison.items c.mode opcode
        (if c.mode = .column then .entry "column" (.string (String.ofList cs))
          else (Literal.ofUnquoted (String.ofList cs)).toDocument)))).Within d := by
  obtain ⟨t, read, ok⟩ := compileText_eq_ok_iff.1 accepted
  refine ⟨t, read, fun c member token => ?_⟩
  obtain ⟨part, compiled, within⟩ := t.exists_within ok c member
  obtain ⟨opcode, -, rfl⟩ := Comparison.compile_eq_ok compiled
  have operand := operand_of_numeral read member token numeral
  rw [Comparison.rightSide_of_numeral numeral operand] at within
  exact ⟨opcode, within⟩

/-- A token of digits with an optional minus is read as the number that they denote, exactly,
where 64 bits hold it. Elsewhere it is read as its text. Just that is sent for it, at any
depth of a filter, but as the name of another column it is sent as it is written. -/
theorem integers_exact_or_untouched {negative : Bool} {digits : List Char}
    (isInteger : Decimal.isDigits digits = true) :
    let text := if negative then '-' :: digits else digits
    let size : ℤ := Nat.ofDigits 10 (digits.reverse.map digitValue)
    let value := if negative then -size else size
    ∃ l, Literal.ofToken (.number (String.ofList text)) = l ∧
      (-2 ^ 63 ≤ value ∧ value < 2 ^ 64 → ∃ inRange, l = .number (.integer value inRange)) ∧
      (value < -2 ^ 63 ∨ 2 ^ 64 ≤ value → l = .string (String.ofList text)) ∧
      ∀ source d, (compileText source).result = .ok d → ∃ t, parse source = .ok t ∧
        ∀ c ∈ t.comparisons, slice? source.toList c.valuePlace.toRange = some text →
          ∃ opcode, (Document.entry c.column (.array (Comparison.items c.mode opcode
            (if c.mode = .column then .entry "column" (.string (String.ofList text))
              else l.toDocument)))).Within d := by
  intro text size value
  let n : Numeral := ⟨negative, digits, none⟩
  have valid : n.Valid := ⟨isInteger, by simp [n]⟩
  have spelled : n.text = text := by simp [n, text, Numeral.text, Numeral.unsignedText]
  have denotes : n.wholeValue = value := by
    rw [Numeral.wholeValue, Decimal.signed, Decimal.valueOfDigits_eq_ofDigits]
    push_cast
    rfl
  have range : minInteger ≤ value ∧ value ≤ maxInteger ↔ -2 ^ 63 ≤ value ∧ value < 2 ^ 64 := by
    simp only [minInteger, maxInteger]
    omega
  have literal := Literal.ofUnquoted_integer valid rfl
  simp only [spelled, denotes] at literal
  refine ⟨_, rfl, fun inside => ?_, fun outside => ?_, fun source d accepted => ?_⟩
  · have inRange := range.2 inside
    exact ⟨inRange, literal.trans (dif_pos inRange)⟩
  · have beyond := mt range.1 (by omega)
    exact literal.trans (dif_neg beyond)
  · have read := Numeral.ofText?_eq_some_iff.2 ⟨valid, spelled.symm⟩
    exact sends_numerals accepted (Option.isSome_of_eq_some read)

theorem integers_exact_or_untouched_severity :
    Literal.ofToken (.number "18446744073709551616") = .string "18446744073709551616" ∧
      ∃ d opcode,
        (compileText "or(a = 1, and(b color >= 18446744073709551616))").result = .ok d ∧
        (Document.entry "b" (.array (Comparison.items .color opcode
          (.string "18446744073709551616")))).Within d := by
  have accepted : (compileText "or(a = 1, and(b color >= 18446744073709551616))").result =
      .ok (.entry "or" (.array [
        .entry "a" (.array [.string "eq", .number (.integer 1 (by decide))]),
        .entry "and" (.array [.entry "b" (.array [.string "color", .string "gte",
          .string "18446744073709551616"])])])) := by cbv
  have listed : (parse "or(a = 1, and(b color >= 18446744073709551616))").map
      (fun t => t.comparisons.map fun c => (c.column, c.mode, c.valuePlace.toRange)) =
        .ok [("a", .plain, ⟨7, 8⟩), ("b", .color, ⟨25, 45⟩)] := by cbv
  obtain ⟨l, read, -, beyond, sent⟩ := @integers_exact_or_untouched false
    "18446744073709551616".toList (by decide)
  have text : l = .string "18446744073709551616" := beyond (.inr (by decide))
  obtain ⟨t, parsed, each⟩ := sent _ _ accepted
  obtain ⟨c, member, same⟩ := exists_comparison_of_map parsed listed
    (show ("b", Mode.color, (⟨25, 45⟩ : Text.Range)) ∈ _ by simp)
  obtain ⟨column, mode, place⟩ : c.column = "b" ∧ c.mode = .color ∧
      c.valuePlace.toRange = ⟨25, 45⟩ := by simpa using same
  obtain ⟨opcode, within⟩ := each c member (by rw [place]; decide)
  rw [column, mode, text] at within
  exact ⟨read.trans text, _, opcode, accepted, within⟩

end Filter

end InventoryQuery
