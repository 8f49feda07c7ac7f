import InventoryQuery.Proofs.Decimal.Leading
import InventoryQuery.Proofs.Filter.Blocks
import InventoryQuery.Proofs.Filter.Columns
import InventoryQuery.Proofs.Filter.Integers
import InventoryQuery.Proofs.Filter.Locations

/-! What the error of a network comparison quotes. The check looks at the literal and not at
the token, so an unquoted numeral is quoted as the number that it was read as. It is the token
where the token is how some number is written. -/
namespace InventoryQuery

namespace Number

theorem eq_of_ofText?_text {n m : Number} (read : ofText? n.text = some m) : m = n := by
  cases n with
  | integer value inRange =>
    exact Option.some.inj (read.symm.trans (ofText?_integerText inRange))
  | real x =>
    cases positional : x.isPositional with
    | true => exact Option.some.inj (read.symm.trans (ofText?_text_of_isPositional positional))
    | false => exact absurd (read.symm.trans (ofText?_text_eq_none positional)) (by simp)

theorem text_eq_iff {cs : List Char} {m : Number} (read : ofText? cs = some m) :
    m.text = cs ↔ ∃ n : Number, cs = n.text := by
  constructor
  · rintro same
    exact ⟨m, same.symm⟩
  · rintro ⟨n, rfl⟩
    rw [eq_of_ofText?_text read]

end Number

namespace Filter

open Decimal (Numeral isDigits hasLeadingZero signed valueOfDigits)
open Text (Span slice?)

namespace Literal

theorem ofText?_of_isNetworkText {cs : List Char} (shape : isNetworkText cs = true) :
    Number.ofText? cs = none := by
  cases numeral : Numeral.ofText? cs with
  | none => rw [Number.ofText?, numeral, Option.bind_none]
  | some n =>
    have other := not_isNetworkText_of_numeral (Option.isSome_of_eq_some numeral)
    exact absurd shape (Bool.eq_false_iff.1 other)

theorem networkText_ofUnquoted (cs : List Char) :
    (ofUnquoted (String.ofList cs)).networkText =
      String.ofList ((Number.ofText? cs).elim cs Number.text) := by
  rw [ofUnquoted, String.toList_ofList]
  cases Number.ofText? cs with
  | some n => rfl
  | none =>
    simp only [Option.elim_none]
    split_ifs with yes no
    · exact yes.symm
    · exact no.symm
    · rfl

end Literal

namespace Value

theorem networkText_literal (v : Value) :
    v.literal.networkText = String.ofList (if v.isQuoted then v.content else
      (Number.ofText? v.content).elim v.content Number.text) := by
  cases v with
  | quoted delimiter content quote inside => rfl
  | word run unquoted =>
    simp only [isQuoted, content, literal, Bool.false_eq_true, if_false]
    split
    next shape => rw [Literal.ofText?_of_isNetworkText shape]; rfl
    · exact Literal.networkText_ofUnquoted run.text

theorem networkText_eq_content_iff (v : Value) :
    v.literal.networkText = String.ofList v.content ↔
      v.isQuoted = true ∨ Number.ofText? v.content = none ∨
        ∃ n : Number, v.content = n.text := by
  rw [networkText_literal, String.ofList_inj]
  cases v.isQuoted with
  | true => simp
  | false =>
    cases read : Number.ofText? v.content with
    | none => simp
    | some m => simp [Number.text_eq_iff read]

theorem networkText_integer {v : Value} {negative : Bool} {digits : List Char}
    (isInteger : isDigits digits = true)
    (written : v.text = if negative then '-' :: digits else digits) :
    v.literal.networkText = String.ofList v.content ↔
      (minInteger ≤ signed negative (valueOfDigits digits) ∧
          signed negative (valueOfDigits digits) ≤ maxInteger →
        hasLeadingZero digits = false ∧ (negative = true → digits ≠ ['0'])) := by
  let n : Numeral := ⟨negative, digits, none⟩
  have valid : n.Valid := ⟨isInteger, by simp [n]⟩
  have spelled : n.text = v.text := by simp [n, written, Numeral.text, Numeral.unsignedText]
  have read := Numeral.ofText?_eq_some_iff.2 ⟨valid, spelled.symm⟩
  have numeral := Option.isSome_of_eq_some read
  have value : Number.ofText? v.text = Number.ofInteger? n.wholeValue := by
    rw [Number.ofText?, read, Option.bind_some, Number.ofNumeral?_integer rfl]
  rw [v.literal_of_numeral numeral, v.content_of_numeral numeral, Literal.networkText_ofUnquoted,
    String.ofList_inj, value, Number.ofInteger?]
  split
  next inRange =>
    have bare := @Number.integerText_eq_iff negative digits isInteger
    rw [← written] at bare
    exact bare.trans ⟨fun kept _ => kept, fun kept => kept inRange⟩
  next outside => exact ⟨fun _ inRange => absurd inRange outside, fun _ => rfl⟩

end Value

theorem exists_value_of_invalidNetwork {source literal reason : String} {offset : ℕ}
    (refused : (compileText source).result = .error (.invalidNetwork literal offset reason)) :
    ∃ t before c after, parse source = .ok t ∧ t.comparisons = before ++ c :: after ∧
      (∀ b ∈ before, b.Compiles) ∧ c.mode = .plain ∧ c.operator = "net" ∧
      c.valuePlace.start = offset ∧ ∃ v : Value,
        slice? source.toList c.valuePlace.toRange = some v.text ∧
          v.literal.networkText = literal := by
  cases read : parse source with
  | error cause =>
    obtain ⟨-, rfl⟩ := parse_eq_error_iff.1 read
    rw [compileText, read] at refused
    cases refused
  | ok t =>
    rw [compileText_of_parse read, ← Noted.outline_result_eq_error, Tree.outline_compile,
      visit_result_eq_error_iff] at refused
    obtain ⟨before, c, after, split, compiles, fails⟩ := refused
    have member : c ∈ t.comparisons := by simp [split]
    obtain ⟨k, head, tail, whole, rfl⟩ := exists_clause_of_parse read member
    cases fails with
    | invalidNetwork plain net operand checked =>
      have right : k.value.operand k.form.mode = .literal _ := operand
      rw [show k.form.mode = .plain from plain] at right
      refine ⟨t, before, _, after, rfl, split, compiles, plain, net, rfl, k.value, ?_, ?_⟩
      · rw [whole]
        exact k.slice?_value head tail
      · rw [Operand.literal.inj right]

/-- The error of a refused network is located at a value of the source, and it quotes what
that value says just when the value is quoted, is not read as a number, or is how some number
is written. An integer of 64 bits is written without a zero in front of its digits and without
a minus before zero. -/
theorem compileText_quotes_value_iff {source literal reason : String} {offset : ℕ}
    (refused : (compileText source).result = .error (.invalidNetwork literal offset reason)) :
    ∃ t before c after, parse source = .ok t ∧ t.comparisons = before ++ c :: after ∧
      (∀ b ∈ before, b.Compiles) ∧ c.mode = .plain ∧ c.operator = "net" ∧
      c.valuePlace.start = offset ∧ ∃ v : Value,
        slice? source.toList c.valuePlace.toRange = some v.text ∧
        (literal = String.ofList v.content ↔ v.isQuoted = true ∨
          Number.ofText? v.content = none ∨ ∃ n : Number, v.content = n.text) ∧
        ∀ negative digits, isDigits digits = true →
          v.text = (if negative then '-' :: digits else digits) →
          (literal = String.ofList v.content ↔
            (minInteger ≤ signed negative (valueOfDigits digits) ∧
                signed negative (valueOfDigits digits) ≤ maxInteger →
              hasLeadingZero digits = false ∧ (negative = true → digits ≠ ['0']))) := by
  obtain ⟨t, before, c, after, read, split, compiles, plain, net, start, v, token, rfl⟩ :=
    exists_value_of_invalidNetwork refused
  exact ⟨t, before, c, after, read, split, compiles, plain, net, start, v, token,
    v.networkText_eq_content_iff, fun _ _ => Value.networkText_integer⟩

/-- The last one in `or(a = 1, b net '0\'7')`. -/
def quotedNetwork : Comparison Span :=
  ⟨"b", "net", .literal (.string "0'7"), .plain,
    ⟨⟨10, 22⟩, ⟨1, 11⟩⟩, ⟨⟨12, 15⟩, ⟨1, 13⟩⟩, ⟨⟨16, 22⟩, ⟨1, 17⟩⟩⟩

theorem compileText_quotes_value_escaped :
    (compileText "or(a = 1, b net '0\\'7')").result =
        .error (.invalidNetwork "0'7" 16 "missing prefix length") ∧
      ∃ t before c after, parse "or(a = 1, b net '0\\'7')" = .ok t ∧
        t.comparisons = before ++ c :: after ∧ c.valuePlace.start = 16 ∧ ∃ v : Value,
          slice? "or(a = 1, b net '0\\'7')".toList c.valuePlace.toRange = some v.text ∧
          ("0'7" = String.ofList v.content ↔ v.isQuoted = true ∨
            Number.ofText? v.content = none ∨ ∃ n : Number, v.content = n.text) := by
  have read : parse "or(a = 1, b net '0\\'7')" = .ok (.group .or
      [.comparison ⟨"a", "=", .literal (.number (.integer 1 (by decide))), .plain,
          ⟨⟨3, 8⟩, ⟨1, 4⟩⟩, ⟨⟨5, 6⟩, ⟨1, 6⟩⟩, ⟨⟨7, 8⟩, ⟨1, 8⟩⟩⟩,
        .comparison quotedNetwork]
      ⟨⟨0, 23⟩, ⟨1, 1⟩⟩) := by cbv
  have checked : networkLiteral (Literal.networkText (.string "0'7")) = .error .missingLength := rfl
  have fails := Comparison.Fails.invalidNetwork (c := quotedNetwork) rfl rfl rfl checked
  have refused : (compileText "or(a = 1, b net '0\\'7')").result =
      .error (.invalidNetwork "0'7" 16 "missing prefix length") := by
    rw [compileText_of_parse read, ← Noted.outline_result_eq_error, Tree.outline_compile,
      visit_result_eq_error_iff]
    exact ⟨[_], quotedNetwork, [], rfl, by decide, fails⟩
  obtain ⟨t, before, c, after, parsed, split, -, -, -, start, v, token, quotes, -⟩ :=
    compileText_quotes_value_iff refused
  exact ⟨refused, t, before, c, after, parsed, split, start, v, token, quotes⟩

/-- An incomplete address is read as a number, and the error repeats that number instead. -/
theorem compileText_quotes_number :
    (compileText "a net 10.10").result =
        .error (.invalidNetwork "10.1" 6 "missing prefix length") ∧
      ∃ c, parse "a net 10.10" = .ok (.comparison c) ∧ c.valuePlace.start = 6 ∧
        slice? "a net 10.10".toList c.valuePlace.toRange = some "10.10".toList := by
  let name : Run isColumnChar := .ofText ['a'] rfl
  let op : Run isOperatorChar := .ofText ['n', 'e', 't'] rfl
  let v : Value := .ofPlain "10.10".toList (by decide)
  have free : ¬TakenForForm op v := fun taken => absurd taken.1 (by decide)
  obtain ⟨c, read, -, plain, net, right, -, start, token⟩ := parse_plainText name free
  have source : plainText name op v = "a net 10.10" := by decide
  have looked : v.literal.networkText = "10.1" := by decide
  have refused := c.compile_result_of_network plain net right
  rw [looked, start] at refused
  rw [source] at read token
  rw [compileText_of_parse read]
  exact ⟨refused, c, read, start, token⟩

end Filter

end InventoryQuery
