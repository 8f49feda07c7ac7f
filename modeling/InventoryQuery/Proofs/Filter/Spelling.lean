import InventoryQuery.Filter.Canonical
import InventoryQuery.Proofs.Decimal.NumberText
import InventoryQuery.Proofs.Filter.Sentence

/-! The canonical text of a tree is a sentence. Its literals are quoted just where the
bare text would be cut short or classed as something else; only a number is spelled
in its own notation, and reads back as whatever that notation says. -/
namespace InventoryQuery.Decimal

theorem isNumberLike_of_unsigned {cs body : List Char} {negative : Bool}
    (signless : dropSign cs = body)
    (numeral : (Numeral.unsigned? negative body).isSome = true) : isNumberLike cs = true := by
  unfold isNumberLike
  simp only [signless]
  split
  · rfl
  unfold Numeral.unsigned? at numeral
  split at numeral
  next ends =>
    rw [ends]
    have nonempty : (body.takeWhile isDigit).isEmpty = false := by
      dsimp only at numeral
      split at numeral
      · simp at numeral
      next other => exact Bool.eq_false_iff.2 other
    dsimp only
    rw [nonempty]
    rfl
  next fraction point =>
    rw [point]
    dsimp only at numeral
    split at numeral
    next shape =>
      rw [Bool.and_eq_true, Bool.not_eq_true'] at shape
      obtain ⟨-, each⟩ := isDigits_iff.1 shape.2
      show (!((body.takeWhile isDigit).isEmpty && (fraction.takeWhile isDigit).isEmpty) &&
        isExponent (fraction.dropWhile isDigit)) = true
      rw [shape.1, List.dropWhile_eq_nil_iff.2 each, Bool.false_and]
      rfl
    · simp at numeral
  · simp at numeral

theorem isNumberLike_of_numeral {cs : List Char}
    (numeral : (Numeral.ofText? cs).isSome = true) : isNumberLike cs = true := by
  unfold Numeral.ofText? at numeral
  split at numeral
  · exact isNumberLike_of_unsigned rfl numeral
  next negativeless =>
    refine isNumberLike_of_unsigned ?_ numeral
    unfold dropSign
    split
    · simp [Numeral.unsigned?, isDigit] at numeral
    next rest => exact absurd rfl (negativeless rest)
    · rfl

end InventoryQuery.Decimal

namespace InventoryQuery.Filter

theorem isSpace_isBlank {c : Char} (space : isSpace c = true) : Text.isBlank c = true := by
  rcases isSpace_iff.1 space with rfl | rfl | rfl | rfl <;> decide

namespace Quoted

theorem inside_escape (delimiter : Char) (cs : List Char) :
    Inside delimiter (escape delimiter cs) := by
  induction cs with
  | nil => exact .nil
  | cons c cs ih =>
    rw [escape]
    split
    · exact .pair c ih
    next plain =>
      rw [not_or] at plain
      exact .single plain.1 plain.2 ih

end Quoted

def isPlainName (cs : List Char) : Bool :=
  isRun (fun c => !isTerminator c) cs && stops isQuote cs

theorem isPlainName_iff {cs : List Char} : isPlainName cs = true ↔
    cs ≠ [] ∧ (∀ c ∈ cs, (!isTerminator c) = true) ∧ stops isQuote cs = true := by
  rw [isPlainName, Bool.and_eq_true, isRun_iff, and_assoc]

def Value.ofPlain (cs : List Char) (plain : isPlainName cs = true) : Value :=
  .word ⟨cs, (isPlainName_iff.1 plain).1, (isPlainName_iff.1 plain).2.1⟩
    (isPlainName_iff.1 plain).2.2

theorem Value.exists_of_isPlainName {cs : List Char} (plain : isPlainName cs = true) :
    ∃ v : Value, v.text = cs ∧ v.content = cs ∧ v.literal =
      if isNetworkText cs then .network (String.ofList cs) else .ofUnquoted (String.ofList cs) :=
  ⟨ofPlain cs plain, rfl, rfl, rfl⟩

theorem isPlainName_of_isWordStart {cs : List Char} (nonempty : cs ≠ [])
    (each : ∀ c ∈ cs, isWordStart c = true) : isPlainName cs = true := by
  simp only [isWordStart, Bool.and_eq_true] at each
  refine isPlainName_iff.2 ⟨nonempty, fun c member => (each c member).1, ?_⟩
  cases cs with
  | nil => rfl
  | cons c cs => exact (each c List.mem_cons_self).2

theorem isWordStart_of_isNumberChar {c : Char} (number : Decimal.isNumberChar c = true) :
    isWordStart c = true := by
  simp only [Decimal.isNumberChar, Bool.or_eq_true, beq_iff_eq] at number
  rcases number with (((digit | rfl) | rfl) | rfl) | rfl
  · exact Lexeme.isWordStart_of_isDigit digit
  all_goals decide

namespace Literal

/-- What the canonical text of a literal says. A number says what its text does. -/
def reread : Literal → Literal
  | .number value => .ofUnquoted (String.ofList value.text)
  | other => other

/-- A literal that a value can spell: a network has the shape of one. -/
def Legible : Literal → Prop
  | .network text => isNetworkText text.toList = true
  | _ => True

theorem ofUnquoted_eq_string {text : List Char} (number : Number.ofText? text = none)
    (noTrue : text ≠ ['t', 'r', 'u', 'e']) (noFalse : text ≠ ['f', 'a', 'l', 's', 'e']) :
    ofUnquoted (String.ofList text) = .string (String.ofList text) := by
  have noTrue' : String.ofList text ≠ "true" := by
    intro same
    exact noTrue (by simpa using congrArg String.toList same)
  have noFalse' : String.ofList text ≠ "false" := by
    intro same
    exact noFalse (by simpa using congrArg String.toList same)
  simp [ofUnquoted, number, noTrue', noFalse']

theorem ofText?_eq_none_of_not_isNumberLike {text : List Char}
    (other : Decimal.isNumberLike text = false) : Number.ofText? text = none := by
  have none : Decimal.Numeral.ofText? text = none := by
    rw [← Option.not_isSome_iff_eq_none]
    intro numeral
    simp [Decimal.isNumberLike_of_numeral numeral] at other
  rw [Number.ofText?, none, Option.bind_none]

theorem isPlainName_of_needsQuotes {text : List Char} (bare : needsQuotes text = false) :
    isPlainName text = true := by
  simp only [needsQuotes, Bool.or_eq_false_iff, List.any_eq_false, Bool.or_eq_true,
    not_or] at bare
  obtain ⟨⟨⟨⟨⟨nonempty, unquoted⟩, inside⟩, -⟩, -⟩, -⟩ := bare
  refine isPlainName_iff.2 ⟨by simpa using nonempty, fun c member => ?_, ?_⟩
  · obtain ⟨⟨⟨⟨blankless, comma⟩, opens⟩, closes⟩, -⟩ := inside c member
    have spaceless : isSpace c ≠ true := fun space => blankless (isSpace_isBlank space)
    simp_all [isTerminator]
  · cases text with
    | nil => rfl
    | cons c cs => simpa using unquoted

theorem not_isNetworkText {text : List Char} (other : '/' ∉ text) :
    isNetworkText text = false := by
  cases shape : isNetworkText text with
  | false => rfl
  | true => exact absurd (isNetworkText_slash shape) other

theorem literal_of_needsQuotes {text : List Char} (bare : needsQuotes text = false) :
    ofUnquoted (String.ofList text) = .string (String.ofList text) ∧
      isNetworkText text = false := by
  simp only [needsQuotes, Bool.or_eq_false_iff, List.any_eq_false, Bool.or_eq_true,
    not_or, beq_eq_false_iff_ne] at bare
  obtain ⟨⟨⟨⟨-, inside⟩, noTrue⟩, noFalse⟩, notNumber⟩ := bare
  refine ⟨ofUnquoted_eq_string (ofText?_eq_none_of_not_isNumberLike notNumber) noTrue noFalse,
    not_isNetworkText fun slash => ?_⟩
  have other := (inside _ slash).2
  simp at other

theorem isPlainName_number (n : Number) : isPlainName n.text = true :=
  isPlainName_of_isWordStart n.text_ne_nil fun c member =>
    isWordStart_of_isNumberChar (List.all_eq_true.1 n.all_text c member)

theorem isPlainName_network {text : List Char} (shape : isNetworkText text = true) :
    isPlainName text = true := by
  obtain ⟨address, digits, rfl, -, inside, shape⟩ := isNetworkText_iff.1 shape
  refine isPlainName_of_isWordStart (by simp) fun c member => ?_
  rcases List.mem_append.1 member with member | member
  · exact Lexeme.isWordStart_of_isAddressChar (inside c member)
  rcases List.mem_cons.1 member with rfl | member
  · decide
  · exact Lexeme.isWordStart_of_isDigit ((Decimal.isDigits_iff.1 shape).2 c member)

theorem exists_value (l : Literal) (legible : l.Legible) :
    ∃ v : Value, v.text = l.canonical ∧ v.literal = l.reread := by
  cases l with
  | string text =>
    rw [canonical]
    split
    · refine ⟨.quoted '\'' (Quoted.escape '\'' text.toList) rfl (Quoted.inside_escape _ _), rfl, ?_⟩
      simp [Value.literal, Quoted.unescape_escape, reread]
    next bare =>
      rw [Bool.not_eq_true] at bare
      obtain ⟨v, same, -, meaning⟩ := Value.exists_of_isPlainName (isPlainName_of_needsQuotes bare)
      obtain ⟨string, noNetwork⟩ := literal_of_needsQuotes bare
      rw [String.ofList_toList] at string
      exact ⟨v, same, by simpa [noNetwork, string, reread] using meaning⟩
  | number value =>
    obtain ⟨v, same, -, meaning⟩ := Value.exists_of_isPlainName (isPlainName_number value)
    have noNetwork : isNetworkText value.text = false := not_isNetworkText fun slash =>
      absurd (List.all_eq_true.1 value.all_text _ slash) (by decide)
    exact ⟨v, same, by simpa [noNetwork, reread] using meaning⟩
  | boolean value =>
    cases value with
    | false =>
      obtain ⟨v, same, -, meaning⟩ := Value.exists_of_isPlainName
        (show isPlainName "false".toList = true by decide)
      exact ⟨v, same, meaning.trans (by decide)⟩
    | true =>
      obtain ⟨v, same, -, meaning⟩ := Value.exists_of_isPlainName
        (show isPlainName "true".toList = true by decide)
      exact ⟨v, same, meaning.trans (by decide)⟩
  | network text =>
    have shape : isNetworkText text.toList = true := legible
    obtain ⟨v, same, -, meaning⟩ := Value.exists_of_isPlainName (isPlainName_network shape)
    exact ⟨v, same, by simpa [shape, reread] using meaning⟩

end Literal

end InventoryQuery.Filter
