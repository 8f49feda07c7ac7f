import InventoryQuery.Proofs.Decimal.Notation
import InventoryQuery.Proofs.Filter.Parsed
import InventoryQuery.Proofs.Filter.RoundTrip

/-! Canonical texts of comparisons with numbers. A number in positional notation reads
back as itself. One in scientific notation reads back as a text, so the condition
changes; every other right side that comes from a numeral stays as it is. -/
namespace InventoryQuery.Filter

open Decimal
open Text (Span slice?)

namespace Literal

theorem text_ne_boolean {cs : List Char} (each : ∀ c ∈ cs, isNumberChar c = true) :
    cs ≠ ['t', 'r', 'u', 'e'] ∧ cs ≠ ['f', 'a', 'l', 's', 'e'] := by
  constructor
  · rintro rfl
    exact absurd (each 't' (by decide)) (by decide)
  · rintro rfl
    exact absurd (each 'f' (by decide)) (by decide)

theorem reread_positional {x : Binary64} (positional : x.isPositional = true) :
    reread (.number (.real x)) = .number (.real x) := by
  simp [reread, ofUnquoted, Number.text, Number.ofText?_text_of_isPositional positional]

theorem reread_scientific {x : Binary64} (scientific : x.isPositional = false) :
    reread (.number (.real x)) = .string (String.ofList x.text) := by
  obtain ⟨noTrue, noFalse⟩ := text_ne_boolean (List.all_eq_true.1 x.all_text)
  exact ofUnquoted_eq_string (Number.ofText?_text_eq_none scientific) noTrue noFalse

end Literal

namespace Operand

/-- Whether a number is written in positional notation; other operands always count. -/
def isPositional : Operand → Bool
  | .literal (.number (.real x)) => x.isPositional
  | _ => true

theorem eq_real_of_isPositional {o : Operand} (scientific : o.isPositional = false) :
    ∃ x : Binary64, o = .literal (.number (.real x)) ∧ x.isPositional = false := by
  unfold isPositional at scientific
  split at scientific
  next x => exact ⟨x, rfl, scientific⟩
  · simp at scientific

theorem reread_eq_iff {o : Operand} : o.reread = o ↔ o.isPositional = true := by
  constructor
  · intro same
    refine Bool.eq_true_of_not_eq_false fun scientific => ?_
    obtain ⟨x, rfl, other⟩ := eq_real_of_isPositional scientific
    rw [reread, Literal.reread_scientific other] at same
    simp at same
  · intro positional
    cases real : o.isReal with
    | false => exact reread_of_isReal real
    | true =>
      unfold isReal at real
      split at real
      next x => rw [reread, Literal.reread_positional positional]
      · simp at real

end Operand

theorem Comparison.Fits.reread {c : Comparison Span} (fits : c.Fits) : c.reread.Fits := by
  rw [Fits] at fits ⊢
  rw [Comparison.reread]
  cases right : c.operand <;> simpa [right, Operand.reread] using fits

theorem severity_string_ne_real (name : String) (x : Binary64) :
    (Operand.literal (.string name)).severity ≠ .number (.real x) := by
  intro same
  rw [Operand.severity] at same
  split at same
  next ordinal known =>
    obtain ⟨value, -, integer⟩ := Option.bind_eq_some_iff.1 known
    rw [Number.ofInteger?] at integer
    split at integer
    · obtain rfl := Option.some.inj integer
      simpa [Document.number] using congrArg Document.value same
    · simp at integer
  · exact Document.string_ne_number _ _ same

theorem isPositional_of_alike {c : Comparison Span} (mode : c.mode ≠ .column)
    (alike : c.Alike c.reread) : c.operand.isPositional = true := by
  refine Bool.eq_true_of_not_eq_false fun scientific => ?_
  obtain ⟨x, right, other⟩ := Operand.eq_real_of_isPositional scientific
  have same := alike.2.2.2
  have reread : c.reread.operand = .literal (.string (String.ofList x.text)) := by
    rw [Comparison.reread, right, Operand.reread, Literal.reread_scientific other]
  have rereadMode : c.reread.mode = c.mode := rfl
  rw [Comparison.rightSide, Comparison.rightSide, rereadMode, reread, right] at same
  cases form : c.mode with
  | column => exact mode form
  | plain =>
    rw [form] at same
    exact Document.string_ne_number _ _ same.symm
  | color =>
    rw [form] at same
    exact severity_string_ne_real _ _ same.symm

namespace Literal

theorem legible_ofUnquoted (text : String) : (ofUnquoted text).Legible := by
  unfold ofUnquoted
  split
  · trivial
  · split_ifs <;> trivial

theorem not_isNetworkText_of_numeral {cs : List Char}
    (numeral : (Numeral.ofText? cs).isSome = true) : isNetworkText cs = false :=
  not_isNetworkText fun slash => absurd (Numeral.all_text numeral _ slash) (by decide)

theorem ofUnquoted_numeral {cs : List Char} {n : Numeral} (read : Numeral.ofText? cs = some n) :
    ofUnquoted (String.ofList cs) =
      (Number.ofNumeral? n).elim (.string (String.ofList cs)) .number := by
  have each := Numeral.all_text (Option.isSome_of_eq_some read)
  have same : Number.ofText? cs = Number.ofNumeral? n := by
    rw [Number.ofText?, read, Option.bind_some]
  cases value : Number.ofNumeral? n with
  | some number => simp [ofUnquoted, same, value]
  | none =>
    refine ofUnquoted_eq_string (same.trans value) ?_ ?_
    · rintro rfl
      exact absurd (each 't' (by decide)) (by decide)
    · rintro rfl
      exact absurd (each 'f' (by decide)) (by decide)

theorem ofUnquoted_of_numeral {cs : List Char} (numeral : (Numeral.ofText? cs).isSome = true) :
    (∃ n, ofUnquoted (String.ofList cs) = .number n) ∨
      ofUnquoted (String.ofList cs) = .string (String.ofList cs) := by
  obtain ⟨n, read⟩ := Option.isSome_iff_exists.1 numeral
  rw [ofUnquoted_numeral read]
  cases Number.ofNumeral? n with
  | some number => exact .inl ⟨number, rfl⟩
  | none => exact .inr rfl

theorem stops_canonical_of_numeral {cs : List Char}
    (numeral : (Numeral.ofText? cs).isSome = true) :
    stops isOperatorChar (ofUnquoted (String.ofList cs)).canonical = true := by
  rcases ofUnquoted_of_numeral numeral with ⟨n, same⟩ | same
  · obtain ⟨c, rest, text, first⟩ := n.head_text
    rw [same, canonical, text, stops_cons]
    rcases first with digit | rfl
    · simp [isOperatorChar_of_isDigit digit]
    · decide
  · have quotes : needsQuotes cs = true := by
      simp [needsQuotes, isNumberLike_of_numeral numeral]
    rw [same, canonical, String.toList_ofList, if_pos quotes]
    rfl

end Literal

theorem not_numeral_quoted {delimiter : Char} {cs : List Char} (quote : isQuote delimiter = true) :
    ¬(Numeral.ofText? (delimiter :: cs)).isSome = true := by
  intro numeral
  have first := Numeral.all_text numeral delimiter List.mem_cons_self
  rcases isQuote_iff.1 quote with rfl | rfl <;> exact absurd first (by decide)

theorem Value.literal_of_numeral (v : Value)
    (numeral : (Numeral.ofText? v.text).isSome = true) :
    v.literal = .ofUnquoted (String.ofList v.text) := by
  cases v with
  | quoted delimiter content quote inside => exact absurd numeral (not_numeral_quoted quote)
  | word run unquoted =>
    have noNetwork : isNetworkText run.text = false := Literal.not_isNetworkText_of_numeral numeral
    simp [literal, text, noNetwork]

theorem Value.content_of_numeral (v : Value)
    (numeral : (Numeral.ofText? v.text).isSome = true) : v.content = v.text := by
  cases v with
  | quoted delimiter content quote inside => exact absurd numeral (not_numeral_quoted quote)
  | word run unquoted => rfl

/-- Whether the value of a comparison stands in the source as an unquoted numeral. -/
def Comparison.hasNumeral (source : String) (c : Comparison Span) : Bool :=
  (slice? source.toList c.valuePlace.toRange).any fun text => (Numeral.ofText? text).isSome

namespace Tree

variable {σ : Type}

mutual

theorem comparisons_reread : (t : Tree σ) →
    t.reread.comparisons = t.comparisons.map Comparison.reread
  | group connective members place => by
    rw [reread, comparisons, comparisons, comparisonsOf_reread members]
  | comparison content => by rw [reread, comparisons, comparisons, List.map_singleton]

theorem comparisonsOf_reread : (ts : List (Tree σ)) →
    comparisonsOf (rereadMembers ts) = (comparisonsOf ts).map Comparison.reread
  | [] => rfl
  | member :: rest => by
    rw [rereadMembers, comparisonsOf, comparisonsOf, List.map_append, comparisons_reread member,
      comparisonsOf_reread rest]

end

theorem reread_bare_iff (t : Tree σ) :
    t.reread.bare = t.bare ↔ ∀ c ∈ t.comparisons, c.operand.isPositional = true := by
  constructor
  · intro same c member
    have operands := congrArg (fun u => u.comparisons.map (·.operand)) same
    simp only [bare, comparisons_map, comparisons_reread, List.map_map, List.map_inj_left]
      at operands
    exact Operand.reread_eq_iff.1 (operands c member)
  · intro positional
    rw [t.reread_of_operands fun c member => Operand.reread_eq_iff.2 (positional c member)]

end Tree

section Numbers

variable {source : String} {t : Tree Span}

theorem operand_of_numeral {c : Comparison Span} {cs : List Char} (read : parse source = .ok t)
    (member : c ∈ t.comparisons) (token : slice? source.toList c.valuePlace.toRange = some cs)
    (numeral : (Numeral.ofText? cs).isSome = true) :
    c.operand = Phrase.operand c.mode (.number (String.ofList cs)) := by
  obtain ⟨k, left, right, whole, rfl⟩ := exists_clause_of_parse read member
  have here : slice? source.toList ((k.comparison (Text.byteLength left)).map
      (Span.ofRange source.toList)).valuePlace.toRange = some k.value.text := by
    rw [whole]
    exact k.slice?_value left right
  obtain rfl : k.value.text = cs := Option.some.inj (here.symm.trans token)
  have literal := k.value.literal_of_numeral numeral
  have content := k.value.content_of_numeral numeral
  cases form : k.form.mode <;>
    simp [Comparison.map, Clause.comparison, Clause.placed, form, Value.operand, literal, content,
      Phrase.operand, Token.text, Literal.ofToken]

theorem legible_of_numerals (read : parse source = .ok t)
    (numerals : ∀ c ∈ t.comparisons, c.mode ≠ .column ∧ c.hasNumeral source = true) :
    t.Legible := by
  refine legible_of_parse read fun c member => ?_
  obtain ⟨mode, numeral⟩ := numerals c member
  obtain ⟨cs, token, numeral⟩ := (Option.any_eq_true _ _).1 numeral
  have right : c.operand = .literal (.ofUnquoted (String.ofList cs)) := by
    rw [operand_of_numeral read member token numeral, Phrase.operand_of_ne_column mode]
    rfl
  refine comparison_legible_of_parse read member (fun _ _ => ?_) ?_
  · rw [right]
    exact Literal.stops_canonical_of_numeral numeral
  · rw [right]
    exact ⟨mode, Literal.legible_ofUnquoted _⟩

theorem isPositional_of_compile (fits : ∀ c ∈ t.comparisons, c.Fits)
    (modes : ∀ c ∈ t.comparisons, c.mode ≠ .column) {d : Document}
    (ok : t.compile.result = .ok d) (compiled : t.reread.compile.result = .ok d) :
    ∀ c ∈ t.comparisons, c.operand.isPositional = true := by
  have rereadFits : ∀ c ∈ t.reread.comparisons, c.Fits := by
    rw [t.comparisons_reread]
    intro c member
    obtain ⟨c, inside, rfl⟩ := List.mem_map.1 member
    exact (fits c inside).reread
  have pairs := Tree.comparisons_of_alike t t.reread
    (Tree.alike_of_compile t t.reread fits rereadFits d ok compiled)
  rw [t.comparisons_reread, List.forall₂_map_right_iff, List.forall₂_same] at pairs
  exact fun c member => isPositional_of_alike (modes c member) (pairs c member)

/-- The canonical text of comparisons with numbers always parses. It gives the same
tree, and the same condition where there is one, just when no number is written in
scientific notation. -/
theorem canonicalText_keeps_numbers_iff (read : parse source = .ok t)
    (numerals : ∀ c ∈ t.comparisons, c.mode ≠ .column ∧ c.hasNumeral source = true) :
    ∃ again, parse t.canonicalText = .ok again ∧
      (again.bare = t.bare ↔ ∀ c ∈ t.comparisons, c.operand.isPositional = true) ∧
      ∀ d, t.compile.result = .ok d → (again.compile.result = .ok d ↔
        ∀ c ∈ t.comparisons, c.operand.isPositional = true) := by
  obtain ⟨again, reread, meaning⟩ := Tree.parse_canonicalText (legible_of_numerals read numerals)
  refine ⟨again, reread, ?_, fun d ok => ⟨fun compiled => ?_, fun positional => ?_⟩⟩
  · rw [meaning, t.reread_bare_iff]
  · rw [Tree.compile_result_of_bare meaning] at compiled
    exact isPositional_of_compile (fun c member => fits_of_parse read member)
      (fun c member => (numerals c member).1) ok compiled
  · rw [← t.reread_bare_iff, ← meaning] at positional
    rwa [Tree.compile_result_of_bare positional]

def unquotedClause (cs : List Char) (plain : isPlainName cs = true) : Clause :=
  .equal .plain (.ofPlain cs plain)

theorem canonicalText_keeps_numbers_pair :
    ∃ t, parse "or (a = 007, a = -2.50)" = .ok t ∧ t.canonicalText = "or (a = 7, a = -2.5)" ∧
      ∃ again, parse t.canonicalText = .ok again ∧ again.bare = t.bare := by
  let s : Sentence := .group .or Tree.oneBlank Tree.noBlanks
    (.more (.comparison (unquotedClause ['0', '0', '7'] (by decide))) Tree.noBlanks Tree.oneBlank
      (.one (.comparison (unquotedClause ['-', '2', '.', '5', '0'] (by decide))))) Tree.noBlanks
  have read := parse_eq_ok_iff.2 ⟨Tree.noBlanks, Tree.noBlanks, s,
    show "or (a = 007, a = -2.50)".toList = _ by decide, rfl⟩
  obtain ⟨again, reread, same, -⟩ := canonicalText_keeps_numbers_iff read (by decide)
  exact ⟨_, read, by decide, again, reread, same.2 (by decide)⟩

/-- Ten to the sixteenth is written in scientific notation, which reads back as a text. -/
theorem canonicalText_loses_large_number :
    ∃ t n, parse "a = 10000000000000000.0" = .ok t ∧
      (∀ c ∈ t.comparisons, c.mode ≠ .column ∧
        c.hasNumeral "a = 10000000000000000.0" = true) ∧
      t.compile.result = .ok (.entry "a" (.array [.string "eq", .number n])) ∧
      t.canonicalText = "a = 1e+16" ∧
      (compileText t.canonicalText).result =
        .ok (.entry "a" (.array [.string "eq", .string "1e+16"])) := by
  have read := parse_eq_ok_iff.2 ⟨Tree.noBlanks, Tree.noBlanks,
    .comparison (unquotedClause "10000000000000000.0".toList (by decide)),
    show "a = 10000000000000000.0".toList = _ by decide, rfl⟩
  have reread := parse_eq_ok_iff.2 ⟨Tree.noBlanks, Tree.noBlanks,
    .comparison (unquotedClause "1e+16".toList (by decide)),
    show "a = 1e+16".toList = _ by decide, rfl⟩
  refine ⟨_, _, read, by decide, rfl, by decide, ?_⟩
  rw [show Tree.canonicalText _ = "a = 1e+16" by decide, compileText_of_parse reread]
  rfl

end Numbers

end InventoryQuery.Filter
