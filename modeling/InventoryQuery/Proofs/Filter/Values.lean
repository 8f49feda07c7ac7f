import InventoryQuery.Proofs.Filter.Building
import InventoryQuery.Proofs.Filter.Recognition
import InventoryQuery.Proofs.Filter.Sentence

/-! Reading a value. A quoted text is read up to its closing delimiter whatever
follows; an unquoted word is read up to its terminator, and its class decides
which rule matches it. Nothing else is read as a value. -/
namespace InventoryQuery.Filter

open Text (byteLength)

namespace Lexeme

theorem quotedText_inside {delimiter : Char} (quote : isQuote delimiter = true)
    {content : List Char} (inside : Inside delimiter content) (rest : List Char) :
    quotedText delimiter (content ++ delimiter :: rest) = (content, delimiter :: rest) := by
  have plain : delimiter ≠ '\\' := by
    rintro rfl
    exact absurd quote (by decide)
  induction inside with
  | nil =>
    rw [List.nil_append, quotedText.eq_3 _ _ _ fun _ _ same => absurd same plain]
    simp
  | pair c inside ih =>
    rw [List.cons_append, List.cons_append, quotedText, ih]
  | single open_ plain inside ih =>
    rw [List.cons_append, quotedText.eq_3 _ _ _ fun _ _ same => absurd same plain, ih]
    simp [open_, plain]

theorem inside_of_quotedText {delimiter : Char} {cs content rest : List Char}
    (read : quotedText delimiter cs = (content, rest)) :
    cs = content ++ rest ∧ Inside delimiter content := by
  fun_induction quotedText delimiter cs generalizing content rest with
  | case1 c cs text left inner ih =>
    obtain ⟨rfl, rfl⟩ := Prod.mk.inj read
    obtain ⟨rfl, inside⟩ := ih inner
    exact ⟨rfl, .pair c inside⟩
  | case2 =>
    obtain ⟨rfl, rfl⟩ := Prod.mk.inj read
    exact ⟨rfl, .nil⟩
  | case3 c cs _ closing =>
    obtain ⟨rfl, rfl⟩ := Prod.mk.inj read
    exact ⟨rfl, .nil⟩
  | case4 c cs _ open_ text left inner ih =>
    obtain ⟨rfl, rfl⟩ := Prod.mk.inj read
    obtain ⟨rfl, inside⟩ := ih inner
    rw [not_or] at open_
    exact ⟨rfl, .single open_.1 open_.2 inside⟩

end Lexeme

/-- The class of an unquoted text, the first one that has its shape. -/
def wordClass (text : List Char) : Rule :=
  if isNetworkText text then .network
  else if (Decimal.Numeral.ofText? text).isSome then .number
  else if text = ['t', 'r', 'u', 'e'] ∨ text = ['f', 'a', 'l', 's', 'e'] then .boolean
  else .word

namespace Value

def token : Value → Token
  | quoted delimiter content _ _ =>
    .quoted (String.ofList (Quoted.unescape delimiter content))
  | word run _ =>
    let text := String.ofList run.text
    if isNetworkText run.text then .network text
    else if (Decimal.Numeral.ofText? run.text).isSome then .number text
    else if run.text = ['t', 'r', 'u', 'e'] ∨ run.text = ['f', 'a', 'l', 's', 'e'] then
      .boolean text
    else .word text

theorem word_cases {motive : Rule → Token → Literal → Prop} (run : Run fun c => !isTerminator c)
    (unquoted : stops isQuote run.text = true)
    (network : motive .network (.network (String.ofList run.text))
      (.network (String.ofList run.text)))
    (number : motive .number (.number (String.ofList run.text))
      (.ofUnquoted (String.ofList run.text)))
    (boolean : motive .boolean (.boolean (String.ofList run.text))
      (.ofUnquoted (String.ofList run.text)))
    (other : motive .word (.word (String.ofList run.text))
      (.ofUnquoted (String.ofList run.text))) :
    motive (wordClass run.text) (word run unquoted).token (word run unquoted).literal := by
  simp only [wordClass, token, literal]
  split
  · exact network
  split
  · exact number
  split
  · exact boolean
  · exact other

theorem token?_wordClass (run : Run fun c => !isTerminator c)
    (unquoted : stops isQuote run.text = true) {start stop : Nat} :
    Phrase.token? ⟨wordClass run.text, start, stop, run.text, []⟩ =
      some (word run unquoted).token :=
  word_cases (motive := fun r token _ =>
    Phrase.token? ⟨r, start, stop, run.text, []⟩ = some token) run unquoted rfl rfl rfl rfl

theorem text_token (v : Value) : v.token.text = String.ofList v.content := by
  cases v with
  | quoted delimiter content quote inside => rfl
  | word run unquoted =>
    exact word_cases (motive := fun _ token _ => token.text = String.ofList run.text) run unquoted
      rfl rfl rfl rfl

theorem literal_token (v : Value) : Literal.ofToken v.token = v.literal := by
  cases v with
  | quoted delimiter content quote inside => rfl
  | word run unquoted =>
    exact word_cases (motive := fun _ token literal => Literal.ofToken token = literal) run unquoted
      rfl rfl rfl rfl

theorem operand_token (v : Value) (m : Mode) : Phrase.operand m v.token = v.operand m := by
  cases m <;> simp [Phrase.operand, operand, text_token, literal_token]

/-- What may follow a value: anything after a closing delimiter, and a terminator
after a word. -/
def endsAt (rest : List Char) : Value → Prop
  | quoted _ _ _ _ => True
  | word _ _ => atTerminator rest = true

theorem exists_word {cs : List Char} (start : ¬stops isWordStart cs = true) :
    ∃ (run : Run fun c => !isTerminator c) (rest : List Char), stops isQuote run.text = true ∧
      atTerminator rest = true ∧ cs = run.text ++ rest := by
  obtain ⟨c, more, rfl⟩ : ∃ c more, cs = c :: more := by
    cases cs with
    | nil => simp at start
    | cons c more => exact ⟨c, more, rfl⟩
  simp only [stops_cons, isWordStart, Bool.not_eq_true', Bool.not_eq_false, Bool.and_eq_true]
    at start
  obtain ⟨run, rest, whole, ends⟩ := Run.exists_of_not_stops (p := fun c => !isTerminator c)
    (show ¬stops _ (c :: more) = true by simp [start.1])
  obtain ⟨d, ds, first⟩ := List.exists_cons_of_ne_nil run.nonempty
  obtain rfl : c = d := by
    rw [first] at whole
    exact (List.cons.inj whole).1
  exact ⟨run, rest, by simp [first, start.2], by rw [atTerminator_eq_stops, ends], whole⟩

theorem endsAt_of_atTerminator {rest : List Char} (ends : atTerminator rest = true) :
    (v : Value) → v.endsAt rest
  | quoted _ _ _ _ => trivial
  | word _ _ => ends

end Value

namespace Grammar

open Recognizer

variable {c next : Cursor} {rest : List Char} {ps : List Phrase}

theorem quotedBy_found {r : Rule} {delimiter : Char} {content : List Char}
    (quote : isQuote delimiter = true) (inside : Inside delimiter content)
    (whole : c.rest = delimiter :: (content ++ delimiter :: rest)) :
    (quotedBy r delimiter c).found =
      some ([⟨r, c.offset + delimiter.utf8Size, c.offset + delimiter.utf8Size + byteLength content,
        content, []⟩], c.advance (delimiter :: (content ++ [delimiter])) rest) := by
  have opening : Lexeme.exact [delimiter] c.rest =
      some ([delimiter], content ++ delimiter :: rest) := by
    rw [whole]
    exact Lexeme.exact_append [delimiter] _
  have middle : Lexeme.inside delimiter (content ++ delimiter :: rest) =
      some (content, delimiter :: rest) := by
    rw [Lexeme.inside, Lexeme.quotedText_inside quote inside]
  have closing : Lexeme.exact [delimiter] (delimiter :: rest) = some ([delimiter], rest) :=
    Lexeme.exact_append [delimiter] rest
  refine followedBy_skip_iff.2 ⟨_, _, opening, followedBy_token_iff.2 ⟨_, _, [], middle, ?_, rfl⟩⟩
  exact followedBy_skip_iff.2 ⟨_, _, closing, by simp [Recognizer.sequence]⟩

theorem quotedBy_lost {r : Rule} {delimiter : Char} {cs : List Char}
    (other : ∀ more, cs ≠ delimiter :: more) (whole : c.rest = cs) :
    (quotedBy r delimiter c).found = none := by
  refine followedBy_lost (skip_lost (Lexeme.exact_eq_none ?_))
  rintro ⟨more, same⟩
  exact other more (by rw [← whole, ← same]; rfl)

theorem quotedBy_sound {r : Rule} {delimiter : Char}
    (found : (quotedBy r delimiter c).found = some (ps, next)) :
    ∃ content, Inside delimiter content ∧
      c.rest = delimiter :: (content ++ delimiter :: next.rest) := by
  obtain ⟨_, _, opening, found⟩ := followedBy_skip_iff.1 found
  obtain ⟨content, _, _, middle, found, -⟩ := followedBy_token_iff.1 found
  obtain ⟨_, rest, closing, found⟩ := followedBy_skip_iff.1 found
  obtain ⟨-, rfl⟩ : [] = _ ∧ _ = next := by simpa [Recognizer.sequence] using found
  obtain ⟨rfl, whole⟩ := Lexeme.exact_eq_some_iff.1 opening
  obtain ⟨rfl, rfl⟩ := Lexeme.exact_eq_some_iff.1 closing
  obtain ⟨same, inside⟩ := Lexeme.inside_of_quotedText (Option.some.inj middle)
  rw [Cursor.rest_advance] at same
  exact ⟨content, inside, by simp [whole, same]⟩

def insideRule (delimiter : Char) : Rule :=
  if delimiter = '"' then .doubleQuotedText else .singleQuotedText

def quotedPhrase (offset : Nat) (delimiter : Char) (content : List Char) : Phrase :=
  let inside := offset + delimiter.utf8Size
  { rule := .quoted, start := offset
    stop := offset + byteLength (delimiter :: (content ++ [delimiter]))
    text := delimiter :: (content ++ [delimiter])
    parts := [⟨insideRule delimiter, inside, inside + byteLength content, content, []⟩] }

theorem token?_quotedPhrase (offset : Nat) {delimiter : Char} (quote : isQuote delimiter = true)
    (content : List Char) : (quotedPhrase offset delimiter content).token? =
      some (.quoted (String.ofList (Quoted.unescape delimiter content))) := by
  rcases isQuote_iff.1 quote with rfl | rfl <;> rfl

theorem quoted_found {delimiter : Char} {content : List Char}
    (quote : isQuote delimiter = true) (inside : Inside delimiter content)
    (whole : c.rest = delimiter :: (content ++ delimiter :: rest)) :
    (quoted c).found = some ([quotedPhrase c.offset delimiter content],
      c.advance (delimiter :: (content ++ [delimiter])) rest) := by
  have text : c.upTo (c.advance (delimiter :: (content ++ [delimiter])) rest) =
      delimiter :: (content ++ [delimiter]) := Cursor.upTo_advance (by simp [whole])
  have body : (choice [quotedBy .singleQuotedText '\'', quotedBy .doubleQuotedText '"'] c).found =
      some ((quotedPhrase c.offset delimiter content).parts,
        c.advance (delimiter :: (content ++ [delimiter])) rest) := by
    rcases isQuote_iff.1 quote with rfl | rfl
    · exact orElse_found (quotedBy_found quote inside whole)
    · have other : (quotedBy .singleQuotedText '\'' c).found = none :=
        quotedBy_lost (fun _ same => by simp at same) whole
      exact (orElse_lost other).trans (orElse_found (quotedBy_found quote inside whole))
  have found := rule_found (r := .quoted) body
  rw [text] at found
  exact found

theorem quoted_sound (found : (quoted c).found = some (ps, next)) :
    ∃ delimiter content, isQuote delimiter = true ∧ Inside delimiter content ∧
      c.rest = delimiter :: (content ++ delimiter :: next.rest) := by
  obtain ⟨parts, found, -⟩ := rule_found_iff.1 found
  rcases orElse_found_iff.1 found with found | ⟨-, found⟩
  · obtain ⟨content, inside, whole⟩ := quotedBy_sound found
    exact ⟨'\'', content, rfl, inside, whole⟩
  · rcases orElse_found_iff.1 found with found | ⟨-, found⟩
    · obtain ⟨content, inside, whole⟩ := quotedBy_sound found
      exact ⟨'"', content, rfl, inside, whole⟩
    · simp [choice] at found

theorem quoted_lost (unquoted : stops isQuote c.rest = true) : (quoted c).found = none := by
  have single : (quotedBy .singleQuotedText '\'' c).found = none :=
    quotedBy_lost (fun more same => by simp [same, isQuote] at unquoted) rfl
  have double : (quotedBy .doubleQuotedText '"' c).found = none :=
    quotedBy_lost (fun more same => by simp [same, isQuote] at unquoted) rfl
  refine rule_lost_iff.2 ?_
  rw [choice, orElse_lost single, choice, orElse_lost double, choice, found_failure]

theorem word_found (run : Run fun c => !isTerminator c) (unquoted : stops isQuote run.text = true)
    (ends : atTerminator rest = true) (whole : c.rest = run.text ++ rest) :
    (choice [network, number, boolean, word] c).found =
      some ([⟨wordClass run.text, c.offset, c.offset + byteLength run.text, run.text, []⟩],
        c.advance run.text rest) := by
  have inside : ∀ c ∈ run.text, isTerminator c = false := by simpa using run.inside
  have networkRead := Lexeme.network_append inside ends
  have numberRead := Lexeme.number_append inside ends
  have booleanRead := Lexeme.boolean_append inside ends
  have wordRead := Lexeme.word_append run.nonempty inside unquoted ends
  rw [← whole] at networkRead numberRead booleanRead wordRead
  -- The classes are tried in the order of `wordClass`, and those before the right one fail.
  unfold wordClass
  by_cases isNetwork : isNetworkText run.text = true
  · rw [if_pos isNetwork] at networkRead ⊢
    exact orElse_found (token_found_iff.2 ⟨_, _, networkRead, rfl, rfl⟩)
  rw [if_neg isNetwork] at networkRead ⊢
  have noNetwork : (network c).found = none := token_lost networkRead
  rw [choice, orElse_lost noNetwork]
  by_cases isNumber : (Decimal.Numeral.ofText? run.text).isSome = true
  · rw [if_pos isNumber] at numberRead ⊢
    exact orElse_found (token_found_iff.2 ⟨_, _, numberRead, rfl, rfl⟩)
  rw [if_neg isNumber] at numberRead ⊢
  have noNumber : (number c).found = none := token_lost numberRead
  rw [choice, orElse_lost noNumber]
  by_cases isBoolean : run.text = ['t', 'r', 'u', 'e'] ∨ run.text = ['f', 'a', 'l', 's', 'e']
  · rw [if_pos isBoolean] at booleanRead ⊢
    exact orElse_found (token_found_iff.2 ⟨_, _, booleanRead, rfl, rfl⟩)
  rw [if_neg isBoolean] at booleanRead ⊢
  have noBoolean : (boolean c).found = none := token_lost booleanRead
  rw [choice, orElse_lost noBoolean]
  exact orElse_found (token_found_iff.2 ⟨_, _, wordRead, rfl, rfl⟩)

theorem word_lost (stop : stops isWordStart c.rest = true) :
    (choice [network, number, boolean, word] c).found = none := by
  have noNetwork : (network c).found = none := token_lost (Lexeme.network_wordStart stop)
  have noNumber : (number c).found = none := token_lost (Lexeme.number_wordStart stop)
  have noBoolean : (boolean c).found = none := token_lost (Lexeme.boolean_wordStart stop)
  have noWord : (word c).found = none := token_lost (Lexeme.word_wordStart stop)
  rw [choice, orElse_lost noNetwork, choice, orElse_lost noNumber, choice,
    orElse_lost noBoolean, choice, orElse_lost noWord, choice, found_failure]

theorem value_found_word (run : Run fun c => !isTerminator c)
    (unquoted : stops isQuote run.text = true) (ends : atTerminator rest = true)
    (whole : c.rest = run.text ++ rest) :
    (value c).found =
      some ([⟨.value, c.offset, c.offset + byteLength run.text, run.text,
        [⟨wordClass run.text, c.offset, c.offset + byteLength run.text, run.text, []⟩]⟩],
          c.advance run.text rest) := by
  have start : (quoted c).found = none := by
    refine quoted_lost ?_
    obtain ⟨d, ds, same⟩ := List.exists_cons_of_ne_nil run.nonempty
    rw [same] at unquoted
    rw [whole, same]
    simpa using unquoted
  have found := rule_found (r := .value)
    ((orElse_lost start).trans (word_found run unquoted ends whole))
  rwa [Cursor.upTo_advance whole] at found

theorem value_found (v : Value) (ends : v.endsAt rest) (whole : c.rest = v.text ++ rest) :
    ∃ p, (value c).found = some ([p], c.advance v.text rest) ∧ p.rule = .value ∧
      p.value = .ok (v.token, ⟨c.offset, c.offset + byteLength v.text⟩) := by
  cases v with
  | quoted delimiter content quote inside =>
    have split : c.rest = delimiter :: (content ++ delimiter :: rest) := by
      simpa [Value.text] using whole
    refine ⟨_, rule_found (orElse_found (quoted_found quote inside split)), rfl, ?_⟩
    simp [Phrase.value_eq_ok (token?_quotedPhrase c.offset quote content), Value.token, Value.text]
  | word run unquoted =>
    exact ⟨_, value_found_word run unquoted ends whole, rfl,
      Phrase.value_eq_ok (Value.token?_wordClass run unquoted)⟩

theorem value_sound (found : (value c).found = some (ps, next)) :
    ∃ v : Value, c.rest = v.text ++ next.rest ∧ v.endsAt next.rest := by
  obtain ⟨parts, found, -⟩ := rule_found_iff.1 found
  rcases orElse_found_iff.1 found with found | ⟨-, found⟩
  · obtain ⟨delimiter, content, quote, inside, whole⟩ := quoted_sound found
    exact ⟨.quoted delimiter content quote inside, by simp [Value.text, whole], trivial⟩
  by_cases stop : stops isWordStart c.rest = true
  · exact absurd (found.symm.trans (word_lost stop)) (by simp)
  obtain ⟨run, rest, unquoted, ends, whole⟩ := Value.exists_word stop
  obtain ⟨-, rfl⟩ : _ = parts ∧ c.advance run.text rest = next := by
    simpa [word_found run unquoted ends whole] using found
  exact ⟨.word run unquoted, whole, ends⟩

end Grammar

end InventoryQuery.Filter
