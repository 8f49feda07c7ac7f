import InventoryQuery.Proofs.Filter.Spelling
import InventoryQuery.Proofs.Filter.Values

/-! Any text between delimiters. The grammar that looks for the closing delimiter and the
reader that removes the escapes both take a backslash together with the character behind it.
So they stay in step: an escaped text ends at its own delimiter and reads as what was
escaped, and no backslash is left over at the end of a text that was found closed. -/
namespace InventoryQuery.Filter

open Text (byteLength)

namespace Quoted

/-- What is read in one turn of the inside of a quoted text: a backslash with the character
behind it, another character alone, or a last backslash with nothing behind it. -/
inductive Turn
  | pair (c : Char)
  | single (c : Char)
  | dangling
deriving DecidableEq, Repr

def turns : List Char → List Turn
  | '\\' :: c :: cs => .pair c :: turns cs
  | ['\\'] => [.dangling]
  | [] => []
  | c :: cs => .single c :: turns cs

def Turn.kept (delimiter : Char) : Turn → List Char
  | pair c => if c = delimiter ∨ c = '\\' then [c] else ['\\', c]
  | single c => [c]
  | dangling => ['\\']

theorem turns_single {c : Char} (plain : c ≠ '\\') (cs : List Char) :
    turns (c :: cs) = .single c :: turns cs :=
  turns.eq_4 c cs (fun _ _ same => absurd same plain) (fun same => absurd same plain)

theorem unescape_eq_flatMap (delimiter : Char) (cs : List Char) :
    unescape delimiter cs = (turns cs).flatMap (Turn.kept delimiter) := by
  fun_induction turns cs with
  | case1 c cs ih =>
    rw [unescape, ih, List.flatMap_cons, Turn.kept]
    split <;> rfl
  | case2 => rfl
  | case3 => rfl
  | case4 c cs noPair noLast ih =>
    rw [unescape.eq_3 _ _ _ noPair, ih]
    rfl

theorem dangling_notMem_turns {delimiter : Char} {content : List Char}
    (inside : Inside delimiter content) : Turn.dangling ∉ turns content := by
  induction inside with
  | nil => exact List.not_mem_nil
  | pair c rest ih => simpa [turns] using ih
  | single open_ plain rest ih => simpa [turns_single plain] using ih

end Quoted

namespace Grammar

theorem quoted_found_closed {c next : Cursor} {phrases : List Phrase}
    (found : (quoted c).found = some (phrases, next)) :
    ∃ delimiter content, isQuote delimiter = true ∧
      c.rest = delimiter :: (content ++ delimiter :: next.rest) ∧
      phrases = [quotedPhrase c.offset delimiter content] ∧
      Quoted.Turn.dangling ∉ Quoted.turns content := by
  obtain ⟨delimiter, content, quote, inside, whole⟩ := quoted_sound found
  obtain ⟨same, -⟩ := Prod.mk.inj
    (Option.some.inj (found.symm.trans (quoted_found quote inside whole)))
  exact ⟨delimiter, content, quote, whole, same, Quoted.dangling_notMem_turns inside⟩

/-- Every text can be quoted with either delimiter. Written with a backslash before each
delimiter and each backslash, it is found up to its closing delimiter whatever follows, and
it is read as it was. In no text that is found closed does a backslash stand without a
character that it is read with. -/
theorem quoted_reads_back {delimiter : Char} (quote : isQuote delimiter = true) (s : String) :
    (∀ offset rest,
      let escaped := Quoted.escape delimiter s.toList
      (quoted ⟨offset, delimiter :: (escaped ++ delimiter :: rest)⟩).found =
        some ([quotedPhrase offset delimiter escaped],
          ⟨offset + byteLength (delimiter :: (escaped ++ [delimiter])), rest⟩) ∧
      (quotedPhrase offset delimiter escaped).token? = some (.quoted s)) ∧
    Quoted.unescape delimiter (Quoted.escape delimiter s.toList) = s.toList ∧
    (∀ content, Quoted.unescape delimiter content =
      (Quoted.turns content).flatMap (Quoted.Turn.kept delimiter)) ∧
    ∀ c phrases next, (quoted c).found = some (phrases, next) →
      ∃ d content, isQuote d = true ∧ c.rest = d :: (content ++ d :: next.rest) ∧
        phrases = [quotedPhrase c.offset d content] ∧
        Quoted.Turn.dangling ∉ Quoted.turns content := by
  have readsBack := Quoted.unescape_escape delimiter s.toList
  refine ⟨fun offset rest => ⟨?_, ?_⟩, readsBack, Quoted.unescape_eq_flatMap delimiter,
    fun _ _ _ => quoted_found_closed⟩
  · exact quoted_found quote (Quoted.inside_escape delimiter s.toList) rfl
  · rw [token?_quotedPhrase offset quote, readsBack, String.ofList_toList]

theorem quoted_reads_back_backslashes :
    isQuote '"' = true ∧ Quoted.escape '"' "é\\\\\"".toList = "é\\\\\\\\\\\"".toList ∧
      (quoted ⟨4, "\"é\\\\\\\\\\\"\"\"\\".toList⟩).found =
        some ([quotedPhrase 4 '"' "é\\\\\\\\\\\"".toList], ⟨14, "\"\\".toList⟩) ∧
      (quotedPhrase 4 '"' "é\\\\\\\\\\\"".toList).token? = some (.quoted "é\\\\\"") ∧
      Quoted.Turn.dangling ∉ Quoted.turns "é\\\\\\\\\\\"".toList := by
  have quote : isQuote '"' = true := by decide
  have escaped : Quoted.escape '"' "é\\\\\"".toList = "é\\\\\\\\\\\"".toList := by decide
  obtain ⟨reads, -, -, closed⟩ := quoted_reads_back quote "é\\\\\""
  rw [escaped] at reads
  obtain ⟨found, token⟩ := reads 4 "\"\\".toList
  obtain ⟨d, content, -, -, same, turned⟩ := closed _ _ _ found
  have inside := congrArg (fun phrases => phrases.flatMap fun p => p.parts.map Phrase.text) same
  obtain rfl : "é\\\\\\\\\\\"".toList = content := (List.cons.inj inside).1
  exact ⟨quote, escaped, found, token, turned⟩

end Grammar

end InventoryQuery.Filter
