import InventoryQuery.Proofs.Filter.Missing

/-! Text behind an accepted source. Blanks set it apart from the last token, so the sentence is
read as before; nothing inside it is tried behind its end, and there only the end of the input
is expected. -/
namespace InventoryQuery.Filter

open Text (Span byteLength)

theorem Blanks.atTerminator_text {blanks : Blanks} (nonempty : blanks.text ≠ [])
    (rest : List Char) : atTerminator (blanks.text ++ rest) = true := by
  obtain ⟨b, bs, text⟩ := List.exists_cons_of_ne_nil nonempty
  have blank := blanks.inside b (by simp [text])
  simpa [text, atTerminator] using isTerminator_of_isSpace blank

namespace Grammar

open Recognizer

variable {c : Cursor} {rest : List Char}

theorem endOfInput_misses (more : c.rest ≠ []) : Misses endOfInput c .endOfInput c.offset := by
  have lost : (endOfInput c).found = none := by
    obtain ⟨d, ds, same⟩ := List.exists_cons_of_ne_nil more
    exact token_lost (by rw [same]; rfl)
  have trials : (endOfInput c).trials = Blame.leaves c.offset [.endOfInput] :=
    trials_token_lost lost
  exact ⟨lost, trials ▸ Blame.settled_leaves c.offset (by simp)⟩

theorem filter_misses_end (before blanks : Blanks) (s : Sentence) (gap : blanks.text ≠ [])
    (more : rest ≠ []) (blankless : stops isSpace rest = true)
    (whole : c.rest = before.text ++ (s.text ++ (blanks.text ++ rest))) :
    Misses filter c .endOfInput
      (c.offset + byteLength (before.text ++ (s.text ++ blanks.text))) := by
  let atSentence := c.advance before.text (s.text ++ (blanks.text ++ rest))
  let behind := atSentence.advance s.text (blanks.text ++ rest)
  let atEnd := behind.advance blanks.text rest
  have offset : atEnd.offset = c.offset + byteLength (before.text ++ (s.text ++ blanks.text)) := by
    simp [atEnd, behind, atSentence]
  rw [← offset]
  have found₁ : (spaces c).found = some ([], atSentence) :=
    spaces_found before (stops_isSpace_sentence s _) whole
  have ends := endsAt_of_atTerminator (blanks.atTerminator_text gap rest) s
  obtain ⟨p, found₂, -⟩ := expression_found s (c := atSentence) ends rfl
  have found₃ : (spaces behind).found = some ([], atEnd) := spaces_found blanks blankless rfl
  have early : Early atEnd.offset expression atSentence :=
    early_expression s rfl (by simp [atEnd, behind])
  have atLast : Misses (sequence [spaces, endOfInput]) behind .endOfInput atEnd.offset :=
    .of_turnsOn (clean_spaces.turnsOn found₃ _) ((endOfInput_misses more).followedBy _)
  have start : c.offset < atEnd.offset := by
    have text := Text.byteLength_pos gap
    simp only [offset, Text.byteLength_append]
    omega
  exact Misses.rule (.of_turnsOn (clean_spaces.turnsOn found₁ _)
    (.followedBy_second found₂ early atLast)) .filter start

end Grammar

/-- Text behind an accepted source and blanks is not dropped: the source is refused at its first
character, where just the end is expected. -/
theorem parse_blames_trailing_text {e w g : String} {t : Tree Span} {d : Char}
    (accepted : parse e = .ok t) (gap : w ≠ "") (blank : ∀ b ∈ w.toList, isSpace b = true)
    (first : g.toList.head? = some d) (sign : isSpace d = false) :
    let offset := byteLength e.toList + byteLength w.toList
    parse (e ++ w ++ g) = .error (.mismatch ⟨offset,
      Text.Position.ofOffset (e ++ w ++ g).toList offset, ["end of input"], some d⟩) := by
  obtain ⟨before, after, s, whole, -⟩ := parse_eq_ok_iff.1 accepted
  let blanks : Blanks := ⟨after.text ++ w.toList, List.forall_mem_append.2 ⟨after.inside, blank⟩⟩
  have nonempty : blanks.text ≠ [] := by simp [blanks, gap]
  have more : g.toList ≠ [] := by
    intro none
    simp [none] at first
  have blankless : stops isSpace g.toList = true := by
    obtain ⟨f, ds, same⟩ := List.exists_cons_of_ne_nil more
    obtain rfl : f = d := by simpa [same] using first
    simp [same, sign]
  have front : e.toList ++ w.toList = before.text ++ (s.text ++ blanks.text) := by
    simp [whole, blanks]
  have misses := Grammar.filter_misses_end before blanks s nonempty more blankless
    (c := Cursor.start (before.text ++ (s.text ++ blanks.text) ++ g.toList)) (by simp [Cursor.start])
  have zero (cs : List Char) : (Cursor.start cs).offset = 0 := rfl
  rw [← front, zero, Nat.zero_add] at misses
  have refused := parse_of_misses (by
    rw [front]
    exact Text.byteLength_pos (by simp [nonempty])) misses
  have source : e.toList ++ w.toList ++ g.toList = (e ++ w ++ g).toList := by simp
  rw [source, String.ofList_toList, Text.byteLength_append, first] at refused
  exact refused

theorem parse_blames_trailing_text_group :
    ∃ t, parse " or(a = 'é', and(b column = c, d = 10))" = .ok t ∧
      parse (" or(a = 'é', and(b column = c, d = 10))" ++ " \n" ++ ", e = 2") =
        .error (.mismatch ⟨42, ⟨2, 1⟩, ["end of input"], some ','⟩) := by
  have columns : ((parse " or(a = 'é', and(b column = c, d = 10))").map
      fun t => t.comparisons.map Comparison.column).toOption = some ["a", "b", "d"] := by
    decide +kernel
  cases read : parse " or(a = 'é', and(b column = c, d = 10))" with
  | error e => simp [read, Except.map, Except.toOption] at columns
  | ok t =>
    exact ⟨t, rfl, parse_blames_trailing_text (w := " \n") (g := ", e = 2") read (by decide)
      (List.all_eq_true.1 rfl) rfl (by decide)⟩

end InventoryQuery.Filter
