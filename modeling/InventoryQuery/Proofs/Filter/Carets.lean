import InventoryQuery.Filter.Compile
import InventoryQuery.Proofs.Text.Offsets

/-! The caret of a report. The line that a report shows is found by counting line feeds up to
the offset, and the column by counting characters from the last of them; so the caret stands
below the character at the offset, whatever ends the lines of the source. -/
namespace InventoryQuery.Filter

open Text (byteLength OnLine lastLine lineAt)

namespace FilterError

variable {e : FilterError} {source : String} {before rest : List Char}

theorem reportPosition_eq (whole : source.toList = before ++ rest)
    (offset : e.offset = byteLength before) :
    e.reportPosition source = ⟨before.count '\n' + 1, (lastLine before).length + 1⟩ := by
  have inside : min e.offset (byteLength source.toList) = byteLength before := by
    rw [offset, whole, Text.byteLength_append]
    exact Nat.min_eq_left (Nat.le_add_right _ _)
  rw [reportPosition, inside, whole, Text.Position.ofOffset_append,
    Text.Position.after_eq_lastLine]

theorem toList_reportLine (whole : source.toList = before ++ rest)
    (offset : e.offset = byteLength before) :
    (e.reportLine source).toList = lineAt before rest := by
  rw [reportLine, reportPosition_eq whole offset, Nat.add_sub_cancel, Text.lines, whole,
    List.getElem?_map, ← Text.getElem?_linesFrom]
  cases (Text.linesFrom [] (before ++ rest))[before.count '\n']? <;> simp

theorem report_eq (whole : source.toList = before ++ rest) (offset : e.offset = byteLength before) :
    e.report source = "Filter error at line " ++ toString (before.count '\n' + 1) ++ ", column " ++
      toString ((lastLine before).length + 1) ++ ":\n" ++ String.ofList (lineAt before rest) ++
      "\n" ++ String.ofList (List.replicate (lastLine before).length ' ') ++ "^\n" ++ e.message := by
  have line : e.reportLine source = String.ofList (lineAt before rest) := by
    rw [← toList_reportLine whole offset, String.ofList_toList]
  have blanks : (lastLine before).length + 1 - 1 = (lastLine before).length := rfl
  unfold report
  simp only [line, reportPosition_eq whole offset, blanks]

/-- The caret stands below the character at the offset, on the line of the source that this
character belongs to. At the end of a source it stands behind the last character of the last line, which
is empty if the source is empty or ends in a line feed. -/
theorem report_caret (whole : source.toList = before ++ rest)
    (offset : e.offset = byteLength before) :
    ∃ (shown : List Char) (column : ℕ),
      e.report source = "Filter error at line " ++ toString (before.count '\n' + 1) ++
        ", column " ++ toString column ++ ":\n" ++ String.ofList shown ++ "\n" ++
        String.ofList (List.replicate (column - 1) ' ') ++ "^\n" ++ e.message ∧
      1 ≤ column ∧
      (∀ c after, rest = c :: after → c ≠ '\n' → (c = '\r' → after.head? ≠ some '\n') →
        OnLine before rest shown ∧ column ≤ shown.length ∧ shown[column - 1]? = some c) ∧
      (rest = [] → OnLine before rest shown ∧ column = shown.length + 1) ∧
      (rest = [] → before = [] ∨ before.getLast? = some '\n' → shown = [] ∧ column = 1) := by
  refine ⟨lineAt before rest, (lastLine before).length + 1, report_eq whole offset,
    Nat.le_add_left _ _, ?_, ?_, ?_⟩
  · rintro c after rfl other goesOn
    obtain ⟨onLine, more, line⟩ := Text.onLine_cons before other goesOn
    exact ⟨onLine, by simp [line], by simp [line]⟩
  · rintro rfl
    exact ⟨Text.onLine_nil before, by rw [Text.lineAt_nil]⟩
  · rintro rfl ended
    have empty : lastLine before = [] := Text.lastLine_eq_nil ended
    rw [Text.lineAt_nil, empty]
    exact ⟨rfl, rfl⟩

theorem report_caret_returns :
    (compileText "or(\r\n\r\n a = 'é', b net )\r\n").result =
        .error (.mismatch ⟨24, ⟨3, 17⟩, ["value"], some ')'⟩) ∧
      ∃ (shown : List Char) (column : ℕ),
        (mismatch ⟨24, ⟨3, 17⟩, ["value"], some ')'⟩).report
            "or(\r\n\r\n a = 'é', b net )\r\n" =
          "Filter error at line " ++ toString 3 ++ ", column " ++ toString column ++ ":\n" ++
            String.ofList shown ++ "\n" ++ String.ofList (List.replicate (column - 1) ' ') ++
            "^\n" ++ (mismatch ⟨24, ⟨3, 17⟩, ["value"], some ')'⟩).message ∧
        OnLine "or(\r\n\r\n a = 'é', b net ".toList ")\r\n".toList shown ∧
        column ≤ shown.length ∧ shown[column - 1]? = some ')' := by
  have feeds : "or(\r\n\r\n a = 'é', b net ".toList.count '\n' = 2 := by decide
  have whole : "or(\r\n\r\n a = 'é', b net )\r\n".toList =
      "or(\r\n\r\n a = 'é', b net ".toList ++ ")\r\n".toList := by decide
  have offset : (mismatch ⟨24, ⟨3, 17⟩, ["value"], some ')'⟩).offset =
      byteLength "or(\r\n\r\n a = 'é', b net ".toList := by decide
  obtain ⟨shown, column, text, -, below, -⟩ := report_caret whole offset
  simp only [feeds, Nat.reduceAdd] at text
  exact ⟨by cbv, shown, column, text, below ')' _ rfl (by decide) nofun⟩

end FilterError

end InventoryQuery.Filter
