import InventoryQuery.Text.Lines
import Mathlib.Data.List.Induction
import Mathlib.Data.List.TakeWhile

/-! The line on which a place of a text lies. Behind as many line feeds as stand before the
place, the reader of lines holds just what stands between the last of them and the place. -/
namespace InventoryQuery.Text

variable {current cs tail : List Char}

/-- What may follow a line: the end of the text, or a line feed, to which a carriage return
right before it belongs. -/
inductive EndsLine : List Char → Prop
  | source : EndsLine []
  | feed (after : List Char) : EndsLine ('\n' :: after)
  | returnFeed (after : List Char) : EndsLine ('\r' :: '\n' :: after)

/-- A place, between the two parts of a text, and the line on which it lies. -/
inductive OnLine : List Char → List Char → List Char → Prop
  | intro {head left right tail : List Char} (starts : head = [] ∨ head.getLast? = some '\n')
    (one : '\n' ∉ left ++ right) (ends : EndsLine tail)
    (whole : tail.head? = some '\n' → (left ++ right).getLast? ≠ some '\r') :
    OnLine (head ++ left) (right ++ tail) (left ++ right)

def lastLine (before : List Char) : List Char :=
  (before.reverse.takeWhile (· != '\n')).reverse

theorem notMem_lastLine (before : List Char) : '\n' ∉ lastLine before := by
  rw [lastLine, List.mem_reverse]
  intro member
  simpa using List.mem_takeWhile_imp member

theorem lastLine_split (before : List Char) :
    ∃ head, before = head ++ lastLine before ∧ (head = [] ∨ head.getLast? = some '\n') := by
  refine ⟨(before.reverse.dropWhile (· != '\n')).reverse, ?_, ?_⟩
  · rw [lastLine, ← List.reverse_append, List.takeWhile_append_dropWhile, List.reverse_reverse]
  · rw [List.reverse_eq_nil_iff, List.getLast?_reverse]
    have stopped := List.head?_dropWhile_not (· != '\n') before.reverse
    cases left : before.reverse.dropWhile (· != '\n') with
    | nil => exact .inl rfl
    | cons c more => exact .inr (by simpa [left] using stopped)

theorem lastLine_eq_nil {before : List Char}
    (ended : before = [] ∨ before.getLast? = some '\n') : lastLine before = [] := by
  rcases ended with rfl | feed
  · rfl
  · obtain ⟨front, rfl⟩ := List.getLast?_eq_some_iff.1 feed
    simp [lastLine]

theorem drop_linesFrom (before rest : List Char) :
    (linesFrom [] (before ++ rest)).drop (before.count '\n') =
      linesFrom (lastLine before).reverse rest := by
  -- Followed from the end, the reader holds the part of the line before the place.
  induction before using List.reverseRecOn generalizing rest with
  | nil => rfl
  | append_singleton before c ih =>
    rw [List.append_assoc, List.singleton_append, List.count_append, ← List.drop_drop, ih]
    by_cases feed : c = '\n'
    · subst feed
      rw [linesFrom_newline]
      simp [lastLine]
    · rw [linesFrom_cons feed]
      simp [lastLine, feed]

theorem linesFrom_append_newline (one : '\n' ∉ cs) (after : List Char) :
    linesFrom current (cs ++ '\n' :: after) =
      dropReturn (current.reverse ++ cs) :: linesFrom [] after := by
  induction cs generalizing current with
  | nil => rw [List.nil_append, linesFrom_newline, List.append_nil]
  | cons c cs ih =>
    obtain ⟨other, others⟩ := not_or.1 (mt List.mem_cons.2 one)
    rw [List.cons_append, linesFrom_cons (Ne.symm other), ih others]
    simp

theorem head_linesFrom_of_notMem (one : '\n' ∉ cs) :
    (linesFrom current cs).head?.getD [] = current.reverse ++ cs := by
  induction cs generalizing current with
  | nil => cases current <;> simp [linesFrom]
  | cons c cs ih =>
    obtain ⟨other, others⟩ := not_or.1 (mt List.mem_cons.2 one)
    rw [linesFrom_cons (Ne.symm other), ih others]
    simp

theorem head_linesFrom (one : '\n' ∉ cs) (ends : EndsLine tail)
    (whole : tail.head? = some '\n' → (current.reverse ++ cs).getLast? ≠ some '\r') :
    (linesFrom current (cs ++ tail)).head?.getD [] = current.reverse ++ cs := by
  cases ends with
  | source => rw [List.append_nil, head_linesFrom_of_notMem one]
  | feed after =>
    rw [linesFrom_append_newline one, List.head?_cons, Option.getD_some, dropReturn,
      if_neg (whole rfl)]
  | returnFeed after =>
    have one' : '\n' ∉ cs ++ ['\r'] := by simpa using one
    have returned := @linesFrom_append_newline current _ one' after
    rw [List.append_assoc, List.singleton_append] at returned
    rw [returned, List.head?_cons, Option.getD_some, dropReturn, ← List.append_assoc]
    simp

theorem exists_endsLine {c : Char} {after : List Char} (other : c ≠ '\n')
    (goesOn : c = '\r' → after.head? ≠ some '\n') :
    ∃ more tail, after = more ++ tail ∧ '\n' ∉ c :: more ∧ EndsLine tail ∧
      (tail.head? = some '\n' → (c :: more).getLast? ≠ some '\r') := by
  induction after generalizing c with
  | nil => exact ⟨[], [], rfl, by simpa using Ne.symm other, .source, nofun⟩
  | cons d after ih =>
    have here : '\n' ∉ [c] := by simpa using Ne.symm other
    by_cases feed : d = '\n'
    · subst feed
      refine ⟨[], _, rfl, here, .feed after, fun _ same => ?_⟩
      exact goesOn (by simpa using same) rfl
    by_cases returns : d = '\r' ∧ after.head? = some '\n'
    · obtain ⟨rfl, next⟩ := returns
      obtain ⟨more, rfl⟩ := List.head?_eq_some_iff.1 next
      exact ⟨[], _, rfl, here, .returnFeed more, nofun⟩
    · obtain ⟨more, tail, rfl, one, ends, whole⟩ := ih feed fun same next => returns ⟨same, next⟩
      refine ⟨d :: more, tail, rfl, mt List.mem_cons.1 (not_or.2 ⟨Ne.symm other, one⟩), ends, ?_⟩
      rwa [List.getLast?_cons_cons]

/-- The line that the reader finds behind as many line feeds as stand before a place. -/
def lineAt (before rest : List Char) : List Char :=
  (linesFrom (lastLine before).reverse rest).head?.getD []

theorem getElem?_linesFrom (before rest : List Char) :
    (linesFrom [] (before ++ rest))[before.count '\n']?.getD [] = lineAt before rest := by
  rw [lineAt, ← drop_linesFrom, List.head?_drop]

theorem lineAt_nil (before : List Char) : lineAt before [] = lastLine before := by
  rw [lineAt, head_linesFrom_of_notMem (List.not_mem_nil), List.reverse_reverse, List.append_nil]

theorem onLine_nil (before : List Char) : OnLine before [] (lineAt before []) := by
  obtain ⟨head, split, starts⟩ := lastLine_split before
  have one : '\n' ∉ lastLine before ++ [] := by simpa using notMem_lastLine before
  have onLine := OnLine.intro starts one .source nofun
  rwa [← split, List.append_nil, ← lineAt_nil, List.append_nil] at onLine

theorem onLine_cons (before : List Char) {c : Char} {after : List Char} (other : c ≠ '\n')
    (goesOn : c = '\r' → after.head? ≠ some '\n') :
    OnLine before (c :: after) (lineAt before (c :: after)) ∧
      ∃ more, lineAt before (c :: after) = lastLine before ++ c :: more := by
  obtain ⟨head, split, starts⟩ := lastLine_split before
  obtain ⟨more, tail, rfl, one, ends, whole⟩ := exists_endsLine other goesOn
  have last : (lastLine before ++ c :: more).getLast? = (c :: more).getLast? := by
    rw [List.getLast?_append, List.getLast?_cons, Option.some_or]
  have line : lineAt before (c :: (more ++ tail)) = lastLine before ++ c :: more := by
    have read := @head_linesFrom (lastLine before).reverse _ _ one ends
      (by rwa [List.reverse_reverse, last])
    rwa [List.reverse_reverse] at read
  have one' : '\n' ∉ lastLine before ++ c :: more :=
    mt List.mem_append.1 (not_or.2 ⟨notMem_lastLine before, one⟩)
  have onLine := OnLine.intro starts one' ends (by rwa [last])
  rw [← split, List.cons_append] at onLine
  exact ⟨line ▸ onLine, more, line⟩

end InventoryQuery.Text
