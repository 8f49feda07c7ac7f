/-! The lines of a text. A line ends at a line feed, and a carriage return right
before that line feed belongs to the line's end. Nothing after the last line
feed is no line. -/
namespace InventoryQuery.Text

/-- A line without the carriage return that its line feed followed. -/
def dropReturn (line : List Char) : List Char :=
  if line.getLast? = some '\r' then line.dropLast else line

/-- The lines of `cs`, where `current` holds the present line in reverse. -/
def linesFrom (current : List Char) : List Char → List (List Char)
  | [] => if current.isEmpty then [] else [current.reverse]
  | c :: cs =>
    if c = '\n' then dropReturn current.reverse :: linesFrom [] cs
    else linesFrom (c :: current) cs

def lines (text : String) : List String := (linesFrom [] text.toList).map String.ofList

theorem linesFrom_newline (current cs : List Char) :
    linesFrom current ('\n' :: cs) = dropReturn current.reverse :: linesFrom [] cs := by
  simp [linesFrom]

theorem linesFrom_cons {c : Char} (other : c ≠ '\n') (current cs : List Char) :
    linesFrom current (c :: cs) = linesFrom (c :: current) cs := by
  simp [linesFrom, other]

end InventoryQuery.Text
