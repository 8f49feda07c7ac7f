import InventoryQuery.Proofs.Shell.Loading
import InventoryQuery.Proofs.Text.Lines
import Mathlib.Data.List.Nodup

/-! Writing a file of settings. An assignment is written on a line of its own, with its value
between double quotes and nothing escaped, for only the outermost quotes are taken off again.
What the lines of a file then read as does not depend on how they end, nor on the blank lines
and comments between them. -/
namespace InventoryQuery

namespace Text

variable {cs : List Char}

theorem trimmed_append_blank {c : Char} (blank : isBlank c = true) (cs : List Char) :
    trimmed (cs ++ [c]) = trimmed cs := by
  have start : trimStart (cs ++ [c]) = trimStart cs ++ [c] ∨
      trimStart (cs ++ [c]) = [] ∧ trimStart cs = [] := by
    rw [trimStart, trimStart, List.dropWhile_append]
    cases cs.dropWhile isBlank with
    | nil => simp [blank]
    | cons d ds => simp
  rcases start with kept | ⟨empty, empty'⟩
  · rw [trimmed, kept]
    exact List.rdropWhile_concat_pos isBlank _ c blank
  · rw [trimmed, trimmed, empty, empty']

theorem trimmed_dropReturn (line : List Char) : trimmed (dropReturn line) = trimmed line := by
  rw [dropReturn]
  split
  next returned =>
    obtain ⟨front, rfl⟩ := List.getLast?_eq_some_iff.1 returned
    rw [List.dropLast_concat, trimmed_append_blank (by decide)]
  · rfl

theorem trimStart_of_trimmed (tight : trimmed cs = cs) : trimStart cs = cs := by
  have within : cs <+: trimStart cs := by
    conv_lhs => rw [← tight]
    exact List.rdropWhile_prefix isBlank _
  exact trimStart_of_prefix within

theorem trimStart_append {more : List Char} (nonempty : cs ≠ []) (tight : trimStart cs = cs) :
    trimStart (cs ++ more) = cs ++ more := by
  rw [trimStart, List.dropWhile_append, ← trimStart, tight]
  simp [nonempty]

theorem trimmed_of_getLast? {c : Char} (tight : trimStart cs = cs) (last : cs.getLast? = some c)
    (visible : isBlank c = false) : trimmed cs = cs := by
  obtain ⟨front, rfl⟩ := List.getLast?_eq_some_iff.1 last
  rw [trimmed, tight]
  exact List.rdropWhile_concat_neg isBlank _ c (by simp [visible])

end Text

namespace EnvFile

/-- A name that may be written before an equals sign and is read as it is. -/
structure IsName (name : List Char) : Prop where
  nonempty : name ≠ []
  tight : Text.trimmed name = name
  unsigned : '=' ∉ name
  one : '\n' ∉ name
  text : name.head? ≠ some '#'
  unexported : ¬exportWord <+: name

/-- A name and the value to be written under it, which may be any text on one line. -/
structure Assignment where
  name : List Char
  value : List Char
  isName : IsName name
  one : '\n' ∉ value

structure Silent where
  text : List Char
  nothing : Text.trimmed text = [] ∨ (Text.trimmed text).head? = some '#'
  one : '\n' ∉ text

inductive Written
  | silent (line : Silent)
  | assignment (exported : Bool) (content : Assignment)

inductive Ending
  | feed
  | returnFeed

namespace Assignment

def quotedValue (a : Assignment) : List Char := '"' :: (a.value ++ ['"'])

def text (a : Assignment) : List Char := a.name ++ '=' :: a.quotedValue

def entry (a : Assignment) : String × String := (String.ofList a.name, String.ofList a.value)

end Assignment

namespace Written

def text : Written → List Char
  | silent line => line.text
  | assignment false content => content.text
  | assignment true content => exportWord ++ content.text

def content? : Written → Option Assignment
  | silent _ => none
  | assignment _ content => some content

end Written

def Ending.text : Ending → List Char
  | feed => ['\n']
  | returnFeed => ['\r', '\n']

def fileText (lines : List (Written × Ending)) : String :=
  String.ofList (lines.flatMap fun (line, ending) => line.text ++ ending.text)

/-- The assignments that a file makes, in their order. -/
def contents (lines : List (Written × Ending)) : List Assignment :=
  lines.filterMap fun (line, _) => line.content?

namespace Assignment

theorem getLast?_quotedValue (a : Assignment) : a.quotedValue.getLast? = some '"' := by
  rw [quotedValue, ← List.cons_append, List.getLast?_concat]

theorem trimmed_quotedValue (a : Assignment) : Text.trimmed a.quotedValue = a.quotedValue :=
  Text.trimmed_of_getLast? rfl a.getLast?_quotedValue (by decide)

theorem head?_text (a : Assignment) : a.text.head? = a.name.head? :=
  List.head?_append_of_ne_nil _ a.isName.nonempty

theorem getLast?_text (a : Assignment) : a.text.getLast? = some '"' := by
  rw [text, List.getLast?_append, List.getLast?_cons, a.getLast?_quotedValue]
  rfl

theorem not_exported (a : Assignment) : ¬exportWord <+: a.text := by
  rintro ⟨rest, same⟩
  rcases List.append_eq_append_iff.1 same with ⟨more, split, -⟩ | ⟨more, split, behind⟩
  · exact a.isName.unexported ⟨more, split.symm⟩
  -- A name that ends within the word is followed by an equals sign, which the word has not.
  · cases more with
    | nil => exact a.isName.unexported ⟨[], by rw [split, List.append_nil, List.append_nil]⟩
    | cons c more =>
      obtain ⟨rfl, -⟩ := List.cons.inj behind
      have sign : '=' ∈ exportWord := split ▸ List.mem_append_right _ List.mem_cons_self
      exact absurd sign (by decide)

end Assignment

namespace Written

variable (exported : Bool) (a : Assignment)

theorem trimStart_text :
    Text.trimStart (assignment exported a).text = (assignment exported a).text := by
  cases exported with
  | true =>
    rw [text]
    exact Text.trimStart_append (by decide) rfl
  | false =>
    exact Text.trimStart_append a.isName.nonempty (Text.trimStart_of_trimmed a.isName.tight)

theorem getLast?_text : (assignment exported a).text.getLast? = some '"' := by
  cases exported with
  | true => rw [text, List.getLast?_append, a.getLast?_text, Option.some_or]
  | false => exact a.getLast?_text

theorem trimmed_text :
    Text.trimmed (assignment exported a).text = (assignment exported a).text :=
  Text.trimmed_of_getLast? (trimStart_text exported a) (getLast?_text exported a) (by decide)

theorem unexported_text : Unexported (assignment exported a).text a.text := by
  cases exported with
  | true =>
    rw [text, exportWord_eq]
    exact .word a.text
  | false => exact .plain (exportWord_eq ▸ a.not_exported)

theorem head?_text : (assignment exported a).text.head? ≠ some '#' := by
  cases exported with
  | true => nofun
  | false =>
    rw [text, a.head?_text]
    exact a.isName.text

theorem text_ne_nil : (assignment exported a).text ≠ [] := by
  cases exported with
  | true => exact List.cons_ne_nil _ _
  | false => exact List.append_ne_nil_of_left_ne_nil a.isName.nonempty _

theorem reads_assignment :
    Reads (assignment exported a).text (.assignment a.name a.value) := by
  have whole := trimmed_text exported a
  have carries : Carries (assignment exported a).text a.text := by
    constructor <;> rw [whole]
    · exact text_ne_nil exported a
    · exact head?_text exported a
    · exact unexported_text exported a
  have visible : Text.trimmed a.name ≠ [] := by
    rw [a.isName.tight]
    exact a.isName.nonempty
  -- All blanks and quotes of the value stand within the quotes around it.
  have unquoted : Unquoted (Text.trimmed a.quotedValue) a.value := by
    rw [a.trimmed_quotedValue]
    exact .quoted List.mem_cons_self a.value
  have reads := Reads.assignment carries a.isName.unsigned visible unquoted
  rwa [a.isName.tight] at reads

def reading : Written → Line
  | silent _ => .nothing
  | assignment _ content => .assignment content.name content.value

theorem ofText_text : (w : Written) → Line.ofText w.text = w.reading
  | silent line => Line.ofText_nothing line.nothing
  | assignment exported content => ofText_of_reads (reads_assignment exported content)

theorem one_text : (w : Written) → '\n' ∉ w.text
  | silent line => line.one
  | assignment exported a => by
    have unquoted : '\n' ∉ a.text := by
      simp [Assignment.text, Assignment.quotedValue, a.isName.one, a.one]
    cases exported with
    | true => exact mt List.mem_append.1 (not_or.2 ⟨by decide, unquoted⟩)
    | false => exact unquoted

end Written

theorem Line.ofText_congr {line other : List Char}
    (same : Text.trimmed line = Text.trimmed other) : ofText line = ofText other := by
  simp only [ofText, same]

theorem linesOf_ofList (cs : List Char) :
    linesOf (String.ofList cs) = (Text.linesFrom [] cs).map Line.ofText := by
  simp [linesOf, Text.lines]

theorem exists_line {line : List Char} (one : '\n' ∉ line) (ending : Ending) (rest : List Char) :
    ∃ read, Text.linesFrom [] (line ++ ending.text ++ rest) = read :: Text.linesFrom [] rest ∧
      Text.trimmed read = Text.trimmed line := by
  cases ending with
  | feed =>
    refine ⟨Text.dropReturn line, ?_, Text.trimmed_dropReturn line⟩
    have read := @Text.linesFrom_append_newline [] line one rest
    simpa [Ending.text] using read
  | returnFeed =>
    have one' : '\n' ∉ line ++ ['\r'] := by simpa using one
    refine ⟨Text.dropReturn (line ++ ['\r']), ?_, ?_⟩
    · have read := @Text.linesFrom_append_newline [] _ one' rest
      simpa [Ending.text] using read
    · rw [Text.trimmed_dropReturn, Text.trimmed_append_blank (by decide)]

theorem linesOf_fileText (lines : List (Written × Ending)) :
    linesOf (fileText lines) = lines.map fun line => line.1.reading := by
  rw [fileText, linesOf_ofList]
  induction lines with
  | nil => rfl
  | cons head rest ih =>
    obtain ⟨line, ending⟩ := head
    obtain ⟨read, split, same⟩ := exists_line line.one_text ending
      (rest.flatMap fun (line, ending) => line.text ++ ending.text)
    rw [List.flatMap_cons, split, List.map_cons, ih, Line.ofText_congr same, line.ofText_text,
      List.map_cons]

theorem load_fileText (s : Settings) (lines : List (Written × Ending)) :
    load s (fileText lines) = (s.setAll ((contents lines).map Assignment.entry), none) := by
  rw [load, linesOf_fileText, loadLines_eq_ok_iff]
  constructor
  · rintro _ member
    obtain ⟨⟨line, ending⟩, -, rfl⟩ := List.mem_map.1 member
    cases line with
    | silent line => exact .nothing
    | assignment exported content => exact .assignment _ _
  · congr 1
    rw [contents, List.map_filterMap, List.filterMap_map]
    refine List.filterMap_congr fun line _ => ?_
    obtain ⟨line, ending⟩ := line
    cases line <;> rfl

/-- Any text on one line can be written as a value and is read back. Whatever the order of
some assignments to different names, the blank lines and comments between them, the word
`export` before them and the ends of the lines, loading succeeds, each name has exactly the
value that was written, and all other names keep theirs. -/
theorem load_written (s : Settings) {assignments : List Assignment}
    (distinct : (assignments.map Assignment.name).Nodup) {lines : List (Written × Ending)}
    (order : (contents lines).Perm assignments) :
    ∃ loaded, load s (fileText lines) = (loaded, none) ∧
      (∀ a ∈ assignments,
        loaded.get? (String.ofList a.name) = some (String.ofList a.value)) ∧
      ∀ name, (∀ a ∈ assignments, String.ofList a.name ≠ name) →
        loaded.get? name = s.get? name := by
  refine ⟨_, load_fileText s lines, fun a member => ?_, fun name other => ?_⟩
  · have names : (((contents lines).map Assignment.entry).map Prod.fst).Nodup := by
      have strings := List.Nodup.map (f := String.ofList) (fun _ _ => String.ofList_injective)
        ((order.map Assignment.name).nodup_iff.2 distinct)
      simpa [Assignment.entry, Function.comp_def] using strings
    have found := Settings.lastValue?_of_mem names
      (List.mem_map_of_mem (f := Assignment.entry) (order.mem_iff.2 member))
    rw [Settings.get?_setAll]
    exact (congrArg (Option.or · _) found).trans (Option.some_or)
  · have absent : Settings.lastValue? ((contents lines).map Assignment.entry) name = none := by
      refine Settings.lastValue?_eq_none fun entry member => ?_
      obtain ⟨a, inside, rfl⟩ := List.mem_map.1 member
      exact other a (order.mem_iff.1 inside)
    rw [Settings.get?_setAll, absent, Option.none_or]

/-- Signs and blanks that mean something to the reader, and a return before the closing quote. -/
def signs : Assignment :=
  ⟨['A'], " \"=#'\r".toList, ⟨by decide, by decide, by decide, by decide, by decide, by decide⟩,
    by decide⟩

/-- Nothing, under a name that is the word `export` itself. -/
def emptyValue : Assignment :=
  ⟨"export".toList, [], ⟨by decide, by decide, by decide, by decide, by decide, by decide⟩,
    by decide⟩

def mixedLines : List (Written × Ending) :=
  [(.silent ⟨" # A=1\r".toList, by decide, by decide⟩, .feed),
    (.assignment true emptyValue, .returnFeed),
    (.silent ⟨[], by decide, by decide⟩, .feed),
    (.assignment false signs, .returnFeed)]

theorem load_written_mixed :
    ((contents mixedLines).Perm [signs, emptyValue] ∧ fileText mixedLines =
        " # A=1\r\nexport export=\"\"\r\n\nA=\" \"=#'\r\"\r\n") ∧
      ∃ loaded, load (.ofList [("A", "old"), ("C", "old")])
          " # A=1\r\nexport export=\"\"\r\n\nA=\" \"=#'\r\"\r\n" = (loaded, none) ∧
        loaded.get? "A" = some " \"=#'\r" ∧ loaded.get? "export" = some "" ∧
        loaded.get? "C" = some "old" := by
  have order : (contents mixedLines).Perm [signs, emptyValue] := List.Perm.swap signs emptyValue []
  have text : fileText mixedLines =
      " # A=1\r\nexport export=\"\"\r\n\nA=\" \"=#'\r\"\r\n" := by decide
  obtain ⟨loaded, loads, values, kept⟩ :=
    load_written (.ofList [("A", "old"), ("C", "old")]) (by decide) order
  rw [text] at loads
  exact ⟨⟨order, text⟩, loaded, loads, values signs (by simp), values emptyValue (by simp),
    (kept "C" (by decide)).trans (by decide)⟩

end EnvFile

end InventoryQuery
