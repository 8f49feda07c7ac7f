import InventoryQuery.Proofs.Shell.EnvFile

/-! Loading a file of settings line by line. The lines update the settings one after another,
up to the first that is not in order, and the last of them to assign to a name counts. -/
namespace InventoryQuery.EnvFile

/-- A line that is blank or a comment, or else has an equals sign with a name before it. -/
def InOrder (line : String) : Prop :=
  ∀ rest, Carries line.toList rest →
    ∃ name value, rest = name ++ '=' :: value ∧ '=' ∉ name ∧ Text.trimmed name ≠ []

theorem Reads.inOrder_iff {line : String} {reading : Line} (reads : Reads line.toList reading) :
    reading.WellFormed ↔ InOrder line := by
  cases reads with
  | blank nothing => exact ⟨fun _ _ carries => absurd nothing carries.visible, fun _ => .nothing⟩
  | comment hash => exact ⟨fun _ _ carries => absurd hash carries.text, fun _ => .nothing⟩
  | malformed carries unsigned =>
    refine ⟨nofun, fun inOrder => absurd ?_ unsigned⟩
    obtain ⟨name, value, rfl, -, -⟩ := inOrder _ carries
    exact List.mem_append_right _ List.mem_cons_self
  | emptyName carries first blank =>
    refine ⟨nofun, fun inOrder => ?_⟩
    obtain ⟨name, value, split, first', visible⟩ := inOrder _ carries
    have same := splitAssignment?_eq_some_iff.2 ⟨split, first'⟩
    rw [splitAssignment?_eq_some_iff.2 ⟨rfl, first⟩] at same
    cases same
    exact absurd blank visible
  | assignment carries first visible unquoted =>
    refine ⟨fun _ rest also => ?_, fun _ => .assignment _ _⟩
    obtain rfl := carries.unique also
    exact ⟨_, _, rfl, first, visible⟩

/-- The settings after some lines. Of the lines that assign a value to a name the last one
counts, and a name without such a line keeps its value. -/
structure Updated (s : Settings) (lines : List String) (loaded : Settings) : Prop where
  last : ∀ {before line after name value}, lines = before ++ line :: after →
    Reads line.toList (.assignment name value) →
    (∀ later ∈ after, ∀ other, ¬Reads later.toList (.assignment name other)) →
    loaded.get? (String.ofList name) = some (String.ofList value)
  kept : ∀ name, (∀ line ∈ lines, ∀ value, ¬Reads line.toList (.assignment name value)) →
    loaded.get? (String.ofList name) = s.get? (String.ofList name)

def assignments (lines : List String) : List (String × String) :=
  lines.filterMap fun line => (Line.ofText line.toList).assigned?

theorem assigned?_eq_some_iff {line : Line} {entry : String × String} :
    line.assigned? = some entry ↔
      ∃ name value, line = .assignment name value ∧
        entry = (String.ofList name, String.ofList value) := by
  cases line with
  | assignment name value => simp [Line.assigned?, eq_comm]
  | nothing | malformed | emptyName => simp [Line.assigned?]

theorem lastValue?_assignments {lines : List String} {name : List Char}
    (unassigned : ∀ line ∈ lines, ∀ value, ¬Reads line.toList (.assignment name value)) :
    Settings.lastValue? (assignments lines) (String.ofList name) = none := by
  refine Settings.lastValue?_eq_none fun entry member same => ?_
  obtain ⟨line, inside, found⟩ := List.mem_filterMap.1 member
  obtain ⟨own, value, reading, rfl⟩ := assigned?_eq_some_iff.1 found
  obtain rfl : own = name := String.ofList_injective same
  exact unassigned line inside value (ofText_eq_iff.1 reading)

theorem updated_setAll (s : Settings) (lines : List String) :
    Updated s lines (s.setAll (assignments lines)) where
  last := by
    rintro before line after name value rfl reads later
    have here : (Line.ofText line.toList).assigned? =
        some (String.ofList name, String.ofList value) := by
      rw [ofText_of_reads reads]
      rfl
    have order : assignments (before ++ line :: after) =
        assignments before ++ (String.ofList name, String.ofList value) :: assignments after := by
      rw [assignments, List.filterMap_append]
      exact congrArg _ (List.filterMap_cons_some here)
    rw [Settings.get?_setAll, order, Settings.lastValue?_append, Settings.lastValue?_cons,
      lastValue?_assignments later, if_pos rfl]
    rfl
  kept := fun name unassigned => by
    rw [Settings.get?_setAll, lastValue?_assignments unassigned, Option.none_or]

theorem wellFormed_iff {line : String} :
    (Line.ofText line.toList).WellFormed ↔ InOrder line :=
  (ofText_eq_iff.1 rfl).inOrder_iff

theorem filterMap_assigned? (lines : List String) :
    (lines.map fun line => Line.ofText line.toList).filterMap Line.assigned? =
      assignments lines := List.filterMap_map

theorem load_of_inOrder (s : Settings) {content : String}
    (good : ∀ line ∈ Text.lines content, InOrder line) :
    load s content = (s.setAll (assignments (Text.lines content)), none) := by
  rw [load, loadLines_eq_ok_iff, linesOf, filterMap_assigned?]
  exact ⟨List.forall_mem_map.2 fun line member => wellFormed_iff.2 (good line member), rfl⟩

theorem load_of_refused (s : Settings) {content : String}
    (bad : ¬∀ line ∈ Text.lines content, InOrder line) :
    ∃ before line after cause, Text.lines content = before ++ line :: after ∧
      (∀ earlier ∈ before, InOrder earlier) ∧
      (Line.ofText line.toList).Refused (before.length + 1) cause ∧
      load s content = (s.setAll (assignments before), some cause) := by
  have refused : ¬∀ line ∈ linesOf content, line.WellFormed := fun good =>
    bad fun line member => wellFormed_iff.1 (List.forall_mem_map.1 good line member)
  obtain ⟨_, _, _, cause, split, good, stops, loaded⟩ := loadLines_refused refused s 1
  obtain ⟨before, rest, lines, rfl, behind⟩ := List.map_eq_append_iff.1 split
  obtain ⟨line, after, rfl, rfl, -⟩ := List.map_eq_cons_iff.1 behind
  rw [List.length_map, Nat.add_comm] at stops
  rw [filterMap_assigned?] at loaded
  refine ⟨before, line, after, cause, lines, fun earlier member => ?_, stops, loaded⟩
  exact wellFormed_iff.1 (List.forall_mem_map.1 good earlier member)

/-- Loading takes the lines of a text one after another. It succeeds where all of them are in
order; where they are not it tells the number of the first that is not, and what the lines
before that one assign has taken effect. -/
theorem load_line_by_line (s : Settings) (content : String) :
    ((∃ loaded, load s content = (loaded, none)) ↔
      ∀ line ∈ Text.lines content, InOrder line) ∧
    (∀ loaded, load s content = (loaded, none) → Updated s (Text.lines content) loaded) ∧
    ∀ loaded cause, load s content = (loaded, some cause) →
      ∃ before line after, Text.lines content = before ++ line :: after ∧
        (∀ earlier ∈ before, InOrder earlier) ∧
        (∃ reading, Reads line.toList reading ∧ reading.Refused (before.length + 1) cause) ∧
        Updated s before loaded := by
  by_cases good : ∀ line ∈ Text.lines content, InOrder line
  · have loads := load_of_inOrder s good
    refine ⟨⟨fun _ => good, fun _ => ⟨_, loads⟩⟩, fun loaded same => ?_,
      fun loaded cause failed => ?_⟩
    · obtain rfl := congrArg Prod.fst (loads.symm.trans same)
      exact updated_setAll s _
    · cases congrArg Prod.snd (loads.symm.trans failed)
  · obtain ⟨before, line, after, stop, split, inOrder, refused, stopped⟩ := load_of_refused s good
    refine ⟨⟨fun ⟨loaded, same⟩ => ?_, fun all => absurd all good⟩, fun loaded same => ?_,
      fun loaded cause failed => ?_⟩
    · cases congrArg Prod.snd (stopped.symm.trans same)
    · cases congrArg Prod.snd (stopped.symm.trans same)
    · obtain ⟨rfl, same⟩ := Prod.mk.inj (stopped.symm.trans failed)
      obtain rfl := Option.some.inj same
      exact ⟨before, line, after, split, inOrder, ⟨_, ofText_eq_iff.1 rfl, refused⟩,
        updated_setAll s before⟩

def stoppedLines : String := "# host\n\nexport A = 'x=1'\r\nB=2\nA=\"'3'\" \nB\nC=4\n"

def storedSettings : Settings := .ofList [("B", "old"), ("C", "old")]

theorem load_line_by_line_stopped :
    (∃ loaded, load storedSettings stoppedLines = (loaded, some (.malformedLine 6)) ∧
      loaded.get? "A" = some "'3'" ∧ loaded.get? "C" = some "old") ∧
    ∃ loaded, load storedSettings "B=2\n\n C = 4 " = (loaded, none) ∧
      loaded.get? "C" = some "4" := by
  constructor
  -- The sixth line stops the loading, so the line behind it changes nothing.
  · obtain ⟨-, -, stops⟩ := load_line_by_line storedSettings stoppedLines
    have failed : (load storedSettings stoppedLines).2 = some (.malformedLine 6) := by decide
    have split : Text.lines stoppedLines =
        ["# host", "", "export A = 'x=1'", "B=2", "A=\"'3'\" "] ++ ["B", "C=4"] := by decide
    obtain ⟨before, line, after, lines, -, ⟨reading, -, refused⟩, updated⟩ :=
      stops _ _ (Prod.ext rfl failed)
    have five : before.length = 5 := by
      generalize within : before.length + 1 = number at refused
      cases refused
      omega
    obtain ⟨rfl, -⟩ := List.append_inj (lines.symm.trans split) five
    have last : ["# host", "", "export A = 'x=1'", "B=2", "A=\"'3'\" "] =
        ["# host", "", "export A = 'x=1'", "B=2"] ++ "A=\"'3'\" " :: [] := rfl
    have others : ∀ line ∈ ["# host", "", "export A = 'x=1'", "B=2", "A=\"'3'\" "],
        (Line.ofText line.toList).assigned?.map Prod.fst ≠ some "C" := by decide
    refine ⟨_, Prod.ext rfl failed, updated.last last (ofText_eq_iff.1 (by decide)) nofun,
      updated.kept ['C'] fun line member value reads => others line member ?_⟩
    rw [ofText_of_reads reads]
    rfl
  · obtain ⟨-, updates, -⟩ := load_line_by_line storedSettings "B=2\n\n C = 4 "
    have loads : (load storedSettings "B=2\n\n C = 4 ").2 = none := by decide
    have split : Text.lines "B=2\n\n C = 4 " = ["B=2", ""] ++ " C = 4 " :: [] := by decide
    exact ⟨_, Prod.ext rfl loads, (updates _ (Prod.ext rfl loads)).last split
      (ofText_eq_iff.1 (by decide)) nofun⟩

end InventoryQuery.EnvFile
