import InventoryQuery.Proofs.Request.Settings
import InventoryQuery.Proofs.Shell.EnvLines
import Mathlib.Data.List.Forall2

/-! What loading a file of settings does. Well-formed lines make their assignments one after
another, and the first line that is not well formed ends the loading with an error. -/
namespace InventoryQuery.EnvFile

namespace Line

def assigned? : Line → Option (String × String)
  | .assignment name value => some (String.ofList name, String.ofList value)
  | _ => none

/-- A line that says nothing, or assigns a value to a name. -/
inductive WellFormed : Line → Prop
  | nothing : WellFormed .nothing
  | assignment (name value : List Char) : WellFormed (.assignment name value)

/-- The error of a line that is not well formed, with the number of the line. -/
inductive Refused (number : Nat) : Line → LoadError → Prop
  | malformed : Refused number .malformed (.malformedLine number)
  | emptyName : Refused number .emptyName (.emptyName number)

end Line

theorem forall₂_reads_iff {lines : List String} {readings : List Line} :
    List.Forall₂ (fun line reading => Reads line.toList reading) lines readings ↔
      readings = lines.map fun line => Line.ofText line.toList := by
  simp only [← ofText_eq_iff]
  rw [← List.forall₂_map_left_iff (R := (· = ·)), List.forall₂_eq_eq_eq, eq_comm]

theorem loadLines_cons {line : Line} (good : line.WellFormed) (s : Settings) (number : Nat)
    (rest : List Line) :
    loadLines s number (line :: rest) =
      loadLines (s.setAll line.assigned?.toList) (number + 1) rest := by
  cases good <;> rfl

theorem loadLines_cons_refused {line : Line} (bad : ¬line.WellFormed) (s : Settings)
    (number : Nat) (rest : List Line) :
    ∃ cause, line.Refused number cause ∧
      loadLines s number (line :: rest) = (s, some cause) := by
  cases line with
  | nothing => exact absurd .nothing bad
  | assignment name value => exact absurd (.assignment name value) bad
  | malformed => exact ⟨_, .malformed, rfl⟩
  | emptyName => exact ⟨_, .emptyName, rfl⟩

theorem loadLines_append {before : List Line} (good : ∀ line ∈ before, line.WellFormed)
    (s : Settings) (number : Nat) (after : List Line) :
    loadLines s number (before ++ after) =
      loadLines (s.setAll (before.filterMap Line.assigned?)) (number + before.length) after := by
  induction before generalizing s number with
  | nil => rfl
  | cons line rest ih =>
    obtain ⟨here, others⟩ := List.forall_mem_cons.1 good
    have order : (line :: rest).filterMap Line.assigned? =
        line.assigned?.toList ++ rest.filterMap Line.assigned? := by
      cases here <;> rfl
    have places : number + 1 + rest.length = number + (line :: rest).length := by
      rw [List.length_cons]; omega
    rw [List.cons_append, loadLines_cons here, ih others, order, Settings.setAll_append, places]

theorem exists_refused {lines : List Line} (bad : ¬∀ line ∈ lines, line.WellFormed) :
    ∃ before line after, lines = before ++ line :: after ∧
      (∀ earlier ∈ before, earlier.WellFormed) ∧ ¬line.WellFormed := by
  induction lines with
  | nil => exact absurd (List.forall_mem_nil _) bad
  | cons line rest ih =>
    by_cases here : line.WellFormed
    · obtain ⟨before, stop, after, rfl, good, stops⟩ := ih fun good =>
        bad (List.forall_mem_cons.2 ⟨here, good⟩)
      exact ⟨line :: before, stop, after, rfl, List.forall_mem_cons.2 ⟨here, good⟩, stops⟩
    · exact ⟨[], line, rest, rfl, List.forall_mem_nil _, here⟩

theorem loadLines_refused {lines : List Line} (bad : ¬∀ line ∈ lines, line.WellFormed)
    (s : Settings) (number : Nat) :
    ∃ before line after cause, lines = before ++ line :: after ∧
      (∀ earlier ∈ before, earlier.WellFormed) ∧ line.Refused (number + before.length) cause ∧
      loadLines s number lines = (s.setAll (before.filterMap Line.assigned?), some cause) := by
  obtain ⟨before, line, after, rfl, good, stops⟩ := exists_refused bad
  obtain ⟨cause, refused, stopped⟩ := loadLines_cons_refused stops
    (s.setAll (before.filterMap Line.assigned?)) (number + before.length) after
  exact ⟨before, line, after, cause, rfl, good, refused, by rw [loadLines_append good, stopped]⟩

theorem loadLines_eq_ok_iff {s loaded : Settings} {number : Nat} {lines : List Line} :
    loadLines s number lines = (loaded, none) ↔
      (∀ line ∈ lines, line.WellFormed) ∧ loaded = s.setAll (lines.filterMap Line.assigned?) := by
  by_cases good : ∀ line ∈ lines, line.WellFormed
  · have all := loadLines_append good s number []
    rw [List.append_nil] at all
    rw [all]
    exact ⟨fun same => ⟨good, (congrArg Prod.fst same).symm⟩, fun ⟨_, same⟩ => same ▸ rfl⟩
  · obtain ⟨_, _, _, cause, -, -, -, stopped⟩ := loadLines_refused good s number
    rw [stopped]
    exact ⟨fun same => absurd (congrArg Prod.snd same) nofun, fun ⟨all, _⟩ => absurd all good⟩

/-- Loading ends without an error just where every line is well formed, and has then made
the assignments of all the lines in their order. -/
theorem load_eq_ok_iff {s loaded : Settings} {content : String} :
    load s content = (loaded, none) ↔
      ∃ readings,
        List.Forall₂ (fun line reading => Reads line.toList reading) (Text.lines content)
          readings ∧
        (∀ reading ∈ readings, reading.WellFormed) ∧
        loaded = s.setAll (readings.filterMap Line.assigned?) := by
  simp only [forall₂_reads_iff, exists_eq_left]
  rw [load, loadLines_eq_ok_iff, linesOf]

end InventoryQuery.EnvFile
