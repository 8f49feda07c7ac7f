import InventoryQuery.Shell.EnvFile
import Mathlib.Data.List.Basic

/-! How a line of a file of settings is read. The parts that the reader cuts out of a line
are told by how the line is put together from them. -/
namespace InventoryQuery.EnvFile

variable {cs : List Char}

theorem splitAssignment?_eq_some_iff {cs name value : List Char} :
    splitAssignment? cs = some (name, value) ↔ cs = name ++ '=' :: value ∧ '=' ∉ name := by
  constructor
  · intro split
    rw [splitAssignment?] at split
    cases found : cs.dropWhile (· != '=') with
    | nil => simp [found] at split
    | cons c after =>
      have sign := List.head?_dropWhile_not (· != '=') cs
      obtain rfl : c = '=' := by simpa [found] using sign
      obtain ⟨rfl, rfl⟩ : cs.takeWhile (· != '=') = name ∧ after = value := by
        simpa [found] using split
      refine ⟨?_, fun inside => ?_⟩
      · rw [← found, List.takeWhile_append_dropWhile]
      · simpa using List.all_eq_true.1 List.all_takeWhile _ inside
  · rintro ⟨rfl, absent⟩
    have before : ∀ c ∈ name, (c != '=') = true := fun c member =>
      bne_iff_ne.2 fun same => absent (same ▸ member)
    rw [splitAssignment?, List.dropWhile_append_of_pos before,
      List.takeWhile_append_of_pos before]
    simp

theorem splitAssignment?_eq_none_iff : splitAssignment? cs = none ↔ '=' ∉ cs := by
  constructor
  · intro failed inside
    obtain ⟨name, value, split, first⟩ := List.eq_append_cons_of_mem inside
    exact Option.eq_none_iff_forall_ne_some.1 failed _
      (splitAssignment?_eq_some_iff.2 ⟨split, first⟩)
  · intro absent
    refine Option.eq_none_iff_forall_ne_some.2 fun ⟨name, value⟩ split => absent ?_
    rw [(splitAssignment?_eq_some_iff.1 split).1]
    exact List.mem_append_right _ List.mem_cons_self

/-- What is left of a text when one word `export` in front of it is removed. -/
inductive Unexported : List Char → List Char → Prop
  | word (rest : List Char) : Unexported ("export ".toList ++ rest) rest
  | plain {cs : List Char} (other : ¬"export ".toList <+: cs) : Unexported cs cs

theorem exportWord_eq : exportWord = "export ".toList := by decide

theorem dropExport_eq_iff {rest : List Char} : dropExport cs = rest ↔ Unexported cs rest := by
  constructor
  · rintro rfl
    rw [dropExport, exportWord_eq]
    split
    next found =>
      obtain ⟨rest, rfl⟩ := List.isPrefixOf_iff_prefix.1 found
      rw [List.drop_left]
      exact .word rest
    next other => exact .plain (mt List.isPrefixOf_iff_prefix.2 other)
  · rintro (_ | other)
    · rw [dropExport, exportWord_eq, if_pos (List.isPrefixOf_iff_prefix.2 (List.prefix_append _ _)),
        List.drop_left]
    · rw [dropExport, exportWord_eq, if_neg (mt List.isPrefixOf_iff_prefix.1 other)]

/-- What a text says when one pair of quotes of either kind is taken off it. -/
inductive Unquoted : List Char → List Char → Prop
  | quoted {quote : Char} (mark : quote ∈ ['"', '\'']) (inside : List Char) :
    Unquoted (quote :: (inside ++ [quote])) inside
  | plain {cs : List Char}
    (bare : ∀ quote ∈ ['"', '\''], ∀ inside, cs ≠ quote :: (inside ++ [quote])) : Unquoted cs cs

theorem unquoteBy?_eq_some_iff {quote : Char} {inside : List Char} :
    unquoteBy? quote cs = some inside ↔ cs = quote :: (inside ++ [quote]) := by
  constructor
  · intro found
    rw [unquoteBy?] at found
    split at found
    next ends =>
      obtain ⟨long, first, last⟩ := ends
      obtain ⟨rest, rfl⟩ := List.head?_eq_some_iff.1 first
      obtain ⟨front, rfl⟩ : ∃ front, rest = front ++ [quote] := by
        cases rest with
        | nil => simp at long
        | cons c rest => exact List.getLast?_eq_some_iff.1 (by simpa using last)
      simpa using found
    · cases found
  · rintro rfl
    have last : (quote :: (inside ++ [quote])).getLast? = some quote := by
      rw [← List.cons_append, List.getLast?_concat]
    rw [unquoteBy?, if_pos ⟨by simp, rfl, last⟩]
    simp

theorem unquoteBy?_eq_none_iff {quote : Char} :
    unquoteBy? quote cs = none ↔ ∀ inside, cs ≠ quote :: (inside ++ [quote]) := by
  rw [Option.eq_none_iff_forall_ne_some]
  exact forall_congr' fun inside => not_congr unquoteBy?_eq_some_iff

theorem unquote_eq_iff {inside : List Char} : unquote cs = inside ↔ Unquoted cs inside := by
  constructor
  · rintro rfl
    rw [unquote]
    cases double : unquoteBy? '"' cs with
    | some inside =>
      obtain rfl := unquoteBy?_eq_some_iff.1 double
      exact .quoted (by simp) inside
    | none =>
      cases single : unquoteBy? '\'' cs with
      | some inside =>
        obtain rfl := unquoteBy?_eq_some_iff.1 single
        exact .quoted (by simp) inside
      | none =>
        exact .plain (List.forall_mem_cons.2 ⟨unquoteBy?_eq_none_iff.1 double,
          List.forall_mem_singleton.2 (unquoteBy?_eq_none_iff.1 single)⟩)
  · rintro (⟨mark, inside⟩ | bare)
    · rcases List.mem_pair.1 mark with rfl | rfl
      · rw [unquote, unquoteBy?_eq_some_iff.2 rfl, Option.some_or, Option.getD_some]
      · have other : unquoteBy? '"' ('\'' :: (inside ++ ['\''])) = none :=
          unquoteBy?_eq_none_iff.2 fun _ same => absurd (List.cons.inj same).1 (by decide)
        rw [unquote, other, Option.none_or, unquoteBy?_eq_some_iff.2 rfl, Option.getD_some]
    · rw [unquote, unquoteBy?_eq_none_iff.2 (bare _ (by simp)),
        unquoteBy?_eq_none_iff.2 (bare _ (by simp)), Option.none_or, Option.getD_none]

theorem Line.ofText_nothing {cs : List Char}
    (nothing : Text.trimmed cs = [] ∨ (Text.trimmed cs).head? = some '#') :
    ofText cs = .nothing := by
  rw [ofText]
  split
  · rfl
  · rfl
  next visible text =>
    rcases nothing with blank | hash
    · exact absurd blank visible
    · obtain ⟨rest, same⟩ := List.head?_eq_some_iff.1 hash
      exact absurd same (text rest)

theorem Line.ofText_text {cs : List Char} (visible : Text.trimmed cs ≠ [])
    (text : (Text.trimmed cs).head? ≠ some '#') :
    ofText cs =
      match splitAssignment? (dropExport (Text.trimmed cs)) with
      | none => .malformed
      | some (name, value) =>
        if Text.trimmed name = [] then .emptyName
        else .assignment (Text.trimmed name) (unquote (Text.trimmed value)) := by
  rw [ofText]
  split
  next blank => exact absurd blank visible
  next hash => exact absurd (by rw [hash]; rfl) text
  · rfl

/-- A line that is neither blank nor a comment, and its text without `export`. -/
structure Carries (cs rest : List Char) : Prop where
  visible : Text.trimmed cs ≠ []
  text : (Text.trimmed cs).head? ≠ some '#'
  content : Unexported (Text.trimmed cs) rest

theorem Carries.unique {rest other : List Char} (carries : Carries cs rest)
    (also : Carries cs other) : rest = other :=
  (dropExport_eq_iff.2 carries.content).symm.trans (dropExport_eq_iff.2 also.content)

/-- How a line is read. The name is what stands before the first equals sign and the value is
what stands behind it, each without the blanks around it. -/
inductive Reads (cs : List Char) : Line → Prop
  | blank (nothing : Text.trimmed cs = []) : Reads cs .nothing
  | comment (hash : (Text.trimmed cs).head? = some '#') : Reads cs .nothing
  | malformed {rest : List Char} (carries : Carries cs rest) (unsigned : '=' ∉ rest) :
    Reads cs .malformed
  | emptyName {name value : List Char} (carries : Carries cs (name ++ '=' :: value))
    (first : '=' ∉ name) (blank : Text.trimmed name = []) : Reads cs .emptyName
  | assignment {name value inside : List Char} (carries : Carries cs (name ++ '=' :: value))
    (first : '=' ∉ name) (visible : Text.trimmed name ≠ [])
    (unquoted : Unquoted (Text.trimmed value) inside) :
    Reads cs (.assignment (Text.trimmed name) inside)

theorem Carries.ofText {rest : List Char} (carries : Carries cs rest) :
    Line.ofText cs =
      match splitAssignment? rest with
      | none => .malformed
      | some (name, value) =>
        if Text.trimmed name = [] then .emptyName
        else .assignment (Text.trimmed name) (unquote (Text.trimmed value)) := by
  rw [Line.ofText_text carries.visible carries.text, dropExport_eq_iff.2 carries.content]

theorem ofText_of_reads {line : Line} (reads : Reads cs line) : Line.ofText cs = line := by
  cases reads with
  | blank nothing => exact Line.ofText_nothing (.inl nothing)
  | comment hash => exact Line.ofText_nothing (.inr hash)
  | malformed carries unsigned => rw [carries.ofText, splitAssignment?_eq_none_iff.2 unsigned]
  | emptyName carries first blank =>
    rw [carries.ofText, splitAssignment?_eq_some_iff.2 ⟨rfl, first⟩]
    exact if_pos blank
  | assignment carries first visible unquoted =>
    rw [carries.ofText, splitAssignment?_eq_some_iff.2 ⟨rfl, first⟩, ← unquote_eq_iff.2 unquoted]
    exact if_neg visible

theorem exists_reads (cs : List Char) : ∃ line, Reads cs line := by
  by_cases nothing : Text.trimmed cs = []
  · exact ⟨_, .blank nothing⟩
  by_cases hash : (Text.trimmed cs).head? = some '#'
  · exact ⟨_, .comment hash⟩
  have carries : Carries cs (dropExport (Text.trimmed cs)) :=
    ⟨nothing, hash, dropExport_eq_iff.1 rfl⟩
  generalize dropExport (Text.trimmed cs) = rest at carries
  by_cases sign : '=' ∈ rest
  · obtain ⟨name, value, rfl, first⟩ := List.eq_append_cons_of_mem sign
    by_cases blank : Text.trimmed name = []
    · exact ⟨_, .emptyName carries first blank⟩
    · exact ⟨_, .assignment carries first blank (unquote_eq_iff.1 rfl)⟩
  · exact ⟨_, .malformed carries sign⟩

theorem ofText_eq_iff {line : Line} : Line.ofText cs = line ↔ Reads cs line := by
  refine ⟨?_, ofText_of_reads⟩
  rintro rfl
  obtain ⟨line, reads⟩ := exists_reads cs
  rwa [ofText_of_reads reads]

end InventoryQuery.EnvFile
