import InventoryQuery.Filter.Grammar
import InventoryQuery.Proofs.Filter.Runs

/-! What combined recognizers find in terms of their parts. No recognizer of the
grammar moves back, so members of a group begin behind its connective, and an
expression is a group of expressions or a comparison without further condition. -/
namespace InventoryQuery.Filter

namespace Cursor

@[simp] theorem rest_advance (c : Cursor) (taken rest : List Char) :
    (c.advance taken rest).rest = rest := rfl

@[simp] theorem offset_advance (c : Cursor) (taken rest : List Char) :
    (c.advance taken rest).offset = c.offset + Text.byteLength taken := rfl

@[simp] theorem advance_advance (c : Cursor) (a b middle rest : List Char) :
    (c.advance a middle).advance b rest = c.advance (a ++ b) rest := by
  simp [advance, Nat.add_assoc]

theorem upTo_advance {c : Cursor} {taken rest : List Char} (whole : c.rest = taken ++ rest) :
    c.upTo (c.advance taken rest) = taken := by
  simp [upTo, whole]

/-- From a cursor a text in front of it leads to another one. -/
structure Leads (c : Cursor) (taken : List Char) (d : Cursor) : Prop where
  whole : c.rest = taken ++ d.rest
  offset : d.offset = c.offset + Text.byteLength taken

theorem Leads.refl (c : Cursor) : c.Leads [] c := ⟨rfl, rfl⟩

theorem Leads.trans {c d e : Cursor} {a b : List Char} (first : c.Leads a d)
    (second : d.Leads b e) : c.Leads (a ++ b) e := by
  refine ⟨by rw [first.whole, second.whole, List.append_assoc], ?_⟩
  rw [second.offset, first.offset, Text.byteLength_append, Nat.add_assoc]

theorem leads_advance {c : Cursor} {taken rest : List Char} (whole : c.rest = taken ++ rest) :
    c.Leads taken (c.advance taken rest) := ⟨whole, rfl⟩

end Cursor

namespace Recognizer

variable {a a' b b' : Recognizer} {c next last : Cursor} {ps : List Phrase}

theorem followedBy_found_iff : (followedBy a b c).found = some (ps, last) ↔
    ∃ first next second, (a c).found = some (first, next) ∧
      (b next).found = some (second, last) ∧ ps = first ++ second := by
  rw [found_followedBy]
  constructor
  · intro found
    obtain ⟨⟨first, next⟩, left, found⟩ := Option.bind_eq_some_iff.1 found
    obtain ⟨⟨second, _⟩, right, same⟩ := Option.map_eq_some_iff.1 found
    simp only [Prod.mk.injEq] at same
    obtain ⟨rfl, rfl⟩ := same
    exact ⟨first, next, second, left, right, rfl⟩
  · rintro ⟨first, next, second, left, right, rfl⟩
    simp [left, right]

theorem followedBy_lost (lost : (a c).found = none) : (followedBy a b c).found = none := by
  simp [found_followedBy, lost]

theorem followedBy_lost_second {first : List Phrase} (left : (a c).found = some (first, next))
    (lost : (b next).found = none) : (followedBy a b c).found = none := by
  simp [found_followedBy, left, lost]

theorem orElse_found (found : (a c).found = some (ps, next)) :
    (orElse a b c).found = some (ps, next) := by
  simp [found_orElse, found]

theorem orElse_lost (lost : (a c).found = none) : (orElse a b c).found = (b c).found := by
  simp [found_orElse, lost]

theorem orElse_found_iff : (orElse a b c).found = some (ps, next) ↔
    (a c).found = some (ps, next) ∨ (a c).found = none ∧ (b c).found = some (ps, next) := by
  rw [found_orElse, Option.or_eq_some_iff]

theorem skip_found_iff {l : Lexeme} : (skip l c).found = some (ps, next) ↔
    ∃ taken rest, l c.rest = some (taken, rest) ∧ ps = [] ∧ next = c.advance taken rest := by
  simp only [skip, Option.map_eq_some_iff, Prod.mk.injEq, Prod.exists]
  grind

theorem skip_lost {l : Lexeme} (read : l c.rest = none) : (skip l c).found = none := by
  simp [skip, read]

theorem token_found_iff {r : Rule} {l : Lexeme} : (token r l c).found = some (ps, next) ↔
    ∃ taken rest, l c.rest = some (taken, rest) ∧ next = c.advance taken rest ∧
      ps = [⟨r, c.offset, next.offset, taken, []⟩] := by
  rw [token]
  cases found : l c.rest with
  | none => simp
  | some split =>
    obtain ⟨taken, rest⟩ := split
    simp only [Option.some.injEq, Prod.mk.injEq]
    grind

theorem token_lost {r : Rule} {l : Lexeme} (read : l c.rest = none) :
    (token r l c).found = none := by
  simp [token, read]

theorem followedBy_skip_iff {l : Lexeme} : (followedBy (skip l) b c).found = some (ps, last) ↔
    ∃ taken rest, l c.rest = some (taken, rest) ∧
      (b (c.advance taken rest)).found = some (ps, last) := by
  rw [followedBy_found_iff]
  simp only [skip_found_iff]
  constructor
  · rintro ⟨_, _, second, ⟨taken, rest, read, rfl, rfl⟩, right, rfl⟩
    exact ⟨taken, rest, read, right⟩
  · rintro ⟨taken, rest, read, right⟩
    exact ⟨[], _, ps, ⟨taken, rest, read, rfl, rfl⟩, right, rfl⟩

theorem followedBy_token_iff {r : Rule} {l : Lexeme} :
    (followedBy (token r l) b c).found = some (ps, last) ↔
    ∃ taken rest more, l c.rest = some (taken, rest) ∧
      (b (c.advance taken rest)).found = some (more, last) ∧
      ps = ⟨r, c.offset, c.offset + Text.byteLength taken, taken, []⟩ :: more := by
  rw [followedBy_found_iff]
  simp only [token_found_iff]
  constructor
  · rintro ⟨_, _, second, ⟨taken, rest, read, rfl, rfl⟩, right, rfl⟩
    exact ⟨taken, rest, second, read, right, rfl⟩
  · rintro ⟨taken, rest, more, read, right, rfl⟩
    exact ⟨_, _, more, ⟨taken, rest, read, rfl, rfl⟩, right, rfl⟩

theorem followedBy_nothing_iff :
    (followedBy a nothing c).found = some (ps, last) ↔ (a c).found = some (ps, last) := by
  rw [followedBy_found_iff]
  constructor
  · rintro ⟨first, next, second, left, right, rfl⟩
    obtain ⟨rfl, rfl⟩ : [] = second ∧ next = last := by simpa using right
    simpa using left
  · intro found
    exact ⟨ps, last, [], found, rfl, by simp⟩

theorem rule_found_iff {r : Rule} : (rule r a c).found = some (ps, next) ↔
    ∃ parts, (a c).found = some (parts, next) ∧
      ps = [⟨r, c.offset, next.offset, c.upTo next, parts⟩] := by
  rw [found_rule, Option.map_eq_some_iff]
  simp only [Prod.mk.injEq, Prod.exists]
  grind

theorem rule_found {r : Rule} {parts : List Phrase} (body : (a c).found = some (parts, next)) :
    (rule r a c).found = some ([⟨r, c.offset, next.offset, c.upTo next, parts⟩], next) :=
  rule_found_iff.2 ⟨parts, body, rfl⟩

theorem rule_lost_iff {r : Rule} : (rule r a c).found = none ↔ (a c).found = none := by
  simp [found_rule]

theorem repeated_lost (lost : (a c).found = none) : (repeated a c).found = some ([], c) := by
  rw [repeated]
  split
  · rfl
  next found => simp [lost] at found

theorem repeated_found {qs : List Phrase} (step : (a c).found = some (ps, next))
    (shorter : next.rest.length < c.rest.length)
    (more : (repeated a next).found = some (qs, last)) :
    (repeated a c).found = some (ps ++ qs, last) := by
  rw [repeated]
  split
  next lost => simp [lost] at step
  next found =>
    obtain ⟨rfl, rfl⟩ : ps = _ ∧ next = _ := by simpa [step] using found
    simp [shorter, more]

/-- A recognizer goes on right behind the text that it took. -/
def Advances (a : Recognizer) : Prop :=
  ∀ ⦃c ps next⦄, (a c).found = some (ps, next) → ∃ taken, c.Leads taken next

theorem Advances.length_le (moves : Advances a) (found : (a c).found = some (ps, next)) :
    next.rest.length ≤ c.rest.length := by
  obtain ⟨taken, leads⟩ := moves found
  simp [leads.whole]

theorem Advances.leads (moves : Advances a) (found : (a c).found = some (ps, next))
    {text : List Char} (whole : c.rest = text ++ next.rest) : c.Leads text next := by
  obtain ⟨taken, leads⟩ := moves found
  obtain rfl : taken = text := List.append_cancel_right (leads.whole.symm.trans whole)
  exact leads

theorem advances_skip {l : Lexeme} (splits : l.Splits) : Advances (skip l) := by
  intro c ps next found
  obtain ⟨taken, rest, read, -, rfl⟩ := skip_found_iff.1 found
  exact ⟨taken, Cursor.leads_advance (splits read)⟩

theorem advances_token {r : Rule} {l : Lexeme} (splits : l.Splits) : Advances (token r l) := by
  intro c ps next found
  obtain ⟨taken, rest, read, rfl, -⟩ := token_found_iff.1 found
  exact ⟨taken, Cursor.leads_advance (splits read)⟩

theorem advances_followedBy (first : Advances a) (second : Advances b) :
    Advances (followedBy a b) := by
  intro c ps last found
  obtain ⟨_, next, _, left, right, -⟩ := followedBy_found_iff.1 found
  obtain ⟨taken, leads⟩ := first left
  obtain ⟨more, leads'⟩ := second right
  exact ⟨taken ++ more, leads.trans leads'⟩

theorem advances_sequence {parts : List Recognizer} (each : ∀ a ∈ parts, Advances a) :
    Advances (sequence parts) := by
  induction parts with
  | nil =>
    intro c ps next found
    obtain ⟨-, rfl⟩ : [] = ps ∧ c = next := by simpa [sequence] using found
    exact ⟨[], Cursor.Leads.refl c⟩
  | cons a parts ih =>
    rw [List.forall_mem_cons] at each
    exact advances_followedBy each.1 (ih each.2)

theorem advances_choice {parts : List Recognizer} (each : ∀ a ∈ parts, Advances a) :
    Advances (choice parts) := by
  induction parts with
  | nil =>
    intro c ps next found
    simp [choice] at found
  | cons a parts ih =>
    rw [List.forall_mem_cons] at each
    intro c ps next found
    rcases orElse_found_iff.1 found with found | ⟨-, found⟩
    · exact each.1 found
    · exact ih each.2 found

theorem advances_rule {r : Rule} (body : Advances a) : Advances (rule r a) := by
  intro c ps next found
  obtain ⟨parts, found, -⟩ := rule_found_iff.1 found
  exact body found

theorem advances_repeated (body : Advances a) : Advances (repeated a) := by
  intro c ps last found
  induction h : c.rest.length using Nat.strongRecOn generalizing c ps with
  | _ n ih =>
    subst h
    rw [repeated] at found
    split at found
    · obtain ⟨-, rfl⟩ : [] = ps ∧ c = last := by simpa using found
      exact ⟨[], Cursor.Leads.refl c⟩
    next phrases next step =>
      obtain ⟨taken, leads⟩ := body step
      split at found
      next shorter =>
        obtain ⟨⟨others, _⟩, more, same⟩ := Option.map_eq_some_iff.1 found
        simp only [Prod.mk.injEq] at same
        obtain ⟨-, rfl⟩ := same
        obtain ⟨further, leads'⟩ := ih _ shorter more rfl
        exact ⟨taken ++ further, leads.trans leads'⟩
      · simp only [Option.some.injEq, Prod.mk.injEq] at found
        obtain ⟨-, rfl⟩ := found
        exact ⟨taken, leads⟩

theorem followedBy_congr (first : a c = a' c)
    (second : ∀ ps next, (a c).found = some (ps, next) → b next = b' next) :
    followedBy a b c = followedBy a' b' c := by
  unfold followedBy
  rw [← first]
  cases found : (a c).found with
  | none => simp only [found]
  | some split => simp only [found, second split.1 split.2 found]

theorem rule_congr {r : Rule} (body : a c = a' c) : rule r a c = rule r a' c := by
  unfold rule
  rw [body]

theorem repeated_congr
    (body : ∀ d : Cursor, d.rest.length ≤ c.rest.length → a d = a' d) :
    repeated a c = repeated a' c := by
  -- By induction on what is left, which a step has to shorten before another one is made.
  induction h : c.rest.length using Nat.strongRecOn generalizing c with
  | _ n ih =>
    subst h
    rw [repeated, repeated, ← body c (Nat.le_refl _)]
    split
    · rfl
    next phrases next found =>
      split
      next shorter =>
        rw [ih _ shorter (fun d bound => body d (by omega)) rfl]
      · rfl

end Recognizer

end InventoryQuery.Filter
