import InventoryQuery.Filter.Parse
import InventoryQuery.Proofs.Filter.Recognition

/-! The rules that fail on the way of a reading, and the blame made of them. A blame
names only rules that failed, each at its own offset, so what holds of every failed
rule holds of the blamed ones; and the failed rules of a combined recognizer are
those of its parts at the cursors that the parts are tried at. -/
namespace InventoryQuery.Filter

mutual

/-- The failed rules of a trial with their offsets, the trial's own rule first. -/
def Trial.attempts : Trial → List (Rule × Nat)
  | ⟨r, offset, inner⟩ => (r, offset) :: Trial.attemptsOf inner

def Trial.attemptsOf : List Trial → List (Rule × Nat)
  | [] => []
  | trial :: rest => trial.attempts ++ Trial.attemptsOf rest

end

theorem Trial.attemptsOf_append (ts us : List Trial) :
    attemptsOf (ts ++ us) = attemptsOf ts ++ attemptsOf us := by
  induction ts with
  | nil => rfl
  | cons t ts ih => rw [List.cons_append, attemptsOf, attemptsOf, ih, List.append_assoc]

namespace Blame

variable {P : Rule → Nat → Prop}

def Each (P : Rule → Nat → Prop) (b : Blame) : Prop := ∀ r ∈ b.rules, P r b.offset

theorem each_note {b : Blame} (each : b.Each P) {r : Rule} {offset : Nat} (here : P r offset)
    (kept : Nat) : (b.note r offset kept).Each P := by
  unfold note
  split
  · exact each
  · split
    next same =>
      intro s member
      rcases List.mem_append.1 member with member | member
      · exact same ▸ each s (List.mem_of_mem_take member)
      · exact List.mem_singleton.1 member ▸ here
    · intro s member
      exact List.mem_singleton.1 member ▸ here

mutual

theorem each_addTrial {b : Blame} (each : b.Each P) : (t : Trial) →
    (∀ x ∈ t.attempts, P x.1 x.2) → (addTrial b t).Each P
  | ⟨r, offset, inner⟩, holds => by
    rw [Trial.attempts, List.forall_mem_cons] at holds
    have inside := each_addTrials each inner holds.2
    rw [addTrial]
    split
    · exact inside
    · exact each_note inside holds.1 _

theorem each_addTrials {b : Blame} (each : b.Each P) : (ts : List Trial) →
    (∀ x ∈ Trial.attemptsOf ts, P x.1 x.2) → (addTrials b ts).Each P
  | [], _ => each
  | t :: ts, holds => by
    rw [Trial.attemptsOf, List.forall_mem_append] at holds
    exact each_addTrials (each_addTrial each t holds.1) ts holds.2

end

theorem each_ofTrials {ts : List Trial} (holds : ∀ x ∈ Trial.attemptsOf ts, P x.1 x.2) :
    (ofTrials ts).Each P := each_addTrials (b := none) nofun ts holds

/-- Whether a blame names a rule unless it lies at the start. -/
def Grounded (b : Blame) : Prop := b.offset ≠ 0 → b.rules ≠ []

theorem grounded_note {b : Blame} (grounded : b.Grounded) (r : Rule) (offset kept : Nat) :
    (b.note r offset kept).Grounded := by
  unfold note
  split
  · exact grounded
  · split <;> simp [Grounded]

mutual

theorem grounded_addTrial {b : Blame} (grounded : b.Grounded) : (t : Trial) →
    (addTrial b t).Grounded
  | ⟨r, offset, inner⟩ => by
    have inside := grounded_addTrials grounded inner
    rw [addTrial]
    split
    · exact inside
    · exact grounded_note inside r offset _

theorem grounded_addTrials {b : Blame} (grounded : b.Grounded) : (ts : List Trial) →
    (addTrials b ts).Grounded
  | [] => grounded
  | t :: ts => grounded_addTrials (grounded_addTrial grounded t) ts

end

theorem rules_ofTrials_ne_nil (r : Rule) (inner : List Trial) :
    (ofTrials [⟨r, 0, inner⟩]).rules ≠ [] := by
  have inside := grounded_addTrials (b := none) (fun moved => absurd rfl moved) inner
  rw [ofTrials, addTrials, addTrials, addTrial]
  split
  next one =>
    intro empty
    simp [countAt, empty] at one
  next =>
    unfold note
    split
    next before => exact inside (by omega)
    · split <;> simp

end Blame

namespace Recognizer

variable {P : Rule → Nat → Prop} {a b : Recognizer} {c : Cursor} {r : Rule}

/-- Whether all the rules that fail on a reading have a property at their offsets. -/
def Tries (P : Rule → Nat → Prop) (a : Recognizer) (c : Cursor) : Prop :=
  ∀ x ∈ Trial.attemptsOf (a c).trials, P x.1 x.2

theorem tries_of_eq (same : a c = b c) (tries : Tries P b c) : Tries P a c := by
  rw [Tries, same]
  exact tries

theorem trials_eq_nil (never : Tries (fun _ _ => False) a c) : (a c).trials = [] := by
  rw [Tries] at never
  cases trials : (a c).trials with
  | nil => rfl
  | cons t ts =>
    obtain ⟨r, offset, inner⟩ := t
    rw [trials] at never
    exact (never (r, offset) (by simp [Trial.attemptsOf, Trial.attempts])).elim

theorem tries_skip (l : Lexeme) : Tries P (skip l) c := nofun

theorem tries_token {l : Lexeme} (here : l c.rest = none → P r c.offset) :
    Tries P (token r l) c := by
  rw [Tries, token]
  cases read : l c.rest with
  | none => simpa [Trial.attemptsOf, Trial.attempts] using here read
  | some split => simp [Trial.attemptsOf]

theorem tries_followedBy (first : Tries P a c)
    (second : ∀ ps next, (a c).found = some (ps, next) → Tries P b next) :
    Tries P (followedBy a b) c := by
  rw [Tries, followedBy]
  cases found : (a c).found with
  | none => exact first
  | some split =>
    simp only [Trial.attemptsOf_append, List.forall_mem_append]
    exact ⟨first, second split.1 split.2 found⟩

theorem tries_followedBy_found {next : Cursor} {ps : List Phrase} (first : Tries P a c)
    (found : (a c).found = some (ps, next)) (second : Tries P b next) :
    Tries P (followedBy a b) c :=
  tries_followedBy first fun _ _ also => by
    obtain ⟨-, rfl⟩ := Prod.mk.inj (Option.some.inj (found.symm.trans also))
    exact second

theorem tries_nothing : Tries P nothing c := nofun

theorem tries_failure : Tries P failure c := nofun

theorem tries_orElse (first : Tries P a c) (second : Tries P b c) : Tries P (orElse a b) c := by
  rw [Tries, orElse]
  cases found : (a c).found with
  | none =>
    simp only [Trial.attemptsOf_append, List.forall_mem_append]
    exact ⟨first, second⟩
  | some split => exact first

theorem tries_orElse_found {next : Cursor} {ps : List Phrase}
    (found : (a c).found = some (ps, next)) (first : Tries P a c) :
    Tries P (orElse a b) c := by
  rw [Tries, orElse, found]
  exact first

theorem tries_rule (here : P r c.offset) (body : Tries P a c) : Tries P (rule r a) c := by
  rw [Tries, rule]
  cases found : (a c).found with
  | none =>
    simp only [Trial.attemptsOf, Trial.attempts, List.append_nil, List.forall_mem_cons]
    exact ⟨here, body⟩
  | some split => exact body

theorem tries_repeated (inside : Cursor → Prop) (start : inside c)
    (tries : ∀ d, inside d → Tries P a d)
    (step : ∀ d ps next, inside d → (a d).found = some (ps, next) → inside next) :
    Tries P (repeated a) c := by
  -- By induction on what is left: the body is tried again only behind a step that read on.
  induction h : c.rest.length using Nat.strongRecOn generalizing c with
  | _ n ih =>
    subst h
    rw [Tries, repeated]
    cases found : (a c).found with
    | none => exact tries c start
    | some split =>
      dsimp only
      split
      next shorter =>
        simp only [Trial.attemptsOf_append, List.forall_mem_append]
        exact ⟨tries c start, ih _ shorter (step c _ _ start found) rfl⟩
      · exact tries c start

theorem tries_quotedBy {delimiter : Char} : Tries P (Grammar.quotedBy r delimiter) c :=
  tries_followedBy (tries_skip _) fun _ _ _ => tries_followedBy (tries_token nofun) fun _ _ _ =>
    tries_followedBy (tries_skip _) fun _ _ _ => tries_nothing

end Recognizer

end InventoryQuery.Filter
