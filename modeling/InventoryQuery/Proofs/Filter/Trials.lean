import InventoryQuery.Proofs.Filter.Attempts

/-! What becomes of the trials that a reading leaves. Trials that lie before an offset do not
touch a blame there, so once the trials at an offset have come to a blame, neither what was
tried before it nor the rules given up around it change the blame any more. -/
namespace InventoryQuery.Filter

variable {p : Nat} {ts us : List Trial} {r : Rule}

namespace Trial

/-- Whether every rule of some trials failed before an offset. -/
def Before (p : Nat) (ts : List Trial) : Prop := ∀ x ∈ attemptsOf ts, x.2 < p

@[simp] theorem before_nil : Before p [] := nofun

@[simp] theorem before_append : Before p (ts ++ us) ↔ Before p ts ∧ Before p us := by
  rw [Before, attemptsOf_append, List.forall_mem_append]
  rfl

@[simp] theorem before_cons {offset : Nat} {inner : List Trial} :
    Before p (⟨r, offset, inner⟩ :: ts) ↔ (offset < p ∧ Before p inner) ∧ Before p ts := by
  rw [Before, attemptsOf, attempts, List.forall_mem_append, List.forall_mem_cons]
  rfl

end Trial

namespace Blame

open Trial (Before)

variable {b : Blame}

theorem addTrials_append (b : Blame) (ts us : List Trial) :
    addTrials b (ts ++ us) = addTrials (addTrials b ts) us := by
  induction ts generalizing b with
  | nil => rfl
  | cons t ts ih => rw [List.cons_append, addTrials, addTrials, ih]

theorem offset_note_lt {offset kept : Nat} (low : b.offset < p) (before : offset < p) :
    (b.note r offset kept).offset < p := by
  unfold note
  split
  · exact low
  · split <;> exact before

mutual

theorem offset_addTrial_lt {b : Blame} (low : b.offset < p) : (t : Trial) → Before p [t] →
    (addTrial b t).offset < p
  | ⟨r, offset, inner⟩, before => by
    rw [Trial.before_cons] at before
    have inside := offset_addTrials_lt low inner before.1.2
    rw [addTrial]
    split
    · exact inside
    · exact offset_note_lt inside before.1.1

theorem offset_addTrials_lt {b : Blame} (low : b.offset < p) : (ts : List Trial) →
    Before p ts → (addTrials b ts).offset < p
  | [], _ => low
  | t :: ts, before => by
    have split : t :: ts = [t] ++ ts := rfl
    rw [split, Trial.before_append] at before
    exact offset_addTrials_lt (offset_addTrial_lt low t before.1) ts before.2

end

theorem note_of_lt {offset : Nat} (before : offset < b.offset) (kept : Nat) :
    b.note r offset kept = b := if_pos before

theorem countAt_of_lt {offset : Nat} (before : offset < b.offset) : b.countAt offset = 0 :=
  if_neg (Nat.ne_of_gt before)

mutual

theorem addTrial_of_before {b : Blame} : (t : Trial) → Before b.offset [t] → addTrial b t = b
  | ⟨r, offset, inner⟩, before => by
    rw [Trial.before_cons] at before
    rw [addTrial, addTrials_of_before inner before.1.2, countAt_of_lt before.1.1,
      if_neg (by simp), note_of_lt before.1.1]

theorem addTrials_of_before {b : Blame} : (ts : List Trial) → Before b.offset ts →
    addTrials b ts = b
  | [], _ => rfl
  | t :: ts, before => by
    have split : t :: ts = [t] ++ ts := rfl
    rw [split, Trial.before_append] at before
    rw [addTrials, addTrial_of_before t before.1, addTrials_of_before ts before.2]

end

/-- Whether trials come to a blame, whatever was noted before its offset. -/
def Settled (b : Blame) (ts : List Trial) : Prop :=
  ∀ start : Blame, start.offset < b.offset → addTrials start ts = b

theorem Settled.prepend (before : Before b.offset ts) (settled : b.Settled us) :
    b.Settled (ts ++ us) := fun start low => by
  rw [addTrials_append]
  exact settled _ (offset_addTrials_lt low ts before)

theorem Settled.append (settled : b.Settled ts) (before : Before b.offset us) :
    b.Settled (ts ++ us) := fun start low => by
  rw [addTrials_append, settled start low, addTrials_of_before us before]

theorem Settled.inside (settled : b.Settled ts) (r : Rule) {offset : Nat}
    (before : offset < b.offset) : b.Settled [⟨r, offset, ts⟩] := fun start low => by
  rw [addTrials, addTrials, addTrial, settled start low, countAt_of_lt before,
    if_neg (by simp), note_of_lt before]

theorem Settled.ofTrials (settled : b.Settled ts) (moved : 0 < b.offset) : ofTrials ts = b :=
  settled none moved

def leaves (offset : Nat) (rules : List Rule) : List Trial := rules.map fun r => ⟨r, offset, []⟩

theorem addTrial_leaf (noted : List Rule) (offset : Nat) (r : Rule) :
    addTrial ⟨offset, noted⟩ ⟨r, offset, []⟩ = ⟨offset, noted ++ [r]⟩ := by
  simp [addTrial, addTrials, countAt, note]

theorem addTrials_leaves (noted : List Rule) (offset : Nat) (rules : List Rule) :
    addTrials ⟨offset, noted⟩ (leaves offset rules) = ⟨offset, noted ++ rules⟩ := by
  induction rules generalizing noted with
  | nil => simp [leaves, addTrials]
  | cons r rules ih =>
    rw [leaves, List.map_cons, addTrials, addTrial_leaf]
    exact (ih _).trans (by simp)

theorem settled_leaves (offset : Nat) {rules : List Rule} (nonempty : rules ≠ []) :
    (⟨offset, rules⟩ : Blame).Settled (leaves offset rules) := by
  intro start low
  obtain ⟨r, rules, rfl⟩ := List.exists_cons_of_ne_nil nonempty
  have first : addTrial start ⟨r, offset, []⟩ = ⟨offset, [r]⟩ := by
    simp [addTrial, addTrials, countAt, note, Nat.ne_of_lt low, Nat.not_lt_of_lt low,
      Nat.ne_of_gt low]
  rw [leaves, List.map_cons, addTrials, first]
  exact addTrials_leaves [r] offset rules

theorem settled_alternatives (r : Rule) (offset : Nat) {rules : List Rule}
    (several : 1 < rules.length) :
    (⟨offset, [r]⟩ : Blame).Settled [⟨r, offset, leaves offset rules⟩] := by
  intro start low
  have nonempty : rules ≠ [] := List.ne_nil_of_length_pos (by omega)
  have here : (⟨offset, rules⟩ : Blame).countAt offset = rules.length := if_pos rfl
  have none : start.countAt offset = 0 := if_neg (Nat.ne_of_lt low)
  -- More than one rule was noted inside, so the rule that began there replaces them.
  rw [addTrials, addTrials, addTrial, settled_leaves offset nonempty start low, here, none,
    if_neg (by omega)]
  simp [note]

end Blame

namespace Recognizer

variable {a b : Recognizer} {c next : Cursor} {ps : List Phrase}

@[simp] theorem trials_nothing (c : Cursor) : (nothing c).trials = [] := rfl

theorem trials_token_found {l : Lexeme} (found : (token r l c).found = some (ps, next)) :
    (token r l c).trials = [] := by
  obtain ⟨taken, rest, read, -⟩ := token_found_iff.1 found
  rw [token, read]

theorem trials_token_lost {l : Lexeme} (lost : (token r l c).found = none) :
    (token r l c).trials = [⟨r, c.offset, []⟩] := by
  rw [token] at lost ⊢
  cases read : l c.rest with
  | none => rfl
  | some split => simp [read] at lost

theorem trials_followedBy_found (found : (a c).found = some (ps, next)) :
    (followedBy a b c).trials = (a c).trials ++ (b next).trials := by
  rw [followedBy, found]

theorem trials_followedBy_lost (lost : (a c).found = none) :
    (followedBy a b c).trials = (a c).trials := by
  rw [followedBy, lost]

theorem trials_orElse_lost (lost : (a c).found = none) :
    (orElse a b c).trials = (a c).trials ++ (b c).trials := by
  rw [orElse, lost]

theorem trials_rule_found (found : (a c).found = some (ps, next)) :
    (rule r a c).trials = (a c).trials := by
  rw [rule, found]

theorem trials_rule_lost (lost : (a c).found = none) :
    (rule r a c).trials = [⟨r, c.offset, (a c).trials⟩] := by
  rw [rule, lost]

theorem trials_repeated_lost (lost : (a c).found = none) :
    (repeated a c).trials = (a c).trials := by
  rw [repeated]
  split
  · rfl
  next found => simp [lost] at found

theorem trials_repeated_found (step : (a c).found = some (ps, next))
    (shorter : next.rest.length < c.rest.length) :
    (repeated a c).trials = (a c).trials ++ (repeated a next).trials := by
  rw [repeated]
  split
  next lost => simp [lost] at step
  next found =>
    obtain ⟨rfl, rfl⟩ : ps = _ ∧ next = _ := by simpa [step] using found
    simp [shorter]

theorem tries_repeated_lost {P : Rule → Nat → Prop} (lost : (a c).found = none)
    (first : Tries P a c) : Tries P (repeated a) c := by
  rw [Tries, trials_repeated_lost lost]
  exact first

theorem tries_repeated_found {P : Rule → Nat → Prop} (step : (a c).found = some (ps, next))
    (shorter : next.rest.length < c.rest.length) (first : Tries P a c)
    (more : Tries P (repeated a) next) : Tries P (repeated a) c := by
  rw [Tries, trials_repeated_found step shorter, Trial.attemptsOf_append]
  exact List.forall_mem_append.2 ⟨first, more⟩

/-- Whether all rules that fail on a reading do so before an offset. -/
abbrev Early (p : Nat) (a : Recognizer) (c : Cursor) : Prop := Tries (fun _ offset => offset < p) a c

end Recognizer

end InventoryQuery.Filter
