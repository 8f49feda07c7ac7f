import InventoryQuery.Filter.Lexeme

/-! Where the lexemes of filter expressions end. A run takes a class of characters
as far as it goes, so what follows it must stop the class. A lexeme is local when
it never looks behind a terminator; such a lexeme reads a word to its end or does
not read it as a terminated lexeme at all. -/
namespace InventoryQuery.Filter

variable {p q : Char → Bool}

def stops (p : Char → Bool) : List Char → Bool
  | [] => true
  | c :: _ => !p c

@[simp] theorem stops_nil : stops p [] = true := rfl

@[simp] theorem stops_cons (c : Char) (cs : List Char) : stops p (c :: cs) = !p c := rfl

theorem stops_mono (wider : ∀ c, p c = true → q c = true) {cs : List Char}
    (stop : stops q cs = true) : stops p cs = true := by
  cases cs with
  | nil => rfl
  | cons c cs =>
    cases here : p c with
    | false => simp [here]
    | true => simp [wider c here] at stop

theorem stops_append (a b : List Char) (stop : stops p b = true) (ne : stops p a = true) :
    stops p (a ++ b) = true := by
  cases a with
  | nil => exact stop
  | cons c cs => exact ne

theorem stops_append_congr {a : List Char} (nonempty : a ≠ []) (b c : List Char) :
    stops p (a ++ b) = stops p (a ++ c) := by
  obtain ⟨d, ds, rfl⟩ := List.exists_cons_of_ne_nil nonempty
  rfl

theorem atTerminator_eq_stops (cs : List Char) :
    atTerminator cs = stops (fun c => !isTerminator c) cs := by
  cases cs <;> simp [atTerminator]

theorem stops_dropWhile (cs : List Char) : stops p (cs.dropWhile p) = true := by
  induction cs with
  | nil => rfl
  | cons c cs ih =>
    by_cases here : p c = true
    · rwa [List.dropWhile_cons_of_pos here]
    · rw [List.dropWhile_cons_of_neg here, stops_cons]
      simpa using here

theorem takeWhile_of_stops {cs : List Char} (stop : stops p cs = true) :
    cs.takeWhile p = [] := by
  cases cs with
  | nil => rfl
  | cons c cs => simp_all

theorem dropWhile_of_stops {cs : List Char} (stop : stops p cs = true) :
    cs.dropWhile p = cs := by
  cases cs with
  | nil => rfl
  | cons c cs => simp_all

theorem takeWhile_append_stops {taken rest : List Char} (inside : ∀ c ∈ taken, p c = true)
    (stop : stops p rest = true) : (taken ++ rest).takeWhile p = taken := by
  rw [List.takeWhile_append_of_pos inside, takeWhile_of_stops stop, List.append_nil]

theorem dropWhile_append_stops {taken rest : List Char} (inside : ∀ c ∈ taken, p c = true)
    (stop : stops p rest = true) : (taken ++ rest).dropWhile p = rest := by
  rw [List.dropWhile_append_of_pos inside, dropWhile_of_stops stop]

theorem mem_takeWhile {cs : List Char} : ∀ c ∈ cs.takeWhile p, p c = true :=
  List.all_eq_true.1 List.all_takeWhile

theorem exists_more {word tail text rest : List Char} (inside : ∀ c ∈ word, p c = true)
    (stop : stops p rest = true) (same : word ++ tail = text ++ rest) :
    ∃ more, text = word ++ more ∧ tail = more ++ rest := by
  rcases List.append_eq_append_iff.1 same with ⟨more, split, left⟩ | ⟨more, split, left⟩
  · exact ⟨more, split, left⟩
  · cases more with
    | nil => exact ⟨[], by simpa using split.symm, by simpa using left.symm⟩
    | cons c more =>
      have outside := inside c (by simp [split])
      simp [left, outside] at stop

namespace Lexeme

theorem run_append {taken rest : List Char} (nonempty : taken ≠ [])
    (inside : ∀ c ∈ taken, p c = true) (stop : stops p rest = true) :
    run p (taken ++ rest) = some (taken, rest) := by
  rw [run, takeWhile_append_stops inside stop, dropWhile_append_stops inside stop]
  simp [nonempty]

theorem run_eq_some_iff {cs taken rest : List Char} :
    run p cs = some (taken, rest) ↔
      cs = taken ++ rest ∧ taken ≠ [] ∧ (∀ c ∈ taken, p c = true) ∧ stops p rest = true := by
  constructor
  · intro found
    simp only [run] at found
    split at found
    · simp at found
    next some_ =>
      simp only [Option.some.injEq, Prod.mk.injEq] at found
      obtain ⟨rfl, rfl⟩ := found
      refine ⟨List.takeWhile_append_dropWhile.symm, ?_, mem_takeWhile, stops_dropWhile cs⟩
      simpa using some_
  · rintro ⟨rfl, nonempty, inside, stop⟩
    exact run_append nonempty inside stop

theorem run_eq_none_iff {cs : List Char} : run p cs = none ↔ stops p cs = true := by
  cases cs with
  | nil => simp [run]
  | cons c cs => by_cases here : p c = true <;> simp [run, here]

theorem span_append {taken rest : List Char} (inside : ∀ c ∈ taken, p c = true)
    (stop : stops p rest = true) : span p (taken ++ rest) = some (taken, rest) := by
  rw [span, takeWhile_append_stops inside stop, dropWhile_append_stops inside stop]

theorem span_eq_some {cs taken rest : List Char} (found : span p cs = some (taken, rest)) :
    cs = taken ++ rest ∧ (∀ c ∈ taken, p c = true) ∧ stops p rest = true := by
  simp only [span, Option.some.injEq, Prod.mk.injEq] at found
  obtain ⟨rfl, rfl⟩ := found
  exact ⟨List.takeWhile_append_dropWhile.symm, mem_takeWhile, stops_dropWhile cs⟩

@[simp] theorem exact_append (text rest : List Char) :
    exact text (text ++ rest) = some (text, rest) := by
  simp [exact]

theorem exact_eq_some_iff {text cs taken rest : List Char} :
    exact text cs = some (taken, rest) ↔ taken = text ∧ cs = text ++ rest := by
  constructor
  · intro found
    simp only [exact] at found
    split at found
    next here =>
      obtain ⟨tail, rfl⟩ := List.isPrefixOf_iff_prefix.1 here
      simp_all
    · simp at found
  · rintro ⟨rfl, rfl⟩
    exact exact_append _ _

/-- A lexeme splits its text off the front of the input. -/
def Splits (a : Lexeme) : Prop :=
  ∀ ⦃cs taken rest : List Char⦄, a cs = some (taken, rest) → cs = taken ++ rest

/-- What a lexeme reads of a text does not change when a terminator follows. -/
def Local (a : Lexeme) : Prop :=
  ∀ ⦃cs rest : List Char⦄, atTerminator rest = true →
    a (cs ++ rest) = (a cs).map fun (taken, left) => (taken, left ++ rest)

theorem exact_eq_none {text cs : List Char} (other : ¬text <+: cs) : exact text cs = none := by
  simp [exact, List.isPrefixOf_iff_prefix, other]

theorem splits_run : Splits (run p) := fun _ _ _ found => (run_eq_some_iff.1 found).1

theorem splits_span : Splits (span p) := fun _ _ _ found => (span_eq_some found).1

theorem splits_exact (text : List Char) : Splits (exact text) := fun _ _ _ found => by
  obtain ⟨rfl, whole⟩ := exact_eq_some_iff.1 found
  exact whole

theorem splits_either {a b : Lexeme} (first : Splits a) (second : Splits b) :
    Splits (either a b) := fun _ _ _ found => by
  rcases Option.or_eq_some_iff.1 found with here | ⟨_, here⟩
  · exact first here
  · exact second here

theorem splits_optional {a : Lexeme} (inner : Splits a) : Splits (optional a) := by
  intro cs taken rest found
  rcases Option.or_eq_some_iff.1 found with here | ⟨_, here⟩
  · exact inner here
  · simp_all

theorem splits_followedBy {a b : Lexeme} (first : Splits a) (second : Splits b) :
    Splits (followedBy a b) := fun _ _ _ found => by
  obtain ⟨⟨before, middle⟩, left, found⟩ := Option.bind_eq_some_iff.1 found
  obtain ⟨⟨after, rest⟩, right, same⟩ := Option.map_eq_some_iff.1 found
  simp only [Prod.mk.injEq] at same
  obtain ⟨rfl, rfl⟩ := same
  rw [first left, second right, List.append_assoc]

theorem followedBy_whole {a b : Lexeme} (first : Splits a) (second : Splits b)
    {cs : List Char} : followedBy a b cs = some (cs, []) ↔
      ∃ before middle, a cs = some (before, middle) ∧ b middle = some (middle, []) := by
  constructor
  · intro found
    obtain ⟨⟨before, middle⟩, left, found⟩ := Option.bind_eq_some_iff.1 found
    obtain ⟨⟨after, _⟩, right, same⟩ := Option.map_eq_some_iff.1 found
    simp only [Prod.mk.injEq] at same
    obtain ⟨-, rfl⟩ := same
    obtain rfl : middle = after := by simpa using second right
    exact ⟨before, middle, left, right⟩
  · rintro ⟨before, middle, left, right⟩
    obtain rfl := first left
    simp [followedBy, left, right]

theorem local_run (disjoint : ∀ c, isTerminator c = true → p c = false) : Local (run p) := by
  intro cs rest ends
  have stop : stops p rest = true := by
    cases rest with
    | nil => rfl
    | cons c rest => simpa using disjoint c ends
  have whole : (cs ++ rest).takeWhile p = cs.takeWhile p ∧
      (cs ++ rest).dropWhile p = cs.dropWhile p ++ rest := by
    have split : cs ++ rest = cs.takeWhile p ++ (cs.dropWhile p ++ rest) := by
      rw [← List.append_assoc, List.takeWhile_append_dropWhile]
    have inner := stops_append _ rest stop (stops_dropWhile (p := p) cs)
    rw [split]
    exact ⟨takeWhile_append_stops mem_takeWhile inner, dropWhile_append_stops mem_takeWhile inner⟩
  simp only [run, whole.1, whole.2]
  split <;> rfl

theorem prefix_append_iff {text cs rest : List Char}
    (inside : ∀ c ∈ text, isTerminator c = false) (ends : atTerminator rest = true) :
    text <+: cs ++ rest ↔ text <+: cs := by
  induction text generalizing cs with
  | nil => simp
  | cons t text ih =>
    rw [List.forall_mem_cons] at inside
    cases cs with
    | nil =>
      cases rest with
      | nil => simp
      | cons c rest =>
        have other : t ≠ c := fun same => by simp_all [atTerminator]
        simp [other]
    | cons c cs => rw [List.cons_append, List.cons_prefix_cons, List.cons_prefix_cons, ih inside.2]

theorem local_exact (text : List Char) (outside : text.any isTerminator = false) :
    Local (exact text) := by
  intro cs rest ends
  have inside : ∀ c ∈ text, isTerminator c = false := by simpa using outside
  by_cases here : text <+: cs
  · obtain ⟨tail, rfl⟩ := here
    simp
  · rw [exact_eq_none here, exact_eq_none (mt (prefix_append_iff inside ends).1 here)]
    rfl

theorem local_either {a b : Lexeme} (first : Local a) (second : Local b) :
    Local (either a b) := by
  intro cs rest ends
  simp only [either, first ends, second ends]
  cases a cs <;> simp

theorem local_optional {a : Lexeme} (inner : Local a) : Local (optional a) := by
  intro cs rest ends
  simp only [optional, inner ends]
  cases a cs <;> simp

theorem local_followedBy {a b : Lexeme} (first : Local a) (second : Local b) :
    Local (followedBy a b) := by
  intro cs rest ends
  simp only [followedBy, first ends]
  cases a cs with
  | none => rfl
  | some found =>
    obtain ⟨before, middle⟩ := found
    simp only [Option.map_some, Option.bind_some, second ends]
    cases b middle <;> rfl

theorem terminated_append {a : Lexeme} (splits : Splits a) (here : Local a)
    {word rest : List Char} (inside : ∀ c ∈ word, isTerminator c = false)
    (ends : atTerminator rest = true) :
    terminated a (word ++ rest) = if a word = some (word, []) then some (word, rest) else none := by
  rw [terminated, here ends]
  cases found : a word with
  | none => simp
  | some split =>
    obtain ⟨taken, left⟩ := split
    obtain rfl := splits found
    cases left with
    | nil => simp [ends]
    -- What is left begins inside the word, where no terminator stands.
    | cons c left =>
      have more : isTerminator c = false := inside c (by simp)
      simp [atTerminator, more]

end Lexeme

end InventoryQuery.Filter
