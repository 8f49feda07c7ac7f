import InventoryQuery.Json.Document

/-! Runs of merges. A merge is a union of top-level members that prefers the later side, so
how a run of merges is bracketed makes no difference, and the last object that has a key
decides its value. A value other than an object has no members: it is passed over where it
is merged in, and gives way to the first object where it is the start. -/
namespace InventoryQuery.Document

variable {a b : Document}

def isObject (d : Document) : Bool :=
  match d.value with
  | .object _ => true
  | _ => false

theorem exists_members {d : Document} (object : d.isObject = true) :
    ∃ members ordered, d = ⟨.object members, ordered⟩ := by
  obtain ⟨value, ordered⟩ := d
  cases value with
  | object members => exact ⟨members, ordered, rfl⟩
  | null | boolean | number | string | array => simp [isObject] at object

theorem merge_other (other : b.isObject = false) : a.merge b = a := by
  obtain ⟨start, left⟩ := a
  obtain ⟨value, right⟩ := b
  cases value with
  | object members => simp [isObject] at other
  | null | boolean | number | string | array => cases start <;> rfl

theorem other_merge (other : a.isObject = false) (object : b.isObject = true) :
    a.merge b = b := by
  obtain ⟨members, right, rfl⟩ := exists_members object
  obtain ⟨value, left⟩ := a
  cases value with
  | object entries => simp [isObject] at other
  | null | boolean | number | string | array => rfl

theorem isObject_merge (a b : Document) : (a.merge b).isObject = (a.isObject || b.isObject) := by
  cases added : b.isObject with
  | false => rw [merge_other added, Bool.or_false]
  | true =>
    rw [Bool.or_true]
    cases start : a.isObject with
    | false => rw [other_merge start added, added]
    | true =>
      obtain ⟨_, _, rfl⟩ := exists_members start
      obtain ⟨_, _, rfl⟩ := exists_members added
      rfl

theorem eq_of_get? (left : a.isObject = true) (right : b.isObject = true)
    (same : ∀ key, a.get? key = b.get? key) : a = b := by
  obtain ⟨members, ordered, rfl⟩ := exists_members left
  obtain ⟨others, inside, rfl⟩ := exists_members right
  cases ordered with
  | object ascending _ =>
    cases inside with
    | object ascending' _ =>
      obtain rfl := Association.ext ascending ascending' same
      rfl

theorem merge_assoc (a b c : Document) : (a.merge b).merge c = a.merge (b.merge c) := by
  cases last : c.isObject with
  | false => rw [merge_other last, merge_other last]
  | true =>
    refine eq_of_get? (by simp [isObject_merge, last]) (by simp [isObject_merge, last])
      fun key => ?_
    simp only [get?_merge, Option.or_assoc]

theorem merge_self (a : Document) : a.merge a = a := by
  cases object : a.isObject with
  | false => exact merge_other object
  | true =>
    refine eq_of_get? (by simp [isObject_merge, object]) object fun key => ?_
    rw [get?_merge, Option.or_self]

theorem merge_empty (object : a.isObject = true) : a.merge empty = a := by
  refine eq_of_get? (by simp [isObject_merge, object]) object fun key => ?_
  rw [get?_merge]
  rfl

/-- Merges documents into a start, one after another. -/
def mergeAll (start : Document) (run : List Document) : Document := run.foldl merge start

theorem mergeAll_cons (start d : Document) (run : List Document) :
    start.mergeAll (d :: run) = (start.merge d).mergeAll run := rfl

/-- The value under a key in the last of some documents that has one. -/
def last? (run : List Document) (key : String) : Option Json :=
  run.reverse.findSome? fun d => d.get? key

theorem last?_cons (d : Document) (run : List Document) (key : String) :
    last? (d :: run) key = (last? run key).or (d.get? key) := by
  simp [last?, List.findSome?_append]

theorem last?_eq_none_iff {run : List Document} {key : String} :
    last? run key = none ↔ ∀ d ∈ run, d.get? key = none := by
  simp [last?, List.findSome?_eq_none_iff]

theorem last?_eq_some_iff {run : List Document} {key : String} {value : Json} :
    last? run key = some value ↔ ∃ before d after, run = before ++ d :: after ∧
      d.get? key = some value ∧ ∀ later ∈ after, later.get? key = none := by
  rw [last?, List.findSome?_eq_some_iff]
  constructor
  · rintro ⟨after, d, before, split, found, later⟩
    refine ⟨before.reverse, d, after.reverse, ?_, found, by simpa using later⟩
    simpa using congrArg List.reverse split
  · rintro ⟨before, d, after, rfl, found, later⟩
    exact ⟨after.reverse, d, before.reverse, by simp, found, by simpa using later⟩

theorem get?_mergeAll (start : Document) (run : List Document) (key : String) :
    (start.mergeAll run).get? key = (last? run key).or (start.get? key) := by
  induction run generalizing start with
  | nil => rfl
  | cons d run ih => rw [mergeAll_cons, ih, get?_merge, last?_cons, Option.or_assoc]

theorem mergeAll_filter (start : Document) (run : List Document) :
    start.mergeAll (run.filter isObject) = start.mergeAll run := by
  induction run generalizing start with
  | nil => rfl
  | cons d run ih =>
    rw [mergeAll_cons]
    cases object : d.isObject with
    | false => rw [List.filter_cons_of_neg (by simp [object]), ih, merge_other object]
    | true => rw [List.filter_cons_of_pos object, mergeAll_cons, ih]

theorem other_mergeAll {start d : Document} {before : List Document}
    (other : start.isObject = false) (others : ∀ e ∈ before, e.isObject = false)
    (object : d.isObject = true) (after : List Document) :
    start.mergeAll (before ++ d :: after) = d.mergeAll after := by
  induction before with
  | nil => rw [List.nil_append, mergeAll_cons, other_merge other object]
  | cons e before ih =>
    obtain ⟨here, rest⟩ := List.forall_mem_cons.1 others
    rw [List.cons_append, mergeAll_cons, merge_other here, ih rest]

/-- Merging is a union that prefers the later side, over runs of any length. Each key has the
value of the last object that has it, which is taken whole; a value that is no object adds
nothing, and as the start it is lost when the first object comes. -/
theorem merge_rightBiased :
    (∀ a b c : Document, (a.merge b).merge c = a.merge (b.merge c)) ∧
    (∀ a : Document, a.merge a = a) ∧
    (∀ a : Document, a.isObject = true → a.merge empty = a) ∧
    (∀ (start : Document) (run : List Document) (key : String) (value : Json),
      (start.mergeAll run).get? key = some value ↔
        (∃ before d after, run = before ++ d :: after ∧ d.get? key = some value ∧
          ∀ later ∈ after, later.get? key = none) ∨
        (∀ d ∈ run, d.get? key = none) ∧ start.get? key = some value) ∧
    (∀ (start : Document) (run : List Document),
      start.mergeAll (run.filter isObject) = start.mergeAll run) ∧
    ∀ (start d : Document) (before after : List Document), start.isObject = false →
      (∀ e ∈ before, e.isObject = false) → d.isObject = true →
        start.mergeAll (before ++ d :: after) = d.mergeAll after := by
  refine ⟨merge_assoc, merge_self, fun _ => merge_empty, fun start run key value => ?_,
    mergeAll_filter, fun _ _ _ after other others object => other_mergeAll other others object after⟩
  rw [get?_mergeAll, Option.or_eq_some_iff, last?_eq_some_iff, last?_eq_none_iff]

def nested (outer inner : String) (value : Json) : Document :=
  ofJson (.object [(outer, .object [(inner, value)])])

theorem merge_rightBiased_nested :
    let first := (nested "a" "x" .null).merge (nested "b" "x" .null)
    let second := nested "a" "y" (.boolean true)
    let final := (string "c").mergeAll [array [string "d"], first, second, ⟨.null, .null⟩]
    final = first.mergeAll [second, ⟨.null, .null⟩] ∧
      final.get? "a" = some (.object [("y", .boolean true)]) ∧
      final.get? "b" = some (.object [("x", .null)]) ∧ final.merge empty = final := by
  intro first second final
  obtain ⟨-, -, identity, members, -, discards⟩ := merge_rightBiased
  -- The text and the array leave no trace, and the later value of a key is kept whole.
  have started := discards (string "c") first [array [string "d"]] [second, ⟨.null, .null⟩] rfl
    (List.forall_mem_singleton.2 rfl) rfl
  have shared : second.get? "a" = some (.object [("y", .boolean true)]) := rfl
  have own : first.get? "b" = some (.object [("x", .null)]) := by
    rw [get?_merge]
    rfl
  refine ⟨started, (members _ _ _ _).2 (.inl ⟨[_, _], second, [_], rfl, shared, ?_⟩),
    (members _ _ _ _).2 (.inl ⟨[_], first, [_, _], rfl, own, ?_⟩), identity final rfl⟩
  · exact List.forall_mem_singleton.2 rfl
  · exact List.forall_mem_cons.2 ⟨rfl, List.forall_mem_singleton.2 rfl⟩

end InventoryQuery.Document
