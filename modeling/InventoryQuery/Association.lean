/-! Association lists in strictly ascending order of their keys. Two of them with
the same value at every key are the same list. A union prefers its right side. -/
namespace InventoryQuery.Association

variable {α : Type}

def insert (key : String) (value : α) : List (String × α) → List (String × α)
  | [] => [(key, value)]
  | (k, v) :: rest =>
    if key < k then (key, value) :: (k, v) :: rest
    else if key = k then (key, value) :: rest
    else (k, v) :: insert key value rest

def union (base extra : List (String × α)) : List (String × α) :=
  extra.foldl (fun entries entry => insert entry.1 entry.2 entries) base

/-- The later of two entries with one key counts. -/
def ofList (entries : List (String × α)) : List (String × α) := union [] entries

def get? (key : String) : List (String × α) → Option α
  | [] => none
  | (k, v) :: rest => if k = key then some v else get? key rest

def Ascending (entries : List (String × α)) : Prop :=
  entries.Pairwise fun a b => a.1 < b.1

theorem mem_insert {key : String} {value : α} {entries : List (String × α)}
    {entry : String × α} (found : entry ∈ insert key value entries) :
    entry = (key, value) ∨ entry ∈ entries := by
  induction entries with
  | nil => simpa [insert] using found
  | cons head rest ih =>
    obtain ⟨k, v⟩ := head
    simp only [insert] at found
    split at found
    · simpa using found
    · split at found
      · simp only [List.mem_cons] at found ⊢
        exact found.imp id .inr
      · simp only [List.mem_cons] at found ⊢
        rcases found with here | there
        · exact .inr (.inl here)
        · exact (ih there).imp id .inr

theorem lt_of_not_lt_of_ne {a b : String} (less : ¬a < b) (other : a ≠ b) : b < a :=
  Std.not_le.1 fun le => other (Std.le_antisymm le (Std.not_lt.1 less))

theorem ascending_insert {key : String} {value : α} {entries : List (String × α)}
    (ascending : Ascending entries) : Ascending (insert key value entries) := by
  induction entries with
  | nil => simp [insert, Ascending]
  | cons head rest ih =>
    obtain ⟨k, v⟩ := head
    obtain ⟨above, tail⟩ := List.pairwise_cons.1 ascending
    simp only [insert]
    split
    next less =>
      refine List.pairwise_cons.2 ⟨fun entry member => ?_, ascending⟩
      rcases List.mem_cons.1 member with rfl | member
      · exact less
      · exact String.lt_trans less (above entry member)
    next less =>
      split
      next same =>
        subst same
        exact List.pairwise_cons.2 ⟨above, tail⟩
      next other =>
        refine List.pairwise_cons.2 ⟨fun entry member => ?_, ih tail⟩
        rcases mem_insert member with rfl | member
        · exact lt_of_not_lt_of_ne less other
        · exact above entry member

theorem ascending_union {base : List (String × α)} (extra : List (String × α))
    (ascending : Ascending base) : Ascending (union base extra) := by
  induction extra generalizing base with
  | nil => exact ascending
  | cons entry rest ih => exact ih (ascending_insert ascending)

theorem ascending_ofList (entries : List (String × α)) : Ascending (ofList entries) :=
  ascending_union entries List.Pairwise.nil

theorem mem_union {base extra : List (String × α)} {entry : String × α}
    (found : entry ∈ union base extra) : entry ∈ base ∨ entry ∈ extra := by
  induction extra generalizing base with
  | nil => exact .inl found
  | cons head rest ih =>
    rcases ih found with inBase | inRest
    · rcases mem_insert inBase with rfl | inBase
      · exact .inr List.mem_cons_self
      · exact .inl inBase
    · exact .inr (List.mem_cons_of_mem head inRest)

theorem get?_insert (key : String) (value : α) (entries : List (String × α)) (other : String) :
    get? other (insert key value entries) =
      if key = other then some value else get? other entries := by
  induction entries with
  | nil => simp [insert, get?]
  | cons head rest ih =>
    obtain ⟨k, v⟩ := head
    simp only [insert]
    split
    · simp [get?]
    · split
      next same => subst same; by_cases here : key = other <;> simp [get?, here]
      next differ =>
        by_cases here : k = other
        · subst here; simp [get?, differ]
        · simp [get?, here, ih]

theorem get?_eq_none_of_lt {key : String} {entries : List (String × α)}
    (above : ∀ entry ∈ entries, key < entry.1) : get? key entries = none := by
  induction entries with
  | nil => rfl
  | cons head rest ih =>
    obtain ⟨here, others⟩ := List.forall_mem_cons.1 above
    have other : head.1 ≠ key := fun same => String.lt_irrefl key (same ▸ here)
    rw [get?, if_neg other, ih others]

theorem get?_union (base : List (String × α)) {extra : List (String × α)}
    (ascending : Ascending extra) (key : String) :
    get? key (union base extra) = (get? key extra).or (get? key base) := by
  induction extra generalizing base with
  | nil => rfl
  | cons head rest ih =>
    obtain ⟨above, tail⟩ := List.pairwise_cons.1 ascending
    have step : union base (head :: rest) = union (insert head.1 head.2 base) rest := rfl
    rw [step, ih _ tail, get?_insert, get?]
    by_cases here : head.1 = key
    · subst here
      rw [get?_eq_none_of_lt above, if_pos rfl, if_pos rfl]
      rfl
    · rw [if_neg here, if_neg here]

theorem get?_eq_none_of_lt_head {key : String} {head : String × α} {rest : List (String × α)}
    (ascending : Ascending (head :: rest)) (less : key < head.1) :
    get? key (head :: rest) = none :=
  get?_eq_none_of_lt (List.forall_mem_cons.2 ⟨less, fun entry member =>
    String.lt_trans less ((List.pairwise_cons.1 ascending).1 entry member)⟩)

theorem head_eq_of_get? {head other : String × α} {rest others : List (String × α)}
    (left : Ascending (head :: rest)) (right : Ascending (other :: others))
    (same : ∀ key, get? key (head :: rest) = get? key (other :: others)) : head = other := by
  -- The lesser of two different keys would have a value in one list only.
  have keys : head.1 = other.1 := by
    refine Decidable.byContradiction fun differ => ?_
    by_cases less : head.1 < other.1
    · have found := same head.1
      rw [get?_eq_none_of_lt_head right less, get?, if_pos rfl] at found
      cases found
    · have found := same other.1
      rw [get?_eq_none_of_lt_head left (lt_of_not_lt_of_ne less differ), get?, if_pos rfl] at found
      cases found
  have values : head.2 = other.2 := by simpa [get?, keys] using same head.1
  exact Prod.ext keys values

theorem ext {a b : List (String × α)} (left : Ascending a) (right : Ascending b)
    (same : ∀ key, get? key a = get? key b) : a = b := by
  induction a generalizing b with
  | nil =>
    cases b with
    | nil => rfl
    | cons other others => simpa [get?] using same other.1
  | cons head rest ih =>
    cases b with
    | nil => simpa [get?] using same head.1
    | cons other others =>
      obtain rfl := head_eq_of_get? left right same
      obtain ⟨above, tail⟩ := List.pairwise_cons.1 left
      obtain ⟨otherAbove, otherTail⟩ := List.pairwise_cons.1 right
      refine congrArg (head :: ·) (ih tail otherTail fun key => ?_)
      by_cases here : head.1 = key
      · subst here
        rw [get?_eq_none_of_lt above, get?_eq_none_of_lt otherAbove]
      · simpa [get?, here] using same key

end InventoryQuery.Association
