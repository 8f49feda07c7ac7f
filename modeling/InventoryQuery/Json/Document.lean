import InventoryQuery.Json.Printer

/-! JSON values with ordered keys, as a table endpoint takes them for its
`filters`. Merging adds the top-level members of an object and prefers the later
value of a key; it takes nested values whole. -/
namespace InventoryQuery

structure Document where
  value : Json
  ordered : value.Ordered

namespace Document

theorem ext {a b : Document} (same : a.value = b.value) : a = b := by
  cases a; cases b; simp_all

def ofJson (value : Json) : Document := ⟨value.sortKeys, value.ordered_sortKeys⟩

def boolean (value : Bool) : Document := ⟨.boolean value, .boolean value⟩

def number (value : Number) : Document := ⟨.number value, .number value⟩

def string (value : String) : Document := ⟨.string value, .string value⟩

def array (elements : List Document) : Document :=
  ⟨.array (elements.map value), .array fun _ member => by
    obtain ⟨element, _, rfl⟩ := List.mem_map.1 member
    exact element.ordered⟩

def entry (key : String) (content : Document) : Document :=
  ⟨.object [(key, content.value)], Json.ordered_singleton content.ordered⟩

def empty : Document := ⟨.object [], .object List.Pairwise.nil (by simp)⟩

def isEmpty (d : Document) : Bool :=
  match d.value with
  | .object members => members.isEmpty
  | .null => true
  | _ => false

def text (d : Document) : String := d.value.compact

theorem ordered_union {base extra : List (String × Json)}
    (left : Json.Ordered (.object base)) (right : Json.Ordered (.object extra)) :
    Json.Ordered (.object (Association.union base extra)) := by
  cases left with
  | object ascending inBase =>
    cases right with
    | object _ inExtra =>
      refine .object (Association.ascending_union extra ascending) fun entry member => ?_
      rcases Association.mem_union member with member | member
      · exact inBase entry member
      · exact inExtra entry member

/-- A value other than an object adds nothing, and is lost when an object is
merged into it. -/
def merge (base extra : Document) : Document :=
  match base, extra with
  | ⟨.object entries, left⟩, ⟨.object added, right⟩ =>
    ⟨.object (Association.union entries added), ordered_union left right⟩
  | _, ⟨.object added, right⟩ => ⟨.object added, right⟩
  | base, _ => base

def get? (d : Document) (key : String) : Option Json :=
  match d.value with
  | .object members => Association.get? key members
  | _ => none

theorem get?_eq_none_of_ne_object {d : Document} (other : ∀ members, d.value ≠ .object members)
    (key : String) : d.get? key = none := by
  rw [get?]
  split
  next members same => exact absurd same (other members)
  · rfl

@[simp]
theorem get?_entry (key : String) (content : Document) (other : String) :
    (entry key content).get? other = if key = other then some content.value else none := rfl

theorem get?_merge (base extra : Document) (key : String) :
    (base.merge extra).get? key = (extra.get? key).or (base.get? key) := by
  obtain ⟨added, right⟩ := extra
  obtain ⟨start, left⟩ := base
  cases added with
  | object addedMembers =>
    cases start with
    | object members =>
      cases right with
      | object ascending _ => exact Association.get?_union members ascending key
    | null | boolean | number | string | array =>
      rw [get?_eq_none_of_ne_object (d := ⟨_, left⟩) (by simp), Option.or_none]
      rfl
  | null | boolean | number | string | array =>
    rw [get?_eq_none_of_ne_object (d := ⟨_, right⟩) (by simp), Option.none_or]
    cases start <;> rfl

end Document

end InventoryQuery
