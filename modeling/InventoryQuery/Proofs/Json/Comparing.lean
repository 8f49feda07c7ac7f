import InventoryQuery.Json.Document

/-! Comparing JSON values up to what is taken for the same number. With every number taken
as it is, only a value itself compares equal to it; JSON values are usually compared with
the two zeros taken for one number. -/
namespace InventoryQuery

/-- Zero without its sign, and any other number as it is. -/
def Number.unsignedZero : Number → Number
  | .integer value inRange => .integer value inRange
  | .real x => .real { x with negative := x.negative && x.significand != 0 }

namespace Json

mutual

def mapNumbers (f : Number → Number) : Json → Json
  | .array elements => .array (mapElements f elements)
  | .object members => .object (mapMembers f members)
  | .number value => .number (f value)
  | .null => .null
  | .boolean value => .boolean value
  | .string value => .string value

def mapElements (f : Number → Number) : List Json → List Json
  | [] => []
  | element :: rest => mapNumbers f element :: mapElements f rest

def mapMembers (f : Number → Number) : List (String × Json) → List (String × Json)
  | [] => []
  | (key, value) :: rest => (key, mapNumbers f value) :: mapMembers f rest

end

theorem mapElements_eq_map (f : Number → Number) (elements : List Json) :
    mapElements f elements = elements.map (mapNumbers f) := by
  induction elements with
  | nil => rfl
  | cons element rest ih => rw [mapElements, ih, List.map_cons]

mutual

theorem mapNumbers_id : (value : Json) → mapNumbers id value = value
  | .array elements => by rw [mapNumbers, mapElements_id elements]
  | .object members => by rw [mapNumbers, mapMembers_id members]
  | .number value => by rw [mapNumbers, id]
  | .null | .boolean _ | .string _ => by rw [mapNumbers]

theorem mapElements_id : (elements : List Json) → mapElements id elements = elements
  | [] => rfl
  | element :: rest => by rw [mapElements, mapNumbers_id element, mapElements_id rest]

theorem mapMembers_id : (members : List (String × Json)) → mapMembers id members = members
  | [] => rfl
  | (key, value) :: rest => by rw [mapMembers, mapNumbers_id value, mapMembers_id rest]

end

end Json

namespace Document

/-- A document with its numbers as they are to be compared. -/
def upTo (f : Number → Number) (d : Document) : Json := d.value.mapNumbers f

variable {f : Number → Number} {d d' : Document} {ds es : List Document} {key key' s s' : String}

theorem upTo_id_inj : d.upTo id = d'.upTo id ↔ d = d' := by
  rw [upTo, upTo, Json.mapNumbers_id, Json.mapNumbers_id]
  exact ⟨ext, congrArg value⟩

@[simp] theorem upTo_string : (string s).upTo f = .string s := by
  simp [upTo, string, Json.mapNumbers]

@[simp] theorem upTo_number (n : Number) : (number n).upTo f = .number (f n) := by
  simp [upTo, number, Json.mapNumbers]

@[simp] theorem upTo_entry : (entry key d).upTo f = .object [(key, d.upTo f)] := by
  simp [upTo, entry, Json.mapNumbers, Json.mapMembers]

@[simp] theorem upTo_array : (array ds).upTo f = .array (ds.map (upTo f)) := by
  simp [upTo, array, Json.mapNumbers, Json.mapElements_eq_map, Function.comp_def]

theorem upTo_entry_array_inj : (entry key (array ds)).upTo f = (entry key' (array es)).upTo f ↔
    key = key' ∧ ds.map (upTo f) = es.map (upTo f) := by
  simp

@[simp] theorem string_inj : string s = string s' ↔ s = s' := by
  rw [← upTo_id_inj, upTo_string, upTo_string, Json.string.injEq]

@[simp] theorem entry_inj : entry key d = entry key' d' ↔ key = key' ∧ d = d' := by
  rw [← upTo_id_inj, upTo_entry, upTo_entry]
  simp [upTo_id_inj]

end Document

end InventoryQuery
