import InventoryQuery.Association
import InventoryQuery.Text.Blank

/-! Named settings. Each name has at most one value, and the last value set counts.
A setting is given when its value is not blank, and then it is read trimmed. -/
namespace InventoryQuery

structure Settings where
  entries : List (String × String)
  ascending : Association.Ascending entries

namespace Settings

def empty : Settings := ⟨[], List.Pairwise.nil⟩

def get? (s : Settings) (name : String) : Option String := Association.get? name s.entries

def set (s : Settings) (name value : String) : Settings :=
  ⟨Association.insert name value s.entries, Association.ascending_insert s.ascending⟩

def ofList (entries : List (String × String)) : Settings :=
  entries.foldl (fun s entry => s.set entry.1 entry.2) empty

/-- The value of a setting without blanks around it, unless nothing is left. -/
def given? (s : Settings) (name : String) : Option String :=
  (s.get? name).bind Text.nonBlank?

@[simp] theorem get?_empty (name : String) : empty.get? name = none := rfl

theorem get?_set (s : Settings) (name value other : String) :
    (s.set name value).get? other = if name = other then some value else s.get? other :=
  Association.get?_insert name value s.entries other

end Settings

end InventoryQuery
