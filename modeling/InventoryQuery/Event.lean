import InventoryQuery.Filter.Literal

/-! Events that a computation notes on its way, and computations that note events
and may fail. What was noted before a failure stays. -/
namespace InventoryQuery

inductive Level
  | debug
  | info
deriving DecidableEq, Repr

inductive Event
  /-- An ordering operator met a literal that is no number. -/
  | orderedText (operator : String) (literal : Filter.Literal) (column : String)
  | comparisonCount (count : Nat)
  | mergingPreset (table : String) (preset : Document)
  /-- The body for a named table, or for an address of the caller's own. -/
  | preparedBody (table : Option String) (filters : Document)
  | preparedRequest (url : String)

namespace Event

def level : Event → Level
  | .preparedRequest _ => .info
  | _ => .debug

def message : Event → String
  | .orderedText operator literal column =>
    "Numeric operator '" ++ operator ++ "' applied to non-numeric value " ++
      String.ofList literal.canonical ++ " on column '" ++ column ++ "'"
  | .comparisonCount count => "Filter has " ++ toString count ++ " comparisons"
  | .mergingPreset table preset =>
    "Merging preset filter for table '" ++ table ++ "': " ++ preset.text
  | .preparedBody table filters =>
    "Prepared body for " ++ table.getD "custom uri" ++ ": filters=" ++ filters.text
  | .preparedRequest url => "Prepared request for " ++ url

end Event

structure Noted (ε α : Type) where
  events : List Event
  result : Except ε α

namespace Noted

variable {ε ε' α β : Type}

def note (event : Event) : Noted ε Unit := ⟨[event], .ok ()⟩

def fail (error : ε) : Noted ε α := ⟨[], .error error⟩

def lift (result : Except ε α) : Noted ε α := ⟨[], result⟩

def bind (first : Noted ε α) (next : α → Noted ε β) : Noted ε β :=
  match first.result with
  | .error error => ⟨first.events, .error error⟩
  | .ok value =>
    let second := next value
    ⟨first.events ++ second.events, second.result⟩

def mapError (f : ε → ε') (m : Noted ε α) : Noted ε' α := ⟨m.events, m.result.mapError f⟩

instance : Monad (Noted ε) where
  pure value := ⟨[], .ok value⟩
  bind := bind

@[simp] theorem pure_eq (value : α) : (pure value : Noted ε α) = ⟨[], .ok value⟩ := rfl

@[simp] theorem bind_error (events : List Event) (error : ε) (next : α → Noted ε β) :
    (⟨events, .error error⟩ : Noted ε α) >>= next = ⟨events, .error error⟩ := rfl

@[simp] theorem bind_ok (events : List Event) (value : α) (next : α → Noted ε β) :
    (⟨events, .ok value⟩ : Noted ε α) >>= next =
      ⟨events ++ (next value).events, (next value).result⟩ := rfl

end Noted

end InventoryQuery
