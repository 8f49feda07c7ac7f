import InventoryQuery.Filter.Literal
import InventoryQuery.Filter.Operator
import InventoryQuery.Text.Position

/-! Trees of filter expressions. A tree keeps the groups and the members of its
source in their order, and nothing is flattened. Its places are of any type, so
that a tree without places is a `Tree Unit`. -/
namespace InventoryQuery.Filter

inductive Operand
  | literal (value : Literal)
  | column (name : String)
deriving DecidableEq

structure Comparison (σ : Type) where
  column : String
  operator : String
  operand : Operand
  mode : Mode
  place : σ
  operatorPlace : σ
  valuePlace : σ

inductive Tree (σ : Type)
  | group (connective : Connective) (members : List (Tree σ)) (place : σ)
  | comparison (content : Comparison σ)

variable {σ τ : Type}

def Comparison.map (f : σ → τ) (c : Comparison σ) : Comparison τ :=
  { c with
    place := f c.place, operatorPlace := f c.operatorPlace, valuePlace := f c.valuePlace }

namespace Tree

def place : Tree σ → σ
  | group _ _ place => place
  | comparison content => content.place

mutual

def map (f : σ → τ) : Tree σ → Tree τ
  | group connective members place => group connective (mapMembers f members) (f place)
  | comparison content => comparison (content.map f)

def mapMembers (f : σ → τ) : List (Tree σ) → List (Tree τ)
  | [] => []
  | member :: rest => map f member :: mapMembers f rest

end

mutual

def comparisons : Tree σ → List (Comparison σ)
  | group _ members _ => comparisonsOf members
  | comparison content => [content]

def comparisonsOf : List (Tree σ) → List (Comparison σ)
  | [] => []
  | member :: rest => comparisons member ++ comparisonsOf rest

end

def comparisonCount (t : Tree σ) : Nat := t.comparisons.length

theorem place_map (f : σ → τ) (t : Tree σ) : (t.map f).place = f t.place := by
  cases t <;> simp [map, place, Comparison.map]

mutual

theorem map_map {υ : Type} (f : σ → τ) (g : τ → υ) : (t : Tree σ) →
    (t.map f).map g = t.map (g ∘ f)
  | group connective members place => by
    simp only [map, mapMembers_mapMembers f g members, Function.comp]
  | comparison content => by simp [map, Comparison.map]

theorem mapMembers_mapMembers {υ : Type} (f : σ → τ) (g : τ → υ) : (ts : List (Tree σ)) →
    mapMembers g (mapMembers f ts) = mapMembers (g ∘ f) ts
  | [] => rfl
  | t :: ts => by
    simp only [mapMembers, map_map f g t, mapMembers_mapMembers f g ts]

end

end Tree

end InventoryQuery.Filter
