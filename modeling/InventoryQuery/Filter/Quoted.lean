/-! The inside of a quoted text. Writing puts a backslash before every delimiter
and every backslash; reading removes it from those pairs and keeps any other
pair as it stands. -/
namespace InventoryQuery.Filter.Quoted

def escape (delimiter : Char) : List Char → List Char
  | [] => []
  | c :: cs =>
    if c = delimiter ∨ c = '\\' then '\\' :: c :: escape delimiter cs
    else c :: escape delimiter cs

def unescape (delimiter : Char) : List Char → List Char
  | '\\' :: c :: cs =>
    if c = delimiter ∨ c = '\\' then c :: unescape delimiter cs
    else '\\' :: c :: unescape delimiter cs
  | [] => []
  | c :: cs => c :: unescape delimiter cs

theorem unescape_escape (delimiter : Char) (cs : List Char) :
    unescape delimiter (escape delimiter cs) = cs := by
  induction cs with
  | nil => rfl
  | cons c cs ih =>
    by_cases special : c = delimiter ∨ c = '\\'
    · simp [escape, unescape, special, ih]
    · have plain : c ≠ '\\' := fun same => special (.inr same)
      rw [escape, if_neg special, unescape.eq_3 _ _ _ (fun _ _ same => absurd same plain), ih]

end InventoryQuery.Filter.Quoted
