import InventoryQuery.Event

/-! Computations that note events, one after another. They are a lawful monad, and their
results alone compose as those of computations that may fail. -/
namespace InventoryQuery.Noted

variable {ε ε' α β : Type}

instance : LawfulMonad (Noted ε) := .mk' _
  (fun ⟨events, result⟩ => by
    cases result with
    | error error => rfl
    | ok value => simp [Functor.map, Noted.bind])
  (fun _ _ => rfl)
  (fun ⟨events, result⟩ next last => by
    cases result with
    | error error => rfl
    | ok value =>
      simp only [bind_ok]
      obtain ⟨noted, second⟩ := next value
      cases second <;> simp [List.append_assoc])

theorem bind_eq_ok {m : Noted ε α} {next : α → Noted ε β} {b : β} :
    (m >>= next).result = .ok b ↔ ∃ a, m.result = .ok a ∧ (next a).result = .ok b := by
  obtain ⟨events, result⟩ := m
  cases result with
  | error error => simp
  | ok value => simp

theorem bind_result (m : Noted ε α) (next : α → Noted ε β) :
    (m >>= next).result = m.result >>= fun value => (next value).result := by
  obtain ⟨events, result⟩ := m
  cases result <;> rfl

theorem mapError_result (f : ε → ε') (m : Noted ε α) :
    (m.mapError f).result = m.result.mapError f := rfl

@[simp] theorem lift_result (result : Except ε α) : (lift result).result = result := rfl

theorem lift_mapError (f : ε → ε') (result : Except ε α) :
    lift (result.mapError f) = (lift result).mapError f := rfl

theorem mapError_bind (f : ε → ε') (m : Noted ε α) (next : α → Noted ε β) :
    (m >>= next).mapError f = m.mapError f >>= fun value => (next value).mapError f := by
  obtain ⟨events, result⟩ := m
  cases result <;> rfl

theorem mapError_eq_ok (f : ε → ε') (m : Noted ε α) (value : α) :
    (m.mapError f).result = .ok value ↔ m.result = .ok value := by
  obtain ⟨events, result⟩ := m
  cases result with
  | error cause => exact ⟨nofun, nofun⟩
  | ok found =>
    constructor
    · intro same
      cases same
      rfl
    · intro same
      cases same
      rfl

end InventoryQuery.Noted
