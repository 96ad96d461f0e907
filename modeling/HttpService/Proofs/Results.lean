/-!
Contract: what a result says about the results that it is made of.

Owns: successes behind `map` and `bind`.
-/

namespace HttpService

variable {ε α β : Type}

theorem exists_of_map_eq_ok {first : Except ε α} {change : α → β} {result : β}
    (mapped : first.map change = .ok result) : ∃ value, first = .ok value ∧ change value = result := by
  cases first with
  | error error => cases mapped
  | ok value =>
      cases mapped
      exact ⟨value, rfl, rfl⟩

theorem exists_of_bind_eq_ok {first : Except ε α} {next : α → Except ε β} {result : β}
    (bound : first.bind next = .ok result) : ∃ value, first = .ok value ∧ next value = .ok result := by
  cases first with
  | error error => cases bound
  | ok value => exact ⟨value, rfl, bound⟩

theorem isOk_map (change : α → β) (result : Except ε α) :
    (result.map change).isOk = result.isOk := by
  cases result <;> rfl

end HttpService
