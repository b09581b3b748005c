/-! Actions that succeed or fail for a cause. -/

namespace FormEditor

variable {ε α β : Type}

/-- Actions that succeed one after the other succeed each. -/
theorem eq_ok_of_bind {action : Except ε α} {next : α → Except ε β} {result : β}
    (hresult : (action >>= next) = .ok result) : ∃ value, action = .ok value ∧ next value = .ok result := by
  cases haction : action with
  | error cause =>
      rw [haction] at hresult
      cases hresult
  | ok value =>
      rw [haction] at hresult
      exact ⟨value, rfl, hresult⟩

/-- Actions one after the other fail where the first of them fails. -/
theorem bind_eq_error_iff {action : Except ε α} {next : α → Except ε β} {cause : ε} :
    (action >>= next) = .error cause ↔
      action = .error cause ∨ ∃ value, action = .ok value ∧ next value = .error cause := by
  cases action with
  | error other => simp [bind, Except.bind]
  | ok value => simp [bind, Except.bind]

/-- A successful action is told by its value alone. -/
theorem toOption_eq_some_iff {action : Except ε α} {value : α} :
    action.toOption = some value ↔ action = .ok value := by
  cases action with
  | error cause => simp [Except.toOption]
  | ok other => simp [Except.toOption]

end FormEditor
