import TestBench.Fault

/-! Computations that can fail, taken apart at their first step. -/
namespace TestBench

variable {ε δ α β : Type} {x : Except ε α} {g : α → Except ε β} {h : ε → δ}

theorem bind_eq_ok_iff {b : β} : x >>= g = .ok b ↔ ∃ a, x = .ok a ∧ g a = .ok b := by
  cases x <;> simp [bind, Except.bind]

theorem bind_eq_error_iff {e : ε} :
    x >>= g = .error e ↔ x = .error e ∨ ∃ a, x = .ok a ∧ g a = .error e := by
  cases x <;> simp [bind, Except.bind]

theorem mapError_eq_ok_iff {a : α} : x.mapError h = .ok a ↔ x = .ok a := by
  constructor
  · intro given
    cases x <;> cases given
    rfl
  · rintro rfl
    rfl

theorem mapError_eq_error_iff {d : δ} : x.mapError h = .error d ↔ ∃ e, x = .error e ∧ h e = d := by
  constructor
  · intro given
    cases x with
    | error e => exact ⟨e, rfl, Except.error.inj given⟩
    | ok a => cases given
  · rintro ⟨e, rfl, rfl⟩
    rfl

theorem exists_ok (succeeds : x.toOption.isSome = true) : ∃ a, x = .ok a := by
  cases x with
  | error e => cases succeeds
  | ok a => exact ⟨a, rfl⟩

end TestBench
