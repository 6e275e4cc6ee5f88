import ScopeWalk.Memo

/-!
# Reading compute-once cells

A read that does not break down leaves its answer in the cell, and every later read finds it
there.
-/
namespace ScopeWalk.Memo

variable {τ α σ : Type}

theorem peek_eq_some_iff {cell : Memo τ α} {value : α} :
    cell.peek = some value ↔ cell = .ready value := by
  cases cell <;> simp [peek]

variable [Inhabited α] {run : τ → σ → Except Failure α × σ} {cell : Memo τ α}
  {state : σ}

@[simp] theorem force_ready (value : α) :
    (ready value).force run state = ((.ok value, state), .ready value) := rfl

@[simp] theorem force_spent :
    (spent : Memo τ α).force run state = ((.ok default, state), .ready default) := rfl

theorem force_pending_ok {thunk : τ} {value : α} {next : σ}
    (h : run thunk state = (.ok value, next)) :
    (pending thunk).force run state = ((.ok value, next), .ready value) := by
  simp only [force, h]

theorem force_pending_error {thunk : τ} {failure : Failure} {next : σ}
    (h : run thunk state = (.error failure, next)) :
    (pending thunk).force run state = ((.error failure, next), .spent) := by
  simp only [force, h]

theorem force_of_ok {value : α} (h : (cell.force run state).1.1 = .ok value) :
    (cell.force run state).2 = .ready value := by
  cases cell with
  | ready found =>
    rw [force_ready] at h ⊢
    cases h
    rfl
  | spent =>
    rw [force_spent] at h ⊢
    cases h
    rfl
  | pending thunk =>
    rcases hrun : run thunk state with ⟨answer, next⟩
    cases answer with
    | ok found =>
      rw [force_pending_ok hrun] at h ⊢
      cases h
      rfl
    | error failure =>
      rw [force_pending_error hrun] at h
      cases h

theorem force_pending_answer (thunk : τ) :
    ((pending thunk).force run state).1.1 = (run thunk state).1 := by
  rcases hrun : run thunk state with ⟨answer, next⟩
  cases answer with
  | ok value => rw [force_pending_ok hrun]
  | error failure => rw [force_pending_error hrun]

theorem force_pending_state (thunk : τ) :
    ((pending thunk).force run state).1.2 = (run thunk state).2 := by
  rcases hrun : run thunk state with ⟨answer, next⟩
  cases answer with
  | ok value => rw [force_pending_ok hrun]
  | error failure => rw [force_pending_error hrun]

/-- Only a computation breaks down. The cell is left without one. -/
theorem force_of_error {failure : Failure} (h : (cell.force run state).1.1 = .error failure) :
    (cell.force run state).2 = .spent ∧
      ∃ thunk, cell = .pending thunk ∧ (run thunk state).1 = .error failure := by
  cases cell with
  | ready value =>
    rw [force_ready] at h
    cases h
  | spent =>
    rw [force_spent] at h
    cases h
  | pending thunk =>
    rcases hrun : run thunk state with ⟨answer, next⟩
    cases answer with
    | ok value =>
      rw [force_pending_ok hrun] at h
      cases h
    | error found =>
      rw [force_pending_error hrun] at h ⊢
      exact ⟨rfl, thunk, rfl, by rw [hrun]; exact h⟩

/-- What a read answers depends on the state only through the computation. -/
theorem force_answer_congr {other : σ}
    (h : ∀ thunk, (run thunk state).1 = (run thunk other).1) :
    (cell.force run state).1.1 = (cell.force run other).1.1 := by
  cases cell with
  | ready value => rw [force_ready, force_ready]
  | spent => rw [force_spent, force_spent]
  | pending thunk =>
    have hthunk := h thunk
    rcases hrun : run thunk state with ⟨answer, next⟩
    rcases hother : run thunk other with ⟨answer', next'⟩
    rw [hrun, hother] at hthunk
    obtain rfl : answer = answer' := hthunk
    cases answer with
    | ok value => rw [force_pending_ok hrun, force_pending_ok hother]
    | error failure => rw [force_pending_error hrun, force_pending_error hother]

end ScopeWalk.Memo
