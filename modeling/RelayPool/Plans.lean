import Mathlib.Tactic.Common

/-! Plans of steps that may fail.

A plan is executed step by step up to the first that fails. `Walk` says that it goes
through, which states it passes and how each step moves; what a restart after some of
its steps finds is one of these states. -/
namespace RelayPool.Plans

variable {σ α ε : Type} (step : σ → α → Except ε σ)

def execute (s : σ) (plan : List α) : Except ε σ := plan.foldlM step s

theorem execute_cons {s s' : σ} {a : α} {plan : List α} (taken : step s a = .ok s') :
    execute step s (a :: plan) = execute step s' plan := by
  rw [execute, List.foldlM_cons, taken]
  rfl

theorem execute_error {s : σ} {a : α} {plan : List α} {e : ε} (failed : step s a = .error e) :
    execute step s (a :: plan) = .error e := by
  rw [execute, List.foldlM_cons, failed]
  rfl

/-- A plan that goes through, passes good states only and moves upwards. -/
inductive Walk (Good : σ → Prop) (Le : σ → σ → Prop) : σ → List α → σ → Prop
  | nil {s : σ} (good : Good s) : Walk Good Le s [] s
  | cons {s s₁ s' : σ} {a : α} {plan : List α} (good : Good s) (taken : step s a = .ok s₁)
      (le : Le s s₁) (rest : Walk Good Le s₁ plan s') : Walk Good Le s (a :: plan) s'

variable {step} {Good : σ → Prop} {Le : σ → σ → Prop} {s s₁ s' : σ} {plan plan' : List α}

theorem Walk.single {a : α} (good : Good s) (taken : step s a = .ok s') (le : Le s s')
    (good' : Good s') : Walk step Good Le s [a] s' := .cons good taken le (.nil good')

theorem Walk.append (first : Walk step Good Le s plan s₁) (second : Walk step Good Le s₁ plan' s') :
    Walk step Good Le s (plan ++ plan') s' := by
  induction first with
  | nil _ => exact second
  | cons good taken le _ ih => exact .cons good taken le (ih second)

theorem Walk.execute (walk : Walk step Good Le s plan s') : execute step s plan = .ok s' := by
  induction walk with
  | nil _ => rfl
  | cons _ taken _ _ ih => rw [execute_cons step taken, ih]

/-- A part of the plan that was executed ended in a good state. -/
theorem Walk.good_after (walk : Walk step Good Le s plan s') {done : List α}
    (part : done <+: plan) : ∃ mid, Plans.execute step s done = .ok mid ∧ Good mid := by
  induction walk generalizing done with
  | nil good =>
    rw [List.prefix_nil.mp part]
    exact ⟨_, rfl, good⟩
  | cons good taken _ _ ih =>
    cases done with
    | nil => exact ⟨_, rfl, good⟩
    | cons b done =>
      obtain ⟨rfl, rest⟩ := List.cons_prefix_cons.mp part
      rw [execute_cons step taken]
      exact ih rest

/-- No step of the plan moves down. -/
theorem Walk.ascends (walk : Walk step Good Le s plan s') {done rest : List α} {a : α}
    (split : plan = done ++ a :: rest) {low high : σ}
    (before : Plans.execute step s done = .ok low) (taken : step low a = .ok high) :
    Le low high := by
  induction walk generalizing done with
  | nil _ => exact absurd split (by simp)
  | cons _ taken' le _ ih =>
    cases done with
    | nil =>
      obtain ⟨rfl, -⟩ := List.cons_eq_cons.mp split
      cases before
      rw [taken'] at taken
      cases taken
      exact le
    | cons c done =>
      obtain ⟨rfl, later⟩ := List.cons_eq_cons.mp split
      rw [execute_cons step taken'] at before
      exact ih later before

end RelayPool.Plans
