import RelayPool.Runs
import RelayPool.Routing.Execute

/-! Replay safety of the execute loop.

A request goes on only after the planner allowed it. So every attempt but the last
failed in a way that may be sent again, and the coordinator accepts the terminal of
each failure the planner goes on from (`replay_safety`). -/
namespace RelayPool.Routing
open Runs

/-- An attempt after which another one may be made. -/
def OutboundAttempt.Repeatable (idempotent : Bool) (a : OutboundAttempt) : Prop :=
  ∃ failure action, a.failure = some (failure, action) ∧ Replayable idempotent failure

theorem recordActualTerminal_ok {c : RouteAdmissionCoordinator} {outcome : ActualAttemptTerminal}
    (safe : c.fallbackPolicy.retrySafe outcome) (key identity : String) :
    (c.recordActualTerminalForStationKey key identity outcome).2 = .ok () := by
  unfold RouteAdmissionCoordinator.recordActualTerminalForStationKey
  dsimp only
  rw [if_pos safe]

namespace Execution

/-- A request that goes on has made repeatable attempts only. -/
structure SafeSoFar (request : ExecuteRequest) (e : Execution) : Prop where
  earlier : ∀ a ∈ e.attempts.dropLast, a.Repeatable request.idempotent
  running : e.result = none → ∀ a ∈ e.attempts, a.Repeatable request.idempotent
  request : e.request = request

/-- Attempts of a request that goes on, and one more that may be repeated. -/
theorem SafeSoFar.extend {request : ExecuteRequest} {e e' : Execution} {a : OutboundAttempt}
    (h : SafeSoFar request e) (running : e.result = none) (same : e'.request = e.request)
    (attempts : e'.attempts = e.attempts ++ [a])
    (next : e'.result = none → a.Repeatable request.idempotent) : SafeSoFar request e' := by
  refine ⟨?_, ?_, same.trans h.request⟩
  · rw [attempts, List.dropLast_concat]
    exact h.running running
  · intro goesOn b hb
    rw [attempts, List.mem_append, List.mem_singleton] at hb
    rcases hb with hb | rfl
    · exact h.running running b hb
    · exact next goesOn

theorem SafeSoFar.same {request : ExecuteRequest} {e e' : Execution} (h : SafeSoFar request e)
    (running : e.result = none) (same : e'.request = e.request)
    (attempts : e'.attempts = e.attempts) : SafeSoFar request e' := by
  refine ⟨attempts ▸ h.earlier, fun _ => ?_, same.trans h.request⟩
  rw [attempts]
  exact h.running running

theorem pass_safeSoFar {request : ExecuteRequest} {e e' : Execution} {t : Turn}
    (passes : Passes e t e') (h : SafeSoFar request e) : SafeSoFar request e' := by
  have repeatable : ∀ (route : SelectedRoute) (failure : ProxyFailure) (leased : Bool),
      ((e.picked t route.candidate).retryAction t failure leased).kind ≠ .stopRequest →
      Replayable request.idempotent failure := by
    intro route failure leased goesOn
    have same : (e.picked t route.candidate).request.idempotent = request.idempotent := by
      rw [picked_request, h.request]
    exact same ▸ (planWithContext_goesOn goesOn).replayable
  cases passes with
  | finished => exact h
  | stops running ended => exact h.same running ended.request ended.attempts
  | replans transition snapshots runs => exact h.same runs.running rfl rfl
  | fences route snapshots runs =>
    exact h.same runs.running (picked_request ..) (picked_attempts ..)
  | denies route runs => exact h.same runs.running (picked_request ..) (picked_attempts ..)
  | ends route failure runs _ ended =>
    refine h.extend runs.running (ended.request.trans (picked_request ..))
      (ended.attempts.trans (picked_sent_attempts ..)) fun goesOn => ?_
    have finished := ended.finished
    rw [goesOn] at finished
    cases finished
  | retries route failure leased runs _ kind =>
    exact h.extend runs.running (picked_request ..) (picked_sent_attempts ..)
      fun _ => ⟨_, _, rfl, repeatable route failure leased (by simp [kind])⟩
  | moves route failure leased runs _ kind =>
    exact h.extend runs.running (picked_request ..) (picked_sent_attempts ..)
      fun _ => ⟨_, _, rfl, repeatable route failure leased (by simp [kind])⟩

/-- In every run of the loop each attempt that another one follows failed in a way
that may be sent again. The two gates agree: what the planner goes on from, the
fallback policy accepts, so the coordinator never refuses its terminal. -/
theorem replay_safety (request : ExecuteRequest) (turns : List Turn) :
    (∀ a ∈ (run pass (start request) turns).attempts.dropLast,
      a.Repeatable request.idempotent) ∧
    ∀ (failure : ProxyFailure) (idempotent committed : Bool) (context : RetryActionContext),
      (planWithContext failure idempotent committed context).kind ≠ .stopRequest →
      (fallbackPolicy idempotent).retrySafe (actualTerminalForAction failure
        (planWithContext failure idempotent committed context)) ∧
      ∀ c : RouteAdmissionCoordinator, c.fallbackPolicy = fallbackPolicy idempotent →
        ∀ key identity, (c.recordActualTerminalForStationKey key identity
          (actualTerminalForAction failure
            (planWithContext failure idempotent committed context))).2 = .ok () := by
  constructor
  · have preserved : ∀ e t, SafeSoFar request e → SafeSoFar request (pass e t) :=
      fun e t h => pass_safeSoFar (pass_cases e t) h
    have none : ∀ a ∈ (start request).attempts, a.Repeatable request.idempotent :=
      List.forall_mem_nil _
    have initially : SafeSoFar request (start request) :=
      ⟨List.forall_mem_nil _, fun _ => none, rfl⟩
    exact (run_invariant preserved initially turns).earlier
  · intro failure idempotent committed context goesOn
    have agree := gates_agree (planWithContext_goesOn goesOn).replayable
      (planWithContext failure idempotent committed context)
    refine ⟨agree, ?_⟩
    intro c policy key identity
    refine recordActualTerminal_ok ?_ key identity
    rw [policy]
    exact agree

end Execution

end RelayPool.Routing
