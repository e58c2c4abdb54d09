import RelayPool.Routing.Failure

/-! What the execution layer does after a failed attempt.

Two gates decide whether a request may be sent again: the planner of the retry
action, and the fallback policy of the coordinator, which is asked about the
terminal of the attempt. The main result is `gates_agree`: what the planner allows,
the policy accepts. -/
namespace RelayPool.Routing

inductive RetryActionKind where
  | retryCurrentKey
  | tryNextKey
  | stopRequest
deriving DecidableEq, Repr

inductive ReplayGateResult where
  | allowed
  | rejected (reasonKey : String)
deriving DecidableEq, Repr

structure RetryActionContext where
  attemptOrdinal : Nat
  policyRevision : Nat
  remainingAttemptBudget : Nat
  /-- Failures still available before the key reaches the circuit threshold. -/
  remainingSameKeyFailureBudget : Nat
  remainingPrecommitBudgetMs : Option Nat
deriving DecidableEq, Repr

structure RetryAction where
  kind : RetryActionKind
  reasonKey : String
  explanationKey : String
  failureCode : String
  replay : ReplayGateResult
  attemptOrdinal : Nat
  policyRevision : Nat
  remainingAttemptBudget : Nat
  remainingPrecommitBudgetMs : Option Nat
deriving DecidableEq, Repr

def RetryAction.allowsReplan (a : RetryAction) : Bool :=
  match a.kind with
  | .retryCurrentKey => true
  | .tryNextKey => decide (0 < a.remainingAttemptBudget)
  | .stopRequest => false

def RetryAction.stop (failure : ProxyFailure) (context : RetryActionContext)
    (replay : ReplayGateResult) (reasonKey explanationKey : String) : RetryAction where
  kind := .stopRequest
  reasonKey
  explanationKey
  failureCode := (failure.canonical.map (·.publicCode.asStr)).getD failure.code.asStr
  replay
  attemptOrdinal := context.attemptOrdinal
  policyRevision := context.policyRevision
  remainingAttemptBudget := context.remainingAttemptBudget
  remainingPrecommitBudgetMs := context.remainingPrecommitBudgetMs

namespace CanonicalFailure

/-- The provider itself says that the request was turned away unaccepted. -/
def provesPreAcceptance (c : CanonicalFailure) : Bool :=
  decide (c.replaySafety = .replaySafe) && decide (c.requestAcceptance = .rejectedBeforeAcceptance)

/-- A definitely unsent request overrides what the provider leaves uncertain. -/
def replayAllowed (c : CanonicalFailure) (idempotent : Bool) (phase : RequestSendPhase) : Bool :=
  decide (c.replaySafety ≠ .notReplayable) &&
    (idempotent || phase.definitelyNoRequestBytesSent || c.provesPreAcceptance)

end CanonicalFailure

/-- The action of a failure that may be sent again. -/
def RetryAction.go (kind : RetryActionKind) (reasonKey explanationKey : String)
    (canonical : CanonicalFailure) (context : RetryActionContext) : RetryAction where
  kind
  reasonKey
  explanationKey
  failureCode := canonical.publicCode.asStr
  replay := .allowed
  attemptOrdinal := context.attemptOrdinal
  policyRevision := context.policyRevision
  remainingAttemptBudget := context.remainingAttemptBudget
  remainingPrecommitBudgetMs := context.remainingPrecommitBudgetMs

def planWithContext (failure : ProxyFailure) (idempotent committed : Bool)
    (context : RetryActionContext) : RetryAction :=
  if committed ∨ failure.retryClass = .afterCommitStop then
    .stop failure context (.rejected "committed_request") "committed_request"
      "routing.retry.committedStop"
  else
    match failure.canonical with
    | none =>
      .stop failure context (.rejected "missing_canonical_failure") "missing_canonical_failure"
        "routing.retry.missingCanonicalFailure"
    | some canonical =>
      if !canonical.replayAllowed idempotent failure.requestSendPhase then
        .stop failure context (.rejected "replay_gate_rejected") "replay_gate_rejected"
          "routing.retry.replaySuppressed"
      else
        match canonical.retry with
        | .stopRequest =>
          .stop failure context .allowed "classifier_stop" "routing.retry.classifierStop"
        | .tryNextKey =>
          if 0 < context.remainingSameKeyFailureBudget then
            .go .retryCurrentKey "retry_current_key" "routing.retry.retryCurrentKey" canonical
              context
          else if context.remainingAttemptBudget = 0 then
            .stop failure context .allowed "attempt_budget_exhausted"
              "routing.retry.attemptBudgetExhausted"
          else
            .go .tryNextKey "key_attempt_failed" "routing.retry.tryNextKey" canonical context

def actualTerminalForAction (failure : ProxyFailure) (_action : RetryAction) :
    ActualAttemptTerminal :=
  match failure.canonical with
  | none =>
    if failure.source = .local ∨ failure.source = .routing ∨ failure.source = .internal then
      .failedBeforeCommit
    else if failure.requestSendPhase.definitelyNoRequestBytesSent then .failedBeforeCommit
    else .possiblyAccepted
  | some canonical =>
    if failure.requestSendPhase.definitelyNoRequestBytesSent then .failedBeforeCommit
    else
      match canonical.requestAcceptance with
      | .rejectedBeforeAcceptance => .failedBeforeCommit
      | .acceptedOrMayHaveBeenAccepted => .possiblyAccepted
      | .unknown => .possiblyAccepted

/-! ### What the planner allows -/

/-- What has to be known of a failure before the request is sent again. -/
structure Replayable (idempotent : Bool) (failure : ProxyFailure) : Prop where
  uncommitted : failure.retryClass ≠ .afterCommitStop
  classified : ∃ canonical, failure.canonical = some canonical ∧
    canonical.replaySafety ≠ .notReplayable
  unaccepted : idempotent = false →
    failure.requestSendPhase.definitelyNoRequestBytesSent ∨
    ∃ canonical, failure.canonical = some canonical ∧
      canonical.replaySafety = .replaySafe ∧
      canonical.requestAcceptance = .rejectedBeforeAcceptance

/-- What the planner's answers that go on say: the failure may be sent again, and
which budget the answer is charged to. -/
structure GoesOn (failure : ProxyFailure) (idempotent : Bool) (context : RetryActionContext)
    (action : RetryAction) : Prop where
  replayable : Replayable idempotent failure
  retries : action.kind = .retryCurrentKey → 0 < context.remainingSameKeyFailureBudget
  moves : action.kind = .tryNextKey →
    context.remainingSameKeyFailureBudget = 0 ∧ 0 < context.remainingAttemptBudget
  allows : action.allowsReplan

theorem planWithContext_goesOn {failure : ProxyFailure} {idempotent committed : Bool}
    {context : RetryActionContext}
    (h : (planWithContext failure idempotent committed context).kind ≠ .stopRequest) :
    GoesOn failure idempotent context (planWithContext failure idempotent committed context) := by
  unfold planWithContext at h ⊢
  by_cases after : committed = true ∨ failure.retryClass = .afterCommitStop
  · rw [if_pos after] at h
    exact absurd rfl h
  rw [if_neg after] at h ⊢
  cases classified : failure.canonical with
  | none =>
    rw [classified] at h
    exact absurd rfl h
  | some canonical =>
    rw [classified] at h
    dsimp only at h ⊢
    cases allowed : canonical.replayAllowed idempotent failure.requestSendPhase with
    | false =>
      rw [allowed] at h
      exact absurd rfl h
    | true =>
      rw [allowed] at h
      have replayable : Replayable idempotent failure := by
        simp only [CanonicalFailure.replayAllowed, CanonicalFailure.provesPreAcceptance,
          Bool.and_eq_true, Bool.or_eq_true, decide_eq_true_eq] at allowed
        obtain ⟨safe, gate⟩ := allowed
        refine ⟨fun stop => after (.inr stop), ⟨canonical, classified, safe⟩, fun once => ?_⟩
        rcases gate with (idem | unsent) | proven
        · rw [once] at idem
          cases idem
        · exact .inl unsent
        · exact .inr ⟨canonical, classified, proven⟩
      cases retry : canonical.retry with
      | stopRequest =>
        rw [retry] at h
        exact absurd rfl h
      | tryNextKey =>
        rw [retry] at h
        dsimp only [Bool.not_true, Bool.false_eq_true, if_false] at h ⊢
        by_cases same : 0 < context.remainingSameKeyFailureBudget
        · rw [if_pos same]
          exact ⟨replayable, fun _ => same, nofun, rfl⟩
        rw [if_neg same] at h ⊢
        by_cases spent : context.remainingAttemptBudget = 0
        · rw [if_pos spent] at h
          exact absurd rfl h
        rw [if_neg spent]
        have left : 0 < context.remainingAttemptBudget := Nat.pos_of_ne_zero spent
        exact ⟨replayable, nofun, fun _ => ⟨by omega, left⟩, decide_eq_true left⟩

theorem actualTerminal_of_replayable {failure : ProxyFailure} {idempotent : Bool}
    (h : Replayable idempotent failure) (action : RetryAction) (once : idempotent = false) :
    actualTerminalForAction failure action = .failedBeforeCommit := by
  obtain ⟨canonical, classified, -⟩ := h.classified
  unfold actualTerminalForAction
  rw [classified]
  dsimp only
  rcases h.unaccepted once with unsent | ⟨canonical', classified', -, rejected⟩
  · rw [if_pos unsent]
  · rw [classified] at classified'
    cases classified'
    rw [rejected]
    split <;> rfl

/-- The policy a coordinator is given for a request. -/
def fallbackPolicy (idempotent : Bool) : FallbackPolicy where
  hasStableIdempotencyKey := idempotent
  nonIdempotent := !idempotent

/-- What the planner allows, the fallback policy accepts. -/
theorem gates_agree {failure : ProxyFailure} {idempotent : Bool}
    (h : Replayable idempotent failure) (action : RetryAction) :
    (fallbackPolicy idempotent).retrySafe (actualTerminalForAction failure action) := by
  cases idempotent with
  | true => simp [fallbackPolicy, FallbackPolicy.retrySafe]
  | false =>
    rw [actualTerminal_of_replayable h action rfl]
    rfl

end RelayPool.Routing
