import RelayPool.Runs
import RelayPool.Routing.Admission

/-! When a model fallback that waits for exhausted retries opens.

The gate of `next` is meant to stay closed until an outbound attempt on a target
of rank 0 was recorded. It also reads the keys the request is done with, and these
include keys no request byte was ever sent to. The main result is
`fallback_after_attempt`: no target of a higher rank is selected before a rank-0
attempt as long as no key left out so far is, in the snapshot planned on, a
rank-0 candidate. -/
namespace RelayPool.Routing
open Mapping (FallbackTrigger)
open Runs

/-- The operations of a coordinator. -/
inductive CoordinatorOp where
  | next (input : AdmissionPlanningInput)
  | recordActualTerminal (stationKeyId routingIdentity : String)
      (outcome : ActualAttemptTerminal)
  | recordRetryAttempt
  | excludeAttemptedKey (stationKeyId : String)
  | excludeStationKey (stationKeyId : String)

/-- The rank of the target an answer selects. -/
def selectedRank : Except AdmissionFailure AdmissionDecision → Option Nat
  | .ok (.selected route) => some route.candidate.targetRank
  | _ => none

/-- A coordinator with what was asked of it: the rank of the target it selected
last, and whether an outbound attempt on a target of rank 0 was recorded. -/
structure Conversation where
  coordinator : RouteAdmissionCoordinator
  lastRank : Option Nat
  rankZeroAttempted : Bool

namespace Conversation

def start (settings : AdmissionSettings) : Conversation :=
  ⟨.new settings, none, false⟩

def step (s : Conversation) : CoordinatorOp → Conversation
  | .next input =>
    let (coordinator, answer) := s.coordinator.next input
    { s with coordinator, lastRank := (selectedRank answer).or s.lastRank }
  | .recordActualTerminal key identity outcome =>
    { s with
      coordinator := (s.coordinator.recordActualTerminalForStationKey key identity outcome).1
      rankZeroAttempted := s.rankZeroAttempted ||
        decide (mapGet s.coordinator.candidateTargetRanks identity = some 0) }
  | .recordRetryAttempt =>
    { s with
      coordinator := s.coordinator.recordRetryAttempt
      rankZeroAttempted := s.rankZeroAttempted || decide (s.lastRank = some 0) }
  | .excludeAttemptedKey key =>
    { s with coordinator := s.coordinator.excludeAttemptedKey key }
  | .excludeStationKey key =>
    { s with coordinator := s.coordinator.excludeStationKey key }

/-- The planning snapshots of a step have this fallback trigger. -/
def UsesTrigger (trigger : FallbackTrigger) : CoordinatorOp → Prop
  | .next input => input.planningSnapshot.modelFallbackTrigger = some trigger
  | _ => True

/-- A key that is left out is not a rank-0 candidate of the snapshot. -/
def KeepsRankZero (c : RouteAdmissionCoordinator) (s : PlanningSnapshot) : Prop :=
  ∀ candidate ∈ s.candidates, c.progress.excludesStationKey candidate.stationKeyId →
    candidate.modelVariants ≠ [] ∧ ∀ v ∈ candidate.modelVariants, v.targetRank ≠ 0

/-- Before a rank-0 attempt, the snapshot planned on has no rank-0 candidate whose
key is left out, or it still offers a target of rank 0. -/
def RankZeroInPlay (s : Conversation) : CoordinatorOp → Prop
  | .next input => s.rankZeroAttempted = false →
    KeepsRankZero s.coordinator input.planningSnapshot ∨
      s.coordinator.Offers input.planningSnapshot 0
  | _ => True

/-- A target of a rank above 0 is selected only after a rank-0 attempt. -/
def FallsBackAfterAttempt (s : Conversation) : CoordinatorOp → Prop
  | .next input => ∀ rank, selectedRank (s.coordinator.next input).2 = some rank → 0 < rank →
    s.rankZeroAttempted = true
  | _ => True

theorem selected_of_selectedRank {answer : Except AdmissionFailure AdmissionDecision} {rank : Nat}
    (h : selectedRank answer = some rank) :
    ∃ route, answer = .ok (.selected route) ∧ route.candidate.targetRank = rank := by
  unfold selectedRank at h
  split at h
  · rename_i route
    exact ⟨route, rfl, Option.some.inj h⟩
  · cases h

/-- The ranks the gate reads are ranks of recorded attempts. -/
def RanksRecorded (s : Conversation) : Prop :=
  0 ∈ s.coordinator.attemptedModelTargetRanks → s.rankZeroAttempted = true

theorem step_ranksRecorded (s : Conversation) (op : CoordinatorOp) (h : RanksRecorded s) :
    RanksRecorded (s.step op) := by
  cases op with
  | next input =>
    intro zero
    have kept := RouteAdmissionCoordinator.next_kept s.coordinator input
    exact h (kept.attemptedRanks ▸ zero)
  | recordActualTerminal key identity outcome =>
    intro zero
    have ranks : (s.coordinator.recordActualTerminalForStationKey key identity
        outcome).1.attemptedModelTargetRanks =
        (mapGet s.coordinator.candidateTargetRanks identity).elim
          s.coordinator.attemptedModelTargetRanks
          (insert · s.coordinator.attemptedModelTargetRanks) := by
      unfold RouteAdmissionCoordinator.recordActualTerminalForStationKey
      dsimp only
      split <;> rfl
    change 0 ∈ (s.coordinator.recordActualTerminalForStationKey key identity
      outcome).1.attemptedModelTargetRanks at zero
    rw [ranks] at zero
    show (s.rankZeroAttempted || _) = true
    cases rank : mapGet s.coordinator.candidateTargetRanks identity with
    | none =>
      rw [rank] at zero
      rw [h zero, Bool.true_or]
    | some r =>
      rw [rank] at zero
      rcases Finset.mem_insert.mp zero with rfl | zero
      · simp
      · rw [h zero, Bool.true_or]
  | recordRetryAttempt =>
    intro zero
    show (s.rankZeroAttempted || _) = true
    rw [h zero, Bool.true_or]
  | excludeAttemptedKey key => exact h
  | excludeStationKey key =>
    intro zero
    refine h ?_
    have same : (s.coordinator.excludeStationKey key).attemptedModelTargetRanks =
        s.coordinator.attemptedModelTargetRanks := by
      unfold RouteAdmissionCoordinator.excludeStationKey
      split <;> rfl
    exact same ▸ zero

/-- With its rank-0 keys in play a request opens the gate by a recorded attempt only. -/
theorem open_of_keepsRankZero {c : RouteAdmissionCoordinator} {s : PlanningSnapshot}
    (keeps : KeepsRankZero c s)
    (h : retryExhaustedFallbackIsOpen s.candidates c.progress c.attemptedModelTargetRanks) :
    0 ∈ c.attemptedModelTargetRanks := by
  simp only [retryExhaustedFallbackIsOpen, Bool.or_eq_true, decide_eq_true_eq, List.any_eq_true,
    Bool.and_eq_true] at h
  rcases h with h | ⟨candidate, hc, excluded, zero⟩
  · exact h
  obtain ⟨some, ranks⟩ := keeps candidate hc excluded
  rcases zero with empty | ⟨v, hv, zero⟩
  · exact absurd (List.isEmpty_iff.mp empty) some
  · exact absurd zero (ranks v hv)

/-- In every run of a coordinator whose snapshots wait for exhausted retries, and
that plans only while the keys left out are no rank-0 candidates until a rank-0
attempt was recorded, no target of a higher rank is selected before that. -/
theorem fallback_after_attempt (settings : AdmissionSettings) (ops : List CoordinatorOp)
    (trigger : ∀ op ∈ ops, UsesTrigger .retryExhaustedBeforeOutput op)
    (inPlay : Along step RankZeroInPlay (start settings) ops) :
    Along step FallsBackAfterAttempt (start settings) ops := by
  have preserved : ∀ s op, RankZeroInPlay s op ∧ UsesTrigger .retryExhaustedBeforeOutput op →
      RanksRecorded s → FallsBackAfterAttempt s op ∧ RanksRecorded (s.step op) := by
    intro s op ⟨inPlay, trigger⟩ recorded
    refine ⟨?_, step_ranksRecorded s op recorded⟩
    cases op with
    | next input =>
      intro rank selected positive
      obtain ⟨route, ok, rfl⟩ := selected_of_selectedRank selected
      obtain ⟨plan, selects⟩ := RouteAdmissionCoordinator.next_selected ok
      have opened := selects.gate.fallback trigger (selects.targetRank ▸ positive)
      cases attempted : s.rankZeroAttempted with
      | true => rfl
      | false =>
        rcases inPlay attempted with keeps | offers
        · have := recorded (open_of_keepsRankZero keeps opened)
          rw [attempted] at this
          cases this
        · have := selects.rank_le_of_offers offers
          omega
    | _ => trivial
  refine (inPlay.and_rule trigger).imp_invariant preserved ?_
  intro zero
  exact absurd zero (Finset.notMem_empty 0)

/-! ### A fixed request -/

/-- Two keys, the second with a fallback target only. -/
def twoRanks : PlanningSnapshot :=
  plainSnapshot (some .retryExhaustedBeforeOutput)
    [plainKey "first" [plainVariant "first" "model" 0],
      plainKey "second" [plainVariant "second" "fallback" 1]]

def plainSettings : AdmissionSettings := ⟨1000, 1, 1, ⟨true, false⟩, twoRanks.attemptBudget⟩

/-- A snapshot planned on with every counter at zero. -/
def plainInput (s : PlanningSnapshot) : AdmissionPlanningInput where
  executionCandidates := (loadOperationalRouteSnapshot [] s).candidates
  planningSnapshot := s
  rootSeed := []
  profiles := (loadOperationalRouteSnapshot
    (s.candidates.map fun c => ⟨c.stationKeyId, c.credentialRevision, 0, 0⟩) s).profiles
  active := fun _ _ => 0
  waiting := fun _ => 0
  currentRuntimeOverlayRevision := 1
  nowMs := 0
  maxWaitersPerConstraint := 1

/-- The first key fails its attempt, and the fallback is selected. -/
theorem fallback_after_attempt_recorded :
    let identity := (plainVariant "first" "model" 0).identityKey
    let ops := [CoordinatorOp.next (plainInput twoRanks),
      .recordActualTerminal "first" identity .failedBeforeCommit, .next (plainInput twoRanks)]
    selectedRank ((run step (start plainSettings) (ops.take 2)).coordinator.next
      (plainInput twoRanks)).2 = some 1 ∧
    Along step FallsBackAfterAttempt (start plainSettings) ops := by
  have inPlay : ∀ c : RouteAdmissionCoordinator, c.progress.actualAttemptExclusions = ∅ →
      KeepsRankZero c twoRanks := by
    intro c none candidate _ excluded
    simp [RouteProgress.excludesStationKey, none] at excluded
  refine ⟨by decide +kernel, fallback_after_attempt plainSettings _ ?_ ⟨?_, trivial, ?_, trivial⟩⟩
  · intro op hop
    simp only [List.mem_cons, List.not_mem_nil, or_false] at hop
    rcases hop with rfl | rfl | rfl <;> trivial
  · exact fun _ => .inl (inPlay _ rfl)
  · intro unattempted
    exact absurd unattempted (by decide +kernel)

/-- The first key is denied by its circuit before any byte was sent, and the
fallback is selected. -/
theorem denial_opens_fallback :
    ¬∀ (settings : AdmissionSettings) (ops : List CoordinatorOp),
      (∀ op ∈ ops, UsesTrigger .retryExhaustedBeforeOutput op) →
      Along step FallsBackAfterAttempt (start settings) ops := by
  intro always
  obtain ⟨-, -, last, -⟩ := always plainSettings
    [.next (plainInput twoRanks), .excludeStationKey "first", .next (plainInput twoRanks)] (by
      intro op hop
      simp only [List.mem_cons, List.not_mem_nil, or_false] at hop
      rcases hop with rfl | rfl | rfl <;> trivial)
  exact absurd (last 1 (by decide +kernel) one_pos) (by decide +kernel)

end Conversation

end RelayPool.Routing
