import RelayPool.Runs
import RelayPool.Routing.Execute

/-! No descent to a lower model after a failed attempt.

Under `noEligibleTarget` a failed attempt is to close the ranks above its own. The
limit that does so is tightened only when a key is left behind; a failure that is
answered by a retry of the key leaves it open. The main result is `ranks_kept`: the
ranks stay closed as long as, while such a failure stands, a target of its rank or a
lower one is still offered. -/
namespace RelayPool.Routing
open Mapping (FallbackTrigger)
open Runs

namespace OutboundAttempt

def failedBeforeCommit (a : OutboundAttempt) : Bool :=
  a.failure.any fun f => decide (actualTerminalForAction f.1 f.2 = .failedBeforeCommit)

/-- The attempt was answered by a retry of its key. -/
def retried (a : OutboundAttempt) : Bool :=
  a.failure.any fun f => decide (f.2.kind = .retryCurrentKey)

end OutboundAttempt

/-- The coordinator keeps to this rank or a lower one. -/
def RouteAdmissionCoordinator.LimitedTo (c : RouteAdmissionCoordinator) (rank : Nat) : Prop :=
  ∃ limit, c.modelFallbackRankLimit = some limit ∧ limit ≤ rank

namespace RouteAdmissionCoordinator

theorem LimitedTo.of_kept {c c' : RouteAdmissionCoordinator} {rank : Nat}
    (same : c'.modelFallbackRankLimit = c.modelFallbackRankLimit) (h : c.LimitedTo rank) :
    c'.LimitedTo rank := by
  obtain ⟨limit, eq, le⟩ := h
  exact ⟨limit, same.trans eq, le⟩

theorem tighten_le (current : Option Nat) (rank : Nat) :
    tightenModelFallbackRankLimit current rank ≤ rank := by
  cases current with
  | none => exact le_rfl
  | some limit => exact min_le_right limit rank

theorem recorded_rankLimit (c : RouteAdmissionCoordinator) (key identity : String)
    (outcome : ActualAttemptTerminal) :
    (c.recordActualTerminalForStationKey key identity outcome).1.modelFallbackRankLimit =
      if c.modelFallbackTrigger = some .noEligibleTarget ∧ outcome = .failedBeforeCommit then
        some (tightenModelFallbackRankLimit c.modelFallbackRankLimit
          ((mapGet c.candidateTargetRanks identity).getD 0))
      else c.modelFallbackRankLimit := by
  unfold recordActualTerminalForStationKey
  dsimp only
  split <;> rfl

/-- A recording never loosens the limit. -/
theorem LimitedTo.recorded {c : RouteAdmissionCoordinator} {rank : Nat} (h : c.LimitedTo rank)
    (key identity : String) (outcome : ActualAttemptTerminal) :
    (c.recordActualTerminalForStationKey key identity outcome).1.LimitedTo rank := by
  obtain ⟨limit, eq, le⟩ := h
  unfold LimitedTo
  rw [recorded_rankLimit]
  split
  · refine ⟨_, rfl, ?_⟩
    rw [eq]
    exact (min_le_left limit _).trans le
  · exact ⟨limit, eq, le⟩

/-- The recording of a failure before commit closes the ranks above its target's. -/
theorem limitedTo_of_recorded {c : RouteAdmissionCoordinator} {identity : String} {rank : Nat}
    (trigger : c.modelFallbackTrigger = some .noEligibleTarget)
    (known : mapGet c.candidateTargetRanks identity = some rank) (key : String) :
    (c.recordActualTerminalForStationKey key identity .failedBeforeCommit).1.LimitedTo rank := by
  unfold LimitedTo
  rw [recorded_rankLimit, if_pos ⟨trigger, rfl⟩, known]
  exact ⟨_, rfl, tighten_le _ _⟩

theorem excludeStationKey_rankLimit (c : RouteAdmissionCoordinator) (key : String) :
    (c.excludeStationKey key).modelFallbackRankLimit = c.modelFallbackRankLimit := by
  unfold excludeStationKey
  split <;> rfl

end RouteAdmissionCoordinator

namespace Execution

/-- No attempt after a failure before commit is on a target of a higher rank. -/
def RanksKept (e : Execution) : Prop :=
  e.attempts.Pairwise fun a b => a.failedBeforeCommit → b.targetRank ≤ a.targetRank

instance (e : Execution) : Decidable e.RanksKept :=
  inferInstanceAs (Decidable (List.Pairwise _ _))

/-- Whenever the request plans while a failure before commit was only answered by a
retry of its key, and the limit is not down to its rank, a key that is not left out
still has an eligible target of that rank or a lower one. -/
def RankOffered (e : Execution) (t : Turn) : Prop :=
  e.Runs t → e.controller.MayPlan (e.input t) →
  ∀ a ∈ e.attempts, a.failedBeforeCommit → a.retried →
    e.controller.LimitedTo a.targetRank ∨ e.controller.Offers e.snapshots.planning a.targetRank

/-- What the turn loads has this fallback trigger. -/
def LoadsTrigger (trigger : FallbackTrigger) (t : Turn) : Prop :=
  ∀ snapshots, t.reload = .ok snapshots → snapshots.planning.modelFallbackTrigger = some trigger

structure RankBound (e : Execution) : Prop where
  kept : e.RanksKept
  limited : e.result = none → ∀ a ∈ e.attempts, a.failedBeforeCommit → a.retried = false →
    e.controller.LimitedTo a.targetRank
  trigger : e.result = none →
    e.snapshots.planning.modelFallbackTrigger = some .noEligibleTarget

theorem rankBound_of_over {e : Execution} (finished : e.result.isSome) (kept : e.RanksKept) :
    RankBound e := by
  have contra : e.result ≠ none := Option.isSome_iff_ne_none.mp finished
  exact ⟨kept, fun running => absurd running contra, fun running => absurd running contra⟩

/-- A target that is taken is of no higher rank than an attempt that failed. -/
theorem rank_le_of_choice {e : Execution} {t : Turn} {route : SelectedRoute} (h : RankBound e)
    (runs : e.Runs t) (offered : e.RankOffered t) (choice : e.Choice t route)
    {a : OutboundAttempt} (ha : a ∈ e.attempts) (failed : a.failedBeforeCommit) :
    route.candidate.targetRank ≤ a.targetRank := by
  have limited : e.controller.LimitedTo a.targetRank →
      route.candidate.targetRank ≤ a.targetRank := by
    intro ⟨limit, eq, le⟩
    have allowed := choice.rankLimit
    rw [eq] at allowed
    exact (of_decide_eq_true allowed).trans le
  cases retried : a.retried with
  | false => exact limited (h.limited runs.running a ha failed retried)
  | true =>
    rcases offered runs choice.may a ha failed retried with limit | offers
    · exact limited limit
    · exact choice.offers _ offers

theorem RankBound.ranksKept {e e' : Execution} (h : RankBound e)
    (attempts : e'.attempts = e.attempts) : e'.RanksKept := by
  unfold RanksKept
  rw [attempts]
  exact h.kept

theorem RankBound.ranksKept_concat {e e' : Execution} {t : Turn} {route : SelectedRoute}
    {failure : Option (ProxyFailure × RetryAction)} (h : RankBound e) (runs : e.Runs t)
    (offered : e.RankOffered t) (choice : e.Choice t route)
    (attempts : e'.attempts =
      e.attempts ++ [(e.picked t route.candidate).outbound route.candidate failure]) :
    e'.RanksKept := by
  unfold RanksKept
  rw [attempts, List.pairwise_append]
  refine ⟨h.kept, List.pairwise_singleton _ _, ?_⟩
  intro a ha b hb failed
  rw [List.mem_singleton.mp hb]
  exact rank_le_of_choice h runs offered choice ha failed

/-- The limits of the earlier attempts stand after a target was taken. -/
theorem RankBound.limited_picked {e : Execution} {t : Turn} {route : SelectedRoute}
    (h : RankBound e) (runs : e.Runs t) (choice : e.Choice t route) {a : OutboundAttempt}
    (ha : a ∈ e.attempts) (failed : a.failedBeforeCommit) (left : a.retried = false) :
    (e.picked t route.candidate).controller.LimitedTo a.targetRank :=
  (h.limited runs.running a ha failed left).of_kept choice.kept.rankLimit

theorem denied_rankLimit (e : Execution) (key : String) :
    (e.denied key).controller.modelFallbackRankLimit = e.controller.modelFallbackRankLimit := by
  unfold denied
  dsimp only
  split
  · rfl
  · exact RouteAdmissionCoordinator.excludeStationKey_rankLimit e.controller key

theorem pass_rankBound {e e' : Execution} {t : Turn} (passes : Passes e t e')
    (offered : e.RankOffered t) (loads : LoadsTrigger .noEligibleTarget t) (h : RankBound e) :
    RankBound e' := by
  cases passes with
  | finished => exact h
  | stops running ended => exact rankBound_of_over ended.finished (h.ranksKept ended.attempts)
  | replans transition snapshots runs _ _ reload =>
    have kept := RouteAdmissionCoordinator.next_kept e.controller (e.input t)
    exact ⟨h.kept, fun _ a ha failed left =>
      (h.limited runs.running a ha failed left).of_kept kept.rankLimit, fun _ => loads _ reload⟩
  | fences route snapshots runs picks _ reload =>
    have attempts := e.picked_attempts t route.candidate
    refine ⟨h.ranksKept attempts, fun _ a ha failed left => ?_, fun _ => loads _ reload⟩
    rw [withSnapshots, attempts] at ha
    exact h.limited_picked runs picks.choice ha failed left
  | denies route runs picks =>
    have attempts := e.picked_attempts t route.candidate
    refine ⟨h.ranksKept attempts, fun _ a ha failed left => ?_, fun _ => ?_⟩
    · rw [denied, attempts] at ha
      exact (h.limited_picked runs picks.choice ha failed left).of_kept (denied_rankLimit _ _)
    · rw [denied, picked_snapshots]
      exact h.trigger runs.running
  | ends route failure runs picks ended =>
    exact rankBound_of_over ended.finished (h.ranksKept_concat runs offered picks.choice
      (ended.attempts.trans (picked_sent_attempts ..)))
  | retries route failure leased runs picks kind =>
    refine ⟨h.ranksKept_concat runs offered picks.choice (picked_sent_attempts ..), ?_, ?_⟩
    · intro _ a ha failed left
      rw [retried, advanced, picked_sent_attempts, List.mem_append, List.mem_singleton] at ha
      rcases ha with ha | rfl
      · exact h.limited_picked runs picks.choice ha failed left
      · -- the new attempt was answered by a retry
        have again : decide (((e.picked t route.candidate).retryAction t failure leased).kind =
          .retryCurrentKey) = false := left
        simp [kind] at again
    · intro _
      rw [retried, advanced, sent, picked_snapshots]
      exact h.trigger runs.running
  | moves route failure leased runs picks kind =>
    have choice := picks.choice
    refine ⟨h.ranksKept_concat runs offered choice (picked_sent_attempts ..), ?_, ?_⟩
    · intro _ a ha failed left
      rw [advanced, Execution.left, picked_sent_attempts, List.mem_append,
        List.mem_singleton] at ha
      rcases ha with ha | rfl
      · exact (h.limited_picked runs choice ha failed left).recorded _ _ _
      · have terminal : actualTerminalForAction failure
            ((e.picked t route.candidate).retryAction t failure leased) = .failedBeforeCommit :=
          of_decide_eq_true failed
        rw [advanced, Execution.left, terminal]
        exact RouteAdmissionCoordinator.limitedTo_of_recorded
          (choice.trigger.trans (h.trigger runs.running)) choice.ranks _
    · intro _
      rw [advanced, Execution.left, sent, picked_snapshots]
      exact h.trigger runs.running

/-- In every run whose snapshots have the trigger `noEligibleTarget` and in which,
while a failure stands that was only retried, its rank is still offered, no attempt
is on a target of a higher rank than an earlier attempt that failed before commit. -/
theorem ranks_kept (request : ExecuteRequest) (turns : List Turn)
    (initially : request.initial.planning.modelFallbackTrigger = some .noEligibleTarget)
    (loads : ∀ t ∈ turns, LoadsTrigger .noEligibleTarget t)
    (offered : Along pass RankOffered (start request) turns) :
    (run pass (start request) turns).RanksKept := by
  have preserved : ∀ e t, RankOffered e t ∧ LoadsTrigger .noEligibleTarget t →
      RankBound e → RankBound (pass e t) :=
    fun e t ⟨offered, loads⟩ h => pass_rankBound (pass_cases e t) offered loads h
  have bound : RankBound (start request) :=
    ⟨List.Pairwise.nil, fun _ => List.forall_mem_nil _, fun _ => initially⟩
  exact (run_invariant_along preserved bound (offered.and_rule loads)).kept

/-! ### Fixed requests -/

/-- Two keys, the second with a fallback target only. -/
def lowerModel : RouteSnapshots where
  planning := plainSnapshot (some .noEligibleTarget)
    [plainKey "first" [plainVariant "first" "model" 0],
      plainKey "second" [plainVariant "second" "fallback" 1]]
  targets := [⟨"first", 1, 0, 0⟩, ⟨"second", 1, 0, 0⟩]
  wellFormed := ⟨by decide +kernel, by decide +kernel⟩
  valid := by decide +kernel
  budget := by decide +kernel

def lowerModelRequest : ExecuteRequest := ⟨true, 1000, [], lowerModel⟩

/-- The first attempt is rate limited, its retry succeeds. -/
theorem ranks_kept_retry :
    let turns := [{ plainTurn lowerModel with attempt := .error rateLimited },
      plainTurn lowerModel]
    (run pass (start lowerModelRequest) turns).attempts.length = 2 ∧
      (run pass (start lowerModelRequest) turns).RanksKept := by
  refine ⟨by decide +kernel, ranks_kept lowerModelRequest _ rfl ?_ ⟨?_, ?_, trivial⟩⟩
  · intro t ht
    simp only [List.mem_cons, List.not_mem_nil, or_false] at ht
    rcases ht with rfl | rfl <;> exact fun _ loaded => by cases loaded; rfl
  · exact fun _ _ => List.forall_mem_nil _
  · intro _ _ a _ _ _
    refine .inr ⟨plainKey "first" [plainVariant "first" "model" 0], by decide +kernel,
      by decide +kernel, by decide +kernel, some (plainVariant "first" "model" 0),
      by decide +kernel, Nat.zero_le _⟩

/-- The first attempt is rate limited and answered by a retry; the circuit of its key
has opened before the retry is admitted, and the lower model is tried. -/
theorem denied_retry_descends :
    ¬∀ (request : ExecuteRequest) (turns : List Turn),
      request.initial.planning.modelFallbackTrigger = some .noEligibleTarget →
      (∀ t ∈ turns, LoadsTrigger .noEligibleTarget t) →
      (run pass (start request) turns).RanksKept := by
  intro always
  have descends := always lowerModelRequest
    [{ plainTurn lowerModel with attempt := .error rateLimited },
      { plainTurn lowerModel with circuit := .ok .deniedOpenCooldown },
      plainTurn lowerModel, plainTurn lowerModel] rfl (by
      intro t ht
      simp only [List.mem_cons, List.not_mem_nil, or_false] at ht
      rcases ht with rfl | rfl | rfl | rfl <;> exact fun _ loaded => by cases loaded; rfl)
  exact absurd descends (by decide +kernel)

end Execution

end RelayPool.Routing
