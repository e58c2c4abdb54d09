import RelayPool.Alerting.Recorded

/-! Episodes, as a policy means them.

An episode is a function of the observations of its condition: a streak of abnormal ones
that opens it where it meets the trigger rule, and once it is open a streak of healthy
ones that ends it where it meets the recovery rule. The record of an incident keeps two
counters and a time for the streaks (`Shows`); one observation keeps the record and the
episode together wherever the record can follow (`Shows.observe`). -/
namespace RelayPool.Alerting
open Fallible

/-! ### The rules on streaks -/

namespace AlertPolicy

/-- Whether the abnormal observations at these times, unbroken and in order, open an episode. -/
def triggerMet (p : AlertPolicy) (abnormal : List Int) : Bool :=
  match p.triggerMode with
  | .immediate => abnormal ≠ []
  | .consecutiveOccurrences => p.triggerCount.any (· ≤ abnormal.length)
  | .activeDuration => p.triggerDurationSeconds.any fun (seconds : Nat) =>
      abnormal.head?.any fun first => abnormal.getLast?.any fun last =>
        (seconds : Int) * 1000 ≤ last - first

/-- Whether the healthy observations at these times end an open episode: there are enough of
them, or two of them are far enough apart. -/
def recoveryMet (p : AlertPolicy) (healthy : List Int) : Bool :=
  match p.recoveryMode with
  | .consecutiveHealthy => p.recoveryCount.any (· ≤ healthy.length)
  | .healthyDuration => p.recoveryDurationSeconds.any fun (seconds : Nat) =>
      healthy.any fun first => healthy.any fun last => (seconds : Int) * 1000 ≤ last - first

/-- The rules are stated, within their ranges. -/
structure Ruled (p : AlertPolicy) : Prop where
  count : p.triggerMode = .consecutiveOccurrences → ∃ n, p.triggerCount = some n ∧ n ≤ 100
  recoveryCount : p.recoveryMode = .consecutiveHealthy → ∃ n, p.recoveryCount = some n ∧ n ≤ 100
  recoveryDuration : p.recoveryMode = .healthyDuration →
    ∃ seconds, p.recoveryDurationSeconds = some seconds ∧ seconds ≤ 30 * 24 * 60 * 60

theorem ruled_of_valid {p : AlertPolicy} (valid : p.validate = .ok ()) : p.Ruled := by
  unfold validate at valid
  simp only [bind, Except.bind, pure, Except.pure, throw, throwThe, MonadExceptOf.throw,
    check_ok] at valid
  obtain ⟨-, -, -, -, valid⟩ := valid
  split at valid
  · exact (nomatch valid)
  · simp only [check_ok, Bool.not_eq_true', Bool.not_eq_false] at valid
    obtain ⟨counts, -, recoveryCounts, durations, triggers, recoveries, -⟩ := valid
    refine ⟨fun mode => ?_, fun mode => ?_, fun mode => ?_⟩
    · rw [triggerMatches, mode] at triggers
      obtain ⟨n, is⟩ := Option.isSome_iff_exists.mp triggers
      rw [countInRange, is, Option.all_some, decide_eq_true_eq] at counts
      exact ⟨n, is, counts.2⟩
    · rw [recoveryMatches, mode] at recoveries
      obtain ⟨n, is⟩ := Option.isSome_iff_exists.mp recoveries
      rw [countInRange, is, Option.all_some, decide_eq_true_eq] at recoveryCounts
      exact ⟨n, is, recoveryCounts.2⟩
    · rw [recoveryMatches, mode] at recoveries
      obtain ⟨seconds, is⟩ := Option.isSome_iff_exists.mp recoveries
      rw [durationInRange, is, Option.all_some, decide_eq_true_eq] at durations
      exact ⟨seconds, is, durations.2⟩

end AlertPolicy

/-! ### Episodes -/

inductive Phase
  /-- The last episode is over. -/
  | idle
  /-- The times of the abnormal observations of an episode that has not opened. -/
  | pending (abnormal : List Int)
  /-- The times of the healthy observations of an open episode since the last abnormal one. -/
  | opened (healthy : List Int)
deriving DecidableEq, Repr

structure Episode where
  number : Nat
  phase : Phase
deriving DecidableEq, Repr

namespace Episode

/-- The first episode, before its first observation. -/
def start : Episode := ⟨1, .pending []⟩

def opening (p : AlertPolicy) (abnormal : List Int) : Phase :=
  if p.triggerMet abnormal then .opened [] else .pending abnormal

def observeAbnormal (p : AlertPolicy) (at_ : Int) (ep : Episode) : Episode :=
  match ep.phase with
  | .idle => ⟨ep.number + 1, opening p [at_]⟩
  | .pending abnormal => ⟨ep.number, opening p (abnormal ++ [at_])⟩
  | .opened _ => ⟨ep.number, .opened []⟩

def observeHealthy (p : AlertPolicy) (at_ : Int) (ep : Episode) : Episode :=
  match ep.phase with
  | .idle => ep
  | .pending _ => ⟨ep.number, .idle⟩
  | .opened healthy =>
    ⟨ep.number, if p.recoveryMet (healthy ++ [at_]) then .idle else .opened (healthy ++ [at_])⟩

def observe (p : AlertPolicy) (kind : ObservationKind) (at_ : Int) (ep : Episode) : Episode :=
  match kind with
  | .abnormal => ep.observeAbnormal p at_
  | .healthy => ep.observeHealthy p at_
  | .change => ep

/-- What the record cannot follow: an episode past the last number there is, and an abnormal
streak that opens the episode by its duration. -/
def followed (p : AlertPolicy) (kind : ObservationKind) (at_ : Int) (ep : Episode) : Bool :=
  match kind, ep.phase with
  | .abnormal, .idle =>
    ep.number < u32Max ∧ ¬ (p.triggerMode = .activeDuration ∧ p.triggerMet [at_])
  | .abnormal, .pending abnormal =>
    ¬ (p.triggerMode = .activeDuration ∧ p.triggerMet (abnormal ++ [at_]))
  | _, _ => true

end Episode

/-! ### What the record shows -/

/-- The healthy streak of an open episode, as its incident keeps it. -/
structure HealthyStreak (healthy : List Int) (i : Incident) : Prop where
  count : i.consecutiveHealthyCount = min healthy.length u32Max
  since : healthy ≠ [] → ∃ since ∈ healthy, i.healthySinceMs = some since ∧
    ∀ at_ ∈ healthy, since ≤ at_ ∧ at_ ≤ i.lastSeenAtMs

/-- The phase of an episode, as its incident keeps it. -/
def ShowsPhase (i : Incident) : Phase → Prop
  | .idle => i.lifecycleState = .resolved
  | .pending abnormal =>
    i.lifecycleState = .pending ∧ i.consecutiveAbnormalCount = min abnormal.length u32Max
  | .opened healthy =>
    i.lifecycleState = (if healthy = [] then .opened else .recovering) ∧ HealthyStreak healthy i

structure Shows (ep : Episode) (i : Incident) : Prop where
  number : i.episodeNumber = ep.number
  phase : ShowsPhase i ep.phase

/-! ### One observation -/

section Observing
variable {p : AlertPolicy} {o : IncidentObservation} {i i' : Incident} {t : StateTransition}
  {ep : Episode}

theorem saturatingSucc_min (n : Nat) : saturatingSucc (min n u32Max) = min (n + 1) u32Max := by
  unfold saturatingSucc
  omega

/-- The trigger on a record is the rule on its streak, but for a duration. -/
theorem triggerSatisfied_eq (ruled : p.Ruled) {abnormal : List Int} (nonempty : abnormal ≠ [])
    (count : i.consecutiveAbnormalCount = min abnormal.length u32Max) :
    i.triggerSatisfied p = (p.triggerMet abnormal ∧ p.triggerMode ≠ .activeDuration : Bool) := by
  unfold Incident.triggerSatisfied AlertPolicy.triggerMet
  cases mode : p.triggerMode with
  | immediate => simp [nonempty]
  | consecutiveOccurrences =>
    obtain ⟨n, is, le⟩ := ruled.count mode
    have same : n ≤ min abnormal.length u32Max ↔ n ≤ abnormal.length := by
      unfold u32Max
      omega
    simp [is, count, same]
  | activeDuration => simp

theorem shows_maybeOpen (ruled : p.Ruled) {abnormal : List Int} (nonempty : abnormal ≠ [])
    (state : i.lifecycleState = .pending)
    (count : i.consecutiveAbnormalCount = min abnormal.length u32Max)
    (healthyCount : i.consecutiveHealthyCount = 0)
    (followed : ¬ (p.triggerMode = .activeDuration ∧ p.triggerMet abnormal)) (at_ : Int) :
    (i.maybeOpen at_ p).2.episodeNumber = i.episodeNumber ∧
      ShowsPhase (i.maybeOpen at_ p).2 (Episode.opening p abnormal) := by
  have trigger := triggerSatisfied_eq (i := i) ruled nonempty count
  unfold Incident.maybeOpen Episode.opening
  by_cases met : p.triggerMet abnormal
  · have active : p.triggerMode ≠ .activeDuration := fun mode => followed ⟨mode, met⟩
    rw [if_pos (by simp [trigger, met, active]), if_pos met]
    exact ⟨rfl, rfl, healthyCount, fun h => absurd rfl h⟩
  · rw [if_neg (by simp [trigger, met]), if_neg met]
    exact ⟨rfl, state, count⟩

theorem Shows.observeAbnormal (ruled : p.Ruled) (shows_ : Shows ep i)
    (followed : ep.followed p .abnormal o.observedAtMs) :
    Shows (ep.observeAbnormal p o.observedAtMs) (i.observeAbnormal o p).2 := by
  obtain ⟨number, phase⟩ := shows_
  obtain ⟨n, phase_⟩ := ep
  unfold Episode.observeAbnormal Incident.observeAbnormal
  cases phase_ with
  | idle =>
    obtain ⟨room, followed⟩ := of_decide_eq_true followed
    have next : saturatingSucc i.episodeNumber = n + 1 := by
      have number : i.episodeNumber = n := number
      have room : n < u32Max := room
      unfold saturatingSucc
      omega
    have state : i.lifecycleState = .resolved := phase
    rw [state]
    obtain ⟨same, shown⟩ := shows_maybeOpen (i := i.countAbnormal.nextEpisode o.observedAtMs) ruled
      (List.cons_ne_nil o.observedAtMs []) rfl rfl rfl followed o.observedAtMs
    exact ⟨same.trans next, shown⟩
  | pending abnormal =>
    obtain ⟨state, count⟩ := phase
    rw [state]
    have counted : i.countAbnormal.consecutiveAbnormalCount =
        min (abnormal ++ [o.observedAtMs]).length u32Max := by
      rw [List.length_append]
      exact (congrArg saturatingSucc count).trans (saturatingSucc_min _)
    obtain ⟨same, shown⟩ := shows_maybeOpen (i := i.countAbnormal) ruled (by simp)
      state counted rfl (of_decide_eq_true followed) o.observedAtMs
    exact ⟨same.trans number, shown⟩
  | opened healthy =>
    obtain ⟨state, -⟩ := phase
    have streak : HealthyStreak [] i.countAbnormal := ⟨rfl, fun h => absurd rfl h⟩
    by_cases first : healthy = []
    · rw [if_pos first] at state
      rw [state]
      exact ⟨number, state, streak⟩
    · rw [if_neg first] at state
      rw [state]
      exact ⟨number, rfl, rfl, fun h => absurd rfl h⟩

/-- The recovery on a record is the rule on its streak. -/
theorem recovers_eq (ruled : p.Ruled) {healthy : List Int} (streak : HealthyStreak healthy i)
    (nonempty : healthy ≠ []) {at_ : Int} (last : at_ ∈ healthy)
    (latest : ∀ h ∈ healthy, h ≤ at_) : i.recovers at_ p = p.recoveryMet healthy := by
  obtain ⟨count, since⟩ := streak
  obtain ⟨since, mem, is, bounds⟩ := since nonempty
  unfold Incident.recovers recoverySatisfied AlertPolicy.recoveryMet
  cases mode : p.recoveryMode with
  | consecutiveHealthy =>
    obtain ⟨n, stated, le⟩ := ruled.recoveryCount mode
    have same : n ≤ min healthy.length u32Max ↔ n ≤ healthy.length := by
      unfold u32Max
      omega
    simp [stated, count, same]
  | healthyDuration =>
    obtain ⟨seconds, stated, le⟩ := ruled.recoveryDuration mode
    rw [is, stated, Option.any_some]
    dsimp only
    rw [durationMs_eq le]
    have apart : (seconds : Int) * 1000 ≤ clampI64 (at_ - since) ↔
        ∃ first ∈ healthy, ∃ last ∈ healthy, (seconds : Int) * 1000 ≤ last - first := by
      constructor
      · intro h
        refine ⟨since, mem, at_, last, ?_⟩
        unfold clampI64 at h
        omega
      · rintro ⟨a, mema, b, memb, h⟩
        have := (bounds a mema).1
        have := latest b memb
        unfold clampI64
        omega
    rw [Bool.eq_iff_iff]
    simpa using apart

theorem shows_continueRecovery (ruled : p.Ruled) {healthy : List Int} {at_ : Int}
    (streak : HealthyStreak (healthy ++ [at_]) i) (state : i.lifecycleState = .recovering)
    (latest : ∀ h ∈ healthy, h ≤ at_) (waiting : StateTransition) :
    (i.continueRecovery waiting at_ p).2.episodeNumber = i.episodeNumber ∧
      ShowsPhase (i.continueRecovery waiting at_ p).2
        (if p.recoveryMet (healthy ++ [at_]) then .idle else .opened (healthy ++ [at_])) := by
  have nonempty : healthy ++ [at_] ≠ [] := by simp
  have recovers := recovers_eq ruled streak nonempty (List.mem_append_right _ (.head _))
    (List.forall_mem_append.mpr ⟨latest, List.forall_mem_singleton.mpr le_rfl⟩)
  unfold Incident.continueRecovery
  rw [recovers]
  split
  · exact ⟨rfl, rfl⟩
  · exact ⟨rfl, state.trans (if_neg nonempty).symm, streak.count, streak.since⟩

theorem Shows.observeHealthy (ruled : p.Ruled) (shows_ : Shows ep i)
    (ordered : ∀ healthy, ep.phase = .opened healthy → ∀ h ∈ healthy, h ≤ o.observedAtMs)
    (seen : i.lastSeenAtMs = o.observedAtMs) :
    Shows (ep.observeHealthy p o.observedAtMs) (i.observeHealthy o p).2 := by
  obtain ⟨number, phase⟩ := shows_
  obtain ⟨n, phase_⟩ := ep
  unfold Episode.observeHealthy Incident.observeHealthy
  cases phase_ with
  | idle =>
    have state : i.lifecycleState = .resolved := phase
    rw [state]
    exact ⟨number, state⟩
  | pending abnormal =>
    obtain ⟨state, -⟩ := phase
    rw [state]
    exact ⟨number, rfl⟩
  | opened healthy =>
    obtain ⟨state, count, since⟩ := phase
    have latest := ordered healthy rfl
    have counted : i.countHealthy.consecutiveHealthyCount =
        min (healthy ++ [o.observedAtMs]).length u32Max := by
      rw [List.length_append]
      exact (congrArg saturatingSucc count).trans (saturatingSucc_min _)
    by_cases first : healthy = []
    · rw [if_pos first] at state
      rw [state]
      subst first
      have streak : HealthyStreak ([] ++ [o.observedAtMs])
          (i.countHealthy.startRecovery o.observedAtMs) := by
        refine ⟨counted, fun _ => ⟨o.observedAtMs, List.mem_singleton_self _, rfl, ?_⟩⟩
        exact List.forall_mem_singleton.mpr ⟨le_rfl, seen.ge⟩
      obtain ⟨same, shown⟩ := shows_continueRecovery ruled streak rfl latest .recovering
      exact ⟨same.trans number, shown⟩
    · rw [if_neg first] at state
      rw [state]
      obtain ⟨since, mem, is, bounds⟩ := since first
      have streak : HealthyStreak (healthy ++ [o.observedAtMs]) i.countHealthy := by
        refine ⟨counted, fun _ => ⟨since, List.mem_append_left _ mem, is, ?_⟩⟩
        refine List.forall_mem_append.mpr ⟨fun h mem => ⟨(bounds h mem).1, ?_⟩, ?_⟩
        · exact (latest h mem).trans seen.ge
        · exact List.forall_mem_singleton.mpr ⟨latest since mem, seen.ge⟩
      obtain ⟨same, shown⟩ := shows_continueRecovery ruled streak state latest .none
      exact ⟨same.trans number, shown⟩

/-- An observation moves the record as it moves the episode. -/
theorem Shows.observe (ruled : p.Ruled) (shows_ : Shows ep i) (condition : o.kind ≠ .change)
    (applied : IncidentProjector.apply i o p = .ok (t, i'))
    (followed : ep.followed p o.kind o.observedAtMs) :
    Shows (ep.observe p o.kind o.observedAtMs) i' := by
  obtain ⟨-, ordered, moved⟩ := apply_ok_iff.mp applied
  have noted : Shows ep (i.note o) := by
    refine ⟨shows_.number, ?_⟩
    have phase := shows_.phase
    cases is : ep.phase with
    | idle => rwa [is] at phase
    | pending => rwa [is] at phase
    | opened healthy =>
      rw [is] at phase
      obtain ⟨state, count, since⟩ := phase
      refine ⟨state, count, fun nonempty => ?_⟩
      obtain ⟨since, mem, is, bounds⟩ := since nonempty
      exact ⟨since, mem, is, fun h mem => ⟨(bounds h mem).1, (bounds h mem).2.trans ordered⟩⟩
  cases kind : o.kind with
  | abnormal =>
    rw [kind] at moved followed
    have moved : (i.note o).observeAbnormal o p = (t, i') := moved
    have shown := noted.observeAbnormal ruled followed
    rwa [moved] at shown
  | healthy =>
    rw [kind] at moved
    have moved : (i.note o).observeHealthy o p = (t, i') := moved
    have latest : ∀ healthy, ep.phase = .opened healthy → ∀ h ∈ healthy, h ≤ o.observedAtMs := by
      intro healthy is h mem
      have phase := noted.phase
      rw [is] at phase
      obtain ⟨-, -, since⟩ := phase
      obtain ⟨since, -, -, bounds⟩ := since (List.ne_nil_of_mem mem)
      exact (bounds h mem).2
    have shown := noted.observeHealthy ruled latest rfl
    rwa [moved] at shown
  | change => exact absurd kind condition

end Observing

end RelayPool.Alerting
