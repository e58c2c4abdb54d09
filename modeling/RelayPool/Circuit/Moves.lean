import RelayPool.Fallible
import RelayPool.Runs
import RelayPool.Circuit.Reducer

/-! What the reducer can do.

`CircuitMove` lists the outcomes of an operation, one constructor for each way
through the reducer that ends without an error, with the guard that selects it
and the circuit it leaves. `apply_moves` says the list is complete, so a fact
about all operations is proved by going through it and never by unfolding them.

A `CircuitStep` is an operation under the policy in force when it is called. The
store rebuilds the circuit from its row at every call, so each step of a run may
come with another valid config; `run` starts from a new circuit. -/
namespace RelayPool.Circuit
open Fallible

inductive CircuitOp
  | admitAttempt (nowMs deadlineAtMs : UInt64) (leaseId : String)
  | finish (nowMs : UInt64) (leaseId : Option String) (success boundaryCrossed : Bool)
  | reapExpiredLease (nowMs : UInt64) (leaseId : String)
deriving DecidableEq, Repr

/-- The clock an operation is called with. -/
def CircuitOp.nowMs : CircuitOp → UInt64
  | .admitAttempt now _ _ => now
  | .finish now _ _ _ => now
  | .reapExpiredLease now _ => now

inductive CircuitReply
  | admission (reply : CircuitAdmission)
  | transition (reply : CircuitTransition)
  | reaped (reply : Bool)
deriving DecidableEq, Repr

namespace StationKeyCircuit
open StationKeyCircuitState

def apply (c : StationKeyCircuit) : CircuitOp → Except CircuitError (CircuitReply × StationKeyCircuit)
  | .admitAttempt now deadline lease =>
    (c.admitAttempt now deadline lease).map fun (reply, c') => (.admission reply, c')
  | .finish now lease success crossed =>
    (c.finish now lease success crossed).map fun (reply, c') => (.transition reply, c')
  | .reapExpiredLease now lease =>
    (c.reapExpiredLease now lease).map fun (reply, c') => (.reaped reply, c')

/-- The circuit after an operation; an error leaves it alone. -/
def next (c : StationKeyCircuit) (op : CircuitOp) : StationKeyCircuit :=
  match c.apply op with
  | .ok (_, c') => c'
  | .error _ => c

/-- Closed with another policy revision and streak, as every counted result leaves it. -/
def counted (c : StationKeyCircuit) (stateRevision : UInt64) (consecutiveFailures : UInt16)
    (reopenLevel : UInt32) : StationKeyCircuit :=
  { c with
    policyRevision := c.config.policyRevision
    leasePolicy := none
    state := .closed (bumpRevision stateRevision) consecutiveFailures reopenLevel }

/-! ### The fields an update leaves -/

@[simp] theorem withConfig_config (c : StationKeyCircuit) (config : StationKeyCircuitConfig) :
    (c.withConfig config).config = config := rfl

@[simp] theorem withConfig_policyRevision (c : StationKeyCircuit)
    (config : StationKeyCircuitConfig) :
    (c.withConfig config).policyRevision = c.policyRevision := rfl

@[simp] theorem withConfig_leasePolicy (c : StationKeyCircuit) (config : StationKeyCircuitConfig) :
    (c.withConfig config).leasePolicy = c.leasePolicy := rfl

@[simp] theorem withConfig_state (c : StationKeyCircuit) (config : StationKeyCircuitConfig) :
    (c.withConfig config).state = c.state := rfl

@[simp] theorem openWithPolicy_state (c : StationKeyCircuit) (now : UInt64) (f : UInt16)
    (l : UInt32) (revision wait : UInt64) :
    (c.openWithPolicy now f l revision wait).state =
      .open (bumpRevision c.state.stateRevision) now (now.saturatingAdd
        (cooldown wait c.config.maxCooldownMs (max (l.saturatingAdd 1) 1))) f
        (max (l.saturatingAdd 1) 1) := rfl

@[simp] theorem openWithPolicy_leasePolicy (c : StationKeyCircuit) (now : UInt64) (f : UInt16)
    (l : UInt32) (revision wait : UInt64) :
    (c.openWithPolicy now f l revision wait).leasePolicy = none := rfl

@[simp] theorem grantLease_state (c : StationKeyCircuit) (r : UInt64) (lease : String)
    (deadline : UInt64) (n : UInt16) (l : UInt32) :
    (c.grantLease r lease deadline n l).state =
      .halfOpen r (some lease) r (some deadline) n l := rfl

@[simp] theorem counted_state (c : StationKeyCircuit) (r : UInt64) (f : UInt16) (l : UInt32) :
    (c.counted r f l).state = .closed (bumpRevision r) f l := rfl

end StationKeyCircuit
open StationKeyCircuit

/-! ### The moves -/

inductive CircuitMove (c : StationKeyCircuit) :
    CircuitOp → CircuitReply → StationKeyCircuit → Prop
  /-- The policy now in force has a threshold the streak already meets. -/
  | admitReached {now deadline lease r f l} : c.state = .closed r f l →
      c.config.consecutiveFailureThreshold ≤ f →
      CircuitMove c (.admitAttempt now deadline lease) (.admission .deniedOpenCooldown)
        (c.openWithPolicy now f l c.config.policyRevision c.config.recoveryWaitMs)
  | admitAdopt {now deadline lease r f l} : c.state = .closed r f l →
      f < c.config.consecutiveFailureThreshold → c.policyRevision ≠ c.config.policyRevision →
      CircuitMove c (.admitAttempt now deadline lease) (.admission .allowedClosed)
        { c with policyRevision := c.config.policyRevision, state := .closed (bumpRevision r) f l }
  | admitClosed {now deadline lease r f l} : c.state = .closed r f l →
      f < c.config.consecutiveFailureThreshold → c.policyRevision = c.config.policyRevision →
      CircuitMove c (.admitAttempt now deadline lease) (.admission .allowedClosed) c
  | admitOpenAdopt {now deadline lease r t u f l} : c.state = .open r t u f l → now < u →
      c.policyRevision ≠ c.config.policyRevision →
      CircuitMove c (.admitAttempt now deadline lease) (.admission .deniedOpenCooldown)
        { c with policyRevision := c.config.policyRevision, state := .open (bumpRevision r) t u f l }
  | admitOpen {now deadline lease r t u f l} : c.state = .open r t u f l → now < u →
      c.policyRevision = c.config.policyRevision →
      CircuitMove c (.admitAttempt now deadline lease) (.admission .deniedOpenCooldown) c
  /-- The cooldown is over; a policy adopted on the way takes a revision of its own. -/
  | admitProbe {now deadline lease r t u f l} : c.state = .open r t u f l → u ≤ now →
      now ≤ deadline → lease.isEmpty = false →
      CircuitMove c (.admitAttempt now deadline lease) (.admission .allowedHalfOpen)
        (c.grantLease (bumpRevision
          (if c.policyRevision ≠ c.config.policyRevision then bumpRevision r else r))
          lease deadline 0 l)
  | admitBusy {now deadline lease r active lr e n l} :
      c.state = .halfOpen r (some active) lr e n l →
      CircuitMove c (.admitAttempt now deadline lease) (.admission .deniedHalfOpenLease) c
  | admitIdle {now deadline lease r lr e n l} : c.state = .halfOpen r none lr e n l →
      now ≤ deadline → lease.isEmpty = false →
      CircuitMove c (.admitAttempt now deadline lease) (.admission .allowedHalfOpen)
        (c.grantLease (bumpRevision r) lease deadline n l)
  | finishUncrossed {now lease success r f l} : c.state = .closed r f l →
      CircuitMove c (.finish now lease success false) (.transition .observed) c
  | finishSuccess {now lease r f l} : c.state = .closed r f l →
      CircuitMove c (.finish now lease true true) (.transition .observed) (c.counted r 0 l)
  | finishFailure {now lease r f l} : c.state = .closed r f l →
      f.saturatingAdd 1 < c.config.consecutiveFailureThreshold →
      CircuitMove c (.finish now lease false true) (.transition .observed)
        (c.counted r (f.saturatingAdd 1) l)
  | finishOpens {now lease r f l} : c.state = .closed r f l →
      c.config.consecutiveFailureThreshold ≤ f.saturatingAdd 1 →
      CircuitMove c (.finish now lease false true) (.transition .opened)
        (c.openWithPolicy now (f.saturatingAdd 1) l c.config.policyRevision
          c.config.recoveryWaitMs)
  /-- Open, or Half-Open with the result of a lease that is not the active one. -/
  | finishLate {now lease success crossed} : ¬ c.state.IsClosed →
      (c.state.leaseId = none ∨ c.state.leaseId ≠ lease) →
      CircuitMove c (.finish now lease success crossed) (.transition .ignoredLateResult) c
  | finishReleased {now active success r lr e n l} :
      c.state = .halfOpen r (some active) lr e n l →
      CircuitMove c (.finish now (some active) success false) (.transition .observed)
        { c with leasePolicy := none, state := .halfOpen r none r none n l }
  | finishExpired {now active success r lr expires n l policy} :
      c.state = .halfOpen r (some active) lr (some expires) n l → expires ≤ now →
      c.leasePolicy = some policy →
      CircuitMove c (.finish now (some active) success true) (.transition .reopened)
        (c.openWithPolicy now 0 l policy.policyRevision policy.recoveryWaitMs)
  | finishCloses {now active r lr e n l policy} :
      c.state = .halfOpen r (some active) lr e n l → e.all (now < ·) →
      c.leasePolicy = some policy → policy.recoverySuccessThreshold ≤ n.saturatingAdd 1 →
      CircuitMove c (.finish now (some active) true true) (.transition .closed)
        { c with
          policyRevision := policy.policyRevision, leasePolicy := none
          state := .closed (bumpRevision r) 0 0 }
  | finishRecovers {now active r lr e n l policy} :
      c.state = .halfOpen r (some active) lr e n l → e.all (now < ·) →
      c.leasePolicy = some policy → n.saturatingAdd 1 < policy.recoverySuccessThreshold →
      CircuitMove c (.finish now (some active) true true) (.transition .recoverySucceeded)
        { c with
          policyRevision := policy.policyRevision, leasePolicy := none
          state := .halfOpen (bumpRevision r) none (bumpRevision r) none (n.saturatingAdd 1) l }
  | finishReopens {now active r lr e n l policy} :
      c.state = .halfOpen r (some active) lr e n l → e.all (now < ·) →
      c.leasePolicy = some policy →
      CircuitMove c (.finish now (some active) false true) (.transition .reopened)
        (c.openWithPolicy now 0 l policy.policyRevision policy.recoveryWaitMs)
  | reapReopens {now active r lr expires n l policy} :
      c.state = .halfOpen r (some active) lr (some expires) n l → expires ≤ now →
      c.leasePolicy = some policy →
      CircuitMove c (.reapExpiredLease now active) (.reaped true)
        (c.openWithPolicy now 0 l policy.policyRevision policy.recoveryWaitMs)
  | reapNothing {now lease} :
      (c.state.leaseId ≠ some lease ∨ c.state.leaseExpiresAtMs.all (now < ·)) →
      CircuitMove c (.reapExpiredLease now lease) (.reaped false) c

theorem admitAttempt_moves {c c' : StationKeyCircuit} {now deadline : UInt64} {lease : String}
    {reply : CircuitAdmission} (h : c.admitAttempt now deadline lease = .ok (reply, c')) :
    CircuitMove c (.admitAttempt now deadline lease) (.admission reply) c' := by
  unfold admitAttempt at h
  split at h
  · cases h
  rename_i hdeadline
  split at h
  · cases h
  rename_i hlease
  have hdeadline : now ≤ deadline := UInt64.not_lt.mp hdeadline
  have hlease : lease.isEmpty = false := by simpa using hlease
  split at h
  · rename_i r f l hs
    split at h
    · rename_i hf
      cases h
      exact .admitReached hs hf
    rename_i hf
    split at h
    · rename_i hp
      cases h
      exact .admitAdopt hs (UInt16.not_le.mp hf) hp
    · rename_i hp
      cases h
      exact .admitClosed hs (UInt16.not_le.mp hf) (not_not.mp hp)
  · rename_i r t u f l hs
    by_cases hu : now < u
    · simp only [hu, if_true] at h
      split at h <;> rename_i hp <;> cases h
      · exact .admitOpenAdopt hs hu hp
      · exact .admitOpen hs hu (not_not.mp hp)
    · simp only [hu, if_false] at h
      have grant := CircuitMove.admitProbe hs (UInt64.not_lt.mp hu) hdeadline hlease
      split at h <;> rename_i hp <;> cases h
      · rwa [if_pos hp] at grant
      · rw [if_neg hp] at grant
        rwa [hs]
  · rename_i hs
    cases h
    exact .admitBusy hs
  · rename_i hs
    cases h
    exact .admitIdle hs hdeadline hlease

/-- A computation that asks for the lease policy has ended without an error. -/
theorem activeLeasePolicy_bind {α : Type} {c : StationKeyCircuit} {a : α}
    {f : StationKeyCircuitLeasePolicy → Except CircuitError α}
    (h : c.activeLeasePolicy >>= f = .ok a) : ∃ policy, c.leasePolicy = some policy ∧ f policy = .ok a := by
  unfold activeLeasePolicy at h
  split at h
  · exact ⟨_, ‹_›, h⟩
  · cases h

theorem finish_moves {c c' : StationKeyCircuit} {now : UInt64} {lease : Option String}
    {success crossed : Bool} {reply : CircuitTransition}
    (h : c.finish now lease success crossed = .ok (reply, c')) :
    CircuitMove c (.finish now lease success crossed) (.transition reply) c' := by
  unfold finish at h
  split at h
  · rename_i r f l hs
    cases crossed with
    | false =>
      cases h
      exact .finishUncrossed hs
    | true =>
      cases success with
      | true =>
        cases h
        exact .finishSuccess hs
      | false =>
        simp only [Bool.not_true, Bool.false_eq_true, if_false] at h
        split at h <;> rename_i hf <;> cases h
        · exact .finishFailure hs hf
        · exact .finishOpens hs (UInt16.not_lt.mp hf)
  · rename_i hs
    cases h
    exact .finishLate (by simp [hs]) (by simp [hs])
  · rename_i hs
    cases h
    exact .finishLate (by simp [hs]) (by simp [hs])
  · rename_i r active lr e n l hs
    split at h
    · rename_i hlease
      cases h
      refine .finishLate (by simp [hs]) (.inr ?_)
      rw [hs]
      exact hlease.symm
    rename_i hlease
    obtain rfl : lease = some active := not_not.mp hlease
    cases crossed with
    | false =>
      cases h
      exact .finishReleased hs
    | true =>
      simp only [Bool.not_true, Bool.false_eq_true, if_false] at h
      split at h
      · rename_i hexpired
        cases e with
        | none => cases hexpired
        | some expires =>
          obtain ⟨policy, hpolicy, h⟩ := activeLeasePolicy_bind h
          cases h
          exact .finishExpired hs (by simpa using hexpired) hpolicy
      rename_i hlive
      have hlive : e.all (now < ·) := by
        cases e with
        | none => rfl
        | some expires => simpa using hlive
      obtain ⟨policy, hpolicy, h⟩ := activeLeasePolicy_bind h
      cases success with
      | true =>
        simp only [if_true] at h
        split at h <;> rename_i hn <;> cases h
        · exact .finishCloses hs hlive hpolicy hn
        · exact .finishRecovers hs hlive hpolicy (UInt16.not_le.mp hn)
      | false =>
        cases h
        exact .finishReopens hs hlive hpolicy

theorem reapExpiredLease_moves {c c' : StationKeyCircuit} {now : UInt64} {lease : String}
    {reply : Bool} (h : c.reapExpiredLease now lease = .ok (reply, c')) :
    CircuitMove c (.reapExpiredLease now lease) (.reaped reply) c' := by
  unfold reapExpiredLease at h
  split at h
  · rename_i r active lr expires n l hs
    split at h
    · rename_i hkept
      cases h
      refine .reapNothing ?_
      simpa [hs] using hkept
    rename_i hexpired
    obtain ⟨hactive, hnow⟩ := not_or.mp hexpired
    obtain rfl := not_not.mp hactive
    obtain ⟨policy, hpolicy, h⟩ := activeLeasePolicy_bind h
    cases h
    exact .reapReopens hs (UInt64.not_lt.mp hnow) hpolicy
  · rename_i hs
    cases h
    refine .reapNothing ?_
    cases hstate : c.state with
    | closed => simp
    | «open» => simp
    | halfOpen r active lr e n l =>
      cases active with
      | none => simp
      | some active =>
        cases e with
        | none => simp
        | some expires => exact absurd hstate (hs r active lr expires n l)

/-- The list is complete. -/
theorem apply_moves {c c' : StationKeyCircuit} {op : CircuitOp} {reply : CircuitReply}
    (h : c.apply op = .ok (reply, c')) : CircuitMove c op reply c' := by
  cases op with
  | admitAttempt now deadline lease =>
    obtain ⟨⟨reply, c'⟩, h, rfl, rfl⟩ := map_ok.mp h
    exact admitAttempt_moves h
  | finish now lease success crossed =>
    obtain ⟨⟨reply, c'⟩, h, rfl, rfl⟩ := map_ok.mp h
    exact finish_moves h
  | reapExpiredLease now lease =>
    obtain ⟨⟨reply, c'⟩, h, rfl, rfl⟩ := map_ok.mp h
    exact reapExpiredLease_moves h

end RelayPool.Circuit
