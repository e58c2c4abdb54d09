import RelayPool.Circuit.Cooldown
import RelayPool.Circuit.Late
import RelayPool.Generation.Replay

/-! What the replay sees of the live circuit.

Under one policy the replay is to arrive at the columns of the live row, but for
a probe that is still out, which has left no event yet: they are compared with
the columns when no probe was out last (`settled`). An event does not keep all
that the live reducer decides by, so they agree only as long as every operation
is `Faithful`: `mirrors_step` says an operation keeps them together exactly then,
and `replay_mirrors` is the run.

No operation that leaves the circuit Half-Open without a probe is faithful: the
live row clears the failures and the times the replay keeps. -/
namespace RelayPool.Generation
open RelayPool.Circuit Fallible

/-! ### One policy -/

/-- The request asks for the policy a config carries. -/
structure Matches (request : CircuitGenerationBuildRequest) (config : StationKeyCircuitConfig) :
    Prop where
  failures : request.consecutiveFailureThreshold = config.consecutiveFailureThreshold
  recoveries : request.recoverySuccessThreshold = config.recoverySuccessThreshold
  wait : request.recoveryWaitMs = config.recoveryWaitMs
  maxCooldown : request.maxCooldownMs = config.maxCooldownMs

/-- A request the rebuild accepts is one whose policy the live store does not clamp. -/
theorem request_matches {policy : CircuitPolicy} {watermark : UInt64} {evaluation : Int}
    (h : validateCircuitRequest (.of policy watermark evaluation) = .ok ()) :
    policy.policyRevision ≠ 0 ∧ Matches (.of policy watermark evaluation) policy.config := by
  unfold validateCircuitRequest at h
  split at h
  · cases h
  rename_i hvalid
  simp only [not_or, CircuitGenerationBuildRequest.of] at hvalid
  obtain ⟨hr, hfailures, hrecoveries, hwait, hmax, -⟩ := hvalid
  have hone16 (a : UInt16) (ha : a ≠ 0) : a = max a 1 := by
    have := UInt16.pos_iff_ne_zero.mpr ha
    rw [UInt16.lt_iff_toNat_lt] at this
    apply UInt16.toNat_inj.mp
    rw [UInt16.toNat_max]
    simp only [UInt16.reduceToNat] at this ⊢
    omega
  refine ⟨hr, hone16 _ hfailures, hone16 _ hrecoveries, ?_, ?_⟩
  · have := UInt64.pos_iff_ne_zero.mpr hwait
    rw [UInt64.lt_iff_toNat_lt] at this
    apply UInt64.toNat_inj.mp
    simp only [CircuitGenerationBuildRequest.of, CircuitPolicy.config, UInt64.toNat_max]
    simp only [UInt64.reduceToNat] at this ⊢
    omega
  · rw [UInt64.not_lt, UInt64.le_iff_toNat_le] at hmax
    apply UInt64.toNat_inj.mp
    simp only [CircuitGenerationBuildRequest.of, CircuitPolicy.config, UInt64.toNat_max]
    omega

/-- What holds of a circuit every operation on which came with the config it has now. -/
structure OnePolicy (c : StationKeyCircuit) : Prop where
  sound : Sound c
  lease : ∀ policy, c.leasePolicy = some policy →
    policy.recoverySuccessThreshold = c.config.recoverySuccessThreshold ∧
      policy.recoveryWaitMs = c.config.recoveryWaitMs
  below : c.state.IsClosed →
    c.state.consecutiveFailures < c.config.consecutiveFailureThreshold
  recovering : c.state.IsHalfOpen →
    c.state.recoverySuccesses < c.config.recoverySuccessThreshold

/-- Opening leaves no counter a threshold could be compared with. -/
theorem OnePolicy.opened {c' : StationKeyCircuit} (hs : Sound c') (hopen : c'.state.IsOpen)
    (hlease : c'.leasePolicy = none) : OnePolicy c' where
  sound := hs
  lease := by simp [hlease]
  below := fun h => absurd hopen h.not_open
  recovering := fun h => absurd h hopen.not_halfOpen

theorem OnePolicy.granted {c : StationKeyCircuit} {r : UInt64} {lease : String}
    {deadline : UInt64} {n : UInt16} {l : UInt32} (hs : Sound (c.grantLease r lease deadline n l))
    (hn : n < c.config.recoverySuccessThreshold) :
    OnePolicy (c.grantLease r lease deadline n l) where
  sound := hs
  lease := fun _ hp => Option.some.inj hp ▸ ⟨rfl, rfl⟩
  below := nofun
  recovering := fun _ => hn

theorem OnePolicy.closed {c : StationKeyCircuit} {revision r : UInt64} {f : UInt16} {l : UInt32}
    (hs : Sound { c with policyRevision := revision, leasePolicy := none, state := .closed r f l })
    (hf : f < c.config.consecutiveFailureThreshold) :
    OnePolicy { c with
      policyRevision := revision, leasePolicy := none, state := .closed r f l } where
  sound := hs
  lease := nofun
  below := fun _ => hf
  recovering := nofun

theorem OnePolicy.idle {c : StationKeyCircuit} {revision r lr : UInt64} {n : UInt16} {l : UInt32}
    (hs : Sound { c with
      policyRevision := revision, leasePolicy := none, state := .halfOpen r none lr none n l })
    (hn : n < c.config.recoverySuccessThreshold) :
    OnePolicy { c with
      policyRevision := revision, leasePolicy := none, state := .halfOpen r none lr none n l } where
  sound := hs
  lease := nofun
  below := nofun
  recovering := fun _ => hn

theorem OnePolicy.move {c c' : StationKeyCircuit} {op : CircuitOp} {reply : CircuitReply}
    (h : OnePolicy c) (m : CircuitMove c op reply c') : OnePolicy c' := by
  have hs := m.sound h.sound
  obtain ⟨-, hthreshold, hrecovery, -⟩ := validate_ok.mp h.sound.config
  have hbelow := h.below
  have hrecovering := h.recovering
  have hlease := h.lease
  have hactive := h.sound.lease
  cases m with
  | admitReached => exact .opened hs trivial rfl
  | @admitAdopt now deadline lease r f l hstate hf hp =>
    obtain ⟨config, revision, leasePolicy, state⟩ := c
    subst hstate
    obtain rfl : leasePolicy = none := by simpa using hactive
    exact .closed (c := ⟨config, revision, none, .closed r f l⟩) hs hf
  | admitClosed => exact h
  | admitOpenAdopt hstate hu hp => exact .opened hs trivial (by simpa [hstate] using hactive)
  | admitOpen => exact h
  | admitProbe => exact .granted hs (UInt16.pos_iff_ne_zero.mpr hrecovery)
  | admitBusy => exact h
  | admitIdle hstate =>
    rw [hstate] at hrecovering
    exact .granted hs (hrecovering trivial)
  | finishUncrossed => exact h
  | finishSuccess => exact .closed hs (UInt16.pos_iff_ne_zero.mpr hthreshold)
  | finishFailure hstate hf => exact .closed hs hf
  | finishOpens => exact .opened hs trivial rfl
  | finishLate => exact h
  | finishReleased hstate =>
    rw [hstate] at hrecovering
    exact .idle hs (hrecovering trivial)
  | finishExpired => exact .opened hs trivial rfl
  | finishCloses => exact .closed hs (UInt16.pos_iff_ne_zero.mpr hthreshold)
  | finishRecovers hstate he hp hn => exact .idle hs ((hlease _ hp).1 ▸ hn)
  | finishReopens => exact .opened hs trivial rfl
  | reapReopens => exact .opened hs trivial rfl
  | reapNothing => exact h

/-! ### The relation -/

/-- The replayed columns stand for the live state. While a probe is out the replay is where
the probe was admitted, and with none out no replay is Half-Open as the live circuit is. -/
def Mirrors (live : StationKeyCircuitState) (clock : UInt64) (g : CircuitGenerationState) : Prop :=
  match live with
  | .closed _ f l => g.state = .closed ∧ g.consecutiveFailures = f ∧ g.reopenLevel = l ∧
      g.openedAtMs = none ∧ g.cooldownUntilMs = none ∧ g.recoverySuccesses = 0
  | .open _ t u f l => g.state = .open ∧ g.consecutiveFailures = f ∧ g.reopenLevel = l ∧
      g.openedAtMs = some t ∧ g.cooldownUntilMs = some u ∧ g.recoverySuccesses = 0
  | .halfOpen _ none _ _ _ _ => False
  | .halfOpen _ (some _) _ _ n l => g.state = .open ∧ g.recoverySuccesses = 0 ∧ n = 0 ∧
      g.reopenLevel = l ∧ g.cooldownUntilMs.any (· ≤ clock)

theorem Mirrors.later {live : StationKeyCircuitState} {clock clock' : UInt64}
    {g : CircuitGenerationState} (h : Mirrors live clock g) (hle : clock ≤ clock') :
    Mirrors live clock' g := by
  cases live with
  | closed => exact h
  | «open» => exact h
  | halfOpen r lease lr e n l =>
    cases lease with
    | none => exact h
    | some lease =>
      obtain ⟨hopen, hg, hn, hl, hover⟩ := h
      refine ⟨hopen, hg, hn, hl, ?_⟩
      obtain ⟨u, hu, hpast⟩ := (Option.any_eq_true _ _).mp hover
      rw [hu]
      simpa using UInt64.le_trans (by simpa using hpast) hle

/-! ### A result -/

/-- What of a result the event of it keeps for the replay. -/
structure Records (event : CircuitEvent) (success crossed : Bool) (occurredAtMs : UInt64) :
    Prop where
  kind : event.effectKind = .circuit
  succeeded : (event.canonicalOutcome == .success && event.boundaryCrossed) = (success && crossed)
  failed : (event.canonicalOutcome == .attributableFailure && event.boundaryCrossed) =
    (!success && crossed)
  occurred : event.occurredAtMs = occurredAtMs

/-- A result that the live reducer and the replay take alike: one on a Closed circuit counts
the same in both, and the active lease's ends the probe for both. -/
def FaithfulResult (config : StationKeyCircuitConfig) (live : StationKeyCircuitState) (now : UInt64)
    (lease : Option String) (success crossed affects : Bool) (occurredAtMs : UInt64) : Prop :=
  match live with
  | .closed _ f _ => crossed → (affects ∨ success ∧ f = 0) ∧ (success = false →
      config.consecutiveFailureThreshold ≤ f.saturatingAdd 1 → occurredAtMs = now)
  | .open .. => True
  | .halfOpen _ active _ expires n _ => active ≠ none → active = lease → crossed ∧ affects ∧
      if success then expires.all (now < ·) ∧ config.recoverySuccessThreshold ≤ n.saturatingAdd 1
      else occurredAtMs = now

instance (config : StationKeyCircuitConfig) (live : StationKeyCircuitState) (now : UInt64)
    (lease : Option String) (success crossed affects : Bool) (occurredAtMs : UInt64) :
    Decidable (FaithfulResult config live now lease success crossed affects occurredAtMs) := by
  unfold FaithfulResult
  split <;> infer_instance

section Results
variable {request : CircuitGenerationBuildRequest} {c c' : StationKeyCircuit}
  {now clock occurredAtMs : UInt64} {lease : Option String} {success crossed affects : Bool}
  {transition : CircuitTransition} {g : CircuitGenerationState} {event : CircuitEvent}

/-- A result on a Closed circuit. -/
theorem finish_mirrors_closed {r : UInt64} {f : UInt16} {l : UInt32}
    (m : CircuitMove c (.finish now lease success (crossed && affects)) (.transition transition) c')
    (hstate : c.state = .closed r f l) (hc : OnePolicy c) (hrequest : Matches request c.config)
    (hg : Mirrors c.state clock g) (hrecords : Records event success crossed occurredAtMs) :
    Mirrors c'.state now (replayEvent request g event) ↔
      FaithfulResult c.config c.state now lease success crossed affects occurredAtMs := by
  have hne := UInt16.saturatingAdd_one_ne (hc.below (by simp [hstate]))
  obtain ⟨config, revision, leasePolicy, state⟩ := c
  subst hstate
  obtain ⟨gs, gr, gf, gl, gt, gu, gn, gw, gq⟩ := g
  obtain ⟨rfl, rfl, rfl, rfl, rfl, rfl⟩ := hg
  generalize hcounted : (crossed && affects) = counted at m
  cases m with
  | finishUncrossed hs =>
    cases hs
    cases crossed with
    | false =>
      simp [replayEvent, applyCircuitEvent, hrecords.kind, hrecords.succeeded, hrecords.failed,
        Mirrors, FaithfulResult]
    | true =>
      obtain rfl : affects = false := by simpa using hcounted
      cases success with
      | true =>
        simp [replayEvent, applyCircuitEvent, hrecords.kind, hrecords.succeeded, Mirrors,
          FaithfulResult, eq_comm]
      | false =>
        -- The replay counts the failure, so it has another streak or is Open.
        simp only [replayEvent, applyCircuitEvent, hrecords.kind, hrecords.succeeded,
          hrecords.failed, Mirrors, FaithfulResult]
        simp only [Bool.false_and, Bool.not_false, Bool.and_self, if_true, if_false,
          Bool.false_eq_true, false_and, or_self, forall_const, iff_false]
        rintro ⟨hstate, hf, -⟩
        split at hf
        · simp_all [openCircuit]
        · exact hne hf
  | finishSuccess hs =>
    cases hs
    obtain ⟨rfl, rfl⟩ : crossed = true ∧ affects = true := by simpa using hcounted
    simp [replayEvent, applyCircuitEvent, hrecords.kind, hrecords.succeeded, Mirrors, FaithfulResult]
  | finishFailure hs hf =>
    cases hs
    obtain ⟨rfl, rfl⟩ : crossed = true ∧ affects = true := by simpa using hcounted
    have hf : ¬ request.consecutiveFailureThreshold ≤ gf.saturatingAdd 1 := by
      rw [hrequest.failures]
      exact UInt16.not_le.mpr hf
    rw [hrequest.failures] at hf
    simp [replayEvent, applyCircuitEvent, hrecords.kind, hrecords.succeeded, hrecords.failed, Mirrors,
      FaithfulResult, hrequest.failures, hf]
  | finishOpens hs hf =>
    cases hs
    obtain ⟨rfl, rfl⟩ : crossed = true ∧ affects = true := by simpa using hcounted
    have hopens : request.consecutiveFailureThreshold ≤ gf.saturatingAdd 1 :=
      hrequest.failures ▸ hf
    simp only [replayEvent, applyCircuitEvent, hrecords.kind, hrecords.succeeded, hrecords.failed,
      hrecords.occurred, Bool.false_and, Bool.false_eq_true, Bool.not_false, Bool.and_self, if_true, if_false,
      if_pos hopens, openCircuit, hrequest.wait, hrequest.maxCooldown]
    constructor
    · rintro ⟨-, -, -, ht, -⟩ -
      exact ⟨.inl rfl, fun _ _ => Option.some.inj ht⟩
    · intro h
      obtain rfl := (h rfl).2 rfl hf
      exact ⟨rfl, rfl, rfl, rfl, rfl, rfl⟩
  | finishLate hs => exact absurd trivial hs
  | finishReleased hs | finishExpired hs | finishCloses hs | finishRecovers hs
  | finishReopens hs => cases hs

/-- The result of a lease finds the replay Half-Open, or puts it there. -/
theorem replayEvent_probe (request : CircuitGenerationBuildRequest)
    (g : CircuitGenerationState) (hprobe : event.leaseRevision.isSome) (hg : g.state ≠ .closed)
    (hrecords : Records event success crossed occurredAtMs) :
    ∃ g' : CircuitGenerationState, g'.state = .halfOpen ∧ g'.reopenLevel = g.reopenLevel ∧
      g'.recoverySuccesses = g.recoverySuccesses ∧ replayEvent request g event =
        applyHalfOpenResult g' event (success && crossed) (!success && crossed) request := by
  obtain ⟨gs, gr, gf, gl, gt, gu, gn, gw, gq⟩ := g
  simp only [replayEvent, applyCircuitEvent, hrecords.kind, hrecords.succeeded, hrecords.failed,
    hprobe, if_true]
  cases gs with
  | closed => exact absurd rfl hg
  | «open» => exact ⟨_, rfl, rfl, rfl, rfl⟩
  | halfOpen => exact ⟨_, rfl, rfl, rfl, rfl⟩

/-- A replay that counts one recovery more, or has closed, is nowhere the live circuit is
after any other result. -/
theorem applyHalfOpenResult_success (request : CircuitGenerationBuildRequest)
    (event : CircuitEvent) {g' : CircuitGenerationState} (hg : g'.state = .halfOpen) :
    let g'' := applyHalfOpenResult g' event true false request
    if request.recoverySuccessThreshold ≤ g'.recoverySuccesses.saturatingAdd 1 then
      g''.state = .closed ∧ g''.consecutiveFailures = 0 ∧ g''.reopenLevel = 0 ∧
        g''.openedAtMs = none ∧ g''.cooldownUntilMs = none ∧ g''.recoverySuccesses = 0
    else g''.state = .halfOpen ∧ g''.recoverySuccesses = g'.recoverySuccesses.saturatingAdd 1 ∧
      g''.reopenLevel = g'.reopenLevel := by
  simp only [applyHalfOpenResult, if_true]
  split
  · exact ⟨rfl, rfl, rfl, rfl, rfl, rfl⟩
  · exact ⟨hg, rfl, rfl⟩

/-- Both reducers open alike, at the time each takes. -/
theorem reopen_mirrors {f : UInt64} {wait : UInt64} {at_ : UInt64}
    (hwait : request.recoveryWaitMs = wait)
    (hmax : request.maxCooldownMs = c.config.maxCooldownMs) :
    Mirrors (c.openWithPolicy now 0 g.reopenLevel f wait).state clock
      (reopenCircuit g at_ request) ↔ at_ = now := by
  simp only [reopenCircuit, openCircuit, if_true, hwait, hmax]
  constructor
  · rintro ⟨-, -, -, ht, -⟩
    exact Option.some.inj ht
  · rintro rfl
    exact ⟨rfl, rfl, rfl, rfl, rfl, rfl⟩

/-- The result of the active lease. -/
theorem finish_mirrors_halfOpen {r lr : UInt64} {active : String} {expires : Option UInt64}
    {n : UInt16} {l : UInt32}
    (m : CircuitMove c (.finish now lease success (crossed && affects)) (.transition transition) c')
    (hstate : c.state = .halfOpen r (some active) lr expires n l)
    (htaken : transition ≠ .ignoredLateResult) (hc : OnePolicy c)
    (hrequest : Matches request c.config) (hg : Mirrors c.state clock g)
    (hrecords : Records event success crossed occurredAtMs) (hprobe : event.leaseRevision.isSome) :
    Mirrors c'.state now (replayEvent request g event) ↔
      FaithfulResult c.config c.state now lease success crossed affects occurredAtMs := by
  have hlease := hc.lease
  obtain ⟨config, revision, leasePolicy, state⟩ := c
  subst hstate
  obtain ⟨hopen, hzero, rfl, rfl, -⟩ := hg
  obtain ⟨g', hg's, hlevel, hrecoveries, hreplay⟩ := replayEvent_probe request g
    hprobe (by simp [hopen]) hrecords
  rw [hreplay]
  rw [← hzero, ← hrecoveries, ← hlevel] at m
  rw [← hzero, ← hrecoveries]
  generalize hcounted : (crossed && affects) = counted at m
  cases m with
  | finishUncrossed hs | finishSuccess hs | finishFailure hs | finishOpens hs => cases hs
  | finishLate => exact absurd rfl htaken
  | finishReleased hs =>
    cases hs
    refine iff_of_false id fun h => ?_
    obtain ⟨rfl, rfl, -⟩ := h nofun rfl
    cases hcounted
  | finishExpired hs hexpired hp =>
    cases hs
    obtain ⟨rfl, rfl⟩ : crossed = true ∧ affects = true := by simpa using hcounted
    cases success with
    | true =>
      -- The replay takes the late success for a recovery.
      have hsuccess := applyHalfOpenResult_success request event hg's
      refine iff_of_false ?_ fun h => ?_
      · rintro ⟨hopen, -⟩
        dsimp only at hsuccess
        split at hsuccess <;> simp_all
      · exact UInt64.not_lt.mpr hexpired (by simpa using (h nofun rfl).2.2.1)
    | false =>
      refine (reopen_mirrors (hrequest.wait.trans (hlease _ hp).2.symm) hrequest.maxCooldown).trans ?_
      simp [FaithfulResult, hrecords.occurred]
  | finishCloses hs hlive hp hn =>
    cases hs
    obtain ⟨rfl, rfl⟩ : crossed = true ∧ affects = true := by simpa using hcounted
    have hcloses := (hlease _ hp).1 ▸ hn
    have hsuccess := applyHalfOpenResult_success request event hg's
    rw [if_pos (hrequest.recoveries ▸ hcloses)] at hsuccess
    exact iff_of_true hsuccess fun _ _ => ⟨rfl, rfl, hlive, hcloses⟩
  | finishRecovers hs hlive hp hn =>
    cases hs
    refine iff_of_false id fun h => ?_
    exact UInt16.not_le.mpr hn ((hlease _ hp).1 ▸ (h nofun rfl).2.2.2)
  | finishReopens hs hlive hp =>
    cases hs
    obtain ⟨rfl, rfl⟩ : crossed = true ∧ affects = true := by simpa using hcounted
    refine (reopen_mirrors (hrequest.wait.trans (hlease _ hp).2.symm) hrequest.maxCooldown).trans ?_
    simp [FaithfulResult, hrecords.occurred]

end Results

/-! ### The operations of the store -/

/-- The operation is called under the policy; noting a boundary and taking the time need none. -/
def Under (policy : CircuitPolicy) : StoreOp → Prop
  | .admitAttempt used _ _ _ => used = policy
  | .finishAttempt input => input.policy = policy
  | .reapExpiredLeases _ used => used = policy
  | .markBoundaryCrossed .. => True
  | .advanceCircuitClock _ => True

/-- The operation leaves events by which the replay does what the live reducer does: a first
result is taken alike, and a lease that is reaped has crossed the boundary and is the first of
its attempt to be reaped. -/
def Faithful (db : CircuitDb) : StoreOp → Prop
  | .admitAttempt .. => True
  | .finishAttempt input => ¬ HasEvent db.events .circuit input.attemptId →
      leaseRevisionMismatch (db.status input.policy.policyRevision) input = false →
      FaithfulResult input.policy.config db.state (max db.watermarkMs input.nowMs) input.leaseId
        input.success input.boundaryCrossed input.affectsCircuit input.occurredAtMs
  | .reapExpiredLeases now _ => ∀ row lease, db.row = some row →
      row.expired (max db.watermarkMs now) → row.values.leaseId = some lease →
      row.boundaryCrossed = some true ∧ ¬ HasEvent db.events .lease lease
  | .markBoundaryCrossed .. => True
  | .advanceCircuitClock _ => True

/-- The live circuit is under one policy and the replay of its events mirrors it. -/
structure Tracks (policy : CircuitPolicy) (request : CircuitGenerationBuildRequest)
    (db : CircuitDb) : Prop where
  sound : StoreSound db
  policy : OnePolicy ((db.status policy.policyRevision).circuit policy.config)
  mirrors : Mirrors db.state db.watermarkMs (replayed request db.events)

/-- What an operation that is taken makes of the two: it keeps them together exactly when it is
faithful, and one that leaves a probe out is and leaves the replay where it was. -/
structure Replays (policy : CircuitPolicy) (request : CircuitGenerationBuildRequest)
    (db : CircuitDb) (op : StoreOp) (db' : CircuitDb) : Prop where
  policy : OnePolicy ((db'.status policy.policyRevision).circuit policy.config)
  mirrors : Mirrors db'.state db'.watermarkMs (replayed request db'.events) ↔ Faithful db op
  probing : db'.state.leaseId ≠ none →
    Faithful db op ∧ replayed request db'.events = replayed request db.events

section Operations
variable {policy : CircuitPolicy} {request : CircuitGenerationBuildRequest} {db db' : CircuitDb}

theorem reaperConfig_eq (hr : policy.policyRevision ≠ 0) : policy.reaperConfig = policy.config := by
  have hmax : max policy.policyRevision 1 = policy.policyRevision := by
    have := UInt64.pos_iff_ne_zero.mpr hr
    rw [UInt64.lt_iff_toNat_lt] at this
    apply UInt64.toNat_inj.mp
    rw [UInt64.toNat_max]
    simp only [UInt64.reduceToNat] at this ⊢
    omega
  unfold CircuitPolicy.reaperConfig
  rw [hmax]

/-- An operation that the replay takes no notice of. -/
theorem Replays.kept {op : StoreOp}
    (h : OnePolicy ((db'.status policy.policyRevision).circuit policy.config) ∧
      Mirrors db'.state db'.watermarkMs (replayed request db.events))
    (hfaithful : Faithful db op)
    (hevents : replayed request db'.events = replayed request db.events) :
    Replays policy request db op db' where
  policy := h.1
  mirrors := iff_of_true (hevents ▸ h.2) hfaithful
  probing := fun _ => ⟨hfaithful, hevents⟩

/-- An operation after which no probe is out. -/
theorem Replays.freed {op : StoreOp} {c : StationKeyCircuit}
    (h : OnePolicy ((db'.status policy.policyRevision).circuit policy.config) ∧
      db'.state = c.state)
    (hlease : c.state.leaseId = none)
    (hiff : Mirrors c.state db'.watermarkMs (replayed request db'.events) ↔ Faithful db op) :
    Replays policy request db op db' where
  policy := h.1
  mirrors := h.2 ▸ hiff
  probing := fun hprobe => absurd (h.2 ▸ hlease) hprobe

theorem le_max_watermark (watermark now : UInt64) : watermark ≤ max watermark now := by
  rw [UInt64.le_iff_toNat_le, UInt64.toNat_max]
  exact le_max_left ..

/-- A row that stands for the same status keeps everything but the clock. -/
theorem Tracks.same_status (h : Tracks policy request db) {row : CircuitRow} {clock : UInt64}
    (hrow : Holds row (db.status policy.policyRevision)) (hclock : db.watermarkMs ≤ clock) :
    let db' := { db with watermarkMs := clock, row := some row }
    OnePolicy ((db'.status policy.policyRevision).circuit policy.config) ∧
      Mirrors db'.state db'.watermarkMs (replayed request db.events) := by
  intro db'
  have hstatus : db'.status policy.policyRevision = db.status policy.policyRevision :=
    db'.status_of_row rfl hrow _
  have hstate : db'.state = db.state :=
    (db'.state_of_row rfl hrow).trans (db.status_state _)
  rw [hstatus, hstate]
  exact ⟨h.policy, h.mirrors.later hclock⟩

theorem move_config {c c' : StationKeyCircuit} {op : CircuitOp} {reply : CircuitReply}
    (m : CircuitMove c op reply c') : c'.config = c.config := by
  cases m <;> rfl

/-- The status a move leaves, under the config it was made under. -/
theorem moved_circuit {c c' : StationKeyCircuit} {op : CircuitOp} {reply : CircuitReply}
    (m : CircuitMove c op reply c') : c'.status.circuit c.config = c' := by
  rw [← move_config m]
  rfl

/-- A new status in the row, reached by a move. -/
theorem Tracks.moved (h : Tracks policy request db) {op : CircuitOp} {reply : CircuitReply}
    {c : StationKeyCircuit}
    (m : CircuitMove ((db.status policy.policyRevision).circuit policy.config) op reply c)
    (hrow : db'.row = some (.of c.status none)) :
    OnePolicy ((db'.status policy.policyRevision).circuit policy.config) ∧
      db'.state = c.state := by
  rw [db'.status_of_row hrow ⟨none, rfl⟩, db'.state_of_row hrow ⟨none, rfl⟩]
  have hcircuit : c.status.circuit policy.config = c := moved_circuit m
  exact ⟨hcircuit.symm ▸ h.policy.move m, rfl⟩

/-- An admission leaves no event, and the replay stays where it was. -/
theorem admit_mirrors {c c' : StationKeyCircuit} {now deadline clock : UInt64} {lease : String}
    {a : CircuitAdmission} {g : CircuitGenerationState}
    (m : CircuitMove c (.admitAttempt now deadline lease) (.admission a) c') (hc : OnePolicy c)
    (hle : clock ≤ now) (hg : Mirrors c.state clock g) : Mirrors c'.state now g := by
  have hbelow := hc.below
  cases m with
  | admitReached hs hf =>
    rw [hs] at hbelow
    exact absurd hf (UInt16.not_le.mpr (hbelow trivial))
  | admitAdopt hs =>
    rw [hs] at hg
    exact hg
  | admitClosed => exact hg.later hle
  | admitOpenAdopt hs =>
    rw [hs] at hg
    exact hg
  | admitOpen => exact hg.later hle
  | admitProbe hs hu =>
    rw [hs] at hg
    obtain ⟨hopen, -, hl, -, hcooldown, hn⟩ := hg
    exact ⟨hopen, hn, rfl, hl, by rw [hcooldown]; simpa using hu⟩
  | admitBusy => exact hg.later hle
  | admitIdle hs =>
    rw [hs] at hg
    exact hg.elim

theorem Tracks.admitAttempt (h : Tracks policy request db) {now deadline : UInt64}
    {attemptId : String} {result : CircuitAdmissionResult}
    (hok : db.admitAttempt policy now deadline attemptId = .ok (result, db')) :
    Replays policy request db (.admitAttempt policy now deadline attemptId) db' := by
  obtain ⟨hr, hid⟩ := admitAttempt_requires hok
  obtain ⟨-, admission, c, hadmit, -, -, rfl⟩ := (admitAttempt_ok h.sound hr hid).mp hok
  have hle := le_max_watermark db.watermarkMs now
  refine .kept ?_ trivial rfl
  split
  · have m := admitAttempt_moves hadmit
    have hrow : ({ db with
      watermarkMs := max db.watermarkMs now
      row := some (.of c.status none) } : CircuitDb).row = some (.of c.status none) := rfl
    obtain ⟨hpolicy, hstate⟩ := h.moved m hrow
    refine ⟨hpolicy, ?_⟩
    rw [hstate]
    refine admit_mirrors m h.policy hle ?_
    rw [show (StationKeyCircuitStatus.circuit ..).state = db.state from db.status_state _]
    exact h.mirrors
  · exact h.same_status (h.sound.status hr).1 hle

/-- The event of a terminal result keeps its outcome, its boundary and its time. -/
theorem terminalEvent_records (db : CircuitDb) (input : CircuitTerminalInput)
    (expected : UInt64) (transition : CircuitTransition) (leaseRevision : Option UInt64)
    (policyRevision now : UInt64) :
    Records (db.terminalEvent input expected transition leaseRevision policyRevision now)
      input.success input.boundaryCrossed input.occurredAtMs where
  kind := rfl
  succeeded := by
    cases hs : input.success <;> cases hb : input.boundaryCrossed <;>
      simp [CircuitDb.terminalEvent, CircuitTerminalInput.canonicalOutcome, hs, hb]
  failed := by
    cases hs : input.success <;> cases hb : input.boundaryCrossed <;>
      simp [CircuitDb.terminalEvent, CircuitTerminalInput.canonicalOutcome, hs, hb]
  occurred := rfl

/-- A result that is not ignored finds the circuit Closed, or is the active lease's. -/
theorem taken_result {c c' : StationKeyCircuit} {now : UInt64} {lease : Option String}
    {success crossed : Bool} {transition : CircuitTransition}
    (m : CircuitMove c (.finish now lease success crossed) (.transition transition) c')
    (htaken : transition ≠ .ignoredLateResult) :
    (∃ r f l, c.state = .closed r f l) ∨ ∃ r active lr expires n l,
      c.state = .halfOpen r (some active) lr expires n l ∧ lease = some active := by
  cases m with
  | finishUncrossed hs | finishSuccess hs | finishFailure hs | finishOpens hs =>
    exact .inl ⟨_, _, _, hs⟩
  | finishLate => exact absurd rfl htaken
  | finishReleased hs | finishExpired hs | finishCloses hs | finishRecovers hs
  | finishReopens hs => exact .inr ⟨_, _, _, _, _, _, hs, rfl⟩

/-- No probe is out after it. -/
theorem taken_lease {c c' : StationKeyCircuit} {now : UInt64} {lease : Option String}
    {success crossed : Bool} {transition : CircuitTransition}
    (m : CircuitMove c (.finish now lease success crossed) (.transition transition) c')
    (htaken : transition ≠ .ignoredLateResult) : c'.state.leaseId = none := by
  cases m with
  | finishUncrossed hs => exact hs ▸ rfl
  | finishLate => exact absurd rfl htaken
  | finishSuccess | finishFailure | finishOpens | finishReleased | finishExpired | finishCloses
  | finishRecovers | finishReopens => rfl

/-- The event of the active lease's result carries a lease revision. -/
theorem effectiveLeaseRevision_active {status : StationKeyCircuitStatus}
    {input : CircuitTerminalInput} {r lr : UInt64} {active : String} {expires : Option UInt64}
    {n : UInt16} {l : UInt32} (hstate : status.state = .halfOpen r (some active) lr expires n l)
    (hlease : input.leaseId = some active) : (effectiveLeaseRevision status input).isSome := by
  cases hgiven : input.leaseRevision <;>
    simp [effectiveLeaseRevision, activeLease, hstate, hlease, hgiven]

/-- An ignored result is one the replay would have nothing to say against. -/
theorem ignored_faithful {c c' : StationKeyCircuit} {now : UInt64} {lease : Option String}
    {success counted crossed affects : Bool} {config : StationKeyCircuitConfig}
    {occurredAtMs : UInt64}
    (m : CircuitMove c (.finish now lease success counted) (.transition .ignoredLateResult) c') :
    FaithfulResult config c.state now lease success crossed affects occurredAtMs := by
  cases m with
  | finishLate hopen hlate =>
    cases hs : c.state with
    | closed => simp [hs] at hopen
    | «open» => trivial
    | halfOpen r active lr expires n l =>
      rw [hs] at hlate
      exact fun hactive hlease => absurd hlate (not_or.mpr ⟨hactive, not_not.mpr hlease⟩)

theorem Tracks.finishAttempt (h : Tracks policy request db) {input : CircuitTerminalInput}
    {result : CircuitTerminalResult} (hrequest : Matches request policy.config)
    (hunder : input.policy = policy) (hok : db.finishAttempt input = .ok (result, db')) :
    Replays policy request db (.finishAttempt input) db' := by
  subst hunder
  obtain ⟨hr, hnow, hrevision, hfinishes⟩ := finishAttempt_ok h.sound hok
  have hle := le_max_watermark db.watermarkMs input.nowMs
  have hholds := (h.sound.status hr).1
  have hstate := db.status_state input.policy.policyRevision
  cases hfinishes with
  | duplicate hduplicate =>
    exact .kept (h.same_status hholds hle) (fun hnew => absurd hduplicate hnew) rfl
  | late hnew hignored =>
    refine .kept (h.same_status hholds hle) (fun _ hmatch => ?_) (replayed_unapplied rfl)
    rcases hignored with hmismatch | hignored
    · exact absurd hmismatch (by simp [hmatch])
    · exact hstate ▸ ignored_faithful (finish_moves hignored)
  | @applied transition c hnew hmatch hfinish happlied hfits =>
    have m := finish_moves hfinish
    refine .freed (h.moved m rfl) (taken_lease m happlied) ?_
    dsimp only
    rw [replayed_applied]
    · have hfaithful : Faithful db (.finishAttempt input) ↔ FaithfulResult input.policy.config
          db.state (max db.watermarkMs input.nowMs) input.leaseId input.success
          input.boundaryCrossed input.affectsCircuit input.occurredAtMs :=
        ⟨fun hf => hf hnew hmatch, fun hf _ _ => hf⟩
      have hcircuit : ((db.status input.policy.policyRevision).circuit input.policy.config).state =
          db.state := hstate
      have hmirrors := h.mirrors
      rw [hfaithful]
      rw [← hcircuit] at hmirrors ⊢
      rcases taken_result m happlied with ⟨r, f, l, hs⟩ | ⟨r, active, lr, expires, n, l, hs, hlease⟩
      · exact finish_mirrors_closed m hs h.policy hrequest hmirrors (terminalEvent_records ..)
      · exact finish_mirrors_halfOpen m hs happlied h.policy hrequest hmirrors
          (terminalEvent_records ..) (effectiveLeaseRevision_active hs hlease)
    · simpa [CircuitDb.terminalEvent] using happlied

/-- An opening is timed to end after it starts. -/
theorem lt_cooldown {now wait maxCooldown : UInt64} {l : UInt32} (hwait : wait ≠ 0)
    (hmax : wait ≤ maxCooldown)
    (hfits : now.saturatingAdd (StationKeyCircuit.cooldown wait maxCooldown l) < 9223372036854775808) :
    now < now.saturatingAdd (StationKeyCircuit.cooldown wait maxCooldown l) := by
  have hpos := UInt64.pos_iff_ne_zero.mpr hwait
  have hpower : 0 < 2 ^ min (l.toNat - 1) 63 := Nat.two_pow_pos _
  have hproduct := Nat.mul_pos (UInt64.lt_iff_toNat_lt.mp hpos) hpower
  rw [UInt64.le_iff_toNat_le] at hmax
  rw [UInt64.lt_iff_toNat_lt] at hfits hpos ⊢
  rw [UInt64.toNat_saturatingAdd, toNat_cooldown] at hfits ⊢
  simp only [UInt64.reduceToNat] at hfits hpos ⊢
  omega

/-- A lease reaped past the boundary opens both reducers, and the live one alone if its
event is lost. -/
theorem reap_mirrors {c c' : StationKeyCircuit} {now clock : UInt64} {lease : String}
    {g g' : CircuitGenerationState}
    (m : CircuitMove c (.reapExpiredLease now lease) (.reaped true) c') (hc : OnePolicy c)
    (hrequest : Matches request c.config) (hle : clock ≤ now) (hg : Mirrors c.state clock g)
    (hfits : StatusFits c'.status) (hlevel : g'.reopenLevel = g.reopenLevel) :
    Mirrors c'.state now (reopenCircuit g' now request) ∧ ¬ Mirrors c'.state now g := by
  have hlease := hc.lease
  obtain ⟨-, -, -, hwait, hmax⟩ := validate_ok.mp hc.sound.config
  cases m with
  | reapReopens hs hexpired hp =>
    rw [hs] at hg
    obtain ⟨-, -, -, hl, hover⟩ := hg
    have hwaits := (hlease _ hp).2
    constructor
    · rw [← hl, ← hlevel]
      exact (reopen_mirrors (hrequest.wait.trans hwaits.symm) hrequest.maxCooldown).mpr rfl
    · -- The replay's cooldown is over, the live one has just begun.
      rintro ⟨-, -, -, -, hcooldown, -⟩
      have huntil := (hfits.times _ _ _ _ _ rfl).2
      rw [hwaits] at huntil hcooldown
      rw [hcooldown] at hover
      exact UInt64.not_lt.mpr (UInt64.le_trans (by simpa using hover) hle)
        (lt_cooldown hwait hmax huntil)

/-- A lease given back leaves the live circuit idle, as no replay is. -/
theorem release_mirrors {c c' : StationKeyCircuit} {now clock : UInt64} {lease : String}
    {success : Bool} {transition : CircuitTransition} {g : CircuitGenerationState}
    (m : CircuitMove c (.finish now (some lease) success false) (.transition transition) c')
    (hlease : c.state.leaseId = some lease) :
    c'.state.leaseId = none ∧ ¬ Mirrors c'.state clock g := by
  cases m with
  | finishUncrossed hs => simp [hs] at hlease
  | finishLate hopen hlate =>
    exact absurd hlate (not_or.mpr ⟨by simp [hlease], not_not.mpr hlease⟩)
  | finishReleased => exact ⟨rfl, id⟩

theorem reaped_lease {c c' : StationKeyCircuit} {now : UInt64} {lease : String}
    (m : CircuitMove c (.reapExpiredLease now lease) (.reaped true) c') :
    c.state.leaseId = some lease ∧ c.state.leaseExpiresAtMs.any (· ≤ now) ∧
      c'.state.leaseId = none := by
  cases m with
  | reapReopens hs hexpired hp =>
    rw [hs]
    exact ⟨rfl, by simpa using hexpired, rfl⟩

/-- What is asked of the reaping of an expired lease. -/
theorem faithful_reap {status : StationKeyCircuitStatus} {crossed : Option Bool} {lease : String}
    {now : UInt64} (hrow : db.row = some (.of status crossed))
    (hlease : status.state.leaseId = some lease)
    (hexpired : status.state.leaseExpiresAtMs.any (· ≤ max db.watermarkMs now)) :
    Faithful db (.reapExpiredLeases now policy) ↔
      crossed = some true ∧ ¬ HasEvent db.events .lease lease := by
  have hid : (CircuitRow.of status crossed).values.leaseId = some lease ∧
      (CircuitRow.of status crossed).expired (max db.watermarkMs now) := by
    obtain ⟨revision, leasePolicy, state⟩ := status
    cases state with
    | closed => cases hlease
    | «open» => cases hlease
    | halfOpen r active lr expires n l =>
      obtain rfl : active = some lease := hlease
      exact ⟨rfl, hexpired⟩
  constructor
  · intro h
    exact h _ lease hrow hid.2 hid.1
  · intro h row' lease' hrow' _ hlease'
    rw [hrow] at hrow'
    cases hrow'
    rw [hid.1] at hlease'
    cases hlease'
    exact h

theorem Tracks.reapExpiredLeases (h : Tracks policy request db) {now : UInt64} {reaped : Nat}
    (hr : policy.policyRevision ≠ 0) (hrequest : Matches request policy.config)
    (hok : db.reapExpiredLeases now policy = .ok (reaped, db')) :
    Replays policy request db (.reapExpiredLeases now policy) db' := by
  obtain ⟨hnow, hreaps⟩ := reapExpiredLeases_ok h.sound hok
  have hle := le_max_watermark db.watermarkMs now
  cases hreaps with
  | nothing hkept =>
    refine .kept ⟨h.policy, h.mirrors.later hle⟩ (fun row lease hrow hexpired => ?_) rfl
    rw [hkept row hrow] at hexpired
    cases hexpired
  | @reopened status lease c events hrow hreap hfits hlogged =>
    have hstatus := db.status_of_row hrow ⟨_, rfl⟩ policy.policyRevision
    have hstate := db.state_of_row hrow ⟨_, rfl⟩
    have hmirrors := h.mirrors
    have m := reapExpiredLease_moves hreap
    rw [reaperConfig_eq hr] at m
    subst hstatus
    obtain ⟨hlease, hexpired, hfree⟩ := reaped_lease m
    refine .freed (h.moved m rfl) hfree ?_
    dsimp only
    rw [hstate] at hmirrors
    rw [faithful_reap hrow hlease hexpired, and_iff_right rfl]
    rcases hlogged with ⟨rfl, hdup⟩ | ⟨rfl, hnew⟩
    · exact iff_of_false (reap_mirrors m h.policy hrequest hle hmirrors hfits rfl).2
        fun hnew => hnew hdup
    · rw [replayed_applied rfl]
      exact iff_of_true (reap_mirrors m h.policy hrequest hle hmirrors hfits rfl).1 hnew
  | @released status crossed lease c transition events hrow hcrossed hlease hlate hfinish hfits
      hlogged =>
    have hstatus := db.status_of_row hrow ⟨_, rfl⟩ policy.policyRevision
    have m := finish_moves hfinish
    rw [reaperConfig_eq hr] at m
    subst hstatus
    obtain ⟨hfree, hparts⟩ := release_mirrors m hlease
    refine .freed (h.moved m rfl) hfree ?_
    rw [faithful_reap hrow hlease hlate]
    exact iff_of_false hparts fun hfaithful => hcrossed hfaithful.1

/-- An operation that is taken keeps the two reducers together exactly when it is faithful. -/
theorem mirrors_step (h : Tracks policy request db) (hr : policy.policyRevision ≠ 0)
    (hrequest : Matches request policy.config) {op : StoreOp} (hunder : Under policy op)
    (happly : db.apply op = .ok db') : Replays policy request db op db' := by
  cases op with
  | admitAttempt used now deadline attemptId =>
    obtain rfl : used = policy := hunder
    obtain ⟨⟨result, db''⟩, hok, rfl⟩ := map_ok.mp happly
    exact h.admitAttempt hok
  | finishAttempt input =>
    obtain ⟨⟨result, db''⟩, hok, rfl⟩ := map_ok.mp happly
    exact h.finishAttempt hrequest hunder hok
  | reapExpiredLeases now used =>
    obtain rfl : used = policy := hunder
    obtain ⟨⟨reaped, db''⟩, hok, rfl⟩ := map_ok.mp happly
    exact h.reapExpiredLeases hr hrequest hok
  | markBoundaryCrossed attemptId leaseRevision now =>
    obtain ⟨⟨marked, db''⟩, hok, rfl⟩ := map_ok.mp happly
    have hle := le_max_watermark db.watermarkMs now
    obtain ⟨-, rfl | ⟨status, hrow, rfl⟩⟩ := markBoundaryCrossed_ok h.sound hok
    · exact .kept ⟨h.policy, h.mirrors.later hle⟩ trivial rfl
    · have hholds : Holds (.of status (some true)) (db.status policy.policyRevision) :=
        db.status_of_row hrow ⟨_, rfl⟩ policy.policyRevision ▸ ⟨some true, rfl⟩
      exact .kept (h.same_status hholds hle) trivial rfl
  | advanceCircuitClock now =>
    obtain ⟨⟨logical, db''⟩, hok, rfl⟩ := map_ok.mp happly
    obtain ⟨-, -, rfl⟩ := advanceCircuitClock_ok.mp hok
    exact .kept ⟨h.policy, h.mirrors.later (le_max_watermark ..)⟩ trivial rfl

theorem Tracks.next (h : Tracks policy request db) (hr : policy.policyRevision ≠ 0)
    (hrequest : Matches request policy.config) {op : StoreOp} (hunder : Under policy op)
    (hfaithful : Faithful db op) : Tracks policy request (db.next op) := by
  refine CircuitDb.next_of (P := Tracks policy request) (fun db' hok => ?_) h
  have step := mirrors_step h hr hrequest hunder hok
  exact ⟨CircuitDb.next_ok hok ▸ h.sound.next op, step.policy, step.mirrors.mpr hfaithful⟩

theorem empty_tracks (key : CircuitKey) (hr : policy.policyRevision ≠ 0) :
    Tracks policy request (.empty key) where
  sound := empty_sound key
  policy :=
    { sound := newCircuit_sound (policy.validConfig hr)
      lease := nofun
      below := fun _ =>
        UInt16.pos_iff_ne_zero.mpr (validate_ok.mp (CircuitPolicy.config_valid hr)).2.1
      recovering := nofun }
  mirrors := ⟨rfl, rfl, rfl, rfl, rfl, rfl⟩

end Operations

/-! ### The columns -/

/-- The row and the replay agree in every column the replay writes over. -/
structure SameColumns (values : StateValues) (g : CircuitGenerationState) : Prop where
  state : values.state = g.state
  consecutiveFailures : values.consecutiveFailures = g.consecutiveFailures
  reopenLevel : values.reopenLevel = g.reopenLevel
  openedAtMs : values.openedAtMs = g.openedAtMs
  cooldownUntilMs : values.cooldownUntilMs = g.cooldownUntilMs
  recoverySuccesses : values.recoverySuccesses = g.recoverySuccesses

theorem applyCircuitEvent_opened {request : CircuitGenerationBuildRequest}
    {g : CircuitGenerationState} {event : CircuitEvent}
    (h : g.state ≠ .closed → g.openedAtMs.isSome) :
    (applyCircuitEvent g event request).state ≠ .closed →
      (applyCircuitEvent g event request).openedAtMs.isSome := by
  have hhalf : ∀ g' : CircuitGenerationState, g'.openedAtMs.isSome → ∀ success failure,
      (applyHalfOpenResult g' event success failure request).state ≠ .closed →
        (applyHalfOpenResult g' event success failure request).openedAtMs.isSome := by
    intro g' hg' success failure
    unfold applyHalfOpenResult
    dsimp only
    split_ifs
    · exact fun hne => absurd rfl hne
    · exact fun _ => hg'
    · exact fun _ => rfl
    · exact fun _ => hg'
  unfold applyCircuitEvent
  split
  · split
    · exact fun _ => rfl
    · exact h
  · dsimp only
    split
    · rename_i hclosed
      split_ifs
      · exact fun hne => absurd hclosed hne
      · exact fun _ => rfl
      · exact fun hne => absurd hclosed hne
      · exact h
    · rename_i hopen
      split
      · refine hhalf _ ?_ _ _
        exact h (by simp [hopen])
      · exact h
    · rename_i hidle
      split
      · refine hhalf _ ?_ _ _
        exact h (by simp [hidle])
      · exact h

/-- The replay never forgets when it opened, until it closes. -/
theorem replayed_opened (request : CircuitGenerationBuildRequest) (events : List CircuitEvent) :
    (replayed request events).state ≠ .closed →
      (replayed request events).openedAtMs.isSome := by
  have hfold : ∀ (events : List CircuitEvent) (g : CircuitGenerationState),
      (g.state ≠ .closed → g.openedAtMs.isSome) →
      ((events.foldl (replayEvent request) g).state ≠ .closed →
        (events.foldl (replayEvent request) g).openedAtMs.isSome) := by
    intro events
    induction events with
    | nil => exact fun g hg => hg
    | cons e rest ih => exact fun g hg => ih _ (applyCircuitEvent_opened hg)
  exact hfold _ _ fun hne => absurd rfl hne

/-- With no probe out the replay mirrors the live circuit when it has the row's columns. -/
theorem columns_iff {live : StationKeyCircuitState} {clock : UInt64} {g : CircuitGenerationState}
    (hlease : live.leaseId = none) (hopened : g.state ≠ .closed → g.openedAtMs.isSome) :
    SameColumns (.of live) g ↔ Mirrors live clock g := by
  cases live with
  | closed r f l =>
    constructor
    · rintro ⟨hs, hf, hl, ht, hu, hn⟩
      exact ⟨hs.symm, hf.symm, hl.symm, ht.symm, hu.symm, hn.symm⟩
    · rintro ⟨hs, hf, hl, ht, hu, hn⟩
      exact ⟨hs.symm, hf.symm, hl.symm, ht.symm, hu.symm, hn.symm⟩
  | «open» r t u f l =>
    constructor
    · rintro ⟨hs, hf, hl, ht, hu, hn⟩
      exact ⟨hs.symm, hf.symm, hl.symm, ht.symm, hu.symm, hn.symm⟩
    · rintro ⟨hs, hf, hl, ht, hu, hn⟩
      exact ⟨hs.symm, hf.symm, hl.symm, ht.symm, hu.symm, hn.symm⟩
  | halfOpen r lease lr e n l =>
    -- The replay never forgets when it opened, and an idle row has forgotten it.
    obtain rfl : lease = none := hlease
    refine iff_of_false (fun hcolumns => ?_) id
    have hsome := hopened (by simp [← hcolumns.state, StateValues.of])
    rw [← hcolumns.openedAtMs] at hsome
    cases hsome

/-- The row's columns, or those before the probe while one is out. -/
def settle (values : StateValues) (db : CircuitDb) : StateValues :=
  if db.state.leaseId = none then .of db.state else values

/-- The row's columns when no probe was out last. -/
def settled (key : CircuitKey) (ops : List StoreOp) : StateValues :=
  Runs.record CircuitDb.next (fun _ _ db values => settle values db) (.empty key)
    (.of (CircuitDb.empty key).state) ops

section Settled
variable {policy : CircuitPolicy} {request : CircuitGenerationBuildRequest} {db db' : CircuitDb}
  {op : StoreOp} {values : StateValues}

theorem Tracks.columns (h : Tracks policy request db)
    (hsame : SameColumns values (replayed request db.events)) :
    SameColumns (settle values db) (replayed request db.events) := by
  unfold settle
  split
  · rename_i hfree
    exact (columns_iff hfree (replayed_opened _ _)).mpr h.mirrors
  · exact hsame

/-- An operation keeps the columns together exactly when it is faithful. -/
theorem columns_step (hsame : SameColumns values (replayed request db.events))
    (step : Replays policy request db op db') :
    SameColumns (settle values db') (replayed request db'.events) ↔ Faithful db op := by
  unfold settle
  split
  · rename_i hfree
    exact (columns_iff hfree (replayed_opened _ _)).trans step.mirrors
  · rename_i hprobe
    obtain ⟨hfaithful, hevents⟩ := step.probing hprobe
    exact iff_of_true (hevents ▸ hsame) hfaithful

theorem columns_next (h : Tracks policy request db) (hr : policy.policyRevision ≠ 0)
    (hrequest : Matches request policy.config) (hunder : Under policy op) (hfaithful : Faithful db op)
    (hsame : SameColumns values (replayed request db.events)) :
    SameColumns (settle values (db.next op)) (replayed request (db.next op).events) := by
  refine CircuitDb.next_of (P := fun db' => SameColumns (settle values db')
    (replayed request db'.events)) (fun db' hok => ?_) (h.columns hsame)
  exact (columns_step hsame (mirrors_step h hr hrequest hunder hok)).mpr hfaithful

end Settled

/-- In a run of faithful operations the rebuild arrives at the columns of the live row, or at
those before the probe that is out; the first operation that is not faithful parts them. -/
theorem replay_mirrors (key : CircuitKey) (policy : CircuitPolicy) (watermark : UInt64)
    (evaluation : Int) (hrequest : validateCircuitRequest (.of policy watermark evaluation) = .ok ())
    (ops : List StoreOp) (hops : ∀ op ∈ ops, Under policy op)
    (along : Runs.Along CircuitDb.next Faithful (.empty key) ops) :
    let request := CircuitGenerationBuildRequest.of policy watermark evaluation
    (∃ current,
      applyCircuitEventBatch request none (loadCircuitEvents (history key ops)) = .ok current ∧
      SameColumns (settled key ops) (current.getD newCircuitState)) ∧
    ∀ op, Under policy op → ((history key ops).apply op).isOk → ∃ current,
      applyCircuitEventBatch request none (loadCircuitEvents (history key (ops ++ [op]))) =
        .ok current ∧
      (SameColumns (settled key (ops ++ [op])) (current.getD newCircuitState) ↔
        Faithful (history key ops) op) := by
  intro request
  obtain ⟨hr, hmatches⟩ := request_matches hrequest
  have empty_columns : SameColumns (.of (CircuitDb.empty key).state) (replayed request []) :=
    ⟨rfl, rfl, rfl, rfl, rfl, rfl⟩
  have kept (db : CircuitDb) (op : StoreOp) (values : StateValues)
      (hop : Faithful db op ∧ Under policy op)
      (h : Tracks policy request db ∧ SameColumns values (replayed request db.events)) :
      Tracks policy request (db.next op) ∧
        SameColumns (settle values (db.next op)) (replayed request (db.next op).events) :=
    ⟨h.1.next hr hmatches hop.2 hop.1, columns_next h.1 hr hmatches hop.2 hop.1 h.2⟩
  obtain ⟨tracks, columns⟩ : Tracks policy request (history key ops) ∧
      SameColumns (settled key ops) (replayed request (history key ops).events) := by
    refine Runs.record_invariant_along (R := fun db values => Tracks policy request db ∧
      SameColumns values (replayed request db.events)) kept ?_ (along.and_rule hops)
    exact ⟨empty_tracks key hr, empty_columns⟩
  refine ⟨?_, fun op hunder happly => ?_⟩
  · obtain ⟨current, hok, heq⟩ := replay_succeeds request key ops
    exact ⟨current, hok, heq ▸ columns⟩
  · obtain ⟨db', happly⟩ := isOk_iff.mp happly
    obtain ⟨current, hok, heq⟩ := replay_succeeds request key (ops ++ [op])
    refine ⟨current, hok, ?_⟩
    have isNext : history key (ops ++ [op]) = db' :=
      (history_concat key ops op).trans (CircuitDb.next_ok happly)
    have isSettled : settled key (ops ++ [op]) = settle (settled key ops) db' :=
      (Runs.record_concat ..).trans (congrArg _ (CircuitDb.next_ok happly))
    rw [heq, isSettled, isNext]
    exact columns_step columns (mirrors_step tracks hr hmatches hunder happly)

/-- A result of the plain policy that is a business rejection: it crossed the boundary and
is not to count. -/
def rejection : CircuitTerminalInput :=
  { resultOf "rejected" 0 false with affectsCircuit := false }

/-- A failure, a probe and its success. -/
def probeOps : List StoreOp :=
  [.finishAttempt (resultOf "first" 0 false), .admitAttempt plainPolicy 1 9 "probe",
    .finishAttempt (resultOf "probe" 2 true)]

theorem replay_mirrors_probe :
    validateCircuitRequest (.of plainPolicy 9 0) = .ok () ∧ (∀ op ∈ probeOps, Under plainPolicy op) ∧
    Runs.Along CircuitDb.next Faithful (.empty plainKey) probeOps ∧
    ∃ current, applyCircuitEventBatch (.of plainPolicy 9 0) none
        (loadCircuitEvents (history plainKey probeOps)) = .ok current ∧
      SameColumns (settled plainKey probeOps) (current.getD newCircuitState) := by
  have hops : ∀ op ∈ probeOps, Under plainPolicy op := by simp [probeOps, Under, resultOf]
  have along : Runs.Along CircuitDb.next Faithful (.empty plainKey) probeOps :=
    ⟨fun _ _ => by decide +kernel, trivial, fun _ _ => by decide +kernel, trivial⟩
  exact ⟨rfl, hops, along, (replay_mirrors plainKey plainPolicy 9 0 rfl probeOps hops along).1⟩

/-- The replay opens at the rejection, at which the live circuit stays Closed. -/
theorem rejection_opens_replay :
    ¬ ∀ (key : CircuitKey) (policy : CircuitPolicy) (watermark : UInt64) (evaluation : Int)
      (ops : List StoreOp) (current : Option CircuitGenerationState),
      validateCircuitRequest (.of policy watermark evaluation) = .ok () →
      (∀ op ∈ ops, Under policy op) →
      applyCircuitEventBatch (.of policy watermark evaluation) none
        (loadCircuitEvents (history key ops)) = .ok current →
      SameColumns (settled key ops) (current.getD newCircuitState) := by
  intro h
  obtain ⟨current, hok, heq⟩ :=
    replay_succeeds (.of plainPolicy 9 0) plainKey [.finishAttempt rejection]
  have same := (h plainKey plainPolicy 9 0 [.finishAttempt rejection] current rfl
    (by simp [Under, rejection, resultOf]) hok).state
  rw [heq] at same
  revert same
  decide +kernel

end RelayPool.Generation
