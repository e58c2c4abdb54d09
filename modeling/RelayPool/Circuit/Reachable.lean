import RelayPool.Circuit.Moves

/-! The circuits a run can reach.

A step is an operation under the policy in force when it is called: the store
rebuilds the circuit from its row at every call, so each step brings a valid
config of its own. `reach` is the circuit after any steps from a new one, and
`Sound` is what holds there: it is what `validateState` checks and the reopen
levels, which no check sees and only the history explains.

`revision_fences` is the other side of the row: which operations a
compare-and-swap on the state revision can tell apart. All of them can be told
apart but one, a probe released before it crossed the boundary. -/
namespace RelayPool.Circuit
open StationKeyCircuit

structure CircuitStep where
  config : ValidConfig
  op : CircuitOp
deriving DecidableEq

def step (c : StationKeyCircuit) (s : CircuitStep) : StationKeyCircuit :=
  (c.withConfig s.config.config).next s.op

/-- What a step answers; an error is no answer. -/
def reply (c : StationKeyCircuit) (s : CircuitStep) : Option CircuitReply :=
  match (c.withConfig s.config.config).apply s.op with
  | .ok (answer, _) => some answer
  | .error _ => none

/-- A step is a move under its own config, or an error that changes nothing. -/
theorem step_moves (c : StationKeyCircuit) (s : CircuitStep) :
    (reply c s = none ∧ step c s = c.withConfig s.config.config) ∨
      ∃ answer, reply c s = some answer ∧
        CircuitMove (c.withConfig s.config.config) s.op answer (step c s) := by
  unfold reply step StationKeyCircuit.next
  cases h : (c.withConfig s.config.config).apply s.op with
  | ok result => exact .inr ⟨result.1, rfl, apply_moves h⟩
  | error e => exact .inl ⟨rfl, rfl⟩

def ValidConfig.newCircuit (v : ValidConfig) : StationKeyCircuit :=
  ⟨v.config, v.config.policyRevision, none, StationKeyCircuitState.initial⟩

theorem new_valid (v : ValidConfig) : StationKeyCircuit.new v.config = .ok v.newCircuit := by
  unfold StationKeyCircuit.new
  rw [v.valid]
  rfl

/-- The circuit after a run of steps from a new one. -/
def reach (v : ValidConfig) (steps : List CircuitStep) : StationKeyCircuit :=
  Runs.run step v.newCircuit steps

theorem reach_concat (v : ValidConfig) (steps : List CircuitStep) (s : CircuitStep) :
    reach v (steps ++ [s]) = step (reach v steps) s := Runs.run_concat ..

theorem reach_append (v : ValidConfig) (before after : List CircuitStep) :
    reach v (before ++ after) = Runs.run step (reach v before) after := Runs.run_append ..

theorem validate_ok {config : StationKeyCircuitConfig} :
    config.validate = .ok config ↔ config.policyRevision ≠ 0 ∧
      config.consecutiveFailureThreshold ≠ 0 ∧ config.recoverySuccessThreshold ≠ 0 ∧
      config.recoveryWaitMs ≠ 0 ∧ config.recoveryWaitMs ≤ config.maxCooldownMs := by
  unfold StationKeyCircuitConfig.validate
  split
  · rename_i h
    refine ⟨nofun, fun h' => ?_⟩
    rw [← UInt64.not_lt] at h'
    tauto
  · rename_i h
    simp only [not_or] at h
    exact ⟨fun _ => ⟨h.1, h.2.1, h.2.2.1, h.2.2.2.1, UInt64.not_lt.mp h.2.2.2.2⟩, fun _ => rfl⟩

/-! ### What holds of a reached circuit -/

structure LeasePolicyValid (policy : StationKeyCircuitLeasePolicy) : Prop where
  revision : policy.policyRevision ≠ 0
  threshold : policy.recoverySuccessThreshold ≠ 0
  wait : policy.recoveryWaitMs ≠ 0

structure Sound (c : StationKeyCircuit) : Prop where
  config : c.config.validate = .ok c.config
  revision : c.policyRevision ≠ 0
  policy : ∀ policy, c.leasePolicy = some policy → LeasePolicyValid policy
  lease : c.leasePolicy.isSome = c.state.leaseId.isSome
  expiry : c.state.leaseId.isSome = c.state.leaseExpiresAtMs.isSome
  closed : c.state.IsClosed → c.state.reopenLevel = 0
  reopened : ¬ c.state.IsClosed → 1 ≤ c.state.reopenLevel
  cooldown : ∀ r t u f l, c.state = .open r t u f l → t ≤ u
  numbered : 0 < c.state.stateRevision
  leaseNumbered : c.state.leaseRevision.all (0 < ·)

theorem bumpRevision_pos (r : UInt64) : 0 < bumpRevision r := by
  rw [UInt64.lt_iff_toNat_lt, bumpRevision, UInt64.toNat_max]
  exact Nat.lt_of_lt_of_le Nat.zero_lt_one (le_max_right ..)

theorem newCircuit_sound (v : ValidConfig) : Sound v.newCircuit where
  config := v.valid
  revision := (validate_ok.mp v.valid).1
  policy := nofun
  lease := rfl
  expiry := rfl
  closed := fun _ => rfl
  reopened := fun h => absurd trivial h
  cooldown := nofun
  numbered := show (0 : UInt64) < 1 by decide
  leaseNumbered := rfl

theorem Sound.withConfig {c : StationKeyCircuit} (h : Sound c) (v : ValidConfig) :
    Sound (c.withConfig v.config) :=
  { h with config := v.valid }

/-- A lease granted now carries a valid snapshot of the policy in force. -/
theorem Sound.leasePolicyValid {c : StationKeyCircuit} (h : Sound c) :
    LeasePolicyValid ⟨c.config.policyRevision, c.config.recoverySuccessThreshold,
      c.config.recoveryWaitMs⟩ := by
  obtain ⟨hr, _, ht, hw, _⟩ := validate_ok.mp h.config
  exact ⟨hr, ht, hw⟩

theorem Sound.openWithPolicy {c : StationKeyCircuit} (h : Sound c) (now : UInt64) (f : UInt16)
    (l : UInt32) {revision wait : UInt64} (hr : revision ≠ 0) :
    Sound (c.openWithPolicy now f l revision wait) where
  config := h.config
  revision := hr
  policy := nofun
  lease := rfl
  expiry := rfl
  closed := nofun
  reopened := fun _ => by
    show 1 ≤ max (l.saturatingAdd 1) 1
    rw [UInt32.le_iff_toNat_le, UInt32.toNat_max]
    exact le_max_right ..
  cooldown := fun r t u f l h => by
    cases h
    exact UInt64.le_saturatingAdd ..
  numbered := bumpRevision_pos _
  leaseNumbered := rfl

theorem Sound.grantLease {c : StationKeyCircuit} (h : Sound c) {r : UInt64} (hr : 0 < r)
    (lease : String) (deadline : UInt64) (n : UInt16) (hl : 1 ≤ c.state.reopenLevel) :
    Sound (c.grantLease r lease deadline n c.state.reopenLevel) where
  config := h.config
  revision := h.leasePolicyValid.revision
  policy := fun _ hp => Option.some.inj hp ▸ h.leasePolicyValid
  lease := rfl
  expiry := rfl
  closed := nofun
  reopened := fun _ => hl
  cooldown := nofun
  numbered := hr
  leaseNumbered := by simpa using hr

theorem Sound.counted {c : StationKeyCircuit} (h : Sound c) (r : UInt64) (f : UInt16)
    (hl : c.state.reopenLevel = 0) : Sound (c.counted r f c.state.reopenLevel) where
  config := h.config
  revision := h.leasePolicyValid.revision
  policy := nofun
  lease := rfl
  expiry := rfl
  closed := fun _ => hl
  reopened := fun h => absurd trivial h
  cooldown := nofun
  numbered := bumpRevision_pos _
  leaseNumbered := rfl

theorem CircuitMove.sound {c c' : StationKeyCircuit} {op : CircuitOp} {reply : CircuitReply}
    (m : CircuitMove c op reply c') (h : Sound c) : Sound c' := by
  have hrevision := h.leasePolicyValid.revision
  have hlease := h.lease
  have hexpiry := h.expiry
  have hclosed := h.closed
  have hreopened := h.reopened
  cases m with
  | admitReached hs hf => exact h.openWithPolicy _ _ _ hrevision
  | @admitAdopt now deadline lease r f l hs hf hp =>
    rw [hs] at hlease hclosed
    exact { h with
      revision := hrevision, lease := hlease, expiry := rfl, closed := hclosed
      reopened := fun h => absurd trivial h, cooldown := nofun
      numbered := bumpRevision_pos _, leaseNumbered := rfl }
  | admitClosed hs hf hp => exact h
  | @admitOpenAdopt now deadline lease r t u f l hs hu hp =>
    rw [hs] at hlease hreopened
    exact { h with
      revision := hrevision, lease := hlease, expiry := rfl, closed := nofun
      reopened := hreopened
      cooldown := fun _ _ _ _ _ h' => by
        cases h'
        exact h.cooldown _ _ _ _ _ hs
      numbered := bumpRevision_pos _, leaseNumbered := rfl }
  | admitOpen hs hu hp => exact h
  | @admitProbe now deadline lease r t u f l hs hu hd hne =>
    have grant := h.grantLease (bumpRevision_pos
      (if c.policyRevision ≠ c.config.policyRevision then bumpRevision r else r)) lease deadline 0
      (hreopened (by simp [hs]))
    rwa [hs] at grant
  | admitBusy hs => exact h
  | @admitIdle now deadline lease r lr e n l hs hd hne =>
    have grant := h.grantLease (bumpRevision_pos r) lease deadline n (hreopened (by simp [hs]))
    rwa [hs] at grant
  | finishUncrossed hs => exact h
  | @finishSuccess now lease r f l hs =>
    have count := h.counted r 0 (hclosed (by simp [hs]))
    rwa [hs] at count
  | @finishFailure now lease r f l hs hf =>
    have count := h.counted r (f.saturatingAdd 1) (hclosed (by simp [hs]))
    rwa [hs] at count
  | finishOpens hs hf => exact h.openWithPolicy _ _ _ hrevision
  | finishLate hs hl => exact h
  | finishReleased hs =>
    have hnumbered := h.numbered
    rw [hs] at hreopened hnumbered
    exact { h with
      policy := nofun, lease := rfl, expiry := rfl, closed := nofun
      reopened := hreopened, cooldown := nofun
      numbered := hnumbered, leaseNumbered := by simpa using hnumbered }
  | finishExpired hs he hp => exact h.openWithPolicy _ _ _ (h.policy _ hp).revision
  | finishCloses hs he hp hn =>
    exact { h with
      revision := (h.policy _ hp).revision, policy := nofun, lease := rfl
      expiry := rfl, closed := fun _ => rfl, reopened := fun h => absurd trivial h
      cooldown := nofun, numbered := bumpRevision_pos _, leaseNumbered := rfl }
  | finishRecovers hs he hp hn =>
    rw [hs] at hreopened
    exact { h with
      revision := (h.policy _ hp).revision, policy := nofun, lease := rfl
      expiry := rfl, closed := nofun, reopened := hreopened
      cooldown := nofun, numbered := bumpRevision_pos _
      leaseNumbered := by simpa using bumpRevision_pos _ }
  | finishReopens hs he hp => exact h.openWithPolicy _ _ _ (h.policy _ hp).revision
  | reapReopens hs he hp => exact h.openWithPolicy _ _ _ (h.policy _ hp).revision
  | reapNothing hl => exact h

theorem step_sound (c : StationKeyCircuit) (s : CircuitStep) (h : Sound c) : Sound (step c s) := by
  have hc := h.withConfig s.config
  rcases step_moves c s with ⟨-, heq⟩ | ⟨answer, -, m⟩
  · rwa [heq]
  · exact m.sound hc

/-- An active lease has its policy. -/
theorem Sound.activeLeasePolicy {c : StationKeyCircuit} (h : Sound c)
    (hlease : c.state.leaseId.isSome) : ∃ policy, c.activeLeasePolicy = .ok policy := by
  rw [← h.lease] at hlease
  obtain ⟨policy, hpolicy⟩ := Option.isSome_iff_exists.mp hlease
  refine ⟨policy, ?_⟩
  unfold StationKeyCircuit.activeLeasePolicy
  rw [hpolicy]

theorem Sound.finish_ok {c : StationKeyCircuit} (h : Sound c) (now : UInt64)
    (lease : Option String) (success crossed : Bool) :
    ∃ result, c.finish now lease success crossed = .ok result := by
  have hpolicy := h.activeLeasePolicy
  unfold StationKeyCircuit.finish
  split
  · dsimp only
    split_ifs <;> exact ⟨_, rfl⟩
  · exact ⟨_, rfl⟩
  · exact ⟨_, rfl⟩
  · rename_i hs
    obtain ⟨policy, hpolicy⟩ := hpolicy (by rw [hs]; rfl)
    rw [hpolicy]
    dsimp only [bind, Except.bind]
    split_ifs <;> exact ⟨_, rfl⟩

theorem Sound.reapExpiredLease_ok {c : StationKeyCircuit} (h : Sound c) (now : UInt64)
    (lease : String) : ∃ result, c.reapExpiredLease now lease = .ok result := by
  have hpolicy := h.activeLeasePolicy
  unfold StationKeyCircuit.reapExpiredLease
  split
  · rename_i hs
    obtain ⟨policy, hpolicy⟩ := hpolicy (by rw [hs]; rfl)
    rw [hpolicy]
    dsimp only [bind, Except.bind]
    split_ifs <;> exact ⟨_, rfl⟩
  · exact ⟨_, rfl⟩

/-- From a sound circuit only an admission can fail. -/
theorem Sound.step_moves {c : StationKeyCircuit} (h : Sound c) (s : CircuitStep) :
    ((∃ now deadline lease, s.op = .admitAttempt now deadline lease) ∧ reply c s = none ∧
      step c s = c.withConfig s.config.config) ∨
      ∃ answer, reply c s = some answer ∧
        CircuitMove (c.withConfig s.config.config) s.op answer (step c s) := by
  rcases RelayPool.Circuit.step_moves c s with ⟨hnone, heq⟩ | hmove
  · refine .inl ⟨?_, hnone, heq⟩
    have hc := h.withConfig s.config
    unfold reply at hnone
    cases hop : s.op with
    | admitAttempt now deadline lease => exact ⟨now, deadline, lease, rfl⟩
    | finish now lease success crossed =>
      obtain ⟨result, hok⟩ := hc.finish_ok now lease success crossed
      simp [hop, apply, hok, Except.map] at hnone
    | reapExpiredLease now lease =>
      obtain ⟨result, hok⟩ := hc.reapExpiredLease_ok now lease
      simp [hop, apply, hok, Except.map] at hnone
  · exact .inr hmove

theorem reach_sound (v : ValidConfig) (steps : List CircuitStep) : Sound (reach v steps) :=
  Runs.run_invariant step_sound (newCircuit_sound v) steps

theorem Sound.validateState {c : StationKeyCircuit} (h : Sound c) : c.validateState = .ok () := by
  obtain ⟨config, policyRevision, leasePolicy, state⟩ := c
  have hlease := h.lease
  have hpolicy : ¬ leasePolicy.any (fun policy => policy.policyRevision = 0 ∨
      policy.recoverySuccessThreshold = 0 ∨ policy.recoveryWaitMs = 0) := by
    cases leasePolicy with
    | none => simp
    | some policy =>
      obtain ⟨hr, ht, hw⟩ := h.policy policy rfl
      simp [hr, ht, hw]
  unfold StationKeyCircuit.validateState
  rw [if_neg (not_or.mpr ⟨not_not.mpr hlease.symm, hpolicy⟩)]
  cases state with
  | closed => rfl
  | «open» r t u f l => exact if_neg (UInt64.not_lt.mpr (h.cooldown _ _ _ _ _ rfl))
  | halfOpen r lease lr e n l => exact if_neg (not_not.mpr h.expiry)

/-- The store's reconstruction accepts every reached circuit, whatever the policy then is. -/
theorem Sound.fromState {c : StationKeyCircuit} (h : Sound c) (v : ValidConfig) :
    StationKeyCircuit.fromState v.config c.policyRevision c.leasePolicy c.state =
      .ok (c.withConfig v.config) := by
  unfold StationKeyCircuit.fromState
  rw [if_neg h.revision, v.valid]
  show ((c.withConfig v.config).validateState >>= fun _ => pure (c.withConfig v.config)) = _
  rw [(h.withConfig v).validateState]
  rfl

theorem reach_invariant (v : ValidConfig) (steps : List CircuitStep) :
    let c := reach v steps
    c.validateState = .ok () ∧
    (∀ v' : ValidConfig, StationKeyCircuit.fromState v'.config c.policyRevision c.leasePolicy
      c.state = .ok (c.withConfig v'.config)) ∧
    (c.leasePolicy.isSome ↔ c.state.leaseId.isSome) ∧
    (c.state.leaseId.isSome ↔ c.state.leaseExpiresAtMs.isSome) ∧
    (c.state.IsClosed → c.state.reopenLevel = 0) ∧
    (c.state.IsOpen ∨ c.state.IsHalfOpen → 1 ≤ c.state.reopenLevel) ∧
    ∀ r t u f l, c.state = .open r t u f l → t ≤ u := by
  intro c
  have h : Sound c := reach_sound v steps
  refine ⟨h.validateState, h.fromState, ?_, ?_, h.closed, ?_, h.cooldown⟩
  · rw [h.lease]
  · rw [h.expiry]
  · intro hs
    refine h.reopened fun hclosed => ?_
    cases hstate : c.state <;> simp_all

/-! ### The state revision as a fence -/

/-- A result of the active lease that never crossed the boundary. -/
def Releases (c : StationKeyCircuit) (op : CircuitOp) : Prop :=
  ∃ now lease success, op = .finish now (some lease) success false ∧
    c.state.leaseId = some lease

theorem le_bumpRevision (r : UInt64) : r ≤ bumpRevision r := by
  rw [UInt64.le_iff_toNat_le, bumpRevision, UInt64.toNat_max]
  exact (UInt64.le_iff_toNat_le.mp (UInt64.le_saturatingAdd r 1)).trans (le_max_left ..)

theorem lt_bumpRevision {r : UInt64} (h : r < UInt64.maxValue) : r < bumpRevision r := by
  rw [UInt64.lt_iff_toNat_lt] at h ⊢
  rw [bumpRevision, UInt64.toNat_max, UInt64.toNat_saturatingAdd]
  simp only [UInt64.toNat_maxValue] at h
  simp only [UInt64.reduceToNat]
  omega

/-- An operation that does anything takes a new revision, or releases the lease. -/
theorem CircuitMove.revision {c c' : StationKeyCircuit} {op : CircuitOp} {reply : CircuitReply}
    (m : CircuitMove c op reply c') :
    c' = c ∨ bumpRevision c.state.stateRevision ≤ c'.state.stateRevision ∨ Releases c op := by
  cases m with
  | admitReached hs hf => exact .inr (.inl (UInt64.le_refl _))
  | admitAdopt hs hf hp => exact .inr (.inl (by rw [hs]; exact UInt64.le_refl _))
  | admitClosed hs hf hp => exact .inl rfl
  | admitOpenAdopt hs hu hp => exact .inr (.inl (by rw [hs]; exact UInt64.le_refl _))
  | admitOpen hs hu hp => exact .inl rfl
  | @admitProbe now deadline lease r t u f l hs hu hd hne =>
    refine .inr (.inl ?_)
    rw [hs]
    show bumpRevision r ≤ bumpRevision (ite _ _ _)
    split
    · exact le_bumpRevision _
    · exact UInt64.le_refl _
  | admitBusy hs => exact .inl rfl
  | admitIdle hs hd hne => exact .inr (.inl (by rw [hs]; exact UInt64.le_refl _))
  | finishUncrossed hs => exact .inl rfl
  | finishSuccess hs => exact .inr (.inl (by rw [hs]; exact UInt64.le_refl _))
  | finishFailure hs hf => exact .inr (.inl (by rw [hs]; exact UInt64.le_refl _))
  | finishOpens hs hf => exact .inr (.inl (UInt64.le_refl _))
  | finishLate hs hl => exact .inl rfl
  | finishReleased hs => exact .inr (.inr ⟨_, _, _, rfl, by rw [hs]; rfl⟩)
  | finishExpired hs he hp => exact .inr (.inl (UInt64.le_refl _))
  | finishCloses hs he hp hn => exact .inr (.inl (by rw [hs]; exact UInt64.le_refl _))
  | finishRecovers hs he hp hn => exact .inr (.inl (by rw [hs]; exact UInt64.le_refl _))
  | finishReopens hs he hp => exact .inr (.inl (UInt64.le_refl _))
  | reapReopens hs he hp => exact .inr (.inl (UInt64.le_refl _))
  | reapNothing hl => exact .inl rfl

/-- A released probe: the lease is gone, the revision is not a new one. -/
theorem Releases.step {c : StationKeyCircuit} {s : CircuitStep} (h : Releases c s.op) :
    (step c s).status ≠ c.status ∧ (step c s).state.stateRevision = c.state.stateRevision := by
  obtain ⟨now, lease, success, hop, hlease⟩ := h
  cases hs : c.state with
  | closed => simp [hs] at hlease
  | «open» => simp [hs] at hlease
  | halfOpen r active lr e n l =>
    obtain rfl : active = some lease := by simpa [hs] using hlease
    have hstep : (RelayPool.Circuit.step c s).state = .halfOpen r none r none n l := by
      simp [RelayPool.Circuit.step, next, apply, hop, finish, withConfig, hs, Except.map]
    refine ⟨fun heq => ?_, by rw [hstep]; rfl⟩
    have := congrArg (·.state) heq
    simp [status, hstep, hs] at this

/-- Any other step that changes what the row keeps is seen by its revision. -/
theorem step_revision (c : StationKeyCircuit) (s : CircuitStep) (hr : ¬ Releases c s.op) :
    (step c s).status = c.status ∨
      bumpRevision c.state.stateRevision ≤ (step c s).state.stateRevision := by
  rcases step_moves c s with ⟨-, heq⟩ | ⟨answer, -, m⟩
  · exact .inl (congrArg status heq :)
  · rcases m.revision with heq | hle | hreleases
    · exact .inl (congrArg status heq :)
    · exact .inr hle
    · exact absurd hreleases hr

/-- What a later circuit of a run is to a writer that read `c`: still the same row, or
one whose revision the writer's compare-and-swap no longer matches. -/
def Fenced (c c' : StationKeyCircuit) : Prop :=
  c'.status = c.status ∨ c.state.stateRevision < c'.state.stateRevision

theorem fenced_step {c c' : StationKeyCircuit} (hmax : c.state.stateRevision < UInt64.maxValue)
    (s : CircuitStep) (hr : ¬ Releases c' s.op) (h : Fenced c c') : Fenced c (step c' s) := by
  rcases step_revision c' s hr with heq | hle
  · rcases h with h | h
    · exact .inl (heq.trans h)
    · refine .inr ?_
      rwa [show (step c' s).state = c'.state from congrArg (·.state) heq]
  · refine .inr (UInt64.lt_of_lt_of_le ?_ hle)
    rcases h with h | h
    · rw [show c'.state = c.state from congrArg (·.state) h]
      exact lt_bumpRevision hmax
    · exact UInt64.lt_of_lt_of_le h (le_bumpRevision _)

/-- A step is seen by the revision unless it releases a probe; in a run without such
a step every change is. -/
theorem revision_fences (v : ValidConfig) (before : List CircuitStep)
    (hmax : (reach v before).state.stateRevision < UInt64.maxValue) :
    (∀ s : CircuitStep,
      ((step (reach v before) s).status ≠ (reach v before).status →
        (reach v before).state.stateRevision < (step (reach v before) s).state.stateRevision) ↔
      ¬ Releases (reach v before) s.op) ∧
    ∀ after : List CircuitStep,
      Runs.Along step (fun c s => ¬ Releases c s.op) (reach v before) after →
      (reach v (before ++ after)).status ≠ (reach v before).status →
      (reach v before).state.stateRevision < (reach v (before ++ after)).state.stateRevision := by
  refine ⟨fun s => ⟨fun h hreleases => ?_, fun hr hchanged => ?_⟩, fun after along hchanged => ?_⟩
  · obtain ⟨hchanged, hsame⟩ := hreleases.step
    have := h hchanged
    rw [hsame] at this
    exact absurd this (UInt64.lt_irrefl _)
  · exact UInt64.lt_of_lt_of_le (lt_bumpRevision hmax)
      ((step_revision _ s hr).resolve_left hchanged)
  · rw [reach_append] at hchanged ⊢
    have fenced : Fenced (reach v before) (Runs.run step (reach v before) after) :=
      Runs.run_invariant_along (fun c' s hr h => fenced_step hmax s hr h) (.inl rfl) along
    exact fenced.resolve_left hchanged

/-- Every threshold and wait at its minimum: one failure opens, one success closes. -/
def quickConfig : ValidConfig := ⟨⟨1, 1, 1, 1, 1⟩, rfl⟩

/-- A failure opens the circuit and the cooldown ends in a probe. -/
def probeSteps : List CircuitStep :=
  [⟨quickConfig, .finish 0 none false true⟩, ⟨quickConfig, .admitAttempt 1 9 "probe"⟩]

theorem revision_fences_probe :
    (reach quickConfig probeSteps).state.stateRevision < UInt64.maxValue ∧
    ((step (reach quickConfig probeSteps) ⟨quickConfig, .finish 2 (some "probe") true true⟩).status ≠
        (reach quickConfig probeSteps).status →
      (reach quickConfig probeSteps).state.stateRevision <
        (step (reach quickConfig probeSteps)
          ⟨quickConfig, .finish 2 (some "probe") true true⟩).state.stateRevision) :=
  ⟨by decide, ((revision_fences quickConfig probeSteps (by decide)).1 _).mpr (by
    rintro ⟨now, lease, success, hop, -⟩
    simp at hop)⟩

/-- The released probe keeps the revision of the admission that granted it. -/
theorem released_probe_unfenced :
    ¬ ∀ (v : ValidConfig) (before : List CircuitStep) (s : CircuitStep),
      (reach v before).state.stateRevision < UInt64.maxValue →
      (step (reach v before) s).status ≠ (reach v before).status →
      (reach v before).state.stateRevision < (step (reach v before) s).state.stateRevision := by
  intro h
  have := h quickConfig probeSteps ⟨quickConfig, .finish 2 (some "probe") true false⟩
  revert this
  decide

end RelayPool.Circuit
