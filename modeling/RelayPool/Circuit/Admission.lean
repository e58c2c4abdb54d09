import RelayPool.Circuit.History

/-! When the durable store answers an admission.

The reducer compares the caller's deadline with its own clock, and in the store
that clock is the latest sample any operation ever took. A caller whose own time
is behind it is refused with an error, not with a denial, whatever the circuit:
`admission_answers` says exactly which admissions are answered, and
`rollback_refuses` is a fresh key that is not. -/
namespace RelayPool.Circuit
open StationKeyCircuit Fallible

/-- What an admission writes fits the columns; one that writes nothing new needs nothing. -/
def AdmissionFits (c : StationKeyCircuit) (now deadline : UInt64) (attemptId : String) : Prop :=
  match c.state with
  | .closed r f l =>
    if c.config.consecutiveFailureThreshold ≤ f then
      bumpRevision r < 9223372036854775808 ∧
        now.saturatingAdd (cooldown c.config.recoveryWaitMs c.config.maxCooldownMs
          (max (l.saturatingAdd 1) 1)) < 9223372036854775808
    else c.policyRevision ≠ c.config.policyRevision → bumpRevision r < 9223372036854775808
  | .open r _ cooldownUntilMs _ _ =>
    if now < cooldownUntilMs then
      c.policyRevision ≠ c.config.policyRevision → bumpRevision r < 9223372036854775808
    else
      bumpRevision (if c.policyRevision ≠ c.config.policyRevision then bumpRevision r else r) <
          9223372036854775808 ∧
        deadline < 9223372036854775808 ∧ c.config.recoveryWaitMs < 9223372036854775808 ∧
        textFits attemptId
  | .halfOpen _ (some _) _ _ _ _ => True
  | .halfOpen r none _ _ _ _ =>
    bumpRevision r < 9223372036854775808 ∧ deadline < 9223372036854775808 ∧
      c.config.recoveryWaitMs < 9223372036854775808 ∧ textFits attemptId

instance (c : StationKeyCircuit) (now deadline : UInt64) (attemptId : String) :
    Decidable (AdmissionFits c now deadline attemptId) := by
  unfold AdmissionFits
  split <;> infer_instance

/-- The clock has not passed the deadline, and everything written fits its column. -/
structure Admissible (db : CircuitDb) (policy : CircuitPolicy) (nowMs deadlineAtMs : UInt64)
    (attemptId : String) : Prop where
  deadline : max db.watermarkMs nowMs ≤ deadlineAtMs
  now : nowMs < 9223372036854775808
  key : db.key.Fits
  policyRevision : policy.policyRevision < 9223372036854775808
  written : AdmissionFits ((db.status policy.policyRevision).circuit policy.config)
    (max db.watermarkMs nowMs) deadlineAtMs attemptId

/-! ### The reducer's answer -/

theorem admitAttempt_answers {c : StationKeyCircuit} {now deadline : UInt64} {lease : String}
    (hlease : lease.isEmpty = false) :
    (∃ admission c', c.admitAttempt now deadline lease = .ok (admission, c')) ↔
      now ≤ deadline := by
  unfold StationKeyCircuit.admitAttempt
  rw [hlease]
  constructor
  · rintro ⟨admission, c', h⟩
    split at h
    · cases h
    · exact UInt64.not_lt.mp ‹_›
  · intro hle
    rw [if_neg (UInt64.not_lt.mpr hle)]
    simp only [Bool.false_eq_true, if_false]
    split
    · split_ifs <;> exact ⟨_, _, rfl⟩
    · split_ifs <;> exact ⟨_, _, rfl⟩
    · exact ⟨_, _, rfl⟩
    · exact ⟨_, _, rfl⟩

/-- A Closed circuit below its threshold is never denied. -/
theorem CircuitMove.closed_allows {c c' : StationKeyCircuit} {now deadline : UInt64}
    {lease : String} {a : CircuitAdmission}
    (m : CircuitMove c (.admitAttempt now deadline lease) (.admission a) c')
    (hclosed : c.state.IsClosed)
    (hbelow : c.state.consecutiveFailures < c.config.consecutiveFailureThreshold) :
    a = .allowedClosed := by
  cases m with
  | admitReached hs hf =>
    rw [hs] at hbelow
    exact absurd hf (UInt16.not_le.mpr hbelow)
  | admitAdopt => rfl
  | admitClosed => rfl
  | admitOpenAdopt hs | admitOpen hs | admitProbe hs | admitBusy hs | admitIdle hs =>
    simp [hs] at hclosed

section Writing
variable {c c' : StationKeyCircuit} {now deadline : UInt64} {lease : String} {a : CircuitAdmission}

theorem writes_iff (hw : Writes c.status c' a) :
    (Writes c.status c' a → StatusFits c'.status) ↔ StatusFits c'.status :=
  ⟨fun h => h hw, fun h _ => h⟩

/-- A granted lease fits with its revision, its deadline, its wait and its id. -/
theorem grantLease_fits {r : UInt64} {n : UInt16} {l : UInt32}
    (hr : c.config.policyRevision < 9223372036854775808) :
    StatusFits (c.grantLease r lease deadline n l).status ↔ r < 9223372036854775808 ∧
      deadline < 9223372036854775808 ∧ c.config.recoveryWaitMs < 9223372036854775808 ∧
      textFits lease := by
  constructor
  · intro h
    exact ⟨h.stateRevision, h.expiry _ rfl, h.leaseWait _ rfl, h.lease _ rfl⟩
  · rintro ⟨hrevision, hdeadline, hwait, hlease⟩
    refine ⟨hr, hrevision, ?_, ?_, nofun, ?_, ?_, ?_⟩
    · rintro _ ⟨⟩
      exact hr
    · rintro _ ⟨⟩
      exact hwait
    · rintro _ ⟨⟩
      exact hrevision
    · rintro _ ⟨⟩
      exact hdeadline
    · rintro _ ⟨⟩
      exact hlease

theorem closed_fits {revision r : UInt64} {f : UInt16} {l : UInt32}
    (hr : revision < 9223372036854775808) (hrevision : r < 9223372036854775808) :
    StatusFits ⟨revision, none, .closed r f l⟩ :=
  ⟨hr, hrevision, nofun, nofun, nofun, nofun, nofun, nofun⟩

theorem open_fits {revision r opened until_ : UInt64} {f : UInt16} {l : UInt32}
    (hr : revision < 9223372036854775808) (hrevision : r < 9223372036854775808)
    (hopened : opened < 9223372036854775808) (huntil : until_ < 9223372036854775808) :
    StatusFits ⟨revision, none, .open r opened until_ f l⟩ := by
  refine ⟨hr, hrevision, nofun, nofun, ?_, nofun, nofun, nofun⟩
  rintro _ _ _ _ _ ⟨⟩
  exact ⟨hopened, huntil⟩

theorem openWithPolicy_fits {f : UInt16} {l : UInt32} {revision wait : UInt64}
    (hr : revision < 9223372036854775808) (hnow : now < 9223372036854775808) :
    StatusFits (c.openWithPolicy now f l revision wait).status ↔
      bumpRevision c.state.stateRevision < 9223372036854775808 ∧
      now.saturatingAdd (cooldown wait c.config.maxCooldownMs (max (l.saturatingAdd 1) 1)) <
        9223372036854775808 := by
  constructor
  · intro h
    exact ⟨h.stateRevision, (h.times _ _ _ _ _ rfl).2⟩
  · rintro ⟨hrevision, huntil⟩
    exact open_fits hr hrevision hnow huntil

/-- Exactly when what the admission writes can be written. -/
theorem CircuitMove.writes_fit
    (m : CircuitMove c (.admitAttempt now deadline lease) (.admission a) c')
    (hs : Sound c) (hfits : StatusFits c.status) (hnow : now < 9223372036854775808)
    (hr : c.config.policyRevision < 9223372036854775808) :
    (Writes c.status c' a → StatusFits c'.status) ↔ AdmissionFits c now deadline lease := by
  obtain ⟨config, policyRevision, leasePolicy, state⟩ := c
  have hlease := hs.lease
  unfold AdmissionFits
  cases m with
  | @admitReached _ _ _ r f l hstate hf =>
    subst hstate
    dsimp only
    rw [writes_iff (.inr (.inr fun heq => by simp [status] at heq)), openWithPolicy_fits hr hnow,
      if_pos hf]
    exact Iff.rfl
  | @admitAdopt _ _ _ r f l hstate hf hp =>
    subst hstate
    obtain rfl : leasePolicy = none := by simpa using hlease
    dsimp only
    rw [writes_iff (.inl rfl), if_neg (UInt16.not_le.mpr hf)]
    exact ⟨fun h _ => h.stateRevision, fun h => closed_fits hr (h hp)⟩
  | admitClosed hstate hf hp =>
    subst hstate
    dsimp only
    rw [if_neg (UInt16.not_le.mpr hf)]
    exact ⟨fun _ hne => absurd hp hne, fun _ _ => hfits⟩
  | @admitOpenAdopt _ _ _ r t u f l hstate hu hp =>
    subst hstate
    obtain rfl : leasePolicy = none := by simpa using hlease
    dsimp only
    rw [writes_iff (.inr (.inr fun heq => hp (congrArg (·.policyRevision) heq).symm)), if_pos hu]
    have times := hfits.times _ _ _ _ _ rfl
    exact ⟨fun h _ => h.stateRevision, fun h => open_fits hr (h hp) times.1 times.2⟩
  | admitOpen hstate hu hp =>
    subst hstate
    dsimp only
    rw [if_pos hu]
    exact ⟨fun _ hne => absurd hp hne, fun _ _ => hfits⟩
  | admitProbe hstate hu hd hne =>
    subst hstate
    dsimp only
    rw [writes_iff (.inr (.inl rfl)), grantLease_fits hr, if_neg (UInt64.not_lt.mpr hu)]
  | admitBusy hstate =>
    subst hstate
    exact ⟨fun _ => trivial, fun _ _ => hfits⟩
  | admitIdle hstate hd hne =>
    subst hstate
    dsimp only
    rw [writes_iff (.inr (.inl rfl)), grantLease_fits hr]

end Writing

/-! ### The store's answer -/

/-- Exactly the admissible calls are answered, and a Closed key below its threshold is
then allowed. -/
theorem admission_answers (key : CircuitKey) (ops : List StoreOp) (policy : CircuitPolicy)
    (now deadline : UInt64) (attemptId : String) (hr : policy.policyRevision ≠ 0)
    (hid : attemptId.isEmpty = false) :
    let db := history key ops
    ((∃ result db', db.admitAttempt policy now deadline attemptId = .ok (result, db')) ↔
      Admissible db policy now deadline attemptId) ∧
    ∀ result db', db.admitAttempt policy now deadline attemptId = .ok (result, db') →
      (db.status policy.policyRevision).state.IsClosed →
      (db.status policy.policyRevision).state.consecutiveFailures <
        policy.config.consecutiveFailureThreshold →
      ∃ stateRevision, result = .allowedClosed stateRevision := by
  intro db
  have hs : StoreSound db := history_sound key ops
  have hsound := (hs.status hr).2.sound (policy.validConfig hr)
  have answered {result db'} :
      db.admitAttempt policy now deadline attemptId = .ok (result, db') ↔ _ :=
    admitAttempt_ok hs hr hid
  refine ⟨⟨?_, fun h => ?_⟩, fun result db' h hclosed hbelow => ?_⟩
  · rintro ⟨result, db', h⟩
    obtain ⟨⟨hnow, hkey, hrevision⟩, admission, c, hadmit, hfits, -⟩ := answered.mp h
    have hlogical : max db.watermarkMs now < 9223372036854775808 := (hs.withClock hnow).clock
    exact ⟨(admitAttempt_answers hid).mp ⟨_, _, hadmit⟩, hnow, hkey, hrevision,
      ((admitAttempt_moves hadmit).writes_fit hsound (hs.status_fits hrevision) hlogical
        hrevision).mp hfits⟩
  · obtain ⟨admission, c, hadmit⟩ := (admitAttempt_answers hid).mpr h.deadline
    have hlogical : max db.watermarkMs now < 9223372036854775808 := (hs.withClock h.now).clock
    have hfits := ((admitAttempt_moves hadmit).writes_fit hsound
      (hs.status_fits h.policyRevision) hlogical h.policyRevision).mpr h.written
    exact ⟨_, _, answered.mpr
      ⟨⟨h.now, h.key, h.policyRevision⟩, admission, c, hadmit, hfits, rfl, rfl⟩⟩
  · obtain ⟨-, admission, c, hadmit, -, rfl, -⟩ := answered.mp h
    obtain rfl := (admitAttempt_moves hadmit).closed_allows hclosed hbelow
    exact ⟨_, rfl⟩

/-- A key nothing is known of, under a policy with a revision. -/
def plainKey : CircuitKey := ⟨"station-key", 1⟩

def plainPolicy : CircuitPolicy := ⟨1, 1, 1, 1⟩

theorem admission_answers_plain :
    plainPolicy.policyRevision ≠ 0 ∧ "attempt".isEmpty = false ∧
    ∃ result db', (history plainKey [.advanceCircuitClock 5]).admitAttempt plainPolicy 10 50
      "attempt" = .ok (result, db') :=
  ⟨by decide, by decide, (admission_answers plainKey [.advanceCircuitClock 5] plainPolicy 10 50
    "attempt" (by decide) (by decide)).1.mpr
      ⟨by decide, by decide, ⟨by decide, by decide, by decide⟩, by decide, by decide⟩⟩

/-- A sample from before a correction of the system clock is ahead of the deadline. -/
theorem rollback_refuses :
    ¬ ∀ (key : CircuitKey) (ops : List StoreOp) (policy : CircuitPolicy)
      (now deadline : UInt64) (attemptId : String), policy.policyRevision ≠ 0 →
      attemptId.isEmpty = false → now ≤ deadline →
      (history key ops).admitAttempt policy now deadline attemptId ≠
        .error .constraintViolation := by
  intro h
  exact h plainKey [.advanceCircuitClock 100] plainPolicy 10 50 "attempt" (by decide) (by decide)
    (by decide) rfl

end RelayPool.Circuit
