import RelayPool.Circuit.Cooldown
import RelayPool.Circuit.Once

/-! The race for an expired lease.

A lease that crossed the boundary and has run out is ended by whoever comes
first, the reaper or a result that counts, and for it the circuit is reopened,
one level up. Whoever comes later finds it Open. Only a rejection that comes
before them all gives the lease back and leaves the level.

`results_taken_once` puts this beside what deliveries can do at all: take each
attempt's first result, under a clock that does not go back. -/
namespace RelayPool.Circuit
open StationKeyCircuit Fallible

/-- A lease that crossed the boundary, and the time it runs out. -/
def CrossedLease (db : CircuitDb) (lease : String) (expiresAtMs : UInt64) : Prop :=
  ∃ status, db.row = some (.of status (some true)) ∧ status.state.leaseId = some lease ∧
    status.state.leaseExpiresAtMs = some expiresAtMs

def StoreOp.nowMs : StoreOp → UInt64
  | .admitAttempt _ now _ _ => now
  | .finishAttempt input => input.nowMs
  | .reapExpiredLeases now _ => now
  | .markBoundaryCrossed _ _ now => now
  | .advanceCircuitClock now => now

/-- The operation comes at or past the expiry, and grants no lease. -/
def InCycle (expiresAtMs : UInt64) (db : CircuitDb) (op : StoreOp) : Prop :=
  expiresAtMs ≤ max db.watermarkMs op.nowMs ∧
    ∀ policy now deadline attemptId, op = .admitAttempt policy now deadline attemptId →
      ∀ stateRevision leaseRevision db', db.admitAttempt policy now deadline attemptId ≠
        .ok (.allowedHalfOpen stateRevision leaseRevision, db')

/-- A result that names the lease counts: it crossed the boundary and is no rejection. -/
def Counts (lease : String) (op : StoreOp) : Prop :=
  ∀ input, op = .finishAttempt input → input.leaseId = some lease →
    input.boundaryCrossed ∧ input.affectsCircuit

/-- The circuit is Open, and one level above `level`. -/
structure Reopened (level : UInt32) (db : CircuitDb) : Prop where
  isOpen : db.state.IsOpen
  level : db.state.reopenLevel.toNat = min (level.toNat + 1) (2 ^ 32 - 1)

/-- Some pass of the reaper committed. -/
def Reaped (db : CircuitDb) (race : List StoreOp) : Prop :=
  ∃ before now policy after result, race = before ++ .reapExpiredLeases now policy :: after ∧
    (Runs.run CircuitDb.next db before).reapExpiredLeases now policy = .ok result

/-- The lease is still there, or the circuit has been reopened for it. -/
def Raced (lease : String) (expiresAtMs : UInt64) (level : UInt32) (db : CircuitDb) : Prop :=
  (CrossedLease db lease expiresAtMs ∧ db.state.reopenLevel = level) ∨ Reopened level db

/-- Opened from its expired lease, the circuit is one level up. -/
theorem CircuitMove.reopens {c c' : StationKeyCircuit} {now expires : UInt64}
    {lease : Option String} {success : Bool} {transition : CircuitTransition}
    (m : CircuitMove c (.finish now lease success true) (.transition transition) c')
    (htaken : transition ≠ .ignoredLateResult) (hactive : c.state.leaseId.isSome)
    (hexpires : c.state.leaseExpiresAtMs = some expires) (hlate : expires ≤ now) :
    c'.state.IsOpen ∧ c'.state.reopenLevel.toNat = min (c.state.reopenLevel.toNat + 1) (2 ^ 32 - 1) := by
  have habsurd {e : Option UInt64} (he : e = some expires) (hwaits : e.all (now < ·)) : False := by
    rw [he] at hwaits
    exact UInt64.not_lt.mpr hlate (by simpa using hwaits)
  cases m with
  | finishExpired hs =>
    rw [hs]
    exact ⟨trivial, toNat_nextLevel _⟩
  | finishLate => exact absurd rfl htaken
  | finishSuccess hs | finishFailure hs | finishOpens hs =>
    rw [hs] at hactive
    cases hactive
  | finishCloses hs hwaits | finishRecovers hs hwaits | finishReopens hs hwaits =>
    rw [hs] at hexpires
    exact (habsurd hexpires hwaits).elim

/-- A result that is not ignored names the active lease, if there is one. -/
theorem CircuitMove.named {c c' : StationKeyCircuit} {now : UInt64} {lease : Option String}
    {success crossed : Bool} {transition : CircuitTransition}
    (m : CircuitMove c (.finish now lease success crossed) (.transition transition) c')
    (htaken : transition ≠ .ignoredLateResult) (hactive : c.state.leaseId.isSome) :
    lease = c.state.leaseId := by
  cases m with
  | finishLate => exact absurd rfl htaken
  | finishReleased hs | finishExpired hs | finishCloses hs | finishRecovers hs
  | finishReopens hs => rw [hs]; rfl
  | finishUncrossed hs | finishSuccess hs | finishFailure hs | finishOpens hs =>
    rw [hs] at hactive
    cases hactive

/-- An Open circuit that grants no lease stays Open at its level. -/
theorem CircuitMove.waits {c c' : StationKeyCircuit} {now deadline : UInt64} {lease : String}
    {admission : CircuitAdmission}
    (m : CircuitMove c (.admitAttempt now deadline lease) (.admission admission) c')
    (hopen : c.state.IsOpen) (hnone : admission ≠ .allowedHalfOpen) :
    c'.state.IsOpen ∧ c'.state.reopenLevel = c.state.reopenLevel := by
  cases m with
  | admitOpenAdopt hs =>
    rw [hs]
    exact ⟨trivial, rfl⟩
  | admitOpen hs => exact ⟨hopen, rfl⟩
  | admitProbe => exact absurd rfl hnone
  | admitReached hs | admitAdopt hs | admitClosed hs | admitBusy hs | admitIdle hs =>
    rw [hs] at hopen
    cases hopen

/-- An Open circuit takes no result. -/
theorem CircuitMove.ignored {c c' : StationKeyCircuit} {now : UInt64} {lease : Option String}
    {success crossed : Bool} {transition : CircuitTransition}
    (m : CircuitMove c (.finish now lease success crossed) (.transition transition) c')
    (hopen : c.state.IsOpen) : transition = .ignoredLateResult := by
  cases m with
  | finishLate => rfl
  | finishUncrossed hs | finishSuccess hs | finishFailure hs | finishOpens hs | finishReleased hs
  | finishExpired hs | finishCloses hs | finishRecovers hs | finishReopens hs =>
    rw [hs] at hopen
    cases hopen

section Race
variable {db db' : CircuitDb} {lease : String} {expires : UInt64} {level : UInt32}

theorem Reopened.of_row {status : StationKeyCircuitStatus} {mark : Option Bool}
    (hrow : db'.row = some (.of status mark)) (hopen : status.state.IsOpen)
    (hlevel : status.state.reopenLevel.toNat = min (level.toNat + 1) (2 ^ 32 - 1)) :
    Reopened level db' := by
  have hstate := db'.state_of_row hrow ⟨mark, rfl⟩
  exact ⟨hstate ▸ hopen, hstate ▸ hlevel⟩

theorem Reopened.same (h : Reopened level db) (hsame : db'.state = db.state) : Reopened level db' :=
  ⟨hsame ▸ h.isOpen, hsame ▸ h.level⟩

theorem CrossedLease.same (h : CrossedLease db lease expires) (hlevel : db.state.reopenLevel = level)
    (hsame : db'.row = db.row) : Raced lease expires level db' := by
  obtain ⟨status, hrow, hlease, hexpires⟩ := h
  refine .inl ⟨⟨status, hsame.trans hrow, hlease, hexpires⟩, ?_⟩
  rw [db'.state_of_row (hsame.trans hrow) ⟨_, rfl⟩, ← hlevel, db.state_of_row hrow ⟨_, rfl⟩]

/-- The reaper reopens for a lease that crossed the boundary and has run out. -/
theorem CrossedLease.reaped {now : UInt64} {policy : CircuitPolicy} {reaped : Nat}
    (h : CrossedLease db lease expires) (hlevel : db.state.reopenLevel = level) (hs : StoreSound db)
    (hlate : expires ≤ max db.watermarkMs now)
    (hok : db.reapExpiredLeases now policy = .ok (reaped, db')) : Reopened level db' := by
  obtain ⟨status, hrow, hlease, hexpires⟩ := h
  obtain ⟨-, hreaps⟩ := reapExpiredLeases_ok hs hok
  cases hreaps with
  | nothing hnothing =>
    have hkept := hnothing _ hrow
    rw [expired_of, hlease, hexpires] at hkept
    simp [hlate] at hkept
  | reopened hrow' hreap hfits =>
    obtain ⟨rfl, -⟩ := CircuitRow.of_inj (Option.some.inj (hrow.symm.trans hrow'))
    have m := reapExpiredLease_moves hreap
    cases m with
    | reapReopens hstate =>
      refine .of_row rfl trivial ?_
      rw [← hlevel, db.state_of_row hrow ⟨_, rfl⟩, show status.state = _ from hstate]
      exact toNat_nextLevel _
  | released hrow' hmark =>
    obtain ⟨-, rfl⟩ := CircuitRow.of_inj (Option.some.inj (hrow.symm.trans hrow'))
    exact absurd rfl hmark

theorem CrossedLease.finished {input : CircuitTerminalInput} {result : CircuitTerminalResult}
    (h : CrossedLease db lease expires) (hlevel : db.state.reopenLevel = level) (hs : StoreSound db)
    (hlate : expires ≤ max db.watermarkMs input.nowMs)
    (hcounts : input.leaseId = some lease → input.boundaryCrossed ∧ input.affectsCircuit)
    (hok : db.finishAttempt input = .ok (result, db')) : Raced lease expires level db' := by
  obtain ⟨-, -, -, hfinishes⟩ := finishAttempt_ok hs hok
  obtain ⟨status, hrow, hlease, hexpires⟩ := id h
  have hfound : db.foundRow input.policy.policyRevision = .of status (some true) :=
    congrArg (Option.getD · _) hrow
  rw [db.status_of_row hrow ⟨_, rfl⟩] at hfinishes
  cases hfinishes with
  | duplicate | late => exact h.same hlevel ((congrArg some hfound).trans hrow.symm)
  | applied hnew hmatch hfinish htaken hfits =>
    have m := finish_moves hfinish
    have hactive : (status.circuit input.policy.config).state.leaseId.isSome := by
      rw [show (status.circuit input.policy.config).state.leaseId = some lease from hlease]
      rfl
    obtain ⟨hcrossed, haffects⟩ := hcounts ((m.named htaken hactive).trans hlease)
    rw [hcrossed, haffects] at m
    obtain ⟨hopen, hnext⟩ := m.reopens htaken hactive hexpires hlate
    refine .inr (.of_row rfl hopen ?_)
    rw [← hlevel, db.state_of_row hrow ⟨_, rfl⟩]
    exact hnext

theorem CrossedLease.admitted {policy : CircuitPolicy} {now deadline : UInt64} {attemptId : String}
    {result : CircuitAdmissionResult} (h : CrossedLease db lease expires)
    (hlevel : db.state.reopenLevel = level) (hs : StoreSound db)
    (hok : db.admitAttempt policy now deadline attemptId = .ok (result, db')) :
    Raced lease expires level db' := by
  obtain ⟨hr, hid⟩ := admitAttempt_requires hok
  obtain ⟨-, admission, c, hadmit, -, -, rfl⟩ := (admitAttempt_ok hs hr hid).mp hok
  obtain ⟨status, hrow, hlease, -⟩ := id h
  have hfound : db.foundRow policy.policyRevision = .of status (some true) :=
    congrArg (Option.getD · _) hrow
  rw [db.status_of_row hrow ⟨_, rfl⟩] at hadmit
  have hactive : (status.circuit policy.config).state.leaseId.isSome := by
    rw [show (status.circuit policy.config).state.leaseId = some lease from hlease]
    rfl
  obtain ⟨rfl, rfl⟩ := (admitAttempt_moves hadmit).busy hactive
  have hwrites : ¬ Writes (db.status policy.policyRevision) (status.circuit policy.config)
      .deniedHalfOpenLease := by
    rw [db.status_of_row hrow ⟨_, rfl⟩]
    simp [Writes]
  refine h.same hlevel ?_
  dsimp only
  rw [if_neg hwrites, hfound, hrow]

theorem Reopened.admitted {policy : CircuitPolicy} {now deadline : UInt64} {attemptId : String}
    {result : CircuitAdmissionResult} (h : Reopened level db) (hs : StoreSound db)
    (hnone : ∀ stateRevision leaseRevision, result ≠ .allowedHalfOpen stateRevision leaseRevision)
    (hok : db.admitAttempt policy now deadline attemptId = .ok (result, db')) :
    Reopened level db' := by
  obtain ⟨hr, hid⟩ := admitAttempt_requires hok
  obtain ⟨-, admission, c, hadmit, -, rfl, rfl⟩ := (admitAttempt_ok hs hr hid).mp hok
  have hstate : ((db.status policy.policyRevision).circuit policy.config).state = db.state :=
    db.status_state policy.policyRevision
  split
  · have hdenied : admission ≠ .allowedHalfOpen := fun heq => by
      subst heq
      exact hnone _ _ rfl
    obtain ⟨hopen, hlevel⟩ := (admitAttempt_moves hadmit).waits (hstate ▸ h.isOpen) hdenied
    refine .of_row rfl hopen ?_
    rw [show c.status.state.reopenLevel = _ from hlevel]
    exact hstate ▸ h.level
  · exact h.same ((CircuitDb.state_of_row rfl (hs.status hr).1).trans hstate)

theorem Reopened.finished {input : CircuitTerminalInput} {result : CircuitTerminalResult}
    (h : Reopened level db) (hs : StoreSound db)
    (hok : db.finishAttempt input = .ok (result, db')) : Reopened level db' := by
  obtain ⟨hr, -, -, hfinishes⟩ := finishAttempt_ok hs hok
  have hstate : ((db.status input.policy.policyRevision).circuit input.policy.config).state =
      db.state := db.status_state input.policy.policyRevision
  cases hfinishes with
  | duplicate | late => exact h.same ((CircuitDb.state_of_row rfl (hs.status hr).1).trans hstate)
  | applied hnew hmatch hfinish htaken hfits =>
    have hopen : ((db.status input.policy.policyRevision).circuit input.policy.config).state.IsOpen :=
      hstate ▸ h.isOpen
    exact absurd ((finish_moves hfinish).ignored hopen) htaken

theorem Reopened.reaped {now : UInt64} {policy : CircuitPolicy} {reaped : Nat}
    (h : Reopened level db) (hs : StoreSound db)
    (hok : db.reapExpiredLeases now policy = .ok (reaped, db')) : Reopened level db' := by
  obtain ⟨-, hreaps⟩ := reapExpiredLeases_ok hs hok
  have hnone : db.state.leaseId = none := by
    have hopen := h.isOpen
    cases hstate : db.state with
    | «open» => rfl
    | closed | halfOpen => simp [hstate] at hopen
  cases hreaps with
  | nothing => exact h.same rfl
  | reopened hrow hreap =>
    obtain ⟨hlease, -⟩ := (reapExpiredLease_moves hreap).reaps
    rw [db.state_of_row hrow ⟨_, rfl⟩] at hnone
    exact absurd (hnone.symm.trans hlease) (by simp)
  | released hrow hmark hlease =>
    rw [db.state_of_row hrow ⟨_, rfl⟩] at hnone
    exact absurd (hnone.symm.trans hlease) (by simp)

theorem CrossedLease.apply {op : StoreOp} (h : CrossedLease db lease expires)
    (hlevel : db.state.reopenLevel = level) (hs : StoreSound db) (hcycle : InCycle expires db op)
    (hcounts : Counts lease op) (happly : db.apply op = .ok db') :
    Raced lease expires level db' := by
  cases op with
  | admitAttempt policy now deadline attemptId =>
    obtain ⟨⟨result, db''⟩, hok, rfl⟩ := map_ok.mp happly
    exact h.admitted hlevel hs hok
  | finishAttempt input =>
    obtain ⟨⟨result, db''⟩, hok, rfl⟩ := map_ok.mp happly
    exact h.finished hlevel hs hcycle.1 (hcounts input rfl) hok
  | reapExpiredLeases now policy =>
    obtain ⟨⟨reaped, db''⟩, hok, rfl⟩ := map_ok.mp happly
    exact .inr (h.reaped hlevel hs hcycle.1 hok)
  | markBoundaryCrossed attemptId leaseRevision now =>
    obtain ⟨⟨marked, db''⟩, hok, rfl⟩ := map_ok.mp happly
    obtain ⟨status, hrow, -⟩ := id h
    rw [markBoundaryCrossed_of hrow hok, if_neg fun h => nomatch h.2]
    exact h.same hlevel hrow.symm
  | advanceCircuitClock now =>
    obtain ⟨⟨logical, db''⟩, hclock, rfl⟩ := map_ok.mp happly
    obtain ⟨-, -, rfl⟩ := advanceCircuitClock_ok.mp hclock
    exact h.same hlevel rfl

theorem Reopened.apply {op : StoreOp} (h : Reopened level db) (hs : StoreSound db)
    (hcycle : InCycle expires db op) (happly : db.apply op = .ok db') : Reopened level db' := by
  cases op with
  | admitAttempt policy now deadline attemptId =>
    obtain ⟨⟨result, db''⟩, hok, rfl⟩ := map_ok.mp happly
    exact h.admitted hs (fun r lr heq => hcycle.2 _ _ _ _ rfl r lr db'' (heq ▸ hok)) hok
  | finishAttempt input =>
    obtain ⟨⟨result, db''⟩, hok, rfl⟩ := map_ok.mp happly
    exact h.finished hs hok
  | reapExpiredLeases now policy =>
    obtain ⟨⟨reaped, db''⟩, hok, rfl⟩ := map_ok.mp happly
    exact h.reaped hs hok
  | markBoundaryCrossed attemptId leaseRevision now =>
    obtain ⟨⟨marked, db''⟩, hok, rfl⟩ := map_ok.mp happly
    obtain ⟨-, rfl | ⟨status, hrow, rfl⟩⟩ := markBoundaryCrossed_ok hs hok
    · exact h.same rfl
    · exact h.same ((CircuitDb.state_of_row rfl ⟨_, rfl⟩).trans
        (db.state_of_row hrow ⟨_, rfl⟩).symm)
  | advanceCircuitClock now =>
    obtain ⟨⟨logical, db''⟩, hclock, rfl⟩ := map_ok.mp happly
    obtain ⟨-, -, rfl⟩ := advanceCircuitClock_ok.mp hclock
    exact h.same rfl

/-- Within the cycle the circuit is reopened once, and stays so. -/
theorem race_ends {race : List StoreOp} (hs : StoreSound db)
    (h : Raced lease expires level db)
    (along : Runs.Along CircuitDb.next (fun db op => InCycle expires db op ∧ Counts lease op) db
      race) :
    StoreSound (Runs.run CircuitDb.next db race) ∧
      Raced lease expires level (Runs.run CircuitDb.next db race) ∧
      (Reopened level db → Reopened level (Runs.run CircuitDb.next db race)) := by
  induction race generalizing db with
  | nil => exact ⟨hs, h, id⟩
  | cons op rest ih =>
    obtain ⟨⟨hcycle, hcounts⟩, along⟩ := along
    have hnext : Raced lease expires level (db.next op) := CircuitDb.next_of (fun db' hok => by
      rcases h with ⟨hheld, hlevel⟩ | hopened
      · exact hheld.apply hlevel hs hcycle hcounts hok
      · exact .inr (hopened.apply hs hcycle hok)) h
    obtain ⟨hsound, hraced, hkept⟩ := ih (hs.next op) hnext along
    exact ⟨hsound, hraced, fun hopened => hkept (CircuitDb.next_of
      (fun db' hok => hopened.apply hs hcycle hok) hopened)⟩

theorem race_reaped {race : List StoreOp} (hs : StoreSound db) (h : Raced lease expires level db)
    (along : Runs.Along CircuitDb.next (fun db op => InCycle expires db op ∧ Counts lease op) db
      race) (hreaped : Reaped db race) : Reopened level (Runs.run CircuitDb.next db race) := by
  obtain ⟨before, now, policy, after, ⟨reaped, db₁⟩, rfl, hok⟩ := hreaped
  obtain ⟨hbefore, hcycle, hafter⟩ := Runs.along_append.mp along
  obtain ⟨hsound, hraced, -⟩ := race_ends hs h hbefore
  have hnext : (Runs.run CircuitDb.next db before).next (.reapExpiredLeases now policy) = db₁ :=
    CircuitDb.next_ok (map_ok.mpr ⟨_, hok, rfl⟩)
  have hopened : Reopened level db₁ := by
    rcases hraced with ⟨hheld, hlevel⟩ | hopened
    · exact hheld.reaped hlevel hsound hcycle.1.1 hok
    · exact hopened.reaped hsound hok
  rw [Runs.run_append, Runs.run_cons]
  rw [hnext] at hafter ⊢
  exact (race_ends (hnext ▸ hsound.next _) (.inr hopened) hafter).2.2 hopened

end Race

/-- However often results are delivered, the circuit takes each attempt's first one and no
other, under times that do not go back, and a lease that crossed the boundary and ran out
takes the circuit up one level, whoever finds it. -/
theorem results_taken_once (key : CircuitKey) (ops : List StoreOp) :
    (history key ops).circuit = (takenOnce leaseRevisionMismatch key ops).circuit ∧
    ((history key ops).watermarkMs = (takenOnce leaseRevisionMismatch key ops).clockMs ∧
      InOrder (takenOnce leaseRevisionMismatch key ops)) ∧
    ∀ (lease : String) (expires : UInt64) (race : List StoreOp),
      CrossedLease (history key ops) lease expires →
      Runs.Along CircuitDb.next (fun db op => InCycle expires db op ∧ Counts lease op)
        (history key ops) race →
      Raced lease expires (history key ops).state.reopenLevel (history key (ops ++ race)) ∧
      (Reaped (history key ops) race →
        Reopened (history key ops).state.reopenLevel (history key (ops ++ race))) := by
  have h := history_agrees key ops
  have hs := history_sound key ops
  refine ⟨h.circuit, ⟨h.clock, takenOnce_inOrder ..⟩, fun lease expires race hlease along => ?_⟩
  have hraced : Raced lease expires (history key ops).state.reopenLevel (history key ops) :=
    .inl ⟨hlease, rfl⟩
  rw [show history key (ops ++ race) = _ from Runs.run_append ..]
  exact ⟨(race_ends hs hraced along).2.1, race_reaped hs hraced along⟩

/-- A probe that crossed the boundary and whose lease runs out. -/
def expiredOps : List StoreOp :=
  [.finishAttempt (resultOf "first" 0 false), .admitAttempt plainPolicy 1 2 "probe",
    .markBoundaryCrossed "probe" 3 1, .advanceCircuitClock 2]

theorem expiredOps_crossed : CrossedLease (history plainKey expiredOps) "probe" 2 :=
  ⟨(history plainKey expiredOps).status 1, by decide +kernel, by decide +kernel, by decide +kernel⟩

/-- Two passes of the reaper, and the probe's own result between them. -/
def racingOps : List StoreOp :=
  [.reapExpiredLeases 3 plainPolicy, .finishAttempt (resultOf "probe" 4 false),
    .reapExpiredLeases 5 plainPolicy]

theorem results_taken_once_race : CrossedLease (history plainKey expiredOps) "probe" 2 ∧
    Reopened (history plainKey expiredOps).state.reopenLevel
      (history plainKey (expiredOps ++ racingOps)) := by
  refine ⟨expiredOps_crossed, ((results_taken_once plainKey expiredOps).2.2 "probe" 2 racingOps
    expiredOps_crossed ⟨?_, ?_, ?_, trivial⟩).2 ⟨[], _, _, _, _, rfl, rfl⟩⟩
  · exact ⟨⟨by decide +kernel, nofun⟩, nofun⟩
  · refine ⟨⟨by decide +kernel, nofun⟩, fun input h _ => ?_⟩
    cases h
    exact ⟨rfl, rfl⟩
  · exact ⟨⟨by decide +kernel, nofun⟩, nofun⟩

/-- A lease of the same attempt as an earlier one, which the result still names. -/
def leasedAgainOps : List StoreOp :=
  [.finishAttempt (resultOf "first" 0 false), .admitAttempt plainPolicy 1 2 "probe",
    .reapExpiredLeases 2 plainPolicy, .admitAttempt plainPolicy 3 9 "probe",
    .finishAttempt { resultOf "probe" 4 true with leaseRevision := some 3 }]

/-- A result with an old lease revision is not handed on, and a rejection that comes before
the reaper leaves it no lease to reopen for. -/
theorem rejection_gives_lease_back :
    (¬ ∀ (key : CircuitKey) (ops : List StoreOp),
      (history key ops).circuit = (takenOnce (fun _ _ => false) key ops).circuit) ∧
    ¬ ∀ (key : CircuitKey) (ops : List StoreOp) (lease : String) (expires : UInt64)
      (race : List StoreOp), CrossedLease (history key ops) lease expires →
      Runs.Along CircuitDb.next (InCycle expires) (history key ops) race →
      Reaped (history key ops) race →
      Reopened (history key ops).state.reopenLevel (history key (ops ++ race)) := by
  constructor
  · intro h
    have := h plainKey leasedAgainOps
    revert this
    decide +kernel
  · intro h
    have hopened := (h plainKey expiredOps "probe" 2
      [.finishAttempt { resultOf "probe" 2 false with affectsCircuit := false },
        .reapExpiredLeases 3 plainPolicy] expiredOps_crossed
      ⟨⟨by decide +kernel, nofun⟩, ⟨by decide +kernel, nofun⟩, trivial⟩
      ⟨[.finishAttempt _], _, _, _, _, rfl, rfl⟩).isOpen
    revert hopened
    decide +kernel

end RelayPool.Circuit
