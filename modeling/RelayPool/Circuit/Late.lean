import RelayPool.Circuit.Admission

/-! Results that arrive after their lease.

A probe's result may be delivered when its lease has been reaped or replaced.
Open and Half-Open tell such a result from the active lease's and only record
it. Closed looks at no lease: there a late result counts like any other, so a
probe from before the recovery can open the circuit again or clear a newer
streak. `late_results` says exactly which late results move the circuit. -/
namespace RelayPool.Circuit
open StationKeyCircuit Fallible

/-- A state but for the revision it has as a row. -/
def StationKeyCircuitState.unnumbered : StationKeyCircuitState → StationKeyCircuitState
  | .closed _ f l => .closed 0 f l
  | .open _ t u f l => .open 0 t u f l
  | .halfOpen _ lease leaseRevision expires n l => .halfOpen 0 lease leaseRevision expires n l

/-- The state the key is in; a key not seen yet is in the initial one. -/
def CircuitDb.state (db : CircuitDb) : StationKeyCircuitState := (db.status 1).state

theorem CircuitDb.status_state (db : CircuitDb) (revision : UInt64) :
    (db.status revision).state = db.state := by
  unfold CircuitDb.state CircuitDb.status
  cases db.row with
  | none => rfl
  | some row =>
    dsimp only
    cases rowToStatus row <;> rfl

theorem CircuitDb.status_of_row {db : CircuitDb} {row : CircuitRow}
    {status : StationKeyCircuitStatus} (hrow : db.row = some row) (h : Holds row status)
    (revision : UInt64) : db.status revision = status := by
  unfold CircuitDb.status
  rw [hrow]
  dsimp only
  rw [h.read]
  rfl

theorem CircuitDb.state_of_row {db : CircuitDb} {row : CircuitRow} {status : StationKeyCircuitStatus}
    (hrow : db.row = some row) (h : Holds row status) : db.state = status.state :=
  congrArg (·.state) (db.status_of_row hrow h 1)

/-- The input's lease, if it names one, is not the active lease. -/
def Late (db : CircuitDb) (input : CircuitTerminalInput) : Prop :=
  db.state.leaseId = none ∨ db.state.leaseId ≠ input.leaseId

/-- The first result of its attempt, with an effect on the circuit, finds it Closed, and
is not a success with no failure to clear. -/
structure CountsLate (db : CircuitDb) (input : CircuitTerminalInput) : Prop where
  closed : db.state.IsClosed
  crossed : input.boundaryCrossed
  affects : input.affectsCircuit
  first : ¬ HasEvent db.events .circuit input.attemptId
  counts : ¬ (input.success ∧ db.state.consecutiveFailures = 0)

/-- The attempt was once admitted as a Half-Open probe. -/
def Granted (key : CircuitKey) (ops : List StoreOp) (attemptId : String) : Prop :=
  ∃ before policy now deadline after stateRevision leaseRevision db',
    ops = before ++ .admitAttempt policy now deadline attemptId :: after ∧
    (history key before).admitAttempt policy now deadline attemptId =
      .ok (.allowedHalfOpen stateRevision leaseRevision, db')

/-! ### What a late result does to the reducer -/

/-- Only a Closed circuit moves for a lease that is not the active one, and there by
everything but an uncrossed result and a success with nothing to clear. -/
theorem CircuitMove.late {c c' : StationKeyCircuit} {now : UInt64} {lease : Option String}
    {success crossed : Bool} {transition : CircuitTransition}
    (m : CircuitMove c (.finish now lease success crossed) (.transition transition) c')
    (hlate : c.state.leaseId = none ∨ c.state.leaseId ≠ lease) :
    c'.state.unnumbered = c.state.unnumbered ↔
      ¬ (c.state.IsClosed ∧ crossed ∧ ¬ (success ∧ c.state.consecutiveFailures = 0)) := by
  obtain ⟨config, policyRevision, leasePolicy, state⟩ := c
  cases m with
  | finishUncrossed hs => simp
  | finishSuccess hs =>
    subst hs
    simp [StationKeyCircuitState.unnumbered, eq_comm]
  | finishFailure hs hf =>
    subst hs
    have hne := UInt16.saturatingAdd_one_ne (UInt16.lt_of_le_of_lt (UInt16.le_saturatingAdd ..) hf)
    simp [StationKeyCircuitState.unnumbered, hne]
  | finishOpens hs hf =>
    subst hs
    simp [StationKeyCircuitState.unnumbered]
  | finishLate hs hl => simp [hs]
  | finishReleased hs | finishExpired hs | finishCloses hs | finishRecovers hs
  | finishReopens hs =>
    subst hs
    simp at hlate

/-! ### Late deliveries -/

theorem ignored_not_closed {c c' : StationKeyCircuit} {now : UInt64} {lease : Option String}
    {success crossed : Bool}
    (h : c.finish now lease success crossed = .ok (.ignoredLateResult, c')) :
    ¬ c.state.IsClosed := by
  have m := finish_moves h
  cases m with
  | finishLate hopen => exact hopen

theorem mismatch_not_closed {status : StationKeyCircuitStatus} {input : CircuitTerminalInput}
    (h : leaseRevisionMismatch status input) : ¬ status.state.IsClosed := by
  intro hclosed
  unfold leaseRevisionMismatch activeLease at h
  cases hs : status.state with
  | closed => simp [hs] at h
  | «open» => simp [hs] at hclosed
  | halfOpen => simp [hs] at hclosed

theorem finishAttempt_late {db db' : CircuitDb} {input : CircuitTerminalInput}
    {result : CircuitTerminalResult} (hs : StoreSound db) (hlate : Late db input)
    (h : db.finishAttempt input = .ok (result, db')) :
    db'.state.unnumbered = db.state.unnumbered ↔ ¬ CountsLate db input := by
  obtain ⟨hr, hnow, hrevision, hfinishes⟩ := finishAttempt_ok hs h
  have hholds := (hs.status hr).1
  have hstate := db.status_state input.policy.policyRevision
  cases hfinishes with
  | duplicate hduplicate =>
    rw [CircuitDb.state_of_row rfl hholds, hstate]
    exact ⟨fun _ hcounts => hcounts.first hduplicate, fun _ => rfl⟩
  | late hnew hignored =>
    rw [CircuitDb.state_of_row rfl hholds, hstate]
    refine ⟨fun _ hcounts => ?_, fun _ => rfl⟩
    have hclosed : (db.status input.policy.policyRevision).state.IsClosed := by
      rw [hstate]
      exact hcounts.closed
    rcases hignored with hmismatch | hignored
    · exact mismatch_not_closed hmismatch hclosed
    · exact ignored_not_closed hignored hclosed
  | applied hnew hmatch hfinish happlied hfits =>
    have hcircuit : ((db.status input.policy.policyRevision).circuit input.policy.config).state =
        db.state := hstate
    have hmoved := (finish_moves hfinish).late (by rwa [hcircuit])
    rw [hcircuit] at hmoved
    rw [CircuitDb.state_of_row rfl ⟨none, rfl⟩]
    refine hmoved.trans (not_congr ⟨?_, fun hcounts => ?_⟩)
    · rintro ⟨hclosed, hcrossed, hcounts⟩
      obtain ⟨hboundary, haffects⟩ : input.boundaryCrossed = true ∧ input.affectsCircuit = true := by
        simpa using hcrossed
      exact ⟨hclosed, hboundary, haffects, hnew, hcounts⟩
    · exact ⟨hcounts.closed, by simp [hcounts.crossed, hcounts.affects], hcounts.counts⟩

/-- A refused delivery is rolled back, a late one that does not count is only recorded. -/
theorem next_late {db : CircuitDb} {input : CircuitTerminalInput} (hs : StoreSound db)
    (hlate : Late db input) (hcounts : ¬ CountsLate db input) :
    (db.next (.finishAttempt input)).state.unnumbered = db.state.unnumbered := by
  refine CircuitDb.next_of (P := fun db' => db'.state.unnumbered = _) (fun db' h => ?_) rfl
  obtain ⟨⟨result, db''⟩, hok, rfl⟩ := map_ok.mp h
  exact (finishAttempt_late hs hlate hok).mpr hcounts

/-- A late result moves the circuit exactly when it counts, and any number of late ones
that do not count leave it as it was. -/
theorem late_results (key : CircuitKey) (ops : List StoreOp) :
    (∀ input result db', Late (history key ops) input →
      (history key ops).finishAttempt input = .ok (result, db') →
      (db'.state.unnumbered = (history key ops).state.unnumbered ↔
        ¬ CountsLate (history key ops) input)) ∧
    ∀ after : List StoreOp,
      Runs.Along CircuitDb.next (fun db op => ∃ input, op = .finishAttempt input ∧
        Late db input ∧ ¬ CountsLate db input) (history key ops) after →
      (history key (ops ++ after)).state.unnumbered = (history key ops).state.unnumbered := by
  have hs := history_sound key ops
  refine ⟨fun input result db' hlate h => finishAttempt_late hs hlate h, fun after along => ?_⟩
  have kept : ∀ db op, (∃ input, op = .finishAttempt input ∧ Late db input ∧
      ¬ CountsLate db input) →
      StoreSound db ∧ db.state.unnumbered = (history key ops).state.unnumbered →
      StoreSound (db.next op) ∧
        (db.next op).state.unnumbered = (history key ops).state.unnumbered := by
    rintro db op ⟨input, rfl, hlate, hcounts⟩ ⟨hsound, hsame⟩
    exact ⟨hsound.next _, (next_late hsound hlate hcounts).trans hsame⟩
  rw [show history key (ops ++ after) = _ from Runs.run_append ..]
  exact (Runs.run_invariant_along kept ⟨hs, rfl⟩ along).2

/-- The result of an attempt, as its caller delivers it. -/
def resultOf (attemptId : String) (now : UInt64) (success : Bool) : CircuitTerminalInput where
  policy := plainPolicy
  attemptId
  leaseId := some attemptId
  leaseRevision := none
  nowMs := now
  occurredAtMs := now
  success
  boundaryCrossed := true
  affectsCircuit := true
  failureCode := none
  recoveryOrigin := "normal"
  retryDisposition := "end"

/-- A probe whose lease is reaped, and the next one, which recovers the key. -/
def recoveredOps : List StoreOp :=
  [.finishAttempt (resultOf "first" 0 false), .admitAttempt plainPolicy 1 2 "probe",
    .reapExpiredLeases 2 plainPolicy, .admitAttempt plainPolicy 3 9 "second",
    .finishAttempt (resultOf "second" 4 true)]

theorem late_results_success :
    ∃ result db', Late (history plainKey recoveredOps) (resultOf "probe" 5 true) ∧
      (history plainKey recoveredOps).finishAttempt (resultOf "probe" 5 true) =
        .ok (result, db') ∧
      db'.state.unnumbered = (history plainKey recoveredOps).state.unnumbered := by
  have hlate : Late (history plainKey recoveredOps) (resultOf "probe" 5 true) :=
    .inl (by decide +kernel)
  exact ⟨_, _, hlate, rfl, ((late_results plainKey recoveredOps).1 _ _ _ hlate rfl).mpr fun hcounts =>
    hcounts.counts (by decide +kernel)⟩

/-- The first probe's failure comes in when the second has closed the circuit, and opens it. -/
theorem late_failure_opens :
    ¬ ∀ (key : CircuitKey) (ops : List StoreOp) (input : CircuitTerminalInput)
      (result : CircuitTerminalResult) (db' : CircuitDb), Granted key ops input.attemptId →
      input.leaseId = some input.attemptId →
      (history key ops).state.leaseId ≠ some input.attemptId →
      (history key ops).finishAttempt input = .ok (result, db') →
      db'.state.unnumbered = (history key ops).state.unnumbered := by
  intro h
  have := h plainKey recoveredOps (resultOf "probe" 5 false) _ _
    ⟨[.finishAttempt (resultOf "first" 0 false)], plainPolicy, 1, 2,
      [.reapExpiredLeases 2 plainPolicy, .admitAttempt plainPolicy 3 9 "second",
        .finishAttempt (resultOf "second" 4 true)], _, _, _, rfl, rfl⟩ rfl (by decide +kernel) rfl
  revert this
  decide +kernel

end RelayPool.Circuit
