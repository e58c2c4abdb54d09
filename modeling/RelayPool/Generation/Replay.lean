import RelayPool.Circuit.History

/-! The circuit rebuild.

A circuit generation is built from the event table alone: the applied events of
each key lifecycle are replayed, in the order the reducer committed them,
through a second reducer written over the row's columns. It has no clock of its
own (the time of an event is the time it carries) and no lease: a probe is an
event that carries a lease revision.

`replay_succeeds` is what the order of the events is for: the rebuild of a
history never stops at a conflict. -/
namespace RelayPool.Generation
open RelayPool.Circuit

structure CircuitGenerationBuildRequest where
  inputCircuitEventWatermark : UInt64
  circuitPolicyRevision : UInt64
  consecutiveFailureThreshold : UInt16
  recoverySuccessThreshold : UInt16
  recoveryWaitMs : UInt64
  maxCooldownMs : UInt64
  evaluationAtMs : Int
deriving DecidableEq, Repr

def validateCircuitRequest (request : CircuitGenerationBuildRequest) :
    Except PersistenceError Unit :=
  if request.circuitPolicyRevision = 0 ∨ request.consecutiveFailureThreshold = 0 ∨
      request.recoverySuccessThreshold = 0 ∨ request.recoveryWaitMs = 0 ∨
      request.maxCooldownMs < request.recoveryWaitMs ∨ request.evaluationAtMs < 0 then
    .error .constraintViolation
  else
    .ok ()

/-- The request the cutover makes for a policy. -/
def CircuitGenerationBuildRequest.of (policy : CircuitPolicy) (watermark : UInt64)
    (evaluationAtMs : Int) : CircuitGenerationBuildRequest where
  inputCircuitEventWatermark := watermark
  circuitPolicyRevision := policy.policyRevision
  consecutiveFailureThreshold := policy.consecutiveFailureThreshold
  recoverySuccessThreshold := policy.recoverySuccessThreshold
  recoveryWaitMs := policy.recoveryWaitMs
  maxCooldownMs := Circuit.maxCooldownMs
  evaluationAtMs

structure CircuitGenerationState where
  state : CircuitStateName
  stateRevision : UInt64
  consecutiveFailures : UInt16
  reopenLevel : UInt32
  openedAtMs : Option UInt64
  cooldownUntilMs : Option UInt64
  recoverySuccesses : UInt16
  monotonicClockWatermarkMs : UInt64
  reducerCommitSequence : Nat
deriving DecidableEq, Repr

def newCircuitState : CircuitGenerationState := ⟨.closed, 1, 0, 0, none, none, 0, 0, 0⟩

/-! ### The second reducer -/

def openCircuit (state : CircuitGenerationState) (occurredAtMs : UInt64)
    (request : CircuitGenerationBuildRequest) (reopening : Bool) : CircuitGenerationState :=
  let reopenLevel := max (state.reopenLevel.saturatingAdd 1) 1
  -- The reducer's formula, which the source writes out a second time.
  let cooldown := StationKeyCircuit.cooldown request.recoveryWaitMs request.maxCooldownMs reopenLevel
  { state with
    state := .open
    stateRevision :=
      if reopening then state.stateRevision.saturatingAdd 1 else state.stateRevision
    consecutiveFailures := if reopening then 0 else state.consecutiveFailures
    reopenLevel
    openedAtMs := some occurredAtMs
    cooldownUntilMs := some (occurredAtMs.saturatingAdd cooldown)
    recoverySuccesses := 0 }

def reopenCircuit (state : CircuitGenerationState) (occurredAtMs : UInt64)
    (request : CircuitGenerationBuildRequest) : CircuitGenerationState :=
  openCircuit state occurredAtMs request true

def applyHalfOpenResult (state : CircuitGenerationState) (event : CircuitEvent)
    (success failure : Bool) (request : CircuitGenerationBuildRequest) : CircuitGenerationState :=
  if success then
    let recoverySuccesses := state.recoverySuccesses.saturatingAdd 1
    let state := { state with
      stateRevision := state.stateRevision.saturatingAdd 1
      recoverySuccesses }
    if request.recoverySuccessThreshold ≤ recoverySuccesses then
      { state with
        state := .closed, consecutiveFailures := 0, reopenLevel := 0
        openedAtMs := none, cooldownUntilMs := none, recoverySuccesses := 0 }
    else state
  else if failure then reopenCircuit state event.occurredAtMs request
  else state

def applyCircuitEvent (state : CircuitGenerationState) (event : CircuitEvent)
    (request : CircuitGenerationBuildRequest) : CircuitGenerationState :=
  match event.effectKind with
  | .lease =>
    if event.failureCode = some "lease_expired" then
      reopenCircuit state event.occurredAtMs request
    else state
  | .circuit =>
    let success := event.canonicalOutcome == .success && event.boundaryCrossed
    let failure := event.canonicalOutcome == .attributableFailure && event.boundaryCrossed
    let isProbeResult := event.leaseRevision.isSome
    match state.state with
    | .closed =>
      if success then
        { state with
          stateRevision := state.stateRevision.saturatingAdd 1, consecutiveFailures := 0 }
      else if failure then
        let consecutiveFailures := state.consecutiveFailures.saturatingAdd 1
        let state := { state with
          stateRevision := state.stateRevision.saturatingAdd 1
          consecutiveFailures }
        if request.consecutiveFailureThreshold ≤ consecutiveFailures then
          openCircuit state event.occurredAtMs request false
        else state
      else state
    | .open =>
      if isProbeResult then
        applyHalfOpenResult { state with
          state := .halfOpen, stateRevision := state.stateRevision.saturatingAdd 1 }
          event success failure request
      else state
    | .halfOpen =>
      if isProbeResult then applyHalfOpenResult state event success failure request else state

/-! ### The replay of one key -/

/-- An event's effect with the columns that keep its place. -/
def replayEvent (request : CircuitGenerationBuildRequest) (state : CircuitGenerationState)
    (event : CircuitEvent) : CircuitGenerationState :=
  applyCircuitEvent { state with
    monotonicClockWatermarkMs := max state.monotonicClockWatermarkMs event.occurredAtMs
    reducerCommitSequence := event.reducerCommitSequence } event request

def applyCircuitEventBatch (request : CircuitGenerationBuildRequest) :
    Option CircuitGenerationState → List CircuitEvent →
      Except PersistenceError (Option CircuitGenerationState)
  | current, [] => .ok current
  | current, event :: rest =>
    let state := current.getD newCircuitState
    if event.reducerCommitSequence ≤ state.reducerCommitSequence then
      .error (.revisionConflict "routing_circuit_generation_v3")
    else
      applyCircuitEventBatch request (some (replayEvent request state event)) rest

/-- The applied events of the key, as a batch query lists them. -/
def loadCircuitEvents (db : CircuitDb) : List CircuitEvent :=
  (db.events.filter (·.applied)).mergeSort fun a b =>
    a.reducerCommitSequence ≤ b.reducerCommitSequence

/-- What the replay of the events arrives at. -/
def replayed (request : CircuitGenerationBuildRequest) (events : List CircuitEvent) :
    CircuitGenerationState :=
  (events.filter (·.applied)).foldl (replayEvent request) newCircuitState

theorem replayed_applied {request : CircuitGenerationBuildRequest} {events : List CircuitEvent}
    {event : CircuitEvent} (happlied : event.applied = true) :
    replayed request (events ++ [event]) =
      replayEvent request (replayed request events) event := by
  unfold replayed
  rw [List.filter_append, List.foldl_append]
  simp [happlied]

theorem replayed_unapplied {request : CircuitGenerationBuildRequest} {events : List CircuitEvent}
    {event : CircuitEvent} (happlied : event.applied = false) :
    replayed request (events ++ [event]) = replayed request events := by
  unfold replayed
  rw [List.filter_append]
  simp [happlied]

/-! ### The order of the events -/

/-- Sequences start at one and grow along the table. -/
structure Numbered (events : List CircuitEvent) : Prop where
  ordered : events.Pairwise (·.reducerCommitSequence < ·.reducerCommitSequence)
  positive : ∀ e ∈ events, 0 < e.reducerCommitSequence

theorem lt_nextSequence {db : CircuitDb} {e : CircuitEvent} (he : e ∈ db.events) :
    e.reducerCommitSequence < db.nextSequence := by
  have hle : ∀ (ns : List Nat) (a : Nat), a ≤ ns.foldl max a ∧ ∀ n ∈ ns, n ≤ ns.foldl max a := by
    intro ns
    induction ns with
    | nil => exact fun a => ⟨le_rfl, nofun⟩
    | cons n rest ih =>
      intro a
      obtain ⟨hinit, hrest⟩ := ih (max a n)
      refine ⟨(le_max_left ..).trans hinit, fun m hm => ?_⟩
      rcases List.mem_cons.mp hm with rfl | hm
      · exact (le_max_right ..).trans hinit
      · exact hrest m hm
  exact Nat.lt_succ_of_le ((hle _ 0).2 _ (List.mem_map_of_mem he))

theorem Numbered.concat {db : CircuitDb} (h : Numbered db.events) {e : CircuitEvent}
    (hnext : e.reducerCommitSequence = db.nextSequence) : Numbered (db.events ++ [e]) where
  ordered := by
    rw [List.pairwise_append]
    refine ⟨h.ordered, List.pairwise_singleton .., fun a ha b hb => ?_⟩
    rw [List.mem_singleton.mp hb, hnext]
    exact lt_nextSequence ha
  positive := by
    intro a ha
    rcases List.mem_append.mp ha with ha | ha
    · exact h.positive a ha
    · rw [List.mem_singleton.mp ha, hnext]
      exact Nat.succ_pos _

/-- An operation leaves the events as they were or appends one with the next sequence. -/
def Appends (db db' : CircuitDb) : Prop :=
  db'.events = db.events ∨
    ∃ e, e.reducerCommitSequence = db.nextSequence ∧ db'.events = db.events ++ [e]

theorem next_appends {db : CircuitDb} (hs : StoreSound db) (op : StoreOp) :
    Appends db (db.next op) := by
  refine CircuitDb.next_of (fun db' h => ?_) (.inl rfl)
  cases op with
  | admitAttempt policy now deadline attemptId =>
    obtain ⟨⟨result, db''⟩, hok, rfl⟩ := Fallible.map_ok.mp h
    obtain ⟨hr, hid⟩ := admitAttempt_requires hok
    obtain ⟨-, admission, c, -, -, -, rfl⟩ := (admitAttempt_ok hs hr hid).mp hok
    exact .inl rfl
  | finishAttempt input =>
    obtain ⟨⟨result, db''⟩, hok, rfl⟩ := Fallible.map_ok.mp h
    obtain ⟨-, -, -, hfinishes⟩ := finishAttempt_ok hs hok
    cases hfinishes with
    | duplicate => exact .inl rfl
    | late => exact .inr ⟨_, rfl, rfl⟩
    | applied => exact .inr ⟨_, rfl, rfl⟩
  | reapExpiredLeases now policy =>
    obtain ⟨⟨reaped, db''⟩, hok, rfl⟩ := Fallible.map_ok.mp h
    obtain ⟨-, hreaps⟩ := reapExpiredLeases_ok hs hok
    cases hreaps with
    | nothing => exact .inl rfl
    | reopened _ _ _ hlogged => exact hlogged.imp And.left fun hlogged => ⟨_, rfl, hlogged.1⟩
    | released _ _ _ _ _ _ hlogged => exact hlogged.imp And.left fun hlogged => ⟨_, rfl, hlogged.1⟩
  | markBoundaryCrossed attemptId leaseRevision now =>
    obtain ⟨⟨marked, db''⟩, hok, rfl⟩ := Fallible.map_ok.mp h
    obtain ⟨-, rfl | ⟨status, -, rfl⟩⟩ := markBoundaryCrossed_ok hs hok
    · exact .inl rfl
    · exact .inl rfl
  | advanceCircuitClock now =>
    obtain ⟨⟨logical, db''⟩, hok, rfl⟩ := Fallible.map_ok.mp h
    obtain ⟨-, -, rfl⟩ := advanceCircuitClock_ok.mp hok
    exact .inl rfl

theorem history_numbered (key : CircuitKey) (ops : List StoreOp) :
    Numbered (history key ops).events := by
  have preserved : ∀ db op, StoreSound db ∧ Numbered db.events →
      StoreSound (db.next op) ∧ Numbered (db.next op).events := by
    rintro db op ⟨hs, hnumbered⟩
    refine ⟨hs.next op, ?_⟩
    rcases next_appends hs op with heq | ⟨e, hnext, heq⟩
    · rwa [heq]
    · rw [heq]
      exact hnumbered.concat hnext
  exact (Runs.run_invariant preserved ⟨empty_sound key, .nil, nofun⟩ ops).2

theorem applyHalfOpenResult_sequence (state : CircuitGenerationState) (event : CircuitEvent)
    (success failure : Bool) (request : CircuitGenerationBuildRequest) :
    (applyHalfOpenResult state event success failure request).reducerCommitSequence =
      state.reducerCommitSequence := by
  unfold applyHalfOpenResult
  dsimp only
  split_ifs <;> rfl

/-- An event changes the circuit, not the place in the replay. -/
theorem applyCircuitEvent_sequence (state : CircuitGenerationState) (event : CircuitEvent)
    (request : CircuitGenerationBuildRequest) :
    (applyCircuitEvent state event request).reducerCommitSequence =
      state.reducerCommitSequence := by
  unfold applyCircuitEvent
  split
  · split_ifs <;> rfl
  · dsimp only
    split
    · split_ifs <;> rfl
    · split_ifs
      · exact applyHalfOpenResult_sequence ..
      · rfl
    · split_ifs
      · exact applyHalfOpenResult_sequence ..
      · rfl

/-- Above the state's sequence, and one after the other, no event conflicts. -/
theorem applyCircuitEventBatch_ok (request : CircuitGenerationBuildRequest)
    {current : Option CircuitGenerationState} {events : List CircuitEvent}
    (hordered : events.Pairwise (·.reducerCommitSequence < ·.reducerCommitSequence))
    (habove : ∀ e ∈ events,
      (current.getD newCircuitState).reducerCommitSequence < e.reducerCommitSequence) :
    ∃ after, applyCircuitEventBatch request current events = .ok after ∧
      after.getD newCircuitState =
        events.foldl (replayEvent request) (current.getD newCircuitState) := by
  induction events generalizing current with
  | nil => exact ⟨current, rfl, rfl⟩
  | cons e rest ih =>
    obtain ⟨hhead, hrest⟩ := List.pairwise_cons.mp hordered
    have hplace := applyCircuitEvent_sequence { current.getD newCircuitState with
      monotonicClockWatermarkMs :=
        max (current.getD newCircuitState).monotonicClockWatermarkMs e.occurredAtMs
      reducerCommitSequence := e.reducerCommitSequence } e request
    obtain ⟨after, hok, hafter⟩ := @ih
      (some (replayEvent request (current.getD newCircuitState) e)) hrest
      (fun e' he' => by
        show (replayEvent request _ e).reducerCommitSequence < _
        rw [replayEvent, hplace]
        exact hhead e' he')
    refine ⟨after, ?_, hafter⟩
    unfold applyCircuitEventBatch
    rwa [if_neg (Nat.not_le.mpr (habove e (List.mem_cons_self ..)))]

/-- The rebuild of a history never meets a conflict. -/
theorem replay_succeeds (request : CircuitGenerationBuildRequest) (key : CircuitKey)
    (ops : List StoreOp) :
    let db := history key ops
    ∃ current, applyCircuitEventBatch request none (loadCircuitEvents db) = .ok current ∧
      current.getD newCircuitState = replayed request db.events := by
  intro db
  have hnumbered := history_numbered key ops
  have hordered := hnumbered.ordered.filter (·.applied)
  have hsorted : loadCircuitEvents db = db.events.filter (·.applied) :=
    List.mergeSort_of_pairwise (hordered.imp fun h => by simpa using h.le)
  rw [hsorted]
  exact applyCircuitEventBatch_ok request hordered fun e he =>
    hnumbered.positive e (List.mem_of_mem_filter he)

end RelayPool.Generation
