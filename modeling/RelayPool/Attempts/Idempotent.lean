import RelayPool.Attempts.RequestLog

/-! A terminal that is delivered again.

A record that was written once finds everything as it left it: its row in the log, its
decision events, its terminal in the ledger. Three of the four comparisons look at what
the record carries and succeed in every later state of the log. The fourth compares the
time of receipt, which each delivery reads anew, so a redelivery succeeds only at the
clock value of the first one, or once the request is finalized, when a terminal is no
longer compared but only audited (`redelivery_idempotent`). -/
namespace RelayPool.Attempts
open Circuit (PersistenceError toColumn toColumn_ok)
open Table Fallible Runs

/-! ### Operations on the log -/

/-- One transaction each; `clear` deletes the requests with their attempts and events. -/
inductive LogOperation
  | startRequest (requestId : String) (receivedAtMs : Int)
  | appendEvent (event : RoutingDecisionEventWrite)
  | ledger (operation : Operation)
  | deliver (record : AttemptTerminalWrite) (nowMs : Int64) (v3Active : Bool)
  | clear
deriving DecidableEq

namespace RequestLog

def startRequest (log : RequestLog) (requestId : String) (receivedAtMs : Int) :
    Except PersistenceError RequestLog :=
  let log :=
    if requestId ∈ log.requests then log else { log with requests := log.requests ++ [requestId] }
  log.insertDecisionEvent {
    requestId
    eventKey := "request_started"
    occurredAtMs := receivedAtMs
    eventKind := "request_started"
    detailCode := "request_started"
    attemptOrdinal := none
    retryDisposition := none
    outputCommitted := none }

def perform (log : RequestLog) : LogOperation → Except PersistenceError RequestLog
  | .startRequest requestId receivedAtMs => log.startRequest requestId receivedAtMs
  | .appendEvent event => log.insertDecisionEvent event
  | .ledger operation => do
    let (_, ledger) ← log.ledger.perform operation
    return { log with ledger }
  | .deliver record nowMs v3Active => do
    let (_, log) ← log.finishAttempt (record.receivedAt nowMs) v3Active
    return log
  | .clear => .ok { log with requests := [], attempts := [], events := [] }

def step (log : RequestLog) (operation : LogOperation) : RequestLog :=
  match log.perform operation with
  | .ok log => log
  | .error _ => log

def after (operations : List LogOperation) : RequestLog := run step initial operations

variable {log log' log'' : RequestLog} {record : AttemptTerminalWrite}

/-! ### Growth of the log -/

/-- Rows of the log stay, and the ledger evolves. -/
structure Extends (log log' : RequestLog) : Prop where
  requests : log.requests <+: log'.requests
  attempts : log.attempts <+: log'.attempts
  events : log.events <+: log'.events
  ledger : Ledger.Evolves log.ledger log'.ledger

namespace Extends

theorem refl (log : RequestLog) : Extends log log :=
  ⟨List.prefix_rfl, List.prefix_rfl, List.prefix_rfl, .refl _⟩

theorem trans (first : Extends log log') (second : Extends log' log'') : Extends log log'' :=
  ⟨first.requests.trans second.requests, first.attempts.trans second.attempts,
    first.events.trans second.events, first.ledger.trans second.ledger⟩

theorem event (extends_ : Extends log log') {requestId eventKey : String} {row : DecisionEventRow}
    (found : log.event requestId eventKey = some row) :
    log'.event requestId eventKey = some row :=
  extends_.events.find?_eq_some found

end Extends

/-! ### Decision events -/

/-- The event is in the log as it is written again. -/
def Recorded (log : RequestLog) (event : RoutingDecisionEventWrite) : Prop :=
  validateDecisionEvent event = .ok () ∧ ∃ existing,
    log.event event.requestId event.eventKey = some existing ∧
      existingMatches existing.write event = true

theorem Recorded.extends (extends_ : Extends log log') {event : RoutingDecisionEventWrite}
    (recorded : log.Recorded event) : log'.Recorded event := by
  obtain ⟨valid, existing, found, same⟩ := recorded
  exact ⟨valid, existing, extends_.event found, same⟩

/-- What was written once is written again without an effect. -/
theorem Recorded.insert {event : RoutingDecisionEventWrite} (recorded : log.Recorded event) :
    log.insertDecisionEvent event = .ok log := by
  obtain ⟨valid, existing, found, same⟩ := recorded
  unfold insertDecisionEvent
  rw [valid, found]
  show (if ¬ existingMatches existing.write event = true then _ else pure log) = _
  rw [if_neg (not_not.mpr same)]
  rfl

theorem existingMatches_self (event : RoutingDecisionEventWrite) :
    existingMatches event event = true := by
  simp [existingMatches]

/-- An event is only ever added. -/
theorem insertDecisionEvent_ok {event : RoutingDecisionEventWrite}
    (h : log.insertDecisionEvent event = .ok log') :
    log' = { log with events := log'.events } ∧ log.events <+: log'.events ∧
      log'.Recorded event := by
  unfold insertDecisionEvent at h
  rw [bind_ok] at h
  obtain ⟨_, valid, h⟩ := h
  split at h
  · rename_i existing found
    rw [guard_ok] at h
    obtain ⟨same, h⟩ := h
    obtain rfl := pure_ok.mp h
    exact ⟨rfl, List.prefix_rfl, valid, existing, found, not_not.mp same⟩
  · rename_i absent
    obtain ⟨-, h⟩ := guard_ok.mp h
    obtain ⟨-, h⟩ := guard_ok.mp h
    obtain ⟨-, h⟩ := guard_ok.mp h
    obtain rfl := pure_ok.mp h
    refine ⟨rfl, List.prefix_append .., valid, ⟨event, log.nextEventSequence event.requestId⟩, ?_,
      existingMatches_self event⟩
    have fresh : lookup DecisionEventRow.key log.events
        (DecisionEventRow.key ⟨event, log.nextEventSequence event.requestId⟩) = none := absent
    exact (lookup_concat fresh).trans (if_pos rfl)

theorem appendAttemptDecisionEvents_ok {events : List RoutingDecisionEventWrite}
    (h : events.foldlM insertDecisionEvent log = .ok log') :
    log' = { log with events := log'.events } ∧ log.events <+: log'.events ∧
      ∀ event ∈ events, log'.Recorded event := by
  induction events generalizing log with
  | nil =>
    obtain rfl := pure_ok.mp h
    exact ⟨rfl, List.prefix_rfl, List.forall_mem_nil _⟩
  | cons event rest ih =>
    rw [List.foldlM_cons, bind_ok] at h
    obtain ⟨next, inserted, h⟩ := h
    obtain ⟨same, grown, recorded⟩ := insertDecisionEvent_ok inserted
    obtain ⟨same', grown', rest_recorded⟩ := ih h
    have whole : log' = { log with events := log'.events } := by
      rw [same] at same'
      exact same'
    have extends_ : Extends next log' := by
      rw [same']
      exact ⟨List.prefix_rfl, List.prefix_rfl, grown', .refl _⟩
    exact ⟨whole, grown.trans grown',
      List.forall_mem_cons.mpr ⟨recorded.extends extends_, rest_recorded⟩⟩

theorem appendAttemptDecisionEvents_recorded
    (recorded : ∀ event ∈ record.decisionEvents, log.Recorded event) :
    log.appendAttemptDecisionEvents record = .ok log := by
  unfold appendAttemptDecisionEvents
  generalize record.decisionEvents = events at recorded
  induction events with
  | nil => rfl
  | cons event rest ih =>
    obtain ⟨first, later⟩ := List.forall_mem_cons.mp recorded
    rw [List.foldlM_cons, first.insert]
    exact ih later

/-! ### One delivery -/

/-- What a delivery that ends well has done. -/
structure Finished (log : RequestLog) (record : AttemptTerminalWrite) (v3Active : Bool)
    (result : AttemptPersistenceResult) (log' : RequestLog) : Prop where
  requests : log'.requests = log.requests
  attempts : log.attempts <+: log'.attempts
  added : ∀ row ∈ log'.attempts, row ∈ log.attempts ∨ row = .of record
  attempt : log'.attempt record.requestId record.ordinal = some (.of record)
  events : log.events <+: log'.events
  recorded : ∀ event ∈ record.decisionEvents, log'.Recorded event
  ledger : ∃ terminal, log.ledger.finishAttempt record v3Active = .ok (terminal, log'.ledger)
  /-- A new row, or a repetition. -/
  fresh : log.attempt record.requestId record.ordinal = none ∨
    result.inserted = false ∧ log.attempt record.requestId record.ordinal = some (.of record) ∧
      log'.attempts = log.attempts

theorem finishAttempt_ok {v3Active : Bool} {result : AttemptPersistenceResult}
    (h : log.finishAttempt record v3Active = .ok (result, log')) :
    Finished log record v3Active result log' := by
  unfold finishAttempt at h
  rw [bind_ok] at h
  obtain ⟨slotted, isSlotted, h⟩ := h
  split at h
  · rename_i existing found
    rw [guard_ok] at h
    obtain ⟨same, h⟩ := h
    obtain rfl := not_not.mp same
    simp only [bind_ok, pure_ok, Prod.exists, Prod.mk.injEq] at h
    obtain ⟨next, appended, terminal, ledger, ended, rfl, rfl⟩ := h
    obtain ⟨whole, grown, recorded⟩ := appendAttemptDecisionEvents_ok appended
    rw [whole] at ended
    exact {
      requests := by rw [whole]
      attempts := by rw [whole]
      added := fun row mem => .inl (by rw [whole] at mem; exact mem)
      attempt := by rw [whole]; exact found
      events := grown
      recorded
      ledger := ⟨terminal, bind_ok.mpr ⟨slotted, isSlotted, ended⟩⟩
      fresh := .inr ⟨rfl, found, by rw [whole]⟩ }
  · rename_i absent
    rw [guard_ok] at h
    obtain ⟨-, h⟩ := h
    simp only [bind_ok, pure_ok, Prod.exists, Prod.mk.injEq] at h
    obtain ⟨terminal, ledger, ended, next, appended, -, rfl⟩ := h
    obtain ⟨whole, grown, recorded⟩ := appendAttemptDecisionEvents_ok appended
    have added : next.attempts = log.attempts ++ [.of record] := by rw [whole]
    have fresh : lookup RequestAttemptRow.key log.attempts
        (RequestAttemptRow.of record).key = none := absent
    exact {
      requests := by rw [whole]
      attempts := added ▸ List.prefix_append ..
      added := fun row mem =>
        (List.mem_append.mp (added ▸ mem)).imp id List.mem_singleton.mp
      attempt := by
        unfold attempt
        rw [added]
        exact (lookup_concat fresh).trans (if_pos rfl)
      events := grown
      recorded
      ledger := ⟨terminal, bind_ok.mpr ⟨slotted, isSlotted, by rw [whole]; exact ended⟩⟩
      fresh := .inl absent }

/-! ### Between operations -/

/-- What holds of the log between operations. -/
structure Sound (log : RequestLog) : Prop where
  kept : Ledger.Kept log.ledger
  legacy : Ledger.LegacyEnded log.ledger
  /-- The attempts of the log have their events in it. -/
  recorded : ∀ record : AttemptTerminalWrite, .of record ∈ log.attempts →
    ∀ event ∈ record.decisionEvents, log.Recorded event

theorem sound_initial : Sound initial where
  kept := Ledger.kept_initial
  legacy _ mem := absurd mem List.not_mem_nil
  recorded _ mem := absurd mem List.not_mem_nil

/-- The events of an attempt are those of its row. -/
theorem decisionEvents_congr {record other : AttemptTerminalWrite}
    (same : RequestAttemptRow.of other = .of record) :
    other.decisionEvents = record.decisionEvents := by
  simp only [RequestAttemptRow.of, RequestAttemptRow.mk.injEq] at same
  obtain ⟨requestId, ordinal, -, -, -, startedAtMs, kind, -, -, disposition, -, -, code, -,
    committed, terminalAtMs, -⟩ := same
  simp only [AttemptTerminalWrite.decisionEvents, requestId, ordinal, startedAtMs, kind,
    disposition, code, committed, terminalAtMs]

theorem Finished.sound {v3Active : Bool} {result : AttemptPersistenceResult}
    (finished : Finished log record v3Active result log') (sound : log.Sound) :
    log'.Sound ∧ Extends log log' := by
  obtain ⟨terminal, ended⟩ := finished.ledger
  obtain ⟨kept, legacy, evolves, -⟩ := Ledger.finishAttempt_sound sound.kept sound.legacy ended
  have extends_ : Extends log log' :=
    ⟨finished.requests ▸ List.prefix_rfl, finished.attempts, finished.events, evolves⟩
  refine ⟨⟨kept, legacy, fun other mem event isEvent => ?_⟩, extends_⟩
  rcases finished.added _ mem with old | same
  · exact (sound.recorded other old event isEvent).extends extends_
  · exact finished.recorded event (decisionEvents_congr same ▸ isEvent)

/-- An operation extends the log, or clears it. -/
theorem step_sound (sound : log.Sound) (operation : LogOperation) :
    (log.step operation).Sound ∧ (operation ≠ .clear → Extends log (log.step operation)) ∧
      Ledger.Evolves log.ledger (log.step operation).ledger := by
  have of_extends : ∀ {log' : RequestLog}, log'.Sound → Extends log log' →
      log'.Sound ∧ (operation ≠ .clear → Extends log log') ∧
        Ledger.Evolves log.ledger log'.ledger := fun sound extends_ =>
    ⟨sound, fun _ => extends_, extends_.ledger⟩
  -- an event leaves everything else alone
  have of_event : ∀ {log₀ log' : RequestLog} {event : RoutingDecisionEventWrite},
      log₀.Sound → Extends log log₀ → log₀.insertDecisionEvent event = .ok log' →
      log'.Sound ∧ Extends log log' := by
    intro log₀ log' event sound₀ extends₀ inserted
    obtain ⟨same, grown, -⟩ := insertDecisionEvent_ok inserted
    have extends₁ : Extends log₀ log' := by
      rw [same]
      exact ⟨List.prefix_rfl, List.prefix_rfl, grown, .refl _⟩
    refine ⟨?_, extends₀.trans extends₁⟩
    rw [same] at extends₁ ⊢
    exact ⟨sound₀.kept, sound₀.legacy, fun other mem event isEvent =>
      (sound₀.recorded other mem event isEvent).extends extends₁⟩
  unfold step
  cases performed : log.perform operation with
  | error _ => exact of_extends sound (.refl log)
  | ok log' =>
    dsimp only
    cases operation with
    | startRequest requestId receivedAtMs =>
      have started : Extends log (if requestId ∈ log.requests then log else
          { log with requests := log.requests ++ [requestId] }) := by
        split
        · exact .refl log
        · exact ⟨List.prefix_append .., List.prefix_rfl, List.prefix_rfl, .refl _⟩
      have sound₀ : (if requestId ∈ log.requests then log else
          { log with requests := log.requests ++ [requestId] }).Sound := by
        split
        · exact sound
        · exact ⟨sound.kept, sound.legacy, sound.recorded⟩
      obtain ⟨sound', extends'⟩ := of_event sound₀ started performed
      exact of_extends sound' extends'
    | appendEvent event =>
      obtain ⟨sound', extends'⟩ := of_event sound (.refl log) performed
      exact of_extends sound' extends'
    | ledger operation =>
      simp only [perform, bind_ok, pure_ok, Prod.exists] at performed
      obtain ⟨samples, ledger, done, rfl⟩ := performed
      obtain ⟨kept, legacy, performed⟩ := Ledger.perform_sound sound.kept sound.legacy done
      have evolves := performed.evolves sound.kept sound.legacy
      exact of_extends ⟨kept, legacy, sound.recorded⟩
        ⟨List.prefix_rfl, List.prefix_rfl, List.prefix_rfl, evolves⟩
    | deliver record nowMs v3Active =>
      simp only [perform, bind_ok, pure_ok, Prod.exists] at performed
      obtain ⟨result, _, finished, rfl⟩ := performed
      obtain ⟨sound', extends'⟩ := (finishAttempt_ok finished).sound sound
      exact of_extends sound' extends'
    | clear =>
      obtain rfl := Except.ok.inj performed
      exact ⟨⟨sound.kept, sound.legacy, fun _ mem => absurd mem List.not_mem_nil⟩,
        fun other => absurd rfl other, .refl _⟩

theorem run_sound (sound : log.Sound) (operations : List LogOperation) :
    (run step log operations).Sound ∧
      Ledger.Evolves log.ledger (run step log operations).ledger := by
  have preserved : ∀ (s : RequestLog) (operation : LogOperation),
      s.Sound ∧ Ledger.Evolves log.ledger s.ledger →
      (s.step operation).Sound ∧ Ledger.Evolves log.ledger (s.step operation).ledger := by
    rintro s operation ⟨sound, evolves⟩
    obtain ⟨sound', -, evolves'⟩ := step_sound sound operation
    exact ⟨sound', evolves.trans evolves'⟩
  exact run_invariant preserved ⟨sound, .refl _⟩ operations

/-! ### The ledger after a delivery -/

end RequestLog

namespace Ledger

variable {ledger ledger' : Ledger} {record : AttemptTerminalWrite} {receivedMs nowMs : Int64}

theorem sameColumn_ok {current : Int} {value : UInt64} :
    sameColumn current value = .ok () ↔ value < 9223372036854775808 ∧ current = value.toNat := by
  unfold sameColumn
  simp only [bind_ok, toColumn_ok]
  constructor
  · rintro ⟨column, ⟨small, rfl⟩, h⟩
    rw [ite_ok, throw_ok, and_false, false_or] at h
    exact ⟨small, not_not.mp h.1⟩
  · rintro ⟨small, same⟩
    exact ⟨_, ⟨small, rfl⟩, ite_ok.mpr (.inr ⟨not_not.mpr same, rfl⟩)⟩

/-- What a repeated terminal has to agree on, apart from the time of its receipt. -/
structure SameTerminal (current : TerminalColumns) (terminal : RoutingAttemptTerminal)
    (canonical : CanonicalTerminal) : Prop where
  terminalState : current.terminalState = canonical.terminalState
  outcome : current.outcome = canonical.outcome
  failureCode : current.failureCode = terminal.failureCode
  failureAttribution : current.failureAttribution = canonical.failureAttribution
  eventAtMs : current.eventAtMs = some (terminal.eventAtMs.toNat : Int)
  observedAtMs : current.observedAtMs = terminal.observedAtMs.toNat
  latencyMs : current.latencyMs = terminal.latencyMs.toNat
  comparabilityKey : current.comparabilityKey = terminal.comparabilityKey
  retryDisposition : current.retryDisposition = terminal.retryDisposition
  small : terminal.eventAtMs < 9223372036854775808 ∧ terminal.observedAtMs < 9223372036854775808 ∧
    terminal.latencyMs < 9223372036854775808

theorem validateDuplicateTerminal_ok {current : TerminalColumns}
    {terminal : RoutingAttemptTerminal} {canonical : CanonicalTerminal} :
    validateDuplicateTerminal current terminal canonical = .ok () ↔
      SameTerminal current terminal canonical ∧
        terminal.ingestedAtMs < 9223372036854775808 ∧
        current.ingestedAtMs = terminal.ingestedAtMs.toNat := by
  unfold validateDuplicateTerminal
  rw [guard_ok]
  simp only [not_or, not_not]
  constructor
  · rintro ⟨⟨state, outcome, code, attribution⟩, h⟩
    cases event : current.eventAtMs with
    | none =>
      rw [event] at h
      cases h
    | some eventAtMs =>
      rw [event] at h
      dsimp only at h
      rw [then_ok, then_ok, then_ok, then_ok, sameColumn_ok, sameColumn_ok, sameColumn_ok,
        sameColumn_ok, ite_ok, throw_ok, and_false, false_or, not_or, not_not, not_not] at h
      obtain ⟨⟨small, isEvent⟩, ⟨small', observed⟩, ⟨small'', ingested⟩, ⟨small₃, latency⟩,
        ⟨key, disposition⟩, -⟩ := h
      exact ⟨⟨state, outcome, code, attribution, event.trans (congrArg some isEvent), observed,
        latency, key, disposition, small, small', small₃⟩, small'', ingested⟩
  · rintro ⟨same, small, ingested⟩
    refine ⟨⟨same.terminalState, same.outcome, same.failureCode, same.failureAttribution⟩, ?_⟩
    rw [same.eventAtMs]
    dsimp only
    rw [then_ok, then_ok, then_ok, then_ok, sameColumn_ok, sameColumn_ok, sameColumn_ok,
      sameColumn_ok, ite_ok, throw_ok, and_false, false_or, not_or, not_not, not_not]
    exact ⟨⟨same.small.1, rfl⟩, ⟨same.small.2.1, same.observedAtMs⟩, ⟨small, ingested⟩,
      ⟨same.small.2.2, same.latencyMs⟩, ⟨same.comparabilityKey, same.retryDisposition⟩, rfl⟩

/-- The row of a record that was delivered, while nothing makes its request final. -/
structure Settled (ledger : Ledger) (record : AttemptTerminalWrite) (receivedMs : Int64)
    (row : AttemptRow) (canonical : CanonicalTerminal) : Prop where
  attempt : ledger.attempt record.attemptId = some row
  ended : row.pending = false
  isCanonical : canonicalTerminal record.routingTerminal row.boundaryCrossed = .ok canonical
  observed : record.routingTerminal.observedAtMs < 9223372036854775808
  stored : ledger.finalized row.correlationId = true ∨ ∃ columns, row.terminal = some columns ∧
    validateDuplicateTerminal columns (record.receivedAt receivedMs).routingTerminal canonical =
      .ok ()

theorem Settled.evolves {row : AttemptRow} {canonical : CanonicalTerminal}
    (settled : Settled ledger record receivedMs row canonical)
    (evolves : Evolves ledger ledger') : Settled ledger' record receivedMs row canonical := by
  obtain ⟨row', found, before⟩ := evolves.attempt settled.attempt
  obtain rfl := before.fixed settled.ended
  exact ⟨found, settled.ended, settled.isCanonical, settled.observed,
    settled.stored.imp_left evolves.finalized⟩

/-- The time of receipt as the ledger stores it. -/
theorem ingestedAtMs_receivedAt (record : AttemptTerminalWrite) (nowMs : Int64) :
    ((record.receivedAt nowMs).routingTerminal.ingestedAtMs.toNat : Int) = max nowMs.toInt 0 ∧
      (record.receivedAt nowMs).routingTerminal.ingestedAtMs < 9223372036854775808 := by
  have upper := nowMs.toInt_lt
  show ((UInt64.ofNat (max (max nowMs.toInt 0) 0).toNat).toNat : Int) = _ ∧
    UInt64.ofNat (max (max nowMs.toInt 0) 0).toNat < 9223372036854775808
  have small : (max (max nowMs.toInt 0) 0).toNat < 2 ^ 63 := by omega
  have exact_ : (UInt64.ofNat (max (max nowMs.toInt 0) 0).toNat).toNat =
      (max (max nowMs.toInt 0) 0).toNat :=
    UInt64.toNat_ofNat_of_lt' (small.trans (by decide))
  refine ⟨by rw [exact_]; omega, UInt64.lt_iff_toNat_lt.mpr ?_⟩
  rw [exact_]
  exact small

theorem routingTerminal_receivedAt (record : AttemptTerminalWrite) (nowMs : Int64) :
    (record.receivedAt nowMs).routingTerminal = { record.routingTerminal with
      ingestedAtMs := (record.receivedAt nowMs).routingTerminal.ingestedAtMs } := rfl

theorem SameTerminal.received {current : TerminalColumns} {terminal : RoutingAttemptTerminal}
    {canonical : CanonicalTerminal} {ingestedAtMs ingestedAtMs' : UInt64}
    (same : SameTerminal current { terminal with ingestedAtMs } canonical) :
    SameTerminal current { terminal with ingestedAtMs := ingestedAtMs' } canonical :=
  ⟨same.terminalState, same.outcome, same.failureCode, same.failureAttribution,
    same.eventAtMs, same.observedAtMs, same.latencyMs, same.comparabilityKey,
    same.retryDisposition, same.small⟩

/-- Received again, a stored terminal is the same if and only if the time is. -/
theorem validateDuplicate_received {columns : TerminalColumns} {canonical : CanonicalTerminal}
    (stored : validateDuplicateTerminal columns (record.receivedAt receivedMs).routingTerminal
      canonical = .ok ()) :
    validateDuplicateTerminal columns (record.receivedAt nowMs).routingTerminal canonical =
      .ok () ↔ max nowMs.toInt 0 = max receivedMs.toInt 0 := by
  obtain ⟨same, -, ingested⟩ := validateDuplicateTerminal_ok.mp stored
  obtain ⟨received, -⟩ := ingestedAtMs_receivedAt record receivedMs
  obtain ⟨now, small⟩ := ingestedAtMs_receivedAt record nowMs
  have same' : SameTerminal columns (record.receivedAt nowMs).routingTerminal canonical := by
    rw [routingTerminal_receivedAt] at same ⊢
    exact same.received
  rw [validateDuplicateTerminal_ok, and_iff_right same', and_iff_right small, ingested, received,
    now]
  exact eq_comm

/-- A delivery settles its attempt. -/
theorem terminalize_settles (kept : Kept ledger) {result : RoutingAttemptTerminalResult}
    (h : ledger.terminalize (record.receivedAt receivedMs).routingTerminal =
      .ok (result, ledger')) :
    ∃ row canonical, Settled ledger' record receivedMs row canonical := by
  unfold terminalize at h
  split at h
  case h_2 => cases h
  rename_i current found
  simp only [bind_ok, Prod.exists] at h
  obtain ⟨canonical, isCanonical, late, audited, isAudited, h⟩ := h
  obtain ⟨isLate, attempts, clusters, same⟩ := auditLateTerminalIfFinalized_ok isAudited
  cases late with
  | true =>
    simp only [if_true, pure_ok, Prod.mk.injEq] at h
    obtain ⟨-, rfl⟩ := h
    have finalized : audited.finalized current.correlationId = true := by
      rw [isLate, Ledger.finalized, Ledger.finalized, clusters]
    have ended := kept.ended current (lookup_some found).1 isLate.symm
    have observed : record.routingTerminal.observedAtMs < 9223372036854775808 := by
      rw [auditLateTerminalIfFinalized, if_pos isLate.symm] at isAudited
      simp only [bind_ok] at isAudited
      obtain ⟨column, isColumn, -⟩ := isAudited
      exact (toColumn_ok.mp isColumn).1
    exact ⟨current, canonical, (congrArg (lookup _ · _) attempts).trans found, ended, isCanonical,
      observed, .inl finalized⟩
  | false =>
    obtain rfl := same rfl
    simp only [Bool.false_eq_true, if_false] at h
    split at h
    · rename_i columns isStored
      simp only [bind_ok, pure_ok, Prod.mk.injEq] at h
      obtain ⟨_, duplicate, -, rfl⟩ := h
      obtain ⟨agrees, -, -⟩ := validateDuplicateTerminal_ok.mp duplicate
      exact ⟨current, canonical, found, by rw [AttemptRow.pending, isStored]; rfl, isCanonical,
        agrees.small.2.1, .inr ⟨columns, isStored, duplicate⟩⟩
    · rename_i pending
      simp only [bind_ok, pure_ok, Prod.mk.injEq] at h
      obtain ⟨columns, isColumns, _, written, -, rfl⟩ := h
      have id : (current.terminalized columns audited.nextSequence).attemptId = record.attemptId :=
        (lookup_some found).2
      obtain ⟨small, isColumns⟩ := terminalColumns_ok.mp isColumns
      simp only [List.forall_mem_cons] at small
      obtain ⟨event, observed, ingested, latency, -⟩ := small
      have duplicate : validateDuplicateTerminal columns
          (record.receivedAt receivedMs).routingTerminal canonical = .ok () := by
        rw [isColumns]
        exact validateDuplicateTerminal_ok.mpr
          ⟨⟨rfl, rfl, rfl, rfl, rfl, rfl, rfl, rfl, rfl, event, observed, latency⟩, ingested, rfl⟩
      have here : audited.attempt (current.terminalized columns audited.nextSequence).attemptId =
          some current := by
        rw [id]
        exact found
      have now := attempt_written written here
      rw [id] at now
      exact ⟨current.terminalized columns audited.nextSequence, canonical, now, rfl, isCanonical,
        observed, .inr ⟨columns, rfl, duplicate⟩⟩

/-- The row of the attempt belongs to a request that is finalized. -/
def AttemptFinalized (ledger : Ledger) (attemptId : String) : Prop :=
  ∃ row, ledger.attempt attemptId = some row ∧ ledger.finalized row.correlationId = true

/-- A settled attempt takes its terminal again at the time it was received at, or when its
request is finalized; only the audit can change then. -/
theorem Settled.terminalize_iff {row : AttemptRow} {canonical : CanonicalTerminal}
    (settled : Settled ledger record receivedMs row canonical) :
    (∃ result ledger', ledger.terminalize (record.receivedAt nowMs).routingTerminal =
      .ok (result, ledger')) ↔
      max nowMs.toInt 0 = max receivedMs.toInt 0 ∨ ledger.AttemptFinalized record.attemptId := by
  have isCanonical : canonicalTerminal (record.receivedAt nowMs).routingTerminal
      row.boundaryCrossed = .ok canonical := settled.isCanonical
  have found : ledger.attempt (record.receivedAt nowMs).routingTerminal.attemptId = some row :=
    settled.attempt
  have finalized_iff : ledger.AttemptFinalized record.attemptId ↔
      ledger.finalized row.correlationId = true := by
    constructor
    · rintro ⟨row', found', finalized⟩
      obtain rfl := Option.some.inj (settled.attempt.symm.trans found')
      exact finalized
    · exact fun finalized => ⟨row, settled.attempt, finalized⟩
  rw [finalized_iff]
  unfold terminalize
  rw [found]
  dsimp only
  rw [isCanonical]
  cases late : ledger.finalized row.correlationId with
  | true =>
    refine iff_of_true ?_ (.inr rfl)
    have column := (@toColumn_ok record.routingTerminal.observedAtMs _).mpr
      ⟨settled.observed, rfl⟩
    have column : toColumn (record.receivedAt nowMs).routingTerminal.observedAtMs = _ := column
    rw [auditLateTerminalIfFinalized, if_pos late, column]
    exact ⟨_, _, rfl⟩
  | false =>
    obtain ⟨columns, stored, duplicate⟩ := settled.stored.resolve_left
      (by rw [late]; exact Bool.false_ne_true)
    have audited : ledger.auditLateTerminalIfFinalized row
        (record.receivedAt nowMs).routingTerminal = .ok (false, ledger) := by
      rw [auditLateTerminalIfFinalized, late]
      rfl
    rw [audited, stored, ← validateDuplicate_received duplicate,
      or_iff_left Bool.false_ne_true]
    show (∃ result ledger', (validateDuplicateTerminal columns
      (record.receivedAt nowMs).routingTerminal canonical >>= fun _ => _) = _) ↔ _
    simp only [then_ok, pure_ok]
    constructor
    · rintro ⟨_, _, same, -⟩
      exact same
    · exact fun same => ⟨_, _, same, rfl⟩

/-- Nothing but the audit changes when the attempt is settled. -/
theorem Settled.terminalize_audits {row : AttemptRow} {canonical : CanonicalTerminal}
    (settled : Settled ledger record receivedMs row canonical)
    {result : RoutingAttemptTerminalResult}
    (h : ledger.terminalize (record.receivedAt nowMs).routingTerminal = .ok (result, ledger')) :
    result.updated = false ∧ ledger' = { ledger with audits := ledger'.audits } := by
  have found : ledger.attempt (record.receivedAt nowMs).routingTerminal.attemptId = some row :=
    settled.attempt
  unfold terminalize at h
  rw [found] at h
  simp only [bind_ok, Prod.exists] at h
  obtain ⟨_, -, late, audited, isAudited, h⟩ := h
  obtain ⟨columns, stored⟩ : ∃ columns, row.terminal = some columns := by
    cases terminal : row.terminal with
    | none => exact absurd settled.ended (by simp [AttemptRow.pending, terminal])
    | some columns => exact ⟨columns, rfl⟩
  have same : audited = { ledger with audits := audited.audits } := by
    unfold auditLateTerminalIfFinalized at isAudited
    split at isAudited
    · simp only [bind_ok, pure_ok, Prod.mk.injEq] at isAudited
      obtain ⟨column, -, -, rfl⟩ := isAudited
      unfold audit
      split <;> rfl
    · obtain ⟨-, rfl⟩ := Prod.mk.inj (pure_ok.mp isAudited)
      rfl
  cases late with
  | true =>
    simp only [if_true, pure_ok, Prod.mk.injEq] at h
    obtain ⟨rfl, rfl⟩ := h
    exact ⟨rfl, same⟩
  | false =>
    simp only [Bool.false_eq_true, if_false, stored, then_ok, pure_ok, Prod.mk.injEq] at h
    obtain ⟨-, rfl, rfl⟩ := h
    exact ⟨rfl, same⟩

end Ledger

namespace RequestLog

variable {log : RequestLog} {record : AttemptTerminalWrite} {receivedMs nowMs : Int64}

/-! ### Redelivery -/

/-- The delivery ends well, says that the terminal is not new, and changes nothing but the
audit of late arrivals. Circuit, quality and health follow new terminals only. -/
def Idempotent (log : RequestLog) (record : AttemptTerminalWrite) (nowMs : Int64)
    (v3Active : Bool) : Prop :=
  ∃ result log', log.finishAttempt (record.receivedAt nowMs) v3Active = .ok (result, log') ∧
    result.inserted = false ∧
    log' = { log with ledger := { log.ledger with audits := log'.ledger.audits } }

theorem idempotent_iff (sound : log.Sound) {row : AttemptRow} {canonical : CanonicalTerminal}
    (settled : Ledger.Settled log.ledger record receivedMs row canonical) (v3Active : Bool) :
    log.Idempotent record nowMs v3Active ↔
      log.attempt record.requestId record.ordinal = some (.of record) ∧
        (max nowMs.toInt 0 = max receivedMs.toInt 0 ∨
          log.ledger.AttemptFinalized record.attemptId) := by
  have slotted : log.ledger.ensurePreCutoverRoutingAttemptSlot (record.receivedAt nowMs) v3Active =
      .ok log.ledger := by
    have present : (log.ledger.attempt (record.receivedAt nowMs).attemptId).isSome = true :=
      Option.isSome_iff_exists.mpr ⟨row, settled.attempt⟩
    rw [Ledger.ensurePreCutoverRoutingAttemptSlot, if_pos present]
    rfl
  rw [← settled.terminalize_iff]
  constructor
  · rintro ⟨result, log', h, -, unchanged⟩
    have finished := finishAttempt_ok h
    have logged : log.attempt record.requestId record.ordinal = some (.of record) := by
      have now : log'.attempt record.requestId record.ordinal = some (.of record) :=
        finished.attempt
      rw [unchanged] at now
      exact now
    obtain ⟨terminal, ended⟩ := finished.ledger
    rw [Ledger.finishAttempt, slotted] at ended
    exact ⟨logged, terminal, log'.ledger, ended⟩
  · rintro ⟨logged, result, ledger', ended⟩
    obtain ⟨-, audits⟩ := settled.terminalize_audits ended
    have here : log.attempt (record.receivedAt nowMs).requestId
        (record.receivedAt nowMs).ordinal = some (.of (record.receivedAt nowMs)) := logged
    have recorded : log.appendAttemptDecisionEvents (record.receivedAt nowMs) = .ok log :=
      appendAttemptDecisionEvents_recorded
        (sound.recorded record (lookup_some logged).1)
    refine ⟨⟨false, result.boundaryCrossed⟩, { log with ledger := ledger' }, ?_, rfl, ?_⟩
    · unfold finishAttempt
      rw [slotted]
      refine bind_ok.mpr ⟨_, rfl, ?_⟩
      rw [here]
      refine guard_ok.mpr ⟨not_not.mpr rfl, bind_ok.mpr ⟨log, recorded, ?_⟩⟩
      exact bind_ok.mpr ⟨_, ended, rfl⟩
    · rw [← audits]

/-- A record that was delivered once is delivered again without an effect, after whatever
else happened, if and only if the log still has the attempt and the clock reads the same or
the request is finalized. -/
theorem redelivery_idempotent (before later : List LogOperation) {result : AttemptPersistenceResult}
    {v3Active : Bool} (committed :
      (after before).finishAttempt (record.receivedAt receivedMs) v3Active = .ok (result, log))
    (nowMs : Int64) (v3Later : Bool) :
    (run step log later).Idempotent record nowMs v3Later ↔
      (run step log later).attempt record.requestId record.ordinal = some (.of record) ∧
        (max nowMs.toInt 0 = max receivedMs.toInt 0 ∨
          (run step log later).ledger.AttemptFinalized record.attemptId) := by
  have sound := (run_sound sound_initial before).1
  have finished := finishAttempt_ok committed
  obtain ⟨soundLog, -⟩ := finished.sound sound
  obtain ⟨soundLater, evolves⟩ := run_sound soundLog later
  obtain ⟨terminal, ended⟩ := finished.ledger
  unfold Ledger.finishAttempt at ended
  rw [bind_ok] at ended
  obtain ⟨next, slotted, ended⟩ := ended
  obtain ⟨kept, -⟩ := Ledger.ensureSlot_cases sound.kept slotted
  obtain ⟨row, canonical, settled⟩ := Ledger.terminalize_settles kept ended
  exact idempotent_iff soundLater (settled.evolves evolves) v3Later

def sampleRecord : AttemptTerminalWrite where
  requestId := "r"
  ordinal := 0
  stationId := "s"
  stationKeyId := "k"
  endpointRevision := 1
  credentialRevision := 1
  resolvedUpstreamModel := none
  comparabilityKey := none
  startedAtMs := 1
  terminalKind := "succeeded"
  failureKind := none
  failureBlame := none
  retryDisposition := none
  healthEffect := "success"
  healthCooldownUntilMs := none
  publicCode := none
  sanitizedDetail := none
  outputCommitted := true
  eventAtMs := 4
  observedAtMs := 4
  ingestedAtMs := 0
  terminalAtMs := 4

/-- Delivered at 5. -/
def sampleLog : RequestLog :=
  (after [.startRequest "r" 1]).step (.deliver sampleRecord 5 false)

theorem sampleLog_delivered :
    (after [.startRequest "r" 1]).finishAttempt (sampleRecord.receivedAt 5) false =
      .ok (⟨true, true⟩, sampleLog) := by
  decide +kernel

/-- At the time of its first delivery the record is the same. -/
theorem redelivery_idempotent_same : sampleLog.Idempotent sampleRecord 5 true :=
  (redelivery_idempotent [.startRequest "r" 1] [] sampleLog_delivered 5 true).mpr
    ⟨by decide +kernel, .inl rfl⟩

/-- One millisecond later it is not. -/
theorem redelivered_later_rejected :
    (sampleLog.attempt "r" 0 = some (.of sampleRecord)) ∧
      sampleLog.finishAttempt (sampleRecord.receivedAt 6) false =
        .error duplicateMismatch := by
  decide +kernel

end RequestLog

end RelayPool.Attempts
