import RelayPool.Circuit.Columns
import RelayPool.Circuit.Once

/-! A circuit survives in its row.

`RoundTrips` is one write: the columns of a reached circuit read back as its status, by
both readers, and rebuild it under any policy; a number no column holds fails the write, and
so does a lease id of no or of more than 160 characters.
`Survives` is a whole history: the row of the store reads back as the circuit that was
kept in memory and given the same operations, and the store answered as that circuit did.
The main result is `circuit_survives`. -/
namespace RelayPool.Circuit
open StationKeyCircuit Fallible

/-! ### One write -/

/-- A conversion fails in one way. -/
def Converts {α : Type} (x : Except PersistenceError α) : Prop :=
  x = .error .constraintViolation ∨ ∃ a, x = .ok a

section Converts
variable {α β : Type} {x : Except PersistenceError α} {f : α → Except PersistenceError β}

theorem Converts.bind (converts : Converts x) (rest : ∀ a, Converts (f a)) :
    Converts (x >>= f) := by
  rcases converts with rfl | ⟨a, rfl⟩
  · exact .inl rfl
  · exact rest a

theorem Converts.refused (converts : Converts x)
    (rest : ∀ a, x = .ok a → f a = .error .constraintViolation) :
    x >>= f = .error .constraintViolation := by
  rcases converts with rfl | ⟨a, rfl⟩
  · rfl
  · exact rest a rfl

theorem sqliteInteger_converts (value : UInt64) : Converts (sqliteInteger value) := by
  unfold sqliteInteger
  split
  · exact .inr ⟨_, rfl⟩
  · exact .inl rfl

theorem sqliteOptional_converts (value : Option UInt64) : Converts (sqliteOptional value) := by
  cases value with
  | none => exact .inr ⟨none, rfl⟩
  | some v => exact (sqliteInteger_converts v).bind fun a => .inr ⟨some a, rfl⟩

theorem stateValues_converts (state : StationKeyCircuitState) : Converts (stateValues state) := by
  cases state with
  | closed => exact .inr ⟨_, rfl⟩
  | «open» =>
    exact (sqliteInteger_converts _).bind fun _ => (sqliteInteger_converts _).bind fun _ =>
      .inr ⟨_, rfl⟩
  | halfOpen =>
    exact (sqliteInteger_converts _).bind fun _ => (sqliteOptional_converts _).bind fun _ =>
      .inr ⟨_, rfl⟩

end Converts

/-- A number that no column holds fails the write. -/
theorem updateStateCas_refused {db : CircuitDb} {expected now : UInt64} {c : StationKeyCircuit}
    (above : ¬ NumbersFit c.status) :
    db.updateStateCas expected c.policyRevision c.leasePolicy c.state now =
      .error .constraintViolation := by
  unfold CircuitDb.updateStateCas
  refine (sqliteInteger_converts _).refused fun _ _ => ?_
  refine (sqliteInteger_converts _).refused fun _ _ => ?_
  refine (sqliteInteger_converts _).refused fun _ policyRevision => ?_
  refine (sqliteInteger_converts _).refused fun _ _ => ?_
  refine (stateValues_converts _).refused fun values bound => ?_
  refine (sqliteInteger_converts _).refused fun _ revision => ?_
  refine (sqliteOptional_converts _).refused fun _ leasePolicyRevision => ?_
  refine (sqliteOptional_converts _).refused fun _ leaseWait => ?_
  -- with every conversion done, every number has been seen to fit
  obtain ⟨rfl, times, leaseRevision, expiry⟩ := stateValues_ok.mp bound
  have revision := (sqliteInteger_ok.mp revision).1
  rw [StateValues.of_stateRevision] at revision
  refine absurd (numbersFit_iff.mpr ⟨(sqliteInteger_ok.mp policyRevision).1,
    numbers_fit_iff.mpr ⟨revision, times, leaseRevision, expiry⟩, fun policy given => ?_⟩) above
  have given : c.leasePolicy = some policy := given
  rw [given] at leasePolicyRevision leaseWait
  exact ⟨(sqliteOptional_ok.mp leasePolicyRevision).1 _ rfl, (sqliteOptional_ok.mp leaseWait).1 _ rfl⟩

/-- A write finds the row at the revision expected. -/
theorem updateStateCas_found {db db' : CircuitDb} {expected now : UInt64} {c : StationKeyCircuit}
    (written : db.updateStateCas expected c.policyRevision c.leasePolicy c.state now = .ok db') :
    ∃ row, db.row = some row ∧ row.values.stateRevision = expected := by
  simp only [CircuitDb.updateStateCas, bind_ok] at written
  obtain ⟨_, -, _, -, _, -, _, -, _, -, _, -, _, -, _, -, written⟩ := written
  cases found : db.row with
  | none =>
    rw [found] at written
    cases written
  | some row =>
    rw [found] at written
    refine ⟨row, rfl, ?_⟩
    by_contra other
    simp only [other, not_false_eq_true, ne_eq, if_true] at written
    cases written

/-- The row of a circuit across a restart. -/
structure RoundTrips (c : StationKeyCircuit) : Prop where
  written : ∀ (db : CircuitDb) row expected now, db.row = some row →
    row.values.stateRevision = expected → db.key.lifecycleRevision < 9223372036854775808 →
    now < 9223372036854775808 → expected < 9223372036854775808 → NumbersFit c.status →
    (∀ lease, c.state.leaseId = some lease → textFits lease) →
    ∃ row', db.updateStateCas expected c.policyRevision c.leasePolicy c.state now =
        .ok { db with row := some row' } ∧
      boundColumns c.policyRevision c.leasePolicy c.state = .ok row'.columns ∧
      columnsToStatus row'.columns = .ok c.status ∧
      ∀ lease, c.state.leaseId = some lease →
        columnsExpiredLease row'.columns = .ok (lease, c.status)
  accepted : ∀ v : ValidConfig, fromState v.config c.policyRevision c.leasePolicy c.state =
    .ok (c.withConfig v.config)
  unnamed : ∀ lease, c.state.leaseId = some lease → ¬ textFits lease →
    ∀ (db : CircuitDb) expected now,
      ∃ e, db.updateStateCas expected c.policyRevision c.leasePolicy c.state now = .error e
  refused : ¬ NumbersFit c.status → ∀ (db : CircuitDb) expected now,
    db.updateStateCas expected c.policyRevision c.leasePolicy c.state now =
        .error .constraintViolation ∧
      ∀ columns, boundColumns c.policyRevision c.leasePolicy c.state ≠ .ok columns

theorem Sound.columnsExpiredLease_of {c : StationKeyCircuit} (h : Sound c) {lease : String}
    (active : c.state.leaseId = some lease) (crossed : Option Bool) :
    columnsExpiredLease (CircuitRow.of c.status crossed).columns = .ok (lease, c.status) := by
  have held : c.state.leaseId.isSome := by rw [active]; rfl
  exact RelayPool.Circuit.columnsExpiredLease_of active (h.lease.trans held) (h.expiry ▸ held) crossed

theorem Sound.roundTrips {c : StationKeyCircuit} (h : Sound c) : RoundTrips c where
  written db row expected now found same key time bound fits lease :=
    have statusFits : StatusFits c.status := statusFits_iff.mpr ⟨fits, lease⟩
    ⟨_, (updateStateCas_ok found same h).mpr ⟨⟨key, time, bound, statusFits⟩, rfl⟩,
      boundColumns_ok.mpr ⟨fits, rfl⟩, columnsToStatus_of fits none,
      fun _ active => h.columnsExpiredLease_of active none⟩
  accepted v := (h.withConfig v).fromState v
  unnamed lease active unfit db expected now := by
    cases written : db.updateStateCas expected c.policyRevision c.leasePolicy c.state now with
    | error e => exact ⟨e, rfl⟩
    | ok db' =>
      obtain ⟨row, found, same⟩ := updateStateCas_found written
      have fits := ((updateStateCas_ok found same h).mp written).1.2.2.2
      exact absurd (fits.lease lease active) unfit
  refused above db expected now :=
    ⟨updateStateCas_refused above, fun _ bound => above (boundColumns_ok.mp bound).1⟩

/-! ### A whole history -/

section History
variable {db db' : CircuitDb} {input : CircuitTerminalInput} {result : CircuitTerminalResult}

theorem auditLate_result {status : StationKeyCircuitStatus} {now : UInt64}
    (h : db.auditLate status input now = .ok (result, db')) :
    result.transition = .ignoredLateResult ∧ result.stateRevision = status.state.stateRevision := by
  simp only [CircuitDb.auditLate, bind_ok, pure_ok, Prod.exists, Prod.mk.injEq] at h
  obtain ⟨sequence, logged, -, rfl, -⟩ := h
  exact ⟨rfl, rfl⟩

theorem applyTerminal_result {status : StationKeyCircuitStatus} {c : StationKeyCircuit}
    {transition : CircuitTransition} {now : UInt64}
    (h : db.applyTerminal status c transition input now = .ok (result, db')) :
    result.transition = transition ∧ result.stateRevision = c.state.stateRevision := by
  simp only [CircuitDb.applyTerminal, bind_ok, pure_ok, Prod.exists, Prod.mk.injEq] at h
  obtain ⟨written, -, sequence, logged, -, rfl, -⟩ := h
  exact ⟨rfl, rfl⟩

/-- A first result that names no other lease gets the reducer's answer. -/
theorem finishAttempt_result (hs : StoreSound db) (h : db.finishAttempt input = .ok (result, db'))
    (fresh : ¬ HasEvent db.events .circuit input.attemptId)
    (named : leaseRevisionMismatch (db.status input.policy.policyRevision) input = false) :
    ∃ c, ((db.status input.policy.policyRevision).circuit input.policy.config).finish
        (max db.watermarkMs input.nowMs) input.leaseId input.success
        (input.boundaryCrossed && input.affectsCircuit) = .ok (result.transition, c) ∧
      result.stateRevision = c.state.stateRevision := by
  simp only [CircuitDb.finishAttempt, bind_ok, ite_ok, throw_ok, false_and, exists_false, and_false,
    false_or, Prod.exists, advanceCircuitClock_ok, and_assoc, exists_and_left, exists_eq_left,
    not_or] at h
  obtain ⟨hr, -, -, -, h⟩ := h
  obtain ⟨holds, durable⟩ := hs.status hr
  simp only [ensureState_ok holds hr, and_assoc, exists_and_left, exists_eq_left] at h
  obtain ⟨-, -, -, h⟩ := h
  have unseen : db.events.find? (fun e => e.effectKind = .circuit ∧ e.attemptId = input.attemptId) =
      none := by
    refine List.find?_eq_none.mpr fun e member same => fresh ⟨e, member, ?_⟩
    simpa using same
  rw [unseen] at h
  dsimp only at h
  rw [named, if_neg Bool.false_ne_true] at h
  obtain ⟨reducer, built, h⟩ := bind_ok.mp h
  cases (durable.fromState (input.policy.validConfig hr)).symm.trans (mapError_ok.mp built)
  obtain ⟨⟨transition, c⟩, finished, h⟩ := bind_ok.mp h
  have finished := mapError_ok.mp finished
  refine ⟨c, ?_⟩
  rw [ite_ok] at h
  rcases h with ⟨ignored, h⟩ | ⟨-, h⟩
  · obtain rfl : transition = .ignoredLateResult := ignored
    obtain rfl := ignored_same finished
    obtain ⟨same, revision⟩ := auditLate_result h
    rw [same, revision]
    exact ⟨finished, rfl⟩
  · obtain ⟨same, revision⟩ := applyTerminal_result h
    rw [same, revision]
    exact ⟨finished, rfl⟩

end History

/-- The store after a history and the circuit in memory after the same operations. -/
structure Survives (key : CircuitKey) (ops : List StoreOp) (memory : OnceCircuit) : Prop where
  row : (history key ops).row.map (fun row => columnsToStatus row.columns) =
    memory.circuit.map .ok
  reaper : ∀ row now, (history key ops).row = some row → row.expired now →
    ∃ status lease, memory.circuit = some status ∧ status.state.leaseId = some lease ∧
      columnsExpiredLease row.columns = .ok (lease, status)
  accepted : ∀ status, memory.circuit = some status → ∀ v : ValidConfig,
    fromState v.config status.policyRevision status.leasePolicy status.state =
      .ok (status.circuit v.config)
  admits : ∀ policy now deadline attemptId result db',
    (history key ops).admitAttempt policy now deadline attemptId = .ok (result, db') →
    ∃ admission c, ((memory.found policy.policyRevision).circuit policy.config).admitAttempt
        (memory.tick now).clockMs deadline attemptId = .ok (admission, c) ∧
      result = admissionResult c admission
  finishes : ∀ input result db', (history key ops).finishAttempt input = .ok (result, db') →
    input.attemptId ∉ memory.delivered →
    leaseRevisionMismatch (memory.found input.policy.policyRevision) input = false →
    ∃ c, ((memory.found input.policy.policyRevision).circuit input.policy.config).finish
        (memory.tick input.nowMs).clockMs input.leaseId input.success
        (input.boundaryCrossed && input.affectsCircuit) = .ok (result.transition, c) ∧
      result.stateRevision = c.state.stateRevision

theorem expired_active {status : StationKeyCircuitStatus} {crossed : Option Bool} {now : UInt64}
    (h : (CircuitRow.of status crossed).expired now) : status.state.leaseId.isSome := by
  obtain ⟨policyRevision, leasePolicy, state⟩ := status
  cases state with
  | closed => cases h
  | «open» => cases h
  | halfOpen r active lr e n l =>
    cases active with
    | none => cases h
    | some lease => rfl

theorem Agrees.survives {key : CircuitKey} {ops : List StoreOp} {memory : OnceCircuit}
    (agrees : Agrees (history key ops) memory) : Survives key ops memory := by
  have sound := history_sound key ops
  have kept : ∀ status, memory.circuit = some status →
      Durable status ∧ NumbersFit status := by
    intro status found
    obtain ⟨status', ⟨crossed, same⟩, durable, fits⟩ := sound.row _ (by rw [agrees.row, found]; rfl)
    obtain ⟨rfl, -⟩ := CircuitRow.of_inj same
    exact ⟨durable, (statusFits_iff.mp fits).1⟩
  constructor
  · rw [agrees.row]
    cases found : memory.circuit with
    | none => rfl
    | some status => exact congrArg some (columnsToStatus_of (kept status found).2 _)
  · intro row now found expired
    rw [agrees.row] at found
    obtain ⟨status, circuit, rfl⟩ := Option.map_eq_some_iff.mp found
    obtain ⟨lease, active⟩ := Option.isSome_iff_exists.mp (expired_active expired)
    obtain ⟨v, steps, rfl⟩ := (kept status circuit).1
    exact ⟨_, lease, circuit, active, (reach_sound v steps).columnsExpiredLease_of active _⟩
  · intro status found v
    exact (kept status found).1.fromState v
  · intro policy now deadline attemptId result db' h
    obtain ⟨hr, hid⟩ := admitAttempt_requires h
    obtain ⟨-, admission, c, admitted, -, same, -⟩ := (admitAttempt_ok sound hr hid).mp h
    rw [agrees.status, agrees.clock] at admitted
    exact ⟨admission, c, admitted, same⟩
  · intro input result db' h fresh named
    rw [← agrees.delivered] at fresh
    rw [← agrees.status] at named
    have answered := finishAttempt_result sound h fresh named
    rw [agrees.status, agrees.clock] at answered
    exact answered

/-- Written or refused, a circuit is never changed by its row: the store runs the reducer. -/
theorem circuit_survives :
    (∀ v steps, RoundTrips (reach v steps)) ∧
      ∀ key ops, Survives key ops (takenOnce leaseRevisionMismatch key ops) :=
  ⟨fun v steps => (reach_sound v steps).roundTrips, fun key ops => (history_agrees key ops).survives⟩

/-! ### A lease id the table refuses -/

def longLease : String := .ofList (List.replicate 161 'a')

def plainValidConfig : ValidConfig := plainPolicy.validConfig (by decide)

def openingStep : CircuitStep := ⟨plainValidConfig, .finish 0 none false true⟩

def longLeaseStep : CircuitStep := ⟨plainValidConfig, .admitAttempt 1 9 longLease⟩

/-- The row of the Open circuit that the probe is admitted to. -/
def openedDb : CircuitDb :=
  ⟨plainKey, 0, some (.of (reach plainValidConfig [openingStep]).status none), []⟩

theorem sqliteLength_replicate (n : Nat) : sqliteLength (.ofList (.replicate n 'a')) = n := by
  simp [sqliteLength]

theorem longLease_unfit : ¬ textFits longLease := by
  have whole : sqliteLength longLease = 161 := sqliteLength_replicate 161
  simp [textFits, whole]

theorem probing_numbersFit :
    NumbersFit (reach plainValidConfig [openingStep, longLeaseStep]).status := by
  have small : ((reach plainValidConfig [openingStep, longLeaseStep]).status.numbers.all
      (· < 9223372036854775808)) = true := by decide +kernel
  exact fun n mem => of_decide_eq_true (List.all_eq_true.mp small n mem)

/-- The circuit in memory takes a lease of any id, its row does not. -/
theorem long_lease_refused :
    ¬ ∀ (v : ValidConfig) (steps : List CircuitStep) (db : CircuitDb) (row : CircuitRow)
      (now : UInt64), db.key.Fits → db.row = some row → now < 9223372036854775808 →
      row.values.stateRevision < 9223372036854775808 → NumbersFit (reach v steps).status →
      ∃ row', db.updateStateCas row.values.stateRevision (reach v steps).policyRevision
        (reach v steps).leasePolicy (reach v steps).state now =
          .ok { db with row := some row' } := by
  intro all
  obtain ⟨row', written⟩ := all plainValidConfig [openingStep, longLeaseStep] openedDb _ 1
    ⟨by decide, by decide, by decide⟩ rfl (by decide) (by decide +kernel) probing_numbersFit
  obtain ⟨e, refused⟩ := (reach_sound plainValidConfig [openingStep, longLeaseStep]).roundTrips.unnamed
    longLease (by decide +kernel) longLease_unfit openedDb _ 1
  rw [refused] at written
  cases written

end RelayPool.Circuit
