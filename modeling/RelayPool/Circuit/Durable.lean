import RelayPool.Circuit.Store

/-! The durable circuit refines the reducer.

`Durable` says a stored status is what a run of the reducer leaves. Each
operation of the store reads such a status and, when it writes, writes the one
the reducer's next step leaves (`admitAttempt_ok`, `finishAttempt_ok`,
`reapExpiredLeases_ok`), so it holds of every row of every history
(`history_sound`). -/
namespace RelayPool.Circuit
open StationKeyCircuit Fallible

/-! ### Conversions, clock and lookup -/

theorem sqliteInteger_ok {value result : UInt64} :
    sqliteInteger value = .ok result ↔ value < 9223372036854775808 ∧ value = result := by
  unfold sqliteInteger
  split
  · rename_i hlt
    exact ⟨fun h => ⟨hlt, Except.ok.inj h⟩, fun h => congrArg _ h.2⟩
  · rename_i hge
    exact ⟨nofun, fun h => absurd h.1 hge⟩

theorem sqliteOptional_ok {value result : Option UInt64} :
    sqliteOptional value = .ok result ↔
      (∀ v, value = some v → v < 9223372036854775808) ∧ value = result := by
  cases value with
  | none =>
    show pure none = Except.ok result ↔ _
    simp [pure_ok]
  | some v =>
    show sqliteInteger v >>= (fun v => pure (some v)) = .ok result ↔ _
    simp only [bind_ok, sqliteInteger_ok, pure_ok, and_assoc, exists_and_left, exists_eq_left']
    simp

theorem advanceCircuitClock_ok {db db' : CircuitDb} {now logical : UInt64} :
    db.advanceCircuitClock now = .ok (logical, db') ↔ now < 9223372036854775808 ∧
      logical = max db.watermarkMs now ∧
      db' = { db with watermarkMs := max db.watermarkMs now } := by
  simp only [CircuitDb.advanceCircuitClock, bind_ok, sqliteInteger_ok, pure_ok, Prod.mk.injEq]
  constructor
  · rintro ⟨sampled, ⟨hlt, rfl⟩, rfl, rfl⟩
    exact ⟨hlt, rfl, rfl⟩
  · rintro ⟨hlt, rfl, rfl⟩
    exact ⟨now, ⟨hlt, rfl⟩, rfl, rfl⟩

/-- The status an operation finds: the row's, or a new circuit's. -/
def CircuitDb.status (db : CircuitDb) (policyRevision : UInt64) : StationKeyCircuitStatus :=
  match db.row with
  | some row => ((rowToStatus row).toOption).getD ⟨policyRevision, none, .initial⟩
  | none => ⟨policyRevision, none, .initial⟩

/-- What a run of the reducer leaves in a row. -/
def Durable (status : StationKeyCircuitStatus) : Prop :=
  ∃ v steps, (reach v steps).status = status

theorem Durable.sound {status : StationKeyCircuitStatus} (h : Durable status) (v : ValidConfig) :
    Sound (status.circuit v.config) := by
  obtain ⟨v', steps, rfl⟩ := h
  exact (reach_sound v' steps).withConfig v

theorem Durable.fromState {status : StationKeyCircuitStatus} (h : Durable status)
    (v : ValidConfig) : StationKeyCircuit.fromState v.config status.policyRevision
      status.leasePolicy status.state = .ok (status.circuit v.config) :=
  (h.sound v).fromState v

/-- A step of the reducer on a stored status leaves a status that can be stored. -/
theorem Durable.step {status : StationKeyCircuitStatus} (h : Durable status) (s : CircuitStep) :
    Durable (RelayPool.Circuit.step (status.circuit s.config.config) s).status := by
  obtain ⟨v', steps, rfl⟩ := h
  refine ⟨v', steps ++ [s], ?_⟩
  rw [reach_concat]
  rfl

theorem CircuitPolicy.config_valid {policy : CircuitPolicy} (h : policy.policyRevision ≠ 0) :
    policy.config.validate = .ok policy.config := by
  have hone16 (a : UInt16) : max a 1 ≠ 0 := fun h0 => by
    have := congrArg UInt16.toNat h0
    simp [UInt16.toNat_max] at this
  refine validate_ok.mpr ⟨h, hone16 _, hone16 _, fun h0 => ?_, ?_⟩
  · have := congrArg UInt64.toNat h0
    simp [CircuitPolicy.config, UInt64.toNat_max] at this
  · rw [UInt64.le_iff_toNat_le]
    simp only [CircuitPolicy.config, UInt64.toNat_max, maxCooldownMs]
    simp only [UInt64.reduceToNat]
    omega

/-- The config of a policy with a revision. -/
def CircuitPolicy.validConfig (policy : CircuitPolicy) (h : policy.policyRevision ≠ 0) :
    ValidConfig := ⟨policy.config, config_valid h⟩

theorem initial_durable {revision : UInt64} (h : revision ≠ 0) :
    Durable ⟨revision, none, .initial⟩ :=
  ⟨CircuitPolicy.validConfig ⟨revision, 1, 1, 1⟩ h, [], rfl⟩

/-- The row of a status, with whatever is known of its outbound boundary. -/
def Holds (row : CircuitRow) (status : StationKeyCircuitStatus) : Prop :=
  ∃ crossed, row = .of status crossed

theorem Holds.read {row : CircuitRow} {status : StationKeyCircuitStatus} (h : Holds row status) :
    rowToStatus row = .ok status := by
  obtain ⟨crossed, rfl⟩ := h
  exact rowToStatus_of ..

theorem Holds.stateRevision {row : CircuitRow} {status : StationKeyCircuitStatus}
    (h : Holds row status) : row.values.stateRevision = status.state.stateRevision := by
  obtain ⟨crossed, rfl⟩ := h
  exact StateValues.of_stateRevision _

/-- The ranges a status has to keep to be written to a row. -/
structure StatusFits (c : StationKeyCircuitStatus) : Prop where
  policyRevision : c.policyRevision < 9223372036854775808
  stateRevision : c.state.stateRevision < 9223372036854775808
  leasePolicyRevision : ∀ r, c.leasePolicy.map (·.policyRevision) = some r →
    r < 9223372036854775808
  leaseWait : ∀ w, c.leasePolicy.map (·.recoveryWaitMs) = some w → w < 9223372036854775808
  times : ∀ r t u f l, c.state = .open r t u f l →
    t < 9223372036854775808 ∧ u < 9223372036854775808
  leaseRevision : ∀ r, c.state.leaseRevision = some r → r < 9223372036854775808
  expiry : ∀ expires, c.state.leaseExpiresAtMs = some expires → expires < 9223372036854775808
  lease : ∀ lease, c.state.leaseId = some lease → textFits lease

structure StoreSound (db : CircuitDb) : Prop where
  clock : db.watermarkMs < 9223372036854775808
  row : ∀ row, db.row = some row → ∃ status, Holds row status ∧ Durable status ∧ StatusFits status

/-- The row an operation finds, once it has made sure there is one. -/
def CircuitDb.foundRow (db : CircuitDb) (revision : UInt64) : CircuitRow :=
  db.row.getD (.of ⟨revision, none, .initial⟩ none)

theorem initial_fits {revision : UInt64} (hr : revision < 9223372036854775808) :
    StatusFits ⟨revision, none, .initial⟩ where
  policyRevision := hr
  stateRevision := show (1 : UInt64) < 9223372036854775808 by decide
  leasePolicyRevision := nofun
  leaseWait := nofun
  times := nofun
  leaseRevision := nofun
  expiry := nofun
  lease := nofun

theorem StoreSound.status {db : CircuitDb} (h : StoreSound db) {revision : UInt64}
    (hr : revision ≠ 0) : Holds (db.foundRow revision) (db.status revision) ∧
      Durable (db.status revision) := by
  unfold CircuitDb.status CircuitDb.foundRow
  cases hrow : db.row with
  | none => exact ⟨⟨none, rfl⟩, initial_durable hr⟩
  | some row =>
    obtain ⟨status, hholds, hdurable, -⟩ := h.row row hrow
    dsimp only
    rw [hholds.read]
    exact ⟨hholds, hdurable⟩

theorem StoreSound.status_fits {db : CircuitDb} (h : StoreSound db) {revision : UInt64}
    (hr : revision < 9223372036854775808) : StatusFits (db.status revision) := by
  unfold CircuitDb.status
  cases hrow : db.row with
  | none => exact initial_fits hr
  | some row =>
    obtain ⟨status, hholds, -, hfits⟩ := h.row row hrow
    dsimp only
    rw [hholds.read]
    exact hfits

/-- A key the tables accept. -/
structure CircuitKey.Fits (key : CircuitKey) : Prop where
  stationKeyId : textFits key.stationKeyId
  positive : 0 < key.lifecycleRevision
  lifecycleRevision : key.lifecycleRevision < 9223372036854775808

theorem initial_check {revision : UInt64} (hr : revision ≠ 0) :
    (CircuitRow.of ⟨revision, none, .initial⟩ none).check = true := by
  have hpos : 0 < revision := UInt64.pos_iff_ne_zero.mpr hr
  simp [CircuitRow.check, CircuitRow.of, StateValues.of, StationKeyCircuitState.initial, hpos]

/-- Making sure there is a row, at whatever time the clock has reached. -/
theorem ensureState_ok {db db' : CircuitDb} {revision clock now : UInt64}
    {status : StationKeyCircuitStatus} (hholds : Holds (db.foundRow revision) (db.status revision))
    (hr : revision ≠ 0) :
    { db with watermarkMs := clock }.ensureState revision now = .ok (status, db') ↔
      (db.key.Fits ∧ now < 9223372036854775808 ∧ revision < 9223372036854775808) ∧
      status = db.status revision ∧
      db' = { db with watermarkMs := clock, row := some (db.foundRow revision) } := by
  have hread : rowToStatus (db.row.getD _) = _ := hholds.read
  have hcheck := initial_check hr
  simp only [CircuitDb.ensureState, CircuitDb.loadStatus, bind_ok, sqliteInteger_ok, ite_ok,
    throw_ok, pure_ok, false_and, exists_false, and_false, false_or, and_assoc]
  constructor
  · rintro ⟨_, hlifecycle, -, _, hnow, -, _, hrevision, rfl, hkey, _, ⟨_, -, -, _, hstatus, rfl⟩,
      hresult⟩
    rw [hread] at hstatus
    cases hstatus
    cases hresult
    obtain ⟨hid, hpositive⟩ : textFits db.key.stationKeyId ∧ db.key.lifecycleRevision ≠ 0 := by
      simpa [hcheck] using hkey
    exact ⟨⟨hid, UInt64.pos_iff_ne_zero.mpr hpositive, hlifecycle⟩, hnow, hrevision, rfl, rfl⟩
  · rintro ⟨hkey, hnow, hrevision, rfl, rfl⟩
    exact ⟨_, hkey.lifecycleRevision, rfl, _, hnow, rfl, _, hrevision, rfl,
      by simp [hcheck, hkey.stationKeyId, hkey.positive], _,
      ⟨_, hkey.lifecycleRevision, rfl, _, hread, rfl⟩, rfl⟩

/-! ### Writes -/

/-- The row of a sound circuit breaks no constraint but the length of a lease's id. -/
theorem check_of {c : StationKeyCircuit} (hs : Sound c) :
    (CircuitRow.of c.status none).check = true ↔
      ∀ lease, c.state.leaseId = some lease → textFits lease := by
  obtain ⟨config, policyRevision, leasePolicy, state⟩ := c
  have hrevision : 0 < policyRevision := UInt64.pos_iff_ne_zero.mpr hs.revision
  have hnumbered := hs.numbered
  have hleaseNumbered := hs.leaseNumbered
  have hlease := hs.lease
  have hexpiry := hs.expiry
  cases state with
  | closed r f l =>
    obtain rfl : leasePolicy = none := by simpa using hlease
    simp only [StationKeyCircuitState.stateRevision] at hnumbered
    simp [CircuitRow.check, CircuitRow.of, StateValues.of, StationKeyCircuit.status, hrevision, hnumbered]
  | «open» r t u f l =>
    obtain rfl : leasePolicy = none := by simpa using hlease
    have hcooldown := hs.cooldown _ _ _ _ _ rfl
    simp only [StationKeyCircuitState.stateRevision] at hnumbered
    simp [CircuitRow.check, CircuitRow.of, StateValues.of, StationKeyCircuit.status, hrevision, hnumbered, hcooldown]
  | halfOpen r lease lr e n l =>
    simp only [StationKeyCircuitState.stateRevision, StationKeyCircuitState.leaseRevision,
      Option.all_some, decide_eq_true_eq] at hnumbered hleaseNumbered
    cases lease with
    | none =>
      obtain rfl : leasePolicy = none := by simpa using hlease
      obtain rfl : e = none := by simpa using hexpiry.symm
      simp [CircuitRow.check, CircuitRow.of, StateValues.of, StationKeyCircuit.status, hrevision, hnumbered, hleaseNumbered]
    | some lease =>
      obtain ⟨policy, rfl⟩ := Option.isSome_iff_exists.mp (by simpa using hlease)
      obtain ⟨expires, rfl⟩ := Option.isSome_iff_exists.mp (by simpa using hexpiry.symm)
      obtain ⟨hr, ht, hw⟩ := hs.policy policy rfl
      simp [CircuitRow.check, CircuitRow.of, StateValues.of, StationKeyCircuit.status, hrevision, hnumbered, hleaseNumbered,
        UInt64.pos_iff_ne_zero.mpr hr, UInt64.pos_iff_ne_zero.mpr hw, UInt16.pos_iff_ne_zero.mpr ht]

theorem stateValues_ok {c : StationKeyCircuit} {values : StateValues} :
    stateValues c.state = .ok values ↔ values = StateValues.of c.state ∧
      (∀ r t u f l, c.state = .open r t u f l →
        t < 9223372036854775808 ∧ u < 9223372036854775808) ∧
      (∀ r, c.state.leaseRevision = some r → r < 9223372036854775808) ∧
      ∀ expires, c.state.leaseExpiresAtMs = some expires → expires < 9223372036854775808 := by
  unfold stateValues
  cases hs : c.state with
  | closed r f l =>
    simp only [pure_ok]
    simp [eq_comm]
  | «open» r t u f l =>
    simp only [bind_ok, sqliteInteger_ok, pure_ok, and_assoc]
    constructor
    · rintro ⟨_, ht, -, _, hu, -, rfl⟩
      exact ⟨rfl, by rintro _ _ _ _ _ ⟨⟩; exact ⟨ht, hu⟩, by simp, by simp⟩
    · rintro ⟨rfl, htimes, -⟩
      obtain ⟨ht, hu⟩ := htimes _ _ _ _ _ rfl
      exact ⟨_, ht, rfl, _, hu, rfl, rfl⟩
  | halfOpen r lease lr e n l =>
    simp only [bind_ok, sqliteInteger_ok, sqliteOptional_ok, pure_ok, and_assoc]
    constructor
    · rintro ⟨_, hlr, -, _, he, -, rfl⟩
      exact ⟨rfl, by simp, by simpa using hlr, he⟩
    · rintro ⟨rfl, -, hlr, he⟩
      exact ⟨_, hlr _ rfl, rfl, _, he, rfl, rfl⟩

/-- The write succeeds on the row that was read when everything fits. -/
theorem updateStateCas_ok {db db' : CircuitDb} {row : CircuitRow} {c : StationKeyCircuit}
    {expected now : UInt64} (hrow : db.row = some row)
    (hexpected : row.values.stateRevision = expected) (hs : Sound c) :
    db.updateStateCas expected c.policyRevision c.leasePolicy c.state now = .ok db' ↔
      (db.key.lifecycleRevision < 9223372036854775808 ∧ now < 9223372036854775808 ∧
        expected < 9223372036854775808 ∧ StatusFits c.status) ∧
      db' = { db with row := some (.of c.status none) } := by
  have hcheck : (CircuitRow.of ⟨c.policyRevision, c.leasePolicy, c.state⟩ none).check = true ↔ _ :=
    check_of hs
  have hvalues := StateValues.of_stateRevision c.state
  simp only [CircuitDb.updateStateCas, bind_ok, sqliteInteger_ok, sqliteOptional_ok, stateValues_ok,
    hrow, ite_ok, throw_ok, pure_ok, hexpected, false_and, exists_false, and_false, false_or,
    and_assoc, ne_eq, not_true_eq_false]
  constructor
  · rintro ⟨_, hlifecycle, -, _, hfits, -, _, hpolicy, -, _, hnow, -, _, rfl, htimes, hlr, he, _,
      hrevision, -, _, hlp, -, _, hlw, -, -, hchecked, rfl⟩
    have hlease := hcheck.mp (by simpa using hchecked)
    exact ⟨hlifecycle, hnow, hfits,
      ⟨hpolicy, hvalues ▸ hrevision, hlp, hlw, htimes, hlr, he, hlease⟩, rfl⟩
  · rintro ⟨hlifecycle, hnow, hbound, hfits, rfl⟩
    exact ⟨_, hlifecycle, rfl, _, hbound, rfl, _, hfits.policyRevision, rfl, _, hnow, rfl, _, rfl,
      hfits.times, hfits.leaseRevision, hfits.expiry, _, hvalues.symm ▸ hfits.stateRevision, rfl, _,
      hfits.leasePolicyRevision, rfl, _, hfits.leaseWait, rfl, id,
      by simp [hcheck.mpr hfits.lease], rfl⟩

/-- The table already has an event of the kind for the attempt. -/
def HasEvent (events : List CircuitEvent) (kind : EffectKind) (attemptId : String) : Prop :=
  ∃ e ∈ events, e.effectKind = kind ∧ e.attemptId = attemptId

theorem hasEvent_append {events : List CircuitEvent} {event : CircuitEvent} {kind : EffectKind}
    {attemptId : String} : HasEvent (events ++ [event]) kind attemptId ↔
      HasEvent events kind attemptId ∨ (event.effectKind = kind ∧ event.attemptId = attemptId) := by
  simp [HasEvent, or_and_right, exists_or]

theorem insert_ok {db db' : CircuitDb} {event : CircuitEvent} (h : db.insert event = .ok db') :
    (db' = db ∧ HasEvent db.events event.effectKind event.attemptId) ∨
      (db' = { db with events := db.events ++ [event] } ∧
        ¬ HasEvent db.events event.effectKind event.attemptId) := by
  simp only [CircuitDb.insert, ite_ok, bind_ok, throw_ok, pure_ok, false_and, exists_false,
    and_false, false_or] at h
  obtain ⟨-, ⟨hdup, rfl⟩ | ⟨hnew, rfl⟩⟩ := h
  · exact .inl ⟨rfl, by simpa [HasEvent] using hdup⟩
  · exact .inr ⟨rfl, by simpa [HasEvent] using hnew⟩

theorem insertEvent_ok {db db' : CircuitDb} {input : CircuitTerminalInput} {expected : UInt64}
    {transition : CircuitTransition} {leaseRevision : Option UInt64} {policyRevision now : UInt64}
    {sequence : Nat} (h : db.insertEvent input expected transition leaseRevision policyRevision now =
      .ok (sequence, db')) : db.insert (db.terminalEvent input expected transition leaseRevision
        policyRevision now) = .ok db' := by
  simp only [CircuitDb.insertEvent, bind_ok, sqliteInteger_ok, sqliteOptional_ok, pure_ok] at h
  obtain ⟨_, -, _, -, _, -, _, -, _, -, _, -, _, hinsert, heq⟩ := h
  cases heq
  exact hinsert

theorem insertLeaseEvent_ok {db db' : CircuitDb} {attemptId : String} {leaseRevision : Option UInt64}
    {policyRevision expected now : UInt64} {crossed : Bool} {transition : CircuitTransition}
    (h : db.insertLeaseEvent attemptId leaseRevision policyRevision expected now crossed transition =
      .ok db') : db.insert (db.leaseEvent attemptId leaseRevision policyRevision expected now crossed
        transition) = .ok db' := by
  simp only [CircuitDb.insertLeaseEvent, bind_ok] at h
  obtain ⟨_, -, _, -, _, -, _, -, _, -, hinsert⟩ := h
  exact hinsert

/-! ### Admission -/

theorem StoreSound.withClock {db : CircuitDb} (h : StoreSound db) {now : UInt64}
    (hnow : now < 9223372036854775808) :
    StoreSound { db with watermarkMs := max db.watermarkMs now } where
  clock := by
    have hclock := h.clock
    rw [UInt64.lt_iff_toNat_lt] at hclock hnow ⊢
    rw [UInt64.toNat_max]
    exact max_lt hclock hnow
  row := h.row

theorem writeAdmission_ok {db db' : CircuitDb} {row : CircuitRow}
    {status : StationKeyCircuitStatus} {c : StationKeyCircuit} {clock now : UInt64}
    {a : CircuitAdmission} (hkey : db.key.Fits) (hnow : now < 9223372036854775808)
    (hholds : Holds row status) (hfits : StatusFits status) (hs : Sound c) :
    { db with watermarkMs := clock, row := some row }.writeAdmission status c a now = .ok db' ↔
      (Writes status c a → StatusFits c.status) ∧ db' = { db with
        watermarkMs := clock
        row := if Writes status c a then some (.of c.status none) else some row } := by
  unfold CircuitDb.writeAdmission
  split
  · rename_i hwrites
    rw [updateStateCas_ok rfl hholds.stateRevision hs]
    constructor
    · rintro ⟨⟨-, -, -, hc⟩, rfl⟩
      exact ⟨fun _ => hc, rfl⟩
    · rintro ⟨hc, rfl⟩
      exact ⟨⟨hkey.lifecycleRevision, hnow, hfits.stateRevision, hc hwrites⟩, rfl⟩
  · rename_i hwrites
    exact ⟨fun h => ⟨fun h' => absurd h' hwrites, (Except.ok.inj h).symm⟩,
      fun h => congrArg _ h.2.symm⟩

theorem admitAttempt_ok {db db' : CircuitDb} {policy : CircuitPolicy} {now deadline : UInt64}
    {attemptId : String} {result : CircuitAdmissionResult} (hs : StoreSound db)
    (hr : policy.policyRevision ≠ 0) (hid : attemptId.isEmpty = false) :
    db.admitAttempt policy now deadline attemptId = .ok (result, db') ↔
      (now < 9223372036854775808 ∧ db.key.Fits ∧ policy.policyRevision < 9223372036854775808) ∧
      ∃ admission c, ((db.status policy.policyRevision).circuit policy.config).admitAttempt
          (max db.watermarkMs now) deadline attemptId = .ok (admission, c) ∧
        (Writes (db.status policy.policyRevision) c admission → StatusFits c.status) ∧
        result = admissionResult c admission ∧
        db' = { db with
          watermarkMs := max db.watermarkMs now
          row := if Writes (db.status policy.policyRevision) c admission then some (.of c.status none)
            else some (db.foundRow policy.policyRevision) } := by
  obtain ⟨hholds, hdurable⟩ := hs.status hr
  have hcheck : ¬ (policy.policyRevision = 0 ∨ attemptId.isEmpty = true) := by simp [hr, hid]
  have hvalid := hdurable.fromState (policy.validConfig hr)
  have hsound := hdurable.sound (policy.validConfig hr)
  simp only [CircuitDb.admitAttempt, if_neg hcheck, bind_ok, mapError_ok, pure_ok, Prod.exists,
    advanceCircuitClock_ok, ensureState_ok hholds hr, and_assoc, exists_and_left, exists_eq_left,
    Prod.mk.injEq]
  refine and_congr_right fun hnow => and_congr_right fun hkey => ?_
  have hlogical := (hs.withClock hnow).clock
  rw [and_iff_right hlogical]
  refine and_congr_right fun hrevision => ?_
  rw [show fromState policy.config _ _ _ = _ from hvalid]
  constructor
  · rintro ⟨_, heq, admission, c, hadmit, written, hwrite, rfl, rfl⟩
    cases heq
    obtain ⟨hc, rfl⟩ := (writeAdmission_ok hkey hlogical hholds (hs.status_fits hrevision)
      ((admitAttempt_moves hadmit).sound hsound)).mp hwrite
    exact ⟨admission, c, hadmit, hc, rfl, rfl⟩
  · rintro ⟨admission, c, hadmit, hc, rfl, rfl⟩
    exact ⟨_, rfl, admission, c, hadmit, _, (writeAdmission_ok hkey hlogical hholds
      (hs.status_fits hrevision) ((admitAttempt_moves hadmit).sound hsound)).mpr ⟨hc, rfl⟩, rfl, rfl⟩

/-! ### Terminal results -/

theorem insert_new {db db' : CircuitDb} {event : CircuitEvent} (h : db.insert event = .ok db')
    (hnew : ¬ HasEvent db.events event.effectKind event.attemptId) :
    db' = { db with events := db.events ++ [event] } :=
  ((insert_ok h).resolve_left fun hdup => hnew hdup.2).1

/-- The ways a terminal result is taken. -/
inductive Finishes (db : CircuitDb) (input : CircuitTerminalInput) (status : StationKeyCircuitStatus)
    (now : UInt64) : CircuitDb → Prop
  | duplicate : HasEvent db.events .circuit input.attemptId →
      Finishes db input status now { db with
        watermarkMs := now, row := some (db.foundRow input.policy.policyRevision) }
  | late : ¬ HasEvent db.events .circuit input.attemptId →
      (leaseRevisionMismatch status input ∨ (status.circuit input.policy.config).finish now
        input.leaseId input.success (input.boundaryCrossed && input.affectsCircuit) =
          .ok (.ignoredLateResult, status.circuit input.policy.config)) →
      Finishes db input status now { db with
        watermarkMs := now, row := some (db.foundRow input.policy.policyRevision)
        events := db.events ++ [db.terminalEvent input status.state.stateRevision
          .ignoredLateResult (effectiveLeaseRevision status input)
          (effectivePolicyRevision status input) now] }
  | applied {transition : CircuitTransition} {c : StationKeyCircuit} :
      ¬ HasEvent db.events .circuit input.attemptId →
      leaseRevisionMismatch status input = false →
      (status.circuit input.policy.config).finish now input.leaseId input.success
        (input.boundaryCrossed && input.affectsCircuit) = .ok (transition, c) →
      transition ≠ .ignoredLateResult → StatusFits c.status →
      Finishes db input status now { db with
        watermarkMs := now, row := some (.of c.status none)
        events := db.events ++ [db.terminalEvent input status.state.stateRevision transition
          (effectiveLeaseRevision status input) (effectivePolicyRevision status input) now] }

/-- An ignored result leaves the circuit alone. -/
theorem ignored_same {c c' : StationKeyCircuit} {now : UInt64} {lease : Option String}
    {success crossed : Bool}
    (h : c.finish now lease success crossed = .ok (.ignoredLateResult, c')) : c' = c := by
  have m := finish_moves h
  cases m
  rfl

theorem auditLate_ok {db db' : CircuitDb} {status : StationKeyCircuitStatus}
    {input : CircuitTerminalInput} {now : UInt64} {result : CircuitTerminalResult}
    (h : db.auditLate status input now = .ok (result, db'))
    (hnew : ¬ HasEvent db.events .circuit input.attemptId) :
    db' = { db with events := db.events ++ [db.terminalEvent input status.state.stateRevision
      .ignoredLateResult (effectiveLeaseRevision status input)
      (effectivePolicyRevision status input) now] } := by
  simp only [CircuitDb.auditLate, bind_ok, pure_ok, Prod.exists] at h
  obtain ⟨sequence, db₁, hinsert, heq⟩ := h
  cases heq
  exact insert_new (insertEvent_ok hinsert) hnew

theorem applyTerminal_ok {db db' : CircuitDb} {row : CircuitRow} {status : StationKeyCircuitStatus}
    {c : StationKeyCircuit} {transition : CircuitTransition} {input : CircuitTerminalInput}
    {clock now : UInt64} {result : CircuitTerminalResult} (hholds : Holds row status) (hs : Sound c)
    (h : { db with watermarkMs := clock, row := some row }.applyTerminal status c transition input
      now = .ok (result, db'))
    (hnew : ¬ HasEvent db.events .circuit input.attemptId) :
    StatusFits c.status ∧ db' = { db with
      watermarkMs := clock, row := some (.of c.status none)
      events := db.events ++ [db.terminalEvent input status.state.stateRevision transition
        (effectiveLeaseRevision status input) (effectivePolicyRevision status input) now] } := by
  simp only [CircuitDb.applyTerminal, bind_ok, pure_ok, Prod.exists] at h
  obtain ⟨written, hwrite, sequence, db₁, hinsert, heq⟩ := h
  cases heq
  obtain ⟨⟨-, -, -, hfits⟩, rfl⟩ := (updateStateCas_ok rfl hholds.stateRevision hs).mp hwrite
  exact ⟨hfits, insert_new (insertEvent_ok hinsert) hnew⟩

theorem finishAttempt_ok {db db' : CircuitDb} {input : CircuitTerminalInput}
    {result : CircuitTerminalResult} (hs : StoreSound db)
    (h : db.finishAttempt input = .ok (result, db')) :
    input.policy.policyRevision ≠ 0 ∧ input.nowMs < 9223372036854775808 ∧
      input.policy.policyRevision < 9223372036854775808 ∧
      Finishes db input (db.status input.policy.policyRevision) (max db.watermarkMs input.nowMs)
        db' := by
  simp only [CircuitDb.finishAttempt, bind_ok, ite_ok, throw_ok, false_and, exists_false, and_false,
    false_or, Prod.exists, advanceCircuitClock_ok, and_assoc, exists_and_left, exists_eq_left,
    not_or] at h
  obtain ⟨hr, -, -, hnow, h⟩ := h
  obtain ⟨hholds, hdurable⟩ := hs.status hr
  simp only [ensureState_ok hholds hr, and_assoc, exists_and_left, exists_eq_left] at h
  obtain ⟨hkey, hlogical, hrevision, h⟩ := h
  refine ⟨hr, hnow, hrevision, ?_⟩
  split at h
  · rename_i existing hfound
    cases h
    exact .duplicate ⟨existing, List.mem_of_find?_eq_some hfound, by
      simpa using List.find?_some hfound⟩
  · rename_i hfound
    have hnew : ¬ HasEvent db.events .circuit input.attemptId := by
      rintro ⟨e, he, hsame⟩
      exact List.find?_eq_none.mp hfound e he (by simpa using hsame)
    rw [ite_ok] at h
    rcases h with ⟨hmismatch, h⟩ | ⟨hmatch, h⟩
    · rw [auditLate_ok h hnew]
      exact .late hnew (.inl hmismatch)
    · obtain ⟨reducer, hreducer, h⟩ := bind_ok.mp h
      cases (hdurable.fromState (input.policy.validConfig hr)).symm.trans (mapError_ok.mp hreducer)
      obtain ⟨⟨transition, c⟩, hfinish, h⟩ := bind_ok.mp h
      have hfinish := mapError_ok.mp hfinish
      rw [ite_ok] at h
      rcases h with ⟨hignored, h⟩ | ⟨happlied, h⟩
      · obtain rfl : transition = .ignoredLateResult := hignored
        obtain rfl := ignored_same hfinish
        rw [auditLate_ok h hnew]
        exact .late hnew (.inr hfinish)
      · have hsound := (finish_moves hfinish).sound (hdurable.sound (input.policy.validConfig hr))
        obtain ⟨hfits, rfl⟩ := applyTerminal_ok hholds hsound h hnew
        exact .applied hnew (by simpa using hmatch) hfinish happlied hfits

/-! ### Leases -/

/-- The config the reaper works under. -/
def CircuitPolicy.validReaperConfig (policy : CircuitPolicy) : ValidConfig :=
  { policy with policyRevision := max policy.policyRevision 1 }.validConfig fun h => by
    have := congrArg UInt64.toNat h
    simp [UInt64.toNat_max] at this

/-- Events with one more, unless its attempt already has one of the kind. -/
def Logged (before : List CircuitEvent) (event : CircuitEvent) (after : List CircuitEvent) : Prop :=
  (after = before ∧ HasEvent before event.effectKind event.attemptId) ∨
  (after = before ++ [event] ∧ ¬ HasEvent before event.effectKind event.attemptId)

/-- The event of a lease is not the one of a result. -/
theorem logged_events {before events : List CircuitEvent} {event : CircuitEvent}
    (h : Logged before event events) (hkind : event.effectKind = .lease) (attemptId : String) :
    HasEvent events .circuit attemptId ↔ HasEvent before .circuit attemptId := by
  rcases h with ⟨rfl, -⟩ | ⟨rfl, -⟩
  · exact Iff.rfl
  · simp [hasEvent_append, hkind]

/-- The ways the reaper finds a row. -/
inductive Reaps (db : CircuitDb) (policy : CircuitPolicy) (now : UInt64) : CircuitDb → Prop
  | nothing : (∀ row, db.row = some row → row.expired now = false) →
      Reaps db policy now { db with watermarkMs := now }
  | reopened {status : StationKeyCircuitStatus} {lease : String} {c : StationKeyCircuit}
      {events : List CircuitEvent} : db.row = some (.of status (some true)) →
      (status.circuit policy.reaperConfig).reapExpiredLease now lease = .ok (true, c) →
      StatusFits c.status →
      Logged db.events (db.leaseEvent lease status.state.leaseRevision status.policyRevision
        status.state.stateRevision now true .reopened) events →
      Reaps db policy now
        { db with watermarkMs := now, row := some (.of c.status none), events }
  | released {status : StationKeyCircuitStatus} {crossed : Option Bool} {lease : String}
      {c : StationKeyCircuit} {transition : CircuitTransition} {events : List CircuitEvent} :
      db.row = some (.of status crossed) → crossed ≠ some true →
      status.state.leaseId = some lease → status.state.leaseExpiresAtMs.any (· ≤ now) →
      (status.circuit policy.reaperConfig).finish now (some lease) false false =
        .ok (transition, c) →
      StatusFits c.status →
      Logged db.events (db.leaseEvent lease status.state.leaseRevision status.policyRevision
        status.state.stateRevision now false transition) events →
      Reaps db policy now
        { db with watermarkMs := now, row := some (.of c.status none), events }

theorem expiredLease_ok {row : CircuitRow} {status found : StationKeyCircuitStatus} {lease : String}
    {now : UInt64} {crossed : Option Bool} (hrow : row = .of status crossed)
    (hexpired : row.expired now) (h : expiredLease row = .ok (lease, found)) :
    found = status ∧ status.state.leaseId = some lease ∧
      status.state.leaseExpiresAtMs.any (· ≤ now) := by
  subst hrow
  obtain ⟨policyRevision, leasePolicy, state⟩ := status
  cases state with
  | closed => cases hexpired
  | «open» => cases hexpired
  | halfOpen r active lr e n l =>
    cases active with
    | none => cases hexpired
    | some active =>
      cases e with
      | none => cases hexpired
      | some expires =>
        cases leasePolicy with
        | none => cases h
        | some policy =>
          cases h
          exact ⟨rfl, rfl, hexpired⟩

theorem leaseLogged {db db' : CircuitDb} {attemptId : String} {leaseRevision : Option UInt64}
    {policyRevision expected now : UInt64} {crossed : Bool} {transition : CircuitTransition}
    (h : db.insertLeaseEvent attemptId leaseRevision policyRevision expected now crossed transition =
      .ok db') :
    ∃ events, Logged db.events (db.leaseEvent attemptId leaseRevision policyRevision expected now
      crossed transition) events ∧ db' = { db with events } := by
  rcases insert_ok (insertLeaseEvent_ok h) with ⟨rfl, hdup⟩ | ⟨rfl, hnew⟩
  · exact ⟨_, .inl ⟨rfl, hdup⟩, rfl⟩
  · exact ⟨_, .inr ⟨rfl, hnew⟩, rfl⟩

theorem writeReaped_ok {db db' : CircuitDb} {row : CircuitRow} {status : StationKeyCircuitStatus}
    {c : StationKeyCircuit} {lease : String} {crossed : Bool} {transition : CircuitTransition}
    {clock now : UInt64} (hrow : db.row = some row) (hholds : Holds row status) (hs : Sound c)
    (h : { db with watermarkMs := clock }.writeReaped status c lease crossed transition now =
      .ok db') :
    StatusFits c.status ∧ ∃ events, Logged db.events (db.leaseEvent lease
        status.state.leaseRevision status.policyRevision status.state.stateRevision now crossed
        transition) events ∧
      db' = { db with watermarkMs := clock, row := some (.of c.status none), events } := by
  simp only [CircuitDb.writeReaped, bind_ok] at h
  obtain ⟨written, hwrite, hinsert⟩ := h
  have hrow' : CircuitDb.row { db with watermarkMs := clock } = some row := hrow
  obtain ⟨⟨-, -, -, hfits⟩, rfl⟩ := (updateStateCas_ok hrow' hholds.stateRevision hs).mp hwrite
  obtain ⟨events, hlogged, rfl⟩ := leaseLogged hinsert
  exact ⟨hfits, events, hlogged, rfl⟩

/-- The lease the reaper found expired is the one the reducer reaps. -/
theorem reap_takes {c c' : StationKeyCircuit} {now : UInt64} {lease : String} {taken : Bool}
    (h : c.reapExpiredLease now lease = .ok (taken, c')) (hlease : c.state.leaseId = some lease)
    (hexpired : c.state.leaseExpiresAtMs.any (· ≤ now)) : taken = true := by
  have m := reapExpiredLease_moves h
  cases m with
  | reapReopens => rfl
  | reapNothing hkept =>
    rcases hkept with hkept | hkept
    · exact absurd hlease hkept
    · obtain ⟨expires, hsome, hle⟩ := (Option.any_eq_true _ _).mp hexpired
      rw [hsome] at hkept
      exact absurd (by simpa using hkept) (UInt64.not_lt.mpr (by simpa using hle))

theorem reapExpiredLeases_ok {db db' : CircuitDb} {now : UInt64} {policy : CircuitPolicy}
    {reaped : Nat} (hs : StoreSound db) (h : db.reapExpiredLeases now policy = .ok (reaped, db')) :
    now < 9223372036854775808 ∧ Reaps db policy (max db.watermarkMs now) db' := by
  simp only [CircuitDb.reapExpiredLeases, bind_ok, Prod.exists, advanceCircuitClock_ok, and_assoc,
    exists_and_left, exists_eq_left] at h
  obtain ⟨hnow, h⟩ := h
  refine ⟨hnow, ?_⟩
  split at h
  · rename_i hnone
    cases h
    refine .nothing fun row hrow => ?_
    simpa [hrow, Option.filter] using hnone
  · rename_i row hsome
    obtain ⟨hrow, hexpired⟩ : db.row = some row ∧ row.expired (max db.watermarkMs now) :=
      Option.filter_eq_some_iff.mp hsome
    obtain ⟨status, ⟨crossed, hof⟩, hdurable, hfits⟩ := hs.row row hrow
    simp only [bind_ok, mapError_ok, Prod.exists] at h
    obtain ⟨lease, found, hlease, reducer, hreducer, transition, c, hmove, h⟩ := h
    obtain ⟨rfl, hactive, hlate⟩ := expiredLease_ok hof hexpired hlease
    cases (hdurable.fromState policy.validReaperConfig).symm.trans hreducer
    have hsound := hdurable.sound policy.validReaperConfig
    have hholds : Holds row found := ⟨crossed, hof⟩
    by_cases hcrossed : crossed = some true
    · subst hcrossed hof
      obtain ⟨⟨taken, c'⟩, hreap, heq⟩ := map_ok.mp hmove
      obtain rfl := reap_takes hreap hactive hlate
      cases heq
      obtain ⟨db₁, hwrite, heq⟩ := bind_ok.mp h
      cases heq
      obtain ⟨hc, events, hlogged, rfl⟩ :=
        writeReaped_ok hrow hholds ((reapExpiredLease_moves hreap).sound hsound) hwrite
      exact .reopened hrow hreap hc hlogged
    · have hflag : (row.boundaryCrossed == some true) = false := by
        rw [hof]
        simpa [CircuitRow.of] using hcrossed
      rw [hflag] at hmove h
      obtain ⟨⟨taken, c'⟩, hfinish, heq⟩ := map_ok.mp hmove
      cases heq
      obtain ⟨db₁, hwrite, heq⟩ := bind_ok.mp h
      cases heq
      obtain ⟨hc, events, hlogged, rfl⟩ :=
        writeReaped_ok hrow hholds ((finish_moves hfinish).sound hsound) hwrite
      exact .released (hof ▸ hrow) hcrossed hactive hlate hfinish hc hlogged

end RelayPool.Circuit
