import RelayPool.Circuit.Durable

/-! Histories of one key's durable circuit.

A history is the operations called on the store, in the order of their
transactions; one that fails leaves the tables alone. The clock is shared by all
keys, so a history also has the samples the other keys take of it.
`history_sound` is the link to the reducer: whatever the history, the row is
what some run of the reducer leaves. -/
namespace RelayPool.Circuit
open StationKeyCircuit Fallible

inductive StoreOp
  | admitAttempt (policy : CircuitPolicy) (nowMs deadlineAtMs : UInt64) (attemptId : String)
  | finishAttempt (input : CircuitTerminalInput)
  | reapExpiredLeases (nowMs : UInt64) (policy : CircuitPolicy)
  | markBoundaryCrossed (attemptId : String) (leaseRevision nowMs : UInt64)
  /-- The time another key's operation reads. -/
  | advanceCircuitClock (nowMs : UInt64)
deriving DecidableEq, Repr

namespace CircuitDb

def apply (db : CircuitDb) : StoreOp → Except PersistenceError CircuitDb
  | .admitAttempt policy now deadline attemptId =>
    (db.admitAttempt policy now deadline attemptId).map (·.2)
  | .finishAttempt input => (db.finishAttempt input).map (·.2)
  | .reapExpiredLeases now policy => (db.reapExpiredLeases now policy).map (·.2)
  | .markBoundaryCrossed attemptId leaseRevision now =>
    (db.markBoundaryCrossed attemptId leaseRevision now).map (·.2)
  | .advanceCircuitClock now => (db.advanceCircuitClock now).map (·.2)

/-- The tables after a transaction; a failed one is rolled back. -/
def next (db : CircuitDb) (op : StoreOp) : CircuitDb :=
  match db.apply op with
  | .ok db' => db'
  | .error _ => db

theorem next_ok {db db' : CircuitDb} {op : StoreOp} (h : db.apply op = .ok db') :
    db.next op = db' := by
  unfold next
  rw [h]

/-- What every successful operation gives, every operation gives if standing still does. -/
theorem next_of {P : CircuitDb → Prop} {db : CircuitDb} {op : StoreOp}
    (hok : ∀ db', db.apply op = .ok db' → P db') (hfailed : P db) : P (db.next op) := by
  unfold next
  split
  · exact hok _ ‹_›
  · exact hfailed

end CircuitDb

def history (key : CircuitKey) (ops : List StoreOp) : CircuitDb :=
  Runs.run CircuitDb.next (.empty key) ops

theorem history_concat (key : CircuitKey) (ops : List StoreOp) (op : StoreOp) :
    history key (ops ++ [op]) = (history key ops).next op := Runs.run_concat ..

/-! ### The row after every operation -/

/-- A move of the reducer from a stored status leaves a status that can be stored. -/
theorem Durable.moved {status : StationKeyCircuitStatus} {c : StationKeyCircuit}
    (h : Durable status) (v : ValidConfig) (op : CircuitOp)
    (happly : ∃ answer, (status.circuit v.config).apply op = .ok (answer, c)) :
    Durable c.status := by
  obtain ⟨answer, happly⟩ := happly
  have hstep : RelayPool.Circuit.step (status.circuit v.config) ⟨v, op⟩ = c := by
    show (status.circuit v.config).next op = c
    unfold StationKeyCircuit.next
    rw [happly]
  exact hstep ▸ h.step ⟨v, op⟩

theorem StoreSound.foundRow {db : CircuitDb} (h : StoreSound db) {revision : UInt64}
    (hr : revision ≠ 0) (hfits : revision < 9223372036854775808) :
    ∃ status, Holds (db.foundRow revision) status ∧ Durable status ∧ StatusFits status :=
  ⟨_, (h.status hr).1, (h.status hr).2, h.status_fits hfits⟩

theorem StoreSound.of_row {db : CircuitDb} {row : CircuitRow}
    (hclock : db.watermarkMs < 9223372036854775808) (hrow : db.row = some row)
    (h : ∃ status, Holds row status ∧ Durable status ∧ StatusFits status) : StoreSound db where
  clock := hclock
  row := fun row' hrow' => by
    rw [hrow] at hrow'
    cases hrow'
    exact h

theorem admitAttempt_requires {db : CircuitDb} {policy : CircuitPolicy} {now deadline : UInt64}
    {attemptId : String} {result : CircuitAdmissionResult × CircuitDb}
    (h : db.admitAttempt policy now deadline attemptId = .ok result) :
    policy.policyRevision ≠ 0 ∧ attemptId.isEmpty = false := by
  unfold CircuitDb.admitAttempt at h
  split at h
  · cases h
  · rename_i hgiven
    exact ⟨fun h0 => hgiven (.inl h0), by simpa using fun h0 => hgiven (.inr h0)⟩

theorem StoreSound.admitAttempt {db db' : CircuitDb} {policy : CircuitPolicy}
    {now deadline : UInt64} {attemptId : String} {result : CircuitAdmissionResult}
    (hs : StoreSound db) (h : db.admitAttempt policy now deadline attemptId = .ok (result, db')) :
    StoreSound db' := by
  obtain ⟨hr, hid⟩ := admitAttempt_requires h
  obtain ⟨⟨hnow, -, hrevision⟩, admission, c, hadmit, hc, -, rfl⟩ :=
    (admitAttempt_ok hs hr hid).mp h
  have hclock := (hs.withClock hnow).clock
  split
  · rename_i hwrites
    refine .of_row hclock rfl ⟨c.status, ⟨none, rfl⟩, ?_, hc hwrites⟩
    exact (hs.status hr).2.moved (policy.validConfig hr) (.admitAttempt ..)
      ⟨_, map_ok.mpr ⟨_, hadmit, rfl⟩⟩
  · exact .of_row hclock rfl (hs.foundRow hr hrevision)

theorem StoreSound.finishAttempt {db db' : CircuitDb} {input : CircuitTerminalInput}
    {result : CircuitTerminalResult} (hs : StoreSound db)
    (h : db.finishAttempt input = .ok (result, db')) : StoreSound db' := by
  obtain ⟨hr, hnow, hrevision, hfinishes⟩ := finishAttempt_ok hs h
  have hclock := (hs.withClock hnow).clock
  cases hfinishes with
  | duplicate => exact .of_row hclock rfl (hs.foundRow hr hrevision)
  | late => exact .of_row hclock rfl (hs.foundRow hr hrevision)
  | applied hnew hmatch hfinish happlied hfits =>
    refine .of_row hclock rfl ⟨_, ⟨none, rfl⟩, ?_, hfits⟩
    exact (hs.status hr).2.moved (input.policy.validConfig hr) (.finish ..)
      ⟨_, map_ok.mpr ⟨_, hfinish, rfl⟩⟩

theorem StoreSound.reapExpiredLeases {db db' : CircuitDb} {now : UInt64} {policy : CircuitPolicy}
    {reaped : Nat} (hs : StoreSound db) (h : db.reapExpiredLeases now policy = .ok (reaped, db')) :
    StoreSound db' := by
  obtain ⟨hnow, hreaps⟩ := reapExpiredLeases_ok hs h
  have hclock := (hs.withClock hnow).clock
  cases hreaps with
  | nothing => exact ⟨hclock, hs.row⟩
  | reopened hrow hreap hfits =>
    obtain ⟨status', hholds, hdurable, -⟩ := hs.row _ hrow
    obtain rfl := Except.ok.inj (hholds.read.symm.trans (rowToStatus_of ..))
    refine .of_row hclock rfl ⟨_, ⟨none, rfl⟩, ?_, hfits⟩
    exact hdurable.moved policy.validReaperConfig (.reapExpiredLease ..)
      ⟨_, map_ok.mpr ⟨_, hreap, rfl⟩⟩
  | released hrow hcrossed hlease hlate hfinish hfits =>
    obtain ⟨status', hholds, hdurable, -⟩ := hs.row _ hrow
    obtain rfl := Except.ok.inj (hholds.read.symm.trans (rowToStatus_of ..))
    refine .of_row hclock rfl ⟨_, ⟨none, rfl⟩, ?_, hfits⟩
    exact hdurable.moved policy.validReaperConfig (.finish ..)
      ⟨_, map_ok.mpr ⟨_, hfinish, rfl⟩⟩

/-- Crossing the boundary is noted in the row and is nothing to the reducer. -/
theorem markBoundaryCrossed_ok {db db' : CircuitDb} {attemptId : String}
    {leaseRevision now : UInt64} {marked : Bool} (hs : StoreSound db)
    (h : db.markBoundaryCrossed attemptId leaseRevision now = .ok (marked, db')) :
    now < 9223372036854775808 ∧
      (db' = { db with watermarkMs := max db.watermarkMs now } ∨
        ∃ status, db.row = some (.of status none) ∧ db' = { db with
          watermarkMs := max db.watermarkMs now, row := some (.of status (some true)) }) := by
  simp only [CircuitDb.markBoundaryCrossed, ite_ok, throw_ok, bind_ok, false_and, exists_false,
    and_false, false_or, Prod.exists, advanceCircuitClock_ok, and_assoc, exists_and_left,
    exists_eq_left] at h
  obtain ⟨-, _, -, _, -, hnow, h⟩ := h
  refine ⟨hnow, ?_⟩
  split at h
  · cases h
    exact .inl rfl
  · rename_i row hrow
    have hrow : db.row = some row := hrow
    rw [ite_ok] at h
    rcases h with ⟨hactive, h⟩ | ⟨-, h⟩
    · cases h
      obtain ⟨status, ⟨crossed, rfl⟩, -⟩ := hs.row row hrow
      obtain rfl : crossed = none := hactive.2.2.2.2
      exact .inr ⟨status, hrow, rfl⟩
    · cases h
      exact .inl rfl

theorem StoreSound.markBoundaryCrossed {db db' : CircuitDb} {attemptId : String}
    {leaseRevision now : UInt64} {marked : Bool} (hs : StoreSound db)
    (h : db.markBoundaryCrossed attemptId leaseRevision now = .ok (marked, db')) :
    StoreSound db' := by
  obtain ⟨hnow, rfl | ⟨status, hrow, rfl⟩⟩ := markBoundaryCrossed_ok hs h
  · exact hs.withClock hnow
  · obtain ⟨status', hholds, hdurable, hfits⟩ := hs.row _ hrow
    obtain rfl := Except.ok.inj (hholds.read.symm.trans (rowToStatus_of ..))
    exact .of_row (hs.withClock hnow).clock rfl ⟨_, ⟨some true, rfl⟩, hdurable, hfits⟩

theorem StoreSound.next {db : CircuitDb} (hs : StoreSound db) (op : StoreOp) :
    StoreSound (db.next op) := by
  refine CircuitDb.next_of (fun db' h => ?_) hs
  cases op with
  | admitAttempt policy now deadline attemptId =>
    obtain ⟨⟨result, db''⟩, hok, rfl⟩ := map_ok.mp h
    exact hs.admitAttempt hok
  | finishAttempt input =>
    obtain ⟨⟨result, db''⟩, hok, rfl⟩ := map_ok.mp h
    exact hs.finishAttempt hok
  | reapExpiredLeases now policy =>
    obtain ⟨⟨reaped, db''⟩, hok, rfl⟩ := map_ok.mp h
    exact hs.reapExpiredLeases hok
  | markBoundaryCrossed attemptId leaseRevision now =>
    obtain ⟨⟨marked, db''⟩, hok, rfl⟩ := map_ok.mp h
    exact hs.markBoundaryCrossed hok
  | advanceCircuitClock now =>
    obtain ⟨⟨logical, db''⟩, hok, rfl⟩ := map_ok.mp h
    obtain ⟨hnow, rfl, rfl⟩ := advanceCircuitClock_ok.mp hok
    exact hs.withClock hnow

theorem empty_sound (key : CircuitKey) : StoreSound (.empty key) where
  clock := by simp [CircuitDb.empty]
  row := fun _ hrow => by cases hrow

theorem history_sound (key : CircuitKey) (ops : List StoreOp) : StoreSound (history key ops) :=
  Runs.run_invariant (fun _ op hs => hs.next op) (empty_sound key) ops

end RelayPool.Circuit
