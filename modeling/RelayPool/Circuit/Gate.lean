import RelayPool.Runs
import RelayPool.Saturating
import Mathlib.Data.Finset.Insert
import Mathlib.Data.Finset.Empty

/-! The process-local persistence fence.

While the circuit store cannot be written, a failure that could not be recorded
fences its key in memory. A health check reads the fence's revision, tests the
store, and clears the fence only if the revision is still the one it read. Marks
and clears raise the revision, so the revision tells whether anything changed
(`call_stamped`), and no check that started before a failure can lift its fence
(`fences_kept`). Each call holds the lock for as long as it runs: an interleaving
of threads is a list of calls. -/
namespace RelayPool.Circuit
open Runs

structure CircuitPersistenceGateSnapshot where
  globalUnavailable : Bool
  stationKeys : Finset (String × UInt64)
  revision : UInt64
deriving DecidableEq

def CircuitPersistenceGateSnapshot.isActive (snapshot : CircuitPersistenceGateSnapshot)
    (stationKeyId : String) (lifecycleRevision : UInt64) : Bool :=
  snapshot.globalUnavailable || decide ((stationKeyId, lifecycleRevision) ∈ snapshot.stationKeys)

/-- The state behind the lock. -/
structure CircuitPersistenceGate where
  globalUnavailable : Bool
  stationKeys : Finset (String × UInt64)
  revision : UInt64
deriving DecidableEq

namespace CircuitPersistenceGate

/-- The default gate is open for every key. -/
def initial : CircuitPersistenceGate := ⟨false, ∅, 0⟩

def isActive (gate : CircuitPersistenceGate) (stationKeyId : String)
    (lifecycleRevision : UInt64) : Bool :=
  gate.globalUnavailable || decide ((stationKeyId, lifecycleRevision) ∈ gate.stationKeys)

def markStationKey (gate : CircuitPersistenceGate) (stationKeyId : String)
    (lifecycleRevision : UInt64) : CircuitPersistenceGate :=
  { gate with
    stationKeys := insert (stationKeyId, lifecycleRevision) gate.stationKeys
    revision := gate.revision.saturatingAdd 1 }

def snapshot (gate : CircuitPersistenceGate) : CircuitPersistenceGateSnapshot :=
  ⟨gate.globalUnavailable, gate.stationKeys, gate.revision⟩

/-- The answer, and the gate it leaves. -/
def clearIfUnchanged (gate : CircuitPersistenceGate) (expectedRevision : UInt64) :
    Bool × CircuitPersistenceGate :=
  if gate.revision ≠ expectedRevision then
    (false, gate)
  else
    (true, ⟨false, ∅, gate.revision.saturatingAdd 1⟩)

end CircuitPersistenceGate

/-! ### Calls on a shared gate -/

inductive GateCall
  | markStationKey (stationKeyId : String) (lifecycleRevision : UInt64)
  | revision
  | snapshot
  | isActive (stationKeyId : String) (lifecycleRevision : UInt64)
  | clearIfUnchanged (expectedRevision : UInt64)
deriving DecidableEq

namespace CircuitPersistenceGate

def call (gate : CircuitPersistenceGate) : GateCall → CircuitPersistenceGate
  | .markStationKey stationKeyId lifecycleRevision =>
    gate.markStationKey stationKeyId lifecycleRevision
  | .clearIfUnchanged expectedRevision => (gate.clearIfUnchanged expectedRevision).2
  | .revision | .snapshot | .isActive .. => gate

/-- The gate after a history of calls. -/
def after (calls : List GateCall) : CircuitPersistenceGate := run call initial calls

theorem after_append (before calls : List GateCall) :
    after (before ++ calls) = run call (after before) calls := run_append ..

/-! ### One call -/

/-- The revision is not yet the largest. -/
def Unsaturated (gate : CircuitPersistenceGate) (_ : GateCall) : Prop :=
  gate.revision.toNat < 2 ^ 64 - 1

theorem toNat_revision_add_one {gate : CircuitPersistenceGate} {c : GateCall}
    (h : gate.Unsaturated c) :
    (gate.revision.saturatingAdd 1).toNat = gate.revision.toNat + 1 := by
  unfold Unsaturated at h
  rw [UInt64.toNat_saturatingAdd, UInt64.toNat_one]
  omega

theorem markStationKey_raises (gate : CircuitPersistenceGate) (id : String) (lifecycle : UInt64)
    {c : GateCall} (h : gate.Unsaturated c) :
    (gate.markStationKey id lifecycle).revision.toNat = gate.revision.toNat + 1 :=
  toNat_revision_add_one h

theorem markStationKey_isActive (gate : CircuitPersistenceGate) (id : String)
    (lifecycle : UInt64) : (gate.markStationKey id lifecycle).isActive id lifecycle = true := by
  simp [markStationKey, isActive]

/-- A refused clear answers `false` and changes nothing. -/
theorem clearIfUnchanged_refused {gate : CircuitPersistenceGate} {expected : UInt64}
    (h : (gate.clearIfUnchanged expected).1 = false) :
    (gate.clearIfUnchanged expected).2 = gate := by
  unfold clearIfUnchanged at h ⊢
  split at h
  · rename_i changed
    rw [if_pos changed]
  · cases h

theorem clearIfUnchanged_true {gate : CircuitPersistenceGate} {expected : UInt64} :
    (gate.clearIfUnchanged expected).1 = true ↔ gate.revision = expected := by
  unfold clearIfUnchanged
  split
  · rename_i changed
    simpa using changed
  · rename_i same
    simpa using same

/-- A call changes nothing, or counts in the revision. -/
theorem call_stamped : Stamped call (·.revision.toNat) Unsaturated := by
  intro gate c h
  cases c with
  | markStationKey id lifecycle =>
    refine .inr ?_
    show gate.revision.toNat < (gate.markStationKey id lifecycle).revision.toNat
    rw [markStationKey_raises gate id lifecycle h]
    exact Nat.lt_succ_self _
  | clearIfUnchanged expected =>
    show (gate.clearIfUnchanged expected).2 = gate ∨
      gate.revision.toNat < (gate.clearIfUnchanged expected).2.revision.toNat
    unfold clearIfUnchanged
    split
    · exact .inl rfl
    · refine .inr ?_
      show gate.revision.toNat < (gate.revision.saturatingAdd 1).toNat
      rw [toNat_revision_add_one h]
      exact Nat.lt_succ_self _
  | revision => exact .inl rfl
  | snapshot => exact .inl rfl
  | isActive id lifecycle => exact .inl rfl

theorem call_revision_le (gate : CircuitPersistenceGate) (c : GateCall) :
    (gate.call c).revision.toNat ≤ gate.revision.toNat + 1 := by
  have succ : (gate.revision.saturatingAdd 1).toNat ≤ gate.revision.toNat + 1 := by
    rw [UInt64.toNat_saturatingAdd, UInt64.toNat_one]
    omega
  cases c with
  | markStationKey id lifecycle => exact succ
  | clearIfUnchanged expected =>
    show (gate.clearIfUnchanged expected).2.revision.toNat ≤ _
    unfold clearIfUnchanged
    split
    · exact Nat.le_succ _
    · exact succ
  | revision | snapshot | isActive => exact Nat.le_succ _

/-- A fence is lifted only by a clear that was given the revision the gate has. -/
theorem call_keeps_active {gate : CircuitPersistenceGate} {id : String} {lifecycle : UInt64}
    {c : GateCall} (active : gate.isActive id lifecycle = true)
    (h : ∀ expected, c = .clearIfUnchanged expected → expected ≠ gate.revision) :
    (gate.call c).isActive id lifecycle = true := by
  cases c with
  | markStationKey id' lifecycle' =>
    simp only [isActive, Bool.or_eq_true, decide_eq_true_eq] at active
    simp only [call, markStationKey, isActive, Bool.or_eq_true, decide_eq_true_eq,
      Finset.mem_insert]
    tauto
  | clearIfUnchanged expected =>
    have refused : (gate.clearIfUnchanged expected).1 = false :=
      Bool.eq_false_iff.mpr fun cleared =>
        h expected rfl (clearIfUnchanged_true.mp cleared).symm
    show (gate.clearIfUnchanged expected).2.isActive id lifecycle = true
    rw [clearIfUnchanged_refused refused]
    exact active
  | revision | snapshot | isActive => exact active

/-! ### Histories of calls -/

/-- A history with fewer than 2⁶⁴ calls never saturates the revision. -/
theorem run_unsaturated {gate : CircuitPersistenceGate} {calls : List GateCall}
    (few : gate.revision.toNat + calls.length < 2 ^ 64) : Along call Unsaturated gate calls := by
  induction calls generalizing gate with
  | nil => trivial
  | cons c rest ih =>
    rw [List.length_cons] at few
    have next := call_revision_le gate c
    refine ⟨?_, ih (by omega)⟩
    show gate.revision.toNat < 2 ^ 64 - 1
    omega

theorem after_unsaturated {before calls : List GateCall}
    (few : (before ++ calls).length < 2 ^ 64) : Along call Unsaturated (after before) calls := by
  have whole : Along call Unsaturated initial (before ++ calls) :=
    run_unsaturated (by simpa [initial] using few)
  exact (along_append.mp whole).2

/-- While no clear is given the current revision, a fence stays. -/
theorem run_keeps_active {gate : CircuitPersistenceGate} {id : String} {lifecycle : UInt64}
    {calls : List GateCall} {bound : UInt64} (active : gate.isActive id lifecycle = true)
    (above : bound.toNat < gate.revision.toNat) (along : Along call Unsaturated gate calls)
    (h : ∀ expected, .clearIfUnchanged expected ∈ calls → expected ≤ bound) :
    (run call gate calls).isActive id lifecycle = true := by
  induction calls generalizing gate with
  | nil => exact active
  | cons c rest ih =>
    have kept : (gate.call c).isActive id lifecycle = true := by
      refine call_keeps_active active ?_
      rintro expected rfl rfl
      have := UInt64.le_iff_toNat_le.mp (h _ (List.mem_cons_self ..))
      omega
    have raised := call_stamped.le_step along.1
    exact ih kept (above.trans_le raised) along.2 fun expected hmem =>
      h expected (List.mem_cons_of_mem _ hmem)

/-- What a history of calls on one gate keeps. A check that gives `clearIfUnchanged`
the revision it read before some mark gives it a revision that is at most the one
the gate had at the mark. -/
structure FencesKept (calls : List GateCall) : Prop where
  /-- A mark stays until a check that started after it clears the gate. -/
  stays : ∀ before between id lifecycle,
    calls = before ++ .markStationKey id lifecycle :: between →
    (∀ expected, .clearIfUnchanged expected ∈ between → expected ≤ (after before).revision) →
    (after calls).isActive id lifecycle = true
  /-- A clear that succeeds leaves the marks active that were made after its revision. -/
  spared : ∀ before expected rest, calls = before ++ .clearIfUnchanged expected :: rest →
    ((after before).clearIfUnchanged expected).1 = true →
    ∀ earlier between id lifecycle, before = earlier ++ .markStationKey id lifecycle :: between →
      expected ≤ (after earlier).revision →
      ((after before).clearIfUnchanged expected).2.isActive id lifecycle = true
  /-- It clears the gate that the check saw, and no other. -/
  seen : ∀ before expected rest, calls = before ++ .clearIfUnchanged expected :: rest →
    ((after before).clearIfUnchanged expected).1 = true →
    ∀ earlier between, before = earlier ++ between → (after earlier).revision = expected →
      after before = after earlier
  refused : ∀ before expected rest, calls = before ++ .clearIfUnchanged expected :: rest →
    ((after before).clearIfUnchanged expected).1 = false →
    ((after before).clearIfUnchanged expected).2 = after before
  /-- Two snapshots with one revision are equal. -/
  determined : ∀ before between rest, calls = before ++ between ++ rest →
    (after (before ++ between)).snapshot.revision = (after before).snapshot.revision →
    (after (before ++ between)).snapshot = (after before).snapshot

theorem after_eq_of_revision {before between : List GateCall}
    (few : (before ++ between).length < 2 ^ 64)
    (same : (after (before ++ between)).revision = (after before).revision) :
    after (before ++ between) = after before := by
  rw [after_append] at same ⊢
  exact call_stamped.run_eq_of_stamp (after_unsaturated few) (congrArg UInt64.toNat same)

/-- No clear that is given a revision from before a mark succeeds after it. -/
theorem clear_of_mark {earlier between : List GateCall} {id : String} {lifecycle expected : UInt64}
    (few : (earlier ++ .markStationKey id lifecycle :: between).length < 2 ^ 64)
    (h : expected ≤ (after earlier).revision) :
    (after (earlier ++ .markStationKey id lifecycle :: between)).revision ≠ expected := by
  rintro rfl
  have along := after_unsaturated few
  have raised := markStationKey_raises (after earlier) id lifecycle along.1
  have later := call_stamped.le_run along.2
  have bound := UInt64.le_iff_toNat_le.mp h
  rw [after_append, run_cons] at bound
  have marked : ((after earlier).call (.markStationKey id lifecycle)).revision.toNat =
    (after earlier).revision.toNat + 1 := raised
  omega

/-- No fence is lost to a check that started before it. -/
theorem fences_kept (calls : List GateCall) (few : calls.length < 2 ^ 64) :
    FencesKept calls where
  stays before between id lifecycle split older := by
    subst split
    have along := after_unsaturated few
    have raised := markStationKey_raises (after before) id lifecycle along.1
    rw [after_append, run_cons]
    refine run_keeps_active (markStationKey_isActive ..) ?_ along.2 older
    show (after before).revision.toNat < ((after before).markStationKey id lifecycle).revision.toNat
    omega
  spared before expected rest split cleared earlier between id lifecycle inner h := by
    subst split inner
    rw [List.length_append] at few
    exact absurd (clearIfUnchanged_true.mp cleared) (clear_of_mark (by omega) h)
  seen before expected rest split cleared earlier between inner h := by
    subst split inner
    rw [List.length_append] at few
    exact after_eq_of_revision (by omega) ((clearIfUnchanged_true.mp cleared).trans h.symm)
  refused before expected rest split refused := clearIfUnchanged_refused refused
  determined before between rest split same := by
    subst split
    rw [List.length_append] at few
    rw [after_eq_of_revision (by omega) same]

/-- A failure during a check: the check's clear fails and the next one's succeeds. -/
theorem fences_kept_retry :
    FencesKept [.markStationKey "key-a" 1, .revision, .markStationKey "key-b" 1,
      .clearIfUnchanged 1, .revision, .clearIfUnchanged 2] :=
  fences_kept _ (by decide)

end CircuitPersistenceGate

end RelayPool.Circuit
