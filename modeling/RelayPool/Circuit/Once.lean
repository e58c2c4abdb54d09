import RelayPool.Circuit.Late

/-! Results delivered again.

A terminal record can be delivered more than once, by its request, by a recovery
after a crash, or by both. The store looks an attempt up among its events before
it asks the reducer, and an event is written also for a result that was ignored.

`OnceCircuit` is the circuit without any of that: a reducer, a clock and the
attempts that have been delivered. `Agrees` ties a database to it, every
transaction keeps the tie, and so the circuit in the row is the one that took
each attempt's first result and no other. What a first result has to match is
the active lease: one that carries another lease revision is recorded and never
handed on. -/
namespace RelayPool.Circuit
open StationKeyCircuit Fallible

/-! ### The circuit without tables -/

structure OnceCircuit where
  clockMs : UInt64
  circuit : Option StationKeyCircuitStatus
  /-- The active lease is known to have crossed the outbound boundary. -/
  crossed : Bool
  delivered : List String
  /-- What the reducer was given, oldest first. -/
  handed : List CircuitOp
deriving DecidableEq

namespace OnceCircuit

def initial : OnceCircuit := ⟨0, none, false, [], []⟩

def found (s : OnceCircuit) (policyRevision : UInt64) : StationKeyCircuitStatus :=
  s.circuit.getD ⟨policyRevision, none, .initial⟩

/-- The clock does not go back, whatever a caller reads. -/
def tick (s : OnceCircuit) (nowMs : UInt64) : OnceCircuit :=
  { s with clockMs := max s.clockMs nowMs }

def hand (s : OnceCircuit) (config : StationKeyCircuitConfig) (status : StationKeyCircuitStatus)
    (op : CircuitOp) : OnceCircuit :=
  let status' := ((status.circuit config).next op).status
  { s with
    circuit := some status', crossed := s.crossed && status' = status, handed := s.handed ++ [op] }

/-- The first result of an attempt goes to the reducer, unless it `conflicts`. -/
def deliver (conflicts : StationKeyCircuitStatus → CircuitTerminalInput → Bool)
    (s : OnceCircuit) (input : CircuitTerminalInput) : OnceCircuit :=
  let status := s.found input.policy.policyRevision
  let s' := { s with circuit := some status }
  if input.attemptId ∈ s.delivered then s'
  else
    let s' := { s' with delivered := s.delivered ++ [input.attemptId] }
    if conflicts status input then s'
    else s'.hand input.policy.config status (.finish s.clockMs input.leaseId input.success
      (input.boundaryCrossed && input.affectsCircuit))

def reap (s : OnceCircuit) (policy : CircuitPolicy) : OnceCircuit :=
  match s.circuit with
  | none => s
  | some status =>
    match status.state.leaseId with
    | none => s
    | some lease =>
      if status.state.leaseExpiresAtMs.any (· ≤ s.clockMs) then
        s.hand policy.reaperConfig status
          (if s.crossed then .reapExpiredLease s.clockMs lease
          else .finish s.clockMs (some lease) false false)
      else s

def cross (s : OnceCircuit) (attemptId : String) (leaseRevision : UInt64) : OnceCircuit :=
  match s.circuit with
  | none => s
  | some status => { s with crossed := s.crossed || (status.state.leaseId = some attemptId &&
      status.state.leaseRevision = some leaseRevision) }

def next (conflicts : StationKeyCircuitStatus → CircuitTerminalInput → Bool) (s : OnceCircuit) :
    StoreOp → OnceCircuit
  | .admitAttempt policy now deadline attemptId =>
    (s.tick now).hand policy.config (s.found policy.policyRevision)
      (.admitAttempt (s.tick now).clockMs deadline attemptId)
  | .finishAttempt input => (s.tick input.nowMs).deliver conflicts input
  | .reapExpiredLeases now policy => (s.tick now).reap policy
  | .markBoundaryCrossed attemptId leaseRevision now => (s.tick now).cross attemptId leaseRevision
  | .advanceCircuitClock now => s.tick now

end OnceCircuit

/-- The operations of a history that committed. -/
def committed (key : CircuitKey) (ops : List StoreOp) : List StoreOp :=
  Runs.record CircuitDb.next (fun db op _ done =>
    match db.apply op with
    | .ok _ => done ++ [op]
    | .error _ => done) (.empty key) [] ops

/-- The circuit that takes each attempt once, after what a history committed. -/
def takenOnce (conflicts : StationKeyCircuitStatus → CircuitTerminalInput → Bool)
    (key : CircuitKey) (ops : List StoreOp) : OnceCircuit :=
  Runs.run (OnceCircuit.next conflicts) .initial (committed key ops)

/-- The circuit in the row, once the key has been seen. -/
def CircuitDb.circuit (db : CircuitDb) : Option StationKeyCircuitStatus :=
  db.row.bind fun row => (rowToStatus row).toOption

/-! ### One transaction -/

theorem OnceCircuit.hand_ok {s : OnceCircuit} {config : StationKeyCircuitConfig}
    {status : StationKeyCircuitStatus} {op : CircuitOp} {answer : CircuitReply}
    {c : StationKeyCircuit} (h : (status.circuit config).apply op = .ok (answer, c)) :
    s.hand config status op = { s with
      circuit := some c.status, crossed := s.crossed && c.status = status
      handed := s.handed ++ [op] } := by
  have hnext : (status.circuit config).next op = c := by
    unfold StationKeyCircuit.next
    rw [h]
  unfold OnceCircuit.hand
  rw [hnext]

theorem finish_applies {c c' : StationKeyCircuit} {now : UInt64} {lease : Option String}
    {success crossed : Bool} {transition : CircuitTransition}
    (h : c.finish now lease success crossed = .ok (transition, c')) :
    c.apply (.finish now lease success crossed) = .ok (.transition transition, c') :=
  map_ok.mpr ⟨_, h, rfl⟩

theorem reap_applies {c c' : StationKeyCircuit} {now : UInt64} {lease : String} {taken : Bool}
    (h : c.reapExpiredLease now lease = .ok (taken, c')) :
    c.apply (.reapExpiredLease now lease) = .ok (.reaped taken, c') :=
  map_ok.mpr ⟨_, h, rfl⟩

/-- What the row says of the outbound boundary. -/
def OnceCircuit.mark (s : OnceCircuit) : Option Bool := if s.crossed then some true else none

structure Agrees (db : CircuitDb) (s : OnceCircuit) : Prop where
  clock : db.watermarkMs = s.clockMs
  row : db.row = s.circuit.map (CircuitRow.of · s.mark)
  delivered : ∀ attemptId, HasEvent db.events .circuit attemptId ↔ attemptId ∈ s.delivered
  crossed : s.crossed → ∃ status, s.circuit = some status ∧ status.state.leaseId.isSome

theorem CircuitRow.of_inj {status status' : StationKeyCircuitStatus} {mark mark' : Option Bool}
    (h : CircuitRow.of status mark = .of status' mark') : status = status' ∧ mark = mark' := by
  have hread := congrArg rowToStatus h
  rw [rowToStatus_of, rowToStatus_of] at hread
  exact ⟨Except.ok.inj hread, congrArg (·.boundaryCrossed) h⟩

section Transactions
variable {db db' : CircuitDb} {s : OnceCircuit}

theorem Agrees.circuit (h : Agrees db s) : db.circuit = s.circuit := by
  unfold CircuitDb.circuit
  rw [h.row]
  cases s.circuit with
  | none => rfl
  | some status =>
    show (rowToStatus (.of status s.mark)).toOption = some status
    rw [rowToStatus_of]
    rfl

theorem Agrees.foundRow (h : Agrees db s) (revision : UInt64) :
    db.foundRow revision = .of (s.found revision) s.mark := by
  unfold CircuitDb.foundRow OnceCircuit.found
  rw [h.row]
  cases hcircuit : s.circuit with
  | some status => rfl
  | none =>
    have hmark : s.mark = none := by
      unfold OnceCircuit.mark
      rw [if_neg]
      intro hcrossed
      obtain ⟨status, hsome, -⟩ := h.crossed hcrossed
      simp [hcircuit] at hsome
    rw [hmark]
    rfl

theorem Agrees.status (h : Agrees db s) (revision : UInt64) :
    db.status revision = s.found revision := by
  unfold CircuitDb.status OnceCircuit.found
  rw [h.row]
  cases s.circuit with
  | none => rfl
  | some status =>
    show ((rowToStatus (.of status s.mark)).toOption).getD _ = status
    rw [rowToStatus_of]
    rfl

/-- Only an active lease is marked as having crossed the boundary. -/
theorem Agrees.active (h : Agrees db s) (revision : UInt64) (hcrossed : s.crossed) :
    (s.found revision).state.leaseId.isSome := by
  obtain ⟨status, hsome, hactive⟩ := h.crossed hcrossed
  unfold OnceCircuit.found
  rw [hsome]
  exact hactive

/-- An operation that leaves the circuit as found leaves the row as found. -/
theorem Agrees.kept (h : Agrees db s) (now revision : UInt64) :
    Agrees { db with
        watermarkMs := max db.watermarkMs now, row := some (db.foundRow revision) }
      { s.tick now with circuit := some (s.found revision) } where
  clock := congrArg (max · now) h.clock
  row := congrArg some (h.foundRow revision)
  delivered := h.delivered
  crossed := fun hcrossed => ⟨_, rfl, h.active revision hcrossed⟩

/-- A circuit written by the reducer is in a row without a mark. -/
theorem Agrees.written {config : StationKeyCircuitConfig} {revision now : UInt64} {op : CircuitOp}
    {answer : CircuitReply} {c : StationKeyCircuit} (h : Agrees db s)
    (happly : ((s.found revision).circuit config).apply op = .ok (answer, c))
    (hmoved : (s.found revision).state.leaseId.isSome → c.status ≠ s.found revision) :
    Agrees { db with watermarkMs := max db.watermarkMs now, row := some (.of c.status none) }
      ((s.tick now).hand config (s.found revision) op) := by
  have hunmarked : (s.crossed && decide (c.status = s.found revision)) = false := by
    cases hcrossed : s.crossed with
    | false => rfl
    | true => simpa using hmoved (h.active revision hcrossed)
  rw [OnceCircuit.hand_ok happly]
  refine ⟨congrArg (max · now) h.clock, ?_, h.delivered, ?_⟩
  · show some (CircuitRow.of c.status none) = some (.of c.status (OnceCircuit.mark _))
    unfold OnceCircuit.mark OnceCircuit.tick
    rw [hunmarked]
    rfl
  · intro hcrossed
    exact absurd (hunmarked.symm.trans hcrossed) (by decide)

/-- The reducer left the circuit as it found it. -/
theorem Agrees.unmoved {config : StationKeyCircuitConfig} {revision now : UInt64} {op : CircuitOp}
    {answer : CircuitReply} {c : StationKeyCircuit} (h : Agrees db s)
    (happly : ((s.found revision).circuit config).apply op = .ok (answer, c))
    (hsame : c.status = s.found revision) :
    Agrees { db with
        watermarkMs := max db.watermarkMs now, row := some (db.foundRow revision) }
      ((s.tick now).hand config (s.found revision) op) := by
  rw [OnceCircuit.hand_ok happly, hsame]
  have hmark : (s.crossed && decide (s.found revision = s.found revision)) = s.crossed := by simp
  refine ⟨congrArg (max · now) h.clock, ?_, h.delivered, fun hcrossed => ⟨_, rfl, ?_⟩⟩
  · show some (db.foundRow revision) = some (.of (s.found revision) (OnceCircuit.mark _))
    unfold OnceCircuit.mark OnceCircuit.tick
    rw [hmark]
    exact congrArg some (h.foundRow revision)
  · exact h.active revision (hmark.symm.trans hcrossed)

/-- Half-Open with a probe on its way, the circuit admits nobody and stays as it is. -/
theorem CircuitMove.busy {c c' : StationKeyCircuit} {now deadline : UInt64} {lease : String}
    {admission : CircuitAdmission}
    (m : CircuitMove c (.admitAttempt now deadline lease) (.admission admission) c')
    (hactive : c.state.leaseId.isSome) : admission = .deniedHalfOpenLease ∧ c' = c := by
  cases m with
  | admitBusy => exact ⟨rfl, rfl⟩
  | admitReached hs | admitAdopt hs | admitClosed hs | admitOpenAdopt hs | admitOpen hs
  | admitProbe hs | admitIdle hs =>
    rw [hs] at hactive
    cases hactive

theorem Agrees.admitAttempt {policy : CircuitPolicy} {now deadline : UInt64} {attemptId : String}
    {result : CircuitAdmissionResult} (h : Agrees db s) (hs : StoreSound db)
    (hok : db.admitAttempt policy now deadline attemptId = .ok (result, db')) :
    Agrees db' ((s.tick now).hand policy.config (s.found policy.policyRevision)
      (.admitAttempt (s.tick now).clockMs deadline attemptId)) := by
  obtain ⟨hr, hid⟩ := admitAttempt_requires hok
  obtain ⟨-, admission, c, hadmit, -, -, rfl⟩ := (admitAttempt_ok hs hr hid).mp hok
  rw [h.status, h.clock] at hadmit
  have happly : ((s.found policy.policyRevision).circuit policy.config).apply
      (.admitAttempt (s.tick now).clockMs deadline attemptId) = .ok (.admission admission, c) :=
    map_ok.mpr ⟨_, hadmit, rfl⟩
  have m := admitAttempt_moves hadmit
  rw [h.status]
  split
  · rename_i hwrites
    refine h.written happly fun hactive hsame => ?_
    obtain ⟨rfl, -⟩ := m.busy hactive
    rcases hwrites with hadmitted | hadmitted | hmoved
    · cases hadmitted
    · cases hadmitted
    · exact hmoved hsame
  · rename_i hwrites
    have hsame : c.status = s.found policy.policyRevision := by
      by_contra hmoved
      exact hwrites (.inr (.inr hmoved))
    exact h.unmoved happly hsame

/-- One more event, of the kind results have. -/
theorem Agrees.recorded {event : CircuitEvent} (h : Agrees db s)
    (hkind : event.effectKind = .circuit) :
    Agrees { db with events := db.events ++ [event] }
      { s with delivered := s.delivered ++ [event.attemptId] } where
  clock := h.clock
  row := h.row
  delivered := fun attemptId => by
    rw [hasEvent_append, h.delivered, List.mem_append, List.mem_singleton, and_iff_right hkind,
      eq_comm]
  crossed := h.crossed

/-- A result that was taken did something to the active lease, if there was one. -/
theorem CircuitMove.ends {c c' : StationKeyCircuit} {now : UInt64} {lease : Option String}
    {success crossed : Bool} {transition : CircuitTransition}
    (m : CircuitMove c (.finish now lease success crossed) (.transition transition) c')
    (htaken : transition ≠ .ignoredLateResult) (hactive : c.state.leaseId.isSome) :
    c'.state.leaseId = none := by
  cases m with
  | finishLate => exact absurd rfl htaken
  | finishReleased | finishExpired | finishCloses | finishRecovers | finishReopens => rfl
  | finishUncrossed hs | finishSuccess hs | finishFailure hs | finishOpens hs =>
    rw [hs] at hactive
    cases hactive

theorem Agrees.finishAttempt {input : CircuitTerminalInput} {result : CircuitTerminalResult}
    (h : Agrees db s) (hs : StoreSound db) (hok : db.finishAttempt input = .ok (result, db')) :
    Agrees db' ((s.tick input.nowMs).deliver leaseRevisionMismatch input) := by
  obtain ⟨-, -, -, hfinishes⟩ := finishAttempt_ok hs hok
  rw [h.status] at hfinishes
  have hfound : (s.tick input.nowMs).found input.policy.policyRevision =
      s.found input.policy.policyRevision := rfl
  unfold OnceCircuit.deliver
  rw [hfound]
  cases hfinishes with
  | duplicate hduplicate =>
    have hdelivered : input.attemptId ∈ (s.tick input.nowMs).delivered :=
      (h.delivered _).mp hduplicate
    rw [if_pos hdelivered]
    exact h.kept ..
  | late hnew hignored =>
    have hdelivered : input.attemptId ∉ (s.tick input.nowMs).delivered :=
      fun hmem => hnew ((h.delivered _).mpr hmem)
    rw [if_neg hdelivered]
    split
    · exact (h.kept input.nowMs _).recorded rfl
    · rename_i hmatch
      have hfinish := hignored.resolve_left hmatch
      rw [h.clock] at hfinish
      exact (h.unmoved (finish_applies hfinish) rfl).recorded rfl
  | applied hnew hmatch hfinish happlied hfits =>
    have hdelivered : input.attemptId ∉ (s.tick input.nowMs).delivered :=
      fun hmem => hnew ((h.delivered _).mpr hmem)
    rw [if_neg hdelivered, if_neg (by simp [hmatch])]
    have m := finish_moves hfinish
    rw [h.clock] at hfinish
    refine (h.written (finish_applies hfinish) fun hactive hsame => ?_).recorded rfl
    have hended : (s.found input.policy.policyRevision).state.leaseId = none :=
      hsame ▸ m.ends happlied hactive
    rw [hended] at hactive
    cases hactive

/-- The reducer reaps the active lease, when it has run out, and then there is none. -/
theorem CircuitMove.reaps {c c' : StationKeyCircuit} {now : UInt64} {lease : String}
    (m : CircuitMove c (.reapExpiredLease now lease) (.reaped true) c') :
    c.state.leaseId = some lease ∧ c.state.leaseExpiresAtMs.any (· ≤ now) ∧
      c'.state.leaseId = none := by
  cases m with
  | reapReopens hs hlate =>
    rw [hs]
    exact ⟨rfl, by simpa using hlate, rfl⟩

/-- The result of the active lease is not ignored. -/
theorem CircuitMove.names {c c' : StationKeyCircuit} {now : UInt64} {lease : String}
    {success crossed : Bool} {transition : CircuitTransition}
    (m : CircuitMove c (.finish now (some lease) success crossed) (.transition transition) c')
    (hlease : c.state.leaseId = some lease) : transition ≠ .ignoredLateResult := by
  cases m with
  | finishLate hopen hlate =>
    rw [hlease] at hlate
    exact absurd hlate (by simp)
  | _ => exact nofun

/-- The reaper's query selects a row when its lease has run out. -/
theorem expired_of {status : StationKeyCircuitStatus} {mark : Option Bool} {now : UInt64} :
    (CircuitRow.of status mark).expired now = (status.state.leaseId.isSome &&
      status.state.leaseExpiresAtMs.any (· ≤ now)) := by
  obtain ⟨policyRevision, leasePolicy, state⟩ := status
  cases state <;> rfl

theorem Agrees.circuit_of_row (h : Agrees db s) {status : StationKeyCircuitStatus}
    {mark : Option Bool} (hrow : db.row = some (.of status mark)) :
    s.circuit = some status ∧ mark = s.mark := by
  rw [h.row] at hrow
  cases hcircuit : s.circuit with
  | none => simp [hcircuit] at hrow
  | some status' =>
    rw [hcircuit] at hrow
    obtain ⟨rfl, rfl⟩ := CircuitRow.of_inj (Option.some.inj hrow)
    exact ⟨rfl, rfl⟩

theorem Agrees.logged {event : CircuitEvent} {events : List CircuitEvent} (h : Agrees db s)
    (hlogged : Logged db.events event events) (hkind : event.effectKind = .lease) :
    Agrees { db with events } s :=
  ⟨h.clock, h.row, fun attemptId => (logged_events hlogged hkind attemptId).trans
    (h.delivered attemptId), h.crossed⟩

theorem Agrees.ticks (h : Agrees db s) (now : UInt64) :
    Agrees { db with watermarkMs := max db.watermarkMs now } (s.tick now) :=
  ⟨congrArg (max · now) h.clock, h.row, h.delivered, h.crossed⟩

theorem OnceCircuit.reap_due {policy : CircuitPolicy} {status : StationKeyCircuitStatus}
    {lease : String} (hsome : s.circuit = some status) (hlease : status.state.leaseId = some lease)
    (hlate : status.state.leaseExpiresAtMs.any (· ≤ s.clockMs)) :
    s.reap policy = s.hand policy.reaperConfig status
      (if s.crossed then .reapExpiredLease s.clockMs lease
      else .finish s.clockMs (some lease) false false) := by
  simp only [OnceCircuit.reap, hsome, hlease, hlate, if_true]

theorem OnceCircuit.reap_kept {policy : CircuitPolicy}
    (hkept : ∀ status, s.circuit = some status →
      (CircuitRow.of status s.mark).expired s.clockMs = false) : s.reap policy = s := by
  unfold OnceCircuit.reap
  cases hsome : s.circuit with
  | none => rfl
  | some status =>
    have hkept := hkept status hsome
    rw [expired_of] at hkept
    cases hlease : status.state.leaseId with
    | none => simp only [hlease]
    | some lease =>
      have hwaits : status.state.leaseExpiresAtMs.any (· ≤ s.clockMs) = false := by
        simpa [hlease] using hkept
      simp [hlease, hwaits]

theorem OnceCircuit.mark_true : s.mark = some true ↔ s.crossed = true := by
  unfold OnceCircuit.mark
  cases s.crossed <;> simp

theorem Agrees.reapExpiredLeases {policy : CircuitPolicy} {now : UInt64} {reaped : Nat}
    (h : Agrees db s) (hs : StoreSound db)
    (hok : db.reapExpiredLeases now policy = .ok (reaped, db')) :
    Agrees db' ((s.tick now).reap policy) := by
  obtain ⟨-, hreaps⟩ := reapExpiredLeases_ok hs hok
  have hclock : max db.watermarkMs now = (s.tick now).clockMs := congrArg (max · now) h.clock
  cases hreaps with
  | nothing hnothing =>
    rw [OnceCircuit.reap_kept fun status hsome => ?_]
    · exact h.ticks now
    · have hrow : db.row = some (.of status s.mark) := by
        rw [h.row, show s.circuit = some status from hsome]
        rfl
      exact hclock ▸ hnothing _ hrow
  | @reopened status lease c events hrow hreap hfits hlogged =>
    obtain ⟨hsome, hmark⟩ := h.circuit_of_row hrow
    obtain ⟨hlease, hlate, hended⟩ := (reapExpiredLease_moves hreap).reaps
    have hfound : s.found 1 = status := congrArg (Option.getD · _) hsome
    have htick : (s.tick now).circuit = some status := hsome
    rw [OnceCircuit.reap_due htick hlease (hclock ▸ hlate),
      if_pos (show (s.tick now).crossed = true from OnceCircuit.mark_true.mp hmark.symm)]
    subst hfound
    refine (h.written (reap_applies (hclock ▸ hreap)) fun _ hsame => ?_).logged hlogged rfl
    have hended : (s.found 1).state.leaseId = none := hsame ▸ hended
    exact absurd (hended.symm.trans hlease) (by simp)
  | @released status crossed lease c transition events hrow hmark hlease hlate hfinish hfits
      hlogged =>
    obtain ⟨hsome, rfl⟩ := h.circuit_of_row hrow
    have hfound : s.found 1 = status := congrArg (Option.getD · _) hsome
    have htick : (s.tick now).circuit = some status := hsome
    rw [OnceCircuit.reap_due htick hlease (hclock ▸ hlate),
      if_neg (show ¬ (s.tick now).crossed = true from fun h => hmark (OnceCircuit.mark_true.mpr h))]
    subst hfound
    have m := finish_moves hfinish
    refine (h.written (finish_applies (hclock ▸ hfinish)) fun hactive hsame => ?_).logged hlogged rfl
    have hended : (s.found 1).state.leaseId = none := hsame ▸ m.ends (m.names hlease) hactive
    exact absurd (hended.symm.trans hlease) (by simp)

/-- The columns name the active lease when the state does. -/
theorem names_of {state : StationKeyCircuitState} {attemptId : String} {leaseRevision : UInt64} :
    ((StateValues.of state).state = .halfOpen ∧
      (StateValues.of state).leaseAttemptId = some attemptId ∧
      (StateValues.of state).leaseId = some attemptId ∧
      (StateValues.of state).leaseRevision = some leaseRevision) ↔
    (state.leaseId = some attemptId ∧ state.leaseRevision = some leaseRevision) := by
  cases state <;> simp [StateValues.of]

/-- The boundary is marked in the row of the lease that is named, and in no other. -/
theorem markBoundaryCrossed_of {status : StationKeyCircuitStatus} {mark : Option Bool}
    {attemptId : String} {leaseRevision now : UInt64} {marked : Bool}
    (hrow : db.row = some (.of status mark))
    (hok : db.markBoundaryCrossed attemptId leaseRevision now = .ok (marked, db')) :
    db' = { db with
      watermarkMs := max db.watermarkMs now
      row := some (.of status (if (status.state.leaseId = some attemptId ∧
        status.state.leaseRevision = some leaseRevision) ∧ mark = none then some true
        else mark)) } := by
  have hnames : _ ↔ _ := @names_of status.state attemptId leaseRevision
  simp only [CircuitDb.markBoundaryCrossed, ite_ok, throw_ok, bind_ok, false_and, exists_false,
    and_false, false_or, Prod.exists, advanceCircuitClock_ok, sqliteInteger_ok, and_assoc,
    exists_and_left, exists_eq_left] at hok
  obtain ⟨-, -, _, -, -, _, rfl, -, hok⟩ := hok
  rw [hrow] at hok
  dsimp only at hok
  split at hok
  · rename_i hactive
    cases hok
    rw [if_pos ⟨hnames.mp ⟨hactive.1, hactive.2.1, hactive.2.2.1, hactive.2.2.2.1⟩,
      hactive.2.2.2.2⟩]
    rfl
  · rename_i hactive
    cases hok
    rw [if_neg fun h => hactive ⟨(hnames.mpr h.1).1, (hnames.mpr h.1).2.1, (hnames.mpr h.1).2.2.1,
      (hnames.mpr h.1).2.2.2, h.2⟩, ← hrow]

theorem Agrees.markBoundaryCrossed {attemptId : String} {leaseRevision now : UInt64} {marked : Bool}
    (h : Agrees db s)
    (hok : db.markBoundaryCrossed attemptId leaseRevision now = .ok (marked, db')) :
    Agrees db' ((s.tick now).cross attemptId leaseRevision) := by
  cases hsome : s.circuit with
  | none =>
    have hrow : db.row = none := by rw [h.row, hsome]; rfl
    simp only [CircuitDb.markBoundaryCrossed, ite_ok, throw_ok, bind_ok, false_and, exists_false,
      and_false, false_or, Prod.exists, advanceCircuitClock_ok, and_assoc, exists_and_left,
      exists_eq_left, hrow, pure_ok] at hok
    obtain ⟨-, _, -, _, -, -, heq⟩ := hok
    cases heq
    have hcross : (s.tick now).cross attemptId leaseRevision = s.tick now := by
      simp only [OnceCircuit.cross, OnceCircuit.tick, hsome]
    rw [hcross, ← hrow]
    exact h.ticks now
  | some status =>
    have hrow : db.row = some (.of status s.mark) := by rw [h.row, hsome]; rfl
    rw [markBoundaryCrossed_of hrow hok]
    simp only [OnceCircuit.cross, OnceCircuit.tick, hsome]
    refine ⟨congrArg (max · now) h.clock, ?_, h.delivered, fun hcrossed => ⟨status, rfl, ?_⟩⟩
    · refine congrArg (fun mark => some (CircuitRow.of status mark)) ?_
      unfold OnceCircuit.mark
      by_cases hnamed : status.state.leaseId = some attemptId ∧
        status.state.leaseRevision = some leaseRevision
      · cases s.crossed <;> simp [hnamed]
      · cases s.crossed <;> simp_all
    · rcases (Bool.or_eq_true _ _).mp hcrossed with hcrossed | hnamed
      · obtain ⟨status', hsome', hactive⟩ := h.crossed hcrossed
        rw [hsome] at hsome'
        exact Option.some.inj hsome' ▸ hactive
      · have hlease : status.state.leaseId = some attemptId := by simp_all
        rw [hlease]
        rfl

end Transactions

theorem Agrees.next {db : CircuitDb} {s : OnceCircuit} {op : StoreOp} (h : Agrees db s)
    (hs : StoreSound db) {db' : CircuitDb} (happly : db.apply op = .ok db') :
    Agrees db' (s.next leaseRevisionMismatch op) := by
  cases op with
  | admitAttempt policy now deadline attemptId =>
    obtain ⟨⟨result, db''⟩, hok, rfl⟩ := map_ok.mp happly
    exact h.admitAttempt hs hok
  | finishAttempt input =>
    obtain ⟨⟨result, db''⟩, hok, rfl⟩ := map_ok.mp happly
    exact h.finishAttempt hs hok
  | reapExpiredLeases now policy =>
    obtain ⟨⟨reaped, db''⟩, hok, rfl⟩ := map_ok.mp happly
    exact h.reapExpiredLeases hs hok
  | markBoundaryCrossed attemptId leaseRevision now =>
    obtain ⟨⟨marked, db''⟩, hok, rfl⟩ := map_ok.mp happly
    exact h.markBoundaryCrossed hok
  | advanceCircuitClock now =>
    obtain ⟨⟨logical, db''⟩, hclock, rfl⟩ := map_ok.mp happly
    obtain ⟨-, -, rfl⟩ := advanceCircuitClock_ok.mp hclock
    exact h.ticks now

theorem empty_agrees (key : CircuitKey) : Agrees (.empty key) .initial where
  clock := rfl
  row := rfl
  delivered := fun attemptId => by simp [CircuitDb.empty, OnceCircuit.initial, HasEvent]
  crossed := nofun

theorem history_agrees (key : CircuitKey) (ops : List StoreOp) :
    Agrees (history key ops) (takenOnce leaseRevisionMismatch key ops) := by
  have hinitial : StoreSound (.empty key) ∧ Agrees (.empty key)
      (Runs.run (OnceCircuit.next leaseRevisionMismatch) .initial []) :=
    ⟨empty_sound key, empty_agrees key⟩
  refine (Runs.record_invariant (fun db op done (h : StoreSound db ∧ Agrees db
    (Runs.run (OnceCircuit.next leaseRevisionMismatch) .initial done)) => ?_) hinitial ops).2
  refine ⟨h.1.next op, ?_⟩
  cases hop : db.apply op with
  | ok db' =>
    dsimp only
    rw [Runs.run_concat, CircuitDb.next_ok hop]
    exact h.2.next h.1 hop
  | error e =>
    have hfailed : db.next op = db := by
      unfold CircuitDb.next
      rw [hop]
    dsimp only
    rw [hfailed]
    exact h.2

/-! ### The reducer's time -/

/-- The reducer was given times in order, none ahead of the clock. -/
structure InOrder (s : OnceCircuit) : Prop where
  ordered : (s.handed.map (·.nowMs)).Pairwise (· ≤ ·)
  past : ∀ op ∈ s.handed, op.nowMs ≤ s.clockMs

theorem InOrder.tick {s : OnceCircuit} (h : InOrder s) (now : UInt64) : InOrder (s.tick now) where
  ordered := h.ordered
  past := fun op hop => by
    have hpast := h.past op hop
    unfold OnceCircuit.tick
    simp only [UInt64.le_iff_toNat_le, UInt64.toNat_max] at hpast ⊢
    omega

theorem InOrder.hand {s : OnceCircuit} (h : InOrder s) (config : StationKeyCircuitConfig)
    (status : StationKeyCircuitStatus) {op : CircuitOp} (hnow : op.nowMs = s.clockMs) :
    InOrder (s.hand config status op) := by
  unfold OnceCircuit.hand
  constructor
  · dsimp only
    rw [List.map_append, List.pairwise_append]
    refine ⟨h.ordered, List.pairwise_singleton .., fun t ht u hu => ?_⟩
    obtain ⟨earlier, hmem, rfl⟩ := List.mem_map.mp ht
    obtain rfl : u = op.nowMs := by simpa using hu
    exact hnow ▸ h.past earlier hmem
  · intro earlier hmem
    rcases List.mem_append.mp hmem with hmem | hmem
    · exact h.past earlier hmem
    · obtain rfl := List.mem_singleton.mp hmem
      exact hnow ▸ UInt64.le_refl _

theorem InOrder.next {conflicts : StationKeyCircuitStatus → CircuitTerminalInput → Bool}
    {s : OnceCircuit} (h : InOrder s) (op : StoreOp) : InOrder (s.next conflicts op) := by
  cases op with
  | admitAttempt policy now deadline attemptId => exact (h.tick now).hand _ _ rfl
  | finishAttempt input =>
    have hticked := h.tick input.nowMs
    show InOrder (OnceCircuit.deliver ..)
    unfold OnceCircuit.deliver
    split
    · exact ⟨hticked.ordered, hticked.past⟩
    · dsimp only
      split
      · exact ⟨hticked.ordered, hticked.past⟩
      · refine InOrder.hand ?_ _ _ rfl
        exact ⟨hticked.ordered, hticked.past⟩
  | reapExpiredLeases now policy =>
    show InOrder (OnceCircuit.reap ..)
    unfold OnceCircuit.reap
    split
    · exact h.tick now
    · split
      · exact h.tick now
      · split
        · refine (h.tick now).hand _ _ ?_
          split <;> rfl
        · exact h.tick now
  | markBoundaryCrossed attemptId leaseRevision now =>
    show InOrder (OnceCircuit.cross ..)
    unfold OnceCircuit.cross
    split
    · exact h.tick now
    · exact ⟨(h.tick now).ordered, (h.tick now).past⟩
  | advanceCircuitClock now => exact h.tick now

theorem takenOnce_inOrder (conflicts : StationKeyCircuitStatus → CircuitTerminalInput → Bool)
    (key : CircuitKey) (ops : List StoreOp) : InOrder (takenOnce conflicts key ops) :=
  Runs.run_invariant (fun _ op h => h.next op) ⟨List.Pairwise.nil, nofun⟩ _

end RelayPool.Circuit
