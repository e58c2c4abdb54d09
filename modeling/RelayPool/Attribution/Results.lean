import RelayPool.Attribution.Ledger

/-! What a result does to the streak of a circuit.

The first result of an attempt moves a Closed circuit as the circuit takes it
(`finishAttempt_closed`); an operation that delivers no result leaves the streak
of a Closed circuit alone (`NoResult.streak`). Whatever closes the circuit, it
starts without failures. -/
namespace RelayPool.Attribution
open RelayPool.Circuit Fallible

/-! ### What the circuit makes of a result -/

/-- A streak saturates nowhere: Closed is below the last threshold it was compared with. -/
theorem move_unsaturated {c c' : StationKeyCircuit} {op : CircuitOp} {reply : CircuitReply}
    (m : CircuitMove c op reply c')
    (h : c.state.IsClosed → c.state.consecutiveFailures.toNat < 65535) :
    c'.state.IsClosed → c'.state.consecutiveFailures.toNat < 65535 := by
  cases m with
  | admitAdopt hs =>
    rw [hs] at h
    exact h
  | admitClosed | admitOpen | admitBusy | finishUncrossed | finishLate | reapNothing => exact h
  | finishSuccess => exact fun _ => by simp
  | @finishFailure now lease r f l hs hf =>
    intro _
    rw [UInt16.lt_iff_toNat_lt] at hf
    have := c.config.consecutiveFailureThreshold.toNat_lt
    show (f.saturatingAdd 1).toNat < 65535
    omega
  | finishCloses => exact fun _ => by simp
  | admitReached | admitOpenAdopt | admitProbe | admitIdle | finishOpens | finishReleased
  | finishExpired | finishRecovers | finishReopens | reapReopens => exact fun h => h.elim

theorem durable_unsaturated {status : StationKeyCircuitStatus} (h : Durable status) :
    status.state.IsClosed → status.state.consecutiveFailures.toNat < 65535 := by
  obtain ⟨v, steps, rfl⟩ := h
  have preserved : ∀ c s, (c.state.IsClosed → c.state.consecutiveFailures.toNat < 65535) →
      ((step c s).state.IsClosed → (step c s).state.consecutiveFailures.toNat < 65535) := by
    intro c s hc
    rcases step_moves c s with ⟨-, heq⟩ | ⟨answer, -, m⟩
    · rw [heq]
      exact hc
    · exact move_unsaturated m hc
  have initial : v.newCircuit.state.IsClosed →
      v.newCircuit.state.consecutiveFailures.toNat < 65535 :=
    fun _ => show (0 : UInt16).toNat < 65535 by decide
  exact Runs.run_invariant preserved initial steps

/-- The consecutive failures of the key. -/
def CircuitDb.streak (db : CircuitDb) : Nat := db.state.consecutiveFailures.toNat

theorem streak_unsaturated {db : CircuitDb} (hs : StoreSound db) (hclosed : db.state.IsClosed) :
    CircuitDb.streak db < 65535 :=
  durable_unsaturated (hs.status (by decide)).2 hclosed

/-- The failures after an outcome. -/
def tally (failures : Nat) : CanonicalOutcome → Nat
  | .success => 0
  | .attributableFailure => failures + 1
  | .excluded => failures

/-- What the circuit takes a result for. -/
def CircuitTerminalInput.taken (input : CircuitTerminalInput) : CanonicalOutcome :=
  if !(input.boundaryCrossed && input.affectsCircuit) then .excluded
  else if input.success then .success
  else .attributableFailure

/-- The state a move has left in the row. -/
theorem state_of_written {db : CircuitDb} {c : StationKeyCircuit}
    (hrow : db.row = some (.of c.status none)) : db.state = c.state :=
  db.state_of_row hrow ⟨none, rfl⟩

section Results
variable {db db' : CircuitDb} {input : CircuitTerminalInput} {result : CircuitTerminalResult}

theorem finish_closed {c c' : StationKeyCircuit} {now : UInt64} {lease : Option String}
    {success crossed : Bool} {transition : CircuitTransition}
    (m : CircuitMove c (.finish now lease success crossed) (.transition transition) c')
    (hclosed : c.state.IsClosed) (hlt : c.state.consecutiveFailures.toNat < 65535) :
    c'.state.consecutiveFailures.toNat = tally c.state.consecutiveFailures.toNat
      (if !crossed then .excluded else if success then .success else .attributableFailure) := by
  cases m with
  | finishUncrossed | finishSuccess => rfl
  | finishFailure hs hf | finishOpens hs hf =>
    rw [hs] at hlt ⊢
    simp only [StationKeyCircuitState.consecutiveFailures] at hlt
    simp [tally]
    omega
  | finishLate hopen => exact absurd hclosed hopen
  | finishReleased hs | finishExpired hs | finishCloses hs | finishRecovers hs
  | finishReopens hs => simp [hs] at hclosed

/-- A result leaves the circuit as it was, or moves it as the reducer does. -/
theorem finishAttempt_state (hs : StoreSound db) (h : db.finishAttempt input = .ok (result, db')) :
    (db'.state = db.state ∧
      (HasEvent db.events .circuit input.attemptId ∨ ¬ db.state.IsClosed)) ∨
    (¬ HasEvent db.events .circuit input.attemptId ∧
      ∃ (c c' : StationKeyCircuit) (now : UInt64) (transition : CircuitTransition),
        c.state = db.state ∧ db'.state = c'.state ∧ CircuitMove c (.finish now input.leaseId
          input.success (input.boundaryCrossed && input.affectsCircuit)) (.transition transition)
          c') := by
  obtain ⟨hr, hnow, hrevision, hfinishes⟩ := finishAttempt_ok hs h
  have hholds := (hs.status hr).1
  have hstate := db.status_state input.policy.policyRevision
  cases hfinishes with
  | duplicate hduplicate =>
    exact .inl ⟨(CircuitDb.state_of_row rfl hholds).trans hstate, .inl hduplicate⟩
  | late _ hignored =>
    refine .inl ⟨(CircuitDb.state_of_row rfl hholds).trans hstate, .inr ?_⟩
    rw [← hstate]
    rcases hignored with hmismatch | hignored
    · exact mismatch_not_closed hmismatch
    · exact ignored_not_closed hignored
  | applied hnew hmatch hfinish happlied hfits =>
    exact .inr ⟨hnew, _, _, _, _, hstate, state_of_written rfl, finish_moves hfinish⟩

/-- The first result of an attempt moves a Closed circuit as it is taken. -/
theorem finishAttempt_closed (hs : StoreSound db)
    (hnew : ¬ HasEvent db.events .circuit input.attemptId) (hclosed : db.state.IsClosed)
    (h : db.finishAttempt input = .ok (result, db')) :
    CircuitDb.streak db' = tally (CircuitDb.streak db) (CircuitTerminalInput.taken input) := by
  have hlt := streak_unsaturated hs hclosed
  unfold CircuitDb.streak at hlt ⊢
  rcases finishAttempt_state hs h with ⟨-, hseen | hopen⟩ | ⟨-, c, c', now, t, hstate, hstate', m⟩
  · exact absurd hseen hnew
  · exact absurd hclosed hopen
  · rw [← hstate] at hclosed hlt ⊢
    rw [hstate']
    exact finish_closed m hclosed hlt

/-- Another result of an attempt does nothing. -/
theorem finishAttempt_again (hs : StoreSound db)
    (hseen : HasEvent db.events .circuit input.attemptId)
    (h : db.finishAttempt input = .ok (result, db')) : db'.state = db.state := by
  rcases finishAttempt_state hs h with ⟨hsame, -⟩ | ⟨hnew, -⟩
  · exact hsame
  · exact absurd hseen hnew

theorem finish_closes {c c' : StationKeyCircuit} {now : UInt64} {lease : Option String}
    {success crossed : Bool} {transition : CircuitTransition}
    (m : CircuitMove c (.finish now lease success crossed) (.transition transition) c')
    (hopen : ¬ c.state.IsClosed) (hclosed : c'.state.IsClosed) :
    c'.state.consecutiveFailures = 0 := by
  cases m with
  | finishUncrossed | finishLate => exact absurd hclosed hopen
  | finishSuccess hs | finishFailure hs => exact absurd (by rw [hs]; trivial) hopen
  | finishCloses => rfl
  | finishOpens | finishReleased | finishExpired | finishRecovers | finishReopens =>
    exact hclosed.elim

/-- A circuit that a result closes starts without failures. -/
theorem finishAttempt_closes (hs : StoreSound db) (hopen : ¬ db.state.IsClosed)
    (h : db.finishAttempt input = .ok (result, db')) (hclosed : db'.state.IsClosed) :
    db'.state.consecutiveFailures = 0 := by
  rcases finishAttempt_state hs h with ⟨hsame, -⟩ | ⟨-, c, c', now, t, hstate, hstate', m⟩
  · exact absurd (hsame ▸ hclosed) hopen
  · rw [← hstate] at hopen
    rw [hstate'] at hclosed ⊢
    exact finish_closes m hopen hclosed

/-- Only its own attempt gets an event from a result. -/
theorem finishAttempt_events (hs : StoreSound db)
    (h : db.finishAttempt input = .ok (result, db')) (attemptId : String) :
    HasEvent db'.events .circuit attemptId ↔
      HasEvent db.events .circuit attemptId ∨ attemptId = input.attemptId := by
  obtain ⟨-, -, -, hfinishes⟩ := finishAttempt_ok hs h
  cases hfinishes with
  | duplicate hduplicate =>
    refine ⟨.inl, fun hor => hor.elim id ?_⟩
    rintro rfl
    exact hduplicate
  | late | applied =>
    rw [hasEvent_append]
    simp [CircuitDb.terminalEvent, eq_comm]

end Results

/-! ### The circuit between results -/

/-- The operation counts no result. -/
def CircuitOp.Uncounted (op : CircuitOp) : Prop :=
  ∀ now lease success, op ≠ .finish now lease success true

theorem uncounted_closed {c c' : StationKeyCircuit} {op : CircuitOp} {reply : CircuitReply}
    (m : CircuitMove c op reply c') (huncounted : CircuitOp.Uncounted op) :
    (c'.state.IsClosed → c.state.IsClosed) ∧
      (c.state.IsClosed → c'.state.consecutiveFailures = c.state.consecutiveFailures) := by
  cases m with
  | admitAdopt hs | admitReached hs =>
    rw [hs]
    exact ⟨fun _ => trivial, fun _ => rfl⟩
  | admitClosed | admitOpen | admitBusy | finishUncrossed | finishLate | reapNothing =>
    exact ⟨id, fun _ => rfl⟩
  | finishSuccess | finishFailure | finishOpens | finishExpired | finishCloses | finishRecovers
  | finishReopens => exact (huncounted _ _ _ rfl).elim
  | admitOpenAdopt hs | admitProbe hs | admitIdle hs | finishReleased hs | reapReopens hs =>
    rw [hs]
    exact ⟨fun h => h.elim, fun h => h.elim⟩

/-- What an operation without a result can do. -/
structure NoResult (db db' : CircuitDb) : Prop where
  state : db'.state = db.state ∨ ∃ c c' op reply, c.state = db.state ∧ db'.state = c'.state ∧
    CircuitOp.Uncounted op ∧ CircuitMove c op reply c'
  events : ∀ attemptId, HasEvent db'.events .circuit attemptId ↔ HasEvent db.events .circuit attemptId

theorem circuitOnly_ok {db db' : CircuitDb} (hs : StoreSound db) (call : CircuitOnly)
    (h : db.apply call.op = .ok db') : NoResult db db' := by
  obtain ⟨op, hnone⟩ := call
  cases op with
  | admitAttempt policy now deadline attemptId =>
    obtain ⟨⟨result, db''⟩, hok, rfl⟩ := map_ok.mp h
    obtain ⟨hr, hid⟩ := admitAttempt_requires hok
    obtain ⟨-, admission, c, hadmit, -, -, rfl⟩ := (admitAttempt_ok hs hr hid).mp hok
    refine ⟨?_, fun _ => Iff.rfl⟩
    split
    · exact .inr ⟨_, c, _, _, db.status_state policy.policyRevision, state_of_written rfl,
        fun _ _ _ => by simp, admitAttempt_moves hadmit⟩
    · exact .inl ((CircuitDb.state_of_row rfl (hs.status hr).1).trans (db.status_state _))
  | finishAttempt input => exact absurd rfl (hnone input)
  | reapExpiredLeases now policy =>
    obtain ⟨⟨reaped, db''⟩, hok, rfl⟩ := map_ok.mp h
    obtain ⟨-, hreaps⟩ := reapExpiredLeases_ok hs hok
    cases hreaps with
    | nothing => exact ⟨.inl rfl, fun _ => Iff.rfl⟩
    | reopened hrow hreap hfits hlogged =>
      exact ⟨.inr ⟨_, _, _, _, (db.state_of_row hrow ⟨_, rfl⟩).symm, state_of_written rfl,
        fun _ _ _ => by simp, reapExpiredLease_moves hreap⟩, logged_events hlogged rfl⟩
    | released hrow hcrossed hlease hlate hfinish hfits hlogged =>
      exact ⟨.inr ⟨_, _, _, _, (db.state_of_row hrow ⟨_, rfl⟩).symm, state_of_written rfl,
        fun _ _ _ => by simp, finish_moves hfinish⟩, logged_events hlogged rfl⟩
  | markBoundaryCrossed attemptId leaseRevision now =>
    obtain ⟨⟨marked, db''⟩, hok, rfl⟩ := map_ok.mp h
    obtain ⟨-, rfl | ⟨status, hrow, rfl⟩⟩ := markBoundaryCrossed_ok hs hok
    · exact ⟨.inl rfl, fun _ => Iff.rfl⟩
    · refine ⟨.inl ?_, fun _ => Iff.rfl⟩
      exact (CircuitDb.state_of_row rfl ⟨some true, rfl⟩).trans
        (db.state_of_row hrow ⟨none, rfl⟩).symm
  | advanceCircuitClock now =>
    obtain ⟨⟨logical, db''⟩, hok, rfl⟩ := map_ok.mp h
    obtain ⟨-, -, rfl⟩ := advanceCircuitClock_ok.mp hok
    exact ⟨.inl rfl, fun _ => Iff.rfl⟩

/-- Without a result the circuit does not close, and a Closed one keeps its streak. -/
theorem NoResult.streak {db db' : CircuitDb} (h : NoResult db db') :
    (db'.state.IsClosed → db.state.IsClosed) ∧
      (db.state.IsClosed → CircuitDb.streak db' = CircuitDb.streak db) := by
  unfold CircuitDb.streak
  rcases h.state with hsame | ⟨c, c', op, reply, hstate, hstate', huncounted, m⟩
  · rw [hsame]
    exact ⟨id, fun _ => rfl⟩
  · rw [hstate', ← hstate]
    exact (uncounted_closed m huncounted).imp_right fun h hclosed => congrArg _ (h hclosed)

end RelayPool.Attribution
