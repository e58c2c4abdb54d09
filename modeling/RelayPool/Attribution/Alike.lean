import RelayPool.Attribution.Consistent

/-! Whether circuit and ledger attribute a failure alike.

The streak of a Closed circuit is meant to be a count over the ledger: the
attributable failures since the last success or, if later, since the circuit
was closed (`ledgerStreak`). An operation moves the streak as the ledger records
it exactly when it is `Alike`, and in a history of such operations the streak is
the ledger's (`attributed_alike`). -/
namespace RelayPool.Attribution
open RelayPool.Circuit Fallible

/-! ### Lists of attempts -/

section Lists
variable {α β γ : Type} {l : List α} {key : α → β}

/-- The one element with a value under `g` gives all of them. -/
theorem filterMap_single (h : (l.map key).Nodup) {x : α} (hx : x ∈ l) {g : α → Option γ} {y : γ}
    (hg : g x = some y) (hother : ∀ a ∈ l, key a ≠ key x → g a = none) : l.filterMap g = [y] := by
  induction l with
  | nil => cases hx
  | cons a rest ih =>
    obtain ⟨hfresh, hrest⟩ := List.nodup_cons.mp h
    rcases List.mem_cons.mp hx with rfl | hx
    · have hnone : rest.filterMap g = [] := by
        refine List.filterMap_eq_nil_iff.mpr fun b hb => ?_
        exact hother b (List.mem_cons_of_mem _ hb)
          fun heq => hfresh (heq ▸ List.mem_map_of_mem hb)
      rw [List.filterMap_cons_some hg, hnone]
    · have hne : key a ≠ key x := fun heq => hfresh (heq ▸ List.mem_map_of_mem hx)
      rw [List.filterMap_cons_none (hother a (List.mem_cons_self ..) hne)]
      exact ih hrest hx fun b hb => hother b (List.mem_cons_of_mem _ hb)

/-- As many elements satisfy `p` as `x` makes up for exactly when no other one does. -/
theorem countP_single (h : (l.map key).Nodup) {x : α} (hx : x ∈ l) (p : α → Bool) :
    l.countP p = (if p x then 1 else 0) ↔ ∀ a ∈ l, p a → key a = key x := by
  induction l with
  | nil => cases hx
  | cons a rest ih =>
    obtain ⟨hfresh, hrest⟩ := List.nodup_cons.mp h
    rw [List.countP_cons, List.forall_mem_cons]
    rcases List.mem_cons.mp hx with rfl | hx
    · have hothers : (∀ b ∈ rest, p b → key b = key x) ↔ rest.countP p = 0 := by
        rw [List.countP_eq_zero]
        refine forall₂_congr fun b hb => imp_congr_right fun _ => iff_of_false ?_ id
        exact fun heq => hfresh (heq ▸ List.mem_map_of_mem hb)
      rw [hothers]
      simp
    · have hne : key a ≠ key x := fun heq => hfresh (heq ▸ List.mem_map_of_mem hx)
      rw [← ih hrest hx]
      by_cases ha : p a
      · -- Both sides fail: `a` satisfies `p`, and if `x` does too there are two.
        refine iff_of_false (fun hcount => ?_) fun hall => hne (hall.1 ha)
        have hpos : p x → 0 < rest.countP p := fun hp => List.countP_pos_iff.mpr ⟨x, hx, hp⟩
        rw [if_pos ha] at hcount
        split at hcount
        · exact absurd hcount (by have := hpos ‹_›; omega)
        · omega
      · simp [ha]

end Lists

/-! ### What is recorded -/

/-- The outcomes the ledger is given in a step. -/
def recorded (s s' : Attempts) : List CanonicalOutcome :=
  (s.rows.zip s'.rows).filterMap fun (before, after) =>
    if before.terminal.isNone then after.terminal.map (·.outcome) else none

theorem recorded_map {s s' : Attempts} {f : AttemptRow → AttemptRow}
    (hrows : s'.rows = s.rows.map f) : recorded s s' = s.rows.filterMap fun row =>
      if row.terminal.isNone then (f row).terminal.map (·.outcome) else none := by
  have hzip : s.rows.zip (s.rows.map f) = s.rows.map fun row => (row, f row) := by
    simpa using List.zip_map' (f := id) (g := f) (l := s.rows)
  unfold recorded
  rw [hrows, hzip, List.filterMap_map]
  rfl

/-- Without a new terminal nothing is recorded. -/
theorem recorded_none {s s' : Attempts} {f : AttemptRow → AttemptRow}
    (hrows : s'.rows = s.rows.map f) (hf : ∀ row, row.terminal = none → (f row).terminal = none) :
    recorded s s' = [] := by
  rw [recorded_map hrows, List.filterMap_eq_nil_iff]
  intro row _
  split
  · simpa using hf row (by simpa using ‹row.terminal.isNone›)
  · rfl

theorem recorded_same {s s' : Attempts} (hrows : s'.rows = s.rows) : recorded s s' = [] :=
  recorded_none (f := id) (by simpa using hrows) fun _ => id

theorem recorded_admitRow (s : Attempts) (attemptId correlationId : String) (attemptIndex : UInt16)
    (eligibility : RoutingGenerationEligibility) :
    recorded s (s.admitRow attemptId correlationId attemptIndex eligibility) = [] := by
  unfold Attempts.admitRow
  split
  · exact recorded_same rfl
  · have hzip (row : AttemptRow) : s.rows.zip (s.rows ++ [row]) = s.rows.zip s.rows := by
      calc s.rows.zip (s.rows ++ [row])
          = (s.rows ++ []).zip (s.rows ++ [row]) := by rw [List.append_nil]
        _ = s.rows.zip s.rows ++ [].zip [row] := List.zip_append rfl
        _ = s.rows.zip s.rows := by rw [List.zip_nil_left, List.append_nil]
    have hsame : recorded s s = [] := recorded_same rfl
    unfold recorded at hsame ⊢
    dsimp only
    rwa [hzip]

theorem foldl_tally {outcomes : List CanonicalOutcome} (h : .success ∉ outcomes) (n : Nat) :
    outcomes.foldl tally n = n + outcomes.count .attributableFailure := by
  induction outcomes generalizing n with
  | nil => rfl
  | cons outcome rest ih =>
    obtain ⟨hne, hrest⟩ := not_or.mp (List.mem_cons.not.mp h)
    rw [List.foldl_cons, ih hrest, List.count_cons]
    cases outcome with
    | success => exact absurd rfl hne
    | attributableFailure =>
      simp [tally]
      omega
    | excluded => simp [tally]

/-! ### Attribution -/

/-- The ledger excludes a sent attempt that failed exactly if its public code keeps it from
the circuit; a sent one that is abandoned reaches neither. -/
def AttributedAlike (write : AttemptTerminalWrite) (boundaryCrossed : Bool) : Prop :=
  write.terminalKind ≠ .failed ∨ boundaryCrossed = false ∨
    (write.failureBlame = some .downstream ↔
      failureCountsTowardKeyCircuit write.publicCode = false)

/-- The attempt is the last one of its request that counts for a generation. -/
def Attempts.IsLast (s : Attempts) (row : AttemptRow) : Prop :=
  (s.clusterRows row.correlationId).getLast? = some row

/-- A first terminal is attributed alike, and no attempt that a crash interrupted after it
was sent is followed by another one of its request. -/
def Attempts.Alike (s : Attempts) : AttemptOp → Prop
  | .finish record _ => ∀ row, s.find record.attemptId = some row → row.terminal = none →
      row.correlationId ∉ s.finalized →
      AttributedAlike (mapAttemptTerminal record) row.boundaryCrossed
  | .reconcile correlationId _ _ => ∀ row ∈ s.rows, row.correlationId = correlationId →
      row.terminal = none → row.boundaryCrossed → s.IsLast row
  | _ => True

/-- The streak that the ledger has recorded since the circuit was closed. -/
def ledgerStreak (key : CircuitKey) (ops : List AttemptOp) : Nat :=
  Runs.record Attempts.next (fun s _ s' failures =>
    if s.circuit.state.IsClosed then (recorded s s').foldl tally failures else 0) (.empty key) 0 ops

/-- The operation moves the streak as the ledger records it. -/
def Tallies (s s' : Attempts) : Prop :=
  CircuitDb.streak s'.circuit = (recorded s s').foldl tally (CircuitDb.streak s.circuit)

instance (s s' : Attempts) : Decidable (Tallies s s') := inferInstanceAs (Decidable (_ = _))

theorem Tallies.of_same {s s' : Attempts} (hrecorded : recorded s s' = [])
    (hstreak : CircuitDb.streak s'.circuit = CircuitDb.streak s.circuit) : Tallies s s' := by
  unfold Tallies
  rw [hrecorded]
  exact hstreak

/-- The two classifiers agree exactly on what is attributed alike, of the terminals that the
table takes. -/
theorem taken_alike {write : AttemptTerminalWrite} {crossed : Bool} {canonical : CanonicalTerminal}
    (h : canonicalTerminal write crossed = .ok canonical)
    (hcheck : canonical.check crossed write.publicCode = true) (policy : CircuitPolicy) (n : Nat) :
    tally n (CircuitTerminalInput.taken (Attempts.terminalInput write crossed policy)) =
      tally n canonical.outcome ↔ AttributedAlike write crossed := by
  unfold AttributedAlike CircuitTerminalInput.taken Attempts.terminalInput
  unfold canonicalTerminal at h
  cases crossed with
  | false =>
    split at h
    · cases h
    · rw [if_pos (.inr rfl)] at h
      cases h
      simp
  | true =>
    cases hkind : write.terminalKind with
    | succeeded =>
      rw [if_pos hkind] at h
      cases h
      simp
    | abandoned =>
      -- Such a row says that its request was never sent.
      rw [hkind, if_neg nofun, if_pos (.inl rfl)] at h
      cases h
      simp [CanonicalTerminal.check] at hcheck
    | failed =>
      rw [hkind, if_neg nofun, if_neg (by simp)] at h
      split at h
      · rename_i hdownstream
        cases h
        cases hcounts : failureCountsTowardKeyCircuit write.publicCode <;>
          simp [tally, hdownstream]
      · rename_i hdownstream
        have houtcome : canonical.outcome = .attributableFailure := by
          split at h <;> cases h <;> rfl
        rw [houtcome]
        cases hcounts : failureCountsTowardKeyCircuit write.publicCode <;>
          simp [tally, hdownstream]

section Steps
variable {s s' : Attempts}

theorem persists_alike (h : Consistent s) (hclosed : s.circuit.state.IsClosed)
    {record : AttemptTerminalRecord} {policy : CircuitPolicy} (hp : Persists s record policy s') :
    Tallies s s' ↔ s.Alike (.finish record policy) := by
  cases hp with
  | known hfind hknown =>
    refine iff_of_true (.of_same (recorded_same rfl) rfl) fun row hrow hpending hopen => ?_
    obtain rfl := Option.some.inj (hfind.symm.trans hrow)
    exact (hknown.elim hopen fun hterminal => hterminal hpending).elim
  | @delivered row canonical result circuit hfind hopen hpending hcanonical hcheck hfinish =>
    obtain ⟨hrow, hid⟩ := find_mem hfind
    have hinput : (Attempts.terminalInput (mapAttemptTerminal record) row.boundaryCrossed
        policy).attemptId = row.attemptId := (mapAttemptTerminal_attemptId record).trans hid.symm
    have hmoved := finishAttempt_closed h.circuit (hinput ▸ h.first hrow hpending) hclosed hfinish
    have hrecorded : recorded s ⟨circuit, s.rows.map (.terminalized record.attemptId canonical
        (mapAttemptTerminal record).publicCode), s.finalized⟩ = [canonical.outcome] := by
      rw [recorded_map rfl]
      refine filterMap_single h.ids hrow ?_ fun other _ hne => ?_
      · simp [AttemptRow.terminalized, hid, hpending]
      · rw [hid] at hne
        cases hterminal : other.terminal <;> simp [AttemptRow.terminalized, hne, hterminal]
    unfold Tallies
    rw [hrecorded, List.foldl_cons, List.foldl_nil, hmoved, taken_alike hcanonical hcheck]
    refine ⟨fun halike row' hrow' _ _ => ?_, fun halike => halike row hfind hpending hopen⟩
    obtain rfl := Option.some.inj (hfind.symm.trans hrow')
    exact halike

/-- An attempt that a crash interrupted after it was sent. -/
def Interrupted (correlationId : String) (row : AttemptRow) : Bool :=
  row.correlationId = correlationId ∧ row.terminal = none ∧ row.boundaryCrossed

/-- Recovery records a failure for each interrupted attempt. -/
theorem recorded_recovered {correlationId : String}
    (hrows : s'.rows = s.rows.map (.recovered correlationId)) (n : Nat) :
    (recorded s s').foldl tally n = n + s.rows.countP (Interrupted correlationId) := by
  have houtcome : ∀ row : AttemptRow, (if row.terminal.isNone then
      (row.recovered correlationId).terminal.map (·.outcome) else none) =
        if row.correlationId = correlationId ∧ row.terminal = none then
          some (if row.boundaryCrossed then .attributableFailure else .excluded)
        else none := by
    intro row
    by_cases hrequest : row.correlationId = correlationId <;> cases hterminal : row.terminal <;>
      cases hcrossed : row.boundaryCrossed <;>
      simp [AttemptRow.recovered, startupTerminal, hrequest, hterminal, hcrossed]
  rw [recorded_map hrows, foldl_tally]
  · rw [List.count_eq_countP, List.countP_filterMap]
    congr 1
    refine List.countP_congr fun row _ => ?_
    rw [houtcome]
    unfold Interrupted
    split
    · rename_i hpending
      cases hcrossed : row.boundaryCrossed <;> simp [hpending]
    · rename_i hpending
      simpa using fun hrequest hterminal => absurd ⟨hrequest, hterminal⟩ hpending
  · rw [List.mem_filterMap]
    rintro ⟨row, -, hsuccess⟩
    rw [houtcome] at hsuccess
    split at hsuccess
    · cases hcrossed : row.boundaryCrossed <;> simp [hcrossed] at hsuccess
    · cases hsuccess

/-- The sample of an interrupted attempt counts, any other one does not or is known. -/
theorem sample_streak (h : Consistent s) (hclosed : s.circuit.state.IsClosed)
    {correlationId : String} {now : UInt64} {policy : CircuitPolicy} {row : AttemptRow}
    {result : CircuitTerminalResult} {circuit : CircuitDb} (hopen : correlationId ∉ s.finalized)
    (hrow : row ∈ s.rows) (hrequest : row.correlationId = correlationId)
    (hfinish : s.circuit.finishAttempt (Attempts.sampleInput (row.recovered correlationId) now
      policy) = .ok (result, circuit)) :
    CircuitDb.streak circuit =
      CircuitDb.streak s.circuit + if Interrupted correlationId row then 1 else 0 := by
  have hid : (Attempts.sampleInput (row.recovered correlationId) now policy).attemptId =
      row.attemptId := (recovered_step correlationId).attemptId row
  cases hterminal : row.terminal with
  | none =>
    have hmoved := finishAttempt_closed h.circuit (hid ▸ h.first hrow hterminal) hclosed hfinish
    rw [hmoved]
    cases hcrossed : row.boundaryCrossed <;>
      simp [CircuitTerminalInput.taken, Attempts.sampleInput, AttemptRow.recovered, startupTerminal,
        Interrupted, tally, failureCountsTowardKeyCircuit, hrequest, hterminal, hcrossed]
  | some terminal =>
    have hseen := (h.delivered row hrow (by simp [hterminal])).resolve_right (hrequest ▸ hopen)
    have hsame := finishAttempt_again h.circuit (hid ▸ hseen) hfinish
    simp [CircuitDb.streak, hsame, Interrupted, hterminal]

theorem reconciles_alike (h : Consistent s) (hclosed : s.circuit.state.IsClosed)
    {correlationId : String} {now : UInt64} {policy : CircuitPolicy}
    (hr : Reconciles s correlationId now policy s') :
    Tallies s s' ↔ s.Alike (.reconcile correlationId now policy) := by
  have halike : s.Alike (.reconcile correlationId now policy) ↔
      ∀ row ∈ s.rows, Interrupted correlationId row → s.IsLast row := by
    refine forall₂_congr fun row _ => ?_
    simp [Interrupted]
  rw [halike]
  unfold Tallies
  cases hr with
  | unsampled hwhy =>
    rw [recorded_recovered rfl]
    have hnone : ∀ row ∈ s.rows, Interrupted correlationId row → ¬ s.IsLast row := by
      intro row hrow hinterrupted hlast
      obtain ⟨hrequest, hpending, -⟩ : row.correlationId = correlationId ∧ row.terminal = none ∧ _ := by
        simpa [Interrupted] using hinterrupted
      have hcluster := List.mem_of_getLast? hlast
      rcases hwhy with ⟨hfinal, -⟩ | ⟨hempty, -⟩
      · exact h.final row hrow (hrequest ▸ hfinal) (mem_clusterRows.mp hcluster).2.2 hpending
      · rw [hrequest, hempty] at hcluster
        cases hcluster
    have hcount : s.rows.countP (Interrupted correlationId) = 0 ↔
        ∀ row ∈ s.rows, Interrupted correlationId row → s.IsLast row := by
      rw [List.countP_eq_zero]
      exact forall₂_congr fun row hrow =>
        ⟨fun hnot hin => absurd hin hnot, fun hall hin => hnone row hrow hin (hall hin)⟩
    rw [← hcount]
    dsimp only
    omega
  | @sampled last result circuit hopen hlast hfinish =>
    obtain ⟨hrow, hrequest, -⟩ := mem_clusterRows.mp (List.mem_of_getLast? hlast)
    rw [recorded_recovered rfl, sample_streak h hclosed hopen hrow hrequest hfinish]
    have hcount := countP_single h.ids hrow (Interrupted correlationId)
    rw [Nat.add_left_cancel_iff, eq_comm, hcount]
    refine forall₂_congr fun row hin => imp_congr_right fun hinterrupted => ?_
    have hsame : row.correlationId = correlationId := by
      simp only [Interrupted, decide_eq_true_eq] at hinterrupted
      exact hinterrupted.1
    unfold Attempts.IsLast
    rw [hsame, hlast, Option.some_inj]
    exact ⟨fun hid => row_unique h.ids hrow hin hid.symm, fun heq => heq ▸ rfl⟩

theorem finalized_kept {correlationId : String} {sample : Option AttemptRow}
    (h : s.finalizeRequestClusters correlationId = .ok (sample, s')) :
    s'.rows = s.rows ∧ s'.circuit = s.circuit := by
  unfold Attempts.finalizeRequestClusters at h
  dsimp only at h
  split at h
  · cases h
  · split at h <;> cases h <;> exact ⟨rfl, rfl⟩

/-- An operation on a Closed circuit moves the streak as the ledger records it exactly when
it is alike. -/
theorem step_alike (h : Consistent s) (hclosed : s.circuit.state.IsClosed) {op : AttemptOp}
    (happly : s.apply op = .ok s') : Tallies s s' ↔ s.Alike op := by
  cases op with
  | circuit call =>
    obtain ⟨circuit, hok, rfl⟩ := map_ok.mp happly
    have hstreak := (circuitOnly_ok h.circuit call hok).streak.2 hclosed
    exact iff_of_true (.of_same (recorded_same rfl) hstreak) trivial
  | admitRow attemptId correlationId attemptIndex eligibility =>
    cases happly
    refine iff_of_true (.of_same (recorded_admitRow ..) ?_) trivial
    unfold Attempts.admitRow
    split <;> rfl
  | markBoundaryCrossed attemptId =>
    cases happly
    refine iff_of_true (.of_same (recorded_none rfl fun row hpending => ?_) rfl) trivial
    unfold AttemptRow.crossed
    split <;> exact hpending
  | finish record policy => exact persists_alike h hclosed (persistAttemptTerminalOnce_ok happly)
  | finalize correlationId =>
    obtain ⟨⟨sample, s₁⟩, hok, rfl⟩ := map_ok.mp happly
    obtain ⟨hrows, hcircuit⟩ := finalized_kept hok
    exact iff_of_true (.of_same (recorded_same hrows) (congrArg _ hcircuit)) trivial
  | reconcile correlationId now policy =>
    exact reconciles_alike h hclosed (reconcileStartupInterrupted_ok happly)

/-- A circuit that an operation closes starts without failures. -/
theorem step_closes (h : Consistent s) (hopen : ¬ s.circuit.state.IsClosed) {op : AttemptOp}
    (happly : s.apply op = .ok s') (hclosed : s'.circuit.state.IsClosed) :
    CircuitDb.streak s'.circuit = 0 := by
  have hfinish {input : CircuitTerminalInput} {result : CircuitTerminalResult}
      (hok : s.circuit.finishAttempt input = .ok (result, s'.circuit)) :
      CircuitDb.streak s'.circuit = 0 :=
    congrArg UInt16.toNat (finishAttempt_closes h.circuit hopen hok hclosed)
  cases op with
  | circuit call =>
    obtain ⟨circuit, hok, rfl⟩ := map_ok.mp happly
    exact absurd ((circuitOnly_ok h.circuit call hok).streak.1 hclosed) hopen
  | admitRow attemptId correlationId attemptIndex eligibility =>
    cases happly
    unfold Attempts.admitRow at hclosed
    split at hclosed <;> exact absurd hclosed hopen
  | markBoundaryCrossed attemptId =>
    cases happly
    exact absurd hclosed hopen
  | finish record policy =>
    cases persistAttemptTerminalOnce_ok happly with
    | known => exact absurd hclosed hopen
    | delivered _ _ _ _ _ hok => exact hfinish hok
  | finalize correlationId =>
    obtain ⟨⟨sample, s₁⟩, hok, rfl⟩ := map_ok.mp happly
    rw [(finalized_kept hok).2] at hclosed
    exact absurd hclosed hopen
  | reconcile correlationId now policy =>
    cases reconcileStartupInterrupted_ok happly with
    | unsampled => exact absurd hclosed hopen
    | sampled _ _ hok => exact hfinish hok

end Steps

/-- The history's streak is the one recorded so far. -/
structure Linked (s : Attempts) (failures : Nat) : Prop where
  consistent : Consistent s
  streak : s.circuit.state.IsClosed → CircuitDb.streak s.circuit = failures

theorem Linked.next {s : Attempts} {failures : Nat} {op : AttemptOp} (h : Linked s failures)
    (halike : s.Alike op) : Linked (s.next op)
      (if s.circuit.state.IsClosed then (recorded s (s.next op)).foldl tally failures else 0) where
  consistent := h.consistent.next op
  streak := by
    intro hclosed
    unfold Attempts.next at hclosed ⊢
    split at hclosed
    · rename_i s' happly
      split
      · rename_i hbefore
        rw [← h.streak hbefore]
        exact (step_alike h.consistent hbefore happly).mpr halike
      · rename_i hopen
        exact step_closes h.consistent hopen happly hclosed
    · rw [if_pos hclosed, recorded_same rfl]
      exact h.streak hclosed

/-- An operation moves the streak of a Closed circuit as the ledger records it exactly when
it is alike, and in a history of such operations the streak is the ledger's. -/
theorem attributed_alike (key : CircuitKey) (ops : List AttemptOp) :
    (∀ op s', (attempts key ops).circuit.state.IsClosed → (attempts key ops).apply op = .ok s' →
      (Tallies (attempts key ops) s' ↔ (attempts key ops).Alike op)) ∧
    (Runs.Along Attempts.next Attempts.Alike (.empty key) ops →
      (attempts key ops).circuit.state.IsClosed →
      CircuitDb.streak (attempts key ops).circuit = ledgerStreak key ops) := by
  refine ⟨fun op s' hclosed => step_alike (attempts_consistent key ops) hclosed, fun along => ?_⟩
  have initial : Linked (.empty key) 0 := ⟨attempts_consistent key [], fun _ => rfl⟩
  exact (Runs.record_invariant_along (P := Attempts.Alike) (fun _ _ _ halike h => h.next halike)
    initial along).streak

/-- A client that disconnects while the response is streamed. -/
def dropped : AttemptTerminalRecord :=
  ⟨"attempt", .failed ⟨.downstream, .stopRequest, "DownstreamDropped"⟩, 0⟩

/-- An attempt that is admitted and sent. -/
def sentOps : List AttemptOp :=
  [.admitRow "attempt" "request" 0 .active, .markBoundaryCrossed "attempt"]

/-- A response that the upstream breaks off. -/
def brokenOff : AttemptTerminalRecord :=
  ⟨"attempt", .failed ⟨.upstream, .stopRequest, "upstream_stream_interrupted"⟩, 0⟩

/-- A policy that a single failure does not make open. -/
def patientPolicy : CircuitPolicy := { plainPolicy with consecutiveFailureThreshold := 2 }

theorem attributed_alike_broken_off :
    Tallies (attempts plainKey sentOps)
      ((attempts plainKey sentOps).next (.finish brokenOff patientPolicy)) ∧
    CircuitDb.streak (attempts plainKey (sentOps ++ [.finish brokenOff patientPolicy])).circuit =
      ledgerStreak plainKey (sentOps ++ [.finish brokenOff patientPolicy]) := by
  have halike : (attempts plainKey sentOps).Alike (.finish brokenOff patientPolicy) := by
    intro row _ _ _
    right
    right
    decide
  have along : Runs.Along Attempts.next Attempts.Alike (.empty plainKey)
      (sentOps ++ [.finish brokenOff patientPolicy]) := ⟨trivial, trivial, halike, trivial⟩
  exact ⟨((attributed_alike plainKey sentOps).1 (.finish brokenOff patientPolicy) _
      (by decide +kernel) rfl).mpr halike,
    (attributed_alike plainKey _).2 along (by decide +kernel)⟩

/-- The ledger excludes the client's disconnect, and the circuit counts it. -/
theorem disconnect_opens :
    ¬ ∀ (key : CircuitKey) (ops : List AttemptOp) (op : AttemptOp) (s' : Attempts),
      (attempts key ops).circuit.state.IsClosed → (attempts key ops).apply op = .ok s' →
      Tallies (attempts key ops) s' := by
  intro h
  have := h plainKey sentOps (.finish dropped plainPolicy) _ (by decide +kernel) rfl
  revert this
  decide +kernel

end RelayPool.Attribution
