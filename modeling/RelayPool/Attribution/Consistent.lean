import RelayPool.Attribution.Results

/-! How the ledger and the circuit stand to each other.

A finished attempt gets its terminal and is delivered to the circuit in one
transaction (`Persists`), so in every history the circuit has the result of an
attempt only if the ledger has its terminal, and a terminal it has no result of
belongs to a request that is final (`Consistent`). -/
namespace RelayPool.Attribution
open RelayPool.Circuit Fallible

/-! ### The attempts of a history -/

/-- The table keeps which attempt a row is of, and a terminal once given. -/
structure RowStep (f : AttemptRow → AttemptRow) : Prop where
  attemptId : ∀ row, (f row).attemptId = row.attemptId
  correlationId : ∀ row, (f row).correlationId = row.correlationId
  generationEligibility : ∀ row, (f row).generationEligibility = row.generationEligibility
  terminal : ∀ row, row.terminal ≠ none → (f row).terminal ≠ none

theorem terminalized_step (attemptId : String) (terminal : CanonicalTerminal)
    (failureCode : Option String) :
    RowStep (.terminalized attemptId terminal failureCode) := by
  constructor <;> intro row <;> unfold AttemptRow.terminalized <;> split <;> simp

theorem recovered_step (correlationId : String) : RowStep (.recovered correlationId) := by
  constructor <;> intro row <;> unfold AttemptRow.recovered <;> split <;> simp

theorem crossed_step (attemptId : String) : RowStep (.crossed attemptId) := by
  constructor <;> intro row <;> unfold AttemptRow.crossed <;> split <;> simp

theorem id_step : RowStep id := ⟨fun _ => rfl, fun _ => rfl, fun _ => rfl, fun _ => id⟩

/-- The circuit has a result of an attempt only when the ledger has its terminal, and a
terminal that was not delivered belongs to a request that is final. -/
structure Consistent (s : Attempts) : Prop where
  circuit : StoreSound s.circuit
  ids : (s.rows.map (·.attemptId)).Nodup
  known : ∀ attemptId, HasEvent s.circuit.events .circuit attemptId →
    ∃ row ∈ s.rows, row.attemptId = attemptId ∧ row.terminal ≠ none
  delivered : ∀ row ∈ s.rows, row.terminal ≠ none →
    HasEvent s.circuit.events .circuit row.attemptId ∨ row.correlationId ∈ s.finalized
  final : ∀ row ∈ s.rows, row.correlationId ∈ s.finalized →
    row.generationEligibility ≠ .legacy → row.terminal ≠ none

theorem row_unique {rows : List AttemptRow} (h : (rows.map (·.attemptId)).Nodup)
    {a b : AttemptRow} (ha : a ∈ rows) (hb : b ∈ rows) (hid : a.attemptId = b.attemptId) : a = b :=
  List.inj_on_of_nodup_map h ha hb hid

/-- A pending attempt has had no result. -/
theorem Consistent.first {s : Attempts} (h : Consistent s) {row : AttemptRow} (hrow : row ∈ s.rows)
    (hpending : row.terminal = none) :
    ¬ HasEvent s.circuit.events .circuit row.attemptId := by
  intro hevent
  obtain ⟨row', hrow', hid, hterminal⟩ := h.known _ hevent
  exact hterminal (row_unique h.ids hrow' hrow hid ▸ hpending)

/-- The rows are updated one by one; the circuit may get results of rows that end terminal. -/
theorem Consistent.mapRows {s : Attempts} (h : Consistent s) {f : AttemptRow → AttemptRow}
    (hf : RowStep f) {circuit : CircuitDb} {finalized : List String} (hs : StoreSound circuit)
    (hkept : ∀ attemptId, HasEvent s.circuit.events .circuit attemptId →
      HasEvent circuit.events .circuit attemptId)
    (hgiven : ∀ attemptId, HasEvent circuit.events .circuit attemptId →
      HasEvent s.circuit.events .circuit attemptId ∨
        ∃ row ∈ s.rows, row.attemptId = attemptId ∧ (f row).terminal ≠ none)
    (hnew : ∀ row ∈ s.rows, row.terminal = none → (f row).terminal ≠ none →
      HasEvent circuit.events .circuit row.attemptId ∨ row.correlationId ∈ finalized)
    (hgrown : ∀ correlationId ∈ s.finalized, correlationId ∈ finalized)
    (hfinal : ∀ row ∈ s.rows, row.correlationId ∈ finalized → row.correlationId ∉ s.finalized →
      row.generationEligibility ≠ .legacy → (f row).terminal ≠ none) :
    Consistent ⟨circuit, s.rows.map f, finalized⟩ where
  circuit := hs
  ids := by
    have hsame : (s.rows.map f).map (·.attemptId) = s.rows.map (·.attemptId) := by
      simp [List.map_map, Function.comp_def, hf.attemptId]
    exact hsame ▸ h.ids
  known := by
    intro attemptId hevent
    have hrow : ∃ row ∈ s.rows, row.attemptId = attemptId ∧ (f row).terminal ≠ none := by
      refine (hgiven attemptId hevent).elim (fun hseen => ?_) id
      obtain ⟨row, hrow, hid, hterminal⟩ := h.known attemptId hseen
      exact ⟨row, hrow, hid, hf.terminal row hterminal⟩
    obtain ⟨row, hrow, hid, hterminal⟩ := hrow
    exact ⟨f row, List.mem_map_of_mem hrow, (hf.attemptId row).trans hid, hterminal⟩
  delivered := by
    simp only [List.forall_mem_map, hf.attemptId, hf.correlationId]
    intro row hrow hterminal
    by_cases hbefore : row.terminal = none
    · exact hnew row hrow hbefore hterminal
    · exact (h.delivered row hrow hbefore).imp (hkept _) (hgrown _)
  final := by
    simp only [List.forall_mem_map, hf.correlationId, hf.generationEligibility]
    intro row hrow hin hlegacy
    by_cases hbefore : row.correlationId ∈ s.finalized
    · exact hf.terminal row (h.final row hrow hbefore hlegacy)
    · exact hfinal row hrow hin hbefore hlegacy

/-! ### What the two paths do -/

/-- The ways a finished attempt is persisted. -/
inductive Persists (s : Attempts) (record : AttemptTerminalRecord) (policy : CircuitPolicy) :
    Attempts → Prop
  | known {row} : s.find record.attemptId = some row →
      row.correlationId ∈ s.finalized ∨ row.terminal ≠ none → Persists s record policy s
  | delivered {row canonical result circuit} : s.find record.attemptId = some row →
      row.correlationId ∉ s.finalized → row.terminal = none →
      canonicalTerminal (mapAttemptTerminal record) row.boundaryCrossed = .ok canonical →
      canonical.check row.boundaryCrossed (mapAttemptTerminal record).publicCode = true →
      s.circuit.finishAttempt (Attempts.terminalInput (mapAttemptTerminal record)
        row.boundaryCrossed policy) = .ok (result, circuit) →
      Persists s record policy ⟨circuit, s.rows.map (.terminalized record.attemptId canonical
        (mapAttemptTerminal record).publicCode), s.finalized⟩

theorem mapAttemptTerminal_attemptId (record : AttemptTerminalRecord) :
    (mapAttemptTerminal record).attemptId = record.attemptId := by
  unfold mapAttemptTerminal
  split <;> rfl

theorem persistAttemptTerminalOnce_ok {s s' : Attempts} {record : AttemptTerminalRecord}
    {policy : CircuitPolicy} (h : s.persistAttemptTerminalOnce record policy = .ok s') :
    Persists s record policy s' := by
  have hid := mapAttemptTerminal_attemptId record
  simp only [Attempts.persistAttemptTerminalOnce, bind_ok, Prod.exists] at h
  obtain ⟨outcome, s₁, hterminalize, h⟩ := h
  unfold Attempts.terminalize at hterminalize
  rw [hid] at hterminalize
  split at hterminalize
  · cases hterminalize
  · rename_i row hfind
    obtain ⟨canonical, hcanonical, hterminalize⟩ := bind_ok.mp hterminalize
    rw [ite_ok] at hterminalize
    rcases hterminalize with ⟨hknown, heq⟩ | ⟨hpending, heq⟩
    · cases heq
      cases h
      exact .known hfind (by simpa [Option.isSome_iff_ne_none] using hknown)
    · rw [ite_ok] at heq
      rcases heq with ⟨-, heq⟩ | ⟨hcheck, heq⟩
      · cases heq
      · cases heq
        obtain ⟨⟨result, circuit⟩, hfinish, heq⟩ := bind_ok.mp h
        cases heq
        simp only [not_or, List.contains_iff_mem, Option.not_isSome_iff_eq_none] at hpending
        exact .delivered hfind hpending.1 hpending.2 hcanonical (by simpa using hcheck) hfinish

/-- The ways an interrupted request is reconciled. -/
inductive Reconciles (s : Attempts) (correlationId : String) (now : UInt64)
    (policy : CircuitPolicy) : Attempts → Prop
  | unsampled {finalized} : correlationId ∈ s.finalized ∧ finalized = s.finalized ∨
      s.clusterRows correlationId = [] ∧ finalized = correlationId :: s.finalized →
      Reconciles s correlationId now policy
        ⟨s.circuit, s.rows.map (.recovered correlationId), finalized⟩
  | sampled {row result circuit} : correlationId ∉ s.finalized →
      (s.clusterRows correlationId).getLast? = some row →
      s.circuit.finishAttempt (Attempts.sampleInput (row.recovered correlationId) now policy) =
        .ok (result, circuit) →
      Reconciles s correlationId now policy
        ⟨circuit, s.rows.map (.recovered correlationId), correlationId :: s.finalized⟩

/-- Recovery neither adds an attempt to a request nor moves one. -/
theorem recovered_clusterRows (s : Attempts) (correlationId : String) :
    (s.recoverStartupInterrupted correlationId).clusterRows correlationId =
      (s.clusterRows correlationId).map (.recovered correlationId) := by
  have hf := recovered_step correlationId
  have hbefore : ∀ a b : AttemptRow,
      a.before b = (a.recovered correlationId).before (b.recovered correlationId) := by
    intro a b
    unfold AttemptRow.before AttemptRow.recovered
    split <;> split <;> rfl
  unfold Attempts.clusterRows Attempts.recoverStartupInterrupted
  rw [List.map_mergeSort fun a _ b _ => hbefore a b, List.filter_map]
  simp [Function.comp_def, hf.correlationId, hf.generationEligibility]

theorem reconcileStartupInterrupted_ok {s s' : Attempts} {correlationId : String} {now : UInt64}
    {policy : CircuitPolicy}
    (h : s.reconcileStartupInterrupted correlationId now policy = .ok s') :
    Reconciles s correlationId now policy s' := by
  simp only [Attempts.reconcileStartupInterrupted, Attempts.finalizeRequestClusters,
    recovered_clusterRows, bind_ok, Prod.exists] at h
  obtain ⟨sample, s₁, hfinalize, h⟩ := h
  split at hfinalize
  · cases hfinalize
  split at hfinalize
  · rename_i hfinal
    cases hfinalize
    cases h
    exact .unsampled (.inl ⟨List.contains_iff_mem.mp hfinal, rfl⟩)
  · rename_i hfinal
    cases hfinalize
    rw [List.getLast?_map] at h
    cases hlast : (s.clusterRows correlationId).getLast? with
    | none =>
      rw [hlast] at h
      cases h
      exact .unsampled (.inr ⟨List.getLast?_eq_none_iff.mp hlast, rfl⟩)
    | some row =>
      rw [hlast] at h
      obtain ⟨⟨result, circuit⟩, hfinish, heq⟩ := bind_ok.mp h
      cases heq
      exact .sampled (fun hin => hfinal (List.contains_iff_mem.mpr hin)) hlast hfinish

/-! ### Every history is consistent -/

theorem find_mem {s : Attempts} {attemptId : String} {row : AttemptRow}
    (h : s.find attemptId = some row) : row ∈ s.rows ∧ row.attemptId = attemptId :=
  ⟨List.mem_of_find?_eq_some h, by simpa using List.find?_some h⟩

theorem mem_clusterRows {s : Attempts} {correlationId : String} {row : AttemptRow} :
    row ∈ s.clusterRows correlationId ↔ row ∈ s.rows ∧ row.correlationId = correlationId ∧
      row.generationEligibility ≠ .legacy := by
  simp [Attempts.clusterRows, List.mem_mergeSort]

section Consistency
variable {s s' : Attempts}

theorem Consistent.circuitOnly (h : Consistent s) {call : CircuitOnly} {circuit : CircuitDb}
    (happly : s.circuit.apply call.op = .ok circuit) : Consistent { s with circuit } := by
  have hnone := circuitOnly_ok h.circuit call happly
  have hsound : StoreSound circuit := CircuitDb.next_ok happly ▸ h.circuit.next call.op
  have hkept := @Consistent.mapRows s h id id_step circuit s.finalized hsound
    (fun attemptId => (hnone.events attemptId).mpr)
    (fun attemptId hevent => .inl ((hnone.events attemptId).mp hevent))
    (fun _ _ hpending hterminal => absurd hpending hterminal) (fun _ => id)
    (fun _ _ hin hout => absurd hin hout)
  rwa [List.map_id] at hkept

theorem Consistent.admitRow (h : Consistent s) (attemptId correlationId : String)
    (attemptIndex : UInt16) (eligibility : RoutingGenerationEligibility) :
    Consistent (s.admitRow attemptId correlationId attemptIndex eligibility) := by
  unfold Attempts.admitRow
  split
  · exact h
  rename_i hnew
  simp only [not_or, List.contains_iff_mem, Option.not_isSome_iff_eq_none] at hnew
  obtain ⟨hopen, hfind⟩ := hnew
  have hfresh : attemptId ∉ s.rows.map (·.attemptId) := by
    simpa [Attempts.find] using hfind
  constructor
  · exact h.circuit
  · rw [List.map_append, List.nodup_append]
    refine ⟨h.ids, List.nodup_singleton _, ?_⟩
    rintro a ha b hb rfl
    obtain rfl : a = attemptId := by simpa using hb
    exact hfresh ha
  · intro id hevent
    obtain ⟨row, hrow, hknown⟩ := h.known id hevent
    exact ⟨row, List.mem_append_left _ hrow, hknown⟩
  · intro row hrow hterminal
    rcases List.mem_append.mp hrow with hrow | hrow
    · exact h.delivered row hrow hterminal
    · obtain rfl := List.mem_singleton.mp hrow
      exact absurd rfl hterminal
  · intro row hrow hin hlegacy
    rcases List.mem_append.mp hrow with hrow | hrow
    · exact h.final row hrow hin hlegacy
    · obtain rfl := List.mem_singleton.mp hrow
      exact absurd hin hopen

theorem Consistent.markBoundaryCrossed (h : Consistent s) (attemptId : String) :
    Consistent (s.markBoundaryCrossed attemptId) := by
  refine h.mapRows (crossed_step attemptId) h.circuit (fun _ => id) (fun _ => .inl) ?_ (fun _ => id)
    fun _ _ hin hout => absurd hin hout
  intro row _ hpending hterminal
  unfold AttemptRow.crossed at hterminal
  split at hterminal <;> exact absurd hpending hterminal

theorem Consistent.finalize (h : Consistent s) {correlationId : String} {sample : Option AttemptRow}
    (hok : s.finalizeRequestClusters correlationId = .ok (sample, s')) : Consistent s' := by
  unfold Attempts.finalizeRequestClusters at hok
  dsimp only at hok
  split at hok
  · cases hok
  rename_i hterminal
  split at hok
  · cases hok
    exact h
  · cases hok
    have hkept := @Consistent.mapRows s h id id_step s.circuit (correlationId :: s.finalized)
      h.circuit
      (fun _ => id) (fun _ => .inl) (fun _ _ hpending hterminal => absurd hpending hterminal)
      (fun _ => List.mem_cons_of_mem _) ?_
    · rwa [List.map_id] at hkept
    · intro row hrow hin hout hlegacy hpending
      obtain rfl := (List.mem_cons.mp hin).resolve_right hout
      refine hterminal (List.any_eq_true.mpr ⟨row, mem_clusterRows.mpr ⟨hrow, rfl, hlegacy⟩, ?_⟩)
      simpa using hpending

theorem Consistent.persists (h : Consistent s) {record : AttemptTerminalRecord}
    {policy : CircuitPolicy} (hp : Persists s record policy s') : Consistent s' := by
  cases hp with
  | known => exact h
  | @delivered row canonical result circuit hfind hopen hpending hcanonical hcheck hfinish =>
    obtain ⟨hrow, hid⟩ := find_mem hfind
    have hevents := finishAttempt_events h.circuit hfinish
    have hinput : (Attempts.terminalInput (mapAttemptTerminal record) row.boundaryCrossed
        policy).attemptId = row.attemptId := (mapAttemptTerminal_attemptId record).trans hid.symm
    rw [hinput] at hevents
    refine h.mapRows (terminalized_step ..) (h.circuit.finishAttempt hfinish)
      (fun attemptId hseen => (hevents attemptId).mpr (.inl hseen)) ?_ ?_ (fun _ => id)
      fun _ _ hin hout => absurd hin hout
    · intro attemptId hevent
      refine ((hevents attemptId).mp hevent).imp_right ?_
      rintro rfl
      refine ⟨row, hrow, rfl, ?_⟩
      simp [AttemptRow.terminalized, hid, hpending]
    · intro row' hrow' hpending' hterminal
      unfold AttemptRow.terminalized at hterminal
      split at hterminal
      · rename_i hsame
        exact .inl ((hevents _).mpr (.inr (hsame.1.trans hid.symm)))
      · exact absurd hpending' hterminal

theorem recovered_terminal {correlationId : String} {row : AttemptRow}
    (h : row.correlationId = correlationId) : (row.recovered correlationId).terminal ≠ none := by
  unfold AttemptRow.recovered
  split
  · simp
  · rename_i hterminal
    simpa [h] using hterminal

/-- A row that recovery gives a terminal is one of the request. -/
theorem recovered_pending {correlationId : String} {row : AttemptRow} (hpending : row.terminal = none)
    (hterminal : (row.recovered correlationId).terminal ≠ none) :
    row.correlationId = correlationId := by
  unfold AttemptRow.recovered at hterminal
  split at hterminal
  · rename_i hsame
    exact hsame.1
  · exact absurd hpending hterminal

theorem Consistent.reconciles (h : Consistent s) {correlationId : String} {now : UInt64}
    {policy : CircuitPolicy} (hr : Reconciles s correlationId now policy s') : Consistent s' := by
  have hf := recovered_step correlationId
  cases hr with
  | @unsampled finalized hwhy =>
    have hin : correlationId ∈ finalized ∧ ∀ c ∈ s.finalized, c ∈ finalized := by
      rcases hwhy with ⟨hin, rfl⟩ | ⟨-, rfl⟩
      · exact ⟨hin, fun _ => id⟩
      · exact ⟨List.mem_cons_self .., fun _ => List.mem_cons_of_mem _⟩
    have honly : ∀ c ∈ finalized, c ∉ s.finalized → c = correlationId := by
      intro c hc hout
      rcases hwhy with ⟨-, rfl⟩ | ⟨-, rfl⟩
      · exact absurd hc hout
      · exact (List.mem_cons.mp hc).resolve_right hout
    refine h.mapRows hf h.circuit (fun _ => id) (fun _ => .inl) ?_ hin.2 ?_
    · exact fun row _ hpending hterminal => .inr (recovered_pending hpending hterminal ▸ hin.1)
    · exact fun row _ hc hout _ => recovered_terminal (honly _ hc hout)
  | @sampled row result circuit hopen hlast hfinish =>
    obtain ⟨hrow, hrequest, -⟩ := mem_clusterRows.mp (List.mem_of_getLast? hlast)
    have hevents := finishAttempt_events h.circuit hfinish
    have hinput : (Attempts.sampleInput (row.recovered correlationId) now policy).attemptId =
        row.attemptId := hf.attemptId row
    rw [hinput] at hevents
    refine h.mapRows hf (h.circuit.finishAttempt hfinish)
      (fun attemptId hseen => (hevents attemptId).mpr (.inl hseen)) ?_ ?_
      (fun _ => List.mem_cons_of_mem _) ?_
    · intro attemptId hevent
      refine ((hevents attemptId).mp hevent).imp_right ?_
      rintro rfl
      exact ⟨row, hrow, rfl, recovered_terminal hrequest⟩
    · intro row' _ hpending hterminal
      exact .inr (recovered_pending hpending hterminal ▸ List.mem_cons_self ..)
    · exact fun row' _ hc hout _ =>
        recovered_terminal ((List.mem_cons.mp hc).resolve_right hout)

theorem Consistent.apply (h : Consistent s) {op : AttemptOp} (happly : s.apply op = .ok s') :
    Consistent s' := by
  cases op with
  | circuit call =>
    obtain ⟨circuit, hok, rfl⟩ := map_ok.mp happly
    exact h.circuitOnly hok
  | admitRow attemptId correlationId attemptIndex eligibility =>
    cases happly
    exact h.admitRow ..
  | markBoundaryCrossed attemptId =>
    cases happly
    exact h.markBoundaryCrossed attemptId
  | finish record policy => exact h.persists (persistAttemptTerminalOnce_ok happly)
  | finalize correlationId =>
    obtain ⟨⟨sample, s₁⟩, hok, rfl⟩ := map_ok.mp happly
    exact h.finalize hok
  | reconcile correlationId now policy =>
    exact h.reconciles (reconcileStartupInterrupted_ok happly)

theorem Consistent.next (h : Consistent s) (op : AttemptOp) : Consistent (s.next op) := by
  unfold Attempts.next
  split
  · exact h.apply ‹_›
  · exact h

end Consistency

theorem attempts_consistent (key : CircuitKey) (ops : List AttemptOp) :
    Consistent (attempts key ops) := by
  refine Runs.run_invariant (fun _ op h => h.next op) ?_ ops
  constructor
  · exact empty_sound key
  all_goals simp [Attempts.empty, CircuitDb.empty, HasEvent]

end RelayPool.Attribution
