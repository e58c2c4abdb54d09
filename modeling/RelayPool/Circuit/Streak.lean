import RelayPool.Circuit.Reachable

/-! Opening and recovery count exactly.

Under one policy the two counters of the circuit are counts over its history.
Closed carries the boundary-crossed failures since the last boundary-crossed
success or, if later, since the circuit was last closed (`failures`); Half-Open
carries the leases that succeeded before their own expiry since it last opened
(`recoveries`). `StreakCounts` links each counter to its count, and
`streaks_exact` reads off when the circuit opens and when it closes.

A result carries a lease id, and only Half-Open looks at it: the same result
that is ignored there counts in Closed, whoever's lease it names. -/
namespace RelayPool.Circuit
open StationKeyCircuit

/-- Operations under one policy. -/
def fixed (v : ValidConfig) (ops : List CircuitOp) : List CircuitStep := ops.map fun op => ⟨v, op⟩

theorem fixed_concat (v : ValidConfig) (ops : List CircuitOp) (op : CircuitOp) :
    fixed v (ops ++ [op]) = fixed v ops ++ [⟨v, op⟩] := by
  simp [fixed]

/-! ### The counts -/

/-- A streak of failures after one more operation: boundary-crossed results reset it or
lengthen it. -/
def streakAfter : CircuitOp → Nat → Nat
  | .finish _ _ true true, _ => 0
  | .finish _ _ false true, n => n + 1
  | _, n => n

def countFailure (c : StationKeyCircuit) (s : CircuitStep) (_ : StationKeyCircuit) (n : Nat) : Nat :=
  if c.state.IsClosed then streakAfter s.op n else 0

/-- Boundary-crossed failures since the last boundary-crossed success or the last entry
into Closed, whichever is later. -/
def failures (v : ValidConfig) (ops : List CircuitOp) : Nat :=
  Runs.record step countFailure v.newCircuit 0 (fixed v ops)

/-- The active lease succeeds, strictly before its own expiry. -/
def Recovers (c : StationKeyCircuit) : CircuitOp → Prop
  | .finish now (some lease) true true =>
    c.state.leaseId = some lease ∧ c.state.leaseExpiresAtMs.any (now < ·)
  | _ => False

/-- The active lease fails, gives its result too late, or is reaped. -/
def Reopens (c : StationKeyCircuit) : CircuitOp → Prop
  | .finish now (some lease) success true =>
    c.state.leaseId = some lease ∧ (success = false ∨ c.state.leaseExpiresAtMs.any (· ≤ now))
  | .reapExpiredLease now lease =>
    c.state.leaseId = some lease ∧ c.state.leaseExpiresAtMs.any (· ≤ now)
  | _ => False

instance (c : StationKeyCircuit) : DecidablePred (Recovers c) :=
  fun op => by unfold Recovers; split <;> infer_instance

def countRecovery (c : StationKeyCircuit) (s : CircuitStep) (c' : StationKeyCircuit) (n : Nat) :
    Nat :=
  if ¬ c.state.IsOpen ∧ c'.state.IsOpen then 0 else if Recovers c s.op then n + 1 else n

/-- Leases that succeeded before their expiry since the circuit last opened. -/
def recoveries (v : ValidConfig) (ops : List CircuitOp) : Nat :=
  Runs.record step countRecovery v.newCircuit 0 (fixed v ops)

/-! ### The counters are the counts -/

/-- What holds of a circuit whose every step came with the policy `v`. -/
structure UnderPolicy (v : ValidConfig) (c : StationKeyCircuit) : Prop where
  sound : Sound c
  config : c.config = v.config
  lease : ∀ policy, c.leasePolicy = some policy →
    policy.recoverySuccessThreshold = v.config.recoverySuccessThreshold

theorem CircuitMove.underPolicy {v : ValidConfig} {c c' : StationKeyCircuit} {op : CircuitOp}
    {reply : CircuitReply} (m : CircuitMove c op reply c') (h : UnderPolicy v c) :
    UnderPolicy v c' := by
  have hconfig := h.config
  refine ⟨m.sound h.sound, ?_, ?_⟩
  · cases m <;> exact hconfig
  · intro policy hpolicy
    cases m with
    | admitProbe =>
      obtain rfl := Option.some.inj hpolicy
      rw [hconfig]
    | admitIdle =>
      obtain rfl := Option.some.inj hpolicy
      rw [hconfig]
    | admitAdopt => exact h.lease policy hpolicy
    | admitClosed => exact h.lease policy hpolicy
    | admitOpenAdopt => exact h.lease policy hpolicy
    | admitOpen => exact h.lease policy hpolicy
    | admitBusy => exact h.lease policy hpolicy
    | finishUncrossed => exact h.lease policy hpolicy
    | finishLate => exact h.lease policy hpolicy
    | reapNothing => exact h.lease policy hpolicy
    | _ => cases hpolicy

theorem UnderPolicy.step {v : ValidConfig} {c : StationKeyCircuit} (h : UnderPolicy v c)
    (op : CircuitOp) : UnderPolicy v (step c ⟨v, op⟩) := by
  have hsame : c.withConfig v.config = c := by rw [← h.config]; rfl
  rcases step_moves c ⟨v, op⟩ with ⟨-, heq⟩ | ⟨answer, -, m⟩
  · rwa [heq, hsame]
  · rw [hsame] at m
    exact m.underPolicy h

/-- The step of a circuit already under the policy: a move, or a refused admission. -/
theorem UnderPolicy.moves {v : ValidConfig} {c : StationKeyCircuit} (h : UnderPolicy v c)
    (op : CircuitOp) :
    ((∃ now deadline lease, op = .admitAttempt now deadline lease) ∧
      RelayPool.Circuit.step c ⟨v, op⟩ = c) ∨
    ∃ answer, reply c ⟨v, op⟩ = some answer ∧
      CircuitMove c op answer (RelayPool.Circuit.step c ⟨v, op⟩) := by
  have hsame : c.withConfig v.config = c := by rw [← h.config]; rfl
  have hmoves := h.sound.step_moves ⟨v, op⟩
  rw [hsame] at hmoves
  exact hmoves.imp_left fun ⟨hop, _, heq⟩ => ⟨hop, heq⟩

theorem newCircuit_underPolicy (v : ValidConfig) : UnderPolicy v v.newCircuit :=
  ⟨newCircuit_sound v, rfl, nofun⟩

/-- A boundary-crossed failure, whichever lease it names. -/
def Fails (op : CircuitOp) : Prop := ∃ now lease, op = .finish now lease false true

/-- From Closed a move updates the streak and stays, or it is the failure that reaches the
threshold. -/
theorem CircuitMove.fromClosed {c c' : StationKeyCircuit} {op : CircuitOp} {reply : CircuitReply}
    (m : CircuitMove c op reply c') (hclosed : c.state.IsClosed)
    (hbelow : c.state.consecutiveFailures < c.config.consecutiveFailureThreshold) :
    (c'.state.IsClosed ∧
      c'.state.consecutiveFailures.toNat = streakAfter op c.state.consecutiveFailures.toNat ∧
      c'.state.consecutiveFailures < c.config.consecutiveFailureThreshold ∧
      ¬ (Fails op ∧ c.state.consecutiveFailures.toNat + 1 =
        c.config.consecutiveFailureThreshold.toNat)) ∨
    (c'.state.IsOpen ∧ Fails op ∧ c.state.consecutiveFailures.toNat + 1 =
      c.config.consecutiveFailureThreshold.toNat) := by
  have hpos : 0 < c.config.consecutiveFailureThreshold := by
    rw [UInt16.lt_iff_toNat_lt] at hbelow ⊢
    exact (Nat.zero_le _).trans_lt hbelow
  have hnext : (c.state.consecutiveFailures.saturatingAdd 1).toNat =
      c.state.consecutiveFailures.toNat + 1 := by
    have := c.config.consecutiveFailureThreshold.toNat_lt
    rw [UInt16.lt_iff_toNat_lt] at hbelow
    rw [UInt16.toNat_saturatingAdd]
    simp only [UInt16.reduceToNat]
    omega
  cases m with
  | admitReached hs hf =>
    rw [hs] at hbelow
    exact absurd hf (UInt16.not_le.mpr hbelow)
  | admitAdopt hs hf hp => exact .inl ⟨trivial, by rw [hs]; rfl, hf, nofun⟩
  | admitClosed hs hf hp => exact .inl ⟨hclosed, rfl, hbelow, by simp [Fails]⟩
  | @finishUncrossed now lease success r f l hs =>
    refine .inl ⟨hclosed, ?_, hbelow, by simp [Fails]⟩
    cases success <;> rfl
  | finishSuccess hs => exact .inl ⟨trivial, rfl, hpos, by simp [Fails]⟩
  | @finishFailure now lease r f l hs hf =>
    simp only [hs, StationKeyCircuitState.consecutiveFailures] at hnext ⊢
    refine .inl ⟨trivial, hnext, hf, fun hreach => ?_⟩
    rw [UInt16.lt_iff_toNat_lt, hnext, hreach.2] at hf
    exact Nat.lt_irrefl _ hf
  | @finishOpens now lease r f l hs hf =>
    simp only [hs, StationKeyCircuitState.consecutiveFailures] at hnext hbelow ⊢
    rw [UInt16.lt_iff_toNat_lt] at hbelow
    rw [UInt16.le_iff_toNat_le, hnext] at hf
    exact .inr ⟨trivial, ⟨_, _, rfl⟩, Nat.le_antisymm hbelow hf⟩
  | finishLate hs hl => exact absurd hclosed hs
  | reapNothing hl => exact .inl ⟨hclosed, rfl, hbelow, by simp [Fails]⟩
  | _ => simp_all

/-- Closed is entered with an empty streak. -/
theorem CircuitMove.intoClosed {c c' : StationKeyCircuit} {op : CircuitOp} {reply : CircuitReply}
    (m : CircuitMove c op reply c') (hclosed : ¬ c.state.IsClosed) (hclosed' : c'.state.IsClosed) :
    c'.state.consecutiveFailures = 0 := by
  cases m with
  | finishCloses => rfl
  | finishLate => exact absurd hclosed' hclosed
  | reapNothing => exact absurd hclosed' hclosed
  | _ => simp_all

structure CountsFailures (v : ValidConfig) (c : StationKeyCircuit) (n : Nat) : Prop where
  policy : UnderPolicy v c
  counter : c.state.IsClosed → c.state.consecutiveFailures.toNat = n
  below : c.state.IsClosed → c.state.consecutiveFailures < v.config.consecutiveFailureThreshold

theorem CountsFailures.step {v : ValidConfig} {c : StationKeyCircuit} {n : Nat}
    (h : CountsFailures v c n) (op : CircuitOp) :
    CountsFailures v (RelayPool.Circuit.step c ⟨v, op⟩)
      (countFailure c ⟨v, op⟩ (RelayPool.Circuit.step c ⟨v, op⟩) n) := by
  have hpolicy := h.policy.step op
  have hpos : 0 < v.config.consecutiveFailureThreshold :=
    UInt16.lt_of_le_of_ne (by simp) (validate_ok.mp v.valid).2.1.symm
  rcases h.policy.moves op with ⟨⟨now, deadline, lease, rfl⟩, heq⟩ | ⟨answer, -, m⟩
  · rw [heq]
    refine ⟨h.policy, fun hclosed => ?_, h.below⟩
    rw [h.counter hclosed, countFailure, if_pos hclosed]
    rfl
  · generalize RelayPool.Circuit.step c ⟨v, op⟩ = c' at m hpolicy ⊢
    unfold countFailure
    by_cases hclosed : c.state.IsClosed
    · rw [if_pos hclosed, ← h.counter hclosed]
      have hbelow := h.below hclosed
      rw [← h.policy.config] at hbelow
      rcases m.fromClosed hclosed hbelow with ⟨-, hcounter, hbelow', -⟩ | ⟨hopen, -⟩
      · rw [h.policy.config] at hbelow'
        exact ⟨hpolicy, fun _ => hcounter, fun _ => hbelow'⟩
      · have hnot : ¬ c'.state.IsClosed := by cases hs : c'.state <;> simp_all
        exact ⟨hpolicy, fun h' => absurd h' hnot, fun h' => absurd h' hnot⟩
    · rw [if_neg hclosed]
      refine ⟨hpolicy, fun h' => ?_, fun h' => ?_⟩
      · rw [m.intoClosed hclosed h']
        rfl
      · rwa [m.intoClosed hclosed h']

/-- From Half-Open a move counts a recovery or keeps the count, opens again, or is the
recovery that reaches the threshold. -/
theorem CircuitMove.fromHalfOpen {c c' : StationKeyCircuit} {op : CircuitOp} {reply : CircuitReply}
    (m : CircuitMove c op reply c') (hsound : Sound c) (hhalf : c.state.IsHalfOpen) {t : UInt16}
    (hlease : ∀ policy, c.leasePolicy = some policy → policy.recoverySuccessThreshold = t)
    (hbelow : c.state.recoverySuccesses < t) :
    (c'.state.IsHalfOpen ∧ c'.state.recoverySuccesses < t ∧
      c'.state.recoverySuccesses.toNat =
        (if Recovers c op then c.state.recoverySuccesses.toNat + 1
          else c.state.recoverySuccesses.toNat) ∧
      ¬ Reopens c op ∧ ¬ (Recovers c op ∧ c.state.recoverySuccesses.toNat + 1 = t.toNat)) ∨
    (c'.state.IsOpen ∧ Reopens c op ∧ ¬ Recovers c op) ∨
    (c'.state.IsClosed ∧ ¬ Reopens c op ∧ Recovers c op ∧
      c.state.recoverySuccesses.toNat + 1 = t.toNat) := by
  have hnext : (c.state.recoverySuccesses.saturatingAdd 1).toNat =
      c.state.recoverySuccesses.toNat + 1 := by
    have := t.toNat_lt
    rw [UInt16.lt_iff_toNat_lt] at hbelow
    rw [UInt16.toNat_saturatingAdd]
    simp only [UInt16.reduceToNat]
    omega
  have hexpiry := hsound.expiry
  cases m with
  | admitBusy hs => exact .inl ⟨hhalf, hbelow, rfl, nofun, nofun⟩
  | admitIdle hs hd hne =>
    rw [hs] at hbelow ⊢
    exact .inl ⟨trivial, hbelow, rfl, nofun, nofun⟩
  | @finishLate now lease success crossed hs hl =>
    have hidle : ∀ lease', lease = some lease' → c.state.leaseId ≠ some lease' := by
      rintro lease' rfl h
      rcases hl with hl | hl
      · cases hl.symm.trans h
      · exact hl h
    have hrecovers : ¬ Recovers c (.finish now lease success crossed) := by
      cases lease <;> cases success <;> cases crossed <;> simp_all [Recovers]
    have hreopens : ¬ Reopens c (.finish now lease success crossed) := by
      cases lease <;> cases crossed <;> simp_all [Reopens]
    exact .inl ⟨hhalf, hbelow, by rw [if_neg hrecovers], hreopens, fun h => hrecovers h.1⟩
  | @finishReleased now active success r lr e n l hs =>
    rw [hs] at hbelow ⊢
    refine .inl ⟨trivial, hbelow, ?_, nofun, fun h => ?_⟩
    · rw [if_neg (by cases success <;> exact id)]
      rfl
    · cases success <;> exact h.1
  | @finishExpired now active success r lr expires n l policy hs he hp =>
    refine .inr (.inl ⟨trivial, ⟨by simp [hs], .inr (by simpa [hs] using he)⟩, fun h => ?_⟩)
    cases success with
    | false => exact h
    | true => exact absurd he (UInt64.not_le.mpr (by simpa [hs] using h.2))
  | @finishCloses now active r lr e n l policy hs he hp hn =>
    obtain ⟨expires, rfl⟩ : ∃ expires, e = some expires :=
      Option.isSome_iff_exists.mp (by simpa [hs] using hexpiry.symm)
    have hlive : now < expires := by simpa using he
    simp only [hs, StationKeyCircuitState.recoverySuccesses] at hnext hbelow ⊢
    rw [hlease policy hp, UInt16.le_iff_toNat_le, hnext] at hn
    rw [UInt16.lt_iff_toNat_lt] at hbelow
    refine .inr (.inr ⟨trivial, fun h => ?_, ⟨by simp [hs], by simpa [hs] using hlive⟩,
      Nat.le_antisymm hbelow hn⟩)
    have hlate : expires ≤ now := by simpa [hs] using h.2
    exact absurd hlate (UInt64.not_le.mpr hlive)
  | @finishRecovers now active r lr e n l policy hs he hp hn =>
    obtain ⟨expires, rfl⟩ : ∃ expires, e = some expires :=
      Option.isSome_iff_exists.mp (by simpa [hs] using hexpiry.symm)
    have hlive : now < expires := by simpa using he
    have hrecovers : Recovers c (.finish now (some active) true true) :=
      ⟨by simp [hs], by simpa [hs] using hlive⟩
    simp only [hs, StationKeyCircuitState.recoverySuccesses] at hnext hbelow ⊢
    rw [hlease policy hp] at hn
    refine .inl ⟨trivial, hn, by rw [if_pos hrecovers]; exact hnext, fun h => ?_, fun h => ?_⟩
    · have hlate : expires ≤ now := by simpa [hs] using h.2
      exact absurd hlate (UInt64.not_le.mpr hlive)
    · rw [UInt16.lt_iff_toNat_lt, hnext, h.2] at hn
      exact Nat.lt_irrefl _ hn
  | finishReopens hs he hp => exact .inr (.inl ⟨trivial, ⟨by simp [hs], .inl rfl⟩, nofun⟩)
  | reapReopens hs he hp =>
    exact .inr (.inl ⟨trivial, ⟨by simp [hs], by simpa [hs] using he⟩, nofun⟩)
  | @reapNothing now lease hl =>
    refine .inl ⟨hhalf, hbelow, rfl, fun h => ?_, nofun⟩
    rcases hl with hl | hl
    · exact hl h.1
    · rw [h.1] at hexpiry
      obtain ⟨expires, hsome⟩ := Option.isSome_iff_exists.mp hexpiry.symm
      have hlate : expires ≤ now := by simpa [hsome] using h.2
      exact absurd hlate (UInt64.not_le.mpr (by simpa [hsome] using hl))
  | _ => simp_all

/-- From Open a move waits, or enters Half-Open with nothing recovered. -/
theorem CircuitMove.fromOpen {c c' : StationKeyCircuit} {op : CircuitOp} {reply : CircuitReply}
    (m : CircuitMove c op reply c') (hopen : c.state.IsOpen) :
    c'.state.IsOpen ∨ (c'.state.IsHalfOpen ∧ c'.state.recoverySuccesses = 0) := by
  cases m with
  | admitOpenAdopt => exact .inl trivial
  | admitOpen => exact .inl hopen
  | admitProbe => exact .inr ⟨trivial, rfl⟩
  | finishLate => exact .inl hopen
  | reapNothing => exact .inl hopen
  | _ => simp_all

structure CountsRecoveries (v : ValidConfig) (c : StationKeyCircuit) (n : Nat) : Prop where
  policy : UnderPolicy v c
  waiting : c.state.IsOpen → n = 0
  counter : c.state.IsHalfOpen → c.state.recoverySuccesses.toNat = n
  below : c.state.IsHalfOpen → c.state.recoverySuccesses < v.config.recoverySuccessThreshold

theorem CountsRecoveries.step {v : ValidConfig} {c : StationKeyCircuit} {n : Nat}
    (h : CountsRecoveries v c n) (op : CircuitOp) :
    CountsRecoveries v (RelayPool.Circuit.step c ⟨v, op⟩)
      (countRecovery c ⟨v, op⟩ (RelayPool.Circuit.step c ⟨v, op⟩) n) := by
  have hpolicy := h.policy.step op
  have hpos : 0 < v.config.recoverySuccessThreshold :=
    UInt16.lt_of_le_of_ne (by simp) (validate_ok.mp v.valid).2.2.1.symm
  rcases h.policy.moves op with ⟨⟨now, deadline, lease, rfl⟩, heq⟩ | ⟨answer, -, m⟩
  · rw [heq]
    have hsame : countRecovery c ⟨v, .admitAttempt now deadline lease⟩ c n = n := by
      unfold countRecovery
      rw [if_neg (fun h => h.1 h.2), if_neg (by exact id)]
    rwa [hsame]
  · generalize RelayPool.Circuit.step c ⟨v, op⟩ = c' at m hpolicy ⊢
    unfold countRecovery
    cases hs : c.state with
    | closed r f l =>
      -- No lease is out; the move stays Closed or opens.
      have hnot : ¬ c'.state.IsHalfOpen := by
        cases m with
        | finishLate => simp [hs]
        | reapNothing => simp [hs]
        | _ => simp_all
      refine ⟨hpolicy, fun hopen => ?_, fun h' => absurd h' hnot, fun h' => absurd h' hnot⟩
      rw [if_pos ⟨by simp, hopen⟩]
    | «open» r t u f l =>
      have hcount : n = 0 := h.waiting (by simp [hs])
      have hrecovers : ¬ Recovers c op := by
        unfold Recovers
        split <;> simp [hs]
      rw [if_neg (by simp), if_neg hrecovers]
      rcases m.fromOpen (by simp [hs]) with hopen | ⟨hhalf, hzero⟩
      · have hnot : ¬ c'.state.IsHalfOpen := by cases hs' : c'.state <;> simp_all
        exact ⟨hpolicy, fun _ => hcount, fun h' => absurd h' hnot, fun h' => absurd h' hnot⟩
      · refine ⟨hpolicy, fun _ => hcount, fun _ => ?_, fun _ => ?_⟩
        · rw [hzero, hcount]
          rfl
        · rwa [hzero]
    | halfOpen r lease lr e k l =>
      have hhalf : c.state.IsHalfOpen := by simp [hs]
      rw [← hs, ← h.counter hhalf]
      rcases m.fromHalfOpen h.policy.sound hhalf h.policy.lease (h.below hhalf) with
        ⟨hhalf', hbelow, hcounter, -⟩ | ⟨hopen, -⟩ | ⟨hclosed, -⟩
      · have hnot : ¬ c'.state.IsOpen := by cases hs' : c'.state <;> simp_all
        rw [if_neg fun h' => hnot h'.2]
        exact ⟨hpolicy, fun h' => absurd h' hnot, fun _ => hcounter, fun _ => hbelow⟩
      · have hnot : ¬ c'.state.IsHalfOpen := by cases hs' : c'.state <;> simp_all
        refine ⟨hpolicy, fun _ => ?_, fun h' => absurd h' hnot, fun h' => absurd h' hnot⟩
        rw [if_pos ⟨by simp [hs], hopen⟩]
      · refine ⟨hpolicy, fun h' => ?_, fun h' => ?_, fun h' => ?_⟩ <;>
          cases hs' : c'.state <;> simp_all

theorem reach_counts (v : ValidConfig) (ops : List CircuitOp) :
    CountsFailures v (reach v (fixed v ops)) (failures v ops) ∧
      CountsRecoveries v (reach v (fixed v ops)) (recoveries v ops) := by
  have hinitial := newCircuit_underPolicy v
  have hpos : 0 < v.config.consecutiveFailureThreshold :=
    UInt16.lt_of_le_of_ne (by simp) (validate_ok.mp v.valid).2.1.symm
  induction ops using List.reverseRecOn with
  | nil =>
    exact ⟨⟨hinitial, fun _ => rfl, fun _ => hpos⟩, ⟨hinitial, fun _ => rfl, nofun, nofun⟩⟩
  | append_singleton ops op ih =>
    unfold failures recoveries
    rw [fixed_concat, reach_concat, Runs.record_concat, Runs.record_concat]
    exact ⟨ih.1.step op, ih.2.step op⟩

/-! ### Opening and closing -/

/-- What cannot move a streak: a denied admission, a result that did not cross the boundary,
and outside Closed a result of any lease but the active one. -/
def Neutral (c : StationKeyCircuit) (v : ValidConfig) (op : CircuitOp) : Prop :=
  (∃ answer, reply c ⟨v, op⟩ = some (.admission answer) ∧
    (answer = .deniedOpenCooldown ∨ answer = .deniedHalfOpenLease)) ∨
  ∃ now lease success crossed, op = .finish now lease success crossed ∧
    (crossed = false ∨
      (¬ c.state.IsClosed ∧ (c.state.leaseId = none ∨ c.state.leaseId ≠ lease)))

/-- The same variant with the same counters. -/
structure SameStreaks (c c' : StationKeyCircuit) : Prop where
  closed : c'.state.IsClosed ↔ c.state.IsClosed
  opened : c'.state.IsOpen ↔ c.state.IsOpen
  halfOpen : c'.state.IsHalfOpen ↔ c.state.IsHalfOpen
  failures : c'.state.consecutiveFailures = c.state.consecutiveFailures
  recoveries : c'.state.recoverySuccesses = c.state.recoverySuccesses

theorem SameStreaks.refl (c : StationKeyCircuit) : SameStreaks c c :=
  ⟨Iff.rfl, Iff.rfl, Iff.rfl, rfl, rfl⟩

theorem neutral_step {v : ValidConfig} {c : StationKeyCircuit} {n : Nat}
    (h : CountsFailures v c n) {op : CircuitOp} (hneutral : Neutral c v op) :
    SameStreaks c (step c ⟨v, op⟩) := by
  rcases h.policy.moves op with ⟨-, heq⟩ | ⟨answer, hreply, m⟩
  · rw [heq]
    exact .refl c
  have hbelow := h.below
  rw [← h.policy.config] at hbelow
  rcases hneutral with ⟨answer', hdenied, hanswer⟩ | ⟨now, lease, success, crossed, rfl, hkind⟩
  · obtain rfl := Option.some.inj (hreply.symm.trans hdenied)
    generalize step c ⟨v, op⟩ = c' at m ⊢
    cases m with
    | admitReached hs hf =>
      rw [hs] at hbelow
      exact absurd hf (UInt16.not_le.mpr (hbelow trivial))
    | admitOpenAdopt hs => constructor <;> simp [hs]
    | admitOpen => exact .refl c
    | admitBusy => exact .refl c
    | _ => rcases hanswer with hanswer | hanswer <;> cases hanswer
  · generalize step c ⟨v, _⟩ = c' at m ⊢
    rcases hkind with rfl | ⟨hclosed, hlease⟩
    · cases m with
      | finishUncrossed => exact .refl c
      | finishLate => exact .refl c
      | finishReleased hs => constructor <;> simp [hs]
    · cases m with
      | finishLate => exact .refl c
      | _ => rcases hlease with hlease | hlease <;> simp_all

section Exact
variable {v : ValidConfig} {c : StationKeyCircuit} {n : Nat} (op : CircuitOp)

theorem opens_exactly (h : CountsFailures v c n) (hclosed : c.state.IsClosed) :
    (step c ⟨v, op⟩).state.IsOpen ↔
      Fails op ∧ n + 1 = v.config.consecutiveFailureThreshold.toNat := by
  have hbelow := h.below hclosed
  rw [← h.policy.config] at hbelow
  rw [← h.counter hclosed, ← h.policy.config]
  rcases h.policy.moves op with ⟨⟨now, deadline, lease, rfl⟩, heq⟩ | ⟨answer, -, m⟩
  · rw [heq]
    exact ⟨fun hopen => absurd hopen hclosed.not_open, nofun⟩
  · rcases m.fromClosed hclosed hbelow with ⟨hclosed', -, -, hnot⟩ | ⟨hopen, hfails⟩
    · exact ⟨fun hopen => absurd hopen hclosed'.not_open, fun hfails => absurd hfails hnot⟩
    · exact ⟨fun _ => hfails, fun _ => hopen⟩

theorem closes_exactly (h : CountsRecoveries v c n) (hhalf : c.state.IsHalfOpen) :
    ((step c ⟨v, op⟩).state.IsClosed ↔
      Recovers c op ∧ n + 1 = v.config.recoverySuccessThreshold.toNat) ∧
    ((step c ⟨v, op⟩).state.IsOpen ↔ Reopens c op) := by
  rw [← h.counter hhalf]
  rcases h.policy.moves op with ⟨⟨now, deadline, lease, rfl⟩, heq⟩ | ⟨answer, -, m⟩
  · rw [heq]
    exact ⟨⟨fun hclosed => absurd hhalf hclosed.not_halfOpen, nofun⟩,
      ⟨fun hopen => absurd hhalf hopen.not_halfOpen, nofun⟩⟩
  · rcases m.fromHalfOpen h.policy.sound hhalf h.policy.lease (h.below hhalf) with
      ⟨hhalf', -, -, hreopens, hrecovers⟩ | ⟨hopen, hreopens, hrecovers⟩ |
        ⟨hclosed, hreopens, hrecovers⟩
    · exact ⟨⟨fun hclosed => absurd hhalf' hclosed.not_halfOpen, fun h => absurd h hrecovers⟩,
        ⟨fun hopen => absurd hhalf' hopen.not_halfOpen, fun h => absurd h hreopens⟩⟩
    · exact ⟨⟨fun hclosed => absurd hopen hclosed.not_open, fun h => absurd h.1 hrecovers⟩,
        ⟨fun _ => hreopens, fun _ => hopen⟩⟩
    · exact ⟨⟨fun _ => hrecovers, fun _ => hclosed⟩,
        ⟨fun hopen => absurd hopen hclosed.not_open, fun h => absurd h hreopens⟩⟩

end Exact

/-- Closed opens at the failure that reaches the threshold and Half-Open closes at the
recovery that does; in between only the leases' own results and their reaping count. -/
theorem streaks_exact (v : ValidConfig) (ops : List CircuitOp) (op : CircuitOp) :
    let c := reach v (fixed v ops)
    let c' := reach v (fixed v (ops ++ [op]))
    (c.state.IsClosed → (c'.state.IsOpen ↔
      Fails op ∧ failures v ops + 1 = v.config.consecutiveFailureThreshold.toNat)) ∧
    (c.state.IsHalfOpen → (c'.state.IsClosed ↔
      Recovers c op ∧ recoveries v ops + 1 = v.config.recoverySuccessThreshold.toNat)) ∧
    (c.state.IsHalfOpen → (c'.state.IsOpen ↔ Reopens c op)) ∧
    (Neutral c v op → SameStreaks c c') := by
  intro c c'
  obtain ⟨hfailures, hrecoveries⟩ := reach_counts v ops
  have hc' : c' = step c ⟨v, op⟩ := by
    show reach v (fixed v (ops ++ [op])) = _
    rw [fixed_concat, reach_concat]
  rw [hc']
  exact ⟨opens_exactly op hfailures, fun hhalf => (closes_exactly op hrecoveries hhalf).1,
    fun hhalf => (closes_exactly op hrecoveries hhalf).2, neutral_step hfailures⟩

/-- Two failures open and one recovery closes. -/
def pairConfig : ValidConfig := ⟨⟨1, 2, 1, 1, 1⟩, rfl⟩

/-- In Closed a failure counts whoever's lease it names, and a probe that outlived its
lease is forgotten when its result did not cross the boundary: the next one closes. -/
theorem leases_not_consulted :
    (¬ ∀ (v : ValidConfig) (ops : List CircuitOp) (now : UInt64) (lease : String),
      (reach v (fixed v ops)).state.leaseId ≠ some lease →
      SameStreaks (reach v (fixed v ops))
        (reach v (fixed v (ops ++ [.finish now (some lease) false true])))) ∧
    ¬ ∀ (v : ValidConfig) (before between : List CircuitOp) (now : UInt64) (lease : String)
        (success crossed : Bool) (op : CircuitOp),
      (reach v (fixed v before)).state.leaseId = some lease →
      (reach v (fixed v before)).state.leaseExpiresAtMs.any (· ≤ now) →
      (∀ ops, ops <+: between → ¬ (reach v (fixed v
        (before ++ .finish now (some lease) success crossed :: ops))).state.IsOpen) →
      (reach v (fixed v (before ++ .finish now (some lease) success crossed ::
        between))).state.IsHalfOpen →
      ¬ (reach v (fixed v (before ++ .finish now (some lease) success crossed ::
        (between ++ [op])))).state.IsClosed := by
  constructor
  · intro h
    have := (h pairConfig [] 1 "foreign" (by decide)).failures
    revert this
    decide
  · intro h
    refine h pairConfig [.finish 0 none false true, .finish 0 none false true,
      .admitAttempt 1 9 "slow"] [.admitAttempt 21 99 "next"] 20 "slow" false false
      (.finish 22 (some "next") true true) (by decide) (by decide) (fun ops hops => ?_)
      (by decide) (by decide)
    rcases List.prefix_cons_iff.mp hops with rfl | ⟨rest, rfl, hrest⟩
    · decide
    · obtain rfl := List.prefix_nil.mp hrest
      decide

end RelayPool.Circuit
