import RelayPool.Circuit.Reachable

/-! Cooldowns and the single probe.

The reopen level of a circuit that is not Closed is one more than its
re-openings since it last was (`reopenings`, a history variable no operation
reads), and the cooldown an opening sets is the wait doubled once for each of
them (`opening`). While the circuit stays Open nothing moves that cooldown
(`cooldown_kept`), on a clock that does not run backwards no admission before
its end is allowed (`admission_denied`), and a granted lease stays the only one
until its own result or its reaping (`lease_ends`). `cooldown_and_single_probe`
collects the four. -/
namespace RelayPool.Circuit
open StationKeyCircuit

/-! ### The reopen level -/

def countReopening (c : StationKeyCircuit) (_ : CircuitStep) (c' : StationKeyCircuit) (n : Nat) :
    Nat :=
  if c'.state.IsClosed then 0 else if c.state.IsHalfOpen ∧ c'.state.IsOpen then n + 1 else n

/-- The re-openings of a run since the circuit was last Closed. -/
def reopenings (v : ValidConfig) (steps : List CircuitStep) : Nat :=
  Runs.record step countReopening v.newCircuit 0 steps

/-- The level an opening takes. -/
def nextLevel (l : UInt32) : UInt32 := max (l.saturatingAdd 1) 1

theorem toNat_nextLevel (l : UInt32) : (nextLevel l).toNat = min (l.toNat + 1) (2 ^ 32 - 1) := by
  rw [nextLevel, UInt32.toNat_max, UInt32.toNat_saturatingAdd]
  simp only [UInt32.reduceToNat]
  omega

/-- What the level says about the re-openings counted so far. -/
structure LevelCounts (c : StationKeyCircuit) (n : Nat) : Prop where
  sound : Sound c
  closed : c.state.IsClosed → n = 0
  level : ¬ c.state.IsClosed → c.state.reopenLevel.toNat = min (n + 1) (2 ^ 32 - 1)

/-- A move opens the circuit at the next level, or keeps the level it found. -/
theorem CircuitMove.level {c c' : StationKeyCircuit} {op : CircuitOp} {reply : CircuitReply}
    (m : CircuitMove c op reply c') (hclosed : ¬ c'.state.IsClosed) :
    (¬ c.state.IsOpen ∧ c'.state.IsOpen ∧ c'.state.reopenLevel = nextLevel c.state.reopenLevel) ∨
      (¬ c.state.IsClosed ∧ (c.state.IsHalfOpen → ¬ c'.state.IsOpen) ∧
        c'.state.reopenLevel = c.state.reopenLevel) := by
  cases m with
  | admitReached hs hf => exact .inl ⟨by simp [hs], trivial, by rw [hs]; rfl⟩
  | finishOpens hs hf => exact .inl ⟨by simp [hs], trivial, by rw [hs]; rfl⟩
  | finishExpired hs he hp => exact .inl ⟨by simp [hs], trivial, by rw [hs]; rfl⟩
  | finishReopens hs he hp => exact .inl ⟨by simp [hs], trivial, by rw [hs]; rfl⟩
  | reapReopens hs he hp => exact .inl ⟨by simp [hs], trivial, by rw [hs]; rfl⟩
  | admitProbe hs hu hd hne => exact .inr ⟨by simp [hs], fun _ => nofun, by rw [hs]; rfl⟩
  | admitIdle hs hd hne => exact .inr ⟨by simp [hs], fun _ => nofun, by rw [hs]; rfl⟩
  | finishLate hs hl => exact .inr ⟨hs, fun h h' => by cases hc : c.state <;> simp_all, rfl⟩
  | reapNothing hl => exact .inr ⟨hclosed, fun h h' => by cases hc : c.state <;> simp_all, rfl⟩
  | _ => simp_all

theorem levelCounts_step (c : StationKeyCircuit) (s : CircuitStep) (n : Nat)
    (h : LevelCounts c n) : LevelCounts (step c s) (countReopening c s (step c s) n) := by
  refine ⟨step_sound c s h.sound, fun hclosed => if_pos hclosed, fun hclosed => ?_⟩
  unfold countReopening
  rw [if_neg hclosed]
  rcases step_moves c s with ⟨-, heq⟩ | ⟨answer, -, m⟩
  · rw [heq] at hclosed ⊢
    rw [if_neg fun hopen => by cases hc : c.state <;> simp_all [withConfig]]
    exact h.level hclosed
  · rcases m.level hclosed with ⟨hnot, hopen, hlevel⟩ | ⟨hnot, hkept, hlevel⟩
    · rw [hlevel, toNat_nextLevel]
      by_cases hc : c.state.IsClosed
      · rw [if_neg fun hopen => by cases hs : c.state <;> simp_all, h.closed hc]
        rw [show (c.withConfig s.config.config).state.reopenLevel = 0 from h.sound.closed hc]
        rfl
      · have hhalf : c.state.IsHalfOpen := by cases hs : c.state <;> simp_all [withConfig]
        rw [if_pos ⟨hhalf, hopen⟩]
        rw [show (c.withConfig s.config.config).state.reopenLevel = c.state.reopenLevel from rfl]
        rw [h.level hc]
        omega
    · rw [if_neg fun hreopen => hkept hreopen.1 hreopen.2, hlevel]
      exact h.level hnot

theorem reach_levelCounts (v : ValidConfig) (steps : List CircuitStep) :
    LevelCounts (reach v steps) (reopenings v steps) :=
  Runs.record_invariant levelCounts_step
    ⟨newCircuit_sound v, fun _ => rfl, fun h => absurd trivial h⟩ steps

/-! ### The cooldown an opening sets -/

/-- The exponent stops at the word's width, so the product saturates only past it. -/
theorem toNat_cooldown (wait maxCooldown : UInt64) (l : UInt32) :
    (cooldown wait maxCooldown l).toNat =
      min (wait.toNat * 2 ^ min (l.toNat - 1) 63) maxCooldown.toNat := by
  have hexponent : (min (l.saturatingSub 1) 63).toNat = min (l.toNat - 1) 63 := by
    rw [UInt32.toNat_min, UInt32.toNat_saturatingSub]
    rfl
  have hlt : min (l.saturatingSub 1) 63 < 64 := by
    rw [UInt32.lt_iff_toNat_lt, hexponent]
    simp only [UInt32.reduceToNat]
    omega
  obtain ⟨multiplier, hshift, hvalue⟩ := UInt64.checkedShl_one _ hlt
  have := maxCooldown.toNat_le
  simp only [cooldown, hshift, Option.getD_some, UInt64.toNat_min, UInt64.toNat_saturatingMul,
    hvalue, hexponent]
  omega

/-- The wait an opening is timed by: the lease's own while one is out, else the policy's. -/
def openingWaitMs (c : StationKeyCircuit) (s : CircuitStep) : UInt64 :=
  (c.leasePolicy.map (·.recoveryWaitMs)).getD s.config.config.recoveryWaitMs

theorem CircuitMove.opens {c c' : StationKeyCircuit} {op : CircuitOp} {reply : CircuitReply}
    (m : CircuitMove c op reply c') (hsound : Sound c) (hopen : ¬ c.state.IsOpen)
    (hopen' : c'.state.IsOpen) :
    ∃ f, c'.state = .open (bumpRevision c.state.stateRevision) op.nowMs (op.nowMs.saturatingAdd (cooldown
        ((c.leasePolicy.map (·.recoveryWaitMs)).getD c.config.recoveryWaitMs)
        c.config.maxCooldownMs (nextLevel c.state.reopenLevel))) f
      (nextLevel c.state.reopenLevel) := by
  have hlease := hsound.lease
  cases m with
  | @admitReached now deadline lease r f l hs hf =>
    have hnone : c.leasePolicy = none := by simpa [hs] using hlease
    exact ⟨f, by simp [hs, hnone, CircuitOp.nowMs, nextLevel]⟩
  | @finishOpens now lease r f l hs hf =>
    have hnone : c.leasePolicy = none := by simpa [hs] using hlease
    exact ⟨f.saturatingAdd 1, by simp [hs, hnone, CircuitOp.nowMs, nextLevel]⟩
  | finishExpired hs he hp => exact ⟨0, by simp [hs, hp, CircuitOp.nowMs, nextLevel]⟩
  | finishReopens hs he hp => exact ⟨0, by simp [hs, hp, CircuitOp.nowMs, nextLevel]⟩
  | reapReopens hs he hp => exact ⟨0, by simp [hs, hp, CircuitOp.nowMs, nextLevel]⟩
  | finishLate hs hl => exact absurd hopen' hopen
  | reapNothing hl => exact absurd hopen' hopen
  | _ => simp_all

/-- An opening, timed by the re-openings of the whole run. -/
theorem opening (v : ValidConfig) (before : List CircuitStep) (s : CircuitStep)
    (hopen : ¬ (reach v before).state.IsOpen) (hopen' : (step (reach v before) s).state.IsOpen) :
    ∃ r u f l, (step (reach v before) s).state = .open r s.op.nowMs u f l ∧
      l.toNat = min (1 + reopenings v (before ++ [s])) (2 ^ 32 - 1) ∧
      u.toNat = min (s.op.nowMs.toNat +
        min ((openingWaitMs (reach v before) s).toNat *
            2 ^ min (reopenings v (before ++ [s])) 63)
          s.config.config.maxCooldownMs.toNat) (2 ^ 64 - 1) := by
  have hlevel := (reach_levelCounts v (before ++ [s])).level
  rw [reach_concat] at hlevel
  rcases step_moves (reach v before) s with ⟨-, heq⟩ | ⟨answer, -, m⟩
  · rw [heq] at hopen'
    exact absurd hopen' hopen
  · obtain ⟨f, hstate⟩ := m.opens ((reach_sound v before).withConfig s.config) hopen hopen'
    have hl : (nextLevel (reach v before).state.reopenLevel).toNat =
        min (1 + reopenings v (before ++ [s])) (2 ^ 32 - 1) := by
      rw [hstate] at hlevel
      rw [Nat.add_comm]
      exact hlevel nofun
    refine ⟨_, _, f, _, hstate, hl, ?_⟩
    rw [UInt64.toNat_saturatingAdd, toNat_cooldown]
    have hexponent : min ((nextLevel (reach v before).state.reopenLevel).toNat - 1) 63 =
        min (reopenings v (before ++ [s])) 63 := by omega
    rw [withConfig_state, hexponent]
    rfl

/-- Open since `t` until `u`, whatever revision the row has reached. -/
def OpenUntil (t u : UInt64) (f : UInt16) (l : UInt32) (c : StationKeyCircuit) : Prop :=
  ∃ r, c.state = .open r t u f l

theorem cooldown_kept_step {c : StationKeyCircuit} {s : CircuitStep} {t u : UInt64} {f : UInt16}
    {l : UInt32} (h : OpenUntil t u f l c) (hopen : (step c s).state.IsOpen) :
    OpenUntil t u f l (step c s) := by
  obtain ⟨r, hs⟩ := h
  rcases step_moves c s with ⟨-, heq⟩ | ⟨answer, -, m⟩
  · exact ⟨r, by rw [heq]; exact hs⟩
  · generalize step c s = c' at m hopen ⊢
    generalize s.op = op at m
    cases m with
    | admitOpenAdopt hs' hu hp =>
      cases hs.symm.trans hs'
      exact ⟨_, rfl⟩
    | admitOpen hs' hu hp => exact ⟨r, hs⟩
    | finishLate hs' hl => exact ⟨r, hs⟩
    | reapNothing hl => exact ⟨r, hs⟩
    | _ => simp_all

theorem cooldown_kept {c : StationKeyCircuit} {t u : UInt64} {f : UInt16} {l : UInt32}
    (h : OpenUntil t u f l c) {after : List CircuitStep}
    (hopen : Runs.Along step (fun c s => (step c s).state.IsOpen) c after) :
    OpenUntil t u f l (Runs.run step c after) :=
  Runs.run_invariant_along (fun _ _ hopen h => cooldown_kept_step h hopen) h hopen

/-! ### Admission before the cooldown's end -/

/-- Still waiting, or the clock has passed the end of the cooldown. -/
def Waits (t u : UInt64) (f : UInt16) (l : UInt32) (c : StationKeyCircuit) (now : UInt64) : Prop :=
  OpenUntil t u f l c ∨ u ≤ now

theorem waits_step {t u now : UInt64} {f : UInt16} {l : UInt32} {c : StationKeyCircuit}
    {s : CircuitStep} (h : Waits t u f l c now) (hclock : now ≤ s.op.nowMs) :
    Waits t u f l (step c s) s.op.nowMs := by
  rcases h with hwait | hpast
  · by_cases hopen : (step c s).state.IsOpen
    · exact .inl (cooldown_kept_step hwait hopen)
    · obtain ⟨r, hs⟩ := hwait
      rcases step_moves c s with ⟨-, heq⟩ | ⟨answer, -, m⟩
      · rw [heq] at hopen
        simp [hs] at hopen
      · generalize step c s = c' at m hopen ⊢
        generalize s.op = op at m ⊢
        cases m with
        | admitProbe hs' hu hd hne =>
          cases hs.symm.trans hs'
          exact .inr hu
        | _ => simp_all
  · exact .inr (UInt64.le_trans hpast hclock)

/-- The steps' clocks do not run backwards. -/
def ClockOrdered (steps : List CircuitStep) : Prop :=
  (steps.map (·.op.nowMs)).Pairwise (· ≤ ·)

instance (steps : List CircuitStep) : Decidable (ClockOrdered steps) :=
  inferInstanceAs (Decidable (List.Pairwise _ _))

theorem waits_run {t u : UInt64} {f : UInt16} {l : UInt32} {c : StationKeyCircuit}
    {s : CircuitStep} {after : List CircuitStep} (h : Waits t u f l c s.op.nowMs)
    {a : CircuitStep} (hclock : ClockOrdered (s :: after ++ [a])) :
    Waits t u f l (Runs.run step c after) a.op.nowMs := by
  induction after generalizing c s with
  | nil =>
    have hle : s.op.nowMs ≤ a.op.nowMs := by simpa [ClockOrdered] using hclock
    exact h.imp_right fun hpast => UInt64.le_trans hpast hle
  | cons b rest ih =>
    obtain ⟨hhead, htail⟩ := List.pairwise_cons.mp hclock
    exact ih (waits_step h (hhead _ (by simp))) htail

/-- Whatever happens in between, an admission before the end is denied. -/
theorem admission_denied {c : StationKeyCircuit} {t u : UInt64} {f : UInt16} {l : UInt32}
    (h : OpenUntil t u f l c) {s a : CircuitStep} {after : List CircuitStep}
    (hclock : ClockOrdered (s :: after ++ [a])) (hbefore : a.op.nowMs < u)
    {answer : CircuitAdmission}
    (hreply : reply (Runs.run step c after) a = some (.admission answer)) :
    answer = .deniedOpenCooldown := by
  rcases waits_run (.inl h) hclock with ⟨r', hs'⟩ | hpast
  · rcases step_moves (Runs.run step c after) a with ⟨hnone, -⟩ | ⟨answer', hsome, m⟩
    · cases hnone.symm.trans hreply
    · obtain rfl := Option.some.inj (hsome.symm.trans hreply)
      generalize step (Runs.run step c after) a = c' at m
      generalize a.op = op at m hbefore
      cases m with
      | admitOpenAdopt hs'' hu hp => rfl
      | admitOpen hs'' hu hp => rfl
      | admitProbe hs'' hu hd hne =>
        cases hs'.symm.trans hs''
        exact absurd hu (UInt64.not_le.mpr hbefore)
      | _ => simp_all
  · exact absurd hpast (UInt64.not_le.mpr hbefore)

/-! ### One probe at a time -/

/-- The lease's own result, or a reaping that took. -/
def EndsLease (lease : String) (c : StationKeyCircuit) (s : CircuitStep) : Prop :=
  (∃ now success crossed, s.op = .finish now (some lease) success crossed) ∨
    ∃ now, s.op = .reapExpiredLease now lease ∧ reply c s = some (.reaped true)

theorem granted_lease {c : StationKeyCircuit} {s : CircuitStep} {now deadline : UInt64}
    {lease : String} (hop : s.op = .admitAttempt now deadline lease)
    (h : reply c s = some (.admission .allowedHalfOpen)) :
    (step c s).state.leaseId = some lease := by
  rcases step_moves c s with ⟨hnone, -⟩ | ⟨answer, hsome, m⟩
  · cases hnone.symm.trans h
  · obtain rfl := Option.some.inj (hsome.symm.trans h)
    generalize step c s = c' at m ⊢
    rw [hop] at m
    cases m with
    | admitProbe => rfl
    | admitIdle => rfl

/-- Until the lease ends it stays the active one, and no other is granted. -/
theorem lease_kept {c : StationKeyCircuit} {s : CircuitStep} {lease : String}
    (hs : c.state.leaseId = some lease) (hends : ¬ EndsLease lease c s) :
    (step c s).state.leaseId = some lease ∧ reply c s ≠ some (.admission .allowedHalfOpen) := by
  rcases step_moves c s with ⟨hnone, heq⟩ | ⟨answer, hsome, m⟩
  · rw [heq, hnone]
    exact ⟨hs, nofun⟩
  · simp only [EndsLease, not_or, hsome] at hends ⊢
    obtain ⟨hfinish, hreap⟩ := hends
    generalize step c s = c' at m ⊢
    generalize s.op = op at m hfinish hreap
    cases m with
    | admitBusy => exact ⟨hs, nofun⟩
    | finishLate => exact ⟨hs, nofun⟩
    | reapNothing => exact ⟨hs, nofun⟩
    | _ => simp_all

theorem lease_ends {c : StationKeyCircuit} {lease : String} (hs : c.state.leaseId = some lease)
    {between : List CircuitStep} {s : CircuitStep}
    (h : reply (Runs.run step c between) s = some (.admission .allowedHalfOpen)) :
    ∃ p m q, between = p ++ m :: q ∧ EndsLease lease (Runs.run step c p) m := by
  induction between generalizing c with
  | nil =>
    refine absurd h (lease_kept hs fun hends => ?_).2
    -- The second grant answers an admission, which ends no lease.
    rcases hends with ⟨now, success, crossed, hop⟩ | ⟨now, -, hreaped⟩
    · rcases step_moves c s with ⟨hnone, -⟩ | ⟨answer, hsome, m⟩
      · cases hnone.symm.trans h
      · obtain rfl := Option.some.inj (hsome.symm.trans h)
        rw [hop] at m
        cases m
    · cases hreaped.symm.trans h
  | cons m rest ih =>
    by_cases hends : EndsLease lease c m
    · exact ⟨[], m, rest, rfl, hends⟩
    · obtain ⟨p, m', q, hsplit, hends'⟩ := ih (lease_kept hs hends).1 h
      exact ⟨m :: p, m', q, by rw [hsplit]; rfl, hends'⟩

theorem cooldown_and_single_probe (v : ValidConfig) (before : List CircuitStep)
    (s : CircuitStep) :
    (¬ (reach v before).state.IsOpen → (reach v (before ++ [s])).state.IsOpen →
      ∃ r u f l, (reach v (before ++ [s])).state = .open r s.op.nowMs u f l ∧
        l.toNat = min (1 + reopenings v (before ++ [s])) (2 ^ 32 - 1) ∧
        u.toNat = min (s.op.nowMs.toNat +
          min ((openingWaitMs (reach v before) s).toNat *
              2 ^ min (reopenings v (before ++ [s])) 63)
            s.config.config.maxCooldownMs.toNat) (2 ^ 64 - 1) ∧
        (∀ after, Runs.Along step (fun c s => (step c s).state.IsOpen)
            (reach v (before ++ [s])) after →
          OpenUntil s.op.nowMs u f l (reach v (before ++ [s] ++ after))) ∧
        ∀ after a answer, ClockOrdered (s :: after ++ [a]) → a.op.nowMs < u →
          reply (reach v (before ++ [s] ++ after)) a = some (.admission answer) →
          answer = .deniedOpenCooldown) ∧
    ∀ now deadline lease, s.op = .admitAttempt now deadline lease →
      reply (reach v before) s = some (.admission .allowedHalfOpen) →
      ∀ between s', reply (reach v (before ++ [s] ++ between)) s' =
          some (.admission .allowedHalfOpen) →
        ∃ p m q, between = p ++ m :: q ∧ EndsLease lease (reach v (before ++ [s] ++ p)) m := by
  constructor
  · intro hopen hopen'
    rw [reach_concat] at hopen'
    obtain ⟨r, u, f, l, hstate, hlevel, hcooldown⟩ := opening v before s hopen hopen'
    rw [← reach_concat] at hstate
    have hwait : OpenUntil s.op.nowMs u f l (reach v (before ++ [s])) := ⟨r, hstate⟩
    refine ⟨r, u, f, l, hstate, hlevel, hcooldown, fun after hstay => ?_, ?_⟩
    · rw [reach_append]
      exact cooldown_kept hwait hstay
    · intro after a answer hclock hbefore hreply
      rw [reach_append] at hreply
      exact admission_denied hwait hclock hbefore hreply
  · intro now deadline lease hop hgrant between s' hgrant'
    have hlease := granted_lease hop hgrant
    rw [reach_append, reach_concat] at hgrant'
    obtain ⟨p, m, q, hsplit, hends⟩ := lease_ends hlease hgrant'
    refine ⟨p, m, q, hsplit, ?_⟩
    rwa [reach_append, reach_concat]

theorem cooldown_and_single_probe_opens :
    ∃ r u f l, (reach quickConfig [⟨quickConfig, .finish 5 none false true⟩]).state =
        .open r 5 u f l ∧ u.toNat = 6 := by
  obtain ⟨r, u, f, l, hstate, -, hcooldown, -⟩ :=
    (cooldown_and_single_probe quickConfig [] ⟨quickConfig, .finish 5 none false true⟩).1
      (by decide) (by decide)
  exact ⟨r, u, f, l, hstate, hcooldown.trans (by decide)⟩

/-- Every probe admitted at the end of a cooldown of one and failing at once. -/
def failingProbes : Nat → List CircuitStep
  | 0 => [⟨quickConfig, .finish 0 none false true⟩]
  | n + 1 => failingProbes n ++
      [⟨quickConfig, .admitAttempt (.ofNat (n + 1)) 99 "probe"⟩,
        ⟨quickConfig, .finish (.ofNat (n + 1)) (some "probe") false true⟩]

/-- The same policy with no cap on the cooldown. -/
def uncappedConfig : ValidConfig := ⟨⟨1, 1, 1, 1, UInt64.maxValue⟩, rfl⟩

/-- The doubling stops with the exponent at 63: the sixty-fourth re-opening waits half of
what the formula asks. -/
theorem cooldown_exponent_stops :
    ¬ ∀ (v : ValidConfig) (before : List CircuitStep) (s : CircuitStep),
      ClockOrdered (before ++ [s]) →
      ¬ (reach v before).state.IsOpen → (reach v (before ++ [s])).state.IsOpen →
      ∃ r u f l, (reach v (before ++ [s])).state = .open r s.op.nowMs u f l ∧
        u.toNat = min (s.op.nowMs.toNat +
          min ((openingWaitMs (reach v before) s).toNat * 2 ^ reopenings v (before ++ [s]))
            s.config.config.maxCooldownMs.toNat) (2 ^ 64 - 1) := by
  intro h
  obtain ⟨r, u, f, l, hstate, hcooldown⟩ := h quickConfig
    (failingProbes 63 ++ [⟨quickConfig, .admitAttempt 64 99 "probe"⟩])
    ⟨uncappedConfig, .finish 64 (some "probe") false true⟩
    (by decide +kernel) (by decide +kernel) (by decide +kernel)
  have hreached : (reach quickConfig ((failingProbes 63 ++
      [⟨quickConfig, .admitAttempt 64 99 "probe"⟩]) ++
        [⟨uncappedConfig, .finish 64 (some "probe") false true⟩])).state =
      .open 130 64 (64 + 2 ^ 63) 0 65 := by decide +kernel
  cases hstate.symm.trans hreached
  revert hcooldown
  decide +kernel

end RelayPool.Circuit
