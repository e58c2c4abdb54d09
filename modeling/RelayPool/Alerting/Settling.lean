import Mathlib
import RelayPool.Alerting.Agreement
import RelayPool.Alerting.Edits

/-! Whether repeated passes bring every incident up to date.

The loop never carries the cursor of a pass over, so every pass reads the incidents that
were updated longest ago. A write moves its incident to the time of the pass; an incident
that needs no write stays where it is. So a hundred incidents that stay ahead of another
one keep it from ever being read, and an incident that resolves to no stored policy ends
every pass that reads it. Where neither is the case each pass takes a stale incident away,
and the passes settle (`passes_settle_iff`). -/
namespace RelayPool.Alerting
open Runs Table
open AlertingReconciler
open IncidentStore (updatedBefore listActivePage listed afterCursor)

section Definitions
variable (e : Encodings) (policies : List AlertPolicy) (nowMs : Int)

/-- The incident has what its resolved policy says. -/
def UpToDate (i : Incident) : Prop :=
  i.policyId = some (resolved e policies i).policy.id ∧
    i.policyRevision = some (resolved e policies i).policy.revision ∧
    i.severity = (resolved e policies i).effectiveSeverity

instance {i : Incident} : Decidable (UpToDate e policies i) :=
  inferInstanceAs (Decidable (_ ∧ _ ∧ _))

def Settled (db : AlertingDb) : Prop :=
  ∀ i ∈ db.incidents, i.isActive → UpToDate e db.policies i

/-- When the incident was last updated once a pass has had its turn with it. -/
def placeAfter (i : Incident) : Int :=
  if shouldUpdate e policies i then max nowMs i.updatedAtMs else i.updatedAtMs

/-- The pages list `i` before `x`, also after a pass has had its turn with `i`. -/
def staysAhead (x i : Incident) : Bool :=
  i.isActive ∧ (placeAfter e policies nowMs i < x.updatedAtMs ∨
    (placeAfter e policies nowMs i = x.updatedAtMs ∧ i.id < x.id))

end Definitions

/-! ### Rewritten incidents -/

section Rewritten
variable {e : Encodings} {policies : List AlertPolicy} {nowMs : Int} {i : Incident}

theorem canonicalBaseSeverity_of_condition (condition : i.eventType ≠ .groupMissing) :
    canonicalBaseSeverity i.eventType i.baseSeverity = i.baseSeverity := if_neg condition

theorem resolved_rewritten :
    resolved e policies (rewritten e policies nowMs i) = resolved e policies i := by
  have frame := frame_rewritten e policies nowMs i
  have station : (rewritten e policies nowMs i).stationId = i.stationId :=
    Incident.field_of_frame frame (·.stationId) fun _ => rfl
  have stationKey : (rewritten e policies nowMs i).stationKeyId = i.stationKeyId :=
    Incident.field_of_frame frame (·.stationKeyId) fun _ => rfl
  have same : context (rewritten e policies nowMs i) = context i := by
    unfold context
    rw [station, stationKey]
    rfl
  rw [resolved, same, ← resolved]

theorem upToDate_rewritten : UpToDate e policies (rewritten e policies nowMs i) := by
  have frame := frame_rewritten e policies nowMs i
  unfold UpToDate
  rw [resolved_rewritten]
  exact ⟨Incident.field_of_frame frame (·.policyId) fun _ => rfl,
    Incident.field_of_frame frame (·.policyRevision) fun _ => rfl,
    Incident.field_of_frame frame (·.severity) fun _ => rfl⟩

theorem upToDate_of_fresh (fresh : ¬ shouldUpdate e policies i) : UpToDate e policies i := by
  unfold shouldUpdate at fresh
  simp only [Bool.decide_or, decide_not, Bool.or_eq_true, Bool.decide_eq_true, not_or,
    Bool.not_eq_true', decide_eq_false_iff_not, not_not] at fresh
  obtain ⟨-, policy, revision, -, severity⟩ := fresh
  exact ⟨policy.symm, revision.symm, severity.symm⟩

theorem fresh_rewritten (condition : i.eventType ≠ .groupMissing) :
    ¬ shouldUpdate e policies (rewritten e policies nowMs i) := by
  obtain ⟨policy, revision, severity⟩ := @upToDate_rewritten e policies nowMs i
  have fingerprint : (rewritten e policies nowMs i).lifecyclePolicyFingerprint =
      (resolved e policies (rewritten e policies nowMs i)).fingerprint := by
    rw [resolved_rewritten]
    exact Incident.field_of_frame (frame_rewritten ..) (·.lifecyclePolicyFingerprint) fun _ => rfl
  have base : canonicalBaseSeverity (rewritten e policies nowMs i).eventType
      (rewritten e policies nowMs i).baseSeverity = (rewritten e policies nowMs i).baseSeverity :=
    canonicalBaseSeverity_of_condition condition
  unfold shouldUpdate fingerprintChanged
  simp [policy, revision, severity, fingerprint, base]

theorem isActive_rewritten : (rewritten e policies nowMs i).isActive = i.isActive := by
  unfold Incident.isActive
  rw [lifecycleState_rewritten]

theorem updatedAtMs_rewritten :
    (rewritten e policies nowMs i).updatedAtMs = max nowMs i.updatedAtMs :=
  Incident.field_of_frame (frame_rewritten ..) (·.updatedAtMs) fun _ => rfl

theorem backed_rewritten {db : AlertingDb} :
    Backed e db policies (rewritten e policies nowMs i) ↔ Backed e db policies i := by
  unfold Backed
  rw [resolved_rewritten]

theorem le_placeAfter : i.updatedAtMs ≤ placeAfter e policies nowMs i := by
  unfold placeAfter
  split
  · exact le_max_right ..
  · exact le_rfl

theorem placeAfter_rewritten (condition : i.eventType ≠ .groupMissing)
    (stale : shouldUpdate e policies i) (later : Int) :
    placeAfter e policies later (rewritten e policies nowMs i) = placeAfter e policies nowMs i := by
  rw [placeAfter, if_neg (fresh_rewritten condition), updatedAtMs_rewritten, placeAfter,
    if_pos stale]

theorem placeAfter_mono {later : Int} (h : nowMs ≤ later) :
    placeAfter e policies nowMs i ≤ placeAfter e policies later i := by
  unfold placeAfter
  split
  · exact max_le_max_right _ h
  · exact le_rfl

end Rewritten

/-! ### The order of the pages -/

section Order

theorem updatedBefore_total (i j : Incident) : updatedBefore i j ∨ updatedBefore j i := by
  unfold updatedBefore
  rcases lt_trichotomy i.updatedAtMs j.updatedAtMs with h | h | h
  · exact .inl (.inl h)
  · exact (le_total i.id j.id).imp (fun le => .inr ⟨h, le⟩) fun le => .inr ⟨h.symm, le⟩
  · exact .inr (.inl h)

theorem updatedBefore_trans (i j k : Incident) (h : updatedBefore i j) (h' : updatedBefore j k) :
    updatedBefore i k := by
  unfold updatedBefore at *
  rcases h with h | ⟨h, le⟩ <;> rcases h' with h' | ⟨h', le'⟩
  · exact .inl (h.trans h')
  · exact .inl (h' ▸ h)
  · exact .inl (h ▸ h')
  · exact .inr ⟨h.trans h', le.trans le'⟩

theorem id_of_updatedBefore {i j : Incident} (h : updatedBefore i j) (h' : updatedBefore j i) :
    i.id = j.id := by
  unfold updatedBefore at h h'
  rcases h with h | ⟨h, le⟩ <;> rcases h' with h' | ⟨h', le'⟩
  · omega
  · omega
  · omega
  · exact le_antisymm le le'

/-- An incident comes before another one if it was updated earlier, or has the lesser id. -/
theorem not_updatedBefore_iff {i j : Incident} : ¬ updatedBefore i j ↔
    j.updatedAtMs < i.updatedAtMs ∨ (j.updatedAtMs = i.updatedAtMs ∧ j.id < i.id) := by
  unfold updatedBefore
  rw [not_or, not_lt, not_and, not_le]
  constructor
  · rintro ⟨le, ids⟩
    exact le.lt_or_eq.imp id fun same => ⟨same, ids same.symm⟩
  · rintro (lt | ⟨same, ids⟩)
    · exact ⟨lt.le, fun same => absurd same lt.ne'⟩
    · exact ⟨same.le, fun _ => ids⟩

variable {e : Encodings} {policies : List AlertPolicy} {nowMs : Int} {x i : Incident}

/-- What stays ahead is ahead. -/
theorem ahead_of_staysAhead (h : staysAhead e policies nowMs x i) : ¬ updatedBefore x i := by
  have place := @le_placeAfter e policies nowMs i
  obtain ⟨-, h⟩ := of_decide_eq_true h
  rw [not_updatedBefore_iff]
  rcases h with lt | ⟨same, ids⟩
  · exact .inl (place.trans_lt lt)
  · exact (place.trans_eq same).lt_or_eq.imp id fun same => ⟨same, ids⟩

/-- What needs no write stays ahead if it is ahead. -/
theorem staysAhead_of_fresh (active : i.isActive) (fresh : ¬ shouldUpdate e policies i)
    (h : ¬ updatedBefore x i) : staysAhead e policies nowMs x i := by
  refine decide_eq_true ⟨active, ?_⟩
  rw [placeAfter, if_neg fresh]
  exact not_updatedBefore_iff.mp h

theorem staysAhead_mono {later : Int} (le : nowMs ≤ later)
    (h : staysAhead e policies later x i) : staysAhead e policies nowMs x i := by
  obtain ⟨active, h⟩ := of_decide_eq_true h
  have place := @placeAfter_mono e policies _ i _ le
  refine decide_eq_true ⟨active, ?_⟩
  rcases h with lt | ⟨same, ids⟩
  · exact .inl (place.trans_lt lt)
  · exact (place.trans_eq same).lt_or_eq.imp id fun same => ⟨same, ids⟩

theorem staysAhead_rewritten (condition : i.eventType ≠ .groupMissing)
    (stale : shouldUpdate e policies i) (later : Int) :
    staysAhead e policies later x (rewritten e policies nowMs i) =
      staysAhead e policies nowMs x i := by
  unfold staysAhead
  rw [placeAfter_rewritten condition stale, isActive_rewritten]
  rfl

end Order

/-! ### Passes over the rows -/

section Passes
variable {e : Encodings} {db db' : AlertingDb} {nowMs : Int} {x : Incident}

/-- What a pass leaves of an incident, if it had its turn with `before`. -/
def turned (e : Encodings) (policies : List AlertPolicy) (nowMs : Int) (before : List Incident)
    (i : Incident) : Incident :=
  if i ∈ before ∧ shouldUpdate e policies i then rewritten e policies nowMs i else i

theorem turned_conditionKey {policies : List AlertPolicy} {before : List Incident} {i : Incident} :
    (turned e policies nowMs before i).conditionKey = i.conditionKey := by
  unfold turned
  split <;> rfl

theorem Passed.mem_iff {policies : List AlertPolicy} {before : List Incident}
    (passed : Passed e policies nowMs before db db') (wf : WellFormed db) {r : Incident} :
    r ∈ db'.incidents ↔ ∃ i ∈ db.incidents, turned e policies nowMs before i = r := by
  constructor
  · intro mem
    have found : Alerting.incident db' r.conditionKey = some r := passed.wf.keyed.lookup mem
    rw [passed.incident] at found
    obtain ⟨i, there, is⟩ := Option.map_eq_some_iff.mp found
    exact ⟨i, (lookup_some there).1, is⟩
  · rintro ⟨i, mem, rfl⟩
    have found : Alerting.incident db i.conditionKey = some i := wf.keyed.lookup mem
    have kept := passed.incident i.conditionKey
    rw [found] at kept
    exact (lookup_some kept).1

theorem Passed.perm {policies : List AlertPolicy} {before : List Incident}
    (passed : Passed e policies nowMs before db db') (wf : WellFormed db) :
    db'.incidents.Perm (db.incidents.map (turned e policies nowMs before)) := by
  have keys : (db.incidents.map (turned e policies nowMs before)).map (·.conditionKey) =
      db.incidents.map (·.conditionKey) := by
    rw [List.map_map]
    exact List.map_congr_left fun i _ => turned_conditionKey
  have distinct : (db.incidents.map (turned e policies nowMs before)).Nodup :=
    List.Nodup.of_map (·.conditionKey) (keys ▸ wf.keyed)
  refine (List.perm_ext_iff_of_nodup (List.Nodup.of_map _ passed.wf.keyed) distinct).mpr
    fun r => ?_
  rw [passed.mem_iff wf, List.mem_map]

theorem Passed.countP {policies : List AlertPolicy} {before : List Incident}
    (passed : Passed e policies nowMs before db db') (wf : WellFormed db) (p : Incident → Bool) :
    db'.incidents.countP p =
      db.incidents.countP fun i => p (turned e policies nowMs before i) := by
  rw [(passed.perm wf).countP_eq, List.countP_map]
  rfl

/-- An active incident is on the page unless a whole page comes before it. -/
theorem Kept.mem_page_iff (kept : Kept db) (mem : x ∈ db.incidents) (active : x.isActive) :
    x ∈ listActivePage db none pageSize ↔
      db.incidents.countP (fun i => ¬ updatedBefore x i ∧ i.isActive) < pageSize := by
  have isListed {i : Incident} (mem : i ∈ db.incidents) :
      (listed i ∧ afterCursor none i) ↔ i.isActive := by
    simp [listed, afterCursor, kept.condition i mem]
  refine (Table.mem_page_iff updatedBefore_total updatedBefore_trans
    (List.Nodup.of_map _ kept.wf.keyed)
    (fun a mema b memb h h' => kept.wf.ids.inj mema memb (id_of_updatedBefore h h')) mem
    (by simpa using (isListed mem).mpr active)).trans ?_
  rw [List.countP_congr fun i mem => ?_]
  · rfl
  · simp only [decide_eq_true_eq]
    exact and_congr_right fun _ => isListed mem

theorem Kept.not_mem_page (kept : Kept db) (mem : x ∈ db.incidents) (active : x.isActive)
    (behind : pageSize ≤ db.incidents.countP (staysAhead e db.policies nowMs x)) :
    x ∉ listActivePage db none pageSize := by
  rw [kept.mem_page_iff mem active, not_lt]
  refine behind.trans (List.countP_mono_left fun i _ ahead => ?_)
  have isActive : i.isActive := (of_decide_eq_true ahead).1
  simp [ahead_of_staysAhead ahead, isActive]

end Passes

/-! ### Incidents that are never reached -/

section Stuck
variable {e : Encodings} {policies : List AlertPolicy} {nowMs : Int} {x : Incident}
  {db : AlertingDb}

/-- An active incident that passes at `nowMs` leave as it is, though it is not up to date. -/
structure Stuck (e : Encodings) (policies : List AlertPolicy) (nowMs : Int) (x : Incident)
    (db : AlertingDb) : Prop where
  kept : Kept db
  same : db.policies = policies
  mem : x ∈ db.incidents
  active : x.isActive
  behind : ¬ Backed e db policies x ∨ (¬ UpToDate e policies x ∧
    pageSize ≤ db.incidents.countP (staysAhead e policies nowMs x))

theorem Stuck.not_settled (stuck : Stuck e policies nowMs x db) : ¬ Settled e db := by
  intro settled
  obtain ⟨policy, revision, severity⟩ := settled x stuck.mem stuck.active
  rcases stuck.behind with unbacked | ⟨behind, -⟩
  · have refers := stuck.kept.wf.references x stuck.mem
    unfold AlertingDb.references at refers
    rw [policy] at refers
    refine unbacked ?_
    rw [stuck.same] at refers
    unfold Backed
    rw [stuck.same]
    simpa using (of_decide_eq_true refers).2.2
  · rw [stuck.same] at policy revision severity
    exact behind ⟨policy, revision, severity⟩

theorem Stuck.passStep (stuck : Stuck e policies nowMs x db) :
    Stuck e policies nowMs x (passStep e db nowMs) := by
  obtain ⟨kept, rfl, mem, active, behind⟩ := stuck
  obtain ⟨before, passed, ⟨after, page⟩, isBacked, -⟩ := passStep_cases e kept.wf nowMs
  have policies : (Alerting.passStep e db nowMs).policies = db.policies := passed.same_policies
  have backed : Backed e (Alerting.passStep e db nowMs) db.policies x ↔
      Backed e db db.policies x := by
    unfold Backed
    rw [policies]
  -- the pass does not have its turn with `x`
  have stays : turned e db.policies nowMs before x = x := by
    refine if_neg fun ⟨turn, stale⟩ => ?_
    rcases behind with unbacked | ⟨-, behind⟩
    · exact unbacked (isBacked x turn stale)
    · refine kept.not_mem_page mem active behind ?_
      rw [page]
      exact List.mem_append_left after turn
  refine ⟨kept.passStep e nowMs, policies, (passed.mem_iff kept.wf).mpr ⟨x, mem, stays⟩, active, ?_⟩
  rw [backed]
  refine behind.imp id fun ⟨outdated, behind⟩ => ⟨outdated, behind.trans ?_⟩
  rw [passed.countP kept.wf]
  refine List.countP_mono_left fun i mem ahead => ?_
  unfold turned
  split
  · rename_i turn
    rwa [staysAhead_rewritten (kept.condition i mem) turn.2]
  · exact ahead

end Stuck

/-! ### Passes that settle -/

section Settling
variable {e : Encodings} {nowMs later : Int} {db : AlertingDb}

/-- Nothing keeps the passes from an incident that is not up to date. -/
def Unobstructed (e : Encodings) (nowMs : Int) (db : AlertingDb) : Prop :=
  ∀ i ∈ db.incidents, i.isActive → Backed e db db.policies i ∧
    (UpToDate e db.policies i ∨
      db.incidents.countP (staysAhead e db.policies nowMs i) < pageSize)

def staleCount (e : Encodings) (db : AlertingDb) : Nat :=
  db.incidents.countP fun i => i.isActive ∧ shouldUpdate e db.policies i

/-- A pass over an unobstructed table has its turn with its whole page. -/
theorem Unobstructed.pass (kept : Kept db) (h : Unobstructed e nowMs db) (time : 0 ≤ nowMs) :
    Passed e db.policies nowMs (listActivePage db none pageSize) db (passStep e db nowMs) ∧
      ∃ page, (reconcilePage e db.policies db.settings nowMs none db).2 = .ok page := by
  obtain ⟨before, passed, -, -, all⟩ := passStep_cases e kept.wf nowMs
  obtain ⟨current, -⟩ := listActivePage_current kept.wf none pageSize
  obtain ⟨rfl, done⟩ := all time fun i mem => (h i (current i mem).1 (current i mem).2).1
  exact ⟨passed, done⟩

theorem Unobstructed.passStep (kept : Kept db) (h : Unobstructed e nowMs db) (time : 0 ≤ nowMs)
    (le : nowMs ≤ later) : Unobstructed e later (passStep e db nowMs) := by
  obtain ⟨passed, -⟩ := h.pass kept time
  have policies : (Alerting.passStep e db nowMs).policies = db.policies := passed.same_policies
  intro i mem active
  obtain ⟨j, memj, is⟩ := (passed.mem_iff kept.wf).mp mem
  have backed {r : Incident} : Backed e (Alerting.passStep e db nowMs) db.policies r ↔
      Backed e db db.policies r := by
    unfold Backed
    rw [policies]
  rw [policies, backed]
  unfold turned at is
  split at is
  · rename_i turn
    subst is
    rw [isActive_rewritten] at active
    exact ⟨backed_rewritten.mpr (h j memj active).1, .inl upToDate_rewritten⟩
  · subst is
    refine ⟨(h j memj active).1, (h j memj active).2.imp id fun few => lt_of_le_of_lt ?_ few⟩
    rw [passed.countP kept.wf]
    refine List.countP_mono_left fun r mem ahead => ?_
    unfold turned at ahead
    split at ahead
    · rename_i turn
      rwa [staysAhead_rewritten (kept.condition r mem) turn.2] at ahead
    · exact staysAhead_mono le ahead

/-- While an incident is not up to date, there is a stale one on the page. -/
theorem Unobstructed.stale_on_page (kept : Kept db) (h : Unobstructed e nowMs db)
    (unsettled : ¬ Settled e db) :
    ∃ i ∈ listActivePage db none pageSize, i.isActive ∧ shouldUpdate e db.policies i := by
  unfold Settled at unsettled
  push Not at unsettled
  obtain ⟨x, mem, active, outdated⟩ := unsettled
  have stale : shouldUpdate e db.policies x := by
    by_contra fresh
    exact outdated (upToDate_of_fresh fresh)
  by_cases onPage : x ∈ listActivePage db none pageSize
  · exact ⟨x, onPage, active, stale⟩
  · by_contra none_stale
    push Not at none_stale
    obtain ⟨current, distinct⟩ := listActivePage_current kept.wf none pageSize
    -- then the whole page stays ahead of `x`
    have full : pageSize ≤ (listActivePage db none pageSize).length := by
      have before := mt (kept.mem_page_iff mem active).mpr onPage
      rw [not_lt] at before
      rw [listActivePage, length_page]
      refine le_min le_rfl (before.trans (List.countP_mono_left fun i mem h => ?_))
      simp only [decide_eq_true_eq] at h
      simp [listed, afterCursor, h.2, kept.condition i mem]
    have ahead : ∀ i ∈ listActivePage db none pageSize,
        staysAhead e db.policies nowMs x i := fun i on =>
      staysAhead_of_fresh (current i on).2 (none_stale i on (current i on).2)
        (page_first updatedBefore_total updatedBefore_trans
          (List.Nodup.of_map _ kept.wf.keyed)
          (fun a mema b memb h h' => kept.wf.ids.inj mema memb (id_of_updatedBefore h h')) mem
          (by simp [listed, afterCursor, active, kept.condition x mem]) onPage on)
    have few := (h x mem active).2.resolve_left outdated
    have within : (listActivePage db none pageSize).Subperm
        (db.incidents.filter (staysAhead e db.policies nowMs x)) :=
      List.subperm_of_subset distinct fun i on =>
        List.mem_filter.mpr ⟨(current i on).1, ahead i on⟩
    rw [List.countP_eq_length_filter] at few
    exact absurd (full.trans within.length_le) (not_le.mpr few)

theorem Unobstructed.staleCount_lt (kept : Kept db) (h : Unobstructed e nowMs db)
    (time : 0 ≤ nowMs) (unsettled : ¬ Settled e db) :
    staleCount e (Alerting.passStep e db nowMs) < staleCount e db := by
  obtain ⟨passed, -⟩ := h.pass kept time
  obtain ⟨i, onPage, active, stale⟩ := h.stale_on_page kept unsettled
  have mem := ((listActivePage_current kept.wf none pageSize).1 i onPage).1
  unfold staleCount
  rw [passed.same_policies, passed.countP kept.wf]
  refine countP_lt_countP (fun r mem h => ?_) mem ?_ (by simp [active, stale])
  · unfold turned at h
    split at h
    · rename_i turn
      simp [fresh_rewritten (kept.condition r mem)] at h
    · exact h
  · rw [turned, if_pos ⟨onPage, stale⟩]
    simp [fresh_rewritten (kept.condition i mem)]

/-- Passes at times that never go back settle an unobstructed table. -/
theorem Unobstructed.settles (kept : Kept db) {clock : Nat → Int} (forward : Monotone clock)
    (time : 0 ≤ clock 0) (h : Unobstructed e (clock 0) db) :
    ∃ n, Settled e (run (Alerting.passStep e) db ((List.range n).map clock)) := by
  induction count : staleCount e db using Nat.strong_induction_on generalizing db clock with
  | _ count ih =>
    subst count
    by_cases settled : Settled e db
    · exact ⟨0, settled⟩
    · have le : clock 0 ≤ clock 1 := forward (Nat.zero_le 1)
      obtain ⟨n, settled⟩ := ih _ (h.staleCount_lt kept time settled) (kept.passStep e (clock 0))
        (fun _ _ le => forward (Nat.succ_le_succ le) : Monotone fun n => clock (n + 1))
        (time.trans le) (h.passStep kept time le) rfl
      refine ⟨n + 1, ?_⟩
      rw [List.range_succ_eq_map, List.map_cons, run_cons, List.map_map]
      exact settled

end Settling

/-- From any tables that observations, edits and passes lead to: a pass succeeds and passes
that follow settle every incident, however the clock goes on, if and only if each active
incident resolves to a stored policy, and is up to date or has less than a page of incidents
that stay ahead of it. -/
theorem passes_settle_iff (env : AlertingEnv) (settings : AlertingSettings)
    (stations stationKeys : List String) (steps : List AlertingStep) (nowMs : Int) :
    let e := env.toEncodings
    let db := run (alertingStep env) (.start [] settings stations stationKeys) steps
    ((∃ page, (reconcilePage e db.policies db.settings nowMs none db).2 = .ok page) ∧
        ∀ clock : Nat → Int, Monotone clock → clock 0 = nowMs →
          ∃ n, Settled e (run (passStep e) db ((List.range n).map clock))) ↔
      0 ≤ nowMs ∧ ∀ i ∈ db.incidents, i.isActive → Backed e db db.policies i ∧
        (UpToDate e db.policies i ∨
          db.incidents.countP (staysAhead e db.policies nowMs i) < pageSize) := by
  intro e db
  have kept : Kept db := (Kept.start [] settings stations stationKeys).run steps
  constructor
  · rintro ⟨⟨page, done⟩, settles⟩
    have time : 0 ≤ nowMs := by
      by_contra early
      rw [reconcilePage_of_neg (not_le.mp early)] at done
      exact (nomatch done)
    refine ⟨time, ?_⟩
    by_contra obstructed
    push Not at obstructed
    obtain ⟨x, mem, active, obstructed⟩ := obstructed
    have stuck : Stuck e db.policies nowMs x db :=
      ⟨kept, rfl, mem, active, not_or_of_imp obstructed⟩
    obtain ⟨n, settled⟩ := settles (fun _ => nowMs) monotone_const rfl
    have preserved : ∀ (db' : AlertingDb) (time : Int), time = nowMs →
        Stuck e db.policies nowMs x db' → Stuck e db.policies nowMs x (passStep e db' time) := by
      rintro db' time rfl stuck
      exact stuck.passStep
    have same : ∀ time ∈ (List.range n).map fun _ => nowMs, time = nowMs := by
      intro time mem
      obtain ⟨-, -, rfl⟩ := List.mem_map.mp mem
      rfl
    exact (run_invariant_of preserved stuck same).not_settled settled
  · rintro ⟨time, h⟩
    have unobstructed : Unobstructed e nowMs db := h
    refine ⟨(unobstructed.pass kept time).2, fun clock forward first => ?_⟩
    exact Unobstructed.settles kept forward (first ▸ time) (first ▸ unobstructed)

/-- With no policy stored, the pass after a first observation fails on its reference. -/
theorem pass_fails_without_policies :
    let db := run (alertingStep sampleEnv) (.start [] .default [] [])
      [.record (sampleObservation "observation-1" .abnormal 1000)]
    (reconcilePage sampleEnv.toEncodings db.policies db.settings 1060 none db).2 =
      .error .constraintViolation := by
  decide +kernel

end RelayPool.Alerting
