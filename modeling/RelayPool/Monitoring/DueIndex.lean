import Mathlib
import RelayPool.Monitoring.Scheduler

/-! The due index is exact (`scheduler_exact`).

Every operation leaves the index with one entry for each monitor, at its due time (`Exact`):
an upsert moves the entry of the monitor, and what a tick does to a monitor that is due is an
upsert, since its entry has been taken out already (`handleDue_dueKey`). A whole tick is then
known from the monitors that are due, in the order of their entries (`Ticked`). -/
namespace RelayPool.Monitoring
open OrderedSets Runs Table

variable {s : MonitoringScheduler} {entry m : ScheduledMonitor}

/-! ### One entry for each monitor -/

structure MonitoringScheduler.Exact (s : MonitoringScheduler) : Prop where
  keyed : Keyed (·.monitorId) s.monitors
  sorted : s.dueIndex.Pairwise (· < ·)
  indexed : ∀ due, due ∈ s.dueIndex ↔ ∃ m ∈ s.monitors, m.dueKey = due
  bounded : s.queue.length ≤ s.maxQueueDepth
  counted : s.queueFullCount ≤ wordMax

theorem ScheduledMonitor.dueKey_eq : m.dueKey = entry.dueKey ↔
    m.nextDueAtMs = entry.nextDueAtMs ∧ m.monitorId = entry.monitorId := by
  rw [dueKey, dueKey, toLex_inj, Prod.mk.injEq]

namespace MonitoringScheduler

theorem Exact.new (maxQueueDepth : Nat) : Exact (new maxQueueDepth) where
  keyed := List.nodup_nil
  sorted := List.Pairwise.nil
  indexed _ := by simp [MonitoringScheduler.new]
  bounded := Nat.zero_le _
  counted := Nat.zero_le _

theorem Exact.get_iff (exact : s.Exact) {monitorId : String} :
    s.get monitorId = some m ↔ m ∈ s.monitors ∧ m.monitorId = monitorId :=
  exact.keyed.lookup_iff

theorem Exact.dueKey_mem (exact : s.Exact) (mem : m ∈ s.monitors) : m.dueKey ∈ s.dueIndex :=
  (exact.indexed _).mpr ⟨m, mem, rfl⟩

theorem removeFromDueIndex_monitors (s : MonitoringScheduler) (monitorId : String) :
    (s.removeFromDueIndex monitorId).monitors = s.monitors ∧
      (s.removeFromDueIndex monitorId).queue = s.queue ∧
      (s.removeFromDueIndex monitorId).maxQueueDepth = s.maxQueueDepth ∧
      (s.removeFromDueIndex monitorId).queueFullCount = s.queueFullCount := by
  unfold removeFromDueIndex
  split <;> exact ⟨rfl, rfl, rfl, rfl⟩

theorem upsertMonitor_monitors (s : MonitoringScheduler) (entry : ScheduledMonitor) :
    (s.upsertMonitor entry).monitors = upsert (·.monitorId) entry s.monitors :=
  congrArg (upsert _ _) (s.removeFromDueIndex_monitors entry.monitorId).1

/-- The other monitors keep their entries. -/
theorem Exact.mem_removeFromDueIndex (exact : s.Exact) {monitorId : String} {due : Int ×ₗ String} :
    due ∈ (s.removeFromDueIndex monitorId).dueIndex ↔
      ∃ m ∈ s.monitors, m.monitorId ≠ monitorId ∧ m.dueKey = due := by
  unfold removeFromDueIndex
  split
  · rename_i existing found
    obtain ⟨mem, is⟩ := exact.get_iff.mp found
    show due ∈ remove existing.dueKey s.dueIndex ↔ _
    rw [mem_remove, exact.indexed]
    constructor
    · rintro ⟨⟨m, mem', rfl⟩, other⟩
      refine ⟨m, mem', fun same => other ?_, rfl⟩
      rw [exact.keyed.inj mem' mem (same.trans is.symm)]
    · rintro ⟨m, mem', other, rfl⟩
      exact ⟨⟨m, mem', rfl⟩, fun same =>
        other ((ScheduledMonitor.dueKey_eq.mp same).2.trans is)⟩
  · rename_i absent
    rw [exact.indexed]
    constructor
    · rintro ⟨m, mem, is⟩
      exact ⟨m, mem, lookup_none.mp absent m mem, is⟩
    · rintro ⟨m, mem, -, is⟩
      exact ⟨m, mem, is⟩

theorem Exact.upsertMonitor (exact : s.Exact) (entry : ScheduledMonitor) :
    (s.upsertMonitor entry).Exact := by
  obtain ⟨-, queue, depth, count⟩ := s.removeFromDueIndex_monitors entry.monitorId
  have removed : (s.removeFromDueIndex entry.monitorId).dueIndex.Pairwise (· < ·) := by
    unfold removeFromDueIndex
    split
    · exact sorted_remove exact.sorted
    · exact exact.sorted
  refine ⟨?_, sorted_add removed, fun due => ?_, ?_, ?_⟩
  · rw [upsertMonitor_monitors]
    exact exact.keyed.upsert
  · rw [upsertMonitor_monitors]
    show due ∈ add entry.dueKey _ ↔ _
    rw [mem_add, exact.mem_removeFromDueIndex]
    constructor
    · rintro (rfl | ⟨m, mem, other, is⟩)
      · exact ⟨entry, List.mem_append_right _ (List.mem_singleton_self _), rfl⟩
      · exact ⟨m, List.mem_append_left _ (List.mem_filter.mpr ⟨mem, decide_eq_true other⟩), is⟩
    · rintro ⟨m, mem, rfl⟩
      rcases List.mem_append.mp mem with kept | last
      · obtain ⟨mem, other⟩ := List.mem_filter.mp kept
        exact .inr ⟨m, mem, of_decide_eq_true other, rfl⟩
      · exact .inl (congrArg _ (List.mem_singleton.mp last))
  · show (s.removeFromDueIndex entry.monitorId).queue.length ≤ _
    rw [queue]
    exact exact.bounded.trans_eq depth.symm
  · show (s.removeFromDueIndex entry.monitorId).queueFullCount ≤ _
    rw [count]
    exact exact.counted

theorem get_upsertMonitor (s : MonitoringScheduler) (entry : ScheduledMonitor)
    (monitorId : String) : (s.upsertMonitor entry).get monitorId =
      if entry.monitorId = monitorId then some entry else s.get monitorId := by
  rw [get, upsertMonitor_monitors, lookup_upsert]
  rfl

end MonitoringScheduler

/-! ### One monitor that is due -/

/-- The lag of a monitor that is due. -/
def ScheduledMonitor.lagAt (m : ScheduledMonitor) (nowMs : Int) : Int :=
  clampI64 (nowMs - m.nextDueAtMs)

/-- The monitor after it has been due. -/
def ScheduledMonitor.movedAt (m : ScheduledMonitor) (nowMs : Int) : ScheduledMonitor :=
  { m with nextDueAtMs := nextDueAfterTick m nowMs }

def ScheduledMonitor.commandAt (m : ScheduledMonitor) (nowMs : Int) : SchedulerCommand :=
  m.scheduled m.nextDueAtMs (m.lagAt nowMs)

namespace MonitoringScheduler

/-- The scheduler with a command queued, or refused when the queue is full. -/
def offered (s : MonitoringScheduler) (m : ScheduledMonitor) (nowMs : Int) : MonitoringScheduler :=
  if s.maxQueueDepth ≤ s.queue.length then
    { s with
      lastLagMs := some (m.lagAt nowMs), queueFullCount := min (s.queueFullCount + 1) wordMax }
  else { s with lastLagMs := some (m.lagAt nowMs), queue := s.queue ++ [m.commandAt nowMs] }

theorem offered_monitors (s : MonitoringScheduler) (m : ScheduledMonitor) (nowMs : Int) :
    (s.offered m nowMs).monitors = s.monitors ∧ (s.offered m nowMs).dueIndex = s.dueIndex ∧
      (s.offered m nowMs).maxQueueDepth = s.maxQueueDepth := by
  unfold offered
  split <;> exact ⟨rfl, rfl, rfl⟩

theorem Exact.offered (exact : s.Exact) (m : ScheduledMonitor) (nowMs : Int) :
    (s.offered m nowMs).Exact := by
  unfold MonitoringScheduler.offered
  split
  · exact { exact with counted := Nat.min_le_right .. }
  · rename_i room
    refine { exact with bounded := ?_ }
    rw [List.length_append]
    exact Nat.not_le.mp room

/-- The entry that is handled has been taken out before its monitor is moved. -/
theorem upsertMonitor_removed (found : s.get entry.monitorId = some m) :
    upsertMonitor { s with dueIndex := remove m.dueKey s.dueIndex } entry =
      s.upsertMonitor entry := by
  unfold upsertMonitor removeFromDueIndex
  have found' : get { s with dueIndex := remove m.dueKey s.dueIndex } entry.monitorId = some m :=
    found
  simp only [found, found', remove_remove]

theorem handleDue_dueKey (nowMs : Int) (t : Ticking) (exact : t.scheduler.Exact)
    (mem : m ∈ t.scheduler.monitors) : handleDue nowMs t m.dueKey =
      { scheduler := (t.scheduler.offered m nowMs).upsertMonitor (m.movedAt nowMs)
        admittedCount := t.admittedCount +
          if t.scheduler.maxQueueDepth ≤ t.scheduler.queue.length then 0 else 1
        queueFullCount := t.queueFullCount +
          if t.scheduler.maxQueueDepth ≤ t.scheduler.queue.length then 1 else 0
        maxLagMs := max t.maxLagMs (m.lagAt nowMs) } := by
  have found : t.scheduler.get m.monitorId = some m := exact.get_iff.mpr ⟨mem, rfl⟩
  have found' : get { t.scheduler with dueIndex := remove m.dueKey t.scheduler.dueIndex }
      m.monitorId = some m := found
  unfold handleDue offered
  simp only [ScheduledMonitor.dueKey, ofLex_toLex] at found' ⊢
  rw [found']
  dsimp only
  split
  · exact congrArg (Ticking.mk · _ _ _) (upsertMonitor_removed
      (s := { t.scheduler with
        lastLagMs := some (m.lagAt nowMs)
        queueFullCount := min (t.scheduler.queueFullCount + 1) wordMax }) found)
  · exact congrArg (Ticking.mk · _ _ _) (upsertMonitor_removed
      (s := { t.scheduler with
        lastLagMs := some (m.lagAt nowMs)
        queue := t.scheduler.queue ++ [m.commandAt nowMs] }) found)

/-! ### The monitors that are due -/

/-- What has been made of the monitors that were due, in their order: as many as there was room
for are queued, the others are refused, and all of them have moved. -/
structure Ticked (nowMs : Int) (handled : List ScheduledMonitor) (t t' : Ticking) : Prop where
  exact : t'.scheduler.Exact
  depth : t'.scheduler.maxQueueDepth = t.scheduler.maxQueueDepth
  queue : t'.scheduler.queue = t.scheduler.queue ++
    (handled.take (t.scheduler.maxQueueDepth - t.scheduler.queue.length)).map (·.commandAt nowMs)
  admitted : t'.admittedCount = t.admittedCount +
    (handled.take (t.scheduler.maxQueueDepth - t.scheduler.queue.length)).length
  refused : t'.queueFullCount = t.queueFullCount +
    (handled.drop (t.scheduler.maxQueueDepth - t.scheduler.queue.length)).length
  counted : t'.scheduler.queueFullCount = min (t.scheduler.queueFullCount +
    (handled.drop (t.scheduler.maxQueueDepth - t.scheduler.queue.length)).length) wordMax
  lags : t'.maxLagMs = handled.foldl (fun lag m => max lag (m.lagAt nowMs)) t.maxLagMs
  moved : ∀ monitorId, t'.scheduler.get monitorId =
    (t.scheduler.get monitorId).map fun m => if m ∈ handled then m.movedAt nowMs else m

theorem ticked_nil (nowMs : Int) (t : Ticking) (exact : t.scheduler.Exact) :
    Ticked nowMs [] t t where
  exact := exact
  depth := rfl
  queue := by simp
  admitted := by simp
  refused := by simp
  counted := by simp [exact.counted]
  lags := rfl
  moved _ := by simp

/-- Moving one monitor leaves the others as they were. -/
theorem mem_moved {other : ScheduledMonitor} (mem : other ∈ s.monitors)
    (different : other.monitorId ≠ m.monitorId) (nowMs : Int) :
    other ∈ ((s.offered m nowMs).upsertMonitor (m.movedAt nowMs)).monitors := by
  rw [upsertMonitor_monitors, (s.offered_monitors m nowMs).1]
  exact List.mem_append_left _ (List.mem_filter.mpr ⟨mem, decide_eq_true different⟩)

theorem moved_queue (s : MonitoringScheduler) (m : ScheduledMonitor) (nowMs : Int) :
    ((s.offered m nowMs).upsertMonitor (m.movedAt nowMs)).queue = (s.offered m nowMs).queue ∧
      ((s.offered m nowMs).upsertMonitor (m.movedAt nowMs)).maxQueueDepth = s.maxQueueDepth ∧
      ((s.offered m nowMs).upsertMonitor (m.movedAt nowMs)).queueFullCount =
        (s.offered m nowMs).queueFullCount := by
  obtain ⟨-, queue, depth, count⟩ := (s.offered m nowMs).removeFromDueIndex_monitors m.monitorId
  exact ⟨queue, depth.trans (s.offered_monitors m nowMs).2.2, count⟩

/-- The room in the queue decides what becomes of the first monitor and of the others. -/
theorem take_room (depth length : Nat) (m : ScheduledMonitor) (rest : List ScheduledMonitor) :
    if depth ≤ length then (m :: rest).take (depth - length) = [] ∧
      (m :: rest).drop (depth - length) = m :: rest.drop (depth - length) ∧
      rest.take (depth - length) = []
    else (m :: rest).take (depth - length) = m :: rest.take (depth - (length + 1)) ∧
      (m :: rest).drop (depth - length) = rest.drop (depth - (length + 1)) := by
  split
  · rename_i full
    rw [Nat.sub_eq_zero_of_le full]
    exact ⟨rfl, rfl, rfl⟩
  · rename_i room
    obtain ⟨more, is⟩ := Nat.exists_eq_succ_of_ne_zero (Nat.sub_ne_zero_of_lt (Nat.not_le.mp room))
    rw [← Nat.sub_sub, is]
    exact ⟨rfl, rfl⟩

/-- The first monitor has moved, and the others are found where they were. -/
theorem Exact.get_moved (exact : s.Exact) (nowMs : Int) (mem : m ∈ s.monitors)
    {rest : List ScheduledMonitor} (unique : ((m :: rest).map (·.monitorId)).Nodup)
    (monitorId : String) :
    (((s.offered m nowMs).upsertMonitor (m.movedAt nowMs)).get monitorId).map
        (fun m => if m ∈ rest then m.movedAt nowMs else m) =
      (s.get monitorId).map fun other => if other ∈ m :: rest then other.movedAt nowMs else other := by
  have fresh := (List.nodup_cons.mp unique).1
  rw [get_upsertMonitor]
  split
  · rename_i is
    have found : s.get monitorId = some m := exact.get_iff.mpr ⟨mem, is⟩
    have once : m.movedAt nowMs ∉ rest := fun again =>
      fresh (List.mem_map_of_mem (f := (·.monitorId)) again)
    rw [found, Option.map_some, Option.map_some, if_neg once, if_pos (List.mem_cons_self ..)]
  · rename_i different
    have same : (s.offered m nowMs).get monitorId = s.get monitorId :=
      congrArg (lookup _ · _) (s.offered_monitors m nowMs).1
    rw [same]
    cases found : s.get monitorId with
    | none => rfl
    | some other =>
      have apart : other ≠ m := fun is => different (is ▸ (exact.get_iff.mp found).2)
      simp only [Option.map_some, List.mem_cons, apart, false_or]

theorem min_min_succ (count more most : Nat) :
    min (min (count + 1) most + more) most = min (count + (more + 1)) most := by
  omega

theorem Ticked.cons {nowMs : Int} {rest : List ScheduledMonitor} {t t' : Ticking}
    (exact : t.scheduler.Exact) (mem : m ∈ t.scheduler.monitors)
    (unique : ((m :: rest).map (·.monitorId)).Nodup)
    (later : Ticked nowMs rest (handleDue nowMs t m.dueKey) t') :
    Ticked nowMs (m :: rest) t t' := by
  rw [handleDue_dueKey nowMs t exact mem] at later
  obtain ⟨queued, depth, count⟩ := t.scheduler.moved_queue m nowMs
  obtain ⟨exact', depth', queue', admitted', refused', counted', lags', moved'⟩ := later
  simp only [queued, depth, count] at depth' queue' admitted' refused' counted'
  have moved (monitorId : String) := (moved' monitorId).trans
    (exact.get_moved nowMs mem unique monitorId)
  have left := take_room t.scheduler.maxQueueDepth t.scheduler.queue.length m rest
  rcases Nat.lt_or_ge t.scheduler.queue.length t.scheduler.maxQueueDepth with room | full
  · rw [if_neg (Nat.not_le.mpr room)] at admitted' refused' left
    rw [offered, if_neg (Nat.not_le.mpr room)] at queue' admitted' refused' counted'
    simp only [List.length_append, List.length_singleton] at queue' admitted' refused' counted'
    obtain ⟨taken, dropped⟩ := left
    refine ⟨exact', depth', ?_, ?_, ?_, ?_, lags', moved⟩
    · rw [queue', taken, List.append_assoc]
      rfl
    · rw [admitted', taken, List.length_cons, Nat.add_assoc, Nat.add_comm 1]
    · rw [refused', dropped, Nat.add_zero]
    · rw [counted', dropped]
  · rw [if_pos full] at admitted' refused' left
    rw [offered, if_pos full] at queue' admitted' refused' counted'
    obtain ⟨taken, dropped, unqueued⟩ := left
    rw [unqueued] at queue' admitted'
    refine ⟨exact', depth', ?_, ?_, ?_, ?_, lags', moved⟩
    · rw [queue', taken]
    · rw [admitted', taken, Nat.add_zero]
    · rw [refused', dropped, List.length_cons, Nat.add_assoc, Nat.add_comm 1]
    · rw [counted', dropped, List.length_cons]
      exact min_min_succ ..

/-- The monitors that are due are handled one after the other. -/
theorem ticked (nowMs : Int) (handled : List ScheduledMonitor) (t : Ticking)
    (exact : t.scheduler.Exact) (known : ∀ m ∈ handled, m ∈ t.scheduler.monitors)
    (unique : (handled.map (·.monitorId)).Nodup) :
    Ticked nowMs handled t ((handled.map (·.dueKey)).foldl (handleDue nowMs) t) := by
  induction handled generalizing t with
  | nil => exact ticked_nil nowMs t exact
  | cons m rest ih =>
    have mem := known m (List.mem_cons_self ..)
    obtain ⟨fresh, others⟩ := List.nodup_cons.mp unique
    refine Ticked.cons exact mem unique (ih _ ?_ (fun other mem' => ?_) others)
    · rw [handleDue_dueKey nowMs t exact mem]
      exact (exact.offered m nowMs).upsertMonitor _
    · rw [handleDue_dueKey nowMs t exact mem]
      exact mem_moved (known other (List.mem_cons_of_mem _ mem'))
        (fun same => fresh (List.mem_map.mpr ⟨other, mem', same⟩)) nowMs

theorem nextDueAfterTick_after (entry : ScheduledMonitor) (nowMs : Int) :
    nowMs < nextDueAfterTick entry nowMs ∨ i64Max ≤ nowMs := by
  have later : 0 ≤ deterministicForwardJitterMs entry.monitorId entry.scheduleRevision nowMs
      (max entry.jitterMs 0) := by
    unfold deterministicForwardJitterMs
    split
    · exact le_rfl
    · exact Int.natCast_nonneg _
  have interval : 1 ≤ max entry.intervalMs 1 := le_max_right ..
  unfold nextDueAfterTick clampI64 i64Max
  dsimp only
  omega

theorem lagAt_eq {nowMs : Int} (due : m.nextDueAtMs ≤ nowMs) :
    m.lagAt nowMs = min (nowMs - m.nextDueAtMs) i64Max := by
  unfold ScheduledMonitor.lagAt clampI64 i64Max
  omega

/-- The monitors that are due, in the order of their entries. -/
structure DueAt (s : MonitoringScheduler) (nowMs : Int) (handled : List ScheduledMonitor) :
    Prop where
  ordered : handled.Pairwise fun a b => a.dueKey < b.dueKey
  due : ∀ m, m ∈ handled ↔ m ∈ s.monitors ∧ m.nextDueAtMs ≤ nowMs

theorem exists_map_eq {α β : Type*} {f : α → β} {p : α → Prop} {l : List β}
    (all : ∀ b ∈ l, ∃ a, p a ∧ f a = b) : ∃ l' : List α, (∀ a ∈ l', p a) ∧ l'.map f = l := by
  induction l with
  | nil => exact ⟨[], fun _ mem => (nomatch mem), rfl⟩
  | cons b rest ih =>
    obtain ⟨a, holds, is⟩ := all b (List.mem_cons_self ..)
    obtain ⟨l', holds', is'⟩ := ih fun b mem => all b (List.mem_cons_of_mem _ mem)
    exact ⟨a :: l', List.forall_mem_cons.mpr ⟨holds, holds'⟩, by rw [List.map_cons, is, is']⟩

theorem Exact.dueAt (exact : s.Exact) (nowMs : Int) : ∃ handled, s.DueAt nowMs handled ∧
    handled.map (·.dueKey) = s.dueIndex.takeWhile fun due => (ofLex due).1 ≤ nowMs := by
  have prefixed : (s.dueIndex.takeWhile fun due => (ofLex due).1 ≤ nowMs) =
      s.dueIndex.filter fun due => (ofLex due).1 ≤ nowMs := by
    refine takeWhile_eq_filter exact.sorted fun a b below due => ?_
    exact decide_eq_true ((Prod.Lex.monotone_fst_ofLex below.le).trans (of_decide_eq_true due))
  obtain ⟨handled, known, is⟩ : ∃ handled : List ScheduledMonitor,
      (∀ m ∈ handled, m ∈ s.monitors) ∧
        handled.map (·.dueKey) = s.dueIndex.filter fun due => (ofLex due).1 ≤ nowMs :=
    exists_map_eq fun due mem => (exact.indexed due).mp (List.mem_filter.mp mem).1
  refine ⟨handled, ⟨List.pairwise_map.mp (is ▸ exact.sorted.filter _), fun m => ⟨fun mem => ?_,
    fun ⟨mem, due⟩ => ?_⟩⟩, is.trans prefixed.symm⟩
  · have indexed : m.dueKey ∈ handled.map (·.dueKey) := List.mem_map_of_mem mem
    rw [is] at indexed
    exact ⟨known m mem, of_decide_eq_true (List.mem_filter.mp indexed).2⟩
  · have indexed : m.dueKey ∈ s.dueIndex.filter fun due => (ofLex due).1 ≤ nowMs :=
      List.mem_filter.mpr ⟨exact.dueKey_mem mem, decide_eq_true due⟩
    rw [← is] at indexed
    obtain ⟨other, mem', same⟩ := List.mem_map.mp indexed
    rwa [← exact.keyed.inj (known other mem') mem (ScheduledMonitor.dueKey_eq.mp same).2]

/-- The scheduler wakes up for the monitor that is due first. -/
theorem Exact.nextWakeupAtMs (exact : s.Exact) :
    s.nextWakeupAtMs = (s.monitors.map (·.nextDueAtMs)).min? := by
  unfold MonitoringScheduler.nextWakeupAtMs
  cases first : s.dueIndex.head? with
  | none =>
    have empty : s.monitors = [] := List.eq_nil_iff_forall_not_mem.mpr fun m mem => by
      have indexed := exact.dueKey_mem mem
      rw [List.head?_eq_none_iff.mp first] at indexed
      cases indexed
    rw [empty]
    rfl
  | some due =>
    obtain ⟨m, mem, rfl⟩ := (exact.indexed due).mp (List.mem_of_mem_head? first)
    refine Eq.symm (List.min?_eq_some_iff.mpr ⟨List.mem_map_of_mem mem, fun due mem' => ?_⟩)
    obtain ⟨other, known, rfl⟩ := List.mem_map.mp mem'
    exact Prod.Lex.monotone_fst_ofLex (head_le exact.sorted first (exact.dueKey_mem known))

theorem Exact.perm (exact : s.Exact) : s.dueIndex.Perm (s.monitors.map (·.dueKey)) := by
  refine (List.perm_ext_iff_of_nodup (exact.sorted.imp ne_of_lt) ?_).mpr fun due => ?_
  · refine List.Nodup.map_on (fun a mem b mem' same => ?_) (List.Nodup.of_map _ exact.keyed)
    exact exact.keyed.inj mem mem' (ScheduledMonitor.dueKey_eq.mp same).2
  · rw [exact.indexed, List.mem_map]

theorem Exact.ticked (exact : s.Exact) (nowMs : Int) : ∃ handled, s.DueAt nowMs handled ∧
    ∃ t, s.tick nowMs = (⟨t.admittedCount, t.queueFullCount, t.maxLagMs,
      t.scheduler.nextWakeupAtMs⟩, t.scheduler) ∧ Ticked nowMs handled ⟨s, 0, 0, 0⟩ t := by
  obtain ⟨handled, due, is⟩ := exact.dueAt nowMs
  refine ⟨handled, due, _, rfl, ?_⟩
  rw [← is]
  refine MonitoringScheduler.ticked nowMs handled _ exact (fun m mem => ((due.due m).mp mem).1) ?_
  refine List.Nodup.map_on (fun a mem b mem' same => ?_)
    (due.ordered.imp fun below is => (ne_of_lt below) (congrArg _ is))
  exact exact.keyed.inj ((due.due a).mp mem).1 ((due.due b).mp mem').1 same

theorem popReady_exact (exact : s.Exact) : s.popReady.2.Exact := by
  refine { exact with bounded := ?_ }
  show s.queue.tail.length ≤ _
  rw [List.length_tail]
  exact (Nat.sub_le _ _).trans exact.bounded

theorem Exact.step (exact : s.Exact) (operation : SchedulerOperation) :
    (s.step operation).Exact ∧ (s.step operation).maxQueueDepth = s.maxQueueDepth := by
  cases operation with
  | upsertMonitor entry =>
    exact ⟨exact.upsertMonitor entry, (s.removeFromDueIndex_monitors _).2.2.1⟩
  | notifyDefinitionEdit entry nowMs =>
    exact ⟨exact.upsertMonitor _, (s.removeFromDueIndex_monitors _).2.2.1⟩
  | tick nowMs =>
    obtain ⟨handled, -, t, is, ticked⟩ := exact.ticked nowMs
    rw [MonitoringScheduler.step, is]
    exact ⟨ticked.exact, ticked.depth⟩
  | popReady => exact ⟨popReady_exact exact, rfl⟩

theorem run_exact (maxQueueDepth : Nat) (operations : List SchedulerOperation) :
    let s := run MonitoringScheduler.step (MonitoringScheduler.new maxQueueDepth) operations
    s.Exact ∧ s.maxQueueDepth = max maxQueueDepth 1 := by
  have preserved (s : MonitoringScheduler) (operation : SchedulerOperation)
      (inv : s.Exact ∧ s.maxQueueDepth = max maxQueueDepth 1) :
      (s.step operation).Exact ∧ (s.step operation).maxQueueDepth = max maxQueueDepth 1 :=
    ⟨(inv.1.step operation).1, (inv.1.step operation).2.trans inv.2⟩
  exact run_invariant preserved ⟨Exact.new maxQueueDepth, rfl⟩ operations

end MonitoringScheduler

/-! ### Every run of the scheduler -/

section
open MonitoringScheduler

/-- The index has one entry for each monitor at its due time, and a tick handles the monitors
that are due, each of them once and in order: it queues as many as there is room for, refuses
the others, and none of them is due afterwards. -/
theorem scheduler_exact (maxQueueDepth : Nat) (operations : List SchedulerOperation) :
    let s := run MonitoringScheduler.step (MonitoringScheduler.new maxQueueDepth) operations
    Keyed (·.monitorId) s.monitors ∧ s.dueIndex.Perm (s.monitors.map (·.dueKey)) ∧
      s.dueIndex.Pairwise (· < ·) ∧ s.queue.length ≤ max maxQueueDepth 1 ∧
      s.nextWakeupAtMs = (s.monitors.map (·.nextDueAtMs)).min? ∧
      ∀ nowMs, ∃ handled, s.DueAt nowMs handled ∧
        let room := max maxQueueDepth 1 - s.queue.length
        (s.tick nowMs).2.queue =
          s.queue ++ (handled.take room).map (fun m => m.scheduled m.nextDueAtMs
            (min (nowMs - m.nextDueAtMs) i64Max)) ∧
        (s.tick nowMs).1.admittedCount = (handled.take room).length ∧
        (s.tick nowMs).1.queueFullCount = (handled.drop room).length ∧
        (s.tick nowMs).2.queueFullCount =
          min (s.queueFullCount + (handled.drop room).length) wordMax ∧
        (∀ monitorId, (s.tick nowMs).2.get monitorId = (s.get monitorId).map fun m =>
          if m.nextDueAtMs ≤ nowMs then m.movedAt nowMs else m) ∧
        (∀ m ∈ (s.tick nowMs).2.monitors, nowMs < m.nextDueAtMs ∨ i64Max ≤ nowMs) ∧
        (s.tick nowMs).1.nextWakeupAtMs =
          ((s.tick nowMs).2.monitors.map (·.nextDueAtMs)).min? := by
  intro s
  obtain ⟨exact, depth⟩ := run_exact maxQueueDepth operations
  refine ⟨exact.keyed, exact.perm, exact.sorted, depth ▸ exact.bounded, exact.nextWakeupAtMs,
    fun nowMs => ?_⟩
  obtain ⟨handled, due, t, is, ticked⟩ := exact.ticked nowMs
  have moved (monitorId : String) : t.scheduler.get monitorId = (s.get monitorId).map fun m =>
      if m.nextDueAtMs ≤ nowMs then m.movedAt nowMs else m := by
    rw [ticked.moved]
    cases found : s.get monitorId with
    | none => rfl
    | some m =>
      have mem := (exact.get_iff.mp found).1
      have same : m ∈ handled ↔ m.nextDueAtMs ≤ nowMs :=
        (due.due m).trans (and_iff_right mem)
      simp only [Option.map_some, same]
  rw [is, ← depth]
  refine ⟨handled, due, ticked.queue.trans (congrArg _ (List.map_congr_left fun m mem => ?_)),
    ticked.admitted.trans (Nat.zero_add _), ticked.refused.trans (Nat.zero_add _), ticked.counted,
    moved, fun m mem => ?_, ticked.exact.nextWakeupAtMs⟩
  · have lag := lagAt_eq ((due.due m).mp (List.mem_of_mem_take mem)).2
    rw [ScheduledMonitor.commandAt, lag]
  · have found := ticked.exact.get_iff.mpr ⟨mem, rfl⟩
    rw [moved] at found
    obtain ⟨before, -, rfl⟩ := Option.map_eq_some_iff.mp found
    split
    · exact nextDueAfterTick_after before nowMs
    · rename_i notDue
      exact .inl (not_le.mp notDue)

/-- A monitor that has never been due since the first instant has a lag that has no number. -/
theorem lag_saturates :
    let monitor : ScheduledMonitor := ⟨"m", "station", [], -2 ^ 63, 60000, 0, 1⟩
    let s := run MonitoringScheduler.step (MonitoringScheduler.new 1)
      [.upsertMonitor monitor, .tick 0]
    s.queue = [monitor.scheduled (-2 ^ 63) (2 ^ 63 - 1)] ∧
      (2 ^ 63 - 1 : Int) ≠ 0 - monitor.nextDueAtMs := by
  decide_cbv

end

end RelayPool.Monitoring
