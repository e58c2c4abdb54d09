import RelayPool.Monitoring.Buckets

/-! When the local days are buckets.

The days that the code returns are as many as were asked for and tile the period exactly
when the clocks of the zone treat its midnights alike (`localDays_buckets_iff`). Clocks
put forward over midnight lose two days at once, the one that should have begun there
and the one that should have ended there, and the days around them no longer meet
(`localDays_midnight_skipped`). Clocks put back over midnight leave the present outside
every day as long as they show the evening again. -/
namespace RelayPool.Monitoring
open Windows (between between_tiles_iff)

/-- The date the clocks of the zone show. -/
def localDay (zone : Zone) (t : Int) : Int := (t + zone.offset t) / dayMs

/-- The clocks show the midnights of the days from `first` to `today`, and the one that
ends today, one after the other, and the present is between the last two. -/
structure Regular (zone : Zone) (first today nowMs : Int) : Prop where
  inCalendar : firstDay ≤ first ∧ today < lastDay
  shown : ∀ day, first ≤ day → day ≤ today + 1 → ∃ t, Reads zone.offset (midnight day) t
  ordered : ∀ day, first ≤ day → day < today → ∀ t, Reads zone.offset (midnight (day + 1)) t →
    ∃ s, Reads zone.offset (midnight day) s ∧ s < t
  begun : ∃ t, Reads zone.offset (midnight today) t ∧ t ≤ nowMs
  unfinished : ∀ t, Reads zone.offset (midnight (today + 1)) t → nowMs < t

/-! ### First instants -/

section First
variable {zone : Zone} {l t a : Int} (found : zone.earliest l = some a)
include found

theorem exists_reads_lt_iff : (∃ s, Reads zone.offset l s ∧ s < t) ↔ a < t :=
  ⟨fun ⟨_, reads, lt⟩ => (zone.earliest_le found reads).trans_lt lt,
    fun lt => ⟨a, zone.earliest_reads found, lt⟩⟩

theorem exists_reads_le_iff : (∃ s, Reads zone.offset l s ∧ s ≤ t) ↔ a ≤ t :=
  ⟨fun ⟨_, reads, le⟩ => (zone.earliest_le found reads).trans le,
    fun le => ⟨a, zone.earliest_reads found, le⟩⟩

theorem forall_reads_lt_iff : (∀ s, Reads zone.offset l s → t < s) ↔ t < a :=
  ⟨fun all => all a (zone.earliest_reads found),
    fun lt _ reads => lt.trans_le (zone.earliest_le found reads)⟩

end First

/-! ### The marks of a regular period -/

variable {zone : Zone} {first nowMs : Int} {k : Nat} {m : Nat → Int}

/-- Where every midnight is first shown at `m`, the order of the clocks is that of `m`. -/
theorem regular_iff_marks (found : ∀ i ≤ k + 1, dayMark zone first i = some (m i)) :
    Regular zone first (first + k) nowMs ↔
      (firstDay ≤ first ∧ first + k < lastDay) ∧
        (∀ i < k, m i < m (i + 1)) ∧ m k ≤ nowMs ∧ nowMs < m (k + 1) := by
  have mark (i : Nat) (le : i ≤ k + 1) : zone.earliest (midnight (first + i)) = some (m i) :=
    found i le
  have next (i : Nat) : first + i + 1 = first + (i + 1 : Nat) := by omega
  constructor
  · intro regular
    refine ⟨regular.inCalendar, fun i lt => ?_, ?_, ?_⟩
    · have after := mark (i + 1) (by omega)
      rw [← exists_reads_lt_iff (mark i (by omega))]
      refine regular.ordered (first + i) (by omega) (by omega) _ ?_
      rw [next]
      exact zone.earliest_reads after
    · exact (exists_reads_le_iff (mark k (by omega))).mp regular.begun
    · have ends := regular.unfinished
      rw [next] at ends
      exact (forall_reads_lt_iff (mark (k + 1) le_rfl)).mp ends
  · rintro ⟨inside, ascends, begun, unfinished⟩
    refine ⟨inside, fun day low high => ?_, fun day low lt t reads => ?_, ?_, ?_⟩
    · obtain ⟨i, rfl⟩ := Int.le.dest low
      exact ⟨m i, zone.earliest_reads (mark i (by omega))⟩
    · obtain ⟨i, rfl⟩ := Int.le.dest low
      rw [next] at reads
      refine (exists_reads_lt_iff (mark i (by omega))).mpr ?_
      exact (ascends i (by omega)).trans_le (zone.earliest_le (mark (i + 1) (by omega)) reads)
    · exact (exists_reads_le_iff (mark k (by omega))).mpr begun
    · rw [next]
      exact (forall_reads_lt_iff (mark (k + 1) le_rfl)).mpr unfinished

theorem regular_iff :
    Regular zone first (first + k) nowMs ↔
      (firstDay ≤ first ∧ first + k < lastDay) ∧
        ∃ m : Nat → Int, (∀ i ≤ k + 1, dayMark zone first i = some (m i)) ∧
          (∀ i < k, m i < m (i + 1)) ∧ m k ≤ nowMs ∧ nowMs < m (k + 1) := by
  constructor
  · intro regular
    have found (i : Nat) (le : i ≤ k + 1) :
        dayMark zone first i = some ((dayMark zone first i).getD nowMs) := by
      obtain ⟨t, reads⟩ := regular.shown (first + i) (by omega) (by omega)
      obtain ⟨a, eq⟩ := Option.isSome_iff_exists.mp (zone.earliest_isSome reads)
      rw [dayMark, eq, Option.getD_some]
    have marks := (regular_iff_marks found).mp regular
    exact ⟨marks.1, _, found, marks.2⟩
  · rintro ⟨inside, m, found, marks⟩
    exact (regular_iff_marks found).mpr ⟨inside, marks⟩

/-! ### The days the code returns -/

variable {dates : Dates} {days : Nat} {requested : Option String} {set : BucketWindowSet}

/-- The days with two edges, as windows between marks. -/
theorem reduceOption_days :
    ((List.range (k + 1)).map fun (i : Nat) =>
        dayWindow dates zone (first + i) (first + i + 1)).reduceOption =
      between (dayWindowOf dates first) (dayMark zone first) (k + 1) := by
  rw [List.reduceOption, List.filterMap_map, between]
  exact List.filterMap_congr fun i _ => dayWindow_eq dates zone first i

theorem localDays_eq_some (bounded : clamp 1 366 days = k + 1)
    (today : first + k = localDay (chosenZone dates requested).1 (nowUtc dates nowMs)) :
    localDayBucketWindows dates nowMs days requested = some set ↔
      (firstDay ≤ first ∧ first + k < lastDay) ∧
        { timezoneId := (chosenZone dates requested).2.1
          timezoneSource := (chosenZone dates requested).2.2
          windows := between (dayWindowOf dates first)
            (dayMark (chosenZone dates requested).1 first) (k + 1) } = set := by
  rw [localDayBucketWindows]
  generalize chosenZone dates requested = chosen at *
  obtain ⟨timezone, timezoneId, timezoneSource⟩ := chosen
  have start : first + k - (((k + 1 : Nat) : Int) - 1) = first := by omega
  simp only [localDay] at today
  simp only [bounded, ← today, Option.bind_eq_bind, Option.bind_eq_some_iff, date_eq_some,
    Option.some.injEq]
  constructor
  · rintro ⟨_, ⟨-, rfl⟩, _, ⟨-, rfl⟩, windows, mapped, rfl⟩
    rw [start] at mapped
    obtain ⟨inside, rfl⟩ := mapM_days.mp mapped
    rw [reduceOption_days]
    exact ⟨inside, rfl⟩
  · rintro ⟨inside, rfl⟩
    refine ⟨_, ⟨⟨by omega, by omega⟩, rfl⟩, first, ⟨⟨by omega, by omega⟩, start⟩, _,
      mapM_days.mpr ⟨inside, rfl⟩, ?_⟩
    rw [reduceOption_days]

/-- The days are buckets when the clocks treat their midnights alike, and only then. -/
theorem localDays_buckets_iff (dates : Dates) (nowMs : Int) (days : Nat)
    (requested : Option String) :
    (∃ set, localDayBucketWindows dates nowMs days requested = some set ∧
        Buckets set.windows (clamp 1 366 days) nowMs) ↔
      Regular (chosenZone dates requested).1
        (localDay (chosenZone dates requested).1 (nowUtc dates nowMs) - (clamp 1 366 days - 1))
        (localDay (chosenZone dates requested).1 (nowUtc dates nowMs)) nowMs := by
  obtain ⟨k, bounded⟩ : ∃ k, clamp 1 366 days = k + 1 :=
    Nat.exists_eq_add_one.mpr (clamp_pos (by omega))
  rw [bounded]
  generalize start : localDay (chosenZone dates requested).1 (nowUtc dates nowMs) -
    ((k + 1 : Nat) - 1) = first
  have today : first + k = localDay (chosenZone dates requested).1 (nowUtc dates nowMs) := by omega
  rw [← today, regular_iff, ← @between_tiles_iff _ _ _ BucketWindow.startMs BucketWindow.endMs _
    (dayWindowOf dates first) _ (fun _ _ _ => rfl) (fun _ _ _ => rfl), ← buckets_iff]
  constructor
  · rintro ⟨set, returned, buckets⟩
    obtain ⟨inside, rfl⟩ := (localDays_eq_some bounded today).mp returned
    exact ⟨inside, buckets⟩
  · rintro ⟨inside, buckets⟩
    exact ⟨_, (localDays_eq_some bounded today).mpr ⟨inside, rfl⟩, buckets⟩

/-! ### Clocks put over midnight -/

/-- The clocks of São Paulo around the start of its last summer time, when the first hour
of the fourth of November 2018 was left out. -/
def saoPaulo : Dates where
  monthDay day := (11, (day - 17835).toNat)
  parse id := if id = "America/Sao_Paulo" then
    some ((Zone.fixed (-10800000)).switch 1541300400000 (-7200000)) else none
  now := 1541419200000

/-- On the noon of the fifth only that day is left of the last three. -/
theorem localDays_midnight_skipped :
    ¬ ∃ set, localDayBucketWindows saoPaulo 1541419200000 3 (some "America/Sao_Paulo") = some set ∧
      Buckets set.windows (clamp 1 366 3) 1541419200000 := by
  rintro ⟨set, returned, buckets⟩
  have one : (localDayBucketWindows saoPaulo 1541419200000 3 (some "America/Sao_Paulo")).map
      (·.windows.length) = some 1 := by
    decide +kernel
  rw [returned, Option.map_some, buckets.exact] at one
  exact absurd one (by decide)

/-- The clocks of St. John's, put back from the first minute of the 29th of October 2006. -/
def stJohns : Dates where
  monthDay day := (10, (day - 13421).toNat)
  parse id := if id = "America/St_Johns" then
    some ((Zone.fixed (-9000000)).switch 1162089060000 (-12600000)) else none
  now := 1162089660000

-- Ten minutes later it is the evening of the 28th again, and no day holds the present.
example : (localDayBucketWindows stJohns 1162089660000 2 (some "America/St_Johns")).map
    (·.windows.map fun w => (w.label, decide (w.Holds 1162089660000))) =
      some [("10-27", false), ("10-28", false)] := by
  decide +kernel

end RelayPool.Monitoring
