import Mathlib.Tactic.Common

/-! Local clocks.

A zone says how far its clocks are from UTC at each instant, and finds the first instant
at which they show a given local time. A local time may be shown at no instant, when the
clocks are put forward over it, or at several, when they are put back. A zone whose
clocks change at finitely many instants is a `fixed` one with its changes added by
`switch`, oldest first. -/
namespace RelayPool.Monitoring

def dayMs : Int := 86400000

/-- The first day of the calendar, counted from the epoch. -/
def firstDay : Int := -96465292

/-- The last day of the calendar, counted from the epoch. -/
def lastDay : Int := 95026236

/-- The calendar has the instant. -/
def Representable (t : Int) : Prop := firstDay * dayMs ≤ t ∧ t < (lastDay + 1) * dayMs

instance (t : Int) : Decidable (Representable t) := inferInstanceAs (Decidable (_ ∧ _))

/-- At the instant `t` the clocks show the local time `l`. -/
def Reads (offset : Int → Int) (l t : Int) : Prop := Representable t ∧ t + offset t = l

structure Zone where
  offset : Int → Int
  earliest : Int → Option Int
  earliest_reads : ∀ {l t}, earliest l = some t → Reads offset l t
  earliest_le : ∀ {l t s}, earliest l = some t → Reads offset l s → t ≤ s
  earliest_isSome : ∀ {l t}, Reads offset l t → (earliest l).isSome

namespace Zone

/-! ### Zones by their changes -/

/-- The only instant at which clocks that never change show `l`. -/
def shown (a l : Int) : Option Int := if Representable (l - a) then some (l - a) else none

theorem shown_eq_some {a l t : Int} :
    shown a l = some t ↔ Representable t ∧ t + a = l := by
  unfold shown
  split
  · next possible =>
    rw [Option.some.injEq]
    constructor
    · rintro rfl
      exact ⟨possible, by omega⟩
    · rintro ⟨-, reads⟩
      omega
  · next impossible =>
    refine ⟨fun found => (Option.some_ne_none t found.symm).elim, fun ⟨possible, reads⟩ => ?_⟩
    exact (impossible (by rwa [← reads, Int.add_sub_cancel])).elim

theorem earliest_eq_of_reads (z : Zone) {l t : Int} (reads : Reads z.offset l t) :
    ∃ first, z.earliest l = some first ∧ first ≤ t := by
  obtain ⟨first, found⟩ := Option.isSome_iff_exists.mp (z.earliest_isSome reads)
  exact ⟨first, found, z.earliest_le found reads⟩

def fixed (a : Int) : Zone where
  offset _ := a
  earliest := shown a
  earliest_reads := shown_eq_some.mp
  earliest_le {l t s} found (reads : Representable s ∧ s + a = l) := by
    have := (shown_eq_some.mp found).2
    omega
  earliest_isSome reads := Option.isSome_iff_exists.mpr ⟨_, shown_eq_some.mpr reads⟩

section Switch
variable (z : Zone) (change b : Int)

def switchOffset (t : Int) : Int := if t < change then z.offset t else b

/-- The old clocks count up to the change, the new ones from there on. -/
def switchEarliest (l : Int) : Option Int :=
  ((z.earliest l).filter (· < change)).or ((shown b l).filter (change ≤ ·))

variable {z change b} {l t : Int}

theorem reads_switch :
    Reads (z.switchOffset change b) l t ↔
      t < change ∧ Reads z.offset l t ∨ change ≤ t ∧ shown b l = some t := by
  rw [Reads, switchOffset, Reads, shown_eq_some]
  by_cases early : t < change
  · rw [if_pos early]
    exact ⟨fun reads => .inl ⟨early, reads⟩, fun reads => reads.elim And.right (by omega)⟩
  · rw [if_neg early]
    exact ⟨fun reads => .inr ⟨by omega, reads⟩, fun reads => reads.elim (by omega) And.right⟩

theorem switchEarliest_eq_some :
    z.switchEarliest change b l = some t ↔
      t < change ∧ z.earliest l = some t ∨
        change ≤ t ∧ shown b l = some t ∧ ∀ s, z.earliest l = some s → change ≤ s := by
  simp only [switchEarliest, Option.or_eq_some_iff, Option.filter_eq_some_iff,
    Option.filter_eq_none_iff, decide_eq_true_eq, Int.not_lt]
  tauto

theorem switchEarliest_isSome (reads : Reads (z.switchOffset change b) l t) :
    (z.switchEarliest change b l).isSome := by
  rw [Option.isSome_iff_exists]
  by_cases early : ∃ s, z.earliest l = some s ∧ s < change
  · obtain ⟨s, found, lt⟩ := early
    exact ⟨s, switchEarliest_eq_some.mpr (.inl ⟨lt, found⟩)⟩
  · have late : ∀ s, z.earliest l = some s → change ≤ s := fun s found =>
      Int.not_lt.mp fun lt => early ⟨s, found, lt⟩
    rcases reads_switch.mp reads with ⟨lt, old⟩ | ⟨ge, new⟩
    · obtain ⟨first, found, le⟩ := z.earliest_eq_of_reads old
      exact (early ⟨first, found, by omega⟩).elim
    · exact ⟨t, switchEarliest_eq_some.mpr (.inr ⟨ge, new, late⟩)⟩

end Switch

/-- From the instant `change` on the clocks keep the distance `b`. -/
def switch (z : Zone) (change b : Int) : Zone where
  offset := z.switchOffset change b
  earliest := z.switchEarliest change b
  earliest_reads found := by
    rw [reads_switch]
    rcases switchEarliest_eq_some.mp found with ⟨lt, old⟩ | ⟨ge, new, -⟩
    · exact .inl ⟨lt, z.earliest_reads old⟩
    · exact .inr ⟨ge, new⟩
  earliest_le {l t s} found reads := by
    rcases switchEarliest_eq_some.mp found with ⟨lt, old⟩ | ⟨ge, new, late⟩ <;>
      rcases reads_switch.mp reads with ⟨early, before⟩ | ⟨after, again⟩
    · exact z.earliest_le old before
    · omega
    · obtain ⟨first, found, le⟩ := z.earliest_eq_of_reads before
      have := late first found
      omega
    · exact Int.le_of_eq (Option.some.inj (new.symm.trans again))
  earliest_isSome := switchEarliest_isSome

end Zone

end RelayPool.Monitoring
