import Mathlib.Data.List.Chain
import Mathlib.Data.List.Range
import Mathlib.Data.Nat.Basic
import Mathlib.Order.Defs.LinearOrder
import Mathlib.Order.Lattice
import Mathlib.Tactic.Common

/-! Half-open windows between marks.

Windows that tile a period stand in order, each begins where the one before it ends, and
the last one holds the present: every point of the period is then in one of them
(`Tiles.exactly_one`). Windows taken between marks that may be missing tile it when no
mark is missing and the marks ascend up to the present, and in no other case
(`between_tiles_iff`). -/
namespace RelayPool.Windows

variable {α ω : Type} [LinearOrder α] (start stop : ω → α)

def Holds (w : ω) (t : α) : Prop := start w ≤ t ∧ t < stop w

instance (w : ω) (t : α) : Decidable (Holds start stop w t) := inferInstanceAs (Decidable (_ ∧ _))

structure Tiles (windows : List ω) (now : α) : Prop where
  ascending : windows.Pairwise (start · < start ·)
  joined : windows.IsChain (stop · = start ·)
  current : ∃ w ∈ windows.getLast?, Holds start stop w now

variable {start stop} {windows rest : List ω} {w next : ω} {now t : α}

/-! ### Every point is in one window -/

theorem Tiles.tail (tiles : Tiles start stop (w :: next :: rest) now) :
    Tiles start stop (next :: rest) now :=
  ⟨tiles.ascending.tail, tiles.joined.tail, by simpa using tiles.current⟩

/-- Before the first window no window holds anything. -/
theorem countP_eq_zero (ascending : (w :: rest).Pairwise (start · < start ·)) (before : t < start w) :
    (w :: rest).countP (Holds start stop · t) = 0 := by
  rw [List.countP_eq_zero]
  intro v member
  have later : start w ≤ start v := by
    rcases List.mem_cons.mp member with rfl | member
    · exact le_rfl
    · exact ((List.pairwise_cons.mp ascending).1 v member).le
  intro holds
  exact (before.trans_le later).not_ge (of_decide_eq_true holds).1

theorem Tiles.exactly_one (tiles : Tiles start stop windows now) {first last : ω}
    (head : first ∈ windows.head?) (tail : last ∈ windows.getLast?) (begun : start first ≤ t)
    (unfinished : t < stop last) : windows.countP (Holds start stop · t) = 1 := by
  induction windows generalizing first with
  | nil => cases head
  | cons w rest ih =>
    obtain rfl : w = first := by simpa using head
    cases rest with
    | nil =>
      obtain rfl : w = last := by simpa using tail
      simp [Holds, begun, unfinished]
    | cons next rest =>
      have joined : stop w = start next := (List.isChain_cons_cons.mp tiles.joined).1
      -- A point before the join is in the first window alone, any other in one of the rest.
      by_cases inside : t < stop w
      · have held : decide (Holds start stop w t) = true := decide_eq_true ⟨begun, inside⟩
        rw [List.countP_cons, if_pos held, countP_eq_zero tiles.tail.ascending (joined ▸ inside)]
      · have passed : ¬decide (Holds start stop w t) = true := fun holds =>
          inside (of_decide_eq_true holds).2
        rw [List.countP_cons, if_neg passed]
        exact ih tiles.tail rfl (by simpa using tail) (joined ▸ not_lt.mp inside)

/-! ### Windows between marks -/

variable (window : ℕ → α → α → ω) (mark : ℕ → Option α) (n : ℕ)

/-- The windows whose two marks are there. -/
def between : List ω := (List.range n).filterMap fun i => do
  let a ← mark i
  let b ← mark (i + 1)
  some (window i a b)

variable {window mark n}

omit [LinearOrder α] in
theorem between_length_iff :
    (between window mark n).length = n ↔
      ∀ i < n, (mark i).isSome ∧ (mark (i + 1)).isSome := by
  conv_lhs => rhs; rw [← List.length_range (n := n)]
  rw [between, List.filterMap_length_eq_length]
  simp only [List.mem_range]
  refine forall₂_congr fun i _ => ?_
  cases mark i <;> cases mark (i + 1) <;> simp

omit [LinearOrder α] in
theorem between_eq_map {m : ℕ → α} (found : ∀ i ≤ n, mark i = some (m i)) :
    between window mark n = (List.range n).map fun i => window i (m i) (m (i + 1)) := by
  rw [between, ← List.filterMap_eq_map]
  refine List.filterMap_congr fun i member => ?_
  have below := List.mem_range.mp member
  rw [found i below.le, found (i + 1) below]
  rfl

theorem strictly_ascends {m : ℕ → α} {k : ℕ} (step : ∀ i < k, m i < m (i + 1)) {i j : ℕ}
    (lt : i < j) (le : j ≤ k) : m i < m j := by
  induction j with
  | zero => omega
  | succ j ih =>
    have last := step j (by omega)
    rcases Nat.lt_succ_iff_lt_or_eq.mp lt with earlier | rfl
    · exact (ih earlier (by omega)).trans last
    · exact last

variable (starts : ∀ i a b, start (window i a b) = a) (stops : ∀ i a b, stop (window i a b) = b)
include starts stops

theorem map_tiles_iff {m : ℕ → α} {k : ℕ} :
    Tiles start stop ((List.range (k + 1)).map fun i => window i (m i) (m (i + 1))) now ↔
      (∀ i < k, m i < m (i + 1)) ∧ m k ≤ now ∧ now < m (k + 1) := by
  have last : ((List.range (k + 1)).map fun i => window i (m i) (m (i + 1))).getLast? =
      some (window k (m k) (m (k + 1))) := by
    simp [List.getLast?_range]
  constructor
  · intro tiles
    refine ⟨fun i lt => ?_, ?_⟩
    · have sorted := List.isChain_map _ |>.mp tiles.ascending.isChain
      simpa only [starts] using (List.isChain_range_succ _ _).mp sorted i lt
    · obtain ⟨w, member, holds⟩ := tiles.current
      rw [last] at member
      cases member
      simpa only [Holds, starts, stops] using holds
  · rintro ⟨step, begun, unfinished⟩
    refine ⟨?_, ?_, _, last, ?_⟩
    · refine List.pairwise_map.mpr (List.pairwise_lt_range.imp_of_mem fun {i j} _ member lt => ?_)
      rw [starts, starts]
      exact strictly_ascends step lt (Nat.lt_succ_iff.mp (List.mem_range.mp member))
    · refine (List.isChain_map _).mpr ((List.isChain_range_succ _ _).mpr fun i _ => ?_)
      rw [starts, stops]
    · simpa only [Holds, starts, stops] using ⟨begun, unfinished⟩

/-- As many windows as were asked for, tiling the period up to the present. -/
theorem between_tiles_iff {k : ℕ} :
    (between window mark (k + 1)).length = k + 1 ∧
        Tiles start stop (between window mark (k + 1)) now ↔
      ∃ m : ℕ → α, (∀ i ≤ k + 1, mark i = some (m i)) ∧ (∀ i < k, m i < m (i + 1)) ∧
        m k ≤ now ∧ now < m (k + 1) := by
  constructor
  · rintro ⟨exact, tiles⟩
    have all := between_length_iff.mp exact
    have found : ∀ i ≤ k + 1, mark i = some ((mark i).getD now) := by
      intro i le
      have some_i : (mark i).isSome := by
        rcases Nat.lt_or_eq_of_le le with lt | rfl
        · exact (all i lt).1
        · exact (all k (Nat.lt_succ_self k)).2
      obtain ⟨a, eq⟩ := Option.isSome_iff_exists.mp some_i
      rw [eq, Option.getD_some]
    rw [between_eq_map found] at tiles
    exact ⟨_, found, (map_tiles_iff starts stops).mp tiles⟩
  · rintro ⟨m, found, ascends⟩
    rw [between_eq_map found]
    exact ⟨by simp, (map_tiles_iff starts stops).mpr ascends⟩

end RelayPool.Windows
