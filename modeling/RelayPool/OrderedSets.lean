import Mathlib.Order.Lattice
import Mathlib.Data.List.Basic

/-! Sets in order.

A set of a linear order is the list of its elements in that order. An element is added where
it belongs and removed wherever it is; the least element is the first one (`head_le`), and
the elements that lie below a bound are a prefix (`takeWhile_eq_filter`). -/
namespace RelayPool.OrderedSets

variable {α : Type*} [LinearOrder α]

def add (a : α) : List α → List α
  | [] => [a]
  | b :: rest => if a < b then a :: b :: rest else if a = b then b :: rest else b :: add a rest

def remove (a : α) (s : List α) : List α := s.filter (· ≠ a)

variable {a b : α} {s : List α}

theorem mem_add : b ∈ add a s ↔ b = a ∨ b ∈ s := by
  induction s with
  | nil => simp [add]
  | cons c rest ih =>
    unfold add
    split
    · exact List.mem_cons
    split
    · rename_i same
      rw [same, or_iff_right_of_imp fun is => is ▸ List.mem_cons_self ..]
    · rw [List.mem_cons, ih, List.mem_cons, or_left_comm]

theorem mem_remove : b ∈ remove a s ↔ b ∈ s ∧ b ≠ a := by simp [remove]

theorem sorted_add (sorted : s.Pairwise (· < ·)) : (add a s).Pairwise (· < ·) := by
  induction s with
  | nil => exact List.pairwise_singleton ..
  | cons c rest ih =>
    obtain ⟨first, tail⟩ := List.pairwise_cons.mp sorted
    unfold add
    split
    · rename_i below
      refine List.pairwise_cons.mpr ⟨fun b mem => ?_, sorted⟩
      rcases List.mem_cons.mp mem with rfl | later
      · exact below
      · exact below.trans (first b later)
    split
    · exact sorted
    · rename_i notBelow other
      refine List.pairwise_cons.mpr ⟨fun b mem => ?_, ih tail⟩
      rcases mem_add.mp mem with rfl | later
      · exact lt_of_le_of_ne (not_lt.mp notBelow) (Ne.symm other)
      · exact first b later

theorem sorted_remove (sorted : s.Pairwise (· < ·)) : (remove a s).Pairwise (· < ·) :=
  sorted.filter _

theorem remove_remove : remove a (remove a s) = remove a s := by simp [remove]

theorem head_le (sorted : s.Pairwise (· < ·)) (first : s.head? = some a) (mem : b ∈ s) : a ≤ b := by
  cases s with
  | nil => cases mem
  | cons c rest =>
    obtain rfl := Option.some.inj first
    rcases List.mem_cons.mp mem with rfl | later
    · exact le_rfl
    · exact ((List.pairwise_cons.mp sorted).1 b later).le

theorem takeWhile_eq_filter (sorted : s.Pairwise (· < ·)) {p : α → Bool}
    (below : ∀ a b, a < b → p b → p a) : s.takeWhile p = s.filter p := by
  induction s with
  | nil => rfl
  | cons c rest ih =>
    obtain ⟨first, tail⟩ := List.pairwise_cons.mp sorted
    by_cases here : p c
    · rw [List.takeWhile_cons_of_pos here, List.filter_cons_of_pos here, ih tail]
    · have none : rest.filter p = [] := List.filter_eq_nil_iff.mpr fun b mem holds =>
        here (below c b (first b mem) holds)
      rw [List.takeWhile_cons_of_neg here, List.filter_cons_of_neg here, none]

end RelayPool.OrderedSets
