import RelayPool.Table
import Mathlib.Data.List.MinMax

/-! Evicting down to a bound.

While a keyed table has more rows than a bound allows, the row that is least in
some order goes. What is left is decided row by row: a row stays if and only if
fewer rows than the bound are above it (`mem_evict`). -/
namespace RelayPool.Eviction
open Table

variable {ρ κ β : Type*} [DecidableEq κ] [LinearOrder β]

def without (key : ρ → κ) (r : ρ) (rows : List ρ) : List ρ := rows.filter (key · ≠ key r)

theorem length_without_lt {key : ρ → κ} {rows : List ρ} {r : ρ} (mem : r ∈ rows) :
    (without key r rows).length < rows.length := by
  refine List.length_filter_lt_length_iff_exists.mpr ⟨r, mem, ?_⟩
  simp

def evict (key : ρ → κ) (order : ρ → β) (bound : Nat) (rows : List ρ) : List ρ :=
  if bound < rows.length then
    match _least : rows.argmin order with
    | some oldest => evict key order bound (without key oldest rows)
    | none => rows
  else
    rows
termination_by rows.length
decreasing_by exact length_without_lt (List.argmin_mem _least)

section Evict
variable {key : ρ → κ} {order : ρ → β} {bound : Nat} {rows : List ρ} {r oldest : ρ}

/-- Taking a row out of a keyed table takes out nothing else. -/
theorem perm_cons_without (keyed : Keyed key rows) (mem : r ∈ rows) :
    rows.Perm (r :: without key r rows) := by
  have alone : rows.filter (key · = key r) = [r] := by
    rw [keyed.filter_eq fun a _ same => of_decide_eq_true same, keyed.lookup mem]
    simp
  have split := List.filter_append_perm (key · = key r) rows
  rw [alone] at split
  refine split.symm.trans (List.Perm.of_eq ?_)
  simp [without]

theorem keyed_evict (keyed : Keyed key rows) : Keyed key (evict key order bound rows) := by
  fun_induction evict key order bound rows with
  | case1 rows full oldest least ih => exact ih (keyed.filter _)
  | case2 => exact keyed
  | case3 => exact keyed

/-- A row outlasts the eviction if and only if fewer rows than the bound are above it. -/
theorem mem_evict (keyed : Keyed key rows)
    (distinct : ∀ a ∈ rows, ∀ b ∈ rows, order a = order b → key a = key b) :
    r ∈ evict key order bound rows ↔
      r ∈ rows ∧ rows.countP (fun a => order r < order a) < bound := by
  fun_induction evict key order bound rows with
  | case1 rows full oldest least ih =>
    have present := List.argmin_mem least
    have perm := perm_cons_without keyed present
    have low (a) (mem : a ∈ rows) : order oldest ≤ order a := List.le_of_mem_argmin mem least
    rw [ih (keyed.filter _) fun a mema b memb => distinct a (List.mem_of_mem_filter mema) b
      (List.mem_of_mem_filter memb)]
    by_cases same : key r = key oldest
    · -- the least row goes, and all the others are above it
      refine iff_of_false (fun stays => ?_) fun stays => ?_
      · exact of_decide_eq_true (List.mem_filter.mp stays.1).2 same
      · obtain rfl := keyed.inj stays.1 present same
        have above : (without key r rows).countP (fun a => order r < order a) =
            (without key r rows).length := by
          refine List.countP_eq_length.mpr fun a mem => decide_eq_true ?_
          obtain ⟨mem, other⟩ := List.mem_filter.mp mem
          refine lt_of_le_of_ne (low a mem) fun equal => ?_
          exact of_decide_eq_true other (distinct a mem r present equal.symm)
        have few := stays.2
        rw [perm.countP_eq, List.countP_cons, above] at few
        have lengths := perm.length_eq
        rw [List.length_cons] at lengths
        omega
    · have notAbove (mem : r ∈ rows) : ¬ order r < order oldest := not_lt.mpr (low r mem)
      have stays : r ∈ without key oldest rows ↔ r ∈ rows := by
        rw [without, List.mem_filter, and_iff_left (decide_eq_true same)]
      rw [stays]
      refine and_congr_right fun mem => ?_
      rw [perm.countP_eq, List.countP_cons, if_neg (by simpa using notAbove mem), Nat.add_zero]
  | case2 rows full none =>
    rw [List.argmin_eq_none.mp none] at full
    exact absurd full (Nat.not_lt_zero _)
  | case3 rows fits =>
    rw [iff_self_and]
    intro mem
    have below : rows.countP (fun a => order r < order a) ≠ rows.length := fun all =>
      lt_irrefl (order r) (of_decide_eq_true (List.countP_eq_length.mp all r mem))
    have most := rows.countP_le_length (p := fun a => decide (order r < order a))
    omega

end Evict

end RelayPool.Eviction
