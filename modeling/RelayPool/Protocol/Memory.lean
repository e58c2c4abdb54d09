import Mathlib.Algebra.Order.BigOperators.Group.List
import Mathlib.Data.UInt
import RelayPool.Runs

/-! The memory that diagnostics share (`services/proxy/diagnostic_memory.rs`).

Permits are reserved against one counter and released once, at the latest when they are
dropped. Every call changes the counter in one atomic step, so the calls of all holders are one
sequence. In each of them the counter is what the permits hold, it stays within the limit
(`Balanced`), and a reservation is refused exactly when it does not fit
(`diagnostic_memory_bounded`). -/
namespace RelayPool.Protocol
open Runs

/-- The budget with the bytes of each permit, in the order they were handed out. -/
structure DiagnosticMemoryBudget where
  limit : UInt64
  retained : UInt64
  permits : List UInt64
deriving DecidableEq, Repr

structure DiagnosticMemoryMiss where
  requested : UInt64
  retained : UInt64
  limit : UInt64
deriving DecidableEq, Repr

/-- A permit is named by its place. -/
abbrev PermitId := Nat

namespace DiagnosticMemoryBudget

def new (limit : UInt64) : DiagnosticMemoryBudget := ⟨limit, 0, []⟩

variable (b : DiagnosticMemoryBudget)

/-- The counter with these bytes added, if it neither overflows nor passes the limit. -/
def reserved (bytes : UInt64) : Option UInt64 :=
  if b.retained.toNat + bytes.toNat < 2 ^ 64 ∧ b.retained + bytes ≤ b.limit then
    some (b.retained + bytes)
  else none

def tryReserve (bytes : UInt64) :
    Except DiagnosticMemoryMiss PermitId × DiagnosticMemoryBudget :=
  if bytes = 0 then (.ok b.permits.length, { b with permits := b.permits ++ [0] })
  else
    match b.reserved bytes with
    | some retained =>
      (.ok b.permits.length, { b with retained, permits := b.permits ++ [bytes] })
    | none => (.error ⟨bytes, b.retained, b.limit⟩, b)

/-- Called by the holder, and again when the permit is dropped. -/
def release (permit : PermitId) : DiagnosticMemoryBudget :=
  let bytes := b.permits.getD permit 0
  if bytes = 0 then b
  else { b with retained := b.retained - bytes, permits := b.permits.set permit 0 }

/-- What the permits hold. -/
def held : Nat := (b.permits.map (·.toNat)).sum

/-- The counter is what the permits hold, within the limit. -/
structure Balanced : Prop where
  counter : b.retained.toNat = b.held
  within : b.held ≤ b.limit.toNat

end DiagnosticMemoryBudget

inductive MemoryCall
  | tryReserve (bytes : UInt64)
  | release (permit : PermitId)

def DiagnosticMemoryBudget.step (b : DiagnosticMemoryBudget) : MemoryCall → DiagnosticMemoryBudget
  | .tryReserve bytes => (b.tryReserve bytes).2
  | .release permit => b.release permit

namespace DiagnosticMemoryBudget
variable {b : DiagnosticMemoryBudget}

theorem Balanced.new (limit : UInt64) : (new limit).Balanced := ⟨rfl, Nat.zero_le _⟩

/-- Within 64 bits the counter adds as what is held does. -/
theorem Balanced.added (balanced : b.Balanced) {bytes : UInt64}
    (small : b.held + bytes.toNat < 2 ^ 64) :
    (b.retained + bytes).toNat = b.held + bytes.toNat := by
  rw [UInt64.toNat_add, balanced.counter, Nat.mod_eq_of_lt small]

theorem reserved_eq (balanced : b.Balanced) (bytes : UInt64) :
    b.reserved bytes =
      if b.held + bytes.toNat ≤ b.limit.toNat then some (b.retained + bytes) else none := by
  rw [reserved, balanced.counter]
  by_cases fits : b.held + bytes.toNat ≤ b.limit.toNat
  · have small := fits.trans_lt b.limit.toNat_lt
    rw [if_pos fits, if_pos ⟨small, UInt64.le_iff_toNat_le.mpr (balanced.added small ▸ fits)⟩]
  · rw [if_neg fits, if_neg]
    rintro ⟨small, le⟩
    exact fits (balanced.added small ▸ UInt64.le_iff_toNat_le.mp le)

theorem tryReserve_eq (balanced : b.Balanced) (bytes : UInt64) :
    b.tryReserve bytes =
      if bytes = 0 ∨ b.held + bytes.toNat ≤ b.limit.toNat then
        (.ok b.permits.length, ⟨b.limit, b.retained + bytes, b.permits ++ [bytes]⟩)
      else (.error ⟨bytes, b.retained, b.limit⟩, b) := by
  rw [tryReserve]
  by_cases nothing : bytes = 0
  · rw [if_pos nothing, if_pos (.inl nothing), nothing, UInt64.add_zero]
  · rw [if_neg nothing, reserved_eq balanced]
    by_cases fits : b.held + bytes.toNat ≤ b.limit.toNat
    · rw [if_pos fits, if_pos (.inr fits)]
    · rw [if_neg fits, if_neg (not_or.mpr ⟨nothing, fits⟩)]

theorem held_append (permits : List UInt64) (bytes : UInt64) (limit retained : UInt64) :
    held ⟨limit, retained, permits ++ [bytes]⟩ =
      (permits.map (·.toNat)).sum + bytes.toNat := by
  rw [held, List.map_append, List.sum_append, List.map_singleton, List.sum_singleton]

/-- What a permit held is no longer held once it is released. -/
theorem sum_set_zero {permits : List UInt64} {permit : PermitId} (here : permit < permits.length) :
    ((permits.set permit 0).map (·.toNat)).sum + (permits.getD permit 0).toNat =
      (permits.map (·.toNat)).sum := by
  induction permits generalizing permit with
  | nil => cases here
  | cons bytes rest ih =>
    cases permit with
    | zero =>
      simp only [List.set_cons_zero, List.map_cons, List.sum_cons, List.getD_cons_zero,
        UInt64.toNat_zero]
      omega
    | succ permit =>
      have later := ih (Nat.lt_of_succ_lt_succ here)
      simp only [List.set_cons_succ, List.map_cons, List.sum_cons, List.getD_cons_succ]
      omega

theorem lt_of_getD_ne {permits : List UInt64} {permit : PermitId}
    (some : permits.getD permit 0 ≠ 0) : permit < permits.length := by
  by_contra outside
  refine some ?_
  rw [List.getD_eq_getElem?_getD, List.getElem?_eq_none (Nat.not_lt.mp outside)]
  rfl

theorem Balanced.release (balanced : b.Balanced) (permit : PermitId) :
    (b.release permit).Balanced ∧
      (b.release permit).held + (b.permits.getD permit 0).toNat = b.held := by
  by_cases gone : b.permits.getD permit 0 = 0
  · rw [DiagnosticMemoryBudget.release, if_pos gone, gone]
    exact ⟨balanced, rfl⟩
  · have less := sum_set_zero (lt_of_getD_ne gone)
    have counter := balanced.counter
    have within := balanced.within
    rw [held] at counter within
    rw [DiagnosticMemoryBudget.release, if_neg gone]
    refine ⟨⟨?_, ?_⟩, less⟩
    · have le : b.permits.getD permit 0 ≤ b.retained := UInt64.le_iff_toNat_le.mpr (by omega)
      rw [UInt64.toNat_sub_of_le _ _ le, held]
      simp only
      omega
    · rw [held]
      simp only
      omega

theorem Balanced.tryReserve (balanced : b.Balanced) (bytes : UInt64) :
    (b.tryReserve bytes).2.Balanced := by
  rw [tryReserve_eq balanced]
  split
  · rename_i granted
    have fits : b.held + bytes.toNat ≤ b.limit.toNat := by
      rcases granted with rfl | fits
      · exact balanced.within
      · exact fits
    refine ⟨?_, ?_⟩
    · rw [held_append]
      exact balanced.added (fits.trans_lt b.limit.toNat_lt)
    · rw [held_append]
      exact fits
  · exact balanced

theorem Balanced.run {limit : UInt64} (calls : List MemoryCall) :
    (run step (DiagnosticMemoryBudget.new limit) calls).Balanced :=
  run_invariant (fun b call balanced => by
    cases call with
    | tryReserve bytes => exact balanced.tryReserve bytes
    | release permit => exact (balanced.release permit).1) (.new limit) calls

theorem limit_run {limit : UInt64} (calls : List MemoryCall) :
    (run step (DiagnosticMemoryBudget.new limit) calls).limit = limit := by
  have kept (b : DiagnosticMemoryBudget) (call : MemoryCall) (same : b.limit = limit) :
      (b.step call).limit = limit := by
    cases call with
    | tryReserve bytes =>
      show (b.tryReserve bytes).2.limit = limit
      rw [tryReserve]
      split
      · exact same
      · split <;> exact same
    | release permit =>
      show (b.release permit).limit = limit
      rw [release]
      split <;> exact same
  exact run_invariant kept rfl calls

/-- A released permit holds nothing more to release. -/
theorem release_release (permit : PermitId) :
    (b.release permit).release permit = b.release permit := by
  by_cases gone : b.permits.getD permit 0 = 0
  · have same : b.release permit = b := by rw [release, if_pos gone]
    rw [same, same]
  · have spent : (b.release permit).permits.getD permit 0 = 0 := by
      rw [release, if_neg gone, List.getD_eq_getElem?_getD,
        List.getElem?_set_self (lt_of_getD_ne gone)]
      rfl
    rw [release, if_pos spent]

theorem held_eq_zero (spent : ∀ bytes ∈ b.permits, bytes = 0) : b.held = 0 := by
  rw [held, List.sum_eq_zero]
  intro n mem
  obtain ⟨bytes, there, rfl⟩ := List.mem_map.mp mem
  rw [spent bytes there]
  rfl

end DiagnosticMemoryBudget

open DiagnosticMemoryBudget in
/-- Whatever calls were made in whatever order: the counter is what the permits hold and never
passes the limit; bytes are granted just when they fit beside what is held, a refusal reports
the counter and changes nothing; and a released permit gives back what it held, once. -/
theorem diagnostic_memory_bounded (limit : UInt64) (calls : List MemoryCall) :
    let b := run step (new limit) calls
    b.retained.toNat = b.held ∧ b.held ≤ limit.toNat ∧
      (∀ bytes, b.tryReserve bytes =
        if bytes = 0 ∨ b.held + bytes.toNat ≤ limit.toNat then
          (.ok b.permits.length, ⟨limit, b.retained + bytes, b.permits ++ [bytes]⟩)
        else (.error ⟨bytes, b.retained, limit⟩, b)) ∧
      (∀ permit, (b.release permit).held + (b.permits.getD permit 0).toNat = b.held ∧
        (b.release permit).release permit = b.release permit) ∧
      ((∀ bytes ∈ b.permits, bytes = 0) → b.retained = 0) := by
  intro b
  have balanced : b.Balanced := .run calls
  have same : b.limit = limit := limit_run calls
  refine ⟨balanced.counter, same ▸ balanced.within, fun bytes => ?_, fun permit =>
    ⟨(balanced.release permit).2, release_release permit⟩, fun spent => ?_⟩
  · rw [tryReserve_eq balanced, same]
  · refine UInt64.toNat_inj.mp ?_
    rw [balanced.counter, held_eq_zero spent]
    rfl

end RelayPool.Protocol
