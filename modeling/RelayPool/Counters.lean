import Mathlib.Data.List.Count
import Mathlib.Logic.Function.Basic

/-! Shared counters.

One counter for each key, raised by one up to a cap and lowered by one down to
zero. A group of keys is raised one by one and taken back in the opposite order.
Taking a group back undoes it exactly when no counter reached its cap on the way
(`lowerAll_raiseAll`). -/
namespace RelayPool.Counters

variable {κ : Type*} [DecidableEq κ]

def raise (cap : Nat) (c : κ → Nat) (key : κ) : κ → Nat :=
  Function.update c key (min (c key + 1) cap)

def lower (c : κ → Nat) (key : κ) : κ → Nat := Function.update c key (c key - 1)

def raiseAll (cap : Nat) (c : κ → Nat) (keys : List κ) : κ → Nat := keys.foldl (raise cap) c

/-- Without a cap. -/
def bump (c : κ → Nat) (key : κ) : κ → Nat := Function.update c key (c key + 1)

/-- The last key first. -/
def lowerAll (c : κ → Nat) (keys : List κ) : κ → Nat := keys.reverse.foldl lower c

@[simp] theorem raiseAll_nil (cap : Nat) (c : κ → Nat) : raiseAll cap c [] = c := rfl

@[simp] theorem raiseAll_cons (cap : Nat) (c : κ → Nat) (key : κ) (keys : List κ) :
    raiseAll cap c (key :: keys) = raiseAll cap (raise cap c key) keys := rfl

theorem raiseAll_concat (cap : Nat) (c : κ → Nat) (keys : List κ) (key : κ) :
    raiseAll cap c (keys ++ [key]) = raise cap (raiseAll cap c keys) key := by
  simp [raiseAll]

@[simp] theorem raise_self (cap : Nat) (c : κ → Nat) (key : κ) :
    raise cap c key key = min (c key + 1) cap := Function.update_self ..

theorem raise_of_ne {cap : Nat} {c : κ → Nat} {key other : κ} (h : other ≠ key) :
    raise cap c key other = c other := Function.update_of_ne h ..

@[simp] theorem lower_self (c : κ → Nat) (key : κ) : lower c key key = c key - 1 :=
  Function.update_self ..

theorem lower_of_ne {c : κ → Nat} {key other : κ} (h : other ≠ key) :
    lower c key other = c other := Function.update_of_ne h ..

theorem raise_le {cap : Nat} {c : κ → Nat} (h : ∀ k, c k ≤ cap) (key k : κ) :
    raise cap c key k ≤ cap := by
  by_cases hk : k = key
  · rw [hk, raise_self]
    exact Nat.min_le_right ..
  · rw [raise_of_ne hk]
    exact h k

theorem raiseAll_apply {cap : Nat} {c : κ → Nat} (h : ∀ k, c k ≤ cap) (keys : List κ) (k : κ) :
    raiseAll cap c keys k = min (c k + keys.count k) cap := by
  induction keys generalizing c with
  | nil =>
    have := h k
    rw [raiseAll_nil, List.count_nil]
    omega
  | cons key rest ih =>
    rw [raiseAll_cons, ih (raise_le h key)]
    by_cases hk : k = key
    · rw [hk, raise_self, List.count_cons_self]
      omega
    · rw [raise_of_ne hk, List.count_cons_of_ne (Ne.symm hk)]

theorem lowerAll_apply (c : κ → Nat) (keys : List κ) (k : κ) :
    lowerAll c keys k = c k - keys.count k := by
  unfold lowerAll
  rw [← List.count_reverse]
  induction keys.reverse generalizing c with
  | nil => rfl
  | cons key rest ih =>
    rw [List.foldl_cons, ih]
    by_cases hk : k = key
    · rw [hk, lower_self, List.count_cons_self]
      omega
    · rw [lower_of_ne hk, List.count_cons_of_ne (Ne.symm hk)]

theorem foldl_lower_apply (c : κ → Nat) (keys : List κ) (k : κ) :
    keys.foldl lower c k = c k - keys.count k := by
  have reversed := lowerAll_apply c keys.reverse k
  rwa [lowerAll, List.reverse_reverse, List.count_reverse] at reversed

theorem foldl_bump_apply (c : κ → Nat) (keys : List κ) (k : κ) :
    keys.foldl bump c k = c k + keys.count k := by
  induction keys generalizing c with
  | nil => rfl
  | cons key rest ih =>
    rw [List.foldl_cons, ih]
    by_cases hk : k = key
    · rw [hk, bump, Function.update_self, List.count_cons_self]
      omega
    · rw [bump, Function.update_of_ne hk, List.count_cons_of_ne (Ne.symm hk)]

/-- Taking a group back, where no counter stopped at the cap. -/
theorem lowerAll_raiseAll {cap : Nat} {c : κ → Nat} {keys : List κ}
    (room : ∀ k, c k + keys.count k ≤ cap) : lowerAll (raiseAll cap c keys) keys = c := by
  funext k
  have now := room k
  have bounded : ∀ k, c k ≤ cap := fun k => Nat.le_trans (Nat.le_add_right ..) (room k)
  rw [lowerAll_apply, raiseAll_apply bounded]
  omega

end RelayPool.Counters
