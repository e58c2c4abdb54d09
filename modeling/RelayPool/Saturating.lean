import Mathlib.Data.UInt
import Mathlib.Tactic.Common

/-! Saturating arithmetic on fixed-width words.

The operations clamp at the ends of the word instead of wrapping. Every fact
below is stated on `toNat`, where the clamp is a `min` or a truncated
difference, so that a goal about words becomes linear arithmetic. -/

namespace UInt64

def maxValue : UInt64 := 18446744073709551615

def saturatingAdd (a b : UInt64) : UInt64 := .ofNat (min (a.toNat + b.toNat) (2 ^ 64 - 1))

def saturatingMul (a b : UInt64) : UInt64 := .ofNat (min (a.toNat * b.toNat) (2 ^ 64 - 1))

/-- A left shift by at least the width has no value. -/
def checkedShl (a : UInt64) (n : UInt32) : Option UInt64 :=
  if n < 64 then some (a <<< n.toUInt64) else none

@[simp] theorem toNat_maxValue : maxValue.toNat = 2 ^ 64 - 1 := rfl

theorem toNat_le (a : UInt64) : a.toNat ≤ 2 ^ 64 - 1 := by
  have := a.toNat_lt
  omega

@[simp] theorem toNat_saturatingAdd (a b : UInt64) :
    (a.saturatingAdd b).toNat = min (a.toNat + b.toNat) (2 ^ 64 - 1) := by
  simp only [saturatingAdd, toNat_ofNat']
  omega

@[simp] theorem toNat_saturatingMul (a b : UInt64) :
    (a.saturatingMul b).toNat = min (a.toNat * b.toNat) (2 ^ 64 - 1) := by
  simp only [saturatingMul, toNat_ofNat']
  omega

theorem le_saturatingAdd (a b : UInt64) : a ≤ a.saturatingAdd b := by
  have := a.toNat_le
  rw [le_iff_toNat_le, toNat_saturatingAdd]
  omega

/-- A power of two below the width. -/
theorem checkedShl_one (n : UInt32) (h : n < 64) :
    ∃ m, checkedShl 1 n = some m ∧ m.toNat = 2 ^ n.toNat := by
  have hn : n.toNat < 64 := by simpa using UInt32.lt_iff_toNat_lt.mp h
  refine ⟨_, if_pos h, ?_⟩
  have hlt : 2 ^ n.toNat < 2 ^ 64 := Nat.pow_lt_pow_right (by decide) hn
  rw [UInt64.toNat_shiftLeft, UInt32.toNat_toUInt64, Nat.mod_eq_of_lt hn, Nat.shiftLeft_eq]
  simpa using Nat.mod_eq_of_lt hlt

end UInt64

namespace UInt32

def saturatingAdd (a b : UInt32) : UInt32 := .ofNat (min (a.toNat + b.toNat) (2 ^ 32 - 1))

def saturatingSub (a b : UInt32) : UInt32 := .ofNat (a.toNat - b.toNat)

@[simp] theorem toNat_saturatingAdd (a b : UInt32) :
    (a.saturatingAdd b).toNat = min (a.toNat + b.toNat) (2 ^ 32 - 1) := by
  simp only [saturatingAdd, toNat_ofNat']
  omega

@[simp] theorem toNat_saturatingSub (a b : UInt32) :
    (a.saturatingSub b).toNat = a.toNat - b.toNat := by
  have := a.toNat_lt
  simp only [saturatingSub, toNat_ofNat']
  omega

end UInt32

namespace UInt16

def saturatingAdd (a b : UInt16) : UInt16 := .ofNat (min (a.toNat + b.toNat) (2 ^ 16 - 1))

@[simp] theorem toNat_saturatingAdd (a b : UInt16) :
    (a.saturatingAdd b).toNat = min (a.toNat + b.toNat) (2 ^ 16 - 1) := by
  simp only [saturatingAdd, toNat_ofNat']
  omega

theorem le_saturatingAdd (a b : UInt16) : a ≤ a.saturatingAdd b := by
  have := a.toNat_lt
  rw [le_iff_toNat_le, toNat_saturatingAdd]
  omega

/-- A word below another one is not the largest. -/
theorem saturatingAdd_one_ne {a b : UInt16} (h : a < b) : a.saturatingAdd 1 ≠ a := by
  intro heq
  have hmax := b.toNat_lt
  have hsame := congrArg UInt16.toNat heq
  rw [lt_iff_toNat_lt] at h
  rw [toNat_saturatingAdd] at hsame
  simp only [UInt16.reduceToNat] at hsame
  omega

end UInt16

namespace Int64

/-- An integer outside the word's range becomes the nearer end of the range. -/
def clamp (i : Int) : Int64 := .ofInt (max (-2 ^ 63) (min i (2 ^ 63 - 1)))

def saturatingAdd (a b : Int64) : Int64 := clamp (a.toInt + b.toInt)

def saturatingSub (a b : Int64) : Int64 := clamp (a.toInt - b.toInt)

@[simp] theorem toInt_clamp (i : Int) :
    (clamp i).toInt = max (-2 ^ 63) (min i (2 ^ 63 - 1)) := by
  unfold clamp
  rw [Int64.toInt_ofInt_of_le] <;> omega

@[simp] theorem toInt_saturatingAdd (a b : Int64) :
    (a.saturatingAdd b).toInt = max (-2 ^ 63) (min (a.toInt + b.toInt) (2 ^ 63 - 1)) :=
  toInt_clamp _

@[simp] theorem toInt_saturatingSub (a b : Int64) :
    (a.saturatingSub b).toInt = max (-2 ^ 63) (min (a.toInt - b.toInt) (2 ^ 63 - 1)) :=
  toInt_clamp _

end Int64
