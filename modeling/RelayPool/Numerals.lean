import Mathlib.Data.List.Basic

/-! Texts that end in a numeral.

A text is cut at its last separator in one way (`cut_last`), and a decimal numeral has no
separators in it, so that what stands before a numeral and its number can be told apart. -/
namespace RelayPool.Numerals

/-- A text is cut at its last separator in one way. -/
theorem cut_last {α : Type} {c : α} {as bs as' bs' : List α} (clean : c ∉ bs) (clean' : c ∉ bs')
    (h : as ++ c :: bs = as' ++ c :: bs') : as = as' ∧ bs = bs' := by
  rcases List.append_eq_append_iff.mp h with ⟨more, rfl, tail⟩ | ⟨more, rfl, tail⟩
  · cases more with
    | nil => exact ⟨(List.append_nil as).symm, (List.cons.inj tail).2⟩
    | cons d more =>
      exact absurd ((List.cons.inj tail).2 ▸ List.mem_append_right more (.head _)) clean
  · cases more with
    | nil => exact ⟨List.append_nil as', (List.cons.inj tail).2.symm⟩
    | cons d more =>
      exact absurd ((List.cons.inj tail).2 ▸ List.mem_append_right more (.head _)) clean'

theorem notMem_toString {c : Char} (separator : c.isDigit = false) {n : Nat} :
    c ∉ (toString n).toList := by
  rw [Nat.toString_eq_repr, Nat.toList_repr]
  intro mem
  exact absurd (Nat.isDigit_of_mem_toDigits (by decide) (by decide) mem) (by simp [separator])

theorem toString_inj {n n' : Nat} (h : (toString n).toList = (toString n').toList) : n = n' := by
  rw [Nat.toString_eq_repr, Nat.toString_eq_repr, Nat.toList_repr, Nat.toList_repr] at h
  rw [← Nat.ofDigitChars_ten_toDigits (n := n), h, Nat.ofDigitChars_ten_toDigits]

end RelayPool.Numerals
