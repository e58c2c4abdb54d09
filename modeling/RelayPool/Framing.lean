import Mathlib.Tactic.Common

/-! Framing of a stream.

An input is cut into frames element by element: what is pending is a frame as
soon as it is `complete`. Frames and rest together are the input
(`frames_flatten`), and cutting the input into chunks first changes neither
(`frames_append`). What is pending at a cut goes on into the next frame or into the rest
(`frames_head`), and every frame but for its last element is pending at some cut
(`exists_cut`). -/
namespace RelayPool.Framing

variable {α : Type*} {complete : List α → Bool}

/-- The frames of an input that comes after what is pending, and what is pending then. -/
def frames (complete : List α → Bool) (pending : List α) : List α → List (List α) × List α
  | [] => ([], pending)
  | a :: rest =>
    if complete (pending ++ [a]) then
      ((pending ++ [a]) :: (frames complete [] rest).1, (frames complete [] rest).2)
    else frames complete (pending ++ [a]) rest

theorem frames_complete {pending : List α} {a : α} (h : complete (pending ++ [a]))
    (rest : List α) : frames complete pending (a :: rest) =
      ((pending ++ [a]) :: (frames complete [] rest).1, (frames complete [] rest).2) := if_pos h

theorem frames_pending {pending : List α} {a : α} (h : ¬ complete (pending ++ [a]))
    (rest : List α) :
    frames complete pending (a :: rest) = frames complete (pending ++ [a]) rest := if_neg h

theorem frames_flatten (pending input : List α) :
    (frames complete pending input).1.flatten ++ (frames complete pending input).2 =
      pending ++ input := by
  induction input generalizing pending with
  | nil => simp [frames]
  | cons a rest ih =>
    by_cases h : complete (pending ++ [a])
    · rw [frames_complete h]
      simpa using ih []
    · rw [frames_pending h, ih]
      simp

theorem frames_append (pending as bs : List α) :
    frames complete pending (as ++ bs) =
      ((frames complete pending as).1 ++
          (frames complete (frames complete pending as).2 bs).1,
        (frames complete (frames complete pending as).2 bs).2) := by
  induction as generalizing pending with
  | nil => rfl
  | cons a rest ih =>
    rw [List.cons_append]
    by_cases h : complete (pending ++ [a])
    · rw [frames_complete h, frames_complete h, ih]
      rfl
    · rw [frames_pending h, frames_pending h, ih]

/-- What is left over has no frame in it. -/
theorem frames_rest {pending : List α} (h : frames complete [] pending = ([], pending))
    (input : List α) :
    frames complete [] (frames complete pending input).2 =
      ([], (frames complete pending input).2) := by
  induction input generalizing pending with
  | nil => exact h
  | cons a rest ih =>
    by_cases last : complete (pending ++ [a])
    · rw [frames_complete last]
      exact ih rfl
    · rw [frames_pending last]
      refine ih ?_
      rw [frames_append, h]
      show ([] ++ (frames complete pending [a]).1, (frames complete pending [a]).2) = _
      rw [frames_pending last]
      rfl

/-- Of an input cut in two, what the first part leaves over comes before the second. -/
theorem frames_again (as bs : List α) :
    frames complete [] (as ++ bs) =
      ((frames complete [] as).1 ++ (frames complete [] ((frames complete [] as).2 ++ bs)).1,
        (frames complete [] ((frames complete [] as).2 ++ bs)).2) := by
  rw [frames_append [] (frames complete [] as).2 bs, frames_rest rfl, frames_append]
  rfl

theorem frames_ne_nil (pending input : List α) :
    ∀ frame ∈ (frames complete pending input).1, frame ≠ [] := by
  induction input generalizing pending with
  | nil => exact fun frame hframe => by cases hframe
  | cons a rest ih =>
    by_cases h : complete (pending ++ [a])
    · rw [frames_complete h, List.forall_mem_cons]
      exact ⟨by simp, ih []⟩
    · rw [frames_pending h]
      exact ih _

/-! ### The first frame -/

theorem frames_none {pending input : List α}
    (h : ∀ as, as <+: input → as ≠ [] → ¬ complete (pending ++ as)) :
    frames complete pending input = ([], pending ++ input) := by
  induction input generalizing pending with
  | nil => simp [frames]
  | cons a rest ih =>
    have open_ : ¬ complete (pending ++ [a]) := h [a] (List.prefix_append [a] rest) (by simp)
    rw [frames_pending open_, ih fun as hpre _ => ?_]
    · simp
    · have longer := h (a :: as) ((List.cons_prefix_cons).mpr ⟨rfl, hpre⟩) (by simp)
      simpa using longer

theorem frames_first {pending as bs : List α} (hne : as ≠ []) (h : complete (pending ++ as))
    (first : ∀ as', as' <+: as → as' ≠ [] → as' ≠ as → ¬ complete (pending ++ as')) :
    frames complete pending (as ++ bs) =
      ((pending ++ as) :: (frames complete [] bs).1, (frames complete [] bs).2) := by
  induction as generalizing pending with
  | nil => exact absurd rfl hne
  | cons a rest ih =>
    rw [List.cons_append]
    by_cases last : rest = []
    · subst last
      rw [frames_complete h]
      rfl
    · have open_ : ¬ complete (pending ++ [a]) :=
        first [a] (List.prefix_append [a] rest) (by simp) (by simpa [eq_comm] using last)
      have whole : complete ((pending ++ [a]) ++ rest) := by simpa using h
      rw [frames_pending open_, ih last whole fun as' hpre _ hshort => ?_]
      · simp
      · have longer := first (a :: as') ((List.cons_prefix_cons).mpr ⟨rfl, hpre⟩) (by simp)
          (by simpa using hshort)
        simpa using longer

/-! ### Cuts -/

/-- What is pending goes on into the first frame, or nothing completes it. -/
theorem frames_head (pending input : List α) :
    frames complete pending input = ([], pending ++ input) ∨
      ∃ as later, as ≠ [] ∧ (frames complete pending input).1 = (pending ++ as) :: later := by
  induction input generalizing pending with
  | nil => simp [frames]
  | cons a rest ih =>
    by_cases h : complete (pending ++ [a])
    · rw [frames_complete h]
      exact .inr ⟨[a], _, by simp, rfl⟩
    · rw [frames_pending h]
      rcases ih (pending ++ [a]) with none | ⟨as, later, -, first⟩
      · exact .inl (by simpa using none)
      · exact .inr ⟨a :: as, later, by simp, by simpa using first⟩

/-- The input can be cut so that all of a frame but its last element is pending. -/
theorem exists_cut {pending input frame : List α}
    (h : frame ∈ (frames complete pending input).1) :
    ∃ as bs, input = as ++ bs ∧ bs ≠ [] ∧ (frames complete pending as).2 = frame.dropLast := by
  induction input generalizing pending with
  | nil => cases h
  | cons a rest ih =>
    by_cases last : complete (pending ++ [a])
    · rw [frames_complete last] at h
      rcases List.mem_cons.mp h with rfl | h
      · exact ⟨[], a :: rest, rfl, by simp, by simp [frames]⟩
      · obtain ⟨as, bs, rfl, hne, same⟩ := ih h
        refine ⟨a :: as, bs, rfl, hne, ?_⟩
        rw [frames_complete last]
        exact same
    · rw [frames_pending last] at h
      obtain ⟨as, bs, rfl, hne, same⟩ := ih h
      refine ⟨a :: as, bs, rfl, hne, ?_⟩
      rw [frames_pending last]
      exact same

end RelayPool.Framing
