import Mathlib.Data.List.SplitBy
import Mathlib.Tactic.Common

/-! Runs of a list.

`List.splitBy` cuts a list into the longest runs of related neighbours. The runs of a
concatenation are the runs of its parts, except that the two that meet at the seam become one
when the elements that meet there are related (`splitBy_append_join`). -/
namespace RelayPool.Splits

variable {α β γ : Type*}

/-- The concatenation of two lists whose parts may merge where they meet. -/
def join (merge : β → β → Option β) (xs ys : List β) : List β :=
  match xs.getLast?, ys with
  | some last, first :: rest =>
    match merge last first with
    | some merged => xs.dropLast ++ merged :: rest
    | none => xs ++ ys
  | _, _ => xs ++ ys

/-- Two runs are one when the elements that meet are related. -/
def mergeRuns (r : α → α → Bool) (a b : List α) : Option (List α) :=
  match a.getLast?, b.head? with
  | some x, some y => if r x y then some (a ++ b) else none
  | _, _ => none

section Join
variable (merge : β → β → Option β) (xs ys : List β)

@[simp] theorem join_nil : join merge xs [] = xs := by
  unfold join
  split <;> simp_all

@[simp] theorem nil_join : join merge [] ys = ys := by
  unfold join
  split <;> simp_all

theorem concat_join_cons (last first : β) : join merge (xs ++ [last]) (first :: ys) =
    match merge last first with
    | some merged => xs ++ merged :: ys
    | none => xs ++ [last] ++ first :: ys := by
  unfold join
  rw [List.getLast?_concat]
  dsimp only
  split <;> simp

/-- What stands before the last part stays where it is. -/
theorem append_join {before : List β} (some : xs ≠ []) :
    join merge (before ++ xs) ys = before ++ join merge xs ys := by
  obtain ⟨front, last, rfl⟩ := List.eq_nil_or_concat xs |>.resolve_left some
  cases ys with
  | nil => simp
  | cons first rest =>
    rw [List.concat_eq_append, ← List.append_assoc, concat_join_cons, concat_join_cons]
    split <;> simp

variable {merge xs ys}

theorem eq_nil_of_join (empty : join merge xs ys = []) : xs = [] := by
  rcases List.eq_nil_or_concat xs with rfl | ⟨front, last, rfl⟩
  · rfl
  cases ys with
  | nil => rwa [join_nil] at empty
  | cons first rest =>
    rw [List.concat_eq_append, concat_join_cons] at empty
    split at empty <;> simp at empty

theorem join_of_none
    (apart : ∀ last ∈ xs.getLast?, ∀ first ∈ ys.head?, merge last first = none) :
    join merge xs ys = xs ++ ys := by
  unfold join
  split
  · rename_i last first rest is
    rw [apart last is first rfl]
  · rfl

theorem map_join {f : β → γ} {merge' : γ → γ → Option γ}
    (agree : ∀ a ∈ xs, ∀ b ∈ ys, merge' (f a) (f b) = (merge a b).map f) :
    (join merge xs ys).map f = join merge' (xs.map f) (ys.map f) := by
  rcases List.eq_nil_or_concat xs with rfl | ⟨front, last, rfl⟩
  · simp
  cases ys with
  | nil => simp
  | cons first rest =>
    have here := agree last (by simp) first (List.mem_cons_self ..)
    rw [List.concat_eq_append, List.map_append, List.map_cons, List.map_nil, List.map_cons,
      concat_join_cons, concat_join_cons, here]
    cases merge last first <;> simp

end Join

/-! ### Runs of a concatenation -/

theorem splitBy_append_join (r : α → α → Bool) (l m : List α) :
    (l ++ m).splitBy r = join (mergeRuns r) (l.splitBy r) (m.splitBy r) := by
  rcases eq_or_ne l [] with rfl | left
  · simp
  rcases eq_or_ne m [] with rfl | right
  · simp
  obtain ⟨front, a, is⟩ := (List.eq_nil_or_concat (l.splitBy r)).resolve_left
    (List.splitBy_ne_nil.mpr left)
  obtain ⟨b, back, is'⟩ := List.exists_cons_of_ne_nil (List.splitBy_ne_nil (r := r) |>.mpr right)
  obtain ⟨flat, none, chains, apart⟩ := List.splitBy_eq_iff.mp is
  obtain ⟨flat', none', chains', apart'⟩ := List.splitBy_eq_iff.mp is'
  rw [List.concat_eq_append] at is flat none chains apart
  have filled : a ≠ [] := fun empty =>
    none (List.mem_append_right _ (List.mem_singleton.mpr empty.symm))
  have filled' : b ≠ [] := fun empty => none' (empty ▸ List.mem_cons_self ..)
  have ends : l.getLast? = a.getLast? := by
    rw [flat, List.flatten_append, List.flatten_singleton]
    exact List.getLast?_append_of_ne_nil _ filled
  have starts : m.head? = b.head? := by
    rw [flat']
    exact List.head?_append_of_ne_nil _ filled'
  obtain ⟨x, last⟩ : ∃ x, a.getLast? = some x := ⟨_, List.getLast?_eq_some_getLast filled⟩
  obtain ⟨y, first⟩ : ∃ y, b.head? = some y := ⟨_, List.head?_eq_some_head filled'⟩
  rw [is, is', concat_join_cons, mergeRuns, last, first]
  dsimp only
  by_cases related : r x y
  · rw [if_pos related]
    refine List.splitBy_eq_iff.mpr ⟨?_, ?_, ?_, ?_⟩
    · rw [flat, flat']
      simp
    · simp only [List.mem_append, List.mem_cons, not_or] at none none' ⊢
      exact ⟨none.1, fun empty => filled (List.append_eq_nil_iff.mp empty.symm).1, none'.2⟩
    · intro run mem
      rcases List.mem_append.mp mem with before | here
      · exact chains run (List.mem_append_left _ before)
      rcases List.mem_cons.mp here with rfl | after
      · refine List.isChain_append.mpr ⟨chains a (by simp), chains' b (List.mem_cons_self ..), ?_⟩
        intro x' mem y' mem'
        rw [last] at mem
        rw [first] at mem'
        obtain rfl := Option.some.inj mem
        obtain rfl := Option.some.inj mem'
        exact related
      · exact chains' run (List.mem_cons_of_mem _ after)
    · obtain ⟨before, -, seam⟩ := List.isChain_append.mp apart
      obtain ⟨seam', after⟩ := List.isChain_cons.mp apart'
      refine List.isChain_append.mpr ⟨before, List.isChain_cons.mpr ⟨?_, after⟩, ?_⟩
      · intro run mem
        obtain ⟨_, filled'', distinct⟩ := seam' run mem
        refine ⟨by simp [filled], filled'', ?_⟩
        rwa [List.getLast_append_of_ne_nil _ filled']
      · rintro run mem _ ⟨⟩
        obtain ⟨filled'', _, distinct⟩ := seam run mem a rfl
        refine ⟨filled'', by simp [filled], ?_⟩
        rwa [List.head_append_of_ne_nil filled]
  · rw [if_neg related]
    dsimp only
    rw [← is, ← is']
    refine List.splitBy_append fun x' mem y' mem' => ?_
    rw [ends, last] at mem
    rw [starts, first] at mem'
    obtain rfl := Option.some.inj mem
    obtain rfl := Option.some.inj mem'
    exact Bool.not_eq_true _ |>.mp related

end RelayPool.Splits
