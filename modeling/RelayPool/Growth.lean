import RelayPool.Table

/-! Tables that only grow.

A table `Grows` when its rows stay at their places, each rewritten as a relation allows,
and new rows come after them. What the relation says about one row, `lookup` sees of
every key, and the rows of a query that it leaves alone stay as they are
(`Grows.filter_eq`). -/
namespace RelayPool.Growth
open Table

variable {ρ κ : Type*}

/-- Rows that were there are related by `R` to what they are now; new ones satisfy `P`. -/
inductive Grows (R : ρ → ρ → Prop) (P : ρ → Prop) : List ρ → List ρ → Prop
  | fresh {new : List ρ} : (∀ r ∈ new, P r) → Grows R P [] new
  | kept {r r' : ρ} {rows rows' : List ρ} :
    R r r' → Grows R P rows rows' → Grows R P (r :: rows) (r' :: rows')

namespace Grows

variable {R : ρ → ρ → Prop} {P P' : ρ → Prop} {rows rows' rows'' : List ρ} {r : ρ}

theorem of_forall (same : ∀ r ∈ rows, R r r) : Grows R P rows rows := by
  induction rows with
  | nil => exact .fresh (fun _ mem => nomatch mem)
  | cons r rest ih =>
    exact .kept (same r (List.mem_cons_self ..)) (ih fun r' mem => same r' (.tail r mem))

theorem refl (same : ∀ r, R r r) (rows : List ρ) : Grows R P rows rows :=
  of_forall fun r _ => same r

theorem append (same : ∀ r, R r r) {new : List ρ} (h : ∀ r ∈ new, P r) :
    Grows R P rows (rows ++ new) := by
  induction rows with
  | nil => exact .fresh h
  | cons r rest ih => exact .kept (same r) ih

theorem concat (same : ∀ r, R r r) (h : P r) : Grows R P rows (rows ++ [r]) :=
  append same fun _ mem => List.mem_singleton.mp mem ▸ h

theorem imp (weaker : ∀ r, P r → P' r) (grows : Grows R P rows rows') : Grows R P' rows rows' := by
  induction grows with
  | fresh new => exact .fresh fun r mem => weaker r (new r mem)
  | kept related _ ih => exact .kept related ih

/-- Rows of the second step that are new to the first one's table are new to its own. -/
theorem trans (compose : ∀ {a b c}, R a b → R b c → R a c) (carry : ∀ {a b}, P a → R a b → P b)
    (first : Grows R P rows rows') (second : Grows R P rows' rows'') : Grows R P rows rows'' := by
  induction first generalizing rows'' with
  | fresh new =>
    refine .fresh ?_
    induction second with
    | fresh more => exact more
    | kept related _ ih =>
      intro r mem
      rcases List.mem_cons.mp mem with rfl | later
      · exact carry (new _ (List.mem_cons_self ..)) related
      · exact ih (fun r' mem' => new r' (.tail _ mem')) r later
  | kept related _ ih =>
    cases second with
    | kept related' rest => exact .kept (compose related related') (ih rest)

theorem mem (grows : Grows R P rows rows') {r' : ρ} (h : r' ∈ rows') :
    (∃ r ∈ rows, R r r') ∨ P r' := by
  induction grows with
  | fresh new => exact .inr (new r' h)
  | kept related _ ih =>
    rcases List.mem_cons.mp h with rfl | later
    · exact .inl ⟨_, List.mem_cons_self .., related⟩
    · exact (ih later).imp_left fun ⟨r, mem, related⟩ => ⟨r, .tail _ mem, related⟩

theorem mem_left (grows : Grows R P rows rows') (h : r ∈ rows) : ∃ r' ∈ rows', R r r' := by
  induction grows with
  | fresh _ => exact nomatch h
  | kept related _ ih =>
    rcases List.mem_cons.mp h with rfl | later
    · exact ⟨_, List.mem_cons_self .., related⟩
    · exact (ih later).imp fun r' ⟨mem, related⟩ => ⟨.tail _ mem, related⟩

/-- A query whose rows stay, and get no new ones, answers the same. -/
theorem filter_eq {q : ρ → Bool} (grows : Grows R P rows rows')
    (fixed : ∀ r ∈ rows, ∀ r', R r r' → q r = true → r' = r)
    (outside : ∀ r r', R r r' → q r = false → q r' = false) (unseen : ∀ r, P r → q r = false) :
    rows'.filter q = rows.filter q := by
  induction grows with
  | fresh new =>
    exact List.filter_eq_nil_iff.mpr fun r mem => Bool.eq_false_iff.mp (unseen r (new r mem))
  | @kept r r' rows rows' related _ ih =>
    have ih := ih fun r mem => fixed r (.tail _ mem)
    cases chosen : q r with
    | true =>
      rw [fixed r (List.mem_cons_self ..) r' related chosen, List.filter_cons_of_pos chosen,
        List.filter_cons_of_pos chosen, ih]
    | false =>
      rw [List.filter_cons_of_neg (by simp [outside r r' related chosen]),
        List.filter_cons_of_neg (by simp [chosen]), ih]

variable {key : ρ → κ} [DecidableEq κ] {k : κ}

theorem lookup (keeps : ∀ r r', R r r' → key r' = key r) (grows : Grows R P rows rows')
    (found : Table.lookup key rows k = some r) :
    ∃ r', Table.lookup key rows' k = some r' ∧ R r r' := by
  induction grows with
  | fresh new => exact nomatch found
  | @kept r₀ r₀' rows rows' related _ ih =>
    unfold Table.lookup at found ih ⊢
    by_cases here : key r₀ = k
    · rw [List.find?_cons_of_pos (by simpa using here)] at found
      obtain rfl := Option.some.inj found
      exact ⟨r₀', List.find?_cons_of_pos (by simpa [keeps _ _ related] using here), related⟩
    · rw [List.find?_cons_of_neg (by simpa using here)] at found
      rw [List.find?_cons_of_neg (by simpa [keeps _ _ related] using here)]
      exact ih found

/-- Writing one row over the one that has its key. -/
theorem put (same : ∀ r, R r r) (keyed : Keyed key rows) {r₀ : ρ}
    (found : Table.lookup key rows (key r) = some r₀) (related : R r₀ r) :
    Grows R P rows (put key r rows) := by
  obtain ⟨mem, hit⟩ := lookup_some found
  have only : ∀ r' ∈ rows, key r' = key r → r' = r₀ := fun r' mem' same' =>
    keyed.inj mem' mem (same'.trans hit.symm)
  rw [put_eq_map]
  clear found mem keyed
  induction rows with
  | nil => exact .fresh (fun _ mem => nomatch mem)
  | cons r' rest ih =>
    refine .kept ?_ (ih fun r'' mem => only r'' (.tail _ mem))
    dsimp only
    split
    · rename_i here
      rw [only r' (List.mem_cons_self ..) here]
      exact related
    · exact same r'

end Grows

end RelayPool.Growth
