import Mathlib.Data.Finset.Lattice.Lemmas
import Mathlib.Data.Finset.SDiff

/-! The first items of a list under each of their keys.

A scan keeps an item when no item before it has its key; items without a key are
dropped. A scan that remembers the keys it has seen can stop and go on later
(`firsts_append`). -/
namespace RelayPool.Distinct

variable {α κ : Type*} [DecidableEq κ] (key : α → Option κ)

/-- The keys of the items. -/
def keysOf (items : List α) : Finset κ := (items.filterMap key).toFinset

/-- The items that are the first under their key, and whose key was not seen. -/
def firsts : Finset κ → List α → List α
  | _, [] => []
  | seen, item :: rest =>
    match key item with
    | none => firsts seen rest
    | some k => if k ∈ seen then firsts seen rest else item :: firsts (insert k seen) rest

variable {key}

theorem keysOf_cons_none {item : α} {rest : List α} (h : key item = none) :
    keysOf key (item :: rest) = keysOf key rest := by
  rw [keysOf, List.filterMap_cons_none h, keysOf]

theorem keysOf_cons_some {item : α} {rest : List α} {k : κ} (h : key item = some k) :
    keysOf key (item :: rest) = insert k (keysOf key rest) := by
  rw [keysOf, List.filterMap_cons_some h, List.toFinset_cons, keysOf]

theorem keysOf_append (items items' : List α) :
    keysOf key (items ++ items') = keysOf key items ∪ keysOf key items' := by
  rw [keysOf, List.filterMap_append, List.toFinset_append, keysOf, keysOf]

theorem firsts_append (seen : Finset κ) (items items' : List α) :
    firsts key seen (items ++ items') =
      firsts key seen items ++ firsts key (seen ∪ keysOf key items) items' := by
  induction items generalizing seen with
  | nil => simp [firsts, keysOf]
  | cons item rest ih =>
    rw [List.cons_append, firsts, firsts]
    cases h : key item with
    | none =>
      rw [keysOf_cons_none h]
      exact ih seen
    | some k =>
      rw [keysOf_cons_some h]
      dsimp only
      split
      · rename_i known
        rw [ih seen, Finset.union_insert, Finset.insert_eq_of_mem (Finset.mem_union_left _ known)]
      · rw [ih, List.cons_append, Finset.insert_union, ← Finset.union_insert]

/-- Every key is kept once, unless it was seen. -/
theorem keysOf_firsts (seen : Finset κ) (items : List α) :
    keysOf key (firsts key seen items) = keysOf key items \ seen := by
  induction items generalizing seen with
  | nil => simp [firsts, keysOf]
  | cons item rest ih =>
    rw [firsts]
    cases h : key item with
    | none =>
      rw [keysOf_cons_none h]
      exact ih seen
    | some k =>
      rw [keysOf_cons_some h]
      dsimp only
      split
      · rename_i known
        rw [ih seen, Finset.insert_sdiff_of_mem _ known]
      · rename_i unknown
        rw [keysOf_cons_some h, ih, Finset.insert_sdiff_of_notMem _ unknown]
        ext k'
        simp only [Finset.mem_insert, Finset.mem_sdiff, not_or]
        tauto

theorem firsts_nodup (seen : Finset κ) (items : List α) :
    ((firsts key seen items).filterMap key).Nodup := by
  induction items generalizing seen with
  | nil => exact List.nodup_nil
  | cons item rest ih =>
    rw [firsts]
    cases h : key item with
    | none => exact ih seen
    | some k =>
      dsimp only
      split
      · exact ih seen
      · rw [List.filterMap_cons_some h]
        refine List.nodup_cons.mpr ⟨fun again => ?_, ih _⟩
        have seenAgain : k ∈ keysOf key (firsts key (insert k seen) rest) :=
          List.mem_toFinset.mpr again
        rw [keysOf_firsts, Finset.mem_sdiff] at seenAgain
        exact seenAgain.2 (Finset.mem_insert_self k seen)

/-- Nothing is kept only when no item has a key. -/
theorem firsts_eq_nil {items : List α} :
    firsts key ∅ items = [] ↔ ∀ item ∈ items, key item = none := by
  constructor
  · intro none item member
    have keys : keysOf key (firsts key ∅ items) = keysOf key items \ ∅ := keysOf_firsts ∅ items
    rw [none, Finset.sdiff_empty] at keys
    by_contra some_
    obtain ⟨k, hk⟩ := Option.ne_none_iff_exists'.mp some_
    have : k ∈ keysOf key items := List.mem_toFinset.mpr (List.mem_filterMap.mpr ⟨item, member, hk⟩)
    rw [← keys] at this
    simp [keysOf] at this
  · intro none
    induction items with
    | nil => rfl
    | cons item rest ih =>
      rw [firsts, none item (List.mem_cons_self ..)]
      exact ih fun i hi => none i (List.mem_cons_of_mem item hi)

end RelayPool.Distinct
