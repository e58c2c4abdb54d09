import Mathlib.Data.List.Sort
import Mathlib.Data.String.Basic
import Mathlib.Tactic.Common

/-! Rankings by a comparison.

`sortBy` orders a list by a three-way comparison, keeping equal entries in their
order. When no two entries of a list compare equal, its ranking is the same for
every order the entries came in (`sortBy_eq_of_perm`); what a scan for the best
or for the only entry of a kind finds does not depend on that order either
(`max_eq_of_perm`, `min_eq_of_perm`, `find_eq_of_perm`). -/
namespace RelayPool.Ranking

variable {α β : Type}

def sortBy (cmp : α → α → Ordering) (l : List α) : List α :=
  l.insertionSort fun a b => (cmp a b).isLE = true

theorem sortBy_perm (cmp : α → α → Ordering) (l : List α) : (sortBy cmp l).Perm l :=
  List.perm_insertionSort _ _

@[simp] theorem mem_sortBy {cmp : α → α → Ordering} {l : List α} {a : α} :
    a ∈ sortBy cmp l ↔ a ∈ l := (sortBy_perm cmp l).mem_iff

@[simp] theorem sortBy_eq_nil {cmp : α → α → Ordering} {l : List α} :
    sortBy cmp l = [] ↔ l = [] := by
  rw [← List.length_eq_zero_iff, (sortBy_perm cmp l).length_eq, List.length_eq_zero_iff]

/-- Entries compared by what a function makes of them. -/
def comparing (cmp : α → α → Ordering) (f : β → α) (a b : β) : Ordering := cmp (f a) (f b)

instance (cmp : α → α → Ordering) [Std.TransCmp cmp] (f : β → α) :
    Std.TransCmp (comparing cmp f) where
  eq_swap := (inferInstance : Std.TransCmp cmp).eq_swap
  isLE_trans := (inferInstance : Std.TransCmp cmp).isLE_trans

theorem sortBy_map (cmp : α → α → Ordering) (f : β → α) (l : List β) :
    sortBy cmp (l.map f) = (sortBy (comparing cmp f) l).map f :=
  (List.map_insertionSort (fun a b => (comparing cmp f a b).isLE = true)
    (fun a b => (cmp a b).isLE = true) f l fun _ _ _ _ => Iff.rfl).symm

theorem sortBy_congr {cmp cmp' : α → α → Ordering} {l : List α}
    (same : ∀ a ∈ l, ∀ b ∈ l, cmp a b = cmp' a b) : sortBy cmp l = sortBy cmp' l := by
  have sorted := List.map_insertionSort (fun a b => (cmp a b).isLE = true)
    (fun a b => (cmp' a b).isLE = true) id l fun a mema b memb => by
      rw [same a mema b memb]
      rfl
  rw [List.map_id, List.map_id] at sorted
  exact sorted

section Order
variable (cmp : α → α → Ordering) [Std.TransCmp cmp]

/-- No entry stands before one it compares greater than. -/
theorem sortBy_pairwise (l : List α) : (sortBy cmp l).Pairwise fun a b => (cmp a b).isLE := by
  have total : Std.Total fun a b => (cmp a b).isLE = true := by
    refine ⟨fun a b => ?_⟩
    have swap : cmp b a = (cmp a b).swap := Std.OrientedCmp.eq_swap
    rw [swap]
    cases cmp a b <;> simp
  have trans : IsTrans α fun a b => (cmp a b).isLE = true :=
    ⟨fun a b c hab hbc => Std.TransCmp.isLE_trans hab hbc⟩
  exact List.pairwise_insertionSort _ l

/-- The ranking of a list in which no two entries compare equal is the same for
every order they came in. -/
theorem sortBy_eq_of_perm {l₁ l₂ : List α} (perm : l₁.Perm l₂)
    (distinct : ∀ a ∈ l₁, ∀ b ∈ l₁, cmp a b = .eq → a = b) : sortBy cmp l₁ = sortBy cmp l₂ := by
  refine List.Perm.eq_of_pairwise ?_ (sortBy_pairwise cmp l₁) (sortBy_pairwise cmp l₂)
    ((sortBy_perm cmp l₁).trans (perm.trans (sortBy_perm cmp l₂).symm))
  intro a b ha hb hab hba
  rw [mem_sortBy] at ha hb
  refine distinct a ha b (perm.mem_iff.mpr hb) ?_
  have swap : cmp b a = (cmp a b).swap := Std.OrientedCmp.eq_swap
  rw [swap] at hba
  cases h : cmp a b <;> simp_all

omit [Std.TransCmp cmp] in
/-- An entry at most equal to all of a list is inserted at its front. -/
theorem orderedInsert_of_first {a : α} {l : List α} (first : ∀ b ∈ l, (cmp a b).isLE = true) :
    l.orderedInsert (fun a b => (cmp a b).isLE = true) a = a :: l := by
  cases l with
  | nil => rfl
  | cons b l => exact List.orderedInsert_cons_of_le _ l (first b List.mem_cons_self)

theorem filter_orderedInsert (p : α → Bool) (a : α) {l : List α}
    (sorted : l.Pairwise fun a b => (cmp a b).isLE = true) :
    (l.orderedInsert (fun a b => (cmp a b).isLE = true) a).filter p =
      if p a then (l.filter p).orderedInsert (fun a b => (cmp a b).isLE = true) a
      else l.filter p := by
  induction l with
  | nil => cases kept : p a <;> simp [kept]
  | cons b l ih =>
    obtain ⟨head, tail⟩ := List.pairwise_cons.mp sorted
    by_cases before : (cmp a b).isLE = true
    · have first : ∀ c ∈ (b :: l).filter p, (cmp a c).isLE = true := by
        intro c mem
        rcases List.mem_cons.mp (List.mem_filter.mp mem).1 with rfl | later
        · exact before
        · exact Std.TransCmp.isLE_trans before (head c later)
      rw [List.orderedInsert_cons_of_le _ l before, orderedInsert_of_first cmp first]
      cases kept : p a <;> simp [kept]
    · rw [List.orderedInsert_of_not_le _ l before]
      cases kept : p b with
      | false =>
        rw [List.filter_cons_of_neg (by simp [kept]), List.filter_cons_of_neg (by simp [kept]),
          ih tail]
      | true =>
        have passed := List.orderedInsert_of_not_le (fun a b => (cmp a b).isLE = true)
          (l.filter p) before
        rw [List.filter_cons_of_pos kept, List.filter_cons_of_pos kept, ih tail, passed]
        cases p a <;> rfl

/-- Ranking what a filter keeps is filtering the ranking. -/
theorem sortBy_filter (l : List α) (p : α → Bool) :
    sortBy cmp (l.filter p) = (sortBy cmp l).filter p := by
  induction l with
  | nil => rfl
  | cons a l ih =>
    have insertion := filter_orderedInsert cmp p a (sortBy_pairwise cmp l)
    show _ = ((sortBy cmp l).orderedInsert _ a).filter p
    rw [insertion, ← ih]
    cases kept : p a <;> simp [kept, sortBy]

end Order

/-! ### Where an entry stands -/

/-- Of two entries of a list without repetitions one stands ahead of the other. -/
theorem ahead_or {l : List α} {a b : α} (mema : a ∈ l) (memb : b ∈ l) (ne : a ≠ b) :
    [a, b].Sublist l ∨ [b, a].Sublist l := by
  induction l with
  | nil => cases mema
  | cons c l ih =>
    rcases List.mem_cons.mp mema with rfl | mema
    · have later := (List.mem_cons.mp memb).resolve_left ne.symm
      exact .inl ((List.singleton_sublist.mpr later).cons_cons _)
    · rcases List.mem_cons.mp memb with same | memb
      · rw [same]
        exact .inr ((List.singleton_sublist.mpr mema).cons_cons _)
      · exact (ih mema memb).imp (·.cons c) (·.cons c)

theorem not_both_ahead {l : List α} (nodup : l.Nodup) {a b : α} (ahead : [a, b].Sublist l) :
    ¬ [b, a].Sublist l := by
  induction l with
  | nil => cases ahead
  | cons c l ih =>
    obtain ⟨fresh, nodup⟩ := List.nodup_cons.mp nodup
    intro behind
    cases ahead with
    | cons _ ahead =>
      cases behind with
      | cons _ behind => exact ih nodup ahead behind
      | cons_cons _ behind => exact fresh (ahead.subset (by simp))
    | cons_cons _ ahead =>
      cases behind with
      | cons _ behind => exact fresh (behind.subset (by simp))
      | cons_cons _ behind => exact fresh (List.singleton_sublist.mp ahead)

theorem ahead_append {l r : List α} {a b : α} (mem : b ∈ l) : [b, a].Sublist (l ++ a :: r) :=
  (List.singleton_sublist.mpr mem).append ((List.nil_sublist r).cons_cons a)

/-- An entry that nothing new stands ahead of does not stand later. -/
theorem idxOf_le_of_ahead [BEq α] [LawfulBEq α] {l l' : List α} {a : α} (nodup : l.Nodup)
    (nodup' : l'.Nodup) (mem : a ∈ l) (mem' : a ∈ l')
    (ahead : ∀ b, [b, a].Sublist l' → [b, a].Sublist l) : l'.idxOf a ≤ l.idxOf a := by
  obtain ⟨before, after, rfl⟩ := List.append_of_mem mem
  obtain ⟨before', after', rfl⟩ := List.append_of_mem mem'
  have here : a ∉ before := fun early =>
    (List.nodup_append.mp nodup).2.2 a early a List.mem_cons_self rfl
  have there : a ∉ before' := fun early =>
    (List.nodup_append.mp nodup').2.2 a early a List.mem_cons_self rfl
  rw [List.idxOf_append_of_notMem here, List.idxOf_append_of_notMem there, List.idxOf_cons_self,
    List.idxOf_cons_self]
  refine Nat.add_le_add_right (List.subperm_of_subset (List.nodup_append.mp nodup').1
    fun b early => ?_).length_le 0
  -- what stands before the entry now stood before it
  have stood := ahead b (ahead_append early)
  have other : b ≠ a := fun same => there (same ▸ early)
  rcases List.mem_append.mp (stood.subset List.mem_cons_self) with early | late
  · exact early
  · have late := (List.mem_cons.mp late).resolve_left other
    have behind : [a, b].Sublist (before ++ a :: after) :=
      ((List.singleton_sublist.mpr late).cons_cons a).trans (List.sublist_append_right ..)
    exact absurd stood (not_both_ahead nodup behind)

/-- Equal entries keep their order. -/
theorem pair_sublist_sortBy {cmp : α → α → Ordering} {l : List α} {a b : α}
    (le : (cmp a b).isLE = true) (ahead : [a, b].Sublist l) : [a, b].Sublist (sortBy cmp l) :=
  List.pair_sublist_insertionSort (r := fun a b => (cmp a b).isLE = true) le ahead

/-- An entry that compares lower than it did, to all others, does not rank later. -/
theorem idxOf_sortBy_le [BEq α] [LawfulBEq α] (cmp cmp' : α → α → Ordering) [Std.TransCmp cmp]
    [Std.TransCmp cmp'] {l : List α} (nodup : l.Nodup) {a : α} (mem : a ∈ l)
    (lower : ∀ b ∈ l, cmp a b = .lt → cmp' a b = .lt)
    (level : ∀ b ∈ l, cmp a b = .eq → (cmp' a b).isLE = true) :
    (sortBy cmp' l).idxOf a ≤ (sortBy cmp l).idxOf a := by
  have ranked := (sortBy_perm cmp l).nodup_iff.mpr nodup
  have ranked' := (sortBy_perm cmp' l).nodup_iff.mpr nodup
  refine idxOf_le_of_ahead ranked ranked' (mem_sortBy.mpr mem) (mem_sortBy.mpr mem) fun b now => ?_
  have memb : b ∈ l := mem_sortBy.mp (now.subset List.mem_cons_self)
  have other : b ≠ a := by
    rintro rfl
    exact not_both_ahead ranked' now now
  rcases ahead_or (mem_sortBy.mpr memb) (mem_sortBy.mpr mem) other with stood | behind
  · exact stood
  -- `a` stood ahead of `b`, so it still does
  refine absurd now (not_both_ahead ranked' ?_)
  have order := List.pairwise_pair.mp ((sortBy_pairwise cmp l).sublist behind)
  have order' := List.pairwise_pair.mp ((sortBy_pairwise cmp' l).sublist now)
  have swap : cmp' b a = (cmp' a b).swap := Std.OrientedCmp.eq_swap
  cases compared : cmp a b with
  | gt => rw [compared] at order; cases order
  | lt =>
    rw [swap, lower b memb compared] at order'
    cases order'
  | eq =>
    have entered : [a, b].Sublist l := by
      rcases ahead_or mem memb other.symm with entered | entered
      · exact entered
      · have swap : cmp b a = (cmp a b).swap := Std.OrientedCmp.eq_swap
        have tied : (cmp b a).isLE = true := by rw [swap, compared]; rfl
        exact absurd (pair_sublist_sortBy tied entered) (not_both_ahead ranked behind)
    exact pair_sublist_sortBy (level b memb compared) entered

/-- A search finds the first entry that satisfies the condition. -/
theorem first_of_find {R : α → α → Prop} {l : List α} (sorted : l.Pairwise R) {p : α → Bool}
    {a b : α} (found : l.find? p = some a) (mem : b ∈ l) (holds : p b = true) :
    a = b ∨ R a b := by
  obtain ⟨-, before, after, rfl, skipped⟩ := List.find?_eq_some_iff_append.mp found
  rcases List.mem_append.mp mem with early | late
  · exact absurd holds (by simpa using skipped b early)
  · rcases List.mem_cons.mp late with rfl | late
    · exact .inl rfl
    · exact .inr ((List.pairwise_cons.mp (List.pairwise_append.mp sorted).2.1).1 b late)

/-- A filter that keeps what a search finds does not change the search. -/
theorem find_filter_of_kept {l : List α} {p q : α → Bool}
    (kept : ∀ a, l.find? p = some a → q a = true) : (l.filter q).find? p = l.find? p := by
  induction l with
  | nil => rfl
  | cons a l ih =>
    by_cases holds : p a = true
    · have here : q a = true := kept a (by rw [List.find?_cons_of_pos holds])
      rw [List.filter_cons_of_pos here, List.find?_cons_of_pos holds, List.find?_cons_of_pos holds]
    · rw [List.find?_cons_of_neg holds] at kept ⊢
      by_cases here : q a = true
      · rw [List.filter_cons_of_pos here, List.find?_cons_of_neg holds, ih kept]
      · rw [List.filter_cons_of_neg here, ih kept]

/-- Nothing in the list is below the head of its ranking. -/
theorem head_le_of_sorted {le : α → α → Prop} (refl : ∀ a, le a a) {l : List α} {a : α}
    (sorted : l.Pairwise le) (head : l.head? = some a) {b : α} (hb : b ∈ l) : le a b := by
  cases l with
  | nil => cases hb
  | cons c l =>
    cases head
    rcases List.mem_cons.mp hb with rfl | hb
    · exact refl _
    · exact (List.pairwise_cons.mp sorted).1 b hb

section Scans
variable [LinearOrder β]

theorem max_eq_of_perm {l₁ l₂ : List β} (perm : l₁.Perm l₂) : l₁.max? = l₂.max? := by
  cases h : l₁.max? with
  | none =>
    rw [List.max?_eq_none_iff] at h
    rw [h] at perm
    rw [perm.symm.eq_nil, List.max?_nil]
  | some m =>
    rw [List.max?_eq_some_iff] at h
    rw [eq_comm, List.max?_eq_some_iff]
    exact ⟨perm.mem_iff.mp h.1, fun b hb => h.2 b (perm.mem_iff.mpr hb)⟩

theorem min_eq_of_perm {l₁ l₂ : List β} (perm : l₁.Perm l₂) : l₁.min? = l₂.min? := by
  cases h : l₁.min? with
  | none =>
    rw [List.min?_eq_none_iff] at h
    rw [h] at perm
    rw [perm.symm.eq_nil, List.min?_nil]
  | some m =>
    rw [List.min?_eq_some_iff] at h
    rw [eq_comm, List.min?_eq_some_iff]
    exact ⟨perm.mem_iff.mp h.1, fun b hb => h.2 b (perm.mem_iff.mpr hb)⟩

end Scans

/-- A search for an entry that is the only one of its kind. -/
theorem find_eq_of_perm {p : α → Bool} {l₁ l₂ : List α} (perm : l₁.Perm l₂)
    (unique : ∀ a ∈ l₁, ∀ b ∈ l₁, p a → p b → a = b) : l₁.find? p = l₂.find? p := by
  cases h : l₁.find? p with
  | none =>
    rw [List.find?_eq_none] at h
    rw [eq_comm, List.find?_eq_none]
    exact fun a ha => h a (perm.mem_iff.mpr ha)
  | some a =>
    have ha := List.mem_of_find?_eq_some h
    have hp := List.find?_some h
    cases h' : l₂.find? p with
    | none => exact absurd hp (List.find?_eq_none.mp h' a (perm.mem_iff.mp ha))
    | some b =>
      have hb := perm.mem_iff.mpr (List.mem_of_find?_eq_some h')
      rw [unique a ha b hb hp (List.find?_some h')]

/-- The entry a search by a key finds, when keys are distinct. -/
theorem find_of_nodup {κ : Type} [DecidableEq κ] {key : α → κ} {l : List α}
    (nodup : (l.map key).Nodup) {a : α} (ha : a ∈ l) :
    l.find? (fun b => decide (key b = key a)) = some a := by
  cases h : l.find? (fun b => decide (key b = key a)) with
  | none => simpa using List.find?_eq_none.mp h a ha
  | some b =>
    have hb := List.mem_of_find?_eq_some h
    have hk : key b = key a := by simpa using List.find?_some h
    rw [List.inj_on_of_nodup_map nodup hb ha hk]

/-- What a selection keeps, seen through a key, is part of what was there. -/
theorem map_filterMap_sublist {γ : Type} {f : α → Option β} {key : β → γ} {key' : α → γ}
    (kept : ∀ a b, f a = some b → key b = key' a) (l : List α) :
    ((l.filterMap f).map key).Sublist (l.map key') := by
  induction l with
  | nil => exact .slnil
  | cons a l ih =>
    cases h : f a with
    | none =>
      rw [List.filterMap_cons_none h]
      exact ih.cons _
    | some b =>
      rw [List.filterMap_cons_some h, List.map_cons, List.map_cons, kept a b h]
      exact ih.cons_cons _

end RelayPool.Ranking
