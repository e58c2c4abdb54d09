import Mathlib.Data.Finset.Card
import Mathlib.Logic.Relation
import Mathlib.Tactic.Common

/-! Breadth-first search with a budget.

`search` takes states from a queue, stops at a goal and otherwise queues the
successors it has not seen. It gives up (`none`) when it has taken more than
`work` states or seen more than `limit`. What it does decide is exact
(`search_exact`): it answers true precisely when a goal can be reached from the
start. Nothing is said of a search that gives up. -/
namespace RelayPool.Search

variable {σ : Type*} [DecidableEq σ]

structure Frontier (σ : Type*) where
  queue : List σ
  seen : Finset σ

/-- A state that was not seen is queued, once. -/
def discover (f : Frontier σ) (s : σ) : Frontier σ :=
  if s ∈ f.seen then f else ⟨f.queue ++ [s], insert s f.seen⟩

def search (goal : σ → Bool) (next : σ → List σ) (limit : Nat) :
    Nat → Frontier σ → Option Bool
  | _, ⟨[], _⟩ => some false
  | 0, ⟨_ :: _, _⟩ => none
  | work + 1, ⟨s :: queue, seen⟩ =>
    if limit < seen.card then
      none
    else if goal s then
      some true
    else
      search goal next limit work ((next s).foldl discover ⟨queue, seen⟩)

/-- One step of the graph the successors span. -/
def Step (next : σ → List σ) (s t : σ) : Prop := t ∈ next s

abbrev Reaches (next : σ → List σ) : σ → σ → Prop := Relation.ReflTransGen (Step next)

/-! ### Discovering -/

theorem seen_discover (f : Frontier σ) (s : σ) : (discover f s).seen = insert s f.seen := by
  unfold discover
  split
  · rename_i known
    exact (Finset.insert_eq_of_mem known).symm
  · rfl

theorem mem_queue_discover {f : Frontier σ} {s t : σ} (mem : t ∈ f.queue) :
    t ∈ (discover f s).queue := by
  unfold discover
  split
  · exact mem
  · exact List.mem_append_left _ mem

/-- What is not queued after a discovery was seen, and not queued, before it. -/
theorem old_of_discover {f : Frontier σ} {s t : σ} (seen : t ∈ (discover f s).seen)
    (waiting : t ∉ (discover f s).queue) : t ∈ f.seen ∧ t ∉ f.queue := by
  refine ⟨?_, fun mem => waiting (mem_queue_discover mem)⟩
  by_cases known : s ∈ f.seen
  · rwa [discover, if_pos known] at seen
  · rw [discover, if_neg known] at seen waiting
    rcases Finset.mem_insert.mp seen with rfl | mem
    · exact absurd (List.mem_append_right _ (List.mem_singleton_self t)) waiting
    · exact mem

/-- What a search knows: every state seen can be reached, and a state it has done with is no
goal and has had all its successors seen. The `busy` state is being expanded. -/
structure Knows (goal : σ → Bool) (next : σ → List σ) (start : σ) (busy : Option σ)
    (f : Frontier σ) : Prop where
  started : start ∈ f.seen
  queued : ∀ s ∈ f.queue, s ∈ f.seen
  reached : ∀ s ∈ f.seen, Reaches next start s
  done : ∀ s ∈ f.seen, s ∉ f.queue → busy ≠ some s →
    goal s = false ∧ ∀ t ∈ next s, t ∈ f.seen

section Exact
variable {goal : σ → Bool} {next : σ → List σ} {start : σ} {limit : Nat}

omit [DecidableEq σ] in
theorem knows_start : Knows goal next start none ⟨[start], {start}⟩ where
  started := Finset.mem_singleton_self start
  queued := fun s mem => Finset.mem_singleton.mpr (List.mem_singleton.mp mem)
  reached := by
    intro s mem
    rw [Finset.mem_singleton.mp mem]
  done := fun s mem waiting _ =>
    absurd (List.mem_singleton.mpr (Finset.mem_singleton.mp mem)) waiting

theorem Knows.discover {busy : Option σ} {f : Frontier σ} {s : σ}
    (knows : Knows goal next start busy f) (reached : Reaches next start s) :
    Knows goal next start busy (discover f s) where
  started := by
    rw [seen_discover]
    exact Finset.mem_insert_of_mem knows.started
  queued := by
    intro t mem
    rw [seen_discover]
    by_cases known : s ∈ f.seen
    · rw [Search.discover, if_pos known] at mem
      exact Finset.mem_insert_of_mem (knows.queued t mem)
    · rw [Search.discover, if_neg known] at mem
      rcases List.mem_append.mp mem with old | new
      · exact Finset.mem_insert_of_mem (knows.queued t old)
      · rw [List.mem_singleton.mp new]
        exact Finset.mem_insert_self s _
  reached := by
    intro t mem
    rw [seen_discover] at mem
    rcases Finset.mem_insert.mp mem with rfl | old
    · exact reached
    · exact knows.reached t old
  done := by
    intro t seen waiting idle
    obtain ⟨old, settled⟩ := old_of_discover seen waiting
    obtain ⟨plain, all⟩ := knows.done t old settled idle
    refine ⟨plain, fun u mem => ?_⟩
    rw [seen_discover]
    exact Finset.mem_insert_of_mem (all u mem)

theorem Knows.discover_all {busy : Option σ} {f : Frontier σ}
    (knows : Knows goal next start busy f) :
    ∀ {states : List σ}, (∀ s ∈ states, Reaches next start s) →
      Knows goal next start busy (states.foldl Search.discover f)
  | [], _ => knows
  | s :: _, reached =>
    (knows.discover (reached s List.mem_cons_self)).discover_all
      fun t mem => reached t (List.mem_cons_of_mem _ mem)

theorem mem_seen_foldl {f : Frontier σ} {states : List σ} {t : σ} :
    t ∈ (states.foldl discover f).seen ↔ t ∈ states ∨ t ∈ f.seen := by
  induction states generalizing f with
  | nil => simp
  | cons s states ih =>
    rw [List.foldl_cons, ih, seen_discover, Finset.mem_insert, List.mem_cons]
    tauto

/-- Expanding a taken state that is no goal leaves nothing busy. -/
theorem Knows.expand {s : σ} {queue : List σ} {seen : Finset σ}
    (knows : Knows goal next start none ⟨s :: queue, seen⟩) (plain : goal s = false) :
    Knows goal next start none ((next s).foldl Search.discover ⟨queue, seen⟩) := by
  have reached := knows.reached s (knows.queued s List.mem_cons_self)
  have taken : Knows goal next start (some s) ⟨queue, seen⟩ :=
    { started := knows.started
      queued := fun t mem => knows.queued t (List.mem_cons_of_mem s mem)
      reached := knows.reached
      done := fun t mem waiting idle =>
        knows.done t mem (fun queued => (List.mem_cons.mp queued).elim
          (fun same => idle (congrArg some same.symm)) waiting) nofun }
  have expanded := taken.discover_all fun t (mem : t ∈ next s) => reached.tail mem
  refine { expanded with done := fun t mem waiting _ => ?_ }
  by_cases same : t = s
  · subst same
    exact ⟨plain, fun u next => mem_seen_foldl.mpr (.inl next)⟩
  · exact expanded.done t mem waiting fun equal => same (Option.some.inj equal).symm

omit [DecidableEq σ] in
/-- A search that has run out of states has seen everything that can be reached. -/
theorem Knows.exhausted {seen : Finset σ} (knows : Knows goal next start none ⟨[], seen⟩)
    {s : σ} (reached : Reaches next start s) : s ∈ seen := by
  induction reached with
  | refl => exact knows.started
  | tail _ step ih => exact (knows.done _ ih List.not_mem_nil nofun).2 _ step

theorem Knows.search {work : Nat} {f : Frontier σ} {found : Bool}
    (knows : Knows goal next start none f)
    (decided : Search.search goal next limit work f = some found) :
    found = true ↔ ∃ s, Reaches next start s ∧ goal s = true := by
  fun_induction Search.search goal next limit work f with
  | case1 _ seen =>
    obtain rfl : false = found := Option.some.inj decided
    refine ⟨nofun, fun ⟨s, reached, hit⟩ => ?_⟩
    rw [(knows.done s (knows.exhausted reached) List.not_mem_nil nofun).1] at hit
    exact absurd hit nofun
  | case2 => exact absurd decided nofun
  | case3 => exact absurd decided nofun
  | case4 work s queue seen _ hit =>
    obtain rfl : true = found := Option.some.inj decided
    exact ⟨fun _ => ⟨s, knows.reached s (knows.queued s List.mem_cons_self), hit⟩, fun _ => rfl⟩
  | case5 work s queue seen _ plain ih =>
    exact ih (knows.expand (Bool.eq_false_iff.mpr plain)) decided

/-- What a search that does not give up answers is exact. -/
theorem search_exact {work : Nat} {found : Bool}
    (decided : search goal next limit work ⟨[start], {start}⟩ = some found) :
    found = true ↔ ∃ s, Reaches next start s ∧ goal s = true :=
  knows_start.search decided

end Exact

end RelayPool.Search
