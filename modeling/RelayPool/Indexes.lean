import RelayPool.Table

/-! Indexes of keyed tables.

A row carries names, and an index takes a name to the key of the row that carries it. The
index is exact (`Indexed`) when it has the names of the rows and no others; it stays so when a
row with new names is added and its names are entered (`Indexed.concat`), and when a row is
removed and its names are taken out (`Indexed.remove`). No name is then carried twice
(`Indexed.unique`). -/
namespace RelayPool.Indexes
open Table

variable {ρ κ ν : Type}

section Names
variable [DecidableEq ν]

def insertAll (index : ν → Option κ) (names : List ν) (k : κ) : ν → Option κ :=
  names.foldl (fun index name => Function.update index name (some k)) index

def removeAll (index : ν → Option κ) (names : List ν) : ν → Option κ :=
  names.foldl (fun index name => Function.update index name none) index

theorem foldl_update_apply (entry : Option κ) (index : ν → Option κ) (names : List ν) (name : ν) :
    names.foldl (fun index name => Function.update index name entry) index name =
      if name ∈ names then entry else index name := by
  induction names generalizing index with
  | nil => rfl
  | cons first rest ih =>
    rw [List.foldl_cons, ih]
    by_cases later : name ∈ rest
    · rw [if_pos later, if_pos (List.mem_cons_of_mem _ later)]
    · by_cases here : name = first
      · rw [if_neg later, if_pos (here ▸ List.mem_cons_self ..), here, Function.update_self]
      · have other : name ∉ first :: rest := fun mem => (List.mem_cons.mp mem).elim here later
        rw [if_neg later, if_neg other, Function.update_of_ne here]

theorem insertAll_apply (index : ν → Option κ) (names : List ν) (k : κ) (name : ν) :
    insertAll index names k name = if name ∈ names then some k else index name :=
  foldl_update_apply (some k) index names name

theorem removeAll_apply (index : ν → Option κ) (names : List ν) (name : ν) :
    removeAll index names name = if name ∈ names then none else index name :=
  foldl_update_apply none index names name

end Names

/-- The index has the names that the rows carry, each for the key of its row. -/
def Indexed (key : ρ → κ) (names : ρ → List ν) (rows : List ρ) (index : ν → Option κ) : Prop :=
  ∀ name k, index name = some k ↔ ∃ r ∈ rows, key r = k ∧ name ∈ names r

variable {key : ρ → κ} {names : ρ → List ν} {rows : List ρ} {index : ν → Option κ} {r : ρ}

theorem Indexed.empty : Indexed key names [] fun _ => none := by simp [Indexed]

theorem Indexed.none_iff (indexed : Indexed key names rows index) {name : ν} :
    index name = none ↔ ∀ r ∈ rows, name ∉ names r := by
  constructor
  · intro absent r mem carried
    have entered := (indexed name (key r)).mpr ⟨r, mem, rfl, carried⟩
    cases absent.symm.trans entered
  · intro absent
    refine Option.eq_none_iff_forall_ne_some.mpr fun k entered => ?_
    obtain ⟨r, mem, -, carried⟩ := (indexed name k).mp entered
    exact absent r mem carried

/-- A name is carried by one row. -/
theorem Indexed.unique (indexed : Indexed key names rows index) (keyed : Keyed key rows)
    [DecidableEq κ] {r' : ρ} (mem : r ∈ rows) (mem' : r' ∈ rows) {name : ν}
    (carried : name ∈ names r) (carried' : name ∈ names r') : r = r' := by
  have entered := (indexed name (key r)).mpr ⟨r, mem, rfl, carried⟩
  have entered' := (indexed name (key r')).mpr ⟨r', mem', rfl, carried'⟩
  exact keyed.inj mem mem' (Option.some.inj (entered.symm.trans entered'))

theorem Indexed.concat [DecidableEq ν] (indexed : Indexed key names rows index)
    (fresh : ∀ name ∈ names r, index name = none) :
    Indexed key names (rows ++ [r]) (insertAll index (names r) (key r)) := by
  intro name k
  rw [insertAll_apply]
  constructor
  · intro entered
    split at entered
    · rename_i carried
      exact ⟨r, List.mem_append_right _ (List.mem_singleton_self r), Option.some.inj entered, carried⟩
    · obtain ⟨r', mem, is, carried⟩ := (indexed name k).mp entered
      exact ⟨r', List.mem_append_left _ mem, is, carried⟩
  · rintro ⟨r', mem, is, carried⟩
    rcases List.mem_append.mp mem with mem | last
    · have old : name ∉ names r := fun carriedNow =>
        indexed.none_iff.mp (fresh name carriedNow) r' mem carried
      rw [if_neg old]
      exact (indexed name k).mpr ⟨r', mem, is, carried⟩
    · obtain rfl := List.mem_singleton.mp last
      rw [if_pos carried, is]

theorem Indexed.remove [DecidableEq κ] [DecidableEq ν] (indexed : Indexed key names rows index)
    (keyed : Keyed key rows) (mem : r ∈ rows) :
    Indexed key names (rows.filter (key · ≠ key r)) (removeAll index (names r)) := by
  intro name k
  rw [removeAll_apply]
  constructor
  · intro entered
    split at entered
    · cases entered
    · rename_i notCarried
      obtain ⟨r', mem', is, carried⟩ := (indexed name k).mp entered
      refine ⟨r', List.mem_filter.mpr ⟨mem', decide_eq_true fun same => notCarried ?_⟩, is, carried⟩
      rwa [← keyed.inj mem' mem same]
  · rintro ⟨r', kept, is, carried⟩
    obtain ⟨mem', other⟩ := List.mem_filter.mp kept
    have notCarried : name ∉ names r := fun carriedToo =>
      of_decide_eq_true other (congrArg key (indexed.unique keyed mem' mem carried carriedToo))
    rw [if_neg notCarried]
    exact (indexed name k).mpr ⟨r', mem', is, carried⟩

/-- What is removed is what pointed to the row. -/
theorem Indexed.removeAll_eq [DecidableEq κ] [DecidableEq ν]
    (indexed : Indexed key names rows index) (keyed : Keyed key rows) (mem : r ∈ rows) (name : ν) :
    removeAll index (names r) name = (index name).filter (· ≠ key r) := by
  rw [removeAll_apply]
  split
  · rename_i carried
    rw [(indexed name (key r)).mpr ⟨r, mem, rfl, carried⟩, Option.filter_some, if_neg (by simp)]
  · rename_i notCarried
    cases entered : index name with
    | none => rfl
    | some k =>
      obtain ⟨r', mem', rfl, carried⟩ := (indexed name k).mp entered
      have other : key r' ≠ key r := fun same => notCarried (keyed.inj mem' mem same ▸ carried)
      rw [Option.filter_some, if_pos (decide_eq_true other)]

/-- A row and the rows with other keys. -/
theorem perm_cons_filter [DecidableEq κ] (keyed : Keyed key rows) (mem : r ∈ rows) :
    rows.Perm (r :: rows.filter (key · ≠ key r)) := by
  induction rows with
  | nil => exact (nomatch mem)
  | cons first rest ih =>
    obtain ⟨fresh, keyed⟩ := List.nodup_cons.mp keyed
    rcases List.mem_cons.mp mem with rfl | later
    · have others : rest.filter (key · ≠ key r) = rest := List.filter_eq_self.mpr fun r' mem' =>
        decide_eq_true fun same => fresh (same ▸ List.mem_map_of_mem mem')
      rw [List.filter_cons_of_neg (by simp), others]
    · have other : key first ≠ key r := fun same => fresh (same ▸ List.mem_map_of_mem later)
      rw [List.filter_cons_of_pos (by simpa using other)]
      exact ((ih keyed later).cons first).trans (.swap ..)

end RelayPool.Indexes
