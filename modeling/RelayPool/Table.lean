import Mathlib.Data.List.Nodup
import Mathlib.Data.List.Sort

/-! Tables as lists of rows.

A statement with a WHERE clause rewrites the rows that satisfy it (`updateWhere`);
a query with an order and a limit reads a `page`. A table whose rows are told apart
by a key answers lookups by it, and every statement says what it does to them
(`lookup_updateWhere`, `lookup_filter`, `lookup_concat`), so that what happens to one
row is read off without the others. -/
namespace RelayPool.Table

variable {ρ κ : Type*}

def updateWhere (p : ρ → Bool) (f : ρ → ρ) (rows : List ρ) : List ρ :=
  rows.map fun r => if p r then f r else r

/-- The first rows that satisfy `p`, in the order `le`. -/
def page (le : ρ → ρ → Prop) [DecidableRel le] (limit : Nat) (p : ρ → Bool) (rows : List ρ) :
    List ρ :=
  ((rows.filter p).insertionSort le).take limit

theorem mem_of_mem_page {le : ρ → ρ → Prop} [DecidableRel le] {limit : Nat} {p : ρ → Bool}
    {rows : List ρ} {r : ρ} (h : r ∈ page le limit p rows) : r ∈ rows ∧ p r :=
  List.mem_filter.mp ((List.mem_insertionSort le).mp (List.mem_of_mem_take h))

theorem nodup_page {le : ρ → ρ → Prop} [DecidableRel le] {limit : Nat} {p : ρ → Bool}
    {rows : List ρ} (distinct : rows.Nodup) : (page le limit p rows).Nodup :=
  (((List.perm_insertionSort le _).nodup_iff.mpr (distinct.filter p)).sublist
    (List.take_sublist limit _))

/-! ### Places on a page -/

theorem length_page {le : ρ → ρ → Prop} [DecidableRel le] {limit : Nat} {p : ρ → Bool}
    {rows : List ρ} : (page le limit p rows).length = min limit (rows.countP p) := by
  rw [page, List.length_take, List.length_insertionSort, List.countP_eq_length_filter]

/-- In a sorted list the first `n` are those with fewer than `n` before them. -/
theorem mem_take_iff {le : ρ → ρ → Prop} [DecidableRel le] {sorted : List ρ}
    (ordered : sorted.Pairwise le) (refl : ∀ r, le r r) (distinct : sorted.Nodup)
    (antisymm : ∀ a ∈ sorted, ∀ b ∈ sorted, le a b → le b a → a = b) {r : ρ} (mem : r ∈ sorted)
    {n : Nat} : r ∈ sorted.take n ↔ sorted.countP (¬ le r ·) < n := by
  induction sorted generalizing n with
  | nil => exact (nomatch mem)
  | cons a rest ih =>
    obtain ⟨first, ordered⟩ := List.pairwise_cons.mp ordered
    obtain ⟨fresh, distinct⟩ := List.nodup_cons.mp distinct
    cases n with
    | zero => simp
    | succ n =>
      rw [List.take_succ_cons, List.mem_cons, List.countP_cons]
      rcases List.mem_cons.mp mem with rfl | later
      · have none : rest.countP (¬ le r ·) = 0 :=
          List.countP_eq_zero.mpr fun b mem => by simpa using first b mem
        rw [none]
        simp [refl]
      · have other : r ≠ a := fun same => fresh (same ▸ later)
        have before : ¬ le r a := fun h => other (antisymm r mem a (List.mem_cons_self ..) h
          (first r later))
        rw [or_iff_right other, ih ordered distinct
          (fun b memb c memc => antisymm b (.tail a memb) c (.tail a memc)) later]
        simp [before]

section Places
variable {le : ρ → ρ → Prop} [DecidableRel le] {limit : Nat} {p : ρ → Bool} {rows : List ρ}

/-- A row is on the page if and only if fewer than `limit` rows come before it. -/
theorem mem_page_iff (total : ∀ a b, le a b ∨ le b a) (trans : ∀ a b c, le a b → le b c → le a c)
    (distinct : rows.Nodup) (antisymm : ∀ a ∈ rows, ∀ b ∈ rows, le a b → le b a → a = b) {r : ρ}
    (mem : r ∈ rows) (holds : p r) :
    r ∈ page le limit p rows ↔ rows.countP (fun y => ¬ le r y ∧ p y) < limit := by
  have : Std.Total le := ⟨total⟩
  have : IsTrans ρ le := ⟨trans⟩
  have perm := List.perm_insertionSort le (rows.filter p)
  have rows_of (a) (h : a ∈ (rows.filter p).insertionSort le) : a ∈ rows :=
    (List.mem_filter.mp (perm.mem_iff.mp h)).1
  unfold page
  rw [mem_take_iff (List.pairwise_insertionSort le _) (fun r => (total r r).elim id id)
    (perm.nodup_iff.mpr (distinct.filter p))
    (fun a mema b memb => antisymm a (rows_of a mema) b (rows_of b memb))
    (perm.mem_iff.mpr (List.mem_filter.mpr ⟨mem, holds⟩)), perm.countP_eq, List.countP_filter]
  simp

/-- What is on the page comes before what is not. -/
theorem page_first (total : ∀ a b, le a b ∨ le b a) (trans : ∀ a b c, le a b → le b c → le a c)
    (distinct : rows.Nodup) (antisymm : ∀ a ∈ rows, ∀ b ∈ rows, le a b → le b a → a = b) {r z : ρ}
    (mem : r ∈ rows) (holds : p r) (off : r ∉ page le limit p rows)
    (on : z ∈ page le limit p rows) : ¬ le r z := by
  intro h
  obtain ⟨memz, holdsz⟩ := mem_of_mem_page on
  refine off ((mem_page_iff total trans distinct antisymm mem holds).mpr ?_)
  refine lt_of_le_of_lt ?_ ((mem_page_iff total trans distinct antisymm memz holdsz).mp on)
  refine List.countP_mono_left fun y _ before => ?_
  simp only [decide_eq_true_eq] at before ⊢
  exact ⟨fun later => before.1 (trans r z y h later), before.2⟩

end Places

theorem countP_lt_countP {p q : ρ → Bool} {rows : List ρ} (imp : ∀ r ∈ rows, p r → q r) {r : ρ}
    (mem : r ∈ rows) (lost : ¬ p r) (had : q r) : rows.countP p < rows.countP q := by
  induction rows with
  | nil => exact (nomatch mem)
  | cons a rest ih =>
    have imp' : ∀ r ∈ rest, p r → q r := fun b h => imp b (.tail a h)
    have le := List.countP_mono_left imp'
    rw [List.countP_cons, List.countP_cons]
    rcases List.mem_cons.mp mem with rfl | later
    · rw [if_neg lost, if_pos had]
      omega
    · have := ih imp' later
      by_cases h : p a
      · rw [if_pos h, if_pos (imp a (List.mem_cons_self ..) h)]
        omega
      · rw [if_neg h]
        omega

section Updates
variable {p : ρ → Bool} {f : ρ → ρ} {rows : List ρ}

theorem mem_updateWhere {r : ρ} :
    r ∈ updateWhere p f rows ↔ ∃ r₀ ∈ rows, (if p r₀ then f r₀ else r₀) = r := List.mem_map

theorem updateWhere_of_none (h : ∀ r ∈ rows, p r = false) : updateWhere p f rows = rows := by
  unfold updateWhere
  calc rows.map _ = rows.map id := List.map_congr_left fun r hr => by simp [h r hr]
    _ = rows := List.map_id rows

end Updates

/-! ### Keyed tables -/

def Keyed (key : ρ → κ) (rows : List ρ) : Prop := (rows.map key).Nodup

variable [DecidableEq κ] {key : ρ → κ} {rows : List ρ} {k : κ} {r : ρ}

def lookup (key : ρ → κ) (rows : List ρ) (k : κ) : Option ρ := rows.find? (key · = k)

theorem lookup_some (h : lookup key rows k = some r) : r ∈ rows ∧ key r = k := by
  unfold lookup at h
  exact ⟨List.mem_of_find?_eq_some h, by simpa using List.find?_some h⟩

theorem lookup_none : lookup key rows k = none ↔ ∀ r ∈ rows, key r ≠ k := by
  simp [lookup]

theorem Keyed.lookup (keyed : Keyed key rows) (mem : r ∈ rows) :
    Table.lookup key rows (key r) = some r := by
  induction rows with
  | nil => exact (nomatch mem)
  | cons r₀ rest ih =>
    obtain ⟨fresh, keyed⟩ := List.nodup_cons.mp keyed
    unfold Table.lookup
    rcases List.mem_cons.mp mem with rfl | later
    · exact List.find?_cons_of_pos (decide_eq_true rfl)
    · have other : key r₀ ≠ key r := fun same => fresh (same ▸ List.mem_map_of_mem later)
      rw [List.find?_cons_of_neg (by simpa using other)]
      exact ih keyed later

theorem Keyed.inj (keyed : Keyed key rows) {r r' : ρ} (mem : r ∈ rows) (mem' : r' ∈ rows)
    (same : key r = key r') : r = r' :=
  Option.some.inj ((keyed.lookup mem).symm.trans (same ▸ keyed.lookup mem'))

theorem Keyed.lookup_iff (keyed : Keyed key rows) :
    Table.lookup key rows k = some r ↔ r ∈ rows ∧ key r = k :=
  ⟨lookup_some, fun ⟨mem, same⟩ => same ▸ keyed.lookup mem⟩

/-- A row whose key is among those of a page is on it. -/
theorem Keyed.of_mem_page {le : ρ → ρ → Prop} [DecidableRel le] {limit : Nat} {p : ρ → Bool}
    (keyed : Keyed key rows) (mem : r ∈ rows) (h : key r ∈ (page le limit p rows).map key) :
    p r := by
  obtain ⟨r', chosen, same⟩ := List.mem_map.mp h
  obtain ⟨mem', holds⟩ := mem_of_mem_page chosen
  rwa [← keyed.inj mem' mem same]

section Statements
variable {p : ρ → Bool} {f : ρ → ρ}

omit [DecidableEq κ] in
theorem Keyed.updateWhere (keyed : Keyed key rows) (same : ∀ r, key (f r) = key r) :
    Keyed key (updateWhere p f rows) := by
  have keys : (Table.updateWhere p f rows).map key = rows.map key := by
    rw [Table.updateWhere, List.map_map]
    refine List.map_congr_left fun r _ => ?_
    rw [Function.comp_apply]
    split
    · exact same r
    · rfl
  exact (congrArg List.Nodup keys).mpr keyed

theorem lookup_updateWhere (same : ∀ r, key (f r) = key r) :
    lookup key (updateWhere p f rows) k =
      (lookup key rows k).map fun r => if p r then f r else r := by
  unfold lookup updateWhere
  rw [List.find?_map]
  congr 1
  refine congrArg (List.find? · rows) (funext fun r => ?_)
  rw [Function.comp_apply]
  split
  · rw [same]
  · rfl

omit [DecidableEq κ] in
theorem Keyed.filter (keyed : Keyed key rows) (p : ρ → Bool) : Keyed key (rows.filter p) :=
  keyed.sublist (List.filter_sublist.map key)

theorem Keyed.lookup_filter (keyed : Keyed key rows) (p : ρ → Bool) :
    Table.lookup key (rows.filter p) k = (Table.lookup key rows k).filter p := by
  cases found : Table.lookup key rows k with
  | none =>
    refine lookup_none.mpr fun r mem => ?_
    exact lookup_none.mp found r (List.mem_filter.mp mem).1
  | some r =>
    obtain ⟨mem, same⟩ := lookup_some found
    rw [Option.filter_some]
    split
    · rename_i kept
      exact (keyed.filter p).lookup_iff.mpr ⟨List.mem_filter.mpr ⟨mem, kept⟩, same⟩
    · rename_i gone
      refine lookup_none.mpr fun r' mem' same' => gone ?_
      obtain ⟨mem', kept⟩ := List.mem_filter.mp mem'
      rwa [← keyed.inj mem' mem (same'.trans same.symm)]

theorem Keyed.concat (keyed : Keyed key rows) (fresh : Table.lookup key rows (key r) = none) :
    Keyed key (rows ++ [r]) := by
  rw [Keyed, List.map_append, List.map_singleton, List.nodup_append]
  refine ⟨keyed, List.nodup_singleton _, fun a mem b last same => ?_⟩
  obtain ⟨r', mem', rfl⟩ := List.mem_map.mp mem
  exact lookup_none.mp fresh r' mem' (same.trans (List.mem_singleton.mp last))

theorem lookup_concat (fresh : lookup key rows (key r) = none) :
    lookup key (rows ++ [r]) k = if key r = k then some r else lookup key rows k := by
  unfold lookup at fresh ⊢
  rw [List.find?_append]
  split
  · rename_i same
    subst same
    rw [fresh, Option.none_or, List.find?_singleton, if_pos (decide_eq_true rfl)]
  · rename_i other
    rw [List.find?_singleton, if_neg (by simpa using other), Option.or_none]

/-! ### One row at a time -/

/-- The row with the key of `r` becomes `r`. -/
def put (key : ρ → κ) (r : ρ) (rows : List ρ) : List ρ :=
  Table.updateWhere (key · = key r) (fun _ => r) rows

/-- Insert `r`, instead of the row that has its key. -/
def upsert (key : ρ → κ) (r : ρ) (rows : List ρ) : List ρ :=
  rows.filter (key · ≠ key r) ++ [r]

theorem put_eq_map : put key r rows = rows.map fun r' => if key r' = key r then r else r' := by
  simp [put, Table.updateWhere]

theorem keys_put : (put key r rows).map key = rows.map key := by
  rw [put_eq_map, List.map_map]
  refine List.map_congr_left fun r' _ => ?_
  rw [Function.comp_apply]
  split
  · rename_i same
    exact same.symm
  · rfl

theorem Keyed.put (keyed : Keyed key rows) : Keyed key (put key r rows) := by
  rw [Keyed, keys_put]
  exact keyed

theorem lookup_put : lookup key (put key r rows) k =
    if key r = k then (lookup key rows k).map fun _ => r else lookup key rows k := by
  induction rows with
  | nil => simp [put_eq_map, lookup]
  | cons r' rest ih =>
    simp only [put_eq_map, lookup, List.map_cons, List.find?_cons] at ih ⊢
    by_cases here : key r' = key r
    · by_cases same : key r = k <;> simp [here, same] at ih ⊢
      exact ih
    · by_cases same : key r = k <;> by_cases found : key r' = k <;>
        simp_all

theorem lookup_filter_ne {k' : κ} : lookup key (rows.filter (key · ≠ k')) k =
    if k' = k then none else lookup key rows k := by
  unfold lookup
  rw [List.find?_filter]
  split
  · rename_i same
    simp [same]
  · rename_i other
    refine congrArg (List.find? · rows) (funext fun r' => ?_)
    by_cases found : key r' = k
    · simp [found, Ne.symm other]
    · simp [found]

theorem lookup_upsert : lookup key (upsert key r rows) k =
    if key r = k then some r else lookup key rows k := by
  have gone := @lookup_filter_ne _ _ _ key rows k (key r)
  unfold lookup upsert at *
  rw [List.find?_append, gone, List.find?_singleton]
  by_cases same : key r = k <;> simp [same]

theorem Keyed.upsert (keyed : Keyed key rows) : Keyed key (upsert key r rows) := by
  refine (keyed.filter _).concat (lookup_none.mpr fun r' mem => ?_)
  simpa using (List.mem_filter.mp mem).2

/-- Rewriting one row changes a count by what it does to that row. -/
theorem Keyed.countP_updateWhere (keyed : Keyed key rows) (mem : r ∈ rows) (f : ρ → ρ)
    (q : ρ → Bool) :
    (Table.updateWhere (key · = key r) f rows).countP q + (if q r then 1 else 0) =
      rows.countP q + (if q (f r) then 1 else 0) := by
  induction rows with
  | nil => exact (nomatch mem)
  | cons r₀ rest ih =>
    obtain ⟨fresh, keyed⟩ := List.nodup_cons.mp keyed
    unfold Table.updateWhere at ih ⊢
    rw [List.map_cons, List.countP_cons, List.countP_cons]
    rcases List.mem_cons.mp mem with rfl | later
    · have others : ∀ r' ∈ rest, key r' ≠ key r := fun r' mem' same =>
        fresh (same ▸ List.mem_map_of_mem mem')
      have same := updateWhere_of_none (f := f) fun r' mem' => decide_eq_false (others r' mem')
      unfold Table.updateWhere at same
      rw [same, if_pos (decide_eq_true rfl)]
      omega
    · have other : key r₀ ≠ key r := fun same => fresh (same ▸ List.mem_map_of_mem later)
      have stays : (if decide (key r₀ = key r) then f r₀ else r₀) = r₀ := if_neg (by simpa using other)
      have := ih keyed later
      rw [stays]
      omega

/-- When only one key can satisfy a condition, at most one row does. -/
theorem Keyed.filter_eq (keyed : Keyed key rows) {p : ρ → Bool}
    (only : ∀ r ∈ rows, p r → key r = k) :
    rows.filter p = ((Table.lookup key rows k).filter p).toList := by
  induction rows with
  | nil => rfl
  | cons r rest ih =>
    obtain ⟨fresh, keyed⟩ := List.nodup_cons.mp keyed
    have only' : ∀ r ∈ rest, p r → key r = k := fun b mem => only b (.tail r mem)
    unfold Table.lookup at ih ⊢
    by_cases here : key r = k
    · have others : rest.filter p = [] := List.filter_eq_nil_iff.mpr fun b mem holds =>
        fresh ((here.trans (only' b mem holds).symm) ▸ List.mem_map_of_mem mem)
      rw [List.find?_cons_of_pos (by simpa using here), List.filter_cons, others, Option.filter_some]
      split <;> rfl
    · have off : ¬ p r := fun holds => here (only r (List.mem_cons_self ..) holds)
      rw [List.find?_cons_of_neg (by simpa using here), List.filter_cons_of_neg off]
      exact ih keyed only'

/-- At most one row has a key. -/
theorem Keyed.countP (keyed : Keyed key rows) (p : ρ → Bool) :
    rows.countP (fun r => key r = k ∧ p r) =
      match Table.lookup key rows k with
      | some r => if p r then 1 else 0
      | none => 0 := by
  induction rows with
  | nil => rfl
  | cons r rest ih =>
    obtain ⟨fresh, keyed⟩ := List.nodup_cons.mp keyed
    rw [List.countP_cons, ih keyed]
    unfold Table.lookup
    by_cases same : key r = k
    · have later : rest.find? (key · = k) = none :=
        lookup_none.mpr fun r' mem same' => fresh (same.trans same'.symm ▸ List.mem_map_of_mem mem)
      rw [later, List.find?_cons, decide_eq_true same]
      simp [same]
    · rw [List.find?_cons, decide_eq_false same]
      simp [same]

/-- A statement that names a key affects the row that has it, if its condition holds. -/
theorem Keyed.affected (keyed : Keyed key rows) (p : ρ → Bool) :
    rows.countP (fun r => key r = k ∧ p r) = 1 ↔ ∃ r, Table.lookup key rows k = some r ∧ p r := by
  rw [keyed.countP p]
  cases Table.lookup key rows k with
  | none => simp
  | some r => cases holds : p r <;> simp [holds]

end Statements

end RelayPool.Table
