import Mathlib.Data.List.Dedup
import Mathlib.Data.List.Induction
import RelayPool.Runs
import RelayPool.Table

/-! The registry of inspected imports.

An inspection holds the lease on a prepared import until it is consumed, once and
before it expires. The registry keeps its entries in a map and the order they were
registered in as a queue, from which it evicts when it is full.

What is handed out was registered and had not expired, each lease as often as it was
registered at most, and the entries stay within their bound (`Ledger`). Map and queue
say the same as long as no value is registered again while its entry is among the
newest live ones (`Fresh`): under that rule, and only under it, the queue lists the
entries without repetition from the oldest registration on, and a registration evicts
the oldest entries alone (`in_step_iff`). -/
namespace RelayPool.Portable
open Table Runs

structure ImportInspectionId where
  processNonce : BitVec 128
  value : String
deriving DecidableEq, Repr

inductive ImportInspectionError where
  | processMismatch
  | notFound
  | expired
  | consumed
deriving DecidableEq, Repr

/-- How long an entry lives and how many there may be. -/
structure ImportInspectionRegistryConfig where
  ttl : Nat
  maxEntries : Nat
  ttl_pos : 0 < ttl
  maxEntries_pos : 0 < maxEntries

variable {Lease Summary : Type}

structure ImportInspectionEntry (Lease Summary : Type) where
  id : ImportInspectionId
  lease : Option Lease
  summary : Summary
  expiresAt : Nat
  consumed : Bool

/-- What a collection removes. -/
def ImportInspectionEntry.ended (e : ImportInspectionEntry Lease Summary) (now : Nat) : Bool :=
  e.consumed || decide (e.expiresAt ≤ now)

structure ImportInspectionRegistryInner (Lease Summary : Type) where
  processNonce : BitVec 128
  /-- At most one for an id, in no particular order. -/
  entries : List (ImportInspectionEntry Lease Summary)
  order : List ImportInspectionId

namespace ImportInspectionRegistryInner

variable (s : ImportInspectionRegistryInner Lease Summary) (now : Nat)

def new (processNonce : BitVec 128) : ImportInspectionRegistryInner Lease Summary :=
  ⟨processNonce, [], []⟩

def entry (id : ImportInspectionId) : Option (ImportInspectionEntry Lease Summary) :=
  lookup (·.id) s.entries id

/-- Whether there is an entry of this id that has neither been consumed nor expired. -/
def live (id : ImportInspectionId) : Bool := (s.entry id).any fun e => !e.ended now

def gcLocked : ImportInspectionRegistryInner Lease Summary :=
  let entries := s.entries.filter fun e => !e.ended now
  { s with
    entries
    order := s.order.filter fun id => (lookup (·.id) entries id).isSome }

end ImportInspectionRegistryInner

/-- Entries are removed from the front of the queue until one more fits. -/
def evictOldest (maxEntries : Nat) : List ImportInspectionId →
    List (ImportInspectionEntry Lease Summary) →
      List ImportInspectionId × List (ImportInspectionEntry Lease Summary)
  | [], entries => ([], entries)
  | id :: order, entries =>
    if maxEntries ≤ entries.length then
      evictOldest maxEntries order (entries.filter (·.id ≠ id))
    else (id :: order, entries)

/-- A registration names its value, which the registry draws itself or takes from the
caller. -/
inductive RegistryOp (Lease Summary : Type) where
  | register (value : String) (lease : Lease) (summary : Summary)
  | idForValue (value : String)
  | summary (id : ImportInspectionId)
  | consume (id : ImportInspectionId)

structure RegistryCall (Lease Summary : Type) where
  now : Nat
  op : RegistryOp Lease Summary

inductive RegistryReply (Lease Summary : Type) where
  | handle (id : ImportInspectionId) (summary : Summary)
  | id (id : ImportInspectionId)
  | summary (summary : Summary)
  | lease (lease : Lease)
  | error (error : ImportInspectionError)

namespace ImportInspectionRegistryInner

variable (config : ImportInspectionRegistryConfig)
  (s : ImportInspectionRegistryInner Lease Summary)

def registerWithId (id : ImportInspectionId) (lease : Lease) (summary : Summary) (now : Nat) :
    ImportInspectionRegistryInner Lease Summary :=
  let collected := s.gcLocked now
  let (order, entries) := evictOldest config.maxEntries collected.order collected.entries
  { s with
    entries := upsert (·.id) ⟨id, some lease, summary, now + config.ttl, false⟩ entries
    order := order ++ [id] }

/-- The entry is spent, whether its lease is handed out or has expired. -/
def spend (id : ImportInspectionId) : ImportInspectionRegistryInner Lease Summary :=
  { s with
    entries := updateWhere (·.id = id) (fun e => { e with consumed := true, lease := none })
      s.entries }

def consume (id : ImportInspectionId) (now : Nat) :
    ImportInspectionRegistryInner Lease Summary × RegistryReply Lease Summary :=
  if id.processNonce ≠ s.processNonce then (s, .error .processMismatch)
  else
    match s.entry id with
    | none => (s, .error .notFound)
    | some e =>
      if e.consumed then (s, .error .consumed)
      else if e.expiresAt ≤ now then (s.spend id, .error .expired)
      else
        match e.lease with
        | none => (s.spend id, .error .consumed)
        | some lease => (s.spend id, .lease lease)

def summaryOf (id : ImportInspectionId) (now : Nat) : RegistryReply Lease Summary :=
  if id.processNonce ≠ s.processNonce then .error .processMismatch
  else
    match s.entry id with
    | none => .error .notFound
    | some e =>
      if e.consumed then .error .consumed
      else if e.expiresAt ≤ now then .error .expired
      else .summary e.summary

def idForValue (value : String) (now : Nat) :
    ImportInspectionRegistryInner Lease Summary × RegistryReply Lease Summary :=
  let s := s.gcLocked now
  match s.entries.find? (·.id.value = value) with
  | some e => (s, .id e.id)
  | none => (s, .error .notFound)

def call (c : RegistryCall Lease Summary) :
    ImportInspectionRegistryInner Lease Summary × RegistryReply Lease Summary :=
  match c.op with
  | .register value lease summary =>
    let id : ImportInspectionId := ⟨s.processNonce, value⟩
    (s.registerWithId config id lease summary c.now, .handle id summary)
  | .idForValue value => s.idForValue value c.now
  | .summary id => (s, s.summaryOf id c.now)
  | .consume id => s.consume id c.now

def advance (c : RegistryCall Lease Summary) : ImportInspectionRegistryInner Lease Summary :=
  (s.call config c).1

/-- The calls of a run with their replies. -/
def history (calls : List (RegistryCall Lease Summary)) :
    List (RegistryCall Lease Summary × RegistryReply Lease Summary) :=
  record (advance config) (fun s c _ done => done ++ [(c, (s.call config c).2)]) s [] calls

end ImportInspectionRegistryInner

/-! ### What a run has registered and handed out -/

structure Registration (Lease : Type) where
  id : ImportInspectionId
  since : Nat
  lease : Lease

def registrations (history : List (RegistryCall Lease Summary × RegistryReply Lease Summary)) :
    List (Registration Lease) :=
  history.filterMap fun
    | (⟨now, .register _ lease _⟩, .handle id _) => some ⟨id, now, lease⟩
    | _ => none

/-- The leases that were handed out, each with the time. -/
def handedOut (history : List (RegistryCall Lease Summary × RegistryReply Lease Summary)) :
    List (Nat × Lease) :=
  history.filterMap fun
    | (⟨now, _⟩, .lease lease) => some (now, lease)
    | _ => none

/-! ### The accounts -/

section Accounts
variable {config : ImportInspectionRegistryConfig}
  {s : ImportInspectionRegistryInner Lease Summary}
  {history : List (RegistryCall Lease Summary × RegistryReply Lease Summary)}
  [DecidableEq Lease]

/-- How many entries hold this lease. -/
def held (s : ImportInspectionRegistryInner Lease Summary) (lease : Lease) : Nat :=
  s.entries.countP fun e => e.lease = some lease

/-- What every run keeps: the entries are queued and bounded, they hold registered leases
until the registered time, and handing out a lease takes it from its entry. -/
structure Ledger (config : ImportInspectionRegistryConfig)
    (history : List (RegistryCall Lease Summary × RegistryReply Lease Summary))
    (s : ImportInspectionRegistryInner Lease Summary) : Prop where
  keyed : Keyed (·.id) s.entries
  queued : ∀ e ∈ s.entries, e.id ∈ s.order
  bounded : s.entries.length ≤ config.maxEntries
  dated : ∀ e ∈ s.entries, ∀ lease, e.lease = some lease →
    ∃ r ∈ registrations history, r.lease = lease ∧ e.expiresAt = r.since + config.ttl
  inTime : ∀ now lease, (now, lease) ∈ handedOut history →
    ∃ r ∈ registrations history, r.lease = lease ∧ now < r.since + config.ttl
  counts : ∀ lease, ((handedOut history).map Prod.snd).count lease + held s lease ≤
    ((registrations history).map (·.lease)).count lease

theorem ledger_new (config : ImportInspectionRegistryConfig) (processNonce : BitVec 128) :
    Ledger config [] (.new processNonce : ImportInspectionRegistryInner Lease Summary) where
  keyed := List.nodup_nil
  queued := nofun
  bounded := Nat.zero_le _
  dated := nofun
  inTime := nofun
  counts _ := Nat.le_refl _

/-- Entries may go, as long as those that stay are queued. -/
theorem Ledger.fewer (ledger : Ledger config history s)
    {entries : List (ImportInspectionEntry Lease Summary)} (sub : entries.Sublist s.entries)
    {order : List ImportInspectionId} (queued : ∀ e ∈ entries, e.id ∈ order) :
    Ledger config history { s with entries, order } where
  keyed := ledger.keyed.sublist (sub.map _)
  queued := queued
  bounded := sub.length_le.trans ledger.bounded
  dated e mem := ledger.dated e (sub.subset mem)
  inTime := ledger.inTime
  counts lease := (Nat.add_le_add_left (sub.countP_le (p := _)) _).trans (ledger.counts lease)

/-- A reply that neither registers nor hands out is of no account. -/
theorem Ledger.reply (ledger : Ledger config history s)
    {entry : RegistryCall Lease Summary × RegistryReply Lease Summary}
    (noRegistration : registrations [entry] = []) (noLease : handedOut [entry] = []) :
    Ledger config (history ++ [entry]) s := by
  have registered : registrations (history ++ [entry]) = registrations history := by
    rw [registrations, List.filterMap_append, ← registrations, ← registrations, noRegistration,
      List.append_nil]
  have handed : handedOut (history ++ [entry]) = handedOut history := by
    rw [handedOut, List.filterMap_append, ← handedOut, ← handedOut, noLease, List.append_nil]
  refine ⟨ledger.keyed, ledger.queued, ledger.bounded, ?_, ?_, ?_⟩
  · rw [registered]
    exact ledger.dated
  · rw [registered, handed]
    exact ledger.inTime
  · rw [registered, handed]
    exact ledger.counts

omit [DecidableEq Lease] in
theorem lookup_isSome {rows : List (ImportInspectionEntry Lease Summary)}
    {e : ImportInspectionEntry Lease Summary} (mem : e ∈ rows) :
    (lookup (·.id) rows e.id).isSome := by
  cases found : lookup (·.id) rows e.id with
  | some _ => rfl
  | none => exact absurd rfl (lookup_none.mp found e mem)

theorem Ledger.gcLocked (ledger : Ledger config history s) (now : Nat) :
    Ledger config history (s.gcLocked now) :=
  ledger.fewer List.filter_sublist fun e mem => List.mem_filter.mpr
    ⟨ledger.queued e (List.mem_filter.mp mem).1, lookup_isSome mem⟩

omit [DecidableEq Lease] in
/-- The eviction leaves room for one more, and what stays is queued. -/
theorem evictOldest_spec {maxEntries : Nat} (positive : 0 < maxEntries)
    (order : List ImportInspectionId) (entries : List (ImportInspectionEntry Lease Summary))
    (queued : ∀ e ∈ entries, e.id ∈ order) :
    (evictOldest maxEntries order entries).2.Sublist entries ∧
      (∀ e ∈ (evictOldest maxEntries order entries).2,
        e.id ∈ (evictOldest maxEntries order entries).1) ∧
      (evictOldest maxEntries order entries).2.length < maxEntries := by
  induction order generalizing entries with
  | nil =>
    have none : entries = [] := List.eq_nil_iff_forall_not_mem.mpr fun e mem => nomatch queued e mem
    subst none
    exact ⟨List.Sublist.refl _, queued, positive⟩
  | cons id order ih =>
    unfold evictOldest
    split
    · have queued' : ∀ e ∈ entries.filter (·.id ≠ id), e.id ∈ order := by
        intro e mem
        obtain ⟨mem, other⟩ := List.mem_filter.mp mem
        exact (List.mem_cons.mp (queued e mem)).resolve_left (by simpa using other)
      obtain ⟨sub, still, room⟩ := ih _ queued'
      exact ⟨sub.trans List.filter_sublist, still, room⟩
    · rename_i room
      exact ⟨List.Sublist.refl _, queued, Nat.lt_of_not_le room⟩

theorem Ledger.registerWithId (ledger : Ledger config history s) (value : String) (lease : Lease)
    (summary : Summary) (now : Nat) (id : ImportInspectionId) :
    Ledger config
      (history ++ [(⟨now, .register value lease summary⟩, .handle id summary)])
      (s.registerWithId config id lease summary now) := by
  have collected := ledger.gcLocked now
  obtain ⟨sub, queued, room⟩ := evictOldest_spec config.maxEntries_pos
    (s.gcLocked now).order (s.gcLocked now).entries collected.queued
  have evicted := collected.fewer sub queued
  have registered : registrations
      (history ++ [(⟨now, .register value lease summary⟩, .handle id summary)]) =
        registrations history ++ [⟨id, now, lease⟩] := List.filterMap_append
  have handed : handedOut
      (history ++ [(⟨now, .register value lease summary⟩, .handle id summary)]) =
        handedOut history := List.filterMap_append.trans (List.append_nil _)
  refine ⟨evicted.keyed.upsert, ?_, ?_, ?_, ?_, ?_⟩
  · intro e mem
    rcases List.mem_append.mp mem with old | new
    · exact List.mem_append_left _ (queued e (List.mem_filter.mp old).1)
    · rw [List.mem_singleton.mp new]
      exact List.mem_append_right _ (List.mem_singleton_self _)
  · refine (List.length_append.trans_le ?_ : _ ≤ config.maxEntries)
    exact (Nat.add_le_add_right (List.length_filter_le ..) 1).trans room
  · intro e mem lease' has
    rw [registered]
    rcases List.mem_append.mp mem with old | new
    · obtain ⟨r, there, same⟩ := evicted.dated e (List.mem_filter.mp old).1 lease' has
      exact ⟨r, List.mem_append_left _ there, same⟩
    · rw [List.mem_singleton.mp new] at has ⊢
      exact ⟨_, List.mem_append_right _ (List.mem_singleton_self _), Option.some.inj has, rfl⟩
  · intro now' lease' out
    rw [registered]
    rw [handed] at out
    obtain ⟨r, there, same⟩ := ledger.inTime now' lease' out
    exact ⟨r, List.mem_append_left _ there, same⟩
  · intro lease'
    rw [registered, handed, List.map_append, List.count_append]
    have before := evicted.counts lease'
    have fewer : ((evictOldest config.maxEntries (s.gcLocked now).order
        (s.gcLocked now).entries).2.filter (·.id ≠ id)).countP (fun e => e.lease = some lease') ≤
          held { s.gcLocked now with
            entries := (evictOldest config.maxEntries (s.gcLocked now).order
              (s.gcLocked now).entries).2
            order := (evictOldest config.maxEntries (s.gcLocked now).order
              (s.gcLocked now).entries).1 } lease' := List.filter_sublist.countP_le
    have added : held (s.registerWithId config id lease summary now) lease' =
        ((evictOldest config.maxEntries (s.gcLocked now).order
          (s.gcLocked now).entries).2.filter (·.id ≠ id)).countP
            (fun e => e.lease = some lease') + ([lease].count lease') := by
      refine List.countP_append.trans ?_
      by_cases same : lease = lease' <;> simp [same]
    simp only [List.map_cons, List.map_nil] at *
    omega

/-- A spent entry no longer holds its lease. -/
theorem Ledger.spend (ledger : Ledger config history s) {e : ImportInspectionEntry Lease Summary}
    (mem : e ∈ s.entries) :
    Ledger config history (s.spend e.id) ∧ ∀ lease, held (s.spend e.id) lease +
      (if e.lease = some lease then 1 else 0) = held s lease := by
  have same : ∀ e : ImportInspectionEntry Lease Summary,
      ({ e with consumed := true, lease := none } : ImportInspectionEntry Lease Summary).id = e.id :=
    fun _ => rfl
  have counts (lease : Lease) : held (s.spend e.id) lease +
      (if e.lease = some lease then 1 else 0) = held s lease := by
    have counted := ledger.keyed.countP_updateWhere mem
      (fun e => { e with consumed := true, lease := none }) fun e => e.lease = some lease
    simpa [held, ImportInspectionRegistryInner.spend] using counted
  refine ⟨⟨ledger.keyed.updateWhere same, ?_, ?_, ?_, ledger.inTime, ?_⟩, counts⟩
  · intro spent mem
    obtain ⟨e', mem', rfl⟩ := mem_updateWhere.mp mem
    split
    · exact ledger.queued e' mem'
    · exact ledger.queued e' mem'
  · exact (List.length_map _).trans_le ledger.bounded
  · intro spent mem lease has
    obtain ⟨e', mem', rfl⟩ := mem_updateWhere.mp mem
    split at has
    · cases has
    · rename_i other
      rw [if_neg other]
      exact ledger.dated e' mem' lease has
  · intro lease
    have before := ledger.counts lease
    have after := counts lease
    omega

theorem Ledger.consume (ledger : Ledger config history s) (id : ImportInspectionId) (now : Nat) :
    Ledger config (history ++ [(⟨now, .consume id⟩, (s.consume id now).2)]) (s.consume id now).1 := by
  unfold ImportInspectionRegistryInner.consume
  split
  · exact ledger.reply rfl rfl
  cases found : s.entry id with
  | none => exact ledger.reply rfl rfl
  | some e =>
    obtain ⟨mem, rfl⟩ := lookup_some found
    obtain ⟨spent, counts⟩ := ledger.spend mem
    dsimp only
    split
    · exact ledger.reply rfl rfl
    split
    · exact spent.reply rfl rfl
    · rename_i early
      cases has : e.lease with
      | none => exact spent.reply rfl rfl
      | some lease =>
        obtain ⟨r, there, same, expires⟩ := ledger.dated e mem lease has
        have registered : registrations (history ++ [(⟨now, .consume e.id⟩, .lease lease)]) =
            registrations history := List.filterMap_append.trans (List.append_nil _)
        have handed : handedOut (history ++ [(⟨now, .consume e.id⟩, .lease lease)]) =
            handedOut history ++ [(now, lease)] := List.filterMap_append
        refine ⟨spent.keyed, spent.queued, spent.bounded, ?_, ?_, ?_⟩
        · rw [registered]
          exact spent.dated
        · intro now' lease' out
          rw [registered]
          rw [handed] at out
          rcases List.mem_append.mp out with old | new
          · exact spent.inTime now' lease' old
          · cases List.mem_singleton.mp new
            exact ⟨r, there, same, by omega⟩
        · intro lease'
          rw [registered, handed, List.map_append, List.count_append]
          have before := ledger.counts lease'
          have after := counts lease'
          have one : [lease].count lease' = if e.lease = some lease' then 1 else 0 := by
            by_cases same : lease = lease' <;> simp [has, same]
          simp only [List.map_cons, List.map_nil] at *
          omega

/-- Every call keeps the accounts. -/
theorem Ledger.call (ledger : Ledger config history s) (c : RegistryCall Lease Summary) :
    Ledger config (history ++ [(c, (s.call config c).2)]) (s.advance config c) := by
  obtain ⟨now, op⟩ := c
  cases op with
  | register value lease summary => exact ledger.registerWithId value lease summary now _
  | consume id => exact ledger.consume id now
  | summary id =>
    refine ledger.reply rfl ?_
    show handedOut [(_, s.summaryOf id now)] = []
    unfold ImportInspectionRegistryInner.summaryOf
    repeat' first | rfl | split
  | idForValue value =>
    have collected := ledger.gcLocked now
    unfold ImportInspectionRegistryInner.advance ImportInspectionRegistryInner.call
      ImportInspectionRegistryInner.idForValue
    dsimp only
    split
    · exact collected.reply rfl rfl
    · exact collected.reply rfl rfl

theorem ledger_run (config : ImportInspectionRegistryConfig) (processNonce : BitVec 128)
    (calls : List (RegistryCall Lease Summary)) :
    Ledger config ((ImportInspectionRegistryInner.new processNonce).history config calls)
      (run (ImportInspectionRegistryInner.advance config) (.new processNonce) calls) :=
  @record_invariant _ _ _ _ _ (fun s history => Ledger config history s)
    (fun _ c _ ledger => ledger.call c) _ _ (ledger_new config processNonce) calls

end Accounts

/-! ### Map and queue -/

section Queue
variable {config : ImportInspectionRegistryConfig}
  {s : ImportInspectionRegistryInner Lease Summary}
  {history : List (RegistryCall Lease Summary × RegistryReply Lease Summary)}

/-- The ids in the order of their last registrations. -/
def registered (history : List (RegistryCall Lease Summary × RegistryReply Lease Summary)) :
    List ImportInspectionId := ((registrations history).map (·.id)).dedup

/-- The queue lists the entries, each once, from the oldest registration on. -/
structure Enumerates (history : List (RegistryCall Lease Summary × RegistryReply Lease Summary))
    (s : ImportInspectionRegistryInner Lease Summary) : Prop where
  perm : s.order.Perm (s.entries.map (·.id))
  oldestFirst : s.order.Sublist (registered history)

theorem Enumerates.nodup (enumerates : Enumerates history s) : s.order.Nodup :=
  (List.nodup_dedup _).sublist enumerates.oldestFirst

theorem Enumerates.keyed (enumerates : Enumerates history s) : Keyed (·.id) s.entries :=
  enumerates.perm.nodup_iff.mp enumerates.nodup

theorem map_id_filter (p : ImportInspectionId → Bool)
    (entries : List (ImportInspectionEntry Lease Summary)) :
    (entries.filter fun e => p e.id).map (·.id) = (entries.map (·.id)).filter p := by
  rw [List.filter_map]
  rfl

/-- A collection keeps the live ids. -/
theorem Enumerates.gcLocked (enumerates : Enumerates history s) (now : Nat) :
    (s.gcLocked now).order = s.order.filter (s.live now) ∧ Enumerates history (s.gcLocked now) := by
  have keyed := enumerates.keyed
  have order : (s.gcLocked now).order = s.order.filter (s.live now) := by
    refine List.filter_congr fun id _ => ?_
    rw [keyed.lookup_filter]
    unfold ImportInspectionRegistryInner.live ImportInspectionRegistryInner.entry
    cases lookup (·.id) s.entries id with
    | none => rfl
    | some e => cases ended : e.ended now <;> simp [ended]
  refine ⟨order, ?_, order ▸ List.filter_sublist.trans enumerates.oldestFirst⟩
  rw [order]
  have live : s.entries.filter (fun e => !e.ended now) =
      s.entries.filter fun e => s.live now e.id := by
    refine List.filter_congr fun e mem => ?_
    rw [ImportInspectionRegistryInner.live, ImportInspectionRegistryInner.entry, keyed.lookup mem]
    rfl
  show (s.order.filter (s.live now)).Perm ((s.entries.filter fun e => !e.ended now).map (·.id))
  rw [live, map_id_filter]
  exact enumerates.perm.filter _

/-- While map and queue agree, the eviction takes the front of the queue from both, as much
as is needed. -/
theorem evictOldest_eq (maxEntries : Nat)
    {order : List ImportInspectionId} {entries : List (ImportInspectionEntry Lease Summary)}
    (nodup : order.Nodup) (perm : order.Perm (entries.map (·.id))) :
    let excess := order.length + 1 - maxEntries
    evictOldest maxEntries order entries =
      (order.drop excess, entries.filter (·.id ∉ order.take excess)) := by
  intro excess
  induction order generalizing entries with
  | nil =>
    have none : entries = [] := List.map_eq_nil_iff.mp (List.nil_perm.mp perm)
    subst none
    simp [evictOldest]
  | cons id order ih =>
    obtain ⟨fresh, nodup⟩ := List.nodup_cons.mp nodup
    have length := perm.length_eq
    rw [List.length_map, List.length_cons] at length
    unfold evictOldest
    split
    · rename_i full
      have rest : order.Perm ((entries.filter (·.id ≠ id)).map (·.id)) := by
        have kept := perm.filter fun k => decide (k ≠ id)
        rw [List.filter_cons_of_neg (by simp), ← map_id_filter,
          List.filter_eq_self.mpr fun k mem => by
            simpa using fun same : k = id => fresh (same ▸ mem)] at kept
        exact kept
      have more : excess = order.length + 1 - maxEntries + 1 := by
        show (id :: order).length + 1 - maxEntries = _
        rw [List.length_cons]
        omega
      rw [ih nodup rest, more, List.drop_succ_cons, List.take_succ_cons, List.filter_filter]
      congr 1
      refine List.filter_congr fun e _ => ?_
      simp [Bool.and_comm]
    · rename_i room
      have none : excess = 0 := by
        show (id :: order).length + 1 - maxEntries = _
        rw [List.length_cons]
        omega
      rw [none, List.drop_zero, List.take_zero]
      simp

/-- The newest live entries, with room for one more. -/
def ImportInspectionRegistryInner.newestLive (config : ImportInspectionRegistryConfig)
    (s : ImportInspectionRegistryInner Lease Summary) (now : Nat) : List ImportInspectionId :=
  let live := s.order.filter (s.live now)
  live.drop (live.length + 1 - config.maxEntries)

/-- No value is registered whose entry is among the newest live ones. -/
def Fresh (config : ImportInspectionRegistryConfig)
    (s : ImportInspectionRegistryInner Lease Summary) (c : RegistryCall Lease Summary) : Prop :=
  match c.op with
  | .register value _ _ => ⟨s.processNonce, value⟩ ∉ s.newestLive config c.now
  | _ => True

/-- A registration evicts the oldest of the live entries, if the registry is full, keeps the
others as they are and has the entry it returns. -/
def EvictsOldest (config : ImportInspectionRegistryConfig)
    (s : ImportInspectionRegistryInner Lease Summary) (c : RegistryCall Lease Summary) : Prop :=
  match c.op with
  | .register value lease summary =>
    let id : ImportInspectionId := ⟨s.processNonce, value⟩
    let after := s.advance config c
    ∃ evicted kept, s.order.filter (s.live c.now) = evicted ++ kept ∧
      after.order = kept ++ [id] ∧ (evicted = [] ∨ kept.length + 1 = config.maxEntries) ∧
      (∀ id' ∈ evicted, id' ≠ id → after.entry id' = none) ∧
      (∀ id' ∈ kept, after.entry id' = s.entry id') ∧
      after.entry id = some ⟨id, some lease, summary, c.now + config.ttl, false⟩
  | _ => True

theorem filter_not_mem_take {α : Type*} [DecidableEq α] {l : List α} (nodup : l.Nodup) (n : Nat) :
    l.filter (· ∉ l.take n) = l.drop n := by
  have apart : ∀ a ∈ l.drop n, a ∉ l.take n := fun a after before =>
    List.disjoint_take_drop nodup (Nat.le_refl n) before after
  calc l.filter (· ∉ l.take n) = (l.take n ++ l.drop n).filter (· ∉ l.take n) := by
        rw [List.take_append_drop]
    _ = l.drop n := by
        rw [List.filter_append, List.filter_eq_nil_iff.mpr (by simp),
          List.filter_eq_self.mpr (by simpa using apart), List.nil_append]

theorem dedup_concat {α : Type*} [DecidableEq α] (l : List α) (a : α) :
    (l ++ [a]).dedup = l.dedup.filter (· ≠ a) ++ [a] := by
  induction l with
  | nil => rfl
  | cons b l ih =>
    rw [List.cons_append]
    by_cases again : b ∈ l
    · rw [List.dedup_cons_of_mem again, List.dedup_cons_of_mem (List.mem_append_left _ again), ih]
    · rw [List.dedup_cons_of_notMem again]
      by_cases same : b = a
      · subst same
        rw [List.dedup_cons_of_mem (by simp), ih, List.filter_cons_of_neg (by simp)]
      · rw [List.dedup_cons_of_notMem (by simp [again, same]), ih,
          List.filter_cons_of_pos (by simpa using same), List.cons_append]

theorem registered_concat (history : List (RegistryCall Lease Summary × RegistryReply Lease Summary))
    (now : Nat) (value : String) (lease : Lease) (summary : Summary) (id : ImportInspectionId) :
    registered (history ++ [(⟨now, .register value lease summary⟩, .handle id summary)]) =
      (registered history).filter (· ≠ id) ++ [id] := by
  unfold registered registrations
  rw [List.filterMap_append, List.map_append]
  exact dedup_concat _ id

theorem Enumerates.reply (enumerates : Enumerates history s)
    {entry : RegistryCall Lease Summary × RegistryReply Lease Summary}
    (noRegistration : registrations [entry] = []) : Enumerates (history ++ [entry]) s := by
  refine ⟨enumerates.perm, ?_⟩
  unfold registered
  rw [registrations, List.filterMap_append, ← registrations, ← registrations, noRegistration,
    List.append_nil]
  exact enumerates.oldestFirst

/-- What a registration leaves: the newest live entries and its own. -/
theorem registerWithId_eq (enumerates : Enumerates history s) (id : ImportInspectionId)
    (lease : Lease) (summary : Summary) (now : Nat) :
    let live := s.order.filter (s.live now)
    s.registerWithId config id lease summary now = { s with
      entries := upsert (·.id) ⟨id, some lease, summary, now + config.ttl, false⟩
        ((s.gcLocked now).entries.filter
          (·.id ∉ live.take (live.length + 1 - config.maxEntries)))
      order := s.newestLive config now ++ [id] } := by
  intro live
  obtain ⟨order, collected⟩ := enumerates.gcLocked now
  have evicted := evictOldest_eq config.maxEntries collected.nodup collected.perm
  rw [order] at evicted
  simp only [ImportInspectionRegistryInner.registerWithId, order, evicted]
  rfl

theorem Enumerates.registerWithId (enumerates : Enumerates history s) (value : String)
    (lease : Lease) (summary : Summary) (now : Nat) {id : ImportInspectionId}
    (fresh : id ∉ s.newestLive config now) :
    Enumerates (history ++ [(⟨now, .register value lease summary⟩, .handle id summary)])
      (s.registerWithId config id lease summary now) := by
  obtain ⟨live, collected⟩ := enumerates.gcLocked now
  have others : (s.newestLive config now).filter (· ≠ id) = s.newestLive config now :=
    List.filter_eq_self.mpr fun k mem => by simpa using fun same : k = id => fresh (same ▸ mem)
  rw [registerWithId_eq enumerates]
  constructor
  · have kept := (collected.perm.filter (· ∉ (s.gcLocked now).order.take
      ((s.gcLocked now).order.length + 1 - config.maxEntries))).filter fun k => decide (k ≠ id)
    rw [filter_not_mem_take collected.nodup, live] at kept
    have kept : (s.newestLive config now).Perm _ := others ▸ kept
    show (s.newestLive config now ++ [id]).Perm ((upsert _ _ _).map _)
    rw [upsert, List.map_append, map_id_filter (fun k => decide (k ≠ id)),
      map_id_filter (fun k => decide (k ∉ _))]
    exact kept.append_right [id]
  · show (s.newestLive config now ++ [id]).Sublist _
    have sub : (s.newestLive config now).Sublist (registered history) :=
      (List.drop_sublist ..).trans (List.filter_sublist.trans enumerates.oldestFirst)
    rw [registered_concat, ← others]
    exact (sub.filter _).append_right [id]

theorem evictsOldest_of_fresh (enumerates : Enumerates history s)
    {c : RegistryCall Lease Summary} (fresh : Fresh config s c) : EvictsOldest config s c := by
  obtain ⟨now, op⟩ := c
  cases op with
  | idForValue value => trivial
  | summary id => trivial
  | consume id => trivial
  | register value lease summary =>
    obtain ⟨live, collected⟩ := enumerates.gcLocked now
    have after : s.advance config ⟨now, .register value lease summary⟩ = _ :=
      registerWithId_eq enumerates ⟨s.processNonce, value⟩ lease summary now
    have keyed := collected.keyed
    show ∃ evicted kept, _
    rw [after]
    generalize taken : (s.order.filter (s.live now)).take
      ((s.order.filter (s.live now)).length + 1 - config.maxEntries) = evicted
    refine ⟨evicted, s.newestLive config now, ?_, rfl, ?_, ?_, ?_, ?_⟩
    · rw [← taken]
      exact (List.take_append_drop ..).symm
    · rcases Nat.lt_or_ge (s.order.filter (s.live now)).length config.maxEntries with room | full
      · left
        rw [← taken, List.take_eq_nil_iff]
        left
        omega
      · right
        have := config.maxEntries_pos
        show ((s.order.filter (s.live now)).drop _).length + 1 = _
        rw [List.length_drop]
        omega
    · intro k gone other
      refine lookup_upsert.trans ((if_neg other.symm).trans (lookup_none.mpr fun e mem same => ?_))
      have stays := (List.mem_filter.mp mem).2
      rw [same] at stays
      exact of_decide_eq_true stays gone
    · intro k kept
      have other : k ≠ ⟨s.processNonce, value⟩ := fun same => fresh (same ▸ kept)
      have alive := List.of_mem_filter (List.mem_of_mem_drop kept)
      have stays : k ∉ evicted := fun gone => by
        rw [← taken] at gone
        exact List.disjoint_take_drop (enumerates.nodup.filter _) (Nat.le_refl _) gone kept
      refine lookup_upsert.trans ((if_neg other.symm).trans ?_)
      rw [keyed.lookup_filter]
      show (lookup _ (s.entries.filter _) k).filter _ = _
      rw [enumerates.keyed.lookup_filter]
      unfold ImportInspectionRegistryInner.live at alive
      obtain ⟨e, found, open'⟩ := (Option.any_eq_true _ _).mp alive
      have same : e.id = k := (lookup_some found).2
      rw [ImportInspectionRegistryInner.entry] at found ⊢
      rw [found, Option.filter_some, if_pos open', Option.filter_some, if_pos (by simpa [same])]
    · exact lookup_upsert.trans (if_pos rfl)

theorem Enumerates.spend (enumerates : Enumerates history s) (id : ImportInspectionId) :
    Enumerates history (s.spend id) := by
  refine ⟨?_, enumerates.oldestFirst⟩
  have ids : (s.spend id).entries.map (·.id) = s.entries.map (·.id) := by
    unfold ImportInspectionRegistryInner.spend updateWhere
    rw [List.map_map]
    refine List.map_congr_left fun e _ => ?_
    rw [Function.comp_apply]
    split <;> rfl
  rw [ids]
  exact enumerates.perm

/-- As long as registrations are fresh, map and queue agree after each call. -/
theorem Enumerates.call (enumerates : Enumerates history s) {c : RegistryCall Lease Summary}
    (fresh : Fresh config s c) :
    Enumerates (history ++ [(c, (s.call config c).2)]) (s.advance config c) := by
  obtain ⟨now, op⟩ := c
  cases op with
  | register value lease summary => exact enumerates.registerWithId value lease summary now fresh
  | summary id => exact enumerates.reply rfl
  | idForValue value =>
    have collected := (enumerates.gcLocked now).2
    unfold ImportInspectionRegistryInner.advance ImportInspectionRegistryInner.call
      ImportInspectionRegistryInner.idForValue
    dsimp only
    split
    · exact collected.reply rfl
    · exact collected.reply rfl
  | consume id =>
    have spent := enumerates.spend id
    unfold ImportInspectionRegistryInner.advance ImportInspectionRegistryInner.call
      ImportInspectionRegistryInner.consume
    dsimp only
    split
    · exact enumerates.reply rfl
    cases s.entry id with
    | none => exact enumerates.reply rfl
    | some e =>
      dsimp only
      split
      · exact enumerates.reply rfl
      split
      · exact spent.reply rfl
      · cases e.lease with
        | none => exact spent.reply rfl
        | some lease => exact spent.reply rfl

end Queue

/-! ### Runs -/

section InStep
variable [DecidableEq Lease] (config : ImportInspectionRegistryConfig)
  (processNonce : BitVec 128)

/-- The registry after these calls. -/
def registryAfter (calls : List (RegistryCall Lease Summary)) :
    ImportInspectionRegistryInner Lease Summary :=
  run (ImportInspectionRegistryInner.advance config) (.new processNonce) calls

/-- The calls with the replies of a new registry. -/
def historyOf (calls : List (RegistryCall Lease Summary)) :
    List (RegistryCall Lease Summary × RegistryReply Lease Summary) :=
  (ImportInspectionRegistryInner.new processNonce).history config calls

/-- What is expected of a registry with this history. -/
structure InStep (history : List (RegistryCall Lease Summary × RegistryReply Lease Summary))
    (s : ImportInspectionRegistryInner Lease Summary) : Prop where
  once : ∀ lease, ((handedOut history).map Prod.snd).count lease ≤
    ((registrations history).map (·.lease)).count lease
  inTime : ∀ now lease, (now, lease) ∈ handedOut history →
    ∃ r ∈ registrations history, r.lease = lease ∧ now < r.since + config.ttl
  bounded : s.entries.length ≤ config.maxEntries
  nodup : s.order.Nodup
  enumerates : ∀ id, id ∈ s.order ↔ id ∈ s.entries.map (·.id)
  oldestFirst : s.order.Sublist (registered history)

variable {config processNonce}

omit [DecidableEq Lease] in
/-- Fresh registrations keep map and queue in agreement. -/
theorem enumerates_run {calls : List (RegistryCall Lease Summary)}
    (fresh : Along (ImportInspectionRegistryInner.advance config) (Fresh config)
      (.new processNonce) calls) :
    Enumerates (historyOf config processNonce calls) (registryAfter config processNonce calls) :=
  @record_invariant_along _ _ _ _ _ (fun s history => Enumerates history s) _
    (fun _ _ _ now enumerates => enumerates.call now) _ _ _ ⟨.refl _, List.Sublist.refl _⟩ fresh

omit [DecidableEq Lease] in
/-- Registering a value twice within its time and the bound leaves its id in the queue twice. -/
theorem nodup_fresh {s : ImportInspectionRegistryInner Lease Summary}
    {history : List (RegistryCall Lease Summary × RegistryReply Lease Summary)}
    (enumerates : Enumerates history s) {c : RegistryCall Lease Summary}
    (nodup : (s.advance config c).order.Nodup) : Fresh config s c := by
  obtain ⟨now, op⟩ := c
  cases op with
  | idForValue value => trivial
  | summary id => trivial
  | consume id => trivial
  | register value lease summary =>
    have order : (s.advance config ⟨now, .register value lease summary⟩).order = _ :=
      congrArg (·.order) (registerWithId_eq enumerates ⟨s.processNonce, value⟩ lease summary now)
    rw [order] at nodup
    exact fun again => (List.nodup_append.mp nodup).2.2 _ again _ (List.mem_singleton_self _) rfl

/-- A registry is as expected after every call of a run, and evicts the oldest entries only,
just when every registration of the run is fresh. -/
theorem in_step_iff (config : ImportInspectionRegistryConfig) (processNonce : BitVec 128)
    (calls : List (RegistryCall Lease Summary)) :
    ((∀ done, done <+: calls → InStep config (historyOf config processNonce done)
        (registryAfter config processNonce done)) ∧
      Along (ImportInspectionRegistryInner.advance config) (EvictsOldest config)
        (.new processNonce) calls) ↔
    Along (ImportInspectionRegistryInner.advance config) (Fresh config) (.new processNonce)
      calls := by
  constructor
  · rintro ⟨expected, -⟩
    have along : ∀ done, done <+: calls → Along (ImportInspectionRegistryInner.advance config)
        (Fresh config) (.new processNonce) done := by
      intro done
      induction done using List.reverseRecOn with
      | nil => exact fun _ => trivial
      | append_singleton done c ih =>
        intro part
        have fresh := ih ((List.prefix_append done [c]).trans part)
        have nodup := (expected _ part).nodup
        rw [registryAfter, run_concat] at nodup
        exact along_append.mpr ⟨fresh, nodup_fresh (enumerates_run fresh) nodup, trivial⟩
    exact along calls (List.prefix_refl _)
  · intro fresh
    constructor
    · rintro done ⟨rest, rfl⟩
      have ledger : Ledger config (historyOf config processNonce done)
          (registryAfter config processNonce done) := ledger_run config processNonce done
      have enumerates := enumerates_run (along_append.mp fresh).1
      exact ⟨fun lease => (Nat.le_add_right _ _).trans (ledger.counts lease), ledger.inTime,
        ledger.bounded, enumerates.nodup, fun _ => enumerates.perm.mem_iff,
        enumerates.oldestFirst⟩
    · have preserved (s : ImportInspectionRegistryInner Lease Summary)
          (c : RegistryCall Lease Summary) (now : Fresh config s c)
          (known : ∃ history, Enumerates history s) : EvictsOldest config s c ∧
            ∃ history, Enumerates history (s.advance config c) := by
        obtain ⟨history, enumerates⟩ := known
        exact ⟨evictsOldest_of_fresh enumerates now, _, enumerates.call now⟩
      exact fresh.imp_invariant preserved ⟨[], .refl _, List.Sublist.refl _⟩

end InStep

/-- Three entries at most, for ten minutes. -/
def threeInspections : ImportInspectionRegistryConfig := ⟨600, 3, by decide, by decide⟩

/-- A value registered, another, the first again, and two more. -/
def repeatedValue : List (RegistryCall Nat Unit) :=
  [⟨0, .register "a" 1 ()⟩, ⟨1, .register "b" 2 ()⟩, ⟨2, .register "a" 3 ()⟩,
    ⟨3, .register "c" 4 ()⟩, ⟨4, .register "d" 5 ()⟩]

/-- A value registered again while it is held stands in the queue twice, and an eviction later
takes its new entry and leaves an older one. -/
theorem repeatedValue_evicted :
    ¬ InStep threeInspections (historyOf threeInspections 0 (repeatedValue.take 3))
        (registryAfter threeInspections 0 (repeatedValue.take 3)) ∧
      ((registryAfter threeInspections 0 (repeatedValue.take 4)).entry ⟨0, "a"⟩).map (·.lease) =
        some (some 3) ∧
      ((registryAfter threeInspections 0 repeatedValue).entry ⟨0, "a"⟩).map (·.lease) = none ∧
      ((registryAfter threeInspections 0 repeatedValue).entry ⟨0, "b"⟩).map (·.lease) =
        some (some 2) := by
  refine ⟨fun expected => ?_, by decide +kernel, by decide +kernel, by decide +kernel⟩
  have twice : (registryAfter threeInspections 0 (repeatedValue.take 3)).order =
      [⟨0, "a"⟩, ⟨0, "b"⟩, ⟨0, "a"⟩] := by decide +kernel
  have nodup := expected.nodup
  rw [twice] at nodup
  exact absurd nodup (by decide)

end RelayPool.Portable
