import RelayPool.Eviction
import RelayPool.Fallible
import RelayPool.Saturating
import Mathlib.Data.Prod.Lex
import Mathlib.Data.String.Basic

/-! The registry of session affinities.

A binding names the station key that last served a conversation. `bind` drops
what has expired, inserts the binding and then evicts down to the entry bound, by
the time an entry was last touched and by key among entries of one time. The new
entry takes part in that: it stays if and only if fewer surviving entries than
the bound come after it in the eviction order (`bind_visible_iff`). Entries that
were touched in the same millisecond, or before the clock was set back, come
after it, and then a successful `bind` leaves nothing bound
(`bound_entry_evicted`). -/
namespace RelayPool.Routing.Affinity
open Eviction Fallible Table

inductive AffinityKind where
  | previousResponse
  | session
deriving DecidableEq, Repr

inductive RuntimeModelClass where
  | named (model : String)
  | other
deriving DecidableEq, Repr

structure AffinityPolicy where
  maxEntries : Nat
  ttlMs : Int64
deriving DecidableEq

structure AffinityLookup where
  kind : AffinityKind
  routingGroupScope : String
  value : String
  endpointRevision : Int64
  modelClass : RuntimeModelClass
deriving DecidableEq

structure AffinityHit where
  stationKeyId : String
  boundAtMs : Int64
  expiresAtMs : Int64
deriving DecidableEq

inductive AffinityMiss where
  | invalidInput
  | notFound
  | expired
  | groupScopeMismatch
  | endpointRevisionMismatch
  | modelMismatch
deriving DecidableEq, Repr

inductive AffinityBindError where
  | invalidInput
  | invalidTtl
deriving DecidableEq, Repr

structure AffinityEntry where
  stationKeyId : String
  boundAtMs : Int64
  expiresAtMs : Int64
  lastTouchedMs : Int64
deriving DecidableEq

abbrev AffinityRow := AffinityLookup × AffinityEntry

/-- The map's keys are distinct; its own order is only asked for by the eviction. -/
structure AffinityRegistry where
  policy : AffinityPolicy
  entries : List AffinityRow
  keyed : Keyed Prod.fst entries

/-! ### The derived order of the keys -/

def AffinityKind.rank : AffinityKind → Nat
  | .previousResponse => 0
  | .session => 1

def RuntimeModelClass.order : RuntimeModelClass → Nat ×ₗ String
  | .named model => toLex (0, model)
  | .other => toLex (1, "")

def AffinityLookup.order (lookup : AffinityLookup) :
    Nat ×ₗ String ×ₗ String ×ₗ Int ×ₗ Nat ×ₗ String :=
  toLex (lookup.kind.rank, toLex (lookup.routingGroupScope, toLex (lookup.value,
    toLex (lookup.endpointRevision.toInt, lookup.modelClass.order))))

/-- The least row in this order is the one evicted first. -/
def evictionOrder (row : AffinityRow) :
    Int ×ₗ Nat ×ₗ String ×ₗ String ×ₗ Int ×ₗ Nat ×ₗ String :=
  toLex (row.2.lastTouchedMs.toInt, row.1.order)

/-! ### The registry's operations -/

def validateLookup (lookup : AffinityLookup) : Except AffinityBindError Unit :=
  if lookup.routingGroupScope = "" ∨ lookup.value = "" then .error .invalidInput else .ok ()

namespace AffinityRegistry

def new (policy : AffinityPolicy) : AffinityRegistry := ⟨policy, [], List.nodup_nil⟩

def get (registry : AffinityRegistry) (lookup : AffinityLookup) : Option AffinityEntry :=
  (Table.lookup Prod.fst registry.entries lookup).map Prod.snd

def retain (registry : AffinityRegistry) (p : AffinityRow → Bool) : AffinityRegistry :=
  ⟨registry.policy, registry.entries.filter p, registry.keyed.filter p⟩

def remove (registry : AffinityRegistry) (lookup : AffinityLookup) : AffinityRegistry :=
  registry.retain (·.1 ≠ lookup)

def insert (registry : AffinityRegistry) (lookup : AffinityLookup) (entry : AffinityEntry) :
    AffinityRegistry :=
  ⟨registry.policy, upsert Prod.fst (lookup, entry) registry.entries, registry.keyed.upsert⟩

/-- The entry has not expired and was touched within the registry's own lifetime. -/
def retained (policy : AffinityPolicy) (nowMs : Int64) (row : AffinityRow) : Bool :=
  nowMs < row.2.expiresAtMs ∧ nowMs.saturatingSub row.2.lastTouchedMs ≤ policy.ttlMs

def cleanup (registry : AffinityRegistry) (nowMs : Int64) : AffinityRegistry × Nat :=
  let kept := registry.retain (retained registry.policy nowMs)
  (kept, registry.entries.length - kept.entries.length)

def enforceBounds (registry : AffinityRegistry) : AffinityRegistry :=
  ⟨registry.policy, evict Prod.fst evictionOrder registry.policy.maxEntries registry.entries,
    keyed_evict registry.keyed⟩

def bind (registry : AffinityRegistry) (lookup : AffinityLookup) (stationKeyId : String)
    (nowMs ttlMs : Int64) : Except AffinityBindError AffinityRegistry := do
  validateLookup lookup
  if stationKeyId = "" then throw .invalidInput
  if ttlMs ≤ 0 then throw .invalidTtl
  let ttlMs := min ttlMs registry.policy.ttlMs
  let entry : AffinityEntry :=
    { stationKeyId, boundAtMs := nowMs, expiresAtMs := nowMs.saturatingAdd ttlMs,
      lastTouchedMs := nowMs }
  return (((registry.cleanup nowMs).1.insert lookup entry).enforceBounds)

/-- Among the live bindings of the same value, what the lookup differs in; the expired ones go. -/
def classifyMismatch (registry : AffinityRegistry) (lookup : AffinityLookup) (nowMs : Int64) :
    AffinityMiss × AffinityRegistry :=
  let related (row : AffinityRow) : Bool := row.1.kind = lookup.kind ∧ row.1.value = lookup.value
  let lapsed (row : AffinityRow) : Bool := row.2.expiresAtMs ≤ nowMs
  let live := registry.entries.filter fun row => related row && !lapsed row
  let group (row : AffinityRow) : Bool := row.1.routingGroupScope = lookup.routingGroupScope
  let revision (row : AffinityRow) : Bool := row.1.endpointRevision = lookup.endpointRevision
  let model (row : AffinityRow) : Bool := row.1.modelClass = lookup.modelClass
  let miss : AffinityMiss :=
    if live.any fun row => !group row then .groupScopeMismatch
    else if live.any fun row => group row && !revision row then .endpointRevisionMismatch
    else if live.any fun row => group row && revision row && !model row then .modelMismatch
    else .notFound
  (miss, registry.retain fun row => !(related row && lapsed row))

def lookup (registry : AffinityRegistry) (lookup : AffinityLookup) (nowMs : Int64) :
    Except AffinityMiss AffinityHit × AffinityRegistry :=
  match validateLookup lookup with
  | .error _ => (.error .invalidInput, registry)
  | .ok () =>
    match registry.get lookup with
    | some entry =>
      if entry.expiresAtMs ≤ nowMs then
        (.error .expired, registry.remove lookup)
      else
        (.ok ⟨entry.stationKeyId, entry.boundAtMs, entry.expiresAtMs⟩,
          registry.insert lookup { entry with lastTouchedMs := nowMs })
    | none =>
      let (miss, registry) := registry.classifyMismatch lookup nowMs
      (.error miss, registry)

end AffinityRegistry

/-! ### The eviction order tells entries apart -/

theorem modelClass_order_inj {a b : RuntimeModelClass} (same : a.order = b.order) : a = b := by
  cases a <;> cases b <;> simp_all [RuntimeModelClass.order]

theorem lookup_order_inj {a b : AffinityLookup} (same : a.order = b.order) : a = b := by
  obtain ⟨kind, scope, value, revision, model⟩ := a
  obtain ⟨kind', scope', value', revision', model'⟩ := b
  simp only [AffinityLookup.order, EmbeddingLike.apply_eq_iff_eq, Prod.mk.injEq] at same
  obtain ⟨kinds, rfl, rfl, revisions, models⟩ := same
  obtain rfl := Int64.toInt_inj.mp revisions
  obtain rfl := modelClass_order_inj models
  cases kind <;> cases kind' <;> first | rfl | exact absurd kinds (by decide)

theorem evictionOrder_inj {a b : AffinityRow} (same : evictionOrder a = evictionOrder b) :
    a.1 = b.1 := by
  simp only [evictionOrder, EmbeddingLike.apply_eq_iff_eq, Prod.mk.injEq] at same
  exact lookup_order_inj same.2

namespace AffinityRegistry
variable {registry registry' : AffinityRegistry} {lookup : AffinityLookup} {stationKeyId : String}
  {nowMs ttlMs : Int64}

theorem mem_enforceBounds {row : AffinityRow} :
    row ∈ registry.enforceBounds.entries ↔ row ∈ registry.entries ∧
      registry.entries.countP (fun other => evictionOrder row < evictionOrder other) <
        registry.policy.maxEntries :=
  mem_evict registry.keyed fun _ _ _ _ same => evictionOrder_inj same

/-- The entry `bind` inserts. -/
def boundEntry (registry : AffinityRegistry) (stationKeyId : String) (nowMs ttlMs : Int64) :
    AffinityEntry :=
  { stationKeyId, boundAtMs := nowMs,
    expiresAtMs := nowMs.saturatingAdd (min ttlMs registry.policy.ttlMs), lastTouchedMs := nowMs }

theorem bind_eq_ok : registry.bind lookup stationKeyId nowMs ttlMs = .ok registry' ↔
    (validateLookup lookup = .ok () ∧ stationKeyId ≠ "" ∧ 0 < ttlMs) ∧
      ((registry.cleanup nowMs).1.insert lookup
        (registry.boundEntry stationKeyId nowMs ttlMs)).enforceBounds = registry' := by
  unfold bind
  simp only [bind_ok, guard_ok, pure_ok, Int64.not_le, and_assoc]
  constructor
  · rintro ⟨_, bound⟩
    exact bound
  · exact fun bound => ⟨(), bound⟩

theorem get_eq_some {entry : AffinityEntry} :
    registry.get lookup = some entry ↔ (lookup, entry) ∈ registry.entries := by
  unfold get
  rw [Option.map_eq_some_iff]
  constructor
  · rintro ⟨row, found, rfl⟩
    obtain ⟨mem, rfl⟩ := Table.lookup_some found
    exact mem
  · exact fun mem => ⟨(lookup, entry), registry.keyed.lookup mem, rfl⟩

/-- The lookup answers with this station key. -/
def Visible (registry : AffinityRegistry) (lookup : AffinityLookup) (stationKeyId : String)
    (nowMs : Int64) : Prop :=
  ∃ hit, (registry.lookup lookup nowMs).1 = .ok hit ∧ hit.stationKeyId = stationKeyId

theorem visible_iff (valid : validateLookup lookup = .ok ()) :
    registry.Visible lookup stationKeyId nowMs ↔
      ∃ entry, (lookup, entry) ∈ registry.entries ∧ nowMs < entry.expiresAtMs ∧
        entry.stationKeyId = stationKeyId := by
  unfold Visible AffinityRegistry.lookup
  rw [valid]
  simp only [← get_eq_some]
  cases found : registry.get lookup with
  | none =>
    exact iff_of_false (fun ⟨_, miss, _⟩ => absurd miss nofun)
      fun ⟨_, impossible, _⟩ => absurd impossible nofun
  | some entry =>
    simp only [Option.some.injEq, exists_eq_left']
    split
    · rename_i lapsed
      exact iff_of_false (fun ⟨_, miss, _⟩ => absurd miss nofun)
        fun live => Int64.not_lt.mpr lapsed live.1
    · rename_i live
      rw [and_iff_right (Int64.not_le.mp live)]
      constructor
      · rintro ⟨hit, answer, same⟩
        obtain rfl := Except.ok.inj answer
        exact same
      · exact fun same => ⟨_, rfl, same⟩

/-- A new binding that does not saturate has not expired. -/
theorem now_lt_expiresAt (lifetime : 0 < registry.policy.ttlMs) (positive : 0 < ttlMs)
    (unsaturated : nowMs.toInt + ttlMs.toInt < 2 ^ 63) :
    nowMs < (registry.boundEntry stationKeyId nowMs ttlMs).expiresAtMs := by
  have least : (0 : Int) < (min ttlMs registry.policy.ttlMs).toInt ∧
      (min ttlMs registry.policy.ttlMs).toInt ≤ ttlMs.toInt := by
    show 0 < (if ttlMs ≤ registry.policy.ttlMs then ttlMs else registry.policy.ttlMs).toInt ∧
      (if ttlMs ≤ registry.policy.ttlMs then ttlMs else registry.policy.ttlMs).toInt ≤ ttlMs.toInt
    split
    · exact ⟨Int64.lt_iff_toInt_lt.mp positive, le_refl _⟩
    · rename_i longer
      exact ⟨Int64.lt_iff_toInt_lt.mp lifetime,
        (Int64.lt_iff_toInt_lt.mp (Int64.not_le.mp longer)).le⟩
  have low := nowMs.le_toInt
  rw [Int64.lt_iff_toInt_lt, boundEntry, Int64.toInt_saturatingAdd]
  omega

/-- The entries of other lookups that outlive the cleanup of `bind` and come after the new
binding in the eviction order. -/
def later (registry : AffinityRegistry) (lookup : AffinityLookup) (nowMs : Int64) : Nat :=
  (registry.cleanup nowMs).1.entries.countP fun row =>
    row.1 ≠ lookup ∧ toLex (nowMs.toInt, lookup.order) < evictionOrder row

theorem mem_insert {entry : AffinityEntry} {row : AffinityRow} :
    row ∈ (registry.insert lookup entry).entries ↔
      (row ∈ registry.entries ∧ row.1 ≠ lookup) ∨ row = (lookup, entry) := by
  simp [insert, upsert]

/-- A new binding is visible if and only if fewer entries than the bound come after it. -/
theorem bind_visible_iff (lifetime : 0 < registry.policy.ttlMs)
    (bound : registry.bind lookup stationKeyId nowMs ttlMs = .ok registry')
    (unsaturated : nowMs.toInt + ttlMs.toInt < 2 ^ 63) :
    registry'.Visible lookup stationKeyId nowMs ↔
      registry.later lookup nowMs < registry.policy.maxEntries := by
  obtain ⟨⟨valid, named, positive⟩, rfl⟩ := bind_eq_ok.mp bound
  have only {entry : AffinityEntry} (mem : (lookup, entry) ∈ ((registry.cleanup nowMs).1.insert
      lookup (registry.boundEntry stationKeyId nowMs ttlMs)).entries) :
      entry = registry.boundEntry stationKeyId nowMs ttlMs := by
    rcases mem_insert.mp mem with old | new
    · exact absurd rfl old.2
    · exact (Prod.mk.inj new).2
  have count : ((registry.cleanup nowMs).1.insert lookup
      (registry.boundEntry stationKeyId nowMs ttlMs)).entries.countP (fun other =>
        evictionOrder (lookup, registry.boundEntry stationKeyId nowMs ttlMs) <
          evictionOrder other) = registry.later lookup nowMs := by
    simp only [insert, upsert, later, List.countP_append, List.countP_filter,
      List.countP_singleton, lt_irrefl, decide_false, Bool.false_eq_true, if_false, Nat.add_zero]
    refine List.countP_congr fun row _ => ?_
    simp only [Bool.and_eq_true, decide_eq_true_eq]
    exact and_comm
  rw [visible_iff valid]
  constructor
  · rintro ⟨entry, mem, -, -⟩
    obtain ⟨present, few⟩ := mem_enforceBounds.mp mem
    rw [only present, count] at few
    exact few
  · intro few
    refine ⟨registry.boundEntry stationKeyId nowMs ttlMs, mem_enforceBounds.mpr
      ⟨mem_insert.mpr (.inr rfl), ?_⟩, now_lt_expiresAt lifetime positive unsaturated, rfl⟩
    rw [count]
    exact few

/-! ### Fixed bindings -/

def samplePolicy (maxEntries : Nat) : AffinityPolicy := ⟨maxEntries, 1000⟩

def sampleLookup (value : String) : AffinityLookup :=
  ⟨.session, "all_groups", value, 1, .named "gpt-5"⟩

/-- A full registry takes a later binding and shows it. -/
theorem sampleLookup_binds : ∃ first full bound,
    (new (samplePolicy 2)).bind (sampleLookup "b") "key-b" 5 1000 = .ok first ∧
      first.bind (sampleLookup "c") "key-c" 6 1000 = .ok full ∧ full.entries.length = 2 ∧
      full.bind (sampleLookup "a") "key-a" 10 1000 = .ok bound ∧
      bound.Visible (sampleLookup "a") "key-a" 10 := by
  refine ⟨_, _, _, bind_eq_ok.mpr ⟨⟨by decide, by decide, by decide⟩, rfl⟩,
    bind_eq_ok.mpr ⟨⟨by decide, by decide, by decide⟩, rfl⟩, by decide +kernel,
    bind_eq_ok.mpr ⟨⟨by decide, by decide, by decide⟩, rfl⟩, ?_⟩
  refine (bind_visible_iff (by decide) (bind_eq_ok.mpr ⟨⟨?_, ?_, ?_⟩, rfl⟩) (by decide)).mpr ?_
  all_goals decide +kernel

/-- Of two bindings made in one millisecond under a bound of one, the second may be the one
evicted. -/
theorem bound_entry_evicted :
    (do
      let first ← (new (samplePolicy 1)).bind (sampleLookup "b") "key-b" 10 1000
      let second ← first.bind (sampleLookup "a") "key-a" 10 1000
      return (second.lookup (sampleLookup "a") 10).1) = .ok (.error .notFound) := by
  decide +kernel

end AffinityRegistry

end RelayPool.Routing.Affinity
