import RelayPool.Runs
import RelayPool.Table

/-! The single flight of authorization refreshes.

Callers of one key share a refresh: the first one inserts it, the later ones find it
under the lock, and everyone who awaited it removes the entry afterwards. The entry is
removed by its key, whoever inserted it. As long as every caller that comes back finds
its own refresh there, or nothing, no key has two refreshes running
(`single_flight_iff`); three callers of one key are enough to get two
(`late_waiter_breaks_flight`). -/
namespace RelayPool.Collectors
open Runs Table

inductive ProviderKind
  | sub2Api
  | newApi
  deriving DecidableEq

inductive CredentialScope
  | stationKey
  | loginSession
  | loginPassword
  deriving DecidableEq

structure AuthRefreshKey where
  provider : ProviderKind
  stationId : String
  endpointRevision : Int
  credentialRevision : Int
  scope : CredentialScope
  deriving DecidableEq

structure AuthRefreshOutcome where
  credentialRevision : Int
  deriving DecidableEq

/-- What a refresh comes to. -/
abbrev RefreshResult (Failure : Type) := Except Failure AuthRefreshOutcome

/-- A refresh that was started, and its result once it is done. -/
structure SharedRefresh (Failure : Type) where
  key : AuthRefreshKey
  result : Option (RefreshResult Failure)

inductive CallerPhase (Failure : Type)
  /-- At `shared.await`. -/
  | waiting
  /-- With the result, before it takes the lock again. -/
  | resumed (result : RefreshResult Failure)
  | returned (result : RefreshResult Failure)
  | dropped

/-- A call of `refresh`; `refresh` is the place of the refresh that it awaits. -/
structure Caller (Failure : Type) where
  key : AuthRefreshKey
  refresh : Nat
  phase : CallerPhase Failure

structure AuthRefreshSingleFlight (Failure : Type) where
  /-- Every refresh that was started, in this order. -/
  refreshes : List (SharedRefresh Failure)
  inFlight : List (AuthRefreshKey × Nat)
  callers : List (Caller Failure)

inductive FlightStep (Failure : Type)
  /-- A call looks its key up under the lock, and inserts a refresh if there is none. -/
  | call (key : AuthRefreshKey)
  /-- A waiter polls the refresh to its end. -/
  | complete (refresh : Nat) (result : RefreshResult Failure)
  | resume (caller : Nat)
  /-- The caller removes the entry of its key under the lock, and returns. -/
  | remove (caller : Nat)
  | drop (caller : Nat)

namespace AuthRefreshSingleFlight
variable {Failure : Type} (flight : AuthRefreshSingleFlight Failure)

def inFlightOf (key : AuthRefreshKey) : Option Nat := (lookup Prod.fst flight.inFlight key).map Prod.snd

/-- Some caller is still at `shared.await` of the refresh. -/
def Awaited (refresh : Nat) : Prop :=
  ∃ key, (⟨key, refresh, .waiting⟩ : Caller Failure) ∈ flight.callers

def isAwaited (refresh : Nat) : Bool :=
  flight.callers.any fun caller =>
    match caller.phase with
    | .waiting => caller.refresh = refresh
    | _ => false

def call (key : AuthRefreshKey) : AuthRefreshSingleFlight Failure :=
  match flight.inFlightOf key with
  | some refresh => { flight with callers := flight.callers ++ [⟨key, refresh, .waiting⟩] }
  | none =>
    { refreshes := flight.refreshes ++ [⟨key, none⟩]
      inFlight := flight.inFlight ++ [(key, flight.refreshes.length)]
      callers := flight.callers ++ [⟨key, flight.refreshes.length, .waiting⟩] }

def complete (refresh : Nat) (result : RefreshResult Failure) : AuthRefreshSingleFlight Failure :=
  match flight.refreshes[refresh]? with
  | some ⟨key, none⟩ =>
    if flight.isAwaited refresh
    then { flight with refreshes := flight.refreshes.set refresh ⟨key, some result⟩ }
    else flight
  | _ => flight

def resume (caller : Nat) : AuthRefreshSingleFlight Failure :=
  match flight.callers[caller]? with
  | some ⟨key, refresh, .waiting⟩ =>
    match flight.refreshes[refresh]? with
    | some ⟨_, some result⟩ =>
      { flight with callers := flight.callers.set caller ⟨key, refresh, .resumed result⟩ }
    | _ => flight
  | _ => flight

def remove (caller : Nat) : AuthRefreshSingleFlight Failure :=
  match flight.callers[caller]? with
  | some ⟨key, refresh, .resumed result⟩ =>
    { flight with
      inFlight := flight.inFlight.filter (·.1 ≠ key)
      callers := flight.callers.set caller ⟨key, refresh, .returned result⟩ }
  | _ => flight

def drop (caller : Nat) : AuthRefreshSingleFlight Failure :=
  match flight.callers[caller]? with
  | some ⟨key, refresh, .waiting⟩ | some ⟨key, refresh, .resumed _⟩ =>
    { flight with callers := flight.callers.set caller ⟨key, refresh, .dropped⟩ }
  | _ => flight

def step : FlightStep Failure → AuthRefreshSingleFlight Failure
  | .call key => flight.call key
  | .complete refresh result => flight.complete refresh result
  | .resume caller => flight.resume caller
  | .remove caller => flight.remove caller
  | .drop caller => flight.drop caller

def new : AuthRefreshSingleFlight Failure := ⟨[], [], []⟩

/-- The refresh was started, is not done, and can still be polled: a caller awaits it, or
the next caller of the key finds it. -/
def Running (key : AuthRefreshKey) (refresh : Nat) : Prop :=
  flight.refreshes[refresh]? = some ⟨key, none⟩ ∧
    (flight.inFlightOf key = some refresh ∨ flight.Awaited refresh)

/-- The caller has the result of the refresh that it awaited. -/
def Holds (caller : Caller Failure) (result : RefreshResult Failure) : Prop :=
  caller ∈ flight.callers ∧ (caller.phase = .resumed result ∨ caller.phase = .returned result)

structure Sound : Prop where
  single : ∀ key i j, flight.Running key i → flight.Running key j → i = j
  reachable : Keyed Prod.fst flight.inFlight
  results : ∀ caller result, flight.Holds caller result →
    flight.refreshes[caller.refresh]? = some ⟨caller.key, some result⟩

/-- The step starts no refresh beside a running one, lets only those who awaited a refresh
remove its entry, and gives no new caller a refresh that somebody has returned from. -/
structure StepSound (action : FlightStep Failure) : Prop where
  after : (flight.step action).Sound
  starts : ∀ key, (flight.step action).refreshes = flight.refreshes ++ [⟨key, none⟩] →
    ∀ refresh, ¬ flight.Running key refresh
  keepsNewer : ∀ key refresh, flight.inFlightOf key = some refresh →
    (flight.step action).inFlightOf key ≠ some refresh → ∃ caller result, action = .remove caller ∧
      flight.callers[caller]? = some ⟨key, refresh, .resumed result⟩
  fresh : ∀ key refresh, action = .call key →
    (flight.step action).callers = flight.callers ++ [⟨key, refresh, .waiting⟩] →
    ∀ result, ⟨key, refresh, .returned result⟩ ∉ flight.callers

/-- A caller that comes back to remove the entry finds its own refresh there, or nothing. -/
def removesOwn : FlightStep Failure → Bool
  | .remove caller =>
    match flight.callers[caller]? with
    | some ⟨key, refresh, .resumed _⟩ => (flight.inFlightOf key).all fun inserted => inserted = refresh
    | _ => true
  | _ => true

/-! ### What a step does -/

/-- The ways in which a step changes something. -/
inductive Moves : FlightStep Failure → AuthRefreshSingleFlight Failure → Prop
  | joined {key refresh} : flight.inFlightOf key = some refresh →
      Moves (.call key) { flight with callers := flight.callers ++ [⟨key, refresh, .waiting⟩] }
  | started {key} : flight.inFlightOf key = none →
      Moves (.call key)
        ⟨flight.refreshes ++ [⟨key, none⟩], flight.inFlight ++ [(key, flight.refreshes.length)],
          flight.callers ++ [⟨key, flight.refreshes.length, .waiting⟩]⟩
  | completed {key refresh result} : flight.refreshes[refresh]? = some ⟨key, none⟩ →
      Moves (.complete refresh result)
        { flight with refreshes := flight.refreshes.set refresh ⟨key, some result⟩ }
  | resumed {caller key refresh key' result} :
      flight.callers[caller]? = some ⟨key, refresh, .waiting⟩ →
      flight.refreshes[refresh]? = some ⟨key', some result⟩ →
      Moves (.resume caller)
        { flight with callers := flight.callers.set caller ⟨key, refresh, .resumed result⟩ }
  | removed {caller key refresh result} :
      flight.callers[caller]? = some ⟨key, refresh, .resumed result⟩ →
      Moves (.remove caller)
        { flight with
          inFlight := flight.inFlight.filter (·.1 ≠ key)
          callers := flight.callers.set caller ⟨key, refresh, .returned result⟩ }
  | dropped {caller key refresh phase} : flight.callers[caller]? = some ⟨key, refresh, phase⟩ →
      Moves (.drop caller)
        { flight with callers := flight.callers.set caller ⟨key, refresh, .dropped⟩ }

theorem step_moves (action : FlightStep Failure) :
    flight.step action = flight ∨ flight.Moves action (flight.step action) := by
  cases action with
  | call key =>
    cases found : flight.inFlightOf key with
    | some refresh => exact .inr (by simpa [step, call, found] using Moves.joined found)
    | none => exact .inr (by simpa [step, call, found] using Moves.started found)
  | complete refresh result =>
    simp only [step, complete]
    split
    · rename_i key found
      split
      · exact .inr (.completed found)
      · exact .inl rfl
    · exact .inl rfl
  | resume caller =>
    simp only [step, resume]
    split
    · rename_i key refresh waiting
      split
      · rename_i key' result found
        exact .inr (.resumed waiting found)
      · exact .inl rfl
    · exact .inl rfl
  | remove caller =>
    simp only [step, remove]
    split
    · rename_i key refresh result found
      exact .inr (.removed found)
    · exact .inl rfl
  | drop caller =>
    simp only [step, drop]
    split
    · exact .inr (.dropped ‹_›)
    · exact .inr (.dropped ‹_›)
    · exact .inl rfl

/-! ### The invariant -/

/-- What holds of the single flight as long as no caller removes a newer entry. -/
structure Kept : Prop where
  keyed : Keyed Prod.fst flight.inFlight
  entries : ∀ key refresh, flight.inFlightOf key = some refresh →
    ∃ result, flight.refreshes[refresh]? = some ⟨key, result⟩
  joined : ∀ caller ∈ flight.callers,
    ∃ result, flight.refreshes[caller.refresh]? = some ⟨caller.key, result⟩
  results : ∀ caller result, flight.Holds caller result →
    flight.refreshes[caller.refresh]? = some ⟨caller.key, some result⟩
  awaited : ∀ key refresh, flight.refreshes[refresh]? = some ⟨key, none⟩ → flight.Awaited refresh →
    flight.inFlightOf key = some refresh
  left : ∀ key refresh result, ⟨key, refresh, .returned result⟩ ∈ flight.callers →
    flight.inFlightOf key ≠ some refresh

variable {flight}

theorem Kept.running (kept : flight.Kept) {key : AuthRefreshKey} {refresh : Nat}
    (running : flight.Running key refresh) : flight.inFlightOf key = some refresh :=
  running.2.elim id (kept.awaited key refresh running.1)

theorem Kept.sound (kept : flight.Kept) : flight.Sound where
  single _ _ _ first second :=
    Option.some.inj ((kept.running first).symm.trans (kept.running second))
  reachable := kept.keyed
  results := kept.results

theorem Kept.new : (new : AuthRefreshSingleFlight Failure).Kept where
  keyed := List.nodup_nil
  entries _ _ found := by cases found
  joined _ mem := by cases mem
  results _ _ holds := by cases holds.1
  awaited _ _ found := by cases found
  left _ _ _ mem := by cases mem

theorem inFlightOf_concat {key : AuthRefreshKey} {refresh : Nat} (absent : flight.inFlightOf key = none)
    (k : AuthRefreshKey) : ((lookup Prod.fst (flight.inFlight ++ [(key, refresh)]) k).map Prod.snd) =
      if k = key then some refresh else flight.inFlightOf k := by
  have fresh : lookup Prod.fst flight.inFlight key = none := Option.map_eq_none_iff.mp absent
  rw [lookup_concat (r := (key, refresh)) fresh]
  by_cases same : key = k
  · rw [if_pos same, if_pos same.symm]
    rfl
  · rw [if_neg same, if_neg (Ne.symm same)]
    rfl

theorem inFlightOf_filter (key k : AuthRefreshKey) :
    ((lookup Prod.fst (flight.inFlight.filter (·.1 ≠ key)) k).map Prod.snd) =
      if k = key then none else flight.inFlightOf k := by
  rw [lookup_filter_ne]
  by_cases same : k = key
  · rw [if_pos same, if_pos same.symm]
    rfl
  · rw [if_neg same, if_neg (Ne.symm same)]
    rfl

theorem getElem?_concat_some {α : Type*} {xs : List α} {x y : α} {i : Nat} :
    (xs ++ [x])[i]? = some y ↔ xs[i]? = some y ∨ i = xs.length ∧ x = y := by
  rw [List.getElem?_append]
  split
  · rename_i inside
    exact (or_iff_left fun last => Nat.ne_of_lt inside last.1).symm
  · rename_i outside
    have past : xs[i]? = none := List.getElem?_eq_none (Nat.le_of_not_lt outside)
    rw [past, List.getElem?_singleton]
    have last : i - xs.length = 0 ↔ i = xs.length := by omega
    simp [last]

/-- A caller is added that awaits a refresh of its key. -/
theorem Kept.join {key : AuthRefreshKey} {refresh : Nat} (kept : flight.Kept)
    (found : flight.inFlightOf key = some refresh) :
    Kept { flight with callers := flight.callers ++ [⟨key, refresh, .waiting⟩] } where
  keyed := kept.keyed
  entries := kept.entries
  joined caller mem := by
    rcases List.mem_append.mp mem with mem | mem
    · exact kept.joined caller mem
    · cases List.mem_singleton.mp mem
      exact kept.entries key refresh found
  results caller result holds := by
    rcases List.mem_append.mp holds.1 with mem | mem
    · exact kept.results caller result ⟨mem, holds.2⟩
    · cases List.mem_singleton.mp mem
      rcases holds.2 with phase | phase <;> cases phase
  awaited k i open' awaited := by
    obtain ⟨key', mem⟩ := awaited
    rcases List.mem_append.mp mem with mem | mem
    · exact kept.awaited k i open' ⟨key', mem⟩
    · cases List.mem_singleton.mp mem
      obtain ⟨result, isRefresh⟩ := kept.entries key refresh found
      cases isRefresh.symm.trans open'
      exact found
  left k i result mem := by
    rcases List.mem_append.mp mem with mem | mem
    · exact kept.left k i result mem
    · cases List.mem_singleton.mp mem

/-- A caller is added with the refresh that it starts. -/
theorem Kept.start {key : AuthRefreshKey} (kept : flight.Kept)
    (absent : flight.inFlightOf key = none) :
    Kept ⟨flight.refreshes ++ [⟨key, none⟩], flight.inFlight ++ [(key, flight.refreshes.length)],
      flight.callers ++ [⟨key, flight.refreshes.length, .waiting⟩]⟩ where
  keyed := kept.keyed.concat (Option.map_eq_none_iff.mp absent)
  entries k i found := by
    have found := (inFlightOf_concat absent k).symm.trans found
    split at found
    · rename_i same
      cases found
      exact ⟨none, getElem?_concat_some.mpr (.inr ⟨rfl, same ▸ rfl⟩)⟩
    · obtain ⟨result, isRefresh⟩ := kept.entries k i found
      exact ⟨result, getElem?_concat_some.mpr (.inl isRefresh)⟩
  joined caller mem := by
    rcases List.mem_append.mp mem with mem | mem
    · obtain ⟨result, isRefresh⟩ := kept.joined caller mem
      exact ⟨result, getElem?_concat_some.mpr (.inl isRefresh)⟩
    · cases List.mem_singleton.mp mem
      exact ⟨none, getElem?_concat_some.mpr (.inr ⟨rfl, rfl⟩)⟩
  results caller result holds := by
    rcases List.mem_append.mp holds.1 with mem | mem
    · exact getElem?_concat_some.mpr (.inl (kept.results caller result ⟨mem, holds.2⟩))
    · cases List.mem_singleton.mp mem
      rcases holds.2 with phase | phase <;> cases phase
  awaited k i open' awaited := by
    refine (inFlightOf_concat absent k).trans ?_
    rcases getElem?_concat_some.mp open' with open' | ⟨rfl, same⟩
    · have old : flight.Awaited i := by
        obtain ⟨key', mem⟩ := awaited
        rcases List.mem_append.mp mem with mem | mem
        · exact ⟨key', mem⟩
        · cases List.mem_singleton.mp mem
          have inside := (List.getElem?_eq_some_iff.mp open').1
          exact absurd inside (Nat.lt_irrefl _)
      have found := kept.awaited k i open' old
      rw [if_neg, found]
      rintro rfl
      cases absent.symm.trans found
    · cases same
      exact if_pos rfl
  left k i result mem := by
    rcases List.mem_append.mp mem with mem | mem
    · obtain ⟨outcome, isRefresh⟩ := kept.joined _ mem
      refine fun found => ?_
      have found := (inFlightOf_concat absent k).symm.trans found
      split at found
      · cases found
        have inside := (List.getElem?_eq_some_iff.mp isRefresh).1
        exact absurd inside (Nat.lt_irrefl _)
      · exact kept.left k i result mem found
    · cases List.mem_singleton.mp mem

theorem Kept.complete {key : AuthRefreshKey} {refresh : Nat} {result : RefreshResult Failure}
    (kept : flight.Kept) (open' : flight.refreshes[refresh]? = some ⟨key, none⟩) :
    Kept { flight with refreshes := flight.refreshes.set refresh ⟨key, some result⟩ } := by
  have inside := (List.getElem?_eq_some_iff.mp open').1
  have now : (flight.refreshes.set refresh ⟨key, some result⟩)[refresh]? =
      some ⟨key, some result⟩ := by
    rw [List.getElem?_set_self inside]
  have other {i : Nat} (ne : refresh ≠ i) :
      (flight.refreshes.set refresh ⟨key, some result⟩)[i]? = flight.refreshes[i]? :=
    List.getElem?_set_ne ne
  have known {k : AuthRefreshKey} {i : Nat} (was : ∃ r, flight.refreshes[i]? = some ⟨k, r⟩) :
      ∃ r, (flight.refreshes.set refresh ⟨key, some result⟩)[i]? = some ⟨k, r⟩ := by
    obtain ⟨r, was⟩ := was
    by_cases same : refresh = i
    · subst same
      cases open'.symm.trans was
      exact ⟨some result, now⟩
    · exact ⟨r, (other same).trans was⟩
  refine ⟨kept.keyed, fun k i found => known (kept.entries k i found),
    fun caller mem => known (kept.joined caller mem), fun caller result' holds => ?_,
    fun k i stillOpen awaited => ?_, kept.left⟩
  · have had := kept.results caller result' holds
    by_cases same : refresh = caller.refresh
    · rw [← same] at had
      cases open'.symm.trans had
    · exact (other same).trans had
  · by_cases same : refresh = i
    · subst same
      cases now.symm.trans stillOpen
    · exact kept.awaited k i ((other same).symm.trans stillOpen) awaited

/-- A caller moves on, and the entry of its key may be removed. -/
theorem Kept.move {caller refresh : Nat} {key : AuthRefreshKey} {was phase : CallerPhase Failure}
    (kept : flight.Kept) (found : flight.callers[caller]? = some ⟨key, refresh, was⟩)
    (waits : phase ≠ .waiting)
    (holds : ∀ result, phase = .resumed result ∨ phase = .returned result →
      flight.refreshes[refresh]? = some ⟨key, some result⟩)
    (leaves : ∀ result, phase ≠ .returned result) :
    Kept { flight with callers := flight.callers.set caller ⟨key, refresh, phase⟩ } where
  keyed := kept.keyed
  entries := kept.entries
  joined other mem := by
    rcases List.mem_or_eq_of_mem_set mem with mem | rfl
    · exact kept.joined other mem
    · exact kept.joined ⟨key, refresh, was⟩ (List.mem_of_getElem? found)
  results other result holding := by
    rcases List.mem_or_eq_of_mem_set holding.1 with mem | rfl
    · exact kept.results other result ⟨mem, holding.2⟩
    · exact holds result holding.2
  awaited k i open' awaited := by
    obtain ⟨key', mem⟩ := awaited
    rcases List.mem_or_eq_of_mem_set mem with mem | same
    · exact kept.awaited k i open' ⟨key', mem⟩
    · cases same
      exact absurd rfl waits
  left k i result mem := by
    rcases List.mem_or_eq_of_mem_set mem with mem | same
    · exact kept.left k i result mem
    · cases same
      exact absurd rfl (leaves result)

/-- The caller finds its own refresh, or nothing, and removes it. -/
theorem Kept.remove {caller refresh : Nat} {key : AuthRefreshKey} {result : RefreshResult Failure}
    (kept : flight.Kept)
    (found : flight.callers[caller]? = some ⟨key, refresh, .resumed result⟩)
    (own : ∀ inserted, flight.inFlightOf key = some inserted → inserted = refresh) :
    Kept { flight with
      inFlight := flight.inFlight.filter (·.1 ≠ key)
      callers := flight.callers.set caller ⟨key, refresh, .returned result⟩ } := by
  have mem : ⟨key, refresh, .resumed result⟩ ∈ flight.callers := List.mem_of_getElem? found
  have done := kept.results ⟨key, refresh, .resumed result⟩ result ⟨mem, .inl rfl⟩
  have still {k : AuthRefreshKey} {i : Nat}
      (stays : ((lookup Prod.fst (flight.inFlight.filter (·.1 ≠ key)) k).map Prod.snd) = some i) :
      k ≠ key ∧ flight.inFlightOf k = some i := by
    have stays := (inFlightOf_filter key k).symm.trans stays
    split at stays
    · cases stays
    · rename_i other
      exact ⟨other, stays⟩
  refine ⟨kept.keyed.filter _, fun k i stays => kept.entries k i (still stays).2,
    fun other mem' => ?_, fun other result' holds => ?_, fun k i open' awaited => ?_,
    fun k i result' mem' stays => ?_⟩
  · rcases List.mem_or_eq_of_mem_set mem' with mem' | rfl
    · exact kept.joined other mem'
    · exact ⟨some result, done⟩
  · rcases List.mem_or_eq_of_mem_set holds.1 with mem' | rfl
    · exact kept.results other result' ⟨mem', holds.2⟩
    · rcases holds.2 with phase | phase
      · cases phase
      · cases phase
        exact done
  · have awaited : flight.Awaited i := by
      obtain ⟨key', mem'⟩ := awaited
      rcases List.mem_or_eq_of_mem_set mem' with mem' | same
      · exact ⟨key', mem'⟩
      · cases same
    have entered := kept.awaited k i open' awaited
    refine (inFlightOf_filter key k).trans ((if_neg ?_).trans entered)
    rintro rfl
    cases own i entered
    cases done.symm.trans open'
  · obtain ⟨other, stays⟩ := still stays
    rcases List.mem_or_eq_of_mem_set mem' with mem' | same
    · exact kept.left k i result' mem' stays
    · cases same
      exact other rfl

variable {action : FlightStep Failure}

theorem removesOwn_remove {caller refresh : Nat} {key : AuthRefreshKey}
    {result : RefreshResult Failure} (own : flight.removesOwn (.remove caller))
    (found : flight.callers[caller]? = some ⟨key, refresh, .resumed result⟩) {inserted : Nat}
    (entered : flight.inFlightOf key = some inserted) : inserted = refresh := by
  simpa [removesOwn, found, entered] using own

theorem Kept.step (kept : flight.Kept) (own : flight.removesOwn action) :
    (flight.step action).Kept := by
  rcases flight.step_moves action with same | moves
  · rw [same]
    exact kept
  · generalize flight.step action = next at moves
    cases moves with
    | joined found => exact kept.join found
    | started absent => exact kept.start absent
    | completed open' => exact kept.complete open'
    | @resumed caller key refresh key' result found done =>
      obtain ⟨result', isRefresh⟩ := kept.joined ⟨key, refresh, .waiting⟩ (List.mem_of_getElem? found)
      cases isRefresh.symm.trans done
      refine kept.move found (nofun) (fun held phase => ?_) nofun
      rcases phase with phase | phase
      · cases phase
        exact done
      · cases phase
    | removed found => exact kept.remove found fun _ entered => removesOwn_remove own found entered
    | dropped found =>
      refine kept.move found (nofun) (fun held phase => ?_) nofun
      rcases phase with phase | phase <;> cases phase

/-! ### Steps -/

/-- An entry is only ever removed by a caller of its key. -/
theorem keeps_entry {key : AuthRefreshKey} {refresh : Nat} (entered : flight.inFlightOf key = some refresh)
    (gone : (flight.step action).inFlightOf key ≠ some refresh) :
    ∃ caller own result, action = .remove caller ∧
      flight.callers[caller]? = some ⟨key, own, .resumed result⟩ := by
  rcases flight.step_moves action with same | moves
  · rw [same] at gone
    exact absurd entered gone
  · generalize flight.step action = next at moves gone
    cases moves with
    | joined found => exact absurd entered gone
    | @started started absent =>
      refine absurd ((inFlightOf_concat absent key).trans ?_) gone
      rw [if_neg, entered]
      rintro rfl
      cases absent.symm.trans entered
    | completed open' => exact absurd entered gone
    | resumed found done => exact absurd entered gone
    | @removed caller removed own result found =>
      by_cases same : key = removed
      · subst same
        exact ⟨caller, own, result, rfl, found⟩
      · exact absurd ((inFlightOf_filter removed key).trans ((if_neg same).trans entered)) gone
    | dropped found => exact absurd entered gone

/-- A refresh is only started for a key that has no entry. -/
theorem started_absent {key : AuthRefreshKey}
    (started : (flight.step action).refreshes = flight.refreshes ++ [⟨key, none⟩]) :
    flight.inFlightOf key = none := by
  have longer := congrArg List.length started
  rw [List.length_append, List.length_singleton] at longer
  rcases flight.step_moves action with same | moves
  · rw [same] at longer
    omega
  · generalize flight.step action = next at moves started longer
    cases moves with
    | started absent =>
      cases List.append_cancel_left started
      exact absent
    | completed open' => simp at longer
    | joined found => simp at longer
    | resumed found done => simp at longer
    | removed found => simp at longer
    | dropped found => simp at longer

theorem Kept.fresh (kept : flight.Kept) {key : AuthRefreshKey} {refresh : Nat}
    {result : RefreshResult Failure}
    (joins : (flight.step (.call key)).callers = flight.callers ++ [⟨key, refresh, .waiting⟩]) :
    ⟨key, refresh, .returned result⟩ ∉ flight.callers := by
  intro mem
  simp only [AuthRefreshSingleFlight.step, call] at joins
  split at joins
  · rename_i found entered
    cases List.append_cancel_left joins
    exact kept.left key refresh result mem entered
  · cases List.append_cancel_left joins
    obtain ⟨known, isRefresh⟩ := kept.joined _ mem
    exact absurd (List.getElem?_eq_some_iff.mp isRefresh).1 (Nat.lt_irrefl _)

theorem Kept.stepSound_iff (kept : flight.Kept) :
    flight.StepSound action ↔ flight.removesOwn action := by
  constructor
  · intro sound
    cases action with
    | remove caller =>
      simp only [removesOwn]
      split
      · rename_i key refresh result found
        refine Option.all_eq_true _ _ |>.mpr fun inserted entered => ?_
        have gone : (flight.step (.remove caller)).inFlightOf key ≠ some inserted := by
          simp only [AuthRefreshSingleFlight.step, AuthRefreshSingleFlight.remove, found]
          refine ne_of_eq_of_ne (inFlightOf_filter key key) ?_
          rw [if_pos rfl]
          exact nofun
        obtain ⟨other, held, same, isOther⟩ := sound.keepsNewer key inserted entered gone
        cases same
        cases found.symm.trans isOther
        exact decide_eq_true rfl
      · rfl
    | call key => rfl
    | complete refresh result => rfl
    | resume caller => rfl
    | drop caller => rfl
  · intro own
    refine ⟨(kept.step own).sound, fun key started refresh running => ?_,
      fun key refresh entered gone => ?_, ?_⟩
    · cases (started_absent started).symm.trans (kept.running running)
    · obtain ⟨caller, awaited, result, rfl, found⟩ := keeps_entry entered gone
      cases removesOwn_remove own found entered
      exact ⟨caller, result, rfl, found⟩
    · rintro key refresh rfl joins result
      exact kept.fresh joins

end AuthRefreshSingleFlight

open AuthRefreshSingleFlight

theorem single_flight_iff {Failure : Type} (actions : List (FlightStep Failure)) :
    (new : AuthRefreshSingleFlight Failure).Sound ∧ Along step StepSound new actions ↔
      Along step (fun flight action => flight.removesOwn action = true) new actions :=
  (and_iff_right Kept.new.sound).trans
    (along_iff (fun _ _ _ kept => kept.stepSound_iff) (fun _ _ _ kept own => kept.step own)
      Kept.new fun _ _ => trivial)

/-! ### A waiter that resumes late -/

def sampleKey : AuthRefreshKey := ⟨.newApi, "station-1", 7, 11, .loginSession⟩

/-- Two callers await one refresh; a third one starts the next before the second is back. -/
def sampleLate : List (FlightStep Unit) :=
  [.call sampleKey, .call sampleKey, .complete 0 (.ok ⟨12⟩), .resume 0, .remove 0,
    .call sampleKey, .resume 1, .remove 1]

theorem late_waiter_breaks_flight :
    ¬ Along step StepSound (new : AuthRefreshSingleFlight Unit) (sampleLate ++ [.call sampleKey]) := by
  intro sound
  have after := (along_append.mp sound).2.1.after
  have first : (run step new (sampleLate ++ [.call sampleKey])).Running sampleKey 1 :=
    ⟨rfl, .inr ⟨sampleKey, @List.mem_of_getElem? _ _ 2 _ rfl⟩⟩
  have second : (run step new (sampleLate ++ [.call sampleKey])).Running sampleKey 2 :=
    ⟨rfl, .inl rfl⟩
  rw [run_concat] at first second
  cases after.single sampleKey 1 2 first second

end RelayPool.Collectors
