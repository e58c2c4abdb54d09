import RelayPool.Protocol.Handover

/-! What a bootstrap has given out (`precommit_safe`).

Calls that all succeed are answered as one would answer the upstream's bytes at once: nothing
is given out before an event commits, the events up to the terminal are given out in their order
from then on, and a stream that fails before that is reported and not given out. How the bytes
were cut into chunks does not matter. -/
namespace RelayPool.Protocol
open Fallible Framing

/-! ### What complete events come to -/

/-- What a stream comes to before anything of it is given out. -/
inductive Fate
  | held
  | commits
  | ends (terminal : ProtocolTerminal) (event : Bytes)
deriving DecidableEq, Repr

/-- The first event that is not held back decides. -/
def fate (profile : Profile) : List Bytes → Fate
  | [] => .held
  | raw :: rest =>
    match kindOf profile raw with
    | .ok .semantic | .ok (.terminal .completed) => .commits
    | .ok (.terminal terminal) => .ends terminal raw
    | .ok .heartbeat | .ok .control | .error _ => fate profile rest

def terminalOf (profile : Profile) (raw : Bytes) : Option ProtocolTerminal :=
  (kindOf profile raw).toOption.bind (·.terminal?)

def firstTerminal (profile : Profile) (raws : List Bytes) : Option ProtocolTerminal :=
  raws.findSome? (terminalOf profile)

/-- The events up to the first terminal. -/
def untilTerminal (profile : Profile) : List Bytes → List Bytes
  | [] => []
  | raw :: rest =>
    if (terminalOf profile raw).isSome then [raw] else raw :: untilTerminal profile rest

section Events
variable {profile : Profile} {raws raws' : List Bytes} {raw : Bytes} {kind : ProtocolEventKind}

theorem terminalOf_ok (is : kindOf profile raw = .ok kind) :
    terminalOf profile raw = kind.terminal? := by
  unfold terminalOf
  rw [is]
  rfl

theorem firstTerminal_cons_none : firstTerminal profile (raw :: raws) = none ↔
    terminalOf profile raw = none ∧ firstTerminal profile raws = none := by
  simp only [firstTerminal, List.findSome?_eq_none_iff, List.forall_mem_cons]

theorem firstTerminal_append (none : firstTerminal profile raws = none) :
    firstTerminal profile (raws ++ raws') = firstTerminal profile raws' := by
  rw [firstTerminal, List.findSome?_append, ← firstTerminal, none]
  rfl

theorem untilTerminal_append (none : firstTerminal profile raws = none) :
    untilTerminal profile (raws ++ raws') = raws ++ untilTerminal profile raws' := by
  induction raws with
  | nil => rfl
  | cons raw rest ih =>
    obtain ⟨here, later⟩ := firstTerminal_cons_none.mp none
    rw [List.cons_append, untilTerminal, here, ih later]
    rfl

theorem untilTerminal_eq (none : firstTerminal profile raws = none) :
    untilTerminal profile raws = raws := by
  have whole := @untilTerminal_append profile raws [] none
  rwa [List.append_nil, untilTerminal, List.append_nil] at whole

theorem fate_append (none : firstTerminal profile raws = none) :
    fate profile (raws ++ raws') =
      if fate profile raws = .held then fate profile raws' else fate profile raws := by
  induction raws with
  | nil => rfl
  | cons raw rest ih =>
    obtain ⟨here, later⟩ := firstTerminal_cons_none.mp none
    have rest := ih later
    unfold terminalOf at here
    rw [List.cons_append, fate, fate]
    cases is : kindOf profile raw with
    | error failure => exact rest
    | ok kind =>
      rw [is] at here
      cases kind with
      | heartbeat => exact rest
      | control => exact rest
      | semantic => rfl
      | terminal => cases here

/-- A stream that has failed has its terminal. -/
theorem firstTerminal_of_ends {terminal : ProtocolTerminal} {event : Bytes}
    (ends : fate profile raws = .ends terminal event) : firstTerminal profile raws = some terminal := by
  induction raws with
  | nil => cases ends
  | cons raw rest ih =>
    rw [firstTerminal, List.findSome?_cons]
    unfold fate at ends
    unfold terminalOf
    cases is : kindOf profile raw with
    | error failure =>
      rw [is] at ends
      exact ih ends
    | ok kind =>
      rw [is] at ends
      rcases kind with _ | _ | _ | (_ | _ | _)
      · exact ih ends
      · exact ih ends
      · cases ends
      · cases ends
      · cases ends
        rfl
      · cases ends
        rfl

end Events

/-! ### One chunk -/

section Chunk
variable {profile : Profile} {raws : List Bytes} {events : List ProtocolEvent}

theorem until_classified (classified : Classified profile raws events) :
    untilTerminal profile raws = events.map (·.raw) := by
  induction classified with
  | none => rfl
  | event is notTerminal _ ih =>
    rw [untilTerminal, terminalOf_ok is, notTerminal, ih]
    rfl
  | terminal is _ =>
    rw [untilTerminal, terminalOf_ok is]
    rfl

/-- A committed machine gives out every event. -/
theorem observe_classified (classified : Classified profile raws events) {e : Emission}
    {out : Emission ⊕ (ProtocolTerminal × Bytes)} (committed : e.committed = true)
    (fresh : e.terminal = none) (h : e.observe events = .ok out) :
    out = .inl ⟨e.buffered, true, e.emitted ++ events.map (·.raw), firstTerminal profile raws⟩ := by
  induction classified generalizing e with
  | none =>
    obtain ⟨buffered, _, emitted, _⟩ := e
    obtain rfl : _ = true := committed
    obtain rfl : _ = none := fresh
    cases h
    simp [firstTerminal]
  | @event raw kind rest events is notTerminal _ ih =>
    have later : firstTerminal profile (raw :: rest) = firstTerminal profile rest := by
      rw [firstTerminal, List.findSome?_cons, terminalOf_ok is, notTerminal, ← firstTerminal]
    have next : (e.emit raw).observe events = .ok out := by
      unfold Emission.observe at h
      rw [committed] at h
      cases kind with
      | terminal => cases notTerminal
      | _ => exact h
    rw [@ih (e.emit raw) committed fresh next, later]
    simp [Emission.emit]
  | @terminal raw terminal rest is _ =>
    have here : firstTerminal profile (raw :: rest) = some terminal := by
      rw [firstTerminal, List.findSome?_cons, terminalOf_ok is]
      rfl
    unfold Emission.observe at h
    rw [committed] at h
    rw [here]
    obtain ⟨buffered, _, emitted, _⟩ := e
    obtain rfl : _ = true := committed
    cases terminal <;> cases h <;> rfl

/-- What a machine that has given out nothing makes of the events of a chunk. -/
structure Decided (profile : Profile) (raws : List Bytes) (buffered : Bytes)
    (out : Emission ⊕ (ProtocolTerminal × Bytes)) : Prop where
  held : fate profile raws = .held →
    out = .inl ⟨buffered ++ raws.flatten, false, [], none⟩ ∧ firstTerminal profile raws = none
  commits : fate profile raws = .commits → ∃ emitted, emitted ≠ [] ∧
    emitted.flatten = buffered ++ (untilTerminal profile raws).flatten ∧
    out = .inl ⟨[], true, emitted, firstTerminal profile raws⟩
  ends : ∀ terminal event, fate profile raws = .ends terminal event → out = .inr (terminal, event)

theorem observe_decided (classified : Classified profile raws events) {buffered : Bytes}
    {out : Emission ⊕ (ProtocolTerminal × Bytes)}
    (h : Emission.observe ⟨buffered, false, [], none⟩ events = .ok out) :
    Decided profile raws buffered out := by
  induction classified generalizing buffered with
  | none =>
    cases h
    refine ⟨fun _ => ⟨by simp, rfl⟩, fun commits => ?_, fun _ _ ends => ?_⟩
    · cases commits
    · cases ends
  | @event raw kind rest events is notTerminal classified ih =>
    have later : firstTerminal profile (raw :: rest) = firstTerminal profile rest := by
      rw [firstTerminal, List.findSome?_cons, terminalOf_ok is, notTerminal, ← firstTerminal]
    have more : untilTerminal profile (raw :: rest) = raw :: untilTerminal profile rest := by
      rw [untilTerminal, terminalOf_ok is, notTerminal]
      rfl
    have back (same : fate profile (raw :: rest) = fate profile rest)
        (h : Emission.observe ⟨buffered ++ raw, false, [], none⟩ events = .ok out) :
        Decided profile (raw :: rest) buffered out := by
      obtain ⟨held, commits, ends⟩ := ih h
      refine ⟨fun is => ?_, fun is => ?_, fun terminal event is => ends terminal event (same ▸ is)⟩
      · rw [later]
        simpa using held (same ▸ is)
      · rw [later, more]
        simpa using commits (same ▸ is)
    unfold Emission.observe at h
    cases kind with
    | terminal => cases notTerminal
    | heartbeat =>
      obtain ⟨-, h⟩ := (ite_ok.mp h).resolve_left (by rintro ⟨-, ⟨⟩⟩)
      exact back (by rw [fate, is]) h
    | control =>
      obtain ⟨-, h⟩ := (ite_ok.mp h).resolve_left (by rintro ⟨-, ⟨⟩⟩)
      exact back (by rw [fate, is]) h
    | semantic =>
      have fate : fate profile (raw :: rest) = .commits := by rw [fate, is]
      obtain ⟨some, emitted⟩ := commit_emitted buffered raw
      have out := observe_classified classified rfl rfl h
      refine ⟨fun held => ?_, fun _ => ?_, fun _ _ ends => ?_⟩
      · cases fate.symm.trans held
      · refine ⟨_, by simp [some], ?_, later ▸ out⟩
        rw [more, List.flatten_append, emitted, until_classified classified]
        simp
      · cases fate.symm.trans ends
  | @terminal raw terminal rest is _ =>
    have here : firstTerminal profile (raw :: rest) = some terminal := by
      rw [firstTerminal, List.findSome?_cons, terminalOf_ok is]
      rfl
    have only : untilTerminal profile (raw :: rest) = [raw] := by
      rw [untilTerminal, terminalOf_ok is]
      rfl
    have whole : Classified profile [raw] [⟨raw, .terminal terminal⟩] := .terminal is (.inr rfl)
    unfold Emission.observe at h
    cases terminal with
    | completed =>
      have fate : fate profile (raw :: rest) = .commits := by rw [fate, is]
      obtain ⟨some, emitted⟩ := commit_emitted buffered raw
      refine ⟨fun held => ?_, fun _ => ?_, fun _ _ ends => ?_⟩
      · cases fate.symm.trans held
      · cases h
        exact ⟨_, some, by rw [only, emitted]; simp, by rw [here]; rfl⟩
      · cases fate.symm.trans ends
    | _ =>
      cases h
      refine ⟨fun held => ?_, fun commits => ?_, fun terminal event ends => ?_⟩
      · rw [fate, is] at held
        cases held
      · rw [fate, is] at commits
        cases commits
      · rw [fate, is] at ends
        cases ends
        rfl

end Chunk

/-! ### Every call -/

namespace BootstrapDisposition

/-- What a call gave out. -/
def bytes : BootstrapDisposition → Bytes
  | .emit events _ => events.flatten
  | .pending | .precommitTerminal .. => []

/-- The terminal a call reported. -/
def terminal? : BootstrapDisposition → Option ProtocolTerminal
  | .emit _ terminal => terminal
  | .precommitTerminal terminal _ => some terminal
  | .pending => none

end BootstrapDisposition

/-- A chunk, with whether there was scratch memory to observe it. -/
structure Call where
  scratch : Bool
  bytes : Bytes
deriving DecidableEq, Repr

/-- The calls in turn, with their answers; the first that fails is the last. -/
def observeCalls (profile : Profile) (m : SseBootstrapMachine) :
    List Call → Except ProtocolFailure (List BootstrapDisposition × SseBootstrapMachine)
  | [] => .ok ([], m)
  | call :: rest => do
    let (answer, m) ← m.observeChunk profile call.scratch call.bytes
    let (answers, m) ← observeCalls profile m rest
    return (answer :: answers, m)

/-- The complete events of the bytes. -/
def eventsOf (read : Bytes) : List Bytes := (frames endsEvent [] read).1

/-- The bytes after the last complete event. -/
def pendingOf (read : Bytes) : Bytes := (frames endsEvent [] read).2

/-- What a stream that decides later has given out. -/
def givenOut (profile : Profile) (raws : List Bytes) : Bytes :=
  if fate profile raws = .commits then (untilTerminal profile raws).flatten else []

/-- What is held back of a stream that has not decided. -/
def heldBack (profile : Profile) (raws : List Bytes) : Bytes :=
  if fate profile raws = .held then raws.flatten else []

/-- The machine and its answers, after the bytes it has read. -/
structure Bootstrapped (profile : Profile) (read : Bytes) (answers : List BootstrapDisposition)
    (m : SseBootstrapMachine) : Prop where
  terminal : m.terminal = firstTerminal profile (eventsOf read)
  protocol : m.protocol.terminal = m.terminal
  committed : m.committed = decide (fate profile (eventsOf read) = .commits)
  buffered : m.buffered = heldBack profile (eventsOf read)
  pending : m.terminal = none → m.protocol.pending = pendingOf read
  emitted : (answers.map (·.bytes)).flatten = givenOut profile (eventsOf read)
  reported : answers.filterMap (·.terminal?) = (firstTerminal profile (eventsOf read)).toList
  failed : ∀ terminal event, .precommitTerminal terminal event ∈ answers ↔
    fate profile (eventsOf read) = .ends terminal event
  retained : m.buffered.length + m.protocol.pending.length ≤ maxProtocolBootstrapBytes

section Calls
variable {profile : Profile} {read bytes : Bytes} {answers : List BootstrapDisposition}
  {m m' : SseBootstrapMachine} {scratch : Bool} {answer : BootstrapDisposition}

theorem new_bootstrapped (profile : Profile) : Bootstrapped profile [] [] .new where
  terminal := rfl
  protocol := rfl
  committed := rfl
  buffered := rfl
  pending := fun _ => rfl
  emitted := rfl
  reported := rfl
  failed := fun _ _ => ⟨nofun, nofun⟩
  retained := by decide

theorem observeChunk_terminal (ended : m.terminal.isSome) : m.observeChunk profile scratch bytes =
    .error ⟨"protocol_terminal_already_seen", "SSE bootstrap received bytes after terminal"⟩ := by
  unfold SseBootstrapMachine.observeChunk
  rw [if_pos ended]
  rfl

theorem classifyEvents_seen {seen : ProtocolTerminal} {decoded : List DecodedSseEvent}
    {events : List ProtocolEvent} {terminal : Option ProtocolTerminal}
    (h : classifyEvents profile (some seen) decoded = .ok (events, terminal)) :
    terminal = some seen := by
  induction decoded with
  | nil =>
    cases h
    rfl
  | cons event rest ih =>
    simp only [classifyEvents, bind_ok, ite_ok, throw_ok, false_and, exists_false, and_false,
      false_or] at h
    obtain ⟨_, -, -, h⟩ := h
    exact ih h

theorem classifyEvents_terminal {decoded : List DecodedSseEvent} {events : List ProtocolEvent}
    {terminal : Option ProtocolTerminal}
    (raw : ∀ event ∈ decoded, decodeSseEvent event.raw = .ok event)
    (h : classifyEvents profile none decoded = .ok (events, terminal)) :
    terminal = firstTerminal profile (decoded.map (·.raw)) := by
  induction decoded generalizing events terminal with
  | nil =>
    cases h
    rfl
  | cons event rest ih =>
    obtain ⟨here, later⟩ := List.forall_mem_cons.mp raw
    simp only [classifyEvents, bind_ok, pure_ok, Prod.exists] at h
    obtain ⟨kind, is, events', terminal', h, same⟩ := h
    cases same
    have kindOf : kindOf profile event.raw = .ok kind := bind_ok.mpr ⟨event, here, is⟩
    rw [List.map_cons, firstTerminal, List.findSome?_cons, terminalOf_ok kindOf, ← firstTerminal]
    cases seen : kind.terminal? with
    | none =>
      rw [seen] at h
      exact ih later h
    | some terminal =>
      rw [seen] at h
      exact classifyEvents_seen h

theorem SseMachine.observeChunk_ok {m m' : SseMachine} {events : List ProtocolEvent}
    (fresh : m.terminal = none) (h : m.observeChunk profile scratch bytes = .ok (events, m')) :
    Classified profile (frames endsEvent m.pending bytes).1 events ∧
      m' = ⟨(frames endsEvent m.pending bytes).2,
        firstTerminal profile (frames endsEvent m.pending bytes).1⟩ := by
  obtain ⟨classified, pending, -⟩ := observeChunk_classifies fresh h
  refine ⟨classified, ?_⟩
  simp only [SseMachine.observeChunk, fresh, bind_ok, ite_ok, throw_ok, pure_ok, false_and,
    exists_false, and_false, false_or, Prod.exists] at h
  obtain ⟨-, decoded, left, pushed, events', terminal, isClassified, same⟩ := h
  cases same
  obtain ⟨isFrames, raw⟩ := push_ok pushed
  rw [isFrames, classifyEvents_terminal raw isClassified]

/-- What a call that succeeded did. -/
inductive Observes (m : SseBootstrapMachine) (protocol : SseMachine) :
    Emission ⊕ (ProtocolTerminal × Bytes) → BootstrapDisposition → SseBootstrapMachine → Prop
  | failed {terminal event} : Observes m protocol (.inr (terminal, event))
      (.precommitTerminal terminal event) { m with
        protocol := { protocol with pending := [] }, buffered := [], terminal := some terminal }
  | emission {e : Emission} :
      e.buffered.length + protocol.pending.length ≤ maxProtocolBootstrapBytes →
      Observes m protocol (.inl e)
        (if e.emitted.isEmpty then .pending else .emit e.emitted e.terminal)
        ⟨protocol, e.buffered, e.committed, e.terminal⟩

theorem observeChunk_observes (h : m.observeChunk profile scratch bytes = .ok (answer, m')) :
    m.terminal = none ∧ ∃ events protocol out,
      m.protocol.observeChunk profile scratch bytes = .ok (events, protocol) ∧
      Emission.observe ⟨m.buffered, m.committed, [], none⟩ events = .ok out ∧
      Observes m protocol out answer m' := by
  simp only [SseBootstrapMachine.observeChunk, bind_ok, ite_ok, throw_ok, false_and, exists_false,
    and_false, false_or, Prod.exists] at h
  obtain ⟨fresh, events, protocol, observed, out, decided, h⟩ := h
  refine ⟨Option.not_isSome_iff_eq_none.mp fresh, events, protocol, out, observed, decided, ?_⟩
  split at h
  · cases h
    exact .failed
  · rename_i e
    simp only [bind_ok, ite_ok, throw_ok, false_and, exists_false, and_false, false_or] at h
    obtain ⟨small, ⟨empty, is⟩ | ⟨some, is⟩⟩ := h
    · cases is
      simpa only [if_pos empty] using @Observes.emission m protocol e (Nat.not_lt.mp small)
    · cases is
      simpa only [if_neg some] using @Observes.emission m protocol e (Nat.not_lt.mp small)

theorem eventsOf_append {new : List Bytes} {left : Bytes}
    (isFrames : frames endsEvent (pendingOf read) bytes = (new, left)) :
    eventsOf (read ++ bytes) = eventsOf read ++ new := by
  unfold eventsOf
  rw [frames_append, ← pendingOf, isFrames]

/-- What a call that goes on made of the machine. -/
theorem Bootstrapped.concat (kept : Bootstrapped profile read answers m)
    (fresh : m.terminal = none) {new : List Bytes} {left given : Bytes} {committed : Bool}
    {emitted : List Bytes}
    (isFrames : frames endsEvent (pendingOf read) bytes = (new, left))
    (decided : committed = decide (fate profile (eventsOf read ++ new) = .commits))
    (held : given = heldBack profile (eventsOf read ++ new))
    (out : givenOut profile (eventsOf read) ++ emitted.flatten =
      givenOut profile (eventsOf read ++ new))
    (silent : emitted = [] → firstTerminal profile new = none)
    (goesOn : ∀ terminal event, fate profile (eventsOf read ++ new) ≠ .ends terminal event)
    (small : given.length + left.length ≤ maxProtocolBootstrapBytes) :
    Bootstrapped profile (read ++ bytes)
      (answers ++ [if emitted.isEmpty then .pending
        else .emit emitted (firstTerminal profile new)])
      ⟨⟨left, firstTerminal profile new⟩, given, committed, firstTerminal profile new⟩ := by
  have none : firstTerminal profile (eventsOf read) = none := kept.terminal.symm.trans fresh
  have isNew : eventsOf (read ++ bytes) = eventsOf read ++ new := eventsOf_append isFrames
  have terminal := @firstTerminal_append profile _ new none
  have noneFailed (t event) : .precommitTerminal t event ∉ answers := fun mem => by
    have ends := (kept.failed t event).mp mem
    rw [firstTerminal_of_ends ends] at none
    cases none
  constructor
  · rw [isNew, terminal]
  · rfl
  · rw [isNew]
    exact decided
  · rw [isNew]
    exact held
  · intro _
    unfold pendingOf
    rw [frames_append, ← pendingOf, isFrames]
  · rw [isNew, ← out, ← kept.emitted, List.map_append, List.flatten_append]
    congr 1
    cases emitted <;> simp [BootstrapDisposition.bytes]
  · rw [isNew, terminal, List.filterMap_append, kept.reported, none]
    cases emitted with
    | nil =>
      rw [silent rfl]
      rfl
    | cons first rest =>
      cases firstTerminal profile new <;> rfl
  · intro t event
    rw [isNew]
    refine iff_of_false (fun mem => ?_) (goesOn t event)
    rcases List.mem_append.mp mem with before | here
    · exact noneFailed t event before
    · have here := List.mem_singleton.mp here
      split at here <;> cases here
  · exact small

/-- What a call that found the stream failed made of the machine. -/
theorem Bootstrapped.fails (kept : Bootstrapped profile read answers m)
    (fresh : m.terminal = none) {new : List Bytes} {left : Bytes} {terminal : ProtocolTerminal}
    {event : Bytes}
    (isFrames : frames endsEvent (pendingOf read) bytes = (new, left))
    (undecided : fate profile (eventsOf read) = .held)
    (ends : fate profile new = .ends terminal event) :
    Bootstrapped profile (read ++ bytes) (answers ++ [.precommitTerminal terminal event]) { m with
      protocol := ⟨[], firstTerminal profile new⟩, buffered := [], terminal := some terminal } := by
  have none : firstTerminal profile (eventsOf read) = none := kept.terminal.symm.trans fresh
  have isNew : eventsOf (read ++ bytes) = eventsOf read ++ new := eventsOf_append isFrames
  have fate : fate profile (eventsOf (read ++ bytes)) = .ends terminal event := by
    rw [isNew, fate_append none, if_pos undecided, ends]
  have seen := firstTerminal_of_ends fate
  constructor
  · exact seen.symm
  · exact firstTerminal_of_ends ends
  · rw [fate]
    exact kept.committed.trans (by rw [undecided]; rfl)
  · rw [heldBack, fate]
    rfl
  · exact fun is => nomatch is
  · rw [givenOut, fate, List.map_append, List.flatten_append, kept.emitted, givenOut, undecided]
    rfl
  · rw [seen, List.filterMap_append, kept.reported, none]
    rfl
  · intro t e
    rw [fate, List.mem_append, kept.failed, undecided, List.mem_singleton]
    constructor
    · rintro (before | here)
      · cases before
      · cases here
        rfl
    · rintro ⟨⟩
      exact .inr rfl
  · exact Nat.zero_le _

theorem untilTerminal_eq_nil {raws : List Bytes} (empty : untilTerminal profile raws = []) :
    raws = [] := by
  cases raws with
  | nil => rfl
  | cons raw rest =>
    unfold untilTerminal at empty
    split at empty <;> cases empty

theorem Bootstrapped.observeChunk (kept : Bootstrapped profile read answers m)
    (h : m.observeChunk profile scratch bytes = .ok (answer, m')) :
    Bootstrapped profile (read ++ bytes) (answers ++ [answer]) m' := by
  obtain ⟨fresh, events, protocol, out, observed, decided, observes⟩ := observeChunk_observes h
  obtain ⟨classified, rfl⟩ := SseMachine.observeChunk_ok (kept.protocol.trans fresh) observed
  rw [kept.pending fresh] at classified observes
  have none : firstTerminal profile (eventsOf read) = none := kept.terminal.symm.trans fresh
  generalize isFrames : frames endsEvent (pendingOf read) bytes = cut at *
  obtain ⟨new, left⟩ := cut
  have joined := @fate_append profile (eventsOf read) new none
  rw [kept.buffered, kept.committed] at decided
  cases now : fate profile (eventsOf read) with
  | ends terminal event => cases (firstTerminal_of_ends now).symm.trans none
  | commits =>
    rw [now, if_neg nofun] at joined
    rw [now, heldBack, now] at decided
    have is := observe_classified classified rfl rfl decided
    subst is
    cases observes with
    | emission small =>
      refine kept.concat fresh isFrames (decide_eq_true joined).symm ?_ ?_ ?_ ?_ small
      · rw [heldBack, joined]
        rfl
      · rw [givenOut, if_pos now, givenOut, if_pos joined, untilTerminal_append none,
          untilTerminal_eq none, until_classified classified]
        simp
      · intro silent
        rw [untilTerminal_eq_nil ((until_classified classified).trans silent)]
        rfl
      · rw [joined]
        exact fun _ _ => nofun
  | held =>
    rw [now, if_pos rfl] at joined
    rw [now, heldBack, if_pos now] at decided
    obtain ⟨held, commits, ends⟩ := observe_decided classified decided
    have nothing : givenOut profile (eventsOf read) = [] := if_neg (by rw [now]; nofun)
    cases later : fate profile new with
    | held =>
      obtain ⟨rfl, silent⟩ := held later
      cases observes with
      | emission small =>
        have kept' := @Bootstrapped.concat _ _ bytes _ _ kept fresh new left
          ((eventsOf read).flatten ++ new.flatten) false [] isFrames
        rw [silent] at kept' ⊢
        refine kept' ?_ ?_ ?_ (fun _ => rfl) ?_ small
        · rw [joined, later]
          rfl
        · rw [heldBack, joined, if_pos later, List.flatten_append]
        · rw [nothing, givenOut, joined, later]
          rfl
        · rw [joined, later]
          exact fun _ _ => nofun
    | commits =>
      obtain ⟨emitted, some, given, rfl⟩ := commits later
      cases observes with
      | emission small =>
        refine kept.concat fresh isFrames (decide_eq_true (joined.trans later)).symm ?_ ?_
          (fun silent => (some silent).elim) ?_ small
        · rw [heldBack, joined, later]
          rfl
        · rw [nothing, given, givenOut, if_pos (joined.trans later), untilTerminal_append none,
            List.flatten_append]
          rfl
        · rw [joined, later]
          exact fun _ _ => nofun
    | ends terminal event =>
      obtain rfl := ends terminal event later
      cases observes
      exact kept.fails fresh isFrames now later

theorem Bootstrapped.observeCalls {calls : List Call} {more : List BootstrapDisposition}
    (kept : Bootstrapped profile read answers m)
    (h : observeCalls profile m calls = .ok (more, m')) :
    Bootstrapped profile (read ++ (calls.map (·.bytes)).flatten) (answers ++ more) m' := by
  induction calls generalizing read answers more m with
  | nil =>
    cases h
    simpa using kept
  | cons call rest ih =>
    simp only [Protocol.observeCalls, bind_ok, pure_ok, Prod.exists] at h
    obtain ⟨answer, m₁, first, rest', m₂, later, is⟩ := h
    cases is
    simpa using ih (kept.observeChunk first) later

theorem fate_not_completed {raws : List Bytes} (event : Bytes) :
    fate profile raws ≠ .ends .completed event := by
  induction raws with
  | nil => nofun
  | cons raw rest ih =>
    unfold fate
    split
    · nofun
    · nofun
    · rename_i terminal other _
      rintro ⟨⟩
      exact other rfl
    all_goals exact ih

/-- At the end of a stream without a terminal nothing more is given out; an event that has begun
and not ended is a failure. -/
theorem Bootstrapped.finishEof (kept : Bootstrapped profile read answers m)
    (fresh : m.terminal = none) : m.finishEof profile =
      if (pendingOf read).all isAsciiWhitespace then
        .ok (if fate profile (eventsOf read) = .commits then .emit [] (some .incomplete)
          else .precommitTerminal .incomplete [])
      else .error ⟨"partial_protocol_event", profile.protocol ++ " SSE ended with a partial event"⟩ := by
  unfold SseBootstrapMachine.finishEof SseMachine.finishEof
  rw [kept.protocol.trans fresh, kept.pending fresh, kept.committed]
  by_cases blank : (pendingOf read).all isAsciiWhitespace
  · rw [if_pos blank, if_pos blank]
    by_cases commits : fate profile (eventsOf read) = .commits
    · rw [if_pos commits, decide_eq_true commits]
      rfl
    · rw [if_neg commits, decide_eq_false commits]
      rfl
  · rw [if_neg blank, if_neg blank]
    rfl

end Calls

/-- Nothing is given out before an event commits, then every event up to the terminal, once and
in order; a stream that fails before is reported and not given out; a terminal is reported once
and no chunk is taken after it; a stream that ends without one is incomplete, unless it ends in
the middle of an event; and what is retained stays within the limit. -/
theorem precommit_safe (profile : Profile) (calls : List Call)
    (answers : List BootstrapDisposition) (m : SseBootstrapMachine)
    (h : observeCalls profile .new calls = .ok (answers, m)) :
    (answers.map (·.bytes)).flatten = givenOut profile (eventsOf (calls.map (·.bytes)).flatten) ∧
    m.buffered = heldBack profile (eventsOf (calls.map (·.bytes)).flatten) ∧
    (∀ terminal event, .precommitTerminal terminal event ∈ answers ↔
      fate profile (eventsOf (calls.map (·.bytes)).flatten) = .ends terminal event) ∧
    (∀ event, .precommitTerminal .completed event ∉ answers) ∧
    answers.filterMap (·.terminal?) =
      (firstTerminal profile (eventsOf (calls.map (·.bytes)).flatten)).toList ∧
    (firstTerminal profile (eventsOf (calls.map (·.bytes)).flatten) ≠ none →
      ∀ call : Call, ∃ failure, m.observeChunk profile call.scratch call.bytes = .error failure) ∧
    (firstTerminal profile (eventsOf (calls.map (·.bytes)).flatten) = none →
      m.finishEof profile =
        if (pendingOf (calls.map (·.bytes)).flatten).all isAsciiWhitespace then
          .ok (if fate profile (eventsOf (calls.map (·.bytes)).flatten) = .commits then
            .emit [] (some .incomplete) else .precommitTerminal .incomplete [])
        else .error
          ⟨"partial_protocol_event", profile.protocol ++ " SSE ended with a partial event"⟩) ∧
    m.buffered.length + m.protocol.pending.length ≤ maxProtocolBootstrapBytes := by
  have kept := (new_bootstrapped profile).observeCalls h
  simp only [List.nil_append] at kept
  refine ⟨kept.emitted, kept.buffered, kept.failed, fun event mem => ?_, kept.reported,
    fun ended call => ?_, fun fresh => kept.finishEof (kept.terminal.trans fresh), kept.retained⟩
  · exact fate_not_completed event ((kept.failed _ _).mp mem)
  · exact ⟨_, observeChunk_terminal (Option.isSome_iff_ne_none.mpr (kept.terminal ▸ ended))⟩

/-- The calls for a stream that is cut into these chunks. -/
def callsOf (chunks : List String) : List Call :=
  chunks.map fun chunk => ⟨true, chunk.toUTF8.data.toList⟩

/-- The comment before the first event is held back and then given out with it. -/
theorem precommit_safe_events :
    ∃ answers m, observeCalls (chatSse emptyObject) .new
        (callsOf [": op", "en\n\ndata: \x7b", "\x7d\n\ndata: [DO", "NE]\n\n"]) =
        .ok (answers, m) ∧
      (answers.map (·.bytes)).flatten =
        ": open\n\ndata: \x7b\x7d\n\ndata: [DONE]\n\n".toUTF8.data.toList := by
  have ok : (observeCalls (chatSse emptyObject) .new
      (callsOf [": op", "en\n\ndata: \x7b", "\x7d\n\ndata: [DO", "NE]\n\n"])).isOk := by
    decide +kernel
  obtain ⟨⟨answers, m⟩, ran⟩ := isOk_iff.mp ok
  exact ⟨answers, m, ran, (precommit_safe _ _ answers m ran).1.trans (by decide +kernel)⟩

end RelayPool.Protocol
