import RelayPool.Protocol.Event

/-! The bootstrap of a stream.

Before the first byte goes to the client the upstream's chunks are observed by a
protocol machine, which frames them into events in a decoder of its own and
classifies these. Heartbeats and control events are held back; the first
semantic event, or a completed stream, commits, and the client gets what the
machine emitted on that chunk followed by the upstream's stream as it now stands
(`bootstrapStream`).

The diagnostic memory is shared with other requests: whether it has room is part
of the input. -/
namespace RelayPool.Protocol

/-! ### The decoder -/

def maxProtocolEventBytes : Nat := 256 * 1024

def maxProtocolBootstrapBytes : Nat := 256 * 1024

def maxProtocolChunkBytes : Nat := 256 * 1024

def maxProtocolEventsPerChunk : Nat := 4096

def eventTooLarge : ProtocolFailure :=
  ⟨"protocol_event_too_large", "SSE event exceeded the protocol buffer limit"⟩

def chunkTooLarge : ProtocolFailure :=
  ⟨"protocol_chunk_too_large", "SSE input chunk exceeded the protocol limit"⟩

def tooManyEvents : ProtocolFailure :=
  ⟨"too_many_protocol_events", "SSE input chunk contained too many events"⟩

def diagnosticMemorySaturated : ProtocolFailure :=
  ⟨"diagnostic_memory_saturated", "proxy diagnostic memory admission is saturated"⟩

def lineFeeds : Bytes := [10, 10]

def returns : Bytes := [13, 10, 13, 10]

/-- A blank line ends the event. -/
def endsEvent (pending : Bytes) : Bool :=
  lineFeeds.isSuffixOf pending || returns.isSuffixOf pending

/-- The position of a delimiter, if the bytes contain it. -/
def position (delimiter : Bytes) : Bytes → Option Nat
  | [] => none
  | byte :: rest =>
    if delimiter.isPrefixOf (byte :: rest) then some 0
    else (position delimiter rest).map (· + 1)

/-- The failure for a chunk over the limit; nothing is pending any more. -/
def oversized (bytes : Bytes) : ProtocolFailure :=
  let oversizedCompleteEvent :=
    (((position lineFeeds bytes).map (· + 2)).or ((position returns bytes).map (· + 4))).any
      (· > maxProtocolEventBytes)
  let delimiterFreeEventWouldOverflow :=
    (position lineFeeds bytes).isNone && (position returns bytes).isNone &&
      bytes.length > maxProtocolEventBytes
  if oversizedCompleteEvent || delimiterFreeEventWouldOverflow then eventTooLarge
  else chunkTooLarge

/-- The events of the bytes after those already found, with what is left pending. -/
def pushBytes (pending : Bytes) (events : List DecodedSseEvent) :
    Bytes → Except ProtocolFailure (List DecodedSseEvent × Bytes)
  | [] => .ok (events, pending)
  | byte :: rest => do
    let pending := pending ++ [byte]
    if endsEvent pending then
      if pending.length > maxProtocolEventBytes then throw eventTooLarge
      let event ← decodeSseEvent pending
      let events := events ++ [event]
      if events.length > maxProtocolEventsPerChunk then throw tooManyEvents
      pushBytes [] events rest
    else
      if pending.length > maxProtocolEventBytes then throw eventTooLarge
      pushBytes pending events rest

def push (pending bytes : Bytes) : Except ProtocolFailure (List DecodedSseEvent × Bytes) :=
  if bytes.length > maxProtocolChunkBytes then .error (oversized bytes)
  else pushBytes pending [] bytes

/-! ### The protocol machines -/

structure ProtocolEvent where
  raw : Bytes
  kind : ProtocolEventKind
deriving DecidableEq, Repr

/-- The two machines differ in how they classify an event and in their name. -/
structure Profile where
  classifyEvent : DecodedSseEvent → Except ProtocolFailure ProtocolEventKind
  protocol : String
  label : String

def chatSse (fromStr : JsonParser) : Profile := ⟨chatClassifyEvent fromStr, "chat", "Chat"⟩

def responsesSse (fromStr : JsonParser) : Profile :=
  ⟨responsesClassifyEvent fromStr, "responses", "Responses"⟩

def terminalAlreadySeen (profile : Profile) : ProtocolFailure :=
  ⟨"protocol_terminal_already_seen", profile.label ++ " SSE received an event after terminal"⟩

def allowEventAfterTerminal (terminal : ProtocolTerminal) (kind : ProtocolEventKind) : Bool :=
  terminal = .completed ∧ (kind = .heartbeat ∨ kind = .control)

structure SseMachine where
  pending : Bytes
  terminal : Option ProtocolTerminal
deriving DecidableEq, Repr

def ProtocolEventKind.terminal? : ProtocolEventKind → Option ProtocolTerminal
  | .terminal seen => some seen
  | _ => none

/-- The events up to a terminal; what may follow it is checked and left out. -/
def classifyEvents (profile : Profile) (terminal : Option ProtocolTerminal) :
    List DecodedSseEvent → Except ProtocolFailure (List ProtocolEvent × Option ProtocolTerminal)
  | [] => .ok ([], terminal)
  | event :: rest => do
    let kind ← profile.classifyEvent event
    match terminal with
    | some seen =>
      if !allowEventAfterTerminal seen kind then throw (terminalAlreadySeen profile)
      classifyEvents profile terminal rest
    | none =>
      let (events, terminal) ← classifyEvents profile kind.terminal? rest
      return (⟨event.raw, kind⟩ :: events, terminal)

def SseMachine.observeChunk (profile : Profile) (m : SseMachine) (scratch : Bool) (bytes : Bytes) :
    Except ProtocolFailure (List ProtocolEvent × SseMachine) := do
  if !scratch then throw diagnosticMemorySaturated
  let (decoded, pending) ← push m.pending bytes
  let (events, terminal) ← classifyEvents profile m.terminal decoded
  return (events, ⟨pending, terminal⟩)

def SseMachine.finishEof (profile : Profile) (m : SseMachine) :
    Except ProtocolFailure ProtocolTerminal :=
  match m.terminal with
  | some terminal => .ok terminal
  | none =>
    if m.pending.all isAsciiWhitespace then .ok .incomplete
    else .error ⟨"partial_protocol_event", profile.protocol ++ " SSE ended with a partial event"⟩

/-! ### The bootstrap machine -/

inductive BootstrapDisposition
  | pending
  | emit (events : List Bytes) (terminal : Option ProtocolTerminal)
  | precommitTerminal (terminal : ProtocolTerminal) (event : Bytes)
deriving DecidableEq, Repr

structure SseBootstrapMachine where
  protocol : SseMachine
  buffered : Bytes
  committed : Bool
  terminal : Option ProtocolTerminal
deriving DecidableEq, Repr

def bootstrapTooLarge : ProtocolFailure :=
  ⟨"protocol_bootstrap_too_large", "SSE bootstrap exceeded the protocol buffer limit"⟩

def SseBootstrapMachine.new : SseBootstrapMachine := ⟨⟨[], none⟩, [], false, none⟩

/-- What the machine has made of the events of a chunk. -/
structure Emission where
  buffered : Bytes
  committed : Bool
  emitted : List Bytes
  terminal : Option ProtocolTerminal
deriving DecidableEq, Repr

namespace Emission

def emit (e : Emission) (raw : Bytes) : Emission := { e with emitted := e.emitted ++ [raw] }

/-- What was held back comes first. -/
def commit (e : Emission) (raw : Bytes) : Emission :=
  { e with
    buffered := []
    committed := true
    emitted := (if e.buffered.isEmpty then e.emitted else e.emitted ++ [e.buffered]) ++ [raw] }

/-- The events of a chunk in order, unless one of them ends the stream before it commits. -/
def observe (e : Emission) :
    List ProtocolEvent → Except ProtocolFailure (Emission ⊕ (ProtocolTerminal × Bytes))
  | [] => .ok (.inl e)
  | event :: rest =>
    match event.kind, e.committed with
    | .heartbeat, false | .control, false =>
      if e.buffered.length + event.raw.length > maxProtocolBootstrapBytes then
        .error bootstrapTooLarge
      else observe { e with buffered := e.buffered ++ event.raw } rest
    | .semantic, false => observe (e.commit event.raw) rest
    | .terminal .completed, false =>
      observe { e.commit event.raw with terminal := some .completed } rest
    | .terminal terminal, false => .ok (.inr (terminal, event.raw))
    | .terminal terminal, true => observe { e.emit event.raw with terminal := some terminal } rest
    | .heartbeat, true | .control, true | .semantic, true => observe (e.emit event.raw) rest

end Emission

namespace SseBootstrapMachine

def observeChunk (profile : Profile) (m : SseBootstrapMachine) (scratch : Bool) (bytes : Bytes) :
    Except ProtocolFailure (BootstrapDisposition × SseBootstrapMachine) := do
  if m.terminal.isSome then
    throw ⟨"protocol_terminal_already_seen", "SSE bootstrap received bytes after terminal"⟩
  let (events, protocol) ← m.protocol.observeChunk profile scratch bytes
  match ← Emission.observe ⟨m.buffered, m.committed, [], none⟩ events with
  | .inr (terminal, event) =>
    return (.precommitTerminal terminal event,
      { m with protocol := { protocol with pending := [] }, buffered := [], terminal := some terminal })
  | .inl e =>
    if e.buffered.length + protocol.pending.length > maxProtocolBootstrapBytes then
      throw bootstrapTooLarge
    let m := ⟨protocol, e.buffered, e.committed, e.terminal⟩
    if e.emitted.isEmpty then return (.pending, m)
    else return (.emit e.emitted e.terminal, m)

def finishEof (profile : Profile) (m : SseBootstrapMachine) :
    Except ProtocolFailure BootstrapDisposition := do
  let terminal ← m.protocol.finishEof profile
  if terminal = .completed then
    return .emit (if m.buffered.isEmpty then [] else [m.buffered]) (some terminal)
  else if m.committed then return .emit [] (some terminal)
  else return .precommitTerminal terminal []

end SseBootstrapMachine

/-! ### The stream -/

inductive CompletionPolicy
  | validatedJsonBody
  | responsesTerminalEvent
  | chatDoneSentinel
  | localConstruction
deriving DecidableEq, Repr

/-- The machine that a policy needs, if any. -/
def CompletionPolicy.profile (fromStr : JsonParser) : CompletionPolicy → Option Profile
  | .responsesTerminalEvent => some (responsesSse fromStr)
  | .chatDoneSentinel => some (chatSse fromStr)
  | .validatedJsonBody | .localConstruction => none

/-- What a poll of the upstream gives: a chunk, with whether there is scratch memory to
observe it, or a failure, or nothing in time. -/
inductive Poll
  | chunk (bytes : Bytes) (scratch : Bool)
  | failed
  | timedOut
deriving DecidableEq, Repr

def Poll.bytes : Poll → Bytes
  | .chunk bytes _ => bytes
  | .failed | .timedOut => []

/-- The stream a client is given: emitted events and then the polls not made yet. -/
structure Chunks where
  events : List Bytes
  unread : List Poll
deriving DecidableEq, Repr

def Chunks.bytes (chunks : Chunks) : Bytes :=
  chunks.events.flatten ++ (chunks.unread.map (·.bytes)).flatten

inductive BootstrapFailure
  | protocol (failure : ProtocolFailure)
  | precommitTerminal (terminal : ProtocolTerminal) (event : Bytes)
  | upstreamFailed
  | upstreamEnded
  | firstByteTimeout
deriving DecidableEq, Repr

/-- The polls in turn until a chunk commits; the list ends where the upstream does. -/
def bootstrapLoop (profile : Profile) (m : SseBootstrapMachine) :
    List Poll → Except BootstrapFailure Chunks
  | [] =>
    match m.finishEof profile with
    | .error failure => .error (.protocol failure)
    | .ok (.emit events _) => .ok ⟨events, []⟩
    | .ok (.precommitTerminal terminal event) => .error (.precommitTerminal terminal event)
    | .ok .pending => .error .upstreamEnded
  | .chunk bytes scratch :: rest =>
    if bytes.isEmpty then bootstrapLoop profile m rest
    else match m.observeChunk profile scratch bytes with
    | .error failure => .error (.protocol failure)
    | .ok (.pending, m) => bootstrapLoop profile m rest
    | .ok (.precommitTerminal terminal event, _) => .error (.precommitTerminal terminal event)
    | .ok (.emit events _, _) => .ok ⟨events, rest⟩
  | .failed :: _ => .error .upstreamFailed
  | .timedOut :: _ => .error .firstByteTimeout

/-- `retained`: there is memory for what the machine may retain. -/
def bootstrapStream (fromStr : JsonParser) (policy : CompletionPolicy) (retained : Bool)
    (polls : List Poll) : Except BootstrapFailure Chunks :=
  match policy.profile fromStr with
  | none => .ok ⟨[], polls⟩
  | some profile =>
    if !retained then .error (.protocol diagnosticMemorySaturated)
    else bootstrapLoop profile .new polls

end RelayPool.Protocol
