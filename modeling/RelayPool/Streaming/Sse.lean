import RelayPool.Streaming.Boundary

/-! The incremental framer of server-sent events.

`push` takes one chunk of the network, hands out the events it completes and keeps the
rest; `finish` is the end of the stream. The search for a boundary finds the first
(`findEventBoundary_some`), so the loop of `push` takes the frames of what is pending, one
by one. -/
namespace RelayPool.Streaming
open Protocol Framing

structure SseLimits where
  maxPendingEventBytes : Nat
  maxTotalStreamBytes : Nat
  maxSseEvents : Nat
deriving DecidableEq, Repr

inductive StreamError
  | responseBodyLimit
  | sseEventLimit
  | sseEventTooLarge
  | invalidSseUtf8
  | invalidSseFraming
deriving DecidableEq, Repr

structure SseEvent where
  data : String
deriving DecidableEq, Repr

structure SseStreamStats where
  totalStreamBytes : Nat
  eventCount : Nat
  maxPendingEventBytes : Nat
deriving DecidableEq, Repr

/-- The largest `usize`. -/
def usizeMax : Nat := 18446744073709551615

def saturatingAddUsize (a b : Nat) : Nat := min (a + b) usizeMax

/-! ### Boundaries -/

structure EventBoundary where
  eventLen : Nat
  separatorLen : Nat
deriving DecidableEq, Repr

/-- The search from an index on, in the bytes that are left there. -/
def findEventBoundaryFrom (index : Nat) : Bytes → Option EventBoundary
  | [] => none
  | byte :: rest =>
    if byte = 10 ∧ rest[0]? = some 10 then some ⟨index, 2⟩
    else if byte = 13 ∧ rest[0]? = some 10 ∧ rest[1]? = some 13 ∧ rest[2]? = some 10 then
      some ⟨index, 4⟩
    else findEventBoundaryFrom (index + 1) rest

def findEventBoundary (bytes : Bytes) : Option EventBoundary := findEventBoundaryFrom 0 bytes

theorem lineFeeds_iff {byte : UInt8} {rest : Bytes} :
    lineFeeds <+: byte :: rest ↔ byte = 10 ∧ rest[0]? = some 10 := by
  cases rest <;> simp [lineFeeds, eq_comm]

theorem returnFeeds_iff {byte : UInt8} {rest : Bytes} :
    returnFeeds <+: byte :: rest ↔
      byte = 13 ∧ rest[0]? = some 10 ∧ rest[1]? = some 13 ∧ rest[2]? = some 10 := by
  match rest with
  | [] => simp [returnFeeds]
  | [_] => simp [returnFeeds]
  | [_, _] => simp [returnFeeds]
  | _ :: _ :: _ :: _ => simp [returnFeeds, eq_comm]

/-- The search finds the first boundary, if there is one. -/
theorem findEventBoundaryFrom_spec (index : Nat) (bytes : Bytes) :
    match findEventBoundaryFrom index bytes with
    | none => ∀ p, p <+: bytes → ¬ EndsEvent p
    | some boundary => ∃ n, boundary.eventLen = index + n ∧
        IsBoundary bytes n boundary.separatorLen := by
  induction bytes generalizing index with
  | nil =>
    intro p shorter
    rw [List.prefix_nil.mp shorter]
    exact not_endsEvent_nil
  | cons byte rest ih =>
    unfold findEventBoundaryFrom
    by_cases lf : lineFeeds <+: byte :: rest
    · rw [if_pos (lineFeeds_iff.mp lf)]
      obtain ⟨after, same⟩ := lf
      rw [← same]
      exact ⟨0, rfl, .head (.inl rfl)⟩
    rw [if_neg (mt lineFeeds_iff.mpr lf)]
    by_cases crlf : returnFeeds <+: byte :: rest
    · rw [if_pos (returnFeeds_iff.mp crlf)]
      obtain ⟨after, same⟩ := crlf
      rw [← same]
      exact ⟨0, rfl, .head (.inr rfl)⟩
    rw [if_neg (mt returnFeeds_iff.mpr crlf)]
    have later := ih (index + 1)
    cases found : findEventBoundaryFrom (index + 1) rest with
    | none =>
      rw [found] at later
      exact no_boundary_cons later ⟨lf, crlf⟩
    | some boundary =>
      rw [found] at later
      obtain ⟨n, at_, is⟩ := later
      exact ⟨n + 1, by omega, is.cons ⟨lf, crlf⟩⟩

theorem findEventBoundary_none {bytes : Bytes} (h : findEventBoundary bytes = none) :
    eventFrames bytes = ([], bytes) := by
  have spec := findEventBoundaryFrom_spec 0 bytes
  rw [show findEventBoundaryFrom 0 bytes = none from h] at spec
  exact frames_of_no_boundary spec

theorem findEventBoundary_some {bytes : Bytes} {boundary : EventBoundary}
    (h : findEventBoundary bytes = some boundary) :
    IsBoundary bytes boundary.eventLen boundary.separatorLen := by
  have spec := findEventBoundaryFrom_spec 0 bytes
  rw [show findEventBoundaryFrom 0 bytes = some boundary from h] at spec
  obtain ⟨n, same, is⟩ := spec
  rw [same, Nat.zero_add]
  exact is

/-! ### Events -/

/-- The pieces of a text between line feeds, the first beginning with `current`. -/
def splitLines (current : List Char) : List Char → List (List Char)
  | [] => [current]
  | c :: rest => if c = '\n' then current :: splitLines [] rest else splitLines (current ++ [c]) rest

/-- The field and the value of a line; a line without a colon is a field. -/
def splitField (line : List Char) : List Char × List Char :=
  match line.span (· ≠ ':') with
  | (field, _ :: value) => (field, value)
  | (_, []) => (line, [])

/-- The data lines after one more line. -/
def parseLine (dataLines : List (List Char)) (rawLine : List Char) :
    Except StreamError (List (List Char)) := do
  let line ←
    if rawLine.getLast? = some '\r' then pure rawLine.dropLast
    else if rawLine.contains '\r' then throw .invalidSseFraming
    else pure rawLine
  if line.isEmpty || line.head? = some ':' then return dataLines
  let (field, value) := splitField line
  if field = "data".toList then
    return dataLines ++ [if value.head? = some ' ' then value.tail else value]
  else return dataLines

def parseEvent (bytes : Bytes) : Except StreamError (Option SseEvent) :=
  match String.fromUTF8? ⟨bytes.toArray⟩ with
  | none => .error .invalidSseUtf8
  | some raw => do
    let dataLines ← (splitLines [] raw.toList).foldlM parseLine []
    if dataLines.isEmpty then return none
    return some ⟨.ofList (['\n'].intercalate dataLines)⟩

/-! ### The decoder -/

structure SseDecoder where
  limits : SseLimits
  pending : Bytes
  stats : SseStreamStats
  failure : Option StreamError
deriving DecidableEq, Repr

/-- The complete events of what is pending, the rest, and the events counted. -/
def drain (limits : SseLimits) (pending : Bytes) (eventCount : Nat) :
    Nat × Except StreamError (List SseEvent × Bytes) :=
  match _found : findEventBoundary pending with
  | none => (eventCount, .ok ([], pending))
  | some boundary =>
    if limits.maxPendingEventBytes < boundary.eventLen then (eventCount, .error .sseEventTooLarge)
    else
      match parseEvent (pending.take boundary.eventLen) with
      | .error e => (eventCount, .error e)
      | .ok none =>
        drain limits (pending.drop (boundary.eventLen + boundary.separatorLen)) eventCount
      | .ok (some event) =>
        let eventCount := saturatingAddUsize eventCount 1
        if limits.maxSseEvents < eventCount then (eventCount, .error .sseEventLimit)
        else
          match drain limits (pending.drop (boundary.eventLen + boundary.separatorLen))
              eventCount with
          | (eventCount, .error e) => (eventCount, .error e)
          | (eventCount, .ok (events, rest)) => (eventCount, .ok (event :: events, rest))
termination_by pending.length
decreasing_by
  all_goals
    obtain ⟨some_, within⟩ := (findEventBoundary_some _found).consumes
    rw [List.length_drop]
    omega

namespace SseDecoder

def new (limits : SseLimits) : SseDecoder := ⟨limits, [], ⟨0, 0, 0⟩, none⟩

def fail (d : SseDecoder) (failure : StreamError) :
    Except StreamError (List SseEvent) × SseDecoder :=
  (.error failure, { d with pending := [], failure := some failure })

def push (d : SseDecoder) (chunk : Bytes) : Except StreamError (List SseEvent) × SseDecoder :=
  match d.failure with
  | some failure => (.error failure, d)
  | none =>
    let totalStreamBytes := saturatingAddUsize d.stats.totalStreamBytes chunk.length
    let d := { d with stats := { d.stats with totalStreamBytes } }
    if d.limits.maxTotalStreamBytes < totalStreamBytes then d.fail .responseBodyLimit
    else
      match drain d.limits (d.pending ++ chunk) d.stats.eventCount with
      | (eventCount, .error e) => { d with stats := { d.stats with eventCount } }.fail e
      | (eventCount, .ok (events, pending)) =>
        let maxPendingEventBytes := max d.stats.maxPendingEventBytes pending.length
        let d := { d with pending, stats := { d.stats with eventCount, maxPendingEventBytes } }
        if d.limits.maxPendingEventBytes < pending.length then d.fail .sseEventTooLarge
        else (.ok events, d)

def finish (d : SseDecoder) : Except StreamError (List SseEvent) × SseDecoder :=
  match d.failure with
  | some failure => (.error failure, d)
  | none =>
    if d.pending = [] then (.ok [], d)
    else if d.pending.getLast? ≠ some 10 then d.fail .invalidSseFraming
    else
      let pending := d.pending
      let d := { d with pending := [] }
      match parseEvent pending with
      | .error e => d.fail e
      | .ok none => (.ok [], d)
      | .ok (some event) =>
        let eventCount := saturatingAddUsize d.stats.eventCount 1
        let d := { d with stats := { d.stats with eventCount } }
        if d.limits.maxSseEvents < eventCount then d.fail .sseEventLimit
        else (.ok [event], d)

/-- The events of a whole stream, pushed chunk by chunk and finished; the first error
ends it. -/
def decode (d : SseDecoder) : List Bytes → Except StreamError (List SseEvent)
  | [] => d.finish.1
  | chunk :: rest =>
    match d.push chunk with
    | (.error e, _) => .error e
    | (.ok events, d) => (d.decode rest).map (events ++ ·)

end SseDecoder

def decodeStream (limits : SseLimits) (chunks : List Bytes) : Except StreamError (List SseEvent) :=
  (SseDecoder.new limits).decode chunks

end RelayPool.Streaming
