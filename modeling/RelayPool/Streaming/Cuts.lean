import RelayPool.Fallible
import RelayPool.Streaming.Sse

/-! Framing and the cuts of the network.

A stream decodes if it is `Acceptable` and no chunk leaves more than the limit pending
(`decodeStream_ok`). The first does not depend on the cuts, the second does: a chunk may
end within the blank line after an event that is itself within the limit. So the cuts do
not matter for an unacceptable stream, nor where every event leaves room for its blank
line but for one byte, and for no other stream (`cuts_ignored`). -/
namespace RelayPool.Streaming
open Protocol Framing

variable {limits : SseLimits}

/-! ### Events, counted -/

/-- Some frames go through the decoder, with the count before and after them. -/
inductive Absorbs (limits : SseLimits) : Nat → List Bytes → Nat → List SseEvent → Prop
  | nil {count : Nat} : Absorbs limits count [] count []
  | silent {frame : Bytes} {rest : List Bytes} {count count' : Nat} {events : List SseEvent}
      (fits : (eventOf frame).length ≤ limits.maxPendingEventBytes)
      (parses : parseEvent (eventOf frame) = .ok none)
      (later : Absorbs limits count rest count' events) :
      Absorbs limits count (frame :: rest) count' events
  | event {frame : Bytes} {rest : List Bytes} {count count' : Nat} {event : SseEvent}
      {events : List SseEvent} (fits : (eventOf frame).length ≤ limits.maxPendingEventBytes)
      (parses : parseEvent (eventOf frame) = .ok (some event))
      (counts : saturatingAddUsize count 1 ≤ limits.maxSseEvents)
      (later : Absorbs limits (saturatingAddUsize count 1) rest count' events) :
      Absorbs limits count (frame :: rest) count' (event :: events)

theorem absorbs_cons {frame : Bytes} {rest : List Bytes} {count count' : Nat}
    {events : List SseEvent} : Absorbs limits count (frame :: rest) count' events ↔
      (eventOf frame).length ≤ limits.maxPendingEventBytes ∧
        (parseEvent (eventOf frame) = .ok none ∧ Absorbs limits count rest count' events ∨
          ∃ event later, parseEvent (eventOf frame) = .ok (some event) ∧
            saturatingAddUsize count 1 ≤ limits.maxSseEvents ∧ events = event :: later ∧
            Absorbs limits (saturatingAddUsize count 1) rest count' later) := by
  constructor
  · intro h
    cases h with
    | silent fits parses later => exact ⟨fits, .inl ⟨parses, later⟩⟩
    | event fits parses counts later => exact ⟨fits, .inr ⟨_, _, parses, counts, rfl, later⟩⟩
  · rintro ⟨fits, ⟨parses, later⟩ | ⟨event, later, parses, counts, rfl, h⟩⟩
    · exact .silent fits parses later
    · exact .event fits parses counts h

/-- What the search finds is the first frame. -/
theorem absorbs_found {pending : Bytes} {boundary : EventBoundary}
    (found : findEventBoundary pending = some boundary) {count count' : Nat}
    {events : List SseEvent} : Absorbs limits count (eventFrames pending).1 count' events ↔
      let rest := pending.drop (boundary.eventLen + boundary.separatorLen)
      boundary.eventLen ≤ limits.maxPendingEventBytes ∧
        (parseEvent (pending.take boundary.eventLen) = .ok none ∧
            Absorbs limits count (eventFrames rest).1 count' events ∨
          ∃ event later, parseEvent (pending.take boundary.eventLen) = .ok (some event) ∧
            saturatingAddUsize count 1 ≤ limits.maxSseEvents ∧ events = event :: later ∧
            Absorbs limits (saturatingAddUsize count 1) (eventFrames rest).1 count' later) := by
  have is := findEventBoundary_some found
  obtain ⟨frames, same⟩ := is.frames
  have within : boundary.eventLen ≤ pending.length := by
    have := is.consumes
    omega
  rw [frames, absorbs_cons, same, List.length_take_of_le within]

theorem drain_ok {pending rest : Bytes} {count count' : Nat} {events : List SseEvent} :
    drain limits pending count = (count', .ok (events, rest)) ↔
      Absorbs limits count (eventFrames pending).1 count' events ∧
        rest = (eventFrames pending).2 := by
  fun_induction drain limits pending count generalizing events count' rest with
  | case1 pending count found =>
    rw [findEventBoundary_none found]
    constructor
    · intro h
      cases h
      exact ⟨.nil, rfl⟩
    · rintro ⟨h, rfl⟩
      cases h
      rfl
  | case2 pending count boundary found large =>
    rw [absorbs_found found]
    simp [Nat.not_le.mpr large]
  | case3 pending count boundary found fits e bad =>
    rw [absorbs_found found, bad]
    simp
  | case4 pending count boundary found fits silent ih =>
    rw [absorbs_found found, silent, ih, (findEventBoundary_some found).frames.1]
    simp [Nat.not_lt.mp fits]
  | case5 pending count boundary found fits event parses next =>
    rename_i many
    rw [absorbs_found found, parses]
    simp [Nat.not_le.mpr many, next]
  | case6 pending count boundary found fits event parses next few count₂ e bad =>
    rename_i ih
    rw [absorbs_found found, parses]
    constructor
    · exact nofun
    · rintro ⟨⟨-, ⟨⟨⟩, -⟩ | ⟨_, later, -, -, rfl, absorbed⟩⟩, rfl⟩
      exact nomatch bad.symm.trans (ih.mpr ⟨absorbed, rfl⟩)
  | case7 pending count boundary found fits event parses next few count₂ events₂ rest₂ good =>
    rename_i ih
    obtain ⟨absorbed, rfl⟩ := ih.mp good
    rw [absorbs_found found, parses, (findEventBoundary_some found).frames.1]
    constructor
    · rintro ⟨⟩
      exact ⟨⟨Nat.not_lt.mp fits, .inr ⟨_, _, rfl, Nat.not_lt.mp few, rfl, absorbed⟩⟩, rfl⟩
    · rintro ⟨⟨-, ⟨⟨⟩, -⟩ | ⟨_, later, ⟨⟩, -, rfl, absorbed'⟩⟩, rfl⟩
      cases good.symm.trans (ih.mpr ⟨absorbed', rfl⟩)
      rfl

theorem absorbs_append {before after : List Bytes} {count count' : Nat} {events : List SseEvent} :
    Absorbs limits count (before ++ after) count' events ↔
      ∃ mid events₁ events₂, Absorbs limits count before mid events₁ ∧
        Absorbs limits mid after count' events₂ ∧ events = events₁ ++ events₂ := by
  induction before generalizing count events with
  | nil =>
    constructor
    · exact fun h => ⟨count, [], events, .nil, h, rfl⟩
    · rintro ⟨mid, events₁, events₂, h, later, rfl⟩
      cases h
      exact later
  | cons frame rest ih =>
    rw [List.cons_append, absorbs_cons]
    constructor
    · rintro ⟨fits, ⟨parses, h⟩ | ⟨event, later, parses, counts, rfl, h⟩⟩
      · obtain ⟨mid, events₁, events₂, first, second, rfl⟩ := ih.mp h
        exact ⟨mid, events₁, events₂, .silent fits parses first, second, rfl⟩
      · obtain ⟨mid, events₁, events₂, first, second, rfl⟩ := ih.mp h
        exact ⟨mid, event :: events₁, events₂, .event fits parses counts first, second, rfl⟩
    · rintro ⟨mid, events₁, events₂, first, second, rfl⟩
      cases first with
      | silent fits parses first =>
        exact ⟨fits, .inl ⟨parses, ih.mpr ⟨mid, _, _, first, second, rfl⟩⟩⟩
      | event fits parses counts first =>
        exact ⟨fits, .inr ⟨_, _, parses, counts, rfl, ih.mpr ⟨mid, _, _, first, second, rfl⟩⟩⟩

/-! ### Chunks -/

/-- A decoder in the middle of a stream. -/
structure SseDecoder.Ready (d : SseDecoder) : Prop where
  sound : d.failure = none
  open_ : eventFrames d.pending = ([], d.pending)

/-- The frames that a chunk completes, and what is pending then. -/
abbrev framesAfter (pending chunk : Bytes) : List Bytes × Bytes := frames endsEvent pending chunk

theorem SseDecoder.Ready.frames {d : SseDecoder} (h : d.Ready) (chunk : Bytes) :
    eventFrames (d.pending ++ chunk) = framesAfter d.pending chunk := by
  show Framing.frames endsEvent [] (d.pending ++ chunk) = _
  rw [frames_append, show Framing.frames endsEvent [] d.pending = ([], d.pending) from h.open_]
  rfl

theorem push_ok {d d' : SseDecoder} (h : d.Ready) {chunk : Bytes} {events : List SseEvent} :
    d.push chunk = (.ok events, d') ↔
      let total := saturatingAddUsize d.stats.totalStreamBytes chunk.length
      let rest := (framesAfter d.pending chunk).2
      total ≤ d.limits.maxTotalStreamBytes ∧ rest.length ≤ d.limits.maxPendingEventBytes ∧
        ∃ count, Absorbs d.limits d.stats.eventCount (framesAfter d.pending chunk).1 count events ∧
          d' = { d with
            pending := rest
            stats := ⟨total, count, max d.stats.maxPendingEventBytes rest.length⟩ } := by
  unfold SseDecoder.push
  rw [h.sound]
  dsimp only
  rw [← h.frames]
  split
  · rename_i above
    exact ⟨nofun, fun within => absurd within.1 (Nat.not_le.mpr above)⟩
  · rename_i below
    rw [and_iff_right (Nat.not_lt.mp below)]
    cases drained : drain d.limits (d.pending ++ chunk) d.stats.eventCount with
    | mk count outcome =>
      cases outcome with
      | error e =>
        constructor
        · exact nofun
        · rintro ⟨-, count', absorbed, -⟩
          exact nomatch drained.symm.trans (drain_ok.mpr ⟨absorbed, rfl⟩)
      | ok result =>
        obtain ⟨absorbed, same⟩ := drain_ok.mp drained
        dsimp only
        rw [same]
        split
        · rename_i above
          exact ⟨nofun, fun within => absurd within.1 (Nat.not_le.mpr above)⟩
        · rename_i room
          constructor
          · rintro ⟨⟩
            exact ⟨Nat.not_lt.mp room, count, absorbed, rfl⟩
          · rintro ⟨-, count', absorbed', rfl⟩
            cases drained.symm.trans (drain_ok.mpr ⟨absorbed', rfl⟩)
            rfl

theorem SseDecoder.Ready.after {d : SseDecoder} (h : d.Ready) (chunk : Bytes) (stats : SseStreamStats) :
    { d with pending := (framesAfter d.pending chunk).2, stats : SseDecoder }.Ready :=
  ⟨h.sound, frames_rest h.open_ chunk⟩

/-- What the end of the stream makes of the bytes that are left. -/
def finishRest (limits : SseLimits) (count : Nat) (rest : Bytes) :
    Except StreamError (List SseEvent) :=
  if rest = [] then .ok []
  else if rest.getLast? ≠ some 10 then .error .invalidSseFraming
  else
    match parseEvent rest with
    | .error e => .error e
    | .ok none => .ok []
    | .ok (some event) =>
      if limits.maxSseEvents < saturatingAddUsize count 1 then .error .sseEventLimit
      else .ok [event]

theorem finish_eq {d : SseDecoder} (h : d.failure = none) :
    d.finish.1 = finishRest d.limits d.stats.eventCount d.pending := by
  unfold SseDecoder.finish finishRest
  rw [h]
  dsimp only
  split
  · rfl
  · split
    · rfl
    · cases parseEvent d.pending with
      | error e => rfl
      | ok parsed =>
        cases parsed with
        | none => rfl
        | some event =>
          dsimp only
          split <;> rfl

theorem decode_cons {d : SseDecoder} {chunk : Bytes} {rest : List Bytes} {events : List SseEvent} :
    d.decode (chunk :: rest) = .ok events ↔ ∃ events₁ d' events₂,
      d.push chunk = (.ok events₁, d') ∧ d'.decode rest = .ok events₂ ∧
        events = events₁ ++ events₂ := by
  rw [SseDecoder.decode]
  cases pushed : d.push chunk with
  | mk outcome d' =>
    cases outcome with
    | error e =>
      refine ⟨fun h => ?_, ?_⟩
      · cases h
      · rintro ⟨_, _, _, ⟨⟩, _⟩
    | ok events₁ =>
      constructor
      · intro h
        obtain ⟨events₂, decoded, rfl⟩ := Fallible.map_ok.mp h
        exact ⟨events₁, d', events₂, rfl, decoded, rfl⟩
      · rintro ⟨_, _, events₂, ⟨⟩, decoded, rfl⟩
        exact Fallible.map_ok.mpr ⟨events₂, decoded, rfl⟩

theorem framesAfter_append (pending chunk later : Bytes) :
    framesAfter pending (chunk ++ later) =
      ((framesAfter pending chunk).1 ++ (framesAfter (framesAfter pending chunk).2 later).1,
        (framesAfter (framesAfter pending chunk).2 later).2) := frames_append ..

theorem saturatingAddUsize_assoc (a b c : Nat) :
    saturatingAddUsize (saturatingAddUsize a b) c = saturatingAddUsize a (b + c) := by
  unfold saturatingAddUsize
  omega

theorem forall_prefix_cons {α : Type} {a : α} {as : List α} {P : List α → Prop} :
    (∀ before, before <+: a :: as → before ≠ [] → P before) ↔
      P [a] ∧ ∀ before, before <+: as → before ≠ [] → P (a :: before) := by
  constructor
  · intro h
    exact ⟨h [a] (List.prefix_append [a] as) (by simp),
      fun before shorter _ => h _ (List.cons_prefix_cons.mpr ⟨rfl, shorter⟩) (by simp)⟩
  · rintro ⟨one, more⟩ before shorter ne
    cases before with
    | nil => exact absurd rfl ne
    | cons b before =>
      obtain ⟨rfl, inner⟩ := List.cons_prefix_cons.mp shorter
      by_cases last : before = []
      · rw [last]
        exact one
      · exact more before inner last

/-- A stream decodes if its bytes and events are within the limits and no chunk leaves too
much pending. -/
theorem decode_ok {d : SseDecoder} (h : d.Ready) {chunks : List Bytes} {events : List SseEvent} :
    d.decode chunks = .ok events ↔
      (chunks ≠ [] → saturatingAddUsize d.stats.totalStreamBytes chunks.flatten.length ≤
        d.limits.maxTotalStreamBytes) ∧
      (∀ before, before <+: chunks → before ≠ [] →
        (framesAfter d.pending before.flatten).2.length ≤ d.limits.maxPendingEventBytes) ∧
      ∃ count events₁ events₂,
        Absorbs d.limits d.stats.eventCount (framesAfter d.pending chunks.flatten).1 count
          events₁ ∧
        finishRest d.limits count (framesAfter d.pending chunks.flatten).2 = .ok events₂ ∧
        events = events₁ ++ events₂ := by
  induction chunks generalizing d events with
  | nil =>
    show d.finish.1 = .ok events ↔ _
    rw [finish_eq h.sound]
    constructor
    · intro finished
      refine ⟨fun ne => absurd rfl ne, fun before shorter ne => ?_, _, [], events, .nil, finished,
        rfl⟩
      exact absurd (List.prefix_nil.mp shorter) ne
    · rintro ⟨-, -, count, events₁, events₂, absorbed, finished, rfl⟩
      cases absorbed
      exact finished
  | cons chunk rest ih =>
    have totals (total : Nat) : saturatingAddUsize total (chunk :: rest).flatten.length =
        saturatingAddUsize (saturatingAddUsize total chunk.length) rest.flatten.length := by
      rw [saturatingAddUsize_assoc, List.flatten_cons, List.length_append]
    have monotone (a b : Nat) : min a usizeMax ≤ saturatingAddUsize (min a usizeMax) b := by
      unfold saturatingAddUsize
      omega
    rw [decode_cons, forall_prefix_cons]
    simp only [List.flatten_cons, List.flatten_nil, List.append_nil, framesAfter_append,
      absorbs_append]
    constructor
    · rintro ⟨events₁, d', events₂, pushed, decoded, rfl⟩
      obtain ⟨total, room, count, absorbed, rfl⟩ := (push_ok h).mp pushed
      obtain ⟨more, rooms, count', later, last, absorbed', finished, rfl⟩ :=
        (ih (h.after chunk _)).mp decoded
      refine ⟨fun _ => ?_, ⟨room, rooms⟩, count', events₁ ++ later, last,
        ⟨count, events₁, later, absorbed, absorbed', rfl⟩, finished, by simp⟩
      rw [← List.flatten_cons, totals]
      by_cases empty : rest = []
      · rw [empty]
        unfold saturatingAddUsize at total ⊢
        rw [List.flatten_nil, List.length_nil]
        omega
      · exact more empty
    · rintro ⟨total, ⟨room, rooms⟩, count', all, last, ⟨count, events₁, later, absorbed, absorbed',
        rfl⟩, finished, rfl⟩
      have total := total (by simp)
      rw [← List.flatten_cons, totals] at total
      refine ⟨events₁, _, later ++ last, (push_ok h).mpr
        ⟨(monotone _ _).trans total, room, count, absorbed, rfl⟩, (ih (h.after chunk _)).mpr
        ⟨fun _ => total, rooms, count', later, last, absorbed', finished, rfl⟩, by simp⟩

/-! ### Acceptable streams -/

/-- The event of some bytes, if there is one. -/
def parsed (bytes : Bytes) : Option SseEvent := (parseEvent bytes).toOption.join

def eventsOf (frames : List Bytes) : List SseEvent := frames.filterMap fun f => parsed (eventOf f)

/-- All events of a stream, with the one that the end of the stream completes. -/
def streamEvents (input : Bytes) : List SseEvent :=
  eventsOf (eventFrames input).1 ++ (parsed (eventFrames input).2).toList

/-- What a stream has to be for the decoder, whatever its chunks are. -/
structure Acceptable (limits : SseLimits) (input : Bytes) : Prop where
  total : min input.length usizeMax ≤ limits.maxTotalStreamBytes
  lengths : ∀ frame ∈ (eventFrames input).1,
    (eventOf frame).length ≤ limits.maxPendingEventBytes
  parses : ∀ frame ∈ (eventFrames input).1, (parseEvent (eventOf frame)).isOk
  rest : (eventFrames input).2.length ≤ limits.maxPendingEventBytes
  ends : (eventFrames input).2 = [] ∨
    (eventFrames input).2.getLast? = some 10 ∧ (parseEvent (eventFrames input).2).isOk
  count : min (streamEvents input).length usizeMax ≤ limits.maxSseEvents

section Counted
variable {frame : Bytes} {rest : List Bytes}

theorem eventsOf_silent (parses : parseEvent (eventOf frame) = .ok none) :
    eventsOf (frame :: rest) = eventsOf rest := by
  simp [eventsOf, parsed, parses, Except.toOption]

theorem eventsOf_event {event : SseEvent} (parses : parseEvent (eventOf frame) = .ok (some event)) :
    eventsOf (frame :: rest) = event :: eventsOf rest := by
  simp [eventsOf, parsed, parses, Except.toOption]

theorem absorbs_iff {frames : List Bytes} {count count' : Nat} {events : List SseEvent}
    (counted : count ≤ usizeMax) : Absorbs limits count frames count' events ↔
      (∀ frame ∈ frames, (eventOf frame).length ≤ limits.maxPendingEventBytes) ∧
      (∀ frame ∈ frames, (parseEvent (eventOf frame)).isOk) ∧ events = eventsOf frames ∧
      count' = min (count + events.length) usizeMax ∧
      (events ≠ [] → count' ≤ limits.maxSseEvents) := by
  induction frames generalizing count events with
  | nil =>
    constructor
    · intro h
      cases h
      exact ⟨nofun, nofun, rfl, (min_eq_left counted).symm, fun ne => absurd rfl ne⟩
    · rintro ⟨-, -, rfl, rfl, -⟩
      have same : min (count + (eventsOf []).length) usizeMax = count := min_eq_left counted
      rw [same]
      exact .nil
  | cons frame rest ih =>
    rw [absorbs_cons, List.forall_mem_cons, List.forall_mem_cons]
    cases parses : parseEvent (eventOf frame) with
    | error e =>
      constructor
      · rintro ⟨-, ⟨⟨⟩, -⟩ | ⟨_, _, ⟨⟩, -⟩⟩
      · rintro ⟨-, ⟨⟨⟩, -⟩, -⟩
    | ok found =>
      cases found with
      | none =>
        rw [eventsOf_silent parses, ih counted]
        constructor
        · rintro ⟨fits, ⟨-, later⟩ | ⟨_, _, ⟨⟩, -⟩⟩
          exact ⟨⟨fits, later.1⟩, ⟨rfl, later.2.1⟩, later.2.2⟩
        · rintro ⟨⟨fits, lengths⟩, ⟨-, parse⟩, later⟩
          exact ⟨fits, .inl ⟨rfl, lengths, parse, later⟩⟩
      | some event =>
        have counted' : saturatingAddUsize count 1 ≤ usizeMax := min_le_right ..
        have after (n : Nat) : min (saturatingAddUsize count 1 + n) usizeMax =
            min (count + (n + 1)) usizeMax := by
          unfold saturatingAddUsize
          omega
        have first (n : Nat) : saturatingAddUsize count 1 ≤ min (count + (n + 1)) usizeMax := by
          unfold saturatingAddUsize
          omega
        rw [eventsOf_event parses]
        constructor
        · rintro ⟨fits, ⟨⟨⟩, -⟩ | ⟨_, later, ⟨⟩, within, rfl, h⟩⟩
          obtain ⟨lengths, parse, rfl, rfl, limit⟩ := (ih counted').mp h
          refine ⟨⟨fits, lengths⟩, ⟨rfl, parse⟩, rfl, after _, fun _ => ?_⟩
          by_cases none : eventsOf rest = []
          · rw [none, after]
            simpa [none, saturatingAddUsize] using within
          · exact limit none
        · rintro ⟨⟨fits, lengths⟩, ⟨-, parse⟩, rfl, total, limit⟩
          have limit := limit (by simp)
          rw [List.length_cons] at total
          refine ⟨fits, .inr ⟨event, _, rfl, (first _).trans (total ▸ limit), rfl, ?_⟩⟩
          exact (ih counted').mpr ⟨lengths, parse, rfl, total.trans (after _).symm, fun _ => limit⟩

end Counted

theorem finishRest_ok {count : Nat} {rest : Bytes} {events : List SseEvent} :
    finishRest limits count rest = .ok events ↔
      (rest = [] ∨ rest.getLast? = some 10 ∧ (parseEvent rest).isOk) ∧
        events = (parsed rest).toList ∧
        (events ≠ [] → saturatingAddUsize count 1 ≤ limits.maxSseEvents) := by
  unfold finishRest
  by_cases empty : rest = []
  · have none : parsed [] = none := by decide
    rw [if_pos empty, empty, none]
    constructor
    · rintro ⟨⟩
      exact ⟨.inl rfl, rfl, fun ne => absurd rfl ne⟩
    · rintro ⟨-, rfl, -⟩
      rfl
  rw [if_neg empty]
  by_cases ends : rest.getLast? = some 10
  · rw [if_neg (not_not.mpr ends)]
    unfold parsed
    cases parses : parseEvent rest with
    | error e => simp [empty, Except.isOk, Except.toBool]
    | ok found =>
      cases found with
      | none => simp +contextual [ends, Except.isOk, Except.toBool, Except.toOption, eq_comm]
      | some event =>
        dsimp only
        split
        · rename_i above
          constructor
          · exact nofun
          · rintro ⟨-, rfl, few⟩
            exact absurd (few (by simp [Except.toOption])) (Nat.not_le.mpr above)
        · rename_i few
          constructor
          · rintro ⟨⟩
            exact ⟨.inr ⟨ends, rfl⟩, rfl, fun _ => Nat.not_lt.mp few⟩
          · rintro ⟨-, rfl, -⟩
            rfl
  · rw [if_pos ends]
    simp [empty, ends]

theorem acceptable_iff {input : Bytes} {events : List SseEvent} :
    Acceptable limits input ∧ events = streamEvents input ↔
      min input.length usizeMax ≤ limits.maxTotalStreamBytes ∧
      (eventFrames input).2.length ≤ limits.maxPendingEventBytes ∧
      ∃ count events₁ events₂, Absorbs limits 0 (eventFrames input).1 count events₁ ∧
        finishRest limits count (eventFrames input).2 = .ok events₂ ∧
        events = events₁ ++ events₂ := by
  have last (n : Nat) : saturatingAddUsize (min n usizeMax) 1 = min (n + 1) usizeMax := by
    unfold saturatingAddUsize
    omega
  have one (o : Option SseEvent) : o.toList = [] ∨ o.toList.length = 1 := by
    cases o <;> simp
  simp only [absorbs_iff (Nat.zero_le _), finishRest_ok, Nat.zero_add]
  constructor
  · rintro ⟨h, rfl⟩
    have count := h.count
    unfold streamEvents at count
    rw [List.length_append] at count
    refine ⟨h.total, h.rest, _, _, _, ⟨h.lengths, h.parses, rfl, rfl, fun _ => ?_⟩,
      ⟨h.ends, rfl, fun ne => ?_⟩, rfl⟩
    · exact le_trans (by omega) count
    · rw [last]
      rw [(one _).resolve_left ne] at count
      exact count
  · rintro ⟨total, rest, count, events₁, events₂, ⟨lengths, parses, rfl, rfl, few⟩,
      ⟨ends, rfl, few'⟩, rfl⟩
    refine ⟨⟨total, lengths, parses, rest, ends, ?_⟩, rfl⟩
    unfold streamEvents
    rw [List.length_append]
    rcases one (parsed (eventFrames input).2) with none | single
    · rw [none, List.length_nil, Nat.add_zero]
      by_cases none : eventsOf (eventFrames input).1 = []
      · rw [none]
        exact Nat.zero_le _
      · exact few none
    · rw [single, ← last]
      exact few' (List.ne_nil_of_length_pos (by omega))

/-- No chunk leaves more pending than the limit. -/
def Room (limits : SseLimits) (chunks : List Bytes) : Prop :=
  ∀ before, before <+: chunks → before ≠ [] →
    (eventFrames before.flatten).2.length ≤ limits.maxPendingEventBytes

/-- What decides a stream: its bytes, and what its chunks leave pending. -/
theorem decodeStream_ok {chunks : List Bytes} {events : List SseEvent} :
    decodeStream limits chunks = .ok events ↔
      Acceptable limits chunks.flatten ∧ Room limits chunks ∧
        events = streamEvents chunks.flatten := by
  have ready : (SseDecoder.new limits).Ready := ⟨rfl, rfl⟩
  rw [and_left_comm, acceptable_iff]
  show (SseDecoder.new limits).decode chunks = _ ↔ _
  rw [decode_ok ready]
  have total : saturatingAddUsize 0 chunks.flatten.length = min chunks.flatten.length usizeMax := by
    unfold saturatingAddUsize
    rw [Nat.zero_add]
  show (chunks ≠ [] → saturatingAddUsize 0 _ ≤ limits.maxTotalStreamBytes) ∧ Room limits chunks ∧ _ ↔ _
  rw [total]
  by_cases empty : chunks = []
  · subst empty
    simp [Room, eventFrames, frames]
    rfl
  · constructor
    · rintro ⟨within, room, found⟩
      exact ⟨room, within empty, room chunks List.prefix_rfl empty, found⟩
    · rintro ⟨room, within, -, found⟩
      exact ⟨fun _ => within, room, found⟩

/-! ### Cuts -/

/-- Two cuts of a stream give the same events, or neither gives any. -/
def CutsIgnored (limits : SseLimits) (input : Bytes) : Prop :=
  ∀ chunks chunks' : List Bytes, chunks.flatten = input → chunks'.flatten = input →
    ((decodeStream limits chunks).isOk ↔ (decodeStream limits chunks').isOk) ∧
      ∀ events events', decodeStream limits chunks = .ok events →
        decodeStream limits chunks' = .ok events' → events = events'

/-- The network cannot leave more pending than the limit, whatever the cut. -/
theorem room_of_short {chunks : List Bytes}
    (rest : (eventFrames chunks.flatten).2.length ≤ limits.maxPendingEventBytes)
    (short : ∀ frame ∈ (eventFrames chunks.flatten).1,
      frame.length - 1 ≤ limits.maxPendingEventBytes) : Room limits chunks := by
  rintro before ⟨after, rfl⟩ -
  rw [List.flatten_append] at rest short
  have whole : eventFrames (before.flatten ++ after.flatten) =
      ((eventFrames before.flatten).1 ++
        (frames endsEvent (eventFrames before.flatten).2 after.flatten).1,
      (frames endsEvent (eventFrames before.flatten).2 after.flatten).2) := frames_append ..
  rw [whole] at rest short
  rcases @frames_head _ endsEvent (eventFrames before.flatten).2 after.flatten with
    none | ⟨as, later, ne, first⟩
  · rw [none, List.length_append] at rest
    exact (Nat.le_add_right ..).trans rest
  · have completed : _ ∈ (frames endsEvent (eventFrames before.flatten).2 after.flatten).1 :=
      first ▸ List.mem_cons_self ..
    have fits := short _ (List.mem_append_right _ completed)
    rw [List.length_append] at fits
    have := List.length_pos_of_ne_nil ne
    omega

theorem room_one {input : Bytes}
    (rest : (eventFrames input).2.length ≤ limits.maxPendingEventBytes) :
    Room limits [input] := by
  intro before shorter ne
  obtain rfl : before = [input] := (List.prefix_cons_iff.mp shorter).elim
    (absurd · ne) fun ⟨_, same, nil⟩ => by rw [same, List.prefix_nil.mp nil]
  rw [List.flatten_singleton]
  exact rest

/-- The cuts do not matter for a stream that is refused anyway, nor for one whose events
all leave room for their blank line but for one byte. -/
theorem cuts_ignored (limits : SseLimits) (input : Bytes) :
    CutsIgnored limits input ↔
      (Acceptable limits input → ∀ frame ∈ (eventFrames input).1,
        frame.length - 1 ≤ limits.maxPendingEventBytes) := by
  have isOk (chunks : List Bytes) : (decodeStream limits chunks).isOk ↔
      Acceptable limits chunks.flatten ∧ Room limits chunks := by
    rw [Fallible.isOk_iff]
    simp [decodeStream_ok]
  constructor
  · intro ignored ok frame mem
    obtain ⟨as, bs, rfl, ne, cut⟩ := exists_cut mem
    -- the whole stream in one chunk, and cut before the last byte of the frame
    have both := (ignored [as ++ bs] [as, bs] (by simp) (by simp)).1
    rw [isOk, isOk] at both
    have two := (both.mp ⟨by simpa using ok, room_one ok.rest⟩).2 [as] (List.prefix_append [as] [bs]) (by simp)
    rw [List.flatten_singleton, cut, List.length_dropLast] at two
    exact two
  · rintro short chunks chunks' rfl same
    have room {chunks' : List Bytes} (same : chunks'.flatten = chunks.flatten)
        (ok : Acceptable limits chunks.flatten) : Room limits chunks' := by
      refine room_of_short ?_ ?_
      · rw [same]
        exact ok.rest
      · rw [same]
        exact short ok
    constructor
    · rw [isOk, isOk, same]
      exact ⟨fun h => ⟨h.1, room same h.1⟩, fun h => ⟨h.1, room rfl h.1⟩⟩
    · intro events events' h h'
      rw [(decodeStream_ok.mp h).2.2, (decodeStream_ok.mp h').2.2, same]

/-- An event of 16 bytes with its blank line. -/
def fullEvent : Bytes :=
  [100, 97, 116, 97, 58, 32, 49, 50, 51, 52, 53, 54, 55, 56, 57, 48, 10, 10]

/-- Limits that the event just meets. -/
def fullLimits : SseLimits := ⟨16, 1024, 10⟩

theorem fullEvent_acceptable : Acceptable fullLimits fullEvent := by
  have frames : eventFrames fullEvent = ([fullEvent], []) := by decide
  refine ⟨by decide, ?_, ?_, ?_, ?_, ?_⟩
  · rw [frames]
    decide
  · rw [frames, List.forall_mem_singleton]
    decide +kernel
  · rw [frames]
    decide
  · rw [frames]
    exact .inl rfl
  · unfold streamEvents
    rw [frames]
    decide +kernel

/-- Cut within its blank line, the event is too large. -/
theorem fullEvent_cut : ¬ CutsIgnored fullLimits fullEvent := by
  intro ignored
  have both := (ignored [fullEvent] [fullEvent.take 17, fullEvent.drop 17] rfl rfl).1
  rw [Fallible.isOk_iff, Fallible.isOk_iff] at both
  have whole : Room fullLimits [fullEvent] := room_one (by decide)
  obtain ⟨events, decoded⟩ := both.mp ⟨_, decodeStream_ok.mpr ⟨fullEvent_acceptable, whole, rfl⟩⟩
  have room := (decodeStream_ok.mp decoded).2.1 [fullEvent.take 17] (List.prefix_append _ [_]) nofun
  exact absurd room (by decide)

end RelayPool.Streaming
