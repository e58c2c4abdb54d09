import Mathlib
import RelayPool.Streaming.ChatCommands

/-! The history of events that a decoder hands out.

Each event is held against those before it: its number, its item, what it repeats of the
text and the arguments (`Follows`). What the decoder keeps is a summary of the history
(`Tracks`), so the next event can be held against it. The one thing the decoder does not
see to is that nothing comes after the completion. -/
namespace RelayPool.Streaming.Chat
open Protocol Outputs Runs

variable {env : Environment}

/-! ### Well-formed histories -/

namespace ResponsesEvent

def isCreated : ResponsesEvent → Bool
  | .created .. => true
  | _ => false

def isCompleted : ResponsesEvent → Bool
  | .completed _ => true
  | _ => false

/-- The item of an event and its output index; the message has no identifier. -/
def item : ResponsesEvent → Option (Option String × Int)
  | .outputTextDelta _ outputIndex _ => some (none, outputIndex)
  | .outputItemAdded _ outputIndex item => some (some item.id, outputIndex)
  | .functionCallArgumentsDelta _ itemId outputIndex _ => some (some itemId, outputIndex)
  | .functionCallArgumentsDone _ itemId outputIndex _ _ => some (some itemId, outputIndex)
  | .outputItemDone _ outputIndex item => some (some item.id, outputIndex)
  | _ => none

def adds : ResponsesEvent → Option String
  | .outputItemAdded _ _ item => some item.id
  | _ => none

def textDelta : ResponsesEvent → String
  | .outputTextDelta _ _ delta => delta
  | _ => ""

def isArgumentsDelta : ResponsesEvent → Bool
  | .functionCallArgumentsDelta .. => true
  | _ => false

def argumentsDelta (itemId : String) : ResponsesEvent → String
  | .functionCallArgumentsDelta _ id _ delta => if id = itemId then delta else ""
  | _ => ""

/-- The item whose arguments are said to be done, and what they are. -/
def doneArguments : ResponsesEvent → Option (String × String)
  | .functionCallArgumentsDone _ itemId _ _ arguments => some (itemId, arguments)
  | .outputItemDone _ _ item => some (item.id, item.arguments)
  | _ => none

end ResponsesEvent

def textOf (history : List SequencedEvent) : String :=
  String.join (history.map (·.event.textDelta))

def argumentsOf (itemId : String) (history : List SequencedEvent) : String :=
  String.join (history.map (·.event.argumentsDelta itemId))

/-- What the client may rely on in the events of a response. -/
structure WellFormed (history : List SequencedEvent) : Prop where
  numbered : ∀ (i : Nat) (e : SequencedEvent), history[i]? = some e → e.sequenceNumber = i
  created : ∀ (i : Nat) (e : SequencedEvent), history[i]? = some e → (e.event.isCreated ↔ i = 0)
  outputIndexes : ∀ e ∈ history, ∀ e' ∈ history, ∀ i i', e.event.item = some i →
    e'.event.item = some i' → (i.1 = i'.1 ↔ i.2 = i'.2)
  addedFirst : ∀ before e after, history = before ++ e :: after → ∀ itemId outputIndex,
    e.event.item = some (some itemId, outputIndex) → e.event.adds = none →
      ∃ a ∈ before, a.event.adds = some itemId
  text : ∀ e ∈ history, ∀ response, e.event = .completed response →
    response.outputText = textOf history
  arguments : ∀ e ∈ history, ∀ itemId arguments,
    e.event.doneArguments = some (itemId, arguments) → arguments = argumentsOf itemId history
  completedLast : ∀ before e after, history = before ++ e :: after → e.event.isCompleted →
    after = []

/-- What an event owes to the events before it. -/
structure Follows (before : List SequencedEvent) (e : SequencedEvent) : Prop where
  numbered : e.sequenceNumber = before.length
  created : e.event.isCreated ↔ before = []
  running : ∀ b ∈ before, ¬ b.event.isCompleted
  items : ∀ b ∈ before, ∀ i j, b.event.item = some i → e.event.item = some j →
    (i.1 = j.1 ↔ i.2 = j.2)
  added : ∀ itemId outputIndex, e.event.item = some (some itemId, outputIndex) →
    e.event.adds = none → ∃ a ∈ before, a.event.adds = some itemId
  text : ∀ response, e.event = .completed response → response.outputText = textOf before
  arguments : ∀ itemId arguments, e.event.doneArguments = some (itemId, arguments) →
    arguments = argumentsOf itemId before
  unfinished : e.event.isArgumentsDelta → ∀ b ∈ before, b.event.doneArguments = none

theorem textOf_append (h h' : List SequencedEvent) : textOf (h ++ h') = textOf h ++ textOf h' := by
  unfold textOf
  rw [List.map_append, String.join_append]

theorem argumentsOf_append (itemId : String) (h h' : List SequencedEvent) :
    argumentsOf itemId (h ++ h') = argumentsOf itemId h ++ argumentsOf itemId h' := by
  unfold argumentsOf
  rw [List.map_append, String.join_append]

theorem argumentsOf_none {itemId : String} {history : List SequencedEvent}
    (none : ∀ e ∈ history, e.event.argumentsDelta itemId = "") : argumentsOf itemId history = "" := by
  unfold argumentsOf
  rw [List.map_congr_left none]
  induction history with
  | nil => rfl
  | cons e rest ih =>
    rw [List.map_cons, String.join_cons, ih fun b hb => none b (List.mem_cons_of_mem e hb)]
    rfl

theorem argumentsDelta_of_not {e : ResponsesEvent} (h : ¬ e.isArgumentsDelta) (itemId : String) :
    e.argumentsDelta itemId = "" := by
  cases e with
  | functionCallArgumentsDelta => exact absurd rfl h
  | _ => rfl

theorem nothing_after {before after : List SequencedEvent} {e : SequencedEvent}
    (h : Each Follows (before ++ e :: after)) (completed : e.event.isCompleted) : after = [] := by
  cases after with
  | nil => rfl
  | cons b rest =>
    obtain ⟨earlier, follows, mem⟩ := h.of_later (List.mem_cons_self ..)
    exact absurd completed (follows.running e mem)

/-- A history is well formed if each event follows those before it. -/
theorem wellFormed_of_follows {history : List SequencedEvent} (h : Each Follows history) :
    WellFormed history where
  numbered i e at_ := by
    rw [(h.of_getElem at_).numbered, List.length_take_of_le]
    exact Nat.le_of_lt (List.getElem?_eq_some_iff.mp at_).1
  created i e at_ := by
    rw [(h.of_getElem at_).created, List.take_eq_nil_iff, or_iff_left]
    rintro rfl
    cases at_
  outputIndexes e he e' he' i i' hi hi' := by
    rcases h.of_mem he he' with rfl | ⟨before, follows, mem⟩ | ⟨before, follows, mem⟩
    · rw [Option.some.inj (hi.symm.trans hi')]
      exact iff_of_true rfl rfl
    · exact follows.items e mem i i' hi hi'
    · have both := follows.items e' mem i' i hi' hi
      exact ⟨fun same => (both.mp same.symm).symm, fun same => (both.mpr same.symm).symm⟩
  addedFirst before e after same := (h before e after same).added
  text e he response completed := by
    obtain ⟨before, after, rfl⟩ := List.append_of_mem he
    have last : after = [] := nothing_after h (by rw [completed]; rfl)
    subst last
    rw [textOf_append, (h before e [] rfl).text response completed]
    show _ = _ ++ String.join [e.event.textDelta]
    rw [completed]
    exact (String.append_empty ..).symm
  arguments e he itemId arguments finished := by
    obtain ⟨before, after, rfl⟩ := List.append_of_mem he
    have none : ∀ b ∈ e :: after, b.event.argumentsDelta itemId = "" := by
      intro b hb
      refine argumentsDelta_of_not (fun delta => ?_) itemId
      rcases List.mem_cons.mp hb with rfl | later
      · revert finished delta
        cases b.event <;> exact nofun
      · obtain ⟨earlier, follows, mem⟩ := h.of_later later
        exact nomatch finished.symm.trans (follows.unfinished delta e mem)
    rw [argumentsOf_append, argumentsOf_none none,
      (h before e after rfl).arguments itemId arguments finished]
    exact (String.append_empty ..).symm
  completedLast before e after same completed := nothing_after (same ▸ h) completed

/-! ### What the decoder keeps of the history -/

/-- How many events the numbers of an `i64` are enough for. -/
def maxEvents : Nat := 9223372036854775808

/-- A response goes on, is being completed, or is completed. -/
inductive Phase
  | running
  | closing
  | closed
deriving DecidableEq

def ChatState.items (state : ChatState) : List (Option String × Int) :=
  state.messageOutputIndex.toList.map (fun outputIndex => (none, outputIndex)) ++
    state.toolCalls.map fun call => (some call.2.itemId, call.2.outputIndex)

structure Numbered (history : List SequencedEvent) (sequenceNumber : Int) : Prop where
  next : sequenceNumber = min (history.length : Int) i64Max
  room : history.length ≤ maxEvents

/-- The items have identifiers and output indexes of their own. -/
structure Registered (state : ChatState) : Prop where
  keys : (state.toolCalls.map (·.1)).Nodup
  ids : ∀ call ∈ state.toolCalls, call.2.itemId = itemIdOf state.responseId call.1
  indexes : (state.items.map (·.2)).Nodup
  below : ∀ i ∈ state.items, i.2 < state.items.length
  next : state.nextOutputIndex = min (state.items.length : Int) i64Max

/-- The items of the history are those of the decoder. -/
structure Itemized (history : List SequencedEvent) (state : ChatState) : Prop extends
    Registered state where
  count : state.items.length ≤ history.length - 1
  items : ∀ b ∈ history, ∀ i, b.event.item = some i → i ∈ state.items
  added : ∀ call ∈ state.toolCalls, ∃ a ∈ history, a.event.adds = some call.2.itemId

structure Phased (phase : Phase) (history : List SequencedEvent) (created completed : Bool) :
    Prop where
  created : created ↔ history ≠ []
  completed : completed ↔ phase ≠ .running
  begun : phase ≠ .running → history ≠ []
  running : phase = .running → ∀ b ∈ history, b.event.doneArguments = none
  open_ : phase ≠ .closed → ∀ b ∈ history, ¬ b.event.isCompleted

structure Collected (history : List SequencedEvent) (text : String) (calls : ToolCalls) : Prop where
  text : text = textOf history
  arguments : ∀ call ∈ calls, call.2.arguments = argumentsOf call.2.itemId history

structure Tracks (phase : Phase) (history : List SequencedEvent) (state : ChatState) : Prop where
  follows : Each Follows history
  numbered : Numbered history state.sequenceNumber
  itemized : Itemized history state
  phased : Phased phase history state.created state.completed
  collected : Collected history state.text state.toolCalls

theorem tracks_new (model responseId : String) : Tracks .running [] (.new model responseId) where
  follows := each_nil _
  numbered := ⟨rfl, Nat.zero_le _⟩
  itemized := ⟨⟨.nil, List.forall_mem_nil _, .nil, List.forall_mem_nil _, rfl⟩, Nat.le_refl _,
    List.forall_mem_nil _, List.forall_mem_nil _⟩
  phased := ⟨by simp [ChatState.new], by simp [ChatState.new], fun ne => absurd rfl ne,
    fun _ => List.forall_mem_nil _, fun _ => List.forall_mem_nil _⟩
  collected := ⟨rfl, List.forall_mem_nil _⟩

section Stages
variable {history : List SequencedEvent} {state : ChatState} {phase : Phase}

theorem Numbered.append {n : Int} (h : Numbered history n) (room : history.length < maxEvents)
    (e : SequencedEvent) : Numbered (history ++ [e]) (saturatingAddI64 n 1) := by
  have next := h.next
  unfold i64Max at next
  unfold maxEvents at room
  constructor
  · unfold saturatingAddI64 i64Max
    rw [List.length_append, List.length_singleton]
    omega
  · rw [List.length_append, List.length_singleton]
    exact room

theorem Numbered.exact {n : Int} (h : Numbered history n) (room : history.length < maxEvents) :
    n = history.length := by
  have next := h.next
  unfold i64Max at next
  unfold maxEvents at room
  omega

/-- The identifier of an item tells the index of its call. -/
theorem itemIdOf_injective {responseId : String} {i j : Int}
    (h : itemIdOf responseId i = itemIdOf responseId j) : i = j := by
  unfold itemIdOf at h
  exact Int.repr_injective ((String.append_right_inj _).mp h)

/-- Nothing about the items has changed. -/
structure SameItems (s s' : ChatState) : Prop where
  responseId : s'.responseId = s.responseId
  message : s'.messageOutputIndex = s.messageOutputIndex
  next : s'.nextOutputIndex = s.nextOutputIndex
  calls : s'.toolCalls = s.toolCalls

theorem SameItems.items {s s' : ChatState} (same : SameItems s s') : s'.items = s.items := by
  unfold ChatState.items
  rw [same.message, same.calls]

theorem Registered.of_same {s s' : ChatState} (h : Registered s) (same : SameItems s s') :
    Registered s' := by
  have items := same.items
  obtain ⟨keys, ids, indexes, below, next⟩ := h
  rw [← items] at indexes below next
  rw [← same.calls] at keys ids
  rw [← same.responseId] at ids
  rw [← same.next] at next
  exact ⟨keys, ids, indexes, below, next⟩

theorem Registered.ids_nodup (h : Registered state) : (state.items.map (·.1)).Nodup := by
  unfold ChatState.items
  rw [List.map_append, List.map_map, List.map_map, List.nodup_append]
  refine ⟨?_, ?_, ?_⟩
  · cases state.messageOutputIndex with
    | none => exact .nil
    | some outputIndex => exact List.nodup_singleton _
  · refine List.pairwise_map.mpr ((List.pairwise_map.mp h.keys).imp_of_mem ?_)
    intro a b ha hb differ same
    have same : a.2.itemId = b.2.itemId := Option.some.inj same
    rw [h.ids a ha, h.ids b hb] at same
    exact differ (itemIdOf_injective same)
  · intro id hid id' hid' same
    obtain ⟨outputIndex, -, rfl⟩ := List.mem_map.mp hid
    obtain ⟨call, -, rfl⟩ := List.mem_map.mp hid'
    exact nomatch same

/-- Items with one identifier have one output index, and the other way round. -/
theorem Registered.same_item (h : Registered state) {i j : Option String × Int}
    (hi : i ∈ state.items) (hj : j ∈ state.items) : i.1 = j.1 ↔ i.2 = j.2 :=
  ⟨fun same => congrArg _ (List.inj_on_of_nodup_map h.ids_nodup hi hj same),
    fun same => congrArg _ (List.inj_on_of_nodup_map h.indexes hi hj same)⟩

/-! ### One more event -/

section Append
variable {s s' : ChatState} {e : ResponsesEvent}

/-- An event about items that the decoder keeps. -/
structure Owned (e : ResponsesEvent) (s s' : ChatState) : Prop where
  registered : Registered s'
  grows : ∀ i ∈ s.items, i ∈ s'.items
  item : ∀ i, e.item = some i → i ∈ s'.items
  known : ∀ itemId outputIndex, e.item = some (some itemId, outputIndex) → e.adds = none →
    ∃ call ∈ s.toolCalls, call.2.itemId = itemId
  added : ∀ call ∈ s'.toolCalls, e.adds = some call.2.itemId ∨
    ∃ old ∈ s.toolCalls, old.2.itemId = call.2.itemId

/-- An event that repeats what the decoder keeps. -/
structure Repeats (e : ResponsesEvent) (s : ChatState) : Prop where
  text : ∀ response, e = .completed response → response.outputText = s.text
  arguments : ∀ itemId arguments, e.doneArguments = some (itemId, arguments) →
    ∃ call ∈ s.toolCalls, call.2.itemId = itemId ∧ call.2.arguments = arguments

theorem Tracks.follows_next (t : Tracks phase history s) (started : history ≠ [])
    (room : history.length < maxEvents) (later : ¬ e.isCreated) (open_ : phase ≠ .closed)
    (owned : Owned e s s') (repeats : Repeats e s)
    (unfinished : e.isArgumentsDelta → phase = .running) :
    Follows history ⟨e, s.sequenceNumber⟩ where
  numbered := t.numbered.exact room
  created := iff_of_false later started
  running := t.phased.open_ open_
  items b hb i j hi hj := owned.registered.same_item
    (owned.grows i (t.itemized.items b hb i hi)) (owned.item j hj)
  added itemId outputIndex is none := by
    obtain ⟨call, mem, rfl⟩ := owned.known itemId outputIndex is none
    exact t.itemized.added call mem
  text response same := (repeats.text response same).trans t.collected.text
  arguments itemId arguments same := by
    obtain ⟨call, mem, rfl, rfl⟩ := repeats.arguments itemId arguments same
    exact t.collected.arguments call mem
  unfinished delta := t.phased.running (unfinished delta)

theorem Itemized.append {n : Int} (t : Itemized history s) (owned : Owned e s s')
    (few : s'.items.length ≤ history.length) : Itemized (history ++ [⟨e, n⟩]) s' where
  toRegistered := owned.registered
  count := by
    rw [List.length_append]
    exact few
  items := by
    intro b hb i hi
    rcases List.mem_append.mp hb with hb | hb
    · exact owned.grows i (t.items b hb i hi)
    · rw [List.mem_singleton.mp hb] at hi
      exact owned.item i hi
  added := by
    intro call mem
    rcases owned.added call mem with new | ⟨old, mem, same⟩
    · exact ⟨⟨e, n⟩, List.mem_append_right _ (List.mem_singleton_self _), new⟩
    · obtain ⟨a, ha, adds⟩ := t.added old mem
      exact ⟨a, List.mem_append_left _ ha, same ▸ adds⟩

theorem Phased.append {phase' : Phase} {completed : Bool} {n : Int}
    (t : Phased phase history true completed) (same : phase' = .running ↔ phase = .running)
    (finished : phase' = .running → e.doneArguments = none)
    (closed : phase' ≠ .closed → phase ≠ .closed ∧ ¬ e.isCompleted) :
    Phased phase' (history ++ [⟨e, n⟩]) true completed where
  created := iff_of_true rfl (List.append_ne_nil_of_right_ne_nil _ (List.cons_ne_nil _ _))
  completed := t.completed.trans (not_congr same.symm)
  begun _ := List.append_ne_nil_of_right_ne_nil _ (List.cons_ne_nil _ _)
  running h := List.forall_mem_append.mpr
    ⟨t.running (same.mp h), List.forall_mem_singleton.mpr (finished h)⟩
  open_ h := List.forall_mem_append.mpr
    ⟨t.open_ (closed h).1, List.forall_mem_singleton.mpr (closed h).2⟩

theorem textOf_concat (e : SequencedEvent) :
    textOf (history ++ [e]) = textOf history ++ e.event.textDelta := by
  rw [textOf_append]
  congr 1

theorem argumentsOf_concat (itemId : String) (e : SequencedEvent) :
    argumentsOf itemId (history ++ [e]) =
      argumentsOf itemId history ++ e.event.argumentsDelta itemId := by
  rw [argumentsOf_append]
  congr 1

/-- An event without a piece of text or of arguments. -/
theorem Collected.append {n : Int} {text : String} {calls : ToolCalls}
    (t : Collected history text calls) (noText : e.textDelta = "")
    (noArguments : ¬ e.isArgumentsDelta) : Collected (history ++ [⟨e, n⟩]) text calls where
  text := by
    rw [textOf_concat, noText, String.append_empty]
    exact t.text
  arguments call mem := by
    rw [argumentsOf_concat, argumentsDelta_of_not noArguments, String.append_empty]
    exact t.arguments call mem

end Append

/-! ### Stages of a command -/

/-- The history goes on with an emission, and the decoder keeps track. -/
def After (phase : Phase) (history : List SequencedEvent) (o : Emission) : Prop :=
  Tracks phase (history ++ o.1) o.2

theorem Tracks.after (t : Tracks phase history state) : After phase history ([], state) := by
  unfold After
  rw [List.append_nil]
  exact t

theorem After.andThen {phase' : Phase} {o : Emission} {next : ChatState → Emission}
    (h : After phase' (history ++ o.1) (next o.2)) : After phase' history (andThen o next) := by
  unfold After Outputs.andThen at *
  rw [← List.append_assoc]
  exact h

/-- How many events it takes to begin the response. -/
def createdCount (state : ChatState) : Nat := if state.created then 0 else 1

theorem ensureCreated_cases (env : Environment) (state : ChatState) :
    state.created = true ∧ createdCount state = 0 ∧ state.ensureCreated env = ([], state) ∨
      state.created = false ∧ createdCount state = 1 ∧ state.ensureCreated env =
        { state with created := true }.eventBytes
          (.created state.responseId env.createdAt state.model) := by
  unfold ChatState.ensureCreated createdCount
  cases state.created with
  | true => exact .inl ⟨rfl, rfl, rfl⟩
  | false => exact .inr ⟨rfl, rfl, rfl⟩

theorem Tracks.ensureCreated (t : Tracks phase history state)
    (room : history.length + createdCount state ≤ maxEvents) :
    After phase history (state.ensureCreated env) := by
  rcases ensureCreated_cases env state with ⟨-, -, same⟩ | ⟨idle, one, same⟩
  · rw [same]
    exact t.after
  rw [same]
  rw [one] at room
  have none : history = [] := by
    by_contra started
    rw [t.phased.created.mpr started] at idle
    cases idle
  subst none
  have phase_ : phase = .running := by
    by_contra other
    exact t.phased.begun other rfl
  subst phase_
  have first : Follows [] ⟨.created state.responseId env.createdAt state.model,
      state.sequenceNumber⟩ :=
    ⟨t.numbered.exact (by decide), iff_of_true rfl rfl, List.forall_mem_nil _,
      List.forall_mem_nil _, nofun, nofun, nofun, nofun⟩
  refine ⟨each_concat.mpr ⟨each_nil _, first⟩, t.numbered.append (by decide) _,
    ⟨t.itemized.toRegistered.of_same ⟨rfl, rfl, rfl, rfl⟩, t.itemized.count, ?_, ?_⟩,
    ⟨?_, t.phased.completed, nofun, ?_, ?_⟩,
    t.collected.append rfl nofun⟩
  · intro b hb i hi
    rw [List.mem_singleton.mp hb] at hi
    cases hi
  · intro call mem
    obtain ⟨a, ha, -⟩ := t.itemized.added call mem
    cases ha
  · exact iff_of_true rfl (List.cons_ne_nil _ _)
  · exact fun _ => List.forall_mem_singleton.mpr rfl
  · exact fun _ => List.forall_mem_singleton.mpr nofun

/-! ### Items of their own -/

/-- Another item, under the next output index. -/
theorem Registered.add {s s' : ChatState} (h : Registered s) (room : s.items.length < maxEvents)
    {id : Option String} (more : s'.items.Perm ((id, s.nextOutputIndex) :: s.items))
    (keys : (s'.toolCalls.map (·.1)).Nodup)
    (ids : ∀ call ∈ s'.toolCalls, call.2.itemId = itemIdOf s'.responseId call.1)
    (next : s'.nextOutputIndex = saturatingAddI64 s.nextOutputIndex 1) : Registered s' := by
  have here := h.next
  have length := more.length_eq
  rw [List.length_cons] at length
  unfold i64Max at here
  unfold maxEvents at room
  have own : s.nextOutputIndex = s.items.length := by omega
  refine ⟨keys, ids, ?_, ?_, ?_⟩
  · rw [(more.map _).nodup_iff, List.map_cons, List.nodup_cons]
    refine ⟨fun mem => ?_, h.indexes⟩
    obtain ⟨i, hi, same⟩ := List.mem_map.mp mem
    have below := h.below i hi
    rw [same, own] at below
    exact lt_irrefl _ below
  · intro i hi
    rw [length]
    rcases List.mem_cons.mp (more.mem_iff.mp hi) with rfl | hi
    · dsimp only
      omega
    · have below := h.below i hi
      omega
  · rw [next, length, own]
    unfold saturatingAddI64 i64Max
    omega

/-- The message has an output index, an old one or the next. -/
theorem Registered.message {s : ChatState} (h : Registered s) (room : s.items.length < maxEvents) :
    Registered s.indexOfMessage.2 ∧ (none, s.indexOfMessage.1) ∈ s.indexOfMessage.2.items ∧
      (∀ i ∈ s.items, i ∈ s.indexOfMessage.2.items) ∧
      s.indexOfMessage.2.items.length ≤ s.items.length + 1 := by
  unfold ChatState.indexOfMessage
  cases found : s.messageOutputIndex with
  | some outputIndex =>
    refine ⟨h, ?_, fun i hi => hi, Nat.le_succ _⟩
    unfold ChatState.items
    rw [found]
    exact List.mem_cons_self ..
  | none =>
    have items : s.items = s.toolCalls.map fun call => (some call.2.itemId, call.2.outputIndex) := by
      unfold ChatState.items
      rw [found]
      rfl
    have more : ((none, s.nextOutputIndex) :: s.toolCalls.map fun call =>
        (some call.2.itemId, call.2.outputIndex)).Perm ((none, s.nextOutputIndex) :: s.items) := by
      rw [items]
    refine ⟨h.add room more h.keys h.ids rfl, List.mem_cons_self .., fun i hi => ?_, ?_⟩
    · rw [items] at hi
      exact List.mem_cons_of_mem _ hi
    · rw [items]
      exact Nat.le_refl _

theorem indexOfMessage_same (s : ChatState) :
    s.indexOfMessage.2 = { s with
      messageOutputIndex := s.indexOfMessage.2.messageOutputIndex
      nextOutputIndex := s.indexOfMessage.2.nextOutputIndex } := by
  unfold ChatState.indexOfMessage
  cases s.messageOutputIndex <;> rfl

namespace ToolCalls

theorem find_none {index : Int} {calls : ToolCalls} (h : (calls.find index).isSome = false) :
    ∀ call ∈ calls, call.1 ≠ index := by
  unfold find at h
  rw [Option.isSome_map] at h
  intro call mem
  have none := List.find?_eq_none.mp (Option.not_isSome_iff_eq_none.mp (by rw [h]; nofun)) call mem
  exact of_decide_eq_false (Bool.eq_false_iff.mpr none)

theorem find_some {index : Int} {calls : ToolCalls} {state : ToolCallState}
    (h : calls.find index = some state) : (index, state) ∈ calls := by
  obtain ⟨⟨index', _⟩, found, rfl⟩ := Option.map_eq_some_iff.mp h
  have same : index' = index := by simpa using List.find?_some found
  rw [← same]
  exact List.mem_of_find?_eq_some found

end ToolCalls

/-! ### Deltas -/

/-- The pieces of an item that is already known leave the items as they are. -/
theorem Owned.of_same {s s' : ChatState} {e : ResponsesEvent} (h : Registered s)
    (same : SameItems s s') (item : ∀ i, e.item = some i → i ∈ s.items)
    (known : ∀ itemId outputIndex, e.item = some (some itemId, outputIndex) → e.adds = none →
      ∃ call ∈ s.toolCalls, call.2.itemId = itemId) : Owned e s s' where
  registered := h.of_same same
  grows _ hi := same.items ▸ hi
  item i hi := same.items ▸ item i hi
  known := known
  added call mem := .inr ⟨call, same.calls ▸ mem, rfl⟩

theorem Tracks.content (t : Tracks .running history state) (started : history ≠ [])
    (room : history.length < maxEvents) (content : String) :
    let message := state.indexOfMessage
    After .running history ({ message.2 with text := message.2.text ++ content }.eventBytes
      (.outputTextDelta message.2.responseId message.1 content)) := by
  have created := t.phased.created.mpr started
  have few : state.items.length < maxEvents := by
    have := t.itemized.count
    omega
  obtain ⟨registered, own, grows, count⟩ := t.itemized.toRegistered.message few
  have same := indexOfMessage_same state
  generalize state.indexOfMessage = message at registered own grows count same
  obtain ⟨outputIndex, d⟩ := message
  dsimp only at registered own grows count same ⊢
  have calls : d.toolCalls = state.toolCalls := by rw [same]
  have phased := t.phased
  rw [created] at phased
  let s' := { d with
    text := d.text ++ content
    sequenceNumber := saturatingAddI64 d.sequenceNumber 1 }
  have owned : Owned (.outputTextDelta d.responseId outputIndex content) state s' := by
    refine ⟨registered.of_same ⟨rfl, rfl, rfl, rfl⟩, grows, ?_, nofun, fun call mem => ?_⟩
    · rintro i ⟨⟩
      exact own
    · exact .inr ⟨call, calls ▸ mem, rfl⟩
  have sequence : d.sequenceNumber = state.sequenceNumber := by rw [same]
  have text : d.text = state.text := by rw [same]
  show Tracks .running (history ++ [⟨.outputTextDelta d.responseId outputIndex content,
    d.sequenceNumber⟩]) s'
  rw [sequence]
  refine ⟨each_concat.mpr ⟨t.follows, t.follows_next started room nofun nofun owned
      ⟨nofun, nofun⟩ nofun⟩, ?_, t.itemized.append owned ?_, ?_, ?_, ?_⟩
  · show Numbered _ (saturatingAddI64 d.sequenceNumber 1)
    rw [sequence]
    exact t.numbered.append room _
  · have := t.itemized.count
    have := List.length_pos_of_ne_nil started
    show d.items.length ≤ history.length
    omega
  · show Phased .running _ d.created d.completed
    rw [same, created]
    exact phased.append Iff.rfl (fun _ => rfl) fun _ => ⟨nofun, nofun⟩
  · show d.text ++ content = _
    rw [textOf_concat, text, t.collected.text]
    rfl
  · intro call mem
    rw [argumentsOf_concat]
    refine Eq.trans ?_ (String.append_empty ..).symm
    exact t.collected.arguments call (calls ▸ mem)

theorem argumentsDelta_item {e : ResponsesEvent} {itemId : String}
    (said : ¬ e.argumentsDelta itemId = "") :
    ∃ outputIndex, e.item = some (some itemId, outputIndex) := by
  cases e with
  | functionCallArgumentsDelta responseId id outputIndex delta =>
    refine ⟨outputIndex, ?_⟩
    by_cases same : id = itemId
    · rw [same]
      rfl
    · exact absurd (if_neg same) said
  | _ => exact absurd rfl said

theorem Itemized.call_of_item (t : Itemized history state) {b : SequencedEvent} (hb : b ∈ history)
    {itemId : String} {outputIndex : Int} (about : b.event.item = some (some itemId, outputIndex)) :
    ∃ call ∈ state.toolCalls, call.2.itemId = itemId := by
  rcases List.mem_append.mp (t.items b hb _ about) with message | call
  · obtain ⟨_, -, same⟩ := List.mem_map.mp message
    cases same
  · obtain ⟨known, mem, same⟩ := List.mem_map.mp call
    cases same
    exact ⟨known, mem, rfl⟩

theorem Tracks.addToolCall (t : Tracks .running history state) (started : history ≠ [])
    {toolCall : Value} (new : (state.toolCalls.find (toolIndex toolCall)).isSome = false)
    (room : history.length < maxEvents) :
    After .running history (state.addToolCall toolCall) := by
  have created := t.phased.created.mpr started
  have few : state.items.length < maxEvents := by
    have := t.itemized.count
    omega
  have phased := t.phased
  rw [created] at phased
  let call := newToolCall state.responseId state.nextOutputIndex toolCall
  let s' := { state with
    nextOutputIndex := saturatingAddI64 state.nextOutputIndex 1
    toolCalls := state.toolCalls.insert (toolIndex toolCall) call
    sequenceNumber := saturatingAddI64 state.sequenceNumber 1 }
  have calls : s'.toolCalls.Perm ((toolIndex toolCall, call) :: state.toolCalls) :=
    List.perm_orderedInsert ..
  have more : s'.items.Perm ((some call.itemId, state.nextOutputIndex) :: state.items) :=
    ((calls.map _).append_left _).trans List.perm_middle
  have registered : Registered s' := by
    refine t.itemized.add few more ?_ ?_ rfl
    · rw [(calls.map _).nodup_iff, List.map_cons, List.nodup_cons]
      refine ⟨fun mem => ?_, t.itemized.keys⟩
      obtain ⟨old, hold, same⟩ := List.mem_map.mp mem
      exact ToolCalls.find_none new old hold same
    · intro c mem
      rcases List.mem_cons.mp (calls.mem_iff.mp mem) with rfl | mem
      · rfl
      · exact t.itemized.ids c mem
  have owned : Owned (.outputItemAdded state.responseId state.nextOutputIndex
      (functionCallItem call .inProgress)) state s' := by
    refine ⟨registered, fun i hi => ?_, ?_, fun _ _ _ none => (nomatch none), fun c mem => ?_⟩
    · exact more.mem_iff.mpr (List.mem_cons_of_mem _ hi)
    · rintro i ⟨⟩
      exact more.mem_iff.mpr (List.mem_cons_self ..)
    · rcases List.mem_cons.mp (calls.mem_iff.mp mem) with rfl | mem
      · exact .inl rfl
      · exact .inr ⟨c, mem, rfl⟩
  have result : state.addToolCall toolCall = ([⟨.outputItemAdded state.responseId
      state.nextOutputIndex (functionCallItem call .inProgress), state.sequenceNumber⟩], s') := by
    unfold ChatState.addToolCall
    rw [if_neg (by rw [new]; nofun)]
    rfl
  have collected : Collected (history ++ [⟨.outputItemAdded state.responseId
      state.nextOutputIndex (functionCallItem call .inProgress), state.sequenceNumber⟩])
      state.text state.toolCalls := t.collected.append rfl nofun
  unfold After
  rw [result]
  refine ⟨each_concat.mpr ⟨t.follows, t.follows_next started room nofun nofun owned
      ⟨nofun, nofun⟩ nofun⟩, t.numbered.append room _, t.itemized.append owned ?_, ?_,
    collected.text, ?_⟩
  · have := t.itemized.count
    have := List.length_pos_of_ne_nil started
    rw [more.length_eq, List.length_cons]
    omega
  · show Phased .running _ state.created state.completed
    rw [created]
    exact phased.append Iff.rfl (fun _ => rfl) fun _ => ⟨nofun, nofun⟩
  · intro c mem
    rcases List.mem_cons.mp (calls.mem_iff.mp mem) with rfl | mem
    · -- nothing about a new item has been said
      refine (argumentsOf_none fun b hb => ?_).symm
      by_contra said
      obtain ⟨outputIndex, about⟩ := argumentsDelta_item said
      rcases List.mem_append.mp hb with hb | hb
      · obtain ⟨old, hold, same⟩ := t.itemized.call_of_item hb about
        rw [t.itemized.ids old hold] at same
        exact ToolCalls.find_none new old hold (itemIdOf_injective same)
      · rw [List.mem_singleton.mp hb] at said
        exact said rfl
    · exact collected.arguments c mem

/-- A call after another piece of it, and the other calls as they are. -/
theorem mem_modify {toolCall : Value} {calls : ToolCalls} {call : Int × ToolCallState}
    (h : call ∈ calls.modify (toolIndex toolCall) (extendToolCall toolCall)) :
    ∃ old ∈ calls, call.1 = old.1 ∧ call.2.itemId = old.2.itemId ∧
      (old.1 = toolIndex toolCall ∧
          call.2.arguments = old.2.arguments ++ functionArguments toolCall ∨
        old.1 ≠ toolIndex toolCall ∧ call.2.arguments = old.2.arguments) := by
  obtain ⟨old, mem, rfl⟩ := List.mem_map.mp h
  refine ⟨old, mem, ?_⟩
  by_cases same : old.1 = toolIndex toolCall
  · rw [if_pos same]
    exact ⟨rfl, rfl, .inl ⟨same, rfl⟩⟩
  · rw [if_neg same]
    exact ⟨rfl, rfl, .inr ⟨same, rfl⟩⟩

/-- The state after another piece of a call. -/
def ChatState.extended (state : ChatState) (toolCall : Value) : ChatState :=
  { state with toolCalls := state.toolCalls.modify (toolIndex toolCall) (extendToolCall toolCall) }

theorem extended_items (state : ChatState) (toolCall : Value) : (state.extended toolCall).items = state.items := by
  unfold ChatState.items ChatState.extended ToolCalls.modify
  dsimp only
  rw [List.map_map]
  refine congrArg _ (List.map_congr_left fun call _ => ?_)
  rw [Function.comp_apply]
  split <;> rfl

theorem extended_registered (h : Registered state) (toolCall : Value) :
    Registered (state.extended toolCall) := by
  have items := extended_items state toolCall
  obtain ⟨keys, ids, indexes, below, next⟩ := h
  rw [← items] at indexes below next
  refine ⟨?_, fun call mem => ?_, indexes, below, next⟩
  · have same : (state.extended toolCall).toolCalls.map (·.1) = state.toolCalls.map (·.1) := by
      unfold ChatState.extended ToolCalls.modify
      rw [List.map_map]
      refine List.map_congr_left fun call _ => ?_
      rw [Function.comp_apply]
      split <;> rfl
    rw [same]
    exact keys
  · obtain ⟨old, hold, key, id, -⟩ := mem_modify mem
    rw [id, key]
    exact ids old hold

theorem find_modify {toolCall : Value} {calls : ToolCalls} {call : ToolCallState}
    (h : calls.find (toolIndex toolCall) = some call) :
    ToolCalls.find (toolIndex toolCall)
      (calls.modify (toolIndex toolCall) (extendToolCall toolCall)) =
        some (extendToolCall toolCall call) := by
  obtain ⟨⟨index, _⟩, found, rfl⟩ := Option.map_eq_some_iff.mp h
  have same : index = toolIndex toolCall := by simpa using List.find?_some found
  unfold ToolCalls.find ToolCalls.modify
  rw [List.find?_map]
  have keys : ((fun call : Int × ToolCallState => decide (call.1 = toolIndex toolCall)) ∘
      fun call => if call.1 = toolIndex toolCall then (call.1, extendToolCall toolCall call.2)
        else call) = fun call => decide (call.1 = toolIndex toolCall) := by
    funext call
    rw [Function.comp_apply]
    split <;> rfl
  rw [keys, found, Option.map_some, Option.map_some, if_pos same]

/-- A piece without arguments shows nothing, whatever else it changes. -/
theorem Tracks.extend_silent (t : Tracks phase history state) {toolCall : Value}
    (empty : functionArguments toolCall = "") :
    Tracks phase history (state.extended toolCall) where
  follows := t.follows
  numbered := t.numbered
  itemized := by
    have items := extended_items state toolCall
    refine ⟨extended_registered t.itemized.toRegistered toolCall, ?_, ?_, fun call mem => ?_⟩
    · rw [items]
      exact t.itemized.count
    · rw [items]
      exact t.itemized.items
    · obtain ⟨old, hold, -, id, -⟩ := mem_modify mem
      rw [id]
      exact t.itemized.added old hold
  phased := t.phased
  collected := by
    refine ⟨t.collected.text, fun call mem => ?_⟩
    obtain ⟨old, hold, -, id, ⟨-, arguments⟩ | ⟨-, arguments⟩⟩ := mem_modify mem
    · rw [arguments, empty, String.append_empty, id]
      exact t.collected.arguments old hold
    · rw [arguments, id]
      exact t.collected.arguments old hold

theorem Tracks.extend (t : Tracks .running history state) (started : history ≠ [])
    {toolCall : Value} {call : ToolCallState}
    (found : state.toolCalls.find (toolIndex toolCall) = some call)
    (room : history.length < maxEvents) :
    After .running history ((state.extended toolCall).eventBytes
      (.functionCallArgumentsDelta state.responseId call.itemId call.outputIndex
        (functionArguments toolCall))) := by
  have created := t.phased.created.mpr started
  have phased := t.phased
  rw [created] at phased
  have mem := ToolCalls.find_some found
  have items := extended_items state toolCall
  let s' := { state.extended toolCall with
    sequenceNumber := saturatingAddI64 state.sequenceNumber 1 }
  have owned : Owned (.functionCallArgumentsDelta state.responseId call.itemId call.outputIndex
      (functionArguments toolCall)) state s' := by
    refine ⟨(extended_registered t.itemized.toRegistered toolCall).of_same ⟨rfl, rfl, rfl, rfl⟩,
      fun i hi => ?_, ?_, ?_, fun c hc => ?_⟩
    · show i ∈ (state.extended toolCall).items
      rw [items]
      exact hi
    · rintro i ⟨⟩
      show _ ∈ (state.extended toolCall).items
      rw [items]
      exact List.mem_append_right _ (List.mem_map.mpr ⟨_, mem, rfl⟩)
    · rintro itemId outputIndex ⟨⟩ -
      exact ⟨_, mem, rfl⟩
    · obtain ⟨old, hold, -, id, -⟩ := mem_modify hc
      exact .inr ⟨old, hold, id.symm⟩
  show Tracks .running (history ++ [⟨.functionCallArgumentsDelta state.responseId call.itemId
    call.outputIndex (functionArguments toolCall), state.sequenceNumber⟩]) s'
  refine ⟨each_concat.mpr ⟨t.follows, t.follows_next started room nofun nofun owned
      ⟨nofun, nofun⟩ fun _ => rfl⟩, t.numbered.append room _, t.itemized.append owned ?_, ?_,
    ?_, fun c hc => ?_⟩
  · have := t.itemized.count
    show (state.extended toolCall).items.length ≤ _
    rw [items]
    omega
  · show Phased .running _ state.created state.completed
    rw [created]
    exact phased.append Iff.rfl (fun _ => rfl) fun _ => ⟨nofun, nofun⟩
  · rw [textOf_concat]
    exact t.collected.text.trans (String.append_empty ..).symm
  · obtain ⟨old, hold, -, id, more⟩ := mem_modify hc
    rw [argumentsOf_concat, id, ← t.collected.arguments old hold]
    show _ = _ ++ (if call.itemId = old.2.itemId then functionArguments toolCall else "")
    rcases more with ⟨key, arguments⟩ | ⟨key, arguments⟩
    · rw [arguments, if_pos]
      rw [t.itemized.ids _ mem, t.itemized.ids old hold, key]
    · rw [arguments, if_neg, String.append_empty]
      intro same
      rw [t.itemized.ids _ mem, t.itemized.ids old hold] at same
      exact key (itemIdOf_injective same).symm

/-! ### Completion -/

/-- An event about a call that is done, or about none. -/
theorem Tracks.closing_event (t : Tracks .closing history state) {phase' : Phase}
    {e : ResponsesEvent} {s' : ChatState} (started : history ≠ []) (room : history.length < maxEvents)
    (later : ¬ e.isCreated) (owned : Owned e state s') (repeats : Repeats e state)
    (noText : e.textDelta = "") (noArguments : ¬ e.isArgumentsDelta)
    (few : s'.items.length ≤ history.length)
    (next : s'.sequenceNumber = saturatingAddI64 state.sequenceNumber 1)
    (same : s'.created = state.created ∧ s'.completed = state.completed ∧ s'.text = state.text ∧
      s'.toolCalls = state.toolCalls)
    (after : phase' = .closed ∨ phase' = .closing ∧ ¬ e.isCompleted) :
    Tracks phase' (history ++ [⟨e, state.sequenceNumber⟩]) s' := by
  obtain ⟨created_, completed, text, calls⟩ := same
  have created := t.phased.created.mpr started
  have phased := t.phased
  have collected : Collected (history ++ [⟨e, state.sequenceNumber⟩]) state.text state.toolCalls :=
    t.collected.append noText noArguments
  refine ⟨each_concat.mpr ⟨t.follows, t.follows_next started room later nofun owned repeats
      fun delta => absurd delta noArguments⟩, ?_, t.itemized.append owned few, ?_, ?_⟩
  · rw [next]
    exact t.numbered.append room _
  · rw [created] at phased created_
    rw [created_, completed]
    rcases after with rfl | ⟨rfl, running⟩
    · exact phased.append (iff_of_false nofun nofun) nofun fun ne => absurd rfl ne
    · exact phased.append (iff_of_false nofun nofun) nofun fun _ => ⟨nofun, running⟩
  · rw [text, calls]
    exact collected

theorem Tracks.completeToolCall (t : Tracks .closing history state) (started : history ≠ [])
    (room : history.length + 2 ≤ maxEvents) {call : Int × ToolCallState}
    (mem : call ∈ state.toolCalls) : After .closing history (state.completeToolCall call.2) := by
  have item : (some call.2.itemId, call.2.outputIndex) ∈ state.items :=
    List.mem_append_right _ (List.mem_map.mpr ⟨call, mem, rfl⟩)
  have few : state.items.length ≤ history.length := t.itemized.count.trans (Nat.sub_le ..)
  unfold ChatState.completeToolCall
  refine After.andThen ?_
  have first : After .closing history (state.eventBytes (.functionCallArgumentsDone
      state.responseId call.2.itemId call.2.outputIndex call.2.name call.2.arguments)) := by
    refine t.closing_event started (by omega) nofun (Owned.of_same t.itemized.toRegistered
      ⟨rfl, rfl, rfl, rfl⟩ ?_ ?_) ⟨nofun, ?_⟩ rfl nofun few rfl ⟨rfl, rfl, rfl, rfl⟩
      (.inr ⟨rfl, nofun⟩)
    · rintro i ⟨⟩
      exact item
    · rintro itemId outputIndex ⟨⟩ -
      exact ⟨call, mem, rfl⟩
    · rintro itemId arguments ⟨⟩
      exact ⟨call, mem, rfl, rfl⟩
  refine first.closing_event (List.append_ne_nil_of_left_ne_nil started _) ?_ nofun
    (Owned.of_same first.itemized.toRegistered ⟨rfl, rfl, rfl, rfl⟩ ?_ ?_) ⟨nofun, ?_⟩ rfl nofun
    ?_ rfl ⟨rfl, rfl, rfl, rfl⟩ (.inr ⟨rfl, nofun⟩)
  · rw [List.length_append]
    exact room
  · rintro i ⟨⟩
    exact item
  · rintro itemId outputIndex ⟨⟩ -
    exact ⟨call, mem, rfl⟩
  · rintro itemId arguments ⟨⟩
    exact ⟨call, mem, rfl, rfl⟩
  · rw [List.length_append]
    exact few.trans (Nat.le_add_right ..)

theorem completeToolCalls_length (calls : List ToolCallState) :
    (outputs ChatState.completeToolCall state calls).1.length = 2 * calls.length := by
  induction calls generalizing state with
  | nil => rfl
  | cons call rest ih =>
    rw [outputs_cons, Outputs.andThen, List.length_append, ih, List.length_cons]
    show 2 + _ = _
    omega

theorem Tracks.completeToolCalls (t : Tracks .closing history state) (started : history ≠ [])
    {calls : ToolCalls} (known : ∀ call ∈ calls, call ∈ state.toolCalls)
    (room : history.length + 2 * calls.length ≤ maxEvents) :
    After .closing history (outputs ChatState.completeToolCall state (calls.map (·.2))) := by
  induction calls generalizing history state with
  | nil => exact t.after
  | cons call rest ih =>
    rw [List.forall_mem_cons] at known
    rw [List.length_cons] at room
    refine After.andThen (ih (t.completeToolCall started (by omega) known.1)
      (List.append_ne_nil_of_left_ne_nil started _) known.2 ?_)
    rw [List.length_append]
    show _ + 2 + _ ≤ _
    omega

/-- How many events it takes to complete the response. -/
def completedCount (state : ChatState) : Nat :=
  if state.completed then 0 else createdCount state + 2 * state.toolCalls.length + 1

theorem responseOutput_state (env : Environment) (s : ChatState) :
    (s.responseOutput env).2 = s ∨ (s.responseOutput env).2 = s.indexOfMessage.2 := by
  unfold ChatState.responseOutput
  dsimp only
  split
  · exact .inr rfl
  · exact .inl rfl

/-- The last event, whether or not it takes an output index for the message. -/
theorem Tracks.completedEvent (t : Tracks .closing history state) (started : history ≠ [])
    (room : history.length < maxEvents) {s' : ChatState}
    (last : s' = state ∨ s' = state.indexOfMessage.2) (created : Int) (output : List OutputItem) :
    After .closed history (s'.eventBytes (.completed
      ⟨s'.responseId, created, s'.model, output, s'.text, s'.usage⟩)) := by
  have count := t.itemized.count
  have positive := List.length_pos_of_ne_nil started
  have few : state.items.length < maxEvents := by omega
  have index : Registered s' ∧ (∀ i ∈ state.items, i ∈ s'.items) ∧
      s'.items.length ≤ state.items.length + 1 ∧ s' = { state with
        messageOutputIndex := s'.messageOutputIndex
        nextOutputIndex := s'.nextOutputIndex } := by
    rcases last with rfl | rfl
    · exact ⟨t.itemized.toRegistered, fun _ hi => hi, Nat.le_succ _, rfl⟩
    · obtain ⟨registered, -, grows, length⟩ := t.itemized.toRegistered.message few
      exact ⟨registered, grows, length, indexOfMessage_same state⟩
  obtain ⟨registered, grows, length, same⟩ := index
  have sequence : s'.sequenceNumber = state.sequenceNumber := by rw [same]
  have calls : s'.toolCalls = state.toolCalls := by rw [same]
  unfold After ChatState.eventBytes
  dsimp only
  rw [sequence]
  refine t.closing_event started room nofun ⟨registered.of_same ⟨rfl, rfl, rfl, rfl⟩, grows, nofun,
    nofun, fun call mem => .inr ⟨call, calls ▸ mem, rfl⟩⟩ ⟨?_, nofun⟩ rfl nofun ?_ rfl ?_ (.inl rfl)
  · rintro response ⟨⟩
    rw [same]
  · show s'.items.length ≤ _
    omega
  · rw [same]
    exact ⟨rfl, rfl, rfl, rfl⟩

theorem ensureCreated_frame (env : Environment) (s : ChatState) :
    (s.ensureCreated env).1.length = createdCount s ∧ (s.ensureCreated env).2.created = true ∧
      (s.ensureCreated env).2.completed = s.completed ∧
      (s.ensureCreated env).2.toolCalls = s.toolCalls := by
  rcases ensureCreated_cases env s with ⟨created, none, same⟩ | ⟨-, one, same⟩
  · rw [same, none]
    exact ⟨rfl, created, rfl, rfl⟩
  · rw [same, one]
    exact ⟨rfl, rfl, rfl, rfl⟩

/-- The response is being completed from here on. -/
theorem Tracks.close (t : Tracks .running history state) (started : history ≠ []) :
    Tracks .closing history { state with completed := true } where
  follows := t.follows
  numbered := t.numbered
  itemized := ⟨t.itemized.toRegistered.of_same ⟨rfl, rfl, rfl, rfl⟩, t.itemized.count,
    t.itemized.items, t.itemized.added⟩
  phased := ⟨t.phased.created, by simp, fun _ => started, nofun, fun _ => t.phased.open_ nofun⟩
  collected := t.collected

theorem Tracks.completeOnce (t : Tracks phase history state) (settled : phase ≠ .closing)
    (room : history.length + completedCount state ≤ maxEvents) :
    ∃ phase' ≠ .closing, After phase' history (state.completeOnce env) := by
  unfold ChatState.completeOnce
  unfold completedCount at room
  cases completed : state.completed with
  | true => exact ⟨phase, settled, t.after⟩
  | false =>
    rw [completed, if_neg Bool.false_ne_true] at room
    have running : phase = .running := by
      by_contra other
      rw [t.phased.completed.mpr other] at completed
      cases completed
    subst running
    obtain ⟨length, created, -, calls⟩ := ensureCreated_frame env state
    have begun : After .running history (state.ensureCreated env) := t.ensureCreated (by omega)
    generalize state.ensureCreated env = first at length created calls begun
    have started := begun.phased.created.mp created
    refine ⟨.closed, nofun, ?_⟩
    rw [if_neg Bool.false_ne_true]
    refine After.andThen ?_
    have closing := begun.close started
    have finished := closing.completeToolCalls started (fun call mem => mem) (by
      rw [List.length_append, length]
      show _ + 2 * first.2.toolCalls.length ≤ _
      rw [calls]
      omega)
    refine After.andThen (finished.completedEvent (List.append_ne_nil_of_left_ne_nil started _) ?_
      (responseOutput_state env _) _ _)
    rw [List.length_append, List.length_append, completeToolCalls_length, List.length_map, length]
    show _ + 2 * first.2.toolCalls.length < _
    rw [calls]
    omega

/-! ### Commands -/

/-- How many events a command hands out. -/
def eventsShown (state : ChatState) : Command → Nat
  | .content _ => createdCount state + 1
  | .toolCall toolCall => createdCount state +
      (if (state.toolCalls.find (toolIndex toolCall)).isSome then 0 else 1) +
      if functionArguments toolCall = "" then 0 else 1
  | .settle => if state.doneSeen ∧ state.usage.isSome then completedCount state else 0
  | .complete => completedCount state
  | .usage _ | .done => 0

/-- A command that shows nothing of a response that is completed. -/
def Silent (state : ChatState) : Command → Prop
  | .content _ => False
  | .toolCall toolCall => (state.toolCalls.find (toolIndex toolCall)).isSome ∧
      functionArguments toolCall = ""
  | _ => True

/-- Nothing is left to show once the response is completed, and there are numbers left for
the events of a command. -/
def Allowed (soFar : Emission) (command : Command) : Prop :=
  (soFar.2.completed → Silent soFar.2 command) ∧
    soFar.1.length + eventsShown soFar.2 command ≤ maxEvents

instance (state : ChatState) : (command : Command) → Decidable (Silent state command)
  | .content _ => isFalse id
  | .toolCall _ => inferInstanceAs (Decidable (_ ∧ _))
  | .usage _ | .done | .settle | .complete => isTrue trivial

instance (soFar : Emission) (command : Command) : Decidable (Allowed soFar command) :=
  inferInstanceAs (Decidable (_ ∧ _))

theorem find_of_mem {calls : ToolCalls} {index : Int} {call : ToolCallState}
    (mem : (index, call) ∈ calls) : ∃ call', calls.find index = some call' := by
  have some_ : (List.find? (fun call => decide (call.1 = index)) calls).isSome :=
    List.find?_isSome.mpr ⟨_, mem, decide_eq_true rfl⟩
  obtain ⟨found, same⟩ := Option.isSome_iff_exists.mp some_
  exact ⟨found.2, by rw [ToolCalls.find, same]; rfl⟩

theorem extendCall_found {toolCall : Value} {call : ToolCallState}
    (found : state.toolCalls.find (toolIndex toolCall) = some call) :
    state.extendCall toolCall =
      if functionArguments toolCall = "" then ([], state.extended toolCall)
      else (state.extended toolCall).eventBytes (.functionCallArgumentsDelta state.responseId
        call.itemId call.outputIndex (functionArguments toolCall)) := by
  unfold ChatState.extendCall
  dsimp only
  rw [find_modify found]
  rfl

theorem Tracks.extendCall (t : Tracks .running history state) (started : history ≠ [])
    {toolCall : Value} {call : ToolCallState}
    (found : state.toolCalls.find (toolIndex toolCall) = some call)
    (room : history.length + (if functionArguments toolCall = "" then 0 else 1) ≤ maxEvents) :
    After .running history (state.extendCall toolCall) := by
  rw [extendCall_found found]
  split
  · rename_i empty
    exact (t.extend_silent empty).after
  · rename_i more
    rw [if_neg more] at room
    exact t.extend started found room

theorem addToolCall_found (toolCall : Value) :
    ∃ call, (state.addToolCall toolCall).2.toolCalls.find (toolIndex toolCall) = some call := by
  unfold ChatState.addToolCall
  split
  · rename_i known
    exact Option.isSome_iff_exists.mp known
  · exact find_of_mem ((List.perm_orderedInsert ..).mem_iff.mpr (List.mem_cons_self ..))

theorem addToolCall_length (toolCall : Value) : (state.addToolCall toolCall).1.length =
    if (state.toolCalls.find (toolIndex toolCall)).isSome then 0 else 1 := by
  unfold ChatState.addToolCall
  split <;> rfl

theorem Tracks.decodeToolCall (t : Tracks .running history state) {toolCall : Value}
    (room : history.length + eventsShown state (.toolCall toolCall) ≤ maxEvents) :
    After .running history (state.decodeToolCall env toolCall) := by
  dsimp only [eventsShown] at room
  obtain ⟨length, created, -, calls⟩ := ensureCreated_frame env state
  have begun : After .running history (state.ensureCreated env) := t.ensureCreated (by omega)
  unfold ChatState.decodeToolCall
  generalize state.ensureCreated env = first at length created calls begun ⊢
  have started := begun.phased.created.mp created
  refine After.andThen (After.andThen ?_)
  have added : After .running (history ++ first.1) (first.2.addToolCall toolCall) := by
    cases known : (first.2.toolCalls.find (toolIndex toolCall)).isSome with
    | true =>
      have same : first.2.addToolCall toolCall = ([], first.2) := if_pos known
      rw [same]
      exact begun.after
    | false =>
      rw [calls] at known
      rw [known, if_neg Bool.false_ne_true] at room
      refine begun.addToolCall started (calls ▸ known) ?_
      rw [List.length_append, length]
      omega
  obtain ⟨call, found⟩ : ∃ call,
      (first.2.addToolCall toolCall).2.toolCalls.find (toolIndex toolCall) = some call :=
    addToolCall_found toolCall
  refine added.extendCall (List.append_ne_nil_of_left_ne_nil started _) found ?_
  rw [List.length_append, List.length_append, addToolCall_length, length, calls]
  omega

theorem Tracks.extend_completed (t : Tracks phase history state) (completed : state.completed)
    {toolCall : Value} (silent : Silent state (.toolCall toolCall)) :
    After phase history (state.decodeToolCall env toolCall) := by
  have created : state.created = true :=
    t.phased.created.mpr (t.phased.begun (t.phased.completed.mp completed))
  obtain ⟨known, empty⟩ := silent
  obtain ⟨call, found⟩ := Option.isSome_iff_exists.mp known
  have ensured : state.ensureCreated env = ([], state) := if_pos created
  have added : state.addToolCall toolCall = ([], state) := if_pos known
  unfold ChatState.decodeToolCall
  rw [ensured, andThen_none, added, andThen_none, extendCall_found found, if_pos empty]
  exact (t.extend_silent empty).after

/-- What a command preserves, wherever it is allowed. -/
theorem Tracks.perform (t : Tracks phase history state) (settled : phase ≠ .closing)
    {command : Command} (allowed : Allowed (history, state) command) :
    ∃ phase' ≠ .closing, After phase' history (perform env state command) := by
  obtain ⟨silent, room⟩ := allowed
  have running (idle : state.completed = false) : phase = .running := by
    by_contra other
    rw [t.phased.completed.mpr other] at idle
    cases idle
  cases command with
  | usage usage =>
    exact ⟨phase, settled, Tracks.after ⟨t.follows, t.numbered,
      ⟨t.itemized.toRegistered.of_same ⟨rfl, rfl, rfl, rfl⟩, t.itemized.count, t.itemized.items,
        t.itemized.added⟩, t.phased, t.collected⟩⟩
  | done =>
    exact ⟨phase, settled, Tracks.after ⟨t.follows, t.numbered,
      ⟨t.itemized.toRegistered.of_same ⟨rfl, rfl, rfl, rfl⟩, t.itemized.count, t.itemized.items,
        t.itemized.added⟩, t.phased, t.collected⟩⟩
  | content content =>
    cases completed : state.completed with
    | true => exact (silent completed).elim
    | false =>
      obtain rfl := running completed
      dsimp only [eventsShown] at room
      obtain ⟨length, created, -, -⟩ := ensureCreated_frame env state
      have begun : After .running history (state.ensureCreated env) := t.ensureCreated (by omega)
      refine ⟨.running, nofun, After.andThen (begun.content (begun.phased.created.mp created) ?_ _)⟩
      rw [List.length_append, length]
      omega
  | toolCall toolCall =>
    cases completed : state.completed with
    | true => exact ⟨phase, settled, t.extend_completed completed (silent completed)⟩
    | false =>
      obtain rfl := running completed
      exact ⟨.running, nofun, t.decodeToolCall room⟩
  | settle =>
    show ∃ phase' ≠ .closing, After phase' history (state.settle env)
    dsimp only [eventsShown] at room
    unfold ChatState.settle
    split
    · rename_i both
      rw [if_pos both] at room
      exact t.completeOnce settled room
    · exact ⟨phase, settled, t.after⟩
  | complete => exact t.completeOnce settled room

end Stages

/-! ### Runs -/

/-- Where every command is allowed, the events of a run are well formed. -/
theorem outputs_well_formed {commands : List Command} (model responseId : String)
    (allowed : Along (recorded (perform env)) Allowed ([], .new model responseId) commands) :
    WellFormed (outputs (perform env) (.new model responseId) commands).1 := by
  have preserved (soFar : Emission) (command : Command) (allowed : Allowed soFar command)
      (h : ∃ phase ≠ .closing, Tracks phase soFar.1 soFar.2) :
      ∃ phase ≠ .closing, Tracks phase (recorded (perform env) soFar command).1
        (recorded (perform env) soFar command).2 := by
    obtain ⟨phase, settled, t⟩ := h
    exact t.perform settled allowed
  obtain ⟨phase, -, t⟩ := run_invariant_along preserved
    ⟨.running, nofun, tracks_new model responseId⟩ allowed
  rw [run_recorded] at t
  exact wellFormed_of_follows t.follows

inductive Operation
  | push (chunk : Bytes)
  | noteObservedUsage (usage : ObservedUsage)
  | finish

namespace ResponsesChatStreamDecoder

/-- All events of a run; it ends with the stream, or with the first failure. -/
def emitted (env : Environment) (d : ResponsesChatStreamDecoder) :
    List Operation → List SequencedEvent
  | [] => []
  | .push chunk :: rest =>
    match d.push env chunk with
    | .error _ => []
    | .ok (output, d) => output ++ d.emitted env rest
  | .noteObservedUsage usage :: rest =>
    emitted env { d with toChatState := d.noteObservedUsage usage } rest
  | .finish :: _ =>
    match d.finish env with
    | .error _ => []
    | .ok (output, _) => output

end ResponsesChatStreamDecoder

open ResponsesChatStreamDecoder

/-- The commands that a run performs, with some bytes pending. -/
def runCommands (env : Environment) (pending : Bytes) : List Operation → List Command
  | [] => []
  | .push chunk :: rest =>
    if (pending ++ chunk).length ≤ maxPendingSseBytes ∧
        ∀ frame ∈ (Framing.frames endsEvent [] (pending ++ chunk)).1, CanDecode env frame then
      (Framing.frames endsEvent [] (pending ++ chunk)).1.flatMap (frameCommands env) ++
        runCommands env (Framing.frames endsEvent [] (pending ++ chunk)).2 rest
    else []
  | .noteObservedUsage usage :: rest => .usage usage :: runCommands env pending rest
  | .finish :: _ => if pending.all isAsciiWhitespace then [.complete] else []

theorem emitted_eq (d : ResponsesChatStreamDecoder) (operations : List Operation) :
    d.emitted env operations =
      (outputs (perform env) d.toChatState (runCommands env d.pending operations)).1 := by
  induction operations generalizing d with
  | nil => rfl
  | cons operation rest ih =>
    cases operation with
    | push chunk =>
      unfold emitted runCommands
      split
      · rename_i e failed
        rw [if_neg]
        · rfl
        · intro taken
          exact nomatch failed.symm.trans (push_ok.mpr ⟨taken.1, taken.2, rfl⟩)
      · rename_i output d' pushed
        obtain ⟨room, can, same⟩ := push_ok.mp pushed
        obtain ⟨rfl, rfl⟩ := Prod.mk.inj same
        rw [if_pos ⟨room, can⟩, outputs_append, ih]
        rfl
    | noteObservedUsage usage => exact ih _
    | finish =>
      unfold emitted runCommands finish
      split
      · rename_i e failed
        revert failed
        split
        · exact nofun
        · exact fun _ => rfl
      · rename_i output d' finished
        revert finished
        split
        · rintro ⟨⟩
          exact (List.append_nil _).symm
        · exact nofun

/-- Every run whose commands are all allowed hands out a well-formed history. -/
theorem emitted_well_formed (env : Environment) (model responseId : String)
    (operations : List Operation)
    (allowed : Along (recorded (perform env)) Allowed ([], .new model responseId)
      (runCommands env [] operations)) :
    WellFormed ((new model responseId).emitted env operations) := by
  rw [emitted_eq]
  exact outputs_well_formed model responseId allowed

/-! ### A chat that goes on after its end -/

/-- The bytes of an ASCII text. -/
def asciiBytes (text : String) : Bytes := text.toList.map fun c => .ofNat c.toNat

/-- What the parser makes of two texts. -/
def sampleJson : JsonParser := fun text =>
  if text = "\x7b\"choices\":[\x7b\"delta\":\x7b\"content\":\"a\"\x7d\x7d]\x7d" then
    .ok (.object [("choices", .array [.object [("delta", .object [("content", .string "a")])]])])
  else if text = "\x7b\"usage\":\x7b\"total_tokens\":1\x7d\x7d" then
    .ok (.object [("usage", .object [("total_tokens", .number "1")])])
  else .error "expected value at line 1 column 1"

def sampleEnvironment : Environment := ⟨sampleJson, 1, 2, "output_1"⟩

def deltaEvent : Bytes :=
  asciiBytes "data: \x7b\"choices\":[\x7b\"delta\":\x7b\"content\":\"a\"\x7d\x7d]\x7d\n\n"

def usageEvent : Bytes := asciiBytes "data: \x7b\"usage\":\x7b\"total_tokens\":1\x7d\x7d\n\n"

def doneEvent : Bytes := asciiBytes "data: [DONE]\n\n"

theorem emitted_well_formed_delta : WellFormed ((new "gpt-test" "resp_test").emitted
    sampleEnvironment [.push deltaEvent, .push usageEvent, .push doneEvent, .finish]) :=
  emitted_well_formed sampleEnvironment "gpt-test" "resp_test" _ (by decide +kernel)

/-- Text that comes after the end of the chat is handed out after the completion. -/
theorem delta_after_completed : ¬ WellFormed ((new "gpt-test" "resp_test").emitted
    sampleEnvironment [.push usageEvent, .push doneEvent, .push deltaEvent]) := by
  have history : (new "gpt-test" "resp_test").emitted sampleEnvironment
      [.push usageEvent, .push doneEvent, .push deltaEvent] =
        [⟨.created "resp_test" 1 "gpt-test", 0⟩] ++
          ⟨.completed ⟨"resp_test", 2, "gpt-test", [.message "output_1" ""], "",
            some ⟨none, none, some 1, none, none⟩⟩, 1⟩ ::
          [⟨.outputTextDelta "resp_test" 0 "a", 2⟩] := by decide +kernel
  intro wellFormed
  exact nomatch wellFormed.completedLast _ _ _ history rfl

end RelayPool.Streaming.Chat
