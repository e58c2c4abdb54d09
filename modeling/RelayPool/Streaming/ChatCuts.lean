import RelayPool.Streaming.ChatCommands

/-! Chats and the cuts of the network.

A push is refused as a whole: what it decoded before its first bad event is not handed
out, and a chunk that brings more than the limit is refused although all its events are
complete. So the cuts do not matter for a stream of good events that fits into one chunk,
nor for one that is refused before it shows anything, and for no other stream
(`chat_cuts_ignored`). -/
namespace RelayPool.Streaming.Chat
open Protocol Outputs Framing ResponsesChatStreamDecoder

variable {env : Environment}

/-! ### What is shown -/

namespace Command

/-- Text or a piece of a call. -/
def isDelta : Command → Bool
  | .content _ | .toolCall _ => true
  | _ => false

def isDone : Command → Bool
  | .done => true
  | _ => false

def isUsage : Command → Bool
  | .usage _ => true
  | _ => false

end Command

/-- No text, no call, and not both the end of the chat and its usage. -/
structure ShowsNothing (commands : List Command) : Prop where
  deltas : ¬ commands.any (·.isDelta)
  open_ : ¬ (commands.any (·.isDone) ∧ commands.any (·.isUsage))

/-- Nothing has been handed out yet. -/
structure Idle (done usage : Bool) (state : ChatState) : Prop where
  created : state.created = false
  completed : state.completed = false
  doneSeen : state.doneSeen = done
  usage : state.usage.isSome = usage

theorem ensureCreated_shows {state : ChatState} (h : state.created = false) :
    (state.ensureCreated env).1 ≠ [] := by
  unfold ChatState.ensureCreated
  rw [h, if_neg Bool.false_ne_true]
  exact List.cons_ne_nil _ _

theorem andThen_shows {σ ω : Type} {first : List ω × σ} (h : first.1 ≠ []) (next : σ → List ω × σ) :
    (andThen first next).1 ≠ [] := List.append_ne_nil_of_left_ne_nil h _

theorem perform_delta {command : Command} (h : command.isDelta) {state : ChatState}
    (idle : state.created = false) : (perform env state command).1 ≠ [] := by
  cases command with
  | content content => exact andThen_shows (ensureCreated_shows idle) _
  | toolCall toolCall => exact andThen_shows (ensureCreated_shows idle) _
  | _ => cases h

/-- A command that an event begins with. -/
def Command.isInput (command : Command) : Bool :=
  command.isDelta || command.isDone || command.isUsage

/-- Commands that are not text or a call show nothing; one that is does. -/
theorem outputs_inputs {commands : List Command} (inputs : commands.all (·.isInput))
    {state : ChatState} {done usage : Bool} (idle : Idle done usage state) :
    (commands.any (·.isDelta) ∧ (outputs (perform env) state commands).1 ≠ []) ∨
      ¬ commands.any (·.isDelta) ∧ ∃ state', outputs (perform env) state commands = ([], state') ∧
        Idle (done || commands.any (·.isDone)) (usage || commands.any (·.isUsage)) state' := by
  induction commands generalizing state done usage with
  | nil => exact .inr ⟨nofun, state, rfl, by simpa using idle⟩
  | cons command rest ih =>
    rw [List.all_cons, Bool.and_eq_true] at inputs
    cases command with
    | content | toolCall =>
      exact .inl ⟨by simp [Command.isDelta], andThen_shows (perform_delta rfl idle.created) _⟩
    | done =>
      have idle' : Idle true usage { state with doneSeen := true } :=
        ⟨idle.created, idle.completed, rfl, idle.usage⟩
      simpa [Command.isDelta, Command.isDone, Command.isUsage, perform] using ih inputs.2 idle'
    | usage seen =>
      have idle' : Idle done true (state.noteObservedUsage seen) :=
        ⟨idle.created, idle.completed, idle.doneSeen, rfl⟩
      simpa [Command.isDelta, Command.isDone, Command.isUsage, perform] using ih inputs.2 idle'
    | settle => exact absurd inputs.1 (by decide)
    | complete => exact absurd inputs.1 (by decide)

theorem settle_idle {state : ChatState} {done usage : Bool} (idle : Idle done usage state) :
    (done && usage) = true ∧ (state.settle env).1 ≠ [] ∨
      (done && usage) = false ∧ state.settle env = ([], state) := by
  unfold ChatState.settle ChatState.completeOnce
  rw [idle.doneSeen, idle.usage, idle.completed]
  cases both : done && usage with
  | true =>
    rw [Bool.and_eq_true] at both
    rw [if_pos both, if_neg Bool.false_ne_true]
    exact .inl ⟨rfl, andThen_shows (ensureCreated_shows idle.created) _⟩
  | false =>
    rw [if_neg (by simpa using both)]
    exact .inr ⟨rfl, rfl⟩

theorem choiceCommands_inputs {choice : Value} {command : Command}
    (h : command ∈ choiceCommands choice) : command.isInput := by
  unfold choiceCommands contentCommands at h
  cases found : choice.get "delta" with
  | none =>
    rw [found] at h
    cases h
  | some delta =>
    rw [found] at h
    rcases List.mem_append.mp h with h | h
    · revert h
      split
      · exact nofun
      split
      · exact nofun
      · intro h
        rw [List.mem_singleton.mp h]
        rfl
    · obtain ⟨toolCall, -, rfl⟩ := List.mem_map.mp h
      rfl

/-- An event asks to settle after everything else. -/
theorem frameCommands_shape (frame : Bytes) :
    frameCommands env frame = [] ∨ ∃ inputs : List Command, inputs.all (·.isInput) ∧
      frameCommands env frame = inputs ++ [.settle] := by
  unfold frameCommands eventCommands
  dsimp only
  split
  · rename_i commands found
    revert found
    split
    · rintro ⟨⟩
      exact .inl rfl
    split
    · rintro ⟨⟩
      exact .inr ⟨[.done], rfl, rfl⟩
    intro found
    obtain ⟨value, -, rfl⟩ := Fallible.map_ok.mp found
    refine .inr ⟨_, ?_, (List.append_assoc ..).symm⟩
    rw [List.all_eq_true]
    intro command mem
    rcases List.mem_append.mp mem with mem | mem
    · obtain ⟨usage, -, rfl⟩ := List.mem_map.mp mem
      rfl
    · obtain ⟨choice, -, mem⟩ := List.mem_flatMap.mp mem
      exact choiceCommands_inputs mem
  · exact .inl rfl

theorem outputs_frames (frames : List Bytes) {state : ChatState} {done usage : Bool}
    (idle : Idle done usage state) (open_ : (done && usage) = false) :
    (outputs (perform env) state (frames.flatMap (frameCommands env))).1 = [] ↔
      ¬ (frames.flatMap (frameCommands env)).any (·.isDelta) ∧
        ((done || (frames.flatMap (frameCommands env)).any (·.isDone)) &&
          (usage || (frames.flatMap (frameCommands env)).any (·.isUsage))) = false := by
  induction frames generalizing state done usage with
  | nil => simpa using open_
  | cons frame rest ih =>
    rw [List.flatMap_cons]
    rcases frameCommands_shape frame with none | ⟨inputs, all, shape⟩
    · rw [none, List.nil_append]
      exact ih idle open_
    have settled (f : Command → Bool) (no : f .settle = false) :
        (inputs ++ [Command.settle] ++ rest.flatMap (frameCommands env)).any f =
          (inputs.any f || (rest.flatMap (frameCommands env)).any f) := by
      simp [no]
    rw [shape, settled (·.isDelta) rfl, settled (·.isDone) rfl, settled (·.isUsage) rfl,
      outputs_append, outputs_append]
    rcases outputs_inputs all idle with ⟨delta, shown⟩ | ⟨quiet, state', same, idle'⟩
    · rw [delta, Bool.true_or]
      exact iff_of_false (andThen_shows (andThen_shows shown _) _) fun h => h.1 rfl
    rw [Bool.not_eq_true] at quiet
    rw [same, andThen_none, outputs_cons, quiet, Bool.false_or, ← Bool.or_assoc, ← Bool.or_assoc]
    rcases settle_idle idle' with ⟨both, shown⟩ | ⟨neither, quiet'⟩
    · rw [Bool.and_eq_true] at both
      rw [both.1, both.2]
      exact iff_of_false (andThen_shows (andThen_shows shown _) _) fun h => nomatch h.2
    · show (andThen (andThen (state'.settle env) _) _).1 = [] ↔ _
      rw [quiet', andThen_none, outputs_nil, andThen_none]
      exact ih idle' neither

theorem shows_nothing_iff (model responseId : String) (frames : List Bytes) :
    (outputs (perform env) (.new model responseId) (frames.flatMap (frameCommands env))).1 = [] ↔
      ShowsNothing (frames.flatMap (frameCommands env)) := by
  have idle : Idle false false (.new model responseId) := ⟨rfl, rfl, rfl, rfl⟩
  rw [outputs_frames frames idle rfl]
  simp only [Bool.false_or, Bool.and_eq_false_iff]
  constructor
  · rintro ⟨deltas, open_⟩
    exact ⟨deltas, fun h => by simp [h.1, h.2] at open_⟩
  · rintro ⟨deltas, open_⟩
    refine ⟨deltas, ?_⟩
    by_contra h
    exact open_ (by simpa using h)

/-! ### Chunks -/

/-- A frame that fits into the buffer and can be decoded. -/
def Good (env : Environment) (frame : Bytes) : Prop :=
  frame.length ≤ maxPendingSseBytes ∧ CanDecode env frame

instance (frame : Bytes) : Decidable (Good env frame) := inferInstanceAs (Decidable (_ ∧ _))

/-- The frames before the first that is not good. -/
def goodFrames (env : Environment) (input : Bytes) : List Bytes :=
  (eventFrames input).1.takeWhile fun frame => Good env frame

/-- The stream ends in a failure, however it is cut. -/
def Refused (env : Environment) (input : Bytes) : Prop :=
  (∃ frame ∈ (eventFrames input).1, ¬ Good env frame) ∨
    maxPendingSseBytes < (eventFrames input).2.length ∨
    ¬ (eventFrames input).2.all isAsciiWhitespace

/-- What the end of the stream adds. -/
def ending (env : Environment) (output : Emission) (rest : Bytes) :
    List SequencedEvent × Option StreamFailure :=
  if rest.all isAsciiWhitespace then (output.1 ++ (output.2.completeOnce env).1, none)
  else (output.1, some ⟨"upstream chat SSE ended with a partial event"⟩)

theorem decode_nil (d : ResponsesChatStreamDecoder) :
    d.decode env [] = ending env ([], d.toChatState) d.pending := by
  unfold decode finish ending
  split
  · rename_i e failed
    revert failed
    split
    · exact nofun
    · rintro ⟨⟩
      rfl
  · rename_i output d' done
    revert done
    split
    · rintro ⟨⟩
      rfl
    · exact nofun

theorem decode_of_push {d d' : ResponsesChatStreamDecoder} {chunk : Bytes}
    {output : List SequencedEvent} (h : d.push env chunk = .ok (output, d'))
    (rest : List Bytes) :
    d.decode env (chunk :: rest) = (output ++ (d'.decode env rest).1, (d'.decode env rest).2) := by
  rw [decode, h]

/-- A push that is not taken ends the stream without any event. -/
theorem decode_of_refused {d : ResponsesChatStreamDecoder} {chunk : Bytes}
    (h : ¬ ((d.pending ++ chunk).length ≤ maxPendingSseBytes ∧
      ∀ frame ∈ (eventFrames (d.pending ++ chunk)).1, CanDecode env frame))
    (rest : List Bytes) : ∃ e, d.decode env (chunk :: rest) = ([], some e) := by
  rw [decode]
  cases pushed : d.push env chunk with
  | error e => exact ⟨e, rfl⟩
  | ok result =>
    obtain ⟨room, can, -⟩ := push_ok.mp pushed
    exact absurd ⟨room, can⟩ h

theorem frames_length (pending : Bytes) :
    (eventFrames pending).1.flatten.length + (eventFrames pending).2.length = pending.length := by
  rw [← List.length_append]
  exact congrArg List.length (frames_flatten [] pending)

theorem frame_length_le {pending frame : Bytes} (h : frame ∈ (eventFrames pending).1) :
    frame.length ≤ pending.length := by
  have whole := frames_length pending
  have part := (List.sublist_flatten_of_mem h).length_le
  omega

/-- What a chunk completes comes before what the rest completes. -/
theorem eventFrames_chunk (pending chunk rest : Bytes) :
    eventFrames (pending ++ (chunk ++ rest)) =
      ((eventFrames (pending ++ chunk)).1 ++
          (eventFrames ((eventFrames (pending ++ chunk)).2 ++ rest)).1,
        (eventFrames ((eventFrames (pending ++ chunk)).2 ++ rest)).2) := by
  rw [← List.append_assoc]
  exact frames_again ..

theorem still_open (pending : Bytes) :
    eventFrames (eventFrames pending).2 = ([], (eventFrames pending).2) := frames_rest rfl _

/-- A stream of events that can be decoded, with room for all of it. -/
theorem decode_decodable {d : ResponsesChatStreamDecoder}
    (open_ : eventFrames d.pending = ([], d.pending)) {chunks : List Bytes}
    (room : (d.pending ++ chunks.flatten).length ≤ maxPendingSseBytes)
    (can : ∀ frame ∈ (eventFrames (d.pending ++ chunks.flatten)).1, CanDecode env frame) :
    d.decode env chunks =
      ending env (outputs (perform env) d.toChatState
        ((eventFrames (d.pending ++ chunks.flatten)).1.flatMap (frameCommands env)))
        (eventFrames (d.pending ++ chunks.flatten)).2 := by
  induction chunks generalizing d with
  | nil =>
    rw [List.flatten_nil, List.append_nil, open_]
    exact decode_nil d
  | cons chunk rest ih =>
    have whole := eventFrames_chunk d.pending chunk rest.flatten
    rw [List.flatten_cons] at room can ⊢
    rw [whole, List.forall_mem_append] at can
    have lengths := frames_length (d.pending ++ chunk)
    simp only [List.length_append] at room lengths
    have pushed := push_ok.mpr
      ⟨by rw [List.length_append]; omega, can.1, rfl⟩
    rw [decode_of_push pushed, ih (still_open _) (by simp only [List.length_append]; omega) can.2,
      whole, List.flatMap_append, outputs_append]
    unfold ending
    split <;> simp [andThen]

/-- A chunk that is taken brings good frames. -/
theorem good_of_taken {pending : Bytes} (room : pending.length ≤ maxPendingSseBytes)
    (can : ∀ frame ∈ (eventFrames pending).1, CanDecode env frame) :
    ∀ frame ∈ (eventFrames pending).1, Good env frame :=
  fun frame mem => ⟨(frame_length_le mem).trans room, can frame mem⟩

theorem goodFrames_taken {pending chunk rest : Bytes}
    (good : ∀ frame ∈ (eventFrames (pending ++ chunk)).1, Good env frame) :
    goodFrames env (pending ++ (chunk ++ rest)) =
      (eventFrames (pending ++ chunk)).1 ++
        goodFrames env ((eventFrames (pending ++ chunk)).2 ++ rest) := by
  unfold goodFrames
  rw [eventFrames_chunk, List.takeWhile_append_of_pos fun frame mem => decide_eq_true (good frame mem)]

theorem refused_taken {pending chunk rest : Bytes}
    (good : ∀ frame ∈ (eventFrames (pending ++ chunk)).1, Good env frame) :
    Refused env (pending ++ (chunk ++ rest)) ↔
      Refused env ((eventFrames (pending ++ chunk)).2 ++ rest) := by
  unfold Refused
  rw [eventFrames_chunk]
  refine or_congr_left ⟨?_, fun ⟨frame, mem, bad⟩ => ⟨frame, List.mem_append_right _ mem, bad⟩⟩
  rintro ⟨frame, mem, bad⟩
  rcases List.mem_append.mp mem with mem | mem
  · exact absurd (good frame mem) bad
  · exact ⟨frame, mem, bad⟩

/-- A stream that ends in a failure, and shows nothing before its first bad frame. -/
theorem decode_refused {d : ResponsesChatStreamDecoder}
    (open_ : eventFrames d.pending = ([], d.pending))
    (room : d.pending.length ≤ maxPendingSseBytes) {chunks : List Bytes}
    (quiet : (outputs (perform env) d.toChatState
      ((goodFrames env (d.pending ++ chunks.flatten)).flatMap (frameCommands env))).1 = [])
    (refused : Refused env (d.pending ++ chunks.flatten)) :
    ∃ e, d.decode env chunks = ([], some e) := by
  induction chunks generalizing d with
  | nil =>
    rw [List.flatten_nil, List.append_nil, Refused, open_] at refused
    rw [decode_nil, ending]
    rcases refused with ⟨_, ⟨⟩, -⟩ | long | partial_
    · exact absurd room (Nat.not_le.mpr long)
    · exact ⟨_, if_neg partial_⟩
  | cons chunk rest ih =>
    rw [List.flatten_cons] at quiet refused
    by_cases taken : (d.pending ++ chunk).length ≤ maxPendingSseBytes ∧
        ∀ frame ∈ (eventFrames (d.pending ++ chunk)).1, CanDecode env frame
    · have good := good_of_taken taken.1 taken.2
      rw [goodFrames_taken good, List.flatMap_append, outputs_append] at quiet
      obtain ⟨first, later⟩ := List.append_eq_nil_iff.mp quiet
      have lengths := frames_length (d.pending ++ chunk)
      have short : (eventFrames (d.pending ++ chunk)).2.length ≤ maxPendingSseBytes := by omega
      obtain ⟨e, failed⟩ := ih (d := ⟨_, _⟩) (still_open _) short later
        ((refused_taken good).mp refused)
      rw [decode_of_push (push_ok.mpr ⟨taken.1, taken.2, rfl⟩), failed, first]
      exact ⟨e, rfl⟩
    · exact decode_of_refused taken rest

/-- One more byte that is not taken: no frame before it is lost, and the stream is refused. -/
theorem byte_refused {pending : Bytes} (open_ : eventFrames pending = ([], pending)) {byte : UInt8}
    (h : ¬ ((pending ++ [byte]).length ≤ maxPendingSseBytes ∧
      ∀ frame ∈ (eventFrames (pending ++ [byte])).1, CanDecode env frame)) (rest : Bytes) :
    goodFrames env (pending ++ ([byte] ++ rest)) = [] ∧
      Refused env (pending ++ ([byte] ++ rest)) := by
  have step : eventFrames (pending ++ [byte]) = frames endsEvent pending [byte] := by
    have := @frames_append _ endsEvent [] pending [byte]
    rwa [show frames endsEvent [] pending = ([], pending) from open_] at this
  have whole : eventFrames (pending ++ ([byte] ++ rest)) =
      frames endsEvent pending ([byte] ++ rest) := by
    have := @frames_append _ endsEvent [] pending ([byte] ++ rest)
    rwa [show frames endsEvent [] pending = ([], pending) from open_] at this
  -- a first frame that is not good is enough
  have bad (frame : Bytes) {later : List Bytes} (not_good : ¬ Good env frame)
      (first : (eventFrames (pending ++ ([byte] ++ rest))).1 = frame :: later) :
      goodFrames env (pending ++ ([byte] ++ rest)) = [] ∧
        Refused env (pending ++ ([byte] ++ rest)) := by
    unfold goodFrames Refused
    rw [first]
    exact ⟨List.takeWhile_cons_of_neg (by simpa using not_good),
      .inl ⟨frame, List.mem_cons_self .., not_good⟩⟩
  by_cases ends : endsEvent (pending ++ [byte])
  · rw [frames_complete ends] at step
    refine bad (pending ++ [byte]) (fun good => h ⟨good.1, ?_⟩)
      (by rw [whole, List.singleton_append, frames_complete ends])
    rw [step]
    exact List.forall_mem_singleton.mpr good.2
  · rw [frames_pending ends] at step
    have long : maxPendingSseBytes < (pending ++ [byte]).length := by
      by_contra short
      refine h ⟨Nat.not_lt.mp short, ?_⟩
      rw [step]
      exact nofun
    rw [List.singleton_append, frames_pending ends] at whole
    rcases @frames_head _ endsEvent (pending ++ [byte]) rest with none | ⟨as, later, -, first⟩
    · rw [none] at whole
      unfold goodFrames Refused
      rw [List.singleton_append, whole]
      refine ⟨rfl, .inr (.inl ?_)⟩
      rw [List.length_append]
      omega
    · refine bad _ (fun good => ?_) (by rw [List.singleton_append, whole, first])
      have fits := good.1
      rw [List.length_append] at fits
      omega

/-- Byte by byte, everything before the first bad frame is shown, and only a stream that is
refused fails. -/
theorem decode_bytes {d : ResponsesChatStreamDecoder}
    (open_ : eventFrames d.pending = ([], d.pending)) (input : Bytes) :
    (outputs (perform env) d.toChatState
        ((goodFrames env (d.pending ++ input)).flatMap (frameCommands env))).1 <+:
        (d.decode env (input.map ([·]))).1 ∧
      ((d.decode env (input.map ([·]))).2.isSome → Refused env (d.pending ++ input)) := by
  induction input generalizing d with
  | nil =>
    rw [List.append_nil, goodFrames, Refused, open_, List.map_nil, decode_nil, ending]
    split
    · exact ⟨List.nil_prefix, nofun⟩
    · rename_i partial_
      exact ⟨List.nil_prefix, fun _ => .inr (.inr partial_)⟩
  | cons byte rest ih =>
    rw [show byte :: rest = [byte] ++ rest from rfl, List.map_append]
    by_cases taken : (d.pending ++ [byte]).length ≤ maxPendingSseBytes ∧
        ∀ frame ∈ (eventFrames (d.pending ++ [byte])).1, CanDecode env frame
    · have good := good_of_taken taken.1 taken.2
      rw [goodFrames_taken good, refused_taken good, List.flatMap_append, outputs_append,
        List.map_singleton, List.singleton_append,
        decode_of_push (push_ok.mpr ⟨taken.1, taken.2, rfl⟩)]
      obtain ⟨shown, failed⟩ := ih (d := ⟨_, _⟩) (still_open _)
      exact ⟨(List.prefix_append_right_inj _).mpr shown, failed⟩
    · obtain ⟨none, refused⟩ := byte_refused open_ taken rest
      rw [none]
      exact ⟨List.nil_prefix, fun _ => refused⟩

/-! ### Cuts -/

/-- Two cuts of a stream give the same events, and fail both or neither. -/
def CutsIgnored (env : Environment) (model responseId : String) (input : Bytes) : Prop :=
  ∀ chunks chunks' : List Bytes, chunks.flatten = input → chunks'.flatten = input →
    ((new model responseId).decode env chunks).1 = ((new model responseId).decode env chunks').1 ∧
    (((new model responseId).decode env chunks).2.isSome ↔
      ((new model responseId).decode env chunks').2.isSome)

theorem flatten_bytes (input : Bytes) : (input.map ([·])).flatten = input := by
  rw [← List.flatMap_def, List.flatMap_singleton']

/-- The cuts do not matter for good events that fit into one chunk, nor for a stream that is
refused, and shows nothing before its first bad frame. -/
theorem chat_cuts_ignored (env : Environment) (model responseId : String) (input : Bytes) :
    CutsIgnored env model responseId input ↔
      (input.length ≤ maxPendingSseBytes ∧
        ∀ frame ∈ (eventFrames input).1, CanDecode env frame) ∨
      (ShowsNothing ((goodFrames env input).flatMap (frameCommands env)) ∧ Refused env input) := by
  have open_ : eventFrames (new model responseId).pending = ([], (new model responseId).pending) :=
    rfl
  constructor
  · intro ignored
    by_cases taken : input.length ≤ maxPendingSseBytes ∧
        ∀ frame ∈ (eventFrames input).1, CanDecode env frame
    · exact .inl taken
    -- in one chunk nothing is shown, so byte by byte there is nothing to show
    obtain ⟨e, one⟩ : ∃ e, (new model responseId).decode env [input] = ([], some e) :=
      @decode_of_refused _ (new model responseId) input taken []
    obtain ⟨same, fails⟩ :=
      ignored [input] (input.map ([·])) (List.append_nil input) (flatten_bytes input)
    obtain ⟨shown, refused⟩ := @decode_bytes env _ open_ input
    rw [one] at same fails
    rw [← same] at shown
    exact .inr ⟨(shows_nothing_iff model responseId _).mp (List.prefix_nil.mp shown),
      refused (fails.mp rfl)⟩
  · rintro (⟨room, can⟩ | ⟨nothing, refused⟩) chunks chunks' rfl same
    · rw [decode_decodable open_ room can,
        decode_decodable open_ (same ▸ room) (same ▸ can), same]
      exact ⟨rfl, Iff.rfl⟩
    · have quiet := (shows_nothing_iff model responseId (goodFrames env chunks.flatten)).mpr nothing
      obtain ⟨e, failed⟩ := decode_refused open_ (Nat.zero_le _) quiet refused
      obtain ⟨e', failed'⟩ := decode_refused open_ (Nat.zero_le _) (same ▸ quiet) (same ▸ refused)
      rw [failed, failed']
      exact ⟨rfl, Iff.rfl⟩

/-- A chat of blank events, two bytes each. -/
def blankEvents (n : Nat) : Bytes := (List.replicate n lineFeeds).flatten

theorem blankEvents_frames (n : Nat) :
    eventFrames (blankEvents n) = (List.replicate n lineFeeds, []) := by
  induction n with
  | zero => rfl
  | succ n ih =>
    have first : eventFrames lineFeeds = ([lineFeeds], []) := by decide
    have step := eventFrames_chunk [] lineFeeds (blankEvents n)
    rw [List.nil_append, List.nil_append, first, List.nil_append, ih] at step
    exact step

theorem blankEvents_length (n : Nat) : (blankEvents n).length = 2 * n := by
  simp [blankEvents, lineFeeds, Nat.mul_comm]

/-- More of them than a chunk may bring are refused in one chunk, and not byte by byte. -/
theorem blankEvents_ignored (env : Environment) (model responseId : String) {n : Nat}
    (many : maxPendingSseBytes < 2 * n) :
    ¬ CutsIgnored env model responseId (blankEvents n) := by
  intro ignored
  obtain ⟨-, fails⟩ := ignored [blankEvents n] ((blankEvents n).map ([·])) (List.append_nil _)
    (flatten_bytes _)
  obtain ⟨e, one⟩ := @decode_of_refused env (new model responseId) (blankEvents n) (fun taken => by
    have room : (blankEvents n).length ≤ maxPendingSseBytes := taken.1
    rw [blankEvents_length] at room
    omega) []
  rw [one] at fails
  have refused : Refused env (blankEvents n) :=
    (decode_bytes (d := new model responseId) rfl (blankEvents n)).2 (fails.mp rfl)
  rw [Refused, blankEvents_frames] at refused
  rcases refused with ⟨frame, mem, bad⟩ | long | partial_
  · rw [(List.mem_replicate.mp mem).2] at bad
    exact bad ⟨by decide, rfl⟩
  · exact nomatch long
  · exact partial_ rfl

/-- One chunk of complete events, two bytes above the limit. -/
theorem blank_events_cut :
    ¬ CutsIgnored ⟨fun _ => .error "expected value at line 1 column 1", 0, 0, "output_1"⟩
      "gpt-test" "resp_test" (blankEvents 131073) :=
  blankEvents_ignored _ _ _ (by decide)

end RelayPool.Streaming.Chat
