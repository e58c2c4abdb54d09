import RelayPool.Fallible
import RelayPool.Streaming.ChatStream

/-! What the events of a chat ask for.

The commands of an event do not depend on the state of the decoder: decoding an event is
performing its commands (`decodeEvent_eq`), and pushing a chunk is performing those of
the events that the chunk completes (`push_eq`). -/
namespace RelayPool.Streaming.Chat
open Protocol Outputs Framing

inductive Command
  | usage (usage : ObservedUsage)
  | done
  | content (content : String)
  | toolCall (toolCall : Value)
  | settle
  | complete

def perform (env : Environment) (state : ChatState) : Command → Emission
  | .usage usage => ([], state.noteObservedUsage usage)
  | .done => ([], { state with doneSeen := true })
  | .content content => state.decodeContent env content
  | .toolCall toolCall => state.decodeToolCall env toolCall
  | .settle => state.settle env
  | .complete => state.completeOnce env

def contentCommands (delta : Value) : List Command :=
  match (delta.get "content").bind (·.asStr) with
  | none => []
  | some content => if content = "" then [] else [.content content]

def choiceCommands (choice : Value) : List Command :=
  match choice.get "delta" with
  | none => []
  | some delta => contentCommands delta ++
    (((delta.get "tool_calls").bind (·.asArray)).getD []).map .toolCall

def valueCommands (value : Value) : List Command :=
  (ObservedUsage.fromJson value).toList.map .usage ++
    ((((value.get "choices").bind (·.asArray)).getD []).flatMap choiceCommands ++ [.settle])

def eventCommands (env : Environment) (event : Bytes) : Except StreamFailure (List Command) :=
  let data := eventData event
  if (trim data).isEmpty then .ok []
  else if trim data = "[DONE]" then .ok [.done, .settle]
  else ((env.fromStr data).mapError fun error =>
    ⟨"upstream chat SSE data was not JSON: " ++ error⟩).map valueCommands

section Decoding
variable (env : Environment)

theorem outputs_map {α : Type} (f : α → Command) (state : ChatState) (as : List α) :
    outputs (perform env) state (as.map f) =
      outputs (fun state a => perform env state (f a)) state as := by
  induction as generalizing state with
  | nil => rfl
  | cons a rest ih =>
    rw [List.map_cons, outputs_cons, outputs_cons]
    simp only [ih]

theorem decodeChoice_eq (state : ChatState) (choice : Value) :
    state.decodeChoice env choice = outputs (perform env) state (choiceCommands choice) := by
  unfold ChatState.decodeChoice choiceCommands contentCommands
  cases choice.get "delta" with
  | none => rfl
  | some delta =>
    dsimp only
    rw [outputs_append]
    congr 1
    · cases (delta.get "content").bind (·.asStr) with
      | none => rfl
      | some content =>
        dsimp only
        split
        · rfl
        · exact (andThen_id _).symm
    · funext state
      cases (delta.get "tool_calls").bind (·.asArray) with
      | none => rfl
      | some toolCalls => exact (outputs_map env .toolCall state toolCalls).symm

/-- Decoding an event is performing its commands. -/
theorem decodeEvent_eq (state : ChatState) (event : Bytes) :
    state.decodeEvent env event =
      (eventCommands env event).map (outputs (perform env) state) := by
  have settled (state : ChatState) :
      outputs (perform env) state [.settle] = state.settle env := andThen_id _
  unfold ChatState.decodeEvent eventCommands
  dsimp only
  split
  · rfl
  split
  · exact congrArg Except.ok (settled _).symm
  cases env.fromStr (eventData event) with
  | error error => rfl
  | ok value =>
    show Except.ok _ = Except.ok (outputs (perform env) state (valueCommands value))
    unfold valueCommands
    have choice : (fun state choice => outputs (perform env) state (choiceCommands choice)) =
        ChatState.decodeChoice env := by
      funext state choice
      exact (decodeChoice_eq env state choice).symm
    simp only [outputs_append, outputs_flatMap, settled, choice]
    cases ObservedUsage.fromJson value with
    | none => rfl
    | some usage => rfl

/-! ### Frames -/

/-- The commands of a frame; none for one that cannot be decoded. -/
def frameCommands (frame : Bytes) : List Command :=
  match eventCommands env (eventOf frame) with
  | .ok commands => commands
  | .error _ => []

def CanDecode (frame : Bytes) : Prop := (eventCommands env (eventOf frame)).isOk

instance (frame : Bytes) : Decidable (CanDecode env frame) := inferInstanceAs (Decidable (_ = true))

variable {env}

theorem decodeEvent_ok {state : ChatState} {frame : Bytes} {output : Emission} :
    state.decodeEvent env (eventOf frame) = .ok output ↔
      CanDecode env frame ∧ output = outputs (perform env) state (frameCommands env frame) := by
  rw [decodeEvent_eq]
  unfold CanDecode frameCommands
  cases eventCommands env (eventOf frame) with
  | error e => exact ⟨nofun, nofun⟩
  | ok commands =>
    constructor
    · rintro ⟨⟩
      exact ⟨rfl, rfl⟩
    · rintro ⟨-, rfl⟩
      rfl

/-- Draining performs the commands of all frames, if every one of them can be decoded. -/
theorem drainEvents_ok {state : ChatState} {pending : Bytes} {result : Emission × Bytes} :
    drainEvents (ChatState.decodeEvent env) state pending = .ok result ↔
      (∀ frame ∈ (eventFrames pending).1, CanDecode env frame) ∧
        result = (outputs (perform env) state
          ((eventFrames pending).1.flatMap (frameCommands env)), (eventFrames pending).2) := by
  fun_induction drainEvents (ChatState.decodeEvent env) state pending generalizing result with
  | case1 state pending none =>
    rw [findEventBoundary_none none]
    constructor
    · rintro ⟨⟩
      exact ⟨nofun, rfl⟩
    · rintro ⟨-, rfl⟩
      rfl
  | case2 state pending boundary found e failed =>
    obtain ⟨frames, event⟩ := (findEventBoundary_some found).frames
    rw [frames, List.forall_mem_cons]
    refine ⟨nofun, fun ⟨⟨can, _⟩, _⟩ => ?_⟩
    have decoded : state.decodeEvent env _ = _ := decodeEvent_ok.mpr ⟨can, rfl⟩
    rw [event] at decoded
    exact nomatch (failed.symm.trans decoded)
  | case3 state pending boundary found output state' decoded e failed ih =>
    obtain ⟨frames, event⟩ := (findEventBoundary_some found).frames
    rw [frames, List.forall_mem_cons]
    exact ⟨nofun, fun ⟨⟨_, can⟩, _⟩ => nomatch (failed.symm.trans (ih.mpr ⟨can, rfl⟩))⟩
  | case4 state pending boundary found output state' decoded more state'' rest drained ih =>
    obtain ⟨frames, event⟩ := (findEventBoundary_some found).frames
    rw [← event] at decoded
    obtain ⟨can, first⟩ := decodeEvent_ok.mp decoded
    obtain ⟨cans, later⟩ := ih.mp drained
    obtain ⟨later, rest_⟩ := Prod.mk.inj later
    rw [frames, List.forall_mem_cons, List.flatMap_cons, outputs_append, ← first]
    unfold andThen
    dsimp only
    rw [← later, ← rest_, and_iff_right ⟨can, cans⟩]
    exact ⟨fun h => (Except.ok.inj h).symm, fun h => congrArg Except.ok h.symm⟩

theorem push_ok {d : ResponsesChatStreamDecoder} {chunk : Bytes}
    {result : List SequencedEvent × ResponsesChatStreamDecoder} :
    d.push env chunk = .ok result ↔
      (d.pending ++ chunk).length ≤ maxPendingSseBytes ∧
      (∀ frame ∈ (eventFrames (d.pending ++ chunk)).1, CanDecode env frame) ∧
      let output := outputs (perform env) d.toChatState
        ((eventFrames (d.pending ++ chunk)).1.flatMap (frameCommands env))
      result = (output.1, ⟨output.2, (eventFrames (d.pending ++ chunk)).2⟩) := by
  unfold ResponsesChatStreamDecoder.push
  dsimp only
  split
  · rename_i above
    exact ⟨nofun, fun within => absurd within.1 (Nat.not_le.mpr above)⟩
  · rename_i below
    rw [and_iff_right (Nat.not_lt.mp below), Fallible.map_ok]
    simp only [drainEvents_ok]
    constructor
    · rintro ⟨_, ⟨can, rfl⟩, rfl⟩
      exact ⟨can, rfl⟩
    · rintro ⟨can, rfl⟩
      exact ⟨_, ⟨can, rfl⟩, rfl⟩

end Decoding

end RelayPool.Streaming.Chat
