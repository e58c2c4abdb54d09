import Mathlib.Data.List.Sort
import RelayPool.Outputs
import RelayPool.Streaming.Sse

/-! The decoder that turns chat completions into Responses events.

Complete events are cut from what is pending and decoded one by one. Text and the calls
of tools are handed on as they come, each item under an output index of its own. The
response is completed once, as soon as both the end of the chat and its usage are known,
or else at the end of the stream. -/
namespace RelayPool.Streaming.Chat
open Protocol Outputs

def maxPendingSseBytes : Nat := 262144

/-- The largest `i64`. -/
def i64Max : Int := 9223372036854775807

def saturatingAddI64 (a b : Int) : Int := max (-9223372036854775808) (min (a + b) i64Max)

def wrappingAddI64 (a b : Int) : Int := (a + b).bmod 18446744073709551616

/-! ### Text -/

/-- A character of which some bytes are still to come, the next one within bounds. -/
structure PartialChar where
  value : Nat
  missing : Nat
  low : UInt8
  high : UInt8

def replacementCharacter : Char := Char.ofNat 0xFFFD

/-- The first byte of a character; some first bytes narrow what may follow. -/
def startChar (byte : UInt8) : List Char × Option PartialChar :=
  let value := byte.toNat
  if byte < 0x80 then ([Char.ofNat value], none)
  else if 0xC2 ≤ byte ∧ byte ≤ 0xDF then ([], some ⟨value - 0xC0, 1, 0x80, 0xBF⟩)
  else if 0xE0 ≤ byte ∧ byte ≤ 0xEF then
    ([], some ⟨value - 0xE0, 2, if byte = 0xE0 then 0xA0 else 0x80,
      if byte = 0xED then 0x9F else 0xBF⟩)
  else if 0xF0 ≤ byte ∧ byte ≤ 0xF4 then
    ([], some ⟨value - 0xF0, 3, if byte = 0xF0 then 0x90 else 0x80,
      if byte = 0xF4 then 0x8F else 0xBF⟩)
  else ([replacementCharacter], none)

/-- A byte after a part of a character goes on with it or begins another one. -/
def nextByte (pending : Option PartialChar) (byte : UInt8) : List Char × Option PartialChar :=
  match pending with
  | none => startChar byte
  | some char =>
    if char.low ≤ byte ∧ byte ≤ char.high then
      let value := char.value * 64 + (byte.toNat - 0x80)
      if char.missing = 1 then ([Char.ofNat value], none)
      else ([], some ⟨value, char.missing - 1, 0x80, 0xBF⟩)
    else (replacementCharacter :: (startChar byte).1, (startChar byte).2)

def fromUtf8LossyFrom (pending : Option PartialChar) : Bytes → List Char
  | [] => if pending.isSome then [replacementCharacter] else []
  | byte :: rest => (nextByte pending byte).1 ++ fromUtf8LossyFrom (nextByte pending byte).2 rest

/-- The characters of some bytes, those that are not UTF-8 replaced. -/
def fromUtf8Lossy (bytes : Bytes) : List Char := fromUtf8LossyFrom none bytes

/-- What follows `data:` in the lines of an event. -/
def eventData (event : Bytes) : String :=
  let values := (lines (fromUtf8Lossy event)).filterMap fun line =>
    (line.dropPrefix? "data:".toList).map trimStart
  .ofList (['\n'].intercalate values)

/-! ### Usage -/

structure ObservedUsage where
  inputTokens : Option Int
  outputTokens : Option Int
  totalTokens : Option Int
  cacheCreationTokens : Option Int
  cacheReadTokens : Option Int
deriving DecidableEq, Repr

def integer (value : Value) (keys : List String) : Option Int :=
  keys.findSome? fun key => (value.get key).bind (·.asI64)

def integerAt (value : Value) (keys : List String) : Option Int :=
  (value.pointer keys).bind (·.asI64)

def ObservedUsage.fromJson (value : Value) : Option ObservedUsage := do
  let usage ← (value.get "usage").or (value.pointer ["response", "usage"])
  let inputTokens := integer usage ["input_tokens", "prompt_tokens"]
  let outputTokens := integer usage ["output_tokens", "completion_tokens"]
  let totalTokens := (integer usage ["total_tokens"]).or
    (inputTokens.bind fun input => outputTokens.map fun output => wrappingAddI64 input output)
  let cacheCreationTokens :=
    ((((integer usage
      ["cache_write_tokens", "cache_creation_tokens", "cache_creation_input_tokens"]).or
      (integerAt usage ["input_tokens_details", "cache_write_tokens"])).or
      (integerAt usage ["prompt_tokens_details", "cache_write_tokens"])).or
      (integerAt usage ["input_tokens_details", "cache_creation_tokens"])).or
      (integerAt usage ["prompt_tokens_details", "cache_creation_tokens"])
  let cacheReadTokens :=
    ((integer usage ["cache_read_tokens", "cache_read_input_tokens"]).or
      (integerAt usage ["input_tokens_details", "cached_tokens"])).or
      (integerAt usage ["prompt_tokens_details", "cached_tokens"])
  if inputTokens.isNone ∧ outputTokens.isNone ∧ totalTokens.isNone ∧
      cacheCreationTokens.isNone ∧ cacheReadTokens.isNone then none
  else some ⟨inputTokens, outputTokens, totalTokens, cacheCreationTokens, cacheReadTokens⟩

/-! ### Events -/

inductive ItemStatus
  | inProgress
  | completed
deriving DecidableEq, Repr

structure FunctionCallItem where
  id : String
  status : ItemStatus
  callId : String
  name : String
  arguments : String
deriving DecidableEq, Repr

inductive OutputItem
  | functionCall (item : FunctionCallItem)
  | message (id : String) (text : String)
deriving DecidableEq, Repr

structure CompletedResponse where
  id : String
  created : Int
  model : String
  output : List OutputItem
  outputText : String
  usage : Option ObservedUsage
deriving DecidableEq, Repr

inductive ResponsesEvent
  | created (id : String) (created : Int) (model : String)
  | outputTextDelta (responseId : String) (outputIndex : Int) (delta : String)
  | outputItemAdded (responseId : String) (outputIndex : Int) (item : FunctionCallItem)
  | functionCallArgumentsDelta (responseId itemId : String) (outputIndex : Int) (delta : String)
  | functionCallArgumentsDone (responseId itemId : String) (outputIndex : Int)
      (name arguments : String)
  | outputItemDone (responseId : String) (outputIndex : Int) (item : FunctionCallItem)
  | completed (response : CompletedResponse)
deriving DecidableEq, Repr

structure SequencedEvent where
  event : ResponsesEvent
  sequenceNumber : Int
deriving DecidableEq, Repr

/-- A failure of the upstream stream, by its text. -/
structure StreamFailure where
  message : String
deriving DecidableEq, Repr

/-! ### The state -/

structure ToolCallState where
  itemId : String
  callId : String
  name : String
  arguments : String
  outputIndex : Int
deriving DecidableEq, Repr

/-- The calls by their index in the chat, in the order of it. -/
abbrev ToolCalls := List (Int × ToolCallState)

namespace ToolCalls

def find (index : Int) (calls : ToolCalls) : Option ToolCallState :=
  (List.find? (·.1 = index) calls).map (·.2)

def insert (index : Int) (state : ToolCallState) (calls : ToolCalls) : ToolCalls :=
  List.orderedInsert (·.1 ≤ ·.1) (index, state) calls

/-- The calls with the one of an index changed. -/
def modify (index : Int) (change : ToolCallState → ToolCallState) (calls : ToolCalls) : ToolCalls :=
  List.map (fun call => if call.1 = index then (call.1, change call.2) else call) calls

end ToolCalls

/-- All that a decoder keeps but for the bytes that are pending. -/
structure ChatState where
  model : String
  responseId : String
  text : String
  messageOutputIndex : Option Int
  nextOutputIndex : Int
  toolCalls : ToolCalls
  created : Bool
  completed : Bool
  doneSeen : Bool
  usage : Option ObservedUsage
  sequenceNumber : Int
deriving DecidableEq, Repr

/-- The parser, the two readings of the clock and the one identifier of a response. -/
structure Environment where
  fromStr : JsonParser
  createdAt : Int
  completedAt : Int
  outputId : String

structure ResponsesChatStreamDecoder extends ChatState where
  pending : Bytes
deriving DecidableEq, Repr

/-- Events handed out, and the state after them. -/
abbrev Emission := List SequencedEvent × ChatState

def functionCallItem (toolCall : ToolCallState) (status : ItemStatus) : FunctionCallItem :=
  ⟨toolCall.itemId, status, toolCall.callId, toolCall.name, toolCall.arguments⟩

namespace ChatState

def new (model responseId : String) : ChatState :=
  { model, responseId, text := "", messageOutputIndex := none, nextOutputIndex := 0,
    toolCalls := [], created := false, completed := false, doneSeen := false, usage := none,
    sequenceNumber := 0 }

def eventBytes (d : ChatState) (event : ResponsesEvent) : Emission :=
  ([⟨event, d.sequenceNumber⟩], { d with sequenceNumber := saturatingAddI64 d.sequenceNumber 1 })

def takeOutputIndex (d : ChatState) : Int × ChatState :=
  (d.nextOutputIndex, { d with nextOutputIndex := saturatingAddI64 d.nextOutputIndex 1 })

/-- The output index of the message, taken when it is first asked for. -/
def indexOfMessage (d : ChatState) : Int × ChatState :=
  match d.messageOutputIndex with
  | some outputIndex => (outputIndex, d)
  | none =>
    let (outputIndex, d) := d.takeOutputIndex
    (outputIndex, { d with messageOutputIndex := some outputIndex })

def ensureCreated (env : Environment) (d : ChatState) : Emission :=
  if d.created then ([], d)
  else { d with created := true }.eventBytes (.created d.responseId env.createdAt d.model)

def completeToolCall (d : ChatState) (call : ToolCallState) : Emission :=
  andThen (d.eventBytes (.functionCallArgumentsDone d.responseId call.itemId call.outputIndex
    call.name call.arguments)) fun d =>
      d.eventBytes (.outputItemDone d.responseId call.outputIndex
        (functionCallItem call .completed))

/-- The calls with their output indexes, and the message if there is text or no call. -/
def responseOutput (env : Environment) (d : ChatState) :
    List (Int × OutputItem) × ChatState :=
  let items := d.toolCalls.map fun call =>
    (call.2.outputIndex, .functionCall (functionCallItem call.2 .completed))
  if d.text ≠ "" ∨ items = [] then
    let (outputIndex, d) := d.indexOfMessage
    (items ++ [(outputIndex, .message env.outputId d.text)], d)
  else (items, d)

def completeOnce (env : Environment) (d : ChatState) : Emission :=
  if d.completed then ([], d)
  else
    andThen (d.ensureCreated env) fun d =>
      let d := { d with completed := true }
      andThen (outputs completeToolCall d (d.toolCalls.map (·.2))) fun d =>
        let (items, d) := d.responseOutput env
        let output := (items.insertionSort (·.1 ≤ ·.1)).map (·.2)
        d.eventBytes (.completed
          ⟨d.responseId, env.completedAt, d.model, output, d.text, d.usage⟩)

/-! ### Decoding -/

def decodeContent (env : Environment) (d : ChatState) (content : String) :
    Emission :=
  andThen (d.ensureCreated env) fun d =>
    let (outputIndex, d) := d.indexOfMessage
    { d with text := d.text ++ content }.eventBytes
      (.outputTextDelta d.responseId outputIndex content)

end ChatState

def toolIndex (toolCall : Value) : Int := ((toolCall.get "index").bind (·.asI64)).getD 0

def callId (toolCall : Value) : Option String := (toolCall.get "id").bind (·.asStr)

def functionName (toolCall : Value) : Option String :=
  (toolCall.pointer ["function", "name"]).bind (·.asStr)

def functionArguments (toolCall : Value) : String :=
  ((toolCall.pointer ["function", "arguments"]).bind (·.asStr)).getD ""

def itemIdOf (responseId : String) (index : Int) : String :=
  "fc_" ++ responseId ++ "_" ++ index.repr

/-- A call as it is first seen. -/
def newToolCall (responseId : String) (outputIndex : Int) (toolCall : Value) : ToolCallState where
  itemId := itemIdOf responseId (toolIndex toolCall)
  callId := (callId toolCall).getD ("call_" ++ responseId ++ "_" ++ (toolIndex toolCall).repr)
  name := (functionName toolCall).getD "unknown_function"
  arguments := ""
  outputIndex

/-- What another piece of a call changes in it. -/
def extendToolCall (toolCall : Value) (state : ToolCallState) : ToolCallState :=
  { state with
    callId := (callId toolCall).getD state.callId
    name := (functionName toolCall).getD state.name
    arguments := state.arguments ++ functionArguments toolCall }

namespace ChatState

def addToolCall (d : ChatState) (toolCall : Value) : Emission :=
  if (d.toolCalls.find (toolIndex toolCall)).isSome then ([], d)
  else
    let (outputIndex, d) := d.takeOutputIndex
    let state := newToolCall d.responseId outputIndex toolCall
    let (added, d) := d.eventBytes
      (.outputItemAdded d.responseId state.outputIndex (functionCallItem state .inProgress))
    (added, { d with toolCalls := d.toolCalls.insert (toolIndex toolCall) state })

def extendCall (d : ChatState) (toolCall : Value) : Emission :=
  let d := { d with
    toolCalls := d.toolCalls.modify (toolIndex toolCall) (extendToolCall toolCall) }
  match d.toolCalls.find (toolIndex toolCall) with
  | none => ([], d) -- the call has been added before
  | some state =>
    if functionArguments toolCall = "" then ([], d)
    else d.eventBytes (.functionCallArgumentsDelta d.responseId state.itemId state.outputIndex
      (functionArguments toolCall))

def decodeToolCall (env : Environment) (d : ChatState) (toolCall : Value) :
    Emission :=
  andThen (d.ensureCreated env) fun d =>
    andThen (d.addToolCall toolCall) fun d => d.extendCall toolCall

def decodeChoice (env : Environment) (d : ChatState) (choice : Value) : Emission :=
  match choice.get "delta" with
  | none => ([], d)
  | some delta =>
    andThen
      (match (delta.get "content").bind (·.asStr) with
      | none => ([], d)
      | some content => if content = "" then ([], d) else d.decodeContent env content)
      fun d =>
        match (delta.get "tool_calls").bind (·.asArray) with
        | none => ([], d)
        | some toolCalls => outputs (decodeToolCall env) d toolCalls

/-- The response is completed when the end of the chat and the usage have been seen. -/
def settle (env : Environment) (d : ChatState) : Emission :=
  if d.doneSeen ∧ d.usage.isSome then d.completeOnce env else ([], d)

def noteObservedUsage (d : ChatState) (usage : ObservedUsage) :
    ChatState := { d with usage := some usage }

def decodeEvent (env : Environment) (d : ChatState) (event : Bytes) :
    Except StreamFailure Emission :=
  let data := eventData event
  if (trim data).isEmpty then .ok ([], d)
  else if trim data = "[DONE]" then .ok ({ d with doneSeen := true }.settle env)
  else
    match env.fromStr data with
    | .error error => .error ⟨"upstream chat SSE data was not JSON: " ++ error⟩
    | .ok value =>
      let d := match ObservedUsage.fromJson value with
        | some usage => { d with usage := some usage }
        | none => d
      let choices := ((value.get "choices").bind (·.asArray)).getD []
      .ok (andThen (outputs (decodeChoice env) d choices) fun d => d.settle env)

end ChatState

/-! ### Chunks -/

/-- The first place of some bytes among others. -/
def windowPosition (window : Bytes) : Bytes → Option Nat
  | [] => none
  | byte :: rest =>
    if window <+: byte :: rest then some 0 else (windowPosition window rest).map (· + 1)

def findEventBoundary (bytes : Bytes) : Option (Nat × Nat) :=
  match windowPosition [10, 10] bytes, windowPosition [13, 10, 13, 10] bytes with
  | some left, some right => if left ≤ right then some (left, 2) else some (right, 4)
  | some left, none => some (left, 2)
  | none, some right => some (right, 4)
  | none, none => none

theorem windowPosition_lineFeeds (byte : UInt8) (rest : Bytes) :
    windowPosition [10, 10] (byte :: rest) =
      if byte = 10 ∧ rest[0]? = some 10 then some 0
      else (windowPosition [10, 10] rest).map (· + 1) :=
  if_congr lineFeeds_iff rfl rfl

theorem windowPosition_returnFeeds (byte : UInt8) (rest : Bytes) :
    windowPosition [13, 10, 13, 10] (byte :: rest) =
      if byte = 13 ∧ rest[0]? = some 10 ∧ rest[1]? = some 13 ∧ rest[2]? = some 10 then some 0
      else (windowPosition [13, 10, 13, 10] rest).map (· + 1) :=
  if_congr returnFeeds_iff rfl rfl

/-- The first of the two positions is where the search from the left ends. -/
theorem findEventBoundaryFrom_eq (index : Nat) (bytes : Bytes) :
    (findEventBoundaryFrom index bytes).map (fun b => (b.eventLen, b.separatorLen)) =
      (findEventBoundary bytes).map fun b => (index + b.1, b.2) := by
  induction bytes generalizing index with
  | nil => rfl
  | cons byte rest ih =>
    have later := ih (index + 1)
    unfold findEventBoundaryFrom
    unfold findEventBoundary at later ⊢
    rw [windowPosition_lineFeeds]
    split
    · cases windowPosition [13, 10, 13, 10] (byte :: rest) <;> simp
    rw [windowPosition_returnFeeds]
    split
    · cases windowPosition [10, 10] rest <;> simp
    rw [later]
    cases windowPosition [10, 10] rest with
    | none =>
      cases windowPosition [13, 10, 13, 10] rest with
      | none => rfl
      | some right =>
        show some (index + 1 + right, 4) = some (index + (right + 1), 4)
        rw [Nat.add_assoc, Nat.add_comm 1]
    | some left =>
      cases windowPosition [13, 10, 13, 10] rest with
      | none =>
        show some (index + 1 + left, 2) = some (index + (left + 1), 2)
        rw [Nat.add_assoc, Nat.add_comm 1]
      | some right =>
        simp only [Option.map_some, Nat.add_le_add_iff_right]
        split <;> simp only [Option.map_some, Nat.add_assoc, Nat.add_comm 1]

theorem findEventBoundary_none {bytes : Bytes} (h : findEventBoundary bytes = none) :
    eventFrames bytes = ([], bytes) := by
  have same := findEventBoundaryFrom_eq 0 bytes
  rw [h] at same
  exact Streaming.findEventBoundary_none (Option.map_eq_none_iff.mp same)

theorem findEventBoundary_some {bytes : Bytes} {boundary : Nat × Nat}
    (h : findEventBoundary bytes = some boundary) : IsBoundary bytes boundary.1 boundary.2 := by
  have same := findEventBoundaryFrom_eq 0 bytes
  rw [h] at same
  obtain ⟨found, some_, at_⟩ := Option.map_eq_some_iff.mp same
  have is := Streaming.findEventBoundary_some some_
  obtain ⟨first, second⟩ := Prod.mk.inj at_
  rw [Nat.zero_add] at first
  rw [← first, ← second]
  exact is

/-- The complete events of some bytes, decoded one by one, and the bytes after them. -/
def drainEvents {σ ω ε : Type} (decode : σ → Bytes → Except ε (List ω × σ)) (s : σ)
    (pending : Bytes) : Except ε ((List ω × σ) × Bytes) :=
  match _found : findEventBoundary pending with
  | none => .ok (([], s), pending)
  | some boundary =>
    match decode s (pending.take boundary.1) with
    | .error e => .error e
    | .ok (output, s) =>
      match drainEvents decode s (pending.drop (boundary.1 + boundary.2)) with
      | .error e => .error e
      | .ok ((more, s), rest) => .ok ((output ++ more, s), rest)
termination_by pending.length
decreasing_by
  obtain ⟨some_, within⟩ := (findEventBoundary_some _found).consumes
  rw [List.length_drop]
  omega

namespace ResponsesChatStreamDecoder

def new (model responseId : String) : ResponsesChatStreamDecoder where
  toChatState := .new model responseId
  pending := []

def push (env : Environment) (d : ResponsesChatStreamDecoder) (chunk : Bytes) :
    Except StreamFailure (List SequencedEvent × ResponsesChatStreamDecoder) :=
  let pending := d.pending ++ chunk
  if maxPendingSseBytes < pending.length then
    .error ⟨"upstream chat SSE event exceeded pending buffer limit"⟩
  else
    (drainEvents (ChatState.decodeEvent env) d.toChatState pending).map
      fun ((output, state), pending) => (output, ⟨state, pending⟩)

def finish (env : Environment) (d : ResponsesChatStreamDecoder) :
    Except StreamFailure (List SequencedEvent × ResponsesChatStreamDecoder) :=
  if d.pending.all isAsciiWhitespace then
    let (output, state) := d.completeOnce env
    .ok (output, ⟨state, []⟩)
  else .error ⟨"upstream chat SSE ended with a partial event"⟩

/-- The events of a whole stream, pushed chunk by chunk and finished, and the failure that
ended it. -/
def decode (env : Environment) (d : ResponsesChatStreamDecoder) :
    List Bytes → List SequencedEvent × Option StreamFailure
  | [] =>
    match d.finish env with
    | .error e => ([], some e)
    | .ok (output, _) => (output, none)
  | chunk :: rest =>
    match d.push env chunk with
    | .error e => ([], some e)
    | .ok (output, d) => (output ++ (d.decode env rest).1, (d.decode env rest).2)

end ResponsesChatStreamDecoder

end RelayPool.Streaming.Chat
