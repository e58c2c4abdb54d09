import Mathlib.Data.List.ReduceOption
import RelayPool.Fallible
import RelayPool.Protocol.Fallback
import RelayPool.Splits

/-! The messages say what the items say (`build_messages_lawful`).

An item of the input says one of three things, or nothing when it is reasoning
(`InputItem.read`). The messages are the runs of what the items say, where only calls form runs
longer than one (`messagesOf`), so that reading them gives the items back; and the runs of a
concatenation are known from the runs of its parts. -/
namespace RelayPool.Protocol
open Fallible
open RelayPool.Splits

/-! ### What an item says -/

structure FunctionCall where
  callId : String
  name : String
  arguments : String
deriving DecidableEq, Repr

inductive InputItem
  | text (role content : String)
  | call (call : FunctionCall)
  | output (callId content : String)
deriving DecidableEq, Repr

namespace InputItem

def readText (role : String) (content : Value) :
    Except ResponsesChatFallbackError (Option InputItem) := do
  return some (.text role (← responseContentText content))

def readCall (toString : JsonWriter) (item : Value) :
    Except ResponsesChatFallbackError (Option InputItem) := do
  let callId ← required ((item.get "call_id").bind (·.asStr))
  let name ← required ((item.get "name").bind (·.asStr))
  let arguments ← argumentsText toString item
  return some (.call ⟨callId, name, arguments⟩)

def readOutput (toString : JsonWriter) (item : Value) :
    Except ResponsesChatFallbackError (Option InputItem) := do
  let callId ← required ((item.get "call_id").bind (·.asStr))
  let output ← outputText toString item
  return some (.output callId output)

/-- What an item of the input says. -/
def read (toString : JsonWriter) (item : Value) :
    Except ResponsesChatFallbackError (Option InputItem) :=
  match item with
  | .object _ =>
    match (item.get "type").bind (·.asStr) with
    | some "function_call" => readCall toString item
    | some "function_call_output" => readOutput toString item
    | some "reasoning" => .ok none
    | some "message" | none =>
      readText (((item.get "role").bind (·.asStr)).getD "user")
        ((item.get "content").getD .null)
    | some _ => .error .invalidInput
  | .string content => readText "user" (.string content)
  | _ => .error .invalidInput

def isCall : InputItem → Bool
  | .call _ => true
  | _ => false

def call? : InputItem → Option FunctionCall
  | .call said => some said
  | _ => none

end InputItem

/-! ### What a message says -/

def FunctionCall.toolCall (call : FunctionCall) : Value :=
  Protocol.toolCall call.callId call.name call.arguments

/-- The call that a tool call of a message says. -/
def FunctionCall.ofToolCall (toolCall : Value) : Option FunctionCall := do
  let callId ← (toolCall.get "id").bind (·.asStr)
  let function ← toolCall.get "function"
  let name ← (function.get "name").bind (·.asStr)
  let arguments ← (function.get "arguments").bind (·.asStr)
  return ⟨callId, name, arguments⟩

/-- What a message says: calls, the output of one, or a text. -/
def flatten (message : Value) : List InputItem :=
  let text (key : String) := ((message.get key).bind (·.asStr)).getD ""
  match toolCalls message, (message.get "tool_call_id").bind (·.asStr) with
  | some toolCalls, _ => (toolCalls.filterMap FunctionCall.ofToolCall).map .call
  | none, some callId => [.output callId (text "content")]
  | none, none => [.text (text "role") (text "content")]

/-- The message of a run. -/
def runMessage : List InputItem → Value
  | [.text role content] => textMessage role content
  | [.output callId content] => outputMessage callId content
  | run => callsMessage ((run.filterMap (·.call?)).map (·.toolCall))

/-- The runs of what the items say: neighbouring calls are together. -/
def runs (items : List InputItem) : List (List InputItem) :=
  items.splitBy fun a b => a.isCall && b.isCall

def messagesOf (items : List InputItem) : List Value := (runs items).map runMessage

/-- Two messages that meet are one when both hold calls. -/
def mergeMessages (last first : Value) : Option Value :=
  match toolCalls last, toolCalls first with
  | some calls, some calls' => some (withToolCalls (calls ++ calls') last)
  | _, _ => none

/-! ### Messages of calls -/

@[simp] theorem toolCalls_textMessage (role content : String) :
    toolCalls (textMessage role content) = none := by
  simp [toolCalls, textMessage, Value.get, Value.asStr, Value.isNull]

@[simp] theorem toolCalls_outputMessage (callId output : String) :
    toolCalls (outputMessage callId output) = none := by
  simp [toolCalls, outputMessage, Value.get, Value.asStr, Value.isNull]

@[simp] theorem toolCalls_callsMessage (calls : List Value) :
    toolCalls (callsMessage calls) = some calls := by
  simp [toolCalls, callsMessage, Value.get, Value.asStr, Value.isNull, Value.asArray]

@[simp] theorem withToolCalls_callsMessage (calls calls' : List Value) :
    withToolCalls calls' (callsMessage calls) = callsMessage calls' := by
  simp [withToolCalls, callsMessage]

theorem ofToolCall_toolCall (call : FunctionCall) :
    FunctionCall.ofToolCall call.toolCall = some call := by
  simp [FunctionCall.ofToolCall, FunctionCall.toolCall, toolCall, Value.get, Value.asStr]

/-! ### Runs -/

/-- A run is a text, an output, or some calls. -/
theorem run_cases {items run : List InputItem} (mem : run ∈ runs items) :
    (∃ role content, run = [.text role content]) ∨
      (∃ callId content, run = [.output callId content]) ∨
      ∃ calls : List FunctionCall, calls ≠ [] ∧ run = calls.map .call := by
  have chain := List.isChain_of_mem_splitBy mem
  cases run with
  | nil => exact (List.nil_notMem_splitBy _ _ mem).elim
  | cons first rest =>
    have all : ∀ (first : InputItem) (rest : List InputItem),
        (first :: rest).IsChain (fun a b => (a.isCall && b.isCall) = true) →
        first.isCall → ∃ calls : List FunctionCall, first :: rest = calls.map .call := by
      intro first rest chain isCall
      induction rest generalizing first with
      | nil =>
        cases first with
        | call call => exact ⟨[call], rfl⟩
        | _ => cases isCall
      | cons second rest ih =>
        obtain ⟨both, tail⟩ := List.isChain_cons_cons.mp chain
        obtain ⟨calls, is⟩ := ih second tail (Bool.and_eq_true_iff.mp both).2
        cases first with
        | call call => exact ⟨call :: calls, by rw [List.map_cons, ← is]⟩
        | _ => cases isCall
    have alone : first.isCall = false → rest = [] := by
      intro notCall
      cases rest with
      | nil => rfl
      | cons second rest =>
        have both := (List.isChain_cons_cons.mp chain).1
        rw [notCall] at both
        cases both
    cases first with
    | text role content =>
      obtain rfl := alone rfl
      exact .inl ⟨role, content, rfl⟩
    | output callId content =>
      obtain rfl := alone rfl
      exact .inr (.inl ⟨callId, content, rfl⟩)
    | call call =>
      obtain ⟨calls, is⟩ := all _ rest chain rfl
      exact .inr (.inr ⟨calls, fun empty => by simp [empty] at is, is⟩)

theorem runMessage_calls {calls : List FunctionCall} (some : calls ≠ []) :
    runMessage (calls.map .call) = callsMessage (calls.map (·.toolCall)) := by
  have read : (calls.map InputItem.call).filterMap (·.call?) = calls := by
    rw [List.filterMap_map]
    exact (List.filterMap_congr fun call _ => rfl).trans List.filterMap_some
  cases calls with
  | nil => exact (some rfl).elim
  | cons call rest =>
    show callsMessage _ = _
    rw [← List.map_cons (f := InputItem.call), read]

theorem flatten_runMessage {items run : List InputItem} (mem : run ∈ runs items) :
    flatten (runMessage run) = run := by
  rcases run_cases mem with ⟨role, content, rfl⟩ | ⟨callId, content, rfl⟩ | ⟨calls, some, rfl⟩
  · simp [runMessage, flatten, textMessage, Value.get, Value.asStr, toolCalls, Value.isNull]
  · simp [runMessage, flatten, outputMessage, Value.get, Value.asStr, toolCalls, Value.isNull]
  · have read : (calls.map (·.toolCall)).filterMap FunctionCall.ofToolCall = calls := by
      rw [List.filterMap_map]
      exact (List.filterMap_congr fun call _ => ofToolCall_toolCall call).trans List.filterMap_some
    rw [runMessage_calls some, flatten]
    simp [read]

/-- The messages give back what the items say. -/
theorem flatten_messagesOf (items : List InputItem) :
    (messagesOf items).flatMap flatten = items := by
  rw [messagesOf, List.flatMap_map]
  refine (List.flatMap_congr fun run mem => flatten_runMessage mem).trans ?_
  rw [List.flatMap_id']
  exact List.flatten_splitBy ..

theorem mergeMessages_none {last first : Value} (alone : toolCalls first = none) :
    mergeMessages last first = none := by
  unfold mergeMessages
  rw [alone]
  split <;> simp_all

/-- A run that begins with no call is joined to none. -/
theorem mergeRuns_of_not {a b : List InputItem} {first : InputItem} (starts : b.head? = some first)
    (notCall : first.isCall = false) :
    mergeRuns (fun a b => a.isCall && b.isCall) a b = none := by
  unfold mergeRuns
  rw [starts]
  split
  · rename_i is
    obtain rfl := Option.some.inj is
    exact if_neg (by simp [notCall])
  · rfl

theorem mergeMessages_runMessage {items items' a b : List InputItem} (mem : a ∈ runs items)
    (mem' : b ∈ runs items') : mergeMessages (runMessage a) (runMessage b) =
      (mergeRuns (fun a b => a.isCall && b.isCall) a b).map runMessage := by
  rcases run_cases mem with ⟨role, content, rfl⟩ | ⟨callId, content, rfl⟩ | ⟨calls, some, rfl⟩
  · cases b <;> simp [runMessage, mergeMessages, mergeRuns, InputItem.isCall]
  · cases b <;> simp [runMessage, mergeMessages, mergeRuns, InputItem.isCall]
  · rcases run_cases mem' with ⟨role, content, rfl⟩ | ⟨callId, content, rfl⟩ |
      ⟨calls', some', rfl⟩
    · rw [mergeRuns_of_not rfl rfl]
      exact mergeMessages_none (toolCalls_textMessage ..)
    · rw [mergeRuns_of_not rfl rfl]
      exact mergeMessages_none (toolCalls_outputMessage ..)
    · obtain ⟨front, last, rfl⟩ := (List.eq_nil_or_concat calls).resolve_left some
      obtain ⟨first, back, rfl⟩ := List.exists_cons_of_ne_nil some'
      have all : runMessage ((front.concat last).map .call ++ (first :: back).map .call) =
          callsMessage ((front.concat last ++ first :: back).map (·.toolCall)) := by
        rw [← List.map_append]
        exact runMessage_calls (by simp)
      rw [runMessage_calls some, runMessage_calls some']
      simp only [mergeMessages, toolCalls_callsMessage, withToolCalls_callsMessage]
      rw [← List.map_append, ← all]
      simp [mergeRuns, InputItem.isCall]

theorem messagesOf_append (items items' : List InputItem) :
    messagesOf (items ++ items') =
      join mergeMessages (messagesOf items) (messagesOf items') := by
  unfold messagesOf runs
  rw [splitBy_append_join]
  exact map_join fun a mem b mem' => mergeMessages_runMessage mem mem'

/-! ### Pushing an item -/

/-- What a further item makes of the messages. -/
def pushed (messages : List Value) (item : InputItem) : List Value :=
  join mergeMessages messages [runMessage [item]]

theorem pushed_of_none {messages : List Value} {item : InputItem}
    (alone : toolCalls (runMessage [item]) = none) :
    pushed messages item = messages ++ [runMessage [item]] := by
  refine join_of_none fun last _ first mem => ?_
  obtain rfl := Option.some.inj mem
  exact mergeMessages_none alone

theorem pushed_call (messages : List Value) (call : FunctionCall) :
    pushed messages (.call call) = pushToolCall messages call.toolCall := by
  have single : runMessage [.call call] = callsMessage [call.toolCall] := rfl
  rw [pushed, single, pushToolCall]
  rcases List.eq_nil_or_concat messages with rfl | ⟨front, last, rfl⟩
  · rfl
  · rw [List.concat_eq_append, concat_join_cons, List.getLast?_concat, List.dropLast_concat,
      Option.bind_some, mergeMessages, toolCalls_callsMessage]
    cases toolCalls last <;> rfl

theorem pushTextMessage_eq (messages : List Value) (role : String) (content : Value) :
    pushTextMessage messages role content =
      (InputItem.readText role content).map fun said => said.elim messages (pushed messages) := by
  unfold pushTextMessage InputItem.readText
  cases responseContentText content with
  | error error => rfl
  | ok text =>
    exact congrArg Except.ok (@pushed_of_none messages (.text role text)
      (toolCalls_textMessage role text)).symm

theorem pushFunctionCall_eq (toString : JsonWriter) (messages : List Value) (item : Value) :
    pushFunctionCall toString messages item =
      (InputItem.readCall toString item).map fun said => said.elim messages (pushed messages) := by
  unfold pushFunctionCall InputItem.readCall
  cases required ((item.get "call_id").bind (·.asStr)) with
  | error error => rfl
  | ok callId =>
    cases required ((item.get "name").bind (·.asStr)) with
    | error error => rfl
    | ok name =>
      cases argumentsText toString item with
      | error error => rfl
      | ok arguments => exact congrArg Except.ok (pushed_call messages ⟨callId, name, arguments⟩).symm

theorem pushFunctionCallOutput_eq (toString : JsonWriter) (messages : List Value) (item : Value) :
    pushFunctionCallOutput toString messages item =
      (InputItem.readOutput toString item).map fun said =>
        said.elim messages (pushed messages) := by
  unfold pushFunctionCallOutput InputItem.readOutput
  cases required ((item.get "call_id").bind (·.asStr)) with
  | error error => rfl
  | ok callId =>
    cases outputText toString item with
    | error error => rfl
    | ok output =>
      exact congrArg Except.ok (@pushed_of_none messages (.output callId output)
        (toolCalls_outputMessage callId output)).symm

theorem pushInputItem_eq (toString : JsonWriter) (messages : List Value) (item : Value) :
    pushInputItem toString messages item =
      (InputItem.read toString item).map fun said => said.elim messages (pushed messages) := by
  cases item with
  | object entries =>
    unfold pushInputItem InputItem.read
    dsimp only
    split
    -- the other match is decided with this one, or by the same equation
    all_goals rename_i is; try rw [is]
    · exact pushFunctionCall_eq ..
    · exact pushFunctionCallOutput_eq ..
    · rfl
    · exact pushTextMessage_eq ..
    · exact pushTextMessage_eq ..
    · grind [Except.map]
  | string text => exact pushTextMessage_eq ..
  | _ => rfl

theorem foldlM_pushInputItem (toString : JsonWriter) (messages items : List Value) :
    items.foldlM (pushInputItem toString) messages =
      (items.mapM (InputItem.read toString)).map fun said =>
        said.reduceOption.foldl pushed messages := by
  induction items generalizing messages with
  | nil => rfl
  | cons item rest ih =>
    rw [List.foldlM_cons, List.mapM_cons, pushInputItem_eq]
    cases InputItem.read toString item with
    | error error => rfl
    | ok said =>
      refine (ih _).trans ?_
      cases rest.mapM (InputItem.read toString) with
      | error error => rfl
      | ok others => cases said <;> rfl

/-- The messages before the input are not touched. -/
theorem foldl_pushed {before : List Value}
    (apart : ∀ last ∈ before.getLast?, toolCalls last = none) (items : List InputItem) :
    items.foldl pushed before = before ++ messagesOf items := by
  induction items using List.reverseRecOn with
  | nil => exact (List.append_nil before).symm
  | append_singleton items item ih =>
    have single : messagesOf [item] = [runMessage [item]] := rfl
    rw [List.foldl_append, ih, List.foldl_cons, List.foldl_nil, messagesOf_append, single]
    by_cases empty : messagesOf items = []
    · rw [empty, List.append_nil, nil_join]
      refine join_of_none fun last mem first _ => ?_
      unfold mergeMessages
      rw [apart last mem]
    · exact append_join _ _ _ empty

/-! ### Every list of items -/

/-- A request with instructions and input items. -/
def inputBody (instructions : Option Value) (items : List Value) : Value :=
  .object (("input", .array items) :: instructions.toList.map ("instructions", ·))

/-- The message of the instructions of a request. -/
def developer (instructions : Option Value) : List Value :=
  instructionsMessage (inputBody instructions [])

theorem developer_apart (instructions : Option Value) :
    ∀ last ∈ (developer instructions).getLast?, toolCalls last = none := by
  unfold developer instructionsMessage
  intro last mem
  split at mem
  · split at mem
    · cases mem
    · obtain rfl := Option.some.inj mem
      exact toolCalls_textMessage ..
  · cases mem

theorem buildMessages_inputBody (toString : JsonWriter) (instructions : Option Value)
    (items : List Value) : buildMessages toString (inputBody instructions items) =
      (items.mapM (InputItem.read toString)) >>= fun said =>
        if (developer instructions ++ messagesOf said.reduceOption).isEmpty then
          .error .invalidInput
        else .ok (.array (developer instructions ++ messagesOf said.reduceOption)) := by
  have input : (inputBody instructions items).get "input" = some (.array items) := rfl
  have fresh : (inputBody instructions items).get "messages" = none := by
    cases instructions <;> rfl
  have same : instructionsMessage (inputBody instructions items) = developer instructions := by
    cases instructions <;> rfl
  unfold buildMessages
  rw [input, fresh, same]
  show (items.foldlM (pushInputItem toString) (developer instructions) >>= _) = _
  rw [foldlM_pushInputItem]
  cases items.mapM (InputItem.read toString) with
  | error error => rfl
  | ok said =>
    show (if (said.reduceOption.foldl pushed (developer instructions)).isEmpty then _
      else Except.ok (Value.array (said.reduceOption.foldl pushed (developer instructions)))) = _
    rw [foldl_pushed (developer_apart instructions)]
    rfl

end RelayPool.Protocol
