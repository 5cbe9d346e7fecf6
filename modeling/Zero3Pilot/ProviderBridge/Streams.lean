import Mathlib.Algebra.Group.Int.Defs
import Mathlib.Data.List.Infix
import Zero3Pilot.Foundations.Interrupted
import Zero3Pilot.ProviderBridge.Conversation

/-! # The answers of providers

`apply-session-provider-runtime.mjs`: the bridge asks a provider for a stream and forwards what it carries
as Responses events, or asks for one message and forwards its items. What a provider answers is given with
each request. `JSON.parse`, `toLowerCase`, the floor of a number that is no integer and the clock are
parameters; the requests themselves and the sums of the usage are left out. -/

namespace Zero3Pilot.ProviderBridge

open ScriptValue (asRecord isNullish isTrue items? text?)

/-- How scripts read texts and numbers, and the clock as a call of the model is read. -/
structure StreamSurroundings where
  parse : String → Option Json
  lower : String → String
  floor : NumberLiteral → Int
  clock : Nat → Nat

/-! ## Items -/

/-- A tool call that is read from an answer. -/
structure CallDraft where
  (id name arguments : String)

inductive OutputItem where
  | reasoning (id : Option String) (text : String)
  | message (id : Option String) (text : String)
  | functionCall (callId name arguments : String)

def CallDraft.item (call : CallDraft) : OutputItem := .functionCall call.id call.name call.arguments

def zero3ApiAgentResponseItems (text : String) (calls : List CallDraft) : List OutputItem :=
  (if scriptTrim text = "" then [] else [.message none text]) ++ calls.map CallDraft.item

structure StreamIds where
  (reasoning message : Option String)

def streamCallItems (calls : List CallDraft) : List OutputItem :=
  (calls.filter fun call => call.name ≠ "" && call.id ≠ "").map fun call =>
    .functionCall call.id call.name (if call.arguments = "" then "\x7b\x7d" else call.arguments)

def zero3ApiAgentStreamItems (text reasoning : String) (calls : List CallDraft) (ids : StreamIds) :
    List OutputItem :=
  (if scriptTrim reasoning = "" then []
    else [.reasoning (some (ids.reasoning.getD "zero3-stream-item-reasoning")) reasoning]) ++
  (if scriptTrim text = "" then []
    else [.message (some (ids.message.getD "zero3-stream-item-message")) text]) ++
  streamCallItems calls

/-- The counts of a usage, as they are read. -/
structure Usage where
  (input output total : Option Json)

structure Converted where
  items : List OutputItem
  usage : Usage

def zero3GlmResponseUsage (usage : Json) : Usage :=
  ⟨number? (usage.get "prompt_tokens"), number? (usage.get "completion_tokens"),
    number? (usage.get "total_tokens")⟩

/-! ## Messages -/

def firstRecord (value : ScriptValue) : Json :=
  asRecord (((items? value).getD [])[0]?)

def records (value : ScriptValue) : List Json :=
  ((items? value).getD []).map fun raw => asRecord (some raw)

/-- A call of an OpenAI-compatible message. -/
def glmResponseCall (toolCall : Json) : Option OutputItem :=
  let function := asRecord (toolCall.get "function")
  let name := textOf (function.get "name")
  let callId := textOf (toolCall.get "id")
  if name = "" ∨ callId = "" then none
  else
    some (.functionCall callId name ((text? (function.get "arguments")).getD "\x7b\x7d"))

def zero3GlmResponseItems (payload : Json) : List OutputItem :=
  let message := asRecord ((firstRecord (payload.get "choices")).get "message")
  let reasoning := scriptTrim (textOf (message.get "reasoning_content"))
  let text := zero3GlmText (message.get "content")
  (if reasoning = "" then [] else [.reasoning none reasoning]) ++
  (if text = "" then [] else [.message none text]) ++
  (records (message.get "tool_calls")).filterMap glmResponseCall

def orEmpty (value : ScriptValue) : Json :=
  if isNullish value then .object [] else value.getD .null

def anthropicText (block : Json) : Option String :=
  if text? (block.get "type") = some "text" then text? (block.get "text")
  else none

def anthropicCall (block : Json) : Option CallDraft :=
  if text? (block.get "type") = some "tool_use" then
    match text? (block.get "id"), text? (block.get "name") with
    | some id, some name => some ⟨id, name, String.ofList (orEmpty (block.get "input")).render⟩
    | _, _ => none
  else none

def zero3ApiAnthropicResponse (body : Json) : Converted :=
  let content := records (body.get "content")
  let usage := asRecord (body.get "usage")
  { items := zero3ApiAgentResponseItems ("\n".intercalate (content.filterMap anthropicText))
      (content.filterMap anthropicCall)
    usage := ⟨number? (usage.get "input_tokens"), number? (usage.get "output_tokens"), none⟩ }

variable (env : StreamSurroundings)

def geminiCall (part : Json) (count : Nat) : Option CallDraft :=
  let functionCall := asRecord (part.get "functionCall")
  match text? (functionCall.get "name") with
  | some name =>
    if scriptTrim name = "" then none
    else some ⟨s!"gemini-call-{env.clock count}-{count}", name,
      String.ofList (orEmpty (functionCall.get "args")).render⟩
  | none => none

def geminiCalls (parts : List Json) : List CallDraft :=
  parts.foldl (fun calls part => calls ++ (geminiCall env part (calls.length + 1)).toList) []

def zero3ApiGeminiResponse (body : Json) : Converted :=
  let content := asRecord ((firstRecord (body.get "candidates")).get "content")
  let parts := records (content.get "parts")
  let usage := asRecord (body.get "usageMetadata")
  { items := zero3ApiAgentResponseItems
      ("\n".intercalate (parts.filterMap fun part => text? (part.get "text")))
      (geminiCalls env parts)
    usage := ⟨number? (usage.get "promptTokenCount"), number? (usage.get "candidatesTokenCount"), none⟩ }

/-! ## Event streams -/

/-- A chunk of a body: its length, and what the decoder makes of it after the chunks before. -/
structure Chunk where
  byteLength : Nat
  text : List Char

/-- A body that is read: its chunks, and the error that breaks it off. -/
structure UpstreamBody where
  chunks : List Chunk
  broken : Option String

structure SseFrame where
  event : Option String
  data : String

def endedLines : List Char → List (List Char) × List Char
  | [] => ([], [])
  | '\r' :: '\n' :: rest => ([] :: (endedLines rest).1, (endedLines rest).2)
  | '\n' :: rest => ([] :: (endedLines rest).1, (endedLines rest).2)
  | c :: rest =>
    match (endedLines rest).1 with
    | [] => ([], c :: (endedLines rest).2)
    | line :: lines => ((c :: line) :: lines, (endedLines rest).2)

/-- The frame that is being read. -/
structure SseReader where
  pending : List Char
  eventName : Option String
  dataLines : List String

def SseReader.flush (reader : SseReader) : SseReader × List SseFrame :=
  if reader.eventName = none ∧ reader.dataLines = [] then (reader, [])
  else
    ({ reader with eventName := none, dataLines := [] },
      [⟨reader.eventName, "\n".intercalate reader.dataLines⟩])

/-- A text without the space it may begin with. -/
def dropSpace : List Char → List Char
  | ' ' :: rest => rest
  | text => text

def SseReader.takeLine (reader : SseReader) (line : List Char) : SseReader × List SseFrame :=
  if line = [] then reader.flush
  else if [':'].isPrefixOf line then (reader, [])
  else if "event:".toList.isPrefixOf line then
    ({ reader with eventName := some (scriptTrim (String.ofList (line.drop 6))) }, [])
  else if "data:".toList.isPrefixOf line then
    ({ reader with dataLines := reader.dataLines ++ [String.ofList (dropSpace (line.drop 5))] }, [])
  else (reader, [])

def SseReader.takeLines (reader : SseReader) : List (List Char) → SseReader × List SseFrame
  | [] => (reader, [])
  | line :: lines =>
    let taken := reader.takeLine line
    let rest := taken.1.takeLines lines
    (rest.1, taken.2 ++ rest.2)

def SseReader.takeChunk (reader : SseReader) (chunk : Chunk) : SseReader × List SseFrame :=
  let ended := endedLines (reader.pending ++ chunk.text)
  { reader with pending := ended.2 }.takeLines ended.1

def SseReader.takeChunks (reader : SseReader) (limit bytes : Nat) (broken : Option String) :
    List Chunk → List SseFrame × Option String
  | [] =>
    match broken with
    | some message => ([], some message)
    | none => (reader.flush.2, none)
  | chunk :: chunks =>
    if limit < bytes + chunk.byteLength then ([], some "上游 API 流式响应超过 16 MiB 限制")
    else
      let taken := reader.takeChunk chunk
      let rest := taken.1.takeChunks limit (bytes + chunk.byteLength) broken chunks
      (taken.2 ++ rest.1, rest.2)

def maxResponseBytes : Nat := 16 * 1024 * 1024

def zero3ApiAgentStreamSse (body : Option UpstreamBody) : List SseFrame × Option String :=
  match body with
  | none => ([], some "上游 API 没有返回流式内容")
  | some body => SseReader.takeChunks ⟨[], none, []⟩ maxResponseBytes 0 body.broken body.chunks

/-! ## The events of a response -/

inductive ItemKind where
  | message
  | reasoning
  deriving DecidableEq

def ItemKind.text : ItemKind → String
  | .message => "message"
  | .reasoning => "reasoning"

inductive BridgeEvent where
  | created
  | added (outputIndex : Nat) (kind : ItemKind) (id : String)
  | textDelta (itemId : Option String) (delta : String)
  | reasoningDelta (itemId : Option String) (delta : String)
  | done (outputIndex : Nat) (item : OutputItem)
  | completed (converted : Converted)
  | failed (message : String)

structure StreamEmitter where
  events : List BridgeEvent
  (sequence nextOutputIndex : Nat)
  (messageId reasoningId : Option String)
  outputIndexById : List (String × Nat)

namespace StreamEmitter

def start : StreamEmitter := ⟨[], 0, 0, none, none, []⟩

def emit (emitter : StreamEmitter) (event : BridgeEvent) : StreamEmitter :=
  { emitter with events := emitter.events ++ [event] }

def nextItemId (emitter : StreamEmitter) (kind : ItemKind) : String :=
  s!"zero3-stream-item-{emitter.sequence + 1}-{kind.text}"

def startItem (emitter : StreamEmitter) (kind : ItemKind) : StreamEmitter :=
  let id := emitter.nextItemId kind
  { events := emitter.events ++ [.added emitter.nextOutputIndex kind id]
    sequence := emitter.sequence + 1
    nextOutputIndex := emitter.nextOutputIndex + 1
    messageId := if kind = .message then some id else emitter.messageId
    reasoningId := if kind = .reasoning then some id else emitter.reasoningId
    outputIndexById := (id, emitter.nextOutputIndex) :: emitter.outputIndexById }

def textDelta (emitter : StreamEmitter) (delta : String) : StreamEmitter :=
  emitter.emit (.textDelta emitter.messageId delta)

def reasoningDelta (emitter : StreamEmitter) (delta : String) : StreamEmitter :=
  emitter.emit (.reasoningDelta emitter.reasoningId delta)

/-- The ids of the items that were added. -/
def ids (emitter : StreamEmitter) : StreamIds := ⟨emitter.reasoningId, emitter.messageId⟩

def idOf : OutputItem → Option String
  | .reasoning id _ => id
  | .message id _ => id
  | .functionCall _ _ _ => none

def doneEvents (emitter : StreamEmitter) (fallbackIndex : Nat) : List OutputItem → List BridgeEvent
  | [] => []
  | item :: items =>
    match (idOf item).bind fun id => emitter.outputIndexById.lookup id with
    | some outputIndex => .done outputIndex item :: emitter.doneEvents fallbackIndex items
    | none => .done fallbackIndex item :: emitter.doneEvents (fallbackIndex + 1) items

def doneItems (emitter : StreamEmitter) (items : List OutputItem) : StreamEmitter :=
  { emitter with events := emitter.events ++ emitter.doneEvents emitter.nextOutputIndex items }

end StreamEmitter

def readStream {State : Type} (handler : State → SseFrame → State × Option String) (state : State)
    (body : Option UpstreamBody) : State × Option String :=
  let read := zero3ApiAgentStreamSse body
  let handled := foldUntil handler state read.1
  (handled.1, handled.2.orElse fun _ => read.2)

/-! ## OpenAI-compatible streams -/

/-- What `streamOpenAiCompatible` has read. -/
structure OpenAiStream where
  emitter : StreamEmitter
  (text reasoning : List String)
  calls : List CallDraft
  usage : Json
  (openedMessage openedReasoning : Bool)

namespace OpenAiStream

/-- Nothing has been read. -/
def start : OpenAiStream := ⟨.start, [], [], [], .object [], false, false⟩

/-- A usage that says something is kept. -/
def takeUsage (stream : OpenAiStream) (payload : Json) : OpenAiStream :=
  match asRecord (payload.get "usage") with
  | .object [] => stream
  | usage => { stream with usage }

def takeReasoning (stream : OpenAiStream) (delta : String) : OpenAiStream :=
  if delta = "" then stream
  else
    let emitter := if stream.openedReasoning then stream.emitter else stream.emitter.startItem .reasoning
    { stream with
      emitter := emitter.reasoningDelta delta
      reasoning := stream.reasoning ++ [delta]
      openedReasoning := true }

def takeText (stream : OpenAiStream) (delta : String) : OpenAiStream :=
  if delta = "" then stream
  else
    let emitter := if stream.openedMessage then stream.emitter else stream.emitter.startItem .message
    { stream with
      emitter := emitter.textDelta delta
      text := stream.text ++ [delta]
      openedMessage := true }

end OpenAiStream

/-- Calls are added until an index is within them. -/
def padCalls (calls : List CallDraft) (index : Int) : List CallDraft :=
  calls ++ List.replicate ((index + 1).toNat - calls.length) ⟨"", "", ""⟩

def addToolDelta (toolDelta : Json) (call : CallDraft) : CallDraft :=
  let function := asRecord (toolDelta.get "function")
  { id := if call.id = "" then textOf (toolDelta.get "id") else call.id
    name := if call.name = "" then textOf (function.get "name") else call.name
    arguments := call.arguments ++ textOf (function.get "arguments") }

def missingCall (toolDelta : Json) : Option String :=
  let function := asRecord (toolDelta.get "function")
  if textOf (toolDelta.get "id") ≠ "" then
    some "Cannot read properties of undefined (reading 'id')"
  else if textOf (function.get "name") ≠ "" then
    some "Cannot read properties of undefined (reading 'name')"
  else if (text? (function.get "arguments")).isSome then
    some "Cannot read properties of undefined (reading 'arguments')"
  else none

def takeToolDelta (calls : List CallDraft) (toolDelta : Json) : List CallDraft × Option String :=
  match toolDelta.get "index" with
  | some (.number literal) =>
    match literal.toInt? with
    | some index =>
      let padded := padCalls calls index
      if 0 ≤ index then (padded.modify index.toNat (addToolDelta toolDelta), none)
      else (padded, missingCall toolDelta)
    | none => (padCalls calls (env.floor literal), missingCall toolDelta)
  | _ => ((padCalls calls calls.length).modify calls.length (addToolDelta toolDelta), none)

def takeOpenAiPayload (stream : OpenAiStream) (payload : Json) : OpenAiStream × Option String :=
  let delta := asRecord ((firstRecord (payload.get "choices")).get "delta")
  let read := ((stream.takeUsage payload).takeReasoning (textOf (delta.get "reasoning_content"))).takeText
    (textOf (delta.get "content"))
  let tools := foldUntil (takeToolDelta env) read.calls (records (delta.get "tool_calls"))
  ({ read with calls := tools.1 }, tools.2)

def openAiPayload (frame : SseFrame) : Option Json :=
  let data := scriptTrim frame.data
  if data = "" ∨ data = "[DONE]" then none
  else (env.parse data).map fun parsed => asRecord (some parsed)

def takeOpenAiFrame (stream : OpenAiStream) (frame : SseFrame) : OpenAiStream × Option String :=
  match openAiPayload env frame with
  | none => (stream, none)
  | some payload => takeOpenAiPayload env stream payload

structure StreamResult where
  events : List BridgeEvent
  converted : Except String Converted

def finishStream (emitter : StreamEmitter) (thrown : Option String) (items : List OutputItem)
    (usage : Usage) : StreamResult :=
  match thrown with
  | some message => ⟨emitter.events, .error message⟩
  | none => ⟨(emitter.doneItems items).events, .ok ⟨items, usage⟩⟩

def readOpenAi (body : Option UpstreamBody) : StreamResult :=
  let read := readStream (takeOpenAiFrame env) .start body
  let stream := read.1
  finishStream stream.emitter read.2
    (zero3ApiAgentStreamItems (String.join stream.text) (String.join stream.reasoning) stream.calls
      stream.emitter.ids)
    (zero3GlmResponseUsage stream.usage)

/-! ## Anthropic streams -/

inductive StreamBlock where
  | text
  | reasoning
  | tool (callIndex : Nat)
  deriving DecidableEq

structure AnthropicStream where
  emitter : StreamEmitter
  (text reasoning : List String)
  calls : List CallDraft
  (inputTokens outputTokens : Option Json)
  blocks : List (NumberLiteral × StreamBlock)

def setBlock (blocks : List (NumberLiteral × StreamBlock)) (index : NumberLiteral)
    (block : StreamBlock) : List (NumberLiteral × StreamBlock) :=
  if blocks.any fun known => known.1 = index then
    blocks.map fun known => if known.1 = index then (index, block) else known
  else blocks ++ [(index, block)]

def literalOr (value : ScriptValue) (standard : NumberLiteral) : NumberLiteral :=
  match value with
  | some (.number literal) => literal
  | _ => standard

def minusOne : NumberLiteral := ⟨['-', '1'], List.cons_ne_nil _ _, by simp [isNumberChar]⟩

namespace AnthropicStream

/-- Nothing has been read. -/
def start : AnthropicStream := ⟨.start, [], [], [], none, none, []⟩

def startBlock (stream : AnthropicStream) (event : Json) : AnthropicStream :=
  let block := asRecord (event.get "content_block")
  let index := literalOr (event.get "index") (.ofNat stream.blocks.length)
  match text? (block.get "type"), text? (block.get "id"), text? (block.get "name") with
  | some "tool_use", some id, some name =>
    { stream with
      calls := stream.calls ++ [⟨id, name, ""⟩]
      blocks := setBlock stream.blocks index (.tool stream.calls.length) }
  | some "thinking", _, _ => { stream with blocks := setBlock stream.blocks index .reasoning }
  | _, _, _ => { stream with blocks := setBlock stream.blocks index .text }

def takeText (stream : AnthropicStream) (delta : String) : AnthropicStream :=
  let emitter := if stream.text = [] then stream.emitter.startItem .message else stream.emitter
  { stream with emitter := emitter.textDelta delta, text := stream.text ++ [delta] }

def takeThinking (stream : AnthropicStream) (delta : String) : AnthropicStream :=
  let emitter := if stream.reasoning = [] then stream.emitter.startItem .reasoning else stream.emitter
  { stream with emitter := emitter.reasoningDelta delta, reasoning := stream.reasoning ++ [delta] }

def takeArguments (stream : AnthropicStream) (callIndex : Nat) (delta : String) : AnthropicStream :=
  { stream with
    calls := stream.calls.modify callIndex fun call =>
      { call with arguments := call.arguments ++ delta } }

def takeDelta (stream : AnthropicStream) (event : Json) : AnthropicStream :=
  let block := stream.blocks.lookup (literalOr (event.get "index") minusOne)
  let delta := asRecord (event.get "delta")
  let type := textOf (delta.get "type")
  if type = "text_delta" ∧ textOf (delta.get "text") ≠ "" then
    if block = some .text then stream.takeText (textOf (delta.get "text")) else stream
  else if type = "thinking_delta" ∧ textOf (delta.get "thinking") ≠ "" then
    stream.takeThinking (textOf (delta.get "thinking"))
  else if type = "input_json_delta" then
    match block with
    | some (.tool callIndex) => stream.takeArguments callIndex (textOf (delta.get "partial_json"))
    | _ => stream
  else stream

def takeEvent (stream : AnthropicStream) (kind : String) (event : Json) : AnthropicStream :=
  if kind = "message_start" then
    let usage := asRecord ((asRecord (event.get "message")).get "usage")
    { stream with inputTokens := (number? (usage.get "input_tokens")).orElse fun _ => stream.inputTokens }
  else if kind = "content_block_start" then stream.startBlock event
  else if kind = "content_block_delta" then stream.takeDelta event
  else if kind = "message_delta" then
    let usage := asRecord (event.get "usage")
    { stream with
      outputTokens := (number? (usage.get "output_tokens")).orElse fun _ => stream.outputTokens }
  else stream

end AnthropicStream

def jsonPayload (frame : SseFrame) : Option Json :=
  if scriptTrim frame.data = "" then none
  else (env.parse frame.data).map fun parsed => asRecord (some parsed)

def anthropicEvent (frame : SseFrame) : Option (String × Json) :=
  (jsonPayload env frame).map fun event =>
    ((text? (event.get "type")).getD (frame.event.getD ""), event)

def takeAnthropicFrame (stream : AnthropicStream) (frame : SseFrame) :
    AnthropicStream × Option String :=
  match anthropicEvent env frame with
  | none => (stream, none)
  | some event => (stream.takeEvent event.1 event.2, none)

def readAnthropic (body : Option UpstreamBody) : StreamResult :=
  let read := readStream (takeAnthropicFrame env) .start body
  let stream := read.1
  finishStream stream.emitter read.2
    (zero3ApiAgentStreamItems (String.join stream.text) (String.join stream.reasoning) stream.calls
      stream.emitter.ids)
    ⟨stream.inputTokens, stream.outputTokens, none⟩

/-! ## Gemini streams -/

structure GeminiStream where
  emitter : StreamEmitter
  text : List String
  calls : List CallDraft
  usage : Json

/-- Nothing has been read. -/
def GeminiStream.start : GeminiStream := ⟨.start, [], [], .object []⟩

def takeGeminiPart (stream : GeminiStream) (part : Json) : GeminiStream :=
  if textOf (part.get "text") ≠ "" then
    let emitter := if stream.text = [] then stream.emitter.startItem .message else stream.emitter
    { stream with
      emitter := emitter.textDelta (textOf (part.get "text"))
      text := stream.text ++ [textOf (part.get "text")] }
  else
    { stream with
      calls := stream.calls ++ (geminiCall env part (stream.calls.length + 1)).toList }

def takeGeminiPayload (stream : GeminiStream) (payload : Json) : GeminiStream :=
  let usage := asRecord (payload.get "usageMetadata")
  let stream := if usage = .object [] then stream else { stream with usage }
  let content := asRecord ((firstRecord (payload.get "candidates")).get "content")
  (records (content.get "parts")).foldl (takeGeminiPart env) stream

def takeGeminiFrame (stream : GeminiStream) (frame : SseFrame) : GeminiStream × Option String :=
  match jsonPayload env frame with
  | none => (stream, none)
  | some payload => (takeGeminiPayload env stream payload, none)

def readGemini (body : Option UpstreamBody) : StreamResult :=
  let read := readStream (takeGeminiFrame env) .start body
  let stream := read.1
  finishStream stream.emitter read.2
    (zero3ApiAgentStreamItems (String.join stream.text) "" stream.calls stream.emitter.ids)
    ⟨number? (stream.usage.get "promptTokenCount"), number? (stream.usage.get "candidatesTokenCount"),
      none⟩

/-! ## Requests -/

inductive ApiProtocol where
  | openAiCompatible
  | anthropic
  | googleGemini

structure BridgeProfile where
  protocol : ApiProtocol
  apiKey : Option String

inductive StreamAnswer where
  | unreachable (message : String)
  | refused (status : Nat) (raw : String)
  | answered (body : Option UpstreamBody)

inductive MessageAnswer where
  | unreachable (message : String)
  | replied (ok : Bool) (status : Nat) (raw : String)

/-- What a provider answers to the requests of one call: to a stream, with the usage or without, and to a
message, with the reasoning fallback or without. -/
structure ProviderAnswers where
  stream : Bool → StreamAnswer
  message : Bool → MessageAnswer

def includes (text word : String) : Bool := decide (word.toList <:+: text.toList)

/-- The first 500 characters of a text. -/
def excerpt (raw : String) : String := String.ofList (takeUtf16 500 raw.toList)

def describedError (status : Nat) (raw : String) (body : Json) : String :=
  let detail := asRecord (body.get "error")
  s!"上游 API HTTP {status}: " ++ (text? (detail.get "message")).getD (excerpt raw)

def zero3ApiAgentUpstreamError (status : Nat) (raw : String) : String :=
  describedError status raw (asRecord (if raw = "" then none else env.parse raw))

def startUpstreamStream : StreamAnswer → Except String (Option UpstreamBody)
  | .unreachable message => .error message
  | .refused status raw =>
    .error (zero3ApiAgentUpstreamError env status
      (String.ofList (takeUtf16 maxResponseBytes raw.toList)))
  | .answered body => .ok body

def upstreamJson : MessageAnswer → Except String Json
  | .unreachable message => .error message
  | .replied ok status raw =>
    if maxResponseBytes < raw.utf8ByteSize then .error "上游 API 响应超过 16 MiB 限制"
    else
      match (if raw = "" then some (.object []) else env.parse raw) with
      | none => .error ("上游 API 返回非 JSON 数据：" ++ excerpt raw)
      | some parsed =>
        let body := asRecord (some parsed)
        if ok then .ok body else .error (describedError status raw body)

variable (profile : BridgeProfile) (body : Json) (answers : ProviderAnswers)

def BridgeProfile.keyless (profile : BridgeProfile) : Bool := profile.apiKey.all (· = "")

def requestMessage (reasoningFallback : Bool) : Except String Json :=
  if zero3GlmMessages (body.get "input") (body.get "instructions") reasoningFallback = [] then
    .error "OpenAI-Compatible 请求没有可转换的消息"
  else upstreamJson env (answers.message reasoningFallback)

def fetchOpenAiCompatible : Except String Converted :=
  let upstream : Except String Json :=
    match requestMessage env body answers false with
    | .ok upstream => .ok upstream
    | .error message =>
      if includes message "reasoning_content" then requestMessage env body answers true
      else .error message
  upstream.map fun upstream =>
    ⟨zero3GlmResponseItems upstream, zero3GlmResponseUsage (asRecord (upstream.get "usage"))⟩

def fetchAnthropic : Except String Converted :=
  if profile.keyless then .error "Anthropic profile requires an API Key"
  else (upstreamJson env (answers.message false)).map zero3ApiAnthropicResponse

def fetchGemini : Except String Converted :=
  if profile.keyless then .error "Google Gemini profile requires an API Key"
  else (upstreamJson env (answers.message false)).map (zero3ApiGeminiResponse env)

def namesModel : Bool := scriptTrim (textOf (body.get "model")) ≠ ""

def fetchUpstream : Except String Converted :=
  if namesModel body = false then .error "Codex Agent Kernel 请求缺少模型名称"
  else
    match profile.protocol with
    | .openAiCompatible => fetchOpenAiCompatible env body answers
    | .anthropic => fetchAnthropic env profile answers
    | .googleGemini => fetchGemini env profile answers

/-- The stream that an OpenAI-compatible provider answers, once more without the usage where it refuses
that. -/
def openAiStreamAnswer : Except String (Option UpstreamBody) :=
  match startUpstreamStream env (answers.stream true) with
  | .ok body => .ok body
  | .error message =>
    if includes message "HTTP 400" then startUpstreamStream env (answers.stream false)
    else .error message

def readAnswer (read : Option UpstreamBody → StreamResult) :
    Except String (Option UpstreamBody) → StreamResult
  | .ok body => read body
  | .error message => ⟨[], .error message⟩

def streamOpenAiCompatible : StreamResult :=
  if zero3GlmMessages (body.get "input") (body.get "instructions") false = [] then
    ⟨[], .error "OpenAI-Compatible 请求没有可转换的消息"⟩
  else readAnswer (readOpenAi env) (openAiStreamAnswer env answers)

def streamAnthropic : StreamResult :=
  if profile.keyless then ⟨[], .error "Anthropic profile requires an API Key"⟩
  else readAnswer (readAnthropic env) (startUpstreamStream env (answers.stream true))

def streamGemini : StreamResult :=
  if profile.keyless then ⟨[], .error "Google Gemini profile requires an API Key"⟩
  else readAnswer (readGemini env) (startUpstreamStream env (answers.stream true))

def openStream : StreamResult :=
  if namesModel body = false then ⟨[], .error "Codex Agent Kernel 请求缺少模型名称"⟩
  else
    match profile.protocol with
    | .openAiCompatible => streamOpenAiCompatible env body answers
    | .anthropic => streamAnthropic env profile answers
    | .googleGemini => streamGemini env profile answers

def isStreamingRejected (message : String) : Bool :=
  let message := env.lower message
  includes message "stream" &&
    (["not supported", "unsupported", "does not support", "unknown field", "unknown parameter",
      "invalid parameter"].any fun words => includes message words)

def burst (items : List OutputItem) : List BridgeEvent :=
  items.zipIdx.map fun item => .done item.2 item.1

def streamUpstream : StreamResult :=
  let opened := openStream env profile body answers
  match opened.converted with
  | .ok _ => opened
  | .error message =>
    if opened.events.isEmpty = false ∨ isStreamingRejected env message = false then opened
    else
      match fetchUpstream env profile body answers with
      | .ok converted => ⟨burst converted.items, .ok converted⟩
      | .error message => ⟨[], .error message⟩

inductive BridgeResponse where
  | failure (message : String)
  | message (converted : Converted)
  | events (events : List BridgeEvent)

def errorMessage (message : String) : String :=
  if message = "" then "Zero3 API Agent bridge 内部错误" else message

def handle (request : Except String Json) : BridgeResponse :=
  match request with
  | .error message => .failure (errorMessage message)
  | .ok body =>
    if isTrue (body.get "stream") = false then
      match fetchUpstream env profile body answers with
      | .ok converted => .message converted
      | .error message => .failure (errorMessage message)
    else
      let streamed := streamUpstream env profile body answers
      match streamed.converted with
      | .ok converted => .events (.created :: streamed.events ++ [.completed converted])
      | .error message => .events (.created :: streamed.events ++ [.failed (errorMessage message)])

end Zero3Pilot.ProviderBridge
