import Zero3Pilot.Foundations.CallGroups
import Zero3Pilot.Foundations.ScriptValue

/-! # The conversations that are sent upstream

`apply-codex-transport.mjs` and `apply-session-provider-runtime.mjs`: the kernel sends a list of Responses
items, and the bridge writes them as the conversation of the provider's protocol. The three converters
read the items alike, as a history of messages, calls and outputs; they differ in what they read of an
item and in how a group of calls is written. `JSON.parse` is a parameter. -/

namespace Zero3Pilot.ProviderBridge

open ScriptValue (asRecord isNullish items? text?)

/-! ## Reading items -/

def toolOutputUnrecorded : String :=
  "Zero3 bridge: the result of this tool call was not recorded in the conversation history."

def toolOutputEmpty : String := "Zero3 bridge: the tool returned no output."

def reasoningUnrecorded : String :=
  "Zero3 bridge: the reasoning of this tool call was not recorded in the conversation history."

def textOf (value : ScriptValue) : String := (text? value).getD ""

def joinLines (texts : List String) : String := "\n".intercalate (texts.filter (· ≠ ""))

def partText (raw : Json) : String :=
  let item := asRecord (some raw)
  match text? (item.get "text") with
  | some text => text
  | none => textOf (item.get "content")

def zero3GlmText (value : ScriptValue) : String :=
  match text? value with
  | some text => text
  | none => joinLines (((items? value).getD []).map partText)

def zero3GlmToolOutput (value : ScriptValue) : String :=
  match value with
  | none | some .null => ""
  | some (.string text) => text
  | some (.array items) => zero3GlmText (some (.array items))
  | some value => String.ofList value.render

def itemType (item : Json) : String := (text? (item.get "type")).getD "message"

def isCall (item : Json) : Bool :=
  itemType item = "function_call" ∨ itemType item = "custom_tool_call"

def isOutput (item : Json) : Bool :=
  itemType item = "function_call_output" ∨ itemType item = "custom_tool_call_output" ∨
    itemType item = "mcp_tool_call_output"

structure ToolCall (Arguments : Type) where
  name : String
  arguments : Arguments

def outputText (item : Json) : String :=
  let text := zero3GlmToolOutput (item.get "output")
  if scriptTrim text = "" then toolOutputEmpty else text

def readCall {Message Note Arguments : Type} (arguments : Json → Arguments) (item : Json) :
    Option (Recorded String Message Note (ToolCall Arguments) String) :=
  let id := textOf (item.get "call_id")
  let name := textOf (item.get "name")
  if id = "" ∨ name = "" then none else some (.called id ⟨name, arguments item⟩)

def readOutput {Message Note Arguments : Type} (item : Json) :
    Option (Recorded String Message Note (ToolCall Arguments) String) :=
  let id := textOf (item.get "call_id")
  if id = "" then none else some (.answered id (outputText item))

def requestItems (input : ScriptValue) : List Json :=
  ((items? input).getD []).map fun raw => asRecord (some raw)

/-! ## OpenAI-compatible providers -/

/-- A part of a message that is sent. -/
inductive GlmPart where
  | text (text : String)
  | imageUrl (url : String)

inductive GlmRole where
  | assistant
  | system
  | tool
  | user
  deriving DecidableEq

/-- What a message says. -/
inductive GlmContent where
  | null
  | text (text : String)
  | parts (parts : List GlmPart)

structure GlmToolCall where
  (id name arguments : String)

structure GlmMessage where
  role : GlmRole
  content : GlmContent
  toolCalls : Option (List GlmToolCall)
  (toolCallId reasoningContent : Option String)

def isTextPart (raw : Json) : Bool :=
  let part := asRecord (some raw)
  let type := textOf (part.get "type")
  (type = "input_text" ∨ type = "output_text" ∨ type = "text") ∧ (text? (part.get "text")).isSome

/-- A part of a message, as `zero3GlmMessageContent` reads it. -/
def glmPart (raw : Json) : Option GlmPart :=
  let part := asRecord (some raw)
  let type := textOf (part.get "type")
  if isTextPart raw then some (.text (textOf (part.get "text")))
  else if type = "input_image" ∨ type = "image_url" then
    (text? (part.get "image_url")).map .imageUrl
  else none

def zero3GlmMessageContent (value : ScriptValue) : List GlmPart :=
  match value with
  | some (.array items) => items.filterMap glmPart
  | some (.string text) => [.text text]
  | _ => []

def zero3GlmRole (value : ScriptValue) : GlmRole :=
  let role := textOf value
  if role = "system" then .system
  else if role = "user" then .user
  else if role = "assistant" then .assistant
  else if role = "tool" then .tool
  else if role = "developer" then .system
  else .user

def reasoningParts (value : ScriptValue) (types : List String) : List String :=
  ((items? value).getD []).filterMap fun raw =>
    let part := asRecord (some raw)
    let text := scriptTrim (textOf (part.get "text"))
    if textOf (part.get "type") ∈ types ∧ text ≠ "" then
      some (String.ofList (takeUtf16 100000 text.toList))
    else none

def zero3GlmReasoningText (item : Json) : String :=
  "\n".intercalate (reasoningParts (item.get "content") ["reasoning_text", "text"] ++
    reasoningParts (item.get "summary") ["summary_text"])

/-- A message of the history. -/
structure GlmSaid where
  role : GlmRole
  content : List GlmPart

def glmArguments (item : Json) : String :=
  match text? (item.get "arguments") with
  | some text => text
  | none => (text? (item.get "input")).getD "{}"

def glmRecord (item : Json) : Option (Recorded String GlmSaid String (ToolCall String) String) :=
  if itemType item = "reasoning" then some (.noted (zero3GlmReasoningText item))
  else if itemType item = "message" then
    some (.said ⟨zero3GlmRole (item.get "role"), zero3GlmMessageContent (item.get "content")⟩)
  else if isCall item then readCall glmArguments item
  else if isOutput item then readOutput item
  else none

/-- The messages so far, and the reasoning that belongs to the next one. -/
structure GlmDraft where
  messages : List GlmMessage
  reasoning : String

def carriedReasoning (carried : String) : Option String := if carried = "" then none else some carried

/-- A message is written, with the reasoning before it where it is the assistant's. -/
def GlmDraft.say (draft : GlmDraft) (said : GlmSaid) : GlmDraft :=
  if said.content = [] then draft
  else
    { messages := draft.messages ++ [{
        role := said.role
        content := .parts said.content
        toolCalls := none
        toolCallId := none
        reasoningContent :=
          if said.role = .assistant then carriedReasoning draft.reasoning else none }]
      reasoning := "" }

/-- Reasoning is kept for the next message. -/
def GlmDraft.note (draft : GlmDraft) (text : String) : GlmDraft :=
  if text = "" then draft
  else { draft with reasoning := if draft.reasoning = "" then text else draft.reasoning ++ "\n" ++ text }

/-- The calls of a response join its text, or stand alone. -/
def attachCalls (messages : List GlmMessage) (calls : List GlmToolCall) (carried : String) :
    List GlmMessage :=
  match messages.getLast? with
  | some previous =>
    if previous.role = .assistant ∧ previous.toolCalls = none then
      messages.dropLast ++ [{ previous with
        toolCalls := some calls
        reasoningContent := previous.reasoningContent.orElse fun _ => carriedReasoning carried }]
    else messages ++ [⟨.assistant, .null, some calls, none, carriedReasoning carried⟩]
  | none => [⟨.assistant, .null, some calls, none, carriedReasoning carried⟩]

def glmToolCall (entry : CallEntry String (ToolCall String) String) : GlmToolCall :=
  ⟨entry.id, entry.call.name, entry.call.arguments⟩

def glmReply (entry : CallEntry String (ToolCall String) String) : GlmMessage :=
  ⟨.tool, .text (entry.reply.getD toolOutputUnrecorded), none, some entry.id, none⟩

def GlmDraft.write (reasoningFallback : Bool) (draft : GlmDraft)
    (entries : List (CallEntry String (ToolCall String) String)) : GlmDraft :=
  let carried :=
    if draft.reasoning ≠ "" then draft.reasoning
    else if reasoningFallback then reasoningUnrecorded else ""
  { messages := attachCalls draft.messages (entries.map glmToolCall) carried ++ entries.map glmReply
    reasoning := "" }

/-- How `zero3GlmMessages` writes a history. -/
def glmScribe (reasoningFallback : Bool) :
    Scribe String GlmSaid String (ToolCall String) String GlmDraft where
  say := GlmDraft.say
  note := GlmDraft.note
  write := GlmDraft.write reasoningFallback

def glmItems (input : ScriptValue) : List Json :=
  match text? input with
  | some text =>
    [.object [("type", .string "message"), ("role", .string "user"), ("content", .string text)]]
  | none => requestItems input

def glmInstructions (instructions : ScriptValue) : List GlmMessage :=
  let text := textOf instructions
  if scriptTrim text = "" then [] else [⟨.system, .text text, none, none, none⟩]

def zero3GlmMessages (input instructions : ScriptValue) (reasoningFallback : Bool) :
    List GlmMessage :=
  (transcribe (glmScribe reasoningFallback) ⟨glmInstructions instructions, ""⟩
    ((glmItems input).filterMap glmRecord)).messages

/-! ## Tools -/

structure ToolDeclaration where
  (name description : String)
  parameters : Json

def isStructure : ScriptValue → Bool
  | some (.object _) | some (.array _) => true
  | _ => false

def toolParameters (value : ScriptValue) : Json :=
  if isStructure value then value.getD .null
  else .object [("type", .string "object"), ("properties", .object [])]

def zero3GlmTools (value : ScriptValue) : List ToolDeclaration :=
  ((items? value).getD []).filterMap fun raw =>
    let tool := asRecord (some raw)
    let name := textOf (tool.get "name")
    if text? (tool.get "type") ≠ some "function" ∨ name = "" then none
    else some ⟨name, textOf (tool.get "description"), toolParameters (tool.get "parameters")⟩

/-! ## Anthropic and Gemini -/

def zero3ApiAgentToolArguments (parse : String → Option Json) (value : ScriptValue) : Json :=
  match value with
  | some (.object members) => .object members
  | some (.string text) =>
    if scriptTrim text = "" then .object [] else asRecord (parse text)
  | _ => .object []

def givenArguments (item : Json) : ScriptValue :=
  if isNullish (item.get "arguments") then item.get "input" else item.get "arguments"

inductive Speaker where
  | assistant
  | user
  deriving DecidableEq

structure Speech (Block : Type) where
  role : Speaker
  content : List Block

def pushBlock {Block : Type} (messages : List (Speech Block)) (role : Speaker) (block : Block) :
    List (Speech Block) :=
  match messages.getLast? with
  | some last =>
    if last.role = role then
      messages.dropLast ++ [{ last with content := last.content ++ [block] }]
    else messages ++ [⟨role, [block]⟩]
  | none => [⟨role, [block]⟩]

/-- The speeches so far, and the texts of the system. -/
structure Dialogue (Block : Type) where
  messages : List (Speech Block)
  systemParts : List String

structure BlockStyle (Block : Type) where
  text : String → Block
  (call reply : CallEntry String (ToolCall Json) String → Block)

/-- A message of the history. -/
structure DialogueSaid where
  role : ScriptValue
  text : String

/-- A message is written: the system's apart, the others in turn. -/
def Dialogue.say {Block : Type} (style : BlockStyle Block) (dialogue : Dialogue Block)
    (said : DialogueSaid) : Dialogue Block :=
  let role := textOf said.role
  if role = "system" ∨ role = "developer" then
    { dialogue with systemParts := dialogue.systemParts ++ [said.text] }
  else
    let speaker := if role = "assistant" then .assistant else .user
    { dialogue with messages := pushBlock dialogue.messages speaker (style.text said.text) }

/-- A group of calls is written by the assistant, and the replies by the user. -/
def Dialogue.write {Block : Type} (style : BlockStyle Block) (dialogue : Dialogue Block)
    (entries : List (CallEntry String (ToolCall Json) String)) : Dialogue Block :=
  let called := entries.foldl (fun messages entry =>
    pushBlock messages .assistant (style.call entry)) dialogue.messages
  { dialogue with
    messages := entries.foldl (fun messages entry =>
      pushBlock messages .user (style.reply entry)) called }

/-- How a dialogue is written. -/
def dialogueScribe {Block : Type} (style : BlockStyle Block) :
    Scribe String DialogueSaid Empty (ToolCall Json) String (Dialogue Block) where
  say := Dialogue.say style
  note dialogue _ := dialogue
  write := Dialogue.write style

variable (parse : String → Option Json)

/-- What the two converters read of an item. -/
def dialogueRecord (item : Json) :
    Option (Recorded String DialogueSaid Empty (ToolCall Json) String) :=
  if itemType item = "message" then
    let text := zero3GlmText (item.get "content")
    if text = "" then none else some (.said ⟨item.get "role", text⟩)
  else if isCall item then
    readCall (fun item => zero3ApiAgentToolArguments parse (givenArguments item)) item
  else if isOutput item then readOutput item
  else none

def dialogueInstructions (body : Json) : List String :=
  let text := scriptTrim (textOf (body.get "instructions"))
  if text = "" then [] else [text]

def dialogueOf {Block : Type} (style : BlockStyle Block) (body : Json) : Dialogue Block :=
  transcribe (dialogueScribe style) ⟨[], dialogueInstructions body⟩
    ((requestItems (body.get "input")).filterMap (dialogueRecord parse))

def systemText (parts : List String) : Option String :=
  if parts = [] then none else some ("\n\n".intercalate parts)

def number? : ScriptValue → Option Json
  | some (.number literal) => some (.number literal)
  | _ => none

inductive AnthropicBlock where
  | text (text : String)
  | toolUse (id name : String) (input : Json)
  | toolResult (toolUseId content : String)

/-- How Anthropic messages are written. -/
def anthropicStyle : BlockStyle AnthropicBlock where
  text := .text
  call entry := .toolUse entry.id entry.call.name entry.call.arguments
  reply entry := .toolResult entry.id (entry.reply.getD toolOutputUnrecorded)

/-- The request of an Anthropic provider. -/
structure AnthropicPayload where
  model : String
  maxTokens : Json
  system : Option String
  messages : List (Speech AnthropicBlock)
  tools : List ToolDeclaration
  temperature : Option Json

def zero3ApiAnthropicPayload (body : Json) (model : String) : AnthropicPayload :=
  let dialogue := dialogueOf parse anthropicStyle body
  { model
    maxTokens := (number? (body.get "max_output_tokens")).getD (.nat 8192)
    system := systemText dialogue.systemParts
    messages := dialogue.messages
    tools := zero3GlmTools (body.get "tools")
    temperature := number? (body.get "temperature") }

inductive GeminiPart where
  | text (text : String)
  | functionCall (name : String) (args : Json)
  | functionResponse (name result : String)

/-- How Gemini contents are written. -/
def geminiStyle : BlockStyle GeminiPart where
  text := .text
  call entry := .functionCall entry.call.name entry.call.arguments
  reply entry := .functionResponse entry.call.name (entry.reply.getD toolOutputUnrecorded)

/-- The request of a Gemini provider. -/
structure GeminiPayload where
  contents : List (Speech GeminiPart)
  systemInstruction : Option String
  functionDeclarations : List ToolDeclaration
  (temperature maxOutputTokens : Option Json)

def zero3ApiGeminiPayload (body : Json) : GeminiPayload :=
  let dialogue := dialogueOf parse geminiStyle body
  { contents := dialogue.messages
    systemInstruction := systemText dialogue.systemParts
    functionDeclarations := zero3GlmTools (body.get "tools")
    temperature := number? (body.get "temperature")
    maxOutputTokens := number? (body.get "max_output_tokens") }

end Zero3Pilot.ProviderBridge
