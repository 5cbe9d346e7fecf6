import Zero3Pilot.ProviderBridge.AnthropicStreams
import Zero3Pilot.ProviderBridge.GeminiStreams
import Zero3Pilot.ProviderBridge.StreamEnds

/-! # The streamed answer is the answer

An answer is given once as a stream and once as a message, and the items of both are compared. The bridge
passes some answers on differently: it trims the reasoning of a message only, joins the texts of a message by
line breaks, drops the thinking of a message, fills in empty arguments in a stream only, renders the input of
a call of a message, and opens items for blank texts that are never done. -/

namespace Zero3Pilot.ProviderBridge

/-! ## The same answer twice -/

section

variable (env : StreamSurroundings)

inductive StreamedAs : ApiProtocol → List SseFrame → Json → Prop where
  | openAi {frames : List SseFrame} {answer : OpenAiAnswer} {body : Json}
      (adds : (frames.filterMap (openAiPayload env)).foldlM OpenAiAnswer.accept .empty = some answer)
      (message : answer.IsMessage body) : StreamedAs .openAiCompatible frames body
  | anthropic {frames : List SseFrame} {blocks : List AnswerBlock} {body : Json}
      (adds : (frames.filterMap (anthropicEvent env)).foldlM acceptEvent [] = some blocks)
      (are : List.Forall₂ (IsBlock env) blocks (records (body.get "content"))) :
      StreamedAs .anthropic frames body
  | gemini {frames : List SseFrame} {body : Json}
      (streams : Streams (geminiParts body) ((frames.filterMap (jsonPayload env)).flatMap geminiParts)) :
      StreamedAs .googleGemini frames body

/-- An answer whose items are passed on as they are. -/
def PlainAnswer : ApiProtocol → List SseFrame → Json → Prop
  | .openAiCompatible, frames, _ => ∀ answer,
      (frames.filterMap (openAiPayload env)).foldlM OpenAiAnswer.accept .empty = some answer → answer.Plain
  | .anthropic, frames, _ => ∀ blocks,
      (frames.filterMap (anthropicEvent env)).foldlM acceptEvent [] = some blocks → PlainBlocks env blocks
  | .googleGemini, _, body => OneText (partTexts (geminiParts body))

/-- An item without the ids that the bridge makes. -/
def ApiProtocol.anonymize : ApiProtocol → OutputItem → OutputItem
  | .googleGemini => OutputItem.anonymous
  | _ => OutputItem.unnamed

/-- The items of a stream are those of a message, up to the ids that the bridge makes, and its events fit. -/
def AnswersAlike (env' : StreamSurroundings) (protocol : ApiProtocol) (source : UpstreamBody)
    (body : Json) : Prop :=
  ∃ events converted, protocol.read env (some source) = ⟨events, .ok converted⟩ ∧
    converted.items.map protocol.anonymize =
      (protocol.convert env' body).items.map protocol.anonymize ∧
    EventsFit events

end

/-! ## Each protocol -/

section

variable {State Payload : Type} {handler : State → SseFrame → State × Option String}
  {decode : SseFrame → Option Payload} {take : State → Payload → State × Option String}

theorem TakesPayloads.readStream_whole (takes : TakesPayloads handler decode take) {start last : State}
    {source : UpstreamBody} (whole : source.Whole)
    (read : foldUntil take start ((zero3ApiAgentStreamSse (some source)).1.filterMap decode) = (last, none)) :
    readStream handler start (some source) = (last, none) := by
  have quiet := sse_whole_iff.mpr ⟨source, rfl, whole⟩
  rw [readStream, foldUntil_filterMap takes.skipped takes.taken, read, quiet]
  rfl

end

variable {env : StreamSurroundings} (env' : StreamSurroundings) {source : UpstreamBody} {body : Json}

theorem alike_iff {protocol : ApiProtocol} {emitter : StreamEmitter} {items : List OutputItem}
    {usage : Usage} (read : protocol.read env (some source) = finishStream emitter none items usage) :
    AnswersAlike env env' protocol source body ↔
      items.map protocol.anonymize = (protocol.convert env' body).items.map protocol.anonymize ∧
        EventsFit (emitter.doneItems items).events := by
  rw [AnswersAlike, read, finishStream]
  constructor
  · rintro ⟨_, _, same, alike⟩
    cases same
    exact alike
  · exact fun alike => ⟨_, _, rfl, alike⟩

theorem openAi_streamed_iff (whole : source.Whole) {answer : OpenAiAnswer}
    (adds : ((zero3ApiAgentStreamSse (some source)).1.filterMap (openAiPayload env)).foldlM
      OpenAiAnswer.accept .empty = some answer) (message : answer.IsMessage body) :
    AnswersAlike env env' .openAiCompatible source body ↔ answer.Plain := by
  obtain ⟨stream, taken, follows⟩ := readOpenAi_follows env adds
  have read := (openAi_takes env).readStream_whole whole taken
  have emits := readOpenAi_emits env (some source)
  rw [read] at emits
  have result : ApiProtocol.openAiCompatible.read env (some source) = finishStream stream.emitter none
      (zero3ApiAgentStreamItems (String.join stream.text) (String.join stream.reasoning) stream.calls
        stream.emitter.ids) (zero3GlmResponseUsage stream.usage) := by
    show readOpenAi env (some source) = _
    rw [readOpenAi, read]
  rw [alike_iff env' result, eventsFit_iff emits.emitted, follows.text, follows.reasoning, follows.calls]
  exact openAi_agree_iff message

theorem anthropic_streamed_iff (whole : source.Whole) {blocks : List AnswerBlock}
    (adds : ((zero3ApiAgentStreamSse (some source)).1.filterMap (anthropicEvent env)).foldlM acceptEvent [] =
      some blocks) (are : List.Forall₂ (IsBlock env) blocks (records (body.get "content"))) :
    AnswersAlike env env' .anthropic source body ↔ PlainBlocks env blocks := by
  obtain ⟨stream, taken, follows⟩ := readAnthropic_follows adds
  have read := (anthropic_takes env).readStream_whole whole taken
  have emits := readAnthropic_emits env (some source)
  rw [read] at emits
  have result : ApiProtocol.anthropic.read env (some source) = finishStream stream.emitter none
      (zero3ApiAgentStreamItems (String.join stream.text) (String.join stream.reasoning) stream.calls
        stream.emitter.ids) ⟨stream.inputTokens, stream.outputTokens, none⟩ := by
    show readAnthropic env (some source) = _
    rw [readAnthropic, read]
  rw [alike_iff env' result, eventsFit_iff emits]
  exact anthropic_agree_iff env follows are

theorem gemini_streamed_iff (whole : source.Whole) (streams : Streams (geminiParts body)
      (((zero3ApiAgentStreamSse (some source)).1.filterMap (jsonPayload env)).flatMap geminiParts)) :
    AnswersAlike env env' .googleGemini source body ↔ OneText (partTexts (geminiParts body)) := by
  obtain ⟨stream, taken, follows⟩ := readGemini_follows env
    ((zero3ApiAgentStreamSse (some source)).1.filterMap (jsonPayload env))
  have read := (gemini_takes env).readStream_whole whole taken
  have emits : Emitted stream.emitter (piecesOf stream.text []) := by
    have emits := readGemini_emits env (some source)
    rw [read] at emits
    exact emits
  have result : ApiProtocol.googleGemini.read env (some source) = finishStream stream.emitter none
      (zero3ApiAgentStreamItems (String.join stream.text) "" stream.calls stream.emitter.ids)
      ⟨number? (stream.usage.get "promptTokenCount"), number? (stream.usage.get "candidatesTokenCount"),
        none⟩ := by
    show readGemini env (some source) = _
    rw [readGemini, read]
  have fits := eventsFit_iff emits stream.calls
  rw [String.join_nil] at fits
  have silent : Spoken "" := .inl rfl
  rw [alike_iff env' result, fits, and_iff_right silent]
  exact gemini_agree_iff env' follows streams

/-- **When the streamed answer is the answer.** -/
theorem streamed_iff {protocol : ApiProtocol} (whole : source.Whole)
    (streamed : StreamedAs env protocol (zero3ApiAgentStreamSse (some source)).1 body) :
    AnswersAlike env env' protocol source body ↔
      PlainAnswer env protocol (zero3ApiAgentStreamSse (some source)).1 body := by
  cases streamed with
  | openAi adds message =>
    rw [openAi_streamed_iff env' whole adds message]
    exact ⟨fun plain _ same => Option.some.inj (adds.symm.trans same) ▸ plain,
      fun plain => plain _ adds⟩
  | anthropic adds are =>
    rw [anthropic_streamed_iff env' whole adds are]
    exact ⟨fun plain _ same => Option.some.inj (adds.symm.trans same) ▸ plain,
      fun plain => plain _ adds⟩
  | gemini streams => exact gemini_streamed_iff env' whole streams

/-- A payload that says something. -/
def helloPayload : Json :=
  .object [("choices", .array [.object [("delta", .object [("content", .string "hi")])]])]

def helloMessage : Json :=
  .object [("choices", .array [.object [("message", .object [("content", .string "hi")])]])]

def helloBody : UpstreamBody := bodyOf 0 ([helloPayload].map Json.render)

theorem helloPayload_isObject : AreObjects [helloPayload] := fun _ isIn => ⟨_, List.mem_singleton.mp isIn⟩

/-- An answer that says something is answered alike. -/
theorem streamed_iff_hello :
    AnswersAlike (readerOf [helloPayload]) (readerOf []) .openAiCompatible helloBody helloMessage ↔
      PlainAnswer (readerOf [helloPayload]) .openAiCompatible (zero3ApiAgentStreamSse (some helloBody)).1
        helloMessage := by
  have decoded := openAiPayloads_bodyOf helloPayload_isObject (Nat.zero_le maxResponseBytes)
  have adds : ((zero3ApiAgentStreamSse (some helloBody)).1.filterMap
      (openAiPayload (readerOf [helloPayload]))).foldlM OpenAiAnswer.accept .empty =
        some ⟨"", "hi", []⟩ := by
    rw [helloBody, decoded]
    rfl
  exact streamed_iff (readerOf []) ⟨rfl, Nat.zero_le _⟩ (.openAi adds ⟨rfl, .inl rfl, .nil⟩)

def writeCall : Json :=
  .object [("index", .number (.ofNat 0)), ("id", .string "call-1"), ("function", .object
    [("name", .string "write"), ("arguments", .string "\x7b\x7d")])]

def blankPayload : Json :=
  .object [("choices", .array [.object [("delta", .object
    [("content", .string " "), ("tool_calls", .array [writeCall])])]])]

def blankMessage : Json :=
  .object [("choices", .array [.object [("message", .object
    [("content", .string " "), ("tool_calls", .array [writeCall])])]])]

def blankBody : UpstreamBody := bodyOf 0 ([blankPayload].map Json.render)

/-- A blank text next to a call is not answered alike. -/
theorem streamed_counterexample :
    blankBody.Whole ∧ StreamedAs (readerOf [blankPayload]) .openAiCompatible
        (zero3ApiAgentStreamSse (some blankBody)).1 blankMessage ∧
      ¬ AnswersAlike (readerOf [blankPayload]) (readerOf []) .openAiCompatible blankBody blankMessage := by
  have objects : AreObjects [blankPayload] := fun _ isIn => ⟨_, List.mem_singleton.mp isIn⟩
  have decoded := openAiPayloads_bodyOf objects (Nat.zero_le maxResponseBytes)
  have whole : blankBody.Whole := ⟨rfl, Nat.zero_le _⟩
  have adds : ((zero3ApiAgentStreamSse (some blankBody)).1.filterMap
      (openAiPayload (readerOf [blankPayload]))).foldlM OpenAiAnswer.accept .empty =
        some ⟨"", " ", [⟨0, "call-1", "write", "\x7b\x7d"⟩]⟩ := by
    rw [blankBody, decoded]
    rfl
  have message : OpenAiAnswer.IsMessage ⟨"", " ", [⟨0, "call-1", "write", "\x7b\x7d"⟩]⟩ blankMessage :=
    ⟨rfl, .inl rfl, .cons ⟨rfl, rfl, rfl⟩ .nil⟩
  refine ⟨whole, .openAi adds message, fun alike => ?_⟩
  have plain := (openAi_streamed_iff (readerOf []) whole adds message).mp alike
  have blank : ¬ Spoken " " := by decide +kernel
  exact blank plain.text

end Zero3Pilot.ProviderBridge
