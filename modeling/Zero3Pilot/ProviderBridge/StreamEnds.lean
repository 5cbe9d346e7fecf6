import Zero3Pilot.ProviderBridge.StreamRules

/-! # How a response ends

Every streamed response ends with one event that completes or fails it. It is completed only with what a
body carried that ended by itself, or with what a message was converted to; it fails when a body breaks off
or grows too long, and then no item has been handed over. Whether the frames of a body say that the answer
is over is looked at nowhere. -/

namespace Zero3Pilot.ProviderBridge

variable (env : StreamSurroundings) (profile : BridgeProfile) (body : Json)
  (answers : ProviderAnswers)

/-! ## What a response is made of -/

def ApiProtocol.read : ApiProtocol → Option UpstreamBody → StreamResult
  | .openAiCompatible => readOpenAi env
  | .anthropic => readAnthropic env
  | .googleGemini => readGemini env

/-- The conversion of the messages of a protocol. -/
def ApiProtocol.convert : ApiProtocol → Json → Converted
  | .openAiCompatible => fun payload =>
    ⟨zero3GlmResponseItems payload,
      zero3GlmResponseUsage (ScriptValue.asRecord (payload.get "usage"))⟩
  | .anthropic => zero3ApiAnthropicResponse
  | .googleGemini => zero3ApiGeminiResponse env

structure RepliedMessage (payload : Json) : Prop where
  replied : ∃ reasoningFallback status raw parsed,
    answers.message reasoningFallback = .replied true status raw ∧
    raw.utf8ByteSize ≤ maxResponseBytes ∧
    (if raw = "" then some (.object []) else env.parse raw) = some parsed ∧
    payload = ScriptValue.asRecord (some parsed)

/-- A stream that a provider answered: its body ends by itself, within the limit. It was asked for once
more only where the usage was refused. -/
structure WholeStream (whole : UpstreamBody) : Prop where
  ends : whole.Whole
  answered : answers.stream true = .answered (some whole) ∨
    profile.protocol = .openAiCompatible ∧ answers.stream false = .answered (some whole) ∧
      ∃ message, startUpstreamStream env (answers.stream true) = .error message ∧
        includes message "HTTP 400" = true

/-- What completes a response, and the events before: a stream, or a message where the provider rejects
streams before anything was emitted. -/
inductive Carried : List BridgeEvent → Converted → Prop where
  | streamed {whole : UpstreamBody} {events : List BridgeEvent} {converted : Converted}
      (stream : WholeStream env profile answers whole)
      (read : profile.protocol.read env (some whole) = ⟨events, .ok converted⟩) :
      Carried events converted
  | replied {message : String} {payload : Json}
      (opened : openStream env profile body answers = ⟨[], .error message⟩)
      (rejected : isStreamingRejected env message = true)
      (reply : RepliedMessage env answers payload) :
      Carried (burst (profile.protocol.convert env payload).items)
        (profile.protocol.convert env payload)

/-! ## Streams -/

/-- What a stream answers: no event ends the response, nothing is done unless the stream is over, and then
its body was whole. -/
structure StreamResult.Sound (result : StreamResult) (source : Option UpstreamBody) : Prop where
  unended : ∀ event ∈ result.events, event.isEnd = false
  failed : ∀ message, result.converted = .error message →
    ∀ event ∈ result.events, event.doneItem = none
  ended : ∀ converted, result.converted = .ok converted → ∃ whole, source = some whole ∧ whole.Whole

theorem isEnd_of_mem_doneEvents {emitter : StreamEmitter} {index : Nat} {items : List OutputItem} :
    ∀ event ∈ emitter.doneEvents index items, event.isEnd = false := by
  induction items generalizing index with
  | nil => exact fun _ isIn => absurd isIn List.not_mem_nil
  | cons item items ih =>
    intro event isIn
    rw [StreamEmitter.doneEvents] at isIn
    split at isIn <;> rcases List.mem_cons.mp isIn with rfl | later
    · rfl
    · exact ih event later
    · rfl
    · exact ih event later

theorem finishStream_sound {emitter : StreamEmitter} {pieces : ItemKind → List String}
    (emitted : Emitted emitter pieces) {thrown : Option String} {source : Option UpstreamBody}
    (whole : thrown = none → ∃ whole, source = some whole ∧ whole.Whole) (items : List OutputItem)
    (usage : Usage) : (finishStream emitter thrown items usage).Sound source := by
  have undone := emitted.emitting.undone
  cases thrown with
  | some message =>
    exact ⟨fun event isIn => (undone event isIn).2, fun _ _ event isIn => (undone event isIn).1,
      fun _ ok => (by cases ok)⟩
  | none =>
    refine ⟨fun event isIn => ?_, fun _ error => (by cases error), fun _ _ => whole rfl⟩
    rcases List.mem_append.mp isIn with before | last
    · exact (undone event before).2
    · exact isEnd_of_mem_doneEvents event last

theorem whole_of_readStream {State : Type} {handler : State → SseFrame → State × Option String}
    {start : State} {source : Option UpstreamBody} (quiet : (readStream handler start source).2 = none) :
    ∃ whole, source = some whole ∧ whole.Whole := by
  apply sse_whole_iff.mp
  rw [readStream] at quiet
  revert quiet
  generalize (foldUntil handler start (zero3ApiAgentStreamSse source).1).2 = handled
  intro quiet
  cases handled with
  | none => exact quiet
  | some message => cases quiet

theorem read_sound (protocol : ApiProtocol) (source : Option UpstreamBody) :
    (protocol.read env source).Sound source := by
  cases protocol with
  | openAiCompatible =>
    exact finishStream_sound (readOpenAi_emits env source).emitted whole_of_readStream _ _
  | anthropic => exact finishStream_sound (readAnthropic_emits env source) whole_of_readStream _ _
  | googleGemini => exact finishStream_sound (readGemini_emits env source) whole_of_readStream _ _

/-- What a request for a stream answers: no event ends the response, nothing is done unless it is
completed, and then it is carried. -/
structure StreamResult.Settled (result : StreamResult) : Prop where
  unended : ∀ event ∈ result.events, event.isEnd = false
  failed : ∀ message, result.converted = .error message →
    ∀ event ∈ result.events, event.doneItem = none
  carried : ∀ converted, result.converted = .ok converted →
    Carried env profile body answers result.events converted

variable {env profile body answers}

theorem settled_error (message : String) :
    StreamResult.Settled env profile body answers ⟨[], .error message⟩ where
  unended := fun _ isIn => absurd isIn List.not_mem_nil
  failed := fun _ _ _ isIn => absurd isIn List.not_mem_nil
  carried := fun _ ok => by cases ok

theorem readAnswer_settled {started : Except String (Option UpstreamBody)}
    (source : ∀ whole, started = .ok (some whole) → whole.Whole →
      WholeStream env profile answers whole) :
    StreamResult.Settled env profile body answers (readAnswer (profile.protocol.read env) started) := by
  cases started with
  | error message => exact settled_error message
  | ok upstream =>
    have sound := read_sound env profile.protocol upstream
    refine ⟨sound.unended, sound.failed, fun converted ok => ?_⟩
    obtain ⟨whole, rfl, ends⟩ := sound.ended converted ok
    exact .streamed (source whole rfl ends) (congrArg (StreamResult.mk _) ok)

theorem started_eq {answer : StreamAnswer} {upstream : Option UpstreamBody}
    (started : startUpstreamStream env answer = .ok upstream) : answer = .answered upstream := by
  cases answer with
  | unreachable message => cases started
  | refused status raw => cases started
  | answered upstream =>
    cases started
    rfl

theorem openAiStreamAnswer_whole (openAi : profile.protocol = .openAiCompatible) (whole : UpstreamBody)
    (started : openAiStreamAnswer env answers = .ok (some whole)) (ends : whole.Whole) :
    WholeStream env profile answers whole := by
  refine ⟨ends, ?_⟩
  rw [openAiStreamAnswer] at started
  split at started
  · rename_i first
    cases started
    exact .inl (started_eq first)
  · rename_i message first
    split at started
    · rename_i refused
      exact .inr ⟨openAi, started_eq started, message, first, refused⟩
    · cases started

theorem openStream_settled (env : StreamSurroundings) (profile : BridgeProfile) (body : Json)
    (answers : ProviderAnswers) :
    StreamResult.Settled env profile body answers (openStream env profile body answers) := by
  rw [openStream]
  split
  · exact settled_error _
  · split
    · rename_i protocol
      rw [streamOpenAiCompatible]
      split
      · exact settled_error _
      · have settled : StreamResult.Settled env profile body answers
            (readAnswer (profile.protocol.read env) (openAiStreamAnswer env answers)) :=
          readAnswer_settled (openAiStreamAnswer_whole protocol)
        rw [protocol] at settled
        exact settled
    · rename_i protocol
      rw [streamAnthropic]
      split
      · exact settled_error _
      · have settled : StreamResult.Settled env profile body answers
            (readAnswer (profile.protocol.read env) (startUpstreamStream env (answers.stream true))) :=
          readAnswer_settled fun whole started ends => ⟨ends, .inl (started_eq started)⟩
        rw [protocol] at settled
        exact settled
    · rename_i protocol
      rw [streamGemini]
      split
      · exact settled_error _
      · have settled : StreamResult.Settled env profile body answers
            (readAnswer (profile.protocol.read env) (startUpstreamStream env (answers.stream true))) :=
          readAnswer_settled fun whole started ends => ⟨ends, .inl (started_eq started)⟩
        rw [protocol] at settled
        exact settled

/-! ## Messages and the fallback -/

theorem replied_of_json {reasoningFallback : Bool} {payload : Json}
    (read : upstreamJson env (answers.message reasoningFallback) = .ok payload) :
    RepliedMessage env answers payload := by
  rcases replied : answers.message reasoningFallback with message | ⟨ok, status, raw⟩
  · rw [replied] at read
    cases read
  · rw [replied, upstreamJson] at read
    split at read
    · cases read
    · rename_i small
      split at read
      · cases read
      · rename_i parsed json
        cases ok with
        | true =>
          obtain rfl := Except.ok.inj read
          exact ⟨_, status, raw, parsed, replied, Nat.le_of_not_lt small, json, rfl⟩
        | false => cases read

theorem replied_of_request {reasoningFallback : Bool} {payload : Json}
    (read : requestMessage env body answers reasoningFallback = .ok payload) :
    RepliedMessage env answers payload := by
  rw [requestMessage] at read
  split at read
  · cases read
  · exact replied_of_json read

theorem ok_of_map {Error Value Result : Type} {answer : Except Error Value} {convert : Value → Result}
    {result : Result} (mapped : answer.map convert = .ok result) :
    ∃ value, answer = .ok value ∧ convert value = result := by
  cases answer with
  | error message => cases mapped
  | ok value => exact ⟨value, rfl, Except.ok.inj mapped⟩

theorem fetchUpstream_replied {converted : Converted}
    (fetched : fetchUpstream env profile body answers = .ok converted) :
    ∃ payload, RepliedMessage env answers payload ∧ converted = profile.protocol.convert env payload := by
  rw [fetchUpstream] at fetched
  split at fetched
  · cases fetched
  · split at fetched
    · rename_i protocol
      obtain ⟨payload, read, rfl⟩ := ok_of_map fetched
      rw [protocol]
      refine ⟨payload, ?_, rfl⟩
      split at read
      · rename_i first
        cases read
        exact replied_of_request first
      · split at read
        · exact replied_of_request read
        · cases read
    · rename_i protocol
      rw [fetchAnthropic] at fetched
      split at fetched
      · cases fetched
      · obtain ⟨payload, read, rfl⟩ := ok_of_map fetched
        rw [protocol]
        exact ⟨payload, replied_of_json read, rfl⟩
    · rename_i protocol
      rw [fetchGemini] at fetched
      split at fetched
      · cases fetched
      · obtain ⟨payload, read, rfl⟩ := ok_of_map fetched
        rw [protocol]
        exact ⟨payload, replied_of_json read, rfl⟩

theorem isEnd_of_mem_burst {items : List OutputItem} {event : BridgeEvent}
    (isIn : event ∈ burst items) : event.isEnd = false := by
  obtain ⟨_, _, rfl⟩ := List.mem_map.mp isIn
  rfl

theorem streamUpstream_settled (env : StreamSurroundings) (profile : BridgeProfile) (body : Json)
    (answers : ProviderAnswers) :
    StreamResult.Settled env profile body answers (streamUpstream env profile body answers) := by
  have opened := openStream_settled env profile body answers
  rw [streamUpstream]
  split
  · exact opened
  · rename_i message failed
    split
    · exact opened
    · rename_i fallback
      obtain ⟨silent, rejected⟩ := not_or.mp fallback
      have nothing : openStream env profile body answers = ⟨[], .error message⟩ := by
        rw [← failed]
        simp only [Bool.not_eq_false, List.isEmpty_iff] at silent
        rw [← silent]
      split
      · rename_i converted fetched
        refine ⟨fun _ isIn => isEnd_of_mem_burst isIn, fun _ error => (by cases error), fun _ ok => ?_⟩
        obtain ⟨payload, replied, rfl⟩ := fetchUpstream_replied fetched
        obtain rfl := Except.ok.inj ok
        exact .replied nothing (Bool.not_eq_false _ ▸ rejected) replied
      · exact settled_error _

/-! ## Responses -/

variable (env profile answers) (request : Except String Json)

structure EndsProperly (response : BridgeResponse) : Prop where
  message : ∀ converted, response = .message converted →
    ∃ payload, RepliedMessage env answers payload ∧ converted = profile.protocol.convert env payload
  events : ∀ events, response = .events events →
    ∃ front last, events = .created :: front ++ [last] ∧ (∀ event ∈ front, event.isEnd = false) ∧
      ((∃ body converted, request = .ok body ∧ last = .completed converted ∧
          Carried env profile body answers front converted) ∨
        ∃ message, last = .failed message ∧ ∀ event ∈ front, event.doneItem = none)

def asksForStream : Prop :=
  ∃ body, request = .ok body ∧ ScriptValue.isTrue (body.get "stream") = true

/-- **How responses end.** -/
theorem response_ends :
    EndsProperly env profile answers request (handle env profile answers request) ∧
      (asksForStream request → ∃ events, handle env profile answers request = .events events) := by
  cases request with
  | error message =>
    refine ⟨⟨fun _ same => (by cases same), fun _ same => (by cases same)⟩, fun asks => ?_⟩
    obtain ⟨_, same, _⟩ := asks
    cases same
  | ok body =>
    have settled := streamUpstream_settled env profile body answers
    by_cases plain : ScriptValue.isTrue (body.get "stream") = false
    · refine ⟨?_, fun asks => ?_⟩
      · simp only [handle, if_pos plain]
        rcases fetched : fetchUpstream env profile body answers with message | converted
        · exact ⟨fun _ same => (by cases same), fun _ same => (by cases same)⟩
        · refine ⟨fun _ same => ?_, fun _ same => (by cases same)⟩
          obtain rfl := BridgeResponse.message.inj same
          exact fetchUpstream_replied fetched
      · obtain ⟨_, same, asked⟩ := asks
        obtain rfl := Except.ok.inj same
        rw [plain] at asked
        cases asked
    · simp only [handle, if_neg plain]
      rcases result : (streamUpstream env profile body answers).converted with message | converted
      · refine ⟨⟨fun _ same => (by cases same), fun events same => ?_⟩, fun _ => ⟨_, rfl⟩⟩
        obtain rfl := BridgeResponse.events.inj same
        exact ⟨_, _, rfl, settled.unended, .inr ⟨_, rfl, settled.failed message result⟩⟩
      · refine ⟨⟨fun _ same => (by cases same), fun events same => ?_⟩, fun _ => ⟨_, rfl⟩⟩
        obtain rfl := BridgeResponse.events.inj same
        exact ⟨_, _, rfl, settled.unended, .inl ⟨body, _, rfl, rfl, settled.carried converted result⟩⟩

def finishReason (payload : Json) : Option String :=
  ScriptValue.text? ((firstRecord (payload.get "choices")).get "finish_reason")

/-- A piece of a call whose arguments are not over. -/
def halfCall : Json :=
  .object [("choices", .array [.object [("delta", .object [("tool_calls", .array [.object
    [("index", .number (.ofNat 0)), ("id", .string "call-1"), ("function", .object
      [("name", .string "write"), ("arguments", .string "\x7b\"path\":")])]])])]])]

/-- A body that stops after the piece. -/
def halfBody : UpstreamBody := bodyOf 0 ([halfCall].map Json.render)

def halfAnswers : ProviderAnswers where
  stream := fun _ => .answered (some halfBody)
  message := fun _ => .unreachable "offline"

def streamRequest : Json :=
  .object [("model", .string "m"), ("instructions", .string "help"), ("stream", .bool true)]

/-- A profile without a key. -/
def openAiProfile : BridgeProfile := ⟨.openAiCompatible, none⟩

theorem halfCall_isObject : AreObjects [halfCall] :=
  fun _ isIn => ⟨_, List.mem_singleton.mp isIn⟩

theorem readOpenAi_half : (readOpenAi (readerOf [halfCall]) (some halfBody)).converted =
    .ok ⟨[.functionCall "call-1" "write" "\x7b\"path\":"], ⟨none, none, none⟩⟩ := by
  rw [readOpenAi, halfBody, (openAi_takes _).readStream_bodyOf (Nat.zero_le _),
    openAiPayloads_readerOf halfCall_isObject]
  rfl

/-- A stream that stops in the middle of a call completes its response with the call. -/
theorem response_ends_counterexample : ∃ events converted,
    handle (readerOf [halfCall]) openAiProfile halfAnswers (.ok streamRequest) =
        .events (events ++ [.completed converted]) ∧
      .functionCall "call-1" "write" "\x7b\"path\":" ∈ converted.items ∧
      ∀ frame ∈ (zero3ApiAgentStreamSse (some halfBody)).1, ∀ payload,
        openAiPayload (readerOf [halfCall]) frame = some payload → finishReason payload = none := by
  have named : namesModel streamRequest = true := by decide +kernel
  have messages : zero3GlmMessages (streamRequest.get "input") (streamRequest.get "instructions") false ≠
      [] := by decide +kernel
  have answered : openAiStreamAnswer (readerOf [halfCall]) halfAnswers = .ok (some halfBody) := rfl
  have opened : streamUpstream (readerOf [halfCall]) openAiProfile streamRequest halfAnswers =
      readOpenAi (readerOf [halfCall]) (some halfBody) := by
    have started : openStream (readerOf [halfCall]) openAiProfile streamRequest halfAnswers =
        readOpenAi (readerOf [halfCall]) (some halfBody) := by
      simp only [openStream, named, Bool.true_eq_false, if_false, openAiProfile, streamOpenAiCompatible,
        messages, answered, readAnswer]
    simp only [streamUpstream, started, readOpenAi_half]
  refine ⟨.created :: (readOpenAi (readerOf [halfCall]) (some halfBody)).events,
    ⟨[.functionCall "call-1" "write" "\x7b\"path\":"], ⟨none, none, none⟩⟩, ?_,
    List.mem_singleton_self _, ?_⟩
  · have asks : ScriptValue.isTrue (streamRequest.get "stream") = true := rfl
    simp only [handle, asks, Bool.true_eq_false, if_false, opened, readOpenAi_half]
  · intro frame isIn payload decoded
    have listed : payload ∈ (zero3ApiAgentStreamSse (some halfBody)).1.filterMap
        (openAiPayload (readerOf [halfCall])) := List.mem_filterMap.mpr ⟨frame, isIn, decoded⟩
    rw [halfBody, openAiPayloads_bodyOf halfCall_isObject (Nat.zero_le _), List.mem_singleton] at listed
    rw [listed]
    rfl

end Zero3Pilot.ProviderBridge
