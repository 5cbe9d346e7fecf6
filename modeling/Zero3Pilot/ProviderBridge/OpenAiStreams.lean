import Zero3Pilot.ProviderBridge.StreamedParts

/-! # Streams of OpenAI-compatible providers

The deltas of a stream add up to a message: its reasoning and text are the pieces one after the other, and
the call of an index has the first id and name that its pieces give and the arguments of all of them, however
the pieces of several calls are mixed. -/

namespace Zero3Pilot.ProviderBridge

/-! ## What deltas add up to -/

def deltaOf (payload : Json) : Json :=
  ScriptValue.asRecord ((firstRecord (payload.get "choices")).get "delta")

def toolDeltas (payload : Json) : List Json := records ((deltaOf payload).get "tool_calls")

structure ToolPiece where
  index : Nat
  (id name arguments : String)

def toolPiece (toolDelta : Json) : Option ToolPiece :=
  match toolDelta.get "index" with
  | some (.number literal) =>
    match literal.toInt? with
    | some (.ofNat index) =>
      let function := ScriptValue.asRecord (toolDelta.get "function")
      some ⟨index, textOf (toolDelta.get "id"), textOf (function.get "name"),
        textOf (function.get "arguments")⟩
    | _ => none
  | _ => none

def firstText (texts : List String) : String := (texts.find? (· ≠ "")).getD ""

def callAt (pieces : List ToolPiece) (index : Nat) : CallDraft :=
  let own := pieces.filter fun piece => piece.index = index
  ⟨firstText (own.map ToolPiece.id), firstText (own.map ToolPiece.name),
    String.join (own.map ToolPiece.arguments)⟩

/-- The number of calls that pieces are for. -/
def extent (pieces : List ToolPiece) : Nat :=
  pieces.foldl (fun count piece => max count (piece.index + 1)) 0

def callsOf (pieces : List ToolPiece) : List CallDraft := (List.range (extent pieces)).map (callAt pieces)

/-- What deltas have added up to. -/
structure OpenAiAnswer where
  (reasoning text : String)
  pieces : List ToolPiece

namespace OpenAiAnswer

/-- Nothing has been said. -/
def empty : OpenAiAnswer := ⟨"", "", []⟩

def accept (answer : OpenAiAnswer) (payload : Json) : Option OpenAiAnswer :=
  ((toolDeltas payload).mapM toolPiece).map fun pieces =>
    { reasoning := answer.reasoning ++ textOf ((deltaOf payload).get "reasoning_content")
      text := answer.text ++ textOf ((deltaOf payload).get "content")
      pieces := answer.pieces ++ pieces }

structure IsCall (toolCall : Json) (call : CallDraft) : Prop where
  id : textOf (toolCall.get "id") = call.id
  name : textOf ((ScriptValue.asRecord (toolCall.get "function")).get "name") = call.name
  arguments : ScriptValue.text? ((ScriptValue.asRecord (toolCall.get "function")).get "arguments") =
    some call.arguments

def messageOf (body : Json) : Json :=
  ScriptValue.asRecord ((firstRecord (body.get "choices")).get "message")

structure IsMessage (answer : OpenAiAnswer) (body : Json) : Prop where
  reasoning : textOf ((messageOf body).get "reasoning_content") = answer.reasoning
  text : (messageOf body).get "content" = some (.string answer.text) ∨
    ScriptValue.isNullish ((messageOf body).get "content") = true ∧ answer.text = ""
  calls : List.Forall₂ IsCall (records ((messageOf body).get "tool_calls")) (callsOf answer.pieces)

end OpenAiAnswer

/-! ## Calls that are read -/

theorem firstText_concat (texts : List String) (text : String) :
    firstText (texts ++ [text]) = if firstText texts = "" then text else firstText texts := by
  rw [firstText, List.find?_append, firstText]
  cases found : texts.find? (· ≠ "") with
  | some first =>
    have some : first ≠ "" := by simpa using List.find?_some found
    simp [some]
  | none => by_cases none : text = "" <;> simp [none]

theorem callAt_concat (pieces : List ToolPiece) (piece : ToolPiece) (index : Nat) :
    callAt (pieces ++ [piece]) index =
      if piece.index = index then
        { id := if (callAt pieces index).id = "" then piece.id else (callAt pieces index).id
          name := if (callAt pieces index).name = "" then piece.name else (callAt pieces index).name
          arguments := (callAt pieces index).arguments ++ piece.arguments }
      else callAt pieces index := by
  by_cases own : piece.index = index
  · have filtered : (pieces ++ [piece]).filter (fun piece => piece.index = index) =
        pieces.filter (fun piece => piece.index = index) ++ [piece] := by
      simp [List.filter_append, own]
    rw [if_pos own]
    simp only [callAt, filtered, List.map_append, List.map_cons, List.map_nil, firstText_concat]
    congr 1
    simp
  · have filtered : (pieces ++ [piece]).filter (fun piece => piece.index = index) =
        pieces.filter (fun piece => piece.index = index) := by
      simp [List.filter_append, own]
    rw [if_neg own, callAt, filtered, callAt]

theorem extent_concat (pieces : List ToolPiece) (piece : ToolPiece) :
    extent (pieces ++ [piece]) = max (extent pieces) (piece.index + 1) := by
  rw [extent, List.foldl_append]
  rfl

theorem index_lt_extent {pieces : List ToolPiece} : ∀ piece ∈ pieces, piece.index < extent pieces := by
  induction pieces using List.reverseRecOn with
  | nil => exact fun _ isIn => absurd isIn List.not_mem_nil
  | append_singleton pieces last ih =>
    intro piece isIn
    rw [extent_concat]
    rcases List.mem_append.mp isIn with before | one
    · have := ih piece before
      omega
    · rw [List.mem_singleton.mp one]
      omega

theorem callAt_of_extent_le {pieces : List ToolPiece} {index : Nat} (beyond : extent pieces ≤ index) :
    callAt pieces index = ⟨"", "", ""⟩ := by
  have none : pieces.filter (fun piece => piece.index = index) = [] := by
    rw [List.filter_eq_nil_iff]
    intro piece isIn same
    have := index_lt_extent piece isIn
    have := of_decide_eq_true same
    omega
  rw [callAt, none]
  rfl

theorem getElem?_callsOf (pieces : List ToolPiece) (index : Nat) :
    (callsOf pieces)[index]? = if index < extent pieces then some (callAt pieces index) else none := by
  rw [callsOf, List.getElem?_map]
  by_cases inside : index < extent pieces
  · rw [if_pos inside, List.getElem?_range inside]
    rfl
  · rw [if_neg inside, List.getElem?_eq_none (by simpa using inside)]
    rfl

theorem length_callsOf (pieces : List ToolPiece) : (callsOf pieces).length = extent pieces := by
  simp [callsOf]

variable (env : StreamSurroundings)

theorem getElem?_padCalls (pieces : List ToolPiece) (index at_ : Nat) :
    (padCalls (callsOf pieces) index)[at_]? =
      if at_ < max (extent pieces) (index + 1) then some (callAt pieces at_) else none := by
  have count : ((index : Int) + 1).toNat - (callsOf pieces).length = index + 1 - extent pieces := by
    rw [length_callsOf]
    omega
  rw [padCalls, count, List.getElem?_append, length_callsOf, getElem?_callsOf, List.getElem?_replicate]
  by_cases inside : at_ < extent pieces
  · rw [if_pos inside, if_pos inside, if_pos (by omega)]
  · rw [if_neg inside, callAt_of_extent_le (Nat.le_of_not_lt inside)]
    by_cases padded : at_ - extent pieces < index + 1 - extent pieces
    · rw [if_pos padded, if_pos (by omega)]
    · rw [if_neg padded, if_neg (by omega)]

theorem takeToolDelta_eq {toolDelta : Json} {piece : ToolPiece} (is : toolPiece toolDelta = some piece)
    (pieces : List ToolPiece) :
    takeToolDelta env (callsOf pieces) toolDelta = (callsOf (pieces ++ [piece]), none) := by
  rw [toolPiece] at is
  split at is
  · rename_i literal numbered
    split at is
    · rename_i index counted
      obtain rfl := Option.some.inj is
      have natural : (0 : Int) ≤ Int.ofNat index := Int.natCast_nonneg index
      rw [takeToolDelta, numbered]
      simp only [counted, if_pos natural]
      refine Prod.ext (List.ext_getElem? fun at_ => ?_) rfl
      show ((padCalls (callsOf pieces) (index : Int)).modify index (addToolDelta toolDelta))[at_]? = _
      rw [List.getElem?_modify, getElem?_padCalls, getElem?_callsOf, extent_concat, callAt_concat]
      by_cases inside : at_ < max (extent pieces) (index + 1)
      · rw [if_pos inside, if_pos inside]
        by_cases own : index = at_
        · simp only [own, if_true]
          rfl
        · simp only [own, if_false]
          rfl
      · rw [if_neg inside, if_neg inside]
        split <;> rfl
    · cases is
  · cases is

theorem takeToolDeltas_eq {toolDeltas : List Json} {added : List ToolPiece}
    (are : toolDeltas.mapM toolPiece = some added) (pieces : List ToolPiece) :
    foldUntil (takeToolDelta env) (callsOf pieces) toolDeltas = (callsOf (pieces ++ added), none) := by
  induction toolDeltas generalizing added pieces with
  | nil =>
    have none : added = [] := by simpa using are.symm
    rw [none, List.append_nil, foldUntil_nil]
  | cons toolDelta toolDeltas ih =>
    rw [List.mapM_cons] at are
    obtain ⟨piece, is, rest⟩ := Option.bind_eq_some_iff.mp are
    obtain ⟨later, arelater, same⟩ := Option.bind_eq_some_iff.mp rest
    obtain rfl := Option.some.inj same
    rw [foldUntil_cons_ok (takeToolDelta_eq env is pieces), ih arelater, List.append_assoc,
      List.singleton_append]

/-! ## The reading of a stream -/

/-- A stream has read what its deltas add up to. -/
structure OpenAiStream.Follows (answer : OpenAiAnswer) (stream : OpenAiStream) : Prop where
  reasoning : String.join stream.reasoning = answer.reasoning
  text : String.join stream.text = answer.text
  calls : stream.calls = callsOf answer.pieces

namespace OpenAiStream

section

variable (stream : OpenAiStream)
include stream

theorem join_takeReasoning (delta : String) :
    String.join (stream.takeReasoning delta).reasoning = String.join stream.reasoning ++ delta := by
  rw [OpenAiStream.takeReasoning]
  split
  · rename_i none
    rw [none, String.append_empty]
  · show String.join (_ ++ [delta]) = _
    rw [String.join_append, String.join_cons, String.join_nil, String.append_empty]

theorem join_takeText (delta : String) :
    String.join (stream.takeText delta).text = String.join stream.text ++ delta := by
  rw [OpenAiStream.takeText]
  split
  · rename_i none
    rw [none, String.append_empty]
  · show String.join (_ ++ [delta]) = _
    rw [String.join_append, String.join_cons, String.join_nil, String.append_empty]

theorem takeUsage_keeps (payload : Json) : (stream.takeUsage payload).reasoning = stream.reasoning ∧
      (stream.takeUsage payload).text = stream.text ∧
      (stream.takeUsage payload).calls = stream.calls := by
  rw [OpenAiStream.takeUsage]
  split <;> exact ⟨rfl, rfl, rfl⟩

theorem takeReasoning_keeps (delta : String) : (stream.takeReasoning delta).text = stream.text ∧
      (stream.takeReasoning delta).calls = stream.calls := by
  rw [OpenAiStream.takeReasoning]
  split <;> exact ⟨rfl, rfl⟩

theorem takeText_keeps (delta : String) : (stream.takeText delta).reasoning = stream.reasoning ∧
      (stream.takeText delta).calls = stream.calls := by
  rw [OpenAiStream.takeText]
  split <;> exact ⟨rfl, rfl⟩

end

end OpenAiStream

theorem takeOpenAiPayload_follows {answer later : OpenAiAnswer} {stream : OpenAiStream} {payload : Json}
    (follows : stream.Follows answer) (accepted : answer.accept payload = some later) :
    ∃ next, takeOpenAiPayload env stream payload = (next, none) ∧ next.Follows later := by
  obtain ⟨added, are, rfl⟩ := Option.map_eq_some_iff.mp accepted
  let used := stream.takeUsage payload
  let reasoned := used.takeReasoning (textOf ((deltaOf payload).get "reasoning_content"))
  let read := reasoned.takeText (textOf ((deltaOf payload).get "content"))
  have usage := stream.takeUsage_keeps payload
  have reasoning := used.takeReasoning_keeps (textOf ((deltaOf payload).get "reasoning_content"))
  have text := reasoned.takeText_keeps (textOf ((deltaOf payload).get "content"))
  have calls : read.calls = callsOf answer.pieces := by
    rw [text.2, reasoning.2, usage.2.2, follows.calls]
  have tools : foldUntil (takeToolDelta env) read.calls (toolDeltas payload) =
      (callsOf (answer.pieces ++ added), none) := by
    rw [calls, takeToolDeltas_eq env are]
  refine ⟨{ read with calls := callsOf (answer.pieces ++ added) }, ?_, ?_⟩
  · show ({ read with calls := (foldUntil (takeToolDelta env) read.calls (toolDeltas payload)).1 },
      (foldUntil (takeToolDelta env) read.calls (toolDeltas payload)).2) = _
    rw [tools]
  · refine ⟨?_, ?_, rfl⟩
    · show String.join read.reasoning = _
      rw [text.1, OpenAiStream.join_takeReasoning, usage.1, follows.reasoning]
    · show String.join read.text = _
      rw [OpenAiStream.join_takeText, reasoning.1, usage.2.1, follows.text]

/-- **A stream is read to what its deltas add up to.** -/
theorem readOpenAi_follows {payloads : List Json} {answer : OpenAiAnswer}
    (accepted : payloads.foldlM OpenAiAnswer.accept .empty = some answer) :
    ∃ stream, foldUntil (takeOpenAiPayload env) .start payloads = (stream, none) ∧
      stream.Follows answer :=
  foldUntil_simulates (fun _ _ _ _ => takeOpenAiPayload_follows env) accepted ⟨rfl, rfl, rfl⟩

/-! ## The items of the message -/

def CallDraft.isSent (call : CallDraft) : Prop := call.name ≠ "" ∧ call.id ≠ ""

/-- The parts of an answer are passed on as they are: the reasoning has no blanks around it, the text is empty
or not blank, and no call that is sent has empty arguments. -/
structure OpenAiAnswer.Plain (answer : OpenAiAnswer) : Prop where
  reasoning : scriptTrim answer.reasoning = answer.reasoning
  text : Spoken answer.text
  calls : ∀ call ∈ callsOf answer.pieces, call.isSent → call.arguments ≠ ""

def CallDraft.sent (call : CallDraft) : Option OutputItem :=
  if call.name = "" ∨ call.id = "" then none else some call.item

def CallDraft.sentStreamed (call : CallDraft) : Option OutputItem :=
  if call.name = "" ∨ call.id = "" then none
  else some (.functionCall call.id call.name (if call.arguments = "" then "\x7b\x7d" else call.arguments))

theorem streamCallItems_eq (calls : List CallDraft) :
    streamCallItems calls = calls.filterMap CallDraft.sentStreamed := by
  induction calls with
  | nil => rfl
  | cons call calls ih =>
    rw [streamCallItems] at ih ⊢
    by_cases sent : call.name = "" ∨ call.id = ""
    · have skipped : call.sentStreamed = none := by rw [CallDraft.sentStreamed, if_pos sent]
      rw [List.filterMap_cons_none skipped, List.filter_cons_of_neg, ih]
      simpa [or_iff_not_imp_left] using sent
    · have kept : call.sentStreamed = some (.functionCall call.id call.name
          (if call.arguments = "" then "\x7b\x7d" else call.arguments)) := by
        rw [CallDraft.sentStreamed, if_neg sent]
      rw [List.filterMap_cons_some kept, List.filter_cons_of_pos, List.map_cons, ih]
      simpa [not_or] using sent

theorem glmResponseCall_eq {toolCall : Json} {call : CallDraft} (is : OpenAiAnswer.IsCall toolCall call) :
    glmResponseCall toolCall = call.sent := by
  simp only [glmResponseCall, is.id, is.name, is.arguments, CallDraft.sent, CallDraft.item,
    Option.getD_some]

theorem glmResponseCalls_eq {toolCalls : List Json} {calls : List CallDraft}
    (are : List.Forall₂ OpenAiAnswer.IsCall toolCalls calls) :
    toolCalls.filterMap glmResponseCall = calls.filterMap CallDraft.sent := by
  induction are with
  | nil => rfl
  | cons is _ ih => rw [List.filterMap_cons, List.filterMap_cons, glmResponseCall_eq is, ih]

theorem isPart_sent (calls : List CallDraft) : IsPart 2 (calls.filterMap CallDraft.sent) := by
  intro item isIn
  obtain ⟨call, _, sent⟩ := List.mem_filterMap.mp isIn
  rw [CallDraft.sent] at sent
  split at sent
  · cases sent
  · obtain rfl := Option.some.inj sent
    rfl

theorem sent_alike_iff {calls : List CallDraft} :
    calls.filterMap CallDraft.sentStreamed = calls.filterMap CallDraft.sent ↔
      ∀ call ∈ calls, call.isSent → call.arguments ≠ "" := by
  have fewer : ∀ call ∈ calls, call.sent = none → call.sentStreamed = none := by
    intro call _ none
    rw [CallDraft.sent] at none
    rw [CallDraft.sentStreamed]
    split at none
    · rename_i unsent
      rw [if_pos unsent]
    · cases none
  rw [filterMap_eq_filterMap_iff fewer]
  refine forall₂_congr fun call _ => ?_
  rw [CallDraft.sentStreamed, CallDraft.sent, CallDraft.isSent]
  by_cases unsent : call.name = "" ∨ call.id = ""
  · rw [if_pos unsent, if_pos unsent]
    simp only [true_iff]
    exact fun sent => absurd unsent (not_or.mpr sent)
  · rw [if_neg unsent, if_neg unsent]
    have sent := not_or.mp unsent
    by_cases none : call.arguments = ""
    · simp [none, CallDraft.item, sent.1, sent.2]
    · simp [none, CallDraft.item]

theorem zero3GlmResponseItems_eq {answer : OpenAiAnswer} {body : Json} (message : answer.IsMessage body) :
    (zero3GlmResponseItems body).map OutputItem.unnamed =
      reasoningPart (scriptTrim answer.reasoning) ++
        (if answer.text = "" then [] else [.message none answer.text]) ++
        (callsOf answer.pieces).filterMap CallDraft.sent := by
  have text : zero3GlmText ((OpenAiAnswer.messageOf body).get "content") = answer.text := by
    rcases message.text with given | ⟨nullish, none⟩
    · rw [given]
      rfl
    · rw [none]
      revert nullish
      generalize (OpenAiAnswer.messageOf body).get "content" = content
      intro nullish
      rcases content with _ | _ <;> first | rfl | (rename_i value; cases value <;> first | rfl | cases nullish)
  have calls : ((callsOf answer.pieces).filterMap CallDraft.sent).map OutputItem.unnamed =
      (callsOf answer.pieces).filterMap CallDraft.sent := by
    exact unnamed_calls (isPart_sent _)
  have reasoning : ((if scriptTrim answer.reasoning = "" then []
      else [.reasoning none (scriptTrim answer.reasoning)]) : List OutputItem) =
        reasoningPart (scriptTrim answer.reasoning) := by
    rw [reasoningPart, scriptTrim_scriptTrim]
  have items : zero3GlmResponseItems body = (if scriptTrim answer.reasoning = "" then []
        else [.reasoning none (scriptTrim answer.reasoning)]) ++
      (if answer.text = "" then [] else [.message none answer.text]) ++
      (callsOf answer.pieces).filterMap CallDraft.sent := by
    rw [← text, ← message.reasoning, ← glmResponseCalls_eq message.calls]
    rfl
  rw [items, List.map_append, List.map_append, calls, reasoning, unnamed_reasoning]
  by_cases silent : answer.text = ""
  · rw [if_pos silent, List.map_nil]
  · rw [if_neg silent, List.map_cons, List.map_nil, OutputItem.unnamed]

/-- **When the items of a stream are those of the message, and its reasoning and text say something.** -/
theorem openAi_agree_iff {answer : OpenAiAnswer} {body : Json} (message : answer.IsMessage body)
    {ids : StreamIds} :
    (zero3ApiAgentStreamItems answer.text answer.reasoning (callsOf answer.pieces) ids).map
          OutputItem.unnamed = (zero3GlmResponseItems body).map OutputItem.unnamed ∧
        Spoken answer.reasoning ∧ Spoken answer.text ↔ answer.Plain := by
  have isText : IsPart 1 (if answer.text = "" then [] else [.message none answer.text]) := by
    split <;> simp [IsPart, OutputItem.part]
  have text : (textPart answer.text = if answer.text = "" then [] else [.message none answer.text]) ↔
      Spoken answer.text := by
    rw [textPart, Spoken]
    by_cases blank : scriptTrim answer.text = "" <;> by_cases none : answer.text = "" <;>
      simp [blank, none, scriptTrim_empty]
  have calls := @sent_alike_iff (callsOf answer.pieces)
  rw [← streamCallItems_eq] at calls
  rw [streamItems_unnamed, zero3GlmResponseItems_eq message,
    parts_eq_iff (isPart_reasoning _) (isPart_reasoning _) (isPart_text _) isText (isPart_streamCalls _)
      (isPart_sent _), text, calls, reasoningPart_eq_iff, scriptTrim_scriptTrim]
  constructor
  · rintro ⟨⟨⟨_, trimmed⟩, _, sent⟩, thought, spoke⟩
    refine ⟨?_, spoke, sent⟩
    rcases thought with none | some
    · rw [none, scriptTrim_empty]
    · exact (trimmed some).symm
  · rintro ⟨trimmed, spoke, sent⟩
    refine ⟨⟨⟨Iff.rfl, fun _ => trimmed.symm⟩, spoke, sent⟩, ?_, spoke⟩
    rw [Spoken, trimmed]
    exact em _

end Zero3Pilot.ProviderBridge
