import Zero3Pilot.ProviderBridge.StreamedParts

/-! # Streams of Gemini

A stream carries the parts of the message piece by piece: a text part in any number of pieces, a call part as
it is. The ids of the calls are made when they are read. -/

namespace Zero3Pilot.ProviderBridge

/-! ## Parts and their pieces -/

def geminiParts (payload : Json) : List Json :=
  records ((ScriptValue.asRecord ((firstRecord (payload.get "candidates")).get "content")).get "parts")

structure IsTextPart (part : Json) (text : String) : Prop where
  text : ScriptValue.text? (part.get "text") = some text
  call : part.get "functionCall" = none

def IsOtherPart (part : Json) : Prop := ScriptValue.text? (part.get "text") = none

inductive Streams : List Json → List Json → Prop where
  | nil : Streams [] []
  | text {part : Json} {text : String} {pieces : List (Json × String)} {parts streamed : List Json}
      (isText : IsTextPart part text) (areTexts : ∀ piece ∈ pieces, IsTextPart piece.1 piece.2)
      (joined : String.join (pieces.map Prod.snd) = text) (rest : Streams parts streamed) :
      Streams (part :: parts) (pieces.map Prod.fst ++ streamed)
  | other {part piece : Json} {parts streamed : List Json} (isOther : IsOtherPart part)
      (pieceIsOther : IsOtherPart piece) (sameCall : piece.get "functionCall" = part.get "functionCall")
      (rest : Streams parts streamed) : Streams (part :: parts) (piece :: streamed)

def partTexts (parts : List Json) : List String := parts.filterMap fun part => ScriptValue.text? (part.get "text")

/-- An item without the ids that the bridge makes: its own, and those of Gemini calls. -/
def OutputItem.anonymous : OutputItem → OutputItem
  | .functionCall _ name arguments => .functionCall "" name arguments
  | item => item.unnamed

def partCall (part : Json) : Option (String × String) :=
  let functionCall := ScriptValue.asRecord (part.get "functionCall")
  match ScriptValue.text? (functionCall.get "name") with
  | some name =>
    if scriptTrim name = "" then none
    else some (name, String.ofList (orEmpty (functionCall.get "args")).render)
  | none => none

variable (env : StreamSurroundings)

theorem geminiCall_eq (part : Json) (count : Nat) :
    geminiCall env part count = (partCall part).map fun call =>
      ⟨s!"gemini-call-{env.clock count}-{count}", call.1, call.2⟩ := by
  rw [geminiCall, partCall]
  rcases ScriptValue.text? ((ScriptValue.asRecord (part.get "functionCall")).get "name") with _ | name
  · rfl
  · by_cases blank : scriptTrim name = ""
    · simp only [if_pos blank, Option.map_none]
    · simp only [if_neg blank, Option.map_some]

def CallDraft.said (call : CallDraft) : String × String := (call.name, call.arguments)

theorem said_geminiCall (part : Json) (count : Nat) :
    (geminiCall env part count).toList.map CallDraft.said = (partCall part).toList := by
  rw [geminiCall_eq]
  cases partCall part <;> rfl

def CallDraft.Made (call : CallDraft) : Prop := call.id ≠ "" ∧ call.name ≠ "" ∧ call.arguments ≠ ""

theorem render_ne_empty (tree : Json) : String.ofList tree.render ≠ "" := by
  intro isEmpty
  have nothing : tree.render = [] := by
    rw [← String.toList_inj, String.toList_ofList, String.toList_empty] at isEmpty
    exact isEmpty
  exact Json.render_ne_bracket tree [] [']'] (by rw [nothing]; rfl)

theorem made_geminiCall {part : Json} {count : Nat} {call : CallDraft}
    (isCall : call ∈ (geminiCall env part count).toList) : call.Made := by
  rw [geminiCall_eq, Option.mem_toList, Option.map_eq_some_iff] at isCall
  obtain ⟨said, isSaid, rfl⟩ := isCall
  rw [partCall] at isSaid
  split at isSaid
  · split at isSaid
    · cases isSaid
    · rename_i name _ named
      obtain rfl := Option.some.inj isSaid
      refine ⟨?_, ?_, render_ne_empty _⟩
      · intro none
        have first := congrArg (fun text => text.toList.length) none
        simp [String.toList_append] at first
      · rintro rfl
        exact named scriptTrim_empty
  · cases isSaid

/-! ## The message -/

theorem geminiCalls_said (parts : List Json) :
    (geminiCalls env parts).map CallDraft.said = parts.filterMap partCall := by
  have gathered : (geminiCalls env parts).map CallDraft.said =
      [].map CallDraft.said ++ parts.flatMap fun part => (partCall part).toList :=
    foldl_gathers (fun calls : List CallDraft => calls.map CallDraft.said)
      (fun part => (partCall part).toList)
      (fun calls part => by rw [List.map_append, said_geminiCall]) [] parts
  rw [gathered, List.filterMap_eq_flatMap_toList]
  rfl

/-! ## The reading of a stream -/

def pieceText (part : Json) : List String :=
  if textOf (part.get "text") = "" then [] else [textOf (part.get "text")]

def pieceCall (part : Json) : List (String × String) :=
  if textOf (part.get "text") = "" then (partCall part).toList else []

theorem text_takeGeminiPart (stream : GeminiStream) (part : Json) :
    (takeGeminiPart env stream part).text = stream.text ++ pieceText part := by
  rw [takeGeminiPart, pieceText]
  by_cases silent : textOf (part.get "text") = ""
  · rw [if_neg (not_not.mpr silent), if_pos silent, List.append_nil]
  · rw [if_pos silent, if_neg silent]

theorem calls_takeGeminiPart (stream : GeminiStream) (part : Json) :
    (takeGeminiPart env stream part).calls.map CallDraft.said =
      stream.calls.map CallDraft.said ++ pieceCall part := by
  rw [takeGeminiPart, pieceCall]
  by_cases silent : textOf (part.get "text") = ""
  · rw [if_neg (not_not.mpr silent), if_pos silent, List.map_append, said_geminiCall]
  · rw [if_pos silent, if_neg silent, List.append_nil]

variable {stream : GeminiStream}

theorem made_takeGeminiPart (made : ∀ call ∈ stream.calls, call.Made) (part : Json) :
    ∀ call ∈ (takeGeminiPart env stream part).calls, call.Made := by
  rw [takeGeminiPart]
  by_cases silent : textOf (part.get "text") = ""
  · rw [if_neg (not_not.mpr silent)]
    intro call isCall
    rcases List.mem_append.mp isCall with before | new
    · exact made call before
    · exact made_geminiCall env new
  · rw [if_pos silent]
    exact made

structure GeminiStream.Follows (streamed : List Json) (stream : GeminiStream) : Prop where
  text : stream.text = streamed.flatMap pieceText
  calls : stream.calls.map CallDraft.said = streamed.flatMap pieceCall
  made : ∀ call ∈ stream.calls, call.Made

theorem takeGeminiParts_follows {streamed : List Json} (follows : stream.Follows streamed)
    (parts : List Json) :
    GeminiStream.Follows (streamed ++ parts) (parts.foldl (takeGeminiPart env) stream) := by
  refine ⟨?_, ?_, ?_⟩
  · rw [foldl_gathers GeminiStream.text pieceText (text_takeGeminiPart env), follows.text,
      List.flatMap_append]
  · rw [foldl_gathers (fun stream : GeminiStream => stream.calls.map CallDraft.said) pieceCall
      (calls_takeGeminiPart env), follows.calls, List.flatMap_append]
  · have made := follows.made
    clear follows
    induction parts generalizing stream with
    | nil => exact made
    | cons part parts ih => exact ih (made_takeGeminiPart env made part)

theorem takeGeminiPayload_follows {streamed : List Json} (payload : Json)
    (follows : stream.Follows streamed) :
    GeminiStream.Follows (streamed ++ geminiParts payload) (takeGeminiPayload env stream payload) := by
  rw [takeGeminiPayload]
  refine takeGeminiParts_follows env ?_ _
  split <;> exact ⟨follows.text, follows.calls, follows.made⟩

/-- **A stream is read as the parts of its payloads.** -/
theorem readGemini_follows (payloads : List Json) :
    ∃ stream, foldUntil (fun stream payload => ((takeGeminiPayload env stream payload, none) :
        GeminiStream × Option String)) .start payloads = (stream, none) ∧
      stream.Follows (payloads.flatMap geminiParts) := by
  have accepted : ∀ (payloads : List Json) (streamed : List Json),
      payloads.foldlM (fun streamed payload => some (streamed ++ geminiParts payload)) streamed =
        some (streamed ++ payloads.flatMap geminiParts) := by
    intro payloads
    induction payloads with
    | nil => simp
    | cons payload payloads ih => simp [ih]
  have read := accepted payloads []
  rw [List.nil_append] at read
  refine foldUntil_simulates (fun streamed stream payload later follows accepts => ?_) read
    ⟨rfl, rfl, fun _ isCall => absurd isCall List.not_mem_nil⟩
  obtain rfl := Option.some.inj accepts
  exact ⟨_, rfl, takeGeminiPayload_follows env payload follows⟩

/-! ## The items of the message -/

theorem pieceText_of_text {part : Json} {text : String} (isText : IsTextPart part text) :
    String.join (pieceText part) = text ∧ pieceCall part = [] := by
  have read : textOf (part.get "text") = text := by
    rw [textOf, isText.text]
    rfl
  rw [pieceText, pieceCall, read]
  by_cases none : text = ""
  · rw [if_pos none, if_pos none, partCall, isText.call]
    exact ⟨none.symm, rfl⟩
  · rw [if_neg none, if_neg none]
    exact ⟨by simp, rfl⟩

theorem pieces_of_text {pieces : List (Json × String)}
    (areTexts : ∀ piece ∈ pieces, IsTextPart piece.1 piece.2) :
    String.join ((pieces.map Prod.fst).flatMap pieceText) = String.join (pieces.map Prod.snd) ∧
      (pieces.map Prod.fst).flatMap pieceCall = [] := by
  induction pieces with
  | nil => exact ⟨rfl, rfl⟩
  | cons piece pieces ih =>
    rw [List.forall_mem_cons] at areTexts
    have here := pieceText_of_text areTexts.1
    have later := ih areTexts.2
    rw [List.map_cons, List.flatMap_cons, List.flatMap_cons, String.join_append, here.1, here.2,
      later.1, later.2, List.map_cons, String.join_cons]
    exact ⟨rfl, rfl⟩

theorem Streams.agree {parts streamed : List Json} (streams : Streams parts streamed) :
    String.join (streamed.flatMap pieceText) = String.join (partTexts parts) ∧
      streamed.flatMap pieceCall = parts.filterMap partCall := by
  induction streams with
  | nil => exact ⟨rfl, rfl⟩
  | @text part text pieces parts streamed isText areTexts joined rest ih =>
    have here := pieces_of_text areTexts
    have texts : partTexts (part :: parts) = text :: partTexts parts := by
      rw [partTexts, List.filterMap_cons, isText.text]
      rfl
    have silent : partCall part = none := by rw [partCall, isText.call]; rfl
    rw [List.flatMap_append, List.flatMap_append, String.join_append, here.1, here.2, joined, ih.1, ih.2,
      List.filterMap_cons_none silent, texts, String.join_cons]
    exact ⟨rfl, rfl⟩
  | @other part piece parts streamed isOther pieceIsOther sameCall rest ih =>
    have texts : partTexts (part :: parts) = partTexts parts := by
      rw [partTexts, List.filterMap_cons, isOther]
      rfl
    have silent : textOf (piece.get "text") = "" := by rw [textOf, pieceIsOther]; rfl
    have same : partCall piece = partCall part := by rw [partCall, sameCall, partCall]
    rw [List.flatMap_cons, List.flatMap_cons, String.join_append, ih.1, ih.2, pieceText, pieceCall,
      if_pos silent, if_pos silent, same, texts, List.filterMap_cons]
    refine ⟨by simp, ?_⟩
    cases partCall part <;> rfl

theorem streamCallItems_made {calls : List CallDraft} (made : ∀ call ∈ calls, call.Made) :
    streamCallItems calls = calls.map CallDraft.item := by
  have kept : calls.filter (fun call => call.name ≠ "" && call.id ≠ "") = calls := by
    rw [List.filter_eq_self]
    intro call isCall
    simp [(made call isCall).1, (made call isCall).2.1]
  rw [streamCallItems, kept]
  refine List.map_congr_left fun call isCall => ?_
  rw [if_neg (made call isCall).2.2]
  rfl

theorem anonymous_calls (calls : List CallDraft) :
    (calls.map CallDraft.item).map OutputItem.anonymous =
      (calls.map CallDraft.said).map fun said => .functionCall "" said.1 said.2 := by
  rw [List.map_map, List.map_map]
  rfl

theorem anonymous_unnamed (items : List OutputItem) :
    (items.map OutputItem.unnamed).map OutputItem.anonymous = items.map OutputItem.anonymous := by
  rw [List.map_map]
  refine List.map_congr_left fun item _ => ?_
  cases item <;> rfl

/-- **When the items of a stream are those of the message, and its text says something.** -/
theorem gemini_agree_iff {body : Json} {streamed : List Json} (follows : stream.Follows streamed)
    (streams : Streams (geminiParts body) streamed) {ids : StreamIds} :
    (zero3ApiAgentStreamItems (String.join stream.text) "" stream.calls ids).map OutputItem.anonymous =
          (zero3ApiGeminiResponse env body).items.map OutputItem.anonymous ∧
        Spoken (String.join stream.text) ↔ OneText (partTexts (geminiParts body)) := by
  let text := String.join stream.text
  let texts := partTexts (geminiParts body)
  have agree := streams.agree
  have joined : text = String.join texts := by
    rw [← agree.1, ← follows.text]
  have same : text.toList.Perm (texts.flatMap String.toList) := by
    rw [joined, String.toList_join]
  have anonymous : ∀ text, (textPart text).map OutputItem.anonymous = textPart text := by
    intro text
    rw [textPart]
    split <;> rfl
  -- the items of the stream, and those of the message
  have streamedItems : (zero3ApiAgentStreamItems text "" stream.calls ids).map OutputItem.anonymous =
      textPart text ++ (stream.calls.map CallDraft.said).map fun said =>
        .functionCall "" said.1 said.2 := by
    rw [← anonymous_unnamed, streamItems_unnamed, streamCallItems_made follows.made, List.map_append,
      List.map_append, anonymous, anonymous_calls]
    rfl
  have wholeItems : (zero3ApiGeminiResponse env body).items.map OutputItem.anonymous =
      textPart ("\n".intercalate texts) ++ ((geminiCalls env (geminiParts body)).map CallDraft.said).map
        fun said => .functionCall "" said.1 said.2 := by
    show (textPart ("\n".intercalate texts) ++
      (geminiCalls env (geminiParts body)).map CallDraft.item).map OutputItem.anonymous = _
    rw [List.map_append, anonymous, anonymous_calls]
  rw [streamedItems, wholeItems, follows.calls, agree.2, geminiCalls_said, List.append_left_inj]
  exact texts_agree_iff same fun _ => joined

end Zero3Pilot.ProviderBridge
