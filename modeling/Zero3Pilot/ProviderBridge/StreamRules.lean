import Mathlib.Algebra.GroupWithZero.Nat
import Zero3Pilot.Foundations.Lines
import Zero3Pilot.ProviderBridge.Streams

/-! # What the streams emit

While a stream is read its emitter opens an item for the first piece of a kind and says every piece under
the id of that item; nothing is done before the stream is over. -/

namespace Zero3Pilot.ProviderBridge

/-! ## Bodies -/

/-- A body ends by itself, within the limit. -/
def UpstreamBody.Whole (body : UpstreamBody) : Prop :=
  body.broken = none ∧ (body.chunks.map Chunk.byteLength).sum ≤ maxResponseBytes

theorem takeChunks_ok_iff {reader : SseReader} {limit bytes : Nat} {broken : Option String}
    {chunks : List Chunk} (within : bytes ≤ limit) :
    (reader.takeChunks limit bytes broken chunks).2 = none ↔
      broken = none ∧ bytes + (chunks.map Chunk.byteLength).sum ≤ limit := by
  induction chunks generalizing reader bytes with
  | nil => cases broken <;> simp [SseReader.takeChunks, within]
  | cons chunk chunks ih =>
    rw [SseReader.takeChunks]
    by_cases tooLong : limit < bytes + chunk.byteLength
    · rw [if_pos tooLong]
      simp only [List.map_cons, List.sum_cons, reduceCtorEq, false_iff]
      intro both
      omega
    · rw [if_neg tooLong]
      show (SseReader.takeChunks _ limit (bytes + chunk.byteLength) broken chunks).2 = none ↔ _
      rw [ih (by omega), List.map_cons, List.sum_cons, Nat.add_assoc]

theorem sse_whole_iff {body : Option UpstreamBody} :
    (zero3ApiAgentStreamSse body).2 = none ↔ ∃ whole, body = some whole ∧ whole.Whole := by
  cases body with
  | none => simp [zero3ApiAgentStreamSse]
  | some body =>
    simp only [zero3ApiAgentStreamSse, takeChunks_ok_iff (Nat.zero_le _), Nat.zero_add]
    exact ⟨fun read => ⟨body, rfl, read⟩, fun ⟨_, same, whole⟩ => Option.some.inj same ▸ whole⟩

/-! ## Frames that are written -/

def dataField : List Char := ['d', 'a', 't', 'a', ':', ' ']

def dataFrame (data : List Char) : List Char := dataField ++ data ++ ['\n', '\n']

theorem endedLines_line {line : List Char} (isLine : IsLine line) (rest : List Char) :
    endedLines (line ++ '\n' :: rest) = (line :: (endedLines rest).1, (endedLines rest).2) := by
  induction line with
  | nil => rw [List.nil_append, endedLines]
  | cons c line ih =>
    obtain ⟨newline, carriage⟩ := isLine
    rw [List.mem_cons, not_or] at newline carriage
    rw [List.cons_append, endedLines, ih ⟨newline.2, carriage.2⟩]
    · intro _ same
      exact absurd same (Ne.symm carriage.1)
    · intro same
      exact absurd same (Ne.symm newline.1)

theorem endedLines_dataFrames {datas : List (List Char)} (areLines : ∀ data ∈ datas, IsLine data) :
    endedLines (datas.flatMap dataFrame) =
      (datas.flatMap fun data => [dataField ++ data, []], []) := by
  induction datas with
  | nil => rfl
  | cons data datas ih =>
    rw [List.forall_mem_cons] at areLines
    have line : IsLine (dataField ++ data) := by
      constructor <;> rw [List.mem_append, not_or]
      · exact ⟨by decide, areLines.1.1⟩
      · exact ⟨by decide, areLines.1.2⟩
    have blank := @endedLines_line [] ⟨List.not_mem_nil, List.not_mem_nil⟩ (datas.flatMap dataFrame)
    have shape : (data :: datas).flatMap dataFrame =
        (dataField ++ data) ++ '\n' :: ([] ++ '\n' :: datas.flatMap dataFrame) := by
      rw [List.flatMap_cons, dataFrame, List.append_assoc (dataField ++ data)]
      rfl
    rw [shape, endedLines_line line, blank, ih areLines.2]
    rfl

theorem takeLines_dataFrames (datas : List (List Char)) :
    SseReader.takeLines ⟨[], none, []⟩ (datas.flatMap fun data => [dataField ++ data, []]) =
      (⟨[], none, []⟩, datas.map fun data => ⟨none, String.ofList data⟩) := by
  induction datas with
  | nil => rfl
  | cons data datas ih =>
    have line : SseReader.takeLine ⟨[], none, []⟩ (dataField ++ data) =
        (⟨[], none, [String.ofList data]⟩, []) := rfl
    have blank : SseReader.takeLine ⟨[], none, [String.ofList data]⟩ [] =
        (⟨[], none, []⟩, [⟨none, String.ofList data⟩]) := by
      simp [SseReader.takeLine, SseReader.flush]
    rw [List.flatMap_cons, List.cons_append, List.cons_append, List.nil_append]
    simp only [SseReader.takeLines, line, blank, ih]
    rfl

def bodyOf (byteLength : Nat) (datas : List (List Char)) : UpstreamBody :=
  ⟨[⟨byteLength, datas.flatMap dataFrame⟩], none⟩

/-- **Frames that are written are read back.** -/
theorem sse_bodyOf {byteLength : Nat} {datas : List (List Char)} (small : byteLength ≤ maxResponseBytes)
    (areLines : ∀ data ∈ datas, IsLine data) :
    zero3ApiAgentStreamSse (some (bodyOf byteLength datas)) =
      (datas.map fun data => ⟨none, String.ofList data⟩, none) := by
  have ended := endedLines_dataFrames areLines
  have chunk : SseReader.takeChunk ⟨[], none, []⟩ ⟨byteLength, datas.flatMap dataFrame⟩ =
      (⟨[], none, []⟩, datas.map fun data => ⟨none, String.ofList data⟩) := by
    rw [SseReader.takeChunk]
    simp only [List.nil_append, ended]
    exact takeLines_dataFrames datas
  have within : ¬ maxResponseBytes < 0 + byteLength := by omega
  simp only [zero3ApiAgentStreamSse, bodyOf, SseReader.takeChunks, if_neg within, chunk]
  simp [SseReader.flush]

/-! ## Payloads that are written -/

theorem isLine_render (payload : Json) : IsLine payload.render := by
  have plain := Json.render_plain payload
  exact ⟨fun isIn => absurd (plain _ isIn) (by decide), fun isIn => absurd (plain _ isIn) (by decide)⟩

theorem render_object (members : List (String × Json)) :
    ∃ inner, (Json.object members).render = '\x7b' :: (inner ++ ['\x7d']) := by
  have rest : ∀ members, ∃ inner, Json.renderMembers members = inner ++ ['\x7d'] := by
    intro members
    induction members with
    | nil => exact ⟨[], rfl⟩
    | cons member members ih =>
      obtain ⟨inner, rendered⟩ := ih
      exact ⟨',' :: (Json.quote member.1 ++ ':' :: (member.2.render ++ inner)), by
        simp [Json.renderMembers, rendered]⟩
  cases members with
  | nil => exact ⟨[], rfl⟩
  | cons member members =>
    obtain ⟨inner, rendered⟩ := rest members
    exact ⟨Json.quote member.1 ++ ':' :: (member.2.render ++ inner), by
      simp [Json.render, rendered]⟩

theorem scriptTrim_render (members : List (String × Json)) :
    scriptTrim (String.ofList (Json.object members).render) =
      String.ofList (Json.object members).render := by
  obtain ⟨inner, rendered⟩ := render_object members
  have first : isScriptWhitespace '\x7b' = false := rfl
  have last : isScriptWhitespace '\x7d' = false := rfl
  rw [rendered, scriptTrim, trimWith, String.toList_ofList, List.dropWhile_cons_of_neg (by simp [first]),
    ← List.cons_append, List.rdropWhile_concat_neg _ _ _ (by simp [last])]

theorem render_ne {members : List (String × Json)} {text : String}
    (other : text.toList.head? ≠ some '\x7b') : String.ofList (Json.object members).render ≠ text := by
  obtain ⟨inner, rendered⟩ := render_object members
  rintro rfl
  rw [rendered, String.toList_ofList] at other
  exact other rfl

def readerOf (known : List Json) : StreamSurroundings where
  parse := fun text => known.find? fun payload => decide (String.ofList payload.render = text)
  lower := String.toLower
  floor := fun literal => literal.toInt?.getD 0
  clock := fun count => count

theorem readerOf_parse {known : List Json} {payload : Json} (isKnown : payload ∈ known) :
    (readerOf known).parse (String.ofList payload.render) = some payload := by
  have found : (known.find? fun other =>
      decide (String.ofList other.render = String.ofList payload.render)).isSome := by
    rw [List.find?_isSome]
    exact ⟨payload, isKnown, by simp⟩
  obtain ⟨other, isFound⟩ := Option.isSome_iff_exists.mp found
  have same : other.render = payload.render := by
    have texts := List.find?_some isFound
    rw [decide_eq_true_eq] at texts
    exact String.ofList_injective texts
  obtain rfl := Json.render_injective same
  exact isFound

/-! ## Reading what was written -/

section

variable {env : StreamSurroundings} {members : List (String × Json)}

theorem openAiPayload_render
    (read : env.parse (String.ofList (Json.object members).render) = some (.object members)) :
    openAiPayload env ⟨none, String.ofList (Json.object members).render⟩ = some (.object members) := by
  have empty : String.ofList (Json.object members).render ≠ "" := render_ne (by decide)
  have done : String.ofList (Json.object members).render ≠ "[DONE]" := render_ne (by decide)
  simp only [openAiPayload, scriptTrim_render]
  rw [if_neg (not_or.mpr ⟨empty, done⟩), read]
  rfl

end

def AreObjects (payloads : List Json) : Prop := ∀ payload ∈ payloads, ∃ members, payload = .object members

theorem openAiPayloads_readerOf {payloads : List Json} (objects : AreObjects payloads) :
    (payloads.filterMap fun payload =>
      openAiPayload (readerOf payloads) ⟨none, String.ofList payload.render⟩) = payloads := by
  have each : ∀ payload ∈ payloads,
      openAiPayload (readerOf payloads) ⟨none, String.ofList payload.render⟩ = some payload := by
    intro payload isIn
    have read := readerOf_parse isIn
    obtain ⟨members, rfl⟩ := objects payload isIn
    exact openAiPayload_render read
  rw [List.filterMap_congr each, List.filterMap_some]

theorem openAiPayloads_bodyOf {payloads : List Json} (objects : AreObjects payloads) {byteLength : Nat}
    (small : byteLength ≤ maxResponseBytes) :
    (zero3ApiAgentStreamSse (some (bodyOf byteLength (payloads.map Json.render)))).1.filterMap
      (openAiPayload (readerOf payloads)) = payloads := by
  have areLines : ∀ data ∈ payloads.map Json.render, IsLine data := by
    intro data isIn
    obtain ⟨payload, _, rfl⟩ := List.mem_map.mp isIn
    exact isLine_render payload
  have known := openAiPayloads_readerOf objects
  rw [sse_bodyOf small areLines, List.map_map, List.filterMap_map]
  simp only [Function.comp_def, known]

structure TakesPayloads {State Payload : Type} (handler : State → SseFrame → State × Option String)
    (decode : SseFrame → Option Payload) (take : State → Payload → State × Option String) : Prop where
  skipped : ∀ state frame, decode frame = none → handler state frame = (state, none)
  taken : ∀ state frame payload, decode frame = some payload → handler state frame = take state payload

section

variable {State Payload : Type} {handler : State → SseFrame → State × Option String}
  {decode : SseFrame → Option Payload} {take : State → Payload → State × Option String}

theorem TakesPayloads.readStream_bodyOf (takes : TakesPayloads handler decode take) {byteLength : Nat}
    (small : byteLength ≤ maxResponseBytes) (start : State) (payloads : List Json) :
    readStream handler start (some (bodyOf byteLength (payloads.map Json.render))) =
      foldUntil take start
        (payloads.filterMap fun payload => decode ⟨none, String.ofList payload.render⟩) := by
  have areLines : ∀ data ∈ payloads.map Json.render, IsLine data := by
    intro data isIn
    obtain ⟨payload, _, rfl⟩ := List.mem_map.mp isIn
    exact isLine_render payload
  rw [readStream, sse_bodyOf small areLines, List.map_map,
    foldUntil_filterMap takes.skipped takes.taken, List.filterMap_map]
  exact Prod.ext rfl (by simp [Function.comp_def])

end

variable (env : StreamSurroundings)

theorem openAi_takes : TakesPayloads (takeOpenAiFrame env) (openAiPayload env) (takeOpenAiPayload env) where
  skipped := fun _ _ none => by simp only [takeOpenAiFrame, none]
  taken := fun _ _ _ some => by simp only [takeOpenAiFrame, some]

theorem anthropic_takes : TakesPayloads (takeAnthropicFrame env) (anthropicEvent env)
    fun stream event => (stream.takeEvent event.1 event.2, none) where
  skipped := fun _ _ none => by simp only [takeAnthropicFrame, none]
  taken := fun _ _ _ some => by simp only [takeAnthropicFrame, some]

theorem gemini_takes : TakesPayloads (takeGeminiFrame env) (jsonPayload env)
    fun stream payload => (takeGeminiPayload env stream payload, none) where
  skipped := fun _ _ none => by simp only [takeGeminiFrame, none]
  taken := fun _ _ _ some => by simp only [takeGeminiFrame, some]

/-! ## Events -/

def BridgeEvent.delta : BridgeEvent → Option (ItemKind × Option String × String)
  | .textDelta itemId delta => some (.message, itemId, delta)
  | .reasoningDelta itemId delta => some (.reasoning, itemId, delta)
  | _ => none

def BridgeEvent.addedItem : BridgeEvent → Option (Nat × ItemKind × String)
  | .added outputIndex kind id => some (outputIndex, kind, id)
  | _ => none

def BridgeEvent.doneItem : BridgeEvent → Option (Nat × OutputItem)
  | .done outputIndex item => some (outputIndex, item)
  | _ => none

def BridgeEvent.isEnd : BridgeEvent → Bool
  | .completed _ => true
  | .failed _ => true
  | _ => false

def BridgeEvent.pieceOf (kind : ItemKind) (event : BridgeEvent) : Option (Option String × String) :=
  event.delta.bind fun said => if said.1 = kind then some said.2 else none

/-- Every piece is said of an item that was added before. -/
def Refers (events : List BridgeEvent) : Prop :=
  ∀ front event, front ++ [event] <+: events → ∀ kind itemId piece,
    event.delta = some (kind, itemId, piece) →
      ∃ outputIndex id, itemId = some id ∧ .added outputIndex kind id ∈ front

theorem refers_nil : Refers [] := by
  intro front event isPrefix
  simp at isPrefix

theorem Refers.concat {events : List BridgeEvent} {event : BridgeEvent} (refers : Refers events)
    (known : ∀ kind itemId piece, event.delta = some (kind, itemId, piece) →
      ∃ outputIndex id, itemId = some id ∧ .added outputIndex kind id ∈ events) :
    Refers (events ++ [event]) := by
  intro front other isPrefix
  rcases List.prefix_concat_iff.mp isPrefix with same | before
  · obtain ⟨rfl, last⟩ := List.append_inj' same rfl
    obtain rfl := List.singleton_inj.mp last
    exact known
  · exact refers front other before

theorem Refers.append {events more : List BridgeEvent} (refers : Refers events)
    (silent : ∀ event ∈ more, event.delta = none) : Refers (events ++ more) := by
  induction more using List.reverseRecOn with
  | nil => simpa using refers
  | append_singleton more event ih =>
    rw [← List.append_assoc]
    have before : Refers (events ++ more) :=
      ih fun other isIn => silent other (List.mem_append_left _ isIn)
    refine before.concat fun kind itemId piece said => ?_
    rw [silent event (List.mem_append_right _ List.mem_cons_self)] at said
    cases said

/-! ## Emitters -/

def streamItemId (index : Nat) (kind : ItemKind) : String :=
  s!"zero3-stream-item-{index + 1}-{kind.text}"

theorem streamItemId_last (index : Nat) (kind : ItemKind) :
    (streamItemId index kind).toList.getLast? = kind.text.toList.getLast? := by
  unfold streamItemId
  simp only [String.toList_append, List.getLast?_append]
  cases kind <;> rfl

theorem streamItemId_kind {index other : Nat} {kind another : ItemKind}
    (same : streamItemId index kind = streamItemId other another) : kind = another := by
  have last : kind.text.toList.getLast? = another.text.toList.getLast? := by
    rw [← streamItemId_last index, same, streamItemId_last]
  cases kind <;> cases another <;> first | rfl | exact absurd last (by decide)

namespace StreamEmitter

def itemId (emitter : StreamEmitter) : ItemKind → Option String
  | .message => emitter.messageId
  | .reasoning => emitter.reasoningId

def piece (emitter : StreamEmitter) : ItemKind → String → StreamEmitter
  | .message => emitter.textDelta
  | .reasoning => emitter.reasoningDelta

def opened (emitter : StreamEmitter) : List ItemKind :=
  (emitter.events.filterMap BridgeEvent.addedItem).map fun item => item.2.1

end StreamEmitter

structure Emitting (emitter : StreamEmitter) (pieces : ItemKind → List String) : Prop where
  distinct : emitter.opened.Nodup
  sequence : emitter.sequence = emitter.opened.length
  next : emitter.nextOutputIndex = emitter.opened.length
  itemId : ∀ kind, emitter.itemId kind =
    if kind ∈ emitter.opened then some (streamItemId (emitter.opened.idxOf kind) kind) else none
  indexed : ∀ kind ∈ emitter.opened,
    emitter.outputIndexById.lookup (streamItemId (emitter.opened.idxOf kind) kind) =
      some (emitter.opened.idxOf kind)
  added : emitter.events.filterMap BridgeEvent.addedItem = emitter.opened.map fun kind =>
    (emitter.opened.idxOf kind, kind, streamItemId (emitter.opened.idxOf kind) kind)
  told : ∀ kind, emitter.events.filterMap (BridgeEvent.pieceOf kind) =
    (pieces kind).map fun piece => (emitter.itemId kind, piece)
  refers : Refers emitter.events
  undone : ∀ event ∈ emitter.events, event.doneItem = none ∧ event.isEnd = false

theorem emitting_start : Emitting .start fun _ => [] where
  distinct := List.nodup_nil
  sequence := rfl
  next := rfl
  itemId := fun kind => by cases kind <;> rfl
  indexed := fun _ isIn => absurd isIn List.not_mem_nil
  added := rfl
  told := fun _ => rfl
  refers := refers_nil
  undone := fun _ isIn => absurd isIn List.not_mem_nil

namespace StreamEmitter

variable {emitter : StreamEmitter} {kind : ItemKind}

theorem opened_startItem : (emitter.startItem kind).opened = emitter.opened ++ [kind] := by
  simp [opened, startItem, BridgeEvent.addedItem]

theorem itemId_startItem {other : ItemKind} : (emitter.startItem kind).itemId other =
    if other = kind then some (streamItemId emitter.sequence kind) else emitter.itemId other := by
  cases kind <;> cases other <;> rfl

theorem piece_eq {text : String} : emitter.piece kind text = emitter.emit (match kind with
    | .message => .textDelta (emitter.itemId kind) text
    | .reasoning => .reasoningDelta (emitter.itemId kind) text) := by
  cases kind <;> rfl

end StreamEmitter

section

variable {emitter : StreamEmitter} {pieces : ItemKind → List String} {kind : ItemKind}

section

variable (emitting : Emitting emitter pieces)
include emitting

theorem Emitting.mem_added {outputIndex : Nat} {id : String}
    (isIn : .added outputIndex kind id ∈ emitter.events) : kind ∈ emitter.opened ∧
      outputIndex = emitter.opened.idxOf kind ∧ id = streamItemId (emitter.opened.idxOf kind) kind := by
  have listed : (outputIndex, kind, id) ∈ emitter.events.filterMap BridgeEvent.addedItem :=
    List.mem_filterMap.mpr ⟨_, isIn, rfl⟩
  rw [emitting.added] at listed
  obtain ⟨other, isOpen, same⟩ := List.mem_map.mp listed
  cases same
  exact ⟨isOpen, rfl, rfl⟩

theorem Emitting.added_mem (isOpen : kind ∈ emitter.opened) :
    .added (emitter.opened.idxOf kind) kind (streamItemId (emitter.opened.idxOf kind) kind) ∈
      emitter.events := by
  have listed : (emitter.opened.idxOf kind, kind, streamItemId (emitter.opened.idxOf kind) kind) ∈
      emitter.events.filterMap BridgeEvent.addedItem := by
    rw [emitting.added]
    exact List.mem_map_of_mem isOpen
  obtain ⟨event, isIn, is⟩ := List.mem_filterMap.mp listed
  cases event <;> cases is
  exact isIn

theorem Emitting.startItem (fresh : kind ∉ emitter.opened)
    (none : pieces kind = []) : Emitting (emitter.startItem kind) pieces := by
  have opened : (emitter.startItem kind).opened = emitter.opened ++ [kind] :=
    StreamEmitter.opened_startItem
  -- an item that was open keeps its index; the new one gets the number of those before it
  have old : ∀ other ∈ emitter.opened,
      (emitter.startItem kind).opened.idxOf other = emitter.opened.idxOf other := by
    intro other isIn
    rw [opened, List.idxOf_append_of_mem isIn]
  have new : (emitter.startItem kind).opened.idxOf kind = emitter.opened.length := by
    rw [opened, List.idxOf_append_of_notMem fresh, List.idxOf_cons_self, Nat.add_zero]
  have apart : ∀ other ∈ emitter.opened, other ≠ kind := fun other isIn same => fresh (same ▸ isIn)
  have id : emitter.nextItemId kind = streamItemId emitter.opened.length kind := by
    rw [← emitting.sequence]
    rfl
  constructor
  · rw [opened]
    exact List.nodup_append.mpr ⟨emitting.distinct, List.nodup_singleton kind, fun other isIn _ one =>
      List.mem_singleton.mp one ▸ apart other isIn⟩
  · rw [opened, List.length_append]
    exact congrArg (· + 1) emitting.sequence
  · rw [opened, List.length_append]
    exact congrArg (· + 1) emitting.next
  · intro other
    rw [StreamEmitter.itemId_startItem, emitting.sequence, emitting.itemId]
    by_cases same : other = kind
    · subst same
      rw [if_pos rfl, if_pos (by simp [opened]), new]
    · rw [if_neg same]
      by_cases isIn : other ∈ emitter.opened
      · rw [if_pos isIn, if_pos (by simp [opened, isIn]), old other isIn]
      · rw [if_neg isIn, if_neg (by simp [opened, isIn, same])]
  · intro other isIn
    show List.lookup _ ((emitter.nextItemId kind, emitter.nextOutputIndex) :: emitter.outputIndexById) = _
    rw [id, emitting.next]
    rw [opened, List.mem_append, List.mem_singleton] at isIn
    rcases isIn with before | rfl
    · have other_ne : (streamItemId ((emitter.startItem kind).opened.idxOf other) other ==
          streamItemId emitter.opened.length kind) = false := by
        rw [beq_eq_false_iff_ne]
        exact fun same => apart other before (streamItemId_kind same)
      rw [List.lookup_cons, other_ne, old other before]
      exact emitting.indexed other before
    · rw [new, List.lookup_cons, beq_self_eq_true]
  · show (emitter.events ++ [_]).filterMap _ = _
    rw [List.filterMap_append, emitting.added, opened, List.map_append]
    congr 1
    · refine List.map_congr_left fun other isIn => ?_
      rw [← opened, old other isIn]
    · show [(emitter.nextOutputIndex, kind, emitter.nextItemId kind)] = [_]
      rw [← opened, id, emitting.next]
      simp only [new]
  · intro other
    show (emitter.events ++ [_]).filterMap _ = _
    rw [List.filterMap_append, emitting.told, StreamEmitter.itemId_startItem]
    by_cases same : other = kind
    · rw [same, none]
      rfl
    · rw [if_neg same]
      exact List.append_nil _
  · exact emitting.refers.concat fun _ _ _ said => by cases said
  · intro event isIn
    rcases List.mem_append.mp isIn with before | one
    · exact emitting.undone event before
    · rw [List.mem_singleton.mp one]
      exact ⟨rfl, rfl⟩

theorem Emitting.piece (isOpen : kind ∈ emitter.opened) (text : String) :
    Emitting (emitter.piece kind text) (Function.update pieces kind (pieces kind ++ [text])) := by
  have id := emitting.itemId kind
  rw [if_pos isOpen] at id
  have added : (emitter.piece kind text).events.filterMap BridgeEvent.addedItem =
      emitter.events.filterMap BridgeEvent.addedItem := by
    cases kind <;> simp [StreamEmitter.piece, StreamEmitter.textDelta, StreamEmitter.reasoningDelta,
      StreamEmitter.emit, BridgeEvent.addedItem]
  have opened : (emitter.piece kind text).opened = emitter.opened := by
    rw [StreamEmitter.opened, added, StreamEmitter.opened]
  have ids : ∀ other, (emitter.piece kind text).itemId other = emitter.itemId other := by
    intro other
    cases kind <;> cases other <;> rfl
  constructor
  · rw [opened]
    exact emitting.distinct
  · rw [opened]
    cases kind <;> exact emitting.sequence
  · rw [opened]
    cases kind <;> exact emitting.next
  · intro other
    rw [ids, opened, emitting.itemId]
  · intro other isIn
    rw [opened] at isIn ⊢
    cases kind <;> exact emitting.indexed other isIn
  · rw [added, opened, emitting.added]
  · intro other
    have before := emitting.told other
    rw [ids]
    by_cases same : other = kind
    · subst same
      rw [Function.update_self, List.map_append, ← before]
      cases other <;> simp [StreamEmitter.piece, StreamEmitter.textDelta,
        StreamEmitter.reasoningDelta, StreamEmitter.emit, BridgeEvent.pieceOf, BridgeEvent.delta,
        StreamEmitter.itemId]
    · rw [Function.update_of_ne same, ← before]
      cases kind <;> cases other <;> first
        | exact absurd rfl same
        | simp [StreamEmitter.piece, StreamEmitter.textDelta, StreamEmitter.reasoningDelta,
            StreamEmitter.emit, BridgeEvent.pieceOf, BridgeEvent.delta]
  · rw [StreamEmitter.piece_eq]
    refine emitting.refers.concat fun other itemId said saying => ?_
    cases kind <;> cases saying <;> exact ⟨_, _, id, emitting.added_mem isOpen⟩
  · intro event isIn
    rw [StreamEmitter.piece_eq] at isIn
    rcases List.mem_append.mp isIn with before | one
    · exact emitting.undone event before
    · rw [List.mem_singleton.mp one]
      cases kind <;> exact ⟨rfl, rfl⟩

end

structure Emitted (emitter : StreamEmitter) (pieces : ItemKind → List String) : Prop where
  emitting : Emitting emitter pieces
  isOpen_iff : ∀ kind, kind ∈ emitter.opened ↔ pieces kind ≠ []
  nonempty : ∀ kind, ∀ piece ∈ pieces kind, piece ≠ ""

theorem emitted_start : Emitted .start fun _ => [] where
  emitting := emitting_start
  isOpen_iff := fun kind => by simp [StreamEmitter.opened, StreamEmitter.start]
  nonempty := fun _ _ isIn => absurd isIn List.not_mem_nil

def StreamEmitter.take (emitter : StreamEmitter) (kind : ItemKind) (opened : Bool) (text : String) :
    StreamEmitter :=
  (if opened then emitter else emitter.startItem kind).piece kind text

theorem StreamEmitter.opened_piece {text : String} :
    (emitter.piece kind text).opened = emitter.opened := by
  cases kind <;> simp [opened, piece, textDelta, reasoningDelta, emit, BridgeEvent.addedItem]

theorem Emitted.take (emitted : Emitted emitter pieces) (kind : ItemKind) {opened : Bool}
    (isOpened : opened = true ↔ pieces kind ≠ []) {text : String} (some : text ≠ "") :
    Emitted (emitter.take kind opened text)
      (Function.update pieces kind (pieces kind ++ [text])) := by
  have nonempty : ∀ other, ∀ piece ∈ Function.update pieces kind (pieces kind ++ [text]) other,
      piece ≠ "" := by
    intro other piece isIn
    by_cases same : other = kind
    · subst same
      rw [Function.update_self] at isIn
      rcases List.mem_append.mp isIn with before | one
      · exact emitted.nonempty other piece before
      · exact List.mem_singleton.mp one ▸ some
    · rw [Function.update_of_ne same] at isIn
      exact emitted.nonempty other piece isIn
  cases opened with
  | true =>
    have isOpen := (emitted.isOpen_iff kind).mpr (isOpened.mp rfl)
    refine ⟨emitted.emitting.piece isOpen text, fun other => ?_, nonempty⟩
    rw [StreamEmitter.take, if_pos rfl, StreamEmitter.opened_piece]
    by_cases same : other = kind
    · subst same
      simp [isOpen]
    · rw [Function.update_of_ne same, emitted.isOpen_iff]
  | false =>
    have none : pieces kind = [] := by
      by_contra more
      exact Bool.false_ne_true (isOpened.mpr more)
    have fresh : kind ∉ emitter.opened := fun isOpen => (emitted.isOpen_iff kind).mp isOpen none
    have started := emitted.emitting.startItem fresh none
    have isOpen : kind ∈ (emitter.startItem kind).opened := by
      rw [StreamEmitter.opened_startItem]
      exact List.mem_append_right _ List.mem_cons_self
    refine ⟨started.piece isOpen text, fun other => ?_, nonempty⟩
    rw [StreamEmitter.take, if_neg Bool.false_ne_true, StreamEmitter.opened_piece,
      StreamEmitter.opened_startItem, List.mem_append, List.mem_singleton]
    by_cases same : other = kind
    · subst same
      simp
    · rw [Function.update_of_ne same, emitted.isOpen_iff]
      simp [same]

end

/-! ## The three streams -/

def piecesOf (text reasoning : List String) : ItemKind → List String
  | .message => text
  | .reasoning => reasoning

theorem piecesOf_text (text reasoning : List String) (more : List String) :
    Function.update (piecesOf text reasoning) .message more = piecesOf more reasoning := by
  funext kind
  cases kind <;> rfl

theorem piecesOf_reasoning (text reasoning : List String) (more : List String) :
    Function.update (piecesOf text reasoning) .reasoning more = piecesOf text more := by
  funext kind
  cases kind <;> rfl

theorem emitted_nothing : Emitted .start (piecesOf [] []) := by
  have none : piecesOf [] [] = fun _ => [] := by
    funext kind
    cases kind <;> rfl
  rw [none]
  exact emitted_start

section

variable {emitter : StreamEmitter} {text reasoning : List String} {delta : String}

theorem Emitted.takeText (emitted : Emitted emitter (piecesOf text reasoning)) (some : delta ≠ "") :
    Emitted ((if text = [] then emitter.startItem .message else emitter).textDelta delta)
      (piecesOf (text ++ [delta]) reasoning) := by
  have opened : decide (text ≠ []) = true ↔ piecesOf text reasoning .message ≠ [] :=
    decide_eq_true_iff
  have taken := emitted.take .message opened some
  rw [piecesOf_text] at taken
  by_cases none : text = []
  · simp only [none, StreamEmitter.take, ne_eq, not_true, decide_false, if_true] at taken ⊢
    exact taken
  · simp only [none, StreamEmitter.take, ne_eq, not_false_iff, decide_true, if_false, if_true] at taken ⊢
    exact taken

theorem Emitted.takeReasoning (emitted : Emitted emitter (piecesOf text reasoning))
    (some : delta ≠ "") :
    Emitted ((if reasoning = [] then emitter.startItem .reasoning else emitter).reasoningDelta delta)
      (piecesOf text (reasoning ++ [delta])) := by
  have opened : decide (reasoning ≠ []) = true ↔ piecesOf text reasoning .reasoning ≠ [] :=
    decide_eq_true_iff
  have taken := emitted.take .reasoning opened some
  rw [piecesOf_reasoning] at taken
  by_cases none : reasoning = []
  · simp only [none, StreamEmitter.take, ne_eq, not_true, decide_false, if_true] at taken ⊢
    exact taken
  · simp only [none, StreamEmitter.take, ne_eq, not_false_iff, decide_true, if_false, if_true] at taken ⊢
    exact taken

end

structure OpenAiStream.Emits (stream : OpenAiStream) : Prop where
  emitted : Emitted stream.emitter (piecesOf stream.text stream.reasoning)
  message : stream.openedMessage = true ↔ stream.text ≠ []
  reasoning : stream.openedReasoning = true ↔ stream.reasoning ≠ []

namespace OpenAiStream

variable {stream : OpenAiStream}

theorem emits_start : start.Emits where
  emitted := emitted_nothing
  message := by simp [start]
  reasoning := by simp [start]

theorem Emits.takeUsage (emits : stream.Emits) (payload : Json) : (stream.takeUsage payload).Emits := by
  rw [OpenAiStream.takeUsage]
  split
  · exact emits
  · exact ⟨emits.emitted, emits.message, emits.reasoning⟩

theorem Emits.takeReasoning (emits : stream.Emits) (delta : String) :
    (stream.takeReasoning delta).Emits := by
  rw [OpenAiStream.takeReasoning]
  split
  · exact emits
  · rename_i some
    have taken := emits.emitted.take .reasoning emits.reasoning some
    refine ⟨?_, emits.message, by simp⟩
    rw [piecesOf_reasoning] at taken
    exact taken

theorem Emits.takeText (emits : stream.Emits) (delta : String) : (stream.takeText delta).Emits := by
  rw [OpenAiStream.takeText]
  split
  · exact emits
  · rename_i some
    have taken := emits.emitted.take .message emits.message some
    refine ⟨?_, by simp, emits.reasoning⟩
    rw [piecesOf_text] at taken
    exact taken

end OpenAiStream

theorem takeOpenAiPayload_emits {stream : OpenAiStream} (emits : stream.Emits) (payload : Json) :
    (takeOpenAiPayload env stream payload).1.Emits := by
  let delta := ScriptValue.asRecord ((firstRecord (payload.get "choices")).get "delta")
  have reasoned := (emits.takeUsage payload).takeReasoning (textOf (delta.get "reasoning_content"))
  have read := reasoned.takeText (textOf (delta.get "content"))
  exact ⟨read.emitted, read.message, read.reasoning⟩

def AnthropicStream.Emits (stream : AnthropicStream) : Prop :=
  Emitted stream.emitter (piecesOf stream.text stream.reasoning)

namespace AnthropicStream

variable {stream : AnthropicStream}

theorem Emits.startBlock (emits : stream.Emits) (event : Json) : (stream.startBlock event).Emits := by
  rw [AnthropicStream.startBlock]
  split <;> exact emits

theorem Emits.takeDelta (emits : stream.Emits) (event : Json) : (stream.takeDelta event).Emits := by
  rw [AnthropicStream.takeDelta]
  split
  · rename_i text
    split
    · exact Emitted.takeText emits text.2
    · exact emits
  · split
    · rename_i thinking
      exact Emitted.takeReasoning emits thinking.2
    · split
      · split <;> exact emits
      · exact emits

theorem Emits.takeEvent (emits : stream.Emits) (kind : String) (event : Json) :
    (stream.takeEvent kind event).Emits := by
  rw [AnthropicStream.takeEvent]
  split
  · exact emits
  · split
    · exact emits.startBlock event
    · split
      · exact emits.takeDelta event
      · split <;> exact emits

end AnthropicStream

def GeminiStream.Emits (stream : GeminiStream) : Prop :=
  Emitted stream.emitter (piecesOf stream.text [])

theorem takeGeminiPart_emits {stream : GeminiStream} (emits : stream.Emits) (part : Json) :
    (takeGeminiPart env stream part).Emits := by
  rw [takeGeminiPart]
  split
  · rename_i some
    exact Emitted.takeText emits some
  · exact emits

theorem takeGeminiPayload_emits {stream : GeminiStream} (emits : stream.Emits) (payload : Json) :
    (takeGeminiPayload env stream payload).Emits := by
  have parts : ∀ (parts : List Json) (stream : GeminiStream), stream.Emits →
      (parts.foldl (takeGeminiPart env) stream).Emits := by
    intro parts
    induction parts with
    | nil => exact fun _ emits => emits
    | cons part parts ih => exact fun stream emits => ih _ (takeGeminiPart_emits env emits part)
  rw [takeGeminiPayload]
  apply parts
  split <;> exact emits

theorem readStream_keeps {State : Type} {handler : State → SseFrame → State × Option String}
    {Kept : State → Prop} (keeps : ∀ state frame, Kept state → Kept (handler state frame).1)
    {start : State} (kept : Kept start) (body : Option UpstreamBody) :
    Kept (readStream handler start body).1 :=
  foldUntil_keeps (fun state kept frame _ => keeps state frame kept) kept

theorem readOpenAi_emits (body : Option UpstreamBody) :
    (readStream (takeOpenAiFrame env) .start body).1.Emits := by
  refine readStream_keeps (fun stream frame emits => ?_) OpenAiStream.emits_start body
  rw [takeOpenAiFrame]
  split
  · exact emits
  · exact takeOpenAiPayload_emits env emits _

theorem readAnthropic_emits (body : Option UpstreamBody) :
    (readStream (takeAnthropicFrame env) .start body).1.Emits := by
  have start : AnthropicStream.start.Emits := emitted_nothing
  refine readStream_keeps (fun stream frame emits => ?_) start body
  rw [takeAnthropicFrame]
  split
  · exact emits
  · exact AnthropicStream.Emits.takeEvent emits _ _

theorem readGemini_emits (body : Option UpstreamBody) :
    (readStream (takeGeminiFrame env) .start body).1.Emits := by
  have start : GeminiStream.start.Emits := emitted_nothing
  refine readStream_keeps (fun stream frame emits => ?_) start body
  rw [takeGeminiFrame]
  split
  · exact emits
  · exact takeGeminiPayload_emits env emits _

end Zero3Pilot.ProviderBridge
