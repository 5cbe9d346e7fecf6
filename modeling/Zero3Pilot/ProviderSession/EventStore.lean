import Zero3Pilot.Foundations.ScriptValue
import Zero3Pilot.Foundations.Windows

/-! # The session event store

`Zero3SessionEventStore.ts`: the events of one logical session, the binding of the session to its
runtime, and the state of a provider switch, as the renderer keeps them. A session is taken as it is
read: what is written is normalized when it is read back, so `mutate` normalizes what it leaves. What
`JSON.stringify` answers, the ids that are drawn and the clock are parameters. -/

namespace Zero3Pilot.ProviderSession

open ScriptValue (asRecord items? text?)

/-! ## The data -/

inductive SessionEventType where
  | userMessage
  | agentMessage
  | reasoning
  | commandExecution
  | fileChange
  | mcpToolCall
  | approval
  | artifact
  | providerSwitch
  | turnState
  | runtime
  deriving DecidableEq

structure SessionEvent where
  eventId : String
  sessionSeq : Nat
  type : SessionEventType
  createdAt : String
  (turnId itemId runtimeThreadId profileId : Option String)
  payload : Json

/-- `LocalSessionThinkingEffort`. -/
inductive ThinkingEffort where
  | minimal
  | low
  | medium
  | high
  | xhigh
  | max
  | ultra

structure RuntimeBinding where
  generation : Nat
  (profileId model : Option String)
  thinkingEffort : Option ThinkingEffort
  (serviceTier runtimeThreadId projectId : Option String)
  updatedAt : String

inductive SwitchPhase where
  | active
  | handoffPending
  | handoffVerifying
  | switching
  | failed
  deriving DecidableEq

structure ProviderSwitchState where
  phase : SwitchPhase
  sourceGeneration : Nat
  targetGeneration : Option Nat
  (token targetProfileId error : Option String)
  updatedAt : String

structure StoredSession where
  (revision nextSeq : Nat)
  events : List SessionEvent
  binding : RuntimeBinding
  switchState : ProviderSwitchState
  pendingHandoff : Option Json

/-- What the surroundings answer: how JSON is written, and the ids and times of each revision. -/
structure StoreSurroundings where
  stringify : Json → String
  (uid now : Nat → String)

def maxEvents : Nat := 600

def maxText : Nat := 32000

/-! ## Texts and payloads -/

def sliceTo (max : Nat) (value : String) : String := String.ofList (takeUtf16 max value.toList)

def sliceFrom (max : Nat) (value : String) : String :=
  String.ofList (takeUtf16 max value.toList.reverse).reverse

def text (value : ScriptValue) (max : Nat) : String :=
  ((text? value).map (sliceTo max)).getD ""

def contentText (value : ScriptValue) : String :=
  match text? value with
  | some text => text
  | none =>
    let parts := ((items? value).getD []).map fun raw =>
      let part := asRecord (some raw)
      if text (part.get "text") maxText ≠ "" then text (part.get "text") maxText
      else text (part.get "content") maxText
    "\n".intercalate (parts.filter (· ≠ ""))

def payloadText (payload : Json) : String :=
  if text (payload.get "text") maxText ≠ "" then text (payload.get "text") maxText
  else contentText (payload.get "content")

def appendDelta (current delta : ScriptValue) (max : Nat) : String :=
  sliceFrom max (text current max ++ text delta max)

def itemStatus (item : Json) (standard : String) : Json :=
  .string ((text? (item.get "status")).getD standard)

def completedItemPayload (item : Json) : Json :=
  item.spread (.object [("phase", .string "complete"), ("status", itemStatus item "completed")])

def startedItemPayload (item : Json) : Json :=
  item.spread (.object [("phase", .string "running"), ("status", itemStatus item "inProgress")])

variable (env : StoreSurroundings)

def boundedPayload (value : Json) : Json :=
  let json := env.stringify value
  if utf16Length json ≤ 96000 then value
  else .object [("truncated", .bool true), ("preview", .string (sliceTo 90000 json))]

/-! ## Reading and writing a session -/

def emptySession : StoredSession where
  revision := 0
  nextSeq := 1
  events := []
  binding := ⟨1, none, none, none, none, none, none, env.now 0⟩
  switchState := ⟨.active, 1, none, none, none, none, env.now 0⟩
  pendingHandoff := none

def normalizeEvent (event : SessionEvent) : SessionEvent :=
  { event with payload := boundedPayload env event.payload }

/-- The highest sequence number of events. -/
def maxSeq (events : List SessionEvent) : Nat :=
  events.foldl (fun max event => Nat.max max event.sessionSeq) 0

def normalizeSession (session : StoredSession) : StoredSession :=
  let events := newest maxEvents (session.events.map (normalizeEvent env))
  let generation := if 0 < session.binding.generation then session.binding.generation else 1
  { revision := session.revision
    nextSeq := if maxSeq events < session.nextSeq then session.nextSeq else maxSeq events + 1
    events
    binding := { session.binding with generation }
    switchState :=
      { session.switchState with
        sourceGeneration :=
          if 0 < session.switchState.sourceGeneration then session.switchState.sourceGeneration
          else generation
        targetGeneration := session.switchState.targetGeneration.filter (0 < ·) }
    pendingHandoff := session.pendingHandoff.filter fun handoff =>
      text? (handoff.get "protocol") = some "zero3.session-provider-handoff.v1" }

def mutate (update : StoredSession → StoredSession) (session : StoredSession) : StoredSession :=
  let updated := update session
  normalizeSession env
    { updated with
      revision := session.revision + 1
      events := newest maxEvents updated.events }

/-! ## Events -/

/-- The members of `Partial<Zero3SessionEvent>` that callers give, apart from an item id. -/
structure EventMeta where
  eventId : Option String := none
  createdAt : Option String := none
  turnId : Option String := none
  runtimeThreadId : Option String := none
  profileId : Option String := none

def appendedEvent (type : SessionEventType) (payload : Json) (details : EventMeta)
    (itemId : Option String) (session : StoredSession) : SessionEvent where
  eventId := details.eventId.getD (env.uid session.revision)
  sessionSeq := session.nextSeq
  type := type
  createdAt := details.createdAt.getD (env.now session.revision)
  turnId := details.turnId.filter (· ≠ "")
  itemId := itemId.filter (· ≠ "")
  runtimeThreadId := details.runtimeThreadId.filter (· ≠ "")
  profileId := details.profileId.filter (· ≠ "")
  payload := boundedPayload env payload

def addEvent (type : SessionEventType) (payload : Json) (details : EventMeta)
    (itemId : Option String) (session : StoredSession) : StoredSession :=
  { session with
    nextSeq := session.nextSeq + 1
    events := session.events ++ [appendedEvent env type payload details itemId session] }

def append (type : SessionEventType) (payload : Json) (details : EventMeta)
    (itemId : Option String) (session : StoredSession) : StoredSession :=
  mutate env (addEvent env type payload details itemId) session

/-- What a notification says besides its item. -/
structure RuntimeMeta where
  (runtimeThreadId turnId : Option String)

def SessionEvent.isItem (event : SessionEvent) (itemId : String) (type : SessionEventType) : Bool :=
  event.itemId = some itemId && event.type = type

def updatedEvent (updater : Json → Json) (source : RuntimeMeta) (event : SessionEvent) :
    SessionEvent :=
  { event with
    runtimeThreadId := source.runtimeThreadId
    turnId := source.turnId
    payload := boundedPayload env (updater event.payload) }

def updateEvents (itemId : String) (type : SessionEventType) (updater : Json → Json)
    (source : RuntimeMeta) (session : StoredSession) : StoredSession :=
  { session with
    events := session.events.map fun event =>
      if event.isItem itemId type then updatedEvent env updater source event else event }

@[simp] theorem updateEvents_events (itemId : String) (type : SessionEventType)
    (updater : Json → Json) (source : RuntimeMeta) (session : StoredSession) :
    (updateEvents env itemId type updater source session).events = session.events.map fun event =>
        if event.isItem itemId type then updatedEvent env updater source event else event :=
  rfl

def updateItem (itemId : String) (type : SessionEventType) (updater : Json → Json)
    (source : RuntimeMeta) (session : StoredSession) : StoredSession :=
  let updated := mutate env (updateEvents env itemId type updater source) session
  if session.events.any (·.isItem itemId type) then updated
  else append env type (updater (.object []))
    { runtimeThreadId := source.runtimeThreadId, turnId := source.turnId } (some itemId) updated

def SessionEvent.isOrphan (event : SessionEvent) (normalized : String) : Bool :=
  !event.itemId.any (· ≠ "") && event.type = .userMessage &&
    scriptTrim (payloadText event.payload) = normalized

def changeFirst {α : Type} (asked : α → Bool) (change : α → α) : List α → Option (List α)
  | [] => none
  | item :: items =>
    if asked item then some (change item :: items)
    else (changeFirst asked change items).map (item :: ·)

def changeLast {α : Type} (asked : α → Bool) (change : α → α) (items : List α) : Option (List α) :=
  (changeFirst asked change items.reverse).map List.reverse

def withEvents (events : List SessionEvent) (session : StoredSession) : StoredSession :=
  { session with events }

@[simp] theorem withEvents_events (events : List SessionEvent) (session : StoredSession) :
    (withEvents events session).events = events :=
  rfl

def adoptOrphanUserMessage (itemId incomingText : String) (session : StoredSession) :
    Bool × StoredSession :=
  let normalized := scriptTrim incomingText
  if normalized = "" then (false, session)
  else
    match changeLast (·.isOrphan normalized) (fun event => { event with itemId := some itemId })
        session.events with
    | none => (false, mutate env id session)
    | some events => (true, mutate env (withEvents events) session)

def setBinding (patch : RuntimeBinding → RuntimeBinding) (session : StoredSession) : StoredSession :=
  mutate env (fun session =>
    { session with
      binding := { patch session.binding with updatedAt := env.now session.revision } }) session

/-! ## What the user and the assistant say -/

def appendUser (content : String) (details : EventMeta) (session : StoredSession) : StoredSession :=
  append env .userMessage (.object [("text", .string (sliceTo maxText content))]) details none session

def appendAssistant (content : String) (details : EventMeta) (session : StoredSession) :
    StoredSession :=
  let normalized := scriptTrim content
  if session.events.any fun event => event.type = .agentMessage &&
      scriptTrim (text (event.payload.get "text") maxText) = normalized then session
  else append env .agentMessage
    (.object [("text", .string normalized), ("phase", .string "complete"),
      ("status", .string "completed")]) details none session

structure LocalSessionMessage where
  id : String
  fromUser : Bool
  (content createdAt : String)

/-- What `ensureMigrated` reads of `LocalSessionRecord`. -/
structure LocalSessionRecord where
  (projectId runtimeId zero3ProfileId model : Option String)
  thinkingEffort : Option ThinkingEffort
  serviceTier : Option String
  messages : List LocalSessionMessage

/-- The round of the loop of `ensureMigrated`. -/
def migrateMessage (session : StoredSession) (message : LocalSessionMessage) : StoredSession :=
  let details : EventMeta :=
    { eventId := some s!"legacy-{message.id}", createdAt := some message.createdAt }
  if message.fromUser then appendUser env message.content details session
  else appendAssistant env message.content details session

def ensureMigrated (record : LocalSessionRecord) (session : StoredSession) : StoredSession :=
  if session.events ≠ [] then session
  else
    setBinding env (fun binding =>
      { binding with
        profileId := record.zero3ProfileId
        model := record.model
        thinkingEffort := record.thinkingEffort
        serviceTier := record.serviceTier
        runtimeThreadId := record.runtimeId
        projectId := record.projectId }) (record.messages.foldl (migrateMessage env) session)

/-! ## What the runtime says -/

def itemEventType (itemType : ScriptValue) : Option SessionEventType :=
  match text? itemType with
  | some "userMessage" => some .userMessage
  | some "agentMessage" => some .agentMessage
  | some "reasoning" | some "plan" => some .reasoning
  | some "commandExecution" => some .commandExecution
  | some "fileChange" => some .fileChange
  | some "mcpToolCall" | some "dynamicToolCall" | some "webSearch" => some .mcpToolCall
  | _ => none

def threadIdFrom (params : Json) : Option String := text? (params.get "threadId")

def turnIdFrom (params : Json) : Option String :=
  match text? (params.get "turnId") with
  | some turnId => some turnId
  | none => text? ((asRecord (params.get "turn")).get "id")

def followedItem (value : Json) : Option (String × SessionEventType × Json) :=
  match text? (value.get "id"), itemEventType (value.get "type") with
  | some itemId, some type => if itemId = "" then none else some (itemId, type, value)
  | _, _ => none

def runningPayload (name : String) (value : ScriptValue) (payload : Json) : Json :=
  match value with
  | some value => payload.spread (.object [("phase", .string "running"), (name, value)])
  | none =>
    match payload.spread (.object [("phase", .string "running")]) with
    | .object members => .object (members.filter (·.1 ≠ name))
    | other => other

def partOf (method : String) (params : Json) : Option (SessionEventType × (Json → Json)) :=
  match method with
  | "item/agentMessage/delta" =>
    some (.agentMessage, fun payload => runningPayload "text"
      (some (.string (appendDelta (payload.get "text") (params.get "delta") maxText))) payload)
  | "item/reasoning/summaryTextDelta" | "item/reasoning/textDelta" =>
    some (.reasoning, fun payload => runningPayload "text"
      (some (.string (appendDelta (payload.get "text") (params.get "delta") maxText))) payload)
  | "item/commandExecution/outputDelta" =>
    some (.commandExecution, fun payload => runningPayload "output"
      (some (.string (appendDelta (payload.get "output") (params.get "delta") maxText))) payload)
  | "item/fileChange/patchUpdated" =>
    some (.fileChange, runningPayload "changes" (params.get "changes"))
  | "item/mcpToolCall/progress" =>
    some (.mcpToolCall, fun payload => runningPayload "progress"
      (some (.string (appendDelta (payload.get "progress") (params.get "message") 12000))) payload)
  | _ => none

def adoptFor (itemId : String) (type : SessionEventType) (payload : Json)
    (session : StoredSession) : StoredSession :=
  if type = .userMessage then (adoptOrphanUserMessage env itemId (payloadText payload) session).2
  else session

inductive CodexEnvelope where
  | lifecycle (state : String) (detail : Option String)
  | notification (method : String) (params : ScriptValue)
  | request

def ingestNotification (method : String) (params : Json) (session : StoredSession) : StoredSession :=
  let source : RuntimeMeta := ⟨threadIdFrom params, turnIdFrom params⟩
  let item := followedItem (asRecord (params.get "item"))
  if method = "item/started" then
    match item with
    | some (itemId, type, item) =>
      updateItem env itemId type (fun _ => startedItemPayload item) source
        (adoptFor env itemId type (startedItemPayload item) session)
    | none => session
  else if method = "item/completed" then
    match item with
    | some (itemId, type, item) =>
      updateItem env itemId type (fun previous => previous.spread (completedItemPayload item))
        source (adoptFor env itemId type (completedItemPayload item) session)
    | none => session
  else if method = "turn/completed" then
    let turn := asRecord (params.get "turn")
    let status := if (turn.get "status").isNullish then some (.string "completed")
      else turn.get "status"
    append env .turnState
      (.object [("status", status.getD .null), ("error", (turn.get "error").getD .null)])
      { runtimeThreadId := source.runtimeThreadId
        turnId := (text? (turn.get "id")).orElse fun _ => source.turnId } none session
  else
    match partOf method params with
    | some (type, updater) =>
      let itemId := text (params.get "itemId") 256
      if itemId = "" then session else updateItem env itemId type updater source session
    | none => session

def ingestCodexEvent (envelope : CodexEnvelope) (session : StoredSession) : StoredSession :=
  match envelope with
  | .lifecycle state detail =>
    if state = "error" ∨ state = "stopped" then
      append env .runtime
        (.object [("state", .string state), ("detail", .string (detail.getD ""))]) {} none session
    else session
  | .notification method params => ingestNotification env method (asRecord params) session
  | .request => session

/-! ## Hydration -/

/-- What `hydrateFromThread` looks at one after the other. -/
inductive ThreadEntry where
  | item (itemId : String) (type : SessionEventType) (payload : Json) (turnId : Option String)
  | turnEnd (turnId : String) (status error : Json)

def itemEntry (turnId : Option String) (rawItem : Json) : Option ThreadEntry :=
  (followedItem (asRecord (some rawItem))).map fun (itemId, type, item) =>
    .item itemId type (completedItemPayload item) turnId

def turnEntries (rawTurn : Json) : List ThreadEntry :=
  let turn := asRecord (some rawTurn)
  let turnId := text? (turn.get "id")
  let items := ((items? (turn.get "items")).getD []).filterMap (itemEntry turnId)
  match turnId, text? (turn.get "status") with
  | some turnId, some status =>
    if turnId ≠ "" ∧ (status = "completed" ∨ status = "failed" ∨ status = "interrupted") then
      items ++ [.turnEnd turnId (.string status) ((turn.get "error").getD .null)]
    else items
  | _, _ => items

/-- The entries of the answer to `thread/read`. -/
def threadEntries (response : ScriptValue) : List ThreadEntry :=
  let root := asRecord response
  let thread := asRecord (root.get "thread")
  let turns := ((items? (thread.get "turns")).orElse fun _ =>
    items? (root.get "turns")).getD []
  turns.flatMap turnEntries

def hasTurn (turnId : String) (session : StoredSession) : Bool :=
  session.events.any fun event => event.type = .turnState && event.turnId = some turnId

def hydrateEntry (runtimeThreadId : Option String) (seen : StoredSession × List String)
    (entry : ThreadEntry) : StoredSession × List String :=
  let (session, existingIds) := seen
  match entry with
  | .item itemId type payload turnId =>
    if itemId ∈ existingIds then (session, existingIds)
    else
      let (adopted, after) :=
        if type = .userMessage then
          adoptOrphanUserMessage env itemId (payloadText payload) session
        else (false, session)
      (if adopted then after
        else append env type payload { turnId, runtimeThreadId } (some itemId) after,
        itemId :: existingIds)
  | .turnEnd turnId status error =>
    (if hasTurn turnId session then session
      else append env .turnState (.object [("status", status), ("error", error)])
        { turnId := some turnId, runtimeThreadId } none session, existingIds)

def itemIds (session : StoredSession) : List String :=
  session.events.filterMap fun event => event.itemId.filter (· ≠ "")

def hydrateFromThread (response : ScriptValue) (runtimeThreadId : Option String)
    (session : StoredSession) : StoredSession :=
  let threadId := runtimeThreadId.filter (· ≠ "")
  let (hydrated, _) :=
    (threadEntries response).foldl (hydrateEntry env runtimeThreadId) (session, itemIds session)
  match threadId with
  | some threadId =>
    setBinding env (fun binding => { binding with runtimeThreadId := some threadId }) hydrated
  | none => hydrated

end Zero3Pilot.ProviderSession
