import Zero3Pilot.Foundations.ScriptValue
import Zero3Pilot.Foundations.Strands

/-! # The robot gateway

Messages of a channel are routed to the agent of a backend, which goes on with the thread it had for the
same channel, chat, thread and sender. The threads and the settings of the channels stand in one document.
A turn reads the document before it runs the agent and writes it afterwards; a change of the settings reads
and writes it at once. What happens between two awaited calls is one call here. -/

namespace Zero3Pilot.Robot

inductive RobotChannel where
  | weixin
  | qq
  deriving DecidableEq

inductive RobotBackend where
  | zero3
  | codex
  | claude
  deriving DecidableEq

namespace RobotChannel

def name : RobotChannel → String
  | weixin => "weixin"
  | qq => "qq"

end RobotChannel

namespace RobotBackend

def name : RobotBackend → String
  | zero3 => "zero3"
  | codex => "codex"
  | claude => "claude"

end RobotBackend

structure PublicApiProfile where
  (id name model : String)

structure ChannelSettings where
  enabled : Bool := true
  defaultBackend : RobotBackend := .zero3
  zero3ProfileId : Option String := none

structure SessionState where
  zero3ThreadId : Option String := none
  codexThreadId : Option String := none
  claudeSessionId : Option String := none

namespace SessionState

def get (session : SessionState) : RobotBackend → Option String
  | .zero3 => session.zero3ThreadId
  | .codex => session.codexThreadId
  | .claude => session.claudeSessionId

def set (session : SessionState) (id : String) : RobotBackend → SessionState
  | .zero3 => { session with zero3ThreadId := some id }
  | .codex => { session with codexThreadId := some id }
  | .claude => { session with claudeSessionId := some id }

theorem get_set (session : SessionState) (id : String) (backend other : RobotBackend) :
    (session.set id backend).get other = if other = backend then some id else session.get other := by
  cases backend <;> cases other <;> rfl

end SessionState

structure RobotState where
  channels : RobotChannel → ChannelSettings
  sessions : String → Option SessionState

/-! ## The document -/

def defaultState : RobotState := ⟨fun _ => {}, fun _ => none⟩

/-- The text of an identifier without the blanks around it; an empty one is none. -/
def presentText (text : String) : Option String :=
  let trimmed := scriptTrim text
  if trimmed = "" then none else some trimmed

def normalizeChannelSettings (settings : ChannelSettings) : ChannelSettings :=
  { settings with zero3ProfileId := settings.zero3ProfileId.bind presentText }

/-- The document as it is read; one that is missing or does not parse is the default. -/
def readState (file : Option RobotState) : RobotState :=
  match file with
  | some parsed => { parsed with channels := fun channel => normalizeChannelSettings (parsed.channels channel) }
  | none => defaultState

/-- The settings that a change names. -/
structure SettingsPatch where
  enabled : Option Bool := none
  defaultBackend : Option RobotBackend := none
  zero3ProfileId : Option (Option String) := none

def SettingsPatch.apply (patch : SettingsPatch) (settings : ChannelSettings) : ChannelSettings where
  enabled := patch.enabled.getD settings.enabled
  defaultBackend := patch.defaultBackend.getD settings.defaultBackend
  zero3ProfileId := patch.zero3ProfileId.getD settings.zero3ProfileId

/-- The settings after a change, and the document with them. -/
def updateChannelSettings (channel : RobotChannel) (patch : SettingsPatch) (file : Option RobotState) :
    ChannelSettings × RobotState :=
  let state := readState file
  let next := normalizeChannelSettings (patch.apply (state.channels channel))
  (next, { state with channels := fun other => if other = channel then next else state.channels other })

/-! ## Messages -/

/-- What a request is refused with. -/
structure RouteError where
  message : String
  approvalRequired : Bool := false
  deriving DecidableEq

def routeString (value : ScriptValue) (label : String) (max : Nat) : Except RouteError String :=
  let text := (value.text?.map scriptTrim).getD ""
  if text = "" ∨ max < utf16Length text then .error { message := label ++ " 无效" } else .ok text

def routeBackend (value : ScriptValue) : Except RouteError RobotBackend :=
  match value.text? with
  | some "zero3" => .ok .zero3
  | some "codex" => .ok .codex
  | some "claude" => .ok .claude
  | _ => .error { message := "不支持的机器人处理器" }

def routeChannel (value : ScriptValue) : Except RouteError RobotChannel :=
  match value.text? with
  | some "weixin" => .ok .weixin
  | some "qq" => .ok .qq
  | _ => .error { message := "不支持的机器人通道" }

/-- Whose message it is. -/
structure RouteIdentity where
  channel : RobotChannel
  (chat thread sender : String)
  deriving DecidableEq

namespace RouteIdentity

def joined (identity : RouteIdentity) : String :=
  identity.channel.name ++ ":" ++ identity.chat ++ ":" ++ identity.thread ++ ":" ++ identity.sender

/-- The key of the session, cut to 4096 code units. -/
def key (identity : RouteIdentity) : String :=
  String.ofList (takeUtf16 4096 identity.joined.toList)

end RouteIdentity

/-- Whose message a request is. -/
def routeIdentity (body : Json) (channel : RobotChannel) : Except RouteError RouteIdentity := do
  let sender ← routeString (body.get "sender_id") "sender_id" 1024
  let chat := ((ScriptValue.text? (body.get "chat_id")).bind presentText).getD sender
  let thread := ((ScriptValue.text? (body.get "thread_id")).bind presentText).getD "-"
  pure ⟨channel, chat, thread, sender⟩

def sessionKey (body : Json) (channel : RobotChannel) : Except RouteError String :=
  (routeIdentity body channel).map RouteIdentity.key

def sessionFor (state : RobotState) (key : String) : SessionState := (state.sessions key).getD {}

def RobotState.keep (state : RobotState) (key : String) (session : SessionState) : RobotState :=
  { state with sessions := fun other => if other = key then some session else state.sessions other }

/-! ## Calls -/

/-- A turn whose agent has answered. The document has nothing of it but the thread. -/
structure FinishedTurn where
  identity : RouteIdentity
  backend : RobotBackend
  read : RobotState
  (resumed obtained : Option String)

/-- What is known of the service of a channel. -/
structure ServiceState where
  (gatewayUp running : Bool)
  error : Option String

inductive RobotCall where
  | readState
  | writeState (turn : FinishedTurn) (state : RobotState)
  | updateChannelSettings (channel : RobotChannel) (patch : SettingsPatch)
  | listZero3Profiles
  | runZero3 (profileId : String) (request : Json)
  | runCodex (request : Json)
  | runClaude (request : Json)
  | rawChannelStatus (channel : RobotChannel)
  | serviceState (channel : RobotChannel)
  | spawnService (channel : RobotChannel) (settings : ChannelSettings)
  | stopService (channel : RobotChannel)

@[reducible] def RobotReply : RobotCall → Type
  | .readState => RobotState
  | .updateChannelSettings _ _ => ChannelSettings
  | .listZero3Profiles => List PublicApiProfile
  | .runZero3 _ _ | .runCodex _ | .runClaude _ | .rawChannelStatus _ => Json
  | .serviceState _ => ServiceState
  | .writeState _ _ | .spawnService _ _ | .stopService _ => Unit

abbrev Gateway (α : Type) := Program RobotCall RobotReply RouteError α

def ask (call : RobotCall) : Gateway (RobotReply call) := Program.perform (fun message => { message }) call

def checked {α : Type} : Except RouteError α → Gateway α
  | .ok value => pure value
  | .error error => throw error

/-! ## Turns -/

section Routes

variable (defaultCwd : String)

/-- The identifier an agent has returned. -/
def obtainedId (result : Json) (field : String) : Option String :=
  (ScriptValue.text? (result.get field)).bind presentText

def idOrNull (id : Option String) : Json := id.elim .null .string

def writeSession (identity : RouteIdentity) (backend : RobotBackend) (state : RobotState)
    (obtained : Option String) : Gateway Unit :=
  let session := sessionFor state identity.key
  let kept := obtained.elim session fun id => session.set id backend
  ask (.writeState ⟨identity, backend, state, session.get backend, obtained⟩
    (state.keep identity.key kept))

def routeZero3 (identity : RouteIdentity) (body : Json) (state : RobotState) : Gateway Json := do
  let profiles ← ask .listZero3Profiles
  let settings := state.channels identity.channel
  let chosen := profiles.find? fun item => some item.id = settings.zero3ProfileId
  match chosen.or profiles.head? with
  | none => throw { message := "尚未配置 Zero3 API Profile，请先在 Zero3 会话中配置模型。" }
  | some profile =>
    let session := sessionFor state identity.key
    let text ← checked (routeString (body.get "text") "text" 128000)
    let result ← ask (.runZero3 profile.id (.object [("text", .string text), ("cwd", .string defaultCwd),
      ("projectId", .string ("robot-" ++ identity.channel.name)),
      ("threadId", idOrNull session.zero3ThreadId), ("history", .array [])]))
    writeSession identity .zero3 state (obtainedId result "threadId")
    let model := result.get "model"
    pure (result.spread (.object [("backend", .string "zero3"), ("profileId", .string profile.id),
      ("profileName", .string profile.name),
      ("model", if model.isNullish then .string profile.model else model.getD .null)]))

def routeElevated (identity : RouteIdentity) (backend : RobotBackend) (body : Json) (state : RobotState) :
    Gateway Json :=
  if ¬ (body.get "approved").isTrue then
    throw { message := backend.name ++ " Agent 执行可能访问或修改本机/项目资源，需要授权码批准当前操作。",
            approvalRequired := true }
  else do
    let session := sessionFor state identity.key
    let text ← checked (routeString (body.get "text") "text" 128000)
    let common := [("text", Json.string text), ("cwd", Json.string defaultCwd)]
    let result ←
      if backend = .codex then
        ask (.runCodex (.object (common ++ [("threadId", idOrNull session.codexThreadId)])))
      else ask (.runClaude (.object (common ++ [("sessionId", idOrNull session.claudeSessionId)])))
    writeSession identity backend state
      (obtainedId result (if backend = .codex then "threadId" else "sessionId"))
    pure (result.spread (.object [("backend", .string backend.name)]))

/-- **A message of a channel.** -/
def handleRoute (body : Json) : Gateway Json := do
  let channel ← checked (routeChannel (body.get "channel"))
  let backend ← checked (routeBackend (body.get "backend"))
  let state ← ask .readState
  let identity ← checked (routeIdentity body channel)
  if backend = .zero3 then routeZero3 defaultCwd identity body state
  else routeElevated defaultCwd identity backend body state

end Routes

/-! ## Settings -/

namespace ChannelSettings

def toRecord (settings : ChannelSettings) : Json :=
  .object [("enabled", .bool settings.enabled), ("defaultBackend", .string settings.defaultBackend.name),
    ("zero3ProfileId", idOrNull settings.zero3ProfileId)]

end ChannelSettings

def boundFromStatus (channel : RobotChannel) (status : Json) : Bool :=
  ((ScriptValue.asRecord (status.get channel.name)).get "connected").isTrue

def channelStatus (channel : RobotChannel) : Gateway Json := do
  let raw ← ask (.rawChannelStatus channel)
  let state ← ask .readState
  let settings := state.channels channel
  let service ← ask (.serviceState channel)
  if service.gatewayUp && settings.enabled && boundFromStatus channel raw && !service.running then
    ask (.spawnService channel settings)
  let shown ← ask (.serviceState channel)
  pure (raw.spread (.object [("service_running", .bool shown.running),
    ("service_error", idOrNull shown.error), ("settings", settings.toRecord)]))

def setServiceEnabled (channel : RobotChannel) (enabled : Bool) : Gateway Json := do
  let settings ← ask (.updateChannelSettings channel { enabled := some enabled })
  if enabled then do
    let status ← ask (.rawChannelStatus channel)
    if boundFromStatus channel status then ask (.spawnService channel settings)
    channelStatus channel
  else do
    ask (.stopService channel)
    channelStatus channel

/-- The change that a request of the settings view asks for. -/
def settingsPatch (record : Json) : Except RouteError SettingsPatch := do
  let backend ← match record.get "defaultBackend" with
    | none => pure none
    | some value => some <$> routeBackend (some value)
  let profile := match record.get "zero3ProfileId" with
    | some .null => some none
    | some (.string text) => some (presentText text)
    | _ => none
  pure { defaultBackend := backend, zero3ProfileId := profile }

def updateSettings (channel : RobotChannel) (value : ScriptValue) : Gateway Json := do
  let patch ← checked (settingsPatch (ScriptValue.asRecord value))
  let next ← ask (.updateChannelSettings channel patch)
  let service ← ask (.serviceState channel)
  if service.running then do
    ask (.stopService channel)
    if next.enabled then ask (.spawnService channel next)
  pure next.toRecord

/-! ## The process -/

inductive RobotEntry where
  | changed (channel : RobotChannel) (patch : SettingsPatch)
  | finished (turn : FinishedTurn)

/-- The document, and the log of what has been done. -/
structure RobotWorld where
  file : Option RobotState
  log : List RobotEntry

/-- What a call meets: whether it fails, and what is answered to it from outside. -/
structure RobotEnvironment where
  fault : Option String
  profiles : List PublicApiProfile
  result : Json
  service : ServiceState

namespace RobotEnvironment

variable {α : Type}

/-- The reply, where nothing fails. -/
def outcome (environment : RobotEnvironment) (value : α) : Except String α :=
  environment.fault.elim (.ok value) .error

end RobotEnvironment

/-- **What a call does.** -/
def RobotWorld.answer (environment : RobotEnvironment) (world : RobotWorld) :
    (call : RobotCall) → Except String (RobotReply call) × RobotWorld
  | .readState => (.ok (readState world.file), world)
  | .writeState turn state =>
    match environment.fault with
    | some message => (.error message, world)
    | none => (.ok (), ⟨some state, world.log ++ [.finished turn]⟩)
  | .updateChannelSettings channel patch =>
    match environment.fault with
    | some message => (.error message, world)
    | none =>
      let changed := updateChannelSettings channel patch world.file
      (.ok changed.1, ⟨some changed.2, world.log ++ [.changed channel patch]⟩)
  | .listZero3Profiles => (environment.outcome environment.profiles, world)
  | .runZero3 _ _ | .runCodex _ | .runClaude _ | .rawChannelStatus _ =>
    (environment.outcome environment.result, world)
  | .serviceState _ => (.ok environment.service, world)
  | .spawnService _ _ | .stopService _ => (environment.outcome (), world)

/-- What the process is asked to do. -/
inductive RobotOperation where
  | route (body : Json)
  | setServiceEnabled (channel : RobotChannel) (enabled : Bool)
  | updateSettings (channel : RobotChannel) (value : ScriptValue)

/-- The process; its document outlives it. -/
def robotHost (defaultCwd : String) :
    StrandHost RobotWorld RobotCall RobotReply RouteError Json RobotOperation RobotEnvironment where
  code
    | .route body => handleRoute defaultCwd body
    | .setServiceEnabled channel enabled => Robot.setServiceEnabled channel enabled
    | .updateSettings channel value => Robot.updateSettings channel value
  perform environment world call := some (world.answer environment call)
  restart world := world

abbrev RobotPool := StrandPool RobotWorld RobotCall RobotReply RouteError Json RobotOperation
abbrev RobotInput := StrandInput RobotOperation RobotEnvironment
abbrev RobotHistory := List (RobotInput × Option (StrandEnding RobotWorld RouteError Json RobotOperation))

end Zero3Pilot.Robot
