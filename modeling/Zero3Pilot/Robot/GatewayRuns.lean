import Zero3Pilot.Foundations.Positions
import Zero3Pilot.Foundations.Separators
import Zero3Pilot.Robot.Gateway

/-! # Turns of the robot gateway over whole runs

A turn writes the whole document back as it was when the turn began. So the document is what the changes
and turns make one after the other only where a turn finds it at its end as it has read it; and a key tells
whose session it is only where the chat and the thread have no separator and nothing is cut off. -/

namespace Zero3Pilot.Robot

open Program

/-! ## What is asked -/

def settingsAfter (channel : RobotChannel) (log : List RobotEntry) (settings : ChannelSettings) :
    ChannelSettings :=
  log.foldl (fun settings entry =>
    match entry with
    | .changed other patch =>
      if other = channel then normalizeChannelSettings (patch.apply settings) else settings
    | .finished _ => settings) settings

def idAfter (identity : RouteIdentity) (backend : RobotBackend) (log : List RobotEntry)
    (id : Option String) : Option String :=
  log.foldl (fun id entry =>
    match entry with
    | .finished turn =>
      if turn.identity = identity ∧ turn.backend = backend then turn.obtained.or id else id
    | .changed _ _ => id) id

/-- The identifier in a document. -/
def RobotState.idOf (state : RobotState) (identity : RouteIdentity) (backend : RobotBackend) :
    Option String :=
  (sessionFor state identity.key).get backend

/-- **What is asked of the document**: it is what the changes and the turns make one after the other. -/
structure InOrder (start : RobotState) (world : RobotWorld) : Prop where
  settings : ∀ channel,
    (readState world.file).channels channel = settingsAfter channel world.log (start.channels channel)
  /-- What a turn has obtained is stored under its own key. -/
  sessions : ∀ turn, .finished turn ∈ world.log →
    (readState world.file).idOf turn.identity turn.backend =
      idAfter turn.identity turn.backend world.log (start.idOf turn.identity turn.backend)
  /-- A turn has gone on with what the last turn before it has obtained, and no thread is left behind. -/
  resumed : Throughout (fun before entry => ∀ turn, entry = .finished turn →
    turn.resumed = idAfter turn.identity turn.backend before (start.idOf turn.identity turn.backend))
      world.log

/-- The messages that were routed. -/
def routed (history : RobotHistory) (identity : RouteIdentity) : Prop :=
  ∃ body channel ending, (.begin (.route body), ending) ∈ history ∧
    routeIdentity body channel = .ok identity ∧ routeChannel (body.get "channel") = .ok channel

/-- Messages of different identities have different keys. -/
def Separate (history : RobotHistory) : Prop :=
  ∀ identity other, routed history identity → routed history other →
    identity.key = other.key → identity = other

/-! ## The condition -/

/-- The chat and the thread have no separator, and nothing of the key is cut off. -/
structure RouteIdentity.Plain (identity : RouteIdentity) : Prop where
  chat : ':' ∉ identity.chat.toList
  thread : ':' ∉ identity.thread.toList
  short : utf16Length identity.joined ≤ 4096

def finishing (pool : RobotPool) (position : Nat) : Option FinishedTurn :=
  match pool.strands[position]? with
  | some ⟨_, _, .await (.writeState turn _) _⟩ => some turn
  | _ => none

/-- **The condition on a step**: a message is plain, and a turn that ends finds the document as it has
read it. -/
def Steady (pool : RobotPool) : RobotInput → Prop
  | .begin (.route body) => ∀ channel identity, routeChannel (body.get "channel") = .ok channel →
      routeIdentity body channel = .ok identity → identity.Plain
  | .begin (.setServiceEnabled _ _) | .begin (.updateSettings _ _) | .stop => True
  | .turn position environment => ∀ turn, finishing pool position = some turn →
      environment.fault = none → readState pool.world.file = turn.read

/-! ## Keys -/

section Keys

variable {identity other : RouteIdentity}

theorem takeUtf16_eq_self {units : Nat} {chars : List Char}
    (room : chars.foldr (fun char length => utf16Units char + length) 0 ≤ units) :
    takeUtf16 units chars = chars := by
  induction chars generalizing units with
  | nil => rfl
  | cons char chars ih =>
    rw [List.foldr_cons] at room
    rw [takeUtf16, if_pos (by omega), ih (by omega)]

theorem RouteIdentity.Plain.key_eq (plain : identity.Plain) : identity.key = identity.joined := by
  rw [RouteIdentity.key, takeUtf16_eq_self plain.short, String.ofList_toList]

theorem joined_toList : identity.joined.toList = identity.channel.name.toList ++
    ':' :: (identity.chat.toList ++ ':' :: (identity.thread.toList ++ ':' :: identity.sender.toList)) := by
  simp [RouteIdentity.joined]

theorem name_plain (channel : RobotChannel) : ':' ∉ channel.name.toList := by
  cases channel <;> decide

theorem name_injective {channel channel' : RobotChannel} (same : channel.name = channel'.name) :
    channel = channel' := by
  cases channel <;> cases channel' <;> first | rfl | exact absurd same (by decide)

/-- **Different plain messages have different keys.** -/
theorem key_injective (plain : identity.Plain) (plain' : other.Plain) (same : identity.key = other.key) :
    identity = other := by
  rw [plain.key_eq, plain'.key_eq] at same
  have texts := congrArg String.toList same
  rw [joined_toList, joined_toList] at texts
  obtain ⟨channels, rest⟩ := separator_injective (name_plain _) (name_plain _) texts
  obtain ⟨chats, rest⟩ := separator_injective plain.chat plain'.chat rest
  obtain ⟨threads, senders⟩ := separator_injective plain.thread plain'.thread rest
  obtain ⟨channel, chat, thread, sender⟩ := identity
  obtain ⟨channel', chat', thread', sender'⟩ := other
  simp only [RouteIdentity.mk.injEq]
  exact ⟨name_injective (String.ext channels), String.ext chats, String.ext threads,
    String.ext senders⟩

end Keys

/-! ## The document -/

section Document

variable {start : RobotState} {world : RobotWorld} {turn : FinishedTurn}

theorem presentText_bind (id : Option String) : (id.bind presentText).bind presentText = id.bind presentText := by
  cases id with
  | none => rfl
  | some text =>
    simp only [Option.bind_some, presentText]
    by_cases empty : scriptTrim text = ""
    · rw [if_pos empty]
      rfl
    · rw [if_neg empty, Option.bind_some, presentText, scriptTrim_scriptTrim, if_neg empty]

@[simp] theorem normalize_normalize (settings : ChannelSettings) :
    normalizeChannelSettings (normalizeChannelSettings settings) = normalizeChannelSettings settings := by
  simp [normalizeChannelSettings, presentText_bind]

theorem readState_channels (file : Option RobotState) (channel : RobotChannel) :
    normalizeChannelSettings ((readState file).channels channel) = (readState file).channels channel := by
  cases file with
  | none => rfl
  | some parsed => exact normalize_normalize _

@[simp] theorem settingsAfter_concat (channel : RobotChannel) (log : List RobotEntry)
    (settings : ChannelSettings) (entry : RobotEntry) :
    settingsAfter channel (log ++ [entry]) settings =
      settingsAfter channel [entry] (settingsAfter channel log settings) := by
  simp [settingsAfter]

@[simp] theorem idAfter_concat (identity : RouteIdentity) (backend : RobotBackend)
    (log : List RobotEntry) (id : Option String) (entry : RobotEntry) :
    idAfter identity backend (log ++ [entry]) id =
      idAfter identity backend [entry] (idAfter identity backend log id) := by
  simp [idAfter]

structure FinishedTurn.Writes (turn : FinishedTurn) (state : RobotState) : Prop where
  plain : turn.identity.Plain
  resumed : turn.resumed = turn.read.idOf turn.identity turn.backend
  channels : state.channels = turn.read.channels
  sessions : ∀ identity backend, identity.Plain → state.idOf identity backend =
    if identity = turn.identity ∧ backend = turn.backend then turn.obtained.or turn.resumed
    else turn.read.idOf identity backend

/-- The calls of the gateway's programs. -/
def Allowed : RobotCall → Prop
  | .writeState turn state => turn.Writes state
  | .readState | .updateChannelSettings _ _ | .listZero3Profiles | .runZero3 _ _ | .runCodex _
  | .runClaude _ | .rawChannelStatus _ | .serviceState _ | .spawnService _ _ | .stopService _ => True

/-- **What carries `InOrder`**: the document has for every plain identity what the turns have obtained. -/
structure Kept (start : RobotState) (world : RobotWorld) : Prop where
  settings : ∀ channel,
    (readState world.file).channels channel = settingsAfter channel world.log (start.channels channel)
  sessions : ∀ identity backend, identity.Plain → (readState world.file).idOf identity backend =
      idAfter identity backend world.log (start.idOf identity backend)
  plain : ∀ turn, .finished turn ∈ world.log → turn.identity.Plain
  resumed : Throughout (fun before entry => ∀ turn, entry = .finished turn →
    turn.resumed = idAfter turn.identity turn.backend before (start.idOf turn.identity turn.backend))
      world.log

theorem Kept.inOrder (kept : Kept start world) : InOrder start world where
  settings := kept.settings
  sessions turn member := kept.sessions turn.identity turn.backend (kept.plain turn member)
  resumed := kept.resumed

theorem Kept.changed (kept : Kept start world) (channel : RobotChannel) (patch : SettingsPatch) :
    Kept start ⟨some (updateChannelSettings channel patch world.file).2,
      world.log ++ [.changed channel patch]⟩ where
  settings other := by
    rw [settingsAfter_concat, ← kept.settings]
    by_cases same : other = channel
    · subst same
      simp [readState, updateChannelSettings, settingsAfter]
    · have apart : channel ≠ other := Ne.symm same
      have kept' := readState_channels world.file other
      simpa [readState, updateChannelSettings, settingsAfter, same, apart] using kept'
  sessions identity backend plain := by
    rw [idAfter_concat, ← kept.sessions identity backend plain]
    rfl
  plain turn member := by
    obtain earlier | now := List.mem_append.1 member
    · exact kept.plain turn earlier
    · cases List.mem_singleton.1 now
  resumed := by
    rw [throughout_concat]
    refine ⟨kept.resumed, ?_⟩
    intro turn same
    cases same

theorem Kept.finished (kept : Kept start world) {state : RobotState} (writes : turn.Writes state)
    (unchanged : readState world.file = turn.read) :
    Kept start ⟨some state, world.log ++ [.finished turn]⟩ where
  settings channel := by
    rw [settingsAfter_concat, ← kept.settings]
    show normalizeChannelSettings (state.channels channel) = (readState world.file).channels channel
    rw [writes.channels, ← unchanged, readState_channels]
  sessions identity backend plain := by
    rw [idAfter_concat, ← kept.sessions identity backend plain]
    show state.idOf identity backend = _
    rw [writes.sessions identity backend plain, unchanged]
    by_cases own : identity = turn.identity ∧ backend = turn.backend
    · obtain ⟨rfl, rfl⟩ := own
      simp [idAfter, writes.resumed]
    · have other : ¬ (turn.identity = identity ∧ turn.backend = backend) := by
        rintro ⟨rfl, rfl⟩
        exact own ⟨rfl, rfl⟩
      simp [idAfter, own, other]
  plain other member := by
    obtain earlier | now := List.mem_append.1 member
    · exact kept.plain other earlier
    · cases List.mem_singleton.1 now
      exact writes.plain
  resumed := by
    rw [throughout_concat]
    refine ⟨kept.resumed, ?_⟩
    rintro other ⟨rfl⟩
    rw [← kept.sessions turn.identity turn.backend writes.plain, unchanged, writes.resumed]

theorem Kept.answer (kept : Kept start world) {call : RobotCall} {environment : RobotEnvironment}
    (allowed : Allowed call) (unchanged : ∀ turn state, call = .writeState turn state →
      environment.fault = none → readState world.file = turn.read) :
    Kept start (world.answer environment call).2 := by
  cases call with
  | writeState turn state =>
    cases clear : environment.fault with
    | some message => simpa [RobotWorld.answer, clear] using kept
    | none =>
      have finished := kept.finished allowed (unchanged turn state rfl clear)
      simpa [RobotWorld.answer, clear] using finished
  | updateChannelSettings channel patch =>
    cases clear : environment.fault with
    | some message => simpa [RobotWorld.answer, clear] using kept
    | none => simpa [RobotWorld.answer, clear] using kept.changed channel patch
  | readState | listZero3Profiles | runZero3 profileId request | runCodex request | runClaude request
  | rawChannelStatus channel | serviceState channel | spawnService channel settings
  | stopService channel => exact kept

end Document

/-! ## Programs -/

section Programs

variable {identity : RouteIdentity} {backend : RobotBackend} {state : RobotState}
  {defaultCwd : String}

theorem only_ask {call : RobotCall} (allowed : Allowed call) : (ask call).Only Allowed :=
  only_perform _ allowed

theorem only_checked {α β : Type} {check : Except RouteError α} {next : α → Gateway β}
    (rest : ∀ value, check = .ok value → (next value).Only Allowed) :
    (checked check >>= next).Only Allowed := by
  cases check with
  | ok value => exact rest value rfl
  | error error => exact only_throw error

theorem writeSession_writes (plain : identity.Plain) (obtained : Option String) :
    FinishedTurn.Writes ⟨identity, backend, state, (sessionFor state identity.key).get backend, obtained⟩
      (state.keep identity.key (obtained.elim (sessionFor state identity.key) fun id =>
        (sessionFor state identity.key).set id backend)) where
  plain := plain
  resumed := rfl
  channels := rfl
  sessions other backend' plain' := by
    by_cases same : other.key = identity.key
    · have own := key_injective plain' plain same
      subst own
      cases obtained with
      | none =>
        by_cases here : backend' = backend
        · subst here
          simp [RobotState.idOf, RobotState.keep, sessionFor]
        · simp [RobotState.idOf, RobotState.keep, sessionFor, here]
      | some id => simp [RobotState.idOf, RobotState.keep, sessionFor, SessionState.get_set]
    · have apart : other ≠ identity := fun equal => same (equal ▸ rfl)
      simp [RobotState.idOf, RobotState.keep, sessionFor, same, apart]

theorem only_writeSession (plain : identity.Plain) (obtained : Option String) :
    (writeSession identity backend state obtained).Only Allowed :=
  only_ask (writeSession_writes plain obtained)

theorem only_routeZero3 (plain : identity.Plain) (body : Json) :
    (routeZero3 defaultCwd identity body state).Only Allowed := by
  unfold routeZero3
  apply Only.bind (only_ask (by trivial))
  intro profiles
  dsimp only
  split
  · exact only_throw _
  · apply only_checked
    intro text _
    apply Only.bind (only_ask (by trivial))
    intro result
    apply Only.bind (only_writeSession plain _)
    intro _
    exact only_pure _

theorem only_routeElevated (plain : identity.Plain) (body : Json) :
    (routeElevated defaultCwd identity backend body state).Only Allowed := by
  unfold routeElevated
  split
  · exact only_throw _
  · apply only_checked
    intro text _
    dsimp only
    by_cases codex : backend = .codex
    · rw [if_pos codex, if_pos codex]
      apply Only.bind (only_ask (by trivial))
      intro result
      apply Only.bind (only_writeSession plain _)
      intro _
      exact only_pure _
    · rw [if_neg codex, if_neg codex]
      apply Only.bind (only_ask (by trivial))
      intro result
      apply Only.bind (only_writeSession plain _)
      intro _
      exact only_pure _

theorem only_handleRoute (body : Json) (plain : ∀ channel identity,
      routeChannel (body.get "channel") = .ok channel → routeIdentity body channel = .ok identity →
      identity.Plain) : (handleRoute defaultCwd body).Only Allowed := by
  unfold handleRoute
  apply only_checked
  intro channel channelRead
  apply only_checked
  intro backend _
  apply Only.bind (only_ask (by trivial))
  intro state
  apply only_checked
  intro identity identityRead
  have own := plain channel identity channelRead identityRead
  split
  · exact only_routeZero3 own body
  · exact only_routeElevated own body

theorem only_channelStatus (channel : RobotChannel) : (channelStatus channel).Only Allowed := by
  unfold channelStatus
  apply Only.bind (only_ask (by trivial))
  intro raw
  apply Only.bind (only_ask (by trivial))
  intro state
  apply Only.bind (only_ask (by trivial))
  intro service
  have shown : ((ask (.serviceState channel)) >>= fun shown =>
      (pure (raw.spread (.object [("service_running", .bool shown.running),
        ("service_error", idOrNull shown.error), ("settings", (state.channels channel).toRecord)])) :
        Gateway Json)).Only Allowed :=
    Only.bind (only_ask (by trivial)) fun shown => only_pure _
  dsimp only
  split
  · exact Only.bind (only_ask (by trivial)) fun _ => shown
  · exact shown

theorem only_setServiceEnabled (channel : RobotChannel) (enabled : Bool) :
    (Robot.setServiceEnabled channel enabled).Only Allowed := by
  unfold Robot.setServiceEnabled
  apply Only.bind (only_ask (by trivial))
  intro settings
  split
  · apply Only.bind (only_ask (by trivial))
    intro status
    split
    · exact Only.bind (only_ask (by trivial)) fun _ => only_channelStatus channel
    · exact only_channelStatus channel
  · exact Only.bind (only_ask (by trivial)) fun _ => only_channelStatus channel

theorem only_updateSettings (channel : RobotChannel) (value : ScriptValue) :
    (Robot.updateSettings channel value).Only Allowed := by
  unfold Robot.updateSettings
  apply only_checked
  intro patch _
  apply Only.bind (only_ask (by trivial))
  intro next
  apply Only.bind (only_ask (by trivial))
  intro service
  dsimp only
  split
  · apply Only.bind (only_ask (by trivial))
    intro _
    split
    · exact Only.bind (only_ask (by trivial)) fun _ => only_pure _
    · exact only_pure _
  · exact only_pure _

end Programs

/-! ## Runs -/

section Runs

variable {history : RobotHistory} {pool : RobotPool}

theorem plain_of_routed {defaultCwd : String} {start : RobotPool}
    (run : (robotHost defaultCwd).machine.Run Steady start history pool) {identity : RouteIdentity}
    (isRouted : routed history identity) : identity.Plain := by
  have begun : ∀ entry ∈ history, ∃ pool, Steady pool entry.1 := by
    refine run.invariant (fun history _ => ∀ entry ∈ history, ∃ pool, Steady pool entry.1) ?_ ?_
    · intro entry member
      cases member
    · intro history state input earlier met entry member
      obtain before | now := List.mem_append.1 member
      · exact earlier entry before
      · rw [List.mem_singleton.1 now]
        exact ⟨state, met⟩
  obtain ⟨body, channel, ending, member, identityRead, channelRead⟩ := isRouted
  obtain ⟨pool, met⟩ := begun _ member
  exact met channel identity channelRead identityRead

/-- **The document of the gateway** is what changes and turns make one after the other, where every turn
finds it at its end as it has read it. -/
theorem gateway_in_order (defaultCwd : String) (file : Option RobotState)
    (run : (robotHost defaultCwd).machine.Run Steady ⟨⟨file, []⟩, []⟩ history pool) :
    InOrder (readState file) pool.world ∧ Separate history := by
  constructor
  · have start : Kept (readState file) ⟨file, []⟩ :=
      ⟨fun channel => rfl, fun identity backend plain => rfl, by simp, throughout_nil⟩
    suffices kept : Kept (readState file) pool.world ∧ StrandHost.AllOnly Allowed pool.strands from
      kept.1.inOrder
    refine StrandHost.kept_of_run ?_ ?_ ?_ start run
    · intro pool operation met
      cases operation with
      | route body => exact only_handleRoute body met
      | setServiceEnabled channel enabled => exact only_setServiceEnabled channel enabled
      | updateSettings channel value => exact only_updateSettings channel value
    · intro pool position environment strand call resume reply world met found awaits allowed kept performed
      have reached := Option.some.inj performed
      have same : (pool.world.answer environment call).2 = world := congrArg Prod.snd reached
      rw [← same]
      apply kept.answer allowed
      rintro turn state rfl clear
      refine met turn ?_ clear
      obtain ⟨operation, began, program⟩ := strand
      cases awaits
      rw [finishing, found]
    · intro pool met kept
      exact kept
  · intro identity other isRouted isRouted' same
    exact key_injective (plain_of_routed run isRouted) (plain_of_routed run isRouted') same

end Runs

/-! ## A run in order, and one in which a change is lost -/

namespace RobotDemonstration

def body : Json :=
  .object [("channel", .string "qq"), ("backend", .string "claude"), ("sender_id", .string "u"),
    ("text", .string "t"), ("approved", .bool true)]

def identity : RouteIdentity := ⟨.qq, "u", "-", "u"⟩

def answering : RobotEnvironment :=
  ⟨none, [], .object [("sessionId", .string "s")], ⟨false, false, none⟩⟩

def pool : RobotPool := ⟨⟨none, []⟩, []⟩

def opening : List RobotInput := [.begin (.route body), .turn 0 answering, .turn 0 answering]

def whole : List RobotInput := opening ++ [.turn 0 answering]

/-- The channel is disabled while the agent runs. -/
def overlapping : List RobotInput :=
  [.begin (.route body), .turn 0 answering, .begin (.setServiceEnabled .qq false), .turn 1 answering,
    .turn 0 answering, .turn 0 answering]

end RobotDemonstration

open RobotDemonstration in
theorem gateway_in_order_turn :
    InOrder (readState none) ((robotHost "").machine.exec pool whole).2.world ∧
      Separate ((robotHost "").machine.exec pool whole).1 := by
  have plain : ∀ channel identity, routeIdentity body channel = .ok identity → identity.Plain := by
    intro channel identity read
    have own : routeIdentity body channel = .ok ⟨channel, "u", "-", "u"⟩ := by
      cases channel <;> decide +kernel
    rw [own, Except.ok.injEq] at read
    subst read
    exact ⟨by simp, by simp, by cases channel <;> decide⟩
  have unchanged : ∀ turn, finishing ((robotHost "").machine.exec pool opening).2 0 = some turn →
      readState none = turn.read := by
    intro turn writes
    have read : (finishing ((robotHost "").machine.exec pool opening).2 0).map FinishedTurn.read =
      some (readState none) := rfl
    rw [writes] at read
    exact (Option.some.inj read).symm
  refine gateway_in_order "" none (Machine.exec_run _ _ _ ?_)
  refine ⟨fun channel identity _ => plain channel identity, ?_, ?_, fun turn writes _ => unchanged turn writes,
    trivial⟩
  · intro turn writes
    cases writes
  · intro turn writes
    cases writes

open RobotDemonstration in
/-- A turn that ends writes the settings back as they were when it began. -/
theorem gateway_counterexample :
    ¬ ∀ (defaultCwd : String) (file : Option RobotState) (history : RobotHistory) (pool : RobotPool),
      (robotHost defaultCwd).machine.Run Machine.anyStep ⟨⟨file, []⟩, []⟩ history pool →
      InOrder (readState file) pool.world ∧ Separate history := by
  intro claim
  have run := (robotHost "").machine.exec_run pool overlapping
    (Machine.met_of_forall (fun _ _ _ => trivial) pool)
  have lost := ((claim "" none _ _ run).1.settings .qq)
  have enabled := congrArg ChannelSettings.enabled lost
  revert enabled
  decide +kernel

end Zero3Pilot.Robot
