import Zero3Pilot.Foundations.AtomicReplace
import Zero3Pilot.Foundations.Strands
import Zero3Pilot.Weixin.Approval

/-! # The messages of the Weixin bridge

The bridge polls the server for the messages after its cursor. What `get_updates` receives advances the
cursor in memory, then in the credentials file, and only then are the messages handled one after the
other. The file is replaced by renaming a temporary one over it; on Windows a failed rename is tried
again after the file has been removed. A poll that fails is tried again; what a handler throws is only
printed.

The server is taken to return exactly the messages after a cursor, with the next cursor. Every message
carries its place among the messages sent, which the bridge does not look at. -/

namespace Zero3Pilot.Weixin

structure WeixinCredentials where
  (botToken botId baseUrl ownerUserId getUpdatesBuf : String)

abbrev Placed := WeixinMessage × Nat

structure GetUpdatesResponse where
  ret : Int
  errcode : Option Int
  errmsg : Option String
  msgs : List Placed
  getUpdatesBuf : Option String

/-! ## The calls -/

inductive FileStep where
  | createDirectory
  | createTemporary
  | writeTemporary (credentials : WeixinCredentials)
  | syncTemporary
  | rename
  | removeFile

inductive PollCall where
  | credentials
  | request (baseUrl botToken cursor : String)
  /-- `current.get_updates_buf = buffer`, under the lock; the credentials afterwards. -/
  | setBuffer (buffer : String)
  | file (step : FileStep)
  | fileExists
  | handleMessage (message : Placed)

@[reducible] def PollReply : PollCall → Type
  | .credentials | .setBuffer _ => Option WeixinCredentials
  | .request _ _ _ => GetUpdatesResponse
  | .fileExists => Bool
  | .file _ | .handleMessage _ => Unit

abbrev Polling (α : Type) := Program PollCall PollReply String α

namespace Polling

/-- Await a call; `context` is what its error is reported with. -/
def ask (call : PollCall) (context : String) : Polling (PollReply call) :=
  Program.perform (fun message => context ++ ": " ++ message) call

end Polling

open Polling

section Code

variable (windows : Bool)

/-- The replacement after a failed rename. -/
def replaceOnWindows : Polling Unit := do
  let isThere ← (ask .fileExists "").catching fun _ => pure false
  if isThere then ask (.file .removeFile) "replace existing Weixin state on Windows"
  ask (.file .rename) "finish replacing Weixin state on Windows"

def persistCredentials (credentials : WeixinCredentials) : Polling Unit := do
  ask (.file .createDirectory) "create Weixin state directory"
  ask (.file .createTemporary) "create temporary Weixin state"
  ask (.file (.writeTemporary credentials)) "write temporary Weixin state"
  ask (.file .syncTemporary) "sync temporary Weixin state"
  (ask (.file .rename) "atomically replace Weixin state").catching fun error =>
    if windows then replaceOnWindows else throw error

def trimEndSlashes (url : String) : String :=
  String.ofList (url.toList.rdropWhile fun char => char = '/')

def getUpdates : Polling (List Placed) := do
  match ← ask .credentials "" with
  | none => throw "Weixin ClawBot is not connected"
  | some credentials =>
    let response ← ask
      (.request (trimEndSlashes credentials.baseUrl) credentials.botToken credentials.getUpdatesBuf)
      "long-poll Weixin ClawBot messages"
    if response.ret ≠ 0 ∨ response.errcode.getD 0 ≠ 0 then
      throw ("Weixin getupdates failed ret=" ++ toString response.ret ++ " errcode=" ++
        toString (response.errcode.getD 0) ++ " errmsg=" ++ response.errmsg.getD "")
    else
      match response.getUpdatesBuf with
      | none => pure response.msgs
      | some buffer =>
        match ← ask (.setBuffer buffer) "" with
        | none => pure response.msgs
        | some current => do
          persistCredentials windows current
          pure response.msgs

/-- What a handler throws is printed. -/
def handleAll : List Placed → Polling Unit
  | [] => pure ()
  | message :: messages => do
    (ask (.handleMessage message) "处理微信消息失败").catching fun _ => pure ()
    handleAll messages

/-- One round of `run_bridge`; where it throws, the next one comes three seconds later. -/
def pollOnce : Polling Unit := do
  let messages ← getUpdates windows
  handleAll messages

end Code

/-! ## The world of the bridge -/

/-- A server: the names of its cursors, and the number of messages before each. -/
structure WeixinServer where
  cursorOf : Nat → String
  position : String → Nat
  position_cursorOf : ∀ count, position (cursorOf count) = count

/-- The files and the memory of the bridge, and the messages of the server. -/
structure PollWorld where
  (file temporary : Option (FileContent WeixinCredentials))
  credentials : Option WeixinCredentials
  inbox : List WeixinMessage
  returned : List String
  handled : List Placed
  since : Nat

/-- What a call meets: whether it fails, which messages have come in, and the codes of the server. -/
structure PollEnvironment where
  fault : Option String
  arrived : List WeixinMessage
  ret : Int
  errcode : Option Int

namespace PollEnvironment

variable (environment : PollEnvironment)

def outcome : Except String Unit :=
  match environment.fault with
  | none => .ok ()
  | some message => .error message

def refuses : Prop := environment.ret ≠ 0 ∨ environment.errcode.getD 0 ≠ 0

instance : Decidable environment.refuses := inferInstanceAs (Decidable (_ ∨ _))

end PollEnvironment

section World

variable (server : WeixinServer) (environment : PollEnvironment) (world : PollWorld)

/-- The server answers a poll: the messages after the cursor, and the next one. -/
def PollWorld.request (cursor : String) : Except String GetUpdatesResponse × PollWorld :=
  let received := { world with inbox := world.inbox ++ environment.arrived }
  match environment.fault with
  | some message => (.error message, received)
  | none =>
    if environment.refuses then
      (.ok ⟨environment.ret, environment.errcode, none, [], none⟩, received)
    else
      let next := server.cursorOf received.inbox.length
      (.ok ⟨environment.ret, environment.errcode, none,
          received.inbox.zipIdx.drop (server.position cursor), some next⟩,
        { received with returned := received.returned ++ [next] })

/-- The temporary file takes the place of the credentials file. -/
def PollWorld.rename : Except String Unit × PollWorld :=
  match environment.fault, world.temporary with
  | some message, _ => (.error message, world)
  | none, none => (.error "no such file", world)
  | none, some content => (.ok (), { world with file := some content, temporary := none })

def PollWorld.removeFile : Except String Unit × PollWorld :=
  match environment.fault, world.file with
  | some message, _ => (.error message, world)
  | none, none => (.error "no such file", world)
  | none, some _ => (.ok (), { world with file := none })

def FileStep.temporaryAfter (temporary : Option (FileContent WeixinCredentials)) :
    FileStep → Option (FileContent WeixinCredentials)
  | .createTemporary => if environment.fault = none then some .torn else temporary
  | .writeTemporary credentials =>
    some (if environment.fault = none then .whole credentials else .torn)
  | .createDirectory | .syncTemporary | .rename | .removeFile => temporary

def PollWorld.fileStep : FileStep → Except String Unit × PollWorld
  | .rename => world.rename environment
  | .removeFile => world.removeFile environment
  | step => (environment.outcome,
      { world with temporary := step.temporaryAfter environment world.temporary })

/-- **What a call does.** -/
def PollWorld.answer : (call : PollCall) → Except String (PollReply call) × PollWorld
  | .credentials => (.ok world.credentials, world)
  | .request _ _ cursor => world.request server environment cursor
  | .setBuffer buffer =>
    let credentials := world.credentials.map fun current => { current with getUpdatesBuf := buffer }
    (.ok credentials, { world with credentials := credentials })
  | .file step => world.fileStep environment step
  | .fileExists => (.ok (world.file.isSome && environment.fault.isNone), world)
  | .handleMessage message =>
    (environment.outcome, { world with handled := world.handled ++ [message] })

/-- What a new process loads; a torn file does not load. -/
def loadCredentials : Option (FileContent WeixinCredentials) → Option WeixinCredentials
  | some (.whole credentials) => some credentials
  | some .torn | none => none

/-- The process stops, and another one starts. -/
def PollWorld.restart : PollWorld :=
  let credentials := loadCredentials world.file
  { world with
    credentials := credentials
    since := credentials.elim world.since fun current => server.position current.getUpdatesBuf }

end World

/-- The process that polls, round after round. -/
def pollHost (server : WeixinServer) (windows : Bool) :
    StrandHost PollWorld PollCall PollReply String Unit Unit PollEnvironment where
  code _ := pollOnce windows
  perform environment world call := some (world.answer server environment call)
  restart world := world.restart server

abbrev PollPool := StrandPool PollWorld PollCall PollReply String Unit Unit
abbrev PollInput := StrandInput Unit PollEnvironment
abbrev PollHistory := List (PollInput × Option (StrandEnding PollWorld String Unit Unit))

def PollWorld.start (server : WeixinServer) (credentials : WeixinCredentials)
    (inbox : List WeixinMessage) : PollWorld where
  file := some (.whole credentials)
  temporary := none
  credentials := some credentials
  inbox := inbox
  returned := [credentials.getUpdatesBuf]
  handled := []
  since := server.position credentials.getUpdatesBuf

/-- **What is asked of the bridge.** -/
structure Delivered (server : WeixinServer) (token : String) (pool : PollPool) : Prop where
  /-- Between two rounds every message up to the cursor has been handled by this process, or comes
  before the place it has polled from. -/
  passed : pool.strands = [] → ∀ credentials, pool.world.credentials = some credentials →
    ∀ place, pool.world.since ≤ place → place < server.position credentials.getUpdatesBuf →
      ∃ message, pool.world.inbox[place]? = some message ∧ (message, place) ∈ pool.world.handled
  /-- No message is handled twice. -/
  once : (pool.world.handled.map Prod.snd).Nodup
  /-- Between two rounds, and so whenever a process has just started, the file loads, with its token and
  a cursor that was returned. -/
  loads : pool.strands = [] → ∃ credentials, loadCredentials pool.world.file = some credentials ∧
    credentials.botToken = token ∧ credentials.getUpdatesBuf ∈ pool.world.returned

end Zero3Pilot.Weixin
