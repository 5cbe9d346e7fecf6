import Zero3Pilot.Foundations.Lines
import Zero3Pilot.Foundations.Text
import Zero3Pilot.JobScheduler.Manager

/-! # The event store

`EventStore` of `crates/zero3-store`: the event log of a job manager as a file of lines. An append
writes the bytes of one line and syncs them; it may be interrupted after any of the bytes, by a crash
or an error, and the store is opened again then. What `serde_json` writes and reads is a parameter. -/

namespace Zero3Pilot.JobScheduler

open ControlPlane (BTreeMap)

structure SerdeEvents where
  write : Event → List Char
  read : List Char → Except String Event

/-- `StoreError`, but for the path. -/
inductive StoreError where
  | open_ (reason : String)
  | append (reason : String)
  | corrupt (line : Nat) (reason : String)

structure TruncatedTail where
  line : Nat
  raw : List Char
  reason : String

structure RecoverableReplay where
  events : List Event
  truncatedTail : Option TruncatedTail

inductive RecoveryMode where
  | strict
  | recoverCrashTail

variable (serde : SerdeEvents)

/-! ## The file -/

def lineBytes (event : Event) : ByteArray := (String.ofList (serde.write event ++ ['\n'])).toUTF8

/-- `append`: the line is written, or as many bytes of it as an interruption leaves. -/
def append (event : Event) (fault : Option (Nat × String)) (file : ByteArray) :
    Except StoreError Unit × ByteArray :=
  match fault with
  | none => (.ok (), file ++ lineBytes serde event)
  | some (count, reason) => (.error (.append reason), file ++ (lineBytes serde event).extract 0 count)

/-- `line.trim().is_empty()`. -/
def isBlank (line : List Char) : Bool := line.all isUnicodeWhitespace

def endsWithNewline (raw : List Char) : Bool := raw.getLast? = some '\n'

def readToString (file : ByteArray) : Except StoreError (List Char) :=
  orError (file.utf8Decode?.map (·.toList)) (.open_ "stream did not contain valid UTF-8")

def readLinesWithTermination (file : ByteArray) :
    Except StoreError (List (List Char × Nat) × Bool) := do
  let raw ← readToString file
  return ((lines raw).zipIdx 1 |>.filter fun line => !isBlank line.1, endsWithNewline raw)

/-- The loop of `replay`. -/
def replayLines : List (List Char × Nat) → Except StoreError (List Event)
  | [] => .ok []
  | (raw, line) :: rest =>
    match serde.read raw with
    | .error reason => .error (.corrupt line reason)
    | .ok event => do
      let events ← replayLines rest
      return event :: events

def replay (file : ByteArray) : Except StoreError (List Event) := do
  let (read, _) ← readLinesWithTermination file
  replayLines serde read

def recoverLines (endsWithNewline : Bool) :
    List (List Char × Nat) → Except StoreError RecoverableReplay
  | [] => .ok ⟨[], none⟩
  | (raw, line) :: rest =>
    match serde.read raw with
    | .error reason =>
      if rest = [] ∧ endsWithNewline = false then .ok ⟨[], some ⟨line, raw, reason⟩⟩
      else .error (.corrupt line reason)
    | .ok event => do
      let replayed ← recoverLines endsWithNewline rest
      return { replayed with events := event :: replayed.events }

def replayRecoverable (file : ByteArray) : Except StoreError RecoverableReplay := do
  let (read, ends) ← readLinesWithTermination file
  recoverLines serde ends read

/-! ## Recovering a manager -/

/-- Why a manager is not recovered. -/
inductive RecoveryError where
  | eventLog (error : StoreError)
  | corruptHistory (error : CorruptHistoryError)

def managerOf (events : Except StoreError (List Event)) :
    Except RecoveryError (BTreeMap JobRecord) := do
  let replayed ← events.mapError .eventLog
  (fromEvents replayed).mapError .corruptHistory

def recover (file : ByteArray) : Except RecoveryError (BTreeMap JobRecord) :=
  managerOf (replay serde file)

def recoverWithMode (mode : RecoveryMode) (file : ByteArray) :
    Except RecoveryError (BTreeMap JobRecord) :=
  match mode with
  | .strict => recover serde file
  | .recoverCrashTail => managerOf ((replayRecoverable serde file).map (·.events))

/-! ## Calls -/

/-- The calls of a manager that change its jobs or its log, and restarts. -/
inductive StoreOperation where
  | create (kind : String) (payload : Json) (sessionId : Option String) (id : JobId)
  | change (change : JobChange)
  | progress (id : JobId) (message : String)
  | recover (mode : RecoveryMode)

/-- A call, with the identifier and the instant of its event and the number of bytes that are written
when the write is interrupted. -/
structure StoreCall where
  operation : StoreOperation
  eventId : String
  at_ : Int
  fault : Option (Nat × String)

/-- The event of a call, and what the call does to the jobs once it is logged. -/
structure Prepared where
  event : Event
  jobs : BTreeMap JobRecord

def StoreCall.event (call : StoreCall) (sessionId : Option String) (kind : EventKind) : Event :=
  Append.event ⟨call.eventId, call.at_, .ok ()⟩ sessionId kind

def prepare (jobs : BTreeMap JobRecord) (call : StoreCall) :
    Option (Except JobManagerError Prepared) :=
  match call.operation with
  | .create kind payload sessionId id =>
    some (.ok ⟨call.event sessionId (.jobQueued id kind payload),
      jobs.insert id (queuedRecord id kind payload sessionId call.at_)⟩)
  | .change change =>
    let transition := change.transition
    some ((requireStatus jobs transition.id transition.allowed transition.target).map fun record =>
      ⟨call.event record.sessionId transition.event,
        jobs.insert transition.id (transition.apply call.at_ record)⟩)
  | .progress id message =>
    some ((requireStatus jobs id [.running] .running).map fun record =>
      ⟨call.event record.sessionId (.jobProgress id message), jobs⟩)
  | .recover _ => none

/-- The file, and the jobs of the manager if it runs. -/
structure StoreState where
  file : ByteArray
  manager : Option (BTreeMap JobRecord)

/-- A manager on a new file. -/
def StoreState.empty : StoreState := ⟨ByteArray.empty, some ∅⟩

/-- What becomes of a call. -/
inductive StoreAnswer where
  | down
  | refused (error : JobManagerError)
  | appended (event : Event)
  | interrupted (event : Event)
  | recovered
  | unrecoverable (error : RecoveryError)

/-- Serve a call: an interrupted append ends the manager, and the store is opened again to recover. -/
def serveCall (state : StoreState) (call : StoreCall) : StoreAnswer × StoreState :=
  match call.operation with
  | .recover mode =>
    match recoverWithMode serde mode state.file with
    | .ok jobs => (.recovered, { state with manager := some jobs })
    | .error error => (.unrecoverable error, { state with manager := none })
  | _ =>
    match state.manager.bind fun jobs => prepare jobs call with
    | none => (.down, state)
    | some (.error error) => (.refused error, state)
    | some (.ok prepared) =>
      let (result, file) := append serde prepared.event call.fault state.file
      match result with
      | .ok () => (.appended prepared.event, ⟨file, some prepared.jobs⟩)
      | .error _ => (.interrupted prepared.event, ⟨file, none⟩)

/-- Calls of a manager, with interruptions and restarts. -/
def storeMachine : Machine StoreState StoreCall StoreAnswer where
  step := serveCall serde

end Zero3Pilot.JobScheduler
