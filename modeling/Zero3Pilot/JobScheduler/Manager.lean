import Zero3Pilot.ControlPlane.Records
import Zero3Pilot.Foundations.Checks
import Zero3Pilot.Foundations.Machine

/-! # The job manager

`JobManager` of `crates/zero3-scheduler`: jobs go from queued over running to an end, every change is
appended to an event log, and a manager is rebuilt from such a log. Calls run concurrently; what a
call does between two points at which another one may run is a section of its own: appending to the
log, and what is done at once while the lock of the jobs is held. `DateTime<Utc>` values are integers
(nanoseconds), and an append either lands or fails. -/

namespace Zero3Pilot.JobScheduler

open ControlPlane (BTreeMap)

/-! ## Jobs -/

/-- The text of the UUID of a job. -/
abbrev JobId := String

inductive JobStatus where
  | queued | running | succeeded | failed | cancelled
deriving DecidableEq

structure JobRecord where
  id : JobId
  kind : String
  payload : Json
  status : JobStatus
  output : Option Json
  (error sessionId : Option String)
  (createdAt updatedAt : Int)

/-! ## Events -/

inductive EventSource where
  | user
  | agent (name : String)
  | subagent (parent name : String)
  | plugin (id : String)
  | scheduler
  | system

inductive LogLevel where
  | debug | info | warn | error

inductive EventKind where
  | jobQueued (jobId : JobId) (kind : String) (payload : Json)
  | jobStarted (jobId : JobId)
  | jobProgress (jobId : JobId) (message : String)
  | jobCompleted (jobId : JobId) (output : Json)
  | jobFailed (jobId : JobId) (reason : String)
  | jobCancelled (jobId : JobId)
  | approvalRequested (action scope : String)
  | approvalGranted (action : String)
  | approvalDenied (action : String)
  | log (level : LogLevel) (message : String)

structure Event where
  id : String
  at_ : Int
  source : EventSource
  sessionId : Option String
  kind : EventKind

/-! ## Errors -/

inductive CorruptHistoryError where
  | orphanEvent (jobId : JobId) (event : String)
  | duplicateQueued (jobId : JobId)
  | invalidTransition (jobId : JobId) (event : String) (source : JobStatus)
deriving DecidableEq

/-- `JobManagerError`, but for corrupt histories. -/
inductive JobManagerError where
  | notFound (id : JobId)
  | invalidTransition (jobId : JobId) (source target : JobStatus)
  | eventLog (error : String)

/-! ## Rebuilding the jobs -/

def requireExisting (jobs : BTreeMap JobRecord) (jobId : JobId) (event : String) :
    Except CorruptHistoryError JobRecord :=
  orError jobs[jobId]? (.orphanEvent jobId event)

def requireReplayStatus (record : JobRecord) (allowed : List JobStatus) (event : String) :
    Except CorruptHistoryError Unit :=
  ensure (record.status ∈ allowed) (.invalidTransition record.id event record.status)

def queuedRecord (id : JobId) (kind : String) (payload : Json) (sessionId : Option String)
    (at_ : Int) : JobRecord where
  id := id
  kind := kind
  payload := payload
  status := .queued
  output := none
  error := none
  sessionId := sessionId
  createdAt := at_
  updatedAt := at_

def applyChange (jobs : BTreeMap JobRecord) (jobId : JobId) (event : String)
    (allowed : List JobStatus) (change : JobRecord → JobRecord) :
    Except CorruptHistoryError (BTreeMap JobRecord) := do
  let record ← requireExisting jobs jobId event
  requireReplayStatus record allowed event
  return jobs.insert jobId (change record)

def applyEventStrict (jobs : BTreeMap JobRecord) (event : Event) :
    Except CorruptHistoryError (BTreeMap JobRecord) :=
  match event.kind with
  | .jobQueued jobId kind payload => do
    ensure (jobs[jobId]?.isNone) (.duplicateQueued jobId)
    return jobs.insert jobId (queuedRecord jobId kind payload event.sessionId event.at_)
  | .jobStarted jobId =>
    applyChange jobs jobId "JobStarted" [.queued] fun record =>
      { record with status := .running, updatedAt := event.at_ }
  | .jobProgress jobId _ => do
    -- only the sequence of events is checked
    let record ← requireExisting jobs jobId "JobProgress"
    requireReplayStatus record [.running] "JobProgress"
    return jobs
  | .jobCompleted jobId output =>
    applyChange jobs jobId "JobCompleted" [.running] fun record =>
      { record with status := .succeeded, output := some output, updatedAt := event.at_ }
  | .jobFailed jobId reason =>
    applyChange jobs jobId "JobFailed" [.running] fun record =>
      { record with status := .failed, error := some reason, updatedAt := event.at_ }
  | .jobCancelled jobId =>
    applyChange jobs jobId "JobCancelled" [.queued, .running] fun record =>
      { record with status := .cancelled, updatedAt := event.at_ }
  | _ => return jobs

/-- `from_events`: the jobs a log describes. -/
def fromEvents (events : List Event) : Except CorruptHistoryError (BTreeMap JobRecord) :=
  events.foldlM applyEventStrict ∅

/-! ## Transitions -/

/-- A change of the status of a job, and what it does to the record at the instant of its event. -/
structure Transition where
  id : JobId
  allowed : List JobStatus
  target : JobStatus
  event : EventKind
  apply : Int → JobRecord → JobRecord

def start (id : JobId) : Transition where
  id := id
  allowed := [.queued]
  target := .running
  event := .jobStarted id
  apply at_ record := { record with status := .running, updatedAt := at_ }

def complete (id : JobId) (output : Json) : Transition where
  id := id
  allowed := [.running]
  target := .succeeded
  event := .jobCompleted id output
  apply at_ record := { record with status := .succeeded, output := some output, updatedAt := at_ }

def fail (id : JobId) (reason : String) : Transition where
  id := id
  allowed := [.running]
  target := .failed
  event := .jobFailed id reason
  apply at_ record := { record with status := .failed, error := some reason, updatedAt := at_ }

def cancel (id : JobId) : Transition where
  id := id
  allowed := [.queued, .running]
  target := .cancelled
  event := .jobCancelled id
  apply at_ record := { record with status := .cancelled, updatedAt := at_ }

inductive JobChange where
  | start (id : JobId)
  | complete (id : JobId) (output : Json)
  | fail (id : JobId) (reason : String)
  | cancel (id : JobId)

def JobChange.transition : JobChange → Transition
  | .start id => JobScheduler.start id
  | .complete id output => JobScheduler.complete id output
  | .fail id reason => JobScheduler.fail id reason
  | .cancel id => JobScheduler.cancel id

def requireStatus (jobs : BTreeMap JobRecord) (id : JobId) (allowed : List JobStatus)
    (target : JobStatus) : Except JobManagerError JobRecord := do
  let record ← orError jobs[id]? (.notFound id)
  ensure (record.status ∈ allowed) (.invalidTransition id record.status target)
  return record

/-! ## Concurrent calls -/

inductive Phase where
  /-- There is no call. -/
  | idle
  | inserting (record : JobRecord)
  | checked (change : JobChange) (sessionId : Option String)
  | logged (change : JobChange) (at_ : Int)
  | progressing (id : JobId) (message : String) (sessionId : Option String)

structure ManagerState where
  jobs : BTreeMap JobRecord
  log : List Event
  lock : Option Nat
  callers : Nat → Phase

def ManagerState.empty : ManagerState := ⟨∅, [], none, fun _ => .idle⟩

def ManagerState.enter (state : ManagerState) (caller : Nat) (phase : Phase) : ManagerState :=
  { state with callers := fun other => if other = caller then phase else state.callers other }

/-- An append to the log: the identifier and the instant of the event, and whether it lands. -/
structure Append where
  eventId : String
  at_ : Int
  landed : Except String Unit

def Append.event (append : Append) (sessionId : Option String) (kind : EventKind) : Event where
  id := append.eventId
  at_ := append.at_
  source := .scheduler
  sessionId := sessionId
  kind := kind

inductive Section where
  | create (kind : String) (payload : Json) (sessionId : Option String) (id : JobId)
      (append : Append)
  | insert
  | check (change : JobChange)
  | progress (id : JobId) (message : String)
  /-- A call whose job is checked appends. -/
  | append (append : Append)
  /-- A logged change is made, and the lock released. -/
  | change

/-- A caller runs its next section. -/
structure Action where
  caller : Nat
  section_ : Section

/-- What a call returns. -/
inductive Answer where
  | created (id : JobId)
  | done

/-- **One section** of a caller: what its call returns, if it ends, and the next state. A section that
finds the lock taken, or that is not the caller's next one, is not run. -/
def runSection (state : ManagerState) (action : Action) :
    Option (Except JobManagerError Answer) × ManagerState :=
  let caller := action.caller
  match action.section_, state.callers caller with
  | .create kind payload sessionId id append, .idle =>
    match append.landed with
    | .error error => (some (.error (.eventLog error)), state)
    | .ok () =>
      (none, { state.enter caller
          (.inserting (queuedRecord id kind payload sessionId append.at_)) with
        log := state.log ++ [append.event sessionId (.jobQueued id kind payload)] })
  | .insert, .inserting record =>
    if state.lock = none then
      (some (.ok (.created record.id)), { state.enter caller .idle with
        jobs := state.jobs.insert record.id record })
    else (none, state)
  | .check change, .idle =>
    if state.lock = none then
      match requireStatus state.jobs change.transition.id change.transition.allowed
          change.transition.target with
      | .error error => (some (.error error), state)
      | .ok record =>
        (none, { state.enter caller (.checked change record.sessionId) with
          lock := some caller })
    else (none, state)
  | .progress id message, .idle =>
    if state.lock = none then
      match requireStatus state.jobs id [.running] .running with
      | .error error => (some (.error error), state)
      | .ok record => (none, state.enter caller (.progressing id message record.sessionId))
    else (none, state)
  | .append append, .checked change sessionId =>
    match append.landed with
    | .error error =>
      (some (.error (.eventLog error)), { state.enter caller .idle with lock := none })
    | .ok () =>
      (none, { state.enter caller (.logged change append.at_) with
        log := state.log ++ [append.event sessionId change.transition.event] })
  | .append append, .progressing id message sessionId =>
    match append.landed with
    | .error error => (some (.error (.eventLog error)), state.enter caller .idle)
    | .ok () =>
      (some (.ok .done), { state.enter caller .idle with
        log := state.log ++ [append.event sessionId (.jobProgress id message)] })
  | .change, .logged change at_ =>
    match state.jobs[change.transition.id]? with
    -- "checked above, lock held throughout"
    | none => (none, state)
    | some record =>
      (some (.ok .done), { state.enter caller .idle with
        lock := none
        jobs := state.jobs.insert change.transition.id (change.transition.apply at_ record) })
  | _, _ => (none, state)

/-- The manager running sections of its callers in any order. -/
def managerMachine : Machine ManagerState Action (Option (Except JobManagerError Answer)) where
  step := runSection

end Zero3Pilot.JobScheduler
