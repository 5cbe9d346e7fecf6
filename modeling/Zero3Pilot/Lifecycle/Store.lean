import Zero3Pilot.Lifecycle.Artifacts

/-! # The lifecycle store

The tables of `Zero3AgentLifecycleStore` in `worker-runtime/v2/lifecycle-store.ts` that the lifecycle
runtime uses, and its methods. Each method is one statement or one transaction of the database: it
either happens or throws. Rows stand in the order they were inserted in, and time stamps are left
out, as are the changes of a context, which no modelled operation reads. Requests are compared by the
text that is hashed. -/

namespace Zero3Pilot.Lifecycle

open Execution (TaskStatus StepStatus)
open Procedure (check ofExcept require read modify)

/-! ## Rows -/

inductive LifecycleSessionState where
  | active | waiting | stalled | interrupted | closed

inductive LifecycleClaimMode where
  | exclusive | shared
  deriving DecidableEq

inductive LifecycleClaimState where
  | active | released | interrupted
  deriving DecidableEq

structure AgentLifecycleSession where
  (sessionId agentId : String)
  agentType : LifecycleAgentType
  (projectId taskId : String)
  (stepId assignmentId bindingId : Option String)
  state : LifecycleSessionState

structure AgentLifecycleClaim where
  (claimId taskId sessionId agentId : String)
  mode : LifecycleClaimMode
  state : LifecycleClaimState
  (stepId assignmentId bindingId : Option String)

structure LifecycleWorklogEntry where
  (worklogId sessionId agentId : String)
  agentType : LifecycleAgentType
  (projectId taskId eventType : String)
  importance : LifecycleImportance
  content : Json

inductive OutboxState where
  | pending | acked
  deriving DecidableEq

/-- A row of `lifecycle_memory_outbox`. -/
structure OutboxRow where
  (eventId projectId : String)
  taskId : Option String
  event : Json
  state : OutboxState
  lastError : Option String

/-! ## Answers -/

/-- What became of the memory events of an operation. -/
structure MemoryOutcome where
  acked : List String
  /-- The identifiers of the events that are pending, each with an error. -/
  pending : List (String × String)

inductive TaskClaimAnswer where
  | resumed (claim : AgentLifecycleClaim) (taskStatus : TaskStatus)
  | locked (taskStatus : TaskStatus) (activeAgents : List String)
  | created (assigned : Bool) (claim : AgentLifecycleClaim) (lock : LifecycleClaimMode)
      (taskStatus : TaskStatus) (activeAgents : List String) (contextVersion : Nat)

def TaskClaimAnswer.state : TaskClaimAnswer → String
  | .resumed _ _ => "CLAIMED"
  | .locked _ _ => "LOCKED"
  | .created assigned _ _ _ _ _ => if assigned then "CLAIMED" else "WAITING"

def TaskClaimAnswer.claim? : TaskClaimAnswer → Option AgentLifecycleClaim
  | .resumed claim _ => some claim
  | .locked _ _ => none
  | .created _ claim _ _ _ _ => some claim

inductive LifecycleAnswer where
  | sessionStart (sessionId agentId projectId taskId : String) (contextVersion : Nat)
  | taskClaim (answer : TaskClaimAnswer)
  | eventRecord (worklog : LifecycleWorklogEntry) (memory : MemoryOutcome) (contextVersion : Nat)
  | artifactRegister (artifact : ArtifactRecord) (worklog : LifecycleWorklogEntry)
      (memory : MemoryOutcome) (contextVersion : Nat)
  | memoryCommit (memory : MemoryOutcome) (worklog : LifecycleWorklogEntry) (contextVersion : Nat)
  | handoffCreate (handoff : Json) (memory : MemoryOutcome) (contextVersion : Nat)
  | taskComplete (state taskId : String) (executionTaskStatus : TaskStatus)
      (executionStepStatus : Option StepStatus) (warnings : List String) (memory : MemoryOutcome)
      (handoff : Json) (handoffMemory : MemoryOutcome) (contextVersion : Nat)
  | sessionInterrupt (sessionId taskId reason : String) (worklog : LifecycleWorklogEntry)
      (contextVersion : Nat)

structure IdempotencyRow where
  (scopeKey idempotencyKey operation : String)
  /-- The text that `requestHash` hashes. -/
  request : List Char
  response : LifecycleAnswer

/-- The tables. -/
structure LifecycleStore where
  sessions : List AgentLifecycleSession
  claims : List AgentLifecycleClaim
  worklog : List LifecycleWorklogEntry
  /-- `task_context_versions`. -/
  contexts : List (String × Nat)
  idempotency : List IdempotencyRow
  outbox : List OutboxRow

abbrev Statement := Procedure LifecycleStore String

/-- The tables of a new database. -/
def LifecycleStore.empty : LifecycleStore := ⟨[], [], [], [], [], []⟩

/-! ## Sessions -/

/-- The row of a session, if it has one. -/
def LifecycleStore.session? (store : LifecycleStore) (sessionId : String) :
    Option AgentLifecycleSession :=
  store.sessions.find? fun session => session.sessionId = sessionId

/-- The tables with the row of a session changed. -/
def LifecycleStore.updateSession (store : LifecycleStore) (sessionId : String)
    (update : AgentLifecycleSession → AgentLifecycleSession) : LifecycleStore :=
  { store with
    sessions := store.sessions.map fun session =>
      if session.sessionId = sessionId then update session else session }

def getSession (sessionIdValue : ScriptValue) : Statement (Option AgentLifecycleSession) := do
  let sessionId ← ofExcept (idOf sessionIdValue "sessionId")
  let store ← read
  return store.session? sessionId

def sessionRow (sessionId : String) : Statement AgentLifecycleSession := do
  let store ← read
  require (store.session? sessionId) "lifecycle session not found"

/-- `upsertSession(input)`, without a state. -/
def upsertSession (sessionId agentId : String) (agentType : LifecycleAgentType)
    (projectId taskId : String) : Statement AgentLifecycleSession := do
  let sessionId ← ofExcept (textId sessionId "sessionId")
  let store ← read
  match store.session? sessionId with
  | some existing => do
    check (existing.agentId = agentId ∧ existing.agentType = agentType ∧
        existing.projectId = projectId ∧ existing.taskId = taskId)
      "session identity conflicts with existing lifecycle session"
    -- the row keeps its state
    return existing
  | none => do
    let agentId ← ofExcept (textId agentId "agentId")
    let projectId ← ofExcept (textId projectId "projectId")
    let taskId ← ofExcept (textId taskId "taskId")
    let session : AgentLifecycleSession :=
      { sessionId, agentId, agentType, projectId, taskId
        stepId := none, assignmentId := none, bindingId := none, state := .active }
    modify fun store => { store with sessions := store.sessions ++ [session] }
    return session

def nullableId (value : Option String) (label : String) : Except String (Option String) :=
  match value with
  | none => .ok none
  | some value => Option.some <$> textId value label

def updateSessionBinding (sessionId : String) (stepId assignmentId bindingId : Option String)
    (state : LifecycleSessionState) : Statement AgentLifecycleSession := do
  let sessionId ← ofExcept (textId sessionId "sessionId")
  let _ ← sessionRow sessionId
  let stepId ← ofExcept (nullableId stepId "stepId")
  let assignmentId ← ofExcept (nullableId assignmentId "assignmentId")
  let bindingId ← ofExcept (nullableId bindingId "bindingId")
  modify fun store => store.updateSession sessionId fun session =>
    { session with stepId, assignmentId, bindingId, state }
  sessionRow sessionId

def touchSession (sessionId : String) (state : Option LifecycleSessionState) :
    Statement AgentLifecycleSession := do
  let sessionId ← ofExcept (textId sessionId "sessionId")
  let _ ← sessionRow sessionId
  modify fun store => store.updateSession sessionId fun session =>
    { session with state := state.getD session.state }
  sessionRow sessionId

/-! ## Claims -/

def LifecycleStore.activeClaim? (store : LifecycleStore) (sessionId : String) :
    Option AgentLifecycleClaim :=
  store.claims.find? fun claim => claim.sessionId = sessionId ∧ claim.state = .active

def activeClaims (taskId : String) : Statement (List AgentLifecycleClaim) := do
  let taskId ← ofExcept (textId taskId "taskId")
  let store ← read
  return store.claims.filter fun claim => claim.taskId = taskId ∧ claim.state = .active

def activeClaimForSession (sessionId : String) : Statement (Option AgentLifecycleClaim) := do
  let sessionId ← ofExcept (textId sessionId "sessionId")
  let store ← read
  return store.activeClaim? sessionId

def createClaim (uuid : String) (taskId sessionId agentId : String) (mode : LifecycleClaimMode)
    (stepId assignmentId bindingId : Option String) : Statement AgentLifecycleClaim := do
  match ← activeClaimForSession sessionId with
  | some existing => return existing
  | none => do
    let taskId ← ofExcept (textId taskId "taskId")
    let sessionId ← ofExcept (textId sessionId "sessionId")
    let agentId ← ofExcept (textId agentId "agentId")
    let stepId ← ofExcept (nullableId stepId "stepId")
    let assignmentId ← ofExcept (nullableId assignmentId "assignmentId")
    let bindingId ← ofExcept (nullableId bindingId "bindingId")
    let claim : AgentLifecycleClaim :=
      { claimId := "agent-claim-" ++ uuid, taskId, sessionId, agentId, mode, state := .active
        stepId, assignmentId, bindingId }
    let store ← read
    check (∀ other ∈ store.claims, other.claimId ≠ claim.claimId)
      "UNIQUE constraint failed: agent_lifecycle_claims.claim_id"
    modify fun store => { store with claims := store.claims ++ [claim] }
    return claim

def releaseClaim (sessionId : String) (state : LifecycleClaimState) : Statement Unit := do
  match ← activeClaimForSession sessionId with
  | none => return ()
  | some current =>
    modify fun store =>
      { store with
        claims := store.claims.map fun claim =>
          if claim.claimId = current.claimId then { claim with state := state } else claim }

/-! ## Worklog and contexts -/

def checkJson (value : Json) (label : String) : Except String Unit :=
  ensure ((String.ofList value.render).utf8ByteSize ≤ 1048576) (label ++ " exceeds 1 MiB")

def recordWorklog (uuid : String) (session : AgentLifecycleSession) (eventType : String)
    (importance : LifecycleImportance) (content : Json) : Statement LifecycleWorklogEntry := do
  let store ← read
  match store.worklog.find? fun entry => entry.worklogId = "worklog-" ++ uuid with
  | some existing => return existing
  | none => do
    ofExcept (checkJson content "worklog content")
    let entry : LifecycleWorklogEntry :=
      { worklogId := "worklog-" ++ uuid
        sessionId := session.sessionId, agentId := session.agentId
        agentType := session.agentType, projectId := session.projectId, taskId := session.taskId
        eventType, importance, content }
    modify fun store => { store with worklog := store.worklog ++ [entry] }
    return entry

/-- `listWorklog(taskId, 100).length`. -/
def countWorklog (taskId : String) : Statement Nat := do
  let taskId ← ofExcept (textId taskId "taskId")
  let store ← read
  return min 100 (store.worklog.filter fun entry => entry.taskId = taskId).length

def bumpContext (taskId projectId summary : String) : Statement Nat := do
  let taskId ← ofExcept (textId taskId "taskId")
  let _ ← ofExcept (textId projectId "projectId")
  check (scriptTrim summary ≠ "") "context change summary is required"
  let store ← read
  let next := (store.contexts.lookup taskId).getD 0 + 1
  modify fun store =>
    { store with
      contexts := (taskId, next) :: store.contexts.filter fun context => context.1 ≠ taskId }
  return next

/-! ## Idempotency -/

def getIdempotent (scopeKey : String) (idempotencyKey : ScriptValue) (operation : String)
    (request : Json) : Statement (Option LifecycleAnswer) := do
  let key ← ofExcept (idOf idempotencyKey "idempotencyKey")
  let store ← read
  match store.idempotency.find? fun row => row.scopeKey = scopeKey ∧ row.idempotencyKey = key with
  | none => return none
  | some row => do
    check (row.operation = operation ∧ row.request = stableJson request)
      "lifecycle idempotency key was reused with different content"
    return some row.response

def putIdempotent (scopeKey : String) (idempotencyKey : ScriptValue) (operation : String)
    (request : Json) (response : LifecycleAnswer) : Statement Unit := do
  let key ← ofExcept (idOf idempotencyKey "idempotencyKey")
  let store ← read
  check (∀ row ∈ store.idempotency, row.scopeKey = scopeKey → row.idempotencyKey ≠ key)
    "UNIQUE constraint failed: lifecycle_idempotency.scope_key, lifecycle_idempotency.idempotency_key"
  modify fun store =>
    { store with
      idempotency := store.idempotency ++
        [⟨scopeKey, key, operation, stableJson request, response⟩] }

/-! ## The memory outbox -/

def enqueueMemory (event : Json) (projectId : String) (taskId : Option String) :
    Statement String := do
  let eventId ← ofExcept (idOf (event.get "event_id") "memory event id")
  let projectId ← ofExcept (textId projectId "projectId")
  let taskId ← ofExcept (nullableId taskId "taskId")
  ofExcept (checkJson event "memory event")
  let store ← read
  match store.outbox.find? fun row => row.eventId = eventId with
  | some existing => do
    check (existing.event.render = event.render) "memory event id belongs to different payload"
    return eventId
  | none => do
    modify fun store =>
      { store with outbox := store.outbox ++ [⟨eventId, projectId, taskId, event, .pending, none⟩] }
    return eventId

def memoryOutboxPending (taskId : String) : Statement (List OutboxRow) := do
  let taskId ← ofExcept (textId taskId "taskId")
  let store ← read
  return store.outbox.filter fun row => row.taskId = some taskId ∧ row.state = .pending

def markMemory (eventId : String) (state : OutboxState) (error : Option String) :
    Statement Unit := do
  let eventId ← ofExcept (textId eventId "memory event id")
  modify fun store =>
    { store with
      outbox := store.outbox.map fun row =>
        if row.eventId = eventId then
          { row with
            state := state
            lastError := error.map fun error => String.ofList (takeUtf16 4096 error.toList) }
        else row }

end Zero3Pilot.Lifecycle
