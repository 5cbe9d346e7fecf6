import Zero3Pilot.Lifecycle.Store

/-! # The lifecycle runtime

The operations of `Zero3AgentLifecycleRuntime` in `worker-runtime/v2/lifecycle-runtime.ts`, by which
an agent session works on an execution task: it starts, claims a step, reports, registers artifacts,
commits memory, hands over, completes and may be interrupted. They are written over their ports, so
that one text serves for calls that run to their end, for calls that fail half-way, and for calls that
run among others. -/

namespace Zero3Pilot.Lifecycle

open ScriptValue (text?)
open Execution (Assignment BindExecutionSessionInput EventIdentity SessionBinding
  SessionBindingState StepDefinition StepStatus TaskDefinition TaskDirectory TaskStatus nullableJson
  plainRecord)

/-! ## Ports -/

/-- What the lifecycle runtime reads of a task beside its workflow. -/
structure TaskSettings where
  projectId : Option String
  sharedClaims : Bool

structure TaskSnapshot where
  settings : TaskSettings
  directory : TaskDirectory

def isTerminalTask (status : TaskStatus) : Bool := status ∈ [.completed, .cancelled, .failed]

/-- **The ports of the lifecycle runtime.** An optional port that is missing does nothing. -/
structure LifecyclePorts (m : Type → Type) where
  mutate {α : Type} (scope : String) (run : m α) : m α
  statement {α : Type} (method : Statement α) : m α
  listTasks : m (List TaskSnapshot)
  getTask (taskId : String) : m TaskSnapshot
  refreshSkillPreflight (taskId : String) : m Unit
  createTask (task : TaskDefinition) (settings : TaskSettings) (steps : List StepDefinition) :
    m TaskSnapshot
  createAssignment (taskId stepId executorId : String) : m Assignment
  bindSession (assignmentId : String) (input : BindExecutionSessionInput) : m SessionBinding
  recordProgress (taskId stepId : String) (progress : NumberLiteral)
    (currentActivity : Option String) (identity : EventIdentity) : m Unit
  recordArtifact (taskId stepId : String) (artifact : Json) (identity : EventIdentity) : m Unit
  requestCompletion (taskId stepId : String) (identity : EventIdentity) : m TaskSnapshot
  updateSessionState (taskId bindingId : String) (state : SessionBindingState) : m Unit
  transitionStep (taskId stepId : String) (status : StepStatus) (reason : String) : m Unit
  register (input : ArtifactInput) : m ArtifactRecord
  listArtifacts (taskId : String) : m (List ArtifactRecord)
  memoryForProject (projectId : String) : m Bool
  getProject (projectId : String) : m (List Json)
  publish (event : Json) : m Unit
  randomUUID : m String
  /-- `nowIso(clock)`. -/
  now : m String
  /-- `createHash('sha256')` in hexadecimal digits. -/
  sha256 (text : String) : String
  /-- How values other than numbers convert to integers. -/
  coerce : Json → Option Int

variable {m : Type → Type} [Monad m] [Fallible m] (ports : LifecyclePorts m)

open Fallible (attempt check ofExcept require)

/-! ## Helpers -/

def idempotent (scope : String) (key : ScriptValue) (operation : String) (request : Json)
    (run : m LifecycleAnswer) : m LifecycleAnswer := do
  match ← ports.statement (getIdempotent scope key operation request) with
  | some existing => return existing
  | none => do
    let response ← run
    ports.statement (putIdempotent scope key operation request response)
    return response

def requireSession (sessionId : ScriptValue) : m AgentLifecycleSession := do
  let session ← ports.statement (getSession sessionId)
  require session "agent lifecycle session not found; call session.start first"

def entityId (kind : String) (value : Json) : m String := do
  match ← ofExcept (entityId? value) with
  | some id => return id
  | none => return kind ++ "-" ++ (← ports.randomUUID)

def deterministicAgentId (type : LifecycleAgentType) (sessionId : String) : String :=
  "agent-" ++ type.text ++ "-" ++
    String.ofList ((ports.sha256 (type.text ++ ":" ++ sessionId)).toList.take 20)

/-! ## Memory -/

/-- What is to be published about an entity. -/
structure MemorySpec where
  eventType : String
  projectScoped : Bool
  (entityType entityId : String)
  payload : Json
  authority : Nat
  sourceType : String

def MemorySpec.memoryClass (spec : MemorySpec) : String :=
  if spec.projectScoped then "project" else "task"

abbrev EntityKey := String × String × String × String

/-- `versionKey`. -/
def MemorySpec.key (session : AgentLifecycleSession) (spec : MemorySpec) : EntityKey :=
  (spec.memoryClass, if spec.projectScoped then "" else session.taskId, spec.entityType,
    spec.entityId)

def keyText (value : ScriptValue) : String := (text? value).getD ""

def entityVersion (entity : Json) : EntityKey × Option Int :=
  ((keyText (entity.get "memory_class"), keyText (entity.get "task_id"),
      keyText (entity.get "entity_type"), keyText (entity.get "entity_id")),
    toInteger? ports.coerce (coalesce (entity.get "version") (some (.nat 0))))

def entityVersions (entities : List Json) : List (EntityKey × Option Int) :=
  (entities.map (entityVersion ports)).reverse

/-- The number of an integer; what is no number is printed as `null`. -/
def integerJson : Option Int → Json
  | some (.ofNat n) => .nat n
  | _ => .null

/-- The confidence of an event that is given none: `0.8`. -/
def usualConfidence : NumberLiteral where
  text := ['0', '.', '8']
  nonempty := List.cons_ne_nil _ _
  chars := by simp [isNumberChar]

def buildMemoryEvent (eventId createdAt : String) (session : AgentLifecycleSession)
    (spec : MemorySpec) (expectedVersion : Option Int) : Json :=
  .object [("schema", .string "zero3.memory.event.v1"), ("event_id", .string eventId),
      ("created_at", .string createdAt),
      ("scope", .object ([("project_id", .string session.projectId)] ++
        (if spec.projectScoped then [] else [("task_id", .string session.taskId)]) ++
        [("session_id", .string session.sessionId)])),
      ("actor", .object [("agent_id", .string session.agentId),
        ("agent_type", .string (memoryAgentType session.agentType))]),
      ("event_type", .string spec.eventType),
      ("memory", .object [("class", .string spec.memoryClass),
        ("entity_type", .string spec.entityType), ("entity_id", .string spec.entityId),
        ("authority", .nat spec.authority), ("confidence", .number usualConfidence),
        ("expected_entity_version", integerJson expectedVersion)]),
      ("source", .object [("type", .string spec.sourceType), ("ref", .string session.taskId)]),
      ("supersedes", .array []), ("payload", spec.payload)]

/-- The loop of `flushMemoryOutbox`, which ends with the first event that is not published. -/
def flushRows : List OutboxRow → m Unit
  | [] => pure ()
  | row :: rows => do
    match ← attempt (ports.publish row.event) with
    | .ok _ => do
      ports.statement (markMemory row.eventId .acked none)
      flushRows rows
    | .error error => ports.statement (markMemory row.eventId .pending (some error))

def flushMemoryOutbox (projectId taskId : String) : m Unit := do
  match ← attempt (ports.memoryForProject projectId) with
  | .error _ => return ()
  | .ok configured => do
    let pending ← ports.statement (memoryOutboxPending taskId)
    if configured then flushRows ports pending else return ()

def memoryContext (projectId : String) : m (Bool × List Json × Option String) := do
  match ← attempt (ports.memoryForProject projectId) with
  | .error error => return (false, [], some ("shared_memory_configuredfailed: " ++ error))
  | .ok false => return (false, [], some "shared_memory_unconfigured")
  | .ok true => do
    match ← attempt (ports.getProject projectId) with
    | .ok entities => return (true, entities, none)
    | .error error => return (true, [], some ("shared_memory_unavailable: " ++ error))

def publishSpecs (session : AgentLifecycleSession) (configured : Bool) (warning : Option String) :
    List (EntityKey × Option Int) → List MemorySpec → m MemoryOutcome
  | _, [] => pure ⟨[], []⟩
  | versions, spec :: specs => do
    let expectedVersion := (versions.lookup (spec.key session)).getD (some 0)
    let uuid ← ports.randomUUID
    let at_ ← ports.now
    let event := buildMemoryEvent uuid at_ session spec expectedVersion
    let _ ← ports.statement
      (enqueueMemory event session.projectId (if spec.projectScoped then none else some session.taskId))
    if !configured then do
      let error := warning.getD "shared_memory_unconfigured"
      ports.statement (markMemory uuid .pending (some error))
      let rest ← publishSpecs session configured warning versions specs
      return { rest with pending := (uuid, error) :: rest.pending }
    else do
      match ← attempt (ports.publish event) with
      | .ok _ => do
        ports.statement (markMemory uuid .acked none)
        let rest ← publishSpecs session configured warning
          ((spec.key session, expectedVersion.map (· + 1)) :: versions) specs
        return { rest with acked := uuid :: rest.acked }
      | .error error => do
        ports.statement (markMemory uuid .pending (some error))
        let rest ← publishSpecs session configured warning versions specs
        return { rest with pending := (uuid, error) :: rest.pending }

def publishMemorySpecs (session : AgentLifecycleSession) (specs : List MemorySpec) :
    m MemoryOutcome := do
  if specs.isEmpty then return ⟨[], []⟩
  else do
    flushMemoryOutbox ports session.projectId session.taskId
    let (configured, entities, warning) ← memoryContext ports session.projectId
    publishSpecs ports session configured warning (entityVersions ports entities) specs

/-- The members that say where an entity comes from. -/
def provenance (session : AgentLifecycleSession) : Json :=
  .object [("source_agent", .string session.agentId), ("source_session", .string session.sessionId),
    ("source_task", .string session.taskId)]

def itemSpecs (eventType entityType kind : String) (authority : Nat)
    (projectScoped : Json → Bool) (session : AgentLifecycleSession) :
    List Json → m (List MemorySpec)
  | [] => pure []
  | item :: items => do
    let entityId ← entityId ports kind item
    let rest ← itemSpecs eventType entityType kind authority projectScoped session items
    return { eventType, entityType, entityId, authority
             projectScoped := projectScoped (entityContent item)
             payload := (entityContent item).spread (provenance session)
             sourceType := "task" } :: rest

def isProjectScope (content : Json) : Bool := text? (content.get "scope") = some "project"

def summarySpec (session : AgentLifecycleSession) (summary : String) : MemorySpec where
  eventType := "task.progress"
  projectScoped := false
  entityType := "agent_summary"
  entityId := "summary-" ++ session.sessionId
  payload := (Json.object [("summary", .string summary)]).spread (provenance session)
  authority := 40
  sourceType := "task"

def actionsSpec (session : AgentLifecycleSession) (actions : List Json) : MemorySpec where
  eventType := "task.progress"
  projectScoped := false
  entityType := "next_actions"
  entityId := "next-actions-" ++ session.sessionId
  payload := (Json.object [("actions", .array actions)]).spread (provenance session)
  authority := 40
  sourceType := "task"

def handoffSpec (session : AgentLifecycleSession) (handoff : Json) : MemorySpec where
  eventType := "handoff.published"
  projectScoped := false
  entityType := "handoff"
  entityId := "handoff-" ++ session.sessionId
  payload := handoff
  authority := 60
  sourceType := "task"

def worklog (session : AgentLifecycleSession) (eventType : String)
    (importance : LifecycleImportance) (content : Json) : m LifecycleWorklogEntry := do
  let uuid ← ports.randomUUID
  ports.statement (recordWorklog uuid session eventType importance content)

def textsJson (texts : List String) : Json := .array (texts.map .string)

def pendingJson (pending : List (String × String)) : Json :=
  .array (pending.map fun entry =>
    .object [("eventId", .string entry.1), ("error", .string entry.2)])

/-! ## Starting a session -/

/-- The task that is created for a session without any. -/
def agentTask (taskId : String) : TaskDefinition where
  taskId := taskId
  workspace := none
  title := "Web GPT shared organizational task"
  goal := "Execute the bound agent task and persist shared organizational state."
  workflowId := some "agent-lifecycle"
  maxParallelSteps := 1

def agentWork (taskId : String) : StepDefinition where
  taskId := taskId
  stepId := "agent-work"
  title := "Agent work"
  objective := "Perform work and submit artifacts, shared memory and handoff through Zero3."
  executor := .gptWeb
  dependsOn := []
  requiredSkills := []
  optionalSkills := []
  inputArtifacts := []
  expectedOutputs := []
  completionGate := ["structured_handoff"]
  maxAttempts := 3

/-- A task a session may be started on without naming it. -/
def isCandidate (projectId : String) (snapshot : TaskSnapshot) : Bool :=
  !snapshot.directory.archived && snapshot.settings.projectId = some projectId &&
    !isTerminalTask snapshot.directory.runtime.task.status

def resolveTaskForSession (projectId : String) (requestedTaskId : ScriptValue) : m TaskSnapshot := do
  if requestedTaskId.isTruthy then do
    let taskId ← ofExcept (idOf requestedTaskId "taskId")
    let snapshot ← ports.getTask taskId
    check (snapshot.settings.projectId = some projectId) "task does not belong to project"
    return snapshot
  else do
    match (← ports.listTasks).filter (isCandidate projectId) with
    | [snapshot] => return snapshot
    | _ :: _ :: _ => Fallible.throw "multiple active project tasks exist; taskId is required"
    | [] => do
      let taskId := "agent-task-" ++ (← ports.randomUUID)
      ports.createTask (agentTask taskId) ⟨some projectId, false⟩ [agentWork taskId]

def agentIdOf (input : Json) (type : LifecycleAgentType) (sessionId : String) : Except String String :=
  if (either input "agentId" "agent_id").isNullish then .ok (deterministicAgentId ports type sessionId)
  else idOf (either input "agentId" "agent_id") "agentId"

/-- `sessionStart(input)` after its key was looked up. -/
def startSession (sessionId projectId agentId : String) (type : LifecycleAgentType)
    (requestedTaskId : ScriptValue) : m LifecycleAnswer := do
  let task ← resolveTaskForSession ports projectId requestedTaskId
  let taskId ← ofExcept (textId task.directory.definition.task.taskId "taskId")
  let session ← ports.statement (upsertSession sessionId agentId type projectId taskId)
  let contextVersion ← ports.statement
    (bumpContext taskId projectId (type.text ++ " session " ++ sessionId ++ " started"))
  let _ ← worklog ports session "session.start" .normal
    (.object [("contextVersion", .nat contextVersion)])
  return .sessionStart sessionId agentId projectId taskId contextVersion

def sessionStart (inputValue : ScriptValue) : m LifecycleAnswer := do
  let input ← ofExcept (plainRecord inputValue "session.start input")
  let sessionId ← ofExcept (idOf (either input "sessionId" "session_id") "sessionId")
  let projectId ← ofExcept (idOf (either input "projectId" "project_id") "projectId")
  let type ← ofExcept (agentTypeOf
    (coalesce (either input "agentType" "agent_type") (some (.string "web_gpt"))))
  let agentId ← ofExcept (agentIdOf ports input type sessionId)
  let requestedTaskId := either input "taskId" "task_id"
  let key := either input "idempotencyKey" "idempotency_key"
  ports.mutate ("session:" ++ sessionId) <|
    idempotent ports ("session:" ++ sessionId) key "session.start"
      (.object [("sessionId", .string sessionId), ("projectId", .string projectId),
        ("type", .string type.text), ("agentId", .string agentId),
        ("requestedTaskId", requestedTaskId.getD .null)])
      (startSession ports sessionId projectId agentId type requestedTaskId)

/-! ## Claiming a step -/

def claimMode (snapshot : TaskSnapshot) : LifecycleClaimMode :=
  if snapshot.settings.sharedClaims ∨ 1 < snapshot.directory.definition.task.maxParallelSteps then
    .shared
  else .exclusive

def isClaimable (directory : TaskDirectory) (step : StepDefinition) : Bool :=
  (directory.runtime.steps.reverse.find? fun runtime => runtime.stepId = step.stepId).any fun runtime =>
    (runtime.status = .ready || runtime.status = .fixRequired) && (step.executor = .gptWeb ||
        step.executor = .auto && (step.requiredSkills.isEmpty ||
          runtime.skillPreflight.any fun preflight =>
            preflight.state = .ready && preflight.executor = some .gptWeb &&
              preflight.missingRequiredSkills.isEmpty))

def selectStep (snapshot : TaskSnapshot) : Option StepDefinition :=
  if snapshot.directory.runtime.activeSteps < snapshot.directory.definition.task.maxParallelSteps then
    snapshot.directory.definition.steps.find? (isClaimable snapshot.directory)
  else none

structure Claimed where
  (stepId assignmentId bindingId : String)

def eitherText (input : Json) (camel snake : String) : Option String :=
  text? (either input camel snake)

def assignStep (input : Json) (session : AgentLifecycleSession) (taskId : String)
    (definition : StepDefinition) : m Claimed := do
  let stepId ← ofExcept (textId definition.stepId "stepId")
  let assignment ← ports.createAssignment taskId stepId session.agentId
  let binding ← ports.bindSession assignment.assignmentId
    { logicalSessionId := session.sessionId
      runtimeConversationId := eitherText input "conversationId" "conversation_id"
      conversationUrl := eitherText input "conversationUrl" "conversation_url"
      state := some .active }
  ports.recordProgress taskId stepId (.ofNat 0) (some "Agent claimed task")
    ⟨some ("lifecycle-claim-" ++ assignment.assignmentId), none⟩
  return ⟨stepId, assignment.assignmentId, binding.bindingId⟩

def assignSelected (input : Json) (session : AgentLifecycleSession) (taskId : String) :
    Option StepDefinition → m (Option Claimed)
  | none => pure none
  | some definition => Option.some <$> assignStep ports input session taskId definition

def LifecycleClaimMode.text : LifecycleClaimMode → String
  | .exclusive => "exclusive"
  | .shared => "shared"

/-- What is written about a claim that was made. -/
def recordClaim (session : AgentLifecycleSession) (taskId : String) (claimed : Option Claimed)
    (claim : AgentLifecycleClaim) (mode : LifecycleClaimMode) : m Nat := do
  let contextVersion ← ports.statement
    (bumpContext taskId session.projectId (session.agentId ++ " claimed " ++ taskId))
  let current ← requireSession ports (some (.string session.sessionId))
  let _ ← worklog ports current "task.claim" .normal (.object [("claimId", .string claim.claimId),
      ("stepId", nullableJson (claimed.map (·.stepId))),
      ("assignmentId", nullableJson (claimed.map (·.assignmentId))),
      ("claimMode", .string mode.text), ("contextVersion", .nat contextVersion)])
  return contextVersion

def newClaim (input : Json) (session : AgentLifecycleSession) (taskId : String)
    (snapshot : TaskSnapshot) (active : List AgentLifecycleClaim) : m LifecycleAnswer := do
  let mode := claimMode snapshot
  let claimed ← assignSelected ports input session taskId (selectStep snapshot)
  let uuid ← ports.randomUUID
  let claim ← ports.statement (createClaim uuid taskId session.sessionId session.agentId mode
    (claimed.map (·.stepId)) (claimed.map (·.assignmentId)) (claimed.map (·.bindingId)))
  let _ ← ports.statement (updateSessionBinding session.sessionId (claimed.map (·.stepId))
    (claimed.map (·.assignmentId)) (claimed.map (·.bindingId))
    (if claimed.isSome then .active else .waiting))
  let contextVersion ← recordClaim ports session taskId claimed claim mode
  return .taskClaim (.created claimed.isSome claim mode snapshot.directory.runtime.task.status
    (active.map (·.agentId) ++ [session.agentId]) contextVersion)

/-- `taskClaim(input)` after the session was found. -/
def claimTask (input : Json) (session : AgentLifecycleSession) (taskId : String) :
    m LifecycleAnswer := do
  ports.refreshSkillPreflight taskId
  let snapshot ← ports.getTask taskId
  let status := snapshot.directory.runtime.task.status
  check (!isTerminalTask status) ("task is terminal: " ++ status.text)
  match ← ports.statement (activeClaimForSession session.sessionId) with
  | some current => return .taskClaim (.resumed current status)
  | none => do
    let active ← ports.statement (activeClaims taskId)
    if claimMode snapshot = .exclusive ∧ active.any fun claim => claim.sessionId ≠ session.sessionId then
      return .taskClaim (.locked status (active.map (·.agentId)))
    else newClaim ports input session taskId snapshot active

def taskClaim (inputValue : ScriptValue) : m LifecycleAnswer := do
  let input ← ofExcept (plainRecord inputValue "task.claim input")
  let session ← requireSession ports (either input "sessionId" "session_id")
  let taskId ← ofExcept (idOf
    (coalesce (either input "taskId" "task_id") (some (.string session.taskId))) "taskId")
  check (taskId = session.taskId) "session is bound to a different task"
  let key := either input "idempotencyKey" "idempotency_key"
  ports.mutate ("task:" ++ taskId) <|
    idempotent ports ("task:" ++ taskId ++ ":session:" ++ session.sessionId) key "task.claim"
      (.object [("taskId", .string taskId), ("sessionId", .string session.sessionId)])
      (claimTask ports input session taskId)

/-! ## Recording an event -/

def eventSpec (type : LifecycleEventType) (level : LifecycleImportance) (scope : Bool)
    (content : Json) : m (List MemorySpec) := do
  let spec (eventType : String) (projectScoped : Bool) (entityType kind : String) (authority : Nat)
      (sourceType : String) : m (List MemorySpec) := do
    let entityId ← entityId ports kind content
    return [{ eventType, projectScoped, entityType, entityId, payload := content, authority
              sourceType }]
  match type with
  | .decision => spec "decision.recorded" scope "decision" "decision" 60 "chat"
  | .discovery => spec "fact.verified" false "discovery" "discovery" 40 "task"
  | .warning | .error => spec "pitfall.recorded" false type.text type.text 40 "task"
  | .userInstruction => spec "constraint.recorded" scope "user_instruction" "instruction" 60 "chat"
  | .dependency =>
    if level = .high ∨ level = .critical then
      spec "task.progress" false "dependency" "dependency" 40 "task"
    else return []
  | .progress => return []

def reportProgress (input content : Json) (session : AgentLifecycleSession)
    (type : LifecycleEventType) (worklogId : String) : m Unit :=
  match session.stepId, input.get "progress" with
  | some stepId, some (.number progress) =>
    if type = .progress then
      ports.recordProgress session.taskId stepId progress (text? (content.get "text"))
        ⟨some ("lifecycle-" ++ worklogId), none⟩
    else pure ()
  | _, _ => pure ()

def eventContent (input : Json) : Except String Json :=
  match text? (input.get "content") with
  | some text => .ok (.object [("text", .string text)])
  | none => plainRecord (input.get "content") "event content"

/-- `eventRecord(input)` after its key was looked up. -/
def recordEvent (input content : Json) (session : AgentLifecycleSession) (type : LifecycleEventType)
    (level : LifecycleImportance) : m LifecycleAnswer := do
  let entry ← worklog ports session type.text level content
  let specs ← eventSpec ports type level (isProjectScope input) content
  let memory ← publishMemorySpecs ports session specs
  reportProgress ports input content session type entry.worklogId
  let _ ← ports.statement (touchSession session.sessionId none)
  let contextVersion ← ports.statement (bumpContext session.taskId session.projectId
    (type.text ++ ": " ++ String.ofList (takeUtf16 500 content.render)))
  return .eventRecord entry memory contextVersion

def eventRecord (inputValue : ScriptValue) : m LifecycleAnswer := do
  let input ← ofExcept (plainRecord inputValue "event.record input")
  let session ← requireSession ports (either input "sessionId" "session_id")
  let type ← ofExcept (eventTypeOf (either input "eventType" "event_type"))
  let level ← ofExcept (importanceOf (input.get "importance"))
  let content ← ofExcept (eventContent input)
  let key := either input "idempotencyKey" "idempotency_key"
  ports.mutate ("task:" ++ session.taskId) <|
    idempotent ports ("session:" ++ session.sessionId) key "event.record"
      (.object [("type", .string type.text), ("level", .string level.text), ("content", content)])
      (recordEvent ports input content session type level)

/-! ## Registering an artifact -/

def executionArtifact (session : AgentLifecycleSession) (record : ArtifactRecord) : Json :=
  .object [("artifactId", .string record.artifactId), ("logicalName", .string record.logicalName),
    ("kind", .string record.kind), ("storage", record.storage),
    ("sha256", nullableJson record.sha256), ("sizeBytes", record.sizeBytes.getD .null),
    ("agentId", .string session.agentId), ("sessionId", .string session.sessionId)]

def artifactSpec (session : AgentLifecycleSession) (record : ArtifactRecord) : MemorySpec where
  eventType := "artifact.recorded"
  projectScoped := false
  entityType := "artifact"
  entityId := record.artifactId
  payload := (Json.object
    [("artifact_id", .string record.artifactId), ("name", .string record.logicalName),
      ("kind", .string record.kind), ("storage", record.storage),
      ("description", nullableJson record.description), ("version", .nat record.version),
      ("status", .string record.status)]).spread (provenance session)
  authority := 40
  sourceType := "artifact"

/-- What a request says of an artifact. -/
def artifactDraft (input : Json) (session : AgentLifecycleSession) (workflowId : Option String)
    (drawn : String) (storage : Json) (logicalName workItemId stageRunId : String) : ArtifactDraft where
  artifactId := coalesce (either input "artifactId" "artifact_id") (some (.string ("artifact-" ++ drawn)))
  workflowRunId := coalesce (either input "workflowRunId" "workflow_run_id")
    (some (.string (workflowId.getD session.taskId)))
  workItemId := workItemId
  stageRunId := stageRunId
  logicalName := logicalName
  kind := coalesce (either input "kind" "type") (some (.string "file"))
  mimeType := either input "mimeType" "mime_type"
  storage := storage
  sha256 := input.get "sha256"
  sizeBytes := either input "sizeBytes" "size_bytes"
  workerDefinitionId := coalesce (either input "workerDefinitionId" "worker_definition_id")
    (some (.string session.agentType.text))
  workerSlotId := coalesce (either input "workerSlotId" "worker_slot_id")
    (some (.string session.agentId))
  workerSessionId := session.sessionId

def recordStepArtifact (session : AgentLifecycleSession) (record : ArtifactRecord) : m Unit :=
  match session.stepId with
  | none => pure ()
  | some stepId =>
    ports.recordArtifact session.taskId stepId (executionArtifact session record)
      ⟨some ("artifact-" ++ record.artifactId), none⟩

def registerArtifactCore (session : AgentLifecycleSession) (input : Json) (idempotencyKey : String) :
    m (ArtifactRecord × LifecycleWorklogEntry × MemoryOutcome × Nat) := do
  let snapshot ← ports.getTask session.taskId
  let rawStorage ← ofExcept (plainRecord (input.get "storage") "artifact storage")
  let logicalName ← ofExcept (textOf
    (coalesce (either input "logicalName" "logical_name") (input.get "name")) "artifact logicalName" 1024)
  let workItemId ← ofExcept (idOf
    (coalesce (either input "workItemId" "work_item_id") (some (.string session.taskId))) "workItemId")
  let stageRunId ← ofExcept (idOf (coalesce (either input "stageRunId" "stage_run_id")
      (some (.string (session.stepId.getD (session.taskId ++ ":agent"))))) "stageRunId")
  let drawn ← ports.randomUUID
  let artifact ← ofExcept (normalizeWorkflowArtifactRef
    (artifactDraft input session snapshot.directory.definition.task.workflowId drawn
      (draftStorage rawStorage) logicalName workItemId stageRunId))
  let record ← ports.register
    { artifact, projectId := session.projectId, taskId := session.taskId
      agentId := session.agentId, agentType := session.agentType
      description := input.get "description", version := input.get "version"
      status := coalesce (input.get "status") (some (.string "produced")), idempotencyKey }
  recordStepArtifact ports session record
  let memory ← publishMemorySpecs ports session [artifactSpec session record]
  let entry ← worklog ports session "artifact.register" .normal
    (.object [("artifactId", .string record.artifactId), ("logicalName", .string record.logicalName),
      ("storage", record.storage)])
  let contextVersion ← ports.statement (bumpContext session.taskId session.projectId
    ("Artifact registered: " ++ record.logicalName))
  let _ ← ports.statement (touchSession session.sessionId none)
  return (record, entry, memory, contextVersion)

/-- `artifactRegister(input)` after its key was looked up. -/
def registerArtifact (session : AgentLifecycleSession) (input : Json) (idempotencyKey : String) :
    m LifecycleAnswer := do
  let (record, entry, memory, contextVersion) ← registerArtifactCore ports session input idempotencyKey
  return .artifactRegister record entry memory contextVersion

def artifactRegister (inputValue : ScriptValue) : m LifecycleAnswer := do
  let input ← ofExcept (plainRecord inputValue "artifact.register input")
  let session ← requireSession ports (either input "sessionId" "session_id")
  let key ← ofExcept (idOf (either input "idempotencyKey" "idempotency_key") "idempotencyKey")
  ports.mutate ("task:" ++ session.taskId) <|
    idempotent ports ("session:" ++ session.sessionId) (some (.string key)) "artifact.register" input
      (registerArtifact ports session input key)

/-! ## Memory and handoffs -/

/-- What a memory commit brings. -/
structure MemoryItems where
  summary : Option String
  (projectMemory decisions discoveries warnings actions : List Json)

/-- What a request of `memoryCommit` brings. -/
def memoryItems (input : Json) : Except String MemoryItems := do
  let projectMemory ← arrayOf (either input "projectMemory" "project_memory") "projectMemory"
  let decisions ← arrayOf (input.get "decisions") "decisions"
  let discoveries ← arrayOf (input.get "discoveries") "discoveries"
  let warnings ← arrayOf (input.get "warnings") "warnings"
  let actions ←
    arrayOf (either input "recommendedNextActions" "recommended_next_actions") "recommendedNextActions"
  return { summary := text? (input.get "summary"), projectMemory, decisions, discoveries
           warnings, actions }

/-- The text that is compared when a memory commit is repeated. -/
def MemoryItems.json (items : MemoryItems) : Json :=
  .object (textMembers "summary" items.summary ++ [("projectMemory", .array items.projectMemory),
    ("decisions", .array items.decisions), ("discoveries", .array items.discoveries),
    ("warnings", .array items.warnings), ("recommendedNextActions", .array items.actions)])

/-- `memoryCommit(input)` after its key was looked up. -/
def commitMemory (session : AgentLifecycleSession) (items : MemoryItems) : m LifecycleAnswer := do
  let summaries := ((items.summary.map scriptTrim).filter (· ≠ "")).toList.map (summarySpec session)
  let facts ← itemSpecs ports "fact.verified" "project_memory" "project-memory" 40
    (fun _ => true) session items.projectMemory
  let decided ← itemSpecs ports "decision.recorded" "decision" "decision" 60 isProjectScope session
    items.decisions
  let discovered ← itemSpecs ports "fact.verified" "discovery" "discovery" 40 (fun _ => false)
    session items.discoveries
  let warned ← itemSpecs ports "pitfall.recorded" "warning" "warning" 40 (fun _ => false) session
    items.warnings
  let recommended := if items.actions.isEmpty then [] else [actionsSpec session items.actions]
  let memory ← publishMemorySpecs ports session
    (summaries ++ facts ++ decided ++ discovered ++ warned ++ recommended)
  let entry ← worklog ports session "memory.commit"
    (if memory.pending.isEmpty then .normal else .high)
    (.object [("summary", nullableJson items.summary), ("published", .nat memory.acked.length),
      ("pending", pendingJson memory.pending)])
  let contextVersion ← ports.statement (bumpContext session.taskId session.projectId
    ("Memory commit: " ++ toString memory.acked.length ++ " acked, " ++
      toString memory.pending.length ++ " pending"))
  return .memoryCommit memory entry contextVersion

def memoryCommit (inputValue : ScriptValue) : m LifecycleAnswer := do
  let input ← ofExcept (plainRecord inputValue "memory.commit input")
  let session ← requireSession ports (either input "sessionId" "session_id")
  let items ← ofExcept (memoryItems input)
  let key := either input "idempotencyKey" "idempotency_key"
  ports.mutate ("task:" ++ session.taskId) <|
    idempotent ports ("session:" ++ session.sessionId) key "memory.commit" items.json
      (commitMemory ports session items)

def completedItems (directory : TaskDirectory) : List String :=
  (directory.runtime.steps.filter fun step => step.status = .completed).map (·.stepId)

/-- The identifiers of the steps that have not ended. -/
def remainingItems (directory : TaskDirectory) : List String :=
  (directory.runtime.steps.filter fun step => step.status ≠ .completed ∧ step.status ≠ .cancelled).map
    (·.stepId)

def handoffArtifact (record : ArtifactRecord) : Json :=
  .object [("artifact_id", .string record.artifactId), ("logical_name", .string record.logicalName),
    ("storage", record.storage), ("version", .nat record.version)]

/-- `array(input.given).length ? input.given : computed`. -/
def itemsOr (given : List Json) (computed : List String) : Json :=
  if given.isEmpty then textsJson computed else .array given

/-- The summary a request brings, or another one. -/
def summaryOr (input : Json) (computed : String) : String :=
  match (text? (input.get "summary")).map scriptTrim with
  | some summary => if summary = "" then computed else summary
  | none => computed

/-- `handoffCreate(input)` after its key was looked up. -/
def createHandoff (session : AgentLifecycleSession) (input : Json) : m LifecycleAnswer := do
  let snapshot ← ports.getTask session.taskId
  let artifacts ← ports.listArtifacts session.taskId
  let next := (snapshot.directory.runtime.steps.find? fun step =>
    step.status = .ready ∨ step.status = .fixRequired).bind fun step =>
      snapshot.directory.definition.step? step.stepId
  let entries ← ports.statement (countWorklog session.taskId)
  let summary := summaryOr input (session.agentId ++ " handled " ++ session.taskId ++ "; " ++
    toString artifacts.length ++ " artifacts registered and " ++ toString entries ++
    " worklog events recorded.")
  let completed ← ofExcept (arrayOf (either input "completedItems" "completed_items") "completedItems")
  let remaining ← ofExcept (arrayOf (either input "remainingItems" "remaining_items") "remainingItems")
  let decisions ← ofExcept (arrayOf (input.get "decisions") "decisions")
  let warnings ← ofExcept (arrayOf (input.get "warnings") "warnings")
  let createdAt ← ports.now
  let nextAction := coalesce (either input "nextAction" "next_action")
    (next.map fun step => .string ("Continue step " ++ step.stepId ++ ": " ++ step.title))
  let handoff : Json := .object
    [("task_id", .string session.taskId), ("completed_by", .string session.agentId),
      ("source_session", .string session.sessionId), ("summary", .string summary),
      ("completed_items", itemsOr completed (completedItems snapshot.directory)),
      ("remaining_items", itemsOr remaining (remainingItems snapshot.directory)),
      ("decisions", .array decisions), ("artifacts", .array (artifacts.map handoffArtifact)),
      ("warnings", .array warnings), ("next_action", nextAction.getD .null),
      ("created_at", .string createdAt)]
  let memory ← publishMemorySpecs ports session [handoffSpec session handoff]
  let _ ← worklog ports session "handoff.create" (if memory.pending.isEmpty then .normal else .high)
    (.object [("summary", .string summary), ("artifactCount", .nat artifacts.length),
      ("memory", .object [("acked", textsJson memory.acked),
        ("pending", pendingJson memory.pending)])])
  let contextVersion ← ports.statement (bumpContext session.taskId session.projectId
    ("Handoff created by " ++ session.agentId))
  return .handoffCreate handoff memory contextVersion

def handoffCreate (inputValue : ScriptValue) : m LifecycleAnswer := do
  let input ← ofExcept (plainRecord inputValue "handoff.create input")
  let session ← requireSession ports (either input "sessionId" "session_id")
  let key := either input "idempotencyKey" "idempotency_key"
  ports.mutate ("task:" ++ session.taskId) <|
    idempotent ports ("session:" ++ session.sessionId) key "handoff.create" input
      (createHandoff ports session input)

/-! ## Completing a task -/

/-- Register the artifacts that come with a completion, each under a key of its own. -/
def registerSupplied (session : AgentLifecycleSession) (key : String) : List (Json × Nat) → m Unit
  | [] => pure ()
  | (value, index) :: items => do
    let raw ← ofExcept (plainRecord (some value) ("artifacts[" ++ toString index ++ "]"))
    let childKey := "tc-art-" ++
      String.ofList ((ports.sha256 (key ++ ":" ++ toString index)).toList.take 32)
    let artifactId := coalesce (either raw "artifactId" "artifact_id")
      (some (.string ("artifact-" ++ childKey)))
    let _ ← registerArtifactCore ports session
      (raw.spread (.object [("artifactId", artifactId.getD .null)])) childKey
    registerSupplied session key items

/-- The warnings about the required outputs of a step that are not registered. -/
def missingOutputs (directory : TaskDirectory) (session : AgentLifecycleSession)
    (artifacts : List ArtifactRecord) : List String :=
  match session.stepId.bind directory.definition.step? with
  | none => []
  | some step =>
    ((step.expectedOutputs.filter (·.required)).filter fun output =>
      !artifacts.any fun artifact =>
        artifact.logicalName = output.logicalName && artifact.status ∉ ["rejected", "superseded"]).map
      fun output => "required artifact is not registered: " ++ output.logicalName

def completableStep (directory : TaskDirectory) (session : AgentLifecycleSession) : Option String :=
  session.stepId.filter fun stepId =>
    (directory.runtime.step? stepId).any fun step =>
      step.status ∈ [.dispatching, .running, .waitingReport, .fixRequired]

def requestStepCompletion (session : AgentLifecycleSession) (before : TaskSnapshot)
    (worklogId : String) (warnings : List String) : m TaskSnapshot :=
  match completableStep before.directory session with
  | none => pure before
  | some stepId =>
    ports.requestCompletion session.taskId stepId ⟨some ("lifecycle-complete-" ++ worklogId),
        some (.object [("agentId", .string session.agentId),
          ("sessionId", .string session.sessionId), ("lifecycleWarnings", textsJson warnings)])⟩

/-- What is submitted with a completion. -/
structure Submission where
  after : TaskSnapshot
  warnings : List String
  memory : MemoryOutcome
  handoff : Json
  handoffMemory : MemoryOutcome

/-- The first part of `taskComplete(input)`: the artifacts, the memory and the handoff are published
and the completion of the step is requested. -/
def submitCompletion (input : Json) (session : AgentLifecycleSession) (key : String)
    (before : TaskSnapshot) : m Submission := do
  let supplied ← ofExcept (arrayOf (input.get "artifacts") "artifacts")
  registerSupplied ports session key supplied.zipIdx
  let artifacts ← ports.listArtifacts session.taskId
  let missing := missingOutputs before.directory session artifacts
  let summary := summaryOr input (session.agentId ++ " completed its current work on " ++
    session.taskId ++ "; " ++ toString artifacts.length ++ " artifacts are registered.")
  let completion ← worklog ports session "task.complete" (if missing.isEmpty then .normal else .high)
    (.object [("summary", .string summary), ("artifactIds", textsJson (artifacts.map (·.artifactId))),
      ("validationWarnings", textsJson missing)])
  let decisions ← ofExcept (arrayOf (input.get "decisions") "decisions")
  let decided ← itemSpecs ports "decision.recorded" "decision" "decision" 60 isProjectScope session
    decisions
  let given ← ofExcept (arrayOf (input.get "warnings") "warnings")
  let warned ← itemSpecs ports "pitfall.recorded" "warning" "warning" 40 (fun _ => false) session given
  let actions ← ofExcept
    (arrayOf (either input "recommendedNextActions" "recommended_next_actions") "recommendedNextActions")
  let memory ← publishMemorySpecs ports session ([summarySpec session summary] ++ decided ++ warned ++
    if actions.isEmpty then [] else [actionsSpec session actions])
  let committed := missing ++ (if memory.pending.isEmpty then []
    else ["memory commit pending: " ++ toString memory.pending.length ++ " event(s)"])
  let createdAt ← ports.now
  let handoff : Json := .object
    [("task_id", .string session.taskId), ("completed_by", .string session.agentId),
      ("source_session", .string session.sessionId), ("summary", .string summary),
      ("completed_items", textsJson (completedItems before.directory)),
      ("remaining_items", textsJson (remainingItems before.directory)),
      ("decisions", .array decisions), ("artifacts", .array (artifacts.map handoffArtifact)),
      ("warnings", textsJson committed), ("next_action", actions.head?.getD .null),
      ("created_at", .string createdAt)]
  let handoffMemory ← publishMemorySpecs ports session [handoffSpec session handoff]
  let warnings := committed ++ (if handoffMemory.pending.isEmpty then []
    else ["handoff memory pending: " ++ toString handoffMemory.pending.length ++ " event(s)"])
  let after ← requestStepCompletion ports session before completion.worklogId warnings
  return { after, warnings, memory, handoff, handoffMemory }

/-- `taskComplete(input)` after its key was looked up. -/
def completeTask (input : Json) (session : AgentLifecycleSession) (key : String) :
    m LifecycleAnswer := do
  let before ← ports.getTask session.taskId
  let submitted ← submitCompletion ports input session key before
  let warnings := submitted.warnings
  ports.statement (releaseClaim session.sessionId .released)
  -- the row of the session keeps its step and its assignment
  let _ ← ports.statement (touchSession session.sessionId (some .waiting))
  let contextVersion ← ports.statement (bumpContext session.taskId session.projectId
    (if warnings.isEmpty then "Completion submitted with structured memory and handoff"
      else "Completion submitted with " ++ toString warnings.length ++ " warning(s)"))
  return .taskComplete (if warnings.isEmpty then "COMPLETION_REQUESTED" else "COMPLETED_WITH_WARNINGS")
    session.taskId submitted.after.directory.runtime.task.status
    (session.stepId.bind fun stepId => (submitted.after.directory.runtime.step? stepId).map (·.status))
    warnings submitted.memory submitted.handoff submitted.handoffMemory contextVersion

def taskComplete (inputValue : ScriptValue) : m LifecycleAnswer := do
  let input ← ofExcept (plainRecord inputValue "task.complete input")
  let session ← requireSession ports (either input "sessionId" "session_id")
  let key ← ofExcept (idOf (either input "idempotencyKey" "idempotency_key") "idempotencyKey")
  ports.mutate ("task:" ++ session.taskId) <|
    idempotent ports ("session:" ++ session.sessionId) (some (.string key)) "task.complete" input
      (completeTask ports input session key)

/-! ## Interrupting a session -/

/-- The binding of the session is marked as lost; what goes wrong is ignored. -/
def loseBinding (session : AgentLifecycleSession) : m Unit :=
  match session.bindingId with
  | none => pure ()
  | some bindingId => do
    let _ ← attempt (ports.updateSessionState session.taskId bindingId .lost)

def recoverStep (session : AgentLifecycleSession) (stepId reason : String) : m Unit := do
  let _ ← attempt (ports.transitionStep session.taskId stepId .failed reason)
  let failed ← ports.getTask session.taskId
  if (failed.directory.runtime.step? stepId).any fun step => step.status = .failed then
    ports.transitionStep session.taskId stepId .ready "session_recovery"
  else pure ()

def interruptedStep (directory : TaskDirectory) (session : AgentLifecycleSession) : Option String :=
  session.stepId.filter fun stepId =>
    (directory.runtime.step? stepId).any fun step =>
      step.status ∈ [.dispatching, .running, .waitingReport, .fixRequired, .blocked]

def interruptReason (input : Json) : String :=
  let given := scriptTrim ((text? (input.get "reason")).getD "")
  if given = "" then "agent session interrupted" else String.ofList (takeUtf16 4096 given.toList)

def recoverInterrupted (session : AgentLifecycleSession) (before : TaskSnapshot) (reason : String) :
    m Unit :=
  match interruptedStep before.directory session with
  | none => pure ()
  | some stepId => recoverStep ports session stepId reason

def recordInterruption (session : AgentLifecycleSession) (reason : String) : m LifecycleAnswer := do
  let _ ← ports.statement (touchSession session.sessionId (some .interrupted))
  let entry ← worklog ports { session with state := .interrupted } "session.interrupted" .high
    (.object [("reason", .string reason)])
  let contextVersion ← ports.statement (bumpContext session.taskId session.projectId reason)
  return .sessionInterrupt session.sessionId session.taskId reason entry contextVersion

/-- `sessionInterrupt(input)` after the session was found. -/
def interruptSession (session : AgentLifecycleSession) (reason : String) : m LifecycleAnswer := do
  let before ← ports.getTask session.taskId
  loseBinding ports session
  recoverInterrupted ports session before reason
  ports.statement (releaseClaim session.sessionId .interrupted)
  recordInterruption ports session reason

def sessionInterrupt (inputValue : ScriptValue) : m LifecycleAnswer := do
  let input ← ofExcept (plainRecord inputValue "session.interrupt input")
  let session ← requireSession ports (either input "sessionId" "session_id")
  ports.mutate ("task:" ++ session.taskId) (interruptSession ports session (interruptReason input))

end Zero3Pilot.Lifecycle
