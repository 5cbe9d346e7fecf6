import Zero3Pilot.Execution.Store

/-! # The execution runtime

The operations of `Zero3ExecutionRuntime` in `execution-runtime/runtime.ts`. An operation on a task
loads its snapshot, checks the request against it, records one or more events, and writes the next
snapshot; the operations on one task run one after another. A progress report brings the number its
caller gave it, already bounded by `boundedProgress`, where that number is finite. -/

namespace Zero3Pilot.Execution

open Procedure (check require read ofExcept fail)

/-! ## Pieces of an operation -/

/-- The identity a reporter gives to its report. -/
structure EventIdentity where
  eventId : Option String
  payload : Option Json

/-- The identity of a report without any. -/
def noIdentity : EventIdentity := ⟨none, none⟩

def eventPayload (base : Json) (identity : EventIdentity) : Json :=
  match identity.payload with
  | some payload => base.spread payload
  | none => base

def textsJson (texts : List String) : Json := .array (texts.map .string)

def nullableJson : Option String → Json
  | some value => .string value
  | none => .null

/-- The member of a payload that is there only for a non-empty reason. -/
def reasonMember (reason : Option String) : List (String × Json) :=
  ((reason.filter fun reason => reason ≠ "").map fun reason => ("reason", .string reason)).toList

def trimmedOrNull (value : Option String) : Option String :=
  (value.map scriptTrim).filter fun value => value ≠ ""

/-- What the operations return. -/
inductive Reply where
  | snapshot (directory : TaskDirectory)
  | plan (plan : SchedulePlan)
  | assignment (assignment : Assignment)
  | binding (binding : SessionBinding)
  | deleted

abbrev TaskProcedure := Procedure TaskDirectory String Reply

def snapshot (taskId : String) : TaskProcedure := do
  let directory ← loadSnapshot taskId
  return .snapshot directory

def refreshDerived (runtime : RuntimeState) : RuntimeState :=
  { runtime with
    task := { runtime.task with
      activeStepIds := (runtime.steps.filter fun step => step.status.isActive).map (·.stepId) } }

def initialSkillPreflight (createdAt : Int) (step : StepDefinition) : Option SkillPreflight :=
  if step.requiredSkills ≠ [] ∨ step.optionalSkills ≠ [] then none
  else
    some
      { state := .notRequired
        executor := if step.executor = .auto then none else some step.executor
        adapterMode := "unsupported"
        requiredSkills := []
        optionalSkills := []
        availableRequiredSkills := []
        missingRequiredSkills := []
        missingOptionalSkills := []
        checkedAt := some createdAt }

def initialStepRuntime (createdAt : Int) (completed : List String) (step : StepDefinition) :
    StepRuntime where
  taskId := step.taskId
  stepId := step.stepId
  status := if ∀ id ∈ step.dependsOn, id ∈ completed then .ready else .waitingDependency
  skillPreflight := initialSkillPreflight createdAt step
  attempt := 0
  assignmentId := none
  currentActivity := none
  blocker := none
  lastEventSequence := 0

/-- The definitions of drafted steps, none of which may be known already. -/
def newSteps (taskId error : String) :
    List StepDefinition → List String → Except String (List StepDefinition)
  | [], _ => .ok []
  | draft :: drafts, known => do
    ensure (draft.stepId ∉ known) (error ++ draft.stepId)
    let steps ← newSteps taskId error drafts (draft.stepId :: known)
    return { draft with taskId := taskId } :: steps

/-- Another step may be put to work. -/
def HasCapacity (directory : TaskDirectory) : Prop :=
  directory.runtime.activeSteps < directory.definition.task.maxParallelSteps

instance (directory : TaskDirectory) : Decidable (HasCapacity directory) :=
  inferInstanceAs (Decidable (_ < _))

/-- The error of the operations that find no capacity. -/
def capacityExhausted : String := "task parallel step capacity exhausted"

variable (draw : Nat → String)

def recordAndWrite (definition : WorkflowDefinition) (runtime : RuntimeState)
    (input : EventInput) : Procedure TaskDirectory String Unit := do
  let recorded ← appendEvent draw runtime input
  writeSnapshot definition (refreshDerived recorded)

/-! ## Creating and expanding a task -/

def initialRuntime (createdAt : Int) (task : TaskDefinition) (steps : List StepDefinition) :
    RuntimeState :=
  refreshDerived
    { task := ⟨task.taskId, .ready, [], [], 0⟩
      steps := steps.map (initialStepRuntime createdAt [])
      assignments := []
      sessionBindings := [] }

/-- `createTask(input)`, at an instant. -/
def createTask (createdAt : Int) (task : TaskDefinition) (drafts : List StepDefinition) :
    Procedure ExecutionStore String Reply := do
  check (1 ≤ task.maxParallelSteps ∧ task.maxParallelSteps ≤ 256)
    "maxParallelSteps must be an integer between 1 and 256"
  let steps ← ofExcept (newSteps task.taskId "duplicate step id " drafts [])
  let definition : WorkflowDefinition := ⟨1, task, steps⟩
  let runtime := initialRuntime createdAt task steps
  -- `store.initialize`
  ofExcept (assertSnapshot definition runtime)
  let name ← ofExcept (safeId task.taskId "taskId")
  let store ← read
  check (store.lookup name = none) ("Execution Task already exists: " ++ task.taskId)
  Procedure.write (store ++ [(name, ⟨definition, runtime, [], false⟩)])
  inTask task.taskId do
    let recorded ← appendEvent draw runtime
      { taskId := task.taskId, stepId := none, assignmentId := none, type := .taskCreated
        eventId := none
        payload := .object
          [("title", .string task.title), ("workflowId", nullableJson task.workflowId),
            ("stepIds", textsJson (steps.map (·.stepId)))] }
    writeSnapshot definition recorded
    snapshot task.taskId

/-- The payload of an added step, as far as its definition is kept. -/
def stepJson (step : StepDefinition) : Json :=
  .object [("stepId", .string step.stepId), ("title", .string step.title),
      ("objective", .string step.objective), ("executor", .string step.executor.text),
      ("dependsOn", textsJson step.dependsOn), ("requiredSkills", textsJson step.requiredSkills),
      ("optionalSkills", textsJson step.optionalSkills),
      ("completionGate", textsJson step.completionGate), ("maxAttempts", .nat step.maxAttempts),
      ("taskId", .string step.taskId)]

def addSteps (createdAt : Int) (taskId : String) (drafts : List StepDefinition) : TaskProcedure := do
  if drafts = [] then snapshot taskId
  else
    let current ← loadSnapshot taskId
    let status := current.runtime.task.status
    check (status ≠ .completed ∧ status ≠ .cancelled)
      ("cannot expand terminal task " ++ taskId ++ " while " ++ status.text)
    let additions ← ofExcept (newSteps taskId "step id already exists: " drafts
      (current.definition.steps.map (·.stepId)))
    let definition := { current.definition with
      revision := current.definition.revision + 1
      steps := current.definition.steps ++ additions }
    let completed := (current.runtime.steps.filter fun step => step.status = .completed).map
      (·.stepId)
    let expanded := refreshDerived { current.runtime with
      steps := current.runtime.steps ++ additions.map (initialStepRuntime createdAt completed) }
    let runtime ← additions.foldlM (fun runtime step => appendEvent draw runtime
        { taskId, stepId := some step.stepId, assignmentId := none, type := .stepAdded
          eventId := none, payload := .object [("step", stepJson step)] })
      expanded
    writeSnapshot definition (refreshDerived runtime)
    snapshot taskId

/-! ## The task -/

def transitionTask (taskId : String) (status : TaskStatus) (reason : Option String) :
    TaskProcedure := do
  let current ← loadSnapshot taskId
  let task := current.runtime.task
  check (isValidTaskTransition task.status status) (invalidTaskTransition task.status status)
  let given := reason.filter fun reason => reason ≠ ""
  let blockers := match given with
    | some reason => if status = .blocked then [reason] else task.blockers
    | none => task.blockers
  recordAndWrite draw current.definition
    { current.runtime with task := { task with status := status, blockers := blockers } }
    { taskId, stepId := none, assignmentId := none, type := .taskStateChanged, eventId := none
      payload := .object ([("from", .string task.status.text), ("to", .string status.text)] ++
        reasonMember reason) }
  snapshot taskId

/-- The task is put into a final status, if it may be, and the change is recorded. -/
def finishTask (taskId : String) (runtime : RuntimeState) (status : TaskStatus)
    (type : EventType) (payload : Json) : Procedure TaskDirectory String RuntimeState := do
  check (isValidTaskTransition runtime.task.status status)
    (invalidTaskTransition runtime.task.status status)
  appendEvent draw { runtime with task := { runtime.task with status := status } }
    { taskId, stepId := none, assignmentId := none, type, eventId := none, payload }

def allStepsTerminal (source : TaskStatus) : Json :=
  .object [("from", .string source.text), ("to", .string "cancelled"),
    ("reason", .string "all_steps_terminal")]

/-! ## Readiness -/

/-- One pass of the loop of `reconcileReadiness`. -/
def reconcileStep (taskId : String) (runtime : RuntimeState) (definition : StepDefinition) :
    Procedure TaskDirectory String RuntimeState := do
  let current ← require (runtime.step? definition.stepId)
    "Cannot read properties of undefined (reading 'status')"
  if current.status ≠ .pending ∧ current.status ≠ .waitingDependency then return runtime
  else
    let next : StepStatus :=
      if dependencyReady definition runtime then .ready else .waitingDependency
    if next = current.status then return runtime
    else
      check (isValidStepTransition current.status next) (invalidStepTransition current.status next)
      appendEvent draw (runtime.updateStep current.stepId fun step => { step with status := next })
        { taskId, stepId := some current.stepId, assignmentId := none, type := .stepStateChanged
          eventId := none
          payload := .object [("from", .string current.status.text), ("to", .string next.text),
            ("reason", .string "dependency_reconcile")] }

def reconcileReadiness (taskId : String) : TaskProcedure := do
  let current ← loadSnapshot taskId
  let reconciled ← current.definition.steps.foldlM (reconcileStep draw taskId) current.runtime
  let runtime := refreshDerived reconciled
  writeSnapshot current.definition runtime
  return .plan (planExecutionSchedule current.definition runtime)

/-- The start of the blockers a skill preflight sets. -/
def missingSkills : String := "Missing required Skills:"

def preflightJson (preflight : SkillPreflight) : Json :=
  .object [("state", .string preflight.state.text),
      ("executor", nullableJson (preflight.executor.map (·.text))),
      ("adapterMode", .string preflight.adapterMode),
      ("requiredSkills", textsJson preflight.requiredSkills),
      ("optionalSkills", textsJson preflight.optionalSkills),
      ("availableRequiredSkills", textsJson preflight.availableRequiredSkills),
      ("missingRequiredSkills", textsJson preflight.missingRequiredSkills),
      ("missingOptionalSkills", textsJson preflight.missingOptionalSkills)]

def recordSkillPreflight (taskId stepId : String) (preflight : SkillPreflight) : TaskProcedure := do
  let current ← loadSnapshot taskId
  let notFound := "execution step not found: " ++ stepId
  let definition ← require (current.definition.step? stepId) notFound
  let step ← require (current.runtime.step? stepId) notFound
  check (definition.requiredSkills = preflight.requiredSkills ∧
      definition.optionalSkills = preflight.optionalSkills)
    ("Skill preflight contract mismatch for step " ++ stepId)
  check preflight.checkedAt.isSome "Skill preflight checkedAt is invalid"
  check (preflight.state ≠ .ready ∨ preflight.missingRequiredSkills = [])
    "ready Skill preflight cannot contain missing required Skills"
  let blocker :=
    if preflight.missingRequiredSkills ≠ [] then
      some (missingSkills ++ " " ++ String.intercalate ", " preflight.missingRequiredSkills)
    else step.blocker.filter fun blocker => !missingSkills.toList.isPrefixOf blocker.toList
  recordAndWrite draw current.definition (current.runtime.updateStep stepId fun step =>
      { step with skillPreflight := some preflight, blocker := blocker })
    { taskId, stepId := some stepId, assignmentId := step.assignmentId, type := .skillPreflight
      eventId := none, payload := preflightJson preflight }
  snapshot taskId

/-! ## Assignments and sessions -/

def createAssignment (uuid : String) (taskId stepId : String) (executor : ExecutorTarget)
    (executorId : Option String) : TaskProcedure := do
  let current ← loadSnapshot taskId
  let notFound := "execution step not found: " ++ stepId
  let definition ← require (current.definition.step? stepId) notFound
  let step ← require (current.runtime.step? stepId) notFound
  let task := current.runtime.task
  check (task.status ∉ [.completed, .cancelled, .failed]) "cannot assign a terminal task"
  check (definition.requiredSkills = [] ∨ preflightReady step.skillPreflight)
    ("step " ++ stepId ++ " required Skills have not passed preflight")
  let recommended := step.skillPreflight.bind (·.executor)
  check (definition.requiredSkills = [] ∨ recommended = some executor)
    ("step " ++ stepId ++ " Skill preflight recommends " ++
      (recommended.map (·.text)).getD "no executor" ++ ", not " ++ executor.text)
  check (step.status = .ready ∨ step.status = .fixRequired)
    ("step " ++ stepId ++ " is not assignable while " ++ step.status.text)
  check (step.attempt < definition.maxAttempts) ("step " ++ stepId ++ " attempt budget exhausted")
  check (dependencyReady definition current.runtime) "step dependencies are not completed"
  check (HasCapacity current) capacityExhausted
  check (executor ≠ .auto) "invalid assignment executor"
  check (definition.executor = .auto ∨ definition.executor = executor)
    "assignment executor does not match step"
  let assignment : Assignment :=
    ⟨"asg-" ++ uuid, taskId, stepId, step.attempt + 1, executor, executorId⟩
  check (isValidStepTransition step.status .dispatching)
    (invalidStepTransition step.status .dispatching)
  let assigned := current.runtime.updateStep stepId fun step =>
    { step with
      status := .dispatching
      attempt := assignment.attempt
      assignmentId := some assignment.assignmentId
      blocker := none }
  recordAndWrite draw current.definition
    { assigned with
      task := if task.status = .ready then { task with status := .running } else task
      assignments := current.runtime.assignments ++ [assignment] }
    { taskId, stepId := some stepId, assignmentId := some assignment.assignmentId
      type := .assignmentCreated, eventId := none
      payload := .object [("executor", .string executor.text),
        ("executorId", nullableJson executorId), ("attempt", .nat assignment.attempt)] }
  return .assignment assignment

/-- What a client says of the session it binds. -/
structure BindExecutionSessionInput where
  logicalSessionId : String
  (runtimeConversationId conversationUrl : Option String)
  state : Option SessionBindingState

def bindTaskSession (uuid : String) (assignmentId : String) (input : BindExecutionSessionInput)
    (taskId : String) : TaskProcedure := do
  let current ← loadSnapshot taskId
  let assignment ← require
    (current.runtime.assignments.find? fun item => item.assignmentId = assignmentId)
    ("assignment not found: " ++ assignmentId)
  check (∀ binding ∈ current.runtime.sessionBindings,
      binding.assignmentId = assignmentId → binding.state = .closed)
    ("assignment " ++ assignmentId ++ " already has an active session binding")
  let binding : SessionBinding :=
    { bindingId := "bind-" ++ uuid
      taskId
      stepId := assignment.stepId
      assignmentId
      executor := assignment.executor
      logicalSessionId := scriptTrim input.logicalSessionId
      runtimeConversationId := trimmedOrNull input.runtimeConversationId
      conversationUrl := trimmedOrNull input.conversationUrl
      state := input.state.getD .active }
  check (binding.logicalSessionId ≠ "") "logicalSessionId is required"
  recordAndWrite draw current.definition
    { current.runtime with sessionBindings := current.runtime.sessionBindings ++ [binding] }
    { taskId, stepId := some assignment.stepId, assignmentId := some assignmentId
      type := .sessionBound, eventId := none
      payload := .object [("bindingId", .string binding.bindingId),
        ("logicalSessionId", .string binding.logicalSessionId),
        ("executor", .string binding.executor.text)] }
  return .binding binding

def findAssignment (assignmentId : String) : List String → Procedure ExecutionStore String String
  | [] => fail ("assignment not found: " ++ assignmentId)
  | taskId :: taskIds => do
    let directory ← inTask taskId (loadSnapshot taskId)
    if directory.runtime.assignments.any fun item => item.assignmentId = assignmentId then
      return taskId
    else findAssignment assignmentId taskIds

def bindSession (uuid assignmentId : String) (input : BindExecutionSessionInput) :
    Procedure ExecutionStore String Reply := do
  let store ← read
  let taskId ← findAssignment assignmentId (sortTexts (store.map (·.1)))
  inTask taskId (bindTaskSession draw uuid assignmentId input taskId)

def updateSessionBindingState (taskId bindingId : String) (state : SessionBindingState) :
    TaskProcedure := do
  let current ← loadSnapshot taskId
  let binding ← require
    (current.runtime.sessionBindings.find? fun item => item.bindingId = bindingId)
    ("session binding not found: " ++ bindingId)
  check (isValidSessionBindingTransition binding.state state)
    (invalidSessionBindingTransition binding.state state)
  let updated := { binding with state := state }
  recordAndWrite draw current.definition
    { current.runtime with
      sessionBindings := current.runtime.sessionBindings.map fun item =>
        if item.bindingId = bindingId then updated else item }
    { taskId, stepId := some binding.stepId, assignmentId := some binding.assignmentId
      type := .sessionStateChanged, eventId := none
      payload := .object [("bindingId", .string bindingId), ("from", .string binding.state.text),
        ("to", .string state.text)] }
  return .binding updated

/-! ## Reports -/

def requestCompletion (taskId stepId : String) (identity : EventIdentity) : TaskProcedure := do
  let current ← loadSnapshot taskId
  let step ← require (current.runtime.step? stepId) ("execution step not found: " ++ stepId)
  check step.assignmentId.isSome "completion request requires an assignment"
  check (step.status.isActive ∨ HasCapacity current) capacityExhausted
  check (isValidStepTransition step.status .verifying)
    (invalidStepTransition step.status .verifying)
  recordAndWrite draw current.definition
    (current.runtime.updateStep stepId fun step => { step with status := .verifying })
    { taskId, stepId := some stepId, assignmentId := step.assignmentId
      type := .completionRequested, eventId := identity.eventId
      payload := eventPayload (.object [("from", .string step.status.text),
        ("to", .string "verifying")]) identity }
  snapshot taskId

def transitionEvent : StepStatus → EventType
  | .waitingHuman => .waitingHuman
  | .blocked => .blocked
  | .outcomeUnknown => .outcomeUnknown
  | _ => .stepStateChanged

/-- All steps of a task have ended and one of them was cancelled. -/
def stepsCancelled (runtime : RuntimeState) : Prop :=
  (∃ step ∈ runtime.steps, step.status = .cancelled) ∧
    ∀ step ∈ runtime.steps, step.status = .completed ∨ step.status = .cancelled

instance (runtime : RuntimeState) : Decidable (stepsCancelled runtime) :=
  inferInstanceAs (Decidable (_ ∧ _))

def cancelWhenEnded (taskId : String) (runtime : RuntimeState) :
    Procedure TaskDirectory String RuntimeState :=
  if runtime.task.status ≠ .cancelled ∧ stepsCancelled runtime then
    finishTask draw taskId runtime .cancelled .taskStateChanged
      (allStepsTerminal runtime.task.status)
  else pure runtime

def transitionStep (taskId stepId : String) (status : StepStatus) (reason : Option String)
    (identity : EventIdentity) : TaskProcedure := do
  if status = .completed then fail "step completion requires gatePassed"
  else if status = .verifying then
    requestCompletion draw taskId stepId
      { identity with
        payload := some ((identity.payload.getD (.object [])).spread
          (.object (reasonMember reason))) }
  else
    let current ← loadSnapshot taskId
    let step ← require (current.runtime.step? stepId) ("execution step not found: " ++ stepId)
    check (isValidStepTransition step.status status) (invalidStepTransition step.status status)
    check (status ≠ .ready ∨ (current.definition.step? stepId).any fun definition =>
          dependencyReady definition current.runtime)
      "step dependencies are not completed"
    let activates := status.isActive ∧ ¬ step.status.isActive
    check (¬ activates ∨ step.assignmentId.isSome) "active step requires an assignment"
    check (¬ activates ∨ HasCapacity current) capacityExhausted
    let keepsBlocker := status ∈ [.blocked, .outcomeUnknown, .failed, .waitingHuman]
    let recorded ← appendEvent draw (current.runtime.updateStep stepId fun step =>
        { step with
          status := status
          blocker := if keepsBlocker then reason <|> step.blocker else none })
      { taskId, stepId := some stepId, assignmentId := step.assignmentId
        type := transitionEvent status, eventId := identity.eventId
        payload := eventPayload (.object ([("from", .string step.status.text),
          ("to", .string status.text)] ++ reasonMember reason)) identity }
    let finished ← cancelWhenEnded draw taskId (refreshDerived recorded)
    writeSnapshot current.definition finished
    snapshot taskId

def recordProgress (taskId stepId : String) (progress : Option NumberLiteral)
    (currentActivity : Option String) (identity : EventIdentity) : TaskProcedure := do
  let current ← loadSnapshot taskId
  let step ← require (current.runtime.step? stepId) ("execution step not found: " ++ stepId)
  check (step.status ∈ [.dispatching, .running, .waitingReport, .fixRequired])
    ("step " ++ stepId ++ " cannot report progress while " ++ step.status.text)
  let normalized ← require progress "progress must be finite"
  check (step.status = .running ∨ isValidStepTransition step.status .running)
    (invalidStepTransition step.status .running)
  let activity := trimmedOrNull currentActivity
  -- no capacity check here, although a step that needs a fix is not active
  recordAndWrite draw current.definition (current.runtime.updateStep stepId fun step =>
      { step with status := .running, currentActivity := activity, blocker := none })
    { taskId, stepId := some stepId, assignmentId := step.assignmentId
      type := .progressUpdated, eventId := identity.eventId
      payload := eventPayload (.object [("progress", .number normalized),
        ("currentActivity", nullableJson activity), ("fromStatus", .string step.status.text),
        ("toStatus", .string "running")]) identity }
  snapshot taskId

def recordArtifact (taskId stepId : String) (artifact : Json) (identity : EventIdentity) :
    TaskProcedure := do
  let current ← loadSnapshot taskId
  let step ← require (current.runtime.step? stepId) ("execution step not found: " ++ stepId)
  recordAndWrite draw current.definition current.runtime
    { taskId, stepId := some stepId, assignmentId := step.assignmentId
      type := .artifactProduced, eventId := identity.eventId
      payload := eventPayload artifact identity }
  snapshot taskId

/-! ## The completion gate -/

/-- The member of a set that an artifact identifier is, by the text of its value; objects and
arrays are all different. -/
def artifactKey (event : ExecutionEvent) : Option (List Char) :=
  match event.payload.get "artifactId" with
  | none | some .null => some (Json.string event.eventId).render
  | some (.object _) | some (.array _) => none
  | some value => some value.render

def distinctArtifacts (events : List ExecutionEvent) : Nat :=
  (events.filterMap artifactKey).eraseDups.length +
    (events.filter fun event => (artifactKey event).isNone).length

def artifactEvents (directory : TaskDirectory) (step : StepRuntime) : List ExecutionEvent :=
  directory.events.filter fun event =>
    event.type = .artifactProduced && event.stepId = some step.stepId &&
      step.assignmentId.isSome && event.assignmentId = step.assignmentId

def outputProduced (artifacts : List ExecutionEvent) (output : ExpectedOutput) : Bool :=
  !output.required || output.minCount.getD 1 ≤ distinctArtifacts (artifacts.filter fun event =>
      ScriptValue.text? (event.payload.get "logicalName") = some output.logicalName)

/-- The required outputs of a step, checked in their order. -/
def checkOutputs (artifacts : List ExecutionEvent) :
    List ExpectedOutput → Procedure TaskDirectory String Unit
  | [] => pure ()
  | output :: outputs => do
    check (outputProduced artifacts output) ("missing required output: " ++ output.logicalName)
    checkOutputs artifacts outputs

def sameAssignment (evidence : Json) (step : StepRuntime) : Bool :=
  match evidence.get "assignmentId", step.assignmentId with
  | some (.string id), some assignmentId => id = assignmentId
  | some .null, none => true
  | _, _ => false

/-- One pass of the loop of `gatePassed` that readies the dependents of the completed step. -/
def readyDependent (taskId : String) (runtime : RuntimeState) (definition : StepDefinition) :
    Procedure TaskDirectory String RuntimeState := do
  let dependent ← require (runtime.step? definition.stepId)
    "Cannot read properties of undefined (reading 'status')"
  if dependent.status ≠ .waitingDependency ∨ ¬ dependencyReady definition runtime then
    return runtime
  else
    appendEvent draw (runtime.updateStep dependent.stepId fun step => { step with status := .ready })
      { taskId, stepId := some dependent.stepId, assignmentId := none, type := .stepStateChanged
        eventId := none
        payload := .object [("from", .string "waiting_dependency"), ("to", .string "ready"),
          ("reason", .string "dependency_completed")] }

def completeWhenEnded (taskId : String) (runtime : RuntimeState) :
    Procedure TaskDirectory String RuntimeState :=
  if runtime.steps ≠ [] ∧ ∀ step ∈ runtime.steps, step.status = .completed then
    finishTask draw taskId runtime .completed .taskCompleted
      (.object [("completedStepIds", textsJson (runtime.steps.map (·.stepId)))])
  else if ∀ step ∈ runtime.steps, step.status = .completed ∨ step.status = .cancelled then
    finishTask draw taskId runtime .cancelled .taskStateChanged
      (allStepsTerminal runtime.task.status)
  else pure runtime

def gatePassed (taskId stepId : String) (evidence : Json) : TaskProcedure := do
  let current ← loadSnapshot taskId
  let step ← require (current.runtime.step? stepId) ("execution step not found: " ++ stepId)
  check (step.status = .verifying) "completion gate requires a verifying step"
  let definition ← require (current.definition.step? stepId)
    "Cannot read properties of undefined (reading 'completionGate')"
  let humanReview := ScriptValue.text? (evidence.get "source") = some "human_task_review"
  check (¬ humanReview ∨ sameAssignment evidence step)
    "review assignment is stale; refresh the task"
  check (¬ humanReview ∨ (ScriptValue.text? (evidence.get "note")).any text)
    "human review requires evidence"
  let outputs :=
    if definition.completionGate.contains "required_outputs" ∨ humanReview then
      definition.expectedOutputs
    else []
  checkOutputs (artifactEvents current step) outputs
  check (isValidStepTransition step.status .completed)
    (invalidStepTransition step.status .completed)
  let completed ← appendEvent draw (current.runtime.updateStep stepId fun step =>
      { step with status := .completed, currentActivity := none, blocker := none })
    { taskId, stepId := some stepId, assignmentId := step.assignmentId, type := .gatePassed
      eventId := none, payload := evidence }
  let readied ← current.definition.steps.foldlM (readyDependent draw taskId) completed
  let finished ← completeWhenEnded draw taskId readied
  writeSnapshot current.definition (refreshDerived finished)
  snapshot taskId

def gateFailed (taskId stepId reason : String) : TaskProcedure := do
  let current ← loadSnapshot taskId
  let step ← require (current.runtime.step? stepId) ("execution step not found: " ++ stepId)
  check (step.status = .verifying) "completion gate requires a verifying step"
  check (isValidStepTransition step.status .fixRequired)
    (invalidStepTransition step.status .fixRequired)
  let blocker := if scriptTrim reason = "" then "completion gate failed" else scriptTrim reason
  recordAndWrite draw current.definition (current.runtime.updateStep stepId fun step =>
      { step with status := .fixRequired, blocker := some blocker })
    { taskId, stepId := some stepId, assignmentId := step.assignmentId, type := .gateFailed
      eventId := none, payload := .object [("reason", .string blocker)] }
  snapshot taskId

/-! ## Archived and deleted tasks -/

def setTaskArchived (taskId : String) (archived : Bool) : TaskProcedure := do
  let current ← loadSnapshot taskId
  if current.archived = archived then snapshot taskId
  else
    -- `store.writeArchive`
    Procedure.modify fun directory => { directory with archived := archived }
    recordAndWrite draw current.definition current.runtime
      { taskId, stepId := none, assignmentId := none
        type := if archived then .taskArchived else .taskUnarchived, eventId := none
        payload := .object [("title", .string current.definition.task.title)] }
    snapshot taskId

def deleteTask (taskId : String) : Procedure ExecutionStore String Reply := do
  inTask taskId do
    let current ← loadSnapshot taskId
    check (current.runtime.activeSteps = 0) ("任务仍有 " ++ toString current.runtime.activeSteps ++
        " 个步骤处于执行中，请先取消或归档后再删除。")
  let name ← ofExcept (safeId taskId "taskId")
  Procedure.modify fun store => store.filter fun entry => entry.1 ≠ name
  return .deleted

/-! ## The service -/

/-- The operations a client may call. -/
inductive Operation where
  | createTask (createdAt : Int) (task : TaskDefinition) (drafts : List StepDefinition)
  | addSteps (createdAt : Int) (taskId : String) (drafts : List StepDefinition)
  | transitionTask (taskId : String) (status : TaskStatus) (reason : Option String)
  | reconcileReadiness (taskId : String)
  | recordSkillPreflight (taskId stepId : String) (preflight : SkillPreflight)
  | createAssignment (uuid taskId stepId : String) (executor : ExecutorTarget)
      (executorId : Option String)
  | bindSession (uuid assignmentId : String) (input : BindExecutionSessionInput)
  | transitionStep (taskId stepId : String) (status : StepStatus) (reason : Option String)
      (identity : EventIdentity)
  | recordProgress (taskId stepId : String) (progress : Option NumberLiteral)
      (currentActivity : Option String) (identity : EventIdentity)
  | recordArtifact (taskId stepId : String) (artifact : Json) (identity : EventIdentity)
  | requestCompletion (taskId stepId : String) (identity : EventIdentity)
  | gatePassed (taskId stepId : String) (evidence : Json)
  | gateFailed (taskId stepId reason : String)
  | updateSessionBindingState (taskId bindingId : String) (state : SessionBindingState)
  | setTaskArchived (taskId : String) (archived : Bool)
  | deleteTask (taskId : String)

/-- **The service of the runtime.** Each call comes with the UUIDs that are drawn in it. -/
def serve (call : Operation × (Nat → String)) : Procedure ExecutionStore String Reply :=
  match call.1 with
  | .createTask createdAt task drafts => createTask call.2 createdAt task drafts
  | .addSteps createdAt taskId drafts => inTask taskId (addSteps call.2 createdAt taskId drafts)
  | .transitionTask taskId status reason =>
    inTask taskId (transitionTask call.2 taskId status reason)
  | .reconcileReadiness taskId => inTask taskId (reconcileReadiness call.2 taskId)
  | .recordSkillPreflight taskId stepId preflight =>
    inTask taskId (recordSkillPreflight call.2 taskId stepId preflight)
  | .createAssignment uuid taskId stepId executor executorId =>
    inTask taskId (createAssignment call.2 uuid taskId stepId executor executorId)
  | .bindSession uuid assignmentId input => bindSession call.2 uuid assignmentId input
  | .transitionStep taskId stepId status reason identity =>
    inTask taskId (transitionStep call.2 taskId stepId status reason identity)
  | .recordProgress taskId stepId progress currentActivity identity =>
    inTask taskId (recordProgress call.2 taskId stepId progress currentActivity identity)
  | .recordArtifact taskId stepId artifact identity =>
    inTask taskId (recordArtifact call.2 taskId stepId artifact identity)
  | .requestCompletion taskId stepId identity =>
    inTask taskId (requestCompletion call.2 taskId stepId identity)
  | .gatePassed taskId stepId evidence => inTask taskId (gatePassed call.2 taskId stepId evidence)
  | .gateFailed taskId stepId reason => inTask taskId (gateFailed call.2 taskId stepId reason)
  | .updateSessionBindingState taskId bindingId state =>
    inTask taskId (updateSessionBindingState call.2 taskId bindingId state)
  | .setTaskArchived taskId archived => inTask taskId (setTaskArchived call.2 taskId archived)
  | .deleteTask taskId => deleteTask taskId

abbrev runtimeMachine : Machine ExecutionStore (Operation × (Nat → String)) (Except String Reply) :=
  Procedure.machine serve

end Zero3Pilot.Execution
