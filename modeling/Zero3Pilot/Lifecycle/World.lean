import Zero3Pilot.Foundations.Uuid
import Zero3Pilot.Lifecycle.Runtime

/-! # The lifecycle runtime at work

The operations run one after another against the execution runtime, the artifact store and the
lifecycle store; what shared memory answers, and what is drawn, comes with every call. -/

namespace Zero3Pilot.Lifecycle

open Execution (ExecutionStore Reply SkillPreflight StepDefinition StepStatus TaskDefinition
  TaskDirectory inTask loadSnapshot)
open Procedure (fail modify ofExcept read)

/-! ## State and surroundings -/

/-- **The state** of the lifecycle runtime and of what it calls. -/
structure LifecycleState where
  execution : ExecutionStore
  settings : List (String × TaskSettings)
  store : LifecycleStore
  artifacts : ArtifactStore
  /-- The events that were handed to shared memory, the newest last. -/
  published : List Json
  (drawn asked : Nat)

/-- What one call of shared memory is answered with. -/
structure MemoryReply where
  opened : Except String Bool
  entities : Except String (List Json)
  published : Except String Unit

/-- **What a call meets.** -/
structure Surroundings where
  uuid : Nat → Uuid
  eventUuid : Nat → String
  createdAt : Int
  now : String
  sha256 : String → String
  coerce : Json → Option Int
  /-- A number brought between 0 and 1. -/
  boundedProgress : NumberLiteral → NumberLiteral
  preflight : Option (TaskDefinition → StepDefinition → Except String SkillPreflight)
  memory : Nat → MemoryReply

def LifecycleState.settingsOf (state : LifecycleState) (taskId : String) : TaskSettings :=
  (state.settings.lookup taskId).getD ⟨none, false⟩

abbrev LifecycleProcedure := Procedure LifecycleState String

/-! ## Ports -/

def onStore {α : Type} (method : Statement α) : LifecycleProcedure α :=
  method.focus (·.store) fun store state => { state with store := store }

/-- An operation of the execution runtime. -/
def onExecution {α : Type} (procedure : Procedure ExecutionStore String α) : LifecycleProcedure α :=
  procedure.focus (·.execution) fun execution state => { state with execution := execution }

def onArtifacts {α : Type} (procedure : Procedure ArtifactStore String α) : LifecycleProcedure α :=
  procedure.focus (·.artifacts) fun artifacts state => { state with artifacts := artifacts }

def readTask (taskId : String) : LifecycleProcedure TaskSnapshot := do
  let directory ← onExecution (inTask taskId (loadSnapshot taskId))
  let state ← read
  return ⟨state.settingsOf taskId, directory⟩

def readTasks : List String → LifecycleProcedure (List TaskSnapshot)
  | [] => pure []
  | taskId :: taskIds => do
    let snapshot ← readTask taskId
    let rest ← readTasks taskIds
    return snapshot :: rest

variable (surroundings : Surroundings)

def drawUuid : LifecycleProcedure String := do
  let state ← read
  modify fun state => { state with drawn := state.drawn + 1 }
  return (surroundings.uuid state.drawn).text

def nextReply : LifecycleProcedure MemoryReply := do
  let state ← read
  modify fun state => { state with asked := state.asked + 1 }
  return surroundings.memory state.asked

def onTask {α : Type} (taskId : String) (procedure : Procedure TaskDirectory String α) :
    LifecycleProcedure α :=
  onExecution (inTask taskId procedure)

/-- The statuses of steps whose skills are not checked any more. -/
def isSettledStep (status : StepStatus) : Bool :=
  status ∈ [.completed, .cancelled, .failed, .outcomeUnknown]

def refreshSteps (taskId : String) (snapshot : TaskDirectory)
    (preflight : TaskDefinition → StepDefinition → Except String SkillPreflight) :
    List StepDefinition → LifecycleProcedure Unit
  | [] => pure ()
  | step :: steps => do
    if (snapshot.runtime.step? step.stepId).all fun current => isSettledStep current.status then
      refreshSteps taskId snapshot preflight steps
    else do
      let checked ← ofExcept (preflight snapshot.definition.task step)
      let _ ← onTask taskId
        (Execution.recordSkillPreflight surroundings.eventUuid taskId step.stepId checked)
      refreshSteps taskId snapshot preflight steps

/-- `refreshSkillPreflight(taskId)` of the desktop runtime. -/
def refreshTask (taskId : String) : LifecycleProcedure Unit := do
  let snapshot ← readTask taskId
  match surroundings.preflight with
  | none => return ()
  | some preflight =>
    refreshSteps surroundings taskId snapshot.directory preflight snapshot.directory.definition.steps

/-- The assignment an operation returns. -/
def asAssignment : Reply → LifecycleProcedure Execution.Assignment
  | .assignment assignment => pure assignment
  | _ => fail "assignment expected"

/-- The binding an operation returns. -/
def asBinding : Reply → LifecycleProcedure Execution.SessionBinding
  | .binding binding => pure binding
  | _ => fail "binding expected"

/-- Hand an event to shared memory. -/
def publishEvent (event : Json) : LifecycleProcedure Unit := do
  let reply ← nextReply surroundings
  ofExcept reply.published
  modify fun state => { state with published := state.published ++ [event] }

/-- **The ports as procedures on the state.** Nothing runs between the calls of an operation. -/
def plainPorts : LifecyclePorts LifecycleProcedure where
  mutate _ run := run
  statement := onStore
  listTasks := do
    let state ← read
    readTasks (sortTexts (state.execution.map (·.1)))
  getTask := readTask
  refreshSkillPreflight := refreshTask surroundings
  createTask task settings steps := do
    let _ ← onExecution (Execution.createTask surroundings.eventUuid surroundings.createdAt task steps)
    modify fun state => { state with settings := (task.taskId, settings) :: state.settings }
    readTask task.taskId
  createAssignment taskId stepId executorId := do
    let uuid ← drawUuid surroundings
    let reply ← onTask taskId (Execution.createAssignment surroundings.eventUuid uuid taskId stepId
      .gptWeb (some executorId))
    asAssignment reply
  bindSession assignmentId input := do
    let uuid ← drawUuid surroundings
    let reply ← onExecution (Execution.bindSession surroundings.eventUuid uuid assignmentId input)
    asBinding reply
  recordProgress taskId stepId progress currentActivity identity := do
    let _ ← onTask taskId (Execution.recordProgress surroundings.eventUuid taskId stepId
      (some (surroundings.boundedProgress progress)) currentActivity identity)
  recordArtifact taskId stepId artifact identity := do
    let _ ← onTask taskId (Execution.recordArtifact surroundings.eventUuid taskId stepId artifact identity)
  requestCompletion taskId stepId identity := do
    let _ ← onTask taskId (Execution.requestCompletion surroundings.eventUuid taskId stepId identity)
    readTask taskId
  updateSessionState taskId bindingId state := do
    let _ ← onTask taskId
      (Execution.updateSessionBindingState surroundings.eventUuid taskId bindingId state)
  transitionStep taskId stepId status reason := do
    let _ ← onTask taskId (Execution.transitionStep surroundings.eventUuid taskId stepId status
      (some reason) Execution.noIdentity)
  register input := onArtifacts (ArtifactStore.register input)
  listArtifacts taskId := onArtifacts (ArtifactStore.list taskId)
  memoryForProject _ := do
    let reply ← nextReply surroundings
    ofExcept reply.opened
  getProject _ := do
    let reply ← nextReply surroundings
    ofExcept reply.entities
  publish := publishEvent surroundings
  randomUUID := drawUuid surroundings
  now := pure surroundings.now
  sha256 := surroundings.sha256
  coerce := surroundings.coerce

@[simp] theorem plainPorts_mutate {α : Type} (scope : String) (run : LifecycleProcedure α) :
    (plainPorts surroundings).mutate scope run = run := rfl

@[simp] theorem plainPorts_statement {α : Type} (method : Statement α) :
    (plainPorts surroundings).statement method = onStore method := rfl

@[simp] theorem plainPorts_getTask (taskId : String) :
    (plainPorts surroundings).getTask taskId = readTask taskId := rfl

@[simp] theorem plainPorts_randomUUID :
    (plainPorts surroundings).randomUUID = drawUuid surroundings := rfl

@[simp] theorem plainPorts_now :
    (plainPorts surroundings).now = (pure surroundings.now : LifecycleProcedure String) := rfl

@[simp] theorem plainPorts_register (input : ArtifactInput) :
    (plainPorts surroundings).register input = onArtifacts (ArtifactStore.register input) := rfl

@[simp] theorem plainPorts_listArtifacts (taskId : String) :
    (plainPorts surroundings).listArtifacts taskId = onArtifacts (ArtifactStore.list taskId) := rfl

/-! ## The service -/

/-- The operations an agent may call. -/
inductive LifecycleOperation where
  | sessionStart (input : ScriptValue)
  | taskClaim (input : ScriptValue)
  | eventRecord (input : ScriptValue)
  | artifactRegister (input : ScriptValue)
  | memoryCommit (input : ScriptValue)
  | handoffCreate (input : ScriptValue)
  | taskComplete (input : ScriptValue)
  | sessionInterrupt (input : ScriptValue)

def LifecycleOperation.input : LifecycleOperation → ScriptValue
  | .sessionStart input | .taskClaim input | .eventRecord input | .artifactRegister input
  | .memoryCommit input | .handoffCreate input | .taskComplete input | .sessionInterrupt input => input

def perform {m : Type → Type} [Monad m] [Fallible m] (ports : LifecyclePorts m) :
    LifecycleOperation → m LifecycleAnswer
  | .sessionStart input => sessionStart ports input
  | .taskClaim input => taskClaim ports input
  | .eventRecord input => eventRecord ports input
  | .artifactRegister input => artifactRegister ports input
  | .memoryCommit input => memoryCommit ports input
  | .handoffCreate input => handoffCreate ports input
  | .taskComplete input => taskComplete ports input
  | .sessionInterrupt input => sessionInterrupt ports input

/-- **The service of the runtime.** -/
def serve (call : LifecycleOperation × Surroundings) : LifecycleProcedure LifecycleAnswer :=
  perform (plainPorts call.2) call.1

/-- The runtime serving agents. -/
abbrev lifecycleMachine :
    Machine LifecycleState (LifecycleOperation × Surroundings) (Except String LifecycleAnswer) :=
  Procedure.machine serve

end Zero3Pilot.Lifecycle
