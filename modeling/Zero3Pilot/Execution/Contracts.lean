import Zero3Pilot.Foundations.ScriptValue
import Zero3Pilot.Foundations.Checks

/-! # Execution tasks

The data of an execution task and the state machines of its task and steps:
`execution-runtime/contracts.ts` and `execution-runtime/state-machine.ts`. A task is a workflow
definition, the runtime state of its steps, and a ledger of events. Time stamps, task progress and
the descriptive members no operation reads are left out. -/

namespace Zero3Pilot.Execution

/-! ## Statuses -/

/-- Who executes a step. -/
inductive ExecutorTarget where
  | gptWeb | geminiWeb | codex | claude | antigravity | zero3 | remoteCompute | human
  /-- Whoever the skill preflight recommends. -/
  | auto
  deriving DecidableEq

def ExecutorTarget.text : ExecutorTarget → String
  | .gptWeb => "GPT_WEB"
  | .geminiWeb => "GEMINI_WEB"
  | .codex => "CODEX"
  | .claude => "CLAUDE"
  | .antigravity => "ANTIGRAVITY"
  | .zero3 => "ZERO3"
  | .remoteCompute => "REMOTE_COMPUTE"
  | .human => "HUMAN"
  | .auto => "AUTO"

inductive TaskStatus where
  | draft | ready | running | waitingHuman | blocked | outcomeUnknown | completed | cancelled
  | failed
  deriving DecidableEq

def TaskStatus.text : TaskStatus → String
  | .draft => "draft"
  | .ready => "ready"
  | .running => "running"
  | .waitingHuman => "waiting_human"
  | .blocked => "blocked"
  | .outcomeUnknown => "outcome_unknown"
  | .completed => "completed"
  | .cancelled => "cancelled"
  | .failed => "failed"

inductive StepStatus where
  | pending | waitingDependency | ready | dispatching | running | waitingReport | verifying
  | fixRequired | waitingHuman | blocked | failed | completed | cancelled | outcomeUnknown
  deriving DecidableEq

def StepStatus.text : StepStatus → String
  | .pending => "pending"
  | .waitingDependency => "waiting_dependency"
  | .ready => "ready"
  | .dispatching => "dispatching"
  | .running => "running"
  | .waitingReport => "waiting_report"
  | .verifying => "verifying"
  | .fixRequired => "fix_required"
  | .waitingHuman => "waiting_human"
  | .blocked => "blocked"
  | .failed => "failed"
  | .completed => "completed"
  | .cancelled => "cancelled"
  | .outcomeUnknown => "outcome_unknown"

def StepStatus.isActive : StepStatus → Bool
  | .dispatching | .running | .waitingReport | .verifying => true
  | _ => false

inductive SessionBindingState where
  | created | active | suspended | closed | lost
  deriving DecidableEq

def SessionBindingState.text : SessionBindingState → String
  | .created => "created"
  | .active => "active"
  | .suspended => "suspended"
  | .closed => "closed"
  | .lost => "lost"

/-! ## Transitions -/

def taskTransitions : TaskStatus → List TaskStatus
  | .draft => [.ready, .cancelled]
  | .ready => [.running, .blocked, .waitingHuman, .cancelled, .failed]
  | .running => [.waitingHuman, .blocked, .outcomeUnknown, .completed, .cancelled, .failed]
  | .waitingHuman => [.ready, .running, .blocked, .cancelled, .failed]
  | .blocked => [.ready, .running, .waitingHuman, .cancelled, .failed]
  | .outcomeUnknown => [.waitingHuman, .cancelled, .failed]
  | .completed => []
  | .cancelled => []
  | .failed => [.ready, .cancelled]

def stepTransitions : StepStatus → List StepStatus
  | .pending => [.waitingDependency, .ready, .cancelled]
  | .waitingDependency => [.ready, .blocked, .cancelled]
  | .ready => [.dispatching, .blocked, .waitingHuman, .cancelled]
  | .dispatching =>
    [.running, .verifying, .waitingHuman, .blocked, .outcomeUnknown, .failed, .cancelled]
  | .running =>
    [.waitingReport, .verifying, .fixRequired, .waitingHuman, .blocked, .outcomeUnknown, .failed,
      .cancelled]
  | .waitingReport =>
    [.running, .verifying, .fixRequired, .waitingHuman, .blocked, .outcomeUnknown, .failed,
      .cancelled]
  | .verifying =>
    [.completed, .fixRequired, .waitingHuman, .blocked, .outcomeUnknown, .failed, .cancelled]
  | .fixRequired =>
    [.dispatching, .running, .verifying, .waitingHuman, .blocked, .failed, .cancelled]
  | .waitingHuman =>
    [.ready, .dispatching, .running, .verifying, .fixRequired, .blocked, .failed, .cancelled]
  | .blocked => [.ready, .dispatching, .running, .fixRequired, .waitingHuman, .failed, .cancelled]
  | .failed => [.ready, .cancelled]
  | .completed => []
  | .cancelled => []
  | .outcomeUnknown => [.waitingHuman, .failed, .cancelled]

def sessionBindingTransitions : SessionBindingState → List SessionBindingState
  | .created => [.active, .suspended, .closed, .lost]
  | .active => [.suspended, .closed, .lost]
  | .suspended => [.active, .closed, .lost]
  | .lost => [.active, .closed]
  | .closed => []

/-- A status may stay as it is or move along the table. -/
def isValidTaskTransition (source target : TaskStatus) : Bool :=
  source = target || (taskTransitions source).contains target

/-- A status may stay as it is or move along the table. -/
def isValidStepTransition (source target : StepStatus) : Bool :=
  source = target || (stepTransitions source).contains target

/-- A state may stay as it is or move along the table. -/
def isValidSessionBindingTransition (source target : SessionBindingState) : Bool :=
  source = target || (sessionBindingTransitions source).contains target

/-- The error of `assertTaskTransition`. -/
def invalidTaskTransition (source target : TaskStatus) : String :=
  "invalid task transition " ++ source.text ++ " -> " ++ target.text

/-- The error of `assertStepTransition`. -/
def invalidStepTransition (source target : StepStatus) : String :=
  "invalid step transition " ++ source.text ++ " -> " ++ target.text

/-- The error of `assertSessionBindingTransition`. -/
def invalidSessionBindingTransition (source target : SessionBindingState) : String :=
  "invalid session binding transition " ++ source.text ++ " -> " ++ target.text

/-! ## Definitions -/

structure ExpectedOutput where
  logicalName : String
  required : Bool
  (minCount maxCount : Option Nat)
  deriving DecidableEq

structure StepDefinition where
  (taskId stepId title objective : String)
  executor : ExecutorTarget
  (dependsOn requiredSkills optionalSkills inputArtifacts : List String)
  expectedOutputs : List ExpectedOutput
  completionGate : List String
  maxAttempts : Nat
  deriving DecidableEq

structure TaskDefinition where
  taskId : String
  workspace : Option String
  (title goal : String)
  workflowId : Option String
  maxParallelSteps : Nat
  deriving DecidableEq

structure WorkflowDefinition where
  revision : Nat
  task : TaskDefinition
  steps : List StepDefinition
  deriving DecidableEq

/-! ## Runtime states -/

inductive SkillPreflightState where
  | notRequired | ready | blocked
  deriving DecidableEq

def SkillPreflightState.text : SkillPreflightState → String
  | .notRequired => "not_required"
  | .ready => "ready"
  | .blocked => "blocked"

structure SkillPreflight where
  state : SkillPreflightState
  executor : Option ExecutorTarget
  adapterMode : String
  (requiredSkills optionalSkills availableRequiredSkills missingRequiredSkills : List String)
  missingOptionalSkills : List String
  /-- The instant of the check, where its text is a date. -/
  checkedAt : Option Int

structure StepRuntime where
  (taskId stepId : String)
  status : StepStatus
  skillPreflight : Option SkillPreflight
  attempt : Nat
  (assignmentId currentActivity blocker : Option String)
  lastEventSequence : Nat

structure TaskRuntime where
  taskId : String
  status : TaskStatus
  (activeStepIds blockers : List String)
  lastEventSequence : Nat

/-- `ExecutionAssignment`. -/
structure Assignment where
  (assignmentId taskId stepId : String)
  attempt : Nat
  executor : ExecutorTarget
  executorId : Option String

structure SessionBinding where
  (bindingId taskId stepId assignmentId : String)
  executor : ExecutorTarget
  logicalSessionId : String
  (runtimeConversationId conversationUrl : Option String)
  state : SessionBindingState

structure RuntimeState where
  task : TaskRuntime
  steps : List StepRuntime
  assignments : List Assignment
  sessionBindings : List SessionBinding

/-! ## Events -/

inductive EventType where
  | taskCreated | taskStateChanged | stepAdded | stepStateChanged | assignmentCreated
  | skillPreflight | sessionBound | progressUpdated | artifactProduced | completionRequested
  | gatePassed | gateFailed | blocked | waitingHuman | outcomeUnknown | taskCompleted
  | sessionStateChanged | taskArchived | taskUnarchived
  deriving DecidableEq

structure ExecutionEvent where
  eventId : String
  sequence : Nat
  taskId : String
  (stepId assignmentId : Option String)
  type : EventType
  payload : Json

/-- What a task directory holds: the durable snapshot, the ledger, and whether the task is
archived. -/
structure TaskDirectory where
  definition : WorkflowDefinition
  runtime : RuntimeState
  events : List ExecutionEvent
  archived : Bool

/-! ## Steps of a state -/

def RuntimeState.step? (runtime : RuntimeState) (stepId : String) : Option StepRuntime :=
  runtime.steps.find? fun step => step.stepId = stepId

def WorkflowDefinition.step? (definition : WorkflowDefinition) (stepId : String) :
    Option StepDefinition :=
  definition.steps.find? fun step => step.stepId = stepId

def RuntimeState.updateStep (runtime : RuntimeState) (stepId : String)
    (update : StepRuntime → StepRuntime) : RuntimeState :=
  { runtime with
    steps := runtime.steps.map fun step => if step.stepId = stepId then update step else step }

/-- The number of steps that take up parallel capacity. -/
def RuntimeState.activeSteps (runtime : RuntimeState) : Nat :=
  (runtime.steps.filter fun step => step.status.isActive).length

end Zero3Pilot.Execution
