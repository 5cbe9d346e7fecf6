import Zero3Pilot.Foundations.Procedure
import Zero3Pilot.Foundations.ScriptValue

/-! # Tasks, results and the task store

What `agent-contracts.ts` says of tasks and of the results of executors, and the record that
`Zero3AgentTaskStore` of `agent-task-store.ts` keeps of one task. Every call of the store may throw,
before what it writes is there or after that. -/

namespace Zero3Pilot.AgentRouting

open Procedure (check fail ofExcept read require write)

/-! ## The data -/

/-- `Zero3ResolvedAgentTarget`. -/
inductive Target where
  | codex
  | gemini
  | claude
  | zero3Api
  deriving DecidableEq

/-- How a target is written. -/
def Target.text : Target → String
  | codex => "CODEX"
  | gemini => "GEMINI"
  | claude => "CLAUDE"
  | zero3Api => "ZERO3_API"

inductive TaskType where
  | design
  | implement
  | verify
  | fix
  | review
  | integrate
  | research
  deriving DecidableEq

/-- `Zero3TaskImportance`. -/
inductive Importance where
  | low
  | normal
  | high
  | critical
  deriving DecidableEq

inductive Reviewer where
  | gptWeb
  | human
  | codex
  deriving DecidableEq

/-- `Zero3TaskSpecV2`; a target of `none` is `AUTO`, and the members that are only compared are one
text. -/
structure TaskSpec where
  (protocol taskId executionId projectId : String)
  target : Option Target
  type : TaskType
  (title goal : String)
  contextVersion : Int
  importance : Option Importance
  (baseSha branch worktreePath : Option String)
  reviewRequired : Bool
  reviewer : Reviewer
  maxCycles : Option Int
  (createdBySessionId others : String)
  deriving DecidableEq

inductive FailureCode where
  | quotaExhausted
  | rateLimited
  | authRequired
  | providerOverloaded
  | providerError
  | contextExhausted
  | budgetExhausted
  | userStopped
  | permissionDenied
  | policyDenied
  | badRequest
  | unsupported
  | transportLost
  | processCrash
  | contextLost
  | internalError
  deriving DecidableEq

/-- How a code is written. -/
def FailureCode.text : FailureCode → String
  | quotaExhausted => "quota_exhausted"
  | rateLimited => "rate_limited"
  | authRequired => "auth_required"
  | providerOverloaded => "provider_overloaded"
  | providerError => "provider_error"
  | contextExhausted => "context_exhausted"
  | budgetExhausted => "budget_exhausted"
  | userStopped => "user_stopped"
  | permissionDenied => "permission_denied"
  | policyDenied => "policy_denied"
  | badRequest => "bad_request"
  | unsupported => "unsupported"
  | transportLost => "transport_lost"
  | processCrash => "process_crash"
  | contextLost => "context_lost"
  | internalError => "internal_error"

inductive FailureClass where
  | retrySameExecutor
  | reroute
  | waitingHuman
  | terminal
  | outcomeUnknown
  deriving DecidableEq

/-- How a class is written. -/
def FailureClass.text : FailureClass → String
  | retrySameExecutor => "retry_same_executor"
  | reroute => "reroute"
  | waitingHuman => "waiting_human"
  | terminal => "terminal"
  | outcomeUnknown => "outcome_unknown"

structure ExecutionFailure where
  code : FailureCode
  failureClass : FailureClass
  retryable : Bool
  detail : String
  deriving DecidableEq

inductive ResultStatus where
  | complete
  | partialResult
  | blocked
  | failed
  | outcomeUnknown
  deriving DecidableEq

/-- How a status is written. -/
def ResultStatus.text : ResultStatus → String
  | complete => "COMPLETE"
  | partialResult => "PARTIAL"
  | blocked => "BLOCKED"
  | failed => "FAILED"
  | outcomeUnknown => "OUTCOME_UNKNOWN"

/-- The recommended actions of a result. -/
inductive RecommendedAction where
  | gptReview
  | humanReview
  | codexImplement
  | retry
  deriving DecidableEq

/-- `Zero3ExecutionResultV2`, as far as it is looked at. -/
structure ExecutionResult where
  (protocol taskId executionId projectId : String)
  provider : Target
  providerRuntime : String
  executorId : Option String
  status : ResultStatus
  contextVersion : Int
  conversationId : Option String
  summary : String
  blockers : List String
  recommendedAction : RecommendedAction
  failure : Option ExecutionFailure
  deriving DecidableEq

inductive TaskState where
  | draft
  | dispatched
  | running
  | resultReady
  | reviewPending
  | complete
  | blocked
  | outcomeUnknown
  | failed
  deriving DecidableEq

inductive RoutingMode where
  | auto
  | pinned
  | preferred
  deriving DecidableEq

inductive VerificationProfile where
  | low
  | standard
  | high
  | critical
  deriving DecidableEq

inductive AttemptStatus where
  | running
  | succeeded
  | failed
  | blocked
  | outcomeUnknown
  deriving DecidableEq

def AttemptStatus.text : AttemptStatus → String
  | running => "RUNNING"
  | succeeded => "SUCCEEDED"
  | failed => "FAILED"
  | blocked => "BLOCKED"
  | outcomeUnknown => "OUTCOME_UNKNOWN"

/-- `Zero3IntelligentRouteDecision`, as far as it is looked at. -/
structure RouteDecision where
  routingMode : RoutingMode
  (selectedExecutor provider : Target)
  deriving DecidableEq

/-- `Zero3TaskAttemptRecord`, apart from the instants. -/
structure AttemptRecord where
  attemptId : String
  attempt : Nat
  (executor provider : Target)
  routingMode : RoutingMode
  importance : Importance
  verificationProfile : VerificationProfile
  finished : Bool
  status : AttemptStatus
  (conversationId failureReason failoverReason executorId : Option String)
  failureCode : Option FailureCode
  failureClass : Option FailureClass
  deriving DecidableEq

/-- `Zero3CrossAgentBinding`, apart from the instants. -/
structure TaskBinding where
  targetLogicalSessionId : String
  (reviewSessionId runtimeConversationId : Option String)
  deriving DecidableEq

/-- `Zero3AgentTaskRecord`, as far as dispatching and recovery write it. -/
structure TaskRecord where
  task : TaskSpec
  resolvedTarget : Target
  state : TaskState
  binding : Option TaskBinding
  result : Option ExecutionResult
  skillsUsed : List String
  importance : Importance
  verificationProfile : VerificationProfile
  routingDecisions : List RouteDecision
  attempts : List AttemptRecord
  deriving DecidableEq

/-! ## What happens to a task -/

structure Thrown where
  message : String
  code : Option FailureCode
  deriving DecidableEq

def threw (message : String) : Thrown := ⟨message, none⟩

/-- The calls of a dispatch to the store, and to what records the use of skills. -/
inductive Call where
  | create
  | setRoutingMeta
  | setResolvedTarget
  | appendRoutingDecision
  | setDispatched
  | setRunning
  | setSkills
  | selectedUsage
  | setBinding
  | appendAttempt
  | setTurnBinding
  | updateAttempt
  | finishedUsage
  | failedUsage
  | setResult
  | createReview
  | setReviewPending
  | setFailoverReason
  | setFailed
  | get
  deriving DecidableEq

/-- **What happened** to a task. -/
inductive Event where
  | dispatched
  | prompted (executor : Target)
  | answered (executor : Target) (candidate : ExecutionResult)
  | attempted (executor : Target) (outcome : Except Thrown ExecutionResult)
  | refused (call : Call)
  /-- A call threw after it had changed the record. -/
  | interrupted (call : Call)
  /-- The recovery controller resolved an unknown outcome. -/
  | resolved
  deriving DecidableEq

/-- **The world** of a task: its record, and what happened to it, the latest first. -/
structure TaskWorld where
  record : Option TaskRecord
  log : List Event

abbrev TaskProcedure := Procedure TaskWorld Thrown

def note (event : Event) : TaskProcedure Unit :=
  Procedure.modify fun world => { world with log := event :: world.log }

/-- A call of a dispatch; it is noted where it throws. -/
def call {α : Type} (which : Call) (procedure : TaskProcedure α) : TaskProcedure α := fun world =>
  match procedure world with
  | (.ok value, after) => (.ok value, after)
  | (.error error, after) =>
    let event := if after.record = world.record then .refused which else .interrupted which
    (.error error, { after with log := event :: after.log })

/-! ## The store -/

/-- How a call ends: it is done, or it throws before or after it had its effect. -/
inductive CallAnswer where
  | done
  | refused (message : String)
  | interrupted (message : String)

def isValidId (value : String) : Bool :=
  let text := scriptTrim value
  text ≠ "" && utf16Length text ≤ 256 && text.toList.all fun char =>
    char.isAlphanum || char = '.' || char = '_' || char = ':' || char = '-'

def update (taskId : String) (answer : CallAnswer)
    (change : TaskRecord → Except String TaskRecord) : TaskProcedure TaskRecord := do
  check (isValidId taskId) (threw "taskId is invalid")
  let world ← read
  let current ← require world.record (threw "agent task record not found")
  check (scriptTrim taskId = current.task.taskId) (threw "agent task record identity mismatch")
  match answer with
  | .refused message => fail (threw message)
  | .done => do
    let changed ← ofExcept ((change current).mapError threw)
    write { world with record := some changed }
    return changed
  | .interrupted message => do
    let changed ← ofExcept ((change current).mapError threw)
    write { world with record := some changed }
    fail (threw message)

def newRecord (task : TaskSpec) (target : Target) : TaskRecord where
  task := task
  resolvedTarget := target
  state := .draft
  binding := none
  result := none
  skillsUsed := []
  importance := task.importance.getD .normal
  verificationProfile := .standard
  routingDecisions := []
  attempts := []

/-- The record that `create` finds: it has to be of the same task. -/
def existingRecord (task : TaskSpec) (existing : TaskRecord) : TaskProcedure TaskRecord := do
  check (scriptTrim task.taskId = existing.task.taskId)
    (threw "agent task record identity mismatch")
  check (existing.task = task) (threw "taskId is already bound to a different task/execution")
  return existing

def create (task : TaskSpec) (target : Target) (answer : CallAnswer) :
    TaskProcedure TaskRecord := do
  check (isValidId task.taskId) (threw "taskId is invalid")
  let world ← read
  match answer, world.record with
  | .refused message, _ => fail (threw message)
  | _, some existing => existingRecord task existing
  | .done, none => do
    write { world with record := some (newRecord task target) }
    return newRecord task target
  | .interrupted message, none => do
    write { world with record := some (newRecord task target) }
    fail (threw message)

def getRecord (taskId : String) (answer : CallAnswer) : TaskProcedure TaskRecord := do
  check (isValidId taskId) (threw "taskId is invalid")
  let world ← read
  match answer with
  | .done => do
    let record ← require world.record (threw "agent task record not found")
    check (scriptTrim taskId = record.task.taskId) (threw "agent task record identity mismatch")
    return record
  | .refused message => fail (threw message)
  | .interrupted message => fail (threw message)

def setState (taskId : String) (answer : CallAnswer) (state : TaskState) :
    TaskProcedure TaskRecord :=
  update taskId answer fun current => .ok { current with state }

def setResult (taskId : String) (answer : CallAnswer) (result : ExecutionResult)
    (state : TaskState) : TaskProcedure TaskRecord :=
  update taskId answer fun current => do
    ensure (result.taskId = current.task.taskId ∧ result.executionId = current.task.executionId)
      "execution result identity mismatch"
    return { current with result := some result, state }

def maxAttemptRecords : Nat := 50

def maxRoutingDecisions : Nat := 20

def lastItems {α : Type} (limit : Nat) (items : List α) : List α := items.drop (items.length - limit)

def appendAttempt (taskId : String) (answer : CallAnswer) (attempt : AttemptRecord) :
    TaskProcedure TaskRecord :=
  update taskId answer fun current =>
    .ok { current with attempts := lastItems maxAttemptRecords (current.attempts ++ [attempt]) }

def appendRoutingDecision (taskId : String) (answer : CallAnswer) (decision : RouteDecision) :
    TaskProcedure TaskRecord :=
  update taskId answer fun current =>
    .ok { current with
      routingDecisions := lastItems maxRoutingDecisions (current.routingDecisions ++ [decision]) }

def patchAttempt (attemptId : String) (patch : AttemptRecord → AttemptRecord) :
    List AttemptRecord → Option (List AttemptRecord)
  | [] => none
  | attempt :: attempts =>
    if attempt.attemptId = attemptId then some (patch attempt :: attempts)
    else (patchAttempt attemptId patch attempts).map (attempt :: ·)

def updateAttempt (taskId : String) (answer : CallAnswer) (attemptId : String)
    (patch : AttemptRecord → AttemptRecord) : TaskProcedure TaskRecord :=
  update taskId answer fun current => do
    let attempts ← orError (patchAttempt attemptId patch current.attempts)
      s!"attempt {attemptId} not found for task {taskId}"
    return { current with attempts }

end Zero3Pilot.AgentRouting
