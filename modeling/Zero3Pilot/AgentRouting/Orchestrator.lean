import Zero3Pilot.AgentRouting.ExecutorFailure
import Zero3Pilot.Foundations.Fallible

/-! # Dispatching a task

`agent-runtime-orchestrator.ts`: a task is given to an executor, its result is finalized, and where an
attempt hands on another executor goes on. What executors, the finalizer, the intelligent router and
the calls of the store answer in each attempt is given with a dispatch. Instants, metrics and the
payload of results only pass through and are left out. -/

namespace Zero3Pilot.AgentRouting

open Procedure

/-! ## What the surroundings answer -/

/-- `Zero3ProviderAvailabilityState`, as far as it is looked at. -/
structure ProviderState where
  available : Bool
  authenticated : Option Bool

structure ProviderAvailability where
  (codex gemini claude : ProviderState)
  zero3Api : Option ProviderState

/-- `Zero3AntigravityTurnResultLike`, as far as it is looked at. -/
structure Turn where
  conversationId : Option String
  status : ResultStatus
  response : Option String
  structuredOutput : ScriptValue
  error : Option String

/-- What an executor answers: it may throw before it is prompted or after that; the one that works in
turns answers a turn, the others a result. -/
structure ExecutorAnswer where
  skillContext : Except Thrown Unit
  (throwsBefore throwsAfter : Option Thrown)
  turn : Turn
  result : ExecutionResult

/-- `Zero3RoutingRequest`, apart from the task and its metrics. -/
structure RoutingRequest where
  mode : RoutingMode
  requestedExecutor : Option Target
  importance : Importance
  availability : ProviderAvailability
  exclusions : List Target

/-- **What the surroundings answer** in one attempt. -/
structure AttemptAnswers where
  availability : Except Thrown ProviderAvailability
  route : RoutingRequest → Except Thrown RouteDecision
  skills : Except Thrown (List String)
  executor : ExecutorAnswer
  finalize : ExecutionResult → Except Thrown ExecutionResult
  calls : Call → CallAnswer

/-- `Zero3IntelligentRoutingDependencies`, apart from the router and its metrics. -/
structure RoutingOptions where
  (maxAttempts maxExecutorSwitches : Option Int)

/-- `Zero3AgentRuntimeDependencies`: what is configured, and lower case. -/
structure Dependencies where
  (hasSkills hasClaude hasZero3Api : Bool)
  intelligentRouting : Option RoutingOptions
  toLowerCase : String → String

structure DispatchContext where
  targetLogicalSessionId : String
  (reviewSessionId runtimeConversationId : Option String)
  routingMode : Option RoutingMode
  importance : Option Importance
  preferredExecutor : Option Target

/-! ## The router of the single-shot path -/

/-- A text that has to be there, and not too long. -/
def isTextWithin (limit : Nat) (value : String) : Bool :=
  scriptTrim value ≠ "" && utf16Length (scriptTrim value) ≤ limit

def validateTaskSpec (task : TaskSpec) : Except String Unit := do
  ensure (task.protocol = "zero3.pilot.task-spec.v2") "unsupported TaskSpec protocol"
  ensure (isTextWithin 128 task.taskId) "taskId is invalid"
  ensure (isTextWithin 128 task.executionId) "executionId is invalid"
  ensure (isTextWithin 256 task.projectId) "projectId is invalid"
  ensure (isTextWithin 512 task.title) "title is invalid"
  ensure (isTextWithin 64000 task.goal) "goal is invalid"
  ensure (isTextWithin 256 task.createdBySessionId) "createdBySessionId is invalid"
  ensure (1 ≤ task.contextVersion ∧ task.contextVersion < 2 ^ 53)
    "contextVersion must be a positive integer"
  ensure (∀ cycles ∈ task.maxCycles, 1 ≤ cycles ∧ cycles ≤ 20) "reviewPolicy.maxCycles must be 1..20"
  ensure (∀ path ∈ task.worktreePath, path = "" ∨ scriptTrim path ≠ "")
    "worktreePath must be null or non-empty"

def providerState (availability : ProviderAvailability) : Target → ProviderState
  | .codex => availability.codex
  | .gemini => availability.gemini
  | .zero3Api => availability.zero3Api.getD ⟨false, none⟩
  | .claude => availability.claude

def autoEligible (availability : ProviderAvailability) (target : Target) : Bool :=
  (providerState availability target).available &&
    (providerState availability target).authenticated = some true

def preferredTargets : TaskType → Target × Target
  | .design | .research | .review => (.gemini, .codex)
  | .implement | .verify | .fix | .integrate => (.codex, .gemini)

def routerResolve (task : TaskSpec) (availability : ProviderAvailability) :
    Except String Target := do
  validateTaskSpec task
  match task.target with
  | some target => do
    ensure (providerState availability target).available
      s!"Target {target.text} is unavailable; explicit targets are never silently changed"
    ensure ((providerState availability target).authenticated ≠ some false)
      s!"Target {target.text} is known unauthenticated; explicit targets are never silently changed"
    return target
  | none =>
    if autoEligible availability (preferredTargets task.type).1 then
      return (preferredTargets task.type).1
    else if autoEligible availability (preferredTargets task.type).2 then
      return (preferredTargets task.type).2
    else throw "No eligible known-authenticated provider is available for AUTO routing"

/-! ## Results -/

def executionResultProtocol : String := "zero3.pilot.execution-result.v2"

def textOr (value : ScriptValue) (fallback : String) : String :=
  match ScriptValue.text? value with
  | some text => scriptTrim text
  | none => fallback

def stringArray (value : ScriptValue) : List String :=
  (((ScriptValue.items? value).getD []).filterMap fun item =>
    (ScriptValue.text? (some item)).map scriptTrim).filter
    (· ≠ "") |>.take 10000

def structuredStatus (value : ScriptValue) : Option ResultStatus :=
  match textOr value "" with
  | "COMPLETE" => some .complete
  | "PARTIAL" => some .partialResult
  | "BLOCKED" => some .blocked
  | "FAILED" => some .failed
  | _ => none

def normalizeRecommendedAction (value : ScriptValue) : RecommendedAction :=
  match textOr value "" with
  | "HUMAN_REVIEW" => .humanReview
  | "CODEX_IMPLEMENT" => .codexImplement
  | "RETRY" => .retry
  | _ => .gptReview

def firstText (texts : List (Option String)) (fallback : String) : String :=
  (texts.filterMap id |>.find? (· ≠ "")).getD fallback

def mapGeminiTurn (task : TaskSpec) (turn : Turn) : ExecutionResult :=
  let structured := ScriptValue.asRecord turn.structuredOutput
  let unknown := turn.status = .outcomeUnknown
  { protocol := executionResultProtocol
    taskId := task.taskId
    executionId := task.executionId
    projectId := task.projectId
    provider := .gemini
    providerRuntime := "GEMINI_AGENT"
    executorId := none
    status := if unknown then .outcomeUnknown
      else (structuredStatus (structured.get "status")).getD turn.status
    contextVersion := task.contextVersion
    conversationId := turn.conversationId
    summary :=
      if unknown then
        firstText [turn.error] "Antigravity exited without a terminal structured result."
      else textOr (structured.get "summary")
        (firstText [turn.response, turn.error] "Gemini task completed without a summary.")
    blockers :=
      if unknown then
        ["Runtime outcome is unknown; reconcile authoritative Git/artifact evidence before retrying."]
      else stringArray (structured.get "blockers")
    recommendedAction :=
      if unknown then .humanReview
      else normalizeRecommendedAction (structured.get "recommendedAction")
    failure := none }

def runtimeOf : Target → String
  | .codex => "CODEX_LOCAL"
  | .gemini => "GEMINI_AGENT"
  | .claude => "CLAUDE_CODE"
  | .zero3Api => "ZERO3_API_SESSION"

def assertResultIdentity (task : TaskSpec) (target : Target) (result : ExecutionResult) :
    Except String Unit := do
  ensure (result.protocol = executionResultProtocol) "execution result protocol is invalid"
  ensure (result.taskId = task.taskId ∧ result.executionId = task.executionId ∧
    result.projectId = task.projectId) "execution result identity mismatch"
  ensure (result.contextVersion = task.contextVersion) "execution result contextVersion mismatch"
  ensure (result.provider = target)
    s!"execution result provider {result.provider.text} does not match resolved target {target.text}"
  ensure (result.providerRuntime = runtimeOf target)
    s!"{target.text} result must use {runtimeOf target} runtime"

def stateForResult (result : ExecutionResult) (reviewRequired : Bool) : TaskState :=
  match result.status with
  | .outcomeUnknown => .outcomeUnknown
  | .failed => .failed
  | .blocked => .blocked
  | .partialResult => if reviewRequired then .reviewPending else .resultReady
  | .complete => if reviewRequired then .reviewPending else .complete

def attemptStatusFor : Except Thrown ExecutionResult → AttemptStatus
  | .error _ => .failed
  | .ok result =>
    match result.status with
    | .complete | .partialResult => .succeeded
    | .blocked => .blocked
    | .outcomeUnknown => .outcomeUnknown
    | .failed => .failed

/-! ## Routing modes, reviewers and prior attempts -/

def resolveRoutingMode (task : TaskSpec) (context : DispatchContext) :
    Except String (RoutingMode × Option Target) :=
  match task.target with
  | some target =>
    return (if context.routingMode = some .preferred then .preferred else .pinned, some target)
  | none =>
    if context.routingMode = some .pinned then
      throw "PINNED routing requires an explicit TaskSpec target executor"
    else match context.preferredExecutor with
      | some executor => return (.preferred, some executor)
      | none => return (.auto, none)

def verificationProfileFor : Importance → VerificationProfile
  | .low => .low
  | .high => .high
  | .critical => .critical
  | .normal => .standard

def VerificationProfile.requiresDistinctReviewer : VerificationProfile → Bool
  | low | standard => false
  | high | critical => true

def applyReviewerIndependence (task : TaskSpec) (provider : Target)
    (profile : VerificationProfile) : TaskSpec :=
  if profile.requiresDistinctReviewer = true ∧ task.reviewer = .codex ∧ provider = .codex then
    { task with reviewer := .gptWeb }
  else task

structure PriorAttempt where
  executor : Target
  status : AttemptStatus
  reason : String

def withPriorAttemptContext (task : TaskSpec) (prior : List PriorAttempt) (executor : Target) :
    TaskSpec :=
  let foreign := prior.filter (·.executor ≠ executor)
  if foreign = [] then task
  else { task with
    goal := "\n".intercalate ([task.goal, "", "ZERO3_PRIOR_ATTEMPT_CONTEXT:",
      "This task already ran under another executor. Continue the same TaskSpec; do not restart " ++
        "from scratch and do not discard valid earlier work."] ++
      (lastItems 6 foreign).map fun entry =>
        let reason :=
          sliceText 500 (scriptTrim (String.ofList (collapseBlanks entry.reason.toList)))
        s!"- attempt executor={entry.executor.text} status={entry.status.text} reason={reason}") }

def bindingFor (context : DispatchContext) : TaskBinding :=
  ⟨context.targetLogicalSessionId, context.reviewSessionId, context.runtimeConversationId⟩

/-! ## One attempt -/

section Operations

variable (deps : Dependencies)

/-- A call that does not concern the record. -/
def plainCall (answers : AttemptAnswers) (which : Call) : TaskProcedure Unit :=
  call which <| match answers.calls which with
    | .done => pure ()
    | .refused message => fail (threw message)
    | .interrupted message => fail (threw message)

def recordSkillUsage (answers : AttemptAnswers) (which : Call) : TaskProcedure Unit :=
  if deps.hasSkills then plainCall answers which else pure ()

def renderContext (answers : AttemptAnswers) : TaskProcedure Unit :=
  if deps.hasSkills then ofExcept answers.executor.skillContext else pure ()

def prompt (target : Target) (answers : AttemptAnswers) : TaskProcedure Unit := do
  match answers.executor.throwsBefore with
  | some thrown => fail thrown
  | none => do
    note (.prompted target)
    match answers.executor.throwsAfter with
    | some thrown => fail thrown
    | none => pure ()

def bindTurn (task : TaskSpec) (answers : AttemptAnswers) (binding : TaskBinding) (turn : Turn) :
    TaskProcedure TaskBinding :=
  if turn.conversationId = binding.runtimeConversationId then pure binding
  else do
    let bound := { binding with runtimeConversationId := turn.conversationId }
    let _ ← call .setTurnBinding (update task.taskId (answers.calls .setTurnBinding) fun current =>
      .ok { current with binding := some bound })
    return bound

def candidateOf (task : TaskSpec) (target : Target) (answers : AttemptAnswers)
    (binding : TaskBinding) : TaskProcedure (ExecutionResult × TaskBinding) :=
  match target with
  | .gemini => do
    check (∃ path ∈ task.worktreePath, scriptTrim path ≠ "")
      (threw "Gemini writable tasks require an explicit isolated worktreePath")
    renderContext deps answers
    prompt .gemini answers
    note (.answered .gemini (mapGeminiTurn task answers.executor.turn))
    let bound ← bindTurn task answers binding answers.executor.turn
    return (mapGeminiTurn task answers.executor.turn, bound)
  | .claude => do
    check (deps.hasClaude = true) (threw "Claude task dispatcher is not configured")
    renderContext deps answers
    prompt .claude answers
    note (.answered .claude answers.executor.result)
    return (answers.executor.result, binding)
  | .zero3Api => do
    check (deps.hasZero3Api = true) (threw "Zero3 API task dispatcher is not configured")
    renderContext deps answers
    prompt .zero3Api answers
    note (.answered .zero3Api answers.executor.result)
    return (answers.executor.result, binding)
  | .codex => do
    prompt .codex answers
    note (.answered .codex answers.executor.result)
    return (answers.executor.result, binding)

def dispatchToTarget (task : TaskSpec) (target : Target) (answers : AttemptAnswers)
    (binding : TaskBinding) : TaskProcedure (ExecutionResult × TaskBinding) := do
  let answered ← candidateOf deps task target answers binding
  ofExcept ((assertResultIdentity task target answered.1).mapError threw)
  let finalized ← ofExcept (answers.finalize answered.1)
  ofExcept ((assertResultIdentity task target finalized).mapError threw)
  return (finalized, answered.2)

def attemptTarget (task : TaskSpec) (target : Target) (answers : AttemptAnswers)
    (binding : TaskBinding) : TaskProcedure (Except Thrown ExecutionResult) := do
  let ended ← attempt (dispatchToTarget deps task target answers binding)
  let outcome := ended.map (·.1)
  note (.attempted target outcome)
  return outcome

def resolveSkills (answers : AttemptAnswers) : TaskProcedure (List String) :=
  if deps.hasSkills then ofExcept answers.skills else pure []

def reviewResult (task : TaskSpec) (answers : AttemptAnswers) (result : ExecutionResult) :
    TaskProcedure Unit :=
  if task.reviewRequired = true ∧ result.status ≠ .failed ∧ result.status ≠ .blocked ∧
      result.status ≠ .outcomeUnknown then do
    plainCall answers .createReview
    let _ ← call .setReviewPending
      (setState task.taskId (answers.calls .setReviewPending) .reviewPending)
  else pure ()

/-! ## The single-shot path -/

/-- What the `try` block of `dispatchLegacy` does after the attempt. -/
def useLegacy (answers : AttemptAnswers) (outcome : Except Thrown ExecutionResult) :
    TaskProcedure ExecutionResult := do
  let result ← ofExcept outcome
  recordSkillUsage deps answers .finishedUsage
  return result

/-- The `catch` block of `dispatchLegacy`. -/
def failLegacy (task : TaskSpec) (answers : AttemptAnswers) (thrown : Thrown) :
    TaskProcedure TaskRecord := do
  recordSkillUsage deps answers .failedUsage
  let _ ← call .setFailed (setState task.taskId (answers.calls .setFailed) .failed)
  fail thrown

def recordLegacy (task : TaskSpec) (answers : AttemptAnswers) (result : ExecutionResult) :
    TaskProcedure TaskRecord := do
  let _ ← call .setResult (setResult task.taskId (answers.calls .setResult) result
    (stateForResult result task.reviewRequired))
  reviewResult task answers result
  call .get (getRecord task.taskId (answers.calls .get))

/-- What comes after the attempt of `dispatchLegacy`. -/
def finishLegacy (task : TaskSpec) (answers : AttemptAnswers)
    (outcome : Except Thrown ExecutionResult) : TaskProcedure TaskRecord := do
  match ← attempt (useLegacy deps answers outcome) with
  | .error thrown => failLegacy deps task answers thrown
  | .ok result => recordLegacy task answers result

def dispatchLegacy (task : TaskSpec) (context : DispatchContext) (answers : AttemptAnswers) :
    TaskProcedure TaskRecord := do
  let availability ← ofExcept answers.availability
  let target ← ofExcept ((routerResolve task availability).mapError threw)
  let skills ← resolveSkills deps answers
  let _ ← call .create (create task target (answers.calls .create))
  let _ ← call .setSkills (update task.taskId (answers.calls .setSkills) fun current =>
    .ok { current with skillsUsed := skills })
  recordSkillUsage deps answers .selectedUsage
  let binding := bindingFor context
  let _ ← call .setBinding (update task.taskId (answers.calls .setBinding) fun current =>
    .ok { current with binding := some binding })
  let _ ← call .setDispatched (setState task.taskId (answers.calls .setDispatched) .dispatched)
  let _ ← call .setRunning (setState task.taskId (answers.calls .setRunning) .running)
  let outcome ← attemptTarget deps task target answers binding
  finishLegacy deps task answers outcome

/-! ## The intelligent path -/

structure DispatchPlan where
  (maxAttempts maxExecutorSwitches : Nat)
  importance : Importance
  profile : VerificationProfile
  mode : RoutingMode
  requestedExecutor : Option Target

structure DispatchState where
  exclusions : List Target
  priorAttempts : List PriorAttempt
  (attempts switches : Nat)
  created : Bool

/-- The checks of a dispatch before its first attempt. -/
def planDispatch (task : TaskSpec) (context : DispatchContext) : Except String DispatchPlan := do
  let options ← orError deps.intelligentRouting "intelligent routing is not configured"
  let maxAttempts := options.maxAttempts.getD 3
  let maxExecutorSwitches := options.maxExecutorSwitches.getD 2
  ensure (1 ≤ maxAttempts ∧ maxAttempts < 2 ^ 53) "maxAttempts must be a positive integer"
  ensure (0 ≤ maxExecutorSwitches ∧ maxExecutorSwitches < 2 ^ 53)
    "maxExecutorSwitches must be a non-negative integer"
  let importance := (context.importance.orElse fun _ => task.importance).getD .normal
  let (mode, requestedExecutor) ← resolveRoutingMode task context
  return { maxAttempts := maxAttempts.toNat, maxExecutorSwitches := maxExecutorSwitches.toNat
           importance, profile := verificationProfileFor importance, mode, requestedExecutor }

section Attempt

variable (task : TaskSpec) (context : DispatchContext) (plan : DispatchPlan)

def routeAttempt (answers : AttemptAnswers) (state : DispatchState) :
    TaskProcedure RouteDecision := do
  let availability ← ofExcept answers.availability
  match answers.route ⟨plan.mode, plan.requestedExecutor, plan.importance, availability,
      state.exclusions⟩ with
  | .ok decision => pure decision
  | .error thrown => do
    if state.created then
      let _ ← call .setFailed (setState task.taskId (answers.calls .setFailed)
        (if 0 < state.attempts then .failed else .blocked))
    fail thrown

/-- The record before an attempt. -/
def enterAttempt (answers : AttemptAnswers) (state : DispatchState) (decision : RouteDecision) :
    TaskProcedure Unit := do
  if state.created = false then do
    let _ ← call .create (create task decision.provider (answers.calls .create))
    let _ ← call .setRoutingMeta (update task.taskId (answers.calls .setRoutingMeta) fun current =>
      .ok { current with importance := plan.importance, verificationProfile := plan.profile })
  else if 0 < state.attempts then do
    let _ ← call .setResolvedTarget (update task.taskId (answers.calls .setResolvedTarget)
      fun current => .ok { current with resolvedTarget := decision.provider })
  let _ ← call .appendRoutingDecision
    (appendRoutingDecision task.taskId (answers.calls .appendRoutingDecision) decision)
  let _ ← call .setDispatched (setState task.taskId (answers.calls .setDispatched)
    (if state.attempts = 0 then .dispatched else .running))

def attemptTaskOf (state : DispatchState) (decision : RouteDecision) : TaskSpec :=
  withPriorAttemptContext (applyReviewerIndependence task decision.provider plan.profile)
    state.priorAttempts decision.selectedExecutor

def attemptIdOf (state : DispatchState) : String := s!"{task.executionId}:attempt-{state.attempts + 1}"

/-- The entry of an attempt that begins. -/
def runningAttempt (state : DispatchState) (decision : RouteDecision) : AttemptRecord where
  attemptId := attemptIdOf task state
  attempt := state.attempts + 1
  executor := decision.selectedExecutor
  provider := decision.provider
  routingMode := decision.routingMode
  importance := plan.importance
  verificationProfile := plan.profile
  finished := false
  status := .running
  conversationId := none
  failureReason := none
  failoverReason := none
  executorId := none
  failureCode := none
  failureClass := none

/-- Skills, binding and ledger before the executor is prompted. -/
def beginAttempt (answers : AttemptAnswers) (state : DispatchState) (decision : RouteDecision) :
    TaskProcedure Unit := do
  let skills ← resolveSkills deps answers
  let _ ← call .setSkills (update task.taskId (answers.calls .setSkills) fun current =>
    .ok { current with skillsUsed := skills })
  recordSkillUsage deps answers .selectedUsage
  if state.attempts = 0 then do
    let _ ← call .setBinding (update task.taskId (answers.calls .setBinding) fun current =>
      .ok { current with binding := some (bindingFor context) })
  let _ ← call .appendAttempt (appendAttempt task.taskId (answers.calls .appendAttempt)
    (runningAttempt task plan state decision))

def endedAttempt (outcome : Except Thrown ExecutionResult) (failure : AttemptFailure)
    (entry : AttemptRecord) : AttemptRecord :=
  match outcome with
  | .ok result =>
    let known {α : Type} (value : Option α) : Option α := if result.succeeded then none else value
    { entry with
      finished := true
      status := attemptStatusFor outcome
      conversationId := result.conversationId
      failureReason := known (some (result.said result.status.text))
      executorId := result.executorId
      failureCode := known failure.code
      failureClass := known failure.failureClass }
  | .error thrown =>
    { entry with
      finished := true
      status := .failed
      failureReason := some thrown.message
      executorId := none
      failureCode := failure.code
      failureClass := failure.failureClass }

def recordResult (attemptTask : TaskSpec) (answers : AttemptAnswers) (result : ExecutionResult) :
    TaskProcedure Unit := do
  let _ ← call .setResult (setResult task.taskId (answers.calls .setResult) result
    (stateForResult result attemptTask.reviewRequired))

def canSwitch (state : DispatchState) (failure : AttemptFailure) : Bool :=
  failure.switchEligible && plan.mode ≠ .pinned && state.switches < plan.maxExecutorSwitches &&
    state.attempts + 1 < plan.maxAttempts

def handOn (answers : AttemptAnswers) (state : DispatchState) (decision : RouteDecision)
    (outcome : Except Thrown ExecutionResult) (failure : AttemptFailure) :
    TaskProcedure (TaskRecord ⊕ DispatchState) := do
  let verdict := if failure.blameExecutor then "executor excluded"
    else "executor kept eligible for a retry"
  let _ ← call .setFailoverReason (updateAttempt task.taskId (answers.calls .setFailoverReason)
    (attemptIdOf task state) fun entry =>
      { entry with failoverReason := some s!"{failure.reason} -> re-route ({verdict})" })
  return .inr {
    exclusions := if failure.blameExecutor then state.exclusions ++ [decision.selectedExecutor]
      else state.exclusions
    priorAttempts := state.priorAttempts ++
      [⟨decision.selectedExecutor, attemptStatusFor outcome, failure.reason⟩]
    attempts := state.attempts + 1
    switches := state.switches + 1
    created := state.created }

def succeedAttempt (attemptTask : TaskSpec) (answers : AttemptAnswers) :
    TaskProcedure (TaskRecord ⊕ DispatchState) := do
  if attemptTask.reviewRequired then do
    plainCall answers .createReview
    let _ ← call .setReviewPending
      (setState task.taskId (answers.calls .setReviewPending) .reviewPending)
  return .inl (← call .get (getRecord task.taskId (answers.calls .get)))

def finishAttempt (answers : AttemptAnswers) (state : DispatchState) (decision : RouteDecision)
    (outcome : Except Thrown ExecutionResult) : TaskProcedure (TaskRecord ⊕ DispatchState) := do
  let attemptTask := attemptTaskOf task plan state decision
  let failure := classifyAttemptFailure deps.toLowerCase outcome
  let _ ← call .updateAttempt (updateAttempt task.taskId (answers.calls .updateAttempt)
    (attemptIdOf task state) (endedAttempt outcome failure))
  recordSkillUsage deps answers .finishedUsage
  match outcome with
  | .ok result =>
    recordResult task attemptTask answers result
    if result.succeeded then succeedAttempt task attemptTask answers
    else if canSwitch plan state failure = false then
      return .inl (← call .get (getRecord task.taskId (answers.calls .get)))
    else handOn task answers state decision outcome failure
  | .error thrown =>
    if canSwitch plan state failure = false then do
      let _ ← call .setFailed (setState task.taskId (answers.calls .setFailed) .failed)
      fail thrown
    else handOn task answers state decision outcome failure

/-- One pass of the loop of `dispatchAgentTask`. -/
def dispatchPass (answers : AttemptAnswers) (state : DispatchState) :
    TaskProcedure (TaskRecord ⊕ DispatchState) := do
  let decision ← routeAttempt task plan answers state
  enterAttempt task plan answers state decision
  let state := { state with created := true }
  beginAttempt deps task context plan answers state decision
  let outcome ← attemptTarget deps (attemptTaskOf task plan state decision) decision.provider
    answers (bindingFor context)
  finishAttempt deps task plan answers state decision outcome

def dispatchLoop (answers : Nat → AttemptAnswers) : Nat → DispatchState → TaskProcedure TaskRecord
  | 0, state => do
    let _ ← call .setFailed (setState task.taskId ((answers state.attempts).calls .setFailed)
      .failed)
    fail (threw "agent task dispatch exhausted all attempts")
  | remaining + 1, state => do
    match ← dispatchPass deps task context plan (answers state.attempts) state with
    | .inl record => return record
    | .inr next => dispatchLoop answers remaining next

end Attempt

def dispatchAgentTask (task : TaskSpec) (context : DispatchContext)
    (answers : Nat → AttemptAnswers) : TaskProcedure TaskRecord := do
  let plan ← ofExcept ((planDispatch deps task context).mapError threw)
  dispatchLoop deps task context plan answers plan.maxAttempts ⟨[], [], 0, 0, false⟩

def dispatch (task : TaskSpec) (context : DispatchContext) (answers : Nat → AttemptAnswers) :
    TaskProcedure TaskRecord :=
  match deps.intelligentRouting with
  | some _ => dispatchAgentTask deps task context answers
  | none => dispatchLegacy deps task context (answers 0)

end Operations

end Zero3Pilot.AgentRouting
