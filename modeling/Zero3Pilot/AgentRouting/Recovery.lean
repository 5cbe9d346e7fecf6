import Zero3Pilot.AgentRouting.Orchestrator

/-! # Recovery of unknown outcomes

`Zero3AgentRecoveryController` of `agent-recovery-controller.ts`: a task whose record and whose result
are both `OUTCOME_UNKNOWN` is inspected and resolved by a human. What the runtime, Git, the artifacts,
the reconciler and the audit answer is given with an operation. -/

namespace Zero3Pilot.AgentRouting

open Procedure

inductive Resolution where
  | keepUnknown
  | acceptPartial
  | markFailed

inductive ReconciledState where
  | running
  | partialResult
  | failed
  | resultReady
  | outcomeUnknown
  deriving DecidableEq

def ReconciledState.text : ReconciledState → String
  | running => "RUNNING"
  | partialResult => "PARTIAL"
  | failed => "FAILED"
  | resultReady => "RESULT_READY"
  | outcomeUnknown => "OUTCOME_UNKNOWN"

inductive RuntimeBindingState where
  | stopped
  | starting
  | ready
  | running
  | outcomeUnknown
  | error

/-- `Zero3GitEvidence`, as far as it is looked at. -/
structure GitEvidence where
  clean : Bool
  (headSha baseSha : Option String)

structure ReconciliationInput where
  processAlive : Option Bool
  terminalResultSeen : Bool
  (worktreeChanged artifactsPresent : Option Bool)
  latestResultStatus : Option ResultStatus

/-- **What the surroundings answer** to an operation of the controller. -/
structure RecoveryAnswers where
  (firstGet secondGet : CallAnswer)
  activeSessions : List String
  runtimeBinding : Except Thrown (Option RuntimeBindingState)
  gitEvidence : Except Thrown GitEvidence
  artifactsPresent : Except Thrown Bool
  reconcileOutcome : ReconciliationInput → ReconciledState
  inspectAudit : Except Thrown Unit
  write : CallAnswer
  resolveAudit : Except Thrown Unit

/-- `Zero3AgentRecoverySnapshot`, as far as it is looked at. -/
structure RecoverySnapshot where
  runtimeAlive : Option Bool
  reconciliation : ReconciledState

def TaskRecord.IsUnknown (record : TaskRecord) : Prop :=
  record.state = .outcomeUnknown ∧ ∃ result ∈ record.result, result.status = .outcomeUnknown

instance (record : TaskRecord) : Decidable record.IsUnknown :=
  inferInstanceAs (Decidable (_ ∧ _))

def requireUnknown (taskId : String) (answer : CallAnswer) : TaskProcedure TaskRecord := do
  let record ← getRecord taskId answer
  check record.IsUnknown
    (threw "recovery controller requires state and ExecutionResultV2 to both be OutcomeUnknown")
  return record

/-- Whether the runtime of a session is alive, where the executor works in turns. -/
def runtimeAlive (record : TaskRecord) (answers : RecoveryAnswers) :
    Except Thrown (Option Bool) := do
  match record.resolvedTarget, record.binding with
  | .gemini, some binding =>
    if binding.targetLogicalSessionId = "" then return none
    let active := answers.activeSessions.contains binding.targetLogicalSessionId
    match ← answers.runtimeBinding with
    | some .running => return some true
    | some .outcomeUnknown | some .stopped | some .error => return some false
    | _ => return some active
  | _, _ => return none

def worktreeChanged (record : TaskRecord) (answers : RecoveryAnswers) : Option Bool :=
  if ∃ path ∈ record.task.worktreePath, scriptTrim path ≠ "" then
    answers.gitEvidence.toOption.map fun git =>
      !git.clean || git.headSha ≠ (git.baseSha.orElse fun _ => git.headSha)
  else none

def inspect (taskId : String) (get : CallAnswer) (answers : RecoveryAnswers) :
    TaskProcedure RecoverySnapshot := do
  let record ← requireUnknown taskId get
  let alive ← ofExcept (runtimeAlive record answers)
  let status := record.result.map (·.status)
  let reconciliation := answers.reconcileOutcome {
    processAlive := alive
    terminalResultSeen := status.any (· ≠ .outcomeUnknown)
    worktreeChanged := worktreeChanged record answers
    artifactsPresent := answers.artifactsPresent.toOption
    latestResultStatus := status }
  ofExcept answers.inspectAudit
  return ⟨alive, reconciliation⟩

def recoveredResult (before : ExecutionResult) (status : ResultStatus) (reason : String) :
    ExecutionResult :=
  { before with
    status
    summary := s!"{before.summary}\n\nRecovery classification: {reason}"
    blockers := (before.blockers ++
      [s!"Explicit recovery classification: {status.text} — {reason}"]).eraseDups
    recommendedAction := if status = .partialResult then .gptReview else .humanReview }

def rationale (value : Option String) : Except String String := do
  let text := scriptTrim (value.getD "")
  ensure (text ≠ "" ∧ utf16Length text ≤ 8000)
    "recovery rationale is required and must be <= 8000 characters"
  return text

/-- A write of the controller that resolves the outcome, where it changes the record. -/
def resolving {α : Type} (procedure : TaskProcedure α) : TaskProcedure α := fun world =>
  let ran := procedure world
  (ran.1, if ran.2.record = world.record then ran.2
    else { ran.2 with log := .resolved :: ran.2.log })

def writeResolution (taskId : String) (resolution : Resolution) (answers : RecoveryAnswers)
    (snapshot : RecoverySnapshot) (before : TaskRecord) (result : ExecutionResult)
    (reason : String) : TaskProcedure TaskRecord :=
  match resolution with
  | .acceptPartial => do
    check (snapshot.reconciliation = .partialResult ∨ snapshot.reconciliation = .resultReady)
      (threw s!"authoritative evidence does not support partial recovery; reconciliation={
        snapshot.reconciliation.text}")
    resolving (setResult taskId answers.write (recoveredResult result .partialResult reason)
      (if before.task.reviewRequired then .reviewPending else .resultReady))
  | .markFailed => do
    check (snapshot.runtimeAlive ≠ some true)
      (threw "cannot mark failed while the bound runtime is still active")
    resolving (setResult taskId answers.write (recoveredResult result .failed reason) .failed)
  | .keepUnknown => setState taskId answers.write .outcomeUnknown

def applyResolution (taskId : String) (resolution : Resolution) (rationaleValue : Option String)
    (answers : RecoveryAnswers) : TaskProcedure TaskRecord := do
  let reason ← ofExcept ((rationale rationaleValue).mapError threw)
  let before ← requireUnknown taskId answers.firstGet
  let snapshot ← inspect taskId answers.secondGet answers
  let result ← require before.result
    (threw "OutcomeUnknown task has no durable ExecutionResultV2 to classify")
  let record ← writeResolution taskId resolution answers snapshot before result reason
  ofExcept answers.resolveAudit
  return record

def assertRetryAllowed (taskId : String) (answer : CallAnswer) : TaskProcedure Unit := do
  let record ← getRecord taskId answer
  check (record.state ≠ .outcomeUnknown ∧ ∀ result ∈ record.result, result.status ≠ .outcomeUnknown)
    (threw ("automatic retry is forbidden while OutcomeUnknown is unresolved; inspect and " ++
      "explicitly classify authoritative evidence first"))

/-! ## What is done with a task -/

/-- **An operation** on a task, with what the surroundings answer to it. -/
inductive TaskOperation where
  | dispatch (context : DispatchContext) (answers : Nat → AttemptAnswers)
  | dispatchAgentTask (context : DispatchContext) (answers : Nat → AttemptAnswers)
  | inspect (answers : RecoveryAnswers)
  | applyResolution (resolution : Resolution) (rationale : Option String)
      (answers : RecoveryAnswers)
  | assertRetryAllowed (get : CallAnswer)

def serve (deps : Dependencies) (task : TaskSpec) : TaskOperation → TaskProcedure Unit
  | .dispatch context answers => do
    note .dispatched
    let _ ← dispatch deps task context answers
  | .dispatchAgentTask context answers => do
    note .dispatched
    let _ ← dispatchAgentTask deps task context answers
  | .inspect answers => do
    let _ ← inspect task.taskId answers.firstGet answers
  | .applyResolution resolution rationale answers => do
    let _ ← applyResolution task.taskId resolution rationale answers
  | .assertRetryAllowed get => assertRetryAllowed task.taskId get

end Zero3Pilot.AgentRouting
