import Zero3Pilot.GroupRuntime.SessionLifecycle

/-! # Session runners

`session/session-runtime.ts` and `runtime/worker-supervisor.ts`. A runner has a private copy of the
record of its session: it changes the copy and writes it back whole. The supervisor keeps the runner
of every prompt that runs, and hands it the events of the prompt one after the other. What a prompt
is told is not looked at here. -/

namespace Zero3Pilot.GroupRuntime

def initialSessionRuntime (session : PlannedSession) : DevelopmentSessionRuntime where
  groupId := session.groupId
  sessionId := session.sessionId
  executionId := session.executionId
  status := if session.dependencies ≠ [] then .waitingDependencies else .ready
  attempt := 0
  writerGeneration := 1
  executorId := none
  executorSessionId := none
  executorGeneration := none
  headSha := none
  lastEventSequence := 0
  blocker := none

namespace SessionRunner

variable (runner : SessionRunner)

/-- `transition(next)`: the private copy moves on. -/
def moveTo (status : DevelopmentSessionStatus) : Except String SessionRunner := do
  let runtime ← transition runner.runtime status id
  return { runner with runtime }

def persist : GroupProgram SessionRunner := do
  ask (.writeSession runner.known runner.runtime)
  return { runner with known := runner.runtime }

def withBlocker (blocker : Option String) : SessionRunner :=
  { runner with runtime := { runner.runtime with blocker } }

def withAttempt : SessionRunner :=
  { runner with runtime := { runner.runtime with attempt := runner.runtime.attempt + 1 } }

def markReady : GroupProgram SessionRunner := do
  insist (runner.runtime.status = .waitingDependencies ∨ runner.runtime.status = .blocked)
    s!"cannot mark {runner.runtime.status.text} session ready"
  let ready ← given .refused (runner.moveTo .ready)
  (ready.withBlocker none).persist

def prepareRetry : GroupProgram SessionRunner := do
  insist (runner.runtime.status ≠ .outcomeUnknown)
    "OutcomeUnknown cannot enter retry; resolve the uncertain execution first"
  insist (runner.runtime.status = .failed ∨ runner.runtime.status = .blocked)
    s!"only failed/blocked sessions may retry; got {runner.runtime.status.text}"
  insist (runner.runtime.attempt < runner.maxSessionAttempts) "session attempt budget exhausted"
  let ready ← given .refused (runner.moveTo .ready)
  (ready.withBlocker none).persist

def bindExecutorSession (session : ExecutorSessionRef) : SessionRunner :=
  { runner with
    runtime := { runner.runtime with
      executorId := some session.executorId
      executorSessionId := some session.sessionId
      executorGeneration := some session.generation.toNat
      writerGeneration := session.generation.toNat } }

/-- The part of `start()` whose exceptions are caught: the runner with which it is left, and what it
throws. -/
def startExecutor : GroupProgram (SessionRunner × Option GroupError) := do
  match ← attempt (ask (.startExecutor runner.session)) with
  | .error error => return (runner, some error)
  | .ok session =>
    match (runner.bindExecutorSession session).moveTo .running with
    | .error message => return (runner.bindExecutorSession session, some (.refused message))
    | .ok running =>
      match ← attempt running.persist with
      | .ok running => return (running, none)
      | .error error => return (running, some error)

def start : GroupProgram SessionRunner := do
  insist (runner.runtime.status = .ready)
    s!"session must be ready before start; got {runner.runtime.status.text}"
  insist (runner.runtime.attempt < runner.maxSessionAttempts) "session attempt budget exhausted"
  let starting ← given .refused (runner.moveTo .starting)
  let starting ← starting.withAttempt.persist
  match ← starting.startExecutor with
  | (running, none) => return running
  | (started, some error) =>
    let failed ← given .refused
      ((started.withBlocker (some s!"executor_start_failed: {error.text}")).moveTo .failed)
    let _ ← failed.persist
    throw error

def markOutcomeUnknown (reason : String) : GroupProgram SessionRunner := do
  insist (scriptTrim reason ≠ "") "OutcomeUnknown reason is required"
  if runner.runtime.status = .outcomeUnknown then return runner
  else
    let unknown ← given .refused (runner.moveTo .outcomeUnknown)
    (unknown.withBlocker (some (scriptTrim reason))).persist

def respondPermission : GroupProgram SessionRunner := do
  insist (runner.runtime.status = .waitingInput) "no permission/input wait is active"
  ask (.respondPermission runner.session.sessionId)
  let running ← given .refused (runner.moveTo .running)
  running.persist

def cancel : GroupProgram SessionRunner := do
  if runner.runtime.status = .verified || runner.runtime.status = .cancelled ||
      runner.runtime.status = .superseded then return runner
  else
    ask (.cancelExecutor runner.session.sessionId)
    let cancelled ← given .refused (runner.moveTo .cancelled)
    cancelled.persist

/-! ## Events -/

def syncActiveExecutorAuthority (active : Option (String × ExecutorSessionRef)) :
    Except String SessionRunner :=
  match active with
  | none => .ok runner
  | some (executorId, session) =>
    if executorId ≠ session.executorId then
      .error "active executor authority snapshot is inconsistent"
    else if session.generation < 1 ∨ 2 ^ 53 ≤ session.generation then
      .error "active executor generation must be a positive safe integer"
    else
      .ok { runner with
        runtime := { runner.runtime with
          executorId := some executorId
          executorSessionId := some session.sessionId
          executorGeneration := some session.generation.toNat
          writerGeneration := session.generation.toNat } }

def ignoresEvents : DevelopmentSessionStatus → Bool
  | .blocked | .failed | .outcomeUnknown | .cancelled => true
  | _ => false

def countEvent : SessionRunner :=
  { runner with
    runtime := { runner.runtime with lastEventSequence := runner.runtime.lastEventSequence + 1 } }

def eventTarget : ExecutorEventType → Option (DevelopmentSessionStatus × Option String)
  | .permissionRequested => some (.waitingInput, none)
  | .failure code =>
    match code with
    | .contextLost | .contextExhausted => some (.blocked, some code.text)
    | .transportLost | .processCrash => some (.outcomeUnknown, some code.text)
    | .permissionDenied | .policyDenied => some (.blocked, some code.text)
    | _ => some (.failed, some code.text)
  | .completed outcome =>
    if outcome = "succeeded" then some (.delivering, none)
    else if outcome = "cancelled" then some (.cancelled, none)
    else some (.failed, none)
  | .other => none

/-- The private copy goes back to work where it waited for input. -/
def resumeFromInput (event : ExecutorEvent) : Except String SessionRunner :=
  match runner.runtime.status, event.type with
  | .waitingInput, .permissionRequested => .ok runner
  | .waitingInput, _ => runner.moveTo .running
  | _, _ => .ok runner

/-- What `applyExecutorEvent(event)` does to the private copy before it is written: the copy, and
what is thrown. -/
def applyExecutorEvent (event : ExecutorEvent) : SessionRunner × Option String :=
  if event.sequence < 1 ∨ 2 ^ 53 ≤ event.sequence then
    (runner, some "executor event sequence must be a positive safe integer")
  else if ignoresEvents runner.countEvent.runtime.status then (runner.countEvent, none)
  else
    match runner.countEvent.resumeFromInput event with
    | .error message => (runner.countEvent, some message)
    | .ok resumed =>
      match eventTarget event.type with
      | none => (resumed, none)
      | some (status, blocker) =>
        match resumed.moveTo status with
        | .error message => (resumed, some message)
        | .ok moved =>
          (match blocker with
            | some blocker => moved.withBlocker (some blocker)
            | none => moved, none)

end SessionRunner

/-! ## The supervisor -/

def mayReleaseExecutorBinding (status : DevelopmentSessionStatus) : Bool :=
  status ≠ .outcomeUnknown && !status.isExecuting

def releaseSettledBinding (runner : SessionRunner) (status : DevelopmentSessionStatus) :
    GroupProgram Unit :=
  if mayReleaseExecutorBinding status then do
    let _ ← attempt (ask (.closeExecutor runner.session.sessionId))
    return ()
  else return ()

/-- `DevelopmentGroupWorkerSupervisor.launch(input)`, whose prompt then runs by itself. -/
def launch (runner : SessionRunner) : GroupProgram Unit := do
  let isActive ← ask .activeSessionIds
  insist (!isActive runner.session.sessionId)
    s!"Development Session {runner.session.sessionId} already has an active supervised prompt"
  insist (runner.runtime.status = .running)
    s!"supervised prompt requires running Session; got {runner.runtime.status.text}"
  ask (.launch runner)

/-- How the supervisor ends a prompt that was rejected. -/
def promptRejected (runner : SessionRunner) (error : String) : GroupProgram Unit := do
  let marked ← attempt (
    if SessionRunner.ignoresEvents runner.runtime.status then pure runner
    else runner.markOutcomeUnknown s!"supervisor_prompt_exception: {error}")
  match marked with
  | .ok marked =>
    releaseSettledBinding marked marked.runtime.status
    ask (.settle runner.session.sessionId)
  | .error _ => ask (.settle runner.session.sessionId)

def instructionFailed (runner : SessionRunner) (error : String) : GroupProgram Unit := do
  match ← attempt (runner.markOutcomeUnknown s!"executor_prompt_exception: {error}") with
  | .ok marked => promptRejected marked error
  | .error replaced => promptRejected runner replaced.text

end Zero3Pilot.GroupRuntime
