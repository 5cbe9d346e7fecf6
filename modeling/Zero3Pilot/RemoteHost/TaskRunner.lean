import Zero3Pilot.RemoteHost.GitChecks

/-! # The task runner of the Remote Host

`Zero3RemoteTaskRunner.run` of `host-runtime/remote-task-runner.ts`: validate the leased task, check
the repository, bind the task to a Codex thread, obtain its one turn, and observe the turn until it
ends. Every `await` of the source is a call, loops are bounded by `rounds`, and a run whose rounds
are used up is still running. -/

namespace Zero3Pilot.RemoteHost

open ScriptValue

variable (platform : Platform)

/-- `Zero3RemoteHostConfig` and `Zero3RemoteTaskRunnerOptions`, as far as the runner reads them. -/
structure HostConfig where
  allowedWorkspaces : List String
  threadMaterializationTimeoutMs : Nat

/-- A text that is neither missing nor empty. -/
def truthy (text : Option String) : Option String := text.filter (· ≠ "")

/-! ## Identities -/

def taskFingerprint (task : HostTask) : String := platform.sha256 task.toJson.render

def turnClientId (task : HostTask) : String :=
  "zero3-remote-" ++ platform.sha256 ("\x00".intercalate
    [remoteTaskProtocol, task.taskId, task.executionId, "turn:1"]).toList

def workspaceAllowed (config : HostConfig) (requested : String) : Option String :=
  let key (path : String) := if platform.caseInsensitivePaths then platform.toLowerCase path else path
  config.allowedWorkspaces.find? fun allowed => key allowed = key (platform.resolve requested)

/-! ## Reading Codex's answers -/

def idFromResult (value : Json) (label : String) : Except String String :=
  let root := asRecord (some value)
  let nested (name : String) := ((asRecord (root.get name)).get "id").text?
  let candidate := ((root.get "id").text?.or ((nested "thread").or (nested "turn"))).getD ""
  requiredString (some (.string candidate)) label 512

def threadTurns (threadRead : Json) : List Json :=
  let root := asRecord (some threadRead)
  let thread := asRecord (root.get "thread")
  let turns := ((thread.get "turns").items?.or (root.get "turns").items?).getD []
  turns.map fun turn => asRecord (some turn)

def findTurn (threadRead : Json) (turnId : String) : Option Json :=
  (threadTurns threadRead).find? fun turn => (turn.get "id").text? = some turnId

def turnItems (turn : Json) : List Json :=
  ((turn.get "items").items?.getD []).map fun item => asRecord (some item)

def carriesClientId (clientId : String) (turn : Json) : Bool :=
  (turnItems turn).any fun item => (item.get "clientId").text? = some clientId

def findTurnByClientId (threadRead : Json) (clientId : String) : Option String :=
  (threadTurns threadRead).findSome? fun turn =>
    if carriesClientId clientId turn then (turn.get "id").text? else none

def lastAgentSummary (turn : Json) : Option String :=
  (turnItems turn).reverse.findSome? fun item =>
    if (item.get "type").text? = some "agentMessage" then
      (truthy ((item.get "text").text?.map scriptTrim)).map (boundedText 64000)
    else none

def containsText (pattern text : List Char) : Bool := text.tails.any pattern.isPrefixOf

def isLineTerminator (char : Char) : Bool :=
  char = '\n' || char = '\r' || char.toNat = 0x2028 || char.toNat = 0x2029

def containsBoth (first second line : List Char) : Bool :=
  line.tails.any fun rest => first.isPrefixOf rest && containsText second (rest.drop first.length)

def isThreadMaterializationFailure (message : String) : Bool :=
  let text := message.toList.map Char.toLower
  (text.splitOnP isLineTerminator).any (containsBoth "rollout at ".toList " is empty".toList) ||
    containsText "is not materialized yet".toList text ||
    containsText "list_turns is not supported yet".toList text

/-! ## Reading a thread -/

def readThreadRounds {σ : Type} (threadId : String) (deadline : Nat)
    (onWait : Nat → σ → HostProgram σ) : Nat → Nat → σ → HostProgram (Json × σ)
  | 0, _, _ => .suspended
  | rounds + 1, attempt, state => .await (.readThread threadId) fun
      | .ok snapshot => return (snapshot, state)
      | .error message =>
        if !isThreadMaterializationFailure message then throw (.plain message)
        else do
          let time ← call .now
          if deadline ≤ time then throw (.plain message)
          else do
            let state ← onWait (attempt + 1) state
            call (.delay (min (250 * (attempt + 1)) 1500))
            readThreadRounds threadId deadline onWait rounds (attempt + 1) state

def readThreadWhenMaterialized {σ : Type} (rounds : Nat) (threadId : String) (timeoutMs : Nat)
    (onWait : Nat → σ → HostProgram σ) (state : σ) : HostProgram (Json × σ) := do
  let time ← call .now
  readThreadRounds threadId (time + timeoutMs) onWait rounds 0 state

/-- The read of `recoverPendingTurn`, the failure to materialize the thread not handled. -/
def readSnapshot (rounds : Nat) (threadId : String) (timeoutMs : Nat) :
    HostProgram (Option Json) := do
  let (snapshot, _) ← readThreadWhenMaterialized rounds threadId timeoutMs
    (fun _ state => return state) ()
  return some snapshot

/-- The rounds of `recoverPendingTurn`. -/
def recoverRounds (rounds : Nat) (mapping : CodexMapping) (clientId : String) (deadline : Nat) :
    Nat → HostProgram (Option String)
  | 0 => .suspended
  | round + 1 => do
    let time ← call .now
    let snapshot ← (readSnapshot rounds mapping.threadId
      (max 250 (deadline - time))).catching fun error =>
        if isThreadMaterializationFailure error.message then return none else throw error
    match snapshot with
    | none => return none
    | some snapshot =>
      match findTurnByClientId snapshot clientId with
      | some turnId => return some turnId
      | none => do
        let time ← call .now
        if time < deadline then call (.delay 250)
        let time ← call .now
        if time < deadline then recoverRounds rounds mapping clientId deadline round
        else return none

def recoverPendingTurn (rounds : Nat) (mapping : CodexMapping) (clientId : String) :
    HostProgram (Option String) := do
  let time ← call .now
  recoverRounds rounds mapping clientId (time + 5000) rounds

/-! ## The prompt -/

def bulletLines (items : List String) (none : String) : String :=
  if items = [] then none else "\n".intercalate (items.map ("- " ++ ·))

def projectContextText : Option ProjectContextRef → String
  | none => "- not supplied"
  | some context =>
    let orMissing (text : Option String) := text.getD "not supplied"
    "\n".intercalate [
      "- project_id: " ++ context.projectId,
      "- context_version: " ++ orMissing (context.contextVersion.map toString),
      "- context_ref: " ++ orMissing context.contextRef,
      "- source: " ++ orMissing (context.sourceKind.map SourceKind.name) ++ " / " ++
        orMissing context.sourceEntryId]

def taskPrompt (task : HostTask) (preflight : GitPreflight) : String :=
  let clean := match preflight.cleanWorktree with
    | none => "not required"
    | some true => "clean"
    | some false => "dirty"
  "\n".intercalate [
    "[ZERO3 REMOTE TASK]", "",
    "Task ID: " ++ task.taskId,
    "Execution ID: " ++ task.executionId,
    "Permission intent: " ++ task.permissionProfile.name,
    "Maximum host-started Codex Turns: " ++ toString task.execution.maxTurns, "",
    "Project context reference:",
    projectContextText task.projectContext, "",
    "Authoritative Git preflight:",
    "- repository root: " ++ preflight.repositoryRoot,
    "- HEAD: " ++ preflight.headCommit,
    "- requested base commit: " ++ preflight.baseCommit.getD "not required",
    "- worktree: " ++ clean, "",
    "Objective:", task.objective, "",
    "Constraints:", bulletLines task.constraints "- none supplied", "",
    "Acceptance Criteria:",
    bulletLines task.acceptanceCriteria "- verify the requested objective against the real project",
    "", "Requested handoff evidence:",
    bulletLines ((task.handoff.map (·.requiredEvidence)).getD [])
      "- no additional named evidence requested", "",
    "Execution requirements:",
    "- Inspect the real repository before modifying it.",
    "- Preserve Zero3 architecture invariants; open-source Codex remains the only Agent Kernel.",
    "- Use real project verification rather than assuming generated code works.",
    "- Do not bypass sandbox or approval policy.",
    "- Do not claim success until the acceptance criteria have been verified.",
    "- If an action needs permission outside the granted profile, stop and surface the requirement.",
    "- Finish with a concise factual handoff summary for the supervising GPT session.", ""]

/-! ## Binding the task -/

/-- The part of `run` that looks up the mapping of the task, or starts a thread and persists one. -/
def bindMapping (task : HostTask) (workspace : String) : HostProgram CodexMapping := do
  let fingerprint := taskFingerprint platform task
  let mappings ← call .readMappings
  match lookupMapping mappings task.taskId with
  | .inherited => throw (.blocked "task_id is already bound to a different execution_id")
  | .found mapping =>
    if mapping.executionId ≠ task.executionId then
      throw (.blocked "task_id is already bound to a different execution_id")
    else if mapping.taskFingerprint ≠ fingerprint then
      throw (.blocked "task_id and execution_id are already bound to different remote task content")
    else if platform.resolve mapping.workspace ≠ workspace then
      throw (.blocked "task_id is already bound to a different local workspace")
    else return mapping
  | .absent => do
    let threadResult ← call (.startThread workspace)
    let threadId ← .ofExcept .plain (idFromResult threadResult "Codex thread id")
    let mapping : CodexMapping := {
      taskId := task.taskId
      executionId := task.executionId
      taskFingerprint := fingerprint
      threadId
      turnIds := []
      workspace
      pendingTurnClientId := none }
    putMapping mapping
    return mapping

/-! ## Obtaining the turn -/

structure TurnState where
  turnId : Option String
  mapping : CodexMapping
  evidence : List EvidenceItem

def recordedTurn (mapping : CodexMapping) : Option String := truthy mapping.turnIds.getLast?

/-- The part of `run` that recovers the turn of a persisted intent. -/
def recoverTurn (rounds : Nat) (state : TurnState) : HostProgram TurnState :=
  match state.turnId, truthy state.mapping.pendingTurnClientId with
  | none, some clientId => do
    let recovered ← recoverPendingTurn rounds state.mapping clientId
    match truthy recovered with
    | none => throw (.outcomeUnknown
        "a persisted Codex turn-start intent has no authoritative matching Turn; refusing to start a duplicate Turn")
    | some turnId => do
      let mapping : CodexMapping := { state.mapping with
        turnIds := state.mapping.turnIds ++ [turnId], pendingTurnClientId := none }
      (putMapping mapping).catching fun error => throw (.outcomeUnknown ("recovered Codex Turn "
        ++ turnId ++ " but could not persist the recovered mapping: " ++ error.message))
      let evidence ← pushEvidence state.evidence "remote.turn.recovered"
        (.object [("threadId", .string mapping.threadId), ("turnId", .string turnId)])
      return ⟨some turnId, mapping, evidence⟩
  | _, _ => return state

def startTurn (task : HostTask) (preflight : GitPreflight) (state : TurnState) :
    HostProgram (String × TurnState) := do
  let clientUserMessageId := turnClientId platform task
  let pending : CodexMapping :=
    { state.mapping with pendingTurnClientId := some clientUserMessageId }
  putMapping pending
  let turnResult ← .perform (fun message => .outcomeUnknown
      ("Codex turn/start returned without an authoritative Turn id after intent persistence: " ++ message))
    (.startTurn ⟨pending.threadId, clientUserMessageId, task.nativeSkills,
      taskPrompt task preflight⟩)
  let turnId ← .ofExcept .plain (idFromResult turnResult "Codex turn id")
  let mapping : CodexMapping :=
    { pending with turnIds := pending.turnIds ++ [turnId], pendingTurnClientId := none }
  (putMapping mapping).catching fun error => throw (.outcomeUnknown ("Codex Turn " ++ turnId ++
    " started but its durable mapping could not be finalized: " ++ error.message))
  let evidence ← pushEvidence state.evidence "remote.turn.started"
    (.object [("threadId", .string mapping.threadId), ("turnId", .string turnId),
      ("clientUserMessageId", .string clientUserMessageId)])
  return (turnId, ⟨some turnId, mapping, evidence⟩)

/-- The part of `run` that resumes a turn. -/
def resumeTurn (turnId : String) (state : TurnState) : HostProgram (String × TurnState) := do
  let mapping : CodexMapping := { state.mapping with pendingTurnClientId := none }
  if (truthy state.mapping.pendingTurnClientId).isSome then
    putMapping mapping
  let evidence ← pushEvidence state.evidence "remote.turn.resumed"
    (.object [("threadId", .string mapping.threadId), ("turnId", .string turnId)])
  return (turnId, ⟨some turnId, mapping, evidence⟩)

/-- The part of `run` that obtains the turn of the task. -/
def obtainTurn (rounds : Nat) (task : HostTask) (preflight : GitPreflight) (mapping : CodexMapping)
    (evidence : List EvidenceItem) : HostProgram (String × TurnState) := do
  let state ← recoverTurn rounds ⟨recordedTurn mapping, mapping, evidence⟩
  match state.turnId with
  | none => startTurn platform task preflight state
  | some turnId => resumeTurn turnId state

/-! ## Observing the turn -/

inductive RunState where
  | succeeded
  | failed
  | outcomeUnknown

def RunState.name : RunState → String
  | .succeeded => "succeeded"
  | .failed => "failed"
  | .outcomeUnknown => "outcome_unknown"

/-- What `run` returns. -/
structure RunResult where
  state : RunState
  task : HostTask
  mapping : CodexMapping
  executionResult : Option Json
  (turnId status : String)
  error : Option Json
  reason : Option String
  evidence : List EvidenceItem

/-- What the observation of a turn knows of the run so far. -/
structure Observed where
  task : HostTask
  workspace : String
  preflight : GitPreflight
  mapping : CodexMapping
  turnId : String

def buildExecutionResult (observed : Observed) (state : RunState) (turn : Json)
    (postflight : Option GitPostflight) (evidence : List EvidenceItem) : Json :=
  let task := observed.task
  .object ([("protocol", .string executionResultProtocol), ("task_id", .string task.taskId),
      ("execution_id", .string task.executionId), ("state", .string state.name),
      ("codex_thread_id", .string observed.mapping.threadId),
      ("codex_turn_id", .string observed.turnId)] ++
    ControlPlane.optionalMember "project_context" (task.projectContext.map ProjectContextRef.toJson) ++
    ControlPlane.optionalMember "return_entry_id"
      ((truthy (task.handoff.bind (·.returnEntryId))).map .string) ++
    [("agent_summary", orNull ((lastAgentSummary turn).map .string)),
      ("git_preflight", observed.preflight.evidence)] ++
    ControlPlane.optionalMember "git_postflight" (postflight.map GitPostflight.evidence) ++
    [("evidence_methods", .array (evidence.map fun item => .string item.method))])

/-- What the polling loop carries from round to round. -/
structure PollState where
  lastStatus : String
  materializationObserved : Bool
  evidence : List EvidenceItem

/-- The `onWait` of the polling loop: the first wait for a thread is recorded as evidence. -/
def onMaterializationWait (observed : Observed) (attempt : Nat) (state : PollState) :
    HostProgram PollState :=
  if state.materializationObserved then return state
  else do
    let evidence ← pushEvidence state.evidence "remote.thread.materializing"
      (.object [("threadId", .string observed.mapping.threadId), ("attempt", .nat attempt),
        ("reason", .string "Codex rollout is not materialized yet; waiting for the durable history instead of failing the attempt")])
    return { state with materializationObserved := true, evidence }

def recordStatus (observed : Observed) (turn : Json) (status : String) (state : PollState) :
    HostProgram PollState :=
  if status ≠ "" ∧ status ≠ state.lastStatus then do
    let evidence ← pushEvidence state.evidence "remote.turn.status"
      (.object [("turnId", .string observed.turnId), ("status", .string status),
        ("error", (turn.get "error").getD .null)])
    return { state with lastStatus := status, evidence }
  else return state

def finishCompleted (observed : Observed) (turn : Json) (status : String) (state : PollState) :
    HostProgram RunResult := do
  let postflight ← runGitPostflight platform observed.workspace observed.task observed.preflight
  let evidence ← pushEvidence state.evidence "remote.git.postflight" postflight.evidence
  let executionResult := buildExecutionResult observed .succeeded turn (some postflight) evidence
  let evidence ← pushEvidence evidence "remote.execution.result" executionResult
  return {
    state := .succeeded, task := observed.task, mapping := observed.mapping
    executionResult := some executionResult, turnId := observed.turnId, status
    error := none, reason := none, evidence }

def finishFailed (observed : Observed) (turn : Json) (status : String) (state : PollState) :
    HostProgram RunResult := do
  let executionResult := buildExecutionResult observed .failed turn none state.evidence
  let evidence ← pushEvidence state.evidence "remote.execution.result" executionResult
  return {
    state := .failed, task := observed.task, mapping := observed.mapping
    executionResult := some executionResult, turnId := observed.turnId, status
    error := some ((turn.get "error").getD .null), reason := none, evidence }

/-- The end of a run whose turn was not seen to end in time. -/
def observationTimedOut (observed : Observed) (state : PollState) : RunResult where
  state := .outcomeUnknown
  task := observed.task
  mapping := observed.mapping
  executionResult := none
  turnId := observed.turnId
  status := textOr state.lastStatus "unknown"
  error := none
  reason := some "remote task observation timed out"
  evidence := state.evidence

def pollTurn (config : HostConfig) (rounds : Nat) (observed : Observed) (deadline : Nat) :
    Nat → PollState → HostProgram RunResult
  | 0, _ => .suspended
  | round + 1, state => do
    let time ← call .now
    if deadline ≤ time then return observationTimedOut observed state
    else do
      let time ← call .now
      let (snapshot, state) ← readThreadWhenMaterialized rounds observed.mapping.threadId
        (max 250 (min config.threadMaterializationTimeoutMs (deadline - time)))
        (onMaterializationWait observed) state
      match findTurn snapshot observed.turnId with
      | none => do
        call (.delay 750)
        pollTurn config rounds observed deadline round state
      | some turn => do
        let status := (turn.get "status").text?.getD ""
        let state ← recordStatus observed turn status state
        if status = "completed" then finishCompleted platform observed turn status state
        else if status = "failed" ∨ status = "interrupted" then
          finishFailed observed turn status state
        else do
          call (.delay 1000)
          pollTurn config rounds observed deadline round state

def observeTurn (config : HostConfig) (rounds : Nat) (observed : Observed)
    (evidence : List EvidenceItem) : HostProgram RunResult := do
  let time ← call .now
  pollTurn platform config rounds observed
    (time + observed.task.execution.timeoutSeconds * 1000) rounds ⟨"", false, evidence⟩

/-! ## The run -/

/-- The part of `run` before the mapping is looked at: the workspace of the task and its
preflight. -/
def acceptTask (config : HostConfig) (leaseTask : Json) :
    HostProgram (HostTask × String × GitPreflight) := do
  let task ← .ofExcept .plain (validateTask platform.coerce leaseTask)
  match workspaceAllowed platform config task.target.workspace with
  | none => throw (.blocked "remote task workspace is not present in the local allow-list")
  | some allowedWorkspace => do
    let workspace := platform.resolve allowedWorkspace
    let preflight ← runGitPreflight platform workspace task
    return (task, workspace, preflight)

/-- The evidence of a run before its turn is obtained. -/
def openEvidence (workspace : String) (preflight : GitPreflight) (mapping : CodexMapping) :
    HostProgram (List EvidenceItem) := do
  let evidence ← pushEvidence [] "remote.git.preflight" preflight.evidence
  pushEvidence evidence
    (if mapping.turnIds = [] then "remote.thread.started" else "remote.thread.resumed")
    (.object [("threadId", .string mapping.threadId), ("workspace", .string workspace)])

/-- **`Zero3RemoteTaskRunner.run`.** -/
def run (config : HostConfig) (rounds : Nat) (leaseTask : Json) : HostProgram RunResult := do
  let (task, workspace, preflight) ← acceptTask platform config leaseTask
  let mapping ← bindMapping platform task workspace
  let evidence ← openEvidence workspace preflight mapping
  let (turnId, state) ← obtainTurn platform rounds task preflight mapping evidence
  observeTurn platform config rounds
    { task, workspace, preflight, mapping := state.mapping, turnId } state.evidence

end Zero3Pilot.RemoteHost
