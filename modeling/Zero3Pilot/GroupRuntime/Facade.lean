import Zero3Pilot.GroupRuntime.SessionRunner
import Zero3Pilot.GroupRuntime.Scheduler
import Zero3Pilot.GroupRuntime.Integration
import Zero3Pilot.GroupRuntime.Verification
import Zero3Pilot.GroupRuntime.Completion

/-! # The runtime facade

`runtime/runtime-facade.ts`, `runtime/retry-session.ts`, and the operations that
`desktop/desktop-runtime.ts` adds. Every operation is a program of the calls of a group; a supervised
prompt runs by itself, and each of its events is handled by a program of its own. -/

namespace Zero3Pilot.GroupRuntime

/-! ## Snapshots -/

def mergedSessionIds (integrations : List IntegrationMilestone) : List String :=
  (integrations.filter (·.status = .merged)).flatMap (·.mergedSessionIds)

def DevelopmentSessionStatus.isBlocking : DevelopmentSessionStatus → Bool
  | .blocked | .waitingInput | .outcomeUnknown | .failed => true
  | _ => false

def sessionBlocker (runtime : DevelopmentSessionRuntime) : String :=
  if scriptTrim (runtime.blocker.getD "") = "" then s!"{runtime.sessionId}:{runtime.status.text}"
  else scriptTrim (runtime.blocker.getD "")

def currentBlockers (records : DurableGroupRecords) : List String :=
  sortTexts ((((records.runtimes.filter (·.status.isBlocking)).map sessionBlocker ++
    (records.failures.filter (·.unresolved)).map (·.message) ++
    (records.repairs.filter fun repair =>
      repair.status = .waitingHuman || repair.status = .failed).map fun repair =>
        s!"{repair.repairTaskId}:" ++ if repair.status = .failed then "failed" else "waiting_human")
    ).eraseDups.filter (· ≠ ""))

def outcomeUnknownCount (records : DurableGroupRecords) : Nat :=
  (records.runtimes.filter (·.status = .outcomeUnknown)).length

def normalizedStatus (state : DevelopmentGroupRuntimeState) (records : DurableGroupRecords) :
    DevelopmentGroupStatus :=
  if 0 < outcomeUnknownCount records ∧ ¬ state.status.isFinal then .outcomeUnknown
  else if outcomeUnknownCount records = 0 ∧ state.status = .outcomeUnknown then
    if currentBlockers records ≠ [] then .blocked else .ready
  else state.status

def normalizeRuntimeState (state : DevelopmentGroupRuntimeState) (records : DurableGroupRecords) :
    DevelopmentGroupRuntimeState :=
  { state with
    status := normalizedStatus state records
    unresolvedBlockers := currentBlockers records
    outcomeUnknownCount := outcomeUnknownCount records }

structure GroupSnapshot where
  plan : PlanningProposal
  state : DevelopmentGroupRuntimeState
  records : DurableGroupRecords

/-- What a snapshot repairs of a session. -/
def reconcileSession (isActive : String → Bool) (session : PlannedSession) : GroupProgram Unit := do
  let _ ← reconcileInterruptedExecutorRuntime session.sessionId (isActive session.sessionId)
  let _ ← reconcileAcceptedDelivery session

def normalizeSnapshot (plan : PlanningProposal) : GroupProgram GroupSnapshot := do
  let rawState ← ask .loadState
  let records ← ask .loadRecords
  let state := normalizeRuntimeState rawState records
  if state ≠ rawState then
    writeState state
    return ⟨plan, state, records⟩
  else
    return ⟨plan, state, records⟩

def snapshot (groupId : String) : GroupProgram GroupSnapshot := do
  let plan ← ask (.loadPlan groupId)
  let _ ← resumeGroup
  let isActive ← ask .activeSessionIds
  plan.sessions.forM (reconcileSession isActive)
  normalizeSnapshot plan

/-! ## Waves -/

variable (host : RuntimeHost)

def resolveSessionWorktree (group : DevelopmentGroupDefinition) (session : PlannedSession) :
    Except String PlannedSession := do
  ensure (session.groupId = group.groupId) "Development Session worktree group identity mismatch"
  return { session with worktree := host.resolveWorktree group.repository session.worktree }

/-- The evidence of one required session: whether its delivery is valid, and its ownership. -/
def sessionEvidence (snapshot : GroupSnapshot) (sessionId : String) :
    GroupProgram (Bool × Bool) := do
  match snapshot.plan.session? sessionId,
      snapshot.records.deliveries.find? fun delivery => delivery.sessionId = sessionId with
  | some persistedSession, some delivery =>
    let session ← given .refused
      (resolveSessionWorktree host snapshot.plan.definition persistedSession)
    let gate ← ask (.verifyDelivery session delivery)
    return (gate.Accepts, gate.ownership.all fun audit => audit.valid)
  | _, _ => return (false, false)

def waveEvidence (snapshot : GroupSnapshot) (wave : DevelopmentWave) :
    GroupProgram WaveGateEvidence := do
  let found ← wave.requiredSessionIds.mapM (sessionEvidence host snapshot)
  return {
    waveId := wave.waveId
    integrationValid := wave.requiredSessionIds.all
      (mergedSessionIds snapshot.records.integrations).contains
    requiredDeliveriesValid := found.all Prod.fst
    ownershipValid := found.all Prod.snd }

def buildWaveEvidence (snapshot : GroupSnapshot) : GroupProgram (List WaveGateEvidence) :=
  snapshot.plan.waves.mapM (waveEvidence host snapshot)

def sessionRunner (groupId sessionId : String) : GroupProgram SessionRunner := do
  let plan ← ask (.loadPlan groupId)
  let persistedSession ← demand (plan.session? sessionId) s!"unknown Development Session {sessionId}"
  let session ← given .refused (resolveSessionWorktree host plan.definition persistedSession)
  let runtime ← ask (.loadSession sessionId)
  insist (runtime.groupId = plan.definition.groupId ∧ runtime.sessionId = session.sessionId ∧
    runtime.executionId = session.executionId) "Development Session runtime identity mismatch"
  return ⟨session, plan.definition.policy.maxSessionAttempts, runtime, runtime⟩

def readyRunner (runner : SessionRunner) : GroupProgram SessionRunner :=
  if runner.runtime.status = .waitingDependencies then runner.markReady else pure runner

def startSession (groupId waveId sessionId : String) : GroupProgram Unit := do
  let found ← sessionRunner host groupId sessionId
  let runner ← readyRunner found
  let _ ← record groupId ⟨.sessionStarted, some sessionId, some waveId, none⟩
  let running ← runner.start
  launch running

def runningSessionCount (records : DurableGroupRecords) : Nat :=
  (records.runtimes.filter (·.status.isExecuting)).length

def startWave (groupId waveId : String) : GroupProgram Unit := do
  let snapshot ← snapshot groupId
  insist (snapshot.state.outcomeUnknownCount = 0)
    "Development Group has unresolved OutcomeUnknown and cannot start more Sessions"
  let _ ← demand (snapshot.plan.wave? waveId) s!"unknown Development Wave {waveId}"
  let evidence ← buildWaveEvidence host snapshot
  let ready ← schedule groupId evidence (runningSessionCount snapshot.records)
  let eligible := ready.filter fun sessionId =>
    (snapshot.plan.session? sessionId).any fun session => session.waveId = waveId
  insist (eligible ≠ []) s!"Development Wave {waveId} has no eligible Sessions"
  let _ ← record groupId ⟨.waveStarted, none, some waveId, none⟩
  eligible.forM (startSession host groupId waveId)

/-! ## Deliveries -/

def submitDelivery (delivery : DevelopmentDelivery) : GroupProgram DevelopmentSessionRuntime := do
  let plan ← ask (.loadPlan delivery.groupId)
  let persistedSession ← demand (plan.session? delivery.sessionId)
    s!"unknown Development Session {delivery.sessionId}"
  let session ← given .refused (resolveSessionWorktree host plan.definition persistedSession)
  let gate ← ask (.verifyDelivery session delivery)
  if ¬ gate.Accepts then
    let reasons := "; ".intercalate gate.reasons
    let _ ← record delivery.groupId
      ⟨.deliveryRejected, some delivery.sessionId, some session.waveId, some reasons⟩
    refuse s!"Delivery rejected: {reasons}"
  else
    let runtime ← acceptDevelopmentDelivery session delivery gate
    let _ ← record delivery.groupId ⟨.sessionDelivered, some delivery.sessionId,
      some session.waveId, some s!"delivery_hash={delivery.deliveryHash}"⟩
    return runtime

/-- A session whose delivery could not be made. -/
def materializationFailed (groupId : String) (session : PlannedSession) (error : GroupError) :
    GroupProgram Unit := do
  let blocker := s!"delivery_materialization_failed: {error.text}"
  let _ ← markSessionBlocked session.sessionId blocker
  let _ ← record groupId
    ⟨.sessionBlocked, some session.sessionId, some session.waveId, some blocker⟩

/-- `afterSettled(runtime)` of a supervised prompt. -/
def afterSettled (groupId : String) (session : PlannedSession)
    (runtime : DevelopmentSessionRuntime) : GroupProgram Unit := do
  if runtime.status ≠ .delivering then return ()
  else
    let submitted ← attempt (do
      let delivery ← ask (.materialize session runtime)
      submitDelivery host delivery)
    match submitted with
    | .ok _ => return ()
    | .error error => materializationFailed groupId session error

/-- How the supervisor ends a prompt that was fulfilled. -/
def promptFulfilled (groupId : String) (runner : SessionRunner) : GroupProgram Unit := do
  let _ ← attempt (afterSettled host groupId runner.session runner.runtime)
  releaseSettledBinding runner runner.runtime.status
  ask (.settle runner.session.sessionId)

/-- **What a supervised prompt does next.** -/
def promptTurn (groupId sessionId : String) : GroupProgram Unit := do
  let runner ← ask (.takeRunner sessionId)
  match ← ask (.promptProgress sessionId) with
  | .threw message => instructionFailed runner s!"Error: {message}"
  | .finished => promptFulfilled host groupId runner
  | .event event =>
    let active ← ask (.activeExecutor sessionId)
    match runner.syncActiveExecutorAuthority active with
    | .error message => instructionFailed runner s!"Error: {message}"
    | .ok synced =>
      match synced.applyExecutorEvent event with
      | (applied, some message) => instructionFailed applied s!"Error: {message}"
      | (applied, none) =>
        match ← attempt applied.persist with
        | .error error => instructionFailed applied error.text
        | .ok persisted => ask (.putRunner persisted)

/-! ## Integration, verification, completion -/

def recordMilestone (groupId : String) (session : PlannedSession)
    (result : IntegrationMilestone) : GroupProgram Unit := do
  if result.status = .merged then
    let state ← record groupId ⟨.integrationMerged, some session.sessionId, some session.waveId,
      some s!"integration_sha={result.headSha}"⟩
    writeState { state with integrationSha := some result.headSha }
  else
    let _ ← record groupId
      ⟨.sessionBlocked, some session.sessionId, some session.waveId, some result.blocker⟩

/-- The part of `integrateDelivery` that changes something, once the item is ready. -/
def integrateItem (groupId : String) (item : IntegrationQueueItem) :
    GroupProgram IntegrationMilestone := do
  let _ ← record groupId ⟨.integrationStarted, some item.session.sessionId,
    some item.session.waveId, some s!"delivery_hash={item.delivery.deliveryHash}"⟩
  let _ ← markSessionIntegrating item.session.sessionId
  let result ← integrateNext host item
  let _ ← applyIntegrationMilestone item.session.sessionId result
  recordMilestone groupId item.session result
  return result

def integrateDelivery (groupId sessionId : String) : GroupProgram IntegrationMilestone := do
  let snapshot ← snapshot groupId
  insist (snapshot.state.outcomeUnknownCount = 0)
    "Development Group has unresolved OutcomeUnknown and cannot integrate"
  let persistedSession ← demand (snapshot.plan.session? sessionId)
    s!"missing Session or Delivery for {sessionId}"
  let delivery ← demand
    (snapshot.records.deliveries.find? fun candidate => candidate.sessionId = sessionId)
    s!"missing Session or Delivery for {sessionId}"
  let session ← given .refused
    (resolveSessionWorktree host snapshot.plan.definition persistedSession)
  let item ← given .refused (enqueue session delivery snapshot.plan.waves)
  insist (item.isReady (mergedSessionIds snapshot.records.integrations))
    s!"Delivery {delivery.deliveryHash} is not dependency-ready for integration"
  integrateItem host groupId item

def finalSha (snapshot : GroupSnapshot) : Option String :=
  (snapshot.state.integrationSha.or
    (((snapshot.records.integrations.filter (·.status = .merged)).getLast?).map
      (·.headSha))).filter (· ≠ "")

/-- The end of `runVerification`, where the run has passed. -/
def markVerified (groupId finalSha : String) (run : VerificationRun) :
    GroupProgram VerificationRun := do
  let after ← snapshot groupId
  let chain ← given .refused (finalIntegrationChain after.records.integrations finalSha)
  (chain.flatMap (·.mergedSessionIds)).eraseDups.forM fun sessionId => do
    let _ ← markSessionVerified sessionId run
  return run

def runVerification (groupId : String) (verificationRunId : Option String) :
    GroupProgram VerificationRun := do
  let snapshot ← snapshot groupId
  insist (snapshot.state.outcomeUnknownCount = 0)
    "Development Group has unresolved OutcomeUnknown and cannot verify"
  let sha ← demand (finalSha snapshot) "verification requires a merged integration SHA"
  let commands ← ask .verificationCommands
  let _ ← record groupId ⟨.verificationStarted, none, none, some s!"integration_sha={sha}"⟩
  let platform ← ask .platform
  let run ← executeVerification {
    groupId
    integrationSha := sha
    policyRevision := snapshot.plan.definition.policy.verificationPolicyRevision
    commands
    mandatoryCommandIds := snapshot.plan.definition.policy.mandatoryTests
    platform
    verificationRunId := verificationRunId.filter (· ≠ "") }
  ask (.writeVerification run)
  if run.status ≠ .passed then
    let _ ← record groupId ⟨.verificationFailed, none, none,
      some s!"verification_run={run.verificationRunId};status={run.status.text}"⟩
    return run
  else markVerified groupId sha run

def validDeliveryHash (snapshot : GroupSnapshot) (delivery : DevelopmentDelivery) :
    GroupProgram (Option String) := do
  match snapshot.plan.session? delivery.sessionId with
  | none => return none
  | some persistedSession =>
    let session ← given .refused
      (resolveSessionWorktree host snapshot.plan.definition persistedSession)
    let gate ← ask (.verifyDelivery session delivery)
    return if gate.Accepts then some delivery.deliveryHash else none

def completionProof (groupId : String) :
    GroupProgram (GroupCompletionProof × List ValidationIssue) := do
  let snapshot ← snapshot groupId
  let sha ← demand (finalSha snapshot) "Completion Proof requires a final integration SHA"
  let hashes ← snapshot.records.deliveries.mapM (validDeliveryHash host snapshot)
  given .refused (buildCompletionProof {
    groupId
    policy := snapshot.plan.definition.policy
    requirements := snapshot.plan.requirements
    sessions := snapshot.plan.sessions
    records := snapshot.records
    validDeliveryHashes := hashes.filterMap id
    finalIntegrationSha := sha
    unresolvedBlockers := snapshot.state.unresolvedBlockers })

def completeGroup (groupId : String) : GroupProgram GroupCompletionProof := do
  let result ← completionProof host groupId
  let proof ← given .refused (assertGroupCompletable result)
  let _ ← record groupId ⟨.groupCompleted, none, none,
    some s!"integration_sha={proof.finalIntegrationSha}"⟩
  return proof

/-! ## Retries and resolutions -/

def checkRequiredSession (snapshot : GroupSnapshot) (waveId sessionId : String) :
    GroupProgram Unit := do
  insist ((mergedSessionIds snapshot.records.integrations).contains sessionId)
    s!"dependency Wave {waveId} is not fully integrated"
  let persistedSession ← demand (snapshot.plan.session? sessionId)
    s!"dependency Wave {waveId} is missing durable Delivery evidence"
  let delivery ← demand
    (snapshot.records.deliveries.find? fun candidate => candidate.sessionId = sessionId)
    s!"dependency Wave {waveId} is missing durable Delivery evidence"
  let session ← given .refused
    (resolveSessionWorktree host snapshot.plan.definition persistedSession)
  let gate ← ask (.verifyDelivery session delivery)
  insist gate.Accepts (s!"dependency Wave {waveId} no longer passes Delivery evidence: " ++
    "; ".intercalate gate.reasons)

/-- The wave of a retried session may run. -/
def checkDependencyWave (snapshot : GroupSnapshot) (waveId : String) : GroupProgram Unit := do
  let wave ← demand (snapshot.plan.wave? waveId) s!"missing dependency Wave {waveId}"
  wave.requiredSessionIds.forM (checkRequiredSession host snapshot waveId)

def retryDevelopmentSession (groupId sessionId : String) : GroupProgram Unit := do
  let snapshot ← snapshot groupId
  insist (snapshot.state.outcomeUnknownCount = 0)
    "Development Group has unresolved OutcomeUnknown and cannot retry Sessions"
  let isActive ← ask .activeSessionIds
  insist (!isActive sessionId)
    s!"Development Session {sessionId} still has an active supervised prompt"
  let persistedSession ← demand (snapshot.plan.session? sessionId)
    s!"unknown Development Session {sessionId}"
  let runtime ← demand
    (snapshot.records.runtimes.find? fun candidate => candidate.sessionId = sessionId)
    s!"unknown Development Session {sessionId}"
  let session ← given .refused
    (resolveSessionWorktree host snapshot.plan.definition persistedSession)
  insist (runtime.status ≠ .outcomeUnknown)
    "OutcomeUnknown cannot enter retry; resolve the uncertain execution first"
  insist (runtime.status = .failed ∨ runtime.status = .blocked)
    s!"only failed/blocked Sessions may retry; got {runtime.status.text}"
  insist (runtime.attempt < snapshot.plan.definition.policy.maxSessionAttempts)
    "session attempt budget exhausted"
  session.dependencies.forM fun dependency =>
    insist ((mergedSessionIds snapshot.records.integrations).contains dependency)
      s!"retry dependency {dependency} is not durably integrated"
  let wave ← demand (snapshot.plan.wave? session.waveId)
    s!"missing Development Wave {session.waveId}"
  wave.dependsOnWaveIds.forM (checkDependencyWave host snapshot)
  let runner ← sessionRunner host groupId sessionId
  let ready ← runner.prepareRetry
  let _ ← record groupId ⟨.sessionStarted, some sessionId, some session.waveId,
    some s!"explicit_retry_attempt={runtime.attempt + 1}"⟩
  let running ← ready.start
  launch running

def respondPermission (groupId sessionId : String) : GroupProgram Unit := do
  let runner ← sessionRunner host groupId sessionId
  let _ ← runner.respondPermission

def cancelSession (groupId sessionId : String) : GroupProgram Unit := do
  let runner ← sessionRunner host groupId sessionId
  let _ ← runner.cancel

def resolveOutcomeUnknown (groupId sessionId : String) (resolution : OutcomeUnknownResolution)
    (evidence : String) : GroupProgram Unit := do
  let _ ← resolveSessionOutcomeUnknown sessionId resolution evidence
  let _ ← ask (.loadSession sessionId)
  let _ ← attempt (ask (.closeExecutor sessionId))
  let _ ← snapshot groupId

/-! ## The process -/

/-- **The world of a new group**, as `createGroup` leaves it. -/
def GroupWorld.created (plan : PlanningProposal) (repository : IntegrationRepository) :
    GroupWorld where
  plan := plan
  state := ⟨plan.definition.groupId, .ready, none, none, 2, [], 0, 0⟩
  temporaries := []
  nextTemporary := 0
  events :=
    [GroupEventInput.event ⟨.groupCreated, none, none, none⟩ plan.definition.groupId 1,
      GroupEventInput.event ⟨.planFrozen, none, none, some s!"plan_hash={plan.definition.planHash}"⟩
        plan.definition.groupId 2]
  sessions sessionId := (mapGet (·.sessionId) plan.sessions sessionId).map initialSessionRuntime
  deliveries _ := none
  integrations := []
  verifications := []
  failures := []
  repairs := []
  repository := repository
  memory := .fresh
  log := []
  headIsPending := false

/-- **The operations of a group.** -/
inductive GroupOperation where
  | snapshot
  | startWave (waveId : String)
  | submitDelivery (delivery : DevelopmentDelivery)
  | integrateDelivery (sessionId : String)
  | runVerification (verificationRunId : Option String)
  | completionProof
  | completeGroup
  | retryDevelopmentSession (sessionId : String)
  | respondPermission (sessionId : String)
  | cancelSession (sessionId : String)
  | resolveOutcomeUnknown (sessionId : String) (resolution : OutcomeUnknownResolution)
      (evidence : String)
  /-- A supervised prompt goes on. -/
  | promptTurn (sessionId : String)
  /-- `record` is called by another part of the process. -/
  | record (input : GroupEventInput)
  | commitWork (branch sha : String)

/-- What an operation returns, as far as something is said of it. -/
inductive GroupReturn where
  | done
  | milestone (milestone : IntegrationMilestone)
  | verification (run : VerificationRun)
  | proof (proof : GroupCompletionProof)
  | session (runtime : DevelopmentSessionRuntime)

def GroupOperation.code (groupId : String) : GroupOperation → GroupProgram GroupReturn
  | .snapshot => do
    let _ ← GroupRuntime.snapshot groupId
    return .done
  | .startWave waveId => do
    GroupRuntime.startWave host groupId waveId
    return .done
  | .submitDelivery delivery => return .session (← GroupRuntime.submitDelivery host delivery)
  | .integrateDelivery sessionId =>
    return .milestone (← GroupRuntime.integrateDelivery host groupId sessionId)
  | .runVerification verificationRunId =>
    return .verification (← GroupRuntime.runVerification groupId verificationRunId)
  | .completionProof => do
    let _ ← GroupRuntime.completionProof host groupId
    return .done
  | .completeGroup => return .proof (← GroupRuntime.completeGroup host groupId)
  | .retryDevelopmentSession sessionId => do
    GroupRuntime.retryDevelopmentSession host groupId sessionId
    return .done
  | .respondPermission sessionId => do
    GroupRuntime.respondPermission host groupId sessionId
    return .done
  | .cancelSession sessionId => do
    GroupRuntime.cancelSession host groupId sessionId
    return .done
  | .resolveOutcomeUnknown sessionId resolution evidence => do
    GroupRuntime.resolveOutcomeUnknown groupId sessionId resolution evidence
    return .done
  | .promptTurn sessionId => do
    GroupRuntime.promptTurn host groupId sessionId
    return .done
  | .record input => do
    let _ ← GroupRuntime.record groupId input
    return .done
  | .commitWork branch sha => do
    ask (.commitWork branch sha)
    return .done

/-- **The process that serves a group.** -/
def groupHost (groupId : String) : StrandHost GroupWorld GroupCall GroupReply GroupError GroupReturn
    GroupOperation GroupEnvironment where
  code := GroupOperation.code host groupId
  perform := performCall host
  restart := GroupWorld.restarted

end Zero3Pilot.GroupRuntime
