import Zero3Pilot.GroupRuntime.SessionLifecycle

/-! # Integration

`integration/integration-queue.ts` and `integration/integration-controller.ts`. The runtime makes a
queue and a controller for every call, with one delivery in the queue. -/

namespace Zero3Pilot.GroupRuntime

structure IntegrationQueueItem where
  session : PlannedSession
  delivery : DevelopmentDelivery

def enqueue (session : PlannedSession) (delivery : DevelopmentDelivery)
    (waves : List DevelopmentWave) : Except String IntegrationQueueItem := do
  ensure (session.sessionId = delivery.sessionId ∧ session.executionId = delivery.executionId)
    "integration queue identity mismatch"
  ensure ((waves.find? fun candidate => candidate.waveId = session.waveId).isSome)
    s!"unknown wave {session.waveId}"
  return ⟨session, delivery⟩

def IntegrationQueueItem.isReady (item : IntegrationQueueItem) (integratedSessionIds : List String) :
    Bool :=
  item.session.dependencies.all integratedSessionIds.contains

def IntegrationQueueItem.runId (host : RuntimeHost) (item : IntegrationQueueItem) (baseSha : String) :
    String :=
  "I-" ++ String.ofList ((host.sha256
    s!"{baseSha}:{item.session.sessionId}:{item.delivery.deliveryHash}").toList.take 16)

variable (host : RuntimeHost)

def rejectIntegration (item : IntegrationQueueItem) (beforeSha : String) (status : IntegrationStatus)
    (reasons : List String) (headSha : String) : GroupProgram IntegrationMilestone := do
  let createdAt ← ask .now
  let record : IntegrationMilestone := {
    integrationRunId := item.runId host beforeSha
    groupId := item.session.groupId
    baseSha := beforeSha
    headSha
    deliveryHashes := [item.delivery.deliveryHash]
    mergedSessionIds := []
    status
    conflicts := reasons
    createdAt }
  ask (.writeIntegration record)
  return record

def acceptIntegration (item : IntegrationQueueItem) (beforeSha headSha : String) :
    GroupProgram IntegrationMilestone := do
  let createdAt ← ask .now
  let record : IntegrationMilestone := {
    integrationRunId := item.runId host beforeSha
    groupId := item.session.groupId
    baseSha := beforeSha
    headSha
    deliveryHashes := [item.delivery.deliveryHash]
    mergedSessionIds := [item.session.sessionId]
    status := .merged
    conflicts := []
    createdAt }
  ask (.writeIntegration record)
  return record

/-- What follows a merge that did not conflict. -/
def concludeMerge (item : IntegrationQueueItem) (beforeSha : String)
    (merge : IntegrationMergeResult) : GroupProgram IntegrationMilestone := do
  match ← ask (.postMergeCheck merge.headSha) with
  | some (false, detail) =>
    ask (.resetTo beforeSha)
    rejectIntegration host item beforeSha .failed
      ["post-merge check failed: " ++ detail.getD "unknown"] beforeSha
  | _ => acceptIntegration host item beforeSha merge.headSha

def mergeBranch (item : IntegrationQueueItem) (beforeSha : String) :
    GroupProgram IntegrationMilestone := do
  let merge ← ask (.merge item.session.branch)
  if merge.conflict then
    rejectIntegration host item beforeSha .conflict [merge.detail.getD "Git merge conflict"]
      merge.headSha
  else concludeMerge host item beforeSha merge

/-- What speaks against a merge before it is tried. -/
def integrationObstacles (item : IntegrationQueueItem) : GroupProgram (Option (List String)) := do
  let branch ← ask .currentBranch
  if branch ≠ item.session.integrationRef then
    return some ["integration workspace is on the wrong branch"]
  let clean ← ask .statusClean
  if !clean then return some ["integration workspace is dirty before merge"]
  let branchHead ← ask (.branchHead item.session.branch)
  if branchHead ≠ item.delivery.headSha then
    return some ["worker branch head does not match Delivery head"]
  let deliveryGate ← ask (.verifyDelivery item.session item.delivery)
  if ¬ deliveryGate.Accepts then
    return some (deliveryGate.reasons.map fun reason => s!"delivery: {reason}")
  return none

def integrateNext (item : IntegrationQueueItem) : GroupProgram IntegrationMilestone := do
  let beforeSha ← ask .currentHead
  match ← integrationObstacles item with
  | some reasons => rejectIntegration host item beforeSha .failed reasons beforeSha
  | none => mergeBranch host item beforeSha

end Zero3Pilot.GroupRuntime
