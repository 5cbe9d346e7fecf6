import Mathlib.Algebra.Group.Int.Defs
import Zero3Pilot.Foundations.ScriptValue
import Zero3Pilot.WorkerRuntime.Store

/-! # The workflow worker runtime

`Zero3WorkflowWorkerRuntime` of `worker-runtime/v2/workflow-worker-runtime.ts`: work items are split
into stages that wait for other stages; sessions of worker slots claim the stages that are ready,
under a lease, and commit them, which makes further stages ready. An operation that writes runs in a
transaction.

The arguments are those the operations take after their decoding, and a ticket is what its payload
decodes to where its signature is right. Requests are compared as such, not by their hashes. -/

namespace Zero3Pilot.WorkerRuntime

open Procedure (check read ofExcept modify require transaction)

/-! ## Tickets -/

structure TicketClaims where
  (ticketId workflowRunId workerDefinitionId workerSlotId workerSessionId : String)
  allowedCapabilities : List String
  (issuedAt expiresAt : Int)
  generation : Nat

abbrev Ticket := Except String TicketClaims

/-- What the environment brings to an operation: clock readings, and the UUIDs that are drawn. -/
structure Environment where
  (checkedAt now recheckedAt : Int)
  uuid : Uuid
  wakeupUuid : String → Nat → Uuid

abbrev Runtime := Procedure WorkerStore String

def verifyTicket (ticket : Ticket) (now : Int) : Except String TicketClaims := do
  let claims ← ticket
  ensure (claims.issuedAt < claims.expiresAt) "worker binding ticket expiry is invalid"
  ensure (now < claims.expiresAt) "worker binding ticket has expired"
  ensure (claims.issuedAt ≤ now + 300000) "worker binding ticket was issued in the future"
  return claims

structure Verified where
  claims : TicketClaims
  binding : WorkerBinding
  slot : WorkerSlot
  session : PhysicalSession

def SessionState.isGone (state : SessionState) : Bool := state = .lost || state = .closed

def verifiedTicket (ticket : Ticket) (now : Int) : Runtime Verified := do
  let claims ← ofExcept (verifyTicket ticket now)
  let store ← read
  let slot ← require (store.slot? claims.workerSlotId) "worker slot not found"
  let session ← require (store.session? claims.workerSessionId) "physical worker session not found"
  let binding ← require (store.binding? claims.workerSlotId) "workflow worker binding not found"
  let _ ← require (store.run? binding.workflowRunId) "workflow run for binding not found"
  check (binding.workflowRunId = claims.workflowRunId)
    "worker binding ticket workflowRunId scope mismatch"
  check (binding.workerDefinitionId = claims.workerDefinitionId)
    "worker binding ticket workerDefinitionId scope mismatch"
  check (slot.generation = claims.generation) "worker binding ticket generation is stale"
  check (slot.activeWorkerSessionId = some session.workerSessionId)
    "worker binding ticket session is no longer active"
  check (session.generation = slot.generation) "physical worker session generation is stale"
  check (!session.state.isGone) "physical worker session is LOST or CLOSED"
  return ⟨claims, binding, slot, session⟩

def idempotent (scopeKey key : String) (request : WorkerRequest) (operation : Runtime WorkerAnswer) :
    Runtime WorkerAnswer := do
  let store ← read
  match store.idempotency.find? fun row => row.scopeKey = scopeKey && row.idempotencyKey = key with
  | some row => do
    check (row.request = request)
      "workflow worker idempotency key was reused with different content"
    return row.response
  | none => do
    let response ← operation
    modify fun store => { store with
      idempotency := store.idempotency ++ [⟨scopeKey, key, request, response⟩] }
    return response

/-! ## Derived states -/

def recalculateStageReadiness (stageRunId : String) : Runtime StageStatus := do
  let store ← read
  let row ← require (store.stage? stageRunId) "StageRun not found"
  if row.status = .pending ∨ row.status = .ready then do
    let status := if store.unresolved stageRunId = 0 then .ready else .pending
    modify fun store => store.updateStage stageRunId fun row => { row with status := status }
    return status
  else return row.status

def itemStatus (statuses : List StageStatus) : ItemStatus :=
  if statuses.all (· = .completed) then .completed
  else if statuses.any fun status => status = .failed || status = .blocked then .blocked
  else if statuses.any fun status => status = .claimed || status = .running then .running
  else if statuses.any (· = .ready) then .ready
  else .pending

def recalculateWorkItem (runId itemId : String) : Runtime Bool := do
  let store ← read
  let item ← require (store.item? runId itemId) "WorkItem not found"
  let rows := store.stages.filter fun stage => stage.workflowRunId = runId && stage.workItemId = itemId
  check (rows ≠ []) "WorkItem has no StageRuns"
  let status := itemStatus (rows.map (·.status))
  modify fun store => { store with
    items := updateRows store.items
      (fun item => item.workflowRunId = runId && item.workItemId = itemId)
      fun item => { item with status := status } }
  return item.status ≠ .completed && status = .completed

def WorkerStore.wakeable (store : WorkerStore) (runId definitionId : String) : List WorkerSlot :=
  (store.slots.filter fun slot =>
    slot.workflowRunId = runId && slot.workerDefinitionId = definitionId &&
      (slot.state = .waiting || slot.state = .idle) &&
      (slot.activeWorkerSessionId.bind store.session?).any (fun session =>
        session.state = .waiting || session.state = .active) &&
      (store.currentClaims slot.workerSlotId).isEmpty)
    |>.insertionSort fun slot other => slot.workerSlotId ≤ other.workerSlotId

/-- `refreshWakeupsTx`: what it leaves. -/
def WorkerStore.refreshedWakeups (store : WorkerStore) (runId definitionId : String) (now : Int)
    (wakeupUuid : String → Nat → Uuid) : WorkerStore :=
  let own (queue : QueueState) : Bool :=
    queue.workflowRunId = runId && queue.workerDefinitionId = definitionId
  let readyCount := store.readyCount runId definitionId
  let prior := (store.queues.find? own).getD ⟨runId, definitionId, 0, 0⟩
  let wakes : Bool := prior.readyCount = 0 && 0 < readyCount
  let generation := if wakes then prior.queueGeneration + 1 else prior.queueGeneration
  let woken := (if wakes then store.wakeable runId definitionId else []).filter fun slot =>
    !store.wakeups.any fun wakeup =>
      wakeup.workerSlotId = slot.workerSlotId && wakeup.queueGeneration = generation
  { store with
    wakeups := store.wakeups ++ woken.map fun slot => {
      wakeupId := "wake-" ++ (wakeupUuid slot.workerSlotId generation).text
      workflowRunId := runId
      workerDefinitionId := definitionId
      workerSlotId := slot.workerSlotId
      workerSessionId := slot.activeWorkerSessionId.getD ""
      queueGeneration := generation
      state := .pending
      attemptCount := 0
      nextAttemptAt := now
      createdAt := now }
    queues := store.queues.filter (!own ·) ++ [⟨runId, definitionId, readyCount, generation⟩] }

def refreshWakeupsTx (runId definitionId : String) (environment : Environment) : Runtime Unit :=
  modify fun store =>
    store.refreshedWakeups runId definitionId environment.now environment.wakeupUuid

def WorkerStore.definitionsOf (store : WorkerStore) (stageRunIds : List String) : List String :=
  (stageRunIds.filterMap fun id => (store.stage? id).map (·.workerDefinitionId)).dedup

/-! ## Runs, bindings and work items -/

def ensureWorkflowRun (workflowRunId taskId moduleId moduleVersion metadata : String) :
    Runtime WorkerAnswer := transaction do
  let store ← read
  match store.run? workflowRunId with
  | some existing => do
    check (existing.taskId = taskId ∧ existing.moduleId = moduleId ∧
        existing.moduleVersion = moduleVersion ∧ existing.metadata = metadata)
      "workflow run identity conflicts with existing run"
    return .done
  | none => do
    modify fun store => { store with
      runs := store.runs ++ [⟨workflowRunId, taskId, moduleId, moduleVersion, false, metadata⟩] }
    return .done

def ensureWorkerBinding (binding : WorkerBinding) (moduleId moduleVersion : String) :
    Runtime WorkerAnswer := transaction do
  let store ← read
  let run ← require (store.run? binding.workflowRunId)
    "workflow run must exist before worker binding"
  check (run.moduleId = moduleId ∧ run.moduleVersion = moduleVersion)
    "worker binding module identity does not match workflow run"
  match store.binding? binding.workerSlotId with
  | some current => do
    check (current = binding) "worker binding conflicts with existing slot definition"
    return .done
  | none => do
    modify fun store => { store with
      bindings := store.bindings ++ [binding]
      slots := store.slots ++ [⟨binding.workerSlotId, binding.workflowRunId,
        binding.workerDefinitionId, 1, .idle, none⟩] }
    return .done

def StageSeed.row (seed : StageSeed) (runId itemId : String) (position : Nat) : StageRun where
  stageRunId := seed.stageRunId
  workflowRunId := runId
  workItemId := itemId
  ordinal := seed.ordinal.getD (position + 1)
  workerDefinitionId := seed.workerDefinitionId
  requiredCapability := seed.requiredCapability
  status := .pending
  expectedOutputs := seed.expectedOutputs
  attempts := 0
  maxAttempts := seed.maxAttempts
  claimId := none

def addStage (runId itemId : String) (entry : StageSeed × Nat) : Runtime Unit := do
  let store ← read
  check (store.stage? entry.1.stageRunId = none) ("StageRun already exists: " ++ entry.1.stageRunId)
  modify fun store => { store with stages := store.stages ++ [entry.1.row runId itemId entry.2] }
  check entry.1.dependsOn.Nodup
    ("StageRun " ++ entry.1.stageRunId ++ " contains duplicate dependencies")
  check (entry.1.stageRunId ∉ entry.1.dependsOn)
    ("StageRun " ++ entry.1.stageRunId ++ " cannot depend on itself")

def addItem (runId : String) (nextOrdinal : Nat) (item : WorkItemSeed) : Runtime Nat := do
  check (item.stages ≠ []) ("WorkItem " ++ item.workItemId ++ " must contain at least one StageRun")
  let store ← read
  check (store.item? runId item.workItemId).isNone ("WorkItem already exists: " ++ item.workItemId)
  modify fun store => { store with
    items := store.items ++ [⟨runId, item.workItemId, item.ordinal.getD nextOrdinal, .pending⟩] }
  item.stages.zipIdx.forM (addStage runId item.workItemId)
  return if item.ordinal.isNone then nextOrdinal + 1 else nextOrdinal

def addDependency (runId stageRunId parent : String) : Runtime Unit := do
  let store ← read
  check ((store.stage? parent).any fun row => row.workflowRunId = runId)
    ("unknown or cross-run dependency " ++ parent ++ " for " ++ stageRunId)
  modify fun store => { store with dependencies := store.dependencies ++ [(stageRunId, parent)] }

def addWorkItems (runId : String) (items : List WorkItemSeed) (key : String)
    (environment : Environment) : Runtime WorkerAnswer := do
  check (items ≠ []) "items must contain at least one WorkItem"
  transaction (idempotent ("workflow:" ++ runId ++ ":seed") key (.addWorkItems runId items) do
    let store ← read
    let _ ← require (store.run? runId) "workflow run not found"
    let ordinals := (store.items.filter (·.workflowRunId = runId)).map (·.ordinal)
    let _ ← items.foldlM (addItem runId) (ordinals.foldl max 0 + 1)
    let seeds := items.flatMap (·.stages)
    seeds.forM fun seed => seed.dependsOn.forM (addDependency runId seed.stageRunId)
    seeds.forM fun seed => do
      let _ ← recalculateStageReadiness seed.stageRunId
    items.forM fun item => do
      let _ ← recalculateWorkItem runId item.workItemId
    let added ← read
    (added.definitionsOf (seeds.map (·.stageRunId))).forM fun definitionId =>
      refreshWakeupsTx runId definitionId environment
    return .done)

/-! ## Claims -/

/-- What the expiry of a claim or a retryable block makes of a stage. -/
def StageRun.givenBack (row : StageRun) : StageRun :=
  { row with
    status := if row.maxAttempts ≤ row.attempts then .failed else .ready
    claimId := none }

def expireClaim (runId : String) (environment : Environment) (claim : WorkflowClaim) :
    Runtime Unit := do
  let store ← read
  (store.unitsOf claim.claimId).forM fun stage =>
    if stage.status = .claimed ∨ stage.status = .running then do
      modify fun store => store.updateStage stage.stageRunId fun row =>
        { row with status := stage.givenBack.status, claimId := none }
      let _ ← recalculateWorkItem runId stage.workItemId
    else pure ()
  modify fun store => store.updateClaim claim.claimId fun row => { row with status := .expired }
  refreshWakeupsTx runId claim.workerDefinitionId environment

def expireClaimsTx (runId : String) (expiredAt : Int) (environment : Environment) :
    Runtime (List String) := do
  let store ← read
  let due := (store.claims.filter fun claim =>
      claim.workflowRunId = runId && claim.status = .active && claim.leaseUntil ≤ expiredAt)
    |>.insertionSort fun claim other => claim.createdAt ≤ other.createdAt
  due.forM (expireClaim runId environment)
  return due.map (·.claimId)

/-- `claimView`: the units by their ordinals. -/
def WorkerStore.claimView (store : WorkerStore) (claim : WorkflowClaim) : ClaimView where
  claimId := claim.claimId
  leaseUntil := claim.leaseUntil
  units := ((store.unitsOf claim.claimId).insertionSort fun row other =>
    row.ordinal < other.ordinal ∨ (row.ordinal = other.ordinal ∧ row.stageRunId ≤ other.stageRunId)).map
      (·.stageRunId)

/-- The order of stages: by the ordinals of their items, their own and their identifiers. -/
def WorkerStore.Earlier (store : WorkerStore) (row other : StageRun) : Prop :=
  let ordinal (row : StageRun) :=
    ((store.item? row.workflowRunId row.workItemId).map (·.ordinal)).getD 0
  ordinal row < ordinal other ∨ (ordinal row = ordinal other ∧ (row.ordinal < other.ordinal ∨
      (row.ordinal = other.ordinal ∧ row.stageRunId ≤ other.stageRunId)))

instance (store : WorkerStore) : DecidableRel store.Earlier := fun row other => by
  unfold WorkerStore.Earlier
  infer_instance

def WorkerStore.readyRows (store : WorkerStore) (runId definitionId : String) : List StageRun :=
  (store.stages.filter fun row =>
    row.workflowRunId = runId && row.workerDefinitionId = definitionId && row.status = .ready &&
      row.attempts < row.maxAttempts && (store.item? runId row.workItemId).isSome).insertionSort
    store.Earlier

def WorkerStore.withUnit (store : WorkerStore) (claimId stageRunId : String) : WorkerStore :=
  { store.updateStage stageRunId fun row =>
      if row.status = .ready then
        { row with status := .claimed, claimId := some claimId, attempts := row.attempts + 1 }
      else row with
    units := store.units ++ [(claimId, stageRunId)] }

def createClaimTx (verified : Verified) (maxItems leaseSeconds : Nat) (environment : Environment) :
    Runtime (Option ClaimView) := do
  let store ← read
  match (store.currentClaims verified.binding.workerSlotId).find? fun claim =>
      claim.workerSessionId = verified.session.workerSessionId with
  | some existing => return some (store.claimView existing)
  | none =>
    if verified.slot.state = .rotating ∨ verified.slot.state = .closed ∨
        verified.slot.state = .lost then
      return none
    else do
      let runId := verified.binding.workflowRunId
      let rows := (store.readyRows runId verified.binding.workerDefinitionId).take maxItems
      let eligible := rows.filter fun row =>
        verified.claims.allowedCapabilities.contains row.requiredCapability
      if eligible = [] then return none
      else do
        let claim : WorkflowClaim := {
          claimId := "wfclaim-" ++ environment.uuid.text
          workflowRunId := runId
          workerDefinitionId := verified.binding.workerDefinitionId
          workerSlotId := verified.binding.workerSlotId
          workerSessionId := verified.session.workerSessionId
          generation := verified.claims.generation
          status := .active
          leaseUntil := environment.now + leaseSeconds * 1000
          createdAt := environment.now }
        modify fun store => { store with claims := store.claims ++ [claim] }
        eligible.forM fun row => do
          modify fun store => store.withUnit claim.claimId row.stageRunId
          let _ ← recalculateWorkItem runId row.workItemId
        modify fun store => (store.updateSession verified.session.workerSessionId
          fun row => { row with state := .active }).updateSlot verified.binding.workerSlotId
            fun row => { row with state := .active }
        refreshWakeupsTx runId verified.binding.workerDefinitionId environment
        let after ← read
        return some (after.claimView claim)

def Verified.scopeKey (verified : Verified) : String :=
  "workflow:" ++ verified.binding.workflowRunId ++ ":session:" ++ verified.session.workerSessionId

/-- How many stages a session asks for, within its batch size. -/
def Verified.batch (verified : Verified) (maxItems : Option Nat) : Except String Nat := do
  ensure (∀ count ∈ maxItems, 1 ≤ count ∧ count ≤ 100) "maxItems must be an integer between 1 and 100"
  return min verified.binding.maxBatchSize (maxItems.getD verified.binding.maxBatchSize)

def leaseOf (leaseSeconds : Option Nat) : Except String Nat := do
  ensure (∀ count ∈ leaseSeconds, 1 ≤ count ∧ count ≤ 86400)
    "leaseSeconds must be an integer between 1 and 86400"
  return leaseSeconds.getD 1800

def markWaiting (verified : Verified) : Runtime Unit :=
  modify fun store => (store.updateSession verified.session.workerSessionId
    fun row => { row with state := .waiting }).updateSlot verified.binding.workerSlotId
      fun row => { row with state := .waiting }

def claimWorkV2 (ticket : Ticket) (maxItems leaseSeconds : Option Nat) (key : String)
    (environment : Environment) : Runtime WorkerAnswer := do
  let verified ← verifiedTicket ticket environment.checkedAt
  check (verified.session.state ≠ .starting)
    "physical worker session must call bootstrap_worker before claim_work"
  let maxItems ← ofExcept (verified.batch maxItems)
  let leaseSeconds ← ofExcept (leaseOf leaseSeconds)
  transaction (idempotent verified.scopeKey key
    (.claimWork verified.claims.ticketId maxItems leaseSeconds) do
      let _ ← expireClaimsTx verified.binding.workflowRunId environment.now environment
      let refreshed ← verifiedTicket ticket environment.recheckedAt
      match ← createClaimTx refreshed maxItems leaseSeconds environment with
      | none => do
        markWaiting refreshed
        return .noWorkAvailable
      | some claim => return .claimed claim)

def requireActiveClaim (verified : Verified) (claimId : String) (now : Int) :
    Runtime WorkflowClaim := do
  let store ← read
  let claim ← require (store.claim? claimId) "workflow claim not found"
  check (claim.workflowRunId = verified.binding.workflowRunId ∧
      claim.workerSlotId = verified.binding.workerSlotId ∧
      claim.workerSessionId = verified.session.workerSessionId ∧
      claim.generation = verified.claims.generation)
    "workflow claim is outside the Worker Binding Ticket scope"
  check (claim.status = .active) "workflow claim is not ACTIVE"
  check (now < claim.leaseUntil) "workflow claim lease has expired"
  return claim

def reportProgressV2 (ticket : Ticket) (claimId report : String) (leaseSeconds : Option Nat)
    (key : String) (environment : Environment) : Runtime WorkerAnswer := do
  let verified ← verifiedTicket ticket environment.checkedAt
  let leaseSeconds ← ofExcept (leaseOf leaseSeconds)
  transaction (idempotent verified.scopeKey key (.reportProgress claimId report leaseSeconds) do
    let claim ← requireActiveClaim verified claimId environment.now
    modify fun store => store.updateClaim claim.claimId fun row =>
      { row with leaseUntil := environment.now + leaseSeconds * 1000 }
    let store ← read
    (store.unitsOf claim.claimId).forM fun stage =>
      if stage.status = .claimed then
        modify fun store => store.updateStage stage.stageRunId fun row =>
          { row with status := .running }
      else pure ()
    return .done)

/-! ## Commits -/

def outputsSatisfied (stage : StageRun) (artifacts : List ArtifactRef) : Bool :=
  stage.expectedOutputs.all fun output => !output.required || scriptTrim output.logicalName = "" ||
    artifacts.any fun artifact => artifact.logicalName = scriptTrim output.logicalName

def releaseDependent (released : List String) (dependent : String) : Runtime (List String) := do
  let store ← read
  let next ← recalculateStageReadiness dependent
  return if (store.stage? dependent).all (·.status ≠ .ready) ∧ next = .ready then
    released ++ [dependent] else released

/-- One pass of the loop over the stages of a claim: the stages released so far and the items
completed so far. -/
def commitStage (runId : String) (artifacts : List ArtifactRef)
    (progress : List String × List String) (stage : StageRun) : Runtime (List String × List String) := do
  check (outputsSatisfied stage (artifacts.filter (·.stageRunId = stage.stageRunId)))
    ("required output missing for " ++ stage.stageRunId)
  modify fun store => store.updateStage stage.stageRunId fun row =>
    { row with status := .completed, claimId := none }
  let store ← read
  let dependents := ((store.dependencies.filter (·.2 = stage.stageRunId)).map Prod.fst).insertionSort
    (· ≤ ·)
  let released ← dependents.foldlM releaseDependent progress.1
  let becameCompleted ← recalculateWorkItem runId stage.workItemId
  return (released, if becameCompleted then (progress.2 ++ [stage.workItemId]).dedup else progress.2)

def commitAndClaimNext (ticket : Ticket) (claimId : String) (artifacts : List ArtifactRef)
    (maxItems leaseSeconds : Option Nat) (key : String) (environment : Environment) :
    Runtime WorkerAnswer := do
  let verified ← verifiedTicket ticket environment.checkedAt
  let maxItems ← ofExcept (verified.batch maxItems)
  let leaseSeconds ← ofExcept (leaseOf leaseSeconds)
  let runId := verified.binding.workflowRunId
  let sessionId := verified.session.workerSessionId
  transaction (idempotent verified.scopeKey key
    (.commitAndClaimNext claimId artifacts maxItems leaseSeconds) do
      let claim ← requireActiveClaim verified claimId environment.now
      let store ← read
      let stages := (store.unitsOf claim.claimId).insertionSort fun row other =>
        row.ordinal < other.ordinal ∨
          (row.ordinal = other.ordinal ∧ row.stageRunId ≤ other.stageRunId)
      artifacts.forM fun artifact => do
        check (artifact.workflowRunId = runId ∧ ∃ stage ∈ stages, stage.stageRunId = artifact.stageRunId)
          "artifact is outside the active claim"
        check (artifact.workerDefinitionId = verified.binding.workerDefinitionId ∧
            artifact.workerSlotId = verified.binding.workerSlotId ∧
            artifact.workerSessionId = sessionId)
          "artifact producer does not match the active Worker Binding"
      let progress ← stages.foldlM (commitStage runId artifacts) ([], [])
      modify fun store => store.updateClaim claim.claimId fun row => { row with status := .completed }
      let committed ← read
      (committed.definitionsOf progress.1).forM fun definitionId =>
        refreshWakeupsTx runId definitionId environment
      let processed := if progress.2 = [] then (stages.map (·.workItemId)).dedup.length
        else progress.2.length
      modify fun store => store.updateSession sessionId fun row =>
        { row with processedItemCount := row.processedItemCount + processed }
      let store ← read
      let session ← require (store.session? sessionId) "physical worker session not found"
      let rotates : Bool := verified.binding.maxItemsPerPhysicalSession.any
        (· ≤ session.processedItemCount)
      let next ← if rotates then do
          modify fun store => (store.updateSession sessionId fun row =>
            { row with state := .rotating }).updateSlot verified.binding.workerSlotId
              fun row => { row with state := .rotating }
          pure none
        else do
          let refreshed ← verifiedTicket ticket environment.recheckedAt
          createClaimTx refreshed maxItems leaseSeconds environment
      modify fun store => { store with
        runs := if store.stages.all fun row => row.workflowRunId ≠ runId || row.status = .completed then
          updateRows store.runs (·.workflowRunId = runId) fun run => { run with completed := true }
          else store.runs }
      return .committed next rotates)

def Disposition.claimStatus : Disposition → ClaimStatus
  | .blockedRetryable => .blockedRetryable
  | .waitingHuman => .waitingHuman
  | .blockedTerminal => .blockedTerminal

def StageRun.blockedBy (row : StageRun) : Disposition → StageStatus
  | .blockedRetryable => row.givenBack.status
  | .waitingHuman => .blocked
  | .blockedTerminal => .failed

def reportBlockedV2 (ticket : Ticket) (claimId : String) (disposition : Disposition)
    (reason key : String) (environment : Environment) : Runtime WorkerAnswer := do
  let verified ← verifiedTicket ticket environment.checkedAt
  transaction (idempotent verified.scopeKey key (.reportBlocked claimId disposition reason) do
    let claim ← requireActiveClaim verified claimId environment.now
    let store ← read
    (store.unitsOf claim.claimId).forM fun stage => do
      modify fun store => store.updateStage stage.stageRunId fun row =>
        { row with status := stage.blockedBy disposition, claimId := none }
      let _ ← recalculateWorkItem verified.binding.workflowRunId stage.workItemId
    modify fun store => store.updateClaim claim.claimId fun row =>
      { row with status := disposition.claimStatus }
    markWaiting verified
    refreshWakeupsTx verified.binding.workflowRunId verified.binding.workerDefinitionId environment
    return .done)

/-! ## Sessions -/

def openPhysicalSession (slotId logicalSessionId : String) (environment : Environment) :
    Runtime WorkerAnswer := transaction do
  let store ← read
  let binding ← require (store.binding? slotId) "workflow worker binding not found"
  let _ ← require (store.run? binding.workflowRunId) "workflow run for binding not found"
  let slot ← require (store.slot? slotId) "worker slot not found"
  let _ ← expireClaimsTx binding.workflowRunId environment.now environment
  let open_ ← slot.activeWorkerSessionId.elim (pure none) fun id =>
    some <$> require (store.session? id) "physical worker session not found"
  check (∀ session ∈ open_, session.state.isGone) "worker slot already has an active physical session"
  let sessionId := "gptws-" ++ environment.uuid.text
  modify fun store => { store.updateSlot slotId fun row =>
      { row with activeWorkerSessionId := some sessionId, state := .active } with
    sessions := store.sessions ++
      [⟨sessionId, slotId, slot.generation, logicalSessionId, .starting, 0⟩] }
  return .opened sessionId slot.generation

def bootstrapWorker (ticket : Ticket) (environment : Environment) : Runtime WorkerAnswer := do
  let verified ← verifiedTicket ticket environment.checkedAt
  transaction do
    modify fun store => (store.updateSession verified.session.workerSessionId
      fun row => { row with state := .active }).updateSlot verified.binding.workerSlotId
        fun row => { row with state := .active }
    return .done

def recoverWorker (ticket : Ticket) (environment : Environment) : Runtime WorkerAnswer := do
  let verified ← verifiedTicket ticket environment.checkedAt
  transaction do
    let _ ← expireClaimsTx verified.binding.workflowRunId environment.now environment
    let refreshed ← verifiedTicket ticket environment.recheckedAt
    let store ← read
    let active := (store.currentClaims refreshed.binding.workerSlotId).find? fun claim =>
      claim.workerSessionId = refreshed.session.workerSessionId
    return .recovered (active.map (·.claimId))
      (store.readyCount refreshed.binding.workflowRunId refreshed.binding.workerDefinitionId)
      (refreshed.slot.state = .rotating)

def rotatePhysicalSession (slotId logicalSessionId : String) (environment : Environment) :
    Runtime WorkerAnswer := transaction do
  let store ← read
  let binding ← require (store.binding? slotId) "workflow worker binding not found"
  let _ ← require (store.run? binding.workflowRunId) "workflow run for binding not found"
  let slot ← require (store.slot? slotId) "worker slot not found"
  let _ ← expireClaimsTx binding.workflowRunId environment.now environment
  let store ← read
  let close (state : SessionState) (store : WorkerStore) : WorkerStore :=
    slot.activeWorkerSessionId.elim store fun id => store.updateSession id fun row =>
      { row with state := state }
  match store.currentClaims slotId with
  | claim :: claims => do
    modify fun store => close .rotating (store.updateSlot slotId fun row =>
      { row with state := .rotating })
    return .rotationPending ((claim :: claims).map (·.claimId))
  | [] => do
    check (slot.generation < 9007199254740991) "worker generation cannot advance"
    let sessionId := "gptws-" ++ environment.uuid.text
    modify fun store => (close .closed { store with
      sessions := store.sessions ++
        [⟨sessionId, slotId, slot.generation + 1, logicalSessionId, .starting, 0⟩] }).updateSlot
          slotId fun row => { row with
            generation := slot.generation + 1
            state := .active
            activeWorkerSessionId := some sessionId }
    return .opened sessionId (slot.generation + 1)

def expireLeases (runId : String) (expiredAt : Option Int) (environment : Environment) :
    Runtime WorkerAnswer := transaction do
  let expired ← expireClaimsTx runId (expiredAt.getD environment.now) environment
  return .expired expired

/-! ## Wakeups -/

def WorkerStore.pendingWakeup? (store : WorkerStore) (id : String) : Option Wakeup :=
  store.wakeups.find? fun wakeup => wakeup.wakeupId = id && wakeup.state = .pending

/-- A wakeup may still be delivered. -/
def WorkerStore.wakes (store : WorkerStore) (wakeup : Wakeup) : Bool :=
  0 < store.readyCount wakeup.workflowRunId wakeup.workerDefinitionId &&
    (store.currentClaims wakeup.workerSlotId).isEmpty &&
    (store.slot? wakeup.workerSlotId).any (fun slot =>
      slot.activeWorkerSessionId = some wakeup.workerSessionId &&
        (slot.state = .waiting || slot.state = .idle)) &&
    (store.session? wakeup.workerSessionId).any fun session =>
      session.state = .waiting || session.state = .active

def pendingWakeups (limit : Nat) (environment : Environment) : Runtime WorkerAnswer := do
  check (1 ≤ limit ∧ limit ≤ 1000) "wakeup limit must be an integer between 1 and 1000"
  let store ← read
  let due := ((store.wakeups.filter fun wakeup =>
      wakeup.state = .pending && wakeup.nextAttemptAt ≤ environment.now &&
        (store.slot? wakeup.workerSlotId).isSome && (store.session? wakeup.workerSessionId).isSome)
    |>.insertionSort fun wakeup other => wakeup.createdAt < other.createdAt ∨
      (wakeup.createdAt = other.createdAt ∧ wakeup.wakeupId ≤ other.wakeupId)).take limit
  (due.filter (!store.wakes ·)).forM fun wakeup => modify fun store =>
    store.updateWakeup wakeup.wakeupId fun row => { row with state := .suppressed }
  return .wakeups ((due.filter store.wakes).map (·.wakeupId))

def markWakeupDelivered (id : String) : Runtime WorkerAnswer := transaction do
  let store ← read
  let wakeup ← require (store.wakeups.find? (·.wakeupId = id)) "wakeup not found"
  if wakeup.state = .delivered then return .done
  else do
    check (wakeup.state = .pending) "wakeup is SUPPRESSED"
    modify fun store => store.updateWakeup id fun row =>
      { row with state := .delivered, attemptCount := row.attemptCount + 1 }
    return .done

def deferWakeup (id : String) (environment : Environment) : Runtime WorkerAnswer := do
  let store ← read
  match store.pendingWakeup? id with
  | none => return .done
  | some wakeup => do
    modify fun store => store.updateWakeup id fun row => { row with
      attemptCount := wakeup.attemptCount + 1
      nextAttemptAt := environment.now + 1000 * min 300 (15 * 2 ^ min wakeup.attemptCount 4) }
    return .done

def suppressWakeup (id : String) : Runtime WorkerAnswer := do
  modify fun store => store.updateWakeup id fun row =>
    if row.state = .pending then { row with state := .suppressed } else row
  return .done

def requireRotationForWakeup (id : String) : Runtime WorkerAnswer := transaction do
  let store ← read
  match store.pendingWakeup? id with
  | none => return .done
  | some wakeup => do
    modify fun store => store.updateWakeup id fun row => { row with state := .suppressed }
    modify fun store => store.updateSlot wakeup.workerSlotId fun row =>
      if row.activeWorkerSessionId = some wakeup.workerSessionId then
        { row with state := .rotating }
      else row
    modify fun store => store.updateSession wakeup.workerSessionId fun row =>
      if row.state ≠ .closed then { row with state := .rotating } else row
    return .done

/-! ## The runtime -/

inductive WorkerOperation where
  | ensureWorkflowRun (workflowRunId taskId moduleId moduleVersion metadata : String)
  | ensureWorkerBinding (binding : WorkerBinding) (moduleId moduleVersion : String)
  | addWorkItems (runId : String) (items : List WorkItemSeed) (key : String)
  | openPhysicalSession (slotId logicalSessionId : String)
  | bootstrapWorker (ticket : Ticket)
  | claimWork (ticket : Ticket) (maxItems leaseSeconds : Option Nat) (key : String)
  | reportProgress (ticket : Ticket) (claimId report : String) (leaseSeconds : Option Nat)
      (key : String)
  | commitAndClaimNext (ticket : Ticket) (claimId : String) (artifacts : List ArtifactRef)
      (maxItems leaseSeconds : Option Nat) (key : String)
  | reportBlocked (ticket : Ticket) (claimId : String) (disposition : Disposition)
      (reason key : String)
  | recoverWorker (ticket : Ticket)
  | rotatePhysicalSession (slotId logicalSessionId : String)
  | expireLeases (runId : String) (expiredAt : Option Int)
  | pendingWakeups (limit : Nat)
  | markWakeupDelivered (id : String)
  | deferWakeup (id : String)
  | suppressWakeup (id : String)
  | requireRotationForWakeup (id : String)

structure WorkerCall where
  operation : WorkerOperation
  environment : Environment

/-- **The runtime serving calls**, each on its own. -/
def serve (call : WorkerCall) : Runtime WorkerAnswer :=
  match call.operation with
  | .ensureWorkflowRun workflowRunId taskId moduleId moduleVersion metadata =>
    ensureWorkflowRun workflowRunId taskId moduleId moduleVersion metadata
  | .ensureWorkerBinding binding moduleId moduleVersion =>
    ensureWorkerBinding binding moduleId moduleVersion
  | .addWorkItems runId items key => addWorkItems runId items key call.environment
  | .openPhysicalSession slotId logicalSessionId =>
    openPhysicalSession slotId logicalSessionId call.environment
  | .bootstrapWorker ticket => bootstrapWorker ticket call.environment
  | .claimWork ticket maxItems leaseSeconds key =>
    claimWorkV2 ticket maxItems leaseSeconds key call.environment
  | .reportProgress ticket claimId report leaseSeconds key =>
    reportProgressV2 ticket claimId report leaseSeconds key call.environment
  | .commitAndClaimNext ticket claimId artifacts maxItems leaseSeconds key =>
    commitAndClaimNext ticket claimId artifacts maxItems leaseSeconds key call.environment
  | .reportBlocked ticket claimId disposition reason key =>
    reportBlockedV2 ticket claimId disposition reason key call.environment
  | .recoverWorker ticket => recoverWorker ticket call.environment
  | .rotatePhysicalSession slotId logicalSessionId =>
    rotatePhysicalSession slotId logicalSessionId call.environment
  | .expireLeases runId expiredAt => expireLeases runId expiredAt call.environment
  | .pendingWakeups limit => pendingWakeups limit call.environment
  | .markWakeupDelivered id => markWakeupDelivered id
  | .deferWakeup id => deferWakeup id call.environment
  | .suppressWakeup id => suppressWakeup id
  | .requireRotationForWakeup id => requireRotationForWakeup id

abbrev runtimeMachine : Machine WorkerStore WorkerCall (Except String WorkerAnswer) :=
  Procedure.machine serve

end Zero3Pilot.WorkerRuntime
