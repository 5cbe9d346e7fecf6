import Mathlib.Data.List.Sort
import Zero3Pilot.Foundations.Uuid
import Zero3Pilot.Foundations.Views

/-! # The store of the workflow worker runtime

The tables of `Zero3WorkflowWorkerStore`, each the list of its rows in the order in which they were
inserted. Times are integers (milliseconds). Columns that no operation reads to decide anything, and
the table of events, are left out. -/

namespace Zero3Pilot.WorkerRuntime

/-! ## Rows -/

structure WorkflowRun where
  (workflowRunId taskId moduleId moduleVersion : String)
  completed : Bool
  metadata : String

/-- A row of `workflow_worker_bindings`, without its times. -/
structure WorkerBinding where
  (workerSlotId workflowRunId workerDefinitionId : String)
  requiredCapabilities : List String
  maxBatchSize : Nat
  maxItemsPerPhysicalSession : Option Nat
  (rotateOnContextRisk rotateOnStall : Bool)
  (role promptRevision : Option String)
  metadata : String
deriving DecidableEq

inductive SlotState where
  | idle
  | active
  | waiting
  | rotating
  | lost
  | closed
deriving DecidableEq

structure WorkerSlot where
  (workerSlotId workflowRunId workerDefinitionId : String)
  generation : Nat
  state : SlotState
  activeWorkerSessionId : Option String

inductive SessionState where
  | starting
  | active
  | waiting
  | rotating
  | lost
  | closed
deriving DecidableEq

structure PhysicalSession where
  (workerSessionId workerSlotId : String)
  generation : Nat
  logicalSessionId : String
  state : SessionState
  processedItemCount : Nat

inductive ItemStatus where
  | pending
  | ready
  | running
  | blocked
  | completed
deriving DecidableEq

structure WorkItem where
  (workflowRunId workItemId : String)
  ordinal : Nat
  status : ItemStatus

inductive StageStatus where
  | pending
  | ready
  | claimed
  | running
  | blocked
  | failed
  | completed
deriving DecidableEq

structure ExpectedArtifact where
  logicalName : String
  required : Bool
deriving DecidableEq

structure StageRun where
  (stageRunId workflowRunId workItemId : String)
  ordinal : Nat
  (workerDefinitionId requiredCapability : String)
  status : StageStatus
  expectedOutputs : List ExpectedArtifact
  (attempts maxAttempts : Nat)
  claimId : Option String

inductive ClaimStatus where
  | active
  | expired
  | completed
  | blockedRetryable
  | waitingHuman
  | blockedTerminal
deriving DecidableEq

structure WorkflowClaim where
  (claimId workflowRunId workerDefinitionId workerSlotId workerSessionId : String)
  generation : Nat
  status : ClaimStatus
  (leaseUntil createdAt : Int)

structure QueueState where
  (workflowRunId workerDefinitionId : String)
  (readyCount queueGeneration : Nat)

inductive WakeupState where
  | pending
  | delivered
  | suppressed
deriving DecidableEq

structure Wakeup where
  (wakeupId workflowRunId workerDefinitionId workerSlotId workerSessionId : String)
  queueGeneration : Nat
  state : WakeupState
  attemptCount : Nat
  (nextAttemptAt createdAt : Int)

/-! ## Requests and answers -/

structure StageSeed where
  (stageRunId workerDefinitionId requiredCapability : String)
  ordinal : Option Nat
  expectedOutputs : List ExpectedArtifact
  maxAttempts : Nat
  dependsOn : List String
deriving DecidableEq

structure WorkItemSeed where
  workItemId : String
  ordinal : Option Nat
  stages : List StageSeed
deriving DecidableEq

/-- What a claim is checked for in an artifact. -/
structure ArtifactRef where
  (workflowRunId stageRunId logicalName workerDefinitionId workerSlotId workerSessionId : String)
deriving DecidableEq

inductive Disposition where
  | blockedRetryable
  | waitingHuman
  | blockedTerminal
deriving DecidableEq

/-- An operation with its request, as they are compared when a key is used again. -/
inductive WorkerRequest where
  | addWorkItems (workflowRunId : String) (items : List WorkItemSeed)
  | claimWork (ticketId : String) (maxItems leaseSeconds : Nat)
  | reportProgress (claimId report : String) (leaseSeconds : Nat)
  | commitAndClaimNext (claimId : String) (artifacts : List ArtifactRef) (maxItems leaseSeconds : Nat)
  | reportBlocked (claimId : String) (disposition : Disposition) (reason : String)
deriving DecidableEq

/-- What a caller sees of a claim. -/
structure ClaimView where
  claimId : String
  leaseUntil : Int
  units : List String

inductive WorkerAnswer where
  | done
  | noWorkAvailable
  | claimed (claim : ClaimView)
  | committed (next : Option ClaimView) (rotateRequired : Bool)
  | opened (workerSessionId : String) (generation : Nat)
  | rotationPending (activeClaimIds : List String)
  | expired (claimIds : List String)
  | recovered (activeClaim : Option String) (readyCount : Nat) (rotateRequired : Bool)
  | wakeups (wakeupIds : List String)

/-- A row of `workflow_worker_idempotency`. -/
structure IdempotencyRow where
  (scopeKey idempotencyKey : String)
  request : WorkerRequest
  response : WorkerAnswer

/-! ## Tables -/

structure WorkerStore where
  runs : List WorkflowRun := []
  bindings : List WorkerBinding := []
  slots : List WorkerSlot := []
  sessions : List PhysicalSession := []
  items : List WorkItem := []
  stages : List StageRun := []
  dependencies : List (String × String) := []
  claims : List WorkflowClaim := []
  units : List (String × String) := []
  queues : List QueueState := []
  wakeups : List Wakeup := []
  idempotency : List IdempotencyRow := []

namespace WorkerStore

variable (store : WorkerStore)

def run? (id : String) : Option WorkflowRun := store.runs.find? (·.workflowRunId = id)

def binding? (id : String) : Option WorkerBinding := store.bindings.find? (·.workerSlotId = id)

def slot? (id : String) : Option WorkerSlot := store.slots.find? (·.workerSlotId = id)

def session? (id : String) : Option PhysicalSession :=
  store.sessions.find? (·.workerSessionId = id)

def stage? (id : String) : Option StageRun := store.stages.find? (·.stageRunId = id)

def claim? (id : String) : Option WorkflowClaim := store.claims.find? (·.claimId = id)

def item? (runId id : String) : Option WorkItem :=
  store.items.find? fun item => item.workflowRunId = runId && item.workItemId = id

def unitsOf (claimId : String) : List StageRun :=
  (store.units.filter (·.1 = claimId)).filterMap fun unit => store.stage? unit.2

def currentClaims (slotId : String) : List WorkflowClaim :=
  (store.claims.filter fun claim => claim.workerSlotId = slotId && claim.status = .active)
    |>.insertionSort fun claim other => claim.createdAt ≤ other.createdAt

def readyCount (runId definitionId : String) : Nat :=
  (store.stages.filter fun stage => stage.workflowRunId = runId &&
    stage.workerDefinitionId = definitionId && stage.status = .ready).length

def unresolved (id : String) : Nat :=
  (store.dependencies.filter fun dependency => dependency.1 = id &&
    (store.stage? dependency.2).any fun parent => parent.status ≠ .completed).length

end WorkerStore

/-- `UPDATE … SET … WHERE …`. -/
def updateRows {Row : Type} (rows : List Row) (chosen : Row → Bool) (change : Row → Row) : List Row :=
  rows.map fun row => if chosen row then change row else row

namespace WorkerStore

variable (store : WorkerStore) (id : String)

def updateSlot (change : WorkerSlot → WorkerSlot) : WorkerStore :=
  { store with slots := updateRows store.slots (·.workerSlotId = id) change }

def updateSession (change : PhysicalSession → PhysicalSession) : WorkerStore :=
  { store with sessions := updateRows store.sessions (·.workerSessionId = id) change }

def updateStage (change : StageRun → StageRun) : WorkerStore :=
  { store with stages := updateRows store.stages (·.stageRunId = id) change }

def updateClaim (change : WorkflowClaim → WorkflowClaim) : WorkerStore :=
  { store with claims := updateRows store.claims (·.claimId = id) change }

def updateWakeup (change : Wakeup → Wakeup) : WorkerStore :=
  { store with wakeups := updateRows store.wakeups (·.wakeupId = id) change }

end WorkerStore

end Zero3Pilot.WorkerRuntime
