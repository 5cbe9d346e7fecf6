import Zero3Pilot.Foundations.PrettyJson
import Zero3Pilot.Foundations.Procedure
import Zero3Pilot.Foundations.Uuid
import Zero3Pilot.ControlPlane.Validation

/-! # The queue of the worker gateway

`WorkerGateway` of `apps/web/src/worker_gateway.rs`: requests of MCP clients wait in a map for the
local host, which leases them one by one and reports their outcomes. Every operation starts with a
refresh, in which requests expire, leases run out and old records are evicted. All operations run
under one lock. `DateTime<Utc>` values are integers (nanoseconds); of the files only whether an
access fails is modelled, as nothing reads them while the gateway runs. -/

namespace Zero3Pilot.WorkerGateway

open ControlPlane (BTreeMap isIdChar trim u64Max)
open Procedure (check read ofExcept modify)

/-! ## Requests -/

inductive WorkerRequestState where
  | queued
  | leased
  | completed
  | failed
  | expired
deriving DecidableEq

def WorkerRequestState.isTerminal : WorkerRequestState → Bool
  | .completed | .failed | .expired => true
  | .queued | .leased => false

def workerCapability : String := "worker-protocol-v1"

def skillCapability : String := "codex-native-skills-v1"

def remoteCapability : String := "zero3-capability-v1"

def capabilityTools : List String :=
  ["list_capabilities", "describe_capability", "invoke_capability", "get_operation",
    "cancel_operation"]

def skillTools : List String := ["list_skills", "search_skills", "get_skill", "invoke_skill"]

def workerTools : List String :=
  ["register_worker", "claim_work", "report_progress", "complete_and_claim_next", "report_failure",
    "get_task_context", "session_start", "context_resolve", "task_claim", "event_record",
    "artifact_register", "task_complete", "memory_commit", "handoff_create", "task_bootstrap",
    "dispatch_codex_task", "dispatch_agent_task", "verify_commit", "bootstrap_worker",
    "commit_and_claim_next", "report_blocked", "recover_worker"]

def isLongRunningWorkerTool (tool : String) : Bool :=
  tool = "verify_commit" || tool = "dispatch_agent_task"

structure WorkerRpcRecord where
  (requestId capability targetNodeId tool : String)
  arguments : Json
  fingerprint : List Char
  dedupeKey : Option String
  state : WorkerRequestState
  leaseId : Option String
  fencingToken : Nat
  leaseExpiresAt : Option Int
  result : Option Json
  error : Option String
  (createdAt updatedAt expiresAt : Int)

structure WorkerRpcLease where
  (requestId capability leaseId : String)
  fencingToken : Nat
  leaseExpiresAt : Int
  tool : String
  arguments : Json

structure WorkerOutcome where
  result : Option Json
  error : Option String
  state : WorkerRequestState

inductive StatusCode where
  | badRequest
  | forbidden
  | notFound
  | conflict
  | gone
  | preconditionFailed
  | tooManyRequests
  | internalServerError
deriving DecidableEq

structure ApiError where
  status : StatusCode
  message : String
deriving DecidableEq

def ApiError.internal (error : String) : ApiError :=
  ⟨.internalServerError, "worker gateway persistence failure: " ++ error⟩

structure WorkerGatewayState where
  requests : BTreeMap WorkerRpcRecord

/-- The gateway before its first request. -/
def WorkerGatewayState.empty : WorkerGatewayState := ⟨∅⟩

def seconds (count : Int) : Int := count * 1000000000

def maxActiveRequests : Nat := 1024

def requestTtl (capability tool : String) : Int :=
  if capability = skillCapability ∨ isLongRunningWorkerTool tool then seconds (20 * 60)
  else seconds 120

def leaseTtl (capability tool : String) : Int :=
  if capability = skillCapability ∨ isLongRunningWorkerTool tool then seconds (15 * 60)
  else seconds 30

/-! ## Validation -/

def validateId (label value : String) : Except ApiError Unit :=
  ensure (value ≠ "" ∧ value.utf8ByteSize ≤ 256 ∧
      value.toList.all fun char => isIdChar char || char == ':')
    ⟨.badRequest, label ++ " is invalid"⟩

def validateToolFor (capability tool : String) : Except ApiError Unit :=
  let known :=
    if capability = workerCapability then workerTools.contains tool
    else if capability = skillCapability then skillTools.contains tool
    else if capability = remoteCapability then capabilityTools.contains tool
    else false
  ensure (known = true) ⟨.notFound, "unknown Zero3 capability tool"⟩

def textMember (members : List (String × Json)) (name : String) : Option String :=
  match members.lookup name with
  | some (.string text) => some text
  | _ => none

def requestDedupeKey (capability tool : String) : Json → Option String
  | .object members => do
    let key := trim (← textMember members "idempotencyKey")
    if key = "" then none
    else
      let part name := (textMember members name).getD ""
      some (capability ++ ":" ++ tool ++ ":" ++ part "taskId" ++ ":" ++ part "stepId" ++ ":" ++
        part "assignmentId" ++ ":" ++ part "workerId" ++ ":" ++ part "sessionId" ++ ":" ++
        part "claimId" ++ ":" ++ key)
  | _ => none

def isObject : Json → Bool
  | .object _ => true
  | _ => false

def validateActiveLease (record : WorkerRpcRecord) (nodeId leaseId : String) (fencingToken : Nat)
    (now : Int) : Except ApiError Unit := do
  ensure (record.targetNodeId = nodeId ∧ record.state = .leased)
    ⟨.gone, "worker RPC lease is stale"⟩
  ensure (record.leaseId = some leaseId) ⟨.gone, "worker RPC lease id is stale"⟩
  ensure (record.fencingToken = fencingToken)
    ⟨.preconditionFailed, "worker RPC fencing token is stale"⟩
  ensure (∃ expires ∈ record.leaseExpiresAt, now < expires) ⟨.gone, "worker RPC lease has expired"⟩

/-! ## The refresh -/

/-- What the environment brings to a call: clock readings, a UUID, and the file accesses that fail. -/
structure Environment where
  (refreshedAt now updatedAt : Int)
  uuid : Uuid
  refreshFault : String → Option String
  fault : Option String

/-- An access to the files, which may fail. -/
def persist (fault : Option String) : Procedure WorkerGatewayState ApiError Unit :=
  match fault with
  | none => pure ()
  | some message => Procedure.fail (.internal message)

/-- A record at the clock reading `now`: a request that is due expires, a lease that has run out is
taken back. -/
def WorkerRpcRecord.refreshed (record : WorkerRpcRecord) (now : Int) : WorkerRpcRecord :=
  if !record.state.isTerminal ∧ record.expiresAt ≤ now then
    { record with
      state := .expired
      error := some "worker RPC request expired before completion"
      leaseId := none
      leaseExpiresAt := none
      updatedAt := now }
  else if record.state = .leased ∧ ∃ expires ∈ record.leaseExpiresAt, expires ≤ now then
    { record with state := .queued, leaseId := none, leaseExpiresAt := none, updatedAt := now }
  else record

/-- The pass of `refresh_locked` over one record. -/
def refreshRecord (environment : Environment) (id : String) :
    Procedure WorkerGatewayState ApiError Unit := do
  let state ← read
  match state.requests[id]? with
  | none => pure ()
  | some record =>
    if record.state.isTerminal ∧ record.expiresAt ≤ environment.refreshedAt then do
      persist (environment.refreshFault id)
      modify fun state => { state with requests := state.requests.erase id }
    else if (record.refreshed environment.refreshedAt).state ≠ record.state then do
      persist (environment.refreshFault id)
      modify fun state => { state with
        requests := state.requests.insert id (record.refreshed environment.refreshedAt) }
    else pure ()

def refreshLocked (environment : Environment) : Procedure WorkerGatewayState ApiError Unit := do
  let state ← read
  state.requests.keys.forM (refreshRecord environment)

/-! ## The operations -/

def requestIdFor (capability : String) (uuid : Uuid) : String :=
  (if capability = skillCapability then "srpc"
    else if capability = remoteCapability then "crpc" else "wrpc") ++ "-" ++ uuid.text

def submittedRecord (node capability tool : String) (arguments : Json) (environment : Environment) :
    WorkerRpcRecord where
  requestId := requestIdFor capability environment.uuid
  capability := capability
  targetNodeId := node
  tool := tool
  arguments := arguments
  fingerprint := arguments.render
  dedupeKey := requestDedupeKey capability tool arguments
  state := .queued
  leaseId := none
  fencingToken := 0
  leaseExpiresAt := none
  result := none
  error := none
  createdAt := environment.now
  updatedAt := environment.now
  expiresAt := environment.now + requestTtl capability tool

/-- The records in the order of their identifiers. -/
def WorkerGatewayState.values (state : WorkerGatewayState) : List WorkerRpcRecord :=
  state.requests.toList.map Prod.snd

/-- The number of requests that are not terminal. -/
def WorkerGatewayState.active (state : WorkerGatewayState) : Nat :=
  (state.values.filter fun record => !record.state.isTerminal).length

/-- The end of `submit_for`, where no record has the request's key. -/
def enqueue (node capability tool : String) (arguments : Json) (environment : Environment) :
    Procedure WorkerGatewayState ApiError WorkerRpcRecord := do
  let state ← read
  check (state.active < maxActiveRequests) ⟨.tooManyRequests, "worker gateway queue is full"⟩
  let record := submittedRecord node capability tool arguments environment
  persist environment.fault
  modify fun state => { state with requests := state.requests.insert record.requestId record }
  return record

def submitFor (node capability tool : String) (arguments : Json) (environment : Environment) :
    Procedure WorkerGatewayState ApiError WorkerRpcRecord := do
  ofExcept (validateToolFor capability tool)
  check (isObject arguments) ⟨.badRequest, "worker tool arguments must be an object"⟩
  refreshLocked environment
  let state ← read
  let dedupeKey := requestDedupeKey capability tool arguments
  match state.values.find? fun record => dedupeKey.isSome && record.dedupeKey = dedupeKey with
  | some existing => do
    check (existing.fingerprint = arguments.render)
      ⟨.conflict, "worker idempotency key was reused with different arguments"⟩
    return existing
  | none => enqueue node capability tool arguments environment

/-- The order of requests: by creation, then by identifier. -/
def WorkerRpcRecord.older (record other : WorkerRpcRecord) : Bool :=
  record.createdAt < other.createdAt ||
    (record.createdAt = other.createdAt && compare record.requestId other.requestId = .lt)

/-- `min_by_key`: the first of the oldest requests. -/
def oldest : List WorkerRpcRecord → Option WorkerRpcRecord
  | [] => none
  | record :: records =>
    match oldest records with
    | none => some record
    | some other => if other.older record then some other else some record

/-- The requests a host may lease. -/
def WorkerGatewayState.candidates (state : WorkerGatewayState) (nodeId : String)
    (capabilities : List String) : List WorkerRpcRecord :=
  state.values.filter fun record =>
    record.state = .queued && record.targetNodeId = nodeId &&
      capabilities.any fun capability => capability = record.capability

def leaseIdFor (uuid : Uuid) : String := "wrpc-lease-" ++ uuid.text

def WorkerRpcRecord.leasedAt (record : WorkerRpcRecord) (environment : Environment) :
    WorkerRpcRecord :=
  { record with
    state := .leased
    leaseId := some (leaseIdFor environment.uuid)
    fencingToken := record.fencingToken + 1
    leaseExpiresAt := some (environment.now + leaseTtl record.capability record.tool)
    updatedAt := environment.updatedAt }

def WorkerRpcRecord.grant (record : WorkerRpcRecord) (environment : Environment) :
    WorkerRpcLease where
  requestId := record.requestId
  capability := record.capability
  leaseId := leaseIdFor environment.uuid
  fencingToken := record.fencingToken + 1
  leaseExpiresAt := environment.now + leaseTtl record.capability record.tool
  tool := record.tool
  arguments := record.arguments

def tryLeaseFor (node nodeId : String) (capabilities : List String) (environment : Environment) :
    Procedure WorkerGatewayState ApiError (Option WorkerRpcLease) := do
  check (nodeId = node) ⟨.forbidden, "worker RPC is bound to a different Zero3 node"⟩
  refreshLocked environment
  let state ← read
  match oldest (state.candidates nodeId capabilities) with
  | none => return none
  | some record => do
    check (record.fencingToken < u64Max) ⟨.internalServerError, "worker RPC fencing token overflow"⟩
    persist environment.fault
    modify fun state => { state with
      requests := state.requests.insert record.requestId (record.leasedAt environment) }
    return some (record.grant environment)

def WorkerRpcRecord.finishedAt (record : WorkerRpcRecord) (outcome : WorkerOutcome)
    (environment : Environment) : WorkerRpcRecord :=
  { record with
    state := outcome.state
    result := outcome.result
    error := outcome.error
    updatedAt := environment.updatedAt
    leaseExpiresAt := none }

def WorkerRpcRecord.has (record : WorkerRpcRecord) (outcome : WorkerOutcome) : Bool :=
  record.state = outcome.state &&
    record.result.map Json.comparedValue = outcome.result.map Json.comparedValue &&
    record.error = outcome.error

def finish (requestId nodeId leaseId : String) (fencingToken : Nat) (outcome : WorkerOutcome)
    (environment : Environment) : Procedure WorkerGatewayState ApiError WorkerRpcRecord := do
  ofExcept (validateId "worker request_id" requestId)
  refreshLocked environment
  let state ← read
  let record ← Procedure.require state.requests[requestId]?
    ⟨.notFound, "worker RPC request not found"⟩
  if record.state.isTerminal then do
    check (record.has outcome)
      ⟨.conflict, "worker RPC is already terminal with a different outcome"⟩
    return record
  else do
    ofExcept (validateActiveLease record nodeId leaseId fencingToken environment.now)
    persist environment.fault
    modify fun state => { state with
      requests := state.requests.insert requestId (record.finishedAt outcome environment) }
    return record.finishedAt outcome environment

def complete (requestId nodeId leaseId : String) (fencingToken : Nat) (result : Json)
    (environment : Environment) : Procedure WorkerGatewayState ApiError WorkerRpcRecord :=
  finish requestId nodeId leaseId fencingToken ⟨some result, none, .completed⟩ environment

def fail (requestId nodeId leaseId : String) (fencingToken : Nat) (error : String)
    (environment : Environment) : Procedure WorkerGatewayState ApiError WorkerRpcRecord := do
  check (trim error ≠ "" ∧ (trim error).utf8ByteSize ≤ 4096)
    ⟨.badRequest, "worker RPC error must be 1..4096 characters"⟩
  finish requestId nodeId leaseId fencingToken ⟨none, some (trim error), .failed⟩ environment

def get (requestId : String) (environment : Environment) :
    Procedure WorkerGatewayState ApiError WorkerRpcRecord := do
  refreshLocked environment
  let state ← read
  Procedure.require state.requests[requestId]? ⟨.notFound, "worker RPC request not found"⟩

/-! ## The gateway -/

inductive GatewayOperation where
  | submitFor (capability tool : String) (arguments : Json)
  | tryLeaseFor (nodeId : String) (capabilities : List String)
  | complete (requestId nodeId leaseId : String) (fencingToken : Nat) (result : Json)
  | fail (requestId nodeId leaseId : String) (fencingToken : Nat) (error : String)
  | get (requestId : String)

structure GatewayCall where
  operation : GatewayOperation
  environment : Environment

/-- What a call returns. -/
inductive GatewayAnswer where
  | record (record : WorkerRpcRecord)
  | lease (lease : Option WorkerRpcLease)

/-- **The gateway of a node** serving calls, each under the lock. -/
def serve (node : String) (call : GatewayCall) :
    Procedure WorkerGatewayState ApiError GatewayAnswer :=
  match call.operation with
  | .submitFor capability tool arguments =>
    .record <$> submitFor node capability tool arguments call.environment
  | .tryLeaseFor nodeId capabilities =>
    .lease <$> tryLeaseFor node nodeId capabilities call.environment
  | .complete requestId nodeId leaseId fencingToken result =>
    .record <$> complete requestId nodeId leaseId fencingToken result call.environment
  | .fail requestId nodeId leaseId fencingToken error =>
    .record <$> fail requestId nodeId leaseId fencingToken error call.environment
  | .get requestId => .record <$> get requestId call.environment

abbrev gatewayMachine (node : String) :
    Machine WorkerGatewayState GatewayCall (Except ApiError GatewayAnswer) :=
  Procedure.machine (serve node)

end Zero3Pilot.WorkerGateway
