import Zero3Pilot.Foundations.Machine
import Zero3Pilot.ControlPlane.Disk

/-! # The operations of the remote control plane

`ControlPlane` of `apps/web/src/control_plane.rs`: its seven mutating operations, each of which
checks the request against the state in memory and then decides what to do, and the two ways in
which a decision is carried out (*persist, then insert* and *mutate, persist, restore on failure*).
Together with reopening the data directory they form the machine `controlPlane`.

The clock readings of a call, the UUIDs it draws and the write step that fails are the call's
`Environment`; nothing is assumed about them. -/

namespace Zero3Pilot.ControlPlane

/-- What a call meets in its environment: clock readings, UUIDs, and the write step that fails, with the
error text of the operating system. -/
structure Environment where
  (checkedAt now : Int)
  (leaseUuid fileUuid : Uuid)
  fault : Option WriteStep
  errorText : String

/-- `ControlPlane`: the state in memory and the files below its root. -/
structure Plane where
  leaseTtl : Int
  state : ControlPlaneState
  disk : Disk

/-- A control plane over an empty data directory. -/
def Plane.empty (leaseTtl : Int) : Plane := ⟨leaseTtl, .empty, ⟨∅, ∅⟩⟩

/-- What the operations return. -/
inductive Response where
  | task (record : TaskRecord)
  | node (record : NodeRecord)
  | lease (lease : Option RemoteLease)
  | renewed (lease : RemoteLease)

/-- What an operation does once its checks have passed. -/
inductive Decision where
  /-- Answer without a change. -/
  | reply (response : Response)
  | insertTask (record : TaskRecord) (response : Response)
  | mutateTask (taskId : String) (before record : TaskRecord) (response : Response)
  | insertNode (nodeId : String) (record : NodeRecord) (response : Response)

/-! ## Changes of one record -/

def TaskRecord.create (task : RemoteTask) (fingerprint : List Char) (now : Int) : TaskRecord where
  task := task
  taskFingerprint := fingerprint
  state := .queued
  stickyNodeId := none
  fencingToken := 0
  activeLease := none
  lastEventSequence := 0
  events := []
  terminal := none
  deliveryFingerprints := ∅
  createdAt := now
  updatedAt := now

def TaskRecord.isClosed (record : TaskRecord) : Bool :=
  record.state.isTerminal || record.terminal.isSome

def TaskRecord.isFree (record : TaskRecord) (nodeId : String) (now : Int) : Bool :=
  !record.isClosed && (match record.activeLease with
      | some active => active.leaseExpiresAt ≤ now
      | none => true) &&
    (match record.stickyNodeId with
      | some sticky => sticky = nodeId
      | none => true)

def TaskRecord.nextLease (record : TaskRecord) (leaseTtl : Int) (env : Environment)
    (nodeId : String) : LeaseRecord where
  nodeId := nodeId
  leaseId := env.leaseUuid.text
  fencingToken := record.fencingToken + 1
  leaseExpiresAt := env.now + leaseTtl

def TaskRecord.grant (record : TaskRecord) (lease : LeaseRecord) (now : Int) : TaskRecord :=
  { record with
    fencingToken := lease.fencingToken
    stickyNodeId := some (record.stickyNodeId.getD lease.nodeId)
    activeLease := some lease
    state := .leased
    updatedAt := now }

def TaskRecord.renewLease (record : TaskRecord) (active : LeaseRecord) (expiry now : Int) :
    TaskRecord :=
  { record with
    activeLease := some { active with leaseExpiresAt := expiry }
    updatedAt := now }

def EventEnvelope.accepted (body : EventEnvelope) : AcceptedEvent :=
  { body with }

def TaskRecord.recordEvent (record : TaskRecord) (body : EventEnvelope) (now : Int) : TaskRecord :=
  { record with
    lastEventSequence := body.eventSequence
    events := record.events ++ [body.accepted]
    state := if body.eventType = "host.accepted" then .running else record.state
    deliveryFingerprints :=
      record.deliveryFingerprints.insert body.deliveryId (canonicalJson body.toJson)
    updatedAt := now }

def TerminalEnvelope.accepted (body : TerminalEnvelope) : TerminalRecord :=
  { body with }

def TaskRecord.recordTerminal (record : TaskRecord) (body : TerminalEnvelope) (now : Int) :
    TaskRecord :=
  { record with
    state := body.state
    terminal := some body.accepted
    deliveryFingerprints :=
      record.deliveryFingerprints.insert body.deliveryId (canonicalJson body.toJson)
    activeLease := none
    updatedAt := now }

/-- What a node is told of its lease. -/
def LeaseRecord.toRemote (lease : LeaseRecord) (task : RemoteTask) : RemoteLease :=
  ⟨lease.leaseId, lease.fencingToken, lease.leaseExpiresAt, task⟩

/-! ## The operations -/

def createTask (state : ControlPlaneState) (env : Environment) (task : RemoteTask) :
    Except ApiError Decision := do
  validateTask task
  let fingerprint := canonicalJson task.toJson
  match state.tasks[task.taskId]? with
  | some existing =>
    ensure (existing.task.executionId = task.executionId ∧ existing.taskFingerprint = fingerprint)
      ⟨.conflict, "task_id is already bound to a different execution or task payload"⟩
    return .reply (.task existing)
  | none =>
    ensure (¬ state.tasks.toList.any (·.2.task.executionId = task.executionId))
      ⟨.conflict, "execution_id is already bound to another task"⟩
    let record := TaskRecord.create task fingerprint env.now
    return .insertTask record (.task record)

def registerNode (state : ControlPlaneState) (env : Environment) (nodeId : String)
    (capabilities : List String) : Except ApiError Decision := do
  validateId "node_id" nodeId
  requireCapabilities capabilities
  let known := state.nodes[nodeId]?
  let record : NodeRecord := {
    nodeId := nodeId
    capabilities := normalizedCapabilities capabilities
    registeredAt := (known.map (·.registeredAt)).getD env.now
    lastHeartbeatAt := env.now
    activeTaskId := known.bind (·.activeTaskId)
    pendingDeliveries := (known.map (·.pendingDeliveries)).getD 0 }
  return .insertNode nodeId record (.node record)

def heartbeat (state : ControlPlaneState) (env : Environment) (nodeId : String)
    (activeTaskId : Option String) (pendingDeliveries : Nat) : Except ApiError Decision := do
  validateId "node_id" nodeId
  let existing ← orError state.nodes[nodeId]? ⟨.notFound, "node must register before heartbeat"⟩
  let record : NodeRecord := {
    existing with
    lastHeartbeatAt := env.now
    activeTaskId := activeTaskId
    pendingDeliveries := pendingDeliveries }
  return .insertNode nodeId record (.node record)

/-- `try_lease`: the first free task in identifier order, under the next fencing token. -/
def tryLease (leaseTtl : Int) (state : ControlPlaneState) (env : Environment) (nodeId : String)
    (capabilities : List String) : Except ApiError Decision := do
  validateId "node_id" nodeId
  requireCapabilities capabilities
  let registered ← orError state.nodes[nodeId]?
    ⟨.notFound, "node must register before leasing tasks"⟩
  requireCapabilities registered.capabilities
  match state.tasks.toList.find? (·.2.isFree nodeId env.now) with
  | none => return .reply (.lease none)
  | some (taskId, record) =>
    -- `checked_add`
    ensure (record.fencingToken + 1 ≤ u64Max) ⟨.internalServerError, "fencing token exhausted"⟩
    let lease := record.nextLease leaseTtl env nodeId
    return .mutateTask taskId record (record.grant lease env.now)
      (.lease (some (lease.toRemote record.task)))

def renew (leaseTtl : Int) (state : ControlPlaneState) (env : Environment) (taskId nodeId : String)
    (body : RenewBody) : Except ApiError Decision := do
  validateId "task_id" taskId
  let record ← orError state.tasks[taskId]? ⟨.notFound, "remote task not found"⟩
  let active ← validateLease record nodeId record.task.executionId body.leaseId body.fencingToken
    env.checkedAt
  let expiry := env.now + leaseTtl
  let lease : LeaseRecord := { active with leaseExpiresAt := expiry }
  return .mutateTask taskId record (record.renewLease active expiry env.now)
    (.renewed (lease.toRemote record.task))

def acceptEvent (state : ControlPlaneState) (env : Environment) (taskId nodeId : String)
    (body : EventEnvelope) : Except ApiError Decision := do
  validateId "task_id" taskId
  validateId "delivery_id" body.deliveryId
  let fingerprint := canonicalJson body.toJson
  let record ← orError state.tasks[taskId]? ⟨.notFound, "remote task not found"⟩
  match record.deliveryFingerprints[body.deliveryId]? with
  | some previous =>
    ensure (previous = fingerprint)
      ⟨.conflict, "delivery_id is already bound to different event content"⟩
    return .reply (.task record)
  | none =>
    ensure (¬ record.isClosed) ⟨.conflict, "remote task is already terminal"⟩
    let _ ← validateLease record nodeId body.executionId body.leaseId body.fencingToken
      env.checkedAt
    ensure (record.lastEventSequence < body.eventSequence) ⟨.unprocessableEntity,
      "event_sequence must be strictly greater than the last accepted sequence"⟩
    let after := record.recordEvent body env.now
    return .mutateTask taskId record after (.task after)

def acceptTerminal (state : ControlPlaneState) (env : Environment) (taskId nodeId : String)
    (body : TerminalEnvelope) (route : TerminalRoute) : Except ApiError Decision := do
  validateId "task_id" taskId
  validateId "delivery_id" body.deliveryId
  validateTerminalRoute body.state route
  let fingerprint := canonicalJson body.toJson
  let record ← orError state.tasks[taskId]? ⟨.notFound, "remote task not found"⟩
  match record.deliveryFingerprints[body.deliveryId]? with
  | some previous =>
    ensure (previous = fingerprint)
      ⟨.conflict, "delivery_id is already bound to different terminal content"⟩
    return .reply (.task record)
  | none =>
    ensure (¬ record.isClosed) ⟨.conflict, "remote task is already terminal"⟩
    let _ ← validateLease record nodeId body.executionId body.leaseId body.fencingToken
      env.checkedAt
    let after := record.recordTerminal body env.now
    return .mutateTask taskId record after (.task after)

/-! ## Carrying out a decision -/

namespace Plane

def persistTask (plane : Plane) (env : Environment) (record : TaskRecord) :
    Except WriteStep Unit × Plane :=
  let name := fileName record.task.taskId
  let written := replaceAtomically plane.disk.tasks name (temporaryName name env.fileUuid) record
    env.fault
  (written.1, { plane with disk := { plane.disk with tasks := written.2 } })

def persistNode (plane : Plane) (env : Environment) (record : NodeRecord) :
    Except WriteStep Unit × Plane :=
  let name := fileName record.nodeId
  let written := replaceAtomically plane.disk.nodes name (temporaryName name env.fileUuid) record
    env.fault
  (written.1, { plane with disk := { plane.disk with nodes := written.2 } })

/-- Put a task record into the map in memory. -/
def setTask (plane : Plane) (taskId : String) (record : TaskRecord) : Plane :=
  { plane with state := { plane.state with tasks := plane.state.tasks.insert taskId record } }

/-- Put a node record into the map in memory. -/
def setNode (plane : Plane) (nodeId : String) (record : NodeRecord) : Plane :=
  { plane with state := { plane.state with nodes := plane.state.nodes.insert nodeId record } }

/-- Carry out a decision. -/
def perform (plane : Plane) (env : Environment) : Decision → Except ApiError Response × Plane
  | .reply response => (.ok response, plane)
  | .insertTask record response =>
    match plane.persistTask env record with
    | (.error _, persisted) => (.error (.internal env.errorText), persisted)
    | (.ok _, persisted) => (.ok response, persisted.setTask record.task.taskId record)
  | .mutateTask taskId before record response =>
    match (plane.setTask taskId record).persistTask env record with
    -- `*record = before`
    | (.error _, persisted) =>
      (.error (.internal env.errorText), persisted.setTask taskId before)
    | (.ok _, persisted) => (.ok response, persisted)
  | .insertNode nodeId record response =>
    match plane.persistNode env record with
    | (.error _, persisted) => (.error (.internal env.errorText), persisted)
    | (.ok _, persisted) => (.ok response, persisted.setNode nodeId record)

end Plane

/-! ## The machine -/

inductive Request where
  | createTask (task : RemoteTask)
  | registerNode (nodeId : String) (capabilities : List String)
  | heartbeat (nodeId : String) (activeTaskId : Option String) (pendingDeliveries : Nat)
  | tryLease (nodeId : String) (capabilities : List String)
  | renew (taskId nodeId : String) (body : RenewBody)
  | acceptEvent (taskId nodeId : String) (body : EventEnvelope)
  | acceptTerminal (taskId nodeId : String) (body : TerminalEnvelope) (route : TerminalRoute)

def Plane.decide (plane : Plane) (env : Environment) : Request → Except ApiError Decision
  | .createTask task => ControlPlane.createTask plane.state env task
  | .registerNode nodeId capabilities =>
    ControlPlane.registerNode plane.state env nodeId capabilities
  | .heartbeat nodeId activeTaskId pendingDeliveries =>
    ControlPlane.heartbeat plane.state env nodeId activeTaskId pendingDeliveries
  | .tryLease nodeId capabilities =>
    ControlPlane.tryLease plane.leaseTtl plane.state env nodeId capabilities
  | .renew taskId nodeId body =>
    ControlPlane.renew plane.leaseTtl plane.state env taskId nodeId body
  | .acceptEvent taskId nodeId body => ControlPlane.acceptEvent plane.state env taskId nodeId body
  | .acceptTerminal taskId nodeId body route =>
    ControlPlane.acceptTerminal plane.state env taskId nodeId body route

/-- Serve a request: a failed check is answered with its error and changes nothing. -/
def Plane.serve (plane : Plane) (env : Environment) (request : Request) :
    Except ApiError Response × Plane :=
  match plane.decide env request with
  | .error error => (.error error, plane)
  | .ok decision => plane.perform env decision

/-- What happens to a control plane: a call, or a restart that reopens its data directory. -/
inductive Action where
  | call (request : Request) (env : Environment)
  | restart

/-- What an action comes back with. -/
inductive Outcome where
  | answered (answer : Except ApiError Response)
  | reopened (result : Except String Unit)

/-- Close the control plane and open its data directory again. -/
def Plane.reopen (plane : Plane) : Except String Unit × Plane :=
  match plane.disk.open with
  | .error error => (.error error, plane)
  | .ok state => (.ok (), { plane with state := state })

/-- **The control plane as a machine.** -/
def controlPlane : Machine Plane Action Outcome where
  step plane
    | .call request env => ((.answered (plane.serve env request).1), (plane.serve env request).2)
    | .restart => (.reopened plane.reopen.1, plane.reopen.2)

end Zero3Pilot.ControlPlane
