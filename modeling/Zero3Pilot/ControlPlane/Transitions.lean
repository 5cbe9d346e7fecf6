import Zero3Pilot.ControlPlane.Operations

/-! # What one step of the control plane can do

The inversion of the operations: which decisions a request can lead to, with everything its checks
have established, and what carrying out a decision leaves in memory and on disk. All invariants are
derived from these two readings. -/

namespace Zero3Pilot.ControlPlane

variable {plane : Plane} {env : Environment} {request : Request}

/-- **The changes of an existing task record** that a request can cause, with the response that goes
with them. -/
inductive RecordMove (leaseTtl : Int) (env : Environment) (taskId : String)
    (before : TaskRecord) : Request → TaskRecord → Response → Prop where
  | granted (nodeId : String) (capabilities : List String)
      (free : before.isFree nodeId env.now) (bounded : before.fencingToken + 1 ≤ u64Max) :
      RecordMove leaseTtl env taskId before (.tryLease nodeId capabilities)
        (before.grant (before.nextLease leaseTtl env nodeId) env.now)
        (.lease (some ((before.nextLease leaseTtl env nodeId).toRemote before.task)))
  | renewed (nodeId : String) (body : RenewBody) (active : LeaseRecord)
      (held : HoldsLease before nodeId before.task.executionId body.leaseId body.fencingToken
        env.checkedAt active) :
      RecordMove leaseTtl env taskId before (.renew taskId nodeId body)
        (before.renewLease active (env.now + leaseTtl) env.now)
        (.renewed (LeaseRecord.toRemote { active with leaseExpiresAt := env.now + leaseTtl }
          before.task))
  | event (nodeId : String) (body : EventEnvelope) (active : LeaseRecord)
      (fresh : before.deliveryFingerprints[body.deliveryId]? = none)
      (isOpen : ¬ before.isClosed)
      (held : HoldsLease before nodeId body.executionId body.leaseId body.fencingToken
        env.checkedAt active)
      (newer : before.lastEventSequence < body.eventSequence) :
      RecordMove leaseTtl env taskId before (.acceptEvent taskId nodeId body)
        (before.recordEvent body env.now) (.task (before.recordEvent body env.now))
  | terminal (nodeId : String) (body : TerminalEnvelope) (route : TerminalRoute)
      (active : LeaseRecord) (fresh : before.deliveryFingerprints[body.deliveryId]? = none)
      (isOpen : ¬ before.isClosed)
      (held : HoldsLease before nodeId body.executionId body.leaseId body.fencingToken
        env.checkedAt active)
      (takes : route.takes body.state) :
      RecordMove leaseTtl env taskId before (.acceptTerminal taskId nodeId body route)
        (before.recordTerminal body env.now) (.task (before.recordTerminal body env.now))

/-- **The decisions a request can lead to**, with what the checks have established. -/
inductive Decided (plane : Plane) (env : Environment) : Request → Decision → Prop where
  | knownTask (task : RemoteTask) (record : TaskRecord)
      (known : plane.state.tasks[task.taskId]? = some record)
      (same : record.taskFingerprint = canonicalJson task.toJson) :
      Decided plane env (.createTask task) (.reply (.task record))
  | newTask (task : RemoteTask) (validId : IsId task.taskId)
      (absent : plane.state.tasks[task.taskId]? = none) :
      Decided plane env (.createTask task)
        (.insertTask (.create task (canonicalJson task.toJson) env.now)
          (.task (.create task (canonicalJson task.toJson) env.now)))
  | registered (nodeId : String) (capabilities : List String) (record : NodeRecord)
      (validId : IsId nodeId) (ownId : record.nodeId = nodeId) :
      Decided plane env (.registerNode nodeId capabilities) (.insertNode nodeId record (.node record))
  | beaten (nodeId : String) (activeTaskId : Option String) (pendingDeliveries : Nat)
      (existing record : NodeRecord) (validId : IsId nodeId)
      (known : plane.state.nodes[nodeId]? = some existing)
      (ownId : record.nodeId = existing.nodeId) :
      Decided plane env (.heartbeat nodeId activeTaskId pendingDeliveries)
        (.insertNode nodeId record (.node record))
  /-- No task is free. -/
  | noLease (nodeId : String) (capabilities : List String) :
      Decided plane env (.tryLease nodeId capabilities) (.reply (.lease none))
  | replayedEvent (taskId nodeId : String) (body : EventEnvelope) (record : TaskRecord)
      (known : plane.state.tasks[taskId]? = some record)
      (delivered : record.deliveryFingerprints[body.deliveryId]? =
        some (canonicalJson body.toJson)) :
      Decided plane env (.acceptEvent taskId nodeId body) (.reply (.task record))
  | replayedTerminal (taskId nodeId : String) (body : TerminalEnvelope) (route : TerminalRoute)
      (record : TaskRecord) (known : plane.state.tasks[taskId]? = some record)
      (delivered : record.deliveryFingerprints[body.deliveryId]? =
        some (canonicalJson body.toJson)) :
      Decided plane env (.acceptTerminal taskId nodeId body route) (.reply (.task record))
  | moved {request : Request} (taskId : String) (before record : TaskRecord) (response : Response)
      (known : plane.state.tasks[taskId]? = some before)
      (move : RecordMove plane.leaseTtl env taskId before request record response) :
      Decided plane env request (.mutateTask taskId before record response)

/-- **Inversion of the operations.** -/
theorem decide_cases {decision : Decision} (decided : plane.decide env request = .ok decision) :
    Decided plane env request decision := by
  cases request with
  | createTask task =>
    simp only [Plane.decide, createTask, bind_ok] at decided
    obtain ⟨_, valid, decided⟩ := decided
    split at decided
    · rename_i existing known
      simp only [bind_ok, ensure_ok, pure_ok] at decided
      obtain ⟨_, ⟨_, same⟩, rfl⟩ := decided
      exact .knownTask task existing known same
    · rename_i absent
      simp only [bind_ok, ensure_ok, pure_ok] at decided
      obtain ⟨_, _, rfl⟩ := decided
      exact .newTask task (validateTask_ids valid).1 absent
  | registerNode nodeId capabilities =>
    simp only [Plane.decide, registerNode, bind_ok, pure_ok, validateId_ok] at decided
    obtain ⟨_, valid, _, _, rfl⟩ := decided
    exact .registered nodeId capabilities _ valid rfl
  | heartbeat nodeId activeTaskId pendingDeliveries =>
    simp only [Plane.decide, heartbeat, bind_ok, pure_ok, validateId_ok, orError_ok] at decided
    obtain ⟨_, valid, existing, known, rfl⟩ := decided
    exact .beaten nodeId activeTaskId pendingDeliveries existing _ valid known rfl
  | tryLease nodeId capabilities =>
    simp only [Plane.decide, tryLease, bind_ok] at decided
    obtain ⟨_, _, _, _, _, _, _, _, decided⟩ := decided
    split at decided
    · cases pure_ok.1 decided
      exact .noLease nodeId capabilities
    · rename_i taskId record found
      simp only [bind_ok, ensure_ok, pure_ok] at decided
      obtain ⟨_, bounded, rfl⟩ := decided
      have known := Std.ExtTreeMap.mem_toList_iff_getElem?_eq_some.1 (List.mem_of_find?_eq_some found)
      have free := List.find?_some found
      exact .moved taskId record _ _ known (.granted nodeId capabilities free bounded)
  | renew taskId nodeId body =>
    simp only [Plane.decide, renew, bind_ok, orError_ok, pure_ok, validateLease_ok] at decided
    obtain ⟨_, _, record, known, active, held, rfl⟩ := decided
    exact .moved taskId record _ _ known (.renewed nodeId body active held)
  | acceptEvent taskId nodeId body =>
    simp only [Plane.decide, acceptEvent, bind_ok, orError_ok] at decided
    obtain ⟨_, _, _, _, record, known, decided⟩ := decided
    split at decided
    · rename_i previous delivered
      simp only [bind_ok, ensure_ok, pure_ok] at decided
      obtain ⟨_, rfl, rfl⟩ := decided
      exact .replayedEvent taskId nodeId body record known delivered
    · rename_i fresh
      simp only [bind_ok, ensure_ok, pure_ok, validateLease_ok] at decided
      obtain ⟨_, isOpen, active, held, _, newer, rfl⟩ := decided
      exact .moved taskId record _ _ known (.event nodeId body active fresh isOpen held newer)
  | acceptTerminal taskId nodeId body route =>
    simp only [Plane.decide, acceptTerminal, validateTerminalRoute, bind_ok, orError_ok,
      ensure_ok] at decided
    obtain ⟨_, _, _, _, _, takes, record, known, decided⟩ := decided
    split at decided
    · rename_i previous delivered
      simp only [bind_ok, ensure_ok, pure_ok] at decided
      obtain ⟨_, rfl, rfl⟩ := decided
      exact .replayedTerminal taskId nodeId body route record known delivered
    · rename_i fresh
      simp only [bind_ok, ensure_ok, pure_ok, validateLease_ok] at decided
      obtain ⟨_, isOpen, active, held, rfl⟩ := decided
      exact .moved taskId record _ _ known (.terminal nodeId body route active fresh isOpen held takes)

/-! ## Storing a record -/

namespace Plane

def taskFailure (plane : Plane) (env : Environment) (record : TaskRecord) : Option WriteStep :=
  firstFailure plane.disk.tasks (temporaryName (fileName record.task.taskId) env.fileUuid) env.fault

def nodeFailure (plane : Plane) (env : Environment) (record : NodeRecord) : Option WriteStep :=
  firstFailure plane.disk.nodes (temporaryName (fileName record.nodeId) env.fileUuid) env.fault

def decisionFailure (plane : Plane) (env : Environment) : Decision → Option WriteStep
  | .reply _ => none
  | .insertTask record _ => plane.taskFailure env record
  | .mutateTask _ _ record _ => plane.taskFailure env record
  | .insertNode _ record _ => plane.nodeFailure env record

def writeFailure (plane : Plane) (env : Environment) (request : Request) : Option WriteStep :=
  match plane.decide env request with
  | .ok decision => plane.decisionFailure env decision
  | .error _ => none

def storeTask (plane : Plane) (env : Environment) (taskId : String) (record : TaskRecord)
    (response : Response) : Except ApiError Response × Plane :=
  let filed := (plane.persistTask env record).2
  if plane.taskFailure env record = none then (.ok response, filed.setTask taskId record)
  else (.error (.internal env.errorText), filed)

def storeNode (plane : Plane) (env : Environment) (nodeId : String) (record : NodeRecord)
    (response : Response) : Except ApiError Response × Plane :=
  let filed := (plane.persistNode env record).2
  if plane.nodeFailure env record = none then (.ok response, filed.setNode nodeId record)
  else (.error (.internal env.errorText), filed)

end Plane

theorem insert_insert_restore {α : Type} {records : BTreeMap α} {key : String} {before : α}
    (known : records[key]? = some before) (value : α) :
    (records.insert key value).insert key before = records := by
  refine Std.ExtTreeMap.ext_getElem? fun other => ?_
  rw [Std.ExtTreeMap.getElem?_insert, Std.ExtTreeMap.getElem?_insert]
  by_cases hit : key = other
  · rw [if_pos (by simpa using hit), ← hit, known]
  · rw [if_neg (by simpa using hit), if_neg (by simpa using hit)]

theorem persistTask_none {record : TaskRecord} (clean : plane.taskFailure env record = none) :
    plane.persistTask env record = (.ok (), (plane.persistTask env record).2) :=
  Prod.ext (replaceAtomically_none _ _ _ _ clean) rfl

theorem persistTask_some {record : TaskRecord} {step : WriteStep}
    (failing : plane.taskFailure env record = some step) :
    plane.persistTask env record = (.error step, (plane.persistTask env record).2) :=
  Prod.ext (replaceAtomically_some _ _ _ _ failing) rfl

theorem persistNode_none {record : NodeRecord} (clean : plane.nodeFailure env record = none) :
    plane.persistNode env record = (.ok (), (plane.persistNode env record).2) :=
  Prod.ext (replaceAtomically_none _ _ _ _ clean) rfl

theorem persistNode_some {record : NodeRecord} {step : WriteStep}
    (failing : plane.nodeFailure env record = some step) :
    plane.persistNode env record = (.error step, (plane.persistNode env record).2) :=
  Prod.ext (replaceAtomically_some _ _ _ _ failing) rfl

theorem perform_insertTask (record : TaskRecord) (response : Response) :
    plane.perform env (.insertTask record response) =
      plane.storeTask env record.task.taskId record response := by
  rw [Plane.perform, Plane.storeTask]
  cases failure : plane.taskFailure env record with
  | none => rw [persistTask_none failure, if_pos rfl]
  | some step => rw [persistTask_some failure, if_neg (by simp)]

theorem perform_mutateTask {taskId : String} {before : TaskRecord}
    (known : plane.state.tasks[taskId]? = some before) (record : TaskRecord)
    (response : Response) :
    plane.perform env (.mutateTask taskId before record response) =
      plane.storeTask env taskId record response := by
  rw [Plane.perform, Plane.storeTask]
  -- the write sees the same files before and after the mutation in memory
  cases failure : plane.taskFailure env record with
  | none =>
    have clean : (plane.setTask taskId record).taskFailure env record = none := failure
    rw [persistTask_none clean, if_pos rfl]
    rfl
  | some step =>
    have failing : (plane.setTask taskId record).taskFailure env record = some step := failure
    rw [persistTask_some failing, if_neg (by simp)]
    simp only [Plane.setTask, Plane.persistTask, insert_insert_restore known]

theorem perform_insertNode (nodeId : String) (record : NodeRecord) (response : Response) :
    plane.perform env (.insertNode nodeId record response) =
      plane.storeNode env nodeId record response := by
  rw [Plane.perform, Plane.storeNode]
  cases failure : plane.nodeFailure env record with
  | none => rw [persistNode_none failure, if_pos rfl]
  | some step => rw [persistNode_some failure, if_neg (by simp)]

section Store

variable (plane env) (taskId nodeId : String) (record : TaskRecord) (node : NodeRecord)
  (response : Response)

theorem storeTask_answer : (plane.storeTask env taskId record response).1 =
      if plane.taskFailure env record = none then .ok response
      else .error (.internal env.errorText) := by
  rw [Plane.storeTask]
  split <;> rfl

theorem storeTask_state : (plane.storeTask env taskId record response).2.state =
      if plane.taskFailure env record = none then
        { plane.state with tasks := plane.state.tasks.insert taskId record }
      else plane.state := by
  rw [Plane.storeTask]
  split <;> rfl

theorem storeTask_get (id : String) :
    (plane.storeTask env taskId record response).2.state.tasks[id]? =
      if plane.taskFailure env record = none ∧ taskId = id then some record
      else plane.state.tasks[id]? := by
  rw [storeTask_state]
  by_cases stored : plane.taskFailure env record = none
  · by_cases hit : taskId = id
    · rw [if_pos stored, if_pos ⟨stored, hit⟩, hit, Std.ExtTreeMap.getElem?_insert_self]
    · rw [if_pos stored, if_neg (fun both => hit both.2), Std.ExtTreeMap.getElem?_insert,
        if_neg (by simpa using hit)]
  · rw [if_neg stored, if_neg (fun both => stored both.1)]

@[simp] theorem storeTask_nodes :
    (plane.storeTask env taskId record response).2.state.nodes = plane.state.nodes := by
  rw [Plane.storeTask]
  split <;> rfl

@[simp] theorem storeTask_disk : (plane.storeTask env taskId record response).2.disk =
      (plane.persistTask env record).2.disk := by
  rw [Plane.storeTask]
  split <;> rfl

theorem storeNode_answer : (plane.storeNode env nodeId node response).1 =
      if plane.nodeFailure env node = none then .ok response
      else .error (.internal env.errorText) := by
  rw [Plane.storeNode]
  split <;> rfl

@[simp] theorem storeNode_tasks :
    (plane.storeNode env nodeId node response).2.state.tasks = plane.state.tasks := by
  rw [Plane.storeNode]
  split <;> rfl

theorem storeNode_state : (plane.storeNode env nodeId node response).2.state =
      if plane.nodeFailure env node = none then
        { plane.state with nodes := plane.state.nodes.insert nodeId node }
      else plane.state := by
  rw [Plane.storeNode]
  split <;> rfl

theorem storeNode_get (id : String) :
    (plane.storeNode env nodeId node response).2.state.nodes[id]? =
      if plane.nodeFailure env node = none ∧ nodeId = id then some node
      else plane.state.nodes[id]? := by
  rw [storeNode_state]
  by_cases stored : plane.nodeFailure env node = none
  · by_cases hit : nodeId = id
    · rw [if_pos stored, if_pos ⟨stored, hit⟩, hit, Std.ExtTreeMap.getElem?_insert_self]
    · rw [if_pos stored, if_neg (fun both => hit both.2), Std.ExtTreeMap.getElem?_insert,
        if_neg (by simpa using hit)]
  · rw [if_neg stored, if_neg (fun both => stored both.1)]

@[simp] theorem storeNode_disk : (plane.storeNode env nodeId node response).2.disk =
      (plane.persistNode env node).2.disk := by
  rw [Plane.storeNode]
  split <;> rfl

end Store

/-! ## Serving a request -/

/-- Every record of the state is filed under its own, valid identifier. -/
structure Keyed (state : ControlPlaneState) : Prop where
  tasks : ∀ taskId record, state.tasks[taskId]? = some record →
    record.task.taskId = taskId ∧ IsId taskId
  nodes : ∀ nodeId record, state.nodes[nodeId]? = some record → record.nodeId = nodeId ∧ IsId nodeId

/-- **The writes of a task record** that a request can cause. -/
inductive TaskWrite (plane : Plane) (env : Environment) :
    Request → String → TaskRecord → Response → Prop where
  | created (task : RemoteTask) (validId : IsId task.taskId)
      (absent : plane.state.tasks[task.taskId]? = none) :
      TaskWrite plane env (.createTask task) task.taskId
        (.create task (canonicalJson task.toJson) env.now)
        (.task (.create task (canonicalJson task.toJson) env.now))
  /-- An existing task is changed. -/
  | moved {request : Request} {taskId : String} {before record : TaskRecord} {response : Response}
      (validId : IsId taskId) (known : plane.state.tasks[taskId]? = some before)
      (ownId : before.task.taskId = taskId)
      (move : RecordMove plane.leaseTtl env taskId before request record response) :
      TaskWrite plane env request taskId record response

def Request.isAboutNode : Request → Bool
  | .registerNode .. | .heartbeat .. => true
  | _ => false

/-- **What serving a request comes to**: an answer and the plane afterwards. -/
inductive Served (plane : Plane) (env : Environment) (request : Request) :
    Except ApiError Response × Plane → Prop where
  | refused (error : ApiError) : Served plane env request (.error error, plane)
  /-- The request is answered without a change. -/
  | replied (response : Response) (decided : Decided plane env request (.reply response)) :
      Served plane env request (.ok response, plane)
  | task (taskId : String) (record : TaskRecord) (response : Response)
      (write : TaskWrite plane env request taskId record response)
      (failure : plane.writeFailure env request = plane.taskFailure env record) :
      Served plane env request (plane.storeTask env taskId record response)
  | node (nodeId : String) (record : NodeRecord) (validId : IsId nodeId)
      (ownId : record.nodeId = nodeId) (aboutNode : request.isAboutNode)
      (failure : plane.writeFailure env request = plane.nodeFailure env record) :
      Served plane env request (plane.storeNode env nodeId record (.node record))

section

variable {leaseTtl : Int} {taskId : String} {before record : TaskRecord} {response : Response}
  (move : RecordMove leaseTtl env taskId before request record response)
include move

theorem RecordMove.task_eq : record.task = before.task := by
  cases move <;> rfl

theorem RecordMove.fingerprint_eq : record.taskFingerprint = before.taskFingerprint := by
  cases move <;> rfl

end

theorem TaskWrite.ownId {taskId : String} {record : TaskRecord} {response : Response}
    (write : TaskWrite plane env request taskId record response) :
    record.task.taskId = taskId ∧ IsId taskId := by
  cases write with
  | created task validId absent => exact ⟨rfl, validId⟩
  | moved validId known ownId move => exact ⟨by rw [move.task_eq, ownId], validId⟩

/-- **Inversion of serving.** -/
theorem serve_cases (keyed : Keyed plane.state) (env : Environment) (request : Request) :
    Served plane env request (plane.serve env request) := by
  rw [Plane.serve]
  split
  · rename_i error _
    exact .refused error
  · rename_i decision decided
    have failure : plane.writeFailure env request = plane.decisionFailure env decision := by
      rw [Plane.writeFailure, decided]
    cases decide_cases decided with
    | knownTask task record known same => exact .replied _ (.knownTask task record known same)
    | newTask task validId absent =>
      rw [perform_insertTask]
      exact .task _ _ _ (.created task validId absent) failure
    | registered nodeId capabilities record validId ownId =>
      rw [perform_insertNode]
      exact .node nodeId record validId ownId rfl failure
    | beaten nodeId activeTaskId pendingDeliveries existing record validId known ownId =>
      rw [perform_insertNode]
      exact .node nodeId record validId (ownId.trans (keyed.nodes _ _ known).1) rfl failure
    | noLease nodeId capabilities => exact .replied _ (.noLease nodeId capabilities)
    | replayedEvent taskId nodeId body record known delivered =>
      exact .replied _ (.replayedEvent taskId nodeId body record known delivered)
    | replayedTerminal taskId nodeId body route record known delivered =>
      exact .replied _ (.replayedTerminal taskId nodeId body route record known delivered)
    | moved taskId before record response known move =>
      rw [perform_mutateTask known]
      obtain ⟨ownId, validId⟩ := keyed.tasks _ _ known
      exact .task taskId record response (.moved validId known ownId move) failure

theorem Keyed.serve (keyed : Keyed plane.state) (env : Environment) (request : Request) :
    Keyed (plane.serve env request).2.state := by
  have served := serve_cases keyed env request
  generalize plane.serve env request = result at served
  cases served with
  | refused error => exact keyed
  | replied response decided => exact keyed
  | task taskId record response write failure =>
    constructor
    · intro id record' found
      rw [storeTask_get] at found
      split at found
      · rename_i hit
        cases found
        exact hit.2 ▸ write.ownId
      · exact keyed.tasks _ _ found
    · intro id record' found
      rw [storeTask_nodes] at found
      exact keyed.nodes _ _ found
  | node nodeId record validId ownId aboutNode failure =>
    constructor
    · intro id record' found
      rw [storeNode_tasks] at found
      exact keyed.tasks _ _ found
    · intro id record' found
      rw [storeNode_get] at found
      split at found
      · rename_i hit
        cases found
        exact hit.2 ▸ ⟨ownId, validId⟩
      · exact keyed.nodes _ _ found

end Zero3Pilot.ControlPlane
