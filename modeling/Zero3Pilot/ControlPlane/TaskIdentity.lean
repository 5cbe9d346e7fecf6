import Zero3Pilot.Foundations.ScriptValue
import Zero3Pilot.ControlPlane.Delivery

/-! # The task of a lease

A task is created once under its identifier and is never changed afterwards: whatever the run,
restarts and failing writes included, a lease for a task whose creation was acknowledged hands out
exactly the task that was created. -/

namespace Zero3Pilot.ControlPlane

variable {plane : Plane} {env : Environment} {request : Request}

/-! ## The text of a task -/

theorem RemoteTaskTarget.toJson_injective : Function.Injective RemoteTaskTarget.toJson := by
  intro left right same
  have member (name : String) := congrArg (Json.get · name) same
  have workspace := member "workspace"
  have baseRef := member "base_ref"
  simp [toJson, Json.get, List.lookup_cons] at workspace baseRef
  have baseRef := Option.map_injective string_injective baseRef
  cases left; cases right
  simp_all

theorem RemoteTaskExecution.toJson_injective : Function.Injective RemoteTaskExecution.toJson := by
  intro left right same
  have member (name : String) := congrArg (Json.get · name) same
  have maxTurns := member "max_turns"
  have timeoutSeconds := member "timeout_seconds"
  have requireClean := member "require_clean_worktree"
  simp [toJson, Json.get] at maxTurns timeoutSeconds requireClean
  have maxTurns := Option.map_injective nat_injective maxTurns
  have timeoutSeconds := Option.map_injective nat_injective timeoutSeconds
  have requireClean := Option.map_injective (fun _ _ => Json.bool.inj) requireClean
  cases left; cases right
  simp_all

theorem texts_injective :
    Function.Injective fun texts : List String => Json.array (texts.map Json.string) := by
  intro left right same
  exact List.map_injective_iff.2 string_injective (Json.array.inj same)

/-- **The text of a task determines the task.** -/
theorem RemoteTask.toJson_injective : Function.Injective RemoteTask.toJson := by
  intro left right same
  have member (name : String) := congrArg (Json.get · name) same
  have protocol := member "protocol"
  have taskId := member "task_id"
  have executionId := member "execution_id"
  have objective := member "objective"
  have target := member "target"
  have constraints := member "constraints"
  have acceptanceCriteria := member "acceptance_criteria"
  have permissionProfile := member "permission_profile"
  have execution := member "execution"
  simp [toJson, Json.get, List.lookup_cons] at protocol taskId executionId objective target
  simp [toJson, Json.get, List.lookup_cons] at constraints acceptanceCriteria permissionProfile
  simp [toJson, Json.get, List.lookup_cons] at execution
  have target := RemoteTaskTarget.toJson_injective target
  have constraints := Option.map_injective texts_injective constraints
  have acceptanceCriteria := Option.map_injective texts_injective acceptanceCriteria
  have permissionProfile := Option.map_injective string_injective permissionProfile
  have execution := Option.map_injective RemoteTaskExecution.toJson_injective execution
  cases left; cases right
  simp_all

theorem canonicalJson_task_inj {task task' : RemoteTask}
    (same : canonicalJson task.toJson = canonicalJson task'.toJson) : task = task' :=
  RemoteTask.toJson_injective (Json.render_injective same)

/-! ## Fingerprints -/

/-- **Every record carries the fingerprint of its own task.** -/
def Faithful (tasks : BTreeMap TaskRecord) : Prop :=
  ∀ (taskId : String) (record : TaskRecord), tasks[taskId]? = some record →
    record.taskFingerprint = canonicalJson record.task.toJson

theorem Faithful.empty : Faithful ∅ := by simp [Faithful]

theorem Faithful.insert {tasks : BTreeMap TaskRecord} (faithful : Faithful tasks)
    {record : TaskRecord} (own : record.taskFingerprint = canonicalJson record.task.toJson)
    (taskId : String) : Faithful (tasks.insert taskId record) := by
  intro id record' found
  rw [Std.ExtTreeMap.getElem?_insert] at found
  by_cases hit : taskId = id
  · rw [if_pos (by simpa using hit)] at found
    cases found
    exact own
  · rw [if_neg (by simpa using hit)] at found
    exact faithful id record' found

theorem TaskWrite.faithful {taskId : String} {record : TaskRecord} {response : Response}
    (write : TaskWrite plane env request taskId record response)
    (faithful : Faithful plane.state.tasks) :
    record.taskFingerprint = canonicalJson record.task.toJson := by
  cases write with
  | created task validId absent => rfl
  | moved validId known ownId move =>
    rw [move.fingerprint_eq, move.task_eq]
    exact faithful _ _ known

/-! ## Memory, disk and history -/

def Created (history : List (Action × Outcome)) (task : RemoteTask) : Prop :=
  ∃ env response, (.call (.createTask task) env, .answered (.ok response)) ∈ history

/-- **What a run keeps of its tasks**: fingerprints, and the tasks whose creation was acknowledged. -/
structure TaskInvariant (history : List (Action × Outcome)) (plane : Plane) : Prop where
  delivery : DeliveryInvariant history plane
  faithful : Faithful plane.state.tasks
  onDisk : ∃ onDisk, Filed plane.disk onDisk ∧ Faithful onDisk.tasks
  created : ∀ task, Created history task →
    ∃ record, plane.state.tasks[task.taskId]? = some record ∧ record.task = task

theorem Filed.unique {disk : Disk} {state state' : ControlPlaneState} (filed : Filed disk state)
    (filed' : Filed disk state') : state = state' :=
  Except.ok.inj (filed.open_eq.symm.trans filed'.open_eq)

theorem Faithful.serve (faithful : Faithful plane.state.tasks) (keyed : Keyed plane.state)
    (env : Environment) (request : Request) :
    Faithful (plane.serve env request).2.state.tasks := by
  have served := serve_cases keyed env request
  generalize plane.serve env request = result at served
  cases served with
  | refused error | replied response decided => exact faithful
  | task taskId record response write failure =>
    rw [storeTask_state]
    split
    · exact faithful.insert (write.faithful faithful) taskId
    · exact faithful
  | node nodeId record validId ownId aboutNode failure =>
    rw [storeNode_tasks]
    exact faithful

variable {history : List (Action × Outcome)}

theorem TaskInvariant.onDisk_serve (invariant : TaskInvariant history plane) (env : Environment)
    (request : Request) :
    ∃ onDisk, Filed (plane.serve env request).2.disk onDisk ∧ Faithful onDisk.tasks := by
  obtain ⟨onDisk, filed, faithful⟩ := invariant.onDisk
  have served := serve_cases invariant.delivery.keyed env request
  generalize plane.serve env request = result at served
  cases served with
  | refused error | replied response decided => exact ⟨onDisk, filed, faithful⟩
  | task taskId record response write failure =>
    refine ⟨_, filed.storeTask write.ownId env response, ?_⟩
    split
    · exact faithful.insert (write.faithful invariant.faithful) taskId
    · exact faithful
  | node nodeId record validId ownId aboutNode failure =>
    refine ⟨_, filed.storeNode ownId validId env (.node record), ?_⟩
    split <;> exact faithful

/-- A task whose creation is answered with success is in memory afterwards, unchanged. -/
theorem serve_created (keyed : Keyed plane.state) (faithful : Faithful plane.state.tasks)
    {task : RemoteTask} {response : Response}
    (accepted : (plane.serve env (.createTask task)).1 = .ok response) :
    ∃ record, (plane.serve env (.createTask task)).2.state.tasks[task.taskId]? = some record ∧
      record.task = task := by
  have served := serve_cases keyed env (.createTask task)
  generalize plane.serve env (.createTask task) = result at served accepted
  cases served with
  | refused error => cases accepted
  | replied response' decided =>
    cases decided with
    | knownTask _ record known same =>
      -- the fingerprint that was compared is that of the task on record
      rw [faithful _ _ known] at same
      exact ⟨record, known, canonicalJson_task_inj same⟩
  | task id record response' write failure =>
    rw [storeTask_answer] at accepted
    by_cases stored : plane.taskFailure env record = none
    · cases write with
      | created _ validId absent =>
        exact ⟨_, by rw [storeTask_get, if_pos ⟨stored, rfl⟩], rfl⟩
      | moved validId known ownId move => cases move
    · rw [if_neg stored] at accepted
      cases accepted
  | node id record validId ownId aboutNode failure => cases aboutNode

theorem serve_leased (keyed : Keyed plane.state) {nodeId : String} {capabilities : List String}
    {lease : RemoteLease}
    (handed : (plane.serve env (.tryLease nodeId capabilities)).1 = .ok (.lease (some lease))) :
    ∃ record, plane.state.tasks[lease.task.taskId]? = some record ∧ record.task = lease.task := by
  have served := serve_cases keyed env (.tryLease nodeId capabilities)
  generalize plane.serve env (.tryLease nodeId capabilities) = result at served handed
  cases served with
  | refused error => cases handed
  | replied response decided =>
    cases decided with
    | noLease => cases handed
  | task id record response write failure =>
    rw [storeTask_answer] at handed
    by_cases stored : plane.taskFailure env record = none
    · rw [if_pos stored] at handed
      cases write with
      | moved validId known ownId move =>
        cases move with
        | granted _ _ free bounded =>
          rename_i before
          cases handed
          exact ⟨before, by rw [← known, ← ownId]; rfl, rfl⟩
    · rw [if_neg stored] at handed
      cases handed
  | node id record validId ownId aboutNode failure => cases aboutNode

/-! ## Every run -/

theorem created_append {action : Action} {outcome : Outcome} {task : RemoteTask}
    (created : Created (history ++ [(action, outcome)]) task) :
    Created history task ∨ ∃ env response,
      action = .call (.createTask task) env ∧ outcome = .answered (.ok response) := by
  obtain ⟨env, response, member⟩ := created
  rcases List.mem_append.1 member with earlier | last
  · exact .inl ⟨env, response, earlier⟩
  · have same := List.mem_singleton.1 last
    exact .inr ⟨env, response, (congrArg Prod.fst same).symm, (congrArg Prod.snd same).symm⟩

/-- **One served request preserves what the run keeps of its tasks.** -/
theorem taskInvariant_serve (invariant : TaskInvariant history plane) (env : Environment)
    (request : Request) :
    TaskInvariant (history ++ [(.call request env, .answered (plane.serve env request).1)])
      (plane.serve env request).2 where
  delivery := deliveryInvariant_serve invariant.delivery env request
  faithful := invariant.faithful.serve invariant.delivery.keyed env request
  onDisk := invariant.onDisk_serve env request
  created task created := by
    have keyed := invariant.delivery.keyed
    rcases created_append created with earlier | ⟨env', response, same, answered⟩
    · obtain ⟨record, known, rfl⟩ := invariant.created task earlier
      obtain ⟨record', known', extended⟩ := serve_extends keyed env request _ _ known
      exact ⟨record', known', extended.task⟩
    · cases same
      exact serve_created keyed invariant.faithful (Outcome.answered.inj answered)

/-- **A restart preserves what the run keeps of its tasks.** -/
theorem taskInvariant_reopen (invariant : TaskInvariant history plane) :
    TaskInvariant (history ++ [(.restart, .reopened plane.reopen.1)]) plane.reopen.2 := by
  obtain ⟨onDisk, filed, extended⟩ := invariant.delivery.ahead
  have faithful : Faithful onDisk.tasks := by
    obtain ⟨onDisk', filed', faithful⟩ := invariant.onDisk
    rwa [filed.unique filed']
  have reopened : plane.reopen.2 = { plane with state := onDisk } := by
    rw [Plane.reopen, filed.open_eq]
  have delivery := deliveryInvariant_reopen invariant.delivery
  rw [reopened] at delivery ⊢
  refine ⟨delivery, faithful, ⟨onDisk, filed, faithful⟩, ?_⟩
  intro task created
  rcases created_append created with earlier | ⟨env', response, same, -⟩
  · obtain ⟨record, known, rfl⟩ := invariant.created task earlier
    obtain ⟨record', known', later⟩ := extended _ _ known
    exact ⟨record', known', later.task⟩
  · cases same

section

variable {leaseTtl : Int} (run : controlPlane.Run Machine.anyStep (.empty leaseTtl) history plane)
include run

theorem taskInvariant_of_run : TaskInvariant history plane := by
  refine run.invariant TaskInvariant ?_ ?_
  · have nothing : controlPlane.Run Machine.anyStep (.empty leaseTtl) [] (.empty leaseTtl) := .nil
    refine ⟨deliveryInvariant_of_run nothing, Faithful.empty,
      ⟨.empty, Filed.empty, Faithful.empty⟩, ?_⟩
    rintro task ⟨env, response, member⟩
    cases member
  · intro history plane action invariant _
    cases action with
    | call request env => exact taskInvariant_serve invariant env request
    | restart => exact taskInvariant_reopen invariant

/-- **The task of a lease is the task that was created** under its identifier, in every run. -/
theorem leased_task_eq {task : RemoteTask}
    (created : Created history task) {nodeId : String} {capabilities : List String} {lease : RemoteLease}
    (handed : (plane.serve env (.tryLease nodeId capabilities)).1 = .ok (.lease (some lease)))
    (sameId : lease.task.taskId = task.taskId) : lease.task = task := by
  have invariant := taskInvariant_of_run run
  obtain ⟨record, known, rfl⟩ := invariant.created task created
  obtain ⟨record', known', isTask⟩ := serve_leased invariant.delivery.keyed handed
  rw [sameId, known] at known'
  cases known'
  exact isTask.symm

end

/-- **A creation that was acknowledged lasts**: after any later requests, failed writes and restarts its
task is there unchanged, and no other task was created under its identifier. -/
theorem created_lasts {leaseTtl : Int}
    (run : controlPlane.Run Machine.anyStep (.empty leaseTtl) history plane) {task : RemoteTask}
    (created : Created history task) :
    (∃ record, plane.state.tasks[task.taskId]? = some record ∧ record.task = task) ∧
      ∀ task', Created history task' → task'.taskId = task.taskId → task' = task := by
  have invariant := taskInvariant_of_run run
  obtain ⟨record, known, isTask⟩ := invariant.created task created
  refine ⟨⟨record, known, isTask⟩, fun task' created' sameId => ?_⟩
  obtain ⟨record', known', isTask'⟩ := invariant.created task' created'
  rw [sameId, known] at known'
  rw [← isTask, ← isTask', Option.some.inj known']

def creatingActions : List Action :=
  [.call (.createTask (exampleTask "task-1" "exec-1")) (exampleEnvironment 1), .restart]

/-- A task is still there after a restart. -/
theorem created_lasts_sample : ∃ record : TaskRecord,
    (controlPlane.exec (.empty 45) creatingActions).2.state.tasks["task-1"]? = some record ∧
      record.task = exampleTask "task-1" "exec-1" := by
  have succeeds : ((Plane.empty 45).serve (exampleEnvironment 1)
      (.createTask (exampleTask "task-1" "exec-1"))).1.isOk := by decide +kernel
  have created : Created (controlPlane.exec (.empty 45) creatingActions).1
      (exampleTask "task-1" "exec-1") := by
    cases answer : ((Plane.empty 45).serve (exampleEnvironment 1)
        (.createTask (exampleTask "task-1" "exec-1"))).1 with
    | error error => rw [answer] at succeeds; cases succeeds
    | ok response =>
      refine ⟨exampleEnvironment 1, response, List.mem_cons.2 (.inl ?_)⟩
      exact Prod.ext rfl (congrArg Outcome.answered answer.symm)
  exact (created_lasts (Machine.exec_run _ _ _ (Machine.met_of_forall (fun _ _ _ => trivial) _))
    created).1

end Zero3Pilot.ControlPlane
