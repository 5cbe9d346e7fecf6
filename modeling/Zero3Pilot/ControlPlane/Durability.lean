import Zero3Pilot.ControlPlane.RecordInvariant

/-! # Memory and disk of the control plane

After every call the files are meant to hold exactly the state in memory: a call that fails leaves
both as they were, a call that succeeds leaves them equal. The replacement of a file has one step
that can fail *after* the new file is in place, the sync of the directory; there the caller restores
the record in memory while the new one is on disk. -/

namespace Zero3Pilot.ControlPlane

variable {plane : Plane} {env : Environment} {request : Request}

/-- **The files hold a state.** -/
structure Filed (disk : Disk) (state : ControlPlaneState) : Prop where
  tasks : Mirrors (·.task.taskId) disk.tasks state.tasks
  nodes : Mirrors (·.nodeId) disk.nodes state.nodes

variable {disk : Disk} {state : ControlPlaneState}

theorem Filed.empty : Filed ⟨∅, ∅⟩ .empty := ⟨.empty, .empty⟩

theorem Filed.open_eq (filed : Filed disk state) : disk.open = .ok state := by
  rw [Disk.open, filed.tasks.loadRecords, filed.nodes.loadRecords]
  rfl

theorem Filed.keyed (filed : Filed disk state) : Keyed state where
  tasks taskId record found :=
    have complete := filed.tasks.complete taskId record found
    ⟨complete.1, complete.2.1⟩
  nodes nodeId record found :=
    have complete := filed.nodes.complete nodeId record found
    ⟨complete.1, complete.2.1⟩

theorem Filed.storeTask (filed : Filed plane.disk state) {taskId : String} {record : TaskRecord}
    (ownId : record.task.taskId = taskId ∧ IsId taskId) (env : Environment)
    (response : Response) :
    Filed (plane.storeTask env taskId record response).2.disk
      (if publishes (plane.taskFailure env record) then
        { state with tasks := state.tasks.insert taskId record }
      else state) := by
  obtain ⟨rfl, valid⟩ := ownId
  have replaced : Mirrors (·.task.taskId) (plane.persistTask env record).2.disk.tasks
      (if publishes (plane.taskFailure env record) then
        state.tasks.insert record.task.taskId record
      else state.tasks) := filed.tasks.replace valid env.fileUuid env.fault
  rw [storeTask_disk]
  split
  · rename_i published
    rw [if_pos published] at replaced
    exact ⟨replaced, filed.nodes⟩
  · rename_i unpublished
    rw [if_neg unpublished] at replaced
    exact ⟨replaced, filed.nodes⟩

theorem Filed.storeNode (filed : Filed plane.disk state) {nodeId : String} {record : NodeRecord}
    (ownId : record.nodeId = nodeId) (validId : IsId nodeId) (env : Environment)
    (response : Response) :
    Filed (plane.storeNode env nodeId record response).2.disk
      (if publishes (plane.nodeFailure env record) then
        { state with nodes := state.nodes.insert nodeId record }
      else state) := by
  subst ownId
  have replaced : Mirrors (·.nodeId) (plane.persistNode env record).2.disk.nodes
      (if publishes (plane.nodeFailure env record) then
        state.nodes.insert record.nodeId record
      else state.nodes) := filed.nodes.replace validId env.fileUuid env.fault
  rw [storeNode_disk]
  split
  · rename_i published
    rw [if_pos published] at replaced
    exact ⟨filed.tasks, replaced⟩
  · rename_i unpublished
    rw [if_neg unpublished] at replaced
    exact ⟨filed.tasks, replaced⟩

/-! ## Agreement after a call -/

/-- **Memory and disk agree after a call**: a failed call has left both as they were, a successful
one has left on disk what is in memory. -/
structure AgreesAfter (before : Plane) (result : Except ApiError Response × Plane) : Prop where
  failed : ∀ error, result.1 = .error error →
    result.2.state = before.state ∧ result.2.disk.open = before.disk.open
  succeeded : ∀ response, result.1 = .ok response → result.2.disk.open = .ok result.2.state

def DirectorySyncs (plane : Plane) : Action → Prop
  | .call request env => plane.writeFailure env request ≠ some .syncDirectory
  | .restart => True

theorem publishes_iff {failure : Option WriteStep} (synced : failure ≠ some .syncDirectory) :
    publishes failure = true ↔ failure = none := by
  simp [publishes, synced]

theorem Filed.storeTask_synced (filed : Filed plane.disk plane.state) {taskId : String}
    {record : TaskRecord} (ownId : record.task.taskId = taskId ∧ IsId taskId)
    (response : Response) (synced : plane.taskFailure env record ≠ some .syncDirectory) :
    Filed (plane.storeTask env taskId record response).2.disk
      (plane.storeTask env taskId record response).2.state := by
  have after := filed.storeTask ownId env response
  simp only [publishes_iff synced] at after
  rwa [storeTask_state]

theorem Filed.storeNode_synced (filed : Filed plane.disk plane.state) {nodeId : String}
    {record : NodeRecord} (ownId : record.nodeId = nodeId) (validId : IsId nodeId)
    (response : Response) (synced : plane.nodeFailure env record ≠ some .syncDirectory) :
    Filed (plane.storeNode env nodeId record response).2.disk
      (plane.storeNode env nodeId record response).2.state := by
  have after := filed.storeNode ownId validId env response
  simp only [publishes_iff synced] at after
  rwa [storeNode_state]

theorem agreesAfter_of_filed {result : Except ApiError Response × Plane}
    (before : Filed plane.disk plane.state) (after : Filed result.2.disk result.2.state)
    (undone : ∀ error, result.1 = .error error → result.2.state = plane.state) :
    AgreesAfter plane result where
  failed error isError := by
    refine ⟨undone error isError, ?_⟩
    rw [after.open_eq, before.open_eq, undone error isError]
  succeeded _ _ := after.open_eq

/-- **A call whose write does not fail at the directory sync keeps memory and disk in agreement.** -/
theorem serve_agrees (filed : Filed plane.disk plane.state)
    (synced : plane.writeFailure env request ≠ some .syncDirectory) :
    AgreesAfter plane (plane.serve env request) ∧
      Filed (plane.serve env request).2.disk (plane.serve env request).2.state := by
  have served := serve_cases filed.keyed env request
  generalize plane.serve env request = result at served
  cases served with
  | refused error | replied response decided =>
    exact ⟨agreesAfter_of_filed filed filed fun _ _ => rfl, filed⟩
  | task taskId record response write failure =>
    have after := filed.storeTask_synced write.ownId response (failure ▸ synced)
    refine ⟨agreesAfter_of_filed filed after ?_, after⟩
    intro error failed
    rw [storeTask_answer] at failed
    split at failed
    · cases failed
    · rename_i unstored
      rw [storeTask_state, if_neg unstored]
  | node nodeId record validId ownId aboutNode failure =>
    have after := filed.storeNode_synced ownId validId (.node record) (failure ▸ synced)
    refine ⟨agreesAfter_of_filed filed after ?_, after⟩
    intro error failed
    rw [storeNode_answer] at failed
    split at failed
    · cases failed
    · rename_i unstored
      rw [storeNode_state, if_neg unstored]

theorem Filed.reopen_eq (filed : Filed plane.disk plane.state) :
    plane.reopen = (.ok (), plane) := by
  rw [Plane.reopen, filed.open_eq]

theorem writeFailure_ne (synced : env.fault ≠ some .syncDirectory) :
    plane.writeFailure env request ≠ some .syncDirectory := by
  have first (temporary : String) {α : Type} (directory : Directory α) :
      firstFailure directory temporary env.fault ≠ some .syncDirectory := by
    rw [firstFailure]
    split
    · decide
    · exact synced
  rw [Plane.writeFailure]
  split
  · rename_i decision _
    cases decision with
    | reply response => simp [Plane.decisionFailure]
    | insertTask record response | mutateTask taskId before record response
    | insertNode nodeId record response => exact first _ _
  · simp

def examplePlane : Plane := (controlPlane.exec (.empty 45) exampleActions).2

def failingEnvironment : Environment := { exampleEnvironment 4 with fault := some .syncFile }

def exampleSecondEvent : Request := .acceptEvent "task-1" "node-1" (exampleEvent "delivery-2" 2)

end Zero3Pilot.ControlPlane
