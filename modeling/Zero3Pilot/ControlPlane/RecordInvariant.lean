import Mathlib.Data.List.Nodup
import Zero3Pilot.ControlPlane.Transitions

/-! # The invariant of task records

What holds of every task record in every run of the control plane: its event log is ordered, its
terminal record, its lease and its fencing token agree with each other, and its delivery map knows
exactly the deliveries it has accepted. A second invariant speaks of the history of the run: the
leases handed out for a task carry the tokens `1, 2, …` up to the record's fencing token, in order,
and all of them went to the node the task is bound to. -/

namespace Zero3Pilot.ControlPlane

variable {plane : Plane} {env : Environment} {request : Request}

def TaskRecord.deliveryIds (record : TaskRecord) : List String :=
  record.events.map (·.deliveryId) ++ record.terminal.toList.map (·.deliveryId)

/-- **The invariant of a task record.** -/
structure RecordInvariant (record : TaskRecord) : Prop where
  sequences : record.events.Pairwise (·.eventSequence < ·.eventSequence)
  tokens : record.events.Pairwise (·.fencingToken ≤ ·.fencingToken)
  lastSequence : record.lastEventSequence = (record.events.getLast?.map (·.eventSequence)).getD 0
  sequenceBound : ∀ event ∈ record.events, event.eventSequence ≤ record.lastEventSequence
  tokenBound : ∀ event ∈ record.events, event.fencingToken ≤ record.fencingToken
  terminalState : record.terminal.isSome ↔ record.state.isTerminal
  terminalLease : record.terminal.isSome → record.activeLease = none
  lease : ∀ active, record.activeLease = some active →
    active.fencingToken = record.fencingToken ∧ record.stickyNodeId = some active.nodeId
  distinct : record.deliveryIds.Nodup
  /-- … and are the keys of the delivery map. -/
  delivered : ∀ deliveryId, deliveryId ∈ record.deliveryFingerprints ↔
    deliveryId ∈ record.deliveryIds

theorem RecordInvariant.create (task : RemoteTask) (fingerprint : List Char) (now : Int) :
    RecordInvariant (.create task fingerprint now) where
  sequences := .nil
  tokens := .nil
  lastSequence := rfl
  sequenceBound := by simp [TaskRecord.create]
  tokenBound := by simp [TaskRecord.create]
  terminalState := by simp [TaskRecord.create, RemoteTaskState.isTerminal]
  terminalLease := by simp [TaskRecord.create]
  lease := by simp [TaskRecord.create]
  distinct := by simp [TaskRecord.create, TaskRecord.deliveryIds]
  delivered := by simp [TaskRecord.create, TaskRecord.deliveryIds]

variable {record : TaskRecord}

theorem open_of_not_isClosed (isOpen : ¬ record.isClosed) :
    record.terminal = none ∧ record.state.isTerminal = false := by
  have both : record.state.isTerminal = false ∧ record.terminal.isSome = false := by
    simpa [TaskRecord.isClosed] using isOpen
  exact ⟨by simpa using both.2, both.1⟩

theorem not_isClosed_of_isFree {nodeId : String} {now : Int} (free : record.isFree nodeId now) :
    ¬ record.isClosed := by
  simp only [TaskRecord.isFree, Bool.and_eq_true, Bool.not_eq_true'] at free
  rw [free.1.1]
  decide

theorem stickyNodeId_of_isFree {nodeId : String} {now : Int} (free : record.isFree nodeId now) :
    record.stickyNodeId.getD nodeId = nodeId := by
  simp only [TaskRecord.isFree, Bool.and_eq_true] at free
  cases sticky : record.stickyNodeId with
  | none => rfl
  | some bound => simpa [sticky] using free.2

theorem RecordInvariant.not_mem_deliveryIds (invariant : RecordInvariant record) {deliveryId : String}
    (fresh : record.deliveryFingerprints[deliveryId]? = none) :
    deliveryId ∉ record.deliveryIds := by
  rw [← invariant.delivered]
  intro member
  rw [Std.ExtTreeMap.mem_iff_isSome_getElem?, fresh] at member
  cases member

theorem deliveryIds_recordEvent (record : TaskRecord) (body : EventEnvelope) (now : Int)
    (unfinished : record.terminal = none) :
    (record.recordEvent body now).deliveryIds = record.deliveryIds ++ [body.deliveryId] := by
  simp [TaskRecord.deliveryIds, TaskRecord.recordEvent, unfinished, EventEnvelope.accepted]

theorem deliveryIds_recordTerminal (record : TaskRecord) (body : TerminalEnvelope) (now : Int)
    (unfinished : record.terminal = none) :
    (record.recordTerminal body now).deliveryIds = record.deliveryIds ++ [body.deliveryId] := by
  simp [TaskRecord.deliveryIds, TaskRecord.recordTerminal, unfinished, TerminalEnvelope.accepted]

theorem nodup_append_fresh {ids : List String} {deliveryId : String} (distinct : ids.Nodup)
    (fresh : deliveryId ∉ ids) : (ids ++ [deliveryId]).Nodup := by
  rw [List.nodup_append]
  refine ⟨distinct, List.nodup_singleton _, ?_⟩
  intro known member other last
  rw [List.mem_singleton] at last
  rintro rfl
  exact fresh (last ▸ member)

theorem mem_insert_iff_mem_append {records : BTreeMap (List Char)} {ids : List String}
    (delivered : ∀ id, id ∈ records ↔ id ∈ ids) (deliveryId : String) (fingerprint : List Char)
    (id : String) : id ∈ records.insert deliveryId fingerprint ↔ id ∈ ids ++ [deliveryId] := by
  rw [Std.ExtTreeMap.mem_insert, List.mem_append, List.mem_singleton, delivered, or_comm]
  refine or_congr_right ?_
  simpa using eq_comm

variable {response : Response}

/-- **Every change of a record preserves its invariant.** -/
theorem RecordMove.invariant {leaseTtl : Int} {taskId : String} {before record : TaskRecord}
    (move : RecordMove leaseTtl env taskId before request record response)
    (invariant : RecordInvariant before) : RecordInvariant record := by
  cases move with
  | granted nodeId capabilities free bounded =>
    obtain ⟨unfinished, running⟩ := open_of_not_isClosed (not_isClosed_of_isFree free)
    exact {
      sequences := invariant.sequences
      tokens := invariant.tokens
      lastSequence := invariant.lastSequence
      sequenceBound := invariant.sequenceBound
      tokenBound := fun event member => Nat.le_succ_of_le (invariant.tokenBound event member)
      terminalState := by simp [TaskRecord.grant, unfinished, RemoteTaskState.isTerminal]
      terminalLease := by simp [TaskRecord.grant, unfinished]
      lease := by
        intro active isActive
        cases isActive
        refine ⟨rfl, ?_⟩
        show some (before.stickyNodeId.getD nodeId) = some nodeId
        rw [stickyNodeId_of_isFree free]
      distinct := invariant.distinct
      delivered := invariant.delivered }
  | renewed nodeId body active held =>
    exact {
      sequences := invariant.sequences
      tokens := invariant.tokens
      lastSequence := invariant.lastSequence
      sequenceBound := invariant.sequenceBound
      tokenBound := invariant.tokenBound
      terminalState := invariant.terminalState
      -- a record with a lease is not terminal
      terminalLease := by
        intro finished
        have unleased := invariant.terminalLease finished
        rw [held.isActive] at unleased
        cases unleased
      lease := by
        intro renewed isActive
        cases isActive
        exact invariant.lease active held.isActive
      distinct := invariant.distinct
      delivered := invariant.delivered }
  | event nodeId body active fresh isOpen held newer =>
    obtain ⟨unfinished, running⟩ := open_of_not_isClosed isOpen
    have appended := deliveryIds_recordEvent before body env.now unfinished
    exact {
      sequences := by
        show (before.events ++ [body.accepted]).Pairwise _
        refine List.pairwise_append.2 ⟨invariant.sequences, List.pairwise_singleton _ _, ?_⟩
        intro event member last isLast
        rw [List.mem_singleton.1 isLast]
        exact Nat.lt_of_le_of_lt (invariant.sequenceBound event member) newer
      tokens := by
        show (before.events ++ [body.accepted]).Pairwise _
        refine List.pairwise_append.2 ⟨invariant.tokens, List.pairwise_singleton _ _, ?_⟩
        intro event member last isLast
        rw [List.mem_singleton.1 isLast]
        -- the event carries the newest token
        show event.fencingToken ≤ body.fencingToken
        rw [← held.newest]
        exact invariant.tokenBound event member
      lastSequence := by simp [TaskRecord.recordEvent, EventEnvelope.accepted]
      sequenceBound := by
        intro event member
        rcases List.mem_append.1 member with earlier | last
        · exact Nat.le_of_lt (Nat.lt_of_le_of_lt (invariant.sequenceBound event earlier) newer)
        · rw [List.mem_singleton.1 last]
          exact Nat.le_refl _
      tokenBound := by
        intro event member
        rcases List.mem_append.1 member with earlier | last
        · exact invariant.tokenBound event earlier
        · rw [List.mem_singleton.1 last]
          exact Nat.le_of_eq held.newest.symm
      terminalState := by
        show before.terminal.isSome ↔
          (if body.eventType = "host.accepted" then RemoteTaskState.running
            else before.state).isTerminal
        split
        · simp [unfinished, RemoteTaskState.isTerminal]
        · simp [unfinished, running]
      terminalLease := by simp [TaskRecord.recordEvent, unfinished]
      lease := invariant.lease
      distinct := by
        rw [appended]
        exact nodup_append_fresh invariant.distinct (invariant.not_mem_deliveryIds fresh)
      delivered := by
        rw [appended]
        exact mem_insert_iff_mem_append invariant.delivered _ _ }
  | terminal nodeId body route active fresh isOpen held takes =>
    obtain ⟨unfinished, -⟩ := open_of_not_isClosed isOpen
    have appended := deliveryIds_recordTerminal before body env.now unfinished
    exact {
      sequences := invariant.sequences
      tokens := invariant.tokens
      lastSequence := invariant.lastSequence
      sequenceBound := invariant.sequenceBound
      tokenBound := invariant.tokenBound
      terminalState := by
        simp [TaskRecord.recordTerminal, TerminalRoute.isTerminal_of_takes takes]
      terminalLease := fun _ => rfl
      lease := by simp [TaskRecord.recordTerminal]
      distinct := by
        rw [appended]
        exact nodup_append_fresh invariant.distinct (invariant.not_mem_deliveryIds fresh)
      delivered := by
        rw [appended]
        exact mem_insert_iff_mem_append invariant.delivered _ _ }

/-! ## The leases handed out -/

def grantOn (taskId : String) : Action × Outcome → Option (String × Nat)
  | (.call (.tryLease nodeId _) _, .answered (.ok (.lease (some lease)))) =>
    if lease.task.taskId = taskId then some (nodeId, lease.fencingToken) else none
  | _ => none

/-- The leases on `taskId` handed out in a history, in order. -/
def grants (taskId : String) (history : List (Action × Outcome)) : List (String × Nat) :=
  history.filterMap (grantOn taskId)

theorem grants_append (taskId : String) (history : List (Action × Outcome))
    (step : Action × Outcome) :
    grants taskId (history ++ [step]) = grants taskId history ++ (grantOn taskId step).toList := by
  rw [grants, List.filterMap_append, List.filterMap_cons]
  cases grantOn taskId step <;> rfl

/-- What the leases handed out for a task say of its record: their tokens are `1, 2, …` up to its own. -/
def GrantsOf (granted : List (String × Nat)) : Option TaskRecord → Prop
  | none => granted = []
  | some record => granted.map (·.2) = List.range' 1 record.fencingToken ∧
      ∀ grant ∈ granted, record.stickyNodeId = some grant.1

theorem grantsOf_grant {granted : List (String × Nat)} {before : TaskRecord}
    (grantsBefore : GrantsOf granted (some before)) {nodeId : String} (leaseTtl : Int)
    (free : before.isFree nodeId env.now) :
    GrantsOf (granted ++ [(nodeId, before.fencingToken + 1)])
      (some (before.grant (before.nextLease leaseTtl env nodeId) env.now)) := by
  obtain ⟨tokens, nodes⟩ := grantsBefore
  have bound : (before.grant (before.nextLease leaseTtl env nodeId) env.now).stickyNodeId =
      some nodeId := congrArg some (stickyNodeId_of_isFree free)
  constructor
  · show _ = List.range' 1 (before.fencingToken + 1)
    rw [List.map_append, tokens, List.range'_concat]
    simp [Nat.add_comm]
  · intro grant member
    rw [bound]
    rcases List.mem_append.1 member with earlier | last
    · have sticky := stickyNodeId_of_isFree free
      rw [nodes grant earlier] at sticky
      exact congrArg some sticky.symm
    · rw [List.mem_singleton.1 last]

/-- **The invariant of a run**: every record meets its invariant, and agrees with the leases handed
out. -/
structure PlaneInvariant (history : List (Action × Outcome)) (plane : Plane) : Prop where
  keyed : Keyed plane.state
  records : ∀ (taskId : String) (record : TaskRecord),
    plane.state.tasks[taskId]? = some record → RecordInvariant record
  granted : ∀ taskId : String, GrantsOf (grants taskId history) plane.state.tasks[taskId]?

theorem grantOn_error (taskId : String) (error : ApiError) :
    grantOn taskId (.call request env, .answered (.error error)) = none := by
  cases request <;> rfl

theorem grantOn_ok {taskId : String} (noLease : ∀ lease, response ≠ .lease (some lease)) :
    grantOn taskId (.call request env, .answered (.ok response)) = none := by
  cases request <;> first | rfl | skip
  cases response with
  | lease lease =>
    cases lease with
    | none => rfl
    | some lease => exact absurd rfl (noLease lease)
  | task | node | renewed => rfl

theorem grantOn_reply (taskId : String) (decided : Decided plane env request (.reply response)) :
    grantOn taskId (.call request env, .answered (.ok response)) = none := by
  refine grantOn_ok fun lease same => ?_
  subst same
  cases decided

theorem GrantsOf.storeTask {granted : List (String × Nat)} {taskId : String}
    (write : TaskWrite plane env request taskId record response) (id : String)
    (before : GrantsOf granted plane.state.tasks[id]?) :
    GrantsOf (granted ++ (grantOn id (.call request env,
        .answered (plane.storeTask env taskId record response).1)).toList)
      (plane.storeTask env taskId record response).2.state.tasks[id]? := by
  rw [storeTask_get, storeTask_answer]
  by_cases stored : plane.taskFailure env record = none
  · rw [if_pos stored]
    cases write with
    | created task validId absent =>
      rw [grantOn_ok (by simp), Option.toList_none, List.append_nil]
      by_cases hit : task.taskId = id
      · subst hit
        rw [absent] at before
        rw [if_pos ⟨stored, rfl⟩]
        exact ⟨by rw [show granted = [] from before]; rfl, by
          rw [show granted = [] from before]; simp⟩
      · rw [if_neg (fun both => hit both.2)]
        exact before
    | moved validId known ownId move =>
      cases move with
      | granted nodeId capabilities free bounded =>
        rename_i old
        by_cases hit : taskId = id
        · subst hit
          rw [known] at before
          rw [if_pos ⟨stored, rfl⟩]
          have handed : grantOn taskId (.call (.tryLease nodeId capabilities) env,
              .answered (.ok (.lease (some ((old.nextLease plane.leaseTtl env nodeId).toRemote
                old.task))))) = some (nodeId, old.fencingToken + 1) := if_pos ownId
          rw [handed]
          exact grantsOf_grant before plane.leaseTtl free
        · rw [if_neg (fun both => hit both.2)]
          have handed : grantOn id (.call (.tryLease nodeId capabilities) env,
              .answered (.ok (.lease (some ((old.nextLease plane.leaseTtl env nodeId).toRemote
                old.task))))) = none := if_neg (fun same => hit (ownId.symm.trans same))
          rw [handed, Option.toList_none, List.append_nil]
          exact before
      | renewed | event | terminal =>
        rw [grantOn_ok (by simp), Option.toList_none, List.append_nil]
        by_cases hit : taskId = id
        · subst hit
          rw [known] at before
          rw [if_pos ⟨stored, rfl⟩]
          exact before
        · rw [if_neg (fun both => hit both.2)]
          exact before
  · rw [if_neg stored, if_neg (fun both => stored both.1), grantOn_error, Option.toList_none,
      List.append_nil]
    exact before

/-- **One served request preserves the invariant of the run**, whichever step of its write fails. -/
theorem planeInvariant_serve {history : List (Action × Outcome)}
    (invariant : PlaneInvariant history plane) (env : Environment) (request : Request) :
    PlaneInvariant (history ++ [(.call request env, .answered (plane.serve env request).1)])
      (plane.serve env request).2 := by
  have keyed := invariant.keyed.serve env request
  have served := serve_cases invariant.keyed env request
  generalize plane.serve env request = result at served keyed
  refine ⟨keyed, ?_, ?_⟩
  · intro taskId record found
    cases served with
    | refused error | replied response decided => exact invariant.records _ _ found
    | task id written response write failure =>
      rw [storeTask_get] at found
      split at found
      · cases found
        cases write with
        | created task validId absent => exact .create _ _ _
        | moved validId known ownId move => exact move.invariant (invariant.records _ _ known)
      · exact invariant.records _ _ found
    | node nodeId node validId ownId aboutNode failure =>
      rw [storeNode_tasks] at found
      exact invariant.records _ _ found
  · intro taskId
    rw [grants_append]
    cases served with
    | refused error =>
      rw [grantOn_error, Option.toList_none, List.append_nil]
      exact invariant.granted taskId
    | replied response decided =>
      rw [grantOn_reply taskId decided, Option.toList_none, List.append_nil]
      exact invariant.granted taskId
    | task id record response write failure =>
      exact GrantsOf.storeTask write taskId (invariant.granted taskId)
    | node nodeId node validId ownId aboutNode failure =>
      have none_handed : grantOn taskId (.call request env,
          .answered (plane.storeNode env nodeId node (.node node)).1) = none := by
        rw [storeNode_answer]
        split
        · exact grantOn_ok (by simp)
        · exact grantOn_error taskId _
      rw [none_handed, Option.toList_none, List.append_nil, storeNode_tasks]
      exact invariant.granted taskId

theorem planeInvariant_empty (leaseTtl : Int) : PlaneInvariant [] (.empty leaseTtl) where
  keyed := ⟨by simp [Plane.empty, ControlPlaneState.empty],
    by simp [Plane.empty, ControlPlaneState.empty]⟩
  records := by simp [Plane.empty, ControlPlaneState.empty]
  granted := by simp [Plane.empty, ControlPlaneState.empty, GrantsOf, grants]

def IsCall (_ : Plane) (action : Action) : Prop := action ≠ .restart

/-- **The invariant of the control plane.** In every run every task record meets the record invariant, and
the leases ever returned for its task carry exactly the tokens `1, 2, …` up to the record's. -/
theorem recordInvariant_of_run {leaseTtl : Int} {history : List (Action × Outcome)}
    (run : controlPlane.Run IsCall (.empty leaseTtl) history plane) {taskId : String}
    {record : TaskRecord} (known : plane.state.tasks[taskId]? = some record) :
    RecordInvariant record ∧ (grants taskId history).map (·.2) = List.range' 1 record.fencingToken ∧
      ∀ grant ∈ grants taskId history, record.stickyNodeId = some grant.1 := by
  have invariant : PlaneInvariant history plane := by
    refine run.invariant PlaneInvariant (planeInvariant_empty leaseTtl) ?_
    intro history plane action invariant isCall
    cases action with
    | call request env => exact planeInvariant_serve invariant env request
    | restart => exact absurd rfl isCall
  have granted := invariant.granted taskId
  rw [known] at granted
  exact ⟨invariant.records _ _ known, granted⟩

/-! ## A run -/

def exampleUuid : Uuid := ⟨"4f1c9e2a-0b7d-4c55-9a31-6d2e8f70b1c3", by decide, by decide⟩

/-- An environment at time `now` in which no write fails. -/
def exampleEnvironment (now : Int) : Environment := ⟨now, now, exampleUuid, exampleUuid, none, ""⟩

def exampleTask (taskId executionId : String) : RemoteTask :=
  ⟨remoteTaskProtocol, taskId, executionId, "fix the build", ⟨"pilot", none⟩, none, none, none,
    none⟩

def exampleLease : List Action :=
  [.call (.registerNode "node-1" ["codex", "thread", "turn"]) (exampleEnvironment 0),
    .call (.createTask (exampleTask "task-1" "exec-1")) (exampleEnvironment 1),
    .call (.tryLease "node-1" ["codex", "thread", "turn"]) (exampleEnvironment 2)]

/-- An event of `task-1` under its first lease. -/
def exampleEvent (deliveryId : String) (eventSequence : Nat) : EventEnvelope :=
  ⟨deliveryId, "exec-1", exampleUuid.text, 1, eventSequence, "host.accepted", "", .null⟩

def exampleActions : List Action :=
  exampleLease ++
    [.call (.acceptEvent "task-1" "node-1" (exampleEvent "delivery-1" 1)) (exampleEnvironment 3)]

/-- The invariant in a run that leases a task and accepts an event of it. -/
theorem recordInvariant_exampleActions : ∃ record : TaskRecord,
    (controlPlane.exec (.empty 45) exampleActions).2.state.tasks["task-1"]? = some record ∧
      RecordInvariant record ∧
      (grants "task-1" (controlPlane.exec (.empty 45) exampleActions).1).map (·.2) =
        List.range' 1 record.fencingToken ∧ record.fencingToken = 1 ∧ record.events.length = 1 := by
  have isCall : ∀ action ∈ exampleActions, ∀ plane, IsCall plane action := by
    simp [exampleActions, exampleLease, IsCall]
  have reached : ((controlPlane.exec (.empty 45) exampleActions).2.state.tasks["task-1"]?.map
      fun record => (record.fencingToken, record.events.length)) = some (1, 1) := by
    decide +kernel
  obtain ⟨record, known, values⟩ := Option.map_eq_some_iff.1 reached
  have run := recordInvariant_of_run (Machine.exec_run _ _ _ (Machine.met_of_forall isCall _)) known
  exact ⟨record, known, run.1, run.2.1, congrArg Prod.fst values, congrArg Prod.snd values⟩

end Zero3Pilot.ControlPlane
