import Zero3Pilot.Foundations.Acyclicity
import Zero3Pilot.WorkerRuntime.Runtime

/-! # The stage graph of a run

A stage waits for the stages it depends on. A new stage may depend on stages that are added with it,
and only a stage that depends on itself is refused, so the stages of one call may wait for each other
forever. Where those of every call do not, the graph has no cycle, and a run in which nothing has
failed always has a stage that is ready or at work. -/

namespace Zero3Pilot.WorkerRuntime

open Procedure (Moves ensures_bind ensures_modify ensures_pure ensures_read ensures_ite
  ensures_transaction)

/-! ## The tables of the graph -/

/-- The part of the store the graph is made of. -/
structure StageTables where
  stages : List StageRun
  (dependencies items : List (String × String))

def WorkerStore.tables (store : WorkerStore) : StageTables where
  stages := store.stages
  dependencies := store.dependencies
  items := store.items.map fun item => (item.workflowRunId, item.workItemId)

def StageTables.DependsOn (tables : StageTables) (child parent : String) : Prop :=
  (child, parent) ∈ tables.dependencies

instance (tables : StageTables) (child parent : String) : Decidable (tables.DependsOn child parent) :=
  inferInstanceAs (Decidable (_ ∈ tables.dependencies))

structure StageRun.Kept (row row' : StageRun) : Prop where
  id : row'.stageRunId = row.stageRunId
  run : row'.workflowRunId = row.workflowRunId
  item : row'.workItemId = row.workItemId

structure StageRun.Becomes (row row' : StageRun) : Prop extends row.Kept row' where
  pending : row'.status = .pending → row.status = .pending
  completed : row'.status = .completed → row.status = .completed

theorem StageRun.Becomes.refl (row : StageRun) : row.Becomes row :=
  ⟨⟨rfl, rfl, rfl⟩, fun same => same, fun same => same⟩

variable {tables tables' : StageTables} {store after : WorkerStore} {R : StageRun → StageRun → Prop}

structure Changes (R : StageRun → StageRun → Prop) (tables tables' : StageTables) : Prop where
  dependencies : tables'.dependencies = tables.dependencies
  items : tables'.items = tables.items
  ids : tables'.stages.map (·.stageRunId) = tables.stages.map (·.stageRunId)
  forward : ∀ row ∈ tables.stages, ∃ row' ∈ tables'.stages, R row row'
  backward : ∀ row' ∈ tables'.stages, ∃ row ∈ tables.stages, R row row'

/-- **Nothing is added or completed.** -/
abbrev Quiet : StageTables → StageTables → Prop := Changes StageRun.Becomes

theorem Changes.dependsOn (changes : Changes R tables tables') : tables'.DependsOn = tables.DependsOn := by
  unfold StageTables.DependsOn
  rw [changes.dependencies]

instance : IsPreorder StageTables Quiet where
  refl tables := ⟨rfl, rfl, rfl, fun row member => ⟨row, member, .refl row⟩,
    fun row member => ⟨row, member, .refl row⟩⟩
  trans _ _ _ first second := by
    have both {row row' row'' : StageRun} (one : row.Becomes row') (two : row'.Becomes row'') :
        row.Becomes row'' :=
      ⟨⟨two.id.trans one.id, two.run.trans one.run, two.item.trans one.item⟩,
        fun same => one.pending (two.pending same), fun same => one.completed (two.completed same)⟩
    refine ⟨second.dependencies.trans first.dependencies, second.items.trans first.items,
      second.ids.trans first.ids, fun row member => ?_, fun row member => ?_⟩
    · obtain ⟨row', member', one⟩ := first.forward row member
      obtain ⟨row'', member'', two⟩ := second.forward row' member'
      exact ⟨row'', member'', both one two⟩
    · obtain ⟨row', member', two⟩ := second.backward row member
      obtain ⟨row'', member'', one⟩ := first.backward row' member'
      exact ⟨row'', member'', both one two⟩

def Waits (loose : List String) (tables : StageTables) : Prop :=
  ∀ row ∈ tables.stages, row.status = .pending → row.stageRunId ∉ loose →
    ∃ parent ∈ tables.stages, tables.DependsOn row.stageRunId parent.stageRunId ∧
      parent.status ≠ .completed

def Known (tables : StageTables) : Prop :=
  ∀ child parent, tables.DependsOn child parent →
    ∃ row ∈ tables.stages, ∃ other ∈ tables.stages, row.stageRunId = child ∧
      other.stageRunId = parent ∧ other.workflowRunId = row.workflowRunId

/-- **What holds of the tables**, but for what the stages in `loose` wait for. The graph has no cycle
where the calls were `lawful`. -/
structure Sound (lawful : Prop) (loose : List String) (tables : StageTables) : Prop where
  distinct : (tables.stages.map (·.stageRunId)).Nodup
  housed : ∀ row ∈ tables.stages, (row.workflowRunId, row.workItemId) ∈ tables.items
  known : Known tables
  acyclic : lawful → Acyclic tables.DependsOn
  waits : Waits loose tables

variable {lawful : Prop} {loose loose' : List String}

theorem Sound.changes (sound : Sound lawful loose tables) (changes : Changes StageRun.Kept tables tables')
    (waits : Waits loose' tables') : Sound lawful loose' tables' := by
  refine ⟨changes.ids ▸ sound.distinct, fun row' member => ?_, fun child parent edge => ?_,
    fun isLawful => changes.dependsOn ▸ sound.acyclic isLawful, waits⟩
  · obtain ⟨row, before, kept⟩ := changes.backward row' member
    rw [kept.run, kept.item, changes.items]
    exact sound.housed row before
  · rw [changes.dependsOn] at edge
    obtain ⟨row, member, other, member', isChild, isParent, sameRun⟩ :=
      sound.known child parent edge
    obtain ⟨row', now, kept⟩ := changes.forward row member
    obtain ⟨other', now', kept'⟩ := changes.forward other member'
    exact ⟨row', now, other', now', kept.id.trans isChild, kept'.id.trans isParent,
      kept'.run.trans (sameRun.trans kept.run.symm)⟩

theorem Changes.mono {S : StageRun → StageRun → Prop} (changes : Changes R tables tables')
    (weaker : ∀ row row', R row row' → S row row') : Changes S tables tables' := by
  refine ⟨changes.dependencies, changes.items, changes.ids, fun row member => ?_,
    fun row' member => ?_⟩
  · obtain ⟨row', now, related⟩ := changes.forward row member
    exact ⟨row', now, weaker row row' related⟩
  · obtain ⟨row, before, related⟩ := changes.backward row' member
    exact ⟨row, before, weaker row row' related⟩

theorem Sound.quiet (sound : Sound lawful loose tables) (quiet : Quiet tables tables') :
    Sound lawful loose tables' := by
  refine sound.changes (quiet.mono fun _ _ becomes => becomes.toKept)
    fun row' member isPending tight => ?_
  obtain ⟨row, before, becomes⟩ := quiet.backward row' member
  rw [becomes.id] at tight ⊢
  obtain ⟨parent, isParent, edge, unfinished⟩ :=
    sound.waits row before (becomes.pending isPending) tight
  obtain ⟨parent', now, becomes'⟩ := quiet.forward parent isParent
  refine ⟨parent', now, ?_, fun done => unfinished (becomes'.completed done)⟩
  rw [becomes'.id, quiet.dependsOn]
  exact edge

theorem Sound.eq_of_id (sound : Sound lawful loose tables) {row other : StageRun}
    (member : row ∈ tables.stages) (member' : other ∈ tables.stages)
    (same : row.stageRunId = other.stageRunId) : row = other :=
  List.inj_on_of_nodup_map sound.distinct member member' same

/-! ## The stages that proceed -/

/-- **A run proceeds**: where no stage of it has failed or is blocked and not all are completed, one
is ready or at work. -/
structure Progressing (tables : StageTables) : Prop where
  acyclic : Acyclic tables.DependsOn
  proceeds : ∀ runId,
    (∀ row ∈ tables.stages, row.workflowRunId = runId → row.status ≠ .failed ∧ row.status ≠ .blocked) →
    (∃ row ∈ tables.stages, row.workflowRunId = runId ∧ row.status ≠ .completed) →
    ∃ row ∈ tables.stages, row.workflowRunId = runId ∧
      (row.status = .ready ∨ row.status = .claimed ∨ row.status = .running)

theorem Sound.progressing (sound : Sound True [] tables) : Progressing tables := by
  refine ⟨sound.acyclic trivial, fun runId unharmed unfinished => ?_⟩
  by_contra none
  have idle (row : StageRun) (member : row ∈ tables.stages) (own : row.workflowRunId = runId) :
      row.status = .pending ∨ row.status = .completed := by
    have harm := unharmed row member own
    have resting : ¬ (row.status = .ready ∨ row.status = .claimed ∨ row.status = .running) :=
      fun works => none ⟨row, member, own, works⟩
    cases status : row.status <;> simp_all
  -- the pending stage that depends on no other pending one waits for a stage that is not pending
  let pending := (tables.stages.filter fun row =>
    row.workflowRunId = runId && row.status = .pending).map (·.stageRunId)
  have listed (row : StageRun) (member : row ∈ tables.stages) (own : row.workflowRunId = runId)
      (open_ : row.status ≠ .completed) : row.stageRunId ∈ pending :=
    List.mem_map_of_mem (List.mem_filter.2 ⟨member, by
      simpa [own] using (idle row member own).resolve_right open_⟩)
  obtain ⟨row, member, own, open_⟩ := unfinished
  obtain ⟨least, isPending, minimal⟩ := (sound.acyclic trivial).exists_least
    (List.ne_nil_of_mem (listed row member own open_))
  obtain ⟨first, isFirst, rfl⟩ := List.mem_map.1 isPending
  simp only [List.mem_filter, Bool.and_eq_true, decide_eq_true_eq] at isFirst
  obtain ⟨parent, isParent, edge, open_⟩ :=
    sound.waits first isFirst.1 isFirst.2.2 List.not_mem_nil
  obtain ⟨child, isChild, other, isOther, sameChild, sameParent, sameRun⟩ :=
    sound.known _ _ edge
  rw [sound.eq_of_id isChild isFirst.1 sameChild, sound.eq_of_id isOther isParent sameParent,
    isFirst.2.1] at sameRun
  exact minimal _ (listed parent isParent sameRun open_) edge

/-! ## Quiet operations -/

/-- An operation adds and completes nothing. -/
abbrev IsQuiet {α : Type} (operation : Runtime α) : Prop :=
  Moves WorkerStore.tables Quiet operation

theorem changes_updateStage {id : String} {change : StageRun → StageRun}
    (kept : ∀ row : StageRun, row.Kept (change row)) (unchanged : ∀ row, R row row)
    (related : ∀ row : StageRun, row.stageRunId = id → R row (change row)) :
    Changes R store.tables (store.updateStage id change).tables := by
  have changed (row : StageRun) :
      R row (if decide (row.stageRunId = id) = true then change row else row) := by
    split
    · rename_i same
      exact related row (of_decide_eq_true same)
    · exact unchanged row
  refine ⟨rfl, rfl, ?_, fun row member => ⟨_, List.mem_map_of_mem member, changed row⟩,
    fun row' member => ?_⟩
  · simp only [WorkerStore.tables, WorkerStore.updateStage, updateRows, List.map_map]
    refine List.map_congr_left fun row _ => ?_
    simp only [Function.comp_apply]
    split
    · exact (kept row).id
    · rfl
  · obtain ⟨row, before, rfl⟩ := List.mem_map.1 member
    exact ⟨row, before, changed row⟩

theorem quiet_updateStage {id : String} {change : StageRun → StageRun}
    (becomes : ∀ row : StageRun, row.Becomes (change row)) :
    Quiet store.tables (store.updateStage id change).tables :=
  changes_updateStage (fun row => (becomes row).toKept) .refl fun row _ => becomes row

theorem becomes_status {row : StageRun} {claimId : Option String} {attempts : Nat}
    {status : StageStatus} (working : status ≠ .pending ∧ status ≠ .completed) :
    row.Becomes { row with status := status, claimId := claimId, attempts := attempts } :=
  ⟨⟨rfl, rfl, rfl⟩, fun same => absurd same working.1, fun same => absurd same working.2⟩

theorem givenBack_status (row : StageRun) :
    row.givenBack.status ≠ .pending ∧ row.givenBack.status ≠ .completed := by
  unfold StageRun.givenBack
  split <;> simp

theorem moves_verifiedTicket {ν : Type} {view : WorkerStore → ν} {S : ν → ν → Prop} [IsPreorder ν S]
    (ticket : Ticket) (now : Int) : Moves view S (verifiedTicket ticket now) := by
  refine .bind (.ofExcept _) fun claims => .bind .read fun store => .bind (.require _ _) fun slot =>
    .bind (.require _ _) fun session => .bind (.require _ _) fun binding =>
    .bind (.require _ _) fun _ => ?_
  iterate 6 refine .bind (.check _ _) fun _ => ?_
  exact .pure _

theorem isQuiet_recalculateWorkItem (runId itemId : String) :
    IsQuiet (recalculateWorkItem runId itemId) := by
  refine .bind .read fun store => .bind (.require _ _) fun item => .bind (.check _ _) fun _ =>
    .bind (.modify fun store => ?_) fun _ => .pure _
  refine ⟨rfl, ?_, rfl, fun row member => ⟨row, member, .refl row⟩,
    fun row member => ⟨row, member, .refl row⟩⟩
  simp only [WorkerStore.tables, updateRows, List.map_map]
  refine List.map_congr_left fun item _ => ?_
  simp only [Function.comp_apply]
  split <;> rfl

theorem isQuiet_modify {change : WorkerStore → WorkerStore}
    (same : ∀ store, (change store).tables = store.tables) :
    IsQuiet (Procedure.modify change : Runtime Unit) :=
  .modify fun store => by
    rw [same]
    exact refl_of Quiet _

theorem isQuiet_expireClaimsTx (runId : String) (expiredAt : Int) (environment : Environment) :
    IsQuiet (expireClaimsTx runId expiredAt environment) := by
  refine .bind .read fun store => .bind (.forM fun claim _ => ?_) fun _ => .pure _
  refine .bind .read fun store => .bind (.forM fun stage _ => ?_) fun _ =>
    .bind (isQuiet_modify fun _ => rfl) fun _ => isQuiet_modify fun _ => rfl
  refine .ite (fun _ => .bind (.modify fun store => quiet_updateStage fun row => ?_) fun _ =>
    .bind (isQuiet_recalculateWorkItem _ _) fun _ => .pure _) fun _ => .pure _
  exact becomes_status (givenBack_status stage)

theorem isQuiet_createClaimTx (verified : Verified) (maxItems leaseSeconds : Nat)
    (environment : Environment) : IsQuiet (createClaimTx verified maxItems leaseSeconds environment) := by
  refine .bind .read fun store => ?_
  split
  · exact .pure _
  · refine .ite (fun _ => .pure _) fun _ => .ite (fun _ => .pure _) fun _ => ?_
    refine .bind (isQuiet_modify fun _ => rfl) fun _ => .bind (.forM fun row _ => ?_) fun _ =>
      .bind (isQuiet_modify fun _ => rfl) fun _ => .bind (isQuiet_modify fun _ => rfl) fun _ =>
      .bind .read fun _ => .pure _
    refine .bind (.modify fun store => ?_) fun _ =>
      .bind (isQuiet_recalculateWorkItem _ _) fun _ => .pure _
    refine quiet_updateStage fun row => ?_
    split
    · exact becomes_status (by simp)
    · exact .refl row

theorem isQuiet_idempotent {scopeKey key : String} {request : WorkerRequest}
    {operation : Runtime WorkerAnswer} (quiet : IsQuiet operation) :
    IsQuiet (idempotent scopeKey key request operation) := by
  refine .bind .read fun store => ?_
  split
  · exact .bind (.check _ _) fun _ => .pure _
  · exact .bind quiet fun _ => .bind (isQuiet_modify fun _ => rfl) fun _ => .pure _

theorem isQuiet_requireActiveClaim (verified : Verified) (claimId : String) (now : Int) :
    IsQuiet (requireActiveClaim verified claimId now) :=
  .bind .read fun _ => .bind (.require _ _) fun _ => .bind (.check _ _) fun _ =>
    .bind (.check _ _) fun _ => .bind (.check _ _) fun _ => .pure _

theorem isQuiet_claimWorkV2 (ticket : Ticket) (maxItems leaseSeconds : Option Nat) (key : String)
    (environment : Environment) :
    IsQuiet (claimWorkV2 ticket maxItems leaseSeconds key environment) := by
  refine .bind (moves_verifiedTicket _ _) fun verified => .bind (.check _ _) fun _ =>
    .bind (.ofExcept _) fun _ => .bind (.ofExcept _) fun _ => .transaction (isQuiet_idempotent ?_)
  refine .bind (isQuiet_expireClaimsTx _ _ _) fun _ => .bind (moves_verifiedTicket _ _) fun _ =>
    .bind (isQuiet_createClaimTx _ _ _ _) fun claim => ?_
  cases claim with
  | none => exact .bind (isQuiet_modify fun _ => rfl) fun _ => .pure _
  | some claim => exact .pure _

theorem isQuiet_reportProgressV2 (ticket : Ticket) (claimId report : String)
    (leaseSeconds : Option Nat) (key : String) (environment : Environment) :
    IsQuiet (reportProgressV2 ticket claimId report leaseSeconds key environment) := by
  refine .bind (moves_verifiedTicket _ _) fun verified => .bind (.ofExcept _) fun _ =>
    .transaction (isQuiet_idempotent ?_)
  refine .bind (isQuiet_requireActiveClaim _ _ _) fun claim =>
    .bind (isQuiet_modify fun _ => rfl) fun _ => .bind .read fun store =>
    .bind (.forM fun stage _ => ?_) fun _ => .pure _
  refine .ite (fun _ => .modify fun store => quiet_updateStage fun row => ?_) fun _ => .pure _
  exact becomes_status (by simp)

theorem isQuiet_reportBlockedV2 (ticket : Ticket) (claimId : String) (disposition : Disposition)
    (reason key : String) (environment : Environment) :
    IsQuiet (reportBlockedV2 ticket claimId disposition reason key environment) := by
  refine .bind (moves_verifiedTicket _ _) fun verified => .transaction (isQuiet_idempotent ?_)
  refine .bind (isQuiet_requireActiveClaim _ _ _) fun claim => .bind .read fun store =>
    .bind (.forM fun stage _ => ?_) fun _ => .bind (isQuiet_modify fun _ => rfl) fun _ =>
    .bind (isQuiet_modify fun _ => rfl) fun _ => .bind (isQuiet_modify fun _ => rfl) fun _ => .pure _
  refine .bind (.modify fun store => quiet_updateStage fun row => becomes_status ?_) fun _ =>
    .bind (isQuiet_recalculateWorkItem _ _) fun _ => .pure _
  cases disposition with
  | blockedRetryable => exact givenBack_status stage
  | waitingHuman | blockedTerminal => simp [StageRun.blockedBy]

theorem isQuiet_openPhysicalSession (slotId logicalSessionId : String) (environment : Environment) :
    IsQuiet (openPhysicalSession slotId logicalSessionId environment) := by
  refine .transaction (.bind .read fun store => .bind (.require _ _) fun binding =>
    .bind (.require _ _) fun _ => .bind (.require _ _) fun slot =>
    .bind (isQuiet_expireClaimsTx _ _ _) fun _ => .bind ?_ fun open_ => .bind (.check _ _) fun _ =>
    .bind (isQuiet_modify fun _ => rfl) fun _ => .pure _)
  cases slot.activeWorkerSessionId with
  | none => exact .pure _
  | some id => exact .bind (.require _ _) fun _ => .pure _

theorem isQuiet_rotatePhysicalSession (slotId logicalSessionId : String) (environment : Environment) :
    IsQuiet (rotatePhysicalSession slotId logicalSessionId environment) := by
  refine .transaction (.bind .read fun store => .bind (.require _ _) fun binding =>
    .bind (.require _ _) fun _ => .bind (.require _ _) fun slot =>
    .bind (isQuiet_expireClaimsTx _ _ _) fun _ => .bind .read fun store => ?_)
  split
  · refine .bind (isQuiet_modify fun store => ?_) fun _ => .pure _
    cases slot.activeWorkerSessionId with
    | none | some id => rfl
  · refine .bind (.check _ _) fun _ => .bind (isQuiet_modify fun store => ?_) fun _ => .pure _
    cases slot.activeWorkerSessionId with
    | none | some id => rfl

theorem isQuiet_serve {call : WorkerCall}
    (adds : ∀ runId items key, call.operation ≠ .addWorkItems runId items key)
    (commits : ∀ ticket claimId artifacts maxItems leaseSeconds key,
      call.operation ≠ .commitAndClaimNext ticket claimId artifacts maxItems leaseSeconds key) :
    IsQuiet (serve call) := by
  obtain ⟨operation, environment⟩ := call
  cases operation with
  | ensureWorkflowRun workflowRunId taskId moduleId moduleVersion metadata =>
    refine .transaction (.bind .read fun store => ?_)
    split
    · exact .bind (.check _ _) fun _ => .pure _
    · exact .bind (isQuiet_modify fun _ => rfl) fun _ => .pure _
  | ensureWorkerBinding binding moduleId moduleVersion =>
    refine .transaction (.bind .read fun store => .bind (.require _ _) fun run =>
      .bind (.check _ _) fun _ => ?_)
    split
    · exact .bind (.check _ _) fun _ => .pure _
    · exact .bind (isQuiet_modify fun _ => rfl) fun _ => .pure _
  | addWorkItems runId items key => exact absurd rfl (adds runId items key)
  | openPhysicalSession slotId logicalSessionId =>
    exact isQuiet_openPhysicalSession slotId logicalSessionId environment
  | bootstrapWorker ticket =>
    exact .bind (moves_verifiedTicket _ _) fun _ =>
      .transaction (.bind (isQuiet_modify fun _ => rfl) fun _ => .pure _)
  | claimWork ticket maxItems leaseSeconds key =>
    exact isQuiet_claimWorkV2 ticket maxItems leaseSeconds key environment
  | reportProgress ticket claimId report leaseSeconds key =>
    exact isQuiet_reportProgressV2 ticket claimId report leaseSeconds key environment
  | commitAndClaimNext ticket claimId artifacts maxItems leaseSeconds key =>
    exact absurd rfl (commits ticket claimId artifacts maxItems leaseSeconds key)
  | reportBlocked ticket claimId disposition reason key =>
    exact isQuiet_reportBlockedV2 ticket claimId disposition reason key environment
  | recoverWorker ticket =>
    exact .bind (moves_verifiedTicket _ _) fun _ =>
      .transaction (.bind (isQuiet_expireClaimsTx _ _ _) fun _ =>
        .bind (moves_verifiedTicket _ _) fun _ => .bind .read fun _ => .pure _)
  | rotatePhysicalSession slotId logicalSessionId =>
    exact isQuiet_rotatePhysicalSession slotId logicalSessionId environment
  | expireLeases runId expiredAt =>
    exact .transaction (.bind (isQuiet_expireClaimsTx _ _ _) fun _ => .pure _)
  | pendingWakeups limit =>
    exact .bind (.check _ _) fun _ => .bind .read fun _ =>
      .bind (.forM fun _ _ => isQuiet_modify fun _ => rfl) fun _ => .pure _
  | markWakeupDelivered id =>
    exact .transaction (.bind .read fun _ => .bind (.require _ _) fun _ =>
      .ite (fun _ => .pure _) fun _ => .bind (.check _ _) fun _ =>
        .bind (isQuiet_modify fun _ => rfl) fun _ => .pure _)
  | deferWakeup id =>
    refine .bind .read fun store => ?_
    split
    · exact .pure _
    · exact .bind (isQuiet_modify fun _ => rfl) fun _ => .pure _
  | suppressWakeup id => exact .bind (isQuiet_modify fun _ => rfl) fun _ => .pure _
  | requireRotationForWakeup id =>
    refine .transaction (.bind .read fun store => ?_)
    split
    · exact .pure _
    · exact .bind (isQuiet_modify fun _ => rfl) fun _ => .bind (isQuiet_modify fun _ => rfl) fun _ =>
        .bind (isQuiet_modify fun _ => rfl) fun _ => .pure _

/-! ## Readiness -/

theorem mem_updateStage {id : String} {change : StageRun → StageRun} {row' : StageRun} :
    row' ∈ (store.updateStage id change).stages ↔ (row' ∈ store.stages ∧ row'.stageRunId ≠ id) ∨
        ∃ row ∈ store.stages, row.stageRunId = id ∧ row' = change row := by
  simp only [WorkerStore.updateStage, updateRows, List.mem_map]
  constructor
  · rintro ⟨row, member, rfl⟩
    by_cases same : row.stageRunId = id
    · exact .inr ⟨row, member, same, by simp [same]⟩
    · exact .inl (by simp [same, member])
  · rintro (⟨member, other⟩ | ⟨row, member, same, rfl⟩)
    · exact ⟨row', member, by simp [other]⟩
    · exact ⟨row, member, by simp [same]⟩

theorem kept_status (row : StageRun) (status : StageStatus) :
    row.Kept { row with status := status } := ⟨rfl, rfl, rfl⟩

theorem ensures_recalculate {id : String} (sound : Sound lawful (id :: loose) store.tables) :
    (recalculateStageReadiness id).Ensures (fun _ after => Sound lawful loose after.tables)
      (fun _ _ => True) store := by
  refine (ensures_bind _ _).2 (ensures_read.2 ((ensures_bind _ _).2
    (.require (fun row found => ?_) trivial)))
  have member : row ∈ store.stages := List.mem_of_find?_eq_some found
  have isId : row.stageRunId = id := by simpa using List.find?_some found
  refine (ensures_ite _ _ _).2 ⟨fun waiting => ?_, fun works => (ensures_pure _).2 ?_⟩
  · refine (ensures_bind _ _).2 ((ensures_modify _).2 ((ensures_pure _).2 ?_))
    generalize new : (if store.unresolved id = 0 then StageStatus.ready else .pending) = status
    have open_ : status ≠ .completed := by
      rw [← new]
      split <;> simp
    refine sound.changes (changes_updateStage (fun row => kept_status row status)
      (fun row => (StageRun.Becomes.refl row).toKept) fun row _ => kept_status row status)
      fun row' now isPending tight => ?_
    -- the parent a stage waited for is as it was, or is not completed
    have still {parent : StageRun} (before : parent ∈ store.stages)
        (edge : store.tables.DependsOn row'.stageRunId parent.stageRunId)
        (unfinished : parent.status ≠ .completed) :
        ∃ parent ∈ (store.updateStage id fun row => { row with status := status }).stages,
          store.tables.DependsOn row'.stageRunId parent.stageRunId ∧ parent.status ≠ .completed := by
      by_cases same : parent.stageRunId = id
      · exact ⟨_, mem_updateStage.2 (.inr ⟨parent, before, same, rfl⟩), edge, open_⟩
      · exact ⟨parent, mem_updateStage.2 (.inl ⟨before, same⟩), edge, unfinished⟩
    rcases mem_updateStage.1 now with ⟨before, other⟩ | ⟨row, before, same, rfl⟩
    · obtain ⟨parent, isParent, edge, unfinished⟩ := sound.waits row' before isPending
        fun listed => (List.mem_cons.1 listed).elim other tight
      exact still isParent edge unfinished
    · have blocked : store.unresolved id ≠ 0 := fun free => by
        rw [if_pos free] at new
        exact absurd (new.trans isPending) (by decide)
      obtain ⟨edge, listed⟩ := List.exists_mem_of_length_pos (Nat.pos_of_ne_zero blocked)
      simp only [List.mem_filter, Bool.and_eq_true, decide_eq_true_eq, Option.any_eq_true,
        ne_eq] at listed
      obtain ⟨listed, isChild, parent, found, unfinished⟩ := listed
      have isParent : parent.stageRunId = edge.2 := by simpa using List.find?_some found
      refine still (List.mem_of_find?_eq_some found) ?_ unfinished
      show (row.stageRunId, parent.stageRunId) ∈ store.dependencies
      rw [same, isParent, ← isChild]
      exact listed
  · refine ⟨sound.distinct, sound.housed, sound.known, sound.acyclic,
      fun other member' isPending tight => sound.waits other member' isPending fun listed => ?_⟩
    rcases List.mem_cons.1 listed with same | listed
    · rw [sound.eq_of_id member' member (same.trans isId.symm)] at isPending
      exact works (.inl isPending)
    · exact tight listed

/-! ## Commits -/

abbrev Keeps (lawful : Prop) {α : Type} (operation : Runtime α) : Prop :=
  ∀ store : WorkerStore, Sound lawful [] store.tables →
    operation.Ensures (fun _ after => Sound lawful [] after.tables) (fun _ _ => True) store

theorem Keeps.bind {α β : Type} {operation : Runtime α} {next : α → Runtime β}
    (first : Keeps lawful operation) (second : ∀ value, Keeps lawful (next value)) :
    Keeps lawful (operation >>= next) := fun store sound =>
  (ensures_bind _ _).2 ((first store sound).imp fun value after kept => second value after kept)

theorem keeps_of_isQuiet {α : Type} {operation : Runtime α} (quiet : IsQuiet operation) :
    Keeps lawful operation := fun _ sound =>
  quiet.ensures (fun _ _ moved => sound.quiet moved) fun _ _ _ => trivial

theorem keeps_idempotent {scopeKey key : String} {request : WorkerRequest}
    {operation : Runtime WorkerAnswer} (keeps : Keeps lawful operation) :
    Keeps lawful (idempotent scopeKey key request operation) := by
  refine Keeps.bind (keeps_of_isQuiet .read) fun store => ?_
  split
  · exact keeps_of_isQuiet (.bind (.check _ _) fun _ => .pure _)
  · exact Keeps.bind keeps fun _ => keeps_of_isQuiet (.bind (isQuiet_modify fun _ => rfl) fun _ => .pure _)

theorem ensures_release {dependents released : List String} (sound : Sound lawful dependents store.tables) :
    (dependents.foldlM releaseDependent released).Ensures (fun _ after => Sound lawful [] after.tables)
      (fun _ _ => True) store := by
  induction dependents generalizing store released with
  | nil => exact (ensures_pure _).2 sound
  | cons dependent dependents ih =>
    rw [List.foldlM_cons]
    refine (ensures_bind _ _).2 ((ensures_bind _ _).2 (ensures_read.2 ((ensures_bind _ _).2 ?_)))
    exact (ensures_recalculate sound).imp fun _ after kept => (ensures_pure _).2 (ih kept)

theorem keeps_commitStage (runId : String) (artifacts : List ArtifactRef)
    (progress : List String × List String) (stage : StageRun) :
    Keeps lawful (commitStage runId artifacts progress stage) := by
  intro store sound
  refine (ensures_bind _ _).2 (.check (fun _ => ?_) trivial)
  refine (ensures_bind _ _).2 ((ensures_modify _).2 ((ensures_bind _ _).2 (ensures_read.2 ?_)))
  refine (ensures_bind _ _).2 (.imp (ensures_release ?_) fun released after kept =>
    keeps_of_isQuiet (.bind (isQuiet_recalculateWorkItem _ _) fun _ => .pure _) after kept)
  -- whoever waited for the stage alone is among its dependents
  refine sound.changes (changes_updateStage (fun _ => ⟨rfl, rfl, rfl⟩)
    (fun row => (StageRun.Becomes.refl row).toKept) fun _ _ => ⟨rfl, rfl, rfl⟩)
    fun row' now isPending tight => ?_
  rcases mem_updateStage.1 now with ⟨before, other⟩ | ⟨row, before, same, rfl⟩
  · obtain ⟨parent, isParent, edge, unfinished⟩ :=
      sound.waits row' before isPending List.not_mem_nil
    refine ⟨parent, mem_updateStage.2 (.inl ⟨isParent, fun same => tight ?_⟩), edge, unfinished⟩
    refine (List.mem_insertionSort _).2 (List.mem_map.2 ⟨_, List.mem_filter.2 ⟨edge, ?_⟩, rfl⟩)
    simp [same]
  · exact absurd isPending (by simp)

theorem keeps_commit (ticket : Ticket) (claimId : String) (artifacts : List ArtifactRef)
    (maxItems leaseSeconds : Option Nat) (key : String) (environment : Environment)
    (sound : Sound lawful [] store.tables) :
    (commitAndClaimNext ticket claimId artifacts maxItems leaseSeconds key environment).Ensures
      (fun _ after => Sound lawful [] after.tables) (fun _ after => Sound lawful [] after.tables) store := by
  refine (moves_verifiedTicket _ _).first (fun verified store moved => ?_)
    fun _ _ moved => sound.quiet moved
  replace sound := sound.quiet moved
  refine (ensures_bind _ _).2 (.ofExcept (fun _ _ => (ensures_bind _ _).2
    (.ofExcept (fun _ _ => (ensures_transaction _).2 ?_) fun _ => sound)) fun _ => sound)
  refine (keeps_idempotent ?_ store sound).mono (fun _ _ kept => kept) fun _ _ _ => sound
  refine .bind (keeps_of_isQuiet (isQuiet_requireActiveClaim _ _ _)) fun claim =>
    .bind (keeps_of_isQuiet .read) fun store => .bind (keeps_of_isQuiet (.forM fun _ _ =>
      .bind (.check _ _) fun _ => .check _ _)) fun _ => .bind ?_ fun progress => keeps_of_isQuiet ?_
  · exact fun store sound => Procedure.ensures_foldlM (fun _ after => Sound lawful [] after.tables)
      (fun stage _ progress store kept => keeps_commitStage _ _ progress stage store kept) sound
  · refine .bind (isQuiet_modify fun _ => rfl) fun _ => .bind .read fun _ =>
      .bind (.forM fun _ _ => isQuiet_modify fun _ => rfl) fun _ =>
      .bind (isQuiet_modify fun _ => rfl) fun _ => .bind .read fun store =>
      .bind (.require _ _) fun session => .ite (fun _ => ?_) fun _ => ?_
    · exact .bind (isQuiet_modify fun _ => rfl) fun _ => .bind (.pure _) fun _ =>
        .bind (isQuiet_modify fun _ => rfl) fun _ => .pure _
    · exact .bind (moves_verifiedTicket _ _) fun refreshed =>
        .bind (isQuiet_createClaimTx _ _ _ _) fun _ => .bind (isQuiet_modify fun _ => rfl) fun _ =>
        .pure _

end Zero3Pilot.WorkerRuntime
