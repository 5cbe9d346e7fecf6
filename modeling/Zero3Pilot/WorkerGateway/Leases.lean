import Zero3Pilot.WorkerGateway.Outcomes

/-! # Leases the gateway honours

A lease says until when its holder may report an outcome, and `validate_active_lease` asks for no
other deadline. But a refresh expires the request of the lease when the request is due, also where
that is before the lease runs out. -/

namespace Zero3Pilot.WorkerGateway

open Procedure (ensures_bind ensures_read ensures_map ensures_modify ensures_pure)

variable {node : String} {history : GatewayHistory} {state after last : WorkerGatewayState}
  {lease : WorkerRpcLease} {call : GatewayCall} {report : Report}

/-! ## Reports of the holder -/

/-- **The holder of a lease reports** an outcome before the lease runs out, and no file access
fails. -/
structure Reports (node : String) (lease : WorkerRpcLease) (call : GatewayCall) (report : Report) :
    Prop where
  operation : call.operation.report? = some report
  request : report.requestId = lease.requestId
  host : report.nodeId = node
  leaseId : report.leaseId = lease.leaseId
  token : report.fencingToken = lease.fencingToken
  described : ∀ error ∈ report.outcome.error, error ≠ "" ∧ error.utf8ByteSize ≤ 4096
  inTime : call.environment.refreshedAt < lease.leaseExpiresAt ∧
    call.environment.now < lease.leaseExpiresAt
  files : (∀ id, call.environment.refreshFault id = none) ∧ call.environment.fault = none

/-- A call is served before a lease runs out and records no outcome of its request. -/
def Between (node : String) (lease : WorkerRpcLease) (state : WorkerGatewayState)
    (call : GatewayCall) : Prop :=
  call.environment.refreshedAt < lease.leaseExpiresAt ∧
    ∀ record : WorkerRpcRecord, (serve node call state).2.requests[lease.requestId]? = some record →
      record.state ≠ .completed ∧ record.state ≠ .failed

/-- **The gateway honours a lease**: a report of the holder is answered with the reported outcome. -/
def Honoured (node : String) (history : GatewayHistory) (lease : WorkerRpcLease)
    (state : WorkerGatewayState) : Prop :=
  ∀ (later : GatewayHistory) (last : WorkerGatewayState),
    (gatewayMachine node).Run (Between node lease) state later last →
      (uuids (history ++ later)).Nodup →
        ∀ (call : GatewayCall) (report : Report), Reports node lease call report →
          ∃ record : WorkerRpcRecord, (serve node call last).1 = .ok (.record record) ∧
            (serve node call last).2.requests[lease.requestId]? = some record ∧
            record.state = report.outcome.state ∧ record.result = report.outcome.result ∧
            record.error = report.outcome.error

theorem report_outcome (operation : call.operation.report? = some report) :
    report.outcome.state = .completed ∨ report.outcome.state = .failed := by
  unfold GatewayOperation.report? at operation
  split at operation
  · cases operation
    exact .inl rfl
  · cases operation
    exact .inr rfl
  · cases operation

/-! ## Held leases -/

structure WorkerRpcRecord.HeldBy (node : String) (lease : WorkerRpcLease) (due : Int)
    (record : WorkerRpcRecord) : Prop where
  isLeased : record.state = .leased
  target : record.targetNodeId = node
  leaseId : record.leaseId = some lease.leaseId
  token : record.fencingToken = lease.fencingToken
  expires : record.leaseExpiresAt = some lease.leaseExpiresAt
  due : record.expiresAt = due

def Held (node : String) (lease : WorkerRpcLease) (due : Int) (state : WorkerGatewayState) : Prop :=
  ∃ record : WorkerRpcRecord, state.requests[lease.requestId]? = some record ∧
    record.HeldBy node lease due

variable {due now : Int} {record : WorkerRpcRecord}

theorem WorkerRpcRecord.HeldBy.live (held : record.HeldBy node lease due) :
    ¬ record.state.isTerminal := by
  simp [held.isLeased, WorkerRequestState.isTerminal]

theorem WorkerRpcRecord.HeldBy.kept (held : record.HeldBy node lease due)
    (lasts : lease.leaseExpiresAt ≤ due) (early : now < lease.leaseExpiresAt) :
    record.kept now = some record := by
  have notDue : ¬ record.expiresAt ≤ now := by
    rw [held.due]
    omega
  have notOut : ¬ ∃ expires ∈ record.leaseExpiresAt, expires ≤ now := by
    rw [held.expires]
    simpa using early
  rw [WorkerRpcRecord.kept, if_neg fun evicted => notDue evicted.2, WorkerRpcRecord.refreshed,
    if_neg fun isDue => notDue isDue.2, if_neg fun out => notOut out.2]

theorem WorkerRpcRecord.HeldBy.expired (held : record.HeldBy node lease due) :
    ∃ kept, record.kept due = some kept ∧ kept.state = .expired := by
  refine ⟨_, if_neg fun evicted => held.live evicted.1, ?_⟩
  rw [WorkerRpcRecord.refreshed, if_pos ⟨by simpa using held.live, Int.le_of_eq held.due⟩]

theorem Held.refreshed (held : Held node lease due state) (lasts : lease.leaseExpiresAt ≤ due)
    (early : now < lease.leaseExpiresAt) (refreshed : Refreshed now state after) :
    Held node lease due after := by
  obtain ⟨record, found, by_lease⟩ := held
  refine ⟨record, ?_, by_lease⟩
  rcases refreshed lease.requestId with same | kept
  · rw [same, found]
  · rw [kept, found, Option.bind_some, by_lease.kept lasts early]

/-- **A lease stays held** in a call that records no outcome of its request. -/
theorem Held.effect {answer : Except ApiError GatewayAnswer} (held : Held node lease due state)
    (effect : Effect node call state answer after) (invariant : QueueInvariant node history state)
    (distinct : (uuids (history ++ [(call, answer)])).Nodup)
    (noOutcome : ∀ record : WorkerRpcRecord, after.requests[lease.requestId]? = some record →
      record.state ≠ .completed ∧ record.state ≠ .failed) : Held node lease due after := by
  obtain ⟨record, found, by_lease⟩ := held
  have other {key : String} {inserted : WorkerRpcRecord} (differs : key ≠ lease.requestId) :
      Held node lease due ⟨state.requests.insert key inserted⟩ := by
    refine ⟨record, ?_, by_lease⟩
    rw [Std.ExtTreeMap.getElem?_insert, if_neg (by simpa using differs), found]
  cases effect with
  | none | idle => exact ⟨record, found, by_lease⟩
  | submitted capability =>
    refine other fun same => not_drawn distinct capability ?_
    rw [same]
    exact (invariant.tracked _ record found).drawn
  | leased capabilities leased operation isOldest =>
    obtain ⟨⟨key, listed⟩, isQueued, -, -⟩ :=
      WorkerGatewayState.mem_candidates.1 (oldest_spec isOldest).1
    obtain rfl := (invariant.tracked key leased listed).own
    refine other fun same => ?_
    rw [same, found] at listed
    cases listed
    rw [by_lease.isLeased] at isQueued
    cases isQueued
  | finished report reported operation =>
    refine other fun same => ?_
    have recorded := noOutcome (reported.finishedAt report.outcome call.environment) (by simp [same])
    exact (report_outcome operation).elim recorded.1 recorded.2

theorem Held.run {later : GatewayHistory} (held : Held node lease due state)
    (lasts : lease.leaseExpiresAt ≤ due) (invariant : QueueInvariant node history state)
    (run : (gatewayMachine node).Run (Between node lease) state later last)
    (distinct : (uuids (history ++ later)).Nodup) :
    QueueInvariant node (history ++ later) last ∧ Held node lease due last := by
  refine run.invariant (fun later last => (uuids (history ++ later)).Nodup →
    QueueInvariant node (history ++ later) last ∧ Held node lease due last) ?_ ?_ distinct
  · intro _
    rw [List.append_nil]
    exact ⟨invariant, held⟩
  · intro later last call ih between distinct
    rw [← List.append_assoc] at distinct ⊢
    obtain ⟨kept, held⟩ := ih (uuids_nodup_left distinct)
    obtain ⟨mid, refreshed, effect⟩ := (serves node call last).effect
    have mid_kept := refreshed.invariant kept
    exact ⟨effect.invariant distinct mid_kept,
      (held.refreshed lasts between.1 refreshed).effect effect mid_kept distinct between.2⟩

theorem QueueInvariant.drawn_of_held (invariant : QueueInvariant node history state)
    (held : Held node lease due state) : Drawn history lease.requestId := by
  obtain ⟨record, found, -⟩ := held
  exact (invariant.tracked _ record found).drawn

/-! ## The report of the holder -/

/-- The identifier of a request passes its check. -/
theorem validateId_drawn {id label : String} (drawn : Drawn history id) :
    validateId label id = .ok () := by
  obtain ⟨step, -, capability, rfl⟩ := drawn
  obtain ⟨kind, isId, length, chars⟩ : ∃ kind, requestIdFor capability step.1.environment.uuid =
      kind ++ step.1.environment.uuid.text ∧ kind.toList.length = 5 ∧
        kind.toList.all ControlPlane.isIdChar = true := by
    refine ⟨_, rfl, ?_⟩
    split_ifs <;> exact ⟨by decide, by decide⟩
  have total : (kind ++ step.1.environment.uuid.text).toList.length = 41 := by
    rw [String.toList_append, List.length_append, step.1.environment.uuid.length, length]
  rw [isId, validateId, ensure_ok]
  refine ⟨fun empty => ?_, ?_, List.all_eq_true.2 fun char member => ?_⟩
  · rw [empty] at total
    simp at total
  · have bound := utf8ByteSize_le (kind ++ step.1.environment.uuid.text)
    omega
  · rw [String.toList_append] at member
    rcases List.mem_append.1 member with member | member
    · simp [List.all_eq_true.1 chars char member]
    · rcases isAlphanum_of_isUuidChar (List.all_eq_true.1 step.1.environment.uuid.plain char member)
        with alphanum | rfl
      · simp [ControlPlane.isIdChar, alphanum]
      · decide

theorem Held.finish (held : Held node lease due state) (lasts : lease.leaseExpiresAt ≤ due)
    (drawn : Drawn history lease.requestId) (reports : Reports node lease call report) :
    (finish report.requestId report.nodeId report.leaseId report.fencingToken report.outcome
        call.environment).Ensures
      (fun record after => after.requests[lease.requestId]? = some record ∧
        record.state = report.outcome.state ∧ record.result = report.outcome.result ∧
        record.error = report.outcome.error)
      (fun _ _ => False) state := by
  obtain ⟨record, found, by_lease⟩ := held
  have valid : validateActiveLease record report.nodeId report.leaseId report.fencingToken
      call.environment.now = .ok () := by
    simp only [validateActiveLease, bind_ok, ensure_ok, by_lease.isLeased, by_lease.target,
      by_lease.leaseId, by_lease.token, by_lease.expires, reports.host, reports.leaseId,
      reports.token]
    simpa using reports.inTime.2
  rw [WorkerGateway.finish, reports.request, ensures_bind, validateId_drawn drawn,
    Procedure.ofExcept_ok, ensures_pure, ensures_bind]
  refine (refreshLocked_ensures.and (refreshLocked_unbroken reports.files.1)).mono ?_ ?_
  · rintro - mid ⟨kept, -⟩
    have stays : mid.requests[lease.requestId]? = some record := by
      rw [kept, found, Option.bind_some, by_lease.kept lasts reports.inTime.1]
    simp only [ensures_bind, ensures_read]
    rw [stays, Procedure.require_some, ensures_pure]
    refine .otherwise by_lease.live ?_
    rw [valid, reports.files.2, persist]
    simp only [ensures_bind, Procedure.ofExcept_ok, ensures_pure, ensures_modify]
    exact ⟨by simp, rfl, rfl, rfl⟩
  · rintro error mid ⟨-, broken⟩
    exact broken.elim

theorem Held.serve (held : Held node lease due state) (lasts : lease.leaseExpiresAt ≤ due)
    (drawn : Drawn history lease.requestId) (reports : Reports node lease call report) :
    ∃ record : WorkerRpcRecord, (serve node call state).1 = .ok (.record record) ∧
      (serve node call state).2.requests[lease.requestId]? = some record ∧
      record.state = report.outcome.state ∧ record.result = report.outcome.result ∧
      record.error = report.outcome.error := by
  have ensured : (WorkerGateway.serve node call).Ensures
      (fun answer after => ∃ record, answer = .record record ∧
        after.requests[lease.requestId]? = some record ∧ record.state = report.outcome.state ∧
        record.result = report.outcome.result ∧ record.error = report.outcome.error)
      (fun _ _ => False) state := by
    have finished := held.finish lasts drawn reports
    have described := reports.described
    have operation := reports.operation
    rw [WorkerGateway.serve]
    cases asked : call.operation with
    | complete requestId nodeId leaseId fencingToken result =>
      rw [asked] at operation
      cases operation
      exact (ensures_map _ _).2 (finished.imp fun record _ recorded => ⟨record, rfl, recorded⟩)
    | fail requestId nodeId leaseId fencingToken error =>
      rw [asked] at operation
      cases operation
      rw [ensures_map, fail, ensures_bind]
      exact .passes (described _ rfl) (finished.imp fun record _ recorded => ⟨record, rfl, recorded⟩)
    | submitFor | tryLeaseFor | get =>
      rw [asked] at operation
      cases operation
  cases ran : WorkerGateway.serve node call state with
  | mk answer after =>
    cases answer with
    | ok answer =>
      obtain ⟨record, rfl, recorded⟩ := ensured.returned ran
      exact ⟨record, rfl, recorded⟩
    | error error => exact (ensured.threw ran).elim

/-! ## Leases and requests -/

def lateReport (node : String) (lease : WorkerRpcLease) (time : Int) (uuid : Uuid) : GatewayCall where
  operation := .complete lease.requestId node lease.leaseId lease.fencingToken (.object [])
  environment :=
    { refreshedAt := time, now := time, updatedAt := time, uuid, refreshFault _ := none, fault := none }

theorem Held.not_completed {uuid : Uuid} (held : Held node lease due state)
    (answered : (WorkerGateway.serve node (lateReport node lease due uuid) state).1 =
      .ok (.record record))
    (recorded : (WorkerGateway.serve node (lateReport node lease due uuid) state).2.requests[
      lease.requestId]? = some record) : record.state ≠ .completed := by
  obtain ⟨before, found, by_lease⟩ := held
  obtain ⟨kept, isKept, isExpired⟩ := by_lease.expired
  have served := serves node (lateReport node lease due uuid) state
  rw [answered] at served
  generalize (WorkerGateway.serve node (lateReport node lease due uuid) state).2 = after
    at served recorded
  cases served with
  | answered refreshed effect =>
    rename_i mid
    have inMid : mid.requests[lease.requestId]? = some kept := by
      rw [refreshLocked_ensures.returned refreshed, found]
      exact isKept
    cases effect with
    | none =>
      rw [inMid] at recorded
      cases recorded
      simp [isExpired]
    | submitted _ _ _ operation => cases operation
    | finished report reported operation listed live =>
      cases operation
      rw [inMid] at listed
      cases listed
      simp [isExpired, WorkerRequestState.isTerminal] at live

theorem QueueInvariant.held_of_leased (invariant : QueueInvariant node history state)
    (leased : WorkerGateway.serve node call state = (.ok (.lease (some lease)), after))
    (found : state.requests[lease.requestId]? = some record) :
    Held node lease record.expiresAt after ∧ lease.leaseExpiresAt =
      call.environment.now + leaseTtl record.capability record.tool := by
  have served := serves node call state
  rw [leased] at served
  obtain ⟨mid, refreshed, effect⟩ := served.effect
  have mid_kept := refreshed.invariant invariant
  cases effect with
  | none _ noLease => exact noLease.elim
  | leased asked chosen operation isOldest =>
    obtain ⟨⟨key, listed⟩, -, target, -⟩ :=
      WorkerGatewayState.mem_candidates.1 (oldest_spec isOldest).1
    obtain rfl := (mid_kept.tracked key chosen listed).own
    obtain ⟨before, found', same⟩ := refreshed.found listed
    have isRecord : before = record := Option.some.inj (found'.symm.trans found)
    subst isRecord
    have fields : chosen.expiresAt = before.expiresAt ∧ chosen.capability = before.capability ∧
        chosen.tool = before.tool := by
      rcases same with rfl | isKept
      · exact ⟨rfl, rfl, rfl⟩
      · obtain rfl | ⟨-, -, rfl⟩ | ⟨-, rfl⟩ := WorkerRpcRecord.kept_cases isKept
        all_goals exact ⟨rfl, rfl, rfl⟩
    rw [← fields.1, ← fields.2.1, ← fields.2.2]
    exact ⟨⟨chosen.leasedAt call.environment, by simp [WorkerRpcRecord.grant],
      rfl, target, rfl, rfl, rfl, rfl⟩, rfl⟩

/-- **A lease is honoured exactly when its request is not due before it runs out.** -/
theorem honoured_iff (run : (gatewayMachine node).Run Machine.anyStep .empty history state)
    (leased : serve node call state = (.ok (.lease (some lease)), after))
    (distinct : (uuids (history ++ [(call, .ok (.lease (some lease)))])).Nodup)
    (found : state.requests[lease.requestId]? = some record) :
    Honoured node (history ++ [(call, .ok (.lease (some lease)))]) lease after ↔
      call.environment.now + leaseTtl record.capability record.tool ≤ record.expiresAt := by
  have invariant := invariant_of_run run (uuids_nodup_left distinct)
  obtain ⟨held, expires⟩ := invariant.held_of_leased leased found
  rw [← expires]
  constructor
  · intro honoured
    by_contra late
    have early := Int.not_le.1 late
    obtain ⟨answer, answered, recorded, completed, -⟩ := honoured [] after .nil
      (by simpa using distinct) (lateReport node lease record.expiresAt call.environment.uuid) _
      ⟨rfl, rfl, rfl, rfl, rfl, by simp, ⟨early, early⟩, fun _ => rfl, rfl⟩
    exact held.not_completed answered recorded completed
  · intro lasts later last next distinct' reporting report reports
    have served := serves node call state
    rw [leased] at served
    obtain ⟨mid, refreshed, effect⟩ := served.effect
    have start := effect.invariant distinct (refreshed.invariant invariant)
    obtain ⟨kept, isHeld⟩ := held.run lasts start next distinct'
    have drawn := kept.drawn_of_held isHeld
    exact isHeld.serve lasts drawn reports

def submittedRun : GatewayHistory × WorkerGatewayState :=
  (gatewayMachine "node-1").exec .empty (sampleCalls.take 1)

/-- The host asks for a request. -/
def leaseCall (time : Int) : GatewayCall :=
  ⟨.tryLeaseFor "node-1" [workerCapability], sampleEnvironment time (sampleUuid 1)⟩

def leaseOf : Except ApiError GatewayAnswer → Option WorkerRpcLease
  | .ok (.lease lease) => lease
  | _ => none

theorem eq_of_leaseOf {answer : Except ApiError GatewayAnswer} (isLease : leaseOf answer = some lease) :
    answer = .ok (.lease (some lease)) := by
  unfold leaseOf at isLease
  split at isLease
  · rw [isLease]
  · cases isLease

def earlyLease : WorkerRpcLease :=
  (leaseOf (serve "node-1" (leaseCall (seconds 1)) submittedRun.2).1).get (by decide +kernel)

def earlyRecord : WorkerRpcRecord :=
  (submittedRun.2.requests[earlyLease.requestId]?).get (by decide +kernel)

theorem honoured_iff_sample :
    Honoured "node-1" (submittedRun.1 ++ [(leaseCall (seconds 1), .ok (.lease (some earlyLease)))])
      earlyLease (serve "node-1" (leaseCall (seconds 1)) submittedRun.2).2 :=
  have found : submittedRun.2.requests[earlyLease.requestId]? = some earlyRecord :=
    (Option.some_get _).symm
  (honoured_iff (Machine.exec_run _ _ (sampleCalls.take 1) ⟨trivial, trivial⟩)
    (Prod.ext (eq_of_leaseOf (Option.some_get _).symm) rfl) (by decide +kernel)
    found).2 (by decide +kernel)

def lateLease : WorkerRpcLease :=
  (leaseOf (serve "node-1" (leaseCall (seconds 100)) submittedRun.2).1).get (by decide +kernel)

/-- The lease of 100 seconds after the submission lasts for 30 seconds, and the request for 20. -/
theorem honoured_iff_counterexample :
    (gatewayMachine "node-1").Run Machine.anyStep .empty submittedRun.1 submittedRun.2 ∧
      (serve "node-1" (leaseCall (seconds 100)) submittedRun.2).1 = .ok (.lease (some lateLease)) ∧
      lateLease.leaseExpiresAt = seconds 130 ∧
      ¬ Honoured "node-1"
        (submittedRun.1 ++ [(leaseCall (seconds 100), .ok (.lease (some lateLease)))]) lateLease
        (serve "node-1" (leaseCall (seconds 100)) submittedRun.2).2 := by
  refine ⟨Machine.exec_run _ _ (sampleCalls.take 1) ⟨trivial, trivial⟩, eq_of_leaseOf (Option.some_get _).symm,
    by decide +kernel, fun honoured => ?_⟩
  obtain ⟨record, answered, -⟩ := honoured [] _ .nil (by decide +kernel)
    (lateReport "node-1" lateLease (seconds 125) (sampleUuid 2)) _
    ⟨rfl, rfl, rfl, rfl, rfl, by simp, ⟨by decide +kernel, by decide +kernel⟩, fun _ => rfl, rfl⟩
  have refused : refusal (serve "node-1" (lateReport "node-1" lateLease (seconds 125) (sampleUuid 2))
      (serve "node-1" (leaseCall (seconds 100)) submittedRun.2).2).1 = some .conflict := by
    decide +kernel
  rw [answered] at refused
  cases refused

end Zero3Pilot.WorkerGateway
