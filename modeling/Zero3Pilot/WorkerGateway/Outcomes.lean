import Zero3Pilot.WorkerGateway.QueueInvariant

/-! # Outcomes of worker requests

Who decides how a request ends, and who hears of it. A request is leased in the order of creation,
its outcome is recorded for the holder of its newest lease alone, and it does not change any more. It
is delivered to the caller that waits for it unless its record is evicted first, which a refresh does
to every terminal record that is due, whoever calls. -/

namespace Zero3Pilot.WorkerGateway

open Procedure (ensures_bind ensures_read ensures_map ensures_modify ensures_pure ensures_fail
  ensures_ite)

variable {node : String} {history later : GatewayHistory} {state after : WorkerGatewayState}

/-! ## Outcomes do not change -/

def SameOutcome (record record' : WorkerRpcRecord) : Prop :=
  record'.state = record.state ∧ record'.result = record.result ∧ record'.error = record.error

def Settled (id : String) (record : WorkerRpcRecord) (state : WorkerGatewayState) : Prop :=
  ∀ record' : WorkerRpcRecord, state.requests[id]? = some record' → SameOutcome record record'

variable {id : String} {record : WorkerRpcRecord}

theorem Settled.refreshed {now : Int} (terminal : record.state.isTerminal)
    (settled : Settled id record state) (refreshed : Refreshed now state after) :
    Settled id record after := by
  intro record' found
  obtain ⟨before, held, rfl | isKept⟩ := refreshed.found found
  · exact settled record' held
  · have same := settled before held
    have ended : before.state.isTerminal := by rw [same.1, terminal]
    obtain rfl | ⟨live, -, -⟩ | ⟨isLeased, -⟩ := WorkerRpcRecord.kept_cases isKept
    · exact same
    · exact absurd ended live
    · simp [isLeased, WorkerRequestState.isTerminal] at ended

variable {call : GatewayCall}

theorem Settled.effect {answer : Except ApiError GatewayAnswer} (terminal : record.state.isTerminal)
    (settled : Settled id record state) (effect : Effect node call state answer after)
    (invariant : QueueInvariant node history state) (drawn : Drawn history id)
    (distinct : (uuids (history ++ [(call, answer)])).Nodup) : Settled id record after := by
  have other {key : String} {inserted : WorkerRpcRecord} (differs : key ≠ id) :
      Settled id record ⟨state.requests.insert key inserted⟩ := by
    intro record' found
    rw [Std.ExtTreeMap.getElem?_insert, if_neg (by simpa using differs)] at found
    exact settled record' found
  have alive {before : WorkerRpcRecord} (found : state.requests[id]? = some before)
      (live : ¬ before.state.isTerminal) : False := live (by rw [(settled before found).1, terminal])
  cases effect with
  | none | idle => exact settled
  | submitted capability =>
    refine other fun same => not_drawn distinct capability ?_
    rwa [same]
  | leased capabilities leased operation isOldest =>
    obtain ⟨⟨key, found⟩, isQueued, -, -⟩ :=
      WorkerGatewayState.mem_candidates.1 (oldest_spec isOldest).1
    obtain rfl := (invariant.tracked key leased found).own
    refine other fun same => alive (same ▸ found) ?_
    simp [isQueued, WorkerRequestState.isTerminal]
  | finished report reported operation found live valid =>
    exact other fun same => alive (same ▸ found) live

/-- **An outcome does not change** in a run. -/
theorem QueueInvariant.settled (invariant : QueueInvariant node history state)
    (found : state.requests[id]? = some record) (terminal : record.state.isTerminal)
    (run : (gatewayMachine node).Run Machine.anyStep state later after)
    (distinct : (uuids (history ++ later)).Nodup) : Settled id record after := by
  have drawn := (invariant.tracked id record found).drawn
  refine (run.invariant (fun later after => (uuids (history ++ later)).Nodup →
    QueueInvariant node (history ++ later) after ∧ Settled id record after) ?_ ?_ distinct).2
  · intro _
    refine ⟨by rwa [List.append_nil], fun record' found' => ?_⟩
    rw [found] at found'
    cases found'
    exact ⟨rfl, rfl, rfl⟩
  · intro later after call ih _ distinct
    rw [← List.append_assoc] at distinct ⊢
    obtain ⟨kept, settled⟩ := ih (uuids_nodup_left distinct)
    obtain ⟨mid, refreshed, effect⟩ := (serves node call after).effect
    have mid_kept := refreshed.invariant kept
    exact ⟨effect.invariant distinct mid_kept,
      (settled.refreshed terminal refreshed).effect terminal effect mid_kept (drawn.append _) distinct⟩

/-! ## Who records an outcome -/

/-- **The call comes from the holder of the newest lease** of a request, which has not run out. -/
def FromHolder (node : String) (history : GatewayHistory) (id : String) (call : GatewayCall) : Prop :=
  ∃ report, call.operation.report? = some report ∧ report.requestId = id ∧ report.nodeId = node ∧
    ∃ lease ∈ (grants history id).getLast?, report.leaseId = lease.leaseId ∧
      report.fencingToken = lease.fencingToken ∧ call.environment.now < lease.leaseExpiresAt

theorem QueueInvariant.holder (invariant : QueueInvariant node history state)
    {before record : WorkerRpcRecord} (found : state.requests[id]? = some before)
    (live : ¬ before.state.isTerminal) (ended : (serve node call state).2.requests[id]? = some record)
    (outcome : record.state = .completed ∨ record.state = .failed) :
    FromHolder node history id call := by
  obtain ⟨mid, refreshed, effect⟩ := (serves node call state).effect
  have mid_kept := refreshed.invariant invariant
  -- neither the refresh nor a call about another request records an outcome
  have notYet {record : WorkerRpcRecord} (held : mid.requests[id]? = some record) :
      ¬ (record.state = .completed ∨ record.state = .failed) := by
    obtain ⟨earlier, found', same⟩ := refreshed.found held
    rw [found] at found'
    cases found'
    rcases same with rfl | isKept
    · intro recorded
      exact live (by rcases recorded with recorded | recorded <;> rw [recorded] <;> rfl)
    · obtain rfl | ⟨-, -, rfl⟩ | ⟨-, rfl⟩ := WorkerRpcRecord.kept_cases isKept
      · intro recorded
        exact live (by rcases recorded with recorded | recorded <;> rw [recorded] <;> rfl)
      · simp
      · simp
  have elsewhere {key : String} {inserted : WorkerRpcRecord} (differs : key ≠ id)
      (held : (mid.requests.insert key inserted)[id]? = some record) : False := by
    rw [Std.ExtTreeMap.getElem?_insert, if_neg (by simpa using differs)] at held
    exact notYet held outcome
  generalize (serve node call state).1 = answer at effect
  generalize (serve node call state).2 = last at effect ended
  cases effect with
  | none | idle => exact absurd outcome (notYet ended)
  | submitted capability =>
    by_cases own : requestIdFor capability call.environment.uuid = id
    · rw [own, Std.ExtTreeMap.getElem?_insert_self] at ended
      cases ended
      simp [submittedRecord] at outcome
    · exact (elsewhere own ended).elim
  | leased capabilities leased =>
    by_cases own : leased.requestId = id
    · rw [own, Std.ExtTreeMap.getElem?_insert_self] at ended
      cases ended
      simp [WorkerRpcRecord.leasedAt] at outcome
    · exact (elsewhere own ended).elim
  | finished report reported operation held live' valid =>
    by_cases own : report.requestId = id
    · subst own
      simp only [validateActiveLease, bind_ok, ensure_ok] at valid
      obtain ⟨_, ⟨isNode, isLeased⟩, _, isLease, _, isToken, expires, isExpiry, unexpired⟩ := valid
      have tracked := mid_kept.tracked _ reported held
      obtain ⟨lease, newest, sameLease, sameToken, sameExpiry⟩ := tracked.newest isLeased
      refine ⟨report, operation, rfl, by rw [← isNode, tracked.target], lease, newest, ?_, ?_, ?_⟩
      · rw [sameLease] at isLease
        exact (Option.some.inj isLease).symm
      · rw [← isToken, sameToken]
      · rw [sameExpiry] at isExpiry
        cases isExpiry
        exact unexpired
    · exact (elsewhere own ended).elim

/-! ## Which request is leased -/

def Waiting (mid : WorkerGatewayState) (capabilities : List String) (record : WorkerRpcRecord) :
    Prop :=
  (∃ id : String, mid.requests[id]? = some record) ∧ record.state = .queued ∧
    record.capability ∈ capabilities

def GrantsOldest (mid : WorkerGatewayState) (capabilities : List String) :
    Option WorkerRpcLease → Prop
  | none => ∀ record, ¬ Waiting mid capabilities record
  | some lease => ∃ record, Waiting mid capabilities record ∧ record.requestId = lease.requestId ∧
      ∀ other, Waiting mid capabilities other → other.older record = false

/-- **A lease request is answered with the oldest request that waits**, or there is none. -/
theorem QueueInvariant.leases (invariant : QueueInvariant node history state)
    {environment : Environment} {nodeId : String} {capabilities : List String}
    {granted : Option WorkerRpcLease}
    (answered : (serve node ⟨.tryLeaseFor nodeId capabilities, environment⟩ state).1 =
      .ok (.lease granted)) :
    ∃ mid, refreshLocked environment state = (.ok (), mid) ∧
      GrantsOldest mid capabilities granted := by
  have served := serves node ⟨.tryLeaseFor nodeId capabilities, environment⟩ state
  rw [answered] at served
  generalize (serve node ⟨.tryLeaseFor nodeId capabilities, environment⟩ state).2 = last at served
  cases served with
  | answered refreshed effect =>
    rename_i mid
    have mid_kept : QueueInvariant node history mid := by
      have all : Refreshed environment.refreshedAt state mid :=
        fun id => .inr (refreshLocked_ensures.returned refreshed id)
      exact all.invariant invariant
    -- every request that waits may be leased to this node
    have candidate {capabilities : List String} {record : WorkerRpcRecord}
        (waiting : Waiting mid capabilities record) : record ∈ mid.candidates node capabilities := by
      obtain ⟨⟨id, found⟩, isQueued, isAsked⟩ := waiting
      exact WorkerGatewayState.mem_candidates.2
        ⟨⟨id, found⟩, isQueued, (mid_kept.tracked id record found).target, isAsked⟩
    refine ⟨mid, refreshed, ?_⟩
    cases effect with
    | none _ noLease => exact noLease.elim
    | idle asked operation isOldest =>
      cases operation
      intro record waiting
      have member := candidate waiting
      rw [oldest_eq_none.1 isOldest] at member
      cases member
    | leased asked record operation isOldest =>
      cases operation
      obtain ⟨member, least⟩ := oldest_spec isOldest
      obtain ⟨found, isQueued, -, isAsked⟩ := WorkerGatewayState.mem_candidates.1 member
      exact ⟨record, ⟨found, isQueued, isAsked⟩, rfl,
        fun other waiting => least other (candidate waiting)⟩

/-! ## The queue -/

/-- **What the gateway promises of its queue** after a history. -/
structure Queue (node : String) (history : GatewayHistory) (state : WorkerGatewayState) : Prop where
  unique : ∀ (id id' : String) (record record' : WorkerRpcRecord),
    state.requests[id]? = some record → state.requests[id']? = some record' →
      record.dedupeKey.isSome → record.dedupeKey = record'.dedupeKey → id = id'
  /-- There is a bound for the requests that are not terminal. -/
  room : state.active ≤ maxActiveRequests
  /-- A record has a lease, a result and an error exactly in the states that go with them. -/
  shape : ∀ (id : String) (record : WorkerRpcRecord), state.requests[id]? = some record →
    record.Shape
  tokens : ∀ (id : String) (record : WorkerRpcRecord), state.requests[id]? = some record →
    record.fencingToken = (grants history id).length
  settled : ∀ (later : GatewayHistory) (last : WorkerGatewayState),
    (gatewayMachine node).Run Machine.anyStep state later last → (uuids (history ++ later)).Nodup →
        ∀ (id : String) (record : WorkerRpcRecord), state.requests[id]? = some record →
          record.state.isTerminal → Settled id record last
  holder : ∀ (call : GatewayCall) (id : String) (before record : WorkerRpcRecord),
    state.requests[id]? = some before → ¬ before.state.isTerminal →
      (serve node call state).2.requests[id]? = some record →
        record.state = .completed ∨ record.state = .failed → FromHolder node history id call
  leases : ∀ (environment : Environment) (nodeId : String) (capabilities : List String)
      (granted : Option WorkerRpcLease),
    (serve node ⟨.tryLeaseFor nodeId capabilities, environment⟩ state).1 = .ok (.lease granted) →
      ∃ mid, refreshLocked environment state = (.ok (), mid) ∧ GrantsOldest mid capabilities granted

/-- **The queue over every run**, whatever the arguments and the clocks of its calls and whichever
file accesses fail, where the UUIDs that are drawn are different. -/
theorem queue_of_run (run : (gatewayMachine node).Run Machine.anyStep .empty history state)
    (distinct : (uuids history).Nodup) : Queue node history state := by
  have invariant := invariant_of_run run distinct
  exact {
    unique := invariant.unique
    room := invariant.room
    shape := fun id record found => (invariant.tracked id record found).shape
    tokens := fun id record found => (invariant.tracked id record found).tokens
    settled := fun _ _ next distinct _ _ found terminal =>
      invariant.settled found terminal next distinct
    holder := fun _ _ _ _ found live ended outcome => invariant.holder found live ended outcome
    leases := fun _ _ _ _ answered => invariant.leases answered }

/-- Nothing fails at a clock reading. -/
def sampleEnvironment (time : Int) (uuid : Uuid) : Environment where
  refreshedAt := time
  now := time
  updatedAt := time
  uuid := uuid
  refreshFault _ := none
  fault := none

/-- The UUIDs of the sample calls. -/
def sampleUuid : Nat → Uuid
  | 0 => ⟨"0b7e8d2c-5f31-4a6e-9c48-d1e2f3a4b5c6", by decide, by decide⟩
  | 1 => ⟨"7d444840-9dc0-11d1-b245-5ffdce74fad2", by decide, by decide⟩
  | 2 => ⟨"e902893a-9d22-3c7e-a7b8-d6e313b71d9f", by decide, by decide⟩
  | _ => ⟨"886313e1-3b8a-5372-9b90-0c9aee199e5d", by decide, by decide⟩

def sampleSubmission (time : Int) (uuid : Uuid) : GatewayCall where
  operation := .submitFor workerCapability "get_task_context"
    (.object [("idempotencyKey", .string "context-1"), ("taskId", .string "task-1")])
  environment := sampleEnvironment time uuid

def sampleId : String := requestIdFor workerCapability (sampleUuid 0)

/-- A request is submitted, leased and completed, and its caller looks. -/
def sampleCalls : List GatewayCall :=
  [sampleSubmission 0 (sampleUuid 0),
    ⟨.tryLeaseFor "node-1" [workerCapability], sampleEnvironment (seconds 1) (sampleUuid 1)⟩,
    ⟨.complete sampleId "node-1" (leaseIdFor (sampleUuid 1)) 1 (.object []),
      sampleEnvironment (seconds 2) (sampleUuid 2)⟩,
    ⟨.get sampleId, sampleEnvironment (seconds 3) (sampleUuid 3)⟩]

def sampleRun : GatewayHistory × WorkerGatewayState := (gatewayMachine "node-1").exec .empty sampleCalls

/-- The queue after the sample run. -/
theorem queue_of_run_sample : Queue "node-1" sampleRun.1 sampleRun.2 :=
  queue_of_run (Machine.exec_run _ _ _ ⟨trivial, trivial, trivial, trivial, trivial⟩)
    (by decide +kernel)

/-! ## Delivery -/

def NotDue (id : String) (state : WorkerGatewayState) (call : GatewayCall) : Prop :=
  ∀ record : WorkerRpcRecord, state.requests[id]? = some record → record.state.isTerminal →
    call.environment.refreshedAt < record.expiresAt

theorem Refreshed.present (refreshed : Refreshed call.environment.refreshedAt state after)
    (notDue : NotDue id state call) (found : state.requests[id]? = some record) :
    ∃ record' : WorkerRpcRecord, after.requests[id]? = some record' := by
  rcases refreshed id with same | kept
  · exact ⟨record, by rw [same, found]⟩
  · refine ⟨record.refreshed call.environment.refreshedAt, ?_⟩
    rw [kept, found, Option.bind_some, WorkerRpcRecord.kept, if_neg]
    rintro ⟨terminal, due⟩
    have := notDue record found terminal
    omega

theorem Effect.present {answer : Except ApiError GatewayAnswer}
    (effect : Effect node call state answer after) (found : state.requests[id]? = some record) :
    ∃ record' : WorkerRpcRecord, after.requests[id]? = some record' := by
  have inserted (key : String) (new : WorkerRpcRecord) :
      ∃ record' : WorkerRpcRecord, (state.requests.insert key new)[id]? = some record' := by
    rw [Std.ExtTreeMap.getElem?_insert]
    split
    · exact ⟨new, rfl⟩
    · exact ⟨record, found⟩
  cases effect with
  | none | idle => exact ⟨record, found⟩
  | submitted | leased | finished => exact inserted _ _

theorem present_of_run (found : state.requests[id]? = some record)
    (run : (gatewayMachine node).Run (NotDue id) state later after) :
    ∃ record' : WorkerRpcRecord, after.requests[id]? = some record' := by
  refine run.stateInvariant (fun after => ∃ record' : WorkerRpcRecord,
    after.requests[id]? = some record') ⟨record, found⟩ ?_
  rintro state call ⟨before, held⟩ notDue
  obtain ⟨mid, refreshed, effect⟩ := (serves node call state).effect
  obtain ⟨kept, held'⟩ := refreshed.present notDue held
  exact effect.present held'

/-- A refresh is broken off by a failing file access only. -/
theorem refreshLocked_throws {environment : Environment} :
    (refreshLocked environment).Ensures (fun _ _ => True)
      (fun error _ => ∃ id message, environment.refreshFault id = some message ∧
        error = .internal message) state := by
  rw [refreshLocked]
  simp only [ensures_bind, ensures_read]
  refine Procedure.ensures_forM (fun id _ state _ => ?_) trivial
  have persisted {returns : Unit → WorkerGatewayState → Prop} (written : returns () state) :
      (persist (environment.refreshFault id)).Ensures returns (fun error _ => ∃ id message,
        environment.refreshFault id = some message ∧ error = .internal message) state := by
    unfold persist
    cases fault : environment.refreshFault id with
    | none => exact (ensures_pure _).2 written
    | some message => exact (ensures_fail _).2 ⟨id, message, fault, rfl⟩
  rw [refreshRecord]
  simp only [ensures_bind, ensures_read]
  split
  · exact (ensures_pure _).2 trivial
  · simp only [ensures_ite, ensures_bind, ensures_pure]
    exact ⟨fun _ => persisted ((ensures_modify _).2 trivial),
      fun _ => ⟨fun _ => persisted ((ensures_modify _).2 trivial), fun _ => trivial⟩⟩

theorem refreshLocked_unbroken {environment : Environment}
    (files : ∀ id, environment.refreshFault id = none) :
    (refreshLocked environment).Ensures (fun _ _ => True) (fun _ _ => False) state := by
  refine refreshLocked_throws.mono (fun _ _ _ => trivial) ?_
  rintro _ _ ⟨id, message, fault, -⟩
  rw [files id] at fault
  cases fault

theorem get_answer {environment : Environment} (files : ∀ key, environment.refreshFault key = none) :
    (serve node ⟨.get id, environment⟩ state).1 =
      match (state.requests[id]?).bind (·.kept environment.refreshedAt) with
      | some record => .ok (.record record)
      | none => .error ⟨.notFound, "worker RPC request not found"⟩ := by
  have ensured : (serve node ⟨.get id, environment⟩).Ensures
      (fun answer _ => ∃ record, (state.requests[id]?).bind (·.kept environment.refreshedAt) =
        some record ∧ answer = .record record)
      (fun error _ => (state.requests[id]?).bind (·.kept environment.refreshedAt) = none ∧
        error = ⟨.notFound, "worker RPC request not found"⟩) state := by
    rw [serve, ensures_map]
    simp only [get, ensures_bind, ensures_read]
    refine (refreshLocked_ensures.and (refreshLocked_unbroken files)).mono ?_ ?_
    · rintro - mid ⟨kept, -⟩
      refine (Procedure.ensures_require _ _).2 ⟨fun record found => ?_, fun missing => ?_⟩
      · exact ⟨record, by rw [← kept id, found], rfl⟩
      · exact ⟨by rw [← kept id, missing], rfl⟩
    · rintro error mid ⟨-, broken⟩
      exact broken.elim
  cases ran : serve node ⟨.get id, environment⟩ state with
  | mk answer after =>
    cases answer with
    | ok answer =>
      obtain ⟨record, kept, rfl⟩ := ensured.returned ran
      rw [kept]
    | error error =>
      obtain ⟨kept, rfl⟩ := ensured.threw ran
      rw [kept]

/-- A look at a request finds its record, with the outcome it has by then. -/
def Delivered (node id : String) (record : WorkerRpcRecord) (last : WorkerGatewayState)
    (environment : Environment) : Prop :=
  ∃ delivered, (serve node ⟨.get id, environment⟩ last).1 = .ok (.record delivered) ∧
    delivered.requestId = id ∧ (record.state.isTerminal → SameOutcome record delivered) ∧
    ∀ before : WorkerRpcRecord, last.requests[id]? = some before →
      ¬ before.state.isTerminal → before.expiresAt ≤ environment.refreshedAt →
        delivered.state = .expired ∧ delivered.error.isSome

/-- **An outcome is delivered** to the caller that looks before a refresh finds its request terminal
and due. -/
theorem delivered_of_run {id : String} {record : WorkerRpcRecord} {last : WorkerGatewayState}
    (run : (gatewayMachine node).Run Machine.anyStep .empty history state)
    (found : state.requests[id]? = some record)
    (next : (gatewayMachine node).Run (NotDue id) state later last)
    (distinct : (uuids (history ++ later)).Nodup) {environment : Environment}
    (notDue : NotDue id last ⟨.get id, environment⟩)
    (files : ∀ key, environment.refreshFault key = none) :
    Delivered node id record last environment := by
  have invariant := invariant_of_run run (uuids_nodup_left distinct)
  have anyNext : (gatewayMachine node).Run Machine.anyStep state later last :=
    next.weaken fun _ _ _ => trivial
  obtain ⟨before, held⟩ := present_of_run found next
  have tracked := (invariant.run anyNext distinct).tracked id before held
  have notEvicted : ¬ (before.state.isTerminal ∧ before.expiresAt ≤ environment.refreshedAt) := by
    rintro ⟨terminal, due⟩
    have early : environment.refreshedAt < before.expiresAt := notDue before held terminal
    omega
  have kept : before.kept environment.refreshedAt =
      some (before.refreshed environment.refreshedAt) := if_neg notEvicted
  refine ⟨before.refreshed environment.refreshedAt, ?_, (tracked.kept kept).own, ?_, ?_⟩
  · rw [get_answer files, held, Option.bind_some, kept]
  · intro terminal
    have same := invariant.settled found terminal anyNext distinct before held
    have ended : before.state.isTerminal := by rw [same.1, terminal]
    obtain unchanged | ⟨live, -, -⟩ | ⟨isLeased, -⟩ := WorkerRpcRecord.kept_cases kept
    · rwa [unchanged]
    · exact absurd ended live
    · simp [isLeased, WorkerRequestState.isTerminal] at ended
  · intro other isOther live due
    rw [held] at isOther
    cases isOther
    rw [WorkerRpcRecord.refreshed, if_pos ⟨by simpa using live, due⟩]
    exact ⟨rfl, rfl⟩

/-- A request is submitted, leased and completed. -/
def completedRun : GatewayHistory × WorkerGatewayState :=
  (gatewayMachine "node-1").exec .empty (sampleCalls.take 3)

def completedRecord : WorkerRpcRecord :=
  (completedRun.2.requests[sampleId]?).get (by decide +kernel)

/-- A minute after the submission another request is looked for. -/
def laterCalls : List GatewayCall :=
  [⟨.get "wrpc-other", sampleEnvironment (seconds 60) (sampleUuid 3)⟩]

def laterRun : GatewayHistory × WorkerGatewayState :=
  (gatewayMachine "node-1").exec completedRun.2 laterCalls

theorem notDue_of_all (early : (state.requests[id]?).all
      (fun record => decide (call.environment.refreshedAt < record.expiresAt)) = true) :
    NotDue id state call := by
  intro record found _
  rw [found] at early
  exact of_decide_eq_true early

/-- The result of the completed request is delivered, 100 seconds after its submission. -/
theorem delivered_of_run_sample : Delivered "node-1" sampleId completedRecord laterRun.2
      (sampleEnvironment (seconds 100) (sampleUuid 3)) :=
  delivered_of_run (Machine.exec_run _ _ (sampleCalls.take 3) ⟨trivial, trivial, trivial, trivial⟩)
    (Option.some_get _).symm
    (Machine.exec_run _ completedRun.2 laterCalls ⟨notDue_of_all (by decide +kernel), trivial⟩)
    (by decide +kernel) (notDue_of_all (by decide +kernel)) fun _ => rfl

def stateOf (state : WorkerGatewayState) (id : String) : Option WorkerRequestState :=
  (state.requests[id]?).map (·.state)

def refusal : Except ApiError GatewayAnswer → Option StatusCode
  | .error error => some error.status
  | .ok _ => none

/-- A request expires in a look at another one, two minutes after its submission. -/
def expiredRun : GatewayHistory × WorkerGatewayState :=
  (gatewayMachine "node-1").exec .empty [sampleSubmission 0 (sampleUuid 0),
      ⟨.get "wrpc-other", sampleEnvironment (seconds 120) (sampleUuid 1)⟩]

/-- The caller that waits for the request is not told that it expired, but finds nothing. -/
theorem delivered_of_run_counterexample :
    (gatewayMachine "node-1").Run Machine.anyStep .empty expiredRun.1 expiredRun.2 ∧
      stateOf expiredRun.2 sampleId = some .expired ∧
      refusal (serve "node-1" ⟨.get sampleId, sampleEnvironment (seconds 120) (sampleUuid 2)⟩
        expiredRun.2).1 = some .notFound :=
  ⟨Machine.exec_run _ _ _ ⟨trivial, trivial, trivial⟩, by decide +kernel, by decide +kernel⟩

end Zero3Pilot.WorkerGateway
