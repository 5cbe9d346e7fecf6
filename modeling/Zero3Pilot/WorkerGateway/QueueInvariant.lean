import Mathlib.Data.List.Perm.Subperm
import Zero3Pilot.WorkerGateway.Refresh

/-! # The queue in every run of the gateway

What holds of the records of the gateway after any calls, whatever their arguments and their clocks
and whichever file accesses fail: what a record has in its state, how its fencing token counts the
leases that were granted on it, and how few requests wait. The UUIDs the gateway draws are assumed
to be different. -/

namespace Zero3Pilot.WorkerGateway

open WorkerRequestState (isTerminal)
open WorkerRpcRecord (finishedAt leasedAt)

/-! ## Histories -/

abbrev GatewayHistory := List (GatewayCall × Except ApiError GatewayAnswer)

/-- The UUIDs that were drawn. -/
def uuids (history : GatewayHistory) : List String :=
  history.map fun step => step.1.environment.uuid.text

def grantOn (id : String) : Except ApiError GatewayAnswer → Option WorkerRpcLease
  | .ok (.lease (some lease)) => if lease.requestId = id then some lease else none
  | _ => none

/-- The leases that were granted on a request, the newest last. -/
def grants (history : GatewayHistory) (id : String) : List WorkerRpcLease :=
  history.filterMap fun step => grantOn id step.2

def Drawn (history : GatewayHistory) (id : String) : Prop :=
  ∃ step ∈ history, ∃ capability, id = requestIdFor capability step.1.environment.uuid

theorem grants_append (history : GatewayHistory) (step : GatewayCall × Except ApiError GatewayAnswer)
    (id : String) :
    grants (history ++ [step]) id = grants history id ++ (grantOn id step.2).toList := by
  rw [grants, List.filterMap_append, ← grants]
  cases granted : grantOn id step.2 with
  | none | some lease => simp [granted]

variable {id : String}

theorem Drawn.append {history : GatewayHistory} (drawn : Drawn history id) (later : GatewayHistory) :
    Drawn (history ++ later) id := by
  obtain ⟨step, member, isId⟩ := drawn
  exact ⟨step, List.mem_append_left _ member, isId⟩

theorem requestIdFor_injective {capability capability' : String} {uuid uuid' : Uuid}
    (same : requestIdFor capability uuid = requestIdFor capability' uuid') :
    uuid.text = uuid'.text := by
  have tail (capability : String) (uuid : Uuid) :
      (requestIdFor capability uuid).toList.drop 5 = uuid.text.toList := by
    rw [requestIdFor]
    split_ifs <;> simp [String.toList_append]
  have chars := congrArg (fun text => text.toList.drop 5) same
  rw [tail, tail] at chars
  exact String.toList_inj.1 chars

variable {call : GatewayCall} {answer : Except ApiError GatewayAnswer}

theorem not_drawn {history : GatewayHistory} (distinct : (uuids (history ++ [(call, answer)])).Nodup)
    (capability : String) : ¬ Drawn history (requestIdFor capability call.environment.uuid) := by
  rintro ⟨step, member, capability', same⟩
  rw [uuids, List.map_append, List.nodup_append] at distinct
  refine distinct.2.2 step.1.environment.uuid.text (List.mem_map_of_mem member)
    call.environment.uuid.text (by simp) (requestIdFor_injective same).symm

/-! ## Records -/

structure WorkerRpcRecord.Shape (record : WorkerRpcRecord) : Prop where
  leased : record.state = .leased ↔
    record.leaseId.isSome ∧ record.leaseExpiresAt.isSome ∧ ¬ record.state.isTerminal
  queued : record.state = .queued → record.leaseId = none ∧ record.leaseExpiresAt = none
  live : ¬ record.state.isTerminal → record.result = none ∧ record.error = none
  completed : record.state = .completed → record.result.isSome ∧ record.error = none
  failed : record.state = .failed ∨ record.state = .expired →
    record.error.isSome ∧ record.result = none

variable {now : Int}

theorem WorkerRpcRecord.kept_cases {record kept : WorkerRpcRecord} (isKept : record.kept now = some kept) :
    kept = record ∨
      (¬ record.state.isTerminal ∧ record.expiresAt ≤ now ∧ kept = { record with
        state := .expired
        error := some "worker RPC request expired before completion"
        leaseId := none
        leaseExpiresAt := none
        updatedAt := now }) ∨
      (record.state = .leased ∧ kept = { record with
        state := .queued, leaseId := none, leaseExpiresAt := none, updatedAt := now }) := by
  rw [WorkerRpcRecord.kept] at isKept
  split_ifs at isKept with evicted
  have same := Option.some.inj isKept
  rw [← same, WorkerRpcRecord.refreshed]
  split_ifs with due out
  · exact .inr (.inl ⟨by simpa using due.1, due.2, rfl⟩)
  · exact .inr (.inr ⟨out.1, rfl⟩)
  · exact .inl rfl

theorem WorkerRpcRecord.Shape.kept {record kept : WorkerRpcRecord} (shape : record.Shape)
    (isKept : record.kept now = some kept) : kept.Shape := by
  obtain rfl | ⟨live, -, rfl⟩ | ⟨isLeased, rfl⟩ := WorkerRpcRecord.kept_cases isKept
  · exact shape
  · have results := shape.live live
    constructor <;> simp [isTerminal, results]
  · have results := shape.live (by simp [isLeased, isTerminal])
    constructor <;> simp [isTerminal, results]

/-- **What is known of a record** after a history. -/
structure WorkerRpcRecord.Tracked (node : String) (history : GatewayHistory) (id : String)
    (record : WorkerRpcRecord) : Prop where
  own : record.requestId = id
  target : record.targetNodeId = node
  shape : record.Shape
  tokens : record.fencingToken = (grants history id).length
  newest : record.state = .leased → ∃ lease ∈ (grants history id).getLast?,
    record.leaseId = some lease.leaseId ∧ record.fencingToken = lease.fencingToken ∧
      record.leaseExpiresAt = some lease.leaseExpiresAt
  drawn : Drawn history id

/-- **The invariant of the queue.** -/
structure QueueInvariant (node : String) (history : GatewayHistory) (state : WorkerGatewayState) :
    Prop where
  tracked : ∀ (id : String) (record : WorkerRpcRecord), state.requests[id]? = some record →
    record.Tracked node history id
  unique : ∀ (id id' : String) (record record' : WorkerRpcRecord),
    state.requests[id]? = some record → state.requests[id']? = some record' →
      record.dedupeKey.isSome → record.dedupeKey = record'.dedupeKey → id = id'
  room : state.active ≤ maxActiveRequests
  granted : ∀ id, grants history id ≠ [] → Drawn history id

/-! ## The number of waiting requests -/

def WorkerGatewayState.activeIds (state : WorkerGatewayState) : List String :=
  (state.requests.toList.filter fun entry => !entry.2.state.isTerminal).map Prod.fst

theorem WorkerGatewayState.active_eq (state : WorkerGatewayState) :
    state.active = state.activeIds.length := by
  simp [active, activeIds, values, List.filter_map, Function.comp_def]

theorem WorkerGatewayState.mem_activeIds {state : WorkerGatewayState} : id ∈ state.activeIds ↔
      ∃ record : WorkerRpcRecord, state.requests[id]? = some record ∧ ¬ record.state.isTerminal := by
  simp only [activeIds, List.mem_map, List.mem_filter, Prod.exists, exists_and_right,
    exists_eq_right]
  refine exists_congr fun record => ?_
  rw [Std.ExtTreeMap.mem_toList_iff_getElem?_eq_some]
  simp

theorem WorkerGatewayState.activeIds_nodup (state : WorkerGatewayState) :
    state.activeIds.Nodup := by
  have distinct : (state.requests.toList.map Prod.fst).Nodup := by
    rw [Std.ExtTreeMap.map_fst_toList_eq_keys]
    exact state.requests.distinct_keys.imp fun differs same => differs (by simp [same])
  exact (List.filter_sublist.map Prod.fst).nodup distinct

theorem WorkerGatewayState.active_le {state after : WorkerGatewayState} (more : List String)
    (waited : ∀ id ∈ after.activeIds, id ∈ more ++ state.activeIds) :
    after.active ≤ more.length + state.active := by
  rw [active_eq, active_eq, ← List.length_append]
  exact (List.Nodup.subperm after.activeIds_nodup waited).length_le

/-! ## The invariant is kept -/

variable {node : String} {history : GatewayHistory} {state after : WorkerGatewayState}

variable {record : WorkerRpcRecord}

theorem Refreshed.found (refreshed : Refreshed now state after)
    (found : after.requests[id]? = some record) :
    ∃ before : WorkerRpcRecord, state.requests[id]? = some before ∧
      (record = before ∨ before.kept now = some record) := by
  rcases refreshed id with same | kept
  · exact ⟨record, by rw [← same, found], .inl rfl⟩
  · rw [kept, Option.bind_eq_some_iff] at found
    obtain ⟨before, held, isKept⟩ := found
    exact ⟨before, held, .inr isKept⟩

theorem WorkerRpcRecord.Tracked.kept {record kept : WorkerRpcRecord}
    (tracked : record.Tracked node history id) (isKept : record.kept now = some kept) :
    kept.Tracked node history id := by
  have shape := tracked.shape.kept isKept
  obtain rfl | ⟨-, -, rfl⟩ | ⟨-, rfl⟩ := WorkerRpcRecord.kept_cases isKept
  · exact tracked
  · exact ⟨tracked.own, tracked.target, shape, tracked.tokens, by simp, tracked.drawn⟩
  · exact ⟨tracked.own, tracked.target, shape, tracked.tokens, by simp, tracked.drawn⟩

theorem WorkerRpcRecord.kept_key {record kept : WorkerRpcRecord} (isKept : record.kept now = some kept) :
    kept.dedupeKey = record.dedupeKey ∧ (record.state.isTerminal → kept.state.isTerminal) := by
  obtain rfl | ⟨-, -, rfl⟩ | ⟨isLeased, rfl⟩ := WorkerRpcRecord.kept_cases isKept
  · exact ⟨rfl, id⟩
  · exact ⟨rfl, fun _ => rfl⟩
  · exact ⟨rfl, by simp [isLeased, isTerminal]⟩

/-- **A refresh keeps the invariant.** -/
theorem Refreshed.invariant (refreshed : Refreshed now state after)
    (invariant : QueueInvariant node history state) : QueueInvariant node history after where
  tracked := by
    intro id record found
    obtain ⟨before, held, rfl | isKept⟩ := refreshed.found found
    · exact invariant.tracked id record held
    · exact (invariant.tracked id before held).kept isKept
  unique := by
    intro id id' record record' found found' hasKey same
    have before {id : String} {record : WorkerRpcRecord}
        (found : after.requests[id]? = some record) :
        ∃ before : WorkerRpcRecord, state.requests[id]? = some before ∧
          before.dedupeKey = record.dedupeKey := by
      obtain ⟨before, held, rfl | isKept⟩ := refreshed.found found
      · exact ⟨record, held, rfl⟩
      · exact ⟨before, held, (WorkerRpcRecord.kept_key isKept).1.symm⟩
    obtain ⟨before₁, held₁, key₁⟩ := before found
    obtain ⟨before₂, held₂, key₂⟩ := before found'
    exact invariant.unique id id' before₁ before₂ held₁ held₂ (by rw [key₁, hasKey])
      (by rw [key₁, same, key₂])
  room := by
    have fewer : after.active ≤ ([] : List String).length + state.active := by
      refine WorkerGatewayState.active_le [] fun id waits => ?_
      obtain ⟨record, found, live⟩ := WorkerGatewayState.mem_activeIds.1 waits
      obtain ⟨before, held, rfl | isKept⟩ := refreshed.found found
      · exact WorkerGatewayState.mem_activeIds.2 ⟨record, held, live⟩
      · refine WorkerGatewayState.mem_activeIds.2 ⟨before, held, fun terminal => live ?_⟩
        exact (WorkerRpcRecord.kept_key isKept).2 terminal
    have room := invariant.room
    simp only [List.length_nil] at fewer
    omega
  granted := invariant.granted

theorem WorkerRpcRecord.older_eq_false {record other : WorkerRpcRecord} :
    record.older other = false ↔ other.createdAt < record.createdAt ∨
      (other.createdAt = record.createdAt ∧ (compare record.requestId other.requestId).isGE) := by
  have order : (compare record.requestId other.requestId).isGE ↔
      compare record.requestId other.requestId ≠ .lt := by
    cases compare record.requestId other.requestId <;> simp
  rw [order, older, Bool.or_eq_false_iff, Bool.and_eq_false_iff, decide_eq_false_iff_not,
    decide_eq_false_iff_not, decide_eq_false_iff_not]
  constructor
  · rintro ⟨notBefore, notSame | notBelow⟩
    · exact .inl (by omega)
    · by_cases same : other.createdAt = record.createdAt
      · exact .inr ⟨same, notBelow⟩
      · exact .inl (by omega)
  · rintro (before | ⟨same, notBelow⟩)
    · exact ⟨by omega, .inl (by omega)⟩
    · exact ⟨by omega, .inr notBelow⟩

theorem WorkerRpcRecord.older_trans {record other last : WorkerRpcRecord}
    (first : record.older other = false) (second : other.older last = false) :
    record.older last = false := by
  rw [older_eq_false] at first second ⊢
  rcases first with before | ⟨same, below⟩
  · rcases second with before' | ⟨same', -⟩
    · exact .inl (by omega)
    · exact .inl (by omega)
  · rcases second with before' | ⟨same', below'⟩
    · exact .inl (by omega)
    · exact .inr ⟨by omega, Std.TransCmp.isGE_trans below below'⟩

theorem WorkerRpcRecord.older_asymm {record other : WorkerRpcRecord}
    (isOlder : record.older other = true) : other.older record = false := by
  rw [older, Bool.or_eq_true, Bool.and_eq_true, decide_eq_true_eq, decide_eq_true_eq,
    decide_eq_true_eq] at isOlder
  refine older_eq_false.2 (isOlder.imp_right fun ⟨same, below⟩ => ⟨same, ?_⟩)
  rw [Std.OrientedCmp.gt_of_lt below]
  rfl

theorem oldest_eq_none {records : List WorkerRpcRecord} : oldest records = none ↔ records = [] := by
  cases records with
  | nil => simp [oldest]
  | cons record records =>
    rw [oldest]
    cases oldest records with
    | none => simp
    | some best => by_cases older : best.older record <;> simp [older]

theorem oldest_spec {records : List WorkerRpcRecord} (isOldest : oldest records = some record) :
    record ∈ records ∧ ∀ other ∈ records, other.older record = false := by
  have own (record : WorkerRpcRecord) : record.older record = false :=
    WorkerRpcRecord.older_eq_false.2 (.inr ⟨rfl, by simp⟩)
  induction records generalizing record with
  | nil => cases isOldest
  | cons first records ih =>
    rw [oldest] at isOldest
    cases rest : oldest records with
    | none =>
      rw [rest] at isOldest
      cases isOldest
      rw [oldest_eq_none.1 rest]
      simp [own]
    | some best =>
      obtain ⟨member, least⟩ := ih rest
      rw [rest] at isOldest
      by_cases older : best.older first
      · simp only [older, if_true] at isOldest
        cases isOldest
        refine ⟨List.mem_cons_of_mem _ member, List.forall_mem_cons.2 ⟨?_, least⟩⟩
        exact WorkerRpcRecord.older_asymm older
      · have notOlder : best.older first = false := by simpa using older
        simp only [notOlder, Bool.false_eq_true, if_false] at isOldest
        cases isOldest
        refine ⟨List.mem_cons_self, List.forall_mem_cons.2 ⟨own first, ?_⟩⟩
        exact fun other isOther => WorkerRpcRecord.older_trans (least other isOther) notOlder

theorem WorkerGatewayState.mem_candidates {nodeId : String} {capabilities : List String} :
    record ∈ state.candidates nodeId capabilities ↔
      (∃ id : String, state.requests[id]? = some record) ∧ record.state = .queued ∧
        record.targetNodeId = nodeId ∧ record.capability ∈ capabilities := by
  simp only [candidates, values, List.mem_filter, List.mem_map, Prod.exists, exists_eq_right,
    Std.ExtTreeMap.mem_toList_iff_getElem?_eq_some, Bool.and_eq_true, decide_eq_true_eq,
    List.any_eq_true, and_assoc, exists_eq_right]

variable {step : GatewayCall × Except ApiError GatewayAnswer}

theorem WorkerRpcRecord.Tracked.append (tracked : record.Tracked node history id)
    (noGrant : grantOn id step.2 = none) :
    record.Tracked node (history ++ [step]) id := by
  have same : grants (history ++ [step]) id = grants history id := by
    rw [grants_append, noGrant]
    simp
  exact ⟨tracked.own, tracked.target, tracked.shape, by rw [same, tracked.tokens],
    by rw [same]; exact tracked.newest, tracked.drawn.append _⟩

theorem QueueInvariant.append (invariant : QueueInvariant node history state)
    (noGrant : ∀ id, grantOn id step.2 = none) :
    QueueInvariant node (history ++ [step]) state where
  tracked id record found := (invariant.tracked id record found).append (noGrant id)
  unique := invariant.unique
  room := invariant.room
  granted := by
    intro id some_grant
    rw [grants_append, noGrant id, Option.toList_none, List.append_nil] at some_grant
    exact (invariant.granted id some_grant).append _

theorem QueueInvariant.insert (invariant : QueueInvariant node history state)
    (elsewhere : ∀ other, other ≠ id → grantOn other step.2 = none)
    (tracked : record.Tracked node (history ++ [step]) id)
    (unique : ∀ (other : String) (record' : WorkerRpcRecord), other ≠ id →
      state.requests[other]? = some record' → record.dedupeKey.isSome →
        record.dedupeKey ≠ record'.dedupeKey)
    (room : (WorkerGatewayState.mk (state.requests.insert id record)).active ≤ maxActiveRequests) :
    QueueInvariant node (history ++ [step]) ⟨state.requests.insert id record⟩ := by
  have looked (other : String) : (state.requests.insert id record)[other]? =
      if id = other then some record else state.requests[other]? := by
    rw [Std.ExtTreeMap.getElem?_insert]
    exact if_congr (by simp) rfl rfl
  constructor
  · intro other record' found
    rw [looked] at found
    by_cases own : id = other
    · rw [if_pos own] at found
      cases found
      exact own ▸ tracked
    · rw [if_neg own] at found
      exact (invariant.tracked other record' found).append (elsewhere other (Ne.symm own))
  · intro first second record₁ record₂ found₁ found₂ hasKey same
    rw [looked] at found₁ found₂
    by_cases own₁ : id = first
    · by_cases own₂ : id = second
      · rw [← own₁, own₂]
      · rw [if_pos own₁] at found₁
        rw [if_neg own₂] at found₂
        cases found₁
        exact absurd same (unique second record₂ (Ne.symm own₂) found₂ hasKey)
    · by_cases own₂ : id = second
      · rw [if_neg own₁] at found₁
        rw [if_pos own₂] at found₂
        cases found₂
        exact absurd same.symm (unique first record₁ (Ne.symm own₁) found₁ (same ▸ hasKey))
      · rw [if_neg own₁] at found₁
        rw [if_neg own₂] at found₂
        exact invariant.unique first second record₁ record₂ found₁ found₂ hasKey same
  · exact room
  · intro other some_grant
    by_cases own : other = id
    · rw [own]
      exact tracked.drawn
    · rw [grants_append, elsewhere other own, Option.toList_none, List.append_nil] at some_grant
      exact (invariant.granted other some_grant).append _

theorem WorkerGatewayState.active_insert {before record : WorkerRpcRecord}
    (found : state.requests[id]? = some before) (live : ¬ before.state.isTerminal) :
    (WorkerGatewayState.mk (state.requests.insert id record)).active ≤ state.active := by
  have fewer : (WorkerGatewayState.mk (state.requests.insert id record)).active ≤
      ([] : List String).length + state.active := by
    refine active_le [] fun other waits => ?_
    obtain ⟨record', held, live'⟩ := mem_activeIds.1 waits
    rw [Std.ExtTreeMap.getElem?_insert] at held
    by_cases own : id = other
    · exact mem_activeIds.2 ⟨before, own ▸ found, live⟩
    · rw [if_neg (by simpa using own)] at held
      exact mem_activeIds.2 ⟨record', held, live'⟩
  simpa using fewer

theorem WorkerGatewayState.active_insert_le (state : WorkerGatewayState) (id : String)
    (record : WorkerRpcRecord) :
    (WorkerGatewayState.mk (state.requests.insert id record)).active ≤ 1 + state.active := by
  refine active_le [id] fun other waits => ?_
  obtain ⟨record', held, live⟩ := mem_activeIds.1 waits
  rw [Std.ExtTreeMap.getElem?_insert] at held
  by_cases own : id = other
  · simp [own]
  · rw [if_neg (by simpa using own)] at held
    exact List.mem_append_right _ (mem_activeIds.2 ⟨record', held, live⟩)

theorem submittedRecord_tracked {capability tool : String} {arguments : Json}
    (notGranted : grants history (requestIdFor capability call.environment.uuid) = [])
    (noGrant : grantOn (requestIdFor capability call.environment.uuid) answer = none) :
    (submittedRecord node capability tool arguments call.environment).Tracked node
      (history ++ [(call, answer)]) (requestIdFor capability call.environment.uuid) where
  own := rfl
  target := rfl
  shape := by constructor <;> simp [submittedRecord, isTerminal]
  tokens := by
    rw [grants_append, notGranted, noGrant]
    rfl
  newest := by simp [submittedRecord]
  drawn := ⟨(call, answer), by simp, capability, rfl⟩

theorem WorkerRpcRecord.Tracked.leased (tracked : record.Tracked node history id)
    (isQueued : record.state = .queued) :
    (record.leasedAt call.environment).Tracked node
      (history ++ [(call, .ok (.lease (some (record.grant call.environment))))]) id := by
  have more : grants (history ++ [(call, .ok (.lease (some (record.grant call.environment))))]) id =
      grants history id ++ [record.grant call.environment] := by
    have own : (record.grant call.environment).requestId = id := tracked.own
    rw [grants_append, grantOn, if_pos own]
    rfl
  have results := tracked.shape.live (by simp [isQueued, isTerminal])
  refine ⟨tracked.own, tracked.target, ?_, ?_, fun _ => ?_, tracked.drawn.append _⟩
  · constructor <;> simp [leasedAt, isTerminal, results]
  · rw [more, List.length_append, ← tracked.tokens]
    rfl
  · refine ⟨record.grant call.environment, ?_, rfl, rfl, rfl⟩
    rw [more, List.getLast?_append]
    rfl

theorem WorkerRpcRecord.Tracked.finished (tracked : record.Tracked node history id) {report : Report}
    (operation : call.operation.report? = some report) (noGrant : grantOn id answer = none) :
    (record.finishedAt report.outcome call.environment).Tracked node
      (history ++ [(call, answer)]) id := by
  have same : grants (history ++ [(call, answer)]) id = grants history id := by
    rw [grants_append, noGrant]
    simp
  have outcome : (report.outcome.state = .completed ∧ report.outcome.result.isSome ∧
        report.outcome.error = none) ∨
      (report.outcome.state = .failed ∧ report.outcome.error.isSome ∧
        report.outcome.result = none) := by
    unfold GatewayOperation.report? at operation
    split at operation
    · cases operation
      exact .inl ⟨rfl, rfl, rfl⟩
    · cases operation
      exact .inr ⟨rfl, rfl, rfl⟩
    · cases operation
  refine ⟨tracked.own, tracked.target, ?_, by rw [same]; exact tracked.tokens, ?_,
    tracked.drawn.append _⟩
  · rcases outcome with ⟨completed, result, error⟩ | ⟨failed, error, result⟩
    · constructor <;>
        simp [finishedAt, completed, result, error, isTerminal]
    · constructor <;>
        simp [finishedAt, failed, result, error, isTerminal]
  · intro isLeased
    rcases outcome with ⟨completed, -, -⟩ | ⟨failed, -, -⟩
    · simp [finishedAt, completed] at isLeased
    · simp [finishedAt, failed] at isLeased

/-- **A call keeps the invariant.** -/
theorem Effect.invariant (effect : Effect node call state answer after)
    (distinct : (uuids (history ++ [(call, answer)])).Nodup)
    (invariant : QueueInvariant node history state) :
    QueueInvariant node (history ++ [(call, answer)]) after := by
  cases effect with
  | none answer noLease =>
    refine invariant.append fun id => ?_
    match answer, noLease with
    | .error _, _ | .ok (.record _), _ => rfl
  | idle capabilities operation isOldest => exact invariant.append fun id => rfl
  | submitted capability tool arguments operation unique room =>
    have notGranted : grants history (requestIdFor capability call.environment.uuid) = [] := by
      by_contra some_grant
      exact not_drawn distinct capability (invariant.granted _ some_grant)
    refine invariant.insert (fun _ _ => rfl) (submittedRecord_tracked notGranted rfl) ?_ ?_
    · intro other record _ found hasKey same
      have key : (submittedRecord node capability tool arguments call.environment).dedupeKey =
        requestDedupeKey capability tool arguments := rfl
      refine unique other record found ?_ ?_
      · rw [← same, hasKey]
      · rw [← same, key]
    · have more := state.active_insert_le (requestIdFor capability call.environment.uuid)
        (submittedRecord node capability tool arguments call.environment)
      omega
  | leased capabilities record operation isOldest =>
    obtain ⟨⟨id, found⟩, isQueued, -, -⟩ :=
      WorkerGatewayState.mem_candidates.1 (oldest_spec isOldest).1
    have tracked := invariant.tracked id record found
    obtain rfl := tracked.own
    refine invariant.insert (fun other differs => if_neg differs.symm) (tracked.leased isQueued)
      ?_ ?_
    · intro other record' differs found' hasKey same
      exact differs (invariant.unique _ _ record record' found found' hasKey same).symm
    · refine (WorkerGatewayState.active_insert found ?_).trans invariant.room
      simp [isQueued, isTerminal]
  | finished report record operation found live valid =>
    have tracked := invariant.tracked _ record found
    refine invariant.insert (fun _ _ => rfl) (tracked.finished operation rfl) ?_ ?_
    · intro other record' differs found' hasKey same
      exact differs (invariant.unique _ _ record record' found found' hasKey same).symm
    · exact (WorkerGatewayState.active_insert found live).trans invariant.room

theorem QueueInvariant.empty : QueueInvariant node [] .empty where
  tracked := by simp [WorkerGatewayState.empty]
  unique := by simp [WorkerGatewayState.empty]
  room := by
    have none_active : WorkerGatewayState.empty.active = 0 := by
      simp [WorkerGatewayState.empty, WorkerGatewayState.active, WorkerGatewayState.values]
    omega
  granted := by simp [grants]

theorem uuids_nodup_left {history later : GatewayHistory}
    (distinct : (uuids (history ++ later)).Nodup) : (uuids history).Nodup := by
  rw [uuids, List.map_append] at distinct
  exact (List.nodup_append.1 distinct).1

/-- **The invariant is kept by every run.** -/
theorem QueueInvariant.run {later : GatewayHistory} (invariant : QueueInvariant node history state)
    (run : (gatewayMachine node).Run Machine.anyStep state later after)
    (distinct : (uuids (history ++ later)).Nodup) :
    QueueInvariant node (history ++ later) after := by
  refine run.invariant (fun later after => (uuids (history ++ later)).Nodup →
    QueueInvariant node (history ++ later) after) ?_ ?_ distinct
  · intro _
    rwa [List.append_nil]
  · intro later after call ih _ distinct
    rw [← List.append_assoc] at distinct ⊢
    obtain ⟨mid, refreshed, effect⟩ := (serves node call after).effect
    exact effect.invariant distinct (refreshed.invariant (ih (uuids_nodup_left distinct)))

theorem invariant_of_run (run : (gatewayMachine node).Run Machine.anyStep .empty history state)
    (distinct : (uuids history).Nodup) : QueueInvariant node history state :=
  QueueInvariant.empty.run run distinct

end Zero3Pilot.WorkerGateway
