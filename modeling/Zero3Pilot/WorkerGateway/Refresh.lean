import Zero3Pilot.WorkerGateway.Queue

/-! # What the calls of the gateway do

The refresh treats every record on its own: it is evicted, expires, is taken back from its lease or
stays. What follows the refresh changes one record at most. -/

namespace Zero3Pilot.WorkerGateway

open ControlPlane (trim)
open Procedure (ensures_bind ensures_read ensures_modify ensures_fail ensures_pure ensures_ite
  ensures_map ensures_self)

/-! ## The refresh -/

def WorkerRpcRecord.kept (record : WorkerRpcRecord) (now : Int) : Option WorkerRpcRecord :=
  if record.state.isTerminal ∧ record.expiresAt ≤ now then none else some (record.refreshed now)

theorem WorkerRpcRecord.refreshed_eq_self {record : WorkerRpcRecord} {now : Int}
    (same : (record.refreshed now).state = record.state) : record.refreshed now = record := by
  unfold refreshed at same ⊢
  split_ifs at same ⊢ with due out
  · -- an expired request is terminal, which the record is not
    rw [← same] at due
    simp [WorkerRequestState.isTerminal] at due
  · rw [out.1] at same
    cases same
  · rfl

/-- Every record is as it was or as the refresh leaves it. -/
def Refreshed (now : Int) (state after : WorkerGatewayState) : Prop :=
  ∀ id : String, after.requests[id]? = state.requests[id]? ∨
    after.requests[id]? = (state.requests[id]?).bind (·.kept now)

variable {environment : Environment} {state : WorkerGatewayState}

theorem refreshRecord_ensures (id : String) : (refreshRecord environment id).Ensures
      (fun _ after => ∀ other : String, after.requests[other]? =
        if other = id then (state.requests[id]?).bind (·.kept environment.refreshedAt)
        else state.requests[other]?)
      (fun _ after => after = state) state := by
  have persisted {returns : Unit → WorkerGatewayState → Prop} (written : returns () state) :
      (persist (environment.refreshFault id)).Ensures returns (fun _ after => after = state)
        state := by
    unfold persist
    cases environment.refreshFault id with
    | none => exact (ensures_pure _).2 written
    | some message => exact (ensures_fail _).2 rfl
  have elsewhere {other : String} (differs : other ≠ id) : ¬ compare id other = .eq := by
    simpa using fun same => differs same.symm
  rw [refreshRecord]
  simp only [ensures_bind, ensures_read]
  cases found : state.requests[id]? with
  | none =>
    refine (ensures_pure _).2 fun other => ?_
    by_cases own : other = id
    · rw [if_pos own, own, found]
      rfl
    · rw [if_neg own]
  | some record =>
    simp only [ensures_ite, ensures_bind, ensures_pure]
    refine ⟨fun evicted => persisted ((ensures_modify _).2 fun other => ?_),
      fun stays => ⟨fun _ => persisted ((ensures_modify _).2 fun other => ?_),
        fun same other => ?_⟩⟩
    · rw [Std.ExtTreeMap.getElem?_erase]
      by_cases own : other = id
      · rw [if_pos own, if_pos (by simp [own]), Option.bind_some, WorkerRpcRecord.kept,
          if_pos evicted]
      · rw [if_neg own, if_neg (elsewhere own)]
    · rw [Std.ExtTreeMap.getElem?_insert]
      by_cases own : other = id
      · rw [if_pos own, if_pos (by simp [own]), Option.bind_some, WorkerRpcRecord.kept,
          if_neg stays]
      · rw [if_neg own, if_neg (elsewhere own)]
    · by_cases own : other = id
      · rw [if_pos own, own, found, Option.bind_some, WorkerRpcRecord.kept, if_neg stays,
          WorkerRpcRecord.refreshed_eq_self (not_not.1 same)]
      · rw [if_neg own]

theorem refreshRecords_ensures {ids : List String} (distinct : ids.Nodup) :
    (ids.forM (refreshRecord environment)).Ensures
      (fun _ after => ∀ id : String, after.requests[id]? =
        if id ∈ ids then (state.requests[id]?).bind (·.kept environment.refreshedAt)
        else state.requests[id]?)
      (fun _ after => ∀ id : String, after.requests[id]? = state.requests[id]? ∨ (id ∈ ids ∧
        after.requests[id]? = (state.requests[id]?).bind (·.kept environment.refreshedAt)))
      state := by
  induction ids generalizing state with
  | nil => exact (ensures_pure _).2 fun id => by simp
  | cons id ids ih =>
    obtain ⟨notLater, distinct⟩ := List.nodup_cons.1 distinct
    show (refreshRecord environment id >>= fun _ => ids.forM _).Ensures _ _ _
    rw [ensures_bind]
    refine (refreshRecord_ensures id).mono (fun _ mid first => ?_) ?_
    · refine (ih distinct).mono (fun _ after rest other => ?_) fun _ after rest other => ?_
      · rw [rest other, first other]
        by_cases own : other = id
        · rw [if_pos own, own, if_neg notLater, if_pos List.mem_cons_self]
        · rw [if_neg own]
          simp [own]
      · -- a pass that breaks off later has left this record as it was left here
        by_cases own : other = id
        · have left := (rest other).resolve_right fun later => notLater (own ▸ later.1)
          rw [first other, if_pos own] at left
          exact .inr ⟨by simp [own], by rw [left, own]⟩
        · have before := first other
          rw [if_neg own] at before
          rw [← before]
          exact (rest other).imp_right fun later => ⟨List.mem_cons_of_mem _ later.1, later.2⟩
    · rintro _ after rfl other
      exact .inl rfl

/-- **The refresh.** Where it is not broken off, every record is treated. -/
theorem refreshLocked_ensures : (refreshLocked environment).Ensures
      (fun _ after => ∀ id : String, after.requests[id]? =
        (state.requests[id]?).bind (·.kept environment.refreshedAt))
      (fun _ => Refreshed environment.refreshedAt state) state := by
  have distinct : state.requests.keys.Nodup := by
    have pairs := state.requests.distinct_keys
    exact pairs.imp fun differs same => differs (by simp [same])
  rw [refreshLocked]
  simp only [ensures_bind, ensures_read]
  refine (refreshRecords_ensures distinct).mono (fun _ after all id => ?_) fun _ after some id => ?_
  · rw [all id]
    by_cases known : id ∈ state.requests.keys
    · rw [if_pos known]
    · have missing : state.requests[id]? = none := by
        rw [Std.ExtTreeMap.mem_keys] at known
        simpa using known
      rw [if_neg known, missing]
      rfl
  · exact (some id).imp_right fun treated => treated.2

/-! ## What a call does -/

structure Report where
  (requestId nodeId leaseId : String)
  fencingToken : Nat
  outcome : WorkerOutcome

def GatewayOperation.report? : GatewayOperation → Option Report
  | .complete requestId nodeId leaseId fencingToken result =>
    some ⟨requestId, nodeId, leaseId, fencingToken, ⟨some result, none, .completed⟩⟩
  | .fail requestId nodeId leaseId fencingToken error =>
    some ⟨requestId, nodeId, leaseId, fencingToken, ⟨none, some (trim error), .failed⟩⟩
  | _ => none

def NoLease : Except ApiError GatewayAnswer → Prop
  | .ok (.lease _) => False
  | _ => True

/-- **What a call does to the refreshed records**, and what it answers. -/
inductive Effect (node : String) (call : GatewayCall) (mid : WorkerGatewayState) :
    Except ApiError GatewayAnswer → WorkerGatewayState → Prop
  /-- Nothing. -/
  | none (answer : Except ApiError GatewayAnswer) (noLease : NoLease answer) :
      Effect node call mid answer mid
  | submitted (capability tool : String) (arguments : Json)
      (operation : call.operation = .submitFor capability tool arguments)
      (unique : ∀ (id : String) (record : WorkerRpcRecord), mid.requests[id]? = some record →
        record.dedupeKey.isSome → record.dedupeKey ≠ requestDedupeKey capability tool arguments)
      (room : mid.active < maxActiveRequests) :
      Effect node call mid
        (.ok (.record (submittedRecord node capability tool arguments call.environment)))
        ⟨mid.requests.insert (requestIdFor capability call.environment.uuid)
          (submittedRecord node capability tool arguments call.environment)⟩
  | idle (capabilities : List String) (operation : call.operation = .tryLeaseFor node capabilities)
      (isOldest : oldest (mid.candidates node capabilities) = Option.none) :
      Effect node call mid (.ok (.lease Option.none)) mid
  | leased (capabilities : List String) (record : WorkerRpcRecord)
      (operation : call.operation = .tryLeaseFor node capabilities)
      (isOldest : oldest (mid.candidates node capabilities) = some record) :
      Effect node call mid (.ok (.lease (some (record.grant call.environment))))
        ⟨mid.requests.insert record.requestId (record.leasedAt call.environment)⟩
  | finished (report : Report) (record : WorkerRpcRecord)
      (operation : call.operation.report? = some report)
      (found : mid.requests[report.requestId]? = some record)
      (live : ¬ record.state.isTerminal)
      (valid : validateActiveLease record report.nodeId report.leaseId report.fencingToken
        call.environment.now = .ok ()) :
      Effect node call mid (.ok (.record (record.finishedAt report.outcome call.environment)))
        ⟨mid.requests.insert report.requestId (record.finishedAt report.outcome call.environment)⟩

/-- **How a call is served**: it is refused, its refresh is broken off, or it takes effect. -/
inductive Serves (node : String) (call : GatewayCall) (state : WorkerGatewayState) :
    Except ApiError GatewayAnswer → WorkerGatewayState → Prop
  | refused (error : ApiError) : Serves node call state (.error error) state
  | brokenOff (error : ApiError) {after : WorkerGatewayState}
      (broken : Refreshed call.environment.refreshedAt state after) :
      Serves node call state (.error error) after
  | answered {mid after : WorkerGatewayState} {answer : Except ApiError GatewayAnswer}
      (refreshed : refreshLocked call.environment state = (.ok (), mid))
      (effect : Effect node call mid answer after) : Serves node call state answer after

section Serve

variable {node : String} {call : GatewayCall}

theorem ensures_refreshed {α : Type} {next : Unit → Procedure WorkerGatewayState ApiError α}
    {answer : α → GatewayAnswer}
    (rest : ∀ mid, (next ()).Ensures (fun value => Effect node call mid (.ok (answer value)))
      (fun error => Effect node call mid (.error error)) mid) :
    (refreshLocked call.environment >>= next).Ensures
      (fun value => Serves node call state (.ok (answer value)))
      (fun error => Serves node call state (.error error)) state := by
  rw [ensures_bind]
  refine ((ensures_self _ state).and refreshLocked_ensures).mono ?_ ?_
  · rintro ⟨⟩ mid ⟨refreshed, -⟩
    refine (rest mid).mono ?_ ?_
    · exact fun value after effect => .answered refreshed effect
    · exact fun error after effect => .answered refreshed effect
  · rintro error after ⟨-, broken⟩
    exact .brokenOff error broken

theorem persist_ensures {fault : Option String} {returns : Unit → WorkerGatewayState → Prop}
    {throws : ApiError → WorkerGatewayState → Prop} (written : returns () state)
    (failed : ∀ error, throws error state) : (persist fault).Ensures returns throws state := by
  unfold persist
  cases fault with
  | none => exact (ensures_pure _).2 written
  | some message => exact (ensures_fail _).2 (failed _)

theorem finish_ensures (report : Report) (operation : call.operation.report? = some report) :
    (finish report.requestId report.nodeId report.leaseId report.fencingToken report.outcome
        call.environment).Ensures
      (fun record => Serves node call state (.ok (.record record)))
      (fun error => Serves node call state (.error error)) state := by
  rw [finish, ensures_bind]
  refine .ofExcept (fun _ _ => ensures_refreshed fun mid => ?_) fun error => .refused error
  simp only [ensures_bind, ensures_read]
  have refused (error : ApiError) : Effect node call mid (.error error) mid := .none _ trivial
  refine .require (fun record found => ?_) (refused _)
  rw [ensures_ite]
  refine ⟨fun terminal => ?_, fun live => ?_⟩
  · exact .checked (fun _ => (ensures_pure _).2 (.none _ trivial)) (refused _)
  · simp only [ensures_bind]
    refine .ofExcept (fun _ valid => persist_ensures ?_ refused) refused
    simp only [ensures_modify, ensures_pure]
    exact .finished report record operation found live valid

theorem submitFor_ensures {capability tool : String} {arguments : Json}
    (operation : call.operation = .submitFor capability tool arguments) :
    (submitFor node capability tool arguments call.environment).Ensures
      (fun record => Serves node call state (.ok (.record record)))
      (fun error => Serves node call state (.error error)) state := by
  rw [submitFor, ensures_bind]
  refine .ofExcept (fun _ _ => ?_) fun error => .refused error
  refine .checked (fun _ => ensures_refreshed fun mid => ?_) (.refused _)
  have refused (error : ApiError) : Effect node call mid (.error error) mid := .none _ trivial
  simp only [ensures_bind, ensures_read]
  split
  · exact .checked (fun _ => (ensures_pure _).2 (.none _ trivial)) (refused _)
  · rename_i missing
    rw [enqueue]
    simp only [ensures_bind, ensures_read]
    refine .check (fun room => persist_ensures ?_ refused) (refused _)
    simp only [ensures_modify, ensures_pure]
    refine .submitted capability tool arguments operation ?_ room
    intro id record found hasKey same
    have listed : record ∈ mid.values :=
      List.mem_map.2 ⟨(id, record), Std.ExtTreeMap.mem_toList_iff_getElem?_eq_some.2 found, rfl⟩
    have other := List.find?_eq_none.1 missing record listed
    rw [← same, hasKey] at other
    simp at other

theorem tryLeaseFor_ensures {nodeId : String} {capabilities : List String}
    (operation : call.operation = .tryLeaseFor nodeId capabilities) :
    (tryLeaseFor node nodeId capabilities call.environment).Ensures
      (fun lease => Serves node call state (.ok (.lease lease)))
      (fun error => Serves node call state (.error error)) state := by
  rw [tryLeaseFor, ensures_bind]
  refine .check (fun own => ensures_refreshed fun mid => ?_) (.refused _)
  subst own
  have refused (error : ApiError) : Effect nodeId call mid (.error error) mid := .none _ trivial
  simp only [ensures_bind, ensures_read]
  cases isOldest : oldest (mid.candidates nodeId capabilities) with
  | none => exact (ensures_pure _).2 (.idle capabilities operation isOldest)
  | some record =>
    simp only [ensures_bind]
    refine .check (fun _ => persist_ensures ?_ refused) (refused _)
    simp only [ensures_modify, ensures_pure]
    exact .leased capabilities record operation isOldest

/-- **How calls are served.** -/
theorem serve_ensures (node : String) (call : GatewayCall) (state : WorkerGatewayState) :
    (serve node call).Ensures (fun answer => Serves node call state (.ok answer))
      (fun error => Serves node call state (.error error)) state := by
  rw [serve]
  cases operation : call.operation with
  | submitFor capability tool arguments =>
    exact (ensures_map _ _).2 (submitFor_ensures operation)
  | tryLeaseFor nodeId capabilities => exact (ensures_map _ _).2 (tryLeaseFor_ensures operation)
  | complete requestId nodeId leaseId fencingToken result =>
    refine (ensures_map _ _).2 ?_
    exact finish_ensures ⟨requestId, nodeId, leaseId, fencingToken, _⟩ (by rw [operation]; rfl)
  | fail requestId nodeId leaseId fencingToken error =>
    refine (ensures_map _ _).2 ?_
    rw [fail, ensures_bind]
    refine .check (fun _ => ?_) (.refused _)
    exact finish_ensures ⟨requestId, nodeId, leaseId, fencingToken, _⟩ (by rw [operation]; rfl)
  | get requestId =>
    refine (ensures_map _ _).2 (ensures_refreshed fun mid => ?_)
    simp only [ensures_bind, ensures_read]
    exact .require (fun record _ => .none _ trivial) (.none _ trivial)

theorem serves (node : String) (call : GatewayCall) (state : WorkerGatewayState) :
    Serves node call state (serve node call state).1 (serve node call state).2 := by
  have served := serve_ensures node call state
  cases ran : serve node call state with
  | mk answer after =>
    cases answer with
    | ok answer => exact served.returned ran
    | error error => exact served.threw ran

theorem Serves.effect {answer : Except ApiError GatewayAnswer} {after : WorkerGatewayState}
    (served : Serves node call state answer after) :
    ∃ mid, Refreshed call.environment.refreshedAt state mid ∧ Effect node call mid answer after := by
  cases served with
  | refused error => exact ⟨state, fun _ => .inl rfl, .none _ trivial⟩
  | brokenOff error broken => exact ⟨after, broken, .none _ trivial⟩
  | answered refreshed effect =>
    exact ⟨_, fun id => .inr (refreshLocked_ensures.returned refreshed id), effect⟩

end Serve

end Zero3Pilot.WorkerGateway
