import Zero3Pilot.Lifecycle.StepWork

/-! # Only the holder of a claim works on a step

A session works on the step of its row. The row keeps its step when the claim is given up, so that a
session without an active claim still works on a step that may by then be another session's. Where
every session that works has an active claim, and a session asks again for a claim only while it holds
a step, whoever works on a step holds it. -/

namespace Zero3Pilot.Lifecycle

open Execution (StepStatus TaskDirectory plainRecord)
open Procedure (Leaves Moves ensures_bind ensures_fallible_ofExcept ensures_focus ensures_ite
  ensures_modify ensures_pure ensures_read)

/-! ## Calls -/

def LifecycleOperation.request? (operation : LifecycleOperation) : Option Json :=
  (plainRecord operation.input "request").toOption

def LifecycleState.caller? (state : LifecycleState) (operation : LifecycleOperation) :
    Option AgentLifecycleSession :=
  operation.request?.bind fun input =>
    (idOf (either input "sessionId" "session_id") "sessionId").toOption.bind fun sessionId =>
      state.store.session? sessionId

def LifecycleStore.answered? (store : LifecycleStore) (scopeKey : String) (key : ScriptValue) :
    Option IdempotencyRow :=
  (idOf key "idempotencyKey").toOption.bind fun key =>
    store.idempotency.find? fun row => row.scopeKey = scopeKey ∧ row.idempotencyKey = key

def LifecycleState.recorded? (state : LifecycleState) (operation : LifecycleOperation)
    (session : AgentLifecycleSession) : Option LifecycleAnswer :=
  operation.request?.bind fun input =>
    let key := either input "idempotencyKey" "idempotency_key"
    match operation with
    | .sessionInterrupt _ => none
    | .taskClaim _ =>
      (state.store.answered? ("task:" ++ session.taskId ++ ":session:" ++ session.sessionId) key).map
        (·.response)
    | _ => (state.store.answered? ("session:" ++ session.sessionId) key).map (·.response)

def LifecycleOperation.claims : LifecycleOperation → Bool
  | .taskClaim _ => true
  | _ => false

def LifecycleAnswer.taskClaim? : LifecycleAnswer → Option TaskClaimAnswer
  | .taskClaim answer => some answer
  | _ => none

/-! ## The property -/

/-- **A call is driven by the holder of a claim**: it acts on a step only where its session holds that
step, or comes to hold it by this call. -/
structure DrivenByHolder (operation : LifecycleOperation) (state : LifecycleState)
    (result : Except String LifecycleAnswer) (after : LifecycleState) : Prop where
  acted : ∀ taskId stepId, Acted state.holdings after.holdings taskId stepId →
    ∃ session, state.caller? operation = some session ∧
      (Holds state.holdings session.sessionId taskId stepId ∨
        operation.claims = true ∧ Holds after.holdings session.sessionId taskId stepId)
  exclusive : ∀ taskId directory, after.execution.lookup taskId = some directory →
    claimMode ⟨after.settingsOf taskId, directory⟩ = .exclusive →
    ∀ claim ∈ after.store.claims, ∀ other ∈ after.store.claims, claim.state = .active →
      other.state = .active → claim.taskId = taskId → other.taskId = taskId →
      claim.sessionId = other.sessionId
  claimed : ∀ answer, operation.claims = true → result = .ok (.taskClaim answer) →
    answer.state = "CLAIMED" → ∃ session claim stepId, state.caller? operation = some session ∧
      answer.claim? = some claim ∧ claim.stepId = some stepId ∧
      Holds after.holdings session.sessionId session.taskId stepId

/-! ## The condition -/

def isNumber : ScriptValue → Bool
  | some (.number _) => true
  | _ => false

def worksOn (directory : Option TaskDirectory) (session : AgentLifecycleSession) (input : Json) :
    LifecycleOperation → Bool
  | .eventRecord _ =>
    (eventTypeOf (either input "eventType" "event_type")).toOption = some .progress &&
      isNumber (input.get "progress") &&
      directory.any fun directory => (session.stepId.bind directory.runtime.step?).any fun step =>
        step.status ∈ [.dispatching, .running, .waitingReport, .fixRequired]
  | .artifactRegister _ => session.stepId.isSome
  | .taskComplete _ =>
    session.stepId.isSome && (arrayOf (input.get "artifacts") "artifacts").toOption.any (· ≠ []) ||
      directory.any fun directory => (completableStep directory session).isSome
  | .sessionInterrupt _ => directory.any fun directory => (interruptedStep directory session).isSome
  | _ => false

/-- A call of a session that is not answered as before. -/
def Unrepeated (state : LifecycleState) (operation : LifecycleOperation)
    (session : AgentLifecycleSession) : Prop :=
  (∀ input ∈ operation.request?,
    worksOn (state.execution.lookup session.taskId) session input operation = true →
      (state.store.activeClaim? session.sessionId).isSome = true) ∧
  (operation.claims = true → ∀ claim ∈ state.store.activeClaim? session.sessionId,
    claim.stepId.isSome = true)

instance (state : LifecycleState) (operation : LifecycleOperation)
    (session : AgentLifecycleSession) : Decidable (Unrepeated state operation session) :=
  inferInstanceAs (Decidable (_ ∧ _))

def Repeated (state : LifecycleState) (operation : LifecycleOperation)
    (session : AgentLifecycleSession) (answer : LifecycleAnswer) : Prop :=
  operation.claims = true → ∀ claimAnswer ∈ answer.taskClaim?, claimAnswer.state = "CLAIMED" →
    (state.store.activeClaim? session.sessionId).map (·.claimId) =
      claimAnswer.claim?.map (·.claimId)

instance (state : LifecycleState) (operation : LifecycleOperation)
    (session : AgentLifecycleSession) (answer : LifecycleAnswer) :
    Decidable (Repeated state operation session answer) :=
  inferInstanceAs (Decidable (_ → _))

/-- **The condition**: the session of a call works by an active claim, and what is drawn is new. -/
structure CallsAsHolder (state : LifecycleState) (call : LifecycleOperation × Surroundings) :
    Prop where
  unrepeated : ∀ session ∈ state.caller? call.1, state.recorded? call.1 session = none →
    Unrepeated state call.1 session
  repeated : ∀ session ∈ state.caller? call.1, ∀ answer ∈ state.recorded? call.1 session,
    Repeated state call.1 session answer
  fresh : ∀ n, ∀ claim ∈ state.store.claims, claim.claimId ≠ "agent-claim-" ++ (call.2.uuid n).text

/-! ## Calls that keep the claims -/

section Calls

variable {operation : LifecycleOperation} {state after : LifecycleState}
  {result : Except String LifecycleAnswer} {session : AgentLifecycleSession}
  {about : Option String} {taskId stepId : String}

/-- **What is shown of every call.** -/
structure Settled (operation : LifecycleOperation) (state : LifecycleState)
    (result : Except String LifecycleAnswer) (after : LifecycleState) : Prop where
  owned : Owned after.holdings
  driven : DrivenByHolder operation state result after

abbrev Settles (operation : LifecycleOperation) (state : LifecycleState)
    (procedure : LifecycleProcedure LifecycleAnswer) : Prop :=
  procedure.Ensures (fun answer after => Settled operation state (.ok answer) after)
    (fun error after => Settled operation state (.error error) after) state

theorem Owned.holder (owned : Owned state.holdings) (isSession : session.row ∈ state.holdings.sessions)
    (active : (state.store.activeClaim? session.sessionId).isSome = true)
    (isStep : session.stepId = some stepId) :
    ∃ claim, state.store.activeClaim? session.sessionId = some claim ∧
      claim ∈ state.holdings.claims ∧ claim.state = .active ∧ claim.taskId = session.taskId ∧
      claim.stepId = some stepId ∧
      Holds state.holdings session.sessionId session.taskId stepId := by
  obtain ⟨claim, found⟩ := Option.isSome_iff_exists.1 active
  have member : claim ∈ state.holdings.claims := List.mem_of_find?_eq_some found
  have chosen := List.find?_some found
  simp only [decide_eq_true_eq] at chosen
  obtain ⟨row, isRow, same, task, step⟩ := owned.rows.owner claim member chosen.2
  have alike : row = session.row :=
    List.inj_on_of_nodup_map owned.rows.sessionIds isRow isSession (same.trans chosen.1)
  subst alike
  have ofStep : claim.stepId = some stepId := step.symm.trans isStep
  have holds := owned.tasks.holds member chosen.2 ofStep
  rw [chosen.1, ← task] at holds
  exact ⟨claim, found, member, chosen.2, task.symm, ofStep, holds⟩

/-- **A call that keeps the claims** is driven by the holder of the step it is about. -/
theorem settled_of_moved (owned : Owned after.holdings)
    (moved : Moved taskId about state.holdings after.holdings)
    (other : operation.claims = false)
    (holder : ∀ stepId, about = some stepId → ∃ session, state.caller? operation = some session ∧
      Holds state.holdings session.sessionId taskId stepId) :
    Settled operation state result after where
  owned := owned
  driven :=
    { acted := by
        intro name stepId acted
        obtain ⟨rfl, isAbout⟩ := moved.acted acted
        obtain ⟨session, called, holds⟩ := holder stepId isAbout
        exact ⟨session, called, Or.inl holds⟩
      exclusive := owned.tasks.exclusive
      claimed := by
        intro answer isClaim
        rw [other] at isClaim
        exact absurd isClaim Bool.false_ne_true }

theorem settled_of_same (owned : Owned state.holdings) (same : after.holdings = state.holdings)
    (other : operation.claims = false) : Settled operation state result after := by
  have moved : Moved "" none state.holdings after.holdings := by
    rw [same]
    exact refl_of (Moved "" none) _
  exact settled_of_moved (same ▸ owned) moved other (by rintro stepId ⟨⟩)

end Calls

/-! ## How a call begins and ends -/

section Frames

variable {surroundings : Surroundings} {operation : LifecycleOperation} {state : LifecycleState}
  {session : AgentLifecycleSession}

theorem request?_of_ok {value : ScriptValue} {label : String} {input : Json}
    (isRequest : plainRecord value label = .ok input) (same : operation.input = value) :
    operation.request? = some input := by
  rw [LifecycleOperation.request?, same]
  match value with
  | some (.object members) => exact congrArg some (Except.ok.inj isRequest)
  | none | some .null | some (.bool _) | some (.number _) | some (.string _) | some (.array _) =>
    cases isRequest

theorem ensures_requireSession {sessionId : ScriptValue}
    {returns : AgentLifecycleSession → LifecycleState → Prop} {throws : String → LifecycleState → Prop}
    (returned : ∀ session, (idOf sessionId "sessionId").toOption.bind
      (fun sessionId => state.store.session? sessionId) = some session → returns session state)
    (threw : ∀ error, throws error state) :
    (requireSession (plainPorts surroundings) sessionId).Ensures returns throws state := by
  rw [requireSession, ensures_bind]
  show (onStore (getSession sessionId)).Ensures _ _ _
  rw [onStore, ensures_focus, getSession, ensures_bind]
  refine .ofExcept (fun id valid => ?_) threw
  rw [ensures_bind, ensures_read, ensures_pure]
  refine .require (fun session found => returned session ?_) (threw _)
  rw [valid]
  exact found

/-- **An operation under a key** is answered as before, or runs and is recorded. -/
theorem ensures_idempotent {scope : String} {key : ScriptValue} {name : String} {request : Json}
    {run : LifecycleProcedure LifecycleAnswer} {returns : LifecycleAnswer → LifecycleState → Prop}
    {throws : String → LifecycleState → Prop}
    (replayed : ∀ row, state.store.answered? scope key = some row → row.operation = name →
      returns row.response state)
    (ran : state.store.answered? scope key = none → run.Ensures
      (fun response between => (∀ row after, row.response = response → row.operation = name →
          after.holdings = { between.holdings with answers := between.holdings.answers ++ [row] } →
          returns response after) ∧ ∀ error, throws error between) throws state)
    (threw : ∀ error, throws error state) :
    (idempotent (plainPorts surroundings) scope key name request run).Ensures returns throws
      state := by
  simp only [idempotent, plainPorts_statement]
  rw [ensures_bind, onStore, ensures_focus, getIdempotent, ensures_bind]
  refine .ofExcept (fun id valid => ?_) threw
  rw [ensures_bind, ensures_read]
  have answered : state.store.answered? scope key =
      state.store.idempotency.find? fun row => row.scopeKey = scope ∧ row.idempotencyKey = id := by
    rw [LifecycleStore.answered?, valid]
    rfl
  cases found : state.store.idempotency.find? fun row =>
      row.scopeKey = scope ∧ row.idempotencyKey = id with
  | some row =>
    refine .checked (fun same => ?_) (threw _)
    rw [ensures_pure]
    exact (ensures_pure _).2 (replayed row (answered.trans found) same.1)
  | none =>
    rw [ensures_pure]
    refine (ensures_bind _ _).2 ((ran (answered.trans found)).imp ?_)
    rintro response between ⟨returned, refused⟩
    rw [ensures_bind, onStore, ensures_focus, putIdempotent, ensures_bind]
    refine .ofExcept (fun id _ => ?_) refused
    rw [ensures_bind, ensures_read, ensures_bind]
    refine .check (fun _ => ?_) (refused _)
    rw [ensures_modify]
    exact (ensures_pure _).2
      (returned ⟨scope, id, name, stableJson request, response⟩ _ rfl rfl rfl)

theorem Owned.answered {holdings : Holdings} (owned : Owned holdings) (row : IdempotencyRow)
    (recorded : row.operation = "task.claim" → ∀ answer, row.response = .taskClaim answer →
      ∀ claim, answer.claim? = some claim → (answer.state = "CLAIMED" → claim.stepId ≠ none) ∧
        ∃ known ∈ holdings.claims, known.claimId = claim.claimId ∧ known.stepId = claim.stepId) :
    Owned { holdings with answers := holdings.answers ++ [row] } where
  rows :=
    { owned.rows with
      answers := by
        intro other member ofClaim answer isAnswer
        rcases List.mem_append.1 member with member | member
        · exact owned.rows.answers other member ofClaim answer isAnswer
        · obtain rfl := List.mem_singleton.1 member
          exact recorded ofClaim answer isAnswer }
  tasks := ⟨owned.tasks.known, owned.tasks.alone, owned.tasks.assigned, owned.tasks.exclusive⟩

/-- What an operation leaves behind that is about one step of a task. -/
structure Kept (taskId : String) (about : Option String) (before after : Holdings) : Prop where
  owned : Owned after
  moved : Moved taskId about before after

theorem Worked.kept {taskId : String} {about : Option String} {before after : Holdings}
    (worked : Worked taskId about before after) (owned : Owned before) :
    Kept taskId about before after :=
  ⟨worked.owned owned, worked.toMoved⟩

/-- **An operation under a key that is not a claim** is driven by the holder of the step it is
about. -/
theorem settled_idempotent {scope : String} {key : ScriptValue} {name : String} {request : Json}
    {run : LifecycleProcedure LifecycleAnswer} {taskId : String} {about : Option String}
    (owned : Owned state.holdings) (other : operation.claims = false) (unclaimed : name ≠ "task.claim")
    (holder : state.store.answered? scope key = none → ∀ stepId, about = some stepId →
      ∃ session, state.caller? operation = some session ∧
        Holds state.holdings session.sessionId taskId stepId)
    (ran : run.Ensures (fun _ between => Kept taskId about state.holdings between.holdings)
      (fun _ between => Kept taskId about state.holdings between.holdings) state) :
    Settles operation state (idempotent (plainPorts surroundings) scope key name request run) := by
  refine ensures_idempotent (fun row _ _ => settled_of_same owned rfl other) (fun unanswered => ?_)
    fun error => settled_of_same owned rfl other
  refine ran.mono (fun response between kept => ⟨fun row after _ named same => ?_, fun error => ?_⟩)
    fun error between kept => ?_
  · have ownedAfter : Owned after.holdings := by
      rw [same]
      exact kept.owned.answered row fun isClaim => absurd (named.symm.trans isClaim) unclaimed
    have moved : Moved taskId about state.holdings after.holdings := by
      rw [same]
      exact ⟨kept.moved.settings, kept.moved.tasks⟩
    exact settled_of_moved ownedAfter moved other (holder unanswered)
  · exact settled_of_moved kept.owned kept.moved other (holder unanswered)
  · exact settled_of_moved kept.owned kept.moved other (holder unanswered)

theorem Owned.ids (owned : Owned state.holdings) (known : session ∈ state.store.sessions) :
    IsId session.sessionId ∧ IsId session.taskId ∧ IsId session.agentId :=
  owned.rows.ids session.row (List.mem_map_of_mem known)

theorem caller_of_found {input : Json} (isRequest : operation.request? = some input)
    (found : (idOf (either input "sessionId" "session_id") "sessionId").toOption.bind
      (fun sessionId => state.store.session? sessionId) = some session) :
    state.caller? operation = some session ∧ session ∈ state.store.sessions := by
  constructor
  · rw [LifecycleState.caller?, isRequest, Option.bind_some, found]
  · obtain ⟨sessionId, -, isSession⟩ := Option.bind_eq_some_iff.1 found
    exact List.mem_of_find?_eq_some isSession

/-- **An operation about a session** begins with its request and the session. -/
theorem settles_called {value : ScriptValue} {label : String}
    {next : Json → AgentLifecycleSession → LifecycleProcedure LifecycleAnswer}
    (refused : ∀ error, Settled operation state (.error error) state) (same : operation.input = value)
    (goesOn : ∀ input session, operation.request? = some input →
      state.caller? operation = some session → session ∈ state.store.sessions →
      (next input session).Ensures (fun answer => Settled operation state (.ok answer))
        (fun error => Settled operation state (.error error)) state) :
    Settles operation state (do
      let input ← Fallible.ofExcept (plainRecord value label)
      let session ← requireSession (plainPorts surroundings) (either input "sessionId" "session_id")
      next input session) := by
  rw [Settles, ensures_bind, ensures_fallible_ofExcept]
  refine ⟨fun input isRequest => ?_, fun error _ => refused error⟩
  have request := request?_of_ok isRequest same
  rw [ensures_bind]
  refine ensures_requireSession (fun session found => ?_) refused
  obtain ⟨called, known⟩ := caller_of_found request found
  exact goesOn input session request called known

end Frames

theorem answered?_of_id {store : LifecycleStore} {scope key : String} {value : ScriptValue}
    (isKey : idOf value "idempotencyKey" = .ok key) :
    store.answered? scope (some (.string key)) = store.answered? scope value := by
  have again : idOf (some (.string key)) "idempotencyKey" = .ok key :=
    (isId_of_requiredId isKey).textId "idempotencyKey"
  rw [LifecycleStore.answered?, LifecycleStore.answered?, again, isKey]

/-! ## The operations that keep the claims -/

section Operations

variable {surroundings : Surroundings} {state : LifecycleState}

variable {session : AgentLifecycleSession}

theorem reportProgress_worked {input content : Json} {type : LifecycleEventType} {worklogId : String}
    {about : Option String} (valid : IsId session.taskId)
    (reports : ∀ stepId progress, session.stepId = some stepId → type = .progress →
      input.get "progress" = some (.number progress) → ∀ directory step,
      state.holdings.task? session.taskId = some directory →
      directory.runtime.step? stepId = some step →
      step.status ∈ [StepStatus.dispatching, .running, .waitingReport, .fixRequired] →
      about = some stepId) :
    (reportProgress (plainPorts surroundings) input content session type worklogId).Ensures
      (fun _ after => Worked session.taskId about state.holdings after.holdings)
      (fun _ after => Worked session.taskId about state.holdings after.holdings) state := by
  have still : Worked session.taskId about state.holdings state.holdings :=
    refl_of (Worked session.taskId about) _
  rw [reportProgress]
  split
  · rename_i stepId progress isStep isProgress
    rw [ensures_ite]
    refine ⟨fun isType => ?_, fun _ => (ensures_pure _).2 still⟩
    refine (ensures_recordProgress valid progress _ _ state).mono (fun _ after ensured => ?_)
      fun _ after same => same ▸ still
    obtain ⟨worked, -, directory, step, found, isFound, reporting⟩ := ensured
    rw [reports stepId progress isStep isType isProgress directory step found isFound reporting]
    exact worked
  · exact (ensures_pure _).2 still

def aboutStep (state : LifecycleState) (operation : LifecycleOperation) (input : Json)
    (session : AgentLifecycleSession) : Option String :=
  session.stepId.filter fun _ =>
    worksOn (state.execution.lookup session.taskId) session input operation

theorem CallsAsHolder.holder {operation : LifecycleOperation} {input : Json}
    (asHolder : CallsAsHolder state (operation, surroundings)) (owned : Owned state.holdings)
    (request : operation.request? = some input) (called : state.caller? operation = some session)
    (known : session ∈ state.store.sessions) (unrecorded : state.recorded? operation session = none)
    (stepId : String) (about : aboutStep state operation input session = some stepId) :
    ∃ caller, state.caller? operation = some caller ∧
      Holds state.holdings caller.sessionId session.taskId stepId := by
  obtain ⟨isStep, works⟩ := Option.filter_eq_some_iff.1 about
  have active := (asHolder.unrepeated session called unrecorded).1 input request works
  obtain ⟨claim, -, -, -, -, -, holds⟩ := owned.holder (List.mem_map_of_mem known) active isStep
  exact ⟨session, called, holds⟩

theorem recordEvent_kept (owned : Owned state.holdings) (inputValue : ScriptValue) {input content : Json}
    {type : LifecycleEventType} {level : LifecycleImportance} (valid : IsId session.taskId)
    (isType : eventTypeOf (either input "eventType" "event_type") = .ok type) :
    (recordEvent (plainPorts surroundings) input content session type level).Ensures
      (fun _ after => Kept session.taskId
        (aboutStep state (.eventRecord inputValue) input session) state.holdings after.holdings)
      (fun _ after => Kept session.taskId
        (aboutStep state (.eventRecord inputValue) input session) state.holdings after.holdings)
      state := by
  generalize isAbout : aboutStep state (.eventRecord inputValue) input session = about
  have still : ∀ after : LifecycleState, after.holdings = state.holdings →
      Kept session.taskId about state.holdings after.holdings := by
    intro after same
    rw [same]
    exact ⟨owned, refl_of (Moved session.taskId about) _⟩
  simp only [recordEvent, plainPorts_statement]
  refine (worklog_leaves session type.text level content).first (fun entry logged same => ?_)
    fun _ after => still after
  refine (eventSpec_leaves type level (isProjectScope input) content).first
    (fun specs drawn same' => ?_) fun _ after same' => still after (same'.trans same)
  refine (publishMemorySpecs_leaves session specs).first (fun memory published same'' => ?_)
    fun _ after same'' => still after (same''.trans (same'.trans same))
  have same := same''.trans (same'.trans same)
  rw [ensures_bind]
  have reported : (reportProgress (plainPorts surroundings) input content session type
      entry.worklogId).Ensures
        (fun _ after => Worked session.taskId about published.holdings after.holdings)
        (fun _ after => Worked session.taskId about published.holdings after.holdings) published := by
    refine reportProgress_worked valid ?_
    intro stepId progress isStep isProgress isNumber directory step isTask isFound reporting
    rw [same] at isTask
    have isTask : state.execution.lookup session.taskId = some directory := isTask
    rw [← isAbout, aboutStep, isTask, Option.filter_eq_some_iff]
    refine ⟨isStep, ?_⟩
    simp only [worksOn, isType, isProgress, isNumber, Lifecycle.isNumber, Except.toOption, isStep,
      isFound, Option.any_some, Option.bind_some, decide_true, Bool.true_and, decide_eq_true_eq]
    exact reporting
  rw [same] at reported
  refine reported.mono (fun _ after worked => ?_) fun _ _ worked => worked.kept owned
  refine (leaves_onStore (touchSession_leaves session.sessionId none)).first
    (fun _ touched kept => ?_) fun _ _ kept => kept ▸ worked.kept owned
  refine (leaves_onStore (bumpContext_leaves _ _ _)).first (fun version bumped kept' => ?_)
    fun _ _ kept' => kept'.trans kept ▸ worked.kept owned
  rw [ensures_pure, kept', kept]
  exact worked.kept owned

/-- **`eventRecord`** is driven by the holder of the step it reports on. -/
theorem eventRecord_settled (owned : Owned state.holdings) (inputValue : ScriptValue)
    (asHolder : CallsAsHolder state (.eventRecord inputValue, surroundings)) :
    Settles (.eventRecord inputValue) state (eventRecord (plainPorts surroundings) inputValue) := by
  have refused : ∀ error, Settled (.eventRecord inputValue) state (.error error) state :=
    fun error => settled_of_same owned rfl rfl
  rw [eventRecord]
  refine settles_called refused rfl fun input session request called known => ?_
  rw [ensures_bind, ensures_fallible_ofExcept]
  refine ⟨fun type isType => ?_, fun error _ => refused error⟩
  rw [ensures_bind, ensures_fallible_ofExcept]
  refine ⟨fun level _ => ?_, fun error _ => refused error⟩
  rw [ensures_bind, ensures_fallible_ofExcept]
  refine ⟨fun content _ => ?_, fun error _ => refused error⟩
  refine settled_idempotent owned rfl (by decide) (fun unanswered => ?_)
    (recordEvent_kept owned inputValue (owned.ids known).2.1 isType)
  refine asHolder.holder owned request called known ?_
  simp [LifecycleState.recorded?, request, unanswered]

theorem kept_of_worked {run : LifecycleProcedure LifecycleAnswer} {taskId : String}
    {about : Option String} (owned : Owned state.holdings)
    (worked : Moves LifecycleState.holdings (Worked taskId about) run) :
    run.Ensures (fun _ after => Kept taskId about state.holdings after.holdings)
      (fun _ after => Kept taskId about state.holdings after.holdings) state :=
  (worked state).mono (fun _ _ worked => worked.kept owned) fun _ _ worked => worked.kept owned

theorem registerArtifactCore_worked (valid : IsId session.taskId) (input : Json) (key : String) :
    Moves LifecycleState.holdings (Worked session.taskId session.stepId)
      (registerArtifactCore (plainPorts surroundings) session input key) := by
  simp only [registerArtifactCore, plainPorts_statement, plainPorts_getTask, plainPorts_randomUUID,
    plainPorts_register]
  apply Moves.bind (readTask_leaves session.taskId).moves
  intro snapshot
  apply Moves.bind (.fallible_ofExcept _)
  intro storage
  apply Moves.bind (.fallible_ofExcept _)
  intro logicalName
  apply Moves.bind (.fallible_ofExcept _)
  intro workItemId
  apply Moves.bind (.fallible_ofExcept _)
  intro stageRunId
  apply Moves.bind (drawUuid_leaves surroundings).moves
  intro drawn
  apply Moves.bind (.fallible_ofExcept _)
  intro artifact
  apply Moves.bind (onArtifacts_leaves _).moves
  intro record
  refine Moves.bind ?_ fun _ => ?_
  · rw [recordStepArtifact]
    cases isStep : session.stepId with
    | none => exact .pure ()
    | some stepId => exact recordArtifact_worked valid _ _
  · apply Moves.bind (publishMemorySpecs_leaves session _).moves
    intro memory
    apply Moves.bind (worklog_leaves session _ _ _).moves
    intro entry
    apply Moves.bind (leaves_onStore (bumpContext_leaves _ _ _)).moves
    intro contextVersion
    exact Moves.bind (leaves_onStore (touchSession_leaves session.sessionId none)).moves
      fun _ => .pure _

/-- **`artifactRegister`** is driven by the holder of the step the artifact is recorded on. -/
theorem artifactRegister_settled (owned : Owned state.holdings) (inputValue : ScriptValue)
    (asHolder : CallsAsHolder state (.artifactRegister inputValue, surroundings)) :
    Settles (.artifactRegister inputValue) state (artifactRegister (plainPorts surroundings) inputValue) := by
  have refused : ∀ error, Settled (.artifactRegister inputValue) state (.error error) state :=
    fun error => settled_of_same owned rfl rfl
  rw [artifactRegister]
  refine settles_called refused rfl fun input session request called known => ?_
  rw [ensures_bind, ensures_fallible_ofExcept]
  refine ⟨fun key isKey => ?_, fun error _ => refused error⟩
  have worked : Moves LifecycleState.holdings (Worked session.taskId session.stepId)
      (registerArtifact (plainPorts surroundings) session input key) :=
    Moves.bind (registerArtifactCore_worked (owned.ids known).2.1 input key) fun _ => .pure _
  refine settled_idempotent owned rfl (by decide) (fun unanswered stepId isStep => ?_)
    (kept_of_worked owned worked)
  refine asHolder.holder owned request called known ?_ stepId ?_
  · rw [answered?_of_id isKey] at unanswered
    simp [LifecycleState.recorded?, request, unanswered]
  · simp [aboutStep, worksOn, isStep]

/-- **`memoryCommit`** acts on no step. -/
theorem memoryCommit_settled (owned : Owned state.holdings) (inputValue : ScriptValue) :
    Settles (.memoryCommit inputValue) state (memoryCommit (plainPorts surroundings) inputValue) := by
  have refused : ∀ error, Settled (.memoryCommit inputValue) state (.error error) state :=
    fun error => settled_of_same owned rfl rfl
  rw [memoryCommit]
  refine settles_called refused rfl fun input session _ _ _ => ?_
  rw [ensures_bind, ensures_fallible_ofExcept]
  refine ⟨fun items _ => ?_, fun error _ => refused error⟩
  have leaves : Leaves LifecycleState.holdings
      (commitMemory (plainPorts surroundings) session items) := by
    simp only [commitMemory, plainPorts_statement]
    apply Moves.bind (itemSpecs_leaves _ _ _ _ _ _ _)
    intro facts
    apply Moves.bind (itemSpecs_leaves _ _ _ _ _ _ _)
    intro decided
    apply Moves.bind (itemSpecs_leaves _ _ _ _ _ _ _)
    intro discovered
    apply Moves.bind (itemSpecs_leaves _ _ _ _ _ _ _)
    intro warned
    apply Moves.bind (publishMemorySpecs_leaves session _)
    intro memory
    apply Moves.bind (worklog_leaves session _ _ _)
    intro entry
    exact Moves.bind (leaves_onStore (bumpContext_leaves _ _ _)) fun _ => .pure _
  have worked : Moves LifecycleState.holdings (Worked session.taskId none)
      (commitMemory (plainPorts surroundings) session items) := leaves.moves
  exact settled_idempotent owned rfl (by decide) (by rintro _ stepId ⟨⟩) (kept_of_worked owned worked)

/-- **`handoffCreate`** acts on no step. -/
theorem handoffCreate_settled (owned : Owned state.holdings) (inputValue : ScriptValue) :
    Settles (.handoffCreate inputValue) state (handoffCreate (plainPorts surroundings) inputValue) := by
  rw [handoffCreate]
  refine settles_called (fun _ => settled_of_same owned rfl rfl) rfl fun input session _ _ _ => ?_
  have leaves : Leaves LifecycleState.holdings
      (createHandoff (plainPorts surroundings) session input) := by
    simp only [createHandoff, plainPorts_statement, plainPorts_getTask, plainPorts_listArtifacts,
      plainPorts_now]
    apply Moves.bind (readTask_leaves session.taskId)
    intro snapshot
    apply Moves.bind (onArtifacts_leaves _)
    intro artifacts
    apply Moves.bind (leaves_onStore (countWorklog_leaves _))
    intro entries
    apply Moves.bind (.fallible_ofExcept _)
    intro completed
    apply Moves.bind (.fallible_ofExcept _)
    intro remaining
    apply Moves.bind (.fallible_ofExcept _)
    intro decisions
    apply Moves.bind (.fallible_ofExcept _)
    intro warnings
    apply Moves.bind (.pure _)
    intro createdAt
    apply Moves.bind (publishMemorySpecs_leaves session _)
    intro memory
    apply Moves.bind (worklog_leaves session _ _ _)
    intro entry
    exact Moves.bind (leaves_onStore (bumpContext_leaves _ _ _)) fun _ => .pure _
  have worked : Moves LifecycleState.holdings (Worked session.taskId none)
      (createHandoff (plainPorts surroundings) session input) := leaves.moves
  exact settled_idempotent owned rfl (by decide) (by rintro _ stepId ⟨⟩) (kept_of_worked owned worked)

end Operations

/-! ## The operations that end a claim -/

section Endings

variable {surroundings : Surroundings} {state : LifecycleState} {session : AgentLifecycleSession}

theorem ensures_readTask {taskId : String} (valid : IsId taskId)
    {returns : TaskSnapshot → LifecycleState → Prop} {throws : String → LifecycleState → Prop}
    (returned : ∀ directory after, state.execution.lookup taskId = some directory →
      after.holdings = state.holdings → returns ⟨state.settingsOf taskId, directory⟩ after)
    (threw : ∀ error after, after.holdings = state.holdings → throws error after) :
    (readTask taskId).Ensures returns throws state := by
  rw [readTask, ensures_bind]
  refine ensures_onTask valid (fun directory found => ?_) fun error => threw error state rfl
  have unread : ∀ changed : LifecycleState,
      changed.holdings = state.holdings.withTask taskId directory →
      changed.holdings = state.holdings := by
    intro changed same
    rw [same, withTask_self found]
  refine Execution.ensures_loadSnapshot_iff (fun _ changed same => ?_)
    fun _ error changed same => threw error changed (unread changed same)
  rw [ensures_bind, ensures_read, ensures_pure]
  have settings : changed.settings = state.settings :=
    congrArg Holdings.settings (unread changed same)
  rw [LifecycleState.settingsOf, settings]
  exact returned directory changed found (unread changed same)

theorem ensures_releaseClaim {sessionId : String} (valid : IsId sessionId)
    {ended : LifecycleClaimState} {returns : Unit → LifecycleState → Prop}
    {throws : String → LifecycleState → Prop}
    (unclaimed : state.store.activeClaim? sessionId = none → returns () state)
    (released : ∀ current after, state.store.activeClaim? sessionId = some current →
      after.holdings =
        { state.holdings with claims := relinquish current.claimId ended state.holdings.claims } →
      returns () after) :
    (onStore (releaseClaim sessionId ended)).Ensures returns throws state := by
  rw [onStore, ensures_focus, releaseClaim, ensures_bind, activeClaimForSession,
    ensures_bind, valid.textId, Procedure.ofExcept_ok, ensures_pure,
    ensures_bind, ensures_read, ensures_pure]
  cases found : state.store.activeClaim? sessionId with
  | none => exact (ensures_pure _).2 (unclaimed found)
  | some current => exact (ensures_modify _).2 (released current _ found rfl)

theorem activeClaim_found {sessionId : String} {claim : AgentLifecycleClaim}
    (found : state.store.activeClaim? sessionId = some claim) :
    claim ∈ state.holdings.claims ∧ claim.sessionId = sessionId ∧ claim.state = .active := by
  have chosen := List.find?_some found
  simp only [decide_eq_true_eq] at chosen
  exact ⟨List.mem_of_find?_eq_some found, chosen.1, chosen.2⟩

/-- **A claim that is ended** leaves the records agreed. -/
theorem released_kept {taskId : String} {about : Option String} {before : Holdings}
    (kept : Kept taskId about before state.holdings) (valid : IsId session.sessionId)
    {ended : LifecycleClaimState} (inactive : ended ≠ .active) :
    (onStore (releaseClaim session.sessionId ended)).Ensures
      (fun _ after => Kept taskId about before after.holdings) (fun _ _ => False) state := by
  refine ensures_releaseClaim valid (fun _ => kept) fun current after found same => ?_
  obtain ⟨member, -, active⟩ := activeClaim_found found
  refine ⟨kept.owned.relinquished member active inactive ?_ ?_, ?_⟩
  · rw [same]
    exact ⟨fun _ _ _ => rfl, fun _ directory isTask => ⟨directory, isTask, .refl _ _⟩⟩
  · rw [same]
  · rw [same]
    exact ⟨kept.moved.settings, kept.moved.tasks⟩

theorem registerSupplied_worked (valid : IsId session.taskId) (key : String)
    (items : List (Json × Nat)) :
    Moves LifecycleState.holdings (Worked session.taskId session.stepId)
      (registerSupplied (plainPorts surroundings) session key items) := by
  induction items with
  | nil => exact .pure ()
  | cons item items ih =>
    apply Moves.bind (.fallible_ofExcept _)
    intro raw
    exact Moves.bind (registerArtifactCore_worked valid _ _) fun _ => ih

/-- **A completion** is submitted about the step of the session, where it is worked on. -/
theorem submitCompletion_worked {input : Json} {about : Option String} {before : TaskSnapshot}
    (valid : IsId session.taskId) (key : String)
    (supplied : ∀ items, arrayOf (input.get "artifacts") "artifacts" = .ok items → items ≠ [] →
      about = session.stepId)
    (completable : ∀ stepId, completableStep before.directory session = some stepId →
      about = some stepId) :
    Moves LifecycleState.holdings (Worked session.taskId about)
      (submitCompletion (plainPorts surroundings) input session key before) := by
  simp only [submitCompletion, plainPorts_listArtifacts, plainPorts_now]
  intro state
  rw [ensures_bind, ensures_fallible_ofExcept]
  refine ⟨fun items isItems => ?_, fun _ _ => refl_of (Worked session.taskId about) _⟩
  have registered : Moves LifecycleState.holdings (Worked session.taskId about)
      (registerSupplied (plainPorts surroundings) session key items.zipIdx) := by
    cases items with
    | nil => exact .pure ()
    | cons item items =>
      rw [supplied _ isItems (List.cons_ne_nil _ _)]
      exact registerSupplied_worked valid key _
  refine Moves.bind registered (fun _ => ?_) state
  apply Moves.bind (onArtifacts_leaves _).moves
  intro artifacts
  apply Moves.bind (worklog_leaves session _ _ _).moves
  intro completion
  apply Moves.bind (.fallible_ofExcept _)
  intro decisions
  apply Moves.bind (itemSpecs_leaves _ _ _ _ _ _ _).moves
  intro decided
  apply Moves.bind (.fallible_ofExcept _)
  intro given
  apply Moves.bind (itemSpecs_leaves _ _ _ _ _ _ _).moves
  intro warned
  apply Moves.bind (.fallible_ofExcept _)
  intro actions
  apply Moves.bind (publishMemorySpecs_leaves session _).moves
  intro memory
  apply Moves.bind (.pure _)
  intro createdAt
  apply Moves.bind (publishMemorySpecs_leaves session _).moves
  intro handoffMemory
  refine Moves.bind ?_ fun _ => .pure _
  rw [requestStepCompletion]
  cases isStep : completableStep before.directory session with
  | none => exact .pure before
  | some stepId =>
    rw [completable stepId isStep]
    exact requestCompletion_worked valid _

/-- **`taskComplete`** is driven by the holder of the step that is completed. -/
theorem taskComplete_settled (owned : Owned state.holdings) (inputValue : ScriptValue)
    (asHolder : CallsAsHolder state (.taskComplete inputValue, surroundings)) :
    Settles (.taskComplete inputValue) state (taskComplete (plainPorts surroundings) inputValue) := by
  have refused : ∀ error, Settled (.taskComplete inputValue) state (.error error) state :=
    fun error => settled_of_same owned rfl rfl
  rw [taskComplete]
  refine settles_called refused rfl fun input session request called known => ?_
  obtain ⟨validId, valid, -⟩ := owned.ids known
  rw [ensures_bind, ensures_fallible_ofExcept]
  refine ⟨fun key isKey => ?_, fun error _ => refused error⟩
  have kept : (completeTask (plainPorts surroundings) input session key).Ensures
      (fun _ after => Kept session.taskId (aboutStep state (.taskComplete inputValue) input session)
        state.holdings after.holdings)
      (fun _ after => Kept session.taskId (aboutStep state (.taskComplete inputValue) input session)
        state.holdings after.holdings) state := by
    simp only [completeTask, plainPorts_statement, plainPorts_getTask]
    rw [ensures_bind]
    refine ensures_readTask valid (fun directory read isTask same => ?_) fun _ after same => ?_
    · have submits : Moves LifecycleState.holdings (Worked session.taskId
          (aboutStep state (.taskComplete inputValue) input session))
          (submitCompletion (plainPorts surroundings) input session key
            ⟨state.settingsOf session.taskId, directory⟩) :=
        submitCompletion_worked valid key ?_ ?_
      · refine submits.first (fun submitted between worked => ?_) fun _ after worked => ?_
        · rw [same] at worked
          rw [ensures_bind]
          refine (released_kept (worked.kept owned) validId (by decide)).mono
            (fun _ released kept => ?_) fun _ _ never => never.elim
          refine (leaves_onStore (touchSession_leaves _ _)).first (fun _ touched same => ?_)
            fun _ _ same => same ▸ kept
          refine (leaves_onStore (bumpContext_leaves _ _ _)).first (fun _ bumped same' => ?_)
            fun _ _ same' => same'.trans same ▸ kept
          rw [ensures_pure, same', same]
          exact kept
        · rw [same] at worked
          exact worked.kept owned
      · intro items isItems nonempty
        rw [aboutStep]
        cases isStep : session.stepId with
        | none => rfl
        | some stepId => simp [worksOn, isStep, isItems, Except.toOption, nonempty]
      · intro stepId completable
        have isStep := (Option.filter_eq_some_iff.1 completable).1
        rw [aboutStep, isTask]
        simp [worksOn, isStep, completable]
    · rw [same]
      exact ⟨owned, refl_of (Moved _ _) _⟩
  refine settled_idempotent owned rfl (by decide) (fun unanswered => ?_) kept
  refine asHolder.holder owned request called known ?_
  rw [answered?_of_id isKey] at unanswered
  simp [LifecycleState.recorded?, request, unanswered]

theorem loseBinding_worked (valid : IsId session.taskId) :
    Moves LifecycleState.holdings (Worked session.taskId none)
      (loseBinding (plainPorts surroundings) session) := by
  rw [loseBinding]
  cases session.bindingId with
  | none => exact .pure ()
  | some bindingId =>
    exact Moves.bind (updateSessionState_worked valid _ _).fallible_attempt fun _ => .pure ()

/-- **A step that is recovered** fails and is readied; where that throws, it goes on as it was. -/
theorem recoverStep_moved (valid : IsId session.taskId) (stepId reason : String) :
    (recoverStep (plainPorts surroundings) session stepId reason).Ensures
      (fun _ after => Moved session.taskId (some stepId) state.holdings after.holdings ∧
        after.holdings.toHeldRows = state.holdings.toHeldRows)
      (fun _ after => Worked session.taskId (some stepId) state.holdings after.holdings) state := by
  simp only [recoverStep, plainPorts_getTask]
  refine (failStep_worked valid reason).fallible_attempt.first (fun _ failed worked => ?_)
    fun _ _ worked => worked
  refine (readTask_leaves session.taskId).first (fun snapshot read same => ?_)
    fun _ _ same => same ▸ worked
  rw [← same] at worked
  rw [ensures_ite]
  refine ⟨fun _ => ?_, fun _ => (ensures_pure _).2 ⟨worked.toMoved, worked.rows⟩⟩
  refine (readyStep_moved valid "session_recovery" read).mono (fun _ after ready => ?_)
    fun _ after same => same ▸ worked
  exact ⟨trans_of (Moved session.taskId (some stepId)) worked.toMoved ready.1, ready.2.trans worked.rows⟩

theorem recordInterruption_leaves (reason : String) : Leaves LifecycleState.holdings
      (recordInterruption (plainPorts surroundings) session reason) := by
  simp only [recordInterruption, plainPorts_statement]
  apply Moves.bind (leaves_onStore (touchSession_leaves _ _))
  intro touched
  apply Moves.bind (worklog_leaves _ _ _ _)
  intro entry
  exact Moves.bind (leaves_onStore (bumpContext_leaves _ _ _)) fun _ => .pure _

/-- **A session is interrupted** about the step that is recovered, by its active claim. -/
theorem interruptSession_kept (owned : Owned state.holdings) (known : session ∈ state.store.sessions)
    (reason : String) {about : Option String}
    (recovers : ∀ directory stepId, state.execution.lookup session.taskId = some directory →
      interruptedStep directory session = some stepId → about = some stepId ∧
        (state.store.activeClaim? session.sessionId).isSome = true) :
    (interruptSession (plainPorts surroundings) session reason).Ensures
      (fun _ after => Kept session.taskId about state.holdings after.holdings)
      (fun _ after => Kept session.taskId about state.holdings after.holdings) state := by
  obtain ⟨validId, valid, -⟩ := owned.ids known
  have recorded : ∀ released : LifecycleState,
      Kept session.taskId about state.holdings released.holdings →
      (recordInterruption (plainPorts surroundings) session reason).Ensures
        (fun _ after => Kept session.taskId about state.holdings after.holdings)
        (fun _ after => Kept session.taskId about state.holdings after.holdings) released := by
    intro released kept
    exact (recordInterruption_leaves reason).ensures (fun _ _ same => same ▸ kept)
      fun _ _ same => same ▸ kept
  simp only [interruptSession, plainPorts_statement, plainPorts_getTask]
  rw [ensures_bind]
  refine ensures_readTask valid (fun directory read isTask same => ?_) fun _ after same => ?_
  · refine (loseBinding_worked valid).first (fun _ lost worked => ?_) fun _ after worked => ?_
    · rw [same] at worked
      rw [ensures_bind, recoverInterrupted]
      dsimp only
      cases isStep : interruptedStep directory session with
      | none =>
        refine (ensures_pure _).2 ?_
        rw [ensures_bind]
        refine (released_kept ⟨worked.owned owned, worked.toMoved.of_attends about⟩ validId
          (by decide)).mono (fun _ released kept => recorded released kept) fun _ _ never => never.elim
      | some stepId =>
        have ofStep : session.stepId = some stepId := (Option.filter_eq_some_iff.1 isStep).1
        obtain ⟨isAbout, active⟩ := recovers directory stepId isTask isStep
        obtain ⟨claim, found, member, isActive, task, claimed, -⟩ :=
          owned.holder (List.mem_map_of_mem known) active ofStep
        have before := worked.toMoved.of_attends (some stepId)
        refine (recoverStep_moved valid stepId reason).mono (fun _ recovered moved => ?_)
          fun _ after further => ?_
        · -- whatever has become of the step, it is given up with the claim
          rw [ensures_bind]
          have rows : recovered.holdings.toHeldRows = state.holdings.toHeldRows :=
            moved.2.trans worked.rows
          have claims : recovered.store.claims = state.store.claims :=
            congrArg HeldRows.claims rows
          refine ensures_releaseClaim validId (fun none_ => ?_) fun current after isCurrent same' => ?_
          · rw [LifecycleStore.activeClaim?, claims] at none_
            rw [LifecycleStore.activeClaim?, none_] at found
            cases found
          · rw [LifecycleStore.activeClaim?, claims] at isCurrent
            obtain rfl := Option.some.inj (isCurrent.symm.trans found)
            have further : Moved session.taskId (some stepId) state.holdings after.holdings := by
              have both := trans_of (Moved session.taskId (some stepId)) before moved.1
              rw [same']
              exact ⟨both.settings, both.tasks⟩
            refine recorded after ⟨?_, isAbout ▸ further⟩
            rw [← task, ← claimed] at further
            have inactive : LifecycleClaimState.interrupted ≠ .active := by decide
            refine owned.relinquished member isActive inactive further ?_
            rw [same', ← rows]
        · have both := trans_of (Worked session.taskId (some stepId))
            (worked.of_attends (some stepId)) further
          rw [isAbout]
          exact both.kept owned
    · rw [same] at worked
      exact ⟨worked.owned owned, worked.toMoved.of_attends about⟩
  · rw [same]
    exact ⟨owned, refl_of (Moved _ _) _⟩

/-- **`sessionInterrupt`** is driven by the holder of the step that is recovered. -/
theorem sessionInterrupt_settled (owned : Owned state.holdings) (inputValue : ScriptValue)
    (asHolder : CallsAsHolder state (.sessionInterrupt inputValue, surroundings)) :
    Settles (.sessionInterrupt inputValue) state (sessionInterrupt (plainPorts surroundings) inputValue) := by
  rw [sessionInterrupt]
  refine settles_called (fun _ => settled_of_same owned rfl rfl) rfl fun input session request called known => ?_
  have unrecorded : state.recorded? (.sessionInterrupt inputValue) session = none := by
    simp [LifecycleState.recorded?]
  have settled : ∀ (result : Except String LifecycleAnswer) (after : LifecycleState),
      Kept session.taskId (aboutStep state (.sessionInterrupt inputValue) input session)
        state.holdings after.holdings →
      Settled (.sessionInterrupt inputValue) state result after := fun result after kept =>
    settled_of_moved kept.owned kept.moved rfl
      (asHolder.holder owned request called known unrecorded)
  refine (interruptSession_kept owned known (interruptReason input) ?_).mono
    (fun answer => settled (.ok answer)) fun error after => settled (.error error) after
  intro directory stepId isTask isStep
  have ofStep : session.stepId = some stepId := (Option.filter_eq_some_iff.1 isStep).1
  have works : worksOn (state.execution.lookup session.taskId) session input
      (.sessionInterrupt inputValue) = true := by
    rw [isTask]
    simp [worksOn, isStep]
  refine ⟨?_, (asHolder.unrepeated session called unrecorded).1 input request works⟩
  rw [aboutStep, ofStep, Option.filter_some, if_pos works]

end Endings

/-! ## Starting a session -/

section Starting

variable {surroundings : Surroundings} {state : LifecycleState}

theorem ensures_drawUuid {returns : String → LifecycleState → Prop}
    {throws : String → LifecycleState → Prop}
    (drawn : ∀ n after, after.holdings = state.holdings →
      returns (surroundings.uuid n).text after) :
    (drawUuid surroundings).Ensures returns throws state := by
  rw [drawUuid, ensures_bind, ensures_read, ensures_bind, ensures_modify, ensures_pure]
  exact drawn _ _ rfl

/-- **The task of a session** is found or created. -/
theorem resolveTaskForSession_worked (taskId projectId : String) (requestedTaskId : ScriptValue) :
    Moves LifecycleState.holdings (Worked taskId none)
      (resolveTaskForSession (plainPorts surroundings) projectId requestedTaskId) := by
  simp only [resolveTaskForSession, plainPorts_getTask, plainPorts_randomUUID]
  refine .ite (fun _ => ?_) fun _ => ?_
  · apply Moves.bind (.fallible_ofExcept _)
    intro given
    apply Moves.bind (readTask_leaves given).moves
    intro snapshot
    exact Moves.bind (.fallible_check _ _) fun _ => .pure snapshot
  · apply Moves.bind (listTasks_leaves surroundings).moves
    intro snapshots
    match snapshots.filter (isCandidate projectId) with
    | [snapshot] => exact .pure snapshot
    | _ :: _ :: _ => exact .fallible_throw _
    | [] =>
      intro state
      refine (ensures_bind _ _).2 (ensures_drawUuid fun n after same => ?_)
      have valid : IsId (agentTask ("agent-task-" ++ (surroundings.uuid n).text)).taskId :=
        isId_drawn (by decide) (by decide) _
      rw [← same]
      exact createTask_worked _ valid _ _ after

theorem Owned.started {holdings : Holdings} (owned : Owned holdings) {session : AgentLifecycleSession}
    (ids : IsId session.sessionId ∧ IsId session.taskId ∧ IsId session.agentId)
    (fresh : ∀ other ∈ holdings.sessions, other.sessionId ≠ session.sessionId) :
    Owned { holdings with sessions := holdings.sessions ++ [session] } where
  rows :=
    { owned.rows with
      sessionIds := by
        show ((holdings.sessions ++ [session]).map (·.sessionId)).Nodup
        rw [List.map_append, List.nodup_append]
        refine ⟨owned.rows.sessionIds, List.nodup_singleton _, fun id member other isOther => ?_⟩
        obtain ⟨earlier, isEarlier, rfl⟩ := List.mem_map.1 member
        rw [List.map_singleton, List.mem_singleton] at isOther
        rw [isOther]
        exact fresh earlier isEarlier
      ids := by
        intro other member
        rcases List.mem_append.1 member with member | member
        · exact owned.rows.ids other member
        · rw [List.mem_singleton.1 member]
          exact ids
      owner := by
        intro claim member active
        obtain ⟨row, isRow, same⟩ := owned.rows.owner claim member active
        exact ⟨row, List.mem_append_left _ isRow, same⟩ }
  tasks := ⟨owned.tasks.known, owned.tasks.alone, owned.tasks.assigned, owned.tasks.exclusive⟩

/-- **A session that starts** has its row, or is given one. -/
theorem upsertSession_kept (owned : Owned state.holdings) (name sessionId agentId : String)
    (agentType : LifecycleAgentType) (projectId taskId : String) :
    (onStore (upsertSession sessionId agentId agentType projectId taskId)).Ensures
      (fun _ after => Kept name none state.holdings after.holdings)
      (fun _ after => after.holdings = state.holdings) state := by
  have same : Kept name none state.holdings state.holdings := ⟨owned, refl_of (Moved name none) _⟩
  rw [onStore, ensures_focus, upsertSession, ensures_bind]
  refine .ofExcept (fun sessionId isSession => ?_) fun _ => rfl
  rw [ensures_bind, ensures_read]
  cases found : state.store.session? sessionId with
  | some existing =>
    refine .checked (fun _ => ?_) rfl
    exact (ensures_pure _).2 same
  | none =>
    rw [ensures_bind]
    refine .ofExcept (fun agentId isAgent => ?_) fun _ => rfl
    rw [ensures_bind]
    refine .ofExcept (fun projectId _ => ?_) fun _ => rfl
    rw [ensures_bind]
    refine .ofExcept (fun task isTask => ?_) fun _ => rfl
    rw [ensures_bind, ensures_modify]
    refine (ensures_pure _).2 ?_
    generalize isRow : (AgentLifecycleSession.mk sessionId agentId agentType projectId task none none
      none .active) = session
    have rows : ({ state with store := { state.store with
        sessions := state.store.sessions ++ [session] } } : LifecycleState).holdings =
          { state.holdings with sessions := state.holdings.sessions ++ [session.row] } := by
      refine congrArg (Holdings.mk · state.holdings.task? state.settings) ?_
      refine congrArg (HeldRows.mk · state.store.claims state.store.idempotency) ?_
      rw [List.map_append]
      rfl
    rw [rows]
    refine ⟨owned.started ?_ ?_, ⟨fun _ _ _ => rfl, fun _ directory isDirectory =>
      ⟨directory, isDirectory, .refl _ _⟩⟩⟩
    · rw [← isRow]
      exact ⟨isId_of_requiredId isSession, isId_of_requiredId isTask, isId_of_requiredId isAgent⟩
    · intro other member named
      obtain ⟨row, known, rfl⟩ := List.mem_map.1 member
      have missing := List.find?_eq_none.1 found row known
      rw [← isRow] at named
      have named : row.sessionId = sessionId := named
      exact missing (decide_eq_true named)

/-- **`sessionStart`** acts on no step. -/
theorem sessionStart_settled (owned : Owned state.holdings) (inputValue : ScriptValue) :
    Settles (.sessionStart inputValue) state (sessionStart (plainPorts surroundings) inputValue) := by
  have refused : ∀ error, Settled (.sessionStart inputValue) state (.error error) state :=
    fun error => settled_of_same owned rfl rfl
  rw [Settles, sessionStart, ensures_bind, ensures_fallible_ofExcept]
  refine ⟨fun input isRequest => ?_, fun error _ => refused error⟩
  rw [ensures_bind, ensures_fallible_ofExcept]
  refine ⟨fun sessionId _ => ?_, fun error _ => refused error⟩
  rw [ensures_bind, ensures_fallible_ofExcept]
  refine ⟨fun projectId _ => ?_, fun error _ => refused error⟩
  rw [ensures_bind, ensures_fallible_ofExcept]
  refine ⟨fun type _ => ?_, fun error _ => refused error⟩
  rw [ensures_bind, ensures_fallible_ofExcept]
  refine ⟨fun agentId _ => ?_, fun error _ => refused error⟩
  have kept : (startSession (plainPorts surroundings) sessionId projectId agentId type
      (either input "taskId" "task_id")).Ensures
        (fun _ after => Kept "" none state.holdings after.holdings)
        (fun _ after => Kept "" none state.holdings after.holdings) state := by
    simp only [startSession, plainPorts_statement]
    refine (resolveTaskForSession_worked "" projectId _).first (fun task resolved worked => ?_)
      fun _ _ worked => worked.kept owned
    have ownedResolved := worked.owned owned
    rw [ensures_bind, ensures_fallible_ofExcept]
    refine ⟨fun taskId _ => ?_, fun _ _ => worked.kept owned⟩
    rw [ensures_bind]
    refine (upsertSession_kept ownedResolved "" sessionId agentId type projectId taskId).mono
      (fun session started kept => ?_) fun _ _ same => same ▸ worked.kept owned
    have keeps : Kept "" none state.holdings started.holdings :=
      ⟨kept.owned, trans_of (Moved "" none) worked.toMoved kept.moved⟩
    refine (leaves_onStore (bumpContext_leaves _ _ _)).first (fun version bumped same => ?_)
      fun _ _ same => same ▸ keeps
    rw [← same] at keeps
    refine (worklog_leaves session _ _ _).first (fun _ logged same => ?_) fun _ _ same => same ▸ keeps
    rw [ensures_pure, same]
    exact keeps
  exact settled_idempotent owned rfl (by decide) (by rintro _ stepId ⟨⟩) kept

end Starting

end Zero3Pilot.Lifecycle
