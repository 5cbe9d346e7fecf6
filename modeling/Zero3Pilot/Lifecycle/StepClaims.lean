import Zero3Pilot.Lifecycle.HeldCalls

/-! # Claiming a step -/

namespace Zero3Pilot.Lifecycle

open Execution (StepDefinition StepStatus)
open Procedure (Leaves Moves ensures_bind ensures_focus ensures_modify ensures_pure ensures_read
  ofExcept_ok require_some)

/-! ## Claiming a step -/

section Claiming

variable {surroundings : Surroundings} {state : LifecycleState} {session : AgentLifecycleSession}
  {taskId stepId : String}

variable {before between after : Holdings}

theorem Acted.after_attends {about : Option String} {name : String}
    (worked : Moved taskId none before between) (moved : Moved taskId about between after)
    (acted : Acted before after name stepId) : Acted between after name stepId := by
  obtain ⟨directory, changed, found, isChanged, acted⟩ := acted
  obtain ⟨middle, isMiddle, attends⟩ := worked.tasks name directory found
  rw [ite_self] at attends
  obtain ⟨last, isLast, touches⟩ := moved.tasks name middle isMiddle
  rw [isChanged] at isLast
  obtain rfl := Option.some.inj isLast
  refine ⟨middle, changed, isMiddle, isChanged, ?_⟩
  rcases acted with ⟨event, member, work, isStep⟩ | ⟨mark, marked, status, differs⟩
  · refine Or.inl ⟨event, ?_, work, isStep⟩
    obtain ⟨early, added, idle⟩ := attends.events
    obtain ⟨late, further, -⟩ := touches.events
    rw [further, added, List.append_assoc, List.drop_left] at member
    rcases List.mem_append.1 member with member | member
    · exact absurd rfl (idle event member work).1
    · rw [further, List.drop_left]
      exact member
  · refine Or.inr ⟨mark, marked, status, ?_⟩
    rw [attends.others stepId (Option.some_ne_none stepId).symm]
    exact differs

theorem Assigns.attended (assigns : Assigns taskId stepId before between)
    (worked : Worked taskId none between after) :
    Assigns taskId stepId before after where
  toMoved := trans_of (Moved taskId (some stepId)) assigns.toMoved (worked.toMoved.of_attends _)
  rows := worked.rows.trans assigns.rows
  ready := assigns.ready
  dispatched := by
    obtain ⟨mark, marked, status⟩ := assigns.dispatched
    exact ⟨mark, worked.toMoved.mark? (fun _ => (Option.some_ne_none stepId).symm) marked, status⟩
  unworked name directory changed found isChanged := by
    obtain ⟨middle, isMiddle, -⟩ := assigns.toMoved.tasks name directory found
    obtain ⟨later, added, idle⟩ := assigns.unworked name directory middle found isMiddle
    obtain ⟨last, isLast, attends⟩ := worked.toMoved.tasks name middle isMiddle
    rw [isChanged] at isLast
    obtain rfl := Option.some.inj isLast
    rw [ite_self] at attends
    obtain ⟨more, further, works⟩ := attends.events
    refine ⟨later ++ more, by rw [further, added, List.append_assoc], fun event member => ?_⟩
    rcases List.mem_append.1 member with member | member
    · exact idle event member
    · by_contra work
      exact absurd rfl (works event member (Bool.not_eq_false _ ▸ work)).1

/-- **What the session is assigned**: a step nobody claims, under a new assignment. -/
structure AssignedTo (taskId : String) (claimed : Claimed) (before after : Holdings) : Prop where
  ids : IsId claimed.stepId ∧ IsId claimed.assignmentId ∧ IsId claimed.bindingId
  unclaimed : Unclaimed before taskId claimed.stepId
  moved : Moved taskId (some claimed.stepId) before after
  rows : after.toHeldRows = before.toHeldRows
  marked : after.mark? taskId claimed.stepId = some ⟨.running, some claimed.assignmentId⟩

/-- A state in which the records agree and no step was acted on. -/
structure Untouched (taskId : String) (before after : Holdings) : Prop where
  owned : Owned after
  acted : ∀ name stepId, ¬ Acted before after name stepId
  moved : ∃ about, Moved taskId about before after

theorem Worked.untouched {before after : Holdings} (worked : Worked taskId none before after)
    (owned : Owned before) : Untouched taskId before after where
  owned := worked.owned owned
  acted name stepId acted := by
    obtain ⟨-, isAbout⟩ := worked.toMoved.acted acted
    cases isAbout
  moved := ⟨none, worked.toMoved⟩

theorem Assigns.untouched {before after : Holdings} (assigns : Assigns taskId stepId before after)
    (owned : Owned before) : Unclaimed before taskId stepId ∧ Untouched taskId before after := by
  obtain ⟨mark, marked, open_⟩ := assigns.ready
  have unclaimed := owned.tasks.unclaimed marked open_
  exact ⟨unclaimed, owned.assigned unclaimed assigns.toMoved assigns.rows,
    fun name other => assigns.not_acted name other, some stepId, assigns.toMoved⟩

/-- **A step is assigned to a session**, or no step is acted on. -/
theorem ensures_assignStep (owned : Owned state.holdings) (valid : IsId taskId) (input : Json)
    (definition : StepDefinition) :
    (assignStep (plainPorts surroundings) input session taskId definition).Ensures
      (fun claimed after => AssignedTo taskId claimed state.holdings after.holdings)
      (fun _ after => Untouched taskId state.holdings after.holdings) state := by
  rw [assignStep, ensures_bind, Procedure.ensures_fallible_ofExcept]
  refine ⟨fun stepId isStep => ?_, fun _ _ => (refl_of (Worked taskId none) _ :
    Worked taskId none state.holdings state.holdings).untouched owned⟩
  rw [ensures_bind]
  refine (ensures_createAssignment valid session.agentId state).mono
    (fun assignment assigned ensured => ?_) fun _ _ worked => worked.untouched owned
  obtain ⟨isAssignment, assigns, marked⟩ := ensured
  rw [ensures_bind]
  refine (ensures_bindSession assignment.assignmentId _ assigned).mono
    (fun binding bound ensured => ?_) fun _ after worked =>
      ((assigns.attended worked).untouched owned).2
  obtain ⟨isBinding, worked⟩ := ensured
  have attended := assigns.attended worked
  rw [ensures_bind]
  refine (ensures_recordProgress valid _ _ _ bound).mono (fun _ after ensured => ?_)
    fun _ after same => same ▸ (attended.untouched owned).2
  obtain ⟨progressed, running, -⟩ := ensured
  refine (ensures_pure _).2 ⟨⟨isId_of_requiredId isStep, isAssignment, isBinding⟩,
    (attended.untouched owned).1,
    trans_of (Moved taskId (some stepId)) attended.toMoved progressed.toMoved,
    progressed.rows.trans attended.rows, ?_⟩
  have kept := worked.toMoved.mark? (fun _ => (Option.some_ne_none stepId).symm) marked
  rw [running, kept]
  rfl

variable {claimed : Option Claimed}

theorem nullableId_claimed (part : Claimed → String) (label : String)
    (valid : ∀ item ∈ claimed, IsId (part item)) :
    nullableId (claimed.map part) label = .ok (claimed.map part) := by
  cases claimed with
  | none => rfl
  | some item =>
    rw [Option.map_some, nullableId, (valid item rfl).textId]
    rfl

theorem ensures_createClaim {uuid : String} {mode : LifecycleClaimMode}
    {returns : AgentLifecycleClaim → LifecycleState → Prop} {throws : String → LifecycleState → Prop}
    (ids : IsId session.sessionId ∧ IsId session.taskId ∧ IsId session.agentId)
    (claimedIds : ∀ item ∈ claimed, IsId item.stepId ∧ IsId item.assignmentId ∧ IsId item.bindingId)
    (free : state.store.activeClaim? session.sessionId = none)
    (fresh : ∀ claim ∈ state.store.claims, claim.claimId ≠ "agent-claim-" ++ uuid)
    (made : ∀ claim after, claim.state = .active → claim.claimId = "agent-claim-" ++ uuid →
      claim.sessionId = session.sessionId → claim.taskId = session.taskId →
      claim.stepId = claimed.map (·.stepId) → claim.assignmentId = claimed.map (·.assignmentId) →
      claim.bindingId = claimed.map (·.bindingId) →
      after.holdings = { state.holdings with claims := state.holdings.claims ++ [claim] } →
      returns claim after) :
    (onStore (createClaim uuid session.taskId session.sessionId session.agentId mode
      (claimed.map (·.stepId)) (claimed.map (·.assignmentId)) (claimed.map (·.bindingId)))).Ensures
      returns throws state := by
  have stepIds := nullableId_claimed (·.stepId) "stepId" fun item member => (claimedIds item member).1
  have assignmentIds := nullableId_claimed (·.assignmentId) "assignmentId"
    fun item member => (claimedIds item member).2.1
  have bindingIds := nullableId_claimed (·.bindingId) "bindingId"
    fun item member => (claimedIds item member).2.2
  -- all identifiers are valid, so that none of the checks throws
  simp only [onStore, createClaim, activeClaimForSession, ensures_focus,
    ensures_bind, ids.1.textId, ids.2.1.textId, ids.2.2.textId, stepIds, assignmentIds,
    bindingIds, ofExcept_ok, ensures_pure, ensures_read, free]
  refine .passes fresh ?_
  rw [ensures_modify]
  exact made _ _ rfl rfl rfl rfl rfl rfl rfl rfl

theorem ensures_updateSessionBinding {bound : LifecycleSessionState}
    {returns : AgentLifecycleSession → LifecycleState → Prop} {throws : String → LifecycleState → Prop}
    (valid : IsId session.sessionId)
    (claimedIds : ∀ item ∈ claimed, IsId item.stepId ∧ IsId item.assignmentId ∧ IsId item.bindingId)
    (known : ∃ row ∈ state.store.sessions, row.sessionId = session.sessionId)
    (returned : ∀ row after, after.holdings = { state.holdings with
      sessions := rebind session.sessionId (claimed.map (·.stepId)) (claimed.map (·.assignmentId))
        (claimed.map (·.bindingId)) state.holdings.sessions } → returns row after) :
    (onStore (updateSessionBinding session.sessionId (claimed.map (·.stepId))
      (claimed.map (·.assignmentId)) (claimed.map (·.bindingId)) bound)).Ensures returns throws
      state := by
  have stepIds := nullableId_claimed (·.stepId) "stepId" fun item member => (claimedIds item member).1
  have assignmentIds := nullableId_claimed (·.assignmentId) "assignmentId"
    fun item member => (claimedIds item member).2.1
  have bindingIds := nullableId_claimed (·.bindingId) "bindingId"
    fun item member => (claimedIds item member).2.2
  obtain ⟨row, isRow, named⟩ := known
  have found : (state.store.session? session.sessionId).isSome = true := by
    rw [LifecycleStore.session?, List.find?_isSome]
    exact ⟨row, isRow, decide_eq_true named⟩
  obtain ⟨first, isFirst⟩ := Option.isSome_iff_exists.1 found
  simp only [onStore, updateSessionBinding, sessionRow, ensures_focus,
    ensures_bind, valid.textId, stepIds, assignmentIds, bindingIds, ofExcept_ok,
    ensures_pure, ensures_read, isFirst, require_some,
    ensures_modify]
  generalize isUpdated : state.store.updateSession session.sessionId _ = updated
  have again : (updated.session? session.sessionId).isSome = true := by
    rw [LifecycleStore.session?, List.find?_isSome, ← isUpdated]
    refine ⟨_, List.mem_map_of_mem isRow, ?_⟩
    rw [if_pos named]
    exact decide_eq_true named
  obtain ⟨last, isLast⟩ := Option.isSome_iff_exists.1 again
  rw [isLast, require_some, ensures_pure]
  refine returned last _ ?_
  rw [← isUpdated]
  refine congrArg (Holdings.mk · state.holdings.task? state.settings) ?_
  refine congrArg (HeldRows.mk · state.store.claims state.store.idempotency) ?_
  rw [LifecycleStore.updateSession, rebind, List.map_map]
  show List.map _ _ = List.map _ (List.map _ _)
  rw [List.map_map]
  apply List.map_congr_left
  intro other _
  by_cases same : other.sessionId = session.sessionId
  · simp [AgentLifecycleSession.row, same]
  · simp [AgentLifecycleSession.row, same]

structure Tried (session : AgentLifecycleSession) (before after : Holdings) : Prop where
  owned : Owned after
  acted : ∀ name stepId, Acted before after name stepId → Holds after session.sessionId name stepId
  moved : ∃ about, Moved session.taskId about before after

/-- **What is shown of the answer**: a claim that is answered is there, and one that is claimed is
held. -/
structure ClaimMade (session : AgentLifecycleSession) (before after : Holdings)
    (answer : TaskClaimAnswer) : Prop extends Tried session before after where
  claimed : answer.state = "CLAIMED" → ∃ claim stepId, answer.claim? = some claim ∧
    claim.stepId = some stepId ∧ Holds after session.sessionId session.taskId stepId
  known : ∀ claim, answer.claim? = some claim →
    ∃ known ∈ after.claims, known.claimId = claim.claimId ∧ known.stepId = claim.stepId

theorem Untouched.tried {before after : Holdings} (untouched : Untouched session.taskId before after) :
    Tried session before after :=
  ⟨untouched.owned, fun name stepId acted => absurd acted (untouched.acted name stepId), untouched.moved⟩

theorem Tried.after_attends (worked : Worked session.taskId none before between)
    (tried : Tried session between after) :
    Tried session before after where
  owned := tried.owned
  acted name stepId acted := by
    obtain ⟨about, moved⟩ := tried.moved
    exact tried.acted name stepId (acted.after_attends worked.toMoved moved)
  moved := by
    obtain ⟨about, moved⟩ := tried.moved
    exact ⟨about, trans_of (Moved session.taskId about) (worked.toMoved.of_attends about) moved⟩

/-- **A step that is assigned to a session is claimed by it.** -/
theorem AssignedTo.claim {claimed : Claimed} {claim : AgentLifecycleClaim} (owned : Owned before)
    (assigned : AssignedTo session.taskId claimed before between)
    (isNew : NewClaim before session claim) (isStep : claim.stepId = some claimed.stepId)
    (isAssignment : claim.assignmentId = some claimed.assignmentId)
    (same : after = { between with
      sessions := rebind session.sessionId claim.stepId claim.assignmentId claim.bindingId
        between.sessions
      claims := between.claims ++ [claim] }) :
    Tried session before after ∧ Holds after session.sessionId session.taskId claimed.stepId := by
  obtain ⟨known, active, ofSession, ofTask, free, fresh, mode⟩ := isNew
  have claims : between.claims = before.claims := congrArg HeldRows.claims assigned.rows
  have sessions : between.sessions = before.sessions := congrArg HeldRows.sessions assigned.rows
  have ownedBetween := owned.assigned assigned.unclaimed assigned.moved assigned.rows
  obtain ⟨directory, isDirectory, -⟩ := Option.bind_eq_some_iff.1 assigned.marked
  have ownedAfter : Owned after := by
    rw [same]
    refine ownedBetween.claimed ⟨sessions ▸ known, active, ofSession, ofTask, claims ▸ free,
      claims ▸ fresh, ?_⟩ (by rw [isDirectory]; rfl) ?_
    · intro changed isChanged exclusive
      rw [claims]
      cases found : before.task? session.taskId with
      | none =>
        intro other member isActive ofOther
        have there := owned.tasks.known other member isActive
        rw [ofOther, found] at there
        cases there
      | some earlier =>
        rw [assigned.moved.mode found isChanged] at exclusive
        exact mode earlier found exclusive
    · intro stepId ofStep
      obtain rfl := Option.some.inj (isStep.symm.trans ofStep)
      refine ⟨fun other member => assigned.unclaimed other (claims ▸ member), _, assigned.marked,
        Option.some_ne_none _, isAssignment, ?_⟩
      show StepStatus.running ∉ [StepStatus.ready, .fixRequired]
      decide
  have holds : Holds after session.sessionId session.taskId claimed.stepId := by
    refine ⟨claim, ?_, active, ofSession, ofTask, isStep, ⟨.running, some claimed.assignmentId⟩, ?_,
      Option.some_ne_none _, isAssignment⟩
    · rw [same]
      exact List.mem_append_right _ (List.mem_singleton_self _)
    · rw [same]
      exact assigned.marked
  have moved : Moved session.taskId (some claimed.stepId) before after := by
    rw [same]
    exact ⟨assigned.moved.settings, assigned.moved.tasks⟩
  refine ⟨⟨ownedAfter, fun name stepId acted => ?_, _, moved⟩, holds⟩
  obtain ⟨rfl, isAbout⟩ := moved.acted acted
  obtain rfl := Option.some.inj isAbout
  exact holds

def AssignedAll (taskId : String) (claimed : Option Claimed) (before after : Holdings) : Prop :=
  match claimed with
  | none => after = before
  | some item => AssignedTo taskId item before after

theorem AssignedAll.rows {before after : Holdings} (assigned : AssignedAll taskId claimed before after) :
    after.toHeldRows = before.toHeldRows := by
  cases claimed with
  | none => exact congrArg Holdings.toHeldRows assigned
  | some item => exact AssignedTo.rows assigned

/-- **A session that has no claim** makes one, of what is assigned to it. -/
theorem AssignedAll.claim {claim : AgentLifecycleClaim} (owned : Owned before)
    (assigned : AssignedAll session.taskId claimed before between)
    (isNew : NewClaim before session claim) (isStep : claim.stepId = claimed.map (·.stepId))
    (isAssignment : claim.assignmentId = claimed.map (·.assignmentId))
    (there : (before.task? session.taskId).isSome = true)
    (same : after = { between with
      sessions := rebind session.sessionId claim.stepId claim.assignmentId claim.bindingId
        between.sessions
      claims := between.claims ++ [claim] }) :
    Tried session before after ∧
      ∀ item ∈ claimed, Holds after session.sessionId session.taskId item.stepId := by
  cases claimed with
  | none =>
    obtain rfl : between = before := assigned
    have ownedAfter : Owned after := by
      rw [same]
      refine owned.claimed isNew there ?_
      intro stepId ofStep
      rw [isStep] at ofStep
      cases ofStep
    have moved : Moved session.taskId none between after := by
      rw [same]
      exact ⟨fun _ _ _ => rfl, fun _ directory found => ⟨directory, found, .refl _ _⟩⟩
    refine ⟨⟨ownedAfter, fun name stepId acted => ?_, none, moved⟩, by rintro item ⟨⟩⟩
    obtain ⟨-, isAbout⟩ := moved.acted acted
    cases isAbout
  | some item =>
    have assigned : AssignedTo session.taskId item before between := assigned
    obtain ⟨tried, holds⟩ := assigned.claim owned isNew isStep isAssignment same
    refine ⟨tried, ?_⟩
    rintro other ⟨⟩
    exact holds

theorem ensures_assignSelected (owned : Owned state.holdings) (valid : IsId taskId) (input : Json)
    (selected : Option StepDefinition) :
    (assignSelected (plainPorts surroundings) input session taskId selected).Ensures
      (fun claimed after => AssignedAll taskId claimed state.holdings after.holdings)
      (fun _ after => Untouched taskId state.holdings after.holdings) state := by
  cases selected with
  | none => exact (ensures_pure _).2 rfl
  | some definition =>
    exact (Procedure.ensures_map _ _).2 (ensures_assignStep owned valid input definition)

theorem AssignedAll.ids {before after : Holdings} (assigned : AssignedAll taskId claimed before after) :
    ∀ item ∈ claimed, IsId item.stepId ∧ IsId item.assignmentId ∧ IsId item.bindingId := by
  rintro item member
  obtain rfl := Option.mem_def.1 member
  exact AssignedTo.ids assigned

theorem free_of_none {sessionId : String} (free : state.store.activeClaim? sessionId = none) :
    ∀ other ∈ state.holdings.claims, other.state = .active → other.sessionId ≠ sessionId := by
  intro other member isActive same
  have missing := List.find?_eq_none.1 free other member
  exact missing (decide_eq_true ⟨same, isActive⟩)

theorem recordClaim_leaves (claimed : Option Claimed) (claim : AgentLifecycleClaim)
    (mode : LifecycleClaimMode) :
    Leaves LifecycleState.holdings
      (recordClaim (plainPorts surroundings) session taskId claimed claim mode) := by
  simp only [recordClaim, plainPorts_statement]
  apply Moves.bind (leaves_onStore (bumpContext_leaves _ _ _))
  intro version
  apply Moves.bind (requireSession_leaves _)
  intro current
  exact Moves.bind (worklog_leaves current _ _ _) fun _ => .pure _

/-- **A claim of a session that has none.** -/
theorem newClaim_made (owned : Owned state.holdings) (known : session.row ∈ state.holdings.sessions)
    (input : Json) {snapshot : TaskSnapshot} {active : List AgentLifecycleClaim}
    (free : state.store.activeClaim? session.sessionId = none)
    (fresh : ∀ n, ∀ claim ∈ state.store.claims,
      claim.claimId ≠ "agent-claim-" ++ (surroundings.uuid n).text)
    (there : (state.holdings.task? session.taskId).isSome = true)
    (mode : ∀ directory, state.holdings.task? session.taskId = some directory →
      claimMode ⟨state.holdings.settingsOf session.taskId, directory⟩ = .exclusive →
      ∀ other ∈ state.holdings.claims, other.state = .active → other.taskId = session.taskId →
        other.sessionId = session.sessionId) :
    (newClaim (plainPorts surroundings) input session session.taskId snapshot active).Ensures
      (fun answer after => ∃ made, answer = .taskClaim made ∧
        ClaimMade session state.holdings after.holdings made)
      (fun _ after => Tried session state.holdings after.holdings) state := by
  obtain ⟨validId, valid, validAgent⟩ : IsId session.sessionId ∧ IsId session.taskId ∧
      IsId session.agentId := owned.rows.ids session.row known
  have isFree := free_of_none free
  simp only [newClaim, plainPorts_statement, plainPorts_randomUUID]
  rw [ensures_bind]
  refine (ensures_assignSelected owned valid input (selectStep snapshot)).mono
    (fun claimed assigned all => ?_) fun _ _ untouched => untouched.tried
  have rows := all.rows
  rw [ensures_bind]
  refine ensures_drawUuid fun n drawn same => ?_
  rw [← same] at rows all
  have claims : drawn.store.claims = state.store.claims := congrArg HeldRows.claims rows
  have sessions : drawn.holdings.sessions = state.holdings.sessions := congrArg HeldRows.sessions rows
  rw [ensures_bind]
  refine ensures_createClaim ⟨validId, valid, validAgent⟩ all.ids ?_ (claims ▸ fresh n)
    fun claim made isActive named ofSession ofTask isStep isAssignment isBinding sameMade => ?_
  · rw [LifecycleStore.activeClaim?, claims]
    exact free
  have hasRow : ∃ row ∈ made.store.sessions, row.sessionId = session.sessionId := by
    have isRow : session.row ∈ made.holdings.sessions := by
      rw [sameMade, sessions]
      exact known
    obtain ⟨row, member, isRow⟩ := List.mem_map.1 isRow
    have named : row.row.sessionId = session.row.sessionId := by rw [isRow]
    exact ⟨row, member, named⟩
  rw [ensures_bind]
  refine ensures_updateSessionBinding validId all.ids hasRow fun row bound sameBound => ?_
  rw [← isStep, ← isAssignment, ← isBinding, sameMade] at sameBound
  have isNew : NewClaim state.holdings session claim := ⟨⟨session.row, known, rfl, rfl⟩, isActive,
    ofSession, ofTask, isFree, fun other => named ▸ fresh n other, mode⟩
  obtain ⟨tried, holds⟩ := all.claim owned isNew isStep isAssignment there sameBound
  have isKnown : claim ∈ bound.holdings.claims := by
    rw [sameBound]
    exact List.mem_append_right _ (List.mem_singleton_self claim)
  rw [ensures_bind]
  have written : Leaves LifecycleState.holdings (recordClaim (plainPorts surroundings) session
      session.taskId claimed claim (claimMode snapshot)) :=
    recordClaim_leaves claimed claim (claimMode snapshot)
  refine (written bound).mono (fun version recorded same => ?_) fun error after same => ?_
  · refine (ensures_pure _).2 ⟨_, rfl, ?_⟩
    rw [same]
    refine ⟨tried, fun isClaimed => ?_, ?_⟩
    · cases claimed with
      | none => simp [TaskClaimAnswer.state] at isClaimed
      | some item => exact ⟨claim, item.stepId, rfl, isStep, holds item rfl⟩
    · rintro other ⟨⟩
      exact ⟨claim, isKnown, rfl, rfl⟩
  · rw [same]
    exact tried

theorem ClaimMade.after_attends {answer : TaskClaimAnswer}
    (worked : Worked session.taskId none before between) (made : ClaimMade session between after answer) :
    ClaimMade session before after answer where
  toTried := made.toTried.after_attends worked
  claimed := made.claimed
  known := made.known

theorem resumed_made (owned : Owned state.holdings) (known : session.row ∈ state.holdings.sessions)
    {current : AgentLifecycleClaim} (found : state.store.activeClaim? session.sessionId = some current)
    (ofStep : current.stepId.isSome = true) (status : Execution.TaskStatus) :
    ClaimMade session state.holdings state.holdings (.resumed current status) := by
  obtain ⟨stepId, isStep⟩ := Option.isSome_iff_exists.1 ofStep
  obtain ⟨member, named, active⟩ := activeClaim_found found
  have rowStep : session.stepId = some stepId := by
    obtain ⟨row, isRow, same, -, step⟩ := owned.rows.owner current member active
    have alike : row = session.row :=
      List.inj_on_of_nodup_map owned.rows.sessionIds isRow known (same.trans named)
    rw [alike, isStep] at step
    exact step
  obtain ⟨claim, isClaim, -, -, -, -, holds⟩ :=
    owned.holder known (by rw [found]; rfl) rowStep
  have still : Worked session.taskId none state.holdings state.holdings :=
    refl_of (Worked session.taskId none) _
  refine ⟨(still.untouched owned).tried, fun _ => ⟨current, stepId, rfl, isStep, holds⟩, ?_⟩
  rintro other ⟨⟩
  exact ⟨current, member, rfl, rfl⟩

theorem ensures_activeClaims {taskId : String} (valid : IsId taskId)
    {returns : List AgentLifecycleClaim → LifecycleState → Prop}
    {throws : String → LifecycleState → Prop}
    (returned : returns (state.store.claims.filter
      fun claim => claim.taskId = taskId ∧ claim.state = .active) state) :
    (onStore (activeClaims taskId)).Ensures returns throws state := by
  rw [onStore, ensures_focus, activeClaims, ensures_bind, valid.textId,
    ofExcept_ok, ensures_pure, ensures_bind, ensures_read,
    ensures_pure]
  exact returned

/-- **A session that asks for a claim** is answered with what it holds. -/
theorem claimTask_made (owned : Owned state.holdings) (known : session.row ∈ state.holdings.sessions)
    (input : Json)
    (resumes : ∀ claim ∈ state.store.activeClaim? session.sessionId, claim.stepId.isSome = true)
    (fresh : ∀ n, ∀ claim ∈ state.store.claims,
      claim.claimId ≠ "agent-claim-" ++ (surroundings.uuid n).text) :
    (claimTask (plainPorts surroundings) input session session.taskId).Ensures
      (fun answer after => ∃ made, answer = .taskClaim made ∧
        ClaimMade session state.holdings after.holdings made)
      (fun _ after => Tried session state.holdings after.holdings) state := by
  obtain ⟨validId, valid, -⟩ : IsId session.sessionId ∧ IsId session.taskId ∧
      IsId session.agentId := owned.rows.ids session.row known
  simp only [claimTask, plainPorts_statement, plainPorts_getTask]
  refine (refreshTask_worked valid).first (fun _ refreshed worked => ?_)
    fun _ after worked => (worked.untouched owned).tried
  have refuses : ∀ after : LifecycleState, after.holdings = refreshed.holdings →
      Tried session state.holdings after.holdings := by
    intro after same
    rw [same]
    exact (worked.untouched owned).tried
  rw [ensures_bind]
  refine ensures_readTask valid (fun directory read isTask same => ?_) fun _ => refuses
  refine .checked (fun _ => ?_) (refuses read same)
  have worked : Worked session.taskId none state.holdings read.holdings := same ▸ worked
  have ownedRead := worked.owned owned
  have claims : read.store.claims = state.store.claims := congrArg HeldRows.claims worked.rows
  have active : read.store.activeClaim? session.sessionId =
      state.store.activeClaim? session.sessionId := by
    rw [LifecycleStore.activeClaim?, claims, LifecycleStore.activeClaim?]
  have isRow : session.row ∈ read.holdings.sessions := by
    rw [show read.holdings.sessions = state.holdings.sessions from
      congrArg HeldRows.sessions worked.rows]
    exact known
  have there : read.holdings.task? session.taskId = some directory := by
    rw [same]
    exact isTask
  have settings : read.holdings.settingsOf session.taskId =
      refreshed.settingsOf session.taskId := by
    rw [same]
    rfl
  rw [ensures_bind, onStore, ensures_focus, activeClaimForSession,
    ensures_bind, validId.textId, ofExcept_ok, ensures_pure,
    ensures_bind, ensures_read, ensures_pure]
  cases found : read.store.activeClaim? session.sessionId with
  | some current =>
    refine (ensures_pure _).2 ⟨_, rfl, ?_⟩
    have ofStep := resumes current (active ▸ found)
    exact (resumed_made ownedRead isRow found ofStep _).after_attends worked
  | none =>
    rw [ensures_bind]
    refine ensures_activeClaims valid ?_
    rw [Procedure.ensures_ite]
    refine ⟨fun _ => ?_, fun unlocked => ?_⟩
    · refine (ensures_pure _).2 ⟨_, rfl, (worked.untouched owned).tried, ?_, ?_⟩
      · intro isClaimed
        simp [TaskClaimAnswer.state] at isClaimed
      · rintro claim ⟨⟩
    · refine (newClaim_made ownedRead isRow input found (claims ▸ fresh) ?_ ?_).mono ?_ ?_
      · rw [there]
        rfl
      · intro other isOther exclusive claim member isActive ofTask
        obtain rfl := Option.some.inj (there.symm.trans isOther)
        by_contra foreign
        refine unlocked ⟨settings ▸ exclusive, List.any_eq_true.2 ⟨claim, ?_, ?_⟩⟩
        · exact List.mem_filter.2 ⟨member, decide_eq_true ⟨ofTask, isActive⟩⟩
        · exact decide_eq_true foreign
      · rintro answer after ⟨made, isAnswer, isMade⟩
        exact ⟨made, isAnswer, isMade.after_attends worked⟩
      · intro error after tried
        exact tried.after_attends worked

end Claiming

end Zero3Pilot.Lifecycle
