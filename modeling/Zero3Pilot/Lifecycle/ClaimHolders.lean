import Zero3Pilot.Lifecycle.StepClaims

/-! # Only the holder of a claim works on a step, in every run -/

namespace Zero3Pilot.Lifecycle

open Execution (StepDefinition)

section Runs

variable {surroundings : Surroundings} {state after : LifecycleState}
  {operation : LifecycleOperation} {session : AgentLifecycleSession} {holdings : Holdings}

theorem Tried.recorded (tried : Tried session state.holdings holdings) (row : IdempotencyRow)
    (owned : Owned { holdings with answers := holdings.answers ++ [row] }) :
    Tried session state.holdings { holdings with answers := holdings.answers ++ [row] } := by
  obtain ⟨about, moved⟩ := tried.moved
  exact ⟨owned, tried.acted, about, moved.settings, moved.tasks⟩

/-- **A session that tried to claim** drives the call. -/
theorem Tried.settled (tried : Tried session state.holdings after.holdings)
    (called : state.caller? operation = some session) (claims : operation.claims = true)
    {result : Except String LifecycleAnswer}
    (claimed : ∀ answer, result = .ok (.taskClaim answer) → answer.state = "CLAIMED" →
      ∃ claim stepId, answer.claim? = some claim ∧ claim.stepId = some stepId ∧
        Holds after.holdings session.sessionId session.taskId stepId) :
    Settled operation state result after where
  owned := tried.owned
  driven :=
    { acted := fun taskId stepId acted =>
        ⟨session, called, Or.inr ⟨claims, tried.acted taskId stepId acted⟩⟩
      exclusive := tried.owned.tasks.exclusive
      claimed := by
        intro answer _ isAnswer isClaimed
        obtain ⟨claim, stepId, isClaim, isStep, holds⟩ := claimed answer isAnswer isClaimed
        exact ⟨session, claim, stepId, called, isClaim, isStep, holds⟩ }

theorem Owned.repeated (owned : Owned state.holdings) {row : IdempotencyRow}
    (member : row ∈ state.store.idempotency) (ofClaim : row.operation = "task.claim")
    {answer : TaskClaimAnswer} (isAnswer : row.response = .taskClaim answer)
    (isClaimed : answer.state = "CLAIMED") (known : session ∈ state.store.sessions)
    (active : (state.store.activeClaim? session.sessionId).map (·.claimId) =
      answer.claim?.map (·.claimId)) :
    ∃ claim stepId, answer.claim? = some claim ∧ claim.stepId = some stepId ∧
      Holds state.holdings session.sessionId session.taskId stepId := by
  have isSome : answer.claim?.isSome = true := by
    cases answer with
    | locked status agents => simp [TaskClaimAnswer.state] at isClaimed
    | resumed claim status => rfl
    | created assigned claim mode status agents version => rfl
  obtain ⟨claim, isClaim⟩ := Option.isSome_iff_exists.1 isSome
  obtain ⟨ofStep, recorded, isRecorded, sameId, sameStep⟩ :=
    owned.rows.answers row member ofClaim answer isAnswer claim isClaim
  obtain ⟨stepId, isStep⟩ := Option.ne_none_iff_exists'.1 (ofStep isClaimed)
  rw [isClaim, Option.map_some, Option.map_eq_some_iff] at active
  obtain ⟨current, found, named⟩ := active
  obtain ⟨isCurrent, ofSession, isActive⟩ := activeClaim_found found
  have alike : current = recorded :=
    List.inj_on_of_nodup_map owned.rows.claimIds isCurrent isRecorded (named.trans sameId.symm)
  have rowStep : session.stepId = some stepId := by
    obtain ⟨owner, isOwner, same, -, step⟩ := owned.rows.owner current isCurrent isActive
    have isSession : session.row ∈ state.holdings.sessions := List.mem_map_of_mem known
    have alikeRow : owner = session.row :=
      List.inj_on_of_nodup_map owned.rows.sessionIds isOwner isSession (same.trans ofSession)
    rw [alikeRow, alike, sameStep, isStep] at step
    exact step
  obtain ⟨-, -, -, -, -, -, holds⟩ :=
    owned.holder (List.mem_map_of_mem known) (by rw [found]; rfl) rowStep
  exact ⟨claim, stepId, isClaim, isStep, holds⟩

/-- **`taskClaim`** is driven by the session that comes to hold the step. -/
theorem taskClaim_settled (owned : Owned state.holdings) (inputValue : ScriptValue)
    (asHolder : CallsAsHolder state (.taskClaim inputValue, surroundings)) :
    Settles (.taskClaim inputValue) state (taskClaim (plainPorts surroundings) inputValue) := by
  have still : Worked "" none state.holdings state.holdings := refl_of (Worked "" none) _
  have unacted := (still.untouched owned).acted
  have refused : ∀ error, Settled (.taskClaim inputValue) state (.error error) state := by
    intro error
    refine ⟨owned, fun taskId stepId acted => absurd acted (unacted taskId stepId), ?_, ?_⟩
    · exact owned.tasks.exclusive
    · rintro answer - ⟨⟩
  rw [taskClaim]
  refine settles_called refused rfl fun input session request called known => ?_
  rw [Procedure.ensures_bind, Procedure.ensures_fallible_ofExcept]
  refine ⟨fun taskId _ => ?_, fun error _ => refused error⟩
  rw [Procedure.ensures_bind, Procedure.ensures_fallible_check]
  refine ⟨fun same => ?_, fun _ => refused _⟩
  obtain rfl : taskId = session.taskId := same
  rw [plainPorts_mutate]
  have lookedUp : state.recorded? (.taskClaim inputValue) session =
      (state.store.answered? ("task:" ++ session.taskId ++ ":session:" ++ session.sessionId)
        (either input "idempotencyKey" "idempotency_key")).map (·.response) := by
    rw [LifecycleState.recorded?, request]
    rfl
  refine ensures_idempotent (fun row isRow ofClaim => ?_) (fun unanswered => ?_) refused
  · -- an answer that is repeated
    have isRecorded : state.recorded? (.taskClaim inputValue) session = some row.response := by
      rw [lookedUp, isRow]
      rfl
    refine ⟨owned, fun taskId stepId acted => absurd acted (unacted taskId stepId), ?_, ?_⟩
    · exact owned.tasks.exclusive
    · intro answer claims isAnswer isClaimed
      have isAnswer : row.response = .taskClaim answer := Except.ok.inj isAnswer
      have active := asHolder.repeated session called row.response isRecorded claims answer
        (by rw [isAnswer]; rfl) isClaimed
      obtain ⟨key, -, isFound⟩ := Option.bind_eq_some_iff.1 isRow
      obtain ⟨claim, stepId, isClaim, isStep, holds⟩ := owned.repeated
        (List.mem_of_find?_eq_some isFound) ofClaim isAnswer isClaimed known active
      exact ⟨session, claim, stepId, called, isClaim, isStep, holds⟩
  · have unrecorded : state.recorded? (.taskClaim inputValue) session = none := by
      rw [lookedUp, unanswered]
      rfl
    have resumes := (asHolder.unrepeated session called unrecorded).2 rfl
    refine (claimTask_made owned (List.mem_map_of_mem known) input resumes asHolder.fresh).mono
      ?_ ?_
    · rintro response between ⟨made, rfl, isMade⟩
      refine ⟨fun row after isResponse named same => ?_, fun error => ?_⟩
      · have ownedAfter : Owned { between.holdings with
            answers := between.holdings.answers ++ [row] } := by
          refine isMade.owned.answered row fun _ answer isAnswer claim isClaim => ?_
          obtain rfl : made = answer :=
            LifecycleAnswer.taskClaim.inj (isResponse.symm.trans isAnswer)
          refine ⟨fun isClaimed absent => ?_, isMade.known claim isClaim⟩
          obtain ⟨other, stepId, isOther, isStep, -⟩ := isMade.claimed isClaimed
          obtain rfl := Option.some.inj (isClaim.symm.trans isOther)
          rw [absent] at isStep
          cases isStep
        have tried := isMade.toTried.recorded row ownedAfter
        rw [← same] at tried
        refine tried.settled called rfl fun answer isAnswer isClaimed => ?_
        obtain rfl := LifecycleAnswer.taskClaim.inj (Except.ok.inj isAnswer)
        rw [same]
        exact isMade.claimed isClaimed
      · refine isMade.toTried.settled called rfl ?_
        rintro answer ⟨⟩
    · intro error after tried
      refine tried.settled called rfl ?_
      rintro answer ⟨⟩

/-- **Every call** under the condition is driven by the holder of a claim. -/
theorem serve_settled (owned : Owned state.holdings) (call : LifecycleOperation × Surroundings)
    (asHolder : CallsAsHolder state call) :
    Settles call.1 state (serve call) := by
  obtain ⟨operation, surroundings⟩ := call
  cases operation with
  | sessionStart input => exact sessionStart_settled owned input
  | taskClaim input => exact taskClaim_settled owned input asHolder
  | eventRecord input => exact eventRecord_settled owned input asHolder
  | artifactRegister input => exact artifactRegister_settled owned input asHolder
  | memoryCommit input => exact memoryCommit_settled owned input
  | handoffCreate input => exact handoffCreate_settled owned input
  | taskComplete input => exact taskComplete_settled owned input asHolder
  | sessionInterrupt input => exact sessionInterrupt_settled owned input asHolder

theorem owned_empty (empty : state.store = .empty) : Owned state.holdings := by
  obtain ⟨execution, settings, store, artifacts, published, drawn, asked⟩ := state
  obtain rfl : store = .empty := empty
  constructor
  · constructor
    · exact List.nodup_nil
    · rintro session ⟨⟩
    · exact List.nodup_nil
    · rintro claim ⟨⟩
    · rintro claim ⟨⟩
    · rintro row ⟨⟩
  · constructor
    · rintro claim ⟨⟩
    · rintro claim ⟨⟩
    · rintro claim ⟨⟩
    · rintro taskId directory - - claim ⟨⟩

/-- **In every run** of sessions that work by their claims, every call is driven by the holder of a
claim. -/
theorem drivenByHolder_of_run {start : LifecycleState}
    {history : List ((LifecycleOperation × Surroundings) × Except String LifecycleAnswer)}
    (empty : start.store = .empty) (run : lifecycleMachine.Run CallsAsHolder start history state)
    (call : LifecycleOperation × Surroundings) (asHolder : CallsAsHolder state call) :
    DrivenByHolder call.1 state (lifecycleMachine.step state call).1
      (lifecycleMachine.step state call).2 := by
  have owned : Owned state.holdings := by
    refine run.procedure_invariant (fun state => Owned state.holdings) (owned_empty empty) ?_
    intro state call owned asHolder
    exact (serve_settled owned call asHolder).mono (fun _ _ settled => settled.owned)
      fun _ _ settled => settled.owned
  have settled := serve_settled owned call asHolder
  rw [Settles, Procedure.Ensures] at settled
  show DrivenByHolder call.1 state (serve call state).1 (serve call state).2
  split at settled
  · rename_i answer after served
    rw [served]
    exact settled.driven
  · rename_i error after served
    rw [served]
    exact settled.driven

end Runs

/-! ## Runs of two sessions -/

/-- A UUID that is drawn for one session. -/
def firstUuid : Uuid :=
  ⟨"7b1c9e2a-0b7d-4c55-9a31-6d2e8f70b1c3", by decide +kernel, by decide +kernel⟩

/-- A UUID that is drawn for another. -/
def secondUuid : Uuid :=
  ⟨"8b60d2f7-13a9-4e0c-b5d8-27f1ac94e06b", by decide +kernel, by decide +kernel⟩

/-- A call that draws one UUID, with shared memory out of reach. -/
def sampleSurroundings (uuid : Uuid) : Surroundings where
  uuid _ := uuid
  eventUuid n := toString n
  createdAt := 0
  now := "2026-01-01T00:00:00.000Z"
  sha256 text := text
  coerce _ := none
  boundedProgress literal := literal
  preflight := none
  memory _ := ⟨.ok false, .ok [], .ok ()⟩

def samplePlan : List StepDefinition :=
  [{ agentWork "t" with stepId := "w", title := "w", objective := "o", completionGate := [] }]

/-- A task of one step, on which no session has started. -/
def sampleState : LifecycleState where
  execution := (Execution.createTask (fun n => toString n) 0 ⟨"t", none, "t", "g", none, 1⟩
    samplePlan []).2
  settings := [("t", ⟨some "p", false⟩)]
  store := .empty
  artifacts := []
  published := []
  drawn := 0
  asked := 0

def startCall (sessionId : String) : LifecycleOperation :=
  .sessionStart (some (.object [("sessionId", .string sessionId), ("projectId", .string "p"),
    ("taskId", .string "t"), ("agentId", .string "a"), ("idempotencyKey", .string "1")]))

def claimCall (sessionId : String) : LifecycleOperation :=
  .taskClaim (some (.object [("sessionId", .string sessionId), ("idempotencyKey", .string "2")]))

def progressCall (sessionId : String) : LifecycleOperation :=
  .eventRecord (some (.object [("sessionId", .string sessionId), ("eventType", .string "PROGRESS"),
    ("progress", .number (.ofNat 1)), ("content", .object []), ("idempotencyKey", .string "3")]))

def interruptCall (sessionId : String) : LifecycleOperation :=
  .sessionInterrupt (some (.object [("sessionId", .string sessionId)]))

def claimingRun (sessionId : String) (uuid : Uuid) : List (LifecycleOperation × Surroundings) :=
  [(startCall sessionId, sampleSurroundings uuid), (claimCall sessionId, sampleSurroundings uuid)]

def claimedState : LifecycleState :=
  (lifecycleMachine.exec sampleState (claimingRun "s" firstUuid)).2

/-- The session reports progress on the step it holds. -/
def heldProgress : LifecycleOperation × Surroundings :=
  (progressCall "s", sampleSurroundings secondUuid)

theorem callsAsHolder_sample {state : LifecycleState} {operation : LifecycleOperation} {uuid : Uuid}
    (unrepeated : ∀ session ∈ state.caller? operation, state.recorded? operation session = none →
      Unrepeated state operation session)
    (repeated : ∀ session ∈ state.caller? operation, ∀ answer ∈ state.recorded? operation session,
      Repeated state operation session answer)
    (fresh : ∀ claim ∈ state.store.claims, claim.claimId ≠ "agent-claim-" ++ uuid.text) :
    CallsAsHolder state (operation, sampleSurroundings uuid) :=
  ⟨unrepeated, repeated, fun _ => fresh⟩

theorem heldProgress_asHolder : CallsAsHolder claimedState heldProgress := by
  rw [heldProgress]
  apply callsAsHolder_sample
  · decide +kernel
  · decide +kernel
  · decide +kernel

theorem drivenByHolder_of_run_sample :
    DrivenByHolder heldProgress.1 claimedState (lifecycleMachine.step claimedState heldProgress).1
      (lifecycleMachine.step claimedState heldProgress).2 := by
  have met : lifecycleMachine.Met CallsAsHolder sampleState (claimingRun "s" firstUuid) := by
    refine ⟨callsAsHolder_sample ?_ ?_ ?_, callsAsHolder_sample ?_ ?_ ?_, trivial⟩
    all_goals decide +kernel
  have run : lifecycleMachine.Run CallsAsHolder sampleState
      (lifecycleMachine.exec sampleState (claimingRun "s" firstUuid)).1 claimedState :=
    Machine.exec_run _ _ _ met
  exact drivenByHolder_of_run rfl run heldProgress heldProgress_asHolder

def reclaimedRun : List (LifecycleOperation × Surroundings) :=
  claimingRun "s" firstUuid ++ [(interruptCall "s", sampleSurroundings firstUuid)] ++
    claimingRun "r" secondUuid

def reclaimedState : LifecycleState := (lifecycleMachine.exec sampleState reclaimedRun).2

theorem acted_of_event {before after : LifecycleState} {taskId stepId : String}
    (recorded : (before.execution.lookup taskId).any (fun directory =>
      (after.execution.lookup taskId).any fun changed =>
        (changed.events.drop directory.events.length).any fun event =>
          event.type.isWork && event.stepId = some stepId) = true) :
    Acted before.holdings after.holdings taskId stepId := by
  obtain ⟨directory, isDirectory, recorded⟩ := (Option.any_eq_true _ _).1 recorded
  obtain ⟨changed, isChanged, recorded⟩ := (Option.any_eq_true _ _).1 recorded
  obtain ⟨event, member, recorded⟩ := List.any_eq_true.1 recorded
  rw [Bool.and_eq_true, decide_eq_true_eq] at recorded
  exact ⟨directory, changed, isDirectory, isChanged, Or.inl ⟨event, member, recorded⟩⟩

/-- The session that was interrupted reports progress on the step of the other. -/
theorem drivenByHolder_of_run_counterexample : ¬ ∀ start history state, start.store = .empty →
      lifecycleMachine.Run Machine.anyStep start history state → ∀ call,
        DrivenByHolder call.1 state (lifecycleMachine.step state call).1
          (lifecycleMachine.step state call).2 := by
  intro claimed
  have run : lifecycleMachine.Run Machine.anyStep sampleState
      (lifecycleMachine.exec sampleState reclaimedRun).1 reclaimedState :=
    Machine.exec_run _ _ _ (Machine.met_of_forall (fun _ _ _ => trivial) _)
  have driven := claimed sampleState _ reclaimedState rfl run heldProgress
  have acted : Acted reclaimedState.holdings
      (lifecycleMachine.step reclaimedState heldProgress).2.holdings "t" "w" := by
    apply acted_of_event
    decide +kernel
  obtain ⟨session, called, holds⟩ := driven.acted "t" "w" acted
  have idle : ∀ session ∈ reclaimedState.caller? heldProgress.1,
      ∀ claim ∈ reclaimedState.store.claims, claim.state = .active →
        claim.sessionId ≠ session.sessionId := by
    decide +kernel
  rcases holds with ⟨claim, member, active, ofSession, -⟩ | ⟨claims, -⟩
  · exact idle session called claim member active ofSession
  · cases claims

end Zero3Pilot.Lifecycle
