import Zero3Pilot.Execution.Marks
import Zero3Pilot.Foundations.Views
import Zero3Pilot.Lifecycle.World

/-! # What decides who works on which step

The tasks, the rows of the sessions, the claims and the recorded answers are what ownership depends
on. Most of what the lifecycle runtime does leaves them alone: it writes the worklog and the
contexts, draws identifiers, and hands events to shared memory. -/

namespace Zero3Pilot.Lifecycle

open Execution (TaskDirectory loadSnapshot)
open Procedure (Leaves Moves)

/-! ## The part of the state -/

def AgentLifecycleSession.row (session : AgentLifecycleSession) : AgentLifecycleSession :=
  { session with state := .active }

/-- The tables that decide who holds a step. -/
structure HeldRows where
  sessions : List AgentLifecycleSession
  claims : List AgentLifecycleClaim
  answers : List IdempotencyRow

/-- Those tables of a store. -/
def LifecycleStore.rows (store : LifecycleStore) : HeldRows where
  sessions := store.sessions.map AgentLifecycleSession.row
  claims := store.claims
  answers := store.idempotency

/-- **What decides who works on which step.** -/
structure Holdings extends HeldRows where
  task? : String → Option TaskDirectory
  settings : List (String × TaskSettings)

def LifecycleState.holdings (state : LifecycleState) : Holdings :=
  ⟨state.store.rows, fun taskId => state.execution.lookup taskId, state.settings⟩

/-! ## Methods of the store -/

section Methods

variable {α : Type} {method : Statement α}

theorem leaves_onStore (leaves : Leaves LifecycleStore.rows method) :
    Leaves LifecycleState.holdings (onStore method) := by
  refine Moves.focus leaves fun store state same => ?_
  exact congrArg (Holdings.mk · (fun taskId => state.execution.lookup taskId) state.settings) same

theorem getSession_leaves (sessionId : ScriptValue) :
    Leaves LifecycleStore.rows (getSession sessionId) := by
  apply Moves.bind (.ofExcept _)
  intro id
  apply Moves.bind .read
  intro store
  apply Moves.pure

theorem sessionRow_leaves (sessionId : String) :
    Leaves LifecycleStore.rows (sessionRow sessionId) := by
  apply Moves.bind .read
  intro store
  apply Moves.require

theorem touchSession_leaves (sessionId : String) (state : Option LifecycleSessionState) :
    Leaves LifecycleStore.rows (touchSession sessionId state) := by
  apply Moves.bind (.ofExcept _)
  intro id
  apply Moves.bind (sessionRow_leaves id)
  intro session
  refine Moves.bind (.modify fun store => ?_) fun _ => sessionRow_leaves id
  have rows : (store.updateSession id fun session =>
      { session with state := state.getD session.state }).sessions.map AgentLifecycleSession.row =
        store.sessions.map AgentLifecycleSession.row := by
    rw [LifecycleStore.updateSession, List.map_map]
    apply List.map_congr_left
    intro row _
    by_cases named : row.sessionId = id
    · simp [named, AgentLifecycleSession.row]
    · simp [named]
  show (⟨_, _, _⟩ : HeldRows) = ⟨_, _, _⟩
  rw [rows]
  rfl

theorem recordWorklog_leaves (uuid : String) (session : AgentLifecycleSession) (eventType : String)
    (importance : LifecycleImportance) (content : Json) :
    Leaves LifecycleStore.rows (recordWorklog uuid session eventType importance content) := by
  apply Moves.bind .read
  intro store
  cases store.worklog.find? fun entry => entry.worklogId = "worklog-" ++ uuid with
  | some existing => exact .pure existing
  | none =>
    apply Moves.bind (.ofExcept _)
    intro _
    exact Moves.bind (.modify fun _ => rfl) fun _ => .pure _

theorem countWorklog_leaves (taskId : String) : Leaves LifecycleStore.rows (countWorklog taskId) := by
  apply Moves.bind (.ofExcept _)
  intro id
  apply Moves.bind .read
  intro store
  apply Moves.pure

theorem bumpContext_leaves (taskId projectId summary : String) :
    Leaves LifecycleStore.rows (bumpContext taskId projectId summary) := by
  apply Moves.bind (.ofExcept _)
  intro id
  apply Moves.bind (.ofExcept _)
  intro _
  apply Moves.bind (.check _ _)
  intro _
  apply Moves.bind .read
  intro store
  exact Moves.bind (.modify fun _ => rfl) fun _ => .pure _

theorem enqueueMemory_leaves (event : Json) (projectId : String) (taskId : Option String) :
    Leaves LifecycleStore.rows (enqueueMemory event projectId taskId) := by
  apply Moves.bind (.ofExcept _)
  intro eventId
  apply Moves.bind (.ofExcept _)
  intro projectId
  apply Moves.bind (.ofExcept _)
  intro taskId
  apply Moves.bind (.ofExcept _)
  intro _
  apply Moves.bind .read
  intro store
  cases store.outbox.find? fun row => row.eventId = eventId with
  | some existing =>
    apply Moves.bind (.check _ _)
    intro _
    apply Moves.pure
  | none => exact Moves.bind (.modify fun _ => rfl) fun _ => .pure _

theorem memoryOutboxPending_leaves (taskId : String) :
    Leaves LifecycleStore.rows (memoryOutboxPending taskId) := by
  apply Moves.bind (.ofExcept _)
  intro id
  apply Moves.bind .read
  intro store
  apply Moves.pure

theorem markMemory_leaves (eventId : String) (state : OutboxState) (error : Option String) :
    Leaves LifecycleStore.rows (markMemory eventId state error) := by
  apply Moves.bind (.ofExcept _)
  intro id
  exact .modify fun _ => rfl

end Methods

/-! ## Ports -/

section Ports

variable (surroundings : Surroundings)

theorem drawUuid_leaves : Leaves LifecycleState.holdings (drawUuid surroundings) := by
  apply Moves.bind .read
  intro state
  exact Moves.bind (.modify fun _ => rfl) fun _ => .pure _

theorem nextReply_leaves : Leaves LifecycleState.holdings (nextReply surroundings) := by
  apply Moves.bind .read
  intro state
  exact Moves.bind (.modify fun _ => rfl) fun _ => .pure _

theorem publishEvent_leaves (event : Json) :
    Leaves LifecycleState.holdings (publishEvent surroundings event) := by
  apply Moves.bind (nextReply_leaves surroundings)
  intro reply
  apply Moves.bind (.ofExcept _)
  intro _
  exact .modify fun _ => rfl

theorem memoryForProject_leaves (projectId : String) :
    Leaves LifecycleState.holdings ((plainPorts surroundings).memoryForProject projectId) := by
  apply Moves.bind (nextReply_leaves surroundings)
  intro reply
  apply Moves.ofExcept

theorem getProject_leaves (projectId : String) :
    Leaves LifecycleState.holdings ((plainPorts surroundings).getProject projectId) := by
  apply Moves.bind (nextReply_leaves surroundings)
  intro reply
  apply Moves.ofExcept

theorem onArtifacts_leaves {α : Type} (procedure : Procedure ArtifactStore String α) :
    Leaves LifecycleState.holdings (onArtifacts procedure) := by
  refine Leaves.focus ?_ procedure
  intro artifacts state
  rfl

theorem loadTask_leaves (taskId : String) :
    Leaves LifecycleState.holdings (onTask taskId (loadSnapshot taskId)) := by
  intro state
  rw [onTask, onExecution, Procedure.ensures_focus]
  refine Execution.ensures_inTask_iff (fun name directory safe found => ?_) fun _ _ => rfl
  have same : (fun other => (Execution.replaceTask state.execution name directory).lookup other) =
      fun other => state.execution.lookup other := by
    funext other
    rw [Execution.lookup_replaceTask]
    by_cases named : other = name
    · simp [named, found]
    · simp [named]
  have unread : ({ state with
      execution := Execution.replaceTask state.execution name directory } : LifecycleState).holdings =
        state.holdings := congrArg (Holdings.mk state.store.rows · state.settings) same
  exact Execution.ensures_loadSnapshot_iff (fun _ => unread) fun _ _ => unread

theorem readTask_leaves (taskId : String) : Leaves LifecycleState.holdings (readTask taskId) := by
  apply Moves.bind (loadTask_leaves taskId)
  intro directory
  apply Moves.bind .read
  intro state
  apply Moves.pure

theorem readTasks_leaves (taskIds : List String) :
    Leaves LifecycleState.holdings (readTasks taskIds) := by
  induction taskIds with
  | nil => exact .pure []
  | cons taskId taskIds ih =>
    apply Moves.bind (readTask_leaves taskId)
    intro snapshot
    exact Moves.bind ih fun _ => .pure _

theorem listTasks_leaves : Leaves LifecycleState.holdings (plainPorts surroundings).listTasks := by
  apply Moves.bind .read
  intro state
  apply readTasks_leaves

end Ports

/-! ## Helpers of the runtime -/

section Helpers

variable {surroundings : Surroundings}

theorem requireSession_leaves (sessionId : ScriptValue) :
    Leaves LifecycleState.holdings (requireSession (plainPorts surroundings) sessionId) := by
  apply Moves.bind (leaves_onStore (getSession_leaves sessionId))
  intro session
  apply Moves.fallible_require

theorem entityId_leaves (kind : String) (value : Json) :
    Leaves LifecycleState.holdings (entityId (plainPorts surroundings) kind value) := by
  apply Moves.bind (.fallible_ofExcept _)
  intro given
  cases given with
  | some id => exact .pure id
  | none => exact Moves.bind (drawUuid_leaves surroundings) fun _ => .pure _

theorem worklog_leaves (session : AgentLifecycleSession) (eventType : String)
    (importance : LifecycleImportance) (content : Json) :
    Leaves LifecycleState.holdings
      (worklog (plainPorts surroundings) session eventType importance content) := by
  apply Moves.bind (drawUuid_leaves surroundings)
  intro uuid
  exact leaves_onStore (recordWorklog_leaves _ _ _ _ _)

theorem flushRows_leaves (rows : List OutboxRow) :
    Leaves LifecycleState.holdings (flushRows (plainPorts surroundings) rows) := by
  induction rows with
  | nil => exact .pure ()
  | cons row rows ih =>
    apply Moves.bind (publishEvent_leaves surroundings row.event).fallible_attempt
    intro result
    cases result with
    | ok _ => exact Moves.bind (leaves_onStore (markMemory_leaves _ _ _)) fun _ => ih
    | error error => exact leaves_onStore (markMemory_leaves _ _ _)

theorem flushMemoryOutbox_leaves (projectId taskId : String) : Leaves LifecycleState.holdings
      (flushMemoryOutbox (plainPorts surroundings) projectId taskId) := by
  apply Moves.bind (memoryForProject_leaves surroundings projectId).fallible_attempt
  intro result
  cases result with
  | error error => exact .pure ()
  | ok configured =>
    apply Moves.bind (leaves_onStore (memoryOutboxPending_leaves _))
    intro pending
    exact .ite (fun _ => flushRows_leaves pending) fun _ => .pure ()

theorem memoryContext_leaves (projectId : String) :
    Leaves LifecycleState.holdings (memoryContext (plainPorts surroundings) projectId) := by
  apply Moves.bind (memoryForProject_leaves surroundings projectId).fallible_attempt
  intro result
  match result with
  | .error error | .ok false => exact .pure _
  | .ok true =>
    apply Moves.bind (getProject_leaves surroundings projectId).fallible_attempt
    intro result
    cases result with
    | ok entities | error error => exact .pure _

theorem publishSpecs_leaves (session : AgentLifecycleSession) (configured : Bool)
    (warning : Option String) (versions : List (EntityKey × Option Int)) (specs : List MemorySpec) :
    Leaves LifecycleState.holdings
      (publishSpecs (plainPorts surroundings) session configured warning versions specs) := by
  induction specs generalizing versions with
  | nil => exact .pure _
  | cons spec specs ih =>
    apply Moves.bind (drawUuid_leaves surroundings)
    intro uuid
    apply Moves.bind (.pure _)
    intro createdAt
    apply Moves.bind (leaves_onStore (enqueueMemory_leaves _ _ _))
    intro _
    refine .ite (fun _ => ?_) fun _ => ?_
    · apply Moves.bind (leaves_onStore (markMemory_leaves _ _ _))
      intro _
      exact Moves.bind (ih _) fun _ => .pure _
    · apply Moves.bind (publishEvent_leaves surroundings _).fallible_attempt
      intro result
      cases result with
      | ok _ =>
        apply Moves.bind (leaves_onStore (markMemory_leaves _ _ _))
        intro _
        exact Moves.bind (ih _) fun _ => .pure _
      | error error =>
        apply Moves.bind (leaves_onStore (markMemory_leaves _ _ _))
        intro _
        exact Moves.bind (ih _) fun _ => .pure _

theorem publishMemorySpecs_leaves (session : AgentLifecycleSession) (specs : List MemorySpec) :
    Leaves LifecycleState.holdings
      (publishMemorySpecs (plainPorts surroundings) session specs) := by
  refine .ite (fun _ => .pure _) fun _ => ?_
  apply Moves.bind (flushMemoryOutbox_leaves _ _)
  intro _
  apply Moves.bind (memoryContext_leaves _)
  intro context
  obtain ⟨configured, entities, warning⟩ := context
  exact publishSpecs_leaves _ _ _ _ _

theorem itemSpecs_leaves (eventType entityType kind : String) (authority : Nat)
    (projectScoped : Json → Bool) (session : AgentLifecycleSession) (items : List Json) :
    Leaves LifecycleState.holdings (itemSpecs (plainPorts surroundings) eventType entityType kind
      authority projectScoped session items) := by
  induction items with
  | nil => exact .pure []
  | cons item items ih =>
    apply Moves.bind (entityId_leaves _ _)
    intro id
    exact Moves.bind ih fun _ => .pure _

theorem eventSpec_leaves (type : LifecycleEventType) (level : LifecycleImportance) (scope : Bool)
    (content : Json) :
    Leaves LifecycleState.holdings
      (eventSpec (plainPorts surroundings) type level scope content) := by
  have spec : ∀ kind (answer : String → List MemorySpec), Leaves LifecycleState.holdings
      (entityId (plainPorts surroundings) kind content >>= fun id => pure (answer id)) :=
    fun _ _ => Moves.bind (entityId_leaves _ _) fun _ => .pure _
  cases type with
  | decision | discovery | warning | error | userInstruction => exact spec _ _
  | dependency => exact .ite (fun _ => spec _ _) fun _ => .pure _
  | progress => exact .pure _

end Helpers

end Zero3Pilot.Lifecycle
