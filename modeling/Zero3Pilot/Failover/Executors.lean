import Zero3Pilot.Failover.Controller

/-! # Executors and their sessions

What `executor-types.ts` says of executors, and the checks of `Zero3ExecutorManager` in
`executor-manager.ts`: of the identity of an execution, of generations, of the session an executor
returns, of the events it emits in a prompt, and of a permission response. What executors answer is
given with the calls; policies, objectives' constraints and instants only pass through to executors
and are left out. -/

namespace Zero3Pilot.Failover

/-! ## Executions and sessions -/

structure ExecutorControlIdentity where
  leaseId : String
  fencingToken : Nat
  deriving DecidableEq

/-- `ExecutorTaskIdentity`, as far as it is checked. -/
structure ExecutorTaskIdentity where
  (taskId executionId workspace objective : String)
  control : Option ExecutorControlIdentity
  deriving DecidableEq

structure ExecutorHandoffCheckpointRef where
  (protocol checkpointHash : String)
  generation : Nat
  workspaceFingerprint : String

def handoffProtocol : String := "zero3.pilot.handoff.v1"

structure ExecutorSession where
  (executorId sessionId : String)
  generation : Nat
  deriving DecidableEq

def bindingKey (taskId executionId : String) : String := taskId ++ "\x00" ++ executionId

def ExecutorTaskIdentity.key (identity : ExecutorTaskIdentity) : String :=
  bindingKey identity.taskId identity.executionId

/-- `ExecutorBinding`, apart from the policy. -/
structure ExecutorBinding where
  identity : ExecutorTaskIdentity
  executorId : String
  session : ExecutorSession
  pendingPermissions : List (String × Bool)
  deriving DecidableEq

/-! ## Checks -/

/-- A text is more than white space: `value.trim()`. -/
def nonBlank (value : String) : Bool := scriptTrim value ≠ ""

def ExecutorControlIdentity.isValid (control : ExecutorControlIdentity) : Bool :=
  nonBlank control.leaseId && (1 ≤ control.fencingToken && control.fencingToken ≤ maxSafeInteger)

def assertIdentity (identity : ExecutorTaskIdentity) : Except String Unit := do
  ensure (nonBlank identity.taskId) "taskId must be non-empty"
  ensure (nonBlank identity.executionId) "executionId must be non-empty"
  ensure (nonBlank identity.workspace) "workspace must be non-empty"
  ensure (nonBlank identity.objective) "objective must be non-empty"
  ensure (identity.control.all ExecutorControlIdentity.isValid)
    "control identity requires a non-empty lease id and positive fencing token"

def assertGeneration (generation : Nat) : Except String Unit :=
  ensure (1 ≤ generation ∧ generation ≤ maxSafeInteger)
    "executor generation must be a positive safe integer"

def assertHandoffCheckpoint (checkpoint : ExecutorHandoffCheckpointRef) : Except String Unit := do
  ensure (checkpoint.protocol = handoffProtocol) "handoff checkpoint protocol is unsupported"
  assertGeneration checkpoint.generation
  ensure (nonBlank checkpoint.checkpointHash ∧ nonBlank checkpoint.workspaceFingerprint)
    "handoff checkpoint requires hash and workspace fingerprint"

def assertReturnedSession (executorId : String) (generation : Nat) (session : ExecutorSession) :
    Except String Unit := do
  ensure (session.executorId = executorId) "executor returned a session for a different executor id"
  ensure (session.generation = generation) "executor returned a session with a different generation"
  ensure (nonBlank session.sessionId) "executor returned an empty session id"

theorem assertReturnedSession_ok {executorId : String} {generation : Nat} {session : ExecutorSession}
    (ok : assertReturnedSession executorId generation session = .ok ()) :
    session.executorId = executorId ∧ session.generation = generation := by
  simp only [assertReturnedSession, bind_ok, ensure_ok] at ok
  obtain ⟨_, executor, _, same, _⟩ := ok
  exact ⟨executor, same⟩

def assertPermissionRequestId (requestId : String) : Except String Unit :=
  ensure (nonBlank requestId) "permission request id must be non-empty"

/-! ## Events -/

/-- How a prompt is completed. -/
inductive PromptOutcome where
  | succeeded | cancelled | failed
  deriving DecidableEq

/-- `ExecutorEvent`. Messages, plans, tool calls and the like are only passed on. -/
inductive ExecutorEvent where
  | failure (sequence : Nat) (failure : ExecutorFailure)
  | permissionRequested (sequence : Nat) (requestId : String) (allowSessionApproval : Bool)
  | completed (sequence : Nat) (outcome : PromptOutcome)
  | other (sequence : Nat)

def ExecutorEvent.sequence : ExecutorEvent → Nat
  | .failure sequence _ => sequence
  | .permissionRequested sequence _ _ => sequence
  | .completed sequence _ => sequence
  | .other sequence => sequence

/-- **What the manager checks of an event** of a prompt before it yields it, and the pending
permissions afterwards. -/
def acceptEvent (binding : ExecutorBinding) (lastSequence : Nat) (event : ExecutorEvent) :
    Except String ExecutorBinding := do
  ensure (event.sequence ≤ maxSafeInteger ∧ lastSequence < event.sequence)
    "executor event sequence must be a strictly increasing positive safe integer"
  match event with
  | .permissionRequested _ requestId allowSessionApproval => do
    assertPermissionRequestId requestId
    ensure (binding.pendingPermissions.lookup requestId = none)
      ("duplicate pending permission request: " ++ requestId)
    return { binding with
      pendingPermissions := binding.pendingPermissions ++ [(requestId, allowSessionApproval)] }
  | .failure _ failure => do
    ensure (failure.source = binding.executorId)
      "executor failure source does not match the bound executor"
    return binding
  | .completed _ _ => return { binding with pendingPermissions := [] }
  | .other _ => return binding

theorem acceptEvent_ok {binding after : ExecutorBinding} {lastSequence : Nat} {event : ExecutorEvent}
    (ok : acceptEvent binding lastSequence event = .ok after) :
    after.identity = binding.identity ∧ after.executorId = binding.executorId ∧
      after.session = binding.session := by
  cases event with
  | failure _ failure =>
    simp only [acceptEvent, bind_ok, pure_ok] at ok
    obtain ⟨_, _, _, _, rfl⟩ := ok
    exact ⟨rfl, rfl, rfl⟩
  | permissionRequested _ requestId allow =>
    simp only [acceptEvent, bind_ok, pure_ok] at ok
    obtain ⟨_, _, _, _, _, _, rfl⟩ := ok
    exact ⟨rfl, rfl, rfl⟩
  | completed _ outcome =>
    simp only [acceptEvent, bind_ok, pure_ok] at ok
    obtain ⟨_, _, rfl⟩ := ok
    exact ⟨rfl, rfl, rfl⟩
  | other =>
    simp only [acceptEvent, bind_ok, pure_ok] at ok
    obtain ⟨_, _, rfl⟩ := ok
    exact ⟨rfl, rfl, rfl⟩

end Zero3Pilot.Failover
