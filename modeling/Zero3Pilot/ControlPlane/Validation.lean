import Zero3Pilot.Foundations.Checks
import Zero3Pilot.Foundations.Text
import Zero3Pilot.ControlPlane.Records

/-! # Request validation of the remote control plane

The checks of `apps/web/src/control_plane.rs` that look at a request alone, or at a request and one
task record, with the errors they answer. -/

namespace Zero3Pilot.ControlPlane

/-- The `StatusCode`s the control plane answers errors with. -/
inductive StatusCode where
  | badRequest
  | notFound
  | conflict
  | gone
  | preconditionFailed
  | unprocessableEntity
  | internalServerError
deriving DecidableEq

structure ApiError where
  status : StatusCode
  message : String
deriving DecidableEq

def ApiError.internal (error : String) : ApiError :=
  ⟨.internalServerError, "remote control-plane persistence failure: " ++ error⟩

def trim (text : String) : String := trimWith isUnicodeWhitespace text

def isIdChar (char : Char) : Bool :=
  char.isAlphanum || char == '-' || char == '_' || char == '.'

def validateId (label value : String) : Except ApiError Unit :=
  ensure (value ≠ "" ∧ value.utf8ByteSize ≤ 128 ∧ value.toList.all isIdChar)
    ⟨.badRequest, label ++ " must be 1-128 ASCII letters, digits, '.', '_' or '-'"⟩

def validateTask (task : RemoteTask) : Except ApiError Unit := do
  ensure (task.protocol = remoteTaskProtocol) ⟨.badRequest, "unsupported remote task protocol"⟩
  validateId "task_id" task.taskId
  validateId "execution_id" task.executionId
  ensure (trim task.objective ≠ "") ⟨.badRequest, "objective must not be empty"⟩
  ensure (trim task.target.workspace ≠ "") ⟨.badRequest, "target.workspace must not be empty"⟩

def requiredHostCapabilities : List String := ["codex", "thread", "turn"]

def requireCapabilities (capabilities : List String) : Except ApiError Unit :=
  match requiredHostCapabilities.find? (fun required => !capabilities.contains required) with
  | some required => .error ⟨.badRequest, "host is missing required capability: " ++ required⟩
  | none => .ok ()

/-- `normalized_capabilities`: through a `BTreeSet`, hence sorted and without duplicates. -/
def normalizedCapabilities (capabilities : List String) : List String :=
  (Std.ExtTreeSet.ofList capabilities compare).toList

/-- `validate_lease` at the clock reading `now`. It returns the active lease, which the source's
`renew` unwraps once more. -/
def validateLease (record : TaskRecord) (nodeId executionId leaseId : String)
    (fencingToken : Nat) (now : Int) : Except ApiError LeaseRecord := do
  ensure (record.task.executionId = executionId) ⟨.conflict, "execution_id does not match task"⟩
  let active ← orError record.activeLease ⟨.gone, "remote task has no active lease"⟩
  ensure (active.nodeId = nodeId ∧ active.leaseId = leaseId) ⟨.gone, "remote task lease is stale"⟩
  ensure (active.fencingToken = fencingToken ∧ record.fencingToken = fencingToken)
    ⟨.preconditionFailed, "remote task fencing token is stale"⟩
  ensure (now < active.leaseExpiresAt) ⟨.gone, "remote task lease has expired"⟩
  return active

def TerminalRoute.takes : TerminalRoute → RemoteTaskState → Bool
  | .complete, state => state == .succeeded
  | .blocked, state => state == .blocked
  | .fail, state => state == .failed || state == .cancelled || state == .outcomeUnknown ||
      state == .quarantined

def validateTerminalRoute (state : RemoteTaskState) (route : TerminalRoute) :
    Except ApiError Unit :=
  ensure (route.takes state) ⟨.unprocessableEntity, "terminal state does not match endpoint"⟩

/-! ## What passing a check shows -/

/-- A valid identifier. -/
structure IsId (value : String) : Prop where
  nonempty : value ≠ ""
  short : value.utf8ByteSize ≤ 128
  plain : value.toList.all isIdChar

theorem validateId_ok {label value : String} {done : Unit} :
    validateId label value = .ok done ↔ IsId value := by
  rw [validateId, ensure_ok]
  constructor
  · rintro ⟨nonempty, short, plain⟩
    exact ⟨nonempty, short, plain⟩
  · rintro ⟨nonempty, short, plain⟩
    exact ⟨nonempty, short, plain⟩

theorem validateTask_ids {task : RemoteTask} {done : Unit}
    (passed : validateTask task = .ok done) : IsId task.taskId ∧ IsId task.executionId := by
  simp only [validateTask, bind_ok, ensure_ok, validateId_ok] at passed
  obtain ⟨_, _, _, taskId, _, executionId, _⟩ := passed
  exact ⟨taskId, executionId⟩

/-- **The caller holds the lease**, which has the newest fencing token and has not expired. -/
structure HoldsLease (record : TaskRecord) (nodeId executionId leaseId : String)
    (fencingToken : Nat) (now : Int) (active : LeaseRecord) : Prop where
  execution : record.task.executionId = executionId
  isActive : record.activeLease = some active
  node : active.nodeId = nodeId
  lease : active.leaseId = leaseId
  token : active.fencingToken = fencingToken
  newest : record.fencingToken = fencingToken
  unexpired : now < active.leaseExpiresAt

theorem validateLease_ok {record : TaskRecord} {nodeId executionId leaseId : String}
    {fencingToken : Nat} {now : Int} {active : LeaseRecord} :
    validateLease record nodeId executionId leaseId fencingToken now = .ok active ↔
      HoldsLease record nodeId executionId leaseId fencingToken now active := by
  simp only [validateLease, bind_ok, ensure_ok, orError_ok, pure_ok]
  constructor
  · rintro ⟨_, execution, _, isActive, _, ⟨node, lease⟩, _, ⟨token, newest⟩, _, unexpired, rfl⟩
    exact ⟨execution, isActive, node, lease, token, newest, unexpired⟩
  · rintro ⟨execution, isActive, node, lease, token, newest, unexpired⟩
    exact ⟨(), execution, active, isActive, (), ⟨node, lease⟩, (), ⟨token, newest⟩, (),
      unexpired, rfl⟩

theorem TerminalRoute.isTerminal_of_takes {route : TerminalRoute} {state : RemoteTaskState}
    (taken : route.takes state) : state.isTerminal := by
  cases route <;> cases state <;> first | rfl | simp [TerminalRoute.takes] at taken

end Zero3Pilot.ControlPlane
