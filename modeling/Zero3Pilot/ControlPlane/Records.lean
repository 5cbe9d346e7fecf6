import Std.Data.ExtTreeMap
import Zero3Pilot.Foundations.Json

/-! # Records of the remote control plane

The data model of `apps/web/src/control_plane.rs`: remote tasks, leases, accepted events, terminal
records, task and node records, and the request bodies of the host endpoints. Rust's `u64` counters
are natural numbers, bounded by `u64Max` where the code checks for overflow; `DateTime<Utc>` values
are integers (nanoseconds); `serde_json::Value` is `Json`; `BTreeMap<String, _>` is a tree map over
the same (code point) order. The JSON encodings are those of the derived `Serialize` instances:
members in declaration order, absent options skipped where the field says so. -/

namespace Zero3Pilot.ControlPlane

abbrev BTreeMap (α : Type) := Std.ExtTreeMap String α compare

/-- The largest `u64`. -/
def u64Max : Nat := 18446744073709551615

def remoteTaskProtocol : String := "zero3.pilot.remote-task.v1"

structure RemoteTaskTarget where
  workspace : String
  baseRef : Option String
deriving DecidableEq

structure RemoteTaskExecution where
  (maxTurns timeoutSeconds : Option Nat)
  requireCleanWorktree : Option Bool
deriving DecidableEq

structure RemoteTask where
  (protocol taskId executionId objective : String)
  target : RemoteTaskTarget
  (constraints acceptanceCriteria : Option (List String))
  permissionProfile : Option String
  execution : Option RemoteTaskExecution
deriving DecidableEq

inductive RemoteTaskState where
  | queued
  | leased
  | running
  | succeeded
  | failed
  | cancelled
  | blocked
  | outcomeUnknown
  | quarantined
deriving DecidableEq

namespace RemoteTaskState

def isTerminal : RemoteTaskState → Bool
  | .succeeded | .failed | .cancelled | .blocked | .outcomeUnknown | .quarantined => true
  | .queued | .leased | .running => false

/-- The `snake_case` name a state is serialized to. -/
def name : RemoteTaskState → String
  | .queued => "queued"
  | .leased => "leased"
  | .running => "running"
  | .succeeded => "succeeded"
  | .failed => "failed"
  | .cancelled => "cancelled"
  | .blocked => "blocked"
  | .outcomeUnknown => "outcome_unknown"
  | .quarantined => "quarantined"

theorem name_injective : Function.Injective name := by
  intro left right same
  cases left <;> cases right <;> first | rfl | simp [name] at same

end RemoteTaskState

structure LeaseRecord where
  (nodeId leaseId : String)
  fencingToken : Nat
  leaseExpiresAt : Int

structure AcceptedEvent where
  (deliveryId executionId leaseId : String)
  (fencingToken eventSequence : Nat)
  (eventType createdAt : String)
  payload : Json

structure TerminalRecord where
  (deliveryId executionId leaseId : String)
  fencingToken : Nat
  createdAt : String
  state : RemoteTaskState
  result : Json

structure TaskRecord where
  task : RemoteTask
  taskFingerprint : List Char
  state : RemoteTaskState
  stickyNodeId : Option String
  fencingToken : Nat
  activeLease : Option LeaseRecord
  lastEventSequence : Nat
  events : List AcceptedEvent
  terminal : Option TerminalRecord
  deliveryFingerprints : BTreeMap (List Char)
  (createdAt updatedAt : Int)

structure NodeRecord where
  nodeId : String
  capabilities : List String
  (registeredAt lastHeartbeatAt : Int)
  activeTaskId : Option String
  pendingDeliveries : Nat

structure RemoteLease where
  leaseId : String
  fencingToken : Nat
  leaseExpiresAt : Int
  task : RemoteTask

/-- `RenewBody`, without the node identity the handler compares with the header. -/
structure RenewBody where
  leaseId : String
  fencingToken : Nat

structure EventEnvelope where
  (deliveryId executionId leaseId : String)
  (fencingToken eventSequence : Nat)
  (eventType createdAt : String)
  payload : Json

structure TerminalEnvelope where
  (deliveryId executionId leaseId : String)
  fencingToken : Nat
  createdAt : String
  state : RemoteTaskState
  result : Json

inductive TerminalRoute where
  | complete
  | fail
  | blocked

structure ControlPlaneState where
  tasks : BTreeMap TaskRecord
  nodes : BTreeMap NodeRecord

def ControlPlaneState.empty : ControlPlaneState := ⟨∅, ∅⟩

/-! ## Canonical JSON -/

/-- The member of an optional field that is skipped when absent. -/
def optionalMember (name : String) : Option Json → List (String × Json)
  | none => []
  | some value => [(name, value)]

@[simp] theorem lookup_optionalMember_append (name key : String) (value : Option Json)
    (rest : List (String × Json)) :
    (optionalMember key value ++ rest).lookup name =
      if name = key then value.or (rest.lookup name) else rest.lookup name := by
  cases value with
  | none => simp [optionalMember]
  | some value =>
    by_cases same : name = key
    · simp [optionalMember, same]
    · have other : (name == key) = false := by simpa using same
      simp [optionalMember, List.lookup_cons, other, same]

@[simp] theorem lookup_optionalMember (name key : String) (value : Option Json) :
    (optionalMember key value).lookup name = if name = key then value else none := by
  have appended := lookup_optionalMember_append name key value []
  simpa using appended

theorem string_injective : Function.Injective Json.string := fun _ _ => Json.string.inj

theorem nat_injective : Function.Injective Json.nat := fun _ _ => Json.nat_inj.1

def RemoteTaskTarget.toJson (target : RemoteTaskTarget) : Json :=
  .object (("workspace", .string target.workspace) ::
    optionalMember "base_ref" (target.baseRef.map .string))

def RemoteTaskExecution.toJson (execution : RemoteTaskExecution) : Json :=
  .object (optionalMember "max_turns" (execution.maxTurns.map .nat) ++
    optionalMember "timeout_seconds" (execution.timeoutSeconds.map .nat) ++
    optionalMember "require_clean_worktree" (execution.requireCleanWorktree.map .bool))

def RemoteTask.toJson (task : RemoteTask) : Json :=
  .object ([("protocol", .string task.protocol), ("task_id", .string task.taskId),
      ("execution_id", .string task.executionId), ("objective", .string task.objective),
      ("target", task.target.toJson)] ++
    optionalMember "constraints" (task.constraints.map fun values => .array (values.map .string)) ++
    optionalMember "acceptance_criteria"
      (task.acceptanceCriteria.map fun values => .array (values.map .string)) ++
    optionalMember "permission_profile" (task.permissionProfile.map .string) ++
    optionalMember "execution" (task.execution.map RemoteTaskExecution.toJson))

def EventEnvelope.toJson (body : EventEnvelope) : Json :=
  .object [("delivery_id", .string body.deliveryId), ("execution_id", .string body.executionId),
    ("lease_id", .string body.leaseId), ("fencing_token", .nat body.fencingToken),
    ("event_sequence", .nat body.eventSequence), ("event_type", .string body.eventType),
    ("created_at", .string body.createdAt), ("payload", body.payload)]

def TerminalEnvelope.toJson (body : TerminalEnvelope) : Json :=
  .object [("delivery_id", .string body.deliveryId), ("execution_id", .string body.executionId),
    ("lease_id", .string body.leaseId), ("fencing_token", .nat body.fencingToken),
    ("created_at", .string body.createdAt), ("state", .string body.state.name),
    ("result", body.result)]

def canonicalJson (value : Json) : List Char := value.render

theorem canonicalJson_event_inj {body body' : EventEnvelope}
    (same : canonicalJson body.toJson = canonicalJson body'.toJson) : body = body' := by
  have trees := Json.render_injective same
  cases body; cases body'
  simpa [EventEnvelope.toJson] using trees

theorem canonicalJson_terminal_inj {body body' : TerminalEnvelope}
    (same : canonicalJson body.toJson = canonicalJson body'.toJson) : body = body' := by
  have trees := Json.render_injective same
  cases body; cases body'
  simp only [TerminalEnvelope.toJson, Json.object.injEq, List.cons.injEq, Prod.mk.injEq, true_and,
    Json.string.injEq, Json.nat_inj, and_true] at trees
  obtain ⟨rfl, rfl, rfl, rfl, rfl, states, rfl⟩ := trees
  cases RemoteTaskState.name_injective states
  rfl

theorem canonicalJson_event_ne_terminal (body : EventEnvelope) (body' : TerminalEnvelope) :
    canonicalJson body.toJson ≠ canonicalJson body'.toJson := by
  intro same
  have trees := Json.render_injective same
  simp [EventEnvelope.toJson, TerminalEnvelope.toJson] at trees

end Zero3Pilot.ControlPlane
