import Zero3Pilot.GroupRuntime.StateMachine

/-! # The durable records of a development group

What `contract-types.ts` says of the plan of a group and of the records it keeps: the group state,
the record of each session, the events of the ledger, integration milestones and verification runs.
Time stamps are kept where something is ordered by them. -/

namespace Zero3Pilot.GroupRuntime

/-! ## The plan -/

inductive CompletionMode where
  | strict
  | allowExplicitWaiver

/-- `DevelopmentGroupPolicy`, as far as the runtime reads it. -/
structure DevelopmentGroupPolicy where
  (maxParallelSessions maxSessionAttempts : Nat)
  completionMode : CompletionMode
  verificationPolicyRevision : String
  mandatoryTests : List String

/-- `DevelopmentGroupDefinition`, as far as the runtime reads it. -/
structure DevelopmentGroupDefinition where
  (groupId planHash repository : String)
  policy : DevelopmentGroupPolicy

/-- `DevelopmentRequirement`, as far as the runtime reads it. -/
structure DevelopmentRequirement where
  requirementId : String
  mandatory : Bool

structure PlannedSession extends DevelopmentSessionDefinition where
  (waveId integrationRef : String)
  dependencies : List String
  executorId : String

structure DevelopmentWave where
  waveId : String
  ordinal : Nat
  (sessionIds requiredSessionIds dependsOnWaveIds : List String)

structure PlanningProposal where
  definition : DevelopmentGroupDefinition
  requirements : List DevelopmentRequirement
  sessions : List PlannedSession
  waves : List DevelopmentWave

def PlanningProposal.session? (plan : PlanningProposal) (sessionId : String) :
    Option PlannedSession :=
  plan.sessions.find? fun candidate => candidate.sessionId = sessionId

def PlanningProposal.wave? (plan : PlanningProposal) (waveId : String) : Option DevelopmentWave :=
  plan.waves.find? fun candidate => candidate.waveId = waveId

/-! ## States -/

structure DevelopmentGroupRuntimeState where
  groupId : String
  status : DevelopmentGroupStatus
  (activeWaveId integrationSha : Option String)
  lastEventSequence : Nat
  unresolvedBlockers : List String
  (outcomeUnknownCount repairWaveCount : Nat)
  deriving DecidableEq

structure DevelopmentSessionRuntime where
  (groupId sessionId executionId : String)
  status : DevelopmentSessionStatus
  (attempt writerGeneration : Nat)
  (executorId executorSessionId : Option String)
  executorGeneration : Option Nat
  headSha : Option String
  lastEventSequence : Nat
  blocker : Option String

/-! ## Events -/

inductive GroupEventType where
  | groupCreated
  | planFrozen
  | waveStarted
  | sessionCreated
  | sessionStarted
  | sessionBlocked
  | sessionDelivered
  | deliveryRejected
  | integrationStarted
  | integrationMerged
  | verificationStarted
  | verificationFailed
  | repairCreated
  | groupCompleted
  deriving DecidableEq

def GroupEventType.text : GroupEventType → String
  | groupCreated => "group.created"
  | planFrozen => "plan.frozen"
  | waveStarted => "wave.started"
  | sessionCreated => "session.created"
  | sessionStarted => "session.started"
  | sessionBlocked => "session.blocked"
  | sessionDelivered => "session.delivered"
  | deliveryRejected => "delivery.rejected"
  | integrationStarted => "integration.started"
  | integrationMerged => "integration.merged"
  | verificationStarted => "verification.started"
  | verificationFailed => "verification.failed"
  | repairCreated => "repair.created"
  | groupCompleted => "group.completed"

structure GroupEvent where
  eventId : String
  sequence : Nat
  groupId : String
  type : GroupEventType
  (sessionId waveId detail : Option String)
  deriving DecidableEq

/-! ## Integration, verification, repair -/

inductive IntegrationStatus where
  | pending
  | merged
  | conflict
  | failed
  deriving DecidableEq

/-- How the status of a milestone is written. -/
def IntegrationStatus.text : IntegrationStatus → String
  | pending => "pending"
  | merged => "merged"
  | conflict => "conflict"
  | failed => "failed"

structure IntegrationMilestone where
  (integrationRunId groupId baseSha headSha : String)
  (deliveryHashes mergedSessionIds : List String)
  status : IntegrationStatus
  conflicts : List String
  createdAt : String

inductive VerificationPlatform where
  | windows
  | linux
  | macos
  deriving DecidableEq

/-- How a platform is written. -/
def VerificationPlatform.text : VerificationPlatform → String
  | windows => "windows"
  | linux => "linux"
  | macos => "macos"

/-- `VerificationCommand`; it runs on any platform where it names none. -/
structure VerificationCommand where
  (id command : String)
  cwd : Option String
  platform : Option VerificationPlatform
  required : Bool

inductive VerificationResultStatus where
  | passed
  | failed
  | notRun
  | notRunPlatform
  deriving DecidableEq

structure VerificationResult where
  commandId : String
  status : VerificationResultStatus
  exitCode : Option Int
  evidence : List String

inductive VerificationStatus where
  | pending
  | running
  | passed
  | failed
  | outcomeUnknown
  deriving DecidableEq

def VerificationStatus.text : VerificationStatus → String
  | pending => "pending"
  | running => "running"
  | passed => "passed"
  | failed => "failed"
  | outcomeUnknown => "outcome_unknown"

structure VerificationRun where
  (verificationRunId groupId integrationSha policyRevision : String)
  commands : List VerificationCommand
  results : List VerificationResult
  platform : VerificationPlatform
  startedAt : String
  status : VerificationStatus

/-- `FailureRecord`, as far as the runtime reads it. -/
structure FailureRecord where
  message : String
  unresolved : Bool

inductive RepairStatus where
  | planned
  | running
  | delivered
  | verified
  | waitingHuman
  | failed
  deriving DecidableEq

/-- `RepairTask`, as far as the runtime reads it. -/
structure RepairTask where
  repairTaskId : String
  status : RepairStatus

structure DurableGroupRecords where
  runtimes : List DevelopmentSessionRuntime
  deliveries : List DevelopmentDelivery
  integrations : List IntegrationMilestone
  verifications : List VerificationRun
  failures : List FailureRecord
  repairs : List RepairTask

/-! ## Maps -/

def mapGet {α : Type} (key : α → String) (values : List α) (name : String) : Option α :=
  values.reverse.find? fun value => key value = name

theorem mapGet_some {α : Type} {key : α → String} {values : List α} {name : String} {value : α}
    (found : mapGet key values name = some value) : value ∈ values ∧ key value = name := by
  refine ⟨List.mem_reverse.1 (List.mem_of_find?_eq_some found), ?_⟩
  simpa using List.find?_some found

end Zero3Pilot.GroupRuntime
