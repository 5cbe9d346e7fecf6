import Zero3Pilot.Foundations.Strands
import Zero3Pilot.Failover.Controller
import Zero3Pilot.GroupRuntime.DeliveryGate
import Zero3Pilot.GroupRuntime.Records

/-! # The world of a development group

The runtime of a group reads and writes the files of the group, asks Git, the executor, the gate and
the verification commands, and remembers which prompts it supervises. All of these are calls here.
What the files and the integration branch answer follows from the world; what the executor, the gate
and the commands answer is left to the environment. A merge makes a new commit on the old head, or
leaves the head where the branch is merged already or in conflict.

`state.json` is the only file that is replaced by several writers at a time, so its temporary files
are part of the world; the other files are replaced at once. -/

namespace Zero3Pilot.GroupRuntime

open Failover (ExecutorFailureCode)

/-! ## Executors -/

structure ExecutorSessionRef where
  (executorId sessionId : String)
  generation : Int

/-- `ExecutorEvent`, as far as the runner looks at it. -/
inductive ExecutorEventType where
  | permissionRequested
  | failure (code : ExecutorFailureCode)
  | completed (outcome : String)
  | other

/-- `ExecutorEvent`, with its number in the stream of a prompt. -/
structure ExecutorEvent where
  sequence : Int
  type : ExecutorEventType

inductive PromptProgress where
  | event (event : ExecutorEvent)
  | finished
  | threw (message : String)

/-- A runner with its private copy of the session record. `known` is the record it last loaded or
wrote. -/
structure SessionRunner where
  session : PlannedSession
  maxSessionAttempts : Nat
  (runtime known : DevelopmentSessionRuntime)

/-! ## The integration branch -/

structure IntegrationRepository where
  head : String
  commits : List String
  branchHeads : String → Option String
  contained : String → List String

structure IntegrationMergeResult where
  conflict : Bool
  headSha : String
  detail : Option String

inductive MergeAnswer where
  | commit (sha : String)
  | conflict (detail : String)

def IntegrationRepository.isMerged (repository : IntegrationRepository) (branch : String) : Bool :=
  (repository.branchHeads branch).any fun branchHead =>
    (repository.contained repository.head).contains branchHead

def IntegrationRepository.withCommit (repository : IntegrationRepository) (sha : String)
    (contained : List String) : IntegrationRepository :=
  { repository with
    commits := sha :: repository.commits
    contained := Function.update repository.contained sha (sha :: contained) }

/-- `git merge --no-ff --no-edit branch`, aborted where it conflicts. -/
def IntegrationRepository.merge (repository : IntegrationRepository) (branch : String)
    (answer : MergeAnswer) : Except String IntegrationMergeResult × IntegrationRepository :=
  match repository.branchHeads branch with
  | none => (.error s!"git merge failed (1): merge: {branch} - not something we can merge", repository)
  | some branchHead =>
  if repository.isMerged branch then (.ok ⟨false, repository.head, none⟩, repository)
  else
    match answer with
    | .conflict detail => (.ok ⟨true, repository.head, some detail⟩, repository)
    | .commit sha =>
      if repository.commits.contains sha then
        (.error "git merge failed (128): the commit exists", repository)
      else
        (.ok ⟨false, sha, none⟩,
          { repository.withCommit sha
              (repository.contained branchHead ++ repository.contained repository.head) with
            head := sha })

def IntegrationRepository.commitWork (repository : IntegrationRepository) (branch sha : String) :
    Except String Unit × IntegrationRepository :=
  if repository.commits.contains sha then (.error "the commit exists", repository)
  else
    (.ok (), { repository.withCommit sha
        (((repository.branchHeads branch).map repository.contained).getD []) with
      branchHeads := Function.update repository.branchHeads branch (some sha) })

/-! ## The world -/

/-- What a run has asked of the executor and of the gate. -/
inductive Observation where
  | executorStarted (sessionId : String)
  | gateVerdict (delivery : DevelopmentDelivery) (accepted : Bool)

/-- A runner whose prompt is supervised; it is busy while an event is handled. -/
structure SupervisedRunner where
  runner : SessionRunner
  busy : Bool

structure ProcessMemory where
  supervised : String → Option SupervisedRunner
  recording : Bool

def ProcessMemory.fresh : ProcessMemory := ⟨fun _ => none, false⟩

/-- **The world of a group.** No file says whether the `headIsPending`: a merged milestone was written
after the group state last came to name another integration head. -/
structure GroupWorld where
  plan : PlanningProposal
  state : DevelopmentGroupRuntimeState
  temporaries : List (Nat × DevelopmentGroupRuntimeState)
  nextTemporary : Nat
  events : List GroupEvent
  sessions : String → Option DevelopmentSessionRuntime
  deliveries : String → Option DevelopmentDelivery
  integrations : List IntegrationMilestone
  verifications : List VerificationRun
  failures : List FailureRecord
  repairs : List RepairTask
  repository : IntegrationRepository
  memory : ProcessMemory
  log : List Observation
  headIsPending : Bool

/-- The world in which the process starts again. -/
def GroupWorld.restarted (world : GroupWorld) : GroupWorld :=
  { world with memory := .fresh }

def replaceRecord {α : Type} (name : α → String) (records : List α) (record : α) : List α :=
  (records.filter fun other => name other ≠ name record) ++ [record]

/-! ## Calls -/

/-- **The calls of the runtime.** -/
inductive GroupCall where
  | loadPlan (groupId : String)
  | temporaries
  | removeTemporary (temporary : Nat)
  | createTemporary (state : DevelopmentGroupRuntimeState)
  | renameTemporary (temporary : Nat)
  | loadState
  | readEvents
  | appendEvent (event : GroupEvent)
  | enterRecordQueue
  | leaveRecordQueue
  | loadSession (sessionId : String)
  | writeSession (known next : DevelopmentSessionRuntime)
  | loadDelivery (sessionId : String)
  | writeDelivery (delivery : DevelopmentDelivery)
  | writeIntegration (record : IntegrationMilestone)
  | writeVerification (run : VerificationRun)
  | loadRecords
  | activeSessionIds
  | launch (runner : SessionRunner)
  | takeRunner (sessionId : String)
  | putRunner (runner : SessionRunner)
  | settle (sessionId : String)
  | startExecutor (session : PlannedSession)
  | promptProgress (sessionId : String)
  | activeExecutor (sessionId : String)
  | respondPermission (sessionId : String)
  | cancelExecutor (sessionId : String)
  | closeExecutor (sessionId : String)
  | verifyDelivery (session : PlannedSession) (delivery : DevelopmentDelivery)
  | materialize (session : PlannedSession) (runtime : DevelopmentSessionRuntime)
  | currentBranch
  | currentHead
  | branchHead (branch : String)
  | statusClean
  | merge (branch : String)
  | resetTo (sha : String)
  | postMergeCheck (headSha : String)
  | commitWork (branch sha : String)
  | verificationCommands
  | runCommand (command : VerificationCommand)
  | now
  | randomUUID
  | platform

abbrev GroupReply : GroupCall → Type
  | .loadPlan _ => PlanningProposal
  | .temporaries => List Nat
  | .createTemporary _ => Nat
  | .loadState => DevelopmentGroupRuntimeState
  | .readEvents => List GroupEvent
  | .loadSession _ => DevelopmentSessionRuntime
  | .loadDelivery _ => Option DevelopmentDelivery
  | .loadRecords => DurableGroupRecords
  | .activeSessionIds => String → Bool
  | .takeRunner _ => SessionRunner
  | .startExecutor _ => ExecutorSessionRef
  | .promptProgress _ => PromptProgress
  | .activeExecutor _ => Option (String × ExecutorSessionRef)
  | .verifyDelivery _ _ => DeliveryGateResult
  | .materialize _ _ => DevelopmentDelivery
  | .currentBranch | .currentHead | .branchHead _ | .now | .randomUUID => String
  | .statusClean => Bool
  | .merge _ => IntegrationMergeResult
  | .postMergeCheck _ => Option (Bool × Option String)
  | .verificationCommands => List VerificationCommand
  | .runCommand _ => Int × List String
  | .platform => VerificationPlatform
  | .removeTemporary _ | .renameTemporary _ | .appendEvent _ | .enterRecordQueue
  | .leaveRecordQueue | .writeSession _ _ | .writeDelivery _ | .writeIntegration _
  | .writeVerification _ | .launch _ | .putRunner _ | .settle _ | .respondPermission _
  | .cancelExecutor _ | .closeExecutor _ | .resetTo _ | .commitWork _ _ => Unit

/-- What the environment answers to one call. -/
structure GroupEnvironment where
  (now randomUUID : String)
  platform : VerificationPlatform
  start : Except String ExecutorSessionRef
  prompt : PromptProgress
  active : Option (String × ExecutorSessionRef)
  acknowledged : Except String Unit
  gate : Except String DeliveryGateResult
  delivery : Except String DevelopmentDelivery
  branch : Except String String
  clean : Except String Bool
  gitFailure : Option String
  merge : MergeAnswer
  check : Except String (Option (Bool × Option String))
  commands : Except String (List VerificationCommand)
  run : Except String (Int × List String)

/-! ## What the calls do -/

/-- `localeCompare`, and what is hashed or resolved. -/
structure RuntimeHost where
  localeCompare : String → String → Ordering
  sha256 : String → String
  resolveWorktree : String → String → String

def sortRecords {α : Type} (host : RuntimeHost) (stamp name : α → String) (records : List α) :
    List α :=
  records.insertionSort fun left right =>
    ((host.localeCompare (stamp left) (stamp right)).then
      (host.localeCompare (name left) (name right))) ≠ .gt

def GroupWorld.records (host : RuntimeHost) (world : GroupWorld) :
    Except String DurableGroupRecords := do
  let runtimes ← world.plan.sessions.mapM fun session =>
    orError (world.sessions session.sessionId) "ENOENT"
  return {
    runtimes
    deliveries := world.plan.sessions.filterMap fun session => world.deliveries session.sessionId
    integrations := sortRecords host (·.createdAt) (·.integrationRunId) world.integrations
    verifications := sortRecords host (·.startedAt) (·.verificationRunId) world.verifications
    failures := world.failures
    repairs := world.repairs }

def appendGroupEvent (events : List GroupEvent) (event : GroupEvent) :
    Except String (List GroupEvent) :=
  match events.find? fun candidate => candidate.eventId = event.eventId with
  | some existing =>
    if existing = event then .ok events
    else .error s!"event id {event.eventId} was reused with different content"
  | none =>
    if event.sequence = events.length + 1 then .ok (events ++ [event])
    else .error s!"event {event.eventId} sequence must be {events.length + 1}; got {event.sequence}"

/-- A question to Git, which may fail. -/
def GroupEnvironment.git {α : Type} (environment : GroupEnvironment) (answer : Except String α) :
    Except String α :=
  match environment.gitFailure with
  | some message => .error message
  | none => answer

/-- **What a call does.** -/
def GroupWorld.answer (host : RuntimeHost) (environment : GroupEnvironment) (world : GroupWorld) :
    (call : GroupCall) → Except String (GroupReply call) × GroupWorld
  | .loadPlan groupId =>
    (if groupId = world.plan.definition.groupId then .ok world.plan else .error "ENOENT", world)
  | .temporaries => (.ok (world.temporaries.map Prod.fst), world)
  | .removeTemporary temporary =>
    (.ok (), { world with temporaries := world.temporaries.filter fun other =>
      other.1 ≠ temporary })
  | .createTemporary state =>
    (.ok world.nextTemporary,
      { world with
        temporaries := world.temporaries ++ [(world.nextTemporary, state)]
        nextTemporary := world.nextTemporary + 1 })
  | .renameTemporary temporary =>
    match world.temporaries.find? fun other => other.1 = temporary with
    | some (_, state) =>
      (.ok (), { world with
        state
        temporaries := world.temporaries.filter fun other => other.1 ≠ temporary
        headIsPending :=
          world.headIsPending && state.integrationSha = world.state.integrationSha })
    | none => (.error "ENOENT", world)
  | .loadState => (.ok world.state, world)
  | .readEvents => (.ok world.events, world)
  | .appendEvent event =>
    match appendGroupEvent world.events event with
    | .ok events => (.ok (), { world with events })
    | .error message => (.error message, world)
  | .enterRecordQueue =>
    (.ok (), { world with memory := { world.memory with recording := true } })
  | .leaveRecordQueue =>
    (.ok (), { world with memory := { world.memory with recording := false } })
  | .loadSession sessionId => (orError (world.sessions sessionId) "ENOENT", world)
  | .writeSession _ next =>
    (.ok (), { world with sessions := Function.update world.sessions next.sessionId (some next) })
  | .loadDelivery sessionId => (.ok (world.deliveries sessionId), world)
  | .writeDelivery delivery =>
    (.ok (), { world with
      deliveries := Function.update world.deliveries delivery.sessionId (some delivery) })
  | .writeIntegration record =>
    (.ok (), { world with
      integrations := replaceRecord (·.integrationRunId) world.integrations record
      headIsPending := world.headIsPending || record.status = .merged ||
        world.integrations.any fun other =>
          other.status = .merged && other.integrationRunId = record.integrationRunId })
  | .writeVerification run =>
    (.ok (), { world with
      verifications := replaceRecord (·.verificationRunId) world.verifications run })
  | .loadRecords => (world.records host, world)
  | .activeSessionIds => (.ok fun sessionId => (world.memory.supervised sessionId).isSome, world)
  | .launch runner =>
    (.ok (), { world with memory := { world.memory with
      supervised := Function.update world.memory.supervised runner.session.sessionId
        (some ⟨runner, false⟩) } })
  | .takeRunner sessionId =>
    match world.memory.supervised sessionId with
    | some ⟨runner, false⟩ =>
      (.ok runner, { world with memory := { world.memory with
        supervised := Function.update world.memory.supervised sessionId
          (some ⟨runner, true⟩) } })
    | _ => (.error "no prompt is waiting", world)
  | .putRunner runner =>
    (.ok (), { world with memory := { world.memory with
      supervised := Function.update world.memory.supervised runner.session.sessionId
        (some ⟨runner, false⟩) } })
  | .settle sessionId =>
    (.ok (), { world with memory := { world.memory with
      supervised := Function.update world.memory.supervised sessionId none } })
  | .startExecutor session =>
    (environment.start, { world with log := world.log ++ [.executorStarted session.sessionId] })
  | .promptProgress _ => (.ok environment.prompt, world)
  | .activeExecutor _ => (.ok environment.active, world)
  | .respondPermission _ => (environment.acknowledged, world)
  | .cancelExecutor _ => (environment.acknowledged, world)
  | .closeExecutor _ => (environment.acknowledged, world)
  | .verifyDelivery _ delivery =>
    match environment.gate with
    | .ok gate =>
      (.ok gate, { world with log := world.log ++ [.gateVerdict delivery gate.Accepts] })
    | .error message => (.error message, world)
  | .materialize _ _ => (environment.delivery, world)
  | .currentBranch => (environment.branch, world)
  | .currentHead => (environment.git (.ok world.repository.head), world)
  | .branchHead branch =>
    (environment.git (orError (world.repository.branchHeads branch) "git rev-parse failed (128)"),
      world)
  | .statusClean => (environment.clean, world)
  | .merge branch =>
    match environment.gitFailure with
    | some message => (.error message, world)
    | none =>
      let merged := world.repository.merge branch environment.merge
      (merged.1, { world with repository := merged.2 })
  | .resetTo sha =>
    match environment.gitFailure with
    | some message => (.error message, world)
    | none => (.ok (), { world with repository := { world.repository with head := sha } })
  | .postMergeCheck _ => (environment.check, world)
  | .commitWork branch sha =>
    let committed := world.repository.commitWork branch sha
    (committed.1, { world with repository := committed.2 })
  | .verificationCommands => (environment.commands, world)
  | .runCommand _ => (environment.run, world)
  | .now => (.ok environment.now, world)
  | .randomUUID => (.ok environment.randomUUID, world)
  | .platform => (.ok environment.platform, world)

def GroupCall.waits (world : GroupWorld) : GroupCall → Bool
  | .enterRecordQueue => world.memory.recording
  | _ => false

def performCall (host : RuntimeHost) (environment : GroupEnvironment) (world : GroupWorld)
    (call : GroupCall) : Option (Except String (GroupReply call) × GroupWorld) :=
  if call.waits world then none else some (world.answer host environment call)

def Answers (host : RuntimeHost) (world : GroupWorld) (call : GroupCall)
    (reply : Except String (GroupReply call)) (after : GroupWorld) : Prop :=
  ∃ environment, world.answer host environment call = (reply, after)

theorem answers_of_performCall {host : RuntimeHost} {environment : GroupEnvironment}
    {world after : GroupWorld} {call : GroupCall} {reply : Except String (GroupReply call)}
    (performed : performCall host environment world call = some (reply, after)) :
    Answers host world call reply after := by
  unfold performCall at performed
  split at performed
  · cases performed
  · exact ⟨environment, Option.some.inj performed⟩

/-! ## Programs -/

/-- What the runtime throws: it refuses where a precondition does not hold, and fails where a call
does. -/
inductive GroupError where
  | refused (message : String)
  | failed (message : String)

def GroupError.text : GroupError → String
  | refused message | failed message => s!"Error: {message}"

/-- **Programs of the runtime.** -/
abbrev GroupProgram (α : Type) := Program GroupCall GroupReply GroupError α

def ask (call : GroupCall) : GroupProgram (GroupReply call) := .perform .failed call

def refuse {α : Type} (message : String) : GroupProgram α := .thrown (.refused message)

def insist (condition : Prop) [Decidable condition] (message : String) : GroupProgram Unit :=
  if condition then pure () else refuse message

/-- The value of an option; refuse where there is none. -/
def demand {α : Type} (option : Option α) (message : String) : GroupProgram α :=
  match option with
  | some value => pure value
  | none => refuse message

/-- The value of a computation; its error is the one that is made of its message. -/
def given {α : Type} (raise : String → GroupError) (result : Except String α) : GroupProgram α :=
  .ofExcept raise result

/-- Run a program and take what it throws as a value. -/
def attempt {α : Type} (program : GroupProgram α) : GroupProgram (Except GroupError α) :=
  (do return Except.ok (← program)).catching fun error => return Except.error error

end Zero3Pilot.GroupRuntime
