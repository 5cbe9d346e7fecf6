import Zero3Pilot.Failover.Executors

/-! # The failover runtime

`Zero3FailoverExecutorManager` in `executor-runtime/router/failover-runtime.ts` wraps the manager of
executor sessions: an execution that is started is bound to a controller and to the writer lease of its
workspace, and a prompt carries out what the controller decides when its executor fails. A switch hands
the lease over: it is made pending, a checkpoint is captured, stored and verified, the session is
closed, its replacement started, and the lease transferred.

The model is of one workspace. A prompt is a generator that is consumed event by event, and calls are
made one after another. What executors, Git, the file system and the random source answer is given with
the calls. -/

namespace Zero3Pilot.Failover

open Procedure (check require read modify ofExcept fail)

/-! ## The state -/

inductive LeaseState where
  | active | handoffPending
  deriving DecidableEq

structure WorkspaceWriterLease where
  (taskId executionId executorId : String)
  generation : Nat
  leaseNonce : String
  state : LeaseState
  deriving DecidableEq

/-- `Binding`: an execution with its controller, and the lease it holds as far as it knows. -/
structure Binding where
  identity : ExecutorTaskIdentity
  controller : Controller
  lease : WorkspaceWriterLease

/-- A prompt that is consumed: the locals of `prompt`, and of the turn it is in. -/
structure Prompting where
  (taskId executionId : String)
  (failureOrdinal lastSequence : Nat)
  /-- `continueAfterPolicyAction`: the turn was left, and another one follows. -/
  continues : Bool

def Prompting.key (prompting : Prompting) : String :=
  bindingKey prompting.taskId prompting.executionId

/-- **What the runtime has done**: a record for statements, that no call reads. -/
inductive Effect where
  /-- A controller is created for an execution. -/
  | bound (key : String)
  | forwarded (taskId executionId : String) (session : ExecutorSession)
      (lease : Option WorkspaceWriterLease)
  | decided (key eventId : String) (ordinal : Nat) (failure : ExecutorFailure) (nowMs : Nat)
      (controller : Controller) (action : FailoverAction)
  | switched (key executorId : String) (controller : Controller) (action : SwitchAction)
  | transferred (taskId executionId : String) (generation : Nat)
  /-- A success of an executor is recorded. -/
  | succeeded (key : String) (executorId : String)
  deriving DecidableEq

structure RuntimeState where
  sessions : String → Option ExecutorBinding
  bindings : String → Option Binding
  lease : Option WorkspaceWriterLease
  prompting : Option Prompting
  /-- What has been done, the newest first. -/
  effects : List Effect

def RuntimeState.initial (lease : Option WorkspaceWriterLease) : RuntimeState :=
  ⟨fun _ => none, fun _ => none, lease, none, []⟩

/-- A call, or a part of one. -/
abbrev RuntimeProcedure (α : Type) := Procedure RuntimeState String α

def RuntimeState.setSession (state : RuntimeState) (key : String) (session : Option ExecutorBinding) :
    RuntimeState := { state with sessions := Function.update state.sessions key session }

def RuntimeState.setBinding (state : RuntimeState) (key : String) (binding : Option Binding) :
    RuntimeState := { state with bindings := Function.update state.bindings key binding }

/-- The record with one more effect. -/
def RuntimeState.emit (state : RuntimeState) (effect : Effect) : RuntimeState :=
  { state with effects := effect :: state.effects }

/-! ## The manager of sessions -/

/-- `requireBinding(taskId, executionId)` of the manager. -/
def requireSession (key : String) : RuntimeProcedure ExecutorBinding := do
  let state ← read
  require (state.sessions key) ("no active executor session for task execution: " ++ key)

def bindSession (executorId : String) (identity : ExecutorTaskIdentity) (generation : Nat)
    (answer : Except String ExecutorSession) : RuntimeProcedure ExecutorSession := do
  let state ← read
  check (state.sessions identity.key).isNone
    ("task execution already has an active executor session: " ++ identity.key)
  let session ← ofExcept answer
  ofExcept (assertReturnedSession executorId generation session)
  modify fun state => state.setSession identity.key (some ⟨identity, executorId, session, []⟩)
  return session

def managerStart (executorId : String) (identity : ExecutorTaskIdentity)
    (starts : Except String ExecutorSession) : RuntimeProcedure ExecutorSession := do
  ofExcept (assertIdentity identity)
  bindSession executorId identity 1 starts

def managerStartFromHandoff (executorId : String) (identity : ExecutorTaskIdentity)
    (checkpoint : ExecutorHandoffCheckpointRef) (starts : Except String ExecutorSession) :
    RuntimeProcedure ExecutorSession := do
  ofExcept (assertHandoffCheckpoint checkpoint)
  ofExcept (assertGeneration (checkpoint.generation + 1))
  ofExcept (assertIdentity identity)
  bindSession executorId identity (checkpoint.generation + 1) starts

def managerResume (executorId : String) (identity : ExecutorTaskIdentity) (ref : ExecutorSession)
    (checkpoint : ExecutorHandoffCheckpointRef) (resumes : Except String ExecutorSession) :
    RuntimeProcedure ExecutorSession := do
  ofExcept (assertIdentity identity)
  ofExcept (assertGeneration ref.generation)
  ofExcept (assertHandoffCheckpoint checkpoint)
  check (checkpoint.generation = ref.generation)
    "handoff checkpoint generation must match the session generation"
  check (ref.executorId = executorId)
    "session reference executor does not match the selected executor"
  bindSession executorId identity ref.generation resumes

/-- `close(taskId, executionId)` of the manager: the session is forgotten also where its executor
throws. -/
def managerClose (key : String) (closes : Except String Unit) : RuntimeProcedure Unit := do
  let _ ← requireSession key
  (ofExcept closes).andFinally (modify fun state => state.setSession key none)

/-! ## The gate of the workspace -/

/-- Two leases are of one identity. -/
def WorkspaceWriterLease.matches (current expected : WorkspaceWriterLease) : Prop :=
  current.taskId = expected.taskId ∧ current.executionId = expected.executionId ∧
    current.executorId = expected.executorId ∧ current.generation = expected.generation ∧
    current.leaseNonce = expected.leaseNonce

instance (current expected : WorkspaceWriterLease) : Decidable (current.matches expected) :=
  inferInstanceAs (Decidable (_ ∧ _))

def requireMatch (expected : WorkspaceWriterLease) : RuntimeProcedure WorkspaceWriterLease := do
  let state ← read
  let current ← require state.lease "workspace writer lease is missing"
  check (current.matches expected) "workspace writer lease identity changed"
  return current

def acquire (identity : ExecutorTaskIdentity) (executorId : String) (generation : Nat)
    (nonce : String) (acquires : Except String Unit) : RuntimeProcedure WorkspaceWriterLease := do
  check (1 ≤ generation ∧ generation ≤ maxSafeInteger) "writer generation must be positive"
  ofExcept acquires
  let lease : WorkspaceWriterLease :=
    ⟨identity.taskId, identity.executionId, executorId, generation, nonce, .active⟩
  modify fun state => { state with lease := some lease }
  return lease

def beginHandoff (expected : WorkspaceWriterLease) (writes : Except String Unit) :
    RuntimeProcedure WorkspaceWriterLease := do
  let current ← requireMatch expected
  ofExcept writes
  let pending := { current with state := .handoffPending }
  modify fun state => { state with lease := some pending }
  return pending

structure HandoffVerification where
  reasons : List String
  (taskId executionId checkpointHash : String)
  generation : Nat

def acceptHandoff (expected : WorkspaceWriterLease) (nextExecutorId : String)
    (verification : HandoffVerification) (nonce : String) (writes : Except String Unit) :
    RuntimeProcedure WorkspaceWriterLease := do
  let current ← requireMatch expected
  check (current.state = .handoffPending) "handoff must be pending before writer transfer"
  check (verification.reasons = []) "handoff verification must accept before writer transfer"
  check (verification.taskId = current.taskId ∧ verification.executionId = current.executionId)
    "handoff verification identity does not match writer lease"
  check (verification.checkpointHash.length = 64) "handoff verification must bind a checkpoint hash"
  check (verification.generation = current.generation + 1)
    "writer transfer must increment generation exactly once"
  ofExcept writes
  let next : WorkspaceWriterLease :=
    { current with
      executorId := nextExecutorId
      generation := verification.generation
      leaseNonce := nonce
      state := .active }
  modify fun state => ({ state with lease := some next }).emit
    (.transferred current.taskId current.executionId verification.generation)
  return next

def release (expected : WorkspaceWriterLease) (unlinks : Except String Unit) :
    RuntimeProcedure Unit := do
  let _ ← requireMatch expected
  ofExcept unlinks
  modify fun state => { state with lease := none }

/-! ## Starting and closing -/

variable (config : FailoverConfig)

/-- What a start is answered with by others: the session, whether the lease is read and written and the
session closed, and the nonce of the lease. -/
structure StartAnswers where
  session : Except String ExecutorSession
  (reads acquires : Except String Unit)
  nonce : String
  closes : Except String Unit

def WorkspaceWriterLease.Authorises (lease : WorkspaceWriterLease) (taskId executionId : String)
    (session : ExecutorSession) : Prop :=
  lease.taskId = taskId ∧ lease.executionId = executionId ∧ lease.executorId = session.executorId ∧
    lease.generation = session.generation ∧ lease.state = .active

instance (lease : WorkspaceWriterLease) (taskId executionId : String) (session : ExecutorSession) :
    Decidable (lease.Authorises taskId executionId session) := inferInstanceAs (Decidable (_ ∧ _))

def bindLease (executorId : String) (identity : ExecutorTaskIdentity) (session : ExecutorSession)
    (answers : StartAnswers) : RuntimeProcedure WorkspaceWriterLease := do
  ofExcept answers.reads
  let state ← read
  match state.lease with
  | some lease => do
    check (lease.Authorises identity.taskId identity.executionId
        { session with executorId := executorId })
      "existing workspace writer lease does not match resumed failover authority"
    return lease
  | none => acquire identity executorId session.generation answers.nonce answers.acquires

def bind (executorId : String) (identity : ExecutorTaskIdentity) (session : ExecutorSession)
    (answers : StartAnswers) : RuntimeProcedure Unit :=
  -- an executor that is no candidate is left alone
  if executorId ∉ config.candidates then return ()
  else do
    let lease ← bindLease executorId identity session answers
    let controller ← ofExcept (Controller.create config executorId session.generation)
    modify fun state =>
      (state.setBinding identity.key (some ⟨identity, controller, lease⟩)).emit (.bound identity.key)

/-- A session is started and bound; where it cannot be bound, it is closed. -/
def bindStarted (executorId : String) (identity : ExecutorTaskIdentity) (answers : StartAnswers)
    (starts : RuntimeProcedure ExecutorSession) : RuntimeProcedure Unit := do
  let session ← starts
  (bind config executorId identity session answers).onError
    (managerClose identity.key answers.closes)

def start (executorId : String) (identity : ExecutorTaskIdentity) (answers : StartAnswers) :
    RuntimeProcedure Unit :=
  bindStarted config executorId identity answers (managerStart executorId identity answers.session)

def startFromHandoff (executorId : String) (identity : ExecutorTaskIdentity)
    (checkpoint : ExecutorHandoffCheckpointRef) (answers : StartAnswers) : RuntimeProcedure Unit :=
  bindStarted config executorId identity answers
    (managerStartFromHandoff executorId identity checkpoint answers.session)

def resume (executorId : String) (identity : ExecutorTaskIdentity) (ref : ExecutorSession)
    (checkpoint : ExecutorHandoffCheckpointRef) (answers : StartAnswers) : RuntimeProcedure Unit :=
  bindStarted config executorId identity answers
    (managerResume executorId identity ref checkpoint answers.session)

/-- What a close is answered with by others: whether the session is closed, and the lease read and
unlinked. -/
structure CloseAnswers where
  (closes reads unlinks : Except String Unit)

def releaseOwn (taskId executionId : String) (answers : CloseAnswers) : RuntimeProcedure Unit := do
  ofExcept answers.reads
  let state ← read
  match state.lease with
  | some current =>
    if current.taskId = taskId ∧ current.executionId = executionId then
      release current answers.unlinks
    else return ()
  | none => return ()

def forgetBinding (taskId executionId : String) (isBound : Bool) (answers : CloseAnswers) :
    RuntimeProcedure Unit := do
  bif isBound then releaseOwn taskId executionId answers else pure ()
  modify fun state => state.setBinding (bindingKey taskId executionId) none

def close (taskId executionId : String) (answers : CloseAnswers) : RuntimeProcedure Unit := do
  let state ← read
  let key := bindingKey taskId executionId
  (managerClose key answers.closes).andFinally
    (forgetBinding taskId executionId (state.bindings key).isSome answers)

/-! ## Prompts -/

/-- What the awaits of a switch are answered with by others. -/
structure HandoffAwaits where
  (begins captures : Except String Unit)
  /-- The hash of the checkpoint that is built, and the fingerprint of its workspace. -/
  builds : Except String (String × String)
  (saves recaptures : Except String Unit)
  /-- The reasons of the verification to reject the checkpoint. -/
  reasons : List String
  closes : Except String Unit
  starts : Except String ExecutorSession
  accepts : Except String Unit
  nonce : String

def requireBinding (taskId executionId : String) : RuntimeProcedure Binding := do
  let state ← read
  require (state.bindings (bindingKey taskId executionId))
    ("automatic failover binding is unavailable for " ++ taskId ++ "/" ++ executionId)

def control {α : Type} (taskId executionId : String) (procedure : ControllerProcedure α) :
    RuntimeProcedure α := do
  let binding ← requireBinding taskId executionId
  let result := procedure binding.controller
  modify fun state =>
    state.setBinding (bindingKey taskId executionId) (some { binding with controller := result.2 })
  ofExcept result.1

def nextCandidate (current : String) : Option String :=
  if current ∈ config.candidates then
    (fallbacks config current).find? fun candidate => candidate ≠ current
  else none

def verifyHandoff (identity : ExecutorTaskIdentity) (checkpointHash : String)
    (previousGeneration : Nat) (reasons : List String) : HandoffVerification where
  reasons := reasons
  taskId := scriptTrim identity.taskId
  executionId := scriptTrim identity.executionId
  checkpointHash := checkpointHash
  generation := previousGeneration + 1

/-- A switch is given up. -/
def abortAndFail {α : Type} (taskId executionId eventId error : String) : RuntimeProcedure α := do
  control taskId executionId (abortSwitch eventId)
  fail error

def handoffEvidence (taskId executionId eventId : String) (binding : Binding) (generation : Nat)
    (awaits : HandoffAwaits) : RuntimeProcedure (HandoffVerification × String) := do
  ofExcept awaits.captures
  let evidence ← ofExcept awaits.builds
  ofExcept awaits.saves
  ofExcept awaits.recaptures
  let verification := verifyHandoff binding.identity evidence.1 generation awaits.reasons
  if verification.reasons ≠ [] then
    abortAndFail taskId executionId eventId
      ("handoff verification rejected: " ++ "; ".intercalate verification.reasons)
  else return (verification, evidence.2)

def recordCommit (key : String) : RuntimeProcedure Unit :=
  modify fun state =>
    match state.bindings key with
    | some binding => state.emit (.succeeded key binding.controller.currentExecutorId)
    | none => state

def replaceSession (taskId executionId eventId : String) (binding : Binding) (action : SwitchAction)
    (pending : WorkspaceWriterLease) (generation : Nat) (verification : HandoffVerification)
    (fingerprint : String) (awaits : HandoffAwaits) : RuntimeProcedure Unit := do
  let key := bindingKey taskId executionId
  managerClose binding.identity.key awaits.closes
  let next ← managerStartFromHandoff action.toExecutorId binding.identity
    ⟨handoffProtocol, verification.checkpointHash, generation, fingerprint⟩ awaits.starts
  if next.generation ≠ action.targetGeneration then
    abortAndFail taskId executionId eventId
      "new executor generation does not match planned failover generation"
  else do
    let lease ← acceptHandoff pending action.toExecutorId verification awaits.nonce awaits.accepts
    modify fun state =>
      { state with
        bindings := Function.update state.bindings key
          ((state.bindings key).map fun binding => { binding with lease := lease }) }
    control taskId executionId (commitVerifiedSwitch eventId verification.generation)
    recordCommit key

def verifiedSwitch (taskId executionId eventId : String) (action : SwitchAction)
    (awaits : HandoffAwaits) : RuntimeProcedure Unit := do
  let binding ← requireBinding taskId executionId
  let state ← read
  let active ← require (state.sessions binding.identity.key)
    "cannot handoff without an active executor binding"
  check (active.executorId = action.fromExecutorId ∧
      active.session.generation = binding.lease.generation)
    "active executor authority changed before handoff"
  modify fun state => state.emit
    (.switched (bindingKey taskId executionId) active.executorId binding.controller action)
  let pending ← beginHandoff binding.lease awaits.begins
  let verified ← handoffEvidence taskId executionId eventId binding active.session.generation awaits
  replaceSession taskId executionId eventId binding action pending active.session.generation
    verified.1 verified.2 awaits

/-- The turn is left, and another one follows. -/
def continueTurn : RuntimeProcedure Unit :=
  modify fun state =>
    { state with prompting := state.prompting.map fun prompting => { prompting with continues := true } }

/-- The identifier of a failure of a prompt. -/
def failureId (taskId executionId : String) (ordinal : Nat) (code : ExecutorFailureCode) : String :=
  taskId ++ ":" ++ executionId ++ ":failure:" ++ toString ordinal ++ ":" ++ code.text

def handoffSwitchId (eventId : String) : String := eventId ++ ":handoff-switch"

/-- What the controller decides of a failure is carried out. -/
def carryOut (taskId executionId eventId : String) (action : FailoverAction) (awaits : HandoffAwaits) :
    RuntimeProcedure Unit :=
  match action with
  | .retry _ _ _ => continueTurn
  | .switch action => do
    verifiedSwitch taskId executionId eventId action awaits
    continueTurn
  | .handoff fromExecutorId _ _ =>
    if config.automaticFailover then
      match nextCandidate config fromExecutorId with
      | none => return ()
      | some target => do
        let switchEventId := handoffSwitchId eventId
        let planned ← control taskId executionId (manualSwitch config switchEventId target)
        match planned with
        | .switch action => do
          verifiedSwitch taskId executionId switchEventId action awaits
          continueTurn
        | _ => return ()
    else return ()
  | _ => return ()

/-- A failure that reaches the controller. -/
def onFailureEvent (prompting : Prompting) (failure : ExecutorFailure) (nowMs : Nat)
    (awaits : HandoffAwaits) : RuntimeProcedure Unit := do
  let ordinal := prompting.failureOrdinal + 1
  modify fun state =>
    { state with
      prompting := state.prompting.map fun prompting => { prompting with failureOrdinal := ordinal } }
  let eventId := failureId prompting.taskId prompting.executionId ordinal failure.code
  let binding ← requireBinding prompting.taskId prompting.executionId
  let action ← control prompting.taskId prompting.executionId (onFailure config eventId failure nowMs)
  modify fun state =>
    state.emit (.decided prompting.key eventId ordinal failure nowMs binding.controller action)
  carryOut config prompting.taskId prompting.executionId eventId action awaits

def endPrompt : RuntimeProcedure Unit := modify fun state => { state with prompting := none }

def onSuccess (prompting : Prompting) : RuntimeProcedure Unit := do
  let binding ← requireBinding prompting.taskId prompting.executionId
  control prompting.taskId prompting.executionId
    (recordSuccess binding.controller.currentExecutorId)
  modify fun state =>
    state.emit (.succeeded prompting.key binding.controller.currentExecutorId)

def onCompleted (prompting : Prompting) (outcome : PromptOutcome) : RuntimeProcedure Unit :=
  if outcome = .succeeded then onSuccess prompting else return ()

def onEvent (prompting : Prompting) (event : ExecutorEvent) (nowMs : Nat) (awaits : HandoffAwaits) :
    RuntimeProcedure Unit := do
  let session ← requireSession prompting.key
  let accepted ← ofExcept (acceptEvent session prompting.lastSequence event)
  modify fun state =>
    { state.setSession prompting.key (some accepted) with
      prompting := some { prompting with lastSequence := event.sequence } }
  match event with
  | .failure _ failure => onFailureEvent config prompting failure nowMs awaits
  | .completed _ outcome => do
    onCompleted prompting outcome
    endPrompt
  | _ => return ()

/-- A turn begins: the input is forwarded to the session of the execution. -/
def forward (prompting : Prompting) : RuntimeProcedure Unit := do
  let session ← requireSession prompting.key
  modify fun state =>
    { state with prompting := some { prompting with lastSequence := 0, continues := false } }.emit
      (.forwarded prompting.taskId prompting.executionId session.session state.lease)

/-! ## Calls -/

inductive RuntimeCall where
  | start (executorId : String) (identity : ExecutorTaskIdentity) (answers : StartAnswers)
  | startFromHandoff (executorId : String) (identity : ExecutorTaskIdentity)
      (checkpoint : ExecutorHandoffCheckpointRef) (answers : StartAnswers)
  | resume (executorId : String) (identity : ExecutorTaskIdentity) (ref : ExecutorSession)
      (checkpoint : ExecutorHandoffCheckpointRef) (answers : StartAnswers)
  | close (taskId executionId : String) (answers : CloseAnswers)
  /-- `prompt` is called, and consumed up to its first turn. -/
  | prompt (taskId executionId : String)
  /-- The session emits an event. -/
  | event (event : ExecutorEvent) (nowMs : Nat) (awaits : HandoffAwaits)
  /-- The turn after a policy action begins. -/
  | again
  /-- The events of the turn end, or its session throws, or the prompt is no longer consumed. -/
  | leave

def consume (step : Prompting → RuntimeProcedure Unit) : RuntimeProcedure Unit := do
  let state ← read
  match state.prompting with
  | none => return ()
  | some prompting => (step prompting).onError endPrompt

/-- **The calls of the runtime.** -/
def serveCall : RuntimeCall → RuntimeProcedure Unit
  | .start executorId identity answers => start config executorId identity answers
  | .startFromHandoff executorId identity checkpoint answers =>
    startFromHandoff config executorId identity checkpoint answers
  | .resume executorId identity ref checkpoint answers =>
    resume config executorId identity ref checkpoint answers
  | .close taskId executionId answers => close taskId executionId answers
  | .prompt taskId executionId => do
    let _ ← requireBinding taskId executionId
    forward ⟨taskId, executionId, 0, 0, false⟩
  | .event event nowMs awaits => consume fun prompting =>
    -- no event is read once the turn is left
    if prompting.continues then return () else onEvent config prompting event nowMs awaits
  | .again => consume fun prompting =>
    if prompting.continues then forward prompting else return ()
  | .leave => endPrompt

abbrev runtimeMachine : Machine RuntimeState RuntimeCall (Except String Unit) :=
  Procedure.machine (serveCall config)

end Zero3Pilot.Failover
