import Zero3Pilot.Foundations.ScriptValue
import Zero3Pilot.JobScheduler.Manager

/-! # The jobs of the local node

The node executes the jobs of its manager: `execute_job` reads a job, logs its start, performs its action
behind the action gate, and logs the end. It is spawned by submissions, by the scheduler loop, and by the
reconciliation after a restart. The tasks of the process run concurrently, section by section; a call of the
manager holds its lock, and is one section.

How payloads are decoded and texts quoted is a parameter. Schedules are left to the database: which of them
are due, and whether one can be advanced, comes from outside. -/

namespace Zero3Pilot.JobScheduler

open ControlPlane (BTreeMap)

/-! ## The gate -/

/-- `PermissionLevel`, from the lowest to the highest. -/
inductive PermissionLevel where
  | readOnly | standard | elevated | fullControl

def PermissionLevel.rank : PermissionLevel → Nat
  | readOnly => 0
  | standard => 1
  | elevated => 2
  | fullControl => 3

def PermissionLevel.debug : PermissionLevel → String
  | readOnly => "ReadOnly"
  | standard => "Standard"
  | elevated => "Elevated"
  | fullControl => "FullControl"

structure ActionRequest where
  (actor action : String)
  requiredLevel : PermissionLevel
  reversible : Bool

inductive Decision where
  | allow | deny | requireApproval

/-- `DefaultPolicy.evaluate`. -/
def evaluate (granted : PermissionLevel) (request : ActionRequest) : Decision :=
  if request.requiredLevel.rank ≤ granted.rank then .allow
  else if request.reversible then .requireApproval
  else .deny

def actionGate (granted : PermissionLevel) (approved : Bool) (actor action : String)
    (requiredLevel : PermissionLevel) (reversible : Bool) : Except String Unit :=
  match evaluate granted ⟨actor, action, requiredLevel, reversible⟩ with
  | .allow => .ok ()
  | .deny =>
    .error ("policy denied " ++ actor ++ ":" ++ action ++ " at permission " ++ granted.debug)
  | .requireApproval =>
    if approved then .ok () else .error (actor ++ ":" ++ action ++ " requires explicit approval")

/-! ## Actions -/

inductive BrowserAction where
  | launch (executable : Option String) (headless : Bool)
  | connect (endpoint : String)
  | close
  | tabs
  | open_ (url : String)
  | navigate (url : String)
  | snapshot
  | query (selector : Json)
  | click (target : Json)
  | type (target : Json) (text : String)
  | pressKey (key : String)
  | scroll (deltaX deltaY : NumberLiteral)
  | wait (selector : Json) (timeoutMs : Option Nat)
  | screenshot
  | evaluate (expression : String)
  | readText

inductive ComputerAction where
  | listApps
  | screenshot (app : String)
  | click (app : String) (x y : Int)
  | type (app text : String)
  | keyPress (app key : String)

def browserPolicy : BrowserAction → String × PermissionLevel × Bool
  | .click _ | .type _ _ | .pressKey _ | .evaluate _ => ("browser.write", .elevated, true)
  | .launch _ _ | .connect _ | .open_ _ | .navigate _ | .close => ("browser.session", .standard, true)
  | .tabs | .snapshot | .query _ | .scroll _ _ | .wait _ _ | .screenshot | .readText =>
    ("browser.read", .readOnly, true)

def computerPolicy : ComputerAction → String × PermissionLevel × Bool
  | .listApps | .screenshot _ => ("computer.read", .readOnly, true)
  | .click _ _ _ | .type _ _ | .keyPress _ _ => ("computer.write", .elevated, true)

structure ApprovalContext where
  grantedLevel : PermissionLevel := .standard
  approved : Bool := false

structure AgentRunRequest where
  (backend goal : String)
  context : Json
  approval : ApprovalContext

structure BrowserRunRequest where
  action : BrowserAction
  approval : ApprovalContext

structure ComputerRunRequest where
  action : ComputerAction
  approval : ApprovalContext

/-- How requests are read from payloads, and how a text is quoted in an error. -/
structure RequestCodec where
  agent : Json → Except String AgentRunRequest
  browser : Json → Except String BrowserRunRequest
  computer : Json → Except String ComputerRunRequest
  quote : String → String

inductive BackendAction where
  | dispatch (backend goal : String) (context : Json)
  | browser (action : BrowserAction)
  | computer (action : ComputerAction)

def unwrapScheduledPayload (payload : Json) : Json :=
  if (payload.get "schedule_id").isSome ∧ (payload.get "scheduled_for").isSome then
    (payload.get "payload").getD .null
  else payload

/-- **The action of a job**, when the gate accepts it with the approval in the payload. -/
def askedAction (codec : RequestCodec) (kind : String) (payload : Json) : Except String BackendAction :=
  let unwrapped := unwrapScheduledPayload payload
  if kind = "subagent" then do
    let request ← codec.agent unwrapped
    actionGate request.approval.grantedLevel request.approval.approved "subagent" "dispatch" .elevated true
    pure (.dispatch request.backend request.goal request.context)
  else if kind = "browser" then do
    let request ← codec.browser unwrapped
    let policy := browserPolicy request.action
    actionGate request.approval.grantedLevel request.approval.approved "browser" policy.1 policy.2.1
      policy.2.2
    pure (.browser request.action)
  else if kind = "computer" then do
    let request ← codec.computer unwrapped
    let policy := computerPolicy request.action
    actionGate request.approval.grantedLevel request.approval.approved "computer" policy.1 policy.2.1
      policy.2.2
    pure (.computer request.action)
  else .error ("unsupported local job kind " ++ codec.quote kind)

/-! ## The node -/

/-- The jobs, their log, and what has happened: the actions that were started, their results, and the jobs
that were running when the process stopped. -/
structure NodeWorld where
  jobs : BTreeMap JobRecord
  log : List Event
  acted : List (JobId × BackendAction)
  results : List (JobId × Except String Json)
  interrupted : List JobId

namespace NodeWorld

variable (world : NodeWorld)

def put (id : JobId) (event : Event) (job : JobRecord) : NodeWorld :=
  { world with log := world.log ++ [event], jobs := world.jobs.insert id job }

def create (kind : String) (payload : Json) (id : JobId) (append : Append) :
    Except JobManagerError JobId × NodeWorld :=
  match append.landed with
  | .error message => (.error (.eventLog message), world)
  | .ok () => (.ok id, world.put id (append.event none (.jobQueued id kind payload))
      (queuedRecord id kind payload none append.at_))

/-- `JobManager::start`, `complete`, `fail` and `cancel`. -/
def change (change : JobChange) (append : Append) : Except JobManagerError Unit × NodeWorld :=
  let transition := change.transition
  match requireStatus world.jobs transition.id transition.allowed transition.target with
  | .error error => (.error error, world)
  | .ok record =>
    match append.landed with
    | .error message => (.error (.eventLog message), world)
    | .ok () => (.ok (), world.put transition.id (append.event record.sessionId transition.event)
        (transition.apply append.at_ record))

def list : List JobRecord :=
  (world.jobs.toList.map Prod.snd).insertionSort fun job other => job.createdAt ≤ other.createdAt

def more (results : List (JobId × Except String Json)) (interrupted : List JobId) : NodeWorld :=
  { world with
    results := world.results ++ results
    interrupted := world.interrupted ++ interrupted }

end NodeWorld

structure DueTask where
  (scheduleId jobKind : String)
  payload : Json
  scheduledFor : String

def DueTask.envelope (task : DueTask) : Json :=
  .object [("schedule_id", .string task.scheduleId), ("scheduled_for", .string task.scheduledFor),
    ("payload", task.payload)]

/-- **The tasks of a process**, by how far they have got. -/
inductive Task where
  /-- An `execute_job` that has not run yet. -/
  | spawned (id : JobId)
  /-- It has read its job as queued. -/
  | reading (id : JobId) (record : JobRecord)
  | started (id : JobId) (record : JobRecord)
  | acting (id : JobId) (action : BackendAction)
  /-- It is about to log the end. -/
  | ending (id : JobId) (result : Except String Json)
  | submitted (id : JobId)
  | dispatching (due : List DueTask) (created : List JobId)
  | advancing (id : JobId) (due : List DueTask) (created : List JobId)
  /-- The scheduler loop spawns the jobs it was given. -/
  | spawning (ids : List JobId)
  | reconciling (records : List JobRecord)

/-- What a section meets: an append, an identifier that is drawn, whether a schedule is advanced, and what a
backend returns. -/
structure NodeEnvironment where
  append : Append
  id : JobId
  advanced : Except String Unit
  result : Except String Json

/-- The end of a job that was running when the process stopped. -/
def interruptedReason : String := "runtime restarted before completion; previous outcome is unknown"

/-- What `execute_job` logs at the end. -/
def endChange (id : JobId) : Except String Json → JobChange
  | .ok output => .complete id output
  | .error reason => .fail id reason

section Sections

variable (codec : RequestCodec) (world : NodeWorld) (environment : NodeEnvironment)

/-- **One section of a task**: the tasks it goes on with or spawns, and the world. -/
def runTask : Task → List Task × NodeWorld
  | .spawned id =>
    match world.jobs[id]? with
    | none => ([], world)
    | some record => if record.status = .queued then ([.reading id record], world) else ([], world)
  | .reading id record =>
    match world.change (.start id) environment.append with
    | (.ok (), after) => ([.started id record], after)
    | (.error _, after) => ([], after)
  | .started id record =>
    match askedAction codec record.kind record.payload with
    | .error error => ([.ending id (.error error)], world)
    | .ok action => ([.acting id action], { world with acted := world.acted ++ [(id, action)] })
  | .acting id _ => ([.ending id environment.result], world.more [(id, environment.result)] [])
  -- whether the end has been logged is not looked at
  | .ending id result => ([], (world.change (endChange id result) environment.append).2)
  | .submitted id => ([.spawned id], world)
  | .dispatching [] created => ([.spawning created], world)
  | .dispatching (task :: due) created =>
    match world.create task.jobKind task.envelope environment.id environment.append with
    | (.ok id, after) => ([.advancing id due created], after)
    | (.error _, after) => ([], after)
  | .advancing id due created =>
    match environment.advanced with
    | .ok () => ([.dispatching due (created ++ [id])], world)
    | .error _ => ([], world)
  | .spawning [] => ([], world)
  | .spawning (id :: ids) => ([.spawned id, .spawning ids], world)
  | .reconciling [] => ([], world)
  | .reconciling (record :: records) =>
    match record.status with
    | .queued => ([.spawned record.id, .reconciling records], world)
    | .running =>
      ([.reconciling records],
        (world.change (.fail record.id interruptedReason) environment.append).2)
    | .succeeded | .failed | .cancelled => ([.reconciling records], world)

end Sections

structure NodeState where
  world : NodeWorld
  tasks : List Task

def NodeState.empty : NodeState := ⟨⟨∅, [], [], [], []⟩, []⟩

/-- What happens next. -/
inductive NodeInput where
  /-- A submission creates a job. -/
  | submit (kind : String) (payload : Json) (id : JobId) (append : Append)
  | cancel (id : JobId) (append : Append)
  /-- The scheduler loop finds schedules that are due. -/
  | dispatchDue (due : List DueTask)
  | respawn (id : JobId)
  /-- A task runs its next section. -/
  | turn (position : Nat) (environment : NodeEnvironment)
  | stop

def NodeWorld.running (world : NodeWorld) : List JobId :=
  (world.list.filter fun record => record.status = .running).map JobRecord.id

/-- The process stops and starts again. -/
def NodeState.restart (state : NodeState) : NodeState :=
  let world := state.world
  match fromEvents world.log with
  | .error _ => ⟨{ world with jobs := ∅ }, []⟩
  | .ok jobs =>
    let recovered := { world.more [] world.running with jobs := jobs }
    ⟨recovered, [.reconciling recovered.list]⟩

/-- **One step of the node.** -/
def NodeState.step (codec : RequestCodec) (state : NodeState) : NodeInput → NodeState
  | .submit kind payload id append =>
    match state.world.create kind payload id append with
    | (.ok created, after) => ⟨after, .submitted created :: state.tasks⟩
    | (.error _, after) => ⟨after, state.tasks⟩
  | .cancel id append => ⟨(state.world.change (.cancel id) append).2, state.tasks⟩
  | .dispatchDue due => ⟨state.world, .dispatching due [] :: state.tasks⟩
  | .respawn id => ⟨state.world, .spawned id :: state.tasks⟩
  | .turn position environment =>
    match state.tasks[position]? with
    | none => state
    | some task =>
      let ran := runTask codec state.world environment task
      ⟨ran.2, ran.1 ++ state.tasks.eraseIdx position⟩
  | .stop => state.restart

/-- The node, whatever happens in whatever order. -/
def nodeMachine (codec : RequestCodec) : Machine NodeState NodeInput Unit where
  step state input := ((), state.step codec input)

end Zero3Pilot.JobScheduler
