import Zero3Pilot.Execution.Runtime

/-! # The execution reporter

Executors report about their assignments: `Zero3ExecutionReporter` in `execution-runtime/reporter.ts`.
A report comes with a ticket of an assignment, is checked against the snapshot of its task, and is
answered at once where its event is in the ledger; elsewhere it becomes an operation of the runtime,
which is executed when it is its turn. A process may crash while an operation records its events;
what is in the ledgers then stays there.

The verification of tickets, dates, the conversion of numbers and the hash are parameters. The
progress number of an answer is left out. -/

namespace Zero3Pilot.Execution

open Procedure (check require read ofExcept fail)

/-! ## Reports and tickets -/

inductive ReportType where
  | sessionStarted | progressUpdated | artifactProduced | blocked | waitingHuman
  | completionRequested
  deriving DecidableEq

def ReportType.text : ReportType → String
  | .sessionStarted => "SESSION_STARTED"
  | .progressUpdated => "PROGRESS_UPDATED"
  | .artifactProduced => "ARTIFACT_PRODUCED"
  | .blocked => "BLOCKED"
  | .waitingHuman => "WAITING_HUMAN"
  | .completionRequested => "COMPLETION_REQUESTED"

def allReportTypes : List ReportType :=
  [.sessionStarted, .progressUpdated, .artifactProduced, .blocked, .waitingHuman,
    .completionRequested]

/-- `ExecutionAssignmentTicketPayload`, as far as it is checked against the snapshot. -/
structure Ticket where
  (ticketId taskId stepId assignmentId : String)
  executor : ExecutorTarget
  attempt : Nat
  (bindingId logicalSessionId : Option String)
  allowedReports : List ReportType

/-- `ExecutionReportEnvelope`. -/
structure Report where
  (reportId assignmentId ticket : String)
  type : ReportType
  payload : Json
  sentAt : Option String

structure ReporterPorts where
  verifyTicket : Int → String → Except String Ticket
  /-- The text `new Date(text).toISOString()`, where the text is a date. -/
  isoDate : String → Option String
  sha256 : List Char → String
  /-- `Number(value)`, where it is finite and between 0 and 1. -/
  unitNumber : ScriptValue → Option NumberLiteral
  /-- How values other than numbers convert to integers. -/
  coerce : Json → Option Int

/-! ## Checks of a report -/

def isIdChar (char : Char) : Bool :=
  char.isAlphanum || char = '.' || char = '_' || char = ':' || char = '-'

def requiredId (value : ScriptValue) (label : String) : Except String String := do
  let id := scriptTrim ((ScriptValue.text? value).getD "")
  ensure (id.toList ≠ [] ∧ id.toList.length ≤ 256 ∧ id.toList.all isIdChar) (label ++ " is invalid")
  return id

def requiredText (value : ScriptValue) (label : String) (max : Nat) : Except String String := do
  let given := scriptTrim ((ScriptValue.text? value).getD "")
  ensure (given ≠ "" ∧ utf16Length given ≤ max ∧ '\x00' ∉ given.toList) (label ++ " is invalid")
  return given

def optionalText (value : ScriptValue) (label : String) (max : Nat) :
    Except String (Option String) :=
  if value.isNullish ∨ ScriptValue.text? value = some "" then return none
  else return some (← requiredText value label max)

def plainRecord (value : ScriptValue) (label : String) : Except String Json :=
  match value with
  | some (.object members) => .ok (.object members)
  | _ => .error (label ++ " must be an object")

def reportType (value : ScriptValue) : Except String ReportType :=
  match allReportTypes.find? fun type => ScriptValue.text? value = some type.text with
  | some type => .ok type
  | none => .error "unsupported execution report type"

variable (ports : ReporterPorts)

def parseTimestamp (value : ScriptValue) (label : String) : Except String String := do
  let given ← requiredText value label 128
  match ports.isoDate given with
  | some date => .ok date
  | none => .error (label ++ " must be an ISO timestamp")

def optionalMember (name : String) (value : Option Json) : List (String × Json) :=
  (value.map fun value => (name, value)).toList

def Report.json (report : Report) : Json :=
  .object ([("protocol", .string "zero3.pilot.execution-report.v1"),
    ("reportId", .string report.reportId), ("assignmentId", .string report.assignmentId),
    ("ticket", .string report.ticket), ("type", .string report.type.text),
    ("payload", report.payload)] ++ optionalMember "sentAt" (report.sentAt.map .string))

def normalizeReport (value : ScriptValue) : Except String Report := do
  let input ← plainRecord value "execution report"
  ensure (ScriptValue.text? (input.get "protocol") = some "zero3.pilot.execution-report.v1")
    "unsupported execution report protocol"
  let reportId ← requiredId (input.get "reportId") "reportId"
  let assignmentId ← requiredId (input.get "assignmentId") "assignmentId"
  let ticket ← requiredText (input.get "ticket") "ticket" (32 * 1024)
  let type ← reportType (input.get "type")
  let payload ← plainRecord
    (if (input.get "payload").isNullish then some (.object []) else input.get "payload")
    "report payload"
  let sentAt ←
    if (input.get "sentAt").isTruthy then
      some <$> parseTimestamp ports (input.get "sentAt") "sentAt"
    else .ok none
  let report : Report := ⟨reportId, assignmentId, ticket, type, payload, sentAt⟩
  ensure ((String.ofList report.json.render).utf8ByteSize ≤ 256 * 1024)
    "execution report exceeds size limit"
  return report

def artifactPayload (payload : Json) : Except String Json := do
  let logicalName ← requiredText (payload.get "logicalName") "artifact logicalName" 512
  let artifactId ← optionalText (payload.get "artifactId") "artifactId" 256
  let pathOrUri ← optionalText (payload.get "pathOrUri") "artifact pathOrUri" 8192
  ensure (artifactId.isSome ∨ pathOrUri.isSome) "artifact report requires artifactId or pathOrUri"
  let hash ← optionalText (payload.get "hash") "artifact hash" 256
  let kind ← optionalText (payload.get "kind") "artifact kind" 128
  let mimeType ← optionalText (payload.get "mimeType") "artifact mimeType" 256
  let size := toInteger? ports.coerce (payload.get "sizeBytes")
  ensure ((payload.get "sizeBytes").isNullish ∨
      size.any fun size => 0 ≤ size ∧ size ≤ 9007199254740991)
    "artifact sizeBytes must be a non-negative safe integer"
  let sizeBytes := if (payload.get "sizeBytes").isNullish then none else size
  let metadata ←
    if (payload.get "metadata").isNullish then .ok none
    else some <$> plainRecord (payload.get "metadata") "artifact metadata"
  return .object ([("logicalName", .string logicalName)] ++
    optionalMember "artifactId" (artifactId.map .string) ++
    optionalMember "pathOrUri" (pathOrUri.map .string) ++
    optionalMember "hash" (hash.map .string) ++ optionalMember "kind" (kind.map .string) ++
    optionalMember "mimeType" (mimeType.map .string) ++
    optionalMember "sizeBytes" (sizeBytes.map fun size => .nat size.toNat) ++
    optionalMember "metadata" metadata)

def reportHash (report : Report) : String :=
  ports.sha256 (stableJson (.object [("assignmentId", .string report.assignmentId),
    ("type", .string report.type.text), ("payload", report.payload)]))

def reportEventId (reportId : String) : String := "report-" ++ reportId

/-! ## The assignment of a report -/

structure AssignmentScope where
  directory : TaskDirectory
  assignment : Assignment
  step : StepDefinition
  runtime : StepRuntime

def findScope (assignmentId : String) :
    List String → Procedure ExecutionStore String AssignmentScope
  | [] => fail "execution assignment was not found"
  | taskId :: taskIds => do
    let directory ← inTask taskId (loadSnapshot taskId)
    match directory.runtime.assignments.find? fun item => item.assignmentId = assignmentId with
    | none => findScope assignmentId taskIds
    | some assignment => do
      let missing := "execution assignment refers to missing step"
      let step ← require (directory.definition.step? assignment.stepId) missing
      let runtime ← require (directory.runtime.step? assignment.stepId) missing
      return ⟨directory, assignment, step, runtime⟩

def assertTicketScope (ticket : Ticket) : Procedure ExecutionStore String AssignmentScope := do
  let store ← read
  let scope ← findScope ticket.assignmentId (sortTexts (store.map (·.1)))
  check (scope.assignment.taskId = ticket.taskId ∧ scope.assignment.stepId = ticket.stepId ∧
      scope.assignment.executor = ticket.executor ∧ scope.assignment.attempt = ticket.attempt)
    "execution reporter ticket scope no longer matches assignment"
  check (scope.runtime.assignmentId = some ticket.assignmentId)
    "execution reporter ticket belongs to a stale assignment"
  match ticket.bindingId.filter fun bindingId => bindingId ≠ "" with
  | none => return scope
  | some bindingId => do
    let unavailable := "execution reporter ticket binding is no longer available"
    let binding ← require (scope.directory.runtime.sessionBindings.find? fun item =>
      item.bindingId = bindingId) unavailable
    check (binding.assignmentId = ticket.assignmentId) unavailable
    check (some binding.logicalSessionId = ticket.logicalSessionId)
      "execution reporter ticket session identity changed"
    check (binding.state ≠ .closed ∧ binding.state ≠ .lost)
      ("execution reporter session is " ++ binding.state.text)
    return scope

/-! ## Answers -/

def nextAction : StepStatus → String
  | .verifying => "WAIT_FOR_ZERO3_GATE"
  | .waitingHuman => "WAIT_FOR_HUMAN"
  | .fixRequired => "FIX_REQUIRED"
  | .blocked | .failed | .cancelled | .completed | .outcomeUnknown => "STOP"
  | _ => "CONTINUE"

structure ReportResult where
  duplicate : Bool
  (reportId taskId stepId assignmentId : String)
  reportType : ReportType
  taskStatus : TaskStatus
  stepStatus : StepStatus
  currentActivity : Option String
  nextAction : String

def resultFor (directory : TaskDirectory) (assignment : Assignment) (report : Report)
    (duplicate : Bool) : Except String ReportResult := do
  let step ← orError (directory.runtime.step? assignment.stepId)
    "execution step runtime disappeared"
  return {
    duplicate
    reportId := report.reportId
    taskId := assignment.taskId
    stepId := assignment.stepId
    assignmentId := assignment.assignmentId
    reportType := report.type
    taskStatus := directory.runtime.task.status
    stepStatus := step.status
    currentActivity := step.currentActivity
    nextAction := nextAction step.status }

def reportIdentity (report : Report) (ticket : Ticket) : EventIdentity where
  eventId := some (reportEventId report.reportId)
  payload := some (.object ([("reportId", .string report.reportId),
    ("reportType", .string report.type.text), ("reportHash", .string (reportHash ports report)),
    ("ticketId", .string ticket.ticketId)] ++ optionalMember "sentAt" (report.sentAt.map .string)))

def reportOperation (report : Report) (ticket : Ticket) : Except String Operation := do
  let identity := reportIdentity ports report ticket
  match report.type with
  | .sessionStarted => return .transitionStep ticket.taskId ticket.stepId .running none identity
  | .progressUpdated => do
    let progress ← orError (ports.unitNumber (report.payload.get "progress"))
      "progress must be between 0 and 1"
    let activity ← optionalText (report.payload.get "currentActivity") "currentActivity" 2048
    return .recordProgress ticket.taskId ticket.stepId (some progress) activity identity
  | .artifactProduced => do
    let artifact ← artifactPayload ports report.payload
    return .recordArtifact ticket.taskId ticket.stepId artifact identity
  | .blocked => do
    let reason ← requiredText (report.payload.get "reason") "blocked reason" 4096
    return .transitionStep ticket.taskId ticket.stepId .blocked (some reason) identity
  | .waitingHuman => do
    let reason ← requiredText (report.payload.get "reason") "waiting-human reason" 4096
    return .transitionStep ticket.taskId ticket.stepId .waitingHuman (some reason) identity
  | .completionRequested => return .requestCompletion ticket.taskId ticket.stepId identity

/-- A report whose operation waits for its turn. -/
structure PendingReport where
  report : Report
  assignment : Assignment
  operation : Operation

def closedForReports : List StepStatus :=
  [.verifying, .completed, .cancelled, .failed, .outcomeUnknown]

/-- `report(value)` up to its operation: the answer to a duplicate, or the operation of the report.
Nothing is written. -/
def beginReport (now : Int) (value : ScriptValue) :
    Procedure ExecutionStore String (ReportResult ⊕ PendingReport) := do
  let report ← ofExcept (normalizeReport ports value)
  let ticket ← ofExcept (ports.verifyTicket now report.ticket)
  check (ticket.assignmentId = report.assignmentId) "report assignment does not match ticket"
  check (report.type ∈ ticket.allowedReports) ("ticket does not allow " ++ report.type.text)
  let scope ← assertTicketScope ticket
  match scope.directory.events.find? fun event =>
      event.eventId = reportEventId report.reportId with
  | some existing => do
    check (ScriptValue.text? (existing.payload.get "reportHash") = some (reportHash ports report) ∧
        ScriptValue.text? (existing.payload.get "reportType") = some report.type.text)
      "reportId was reused with different report content"
    check (existing.sequence ≤ scope.directory.runtime.task.lastEventSequence)
      "execution snapshot requires recovery before this report can be replayed"
    let result ← ofExcept (resultFor scope.directory scope.assignment report true)
    return .inl result
  | none => do
    check (scope.runtime.status ∉ closedForReports)
      ("execution step does not accept new reports while " ++ scope.runtime.status.text)
    let operation ← ofExcept (reportOperation ports report ticket)
    return .inr ⟨report, scope.assignment, operation⟩

def finishReport (draw : Nat → String) (pending : PendingReport) :
    Procedure ExecutionStore String ReportResult := do
  let reply ← serve (pending.operation, draw)
  match reply with
  | .snapshot directory => ofExcept (resultFor directory pending.assignment pending.report false)
  | _ => fail "Cannot read properties of undefined (reading 'steps')"

/-! ## Recovery -/

/-- `ExecutionStoreReconcileResult`, apart from the recovered files. -/
structure ReconcileResult where
  taskId : String
  (eventCount stateEventSequence : Nat)
  needsSemanticReplay : Bool

def reconcile (taskId : String) : Procedure TaskDirectory String ReconcileResult := do
  let directory ← loadSnapshot taskId
  let sequence := directory.runtime.task.lastEventSequence
  let count := directory.events.length
  check (sequence ≤ count)
    ("runtime sequence " ++ toString sequence ++ " is ahead of event ledger " ++ toString count)
  return ⟨taskId, count, sequence, sequence < count⟩

/-- A task when an operation on it is interrupted: some of its events are in the ledger, and its
snapshot is the one the operation has found. -/
def TaskDirectory.interrupted (before after : TaskDirectory) (kept : Nat) : TaskDirectory :=
  { before with
    events := after.events.take (before.events.length + kept)
    archived := after.archived }

/-- A new task when its creation is interrupted: no event is in its snapshot yet. -/
def TaskDirectory.unrecorded (directory : TaskDirectory) (kept : Nat) : TaskDirectory :=
  { directory with
    runtime := { directory.runtime with
      task := { directory.runtime.task with lastEventSequence := 0 } }
    events := directory.events.take kept }

/-- **The tasks when an operation is interrupted** between recording its events, the given number of
which are in the ledger, and writing its snapshot. -/
def interrupted (before after : ExecutionStore) (kept : Nat) : ExecutionStore :=
  after.map fun entry =>
    match before.lookup entry.1 with
    | some directory => (entry.1, directory.interrupted entry.2 kept)
    | none => (entry.1, entry.2.unrecorded kept)

/-! ## The system -/

/-- The store, and the reports that wait for their turn. -/
structure System where
  store : ExecutionStore
  inFlight : List PendingReport

/-- What happens to the system. An operation may be interrupted by a crash with a number of its
events in the ledger. -/
inductive SystemInput where
  | call (operation : Operation) (draw : Nat → String) (crash : Option Nat)
  /-- A report arrives at an instant. -/
  | report (now : Int) (value : ScriptValue)
  | turn (index : Nat) (draw : Nat → String) (crash : Option Nat)
  /-- The process is started again. -/
  | restart

inductive SystemOutput where
  | replied (reply : Except String Reply)
  | answered (result : Except String ReportResult)
  /-- No answer yet, or none because of a crash. -/
  | silent

/-- **What happens when an operation is executed**: it is interrupted, or runs to its end. The
reports that wait are lost in a crash. -/
def System.execute {α : Type} (system : System) (procedure : Procedure ExecutionStore String α)
    (crash : Option Nat) (answer : Except String α → SystemOutput) : SystemOutput × System :=
  let ran := procedure system.store
  match crash with
  | some kept => (.silent, ⟨interrupted system.store ran.2 kept, []⟩)
  | none => (answer ran.1, { system with store := ran.2 })

def System.step (system : System) : SystemInput → SystemOutput × System
  | .call operation draw crash => system.execute (serve (operation, draw)) crash .replied
  | .report now value =>
    match (beginReport ports now value system.store).1 with
    | .ok (.inl result) => (.answered (.ok result), system)
    | .ok (.inr pending) => (.silent, { system with inFlight := system.inFlight ++ [pending] })
    | .error error => (.answered (.error error), system)
  | .turn index draw crash =>
    match system.inFlight[index]? with
    | none => (.silent, system)
    | some pending =>
      { system with inFlight := system.inFlight.eraseIdx index }.execute
        (finishReport draw pending) crash .answered
  | .restart => (.silent, { system with inFlight := [] })

/-- Runtime and reporter, with crashes. -/
def systemMachine : Machine System SystemInput SystemOutput := ⟨System.step ports⟩

end Zero3Pilot.Execution
