import Std.Data.ExtTreeMap
import Mathlib.Data.Prod.Basic
import Zero3Pilot.Foundations.Checks
import Zero3Pilot.Foundations.Json
import Zero3Pilot.Foundations.Machine
import Zero3Pilot.Foundations.Uuid

/-! # The outbox of the Remote Host

`Zero3RemoteOutbox` of `host-runtime/remote-outbox.ts`: pending envelopes, quarantined envelopes and
event cursors, each a directory of files, and the operations on them as the durable steps they
consist of. A process may stop between any two steps and be started again; its position within
`enqueueEvent` is all it loses.

`createdAt` is the text of `toISOString` and a delivery identifier that of `randomUUID`; on such
texts `localeCompare` is the order of their characters. Sequences are natural numbers: they are
read back only as safe integers, so that one more than a sequence is exact. -/

namespace Zero3Pilot.RemoteHost

inductive TerminalState where
  | succeeded
  | failed
  | cancelled
  | blocked
  | outcomeUnknown
  | quarantined

inductive EnvelopeKind where
  | event (eventSequence : Nat) (eventType : String) (payload : Json)
  | terminal (state : TerminalState) (result : Json)

structure OutboxEnvelope where
  (deliveryId taskId executionId leaseId : String)
  fencingToken : Nat
  createdAt : String
  kind : EnvelopeKind

/-- The identity an envelope is enqueued under: the fields of `Zero3RemoteLease` the outbox reads. -/
structure OutboxLease where
  (taskId executionId leaseId : String)
  fencingToken : Nat

structure CursorFile where
  (taskId executionId : String)
  lastSequence : Nat
deriving DecidableEq

def maxOutboxEntries : Nat := 2048

def maxSafeInteger : Nat := 9007199254740991

namespace OutboxEnvelope

def pair (envelope : OutboxEnvelope) : String × String := (envelope.taskId, envelope.executionId)

def eventSequence? (envelope : OutboxEnvelope) : Option Nat :=
  match envelope.kind with
  | .event eventSequence _ _ => some eventSequence
  | .terminal .. => none

end OutboxEnvelope

/-! ## Reading the pending directory -/

def isDeliveryIdChar (char : Char) : Bool :=
  char.isDigit || ['a', 'b', 'c', 'd', 'e', 'f', 'A', 'B', 'C', 'D', 'E', 'F', '-'].contains char

/-- The delivery identifier pattern `/^[0-9a-f-]{36}$/i`. -/
def isDeliveryId (text : String) : Bool :=
  text.toList.length = 36 && text.toList.all isDeliveryIdChar

/-- The checks `parseEnvelope` makes of the two kinds of envelope. -/
def checkKind (file : String) : EnvelopeKind → Except String Unit
  | .event eventSequence eventType _ =>
    ensure (eventSequence ≤ maxSafeInteger ∧ 1 ≤ eventSequence ∧ eventType ≠ "")
      ("invalid Zero3 Remote Host event envelope: " ++ file)
  | .terminal .. => .ok ()

def parseEnvelope (envelope : OutboxEnvelope) : Except String OutboxEnvelope := do
  let file := envelope.deliveryId ++ ".json"
  ensure (isDeliveryId envelope.deliveryId ∧ envelope.taskId ≠ "" ∧ envelope.executionId ≠ "" ∧
      envelope.leaseId ≠ "" ∧ envelope.fencingToken ≤ maxSafeInteger)
    ("invalid Zero3 Remote Host outbox envelope fields: " ++ file)
  checkKind file envelope.kind
  return envelope

def compareEnvelopes (left right : OutboxEnvelope) : Ordering :=
  match compare left.createdAt right.createdAt with
  | .eq =>
    if left.taskId = right.taskId ∧ left.executionId = right.executionId then
      match left.kind, right.kind with
      | .event leftSequence _ _, .event rightSequence _ _ => compare leftSequence rightSequence
      | .event .., .terminal .. => .lt
      | .terminal .., .event .. => .gt
      | .terminal .., .terminal .. => compare left.deliveryId right.deliveryId
    else compare left.deliveryId right.deliveryId
  | byTime => byTime

/-- `list` over the pending files in the order the directory is read: parse all, then sort. -/
def listEnvelopes (files : List OutboxEnvelope) : Except String (List OutboxEnvelope) := do
  let envelopes ← files.mapM parseEnvelope
  return envelopes.mergeSort fun left right => compareEnvelopes left right ≠ .gt

/-! ## The outbox -/

inductive Process where
  /-- Between two operations. -/
  | idle
  /-- In `enqueueEvent`, between `persist` and `writeCursor`. -/
  | awaitingCursor (cursor : CursorFile)
  /-- Not running. -/
  | stopped

/-- The directories of the outbox, with the process that works on them. -/
structure Outbox where
  pending : Std.ExtTreeMap String OutboxEnvelope compare
  quarantine : Std.ExtTreeMap String (OutboxEnvelope × String) compare
  cursors : Std.ExtTreeMap String CursorFile compare
  process : Process

/-- Empty directories and a running process. -/
def Outbox.empty : Outbox := ⟨∅, ∅, ∅, .idle⟩

/-- What the outbox takes from elsewhere: `safeKey`, the digest that names a cursor file, and
whether the text of an envelope is within the local size limit. -/
structure OutboxConfig where
  safeKey : String → String → String
  fits : OutboxEnvelope → Bool

variable (config : OutboxConfig)

/-- `readCursor`: zero without a file, else the file's value if it is a cursor of this execution. -/
def Outbox.readCursor (outbox : Outbox) (taskId executionId : String) : Except String Nat :=
  match outbox.cursors[config.safeKey taskId executionId]? with
  | none => .ok 0
  | some cursor => do
    ensure (cursor.taskId = taskId ∧ cursor.executionId = executionId ∧
        cursor.lastSequence ≤ maxSafeInteger)
      ("invalid Zero3 Remote Host event cursor: " ++ config.safeKey taskId executionId ++ ".json")
    return cursor.lastSequence

def Outbox.writeCursor (outbox : Outbox) (cursor : CursorFile) : Outbox :=
  { outbox with
    cursors := outbox.cursors.insert (config.safeKey cursor.taskId cursor.executionId) cursor }

def Outbox.pendingFiles (outbox : Outbox) : List OutboxEnvelope :=
  outbox.pending.toList.map (·.2)

/-- The loop of `nextEventSequence`: the largest event sequence of an execution that is pending. -/
def pendingMaximum (taskId executionId : String) (envelopes : List OutboxEnvelope) : Nat :=
  envelopes.foldl (fun maximum envelope =>
    match envelope.kind with
    | .event eventSequence _ _ =>
      if envelope.taskId = taskId ∧ envelope.executionId = executionId ∧ maximum < eventSequence
      then eventSequence else maximum
    | .terminal .. => maximum) 0

def Outbox.nextEventSequence (outbox : Outbox) (taskId executionId : String) :
    Except String Nat := do
  let persisted ← outbox.readCursor config taskId executionId
  let envelopes ← listEnvelopes outbox.pendingFiles
  return max persisted (pendingMaximum taskId executionId envelopes) + 1

def Outbox.assertCapacity (outbox : Outbox) : Except String Unit :=
  ensure (outbox.pendingFiles.length < maxOutboxEntries)
    "Zero3 Remote Host outbox reached its 2048-entry safety limit"

/-- `persist`: the envelope is written to the file named by its delivery identifier. -/
def Outbox.persist (outbox : Outbox) (envelope : OutboxEnvelope) : Except String Outbox := do
  ensure (config.fits envelope) "Zero3 Remote Host outbox envelope exceeds the local size limit"
  return { outbox with pending := outbox.pending.insert envelope.deliveryId envelope }

/-- `enqueueEvent` up to and including `persist`. -/
def Outbox.enqueueEvent (outbox : Outbox) (lease : OutboxLease) (eventType : String)
    (payload : Json) (deliveryId : Uuid) (createdAt : String) :
    Except String (OutboxEnvelope × Outbox) := do
  outbox.assertCapacity
  let eventSequence ← outbox.nextEventSequence config lease.taskId lease.executionId
  let envelope : OutboxEnvelope := {
    deliveryId := deliveryId.text
    taskId := lease.taskId
    executionId := lease.executionId
    leaseId := lease.leaseId
    fencingToken := lease.fencingToken
    createdAt := createdAt
    kind := .event eventSequence eventType payload }
  let persisted ← outbox.persist config envelope
  let cursor : CursorFile := ⟨lease.taskId, lease.executionId, eventSequence⟩
  return (envelope, { persisted with process := .awaitingCursor cursor })

def Outbox.enqueueTerminal (outbox : Outbox) (lease : OutboxLease) (state : TerminalState)
    (result : Json) (deliveryId : Uuid) (createdAt : String) :
    Except String (OutboxEnvelope × Outbox) := do
  outbox.assertCapacity
  let envelope : OutboxEnvelope := {
    deliveryId := deliveryId.text
    taskId := lease.taskId
    executionId := lease.executionId
    leaseId := lease.leaseId
    fencingToken := lease.fencingToken
    createdAt := createdAt
    kind := .terminal state result }
  let persisted ← outbox.persist config envelope
  return (envelope, persisted)

/-- The check of `envelopeFile`. -/
def checkDeliveryId (deliveryId : String) : Except String Unit :=
  ensure (isDeliveryId deliveryId) "invalid Zero3 Remote Host outbox delivery id"

/-- `ack`: remove the file, if it is there. -/
def Outbox.ack (outbox : Outbox) (deliveryId : String) : Except String Outbox := do
  checkDeliveryId deliveryId
  return { outbox with pending := outbox.pending.erase deliveryId }

def Outbox.moveToQuarantine (outbox : Outbox) (deliveryId reason : String) :
    Except String Outbox := do
  checkDeliveryId deliveryId
  match outbox.pending[deliveryId]? with
  | none => return outbox
  | some envelope =>
    return { outbox with
      pending := outbox.pending.erase deliveryId
      quarantine := outbox.quarantine.insert deliveryId (envelope, reason) }

/-! ## The machine -/

/-- What happens to an outbox: the durable steps of its operations, and its process stopping and
starting. -/
inductive OutboxAction where
  | enqueueEvent (lease : OutboxLease) (eventType : String) (payload : Json) (deliveryId : Uuid)
      (createdAt : String)
  | writeCursor
  /-- The pending call of `enqueueEvent` fails to write the cursor and throws. -/
  | cursorFails (error : String)
  | enqueueTerminal (lease : OutboxLease) (state : TerminalState) (result : Json)
      (deliveryId : Uuid) (createdAt : String)
  | ack (deliveryId : String)
  | quarantine (deliveryId reason : String)
  | crash
  | restart

/-- What an action comes to. -/
inductive OutboxOutcome where
  | persisted (envelope : OutboxEnvelope)
  | done
  | failed (error : String)
  /-- The process is in no position to take the step. -/
  | unavailable

/-- The outcome of an operation that may fail, which changes nothing then. -/
def Outbox.settle (outbox : Outbox) : Except String Outbox → OutboxOutcome × Outbox
  | .ok after => (.done, after)
  | .error error => (.failed error, outbox)

def Outbox.settlePersist (outbox : Outbox) :
    Except String (OutboxEnvelope × Outbox) → OutboxOutcome × Outbox
  | .ok (envelope, after) => (.persisted envelope, after)
  | .error error => (.failed error, outbox)

/-- One step of the outbox. Operations start between two others; the second half of `enqueueEvent`
follows its first half, unless the process stops in between. -/
def Outbox.step (outbox : Outbox) (action : OutboxAction) : OutboxOutcome × Outbox :=
  match outbox.process, action with
  | _, .crash => (.done, { outbox with process := .stopped })
  | .stopped, .restart => (.done, { outbox with process := .idle })
  | .awaitingCursor cursor, .writeCursor =>
    (.done, { outbox.writeCursor config cursor with process := .idle })
  | .awaitingCursor _, .cursorFails error => (.failed error, { outbox with process := .idle })
  | .idle, .enqueueEvent lease eventType payload deliveryId createdAt =>
    outbox.settlePersist (outbox.enqueueEvent config lease eventType payload deliveryId createdAt)
  | .idle, .enqueueTerminal lease state result deliveryId createdAt =>
    outbox.settlePersist (outbox.enqueueTerminal config lease state result deliveryId createdAt)
  | .idle, .ack deliveryId => outbox.settle (outbox.ack deliveryId)
  | .idle, .quarantine deliveryId reason =>
    outbox.settle (outbox.moveToQuarantine deliveryId reason)
  | _, _ => (.unavailable, outbox)

/-- **The outbox as a machine.** -/
def outboxMachine : Machine Outbox OutboxAction OutboxOutcome where
  step := Outbox.step config

end Zero3Pilot.RemoteHost
