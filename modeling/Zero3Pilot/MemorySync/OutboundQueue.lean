import Zero3Pilot.Foundations.Machine
import Zero3Pilot.Foundations.Text
import Mathlib.Data.List.Forall2

/-! # The outbound queue

The two implementations of the queue of pending memory events: `SqliteSyncQueue` in
`crates/zero3-memory/src/sync_queue.rs`, here *native*, and `SqliteMemorySyncStore` in
`memory-sync-runtime/sqlite-sync-store.mjs`, here *script*. Both keep a row for each event in one
table. An operation is a transaction on the table; a process that restarts goes on as a new sender. -/

namespace Zero3Pilot.MemorySync

/-! ## Rows -/

inductive PendingState where
  | pending | sending | acked | conflict | rejected
  deriving DecidableEq

/-- An event in one of these states is settled. -/
def PendingState.IsFinal : PendingState → Prop
  | .acked | .conflict | .rejected => True
  | .pending | .sending => False

structure PendingRow where
  (eventId payload : String)
  state : PendingState
  retryCount : Nat
  lastError : Option String
  serverSequence : Option Int
  (createdAt updatedAt : Nat)
  /-- The column that the script implementation adds. -/
  sender : Option Nat
  deriving DecidableEq

/-- The table, its rows in the order in which they were inserted. -/
abbrev PendingTable := List PendingRow

def PendingRow.new (eventId payload : String) (now : Nat) : PendingRow :=
  ⟨eventId, payload, .pending, 0, none, none, now, now, none⟩

def PendingTable.get (table : PendingTable) (eventId : String) : Option PendingRow :=
  table.find? fun row => row.eventId = eventId

def PendingTable.update (table : PendingTable) (applies : PendingRow → Bool)
    (change : PendingRow → PendingRow) : PendingTable :=
  table.map fun row => if applies row then change row else row

def PendingTable.insertOrIgnore (table : PendingTable) (row : PendingRow) : PendingTable :=
  if (table.get row.eventId).isSome then table else table ++ [row]

/-- The rows that are waiting to be sent. -/
def PendingTable.pending (table : PendingTable) : PendingTable :=
  table.filter fun row => row.state = .pending

/-! ## Operations -/

inductive QueueOperation where
  | enqueue (eventId payload : String)
  | nextBatch (limit : Nat)
  | claimBatch (limit : Nat)
  | markSending (eventIds : List String)
  | markAcked (eventId : String) (sequence : Int)
  | markConflict (eventId error : String)
  | markRejected (eventId error : String)
  | resetInflight

/-- An operation of a sender at a time. -/
structure QueueCall where
  (sender now : Nat)
  operation : QueueOperation

inductive QueueReply where
  | enqueued (isNew : Bool)
  | batch (rows : List PendingRow)
  | done

/-- What an operation answers, and the table afterwards. -/
abbrev Served := Except String QueueReply × PendingTable

/-- A row is being sent. -/
def PendingRow.sending (now : Nat) (sender : Option Nat) (row : PendingRow) : PendingRow :=
  { row with state := .sending, sender := sender, retryCount := row.retryCount + 1, updatedAt := now }

def PendingRow.acknowledged (sequence : Int) (now : Nat) (row : PendingRow) : PendingRow :=
  { row with state := .acked, serverSequence := some sequence, lastError := none, updatedAt := now }

def PendingRow.refused (state : PendingState) (error : String) (now : Nat) (row : PendingRow) :
    PendingRow := { row with state := state, lastError := some error, updatedAt := now }

/-- Rows are marked one after another as being sent. -/
def PendingTable.markSending (table : PendingTable) (now : Nat) (sender : Option Nat)
    (eventIds : List String) : PendingTable :=
  eventIds.foldl (fun table eventId =>
    table.update (fun row => row.eventId = eventId && row.state = .pending) (.sending now sender)) table

/-! ### The native queue -/

namespace Native

def enqueue (now : Nat) (eventId payload : String) (table : PendingTable) : Served :=
  let eventId := trimWith isUnicodeWhitespace eventId
  if eventId = "" then (.error "event_id is required", table)
  else
    (.ok (.enqueued (table.get eventId).isNone), table.insertOrIgnore (.new eventId payload now))

def nextBatch (limit : Nat) (table : PendingTable) : List PendingRow :=
  (table.pending.mergeSort fun row other => row.createdAt ≤ other.createdAt).take limit

def markAcked (now : Nat) (eventId : String) (sequence : Int) (table : PendingTable) : Served :=
  if sequence < 1 then (.error "server sequence must be positive", table)
  else (.ok .done, table.update (fun row => row.eventId = eventId) (.acknowledged sequence now))

def markTerminal (now : Nat) (eventId : String) (state : PendingState) (error : String)
    (table : PendingTable) : Served :=
  (.ok .done, table.update (fun row => row.eventId = eventId) (.refused state error now))

def resetInflight (now : Nat) (table : PendingTable) : Served :=
  (.ok .done, table.update (fun row => row.state = .sending) fun row =>
    { row with state := .pending, updatedAt := now })

end Native

/-- **The native queue.** -/
def serveNative (call : QueueCall) (table : PendingTable) : Served :=
  match call.operation with
  | .enqueue eventId payload => Native.enqueue call.now eventId payload table
  | .nextBatch limit => (.ok (.batch (Native.nextBatch limit table)), table)
  | .claimBatch limit =>
    let batch := Native.nextBatch limit table
    (.ok (.batch batch), table.markSending call.now none (batch.map (·.eventId)))
  | .markSending eventIds => (.ok .done, table.markSending call.now none eventIds)
  | .markAcked eventId sequence => Native.markAcked call.now eventId sequence table
  | .markConflict eventId error => Native.markTerminal call.now eventId .conflict error table
  | .markRejected eventId error => Native.markTerminal call.now eventId .rejected error table
  | .resetInflight => Native.resetInflight call.now table

/-! ### The script queue -/

namespace Script

def enqueue (now : Nat) (eventId payload : String) (table : PendingTable) : Served :=
  if eventId = "" then (.error "event_id is required", table)
  else if (table.get eventId).any fun row => row.payload ≠ payload then
    (.error "event_id already belongs to a different payload", table)
  else
    (.ok (.enqueued (table.get eventId).isNone), table.insertOrIgnore (.new eventId payload now))

def batchBytes : Nat := 1536 * 1024

/-- The loop of `nextBatch`: rows are taken while they fit, and the first one always. -/
def takeFitting (bytes : Nat) (taken : Bool) : List PendingRow → List PendingRow
  | [] => []
  | row :: rows =>
    let bytes := bytes + (row.payload.utf8ByteSize + 1)
    if taken ∧ batchBytes < bytes then [] else row :: takeFitting bytes true rows

def nextBatch (limit : Nat) (table : PendingTable) : List PendingRow :=
  takeFitting 0 false (table.pending.take limit)

/-- The row has been in flight for more than a minute. -/
def stale (now : Nat) (row : PendingRow) : Bool := row.updatedAt + 60000 < now

/-- A row is to be sent again. -/
def released (row : PendingRow) : PendingRow := { row with state := .pending, sender := none }

def claimBatch (sender now limit : Nat) (table : PendingTable) : Served :=
  let table := table.update (fun row => row.state = .sending && stale now row) released
  let batch := nextBatch limit table
  (.ok (.batch batch), table.markSending now (some sender) (batch.map (·.eventId)))

def markAcked (now : Nat) (eventId : String) (sequence : Int) (table : PendingTable) : Served :=
  if 9007199254740991 < sequence.natAbs ∨ sequence < 1 then (.error "invalid server sequence", table)
  else (.ok .done, table.update (fun row => row.eventId = eventId) (.acknowledged sequence now))

def terminal (now : Nat) (eventId : String) (state : PendingState) (error : String)
    (table : PendingTable) : Served :=
  (.ok .done, table.update (fun row => row.eventId = eventId && row.state ≠ .acked)
    (.refused state error now))

def resetInflight (sender now : Nat) (table : PendingTable) : Served :=
  (.ok .done, table.update (fun row =>
    row.state = .sending && (row.sender = some sender || stale now row)) released)

end Script

/-- **The script queue.** -/
def serveScript (call : QueueCall) (table : PendingTable) : Served :=
  match call.operation with
  | .enqueue eventId payload => Script.enqueue call.now eventId payload table
  | .nextBatch limit => (.ok (.batch (Script.nextBatch limit table)), table)
  | .claimBatch limit => Script.claimBatch call.sender call.now limit table
  | .markSending eventIds => (.ok .done, table.markSending call.now (some call.sender) eventIds)
  | .markAcked eventId sequence => Script.markAcked call.now eventId sequence table
  | .markConflict eventId error => Script.terminal call.now eventId .conflict error table
  | .markRejected eventId error => Script.terminal call.now eventId .rejected error table
  | .resetInflight => Script.resetInflight call.sender call.now table

/-! ## Both queues -/

structure Queues where
  (native script : PendingTable)

/-- The answers of both queues. -/
structure QueueReplies where
  (native script : Except String QueueReply)

/-- **Both queues, served the same operations.** -/
def queuesMachine : Machine Queues QueueCall QueueReplies where
  step queues call :=
    let native := serveNative call queues.native
    let script := serveScript call queues.script
    (⟨native.1, script.1⟩, ⟨native.2, script.2⟩)

/-- Nothing has been enqueued. -/
def Queues.empty : Queues := ⟨[], []⟩

/-! ## Statements -/

def QueueCall.enqueued? (call : QueueCall) : Option (String × String) :=
  match call.operation with
  | .enqueue eventId payload => if eventId = "" then none else some (eventId, payload)
  | _ => none

def enqueuedIn (history : List (QueueCall × QueueReplies)) : List (String × String) :=
  history.filterMap fun entry => entry.1.enqueued?

def KeepsFirst (history : List (QueueCall × QueueReplies)) (table : PendingTable) : Prop :=
  ∀ eventId payload, (enqueuedIn history).lookup eventId = some payload →
    ∃ row, table.filter (fun row => row.eventId = eventId) = [row] ∧ row.payload = payload

/-- Who enqueues another payload under an identifier in use is told so by both queues. -/
def ReportsReuse (history : List (QueueCall × QueueReplies)) : Prop :=
  ∀ entry ∈ history, ∀ eventId payload, entry.1.enqueued? = some (eventId, payload) →
    (enqueuedIn history).lookup eventId ≠ some payload →
      (∃ error, entry.2.native = .error error) ∧ ∃ error, entry.2.script = .error error

def StaysSettled (table later : PendingTable) : Prop :=
  ∀ eventId row, table.get eventId = some row → row.state.IsFinal →
    ∃ row', later.get eventId = some row' ∧ row'.state = row.state

structure SameDelivery (row other : PendingRow) : Prop where
  eventId : row.eventId = other.eventId
  payload : row.payload = other.payload
  state : row.state = other.state
  retryCount : row.retryCount = other.retryCount
  lastError : row.lastError = other.lastError
  serverSequence : row.serverSequence = other.serverSequence
  createdAt : row.createdAt = other.createdAt

def Agree (native script : PendingTable) : Prop := List.Forall₂ SameDelivery native script

/-- **What is to hold of both queues** after a history, and of what becomes of them later. -/
structure Delivered (history : List (QueueCall × QueueReplies)) (queues later : Queues) : Prop where
  native : KeepsFirst history queues.native
  script : KeepsFirst history queues.script
  reports : ReportsReuse history
  nativeSettled : StaysSettled queues.native later.native
  scriptSettled : StaysSettled queues.script later.script
  agree : Agree queues.native queues.script

def batchSize : List PendingRow → Nat
  | [] => 0
  | row :: rows => row.payload.utf8ByteSize + 1 + batchSize rows

def FitBatch (rows : List PendingRow) : Prop :=
  rows.length ≤ 1 ∨ batchSize rows ≤ Script.batchBytes

/-- **A call that both queues treat alike and that unsettles nothing.** -/
def Orderly (queues : Queues) (call : QueueCall) : Prop :=
  match call.operation with
  /- An identifier has no white space around it and one payload, -/
  | .enqueue eventId payload => trimWith isUnicodeWhitespace eventId = eventId ∧
      ∀ row ∈ queues.script, row.eventId = eventId → row.payload = payload
  /- the batch that is claimed fits, it holds all that waits unless the clock has not gone back, and
  nothing has been in flight for more than a minute, -/
  | .claimBatch limit => FitBatch (queues.script.pending.take limit) ∧
      (queues.script.pending.length ≤ limit ∨
        queues.script.pending.Pairwise fun row other => row.createdAt ≤ other.createdAt) ∧
      ∀ row ∈ queues.script, row.state = .sending → Script.stale call.now row = false
  /- an acknowledgement comes to no event that has been refused, and its sequence is a safe integer, -/
  | .markAcked eventId sequence => sequence ≤ 9007199254740991 ∧
      ∀ row ∈ queues.script, row.eventId = eventId → row.state ≠ .conflict ∧ row.state ≠ .rejected
  /- a refusal comes to no event that is settled otherwise, -/
  | .markConflict eventId _ => ∀ row ∈ queues.script, row.eventId = eventId →
      row.state ≠ .acked ∧ row.state ≠ .rejected
  | .markRejected eventId _ => ∀ row ∈ queues.script, row.eventId = eventId →
      row.state ≠ .acked ∧ row.state ≠ .conflict
  /- and what is reset is in flight for the sender, or has been for more than a minute. -/
  | .resetInflight => ∀ row ∈ queues.script, row.state = .sending →
      row.sender = some call.sender ∨ Script.stale call.now row = true
  | .nextBatch _ | .markSending _ => True

end Zero3Pilot.MemorySync
