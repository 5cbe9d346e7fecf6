import Zero3Pilot.Foundations.Checks
import Zero3Pilot.Foundations.Machine

/-! # Memory sync clients

`MemorySyncClient` of `memory-sync-runtime/memory-sync-client.mjs` over the polling socket of
`http-sync-socket.mjs` and the cursor and event cache of `sqlite-sync-store.mjs`. Several clients may
share one store; a step takes one client to its next await, and the steps of all clients come in any
order. The frames that this socket never emits are left out, and so is the delivery of pending events. -/

namespace Zero3Pilot.MemorySync

/-! ## Events and the store -/

/-- An event of a replay page. What is no object, or has no identifier, is one without identifier. -/
structure CommittedEvent where
  sequence : Int
  eventId : String
  projectId : Option String
  /-- The JSON of the event. -/
  payload : String
  deriving DecidableEq

def isSafeInteger (sequence : Int) : Bool := sequence.natAbs ≤ 9007199254740991

/-- The tables of the store that the replay uses. -/
structure SyncStore where
  /-- `memory_sync_state`: the last sequence of each client identifier. -/
  cursors : String → Option Int
  /-- `server_memory_events`. -/
  cached : List CommittedEvent

def SyncStore.cursor (store : SyncStore) (clientId : String) : Int := (store.cursors clientId).getD 0

def SyncStore.setCursor (store : SyncStore) (clientId : String) (sequence : Int) :
    Except String SyncStore := do
  ensure (isSafeInteger sequence ∧ 0 ≤ sequence) "invalid cursor"
  let cursor := ((store.cursors clientId).map fun last => max last sequence).getD sequence
  return { store with cursors := Function.update store.cursors clientId (some cursor) }

def SyncStore.cacheServerEvent (store : SyncStore) (event : CommittedEvent) :
    Except String SyncStore := do
  ensure (isSafeInteger event.sequence ∧ 1 ≤ event.sequence ∧ event.eventId ≠ "")
    "invalid committed event"
  match store.cached.find? fun known =>
      known.sequence = event.sequence ∨ known.eventId = event.eventId with
  | none => return { store with cached := store.cached ++ [event] }
  | some existing => do
    ensure (existing.sequence = event.sequence ∧ existing.eventId = event.eventId)
      "server event identity conflict"
    ensure (existing.payload = event.payload) "server event payload conflict"
    return store

/-! ## Sockets -/

inductive SocketTimer where
  | opening
  | poll
  deriving DecidableEq

/-- **The state of a socket** of `createHttpSyncSocket`. -/
structure HttpSocket where
  stopped : Bool
  cursor : Int
  projectId : Option String
  ready : Bool
  /-- The last sequence of the page whose acknowledgement is awaited. -/
  awaiting : Option Int
  timer : Option SocketTimer
  /-- The cursor that the client has read on opening and not sent yet. -/
  greeting : Option Int
  /-- The number of polls in flight. -/
  polls : Nat
  deriving DecidableEq

/-- A socket whose handlers have been set. -/
def HttpSocket.opening : HttpSocket := ⟨false, 0, none, false, none, some .opening, none, 0⟩

/-- `poll()`, up to its fetch. -/
def HttpSocket.poll (socket : HttpSocket) : HttpSocket :=
  if socket.stopped then socket else { socket with polls := socket.polls + 1 }

/-- `send` of a `hello` frame. -/
def HttpSocket.hello (socket : HttpSocket) (projects : List String) (lastSequence : Int) :
    Except String HttpSocket :=
  match projects with
  | [project] => .ok { socket with projectId := some project, cursor := lastSequence }.poll
  | _ => .error "HTTP sync requires one project per subscription"

/-- `send` of an `ack` frame. -/
def HttpSocket.ack (socket : HttpSocket) (sequence : Int) : Except String HttpSocket := do
  -- `null` is compared as zero
  ensure (isSafeInteger sequence ∧ sequence ≤ socket.awaiting.getD 0) "invalid replay ACK"
  let cursor := max socket.cursor sequence
  if socket.awaiting = some cursor then
    return { socket with cursor := cursor, awaiting := none, timer := some .poll }
  else return { socket with cursor := cursor }

def HttpSocket.close (socket : HttpSocket) : HttpSocket :=
  { socket with stopped := true, timer := none }

/-! ## Clients -/

/-- A frame that the socket emits. -/
inductive Frame where
  | events (page : List CommittedEvent)
  | ready (latestSequence : Int)

/-- How far `#applyCommitted` has come with an event: up to its first await and the three after it. -/
inductive ApplyPhase where
  | reading | caching | advancing | acknowledging
  deriving DecidableEq

/-- The `events` frame that is being processed: the events that are left, the first one in progress. -/
structure Handling where
  socket : Nat
  events : List CommittedEvent
  phase : ApplyPhase
  deriving DecidableEq

structure ClientConfig where
  clientId : String
  projects : List String

/-- **The state of a client.** Its sockets are numbered in the order in which they are made. -/
structure Client where
  stopped : Bool
  /-- The number of `start` calls that await `resetInflight`. -/
  starting : Nat
  connecting : Bool
  socket : Option Nat
  (reconnectTimer ready : Bool)
  /-- The frames chained to `#messageTail`, each with the socket that emitted it, the next one first. -/
  messages : List (Nat × Frame)
  handling : Option Handling
  sockets : Nat → Option HttpSocket
  nextSocket : Nat

/-- A client that has just been constructed. -/
def Client.initial : Client := ⟨true, 0, false, none, false, false, [], none, fun _ => none, 0⟩

/-- The state of a socket changes. -/
def Client.setSocket (client : Client) (number : Nat) (socket : HttpSocket) : Client :=
  { client with sockets := Function.update client.sockets number (some socket) }

def Client.closeSocket (client : Client) (number : Nat) : Client :=
  match client.sockets number with
  | some socket => client.setSocket number socket.close
  | none => client

def Client.scheduleReconnect (client : Client) : Client :=
  if client.stopped then client else { client with reconnectTimer := true }

def Client.onDisconnect (client : Client) (number : Nat) : Client :=
  if client.socket = some number then
    ({ client with socket := none, ready := false }.closeSocket number).scheduleReconnect
  else client

/-- `#connect()`, up to its await. -/
def Client.connect (client : Client) : Client :=
  if client.stopped ∨ client.connecting ∨ client.socket.isSome then client
  else { client with connecting := true }

/-- `start()`, up to its await. -/
def Client.start (client : Client) : Client :=
  if client.stopped then { client with stopped := false, starting := client.starting + 1 } else client

def Client.reset (client : Client) (answer : Except String Unit) : Client :=
  if client.starting = 0 then client
  else
    let client := { client with starting := client.starting - 1 }
    match answer with
    | .ok () => client.connect
    | .error _ => client

/-- `stop()`, up to its await. -/
def Client.stop (client : Client) : Client :=
  let client' := { client with stopped := true, ready := false, reconnectTimer := false, socket := none }
  match client.socket with
  | some number => client'.closeSocket number
  | none => client'

/-- The timer of `#scheduleReconnect` fires. -/
def Client.reconnect (client : Client) : Client :=
  if client.reconnectTimer then { client with reconnectTimer := false }.connect else client

/-- `socketFactory` has answered to `#connect()`. -/
def Client.connected (client : Client) (answer : Except String Unit) : Client :=
  if ¬ client.connecting then client
  else
    let client := { client with connecting := false }
    match answer with
    | .error _ => client.scheduleReconnect
    | .ok () =>
      let number := client.nextSocket
      let client := { client with nextSocket := number + 1 }
      if client.stopped then client.setSocket number HttpSocket.opening.close
      else { client.setSocket number .opening with socket := some number }

/-! ## The handlers of a socket -/

variable (config : ClientConfig)

/-- The timer of `onOpen` fires: `#onOpen(socket)`, up to its await; the store may throw. -/
def Client.opened (client : Client) (store : SyncStore) (number : Nat) (fault : Bool) : Client :=
  match client.sockets number with
  | none => client
  | some socket =>
    if socket.timer ≠ some .opening then client
    else
      let client := client.setSocket number { socket with timer := none }
      if socket.stopped ∨ client.socket ≠ some number ∨ client.stopped then client
      else if fault then client.onDisconnect number
      else client.setSocket number
        { socket with timer := none, greeting := some (store.cursor config.clientId) }

/-- `#onOpen(socket)` sends its `hello`. -/
def Client.greet (client : Client) (number : Nat) : Client :=
  match client.sockets number with
  | none => client
  | some socket =>
    match socket.greeting with
    | none => client
    | some lastSequence =>
      match { socket with greeting := none }.hello config.projects lastSequence with
      | .ok greeted => client.setSocket number greeted
      | .error _ => (client.setSocket number { socket with greeting := none }).onDisconnect number

/-- The timer of a poll fires. -/
def Client.polled (client : Client) (number : Nat) : Client :=
  match client.sockets number with
  | none => client
  | some socket =>
    if socket.timer ≠ some .poll then client
    else client.setSocket number { socket with timer := none }.poll

def Client.emit (client : Client) (number : Nat) (frame : Frame) : Client :=
  { client with messages := client.messages ++ [(number, frame)] }

/-- A poll is answered with a page, or fails. -/
def Client.replied (client : Client) (number : Nat) (answer : Except String (List CommittedEvent)) :
    Client :=
  match client.sockets number with
  | none => client
  | some socket =>
    if socket.polls = 0 then client
    else
      let socket := { socket with polls := socket.polls - 1 }
      let client := client.setSocket number socket
      if socket.stopped then client
      else
        match answer with
        | .error _ => client.onDisconnect number
        | .ok page =>
          match page.getLast? with
          | none =>
            let polling := client.setSocket number
              { socket with ready := true, timer := some .poll }
            if socket.ready then polling else polling.emit number (.ready socket.cursor)
          | some last =>
            let awaiting := client.setSocket number { socket with awaiting := some last.sequence }
            if isSafeInteger last.sequence ∧ socket.cursor < last.sequence then
              awaiting.emit number (.events page)
            else awaiting.onDisconnect number

/-! ## Processing the frames -/

def StrictlyOrdered (page : List CommittedEvent) : Prop :=
  page.IsChain fun event next => event.sequence < next.sequence

instance (page : List CommittedEvent) : Decidable (StrictlyOrdered page) :=
  inferInstanceAs (Decidable (page.IsChain _))

/-- `#onMessage(socket, raw)` of the next frame, up to its first await. -/
def Client.handle (client : Client) : Client :=
  match client.handling, client.messages with
  | none, (number, frame) :: messages =>
    let client := { client with messages := messages }
    if client.socket ≠ some number ∨ client.stopped then client
    else
      match frame with
      | .ready _ => { client with ready := true }
      | .events page =>
        if StrictlyOrdered page then { client with handling := some ⟨number, page, .reading⟩ }
        else client.onDisconnect number
  | _, _ => client

/-- What is left to process after an event. -/
def Handling.next (handling : Handling) : Option Handling :=
  match handling.events with
  | [] | [_] => none
  | _ :: events => some ⟨handling.socket, events, .reading⟩

def applyCommitted (client : Client) (store : SyncStore) (handling : Handling) (event : CommittedEvent)
    (fault : Option String) : Except String (Client × SyncStore) := do
  match handling.phase with
  | .reading =>
    ensure (isSafeInteger event.sequence ∧ 1 ≤ event.sequence ∧ event.eventId ≠ "")
      "committed memory event is malformed"
    ensure (event.projectId.any fun project => config.projects.contains project)
      "committed event is outside the subscription"
    fault.elim (.ok ()) .error
    if event.sequence ≤ store.cursor config.clientId then
      return ({ client with handling := handling.next }, store)
    else return ({ client with handling := some { handling with phase := .caching } }, store)
  | .caching =>
    fault.elim (.ok ()) .error
    let store ← store.cacheServerEvent event
    return ({ client with handling := some { handling with phase := .advancing } }, store)
  | .advancing =>
    fault.elim (.ok ()) .error
    let store ← store.setCursor config.clientId event.sequence
    return ({ client with handling := some { handling with phase := .acknowledging } }, store)
  | .acknowledging =>
    let socket ← orError (client.sockets handling.socket) "socket is not open"
    let acknowledged ← socket.ack event.sequence
    return ({ client.setSocket handling.socket acknowledged with handling := handling.next }, store)

/-- The frame in progress is processed up to the next await; what is thrown disconnects the socket. -/
def Client.apply (client : Client) (store : SyncStore) (fault : Option String) : Client × SyncStore :=
  match client.handling with
  | none => (client, store)
  | some handling =>
    match handling.events with
    | [] => ({ client with handling := none }, store)
    | event :: _ =>
      match applyCommitted config client store handling event fault with
      | .ok applied => applied
      | .error _ => ({ client with handling := none }.onDisconnect handling.socket, store)

/-! ## The machine -/

inductive SyncStep where
  | start
  | reset (answer : Except String Unit)
  | stop
  | reconnect
  | connected (answer : Except String Unit)
  | opened (socket : Nat) (fault : Bool)
  | greet (socket : Nat)
  | polled (socket : Nat)
  | replied (socket : Nat) (answer : Except String (List CommittedEvent))
  | handle
  | apply (fault : Option String)

def Client.step (client : Client) (store : SyncStore) : SyncStep → Client × SyncStore
  | .start => (client.start, store)
  | .reset answer => (client.reset answer, store)
  | .stop => (client.stop, store)
  | .reconnect => (client.reconnect, store)
  | .connected answer => (client.connected answer, store)
  | .opened socket fault => (client.opened config store socket fault, store)
  | .greet socket => (client.greet config socket, store)
  | .polled socket => (client.polled socket, store)
  | .replied socket answer => (client.replied socket answer, store)
  | .handle => (client.handle, store)
  | .apply fault => client.apply config store fault

/-- The clients and the store that they share. -/
structure SyncState where
  clients : Nat → Client
  store : SyncStore

/-- Nothing has been replayed yet. -/
def SyncState.initial : SyncState := ⟨fun _ => .initial, ⟨fun _ => none, []⟩⟩

/-- **The clients of one store**, their steps interleaved. -/
def syncMachine (configs : Nat → ClientConfig) : Machine SyncState (Nat × SyncStep) Unit where
  step state input :=
    let stepped := (state.clients input.1).step (configs input.1) state.store input.2
    ((), ⟨Function.update state.clients input.1 stepped.1, stepped.2⟩)

end Zero3Pilot.MemorySync
