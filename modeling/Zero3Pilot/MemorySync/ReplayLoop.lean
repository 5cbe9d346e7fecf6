import Zero3Pilot.MemorySync.Client

/-! # The replay loop

A socket that has emitted a page polls again when the last sequence of the page is acknowledged. The
client acknowledges an event when its sequence is above the cursor in the store, which is shared with
other clients: a page whose last event is not above it is never acknowledged, and the loop stalls. -/

namespace Zero3Pilot.MemorySync

/-! ## Statements -/

def HttpSocket.Scheduled (socket : HttpSocket) : Prop :=
  socket.timer ≠ none ∨ socket.greeting ≠ none ∨ 0 < socket.polls

/-- A page of the socket that ends with the sequence is queued or being processed. -/
def Outstanding (messages : List (Nat × Frame)) (handling : Option Handling) (number : Nat)
    (sequence : Int) : Prop :=
  (∃ page last, (number, Frame.events page) ∈ messages ∧ page.getLast? = some last ∧
    last.sequence = sequence) ∨
  ∃ current last, handling = some current ∧ current.socket = number ∧
    current.events.getLast? = some last ∧ last.sequence = sequence

/-- **The replay loop of a client has not stalled**: something will make it ask for the next page. -/
def Client.NotStalled (client : Client) : Prop :=
  ∀ number socket, client.socket = some number → client.sockets number = some socket →
    (∀ sequence, socket.awaiting = some sequence →
      Outstanding client.messages client.handling number sequence) ∧
    (socket.awaiting = none → socket.Scheduled)

/-- **No page is overtaken**: when the last event of a page comes to be applied, the cursor in the store
is below it. -/
def NotOvertaken (configs : Nat → ClientConfig) (state : SyncState) : Nat × SyncStep → Prop
  | (place, .apply _) => ∀ number event, (state.clients place).socket = some number →
      (state.clients place).handling = some ⟨number, [event], .reading⟩ →
      state.store.cursor (configs place).clientId < event.sequence
  | _ => True

/-! ## The invariant of the socket -/

/-- **The invariant** of the socket that a client uses. -/
structure Polling (messages : List (Nat × Frame)) (handling : Option Handling) (number : Nat)
    (socket : HttpSocket) : Prop where
  running : socket.stopped = false
  opening : socket.timer = some .opening →
    socket.awaiting = none ∧ socket.greeting = none ∧ socket.polls = 0
  greeting : ∀ cursor, socket.greeting = some cursor →
    socket.awaiting = none ∧ socket.timer = none ∧ socket.polls = 0
  scheduled : socket.awaiting = none → socket.Scheduled
  awaited : ∀ sequence, socket.awaiting = some sequence →
    socket.cursor < sequence ∧ Outstanding messages handling number sequence

def Client.Good (client : Client) (number : Nat) : Prop :=
  client.stopped = false ∧ ∃ socket, client.sockets number = some socket ∧
    Polling client.messages client.handling number socket

/-- **The invariant of a client.** -/
def Client.Replaying (client : Client) : Prop :=
  ∀ number, client.socket = some number → client.Good number

section Invariant

variable {messages messages' : List (Nat × Frame)} {handling handling' : Option Handling}
  {number current : Nat} {socket : HttpSocket} {client : Client} {sequence : Int}

theorem Polling.mono (polling : Polling messages handling number socket)
    (kept : ∀ sequence, Outstanding messages handling number sequence →
      Outstanding messages' handling' number sequence) :
    Polling messages' handling' number socket :=
  ⟨polling.running, polling.opening, polling.greeting, polling.scheduled, fun sequence isAwaited =>
    ⟨(polling.awaited sequence isAwaited).1, kept sequence (polling.awaited sequence isAwaited).2⟩⟩

theorem Client.Replaying.notStalled (replaying : client.Replaying) : client.NotStalled := by
  intro number socket isCurrent isSocket
  obtain ⟨-, socket', isSocket', polling⟩ := replaying number isCurrent
  cases isSocket.symm.trans isSocket'
  exact ⟨fun sequence isAwaited => (polling.awaited sequence isAwaited).2, polling.scheduled⟩

theorem Client.Good.mono (good : client.Good number)
    (kept : ∀ sequence, Outstanding client.messages client.handling number sequence →
      Outstanding messages' handling' number sequence) :
    { client with messages := messages', handling := handling' }.Good number := by
  obtain ⟨running, socket, isSocket, polling⟩ := good
  exact ⟨running, socket, isSocket, polling.mono kept⟩

theorem Outstanding.emit (outstanding : Outstanding messages handling number sequence)
    (entry : Nat × Frame) : Outstanding (messages ++ [entry]) handling number sequence := by
  rcases outstanding with ⟨page, last, member, isLast⟩ | isHandled
  · exact .inl ⟨page, last, List.mem_append_left _ member, isLast⟩
  · exact .inr isHandled

theorem Outstanding.of_other {current : Handling}
    (outstanding : Outstanding messages (some current) number sequence) (other : number ≠ current.socket)
    (handling' : Option Handling) : Outstanding messages handling' number sequence := by
  rcases outstanding with isQueued | ⟨_, _, isHandled, isSocket, -⟩
  · exact .inl isQueued
  · cases isHandled
    exact absurd isSocket.symm other

/-- **After an event** its page is still outstanding, unless it was the last one. -/
theorem Outstanding.next {current : Handling}
    (outstanding : Outstanding messages (some current) number sequence) :
    Outstanding messages current.next number sequence ∨
      current.socket = number ∧ ∃ event, current.events = [event] ∧ event.sequence = sequence := by
  rcases outstanding with isQueued | ⟨_, last, isHandled, isSocket, isLast, isSequence⟩
  · exact .inl (.inl isQueued)
  · cases isHandled
    cases events : current.events with
    | nil =>
      rw [events] at isLast
      cases isLast
    | cons event rest =>
      cases rest with
      | nil =>
        rw [events] at isLast
        cases isLast
        exact .inr ⟨isSocket, event, rfl, isSequence⟩
      | cons event' rest =>
        refine .inl (.inr ⟨⟨current.socket, event' :: rest, .reading⟩, last, ?_, isSocket, ?_,
          isSequence⟩)
        · rw [Handling.next, events]
        · rw [events, List.getLast?_cons_cons] at isLast
          exact isLast

theorem replaying_setSocket (changed : client.socket = some number → client.stopped = false ∧
      Polling client.messages client.handling number socket)
    (others : ∀ current, client.socket = some current → current ≠ number → client.Good current) :
    (client.setSocket number socket).Replaying := by
  intro current isCurrent
  by_cases same : current = number
  · subst same
    obtain ⟨running, polling⟩ := changed isCurrent
    exact ⟨running, socket, Function.update_self _ _ _, polling⟩
  · obtain ⟨running, found, isFound, polling⟩ := others current isCurrent same
    exact ⟨running, found, (Function.update_of_ne same _ _).trans isFound, polling⟩

theorem replaying_of_none (none_ : client.socket = none) : client.Replaying := by
  intro number isCurrent
  rw [none_] at isCurrent
  cases isCurrent

theorem socket_closeSocket : (client.closeSocket number).socket = client.socket := by
  unfold Client.closeSocket
  split
  · rfl
  · rfl

theorem socket_scheduleReconnect : client.scheduleReconnect.socket = client.socket := by
  unfold Client.scheduleReconnect
  split
  · rfl
  · rfl

/-- **A disconnected socket** is no longer the client's. -/
theorem replaying_onDisconnect
    (others : ∀ current, client.socket = some current → current ≠ number → client.Good current) :
    (client.onDisconnect number).Replaying := by
  unfold Client.onDisconnect
  by_cases isCurrent : client.socket = some number
  · rw [if_pos isCurrent]
    refine replaying_of_none ?_
    rw [socket_scheduleReconnect, socket_closeSocket]
  · rw [if_neg isCurrent]
    intro current isSocket
    refine others current isSocket fun same => isCurrent ?_
    rw [isSocket, same]

theorem good_setSocket (good : client.Good current) (other : current ≠ number) :
    (client.setSocket number socket).Good current := by
  obtain ⟨running, found, isFound, polling⟩ := good
  exact ⟨running, found, (Function.update_of_ne other _ _).trans isFound, polling⟩

end Invariant

/-! ## The steps of a client -/

section Steps

variable {client : Client} {number : Nat}

section

variable (replaying : client.Replaying)
include replaying

theorem start_replaying : client.start.Replaying := by
  unfold Client.start
  split
  · rename_i isStopped
    intro number isCurrent
    obtain ⟨running, -⟩ := replaying number isCurrent
    rw [isStopped] at running
    cases running
  · exact replaying

theorem connect_replaying : client.connect.Replaying := by
  unfold Client.connect
  split
  · exact replaying
  · exact replaying

theorem scheduleReconnect_replaying : client.scheduleReconnect.Replaying := by
  unfold Client.scheduleReconnect
  split
  · exact replaying
  · exact replaying

theorem reset_replaying (answer : Except String Unit) : (client.reset answer).Replaying := by
  unfold Client.reset
  split
  · exact replaying
  · cases answer with
    | ok _ => exact connect_replaying replaying
    | error _ => exact replaying

end

theorem stop_replaying : client.stop.Replaying := by
  refine replaying_of_none ?_
  unfold Client.stop
  split
  · exact socket_closeSocket
  · rfl

theorem reconnect_replaying (replaying : client.Replaying) : client.reconnect.Replaying := by
  unfold Client.reconnect
  split
  · exact connect_replaying replaying
  · exact replaying

theorem polling_opening {messages : List (Nat × Frame)} {handling : Option Handling} :
    Polling messages handling number .opening := by
  refine ⟨rfl, fun _ => ⟨rfl, rfl, rfl⟩, ?_, fun _ => .inl ?_, ?_⟩
  · rintro _ ⟨⟩
  · rintro ⟨⟩
  · rintro _ ⟨⟩

theorem connected_replaying (replaying : client.Replaying) (answer : Except String Unit) :
    (client.connected answer).Replaying := by
  unfold Client.connected
  split
  · exact replaying
  · cases answer with
    | error _ =>
      exact scheduleReconnect_replaying replaying
    | ok _ =>
      dsimp only
      split
      · rename_i isStopped
        -- a client that has been stopped has no socket
        refine replaying_setSocket (fun isCurrent => ?_) fun current isCurrent _ =>
          replaying current isCurrent
        obtain ⟨running, -⟩ := replaying _ isCurrent
        rw [isStopped] at running
        cases running
      · rename_i running
        intro number isCurrent
        obtain rfl : client.nextSocket = number := Option.some.inj isCurrent
        exact ⟨Bool.eq_false_iff.2 running, .opening, Function.update_self _ _ _, polling_opening⟩

end Steps

/-! ## The handlers of the socket -/

section Handlers

variable {client : Client} {number : Nat} {config : ClientConfig}

section

variable (replaying : client.Replaying)
include replaying

theorem Client.Replaying.polling {socket : HttpSocket}
    (isCurrent : client.socket = some number) (isSocket : client.sockets number = some socket) :
    client.stopped = false ∧ Polling client.messages client.handling number socket := by
  obtain ⟨running, socket', isSocket', polling⟩ := replaying number isCurrent
  cases isSocket.symm.trans isSocket'
  exact ⟨running, polling⟩

theorem opened_replaying (store : SyncStore) (fault : Bool) :
    (client.opened config store number fault).Replaying := by
  unfold Client.opened
  split
  · exact replaying
  · rename_i socket isSocket
    split
    · exact replaying
    · rename_i isTimer
      have isTimer : socket.timer = some .opening := not_not.1 isTimer
      have others : ∀ current, client.socket = some current → current ≠ number → client.Good current :=
        fun current isCurrent _ => replaying current isCurrent
      dsimp only
      split
      · rename_i ended
        -- the handler returns only where the socket is not the client's
        refine replaying_setSocket (fun isCurrent => ?_) others
        obtain ⟨running, polling⟩ := replaying.polling isCurrent isSocket
        rcases ended with isStopped | isOther | isStopped
        · exact absurd (isStopped.symm.trans polling.running) (by decide)
        · exact absurd isCurrent isOther
        · exact absurd (isStopped.symm.trans running) (by decide)
      · split
        · exact replaying_onDisconnect fun current isCurrent other =>
            good_setSocket (others current isCurrent other) other
        · refine replaying_setSocket (fun isCurrent => ?_) fun current isCurrent other =>
            good_setSocket (others current isCurrent other) other
          obtain ⟨running, polling⟩ := replaying.polling isCurrent isSocket
          obtain ⟨none_, -, unpolled⟩ := polling.opening isTimer
          refine ⟨running, polling.running, ?_, ?_, fun _ => .inr (.inl ?_), ?_⟩
          · rintro ⟨⟩
          · exact fun _ _ => ⟨none_, rfl, unpolled⟩
          · rintro ⟨⟩
          · intro sequence isAwaited
            exact absurd (none_.symm.trans isAwaited) (by rintro ⟨⟩)

theorem greet_replaying : (client.greet config number).Replaying := by
  unfold Client.greet
  split
  · exact replaying
  · rename_i socket isSocket
    split
    · exact replaying
    · rename_i lastSequence isGreeting
      have others : ∀ current, client.socket = some current → current ≠ number → client.Good current :=
        fun current isCurrent _ => replaying current isCurrent
      split
      · rename_i greeted isGreeted
        refine replaying_setSocket (fun isCurrent => ?_) others
        obtain ⟨running, polling⟩ := replaying.polling isCurrent isSocket
        obtain ⟨none_, untimed, -⟩ := polling.greeting lastSequence isGreeting
        -- the first poll is in flight
        unfold HttpSocket.hello at isGreeted
        split at isGreeted
        · cases isGreeted
          rw [HttpSocket.poll, if_neg (by simp [polling.running])]
          refine ⟨running, polling.running, ?_, ?_, fun _ => .inr (.inr (Nat.succ_pos _)), ?_⟩
          · intro isOpening
            exact absurd (untimed.symm.trans isOpening) (by rintro ⟨⟩)
          · rintro _ ⟨⟩
          · intro sequence isAwaited
            exact absurd (none_.symm.trans isAwaited) (by rintro ⟨⟩)
        · cases isGreeted
      · exact replaying_onDisconnect fun current isCurrent other =>
          good_setSocket (others current isCurrent other) other

theorem polled_replaying : (client.polled number).Replaying := by
  unfold Client.polled
  split
  · exact replaying
  · rename_i socket isSocket
    split
    · exact replaying
    · rename_i isTimer
      have isTimer : socket.timer = some .poll := not_not.1 isTimer
      refine replaying_setSocket (fun isCurrent => ?_) fun current isCurrent _ =>
        replaying current isCurrent
      obtain ⟨running, polling⟩ := replaying.polling isCurrent isSocket
      rw [HttpSocket.poll, if_neg (by simp [polling.running])]
      refine ⟨running, polling.running, ?_, ?_, fun _ => .inr (.inr (Nat.succ_pos _)), polling.awaited⟩
      · rintro ⟨⟩
      · intro cursor isGreeting
        obtain ⟨-, untimed, -⟩ := polling.greeting cursor isGreeting
        exact absurd (untimed.symm.trans isTimer) (by rintro ⟨⟩)

theorem emit_replaying (frame : Frame) : (client.emit number frame).Replaying := by
  intro current isCurrent
  obtain ⟨running, socket, isSocket, polling⟩ := replaying current isCurrent
  exact ⟨running, socket, isSocket, polling.mono fun _ outstanding => outstanding.emit _⟩

theorem replied_replaying
    (answer : Except String (List CommittedEvent)) : (client.replied number answer).Replaying := by
  unfold Client.replied
  split
  · exact replaying
  · rename_i socket isSocket
    split
    · exact replaying
    · rename_i inFlight
      have others : ∀ current, client.socket = some current → current ≠ number → client.Good current :=
        fun current isCurrent _ => replaying current isCurrent
      have others' : ∀ settled current, client.socket = some current → current ≠ number →
          (client.setSocket number settled).Good current :=
        fun _ current isCurrent other => good_setSocket (others current isCurrent other) other
      -- a poll was in flight, so that the hello had been sent
      have sent : ∀ polling : Polling client.messages client.handling number socket,
          socket.timer ≠ some .opening ∧ socket.greeting = none := by
        intro polling
        refine ⟨fun isOpening => inFlight (polling.opening isOpening).2.2, ?_⟩
        cases isGreeting : socket.greeting with
        | none => rfl
        | some cursor => exact absurd (polling.greeting cursor isGreeting).2.2 inFlight
      dsimp only
      split
      · rename_i isStopped
        refine replaying_setSocket (fun isCurrent => ?_) others
        obtain ⟨-, polling⟩ := replaying.polling isCurrent isSocket
        exact absurd (isStopped.symm.trans polling.running) (by decide)
      · cases answer with
        | error _ => exact replaying_onDisconnect (others' _)
        | ok page =>
          dsimp only
          cases isLast : page.getLast? with
          | none =>
            dsimp only
            have scheduled : (client.setSocket number { socket with
                polls := socket.polls - 1, ready := true, timer := some .poll }).Replaying := by
              refine replaying_setSocket (fun isCurrent => ?_) others
              obtain ⟨running, polling⟩ := replaying.polling isCurrent isSocket
              refine ⟨running, polling.running, ?_, ?_, fun _ => .inl ?_, polling.awaited⟩
              · rintro ⟨⟩
              · intro cursor isGreeting
                exact absurd ((sent polling).2.symm.trans isGreeting) (by rintro ⟨⟩)
              · rintro ⟨⟩
            have twice : ((client.setSocket number { socket with polls := socket.polls - 1 }).setSocket
                number { socket with polls := socket.polls - 1, ready := true, timer := some .poll }) =
                client.setSocket number { socket with
                  polls := socket.polls - 1, ready := true, timer := some .poll } := by
              simp only [Client.setSocket, Function.update_idem]
            rw [twice]
            split
            · exact scheduled
            · exact emit_replaying scheduled _
          | some last =>
            dsimp only
            split
            · rename_i inOrder
              intro current isCurrent
              by_cases same : current = number
              · subst same
                obtain ⟨running, polling⟩ := replaying.polling isCurrent isSocket
                obtain ⟨unopened, ungreeted⟩ := sent polling
                refine ⟨running, _, Function.update_self _ _ _, polling.running, ?_, ?_, ?_, ?_⟩
                · exact fun isOpening => absurd isOpening unopened
                · intro cursor isGreeting
                  exact absurd (ungreeted.symm.trans isGreeting) (by rintro ⟨⟩)
                · rintro ⟨⟩
                · rintro sequence ⟨⟩
                  refine ⟨inOrder.2, .inl ⟨page, last, ?_, isLast, rfl⟩⟩
                  exact List.mem_append_right _ List.mem_cons_self
              · obtain ⟨running, found, isFound, polling⟩ :=
                  good_setSocket (others' _ current isCurrent same) same
                exact ⟨running, found, isFound,
                  polling.mono fun _ outstanding => outstanding.emit _⟩
            · exact replaying_onDisconnect fun current isCurrent other =>
                good_setSocket (others' _ current isCurrent other) other

end

end Handlers

/-! ## Processing the frames -/

section Processing

variable {client client' : Client} {store store' : SyncStore} {config : ClientConfig}
  {handling : Handling} {event : CommittedEvent}

theorem handle_replaying (replaying : client.Replaying) : client.handle.Replaying := by
  unfold Client.handle
  split
  · rename_i number frame messages idle isMessage
    dsimp only
    -- what is outstanding, apart from the frame that is taken
    have rest : ∀ current, current ≠ number ∨ (∀ page, frame ≠ .events page) →
        ∀ sequence, Outstanding client.messages client.handling current sequence →
          Outstanding messages client.handling current sequence := by
      intro current other sequence outstanding
      rcases outstanding with ⟨page, last, member, isLast⟩ | isHandled
      · rw [isMessage, List.mem_cons] at member
        rcases member with isFirst | member
        · cases isFirst
          rcases other with other | other
          · exact absurd rfl other
          · exact absurd rfl (other page)
        · exact .inl ⟨page, last, member, isLast⟩
      · exact .inr isHandled
    have good : ∀ current, current ≠ number ∨ (∀ page, frame ≠ .events page) →
        client.socket = some current → { client with messages := messages }.Good current := by
      intro current other isCurrent
      exact (replaying current isCurrent).mono (rest current other)
    split
    · rename_i dropped
      intro current isCurrent
      refine good current (.inl fun same => ?_) isCurrent
      rcases dropped with isOther | isStopped
      · exact isOther (same ▸ isCurrent)
      · exact absurd (isStopped.symm.trans (replaying current isCurrent).1) (by decide)
    · cases frame with
      | ready latestSequence =>
        intro current isCurrent
        exact good current (.inr (by rintro page ⟨⟩)) isCurrent
      | events page =>
        dsimp only
        split
        · -- the page that was queued is processed now
          intro current isCurrent
          refine (replaying current isCurrent).mono fun sequence outstanding => ?_
          rcases outstanding with ⟨page', last, member, isLast, isSequence⟩ | ⟨_, _, isHandled, -⟩
          · rw [isMessage, List.mem_cons] at member
            rcases member with isFirst | member
            · cases isFirst
              exact .inr ⟨⟨number, page, .reading⟩, last, rfl, rfl, isLast, isSequence⟩
            · exact .inl ⟨page', last, member, isLast, isSequence⟩
          · rw [idle] at isHandled
            cases isHandled
        · exact replaying_onDisconnect fun current isCurrent other => good current (.inl other) isCurrent
  · exact replaying

end Processing

section Applying

variable {client client' : Client} {store store' : SyncStore} {config : ClientConfig}
  {handling : Handling} {event : CommittedEvent} {rest : List CommittedEvent} {fault : Option String}

theorem replaying_phase (replaying : client.Replaying) (isHandled : client.handling = some handling)
    (phase : ApplyPhase) :
    { client with handling := some { handling with phase := phase } }.Replaying := by
  intro current isCurrent
  refine (replaying current isCurrent).mono fun sequence outstanding => ?_
  rcases outstanding with isQueued | ⟨_, last, isHandled', isSocket', isLast⟩
  · exact .inl isQueued
  · cases isHandled.symm.trans isHandled'
    exact .inr ⟨_, last, rfl, isSocket', isLast⟩

theorem replaying_next (replaying : client.Replaying) (isHandled : client.handling = some handling)
    (notLast : client.socket = some handling.socket → ∀ event, handling.events ≠ [event]) :
    { client with handling := handling.next }.Replaying := by
  intro current isCurrent
  refine (replaying current isCurrent).mono fun sequence outstanding => ?_
  rw [isHandled] at outstanding
  rcases outstanding.next with isOutstanding | ⟨isSocket', event, isEvent, -⟩
  · exact isOutstanding
  · have isCurrent : client.socket = some current := isCurrent
    exact absurd isEvent (notLast (isSocket' ▸ isCurrent) event)

/-- **An acknowledgement** of the last sequence of the page schedules the next poll. -/
theorem polling_ack {messages : List (Nat × Frame)} {number : Nat} {socket acknowledged : HttpSocket}
    (polling : Polling messages (some handling) number socket)
    (isFirst : handling.events = event :: rest)
    (isAck : socket.ack event.sequence = .ok acknowledged) :
    Polling messages handling.next number acknowledged := by
  simp only [HttpSocket.ack, bind_ok, ensure_ok] at isAck
  obtain ⟨-, ⟨-, within⟩, isAck⟩ := isAck
  split at isAck
  · -- the whole page is acknowledged
    rename_i complete
    cases isAck
    refine ⟨polling.running, ?_, fun cursor isGreeting => ?_, fun _ => .inl ?_, ?_⟩
    · rintro ⟨⟩
    · exact absurd ((polling.greeting cursor isGreeting).1.symm.trans complete) (by rintro ⟨⟩)
    · rintro ⟨⟩
    · rintro _ ⟨⟩
  · rename_i incomplete
    cases isAck
    refine ⟨polling.running, polling.opening, polling.greeting, polling.scheduled, ?_⟩
    intro sequence isAwaited
    have isAwaited : socket.awaiting = some sequence := isAwaited
    obtain ⟨below, outstanding⟩ := polling.awaited sequence isAwaited
    rw [isAwaited, Option.getD_some] at within
    have differs : max socket.cursor event.sequence ≠ sequence := by
      intro same
      exact incomplete (by rw [isAwaited, same])
    refine ⟨by dsimp only; omega, ?_⟩
    rcases outstanding.next with isOutstanding | ⟨-, last, isLast, isSequence⟩
    · exact isOutstanding
    · -- the last event would have acknowledged the page
      rw [isFirst] at isLast
      cases isLast
      omega

theorem applyCommitted_replaying (replaying : client.Replaying)
    (isHandled : client.handling = some handling) (isFirst : handling.events = event :: rest)
    (notOvertaken : client.socket = some handling.socket → handling.phase = .reading → rest = [] →
      store.cursor config.clientId < event.sequence)
    (applied : applyCommitted config client store handling event fault = .ok (client', store')) :
    client'.Replaying := by
  unfold applyCommitted at applied
  split at applied
  · rename_i isReading
    simp only [bind_ok, ensure_ok] at applied
    obtain ⟨-, -, -, -, -, -, applied⟩ := applied
    split at applied
    · rename_i known
      cases applied
      -- the event has been applied before
      refine replaying_next replaying isHandled fun isCurrent last isLast => ?_
      rw [isFirst] at isLast
      cases isLast
      exact absurd (notOvertaken isCurrent isReading rfl) (Int.not_lt.2 known)
    · cases applied
      exact replaying_phase replaying isHandled .caching
  · simp only [bind_ok, pure_ok] at applied
    obtain ⟨-, -, _, -, applied⟩ := applied
    cases applied
    exact replaying_phase replaying isHandled .advancing
  · simp only [bind_ok, pure_ok] at applied
    obtain ⟨-, -, _, -, applied⟩ := applied
    cases applied
    exact replaying_phase replaying isHandled .acknowledging
  · simp only [bind_ok, pure_ok, orError_ok] at applied
    obtain ⟨socket, isSocket, acknowledged, isAck, applied⟩ := applied
    cases applied
    intro current isCurrent
    have isCurrent : client.socket = some current := isCurrent
    by_cases same : current = handling.socket
    · subst same
      obtain ⟨running, polling⟩ := replaying.polling isCurrent isSocket
      rw [isHandled] at polling
      exact ⟨running, acknowledged, Function.update_self _ _ _, polling_ack polling isFirst isAck⟩
    · obtain ⟨running, found, isFound, polling⟩ := good_setSocket (replaying current isCurrent) same
      refine ⟨running, found, isFound, polling.mono fun sequence outstanding => ?_⟩
      have outstanding : Outstanding client.messages client.handling current sequence := outstanding
      rw [isHandled] at outstanding
      exact outstanding.of_other same _

theorem apply_replaying (replaying : client.Replaying)
    (notOvertaken : ∀ number event, client.socket = some number →
      client.handling = some ⟨number, [event], .reading⟩ →
      store.cursor config.clientId < event.sequence) :
    (client.apply config store fault).1.Replaying := by
  unfold Client.apply
  split
  · exact replaying
  · rename_i handling isHandled
    split
    · rename_i isEmpty
      intro current isCurrent
      refine (replaying current isCurrent).mono fun sequence outstanding => ?_
      rcases outstanding with isQueued | ⟨_, last, isHandled', -, isLast, -⟩
      · exact .inl isQueued
      · cases isHandled.symm.trans isHandled'
        rw [isEmpty] at isLast
        cases isLast
    · rename_i event rest isFirst
      split
      · rename_i applied isApplied
        refine applyCommitted_replaying replaying isHandled isFirst ?_ isApplied
        intro isCurrent isReading isLast
        subst isLast
        refine notOvertaken handling.socket event isCurrent (isHandled.trans ?_)
        rw [← isFirst, ← isReading]
      · -- what is thrown disconnects the socket of the frame
        refine replaying_onDisconnect fun current isCurrent other => ?_
        refine (replaying current isCurrent).mono fun sequence outstanding => ?_
        rw [isHandled] at outstanding
        exact outstanding.of_other other _

end Applying

/-! ## Runs -/

variable {configs : Nat → ClientConfig}

/-- **A step that overtakes no page** keeps the loop of its client going. -/
theorem step_replaying {state : SyncState} {place : Nat} {step : SyncStep}
    (replaying : (state.clients place).Replaying)
    (notOvertaken : NotOvertaken configs state (place, step)) :
    ((state.clients place).step (configs place) state.store step).1.Replaying := by
  cases step with
  | start => exact start_replaying replaying
  | reset answer => exact reset_replaying replaying answer
  | stop => exact stop_replaying
  | reconnect => exact reconnect_replaying replaying
  | connected answer => exact connected_replaying replaying answer
  | opened socket fault => exact opened_replaying replaying state.store fault
  | greet socket => exact greet_replaying replaying
  | polled socket => exact polled_replaying replaying
  | replied socket answer => exact replied_replaying replaying answer
  | handle => exact handle_replaying replaying
  | apply fault => exact apply_replaying replaying notOvertaken

/-- **The replay loops never stall** in the runs in which no page is overtaken. -/
theorem notStalled_of_run {history : List ((Nat × SyncStep) × Unit)} {state : SyncState}
    (run : (syncMachine configs).Run (NotOvertaken configs) SyncState.initial history state)
    (place : Nat) : (state.clients place).NotStalled := by
  have replaying : ∀ place, (state.clients place).Replaying := by
    refine run.stateInvariant (fun state => ∀ place, (state.clients place).Replaying)
      (fun _ => replaying_of_none rfl) fun state input replaying notOvertaken other => ?_
    by_cases same : other = input.1
    · subst same
      have stepped := step_replaying (replaying input.1) notOvertaken
      rwa [← Function.update_self input.1
        ((state.clients input.1).step (configs input.1) state.store input.2).1 state.clients] at stepped
    · have kept := replaying other
      rwa [← Function.update_of_ne same
        ((state.clients input.1).step (configs input.1) state.store input.2).1 state.clients] at kept
  exact (replaying place).notStalled

/-! ## Two clients of one store -/

section Sample

/-- Two clients of one subscription. -/
def sampleClient (_ : Nat) : ClientConfig := ⟨"desktop", ["project-1"]⟩

def sampleEvent : CommittedEvent := ⟨1, "event-1", some "project-1", "{}"⟩

/-- A client starts and says hello. -/
def connecting (place : Nat) : List (Nat × SyncStep) :=
  [.start, .reset (.ok ()), .connected (.ok ()), .opened 0 false, .greet 0].map (place, ·)

def receiving (place : Nat) (awaits : Nat) : List (Nat × SyncStep) :=
  ([SyncStep.replied 0 (.ok [sampleEvent]), .handle] ++ List.replicate awaits (SyncStep.apply none)).map
    (place, ·)

def syncedState (steps : List (Nat × SyncStep)) : SyncState :=
  ((syncMachine sampleClient).exec SyncState.initial steps).2

/-- The second client applies the event while the page of the first one is on its way. -/
def overtaking : List (Nat × SyncStep) :=
  connecting 0 ++ connecting 1 ++ receiving 1 4 ++ receiving 0 1

/-- **The loop of the first client stalls**: it awaits the acknowledgement of an event that the second
client has applied. -/
theorem notStalled_of_run_counterexample :
    ¬ ∀ (configs : Nat → ClientConfig) (history : List ((Nat × SyncStep) × Unit)) (state : SyncState),
      (syncMachine configs).Run Machine.anyStep SyncState.initial history state →
        ∀ place, (state.clients place).NotStalled := by
  intro all
  have notStalled := all sampleClient _ _ ((syncMachine sampleClient).exec_run SyncState.initial
    overtaking (Machine.met_of_forall (fun _ _ _ => trivial) _)) 0
  have isCurrent : ((syncedState overtaking).clients 0).socket = some 0 := by decide +kernel
  have isSocket : ((syncedState overtaking).clients 0).sockets 0 =
      some ⟨false, 0, some "project-1", false, some 1, none, none, 0⟩ := by decide +kernel
  have outstanding := (notStalled 0 _ isCurrent isSocket).1 1 rfl
  have unqueued : ((syncedState overtaking).clients 0).messages = [] := by decide +kernel
  have idle : ((syncedState overtaking).clients 0).handling = none := by decide +kernel
  rcases outstanding with ⟨_, _, member, -⟩ | ⟨_, _, isHandled, -⟩
  · exact absurd (unqueued ▸ member) List.not_mem_nil
  · exact absurd (idle.symm.trans isHandled) (by rintro ⟨⟩)

/-- The first client replays the event on its own. -/
def alone : List (Nat × SyncStep) := connecting 0 ++ receiving 0 4

/-- A client that replays on its own polls again. -/
theorem notStalled_of_run_sample : ((syncedState alone).clients 0).NotStalled := by
  refine notStalled_of_run ((syncMachine sampleClient).exec_run SyncState.initial alone
    ⟨trivial, trivial, trivial, trivial, trivial, trivial, trivial, ?_, ?_, ?_, ?_, trivial⟩) 0
  · intro number event _ isHandled
    have isReading : ((syncedState (connecting 0 ++ receiving 0 0)).clients 0).handling =
        some ⟨0, [sampleEvent], .reading⟩ := by decide +kernel
    cases isReading.symm.trans isHandled
    exact Int.zero_lt_one
  · intro number event _ isHandled
    have isHandling : ((syncedState (connecting 0 ++ receiving 0 1)).clients 0).handling =
        some ⟨0, [sampleEvent], .caching⟩ := by decide +kernel
    cases isHandling.symm.trans isHandled
  · intro number event _ isHandled
    have isHandling : ((syncedState (connecting 0 ++ receiving 0 2)).clients 0).handling =
        some ⟨0, [sampleEvent], .advancing⟩ := by decide +kernel
    cases isHandling.symm.trans isHandled
  · intro number event _ isHandled
    have isHandling : ((syncedState (connecting 0 ++ receiving 0 3)).clients 0).handling =
        some ⟨0, [sampleEvent], .acknowledging⟩ := by decide +kernel
    cases isHandling.symm.trans isHandled

end Sample

end Zero3Pilot.MemorySync
