import Zero3Pilot.Foundations.Machine
import Zero3Pilot.ProviderSession.Hydration

/-! # Runs of the session event log

The log of a session is written by the user's messages, by the migration of legacy messages, by the
notifications of the runtime and by hydration, in any order. The log is followed together with the
messages that were submitted. -/

namespace Zero3Pilot.ProviderSession

variable (env : StoreSurroundings)

/-! ## Calls -/

inductive SessionCall where
  | appendUser (content : String) (details : EventMeta)
  | appendAssistant (content : String) (details : EventMeta)
  | ensureMigrated (record : LocalSessionRecord)
  | ingest (envelope : CodexEnvelope)
  | hydrate (response : ScriptValue) (runtimeThreadId : Option String)

/-- A session, with the messages that were submitted to it. -/
structure LogWorld where
  session : StoredSession
  submitted : List (Nat × String)

def perform (call : SessionCall) (session : StoredSession) : StoredSession :=
  match call with
  | .appendUser content details => appendUser env content details session
  | .appendAssistant content details => appendAssistant env content details session
  | .ensureMigrated record => ensureMigrated env record session
  | .ingest envelope => ingestCodexEvent env envelope session
  | .hydrate response runtimeThreadId => hydrateFromThread env response runtimeThreadId session

/-- The messages that a call submits. -/
def submissions (call : SessionCall) (session : StoredSession) : List (Nat × String) :=
  match call with
  | .appendUser content _ => [(session.nextSeq, content)]
  | .ensureMigrated record =>
    if session.events ≠ [] then [] else migratedMessages env record.messages session
  | _ => []

def serve (world : LogWorld) (call : SessionCall) : LogWorld :=
  ⟨perform env call world.session, world.submitted ++ submissions env call world.session⟩

def sessionMachine : Machine LogWorld SessionCall Unit := ⟨fun world call => ((), serve env world call)⟩

def freshWorld : LogWorld := ⟨emptySession env, []⟩

/-- **When a call does what is expected of it.** -/
def CallAllowed (world : LogWorld) (call : SessionCall) : Prop :=
  match call with
  | .appendUser content _ => Readable env content
  | .appendAssistant _ _ => True
  | .ensureMigrated record => world.session.events = [] →
      ∀ message ∈ record.messages, message.fromUser = true → Readable env message.content
  | .ingest (.notification method params) =>
    ItemAllowed (notifiedItem method (ScriptValue.asRecord params)) world.session
  | .ingest _ => True
  | .hydrate response _ => HydrationAllowed env (threadEntries response) world.session

instance (world : LogWorld) (call : SessionCall) : Decidable (CallAllowed env world call) :=
  match call with
  | .appendUser _ _ => inferInstanceAs (Decidable (Readable _ _))
  | .appendAssistant _ _ => inferInstanceAs (Decidable True)
  | .ensureMigrated record =>
    decidable_of_iff (world.session.events.isEmpty = true →
      ∀ message ∈ record.messages, message.fromUser = true → Readable env message.content)
      (by rw [List.isEmpty_iff]; rfl)
  | .ingest (.lifecycle _ _) => inferInstanceAs (Decidable True)
  | .ingest (.notification _ _) => inferInstanceAs (Decidable (ItemAllowed _ _))
  | .ingest .request => inferInstanceAs (Decidable True)
  | .hydrate _ _ => inferInstanceAs (Decidable (HydrationAllowed _ _ _))

def Awaited (world : LogWorld) (incomingText : String) (message : Nat × String) : Prop :=
  message ∈ world.submitted ∧ Echoes incomingText message ∧ WaitsAs world.session message

/-- **What is expected of a call.** -/
structure CallLaw (world : LogWorld) (call : SessionCall) : Prop where
  /-- The events are in order, and no number is used again. -/
  ordered : (perform env call world.session).events.Pairwise
    fun event later => event.sessionSeq < later.sessionSeq
  renewed : ∀ event ∈ (perform env call world.session).events,
    event.sessionSeq ∈ world.session.events.map (·.sessionSeq) ∨
      world.session.nextSeq ≤ event.sessionSeq
  unique : (perform env call world.session).events.Pairwise fun event later =>
    ∀ itemId, event.Carries itemId → ¬ later.Carries itemId
  /-- The echo of a message adds no event, and takes the event of a message that waits for it. -/
  echoed : ∀ method params itemId payload, call = .ingest (.notification method params) →
    notifiedItem method (ScriptValue.asRecord params) = some (itemId, .userMessage, some payload) →
    (¬ Unknown itemId world.session ∨ ∃ message, Awaited world (payloadText payload) message) →
      (perform env call world.session).events.map (·.sessionSeq) =
        world.session.events.map (·.sessionSeq) ∧
      (Unknown itemId world.session → ∃ message, Awaited world (payloadText payload) message ∧
        ∃ event ∈ (perform env call world.session).events,
          event.sessionSeq = message.1 ∧ event.Carries itemId)
  echoedLate : ∀ response runtimeThreadId itemId payload turnId,
    call = .hydrate response runtimeThreadId →
    .item itemId .userMessage payload turnId ∈ threadEntries response →
    Unknown itemId world.session → (∃ message, Awaited world (payloadText payload) message) →
      ∀ event ∈ (perform env call world.session).events, event.Carries itemId →
        ∃ message, Awaited world (payloadText payload) message ∧ event.sessionSeq = message.1
  /-- The events of a hydrated thread hold the completed payloads, and stay as they are. -/
  hydrated : ∀ response runtimeThreadId, call = .hydrate response runtimeThreadId →
    (∀ entry ∈ threadEntries response, ∀ event ∈ (perform env call world.session).events,
      event.hasKey entry.key = true → entry.HeldBy env event) ∧
    (perform env call (perform env call world.session)).events =
      (perform env call world.session).events

/-! ## Runs -/

variable {env}

/-- **What a run keeps.** -/
structure LogInvariant (env : StoreSurroundings) (world : LogWorld) : Prop where
  logged : Logged world.session
  awaiting : Awaiting env world.session world.submitted
  room : world.session.events.length ≤ maxEvents

theorem logInvariant_fresh : LogInvariant env (freshWorld env) := by
  constructor
  · constructor
    · exact List.Pairwise.nil
    · rintro event ⟨⟩
    · exact Nat.one_pos
    · exact List.Pairwise.nil
    · rintro event ⟨⟩
  · constructor
    · rintro message ⟨⟩
    · rintro event ⟨⟩
    · rintro message ⟨⟩
    · rintro message ⟨⟩
  · exact Nat.zero_le _

variable {world : LogWorld} {call : SessionCall}

/-- **Order.** An allowed call keeps the order of the log. -/
theorem logged_perform (logged : Logged world.session) (allowed : CallAllowed env world call) :
    Logged (perform env call world.session) := by
  cases call with
  | appendUser content details => exact logged.appendUser
  | appendAssistant content details => exact logged.appendAssistant
  | ensureMigrated record => exact logged.ensureMigrated
  | ingest envelope =>
    cases envelope with
    | lifecycle state detail =>
      unfold perform ingestCodexEvent
      dsimp only
      split
      · apply logged.append
        rintro id ⟨⟩
      · exact logged
    | notification method params => exact logged.ingestNotification allowed
    | request => exact logged
  | hydrate response runtimeThreadId => exact logged.hydrateFromThread

/-- **Submitted messages.** An allowed call keeps what waits for an echo. -/
theorem awaiting_serve (logged : Logged world.session)
    (awaiting : Awaiting env world.session world.submitted) (allowed : CallAllowed env world call) :
    Awaiting env (serve env world call).session (serve env world call).submitted := by
  have unsubmitted : ∀ session, Awaiting env session world.submitted →
      Awaiting env session (world.submitted ++ []) := by
    intro session kept
    rwa [List.append_nil]
  cases call with
  | appendUser content details => exact awaiting.appendUser logged allowed
  | appendAssistant content details => exact unsubmitted _ awaiting.appendAssistant
  | ensureMigrated record =>
    unfold serve perform submissions ensureMigrated
    dsimp only
    split
    · exact unsubmitted _ awaiting
    · rename_i empty
      have none : world.session.events = [] := by simpa using empty
      exact (Awaiting.migrate (allowed none) logged awaiting).setBinding
  | ingest envelope =>
    apply unsubmitted
    cases envelope with
    | lifecycle state detail =>
      unfold serve perform ingestCodexEvent
      dsimp only
      split
      · apply awaiting.append
        rintro ⟨⟩
      · exact awaiting
    | notification method params => exact awaiting.ingestNotification
    | request => exact awaiting
  | hydrate response runtimeThreadId => exact unsubmitted _ awaiting.hydrateFromThread

theorem extends_perform (call : SessionCall) (session : StoredSession) :
    Extends session (perform env call session) := by
  cases call with
  | appendUser content details => exact extends_append
  | appendAssistant content details => exact extends_appendAssistant
  | ensureMigrated record => exact extends_ensureMigrated
  | ingest envelope =>
    cases envelope with
    | lifecycle state detail =>
      unfold perform ingestCodexEvent
      dsimp only
      split
      · exact extends_append
      · exact .refl _
    | notification method params => exact extends_ingestNotification
    | request => exact .refl _
  | hydrate response runtimeThreadId => exact extends_hydrateFromThread

/-- **The run lemma.** An allowed call keeps what a run keeps. -/
theorem logInvariant_serve (kept : LogInvariant env world) (allowed : CallAllowed env world call) :
    LogInvariant env (serve env world call) := by
  refine ⟨?_, ?_, ?_⟩
  · exact logged_perform kept.logged allowed
  · exact awaiting_serve kept.logged kept.awaiting allowed
  · exact (extends_perform call world.session).room kept.room

/-- **The step lemma.** An allowed call does what is expected of it. -/
theorem callLaw_of_invariant (kept : LogInvariant env world) (allowed : CallAllowed env world call) :
    CallLaw env world call := by
  have logged := logged_perform kept.logged allowed
  constructor
  · exact logged.ordered
  · exact (extends_perform call world.session).renewed
  · exact logged.unique
  · rintro method params itemId payload rfl notified once
    obtain ⟨known, new⟩ := echo_merges kept.logged kept.awaiting kept.room notified allowed
    by_cases unknown : Unknown itemId world.session
    · obtain known | ⟨message, submittedAs, echoes, waits⟩ := once
      · exact absurd unknown known
      · obtain ⟨same, other, submitted, echo, waited, taken⟩ :=
          new ⟨message, submittedAs, echoes, waits⟩ unknown
        exact ⟨same, fun _ => ⟨other, ⟨submitted, echo, waited⟩, taken⟩⟩
    · exact ⟨known unknown, fun new => absurd new unknown⟩
  · rintro response runtimeThreadId itemId payload turnId rfl asked unknown
      ⟨message, submittedAs, echoes, waits⟩
    -- in a thread that is hydrated without loss, no message waits for an echo
    exfalso
    have absent : HasKey world.session.events (.item itemId) = false := by
      by_contra present
      have has : HasKey world.session.events (.item itemId) = true := by simpa using present
      obtain ⟨event, stored, found⟩ := List.any_eq_true.1 has
      have carries : event.itemId = some itemId := by simpa [SessionEvent.hasKey] using found
      exact unknown event stored carries
    have noOrphan := HydrationAllowed.unwaited allowed _ asked absent (payloadText payload) rfl
    exact kept.awaiting.isOrphan kept.logged submittedAs waits echoes noOrphan
  · rintro response runtimeThreadId rfl
    exact hydrated_holds kept.logged kept.room response runtimeThreadId allowed

/-- **The session event log shows every item once** in every run of allowed calls. -/
theorem sessionLog_of_run {history : List (SessionCall × Unit)} {world : LogWorld}
    (run : Machine.Run (sessionMachine env) (CallAllowed env) (freshWorld env) history world) :
    ∀ call, CallAllowed env world call → CallLaw env world call := by
  have kept : LogInvariant env world :=
    run.stateInvariant (LogInvariant env) logInvariant_fresh fun _ _ => logInvariant_serve
  exact fun call allowed => callLaw_of_invariant kept allowed

/-! ## Runs on fixed inputs -/

/-- Surroundings that write JSON compactly. -/
def sampleStore : StoreSurroundings where
  stringify value := String.ofList value.render
  uid revision := s!"evt-{revision}"
  now _ := ""

def greeting : Json :=
  .object [("id", .string "u"), ("type", .string "userMessage"),
    ("content", .array [.object [("type", .string "text"), ("text", .string "hi")]])]

def greets (method : String) : SessionCall :=
  .ingest (.notification method (some (.object
    [("threadId", .string "a"), ("turnId", .string "t"), ("item", greeting)])))

def greetedThread : ScriptValue :=
  some (.object [("thread", .object [("turns", .array [.object [("id", .string "t"),
    ("status", .string "completed"), ("items", .array [greeting])]])])])

/-- A message is submitted and echoed. -/
def greetedRun : List SessionCall :=
  [.appendUser "hi" {}, greets "item/completed"]

/-- The thread of a message that was submitted and echoed is hydrated. -/
theorem sessionLog_of_run_greeted :
    CallLaw sampleStore ((sessionMachine sampleStore).exec (freshWorld sampleStore) greetedRun).2
      (.hydrate greetedThread (some "a")) :=
  sessionLog_of_run
    (Machine.exec_run (sessionMachine sampleStore) (freshWorld sampleStore) greetedRun
      (by decide +kernel))
    (.hydrate greetedThread (some "a")) (by decide +kernel)

/-- A message that is submitted twice: the echo of one of them takes both. -/
def repeatedRun : List SessionCall :=
  [.appendUser "hi" {}, .appendUser "hi" {}, greets "item/started"]

/-- After the second notification on one item, two events carry it. -/
theorem sessionLog_counterexample :
    ¬ CallLaw sampleStore ((sessionMachine sampleStore).exec (freshWorld sampleStore) repeatedRun).2
      (greets "item/completed") := by
  intro law
  have first : ((perform sampleStore (greets "item/completed")
      ((sessionMachine sampleStore).exec (freshWorld sampleStore) repeatedRun).2.session).events.map
        (·.itemId)) = [some "u", some "u"] := by decide +kernel
  have unique := law.unique
  have apart : ((perform sampleStore (greets "item/completed")
      ((sessionMachine sampleStore).exec (freshWorld sampleStore) repeatedRun).2.session).events.map
        (·.itemId)).Pairwise fun item later => ∀ itemId, item = some itemId → later ≠ some itemId :=
    List.pairwise_map.2 unique
  rw [first] at apart
  exact (List.pairwise_cons.1 apart).1 (some "u") (by simp) "u" rfl rfl

end Zero3Pilot.ProviderSession
