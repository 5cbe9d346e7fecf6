import Zero3Pilot.Failover.Executors
import Zero3Pilot.Foundations.Tables

/-! # The sessions of the executor manager

`Zero3ExecutorManager` in `executor-runtime/executor-manager.ts` keeps a binding for each execution
that has a session. Its calls check the table of bindings, await an executor, and change the table
afterwards, so that other calls come in between: here a call is a step up to its await, and what it
awaits settles in a step of its own. -/

namespace Zero3Pilot.Failover

open Function (update update_of_ne update_self)
open List (mem_cons mem_cons_of_mem mem_singleton)
open Procedure (check require read modify ofExcept fail ensures_bind ensures_modify ensures_pure
  ensures_read)

/-! ## The state -/

inductive PermissionDecision where
  | approveOnce | approveSession | deny
  deriving DecidableEq

/-- A call in progress, at its await. -/
inductive ManagerCall where
  | opening (identity : ExecutorTaskIdentity) (executorId : String) (generation : Nat)
  | prompting (session lastSequence : Nat)
  /-- `respondPermission`: the executor takes the response. -/
  | responding (session : Nat) (requestId : String)
  | cancelling (session : Nat)
  | closing (key : String) (session : Nat)
  deriving DecidableEq

/-- **What has been done to executors**: a record for statements, that no call reads. Sessions are
numbered in the order in which executors return them. -/
inductive SessionEffect where
  | opened (key : String) (session : Nat)
  | closed (session : Nat)
  | requested (session prompt : Nat) (requestId : String) (allowSessionApproval : Bool)
  | forwarded (session call : Nat) (requestId : String) (decision : PermissionDecision)
  /-- The executor did not take the response of a call. -/
  | refused (call : Nat)
  | ended (prompt : Nat)
  deriving DecidableEq

structure ManagerState where
  /-- The binding objects: a call that holds one keeps it when it is no longer in the table. -/
  sessions : Nat → Option ExecutorBinding
  bindings : String → Option Nat
  calls : Nat → Option ManagerCall
  (nextSession nextCall : Nat)
  /-- What has been done, the newest first. -/
  effects : List SessionEffect

/-- A manager that has just been constructed. -/
def ManagerState.initial : ManagerState := ⟨fun _ => none, fun _ => none, fun _ => none, 0, 0, []⟩

abbrev ManagerProcedure (α : Type) := Procedure ManagerState String α

def ManagerState.await (state : ManagerState) (call : ManagerCall) : ManagerState :=
  { state with
    calls := update state.calls state.nextCall (some call)
    nextCall := state.nextCall + 1 }

def ManagerState.finish (state : ManagerState) (call : Nat) : ManagerState :=
  { state with calls := update state.calls call none }

/-- The record with one more effect. -/
def ManagerState.emit (state : ManagerState) (effect : SessionEffect) : ManagerState :=
  { state with effects := effect :: state.effects }

/-- A binding object changes. -/
def ManagerState.setSession (state : ManagerState) (session : Nat) (binding : ExecutorBinding) :
    ManagerState := { state with sessions := update state.sessions session (some binding) }

/-- The table changes. -/
def ManagerState.setBinding (state : ManagerState) (key : String) (session : Option Nat) :
    ManagerState := { state with bindings := update state.bindings key session }

/-! ## Opening sessions -/

variable (registered : String → Bool)

def requireExecutor (executorId : String) : ManagerProcedure Unit :=
  check (registered executorId) ("executor is not registered: " ++ executorId)

/-- A call that opens a session, up to its await. -/
def beginOpening (identity : ExecutorTaskIdentity) (executorId : String) (generation : Nat) :
    ManagerProcedure Unit := do
  let state ← read
  check (state.bindings identity.key).isNone
    ("task execution already has an active executor session: " ++ identity.key)
  requireExecutor registered executorId
  modify fun state => state.await (.opening identity executorId generation)

def startWithContext (executorId : String) (identity : ExecutorTaskIdentity) (generation : Nat)
    (handoff : Option ExecutorHandoffCheckpointRef) : ManagerProcedure Unit := do
  ofExcept (assertIdentity identity)
  ofExcept (assertGeneration generation)
  ofExcept (handoff.elim (.ok ()) assertHandoffCheckpoint)
  beginOpening registered identity executorId generation

/-- `start(executorId, identity, policy)`, up to its await. -/
def beginStart (executorId : String) (identity : ExecutorTaskIdentity) : ManagerProcedure Unit :=
  startWithContext registered executorId identity 1 none

def beginStartFromHandoff (executorId : String) (identity : ExecutorTaskIdentity)
    (checkpoint : ExecutorHandoffCheckpointRef) : ManagerProcedure Unit := do
  ofExcept (assertHandoffCheckpoint checkpoint)
  ofExcept (assertGeneration (checkpoint.generation + 1))
  startWithContext registered executorId identity (checkpoint.generation + 1) (some checkpoint)

def beginResume (executorId : String) (identity : ExecutorTaskIdentity) (ref : ExecutorSession)
    (checkpoint : ExecutorHandoffCheckpointRef) : ManagerProcedure Unit := do
  ofExcept (assertIdentity identity)
  ofExcept (assertGeneration ref.generation)
  ofExcept (assertHandoffCheckpoint checkpoint)
  check (checkpoint.generation = ref.generation)
    "handoff checkpoint generation must match the session generation"
  check (ref.executorId = executorId)
    "session reference executor does not match the selected executor"
  beginOpening registered identity executorId ref.generation

def settleOpening (call : Nat) (identity : ExecutorTaskIdentity) (executorId : String)
    (generation : Nat) (answer : Except String ExecutorSession) : ManagerProcedure Unit := do
  modify fun state => state.finish call
  let session ← ofExcept answer
  let state ← read
  modify fun state =>
    { state.emit (.opened identity.key state.nextSession) with nextSession := state.nextSession + 1 }
  -- the session stays open where this throws
  ofExcept (assertReturnedSession executorId generation session)
  modify fun after =>
    (after.setSession state.nextSession ⟨identity, executorId, session, []⟩).setBinding identity.key
      (some state.nextSession)

/-! ## Prompts, responses and closing -/

def requireBound (taskId executionId : String) : ManagerProcedure (Nat × ExecutorBinding) := do
  let state ← read
  let key := bindingKey taskId executionId
  let session ← require (state.bindings key) ("no active executor session for task execution: " ++ key)
  let binding ← require (state.sessions session)
    ("no active executor session for task execution: " ++ key)
  return (session, binding)

def beginCall (taskId executionId : String) (call : Nat → ManagerCall) : ManagerProcedure Unit := do
  let bound ← requireBound taskId executionId
  requireExecutor registered bound.2.executorId
  modify fun state => state.await (call bound.1)

/-- `prompt(identity, input)`, up to its first event. -/
def beginPrompt (taskId executionId : String) : ManagerProcedure Unit :=
  beginCall registered taskId executionId fun session => .prompting session 0

def beginCancel (taskId executionId : String) : ManagerProcedure Unit :=
  beginCall registered taskId executionId .cancelling

def beginClose (taskId executionId : String) : ManagerProcedure Unit :=
  beginCall registered taskId executionId (.closing (bindingKey taskId executionId))

/-- A prompt is over: its events have ended, its executor or the manager has thrown, or it is no longer
consumed. What is pending stays pending. -/
def endCall (call : Nat) : ManagerProcedure Unit :=
  modify fun state => (state.finish call).emit (.ended call)

def acceptEventOf (call session lastSequence : Nat) (event : ExecutorEvent) : ManagerProcedure Unit := do
  let state ← read
  let binding ← require (state.sessions session) "executor session is unknown"
  let accepted ← ofExcept (acceptEvent binding lastSequence event)
  modify fun state => { state.setSession session accepted with
    calls := update state.calls call (some (.prompting session event.sequence)) }
  match event with
  | .permissionRequested _ requestId allowSessionApproval =>
    modify fun state => state.emit (.requested session call requestId allowSessionApproval)
  | _ => return ()

/-- The executor of a prompt emits an event; where the manager throws, the prompt is over. -/
def settleEvent (call session lastSequence : Nat) (event : ExecutorEvent) : ManagerProcedure Unit :=
  (acceptEventOf call session lastSequence event).onError (endCall call)

def beginRespond (taskId executionId requestId : String) (decision : PermissionDecision) :
    ManagerProcedure Unit := do
  ofExcept (assertPermissionRequestId requestId)
  let bound ← requireBound taskId executionId
  let allowSessionApproval ← require (bound.2.pendingPermissions.lookup requestId)
    ("permission request is not pending for this task execution: " ++ requestId)
  check (¬ (decision = .approveSession ∧ ¬ allowSessionApproval))
    "executor permission request does not allow session-wide approval"
  requireExecutor registered bound.2.executorId
  modify fun state => (state.await (.responding bound.1 requestId)).emit
    (.forwarded bound.1 state.nextCall requestId decision)

def ExecutorBinding.answered (binding : ExecutorBinding) (requestId : String) : ExecutorBinding :=
  { binding with
    pendingPermissions := binding.pendingPermissions.filter fun pending => pending.1 ≠ requestId }

def settleRespond (call session : Nat) (requestId : String) (answer : Except String Unit) :
    ManagerProcedure Unit := do
  modify fun state => state.finish call
  match answer with
  | .error error => do
    modify fun state => state.emit (.refused call)
    fail error
  | .ok () =>
    modify fun state => { state with
      sessions := update state.sessions session
        ((state.sessions session).map fun binding => binding.answered requestId) }

/-- The executor has answered to a close: the key is deleted, whatever is bound to it by now. -/
def settleClose (call : Nat) (key : String) (session : Nat) (answer : Except String Unit) :
    ManagerProcedure Unit := do
  modify fun state => (((state.finish call).emit (.closed session)).setBinding key none)
  ofExcept answer

/-! ## The machine -/

inductive ManagerStep where
  | start (executorId : String) (identity : ExecutorTaskIdentity)
  | startFromHandoff (executorId : String) (identity : ExecutorTaskIdentity)
      (checkpoint : ExecutorHandoffCheckpointRef)
  | resume (executorId : String) (identity : ExecutorTaskIdentity) (ref : ExecutorSession)
      (checkpoint : ExecutorHandoffCheckpointRef)
  | opened (call : Nat) (answer : Except String ExecutorSession)
  | prompt (taskId executionId : String)
  | event (call : Nat) (event : ExecutorEvent)
  | leave (call : Nat)
  | respond (taskId executionId requestId : String) (decision : PermissionDecision)
  | responded (call : Nat) (answer : Except String Unit)
  | cancel (taskId executionId : String)
  | cancelled (call : Nat) (answer : Except String Unit)
  | close (taskId executionId : String)
  | closed (call : Nat) (answer : Except String Unit)

def settle (call : Nat) (settles : ManagerCall → Option (ManagerProcedure Unit)) :
    ManagerProcedure Unit := do
  let state ← read
  ((state.calls call).bind settles).getD (return ())

/-- **The steps of the manager.** -/
def serveStep : ManagerStep → ManagerProcedure Unit
  | .start executorId identity => beginStart registered executorId identity
  | .startFromHandoff executorId identity checkpoint =>
    beginStartFromHandoff registered executorId identity checkpoint
  | .resume executorId identity ref checkpoint =>
    beginResume registered executorId identity ref checkpoint
  | .opened call answer => settle call fun
      | .opening identity executorId generation =>
        some (settleOpening call identity executorId generation answer)
      | _ => none
  | .prompt taskId executionId => beginPrompt registered taskId executionId
  | .event call event => settle call fun
      | .prompting session lastSequence => some (settleEvent call session lastSequence event)
      | _ => none
  | .leave call => settle call fun
      | .prompting _ _ => some (endCall call)
      | _ => none
  | .respond taskId executionId requestId decision =>
    beginRespond registered taskId executionId requestId decision
  | .responded call answer => settle call fun
      | .responding session requestId => some (settleRespond call session requestId answer)
      | _ => none
  | .cancel taskId executionId => beginCancel registered taskId executionId
  | .cancelled call answer => settle call fun
      | .cancelling _ => some do
          modify fun state => state.finish call
          ofExcept answer
      | _ => none
  | .close taskId executionId => beginClose registered taskId executionId
  | .closed call answer => settle call fun
      | .closing key session => some (settleClose call key session answer)
      | _ => none

/-- The manager, its calls interleaved. -/
abbrev managerMachine : Machine ManagerState ManagerStep (Except String Unit) :=
  Procedure.machine (serveStep registered)

/-! ## Statements -/

def IsOpen (effects : List SessionEffect) (key : String) (session : Nat) : Prop :=
  .opened key session ∈ effects ∧ .closed session ∉ effects

/-- **A response answers a request**: the last one of its identifier, which is not answered yet. -/
def Answers (earlier : List SessionEffect) (session : Nat) (requestId : String)
    (decision : PermissionDecision) : Prop :=
  ∃ since before prompt allowSessionApproval,
    earlier = since ++ .requested session prompt requestId allowSessionApproval :: before ∧
    (∀ prompt allowSessionApproval,
      SessionEffect.requested session prompt requestId allowSessionApproval ∉ since) ∧
    (∀ call decision, .forwarded session call requestId decision ∈ since →
      SessionEffect.refused call ∈ since) ∧
    SessionEffect.ended prompt ∉ since ∧
    (decision = .approveSession → allowSessionApproval = true)

/-- **Sessions and permissions are in order.** -/
structure Orderly (state : ManagerState) : Prop where
  one : ∀ key session session', IsOpen state.effects key session → IsOpen state.effects key session' →
    session = session'
  /-- the one in the table when no call is in progress. -/
  bound : (∀ call, state.calls call = none) →
    ∀ key session, IsOpen state.effects key session ↔ state.bindings key = some session
  answers : ∀ session call requestId decision earlier,
    SessionEffect.forwarded session call requestId decision :: earlier <:+ state.effects →
      Answers earlier session requestId decision

def NotOpening (state : ManagerState) (identity : ExecutorTaskIdentity) : Prop :=
  ∀ call other executorId generation,
    state.calls call = some (.opening other executorId generation) → other.key ≠ identity.key

def Answered (state : ManagerState) (session : Nat) : Prop :=
  ∀ binding, state.sessions session = some binding → binding.pendingPermissions = []

/-- **A step that nothing gets in the way of.** -/
def Uncontended (state : ManagerState) : ManagerStep → Prop
  /- No session is opened while another one of the execution is being opened, -/
  | .start _ identity | .startFromHandoff _ identity _ | .resume _ identity _ _ =>
    NotOpening state identity
  /- executors return the session that they were asked for, -/
  | .opened call answer => ∀ identity executorId generation,
      state.calls call = some (.opening identity executorId generation) →
      ∀ session, answer = .ok session → assertReturnedSession executorId generation session = .ok ()
  /- a prompt ends when nothing is pending in its session, also where the manager throws, -/
  | .event call event => ∀ session lastSequence,
      state.calls call = some (.prompting session lastSequence) →
      (∀ binding, state.sessions session = some binding →
        ∃ accepted, acceptEvent binding lastSequence event = .ok accepted) ∨ Answered state session
  | .leave call => ∀ session lastSequence,
      state.calls call = some (.prompting session lastSequence) → Answered state session
  /- a response is not given while another one to the request is being taken, -/
  | .respond taskId executionId requestId _ => ∀ session,
      state.bindings (bindingKey taskId executionId) = some session →
      ∀ call, state.calls call ≠ some (.responding session requestId)
  /- and a session that is closed has not been replaced in the meantime. -/
  | .closed call _ => ∀ key session, state.calls call = some (.closing key session) →
      ∀ other, state.bindings key = some other → other = session
  | .prompt _ _ | .responded _ _ | .cancel _ _ | .cancelled _ _ | .close _ _ => True

/-! ## The table of bindings -/

section Table

variable {bindings : String → Option Nat} {calls : Nat → Option ManagerCall}
  {nextSession nextCall session call : Nat} {effects : List SessionEffect} {key : String}

/-- **The invariant of the table**: it holds the open sessions, and no other session is being opened for
an execution that has one. -/
structure Tabled (bindings : String → Option Nat) (calls : Nat → Option ManagerCall)
    (nextSession nextCall : Nat) (effects : List SessionEffect) : Prop where
  holds : ∀ key session, IsOpen effects key session ↔ bindings key = some session
  numbered : ∀ key session, .opened key session ∈ effects → session < nextSession
  ended : ∀ session, SessionEffect.closed session ∈ effects → session < nextSession
  named : ∀ key key' session, .opened key session ∈ effects → .opened key' session ∈ effects → key = key'
  fresh : ∀ call, nextCall ≤ call → calls call = none
  opening : ∀ call identity executorId generation,
    calls call = some (.opening identity executorId generation) → bindings identity.key = none
  alone : ∀ call call' identity identity' executorId executorId' generation generation',
    calls call = some (.opening identity executorId generation) →
    calls call' = some (.opening identity' executorId' generation') → identity.key = identity'.key →
      call = call'
  closing : ∀ call key session, calls call = some (.closing key session) →
    .opened key session ∈ effects

def SessionEffect.Other : SessionEffect → Prop
  | .opened _ _ | .closed _ => False
  | .requested _ _ _ _ | .forwarded _ _ _ _ | .refused _ | .ended _ => True

theorem isOpen_cons {effect : SessionEffect} (other : effect.Other) :
    IsOpen (effect :: effects) key session ↔ IsOpen effects key session := by
  unfold IsOpen
  rw [mem_cons, mem_cons]
  cases effect with
  | opened => exact other.elim
  | closed => exact other.elim
  | _ => simp

theorem Tabled.emit (tabled : Tabled bindings calls nextSession nextCall effects)
    {effect : SessionEffect} (other : effect.Other) :
    Tabled bindings calls nextSession nextCall (effect :: effects) := by
  have earlier {event : SessionEffect} (member : event ∈ effect :: effects) (differs : ¬ event.Other) :
      event ∈ effects := by
    rcases mem_cons.1 member with rfl | member
    · exact absurd other differs
    · exact member
  refine ⟨fun key session => (isOpen_cons other).trans (tabled.holds key session),
    fun key session opened => tabled.numbered key session (earlier opened fun never => never),
    fun session closed => tabled.ended session (earlier closed fun never => never),
    fun key key' session opened opened' => tabled.named key key' session
      (earlier opened fun never => never) (earlier opened' fun never => never),
    tabled.fresh, tabled.opening, tabled.alone, fun call key session isClosing =>
      mem_cons_of_mem _ (tabled.closing call key session isClosing)⟩

def ManagerCall.Other : ManagerCall → Prop
  | .opening _ _ _ | .closing _ _ => False
  | .prompting _ _ | .responding _ _ | .cancelling _ => True

section

variable (tabled : Tabled bindings calls nextSession nextCall effects)
include tabled

theorem Tabled.setCall
    (before : call < nextCall) {next : Option ManagerCall} (other : ∀ kind, next = some kind → kind.Other) :
    Tabled bindings (update calls call next) nextSession nextCall effects := by
  have earlier {number : Nat} {kind : ManagerCall}
      (isCall : update calls call next number = some kind) (differs : ¬ kind.Other) :
      calls number = some kind := by
    by_cases same : number = call
    · rw [same, update_self] at isCall
      exact absurd (other kind isCall) differs
    · rwa [update_of_ne same] at isCall
  refine ⟨tabled.holds, tabled.numbered, tabled.ended, tabled.named, fun number later => ?_,
    fun number identity executorId generation isOpening =>
      tabled.opening number identity executorId generation (earlier isOpening fun never => never),
    fun number number' identity identity' executorId executorId' generation generation' isOpening
      isOpening' => tabled.alone number number' identity identity' executorId executorId' generation
        generation' (earlier isOpening fun never => never) (earlier isOpening' fun never => never),
    fun number key session isClosing =>
      tabled.closing number key session (earlier isClosing fun never => never)⟩
  rw [update_of_ne (by omega)]
  exact tabled.fresh number later

theorem Tabled.finish
    (call : Nat) : Tabled bindings (update calls call none) nextSession nextCall effects := by
  by_cases before : call < nextCall
  · exact tabled.setCall before (by rintro _ ⟨⟩)
  · rw [← tabled.fresh call (Nat.le_of_not_lt before), Function.update_eq_self]
    exact tabled

theorem Tabled.await {next : ManagerCall}
    (opens : ∀ identity executorId generation, next = .opening identity executorId generation →
      bindings identity.key = none ∧ ∀ number other executorId' generation',
        calls number = some (.opening other executorId' generation') → other.key ≠ identity.key)
    (closes : ∀ key session, next = .closing key session → .opened key session ∈ effects) :
    Tabled bindings (update calls nextCall (some next)) nextSession (nextCall + 1) effects := by
  refine ⟨tabled.holds, tabled.numbered, tabled.ended, tabled.named, fun number later => ?_, ?_, ?_, ?_⟩
  · rw [update_of_ne (by omega)]
    exact tabled.fresh number (by omega)
  · intro number identity executorId generation isOpening
    rcases update_some isOpening with ⟨-, isNew⟩ | ⟨-, isOpening⟩
    · exact (opens identity executorId generation (Option.some.inj isNew)).1
    · exact tabled.opening number identity executorId generation isOpening
  · intro number number' identity identity' executorId executorId' generation generation' isOpening
      isOpening' sameKey
    rcases update_some isOpening with ⟨same, isNew⟩ | ⟨-, isOpening⟩ <;>
      rcases update_some isOpening' with ⟨same', isNew'⟩ | ⟨-, isOpening'⟩
    · exact same.trans same'.symm
    · have alone := (opens identity executorId generation (Option.some.inj isNew)).2
      exact absurd sameKey.symm (alone number' identity' executorId' generation' isOpening')
    · have alone := (opens identity' executorId' generation' (Option.some.inj isNew')).2
      exact absurd sameKey (alone number identity executorId generation isOpening)
    · exact tabled.alone number number' identity identity' executorId executorId' generation generation'
        isOpening isOpening' sameKey
  · intro number key session isClosing
    rcases update_some isClosing with ⟨-, isNew⟩ | ⟨-, isClosing⟩
    · exact closes key session (Option.some.inj isNew)
    · exact tabled.closing number key session isClosing

/-- **A session that is opened** is bound to its execution. -/
theorem Tabled.open {identity : ExecutorTaskIdentity} {executorId : String} {generation : Nat}
    (isOpening : calls call = some (.opening identity executorId generation)) :
    Tabled (update bindings identity.key (some nextSession)) (update calls call none)
      (nextSession + 1) nextCall (.opened identity.key nextSession :: effects) := by
  have unbound := tabled.opening call identity executorId generation isOpening
  have later {key : String} {session : Nat}
      (opened : .opened key session ∈ SessionEffect.opened identity.key nextSession :: effects) :
      key = identity.key ∧ session = nextSession ∨ .opened key session ∈ effects := by
    rcases mem_cons.1 opened with isNew | earlier
    · cases isNew
      exact .inl ⟨rfl, rfl⟩
    · exact .inr earlier
  have unclosed : SessionEffect.closed nextSession ∉ effects := fun closed =>
    absurd (tabled.ended _ closed) (Nat.lt_irrefl _)
  refine ⟨fun key session => ?_, fun key session opened => ?_, fun session closed => ?_, ?_,
    (tabled.finish call).fresh, ?_, (tabled.finish call).alone, ?_⟩
  · by_cases same : key = identity.key
    · subst same
      rw [update_self]
      constructor
      · rintro ⟨opened, isOpen⟩
        rcases later opened with ⟨-, rfl⟩ | earlier
        · rfl
        · -- the execution would have had a session already
          have held := (tabled.holds _ session).1 ⟨earlier, fun closed =>
            isOpen (mem_cons_of_mem _ closed)⟩
          rw [unbound] at held
          cases held
      · rintro ⟨⟩
        refine ⟨List.mem_cons_self, fun closed => ?_⟩
        rcases mem_cons.1 closed with isNew | closed
        · cases isNew
        · exact unclosed closed
    · rw [update_of_ne same, ← tabled.holds key session]
      unfold IsOpen
      rw [mem_cons, mem_cons]
      simp [same]
  · rcases later opened with ⟨-, rfl⟩ | earlier
    · exact Nat.lt_succ_self _
    · exact Nat.lt_succ_of_lt (tabled.numbered key session earlier)
  · rcases mem_cons.1 closed with isNew | closed
    · cases isNew
    · exact Nat.lt_succ_of_lt (tabled.ended session closed)
  · intro key key' session opened opened'
    rcases later opened with ⟨rfl, rfl⟩ | earlier <;> rcases later opened' with ⟨rfl, same⟩ | earlier'
    · rfl
    · exact absurd (tabled.numbered _ _ earlier') (Nat.lt_irrefl _)
    · exact absurd (same ▸ tabled.numbered _ _ earlier) (Nat.lt_irrefl _)
    · exact tabled.named key key' session earlier earlier'
  · intro number other executorId' generation' isOther
    have differs : other.key ≠ identity.key := by
      intro same
      rcases update_some isOther with ⟨rfl, ⟨⟩⟩ | ⟨isCall, isOther⟩
      exact isCall (tabled.alone number call other identity executorId' executorId generation'
        generation isOther isOpening same)
    rw [update_of_ne differs]
    exact (tabled.finish call).opening number other executorId' generation' isOther
  · intro number key session isClosing
    exact mem_cons_of_mem _ ((tabled.finish call).closing number key session isClosing)

/-- **A session that is closed** is no longer bound, when no other one has replaced it. -/
theorem Tabled.close (isClosing : calls call = some (.closing key session))
    (same : ∀ other, bindings key = some other → other = session) :
    Tabled (update bindings key none) (update calls call none) nextSession nextCall
      (.closed session :: effects) := by
  have opened := tabled.closing call key session isClosing
  have earlier {key : String} {session' : Nat}
      (opened : .opened key session' ∈ SessionEffect.closed session :: effects) :
      .opened key session' ∈ effects := by
    rcases mem_cons.1 opened with isNew | earlier
    · cases isNew
    · exact earlier
  refine ⟨fun other session' => ?_, fun other session' opened => tabled.numbered _ _ (earlier opened),
    fun session' closed => ?_, fun _ _ session' opened opened' => tabled.named _ _ session'
      (earlier opened) (earlier opened'), (tabled.finish call).fresh, ?_, (tabled.finish call).alone, ?_⟩
  · constructor
    · rintro ⟨isOpened, isOpen⟩
      have held := (tabled.holds other session').1 ⟨earlier isOpened, fun closed =>
        isOpen (mem_cons_of_mem _ closed)⟩
      by_cases isKey : other = key
      · -- the session in the table is the one that is closed
        subst isKey
        obtain rfl := same session' held
        exact absurd List.mem_cons_self isOpen
      · rw [update_of_ne isKey]
        exact held
    · intro held
      rcases update_some held with ⟨rfl, ⟨⟩⟩ | ⟨isKey, held⟩
      obtain ⟨isOpened, isOpen⟩ := (tabled.holds other session').2 held
      refine ⟨mem_cons_of_mem _ isOpened, fun closed => ?_⟩
      rcases mem_cons.1 closed with isNew | closed
      · cases isNew
        exact isKey (tabled.named other key _ isOpened opened)
      · exact isOpen closed
  · rcases mem_cons.1 closed with isNew | closed
    · cases isNew
      exact tabled.numbered key session opened
    · exact tabled.ended session' closed
  · intro number identity executorId generation isOpening
    have unbound := (tabled.finish call).opening number identity executorId generation isOpening
    by_cases isKey : identity.key = key
    · rw [isKey, update_self]
    · rw [update_of_ne isKey]
      exact unbound
  · intro number other session' isClosing
    exact mem_cons_of_mem _ ((tabled.finish call).closing number other session' isClosing)

end

end Table

/-! ## Requests that are pending -/

section Requests

variable {sessions : Nat → Option ExecutorBinding} {calls calls' : Nat → Option ManagerCall}
  {nextCall session call : Nat} {effects : List SessionEffect} {effect : SessionEffect}
  {requestId : String} {allowSessionApproval : Bool}

/-- **A request is pending**: it is the last one of its identifier, and its prompt goes on. -/
def Pending (calls : Nat → Option ManagerCall) (effects : List SessionEffect) (session : Nat)
    (requestId : String) (allowSessionApproval : Bool) : Prop :=
  ∃ since before prompt,
    effects = since ++ .requested session prompt requestId allowSessionApproval :: before ∧
    (∀ prompt allowSessionApproval,
      SessionEffect.requested session prompt requestId allowSessionApproval ∉ since) ∧
    (∃ lastSequence, calls prompt = some (.prompting session lastSequence)) ∧
    ∀ call decision, .forwarded session call requestId decision ∈ since →
      .refused call ∈ since ∨ calls call = some (.responding session requestId)

theorem Pending.grow (pending : Pending calls effects session requestId allowSessionApproval)
    (more : List SessionEffect)
    (unasked : ∀ prompt allowSessionApproval,
      SessionEffect.requested session prompt requestId allowSessionApproval ∉ more)
    (goesOn : ∀ prompt lastSequence, calls prompt = some (.prompting session lastSequence) →
      ∃ lastSequence, calls' prompt = some (.prompting session lastSequence))
    (responds : ∀ call decision, .forwarded session call requestId decision ∈ more →
      calls' call = some (.responding session requestId))
    (stays : ∀ call, calls call = some (.responding session requestId) →
      .refused call ∈ more ∨ calls' call = some (.responding session requestId)) :
    Pending calls' (more ++ effects) session requestId allowSessionApproval := by
  obtain ⟨since, before, prompt, rfl, last, ⟨lastSequence, isPrompt⟩, taken⟩ := pending
  refine ⟨more ++ since, before, prompt, (List.append_assoc ..).symm, ?_, goesOn prompt _ isPrompt, ?_⟩
  · intro prompt allowed member
    rcases List.mem_append.1 member with isMore | earlier
    · exact unasked prompt allowed isMore
    · exact last prompt allowed earlier
  · intro call decision member
    rcases List.mem_append.1 member with isMore | earlier
    · exact .inr (responds call decision isMore)
    · rcases taken call decision earlier with refused | onItsWay
      · exact .inl (List.mem_append_right _ refused)
      · exact (stays call onItsWay).imp (List.mem_append_left _) fun isCall => isCall

/-- **The invariant of the requests.** -/
structure Asked (sessions : Nat → Option ExecutorBinding) (calls : Nat → Option ManagerCall)
    (nextCall : Nat) (effects : List SessionEffect) : Prop where
  fresh : ∀ call, nextCall ≤ call → calls call = none
  finished : ∀ call, .ended call ∈ effects → call < nextCall ∧ calls call = none
  pending : ∀ session binding, sessions session = some binding → ∀ requestId allowSessionApproval,
      binding.pendingPermissions.lookup requestId = some allowSessionApproval →
      Pending calls effects session requestId allowSessionApproval
  answers : ∀ session call requestId decision earlier,
    SessionEffect.forwarded session call requestId decision :: earlier <:+ effects →
      Answers earlier session requestId decision

section

variable (asked : Asked sessions calls nextCall effects)
include asked

/-- Effects that are neither responses nor ends of prompts keep what has been answered. -/
theorem Asked.answers_cons (other : ∀ session call requestId decision,
      effect ≠ .forwarded session call requestId decision) :
    ∀ session call requestId decision earlier,
      SessionEffect.forwarded session call requestId decision :: earlier <:+ effect :: effects →
        Answers earlier session requestId decision := by
  intro session call requestId decision earlier isSuffix
  rcases List.suffix_cons_iff.1 isSuffix with same | isSuffix
  · exact absurd (List.cons.inj same).1.symm (other session call requestId decision)
  · exact asked.answers session call requestId decision earlier isSuffix

theorem Asked.setCall {next : Option ManagerCall}
    {nextCall' : Nat} (grows : nextCall ≤ nextCall') (before : call < nextCall' ∨ next = none)
    (unended : next ≠ none → .ended call ∉ effects)
    (kind : ∀ session, (∀ lastSequence, calls call ≠ some (.prompting session lastSequence)) ∧
      ∀ requestId, calls call ≠ some (.responding session requestId)) :
    Asked sessions (update calls call next) nextCall' effects := by
  have others {number : Nat} (differs : number ≠ call) :
      update calls call next number = calls number := update_of_ne differs ..
  refine ⟨fun number later => ?_, fun number ended => ?_, ?_, asked.answers⟩
  · by_cases same : number = call
    · rw [same, update_self]
      exact before.resolve_left (by omega)
    · rw [others same]
      exact asked.fresh number (by omega)
  · obtain ⟨number_, none_⟩ := asked.finished number ended
    refine ⟨by omega, ?_⟩
    by_cases same : number = call
    · rw [same, update_self]
      by_contra some_
      exact unended some_ (same ▸ ended)
    · rw [others same]
      exact none_
  · intro session binding isBinding requestId allowed isPending
    refine (asked.pending session binding isBinding requestId allowed isPending).grow [] ?_ ?_ ?_ ?_
    · rintro _ _ ⟨⟩
    · intro prompt lastSequence isPrompt
      refine ⟨lastSequence, ?_⟩
      rw [others fun same => (kind session).1 lastSequence (same ▸ isPrompt)]
      exact isPrompt
    · rintro _ _ ⟨⟩
    · intro number onItsWay
      refine .inr ?_
      rw [others fun same => (kind session).2 requestId (same ▸ onItsWay)]
      exact onItsWay

theorem Asked.await (next : ManagerCall) :
    Asked sessions (update calls nextCall (some next)) (nextCall + 1) effects := by
  have none_ := asked.fresh nextCall (Nat.le_refl _)
  refine asked.setCall (Nat.le_succ _) (.inl (Nat.lt_succ_self _)) (fun _ ended => ?_) fun session => ?_
  · exact absurd (asked.finished nextCall ended).1 (Nat.lt_irrefl _)
  · rw [none_]
    exact ⟨by rintro _ ⟨⟩, by rintro _ ⟨⟩⟩

theorem Asked.emit
    (other : (∃ key session, effect = .opened key session) ∨ ∃ session, effect = .closed session) :
    Asked sessions calls nextCall (effect :: effects) := by
  have differs : ∀ {event : SessionEffect}, event.Other → event ≠ effect := by
    rintro event isOther rfl
    rcases other with ⟨key, session, rfl⟩ | ⟨session, rfl⟩
    · exact isOther
    · exact isOther
  refine ⟨asked.fresh, fun call ended => ?_, ?_, asked.answers_cons fun session call requestId decision =>
    ?_⟩
  · rcases mem_cons.1 ended with isNew | earlier
    · have isOther : (SessionEffect.ended call).Other := trivial
      exact absurd isNew (differs isOther)
    · exact asked.finished call earlier
  · intro session binding isBinding requestId allowed isPending
    refine (asked.pending session binding isBinding requestId allowed isPending).grow [effect] ?_ ?_ ?_ ?_
    · intro prompt allowed member
      have isOther : (SessionEffect.requested session prompt requestId allowed).Other := trivial
      exact differs isOther (mem_singleton.1 member)
    · exact fun prompt lastSequence isPrompt => ⟨lastSequence, isPrompt⟩
    · intro number decision member
      have isOther : (SessionEffect.forwarded session number requestId decision).Other := trivial
      exact absurd (mem_singleton.1 member) (differs isOther)
    · exact fun _ onItsWay => .inr onItsWay
  · have isOther : (SessionEffect.forwarded session call requestId decision).Other := trivial
    exact (differs isOther).symm

theorem Asked.setSession {binding : ExecutorBinding} (answered : binding.pendingPermissions = []) :
    Asked (update sessions session (some binding)) calls nextCall effects := by
  refine ⟨asked.fresh, asked.finished, fun other found isBinding requestId allowed isPending => ?_,
    asked.answers⟩
  rcases update_some isBinding with ⟨rfl, ⟨⟩⟩ | ⟨_, isBinding⟩
  · rw [answered] at isPending
    cases isPending
  · exact asked.pending other found isBinding requestId allowed isPending

theorem Asked.endOther {kind : ManagerCall} (isCall : calls call = some kind)
    (notPrompting : ∀ session lastSequence, kind ≠ .prompting session lastSequence)
    (notResponding : ∀ session requestId, kind ≠ .responding session requestId) :
    Asked sessions (update calls call none) nextCall effects := by
  refine asked.setCall (Nat.le_refl _) (.inr rfl) (fun some_ => absurd rfl some_) fun session => ?_
  rw [isCall]
  exact ⟨fun last same => notPrompting session last (Option.some.inj same),
    fun requestId same => notResponding session requestId (Option.some.inj same)⟩

/-- **A prompt ends** when nothing is pending in its session. -/
theorem Asked.endPrompt {lastSequence : Nat}
    (isPrompt : calls call = some (.prompting session lastSequence))
    (answered : ∀ binding, sessions session = some binding → binding.pendingPermissions = []) :
    Asked sessions (update calls call none) nextCall (.ended call :: effects) := by
  have before : call < nextCall := by
    by_contra later
    rw [asked.fresh call (Nat.le_of_not_lt later)] at isPrompt
    cases isPrompt
  refine ⟨fun number later => ?_, fun number ended => ?_, fun other binding isBinding requestId allowed
    isPending => ?_, asked.answers_cons (by rintro _ _ _ _ ⟨⟩)⟩
  · rw [update_of_ne (by omega)]
    exact asked.fresh number later
  · by_cases same : number = call
    · rw [same, update_self]
      exact ⟨before, rfl⟩
    · rcases mem_cons.1 ended with isNew | earlier
      · cases isNew
        exact absurd rfl same
      · rw [update_of_ne same]
        exact asked.finished number earlier
  · have differs : other ≠ session := by
      rintro rfl
      rw [answered binding isBinding] at isPending
      cases isPending
    refine (asked.pending other binding isBinding requestId allowed isPending).grow [.ended call]
      ?_ ?_ ?_ ?_
    · intro _ _ member
      cases mem_singleton.1 member
    · intro prompt lastSequence isOther
      refine ⟨lastSequence, ?_⟩
      rw [update_of_ne]
      · exact isOther
      · rintro rfl
        rw [isPrompt] at isOther
        cases isOther
        exact differs rfl
    · intro _ _ member
      cases mem_singleton.1 member
    · intro number onItsWay
      refine .inr ?_
      rw [update_of_ne]
      · exact onItsWay
      · rintro rfl
        rw [isPrompt] at onItsWay
        cases onItsWay

/-- **A response is forwarded** when no other one to its request is on its way. -/
theorem Asked.forward {binding : ExecutorBinding}
    {decision : PermissionDecision} (isBinding : sessions session = some binding)
    (isPending : binding.pendingPermissions.lookup requestId = some allowSessionApproval)
    (allowed : ¬ (decision = .approveSession ∧ ¬ allowSessionApproval))
    (alone : ∀ call, calls call ≠ some (.responding session requestId)) :
    Asked sessions (update calls nextCall (some (.responding session requestId)))
      (nextCall + 1) (.forwarded session nextCall requestId decision :: effects) := by
  have awaited := asked.await (.responding session requestId)
  refine ⟨awaited.fresh, fun call ended => ?_, ?_, ?_⟩
  · rcases mem_cons.1 ended with isNew | earlier
    · cases isNew
    · exact awaited.finished call earlier
  · intro other found isFound requestId' allowed' isPending'
    refine (awaited.pending other found isFound requestId' allowed' isPending').grow
      [.forwarded session nextCall requestId decision] ?_ ?_ ?_ ?_
    · intro _ _ member
      cases mem_singleton.1 member
    · exact fun prompt lastSequence isPrompt => ⟨lastSequence, isPrompt⟩
    · intro call decision' member
      cases mem_singleton.1 member
      exact update_self ..
    · exact fun _ onItsWay => .inr onItsWay
  · intro other call requestId' decision' earlier isSuffix
    rcases List.suffix_cons_iff.1 isSuffix with same | isSuffix
    · obtain ⟨isNew, rfl⟩ := List.cons.inj same
      cases isNew
      obtain ⟨since, before, prompt, isRequest, last, ⟨lastSequence, isPrompt⟩, taken⟩ :=
        asked.pending session binding isBinding requestId allowSessionApproval isPending
      refine ⟨since, before, prompt, allowSessionApproval, isRequest, last, ?_, ?_, ?_⟩
      · exact fun call decision forwarded => (taken call decision forwarded).resolve_right (alone call)
      · -- the prompt goes on, so that it has not ended
        intro ended
        have isOver := (asked.finished prompt (isRequest ▸ List.mem_append_left _ ended)).2
        rw [isPrompt] at isOver
        cases isOver
      · intro isSession
        by_contra notAllowed
        exact allowed ⟨isSession, notAllowed⟩
    · exact asked.answers other call requestId' decision' earlier isSuffix

theorem Asked.refuse (isCall : calls call = some (.responding session requestId)) :
    Asked sessions (update calls call none) nextCall (.refused call :: effects) := by
  refine ⟨fun number later => ?_, fun number ended => ?_, fun other binding isBinding requestId' allowed
    isPending => ?_, asked.answers_cons (by rintro _ _ _ _ ⟨⟩)⟩
  · by_cases same : number = call
    · rw [same, update_self]
    · rw [update_of_ne same]
      exact asked.fresh number later
  · rcases mem_cons.1 ended with isNew | earlier
    · cases isNew
    · obtain ⟨before, none_⟩ := asked.finished number earlier
      refine ⟨before, ?_⟩
      by_cases same : number = call
      · rw [same, update_self]
      · rw [update_of_ne same]
        exact none_
  · refine (asked.pending other binding isBinding requestId' allowed isPending).grow [.refused call]
      ?_ ?_ ?_ ?_
    · intro _ _ member
      cases mem_singleton.1 member
    · intro prompt lastSequence isPrompt
      refine ⟨lastSequence, ?_⟩
      rw [update_of_ne]
      · exact isPrompt
      · rintro rfl
        rw [isCall] at isPrompt
        cases isPrompt
    · intro _ _ member
      cases mem_singleton.1 member
    · intro number onItsWay
      by_cases same : number = call
      · exact .inl (same ▸ List.mem_singleton_self _)
      · exact .inr (by rw [update_of_ne same]; exact onItsWay)

theorem Asked.take (isCall : calls call = some (.responding session requestId)) :
    Asked (update sessions session
        ((sessions session).map fun binding => binding.answered requestId))
      (update calls call none) nextCall effects := by
  refine ⟨fun number later => ?_, fun number ended => ?_, fun other binding isBinding requestId' allowed
    isPending => ?_, asked.answers⟩
  · by_cases same : number = call
    · rw [same, update_self]
    · rw [update_of_ne same]
      exact asked.fresh number later
  · obtain ⟨before, none_⟩ := asked.finished number ended
    refine ⟨before, ?_⟩
    by_cases same : number = call
    · rw [same, update_self]
    · rw [update_of_ne same]
      exact none_
  · -- what is pending now was pending before, and is another request
    obtain ⟨earlier, isEarlier, wasPending, another⟩ : ∃ earlier, sessions other = some earlier ∧
        earlier.pendingPermissions.lookup requestId' = some allowed ∧
          ¬ (other = session ∧ requestId' = requestId) := by
      by_cases same : other = session
      · subst same
        rw [update_self] at isBinding
        obtain ⟨earlier, isEarlier, rfl⟩ := Option.map_eq_some_iff.1 isBinding
        have differs : requestId' ≠ requestId := by
          rintro rfl
          have stays := (List.mem_filter.1 (mem_of_lookup isPending)).2
          simp at stays
        refine ⟨earlier, isEarlier, ?_, fun both => differs both.2⟩
        rw [← isPending, ExecutorBinding.answered]
        exact (lookup_filter_ne differs).symm
      · rw [update_of_ne same] at isBinding
        exact ⟨binding, isBinding, isPending, fun both => same both.1⟩
    refine (asked.pending other earlier isEarlier requestId' allowed wasPending).grow [] ?_ ?_ ?_ ?_
    · rintro _ _ ⟨⟩
    · intro prompt lastSequence isPrompt
      refine ⟨lastSequence, ?_⟩
      rw [update_of_ne]
      · exact isPrompt
      · rintro rfl
        rw [isCall] at isPrompt
        cases isPrompt
    · rintro _ _ ⟨⟩
    · intro number onItsWay
      refine .inr ?_
      rw [update_of_ne]
      · exact onItsWay
      · rintro rfl
        rw [isCall] at onItsWay
        cases onItsWay
        exact another ⟨rfl, rfl⟩

/-- A prompt goes on, with as much pending in its session as before, or nothing. -/
theorem Asked.goOn {binding accepted : ExecutorBinding}
    {lastSequence : Nat} (isCall : calls call = some (.prompting session lastSequence))
    (isBinding : sessions session = some binding)
    (fewer : accepted.pendingPermissions = binding.pendingPermissions ∨ accepted.pendingPermissions = [])
    (sequence : Nat) :
    Asked (update sessions session (some accepted))
      (update calls call (some (.prompting session sequence))) nextCall effects := by
  have before : call < nextCall := by
    by_contra later
    rw [asked.fresh call (Nat.le_of_not_lt later)] at isCall
    cases isCall
  refine ⟨fun number later => ?_, fun number ended => ?_, fun other found isFound requestId allowed
    isPending => ?_, asked.answers⟩
  · rw [update_of_ne (by omega)]
    exact asked.fresh number later
  · obtain ⟨earlier, none_⟩ := asked.finished number ended
    refine ⟨earlier, ?_⟩
    rw [update_of_ne]
    · exact none_
    · rintro rfl
      rw [isCall] at none_
      cases none_
  · obtain ⟨earlier, isEarlier, wasPending⟩ : ∃ earlier, sessions other = some earlier ∧
        earlier.pendingPermissions.lookup requestId = some allowed := by
      rcases update_some isFound with ⟨rfl, ⟨⟩⟩ | ⟨_, isFound⟩
      · rcases fewer with kept | cleared
        · exact ⟨binding, isBinding, kept ▸ isPending⟩
        · rw [cleared] at isPending
          cases isPending
      · exact ⟨found, isFound, isPending⟩
    refine (asked.pending other earlier isEarlier requestId allowed wasPending).grow [] ?_ ?_ ?_ ?_
    · rintro _ _ ⟨⟩
    · intro prompt last isPrompt
      by_cases same : prompt = call
      · subst same
        rw [isCall] at isPrompt
        cases isPrompt
        exact ⟨sequence, update_self ..⟩
      · exact ⟨last, by rw [update_of_ne same]; exact isPrompt⟩
    · rintro _ _ ⟨⟩
    · intro number onItsWay
      refine .inr ?_
      rw [update_of_ne]
      · exact onItsWay
      · rintro rfl
        rw [isCall] at onItsWay
        cases onItsWay

/-- **A request is emitted** whose identifier is not pending. -/
theorem Asked.request {binding : ExecutorBinding}
    {lastSequence : Nat} (isCall : calls call = some (.prompting session lastSequence))
    (isBinding : sessions session = some binding)
    (fresh : binding.pendingPermissions.lookup requestId = none) (allowSessionApproval : Bool) :
    Asked (update sessions session (some { binding with
        pendingPermissions := binding.pendingPermissions ++ [(requestId, allowSessionApproval)] }))
      calls nextCall (.requested session call requestId allowSessionApproval :: effects) := by
  refine ⟨asked.fresh, fun number ended => ?_, fun other found isFound requestId' allowed isPending => ?_,
    asked.answers_cons (by rintro _ _ _ _ ⟨⟩)⟩
  · rcases mem_cons.1 ended with isNew | earlier
    · cases isNew
    · exact asked.finished number earlier
  · have cases_ : (other = session ∧ requestId' = requestId ∧ allowed = allowSessionApproval) ∨
        ¬ (other = session ∧ requestId' = requestId) ∧ Pending calls effects other requestId' allowed := by
      rcases update_some isFound with ⟨rfl, ⟨⟩⟩ | ⟨same, isFound⟩
      · rw [List.lookup_append] at isPending
        by_cases isNew : requestId' = requestId
        · subst isNew
          rw [fresh, Option.none_or, List.lookup_cons, beq_self_eq_true] at isPending
          exact .inl ⟨rfl, rfl, (Option.some.inj isPending).symm⟩
        · have unlike : (requestId' == requestId) = false := beq_false_of_ne isNew
          rw [List.lookup_cons, unlike, List.lookup_nil, Option.or_none] at isPending
          exact .inr ⟨fun both => isNew both.2, asked.pending other binding isBinding _ _ isPending⟩
      · exact .inr ⟨fun both => same both.1, asked.pending other found isFound _ _ isPending⟩
    rcases cases_ with ⟨rfl, rfl, rfl⟩ | ⟨another, pending⟩
    · -- the request itself
      exact ⟨[], effects, call, rfl, by rintro _ _ ⟨⟩, ⟨lastSequence, isCall⟩, by rintro _ _ ⟨⟩⟩
    · refine pending.grow [_] ?_ ?_ ?_ ?_
      · intro _ _ member
        cases mem_singleton.1 member
        exact another ⟨rfl, rfl⟩
      · exact fun prompt last isPrompt => ⟨last, isPrompt⟩
      · intro _ _ member
        cases mem_singleton.1 member
      · exact fun _ onItsWay => .inr onItsWay

end

end Requests

/-! ## The steps keep both -/

section Steps

variable {registered} {state : ManagerState} {identity : ExecutorTaskIdentity}
  {executorId taskId executionId : String} {generation call session : Nat}

/-- **The invariant of the manager.** -/
structure InOrder (state : ManagerState) : Prop where
  tabled : Tabled state.bindings state.calls state.nextSession state.nextCall state.effects
  asked : Asked state.sessions state.calls state.nextCall state.effects

/-- A step keeps the invariant, whether it returns or throws. -/
abbrev Orders (procedure : ManagerProcedure Unit) (state : ManagerState) : Prop :=
  procedure.Ensures (fun _ after => InOrder after) (fun _ after => InOrder after) state

section

variable (inOrder : InOrder state)
include inOrder

section

variable (alone : NotOpening state identity)
include alone

theorem beginOpening_inOrder :
    Orders (beginOpening registered identity executorId generation) state := by
  simp only [Orders, beginOpening, requireExecutor, ensures_bind, ensures_read, ensures_modify]
  refine .check (fun unbound => .check (fun _ => ⟨?_, inOrder.asked.await _⟩) inOrder) inOrder
  refine inOrder.tabled.await ?_ (by rintro _ _ ⟨⟩)
  rintro _ _ _ ⟨⟩
  exact ⟨Option.isNone_iff_eq_none.1 unbound, alone⟩

theorem startWithContext_inOrder {handoff : Option ExecutorHandoffCheckpointRef} :
    Orders (startWithContext registered executorId identity generation handoff) state := by
  simp only [Orders, startWithContext, ensures_bind]
  exact .ofExcept (fun _ _ => .ofExcept (fun _ _ => .ofExcept (fun _ _ =>
    beginOpening_inOrder inOrder alone) fun _ => inOrder) fun _ => inOrder) fun _ => inOrder

theorem beginStartFromHandoff_inOrder {checkpoint : ExecutorHandoffCheckpointRef} :
    Orders (beginStartFromHandoff registered executorId identity checkpoint) state := by
  simp only [Orders, beginStartFromHandoff, ensures_bind]
  exact .ofExcept (fun _ _ => .ofExcept (fun _ _ => startWithContext_inOrder inOrder alone)
    fun _ => inOrder) fun _ => inOrder

theorem beginResume_inOrder {ref : ExecutorSession} {checkpoint : ExecutorHandoffCheckpointRef} :
    Orders (beginResume registered executorId identity ref checkpoint) state := by
  simp only [Orders, beginResume, ensures_bind]
  refine .ofExcept (fun _ _ => .ofExcept (fun _ _ => .ofExcept (fun _ _ => ?_) fun _ => inOrder)
    fun _ => inOrder) fun _ => inOrder
  exact .check (fun _ => .check (fun _ => beginOpening_inOrder inOrder alone) inOrder) inOrder

end

theorem settleOpening_inOrder
    (isCall : state.calls call = some (.opening identity executorId generation))
    {answer : Except String ExecutorSession}
    (returned : ∀ session, answer = .ok session →
      assertReturnedSession executorId generation session = .ok ()) :
    Orders (settleOpening call identity executorId generation answer) state := by
  simp only [Orders, settleOpening, ensures_bind, ensures_modify, ensures_read]
  have finished := inOrder.asked.endOther isCall (by rintro _ _ ⟨⟩) (by rintro _ _ ⟨⟩)
  refine .ofExcept (fun opened isOpened => ?_) fun _ => ⟨inOrder.tabled.finish call, finished⟩
  rw [returned opened isOpened, Procedure.ofExcept_ok, ensures_pure]
  exact ⟨inOrder.tabled.open isCall, (finished.emit (.inl ⟨_, _, rfl⟩)).setSession rfl⟩

theorem beginCall_inOrder {kind : Nat → ManagerCall}
    (opens : ∀ session identity executorId generation,
      kind session ≠ .opening identity executorId generation)
    (closes : ∀ session key other, kind session = .closing key other →
      key = bindingKey taskId executionId ∧ other = session) :
    Orders (beginCall registered taskId executionId kind) state := by
  simp only [Orders, beginCall, requireBound, requireExecutor, ensures_bind,
    ensures_read, ensures_modify, ensures_pure]
  refine .require (fun session isBound => .require (fun binding _ => .check (fun _ => ?_) inOrder)
    inOrder) inOrder
  refine ⟨inOrder.tabled.await ?_ ?_, inOrder.asked.await _⟩
  · exact fun identity executorId generation isOpening =>
      absurd isOpening (opens session identity executorId generation)
  · intro key other isClosing
    obtain ⟨rfl, rfl⟩ := closes session key other isClosing
    exact ((inOrder.tabled.holds _ _).2 isBound).1

section

variable {lastSequence : Nat} (isCall : state.calls call = some (.prompting session lastSequence))
include isCall

theorem endCall_inOrder (answered : Answered state session) : Orders (endCall call) state :=
  (ensures_modify _).2
    ⟨(inOrder.tabled.finish call).emit trivial, inOrder.asked.endPrompt isCall answered⟩

section

variable {event : ExecutorEvent} (accepts : (∀ binding, state.sessions session = some binding →
    ∃ accepted, acceptEvent binding lastSequence event = .ok accepted) ∨ Answered state session)
include accepts

/-- An event that is accepted keeps the invariant; otherwise nothing changes and nothing is pending. -/
theorem acceptEventOf_inOrder :
    (acceptEventOf call session lastSequence event).Ensures (fun _ => InOrder)
      (fun _ after => after = state ∧ Answered state session) state := by
  simp only [acceptEventOf, ensures_bind, ensures_read, ensures_modify]
  cases isBinding : state.sessions session with
  | none =>
    refine .require (by rintro _ ⟨⟩) ⟨rfl, fun binding isSome => ?_⟩
    rw [isBinding] at isSome
    cases isSome
  | some binding =>
    rw [Procedure.require_some, ensures_pure, Procedure.ensures_ofExcept]
    refine ⟨fun accepted isAccepted => ?_, fun error isError => ⟨rfl, ?_⟩⟩
    · have before : call < state.nextCall := by
        by_contra later
        rw [inOrder.tabled.fresh call (Nat.le_of_not_lt later)] at isCall
        cases isCall
      have tabled : Tabled state.bindings (update state.calls call
          (some (.prompting session event.sequence))) state.nextSession state.nextCall
          state.effects := by
        refine inOrder.tabled.setCall before ?_
        rintro _ ⟨⟩
        trivial
      have goesOn {next : ExecutorBinding}
          (fewer : next.pendingPermissions = binding.pendingPermissions ∨ next.pendingPermissions = []) :=
        inOrder.asked.goOn isCall isBinding fewer event.sequence
      cases event with
      | permissionRequested sequence requestId allowed =>
        simp only [acceptEvent, bind_ok, ensure_ok, pure_ok] at isAccepted
        obtain ⟨_, _, _, _, _, fresh, rfl⟩ := isAccepted
        dsimp only
        rw [ensures_modify]
        refine ⟨tabled.emit trivial, ?_⟩
        have asked := (goesOn (.inl rfl)).request (update_self ..) (update_self ..) fresh allowed
        rw [Function.update_idem] at asked
        exact asked
      | failure sequence failure =>
        simp only [acceptEvent, bind_ok, pure_ok] at isAccepted
        obtain ⟨_, _, _, _, rfl⟩ := isAccepted
        exact (ensures_pure _).2 ⟨tabled, goesOn (.inl rfl)⟩
      | completed sequence outcome =>
        simp only [acceptEvent, bind_ok, pure_ok] at isAccepted
        obtain ⟨_, _, rfl⟩ := isAccepted
        exact (ensures_pure _).2 ⟨tabled, goesOn (.inr rfl)⟩
      | other sequence =>
        simp only [acceptEvent, bind_ok, pure_ok] at isAccepted
        obtain ⟨_, _, rfl⟩ := isAccepted
        exact (ensures_pure _).2 ⟨tabled, goesOn (.inl rfl)⟩
    · refine accepts.resolve_left fun accepts => ?_
      obtain ⟨accepted, isAccepted⟩ := accepts binding isBinding
      rw [isAccepted] at isError
      cases isError

theorem settleEvent_inOrder : Orders (settleEvent call session lastSequence event) state := by
  rw [Orders, settleEvent, Procedure.ensures_onError]
  refine (acceptEventOf_inOrder inOrder isCall accepts).mono (fun _ _ kept => kept) ?_
  rintro _ _ ⟨rfl, answered⟩
  exact endCall_inOrder inOrder isCall answered

end

end

theorem beginRespond_inOrder {requestId : String} {decision : PermissionDecision}
    (alone : ∀ session, state.bindings (bindingKey taskId executionId) = some session →
      ∀ call, state.calls call ≠ some (.responding session requestId)) :
    Orders (beginRespond registered taskId executionId requestId decision) state := by
  simp only [Orders, beginRespond, requireBound, requireExecutor, ensures_bind,
    ensures_read, ensures_modify, ensures_pure]
  refine .ofExcept (fun _ _ => .require (fun session isBound => .require (fun binding isBinding =>
    .require (fun allowed isPending => .check (fun allows => .check (fun _ => ?_) inOrder) inOrder)
      inOrder) inOrder) inOrder) fun _ => inOrder
  refine ⟨(inOrder.tabled.await ?_ ?_).emit trivial,
    inOrder.asked.forward isBinding isPending allows (alone session isBound)⟩
  · rintro _ _ _ ⟨⟩
  · rintro _ _ ⟨⟩

theorem settleRespond_inOrder {requestId : String}
    (isCall : state.calls call = some (.responding session requestId)) {answer : Except String Unit} :
    Orders (settleRespond call session requestId answer) state := by
  unfold settleRespond
  rw [Orders, ensures_bind, ensures_modify]
  cases answer with
  | error error =>
    dsimp only
    rw [ensures_bind, ensures_modify, Procedure.ensures_fail]
    exact ⟨(inOrder.tabled.finish call).emit trivial, inOrder.asked.refuse isCall⟩
  | ok =>
    dsimp only
    rw [ensures_modify]
    exact ⟨inOrder.tabled.finish call, inOrder.asked.take isCall⟩

theorem settleClose_inOrder {key : String}
    (isCall : state.calls call = some (.closing key session)) {answer : Except String Unit}
    (same : ∀ other, state.bindings key = some other → other = session) :
    Orders (settleClose call key session answer) state := by
  have finished := inOrder.asked.endOther isCall (by rintro _ _ ⟨⟩) (by rintro _ _ ⟨⟩)
  have inOrder : InOrder (((state.finish call).emit (.closed session)).setBinding key none) :=
    ⟨inOrder.tabled.close isCall same, finished.emit (.inr ⟨_, rfl⟩)⟩
  rw [Orders, settleClose, ensures_bind, ensures_modify]
  exact .ofExcept (fun _ _ => inOrder) fun _ => inOrder

theorem settle_inOrder {settles : ManagerCall → Option (ManagerProcedure Unit)}
    (kept : ∀ kind procedure, state.calls call = some kind → settles kind = some procedure →
      Orders procedure state) : Orders (settle call settles) state := by
  rw [Orders, settle, ensures_bind, ensures_read]
  cases isCall : state.calls call with
  | none => exact (ensures_pure _).2 inOrder
  | some kind =>
    rw [Option.bind_some]
    cases isSettled : settles kind with
    | none => exact (ensures_pure _).2 inOrder
    | some procedure => exact kept kind procedure isCall isSettled

/-- **Every step that nothing gets in the way of** keeps the invariant. -/
theorem serveStep_inOrder {step : ManagerStep}
    (uncontended : Uncontended state step) : Orders (serveStep registered step) state := by
  cases step with
  | start => exact startWithContext_inOrder inOrder uncontended
  | startFromHandoff => exact beginStartFromHandoff_inOrder inOrder uncontended
  | resume => exact beginResume_inOrder inOrder uncontended
  | opened call answer =>
    refine settle_inOrder inOrder fun kind procedure isCall isSettled => ?_
    cases kind with
    | opening identity executorId generation =>
      cases isSettled
      exact settleOpening_inOrder inOrder isCall (uncontended _ _ _ isCall)
    | _ => cases isSettled
  | prompt taskId executionId =>
    show Orders (beginCall registered taskId executionId fun session => .prompting session 0) state
    exact beginCall_inOrder inOrder (by rintro _ _ _ _ ⟨⟩) (by rintro _ _ _ ⟨⟩)
  | event call event =>
    refine settle_inOrder inOrder fun kind procedure isCall isSettled => ?_
    cases kind with
    | prompting session lastSequence =>
      cases isSettled
      exact settleEvent_inOrder inOrder isCall (uncontended _ _ isCall)
    | _ => cases isSettled
  | leave call =>
    refine settle_inOrder inOrder fun kind procedure isCall isSettled => ?_
    cases kind with
    | prompting session lastSequence =>
      cases isSettled
      exact endCall_inOrder inOrder isCall (uncontended _ _ isCall)
    | _ => cases isSettled
  | respond => exact beginRespond_inOrder inOrder uncontended
  | responded call answer =>
    refine settle_inOrder inOrder fun kind procedure isCall isSettled => ?_
    cases kind with
    | responding session requestId =>
      cases isSettled
      exact settleRespond_inOrder inOrder isCall
    | _ => cases isSettled
  | cancel taskId executionId =>
    show Orders (beginCall registered taskId executionId .cancelling) state
    exact beginCall_inOrder inOrder (by rintro _ _ _ _ ⟨⟩) (by rintro _ _ _ ⟨⟩)
  | cancelled call answer =>
    refine settle_inOrder inOrder fun kind procedure isCall isSettled => ?_
    cases kind with
    | cancelling session =>
      cases isSettled
      have finished : InOrder (state.finish call) := by
        refine ⟨inOrder.tabled.finish call, inOrder.asked.setCall (Nat.le_refl _) (.inr rfl)
          (fun some_ => absurd rfl some_) fun session => ?_⟩
        rw [isCall]
        exact ⟨by rintro _ ⟨⟩, by rintro _ ⟨⟩⟩
      rw [Orders, ensures_bind, ensures_modify]
      exact .ofExcept (fun _ _ => finished) fun _ => finished
    | _ => cases isSettled
  | close taskId executionId =>
    show Orders (beginCall registered taskId executionId
      (.closing (bindingKey taskId executionId))) state
    refine beginCall_inOrder inOrder (by rintro _ _ _ _ ⟨⟩) ?_
    rintro _ _ _ ⟨⟩
    exact ⟨rfl, rfl⟩
  | closed call answer =>
    refine settle_inOrder inOrder fun kind procedure isCall isSettled => ?_
    cases kind with
    | closing key session =>
      cases isSettled
      exact settleClose_inOrder inOrder isCall (uncontended _ _ isCall)
    | _ => cases isSettled

end

end Steps

section Sample

def managedIdentity : ExecutorTaskIdentity :=
  ⟨"task-1", "execution-1", "C:\\work\\repository", "finish the feature", none⟩

def managedSteps : List ManagerStep :=
  [.start "codex" managedIdentity, .opened 0 (.ok ⟨"codex", "session-1", 1⟩),
    .prompt "task-1" "execution-1", .event 1 (.permissionRequested 1 "request-1" false),
    .respond "task-1" "execution-1" "request-1" .approveOnce, .responded 2 (.ok ()), .leave 1,
    .close "task-1" "execution-1", .closed 3 (.ok ())]

def managedState (steps : Nat) : ManagerState :=
  ((managerMachine fun _ => true).exec ManagerState.initial (managedSteps.take steps)).2

/-- An execution is started twice, before its executor answers. -/
def startedTwice : List ManagerStep :=
  [.start "codex" managedIdentity, .start "codex" managedIdentity,
    .opened 0 (.ok ⟨"codex", "session-1", 1⟩), .opened 1 (.ok ⟨"codex", "session-2", 1⟩)]

end Sample

end Zero3Pilot.Failover
