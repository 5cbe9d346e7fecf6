import Zero3Pilot.Failover.Decisions

/-! # Write authority

An execution may work in its workspace while the lease of the workspace is active and names it, its
executor and its generation. A prompt forwards its input without asking for the lease: a handoff that
failed after it was begun leaves the lease pending, and the session that is there, the old one or its
replacement, is prompted all the same. Where no such session is prompted, and no session of an executor
that is no candidate, every input is forwarded under authority. -/

namespace Zero3Pilot.Failover

open Function (update update_eq_self update_idem update_of_ne update_self)
open RuntimeState (initial setBinding setSession)
open Procedure (modify ensures_andFinally ensures_bind ensures_ite ensures_modify ensures_onError
  ensures_pure ensures_read ensures_require)

variable (config : FailoverConfig)

/-! ## Statements -/

def Effect.After (later earlier : Effect) : Prop :=
  ∀ taskId executionId generation generation', later = .transferred taskId executionId generation →
    earlier = .transferred taskId executionId generation' → generation' < generation

/-- **Work runs only under write authority.** -/
structure Authority (state : RuntimeState) : Prop where
  forwarded : ∀ taskId executionId session lease,
    Effect.forwarded taskId executionId session lease ∈ state.effects →
      ∃ held, lease = some held ∧ held.Authorises taskId executionId session
  single : ∀ lease, state.lease = some lease → ∀ key key' session session',
    state.sessions key = some session → state.sessions key' = some session' →
    lease.Authorises session.identity.taskId session.identity.executionId session.session →
    lease.Authorises session'.identity.taskId session'.identity.executionId session'.session →
    key = key'
  /-- Every handoff of an execution has a greater generation than the ones before. -/
  increasing : state.effects.Pairwise Effect.After

structure MayPrompt (state : RuntimeState) (taskId executionId : String) (session : ExecutorBinding) :
    Prop where
  named : session.identity.taskId = taskId ∧ session.identity.executionId = executionId
  candidate : session.executorId ∈ config.candidates
  settled : ∀ lease, state.lease = some lease → lease.state ≠ .handoffPending

def NotBehind (state : RuntimeState) : Prop :=
  ∀ lease, state.lease = some lease → ∀ generation,
    Effect.transferred lease.taskId lease.executionId generation ∈ state.effects →
      generation ≤ lease.generation

/-- Calls are made one after another: none is made while a prompt is consumed. -/
def Sequential (state : RuntimeState) : RuntimeCall → Prop
  | .event _ _ _ | .again | .leave => True
  | .prompt _ _ | .start _ _ _ | .startFromHandoff _ _ _ _ | .resume _ _ _ _ _ | .close _ _ _ =>
    state.prompting = none

/-- **A call that is made with care**: where its session may be prompted and the lease is not behind. -/
def Cautious (state : RuntimeState) : RuntimeCall → Prop
  | .prompt taskId executionId => state.prompting = none ∧ ∀ binding session,
      state.bindings (bindingKey taskId executionId) = some binding →
      state.sessions (bindingKey taskId executionId) = some session →
      MayPrompt config state taskId executionId session
  | .event (.failure _ _) _ _ => NotBehind state
  | .event _ _ _ | .again | .leave => True
  | .start _ _ _ | .startFromHandoff _ _ _ _ | .resume _ _ _ _ _ | .close _ _ _ =>
    state.prompting = none

/-! ## The invariant -/

section Invariant

variable {config} {state after : RuntimeState} {taskId executionId : String}

structure Holding (lease : WorkspaceWriterLease) (binding : Binding) (session : ExecutorBinding) :
    Prop where
  task : lease.taskId = session.identity.taskId
  execution : lease.executionId = session.identity.executionId
  bound : binding.identity.taskId = session.identity.taskId ∧
    binding.identity.executionId = session.identity.executionId
  active : lease.state = .active →
    lease.executorId = session.executorId ∧ lease.generation = session.session.generation

/-- **The invariant of the runtime**, apart from the prompt that is consumed. -/
structure Safe (config : FailoverConfig) (state : RuntimeState) : Prop where
  keyed : ∀ key session, state.sessions key = some session →
    session.identity.key = key ∧ session.session.executorId = session.executorId
  bound : ∀ key binding, state.bindings key = some binding → binding.identity.key = key
  held : ∀ key binding session, state.bindings key = some binding →
    state.sessions key = some session → session.executorId ∈ config.candidates →
    ∃ lease, state.lease = some lease ∧ Holding lease binding session
  forwarded : ∀ taskId executionId session lease,
    Effect.forwarded taskId executionId session lease ∈ state.effects →
      ∃ held, lease = some held ∧ held.Authorises taskId executionId session
  increasing : state.effects.Pairwise Effect.After

def Prompting.ids (prompting : Prompting) : String × String :=
  (prompting.taskId, prompting.executionId)

/-- **The execution that is prompted holds the lease.** -/
structure Authorised (state : RuntimeState) (taskId executionId : String) : Prop where
  prompted : state.prompting.map Prompting.ids = some (taskId, executionId)
  session : ∃ session, state.sessions (bindingKey taskId executionId) = some session ∧
    (session.identity.taskId = taskId ∧ session.identity.executionId = executionId) ∧
    ∃ lease, state.lease = some lease ∧ lease.Authorises taskId executionId session.session
  binding : ∃ binding, state.bindings (bindingKey taskId executionId) = some binding ∧
    binding.identity.taskId = taskId ∧ binding.identity.executionId = executionId

/-- Only controllers, the leases bindings know of, and the locals of the prompt are changed. -/
structure Same (state after : RuntimeState) : Prop where
  prompted : after.prompting.map Prompting.ids = state.prompting.map Prompting.ids
  sessions : after.sessions = state.sessions
  lease : after.lease = state.lease
  identities : ∀ key, (after.bindings key).map (·.identity) = (state.bindings key).map (·.identity)
  effects : after.effects = state.effects

theorem Same.binding (same : Same state after) {key : String} {binding : Binding}
    (isBound : after.bindings key = some binding) :
    ∃ before, state.bindings key = some before ∧ before.identity = binding.identity := by
  have identities := same.identities key
  rw [isBound] at identities
  cases found : state.bindings key with
  | none =>
    rw [found] at identities
    cases identities
  | some before =>
    rw [found] at identities
    exact ⟨before, rfl, (Option.some.inj identities).symm⟩

theorem Same.symm (same : Same state after) : Same after state :=
  ⟨same.prompted.symm, same.sessions.symm, same.lease.symm, fun key => (same.identities key).symm, same.effects.symm⟩

theorem Same.trans {last : RuntimeState} (same : Same state after) (same' : Same after last) :
    Same state last :=
  ⟨same'.prompted.trans same.prompted, same'.sessions.trans same.sessions,
    same'.lease.trans same.lease,
    fun key => (same'.identities key).trans (same.identities key), same'.effects.trans same.effects⟩

theorem same_refl (state : RuntimeState) : Same state state := ⟨rfl, rfl, rfl, fun _ => rfl, rfl⟩

theorem same_locals (state : RuntimeState) {change : Prompting → Prompting}
    (ids : ∀ prompting, (change prompting).ids = prompting.ids) :
    Same state { state with prompting := state.prompting.map change } := by
  refine ⟨?_, rfl, rfl, fun _ => rfl, rfl⟩
  cases state.prompting with
  | none => rfl
  | some prompting => exact congrArg some (ids prompting)

theorem Safe.same (safe : Safe config state) (same : Same state after) : Safe config after where
  keyed := same.sessions ▸ safe.keyed
  bound := by
    intro key binding isBound
    obtain ⟨before, wasBound, identity⟩ := same.binding isBound
    exact identity ▸ safe.bound key before wasBound
  held := by
    intro key binding session isBound isSession candidate
    obtain ⟨before, wasBound, identity⟩ := same.binding isBound
    rw [same.sessions] at isSession
    obtain ⟨lease, isLease, holding⟩ := safe.held key before session wasBound isSession candidate
    rw [same.lease]
    exact ⟨lease, isLease, holding.task, holding.execution, identity ▸ holding.bound, holding.active⟩
  forwarded := same.effects ▸ safe.forwarded
  increasing := same.effects ▸ safe.increasing

theorem Authorised.same (authorised : Authorised state taskId executionId) (same : Same state after) :
    Authorised after taskId executionId where
  prompted := same.prompted.trans authorised.prompted
  session := by
    rw [same.sessions, same.lease]
    exact authorised.session
  binding := by
    obtain ⟨binding, isBound, named⟩ := authorised.binding
    obtain ⟨after, isAfter, identity⟩ := same.symm.binding isBound
    exact ⟨after, isAfter, identity ▸ named⟩

theorem NotBehind.same (notBehind : NotBehind state) (same : Same state after) : NotBehind after := by
  unfold NotBehind
  rw [same.lease, same.effects]
  exact notBehind

/-- Something other is done than forwarding an input and transferring the lease. -/
theorem Safe.emit {effect : Effect} (safe : Safe config state)
    (notForwarded : ∀ taskId executionId session lease,
      effect ≠ .forwarded taskId executionId session lease)
    (notTransferred : ∀ taskId executionId generation,
      effect ≠ .transferred taskId executionId generation) : Safe config (state.emit effect) where
  keyed := safe.keyed
  bound := safe.bound
  held := safe.held
  forwarded := by
    intro taskId executionId session lease member
    rcases List.mem_cons.1 member with isNew | earlier
    · exact absurd isNew.symm (notForwarded _ _ _ _)
    · exact safe.forwarded _ _ _ _ earlier
  increasing := by
    refine List.pairwise_cons.2 ⟨fun earlier _ => ?_, safe.increasing⟩
    intro _ _ _ _ isNew
    exact absurd isNew (notTransferred _ _ _)

theorem NotBehind.emit {effect : Effect} (notBehind : NotBehind state)
    (notTransferred : ∀ taskId executionId generation,
      effect ≠ .transferred taskId executionId generation) : NotBehind (state.emit effect) := by
  intro lease isLease generation member
  rcases List.mem_cons.1 member with isNew | earlier
  · exact absurd isNew.symm (notTransferred _ _ _)
  · exact notBehind lease isLease generation earlier

/-- **The lease is replaced by one of the same execution**, which the session of the execution knows. -/
theorem Safe.relet (safe : Safe config state) {lease next : WorkspaceWriterLease}
    (isLease : state.lease = some lease) (task : next.taskId = lease.taskId)
    (execution : next.executionId = lease.executionId)
    (active : next.state = .active → ∀ key session, state.sessions key = some session →
      session.identity.taskId = lease.taskId → session.identity.executionId = lease.executionId →
      next.executorId = session.executorId ∧ next.generation = session.session.generation) :
    Safe config { state with lease := some next } where
  keyed := safe.keyed
  bound := safe.bound
  held := by
    intro key binding session isBound isSession candidate
    obtain ⟨found, isFound, holding⟩ := safe.held key binding session isBound isSession candidate
    obtain rfl : lease = found := Option.some.inj (isLease.symm.trans isFound)
    refine ⟨next, rfl, task.trans holding.task, execution.trans holding.execution, holding.bound, ?_⟩
    exact fun isActive => active isActive key session isSession holding.task.symm holding.execution.symm
  forwarded := safe.forwarded
  increasing := safe.increasing

theorem Safe.forget (safe : Safe config state) (key : String) :
    Safe config (state.setSession key none) where
  keyed := by
    intro other session isSession
    rcases update_some isSession with ⟨rfl, ⟨⟩⟩ | ⟨_, isSession⟩
    exact safe.keyed other session isSession
  bound := safe.bound
  held := by
    intro other binding session isBound isSession candidate
    rcases update_some isSession with ⟨rfl, ⟨⟩⟩ | ⟨_, isSession⟩
    exact safe.held other binding session isBound isSession candidate
  forwarded := safe.forwarded
  increasing := safe.increasing

theorem Safe.setSession (safe : Safe config state) {session : ExecutorBinding}
    (named : session.session.executorId = session.executorId)
    (held : ∀ binding, state.bindings session.identity.key = some binding →
      session.executorId ∈ config.candidates →
      ∃ lease, state.lease = some lease ∧ Holding lease binding session) :
    Safe config (state.setSession session.identity.key (some session)) where
  keyed := by
    intro other found isSession
    rcases update_some isSession with ⟨rfl, ⟨⟩⟩ | ⟨_, isSession⟩
    · exact ⟨rfl, named⟩
    · exact safe.keyed other found isSession
  bound := safe.bound
  held := by
    intro other binding found isBound isSession candidate
    rcases update_some isSession with ⟨rfl, ⟨⟩⟩ | ⟨_, isSession⟩
    · exact held binding isBound candidate
    · exact safe.held other binding found isBound isSession candidate
  forwarded := safe.forwarded
  increasing := safe.increasing

end Invariant

/-! ## Starting and closing -/

section Starting

variable {config} {state after : RuntimeState} {taskId executionId executorId key : String}
  {identity : ExecutorTaskIdentity} {generation : Nat} {session : ExecutorSession}

structure Started (state : RuntimeState) (executorId : String) (identity : ExecutorTaskIdentity)
    (generation : Nat) (session : ExecutorSession) (after : RuntimeState) : Prop where
  absent : state.sessions identity.key = none
  executor : session.executorId = executorId
  generation : session.generation = generation
  isAfter : after = state.setSession identity.key (some ⟨identity, executorId, session, []⟩)

theorem bindSession_started (answer : Except String ExecutorSession) :
    (bindSession executorId identity generation answer).Ensures
      (fun session => Started state executorId identity generation session)
      (fun _ after => after = state) state := by
  simp only [bindSession, ensures_bind, ensures_read, ensures_modify, ensures_pure]
  refine .check (fun absent => ?_) rfl
  refine .ofExcept (fun session _ => ?_) fun _ => rfl
  refine .ofExcept (fun _ returned => ?_) fun _ => rfl
  obtain ⟨executor, same⟩ := assertReturnedSession_ok returned
  exact ⟨by simpa using absent, executor, same, rfl⟩

theorem managerStart_started (starts : Except String ExecutorSession) :
    (managerStart executorId identity starts).Ensures
      (fun session => Started state executorId identity 1 session)
      (fun _ after => after = state) state := by
  rw [managerStart, ensures_bind]
  exact .ofExcept (fun _ _ => bindSession_started starts) fun _ => rfl

theorem managerStartFromHandoff_started {checkpoint : ExecutorHandoffCheckpointRef}
    (starts : Except String ExecutorSession) :
    (managerStartFromHandoff executorId identity checkpoint starts).Ensures (fun session after =>
        Started state executorId identity (checkpoint.generation + 1) session after)
      (fun _ after => after = state) state := by
  simp only [managerStartFromHandoff, ensures_bind]
  refine .ofExcept (fun _ _ => ?_) fun _ => rfl
  refine .ofExcept (fun _ _ => ?_) fun _ => rfl
  exact .ofExcept (fun _ _ => bindSession_started starts) fun _ => rfl

theorem managerResume_started {ref : ExecutorSession} {checkpoint : ExecutorHandoffCheckpointRef}
    (resumes : Except String ExecutorSession) :
    (managerResume executorId identity ref checkpoint resumes).Ensures
      (fun session => Started state executorId identity ref.generation session)
      (fun _ after => after = state) state := by
  simp only [managerResume, ensures_bind]
  refine .ofExcept (fun _ _ => ?_) fun _ => rfl
  refine .ofExcept (fun _ _ => ?_) fun _ => rfl
  refine .ofExcept (fun _ _ => ?_) fun _ => rfl
  exact .check (fun _ => .check (fun _ => bindSession_started resumes) rfl) rfl

theorem managerClose_forgets (closes : Except String Unit) : (managerClose key closes).Ensures
      (fun _ after => after = state.setSession key none)
      (fun _ after => after = state.setSession key none ∨
        state.sessions key = none ∧ after = state) state := by
  simp only [managerClose, requireSession, ensures_bind, ensures_read,
    ensures_andFinally, ensures_modify]
  refine (ensures_require _ _).2 ⟨fun _ _ => ?_, fun absent => .inr ⟨absent, rfl⟩⟩
  exact .ofExcept (fun _ _ => rfl) fun _ => .inl rfl

theorem Safe.acquired (safe : Safe config state) (absent : state.lease = none)
    (lease : WorkspaceWriterLease) : Safe config { state with lease := some lease } where
  keyed := safe.keyed
  bound := safe.bound
  held := by
    intro key binding session isBound isSession candidate
    obtain ⟨held, isHeld, -⟩ := safe.held key binding session isBound isSession candidate
    rw [absent] at isHeld
    cases isHeld
  forwarded := safe.forwarded
  increasing := safe.increasing

theorem Safe.withBinding (safe : Safe config state) {next : Option Binding}
    (named : ∀ binding, next = some binding → binding.identity.key = key)
    (absent : next ≠ none → state.sessions key = none) :
    Safe config (state.setBinding key next) where
  keyed := safe.keyed
  bound := by
    intro other found isBound
    rcases update_some isBound with ⟨rfl, isNext⟩ | ⟨-, isBound⟩
    · exact named found isNext
    · exact safe.bound other found isBound
  held := by
    intro other found session isBound isSession candidate
    rcases update_some isBound with ⟨rfl, isNext⟩ | ⟨-, isBound⟩
    · have both := absent (isNext ▸ Option.some_ne_none found)
      cases both.symm.trans isSession
    · exact safe.held other found session isBound isSession candidate
  forwarded := safe.forwarded
  increasing := safe.increasing

theorem Safe.setBinding (safe : Safe config state) (absent : state.sessions key = none)
    {binding : Binding} (named : binding.identity.key = key) :
    Safe config (state.setBinding key (some binding)) :=
  safe.withBinding (by rintro _ ⟨⟩; exact named) fun _ => absent

theorem Safe.unbind (safe : Safe config state) (key : String) :
    Safe config (state.setBinding key none) :=
  safe.withBinding (by rintro _ ⟨⟩) fun some_ => absurd rfl some_

structure Idle (config : FailoverConfig) (state : RuntimeState) : Prop where
  safe : Safe config state
  idle : state.prompting = none

/-- **A session has been started but not bound**: without it, the state is safe. -/
structure Unbound (config : FailoverConfig) (state : RuntimeState) (session : ExecutorBinding) :
    Prop where
  idle : state.prompting = none
  isSession : state.sessions session.identity.key = some session
  named : session.session.executorId = session.executorId
  safe : Safe config (state.setSession session.identity.key none)

theorem Started.unbound (started : Started state executorId identity generation session after)
    (idle : Idle config state) : Unbound config after ⟨identity, executorId, session, []⟩ := by
  obtain ⟨absent, executor, -, rfl⟩ := started
  refine ⟨idle.idle, update_self .., executor, ?_⟩
  have undone : (state.setSession identity.key (some ⟨identity, executorId, session, []⟩)).setSession
      identity.key none = state := by
    unfold setSession
    rw [update_idem, ← absent, update_eq_self]
  show Safe config ((state.setSession identity.key _).setSession identity.key none)
  rw [undone]
  exact idle.safe

theorem bindLease_unbound {session : ExecutorBinding} {answers : StartAnswers}
    (unbound : Unbound config state session) :
    (bindLease session.executorId session.identity session.session answers).Ensures
      (fun lease after => Unbound config after session ∧ after.lease = some lease ∧
        lease.Authorises session.identity.taskId session.identity.executionId session.session)
      (fun _ after => Unbound config after session) state := by
  rw [bindLease, ensures_bind]
  refine .ofExcept (fun _ _ => ?_) fun _ => unbound
  rw [ensures_bind, ensures_read]
  cases isLease : state.lease with
  | some lease =>
    dsimp only
    refine .checked (fun authorises => ?_) unbound
    obtain ⟨task, execution, executor, generation, active⟩ := authorises
    refine (ensures_pure _).2 ⟨unbound, isLease, task, execution, ?_, generation, active⟩
    exact executor.trans unbound.named.symm
  | none =>
    simp only [acquire, ensures_bind, ensures_modify, ensures_pure]
    refine .check (fun _ => .ofExcept (fun _ _ => ?_) fun _ => unbound) unbound
    have acquired := unbound.safe.acquired isLease ⟨session.identity.taskId,
      session.identity.executionId, session.executorId, session.session.generation, answers.nonce,
      .active⟩
    exact ⟨⟨unbound.idle, unbound.isSession, unbound.named, acquired⟩, trivial, rfl, rfl, unbound.named.symm, rfl,
      rfl⟩

/-- **A session that is bound holds the lease.** -/
theorem Unbound.bind {session : ExecutorBinding} (unbound : Unbound config state session)
    {lease : WorkspaceWriterLease} (isLease : state.lease = some lease)
    (authorises : lease.Authorises session.identity.taskId session.identity.executionId session.session)
    (controller : Controller) :
    Safe config ((state.setBinding session.identity.key
      (some ⟨session.identity, controller, lease⟩)).emit (.bound session.identity.key)) := by
  have absent : (state.setSession session.identity.key none).sessions session.identity.key = none :=
    update_self ..
  have bound : Safe config ((state.setSession session.identity.key none).setBinding
      session.identity.key (some ⟨session.identity, controller, lease⟩)) :=
    unbound.safe.setBinding absent rfl
  have emitted : Safe config (((state.setSession session.identity.key none).setBinding
      session.identity.key (some ⟨session.identity, controller, lease⟩)).emit
        (.bound session.identity.key)) := bound.emit (by rintro _ _ _ _ ⟨⟩) (by rintro _ _ _ ⟨⟩)
  have safe := emitted.setSession unbound.named fun binding isBound _ => by
    have isNew : update state.bindings session.identity.key
        (some ⟨session.identity, controller, lease⟩) session.identity.key = some binding := isBound
    rw [update_self] at isNew
    cases isNew
    exact ⟨lease, isLease, authorises.1, authorises.2.1, ⟨rfl, rfl⟩, fun _ =>
      ⟨authorises.2.2.1.trans unbound.named, authorises.2.2.2.1⟩⟩
  -- the session is put back
  have sessions : update (update state.sessions session.identity.key none)
      session.identity.key (some session) = state.sessions := by
    rw [update_idem, ← unbound.isSession, update_eq_self]
  have same : Same ((((state.setSession session.identity.key none).setBinding
      session.identity.key (some ⟨session.identity, controller, lease⟩)).emit
        (.bound session.identity.key)).setSession session.identity.key (some session))
      ((state.setBinding session.identity.key
        (some ⟨session.identity, controller, lease⟩)).emit (.bound session.identity.key)) :=
    ⟨rfl, sessions.symm, rfl, fun _ => rfl, rfl⟩
  exact safe.same same

/-- **A session that is started and bound**, or closed again. -/
theorem bindStarted_idle {answers : StartAnswers} {starts : RuntimeProcedure ExecutorSession}
    (started : starts.Ensures (fun session => Started state executorId identity generation session)
      (fun _ after => after = state) state)
    (idle : Idle config state) :
    (bindStarted config executorId identity answers starts).Ensures
      (fun _ => Idle config) (fun _ => Idle config) state := by
  rw [bindStarted, ensures_bind]
  refine started.mono ?_ (by rintro _ _ rfl; exact idle)
  intro session after started
  have unbound := started.unbound idle
  rw [ensures_onError]
  -- what is not bound is closed
  have closed {state : RuntimeState} (unbound : Unbound config state ⟨identity, executorId, session, []⟩) :
      (managerClose identity.key answers.closes).Ensures (fun _ => Idle config)
        (fun _ => Idle config) state := by
    refine (managerClose_forgets answers.closes).mono ?_ ?_
    · rintro _ _ rfl
      exact ⟨unbound.safe, unbound.idle⟩
    · rintro _ _ (rfl | ⟨absent, -⟩)
      · exact ⟨unbound.safe, unbound.idle⟩
      · have both := unbound.isSession.symm.trans absent
        cases both
  rw [bind, ensures_ite]
  refine ⟨fun other => ?_, fun candidate => ?_⟩
  · -- an executor that is no candidate knows nothing of the lease
    rw [ensures_pure, started.isAfter]
    refine ⟨@Safe.setSession _ _ idle.safe ⟨identity, executorId, session, []⟩ started.executor ?_,
      idle.idle⟩
    exact fun _ _ candidate => absurd candidate other
  · rw [ensures_bind]
    refine (bindLease_unbound unbound).mono ?_ fun _ _ unbound => closed unbound
    rintro lease state ⟨unbound, isLease, authorises⟩
    rw [ensures_bind]
    refine .ofExcept (fun controller _ => ?_) fun _ => closed unbound
    rw [ensures_modify]
    exact ⟨unbound.bind isLease authorises controller, unbound.idle⟩

theorem releaseOwn_idle {answers : CloseAnswers} (idle : Idle config state)
    (absent : state.sessions (bindingKey taskId executionId) = none) :
    (releaseOwn taskId executionId answers).Ensures (fun _ => Idle config)
      (fun _ => Idle config) state := by
  have safe := idle.safe
  simp only [releaseOwn, ensures_bind, ensures_read]
  refine .ofExcept (fun _ _ => ?_) fun _ => idle
  cases isLease : state.lease with
  | none => exact (ensures_pure _).2 idle
  | some lease =>
    dsimp only
    rw [ensures_ite]
    refine ⟨fun own => ?_, fun _ => (ensures_pure _).2 idle⟩
    simp only [release, requireMatch, ensures_bind, ensures_read, ensures_modify, ensures_pure]
    refine .require (fun _ _ => .check (fun _ => .ofExcept (fun _ _ => ?_) fun _ => idle) idle) idle
    refine ⟨⟨safe.keyed, safe.bound, ?_, safe.forwarded, safe.increasing⟩, idle.idle⟩
    intro key binding session isBound isSession candidate
    -- the execution that held the lease has no session
    obtain ⟨held, isHeld, holding⟩ := safe.held key binding session isBound isSession candidate
    obtain rfl : lease = held := Option.some.inj (isLease.symm.trans isHeld)
    have named := (safe.keyed key session isSession).1
    rw [ExecutorTaskIdentity.key, ← holding.task, ← holding.execution, own.1, own.2] at named
    rw [← named] at isSession
    have both := absent.symm.trans isSession
    cases both

theorem close_idle {answers : CloseAnswers} (idle : Idle config state) :
    (close taskId executionId answers).Ensures (fun _ => Idle config)
      (fun _ => Idle config) state := by
  have last {after : RuntimeState} (isBound : Bool) (idle : Idle config after)
      (absent : after.sessions (bindingKey taskId executionId) = none) :
      (forgetBinding taskId executionId isBound answers).Ensures (fun _ => Idle config)
        (fun _ => Idle config) after := by
    rw [forgetBinding, ensures_bind]
    refine Procedure.Ensures.mono ?_ (fun _ after (idle : Idle config after) =>
      (ensures_modify _).2 ⟨idle.safe.unbind _, idle.idle⟩) fun _ _ idle => idle
    cases isBound with
    | false => exact (ensures_pure _).2 idle
    | true => exact releaseOwn_idle idle absent
  simp only [close, ensures_bind, ensures_read, ensures_andFinally]
  refine (managerClose_forgets answers.closes).mono ?_ ?_
  · rintro _ _ rfl
    exact last _ ⟨idle.safe.forget _, idle.idle⟩ (update_self ..)
  · rintro _ _ (rfl | ⟨absent, rfl⟩)
    · exact last _ ⟨idle.safe.forget _, idle.idle⟩ (update_self ..)
    · exact last _ idle absent

end Starting

/-! ## Prompts -/

section Prompts

variable {config} {α : Type} {state after : RuntimeState}
  {taskId executionId eventId executorId key : String} {binding : Binding} {prompting : Prompting}
  {nowMs : Nat} {awaits : HandoffAwaits}

theorem control_same (procedure : ControllerProcedure α) :
    (control taskId executionId procedure).Ensures (fun _ => Same state)
      (fun _ => Same state) state := by
  have same {binding : Binding} (isBound : state.bindings (bindingKey taskId executionId) = some binding)
      (controller : Controller) : Same state (state.setBinding (bindingKey taskId executionId)
        (some { binding with controller := controller })) := by
    refine ⟨rfl, rfl, rfl, fun key => ?_, rfl⟩
    by_cases isKey : key = bindingKey taskId executionId
    · subst isKey
      simp [setBinding, isBound]
    · simp [setBinding, update_of_ne isKey]
  refine ensures_control (fun binding isBound => ?_) fun _ => same_refl state
  exact (Procedure.ensures_self procedure binding.controller).mono (fun _ _ _ => same isBound _)
    fun _ _ _ => same isBound _

theorem abortAndFail_same (error : String) :
    (abortAndFail taskId executionId eventId error : RuntimeProcedure α).Ensures
      (fun _ _ => False) (fun _ => Same state) state := by
  rw [abortAndFail, ensures_bind]
  exact (control_same _).mono (fun _ _ same => (Procedure.ensures_fail _).2 same) fun _ _ same => same

theorem handoffEvidence_same {generation : Nat} :
    (handoffEvidence taskId executionId eventId binding generation awaits).Ensures
      (fun verified after => after = state ∧ verified.1.generation = generation + 1)
      (fun _ => Same state) state := by
  simp only [handoffEvidence, ensures_bind]
  refine .ofExcept (fun _ _ => ?_) fun _ => same_refl state
  refine .ofExcept (fun evidence _ => ?_) fun _ => same_refl state
  refine .ofExcept (fun _ _ => ?_) fun _ => same_refl state
  refine .ofExcept (fun _ _ => ?_) fun _ => same_refl state
  rw [ensures_ite]
  refine ⟨fun _ => ?_, fun _ => (ensures_pure _).2 ⟨rfl, rfl⟩⟩
  exact (abortAndFail_same _).mono (fun _ _ impossible => impossible.elim) fun _ _ same => same

/-- **A handoff has been begun**: the lease of the execution is pending. -/
structure HandingOver (config : FailoverConfig) (state : RuntimeState) (taskId executionId : String)
    (binding : Binding) (pending : WorkspaceWriterLease) : Prop where
  prompted : state.prompting.map Prompting.ids = some (taskId, executionId)
  safe : Safe config state
  notBehind : NotBehind state
  isBound : ∃ found, state.bindings (bindingKey taskId executionId) = some found ∧
    found.identity = binding.identity
  named : binding.identity.taskId = taskId ∧ binding.identity.executionId = executionId
  isLease : state.lease = some pending
  isPending : pending.state = .handoffPending
  leased : pending.taskId = taskId ∧ pending.executionId = executionId

theorem beginHandoff_handing {writes : Except String Unit} (safe : Safe config state)
    (authorised : Authorised state taskId executionId) (notBehind : NotBehind state)
    (isBound : state.bindings (bindingKey taskId executionId) = some binding)
    (expected : WorkspaceWriterLease) :
    (beginHandoff expected writes).Ensures
      (fun pending after => HandingOver config after taskId executionId binding pending)
      (fun _ => Safe config) state := by
  simp only [beginHandoff, requireMatch, ensures_bind, ensures_read, ensures_modify, ensures_pure]
  refine .require (fun lease isLease => .check (fun _ => .ofExcept (fun _ _ => ?_) fun _ => safe)
    safe) safe
  obtain ⟨_, _, _, held, isHeld, authorises⟩ := authorised.session
  obtain rfl : lease = held := Option.some.inj (isLease.symm.trans isHeld)
  obtain ⟨found, isFound, named⟩ := authorised.binding
  obtain rfl : binding = found := Option.some.inj (isBound.symm.trans isFound)
  refine ⟨authorised.prompted, safe.relet isLease rfl rfl (by rintro ⟨⟩), ?_, ⟨binding, isBound, rfl⟩, named, rfl, rfl,
    authorises.1, authorises.2.1⟩
  intro found isFound generation member
  cases isFound
  exact notBehind lease isLease generation member

/-- **The lease is transferred** to the session that was started. -/
theorem acceptHandoff_authorised {pending : WorkspaceWriterLease} {session : ExecutorSession}
    {verification : HandoffVerification} {nonce : String} {writes : Except String Unit}
    (handing : HandingOver config state taskId executionId binding pending)
    (isSession : state.sessions binding.identity.key =
      some ⟨binding.identity, executorId, session, []⟩)
    (executor : session.executorId = executorId) (generation : session.generation = verification.generation) :
    (acceptHandoff pending executorId verification nonce writes).Ensures
      (fun _ after => Safe config after ∧ Authorised after taskId executionId)
      (fun _ => Safe config) state := by
  simp only [acceptHandoff, requireMatch, ensures_bind, ensures_read, ensures_modify, ensures_pure]
  have safe := handing.safe
  refine .require (fun current isCurrent => .check (fun _ => ?_) safe) safe
  obtain rfl : pending = current := Option.some.inj (handing.isLease.symm.trans isCurrent)
  refine .check (fun _ => .check (fun _ => .check (fun _ => .check (fun _ => .check (fun next => ?_)
    safe) safe) safe) safe) safe
  refine .ofExcept (fun _ _ => ?_) fun _ => safe
  have key : binding.identity.key = bindingKey taskId executionId := by
    rw [ExecutorTaskIdentity.key, handing.named.1, handing.named.2]
  have relet : Safe config { state with lease := some { pending with
      executorId := executorId, generation := verification.generation, leaseNonce := nonce,
      state := .active } } := by
    refine safe.relet handing.isLease rfl rfl fun _ other found isFound task execution => ?_
    -- only the execution itself is named by the lease
    have named := (safe.keyed other found isFound).1
    rw [ExecutorTaskIdentity.key, task, execution, handing.leased.1, handing.leased.2, ← key] at named
    rw [← named, isSession] at isFound
    cases isFound
    exact ⟨rfl, generation.symm⟩
  refine ⟨⟨relet.keyed, relet.bound, relet.held, ?_, ?_⟩, ⟨handing.prompted, ?_, ?_⟩⟩
  · intro _ _ _ _ member
    rcases List.mem_cons.1 member with isNew | earlier
    · cases isNew
    · exact safe.forwarded _ _ _ _ earlier
  · refine List.pairwise_cons.2 ⟨?_, safe.increasing⟩
    rintro _ member _ _ _ earlier ⟨⟩ rfl
    have behind := handing.notBehind pending handing.isLease earlier member
    rw [next]
    exact Nat.lt_succ_of_le behind
  · rw [← key]
    refine ⟨_, isSession, handing.named, _, rfl, handing.leased.1, handing.leased.2, executor.symm, ?_, rfl⟩
    exact generation.symm
  · obtain ⟨found, isFound, identity⟩ := handing.isBound
    exact ⟨found, isFound, identity ▸ handing.named⟩

theorem commitLease_authorised {generation : Nat} {lease : WorkspaceWriterLease}
    (safe : Safe config state) (authorised : Authorised state taskId executionId) :
    (do
      modify fun state =>
        { state with
          bindings := update state.bindings (bindingKey taskId executionId)
            ((state.bindings (bindingKey taskId executionId)).map fun binding =>
              { binding with lease := lease }) }
      control taskId executionId (commitVerifiedSwitch eventId generation)
      recordCommit (bindingKey taskId executionId) : RuntimeProcedure Unit).Ensures
      (fun _ after => Safe config after ∧ Authorised after taskId executionId)
      (fun _ => Safe config) state := by
  rw [ensures_bind, ensures_modify, ensures_bind]
  have told : Same state { state with
      bindings := update state.bindings (bindingKey taskId executionId)
        ((state.bindings (bindingKey taskId executionId)).map fun binding =>
          { binding with lease := lease }) } := by
    refine ⟨rfl, rfl, rfl, fun key => ?_, rfl⟩
    by_cases isKey : key = bindingKey taskId executionId
    · subst isKey
      cases found : state.bindings (bindingKey taskId executionId) <;> simp
    · simp [update_of_ne isKey]
  refine (control_same _).mono ?_ fun _ _ same => safe.same (told.trans same)
  intro _ after same
  have safe := safe.same (told.trans same)
  have authorised := authorised.same (told.trans same)
  rw [recordCommit, ensures_modify]
  cases after.bindings (bindingKey taskId executionId) with
  | none => exact ⟨safe, authorised⟩
  | some binding =>
    exact ⟨safe.emit (by rintro _ _ _ _ ⟨⟩) (by rintro _ _ _ ⟨⟩), authorised.prompted,
      authorised.session, authorised.binding⟩

theorem replaceSession_authorised {action : SwitchAction} {pending : WorkspaceWriterLease}
    {generation : Nat} {verification : HandoffVerification} {fingerprint : String}
    (handing : HandingOver config state taskId executionId binding pending)
    (same : verification.generation = generation + 1) :
    (replaceSession taskId executionId eventId binding action pending generation verification
        fingerprint awaits).Ensures
      (fun _ after => Safe config after ∧ Authorised after taskId executionId)
      (fun _ => Safe config) state := by
  have safe := handing.safe
  rw [replaceSession, ensures_bind]
  refine (managerClose_forgets awaits.closes).mono ?_ ?_
  · rintro _ _ rfl
    rw [ensures_bind]
    refine (managerStartFromHandoff_started awaits.starts).mono ?_ (by
      rintro _ _ rfl
      exact safe.forget _)
    rintro session _ ⟨absent, executor, isGeneration, rfl⟩
    -- the replacement is started while the lease is pending
    have started : Safe config ((state.setSession binding.identity.key none).setSession
        binding.identity.key (some ⟨binding.identity, action.toExecutorId, session, []⟩)) := by
      refine @Safe.setSession _ _ (safe.forget _)
        ⟨binding.identity, action.toExecutorId, session, []⟩ executor fun found isFound _ => ?_
      obtain ⟨bound, isBound, identity⟩ := handing.isBound
      have key : binding.identity.key = bindingKey taskId executionId := by
        rw [ExecutorTaskIdentity.key, handing.named.1, handing.named.2]
      have isFound : state.bindings binding.identity.key = some found := isFound
      rw [key, isBound] at isFound
      cases isFound
      refine ⟨pending, handing.isLease, ?_, ?_, ⟨identity ▸ rfl, identity ▸ rfl⟩, fun isActive => ?_⟩
      · exact handing.leased.1.trans handing.named.1.symm
      · exact handing.leased.2.trans handing.named.2.symm
      · have both := isActive.symm.trans handing.isPending
        cases both
    have handing' : HandingOver config ((state.setSession binding.identity.key none).setSession
        binding.identity.key (some ⟨binding.identity, action.toExecutorId, session, []⟩))
        taskId executionId binding pending :=
      ⟨handing.prompted, started, handing.notBehind, handing.isBound, handing.named, handing.isLease,
        handing.isPending, handing.leased⟩
    rw [ensures_ite]
    refine ⟨fun _ => ?_, fun _ => ?_⟩
    · exact (abortAndFail_same _).mono (fun _ _ impossible => impossible.elim)
        fun _ _ same => started.same same
    · rw [ensures_bind]
      refine (acceptHandoff_authorised handing' (update_self ..) executor
        (isGeneration.trans same.symm)).mono ?_ fun _ _ safe => safe
      exact fun lease after both => commitLease_authorised both.1 both.2
  · rintro _ _ (rfl | ⟨-, rfl⟩)
    · exact safe.forget _
    · exact safe

/-- **A switch that is carried out leaves the execution with the lease**, one that fails leaves the
state safe. -/
theorem verifiedSwitch_authorised {action : SwitchAction} (safe : Safe config state)
    (authorised : Authorised state taskId executionId) (notBehind : NotBehind state) :
    (verifiedSwitch taskId executionId eventId action awaits).Ensures
      (fun _ after => Safe config after ∧ Authorised after taskId executionId)
      (fun _ => Safe config) state := by
  simp only [verifiedSwitch, requireBinding, ensures_bind, ensures_read, ensures_modify]
  refine .require (fun binding isBound => .require (fun active _ => .check (fun _ => ?_) safe) safe)
    safe
  refine Procedure.Ensures.mono (beginHandoff_handing
    (safe.emit (by rintro _ _ _ _ ⟨⟩) (by rintro _ _ _ ⟨⟩))
    ⟨authorised.prompted, authorised.session, authorised.binding⟩ (notBehind.emit (by rintro _ _ _ ⟨⟩)) isBound _) ?_
    fun _ _ safe => safe
  intro pending after handing
  refine handoffEvidence_same.mono ?_ fun _ _ same => handing.safe.same same
  rintro verified _ ⟨rfl, same⟩
  exact replaceSession_authorised handing same

/-- What a policy action is carried out with. -/
structure Ready (config : FailoverConfig) (state : RuntimeState) (taskId executionId : String) :
    Prop where
  safe : Safe config state
  authorised : Authorised state taskId executionId
  notBehind : NotBehind state

section

variable (ready : Ready config state taskId executionId)
include ready

theorem Ready.same (same : Same state after) : Ready config after taskId executionId :=
  ⟨ready.safe.same same, ready.authorised.same same, ready.notBehind.same same⟩

theorem Ready.emit {effect : Effect} (notForwarded : ∀ taskId executionId session lease,
      effect ≠ .forwarded taskId executionId session lease)
    (notTransferred : ∀ taskId executionId generation,
      effect ≠ .transferred taskId executionId generation) :
    Ready config (state.emit effect) taskId executionId :=
  ⟨ready.safe.emit notForwarded notTransferred, ⟨ready.authorised.prompted, ready.authorised.session,
    ready.authorised.binding⟩,
    ready.notBehind.emit notTransferred⟩

theorem switch_continued {action : SwitchAction} : (do
      verifiedSwitch taskId executionId eventId action awaits
      continueTurn : RuntimeProcedure Unit).Ensures
      (fun _ after => Safe config after ∧ Authorised after taskId executionId)
      (fun _ => Safe config) state := by
  rw [ensures_bind]
  refine (verifiedSwitch_authorised ready.safe ready.authorised ready.notBehind).mono ?_
    fun _ _ safe => safe
  rintro _ state ⟨safe, authorised⟩
  rw [continueTurn, ensures_modify]
  have same : Same state { state with prompting := state.prompting.map fun prompting =>
      { prompting with continues := true } } := same_locals state fun _ => rfl
  exact ⟨safe.same same, authorised.same same⟩

theorem carryOut_authorised {action : FailoverAction} :
    (carryOut config taskId executionId eventId action awaits).Ensures
      (fun _ after => Safe config after ∧ Authorised after taskId executionId)
      (fun _ => Safe config) state := by
  have both : Safe config state ∧ Authorised state taskId executionId := ⟨ready.safe, ready.authorised⟩
  cases action with
  | retry =>
    rw [carryOut, continueTurn, ensures_modify]
    have same : Same state { state with prompting := state.prompting.map fun prompting =>
        { prompting with continues := true } } := same_locals state fun _ => rfl
    exact ⟨ready.safe.same same, ready.authorised.same same⟩
  | switch action => exact switch_continued ready
  | handoff fromExecutorId targetGeneration reason =>
    rw [carryOut, ensures_ite]
    refine ⟨fun _ => ?_, fun _ => (ensures_pure _).2 both⟩
    cases nextCandidate config fromExecutorId with
    | none => exact (ensures_pure _).2 both
    | some target =>
      dsimp only
      rw [ensures_bind]
      refine (control_same _).mono ?_ fun _ _ same => ready.safe.same same
      intro planned after same
      have ready := ready.same same
      cases planned with
      | switch action => exact switch_continued ready
      | _ => exact (ensures_pure _).2 ⟨ready.safe, ready.authorised⟩
  | _ => exact (ensures_pure _).2 both

end

theorem onFailureEvent_authorised {failure : ExecutorFailure}
    (ready : Ready config state prompting.taskId prompting.executionId) :
    (onFailureEvent config prompting failure nowMs awaits).Ensures
      (fun _ after => Safe config after ∧ Authorised after prompting.taskId prompting.executionId)
      (fun _ => Safe config) state := by
  simp only [onFailureEvent, requireBinding, ensures_bind, ensures_read, ensures_modify]
  have same : Same state { state with prompting := state.prompting.map fun locals =>
      { locals with failureOrdinal := prompting.failureOrdinal + 1 } } := same_locals state fun _ => rfl
  have ready := ready.same same
  refine .require (fun binding isBound => ?_) ready.safe
  refine (control_same _).mono ?_ fun _ _ same => ready.safe.same same
  intro action after same
  exact carryOut_authorised ((ready.same same).emit (by rintro _ _ _ _ ⟨⟩) (by rintro _ _ _ ⟨⟩))

theorem onSuccess_safe (safe : Safe config state) :
    (onSuccess prompting).Ensures (fun _ => Safe config) (fun _ => Safe config)
      state := by
  simp only [onSuccess, requireBinding, ensures_bind, ensures_read]
  refine .require (fun binding _ => ?_) safe
  refine (control_same _).mono ?_ fun _ _ same => safe.same same
  intro _ after same
  rw [ensures_modify]
  exact (safe.same same).emit (by rintro _ _ _ _ ⟨⟩) (by rintro _ _ _ ⟨⟩)

/-- **The invariant with the prompt that is consumed**: its execution holds the lease. -/
structure Prompted (config : FailoverConfig) (state : RuntimeState) : Prop where
  safe : Safe config state
  authorised : ∀ prompting, state.prompting = some prompting →
    Authorised state prompting.taskId prompting.executionId

section

variable (safe : Safe config state)
include safe

theorem Prompted.ended : Prompted config { state with prompting := none } :=
  ⟨⟨safe.keyed, safe.bound, safe.held, safe.forwarded, safe.increasing⟩, by rintro _ ⟨⟩⟩

theorem Safe.prompted (idle : state.prompting = none) : Prompted config state := by
  refine ⟨safe, fun prompting isPrompting => ?_⟩
  rw [idle] at isPrompting
  cases isPrompting

theorem Authorised.isPrompted
    (authorised : Authorised state taskId executionId) : Prompted config state := by
  refine ⟨safe, fun prompting isPrompting => ?_⟩
  have ids := authorised.prompted
  rw [isPrompting] at ids
  obtain ⟨rfl, rfl⟩ := Prod.mk.inj (Option.some.inj ids)
  exact authorised

/-- **An input is forwarded under authority.** -/
theorem forward_prompted {session : ExecutorBinding}
    (isSession : state.sessions prompting.key = some session)
    (named : session.identity.taskId = prompting.taskId ∧
      session.identity.executionId = prompting.executionId)
    {lease : WorkspaceWriterLease} (isLease : state.lease = some lease)
    (authorises : lease.Authorises prompting.taskId prompting.executionId session.session)
    (isBound : ∃ binding, state.bindings prompting.key = some binding ∧
      binding.identity.taskId = prompting.taskId ∧
      binding.identity.executionId = prompting.executionId) :
    (forward prompting).Ensures (fun _ => Prompted config) (fun _ _ => False) state := by
  simp only [forward, requireSession, ensures_bind, ensures_read, ensures_modify]
  refine (ensures_require _ _).2 ⟨fun found isFound => ?_, fun absent => by
    have both := isSession.symm.trans absent
    cases both⟩
  obtain rfl : session = found := Option.some.inj (isSession.symm.trans isFound)
  have forwarded : Safe config { state with
      effects := .forwarded prompting.taskId prompting.executionId session.session state.lease ::
        state.effects } := by
    refine ⟨safe.keyed, safe.bound, safe.held, ?_, ?_⟩
    · intro _ _ _ _ member
      rcases List.mem_cons.1 member with isNew | earlier
      · cases isNew
        exact ⟨lease, isLease, authorises⟩
      · exact safe.forwarded _ _ _ _ earlier
    · refine List.pairwise_cons.2 ⟨fun _ _ => ?_, safe.increasing⟩
      rintro _ _ _ _ ⟨⟩
  have authorised : Authorised { state with
      prompting := some { prompting with lastSequence := 0, continues := false }
      effects := .forwarded prompting.taskId prompting.executionId session.session state.lease ::
        state.effects } prompting.taskId prompting.executionId :=
    ⟨rfl, ⟨session, isSession, named, lease, isLease, authorises⟩, isBound⟩
  exact authorised.isPrompted
    ⟨forwarded.keyed, forwarded.bound, forwarded.held, forwarded.forwarded, forwarded.increasing⟩

theorem prompt_prompted (idle : state.prompting = none)
    (may : ∀ binding session, state.bindings (bindingKey taskId executionId) = some binding →
      state.sessions (bindingKey taskId executionId) = some session →
      MayPrompt config state taskId executionId session) :
    (serveCall config (.prompt taskId executionId)).Ensures (fun _ => Prompted config)
      (fun _ => Prompted config) state := by
  simp only [serveCall, requireBinding, ensures_bind, ensures_read]
  refine .require (fun binding isBound => ?_) (safe.prompted idle)
  cases isSession : state.sessions (bindingKey taskId executionId) with
  | none =>
    simp only [forward, requireSession, ensures_bind, ensures_read]
    refine (ensures_require _ _).2 ⟨fun session isFound => ?_, fun _ => safe.prompted idle⟩
    have both := isSession.symm.trans isFound
    cases both
  | some session =>
    have permitted := may binding session isBound isSession
    obtain ⟨lease, isLease, holding⟩ :=
      safe.held _ binding session isBound isSession permitted.candidate
    -- a lease that is not pending is active
    have active : lease.state = .active := by
      have settled := permitted.settled lease isLease
      cases isState : lease.state with
      | active => rfl
      | handoffPending => exact absurd isState settled
    obtain ⟨executor, generation⟩ := holding.active active
    have named := permitted.named
    have forwards : (forward ⟨taskId, executionId, 0, 0, false⟩).Ensures
        (fun _ => Prompted config) (fun _ _ => False) state :=
      forward_prompted safe isSession named isLease
        ⟨holding.task.trans named.1, holding.execution.trans named.2,
          executor.trans (safe.keyed _ session isSession).2.symm, generation, active⟩
        ⟨binding, isBound, holding.bound.1.trans named.1, holding.bound.2.trans named.2⟩
    exact forwards.mono (fun _ _ prompted => prompted) fun _ _ impossible => impossible.elim

theorem onEvent_prompted {event : ExecutorEvent}
    (authorised : Authorised state prompting.taskId prompting.executionId)
    (notBehind : ∀ sequence failure, event = .failure sequence failure → NotBehind state) :
    (onEvent config prompting event nowMs awaits).Ensures (fun _ => Prompted config)
      (fun _ => Safe config) state := by
  simp only [onEvent, requireSession, ensures_bind, ensures_read, ensures_modify]
  refine .require (fun session isSession => .ofExcept (fun accepted isAccepted => ?_) fun _ => safe) safe
  obtain ⟨identity, executor, sameSession⟩ := acceptEvent_ok isAccepted
  obtain ⟨key, named⟩ := safe.keyed _ session isSession
  have key : accepted.identity.key = prompting.key := by rw [identity, key]
  -- the event changes the pending permissions only
  have safe' : Safe config (state.setSession accepted.identity.key (some accepted)) := by
    refine safe.setSession (by rw [executor, sameSession, named]) fun binding isBound candidate => ?_
    rw [key] at isBound
    rw [executor] at candidate
    obtain ⟨lease, isLease, holding⟩ := safe.held _ binding session isBound isSession candidate
    exact ⟨lease, isLease, identity ▸ holding.task, identity ▸ holding.execution,
      identity ▸ holding.bound, executor ▸ sameSession ▸ holding.active⟩
  rw [key] at safe'
  generalize next : ({ state.setSession prompting.key (some accepted) with
    prompting := some { prompting with lastSequence := event.sequence } } : RuntimeState) = after
  have safe : Safe config after := by
    subst next
    exact ⟨safe'.keyed, safe'.bound, safe'.held, safe'.forwarded, safe'.increasing⟩
  have authorised : Authorised after prompting.taskId prompting.executionId := by
    subst next
    refine ⟨rfl, ?_, authorised.binding⟩
    obtain ⟨found, isFound, ids, holds⟩ := authorised.session
    obtain rfl : session = found := Option.some.inj (isSession.symm.trans isFound)
    exact ⟨accepted, update_self .., identity ▸ ids, sameSession ▸ holds⟩
  cases event with
  | failure sequence failure =>
    have notBehind : NotBehind after := by
      subst next
      exact notBehind sequence failure rfl
    exact (onFailureEvent_authorised ⟨safe, authorised, notBehind⟩).mono
      (fun _ _ both => both.2.isPrompted both.1) fun _ _ safe => safe
  | completed sequence outcome =>
    dsimp only
    rw [ensures_bind]
    refine Procedure.Ensures.mono ?_
      (fun _ _ safe => (ensures_modify _).2 (Prompted.ended safe)) fun _ _ safe => safe
    rw [onCompleted, ensures_ite]
    exact ⟨fun _ => onSuccess_safe safe, fun _ => (ensures_pure _).2 safe⟩
  | _ => exact (ensures_pure _).2 (authorised.isPrompted safe)

end

theorem consume_prompted {step : Prompting → RuntimeProcedure Unit} (prompted : Prompted config state)
    (steps : ∀ prompting, state.prompting = some prompting →
      (step prompting).Ensures (fun _ => Prompted config) (fun _ => Safe config) state) :
    (consume step).Ensures (fun _ => Prompted config) (fun _ => Prompted config) state := by
  simp only [consume, ensures_bind, ensures_read]
  cases isPrompting : state.prompting with
  | none => exact (ensures_pure _).2 prompted
  | some prompting =>
    dsimp only
    rw [ensures_onError]
    refine (steps prompting isPrompting).mono (fun _ _ prompted => prompted) fun _ _ safe => ?_
    exact (ensures_modify _).2 (Prompted.ended safe)

/-- **Every call that is made with care** keeps the invariant. -/
theorem serveCall_prompted {call : RuntimeCall} (prompted : Prompted config state)
    (cautious : Cautious config state call) :
    (serveCall config call).Ensures (fun _ => Prompted config)
      (fun _ => Prompted config) state := by
  have idle (none_ : state.prompting = none) : Idle config state := ⟨prompted.safe, none_⟩
  have whole {α : Type} {procedure : RuntimeProcedure α}
      (ensured : procedure.Ensures (fun _ => Idle config) (fun _ => Idle config)
        state) : procedure.Ensures (fun _ => Prompted config) (fun _ => Prompted config) state :=
    ensured.mono (fun _ _ idle => idle.safe.prompted idle.idle) fun _ _ idle =>
      idle.safe.prompted idle.idle
  cases call with
  | start executorId identity answers =>
    exact whole (bindStarted_idle (managerStart_started _) (idle cautious))
  | startFromHandoff executorId identity checkpoint answers =>
    exact whole (bindStarted_idle (managerStartFromHandoff_started _) (idle cautious))
  | resume executorId identity ref checkpoint answers =>
    exact whole (bindStarted_idle (managerResume_started _) (idle cautious))
  | close taskId executionId answers => exact whole (close_idle (idle cautious))
  | prompt taskId executionId => exact prompt_prompted prompted.safe cautious.1 cautious.2
  | event event nowMs awaits =>
    refine consume_prompted prompted fun prompting isPrompting => ?_
    rw [ensures_ite]
    refine ⟨fun _ => (ensures_pure _).2 prompted, fun _ => ?_⟩
    refine onEvent_prompted prompted.safe (prompted.authorised prompting isPrompting) ?_
    rintro sequence failure rfl
    exact cautious
  | again =>
    refine consume_prompted prompted fun prompting isPrompting => ?_
    rw [ensures_ite]
    refine ⟨fun _ => ?_, fun _ => (ensures_pure _).2 prompted⟩
    have authorised := prompted.authorised prompting isPrompting
    obtain ⟨session, isSession, named, lease, isLease, authorises⟩ := authorised.session
    exact (forward_prompted prompted.safe isSession named isLease authorises
      authorised.binding).mono (fun _ _ prompted => prompted) fun _ _ impossible => impossible.elim
  | leave => exact (ensures_modify _).2 (Prompted.ended prompted.safe)

end Prompts

/-- **Work runs only under write authority** in the runs of calls that are made with care. -/
theorem authority_of_run {lease : Option WorkspaceWriterLease}
    {history : List (RuntimeCall × Except String Unit)} {state : RuntimeState}
    (run : (runtimeMachine config).Run (Cautious config) (initial lease) history state) :
    Authority state := by
  have prompted : Prompted config state := by
    refine run.procedure_invariant (Prompted config) ?_ ?_
    · refine ⟨⟨by rintro _ _ ⟨⟩, by rintro _ _ ⟨⟩, by rintro _ _ _ ⟨⟩, by rintro _ _ _ _ ⟨⟩, .nil⟩,
        by rintro _ ⟨⟩⟩
    · exact fun _ _ prompted cautious => serveCall_prompted prompted cautious
  refine ⟨prompted.safe.forwarded, ?_, prompted.safe.increasing⟩
  intro lease _ key key' session session' isSession isSession' authorises authorises'
  -- a lease names one execution, and an execution has one key
  have named := (prompted.safe.keyed key session isSession).1
  have named' := (prompted.safe.keyed key' session' isSession').1
  rw [← named, ← named', ExecutorTaskIdentity.key, ExecutorTaskIdentity.key, ← authorises.1,
    ← authorises.2.1, ← authorises'.1, ← authorises'.2.1]

/-! ## A handoff that fails after it was begun -/

section Sample

def quotaFailure (awaits : HandoffAwaits) : RuntimeCall :=
  .event (.failure 1 ⟨.quotaExhausted, "codex"⟩) 1000 awaits

def sampleHandoff : List RuntimeCall :=
  [.start "codex" sampleIdentity (sampleStart "codex"), .prompt "task-1" "execution-1",
    quotaFailure (sampleAwaits "deepseek" 2), .again]

def samplePending : List RuntimeCall :=
  [.start "codex" sampleIdentity (sampleStart "codex"), .prompt "task-1" "execution-1",
    quotaFailure { sampleAwaits "deepseek" 2 with captures := .error "git failed" },
    .prompt "task-1" "execution-1"]

/-- A run with a handoff. -/
theorem authority_of_run_sample :
    Authority ((runtimeMachine sampleConfig).exec (initial none) sampleHandoff).2 := by
  refine authority_of_run sampleConfig ((runtimeMachine sampleConfig).exec_run
    (initial none) sampleHandoff ⟨rfl, ⟨rfl, ?_⟩, ?_, trivial, trivial⟩)
  · intro binding session _ isSession
    have isSample : ((runtimeMachine sampleConfig).step (initial none)
        (.start "codex" sampleIdentity (sampleStart "codex"))).2.sessions
          (bindingKey "task-1" "execution-1") =
        some ⟨sampleIdentity, "codex", ⟨"codex", "codex-1", 1⟩, []⟩ := by decide +kernel
    have isActive : ((runtimeMachine sampleConfig).step (initial none)
        (.start "codex" sampleIdentity (sampleStart "codex"))).2.lease =
        some ⟨"task-1", "execution-1", "codex", 1, "nonce-1", .active⟩ := by decide +kernel
    rw [isSample] at isSession
    cases isSession
    refine ⟨⟨rfl, rfl⟩, by decide, fun lease isLease => ?_⟩
    rw [isActive] at isLease
    cases isLease
    decide
  · -- the lease has not been transferred yet
    intro lease _ generation member
    rcases List.mem_cons.1 member with isNew | member
    · cases isNew
    rcases List.mem_cons.1 member with isNew | member
    · cases isNew
    · cases member

/-- **A prompt after a handoff that failed** is forwarded while the lease is pending. -/
theorem authority_of_run_counterexample :
    ¬ ∀ (config : FailoverConfig) (lease : Option WorkspaceWriterLease)
      (history : List (RuntimeCall × Except String Unit)) (state : RuntimeState),
      (runtimeMachine config).Run Sequential (initial lease) history state →
      Authority state := by
  intro all
  have authority := all sampleConfig none _ _ ((runtimeMachine sampleConfig).exec_run
    (initial none) samplePending
    ⟨rfl, rfl, trivial, by rfl, trivial⟩)
  have forwarded : Effect.forwarded "task-1" "execution-1" ⟨"codex", "codex-1", 1⟩
      (some ⟨"task-1", "execution-1", "codex", 1, "nonce-1", .handoffPending⟩) ∈
      ((runtimeMachine sampleConfig).exec (initial none) samplePending).2.effects := by
    decide +kernel
  obtain ⟨held, isHeld, authorises⟩ := authority.forwarded _ _ _ _ forwarded
  cases isHeld
  exact absurd authorises.2.2.2.2 (by decide)

end Sample

end Zero3Pilot.Failover
