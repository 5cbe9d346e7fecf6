import Zero3Pilot.Failover.Authority

/-! # The turns of a prompt

A prompt of the failover runtime calls its executors in turns: after a retry, a switch or a handoff,
another turn follows. A call of `prompt` could be expected to make a number of turns that only depends
on the number of candidates and of retries. It does not: a handoff takes the next candidate without
asking whether it is available, so that executors which all exhaust their contexts hand over to one
another as long as there are generations left; and retries that are remembered are given again. -/

namespace Zero3Pilot.Failover

open RuntimeState (initial setBinding setSession)
open Procedure (ensures_bind ensures_check ensures_ite ensures_modify ensures_ofExcept
  ensures_onError ensures_pure ensures_read ofExcept_ok require_some)

variable (config : FailoverConfig)

/-! ## Statements -/

def Effect.isForwarded : Effect → Bool
  | .forwarded _ _ _ _ => true
  | _ => false

def turns (effects : List Effect) : Nat := effects.countP Effect.isForwarded

def Consumes (_ : RuntimeState) : RuntimeCall → Prop
  | .event _ _ _ | .again | .leave => True
  | .prompt _ _ | .start _ _ _ | .startFromHandoff _ _ _ _ | .resume _ _ _ _ _ | .close _ _ _ => False

/-- **One call of `prompt` makes at most so many turns**, in every state that is reached, however it is
consumed and whatever its executors emit. -/
def TurnsWithin (bound : Nat) : Prop :=
  ∀ (lease : Option WorkspaceWriterLease) (history : List (RuntimeCall × Except String Unit))
    (state : RuntimeState),
    (runtimeMachine config).Run Sequential (initial lease) history state →
    state.prompting = none →
    ∀ (taskId executionId : String) (steps : List (RuntimeCall × Except String Unit))
      (after : RuntimeState),
      (runtimeMachine config).Run Consumes (serveCall config (.prompt taskId executionId) state).2 steps
        after →
      turns after.effects ≤ turns state.effects + bound

def TurnsBounded (candidates maxRetries : Nat) (automaticFailover : Bool) : Prop :=
  ∃ bound, bound < maxSafeInteger ∧ ∀ config : FailoverConfig, validateConfig config = .ok () →
    config.candidates.length = candidates → config.maxRetries = maxRetries →
    config.automaticFailover = automaticFailover → TurnsWithin config bound

/-! ## Where no turn follows -/

section Quiet

variable {config} {controller : Controller} {eventId executorId taskId executionId : String}
  {state : RuntimeState} {identity : ExecutorTaskIdentity} {prompting : Prompting} {nowMs : Nat}
  {action : FailoverAction} {count : Nat}

/-- Nothing is ever retried or switched. -/
def Single (config : FailoverConfig) : Prop :=
  config.automaticFailover = false ∨ config.candidates.length = 1 ∧ config.maxRetries = 0

/-- A decision after which the turn goes on. -/
def FailoverAction.Stays : FailoverAction → Prop
  | .retry _ _ _ | .switch _ => False
  | .none _ | .recover _ _ | .handoff _ _ _ | .requestAuth _ => True

/-- All remembered decisions let the turn go on. -/
def Settled (controller : Controller) : Prop := ∀ entry ∈ controller.processed, entry.2.Stays

structure Quiet (count : Nat) (bindings : String → Option Binding) (effects : List Effect)
    (prompting : Option Prompting) : Prop where
  settled : ∀ key binding, bindings key = some binding → Settled binding.controller
  stays : ∀ current, prompting = some current → current.continues = false
  counted : turns effects = count

theorem remember_settled (settled : Settled controller) (stays : action.Stays) :
    (remember config eventId action).Ensures (fun decided after => decided.Stays ∧ Settled after)
      (fun _ => Settled) controller := by
  rw [remember, ensures_bind, ensures_read]
  cases known : controller.processed.lookup eventId with
  | some decided =>
    dsimp only
    rw [ensures_pure]
    exact ⟨settled _ (mem_of_lookup known), settled⟩
  | none =>
    dsimp only
    rw [ensures_bind, ensures_modify, ensures_pure]
    refine ⟨stays, fun entry member => ?_⟩
    rcases List.mem_append.1 (List.mem_of_mem_drop member) with earlier | isNew
    · exact settled entry earlier
    · obtain rfl := List.mem_singleton.1 isNew
      exact stays

theorem fallbacks_of_single (one : config.candidates.length = 1) (current : String) :
    fallbacks config current = [] := by
  simp [fallbacks, one]

/-- Without a failover, or with nobody to fall back to and no retries, every failure lets the turn go
on. -/
theorem onFailure_settled (single : Single config) (settled : Settled controller)
    {failure : ExecutorFailure} :
    (onFailure config eventId failure nowMs).Ensures (fun decided after => decided.Stays ∧ Settled after)
      (fun _ => Settled) controller := by
  rw [onFailure, assertEventId, ensures_bind]
  refine .check (fun _ => ?_) settled
  rw [assertTime, ensures_bind]
  refine .check (fun _ => ?_) settled
  rw [ensures_bind, ensures_read]
  cases known : controller.processed.lookup eventId with
  | some cached =>
    dsimp only
    rw [ensures_pure]
    exact ⟨settled _ (mem_of_lookup known), settled⟩
  | none =>
    simp only [ensures_ite, ensures_bind, ensures_modify]
    refine ⟨fun _ => remember_settled settled trivial, fun _ => ⟨fun _ =>
      remember_settled settled trivial, fun _ => ⟨fun _ => remember_settled settled trivial,
        fun _ => .ofExcept (fun _ _ => ?_) fun _ => settled⟩⟩⟩
    -- counting the failure remembers nothing
    have settled : Settled (controller.updateProvider controller.currentExecutorId
        fun state => state.failed config nowMs) := settled
    revert settled
    generalize controller.updateProvider controller.currentExecutorId
      (fun state => state.failed config nowMs) = counted
    intro settled
    simp only [decideFailure, ensures_ite, ensures_bind, ensures_modify, ensures_read]
    refine .ofExcept (fun provider _ => ⟨fun _ => remember_settled settled trivial, fun _ => ⟨fun _ =>
      remember_settled settled trivial, fun _ => ⟨fun _ => remember_settled settled trivial,
        fun _ => ⟨fun _ => remember_settled settled trivial, fun automatic => ⟨fun retries => ?_,
          fun _ => ⟨fun _ => ?_, fun _ => remember_settled settled trivial⟩⟩⟩⟩⟩⟩) fun _ => settled
    · -- there are no retries
      rcases single with off | ⟨-, none_⟩
      · exact absurd (by simp [off]) automatic
      · rw [none_] at retries
        exact absurd retries.2 (Nat.not_lt_zero _)
    · rcases single with off | ⟨one, -⟩
      · exact absurd (by simp [off]) automatic
      · simp only [planSwitch, nextAvailable, fallbacks_of_single one, firstAvailable,
          ensures_bind, ensures_read, ensures_ofExcept]
        refine ⟨fun next isNext => ?_, fun _ isError => ?_⟩
        · cases isNext
          exact remember_settled settled trivial
        · cases isError

variable {bindings : String → Option Binding} {effects : List Effect} {current : Option Prompting}

theorem Quiet.emit (quiet : Quiet count bindings effects current) {effect : Effect}
    (other : effect.isForwarded = false) : Quiet count bindings (effect :: effects) current := by
  refine ⟨quiet.settled, quiet.stays, ?_⟩
  rw [turns, List.countP_cons_of_neg (by simp [other])]
  exact quiet.counted

theorem Quiet.update (quiet : Quiet count bindings effects current) {key : String} {binding : Binding}
    (settled : Settled binding.controller) :
    Quiet count (Function.update bindings key (some binding)) effects current := by
  refine ⟨fun other found isBound => ?_, quiet.stays, quiet.counted⟩
  rcases update_some isBound with ⟨rfl, ⟨⟩⟩ | ⟨_, isBound⟩
  · exact settled
  · exact quiet.settled other found isBound

theorem control_quiet {α : Type} {procedure : ControllerProcedure α}
    {returns : α → RuntimeState → Prop}
    (quiet : Quiet count state.bindings state.effects state.prompting)
    (settles : ∀ controller, Settled controller →
      procedure.Ensures (fun value after => Settled after ∧ ∀ next : RuntimeState,
          Quiet count next.bindings next.effects next.prompting → returns value next)
        (fun _ => Settled) controller) :
    (control taskId executionId procedure).Ensures returns
      (fun _ after => Quiet count after.bindings after.effects after.prompting) state := by
  refine ensures_control (fun binding isBound => ?_) fun _ => quiet
  refine (settles binding.controller (quiet.settled _ binding isBound)).mono ?_ ?_
  · rintro value after ⟨settled, next⟩
    have settled : Settled ({ binding with controller := after } : Binding).controller := settled
    exact next _ (quiet.update settled)
  · intro _ after settled
    have settled : Settled ({ binding with controller := after } : Binding).controller := settled
    exact quiet.update settled

theorem endPrompt_quiet (quiet : Quiet count state.bindings state.effects state.prompting) :
    Holds (Quiet count) endPrompt state :=
  (ensures_modify _).2 ⟨quiet.settled, by rintro _ ⟨⟩, quiet.counted⟩

theorem carryOut_quiet (single : Single config) (stays : action.Stays) {awaits : HandoffAwaits}
    (quiet : Quiet count state.bindings state.effects state.prompting) :
    Holds (Quiet count) (carryOut config taskId executionId eventId action awaits) state := by
  cases action with
  | retry => exact stays.elim
  | switch => exact stays.elim
  | handoff fromExecutorId targetGeneration reason =>
    rw [Holds, carryOut, ensures_ite]
    refine ⟨fun automatic => ?_, fun _ => (ensures_pure _).2 quiet⟩
    have nobody : nextCandidate config fromExecutorId = none := by
      rcases single with off | ⟨one, -⟩
      · rw [off] at automatic
        cases automatic
      · simp [nextCandidate, fallbacks_of_single one]
    rw [nobody]
    exact (ensures_pure _).2 quiet
  | _ => exact (ensures_pure _).2 quiet

theorem onFailureEvent_quiet (single : Single config) {failure : ExecutorFailure}
    {awaits : HandoffAwaits} (quiet : Quiet count state.bindings state.effects state.prompting) :
    Holds (Quiet count) (onFailureEvent config prompting failure nowMs awaits) state := by
  simp only [Holds, onFailureEvent, requireBinding, ensures_bind, ensures_read, ensures_modify]
  have quiet : Quiet count state.bindings state.effects (state.prompting.map fun prompting_ =>
      { prompting_ with failureOrdinal := prompting.failureOrdinal + 1 }) := by
    refine ⟨quiet.settled, fun current isCurrent => ?_, quiet.counted⟩
    obtain ⟨earlier, isEarlier, rfl⟩ := Option.map_eq_some_iff.1 isCurrent
    exact quiet.stays earlier isEarlier
  refine .require (fun binding _ => ?_) quiet
  refine control_quiet quiet fun controller settled => ?_
  refine (onFailure_settled single settled).mono ?_ fun _ _ settled => settled
  rintro action after ⟨stays, settled⟩
  exact ⟨settled, fun next quiet => carryOut_quiet single stays (quiet.emit rfl)⟩

theorem onSuccess_quiet (quiet : Quiet count state.bindings state.effects state.prompting) :
    Holds (Quiet count) (onSuccess prompting) state := by
  simp only [Holds, onSuccess, requireBinding, ensures_bind, ensures_read]
  refine .require (fun binding _ => ?_) quiet
  refine control_quiet quiet fun controller settled => ?_
  simp only [recordSuccess, ensures_bind, ensures_read, ensures_modify]
  exact .ofExcept (fun _ _ => ⟨settled, fun next quiet => quiet.emit rfl⟩) fun _ => settled

theorem onEvent_quiet (single : Single config) {event : ExecutorEvent} {awaits : HandoffAwaits}
    (quiet : Quiet count state.bindings state.effects state.prompting)
    (isPrompting : state.prompting = some prompting) :
    Holds (Quiet count) (onEvent config prompting event nowMs awaits) state := by
  simp only [Holds, onEvent, requireSession, ensures_bind, ensures_read, ensures_modify]
  refine .require (fun session _ => .ofExcept (fun accepted _ => ?_) fun _ => quiet) quiet
  have quiet : Quiet count state.bindings state.effects
      (some { prompting with lastSequence := event.sequence }) := by
    refine ⟨quiet.settled, ?_, quiet.counted⟩
    rintro _ ⟨⟩
    exact quiet.stays prompting isPrompting
  cases event with
  | failure sequence failure => exact onFailureEvent_quiet single quiet
  | completed sequence outcome =>
    dsimp only
    rw [ensures_bind]
    refine Procedure.Ensures.mono ?_ (fun _ _ quiet => endPrompt_quiet quiet) fun _ _ quiet => quiet
    rw [onCompleted, ensures_ite]
    exact ⟨fun _ => onSuccess_quiet quiet, fun _ => (ensures_pure _).2 quiet⟩
  | _ => exact (ensures_pure _).2 quiet

theorem Quiet.create {generation : Nat} {lease : WorkspaceWriterLease}
    (quiet : Quiet count bindings effects current)
    (created : Controller.create config executorId generation = .ok controller) :
    Quiet count (Function.update bindings identity.key (some ⟨identity, controller, lease⟩))
      (.bound identity.key :: effects) current := by
  suffices settled : Settled (⟨identity, controller, lease⟩ : Binding).controller from
    Quiet.emit (quiet.update settled) rfl
  show ∀ entry ∈ controller.processed, entry.2.Stays
  rw [(retryCountOf_create created "").2]
  rintro _ ⟨⟩

theorem Quiet.remove {key : String} (quiet : Quiet count bindings effects current) :
    Quiet count (Function.update bindings key none) effects current := by
  refine ⟨fun other found isBound => ?_, quiet.stays, quiet.counted⟩
  rcases update_some isBound with ⟨rfl, ⟨⟩⟩ | ⟨_, isBound⟩
  exact quiet.settled other found isBound

theorem Quiet.ended (quiet : Quiet count bindings effects current) :
    Quiet count bindings effects none := ⟨quiet.settled, by rintro _ ⟨⟩, quiet.counted⟩

theorem forward_quiet (quiet : Quiet count state.bindings state.effects state.prompting) :
    (forward prompting).Ensures
      (fun _ after => Quiet (count + 1) after.bindings after.effects after.prompting)
      (fun _ after => Quiet count after.bindings after.effects after.prompting) state := by
  simp only [forward, requireSession, ensures_bind, ensures_read, ensures_modify]
  refine .require (fun session _ => ⟨quiet.settled, ?_, ?_⟩) quiet
  · rintro _ ⟨⟩
    rfl
  · show turns (.forwarded _ _ _ _ :: state.effects) = count + 1
    rw [turns, List.countP_cons_of_pos rfl]
    exact congrArg (· + 1) quiet.counted

/-- **Every call but a prompt** begins no turn. -/
theorem serveCall_quiet (single : Single config) {call : RuntimeCall}
    (quiet : Quiet count state.bindings state.effects state.prompting)
    (other : ∀ taskId executionId, call ≠ .prompt taskId executionId) :
    Holds (Quiet count) (serveCall config call) state := by
  cases call with
  | start executorId identity answers =>
    exact bindStarted_holds Quiet.create (managerStart_holds _ quiet)
  | startFromHandoff executorId identity checkpoint answers =>
    exact bindStarted_holds Quiet.create (managerStartFromHandoff_holds _ quiet)
  | resume executorId identity ref checkpoint answers =>
    exact bindStarted_holds Quiet.create (managerResume_holds _ quiet)
  | close taskId executionId answers => exact close_holds Quiet.remove quiet
  | prompt taskId executionId => exact absurd rfl (other taskId executionId)
  | event event nowMs awaits =>
    refine consume_holds Quiet.ended quiet fun prompting isPrompting => ?_
    rw [Holds, ensures_ite]
    exact ⟨fun _ => (ensures_pure _).2 quiet, fun _ => onEvent_quiet single quiet isPrompting⟩
  | again =>
    refine consume_holds Quiet.ended quiet fun prompting isPrompting => ?_
    rw [Holds, quiet.stays prompting isPrompting, ensures_ite]
    exact ⟨by rintro ⟨⟩, fun _ => (ensures_pure _).2 quiet⟩
  | leave => exact (ensures_modify _).2 quiet.ended

theorem prompt_quiet (quiet : Quiet count state.bindings state.effects state.prompting) :
    (serveCall config (.prompt taskId executionId)).Ensures
      (fun _ after => Quiet (count + 1) after.bindings after.effects after.prompting)
      (fun _ after => Quiet count after.bindings after.effects after.prompting) state := by
  simp only [serveCall, requireBinding, ensures_bind, ensures_read]
  exact .require (fun _ _ => forward_quiet quiet) quiet

/-- **Where nothing is ever retried or switched**, a call makes one turn. -/
theorem turnsWithin_one (single : Single config) : TurnsWithin config 1 := by
  intro lease history state run _ taskId executionId steps after consumed
  -- how many turns there were before the call is of no interest
  obtain ⟨count, quiet⟩ : ∃ count, Quiet count state.bindings state.effects state.prompting := by
    refine run.procedure_invariant
      (fun state => ∃ count, Quiet count state.bindings state.effects state.prompting) ?_ ?_
    · exact ⟨0, by rintro _ _ ⟨⟩, by rintro _ ⟨⟩, rfl⟩
    · rintro state call ⟨count, quiet⟩ _
      by_cases isPrompt : ∃ taskId executionId, call = .prompt taskId executionId
      · obtain ⟨taskId, executionId, rfl⟩ := isPrompt
        exact (prompt_quiet quiet).mono (fun _ _ quiet => ⟨_, quiet⟩) fun _ _ quiet => ⟨_, quiet⟩
      · refine (serveCall_quiet single quiet fun taskId executionId same => ?_).mono
          (fun _ _ quiet => ⟨_, quiet⟩) fun _ _ quiet => ⟨_, quiet⟩
        exact isPrompt ⟨taskId, executionId, same⟩
  have begins : (serveCall config (.prompt taskId executionId)).Ensures
      (fun _ after => ∃ made ≤ count + 1, Quiet made after.bindings after.effects after.prompting)
      (fun _ after => ∃ made ≤ count + 1, Quiet made after.bindings after.effects after.prompting)
      state :=
    (prompt_quiet quiet).mono (fun _ _ quiet => ⟨_, Nat.le_refl _, quiet⟩)
      fun _ _ quiet => ⟨_, Nat.le_succ _, quiet⟩
  obtain ⟨made, most, started⟩ := Procedure.ensures_state.1 begins
  have ended := consumed.procedure_invariant
    (fun state => Quiet made state.bindings state.effects state.prompting) started (by
      rintro state call quiet consumes
      refine serveCall_quiet single quiet ?_
      rintro _ _ rfl
      exact consumes)
  rw [ended.counted, quiet.counted]
  exact most

end Quiet

/-! ## Executors that exhaust their contexts -/

section Handoffs

variable {config} {executorId target : String} {generation ordinal number : Nat}
  {controller : Controller} {processed : List (String × FailoverAction)} {state : RuntimeState}
  {code : ExecutorFailureCode}

def sampleKey : String := bindingKey "task-1" "execution-1"

def sampleId (ordinal : Nat) (code : ExecutorFailureCode) : String :=
  failureId "task-1" "execution-1" ordinal code

theorem sampleId_text (suffix : String) : scriptTrim (sampleId ordinal code ++ suffix) ≠ "" := by
  intro blank
  have every := (trimWith_eq_empty _ _).1 blank
  have member : ':' ∈ (sampleId ordinal code ++ suffix).toList := by
    rw [String.toList_append, sampleId, toList_failureId]
    simp
  exact absurd (every ':' member) (by decide)

/-- The decisions are of failures up to one, and of their handoffs. -/
def Numbered (ordinal : Nat) (processed : List (String × FailoverAction)) : Prop :=
  ∀ entry ∈ processed, ∃ earlier ≤ ordinal, ∃ code,
    entry.1 = sampleId earlier code ∨ entry.1 = handoffSwitchId (sampleId earlier code)

variable {eventId : String}

theorem Numbered.remember (numbered : Numbered ordinal processed) (later : ordinal ≤ number)
    (isId : eventId = sampleId number code ∨
      eventId = handoffSwitchId (sampleId number code)) (action : FailoverAction) :
    Numbered number (rememberIn config processed eventId action) := by
  intro entry member
  rcases List.mem_append.1 (List.mem_of_mem_drop member) with earlier | isNew
  · obtain ⟨before, within, code, isId⟩ := numbered entry earlier
    exact ⟨before, Nat.le_trans within later, code, isId⟩
  · obtain rfl := List.mem_singleton.1 isNew
    exact ⟨number, Nat.le_refl _, code, isId⟩

theorem Numbered.fresh (numbered : Numbered ordinal processed) (later : ordinal < number) :
    processed.lookup (sampleId number code) = none := by
  rw [List.lookup_eq_none_iff]
  intro entry member
  obtain ⟨earlier, within, code', isId | isId⟩ := numbered entry member
  · refine bne_iff_ne.2 fun same => ?_
    obtain ⟨places, -⟩ := failureId_inj (same.trans isId)
    omega
  · refine bne_iff_ne.2 fun same => ?_
    exact failureId_ne_handoffSwitchId _ (same.trans isId)

/-- Nor is its handoff, when only the failure itself has been remembered since. -/
theorem Numbered.fresh_handoff (numbered : Numbered ordinal processed) (later : ordinal < number)
    (action : FailoverAction) :
    (rememberIn config processed (sampleId number code) action).lookup
      (handoffSwitchId (sampleId number code)) = none := by
  rw [List.lookup_eq_none_iff]
  intro entry member
  refine bne_iff_ne.2 fun same => ?_
  rcases List.mem_append.1 (List.mem_of_mem_drop member) with earlier | isNew
  · obtain ⟨before, within, code', isId | isId⟩ := numbered entry earlier
    · exact failureId_ne_handoffSwitchId _ (same.trans isId).symm
    · obtain ⟨places, -⟩ := failureId_inj (handoffSwitchId_inj (same.trans isId))
      omega
  · obtain rfl := List.mem_singleton.1 isNew
    exact failureId_ne_handoffSwitchId _ same.symm

structure Serving (config : FailoverConfig) (executorId : String) (generation ordinal : Nat)
    (controller : Controller) : Prop where
  invariant : ControllerInvariant config controller
  current : controller.currentExecutorId = executorId
  generation : controller.generation = generation
  idle : controller.pendingSwitch = none
  numbered : Numbered ordinal controller.processed

section

variable (serving : Serving config executorId generation ordinal controller)
include serving

/-- **A failure that reaches the controller** for the first time is decided once it is counted. -/
theorem ensures_onFailure {returns : FailoverAction → Controller → Prop}
    {throws : String → Controller → Prop}
    (allowed : code ∉ forbiddenFailoverFailures) :
    (onFailure config (sampleId (ordinal + 1) code) ⟨code, executorId⟩ 0).Ensures returns throws
        controller ↔
      (decideFailure config (sampleId (ordinal + 1) code) code 0).Ensures returns throws
        (controller.updateProvider executorId fun state => state.failed config 0) := by
  have fresh : controller.processed.lookup (sampleId (ordinal + 1) code) = none :=
    serving.numbered.fresh (Nat.lt_succ_self ordinal)
  obtain ⟨provider, found⟩ := serving.invariant.provider serving.invariant.current
  have text : scriptTrim (sampleId (ordinal + 1) code ++ "") ≠ "" := sampleId_text ""
  rw [String.append_empty] at text
  have own := serving.current
  subst own
  simp [onFailure, assertEventId, assertTime, Controller.provider, orError, text, fresh, serving.idle,
    allowed, found]

theorem Serving.updated (update : ProviderState → ProviderState) :
    Serving config executorId generation ordinal (controller.updateProvider executorId update) where
  invariant := serving.invariant.decided (updateProvider_names _) rfl rfl serving.invariant.known
    serving.invariant.within serving.invariant.pending
  current := serving.current
  generation := serving.generation
  idle := serving.idle
  numbered := serving.numbered

theorem Serving.remember
    (later : ordinal ≤ number) (fresh : controller.processed.lookup eventId = none)
    (isId : eventId = sampleId number code ∨ eventId = handoffSwitchId (sampleId number code))
    (action : FailoverAction) :
    Serving config executorId generation number
      { controller with processed := rememberIn config controller.processed eventId action } where
  invariant := by
    obtain ⟨known, within⟩ := rememberIn_spec fresh serving.invariant.known
    exact serving.invariant.decided rfl rfl rfl known within serving.invariant.pending
  current := serving.current
  generation := serving.generation
  idle := serving.idle
  numbered := serving.numbered.remember later isId action

/-- A context that is exhausted requires a handoff, **whatever the availability of others**. -/
theorem onFailure_handoff :
    (onFailure config (sampleId (ordinal + 1) .contextExhausted) ⟨.contextExhausted, executorId⟩
      0).Ensures
      (fun action after => action = .handoff executorId (generation + 1) .contextExhausted ∧
        Serving config executorId generation (ordinal + 1) after ∧
        after.processed.lookup (handoffSwitchId (sampleId (ordinal + 1) .contextExhausted)) = none)
      (fun _ _ => False) controller := by
  rw [ensures_onFailure serving (by decide)]
  have serving := serving.updated fun state => state.failed config 0
  revert serving
  generalize controller.updateProvider executorId (fun state => state.failed config 0) = counted
  intro serving
  have fresh : counted.processed.lookup (sampleId (ordinal + 1) .contextExhausted) = none :=
    serving.numbered.fresh (Nat.lt_succ_self ordinal)
  obtain ⟨provider, found⟩ := serving.invariant.provider serving.invariant.current
  rw [decideFailure, ensures_bind, ensures_read]
  dsimp only
  rw [ensures_bind, Controller.provider, found, orError, ensures_ofExcept]
  refine ⟨fun _ _ => ?_, fun _ isError => ?_⟩
  · rw [if_neg (by decide), if_pos (by decide), serving.current, serving.generation]
    refine ensures_remember fresh ⟨rfl, serving.remember (Nat.le_succ _) fresh (.inl rfl) _, ?_⟩
    exact serving.numbered.fresh_handoff (Nat.lt_succ_self ordinal) _
  · cases isError

end

theorem manualSwitch_planned (serving : Serving config executorId generation number controller)
    (fresh : controller.processed.lookup (handoffSwitchId (sampleId number code)) = none)
    (candidate : target ∈ config.candidates) (different : target ≠ executorId) :
    (manualSwitch config (handoffSwitchId (sampleId number code)) target).Ensures
      (fun action after => action = .switch ⟨executorId, target, generation + 1, .manual⟩ ∧
        ∃ resting, Serving config executorId generation number resting ∧
          after = { resting with pendingSwitch := some ⟨handoffSwitchId (sampleId number code),
            ⟨executorId, target, generation + 1, .manual⟩⟩ })
      (fun _ _ => False) controller := by
  have text : scriptTrim (sampleId number code ++ ":handoff-switch") ≠ "" := sampleId_text _
  have isCurrent := serving.current
  have isGeneration := serving.generation
  subst isCurrent isGeneration
  rw [manualSwitch, assertEventId, ensures_bind, ensures_check]
  refine ⟨fun _ => ?_, fun blank => blank text⟩
  rw [ensures_bind, ensures_read, fresh]
  dsimp only
  rw [serving.idle, if_neg (by simp), ensures_bind, ensures_check]
  refine ⟨fun _ => ?_, fun stranger => stranger candidate⟩
  rw [if_neg different, plan, ensures_bind, ensures_read, ensures_bind, ensures_modify]
  refine ensures_remember fresh ⟨rfl, _, serving.remember (Nat.le_refl _) fresh (.inr rfl) _, rfl⟩

theorem commitVerifiedSwitch_serving (eventId : String) (reason : SwitchReason)
    (serving : Serving config executorId generation number controller)
    (candidate : target ∈ config.candidates) :
    (commitVerifiedSwitch eventId (generation + 1)).Ensures
      (fun _ => Serving config target (generation + 1) number) (fun _ _ => False)
      { controller with
        pendingSwitch := some ⟨eventId, ⟨executorId, target, generation + 1, reason⟩⟩ } := by
  simp only [commitVerifiedSwitch, recordSuccess, ensures_bind, ensures_read,
    ensures_modify, Procedure.ensures_require, ensures_check,
    ensures_ofExcept]
  refine ⟨?_, fun missing => by cases missing⟩
  rintro _ ⟨⟩
  refine ⟨fun _ => ⟨fun _ => ⟨fun provider _ => ?_, fun _ isError => ?_⟩, fun other => other rfl⟩,
    fun other => other rfl⟩
  · refine ⟨?_, rfl, rfl, rfl, serving.numbered⟩
    refine ⟨serving.invariant.distinct, ?_, candidate, serving.invariant.known,
      serving.invariant.within, by rintro _ ⟨⟩⟩
    exact (updateProvider_names _).trans serving.invariant.names
  · obtain ⟨provider, found⟩ := serving.invariant.provider candidate
    rw [Controller.provider, found] at isError
    cases isError

def heldLease (executorId : String) (generation : Nat) : WorkspaceWriterLease :=
  ⟨"task-1", "execution-1", executorId, generation, "nonce", .active⟩

theorem setSession_self (state : RuntimeState) (key : String) (session : Option ExecutorBinding) :
    (state.setSession key session).sessions key = session := Function.update_self ..

theorem setBinding_self (state : RuntimeState) (key : String) (binding : Option Binding) :
    (state.setBinding key binding).bindings key = binding := Function.update_self ..

structure Working (executorId : String) (generation : Nat) (controller : Controller)
    (state : RuntimeState) : Prop where
  session : state.sessions sampleKey =
    some ⟨sampleIdentity, executorId, ⟨executorId, "session", generation⟩, []⟩
  lease : state.lease = some (heldLease executorId generation)
  bound : state.bindings sampleKey =
    some ⟨sampleIdentity, controller, heldLease executorId generation⟩

theorem Working.update (working : Working executorId generation controller state) (after : Controller) :
    Working executorId generation after
      (state.setBinding sampleKey (some ⟨sampleIdentity, after, heldLease executorId generation⟩)) :=
  ⟨working.session, working.lease, setBinding_self state sampleKey _⟩

theorem matches_self (lease : WorkspaceWriterLease) : lease.matches lease := ⟨rfl, rfl, rfl, rfl, rfl⟩

def sampleHash : String := "0123456789abcdef0123456789abcdef0123456789abcdef0123456789abcdef"

theorem sampleHash_length : sampleHash.length = 64 := by decide +kernel

theorem sampleHash_text : nonBlank sampleHash = true := by rfl

def sampleVerification (generation : Nat) : HandoffVerification :=
  ⟨[], "task-1", "execution-1", sampleHash, generation + 1⟩

theorem beginHandoff_held (lease : state.lease = some (heldLease executorId generation)) :
    (beginHandoff (heldLease executorId generation) (.ok ())).Ensures
      (fun pending after => pending = { heldLease executorId generation with state := .handoffPending } ∧
        after = { state with lease := some pending })
      (fun _ _ => False) state := by
  simp only [beginHandoff, requireMatch, ensures_bind, ensures_read, lease,
    require_some, ofExcept_ok, ensures_pure, ensures_modify]
  exact .passes (matches_self _) ⟨trivial, rfl⟩

theorem handoffEvidence_accepted {binding : Binding} (identity : binding.identity = sampleIdentity) :
    (handoffEvidence "task-1" "execution-1" eventId binding generation
      (sampleAwaits target (generation + 1))).Ensures
      (fun verified after => verified = (sampleVerification generation, "fingerprint") ∧ after = state)
      (fun _ _ => False) state := by
  simp only [handoffEvidence, sampleAwaits, ensures_bind, ofExcept_ok, ensures_pure]
  refine .otherwise (fun rejected => rejected rfl) ((ensures_pure _).2 ⟨?_, rfl⟩)
  rw [identity]
  rfl

theorem acceptHandoff_pending
    (lease : state.lease = some { heldLease executorId generation with state := .handoffPending }) :
    (acceptHandoff { heldLease executorId generation with state := .handoffPending } target
      (sampleVerification generation) "nonce" (.ok ())).Ensures
      (fun next after => next = heldLease target (generation + 1) ∧
        after = { state with
          lease := some next
          effects := .transferred "task-1" "execution-1" (generation + 1) :: state.effects })
      (fun _ _ => False) state := by
  simp only [acceptHandoff, requireMatch, ensures_bind, ensures_read, lease,
    require_some, ofExcept_ok, ensures_pure, ensures_modify]
  refine .passes (matches_self _) (.passes rfl (.passes rfl (.passes ⟨rfl, rfl⟩ (.passes ?_
    (.passes rfl ?_)))))
  · exact sampleHash_length
  exact ⟨rfl, rfl⟩

theorem replaceSession_working {reason : SwitchReason} {binding : Binding}
    (identity : binding.identity = sampleIdentity)
    (serving : Serving config executorId generation number controller)
    (candidate : target ∈ config.candidates) (small : generation + 1 ≤ maxSafeInteger)
    (positive : 1 ≤ generation) (session : state.sessions sampleKey =
      some ⟨sampleIdentity, executorId, ⟨executorId, "session", generation⟩, []⟩)
    (lease : state.lease = some { heldLease executorId generation with state := .handoffPending })
    (bound : state.bindings sampleKey = some ⟨sampleIdentity,
      { controller with
        pendingSwitch := some ⟨eventId, ⟨executorId, target, generation + 1, reason⟩⟩ },
      heldLease executorId generation⟩) :
    (replaceSession "task-1" "execution-1" eventId binding
      ⟨executorId, target, generation + 1, reason⟩
      { heldLease executorId generation with state := .handoffPending } generation
      (sampleVerification generation) "fingerprint" (sampleAwaits target (generation + 1))).Ensures
      (fun _ after => after.prompting = state.prompting ∧ turns after.effects = turns state.effects ∧
        ∃ next, Serving config target (generation + 1) number next ∧
          Working target (generation + 1) next after)
      (fun _ _ => False) state := by
  obtain ⟨named, _, _⟩ := binding
  obtain rfl : named = sampleIdentity := identity
  have isKey : sampleIdentity.key = sampleKey := rfl
  have isKey' : bindingKey "task-1" "execution-1" = sampleKey := rfl
  have valid : assertIdentity sampleIdentity = .ok () := rfl
  have hashed : assertHandoffCheckpoint ⟨handoffProtocol, (sampleVerification generation).checkpointHash,
      generation, "fingerprint"⟩ = .ok () := by
    simp only [assertHandoffCheckpoint, assertGeneration, bind_ok, ensure_ok]
    exact ⟨(), trivial, (), ⟨positive, by omega⟩, sampleHash_text, rfl⟩
  have next : assertGeneration (generation + 1) = .ok () := by
    rw [assertGeneration, ensure_ok]
    exact ⟨by omega, small⟩
  have returned : assertReturnedSession target (generation + 1) ⟨target, "session", generation + 1⟩ =
      .ok () := by
    simp only [assertReturnedSession, bind_ok, ensure_ok]
    exact ⟨(), trivial, (), trivial, rfl⟩
  simp only [replaceSession, ensures_bind, managerClose, requireSession,
    ensures_read, isKey, session, require_some, ensures_pure,
    Procedure.ensures_andFinally, sampleAwaits, ofExcept_ok, ensures_modify,
    managerStartFromHandoff, hashed, next, valid, bindSession, setSession, returned]
  refine .passes rfl (Procedure.Ensures.otherwise (fun differs => differs rfl) ?_)
  simp only [ensures_bind]
  refine Procedure.Ensures.mono (acceptHandoff_pending ?_) ?_ fun _ _ impossible => impossible
  · exact lease
  rintro _ _ ⟨rfl, rfl⟩
  rw [ensures_modify]
  have held : Function.update state.bindings sampleKey ((state.bindings sampleKey).map fun binding =>
      { binding with lease := heldLease target (generation + 1) }) sampleKey = some ⟨sampleIdentity,
        { controller with
          pendingSwitch := some ⟨eventId, ⟨executorId, target, generation + 1, reason⟩⟩ },
        heldLease target (generation + 1)⟩ := by
    rw [Function.update_self, bound]
    rfl
  refine ensures_control_of held ((commitVerifiedSwitch_serving eventId reason serving candidate).mono
    ?_ fun _ _ impossible => impossible)
  intro _ next served
  simp only [recordCommit, ensures_modify, setBinding, isKey',
    Function.update_self, RuntimeState.emit]
  refine ⟨trivial, rfl, next, served, ?_, rfl, ?_⟩
  · dsimp only
    rw [Function.update_self]
  · dsimp only
    rw [Function.update_self]

theorem verifiedSwitch_working {reason : SwitchReason}
    (serving : Serving config executorId generation number controller)
    (candidate : target ∈ config.candidates) (small : generation + 1 ≤ maxSafeInteger)
    (positive : 1 ≤ generation) (working : Working executorId generation { controller with
      pendingSwitch := some ⟨eventId, ⟨executorId, target, generation + 1, reason⟩⟩ } state) :
    (verifiedSwitch "task-1" "execution-1" eventId ⟨executorId, target, generation + 1, reason⟩
      (sampleAwaits target (generation + 1))).Ensures
      (fun _ after => after.prompting = state.prompting ∧ turns after.effects = turns state.effects ∧
        ∃ next, Serving config target (generation + 1) number next ∧
          Working target (generation + 1) next after)
      (fun _ _ => False) state := by
  have isKey : bindingKey "task-1" "execution-1" = sampleKey := rfl
  have isKey' : sampleIdentity.key = sampleKey := rfl
  rw [verifiedSwitch, requireBinding]
  simp only [ensures_bind, ensures_read, isKey, isKey', working.bound,
    require_some, ensures_pure, working.session]
  refine .passes ⟨rfl, rfl⟩ ?_
  rw [ensures_modify]
  refine Procedure.Ensures.mono (beginHandoff_held ?_) ?_ fun _ _ impossible => impossible
  · exact working.lease
  rintro _ _ ⟨rfl, rfl⟩
  refine (handoffEvidence_accepted rfl).mono ?_ fun _ _ impossible => impossible
  rintro _ _ ⟨rfl, rfl⟩
  refine Procedure.Ensures.mono (replaceSession_working rfl serving candidate small positive ?_ ?_ ?_) ?_
    fun _ _ impossible => impossible
  · exact working.session
  · rfl
  · exact working.bound
  · rintro _ after ⟨prompting, counted, replaced⟩
    exact ⟨prompting, counted, replaced⟩

variable {serves serves' : Controller → Prop} {made : Nat}

def Attended (serves : Controller → Prop) (executorId : String) (generation : Nat) (state : RuntimeState) :
    Prop := ∃ controller, serves controller ∧ Working executorId generation controller state

/-- It is in a turn of its prompt, after so many failures and turns. -/
structure Turning (serves : Controller → Prop) (executorId : String) (generation ordinal made : Nat)
    (state : RuntimeState) : Prop where
  served : Attended serves executorId generation state
  prompting : state.prompting = some ⟨"task-1", "execution-1", ordinal, 0, false⟩
  made : turns state.effects = made

structure Left (serves : Controller → Prop) (executorId : String) (generation ordinal made : Nat)
    (state : RuntimeState) : Prop where
  served : Attended serves executorId generation state
  prompting : state.prompting = some ⟨"task-1", "execution-1", ordinal, 1, true⟩
  made : turns state.effects = made

def fails (code : ExecutorFailureCode) (executorId target : String) (generation : Nat) : RuntimeCall :=
  .event (.failure 1 ⟨code, executorId⟩) 0 (sampleAwaits target (generation + 1))

theorem ensures_fails {returns : RuntimeState → Prop}
    (working : Working executorId generation controller state)
    (prompting : state.prompting = some ⟨"task-1", "execution-1", ordinal, 0, false⟩)
    (decided : (onFailure config (sampleId (ordinal + 1) code) ⟨code, executorId⟩ 0).Ensures
      (fun action after => ∀ next, Working executorId generation after next →
        next.prompting = some ⟨"task-1", "execution-1", ordinal + 1, 1, false⟩ →
        turns next.effects = turns state.effects →
        (carryOut config "task-1" "execution-1" (sampleId (ordinal + 1) code) action
          (sampleAwaits target (generation + 1))).Ensures (fun _ => returns)
          (fun _ _ => False) next)
      (fun _ _ => False) controller) :
    (serveCall config (fails code executorId target generation)).Ensures (fun _ => returns)
      (fun _ _ => False) state := by
  have isKey : (Prompting.mk "task-1" "execution-1" ordinal 0 false).key = sampleKey := rfl
  have isKey' : bindingKey "task-1" "execution-1" = sampleKey := rfl
  have accepted : acceptEvent
      ⟨sampleIdentity, executorId, ⟨executorId, "session", generation⟩, []⟩ 0
      (.failure 1 ⟨code, executorId⟩) =
        .ok ⟨sampleIdentity, executorId, ⟨executorId, "session", generation⟩, []⟩ := by
    simp only [acceptEvent, bind_ok, ensure_ok, pure_ok]
    exact ⟨(), ⟨Nat.le_of_ble_eq_true rfl, Nat.zero_lt_one⟩, (), trivial, trivial⟩
  simp only [serveCall, fails, consume, ensures_bind, ensures_read]
  rw [prompting]
  dsimp only
  rw [ensures_onError]
  refine Procedure.Ensures.mono
    (?_ : Procedure.Ensures _ (fun _ => returns) (fun _ _ => False) state)
    (fun _ _ returned => returned) fun _ _ impossible => impossible.elim
  refine .otherwise (by simp) ?_
  simp only [onEvent, requireSession, onFailureEvent, requireBinding, ensures_bind,
    ensures_read, isKey, isKey', working.session, working.bound, require_some,
    ensures_pure, accepted, ofExcept_ok, ensures_modify,
    setSession]
  refine ensures_control_of working.bound (decided.mono ?_ fun _ _ impossible => impossible)
  intro action after carried
  refine carried _ ⟨?_, ?_, ?_⟩ ?_ ?_
  · exact setSession_self state sampleKey _
  · exact working.lease
  · exact setBinding_self state sampleKey _
  · rfl
  · rfl

variable (config) in
theorem ensures_again (left : Left serves executorId generation ordinal made state) :
    (serveCall config .again).Ensures
      (fun _ => Turning serves executorId generation ordinal (made + 1)) (fun _ _ => False)
      state := by
  obtain ⟨⟨controller, serving, working⟩, prompting, rfl⟩ := left
  have isKey : (Prompting.mk "task-1" "execution-1" ordinal 1 true).key = sampleKey := rfl
  simp only [serveCall, consume, ensures_bind, ensures_read]
  rw [prompting]
  dsimp only
  rw [ensures_onError, ensures_ite]
  refine ⟨fun _ => ?_, fun stays => absurd rfl stays⟩
  simp only [forward, requireSession, ensures_bind, ensures_read, isKey,
    working.session, require_some, ensures_pure, ensures_modify]
  exact ⟨⟨controller, serving, working.session, working.lease, working.bound⟩, rfl,
    List.countP_cons_of_pos rfl⟩

theorem nextCandidate_other (distinct : config.candidates.Nodup)
    (several : 2 ≤ config.candidates.length) (candidate : executorId ∈ config.candidates) :
    ∃ target ∈ config.candidates, target ≠ executorId ∧
      nextCandidate config executorId = some target := by
  have place := List.idxOf_lt_length_iff.2 candidate
  have turned := rotated_ne place (Nat.sub_pos_of_lt several)
  have within : (config.candidates.idxOf executorId + (0 + 1)) % config.candidates.length <
      config.candidates.length := Nat.mod_lt _ (by omega)
  have other : config.candidates[(config.candidates.idxOf executorId + (0 + 1)) %
      config.candidates.length] ≠ executorId := by
    intro same
    refine turned ?_
    have found := distinct.idxOf_getElem _ within
    rw [same] at found
    exact found.symm
  have among : config.candidates[(config.candidates.idxOf executorId + (0 + 1)) %
      config.candidates.length] ∈ fallbacks config executorId := by
    simp only [fallbacks, List.mem_filterMap, List.mem_range]
    exact ⟨0, Nat.sub_pos_of_lt several, List.getElem?_eq_getElem within⟩
  cases found : nextCandidate config executorId with
  | none =>
    rw [nextCandidate, if_pos candidate, List.find?_eq_none] at found
    exact absurd (by simpa using other) (found _ among)
  | some target =>
    rw [nextCandidate, if_pos candidate] at found
    refine ⟨target, ?_, ?_, rfl⟩
    · have member := List.mem_of_find?_eq_some found
      simp only [fallbacks, List.mem_filterMap] at member
      obtain ⟨offset, _, isThere⟩ := member
      exact List.mem_of_getElem? isThere
    · simpa using List.find?_some found

/-- An executor that exhausts its context hands over to the next one, **available or not**. -/
theorem ensures_handoff (automatic : config.automaticFailover = true)
    (next : nextCandidate config executorId = some target) (candidate : target ∈ config.candidates)
    (different : target ≠ executorId) (small : generation + 1 ≤ maxSafeInteger)
    (positive : 1 ≤ generation) (turning : Turning (Serving config executorId generation ordinal)
      executorId generation ordinal made state) :
    (serveCall config (fails .contextExhausted executorId target generation)).Ensures
      (fun _ after => Left (Serving config target (generation + 1) (ordinal + 1)) target (generation + 1)
        (ordinal + 1) made after)
      (fun _ _ => False) state := by
  obtain ⟨⟨controller, serving, working⟩, prompting, rfl⟩ := turning
  refine ensures_fails working prompting ((onFailure_handoff serving).mono ?_ fun _ _ never => never)
  rintro _ noted ⟨rfl, serving, fresh⟩ state working prompting made
  rw [carryOut, if_pos automatic, next]
  dsimp only
  rw [ensures_bind]
  refine ensures_control_of working.bound ((manualSwitch_planned serving fresh candidate
    different).mono ?_ fun _ _ never => never)
  rintro _ _ ⟨rfl, resting, serving, rfl⟩
  dsimp only
  rw [ensures_bind]
  refine (verifiedSwitch_working serving candidate small positive (working.update _)).mono ?_
    fun _ _ never => never
  rintro _ after ⟨samePrompting, sameMade, controller, serving, working⟩
  rw [continueTurn, ensures_modify]
  refine ⟨⟨controller, serving, working.session, working.lease, working.bound⟩, ?_,
    sameMade.trans made⟩
  rw [samePrompting]
  show state.prompting.map _ = _
  rw [prompting]
  rfl

theorem turn_again {guard : RuntimeState → RuntimeCall → Prop}
    {start : RuntimeState} {history : List (RuntimeCall × Except String Unit)} {call : RuntimeCall}
    (consumes : ∀ state call, Consumes state call → guard state call)
    (run : (runtimeMachine config).Run guard start history state) (consumed : Consumes state call)
    (leaves : (serveCall config call).Ensures
      (fun _ => Left serves executorId generation ordinal made) (fun _ _ => False) state) :
    ∃ history after, (runtimeMachine config).Run guard start history after ∧
      Turning serves executorId generation ordinal (made + 1) after := by
  have run := run.snoc call (consumes _ _ consumed)
  have again := (ensures_again config leaves.reached).reached
  exact ⟨_, _, run.snoc RuntimeCall.again (consumes _ .again trivial), again⟩

/-- **As many turns as there are generations left**: executors that all exhaust their contexts hand
over to one another. -/
theorem exists_turns (automatic : config.automaticFailover = true)
    (several : 2 ≤ config.candidates.length) (candidate : executorId ∈ config.candidates)
    (distinct : config.candidates.Nodup)
    (turning : Turning (Serving config executorId 1 0) executorId 1 0 made state) (more : Nat) (small : more + 1 ≤ maxSafeInteger) :
    ∃ history after, (runtimeMachine config).Run Consumes state history after ∧
      ∃ target ∈ config.candidates, Turning (Serving config target (more + 1) more) target (more + 1) more
        (made + more) after := by
  induction more with
  | zero => exact ⟨[], state, .nil, executorId, candidate, turning⟩
  | succ more ih =>
    obtain ⟨history, after, run, current, isCandidate, turning⟩ := ih (by omega)
    obtain ⟨target, candidate, different, next⟩ := nextCandidate_other distinct several isCandidate
    have consumed : Consumes after (fails .contextExhausted current target (more + 1)) := trivial
    obtain ⟨history, after, run, turning⟩ := turn_again (fun _ _ consumed => consumed) run consumed
      (ensures_handoff automatic next candidate different small (Nat.succ_pos _) turning)
    exact ⟨history, after, run, target, candidate, turning⟩

end Handoffs

/-! ## Retries that are remembered -/

section Retries

variable {config} {executorId : String} {generation ordinal remembered made : Nat}
  {controller : Controller} {state : RuntimeState} {serves serves' : Controller → Prop}

/-- A controller that remembers a retry for each of the first failures of a prompt. -/
structure Remembers (config : FailoverConfig) (executorId : String) (remembered : Nat)
    (controller : Controller) : Prop where
  serving : Serving config executorId 1 remembered controller
  length : controller.processed.length = remembered
  retried : ∀ ordinal < remembered, ∃ attempt,
    controller.processed.lookup (sampleId (ordinal + 1) .rateLimited) =
      some (.retry executorId attempt config.maxRetries)

/-- It has all its retries left. -/
def Fresh (config : FailoverConfig) (executorId : String) (remembered : Nat) (controller : Controller) :
    Prop := Remembers config executorId remembered controller ∧ retryCountOf controller executorId = 0

def IsRetry (config : FailoverConfig) (executorId : String) (action : FailoverAction) : Prop :=
  ∃ attempt, action = .retry executorId attempt config.maxRetries

/-- A retry that is remembered is given again, **and counts for nothing**. -/
theorem onFailure_remembered (fresh : Fresh config executorId remembered controller)
    (earlier : ordinal < remembered) :
    (onFailure config (sampleId (ordinal + 1) .rateLimited) ⟨.rateLimited, executorId⟩ 0).Ensures
      (fun action after => IsRetry config executorId action ∧ Fresh config executorId remembered after)
      (fun _ _ => False) controller := by
  obtain ⟨attempt, cached⟩ := fresh.1.retried ordinal earlier
  have text : scriptTrim (sampleId (ordinal + 1) .rateLimited ++ "") ≠ "" := sampleId_text ""
  rw [String.append_empty] at text
  rw [onFailure, assertEventId, ensures_bind]
  refine .passes text ?_
  rw [assertTime, ensures_bind]
  refine .passes (Nat.zero_le _) ?_
  rw [ensures_bind, ensures_read, cached]
  exact (ensures_pure _).2 ⟨⟨attempt, rfl⟩, fresh⟩

theorem rememberIn_room {processed : List (String × FailoverAction)}
    (room : processed.length < config.limit) (eventId : String) (action : FailoverAction) :
    rememberIn config processed eventId action = processed ++ [(eventId, action)] := by
  rw [rememberIn, Nat.sub_eq_zero_of_le room, List.drop_zero]

theorem onFailure_retried (automatic : config.automaticFailover = true)
    (retries : 1 ≤ config.maxRetries) (room : remembered < config.limit)
    (fresh : Fresh config executorId remembered controller) :
    (onFailure config (sampleId (remembered + 1) .rateLimited) ⟨.rateLimited, executorId⟩ 0).Ensures
      (fun action after => IsRetry config executorId action ∧
        Remembers config executorId (remembered + 1) after)
      (fun _ _ => False) controller := by
  obtain ⟨⟨serving, length, retried⟩, unretried⟩ := fresh
  rw [ensures_onFailure serving (by decide)]
  have unretried : retryCountOf (controller.updateProvider executorId fun state =>
      state.failed config 0) executorId = 0 := by
    refine (retryCountOf_update ?_ _).trans unretried
    exact fun _ => rfl
  have serving := serving.updated fun state => state.failed config 0
  have same : (controller.updateProvider executorId fun state => state.failed config 0).processed =
    controller.processed := rfl
  rw [← same] at length retried
  revert unretried serving length retried
  generalize controller.updateProvider executorId (fun state => state.failed config 0) = counted
  intro length retried unretried serving
  have new : counted.processed.lookup (sampleId (remembered + 1) .rateLimited) = none :=
    serving.numbered.fresh (Nat.lt_succ_self remembered)
  obtain ⟨provider, found⟩ := serving.invariant.provider serving.invariant.current
  have none_ : provider.retryCount = 0 := by
    rw [retryCountOf, ← serving.current, found] at unretried
    exact unretried
  have isCurrent := serving.current
  subst isCurrent
  rw [decideFailure, ensures_bind, ensures_read]
  dsimp only
  rw [ensures_bind, Controller.provider, found, orError, ensures_ofExcept]
  refine ⟨?_, fun _ isError => ?_⟩
  · rintro _ ⟨⟩
    rw [if_neg (by decide), if_neg (by decide), if_neg (by rintro ⟨⟨⟩, -⟩), if_neg (by simp [automatic]),
      if_pos ⟨by decide, by omega⟩, ensures_bind, ensures_modify]
    refine ensures_remember new ⟨⟨_, rfl⟩, ?_⟩
    have serving := serving.updated fun state => { state with retryCount := state.retryCount + 1 }
    have isAll := rememberIn_room (length ▸ room) (sampleId (remembered + 1) .rateLimited)
      (.retry counted.currentExecutorId (provider.retryCount + 1) config.maxRetries)
    refine ⟨serving.remember (Nat.le_succ _) new (.inl rfl) _, ?_, fun ordinal earlier => ?_⟩
    · show (rememberIn config counted.processed _ _).length = _
      rw [isAll, List.length_append, length, List.length_singleton]
    · show ∃ attempt, (rememberIn config counted.processed _ _).lookup _ = _
      rw [isAll, List.lookup_append]
      rcases Nat.lt_succ_iff_lt_or_eq.1 earlier with before | rfl
      · obtain ⟨attempt, cached⟩ := retried ordinal before
        exact ⟨attempt, by rw [cached]; rfl⟩
      · refine ⟨provider.retryCount + 1, ?_⟩
        rw [new, List.lookup_cons, beq_self_eq_true]
        rfl
  · cases isError

/-- **A retry is followed by another turn.** -/
theorem ensures_retry (turning : Turning serves executorId 1 ordinal made state)
    (decided : ∀ controller, serves controller →
      (onFailure config (sampleId (ordinal + 1) .rateLimited) ⟨.rateLimited, executorId⟩ 0).Ensures
        (fun action after => IsRetry config executorId action ∧ serves' after) (fun _ _ => False)
        controller) :
    (serveCall config (fails .rateLimited executorId executorId 1)).Ensures
      (fun _ => Left serves' executorId 1 (ordinal + 1) made) (fun _ _ => False) state := by
  obtain ⟨⟨controller, serving, working⟩, prompting, rfl⟩ := turning
  refine ensures_fails working prompting ((decided controller serving).mono ?_ fun _ _ never => never)
  rintro _ after ⟨⟨attempt, rfl⟩, serving⟩ state working prompting sameMade
  rw [carryOut, continueTurn, ensures_modify]
  refine ⟨⟨after, serving, working.session, working.lease, working.bound⟩, ?_, sameMade⟩
  rw [prompting]
  rfl

def succeeds (executorId : String) : RuntimeCall :=
  .event (.completed 1 .succeeded) 0 (sampleAwaits executorId 1)

/-- An execution that has a session and is not prompted. -/
structure Resting (serves : Controller → Prop) (executorId : String) (generation : Nat)
    (state : RuntimeState) : Prop where
  served : Attended serves executorId generation state
  prompting : state.prompting = none

theorem ensures_succeeds
    (turning : Turning (Remembers config executorId remembered) executorId 1 ordinal made state) :
    (serveCall config (succeeds executorId)).Ensures
      (fun _ => Resting (Fresh config executorId remembered) executorId 1)
      (fun _ _ => False) state := by
  obtain ⟨⟨controller, remembers, working⟩, prompting, -⟩ := turning
  obtain ⟨provider, found⟩ := remembers.serving.invariant.provider remembers.serving.invariant.current
  have isCurrent := remembers.serving.current
  subst isCurrent
  have isKey : (Prompting.mk "task-1" "execution-1" ordinal 0 false).key = sampleKey := rfl
  have isKey' : bindingKey "task-1" "execution-1" = sampleKey := rfl
  have accepted : acceptEvent ⟨sampleIdentity, controller.currentExecutorId,
      ⟨controller.currentExecutorId, "session", 1⟩, []⟩ 0 (.completed 1 .succeeded) =
        .ok ⟨sampleIdentity, controller.currentExecutorId,
          ⟨controller.currentExecutorId, "session", 1⟩, []⟩ := by
    simp only [acceptEvent, bind_ok, ensure_ok, pure_ok]
    exact ⟨(), ⟨Nat.le_of_ble_eq_true rfl, Nat.zero_lt_one⟩, trivial⟩
  simp only [serveCall, succeeds, consume, ensures_bind, ensures_read]
  rw [prompting]
  dsimp only
  rw [ensures_onError]
  refine Procedure.Ensures.mono (?_ : Procedure.Ensures _
      (fun _ after => Resting (Fresh config controller.currentExecutorId remembered)
        controller.currentExecutorId 1 after) (fun _ _ => False) state)
    (fun _ _ resting => resting) fun _ _ never => never.elim
  refine .otherwise (by simp) ?_
  simp only [onEvent, requireSession, onCompleted, ensures_bind, ensures_read, isKey,
    working.session, require_some, ensures_pure, accepted, ofExcept_ok,
    ensures_modify, setSession]
  rw [if_pos trivial]
  simp only [onSuccess, requireBinding, ensures_bind, ensures_read, isKey',
    working.bound, require_some, ensures_pure]
  refine ensures_control_of working.bound ?_
  simp only [recordSuccess, Controller.provider, found, orError, ensures_bind,
    ensures_read, ensures_modify]
  rw [ensures_ofExcept]
  have fresh : Fresh config controller.currentExecutorId remembered
      (controller.updateProvider controller.currentExecutorId fun state =>
        { state with retryCount := 0, consecutiveFailures := 0, circuitOpenUntilMs := 0 }) := by
    refine ⟨⟨remembers.serving.updated _, remembers.length, remembers.retried⟩, ?_⟩
    rw [retryCountOf_reset, if_pos rfl]
  refine ⟨fun _ _ => (ensures_modify _).2 ⟨⟨_, fresh, ?_, working.lease, ?_⟩, rfl⟩, ?_⟩
  · exact setSession_self state sampleKey _
  · exact setBinding_self state sampleKey _
  · rintro _ ⟨⟩

variable (config) in
theorem ensures_prompt (resting : Resting serves executorId generation state) :
    (serveCall config (.prompt "task-1" "execution-1")).Ensures
      (fun _ => Turning serves executorId generation 0 (turns state.effects + 1))
      (fun _ _ => False) state := by
  obtain ⟨⟨controller, serving, working⟩, -⟩ := resting
  have isKey : (Prompting.mk "task-1" "execution-1" 0 0 false).key = sampleKey := rfl
  have isKey' : bindingKey "task-1" "execution-1" = sampleKey := rfl
  simp only [serveCall, requireBinding, forward, requireSession, ensures_bind,
    ensures_read, isKey, isKey', working.session, working.bound, require_some,
    ensures_pure, ensures_modify]
  exact ⟨⟨controller, serving, working.session, working.lease, working.bound⟩, rfl,
    List.countP_cons_of_pos rfl⟩

def starts (executorId : String) : RuntimeCall :=
  .start executorId sampleIdentity ⟨.ok ⟨executorId, "session", 1⟩, .ok (), .ok (), "nonce", .ok ()⟩

theorem ensures_starts (valid : validateConfig config = .ok ())
    (candidate : executorId ∈ config.candidates) :
    (serveCall config (starts executorId)).Ensures
      (fun _ => Resting (Fresh config executorId 0) executorId 1) (fun _ _ => False)
      (initial none) := by
  have identified : assertIdentity sampleIdentity = .ok () := rfl
  have returned : assertReturnedSession executorId 1 ⟨executorId, "session", 1⟩ = .ok () := by
    simp only [assertReturnedSession, bind_ok, ensure_ok]
    exact ⟨(), trivial, (), trivial, rfl⟩
  obtain ⟨controller, created⟩ : ∃ controller, Controller.create config executorId 1 = .ok controller := by
    refine ⟨⟨config.candidates.map fun id => (id, emptyProviderState), [], none, executorId, 1⟩, ?_⟩
    simp only [Controller.create, bind_ok, ensure_ok, pure_ok]
    exact ⟨(), valid, (), candidate, (), ⟨Nat.le_of_ble_eq_true rfl, Nat.le_refl 1⟩, trivial⟩
  have isNew := created
  simp only [Controller.create, bind_ok, ensure_ok, pure_ok] at isNew
  obtain ⟨_, _, _, _, _, _, isNew⟩ := isNew
  have serving : Serving config executorId 1 0 controller := by
    refine ⟨create_invariant created, ?_, ?_, ?_, ?_⟩
    · rw [← isNew]
    · rw [← isNew]
    · rw [← isNew]
    · rw [← isNew]
      rintro _ ⟨⟩
  have fresh : Fresh config executorId 0 controller := by
    refine ⟨⟨serving, ?_, by rintro _ ⟨⟩⟩, (retryCountOf_create created executorId).1⟩
    rw [(retryCountOf_create created "").2]
    rfl
  simp only [serveCall, starts, start, bindStarted, managerStart, bindSession, ensures_bind,
    ensures_read, identified, ofExcept_ok, ensures_pure, returned,
    ensures_modify, ensures_onError]
  refine .passes rfl ?_
  simp only [bind, ensures_ite]
  refine ⟨fun stranger => absurd candidate stranger, fun _ => ?_⟩
  simp only [bindLease, acquire, initial, setSession, ensures_bind,
    ensures_read, ofExcept_ok, ensures_pure, ensures_modify,
    created]
  refine .passes ⟨Nat.le_refl 1, Nat.le_of_ble_eq_true rfl⟩ ?_
  refine ⟨⟨controller, fresh, ?_, rfl, ?_⟩, rfl⟩
  · exact setSession_self (initial none) sampleKey _
  · exact setBinding_self (initial none) sampleKey _

theorem exists_started (valid : validateConfig config = .ok ())
    (candidate : executorId ∈ config.candidates) :
    ∃ history state, (runtimeMachine config).Run Sequential (initial none) history state ∧
      Resting (Fresh config executorId 0) executorId 1 state := by
  have run : (runtimeMachine config).Run Sequential (initial none) [] (initial none) := .nil
  exact ⟨_, _, run.snoc (starts executorId) rfl, (ensures_starts valid candidate).reached⟩

/-- **As many turns as there are retries remembered**: they are given again, one after another. -/
theorem exists_retries {guard : RuntimeState → RuntimeCall → Prop} {start : RuntimeState}
    {history : List (RuntimeCall × Except String Unit)}
    (consumes : ∀ state call, Consumes state call → guard state call)
    (run : (runtimeMachine config).Run guard start history state)
    (turning : Turning (Fresh config executorId remembered) executorId 1 0 made state) (more : Nat)
    (within : more ≤ remembered) :
    ∃ history after, (runtimeMachine config).Run guard start history after ∧
      Turning (Fresh config executorId remembered) executorId 1 more (made + more) after := by
  induction more with
  | zero => exact ⟨history, state, run, turning⟩
  | succ more ih =>
    obtain ⟨history, after, run, turning⟩ := ih (by omega)
    have consumed : Consumes after (fails .rateLimited executorId executorId 1) := trivial
    exact turn_again consumes run consumed
      (ensures_retry turning fun _ fresh => onFailure_remembered fresh within)

/-- **As many retries as there is room for are remembered**: each prompt adds one, and succeeds. -/
theorem exists_resting (valid : validateConfig config = .ok ())
    (automatic : config.automaticFailover = true) (retries : 1 ≤ config.maxRetries)
    (candidate : executorId ∈ config.candidates) (remembered : Nat) (room : remembered ≤ config.limit) :
    ∃ history state, (runtimeMachine config).Run Sequential (initial none) history state ∧
      Resting (Fresh config executorId remembered) executorId 1 state := by
  have sequential (state : RuntimeState) (call : RuntimeCall) (consumed : Consumes state call) :
      Sequential state call := by
    cases call <;> trivial
  induction remembered with
  | zero => exact exists_started valid candidate
  | succ remembered ih =>
    obtain ⟨history, state, run, resting⟩ := ih (by omega)
    -- the prompt takes the remembered retries first, and then one that is new
    have isPrompt : Sequential state (.prompt "task-1" "execution-1") := resting.prompting
    obtain ⟨history, state, run, turning⟩ := exists_retries sequential (run.snoc _ isPrompt)
      (ensures_prompt config resting).reached remembered (Nat.le_refl _)
    have isStep : Consumes state (fails .rateLimited executorId executorId 1) := trivial
    obtain ⟨history, state, run, turning⟩ := turn_again sequential run isStep
      (ensures_retry turning fun _ fresh => onFailure_retried automatic retries room fresh)
    exact ⟨_, _, run.snoc (succeeds executorId) trivial, (ensures_succeeds turning).reached⟩

end Retries

/-! ## When the turns are bounded -/

section Bounds

variable {config} {bound : Nat}

/-- **Executors that exhaust their contexts** make more turns than any bound allows. -/
theorem not_turnsWithin_of_handoffs (valid : validateConfig config = .ok ())
    (automatic : config.automaticFailover = true) (several : 2 ≤ config.candidates.length)
    (small : bound < maxSafeInteger) : ¬ TurnsWithin config bound := by
  intro within
  obtain ⟨executorId, candidate⟩ := List.exists_mem_of_length_pos (Nat.lt_of_succ_lt several)
  obtain ⟨history, state, run, resting⟩ := exists_started valid candidate
  obtain ⟨⟨controller, fresh, working⟩, prompting, made⟩ := (ensures_prompt config resting).reached
  have distinct := fresh.1.serving.invariant.distinct
  obtain ⟨steps, after, consumed, _, _, turning⟩ := exists_turns automatic several candidate distinct
    ⟨⟨controller, fresh.1.serving, working⟩, prompting, made⟩ bound small
  have few := within none history state run resting.prompting "task-1" "execution-1" steps after consumed
  rw [turning.made] at few
  omega

/-- **Retries that are remembered** make more turns than there are of them. -/
theorem not_turnsWithin_of_retries (valid : validateConfig config = .ok ())
    (automatic : config.automaticFailover = true) (retries : 1 ≤ config.maxRetries)
    (room : bound ≤ config.limit) : ¬ TurnsWithin config bound := by
  intro within
  have some_ : config.candidates ≠ [] := by
    simp only [validateConfig, bind_ok, ensure_ok] at valid
    exact valid.choose_spec.1
  obtain ⟨executorId, candidate⟩ := List.exists_mem_of_ne_nil _ some_
  obtain ⟨history, state, run, resting⟩ :=
    exists_resting valid automatic retries candidate bound room
  obtain ⟨steps, after, consumed, turning⟩ := exists_retries (fun _ _ consumed => consumed) .nil
    (ensures_prompt config resting).reached bound (Nat.le_refl _)
  have few := within none history state run resting.prompting "task-1" "execution-1" steps after consumed
  rw [turning.made] at few
  omega

def relentless (candidates maxRetries limit : Nat) : FailoverConfig where
  candidates := (List.range candidates).map fun place => String.ofList (List.replicate (place + 1) 'e')
  automaticFailover := true
  maxRetries := maxRetries
  providerCooldownMs := 1000
  circuitFailureThreshold := 3
  circuitOpenMs := 5000
  switchOnAuthRequired := false
  returnToPrimaryAfterStage := false
  maxProcessedEvents := some limit

theorem validate_relentless {candidates maxRetries limit : Nat} (some_ : 1 ≤ candidates)
    (valid : maxRetries ≤ maxSafeInteger) :
    validateConfig (relentless candidates maxRetries limit) = .ok () := by
  have distinct : (relentless candidates maxRetries limit).candidates.Nodup := by
    refine List.Nodup.map (fun place place' same => ?_) List.nodup_range
    have lengths := congrArg (fun text => text.toList.length) same
    simpa using lengths
  have nonempty : (relentless candidates maxRetries limit).candidates ≠ [] := by
    intro empty
    have none_ := congrArg List.length empty
    simp [relentless] at none_
    omega
  simp only [validateConfig, bind_ok, ensure_ok]
  refine ⟨(), nonempty, (), distinct, (), valid, (), ?_, (), ?_, (), ?_, ?_⟩ <;>
    exact Nat.le_of_ble_eq_true rfl

/-- **The turns of a prompt are bounded** by the numbers of candidates and retries exactly where no turn
ever follows another one. -/
theorem turnsBounded_iff (candidates maxRetries : Nat) (automaticFailover : Bool)
    (some_ : 1 ≤ candidates) (valid : maxRetries ≤ maxSafeInteger) :
    TurnsBounded candidates maxRetries automaticFailover ↔
      automaticFailover = false ∨ candidates = 1 ∧ maxRetries = 0 := by
  constructor
  · rintro ⟨bound, small, bounded⟩
    by_contra unbounded
    obtain ⟨automatic, differs⟩ := not_or.1 unbounded
    have automatic : automaticFailover = true := by simpa using automatic
    subst automatic
    have isValid : validateConfig (relentless candidates maxRetries bound) = .ok () :=
      validate_relentless some_ valid
    have within := bounded (relentless candidates maxRetries bound) isValid (by simp [relentless]) rfl rfl
    by_cases several : 2 ≤ candidates
    · exact not_turnsWithin_of_handoffs isValid rfl (by simpa [relentless] using several) small within
    · -- one candidate is retried
      have retries : 1 ≤ maxRetries := by
        by_contra none_
        exact differs ⟨by omega, by omega⟩
      exact not_turnsWithin_of_retries isValid rfl retries (Nat.le_refl _) within
  · intro single
    refine ⟨1, by decide, fun config _ length retries automatic => turnsWithin_one ?_⟩
    rcases single with off | ⟨one, none_⟩
    · exact .inl (automatic.trans off)
    · exact .inr ⟨length.trans one, retries.trans none_⟩

/-- One executor that is never retried. -/
theorem turnsBounded_iff_sample : TurnsBounded 1 0 true :=
  (turnsBounded_iff 1 0 true (Nat.le_refl 1) (Nat.zero_le _)).2 (.inr ⟨rfl, rfl⟩)

/-- **Two executors that exhaust their contexts** hand over to one another without end. -/
theorem turnsBounded_iff_counterexample :
    ¬ ∀ (candidates maxRetries : Nat) (automaticFailover : Bool),
      TurnsBounded candidates maxRetries automaticFailover := by
  intro all
  obtain ⟨bound, small, bounded⟩ := all 2 1 true
  have valid : validateConfig sampleConfig = .ok () := by decide +kernel
  exact not_turnsWithin_of_handoffs valid rfl (Nat.le_refl 2) small (bounded sampleConfig valid rfl rfl rfl)

end Bounds

end Zero3Pilot.Failover
