import Zero3Pilot.Failover.Runtime
import Zero3Pilot.Failover.SwitchProtocol
import Mathlib.Data.List.Chain

/-! # The decisions of a prompt

A failure of an executor is given an identifier that counts the failures of its prompt, but the
decisions of a binding are remembered by it for as long as the binding lives. So a failure of a later
prompt may be answered by the decision of an earlier one. Where no such decision is remembered, every
failure is decided on its own: retries stay within their budget, and a switch starts from the current
executor. -/

namespace Zero3Pilot.Failover

open Procedure (read ofExcept ensures_andFinally ensures_bind ensures_ite ensures_modify
  ensures_ofExcept ensures_onError ensures_pure ensures_read)

variable (config : FailoverConfig)

/-! ## Statements -/

/-- What has been done for an execution since it was bound. -/
def life (key : String) (effects : List Effect) : List Effect :=
  effects.takeWhile fun effect => effect ≠ .bound key

/-- **The retries of an executor** since its last success, or since its execution was bound. -/
def retriesSince (key executorId : String) : List Effect → Nat
  | [] => 0
  | .bound bound :: effects => if bound = key then 0 else retriesSince key executorId effects
  | .succeeded succeeded executor :: effects =>
    if succeeded = key ∧ executor = executorId then 0 else retriesSince key executorId effects
  | .decided decided _ _ _ _ _ (.retry executor _ _) :: effects =>
    if decided = key ∧ executor = executorId then retriesSince key executorId effects + 1
    else retriesSince key executorId effects
  | _ :: effects => retriesSince key executorId effects

/-- **Every failure gets its own decision**, in all that has been done. -/
structure OwnDecisions (effects : List Effect) : Prop where
  decided : ∀ key eventId ordinal failure nowMs controller action,
    Effect.decided key eventId ordinal failure nowMs controller action ∈ effects →
      controller.processed.lookup eventId = none ∧
        (onFailure config eventId failure nowMs controller).1 = .ok action
  /-- At no moment has an executor been retried too often. -/
  retries : ∀ key executorId earlier, earlier <:+ effects →
    retriesSince key executorId earlier ≤ config.maxRetries
  switched : ∀ key active controller action, Effect.switched key active controller action ∈ effects →
    action.fromExecutorId = controller.currentExecutorId ∧ action.fromExecutorId = active

/-- **An earlier failure of the binding** had the same place in its prompt and the same code, and its
decision is still remembered. -/
def Recurs (state : RuntimeState) (prompting : Prompting) (failure : ExecutorFailure) : Prop :=
  ∃ eventId earlier nowMs controller action,
    Effect.decided prompting.key eventId (prompting.failureOrdinal + 1) earlier nowMs controller action ∈
        life prompting.key state.effects ∧
      earlier.code = failure.code ∧
      ∃ binding, state.bindings prompting.key = some binding ∧
        (binding.controller.processed.lookup eventId).isSome

/-- No failure repeats an earlier one. -/
def Unrepeated (state : RuntimeState) (call : RuntimeCall) : Prop :=
  ∀ prompting sequence failure nowMs awaits, state.prompting = some prompting →
    prompting.continues = false → call = .event (.failure sequence failure) nowMs awaits →
    ¬ Recurs state prompting failure

/-! ## Identifiers -/

section Identifiers

variable {taskId executionId taskId' executionId' : String} {ordinal ordinal' : Nat}
  {code code' : ExecutorFailureCode}

theorem lastPart_inj {separator : Char} {front front' back back' : List Char}
    (plain : separator ∉ back) (plain' : separator ∉ back')
    (same : front ++ separator :: back = front' ++ separator :: back') :
    front = front' ∧ back = back' := by
  rcases List.append_eq_append_iff.1 same with ⟨between, rfl, others⟩ | ⟨between, rfl, others⟩
  · cases between with
    | nil => exact ⟨(List.append_nil _).symm, (List.cons.inj others).2⟩
    | cons first between =>
      refine absurd ?_ plain
      rw [(List.cons.inj others).2]
      exact List.mem_append_right _ List.mem_cons_self
  · cases between with
    | nil => exact ⟨List.append_nil _, (List.cons.inj others).2.symm⟩
    | cons first between =>
      refine absurd ?_ plain'
      rw [(List.cons.inj others).2]
      exact List.mem_append_right _ List.mem_cons_self

theorem colon_not_mem_code (code : ExecutorFailureCode) : ':' ∉ code.text.toList := by
  have plain : code.text.toList.contains ':' = false := by cases code <;> rfl
  simpa using plain

theorem colon_not_mem_number (number : Nat) : ':' ∉ Nat.toDigits 10 number := by
  intro member
  have digit := Nat.isDigit_of_mem_toDigits (by decide) (by decide) member
  cases digit

theorem toList_failureId : (failureId taskId executionId ordinal code).toList =
    ((taskId ++ ":" ++ executionId ++ ":failure").toList ++ ':' :: Nat.toDigits 10 ordinal) ++
      ':' :: code.text.toList := by
  have middle : ":failure:".toList = ":failure".toList ++ [':'] := rfl
  have separator : ":".toList = [':'] := rfl
  simp only [failureId, String.toList_append, middle, separator, Nat.toString_eq_repr,
    Nat.toList_repr, List.append_assoc, List.cons_append, List.nil_append]

theorem code_of_text (same : code.text.toList = code'.text.toList) : code = code' := by
  have texts : code.text = code'.text := String.toList_inj.1 same
  cases code <;> cases code' <;> first | rfl | exact absurd texts (by decide)

/-- **The place and the code of a failure** are read off its identifier. -/
theorem failureId_inj
    (same : failureId taskId executionId ordinal code = failureId taskId' executionId' ordinal' code') :
    ordinal = ordinal' ∧ code = code' := by
  have texts := congrArg String.toList same
  rw [toList_failureId, toList_failureId] at texts
  obtain ⟨front, codes⟩ := lastPart_inj (colon_not_mem_code _) (colon_not_mem_code _) texts
  obtain ⟨-, digits⟩ := lastPart_inj (colon_not_mem_number _) (colon_not_mem_number _) front
  have numbers := congrArg (Nat.ofDigitChars 10 · 0) digits
  simp only [Nat.ofDigitChars_ten_toDigits] at numbers
  exact ⟨numbers, code_of_text codes⟩

theorem failureId_ne_handoffSwitchId (eventId : String) :
    failureId taskId executionId ordinal code ≠ handoffSwitchId eventId := by
  intro same
  have texts := congrArg String.toList same
  have ending : (handoffSwitchId eventId).toList = eventId.toList ++ ':' :: "handoff-switch".toList :=
    String.toList_append
  rw [toList_failureId, ending] at texts
  obtain ⟨-, codes⟩ := lastPart_inj (colon_not_mem_code _) (by simp) texts
  have text : code.text = "handoff-switch" := String.toList_inj.1 codes
  cases code <;> exact absurd text (by decide)

theorem handoffSwitchId_inj {eventId eventId' : String}
    (same : handoffSwitchId eventId = handoffSwitchId eventId') : eventId = eventId' := by
  have texts := congrArg String.toList same
  rw [handoffSwitchId, handoffSwitchId, String.toList_append, String.toList_append] at texts
  exact String.toList_inj.1 (List.append_cancel_right texts)

end Identifiers

/-! ## The budget of retries -/

section Retries

variable {config} {controller : Controller} {executorId eventId : String} {nowMs : Nat}

def retryCountOf (controller : Controller) (executorId : String) : Nat :=
  ((controller.providers.lookup executorId).map (·.retryCount)).getD 0

def FailoverAction.retries (action : FailoverAction) (executorId : String) : Nat :=
  match action with
  | .retry executor _ _ => if executor = executorId then 1 else 0
  | _ => 0

theorem retryCountOf_update {update : ProviderState → ProviderState}
    (same : ∀ state, (update state).retryCount = state.retryCount) (id : String) :
    retryCountOf (controller.updateProvider executorId update) id = retryCountOf controller id := by
  unfold retryCountOf
  rw [lookup_updateProvider]
  by_cases found : id = executorId
  · rw [if_pos found]
    cases controller.providers.lookup id with
    | none => rfl
    | some state => exact same state
  · rw [if_neg found]

theorem retryCountOf_retry {state : ProviderState}
    (found : controller.providers.lookup executorId = some state) (attempt maxAttempts : Nat)
    (id : String) :
    retryCountOf (controller.updateProvider executorId fun state =>
        { state with retryCount := state.retryCount + 1 }) id =
      retryCountOf controller id + (FailoverAction.retry executorId attempt maxAttempts).retries id := by
  unfold retryCountOf FailoverAction.retries
  rw [lookup_updateProvider]
  by_cases same : id = executorId
  · subst same
    rw [if_pos rfl, found]
    simp
  · rw [if_neg same]
    simp [Ne.symm same]

theorem retryCountOf_reset (id : String) :
    retryCountOf (controller.updateProvider executorId fun state =>
        { state with retryCount := 0, consecutiveFailures := 0, circuitOpenUntilMs := 0 }) id =
      if id = executorId then 0 else retryCountOf controller id := by
  unfold retryCountOf
  rw [lookup_updateProvider]
  by_cases same : id = executorId
  · rw [if_pos same, if_pos same]
    cases controller.providers.lookup id <;> rfl
  · rw [if_neg same, if_neg same]

/-- **A decision within the budget**: what is counted is what is retried, and there was room for it. -/
structure Budgeted (config : FailoverConfig) (controller : Controller) (action : FailoverAction)
    (after : Controller) : Prop where
  counted : ∀ id, retryCountOf after id = retryCountOf controller id + action.retries id
  within : ∀ id, action.retries id ≠ 0 → retryCountOf controller id < config.maxRetries

theorem budgeted_of_same {action : FailoverAction} {after : Controller}
    (other : ∀ id, action.retries id = 0)
    (same : ∀ id, retryCountOf after id = retryCountOf controller id) :
    Budgeted config controller action after where
  counted := by
    intro id
    rw [other, Nat.add_zero]
    exact same id
  within := fun id retried => absurd (other id) retried

theorem decideFailure_budgeted {code : ExecutorFailureCode}
    (fresh : controller.processed.lookup eventId = none) :
    (decideFailure config eventId code nowMs).Ensures
      (fun action => Budgeted config controller action)
      (fun _ after => ∀ id, retryCountOf after id = retryCountOf controller id) controller := by
  have notes {action : FailoverAction} {noted : Controller} (other : ∀ id, action.retries id = 0)
      (unknown : noted.processed.lookup eventId = none)
      (same : ∀ id, retryCountOf noted id = retryCountOf controller id) :
      (remember config eventId action).Ensures (fun action => Budgeted config controller action)
        (fun _ after => ∀ id, retryCountOf after id = retryCountOf controller id) noted :=
    ensures_remember unknown (budgeted_of_same other same)
  have unchanged (id : String) : retryCountOf controller id = retryCountOf controller id := rfl
  simp only [decideFailure, ensures_bind, ensures_read, ensures_ite]
  refine .ofExcept (fun state isState => ⟨fun _ => ?_, fun _ => ⟨fun _ => ?_, fun _ => ⟨fun _ => ?_,
    fun _ => ⟨fun _ => ?_, fun _ => ⟨fun room => ?_, fun _ => ⟨fun _ => ?_, fun _ => ?_⟩⟩⟩⟩⟩⟩)
    fun _ => unchanged
  · exact notes (fun _ => rfl) fresh unchanged
  · exact notes (fun _ => rfl) fresh unchanged
  · exact notes (fun _ => rfl) fresh unchanged
  · exact notes (fun _ => rfl) fresh unchanged
  · -- the one action that is a retry
    have found : controller.providers.lookup controller.currentExecutorId = some state :=
      orError_ok.1 isState
    rw [ensures_modify]
    refine ensures_remember fresh ⟨retryCountOf_retry found _ _, fun id retried => ?_⟩
    by_cases same : controller.currentExecutorId = id
    · subst same
      simpa [retryCountOf, found] using room.2
    · simp [FailoverAction.retries, same] at retried
  · rw [ensures_modify, planSwitch, ensures_bind, ensures_read, ensures_bind]
    have cooled (id : String) :
        retryCountOf (controller.updateProvider controller.currentExecutorId fun state =>
            { state with
              cooldownUntilMs := max state.cooldownUntilMs (nowMs + config.providerCooldownMs) }) id =
          retryCountOf controller id := by
      apply retryCountOf_update
      exact fun _ => rfl
    refine .ofExcept (fun next _ => ?_) fun _ => cooled
    cases next with
    | none => exact notes (fun _ => rfl) fresh cooled
    | some next =>
      dsimp only
      rw [plan, ensures_bind, ensures_read, ensures_bind, ensures_modify]
      exact notes (fun _ => rfl) fresh cooled
  · exact notes (fun _ => rfl) fresh unchanged

theorem Budgeted.of_counted {counted after : Controller} {action : FailoverAction}
    (budgeted : Budgeted config counted action after)
    (same : ∀ id, retryCountOf counted id = retryCountOf controller id) :
    Budgeted config controller action after where
  counted := by
    intro id
    rw [budgeted.counted, same]
  within := by
    intro id retried
    rw [← same]
    exact budgeted.within id retried

/-- **A failure that is decided freshly** keeps to the budget. -/
theorem onFailure_budgeted {failure : ExecutorFailure}
    (fresh : controller.processed.lookup eventId = none) :
    (onFailure config eventId failure nowMs).Ensures
      (fun action => Budgeted config controller action)
      (fun _ after => ∀ id, retryCountOf after id = retryCountOf controller id) controller := by
  have unchanged (id : String) : retryCountOf controller id = retryCountOf controller id := rfl
  have notes {action : FailoverAction} (other : ∀ id, action.retries id = 0) :
      (remember config eventId action).Ensures (fun action => Budgeted config controller action)
        (fun _ after => ∀ id, retryCountOf after id = retryCountOf controller id) controller :=
    ensures_remember fresh (budgeted_of_same other fun _ => rfl)
  rw [onFailure, assertEventId, assertTime, ensures_bind]
  refine .check (fun _ => ?_) unchanged
  refine .checked (fun _ => ?_) unchanged
  rw [ensures_bind, ensures_read, fresh]
  simp only [ensures_ite]
  refine ⟨fun _ => notes fun _ => rfl, fun _ => ⟨fun _ => notes fun _ => rfl, fun _ =>
    ⟨fun _ => notes fun _ => rfl, fun _ => ?_⟩⟩⟩
  simp only [ensures_bind, ensures_modify]
  refine .ofExcept (fun _ _ => ?_) fun _ => unchanged
  -- counting the failure leaves the retries as they are
  have failed (id : String) :
      retryCountOf (controller.updateProvider controller.currentExecutorId fun state =>
          state.failed config nowMs) id = retryCountOf controller id := by
    apply retryCountOf_update
    exact fun _ => rfl
  refine Procedure.Ensures.mono (decideFailure_budgeted fresh)
    (fun _ _ budgeted => budgeted.of_counted failed) ?_
  exact fun _ _ same id => (same id).trans (failed id)

end Retries

/-! ## The order of the decisions -/

section Order

variable {config} {processed : List (String × FailoverAction)} {eventId : String}
  {action : FailoverAction}

/-- **The switch of a handoff comes right after its failure** among the decisions; only when they are
full may the failure have been forgotten before it. -/
structure Ordered (config : FailoverConfig) (processed : List (String × FailoverAction)) : Prop where
  follows : processed.IsChain fun before entry =>
    ∀ eventId, entry.1 = handoffSwitchId eventId → before.1 = eventId
  first : ∀ entry ∈ processed.head?, ∀ eventId, entry.1 = handoffSwitchId eventId →
    config.limit ≤ processed.length

/-- A decision is added; where there are too many, the oldest one is forgotten. -/
theorem rememberIn_cases (within : processed.length ≤ config.limit) (eventId : String)
    (action : FailoverAction) :
    processed.length < config.limit ∧
        rememberIn config processed eventId action = processed ++ [(eventId, action)] ∨
      processed.length = config.limit ∧
        rememberIn config processed eventId action = (processed ++ [(eventId, action)]).tail := by
  unfold rememberIn
  rcases Nat.lt_or_eq_of_le within with room | full
  · have kept : processed.length + 1 - config.limit = 0 := by omega
    rw [kept]
    exact .inl ⟨room, rfl⟩
  · have one : processed.length + 1 - config.limit = 1 := by omega
    rw [one, List.drop_one]
    exact .inr ⟨full, rfl⟩

theorem getLast?_rememberIn (within : processed.length ≤ config.limit) :
    ∀ entry ∈ (rememberIn config processed eventId action).getLast?, entry.1 = eventId := by
  intro entry isLast
  rcases rememberIn_cases within eventId action with ⟨-, isAll⟩ | ⟨-, isTail⟩
  · rw [isAll, List.getLast?_concat] at isLast
    cases isLast
    rfl
  · rw [isTail] at isLast
    cases processed with
    | nil => cases isLast
    | cons first others =>
      rw [List.cons_append, List.tail_cons, List.getLast?_concat] at isLast
      cases isLast
      rfl

theorem Ordered.remember (ordered : Ordered config processed)
    (within : processed.length ≤ config.limit)
    (follows : ∀ before ∈ processed.getLast?, ∀ failure, eventId = handoffSwitchId failure →
      before.1 = failure)
    (first : processed = [] → ∀ failure, eventId = handoffSwitchId failure → config.limit = 0) :
    Ordered config (rememberIn config processed eventId action) := by
  have all : (processed ++ [(eventId, action)]).IsChain fun before entry =>
      ∀ eventId, entry.1 = handoffSwitchId eventId → before.1 = eventId := by
    rw [List.isChain_append]
    refine ⟨ordered.follows, List.isChain_singleton _, fun before isLast entry isNew => ?_⟩
    obtain rfl : (eventId, action) = entry := by simpa using isNew
    exact follows before isLast
  rcases rememberIn_cases within eventId action with ⟨room, isAll⟩ | ⟨full, isTail⟩
  · rw [isAll]
    refine ⟨all, fun entry isHead failure isSwitch => ?_⟩
    cases processed with
    | nil =>
      obtain rfl : (eventId, action) = entry := by simpa using isHead
      rw [first rfl failure isSwitch]
      exact Nat.zero_le _
    | cons head others =>
      have within := ordered.first entry isHead failure isSwitch
      exact absurd room (Nat.not_lt.2 within)
  · rw [isTail]
    refine ⟨all.tail, fun _ _ _ _ => ?_⟩
    rw [List.length_tail, List.length_append, full]
    exact Nat.le_refl _

theorem Ordered.remember_failure (ordered : Ordered config processed)
    (within : processed.length ≤ config.limit) (plain : ∀ failure, eventId ≠ handoffSwitchId failure) :
    Ordered config (rememberIn config processed eventId action) :=
  ordered.remember within (fun _ _ failure same => absurd same (plain failure))
    fun _ failure same => absurd same (plain failure)

theorem Ordered.remember_switch {decided : FailoverAction}
    (ordered : Ordered config (rememberIn config processed eventId decided))
    (within : processed.length ≤ config.limit)
    (within' : (rememberIn config processed eventId decided).length ≤ config.limit) :
    Ordered config (rememberIn config (rememberIn config processed eventId decided)
      (handoffSwitchId eventId) action) := by
  refine ordered.remember within' (fun before isLast failure same => ?_) fun none_ _ _ => ?_
  · rw [handoffSwitchId_inj same.symm]
    exact getLast?_rememberIn within before isLast
  · -- nothing is remembered at all
    rcases rememberIn_cases within eventId decided with ⟨-, isAll⟩ | ⟨full, isTail⟩
    · rw [isAll] at none_
      simp at none_
    · rw [isTail] at none_
      have length := congrArg List.length none_
      rw [List.length_tail, List.length_append, full] at length
      exact length

/-- **The switch of a handoff is decided freshly** where its failure is. -/
theorem lookup_handoffSwitch (ordered : Ordered config processed)
    (within : processed.length ≤ config.limit) (known : (processed.map (·.1)).Nodup)
    (plain : eventId ≠ handoffSwitchId eventId) (fresh : processed.lookup eventId = none) :
    (rememberIn config processed eventId action).lookup (handoffSwitchId eventId) = none := by
  rw [List.lookup_eq_none_iff] at fresh ⊢
  intro entry member
  have differs : entry.1 ≠ handoffSwitchId eventId := by
    intro isSwitch
    have earlier : entry ∈ processed := by
      have among : entry ∈ processed ++ [(eventId, action)] := List.mem_of_mem_drop member
      rcases List.mem_append.1 among with earlier | isNew
      · exact earlier
      · obtain rfl := List.mem_singleton.1 isNew
        exact absurd isSwitch plain
    obtain ⟨before, after, rfl⟩ := List.append_of_mem earlier
    rcases List.eq_nil_or_concat before with rfl | ⟨others, last, rfl⟩
    · -- the switch is the oldest decision, and is forgotten
      have full := ordered.first entry rfl eventId isSwitch
      rcases rememberIn_cases within eventId action with ⟨room, -⟩ | ⟨-, isTail⟩
      · exact absurd room (Nat.not_lt.2 full)
      · rw [isTail, List.nil_append, List.cons_append, List.tail_cons] at member
        rcases List.mem_append.1 member with later | isNew
        · rw [List.nil_append, List.map_cons, List.nodup_cons] at known
          exact known.1 (List.mem_map_of_mem later)
        · obtain rfl := List.mem_singleton.1 isNew
          exact plain isSwitch
    · -- its failure is remembered right before it
      have chain := ordered.follows
      rw [List.concat_eq_append, List.append_assoc, List.singleton_append] at chain
      have follows := (List.isChain_append_cons_cons.1 chain).2.1 eventId isSwitch
      have remembered := fresh last (by simp)
      simp [follows] at remembered
  simpa using Ne.symm differs

end Order

/-! ## The invariant -/

section Invariant

variable {config} {key : String} {binding : Binding} {bindings : String → Option Binding}
  {effects : List Effect} {effect : Effect}

/-- **What holds of a binding**, after what has been done. -/
structure BindingKept (config : FailoverConfig) (key : String) (binding : Binding)
    (effects : List Effect) : Prop where
  invariant : ControllerInvariant config binding.controller
  counts : ∀ id, retryCountOf binding.controller id = retriesSince key id effects
  within : ∀ id, retryCountOf binding.controller id ≤ config.maxRetries
  ordered : Ordered config binding.controller.processed
  /-- Every decision is about a failure since the execution was bound. -/
  ids : ∀ entry ∈ binding.controller.processed, ∃ eventId ordinal failure nowMs controller action,
    Effect.decided key eventId ordinal failure nowMs controller action ∈ life key effects ∧
      (entry.1 = eventId ∨ entry.1 = handoffSwitchId eventId)

/-- **The invariant of the runtime**, of its bindings and what has been done. -/
structure Kept (config : FailoverConfig) (bindings : String → Option Binding)
    (effects : List Effect) : Prop where
  own : OwnDecisions config effects
  named : ∀ key eventId ordinal failure nowMs controller action,
    Effect.decided key eventId ordinal failure nowMs controller action ∈ effects →
      ∃ taskId executionId, eventId = failureId taskId executionId ordinal failure.code
  bound : ∀ key binding, bindings key = some binding → BindingKept config key binding effects

theorem life_cons (other : effect ≠ .bound key) : life key (effect :: effects) = effect :: life key effects := by
  rw [life, List.takeWhile_cons_of_pos]
  · rfl
  · simpa using other

theorem retriesSince_decided {decided eventId : String} {ordinal nowMs : Nat}
    {failure : ExecutorFailure} {controller : Controller} {action : FailoverAction} (id : String) :
    retriesSince key id (.decided decided eventId ordinal failure nowMs controller action :: effects) =
      retriesSince key id effects + if decided = key then action.retries id else 0 := by
  cases action with
  | retry executor attempt maxAttempts =>
    show (if decided = key ∧ executor = id then retriesSince key id effects + 1
      else retriesSince key id effects) = _
    unfold FailoverAction.retries
    by_cases same : decided = key
    · by_cases retried : executor = id <;> simp [same, retried]
    · simp [same]
  | _ => simp [retriesSince, FailoverAction.retries]

theorem BindingKept.emit (kept : BindingKept config key binding effects)
    (other : effect ≠ .bound key)
    (same : ∀ id, retriesSince key id (effect :: effects) = retriesSince key id effects) :
    BindingKept config key binding (effect :: effects) where
  invariant := kept.invariant
  counts := fun id => (kept.counts id).trans (same id).symm
  within := kept.within
  ordered := kept.ordered
  ids := by
    intro entry member
    obtain ⟨eventId, ordinal, failure, nowMs, controller, action, decided, named⟩ := kept.ids entry member
    refine ⟨eventId, ordinal, failure, nowMs, controller, action, ?_, named⟩
    rw [life_cons other]
    exact List.mem_cons_of_mem _ decided

theorem OwnDecisions.emit (own : OwnDecisions config effects)
    (decided : ∀ key eventId ordinal failure nowMs controller action,
      effect = .decided key eventId ordinal failure nowMs controller action →
        controller.processed.lookup eventId = none ∧
          (onFailure config eventId failure nowMs controller).1 = .ok action)
    (retries : ∀ key id, retriesSince key id (effect :: effects) ≤ config.maxRetries)
    (switched : ∀ key active controller action, effect = .switched key active controller action →
      action.fromExecutorId = controller.currentExecutorId ∧ action.fromExecutorId = active) : OwnDecisions config (effect :: effects) where
  decided := by
    intro key eventId ordinal failure nowMs controller action member
    rcases List.mem_cons.1 member with isNew | earlier
    · exact decided _ _ _ _ _ _ _ isNew.symm
    · exact own.decided _ _ _ _ _ _ _ earlier
  retries := by
    intro key id earlier isSuffix
    rcases List.suffix_cons_iff.1 isSuffix with rfl | isSuffix
    · exact retries key id
    · exact own.retries key id earlier isSuffix
  switched := by
    intro key active controller action member
    rcases List.mem_cons.1 member with isNew | earlier
    · exact switched _ _ _ _ isNew.symm
    · exact own.switched _ _ _ _ earlier

/-- The invariant where something other is done than binding, deciding and succeeding. -/
theorem Kept.emit (kept : Kept config bindings effects) (notBound : ∀ key, effect ≠ .bound key)
    (notDecided : ∀ key eventId ordinal failure nowMs controller action,
      effect ≠ .decided key eventId ordinal failure nowMs controller action)
    (same : ∀ key id, retriesSince key id (effect :: effects) = retriesSince key id effects)
    (switched : ∀ key active controller action, effect = .switched key active controller action →
      action.fromExecutorId = controller.currentExecutorId ∧ action.fromExecutorId = active) : Kept config bindings (effect :: effects) where
  own := by
    refine kept.own.emit (fun _ _ _ _ _ _ _ isDecided => absurd isDecided (notDecided _ _ _ _ _ _ _))
      (fun key id => ?_) switched
    rw [same]
    exact kept.own.retries key id effects List.suffix_rfl
  named := by
    intro key eventId ordinal failure nowMs controller action member
    rcases List.mem_cons.1 member with isNew | earlier
    · exact absurd isNew.symm (notDecided _ _ _ _ _ _ _)
    · exact kept.named _ _ _ _ _ _ _ earlier
  bound := fun key binding isBound => (kept.bound key binding isBound).emit (notBound key) (same key)

theorem Kept.update (kept : Kept config bindings effects)
    (bound : BindingKept config key binding effects) :
    Kept config (Function.update bindings key (some binding)) effects where
  own := kept.own
  named := kept.named
  bound := by
    intro other found isBound
    rcases update_some isBound with ⟨rfl, ⟨⟩⟩ | ⟨_, isBound⟩
    · exact bound
    · exact kept.bound other found isBound

theorem Kept.remove (kept : Kept config bindings effects) :
    Kept config (Function.update bindings key none) effects where
  own := kept.own
  named := kept.named
  bound := by
    intro other found isBound
    rcases update_some isBound with ⟨rfl, ⟨⟩⟩ | ⟨_, isBound⟩
    exact kept.bound other found isBound

theorem BindingKept.controlled (kept : BindingKept config key binding effects) {after : Binding}
    (invariant : ControllerInvariant config after.controller)
    (counts : ∀ id, retryCountOf after.controller id = retryCountOf binding.controller id)
    (processed : after.controller.processed = binding.controller.processed) :
    BindingKept config key after effects where
  invariant := invariant
  counts := fun id => (counts id).trans (kept.counts id)
  within := by
    intro id
    rw [counts]
    exact kept.within id
  ordered := processed ▸ kept.ordered
  ids := processed ▸ kept.ids

/-- **A success is recorded**: the retries of its executor start anew. -/
theorem Kept.succeed (kept : Kept config bindings effects)
    (bound : BindingKept config key binding effects) {executorId : String} {after : Binding}
    (invariant : ControllerInvariant config after.controller)
    (counts : ∀ id, retryCountOf after.controller id =
      if id = executorId then 0 else retryCountOf binding.controller id)
    (processed : after.controller.processed = binding.controller.processed) :
    Kept config (Function.update bindings key (some after)) (.succeeded key executorId :: effects) := by
  have reset (other id : String) : retriesSince other id (.succeeded key executorId :: effects) =
      if key = other ∧ executorId = id then 0 else retriesSince other id effects := rfl
  refine ⟨kept.own.emit (by rintro _ _ _ _ _ _ _ ⟨⟩) (fun other id => ?_) (by rintro _ _ _ _ ⟨⟩), ?_, ?_⟩
  · rw [reset]
    split
    · exact Nat.zero_le _
    · exact kept.own.retries other id effects List.suffix_rfl
  · intro _ _ _ _ _ _ _ member
    rcases List.mem_cons.1 member with isNew | earlier
    · cases isNew
    · exact kept.named _ _ _ _ _ _ _ earlier
  · intro other found isBound
    rcases update_some isBound with ⟨rfl, ⟨⟩⟩ | ⟨same, isBound⟩
    · refine ⟨invariant, fun id => ?_, fun id => ?_, processed ▸ bound.ordered, ?_⟩
      · rw [reset, counts, bound.counts]
        simp [eq_comm]
      · rw [counts]
        split
        · exact Nat.zero_le _
        · exact bound.within id
      · rw [processed, life_cons (by rintro ⟨⟩)]
        intro entry member
        obtain ⟨eventId, ordinal, failure, nowMs, controller, action, decided, named⟩ :=
          bound.ids entry member
        exact ⟨eventId, ordinal, failure, nowMs, controller, action, List.mem_cons_of_mem _ decided,
          named⟩
    · refine (kept.bound other found isBound).emit (by rintro ⟨⟩) fun id => ?_
      rw [reset, if_neg fun both => same both.1.symm]

end Invariant

/-! ## What the controller does for a prompt -/

section Control

variable {config} {α : Type} {taskId executionId eventId : String} {binding : Binding}
  {controller : Controller} {state : RuntimeState}

structure SameCounts (config : FailoverConfig) (controller after : Controller) : Prop where
  invariant : ControllerInvariant config after
  counts : ∀ id, retryCountOf after id = retryCountOf controller id
  processed : after.processed = controller.processed

/-- A success of an executor is recorded. -/
structure Reset (config : FailoverConfig) (controller : Controller) (executorId : String)
    (after : Controller) : Prop where
  invariant : ControllerInvariant config after
  counts : ∀ id, retryCountOf after id = if id = executorId then 0 else retryCountOf controller id
  processed : after.processed = controller.processed

/-- **What a controller ensures, its binding does.** -/
theorem ensures_control_of {procedure : ControllerProcedure α} {returns : α → RuntimeState → Prop}
    {throws : String → RuntimeState → Prop}
    (isBound : state.bindings (bindingKey taskId executionId) = some binding)
    (ensured : procedure.Ensures (fun value after => returns value
        (state.setBinding (bindingKey taskId executionId) (some { binding with controller := after })))
      (fun error after => throws error
        (state.setBinding (bindingKey taskId executionId) (some { binding with controller := after })))
      binding.controller) :
    (control taskId executionId procedure).Ensures returns throws state := by
  simp only [control, requireBinding, ensures_bind, ensures_read, isBound,
    Procedure.require_some, ensures_pure, ensures_modify]
  rw [ensures_ofExcept]
  constructor
  · intro value isOk
    exact ensured.returned (Prod.ext isOk rfl)
  · intro error isError
    exact ensured.threw (Prod.ext isError rfl)

theorem ensures_control {procedure : ControllerProcedure α} {returns : α → RuntimeState → Prop}
    {throws : String → RuntimeState → Prop}
    (bound : ∀ binding, state.bindings (bindingKey taskId executionId) = some binding →
      procedure.Ensures (fun value after => returns value
          (state.setBinding (bindingKey taskId executionId) (some { binding with controller := after })))
        (fun error after => throws error
          (state.setBinding (bindingKey taskId executionId) (some { binding with controller := after })))
        binding.controller)
    (missing : ∀ error, throws error state) :
    (control taskId executionId procedure).Ensures returns throws state := by
  cases isBound : state.bindings (bindingKey taskId executionId) with
  | some binding => exact ensures_control_of isBound (bound binding isBound)
  | none =>
    simp only [control, requireBinding, ensures_bind, ensures_read, isBound]
    exact .require (by rintro _ ⟨⟩) (missing _)

section

variable (invariant : ControllerInvariant config controller)
include invariant

theorem abortSwitch_sameCounts :
    (abortSwitch eventId).Ensures (fun _ => SameCounts config controller)
      (fun _ => SameCounts config controller) controller := by
  have same : SameCounts config controller controller := ⟨invariant, fun _ => rfl, rfl⟩
  simp only [abortSwitch, ensures_bind, ensures_read, ensures_modify]
  refine .require (fun pending isPending => .check (fun _ => ?_) same) same
  refine ⟨invariant.decided rfl rfl rfl invariant.known invariant.within ?_, fun _ => rfl, rfl⟩
  rintro _ ⟨⟩

theorem recordSuccess_reset {executorId : String} : (recordSuccess executorId).Ensures
      (fun _ after => Reset config controller executorId after ∧
        after.currentExecutorId = controller.currentExecutorId)
      (fun _ after => after = controller ∧ controller.providers.lookup executorId = none)
      controller := by
  simp only [recordSuccess, Controller.provider, ensures_bind, ensures_read,
    ensures_modify, ensures_ofExcept]
  refine ⟨fun _ _ => ⟨⟨?_, retryCountOf_reset, rfl⟩, rfl⟩, fun error isError => ⟨trivial, ?_⟩⟩
  · refine invariant.decided (updateProvider_names _) rfl rfl invariant.known invariant.within ?_
    exact invariant.pending
  · cases found : controller.providers.lookup executorId with
    | none => rfl
    | some provider =>
      rw [found] at isError
      cases isError

theorem commitVerifiedSwitch_reset {generation : Nat} :
    (commitVerifiedSwitch eventId generation).Ensures
      (fun _ after => Reset config controller after.currentExecutorId after)
      (fun _ after => after = controller) controller := by
  simp only [commitVerifiedSwitch, ensures_bind, ensures_read, ensures_modify]
  refine .require (fun pending isPending => ?_) rfl
  refine .check (fun _ => .check (fun accepted => ?_) rfl) rfl
  have aimed := invariant.pending pending isPending
  have committed : ControllerInvariant config { controller with
      currentExecutorId := pending.action.toExecutorId
      generation := generation
      pendingSwitch := none } :=
    ⟨invariant.distinct, invariant.names, aimed.candidate, invariant.known, invariant.within,
      by rintro _ ⟨⟩⟩
  refine (recordSuccess_reset committed).mono ?_ ?_
  · rintro _ after ⟨reset, current⟩
    rw [current]
    exact ⟨reset.invariant, reset.counts, reset.processed⟩
  · rintro error after ⟨-, missing⟩
    obtain ⟨provider, found⟩ := invariant.provider aimed.candidate
    have both := missing.symm.trans found
    cases both

end

end Control

/-! ## What the runtime does -/

section Runtime

variable {config} {α β : Type} {taskId executionId eventId executorId : String} {binding : Binding}
  {state : RuntimeState} {identity : ExecutorTaskIdentity}
  {P : (String → Option Binding) → List Effect → Option Prompting → Prop}

abbrev Holds (P : (String → Option Binding) → List Effect → Option Prompting → Prop)
    (procedure : RuntimeProcedure α) (state : RuntimeState) : Prop :=
  procedure.Ensures (fun _ after => P after.bindings after.effects after.prompting)
    (fun _ after => P after.bindings after.effects after.prompting) state

abbrev Keeping (config : FailoverConfig) (bindings : String → Option Binding) (effects : List Effect)
    (_ : Option Prompting) : Prop := Kept config bindings effects

theorem Holds.bind {procedure : RuntimeProcedure α} {next : α → RuntimeProcedure β}
    (first : Holds P procedure state)
    (second : ∀ value after, P after.bindings after.effects after.prompting → Holds P (next value) after) :
    Holds P (procedure >>= next) state := by
  rw [Holds, ensures_bind]
  exact first.mono second fun _ _ kept => kept

theorem holds_ofExcept (result : Except String α) (kept : P state.bindings state.effects state.prompting) :
    Holds P (ofExcept result) state :=
  .ofExcept (fun _ _ => kept) fun _ => kept

theorem bindSession_holds {generation : Nat} (answer : Except String ExecutorSession)
    (kept : P state.bindings state.effects state.prompting) :
    Holds P (bindSession executorId identity generation answer) state := by
  simp only [Holds, bindSession, ensures_bind, ensures_read, ensures_modify, ensures_pure]
  refine .check (fun _ => ?_) kept
  exact .ofExcept (fun _ _ => .ofExcept (fun _ _ => kept) fun _ => kept) fun _ => kept

theorem managerStart_holds (starts : Except String ExecutorSession)
    (kept : P state.bindings state.effects state.prompting) :
    Holds P (managerStart executorId identity starts) state :=
  (holds_ofExcept _ kept).bind fun _ _ kept => bindSession_holds _ kept

theorem managerStartFromHandoff_holds {checkpoint : ExecutorHandoffCheckpointRef}
    (starts : Except String ExecutorSession) (kept : P state.bindings state.effects state.prompting) :
    Holds P (managerStartFromHandoff executorId identity checkpoint starts) state :=
  (holds_ofExcept _ kept).bind fun _ _ kept => (holds_ofExcept _ kept).bind fun _ _ kept =>
    (holds_ofExcept _ kept).bind fun _ _ kept => bindSession_holds _ kept

theorem managerResume_holds {ref : ExecutorSession} {checkpoint : ExecutorHandoffCheckpointRef}
    (resumes : Except String ExecutorSession) (kept : P state.bindings state.effects state.prompting) :
    Holds P (managerResume executorId identity ref checkpoint resumes) state := by
  unfold managerResume
  refine (holds_ofExcept _ kept).bind fun _ _ kept => (holds_ofExcept _ kept).bind fun _ _ kept =>
    (holds_ofExcept _ kept).bind fun _ _ kept => ?_
  rw [Holds, ensures_bind]
  refine .check (fun _ => ?_) kept
  exact .checked (fun _ => bindSession_holds _ kept) kept

theorem managerClose_holds {key : String} (closes : Except String Unit)
    (kept : P state.bindings state.effects state.prompting) : Holds P (managerClose key closes) state := by
  simp only [Holds, managerClose, requireSession, ensures_bind, ensures_read,
    ensures_andFinally, ensures_modify]
  refine .require (fun _ _ => ?_) kept
  exact .ofExcept (fun _ _ => kept) fun _ => kept

theorem requireMatch_holds (expected : WorkspaceWriterLease) (kept : P state.bindings state.effects state.prompting) :
    Holds P (requireMatch expected) state := by
  simp only [Holds, requireMatch, ensures_bind, ensures_read]
  exact .require (fun _ _ => .check (fun _ => (ensures_pure _).2 kept) kept) kept

theorem beginHandoff_holds (expected : WorkspaceWriterLease) (writes : Except String Unit)
    (kept : P state.bindings state.effects state.prompting) : Holds P (beginHandoff expected writes) state := by
  refine (requireMatch_holds expected kept).bind fun _ _ kept =>
    (holds_ofExcept _ kept).bind fun _ _ kept => ?_
  rw [Holds, ensures_bind, ensures_modify]
  exact (ensures_pure _).2 kept

theorem release_holds (expected : WorkspaceWriterLease) (unlinks : Except String Unit)
    (kept : P state.bindings state.effects state.prompting) : Holds P (release expected unlinks) state :=
  (requireMatch_holds expected kept).bind fun _ _ kept => (holds_ofExcept _ kept).bind fun _ _ kept =>
    (ensures_modify _).2 kept

theorem bindLease_holds {session : ExecutorSession} (answers : StartAnswers)
    (kept : P state.bindings state.effects state.prompting) :
    Holds P (bindLease executorId identity session answers) state := by
  refine (holds_ofExcept _ kept).bind fun _ state kept => ?_
  simp only [Holds, ensures_bind, ensures_read]
  cases state.lease with
  | some lease =>
    dsimp only
    exact .checked (fun _ => (ensures_pure _).2 kept) kept
  | none =>
    simp only [acquire, ensures_bind, ensures_modify, ensures_pure]
    exact .check (fun _ => .ofExcept (fun _ _ => kept) fun _ => kept) kept

theorem bindStarted_holds {answers : StartAnswers} {starts : RuntimeProcedure ExecutorSession}
    (binds : ∀ {bindings effects prompting generation lease controller}, P bindings effects prompting →
      Controller.create config executorId generation = .ok controller →
      P (Function.update bindings identity.key (some ⟨identity, controller, lease⟩))
        (.bound identity.key :: effects) prompting)
    (started : Holds P starts state) :
    Holds P (bindStarted config executorId identity answers starts) state := by
  refine started.bind fun session state kept => ?_
  rw [Holds, ensures_onError]
  refine Procedure.Ensures.mono (?_ : Holds P _ _) (fun _ _ kept => kept) fun _ _ kept =>
    managerClose_holds _ kept
  rw [Holds, Failover.bind, ensures_ite]
  refine ⟨fun _ => (ensures_pure _).2 kept, fun _ => ?_⟩
  refine (bindLease_holds _ kept).bind fun lease state kept => ?_
  rw [Holds, ensures_bind]
  refine .ofExcept (fun controller created => ?_) fun _ => kept
  rw [ensures_modify]
  exact binds kept created

section

variable (forgets : ∀ {bindings effects prompting}, P bindings effects prompting →
    P (Function.update bindings (bindingKey taskId executionId) none) effects prompting)
include forgets

theorem forgetBinding_holds {isBound : Bool} {answers : CloseAnswers}
    (kept : P state.bindings state.effects state.prompting) :
    Holds P (forgetBinding taskId executionId isBound answers) state := by
  refine Holds.bind ?_ fun _ _ kept => (ensures_modify _).2 (forgets kept)
  cases isBound with
  | false => exact (ensures_pure _).2 kept
  | true =>
    refine (holds_ofExcept _ kept).bind fun _ state kept => ?_
    simp only [Holds, ensures_bind, ensures_read]
    cases state.lease with
    | none => exact (ensures_pure _).2 kept
    | some current =>
      dsimp only
      rw [ensures_ite]
      exact ⟨fun _ => release_holds _ _ kept, fun _ => (ensures_pure _).2 kept⟩

theorem close_holds {answers : CloseAnswers}
    (kept : P state.bindings state.effects state.prompting) :
    Holds P (close taskId executionId answers) state := by
  simp only [Holds, close, ensures_bind, ensures_read, ensures_andFinally]
  exact Procedure.Ensures.mono (managerClose_holds (P := P) _ kept)
    (fun _ _ (kept : P _ _ _) => forgetBinding_holds forgets kept)
    fun _ _ (kept : P _ _ _) => forgetBinding_holds forgets kept

end

theorem consume_holds {step : Prompting → RuntimeProcedure Unit}
    (ends : ∀ {bindings effects prompting}, P bindings effects prompting → P bindings effects none)
    (kept : P state.bindings state.effects state.prompting)
    (steps : ∀ prompting, state.prompting = some prompting → Holds P (step prompting) state) :
    Holds P (consume step) state := by
  simp only [Holds, consume, ensures_bind, ensures_read]
  cases isPrompting : state.prompting with
  | none => exact (ensures_pure _).2 (isPrompting ▸ kept)
  | some prompting =>
    dsimp only
    rw [ensures_onError]
    exact (steps prompting isPrompting).mono (fun _ _ kept => kept) fun _ _ kept =>
      (ensures_modify _).2 (ends kept)

end Runtime

/-! ## What the runtime does keeps the invariant -/

section Runtime

variable {config} {taskId executionId eventId executorId : String} {binding : Binding}
  {state : RuntimeState} {identity : ExecutorTaskIdentity} {prompting : Prompting} {nowMs : Nat}

theorem abortAndFail_kept {α : Type} (error : String)
    (kept : Kept config state.bindings state.effects) :
    Holds (Keeping config) (abortAndFail taskId executionId eventId error : RuntimeProcedure α) state := by
  refine Holds.bind ?_ fun _ after kept => (Procedure.ensures_fail _).2 kept
  refine ensures_control (fun binding isBound => ?_) fun _ => kept
  have bound := kept.bound _ binding isBound
  have aborted (after : Controller) (same : SameCounts config binding.controller after) :
      Kept config (state.setBinding (bindingKey taskId executionId)
        (some { binding with controller := after })).bindings state.effects :=
    kept.update (bound.controlled same.invariant same.counts same.processed)
  exact (abortSwitch_sameCounts bound.invariant).mono (fun _ after same => aborted after same)
    fun _ after same => aborted after same

theorem handoffEvidence_kept {generation : Nat} (awaits : HandoffAwaits)
    (kept : Kept config state.bindings state.effects) :
    Holds (Keeping config) (handoffEvidence taskId executionId eventId binding generation awaits) state := by
  refine (holds_ofExcept _ kept).bind fun _ _ kept => (holds_ofExcept _ kept).bind fun _ _ kept =>
    (holds_ofExcept _ kept).bind fun _ _ kept => (holds_ofExcept _ kept).bind fun _ _ kept => ?_
  rw [Holds, ensures_ite]
  exact ⟨fun _ => abortAndFail_kept _ kept, fun _ => (ensures_pure _).2 kept⟩

section

variable (kept : Kept config state.bindings state.effects)
include kept

theorem acceptHandoff_kept {expected : WorkspaceWriterLease} {verification : HandoffVerification}
    {nonce : String} {writes : Except String Unit} :
    Holds (Keeping config) (acceptHandoff expected executorId verification nonce writes) state := by
  refine (requireMatch_holds expected kept).bind fun current state kept => ?_
  simp only [Holds, ensures_bind, ensures_modify, ensures_pure]
  refine .check (fun _ => .check (fun _ => .check (fun _ => .check (fun _ => .check (fun _ => ?_)
    kept) kept) kept) kept) kept
  refine .ofExcept (fun _ _ => ?_) fun _ => kept
  exact kept.emit (by rintro _ ⟨⟩) (by rintro _ _ _ _ _ _ _ ⟨⟩) (fun _ _ => rfl) (by rintro _ _ _ _ ⟨⟩)

theorem commit_kept {generation : Nat} : Holds (Keeping config) (do
      control taskId executionId (commitVerifiedSwitch eventId generation)
      recordCommit (bindingKey taskId executionId)) state := by
  rw [Holds, ensures_bind]
  refine ensures_control (fun binding isBound => ?_) fun _ => kept
  have bound := kept.bound _ binding isBound
  refine (commitVerifiedSwitch_reset bound.invariant).mono ?_ ?_
  · intro _ after reset
    rw [recordCommit, ensures_modify]
    have found : (state.setBinding (bindingKey taskId executionId)
        (some { binding with controller := after })).bindings (bindingKey taskId executionId) =
          some { binding with controller := after } := Function.update_self ..
    rw [found]
    exact kept.succeed bound reset.invariant reset.counts reset.processed
  · rintro _ _ rfl
    exact kept.update bound

theorem replaceSession_kept {action : SwitchAction} {pending : WorkspaceWriterLease}
    {generation : Nat} {verification : HandoffVerification} {fingerprint : String}
    {awaits : HandoffAwaits} :
    Holds (Keeping config) (replaceSession taskId executionId eventId binding action pending generation
      verification fingerprint awaits) state := by
  refine (managerClose_holds _ kept).bind fun _ _ kept =>
    (managerStartFromHandoff_holds _ kept).bind fun next _ kept => ?_
  rw [Holds, ensures_ite]
  refine ⟨fun _ => abortAndFail_kept _ kept, fun _ => ?_⟩
  refine (acceptHandoff_kept kept).bind fun lease state kept => ?_
  refine Holds.bind ?_ fun _ _ kept => commit_kept kept
  rw [Holds, ensures_modify]
  cases found : state.bindings (bindingKey taskId executionId) with
  | none => exact kept.remove
  | some binding =>
    have bound := kept.bound _ binding found
    exact kept.update (bound.controlled bound.invariant (fun _ => rfl) rfl)

theorem verifiedSwitch_kept {action : SwitchAction} {awaits : HandoffAwaits}
    (current : ∀ binding, state.bindings (bindingKey taskId executionId) = some binding →
      action.fromExecutorId = binding.controller.currentExecutorId) :
    Holds (Keeping config) (verifiedSwitch taskId executionId eventId action awaits) state := by
  simp only [Holds, verifiedSwitch, requireBinding, ensures_bind, ensures_read, ensures_modify]
  refine .require (fun binding isBound => .require (fun active isActive => .check (fun same => ?_)
    kept) kept) kept
  have switched : Kept config state.bindings
      (.switched (bindingKey taskId executionId) active.executorId binding.controller action ::
        state.effects) := by
    refine kept.emit (by rintro _ ⟨⟩) (by rintro _ _ _ _ _ _ _ ⟨⟩) (fun _ _ => rfl) ?_
    rintro _ _ _ _ ⟨⟩
    exact ⟨current binding isBound, same.1.symm⟩
  refine Procedure.Ensures.mono (beginHandoff_holds (P := Keeping config) _ _ switched) ?_
    fun _ _ kept => kept
  intro pending state kept
  refine (handoffEvidence_kept awaits kept).mono ?_ fun _ _ kept => kept
  exact fun verified state kept => replaceSession_kept kept

end

end Runtime

/-! ## A failure is decided -/

section Deciding

variable {config} {taskId executionId eventId executorId : String} {binding : Binding}
  {state : RuntimeState} {prompting : Prompting} {nowMs ordinal : Nat} {failure : ExecutorFailure}
  {controller after : Controller} {operation : FailoverOperation} {action : FailoverAction}
  {key : String} {bindings : String → Option Binding} {effects : List Effect}

theorem Outcome.processed_of_fresh (outcome : Outcome config controller operation eventId action after)
    (fresh : controller.processed.lookup eventId = none) :
    after.processed = rememberIn config controller.processed eventId action := by
  cases outcome with
  | again cached =>
    rw [fresh] at cached
    cases cached
  | noted => rfl
  | planned => rfl

theorem Outcome.source {switch : SwitchAction}
    (outcome : Outcome config controller operation eventId (.switch switch) after)
    (fresh : controller.processed.lookup eventId = none) :
    switch.fromExecutorId = after.currentExecutorId := by
  cases outcome with
  | again cached =>
    rw [fresh] at cached
    cases cached
  | noted _ other _ => exact absurd rfl (other switch)
  | planned _ aimed => exact aimed.source

theorem FailoverAction.retries_le_one (action : FailoverAction) (id : String) :
    action.retries id ≤ 1 := by
  cases action with
  | retry executor _ _ =>
    unfold FailoverAction.retries
    by_cases same : executor = id <;> simp [same]
  | _ => exact Nat.zero_le _

/-- **A failure that is decided freshly keeps the invariant.** -/
theorem Kept.decide (kept : Kept config bindings effects)
    (bound : BindingKept config key binding effects)
    (isId : eventId = failureId taskId executionId ordinal failure.code)
    (fresh : binding.controller.processed.lookup eventId = none)
    (outcome : Outcome config binding.controller operation eventId action after)
    (budgeted : Budgeted config binding.controller action after)
    (decided : (onFailure config eventId failure nowMs binding.controller).1 = .ok action) :
    Kept config (Function.update bindings key (some { binding with controller := after }))
      (.decided key eventId ordinal failure nowMs binding.controller action :: effects) := by
  have remembered := outcome.processed_of_fresh fresh
  have within (id : String) : retryCountOf after id ≤ config.maxRetries := by
    rw [budgeted.counted]
    have one := action.retries_le_one id
    rcases Nat.eq_zero_or_pos (action.retries id) with none_ | some_
    · rw [none_]
      exact bound.within id
    · have room := budgeted.within id (Nat.ne_of_gt some_)
      omega
  have counts (id : String) : retryCountOf after id = retriesSince key id
      (.decided key eventId ordinal failure nowMs binding.controller action :: effects) := by
    rw [retriesSince_decided, if_pos rfl, budgeted.counted, bound.counts]
  refine ⟨kept.own.emit ?_ (fun other id => ?_) (by rintro _ _ _ _ ⟨⟩), ?_, ?_⟩
  · rintro _ _ _ _ _ _ _ ⟨⟩
    exact ⟨fresh, decided⟩
  · by_cases same : key = other
    · subst same
      rw [← counts]
      exact within id
    · rw [retriesSince_decided, if_neg same]
      exact kept.own.retries other id effects List.suffix_rfl
  · intro _ _ _ _ _ _ _ member
    rcases List.mem_cons.1 member with isNew | earlier
    · cases isNew
      exact ⟨taskId, executionId, isId⟩
    · exact kept.named _ _ _ _ _ _ _ earlier
  · intro other found isBound
    rcases update_some isBound with ⟨rfl, ⟨⟩⟩ | ⟨same, isBound⟩
    · refine ⟨outcome.invariant bound.invariant, counts, within, ?_, ?_⟩
      · rw [remembered]
        refine bound.ordered.remember_failure bound.invariant.within fun failure_ => ?_
        rw [isId]
        exact failureId_ne_handoffSwitchId failure_
      · rw [remembered, life_cons (by rintro ⟨⟩)]
        intro entry member
        rcases List.mem_append.1 (List.mem_of_mem_drop member) with earlier | isNew
        · obtain ⟨_, _, _, _, _, _, known, isEntry⟩ := bound.ids entry earlier
          exact ⟨_, _, _, _, _, _, List.mem_cons_of_mem _ known, isEntry⟩
        · obtain rfl := List.mem_singleton.1 isNew
          exact ⟨_, _, _, _, _, _, List.mem_cons_self, .inl rfl⟩
    · refine (kept.bound other found isBound).emit (by rintro ⟨⟩) fun id => ?_
      rw [retriesSince_decided, if_neg (Ne.symm same), Nat.add_zero]

theorem manualSwitch_counts : (manualSwitch config eventId executorId).Ensures
      (fun _ after => ∀ id, retryCountOf after id = retryCountOf controller id)
      (fun _ after => ∀ id, retryCountOf after id = retryCountOf controller id) controller := by
  have same (id : String) : retryCountOf controller id = retryCountOf controller id := rfl
  rw [manualSwitch, assertEventId, ensures_bind]
  refine .check (fun _ => ?_) same
  rw [ensures_bind, ensures_read]
  cases cached : controller.processed.lookup eventId with
  | some decided => exact (ensures_pure _).2 same
  | none =>
    simp only [ensures_ite, ensures_bind]
    refine ⟨fun _ => ensures_remember cached same, fun _ => .check (fun _ => ?_) same⟩
    refine ⟨fun _ => ensures_remember cached same, fun _ => ?_⟩
    rw [plan, ensures_bind, ensures_read, ensures_bind, ensures_modify]
    exact ensures_remember cached same

/-- **The switch of a handoff** that is planned right after its failure keeps the invariant. -/
theorem Kept.plan (kept : Kept config bindings effects)
    (bound : BindingKept config key binding effects)
    (decided : ∃ ordinal failure nowMs controller action,
      Effect.decided key eventId ordinal failure nowMs controller action ∈ life key effects)
    {processed : List (String × FailoverAction)} {noted : FailoverAction}
    (within : processed.length ≤ config.limit)
    (remembered : binding.controller.processed = rememberIn config processed eventId noted)
    (fresh : binding.controller.processed.lookup (handoffSwitchId eventId) = none)
    (outcome : Outcome config binding.controller operation (handoffSwitchId eventId) action after)
    (counts : ∀ id, retryCountOf after id = retryCountOf binding.controller id) :
    Kept config (Function.update bindings key (some { binding with controller := after })) effects := by
  have added := outcome.processed_of_fresh fresh
  refine kept.update ⟨outcome.invariant bound.invariant, fun id => (counts id).trans (bound.counts id),
    fun id => ?_, ?_, ?_⟩
  · show retryCountOf after id ≤ config.maxRetries
    rw [counts]
    exact bound.within id
  · show Ordered config after.processed
    have ordered := bound.ordered
    have full := bound.invariant.within
    rw [remembered] at ordered full
    rw [added, remembered]
    exact ordered.remember_switch within full
  · show ∀ entry ∈ after.processed, _
    rw [added]
    intro entry member
    rcases List.mem_append.1 (List.mem_of_mem_drop member) with earlier | isNew
    · exact bound.ids entry earlier
    · obtain rfl := List.mem_singleton.1 isNew
      obtain ⟨ordinal, failure, nowMs, controller, action, known⟩ := decided
      exact ⟨eventId, ordinal, failure, nowMs, controller, action, known, .inr rfl⟩

end Deciding

/-! ## Prompts and calls -/

section Calls

variable {config} {taskId executionId eventId executorId : String} {state : RuntimeState}
  {identity : ExecutorTaskIdentity} {prompting : Prompting} {nowMs : Nat}

/-- What a decision leaves behind for carrying it out. -/
structure Decided (config : FailoverConfig) (taskId executionId eventId : String)
    (action : FailoverAction) (state : RuntimeState) : Prop where
  kept : Kept config state.bindings state.effects
  plain : ∀ failure, eventId ≠ handoffSwitchId failure
  known : ∃ ordinal failure nowMs controller action,
    Effect.decided (bindingKey taskId executionId) eventId ordinal failure nowMs controller action ∈
      life (bindingKey taskId executionId) state.effects
  current : ∀ binding, state.bindings (bindingKey taskId executionId) = some binding →
    ∀ switch, action = .switch switch → switch.fromExecutorId = binding.controller.currentExecutorId
  remembered : ∀ binding, state.bindings (bindingKey taskId executionId) = some binding →
    ∃ processed : List (String × FailoverAction), processed.length ≤ config.limit ∧
      binding.controller.processed = rememberIn config processed eventId action ∧
      binding.controller.processed.lookup (handoffSwitchId eventId) = none

theorem continueTurn_kept (kept : Kept config state.bindings state.effects) :
    Holds (Keeping config) continueTurn state := (ensures_modify _).2 kept

theorem carryOut_kept {action : FailoverAction} {awaits : HandoffAwaits}
    (decided : Decided config taskId executionId eventId action state) :
    Holds (Keeping config) (carryOut config taskId executionId eventId action awaits) state := by
  cases action with
  | retry => exact continueTurn_kept decided.kept
  | switch switch =>
    refine Holds.bind ?_ fun _ _ kept => continueTurn_kept kept
    exact verifiedSwitch_kept decided.kept fun binding isBound =>
      decided.current binding isBound switch rfl
  | handoff fromExecutorId targetGeneration reason =>
    rw [Holds, carryOut, ensures_ite]
    refine ⟨fun _ => ?_, fun _ => (ensures_pure _).2 decided.kept⟩
    cases nextCandidate config fromExecutorId with
    | none => exact (ensures_pure _).2 decided.kept
    | some target =>
      dsimp only
      rw [ensures_bind]
      refine ensures_control (fun binding isBound => ?_) fun _ => decided.kept
      have bound := decided.kept.bound _ binding isBound
      obtain ⟨processed, within, remembered, fresh⟩ := decided.remembered binding isBound
      refine Procedure.Ensures.mono (manualSwitch_outcome.and manualSwitch_counts) ?_ ?_
      · -- the switch is planned, and carried out
        rintro planned after ⟨outcome, counts⟩
        have kept := decided.kept.plan bound decided.known within remembered fresh outcome counts
        cases planned with
        | switch switch =>
          refine Holds.bind ?_ fun _ _ kept => continueTurn_kept kept
          refine verifiedSwitch_kept kept fun found isFound => ?_
          have isNew : (Function.update state.bindings (bindingKey taskId executionId)
              (some { binding with controller := after })) (bindingKey taskId executionId) =
                some found := isFound
          rw [Function.update_self] at isNew
          cases isNew
          exact outcome.source fresh
        | _ => exact (ensures_pure _).2 kept
      · rintro _ _ ⟨⟨providers, counted, rfl⟩, counts⟩
        refine decided.kept.update (bound.controlled ?_ counts rfl)
        exact bound.invariant.decided counted.names rfl rfl bound.invariant.known
          bound.invariant.within bound.invariant.pending
  | _ => exact (ensures_pure _).2 decided.kept

theorem fresh_of_not_recurs {failure : ExecutorFailure} {binding : Binding}
    (kept : Kept config state.bindings state.effects)
    (isBound : state.bindings prompting.key = some binding)
    (unrepeated : ¬ Recurs state prompting failure) :
    binding.controller.processed.lookup (failureId prompting.taskId prompting.executionId
      (prompting.failureOrdinal + 1) failure.code) = none := by
  rw [List.lookup_eq_none_iff]
  intro entry member
  have bound := kept.bound _ binding isBound
  have differs : entry.1 ≠ failureId prompting.taskId prompting.executionId
      (prompting.failureOrdinal + 1) failure.code := by
    intro same
    obtain ⟨eventId, ordinal, earlier, nowMs, controller, action, known, named⟩ := bound.ids entry member
    rcases named with named | named
    · -- the earlier failure has the same place and code
      have among := List.takeWhile_sublist _ |>.mem known
      obtain ⟨taskId, executionId, isId⟩ := kept.named _ _ _ _ _ _ _ among
      obtain ⟨rfl, sameCode⟩ := failureId_inj (isId.symm.trans (named.symm.trans same))
      refine unrepeated ⟨eventId, earlier, nowMs, controller, action, known, sameCode, binding,
        isBound, ?_⟩
      rw [List.lookup_isSome_iff]
      exact ⟨entry, member, by simpa using named.symm⟩
    · exact failureId_ne_handoffSwitchId eventId (same.symm.trans named)
  simpa using Ne.symm differs

theorem onFailureEvent_kept {failure : ExecutorFailure} {awaits : HandoffAwaits}
    (kept : Kept config state.bindings state.effects)
    (unrepeated : ¬ Recurs state prompting failure) :
    Holds (Keeping config) (onFailureEvent config prompting failure nowMs awaits) state := by
  simp only [Holds, onFailureEvent, requireBinding, ensures_bind, ensures_read, ensures_modify]
  refine .require (fun binding isBound => ?_) kept
  have fresh := fresh_of_not_recurs kept isBound unrepeated
  have bound := kept.bound _ binding isBound
  generalize isId : failureId prompting.taskId prompting.executionId (prompting.failureOrdinal + 1)
    failure.code = eventId at fresh ⊢
  have plain (failure_ : String) : eventId ≠ handoffSwitchId failure_ := by
    rw [← isId]
    exact failureId_ne_handoffSwitchId failure_
  refine ensures_control (fun found isFound => ?_) fun _ => kept
  obtain rfl : binding = found := Option.some.inj (isBound.symm.trans isFound)
  refine Procedure.Ensures.mono (((onFailure_outcome bound.invariant).and (onFailure_budgeted fresh)).and
    (Procedure.ensures_self _ _)) ?_ ?_
  · rintro action after ⟨⟨outcome, budgeted⟩, ran⟩
    have decided : (onFailure config eventId failure nowMs binding.controller).1 = .ok action :=
      congrArg Prod.fst ran
    have next := kept.decide bound isId.symm fresh outcome budgeted decided
    have isNew {found : Binding}
        (isFound : Function.update state.bindings (bindingKey prompting.taskId prompting.executionId)
          (some { binding with controller := after })
          (bindingKey prompting.taskId prompting.executionId) = some found) :
        found = { binding with controller := after } := by
      rw [Function.update_self] at isFound
      exact (Option.some.inj isFound).symm
    refine carryOut_kept ⟨next, plain, ?_, fun found isFound switch isSwitch => ?_,
      fun found isFound => ?_⟩
    · refine ⟨prompting.failureOrdinal + 1, failure, nowMs, binding.controller, action, ?_⟩
      show Effect.decided prompting.key _ _ _ _ _ _ ∈
        life prompting.key (.decided prompting.key _ _ _ _ _ _ :: state.effects)
      rw [life_cons (by rintro ⟨⟩)]
      exact List.mem_cons_self
    · rw [isNew isFound]
      subst isSwitch
      exact outcome.source fresh
    · rw [isNew isFound]
      have remembered := outcome.processed_of_fresh fresh
      refine ⟨binding.controller.processed, bound.invariant.within, remembered, ?_⟩
      show after.processed.lookup _ = none
      rw [remembered]
      exact lookup_handoffSwitch bound.ordered bound.invariant.within bound.invariant.known
        (plain eventId) fresh
  · rintro _ _ ⟨⟨⟨providers, counted, rfl⟩, counts⟩, -⟩
    refine kept.update (bound.controlled ?_ counts rfl)
    exact bound.invariant.decided counted.names rfl rfl bound.invariant.known bound.invariant.within
      bound.invariant.pending

theorem endPrompt_kept (kept : Kept config state.bindings state.effects) :
    Holds (Keeping config) endPrompt state := (ensures_modify _).2 kept

theorem onSuccess_kept (kept : Kept config state.bindings state.effects) :
    Holds (Keeping config) (onSuccess prompting) state := by
  simp only [Holds, onSuccess, requireBinding, ensures_bind, ensures_read]
  refine .require (fun binding isBound => ?_) kept
  refine ensures_control (fun found isFound => ?_) fun _ => kept
  obtain rfl : binding = found := Option.some.inj (isBound.symm.trans isFound)
  have bound := kept.bound _ binding isBound
  refine (recordSuccess_reset bound.invariant).mono ?_ ?_
  · rintro _ after ⟨reset, -⟩
    rw [ensures_modify]
    exact kept.succeed bound reset.invariant reset.counts reset.processed
  · rintro _ _ ⟨rfl, -⟩
    exact kept.update bound

theorem onEvent_kept {event : ExecutorEvent} {awaits : HandoffAwaits}
    (kept : Kept config state.bindings state.effects)
    (unrepeated : ∀ sequence failure, event = .failure sequence failure →
      ¬ Recurs state prompting failure) :
    Holds (Keeping config) (onEvent config prompting event nowMs awaits) state := by
  simp only [Holds, onEvent, requireSession, ensures_bind, ensures_read, ensures_modify]
  refine .require (fun session _ => .ofExcept (fun accepted _ => ?_) fun _ => kept) kept
  cases event with
  | failure sequence failure => exact onFailureEvent_kept kept (unrepeated _ _ rfl)
  | completed sequence outcome =>
    dsimp only
    rw [ensures_bind]
    refine Procedure.Ensures.mono ?_ (fun _ _ kept => endPrompt_kept kept) fun _ _ kept => kept
    rw [onCompleted, ensures_ite]
    exact ⟨fun _ => onSuccess_kept kept, fun _ => (ensures_pure _).2 kept⟩
  | _ => exact (ensures_pure _).2 kept

theorem forward_kept (kept : Kept config state.bindings state.effects) :
    Holds (Keeping config) (forward prompting) state := by
  simp only [Holds, forward, requireSession, ensures_bind, ensures_read, ensures_modify]
  refine .require (fun session _ => ?_) kept
  exact kept.emit (by rintro _ ⟨⟩) (by rintro _ _ _ _ _ _ _ ⟨⟩) (fun _ _ => rfl) (by rintro _ _ _ _ ⟨⟩)

theorem retryCountOf_create {generation : Nat} {controller : Controller}
    (created : Controller.create config executorId generation = .ok controller) (id : String) :
    retryCountOf controller id = 0 ∧ controller.processed = [] := by
  simp only [Controller.create, bind_ok, pure_ok] at created
  obtain ⟨_, _, _, _, _, _, rfl⟩ := created
  refine ⟨?_, rfl⟩
  unfold retryCountOf
  dsimp only
  induction config.candidates with
  | nil => rfl
  | cons candidate candidates ih =>
    rw [List.map_cons, List.lookup_cons]
    cases id == candidate
    · exact ih
    · rfl

theorem Kept.create {bindings : String → Option Binding} {effects : List Effect} {generation : Nat}
    {lease : WorkspaceWriterLease} {controller : Controller} (kept : Kept config bindings effects)
    (created : Controller.create config executorId generation = .ok controller) :
    Kept config (Function.update bindings identity.key (some ⟨identity, controller, lease⟩))
      (.bound identity.key :: effects) := by
  have reset (other id : String) : retriesSince other id (.bound identity.key :: effects) =
      if identity.key = other then 0 else retriesSince other id effects := rfl
  refine ⟨kept.own.emit (by rintro _ _ _ _ _ _ _ ⟨⟩) (fun other id => ?_) (by rintro _ _ _ _ ⟨⟩), ?_, ?_⟩
  · rw [reset]
    split
    · exact Nat.zero_le _
    · exact kept.own.retries other id effects List.suffix_rfl
  · intro _ _ _ _ _ _ _ member
    rcases List.mem_cons.1 member with isNew | earlier
    · cases isNew
    · exact kept.named _ _ _ _ _ _ _ earlier
  · intro other found isBound
    rcases update_some isBound with ⟨rfl, ⟨⟩⟩ | ⟨same, isBound⟩
    · have none_ := (retryCountOf_create created "").2
      refine ⟨create_invariant created, fun id => ?_, fun id => ?_, ?_, ?_⟩
      · show _ = retriesSince identity.key id (.bound identity.key :: effects)
        rw [reset, if_pos rfl]
        exact (retryCountOf_create created id).1
      · rw [(retryCountOf_create created id).1]
        exact Nat.zero_le _
      · rw [none_]
        exact ⟨List.isChain_nil, by rintro _ ⟨⟩⟩
      · rw [none_]
        rintro _ ⟨⟩
    · refine (kept.bound other found isBound).emit ?_ fun id => ?_
      · rintro ⟨⟩
        exact same rfl
      · rw [reset, if_neg (Ne.symm same)]

/-- **Every call** that repeats no failure keeps the invariant. -/
theorem serveCall_kept {call : RuntimeCall} (kept : Kept config state.bindings state.effects)
    (unrepeated : Unrepeated state call) : Holds (Keeping config) (serveCall config call) state := by
  cases call with
  | start executorId identity answers => exact bindStarted_holds Kept.create (managerStart_holds _ kept)
  | startFromHandoff executorId identity checkpoint answers =>
    exact bindStarted_holds Kept.create (managerStartFromHandoff_holds _ kept)
  | resume executorId identity ref checkpoint answers =>
    exact bindStarted_holds Kept.create (managerResume_holds _ kept)
  | close taskId executionId answers => exact close_holds Kept.remove kept
  | prompt taskId executionId =>
    simp only [Holds, serveCall, requireBinding, ensures_bind, ensures_read]
    exact .require (fun _ _ => forward_kept kept) kept
  | event event nowMs awaits =>
    refine consume_holds (fun kept => kept) kept fun prompting isPrompting => ?_
    rw [Holds, ensures_ite]
    refine ⟨fun _ => (ensures_pure _).2 kept, fun reads => onEvent_kept kept ?_⟩
    intro sequence failure isFailure
    subst isFailure
    exact unrepeated prompting sequence failure nowMs awaits isPrompting (by simpa using reads) rfl
  | again =>
    refine consume_holds (fun kept => kept) kept fun prompting _ => ?_
    rw [Holds, ensures_ite]
    exact ⟨fun _ => forward_kept kept, fun _ => (ensures_pure _).2 kept⟩
  | leave => exact endPrompt_kept kept

end Calls

/-- **Every failure gets its own decision** in the runs in which none repeats an earlier one. -/
theorem ownDecisions_of_run {lease : Option WorkspaceWriterLease}
    {history : List (RuntimeCall × Except String Unit)} {state : RuntimeState}
    (run : (runtimeMachine config).Run Unrepeated (RuntimeState.initial lease) history state) :
    OwnDecisions config state.effects := by
  have kept : Kept config state.bindings state.effects := by
    refine run.procedure_invariant (fun state => Kept config state.bindings state.effects) ?_ ?_
    · refine ⟨⟨by rintro _ _ _ _ _ _ _ ⟨⟩, ?_, by rintro _ _ _ _ ⟨⟩⟩, by rintro _ _ _ _ _ _ _ ⟨⟩,
        by rintro _ _ ⟨⟩⟩
      intro key id earlier isSuffix
      rw [List.suffix_nil.1 isSuffix]
      exact Nat.zero_le _
    · exact fun _ _ kept unrepeated => serveCall_kept kept unrepeated
  exact kept.own

/-! ## A failure that is answered by the decision of another one -/

section Sample

def sampleIdentity : ExecutorTaskIdentity :=
  ⟨"task-1", "execution-1", "C:\\work\\repository", "finish the feature", none⟩

def sampleStart (executorId : String) : StartAnswers :=
  ⟨.ok ⟨executorId, executorId ++ "-1", 1⟩, .ok (), .ok (), "nonce-1", .ok ()⟩

def sampleAwaits (executorId : String) (generation : Nat) : HandoffAwaits where
  begins := .ok ()
  captures := .ok ()
  builds := .ok ("0123456789abcdef0123456789abcdef0123456789abcdef0123456789abcdef", "fingerprint")
  saves := .ok ()
  recaptures := .ok ()
  reasons := []
  closes := .ok ()
  starts := .ok ⟨executorId, "session", generation⟩
  accepts := .ok ()
  nonce := "nonce"

def sampleFailure : RuntimeCall :=
  .event (.failure 1 ⟨.rateLimited, "codex"⟩) 1000 (sampleAwaits "deepseek" 2)

def samplePrompt : List RuntimeCall :=
  [.start "codex" sampleIdentity (sampleStart "codex"), .prompt "task-1" "execution-1", sampleFailure]

/-- The failure is retried, the retry ends without a success, and the next prompt fails as well. -/
def sampleRepeated : List RuntimeCall :=
  samplePrompt ++ [.again, .leave, .prompt "task-1" "execution-1", sampleFailure]

/-- A run with a failure. -/
theorem ownDecisions_of_run_sample : OwnDecisions sampleConfig
      ((runtimeMachine sampleConfig).exec (RuntimeState.initial none) samplePrompt).2.effects := by
  refine ownDecisions_of_run sampleConfig
    ((runtimeMachine sampleConfig).exec_run (RuntimeState.initial none) samplePrompt ⟨?_, ?_, ?_, trivial⟩)
  · rintro _ _ _ _ _ ⟨⟩
  · rintro _ _ _ _ _ ⟨⟩
  · -- no failure has been decided yet
    rintro _ _ _ _ _ ⟨⟩ - - ⟨_, _, _, _, _, known, -⟩
    have among := List.takeWhile_sublist _ |>.mem known
    rcases List.mem_cons.1 among with isNew | among
    · cases isNew
    rcases List.mem_cons.1 among with isNew | among
    · cases isNew
    · cases among

/-- **The failure of the second prompt is answered by the retry of the first one**, which is a retry too
many. -/
theorem ownDecisions_of_run_counterexample :
    ¬ ∀ (config : FailoverConfig) (lease : Option WorkspaceWriterLease)
      (history : List (RuntimeCall × Except String Unit)) (state : RuntimeState),
      (runtimeMachine config).Run Machine.anyStep (RuntimeState.initial lease) history state →
      OwnDecisions config state.effects := by
  intro all
  have own := all sampleConfig none _ _ ((runtimeMachine sampleConfig).exec_run (RuntimeState.initial none)
    sampleRepeated (Machine.met_of_forall (fun _ _ _ => trivial) _))
  have retries := own.retries (bindingKey "task-1" "execution-1") "codex" _ List.suffix_rfl
  have twice : retriesSince (bindingKey "task-1" "execution-1") "codex"
      ((runtimeMachine sampleConfig).exec (RuntimeState.initial none) sampleRepeated).2.effects = 2 := by
    decide +kernel
  rw [twice] at retries
  exact absurd retries (by decide)

end Sample

end Zero3Pilot.Failover
