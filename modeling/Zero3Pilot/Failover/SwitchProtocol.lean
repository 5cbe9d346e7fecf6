import Zero3Pilot.Failover.Controller
import Zero3Pilot.Foundations.Tables

/-! # The protocol of a switch

A switch is decided, and then committed or aborted. While it is pending no other switch is decided,
except at a stage boundary where the execution returns to its primary executor: `stageBoundary` does
not ask whether a switch is pending. A decision that is remembered is given again for its event, also
when the switch it planned has been committed since. -/

namespace Zero3Pilot.Failover

open Controller (create provider updateProvider)
open Procedure (read ensures_bind ensures_check ensures_ite ensures_map ensures_modify ensures_pure
  ensures_read)

variable (config : FailoverConfig)

/-! ## Statements -/

/-- The identifier under which an operation remembers what it decides. -/
def FailoverOperation.decisionId? : FailoverOperation → Option String
  | .onFailure eventId _ _ | .manualSwitch eventId _ | .stageBoundary eventId _ => some eventId
  | .onRecoveryFailed eventId _ => some (eventId ++ ":recovery-failed")
  | _ => none

def FailoverOperation.chooses? : FailoverOperation → Option Nat
  | .onFailure _ _ nowMs | .stageBoundary _ nowMs => some nowMs
  | _ => none

def Switches (controller : Controller) (operation : FailoverOperation) (action : SwitchAction) :
    Prop :=
  (serve config operation controller).1 = .ok (some (.switch action))

def IsFresh (controller : Controller) (operation : FailoverOperation) : Prop :=
  ∀ eventId ∈ operation.decisionId?, controller.processed.lookup eventId = none

def Decides (controller : Controller) (operation : FailoverOperation) (eventId : String)
    (action : SwitchAction) : Prop :=
  operation.decisionId? = some eventId ∧ controller.processed.lookup eventId = none ∧
    Switches config controller operation action

/-- **A switch that is aimed well**: from the current executor to another candidate, in the next
generation. -/
structure Aimed (controller : Controller) (action : SwitchAction) : Prop where
  source : action.fromExecutorId = controller.currentExecutorId
  candidate : action.toExecutorId ∈ config.candidates
  different : action.toExecutorId ≠ controller.currentExecutorId
  generation : action.targetGeneration = controller.generation + 1

/-- An executor that is neither cooling down nor circuit-open. -/
def IsAvailable (controller : Controller) (executorId : String) (nowMs : Nat) : Prop :=
  ∃ state, controller.providers.lookup executorId = some state ∧ state.isAvailable nowMs = true

def ReturnsToPrimary (controller : Controller) (eventId : String) (nowMs : Nat) : Prop :=
  controller.processed.lookup eventId = none ∧ config.returnToPrimaryAfterStage = true ∧
    controller.currentExecutorId ≠ config.candidates.headD "" ∧
    IsAvailable controller (config.candidates.headD "") nowMs

def Unsettled (eventId : String) (_ : Controller) (operation : FailoverOperation) : Prop :=
  operation ≠ .abortSwitch eventId ∧ ∀ generation, operation ≠ .commitVerifiedSwitch eventId generation

def Undisturbed (eventId : String) (controller : Controller) (operation : FailoverOperation) : Prop :=
  Unsettled eventId controller operation ∧ ∀ boundary nowMs,
    operation = .stageBoundary boundary nowMs → ¬ ReturnsToPrimary config controller boundary nowMs

/-- **The protocol of a switch**, as far as operations leave it undisturbed, for the answers that
count. -/
structure SwitchProtocol (undisturbed : String → Controller → FailoverOperation → Prop)
    (counts : Controller → FailoverOperation → Prop) (controller : Controller) : Prop where
  held : ∀ operation eventId action, Decides config controller operation eventId action →
    ∀ history later, (failoverMachine config).Run (undisturbed eventId)
        (serve config operation controller).2 history later →
      later.pendingSwitch = some ⟨eventId, action⟩ ∧
      (∀ next other replacement, undisturbed eventId later next →
        ¬ Decides config later next other replacement) ∧
      (serve config (.commitVerifiedSwitch eventId action.targetGeneration) later).1 = .ok none
  aimed : ∀ operation action, counts controller operation → Switches config controller operation action →
    Aimed config controller action
  generation : ∀ operation, (serve config operation controller).2.generation =
    match operation, (serve config operation controller).1 with
    | .commitVerifiedSwitch _ _, .ok _ => controller.generation + 1
    | _, _ => controller.generation
  available : ∀ operation nowMs action, counts controller operation → operation.chooses? = some nowMs →
    Switches config controller operation action →
    IsAvailable controller action.toExecutorId nowMs

/-- A decision that is remembered is given again, and nothing changes. -/
def GivesAgain (controller : Controller) : Prop :=
  ∀ operation eventId action, operation.decisionId? = some eventId →
    controller.processed.lookup eventId = some action →
    (serve config operation controller).2 = controller ∧
      ∀ reply, (serve config operation controller).1 = .ok reply → reply = some action

/-! ## The invariant -/

/-- **The invariant of a controller.** -/
structure ControllerInvariant (controller : Controller) : Prop where
  distinct : config.candidates.Nodup
  names : controller.providers.map (·.1) = config.candidates
  current : controller.currentExecutorId ∈ config.candidates
  known : (controller.processed.map (·.1)).Nodup
  within : controller.processed.length ≤ config.limit
  pending : ∀ pending ∈ controller.pendingSwitch, Aimed config controller pending.action

/-- Whatever may change in the providers when something is decided. -/
structure Counted (controller : Controller) (providers : List (String × ProviderState)) : Prop where
  names : providers.map (·.1) = controller.providers.map (·.1)
  others : ∀ id, id ≠ controller.currentExecutorId → providers.lookup id = controller.providers.lookup id

/-- **What an operation that decides may answer**, and the controller it leaves. -/
inductive Outcome (controller : Controller) (operation : FailoverOperation) (eventId : String) :
    FailoverAction → Controller → Prop where
  /-- The decision is remembered. -/
  | again {action : FailoverAction} (cached : controller.processed.lookup eventId = some action) :
      Outcome controller operation eventId action controller
  /-- Something other than a switch is decided. -/
  | noted {action : FailoverAction} {providers : List (String × ProviderState)}
      (fresh : controller.processed.lookup eventId = none)
      (other : ∀ switch, action ≠ .switch switch) (counted : Counted controller providers) :
      Outcome controller operation eventId action
        { controller with
          providers := providers
          processed := rememberIn config controller.processed eventId action }
  /-- A switch is decided, while none is pending or to return to the primary executor. -/
  | planned {action : SwitchAction} {providers : List (String × ProviderState)}
      (fresh : controller.processed.lookup eventId = none) (aimed : Aimed config controller action)
      (available : ∀ nowMs ∈ operation.chooses?, IsAvailable controller action.toExecutorId nowMs)
      (idle : controller.pendingSwitch = none ∨ ∃ nowMs, operation = .stageBoundary eventId nowMs ∧
        ReturnsToPrimary config controller eventId nowMs)
      (counted : Counted controller providers) :
      Outcome controller operation eventId (.switch action)
        { controller with
          providers := providers
          processed := rememberIn config controller.processed eventId (.switch action)
          pendingSwitch := some ⟨eventId, action⟩ }

/-! ## Pieces of the operations -/

section Pieces

variable {config} {controller : Controller} {providers : List (String × ProviderState)}
  {eventId executorId : String} {action : FailoverAction} {nowMs : Nat}
  {processed : List (String × FailoverAction)} {throws : String → Controller → Prop}

theorem updateProvider_names (update : ProviderState → ProviderState) :
    (controller.updateProvider executorId update).providers.map (·.1) =
      controller.providers.map (·.1) := by
  rw [updateProvider, List.map_map]
  apply List.map_congr_left
  intro entry _
  by_cases named : entry.1 = executorId
  · rw [Function.comp_apply, if_pos named]
  · rw [Function.comp_apply, if_neg named]

theorem lookup_updateProvider (update : ProviderState → ProviderState) (id : String) :
    (controller.updateProvider executorId update).providers.lookup id =
      if id = executorId then (controller.providers.lookup id).map update
      else controller.providers.lookup id := by
  unfold updateProvider
  dsimp only
  induction controller.providers with
  | nil => simp
  | cons entry providers ih =>
    obtain ⟨name, state⟩ := entry
    rw [List.map_cons, List.lookup_cons, List.lookup_cons]
    by_cases found : id = name
    · subst found
      by_cases same : id = executorId <;> simp [same]
    · have differs : (id == name) = false := by simpa using found
      by_cases same : name = executorId
      · simp only [if_pos same, differs]
        exact ih
      · simp only [if_neg same, differs]
        exact ih

theorem Counted.update (counted : Counted controller providers)
    (update : ProviderState → ProviderState) :
    Counted controller
      ({ controller with providers := providers }.updateProvider controller.currentExecutorId
        update).providers where
  names := (updateProvider_names update).trans counted.names
  others := by
    intro id other
    rw [lookup_updateProvider, if_neg other]
    exact counted.others id other

theorem counted_refl (controller : Controller) : Counted controller controller.providers :=
  ⟨rfl, fun _ _ => rfl⟩

theorem ensures_remember {returns : FailoverAction → Controller → Prop}
    (fresh : controller.processed.lookup eventId = none)
    (remembered : returns action
      { controller with processed := rememberIn config controller.processed eventId action }) :
    (remember config eventId action).Ensures returns throws controller := by
  rw [remember, ensures_bind, ensures_read, fresh]
  dsimp only
  rw [ensures_bind, ensures_modify, ensures_pure]
  exact remembered

theorem ControllerInvariant.provider (invariant : ControllerInvariant config controller)
    (candidate : executorId ∈ config.candidates) :
    ∃ state, controller.providers.lookup executorId = some state := by
  rw [← invariant.names] at candidate
  obtain ⟨entry, isEntry, named⟩ := List.mem_map.1 candidate
  refine Option.isSome_iff_exists.1 ?_
  rw [List.lookup_isSome_iff]
  exact ⟨entry, isEntry, by simpa using named.symm⟩

/-- What is available is a candidate that is neither cooling down nor circuit-open. -/
theorem available_ok (available : controller.available executorId nowMs = .ok true) :
    IsAvailable controller executorId nowMs := by
  simp only [Controller.available, provider, bind_ok, orError_ok, pure_ok] at available
  exact available

theorem firstAvailable_ok {candidates : List String} {candidate : String}
    (found : firstAvailable controller nowMs candidates = .ok (some candidate)) :
    candidate ∈ candidates ∧ IsAvailable controller candidate nowMs := by
  induction candidates with
  | nil => cases found
  | cons first candidates ih =>
    simp only [firstAvailable, bind_ok] at found
    obtain ⟨available, isAvailable, found⟩ := found
    cases available with
    | true =>
      obtain rfl : first = candidate := by simpa using found
      exact ⟨List.mem_cons_self, available_ok isAvailable⟩
    | false =>
      obtain ⟨member, available⟩ := ih (by simpa using found)
      exact ⟨List.mem_cons_of_mem _ member, available⟩

theorem rotated_ne {start offset length : Nat} (place : start < length)
    (within : offset < length - 1) : (start + (offset + 1)) % length ≠ start := by
  by_cases wraps : start + (offset + 1) < length
  · rw [Nat.mod_eq_of_lt wraps]
    omega
  · rw [Nat.mod_eq_sub_mod (by omega), Nat.mod_eq_of_lt (by omega)]
    omega

theorem mem_fallbacks (distinct : config.candidates.Nodup) {current candidate : String}
    (known : current ∈ config.candidates) (member : candidate ∈ fallbacks config current) :
    candidate ∈ config.candidates ∧ candidate ≠ current := by
  obtain ⟨offset, within, isOne⟩ := List.mem_filterMap.1 member
  rw [List.mem_range] at within
  refine ⟨List.mem_of_getElem? isOne, ?_⟩
  rintro rfl
  -- the place of the candidate in the order is another one
  have index := List.idxOf_lt_length_of_mem known
  obtain ⟨bound, isElement⟩ := List.getElem?_eq_some_iff.1 isOne
  have place := distinct.idxOf_getElem _ bound
  rw [isElement] at place
  exact rotated_ne index within place.symm

end Pieces

/-! ## The operations that decide -/

section Decisions

variable {config} {controller : Controller} {providers : List (String × ProviderState)}
  {eventId executorId : String} {code : ExecutorFailureCode} {nowMs : Nat}

/-- A procedure that decides something, or throws with the decisions as they were. -/
abbrev HasOutcome (config : FailoverConfig) (procedure : ControllerProcedure FailoverAction)
    (controller : Controller) (operation : FailoverOperation) (eventId : String) : Prop :=
  procedure.Ensures (fun action after => Outcome config controller operation eventId action after)
    (fun _ after => ∃ providers, Counted controller providers ∧
      after = { controller with providers := providers })
    controller

theorem refused (controller : Controller) : ∃ providers, Counted controller providers ∧
    controller = { controller with providers := providers } :=
  ⟨controller.providers, counted_refl controller, rfl⟩

theorem hasOutcome_of_fresh {operation : FailoverOperation}
    {decide_ : Controller → ControllerProcedure FailoverAction}
    (decides : controller.processed.lookup eventId = none →
      HasOutcome config (decide_ controller) controller operation eventId) :
    HasOutcome config (do
      let controller ← read
      match controller.processed.lookup eventId with
      | some cached => return cached
      | none => decide_ controller) controller operation eventId := by
  rw [HasOutcome, ensures_bind, ensures_read]
  cases cached : controller.processed.lookup eventId with
  | some action => exact (ensures_pure _).2 (.again cached)
  | none => exact decides cached

theorem plan_outcome {operation : FailoverOperation} {reason : SwitchReason}
    (fresh : controller.processed.lookup eventId = none)
    (candidate : executorId ∈ config.candidates)
    (different : executorId ≠ controller.currentExecutorId)
    (available : ∀ nowMs ∈ operation.chooses?, IsAvailable controller executorId nowMs)
    (idle : controller.pendingSwitch = none ∨ ∃ nowMs, operation = .stageBoundary eventId nowMs ∧
        ReturnsToPrimary config controller eventId nowMs)
    (counted : Counted controller providers) :
    (plan config eventId executorId reason).Ensures
      (fun action => Outcome config controller operation eventId action)
      (fun _ after => ∃ providers, Counted controller providers ∧
        after = { controller with providers := providers })
      { controller with providers := providers } := by
  rw [plan, ensures_bind, ensures_read, ensures_bind,
    ensures_modify]
  refine ensures_remember fresh ?_
  exact .planned fresh ⟨rfl, candidate, different, rfl⟩ available idle counted

theorem onRecoveryFailed_outcome : (onRecoveryFailed config eventId code).Ensures
      (fun action after =>
        Outcome config controller (.onRecoveryFailed eventId code) (eventId ++ ":recovery-failed")
          action after)
      (fun _ after => ∃ providers, Counted controller providers ∧
        after = { controller with providers := providers }) controller := by
  rw [onRecoveryFailed, assertEventId, ensures_bind]
  refine .check (fun _ => hasOutcome_of_fresh fun fresh => ?_) (refused controller)
  exact ensures_remember fresh (.noted fresh (by rintro _ ⟨⟩) (counted_refl controller))

theorem manualSwitch_outcome : HasOutcome config (manualSwitch config eventId executorId) controller
      (.manualSwitch eventId executorId) eventId := by
  rw [HasOutcome, manualSwitch, assertEventId, ensures_bind]
  refine .check (fun _ => hasOutcome_of_fresh fun fresh => ?_) (refused controller)
  rw [HasOutcome, ensures_ite]
  refine ⟨fun _ => ensures_remember fresh (.noted fresh (by rintro _ ⟨⟩) (counted_refl controller)),
    fun idle => ?_⟩
  refine .checked (fun candidate => ?_) (refused controller)
  rw [ensures_ite]
  refine ⟨fun _ => ensures_remember fresh (.noted fresh (by rintro _ ⟨⟩) (counted_refl controller)),
    fun different => ?_⟩
  refine plan_outcome fresh candidate different (by rintro _ ⟨⟩) (Or.inl ?_)
    (counted_refl controller)
  simpa using idle

section

variable (invariant : ControllerInvariant config controller)
include invariant

theorem stageBoundary_outcome : HasOutcome config (stageBoundary config eventId nowMs) controller
      (.stageBoundary eventId nowMs) eventId := by
  rw [HasOutcome, stageBoundary, assertTime, ensures_bind]
  refine .check (fun _ => hasOutcome_of_fresh fun fresh => ?_) (refused controller)
  have stay (reason : String) : HasOutcome config (remember config eventId (.none reason)) controller
      (.stageBoundary eventId nowMs) eventId :=
    ensures_remember fresh (.noted fresh (by rintro _ ⟨⟩) (counted_refl controller))
  rw [HasOutcome, ensures_ite]
  refine ⟨fun _ => stay _, fun leaves => ?_⟩
  rw [ensures_bind]
  refine .ofExcept (fun available isAvailable => ?_) fun _ => refused controller
  rw [ensures_ite]
  refine ⟨fun yes => ?_, fun _ => stay _⟩
  obtain ⟨returns, away⟩ := not_or.1 leaves
  rw [yes] at isAvailable
  have primary : config.candidates.headD "" ∈ config.candidates := by
    have nonempty := List.ne_nil_of_mem invariant.current
    cases candidates : config.candidates with
    | nil => exact absurd candidates nonempty
    | cons first others => exact List.mem_cons_self
  refine plan_outcome fresh primary (Ne.symm away) ?_ (Or.inr ⟨nowMs, rfl, ?_⟩)
    (counted_refl controller)
  · rintro _ ⟨⟩
    exact available_ok isAvailable
  · exact ⟨fresh, by simpa using returns, away, available_ok isAvailable⟩

theorem decideFailure_outcome {failure : ExecutorFailure}
    (fresh : controller.processed.lookup eventId = none) (idle : controller.pendingSwitch = none)
    (counted : Counted controller providers) :
    (decideFailure config eventId code nowMs).Ensures
      (fun action after => Outcome config controller (.onFailure eventId failure nowMs) eventId
          action after)
      (fun _ after => ∃ providers, Counted controller providers ∧
        after = { controller with providers := providers })
      { controller with providers := providers } := by
  have notes {action : FailoverAction} (other : ∀ switch, action ≠ .switch switch)
      (providers : List (String × ProviderState)) (counted : Counted controller providers) :
      (remember config eventId action).Ensures
        (fun action after => Outcome config controller (.onFailure eventId failure nowMs) eventId
          action after)
        (fun _ after => ∃ providers, Counted controller providers ∧
          after = { controller with providers := providers })
        { controller with providers := providers } :=
    ensures_remember fresh (.noted fresh other counted)
  simp only [decideFailure, ensures_bind, ensures_read, ensures_ite]
  refine .ofExcept (fun state _ => ⟨fun _ => ?_, fun _ => ⟨fun _ => ?_, fun _ => ⟨fun _ => ?_,
    fun _ => ⟨fun _ => ?_, fun _ => ⟨fun _ => ?_, fun _ => ⟨fun _ => ?_, fun _ => ?_⟩⟩⟩⟩⟩⟩)
    fun _ => ⟨providers, counted, rfl⟩
  · exact notes (by rintro _ ⟨⟩) _ counted
  · exact notes (by rintro _ ⟨⟩) _ counted
  · exact notes (by rintro _ ⟨⟩) _ counted
  · exact notes (by rintro _ ⟨⟩) _ counted
  · rw [ensures_modify]
    have retried := counted.update fun state => { state with retryCount := state.retryCount + 1 }
    exact notes (by rintro _ ⟨⟩) _ retried
  · rw [ensures_modify, planSwitch, ensures_bind, ensures_read, ensures_bind]
    have cooled := counted.update fun state =>
      { state with cooldownUntilMs := max state.cooldownUntilMs (nowMs + config.providerCooldownMs) }
    refine .ofExcept (fun next isNext => ?_) fun _ => ⟨_, cooled, rfl⟩
    cases next with
    | none => exact notes (by rintro _ ⟨⟩) _ cooled
    | some next =>
      obtain ⟨member, available⟩ := firstAvailable_ok isNext
      obtain ⟨candidate, different⟩ := mem_fallbacks invariant.distinct invariant.current member
      refine plan_outcome fresh candidate different ?_ (Or.inl idle) cooled
      rintro _ ⟨⟩
      -- counting the failure leaves the other executors as they are
      obtain ⟨state, found, isAvailable⟩ := available
      exact ⟨state, (cooled.others next different).symm.trans found, isAvailable⟩
  · exact notes (by rintro _ ⟨⟩) _ counted

theorem onFailure_outcome {failure : ExecutorFailure} :
    HasOutcome config (onFailure config eventId failure nowMs) controller
      (.onFailure eventId failure nowMs) eventId := by
  rw [HasOutcome, onFailure, assertEventId, assertTime, ensures_bind]
  refine .check (fun _ => ?_) (refused controller)
  refine .checked (fun _ => hasOutcome_of_fresh fun fresh => ?_) (refused controller)
  have notes {action : FailoverAction} (other : ∀ switch, action ≠ .switch switch) :
      HasOutcome config (remember config eventId action) controller
        (.onFailure eventId failure nowMs) eventId :=
    ensures_remember fresh (.noted fresh other (counted_refl controller))
  simp only [HasOutcome, ensures_ite]
  refine ⟨fun _ => notes (by rintro _ ⟨⟩), fun idle => ⟨fun _ => notes (by rintro _ ⟨⟩), fun _ =>
    ⟨fun _ => notes (by rintro _ ⟨⟩), fun _ => ?_⟩⟩⟩
  simp only [ensures_bind, ensures_modify]
  refine .ofExcept (fun _ _ => ?_) fun _ => refused controller
  have counted := (counted_refl controller).update fun state => state.failed config nowMs
  exact decideFailure_outcome invariant fresh (by simpa using idle) counted

end

end Decisions

/-! ## The invariant is kept -/

section Invariant

variable {config} {controller after : Controller} {operation : FailoverOperation} {eventId : String}

theorem rememberIn_spec {processed : List (String × FailoverAction)} {action : FailoverAction}
    (fresh : processed.lookup eventId = none) (known : (processed.map (·.1)).Nodup) :
    ((rememberIn config processed eventId action).map (·.1)).Nodup ∧
      (rememberIn config processed eventId action).length ≤ config.limit := by
  have distinct : ((processed ++ [(eventId, action)]).map (·.1)).Nodup := by
    rw [List.map_append, List.nodup_append]
    refine ⟨known, List.nodup_singleton _, fun id member other isNew => ?_⟩
    obtain ⟨entry, isEntry, rfl⟩ := List.mem_map.1 member
    obtain rfl := List.mem_singleton.1 isNew
    rw [List.lookup_eq_none_iff] at fresh
    simpa using Ne.symm (by simpa using fresh entry isEntry)
  constructor
  · rw [rememberIn, List.map_drop]
    exact distinct.sublist (List.drop_sublist _ _)
  · rw [rememberIn, List.length_drop, List.length_append, List.length_singleton]
    omega

theorem Aimed.transfer {action : SwitchAction} (aimed : Aimed config controller action)
    (current : after.currentExecutorId = controller.currentExecutorId)
    (generation : after.generation = controller.generation) : Aimed config after action where
  source := aimed.source.trans current.symm
  candidate := aimed.candidate
  different := current ▸ aimed.different
  generation := by rw [aimed.generation, generation]

theorem ControllerInvariant.decided (invariant : ControllerInvariant config controller)
    (names : after.providers.map (·.1) = controller.providers.map (·.1))
    (current : after.currentExecutorId = controller.currentExecutorId)
    (generation : after.generation = controller.generation)
    (known : (after.processed.map (·.1)).Nodup) (within : after.processed.length ≤ config.limit)
    (pending : ∀ pending ∈ after.pendingSwitch, Aimed config controller pending.action) :
    ControllerInvariant config after where
  distinct := invariant.distinct
  names := names.trans invariant.names
  current := current ▸ invariant.current
  known := known
  within := within
  pending := fun switch isPending => (pending switch isPending).transfer current generation

section

variable {action : FailoverAction}
  (outcome : Outcome config controller operation eventId action after)
include outcome

/-- **An operation that decides** keeps the invariant. -/
theorem Outcome.invariant
    (invariant : ControllerInvariant config controller) : ControllerInvariant config after := by
  cases outcome with
  | again => exact invariant
  | noted fresh other counted =>
    obtain ⟨known, within⟩ := rememberIn_spec fresh invariant.known
    exact invariant.decided counted.names rfl rfl known within invariant.pending
  | planned fresh aimed available idle counted =>
    obtain ⟨known, within⟩ := rememberIn_spec fresh invariant.known
    refine invariant.decided counted.names rfl rfl known within ?_
    rintro _ ⟨⟩
    exact aimed

theorem Outcome.generation : after.generation = controller.generation := by
  cases outcome <;> rfl

end

theorem ensures_recordSuccess {executorId : String} {returns : Unit → Controller → Prop}
    {throws : String → Controller → Prop}
    (recorded : ∀ providers, providers.map (·.1) = controller.providers.map (·.1) →
      returns () { controller with providers := providers })
    (refused : controller.providers.lookup executorId = none → ∀ error, throws error controller) :
    (recordSuccess executorId).Ensures returns throws controller := by
  simp only [recordSuccess, provider, ensures_bind, ensures_read, ensures_modify]
  refine (Procedure.ensures_ofExcept _).2 ⟨fun _ _ => recorded _ ?_, fun error threw => refused ?_ error⟩
  · exact updateProvider_names fun state =>
      { state with retryCount := 0, consecutiveFailures := 0, circuitOpenUntilMs := 0 }
  · cases found : controller.providers.lookup executorId with
    | none => rfl
    | some state =>
      rw [found] at threw
      cases threw

/-- A state that is looked up in the order of the candidates is the list of all states. -/
theorem mapM_provider {providers : List (String × ProviderState)} (distinct : (providers.map (·.1)).Nodup)
    {snapshot : FailoverSnapshot} (saved : ∀ entry ∈ providers,
      snapshot.providerState.lookup entry.1 = some entry.2) :
    (providers.map (·.1)).mapM snapshot.provider = .ok providers := by
  induction providers with
  | nil => rfl
  | cons entry providers ih =>
    have first : snapshot.provider entry.1 = .ok entry := by
      rw [FailoverSnapshot.provider, saved entry List.mem_cons_self]
      rfl
    have others := ih (List.nodup_cons.1 distinct).2 fun other member =>
      saved other (List.mem_cons_of_mem _ member)
    rw [List.map_cons, List.mapM_cons, first, others]
    rfl

theorem foldl_recallIn {earlier processed : List (String × FailoverAction)}
    (known : ((earlier ++ processed).map (·.1)).Nodup)
    (within : (earlier ++ processed).length ≤ config.limit) :
    processed.foldl (recallIn config) earlier = earlier ++ processed := by
  induction processed generalizing earlier with
  | nil => exact (List.append_nil _).symm
  | cons entry processed ih =>
    have fresh : earlier.lookup entry.1 = none := by
      rw [List.lookup_eq_none_iff]
      intro other member
      rw [List.map_append, List.nodup_append] at known
      have differs := known.2.2 other.1 (List.mem_map_of_mem member) entry.1
        (List.mem_map_of_mem List.mem_cons_self)
      simpa using Ne.symm differs
    have all : rememberIn config earlier entry.1 entry.2 = earlier ++ [entry] := by
      rw [List.length_append, List.length_cons] at within
      have none_ : earlier.length + 1 - config.limit = 0 := by omega
      rw [rememberIn, none_]
      rfl
    have recalled : recallIn config earlier entry = earlier ++ [entry] := by
      rw [recallIn, fresh]
      exact all
    rw [List.foldl_cons, recalled]
    have split : earlier ++ [entry] ++ processed = earlier ++ entry :: processed := by simp
    rw [ih (by rw [split]; exact known) (by rw [split]; exact within), split]

/-- **A controller that is restored** from its snapshot is the one the snapshot was taken of. -/
theorem restore_snapshot (invariant : ControllerInvariant config controller) {restored : Controller}
    (ok : restore config controller.snapshot = .ok restored) : restored = controller := by
  simp only [restore, create, bind_ok, ensure_ok, pure_ok] at ok
  obtain ⟨_, _, _, ⟨_, _, _, _, _, _, rfl⟩, providers, saved, rfl⟩ := ok
  have distinct : (controller.providers.map (·.1)).Nodup := invariant.names ▸ invariant.distinct
  have found : (controller.providers.map (·.1)).mapM controller.snapshot.provider =
      .ok controller.providers :=
    mapM_provider distinct fun entry member => lookup_of_mem distinct member
  rw [invariant.names, saved] at found
  obtain rfl := Except.ok.inj found
  dsimp only [Controller.snapshot]
  rw [foldl_recallIn]
  · rfl
  · exact invariant.known
  · exact invariant.within

end Invariant

/-! ## The service -/

section Service

variable {config} {controller after : Controller} {operation : FailoverOperation}
  {eventId : String} {result : Except String FailoverReply}

/-- **What an operation answers**, and the controller it leaves. -/
inductive Served (config : FailoverConfig) (controller : Controller) :
    FailoverOperation → Except String FailoverReply → Controller → Prop where
  | decided {operation : FailoverOperation} {eventId : String} {action : FailoverAction}
      {after : Controller} (decides : operation.decisionId? = some eventId)
      (outcome : Outcome config controller operation eventId action after) :
      Served config controller operation (.ok (some action)) after
  | refused {operation : FailoverOperation} {error : String}
      {providers : List (String × ProviderState)}
      (names : providers.map (·.1) = controller.providers.map (·.1)) :
      Served config controller operation (.error error) { controller with providers := providers }
  | committed {pending : PendingSwitch} {providers : List (String × ProviderState)}
      (isPending : controller.pendingSwitch = some pending)
      (names : providers.map (·.1) = controller.providers.map (·.1)) :
      Served config controller
        (.commitVerifiedSwitch pending.eventId pending.action.targetGeneration) (.ok none)
        { controller with
          providers := providers
          currentExecutorId := pending.action.toExecutorId
          generation := pending.action.targetGeneration
          pendingSwitch := none }
  | aborted {pending : PendingSwitch} (isPending : controller.pendingSwitch = some pending) :
      Served config controller (.abortSwitch pending.eventId) (.ok none)
        { controller with pendingSwitch := none }
  | settled {operation : FailoverOperation} {providers : List (String × ProviderState)}
      (other : ∀ eventId generation, operation ≠ .commitVerifiedSwitch eventId generation)
      (names : providers.map (·.1) = controller.providers.map (·.1)) :
      Served config controller operation (.ok none) { controller with providers := providers }

theorem of_ensures {α : Type} {procedure : ControllerProcedure α}
    {holds : Except String α → Controller → Prop}
    (ensured : procedure.Ensures (fun value => holds (.ok value))
      (fun error => holds (.error error)) controller) :
    holds (procedure controller).1 (procedure controller).2 := by
  cases ran : procedure controller with
  | mk result after =>
    cases result with
    | ok value => exact ensured.returned ran
    | error error => exact ensured.threw ran

theorem HasOutcome.served {procedure : ControllerProcedure FailoverAction}
    (outcome : HasOutcome config procedure controller operation eventId)
    (decides : operation.decisionId? = some eventId) :
    (some <$> procedure : ControllerProcedure FailoverReply).Ensures
      (fun reply => Served config controller operation (.ok reply))
      (fun error => Served config controller operation (.error error)) controller := by
  rw [ensures_map]
  refine Procedure.Ensures.mono outcome (fun action after outcome => ?_) ?_
  · exact .decided decides outcome
  · rintro error _ ⟨providers, counted, rfl⟩
    exact .refused counted.names

theorem commit_served (invariant : ControllerInvariant config controller) (generation : Nat) :
    ((fun _ => none) <$> commitVerifiedSwitch eventId generation : ControllerProcedure
        FailoverReply).Ensures
      (fun reply after =>
        Served config controller (.commitVerifiedSwitch eventId generation) (.ok reply) after)
      (fun error after =>
        Served config controller (.commitVerifiedSwitch eventId generation) (.error error) after)
      controller := by
  have refused (error : String) :
      Served config controller (.commitVerifiedSwitch eventId generation) (.error error) controller :=
    .refused rfl
  simp only [commitVerifiedSwitch, ensures_map, ensures_bind, ensures_read, ensures_modify]
  refine .require (fun pending isPending => ?_) (refused _)
  refine .check (fun named => ?_) (refused _)
  refine .check (fun accepted => ?_) (refused _)
  subst named accepted
  refine ensures_recordSuccess (fun providers names => ?_) fun missing => ?_
  · exact .committed isPending names
  · -- the target is a candidate, and has a state
    obtain ⟨state, found⟩ := invariant.provider (invariant.pending pending isPending).candidate
    have both := missing.symm.trans found
    cases both

/-- **Every operation** answers as described. -/
theorem serve_served (invariant : ControllerInvariant config controller)
    (operation : FailoverOperation) :
    Served config controller operation (serve config operation controller).1
      (serve config operation controller).2 := by
  refine @of_ensures _ _ _ (Served config controller operation) ?_
  cases operation with
  | onFailure eventId failure nowMs =>
    rw [serve]
    exact HasOutcome.served (onFailure_outcome invariant) rfl
  | onRecoveryFailed eventId code =>
    rw [serve]
    exact HasOutcome.served onRecoveryFailed_outcome rfl
  | manualSwitch eventId executorId =>
    rw [serve]
    exact HasOutcome.served manualSwitch_outcome rfl
  | stageBoundary eventId nowMs =>
    rw [serve]
    exact HasOutcome.served (stageBoundary_outcome invariant) rfl
  | commitVerifiedSwitch eventId generation =>
    rw [serve]
    exact commit_served invariant generation
  | abortSwitch eventId =>
    simp only [serve, abortSwitch, ensures_map, ensures_bind, ensures_read, ensures_modify]
    refine .require (fun pending isPending => ?_) (.refused rfl)
    refine .check (fun named => ?_) (.refused rfl)
    subst named
    exact .aborted isPending
  | recordSuccess executorId =>
    rw [serve, ensures_map]
    refine ensures_recordSuccess (fun providers names => ?_) fun _ _ => .refused rfl
    exact .settled (by rintro _ _ ⟨⟩) names
  | reload =>
    simp only [serve, reload, ensures_map, ensures_bind, ensures_read, Procedure.ensures_write]
    refine .ofExcept (fun restored ok => ?_) fun _ => .refused rfl
    rw [restore_snapshot invariant ok]
    exact .settled (by rintro _ _ ⟨⟩) rfl

theorem Served.invariant (served : Served config controller operation result after)
    (invariant : ControllerInvariant config controller) : ControllerInvariant config after := by
  cases served with
  | decided decides outcome => exact outcome.invariant invariant
  | refused names =>
    exact invariant.decided names rfl rfl invariant.known invariant.within invariant.pending
  | committed isPending names =>
    have aimed := invariant.pending _ isPending
    exact ⟨invariant.distinct, names.trans invariant.names, aimed.candidate, invariant.known,
      invariant.within, by rintro _ ⟨⟩⟩
  | aborted isPending =>
    exact invariant.decided rfl rfl rfl invariant.known invariant.within (by rintro _ ⟨⟩)
  | settled other names =>
    exact invariant.decided names rfl rfl invariant.known invariant.within invariant.pending

theorem serve_invariant (invariant : ControllerInvariant config controller)
    (operation : FailoverOperation) :
    ControllerInvariant config (serve config operation controller).2 :=
  (serve_served invariant operation).invariant invariant

theorem create_invariant {current : String} {generation : Nat}
    (created : create config current generation = .ok controller) :
    ControllerInvariant config controller := by
  simp only [create, validateConfig, bind_ok, ensure_ok, pure_ok] at created
  obtain ⟨_, ⟨_, _, _, distinct, _⟩, _, member, _, _, rfl⟩ := created
  refine ⟨distinct, ?_, member, List.nodup_nil, Nat.zero_le _, by rintro _ ⟨⟩⟩
  rw [List.map_map]
  exact List.map_id _

theorem run_invariant {current : String} {generation : Nat} {start : Controller}
    {guard : Controller → FailoverOperation → Prop}
    {history : List (FailoverOperation × Except String FailoverReply)}
    (created : create config current generation = .ok start)
    (run : (failoverMachine config).Run guard start history controller) :
    ControllerInvariant config controller :=
  run.stateInvariant (ControllerInvariant config) (create_invariant created)
    fun _ operation invariant _ => serve_invariant invariant operation

end Service

/-! ## The protocol -/

section Protocol

variable {config} {controller after : Controller} {operation : FailoverOperation}
  {eventId : String} {action : SwitchAction}

theorem Served.planned_of_fresh (fresh : IsFresh controller operation)
    (served : Served config controller operation (.ok (some (.switch action))) after) :
    Aimed config controller action ∧
      (∀ nowMs ∈ operation.chooses?, IsAvailable controller action.toExecutorId nowMs) ∧
      ∃ eventId, operation.decisionId? = some eventId ∧
        after.pendingSwitch = some ⟨eventId, action⟩ ∧
        (controller.pendingSwitch = none ∨ ∃ nowMs, operation = .stageBoundary eventId nowMs ∧
          ReturnsToPrimary config controller eventId nowMs) := by
  cases served with
  | decided decides outcome =>
    cases outcome with
    | again cached =>
      have absent := fresh _ decides
      rw [cached] at absent
      cases absent
    | noted _ other _ => exact absurd rfl (other action)
    | planned _ aimed available idle _ =>
      exact ⟨aimed, available, _, decides, rfl, idle⟩

theorem Decides.fresh (decides : Decides config controller operation eventId action) :
    IsFresh controller operation := by
  obtain ⟨named, absent, _⟩ := decides
  rintro _ isId
  rw [named] at isId
  cases isId
  exact absent

section

variable (invariant : ControllerInvariant config controller)
include invariant

theorem Decides.pending (decides : Decides config controller operation eventId action) :
    (serve config operation controller).2.pendingSwitch = some ⟨eventId, action⟩ := by
  have served := serve_served invariant operation
  rw [decides.2.2] at served
  obtain ⟨_, _, _, named, pending, _⟩ := served.planned_of_fresh decides.fresh
  rw [decides.1] at named
  cases named
  exact pending

theorem not_decides {pending : PendingSwitch} (isPending : controller.pendingSwitch = some pending)
    (undisturbed : Undisturbed config eventId controller operation) (other : String) :
    ¬ Decides config controller operation other action := by
  intro decides
  have served := serve_served invariant operation
  rw [decides.2.2] at served
  obtain ⟨_, _, _, _, _, idle | ⟨nowMs, isBoundary, returns⟩⟩ := served.planned_of_fresh decides.fresh
  · rw [isPending] at idle
    cases idle
  · exact undisturbed.2 _ nowMs isBoundary returns

theorem serve_pending (isPending : controller.pendingSwitch = some ⟨eventId, action⟩)
    (undisturbed : Undisturbed config eventId controller operation) :
    (serve config operation controller).2.pendingSwitch = some ⟨eventId, action⟩ := by
  have served := serve_served invariant operation
  obtain ⟨⟨notAborted, notCommitted⟩, stays⟩ := undisturbed
  generalize (serve config operation controller).2 = after at served ⊢
  generalize (serve config operation controller).1 = result at served
  cases served with
  | decided decides outcome =>
    cases outcome with
    | again => exact isPending
    | noted => exact isPending
    | planned fresh aimed available idle counted =>
      obtain idle | ⟨nowMs, isBoundary, returns⟩ := idle
      · rw [isPending] at idle
        cases idle
      · exact absurd returns (stays _ nowMs isBoundary)
  | refused => exact isPending
  | committed isOther =>
    rw [isPending] at isOther
    cases isOther
    exact absurd rfl (notCommitted _)
  | aborted isOther =>
    rw [isPending] at isOther
    cases isOther
    exact absurd rfl notAborted
  | settled => exact isPending

theorem serve_commit (isPending : controller.pendingSwitch = some ⟨eventId, action⟩) :
    (serve config (.commitVerifiedSwitch eventId action.targetGeneration) controller).1 =
      .ok none := by
  obtain ⟨state, found⟩ := invariant.provider (invariant.pending _ isPending).candidate
  have commits : (serve config (.commitVerifiedSwitch eventId action.targetGeneration)).Ensures
      (fun reply _ => reply = none) (fun _ _ => False) controller := by
    simp only [serve, commitVerifiedSwitch, ensures_map, ensures_bind,
      ensures_read, ensures_modify, isPending]
    refine (Procedure.ensures_require _ _).2 ⟨?_, by rintro ⟨⟩⟩
    rintro _ ⟨⟩
    refine (ensures_check _ _).2 ⟨fun _ => ?_, fun differs => differs rfl⟩
    refine (ensures_check _ _).2 ⟨fun _ => ?_, fun differs => differs rfl⟩
    refine ensures_recordSuccess (fun _ _ => trivial) fun missing _ => ?_
    have both := missing.symm.trans found
    cases both
  have result := @of_ensures _ _ _ (fun result _ => result = .ok none)
    (commits.mono (fun reply _ isNone => congrArg Except.ok isNone) fun _ _ impossible =>
      impossible.elim)
  exact result

theorem serve_generation
    (operation : FailoverOperation) : (serve config operation controller).2.generation =
      match operation, (serve config operation controller).1 with
      | .commitVerifiedSwitch _ _, .ok _ => controller.generation + 1
      | _, _ => controller.generation := by
  have served := serve_served invariant operation
  generalize (serve config operation controller).2 = after at served ⊢
  generalize (serve config operation controller).1 = result at served ⊢
  cases served with
  | decided decides outcome =>
    rw [outcome.generation]
    cases operation <;> first | rfl | cases decides
  | refused names => cases operation <;> rfl
  | committed isPending names => exact (invariant.pending _ isPending).generation
  | aborted => rfl
  | settled other names =>
    cases operation with
    | commitVerifiedSwitch eventId generation => exact absurd rfl (other eventId generation)
    | _ => rfl

end

/-- A procedure that gives a decision again, and changes nothing. -/
abbrev Repeats (procedure : ControllerProcedure FailoverAction) (controller : Controller)
    (action : FailoverAction) : Prop :=
  procedure.Ensures (fun decided after => decided = action ∧ after = controller)
    (fun _ after => after = controller) controller

theorem repeats_of_cached {decided : FailoverAction}
    (cached : controller.processed.lookup eventId = some decided)
    {decide_ : Controller → ControllerProcedure FailoverAction} :
    Repeats (do
      let controller ← read
      match controller.processed.lookup eventId with
      | some cached => return cached
      | none => decide_ controller) controller decided := by
  rw [Repeats, ensures_bind, ensures_read, cached]
  exact (ensures_pure _).2 ⟨rfl, rfl⟩

theorem Repeats.again {procedure : ControllerProcedure FailoverAction} {decided : FailoverAction}
    (repeats : Repeats procedure controller decided)
    (served : serve config operation = some <$> procedure) :
    (serve config operation controller).2 = controller ∧ ∀ reply,
      (serve config operation controller).1 = .ok reply → reply = some decided := by
  rw [served]
  refine @of_ensures _ _ _ (fun result after =>
    after = controller ∧ ∀ reply, result = .ok reply → reply = some decided) ?_
  rw [ensures_map]
  refine repeats.mono ?_ ?_
  · rintro _ _ ⟨rfl, rfl⟩
    refine ⟨rfl, fun reply same => ?_⟩
    exact (Except.ok.inj same).symm
  · rintro _ _ rfl
    exact ⟨rfl, by rintro _ ⟨⟩⟩

section Repeats

variable {decided : FailoverAction} {failure : ExecutorFailure} {code : ExecutorFailureCode}
  {executorId : String} {nowMs : Nat}

theorem onFailure_repeats (cached : controller.processed.lookup eventId = some decided) :
    Repeats (onFailure config eventId failure nowMs) controller decided := by
  rw [Repeats, onFailure, assertEventId, assertTime, ensures_bind]
  refine .check (fun _ => ?_) rfl
  exact .checked (fun _ => repeats_of_cached cached) rfl

theorem onRecoveryFailed_repeats
    (cached : controller.processed.lookup (eventId ++ ":recovery-failed") = some decided) :
    Repeats (onRecoveryFailed config eventId code) controller decided := by
  rw [Repeats, onRecoveryFailed, assertEventId, ensures_bind]
  exact .check (fun _ => repeats_of_cached cached) rfl

theorem manualSwitch_repeats (cached : controller.processed.lookup eventId = some decided) :
    Repeats (manualSwitch config eventId executorId) controller decided := by
  rw [Repeats, manualSwitch, assertEventId, ensures_bind]
  exact .check (fun _ => repeats_of_cached cached) rfl

theorem stageBoundary_repeats (cached : controller.processed.lookup eventId = some decided) :
    Repeats (stageBoundary config eventId nowMs) controller decided := by
  rw [Repeats, stageBoundary, assertTime, ensures_bind]
  exact .check (fun _ => repeats_of_cached cached) rfl

end Repeats

theorem givesAgain (config : FailoverConfig) (controller : Controller) :
    GivesAgain config controller := by
  intro operation eventId decided named cached
  cases operation with
  | onFailure =>
    cases named
    exact (onFailure_repeats cached).again (by rw [serve])
  | onRecoveryFailed =>
    obtain rfl := Option.some.inj named
    exact (onRecoveryFailed_repeats cached).again (by rw [serve])
  | manualSwitch =>
    cases named
    exact (manualSwitch_repeats cached).again (by rw [serve])
  | stageBoundary =>
    cases named
    exact (stageBoundary_repeats cached).again (by rw [serve])
  | _ => cases named

theorem ControllerInvariant.protocol (invariant : ControllerInvariant config controller) :
    SwitchProtocol config (Undisturbed config) IsFresh controller where
  held := by
    intro operation eventId action decides history later run
    -- the invariant, and the switch that is pending, along the run
    have kept : ControllerInvariant config later ∧ later.pendingSwitch = some ⟨eventId, action⟩ := by
      refine run.stateInvariant (fun later => ControllerInvariant config later ∧
        later.pendingSwitch = some ⟨eventId, action⟩) ?_ ?_
      · exact ⟨serve_invariant invariant operation, decides.pending invariant⟩
      · rintro state next ⟨invariant, isPending⟩ undisturbed
        exact ⟨serve_invariant invariant next, serve_pending invariant isPending undisturbed⟩
    obtain ⟨later_, isPending⟩ := kept
    refine ⟨isPending, fun next other replacement undisturbed => ?_, serve_commit later_ isPending⟩
    exact not_decides later_ isPending undisturbed other
  aimed := by
    intro operation action fresh switches
    have served := serve_served invariant operation
    rw [switches] at served
    exact (served.planned_of_fresh fresh).1
  generation := serve_generation invariant
  available := by
    intro operation nowMs action fresh chooses switches
    have served := serve_served invariant operation
    rw [switches] at served
    exact (served.planned_of_fresh fresh).2.1 nowMs chooses

end Protocol

/-! ## A decision that is given again after its commit -/

section Sample

def sampleConfig : FailoverConfig where
  candidates := ["codex", "deepseek"]
  automaticFailover := true
  maxRetries := 1
  providerCooldownMs := 1000
  circuitFailureThreshold := 3
  circuitOpenMs := 5000
  switchOnAuthRequired := false
  returnToPrimaryAfterStage := false
  maxProcessedEvents := none

/-- The controller of an execution that has just been bound. -/
def sampleController : Controller where
  providers := [("codex", emptyProviderState), ("deepseek", emptyProviderState)]
  processed := []
  pendingSwitch := none
  currentExecutorId := "codex"
  generation := 1

theorem sampleController_created : create sampleConfig "codex" 1 = .ok sampleController := by
  simp only [create, validateConfig, bind_ok, ensure_ok, pure_ok]
  exact ⟨(), ⟨(), by decide, (), by decide, (), by decide, (), by decide, (), by decide, (),
    by decide, by decide⟩, (), by decide, (), by decide, rfl⟩

/-- A switch that is decided, committed, and asked for again. -/
def switchedController : Controller :=
  ((failoverMachine sampleConfig).exec sampleController
    [.manualSwitch "event-1" "deepseek", .commitVerifiedSwitch "event-1" 2]).2

end Sample

/-! ## Restoring a snapshot -/

section Restoring

variable {config} {controller : Controller}

/-- **The snapshot of a controller** in any run restores that controller, as long as its generation is a
safe integer. -/
theorem restore_of_run {current : String} {generation : Nat} {start : Controller}
    (created : Controller.create config current generation = .ok start)
    {history : List (FailoverOperation × Except String FailoverReply)}
    (run : (failoverMachine config).Run Machine.anyStep start history controller) :
    restore config controller.snapshot =
      if controller.generation ≤ maxSafeInteger then .ok controller
      else .error "generation must be a positive safe integer" := by
  have invariant := run_invariant created run
  have checked := created
  simp only [Controller.create, bind_ok, ensure_ok, pure_ok] at checked
  obtain ⟨_, valid, _, _, _, ⟨_, positive⟩, rfl⟩ := checked
  have reached : ControllerInvariant config controller ∧ 1 ≤ controller.generation := by
    refine run.stateInvariant (fun state => ControllerInvariant config state ∧ 1 ≤ state.generation)
      ⟨create_invariant created, positive⟩ ?_
    rintro state operation ⟨invariant, positive⟩ -
    refine ⟨serve_invariant invariant operation, ?_⟩
    show 1 ≤ (serve config operation state).2.generation
    rw [serve_generation invariant]
    split
    · exact Nat.le_add_left 1 _
    · exact positive
  have distinct : (controller.providers.map (·.1)).Nodup := invariant.names ▸ invariant.distinct
  have found : config.candidates.mapM controller.snapshot.provider = .ok controller.providers := by
    rw [← invariant.names]
    exact mapM_provider distinct fun entry member => lookup_of_mem distinct member
  have recalled : controller.processed.foldl (recallIn config) [] = controller.processed :=
    foldl_recallIn invariant.known invariant.within
  unfold restore Controller.create
  rw [valid, found]
  by_cases safe : controller.generation ≤ maxSafeInteger
  -- The only check that can fail is the one of the generation.
  · simp [ensure, Bind.bind, Except.bind, Pure.pure, Except.pure, Controller.snapshot, invariant.current,
      reached.2, safe, recalled]
  · simp [ensure, Bind.bind, Except.bind, Controller.snapshot, invariant.current, safe]

/-- A snapshot after a switch. -/
theorem restore_of_run_sample : restore sampleConfig switchedController.snapshot = .ok switchedController := by
  have restored := restore_of_run sampleController_created
    ((failoverMachine sampleConfig).exec_run sampleController
      [.manualSwitch "event-1" "deepseek", .commitVerifiedSwitch "event-1" 2]
      (Machine.met_of_forall (fun _ _ _ => trivial) _))
  rwa [if_pos (by decide)] at restored

end Restoring

end Zero3Pilot.Failover
