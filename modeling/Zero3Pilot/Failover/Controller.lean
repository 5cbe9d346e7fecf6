import Zero3Pilot.Foundations.Procedure
import Zero3Pilot.Foundations.ScriptValue

/-! # The failover controller

The controller decides what becomes of an execution whose executor fails: `Zero3FailoverController` in
`executor-runtime/router/failover-controller.ts`. It retries, asks for a recovery or a handoff, or
plans a switch to another executor, which takes effect when the handoff has been verified. Decisions
are remembered by the identifier of their event, as many as configured, and given again.

Numbers of a configuration, instants and generations are natural numbers; the controller refuses all
others where it checks them. The map of decisions and the list of their order are one list here, since
both have the same identifiers in the same order. -/

namespace Zero3Pilot.Failover

open Procedure (check require read modify ofExcept)

/-! ## Failures -/

inductive ExecutorFailureCode where
  | quotaExhausted | rateLimited | authRequired | providerOverloaded | providerError
  | contextExhausted | budgetExhausted | userStopped | permissionDenied | policyDenied | badRequest
  | unsupported | transportLost | processCrash | contextLost | internalError
  deriving DecidableEq

def ExecutorFailureCode.text : ExecutorFailureCode → String
  | .quotaExhausted => "quota_exhausted"
  | .rateLimited => "rate_limited"
  | .authRequired => "auth_required"
  | .providerOverloaded => "provider_overloaded"
  | .providerError => "provider_error"
  | .contextExhausted => "context_exhausted"
  | .budgetExhausted => "budget_exhausted"
  | .userStopped => "user_stopped"
  | .permissionDenied => "permission_denied"
  | .policyDenied => "policy_denied"
  | .badRequest => "bad_request"
  | .unsupported => "unsupported"
  | .transportLost => "transport_lost"
  | .processCrash => "process_crash"
  | .contextLost => "context_lost"
  | .internalError => "internal_error"

def forbiddenFailoverFailures : List ExecutorFailureCode :=
  [.budgetExhausted, .userStopped, .permissionDenied, .policyDenied, .badRequest]

def retryThenSwitch : List ExecutorFailureCode := [.rateLimited, .providerOverloaded, .providerError]

def recoverFirst : List ExecutorFailureCode := [.transportLost, .processCrash]

def handoffRequired : List ExecutorFailureCode := [.contextLost, .contextExhausted]

/-- `ExecutorFailure`, apart from its message. -/
structure ExecutorFailure where
  code : ExecutorFailureCode
  source : String
  deriving DecidableEq

/-! ## Decisions -/

inductive SwitchReason where
  | failure (code : ExecutorFailureCode)
  | manual
  | returnToPrimary
  deriving DecidableEq

/-- A planned switch: `Extract<FailoverAction, { type: 'switch' }>`. -/
structure SwitchAction where
  (fromExecutorId toExecutorId : String)
  targetGeneration : Nat
  reason : SwitchReason
  deriving DecidableEq

inductive FailoverAction where
  | none (reason : String)
  | retry (executorId : String) (attempt maxAttempts : Nat)
  | recover (executorId : String) (reason : ExecutorFailureCode)
  | handoff (fromExecutorId : String) (targetGeneration : Nat) (reason : ExecutorFailureCode)
  | requestAuth (executorId : String)
  | switch (action : SwitchAction)
  deriving DecidableEq

structure FailoverConfig where
  candidates : List String
  automaticFailover : Bool
  (maxRetries providerCooldownMs circuitFailureThreshold circuitOpenMs : Nat)
  (switchOnAuthRequired returnToPrimaryAfterStage : Bool)
  maxProcessedEvents : Option Nat

/-- The number of decisions that are remembered. -/
def FailoverConfig.limit (config : FailoverConfig) : Nat := config.maxProcessedEvents.getD 1024

def maxSafeInteger : Nat := 9007199254740991

def validateConfig (config : FailoverConfig) : Except String Unit := do
  ensure (config.candidates ≠ []) "failover candidates must not be empty"
  ensure config.candidates.Nodup "failover candidates must be unique"
  ensure (config.maxRetries ≤ maxSafeInteger) "maxRetries must be a non-negative safe integer"
  ensure (config.providerCooldownMs ≤ maxSafeInteger)
    "providerCooldownMs must be a non-negative safe integer"
  ensure (config.circuitFailureThreshold ≤ maxSafeInteger)
    "circuitFailureThreshold must be a non-negative safe integer"
  ensure (config.circuitOpenMs ≤ maxSafeInteger) "circuitOpenMs must be a non-negative safe integer"
  ensure (1 ≤ config.circuitFailureThreshold) "circuitFailureThreshold must be positive"

/-! ## The state -/

structure ProviderState where
  (retryCount consecutiveFailures cooldownUntilMs circuitOpenUntilMs : Nat)
  deriving DecidableEq

def emptyProviderState : ProviderState := ⟨0, 0, 0, 0⟩

structure PendingSwitch where
  eventId : String
  action : SwitchAction
  deriving DecidableEq

/-- The fields of `Zero3FailoverController`, apart from its configuration. -/
structure Controller where
  providers : List (String × ProviderState)
  processed : List (String × FailoverAction)
  pendingSwitch : Option PendingSwitch
  currentExecutorId : String
  generation : Nat
  deriving DecidableEq

def Controller.create (config : FailoverConfig) (currentExecutorId : String) (generation : Nat) :
    Except String Controller := do
  validateConfig config
  ensure (currentExecutorId ∈ config.candidates) "current executor must be in candidate order"
  ensure (generation ≤ maxSafeInteger ∧ 1 ≤ generation) "generation must be a positive safe integer"
  return {
    providers := config.candidates.map fun id => (id, emptyProviderState)
    processed := []
    pendingSwitch := none
    currentExecutorId, generation }

abbrev ControllerProcedure (α : Type) := Procedure Controller String α

def assertEventId (eventId : String) : ControllerProcedure Unit :=
  check (scriptTrim eventId ≠ "") "failure event id must be non-empty"

def assertTime (nowMs : Nat) : ControllerProcedure Unit :=
  check (nowMs ≤ maxSafeInteger) "nowMs must be a non-negative safe integer"

def Controller.provider (controller : Controller) (executorId : String) :
    Except String ProviderState :=
  orError (controller.providers.lookup executorId)
    ("executor not configured for failover: " ++ executorId)

/-- The providers with one of them changed. -/
def Controller.updateProvider (controller : Controller) (executorId : String)
    (update : ProviderState → ProviderState) : Controller :=
  { controller with
    providers := controller.providers.map fun entry =>
      if entry.1 = executorId then (entry.1, update entry.2) else entry }

def ProviderState.isAvailable (state : ProviderState) (nowMs : Nat) : Bool :=
  state.cooldownUntilMs ≤ nowMs && state.circuitOpenUntilMs ≤ nowMs

def Controller.available (controller : Controller) (executorId : String) (nowMs : Nat) :
    Except String Bool := do
  let state ← controller.provider executorId
  return state.isAvailable nowMs

/-! ## Pieces of the operations -/

variable (config : FailoverConfig)

/-- The decisions with one more, the oldest ones forgotten. -/
def rememberIn (processed : List (String × FailoverAction)) (eventId : String)
    (action : FailoverAction) : List (String × FailoverAction) :=
  (processed ++ [(eventId, action)]).drop (processed.length + 1 - config.limit)

def remember (eventId : String) (action : FailoverAction) : ControllerProcedure FailoverAction := do
  let controller ← read
  match controller.processed.lookup eventId with
  | some known => return known
  | none => do
    modify fun controller =>
      { controller with processed := rememberIn config controller.processed eventId action }
    return action

def fallbacks (current : String) : List String :=
  let index := config.candidates.idxOf current
  (List.range (config.candidates.length - 1)).filterMap fun offset =>
    config.candidates[(index + (offset + 1)) % config.candidates.length]?

def firstAvailable (controller : Controller) (nowMs : Nat) :
    List String → Except String (Option String)
  | [] => .ok none
  | candidate :: candidates => do
    if ← controller.available candidate nowMs then return some candidate
    else firstAvailable controller nowMs candidates

def nextAvailable (controller : Controller) (nowMs : Nat) : Except String (Option String) :=
  firstAvailable controller nowMs (fallbacks config controller.currentExecutorId)

/-- A switch to another executor becomes the pending one and is remembered. -/
def plan (eventId : String) (toExecutorId : String) (reason : SwitchReason) :
    ControllerProcedure FailoverAction := do
  let controller ← read
  let action : SwitchAction :=
    ⟨controller.currentExecutorId, toExecutorId, controller.generation + 1, reason⟩
  modify fun controller => { controller with pendingSwitch := some ⟨eventId, action⟩ }
  remember config eventId (.switch action)

def planSwitch (eventId : String) (reason : ExecutorFailureCode) (nowMs : Nat) :
    ControllerProcedure FailoverAction := do
  let controller ← read
  match ← ofExcept (nextAvailable config controller nowMs) with
  | none => remember config eventId (.none "no eligible fallback executor")
  | some next => plan config eventId next (.failure reason)

def switchPending : FailoverAction := .none "switch already pending handoff verification"

/-- The failure is counted; too many of them open the circuit. -/
def ProviderState.failed (state : ProviderState) (nowMs : Nat) : ProviderState :=
  let consecutiveFailures := state.consecutiveFailures + 1
  { state with
    consecutiveFailures := consecutiveFailures
    circuitOpenUntilMs :=
      if config.circuitFailureThreshold ≤ consecutiveFailures then
        max state.circuitOpenUntilMs (nowMs + config.circuitOpenMs)
      else state.circuitOpenUntilMs }

/-- `onFailure` once the failure is counted. -/
def decideFailure (eventId : String) (code : ExecutorFailureCode) (nowMs : Nat) :
    ControllerProcedure FailoverAction := do
  let controller ← read
  let current := controller.currentExecutorId
  let state ← ofExcept (controller.provider current)
  if code ∈ recoverFirst then remember config eventId (.recover current code)
  else if code ∈ handoffRequired then
    remember config eventId (.handoff current (controller.generation + 1) code)
  else if code = .authRequired ∧ ¬ config.switchOnAuthRequired then
    remember config eventId (.requestAuth current)
  else if ¬ config.automaticFailover then
    remember config eventId (.none "automatic failover disabled")
  else if code ∈ retryThenSwitch ∧ state.retryCount < config.maxRetries then do
    modify fun controller =>
      controller.updateProvider current fun state => { state with retryCount := state.retryCount + 1 }
    remember config eventId (.retry current (state.retryCount + 1) config.maxRetries)
  else if code ∈ retryThenSwitch ∨ code = .quotaExhausted ∨ code = .unsupported ∨
      code = .authRequired ∧ config.switchOnAuthRequired then do
    modify fun controller => controller.updateProvider current fun state =>
      { state with cooldownUntilMs := max state.cooldownUntilMs (nowMs + config.providerCooldownMs) }
    planSwitch config eventId code nowMs
  else remember config eventId (.none ("no automatic policy for " ++ code.text))

/-! ## The operations that decide -/

def onFailure (eventId : String) (failure : ExecutorFailure) (nowMs : Nat) :
    ControllerProcedure FailoverAction := do
  assertEventId eventId
  assertTime nowMs
  let controller ← read
  match controller.processed.lookup eventId with
  | some cached => return cached
  | none =>
    if controller.pendingSwitch.isSome then remember config eventId switchPending
    else if failure.source ≠ controller.currentExecutorId ∧ failure.source ≠ "executor-core" then
      remember config eventId (.none "failure source does not match current executor")
    else if failure.code ∈ forbiddenFailoverFailures then
      remember config eventId (.none ("automatic failover forbidden for " ++ failure.code.text))
    else do
      -- stopped executions were refused with the forbidden failures
      let _ ← ofExcept (controller.provider controller.currentExecutorId)
      modify fun controller =>
        controller.updateProvider controller.currentExecutorId fun state => state.failed config nowMs
      decideFailure config eventId failure.code nowMs

def onRecoveryFailed (eventId : String) (reason : ExecutorFailureCode) :
    ControllerProcedure FailoverAction := do
  assertEventId eventId
  let recoveryEventId := eventId ++ ":recovery-failed"
  let controller ← read
  match controller.processed.lookup recoveryEventId with
  | some cached => return cached
  | none =>
    remember config recoveryEventId
      (.handoff controller.currentExecutorId (controller.generation + 1) reason)

def manualSwitch (eventId executorId : String) : ControllerProcedure FailoverAction := do
  assertEventId eventId
  let controller ← read
  match controller.processed.lookup eventId with
  | some cached => return cached
  | none =>
    if controller.pendingSwitch.isSome then remember config eventId switchPending
    else do
      check (executorId ∈ config.candidates) "manual executor is not in candidate order"
      if executorId = controller.currentExecutorId then
        remember config eventId (.none "executor already current")
      else plan config eventId executorId .manual

def stageBoundary (eventId : String) (nowMs : Nat) : ControllerProcedure FailoverAction := do
  assertTime nowMs
  let controller ← read
  match controller.processed.lookup eventId with
  | some cached => return cached
  | none =>
    let primary := config.candidates.headD ""
    let stay := remember config eventId
      (.none "return-to-primary not required or primary unavailable")
    if ¬ config.returnToPrimaryAfterStage ∨ controller.currentExecutorId = primary then stay
    else if ← ofExcept (controller.available primary nowMs) then
      -- a pending switch is replaced
      plan config eventId primary .returnToPrimary
    else stay

/-! ## The other operations -/

def recordSuccess (executorId : String) : ControllerProcedure Unit := do
  let controller ← read
  let _ ← ofExcept (controller.provider executorId)
  modify fun controller => controller.updateProvider executorId fun state =>
    { state with retryCount := 0, consecutiveFailures := 0, circuitOpenUntilMs := 0 }

/-- The error of a commit and an abort. -/
def noMatchingSwitch : String := "no matching pending switch"

def commitVerifiedSwitch (eventId : String) (acceptedGeneration : Nat) : ControllerProcedure Unit := do
  let controller ← read
  let pending ← require controller.pendingSwitch noMatchingSwitch
  check (pending.eventId = eventId) noMatchingSwitch
  check (acceptedGeneration = pending.action.targetGeneration)
    "verified handoff generation does not match pending switch"
  modify fun controller =>
    { controller with
      currentExecutorId := pending.action.toExecutorId
      generation := acceptedGeneration
      pendingSwitch := none }
  recordSuccess pending.action.toExecutorId

def abortSwitch (eventId : String) : ControllerProcedure Unit := do
  let controller ← read
  let pending ← require controller.pendingSwitch noMatchingSwitch
  check (pending.eventId = eventId) noMatchingSwitch
  modify fun controller => { controller with pendingSwitch := none }

structure FailoverSnapshot where
  (version currentExecutorId : String)
  generation : Nat
  providerState : List (String × ProviderState)
  processed : List (String × FailoverAction)
  pendingSwitch : Option PendingSwitch

def failoverVersion : String := "zero3.pilot.failover.v1"

def Controller.snapshot (controller : Controller) : FailoverSnapshot where
  version := failoverVersion
  currentExecutorId := controller.currentExecutorId
  generation := controller.generation
  providerState := controller.providers
  processed := controller.processed
  pendingSwitch := controller.pendingSwitch

def FailoverSnapshot.provider (snapshot : FailoverSnapshot) (id : String) :
    Except String (String × ProviderState) := do
  let saved ← orError (snapshot.providerState.lookup id) ("missing provider state: " ++ id)
  return (id, saved)

/-- A decision of a snapshot is remembered, unless there is one for its event. -/
def recallIn (processed : List (String × FailoverAction)) (entry : String × FailoverAction) :
    List (String × FailoverAction) :=
  match processed.lookup entry.1 with
  | some _ => processed
  | none => rememberIn config processed entry.1 entry.2

def restore (snapshot : FailoverSnapshot) : Except String Controller := do
  ensure (snapshot.version = failoverVersion) "unsupported failover snapshot version"
  let controller ← Controller.create config snapshot.currentExecutorId snapshot.generation
  let providers ← config.candidates.mapM snapshot.provider
  return { controller with
    providers := providers
    processed := snapshot.processed.foldl (recallIn config) []
    pendingSwitch := snapshot.pendingSwitch }

def reload : ControllerProcedure Unit := do
  let controller ← read
  let restored ← ofExcept (restore config controller.snapshot)
  Procedure.write restored

/-! ## The service -/

inductive FailoverOperation where
  | onFailure (eventId : String) (failure : ExecutorFailure) (nowMs : Nat)
  | onRecoveryFailed (eventId : String) (reason : ExecutorFailureCode)
  | manualSwitch (eventId executorId : String)
  | stageBoundary (eventId : String) (nowMs : Nat)
  | commitVerifiedSwitch (eventId : String) (acceptedGeneration : Nat)
  | abortSwitch (eventId : String)
  | recordSuccess (executorId : String)
  | reload

/-- What an operation returns: a decision, or nothing. -/
abbrev FailoverReply := Option FailoverAction

/-- **The service of the controller.** -/
def serve : FailoverOperation → ControllerProcedure FailoverReply
  | .onFailure eventId failure nowMs => some <$> onFailure config eventId failure nowMs
  | .onRecoveryFailed eventId reason => some <$> onRecoveryFailed config eventId reason
  | .manualSwitch eventId executorId => some <$> manualSwitch config eventId executorId
  | .stageBoundary eventId nowMs => some <$> stageBoundary config eventId nowMs
  | .commitVerifiedSwitch eventId acceptedGeneration =>
    (fun _ => none) <$> commitVerifiedSwitch eventId acceptedGeneration
  | .abortSwitch eventId => (fun _ => none) <$> abortSwitch eventId
  | .recordSuccess executorId => (fun _ => none) <$> recordSuccess executorId
  | .reload => (fun _ => none) <$> reload config

abbrev failoverMachine : Machine Controller FailoverOperation (Except String FailoverReply) :=
  Procedure.machine (serve config)

end Zero3Pilot.Failover
