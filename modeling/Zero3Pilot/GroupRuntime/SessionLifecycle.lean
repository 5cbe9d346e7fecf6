import Zero3Pilot.GroupRuntime.Controller

/-! # The records of sessions

`runtime/session-lifecycle.ts`: each of its functions loads the record of a session, checks that the
new status may follow, and writes the record back. -/

namespace Zero3Pilot.GroupRuntime

def transition (runtime : DevelopmentSessionRuntime) (status : DevelopmentSessionStatus)
    (patch : DevelopmentSessionRuntime → DevelopmentSessionRuntime) :
    Except String DevelopmentSessionRuntime :=
  match validateSessionStateTransition runtime.status status with
  | [] => .ok { patch runtime with status }
  | issue :: _ => .error issue.message

/-- Load the record of a session, change it and write it back. -/
def writeTransition (runtime : DevelopmentSessionRuntime) (status : DevelopmentSessionStatus)
    (patch : DevelopmentSessionRuntime → DevelopmentSessionRuntime) :
    GroupProgram DevelopmentSessionRuntime := do
  let next ← given .refused (transition runtime status patch)
  ask (.writeSession runtime next)
  return next

def DevelopmentSessionStatus.isExecuting : DevelopmentSessionStatus → Bool
  | .starting | .running | .waitingInput => true
  | _ => false

def reconcileInterruptedExecutorRuntime (sessionId : String) (processOwnsPrompt : Bool) :
    GroupProgram DevelopmentSessionRuntime := do
  let runtime ← ask (.loadSession sessionId)
  if processOwnsPrompt || !runtime.status.isExecuting then return runtime
  else
    writeTransition runtime .outcomeUnknown fun runtime =>
      { runtime with blocker := some "runtime_restart_without_authoritative_executor_outcome" }

inductive OutcomeUnknownResolution where
  | failed
  | cancelled
  | superseded

def OutcomeUnknownResolution.status : OutcomeUnknownResolution → DevelopmentSessionStatus
  | failed => .failed
  | cancelled => .cancelled
  | superseded => .superseded

def resolveSessionOutcomeUnknown (sessionId : String) (resolution : OutcomeUnknownResolution)
    (evidence : String) : GroupProgram DevelopmentSessionRuntime := do
  let detail := scriptTrim evidence
  insist (detail ≠ "") "OutcomeUnknown recovery requires explicit evidence/reason"
  let runtime ← ask (.loadSession sessionId)
  insist (runtime.status = .outcomeUnknown)
    s!"Session {sessionId} is not OutcomeUnknown; got {runtime.status.text}"
  writeTransition runtime resolution.status fun runtime =>
    { runtime with
      blocker := some s!"outcome_unknown_resolved:{resolution.status.text}:{detail}" }

def markSessionBlocked (sessionId blocker : String) : GroupProgram DevelopmentSessionRuntime := do
  let runtime ← ask (.loadSession sessionId)
  if runtime.status = .blocked && runtime.blocker = some blocker then return runtime
  else writeTransition runtime .blocked fun runtime => { runtime with blocker := some blocker }

def DevelopmentDeliveryStatus.sessionStatus : DevelopmentDeliveryStatus → DevelopmentSessionStatus
  | .completed => .delivered
  | .blocked => .blocked
  | .failed => .failed
  | .cancelled => .cancelled
  | .outcomeUnknown => .outcomeUnknown

def DevelopmentSessionStatus.isDelivered : DevelopmentSessionStatus → Bool
  | .delivered | .integrating | .integrated | .verified => true
  | _ => false

def withDelivery (delivery : DevelopmentDelivery) (runtime : DevelopmentSessionRuntime) :
    DevelopmentSessionRuntime :=
  { runtime with
    headSha := some delivery.headSha
    blocker :=
      if delivery.status.sessionStatus = .delivered then none
      else some s!"delivery_{delivery.status.text}" }

def acceptDevelopmentDelivery (session : PlannedSession) (delivery : DevelopmentDelivery)
    (gate : DeliveryGateResult) : GroupProgram DevelopmentSessionRuntime := do
  insist gate.Accepts ("Delivery rejected: " ++ "; ".intercalate gate.reasons)
  let issues := validateDevelopmentDelivery delivery session.toDevelopmentSessionDefinition
  insist (issues = [])
    ("Delivery contract invalid: " ++ "; ".intercalate (issues.map ValidationIssue.message))
  let prior ← ask (.loadDelivery delivery.sessionId)
  insist (prior.all fun prior => prior.deliveryHash = delivery.deliveryHash)
    "a different Delivery is already durable for this Session"
  let runtime ← ask (.loadSession delivery.sessionId)
  if prior.isSome && runtime.status.isDelivered then return runtime
  else
    insist (runtime.status = .delivering)
      s!"Session must be delivering before Delivery acceptance; got {runtime.status.text}"
    ask (.writeDelivery delivery)
    writeTransition runtime delivery.status.sessionStatus (withDelivery delivery)

def repairsSession (session : PlannedSession) (delivery : DevelopmentDelivery) : Bool :=
  validateDevelopmentDelivery delivery session.toDevelopmentSessionDefinition = [] &&
    delivery.status = .completed

def reconcileAcceptedDelivery (session : PlannedSession) :
    GroupProgram DevelopmentSessionRuntime := do
  let runtime ← ask (.loadSession session.sessionId)
  if runtime.status ≠ .delivering then return runtime
  else
    match ← ask (.loadDelivery session.sessionId) with
    | none => return runtime
    | some delivery =>
      if repairsSession session delivery then
        writeTransition runtime .delivered fun runtime =>
          { runtime with headSha := some delivery.headSha, blocker := none }
      else return runtime

def markSessionIntegrating (sessionId : String) : GroupProgram DevelopmentSessionRuntime := do
  let runtime ← ask (.loadSession sessionId)
  if runtime.status = .integrating then return runtime
  else writeTransition runtime .integrating id

/-- Why a milestone was not merged. -/
def IntegrationMilestone.blocker (milestone : IntegrationMilestone) : String :=
  if "; ".intercalate milestone.conflicts = "" then s!"integration_{milestone.status.text}"
  else "; ".intercalate milestone.conflicts

def applyIntegrationMilestone (sessionId : String) (milestone : IntegrationMilestone) :
    GroupProgram DevelopmentSessionRuntime := do
  let runtime ← ask (.loadSession sessionId)
  if milestone.status = .merged then
    if runtime.status = .integrated && runtime.headSha = some milestone.headSha then return runtime
    else
      writeTransition runtime .integrated fun runtime =>
        { runtime with headSha := some milestone.headSha, blocker := none }
  else
    writeTransition runtime .blocked fun runtime =>
      { runtime with blocker := some milestone.blocker }

def markSessionVerified (sessionId : String) (run : VerificationRun) :
    GroupProgram DevelopmentSessionRuntime := do
  let runtime ← ask (.loadSession sessionId)
  if runtime.status = .verified then return runtime
  else
    insist (runtime.status = .integrated)
      s!"Session must be integrated before verification; got {runtime.status.text}"
    insist (run.status = .passed)
      "Session cannot be marked verified from a non-passed Verification Run"
    writeTransition runtime .verified fun runtime =>
      { runtime with headSha := some run.integrationSha, blocker := none }

end Zero3Pilot.GroupRuntime
