import Zero3Pilot.GroupRuntime.SessionLifecycle

/-! # Which sessions may start

`scheduler/dag.ts` and `scheduler/scheduler.ts`. The runtime makes a new scheduler for every call, so
no session is paused, no retry requested, and sessions are ordered by their wave and their place in
the plan. -/

namespace Zero3Pilot.GroupRuntime

structure WaveGateEvidence where
  waveId : String
  (integrationValid requiredDeliveriesValid ownershipValid : Bool)

/-- An error of the plan where a condition holds. -/
def errorIf (found : Bool) (error : String) : List String := if found then [error] else []

def validateSchedulerDag (sessions : List PlannedSession) (waves : List DevelopmentWave) :
    List String :=
  sortTexts (
    (sessions.flatMap fun session => session.dependencies.flatMap fun dependency =>
      match mapGet (·.sessionId) sessions dependency with
      | none => [s!"{session.sessionId} depends on unknown session {dependency}"]
      | some target =>
        errorIf (target.waveId = session.waveId)
          s!"{session.sessionId} has same-wave implementation dependency on {dependency}") ++
    waves.flatMap fun wave => wave.dependsOnWaveIds.flatMap fun dependency =>
      match mapGet (·.waveId) waves dependency with
      | none => [s!"{wave.waveId} depends on unknown wave {dependency}"]
      | some target =>
        errorIf (wave.ordinal ≤ target.ordinal)
          s!"{wave.waveId} depends on non-earlier wave {dependency}")

def waveGateOpen (wave : DevelopmentWave) (evidence : List WaveGateEvidence) : Bool :=
  wave.dependsOnWaveIds.all fun dependency =>
    (mapGet (·.waveId) evidence dependency).any fun evidence =>
      evidence.integrationValid && evidence.requiredDeliveriesValid && evidence.ownershipValid

def dependencySatisfied : DevelopmentSessionStatus → Bool
  | .delivered | .integrating | .integrated | .verified => true
  | _ => false

def isSchedulable : DevelopmentSessionStatus → Bool
  | .planned | .waitingDependencies | .ready | .failed => true
  | _ => false

def sessionReadiness (session : PlannedSession) (runtime : DevelopmentSessionRuntime)
    (runtimes : List DevelopmentSessionRuntime) (wave : DevelopmentWave)
    (evidence : List WaveGateEvidence) : List String :=
  errorIf (!isSchedulable runtime.status) s!"status {runtime.status.text} is not schedulable" ++
    errorIf (!waveGateOpen wave evidence) s!"wave gate {wave.waveId} is closed" ++
    (session.dependencies.flatMap fun dependency =>
      match mapGet (·.sessionId) runtimes dependency with
      | none => [s!"dependency runtime {dependency} is missing"]
      | some runtime =>
        errorIf (!dependencySatisfied runtime.status)
          s!"dependency {dependency} is {runtime.status.text}") ++
    errorIf (runtime.status = .failed) "failed session requires explicit retry budget decision" ++
    errorIf (runtime.status = .outcomeUnknown) "OutcomeUnknown cannot be automatically scheduled"

def isPassedOver : DevelopmentSessionStatus → Bool
  | .outcomeUnknown | .starting | .running | .waitingInput | .delivering | .delivered
  | .integrating | .integrated | .verified | .cancelled | .superseded => true
  | _ => false

def isUnstarted : DevelopmentSessionStatus → Bool
  | .planned | .waitingDependencies | .ready => true
  | _ => false

def candidate? (plan : PlanningProposal) (runtimes : List DevelopmentSessionRuntime)
    (evidence : List WaveGateEvidence) (session : PlannedSession) :
    Except String (Option (String × Nat)) :=
  match mapGet (·.sessionId) runtimes session.sessionId with
  | none => .ok none
  | some runtime =>
    if isPassedOver runtime.status then .ok none
    else if plan.definition.policy.maxSessionAttempts ≤ runtime.attempt &&
        !isUnstarted runtime.status then .ok none
    else
      match mapGet (·.waveId) plan.waves session.waveId with
      | none => .error s!"session {session.sessionId} references missing wave {session.waveId}"
      | some wave =>
        .ok (if sessionReadiness session runtime runtimes wave evidence = [] then
          some (session.sessionId, wave.ordinal) else none)

def readySessionIds (plan : PlanningProposal) (runtimes : List DevelopmentSessionRuntime)
    (evidence : List WaveGateEvidence) (runningSessionCount : Nat) : Except String (List String) := do
  ensure (validateSchedulerDag plan.sessions plan.waves = [])
    ("invalid scheduler DAG: " ++ "; ".intercalate (validateSchedulerDag plan.sessions plan.waves))
  let availableSlots := plan.definition.policy.maxParallelSessions - runningSessionCount
  if availableSlots = 0 then return []
  let candidates ← plan.sessions.mapM (candidate? plan runtimes evidence)
  return (((candidates.filterMap id).insertionSort fun left right => left.2 ≤ right.2).take
    availableSlots).map Prod.fst

def schedule (groupId : String) (evidence : List WaveGateEvidence) (runningSessionCount : Nat) :
    GroupProgram (List String) := do
  let plan ← ask (.loadPlan groupId)
  let runtimes ← plan.sessions.mapM fun session => ask (.loadSession session.sessionId)
  given .refused (readySessionIds plan runtimes evidence runningSessionCount)

end Zero3Pilot.GroupRuntime
