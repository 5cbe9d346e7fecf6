import Zero3Pilot.GroupRuntime.Contracts

/-! # The states of groups and sessions

`contracts/state-machine.ts`: the statuses of development groups and of development sessions, and
which of them may follow which. Only the transitions of sessions are checked when a record is
written; those of groups say which statuses are final. -/

namespace Zero3Pilot.GroupRuntime

inductive DevelopmentGroupStatus where
  | draft
  | planning
  | planReview
  | ready
  | running
  | integrating
  | verifying
  | repairing
  | paused
  | blocked
  | waitingApproval
  | waitingHuman
  | outcomeUnknown
  | completed
  | cancelled
  | failed
  deriving DecidableEq

inductive DevelopmentSessionStatus where
  | planned
  | waitingDependencies
  | ready
  | starting
  | running
  | waitingInput
  | delivering
  | delivered
  | integrating
  | integrated
  | verified
  | paused
  | blocked
  | outcomeUnknown
  | failed
  | cancelled
  | superseded
  deriving DecidableEq

def DevelopmentSessionStatus.text : DevelopmentSessionStatus → String
  | planned => "planned"
  | waitingDependencies => "waiting_dependencies"
  | ready => "ready"
  | starting => "starting"
  | running => "running"
  | waitingInput => "waiting_input"
  | delivering => "delivering"
  | delivered => "delivered"
  | integrating => "integrating"
  | integrated => "integrated"
  | verified => "verified"
  | paused => "paused"
  | blocked => "blocked"
  | outcomeUnknown => "outcome_unknown"
  | failed => "failed"
  | cancelled => "cancelled"
  | superseded => "superseded"

def groupTransitions : DevelopmentGroupStatus → List DevelopmentGroupStatus
  | .draft => [.planning, .cancelled]
  | .planning => [.planReview, .blocked, .cancelled, .failed]
  | .planReview => [.planning, .ready, .waitingApproval, .cancelled]
  | .ready => [.running, .paused, .cancelled]
  | .running =>
    [.integrating, .paused, .blocked, .waitingApproval, .waitingHuman, .outcomeUnknown,
      .cancelled, .failed]
  | .integrating =>
    [.running, .verifying, .repairing, .paused, .blocked, .waitingHuman, .outcomeUnknown,
      .cancelled, .failed]
  | .verifying =>
    [.completed, .repairing, .paused, .blocked, .waitingHuman, .outcomeUnknown, .cancelled, .failed]
  | .repairing =>
    [.integrating, .verifying, .paused, .blocked, .waitingHuman, .outcomeUnknown, .cancelled,
      .failed]
  | .paused => [.planning, .ready, .running, .integrating, .verifying, .repairing, .cancelled]
  | .blocked =>
    [.planning, .ready, .running, .integrating, .verifying, .repairing, .waitingHuman,
      .cancelled, .failed]
  | .waitingApproval =>
    [.planReview, .running, .integrating, .verifying, .repairing, .waitingHuman, .cancelled]
  | .waitingHuman =>
    [.planning, .ready, .running, .integrating, .verifying, .repairing, .cancelled, .failed]
  | .outcomeUnknown => [.waitingHuman, .cancelled, .failed]
  | .completed => []
  | .cancelled => []
  | .failed => []

def sessionTransitions : DevelopmentSessionStatus → List DevelopmentSessionStatus
  | .planned => [.waitingDependencies, .ready, .cancelled, .superseded]
  | .waitingDependencies => [.ready, .blocked, .cancelled, .superseded]
  | .ready => [.starting, .paused, .cancelled, .superseded]
  | .starting => [.running, .blocked, .outcomeUnknown, .failed, .cancelled]
  | .running =>
    [.waitingInput, .delivering, .paused, .blocked, .outcomeUnknown, .failed, .cancelled]
  | .waitingInput => [.running, .paused, .blocked, .outcomeUnknown, .failed, .cancelled]
  | .delivering => [.delivered, .blocked, .outcomeUnknown, .failed, .cancelled]
  | .delivered => [.integrating, .blocked, .superseded]
  | .integrating => [.integrated, .blocked, .failed, .superseded]
  | .integrated => [.verified, .blocked, .failed, .superseded]
  | .verified => []
  | .paused =>
    [.waitingDependencies, .ready, .running, .waitingInput, .delivering, .cancelled, .superseded]
  | .blocked =>
    [.waitingDependencies, .ready, .running, .delivering, .cancelled, .failed, .superseded]
  | .outcomeUnknown => [.cancelled, .failed, .superseded]
  | .failed => [.ready, .superseded]
  | .cancelled => []
  | .superseded => []

def DevelopmentGroupStatus.isFinal (status : DevelopmentGroupStatus) : Bool :=
  groupTransitions status = []

def DevelopmentSessionStatus.isFinal (status : DevelopmentSessionStatus) : Bool :=
  sessionTransitions status = []

def isValidSessionTransition (status next : DevelopmentSessionStatus) : Bool :=
  status = next || (sessionTransitions status).contains next

def validateSessionStateTransition (status next : DevelopmentSessionStatus) :
    List ValidationIssue :=
  issueIf (!isValidSessionTransition status next) "invalid_state_transition" "session.status"
    s!"cannot transition Development Session from {status.text} to {next.text}"

end Zero3Pilot.GroupRuntime
