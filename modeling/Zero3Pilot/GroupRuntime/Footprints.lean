import Zero3Pilot.GroupRuntime.Rules

/-! # What each part of the runtime may change

The parts of the world that the programs of the controller, the lifecycle, the runners and the
integration may change, each read off its calls. -/

namespace Zero3Pilot.GroupRuntime

open WorldPart (ledger memory nothing)

/-- What the store of the group state changes. -/
abbrev stateParts : List WorldPart := [.nothing, .state]

abbrev controlParts : List WorldPart := [.nothing, .state, .ledger, .memory]

/-- What the lifecycle of a session changes. -/
abbrev sessionParts : List WorldPart := [.nothing, .session]

abbrev snapshotParts : List WorldPart := [.nothing, .state, .session]

abbrev runnerParts : List WorldPart := [.nothing, .session, .log]

abbrev supervisorParts : List WorldPart := [.nothing, .memory, .session]

/-- What the gathering of evidence changes. -/
abbrev evidenceParts : List WorldPart := [.nothing, .log]

abbrev integrationParts : List WorldPart := [.nothing, .milestone, .log, .repository]

variable {parts : List WorldPart}

/-! ## The controller -/

section Store

variable (more : stateParts ⊆ parts)
include more

theorem touches_writeState (state : DevelopmentGroupRuntimeState) :
    Touches parts (writeState state) := by
  have writes : WorldPart.state ∈ parts := more (by decide)
  exact (touches_ask writes).bind fun _ => touches_ask writes

theorem touches_recoverInterruptedWrite : Touches parts recoverInterruptedWrite := by
  have reads : nothing ∈ parts := more (by decide)
  have writes : WorldPart.state ∈ parts := more (by decide)
  refine (touches_ask reads).bind fun temporaries => ?_
  refine Touches.ite (touches_pure _) ?_
  refine (touches_ask reads).bind fun _ => ?_
  exact touches_forM fun temporary => touches_ask writes

theorem touches_reconcile : Touches parts reconcile := by
  have reads : nothing ∈ parts := more (by decide)
  refine (touches_recoverInterruptedWrite more).bind fun _ => ?_
  refine (touches_ask reads).bind fun state => ?_
  refine (touches_ask reads).bind fun events => ?_
  split
  · exact (touches_throw _).bind fun _ => touches_pure _
  · exact touches_pure _

theorem touches_resumeGroup : Touches parts resumeGroup := by
  have reads : nothing ∈ parts := more (by decide)
  refine (touches_reconcile more).bind fun replays => ?_
  refine (touches_ask reads).bind fun state => ?_
  refine Touches.ite ?_ (touches_pure _)
  refine (touches_ask reads).bind fun events => ?_
  refine (touches_given _ _).bind fun next => ?_
  exact (touches_writeState more next).bind fun _ => touches_pure _

end Store

section Record

variable (more : controlParts ⊆ parts)
include more

theorem touches_recordJob (groupId : String) (input : GroupEventInput) :
    Touches parts (recordJob groupId input) := by
  have reads : nothing ∈ parts := more (by decide)
  have appends : ledger ∈ parts := more (by decide)
  have writes : stateParts ⊆ parts := List.Subset.trans (by decide) more
  refine (touches_ask reads).bind fun events => ?_
  refine (touches_ask appends).bind fun _ => ?_
  refine (touches_ask reads).bind fun state => ?_
  refine (touches_given _ _).bind fun next => ?_
  exact (touches_writeState writes next).bind fun _ => touches_pure _

theorem touches_record (groupId : String) (input : GroupEventInput) :
    Touches parts (record groupId input) := by
  have remembers : memory ∈ parts := more (by decide)
  refine (touches_ask remembers).bind fun _ => ?_
  refine (touches_recordJob more groupId input).attempt.bind fun outcome => ?_
  cases outcome with
  | ok state => exact (touches_ask remembers).bind fun _ => touches_pure _
  | error error => exact (touches_ask remembers).bind fun _ => touches_throw _

end Record

/-! ## The lifecycle of a session -/

section Lifecycle

variable (more : sessionParts ⊆ parts)
include more

theorem touches_writeTransition (runtime : DevelopmentSessionRuntime)
    (status : DevelopmentSessionStatus)
    (patch : DevelopmentSessionRuntime → DevelopmentSessionRuntime) :
    Touches parts (writeTransition runtime status patch) := by
  have writes : WorldPart.session ∈ parts := more (by decide)
  refine (touches_given _ _).bind fun next => ?_
  exact (touches_ask writes).bind fun _ => touches_pure _

theorem touches_reconcileInterruptedExecutorRuntime (sessionId : String) (owns : Bool) :
    Touches parts (reconcileInterruptedExecutorRuntime sessionId owns) := by
  have reads : nothing ∈ parts := more (by decide)
  refine (touches_ask reads).bind fun runtime => ?_
  exact Touches.ite (touches_pure _) (touches_writeTransition more _ _ _)

theorem touches_resolveSessionOutcomeUnknown (sessionId : String)
    (resolution : OutcomeUnknownResolution) (evidence : String) :
    Touches parts (resolveSessionOutcomeUnknown sessionId resolution evidence) := by
  have reads : nothing ∈ parts := more (by decide)
  refine (touches_insist _ _).bind fun _ => ?_
  refine (touches_ask reads).bind fun runtime => ?_
  exact (touches_insist _ _).bind fun _ => touches_writeTransition more _ _ _

theorem touches_markSessionBlocked (sessionId blocker : String) :
    Touches parts (markSessionBlocked sessionId blocker) := by
  have reads : nothing ∈ parts := more (by decide)
  refine (touches_ask reads).bind fun runtime => ?_
  exact Touches.ite (touches_pure _) (touches_writeTransition more _ _ _)

theorem touches_acceptDevelopmentDelivery (writes : WorldPart.delivery ∈ parts)
    (session : PlannedSession) (delivery : DevelopmentDelivery) (gate : DeliveryGateResult) :
    Touches parts (acceptDevelopmentDelivery session delivery gate) := by
  have reads : nothing ∈ parts := more (by decide)
  refine (touches_insist _ _).bind fun _ => ?_
  refine (touches_insist _ _).bind fun _ => ?_
  refine (touches_ask reads).bind fun prior => ?_
  refine (touches_insist _ _).bind fun _ => ?_
  refine (touches_ask reads).bind fun runtime => ?_
  refine Touches.ite (touches_pure _) ?_
  refine (touches_insist _ _).bind fun _ => ?_
  exact (touches_ask writes).bind fun _ => touches_writeTransition more _ _ _

theorem touches_reconcileAcceptedDelivery (session : PlannedSession) :
    Touches parts (reconcileAcceptedDelivery session) := by
  have reads : nothing ∈ parts := more (by decide)
  refine (touches_ask reads).bind fun runtime => ?_
  refine Touches.ite (touches_pure _) ?_
  refine (touches_ask reads).bind fun found => ?_
  cases found with
  | none => exact touches_pure _
  | some delivery => exact Touches.ite (touches_writeTransition more _ _ _) (touches_pure _)

theorem touches_markSessionIntegrating (sessionId : String) :
    Touches parts (markSessionIntegrating sessionId) := by
  have reads : nothing ∈ parts := more (by decide)
  refine (touches_ask reads).bind fun runtime => ?_
  exact Touches.ite (touches_pure _) (touches_writeTransition more _ _ _)

theorem touches_applyIntegrationMilestone (sessionId : String) (milestone : IntegrationMilestone) :
    Touches parts (applyIntegrationMilestone sessionId milestone) := by
  have reads : nothing ∈ parts := more (by decide)
  refine (touches_ask reads).bind fun runtime => ?_
  refine Touches.ite (Touches.ite (touches_pure _) ?_) ?_
  · exact touches_writeTransition more _ _ _
  · exact touches_writeTransition more _ _ _

theorem touches_markSessionVerified (sessionId : String) (run : VerificationRun) :
    Touches parts (markSessionVerified sessionId run) := by
  have reads : nothing ∈ parts := more (by decide)
  refine (touches_ask reads).bind fun runtime => ?_
  refine Touches.ite (touches_pure _) ?_
  refine (touches_insist _ _).bind fun _ => ?_
  exact (touches_insist _ _).bind fun _ => touches_writeTransition more _ _ _

theorem touches_reconcileSession (isActive : String → Bool) (session : PlannedSession) :
    Touches parts (reconcileSession isActive session) := by
  refine (touches_reconcileInterruptedExecutorRuntime more _ _).bind fun _ => ?_
  exact (touches_reconcileAcceptedDelivery more session).bind fun _ => touches_pure _

end Lifecycle

/-! ## Snapshots -/

section Snapshot

variable (more : snapshotParts ⊆ parts)
include more

theorem touches_normalizeSnapshot (plan : PlanningProposal) :
    Touches parts (normalizeSnapshot plan) := by
  have reads : nothing ∈ parts := more (by decide)
  refine (touches_ask reads).bind fun rawState => ?_
  refine (touches_ask reads).bind fun records => ?_
  refine Touches.ite ?_ (touches_pure _)
  exact (touches_writeState (List.Subset.trans (by decide) more) _).bind fun _ => touches_pure _

theorem touches_snapshot (groupId : String) : Touches parts (snapshot groupId) := by
  have reads : nothing ∈ parts := more (by decide)
  refine (touches_ask reads).bind fun plan => ?_
  refine (touches_resumeGroup (List.Subset.trans (by decide) more)).bind fun _ => ?_
  refine (touches_ask reads).bind fun isActive => ?_
  refine (touches_forM fun session =>
    touches_reconcileSession (List.Subset.trans (by decide) more) isActive session).bind fun _ => ?_
  exact touches_normalizeSnapshot more plan

end Snapshot

/-! ## Runners -/

section Runner

variable (runner : SessionRunner) (more : sessionParts ⊆ parts)
include more

theorem touches_persist : Touches parts runner.persist := by
  have writes : WorldPart.session ∈ parts := more (by decide)
  exact (touches_ask writes).bind fun _ => touches_pure _

theorem touches_markReady : Touches parts runner.markReady := by
  refine (touches_insist _ _).bind fun _ => ?_
  exact (touches_given _ _).bind fun ready => touches_persist _ more

theorem touches_readyRunner : Touches parts (readyRunner runner) :=
  Touches.ite (touches_markReady runner more) (touches_pure _)

theorem touches_prepareRetry : Touches parts runner.prepareRetry := by
  refine (touches_insist _ _).bind fun _ => ?_
  refine (touches_insist _ _).bind fun _ => ?_
  refine (touches_insist _ _).bind fun _ => ?_
  exact (touches_given _ _).bind fun ready => touches_persist _ more

theorem touches_startExecutor (logs : WorldPart.log ∈ parts) :
    Touches parts runner.startExecutor := by
  refine (touches_ask logs).attempt.bind fun outcome => ?_
  cases outcome with
  | error error => exact touches_pure _
  | ok session =>
    dsimp only
    cases (runner.bindExecutorSession session).moveTo .running with
    | error message => exact touches_pure _
    | ok running =>
      refine (touches_persist running more).attempt.bind fun persisted => ?_
      cases persisted with
      | ok running | error error => exact touches_pure _

theorem touches_start (logs : WorldPart.log ∈ parts) : Touches parts runner.start := by
  refine (touches_insist _ _).bind fun _ => ?_
  refine (touches_insist _ _).bind fun _ => ?_
  refine (touches_given _ _).bind fun starting => ?_
  refine (touches_persist _ more).bind fun starting => ?_
  refine (touches_startExecutor starting more logs).bind fun started => ?_
  obtain ⟨started, error⟩ := started
  cases error with
  | none => exact touches_pure _
  | some error =>
    refine (touches_given _ _).bind fun failed => ?_
    exact (touches_persist failed more).bind fun _ => touches_throw _

theorem touches_markOutcomeUnknown (reason : String) :
    Touches parts (runner.markOutcomeUnknown reason) := by
  refine (touches_insist _ _).bind fun _ => ?_
  refine Touches.ite (touches_pure _) ?_
  exact (touches_given _ _).bind fun unknown => touches_persist _ more

theorem touches_runnerRespondPermission : Touches parts runner.respondPermission := by
  have reads : nothing ∈ parts := more (by decide)
  refine (touches_insist _ _).bind fun _ => ?_
  refine (touches_ask reads).bind fun _ => ?_
  exact (touches_given _ _).bind fun running => touches_persist _ more

theorem touches_runnerCancel : Touches parts runner.cancel := by
  have reads : nothing ∈ parts := more (by decide)
  refine Touches.ite (touches_pure _) ?_
  refine (touches_ask reads).bind fun _ => ?_
  exact (touches_given _ _).bind fun cancelled => touches_persist _ more

end Runner

/-! ## The supervisor -/

section Supervisor

variable (more : supervisorParts ⊆ parts)
include more

theorem touches_releaseSettledBinding (runner : SessionRunner)
    (status : DevelopmentSessionStatus) : Touches parts (releaseSettledBinding runner status) := by
  have reads : nothing ∈ parts := more (by decide)
  refine Touches.ite ?_ (touches_pure _)
  exact (touches_ask reads).attempt.bind fun _ => touches_pure _

theorem touches_launch (runner : SessionRunner) : Touches parts (launch runner) := by
  have reads : nothing ∈ parts := more (by decide)
  have remembers : memory ∈ parts := more (by decide)
  refine (touches_ask reads).bind fun isActive => ?_
  have launches : Touches parts (ask (.launch runner)) := touches_ask remembers
  refine (touches_insist _ _).bind fun _ => ?_
  exact (touches_insist _ _).bind fun _ => launches

theorem touches_promptRejected (runner : SessionRunner) (error : String) :
    Touches parts (promptRejected runner error) := by
  have remembers : memory ∈ parts := more (by decide)
  have writes : sessionParts ⊆ parts := List.Subset.trans (by decide) more
  have marks : Touches parts (if SessionRunner.ignoresEvents runner.runtime.status then pure runner
      else runner.markOutcomeUnknown s!"supervisor_prompt_exception: {error}") :=
    Touches.ite (touches_pure _) (touches_markOutcomeUnknown runner writes _)
  have settles : Touches parts (ask (.settle runner.session.sessionId)) := touches_ask remembers
  refine marks.attempt.bind fun marked => ?_
  cases marked with
  | ok runner => exact (touches_releaseSettledBinding more _ _).bind fun _ => settles
  | error error => exact settles

theorem touches_instructionFailed (runner : SessionRunner) (error : String) :
    Touches parts (instructionFailed runner error) := by
  have writes : sessionParts ⊆ parts := List.Subset.trans (by decide) more
  refine (touches_markOutcomeUnknown runner writes _).attempt.bind fun outcome => ?_
  cases outcome with
  | ok marked => exact touches_promptRejected more marked error
  | error replaced => exact touches_promptRejected more runner replaced.text

end Supervisor

/-! ## Waves and evidence -/

section Evidence

variable (host : RuntimeHost) (more : evidenceParts ⊆ parts)
include more

theorem touches_sessionRunner (groupId sessionId : String) :
    Touches parts (sessionRunner host groupId sessionId) := by
  have reads : nothing ∈ parts := more (by decide)
  refine (touches_ask reads).bind fun plan => ?_
  refine (touches_demand _ _).bind fun persisted => ?_
  refine (touches_given _ _).bind fun session => ?_
  refine (touches_ask reads).bind fun runtime => ?_
  exact (touches_insist _ _).bind fun _ => touches_pure _

theorem touches_sessionEvidence (snapshot : GroupSnapshot) (sessionId : String) :
    Touches parts (sessionEvidence host snapshot sessionId) := by
  have logs : WorldPart.log ∈ parts := more (by decide)
  unfold sessionEvidence
  split
  · refine (touches_given _ _).bind fun session => ?_
    exact (touches_ask logs).bind fun gate => touches_pure _
  · exact touches_pure _

theorem touches_buildWaveEvidence (snapshot : GroupSnapshot) :
    Touches parts (buildWaveEvidence host snapshot) := by
  refine touches_mapM fun wave => ?_
  refine (touches_mapM fun sessionId => ?_).bind fun found => touches_pure _
  exact touches_sessionEvidence host more snapshot sessionId

theorem touches_schedule (groupId : String) (evidence : List WaveGateEvidence) (count : Nat) :
    Touches parts (schedule groupId evidence count) := by
  have reads : nothing ∈ parts := more (by decide)
  refine (touches_ask reads).bind fun plan => ?_
  have loads (session : PlannedSession) : Touches parts (ask (.loadSession session.sessionId)) :=
    touches_ask reads
  refine (touches_mapM loads).bind fun runtimes => ?_
  exact touches_given _ _

theorem touches_validDeliveryHash (snapshot : GroupSnapshot) (delivery : DevelopmentDelivery) :
    Touches parts (validDeliveryHash host snapshot delivery) := by
  have logs : WorldPart.log ∈ parts := more (by decide)
  unfold validDeliveryHash
  split
  · exact touches_pure _
  · refine (touches_given _ _).bind fun session => ?_
    exact (touches_ask logs).bind fun gate => touches_pure _

theorem touches_checkDependencyWave (snapshot : GroupSnapshot) (waveId : String) :
    Touches parts (checkDependencyWave host snapshot waveId) := by
  have logs : WorldPart.log ∈ parts := more (by decide)
  refine (touches_demand _ _).bind fun wave => ?_
  refine touches_forM fun sessionId => ?_
  refine (touches_insist _ _).bind fun _ => ?_
  refine (touches_demand _ _).bind fun persisted => ?_
  refine (touches_demand _ _).bind fun delivery => ?_
  refine (touches_given _ _).bind fun session => ?_
  exact (touches_ask logs).bind fun gate => touches_insist _ _

end Evidence

/-! ## Integration and verification -/

section Integration

variable (host : RuntimeHost) (more : integrationParts ⊆ parts)
include more

theorem touches_integrationObstacles (item : IntegrationQueueItem) :
    Touches parts (integrationObstacles item) := by
  have reads : nothing ∈ parts := more (by decide)
  have logs : WorldPart.log ∈ parts := more (by decide)
  refine (touches_ask reads).bind fun branch => ?_
  refine Touches.ite (touches_pure _) ?_
  refine (touches_ask reads).bind fun clean => ?_
  refine Touches.ite (touches_pure _) ?_
  refine (touches_ask reads).bind fun branchHead => ?_
  refine Touches.ite (touches_pure _) ?_
  refine (touches_ask logs).bind fun gate => ?_
  exact Touches.ite (touches_pure _) (touches_pure _)

end Integration

section Verification

variable (reads : nothing ∈ parts)
include reads

theorem touches_runCommands (platform : VerificationPlatform) (commands : List VerificationCommand) :
    Touches parts (runCommands platform commands) := by
  induction commands with
  | nil => exact touches_pure _
  | cons command commands ih =>
    refine Touches.ite (ih.bind fun rest => touches_pure _) ?_
    refine (touches_ask reads).attempt.bind fun outcome => ?_
    cases outcome with
    | ok answered => exact ih.bind fun rest => touches_pure _
    | error error => exact touches_pure _

theorem touches_executeVerification (request : VerificationRunRequest) :
    Touches parts (executeVerification request) := by
  have names : Touches parts request.runId := by
    unfold VerificationRunRequest.runId
    split
    · exact touches_pure _
    · exact (touches_ask reads).bind fun id => touches_pure _
  unfold executeVerification
  split
  · exact touches_refuse _
  · refine (touches_ask reads).bind fun startedAt => ?_
    refine names.bind fun verificationRunId => ?_
    exact (touches_runCommands reads _ _).bind fun results => touches_pure _

end Verification

end Zero3Pilot.GroupRuntime
