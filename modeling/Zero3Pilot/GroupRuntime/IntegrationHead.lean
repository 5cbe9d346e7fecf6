import Zero3Pilot.GroupRuntime.Footprints

/-! # The integration head of the group state

The head in `state.json` is written apart from the milestone that it comes from. While no milestone
waits for it to be written, it is the head of the last merged milestone, whatever operation is served
and wherever the process stops. -/

namespace Zero3Pilot.GroupRuntime

open Program

def mergedMilestones (integrations : List IntegrationMilestone) : List IntegrationMilestone :=
  integrations.filter (·.status = .merged)

def GroupWorld.lastMerged (world : GroupWorld) : Option IntegrationMilestone :=
  (mergedMilestones world.integrations).getLast?

/-- **The head is known**: unless it is pending, the state names the head of the milestone that was
merged last. -/
structure HeadKnown (world : GroupWorld) : Prop where
  kept : WellKept world
  head : world.headIsPending = false → world.state.integrationSha = world.lastMerged.map (·.headSha)

theorem mergedMilestones_replaceRecord {integrations : List IntegrationMilestone}
    {record : IntegrationMilestone} (open_ : record.status ≠ .merged)
    (others : ∀ other ∈ integrations, other.status = .merged →
      other.integrationRunId ≠ record.integrationRunId) :
    mergedMilestones (replaceRecord (·.integrationRunId) integrations record) =
      mergedMilestones integrations := by
  unfold mergedMilestones replaceRecord
  rw [List.filter_append, List.filter_filter]
  have last : [record].filter (·.status = .merged) = [] := by simp [open_]
  rw [last, List.append_nil]
  apply List.filter_congr
  intro other member
  by_cases merged : other.status = .merged
  · simp [merged, others other member merged]
  · simp [merged]

theorem mergedMilestones_append {integrations : List IntegrationMilestone}
    {record : IntegrationMilestone} (merged : record.status = .merged) :
    (mergedMilestones (replaceRecord (·.integrationRunId) integrations record)).getLast? =
      some record := by
  unfold mergedMilestones replaceRecord
  rw [List.filter_append]
  simp [merged]

section Calls

variable {world : GroupWorld} (known : HeadKnown world)
include known

theorem HeadKnown.frame {parts : List WorldPart} {after : GroupWorld}
    (frame : Frame parts world after) (kept : WellKept after) (noState : .state ∉ parts)
    (noMilestone : .milestone ∉ parts) : HeadKnown after where
  kept := kept
  head := by
    unfold GroupWorld.lastMerged
    rw [frame.pending noMilestone noState, (frame.state noState).1, frame.milestone noMilestone]
    exact known.head

/-- **Every call but the renaming of a state keeps the head known**: a merged milestone makes it
pending. -/
theorem HeadKnown.answer (host : RuntimeHost) (environment : GroupEnvironment) {call : GroupCall}
    (stays : ∀ temporary, call ≠ .renameTemporary temporary) :
    HeadKnown (world.answer host environment call).2 := by
  have kept := known.kept.answer host environment call
  cases call
  case renameTemporary temporary => exact absurd rfl (stays temporary)
  case removeTemporary temporary => exact ⟨kept, known.head⟩
  case createTemporary state => exact ⟨kept, known.head⟩
  case writeIntegration record =>
    refine ⟨kept, fun settled => ?_⟩
    simp only [GroupWorld.answer, Bool.or_eq_false_iff, decide_eq_false_iff_not] at settled
    obtain ⟨⟨settled, open_⟩, others⟩ := settled
    show world.state.integrationSha = _
    rw [known.head settled, GroupWorld.lastMerged, GroupWorld.lastMerged]
    congr 2
    refine (mergedMilestones_replaceRecord open_ fun other member merged same => ?_).symm
    have found := List.any_eq_false.1 others other member
    simp [merged, same] at found
  all_goals
    refine known.frame (answer_frame host environment world _) kept ?_ ?_ <;>
      simp [GroupCall.part]

theorem HeadKnown.withTemporary (state : DevelopmentGroupRuntimeState) :
    HeadKnown (world.withTemporary state) :=
  ⟨known.kept.withTemporary state, known.head⟩

theorem HeadKnown.withState {state : DevelopmentGroupRuntimeState}
    (same : state.integrationSha = world.state.integrationSha) :
    HeadKnown (world.withState state) := by
  refine ⟨known.kept.withState state, fun settled => ?_⟩
  have settled' : world.headIsPending = false := by
    simpa [GroupWorld.withState, same] using settled
  exact same.trans (known.head settled')

theorem HeadKnown.withHead {state : DevelopmentGroupRuntimeState}
    (last : state.integrationSha = world.lastMerged.map (·.headSha)) :
    HeadKnown (world.withState state) :=
  ⟨known.kept.withState state, fun _ => last⟩

end Calls

variable {host : RuntimeHost} {world : GroupWorld}

/-! ## Programs that write the state -/

theorem keeps_headKnown {α : Type} {parts : List WorldPart} {program : GroupProgram α}
    (touches : Touches parts program) (noState : .state ∉ parts) :
    Keeps host HeadKnown program := by
  apply touches.keeps
  rintro environment world call touched known
  apply known.answer host environment
  rintro temporary rfl
  exact noState touched

theorem keeps_call {call : GroupCall} (plain : call.part ≠ .state) :
    Keeps host HeadKnown (ask call) := by
  have touched : Touches [call.part] (ask call) := touches_ask List.mem_cons_self
  apply keeps_headKnown touched
  intro member
  exact plain (List.mem_singleton.1 member).symm

theorem stays_writeState_head {state : DevelopmentGroupRuntimeState} (known : HeadKnown world)
    (same : state.integrationSha = world.state.integrationSha) :
    Stays host HeadKnown (fun _ _ => True) (writeState state) world :=
  (stays_writeState known.kept known (known.withTemporary state) (known.withState same)).mono
    (fun _ kept => kept) fun _ _ _ _ => trivial

theorem keeps_reconcile : Keeps host HeadKnown reconcile := by
  have removes (temporaries : List Nat) :
      Keeps host HeadKnown (temporaries.forM fun temporary => ask (.removeTemporary temporary)) := by
    apply keeps_forM
    intro temporary
    apply keeps_ask
    intro environment world known
    exact known.answer host environment (by simp)
  have recovers : Keeps host HeadKnown recoverInterruptedWrite := by
    refine (keeps_call (by decide)).bind fun temporaries => ?_
    refine Keeps.ite (keeps_pure _) ?_
    exact (keeps_call (by decide)).bind fun _ => removes temporaries
  refine recovers.bind fun _ => ?_
  refine (keeps_call (by decide)).bind fun state => ?_
  refine (keeps_call (by decide)).bind fun events => ?_
  exact Keeps.ite ((keeps_throw _).bind fun _ => keeps_pure _) (keeps_pure _)

/-- **Resuming a group** replays events, which leave the head as it is. -/
theorem keeps_resumeGroup : Keeps host HeadKnown resumeGroup := by
  refine keeps_reconcile.bind fun replays => ?_
  intro world known
  refine stays_next_read rfl known fun environment state loaded => ?_
  cases Except.ok.inj loaded
  split
  · refine stays_next_read rfl known fun _ events _ => ?_
    refine (stays_given known).seq ?_
    rintro next after _ ⟨replayed, rfl⟩
    refine (stays_writeState_head known ?_).seq fun _ _ kept _ => stays_pure kept trivial
    exact reduceGroupEvents_integrationSha replayed
  · exact stays_pure known trivial

/-- **Recording an event** leaves the head as it is. -/
theorem keeps_recordJob (groupId : String) (input : GroupEventInput) :
    Keeps host HeadKnown (recordJob groupId input) := by
  intro world known
  refine stays_next_read rfl known fun _ events _ => ?_
  have appends (environment : GroupEnvironment) : HeadKnown (world.answer host environment
      (.appendEvent (input.event groupId (events.length + 1)))).2 :=
    known.answer host environment (by simp)
  refine stays_next known appends fun environment _ _ => ?_
  refine stays_next_read rfl (appends environment) fun _ state loaded => ?_
  cases Except.ok.inj loaded
  refine (stays_given (appends environment)).seq ?_
  rintro next after _ ⟨reduced, rfl⟩
  refine (stays_writeState_head (appends environment) ?_).seq fun _ _ kept _ =>
    stays_pure kept trivial
  exact reduceGroupEvents_integrationSha reduced

theorem keeps_record (groupId : String) (input : GroupEventInput) :
    Keeps host HeadKnown (record groupId input) := by
  refine (keeps_call (by decide)).bind fun _ => ?_
  refine (keeps_recordJob groupId input).attempt.bind fun outcome => ?_
  cases outcome with
  | ok state => exact (keeps_call (by decide)).bind fun _ => keeps_pure _
  | error error => exact (keeps_call (by decide)).bind fun _ => keeps_throw _

theorem keeps_normalizeSnapshot (plan : PlanningProposal) :
    Keeps host HeadKnown (normalizeSnapshot plan) := by
  intro world known
  refine stays_next_read rfl known fun _ rawState loaded => ?_
  cases Except.ok.inj loaded
  refine stays_next_read rfl known fun _ records _ => ?_
  dsimp only
  split
  · have same : (normalizeRuntimeState world.state records).integrationSha =
        world.state.integrationSha := rfl
    exact (stays_writeState_head known same).seq fun _ _ kept _ => stays_pure kept trivial
  · exact stays_pure known trivial

/-- **A snapshot** keeps the head known. -/
theorem keeps_snapshot (groupId : String) : Keeps host HeadKnown (snapshot groupId) := by
  refine (keeps_call (by simp [GroupCall.part])).bind fun plan => ?_
  refine keeps_resumeGroup.bind fun _ => ?_
  refine (keeps_call (by decide)).bind fun isActive => ?_
  refine (keeps_forM fun session => ?_).bind fun _ => keeps_normalizeSnapshot plan
  exact keeps_headKnown (touches_reconcileSession (List.Subset.refl sessionParts) isActive session)
    (by decide)

/-! ## The operations -/

variable (host)

theorem keeps_startSession (groupId waveId sessionId : String) :
    Keeps host HeadKnown (startSession host groupId waveId sessionId) := by
  refine Keeps.bind (keeps_headKnown (touches_sessionRunner host
    (List.Subset.refl evidenceParts) groupId sessionId) (by decide)) fun runner => ?_
  refine Keeps.bind (keeps_headKnown (touches_readyRunner runner (List.Subset.refl sessionParts))
    (by decide)) fun runner => ?_
  refine (keeps_record groupId _).bind fun _ => ?_
  have starts : Touches runnerParts runner.start := touches_start runner (by decide) (by decide)
  refine Keeps.bind (keeps_headKnown starts (by decide)) fun running => ?_
  exact keeps_headKnown (touches_launch (List.Subset.refl supervisorParts) running) (by decide)

theorem keeps_startWave (groupId waveId : String) :
    Keeps host HeadKnown (startWave host groupId waveId) := by
  refine (keeps_snapshot groupId).bind fun snapshot => ?_
  refine (keeps_insist _ _).bind fun _ => ?_
  refine (keeps_demand _ _).bind fun wave => ?_
  refine Keeps.bind (keeps_headKnown (touches_buildWaveEvidence host
    (List.Subset.refl evidenceParts) snapshot) (by decide)) fun evidence => ?_
  refine Keeps.bind (keeps_headKnown (touches_schedule
    (List.Subset.refl evidenceParts) groupId evidence _) (by decide)) fun ready => ?_
  refine (keeps_insist _ _).bind fun _ => ?_
  refine (keeps_record groupId _).bind fun _ => ?_
  exact keeps_forM fun sessionId => keeps_startSession host groupId waveId sessionId

theorem keeps_submitDelivery (delivery : DevelopmentDelivery) :
    Keeps host HeadKnown (submitDelivery host delivery) := by
  refine (keeps_call (by simp [GroupCall.part])).bind fun plan => ?_
  refine (keeps_demand _ _).bind fun persisted => ?_
  refine (keeps_given _ _).bind fun session => ?_
  refine (keeps_call (by simp [GroupCall.part])).bind fun gate => ?_
  refine Keeps.ite ?_ ?_
  · exact (keeps_record _ _).bind fun _ => keeps_throw _
  · have accepts : Touches [.nothing, .session, .delivery]
        (acceptDevelopmentDelivery session delivery gate) :=
      touches_acceptDevelopmentDelivery (by decide) (by decide) session delivery gate
    refine Keeps.bind (keeps_headKnown accepts (by decide)) fun runtime => ?_
    exact (keeps_record _ _).bind fun _ => keeps_pure _

theorem keeps_materializationFailed (groupId : String) (session : PlannedSession)
    (error : GroupError) : Keeps host HeadKnown (materializationFailed groupId session error) := by
  refine Keeps.bind (keeps_headKnown (touches_markSessionBlocked
    (List.Subset.refl sessionParts) _ _) (by decide)) fun runtime => ?_
  exact (keeps_record groupId _).bind fun _ => keeps_pure _

theorem keeps_afterSettled (groupId : String) (session : PlannedSession)
    (runtime : DevelopmentSessionRuntime) :
    Keeps host HeadKnown (afterSettled host groupId session runtime) := by
  refine Keeps.ite (keeps_pure _) ?_
  have submits : Keeps host HeadKnown (do
      let delivery ← ask (.materialize session runtime)
      submitDelivery host delivery) :=
    (keeps_call (by simp [GroupCall.part])).bind fun delivery => keeps_submitDelivery host delivery
  refine submits.attempt.bind fun submitted => ?_
  cases submitted with
  | ok runtime => exact keeps_pure _
  | error error => exact keeps_materializationFailed host groupId session error

/-- **A turn of a supervised prompt** keeps the head known. -/
theorem keeps_promptTurn (groupId sessionId : String) :
    Keeps host HeadKnown (promptTurn host groupId sessionId) := by
  have fails (runner : SessionRunner) (error : String) :
      Keeps host HeadKnown (instructionFailed runner error) :=
    keeps_headKnown (touches_instructionFailed (List.Subset.refl supervisorParts) runner error)
      (by decide)
  refine (keeps_call (by simp [GroupCall.part])).bind fun runner => ?_
  refine (keeps_call (by simp [GroupCall.part])).bind fun progress => ?_
  cases progress with
  | threw message => exact fails runner _
  | finished =>
    refine (keeps_afterSettled host groupId _ _).attempt.bind fun _ => ?_
    refine Keeps.bind (keeps_headKnown (touches_releaseSettledBinding
      (List.Subset.refl supervisorParts) _ _) (by decide)) fun _ => ?_
    exact keeps_call (by simp [GroupCall.part])
  | event event =>
    refine (keeps_call (by simp [GroupCall.part])).bind fun active => ?_
    cases runner.syncActiveExecutorAuthority active with
    | error message => exact fails runner _
    | ok synced =>
      dsimp only
      rcases synced.applyExecutorEvent event with ⟨applied, failure⟩
      cases failure with
      | some message => exact fails applied _
      | none =>
        have persists : Keeps host HeadKnown applied.persist :=
          keeps_headKnown (touches_persist applied (List.Subset.refl sessionParts)) (by decide)
        refine persists.attempt.bind fun persisted => ?_
        cases persisted with
        | error error => exact fails applied _
        | ok persisted => exact keeps_call (by simp [GroupCall.part])

theorem stays_integrateNext (item : IntegrationQueueItem) (known : HeadKnown world) :
    Stays host HeadKnown
      (fun result after => result.status = .merged → after.lastMerged = some result)
      (integrateNext host item) world := by
  have rejects (beforeSha : String) (status : IntegrationStatus) (reasons : List String)
      (headSha : String) (unmerged : status ≠ .merged) {world : GroupWorld}
      (known : HeadKnown world) : Stays host HeadKnown
      (fun result after => result.status = .merged → after.lastMerged = some result)
      (rejectIntegration host item beforeSha status reasons headSha) world := by
    refine stays_next_read rfl known fun _ createdAt _ => ?_
    refine stays_next known (fun environment => known.answer host environment (by simp)) ?_
    intro environment _ _
    refine stays_pure (known.answer host environment (by simp)) ?_
    intro merged
    exact absurd merged unmerged
  have accepts (beforeSha headSha : String) {world : GroupWorld} (known : HeadKnown world) :
      Stays host HeadKnown
      (fun result after => result.status = .merged → after.lastMerged = some result)
      (acceptIntegration host item beforeSha headSha) world := by
    refine stays_next_read rfl known fun _ createdAt _ => ?_
    refine stays_next known (fun environment => known.answer host environment (by simp)) ?_
    intro environment _ _
    refine stays_pure (known.answer host environment (by simp)) ?_
    intro merged
    exact mergedMilestones_append merged
  refine stays_next_read rfl known fun _ beforeSha _ => ?_
  have obstructs : Keeps host HeadKnown (integrationObstacles item) :=
    keeps_headKnown (touches_integrationObstacles (List.Subset.refl integrationParts) item)
      (by decide)
  refine (obstructs world known).seq fun obstacles after known _ => ?_
  cases obstacles with
  | some reasons => exact rejects _ _ _ _ (by simp) known
  | none =>
    have merges (environment : GroupEnvironment) :
        HeadKnown (after.answer host environment (.merge item.session.branch)).2 :=
      known.answer host environment (by simp)
    refine stays_next known merges fun environment merge _ => ?_
    split
    · exact rejects _ _ _ _ (by simp) (merges environment)
    · refine stays_next_read rfl (merges environment) fun _ check _ => ?_
      split
      · refine stays_next (merges environment) (fun other => (merges environment).answer host
          other (by simp)) fun other _ _ => ?_
        exact rejects _ _ _ _ (by simp) ((merges environment).answer host other (by simp))
      · exact accepts _ _ (merges environment)

/-- **The head of a merged milestone becomes the head of the state.** -/
theorem stays_recordMilestone (groupId : String) (session : PlannedSession)
    {result : IntegrationMilestone} (known : HeadKnown world)
    (last : result.status = .merged → world.lastMerged = some result) :
    Stays host HeadKnown (fun _ _ => True) (recordMilestone groupId session result) world := by
  unfold recordMilestone
  split
  · rename_i merged
    refine ((keeps_record groupId _).framed (touches_record (List.Subset.refl controlParts)
      groupId _) known).seq fun state after known frame => ?_
    have same : after.lastMerged = some result := by
      rw [GroupWorld.lastMerged, frame.milestone (by decide)]
      exact last merged
    refine (stays_writeState known.kept known (known.withTemporary _) (known.withHead ?_)).mono
      (fun _ kept => kept) fun _ _ _ _ => trivial
    rw [same]
    rfl
  · exact ((keeps_record groupId _).bind fun _ => keeps_pure _) world known

theorem keeps_integrateItem (groupId : String) (item : IntegrationQueueItem) :
    Keeps host HeadKnown (integrateItem host groupId item) := by
  refine (keeps_record groupId _).bind fun _ => ?_
  refine Keeps.bind (keeps_headKnown (touches_markSessionIntegrating
    (List.Subset.refl sessionParts) _) (by decide)) fun _ => ?_
  intro world known
  refine (stays_integrateNext host item known).seq fun result after known last => ?_
  have applies := touches_applyIntegrationMilestone (List.Subset.refl sessionParts)
    item.session.sessionId result
  refine ((keeps_headKnown applies (by decide)).framed applies known).seq
    fun _ applied known frame => ?_
  have still : result.status = .merged → applied.lastMerged = some result := by
    rw [GroupWorld.lastMerged, frame.milestone (by decide)]
    exact last
  refine (stays_recordMilestone host groupId item.session known still).seq fun _ _ known _ => ?_
  exact stays_pure known trivial

/-- **An integration** keeps the head known. -/
theorem keeps_integrateDelivery (groupId sessionId : String) :
    Keeps host HeadKnown (integrateDelivery host groupId sessionId) := by
  refine (keeps_snapshot groupId).bind fun snapshot => ?_
  refine (keeps_insist _ _).bind fun _ => ?_
  refine (keeps_demand _ _).bind fun persisted => ?_
  refine (keeps_demand _ _).bind fun delivery => ?_
  refine (keeps_given _ _).bind fun session => ?_
  refine (keeps_given _ _).bind fun item => ?_
  refine (keeps_insist _ _).bind fun _ => ?_
  exact keeps_integrateItem host groupId item

theorem keeps_markVerified (groupId sha : String) (run : VerificationRun) :
    Keeps host HeadKnown (markVerified groupId sha run) := by
  refine (keeps_snapshot groupId).bind fun after => ?_
  refine (keeps_given _ _).bind fun chain => ?_
  refine (keeps_forM fun sessionId => ?_).bind fun _ => keeps_pure _
  refine Keeps.bind (keeps_headKnown (touches_markSessionVerified
    (List.Subset.refl sessionParts) _ _) (by decide)) fun _ => keeps_pure _

/-- **A verification** keeps the head known. -/
theorem keeps_runVerification (groupId : String) (verificationRunId : Option String) :
    Keeps host HeadKnown (runVerification groupId verificationRunId) := by
  refine (keeps_snapshot groupId).bind fun snapshot => ?_
  refine (keeps_insist _ _).bind fun _ => ?_
  refine (keeps_demand _ _).bind fun sha => ?_
  refine (keeps_call (by decide)).bind fun commands => ?_
  refine (keeps_record groupId _).bind fun _ => ?_
  refine (keeps_call (by decide)).bind fun platform => ?_
  refine Keeps.bind ?_ fun run => ?_
  · have executes (request : VerificationRunRequest) :
        Touches [.nothing] (executeVerification request) :=
      touches_executeVerification (by decide) request
    exact keeps_headKnown (executes _) (by decide)
  refine (keeps_call (by simp [GroupCall.part])).bind fun _ => ?_
  refine Keeps.ite ?_ (keeps_markVerified host groupId sha run)
  exact (keeps_record groupId _).bind fun _ => keeps_pure _

theorem keeps_completionProof (groupId : String) :
    Keeps host HeadKnown (completionProof host groupId) := by
  refine (keeps_snapshot groupId).bind fun snapshot => ?_
  refine (keeps_demand _ _).bind fun sha => ?_
  refine Keeps.bind (keeps_mapM fun delivery => ?_) fun hashes => keeps_given _ _
  exact keeps_headKnown (touches_validDeliveryHash host (List.Subset.refl evidenceParts) snapshot
    delivery) (by decide)

theorem keeps_completeGroup (groupId : String) :
    Keeps host HeadKnown (completeGroup host groupId) := by
  refine (keeps_completionProof host groupId).bind fun result => ?_
  refine (keeps_given _ _).bind fun proof => ?_
  exact (keeps_record groupId _).bind fun _ => keeps_pure _

/-- **A retry** keeps the head known. -/
theorem keeps_retryDevelopmentSession (groupId sessionId : String) :
    Keeps host HeadKnown (retryDevelopmentSession host groupId sessionId) := by
  refine (keeps_snapshot groupId).bind fun snapshot => ?_
  refine (keeps_insist _ _).bind fun _ => ?_
  refine (keeps_call (by decide)).bind fun isActive => ?_
  refine (keeps_insist _ _).bind fun _ => ?_
  refine (keeps_demand _ _).bind fun persisted => ?_
  refine (keeps_demand _ _).bind fun runtime => ?_
  refine (keeps_given _ _).bind fun session => ?_
  refine (keeps_insist _ _).bind fun _ => ?_
  refine (keeps_insist _ _).bind fun _ => ?_
  refine (keeps_insist _ _).bind fun _ => ?_
  refine (keeps_forM fun dependency => keeps_insist _ _).bind fun _ => ?_
  refine (keeps_demand _ _).bind fun wave => ?_
  refine (keeps_forM fun waveId => keeps_headKnown (touches_checkDependencyWave host
    (List.Subset.refl evidenceParts) snapshot waveId) (by decide)).bind fun _ => ?_
  refine Keeps.bind (keeps_headKnown (touches_sessionRunner host
    (List.Subset.refl evidenceParts) groupId sessionId) (by decide)) fun runner => ?_
  refine Keeps.bind (keeps_headKnown (touches_prepareRetry runner
    (List.Subset.refl sessionParts)) (by decide)) fun ready => ?_
  refine (keeps_record groupId _).bind fun _ => ?_
  have starts : Touches runnerParts ready.start := touches_start ready (by decide) (by decide)
  refine Keeps.bind (keeps_headKnown starts (by decide)) fun running => ?_
  exact keeps_headKnown (touches_launch (List.Subset.refl supervisorParts) running) (by decide)

theorem keeps_resolveOutcomeUnknown (groupId sessionId : String)
    (resolution : OutcomeUnknownResolution) (evidence : String) :
    Keeps host HeadKnown (resolveOutcomeUnknown groupId sessionId resolution evidence) := by
  refine Keeps.bind (keeps_headKnown (touches_resolveSessionOutcomeUnknown
    (List.Subset.refl sessionParts) sessionId resolution evidence) (by decide)) fun _ => ?_
  refine (keeps_call (by simp [GroupCall.part])).bind fun _ => ?_
  refine (keeps_call (by simp [GroupCall.part])).attempt.bind fun _ => ?_
  exact (keeps_snapshot groupId).bind fun _ => keeps_pure _

/-- **Every operation keeps the head known.** -/
theorem keeps_code (groupId : String) (operation : GroupOperation) :
    Keeps host HeadKnown (operation.code host groupId) := by
  have runs (sessionId : String) : Keeps host HeadKnown (sessionRunner host groupId sessionId) :=
    keeps_headKnown (touches_sessionRunner host (List.Subset.refl evidenceParts) groupId sessionId)
      (by decide)
  cases operation with
  | snapshot => exact (keeps_snapshot groupId).bind fun _ => keeps_pure _
  | startWave waveId => exact (keeps_startWave host groupId waveId).bind fun _ => keeps_pure _
  | submitDelivery delivery =>
    exact (keeps_submitDelivery host delivery).bind fun _ => keeps_pure _
  | integrateDelivery sessionId =>
    exact (keeps_integrateDelivery host groupId sessionId).bind fun _ => keeps_pure _
  | runVerification verificationRunId =>
    exact (keeps_runVerification host groupId verificationRunId).bind fun _ => keeps_pure _
  | completionProof => exact (keeps_completionProof host groupId).bind fun _ => keeps_pure _
  | completeGroup => exact (keeps_completeGroup host groupId).bind fun _ => keeps_pure _
  | retryDevelopmentSession sessionId =>
    exact (keeps_retryDevelopmentSession host groupId sessionId).bind fun _ => keeps_pure _
  | respondPermission sessionId =>
    refine Keeps.bind ((runs sessionId).bind fun runner => ?_) fun _ => keeps_pure _
    exact Keeps.bind (keeps_headKnown (touches_runnerRespondPermission runner
      (List.Subset.refl sessionParts)) (by decide)) fun _ => keeps_pure _
  | cancelSession sessionId =>
    refine Keeps.bind ((runs sessionId).bind fun runner => ?_) fun _ => keeps_pure _
    exact Keeps.bind (keeps_headKnown (touches_runnerCancel runner
      (List.Subset.refl sessionParts)) (by decide)) fun _ => keeps_pure _
  | resolveOutcomeUnknown sessionId resolution evidence =>
    exact (keeps_resolveOutcomeUnknown host groupId sessionId resolution evidence).bind fun _ =>
      keeps_pure _
  | promptTurn sessionId => exact (keeps_promptTurn host groupId sessionId).bind fun _ => keeps_pure _
  | record input => exact (keeps_record groupId input).bind fun _ => keeps_pure _
  | commitWork branch sha => exact (keeps_call (by simp [GroupCall.part])).bind fun _ => keeps_pure _

end Zero3Pilot.GroupRuntime
