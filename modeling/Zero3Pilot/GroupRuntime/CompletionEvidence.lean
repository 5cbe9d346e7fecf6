import Zero3Pilot.GroupRuntime.IntegrationHead
import Zero3Pilot.GroupRuntime.Snapshots

/-! # What a completion rests on -/

namespace Zero3Pilot.GroupRuntime

open Program

/-! ## The chain -/

/-- **Milestones linked from a head to the bases**, down to a base that is no head. -/
inductive HeadToBase (merged : List IntegrationMilestone) :
    String → List IntegrationMilestone → Prop where
  | base {sha : String} (absent : ∀ record ∈ merged, record.headSha ≠ sha) :
      HeadToBase merged sha []
  | link {record : IntegrationMilestone} {rest : List IntegrationMilestone}
      (member : record ∈ merged) (below : HeadToBase merged record.baseSha rest) :
      HeadToBase merged record.headSha (record :: rest)

variable {sha : String}

theorem HeadToBase.subset {merged chain : List IntegrationMilestone}
    (linked : HeadToBase merged sha chain) : chain ⊆ merged := by
  induction linked with
  | base absent => exact List.nil_subset _
  | link member below ih => exact List.cons_subset.2 ⟨member, ih⟩

theorem mapGet_none {α : Type} {key : α → String} {values : List α} {name : String}
    (missing : mapGet key values name = none) : ∀ value ∈ values, key value ≠ name := by
  intro value member same
  have absent := List.find?_eq_none.1 missing value (List.mem_reverse.2 member)
  simp [same] at absent

/-- **The walk is a chain.** -/
theorem chainFrom_headToBase {cycle : String → String} {byHead : List IntegrationMilestone}
    {fuel : Nat} : ∀ {visited : List String} {sha : String} {chain : List IntegrationMilestone},
      chainFrom cycle byHead fuel visited sha = .ok chain → HeadToBase byHead sha chain := by
  induction fuel with
  | zero =>
    intro visited sha chain walked
    unfold chainFrom at walked
    split at walked
    · cases walked
    · split at walked
      · rename_i missing
        cases walked
        exact .base (mapGet_none missing)
      · cases walked
  | succ fuel ih =>
    intro visited sha chain walked
    unfold chainFrom at walked
    split at walked
    · cases walked
    · split at walked
      · rename_i missing
        cases walked
        exact .base (mapGet_none missing)
      · rename_i record found
        rw [bind_ok] at walked
        obtain ⟨rest, below, returned⟩ := walked
        cases returned
        obtain ⟨member, rfl⟩ := mapGet_some found
        exact .link member (ih below)

theorem chainFrom_cycle {cycle : String → String} (cycle' : String → String)
    {byHead : List IntegrationMilestone} {fuel : Nat} :
    ∀ {visited : List String} {sha : String} {chain : List IntegrationMilestone},
      chainFrom cycle byHead fuel visited sha = .ok chain →
      chainFrom cycle' byHead fuel visited sha = .ok chain := by
  induction fuel with
  | zero =>
    intro visited sha chain walked
    unfold chainFrom at walked ⊢
    split at walked
    · cases walked
    · rename_i fresh
      rw [if_neg fresh]
      split at walked
      · exact walked
      · cases walked
  | succ fuel ih =>
    intro visited sha chain walked
    unfold chainFrom at walked ⊢
    split at walked
    · cases walked
    · rename_i fresh
      rw [if_neg fresh]
      split at walked
      · exact walked
      · rw [bind_ok] at walked ⊢
        obtain ⟨rest, below, same⟩ := walked
        exact ⟨rest, ih below, same⟩

/-- **The walk of the facade and the walk of the matrix come to the same milestones.** -/
theorem finalIntegrationRunIds_ok {integrations : List IntegrationMilestone} {ids : List String} :
    finalIntegrationRunIds integrations sha = .ok ids ↔
      ∃ chain, finalIntegrationChain integrations sha = .ok chain ∧
        ids = chain.map (·.integrationRunId) := by
  unfold finalIntegrationRunIds finalIntegrationChain
  simp only [bind_ok, pure_ok]
  constructor
  · rintro ⟨byHead, indexed, chain, walked, rfl⟩
    exact ⟨chain, ⟨byHead, indexed, chainFrom_cycle _ walked⟩, rfl⟩
  · rintro ⟨chain, ⟨byHead, indexed, walked⟩, rfl⟩
    exact ⟨byHead, indexed, chain, chainFrom_cycle _ walked, rfl⟩

theorem integrationByHead_ok {integrations byHead : List IntegrationMilestone}
    (indexed : integrationByHead integrations = .ok byHead) :
    byHead = mergedMilestones integrations := by
  have adds : ∀ (records before after : List IntegrationMilestone),
      records.foldlM (fun byHead record => addHead
        s!"ambiguous merged IntegrationMilestone head {record.headSha}" byHead record) before =
          .ok after → after = before ++ records := by
    intro records
    induction records with
    | nil =>
      rintro before after ⟨⟩
      exact (List.append_nil before).symm
    | cons record records ih =>
      intro before after added
      rw [List.foldlM_cons, bind_ok] at added
      obtain ⟨between, first, rest⟩ := added
      unfold addHead at first
      rw [bind_ok] at first
      obtain ⟨_, _, returned⟩ := first
      cases returned
      rw [ih _ _ rest, List.append_assoc]
      rfl
  exact adds _ [] byHead indexed

/-- **The chain of a head is linked.** -/
theorem finalIntegrationChain_ok {integrations chain : List IntegrationMilestone}
    (walked : finalIntegrationChain integrations sha = .ok chain) :
    HeadToBase (mergedMilestones integrations) sha chain := by
  unfold finalIntegrationChain at walked
  rw [bind_ok] at walked
  obtain ⟨byHead, indexed, walked⟩ := walked
  rw [← integrationByHead_ok indexed]
  exact chainFrom_headToBase walked

/-! ## The matrix -/

theorem sessionByRequirement_lookup {sessions : List PlannedSession}
    {assigned : List (String × PlannedSession)} (mapped : sessionByRequirement sessions = .ok assigned)
    {session : PlannedSession} (planned : session ∈ sessions) {requirementId : String}
    (owned : requirementId ∈ session.requirements) :
    assigned.lookup requirementId = some session := by
  have adds : ∀ (entries before after : List (String × PlannedSession)),
      entries.foldlM (fun assigned entry => do
        ensure (assigned.lookup entry.1 = none)
          s!"Requirement {entry.1} is assigned to multiple Sessions"
        return assigned ++ [entry]) before = .ok after →
      (∀ entry ∈ before, before.lookup entry.1 = some entry.2) →
      (∀ entry ∈ before ++ entries, after.lookup entry.1 = some entry.2) := by
    intro entries
    induction entries with
    | nil =>
      rintro before after ⟨⟩ found entry member
      rw [List.append_nil] at member
      exact found entry member
    | cons entry entries ih =>
      intro before after added found
      rw [List.foldlM_cons, bind_ok] at added
      obtain ⟨between, first, rest⟩ := added
      rw [bind_ok] at first
      obtain ⟨_, fresh, returned⟩ := first
      have fresh := ensure_ok.1 fresh
      cases returned
      have grown : ∀ other ∈ before ++ [entry],
          (before ++ [entry]).lookup other.1 = some other.2 := by
        intro other member
        rw [List.lookup_append]
        rcases List.mem_append.1 member with earlier | now
        · rw [found other earlier]
          rfl
        · rw [List.mem_singleton.1 now, fresh]
          obtain ⟨id, owner⟩ := entry
          exact List.lookup_cons_self
      have later := ih _ _ rest grown
      rwa [List.append_assoc] at later
  refine adds _ [] assigned mapped (by simp) (requirementId, session) ?_
  exact List.mem_flatMap.2 ⟨session, planned, List.mem_map.2 ⟨requirementId, owned, rfl⟩⟩

theorem requirementCoverage_requirementId (input : CompletionInput)
    (assigned : List (String × PlannedSession)) (chain : List String)
    (verification : Option VerificationRun) (requirement : DevelopmentRequirement) :
    (requirementCoverage input assigned chain verification requirement).requirementId =
      requirement.requirementId := by
  unfold requirementCoverage
  split
  · rfl
  · split
    · rfl
    · unfold deliveryCoverage
      dsimp only
      split
      · rfl
      · split
        · split <;> rfl
        · split
          · split <;> rfl
          · split <;> rfl

/-- **A verified requirement**: the delivery of its session is completed and valid, and a milestone
of the chain contains it. -/
theorem requirementCoverage_verified {input : CompletionInput}
    {assigned : List (String × PlannedSession)} {chain : List String}
    {verification : Option VerificationRun} {requirement : DevelopmentRequirement}
    (verified : (requirementCoverage input assigned chain verification requirement).state =
      .verified)
    {session : PlannedSession} (owner : assigned.lookup requirement.requirementId = some session) :
    ∃ delivery milestone,
      mapGet (·.sessionId) input.records.deliveries session.sessionId = some delivery ∧
      delivery.deliveryHash ∈ input.validDeliveryHashes ∧
      milestone ∈ input.records.integrations ∧ milestone.integrationRunId ∈ chain ∧
      session.sessionId ∈ milestone.mergedSessionIds ∧
      delivery.deliveryHash ∈ milestone.deliveryHashes := by
  unfold requirementCoverage at verified
  rw [owner] at verified
  dsimp only at verified
  split at verified
  · cases verified
  rename_i delivery delivered
  refine ⟨delivery, ?_⟩
  unfold deliveryCoverage at verified
  dsimp only at verified
  split at verified
  · split at verified <;> cases verified
  rename_i valid
  simp only [Bool.or_eq_true, decide_eq_true_eq, Bool.not_eq_true', not_or, Bool.not_eq_false,
    List.contains_iff_mem] at valid
  split at verified
  · split at verified
    · split at verified <;> cases verified
    · cases verified
  · rename_i milestone found
    have contains := List.find?_some found
    simp only [Bool.and_eq_true, List.contains_iff_mem] at contains
    exact ⟨milestone, delivered, valid.2, List.mem_of_find?_eq_some found, contains.1.1,
      contains.1.2, contains.2⟩

theorem issueIf_eq_nil {found : Bool} {code path message : String} :
    issueIf found code path message = [] ↔ found = false := by
  unfold issueIf
  cases found <;> simp

theorem sessionBlocker_mem {records : DurableGroupRecords} {runtime : DevelopmentSessionRuntime}
    (member : runtime ∈ records.runtimes) (blocks : runtime.status.isBlocking) :
    sessionBlocker runtime ∈ currentBlockers records := by
  have named : sessionBlocker runtime ≠ "" := by
    unfold sessionBlocker
    split
    · intro empty
      have letters := congrArg String.toList empty
      simp only [String.toList_append, String.toList_empty, List.append_eq_nil_iff] at letters
      exact absurd letters.1.2 (by decide)
    · assumption
  unfold currentBlockers
  rw [mem_sortTexts, List.mem_filter, List.mem_eraseDups]
  refine ⟨List.mem_append_left _ (List.mem_append_left _ ?_), by simpa using named⟩
  exact List.mem_map_of_mem (List.mem_filter.2 ⟨member, blocks⟩)

/-- **A proof without issues**: what was built, and what `validateGroupCompletionProof` asks of it. -/
theorem buildCompletionProof_complete {input : CompletionInput}
    {result : GroupCompletionProof × List ValidationIssue} {proof : GroupCompletionProof}
    (built : buildCompletionProof input = .ok result)
    (completable : assertGroupCompletable result = .ok proof) :
    proof.finalIntegrationSha = input.finalIntegrationSha ∧ input.unresolvedBlockers = [] ∧
      (∃ run ∈ input.records.verifications,
        verificationQualifies run input.finalIntegrationSha input.policy) ∧
      ∃ assigned chain verification, sessionByRequirement input.sessions = .ok assigned ∧
        finalIntegrationRunIds input.records.integrations input.finalIntegrationSha = .ok chain ∧
        ∀ requirement ∈ input.requirements, requirement.mandatory →
          ∃ other, other.requirementId = requirement.requirementId ∧
            (requirementCoverage input assigned chain verification other).state = .verified := by
  unfold buildCompletionProof buildRequirementEvidenceMatrix at built
  simp only [bind_ok, pure_ok] at built
  obtain ⟨matrix, ⟨assigned, mapped, chain, walked, rfl⟩, rfl⟩ := built
  unfold assertGroupCompletable at completable
  simp only [bind_ok, pure_ok, ensure_ok] at completable
  obtain ⟨_, noIssue, rfl⟩ := completable
  simp only [validateGroupCompletionProof, List.append_eq_nil_iff, issueIf_eq_nil] at noIssue
  simp only [List.flatMap_eq_nil_iff, List.mem_filter] at noIssue
  obtain ⟨⟨⟨⟨⟨⟨⟨⟨⟨⟨⟨⟨_, _⟩, _⟩, verified⟩, blockers⟩, _⟩, _⟩, covered⟩, _⟩, _⟩, _⟩, _⟩, _⟩ := noIssue
  have noBlocker : input.unresolvedBlockers = [] := by simpa [completionProofOf] using blockers
  refine ⟨rfl, noBlocker, ?_, assigned, chain, input.records.verifications.find? fun run =>
    matrixQualifies run input.finalIntegrationSha input.policy, mapped, walked, ?_⟩
  · have passed : input.passedVerifications ≠ [] := by
      intro none_
      simp only [completionProofOf, none_, ne_eq, not_true_eq_false, if_false] at verified
      split at verified
      · simp at verified
      · simp at verified
    obtain ⟨run, member⟩ := List.exists_mem_of_ne_nil _ passed
    obtain ⟨member, qualifies⟩ := List.mem_filter.1 member
    exact ⟨run, member, qualifies⟩
  · intro requirement member mandatory
    have issues := covered requirement ⟨member, mandatory⟩
    split at issues
    · cases issues
    · rename_i record found
      obtain ⟨covers, named⟩ := mapGet_some found
      obtain ⟨other, _, rfl⟩ := List.mem_map.1 covers
      rw [requirementCoverage_requirementId] at named
      refine ⟨other, named, ?_⟩
      simpa [issueIf_eq_nil] using issues

/-! ## The group -/

def PlanningProposal.OwnsMandatory (plan : PlanningProposal) (session : PlannedSession) : Prop :=
  session ∈ plan.sessions ∧ ∃ requirement ∈ plan.requirements,
    requirement.mandatory ∧ requirement.requirementId ∈ session.requirements

/-- The run has passed at a commit, under the policy of the plan, with all mandatory tests. -/
structure PassedAt (policy : DevelopmentGroupPolicy) (sha : String) (run : VerificationRun) :
    Prop where
  status : run.status = .passed
  commit : run.integrationSha = sha
  revision : run.policyRevision = policy.verificationPolicyRevision
  tests : ∀ id ∈ policy.mandatoryTests,
    (∃ command ∈ run.commands, command.required ∧ command.id = id) ∧
      ∃ result ∈ run.results, result.status = .passed ∧ result.commandId = id

/-- **The evidence on which a group is completed**, with the worlds in which the operation began and
ended. -/
structure CompleteEvidence (began ended : GroupWorld) (proof : GroupCompletionProof) : Prop where
  final : ended.lastMerged.map (·.headSha) = some proof.finalIntegrationSha
  chain : ∃ chain,
    HeadToBase (mergedMilestones ended.integrations) proof.finalIntegrationSha chain ∧
      ∀ session, ended.plan.OwnsMandatory session →
        ∃ delivery, ended.deliveries session.sessionId = some delivery ∧
          .gateVerdict delivery true ∈ ended.log.drop began.log.length ∧
          ∃ milestone ∈ chain, session.sessionId ∈ milestone.mergedSessionIds ∧
            delivery.deliveryHash ∈ milestone.deliveryHashes
  verified : ∃ run ∈ ended.verifications,
    PassedAt ended.plan.definition.policy proof.finalIntegrationSha run
  sessions : ∀ session ∈ ended.plan.sessions, ∀ runtime,
    ended.sessions session.sessionId = some runtime →
      runtime.status ≠ .outcomeUnknown ∧ runtime.status ≠ .blocked ∧ runtime.status ≠ .failed

theorem passedAt_of_verificationQualifies {run : VerificationRun} {policy : DevelopmentGroupPolicy}
    (qualifies : verificationQualifies run sha policy) :
    PassedAt policy sha run := by
  simp only [verificationQualifies, mandatoryTestsPassed, Bool.and_eq_true, decide_eq_true_eq,
    List.all_eq_true, List.any_eq_true] at qualifies
  obtain ⟨⟨⟨status, commit⟩, revision⟩, tests⟩ := qualifies
  exact ⟨status, commit, revision, tests⟩

theorem records_ok {host : RuntimeHost} {world : GroupWorld} {records : DurableGroupRecords}
    (found : world.records host = .ok records) :
    (∀ session ∈ world.plan.sessions, ∀ runtime, world.sessions session.sessionId = some runtime →
      runtime ∈ records.runtimes) ∧
      records.deliveries =
        world.plan.sessions.filterMap (fun session => world.deliveries session.sessionId) ∧
      (∀ record, record ∈ records.integrations ↔ record ∈ world.integrations) ∧
      ∀ run, run ∈ records.verifications ↔ run ∈ world.verifications := by
  unfold GroupWorld.records at found
  simp only [bind_ok, pure_ok] at found
  obtain ⟨runtimes, loaded, rfl⟩ := found
  refine ⟨?_, rfl, ?_, ?_⟩
  · intro session planned runtime stored
    obtain ⟨found, member, loads⟩ := mem_of_mapM_ok loaded planned
    rw [orError_ok, stored] at loads
    cases loads
    exact member
  · intro record
    exact (List.perm_insertionSort _ _).mem_iff
  · intro run
    exact (List.perm_insertionSort _ _).mem_iff

theorem records_congr {host : RuntimeHost} {parts : List WorldPart} {world after : GroupWorld}
    (frame : Frame parts world after) (noSession : .session ∉ parts)
    (noDelivery : .delivery ∉ parts) (noMilestone : .milestone ∉ parts) (noRun : .run ∉ parts) :
    after.records host = world.records host := by
  unfold GroupWorld.records
  rw [frame.plan, frame.session noSession, frame.delivery noDelivery, frame.milestone noMilestone,
    frame.run noRun, frame.failures, frame.repairs]

variable {host : RuntimeHost} {world : GroupWorld}

/-- **A snapshot** of a world whose head is known. -/
theorem stays_snapshot (known : HeadKnown world) (groupId : String) : Stays host HeadKnown
      (fun snapshot after => snapshot.Observes host after ∧ Frame snapshotParts world after)
      (snapshot groupId) world := by
  refine Stays.framed ?_ (touches_snapshot (List.Subset.refl snapshotParts) groupId)
  refine stays_next_read rfl known fun _ plan loaded => ?_
  have planned : plan = world.plan := by
    simp only [GroupWorld.answer] at loaded
    split at loaded
    · exact (Except.ok.inj loaded).symm
    · cases loaded
  refine (keeps_resumeGroup.framed (touches_resumeGroup (List.Subset.refl stateParts)) known).seq ?_
  intro _ resumed known frame
  refine stays_next_read rfl known fun _ isActive _ => ?_
  have repairs (session : PlannedSession) :
      Touches sessionParts (reconcileSession isActive session) :=
    touches_reconcileSession (List.Subset.refl sessionParts) isActive session
  refine ((keeps_forM fun session => keeps_headKnown (repairs session) (by decide)).framed
    (touches_forM repairs) known).seq ?_
  intro _ repaired known frame'
  rw [planned, ← frame.plan, ← frame'.plan]
  refine (stays_normalizeSnapshot known.kept known known.withTemporary ?_).mono
    (fun _ kept => kept) fun _ _ _ observed => observed.1
  intro records _
  exact known.withState rfl

/-- **A verdict of the gate** is added to the log. -/
theorem stays_verifyDelivery {inv : GroupWorld → Prop} {session : PlannedSession}
    {delivery : DevelopmentDelivery} (holds : inv world)
    (kept : ∀ environment, inv (world.answer host environment (.verifyDelivery session delivery)).2) :
    Stays host inv (fun (gate : GroupReply (.verifyDelivery session delivery)) after =>
        after.log = world.log ++ [.gateVerdict delivery gate.Accepts])
      (ask (.verifyDelivery session delivery)) world := by
  refine stays_ask holds fun environment => ⟨kept environment, ?_⟩
  intro gate
  simp only [GroupWorld.answer]
  split
  · intro same
    cases Except.ok.inj same
    rfl
  · intro same
    cases same

/-- **The verdicts on the deliveries** of a snapshot: a hash that is valid is that of a delivery that
the gate has just accepted. -/
theorem stays_validDeliveryHashes (known : HeadKnown world) (snapshot : GroupSnapshot)
    {start : Nat} (since : start ≤ world.log.length) :
    Stays host HeadKnown (fun hashes after => Frame evidenceParts world after ∧
        ∀ hash, some hash ∈ hashes → ∃ delivery ∈ snapshot.records.deliveries,
          delivery.deliveryHash = hash ∧ .gateVerdict delivery true ∈ after.log.drop start)
      (snapshot.records.deliveries.mapM (validDeliveryHash host snapshot)) world := by
  have looks (delivery : DevelopmentDelivery) :
      Touches evidenceParts (validDeliveryHash host snapshot delivery) :=
    touches_validDeliveryHash host (List.Subset.refl evidenceParts) snapshot delivery
  -- what the verdicts so far say, in a log that has grown
  have passes : Stays host HeadKnown (fun hashes after => start ≤ after.log.length ∧
        ∀ hash, some hash ∈ [] ++ hashes → ∃ delivery ∈ snapshot.records.deliveries,
          delivery.deliveryHash = hash ∧ .gateVerdict delivery true ∈ after.log.drop start)
      (snapshot.records.deliveries.mapM (validDeliveryHash host snapshot)) world := by
    apply stays_mapM fun hashes after => start ≤ after.log.length ∧
      ∀ hash, some hash ∈ hashes → ∃ delivery ∈ snapshot.records.deliveries,
        delivery.deliveryHash = hash ∧ .gateVerdict delivery true ∈ after.log.drop start
    · rintro delivery member hashes world known ⟨since, verdicts⟩
      unfold validDeliveryHash
      split
      · refine stays_pure known ⟨since, ?_⟩
        intro hash among
        exact verdicts hash (by simpa using among)
      · refine (stays_given known).seq ?_
        rintro session world known ⟨_, rfl⟩
        refine (stays_verifyDelivery known fun environment => known.answer host environment
          (by simp)).seq ?_
        intro gate after known grown
        have still : after.log.drop start =
            world.log.drop start ++ [.gateVerdict delivery gate.Accepts] := by
          rw [grown, List.drop_append_of_le_length since]
        refine stays_pure known ⟨?_, ?_⟩
        · rw [grown, List.length_append]
          omega
        · intro hash among
          rw [still]
          rcases List.mem_append.1 among with earlier | now
          · obtain ⟨other, member, same, verdict⟩ := verdicts hash earlier
            exact ⟨other, member, same, List.mem_append_left _ verdict⟩
          · split at now
            · rename_i accepts
              cases Option.some.inj (List.mem_singleton.1 now)
              refine ⟨delivery, member, rfl, List.mem_append_right _ ?_⟩
              simp [accepts]
            · cases List.mem_singleton.1 now
    · exact known
    · exact ⟨since, by simp⟩
  refine (passes.framed (touches_mapM looks)).mono (fun _ kept => kept) ?_
  rintro hashes after _ ⟨⟨_, verdicts⟩, frame⟩
  exact ⟨frame, verdicts⟩

/-- What a proof is built from, as the facade makes it. -/
def completionInput (groupId : String) (snapshot : GroupSnapshot) (hashes : List (Option String))
    (sha : String) : CompletionInput where
  groupId := groupId
  policy := snapshot.plan.definition.policy
  requirements := snapshot.plan.requirements
  sessions := snapshot.plan.sessions
  records := snapshot.records
  validDeliveryHashes := hashes.filterMap id
  finalIntegrationSha := sha
  unresolvedBlockers := snapshot.state.unresolvedBlockers

structure BuiltOn (host : RuntimeHost) (groupId : String) (start : Nat) (after : GroupWorld)
    (result : GroupCompletionProof × List ValidationIssue) (snapshot : GroupSnapshot)
    (hashes : List (Option String)) (sha : String) : Prop where
  observes : snapshot.Observes host after
  final : finalSha snapshot = some sha
  verdicts : ∀ hash, some hash ∈ hashes → ∃ delivery ∈ snapshot.records.deliveries,
    delivery.deliveryHash = hash ∧ .gateVerdict delivery true ∈ after.log.drop start
  built : buildCompletionProof (completionInput groupId snapshot hashes sha) = .ok result

variable {snapshot : GroupSnapshot}

theorem GroupSnapshot.Observes.frame {after : GroupWorld} (observes : snapshot.Observes host world)
    (frame : Frame evidenceParts world after) :
    snapshot.Observes host after where
  plan := observes.plan.trans frame.plan.symm
  state := observes.state.trans (frame.state (by decide)).1.symm
  records := by
    rw [records_congr frame (by decide) (by decide) (by decide) (by decide)]
    exact observes.records
  normal := observes.normal

/-- **The building of a proof.** -/
theorem stays_completionProof (known : HeadKnown world) (groupId : String) : Stays host HeadKnown
      (fun result after => Frame [.nothing, .state, .session, .log] world after ∧
        ∃ snapshot hashes sha,
          BuiltOn host groupId world.log.length after result snapshot hashes sha)
      (completionProof host groupId) world := by
  refine (stays_snapshot known groupId).seq ?_
  rintro snapshot observed known ⟨observes, frame⟩
  have logged : observed.log = world.log := frame.log (by decide)
  refine (stays_demand known).seq ?_
  rintro sha observed known ⟨final, rfl⟩
  refine (stays_validDeliveryHashes known snapshot (le_of_eq (congrArg List.length logged.symm))).seq ?_
  rintro hashes verified known ⟨frame', verdicts⟩
  refine (stays_given known).mono (fun _ kept => kept) ?_
  rintro result after _ ⟨built, rfl⟩
  exact ⟨(frame.mono (by decide)).trans (frame'.mono (by decide)), snapshot, hashes, sha,
    observes.frame frame', final, verdicts, built⟩

def GroupWorld.HashesDiffer (world : GroupWorld) : Prop :=
  ∀ session ∈ world.plan.sessions, ∀ session' ∈ world.plan.sessions,
    ∀ delivery ∈ world.deliveries session.sessionId,
      ∀ delivery' ∈ world.deliveries session'.sessionId,
        delivery.deliveryHash = delivery'.deliveryHash → session.sessionId = session'.sessionId

instance (world : GroupWorld) : Decidable world.HashesDiffer :=
  inferInstanceAs (Decidable (∀ session ∈ world.plan.sessions, _))

theorem HeadToBase.congr {merged merged' chain : List IntegrationMilestone}
    (linked : HeadToBase merged sha chain) (same : ∀ record, record ∈ merged ↔ record ∈ merged') :
    HeadToBase merged' sha chain := by
  induction linked with
  | base absent => exact .base fun record member => absent record ((same record).2 member)
  | link member below ih => exact .link ((same _).1 member) ih

theorem GroupSnapshot.Observes.delivery (observes : snapshot.Observes host world) (kept : WellKept world)
    {delivery : DevelopmentDelivery} (member : delivery ∈ snapshot.records.deliveries) :
    ∃ session ∈ world.plan.sessions, session.sessionId = delivery.sessionId ∧
      world.deliveries session.sessionId = some delivery := by
  rw [(records_ok observes.records).2.1] at member
  obtain ⟨session, planned, stored⟩ := List.mem_filterMap.1 member
  exact ⟨session, planned, (kept.delivery _ _ stored).symm, stored⟩

/-- **The final commit** of a group whose head is settled. -/
theorem GroupSnapshot.Observes.final (observes : snapshot.Observes host world) (known : HeadKnown world)
    (settled : world.headIsPending = false) (final : finalSha snapshot = some sha) :
    world.lastMerged.map (·.headSha) = some sha := by
  have head := known.head settled
  rw [← observes.state] at head
  unfold finalSha at final
  rw [head] at final
  cases last : world.lastMerged with
  | some milestone =>
    rw [last] at final
    exact (Option.filter_eq_some_iff.1 final).1
  | none =>
    -- without a merged milestone, none is observed
    have nothing : mergedMilestones world.integrations = [] := List.getLast?_eq_none_iff.1 last
    have unmerged : snapshot.records.integrations.filter (·.status = .merged) = [] := by
      refine List.filter_eq_nil_iff.2 fun record member => ?_
      have there := ((records_ok observes.records).2.2.1 record).1 member
      exact List.filter_eq_nil_iff.1 nothing record there
    rw [last, unmerged] at final
    cases final

/-- **A proof without issues rests on evidence**, where the head is known and settled and hashes
differ. -/
theorem completeEvidence_of_builtOn {began after : GroupWorld} {groupId : String}
    {result : GroupCompletionProof × List ValidationIssue} {proof : GroupCompletionProof}
    {hashes : List (Option String)} (known : HeadKnown after) (settled : after.headIsPending = false)
    (differ : after.HashesDiffer)
    (basis : BuiltOn host groupId began.log.length after result snapshot hashes sha)
    (completable : assertGroupCompletable result = .ok proof) :
    CompleteEvidence began after proof := by
  obtain ⟨same, noBlocker, ⟨run, among, qualifies⟩, assigned, chain, verification, mapped, walked,
    covered⟩ := buildCompletionProof_complete basis.built completable
  obtain ⟨runtimes, deliveries, integrations, verifications⟩ := records_ok basis.observes.records
  have planned := basis.observes.plan
  refine ⟨?_, ?_, ?_, ?_⟩
  · rw [same]
    exact basis.observes.final known settled basis.final
  · obtain ⟨milestones, walk, rfl⟩ := finalIntegrationRunIds_ok.1 walked
    have linked : HeadToBase (mergedMilestones after.integrations) sha milestones := by
      refine (finalIntegrationChain_ok walk).congr fun record => ?_
      unfold mergedMilestones
      rw [List.mem_filter, List.mem_filter]
      exact and_congr_left' (integrations record)
    refine ⟨milestones, same ▸ linked, ?_⟩
    rw [← planned]
    rintro session ⟨member, requirement, required, mandatory, owned⟩
    obtain ⟨other, named, isVerified⟩ := covered requirement required mandatory
    have owner := sessionByRequirement_lookup mapped member owned
    rw [← named] at owner
    obtain ⟨delivery, milestone, delivered, valid, there, contained, merges, delivers⟩ :=
      requirementCoverage_verified isVerified owner
    obtain ⟨among, rightly⟩ := mapGet_some delivered
    obtain ⟨owner, ours, name, durable⟩ := basis.observes.delivery known.kept among
    rw [name, rightly] at durable
    refine ⟨delivery, durable, ?_, milestone, ?_, merges, delivers⟩
    · obtain ⟨_, found, rfl⟩ := List.mem_filterMap.1 valid
      obtain ⟨accepted, among', hash, verdict⟩ := basis.verdicts _ found
      obtain ⟨other, others, _, durable'⟩ := basis.observes.delivery known.kept among'
      have one := differ other others session (planned ▸ member) accepted durable' delivery durable
        hash
      rw [one, durable] at durable'
      cases durable'
      exact verdict
    · obtain ⟨linkedOne, inChain, id⟩ := List.mem_map.1 contained
      have merged := List.mem_of_mem_filter (linked.subset inChain)
      have unique := List.inj_on_of_nodup_map known.kept.milestone merged
        ((integrations milestone).1 there) id
      rwa [unique] at inChain
  · refine ⟨run, (verifications run).1 among, ?_⟩
    rw [← planned, same]
    exact passedAt_of_verificationQualifies qualifies
  · intro session member runtime stored
    have among := runtimes session member runtime stored
    have open_ : runtime.status.isBlocking = false := by
      by_contra blocks
      have blocker := sessionBlocker_mem among (by simpa using blocks)
      have normal := congrArg DevelopmentGroupRuntimeState.unresolvedBlockers basis.observes.normal
      have listed : currentBlockers snapshot.records = [] := normal.symm.trans noBlocker
      rw [listed] at blocker
      cases blocker
    cases status : runtime.status <;> simp_all [DevelopmentSessionStatus.isBlocking]

theorem CompleteEvidence.frame {began between after : GroupWorld} {proof : GroupCompletionProof}
    (evidence : CompleteEvidence began between proof) (frame : Frame controlParts between after) :
    CompleteEvidence began after proof := by
  have milestones := frame.milestone (by decide)
  refine ⟨?_, ?_, ?_, ?_⟩
  · rw [GroupWorld.lastMerged, milestones]
    exact evidence.final
  · rw [milestones, frame.plan, frame.delivery (by decide), frame.log (by decide)]
    exact evidence.chain
  · rw [frame.run (by decide), frame.plan]
    exact evidence.verified
  · rw [frame.plan, frame.session (by decide)]
    exact evidence.sessions

/-- **Completing a group**: the proof that is returned rests on evidence. -/
theorem stays_completeGroup (known : HeadKnown world) (settled : world.headIsPending = false)
    (differ : world.HashesDiffer) (groupId : String) :
    Stays host HeadKnown (fun proof after => CompleteEvidence world after proof)
      (completeGroup host groupId) world := by
  refine (stays_completionProof known groupId).seq ?_
  rintro result built known ⟨frame, snapshot, hashes, sha, basis⟩
  refine (stays_given known).seq ?_
  rintro proof built known ⟨completable, rfl⟩
  have differ' : built.HashesDiffer := by
    unfold GroupWorld.HashesDiffer
    rw [frame.delivery (by decide), frame.plan]
    exact differ
  have evidence := completeEvidence_of_builtOn known (frame.settled (by decide) settled) differ'
    basis completable
  refine ((keeps_record groupId _).framed (touches_record (List.Subset.refl controlParts)
    groupId _) known).seq ?_
  intro _ recorded known frame
  exact stays_pure known (evidence.frame frame)

/-! ## Runs -/

/-- One operation at a time; a group is completed where no merged milestone waits for the state and
the hashes of the deliveries differ. -/
def CompletesOnSettled (pool : StrandPool GroupWorld GroupCall GroupReply GroupError GroupReturn
    GroupOperation) : StrandInput GroupOperation GroupEnvironment → Prop
  | .begin .completeGroup => pool.strands = [] ∧ pool.world.headIsPending = false ∧
      pool.world.HashesDiffer
  | .begin _ => pool.strands = []
  | .turn _ _ | .stop => True

def CompletesRightly (operation : GroupOperation) (began : GroupWorld)
    (outcome : Program.Outcome GroupError GroupReturn) (ended : GroupWorld) : Prop :=
  HeadKnown ended ∧ ∀ proof, operation = .completeGroup → outcome = .returned (.proof proof) →
    CompleteEvidence began ended proof

theorem headKnown_created (plan : PlanningProposal) (repository : IntegrationRepository) :
    HeadKnown (.created plan repository) := by
  refine ⟨⟨by simp [GroupWorld.created], ?_, by simp [GroupWorld.created], by
    simp [GroupWorld.created]⟩, fun _ => rfl⟩
  intro sessionId runtime stored
  obtain ⟨session, planned, rfl⟩ := Option.map_eq_some_iff.1 stored
  exact (mapGet_some planned).2

theorem HeadKnown.restarted (known : HeadKnown world) : HeadKnown world.restarted :=
  ⟨⟨known.kept.temporary, known.kept.session, known.kept.delivery, known.kept.milestone⟩,
    known.head⟩

def commitNamed (character : Char) : String := String.ofList (List.replicate 40 character)

def soleSession (name : String) : PlannedSession where
  groupId := "g"
  sessionId := name
  executionId := name
  baselineSha := commitNamed '0'
  branch := name
  worktree := name
  ownedPaths := [name]
  readOnlyPaths := []
  forbiddenPaths := []
  requirements := [name]
  permissionProfile := .standard
  deliveryPolicy := ⟨true, true, true, true⟩
  waveId := "w"
  integrationRef := "main"
  dependencies := []
  executorId := "x"

/-- Two sessions in one wave; the requirement of the first one is mandatory. -/
def pairPlan : PlanningProposal where
  definition := ⟨"g", "p", "r", ⟨2, 2, .strict, "v", ["t"]⟩⟩
  requirements := [⟨"a", true⟩, ⟨"b", false⟩]
  sessions := [soleSession "a", soleSession "b"]
  waves := [⟨"w", 1, ["a", "b"], ["a", "b"], []⟩]

/-- Their branches, on one base. -/
def pairRepository : IntegrationRepository where
  head := commitNamed '0'
  commits := [commitNamed '0', commitNamed 'a', commitNamed 'b']
  branchHeads branch :=
    if branch = "a" then some (commitNamed 'a')
    else if branch = "b" then some (commitNamed 'b')
    else none
  contained sha := [sha, commitNamed '0']

/-- A host that hashes nothing. -/
def nameHost : RuntimeHost where
  localeCompare left right := compare left right
  sha256 text := text
  resolveWorktree _ worktree := worktree

def soleDelivery (name : String) (character : Char) : DevelopmentDelivery where
  contract := developmentDeliveryContract
  groupId := "g"
  sessionId := name
  executionId := name
  status := .completed
  baseSha := commitNamed '0'
  headSha := commitNamed character
  changedPaths := [name]
  requirements := [name]
  testsAdded := []
  testsExecuted := []
  artifacts := []
  knownIssues := []
  downstreamNotes := []
  handoffCheckpoint := none
  deliveryHash := name
  createdAt := "t"

/-- An environment in which everything goes well, and nothing is delivered or merged. -/
def calm : GroupEnvironment where
  now := "t"
  randomUUID := "u"
  platform := .linux
  start := .ok ⟨"x", "y", 1⟩
  prompt := .finished
  active := none
  acknowledged := .ok ()
  gate := .ok ⟨[], none, none, [], false, none, none⟩
  delivery := .error "nothing is delivered"
  branch := .ok "main"
  clean := .ok true
  gitFailure := none
  merge := .conflict "nothing is merged"
  check := .ok none
  commands := .ok [⟨"t", "test", none, none, true⟩]
  run := .ok (0, [])

def succeeding : GroupEnvironment := { calm with prompt := .event ⟨1, .completed "succeeded"⟩ }

/-- A delivery can be made. -/
def delivering (name : String) (character : Char) : GroupEnvironment :=
  { calm with delivery := .ok (soleDelivery name character) }

def merging (character : Char) : GroupEnvironment :=
  { calm with merge := .commit (commitNamed character) }

def serving (operation : GroupOperation) (turns : Nat) (environment : GroupEnvironment) :
    List (StrandInput GroupOperation GroupEnvironment) :=
  .begin operation :: List.replicate turns (.turn 0 environment)

/-- Both sessions deliver, the first one is integrated and verified, and the second one is being
integrated for some turns. -/
def pairIntegrating (turns : Nat) : List (StrandInput GroupOperation GroupEnvironment) :=
  serving (.startWave "w") 50 calm ++
    serving (.promptTurn "a") 5 succeeding ++ serving (.promptTurn "a") 18 (delivering "a" 'a') ++
    serving (.promptTurn "b") 5 succeeding ++ serving (.promptTurn "b") 18 (delivering "b" 'b') ++
    serving (.integrateDelivery "a") 41 (merging '1') ++ serving (.runVerification none) 39 calm ++
    serving (.integrateDelivery "b") turns (merging '2')

/-- The final commits of the proofs of a run, each with the head that was merged last. -/
def provenHeads (history : List (StrandInput GroupOperation GroupEnvironment ×
    Option (StrandEnding GroupWorld GroupError GroupReturn GroupOperation))) :
    List (String × Option String) :=
  history.filterMap fun entry =>
    match entry.2 with
    | some ⟨.completeGroup, _, ended, .ok (.proof proof)⟩ =>
      some (proof.finalIntegrationSha, ended.lastMerged.map (·.headSha))
    | _ => none

/-- The run of the two sessions. -/
abbrev pairRun (inputs : List (StrandInput GroupOperation GroupEnvironment)) :=
  (groupHost nameHost "g").machine.exec ⟨.created pairPlan pairRepository, []⟩ inputs

instance (pool : StrandPool GroupWorld GroupCall GroupReply GroupError GroupReturn GroupOperation)
    (input : StrandInput GroupOperation GroupEnvironment) :
    Decidable (CompletesOnSettled pool input) := by
  unfold CompletesOnSettled
  split <;> infer_instance

theorem mem_provenHeads {history : List (StrandInput GroupOperation GroupEnvironment ×
      Option (StrandEnding GroupWorld GroupError GroupReturn GroupOperation))} {last : Option String}
    (member : (sha, last) ∈ provenHeads history) :
    ∃ input ending proof, (input, some ending) ∈ history ∧ ending.operation = .completeGroup ∧
      ending.outcome = .ok (.proof proof) ∧ proof.finalIntegrationSha = sha ∧
      ending.ended.lastMerged.map (·.headSha) = last := by
  obtain ⟨⟨input, served⟩, among, said⟩ := List.mem_filterMap.1 member
  dsimp only at said
  split at said
  · rename_i began ended proof
    cases said
    exact ⟨input, ⟨.completeGroup, began, ended, .ok (.proof proof)⟩, proof, among, rfl, rfl, rfl,
      rfl⟩
  · cases said

end Zero3Pilot.GroupRuntime
