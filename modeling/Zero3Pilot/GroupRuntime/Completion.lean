import Zero3Pilot.GroupRuntime.Records

/-! # The completion proof

`completion/requirement-matrix.ts`, `completion/completion-proof.ts`, and what `validators.ts` checks
of a proof. The runtime gives no waivers. -/

namespace Zero3Pilot.GroupRuntime

/-! ## The chain of merged milestones -/

def addHead (message : String) (byHead : List IntegrationMilestone) (record : IntegrationMilestone) :
    Except String (List IntegrationMilestone) := do
  ensure ((mapGet (·.headSha) byHead record.headSha).all fun existing =>
    existing.integrationRunId = record.integrationRunId) message
  return byHead ++ [record]

def integrationByHead (records : List IntegrationMilestone) :
    Except String (List IntegrationMilestone) :=
  (records.filter (·.status = .merged)).foldlM (fun byHead record =>
    addHead s!"ambiguous merged IntegrationMilestone head {record.headSha}" byHead record) []

/-- The walk from a head to the bases. One that has visited more heads than there are milestones has come
to one of them again. -/
def chainFrom (cycle : String → String) (byHead : List IntegrationMilestone) :
    Nat → List String → String → Except String (List IntegrationMilestone)
  | fuel, visited, cursor =>
    if visited.contains cursor then .error (cycle cursor)
    else
      match mapGet (·.headSha) byHead cursor with
      | none => .ok []
      | some record =>
        match fuel with
        | 0 => .error (cycle record.baseSha)
        | fuel + 1 => do
          let rest ← chainFrom cycle byHead fuel (cursor :: visited) record.baseSha
          return record :: rest

def finalIntegrationChain (integrations : List IntegrationMilestone) (finalSha : String) :
    Except String (List IntegrationMilestone) := do
  let byHead ← integrationByHead integrations
  chainFrom (fun cursor => s!"Integration ancestry cycle at {cursor}") byHead byHead.length []
    finalSha

def finalIntegrationRunIds (integrations : List IntegrationMilestone)
    (finalIntegrationSha : String) : Except String (List String) := do
  let byHead ← integrationByHead integrations
  let chain ← chainFrom (fun cursor => s!"IntegrationMilestone ancestry cycle at {cursor}") byHead
    byHead.length [] finalIntegrationSha
  return chain.map (·.integrationRunId)

/-! ## The evidence matrix -/

inductive RequirementCoverageState where
  | planned
  | assigned
  | implemented
  | tested
  | integrated
  | verified
  | blocked
  deriving DecidableEq

def RequirementCoverageState.text : RequirementCoverageState → String
  | planned => "planned"
  | assigned => "assigned"
  | implemented => "implemented"
  | tested => "tested"
  | integrated => "integrated"
  | verified => "verified"
  | blocked => "blocked"

structure RequirementCoverage where
  requirementId : String
  state : RequirementCoverageState
  (sessionId deliveryHash commitSha : Option String)
  testEvidenceIds : List String
  (integrationRunId verificationRunId : Option String)

def mandatoryTestsPassed (run : VerificationRun) (mandatoryTests : List String) : Bool :=
  mandatoryTests.all fun id =>
    (run.commands.any fun command => command.required && command.id = id) &&
      run.results.any fun result => result.status = .passed && result.commandId = id

def matrixQualifies (run : VerificationRun) (finalIntegrationSha : String)
    (policy : DevelopmentGroupPolicy) : Bool :=
  run.status = .passed && run.integrationSha = finalIntegrationSha &&
    (policy.verificationPolicyRevision = "" ||
      run.policyRevision = policy.verificationPolicyRevision) &&
    mandatoryTestsPassed run policy.mandatoryTests

def verificationQualifies (run : VerificationRun) (finalIntegrationSha : String)
    (policy : DevelopmentGroupPolicy) : Bool :=
  run.status = .passed && run.integrationSha = finalIntegrationSha &&
    run.policyRevision = policy.verificationPolicyRevision &&
    mandatoryTestsPassed run policy.mandatoryTests

/-- What a proof is built from. -/
structure CompletionInput where
  groupId : String
  policy : DevelopmentGroupPolicy
  requirements : List DevelopmentRequirement
  sessions : List PlannedSession
  records : DurableGroupRecords
  validDeliveryHashes : List String
  finalIntegrationSha : String
  unresolvedBlockers : List String

def sessionByRequirement (sessions : List PlannedSession) :
    Except String (List (String × PlannedSession)) :=
  (sessions.flatMap fun session => session.requirements.map fun requirement =>
    (requirement, session)).foldlM (fun assigned entry => do
      ensure (assigned.lookup entry.1 = none)
        s!"Requirement {entry.1} is assigned to multiple Sessions"
      return assigned ++ [entry]) []

def testEvidenceIds (delivery : DevelopmentDelivery) : List String :=
  delivery.testsExecuted.zipIdx.map fun (test, index) =>
    s!"{delivery.deliveryHash}:test:{index}:{test}"

def deliveryCoverage (input : CompletionInput) (chain : List String)
    (verification : Option VerificationRun) (requirementId : String) (session : PlannedSession)
    (delivery : DevelopmentDelivery) : RequirementCoverage :=
  let base : RequirementCoverage := {
    requirementId
    state := if delivery.status = .completed then .implemented else .blocked
    sessionId := some session.sessionId
    deliveryHash := some delivery.deliveryHash
    commitSha := some delivery.headSha
    testEvidenceIds := testEvidenceIds delivery
    integrationRunId := none
    verificationRunId := none }
  if delivery.status ≠ .completed || !input.validDeliveryHashes.contains delivery.deliveryHash then
    base
  else
    let tested := if testEvidenceIds delivery = [] then base else { base with state := .tested }
    match input.records.integrations.find? fun record =>
        chain.contains record.integrationRunId &&
          record.mergedSessionIds.contains session.sessionId &&
          record.deliveryHashes.contains delivery.deliveryHash with
    | none => tested
    | some integration =>
      let integrated := { tested with
        state := .integrated, integrationRunId := some integration.integrationRunId }
      match verification with
      | none => integrated
      | some run =>
        { integrated with state := .verified, verificationRunId := some run.verificationRunId }

def requirementCoverage (input : CompletionInput) (assigned : List (String × PlannedSession))
    (chain : List String) (verification : Option VerificationRun)
    (requirement : DevelopmentRequirement) : RequirementCoverage :=
  match assigned.lookup requirement.requirementId with
  | none => ⟨requirement.requirementId, .planned, none, none, none, [], none, none⟩
  | some session =>
    match mapGet (·.sessionId) input.records.deliveries session.sessionId with
    | none =>
      ⟨requirement.requirementId, .assigned, some session.sessionId, none, none, [], none, none⟩
    | some delivery =>
      deliveryCoverage input chain verification requirement.requirementId session delivery

def buildRequirementEvidenceMatrix (input : CompletionInput) :
    Except String (List RequirementCoverage) := do
  let assigned ← sessionByRequirement input.sessions
  let chain ← finalIntegrationRunIds input.records.integrations input.finalIntegrationSha
  let verification := input.records.verifications.find? fun run =>
    matrixQualifies run input.finalIntegrationSha input.policy
  return input.requirements.map (requirementCoverage input assigned chain verification)

/-! ## The proof -/

def groupCompletionProofContract : String := "zero3.pilot.group-completion-proof.v1"

structure SessionDeliveryCoverage where
  (sessionId deliveryHash : String)
  valid : Bool

inductive ProofIntegrationStatus where
  | clean
  | conflict
  | failed
  deriving DecidableEq

inductive ProofVerificationStatus where
  | passed
  | failed
  | notRun
  deriving DecidableEq

structure GroupCompletionProof where
  (contract groupId : String)
  requirementCoverage : List RequirementCoverage
  sessionDeliveryCoverage : List SessionDeliveryCoverage
  integrationStatus : ProofIntegrationStatus
  verificationStatus : ProofVerificationStatus
  unresolvedBlockers : List String
  outcomeUnknownCount : Nat
  finalIntegrationSha : String
  verificationEvidence : List String
  completionPolicyRevision : String

def CompletionInput.passedVerifications (input : CompletionInput) : List VerificationRun :=
  input.records.verifications.filter fun run =>
    verificationQualifies run input.finalIntegrationSha input.policy

def CompletionInput.deliveryOf (input : CompletionInput) (session : PlannedSession) :
    SessionDeliveryCoverage :=
  match mapGet (·.sessionId) input.records.deliveries session.sessionId with
  | none => ⟨session.sessionId, "", false⟩
  | some delivery =>
    ⟨session.sessionId, delivery.deliveryHash,
      delivery.status = .completed && input.validDeliveryHashes.contains delivery.deliveryHash⟩

def completionProofOf (input : CompletionInput) (matrix : List RequirementCoverage) :
    GroupCompletionProof where
  contract := groupCompletionProofContract
  groupId := input.groupId
  requirementCoverage := matrix
  sessionDeliveryCoverage := input.sessions.map input.deliveryOf
  integrationStatus :=
    if input.records.integrations.any fun record =>
      record.status = .merged && record.headSha = input.finalIntegrationSha then .clean
    else if input.records.integrations.any fun record =>
      record.status = .conflict && record.headSha = input.finalIntegrationSha then .conflict
    else .failed
  verificationStatus :=
    if input.passedVerifications ≠ [] then .passed
    else if input.records.verifications.any fun run =>
      run.integrationSha = input.finalIntegrationSha then .failed
    else .notRun
  unresolvedBlockers := input.unresolvedBlockers
  outcomeUnknownCount := (input.records.runtimes.filter (·.status = .outcomeUnknown)).length
  finalIntegrationSha := input.finalIntegrationSha
  verificationEvidence := input.passedVerifications.map (·.verificationRunId)
  completionPolicyRevision := input.policy.verificationPolicyRevision

def validateGroupCompletionProof (proof : GroupCompletionProof)
    (requirements : List DevelopmentRequirement) (deliveries : List DevelopmentDelivery)
    (verificationRuns : List VerificationRun) : List ValidationIssue :=
  issueIf (proof.contract ≠ groupCompletionProofContract) "unsupported_contract" "proof.contract"
      "completion proof contract is unsupported" ++
    issueIf (!isSha proof.finalIntegrationSha) "invalid_integration_sha"
      "proof.finalIntegrationSha" "completion proof requires an exact integration SHA" ++
    issueIf (proof.integrationStatus ≠ .clean) "integration_not_clean" "proof.integrationStatus"
      "completion requires a clean integration" ++
    issueIf (proof.verificationStatus ≠ .passed) "verification_not_passed"
      "proof.verificationStatus" "completion requires passed verification" ++
    issueIf (!proof.unresolvedBlockers.isEmpty) "unresolved_blocker" "proof.unresolvedBlockers"
      "completion cannot contain unresolved blockers" ++
    issueIf (proof.outcomeUnknownCount ≠ 0) "outcome_unknown" "proof.outcomeUnknownCount"
      "completion cannot contain OutcomeUnknown" ++
    issueIf (!nonEmpty proof.completionPolicyRevision) "missing_policy_revision"
      "proof.completionPolicyRevision" "completion policy revision is required" ++
    ((requirements.filter (·.mandatory)).flatMap fun requirement =>
      match mapGet (·.requirementId) proof.requirementCoverage requirement.requirementId with
      | none =>
        [⟨"missing_requirement_coverage", s!"proof.requirementCoverage.{requirement.requirementId}",
          "mandatory requirement has no completion coverage"⟩]
      | some record =>
        issueIf (record.state ≠ .verified) "mandatory_unverified"
          s!"proof.requirementCoverage.{requirement.requirementId}"
          s!"mandatory requirement is {record.state.text}") ++
    (proof.sessionDeliveryCoverage.flatMap fun coverage =>
      issueIf (!coverage.valid ||
          (mapGet (·.deliveryHash) deliveries coverage.deliveryHash).all fun delivery =>
            delivery.status ≠ .completed)
        "invalid_delivery" s!"proof.sessionDeliveryCoverage.{coverage.sessionId}"
        "completion references an invalid or non-completed delivery") ++
    issueIf (proof.verificationEvidence.isEmpty) "missing_verification_evidence"
      "proof.verificationEvidence" "completion requires verification evidence" ++
    proof.verificationEvidence.flatMap fun verificationRunId =>
      issueIf ((mapGet (·.verificationRunId) verificationRuns verificationRunId).all fun run =>
          run.status ≠ .passed || run.integrationSha ≠ proof.finalIntegrationSha)
        "invalid_verification_evidence" s!"proof.verificationEvidence.{verificationRunId}"
        "verification evidence must be passed and bound to the final integration SHA"

def buildCompletionProof (input : CompletionInput) :
    Except String (GroupCompletionProof × List ValidationIssue) := do
  let matrix ← buildRequirementEvidenceMatrix input
  let proof := completionProofOf input matrix
  return (proof, validateGroupCompletionProof proof input.requirements input.records.deliveries
        input.records.verifications ++
      (proof.sessionDeliveryCoverage.flatMap fun coverage =>
        issueIf (!coverage.valid) "missing_session_delivery"
          s!"proof.sessionDeliveryCoverage.{coverage.sessionId}"
          "every planned Development Session requires one valid completed Delivery") ++
      issueIf ((input.records.verifications.any fun run =>
          run.integrationSha = input.finalIntegrationSha && run.status = .passed) &&
            input.passedVerifications.isEmpty)
        "verification_policy_mismatch" "proof.verificationEvidence"
        "passed verification does not satisfy the current policy revision and mandatory test set")

def assertGroupCompletable (result : GroupCompletionProof × List ValidationIssue) :
    Except String GroupCompletionProof := do
  ensure (result.2 = []) ("Development Group is not complete: " ++
    ", ".intercalate (result.2.map fun issue => s!"{issue.code}@{issue.path}"))
  return result.1

end Zero3Pilot.GroupRuntime
