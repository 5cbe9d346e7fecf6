import Zero3Pilot.AgentRouting.VerificationCollector

/-! # Authoritative results

`authoritative-result-finalizer.ts`: what a provider says of a task becomes a result only with what is
collected independently: Git, the hashes of the artifacts, and the verification of the task. What Git
and the hashes answer is given with the call. -/

namespace Zero3Pilot.AgentRouting

/-! ## The data -/

structure ArtifactRef where
  (artifactId kind pathOrUri hash : String)
  sourceProvider : Target
  sourceCycle : Int
  createdAt : String

structure ResultGit where
  (baseSha headSha commitSha branch : Option String)

/-- `Zero3GitEvidence`, as far as the finalizer looks at it. -/
structure AuthoritativeGit where
  headSha : String
  (baseSha branch : Option String)
  clean : Bool
  changedFiles : List String

/-- `Zero3ExecutionResultV2`, with all its members. -/
structure CandidateResult extends ExecutionResult where
  output : ScriptValue
  changedFiles : List String
  artifacts : List ArtifactRef
  git : Option ResultGit
  verification : List VerificationResult
  knownIssues : List String
  (usage timing : ScriptValue)
  completedAt : String

structure FinalizerAnswers where
  git : Except String AuthoritativeGit
  verifyArtifact : Nat → ArtifactRef → Except String Bool
  commands : Nat → Except String ScriptValue
  now : String

/-! ## What speaks against completion -/

def uniqueTexts (values : List String) : List String :=
  ((values.map scriptTrim).filter (· ≠ "")).eraseDups

/-- An optional text is there and not blank. -/
def isSaid (text : Option String) : Bool := text.any fun text => scriptTrim text ≠ ""

def verificationTruth (result : VerificationResult) : Option String :=
  if scriptTrim result.id = "" then some "verification result has no id"
  else
    match result.state with
    | .passed =>
      if isSaid result.evidence then none
      else some s!"{result.id}: PASSED lacks authoritative evidence"
    | .failed => none
    | .notRun | .blocked =>
      if isSaid result.reason then none
      else some s!"{result.id}: {result.state.text} lacks a reason"

/-- What the gates are checked against. -/
structure GateEvidence where
  git : Option AuthoritativeGit
  artifactsVerified : Bool
  verification : List VerificationResult
  summaryPresent : Bool

def failUnless (condition : Bool) (failure : String) : Option String :=
  if condition then none else some failure

def gateFailure (gate : String) (input : GateEvidence) : Option String :=
  if gate = "result.summary" then
    failUnless input.summaryPresent "result.summary requires a non-empty summary"
  else if gate = "git.clean" then
    failUnless (input.git.any (·.clean)) "git.clean requires a clean authoritative worktree"
  else if gate = "git.base-bound" then
    failUnless (input.git.any fun git => git.baseSha.any (· ≠ ""))
      "git.base-bound requires a resolved authoritative base SHA"
  else if gate = "artifact.hashes" then
    failUnless input.artifactsVerified
      "artifact.hashes requires every declared artifact hash to verify"
  else if gate = "verification.no-failures" then
    failUnless (!input.verification.any fun value => value.state = .failed || value.state = .blocked)
      "verification.no-failures failed"
  else if gate = "verification.all-passed" then
    failUnless (0 < input.verification.length &&
        input.verification.all fun value => value.state = .passed)
      "verification.all-passed requires at least one verification result and all results PASSED"
  else
    match input.verification.find? fun value => value.id = gate with
    | none => some s!"unknown completion gate or missing verification evidence: {gate}"
    | some matching =>
      failUnless (matching.state = .passed) s!"{gate} is {matching.state.text}, not PASSED"

/-! ## The finalizer -/

variable (coerce : Json → Option Int)

def artifactVerified (answers : FinalizerAnswers) (artifact : ArtifactRef) (index : Nat) : Bool :=
  match answers.verifyArtifact index artifact with
  | .ok verified => verified
  | .error _ => false

def invalidArtifacts (answers : FinalizerAnswers) (candidate : CandidateResult) : List String :=
  (candidate.artifacts.zipIdx.filter fun (artifact, index) =>
    !artifactVerified answers artifact index).map fun (artifact, _) => artifact.artifactId

def collectGit (answers : FinalizerAnswers) (task : GatedTask) :
    Except String (Option AuthoritativeGit) := do
  if task.hasWorktree then return some (← answers.git) else return none

def gateEvidence (answers : FinalizerAnswers) (candidate : CandidateResult)
    (git : Option AuthoritativeGit) (verification : List VerificationResult) : GateEvidence :=
  ⟨git, (invalidArtifacts answers candidate).isEmpty, verification, scriptTrim candidate.summary ≠ ""⟩

def finalBlockers (answers : FinalizerAnswers) (task : GatedTask) (candidate : CandidateResult)
    (git : Option AuthoritativeGit) (verification : List VerificationResult) : List String :=
  uniqueTexts (candidate.blockers ++ verification.filterMap verificationTruth ++
    (invalidArtifacts answers candidate).map (s!"artifact hash verification failed: {·}") ++
    task.completionGate.filterMap fun gate =>
      gateFailure gate (gateEvidence answers candidate git verification))

def nextStatus (status : ResultStatus) (cannotComplete : Bool) : ResultStatus :=
  if status = .failed then .failed
  else if status = .blocked || cannotComplete then .blocked
  else status

/-- The result of what was collected. -/
def finalResult (answers : FinalizerAnswers) (task : GatedTask) (candidate : CandidateResult)
    (git : Option AuthoritativeGit) (verification : List VerificationResult) : CandidateResult :=
  let blockers := finalBlockers answers task candidate git verification
  let status := nextStatus candidate.status (0 < blockers.length)
  { candidate with
    status
    changedFiles := (git.map (·.changedFiles)).getD []
    git :=
      match git with
      | some git =>
        some ⟨git.baseSha, some git.headSha, if git.clean then some git.headSha else none,
          git.branch⟩
      | none => candidate.git
    verification
    blockers
    recommendedAction :=
      if status = .complete || status = .partialResult then candidate.recommendedAction
      else .humanReview
    completedAt := answers.now }

def finalize (answers : FinalizerAnswers) (task : GatedTask) (candidate : CandidateResult) :
    Except String CandidateResult := do
  ensure (candidate.taskId = task.taskId ∧ candidate.executionId = task.executionId ∧
    candidate.projectId = task.projectId) "candidate result identity mismatch"
  ensure (candidate.contextVersion = task.contextVersion) "candidate result contextVersion mismatch"
  if candidate.status = .outcomeUnknown then
    return { candidate with
      blockers := uniqueTexts (candidate.blockers ++
        ["OutcomeUnknown is unresolved; authoritative completion finalization is intentionally " ++
          "withheld."])
      recommendedAction := .humanReview }
  else
    let git ← collectGit answers task
    let verification ← collect coerce answers.commands task
    return finalResult answers task candidate git verification

/-! ## What the gates ask -/

/-- The gates that do not name a check. -/
def builtInGates : List String :=
  ["result.summary", "git.clean", "git.base-bound", "artifact.hashes", "verification.no-failures",
    "verification.all-passed"]

/-- **What a gate asks of the evidence**; one that names a check asks that all that was collected of
this check has passed. -/
def Satisfies (gate : String) (evidence : GateEvidence) : Prop :=
  match gate with
  | "result.summary" => evidence.summaryPresent
  | "git.clean" => ∃ git ∈ evidence.git, git.clean
  | "git.base-bound" => ∃ git ∈ evidence.git, ∃ sha ∈ git.baseSha, sha ≠ ""
  | "artifact.hashes" => evidence.artifactsVerified
  | "verification.no-failures" =>
    ∀ value ∈ evidence.verification, value.state ≠ .failed ∧ value.state ≠ .blocked
  | "verification.all-passed" =>
    evidence.verification ≠ [] ∧ ∀ value ∈ evidence.verification, value.state = .passed
  | _ =>
    (∃ value ∈ evidence.verification, value.id = gate) ∧
      ∀ value ∈ evidence.verification, value.id = gate → value.state = .passed

/-- All that was collected of the checks that gates name has passed. -/
def NoneMasked (task : GatedTask) (verification : List VerificationResult) : Prop :=
  ∀ gate ∈ task.completionGate, gate ∉ builtInGates → ∀ value ∈ verification, value.id = gate →
    value.state = .passed

@[simp] theorem failUnless_eq_none {condition : Bool} {failure : String} :
    failUnless condition failure = none ↔ condition = true := by
  unfold failUnless
  cases condition with
  | true => simp
  | false => simp

/-- **A gate that does not fail is satisfied**, apart from results that are masked by an earlier one of
the same check. -/
theorem satisfies_of_gateFailure {gate : String} {evidence : GateEvidence}
    (passes : gateFailure gate evidence = none)
    (unmasked : gate ∉ builtInGates → ∀ value ∈ evidence.verification, value.id = gate →
      value.state = .passed) : Satisfies gate evidence := by
  unfold gateFailure at passes
  unfold Satisfies
  split
  · simpa using passes
  · simpa [Option.any_eq_true] using passes
  · simpa [Option.any_eq_true] using passes
  · simpa using passes
  · simpa using passes
  · simpa [List.length_pos_iff] using passes
  · rename_i summary clean bound hashes failures passed
    rw [if_neg summary, if_neg clean, if_neg bound, if_neg hashes, if_neg failures,
      if_neg passed] at passes
    have named : gate ∉ builtInGates := by
      simp only [builtInGates, List.mem_cons, List.not_mem_nil, or_false, not_or]
      exact ⟨summary, clean, bound, hashes, failures, passed⟩
    refine ⟨?_, unmasked named⟩
    cases found : evidence.verification.find? fun value => value.id = gate with
    | none =>
      rw [found] at passes
      cases passes
    | some value =>
      exact ⟨value, List.mem_of_find?_eq_some found, by simpa using List.find?_some found⟩

theorem passed_of_satisfies {gate : String} {evidence : GateEvidence} (named : gate ∉ builtInGates)
    (satisfied : Satisfies gate evidence) :
    ∀ value ∈ evidence.verification, value.id = gate → value.state = .passed := by
  simp only [builtInGates, List.mem_cons, List.not_mem_nil, or_false, not_or] at named
  obtain ⟨summary, clean, bound, hashes, failures, passed⟩ := named
  unfold Satisfies at satisfied
  split at satisfied
  · exact absurd rfl summary
  · exact absurd rfl clean
  · exact absurd rfl bound
  · exact absurd rfl hashes
  · exact absurd rfl failures
  · exact absurd rfl passed
  · exact satisfied.2

/-! ## What speaks against completion is said -/

theorem scriptTrim_ne_empty {text : String} (char : Char) (member : char ∈ text.toList)
    (visible : isScriptWhitespace char = false) : scriptTrim text ≠ "" := by
  intro empty
  have blank := (trimWith_eq_empty isScriptWhitespace text).1 empty char member
  rw [visible] at blank
  cases blank

theorem failUnless_said {condition : Bool} {text failure : String}
    (fails : failUnless condition text = some failure) (said : scriptTrim text ≠ "") :
    scriptTrim failure ≠ "" := by
  unfold failUnless at fails
  cases condition with
  | true => cases fails
  | false =>
    cases fails
    exact said

theorem gateFailure_said {gate failure : String} {evidence : GateEvidence}
    (fails : gateFailure gate evidence = some failure) : scriptTrim failure ≠ "" := by
  have named : ∀ state : VerificationState,
      scriptTrim s!"{gate} is {state.text}, not PASSED" ≠ "" :=
    fun state => scriptTrim_ne_empty 'P' (by simp [toString]) (by decide)
  unfold gateFailure at fails
  split at fails
  · exact failUnless_said fails (by decide)
  split at fails
  · exact failUnless_said fails (by decide)
  split at fails
  · exact failUnless_said fails (by decide)
  split at fails
  · exact failUnless_said fails (by decide)
  split at fails
  · exact failUnless_said fails (by decide)
  split at fails
  · exact failUnless_said fails (by decide)
  split at fails
  · cases fails
    exact scriptTrim_ne_empty 'u' (by simp [toString]) (by decide)
  · exact failUnless_said fails (named _)

theorem verificationTruth_said {result : VerificationResult} {failure : String}
    (wrong : verificationTruth result = some failure) : scriptTrim failure ≠ "" := by
  have reasonless : ∀ state : VerificationState,
      scriptTrim s!"{result.id}: {state.text} lacks a reason" ≠ "" :=
    fun state => scriptTrim_ne_empty 'l' (by simp [toString]) (by decide)
  unfold verificationTruth at wrong
  split at wrong
  · cases wrong
    decide
  · split at wrong
    · split at wrong
      · cases wrong
      · cases wrong
        exact scriptTrim_ne_empty 'P' (by simp [toString]) (by decide)
    · cases wrong
    all_goals
      split at wrong
      · cases wrong
      · cases wrong
        exact reasonless _

@[simp] theorem uniqueTexts_eq_nil {values : List String} :
    uniqueTexts values = [] ↔ ∀ value ∈ values, scriptTrim value = "" := by
  unfold uniqueTexts
  rw [List.eq_nil_iff_forall_not_mem]
  constructor
  · intro none value member
    by_contra said
    have kept : scriptTrim value ∈ (values.map scriptTrim).filter (· ≠ "") :=
      List.mem_filter.2 ⟨List.mem_map_of_mem member, by simpa using said⟩
    exact none (scriptTrim value) (List.mem_eraseDups.2 kept)
  · intro blank text member
    have kept := List.mem_eraseDups.1 member
    simp only [List.mem_filter, List.mem_map] at kept
    obtain ⟨⟨value, given, rfl⟩, said⟩ := kept
    simp [blank value given] at said

/-! ## Provider claims and completion -/

variable (answers : FinalizerAnswers) (task : GatedTask)

def ArtifactsVerified (candidate : CandidateResult) : Prop :=
  ∀ artifact index, (artifact, index) ∈ candidate.artifacts.zipIdx →
    answers.verifyArtifact index artifact = .ok true

/-- **Nothing speaks against completion**: neither the candidate, nor a collected result, nor an
artifact, nor a gate. -/
structure Unopposed (candidate : CandidateResult) (git : Option AuthoritativeGit)
    (verification : List VerificationResult) : Prop where
  identity : candidate.taskId = task.taskId ∧ candidate.executionId = task.executionId ∧
    candidate.projectId = task.projectId
  context : candidate.contextVersion = task.contextVersion
  claimed : candidate.status = .complete
  blockers : ∀ blocker ∈ candidate.blockers, scriptTrim blocker = ""
  truths : ∀ value ∈ verification, verificationTruth value = none
  artifacts : ArtifactsVerified answers candidate
  gates : ∀ gate ∈ task.completionGate,
    gateFailure gate (gateEvidence answers candidate git verification) = none

/-- What a candidate says that may count. -/
structure SameClaims (first second : CandidateResult) : Prop where
  taskId : first.taskId = second.taskId
  executionId : first.executionId = second.executionId
  projectId : first.projectId = second.projectId
  contextVersion : first.contextVersion = second.contextVersion
  status : first.status = second.status
  summary : first.summary = second.summary
  artifacts : first.artifacts = second.artifacts
  blockers : first.blockers = second.blockers

/-- **Provider claims cannot complete a task**, and only what may count is looked at. -/
structure ClaimsCannotComplete (candidate : CandidateResult) : Prop where
  evidenced : ∀ result, finalize coerce answers task candidate = .ok result →
    result.status = .complete → ∃ git verification, collectGit answers task = .ok git ∧
      collect coerce answers.commands task = .ok verification ∧
      (∀ gate ∈ task.completionGate,
        Satisfies gate (gateEvidence answers candidate git verification)) ∧
      ArtifactsVerified answers candidate
  unswayed : ∀ other, SameClaims candidate other →
    (finalize coerce answers task candidate).map (fun result => (result.status, result.blockers)) =
      (finalize coerce answers task other).map fun result => (result.status, result.blockers)
  unraised : candidate.status = .failed ∨ candidate.status = .blocked ∨
    candidate.status = .outcomeUnknown → ∀ result, finalize coerce answers task candidate = .ok result →
      result.status ≠ .complete ∧ result.status ≠ .partialResult

variable {answers task}

theorem invalidArtifacts_eq_nil {candidate : CandidateResult} :
    invalidArtifacts answers candidate = [] ↔ ArtifactsVerified answers candidate := by
  have verified : ∀ artifact index, artifactVerified answers artifact index = true ↔
      answers.verifyArtifact index artifact = .ok true := by
    intro artifact index
    unfold artifactVerified
    split <;> simp_all
  simp only [invalidArtifacts, List.map_eq_nil_iff, List.filter_eq_nil_iff, Prod.forall,
    Bool.not_eq_true, Bool.not_eq_false', verified]
  rfl

/-- **Without blockers.** A result has no blocker exactly when nothing speaks against it. -/
theorem finalBlockers_eq_nil {candidate : CandidateResult} {git : Option AuthoritativeGit}
    {verification : List VerificationResult} :
    finalBlockers answers task candidate git verification = [] ↔
      (∀ blocker ∈ candidate.blockers, scriptTrim blocker = "") ∧
      (∀ value ∈ verification, verificationTruth value = none) ∧
      ArtifactsVerified answers candidate ∧
      ∀ gate ∈ task.completionGate,
        gateFailure gate (gateEvidence answers candidate git verification) = none := by
  rw [finalBlockers, uniqueTexts_eq_nil, ← invalidArtifacts_eq_nil]
  simp only [List.mem_append, List.mem_filterMap, List.mem_map]
  constructor
  · intro blank
    refine ⟨fun blocker given => blank blocker (.inl (.inl (.inl given))), ?_, ?_, ?_⟩
    · intro value collected
      by_contra wrong
      obtain ⟨failure, found⟩ := Option.ne_none_iff_exists'.1 wrong
      exact verificationTruth_said found
        (blank failure (.inl (.inl (.inr ⟨value, collected, found⟩))))
    · apply List.eq_nil_iff_forall_not_mem.2
      intro id invalid
      exact scriptTrim_ne_empty 'a' (by simp [toString]) (by decide)
        (blank _ (.inl (.inr ⟨id, invalid, rfl⟩)))
    · intro gate asked
      by_contra fails
      obtain ⟨failure, found⟩ := Option.ne_none_iff_exists'.1 fails
      exact gateFailure_said found (blank failure (.inr ⟨gate, asked, found⟩))
  · rintro ⟨blockers, truths, artifacts, gates⟩ text said
    obtain ((given | ⟨value, collected, found⟩) | ⟨id, invalid, rfl⟩) | ⟨gate, asked, found⟩ := said
    · exact blockers text given
    · rw [truths value collected] at found
      cases found
    · rw [artifacts] at invalid
      cases invalid
    · rw [gates gate asked] at found
      cases found

theorem nextStatus_eq_complete {status : ResultStatus} {cannotComplete : Bool} :
    nextStatus status cannotComplete = .complete ↔ status = .complete ∧ cannotComplete = false := by
  cases status <;> cases cannotComplete <;> decide

theorem nextStatus_stays {status : ResultStatus} {cannotComplete : Bool}
    (ended : status = .failed ∨ status = .blocked) : nextStatus status cannotComplete = status := by
  obtain rfl | rfl := ended
  · rfl
  · cases cannotComplete <;> rfl

/-- **How a candidate is finalized**: as it is where its outcome is unknown, and otherwise with what
was collected. -/
theorem finalize_ok {candidate result : CandidateResult}
    (finalized : finalize coerce answers task candidate = .ok result) :
    (candidate.taskId = task.taskId ∧ candidate.executionId = task.executionId ∧
      candidate.projectId = task.projectId) ∧ candidate.contextVersion = task.contextVersion ∧
    ((candidate.status = .outcomeUnknown ∧ result.status = .outcomeUnknown) ∨
      candidate.status ≠ .outcomeUnknown ∧ ∃ git verification, collectGit answers task = .ok git ∧
        collect coerce answers.commands task = .ok verification ∧
        result = finalResult answers task candidate git verification) := by
  unfold finalize at finalized
  obtain ⟨_, identity, rest⟩ := bind_ok.1 finalized
  obtain ⟨_, context, rest⟩ := bind_ok.1 rest
  refine ⟨ensure_ok.1 identity, ensure_ok.1 context, ?_⟩
  split at rest
  · rename_i unknown
    rw [pure_ok] at rest
    subst rest
    exact .inl ⟨unknown, unknown⟩
  · rename_i known
    obtain ⟨git, gathered, rest⟩ := bind_ok.1 rest
    obtain ⟨verification, collected, rest⟩ := bind_ok.1 rest
    exact .inr ⟨known, git, verification, gathered, collected, (pure_ok.1 rest).symm⟩

/-- **What completes is unopposed.** -/
theorem unopposed_of_complete {candidate result : CandidateResult}
    (finalized : finalize coerce answers task candidate = .ok result)
    (complete : result.status = .complete) :
    ∃ git verification, collectGit answers task = .ok git ∧
      collect coerce answers.commands task = .ok verification ∧
      Unopposed answers task candidate git verification := by
  obtain ⟨identity, context, ⟨_, unknown⟩ | ⟨_, git, verification, gathered, collected, rfl⟩⟩ :=
    finalize_ok coerce finalized
  · rw [complete] at unknown
    cases unknown
  · obtain ⟨claimed, free⟩ := nextStatus_eq_complete.1 complete
    have unblocked : finalBlockers answers task candidate git verification = [] := by
      simpa using free
    obtain ⟨blockers, truths, artifacts, gates⟩ := finalBlockers_eq_nil.1 unblocked
    exact ⟨git, verification, gathered, collected,
      identity, context, claimed, blockers, truths, artifacts, gates⟩

/-- **What is unopposed completes.** -/
theorem complete_of_unopposed {candidate : CandidateResult} {git : Option AuthoritativeGit}
    {verification : List VerificationResult} (gathered : collectGit answers task = .ok git)
    (collected : collect coerce answers.commands task = .ok verification)
    (unopposed : Unopposed answers task candidate git verification) :
    finalize coerce answers task candidate =
        .ok (finalResult answers task candidate git verification) ∧
      (finalResult answers task candidate git verification).status = .complete := by
  have unblocked : finalBlockers answers task candidate git verification = [] :=
    finalBlockers_eq_nil.2
      ⟨unopposed.blockers, unopposed.truths, unopposed.artifacts, unopposed.gates⟩
  have known : candidate.status ≠ .outcomeUnknown := by simp [unopposed.claimed]
  constructor
  · unfold finalize
    rw [ensure, if_pos unopposed.identity, ensure, if_pos unopposed.context, if_neg known, gathered,
      collected]
    rfl
  · apply nextStatus_eq_complete.2
    exact ⟨unopposed.claimed, by simp [unblocked]⟩

/-- **Only what may count is looked at.** -/
theorem finalize_unswayed {first second : CandidateResult} (same : SameClaims first second) :
    (finalize coerce answers task first).map (fun result => (result.status, result.blockers)) =
      (finalize coerce answers task second).map fun result => (result.status, result.blockers) := by
  have invalid : invalidArtifacts answers first = invalidArtifacts answers second := by
    rw [invalidArtifacts, invalidArtifacts, same.artifacts]
  have blockers : ∀ git verification, finalBlockers answers task first git verification =
      finalBlockers answers task second git verification := by
    intro git verification
    rw [finalBlockers, finalBlockers, gateEvidence, gateEvidence, invalid, same.summary,
      same.blockers]
  unfold finalize
  rw [same.taskId, same.executionId, same.projectId, same.contextVersion, same.status]
  by_cases identity : second.taskId = task.taskId ∧ second.executionId = task.executionId ∧
    second.projectId = task.projectId
  · by_cases context : second.contextVersion = task.contextVersion
    · rw [ensure, if_pos identity, ensure, if_pos context]
      by_cases unknown : second.status = .outcomeUnknown
      · rw [if_pos unknown, if_pos unknown]
        exact congrArg Except.ok (by rw [same.blockers])
      · rw [if_neg unknown, if_neg unknown]
        cases collectGit answers task with
        | error message => rfl
        | ok git =>
          cases collect coerce answers.commands task with
          | error message => rfl
          | ok verification =>
            have status : (finalResult answers task first git verification).status =
                (finalResult answers task second git verification).status := by
              simp only [finalResult, blockers, same.status]
            exact congrArg Except.ok (Prod.ext status (blockers git verification))
    · rw [ensure, if_pos identity, ensure, if_neg context]
      rfl
  · rw [ensure, if_neg identity]
    rfl

/-- **Nothing but completion becomes completion.** -/
theorem finalize_unraised {candidate result : CandidateResult}
    (ended : candidate.status = .failed ∨ candidate.status = .blocked ∨
      candidate.status = .outcomeUnknown)
    (finalized : finalize coerce answers task candidate = .ok result) :
    result.status ≠ .complete ∧ result.status ≠ .partialResult := by
  obtain ⟨_, _, ⟨_, unknown⟩ | ⟨known, git, verification, _, _, rfl⟩⟩ := finalize_ok coerce finalized
  · simp [unknown]
  · obtain failed | blocked | unknown := ended
    · have kept : (finalResult answers task candidate git verification).status = candidate.status :=
        nextStatus_stays (.inl failed)
      simp [kept, failed]
    · have kept : (finalResult answers task candidate git verification).status = candidate.status :=
        nextStatus_stays (.inr blocked)
      simp [kept, blocked]
    · exact absurd unknown known

variable (answers task)

/-- **Provider claims cannot complete a task** exactly when each check that a gate names has passed
wherever it was run: a gate looks at the first result of its check only. -/
theorem providerClaims_law (candidate : CandidateResult) :
    ClaimsCannotComplete coerce answers task candidate ↔
      ∀ git verification, collectGit answers task = .ok git →
        collect coerce answers.commands task = .ok verification →
        Unopposed answers task candidate git verification → NoneMasked task verification := by
  constructor
  · intro law git verification gathered collected unopposed gate asked named value member same
    obtain ⟨finalized, complete⟩ := complete_of_unopposed coerce gathered collected unopposed
    obtain ⟨git', verification', gathered', collected', satisfied, _⟩ :=
      law.evidenced _ finalized complete
    rw [collected] at collected'
    cases collected'
    exact passed_of_satisfies named (satisfied gate asked) value member same
  · intro unmasked
    constructor
    · intro result finalized complete
      obtain ⟨git, verification, gathered, collected, unopposed⟩ :=
        unopposed_of_complete coerce finalized complete
      have kept := unmasked git verification gathered collected unopposed
      refine ⟨git, verification, gathered, collected, ?_, unopposed.artifacts⟩
      intro gate asked
      exact satisfies_of_gateFailure (unopposed.gates gate asked) fun named => kept gate asked named
    · intro other same
      exact finalize_unswayed coerce same
    · intro ended result finalized
      exact finalize_unraised coerce ended finalized

/-! ## A masked result -/

def unitCheck (command : String) : Json :=
  .object [("id", .string "unit"), ("command", .array [.string command])]

/-- A task with two checks of one id, and a gate that names them. -/
def doubledTask : GatedTask where
  protocol := "zero3.pilot.task-spec.v2"
  taskId := "t"
  executionId := "e"
  projectId := "p"
  target := none
  type := .implement
  title := "t"
  goal := "g"
  contextVersion := 1
  importance := none
  baseSha := none
  branch := none
  worktreePath := some "/w"
  reviewRequired := false
  reviewer := .human
  maxCycles := none
  createdBySessionId := "s"
  others := ""
  verification := [unitCheck "lint", unitCheck "test"]
  completionGate := ["unit"]

def claimingCandidate : CandidateResult where
  protocol := "zero3.pilot.execution-result.v2"
  taskId := "t"
  executionId := "e"
  projectId := "p"
  provider := .codex
  providerRuntime := "codex"
  executorId := none
  status := .complete
  contextVersion := 1
  conversationId := none
  summary := "done"
  blockers := []
  recommendedAction := .humanReview
  failure := none
  output := none
  changedFiles := []
  artifacts := []
  git := none
  verification := []
  knownIssues := []
  usage := none
  timing := none
  completedAt := ""

/-- Only the first of two commands exits with 0. -/
def halfPassing : FinalizerAnswers where
  git := .ok ⟨"head", none, none, true, []⟩
  verifyArtifact _ _ := .ok true
  commands index := .ok (some (.object [("exitCode", .nat (if index = 0 then 0 else 1))]))
  now := ""

/-- The candidate completes though the second check of the gate has failed. -/
theorem providerClaims_counterexample :
    ¬ ClaimsCannotComplete (fun _ => none) halfPassing doubledTask claimingCandidate := by
  intro law
  have completes : (finalize (fun _ => none) halfPassing doubledTask claimingCandidate).toOption.map
      (·.status) = some .complete := by decide +kernel
  have failing : (collect (fun _ => none) halfPassing.commands doubledTask).toOption.any
      (·.any fun value => value.id = "unit" && decide (value.state ≠ .passed)) = true := by
    decide +kernel
  cases finalized : finalize (fun _ => none) halfPassing doubledTask claimingCandidate with
  | error message => simp [finalized, Except.toOption] at completes
  | ok result =>
    rw [finalized] at completes
    obtain ⟨git, verification, _, collected, satisfied, _⟩ :=
      law.evidenced result finalized (by simpa [Except.toOption] using completes)
    rw [collected] at failing
    obtain ⟨value, member, bad⟩ := List.any_eq_true.1 failing
    simp only [Bool.and_eq_true, decide_eq_true_eq] at bad
    exact bad.2 (passed_of_satisfies (by decide) (satisfied "unit" (by decide)) value member bad.1)

end Zero3Pilot.AgentRouting
