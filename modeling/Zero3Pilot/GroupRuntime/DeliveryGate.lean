import Mathlib.Algebra.Group.Int.Defs
import Zero3Pilot.GroupRuntime.GitWorkspace

/-! # The delivery gate

`workspace/delivery-gate.ts`: a delivery is accepted where nothing speaks against it. The gate asks
Git about the checkout, which may change between two questions, compares the changed paths of the
delivery with those Git reports, and audits whose paths they are. The handoff it may require is
checked by `handoff-verifier.ts`. -/

namespace Zero3Pilot.GroupRuntime

/-- The host of the gate: hashing, the order of a locale, and paths of the file system. -/
structure GateHost (Checkpoint : Type) where
  sha256 : String → String
  localeCompare : String → String → Ordering
  (toLowerCase resolvePath : String → String)
  checkpointHash : Checkpoint → String

/-! ## The answers of Git -/

structure GitWorkspacePort where
  (resolveHead currentBranch : Except String String)
  branchHead : String → Except String String
  isAncestor : String → String → Except String Bool
  changedPaths : String → String → Except String (List String)
  status : Except String (List GitStatusEntry)
  handoffWorkspaceFingerprint : Option (Except String String)

inductive GitQuestion where
  | resolveHead
  | currentBranch
  | branchHead
  | isAncestor
  | changedPaths
  | status

def GitCommands.port (git : GitCommands) (finds : GitQuestion → Checkout)
    (fingerprint : Except String String) : GitWorkspacePort where
  resolveHead := (git.resolveHead (finds .resolveHead)).1
  currentBranch := (git.currentBranch (finds .currentBranch)).1
  branchHead branch := (git.branchHead branch (finds .branchHead)).1
  isAncestor base head := (git.isAncestorOf base head (finds .isAncestor)).1
  changedPaths base head := (git.changedPaths base head (finds .changedPaths)).1
  status := (git.statusEntries (finds .status)).1
  handoffWorkspaceFingerprint := some fingerprint

/-! ## Handoffs -/

/-- `Zero3HandoffCheckpointV1`, as far as the verifier looks at it; the rest is hashed only. -/
structure HandoffCheckpoint (Rest : Type) where
  (schemaVersion taskId executionId workspace repoId branch baseSha headSha : String)
  (dirtyWorktreeFingerprint objective lastExecutor lastSessionId stopReason nextAction : String)
  createdAt : String
  handoffGeneration : Int
  (hasTests hasPendingApprovals : Bool)
  checkpointHash : String
  rest : Rest

structure HandoffObservedWorkspace where
  (workspace branch headSha dirtyWorktreeFingerprint : String)

section Gate

variable {Rest : Type} (host : GateHost (HandoffCheckpoint Rest))

/-- A reason where a condition holds. -/
def reasonIf (found : Bool) (reason : String) : List String := if found then [reason] else []

def missingEvidence (checkpoint : HandoffCheckpoint Rest) : List String :=
  ([("task_id", checkpoint.taskId), ("execution_id", checkpoint.executionId),
    ("workspace", checkpoint.workspace), ("repo_id", checkpoint.repoId),
    ("branch", checkpoint.branch), ("base_sha", checkpoint.baseSha),
    ("head_sha", checkpoint.headSha),
    ("dirty_worktree_fingerprint", checkpoint.dirtyWorktreeFingerprint),
    ("objective", checkpoint.objective), ("last_executor", checkpoint.lastExecutor),
    ("last_session_id", checkpoint.lastSessionId), ("stop_reason", checkpoint.stopReason),
    ("next_action", checkpoint.nextAction), ("created_at", checkpoint.createdAt)].flatMap
      fun evidence => reasonIf (!nonEmpty evidence.2) s!"missing required evidence: {evidence.1}") ++
    reasonIf (checkpoint.handoffGeneration < 1 || 2 ^ 53 ≤ checkpoint.handoffGeneration)
      "invalid handoff_generation" ++
    reasonIf (!checkpoint.hasTests) "missing test evidence" ++
    reasonIf (!checkpoint.hasPendingApprovals) "missing pending approval evidence"

def verifyHandoff (checkpoint : HandoffCheckpoint Rest) (observed : HandoffObservedWorkspace) :
    List String :=
  missingEvidence checkpoint ++
    reasonIf (checkpoint.schemaVersion ≠ "zero3.pilot.handoff.v1") "unsupported schema_version" ++
    reasonIf (utf16Length checkpoint.checkpointHash ≠ 64 ||
      host.checkpointHash checkpoint ≠ checkpoint.checkpointHash) "checkpoint hash mismatch" ++
    reasonIf (host.resolvePath observed.workspace ≠ host.resolvePath checkpoint.workspace)
      "workspace mismatch" ++
    reasonIf (observed.branch ≠ checkpoint.branch) "branch mismatch" ++
    reasonIf (observed.headSha ≠ checkpoint.headSha) "HEAD mismatch" ++
    reasonIf (observed.dirtyWorktreeFingerprint ≠ checkpoint.dirtyWorktreeFingerprint)
      "worktree fingerprint mismatch"

/-! ## The gate -/

structure DeliveryGateInput (Rest : Type) where
  delivery : DevelopmentDelivery
  session : DevelopmentSessionDefinition
  handoff : Option (HandoffCheckpoint Rest)
  integrationExceptions : List String

structure DeliveryGateResult where
  reasons : List String
  (branch headSha : Option String)
  changedPaths : List String
  dirty : Bool
  workspaceFingerprint : Option String
  ownership : Option OwnershipAudit

def DeliveryGateResult.Accepts (result : DeliveryGateResult) : Prop := result.reasons = []

instance (result : DeliveryGateResult) : Decidable result.Accepts :=
  inferInstanceAs (Decidable (_ = _))

def normalizedPaths (paths : List String) : List String :=
  sortTexts ((paths.map fun path =>
    String.ofList (dropDotSlash (forwardSlashes path.toList))).filter (· ≠ "")).eraseDups

def workspaceFingerprint (branch headSha baseSha : String) (changedPaths : List String)
    (status : List GitStatusEntry) : String :=
  let entries := status.mergeSort fun left right =>
    ((host.localeCompare left.path right.path).then
      (host.localeCompare left.status right.status)) ≠ .gt
  host.sha256 (String.ofList (Json.object [
    ("branch", .string (scriptTrim branch)),
    ("headSha", .string (host.toLowerCase headSha)),
    ("baseSha", .string (host.toLowerCase baseSha)),
    ("changedPaths", textItems (sortTexts (changedPaths.map withForwardSlashes).eraseDups)),
    ("status", .array (entries.map fun entry => .object [
      ("status", .string entry.status), ("path", .string (withForwardSlashes entry.path))]))]).render)

/-- The reasons of the ancestry: the first question that fails ends the others. -/
def ancestryReasons (git : GitWorkspacePort) (input : DeliveryGateInput Rest) : List String :=
  match git.branchHead input.session.branch with
  | .error message => [s!"ancestry evidence unavailable: Error: {message}"]
  | .ok branchHead =>
    reasonIf (branchHead ≠ input.delivery.headSha) "delivery head is not the bound branch head" ++
    match git.isAncestor input.session.baselineSha input.delivery.headSha with
    | .error message => [s!"ancestry evidence unavailable: Error: {message}"]
    | .ok isAncestor =>
      reasonIf (!isAncestor) "delivery head is not descended from the frozen baseline"

def handoffReasons (git : GitWorkspacePort) (input : DeliveryGateInput Rest)
    (branch headSha : String) : List String :=
  match input.handoff with
  | none => ["required zero3.pilot.handoff.v1 evidence is missing"]
  | some checkpoint =>
  match git.handoffWorkspaceFingerprint with
  | none => ["Git workspace adapter cannot independently capture the R4E Handoff fingerprint"]
  | some fingerprint =>
    reasonIf (checkpoint.executionId ≠ input.session.executionId)
      "handoff execution identity does not match Development Session" ++
    reasonIf (checkpoint.baseSha ≠ input.session.baselineSha)
      "handoff baseline does not match Development Session" ++
    reasonIf (input.delivery.handoffCheckpoint.any fun reference =>
        reference ≠ "" && reference ≠ checkpoint.checkpointHash)
      "delivery handoff checkpoint reference does not match supplied checkpoint" ++
    match fingerprint with
    | .error message => [s!"handoff workspace fingerprint unavailable: Error: {message}"]
    | .ok "" => []
    | .ok fingerprint =>
      (verifyHandoff host checkpoint
        ⟨input.session.worktree, branch, headSha, fingerprint⟩).map fun reason =>
          s!"handoff: {reason}"

def gateWithEvidence (git : GitWorkspacePort) (input : DeliveryGateInput Rest)
    (branch headSha : String) (changedPaths : List String) (status : List GitStatusEntry) :
    DeliveryGateResult :=
  let { delivery, session, .. } := input
  let observedChangedPaths := normalizedPaths changedPaths
  let ownership :=
    auditChangedPathOwnership observedChangedPaths session input.integrationExceptions
  let reasons :=
    (validateDevelopmentDelivery delivery session).map (fun item => s!"{item.code}: {item.message}") ++
    reasonIf (branch ≠ session.branch)
      s!"branch mismatch: expected {session.branch}, got {branch}" ++
    reasonIf (headSha ≠ delivery.headSha)
      s!"HEAD mismatch: expected {delivery.headSha}, got {headSha}" ++
    ancestryReasons git input ++
    reasonIf (normalizedPaths delivery.changedPaths ≠ observedChangedPaths)
      "delivery changed_paths do not match Git diff evidence" ++
    reasonIf (session.deliveryPolicy.requireCleanHead && !status.isEmpty)
      "delivery requires a clean worktree but Git status is dirty/untracked" ++
    reasonIf (session.deliveryPolicy.requireOwnershipValidation && !ownership.valid)
      s!"ownership violation: {ownership.violationTexts}" ++
    reasonIf (session.deliveryPolicy.requireDeliveryHash &&
      computeDeliveryHash host.sha256 delivery ≠ delivery.deliveryHash) "delivery hash mismatch" ++
    if session.deliveryPolicy.requireHandoff then handoffReasons host git input branch headSha
    else []
  { reasons, branch := some branch, headSha := some headSha, changedPaths := observedChangedPaths
    dirty := !status.isEmpty
    workspaceFingerprint := some
      (workspaceFingerprint host branch headSha session.baselineSha observedChangedPaths status)
    ownership := some ownership }

/-- The four questions that are asked together. -/
def gitEvidence (git : GitWorkspacePort) (input : DeliveryGateInput Rest) :
    Except String (String × String × List String × List GitStatusEntry) := do
  let branch ← git.currentBranch
  let headSha ← git.resolveHead
  let changedPaths ← git.changedPaths input.session.baselineSha input.delivery.headSha
  let status ← git.status
  return (branch, headSha, changedPaths, status)

def verifyDevelopmentDelivery (git : GitWorkspacePort) (input : DeliveryGateInput Rest) :
    DeliveryGateResult :=
  match gitEvidence git input with
  | .error message =>
    { reasons :=
        (validateDevelopmentDelivery input.delivery input.session).map
          (fun item => s!"{item.code}: {item.message}") ++
          [s!"git evidence unavailable: Error: {message}"]
      branch := none, headSha := none, changedPaths := [], dirty := true
      workspaceFingerprint := none, ownership := none }
  | .ok (branch, headSha, changedPaths, status) =>
    gateWithEvidence host git input branch headSha changedPaths status

/-! ## What an accepted delivery was audited for -/

theorem reasonIf_eq_nil {found : Bool} {reason : String} :
    reasonIf found reason = [] ↔ found = false := by
  cases found with
  | true => simp [reasonIf]
  | false => simp [reasonIf]

/-- **An accepted delivery**: Git reported changed paths, and where the session requires it their
audit is valid. -/
theorem audited_of_accepted {git : GitWorkspacePort} {input : DeliveryGateInput Rest}
    (required : input.session.deliveryPolicy.requireOwnershipValidation)
    (accepted : (verifyDevelopmentDelivery host git input).Accepts) :
    ∃ changedPaths,
      git.changedPaths input.session.baselineSha input.delivery.headSha = .ok changedPaths ∧
      (auditChangedPathOwnership (normalizedPaths changedPaths) input.session
        input.integrationExceptions).valid := by
  rw [DeliveryGateResult.Accepts, verifyDevelopmentDelivery] at accepted
  cases evidence : gitEvidence git input with
  | error message =>
    -- missing evidence is a reason of its own
    rw [evidence] at accepted
    simp at accepted
  | ok found =>
    obtain ⟨branch, headSha, changedPaths, status⟩ := found
    rw [evidence] at accepted
    simp only [gateWithEvidence, List.append_eq_nil_iff, reasonIf_eq_nil] at accepted
    obtain ⟨⟨⟨-, audited⟩, -⟩, -⟩ := accepted
    simp only [gitEvidence, bind_ok, pure_ok, Prod.mk.injEq] at evidence
    obtain ⟨_, -, _, -, reported, answered, _, -, -, -, rfl, -⟩ := evidence
    refine ⟨reported, answered, ?_⟩
    rw [required, Bool.true_and, Bool.not_eq_false'] at audited
    exact audited

end Gate

/-! ## The names that are audited -/

/-- The name under which the gate audits a changed path that Git printed. -/
def gateName (name : String) : Option String :=
  (listedName name).bind fun listed =>
    let stripped := String.ofList (dropDotSlash (forwardSlashes listed.toList))
    if stripped = "" then none else some stripped

theorem mem_normalizedPaths {paths : List GitPath} {path : GitPath} {name : String}
    (member : path ∈ paths) (read : gateName path.name = some name) :
    name ∈ normalizedPaths (readNames (namesText paths)) := by
  rw [gateName, Option.bind_eq_some_iff] at read
  obtain ⟨listed, isListed, read⟩ := read
  have inNames : listed ∈ readNames (namesText paths) := mem_readNames.2 ⟨path, member, isListed⟩
  dsimp only at read
  by_cases gone : String.ofList (dropDotSlash (forwardSlashes listed.toList)) = ""
  · rw [if_pos gone] at read
    cases read
  · rw [if_neg gone] at read
    cases read
    rw [normalizedPaths, mem_sortTexts, List.mem_eraseDups, List.mem_filter, List.mem_map]
    exact ⟨⟨listed, inNames, rfl⟩, decide_eq_true gone⟩

end Zero3Pilot.GroupRuntime
