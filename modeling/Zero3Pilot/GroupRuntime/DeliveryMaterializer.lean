import Zero3Pilot.GroupRuntime.GitWorkspace
import Zero3Pilot.Foundations.Views

/-! # Commits of the controller

`materializeControllerCommit` of `runtime/delivery-materializer.ts`: what an executor left in its
worktree is audited, staged, audited again as it is staged, and committed. -/

namespace Zero3Pilot.GroupRuntime

structure MaterializerInput where
  groupId : String
  session : DevelopmentSessionDefinition
  executorId : Option String
  materializeDirtyExecutorIds : List String

def dirtyPaths (status : List GitStatusEntry) : List String :=
  sortTexts (status.flatMap fun entry =>
    match entry.originalPath with
    | some original => if original = "" then [entry.path] else [entry.path, original]
    | none => [entry.path]).eraseDups

/-- An entry of the index that differs from the last commit. -/
def GitStatusEntry.isPreStaged (entry : GitStatusEntry) : Bool :=
  entry.status.toList.head? ≠ some ' ' && entry.status.toList.head? ≠ some '?'

def requireValid (audit : OwnershipAudit) (violation : String) : Procedure Checkout String Unit :=
  Procedure.check audit.valid s!"controller commit {violation}: {audit.violationTexts}"

section Operation

variable (git : GitCommands) (input : MaterializerInput)

def commitAudited (executorId : String) : Procedure Checkout String Unit := do
  let stagedPaths ← git.stagedPaths
  Procedure.check (stagedPaths ≠ [])
    "controller commit has no staged changes after dirty worktree staging"
  requireValid (auditChangedPathOwnership stagedPaths input.session []) "staged ownership violation"
  let _ ← git.commitStaged
    s!"zero3: materialize {input.groupId}/{input.session.sessionId} {executorId} delivery"

def commitDirty (executorId : String) (status : List GitStatusEntry) :
    Procedure Checkout String Unit := do
  Procedure.check (input.session.permissionProfile ≠ .readOnly)
    "read-only executor left a dirty worktree"
  let branch ← git.currentBranch
  Procedure.check (branch = input.session.branch)
    s!"controller commit branch mismatch: expected {input.session.branch}, got {branch}"
  let currentHead ← git.resolveHead
  let isAncestor ← git.isAncestorOf input.session.baselineSha currentHead
  Procedure.check (isAncestor = true)
    "controller commit HEAD is not descended from the frozen baseline"
  let committed ← git.changedPaths input.session.baselineSha currentHead
  requireValid (auditChangedPathOwnership committed input.session [])
    "found existing ownership violation"
  let dirty := dirtyPaths status
  requireValid (auditChangedPathOwnership dirty input.session []) "refused dirty ownership violation"
  Procedure.check ((status.filter (·.isPreStaged)) = [])
    ("controller commit refuses pre-staged index changes: " ++ ", ".intercalate
      ((status.filter (·.isPreStaged)).map (·.path)))
  git.stagePaths dirty
  (commitAudited git input executorId).onError (git.unstagePaths dirty)

def materializeControllerCommit : Procedure Checkout String Unit := do
  let status ← git.statusEntries
  match input.executorId with
  | none => pure ()
  | some executorId =>
    if status.isEmpty || executorId = "" || !input.materializeDirtyExecutorIds.contains executorId
    then pure ()
    else commitDirty git input executorId status

end Operation

/-! ## What the commands do to the last commit -/

/-- **What the operation relies on** of the commands that stage and commit. -/
structure GitCommands.Lawful (git : GitCommands) : Prop where
  add_head : ∀ specs checkout, (git.add specs checkout).2.head = checkout.head
  reset_head : ∀ specs checkout, (git.reset specs checkout).2.head = checkout.head
  commit_head : ∀ subject checkout, (git.commit subject checkout).2.head = checkout.head ∨
    (git.commit subject checkout).2.head = checkout.index
  diffCached_prints : ∀ checkout stdout, git.diffCached checkout = .ok stdout →
    PrintsDiff (DetectedRenames.none checkout.head checkout.index) stdout

def GitCommands.statusOf (git : GitCommands) (checkout : Checkout) : List GitStatusEntry :=
  match git.status checkout with
  | .ok stdout => readStatus git.localeCompare stdout
  | .error _ => []

/-- **A path that is seen** when it is committed: the audit of what is staged reads it as the
classifier does, or the audit of what was dirty does. -/
def SeenOnCommit (status : List GitStatusEntry) (path : GitPath) : Prop :=
  (listedName path.name).bind auditReading = some (classifierReading path.name) ∨
    (withForwardSlashes path.name ∈ dirtyPaths status ∧
      auditReading (withForwardSlashes path.name) = some (classifierReading path.name))

instance (status : List GitStatusEntry) (path : GitPath) : Decidable (SeenOnCommit status path) :=
  inferInstanceAs (Decidable (_ ∨ _ ∧ _))

theorem owned_of_allows {path : String} {session : DevelopmentSessionDefinition}
    (allows : (classifyChangedPath path session []).authority.allows) :
    (classifyChangedPath path session []).authority = .owned := by
  simp only [classifyChangedPath, firstMatch, List.find?_nil, Option.filter_none] at allows ⊢
  split at allows
  · cases allows
  split at allows
  · cases allows
  split at allows
  · rfl
  · cases allows

/-! ## What is committed -/

open Procedure

theorem ensures_query {α : Type} {command : Checkout → Except String α}
    {returns : α → Checkout → Prop} {throws : String → Checkout → Prop} {checkout : Checkout}
    (returned : ∀ value, command checkout = .ok value → returns value checkout)
    (threw : ∀ error, throws error checkout) :
    (GitCommands.query command).Ensures returns throws checkout := by
  rw [GitCommands.query, ensures_bind, ensures_read]
  exact Ensures.ofExcept returned threw

theorem leaves_query {α : Type} (command : Checkout → Except String α) :
    Leaves id (GitCommands.query command) :=
  fun _ => ensures_query (fun _ _ => rfl) fun _ => rfl

section Commits

variable {git : GitCommands} {input : MaterializerInput}

theorem leaves_currentBranch : Leaves id git.currentBranch :=
  (leaves_query _).bind fun _ => Moves.ofExcept _

theorem leaves_resolveHead : Leaves id git.resolveHead :=
  (leaves_query _).bind fun _ => Moves.ofExcept _

theorem leaves_isAncestorOf (base head : String) : Leaves id (git.isAncestorOf base head) :=
  (Moves.ofExcept _).bind fun _ => (Moves.ofExcept _).bind fun _ => leaves_query _

theorem leaves_changedPaths (base head : String) : Leaves id (git.changedPaths base head) :=
  (Moves.ofExcept _).bind fun _ => (Moves.ofExcept _).bind fun _ =>
    (leaves_query _).bind fun _ => Moves.pure _

theorem leaves_stagePaths (lawful : git.Lawful) (paths : List String) :
    Leaves Checkout.head (git.stagePaths paths) :=
  (Moves.ofExcept _).bind fun specs state => ensures_state.2 (lawful.add_head specs state)

theorem leaves_unstagePaths (lawful : git.Lawful) (paths : List String) :
    Leaves Checkout.head (git.unstagePaths paths) :=
  (Moves.ofExcept _).bind fun specs state => ensures_state.2 (lawful.reset_head specs state)

theorem commitStaged_head (lawful : git.Lawful) (message : String) (checkout : Checkout) :
    (git.commitStaged message).Ensures
      (fun _ after => after.head = checkout.head ∨ after.head = checkout.index)
      (fun _ after => after.head = checkout.head ∨ after.head = checkout.index) checkout := by
  rw [GitCommands.commitStaged, ensures_bind]
  apply Ensures.check
  · intro _
    rw [ensures_bind]
    refine (ensures_state.2 (lawful.commit_head (scriptTrim message) checkout)).mono
      (fun _ between committed => ?_) fun _ _ committed => committed
    -- the id of the new commit is only read
    refine leaves_resolveHead.ensures (fun _ after same => ?_) fun _ after same => ?_
    · rw [id, id] at same
      rw [same]
      exact committed
    · rw [id, id] at same
      rw [same]
      exact committed
  · exact Or.inl rfl

/-- **What was committed is audited**: the last commit stayed, or the audit of the paths in which
it changed is valid. -/
def CommitsAudited (session : DevelopmentSessionDefinition) (before after : Checkout) : Prop :=
  after.head = before.head ∨ ∃ paths, (∀ path, path ∈ paths ↔ Differs before.head after.head path) ∧
      (auditChangedPathOwnership (readNames (namesText paths)) session []).valid

theorem commitAudited_ensures (lawful : git.Lawful) (executorId : String) (staged : Checkout) :
    (commitAudited git input executorId).Ensures (fun _ => CommitsAudited input.session staged)
      (fun _ => CommitsAudited input.session staged) staged := by
  rw [commitAudited, GitCommands.stagedPaths, ensures_bind, ensures_bind]
  apply ensures_query
  · intro stdout printed
    obtain ⟨paths, rfl, listed⟩ := lawful.diffCached_prints staged stdout printed
    rw [ensures_pure, ensures_bind]
    refine Ensures.check (fun _ => ?_) (Or.inl rfl)
    rw [ensures_bind]
    refine Ensures.check (fun valid => ?_) (Or.inl rfl)
    -- without renames every path that is committed was listed
    have all (path : GitPath) : path ∈ paths ↔ Differs staged.head staged.index path := by
      rw [listed path]
      simp [DetectedRenames.IsSource, DetectedRenames.none]
    have audited (after : Checkout)
        (committed : after.head = staged.head ∨ after.head = staged.index) :
        CommitsAudited input.session staged after := by
      rcases committed with same | committed
      · exact Or.inl same
      · exact Or.inr ⟨paths, by rw [committed]; exact all, valid⟩
    rw [ensures_bind]
    refine (commitStaged_head lawful _ staged).mono (fun _ after committed => ?_)
      fun _ after committed => audited after committed
    exact (ensures_pure _).2 (audited after committed)
  · exact fun _ => Or.inl rfl

theorem CommitsAudited.of_head {session : DevelopmentSessionDefinition}
    {before between after : Checkout} (audited : CommitsAudited session between after)
    (same : between.head = before.head) : CommitsAudited session before after := by
  rwa [CommitsAudited, same] at audited

theorem CommitsAudited.to_head {session : DevelopmentSessionDefinition}
    {before between after : Checkout} (audited : CommitsAudited session before between)
    (same : after.head = between.head) : CommitsAudited session before after := by
  rwa [CommitsAudited, ← same] at audited

/-- **What the operation commits** is audited twice: as it was dirty, and as it is staged. -/
def CommitsDirty (session : DevelopmentSessionDefinition) (status : List GitStatusEntry)
    (before after : Checkout) : Prop :=
  after.head = before.head ∨ (auditChangedPathOwnership (dirtyPaths status) session []).valid ∧
      CommitsAudited session before after

theorem commitDirty_ensures (lawful : git.Lawful) (executorId : String)
    (status : List GitStatusEntry) (checkout : Checkout) :
    (commitDirty git input executorId status).Ensures
      (fun _ => CommitsDirty input.session status checkout)
      (fun _ => CommitsDirty input.session status checkout) checkout := by
  -- what only reads goes on in the same checkout, and a throw there commits nothing
  have reads {α : Type} {procedure : Procedure Checkout String α}
      {next : α → Procedure Checkout String Unit} (leaves : Leaves id procedure)
      (goesOn : ∀ value, (next value).Ensures (fun _ => CommitsDirty input.session status checkout)
        (fun _ => CommitsDirty input.session status checkout) checkout) :
      (procedure >>= next).Ensures (fun _ => CommitsDirty input.session status checkout)
        (fun _ => CommitsDirty input.session status checkout) checkout := by
    refine leaves.first (fun value after same => ?_) fun _ after same => ?_
    · rw [id, id] at same
      rw [same]
      exact goesOn value
    · rw [id, id] at same
      exact Or.inl (congrArg Checkout.head same)
  rw [commitDirty]
  refine reads (Moves.check _ _) fun _ => ?_
  refine reads leaves_currentBranch fun branch => ?_
  refine reads (Moves.check _ _) fun _ => ?_
  refine reads leaves_resolveHead fun currentHead => ?_
  refine reads (leaves_isAncestorOf _ _) fun isAncestor => ?_
  refine reads (Moves.check _ _) fun _ => ?_
  refine reads (leaves_changedPaths _ _) fun committed => ?_
  refine reads (Moves.check _ _) fun _ => ?_
  dsimp only
  rw [ensures_bind]
  refine Ensures.check (fun valid => ?_) (Or.inl rfl)
  refine reads (Moves.check _ _) fun _ => ?_
  refine (leaves_stagePaths lawful _).first (fun _ staged same => ?_) fun _ after same => Or.inl same
  rw [ensures_onError]
  refine (commitAudited_ensures lawful executorId staged).mono (fun _ after audited => ?_)
    fun _ after audited => ?_
  · exact Or.inr ⟨valid, audited.of_head same⟩
  · -- the cleanup leaves what was committed
    refine (leaves_unstagePaths lawful _).ensures (fun _ cleaned kept => ?_) fun _ cleaned kept => ?_
    · exact Or.inr ⟨valid, (audited.of_head same).to_head kept⟩
    · exact Or.inr ⟨valid, (audited.of_head same).to_head kept⟩

/-- **What the operation commits** is audited. -/
theorem materialize_ensures (lawful : git.Lawful) (checkout : Checkout) :
    CommitsDirty input.session (git.statusOf checkout) checkout
      (materializeControllerCommit git input checkout).2 := by
  apply ensures_state.1
  rw [materializeControllerCommit, GitCommands.statusEntries, ensures_bind, ensures_bind]
  apply ensures_query
  · intro stdout printed
    rw [ensures_pure, GitCommands.statusOf, printed]
    cases input.executorId with
    | none => exact (ensures_pure _).2 (Or.inl rfl)
    | some executorId =>
      rw [ensures_ite]
      constructor
      · exact fun _ => (ensures_pure _).2 (Or.inl rfl)
      · exact fun _ => commitDirty_ensures lawful executorId _ checkout
  · exact fun _ => Or.inl rfl

end Commits

end Zero3Pilot.GroupRuntime
