import Zero3Pilot.RemoteHost.GitChecks

/-! # The Git checks in a repository

What the preflight and the postflight of a task come to when the commands they run print what a
repository holds. -/

namespace Zero3Pilot.RemoteHost

open Program ScriptValue

variable {platform : Platform} {task : HostTask} {workspace : String}

/-! ## Repositories -/

/-- **A repository**, as what Git prints in it; a command that fails prints nothing. `base` is printed
for the base of the task. -/
structure Repository where
  (root head base upstream branch status : Option String)

/-- What a Git command prints. -/
def Repository.prints (repository : Repository) (args : List String) : Option String :=
  if args = ["rev-parse", "--show-toplevel"] then repository.root
  else if args = ["rev-parse", "--verify", "HEAD"] then repository.head
  else if args = ["rev-parse", "--verify", "@\x7bupstream\x7d"] then repository.upstream
  else if args = ["branch", "--show-current"] then repository.branch
  else if args = statusArgs then repository.status
  else repository.base

def commandResponse : Option String → Json
  | some stdout =>
    .object [("exitCode", .nat 0), ("stdout", .string stdout), ("stderr", .string "")]
  | none =>
    .object [("exitCode", .nat 128), ("stdout", .string ""), ("stderr", .string "fatal")]

def PrintsCommit (printed : Option String) (commit : String) : Prop :=
  ∃ stdout, printed = some stdout ∧ IsText 128 (some (.string (firstLine (scriptTrim stdout)))) commit

theorem readCommit_ok {stdout label commit : String} :
    readCommit stdout label = .ok commit ↔ PrintsCommit (some stdout) commit := by
  refine requiredString_ok.trans ⟨fun isText => ⟨stdout, rfl, isText⟩, ?_⟩
  rintro ⟨_, ⟨⟩, isText⟩
  exact isText

theorem PrintsCommit.unique {printed : Option String} {commit commit' : String}
    (left : PrintsCommit printed commit) (right : PrintsCommit printed commit') :
    commit = commit' := by
  obtain ⟨stdout, rfl, raw, isRaw, rfl, -⟩ := left
  obtain ⟨_, ⟨⟩, raw', isRaw', rfl, -⟩ := right
  rw [isRaw] at isRaw'
  rw [Option.some.inj isRaw']

/-- **The conditions of the preflight** on a repository. -/
structure PreflightHolds (platform : Platform) (workspace : String) (task : HostTask)
    (repository : Repository) : Prop where
  root : ∃ stdout, repository.root = some stdout ∧ firstLine (scriptTrim stdout) ≠ "" ∧
    workspaceInsideRepository platform (platform.resolve (firstLine (scriptTrim stdout)))
      workspace = true
  head : ∃ commit, PrintsCommit repository.head commit
  base : task.target.baseRef.isSome = true → ∃ head base, PrintsCommit repository.head head ∧
    PrintsCommit repository.base base ∧ sameCommit platform head base = true
  clean : task.execution.requireCleanWorktree = true →
    ∃ stdout, repository.status = some stdout ∧ scriptTrim stdout = ""

/-- **The conditions of the postflight** on a repository. -/
structure PostflightHolds (platform : Platform) (task : HostTask) (repository : Repository) :
    Prop where
  head : ∃ commit, PrintsCommit repository.head commit
  branch : ∃ stdout, repository.branch = some stdout
  status : ∃ stdout, repository.status = some stdout ∧
    (task.execution.requireCleanWorktreeOnSuccess = true → scriptTrim stdout = "")
  synced : task.execution.requireRemoteSyncOnSuccess = true → ∃ head upstream,
    PrintsCommit repository.head head ∧ PrintsCommit repository.upstream upstream ∧
      sameCommit platform head upstream = true

/-! ## The checks where a repository answers -/

section Answering

variable {answers : HostWorld → (hostCall : HostCall) → Except String (HostReply hostCall) →
    HostWorld → Prop}
  {repository : Repository} {kept : HostWorld → Prop} {world : HostWorld}

/-- **The repository answers the commands**, as long as the world is `kept`. -/
def Answering (answers : HostWorld → (hostCall : HostCall) → Except String (HostReply hostCall) →
      HostWorld → Prop)
    (repository : Repository) (kept : HostWorld → Prop) : Prop :=
  ∀ world args cwd reply world', kept world →
    answers world (.execCommand ("git" :: args) cwd) reply world' →
      reply = .ok (commandResponse (repository.prints args)) ∧ kept world'

variable (answering : Answering answers repository kept)

include answering

theorem ensures_runGitCommand (held : kept world) {args : List String}
    (prints : ∃ stdout, repository.prints args = some stdout) (label : String) :
    Ensures answers (Yields fun read world' => some read = repository.prints args ∧ kept world')
      (runGitCommand platform workspace args label) world := by
  obtain ⟨stdout, prints⟩ := prints
  unfold runGitCommand
  refine .await trivial (fun _ _ _ => trivial) fun reply world' answered => ?_
  obtain ⟨rfl, held'⟩ := answering _ _ _ _ _ held answered
  rw [prints]
  exact .returned ⟨rfl, held'⟩

theorem only_runGitCommand (held : kept world) (args : List String) (label : String) :
    Ensures answers (Always kept fun stdout _ => repository.prints args = some stdout)
      (runGitCommand platform workspace args label) world := by
  unfold runGitCommand
  refine ensures_always_await held (fun _ _ answered => (answering _ _ _ _ _ held answered).2) ?_
  intro reply world' answered
  obtain ⟨rfl, held'⟩ := answering _ _ _ _ _ held answered
  cases prints : repository.prints args with
  | none => exact ensures_always_thrown held'
  | some stdout => exact ensures_always_returned held' rfl

variable {headCommit : String}

section

variable (held : kept world)
include held

theorem ensures_baseCommitPreflight (holds : PreflightHolds platform workspace task repository)
    (isHead : PrintsCommit repository.head headCommit) :
    Ensures answers (Yields fun _ world' => kept world')
      (baseCommitPreflight platform workspace headCommit task.target.baseRef) world := by
  cases asked : task.target.baseRef with
  | none => exact .returned held
  | some baseRef =>
    have isAsked : task.target.baseRef.isSome = true := by rw [asked]; rfl
    obtain ⟨head, base, isHead', ⟨stdout, prints, isText⟩, same⟩ := holds.base isAsked
    rw [isHead'.unique isHead] at same
    refine Ensures.after (ensures_runGitCommand answering held ?_ _) (fun _ => trivial) ?_
    · exact ⟨_, prints⟩
    rintro read world' ⟨isRead, held'⟩
    obtain rfl := (Option.some.inj (isRead.trans prints)).symm
    rw [readCommit_ok.2 ⟨_, rfl, isText⟩]
    simp only [Program.ofExcept, returned_bind, same, if_true]
    exact .returned held'

theorem only_baseCommitPreflight (isHead : PrintsCommit repository.head headCommit) :
    Ensures answers (Always kept fun _ _ => task.target.baseRef.isSome = true → ∃ head base,
        PrintsCommit repository.head head ∧ PrintsCommit repository.base base ∧
          sameCommit platform head base = true)
      (baseCommitPreflight platform workspace headCommit task.target.baseRef) world := by
  cases asked : task.target.baseRef with
  | none => exact ensures_always_returned held (by simp)
  | some baseRef =>
    refine (only_runGitCommand answering held _ _).seq fun stdout world₁ held₁ prints => ?_
    refine (ensures_always_ofExcept held₁).seq fun baseCommit world₂ held₂ isRead => ?_
    have isBase := readCommit_ok.1 isRead
    rw [← prints] at isBase
    split
    · rename_i same
      exact ensures_always_returned held₂ fun _ => ⟨headCommit, baseCommit, isHead, isBase, same⟩
    · exact ensures_always_thrown held₂

theorem ensures_cleanWorktreePreflight (holds : PreflightHolds platform workspace task repository) :
    Ensures answers (Yields fun _ world' => kept world')
      (cleanWorktreePreflight platform workspace task.execution.requireCleanWorktree) world := by
  unfold cleanWorktreePreflight
  split
  · rename_i asked
    obtain ⟨stdout, prints, clean⟩ := holds.clean asked
    refine Ensures.after (ensures_runGitCommand answering held ?_ _) (fun _ => trivial) ?_
    · exact ⟨_, prints⟩
    rintro read world' ⟨isRead, held'⟩
    obtain rfl := (Option.some.inj (isRead.trans prints)).symm
    rw [if_pos clean]
    exact .returned held'
  · exact .returned held

theorem only_cleanWorktreePreflight :
    Ensures answers (Always kept fun _ _ => task.execution.requireCleanWorktree = true →
        ∃ stdout, repository.status = some stdout ∧ scriptTrim stdout = "")
      (cleanWorktreePreflight platform workspace task.execution.requireCleanWorktree) world := by
  unfold cleanWorktreePreflight
  split
  · refine (only_runGitCommand answering held _ _).seq fun stdout world₁ held₁ prints => ?_
    split
    · rename_i clean
      exact ensures_always_returned held₁ fun _ => ⟨stdout, prints, clean⟩
    · exact ensures_always_thrown held₁
  · rename_i notAsked
    exact ensures_always_returned held fun asked => absurd asked notAsked

/-- **The preflight returns** where its conditions hold. -/
theorem ensures_runGitPreflight (holds : PreflightHolds platform workspace task repository) :
    Ensures answers (Yields fun _ world' => kept world') (runGitPreflight platform workspace task)
      world := by
  obtain ⟨root, printsRoot, nonempty, inside⟩ := holds.root
  obtain ⟨headCommit, isHead⟩ := holds.head
  obtain ⟨head, printsHead, isText⟩ := isHead
  unfold runGitPreflight
  refine Ensures.after (ensures_runGitCommand answering held ?_ _) (fun _ => trivial) ?_
  · exact ⟨_, printsRoot⟩
  rintro read world₁ ⟨isRead, held₁⟩
  obtain rfl := (Option.some.inj (isRead.trans printsRoot)).symm
  simp only [nonempty, inside, if_false, Bool.not_true, Bool.false_eq_true]
  refine Ensures.after (ensures_runGitCommand answering held₁ ?_ _) (fun _ => trivial) ?_
  · exact ⟨_, printsHead⟩
  rintro read world₂ ⟨isRead, held₂⟩
  obtain rfl := (Option.some.inj (isRead.trans printsHead)).symm
  rw [readCommit_ok.2 ⟨_, rfl, isText⟩]
  refine (ensures_baseCommitPreflight answering held₂ holds ⟨_, printsHead, isText⟩).after
    (fun _ => trivial) fun baseCommit world₃ held₃ => ?_
  refine (ensures_cleanWorktreePreflight answering held₃ holds).after (fun _ => trivial) ?_
  exact fun cleanWorktree world₄ held₄ => .returned held₄

/-- **The preflight returns only** where its conditions hold. -/
theorem only_runGitPreflight :
    Ensures answers (Always kept fun _ _ => PreflightHolds platform workspace task repository)
      (runGitPreflight platform workspace task) world := by
  unfold runGitPreflight
  refine (only_runGitCommand answering held _ _).seq fun root world₁ held₁ printsRoot => ?_
  dsimp only
  split
  · exact ensures_always_thrown held₁
  · rename_i nonempty
    split
    · exact ensures_always_thrown held₁
    · rename_i inside
      refine (only_runGitCommand answering held₁ _ _).seq fun head world₂ held₂ printsHead => ?_
      refine (ensures_always_ofExcept held₂).seq fun headCommit world₃ held₃ isRead => ?_
      have isHead := readCommit_ok.1 isRead
      rw [← printsHead] at isHead
      refine (only_baseCommitPreflight answering held₃ isHead).seq ?_
      intro baseCommit world₄ held₄ base
      refine (only_cleanWorktreePreflight answering held₄).seq ?_
      intro cleanWorktree world₅ held₅ clean
      refine ensures_always_returned held₅ ⟨⟨root, printsRoot, nonempty, ?_⟩, ⟨_, isHead⟩, base, clean⟩
      simpa using inside

theorem ensures_remoteSyncPostflight
    (holds : PostflightHolds platform task repository) (isHead : PrintsCommit repository.head headCommit) :
    Ensures answers (Yields fun _ world' => kept world')
      (remoteSyncPostflight platform workspace headCommit
        task.execution.requireRemoteSyncOnSuccess) world := by
  unfold remoteSyncPostflight
  split
  · rename_i asked
    obtain ⟨head, upstream, isHead', ⟨stdout, prints, isText⟩, same⟩ := holds.synced asked
    rw [isHead'.unique isHead] at same
    refine Ensures.after (ensures_runGitCommand answering held ?_ _) (fun _ => trivial) ?_
    · exact ⟨_, prints⟩
    rintro read world₄ ⟨isRead, held₄⟩
    obtain rfl := (Option.some.inj (isRead.trans prints)).symm
    rw [readCommit_ok.2 ⟨_, rfl, isText⟩]
    simp only [Program.ofExcept, returned_bind, same, if_true]
    exact .returned held₄
  · exact .returned held

/-- **The postflight returns** where its conditions hold. -/
theorem ensures_runGitPostflight
    (holds : PostflightHolds platform task repository) (preflight : GitPreflight) :
    Ensures answers (Yields fun _ world' => kept world')
      (runGitPostflight platform workspace task preflight) world := by
  obtain ⟨headCommit, head, printsHead, isText⟩ := holds.head
  obtain ⟨branch, printsBranch⟩ := holds.branch
  obtain ⟨status, printsStatus, clean⟩ := holds.status
  unfold runGitPostflight
  refine Ensures.after (ensures_runGitCommand answering held ?_ _) (fun _ => trivial) ?_
  · exact ⟨_, printsHead⟩
  rintro read world₁ ⟨isRead, held₁⟩
  obtain rfl := (Option.some.inj (isRead.trans printsHead)).symm
  rw [readCommit_ok.2 ⟨_, rfl, isText⟩]
  simp only [Program.ofExcept, returned_bind]
  refine Ensures.after (ensures_runGitCommand answering held₁ ?_ _) (fun _ => trivial) ?_
  · exact ⟨_, printsBranch⟩
  rintro read world₂ ⟨isRead, held₂⟩
  obtain rfl := (Option.some.inj (isRead.trans printsBranch)).symm
  refine Ensures.after (ensures_runGitCommand answering held₂ ?_ _) (fun _ => trivial) ?_
  · exact ⟨_, printsStatus⟩
  rintro read world₃ ⟨isRead, held₃⟩
  obtain rfl := (Option.some.inj (isRead.trans printsStatus)).symm
  have passes : (task.execution.requireCleanWorktreeOnSuccess &&
      !decide (scriptTrim status = "")) = false := by
    cases asked : task.execution.requireCleanWorktreeOnSuccess with
    | false => rfl
    | true => simp [clean asked]
  simp only [passes, Bool.false_eq_true, if_false]
  refine (ensures_remoteSyncPostflight answering held₃ holds ⟨_, printsHead, isText⟩).after
    (fun _ => trivial) fun upstreamCommit world₄ held₄ => ?_
  exact .returned held₄

theorem only_remoteSyncPostflight (isHead : PrintsCommit repository.head headCommit) :
    Ensures answers (Always kept fun _ _ => task.execution.requireRemoteSyncOnSuccess = true →
        ∃ head upstream, PrintsCommit repository.head head ∧
          PrintsCommit repository.upstream upstream ∧ sameCommit platform head upstream = true)
      (remoteSyncPostflight platform workspace headCommit
        task.execution.requireRemoteSyncOnSuccess) world := by
  unfold remoteSyncPostflight
  split
  · refine (only_runGitCommand answering held _ _).seq fun stdout world₁ held₁ prints => ?_
    refine (ensures_always_ofExcept held₁).seq fun upstreamCommit world₂ held₂ isRead => ?_
    have isUpstream := readCommit_ok.1 isRead
    rw [← prints] at isUpstream
    split
    · rename_i same
      refine ensures_always_returned held₂ fun _ => ?_
      exact ⟨headCommit, upstreamCommit, isHead, isUpstream, same⟩
    · exact ensures_always_thrown held₂
  · rename_i notAsked
    exact ensures_always_returned held fun asked => absurd asked notAsked

/-- **The postflight returns only** where its conditions hold. -/
theorem only_runGitPostflight (preflight : GitPreflight) :
    Ensures answers (Always kept fun _ _ => PostflightHolds platform task repository)
      (runGitPostflight platform workspace task preflight) world := by
  unfold runGitPostflight
  refine (only_runGitCommand answering held _ _).seq fun head world₁ held₁ printsHead => ?_
  refine (ensures_always_ofExcept held₁).seq fun headCommit world₂ held₂ isRead => ?_
  have isHead := readCommit_ok.1 isRead
  rw [← printsHead] at isHead
  refine (only_runGitCommand answering held₂ _ _).seq fun branch world₃ held₃ printsBranch => ?_
  refine (only_runGitCommand answering held₃ _ _).seq fun status world₄ held₄ printsStatus => ?_
  dsimp only
  split
  · exact ensures_always_thrown held₄
  · rename_i passes
    refine (only_remoteSyncPostflight answering held₄ isHead).seq fun upstream world₅ held₅ synced => ?_
    refine ensures_always_returned held₅ ⟨⟨_, isHead⟩, ⟨branch, printsBranch⟩, ?_, synced⟩
    refine ⟨status, printsStatus, fun asked => ?_⟩
    -- the gate is on and has not stopped the postflight
    by_contra dirty
    exact passes (by rw [asked]; simp [dirty])

end

end Answering

end Zero3Pilot.RemoteHost
