import Zero3Pilot.RemoteHost.HostRuntime

/-! # The Git checks of the task runner

`runGitPreflight` and `runGitPostflight` of `host-runtime/remote-task-runner.ts`: every fact about the
repository is read through Codex's command execution, and a fact that cannot be read blocks the
task. -/

namespace Zero3Pilot.RemoteHost

open ScriptValue

variable (platform : Platform)

structure GitPreflight where
  (repositoryRoot headCommit : String)
  baseCommit : Option String
  cleanWorktree : Option Bool

structure GitPostflight where
  (repositoryRoot headCommit : String)
  baseCommit : Option String
  cleanWorktree : Option Bool
  (branch upstreamCommit : Option String)
  remoteSynced : Option Bool

/-! ## Commands -/

/-- What a command comes back with. -/
structure CommandResult where
  exitCode : Int
  (stdout stderr : String)

def boundedDiagnostic (value : String) : String := boundedText 2000 (scriptTrim value)

def textOr (left right : String) : String := if left = "" then right else left

def commandExecResult (value : Json) (label : String) : HostProgram CommandResult :=
  let root := asRecord (some value)
  match toInteger? platform.coerce (root.get "exitCode") with
  | none => throw (.blocked (label ++ " returned an invalid exit code"))
  | some exitCode => return {
      exitCode
      stdout := (root.get "stdout").text?.getD ""
      stderr := (root.get "stderr").text?.getD "" }

def runGitCommand (workspace : String) (args : List String) (label : String) :
    HostProgram String := do
  let response ← .perform
    (fun message => .blocked (label ++ " could not be proven through Codex command/exec: " ++ message))
    (.execCommand ("git" :: args) workspace)
  let result ← commandExecResult platform response label
  if result.exitCode ≠ 0 then
    let detail := boundedDiagnostic (textOr result.stderr (textOr result.stdout
      ("exit code " ++ toString result.exitCode)))
    throw (.blocked (label ++ " failed: " ++ detail))
  else return result.stdout

/-! ## Reading the output -/

def firstLine (text : String) : String :=
  let line := text.toList.takeWhile (· ≠ '\n')
  if line.length < text.toList.length ∧ line.getLast? = some '\r' then String.ofList line.dropLast
  else String.ofList line

/-- The commit a command prints. -/
def readCommit (stdout label : String) : Except String String :=
  requiredString (some (.string (firstLine (scriptTrim stdout)))) label 128

def workspaceInsideRepository (repositoryRoot workspace : String) : Bool :=
  let relative := platform.relative repositoryRoot workspace
  relative = "" || (!(['.', '.'].isPrefixOf relative.toList) && !platform.isAbsolute relative)

def sameCommit (left right : String) : Bool :=
  platform.toLowerCase left = platform.toLowerCase right

/-- The command that prints the status of the worktree. -/
def statusArgs : List String := ["status", "--porcelain=v1", "--untracked-files=normal"]

/-! ## Preflight -/

def baseCommitPreflight (workspace headCommit : String) :
    Option String → HostProgram (Option String)
  | none => return none
  | some baseRef => do
    let stdout ← runGitCommand platform workspace
      ["rev-parse", "--verify", "--end-of-options", baseRef ++ "^\x7bcommit\x7d"]
      "Git base-ref preflight"
    let baseCommit ← .ofExcept .plain (readCommit stdout "Git base commit")
    if sameCommit platform headCommit baseCommit then return some baseCommit
    else throw (.blocked ("Git base-ref preflight failed: workspace HEAD " ++ headCommit ++
      " does not match requested base " ++ baseCommit))

/-- Whether the worktree is clean, where the task asks for that: it must be. -/
def cleanWorktreePreflight (workspace : String) (required : Bool) : HostProgram (Option Bool) :=
  if required then do
    let status ← runGitCommand platform workspace statusArgs "Git clean-worktree preflight"
    if scriptTrim status = "" then return some true
    else throw (.blocked ("Git clean-worktree preflight failed: " ++
      textOr (boundedDiagnostic status) "workspace is dirty"))
  else return none

def runGitPreflight (workspace : String) (task : HostTask) : HostProgram GitPreflight := do
  let rootText ← runGitCommand platform workspace ["rev-parse", "--show-toplevel"]
    "Git repository-root preflight"
  let repositoryRootText := firstLine (scriptTrim rootText)
  if repositoryRootText = "" then
    throw (.blocked "Git repository-root preflight returned an empty repository root")
  let repositoryRoot := platform.resolve repositoryRootText
  if !workspaceInsideRepository platform repositoryRoot workspace then
    throw (.blocked "remote task workspace is not inside the Git repository reported by Codex command/exec")
  let headText ← runGitCommand platform workspace ["rev-parse", "--verify", "HEAD"]
    "Git HEAD preflight"
  let headCommit ← .ofExcept .plain (readCommit headText "Git HEAD commit")
  let baseCommit ← baseCommitPreflight platform workspace headCommit task.target.baseRef
  let cleanWorktree ← cleanWorktreePreflight platform workspace task.execution.requireCleanWorktree
  return { repositoryRoot, headCommit, baseCommit, cleanWorktree }

/-! ## Postflight -/

/-- The upstream commit, where the task asks for it: it must be the head. -/
def remoteSyncPostflight (workspace headCommit : String) (required : Bool) :
    HostProgram (Option String) :=
  if required then do
    let stdout ← runGitCommand platform workspace
      ["rev-parse", "--verify", "@\x7bupstream\x7d"] "Git upstream postflight"
    let upstreamCommit ← .ofExcept .plain (readCommit stdout "Git upstream commit")
    if sameCommit platform headCommit upstreamCommit then return some upstreamCommit
    else throw (.blocked ("Git completion gate failed: local HEAD " ++ headCommit ++
      " does not match upstream " ++ upstreamCommit))
  else return none

def runGitPostflight (workspace : String) (task : HostTask) (preflight : GitPreflight) :
    HostProgram GitPostflight := do
  let headText ← runGitCommand platform workspace ["rev-parse", "--verify", "HEAD"]
    "Git HEAD postflight"
  let headCommit ← .ofExcept .plain (readCommit headText "Git postflight HEAD commit")
  let branchText ← runGitCommand platform workspace ["branch", "--show-current"]
    "Git branch postflight"
  let branch := scriptTrim branchText
  let status ← runGitCommand platform workspace statusArgs "Git worktree postflight"
  let cleanWorktree := decide (scriptTrim status = "")
  if task.execution.requireCleanWorktreeOnSuccess && !cleanWorktree then
    throw (.blocked ("Git completion gate failed: " ++
      textOr (boundedDiagnostic status) "workspace is dirty"))
  let upstreamCommit ← remoteSyncPostflight platform workspace headCommit
    task.execution.requireRemoteSyncOnSuccess
  return {
    repositoryRoot := preflight.repositoryRoot
    headCommit
    baseCommit := preflight.baseCommit
    cleanWorktree := some cleanWorktree
    branch := if branch = "" then none else some branch
    upstreamCommit
    remoteSynced := upstreamCommit.map fun _ => true }

/-! ## Evidence -/

def orNull (value : Option Json) : Json := value.getD .null

def GitPreflight.evidence (value : GitPreflight) : Json :=
  .object [("repository_root", .string value.repositoryRoot),
    ("head_commit", .string value.headCommit),
    ("base_commit", orNull (value.baseCommit.map .string)),
    ("clean_worktree", orNull (value.cleanWorktree.map .bool))]

def GitPostflight.evidence (value : GitPostflight) : Json :=
  .object [("repository_root", .string value.repositoryRoot),
    ("head_commit", .string value.headCommit),
    ("base_commit", orNull (value.baseCommit.map .string)),
    ("clean_worktree", orNull (value.cleanWorktree.map .bool)),
    ("branch", orNull (value.branch.map .string)),
    ("upstream_commit", orNull (value.upstreamCommit.map .string)),
    ("remote_synced", orNull (value.remoteSynced.map .bool))]

end Zero3Pilot.RemoteHost
