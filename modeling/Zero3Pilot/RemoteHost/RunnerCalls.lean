import Zero3Pilot.RemoteHost.TaskRunner

/-! # What the parts of a run may call

The parts of `run` that check, read and report make *passive* calls only: they neither write the
mapping file nor start a thread or a turn. Such a part changes the world *quietly*, whatever it is
answered and wherever it stops. -/

namespace Zero3Pilot.RemoteHost

open Program

variable {platform : Platform} {config : HostConfig} {rounds : Nat} {leaseTask : Json}

/-! ## Passive programs -/

def HostCall.isExec : HostCall → Bool
  | .execCommand .. => true
  | _ => false

def HostCall.isPassive : HostCall → Bool
  | .writeMappings _ | .startThread _ | .startTurn _ => false
  | _ => true

abbrev OnlyExec {α : Type} (program : HostProgram α) : Prop :=
  program.Only fun hostCall => hostCall.isExec = true

abbrev Passive {α : Type} (program : HostProgram α) : Prop :=
  program.Only fun hostCall => hostCall.isPassive = true

theorem OnlyExec.passive {α : Type} {program : HostProgram α} (only : OnlyExec program) :
    Passive program := by
  refine Only.mono only fun hostCall isExec => ?_
  cases hostCall <;> first | rfl | cases isExec

theorem passive_pushEvidence (evidence : List EvidenceItem) (method : String) (params : Json) :
    Passive (pushEvidence evidence method params) := by
  unfold pushEvidence
  exact Only.bind (only_perform _ rfl) fun _ => only_pure _

theorem onlyExec_runGitCommand (workspace : String) (args : List String) (label : String) :
    OnlyExec (runGitCommand platform workspace args label) := by
  unfold runGitCommand
  refine Only.bind (only_perform _ rfl) fun response => ?_
  refine Only.bind ?_ fun result => ?_
  · unfold commandExecResult
    dsimp only
    split
    · exact only_throw _
    · exact only_pure _
  · split
    · exact only_throw _
    · exact only_pure _

theorem onlyExec_baseCommitPreflight (workspace headCommit : String) (baseRef : Option String) :
    OnlyExec (baseCommitPreflight platform workspace headCommit baseRef) := by
  cases baseRef with
  | none => exact only_pure _
  | some baseRef =>
    refine Only.bind (onlyExec_runGitCommand _ _ _) fun stdout => ?_
    refine Only.bind (only_ofExcept _ _) fun baseCommit => ?_
    split
    · exact only_pure _
    · exact only_throw _

theorem onlyExec_cleanWorktreePreflight (workspace : String) (required : Bool) :
    OnlyExec (cleanWorktreePreflight platform workspace required) := by
  unfold cleanWorktreePreflight
  split
  · refine Only.bind (onlyExec_runGitCommand _ _ _) fun status => ?_
    split
    · exact only_pure _
    · exact only_throw _
  · exact only_pure _

theorem onlyExec_runGitPreflight (workspace : String) (task : HostTask) :
    OnlyExec (runGitPreflight platform workspace task) := by
  unfold runGitPreflight
  refine Only.bind (onlyExec_runGitCommand _ _ _) fun rootText => ?_
  dsimp only
  split
  · exact only_throw _
  · split
    · exact only_throw _
    · refine Only.bind (onlyExec_runGitCommand _ _ _) fun headText => ?_
      refine Only.bind (only_ofExcept _ _) fun headCommit => ?_
      refine Only.bind (onlyExec_baseCommitPreflight _ _ _) fun baseCommit => ?_
      exact Only.bind (onlyExec_cleanWorktreePreflight _ _) fun cleanWorktree => only_pure _

theorem onlyExec_remoteSyncPostflight (workspace headCommit : String) (required : Bool) :
    OnlyExec (remoteSyncPostflight platform workspace headCommit required) := by
  unfold remoteSyncPostflight
  split
  · refine Only.bind (onlyExec_runGitCommand _ _ _) fun stdout => ?_
    refine Only.bind (only_ofExcept _ _) fun upstreamCommit => ?_
    split
    · exact only_pure _
    · exact only_throw _
  · exact only_pure _

theorem onlyExec_runGitPostflight (workspace : String) (task : HostTask)
    (preflight : GitPreflight) :
    OnlyExec (runGitPostflight platform workspace task preflight) := by
  unfold runGitPostflight
  refine Only.bind (onlyExec_runGitCommand _ _ _) fun headText => ?_
  refine Only.bind (only_ofExcept _ _) fun headCommit => ?_
  refine Only.bind (onlyExec_runGitCommand _ _ _) fun branchText => ?_
  refine Only.bind (onlyExec_runGitCommand _ _ _) fun status => ?_
  dsimp only
  split
  · exact only_throw _
  · exact Only.bind (onlyExec_remoteSyncPostflight _ _ _) fun upstreamCommit => only_pure _

theorem passive_readThreadRounds {σ : Type} (threadId : String) (deadline : Nat)
    {onWait : Nat → σ → HostProgram σ} (waits : ∀ attempt state, Passive (onWait attempt state))
    (rounds : Nat) : ∀ attempt state,
      Passive (readThreadRounds threadId deadline onWait rounds attempt state) := by
  induction rounds with
  | zero => exact fun _ _ => .suspended
  | succ rounds ih =>
    intro attempt state
    refine Only.await rfl fun reply => ?_
    cases reply with
    | ok snapshot => exact only_pure _
    | error message =>
      dsimp only
      split
      · exact only_throw _
      · refine Only.bind (only_perform _ rfl) fun time => ?_
        split
        · exact only_throw _
        · refine Only.bind (waits _ _) fun state => ?_
          exact Only.bind (only_perform _ rfl) fun _ => ih _ _

theorem passive_readThread {σ : Type} (rounds : Nat) (threadId : String) (timeoutMs : Nat)
    {onWait : Nat → σ → HostProgram σ} (waits : ∀ attempt state, Passive (onWait attempt state))
    (state : σ) :
    Passive (readThreadWhenMaterialized rounds threadId timeoutMs onWait state) := by
  unfold readThreadWhenMaterialized
  exact Only.bind (only_perform _ rfl) fun time =>
    passive_readThreadRounds threadId _ waits rounds 0 state

theorem passive_recoverPendingTurn (rounds : Nat) (mapping : CodexMapping) (clientId : String) :
    Passive (recoverPendingTurn rounds mapping clientId) := by
  unfold recoverPendingTurn
  refine Only.bind (only_perform _ rfl) fun time => ?_
  generalize time + 5000 = deadline
  -- the rounds that are left, with the rounds of a read fixed
  have rounds_passive : ∀ round, Passive (recoverRounds rounds mapping clientId deadline round) := by
    intro round
    induction round with
    | zero => exact .suspended
    | succ round ih =>
      unfold recoverRounds
      refine Only.bind (only_perform _ rfl) fun time => ?_
      refine Only.bind (Only.catching ?_ ?_) fun snapshot => ?_
      · unfold readSnapshot
        exact Only.bind (passive_readThread _ _ _ (fun _ _ => only_pure _) _) fun _ => only_pure _
      · intro error
        split
        · exact only_pure _
        · exact only_throw _
      · split
        · exact only_pure _
        · split
          · exact only_pure _
          · refine Only.bind (only_perform _ rfl) fun time => ?_
            have goes_on : Passive (do
                let time ← call .now
                if time < deadline then recoverRounds rounds mapping clientId deadline round
                else return none) := by
              refine Only.bind (only_perform _ rfl) fun time => ?_
              split
              · exact ih
              · exact only_pure _
            dsimp only
            split
            · exact Only.bind (only_perform _ rfl) fun _ => goes_on
            · exact goes_on
  exact rounds_passive rounds

theorem within_pollTurn (observed : Observed) (deadline round : Nat) : ∀ state,
    (pollTurn platform config rounds observed deadline round state).Within
      (fun hostCall => hostCall.isPassive = true) fun result => result.turnId = observed.turnId := by
  have waits : ∀ attempt state, Passive (onMaterializationWait observed attempt state) := by
    intro attempt state
    unfold onMaterializationWait
    split
    · exact only_pure _
    · exact Only.bind (passive_pushEvidence _ _ _) fun _ => only_pure _
  induction round with
  | zero => exact fun _ => .suspended
  | succ round ih =>
    intro state
    unfold pollTurn
    refine Only.within (only_perform _ rfl) fun time => ?_
    split
    · exact .returned rfl
    · refine Only.within (only_perform _ rfl) fun time => ?_
      refine Only.within (passive_readThread _ _ _ waits _) fun read => ?_
      dsimp only
      split
      · exact Only.within (only_perform _ rfl) fun _ => ih _
      · refine Only.within ?_ fun state => ?_
        · unfold recordStatus
          split
          · exact Only.bind (passive_pushEvidence _ _ _) fun _ => only_pure _
          · exact only_pure _
        · split
          · unfold finishCompleted
            refine Only.within (onlyExec_runGitPostflight _ _ _).passive fun postflight => ?_
            refine Only.within (passive_pushEvidence _ _ _) fun evidence => ?_
            exact Only.within (passive_pushEvidence _ _ _) fun evidence => .returned rfl
          · split
            · unfold finishFailed
              exact Only.within (passive_pushEvidence _ _ _) fun evidence => .returned rfl
            · exact Only.within (only_perform _ rfl) fun _ => ih _

def Accepted (platform : Platform) (config : HostConfig) (leaseTask : Json)
    (accepted : HostTask × String × GitPreflight) : Prop :=
  validateTask platform.coerce leaseTask = .ok accepted.1 ∧
    ∃ allowed, workspaceAllowed platform config accepted.1.target.workspace = some allowed ∧
      accepted.2.1 = platform.resolve allowed

theorem within_acceptTask (config : HostConfig) (leaseTask : Json) :
    (acceptTask platform config leaseTask).Within (fun hostCall => hostCall.isExec = true)
      (Accepted platform config leaseTask) := by
  unfold acceptTask
  refine Within.bind (within_ofExcept _ _ _) fun task valid => ?_
  split
  · exact .thrown
  · rename_i allowed isAllowed
    refine Only.within (onlyExec_runGitPreflight _ _) fun preflight => ?_
    exact .returned ⟨valid, allowed, isAllowed, rfl⟩

/-! ## Turns started -/

def turnStarts (log : List LogEntry) : List TurnParams :=
  log.filterMap fun entry =>
    match entry.call with
    | .startTurn params => some params
    | _ => none

theorem turnStarts_append {log : List LogEntry} {hostCall : HostCall}
    {reply : Except String (HostReply hostCall)} (noStart : ∀ params, hostCall ≠ .startTurn params) :
    turnStarts (log ++ [⟨hostCall, reply⟩]) = turnStarts log := by
  rw [turnStarts, List.filterMap_append]
  cases hostCall with
  | startTurn params => exact absurd rfl (noStart params)
  | _ => exact List.append_nil _

/-- **A quiet change of the world**: the mapping file is the same, no turn was started, and the log
has grown. -/
structure Quiet (world world' : HostWorld) : Prop where
  mappings : world'.mappings = world.mappings
  starts : turnStarts world'.log = turnStarts world.log
  log : world.log <+: world'.log

theorem Quiet.refl (world : HostWorld) : Quiet world world :=
  ⟨rfl, rfl, List.prefix_refl _⟩

theorem Quiet.trans {first second third : HostWorld} (left : Quiet first second)
    (right : Quiet second third) : Quiet first third :=
  ⟨right.mappings.trans left.mappings, right.starts.trans left.starts, left.log.trans right.log⟩

theorem quiet_of_answers {world world' : HostWorld} {hostCall : HostCall}
    {reply : Except String (HostReply hostCall)} (noWrite : hostCall.isWrite = false)
    (noStart : ∀ params, hostCall ≠ .startTurn params)
    (answered : answers world hostCall reply world') : Quiet world world' where
  mappings := answers_mappings noWrite answered
  starts := by rw [answered.2, turnStarts_append noStart]
  log := by rw [answered.2]; exact List.prefix_append _ _

theorem ensures_quiet {α : Type} {program : HostProgram α} {values : α → Prop}
    (within : program.Within (fun hostCall => hostCall.isPassive = true) values)
    (world : HostWorld) :
    Ensures answers (Always (Quiet world) fun value _ => values value) program world := by
  refine within.ensures ?_ (Quiet.refl world)
  intro before hostCall reply after passive quiet answered
  refine quiet.trans (quiet_of_answers ?_ ?_ answered)
  · cases hostCall <;> first | rfl | cases passive
  · rintro params rfl
    cases passive

end Zero3Pilot.RemoteHost
