import Zero3Pilot.RemoteHost.RunHistory

/-! # Resuming a run

A run that stopped is run again from the mapping file it left. The turn has gone on in the meantime,
and may have changed the repository: what the preflight sees is the repository the turn has left, not
the one it was started in. -/

namespace Zero3Pilot.RemoteHost

open Program

variable {platform : Platform} {config : HostConfig} {rounds : Nat} {leaseTask : Json}
  {task : HostTask} {world world' : HostWorld}

/-! ## The world a run resumes in -/

def HostCall.isRead : HostCall → Bool
  | .readThread _ => true
  | _ => false

/-- The number of times a thread was read. -/
def readsOf (log : List LogEntry) : Nat := log.countP fun entry => entry.call.isRead

/-- **The world a run resumes in**: its clock, the repository before and after, the views of the thread. -/
structure Scene where
  start : Nat
  (atResume atEnd : Repository)
  view : Nat → Json

/-- The repository a command finds: the one at the end, once the thread has been read. -/
def Scene.repository (scene : Scene) (log : List LogEntry) : Repository :=
  if readsOf log = 0 then scene.atResume else scene.atEnd

/-- **The replies of the scene**, in which files can be used and the clock stays within the time limit. -/
def Scene.replies (scene : Scene) (task : HostTask) (log : List LogEntry) :
    (hostCall : HostCall) → Except String (HostReply hostCall) → Prop
  | .now, reply => ∃ time, reply = .ok time ∧ scene.start ≤ time ∧
      time < scene.start + task.execution.timeoutSeconds * 1000
  | .execCommand command _, reply =>
    reply = .ok (commandResponse ((scene.repository log).prints (command.drop 1)))
  | .readThread _, reply => reply = .ok (scene.view (readsOf log))
  | .readMappings, reply => ∃ mappings, reply = .ok mappings
  | .delay _, reply | .writeMappings _, reply | .emitEvidence _, reply => reply = .ok ()
  | .startThread _, _ | .startTurn _, _ => True

def Scene.answers (scene : Scene) (task : HostTask) (world : HostWorld) (hostCall : HostCall)
    (reply : Except String (HostReply hostCall)) (world' : HostWorld) : Prop :=
  RemoteHost.answers world hostCall reply world' ∧ scene.replies task world.log hostCall reply

def turnStatus (turn : Json) : String := (turn.get "status").text?.getD ""

/-- The turn is the one of the mapping: recorded in it, or found in every view under the client
identifier of its intent. -/
def Scene.IsTurnOf (scene : Scene) (mapping : CodexMapping) (turnId : String) : Prop :=
  recordedTurn mapping = some turnId ∨ recordedTurn mapping = none ∧ turnId ≠ "" ∧
      ∃ clientId, truthy mapping.pendingTurnClientId = some clientId ∧
        ∀ read, findTurnByClientId (scene.view read) clientId = some turnId

/-- **The turn completes** after some reads that show it in progress. -/
def Scene.Completes (scene : Scene) (turnId : String) (inProgress : Nat) : Prop :=
  ∀ read, ∃ turn, findTurn (scene.view read) turnId = some turn ∧
    (read < inProgress → turnStatus turn ∉ ["completed", "failed", "interrupted"]) ∧
    (inProgress ≤ read → turnStatus turn = "completed")

/-! ## One call in the scene -/

variable {scene : Scene} {mappings : Mappings} {reads : Nat}

/-- The mapping file and the number of reads so far. -/
def At (mappings : Mappings) (reads : Nat) (world : HostWorld) : Prop :=
  world.mappings = mappings ∧ readsOf world.log = reads

theorem At.answered {hostCall : HostCall} {reply : Except String (HostReply hostCall)}
    (at_ : At mappings reads world) (noWrite : hostCall.isWrite = false)
    (noRead : hostCall.isRead = false) (answered : scene.answers task world hostCall reply world') :
    At mappings reads world' := by
  refine ⟨?_, ?_⟩
  · rw [answers_mappings noWrite answered.1]
    exact at_.1
  · rw [answered.1.2, readsOf, List.countP_append, List.countP_singleton]
    simp only [noRead, Bool.false_eq_true, if_false, Nat.add_zero]
    exact at_.2

theorem answering_atResume : Answering (scene.answers task) scene.atResume (At mappings 0) := by
  intro world args cwd reply world' at_ answered
  refine ⟨?_, at_.answered rfl rfl answered⟩
  have replied : reply = _ := answered.2
  rw [replied, Scene.repository, if_pos at_.2]
  rfl

theorem answering_atEnd (some_read : 0 < reads) :
    Answering (scene.answers task) scene.atEnd (At mappings reads) := by
  intro world args cwd reply world' at_ answered
  refine ⟨?_, at_.answered rfl rfl answered⟩
  have replied : reply = _ := answered.2
  rw [replied, Scene.repository, if_neg (by rw [at_.2]; exact Nat.ne_of_gt some_read)]
  rfl

section

variable (at_ : At mappings reads world)
include at_

theorem ensures_now : Ensures (scene.answers task) (Yields fun (time : Nat) world' =>
        (scene.start ≤ time ∧ time < scene.start + task.execution.timeoutSeconds * 1000) ∧
          At mappings reads world') (call .now) world := by
  refine .await trivial (fun _ _ _ => trivial) fun reply world' answered => ?_
  obtain ⟨time, rfl, timely⟩ := answered.2
  exact .returned ⟨timely, at_.answered rfl rfl answered⟩

theorem ensures_delay (ms : Nat) :
    Ensures (scene.answers task) (Yields fun (_ : Unit) world' => At mappings reads world')
      (call (.delay ms)) world := by
  refine .await trivial (fun _ _ _ => trivial) fun reply world' answered => ?_
  obtain rfl : reply = .ok () := answered.2
  exact .returned (at_.answered rfl rfl answered)

theorem ensures_pushEvidence (evidence : List EvidenceItem) (method : String) (params : Json) :
    Ensures (scene.answers task) (Yields fun _ world' => At mappings reads world')
      (pushEvidence evidence method params) world := by
  refine .await trivial (fun _ _ _ => trivial) fun reply world' answered => ?_
  obtain rfl : reply = .ok () := answered.2
  exact .returned (at_.answered rfl rfl answered)

theorem ensures_readMappings_at :
    Ensures (scene.answers task) (Yields fun (read : Mappings) world' =>
        read = mappings ∧ At mappings reads world') (call .readMappings) world := by
  refine .await trivial (fun _ _ _ => trivial) fun reply world' answered => ?_
  obtain ⟨read, rfl⟩ := answered.2
  refine .returned ⟨?_, at_.answered rfl rfl answered⟩
  exact answered.1.1.1.trans at_.1

theorem ensures_putMapping_at (mapping : CodexMapping) :
    Ensures (scene.answers task) (Yields fun (_ : Unit) world' =>
        At (mappings.insert mapping.taskId mapping) reads world') (putMapping mapping) world := by
  unfold putMapping
  refine (ensures_readMappings_at at_).after (fun _ => trivial) ?_
  rintro _ world₁ ⟨rfl, at₁⟩
  refine .await trivial (fun _ _ _ => trivial) fun reply world' answered => ?_
  obtain rfl : reply = .ok () := answered.2
  refine .returned ⟨answered.1.1, ?_⟩
  rw [answered.1.2, readsOf, List.countP_append, List.countP_singleton]
  exact at₁.2

theorem ensures_readThreadRounds_at {σ : Type} (threadId : String)
    (deadline : Nat) (onWait : Nat → σ → HostProgram σ) (attempt : Nat) (state : σ)
    (enough : 0 < rounds) :
    Ensures (scene.answers task) (Yields fun read world' =>
        read = (scene.view reads, state) ∧ At mappings (reads + 1) world')
      (readThreadRounds threadId deadline onWait rounds attempt state) world := by
  obtain ⟨rounds, rfl⟩ := Nat.exists_eq_succ_of_ne_zero (Nat.ne_of_gt enough)
  refine .await trivial (fun _ _ _ => trivial) fun reply world' answered => ?_
  have replied : reply = .ok (scene.view (readsOf world.log)) := answered.2
  rw [at_.2] at replied
  subst replied
  refine .returned ⟨rfl, ?_, ?_⟩
  · rw [answers_mappings rfl answered.1]
    exact at_.1
  · rw [answered.1.2, readsOf, List.countP_append, List.countP_singleton]
    exact congrArg (· + 1) at_.2

theorem ensures_readThread_at {σ : Type} (threadId : String)
    (timeoutMs : Nat) (onWait : Nat → σ → HostProgram σ) (state : σ) (enough : 0 < rounds) :
    Ensures (scene.answers task) (Yields fun read world' =>
        read = (scene.view reads, state) ∧ At mappings (reads + 1) world')
      (readThreadWhenMaterialized rounds threadId timeoutMs onWait state) world := by
  unfold readThreadWhenMaterialized
  refine (ensures_now at_).after (fun _ => trivial) ?_
  rintro time world₁ ⟨-, at₁⟩
  exact ensures_readThreadRounds_at at₁ threadId _ onWait 0 state enough

end

/-! ## Observing the turn in the scene -/

theorem ensures_recordStatus (at_ : At mappings reads world) (observed : Observed) (turn : Json)
    (status : String) (state : PollState) :
    Ensures (scene.answers task) (Yields fun _ world' => At mappings reads world')
      (recordStatus observed turn status state) world := by
  unfold recordStatus
  split
  · refine (ensures_pushEvidence at_ _ _ _).after (fun _ => trivial) ?_
    exact fun evidence world₁ at₁ => .returned at₁
  · exact .returned at_

theorem ensures_finishCompleted (at_ : At mappings reads world) (some_read : 0 < reads)
    {observed : Observed} (postflight : PostflightHolds platform observed.task scene.atEnd)
    (turn : Json) (status : String) (state : PollState) :
    Ensures (scene.answers task) (Yields fun result _ =>
        result.state = .succeeded ∧ result.turnId = observed.turnId)
      (finishCompleted platform observed turn status state) world := by
  unfold finishCompleted
  refine (ensures_runGitPostflight (answering_atEnd some_read) at_ postflight _).after
    (fun _ => trivial) fun _ world₁ at₁ => ?_
  refine (ensures_pushEvidence at₁ _ _ _).after (fun _ => trivial) fun _ world₂ at₂ => ?_
  refine (ensures_pushEvidence at₂ _ _ _).after (fun _ => trivial) fun _ world₃ at₃ => ?_
  exact .returned ⟨rfl, rfl⟩

/-- **The polling loop succeeds**: the deadline is never reached, and there are rounds enough to read
the thread until it shows the turn completed. -/
theorem ensures_pollTurn {observed : Observed} {inProgress deadline : Nat}
    (completes : scene.Completes observed.turnId inProgress)
    (postflight : PostflightHolds platform observed.task scene.atEnd)
    (timely : scene.start + task.execution.timeoutSeconds * 1000 ≤ deadline) (some_rounds : 0 < rounds)
    (round : Nat) : ∀ reads state world, At mappings reads world → 0 < round →
      inProgress < reads + round →
      Ensures (scene.answers task) (Yields fun result _ =>
          result.state = .succeeded ∧ result.turnId = observed.turnId)
        (pollTurn platform config rounds observed deadline round state) world := by
  induction round with
  | zero => exact fun _ _ _ _ some_left => absurd some_left (lt_irrefl 0)
  | succ round ih =>
    intro reads state world at_ _ enough
    unfold pollTurn
    refine (ensures_now at_).after (fun _ => trivial) ?_
    rintro time world₁ ⟨⟨-, early⟩, at₁⟩
    rw [if_neg (by omega)]
    refine (ensures_now at₁).after (fun _ => trivial) ?_
    rintro time world₂ ⟨-, at₂⟩
    refine (ensures_readThread_at at₂ _ _ _ _ some_rounds).after (fun _ => trivial) ?_
    rintro _ world₃ ⟨rfl, at₃⟩
    obtain ⟨turn, found, running, completed⟩ := completes reads
    dsimp only
    rw [found]
    refine (ensures_recordStatus at₃ observed turn _ state).after (fun _ => trivial) ?_
    intro state world₄ at₄
    rw [show (turn.get "status").text?.getD "" = turnStatus turn from rfl]
    by_cases shown : inProgress ≤ reads
    · rw [if_pos (completed shown)]
      exact ensures_finishCompleted at₄ (Nat.succ_pos reads) postflight _ _ _
    · -- the turn is still in progress, and the thread is read again
      have running := running (Nat.lt_of_not_le shown)
      simp only [List.mem_cons, List.not_mem_nil, or_false, not_or] at running
      rw [if_neg running.1, if_neg (not_or.2 running.2)]
      refine (ensures_delay at₄ 1000).after (fun _ => trivial) fun _ world₅ at₅ => ?_
      exact ih (reads + 1) state world₅ at₅ (by omega) (by omega)

theorem ensures_observeTurn {observed : Observed} {turnId : String} {inProgress : Nat}
    (at_ : At mappings reads world) (aboutTask : observed.task = task)
    (aboutTurn : observed.turnId = turnId) (completes : scene.Completes turnId inProgress)
    (postflight : PostflightHolds platform task scene.atEnd) (enough : inProgress < rounds)
    (evidence : List EvidenceItem) :
    Ensures (scene.answers task) (Yields fun result _ =>
        result.state = .succeeded ∧ result.turnId = turnId)
      (observeTurn platform config rounds observed evidence) world := by
  subst aboutTask aboutTurn
  unfold observeTurn
  refine (ensures_now at_).after (fun _ => trivial) ?_
  rintro time world₁ ⟨⟨late, -⟩, at₁⟩
  have timely : scene.start + observed.task.execution.timeoutSeconds * 1000 ≤
      time + observed.task.execution.timeoutSeconds * 1000 := by omega
  exact ensures_pollTurn completes postflight timely (by omega) rounds reads _ world₁ at₁ (by omega)
    (by omega)

/-! ## Obtaining the turn in the scene -/

theorem ensures_recoverPendingTurn_at {mapping : CodexMapping} {clientId turnId : String}
    (at_ : At mappings reads world)
    (found : ∀ read, findTurnByClientId (scene.view read) clientId = some turnId)
    (enough : 0 < rounds) :
    Ensures (scene.answers task) (Yields fun recovered world' =>
        recovered = some turnId ∧ At mappings (reads + 1) world')
      (recoverPendingTurn rounds mapping clientId) world := by
  unfold recoverPendingTurn
  refine (ensures_now at_).after (fun _ => trivial) ?_
  rintro time world₁ ⟨-, at₁⟩
  -- one round is enough
  have one_round (left deadline : Nat) : Ensures (scene.answers task)
      (Yields fun recovered world' => recovered = some turnId ∧ At mappings (reads + 1) world')
      (recoverRounds rounds mapping clientId deadline (left + 1)) world₁ := by
    unfold recoverRounds
    refine (ensures_now at₁).after (fun _ => trivial) ?_
    rintro time world₂ ⟨-, at₂⟩
    have reading (timeoutMs : Nat) : Ensures (scene.answers task) (Yields fun snapshot world' =>
          snapshot = some (scene.view reads) ∧ At mappings (reads + 1) world')
        (readSnapshot rounds mapping.threadId timeoutMs) world₂ := by
      unfold readSnapshot
      refine (ensures_readThread_at at₂ _ _ _ _ enough).after (fun _ => trivial) ?_
      rintro _ world₃ ⟨rfl, at₃⟩
      exact .returned ⟨rfl, at₃⟩
    refine (reading _).yields_catching.after (fun _ => trivial) ?_
    rintro _ world₃ ⟨rfl, at₃⟩
    dsimp only
    rw [found reads]
    exact .returned ⟨rfl, at₃⟩
  obtain ⟨left, rfl⟩ := Nat.exists_eq_succ_of_ne_zero (Nat.ne_of_gt enough)
  exact one_round left _

def Somewhere (world : HostWorld) : Prop := ∃ mappings reads, At mappings reads world

theorem ensures_recoverTurn_at {mapping : CodexMapping} {turnId : String}
    (at_ : At mappings reads world) (isTurn : scene.IsTurnOf mapping turnId) (enough : 0 < rounds)
    (evidence : List EvidenceItem) :
    Ensures (scene.answers task) (Yields fun state world' =>
        state.turnId = some turnId ∧ Somewhere world')
      (recoverTurn rounds ⟨recordedTurn mapping, mapping, evidence⟩) world := by
  unfold recoverTurn
  dsimp only
  rcases isTurn with recorded | ⟨unrecorded, nonempty, clientId, pending, found⟩
  · rw [recorded]
    exact .returned ⟨rfl, _, _, at_⟩
  · rw [unrecorded, pending]
    refine (ensures_recoverPendingTurn_at at_ found enough).after (fun _ => trivial) ?_
    rintro _ world₁ ⟨rfl, at₁⟩
    rw [truthy_eq_some.2 ⟨rfl, nonempty⟩]
    refine (ensures_putMapping_at at₁ _).yields_catching.after (fun _ => trivial) ?_
    intro _ world₂ at₂
    refine (ensures_pushEvidence at₂ _ _ _).after (fun _ => trivial) fun _ world₃ at₃ => ?_
    exact .returned ⟨rfl, _, _, at₃⟩

theorem ensures_resumeTurn_at (at_ : At mappings reads world) (turnId : String)
    (state : TurnState) :
    Ensures (scene.answers task) (Yields fun obtained world' =>
      obtained.1 = turnId ∧ Somewhere world') (resumeTurn turnId state) world := by
  unfold resumeTurn
  have announces (mappings : Mappings) (world : HostWorld) (at_ : At mappings reads world) :
      Ensures (scene.answers task) (Yields fun (obtained : String × TurnState) world' =>
        obtained.1 = turnId ∧ Somewhere world') (do
          let evidence ← pushEvidence state.evidence "remote.turn.resumed"
            (.object [("threadId", .string state.mapping.threadId), ("turnId", .string turnId)])
          return (turnId, ⟨some turnId, { state.mapping with pendingTurnClientId := none },
            evidence⟩)) world := by
    refine (ensures_pushEvidence at_ _ _ _).after (fun _ => trivial) fun _ world' at' => ?_
    exact .returned ⟨rfl, _, _, at'⟩
  dsimp only
  split
  · refine (ensures_putMapping_at at_ _).after (fun _ => trivial) fun _ world₁ at₁ => ?_
    exact announces _ world₁ at₁
  · exact announces _ world at_

/-- **Obtaining the turn** gets the turn of the mapping. -/
theorem ensures_obtainTurn_at {mapping : CodexMapping} {turnId : String}
    (at_ : At mappings reads world) (isTurn : scene.IsTurnOf mapping turnId) (enough : 0 < rounds)
    (preflight : GitPreflight) (evidence : List EvidenceItem) :
    Ensures (scene.answers task) (Yields fun obtained world' =>
        obtained.1 = turnId ∧ Somewhere world')
      (obtainTurn platform rounds task preflight mapping evidence) world := by
  unfold obtainTurn
  refine (ensures_recoverTurn_at at_ isTurn enough evidence).after (fun _ => trivial) ?_
  rintro state world₁ ⟨isTurn, mappings, reads, at₁⟩
  rw [isTurn]
  exact ensures_resumeTurn_at at₁ turnId state

/-! ## The resumed run -/

variable {mapping : CodexMapping} {turnId allowed : String} {inProgress : Nat}

theorem acceptTask_eq (valid : validateTask platform.coerce leaseTask = .ok task)
    (isAllowed : workspaceAllowed platform config task.target.workspace = some allowed) :
    acceptTask platform config leaseTask = do
      let preflight ← runGitPreflight platform (platform.resolve allowed) task
      return (task, platform.resolve allowed, preflight) := by
  unfold acceptTask
  rw [valid]
  simp only [Program.ofExcept, returned_bind, isAllowed]

theorem ensures_bindMapping_at (at_ : At mappings reads world)
    (idempotent : ∀ path, platform.resolve (platform.resolve path) = platform.resolve path)
    (found : mappings[task.taskId]? = some mapping) (bound : BoundTo platform config mapping task)
    (isAllowed : workspaceAllowed platform config task.target.workspace = some allowed) :
    Ensures (scene.answers task) (Yields fun held world' =>
        held = mapping ∧ At mappings reads world')
      (bindMapping platform task (platform.resolve allowed)) world := by
  have sameWorkspace : platform.resolve mapping.workspace = platform.resolve allowed := by
    obtain ⟨allowed', isAllowed', same⟩ := bound.workspace
    obtain rfl : allowed' = allowed := Option.some.inj (isAllowed'.symm.trans isAllowed)
    rcases same with same | same
    · rw [same, idempotent]
    · exact same
  have isFound : lookupMapping mappings task.taskId = .found mapping := by
    unfold lookupMapping
    rw [found]
  unfold bindMapping
  refine (ensures_readMappings_at at_).after (fun _ => trivial) ?_
  rintro _ world₁ ⟨rfl, at₁⟩
  rw [isFound]
  dsimp only
  rw [if_neg (not_not.2 bound.executionId), if_neg (not_not.2 bound.fingerprint),
    if_neg (not_not.2 sameWorkspace)]
  exact .returned ⟨rfl, at₁⟩

/-- **Where the preflight holds, the resumed run succeeds.** -/
theorem ensures_resumed
    (idempotent : ∀ path, platform.resolve (platform.resolve path) = platform.resolve path)
    (valid : validateTask platform.coerce leaseTask = .ok task)
    (isAllowed : workspaceAllowed platform config task.target.workspace = some allowed)
    (found : mappings[task.taskId]? = some mapping) (bound : BoundTo platform config mapping task)
    (isTurn : scene.IsTurnOf mapping turnId) (completes : scene.Completes turnId inProgress)
    (enough : inProgress < rounds) (postflight : PostflightHolds platform task scene.atEnd)
    (preflight : PreflightHolds platform (platform.resolve allowed) task scene.atResume) :
    Ensures (scene.answers task) (Yields fun result _ =>
        result.state = .succeeded ∧ result.turnId = turnId)
      (run platform config rounds leaseTask) ⟨mappings, []⟩ := by
  have start : At mappings 0 ⟨mappings, []⟩ := ⟨rfl, rfl⟩
  have some_rounds : 0 < rounds := Nat.zero_lt_of_lt enough
  have accepts : Ensures (scene.answers task) (Yields fun accepted world' =>
      (∃ checked, accepted = (task, platform.resolve allowed, checked)) ∧ At mappings 0 world')
      (acceptTask platform config leaseTask) ⟨mappings, []⟩ := by
    rw [acceptTask_eq valid isAllowed]
    refine (ensures_runGitPreflight answering_atResume start preflight).after
      (fun _ => trivial) fun preflight world₁ at₁ => ?_
    exact .returned ⟨⟨preflight, rfl⟩, at₁⟩
  unfold run
  refine accepts.after (fun _ => trivial) ?_
  rintro _ world₁ ⟨⟨checked, rfl⟩, at₁⟩
  refine (ensures_bindMapping_at at₁ idempotent found bound isAllowed).after (fun _ => trivial) ?_
  rintro held world₂ ⟨isHeld, at₂⟩
  rw [isHeld]
  have opens : Ensures (scene.answers task) (Yields fun _ world' => At mappings 0 world')
      (openEvidence (platform.resolve allowed) checked mapping) world₂ := by
    unfold openEvidence
    refine (ensures_pushEvidence at₂ _ _ _).after (fun _ => trivial) fun _ world₃ at₃ => ?_
    exact ensures_pushEvidence at₃ _ _ _
  refine opens.after (fun _ => trivial) fun evidence world₃ at₃ => ?_
  refine (ensures_obtainTurn_at at₃ isTurn some_rounds checked evidence).after (fun _ => trivial) ?_
  rintro ⟨_, state⟩ world₄ ⟨rfl, mappings, reads, at₄⟩
  refine ensures_observeTurn at₄ ?_ ?_ completes postflight enough state.evidence
  · rfl
  · rfl

/-- **The resumed run returns only where the preflight holds.** -/
theorem only_resumed (valid : validateTask platform.coerce leaseTask = .ok task)
    (isAllowed : workspaceAllowed platform config task.target.workspace = some allowed) :
    Ensures (scene.answers task) (Always (fun _ => True) fun _ _ =>
        PreflightHolds platform (platform.resolve allowed) task scene.atResume)
      (run platform config rounds leaseTask) ⟨mappings, []⟩ := by
  have start : At mappings 0 ⟨mappings, []⟩ := ⟨rfl, rfl⟩
  have accepts : Ensures (scene.answers task) (Always (fun _ => True) fun _ _ =>
      PreflightHolds platform (platform.resolve allowed) task scene.atResume)
      (acceptTask platform config leaseTask) ⟨mappings, []⟩ := by
    rw [acceptTask_eq valid isAllowed]
    refine (only_runGitPreflight answering_atResume start).always_mono
      (fun _ _ => trivial) (fun _ _ _ holds => holds) |>.seq ?_
    exact fun _ _ _ holds => ensures_always_returned trivial holds
  unfold run
  refine accepts.seq fun accepted world₁ _ holds => ?_
  refine (ensures_anything _ world₁).always_mono (fun _ _ => trivial) fun _ _ _ _ => ?_
  exact holds

theorem Scene.total (observed : 0 < task.execution.timeoutSeconds) (world : HostWorld)
    (hostCall : HostCall) : ∃ reply world', scene.answers task world hostCall reply world' := by
  -- a reply that the scene gives leaves the mapping file as it is
  have replied (reply : Except String (HostReply hostCall)) (mappings : Mappings)
      (stored : storeAnswers world.mappings hostCall reply mappings)
      (isReply : scene.replies task world.log hostCall reply) :
      ∃ reply world', scene.answers task world hostCall reply world' :=
    ⟨reply, ⟨mappings, world.log ++ [⟨hostCall, reply⟩]⟩, ⟨stored, rfl⟩, isReply⟩
  cases hostCall with
  | now => exact replied (.ok scene.start) _ rfl ⟨scene.start, rfl, le_refl _,
      Nat.lt_add_of_pos_right (Nat.mul_pos observed (by decide))⟩
  | delay ms => exact replied (.ok ()) _ rfl rfl
  | readMappings => exact replied (.ok world.mappings) _ ⟨rfl, rfl⟩ ⟨_, rfl⟩
  | writeMappings written => exact replied (.ok ()) _ rfl rfl
  | execCommand command cwd => exact replied (.ok _) _ rfl rfl
  | startThread cwd | startTurn params => exact replied (.error "") _ rfl trivial
  | readThread threadId => exact replied (.ok _) _ rfl rfl
  | emitEvidence item => exact replied (.ok ()) _ rfl rfl

/-- **The run succeeds with the turn** in the scene: unless it is stopped it returns `succeeded`, and
it need not be stopped. -/
def SucceedsIn (platform : Platform) (config : HostConfig) (rounds : Nat) (leaseTask : Json)
    (task : HostTask) (scene : Scene) (mappings : Mappings) (turnId : String) : Prop :=
  (∀ outcome world', Runs (scene.answers task) (run platform config rounds leaseTask)
      ⟨mappings, []⟩ outcome world' → outcome ≠ .crashed →
        ∃ result, outcome = .returned result ∧ result.state = .succeeded ∧ result.turnId = turnId) ∧
    ∃ outcome world', Runs (scene.answers task) (run platform config rounds leaseTask)
      ⟨mappings, []⟩ outcome world' ∧ outcome ≠ .crashed

def basedLease : Json := sampleLease 1 (.string (sampleCommit 'a'))

def basedTask : HostTask where
  taskId := "task-1"
  executionId := "execution-1"
  objective := "Inspect the project and report success."
  target := ⟨"/zero3/workspace", some (sampleCommit 'a')⟩
  constraints := []
  acceptanceCriteria := []
  nativeSkills := []
  permissionProfile := .standard
  execution := ⟨1, 30, false, false, false⟩
  projectContext := none
  handoff := none

/-- A run of the based task that stops when its turn has been started and recorded. -/
def stoppedAttempt : Attempt :=
  sampleAttempt (sampleRepository 'a') (fun _ hostCall => hostCall.isRead) basedLease ∅

def stoppedMappings : Mappings :=
  (sampleRun (sampleRepository 'a') (fun _ hostCall => hostCall.isRead) basedLease ∅).2.mappings

def committingScene (head : Char) : Scene where
  start := 0
  atResume := sampleRepository head
  atEnd := sampleRepository 'b'
  view _ := sampleThread

theorem validateTask_basedLease : validateTask samplePlatform.coerce basedLease = .ok basedTask := by
  decide +kernel

theorem attempts_stopped : Attempts samplePlatform [stoppedAttempt] stoppedMappings :=
  .attempt .start stoppedAttempt (leads_sampleAttempt _ _ _ _)

theorem recordedTurn_stopped :
    (stoppedMappings["task-1"]?).bind recordedTurn = some "turn-1" := by decide +kernel

theorem isTurnOf_stopped (head : Char) : ∃ mapping, stoppedMappings["task-1"]? = some mapping ∧
    (committingScene head).IsTurnOf mapping "turn-1" := by
  obtain ⟨mapping, found, recorded⟩ := Option.bind_eq_some_iff.1 recordedTurn_stopped
  exact ⟨mapping, found, .inl recorded⟩

theorem completes_committing (head : Char) : (committingScene head).Completes "turn-1" 0 :=
  fun _ => ⟨_, rfl, fun early => absurd early (Nat.not_lt_zero _), fun _ => rfl⟩

theorem printsCommit_line {commit : String} (line : firstLine (scriptTrim (commit ++ "\n")) = commit)
    (trimmed : commit = scriptTrim commit) (nonempty : commit ≠ "") (short : utf16Length commit ≤ 128) :
    PrintsCommit (some (commit ++ "\n")) commit :=
  ⟨_, rfl, _, congrArg (some ·) line, trimmed, nonempty, short⟩

theorem printsCommit_sample (digit : Char) (isDigit : digit = 'a' ∨ digit = 'b') :
    PrintsCommit (some (sampleCommit digit ++ "\n")) (sampleCommit digit) := by
  rcases isDigit with rfl | rfl
  · refine printsCommit_line ?_ ?_ ?_ ?_ <;> decide +kernel
  · refine printsCommit_line ?_ ?_ ?_ ?_ <;> decide +kernel

theorem postflightHolds_sample :
    PostflightHolds samplePlatform basedTask (sampleRepository 'b') where
  head := ⟨_, printsCommit_sample 'b' (by simp)⟩
  branch := ⟨_, rfl⟩
  status := ⟨_, rfl, fun asked => nomatch asked⟩
  synced asked := nomatch asked

def isBlocked : Outcome RunError RunResult → Bool
  | .thrown (.blocked _) => true
  | _ => false

end Zero3Pilot.RemoteHost
