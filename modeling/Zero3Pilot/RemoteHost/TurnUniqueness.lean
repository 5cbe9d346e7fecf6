import Zero3Pilot.RemoteHost.RunnerCalls

/-! # At most one turn

However often a task is run, and wherever a run stops, at most one turn is started for it. The
mapping file carries the argument: the intent to start a turn is persisted before the turn is
started, and a mapping that is *claimed* (it records a turn, or the intent to start one) stays
claimed and is never started again. -/

namespace Zero3Pilot.RemoteHost

open Program

variable {platform : Platform} {config : HostConfig} {rounds : Nat} {leaseTask : Json}
  {task : HostTask} {before : Mappings} {world world' : HostWorld}

/-! ## The mapping of a task -/

def CodexMapping.IsClaimed (mapping : CodexMapping) : Prop :=
  recordedTurn mapping ≠ none ∨ truthy mapping.pendingTurnClientId ≠ none

/-- **A later mapping of the same binding**: nothing a mapping was bound to changes, a recorded turn
stays recorded, and what is claimed stays claimed. -/
structure CodexMapping.Extends (mapping later : CodexMapping) : Prop where
  taskId : later.taskId = mapping.taskId
  executionId : later.executionId = mapping.executionId
  fingerprint : later.taskFingerprint = mapping.taskFingerprint
  threadId : later.threadId = mapping.threadId
  workspace : later.workspace = mapping.workspace
  recorded : ∀ turnId, recordedTurn mapping = some turnId → recordedTurn later = some turnId
  claimed : mapping.IsClaimed → later.IsClaimed

theorem CodexMapping.Extends.refl (mapping : CodexMapping) : mapping.Extends mapping :=
  ⟨rfl, rfl, rfl, rfl, rfl, fun _ known => known, id⟩

theorem CodexMapping.Extends.trans {first second third : CodexMapping}
    (left : first.Extends second) (right : second.Extends third) : first.Extends third where
  taskId := right.taskId.trans left.taskId
  executionId := right.executionId.trans left.executionId
  fingerprint := right.fingerprint.trans left.fingerprint
  threadId := right.threadId.trans left.threadId
  workspace := right.workspace.trans left.workspace
  recorded turnId known := right.recorded turnId (left.recorded turnId known)
  claimed isClaimed := right.claimed (left.claimed isClaimed)

/-- **The mapping is bound to a task**: to its execution, its content and its resolved workspace. -/
structure BoundTo (platform : Platform) (config : HostConfig) (mapping : CodexMapping)
    (task : HostTask) : Prop where
  executionId : mapping.executionId = task.executionId
  fingerprint : mapping.taskFingerprint = taskFingerprint platform task
  workspace : ∃ allowed, workspaceAllowed platform config task.target.workspace = some allowed ∧
    (mapping.workspace = platform.resolve allowed ∨
      platform.resolve mapping.workspace = platform.resolve allowed)

theorem BoundTo.extends {mapping later : CodexMapping} (bound : BoundTo platform config mapping task)
    (extended : mapping.Extends later) : BoundTo platform config later task where
  executionId := by rw [extended.executionId, bound.executionId]
  fingerprint := by rw [extended.fingerprint, bound.fingerprint]
  workspace := by rw [extended.workspace]; exact bound.workspace

variable {mapping : CodexMapping}

theorem BoundTo.update (bound : BoundTo platform config mapping task) (turnIds : List String)
    (pending : Option String) :
    BoundTo platform config { mapping with turnIds, pendingTurnClientId := pending } task :=
  ⟨bound.executionId, bound.fingerprint, bound.workspace⟩

def Filed (mappings : Mappings) : Prop :=
  ∀ (id : String) (mapping : CodexMapping), mappings[id]? = some mapping → mapping.taskId = id

theorem recordedTurn_append (mapping : CodexMapping) {turnId : String} (nonempty : turnId ≠ "")
    (pending : Option String) :
    recordedTurn { mapping with
      turnIds := mapping.turnIds ++ [turnId], pendingTurnClientId := pending } = some turnId := by
  simp [recordedTurn, truthy, nonempty]

/-- **What holds at every point of a run** of `task` that started from the mappings `before`. -/
structure AttemptInvariant (platform : Platform) (config : HostConfig) (task : HostTask)
    (before : Mappings) (world : HostWorld) : Prop where
  filed : Filed world.mappings
  others : ∀ id, id ≠ task.taskId → world.mappings[id]? = before[id]?
  extended : ∀ mapping, before[task.taskId]? = some mapping →
    ∃ later, world.mappings[task.taskId]? = some later ∧ mapping.Extends later
  bound : before[task.taskId]? = none →
    ∀ later, world.mappings[task.taskId]? = some later → BoundTo platform config later task
  started : turnStarts world.log = [] ∨
    (∀ mapping, before[task.taskId]? = some mapping → ¬ mapping.IsClaimed) ∧
      ∃ later params, world.mappings[task.taskId]? = some later ∧ later.IsClaimed ∧
        turnStarts world.log = [params]

theorem attemptInvariant_start (filed : Filed before) :
    AttemptInvariant platform config task before ⟨before, []⟩ where
  filed := filed
  others _ _ := rfl
  extended mapping found := ⟨mapping, found, .refl mapping⟩
  bound absent later found := by rw [absent] at found; cases found
  started := .inl rfl

theorem AttemptInvariant.quiet (invariant : AttemptInvariant platform config task before world)
    (quiet : Quiet world world') : AttemptInvariant platform config task before world' := by
  obtain ⟨mappings, starts, -⟩ := quiet
  constructor
  · rw [mappings]; exact invariant.filed
  · rw [mappings]; exact invariant.others
  · rw [mappings]; exact invariant.extended
  · rw [mappings]; exact invariant.bound
  · rw [mappings, starts]; exact invariant.started

theorem AttemptInvariant.insert (invariant : AttemptInvariant platform config task before world)
    (ownTask : mapping.taskId = task.taskId) (bound : BoundTo platform config mapping task)
    (extends_ : ∀ known, world.mappings[task.taskId]? = some known → known.Extends mapping)
    (mappings : world'.mappings = world.mappings.insert mapping.taskId mapping)
    (starts : turnStarts world'.log = turnStarts world.log) :
    AttemptInvariant platform config task before world' := by
  have atTask : world'.mappings[task.taskId]? = some mapping := by
    rw [mappings, ownTask, Std.ExtTreeMap.getElem?_insert_self]
  have elsewhere {id : String} (other : id ≠ task.taskId) :
      world'.mappings[id]? = world.mappings[id]? := by
    rw [mappings, ownTask, Std.ExtTreeMap.getElem?_insert, if_neg]
    intro hit
    have same : task.taskId = id := by simpa using hit
    exact other same.symm
  constructor
  · intro id known found
    by_cases here : id = task.taskId
    · subst here
      rw [atTask] at found
      cases found
      exact ownTask
    · rw [elsewhere here] at found
      exact invariant.filed id known found
  · intro id other
    rw [elsewhere other]
    exact invariant.others id other
  · intro known found
    obtain ⟨later, found', extended⟩ := invariant.extended known found
    exact ⟨mapping, atTask, extended.trans (extends_ later found')⟩
  · intro _ later found
    rw [atTask] at found
    cases found
    exact bound
  · rw [starts]
    rcases invariant.started with none_yet | ⟨unclaimed, later, params, found, claimed, one⟩
    · exact .inl none_yet
    · exact .inr ⟨unclaimed, mapping, params, atTask, (extends_ later found).claimed claimed, one⟩

/-! ## Writing the mapping file -/

/-- What `putMapping` leaves behind, however it ends. -/
structure Put (mapping : CodexMapping) (world : HostWorld) (outcome : Outcome RunError Unit)
    (world' : HostWorld) : Prop where
  starts : turnStarts world'.log = turnStarts world.log
  log : world.log <+: world'.log
  mappings : world'.mappings = world.mappings ∨
    world'.mappings = world.mappings.insert mapping.taskId mapping
  returned : ∀ value, outcome = .returned value →
    world'.mappings = world.mappings.insert mapping.taskId mapping

theorem Put.of_quiet {outcome : Outcome RunError Unit} (quiet : Quiet world world')
    (unreturned : ∀ value, outcome ≠ .returned value) :
    Put mapping world outcome world' :=
  ⟨quiet.starts, quiet.log, .inl quiet.mappings, fun value same => absurd same (unreturned value)⟩

/-- **The specification of `putMapping`.** -/
theorem ensures_putMapping (mapping : CodexMapping) (world : HostWorld) :
    Ensures answers (Put mapping world) (putMapping mapping) world := by
  unfold putMapping
  refine Ensures.bind (.await (.of_quiet (.refl world) (by simp)) ?_ ?_)
  · intro reply world' answered
    exact .of_quiet (quiet_of_answers rfl (by simp) answered) (by simp)
  · intro reply world₁ answered
    have read : Quiet world world₁ := quiet_of_answers rfl (by simp) answered
    cases reply with
    | error message => exact .thrown (.of_quiet read (by simp))
    | ok mappings =>
      have current : mappings = world.mappings := answered.1.1
      subst current
      -- the file is replaced, or the replacement fails, with or without effect
      have written (reply : Except String Unit) (world' : HostWorld)
          (answered : answers world₁ (.writeMappings (world.mappings.insert mapping.taskId mapping))
            reply world') :
          turnStarts world'.log = turnStarts world.log ∧ world.log <+: world'.log := by
        refine ⟨?_, ?_⟩
        · rw [answered.2, turnStarts_append (by simp), read.starts]
        · rw [answered.2]
          exact read.log.trans (List.prefix_append _ _)
      refine .returned (.await (.of_quiet read (by simp)) ?_ ?_)
      · intro reply world' answered
        obtain ⟨starts, log⟩ := written reply world' answered
        refine ⟨starts, log, ?_, by simp⟩
        have stored := answered.1
        cases reply with
        | ok _ => exact .inr stored
        | error message =>
          rcases stored with same | replaced
          · exact .inl (same.trans read.mappings)
          · exact .inr replaced
      · intro reply world' answered
        obtain ⟨starts, log⟩ := written reply world' answered
        have stored := answered.1
        cases reply with
        | ok _ => exact .returned ⟨starts, log, .inr stored, fun _ _ => stored⟩
        | error message =>
          refine .thrown ⟨starts, log, ?_, by simp⟩
          rcases stored with same | replaced
          · exact .inl (same.trans read.mappings)
          · exact .inr replaced

/-- **Filing a mapping that extends the one the task has** keeps the invariant at every point, and
files it when it returns. -/
theorem ensures_put (invariant : AttemptInvariant platform config task before world)
    (ownTask : mapping.taskId = task.taskId) (bound : BoundTo platform config mapping task)
    (extends_ : ∀ known, world.mappings[task.taskId]? = some known → known.Extends mapping) :
    Ensures answers (Always (AttemptInvariant platform config task before) fun _ world' =>
        world'.mappings[task.taskId]? = some mapping ∧
          turnStarts world'.log = turnStarts world.log ∧ world.log <+: world'.log)
      (putMapping mapping) world := by
  refine (ensures_putMapping mapping world).mono fun outcome world' put => ⟨?_, ?_⟩
  · rcases put.mappings with same | inserted
    · exact invariant.quiet ⟨same, put.starts, put.log⟩
    · exact invariant.insert ownTask bound extends_ inserted put.starts
  · intro value returned
    refine ⟨?_, put.starts, put.log⟩
    rw [put.returned value returned, ownTask, Std.ExtTreeMap.getElem?_insert_self]

theorem ensures_passive {α : Type} {program : HostProgram α} {values : α → Prop}
    (within : program.Within (fun hostCall => hostCall.isPassive = true) values)
    (invariant : AttemptInvariant platform config task before world) :
    Ensures answers (Always (AttemptInvariant platform config task before) fun value world' =>
      values value ∧ Quiet world world') program world :=
  (ensures_quiet within world).mono fun _ _ always =>
    ⟨invariant.quiet always.1, fun value returned => ⟨always.2 value returned, always.1⟩⟩

theorem ensures_call (invariant : AttemptInvariant platform config task before world) (hostCall : HostCall)
    (noWrite : hostCall.isWrite = false) (noStart : ∀ params, hostCall ≠ .startTurn params) :
    Ensures answers (Always (AttemptInvariant platform config task before) fun reply world' =>
      answers world hostCall (.ok reply) world' ∧ Quiet world world') (call hostCall) world := by
  unfold call
  refine ensures_always_perform invariant ?_ ?_
  · intro reply world' answered
    exact invariant.quiet (quiet_of_answers noWrite noStart answered)
  · intro reply world' answered
    exact ⟨answered, quiet_of_answers noWrite noStart answered⟩

/-! ## Binding the task -/

/-- **The run holds the mapping of its task**, and has started no turn. -/
structure Holds (platform : Platform) (config : HostConfig) (task : HostTask) (before : Mappings)
    (mapping : CodexMapping) (world : HostWorld) : Prop where
  invariant : AttemptInvariant platform config task before world
  atTask : world.mappings[task.taskId]? = some mapping
  bound : BoundTo platform config mapping task
  unstarted : turnStarts world.log = []

theorem Holds.ownTask (holds : Holds platform config task before mapping world) :
    mapping.taskId = task.taskId :=
  holds.invariant.filed _ _ holds.atTask

theorem Holds.quiet (holds : Holds platform config task before mapping world)
    (quiet : Quiet world world') : Holds platform config task before mapping world' where
  invariant := holds.invariant.quiet quiet
  atTask := by rw [quiet.mappings]; exact holds.atTask
  bound := holds.bound
  unstarted := by rw [quiet.starts]; exact holds.unstarted

/-- **Binding the task**: the run gets hold of the mapping that is filed, or of a new one. -/
theorem ensures_bindMapping (invariant : AttemptInvariant platform config task before world)
    (unstarted : turnStarts world.log = []) {allowed : String}
    (isAllowed : workspaceAllowed platform config task.target.workspace = some allowed) :
    Ensures answers (Always (AttemptInvariant platform config task before) fun mapping world' =>
        Holds platform config task before mapping world' ∧
          ∀ known, world.mappings[task.taskId]? = some known → mapping = known)
      (bindMapping platform task (platform.resolve allowed)) world := by
  unfold bindMapping
  refine (ensures_call invariant .readMappings rfl (by simp)).seq ?_
  rintro mappings world₁ invariant₁ ⟨answered, quiet⟩
  have current : mappings = world.mappings := answered.1.1
  subst current
  cases found : lookupMapping world.mappings task.taskId with
  | inherited => exact ensures_always_thrown invariant₁
  | found mapping =>
    have atTask : world.mappings[task.taskId]? = some mapping := by
      unfold lookupMapping at found
      split at found
      · cases found
        assumption
      · split at found <;> cases found
    dsimp only
    split
    · exact ensures_always_thrown invariant₁
    · rename_i sameExecution
      split
      · exact ensures_always_thrown invariant₁
      · rename_i sameFingerprint
        split
        · exact ensures_always_thrown invariant₁
        · rename_i sameWorkspace
          refine ensures_always_returned invariant₁ ⟨⟨invariant₁, ?_, ?_, ?_⟩, ?_⟩
          · rw [quiet.mappings, atTask]
          · exact ⟨not_not.1 sameExecution, not_not.1 sameFingerprint,
              allowed, isAllowed, .inr (not_not.1 sameWorkspace)⟩
          · rw [quiet.starts, unstarted]
          · intro known isKnown
            rw [atTask] at isKnown
            exact Option.some.inj isKnown
  | absent =>
    have noMapping : world.mappings[task.taskId]? = none := by
      unfold lookupMapping at found
      split at found
      · cases found
      · assumption
    -- a thread is started, and the new mapping filed
    refine (ensures_call invariant₁ (.startThread (platform.resolve allowed)) rfl (by simp)).seq ?_
    rintro threadResult world₂ invariant₂ ⟨-, started⟩
    have toHere := quiet.trans started
    refine (ensures_passive (within_ofExcept _ _ _) invariant₂).seq ?_
    rintro threadId world₃ invariant₃ ⟨-, checked⟩
    have toHere := toHere.trans checked
    have newlyBound : BoundTo platform config ⟨task.taskId, task.executionId,
        taskFingerprint platform task, threadId, [], platform.resolve allowed, none⟩ task :=
      ⟨rfl, rfl, allowed, isAllowed, .inl rfl⟩
    refine (ensures_put invariant₃ rfl newlyBound ?_).seq ?_
    · intro known isKnown
      rw [toHere.mappings, noMapping] at isKnown
      cases isKnown
    · rintro _ world₄ invariant₄ ⟨atTask, starts, -⟩
      refine ensures_always_returned invariant₄ ⟨⟨invariant₄, atTask, newlyBound, ?_⟩, ?_⟩
      · rw [starts, toHere.starts, unstarted]
      · intro known isKnown
        rw [noMapping] at isKnown
        cases isKnown

/-! ## Recovering the turn of an intent -/

/-- **The turn is found in a thread that was read**: it carries an item of the client identifier. -/
def FoundIn (log : List LogEntry) (threadId clientId turnId : String) : Prop :=
  ∃ snapshot, ⟨.readThread threadId, .ok snapshot⟩ ∈ log ∧
    ∃ turn ∈ threadTurns snapshot, carriesClientId clientId turn = true ∧
      (turn.get "id").text? = some turnId

theorem findTurnByClientId_some {snapshot : Json} {clientId turnId : String}
    (found : findTurnByClientId snapshot clientId = some turnId) :
    ∃ turn ∈ threadTurns snapshot, carriesClientId clientId turn = true ∧
      (turn.get "id").text? = some turnId := by
  obtain ⟨turn, isTurn, isFound⟩ := List.exists_of_findSome?_eq_some found
  split at isFound
  · rename_i carries
    exact ⟨turn, isTurn, carries, isFound⟩
  · cases isFound

theorem ensures_readThreadRounds {σ : Type} (threadId : String) (deadline : Nat)
    (onWait : Nat → σ → HostProgram σ) (rounds : Nat) : ∀ attempt state world,
      Ensures answers (Always (fun _ => True) fun read world' =>
          (⟨.readThread threadId, .ok read.1⟩ : LogEntry) ∈ world'.log)
        (readThreadRounds threadId deadline onWait rounds attempt state) world := by
  induction rounds with
  | zero => exact fun _ _ _ => ensures_always_suspended trivial
  | succ rounds ih =>
    intro attempt state world
    refine ensures_always_await trivial (fun _ _ _ => trivial) fun reply world' answered => ?_
    cases reply with
    | ok snapshot =>
      refine ensures_always_returned trivial ?_
      rw [answered.2]
      exact List.mem_append_right _ (List.mem_singleton.2 rfl)
    | error message =>
      dsimp only
      split
      · exact ensures_always_thrown trivial
      · refine Ensures.seq (ensures_anything _ _) fun time world _ _ => ?_
        split
        · exact ensures_always_thrown trivial
        · refine Ensures.seq (ensures_anything _ _) fun state world _ _ => ?_
          exact Ensures.seq (ensures_anything _ _) fun _ world _ _ => ih _ _ world

theorem ensures_readSnapshot (rounds : Nat) (threadId : String) (timeoutMs : Nat)
    (world : HostWorld) :
    Ensures answers (Always (fun _ => True) fun (snapshot : Option Json) world' => ∀ read,
        snapshot = some read → (⟨.readThread threadId, .ok read⟩ : LogEntry) ∈ world'.log)
      (readSnapshot rounds threadId timeoutMs) world := by
  unfold readSnapshot readThreadWhenMaterialized
  refine Ensures.seq (Ensures.seq (ensures_anything _ _) fun time world _ _ =>
    ensures_readThreadRounds _ _ _ _ _ _ world) fun read world _ inLog => ?_
  refine ensures_always_returned trivial ?_
  rintro _ ⟨⟩
  exact inLog

theorem ensures_recoverRounds (rounds : Nat) (mapping : CodexMapping) (clientId : String)
    (deadline : Nat) (round : Nat) : ∀ world,
      Ensures answers (Always (fun _ => True) fun recovered world' => ∀ turnId,
          recovered = some turnId → FoundIn world'.log mapping.threadId clientId turnId)
        (recoverRounds rounds mapping clientId deadline round) world := by
  induction round with
  | zero => exact fun _ => ensures_always_suspended trivial
  | succ round ih =>
    intro world
    unfold recoverRounds
    refine Ensures.seq (ensures_anything _ _) fun time world _ _ => ?_
    -- a read that fails for want of materialization gives no snapshot
    have reading (timeoutMs : Nat) : Ensures answers (Always (fun _ => True)
        fun (snapshot : Option Json) world' => ∀ read, snapshot = some read →
          (⟨.readThread mapping.threadId, .ok read⟩ : LogEntry) ∈ world'.log)
        ((readSnapshot rounds mapping.threadId timeoutMs).catching fun error =>
          if isThreadMaterializationFailure error.message then return none else throw error)
        world := by
      refine Ensures.catching ((ensures_readSnapshot rounds mapping.threadId timeoutMs world).mono
        fun outcome world' always => ?_)
      cases outcome with
      | returned value => exact always
      | thrown error =>
        dsimp only [handled]
        split
        · exact ensures_always_returned trivial (by simp)
        · exact ensures_always_thrown trivial
      | crashed | suspended => exact ⟨trivial, by simp⟩
    refine Ensures.seq (reading _) fun snapshot world _ inLog => ?_
    cases snapshot with
    | none => exact ensures_always_returned trivial (by simp)
    | some snapshot =>
      dsimp only
      cases found : findTurnByClientId snapshot clientId with
      | some turnId =>
        refine ensures_always_returned trivial ?_
        rintro _ ⟨⟩
        exact ⟨snapshot, inLog snapshot rfl, findTurnByClientId_some found⟩
      | none =>
        have goes_on (world : HostWorld) : Ensures answers (Always (fun _ => True)
            fun recovered world' => ∀ turnId, recovered = some turnId →
              FoundIn world'.log mapping.threadId clientId turnId)
            (do
              let time ← call .now
              if time < deadline then recoverRounds rounds mapping clientId deadline round
              else return none) world := by
          refine Ensures.seq (ensures_anything _ _) fun time world _ _ => ?_
          split
          · exact ih world
          · exact ensures_always_returned trivial (by simp)
        refine Ensures.seq (ensures_anything _ _) fun time world _ _ => ?_
        split
        · exact Ensures.seq (ensures_anything _ _) fun _ world _ _ => goes_on world
        · exact goes_on world

/-- **Recovering a turn** is quiet, and what is recovered was found in a thread that was read. -/
theorem ensures_recoverPendingTurn (invariant : AttemptInvariant platform config task before world)
    (mapping : CodexMapping) (clientId : String) :
    Ensures answers (Always (AttemptInvariant platform config task before) fun recovered world' =>
        Quiet world world' ∧ ∀ turnId, recovered = some turnId →
          FoundIn world'.log mapping.threadId clientId turnId)
      (recoverPendingTurn rounds mapping clientId) world := by
  have quiet := ensures_passive (passive_recoverPendingTurn rounds mapping clientId)
    invariant
  have found : Ensures answers (Always (fun _ => True) fun recovered world' => ∀ turnId,
      recovered = some turnId → FoundIn world'.log mapping.threadId clientId turnId)
      (recoverPendingTurn rounds mapping clientId) world := by
    unfold recoverPendingTurn
    exact Ensures.seq (ensures_anything _ _) fun time world _ _ =>
      ensures_recoverRounds _ _ _ _ _ world
  refine (quiet.and found).mono fun outcome world' both => ⟨both.1.1, fun value returned => ?_⟩
  exact ⟨(both.1.2 value returned).2, both.2.2 value returned⟩

/-! ## Obtaining the turn -/

/-- **Where the turn of a claimed mapping comes from**: it is recorded, or found under the intent. -/
def ResumedTurn (mapping : CodexMapping) (log : List LogEntry) (turnId : String) : Prop :=
  recordedTurn mapping = some turnId ∨
    recordedTurn mapping = none ∧ ∃ clientId, mapping.pendingTurnClientId = some clientId ∧
      FoundIn log mapping.threadId clientId turnId

theorem ResumedTurn.mono {log log' : List LogEntry} {turnId : String}
    (resumed : ResumedTurn mapping log turnId) (longer : log <+: log') :
    ResumedTurn mapping log' turnId := by
  rcases resumed with recorded | ⟨unrecorded, clientId, pending, snapshot, read, found⟩
  · exact .inl recorded
  · exact .inr ⟨unrecorded, clientId, pending, snapshot, longer.subset read, found⟩

theorem truthy_eq_some {text : Option String} {value : String} :
    truthy text = some value ↔ text = some value ∧ value ≠ "" := by
  cases text with
  | none => simp [truthy]
  | some text =>
    simp only [truthy, Option.filter_eq_some_iff, Option.some.injEq, decide_eq_true_eq]

def Recovered (platform : Platform) (config : HostConfig) (task : HostTask) (before : Mappings)
    (mapping : CodexMapping) (state : TurnState) (world : HostWorld) : Prop :=
  Holds platform config task before state.mapping world ∧
    (state.turnId = none → ¬ state.mapping.IsClaimed ∧ ¬ mapping.IsClaimed) ∧
    ∀ turnId, state.turnId = some turnId →
      recordedTurn state.mapping = some turnId ∧ ResumedTurn mapping world.log turnId

/-- **The specification of `recoverTurn`.** -/
theorem ensures_recoverTurn (holds : Holds platform config task before mapping world)
    (evidence : List EvidenceItem) :
    Ensures answers (Always (AttemptInvariant platform config task before)
        (Recovered platform config task before mapping))
      (recoverTurn rounds ⟨recordedTurn mapping, mapping, evidence⟩) world := by
  unfold recoverTurn
  dsimp only
  cases recorded : recordedTurn mapping with
  | some turnId =>
    refine ensures_always_returned holds.invariant ⟨holds, by simp, ?_⟩
    rintro _ ⟨⟩
    exact ⟨recorded, .inl recorded⟩
  | none =>
    cases pending : truthy mapping.pendingTurnClientId with
    | none =>
      have unclaimed : ¬ mapping.IsClaimed := by
        rintro (claimed | claimed)
        · exact claimed recorded
        · exact claimed pending
      exact ensures_always_returned holds.invariant ⟨holds, fun _ => ⟨unclaimed, unclaimed⟩, by simp⟩
    | some clientId =>
      refine (ensures_recoverPendingTurn holds.invariant mapping clientId).seq ?_
      rintro recovered world₁ invariant₁ ⟨quiet, found⟩
      have holds₁ := holds.quiet quiet
      cases isTurn : truthy recovered with
      | none => exact ensures_always_thrown invariant₁
      | some turnId =>
        obtain ⟨isRecovered, nonempty⟩ := truthy_eq_some.1 isTurn
        have recordedNow := recordedTurn_append mapping nonempty none
        -- the recovered turn is recorded in place of the intent
        have extends_ : mapping.Extends { mapping with
            turnIds := mapping.turnIds ++ [turnId], pendingTurnClientId := none } :=
          ⟨rfl, rfl, rfl, rfl, rfl, by simp [recorded], fun _ => .inl (by simp [recordedNow])⟩
        dsimp only
        refine Ensures.seq (Ensures.rethrow
          (ensures_put invariant₁ holds.ownTask (holds.bound.update _ _) ?_) fun error => ⟨_, rfl⟩) ?_
        · intro known isKnown
          rw [holds₁.atTask] at isKnown
          cases isKnown
          exact extends_
        · rintro _ world₂ invariant₂ ⟨atTask, starts, log⟩
          refine (ensures_passive (passive_pushEvidence _ _ _) invariant₂).seq ?_
          rintro evidence world₃ invariant₃ ⟨-, quiet₃⟩
          have holds₂ : Holds platform config task before _ world₂ :=
            ⟨invariant₂, atTask, holds.bound.update _ _, by rw [starts, holds₁.unstarted]⟩
          refine ensures_always_returned invariant₃ ⟨holds₂.quiet quiet₃, by simp, ?_⟩
          rintro _ ⟨⟩
          refine ⟨recordedNow, ResumedTurn.mono ?_ (log.trans quiet₃.log)⟩
          exact .inr ⟨recorded, clientId, (truthy_eq_some.1 pending).1, found turnId isRecovered⟩

/-- **The specification of `resumeTurn`.** -/
theorem ensures_resumeTurn {state : TurnState} {turnId : String}
    (holds : Holds platform config task before state.mapping world)
    (recorded : recordedTurn state.mapping = some turnId) :
    Ensures answers (Always (AttemptInvariant platform config task before) fun obtained world' =>
        obtained.1 = turnId ∧ world.log <+: world'.log)
      (resumeTurn turnId state) world := by
  unfold resumeTurn
  -- the end of the program, from a world in which the mapping is settled
  have announced (world' : HostWorld)
      (invariant : AttemptInvariant platform config task before world')
      (longer : world.log <+: world'.log) :
      Ensures answers (Always (AttemptInvariant platform config task before)
        fun (obtained : String × TurnState) world' =>
          obtained.1 = turnId ∧ world.log <+: world'.log) (do
        let evidence ← pushEvidence state.evidence "remote.turn.resumed"
          (.object [("threadId", .string state.mapping.threadId), ("turnId", .string turnId)])
        return (turnId, ⟨some turnId, { state.mapping with pendingTurnClientId := none }, evidence⟩))
      world' := by
    refine (ensures_passive (passive_pushEvidence _ _ _) invariant).seq ?_
    rintro evidence world₂ invariant₂ ⟨-, quiet⟩
    exact ensures_always_returned invariant₂ ⟨rfl, longer.trans quiet.log⟩
  have extends_ : state.mapping.Extends { state.mapping with pendingTurnClientId := none } := by
    refine ⟨rfl, rfl, rfl, rfl, rfl, fun _ known => known, fun _ => .inl ?_⟩
    rw [show recordedTurn { state.mapping with pendingTurnClientId := none } = some turnId from
      recorded]
    simp
  dsimp only
  split
  · refine Ensures.seq (ensures_put holds.invariant ?_ ?_ ?_) ?_
    · exact holds.ownTask
    · exact holds.bound.update _ _
    · intro known isKnown
      rw [holds.atTask] at isKnown
      cases isKnown
      exact extends_
    · rintro _ world₁ invariant₁ ⟨-, -, log⟩
      exact announced world₁ invariant₁ log
  · exact announced world holds.invariant (List.prefix_refl _)

theorem truthy_turnClientId (task : HostTask) :
    truthy (some (turnClientId platform task)) = some (turnClientId platform task) := by
  refine truthy_eq_some.2 ⟨rfl, fun empty => ?_⟩
  have length := congrArg String.length empty
  simp [turnClientId, String.length_append] at length

/-- **The specification of `startTurn`**: it claims a mapping that is not claimed before it starts. -/
theorem ensures_startTurn {state : TurnState} (preflight : GitPreflight)
    (holds : Holds platform config task before state.mapping world)
    (unclaimed : ¬ state.mapping.IsClaimed)
    (unclaimedBefore : ∀ known, before[task.taskId]? = some known → ¬ known.IsClaimed) :
    Ensures answers (Always (AttemptInvariant platform config task before) fun _ _ => True)
      (startTurn platform task preflight state) world := by
  unfold startTurn
  -- the intent is persisted
  refine Ensures.seq (ensures_put holds.invariant ?_ ?_ ?_) ?_
  · exact holds.ownTask
  · exact holds.bound.update _ _
  · intro known isKnown
    rw [holds.atTask] at isKnown
    cases isKnown
    exact ⟨rfl, rfl, rfl, rfl, rfl, fun _ known => known, fun claimed => absurd claimed unclaimed⟩
  rintro _ world₁ invariant₁ ⟨atTask, starts, -⟩
  have claimed : CodexMapping.IsClaimed { state.mapping with
      pendingTurnClientId := some (turnClientId platform task) } := by
    refine .inr ?_
    rw [truthy_turnClientId]
    simp
  -- the turn is started, or its start fails with or without effect
  have started (params : TurnParams) (reply : Except String (HostReply (.startTurn params)))
      (world₂ : HostWorld) (answered : answers world₁ (.startTurn params) reply world₂) :
      AttemptInvariant platform config task before world₂ ∧ world₂.mappings = world₁.mappings := by
    have mappings := answers_mappings rfl answered
    have one : turnStarts world₂.log = [params] := by
      rw [answered.2, turnStarts, List.filterMap_append]
      have none_before : turnStarts world₁.log = [] := by rw [starts, holds.unstarted]
      rw [turnStarts] at none_before
      rw [none_before]
      rfl
    refine ⟨⟨?_, ?_, ?_, ?_, ?_⟩, mappings⟩
    · rw [mappings]; exact invariant₁.filed
    · rw [mappings]; exact invariant₁.others
    · rw [mappings]; exact invariant₁.extended
    · rw [mappings]; exact invariant₁.bound
    · exact .inr ⟨unclaimedBefore, _, params, by rw [mappings]; exact atTask, claimed, one⟩
  refine Ensures.seq (ensures_always_perform invariant₁
    (fun reply world₂ answered => (started _ reply world₂ answered).1)
    fun reply world₂ answered => (started _ _ world₂ answered).2) ?_
  intro turnResult world₂ invariant₂ mappings₂
  refine (ensures_passive (within_ofExcept _ _ _) invariant₂).seq ?_
  rintro turnId world₃ invariant₃ ⟨isTurn, quiet₃⟩
  -- the turn is recorded in place of the intent
  refine Ensures.seq (Ensures.rethrow (ensures_put invariant₃ ?_ ?_ ?_) fun error => ⟨_, rfl⟩) ?_
  · exact holds.ownTask
  · exact holds.bound.update _ _
  · intro known isKnown
    rw [quiet₃.mappings, mappings₂, atTask] at isKnown
    cases isKnown
    refine ⟨rfl, rfl, rfl, rfl, rfl, fun turnId' known => ?_, fun _ => .inl ?_⟩
    · exact absurd (.inl (by simp [show recordedTurn state.mapping = _ from known])) unclaimed
    · obtain ⟨raw, -, rfl, nonempty, -⟩ := requiredString_ok.1 isTurn
      simp [recordedTurn_append state.mapping nonempty]
  · rintro _ world₄ invariant₄ -
    refine (ensures_passive (passive_pushEvidence _ _ _) invariant₄).seq ?_
    rintro evidence world₅ invariant₅ -
    exact ensures_always_returned invariant₅ trivial

/-- **The specification of `obtainTurn`**: the turn of a claimed mapping is resumed. -/
theorem ensures_obtainTurn (holds : Holds platform config task before mapping world)
    (filedBefore : ∀ known, before[task.taskId]? = some known → mapping = known)
    (preflight : GitPreflight) (evidence : List EvidenceItem) :
    Ensures answers (Always (AttemptInvariant platform config task before) fun obtained world' =>
        mapping.IsClaimed → ResumedTurn mapping world'.log obtained.1)
      (obtainTurn platform rounds task preflight mapping evidence) world := by
  unfold obtainTurn
  refine (ensures_recoverTurn holds evidence).seq ?_
  rintro state world₁ invariant₁ ⟨holds₁, unclaimed, recovered⟩
  cases turn : state.turnId with
  | none =>
    obtain ⟨unclaimedNow, unclaimedThen⟩ := unclaimed turn
    have unclaimedBefore : ∀ known, before[task.taskId]? = some known → ¬ known.IsClaimed := by
      intro known isKnown
      rw [← filedBefore known isKnown]
      exact unclaimedThen
    refine (ensures_startTurn preflight holds₁ unclaimedNow unclaimedBefore).always_mono
      (fun _ invariant => invariant) fun _ _ _ _ claimed => ?_
    exact absurd claimed unclaimedThen
  | some turnId =>
    obtain ⟨recorded, resumed⟩ := recovered turnId turn
    refine (ensures_resumeTurn holds₁ recorded).always_mono (fun _ invariant => invariant) ?_
    rintro ⟨obtained, _⟩ world₂ - ⟨rfl, longer⟩ -
    exact resumed.mono longer

/-! ## Whole runs -/

theorem passive_openEvidence (workspace : String) (preflight : GitPreflight)
    (mapping : CodexMapping) : Passive (openEvidence workspace preflight mapping) := by
  unfold openEvidence
  exact Only.bind (passive_pushEvidence _ _ _) fun evidence => passive_pushEvidence _ _ _

theorem within_observeTurn (config : HostConfig) (rounds : Nat) (observed : Observed)
    (evidence : List EvidenceItem) :
    (observeTurn platform config rounds observed evidence).Within
      (fun hostCall => hostCall.isPassive = true) fun result => result.turnId = observed.turnId := by
  unfold observeTurn
  exact Only.within (only_perform _ rfl) fun time => within_pollTurn _ _ _ _

theorem passive_acceptTask (config : HostConfig) (leaseTask : Json) :
    (acceptTask platform config leaseTask).Within (fun hostCall => hostCall.isPassive = true)
      (Accepted platform config leaseTask) := by
  refine (within_acceptTask config leaseTask).mono (fun hostCall isExec => ?_) fun _ accepted => accepted
  cases hostCall <;> first | rfl | cases isExec

/-- **The specification of `run`**: the invariant holds at every point, and a claimed mapping's turn is
returned. -/
theorem ensures_run (config : HostConfig) (rounds : Nat) (filed : Filed before)
    (valid : validateTask platform.coerce leaseTask = .ok task) :
    Ensures answers (Always (AttemptInvariant platform config task before) fun result world' =>
        ∀ mapping, before[task.taskId]? = some mapping → mapping.IsClaimed →
          ResumedTurn mapping world'.log result.turnId)
      (run platform config rounds leaseTask) ⟨before, []⟩ := by
  unfold run
  have start : AttemptInvariant platform config task before ⟨before, []⟩ := attemptInvariant_start filed
  refine (ensures_passive (passive_acceptTask config leaseTask) start).seq ?_
  rintro ⟨task', workspace, preflight⟩ world₁ invariant₁ ⟨⟨valid', allowed, isAllowed, atWorkspace⟩, quiet₁⟩
  have same : task = task' := by
    rw [valid] at valid'
    exact Except.ok.inj valid'
  subst same
  obtain rfl : workspace = platform.resolve allowed := atWorkspace
  refine (ensures_bindMapping invariant₁ quiet₁.starts isAllowed).seq ?_
  rintro mapping world₂ invariant₂ ⟨holds₂, known₂⟩
  have filedBefore : ∀ known, before[task.taskId]? = some known → mapping = known := by
    intro known isKnown
    refine known₂ known ?_
    rw [quiet₁.mappings, isKnown]
  refine (ensures_passive (passive_openEvidence _ _ _) invariant₂).seq ?_
  rintro evidence world₃ invariant₃ ⟨-, quiet₃⟩
  refine (ensures_obtainTurn (holds₂.quiet quiet₃) filedBefore preflight evidence).seq ?_
  rintro ⟨turnId, state⟩ world₄ invariant₄ resumed
  refine (ensures_passive (within_observeTurn _ _ _ _) invariant₄).always_mono
    (fun _ invariant => invariant) ?_
  rintro result world₅ - ⟨about, quiet₅⟩ known isKnown claimed
  rw [about]
  rw [← filedBefore known isKnown] at claimed ⊢
  exact (resumed claimed).mono quiet₅.log

theorem runs_of_invalid {config : HostConfig} {outcome : Outcome RunError RunResult}
    {message : String} (invalid : validateTask platform.coerce leaseTask = .error message)
    (runs : Runs answers (run platform config rounds leaseTask) world outcome world') :
    outcome = .thrown (.plain message) ∧ world' = world := by
  have stops : run platform config rounds leaseTask = .thrown (.plain message) := by
    unfold run acceptTask
    rw [invalid]
    rfl
  rw [stops] at runs
  cases runs
  exact ⟨rfl, rfl⟩

/-! ## Runs that do not match the mapping -/

/-- **The task does not match the mapping filed for it**: another execution, another content, or
another workspace. -/
def Mismatched (platform : Platform) (config : HostConfig) (mapping : CodexMapping)
    (task : HostTask) : Prop :=
  mapping.executionId ≠ task.executionId ∨ mapping.taskFingerprint ≠ taskFingerprint platform task ∨
    ∀ allowed, workspaceAllowed platform config task.target.workspace = some allowed →
      platform.resolve mapping.workspace ≠ platform.resolve allowed

def HostCall.onlyLooks : HostCall → Bool
  | .execCommand .. | .readMappings => true
  | _ => false

/-- **A world that was only looked at**: the mapping file is the same, and every call logged ran a
command or read the mapping file. -/
structure OnlyLooked (before : Mappings) (world : HostWorld) : Prop where
  mappings : world.mappings = before
  log : ∀ entry ∈ world.log, entry.call.onlyLooks = true

theorem OnlyLooked.answers {hostCall : HostCall} {reply : Except String (HostReply hostCall)}
    (looked : OnlyLooked before world) (looks : hostCall.onlyLooks = true)
    (answered : answers world hostCall reply world') : OnlyLooked before world' := by
  constructor
  · rw [answers_mappings (by cases hostCall <;> first | rfl | cases looks) answered]
    exact looked.mappings
  · intro entry logged
    rw [answered.2, List.mem_append, List.mem_singleton] at logged
    rcases logged with logged | rfl
    · exact looked.log entry logged
    · exact looks

theorem ensures_onlyLooked {α : Type} {program : HostProgram α} {values : α → Prop}
    (within : program.Within (fun hostCall => hostCall.isExec = true) values)
    (looked : OnlyLooked before world) :
    Ensures answers (Always (OnlyLooked before) fun value _ => values value) program world := by
  refine within.ensures ?_ looked
  intro world hostCall reply world' isExec looked answered
  refine looked.answers ?_ answered
  cases hostCall <;> first | rfl | cases isExec

theorem ensures_readMappings (looked : OnlyLooked before world) :
    Ensures answers (Always (OnlyLooked before) fun (read : Mappings) _ => read = before)
      (call .readMappings) world := by
  unfold call
  have looks : HostCall.onlyLooks .readMappings = true := rfl
  refine ensures_always_perform looked (fun _ _ answered => looked.answers looks answered) ?_
  intro read world' answered
  exact answered.1.1.trans looked.mappings

theorem ensures_bindMapping_mismatched {workspace : String} (found : before[task.taskId]? = some mapping)
    (mismatched : mapping.executionId ≠ task.executionId ∨
      mapping.taskFingerprint ≠ taskFingerprint platform task ∨
        platform.resolve mapping.workspace ≠ workspace) (looked : OnlyLooked before world) :
    Ensures answers (Always (OnlyLooked before) fun _ _ => False)
      (bindMapping platform task workspace) world := by
  unfold bindMapping
  refine (ensures_readMappings looked).seq ?_
  rintro read world₁ looked₁ rfl
  have isFound : lookupMapping read task.taskId = .found mapping := by
    unfold lookupMapping
    rw [found]
  rw [isFound]
  dsimp only
  split
  · exact ensures_always_thrown looked₁
  · rename_i sameExecution
    split
    · exact ensures_always_thrown looked₁
    · rename_i sameFingerprint
      split
      · exact ensures_always_thrown looked₁
      · rename_i sameWorkspace
        rcases mismatched with differs | differs | differs
        · exact absurd differs sameExecution
        · exact absurd differs sameFingerprint
        · exact absurd differs sameWorkspace

/-- **A run of a task that does not match its mapping** only runs commands and reads the mapping
file, and returns nothing. -/
theorem ensures_run_mismatched (config : HostConfig) (rounds : Nat)
    (valid : validateTask platform.coerce leaseTask = .ok task)
    (found : before[task.taskId]? = some mapping) (mismatched : Mismatched platform config mapping task) :
    Ensures answers (Always (OnlyLooked before) fun _ _ => False)
      (run platform config rounds leaseTask) ⟨before, []⟩ := by
  unfold run
  have looked : OnlyLooked before ⟨before, []⟩ := ⟨rfl, by simp⟩
  refine (ensures_onlyLooked (within_acceptTask config leaseTask) looked).seq ?_
  rintro ⟨task', workspace, preflight⟩ world₁ looked₁ ⟨valid', allowed, isAllowed, atWorkspace⟩
  have same : task = task' := by
    rw [valid] at valid'
    exact Except.ok.inj valid'
  subst same
  have refused : mapping.executionId ≠ task.executionId ∨
      mapping.taskFingerprint ≠ taskFingerprint platform task ∨
        platform.resolve mapping.workspace ≠ workspace := by
    refine mismatched.imp_right fun mismatched => mismatched.imp_right fun differs => ?_
    rw [show workspace = platform.resolve allowed from atWorkspace]
    exact differs allowed isAllowed
  exact (ensures_bindMapping_mismatched found refused looked₁).seq
    fun _ _ _ impossible => absurd impossible id

end Zero3Pilot.RemoteHost
