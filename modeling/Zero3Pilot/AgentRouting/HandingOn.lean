import Zero3Pilot.AgentRouting.Outcomes

/-! # When a task is handed on

A dispatch prompts another executor only after an attempt that hands on, and an unknown outcome that
hands nothing on stays on record until the recovery controller resolves it. -/

namespace Zero3Pilot.AgentRouting

open Procedure

section Worlds

variable (toLowerCase : String → String)

/-- Before an attempt: no attempt has ended the dispatch, and nothing is on record. -/
def Fresh (world : TaskWorld) : Prop :=
  Orderly toLowerCase world.log ∧ ¬ Settled toLowerCase world.log ∧ ¬ Awaiting toLowerCase world.log

/-- Nothing is on record. -/
def Calm (world : TaskWorld) : Prop :=
  Orderly toLowerCase world.log ∧ ¬ Awaiting toLowerCase world.log

/-- After an attempt: if it hands on the dispatch goes on, and what is on record is its result. -/
def Ended (outcome : Except Thrown ExecutionResult) (world : TaskWorld) : Prop :=
  Orderly toLowerCase world.log ∧ (HandsOn toLowerCase outcome → Fresh toLowerCase world) ∧
    (Awaiting toLowerCase world.log →
      ∃ result, outcome = .ok result ∧ result.status = .outcomeUnknown)

/-- **After an operation**: the log is orderly, and what is on record is in the record. -/
def Sound (world : TaskWorld) : Prop :=
  Orderly toLowerCase world.log ∧
    (Awaiting toLowerCase world.log → ∃ record, world.record = some record ∧ record.IsUnknown)

end Worlds

variable {toLowerCase : String → String}

/-! ## What faults keep -/

variable {world : TaskWorld}

theorem Fresh.calm (fresh : Fresh toLowerCase world) : Calm toLowerCase world :=
  ⟨fresh.1, fresh.2.2⟩

theorem Calm.sound (calm : Calm toLowerCase world) : Sound toLowerCase world :=
  ⟨calm.1, fun awaiting => absurd awaiting calm.2⟩

variable {before after : TaskWorld}

theorem Fresh.faulty (fresh : Fresh toLowerCase before) (faulty : Faulty before.log after.log) :
    Fresh toLowerCase after :=
  ⟨faulty.orderly.2 fresh.1, fun settled => fresh.2.1 (faulty.settled.1 settled),
    fun awaiting => fresh.2.2 (faulty.awaiting awaiting)⟩

theorem Calm.faulty (calm : Calm toLowerCase before) (faulty : Faulty before.log after.log) :
    Calm toLowerCase after :=
  ⟨faulty.orderly.2 calm.1, fun awaiting => calm.2 (faulty.awaiting awaiting)⟩

theorem Ended.faulty {outcome : Except Thrown ExecutionResult} (ended : Ended toLowerCase outcome before)
    (faulty : Faulty before.log after.log) :
    Ended toLowerCase outcome after :=
  ⟨faulty.orderly.2 ended.1, fun handsOn => (ended.2.1 handsOn).faulty faulty,
    fun awaiting => ended.2.2 (faulty.awaiting awaiting)⟩

theorem calm_afterThrow {which : Call} (notGet : which ≠ .get) (notResult : which ≠ .setResult)
    (orderly : Orderly toLowerCase after.log) :
    Calm toLowerCase (afterThrow which before after) := by
  refine ⟨(faulty_afterThrow which before after).orderly.2 orderly, ?_⟩
  rw [afterThrow]
  dsimp only
  split
  · exact fun awaiting => notGet awaiting.1
  · exact fun awaiting => notResult awaiting.1

theorem Ended.calm {outcome : Except Thrown ExecutionResult} (ended : Ended toLowerCase outcome world)
    (known : ∀ result, outcome = .ok result → result.status ≠ .outcomeUnknown) :
    Calm toLowerCase world := by
  refine ⟨ended.1, fun awaiting => ?_⟩
  obtain ⟨result, isResult, unknown⟩ := ended.2.2 awaiting
  exact known result isResult unknown

/-! ## Sequences of calls -/

section Sequences

variable {α β : Type} {procedure : TaskProcedure α} {next : α → TaskProcedure β}
  {world : TaskWorld} {returns : β → TaskWorld → Prop} {throws : Thrown → TaskWorld → Prop}

theorem Fresh.seq (fresh : Fresh toLowerCase world) (moves : Moves TaskWorld.log Faulty procedure)
    (goesOn : ∀ value after, Fresh toLowerCase after → (next value).Ensures returns throws after)
    (threw : ∀ error after, Fresh toLowerCase after → throws error after) :
    (procedure >>= next).Ensures returns throws world :=
  moves.first (fun value after faulty => goesOn value after (fresh.faulty faulty))
    fun error after faulty => threw error after (fresh.faulty faulty)

theorem Calm.seq (calm : Calm toLowerCase world) (moves : Moves TaskWorld.log Faulty procedure)
    (goesOn : ∀ value after, Calm toLowerCase after → (next value).Ensures returns throws after)
    (threw : ∀ error after, Calm toLowerCase after → throws error after) :
    (procedure >>= next).Ensures returns throws world :=
  moves.first (fun value after faulty => goesOn value after (calm.faulty faulty))
    fun error after faulty => threw error after (calm.faulty faulty)

/-- A call after an attempt, other than reading and the write of the result: it returns in the same
world, or nothing is on record. -/
theorem Ended.call {outcome : Except Thrown ExecutionResult} {which : Call}
    (ended : Ended toLowerCase outcome world) (notGet : which ≠ .get)
    (notResult : which ≠ .setResult) (leaves : Leaves TaskWorld.log procedure)
    {returns : α → TaskWorld → Prop}
    (goesOn : ∀ value after, Ended toLowerCase outcome after → returns value after)
    (threw : ∀ error after, Calm toLowerCase after → throws error after) :
    (call which procedure).Ensures returns throws world := by
  refine ensures_call (leaves.ensures (fun value after same => ?_) fun error after same => ?_)
  · refine goesOn value after (ended.faulty ?_)
    rw [same]
    exact refl_of Faulty _
  · refine threw error _ (calm_afterThrow notGet notResult ?_)
    rw [same]
    exact ended.1

end Sequences

/-! ## One attempt -/

section Attempts

variable {deps : Dependencies} {task : TaskSpec}

variable {world : TaskWorld}

theorem prompt_fresh (target : Target) (answers : AttemptAnswers) (fresh : Fresh toLowerCase world) :
    (prompt target answers).Ensures (fun _ => Fresh toLowerCase)
      (fun _ => Fresh toLowerCase) world := by
  rw [prompt]
  cases answers.executor.throwsBefore with
  | some thrown => exact (ensures_fail _).2 fresh
  | none =>
    have prompted : Fresh toLowerCase { world with log := .prompted target :: world.log } :=
      ⟨⟨fresh.2.1, fresh.1⟩, fresh.2⟩
    dsimp only
    rw [ensures_bind, note, ensures_modify]
    cases answers.executor.throwsAfter with
    | some thrown => exact (ensures_fail _).2 prompted
    | none => exact (ensures_pure _).2 prompted

theorem note_answered_fresh (target : Target) (candidate : ExecutionResult)
    (fresh : Fresh toLowerCase world) {throws : Thrown → TaskWorld → Prop} :
    (note (.answered target candidate)).Ensures (fun _ => Fresh toLowerCase) throws world :=
  (ensures_modify _).2 fresh

theorem moves_renderContext (answers : AttemptAnswers) :
    Moves TaskWorld.log Faulty (renderContext deps answers) :=
  Moves.ite (fun _ => Moves.ofExcept _) fun _ => Moves.pure _

theorem moves_bindTurn (answers : AttemptAnswers) (binding : TaskBinding) (turn : Turn) :
    Moves TaskWorld.log Faulty (bindTurn task answers binding turn) :=
  Moves.ite (fun _ => Moves.pure _) fun _ =>
    (moves_updateCall _ _ _ _).bind fun _ => Moves.pure _

theorem asked_fresh {β : Type} (target : Target) (answers : AttemptAnswers) (candidate : ExecutionResult)
    {next : TaskProcedure β} (fresh : Fresh toLowerCase world)
    (goesOn : ∀ after, Fresh toLowerCase after → next.Ensures
      (fun _ => Fresh toLowerCase) (fun _ => Fresh toLowerCase) after) :
    (do
      renderContext deps answers
      prompt target answers
      note (.answered target candidate)
      next).Ensures (fun _ => Fresh toLowerCase) (fun _ => Fresh toLowerCase) world := by
  refine fresh.seq (moves_renderContext answers) (fun _ after fresh => ?_) fun _ _ fresh => fresh
  rw [ensures_bind]
  refine (prompt_fresh target answers fresh).imp fun _ prompted fresh => ?_
  rw [ensures_bind]
  exact (note_answered_fresh target candidate fresh).imp fun _ noted fresh => goesOn noted fresh

theorem candidateOf_fresh (target : Target) (answers : AttemptAnswers) (binding : TaskBinding)
    (fresh : Fresh toLowerCase world) :
    (candidateOf deps task target answers binding).Ensures
      (fun _ => Fresh toLowerCase) (fun _ => Fresh toLowerCase) world := by
  rw [candidateOf.eq_def]
  cases target with
  | gemini =>
    refine fresh.seq (Moves.check _ _) (fun _ after fresh => ?_) fun _ _ fresh => fresh
    refine asked_fresh .gemini answers _ fresh fun after fresh => ?_
    refine fresh.seq (moves_bindTurn _ _ _) (fun _ after fresh => ?_) fun _ _ fresh => fresh
    exact (ensures_pure _).2 fresh
  | claude =>
    refine fresh.seq (Moves.check _ _) (fun _ after fresh => ?_) fun _ _ fresh => fresh
    exact asked_fresh .claude answers _ fresh fun after fresh => (ensures_pure _).2 fresh
  | zero3Api =>
    refine fresh.seq (Moves.check _ _) (fun _ after fresh => ?_) fun _ _ fresh => fresh
    exact asked_fresh .zero3Api answers _ fresh fun after fresh => (ensures_pure _).2 fresh
  | codex =>
    dsimp only
    rw [ensures_bind]
    refine (prompt_fresh .codex answers fresh).imp fun _ prompted fresh => ?_
    rw [ensures_bind]
    refine (note_answered_fresh _ _ fresh).imp fun _ noted fresh => ?_
    exact (ensures_pure _).2 fresh

theorem dispatchToTarget_fresh (target : Target) (answers : AttemptAnswers) (binding : TaskBinding)
    (fresh : Fresh toLowerCase world) :
    (dispatchToTarget deps task target answers binding).Ensures
      (fun _ => Fresh toLowerCase) (fun _ => Fresh toLowerCase) world := by
  rw [dispatchToTarget, ensures_bind]
  refine (candidateOf_fresh target answers binding fresh).imp fun _ answered fresh => ?_
  refine fresh.seq (Moves.ofExcept _) (fun _ after fresh => ?_) fun _ _ fresh => fresh
  refine fresh.seq (Moves.ofExcept _) (fun _ after fresh => ?_) fun _ _ fresh => fresh
  refine fresh.seq (Moves.ofExcept _) (fun _ after fresh => ?_) fun _ _ fresh => fresh
  exact (ensures_pure _).2 fresh

theorem Fresh.ended (fresh : Fresh toLowerCase world) (target : Target)
    (outcome : Except Thrown ExecutionResult) :
    Ended toLowerCase outcome { world with log := .attempted target outcome :: world.log } := by
  obtain ⟨orderly, unsettled, nothing⟩ := fresh
  cases outcome with
  | error thrown =>
    refine ⟨orderly, fun handsOn => ⟨orderly, ?_, nothing⟩, fun awaiting => absurd awaiting nothing⟩
    rintro (kept | settled)
    · exact kept handsOn
    · exact unsettled settled
  | ok result =>
    refine ⟨orderly, fun handsOn => ⟨orderly, ?_, ?_⟩, ?_⟩
    · rintro (kept | settled)
      · exact kept handsOn
      · exact unsettled settled
    · rintro (unknown | awaiting)
      · exact unknown.2 handsOn
      · exact nothing awaiting
    · rintro (unknown | awaiting)
      · exact ⟨result, rfl, unknown.1⟩
      · exact absurd awaiting nothing

/-- **An attempt** in a fresh world ends with its outcome. -/
theorem attemptTarget_ended (target : Target) (answers : AttemptAnswers) (binding : TaskBinding)
    (fresh : Fresh toLowerCase world) :
    (attemptTarget deps task target answers binding).Ensures
      (fun outcome => Ended toLowerCase outcome) (fun _ _ => False) world := by
  rw [attemptTarget, ensures_bind, ensures_attempt]
  refine (dispatchToTarget_fresh target answers binding fresh).mono (fun _ after fresh => ?_)
    fun _ after fresh => ?_
  · rw [ensures_bind, note, ensures_modify, ensures_pure]
    exact fresh.ended target _
  · rw [ensures_bind, note, ensures_modify, ensures_pure]
    exact fresh.ended target _

/-! ## The result on record -/

def Marked (world : TaskWorld) : Prop := ∃ record, world.record = some record ∧ record.IsUnknown

theorem recordSkillUsage_ended (which : Call) (notGet : which ≠ .get) (notResult : which ≠ .setResult)
    (answers : AttemptAnswers) {outcome : Except Thrown ExecutionResult}
    (ended : Ended toLowerCase outcome world) :
    (recordSkillUsage deps answers which).Ensures (fun _ => Ended toLowerCase outcome)
      (fun _ => Calm toLowerCase) world := by
  rw [recordSkillUsage, ensures_ite]
  constructor
  · intro _
    rw [plainCall]
    refine ended.call notGet notResult ?_ (fun _ after ended => ended) fun _ after calm => calm
    cases answers.calls which with
    | done => exact Moves.pure _
    | refused message | interrupted message => exact Moves.fail _
  · exact fun _ => (ensures_pure _).2 ended

variable {result : ExecutionResult}

theorem setResult_changed {state : TaskState} {current record : TaskRecord} (changed : (do
      ensure (result.taskId = current.task.taskId ∧ result.executionId = current.task.executionId)
        "execution result identity mismatch"
      return { current with result := some result, state }) = Except.ok record) :
    record.result = some result ∧ record.state = state := by
  simp only [bind_ok, pure_ok] at changed
  obtain ⟨_, -, rfl⟩ := changed
  exact ⟨rfl, rfl⟩

theorem marked_of_changed {reviewRequired : Bool} {record : TaskRecord} (log : List Event)
    (unknown : result.status = .outcomeUnknown)
    (changed : record.result = some result ∧ record.state = stateForResult result reviewRequired) :
    Marked ⟨some record, log⟩ := by
  refine ⟨record, rfl, ?_, result, changed.1, unknown⟩
  rw [changed.2, stateForResult, unknown]

/-- **The write of a result** after its attempt: where it returns an unknown outcome is marked, and
where it throws what is on record is in the record. -/
theorem setResult_ended (answer : CallAnswer) (reviewRequired : Bool)
    (ended : Ended toLowerCase (.ok result) world) :
    (call .setResult (setResult task.taskId answer result
        (stateForResult result reviewRequired))).Ensures
      (fun _ after => Ended toLowerCase (.ok result) after ∧
        (result.status = .outcomeUnknown → Marked after))
      (fun _ => Sound toLowerCase) world := by
  apply ensures_call
  refine (update_ensures _ _ _ _).mono ?_ ?_
  · rintro _ _ ⟨current, -, changed, rfl⟩
    exact ⟨ended, fun unknown => marked_of_changed _ unknown (setResult_changed changed)⟩
  · rintro _ _ (rfl | ⟨current, record, isCurrent, changed, rfl⟩)
    · -- the record is as it was, so the throw ends what is on record
      refine Calm.sound ⟨(faulty_afterThrow _ _ _).orderly.2 ended.1, ?_⟩
      rw [afterThrow, if_pos rfl]
      rintro ⟨never, -⟩
      cases never
    · refine ⟨(faulty_afterThrow _ _ _).orderly.2 ended.1, fun awaiting => ?_⟩
      have isAwaiting := (faulty_afterThrow .setResult world _).awaiting awaiting
      obtain ⟨_, same, unknown⟩ := ended.2.2 isAwaiting
      cases same
      exact marked_of_changed _ unknown (setResult_changed changed)

theorem getRecord_sound (answer : CallAnswer) (sound : Sound toLowerCase world) :
    (call .get (getRecord task.taskId answer)).Ensures (fun _ => Sound toLowerCase)
      (fun _ => Sound toLowerCase) world := by
  apply ensures_call
  refine (leaves_getRecord _ _).ensures (fun _ after same => ?_) fun _ after same => ?_
  · rw [id, id] at same
    rw [same]
    exact sound
  · rw [id, id] at same
    subst same
    have faulty := faulty_afterThrow .get after after
    exact ⟨faulty.orderly.2 sound.1, fun awaiting => sound.2 (faulty.awaiting awaiting)⟩

theorem Ended.sound (ended : Ended toLowerCase (.ok result) world)
    (marked : result.status = .outcomeUnknown → Marked world) : Sound toLowerCase world := by
  refine ⟨ended.1, fun awaiting => ?_⟩
  obtain ⟨_, same, unknown⟩ := ended.2.2 awaiting
  cases same
  exact marked unknown

theorem known_of_succeeded (succeeded : result.succeeded) : result.status ≠ .outcomeUnknown := by
  intro unknown
  rw [ExecutionResult.succeeded, unknown] at succeeded
  cases succeeded

theorem moves_setState (which : Call) (answer : CallAnswer) (state : TaskState) :
    Moves TaskWorld.log Faulty (call which (setState task.taskId answer state)) :=
  moves_updateCall _ _ _ _

end Attempts

/-! ## The single-shot path -/

section Legacy

variable {deps : Dependencies} {task : TaskSpec}

theorem moves_reviewResult (answers : AttemptAnswers) (result : ExecutionResult) :
    Moves TaskWorld.log Faulty (reviewResult task answers result) :=
  Moves.ite (fun _ => (moves_plainCall _ _).bind fun _ =>
    (moves_setState _ _ _).bind fun _ => Moves.pure _) fun _ => Moves.pure _

variable {world : TaskWorld}

theorem failLegacy_sound (answers : AttemptAnswers) (thrown : Thrown) (calm : Calm toLowerCase world) :
    (failLegacy deps task answers thrown).Ensures (fun _ => Sound toLowerCase)
      (fun _ => Sound toLowerCase) world := by
  rw [failLegacy]
  refine calm.seq (moves_recordSkillUsage _ _ _) (fun _ _ calm => ?_) fun _ _ calm => calm.sound
  refine calm.seq (moves_setState _ _ _) (fun _ _ calm => ?_) fun _ _ calm => calm.sound
  exact (ensures_fail _).2 calm.sound

theorem recordLegacy_sound (answers : AttemptAnswers) {result : ExecutionResult}
    (ended : Ended toLowerCase (.ok result) world) :
    (recordLegacy task answers result).Ensures (fun _ => Sound toLowerCase)
      (fun _ => Sound toLowerCase) world := by
  rw [recordLegacy, ensures_bind]
  refine (setResult_ended _ _ ended).imp fun _ written recorded => ?_
  rw [ensures_bind]
  by_cases unknown : result.status = .outcomeUnknown
  · rw [reviewResult, if_neg (fun reviewed => reviewed.2.2.2 unknown), ensures_pure]
    exact getRecord_sound _ (recorded.1.sound recorded.2)
  · have calm : Calm toLowerCase written := by
      refine recorded.1.calm fun found same => ?_
      cases same
      exact unknown
    refine (moves_reviewResult _ _).ensures (fun _ after faulty => ?_) fun _ after faulty => ?_
    · exact getRecord_sound _ (calm.faulty faulty).sound
    · exact (calm.faulty faulty).sound

theorem useLegacy_ended (answers : AttemptAnswers) {outcome : Except Thrown ExecutionResult}
    (ended : Ended toLowerCase outcome world) :
    (useLegacy deps answers outcome).Ensures (fun result => Ended toLowerCase (.ok result))
      (fun _ => Calm toLowerCase) world := by
  rw [useLegacy, ensures_bind]
  cases outcome with
  | error thrown =>
    refine Ensures.ofExcept (fun _ never => (by cases never)) fun _ => ended.calm ?_
    rintro result ⟨⟩
  | ok result =>
    rw [ensures_ofExcept]
    refine ⟨fun found same => ?_, fun _ never => (by cases never)⟩
    cases same
    rw [ensures_bind]
    exact (recordSkillUsage_ended .finishedUsage (by decide) (by decide) answers ended).imp
      fun _ after ended => (ensures_pure _).2 ended

theorem finishLegacy_sound (answers : AttemptAnswers) {outcome : Except Thrown ExecutionResult}
    (ended : Ended toLowerCase outcome world) :
    (finishLegacy deps task answers outcome).Ensures (fun _ => Sound toLowerCase)
      (fun _ => Sound toLowerCase) world := by
  rw [finishLegacy, ensures_bind, ensures_attempt]
  refine (useLegacy_ended answers ended).mono (fun result after ended => ?_) fun thrown after calm => ?_
  · exact recordLegacy_sound answers ended
  · exact failLegacy_sound answers thrown calm

/-- **The single-shot path** keeps the world sound. -/
theorem dispatchLegacy_sound (context : DispatchContext) (answers : AttemptAnswers)
    (fresh : Fresh toLowerCase world) :
    (dispatchLegacy deps task context answers).Ensures (fun _ => Sound toLowerCase)
      (fun _ => Sound toLowerCase) world := by
  rw [dispatchLegacy]
  refine fresh.seq (Moves.ofExcept _) (fun _ _ fresh => ?_) fun _ _ fresh => fresh.calm.sound
  refine fresh.seq (Moves.ofExcept _) (fun _ _ fresh => ?_) fun _ _ fresh => fresh.calm.sound
  refine fresh.seq (moves_resolveSkills _ _) (fun _ _ fresh => ?_) fun _ _ fresh => fresh.calm.sound
  refine fresh.seq (moves_call _ (leaves_create _ _ _)) (fun _ _ fresh => ?_)
    fun _ _ fresh => fresh.calm.sound
  refine fresh.seq (moves_updateCall _ _ _ _) (fun _ _ fresh => ?_) fun _ _ fresh => fresh.calm.sound
  refine fresh.seq (moves_recordSkillUsage _ _ _) (fun _ _ fresh => ?_)
    fun _ _ fresh => fresh.calm.sound
  refine fresh.seq (moves_updateCall _ _ _ _) (fun _ _ fresh => ?_) fun _ _ fresh => fresh.calm.sound
  refine fresh.seq (moves_setState _ _ _) (fun _ _ fresh => ?_) fun _ _ fresh => fresh.calm.sound
  refine fresh.seq (moves_setState _ _ _) (fun _ _ fresh => ?_) fun _ _ fresh => fresh.calm.sound
  rw [ensures_bind]
  refine (attemptTarget_ended _ _ _ fresh).mono (fun outcome _ ended => ?_) fun _ _ never => never.elim
  exact finishLegacy_sound answers ended

end Legacy

/-! ## The intelligent path -/

section Intelligent

variable {deps : Dependencies} {task : TaskSpec} {context : DispatchContext} {plan : DispatchPlan}

theorem moves_routeAttempt (answers : AttemptAnswers) (state : DispatchState) :
    Moves TaskWorld.log Faulty (routeAttempt task plan answers state) := by
  refine (Moves.ofExcept _).bind fun availability => ?_
  cases answers.route ⟨plan.mode, plan.requestedExecutor, plan.importance, availability,
      state.exclusions⟩ with
  | ok decision => exact Moves.pure _
  | error thrown =>
    exact Moves.ite (fun _ => (moves_setState _ _ _).bind fun _ => Moves.fail _)
      fun _ => Moves.fail _

theorem moves_enterAttempt (answers : AttemptAnswers) (state : DispatchState)
    (decision : RouteDecision) :
    Moves TaskWorld.log Faulty (enterAttempt task plan answers state decision) := by
  have entered : Moves TaskWorld.log Faulty (do
      let _ ← call .appendRoutingDecision
        (appendRoutingDecision task.taskId (answers.calls .appendRoutingDecision) decision)
      let _ ← call .setDispatched (setState task.taskId (answers.calls .setDispatched)
        (if state.attempts = 0 then .dispatched else .running))
      : TaskProcedure Unit) :=
    (moves_updateCall _ _ _ _).bind fun _ => (moves_setState _ _ _).bind fun _ => Moves.pure _
  rw [enterAttempt]
  refine Moves.ite (fun _ => ?_) fun _ => Moves.ite (fun _ => ?_) fun _ => ?_
  · exact (moves_call _ (leaves_create _ _ _)).bind fun _ =>
      (moves_updateCall _ _ _ _).bind fun _ => entered
  · exact (moves_updateCall _ _ _ _).bind fun _ => entered
  · exact entered

theorem moves_beginAttempt (answers : AttemptAnswers) (state : DispatchState)
    (decision : RouteDecision) :
    Moves TaskWorld.log Faulty (beginAttempt deps task context plan answers state decision) := by
  have begun : Moves TaskWorld.log Faulty (do
      let _ ← call .appendAttempt (appendAttempt task.taskId (answers.calls .appendAttempt)
        (runningAttempt task plan state decision)) : TaskProcedure Unit) :=
    (moves_updateCall _ _ _ _).bind fun _ => Moves.pure _
  refine (moves_resolveSkills _ _).bind fun _ => (moves_updateCall _ _ _ _).bind fun _ =>
    (moves_recordSkillUsage _ _ _).bind fun _ => Moves.ite (fun _ => ?_) fun _ => ?_
  · exact (moves_updateCall _ _ _ _).bind fun _ => begun
  · exact begun

/-- **After a pass**: a record is returned in a sound world, or the next attempt begins in a fresh
one. -/
def Passed (toLowerCase : String → String) : TaskRecord ⊕ DispatchState → TaskWorld → Prop
  | .inl _, world => Sound toLowerCase world
  | .inr _, world => Fresh toLowerCase world

variable {world : TaskWorld}

theorem handOn_passed (answers : AttemptAnswers) (state : DispatchState) (decision : RouteDecision)
    (outcome : Except Thrown ExecutionResult) (failure : AttemptFailure)
    (fresh : Fresh toLowerCase world) :
    (handOn task answers state decision outcome failure).Ensures (Passed toLowerCase)
      (fun _ => Sound toLowerCase) world := by
  rw [handOn]
  refine fresh.seq (moves_updateCall _ _ _ _) (fun _ _ fresh => ?_) fun _ _ fresh => fresh.calm.sound
  exact (ensures_pure _).2 fresh

theorem handsOn_of_canSwitch {state : DispatchState} {outcome : Except Thrown ExecutionResult}
    (failed : ∀ result, outcome = .ok result → result.succeeded = false)
    (switches : ¬ canSwitch plan state (classifyAttemptFailure toLowerCase outcome) = false) :
    HandsOn toLowerCase outcome := by
  simp only [canSwitch, Bool.not_eq_false, Bool.and_eq_true] at switches
  exact (switchEligible_iff failed).1 switches.1.1.1

theorem returned_passed (answer : CallAnswer) (sound : Sound toLowerCase world) : (do
      return .inl (← call .get (getRecord task.taskId answer)) :
        TaskProcedure (TaskRecord ⊕ DispatchState)).Ensures
      (Passed toLowerCase) (fun _ => Sound toLowerCase) world := by
  rw [ensures_bind]
  exact (getRecord_sound answer sound).imp fun _ after sound => (ensures_pure _).2 sound

theorem succeedAttempt_passed (attemptTask : TaskSpec) (answers : AttemptAnswers)
    (calm : Calm toLowerCase world) :
    (succeedAttempt task attemptTask answers).Ensures (Passed toLowerCase)
      (fun _ => Sound toLowerCase) world := by
  rw [succeedAttempt]
  rw [ensures_ite]
  constructor
  · intro _
    refine calm.seq (moves_plainCall _ _) (fun _ _ calm => ?_) fun _ _ calm => calm.sound
    refine calm.seq (moves_setState _ _ _) (fun _ _ calm => ?_) fun _ _ calm => calm.sound
    exact returned_passed _ calm.sound
  · exact fun _ => returned_passed _ calm.sound

/-- **What comes after an attempt.** -/
theorem finishAttempt_passed (answers : AttemptAnswers) (state : DispatchState)
    (decision : RouteDecision) {outcome : Except Thrown ExecutionResult}
    (ended : Ended deps.toLowerCase outcome world) :
    (finishAttempt deps task plan answers state decision outcome).Ensures
      (Passed deps.toLowerCase) (fun _ => Sound deps.toLowerCase) world := by
  unfold finishAttempt
  rw [ensures_bind]
  refine ended.call (by decide) (by decide) (leaves_update _ _ _) (fun _ after ended => ?_)
    fun _ _ calm => calm.sound
  rw [ensures_bind]
  refine (recordSkillUsage_ended .finishedUsage (by decide) (by decide) answers ended).mono
    (fun _ after ended => ?_) fun _ _ calm => calm.sound
  cases outcome with
  | error thrown =>
    have calm := ended.calm (by rintro result ⟨⟩)
    rw [ensures_ite]
    constructor
    · intro _
      refine calm.seq (moves_setState _ _ _) (fun _ _ calm => ?_) fun _ _ calm => calm.sound
      exact (ensures_fail _).2 calm.sound
    · intro switches
      have handsOn := handsOn_of_canSwitch (by rintro result ⟨⟩) switches
      exact handOn_passed _ _ _ _ _ (ended.2.1 handsOn)
  | ok result =>
    rw [ensures_bind, recordResult, ensures_bind]
    refine (setResult_ended _ _ ended).imp fun _ written recorded => ?_
    rw [ensures_pure, ensures_ite]
    constructor
    · intro succeeded
      refine succeedAttempt_passed _ _ (recorded.1.calm fun found same => ?_)
      cases same
      exact known_of_succeeded succeeded
    · intro failed
      rw [ensures_ite]
      constructor
      · exact fun _ => returned_passed _ (recorded.1.sound recorded.2)
      · intro switches
        have handsOn := handsOn_of_canSwitch (fun found same => ?_) switches
        · exact handOn_passed _ _ _ _ _ (recorded.1.2.1 handsOn)
        · cases same
          simpa using failed

/-- **One pass of the loop** begins in a fresh world. -/
theorem dispatchPass_passed (answers : AttemptAnswers) (state : DispatchState)
    (fresh : Fresh deps.toLowerCase world) :
    (dispatchPass deps task context plan answers state).Ensures (Passed deps.toLowerCase)
      (fun _ => Sound deps.toLowerCase) world := by
  rw [dispatchPass]
  refine fresh.seq (moves_routeAttempt _ _) (fun decision _ fresh => ?_)
    fun _ _ fresh => fresh.calm.sound
  refine fresh.seq (moves_enterAttempt _ _ _) (fun _ _ fresh => ?_) fun _ _ fresh => fresh.calm.sound
  refine fresh.seq (moves_beginAttempt _ _ _) (fun _ _ fresh => ?_) fun _ _ fresh => fresh.calm.sound
  rw [ensures_bind]
  refine (attemptTarget_ended _ _ _ fresh).mono (fun outcome _ ended => ?_) fun _ _ never => never.elim
  exact finishAttempt_passed answers _ decision ended

/-- **The loop**, by induction on the attempts that remain. -/
theorem dispatchLoop_sound (answers : Nat → AttemptAnswers) (remaining : Nat) (state : DispatchState)
    (fresh : Fresh deps.toLowerCase world) :
    (dispatchLoop deps task context plan answers remaining state).Ensures
      (fun _ => Sound deps.toLowerCase) (fun _ => Sound deps.toLowerCase)
      world := by
  induction remaining generalizing state world with
  | zero =>
    rw [dispatchLoop]
    refine fresh.seq (moves_setState _ _ _) (fun _ _ fresh => ?_) fun _ _ fresh => fresh.calm.sound
    exact (ensures_fail _).2 fresh.calm.sound
  | succ remaining ih =>
    rw [dispatchLoop, ensures_bind]
    refine (dispatchPass_passed (answers state.attempts) state fresh).imp fun ended after passed => ?_
    cases ended with
    | inl record => exact (ensures_pure _).2 passed
    | inr next => exact ih next passed

/-- **The intelligent path** keeps the world sound. -/
theorem dispatchAgentTask_sound (answers : Nat → AttemptAnswers) (fresh : Fresh deps.toLowerCase world) :
    (dispatchAgentTask deps task context answers).Ensures
      (fun _ => Sound deps.toLowerCase) (fun _ => Sound deps.toLowerCase)
      world := by
  rw [dispatchAgentTask]
  refine fresh.seq (Moves.ofExcept _) (fun plan _ fresh => ?_) fun _ _ fresh => fresh.calm.sound
  exact dispatchLoop_sound answers _ _ fresh

/-- **A dispatch** keeps the world sound. -/
theorem dispatch_sound (answers : Nat → AttemptAnswers) (fresh : Fresh deps.toLowerCase world) :
    (dispatch deps task context answers).Ensures
      (fun _ => Sound deps.toLowerCase) (fun _ => Sound deps.toLowerCase)
      world := by
  rw [dispatch]
  split
  · exact dispatchAgentTask_sound answers fresh
  · exact dispatchLegacy_sound context (answers 0) fresh

end Intelligent

/-! ## Recovery -/

section Recovery

variable {task : TaskSpec} {world : TaskWorld}

theorem getRecord_ensures (answer : CallAnswer) : (getRecord task.taskId answer).Ensures
      (fun record after => after = world ∧ world.record = some record)
      (fun _ after => after = world) world := by
  rw [getRecord, ensures_bind]
  refine Ensures.check (fun _ => ?_) rfl
  rw [ensures_bind, ensures_read]
  cases answer with
  | done =>
    refine Ensures.required (fun record found => ?_) rfl
    exact Ensures.checked (fun _ => (ensures_pure _).2 ⟨rfl, found⟩) rfl
  | refused message | interrupted message => exact (ensures_fail _).2 rfl

theorem requireUnknown_ensures (answer : CallAnswer) : (requireUnknown task.taskId answer).Ensures
      (fun record after => after = world ∧ world.record = some record ∧ record.IsUnknown)
      (fun _ after => after = world) world := by
  rw [requireUnknown, ensures_bind]
  refine (getRecord_ensures answer).imp ?_
  rintro record _ ⟨rfl, found⟩
  exact Ensures.checked (fun unknown => (ensures_pure _).2 ⟨rfl, found, unknown⟩) rfl

theorem leaves_inspect (get : CallAnswer) (answers : RecoveryAnswers) :
    Leaves id (inspect task.taskId get answers) := by
  intro world
  rw [inspect, ensures_bind]
  refine (requireUnknown_ensures get).mono ?_ fun _ _ same => same
  rintro record _ ⟨rfl, -, -⟩
  rw [ensures_bind]
  refine Ensures.ofExcept (fun _ _ => ?_) fun _ => rfl
  rw [ensures_bind]
  exact Ensures.ofExcept (fun _ _ => (ensures_pure _).2 rfl) fun _ => rfl

theorem leaves_assertRetryAllowed (answer : CallAnswer) :
    Leaves id (assertRetryAllowed task.taskId answer) :=
  (leaves_getRecord _ _).bind fun _ => Moves.check _ _

theorem resolving_sound {answer : CallAnswer} {change : TaskRecord → Except String TaskRecord}
    (sound : Sound toLowerCase world) :
    (resolving (update task.taskId answer change)).Ensures
      (fun _ => Sound toLowerCase) (fun _ => Sound toLowerCase) world := by
  apply ensures_state.2
  have reached : (update task.taskId answer change world).2 = world ∨
      ∃ record, (update task.taskId answer change world).2 = { world with record := some record } := by
    have ensured : (update task.taskId answer change).Ensures
        (fun _ after => after = world ∨ ∃ record, after = { world with record := some record })
        (fun _ after => after = world ∨ ∃ record, after = { world with record := some record })
        world := by
      refine (update_ensures task.taskId answer change world).mono ?_ ?_
      · rintro record _ ⟨_, -, -, rfl⟩
        exact Or.inr ⟨record, rfl⟩
      · rintro _ _ (rfl | ⟨_, record, -, -, rfl⟩)
        · exact Or.inl rfl
        · exact Or.inr ⟨record, rfl⟩
    exact ensures_state.1 ensured
  rw [resolving]
  dsimp only
  split
  · rename_i same
    rcases reached with stays | ⟨record, changes⟩
    · rw [stays]
      exact sound
    · rw [changes] at same ⊢
      dsimp only at same
      rw [same]
      exact sound
  · rcases reached with stays | ⟨record, changes⟩
    · rw [stays]
      exact ⟨sound.1, fun never => never.elim⟩
    · rw [changes]
      exact ⟨sound.1, fun never => never.elim⟩

theorem keepUnknown_sound (answer : CallAnswer) {record : TaskRecord}
    (found : world.record = some record) (unknown : record.IsUnknown)
    (sound : Sound toLowerCase world) :
    (setState task.taskId answer .outcomeUnknown).Ensures
      (fun _ => Sound toLowerCase) (fun _ => Sound toLowerCase) world := by
  have kept (changed : TaskRecord) (isChanged : (Except.ok { record with state := .outcomeUnknown } :
      Except String TaskRecord) = .ok changed) :
      Sound toLowerCase { world with record := some changed } := by
    cases isChanged
    exact ⟨sound.1, fun _ => ⟨_, rfl, rfl, unknown.2⟩⟩
  refine (update_ensures _ _ _ _).mono ?_ ?_
  · rintro changed _ ⟨current, isCurrent, isChanged, rfl⟩
    rw [found] at isCurrent
    cases isCurrent
    exact kept changed isChanged
  · rintro _ _ (rfl | ⟨current, changed, isCurrent, isChanged, rfl⟩)
    · exact sound
    · rw [found] at isCurrent
      cases isCurrent
      exact kept changed isChanged

theorem writeResolution_sound (resolution : Resolution) (answers : RecoveryAnswers)
    (snapshot : RecoverySnapshot) (result : ExecutionResult) (reason : String)
    {record : TaskRecord} (found : world.record = some record) (unknown : record.IsUnknown)
    (sound : Sound toLowerCase world) :
    (writeResolution task.taskId resolution answers snapshot record result reason).Ensures
      (fun _ => Sound toLowerCase) (fun _ => Sound toLowerCase) world := by
  cases resolution with
  | keepUnknown => exact keepUnknown_sound _ found unknown sound
  | acceptPartial =>
    rw [writeResolution, ensures_bind]
    exact Ensures.check (fun _ => resolving_sound sound) sound
  | markFailed =>
    rw [writeResolution, ensures_bind]
    exact Ensures.check (fun _ => resolving_sound sound) sound

/-- **Resolving an outcome** keeps the world sound. -/
theorem applyResolution_sound (resolution : Resolution) (reason : Option String)
    (answers : RecoveryAnswers) (sound : Sound toLowerCase world) :
    (applyResolution task.taskId resolution reason answers).Ensures
      (fun _ => Sound toLowerCase) (fun _ => Sound toLowerCase) world := by
  rw [applyResolution, ensures_bind]
  refine Ensures.ofExcept (fun reason _ => ?_) fun _ => sound
  rw [ensures_bind]
  refine (requireUnknown_ensures _).mono ?_ (by rintro _ _ rfl; exact sound)
  rintro before _ ⟨rfl, found, unknown⟩
  refine (leaves_inspect _ _).first (fun snapshot after same => ?_) fun _ after same => ?_
  · rw [id, id] at same
    subst same
    refine Ensures.required (fun result _ => ?_) sound
    rw [ensures_bind]
    refine (writeResolution_sound resolution answers snapshot result reason found unknown sound).imp
      fun record after sound => ?_
    rw [ensures_bind]
    exact Ensures.ofExcept (fun _ _ => (ensures_pure _).2 sound) fun _ => sound
  · rw [id, id] at same
    subst same
    exact sound

end Recovery

/-! ## Every run -/

variable {deps : Dependencies} {task : TaskSpec}

theorem sound_of_leaves {α : Type} {procedure : TaskProcedure α} (leaves : Leaves id procedure)
    (sound : Sound toLowerCase world) :
    procedure.Ensures (fun _ => Sound toLowerCase) (fun _ => Sound toLowerCase) world := by
  refine leaves.ensures (fun _ after same => ?_) fun _ after same => ?_
  · rw [id, id] at same
    exact same ▸ sound
  · rw [id, id] at same
    exact same ▸ sound

theorem fresh_of_dispatched (sound : Sound toLowerCase world) :
    Fresh toLowerCase { world with log := .dispatched :: world.log } :=
  ⟨sound.1, fun never => never, fun never => never⟩

/-- **Every operation keeps the world sound.** -/
theorem serve_sound (operation : TaskOperation) (sound : Sound deps.toLowerCase world) :
    (serve deps task operation).Ensures (fun _ => Sound deps.toLowerCase)
      (fun _ => Sound deps.toLowerCase) world := by
  cases operation with
  | dispatch context answers =>
    rw [serve, ensures_bind, note, ensures_modify, ensures_bind]
    exact (dispatch_sound answers (fresh_of_dispatched sound)).imp fun _ _ sound =>
      (ensures_pure _).2 sound
  | dispatchAgentTask context answers =>
    rw [serve, ensures_bind, note, ensures_modify, ensures_bind]
    exact (dispatchAgentTask_sound answers (fresh_of_dispatched sound)).imp fun _ _ sound =>
      (ensures_pure _).2 sound
  | inspect answers =>
    rw [serve, ensures_bind]
    exact (sound_of_leaves (leaves_inspect _ _) sound).imp fun _ _ sound =>
      (ensures_pure _).2 sound
  | applyResolution resolution reason answers =>
    rw [serve, ensures_bind]
    exact (applyResolution_sound resolution reason answers sound).imp fun _ _ sound =>
      (ensures_pure _).2 sound
  | assertRetryAllowed get => exact sound_of_leaves (leaves_assertRetryAllowed _) sound

/-- **When a task is handed on**: an executor is prompted only where every attempt before it in that
dispatch handed on, and an unknown outcome on record can be resolved. -/
theorem handingOn_of_run {history : List (TaskOperation × Except Thrown Unit)} {world : TaskWorld}
    (run : (machine (serve deps task)).Run Machine.anyStep ⟨none, []⟩ history world) :
    Orderly deps.toLowerCase world.log ∧ (Awaiting deps.toLowerCase world.log →
        ∃ record, world.record = some record ∧ record.IsUnknown) := by
  refine run.procedure_invariant (Sound deps.toLowerCase) ?_ fun _ operation sound _ =>
    serve_sound operation sound
  exact ⟨trivial, fun never => never.elim⟩

/-! ### A task -/

/-- A task for any executor. -/
def plainTask : TaskSpec where
  protocol := "zero3.pilot.task-spec.v2"
  taskId := "t"
  executionId := "e"
  projectId := "p"
  target := none
  type := .implement
  title := "t"
  goal := "g"
  contextVersion := 1
  importance := none
  baseSha := none
  branch := none
  worktreePath := none
  reviewRequired := false
  reviewer := .gptWeb
  maxCycles := none
  createdBySessionId := "s"
  others := ""

def plainResult (target : Target) (status : ResultStatus) : ExecutionResult where
  protocol := executionResultProtocol
  taskId := "t"
  executionId := "e"
  projectId := "p"
  provider := target
  providerRuntime := runtimeOf target
  executorId := none
  status := status
  contextVersion := 1
  conversationId := none
  summary := "s"
  blockers := []
  recommendedAction := .gptReview
  failure := none

/-- Everything is configured. -/
def plainDependencies : Dependencies := ⟨false, true, true, some ⟨none, none⟩, fun text => text⟩

def plainContext : DispatchContext := ⟨"s", none, none, none, none, none⟩

def plainAvailability : ProviderAvailability :=
  ⟨⟨true, some true⟩, ⟨true, some true⟩, ⟨true, some true⟩, none⟩

def plainAnswers (target : Target) (throwsAfter : Option Thrown) (status : ResultStatus) :
    AttemptAnswers where
  availability := .ok plainAvailability
  route request := .ok ⟨request.mode, target, target⟩
  skills := .ok []
  executor := ⟨.ok (), none, throwsAfter, ⟨none, status, none, none, none⟩,
    plainResult target status⟩
  finalize candidate := .ok candidate
  calls _ := .done

abbrev plainMachine : Machine TaskWorld TaskOperation (Except Thrown Unit) :=
  machine (serve plainDependencies plainTask)

def unknownDispatch : List TaskOperation :=
  [.dispatch plainContext fun _ => plainAnswers .codex none .outcomeUnknown]

/-- The law where the outcome of the only executor is unknown: it is on record, so the record says
so. -/
theorem handingOn_sample :
    ∃ record, (plainMachine.exec ⟨none, []⟩ unknownDispatch).2.record = some record ∧
      record.IsUnknown := by
  have run : plainMachine.Run Machine.anyStep ⟨none, []⟩ _
      (plainMachine.exec ⟨none, []⟩ unknownDispatch).2 :=
    Machine.exec_run plainMachine ⟨none, []⟩ unknownDispatch ⟨trivial, trivial⟩
  refine (handingOn_of_run run).2 ?_
  have log : (plainMachine.exec ⟨none, []⟩ unknownDispatch).2.log =
      [.attempted .codex (.ok (plainResult .codex .outcomeUnknown)),
        .answered .codex (plainResult .codex .outcomeUnknown), .prompted .codex, .dispatched] := by
    decide +kernel
  rw [log]
  refine Or.inl ⟨rfl, ?_⟩
  rintro ⟨-, failed⟩
  cases failed

/-! ### What is not excluded -/

/-- An outcome that may be open: an executor reported it or declared it unknown, or its attempt threw
after it was prompted, and nobody resolved it. -/
def OpenOutcome : List Event → Prop
  | [] => False
  | .resolved :: _ => False
  | .attempted _ (.error _) :: .prompted _ :: _ => True
  | .attempted _ (.error _) :: .answered _ _ :: _ => True
  | .answered _ candidate :: older =>
    candidate.status = .outcomeUnknown ∨
      (∃ failure ∈ candidate.failure, failure.failureClass = .outcomeUnknown) ∨ OpenOutcome older
  | _ :: older => OpenOutcome older

/-- No executor is prompted while the outcome of an earlier one may be open. -/
def Exclusive : List Event → Prop
  | [] => True
  | .prompted _ :: older => ¬ OpenOutcome older ∧ Exclusive older
  | _ :: older => Exclusive older

/-- The first executor throws after it was prompted, the second one completes the task. -/
def handedOver : List TaskOperation :=
  [.dispatch plainContext fun attempt =>
    if attempt = 0 then plainAnswers .codex (some (threw "transport lost")) .complete
    else plainAnswers .claude none .complete]

/-- **An executor that throws after it was prompted** counts as failed, and the next one is
prompted. -/
theorem handingOn_counterexample :
    ∃ history world, plainMachine.Run Machine.anyStep ⟨none, []⟩ history world ∧
      ¬ Exclusive world.log := by
  have run : plainMachine.Run Machine.anyStep ⟨none, []⟩ _
      (plainMachine.exec ⟨none, []⟩ handedOver).2 :=
    Machine.exec_run plainMachine ⟨none, []⟩ handedOver ⟨trivial, trivial⟩
  refine ⟨_, _, run, ?_⟩
  have log : (plainMachine.exec ⟨none, []⟩ handedOver).2.log =
      [.attempted .claude (.ok (plainResult .claude .complete)),
        .answered .claude (plainResult .claude .complete), .prompted .claude,
        .attempted .codex (.error (threw "transport lost")), .prompted .codex, .dispatched] := by
    decide +kernel
  rw [log]
  rintro ⟨closed, -⟩
  exact closed trivial

end Zero3Pilot.AgentRouting
