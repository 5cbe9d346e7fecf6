import Zero3Pilot.Execution.Effects

/-! # The parallelism bound of the execution runtime

A task may have at most `maxParallelSteps` active steps. The operations that put a step to work
check the capacity first: `createAssignment`, `transitionStep` and `requestCompletion`. A progress
report does not, although it sets a step that needs a fix running: the bound holds in every run in
which such a report finds capacity left. -/

namespace Zero3Pilot.Execution

def WithinBound (directory : TaskDirectory) : Prop :=
  directory.runtime.activeSteps ≤ directory.definition.task.maxParallelSteps

/-! ## Counting active steps -/

section Counting

variable {runtime : RuntimeState} {stepId : String} {update : StepRuntime → StepRuntime}

theorem activeSteps_eq_countP (runtime : RuntimeState) :
    runtime.activeSteps = runtime.steps.countP fun step => step.status.isActive := by
  rw [RuntimeState.activeSteps, List.countP_eq_length_filter]

theorem activeSteps_recorded (runtime : RuntimeState) (about : Option String)
    (sequence : Nat → Nat) :
    (runtime.recorded about sequence).activeSteps = runtime.activeSteps := by
  rw [activeSteps_eq_countP, activeSteps_eq_countP, RuntimeState.recorded, List.countP_map]
  refine List.countP_congr fun step _ => ?_
  rw [Function.comp_apply]
  split <;> exact Iff.rfl

theorem activeSteps_updateStep_le (idle : ∀ step ∈ runtime.steps, step.stepId = stepId →
      (update step).status.isActive → step.status.isActive) :
    (runtime.updateStep stepId update).activeSteps ≤ runtime.activeSteps := by
  rw [activeSteps_eq_countP, activeSteps_eq_countP, RuntimeState.updateStep, List.countP_map]
  apply List.countP_mono_left
  intro step member active
  by_cases named : step.stepId = stepId
  · rw [Function.comp_apply, if_pos named] at active
    exact idle step member named active
  · rwa [Function.comp_apply, if_neg named] at active

theorem activeSteps_updateStep_succ (distinct : (runtime.steps.map (·.stepId)).Nodup) :
    (runtime.updateStep stepId update).activeSteps ≤ runtime.activeSteps + 1 := by
  rw [activeSteps_eq_countP, activeSteps_eq_countP, RuntimeState.updateStep, List.countP_map]
  generalize runtime.steps = steps at distinct ⊢
  induction steps with
  | nil => simp
  | cons step steps ih =>
    simp only [List.map_cons, List.nodup_cons, List.mem_map, not_exists, not_and] at distinct
    rw [List.countP_cons, List.countP_cons, Function.comp_apply]
    by_cases named : step.stepId = stepId
    · -- no later step has this identifier, so that all of them stay as they are
      have others : steps.countP ((fun step => step.status.isActive) ∘ fun step =>
          if step.stepId = stepId then update step else step) =
          steps.countP fun step => step.status.isActive := by
        apply List.countP_congr
        intro other member
        have different : other.stepId ≠ stepId := fun same =>
          distinct.1 other member (same.trans named.symm)
        rw [Function.comp_apply, if_neg different]
      rw [others]
      split <;> split <;> omega
    · rw [if_neg named]
      have later := ih distinct.2
      omega

theorem eq_of_step? {step other : StepRuntime} (distinct : (runtime.steps.map (·.stepId)).Nodup)
    (found : runtime.step? stepId = some step) (member : other ∈ runtime.steps)
    (named : other.stepId = stepId) : other = step := by
  have stepNamed : step.stepId = stepId := by simpa using List.find?_some found
  exact List.inj_on_of_nodup_map distinct member (List.mem_of_find?_eq_some found)
    (named.trans stepNamed.symm)

theorem initialStepRuntime_idle (createdAt : Int) (completed : List String)
    (definition : StepDefinition) :
    (initialStepRuntime createdAt completed definition).status.isActive = false := by
  unfold initialStepRuntime
  dsimp only
  split <;> rfl

theorem countP_append_initial (steps : List StepRuntime) (createdAt : Int)
    (completed : List String) (definitions : List StepDefinition) :
    (steps ++ definitions.map (initialStepRuntime createdAt completed)).countP
        (fun step => step.status.isActive) =
      steps.countP fun step => step.status.isActive := by
  have idle : (definitions.map (initialStepRuntime createdAt completed)).countP
      (fun step => step.status.isActive) = 0 := by
    rw [List.countP_eq_zero]
    intro step member
    obtain ⟨definition, _, rfl⟩ := List.mem_map.1 member
    simp [initialStepRuntime_idle]
  rw [List.countP_append, idle, Nat.add_zero]

theorem initialRuntime_activeSteps (createdAt : Int) (task : TaskDefinition)
    (steps : List StepDefinition) : (initialRuntime createdAt task steps).activeSteps = 0 := by
  rw [activeSteps_eq_countP]
  exact countP_append_initial [] createdAt [] steps

end Counting

/-! ## Changes -/

section Changes

variable {draw : Nat → String} {operation : Operation} {directory after : TaskDirectory}
  {runtime changed start : RuntimeState} {input : EventInput} {events : List ExecutionEvent}

def reportedStep : Operation → Option (String × String)
  | .recordProgress taskId stepId _ _ _ => some (taskId, stepId)
  | _ => none

/-- A progress report about a step that needs a fix finds capacity left. -/
def FixHasCapacity (operation : Operation) (directory : TaskDirectory) : Prop :=
  ∀ reported ∈ reportedStep operation, ∀ step ∈ directory.runtime.step? reported.2,
    step.status = .fixRequired → HasCapacity directory

section

variable (fix : FixHasCapacity operation directory)
include fix

/-- **A step that is put to work** was at work before, or there is room for it. -/
theorem Cause.room {step : StepRuntime} {status : StepStatus}
    (cause : Cause operation directory runtime step status input) (active : status.isActive = true) :
    step.status.isActive = true ∨ HasRoom directory runtime := by
  cases cause with
  | transition _ _ _ _ _ _ _ _ _ _ _ _ _ capacity => exact capacity active
  | requested _ _ _ _ _ _ capacity => exact capacity
  | progress called loaded reporting _ _ first =>
    rw [called] at fix
    -- of the reporting statuses, only one is not active
    by_cases needed : step.status = .fixRequired
    · rw [HasRoom, first]
      exact Or.inr (fix _ rfl step loaded needed)
    · left
      generalize step.status = status at reporting needed ⊢
      cases status <;> simp_all [StepStatus.isActive]
  | passed | failed => cases active
  | readied waiting becomes => rcases becomes with rfl | rfl <;> cases active

theorem Change.withinBound (change : Change operation directory runtime changed input)
    (distinct : (runtime.steps.map (·.stepId)).Nodup)
    (bound : runtime.activeSteps ≤ directory.definition.task.maxParallelSteps) :
    changed.activeSteps ≤ directory.definition.task.maxParallelSteps := by
  cases change with
  | task | noted | bound | rebound => exact bound
  | preflight => exact Nat.le_trans (activeSteps_updateStep_le fun _ _ _ active => active) bound
  | assigned _ _ _ _ _ _ _ _ _ _ _ _ _ _ _ capacity =>
    exact Nat.le_trans (activeSteps_updateStep_succ distinct) capacity
  | @moved _ stepId step status _ _ found _ cause =>
    by_cases active : status.isActive = true
    · rcases cause.room fix active with was | room
      · refine Nat.le_trans (activeSteps_updateStep_le fun other member named _ => ?_) bound
        rwa [eq_of_step? distinct found member named]
      · exact Nat.le_trans (activeSteps_updateStep_succ distinct) room
    · exact Nat.le_trans (activeSteps_updateStep_le fun _ _ _ becomes => absurd becomes active) bound

theorem Recording.withinBound (recorded : Recording draw operation directory start runtime events)
    (distinct : (start.steps.map (·.stepId)).Nodup)
    (bound : start.activeSteps ≤ directory.definition.task.maxParallelSteps) :
    runtime.activeSteps ≤ directory.definition.task.maxParallelSteps := by
  induction recorded with
  | nil => exact bound
  | snoc before change appended identified ih =>
    rw [activeSteps_recorded]
    exact change.withinBound fix (before.stepIds ▸ distinct) ih

theorem Returned.withinBound (returned : Returned draw operation directory after)
    (bound : WithinBound directory) : WithinBound after := by
  cases returned with
  | same => exact bound
  | written activeStepIds archived checked begins recorded passed =>
    have distinct := (assertSnapshot_ok.1 passed).2.distinct
    have distinct := recorded.stepIds ▸ distinct
    cases begins with
    | plain =>
      have within := recorded.withinBound fix distinct bound
      exact within
    | expanded =>
      have within := recorded.withinBound fix distinct (Nat.le_trans (Nat.le_of_eq (by
        rw [activeSteps_eq_countP, activeSteps_eq_countP]
        exact countP_append_initial _ _ _ _)) bound)
      exact within

end

theorem Threw.withinBound (threw : Threw draw operation directory after)
    (bound : WithinBound directory) : WithinBound after := by
  cases threw with
  | same | torn => exact bound

end Changes

/-! ## The service -/

def StoreWithinBound (store : ExecutionStore) : Prop := ∀ entry ∈ store, WithinBound entry.2

/-- **The condition on progress reports**: one about a step that needs a fix finds capacity left. -/
def FixReportHasCapacity (store : ExecutionStore) (call : Operation × (Nat → String)) : Prop :=
  ∀ reported ∈ reportedStep call.1, ∀ directory ∈ storedTask store reported.1,
    ∀ step ∈ directory.runtime.step? reported.2, step.status = .fixRequired → HasCapacity directory

instance (store : ExecutionStore) (call : Operation × (Nat → String)) :
    Decidable (FixReportHasCapacity store call) :=
  inferInstanceAs (Decidable (∀ reported ∈ reportedStep call.1, _))

section Service

variable {store : ExecutionStore}

theorem fixReportHasCapacity_of_none {call : Operation × (Nat → String)}
    (none : reportedStep call.1 = none) : FixReportHasCapacity store call := by
  intro reported reports
  rw [none] at reports
  cases reports

theorem WorksOn.withinBound {operation : Operation} {base : ExecutionStore}
    (base_ : WorksOn operation store base) (has : StoreHas WithinBound store) :
    StoreHas WithinBound base := by
  refine ⟨base_.distinct has.1, fun entry member => ?_⟩
  cases base_ with
  | found => exact has.2 entry member
  | created =>
    rcases List.mem_append.1 member with old | new
    · exact has.2 entry old
    · -- the new task has no active step
      rw [List.mem_singleton.1 new]
      exact Nat.le_trans (Nat.le_of_eq (initialRuntime_activeSteps _ _ _)) (Nat.zero_le _)

/-- **One operation** keeps the bound of every task where the condition on progress reports is
met. -/
theorem serve_withinBound (call : Operation × (Nat → String)) (has : StoreHas WithinBound store)
    (met : FixReportHasCapacity store call) :
    (serve call).Ensures (fun _ => StoreHas WithinBound) (fun _ => StoreHas WithinBound) store := by
  refine serve_storeHas call has (fun base base_ => base_.withinBound has)
    (fun base taskId directory after base_ about stored bound returned => returned.withinBound ?_ bound)
    fun base taskId directory after base_ about stored bound threw => threw.withinBound bound
  obtain ⟨operation, draw⟩ := call
  cases operation with
  | recordProgress reportedTask =>
    cases base_ with
    | found =>
      cases about _ rfl
      rintro reported ⟨⟩
      exact met _ rfl directory stored
    | created called => cases called
  | _ => rintro reported ⟨⟩

end Service

/-- **The parallelism bound of every run** in which each progress report about a step that needs a fix
finds capacity left. -/
theorem activeSteps_le_of_run {history : List ((Operation × (Nat → String)) × Except String Reply)}
    {store : ExecutionStore} (run : runtimeMachine.Run FixReportHasCapacity [] history store) :
    ∀ entry ∈ store, entry.2.runtime.activeSteps ≤ entry.2.definition.task.maxParallelSteps :=
  (run.procedure_invariant (StoreHas WithinBound)
    ⟨by exact List.nodup_nil, fun _ member => absurd member List.not_mem_nil⟩
    fun _ call has met => serve_withinBound call has met).2

/-! ## A run that meets the condition, and one that exceeds the bound -/

/-- A step without dependencies. -/
def exampleStep (stepId : String) : StepDefinition where
  taskId := "video-001"
  stepId := stepId
  title := stepId
  objective := "execute"
  executor := .gptWeb
  dependsOn := []
  requiredSkills := []
  optionalSkills := []
  inputArtifacts := []
  expectedOutputs := []
  completionGate := []
  maxAttempts := 3

/-- Two steps are created, the first one fails its gate and reports progress while it is fixed and
the second one is assigned. -/
def exampleRun (maxParallelSteps : Nat) : List (Operation × (Nat → String)) :=
  [.createTask 0 ⟨"video-001", none, "video", "produce", none, maxParallelSteps⟩
      [exampleStep "a", exampleStep "b"],
    .createAssignment "1" "video-001" "a" .gptWeb none,
    .requestCompletion "video-001" "a" noIdentity,
    .gateFailed "video-001" "a" "no output",
    .createAssignment "2" "video-001" "b" .gptWeb none,
    .recordProgress "video-001" "a" (some (.ofNat 0)) none noIdentity].map fun operation =>
      (operation, toString)

theorem activeSteps_le_of_run_sample : StoreWithinBound (runtimeMachine.exec [] (exampleRun 2)).2 ∧
      (runtimeMachine.exec [] (exampleRun 2)).2.map (·.2.runtime.activeSteps) = [2] := by
  have met : runtimeMachine.Met FixReportHasCapacity [] (exampleRun 2) := by
    -- only the last operation is a progress report
    refine ⟨?_, ?_, ?_, ?_, ?_, by decide +kernel, trivial⟩
    all_goals exact fixReportHasCapacity_of_none rfl
  exact ⟨activeSteps_le_of_run (Machine.exec_run _ _ _ met), by decide +kernel⟩

/-- With capacity for one step, the same operations leave two steps active. -/
theorem activeSteps_le_counterexample :
    ¬ ∀ history store, runtimeMachine.Run Machine.anyStep [] history store → ∀ entry ∈ store,
      entry.2.runtime.activeSteps ≤ entry.2.definition.task.maxParallelSteps := by
  intro claimed
  have run := Machine.exec_run runtimeMachine [] (exampleRun 1)
    (Machine.met_of_forall (fun _ _ _ => trivial) _)
  have within := claimed _ _ run
  revert within
  decide +kernel

end Zero3Pilot.Execution
