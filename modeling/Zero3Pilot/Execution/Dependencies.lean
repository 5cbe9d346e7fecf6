import Zero3Pilot.Execution.Parallelism

/-! # Dependencies, attempts and outputs of the steps of a task

A step that is at work or completed has an assignment, and its dependencies are completed: an
assignment is created for a step whose dependencies are, a completed step stays completed, and all
operations that put a step to work look for its assignment, but for one. A progress report sets a step
that needs a fix running, and a step may need a fix although it was never assigned. -/

namespace Zero3Pilot.Execution

/-! ## Statements -/

def RuntimeState.Completed (runtime : RuntimeState) (stepId : String) : Prop :=
  ∃ step, runtime.step? stepId = some step ∧ step.status = .completed

def OutputsProduced (directory : TaskDirectory) (step : StepRuntime) : Prop :=
  ∀ defined, directory.definition.step? step.stepId = some defined →
    defined.completionGate.contains "required_outputs" = true →
    ∀ output ∈ defined.expectedOutputs, outputProduced (artifactEvents directory step) output = true

/-- **What holds of a step of a task.** -/
structure StepSafe (directory : TaskDirectory) (step : StepRuntime) : Prop where
  assigned : step.status.isActive = true ∨ step.status = .completed → step.assignmentId.isSome
  named : ∀ id, step.assignmentId = some id → ∃ assignment ∈ directory.runtime.assignments,
      assignment.assignmentId = id ∧ assignment.stepId = step.stepId
  ready : step.assignmentId.isSome → ∀ defined,
    directory.definition.step? step.stepId = some defined →
    dependencyReady defined directory.runtime = true
  budget : ∀ defined, directory.definition.step? step.stepId = some defined →
    step.attempt ≤ defined.maxAttempts
  produced : step.status = .completed → OutputsProduced directory step

def TaskSafe (directory : TaskDirectory) : Prop :=
  ∀ step ∈ directory.runtime.steps, StepSafe directory step

/-- **The condition on progress reports**: a step that needs a fix and is reported about has an
assignment. -/
def FixReportAssigned (store : ExecutionStore) (call : Operation × (Nat → String)) : Prop :=
  ∀ reported ∈ reportedStep call.1, ∀ directory ∈ storedTask store reported.1,
    ∀ step ∈ directory.runtime.step? reported.2, step.status = .fixRequired →
      step.assignmentId.isSome

instance (store : ExecutionStore) (call : Operation × (Nat → String)) :
    Decidable (FixReportAssigned store call) :=
  inferInstanceAs (Decidable (∀ reported ∈ reportedStep call.1, _))

def CompletedIn (store : ExecutionStore) (name stepId : String) : Prop :=
  ∃ directory, store.lookup name = some directory ∧ directory.runtime.Completed stepId

/-- **What a call may do to completed steps.** It completes a step only where its gate is passed. -/
structure Lasting (call : Operation × (Nat → String)) (before after : ExecutionStore) : Prop where
  stays : ∀ name stepId, CompletedIn before name stepId →
    CompletedIn after name stepId ∨ after.lookup name = none
  passed : ∀ name stepId, CompletedIn after name stepId → CompletedIn before name stepId ∨
    ∃ taskId evidence directory step, call.1 = .gatePassed taskId stepId evidence ∧
      before.lookup name = some directory ∧ directory.runtime.step? stepId = some step ∧
      step.status = .verifying

/-- **Dependency safety** of a store: every step of every task is safe, and whatever is called next
respects the completed steps. -/
structure DependencySafe (store : ExecutionStore) : Prop where
  safe : ∀ entry ∈ store, TaskSafe entry.2
  lasting : ∀ call, Lasting call store (serve call store).2

/-! ## Outputs -/

section Outputs

theorem distinctArtifacts_append (events later : List ExecutionEvent) :
    distinctArtifacts events ≤ distinctArtifacts (events ++ later) := by
  rw [distinctArtifacts, distinctArtifacts, List.filterMap_append, List.filter_append,
    List.eraseDups_append, List.length_append, List.length_append]
  omega

theorem outputProduced_append {artifacts later : List ExecutionEvent} {output : ExpectedOutput}
    (produced : outputProduced artifacts output = true) :
    outputProduced (artifacts ++ later) output = true := by
  simp only [outputProduced, Bool.or_eq_true, Bool.not_eq_true', decide_eq_true_eq] at produced ⊢
  refine produced.imp id fun enough => ?_
  rw [List.filter_append]
  exact Nat.le_trans enough (distinctArtifacts_append _ _)

variable {directory after : TaskDirectory} {step step' : StepRuntime}

theorem artifactEvents_prefix (events : directory.events <+: after.events)
    (id : step'.stepId = step.stepId) (assignment : step'.assignmentId = step.assignmentId) :
    artifactEvents directory step <+: artifactEvents after step' := by
  obtain ⟨later, grown⟩ := events
  rw [artifactEvents, artifactEvents, ← grown, List.filter_append, id, assignment]
  exact List.prefix_append _ _

theorem OutputsProduced.transfer (produced : OutputsProduced directory step)
    (known : ∀ defined, after.definition.step? step'.stepId = some defined →
      directory.definition.step? step.stepId = some defined)
    (events : directory.events <+: after.events) (id : step'.stepId = step.stepId)
    (assignment : step'.assignmentId = step.assignmentId) : OutputsProduced after step' := by
  intro defined found gate output member
  obtain ⟨later, grown⟩ := artifactEvents_prefix events id assignment
  rw [← grown]
  exact outputProduced_append (produced defined (known defined found) gate output member)

end Outputs

/-! ## Steps of changed states -/

section Steps

variable {runtime : RuntimeState} {stepId : String}

theorem find?_map_steps (steps : List StepRuntime) (id : String) {change : StepRuntime → StepRuntime}
    (kept : ∀ step, (change step).stepId = step.stepId) :
    (steps.map change).find? (fun step => step.stepId = id) =
      (steps.find? fun step => step.stepId = id).map change := by
  rw [List.find?_map]
  congr 2
  funext step
  rw [Function.comp_apply, kept]

theorem updateStep_step? {update : StepRuntime → StepRuntime} (id : String)
    (kept : ∀ step, (update step).stepId = step.stepId) :
    (runtime.updateStep stepId update).step? id =
      (runtime.step? id).map fun step => if step.stepId = stepId then update step else step := by
  refine find?_map_steps runtime.steps id fun step => ?_
  split
  · exact kept step
  · rfl

theorem recorded_step? (about : Option String) (sequence : Nat → Nat) (id : String) :
    (runtime.recorded about sequence).step? id = (runtime.step? id).map fun step =>
      if some step.stepId = about then
        { step with lastEventSequence := sequence step.lastEventSequence }
      else step := by
  refine find?_map_steps runtime.steps id fun step => ?_
  split <;> rfl

theorem recorded_completed (about : Option String) (sequence : Nat → Nat) (id : String) :
    (runtime.recorded about sequence).Completed id ↔ runtime.Completed id := by
  unfold RuntimeState.Completed
  rw [recorded_step?]
  cases runtime.step? id with
  | none => simp
  | some step =>
    simp only [Option.map_some, Option.some.injEq, exists_eq_left']
    split <;> rfl

theorem dependencyReady_mono {defined : StepDefinition} {after : RuntimeState}
    (completed : ∀ id, runtime.Completed id → after.Completed id)
    (ready : dependencyReady defined runtime = true) : dependencyReady defined after = true := by
  rw [dependencyReady, List.all_eq_true] at ready ⊢
  intro id member
  have met := ready id member
  rw [decide_eq_true_eq, Option.map_eq_some_iff] at met ⊢
  exact completed id met

end Steps

/-! ## One change -/

section Changes

variable {operation : Operation} {directory : TaskDirectory} {runtime changed : RuntimeState}
  {step : StepRuntime} {status : StepStatus} {input : EventInput}

theorem Cause.incomplete (cause : Cause operation directory runtime step status input) :
    step.status ≠ .completed := by
  intro completed
  cases cause with
  | transition identity reason called loaded incomplete unverified valid =>
    rw [completed] at valid
    cases status <;> first | exact incomplete rfl | cases valid
  | progress called loaded reporting => simp [completed] at reporting
  | requested called loaded assigned valid =>
    rw [completed] at valid
    cases valid
  | passed called loaded verifying =>
    rw [completed] at verifying
    cases verifying
  | failed verifying =>
    rw [completed] at verifying
    cases verifying
  | readied waiting => simp [completed] at waiting

section

variable {stepId id : String} {update : StepRuntime → StepRuntime}
  (kept : ∀ step, (update step).stepId = step.stepId)
include kept

theorem completed_updateStep : (runtime.updateStep stepId update).Completed id ↔
      if id = stepId then ∃ step, runtime.step? id = some step ∧ (update step).status = .completed
      else runtime.Completed id := by
  unfold RuntimeState.Completed
  rw [updateStep_step? id kept]
  cases found : runtime.step? id with
  | none => simp
  | some step =>
    rw [Option.map_some, step?_stepId found]
    split <;> simp

theorem updateStep_completed
    (found : runtime.step? stepId = some step) (incomplete : step.status ≠ .completed)
    (completed : runtime.Completed id) : (runtime.updateStep stepId update).Completed id := by
  rw [completed_updateStep kept]
  split
  · rename_i same
    obtain ⟨other, isStep, done⟩ := completed
    rw [same, found] at isStep
    cases isStep
    exact absurd done incomplete
  · exact completed

end

/-- **A completed step stays completed.** -/
theorem Change.completed (change : Change operation directory runtime changed input) {id : String}
    (completed : runtime.Completed id) : changed.Completed id := by
  cases change with
  | task | noted | bound | rebound => exact completed
  | preflight stepId preflight blocker =>
    refine (completed_updateStep (by exact fun _ => rfl)).2 ?_
    split
    · exact completed
    · exact completed
  | assigned stepId assignment task called known found assignable =>
    refine updateStep_completed (fun _ => rfl) found ?_ completed
    rcases assignable with ready | fix
    · simp [ready]
    · simp [fix]
  | moved stepId currentActivity blocker found about cause =>
    exact updateStep_completed (fun _ => rfl) found cause.incomplete completed

theorem Change.becomesCompleted (change : Change operation directory runtime changed input)
    {id : String} (completed : changed.Completed id) : runtime.Completed id ∨
      ∃ taskId evidence step, operation = .gatePassed taskId id evidence ∧
        directory.runtime.step? id = some step ∧ step.status = .verifying := by
  cases change with
  | task | noted | bound | rebound => exact Or.inl completed
  | preflight stepId preflight blocker =>
    refine Or.inl ?_
    have done := (completed_updateStep (by exact fun _ => rfl)).1 completed
    split at done
    · exact done
    · exact done
  | assigned stepId assignment task called known found =>
    have done := (completed_updateStep (by exact fun _ => rfl)).1 completed
    split at done
    · obtain ⟨_, _, becomes⟩ := done
      cases becomes
    · exact Or.inl done
  | moved stepId currentActivity blocker found about cause =>
    have done := (completed_updateStep (by exact fun _ => rfl)).1 completed
    split at done
    · rename_i same
      obtain ⟨_, _, becomes⟩ := done
      rw [same, ← step?_stepId found]
      cases cause with
      | transition identity reason called loaded incomplete => exact absurd becomes incomplete
      | progress | requested | failed => cases becomes
      | passed called loaded verifying => exact Or.inr ⟨_, _, _, called, loaded, verifying⟩
      | readied waiting becomes' =>
        rcases becomes' with ready | waiting
        · cases ready.symm.trans becomes
        · cases waiting.symm.trans becomes
    · exact Or.inl done

/-- **A step stays safe** in a directory with as many assignments, completed steps and events, if it
keeps its assignment, and its own status is accounted for. -/
theorem StepSafe.transfer {after : TaskDirectory} {step' : StepRuntime}
    (safe : StepSafe directory step)
    (known : ∀ defined, after.definition.step? step.stepId = some defined →
      directory.definition.step? step.stepId = some defined)
    (assignments : ∀ assignment ∈ directory.runtime.assignments,
      assignment ∈ after.runtime.assignments)
    (completed : ∀ id, directory.runtime.Completed id → after.runtime.Completed id)
    (events : directory.events <+: after.events) (id : step'.stepId = step.stepId)
    (assignment : step'.assignmentId = step.assignmentId) (attempt : step'.attempt = step.attempt)
    (assigned : step'.status.isActive = true ∨ step'.status = .completed → step.assignmentId.isSome)
    (produced : step'.status = .completed → step.status = .completed ∨
      OutputsProduced directory step) : StepSafe after step' where
  assigned := fun status => by
    rw [assignment]
    exact assigned status
  named := fun assignmentId isSome => by
    rw [assignment] at isSome
    obtain ⟨found, member, named, about⟩ := safe.named assignmentId isSome
    exact ⟨found, assignments found member, named, about.trans id.symm⟩
  ready := fun isSome defined found => by
    rw [assignment] at isSome
    rw [id] at found
    exact dependencyReady_mono completed (safe.ready isSome defined (known defined found))
  budget := fun defined found => by
    rw [attempt]
    rw [id] at found
    exact safe.budget defined (known defined found)
  produced := fun done => by
    have before : OutputsProduced directory step := by
      rcases produced done with was | now
      · exact safe.produced was
      · exact now
    refine before.transfer (fun defined found => known defined ?_) events id assignment
    rwa [id] at found

def TaskDirectory.with_ (directory : TaskDirectory) (definition : WorkflowDefinition)
    (runtime : RuntimeState) (events : List ExecutionEvent) : TaskDirectory :=
  { directory with
    definition := definition, runtime := runtime, events := directory.events ++ events }

def FixAssigned (operation : Operation) (directory : TaskDirectory) : Prop :=
  ∀ taskId stepId progress activity identity,
    operation = .recordProgress taskId stepId progress activity identity →
    ∀ step, directory.runtime.step? stepId = some step → step.status = .fixRequired →
      step.assignmentId.isSome

/-- **A step that changes is safe** if its status is accounted for. -/
theorem Cause.stepSafe {definition : WorkflowDefinition} {events : List ExecutionEvent}
    (extends_ : ∀ id defined, directory.definition.step? id = some defined →
      definition.step? id = some defined)
    (fixAssigned : FixAssigned operation directory)
    (cause : Cause operation directory runtime step status input)
    (safe : StepSafe (directory.with_ definition runtime events) step) :
    (status.isActive = true ∨ status = .completed → step.assignmentId.isSome) ∧
      (status = .completed → step.status = .completed ∨
        OutputsProduced (directory.with_ definition runtime events) step) := by
  cases cause with
  | transition identity reason called loaded incomplete unverified valid ready assigned =>
    refine ⟨fun active => ?_, fun done => absurd done incomplete⟩
    rcases active with active | done
    · rcases assigned active with was | isSome
      · exact safe.assigned (Or.inl was)
      · exact isSome
    · exact absurd done incomplete
  | progress called loaded reporting =>
    refine ⟨fun _ => ?_, by rintro ⟨⟩⟩
    by_cases fix : step.status = .fixRequired
    · exact fixAssigned _ _ _ _ _ called step loaded fix
    · -- the other reporting statuses are active ones
      refine safe.assigned (Or.inl ?_)
      generalize step.status = status at reporting fix ⊢
      cases status <;> simp_all [StepStatus.isActive]
  | requested called loaded assigned => exact ⟨fun _ => assigned, by rintro ⟨⟩⟩
  | passed called loaded verifying known produced =>
    refine ⟨fun _ => safe.assigned (Or.inl (by rw [verifying]; rfl)), fun _ => Or.inr ?_⟩
    intro defined found gate output member
    have same := extends_ _ _ known
    obtain rfl : _ = defined := Option.some.inj (same.symm.trans found)
    have grown : artifactEvents directory step <+:
        artifactEvents (directory.with_ definition runtime events) step :=
      artifactEvents_prefix (List.prefix_append _ _) rfl rfl
    obtain ⟨later, grown⟩ := grown
    rw [← grown]
    exact outputProduced_append (produced gate output member)
  | failed => exact ⟨fun active => by simp [StepStatus.isActive] at active, by rintro ⟨⟩⟩
  | readied waiting becomes' =>
    rcases becomes' with rfl | rfl
    · exact ⟨fun active => by simp [StepStatus.isActive] at active, by rintro ⟨⟩⟩
    · exact ⟨fun active => by simp [StepStatus.isActive] at active, by rintro ⟨⟩⟩

theorem StepSafe.kept {after : TaskDirectory} {step' : StepRuntime} (safe : StepSafe directory step)
    (known : ∀ defined, after.definition.step? step.stepId = some defined →
      directory.definition.step? step.stepId = some defined)
    (assignments : ∀ assignment ∈ directory.runtime.assignments,
      assignment ∈ after.runtime.assignments)
    (completed : ∀ id, directory.runtime.Completed id → after.runtime.Completed id)
    (events : directory.events <+: after.events) (id : step'.stepId = step.stepId)
    (assignment : step'.assignmentId = step.assignmentId) (attempt : step'.attempt = step.attempt)
    (status : step'.status = step.status) : StepSafe after step' := by
  refine safe.transfer known assignments completed events id assignment attempt ?_ ?_
  · rw [status]
    exact safe.assigned
  · rw [status]
    exact Or.inl

/-- **One change** keeps the steps safe. -/
theorem Change.taskSafe {definition : WorkflowDefinition} {events : List ExecutionEvent}
    (extends_ : ∀ id defined, directory.definition.step? id = some defined →
      definition.step? id = some defined)
    (fixAssigned : FixAssigned operation directory)
    (distinct : (runtime.steps.map (·.stepId)).Nodup)
    (change : Change operation directory runtime changed input)
    (safe : TaskSafe (directory.with_ definition runtime events)) :
    TaskSafe (directory.with_ definition changed events) := by
  have completed : ∀ id, runtime.Completed id → changed.Completed id := fun _ => change.completed
  intro step' member
  cases change with
  | task | noted | bound | rebound =>
    exact (safe step' member).kept (fun _ found => found) (fun _ isOne => isOne) completed
      (List.prefix_refl _) rfl rfl rfl rfl
  | preflight stepId preflight blocker =>
    obtain ⟨step, isStep, rfl⟩ := List.mem_map.1 member
    by_cases named : step.stepId = stepId
    · rw [if_pos named]
      exact (safe step isStep).kept (fun _ found => found) (fun _ isOne => isOne) completed
        (List.prefix_refl _) rfl rfl rfl rfl
    · rw [if_neg named]
      exact (safe step isStep).kept (fun _ found => found) (fun _ isOne => isOne) completed
        (List.prefix_refl _) rfl rfl rfl rfl
  | assigned stepId assignment task called known found assignable budget ready identified about =>
    obtain ⟨step, isStep, rfl⟩ := List.mem_map.1 member
    by_cases named : step.stepId = stepId
    · rw [if_pos named]
      have same := eq_of_step? distinct found isStep named
      have unique : ∀ defined, definition.step? step.stepId = some defined → _ = defined :=
        fun defined isDefined => Option.some.inj
          ((extends_ _ _ known).symm.trans (named ▸ isDefined))
      refine ⟨fun _ => rfl, fun id isId => ?_, fun _ defined isDefined => ?_,
        fun defined isDefined => ?_, by rintro ⟨⟩⟩
      · refine ⟨assignment, List.mem_append_right _ (List.mem_singleton_self _), ?_, ?_⟩
        · exact Option.some.inj isId
        · exact about.2.1.trans named.symm
      · rw [← unique defined isDefined]
        exact dependencyReady_mono completed ready
      · rw [← unique defined isDefined]
        show assignment.attempt ≤ _
        rw [about.2.2]
        exact budget
    · rw [if_neg named]
      exact (safe step isStep).kept (fun _ found => found)
        (fun _ => List.mem_append_left _) completed (List.prefix_refl _) rfl rfl rfl rfl
  | moved stepId currentActivity blocker found about cause =>
    obtain ⟨step, isStep, rfl⟩ := List.mem_map.1 member
    by_cases named : step.stepId = stepId
    · rw [if_pos named]
      obtain rfl := eq_of_step? distinct found isStep named
      obtain ⟨assigned, produced⟩ := cause.stepSafe extends_ fixAssigned (safe step isStep)
      exact (safe step isStep).transfer (fun _ found => found) (fun _ isOne => isOne) completed
        (List.prefix_refl _) rfl rfl rfl assigned produced
    · rw [if_neg named]
      exact (safe step isStep).kept (fun _ found => found) (fun _ isOne => isOne) completed
        (List.prefix_refl _) rfl rfl rfl rfl

end Changes

/-! ## Operations on a task -/

section Operations

variable {draw : Nat → String} {operation : Operation} {directory after : TaskDirectory}
  {definition : WorkflowDefinition} {start runtime : RuntimeState} {events : List ExecutionEvent}
  {taskId id : String}

theorem initialStepRuntime_incomplete (createdAt : Int) (completed : List String)
    (defined : StepDefinition) :
    (initialStepRuntime createdAt completed defined).status ≠ .completed := by
  unfold initialStepRuntime
  dsimp only
  split <;> rintro ⟨⟩

theorem expandedRuntime_step? (directory : TaskDirectory) (createdAt : Int)
    (additions : List StepDefinition) (id : String) :
    ∃ initial : List StepRuntime, (∀ step ∈ initial, step.status ≠ .completed) ∧
      (expandedRuntime directory createdAt additions).step? id =
        (directory.runtime.step? id).or (initial.find? fun step => step.stepId = id) := by
  refine ⟨additions.map (initialStepRuntime createdAt
    ((directory.runtime.steps.filter fun step => step.status = .completed).map (·.stepId))),
    fun step member => ?_, ?_⟩
  · obtain ⟨defined, _, rfl⟩ := List.mem_map.1 member
    exact initialStepRuntime_incomplete _ _ _
  · show List.find? _ (_ ++ _) = _
    rw [List.find?_append]
    rfl

theorem Begins.completed_iff (begins : Begins operation directory definition start) :
    start.Completed id ↔ directory.runtime.Completed id := by
  cases begins with
  | plain => exact Iff.rfl
  | @expanded createdAt _ _ additions =>
    obtain ⟨initial, incomplete, found⟩ :=
      expandedRuntime_step? directory createdAt additions id
    unfold RuntimeState.Completed
    rw [found]
    cases known : directory.runtime.step? id with
    | some step => simp
    | none =>
      rw [Option.none_or]
      constructor
      · rintro ⟨step, isStep, done⟩
        exact absurd done (incomplete step (List.mem_of_find?_eq_some isStep))
      · rintro ⟨step, isStep, _⟩
        cases isStep

theorem Recording.completed (recorded : Recording draw operation directory start runtime events)
    (completed : start.Completed id) : runtime.Completed id := by
  induction recorded with
  | nil => exact completed
  | snoc before change appended identified ih => exact (recorded_completed _ _ _).2 (change.completed ih)

theorem Recording.becomesCompleted
    (recorded : Recording draw operation directory start runtime events)
    (completed : runtime.Completed id) : start.Completed id ∨
      ∃ taskId evidence step, operation = .gatePassed taskId id evidence ∧
        directory.runtime.step? id = some step ∧ step.status = .verifying := by
  induction recorded with
  | nil => exact Or.inl completed
  | snoc before change appended identified ih =>
    rcases change.becomesCompleted ((recorded_completed _ _ _).1 completed) with was | passed
    · exact ih was
    · exact Or.inr passed

/-- **What is recorded** keeps the steps safe. -/
theorem Recording.taskSafe (begins : Begins operation directory definition start)
    (fixAssigned : FixAssigned operation directory)
    (distinct : (start.steps.map (·.stepId)).Nodup)
    (safe : TaskSafe (directory.with_ definition start []))
    (recorded : Recording draw operation directory start runtime events) :
    TaskSafe (directory.with_ definition runtime events) := by
  induction recorded with
  | nil => exact safe
  | snoc before change appended identified ih =>
    have changed := change.taskSafe (fun _ _ => begins.extends_) fixAssigned
      (before.stepIds ▸ distinct) ih
    -- recording changes sequence numbers only
    intro step' member
    obtain ⟨step, isStep, rfl⟩ := List.mem_map.1 member
    refine (changed step isStep).kept (fun _ found => found) (fun _ isOne => isOne)
      (fun _ => (recorded_completed _ _ _).2) ?_ ?_ ?_ ?_ ?_
    · show _ ++ _ <+: _ ++ (_ ++ _)
      rw [← List.append_assoc]
      exact List.prefix_append _ _
    all_goals split <;> rfl

theorem Begins.taskSafe (checked : directory.Checked taskId)
    (begins : Begins operation directory definition start) (safe : TaskSafe directory) :
    TaskSafe (directory.with_ definition start []) := by
  intro step member
  have grown : directory.events <+: directory.events ++ [] := List.prefix_append _ _
  have completed : ∀ id, directory.runtime.Completed id → start.Completed id :=
    fun _ done => begins.completed_iff.2 done
  cases begins with
  | plain =>
    exact (safe step member).kept (fun _ found => found) (fun _ isOne => isOne) completed grown
      rfl rfl rfl rfl
  | expanded called added open_ sameTask =>
    rcases List.mem_append.1 member with old | new
    · refine (safe step old).kept (fun defined found => ?_) (fun _ isOne => isOne) completed grown
        rfl rfl rfl rfl
      -- the definition of an old step is found before the new ones
      have known : step.stepId ∈ directory.definition.steps.map (·.stepId) :=
        (stepIds_of_passed checked.passed _).1 (List.mem_map_of_mem old)
      obtain ⟨other, isDefined, named⟩ := List.mem_map.1 known
      have isSome : (directory.definition.step? step.stepId).isSome := by
        rw [WorkflowDefinition.step?, List.find?_isSome]
        exact ⟨other, isDefined, by simpa using named⟩
      obtain ⟨first, isFirst⟩ := Option.isSome_iff_exists.1 isSome
      have extended := (Begins.expanded called added open_ sameTask).extends_ isFirst
      rw [isFirst, ← found]
      exact extended.symm
    · obtain ⟨defined, _, rfl⟩ := List.mem_map.1 new
      refine ⟨fun status => ?_, by rintro _ ⟨⟩, by rintro ⟨⟩, fun _ _ => Nat.zero_le _, fun done => ?_⟩
      · rcases status with active | done
        · rw [initialStepRuntime_idle] at active
          cases active
        · exact absurd done (initialStepRuntime_incomplete _ _ _)
      · exact absurd done (initialStepRuntime_incomplete _ _ _)

theorem TaskSafe.withActive (safe : TaskSafe (directory.with_ definition runtime events))
    (activeStepIds : List String) (archived : Bool) :
    TaskSafe ⟨definition, runtime.withActive activeStepIds, directory.events ++ events, archived⟩ :=
  fun step member => (safe step member).kept (fun _ found => found) (fun _ isOne => isOne)
    (fun _ done => done) (List.prefix_refl _) rfl rfl rfl rfl

/-- **An operation that returns** keeps the steps safe. -/
theorem Returned.taskSafe (returned : Returned draw operation directory after)
    (fixAssigned : FixAssigned operation directory)
    (safe : TaskSafe directory) : TaskSafe after := by
  cases returned with
  | same => exact safe
  | written activeStepIds archived checked begins recorded passed =>
    have distinct := assertSnapshot_nodup passed
    rw [RuntimeState.withActive, recorded.stepIds] at distinct
    exact (recorded.taskSafe begins fixAssigned distinct (begins.taskSafe checked safe)).withActive
      activeStepIds archived

/-- **An operation that throws** keeps the steps safe: it has changed no step. -/
theorem Threw.taskSafe (threw : Threw draw operation directory after) (safe : TaskSafe directory) :
    TaskSafe after := by
  cases threw with
  | same => exact safe
  | torn =>
    exact fun step member => (safe step member).kept (fun _ found => found) (fun _ isOne => isOne)
      (fun _ done => done) (List.prefix_append _ _) rfl rfl rfl rfl

theorem Returned.completed_iff (returned : Returned draw operation directory after) :
    (directory.runtime.Completed id → after.runtime.Completed id) ∧
      (after.runtime.Completed id → directory.runtime.Completed id ∨
        ∃ taskId evidence step, operation = .gatePassed taskId id evidence ∧
          directory.runtime.step? id = some step ∧ step.status = .verifying) := by
  cases returned with
  | same => exact ⟨fun done => done, Or.inl⟩
  | written activeStepIds archived checked begins recorded passed =>
    constructor
    · intro completed
      exact recorded.completed (begins.completed_iff.2 completed)
    · intro completed
      exact (recorded.becomesCompleted completed).imp_left begins.completed_iff.1

theorem Threw.runtime_eq (threw : Threw draw operation directory after) :
    after.runtime = directory.runtime := by
  cases threw with
  | same => rfl
  | torn => rfl

end Operations

/-! ## The service -/

section Service

variable {store : ExecutionStore}

theorem initialDirectory_taskSafe (createdAt : Int) (task : TaskDefinition)
    (steps : List StepDefinition) : TaskSafe (initialDirectory createdAt task steps) := by
  intro step member
  obtain ⟨defined, _, rfl⟩ := List.mem_map.1 member
  refine ⟨fun status => ?_, by rintro _ ⟨⟩, by rintro ⟨⟩, fun _ _ => Nat.zero_le _, fun done => ?_⟩
  · rcases status with active | done
    · rw [initialStepRuntime_idle] at active
      cases active
    · exact absurd done (initialStepRuntime_incomplete _ _ _)
  · exact absurd done (initialStepRuntime_incomplete _ _ _)

theorem initialDirectory_incomplete (createdAt : Int) (task : TaskDefinition)
    (steps : List StepDefinition) (id : String) :
    ¬ (initialDirectory createdAt task steps).runtime.Completed id := by
  rintro ⟨step, found, done⟩
  obtain ⟨defined, _, rfl⟩ := List.mem_map.1 (List.mem_of_find?_eq_some found)
  exact initialStepRuntime_incomplete _ _ _ done

/-- **One call** keeps the steps of all tasks safe where the condition on progress reports is met. -/
theorem serve_taskSafe (call : Operation × (Nat → String)) (has : StoreHas TaskSafe store)
    (met : FixReportAssigned store call) :
    (serve call).Ensures (fun _ => StoreHas TaskSafe) (fun _ => StoreHas TaskSafe) store := by
  refine serve_storeHas call has (fun base base_ => ⟨base_.distinct has.1, ?_⟩)
    (fun base taskId directory after base_ about stored safe returned => ?_)
    fun base taskId directory after base_ about stored safe threw => threw.taskSafe safe
  · cases base_ with
    | found => exact has.2
    | created =>
      intro entry member
      rcases List.mem_append.1 member with old | new
      · exact has.2 entry old
      · rw [List.mem_singleton.1 new]
        exact initialDirectory_taskSafe _ _ _
  · refine returned.taskSafe (fun task stepId progress activity identity called step found fix => ?_)
      safe
    -- the report is about a task that was there before
    rw [called] at about
    obtain rfl : task = taskId := about task rfl
    cases base_ with
    | found =>
      refine met (task, stepId) ?_ directory stored step found fix
      rw [called]
      rfl
    | created createdByCall =>
      rw [createdByCall] at called
      cases called

section

variable {operation : Operation} {base : ExecutionStore} (base_ : WorksOn operation store base)
include base_

theorem WorksOn.lookup_cases {name : String} {directory : TaskDirectory}
    (found : base.lookup name = some directory) : store.lookup name = some directory ∨
      (∀ id, ¬ directory.runtime.Completed id) ∧
        ∃ createdAt task drafts, operation = .createTask createdAt task drafts := by
  cases base_ with
  | found => exact Or.inl found
  | created called new checked safe fresh =>
    rw [List.lookup_append] at found
    rcases Option.or_eq_some_iff.1 found with old | ⟨missing, isNew⟩
    · exact Or.inl old
    · refine Or.inr ⟨?_, _, _, _, called⟩
      rw [List.lookup_cons] at isNew
      split at isNew
      · cases isNew
        exact initialDirectory_incomplete _ _ _
      · cases isNew

theorem WorksOn.lookup_some {name : String} {directory : TaskDirectory}
    (found : store.lookup name = some directory) : base.lookup name = some directory := by
  cases base_ with
  | found => exact found
  | created =>
    rw [List.lookup_append, found]
    rfl

end

theorem lasting_replaceTask {call : Operation × (Nat → String)} {base : ExecutionStore}
    {name : String} {directory after : TaskDirectory} (base_ : WorksOn call.1 store base)
    (found : base.lookup name = some directory)
    (stays : ∀ id, directory.runtime.Completed id → after.runtime.Completed id)
    (passed : ∀ id, after.runtime.Completed id → directory.runtime.Completed id ∨
      ∃ taskId evidence step, call.1 = .gatePassed taskId id evidence ∧
        directory.runtime.step? id = some step ∧ step.status = .verifying) :
    Lasting call store (replaceTask base name after) := by
  constructor
  · intro other id completed
    obtain ⟨before, stored, done⟩ := completed
    have isBase := base_.lookup_some stored
    refine Or.inl ?_
    by_cases same : other = name
    · subst same
      obtain rfl := Option.some.inj (isBase.symm.trans found)
      refine ⟨after, ?_, stays id done⟩
      rw [lookup_replaceTask, if_pos rfl, found]
      rfl
    · refine ⟨before, ?_, done⟩
      rw [lookup_replaceTask, if_neg same, isBase]
  · intro other id completed
    obtain ⟨now, stored, done⟩ := completed
    rw [lookup_replaceTask] at stored
    split at stored
    · rename_i same
      subst same
      rw [found] at stored
      cases stored
      rcases base_.lookup_cases found with old | ⟨incomplete, created⟩
      · refine (passed id done).imp (fun was => ⟨directory, old, was⟩) ?_
        rintro ⟨taskId, evidence, step, called, isStep, verifying⟩
        exact ⟨taskId, evidence, directory, step, called, old, isStep, verifying⟩
      · -- a task is not created where a gate is passed
        obtain ⟨createdAt, task, drafts, isCreate⟩ := created
        rcases passed id done with was | ⟨taskId, evidence, step, called, _⟩
        · exact absurd was (incomplete id)
        · cases isCreate.symm.trans called
    · rcases base_.lookup_cases stored with old | ⟨incomplete, _⟩
      · exact Or.inl ⟨now, old, done⟩
      · exact absurd done (incomplete id)

theorem lasting_refl (call : Operation × (Nat → String)) (store : ExecutionStore) :
    Lasting call store store :=
  ⟨fun _ _ completed => Or.inl completed, fun _ _ completed => Or.inl completed⟩

theorem lookup_deleted (store : ExecutionStore) (name other : String) :
    (store.filter fun entry => entry.1 ≠ name).lookup other =
      if other = name then none else store.lookup other := by
  induction store with
  | nil => simp
  | cons entry store ih =>
    obtain ⟨key, kept⟩ := entry
    rw [List.filter_cons]
    by_cases named : key = name
    · subst named
      simp only [ne_eq, not_true, decide_false, Bool.false_eq_true, if_false, ih, List.lookup_cons]
      by_cases same : other = key
      · simp [same]
      · have differs : (other == key) = false := by simpa using same
        simp [same, differs]
    · simp only [ne_eq, named, not_false_eq_true, decide_true, if_true, List.lookup_cons, ih]
      by_cases same : other = key
      · simp [same, named]
      · have differs : (other == key) = false := by simpa using same
        simp [differs]

/-- **Every call** respects the completed steps. -/
theorem serve_lasting (distinct : (store.map (·.1)).Nodup) (call : Operation × (Nat → String)) :
    (serve call).Ensures (fun _ => Lasting call store) (fun _ => Lasting call store) store := by
  refine (serve_effect distinct call).mono (fun _ after effect => ?_) fun _ after effect => ?_
  · cases effect with
    | task base_ about safe found returned =>
      exact lasting_replaceTask base_ found (fun _ => returned.completed_iff.1)
        fun _ => returned.completed_iff.2
    | @deleted taskId name directory called safe found idle =>
      constructor
      · intro other id completed
        obtain ⟨before, stored, done⟩ := completed
        by_cases same : other = name
        · exact Or.inr (by rw [lookup_deleted, if_pos same])
        · exact Or.inl ⟨before, by rw [lookup_deleted, if_neg same, stored], done⟩
      · intro other id completed
        obtain ⟨now, stored, done⟩ := completed
        rw [lookup_deleted] at stored
        split at stored
        · cases stored
        · exact Or.inl ⟨now, stored, done⟩
  · cases effect with
    | same => exact lasting_refl call store
    | task base_ about safe found threw =>
      refine lasting_replaceTask base_ found (fun id done => ?_) fun id done => Or.inl ?_
      · unfold RuntimeState.Completed
        rwa [threw.runtime_eq]
      · unfold RuntimeState.Completed at done
        rwa [threw.runtime_eq] at done

end Service

/-- **Dependency safety of every run** in which each progress report about a step that needs a fix finds
an assignment. -/
theorem dependencies_of_run {history : List ((Operation × (Nat → String)) × Except String Reply)}
    {store : ExecutionStore} (run : runtimeMachine.Run FixReportAssigned [] history store) :
    DependencySafe store := by
  have empty : StoreHas TaskSafe [] := ⟨List.nodup_nil, by rintro _ ⟨⟩⟩
  have has : StoreHas TaskSafe store :=
    run.procedure_invariant (StoreHas TaskSafe) empty
      fun _ call has met => serve_taskSafe call has met
  exact ⟨has.2, fun call => Procedure.ensures_state.1 (serve_lasting has.1 call)⟩

/-! ## A run that meets the condition, and one that does not -/

def dependentStep (stepId : String) (dependsOn : List String) : StepDefinition :=
  { exampleStep stepId with dependsOn := dependsOn }

/-- The second step depends on the first one. It gets its assignment when the first one is completed,
and is still reported about after a failed gate. -/
def dependentRun : List (Operation × (Nat → String)) :=
  [.createTask 0 ⟨"video-001", none, "video", "produce", none, 2⟩
      [exampleStep "a", dependentStep "b" ["a"]],
    .createAssignment "1" "video-001" "a" .gptWeb none,
    .requestCompletion "video-001" "a" noIdentity,
    .gatePassed "video-001" "a" .null,
    .createAssignment "2" "video-001" "b" .gptWeb none,
    .requestCompletion "video-001" "b" noIdentity,
    .gateFailed "video-001" "b" "no output",
    .recordProgress "video-001" "b" (some (.ofNat 0)) none noIdentity].map fun operation =>
      (operation, toString)

def stepStatuses (store : ExecutionStore) : List (List StepStatus) :=
  store.map fun entry => entry.2.runtime.steps.map (·.status)

theorem dependencies_of_run_sample : DependencySafe (runtimeMachine.exec [] dependentRun).2 ∧
      stepStatuses (runtimeMachine.exec [] dependentRun).2 = [[.completed, .running]] := by
  have met : runtimeMachine.Met FixReportAssigned [] dependentRun := by
    -- only the last operation is a progress report
    refine ⟨?_, ?_, ?_, ?_, ?_, ?_, ?_, by decide +kernel, trivial⟩
    all_goals rintro _ ⟨⟩
  exact ⟨dependencies_of_run (Machine.exec_run _ _ _ met), by decide +kernel⟩

/-- The second step is blocked and needs a fix before the first one is completed, and is reported
about. -/
def unassignedRun : List (Operation × (Nat → String)) :=
  [.createTask 0 ⟨"video-001", none, "video", "produce", none, 2⟩
      [exampleStep "a", dependentStep "b" ["a"]],
    .transitionStep "video-001" "b" .blocked none noIdentity,
    .transitionStep "video-001" "b" .fixRequired none noIdentity,
    .recordProgress "video-001" "b" (some (.ofNat 0)) none noIdentity].map fun operation =>
      (operation, toString)

/-- The step runs without an assignment, and with a dependency that is not completed. -/
theorem dependencies_of_run_counterexample :
    ¬ ∀ history store, runtimeMachine.Run Machine.anyStep [] history store →
      DependencySafe store := by
  intro claimed
  have run := Machine.exec_run runtimeMachine [] unassignedRun
    (Machine.met_of_forall (fun _ _ _ => trivial) _)
  have safe := (claimed _ _ run).safe
  have assigned : ∀ entry ∈ (runtimeMachine.exec [] unassignedRun).2,
      ∀ step ∈ entry.2.runtime.steps, step.status.isActive = true →
        step.assignmentId.isSome = true := by
    intro entry member step isStep active
    exact (safe entry member step isStep).assigned (Or.inl active)
  revert assigned
  decide +kernel

end Zero3Pilot.Execution
