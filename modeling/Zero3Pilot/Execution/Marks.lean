import Zero3Pilot.Execution.Dependencies
import Zero3Pilot.Execution.Rejection

/-! # What an operation does to the steps of a task

The mark of a step is its status and its assignment. Each operation that a worker may call is about
one step: it leaves the marks of the others as they are, and what it adds to the ledger is about that
step. Where it throws, all marks stay. -/

namespace Zero3Pilot.Execution

open RuntimeState (step?)
open Procedure (ensures_bind ensures_pure)

structure StepMark where
  status : StepStatus
  assignmentId : Option String

def StepRuntime.mark (step : StepRuntime) : StepMark := ⟨step.status, step.assignmentId⟩

def RuntimeState.mark? (runtime : RuntimeState) (stepId : String) : Option StepMark :=
  (runtime.step? stepId).map StepRuntime.mark

def TaskDirectory.mark? (directory : TaskDirectory) (stepId : String) : Option StepMark :=
  directory.runtime.mark? stepId

/-! ## Marks of a state -/

section Marks

variable {runtime : RuntimeState} {stepId other : String}

theorem recorded_mark? (about : Option String) (sequence : Nat → Nat) (stepId : String) :
    (runtime.recorded about sequence).mark? stepId = runtime.mark? stepId := by
  rw [RuntimeState.mark?, RuntimeState.mark?, recorded_step?, Option.map_map]
  congr 1
  funext step
  rw [Function.comp_apply]
  split <;> rfl

theorem updateStep_mark? {update : StepRuntime → StepRuntime} {mark : StepMark → StepMark}
    (named : ∀ step, (update step).stepId = step.stepId)
    (marked : ∀ step, (update step).mark = mark step.mark) :
    (runtime.updateStep stepId update).mark? stepId = (runtime.mark? stepId).map mark := by
  rw [RuntimeState.mark?, RuntimeState.mark?, updateStep_step? _ named]
  cases found : runtime.step? stepId with
  | none => rfl
  | some step => simp [step?_stepId found, marked]

theorem updateStep_mark?_of_ne {update : StepRuntime → StepRuntime}
    (named : ∀ step, (update step).stepId = step.stepId) (differs : other ≠ stepId) :
    (runtime.updateStep stepId update).mark? other = runtime.mark? other := by
  rw [RuntimeState.mark?, RuntimeState.mark?, updateStep_step? _ named]
  cases found : runtime.step? other with
  | none => rfl
  | some step =>
    have differs : step.stepId ≠ stepId := (step?_stepId found).trans_ne differs
    simp [differs]

theorem updateStep_mark?_same {update : StepRuntime → StepRuntime}
    (named : ∀ step, (update step).stepId = step.stepId)
    (marked : ∀ step, (update step).mark = step.mark) :
    (runtime.updateStep stepId update).mark? other = runtime.mark? other := by
  by_cases same : other = stepId
  · have changed : (runtime.updateStep stepId update).mark? stepId =
        (runtime.mark? stepId).map id := updateStep_mark? named marked
    rw [same, changed, Option.map_id_fun, id]
  · exact updateStep_mark?_of_ne named same

theorem updateStep_status? {status : StepStatus} (currentActivity blocker : StepRuntime → Option String) :
    (runtime.updateStep stepId fun step =>
        { step with
          status := status
          currentActivity := currentActivity step
          blocker := blocker step }).mark? stepId =
      (runtime.mark? stepId).map fun mark => { mark with status := status } :=
  updateStep_mark? (fun _ => rfl) fun _ => rfl

/-- A step that has not ended keeps the task open. -/
theorem not_stepsCancelled {mark : StepMark} (marked : runtime.mark? stepId = some mark)
    (incomplete : mark.status ≠ .completed) (uncancelled : mark.status ≠ .cancelled) :
    ¬ stepsCancelled (refreshDerived runtime) := by
  rintro ⟨-, ended⟩
  rw [RuntimeState.mark?, Option.map_eq_some_iff] at marked
  obtain ⟨step, found, rfl⟩ := marked
  rcases ended step (List.mem_of_find?_eq_some found) with completed | cancelled
  · exact incomplete completed
  · exact uncancelled cancelled

end Marks

/-! ## Operations about one step -/

/-- The events that say what was done with a step, apart from its assignment. -/
def EventType.isWork : EventType → Bool
  | .progressUpdated | .artifactProduced | .completionRequested | .stepStateChanged | .blocked
  | .waitingHuman | .outcomeUnknown => true
  | _ => false

/-- **What an operation about a step leaves behind**: the workflow, the marks of the other steps, and
a ledger that has grown by no work on them. -/
structure Touches (about : Option String) (before after : TaskDirectory) : Prop where
  definition : after.definition = before.definition
  others : ∀ stepId, about ≠ some stepId → after.mark? stepId = before.mark? stepId
  events : ∃ later, after.events = before.events ++ later ∧ ∀ event ∈ later,
    event.type.isWork = true → about ≠ none ∧ event.stepId = about

/-- An operation that is no work on a step leaves the marks of all steps. -/
abbrev Attends : TaskDirectory → TaskDirectory → Prop := Touches none

theorem Touches.refl (about : Option String) (directory : TaskDirectory) :
    Touches about directory directory :=
  ⟨rfl, fun _ _ => rfl, [], by simp, by simp⟩

theorem Touches.trans {about : Option String} {before between after : TaskDirectory}
    (first : Touches about before between) (second : Touches about between after) :
    Touches about before after where
  definition := second.definition.trans first.definition
  others stepId differs := (second.others stepId differs).trans (first.others stepId differs)
  events := by
    obtain ⟨later, added, work⟩ := first.events
    obtain ⟨latest, further, works⟩ := second.events
    refine ⟨later ++ latest, by rw [further, added, List.append_assoc], fun event member => ?_⟩
    rcases List.mem_append.1 member with member | member
    · exact work event member
    · exact works event member

theorem attends_of {before after : TaskDirectory} (definition : after.definition = before.definition)
    (marks : ∀ stepId, after.mark? stepId = before.mark? stepId)
    (events : ∃ later, after.events = before.events ++ later ∧
      ∀ event ∈ later, event.type.isWork = false) : Attends before after where
  definition := definition
  others stepId _ := marks stepId
  events := by
    obtain ⟨later, added, idle⟩ := events
    refine ⟨later, added, fun event member isWork => ?_⟩
    rw [idle event member] at isWork
    exact absurd isWork Bool.false_ne_true

theorem Touches.of_attends {before after : TaskDirectory} (attends : Attends before after)
    (about : Option String) : Touches about before after where
  definition := attends.definition
  others stepId _ := attends.others stepId (Option.some_ne_none stepId).symm
  events := by
    obtain ⟨later, added, work⟩ := attends.events
    exact ⟨later, added, fun event member isWork => absurd rfl (work event member isWork).1⟩

section Rules

theorem RuntimeFits.refreshed {definition : WorkflowDefinition} {runtime : RuntimeState}
    (fits : RuntimeFits definition runtime) : RuntimeFits definition (refreshDerived runtime) :=
  fits.map (fun _ => ⟨rfl, rfl⟩) rfl (List.map_id' _).symm rfl rfl

variable {draw : Nat → String} {directory : TaskDirectory} {input : EventInput}
  {runtime : RuntimeState} {throws : String → TaskDirectory → Prop} {taskId : String}

theorem Appended.about {events later : List ExecutionEvent} {sequence : Nat → Nat}
    (added : Appended draw input events later sequence) :
    ∀ event ∈ later, event.type = input.type ∧ event.stepId = input.stepId := by
  cases added with
  | new eventId identified fresh =>
    rintro event member
    rw [List.mem_singleton.1 member]
    exact ⟨rfl, rfl⟩
  | repeated existing known explicit repeats => simp

/-- **Recording an event and writing the snapshot.** -/
theorem ensures_recordAndWrite {returns : Unit → TaskDirectory → Prop}
    (checked : directory.Checked taskId)
    (written : ∀ after later, after.Checked taskId → after.definition = directory.definition →
      (∀ stepId, after.mark? stepId = runtime.mark? stepId) →
      after.events = directory.events ++ later →
      (∀ event ∈ later, event.type = input.type ∧ event.stepId = input.stepId) → returns () after)
    (refused : ∀ error, throws error directory)
    (rejected : ∀ error sequence later,
      assertSnapshot directory.definition (refreshDerived (runtime.recorded input.stepId sequence)) ≠
        .ok () →
      (∀ event ∈ later, event.type = input.type ∧ event.stepId = input.stepId) →
      throws error { directory with events := directory.events ++ later }) :
    (recordAndWrite draw directory.definition runtime input).Ensures returns throws directory := by
  rw [recordAndWrite, ensures_bind]
  refine ensures_appendEvent_iff (fun later sequence added => ?_) fun _ => refused
  have checkedLater : ({ directory with events := directory.events ++ later } : TaskDirectory).Checked
      taskId := ⟨checked.passed, checked.named⟩
  refine ensures_writeSnapshot_iff checkedLater checked.named (Or.inl rfl) (fun passed => ?_)
    fun failed error => rejected error sequence later failed added.about
  exact written _ later ⟨passed, checked.named⟩ rfl (fun stepId => recorded_mark? _ _ stepId) rfl
    added.about

/-- **A step that changes**: one event of work is recorded, or nothing happens. -/
theorem recordAndWrite_touches {about : String} {returns : Unit → TaskDirectory → Prop}
    (checked : directory.Checked taskId)
    (fits : RuntimeFits directory.definition directory.runtime →
      RuntimeFits directory.definition runtime)
    (stepId : input.stepId = some about)
    (others : ∀ other, other ≠ about → runtime.mark? other = directory.mark? other)
    (written : ∀ after, after.Checked taskId → Touches (some about) directory after →
      after.mark? about = runtime.mark? about → returns () after)
    (refused : ∀ error, throws error directory) :
    (recordAndWrite draw directory.definition runtime input).Ensures returns throws directory := by
  refine ensures_recordAndWrite checked (fun after later passed definition marks events about_ => ?_)
    refused fun error sequence later failed _ => ?_
  · refine written after passed ⟨definition, fun other differs => ?_, later, events,
      fun event member _ => ⟨Option.some_ne_none about, ?_⟩⟩ (marks about)
    · rw [marks, others other fun same => differs (congrArg some same.symm)]
    · rw [(about_ event member).2, stepId]
  · -- the state passes the checks, as the one before did
    have sound := assertSnapshot_ok.1 checked.passed
    exact absurd (assertSnapshot_ok.2 ⟨sound.1, ((fits sound.2).recorded _ sequence).refreshed⟩) failed

theorem recordAndWrite_attends {returns : Unit → TaskDirectory → Prop}
    (checked : directory.Checked taskId) (idle : input.type.isWork = false)
    (written : ∀ after, after.Checked taskId → after.definition = directory.definition →
      (∀ stepId, after.mark? stepId = runtime.mark? stepId) →
      (∃ later, after.events = directory.events ++ later ∧
        ∀ event ∈ later, event.type.isWork = false) → returns () after)
    (refused : ∀ error after, Attends directory after → throws error after) :
    (recordAndWrite draw directory.definition runtime input).Ensures returns throws directory := by
  refine ensures_recordAndWrite checked (fun after later passed definition marks events about => ?_)
    (fun error => refused error _ (.refl none _)) fun error sequence later failed about => ?_
  · exact written after passed definition marks ⟨later, events, fun event member => by
      rw [(about event member).1, idle]⟩
  · refine refused error _ ⟨rfl, fun _ _ => rfl, later, rfl, fun event member isWork => ?_⟩
    rw [(about event member).1, idle] at isWork
    exact absurd isWork Bool.false_ne_true

theorem ensures_snapshot {returns : Reply → TaskDirectory → Prop}
    (checked : directory.Checked taskId) (returned : ∀ reply, returns reply directory) :
    (snapshot taskId).Ensures returns throws directory := by
  rw [snapshot, ensures_bind]
  exact ensures_loadSnapshot_iff (fun _ => (ensures_pure _).2 (returned _))
    fun refused => absurd checked refused

end Rules

/-! ## The operations -/

section Operations

variable {draw : Nat → String} {directory : TaskDirectory} {taskId stepId : String}
  {throws : String → TaskDirectory → Prop} {returns : Reply → TaskDirectory → Prop}

variable {identity : EventIdentity}

/-- **A step that makes progress** is running. -/
theorem recordProgress_marks {progress : Option NumberLiteral} {currentActivity : Option String}
    (returned : ∀ reply after step, directory.runtime.step? stepId = some step →
      step.status ∈ [StepStatus.dispatching, .running, .waitingReport, .fixRequired] →
      after.Checked taskId → Touches (some stepId) directory after →
      after.mark? stepId = (directory.mark? stepId).map (fun mark => { mark with status := .running }) →
      returns reply after) (threw : ∀ error, throws error directory) :
    (recordProgress draw taskId stepId progress currentActivity identity).Ensures returns throws
      directory := by
  rw [recordProgress, ensures_bind]
  refine ensures_loadSnapshot_iff (fun checked => ?_) fun _ => threw
  refine .required (fun step found => ?_) (threw _)
  refine .checked (fun reporting => ?_) (threw _)
  refine .required (fun normalized finite => ?_) (threw _)
  refine .checked (fun valid => ?_) (threw _)
  rw [ensures_bind]
  refine recordAndWrite_touches checked (fun fits => fits.updateStep _ fun _ => ⟨rfl, rfl⟩) rfl
    (fun other => updateStep_mark?_of_ne (fun _ => rfl))
    (fun after passed touches marked => ?_) threw
  exact ensures_snapshot passed fun reply =>
    returned reply after step found reporting passed touches (marked.trans (updateStep_status? _ _))

/-- **A step that is given an artifact** stays as it is. -/
theorem recordArtifact_marks {artifact : Json}
    (returned : ∀ reply after, after.Checked taskId → Touches (some stepId) directory after →
      after.mark? stepId = directory.mark? stepId → returns reply after)
    (threw : ∀ error, throws error directory) :
    (recordArtifact draw taskId stepId artifact identity).Ensures returns throws directory := by
  rw [recordArtifact, ensures_bind]
  refine ensures_loadSnapshot_iff (fun checked => ?_) fun _ => threw
  refine .required (fun step found => ?_) (threw _)
  rw [ensures_bind]
  refine recordAndWrite_touches checked id rfl (fun _ _ => rfl)
    (fun after passed touches marked => ?_) threw
  exact ensures_snapshot passed fun reply => returned reply after passed touches marked

/-- **A step that is asked for its completion** is verifying. -/
theorem requestCompletion_marks
    (returned : ∀ reply after, after.Checked taskId → Touches (some stepId) directory after →
      after.mark? stepId = (directory.mark? stepId).map (fun mark => { mark with status := .verifying }) →
      returns reply after) (threw : ∀ error, throws error directory) :
    (requestCompletion draw taskId stepId identity).Ensures returns throws directory := by
  rw [requestCompletion, ensures_bind]
  refine ensures_loadSnapshot_iff (fun checked => ?_) fun _ => threw
  refine .required (fun step found => ?_) (threw _)
  refine .checked (fun assigned => ?_) (threw _)
  refine .checked (fun capacity => ?_) (threw _)
  refine .checked (fun valid => ?_) (threw _)
  rw [ensures_bind]
  refine recordAndWrite_touches checked (fun fits => fits.updateStep _ fun _ => ⟨rfl, rfl⟩) rfl
    (fun other => updateStep_mark?_of_ne (fun _ => rfl))
    (fun after passed touches marked => ?_) threw
  exact ensures_snapshot passed fun reply =>
    returned reply after passed touches (marked.trans (updateStep_mark? (fun _ => rfl) fun _ => rfl))

/-- **A step that fails or is readied** does so, where it is found. -/
theorem transitionStep_marks {status : StepStatus} {reason : Option String}
    (open_ : status = .failed ∨ status = .ready)
    (returned : ∀ reply after, after.Checked taskId → Touches (some stepId) directory after →
      after.mark? stepId = (directory.mark? stepId).map (fun mark => { mark with status := status }) →
      returns reply after) (threw : ∀ error, throws error directory) :
    (transitionStep draw taskId stepId status reason identity).Ensures returns throws directory := by
  have incomplete : status ≠ .completed := by rcases open_ with rfl | rfl <;> decide
  have unverified : status ≠ .verifying := by rcases open_ with rfl | rfl <;> decide
  have uncancelled : status ≠ .cancelled := by rcases open_ with rfl | rfl <;> decide
  rw [transitionStep]
  refine .otherwise incomplete (.otherwise unverified ?_)
  rw [ensures_bind]
  refine ensures_loadSnapshot_iff (fun checked => ?_) fun _ => threw
  refine .required (fun step found => ?_) (threw _)
  refine .checked (fun valid => ?_) (threw _)
  refine .checked (fun ready => ?_) (threw _)
  refine .checked (fun assigned => ?_) (threw _)
  refine .checked (fun capacity => ?_) (threw _)
  rw [ensures_bind]
  refine ensures_appendEvent_iff (fun later sequence added => ?_) fun _ => threw
  rw [ensures_bind, cancelWhenEnded]
  have known : directory.runtime.mark? stepId = some step.mark := by
    rw [RuntimeState.mark?, found, Option.map_some]
  refine .otherwise (fun ends => not_stepsCancelled ((recorded_mark? _ _ _).trans
    ((updateStep_status? _ _).trans (congrArg _ known))) incomplete uncancelled ends.2) ?_
  rw [ensures_pure, ensures_bind]
  have sound := assertSnapshot_ok.1 checked.passed
  have checkedLater : ({ directory with events := directory.events ++ later } : TaskDirectory).Checked
      taskId := ⟨checked.passed, checked.named⟩
  refine ensures_writeSnapshot_iff checkedLater checked.named (Or.inl rfl) (fun passed => ?_)
    fun failed => absurd (assertSnapshot_ok.2 ⟨sound.1, .refreshed (.recorded ?_ _ _)⟩) failed
  swap
  · exact sound.2.updateStep _ fun _ => ⟨rfl, rfl⟩
  refine ensures_snapshot ⟨passed, checked.named⟩ fun reply => ?_
  refine returned reply _ ⟨passed, checked.named⟩ ⟨rfl, fun other differs => ?_, later, rfl,
    fun event member _ => ⟨Option.some_ne_none stepId, (added.about event member).2⟩⟩ ?_
  · have differs : other ≠ stepId := fun same => differs (congrArg some same.symm)
    exact (recorded_mark? _ _ _).trans (updateStep_mark?_of_ne (fun _ => rfl) differs)
  · exact (recorded_mark? _ _ _).trans (updateStep_status? _ _)

/-- **A step that is assigned** was ready or needed a fix; nothing is recorded as work. -/
theorem createAssignment_marks {uuid : String} {executor : ExecutorTarget}
    {executorId : Option String}
    (returned : ∀ assignment after status, after.Checked taskId →
      after.definition = directory.definition →
      assignment.assignmentId = "asg-" ++ uuid → assignment.stepId = stepId →
      (status = StepStatus.ready ∨ status = .fixRequired) →
      (directory.mark? stepId).map StepMark.status = some status →
      after.mark? stepId = some ⟨.dispatching, some assignment.assignmentId⟩ →
      (∀ other, other ≠ stepId → after.mark? other = directory.mark? other) →
      (∃ later, after.events = directory.events ++ later ∧
        ∀ event ∈ later, event.type.isWork = false) →
      returns (.assignment assignment) after)
    (threw : ∀ error after, Attends directory after → throws error after) :
    (createAssignment draw uuid taskId stepId executor executorId).Ensures returns throws
      directory := by
  have refused : ∀ error, throws error directory := fun error => threw error _ (.refl none _)
  rw [createAssignment, ensures_bind]
  refine ensures_loadSnapshot_iff (fun checked => ?_) fun _ => refused
  refine .required (fun definition known => ?_) (refused _)
  refine .required (fun step found => ?_) (refused _)
  refine .checked (fun unended => ?_) (refused _)
  refine .checked (fun preflight => ?_) (refused _)
  refine .checked (fun recommended => ?_) (refused _)
  refine .checked (fun assignable => ?_) (refused _)
  refine .checked (fun budget => ?_) (refused _)
  refine .checked (fun ready => ?_) (refused _)
  refine .checked (fun capacity => ?_) (refused _)
  refine .checked (fun concrete => ?_) (refused _)
  refine .checked (fun matching => ?_) (refused _)
  refine .checked (fun valid => ?_) (refused _)
  rw [ensures_bind]
  have known : directory.mark? stepId = some step.mark := by
    rw [TaskDirectory.mark?, RuntimeState.mark?, found, Option.map_some]
  refine recordAndWrite_attends checked rfl (fun after passed definition marks events => ?_) threw
  refine (ensures_pure _).2
    (returned _ after step.status passed definition rfl rfl assignable ?_ ?_ (fun other differs => ?_)
      events)
  · rw [known]
    rfl
  · have changed : after.mark? stepId =
        (directory.mark? stepId).map fun _ => ⟨.dispatching, some ("asg-" ++ uuid)⟩ := by
      rw [marks]
      exact updateStep_mark? (fun _ => rfl) fun _ => rfl
    rw [changed, known]
    rfl
  · rw [marks]
    exact updateStep_mark?_of_ne (fun _ => rfl) differs

/-- **A session that is bound** leaves the steps as they are. -/
theorem bindTaskSession_marks {uuid assignmentId : String} {input : BindExecutionSessionInput}
    (returned : ∀ binding after, after.Checked taskId → Attends directory after →
      binding.bindingId = "bind-" ++ uuid → returns (.binding binding) after)
    (threw : ∀ error after, Attends directory after → throws error after) :
    (bindTaskSession draw uuid assignmentId input taskId).Ensures returns throws directory := by
  have refused : ∀ error, throws error directory := fun error => threw error _ (.refl none _)
  rw [bindTaskSession, ensures_bind]
  refine ensures_loadSnapshot_iff (fun checked => ?_) fun _ => refused
  refine .required (fun assignment found => ?_) (refused _)
  refine .checked (fun closed => ?_) (refused _)
  refine .checked (fun named => ?_) (refused _)
  rw [ensures_bind]
  refine recordAndWrite_attends checked rfl (fun after passed definition marks events => ?_) threw
  exact (ensures_pure _).2 (returned _ after passed (attends_of definition marks events) rfl)

section

variable (returned : ∀ reply after, after.Checked taskId → Attends directory after →
    returns reply after)
include returned

/-- **A binding that changes its state** leaves the steps as they are. -/
theorem updateSessionBindingState_marks {bindingId : String} {state : SessionBindingState}
    (threw : ∀ error after, Attends directory after → throws error after) :
    (updateSessionBindingState draw taskId bindingId state).Ensures returns throws directory := by
  have refused : ∀ error, throws error directory := fun error => threw error _ (.refl none _)
  rw [updateSessionBindingState, ensures_bind]
  refine ensures_loadSnapshot_iff (fun checked => ?_) fun _ => refused
  refine .required (fun binding found => ?_) (refused _)
  refine .checked (fun valid => ?_) (refused _)
  rw [ensures_bind]
  refine recordAndWrite_attends checked rfl (fun after passed definition marks events => ?_) threw
  exact (ensures_pure _).2 (returned _ after passed (attends_of definition marks events))

/-- **A step whose skills are checked** keeps its mark. -/
theorem recordSkillPreflight_marks {preflight : SkillPreflight}
    (threw : ∀ error after, Attends directory after → throws error after) :
    (recordSkillPreflight draw taskId stepId preflight).Ensures returns throws directory := by
  have refused : ∀ error, throws error directory := fun error => threw error _ (.refl none _)
  rw [recordSkillPreflight, ensures_bind]
  refine ensures_loadSnapshot_iff (fun checked => ?_) fun _ => refused
  refine .required (fun definition known => ?_) (refused _)
  refine .required (fun step found => ?_) (refused _)
  refine .checked (fun matching => ?_) (refused _)
  refine .checked (fun dated => ?_) (refused _)
  refine .checked (fun complete => ?_) (refused _)
  rw [ensures_bind]
  refine recordAndWrite_attends checked rfl (fun after passed definition marks events => ?_) threw
  refine ensures_snapshot passed fun reply => returned reply after passed
    (attends_of definition (fun other => ?_) events)
  rw [marks]
  exact updateStep_mark?_same (fun _ => rfl) fun _ => rfl

end

end Operations

end Zero3Pilot.Execution
