import Zero3Pilot.Execution.Runtime

/-! # What the operations do to a task

Each operation on a task checks its request, changes the runtime state and records an event, maybe
several times, and writes the snapshot in the end. What is recorded stays in the ledger when the
operation throws later on. -/

namespace Zero3Pilot.Execution

open Procedure (require ensures_bind ensures_check ensures_fail ensures_foldlM ensures_ite
  ensures_modify ensures_pure ensures_read)

/-! ## Changes -/

def StepStatus.isEnded : StepStatus → Bool
  | .completed | .cancelled => true
  | _ => false

theorem StepStatus.isEnded_iff {status : StepStatus} :
    status.isEnded = true ↔ status = .completed ∨ status = .cancelled := by
  cases status <;> simp [isEnded]

/-- The identifier a reporter gives to its report, if any. -/
def EventIdentity.explicitId (identity : EventIdentity) : Option String :=
  (identity.eventId.map scriptTrim).filter fun id => id ≠ ""

theorem explicitId_eq {input : EventInput} {identity : EventIdentity}
    (id : input.eventId = identity.eventId) : input.explicitId = identity.explicitId := by
  rw [EventInput.explicitId, EventIdentity.explicitId, id]

def Operation.identity : Operation → EventIdentity
  | .transitionStep _ _ _ _ identity | .recordProgress _ _ _ _ identity
  | .recordArtifact _ _ _ identity | .requestCompletion _ _ identity => identity
  | _ => noIdentity

/-- The identifier the event of an operation is given by its caller, if any. -/
def Operation.explicitId (operation : Operation) : Option String := operation.identity.explicitId

def Operation.eventType? : Operation → Option EventType
  | .transitionStep _ _ status _ _ =>
    some (if status = .verifying then .completionRequested else transitionEvent status)
  | .recordProgress _ _ _ _ _ => some .progressUpdated
  | .recordArtifact _ _ _ _ => some .artifactProduced
  | .requestCompletion _ _ _ => some .completionRequested
  | _ => none

def Operation.reported? : Operation → Option (String × StepStatus)
  | .transitionStep _ stepId status _ _ => some (stepId, status)
  | .recordProgress _ stepId _ _ _ => some (stepId, .running)
  | .requestCompletion _ stepId _ => some (stepId, .verifying)
  | _ => none

def Operation.Described : Operation → Prop
  | .recordArtifact _ _ artifact _ => ∃ members, artifact = .object members
  | _ => True

/-- `HasCapacity`, of a state that an operation has come to. -/
def HasRoom (directory : TaskDirectory) (runtime : RuntimeState) : Prop :=
  runtime.activeSteps < directory.definition.task.maxParallelSteps

/-- **Why a step gets a status**, and what is recorded of it. -/
inductive Cause (operation : Operation) (directory : TaskDirectory) (runtime : RuntimeState)
    (step : StepRuntime) : StepStatus → EventInput → Prop where
  | transition {status : StepStatus} {input : EventInput} {taskId : String}
      (identity : EventIdentity) (reason : Option String)
      (called : operation = .transitionStep taskId step.stepId status reason identity)
      (loaded : directory.runtime.step? step.stepId = some step)
      (incomplete : status ≠ .completed) (unverified : status ≠ .verifying)
      (valid : isValidStepTransition step.status status = true)
      (ready : status = .ready → ∃ defined ∈ directory.definition.steps,
        defined.stepId = step.stepId ∧ dependencyReady defined runtime = true)
      (assigned : status.isActive = true → step.status.isActive = true ∨ step.assignmentId.isSome)
      (from_ : input.assignmentId = step.assignmentId) (type : input.type = transitionEvent status)
      (identified : input.eventId = identity.eventId)
      (payload : input.payload = eventPayload (.object ([("from", .string step.status.text),
        ("to", .string status.text)] ++ reasonMember reason)) identity)
      (capacity : status.isActive = true → step.status.isActive = true ∨ HasRoom directory runtime) :
      Cause operation directory runtime step status input
  | progress {input : EventInput} {taskId : String} {progress : Option NumberLiteral}
      {currentActivity : Option String} {identity : EventIdentity}
      (called : operation = .recordProgress taskId step.stepId progress currentActivity identity)
      (loaded : directory.runtime.step? step.stepId = some step)
      (reporting : step.status ∈ [.dispatching, .running, .waitingReport, .fixRequired])
      (from_ : input.assignmentId = step.assignmentId) (type : input.type = .progressUpdated)
      (first : runtime = directory.runtime) :
      Cause operation directory runtime step .running input
  | requested {input : EventInput} (called : operation.reported? = some (step.stepId, .verifying))
      (loaded : directory.runtime.step? step.stepId = some step)
      (assigned : step.assignmentId.isSome)
      (valid : isValidStepTransition step.status .verifying = true)
      (from_ : input.assignmentId = step.assignmentId) (type : input.type = .completionRequested)
      (capacity : step.status.isActive = true ∨ HasRoom directory runtime) :
      Cause operation directory runtime step .verifying input
  | passed {input : EventInput} {taskId : String} {evidence : Json} {defined : StepDefinition}
      (called : operation = .gatePassed taskId step.stepId evidence)
      (loaded : directory.runtime.step? step.stepId = some step) (verifying : step.status = .verifying)
      (known : directory.definition.step? step.stepId = some defined)
      (produced : defined.completionGate.contains "required_outputs" = true →
        ∀ output ∈ defined.expectedOutputs,
          outputProduced (artifactEvents directory step) output = true)
      (from_ : input.assignmentId = step.assignmentId) (type : input.type = .gatePassed)
      (own : input.eventId = none) :
      Cause operation directory runtime step .completed input
  | failed {input : EventInput} (verifying : step.status = .verifying)
      (from_ : input.assignmentId = step.assignmentId) (type : input.type = .gateFailed)
      (own : input.eventId = none) :
      Cause operation directory runtime step .fixRequired input
  /-- The loops of `reconcileReadiness` and `gatePassed`. -/
  | readied {status : StepStatus} {input : EventInput}
      (waiting : step.status = .pending ∨ step.status = .waitingDependency)
      (becomes : status = .ready ∨ status = .waitingDependency)
      (ready : status = .ready → ∃ defined ∈ directory.definition.steps,
        defined.stepId = step.stepId ∧ dependencyReady defined runtime = true)
      (from_ : input.assignmentId = none) (type : input.type = .stepStateChanged)
      (own : input.eventId = none) (payload : input.payload.get "to" = some (.string status.text)) :
      Cause operation directory runtime step status input

/-- **What an operation does to a runtime state** before it records an event. -/
inductive Change (operation : Operation) (directory : TaskDirectory) (runtime : RuntimeState) :
    RuntimeState → EventInput → Prop where
  | task {input : EventInput} (status : TaskStatus) (activeStepIds blockers : List String)
      (about : input.stepId = none) (own : input.eventId = none) :
      Change operation directory runtime
        { runtime with
          task := { runtime.task with
            status := status, activeStepIds := activeStepIds, blockers := blockers } } input
  | noted {input : EventInput} (type : input.type = .stepAdded ∨ input.type = .artifactProduced) :
      Change operation directory runtime runtime input
  | preflight {input : EventInput} (stepId : String) (preflight : SkillPreflight)
      (blocker : Option String) (type : input.type = .skillPreflight) (own : input.eventId = none) :
      Change operation directory runtime (runtime.updateStep stepId fun step =>
          { step with skillPreflight := some preflight, blocker := blocker }) input
  | assigned {input : EventInput} (stepId : String) {defined : StepDefinition} {step : StepRuntime}
      {uuid taskId : String} {executor : ExecutorTarget} {executorId : Option String}
      (assignment : Assignment) (task : TaskRuntime)
      (called : operation = .createAssignment uuid taskId stepId executor executorId)
      (known : directory.definition.step? stepId = some defined)
      (found : runtime.step? stepId = some step)
      (assignable : step.status = .ready ∨ step.status = .fixRequired)
      (budget : step.attempt < defined.maxAttempts)
      (ready : dependencyReady defined runtime = true)
      (identified : assignment.assignmentId = "asg-" ++ uuid)
      (about : assignment.taskId = directory.definition.task.taskId ∧
        assignment.stepId = stepId ∧ assignment.attempt = step.attempt + 1)
      (unchanged : runtime.assignments = directory.runtime.assignments)
      (named : task.taskId = runtime.task.taskId)
      (sequence : task.lastEventSequence = runtime.task.lastEventSequence)
      (event : input.stepId = some stepId ∧ input.assignmentId = some assignment.assignmentId ∧
        input.type = .assignmentCreated ∧ input.eventId = none)
      (capacity : HasRoom directory runtime) :
      Change operation directory runtime
        { runtime.updateStep stepId fun step =>
            { step with
              status := .dispatching
              attempt := assignment.attempt
              assignmentId := some assignment.assignmentId
              blocker := none } with
          task := task
          assignments := runtime.assignments ++ [assignment] } input
  | bound {input : EventInput} {uuid assignmentId : String} {binding : SessionBinding}
      {assignment : Assignment} {request : BindExecutionSessionInput}
      (called : operation = .bindSession uuid assignmentId request)
      (identified : binding.bindingId = "bind-" ++ uuid)
      (known : assignment ∈ runtime.assignments) (of : binding.assignmentId = assignment.assignmentId)
      (about : binding.taskId = directory.definition.task.taskId ∧
        binding.stepId = assignment.stepId)
      (unchanged : runtime.sessionBindings = directory.runtime.sessionBindings)
      (type : input.type = .sessionBound) (own : input.eventId = none) :
      Change operation directory runtime
        { runtime with sessionBindings := runtime.sessionBindings ++ [binding] } input
  | rebound {input : EventInput} (bindingId : String) (state : SessionBindingState)
      {binding : SessionBinding} (found : binding ∈ runtime.sessionBindings)
      (identified : binding.bindingId = bindingId) (type : input.type = .sessionStateChanged) (own : input.eventId = none) :
      Change operation directory runtime
        { runtime with
          sessionBindings := runtime.sessionBindings.map fun item =>
            if item.bindingId = bindingId then { binding with state := state } else item } input
  | moved {input : EventInput} (stepId : String) {step : StepRuntime} {status : StepStatus}
      (currentActivity blocker : StepRuntime → Option String)
      (found : runtime.step? stepId = some step) (about : input.stepId = some stepId)
      (cause : Cause operation directory runtime step status input) :
      Change operation directory runtime (runtime.updateStep stepId fun step =>
          { step with
            status := status
            currentActivity := currentActivity step
            blocker := blocker step }) input

/-! ## Recording -/

def EventInput.event (input : EventInput) (eventId : String) (sequence : Nat) : ExecutionEvent where
  eventId := eventId
  sequence := sequence
  taskId := input.taskId
  stepId := input.stepId
  assignmentId := input.assignmentId
  type := input.type
  payload := input.payload

/-- **What recording an event adds to a ledger**: the event, or nothing where it repeats a report;
and what becomes of the sequence numbers in the state. -/
inductive Appended (draw : Nat → String) (input : EventInput) (events : List ExecutionEvent) :
    List ExecutionEvent → (Nat → Nat) → Prop where
  | new (eventId : String) (identified : input.explicitId = some eventId ∨
        input.explicitId = none ∧ eventId = "evt-" ++ draw (events.length + 1))
      (fresh : ∀ event ∈ events, event.eventId ≠ eventId) :
      Appended draw input events [input.event eventId (events.length + 1)]
        fun _ => events.length + 1
  | repeated (existing : ExecutionEvent) (known : existing ∈ events)
      (explicit : input.explicitId = some existing.eventId) (repeats : input.repeats existing) :
      Appended draw input events [] fun sequence => max sequence existing.sequence

/-- An event is refused where its identifier is in use for something else. -/
def Refused (draw : Nat → String) (input : EventInput) (events : List ExecutionEvent) : Prop :=
  (input.explicitId = none ∧ ∃ event ∈ events, event.eventId = "evt-" ++ draw (events.length + 1)) ∨
  ∃ existing ∈ events, input.explicitId = some existing.eventId ∧ ¬ input.repeats existing

section Rules

variable {draw : Nat → String} {directory : TaskDirectory} {runtime : RuntimeState}
  {input : EventInput} {returns : RuntimeState → TaskDirectory → Prop}
  {throws : String → TaskDirectory → Prop}

theorem ensures_appendNewEvent_iff {eventId : String}
    (appended : (∀ event ∈ directory.events, event.eventId ≠ eventId) →
      returns (runtime.recorded input.stepId fun _ => directory.events.length + 1)
        { directory with
          events := directory.events ++ [input.event eventId (directory.events.length + 1)] })
    (refused : (∃ event ∈ directory.events, event.eventId = eventId) →
      ∀ error, throws error directory) :
    (appendNewEvent eventId runtime input).Ensures returns throws directory := by
  simp only [appendNewEvent, ensures_bind, ensures_read, ensures_check,
    ensures_modify, ensures_pure]
  refine ⟨fun fresh => appended fresh, fun used => refused ?_ _⟩
  push Not at used
  exact used

/-- **Recording an event** appends it, or finds the report it repeats. -/
theorem ensures_appendEvent_iff
    (appended : ∀ later sequence, Appended draw input directory.events later sequence →
      returns (runtime.recorded input.stepId sequence)
        { directory with events := directory.events ++ later })
    (refused : Refused draw input directory.events → ∀ error, throws error directory) :
    (appendEvent draw runtime input).Ensures returns throws directory := by
  rw [appendEvent, ensures_bind, ensures_read]
  cases explicit : input.explicitId with
  | none =>
    exact ensures_appendNewEvent_iff
      (fun fresh => appended _ _ (.new _ (Or.inr ⟨explicit, rfl⟩) fresh))
      fun used => refused (Or.inl ⟨explicit, used⟩)
  | some explicitId =>
    dsimp only
    cases found : directory.events.find? fun event => event.eventId = explicitId with
    | none =>
      have fresh : ∀ event ∈ directory.events, event.eventId ≠ explicitId := by
        intro event member
        simpa using List.find?_eq_none.1 found event member
      refine ensures_appendNewEvent_iff
        (fun fresh => appended _ _ (.new _ (Or.inl explicit) fresh)) fun used => ?_
      obtain ⟨event, member, named⟩ := used
      exact absurd named (fresh event member)
    | some existing =>
      have known := List.mem_of_find?_eq_some found
      have named : existing.eventId = explicitId := by simpa using List.find?_some found
      rw [← named] at explicit
      simp only [ensures_bind, ensures_check, ensures_pure]
      refine ⟨fun repeats => ?_, fun differs => refused (Or.inr ⟨existing, known, explicit, differs⟩) _⟩
      -- the report was recorded before: the ledger stays as it is
      have kept := appended [] _ (.repeated existing known explicit repeats)
      rwa [List.append_nil] at kept

end Rules

variable (draw : Nat → String) (operation : Operation) (directory : TaskDirectory)

/-- **Where an event has its identifier from**: it is drawn, or the event is the one its caller
reports, and the first one of the operation. -/
inductive Identified (events : List ExecutionEvent) (input : EventInput) : Prop where
  | drawn (drawn : input.explicitId = none)
  | given (first : events = []) (explicit : input.explicitId = operation.explicitId)
      (type : operation.eventType? = some input.type)
      (payload : operation.Described → ∀ updates,
        operation.identity.payload = some (.object updates) → (updates.map (·.1)).Nodup →
        ∀ name value, name ≠ "reason" → (name, value) ∈ updates →
          input.payload.get name = some value)

/-- **Changes recorded one after another**, with the events they have appended. -/
inductive Recording (start : RuntimeState) : RuntimeState → List ExecutionEvent → Prop where
  | nil : Recording start start []
  | snoc {runtime changed : RuntimeState} {events later : List ExecutionEvent} {input : EventInput}
      {sequence : Nat → Nat} (before : Recording start runtime events)
      (change : Change operation directory runtime changed input)
      (appended : Appended draw input (directory.events ++ events) later sequence)
      (identified : Identified operation events input) :
      Recording start (changed.recorded input.stepId sequence) (events ++ later)

def expandedDefinition (additions : List StepDefinition) : WorkflowDefinition :=
  { directory.definition with
    revision := directory.definition.revision + 1
    steps := directory.definition.steps ++ additions }

def expandedRuntime (createdAt : Int) (additions : List StepDefinition) : RuntimeState :=
  let completed := (directory.runtime.steps.filter fun step => step.status = .completed).map
    (·.stepId)
  refreshDerived { directory.runtime with
    steps := directory.runtime.steps ++ additions.map (initialStepRuntime createdAt completed) }

inductive Begins : WorkflowDefinition → RuntimeState → Prop where
  | plain : Begins directory.definition directory.runtime
  | expanded {createdAt : Int} {taskId : String} {drafts additions : List StepDefinition}
      (called : operation = .addSteps createdAt taskId drafts)
      (new : newSteps taskId "step id already exists: " drafts
        (directory.definition.steps.map (·.stepId)) = .ok additions)
      (open_ : directory.runtime.task.status ≠ .completed ∧
        directory.runtime.task.status ≠ .cancelled)
      (named : directory.definition.task.taskId = taskId) :
      Begins (expandedDefinition directory additions) (expandedRuntime directory createdAt additions)

def RuntimeState.withActive (runtime : RuntimeState) (activeStepIds : List String) : RuntimeState :=
  { runtime with task := { runtime.task with activeStepIds := activeStepIds } }

/-- **The directories an operation may return in.** -/
inductive Returned : TaskDirectory → Prop where
  | same : Returned directory
  | written {taskId : String} {definition : WorkflowDefinition} {start runtime : RuntimeState}
      {events : List ExecutionEvent} (activeStepIds : List String) (archived : Bool)
      (checked : directory.Checked taskId) (begins : Begins operation directory definition start)
      (recorded : Recording draw operation directory start runtime events)
      (passed : assertSnapshot definition (runtime.withActive activeStepIds) = .ok ()) :
      Returned ⟨definition, runtime.withActive activeStepIds, directory.events ++ events, archived⟩

/-- **The calls that end the last step** of a task, and the status the task ends in. -/
inductive Ending : TaskStatus → Prop where
  | cancelled {taskId stepId : String} {reason : Option String} {identity : EventIdentity}
      {step : StepRuntime} (called : operation = .transitionStep taskId stepId .cancelled reason identity)
      (found : directory.runtime.step? stepId = some step)
      (valid : isValidStepTransition step.status .cancelled = true)
      (unended : directory.runtime.task.status ≠ .cancelled)
      (others : ∀ step ∈ directory.runtime.steps, step.stepId ≠ stepId → step.status.isEnded) :
      Ending .cancelled
  | completed {taskId stepId : String} {evidence : Json} {step : StepRuntime}
      (called : operation = .gatePassed taskId stepId evidence)
      (found : directory.runtime.step? stepId = some step) (verifying : step.status = .verifying)
      (others : ∀ step ∈ directory.runtime.steps, step.stepId ≠ stepId → step.status = .completed) :
      Ending .completed
  | closed {taskId stepId : String} {evidence : Json} {step : StepRuntime}
      (called : operation = .gatePassed taskId stepId evidence)
      (found : directory.runtime.step? stepId = some step) (verifying : step.status = .verifying)
      (others : ∀ step ∈ directory.runtime.steps, step.stepId ≠ stepId → step.status.isEnded)
      (left : ∃ step ∈ directory.runtime.steps, step.stepId ≠ stepId ∧ step.status = .cancelled) :
      Ending .cancelled

/-- Why an operation throws after it has begun to record. -/
inductive Tear (definition : WorkflowDefinition) (runtime : RuntimeState)
    (events : List ExecutionEvent) : Prop where
  | reused (used : ∃ event ∈ directory.events ++ events,
      event.eventId = "evt-" ++ draw ((directory.events ++ events).length + 1))
  | unended {status : TaskStatus} (ending : Ending operation directory status)
      (invalid : isValidTaskTransition directory.runtime.task.status status = false)
  /-- The snapshot does not pass its checks. -/
  | rejected (activeStepIds : List String)
      (failed : assertSnapshot definition (runtime.withActive activeStepIds) ≠ .ok ())

/-- **The directories an operation may throw in.** -/
inductive Threw : TaskDirectory → Prop where
  | same : Threw directory
  | torn {taskId : String} {definition : WorkflowDefinition} {start runtime : RuntimeState}
      {events : List ExecutionEvent} (archived : Bool) (checked : directory.Checked taskId)
      (begins : Begins operation directory definition start)
      (recorded : Recording draw operation directory start runtime events)
      (reason : Tear draw operation directory definition runtime events) :
      Threw { directory with events := directory.events ++ events, archived := archived }

/-! ## Steps of a recording -/

section Steps

variable {draw : Nat → String} {operation : Operation} {directory : TaskDirectory}
  {runtime changed start : RuntimeState} {input : EventInput} {events : List ExecutionEvent}

theorem updateStep_stepIds (stepId : String) {update : StepRuntime → StepRuntime}
    (kept : ∀ step, (update step).stepId = step.stepId) :
    (runtime.updateStep stepId update).steps.map (·.stepId) = runtime.steps.map (·.stepId) := by
  rw [RuntimeState.updateStep, List.map_map]
  apply List.map_congr_left
  intro step _
  by_cases named : step.stepId = stepId
  · rw [Function.comp_apply, if_pos named, kept]
  · rw [Function.comp_apply, if_neg named]

theorem recorded_stepIds (stepId : Option String) (sequence : Nat → Nat) :
    (runtime.recorded stepId sequence).steps.map (·.stepId) = runtime.steps.map (·.stepId) := by
  rw [RuntimeState.recorded, List.map_map]
  apply List.map_congr_left
  intro step _
  rw [Function.comp_apply]
  split <;> rfl

theorem Change.stepIds (change : Change operation directory runtime changed input) :
    changed.steps.map (·.stepId) = runtime.steps.map (·.stepId) := by
  cases change with
  | task | noted | bound | rebound => rfl
  | preflight stepId => exact updateStep_stepIds stepId fun _ => rfl
  | assigned | moved => exact updateStep_stepIds _ fun _ => rfl

theorem Recording.stepIds (recorded : Recording draw operation directory start runtime events) :
    runtime.steps.map (·.stepId) = start.steps.map (·.stepId) := by
  induction recorded with
  | nil => rfl
  | snoc before change appended identified ih => rw [recorded_stepIds, change.stepIds, ih]

theorem stepIds_of_passed {definition : WorkflowDefinition}
    (passed : assertSnapshot definition runtime = .ok ()) (stepId : String) :
    stepId ∈ runtime.steps.map (·.stepId) ↔ stepId ∈ definition.steps.map (·.stepId) := by
  have fits := (assertSnapshot_ok.1 passed).2
  have within : runtime.steps.map (·.stepId) ⊆ (definition.steps.map (·.stepId)).eraseDups := by
    intro id member
    obtain ⟨step, isStep, rfl⟩ := List.mem_map.1 member
    exact List.mem_eraseDups.2 (fits.steps step isStep).2
  -- as many different identifiers as there are
  have same := (List.subperm_of_subset fits.distinct within).perm_of_length_le
    (by rw [List.length_map, fits.count])
  rw [same.mem_iff, List.mem_eraseDups]

theorem step?_of_mem {stepId : String} (member : stepId ∈ runtime.steps.map (·.stepId)) :
    ∃ step, runtime.step? stepId = some step := by
  obtain ⟨step, isStep, named⟩ := List.mem_map.1 member
  refine Option.isSome_iff_exists.1 ?_
  rw [RuntimeState.step?, List.find?_isSome]
  exact ⟨step, isStep, by simpa using named⟩

theorem step?_stepId {stepId : String} {step : StepRuntime}
    (found : runtime.step? stepId = some step) : step.stepId = stepId := by
  simpa using List.find?_some found

end Steps

/-! ## Accesses of an operation -/

section Accesses

variable {draw : Nat → String} {operation : Operation} {directory : TaskDirectory}
  {taskId : String} {definition : WorkflowDefinition} {start runtime changed : RuntimeState}
  {input : EventInput} {events : List ExecutionEvent} {archived : Bool}

/-- **What an operation on a task does**, whether it returns or throws. -/
abbrev HasEffect {α : Type} (draw : Nat → String) (operation : Operation)
    (procedure : Procedure TaskDirectory String α) (directory : TaskDirectory) : Prop :=
  procedure.Ensures (fun _ after => Returned draw operation directory after)
    (fun _ after => Threw draw operation directory after) directory

def TaskDirectory.during (directory : TaskDirectory) (events : List ExecutionEvent)
    (archived : Bool) : TaskDirectory :=
  { directory with events := directory.events ++ events, archived := archived }

theorem TaskDirectory.during_nil (directory : TaskDirectory) :
    directory.during [] directory.archived = directory := by
  rw [TaskDirectory.during, List.append_nil]

theorem Begins.named (checked : directory.Checked taskId)
    (begins : Begins operation directory definition start) : definition.task.taskId = taskId := by
  cases begins with
  | plain | expanded => exact checked.named

theorem Begins.extends_ (begins : Begins operation directory definition start) {stepId : String}
    {defined : StepDefinition} (known : directory.definition.step? stepId = some defined) :
    definition.step? stepId = some defined := by
  cases begins with
  | plain => exact known
  | expanded =>
    show List.find? _ (_ ++ _) = _
    rw [List.find?_append]
    exact Option.or_eq_some_iff.2 (Or.inl known)

theorem Begins.revised (begins : Begins operation directory definition start) :
    definition = directory.definition ∨ directory.definition.revision < definition.revision := by
  cases begins with
  | plain => exact Or.inl rfl
  | expanded => exact Or.inr (Nat.lt_succ_self _)

theorem appendEvent_effect {next : RuntimeState → TaskDirectory → Prop}
    (checked : directory.Checked taskId) (begins : Begins operation directory definition start)
    (recorded : Recording draw operation directory start runtime events)
    (change : Change operation directory runtime changed input)
    (identified : Identified operation events input)
    (unmarked : input.explicitId = none ∨ archived = directory.archived)
    (continues : ∀ sequence events',
      Recording draw operation directory start (changed.recorded input.stepId sequence) events' →
      next (changed.recorded input.stepId sequence) (directory.during events' archived)) :
    (appendEvent draw changed input).Ensures next
      (fun _ => Threw draw operation directory) (directory.during events archived) := by
  refine ensures_appendEvent_iff (fun later sequence appended => ?_) fun refused _ => ?_
  · have extended := continues _ _ (recorded.snoc change appended identified)
    rwa [TaskDirectory.during, ← List.append_assoc] at extended
  · rcases refused with ⟨_, used⟩ | ⟨existing, _, explicit, _⟩
    · exact .torn archived checked begins recorded (.reused used)
    · -- nothing was recorded before the event its caller reports
      cases identified with
      | drawn drawn => cases drawn.symm.trans explicit
      | given first =>
        rcases unmarked with drawn | rfl
        · cases drawn.symm.trans explicit
        · rw [first, TaskDirectory.during_nil]
          exact .same

theorem writeSnapshot_effect {next : Unit → TaskDirectory → Prop} {activeStepIds : List String}
    (checked : directory.Checked taskId) (begins : Begins operation directory definition start)
    (recorded : Recording draw operation directory start runtime events)
    (continues : ∀ after, Returned draw operation directory after → after.Checked taskId →
      next () after) :
    (writeSnapshot definition (runtime.withActive activeStepIds)).Ensures next
      (fun _ => Threw draw operation directory) (directory.during events archived) := by
  have loaded : (directory.during events archived).Checked taskId := ⟨checked.passed, checked.named⟩
  refine ensures_writeSnapshot_iff loaded (begins.named checked) begins.revised (fun passed => ?_)
    fun failed _ => .torn archived checked begins recorded (.rejected activeStepIds failed)
  exact continues _ (.written activeStepIds archived checked begins recorded passed)
    ⟨passed, begins.named checked⟩

theorem recordAndWrite_effect {next : Unit → TaskDirectory → Prop}
    (checked : directory.Checked taskId)
    (change : Change operation directory directory.runtime changed input)
    (identified : Identified operation [] input)
    (unmarked : input.explicitId = none ∨ archived = directory.archived)
    (continues : ∀ after, Returned draw operation directory after → after.Checked taskId →
      next () after) :
    (recordAndWrite draw directory.definition changed input).Ensures next
      (fun _ => Threw draw operation directory)
      (directory.during [] archived) := by
  rw [recordAndWrite, ensures_bind]
  refine appendEvent_effect checked .plain .nil change identified unmarked
    fun sequence events' recorded => ?_
  exact writeSnapshot_effect checked .plain recorded continues

theorem snapshot_effect {after : TaskDirectory} (returned : Returned draw operation directory after)
    (checked : after.Checked taskId) :
    (snapshot taskId).Ensures (fun _ => Returned draw operation directory)
      (fun _ => Threw draw operation directory) after := by
  simp only [snapshot, ensures_bind, ensures_pure]
  exact ensures_loadSnapshot_iff (fun _ => returned) fun refused => absurd checked refused

theorem loadSnapshot_effect {α : Type} {next : TaskDirectory → Procedure TaskDirectory String α}
    (loaded : directory.Checked taskId → HasEffect draw operation (next directory) directory) :
    HasEffect draw operation (loadSnapshot taskId >>= next) directory := by
  rw [HasEffect, ensures_bind]
  exact ensures_loadSnapshot_iff loaded fun _ _ => .same

end Accesses

/-! ## Operations -/

section Operations

variable {draw : Nat → String} {operation : Operation} {directory : TaskDirectory}
  {taskId stepId : String} {identity : EventIdentity}

variable {input : EventInput}

theorem recordAndWrite_first {changed : RuntimeState} {next : Unit → TaskDirectory → Prop}
    (checked : directory.Checked taskId)
    (change : Change operation directory directory.runtime changed input)
    (identified : Identified operation [] input)
    (continues : ∀ after, Returned draw operation directory after → after.Checked taskId →
      next () after) :
    (recordAndWrite draw directory.definition changed input).Ensures next
      (fun _ => Threw draw operation directory) directory := by
  have recorded : (recordAndWrite draw directory.definition changed input).Ensures next
      (fun _ => Threw draw operation directory)
      (directory.during [] directory.archived) := 
        recordAndWrite_effect checked change identified (Or.inr rfl) continues
  rwa [TaskDirectory.during_nil] at recorded

theorem transitionTask_effect {status : TaskStatus} {reason : Option String} :
    HasEffect draw operation (transitionTask draw taskId status reason) directory := by
  refine loadSnapshot_effect fun checked => ?_
  simp only [HasEffect, ensures_bind]
  refine .check (fun _ => ?_) .same
  exact recordAndWrite_first checked (.task status _ _ rfl rfl) (.drawn rfl) fun _ => snapshot_effect

theorem recordSkillPreflight_effect {preflight : SkillPreflight} :
    HasEffect draw operation (recordSkillPreflight draw taskId stepId preflight) directory := by
  refine loadSnapshot_effect fun checked => ?_
  simp only [HasEffect, ensures_bind]
  refine .require (fun definition _ => .require (fun step _ => ?_) .same) .same
  refine .check (fun _ => .check (fun _ => .check (fun _ => ?_) .same) .same) .same
  exact recordAndWrite_first checked (.preflight stepId preflight _ rfl rfl) (.drawn rfl)
    fun _ => snapshot_effect

theorem createAssignment_effect {uuid : String} {executor : ExecutorTarget}
    {executorId : Option String}
    (called : operation = .createAssignment uuid taskId stepId executor executorId) :
    HasEffect draw operation (createAssignment draw uuid taskId stepId executor executorId)
      directory := by
  refine loadSnapshot_effect fun checked => ?_
  simp only [HasEffect, ensures_bind]
  refine .require (fun defined known => .require (fun step found => ?_) .same) .same
  refine .check (fun _ => .check (fun _ => .check (fun _ => ?_) .same) .same) .same
  refine .check (fun assignable => .check (fun budget => .check (fun ready => ?_) .same) .same) .same
  refine .check (fun capacity => .check (fun _ => .check (fun _ => .check (fun _ => ?_) .same) .same) .same) .same
  refine recordAndWrite_first checked ?_ (.drawn rfl)
    fun _ returned _ => (ensures_pure _).2 returned
  refine .assigned stepId ⟨"asg-" ++ uuid, taskId, stepId, step.attempt + 1, executor, executorId⟩ _ called
    known found assignable budget ready rfl ⟨checked.named.symm, rfl, rfl⟩ rfl ?_ ?_ ⟨rfl, rfl, rfl, rfl⟩
    capacity
  · split <;> rfl
  · split <;> rfl

theorem bindTaskSession_effect {uuid assignmentId : String} {request : BindExecutionSessionInput}
    (called : operation = .bindSession uuid assignmentId request) :
    HasEffect draw operation (bindTaskSession draw uuid assignmentId request taskId) directory := by
  refine loadSnapshot_effect fun checked => ?_
  simp only [HasEffect, ensures_bind]
  refine .require (fun assignment found => .check (fun _ => .check (fun _ => ?_) .same) .same) .same
  refine recordAndWrite_first checked ?_ (.drawn rfl)
    fun _ returned _ => (ensures_pure _).2 returned
  have named : assignment.assignmentId = assignmentId := by simpa using List.find?_some found
  exact .bound called rfl (List.mem_of_find?_eq_some found) named.symm ⟨checked.named.symm, rfl⟩ rfl
    rfl rfl

theorem updateSessionBindingState_effect {bindingId : String} {state : SessionBindingState} :
    HasEffect draw operation (updateSessionBindingState draw taskId bindingId state) directory := by
  refine loadSnapshot_effect fun checked => ?_
  simp only [HasEffect, ensures_bind]
  refine .require (fun binding found => .check (fun _ => ?_) .same) .same
  refine recordAndWrite_first checked ?_ (.drawn rfl)
    fun _ returned _ => (ensures_pure _).2 returned
  have named : binding.bindingId = bindingId := by simpa using List.find?_some found
  exact .rebound bindingId state (List.mem_of_find?_eq_some found) named rfl rfl

theorem get_eventPayload {members updates : List (String × Json)} {name : String} {value : Json}
    (given : identity.payload = some (.object updates)) (distinct : (updates.map (·.1)).Nodup)
    (member : (name, value) ∈ updates) :
    (eventPayload (.object members) identity).get name = some value := by
  rw [eventPayload, given]
  exact get_spread_of_mem distinct member

theorem requestCompletion_effect (called : operation.reported? = some (stepId, .verifying))
    (identified : ∀ input : EventInput, input.eventId = identity.eventId →
      input.type = .completionRequested →
      (∃ members, input.payload = eventPayload (.object members) identity) →
      Identified operation [] input) :
    HasEffect draw operation (requestCompletion draw taskId stepId identity) directory := by
  refine loadSnapshot_effect fun checked => ?_
  simp only [HasEffect, ensures_bind]
  refine .require (fun step found => .check (fun assigned => ?_) .same) .same
  refine .check (fun capacity => .check (fun valid => ?_) .same) .same
  refine recordAndWrite_first checked ?_ (identified _ rfl rfl ⟨_, rfl⟩) fun _ => snapshot_effect
  have named := step?_stepId found
  rw [← named] at called
  exact .moved _ (·.currentActivity) (·.blocker) found rfl
    (.requested called (named ▸ found) assigned valid rfl rfl capacity)

theorem recordProgress_effect {progress : Option NumberLiteral} {currentActivity : Option String}
    (called : operation = .recordProgress taskId stepId progress currentActivity identity) :
    HasEffect draw operation (recordProgress draw taskId stepId progress currentActivity identity)
      directory := by
  refine loadSnapshot_effect fun checked => ?_
  simp only [HasEffect, ensures_bind]
  refine .require (fun step found => .check (fun reporting => ?_) .same) .same
  refine .require (fun normalized _ => .check (fun _ => ?_) .same) .same
  refine recordAndWrite_first checked ?_ ?_ fun _ => snapshot_effect
  swap
  · rw [called]
    exact .given rfl rfl rfl fun _ _ given distinct _ _ _ member =>
      get_eventPayload given distinct member
  refine .moved _ (fun _ => trimmedOrNull currentActivity) (fun _ => none) found rfl ?_
  have named := step?_stepId found
  rw [← named] at called
  exact .progress called (named ▸ found) reporting rfl rfl rfl

theorem recordArtifact_effect {artifact : Json}
    (called : operation = .recordArtifact taskId stepId artifact identity) :
    HasEffect draw operation (recordArtifact draw taskId stepId artifact identity) directory := by
  refine loadSnapshot_effect fun checked => ?_
  simp only [HasEffect, ensures_bind]
  refine .require (fun step found => ?_) .same
  refine recordAndWrite_first checked (.noted (Or.inr rfl)) ?_ fun _ => snapshot_effect
  rw [called]
  refine .given rfl rfl rfl fun described updates given distinct _ _ _ member => ?_
  obtain ⟨members, rfl⟩ := described
  exact get_eventPayload given distinct member

theorem gateFailed_effect {reason : String} :
    HasEffect draw operation (gateFailed draw taskId stepId reason) directory := by
  refine loadSnapshot_effect fun checked => ?_
  simp only [HasEffect, ensures_bind]
  refine .require (fun step found => .check (fun verifying => .check (fun _ => ?_) .same) .same) .same
  refine recordAndWrite_first checked ?_ (.drawn rfl) fun _ => snapshot_effect
  exact .moved _ (·.currentActivity) (fun _ => some _) found rfl (.failed verifying rfl rfl rfl)

variable {runtime : RuntimeState}

theorem unchanged_task (about : input.stepId = none) (own : input.eventId = none) :
    Change operation directory runtime runtime input :=
  .task runtime.task.status runtime.task.activeStepIds runtime.task.blockers about own

theorem setTaskArchived_effect {archived : Bool} :
    HasEffect draw operation (setTaskArchived draw taskId archived) directory := by
  refine loadSnapshot_effect fun checked => ?_
  simp only [HasEffect, ensures_ite]
  refine ⟨fun _ => snapshot_effect .same checked, fun _ => ?_⟩
  simp only [ensures_bind, ensures_modify]
  have marked : { directory with archived := archived } = directory.during [] archived := by
    rw [TaskDirectory.during, List.append_nil]
  rw [marked]
  exact recordAndWrite_effect checked (unchanged_task rfl rfl) (.drawn rfl) (Or.inl rfl)
    fun _ => snapshot_effect

/-! ### Operations that record several events -/

def Underway (draw : Nat → String) (operation : Operation) (directory : TaskDirectory)
    (start runtime : RuntimeState) (after : TaskDirectory) : Prop :=
  ∃ events, Recording draw operation directory start runtime events ∧
    after = directory.during events directory.archived

theorem underway_start (start : RuntimeState) :
    Underway draw operation directory start start directory :=
  ⟨[], .nil, directory.during_nil.symm⟩

variable {after : TaskDirectory}

theorem appendEvent_underway {definition : WorkflowDefinition} {start runtime changed : RuntimeState}
    {next : RuntimeState → TaskDirectory → Prop} (checked : directory.Checked taskId)
    (begins : Begins operation directory definition start)
    (underway : Underway draw operation directory start runtime after)
    (change : Change operation directory runtime changed input) (own : input.eventId = none)
    (continues : ∀ sequence after,
      Underway draw operation directory start (changed.recorded input.stepId sequence) after →
      next (changed.recorded input.stepId sequence) after) :
    (appendEvent draw changed input).Ensures next
      (fun _ => Threw draw operation directory) after := by
  obtain ⟨events, recorded, rfl⟩ := underway
  have drawn : input.explicitId = none := by
    rw [EventInput.explicitId, own]
    rfl
  exact appendEvent_effect checked begins recorded change (.drawn drawn) (Or.inl drawn)
    fun sequence events' recorded' => continues sequence _ ⟨events', recorded', rfl⟩

theorem appendEvent_first {changed : RuntimeState} {next : RuntimeState → TaskDirectory → Prop}
    (checked : directory.Checked taskId)
    (change : Change operation directory directory.runtime changed input)
    (identified : Identified operation [] input)
    (continues : ∀ sequence after, Underway draw operation directory directory.runtime
      (changed.recorded input.stepId sequence) after →
      next (changed.recorded input.stepId sequence) after) :
    (appendEvent draw changed input).Ensures next
      (fun _ => Threw draw operation directory) directory := by
  have appended : (appendEvent draw changed input).Ensures next
      (fun _ => Threw draw operation directory)
      (directory.during [] directory.archived) :=
    appendEvent_effect checked .plain .nil change identified (Or.inr rfl)
      fun sequence events' recorded' => continues sequence _ ⟨events', recorded', rfl⟩
  rwa [TaskDirectory.during_nil] at appended

theorem writeSnapshot_underway {definition : WorkflowDefinition} {start runtime : RuntimeState}
    {next : Unit → TaskDirectory → Prop} (activeStepIds : List String)
    (checked : directory.Checked taskId) (begins : Begins operation directory definition start)
    (underway : Underway draw operation directory start runtime after)
    (continues : ∀ after, Returned draw operation directory after → after.Checked taskId →
      next () after) :
    (writeSnapshot definition (runtime.withActive activeStepIds)).Ensures next
      (fun _ => Threw draw operation directory) after := by
  obtain ⟨events, recorded, rfl⟩ := underway
  exact writeSnapshot_effect checked begins recorded continues

theorem Underway.step?_isSome (checked : directory.Checked taskId)
    (underway : Underway draw operation directory directory.runtime runtime after)
    {defined : StepDefinition} (known : defined ∈ directory.definition.steps) :
    ∃ step, runtime.step? defined.stepId = some step := by
  obtain ⟨events, recorded, -⟩ := underway
  apply step?_of_mem
  rw [recorded.stepIds, stepIds_of_passed checked.passed]
  exact List.mem_map_of_mem known

theorem addSteps_effect {createdAt : Int} {drafts : List StepDefinition}
    (called : operation = .addSteps createdAt taskId drafts) :
    HasEffect draw operation (addSteps draw createdAt taskId drafts) directory := by
  unfold addSteps
  by_cases empty : drafts = []
  · rw [if_pos empty, HasEffect, snapshot, ensures_bind]
    exact ensures_loadSnapshot_iff (fun _ => (ensures_pure _).2 .same) fun _ _ => .same
  rw [if_neg empty]
  refine loadSnapshot_effect fun checked => ?_
  simp only [HasEffect, ensures_bind]
  refine .check (fun open_ => .ofExcept (fun additions new => ?_) fun _ => .same) .same
  have begins := Begins.expanded called new open_ checked.named
  refine (ensures_foldlM (Underway draw operation directory
      (expandedRuntime directory createdAt additions))
    (fun step _ runtime after underway => ?_) (underway_start _)).imp fun runtime after underway => ?_
  · exact appendEvent_underway checked begins underway (.noted (Or.inl rfl)) rfl fun _ _ => id
  · exact writeSnapshot_underway _ checked begins underway fun _ => snapshot_effect

/-! ### Operations that end a step -/

structure EndsAs (stepId : String) (final : StepStatus) (before after : StepRuntime) : Prop where
  named : after.stepId = before.stepId
  final : before.stepId = stepId → after.status = final
  ended : before.stepId ≠ stepId → after.status.isEnded = true → after.status = before.status

/-- **A state in which one step got its final status**, and no other step has ended. -/
structure EndsStep (directory : TaskDirectory) (stepId : String) (final : StepStatus)
    (runtime : RuntimeState) : Prop where
  task : runtime.task.status = directory.runtime.task.status
  onto : ∀ before ∈ directory.runtime.steps, ∃ after ∈ runtime.steps,
    EndsAs stepId final before after
  from_ : ∀ after ∈ runtime.steps, ∃ before ∈ directory.runtime.steps,
    EndsAs stepId final before after

section EndsStep

variable {final : StepStatus} {runtime : RuntimeState}

theorem EndsStep.start (directory : TaskDirectory) {update : StepRuntime → StepRuntime}
    (kept : ∀ step, (update step).stepId = step.stepId)
    (becomes : ∀ step, (update step).status = final) :
    EndsStep directory stepId final (directory.runtime.updateStep stepId update) := by
  have ends (step : StepRuntime) :
      EndsAs stepId final step (if step.stepId = stepId then update step else step) := by
    by_cases named : step.stepId = stepId
    · rw [if_pos named]
      exact ⟨kept step, fun _ => becomes step, fun other => absurd named other⟩
    · rw [if_neg named]
      exact ⟨rfl, fun same => absurd same named, fun _ _ => rfl⟩
  refine ⟨rfl, fun step member => ⟨_, List.mem_map_of_mem member, ends step⟩, fun after member => ?_⟩
  obtain ⟨step, isStep, rfl⟩ := List.mem_map.1 member
  exact ⟨step, isStep, ends step⟩

section

variable (ends : EndsStep directory stepId final runtime)
include ends

theorem EndsStep.map {after : RuntimeState}
    {change : StepRuntime → StepRuntime} (task : after.task.status = runtime.task.status)
    (steps : after.steps = runtime.steps.map change)
    (named : ∀ step, (change step).stepId = step.stepId)
    (kept : ∀ step, step.stepId = stepId → (change step).status = step.status)
    (open_ : ∀ step, (change step).status.isEnded = true → (change step).status = step.status) :
    EndsStep directory stepId final after := by
  have follows {before later : StepRuntime} (end_ : EndsAs stepId final before later) :
      EndsAs stepId final before (change later) := by
    refine ⟨(named later).trans end_.named, fun same => ?_, fun other ended => ?_⟩
    · exact (kept later (end_.named.trans same)).trans (end_.final same)
    · have unchanged := open_ later ended
      rw [unchanged] at ended ⊢
      exact end_.ended other ended
  refine ⟨task.trans ends.task, fun before member => ?_, fun later member => ?_⟩
  · obtain ⟨later, isStep, end_⟩ := ends.onto before member
    exact ⟨change later, steps ▸ List.mem_map_of_mem isStep, follows end_⟩
  · rw [steps] at member
    obtain ⟨step, isStep, rfl⟩ := List.mem_map.1 member
    obtain ⟨before, isBefore, end_⟩ := ends.from_ step isStep
    exact ⟨before, isBefore, follows end_⟩

theorem EndsStep.recorded (about : Option String)
    (sequence : Nat → Nat) : EndsStep directory stepId final (runtime.recorded about sequence) := by
  refine ends.map rfl rfl (fun step => ?_) (fun step _ => ?_) fun step _ => ?_
  all_goals split <;> rfl

theorem EndsStep.readied {id : String} {step : StepRuntime} (found : runtime.step? id = some step)
    (waiting : step.status = .waitingDependency) (unfinished : final ≠ .waitingDependency) :
    EndsStep directory stepId final
      (runtime.updateStep id fun step => { step with status := .ready }) := by
  -- the step that got its final status is not waiting
  have other : id ≠ stepId := by
    rintro rfl
    obtain ⟨before, -, end_⟩ := ends.from_ step (List.mem_of_find?_eq_some found)
    have isFinal := end_.final (end_.named.symm.trans (step?_stepId found))
    exact unfinished (isFinal.symm.trans waiting)
  refine ends.map rfl rfl (fun step => ?_) (fun step same => ?_) fun step ended => ?_
  · split <;> rfl
  · rw [if_neg fun named => other (named.symm.trans same)]
  · by_cases named : step.stepId = id
    · rw [if_pos named] at ended
      cases ended
    · rw [if_neg named]

theorem EndsStep.others
    (all : ∀ step ∈ runtime.steps, step.status.isEnded = true) {step : StepRuntime}
    (member : step ∈ directory.runtime.steps) (other : step.stepId ≠ stepId) :
    ∃ after ∈ runtime.steps, after.status = step.status := by
  obtain ⟨after, isAfter, end_⟩ := ends.onto step member
  exact ⟨after, isAfter, end_.ended other (all after isAfter)⟩

end

end EndsStep

theorem finishTask_underway {start runtime : RuntimeState} {status : TaskStatus} {type : EventType}
    {payload : Json} {definition : WorkflowDefinition} (activeStepIds : List String)
    (checked : directory.Checked taskId) (begins : Begins operation directory definition start)
    (underway : Underway draw operation directory start runtime after)
    (ending : Ending operation directory status)
    (unchanged : runtime.task.status = directory.runtime.task.status) :
    (finishTask draw taskId (runtime.withActive activeStepIds) status type payload).Ensures
      (Underway draw operation directory start)
      (fun _ => Threw draw operation directory) after := by
  rw [finishTask, ensures_bind, ensures_check]
  refine ⟨fun _ => ?_, fun invalid => ?_⟩
  · exact appendEvent_underway checked begins underway
      (.task status activeStepIds runtime.task.blockers rfl rfl) rfl fun _ _ => id
  · obtain ⟨events, recorded, rfl⟩ := underway
    refine .torn directory.archived checked begins recorded (.unended ending ?_)
    rw [← unchanged]
    exact Bool.eq_false_iff.2 invalid

theorem cancelWhenEnded_underway {status : StepStatus} {reason : Option String}
    (activeStepIds : List String)
    (called : operation = .transitionStep taskId stepId status reason identity)
    (incomplete : status ≠ .completed) {step : StepRuntime}
    (found : directory.runtime.step? stepId = some step)
    (valid : isValidStepTransition step.status status = true) (checked : directory.Checked taskId)
    (underway : Underway draw operation directory directory.runtime runtime after)
    (ends : EndsStep directory stepId status runtime) :
    (cancelWhenEnded draw taskId (runtime.withActive activeStepIds)).Ensures
      (fun finished after => ∃ recorded activeStepIds,
        finished = RuntimeState.withActive recorded activeStepIds ∧
          Underway draw operation directory directory.runtime recorded after)
      (fun _ => Threw draw operation directory) after := by
  rw [cancelWhenEnded, ensures_ite]
  refine ⟨fun ended => ?_, fun _ => (ensures_pure _).2 ⟨runtime, _, rfl, underway⟩⟩
  · obtain ⟨unended, -, all⟩ := ended
    have allEnded : ∀ step ∈ runtime.steps, step.status.isEnded = true :=
      fun step member => StepStatus.isEnded_iff.2 (all step member)
    -- the step itself has ended, and was not completed
    have isCancelled : status = .cancelled := by
      obtain ⟨after, isAfter, end_⟩ := ends.onto step (List.mem_of_find?_eq_some found)
      have isFinal := end_.final (step?_stepId found)
      rw [← isFinal] at incomplete ⊢
      exact (all after isAfter).resolve_left incomplete
    subst isCancelled
    refine (finishTask_underway activeStepIds checked .plain underway
      (.cancelled called found valid (ends.task ▸ unended) fun other member different => ?_)
      ends.task).imp fun finished after underway => ⟨finished, finished.task.activeStepIds, rfl, underway⟩
    obtain ⟨after, isAfter, same⟩ := ends.others allEnded member different
    rw [← same]
    exact allEnded after isAfter

theorem transitionStep_effect {status : StepStatus} {reason : Option String}
    (called : operation = .transitionStep taskId stepId status reason identity) :
    HasEffect draw operation (transitionStep draw taskId stepId status reason identity)
      directory := by
  unfold transitionStep
  by_cases completed : status = .completed
  · rw [if_pos completed]
    exact (ensures_fail _).2 .same
  rw [if_neg completed]
  by_cases verifying : status = .verifying
  · rw [if_pos verifying]
    subst verifying
    refine requestCompletion_effect (by rw [called]; rfl) fun input id type payload => ?_
    obtain ⟨members, payload⟩ := payload
    rw [called]
    refine .given rfl (explicitId_eq id) (congrArg some type.symm) fun _ updates given distinct name
      value other member => ?_
    have brought : identity.payload = some (.object updates) := given
    have joined : (identity.payload.getD (.object [])).spread (.object (reasonMember reason)) =
        .object ((reasonMember reason).foldl
          (fun joined member => assignMember joined member.1 member.2) updates) := by
      rw [brought]
      rfl
    rw [payload]
    refine get_eventPayload (congrArg some joined) ?_ ?_
    all_goals
      -- the reason is added to what its caller brings
      unfold reasonMember
      cases reason.filter fun reason => reason ≠ "" with
      | none => assumption
      | some reason =>
        first
        | exact assignMember_distinct _ _ distinct
        | exact mem_assignMember member other
  rw [if_neg verifying]
  refine loadSnapshot_effect fun checked => ?_
  simp only [HasEffect, ensures_bind]
  refine .require (fun step found => .check (fun valid => .check (fun ready => ?_) .same) .same) .same
  refine .check (fun assigned => .check (fun capacity => ?_) .same) .same
  refine appendEvent_first checked (.moved _ (·.currentActivity) _ found rfl ?_) ?_
    fun sequence after underway => ?_
  · have named := step?_stepId found
    rw [← named] at called
    refine .transition identity reason called (named ▸ found) completed verifying valid (fun isReady => ?_) (fun active => ?_) rfl rfl rfl rfl fun active => ?_
    · have defined := ready.resolve_left fun other => other isReady
      rw [Option.any_eq_true] at defined
      obtain ⟨definition, known, met⟩ := defined
      have named : definition.stepId = stepId := by simpa using List.find?_some known
      exact ⟨definition, List.mem_of_find?_eq_some known, named.trans (step?_stepId found).symm, met⟩
    · by_cases was : step.status.isActive = true
      · exact Or.inl was
      · exact Or.inr (assigned.resolve_left fun idle => idle ⟨active, was⟩)
    · by_cases was : step.status.isActive = true
      · exact Or.inl was
      · exact Or.inr (capacity.resolve_left fun idle => idle ⟨active, was⟩)
  · rw [called]
    refine .given rfl rfl (congrArg some (if_neg verifying)) fun _ _ given distinct _ _ _ member => ?_
    exact get_eventPayload given distinct member
  · refine (cancelWhenEnded_underway _ called completed found valid checked underway
      (.recorded (.start directory ?_ ?_) _ _)).imp fun finished after ended => ?_
    · exact fun _ => rfl
    · exact fun _ => rfl
    obtain ⟨recorded, activeStepIds, rfl, underway⟩ := ended
    exact writeSnapshot_underway _ checked .plain underway fun _ => snapshot_effect

theorem reconcileStep_underway {defined : StepDefinition} (checked : directory.Checked taskId)
    (known : defined ∈ directory.definition.steps)
    (underway : Underway draw operation directory directory.runtime runtime after) :
    (reconcileStep draw taskId runtime defined).Ensures
      (Underway draw operation directory directory.runtime)
      (fun _ => Threw draw operation directory) after := by
  obtain ⟨current, found⟩ := underway.step?_isSome checked known
  have named := step?_stepId found
  simp only [reconcileStep, ensures_bind]
  rw [found, require, ensures_pure, ensures_ite]
  refine ⟨fun _ => (ensures_pure _).2 underway, fun waiting => ?_⟩
  have waits : current.status = .pending ∨ current.status = .waitingDependency := by
    by_cases pending : current.status = .pending
    · exact Or.inl pending
    · exact Or.inr (by_contra fun other => waiting ⟨pending, other⟩)
  rw [ensures_ite]
  refine ⟨fun _ => (ensures_pure _).2 underway, fun _ => ?_⟩
  -- the table has both edges
  have valid : isValidStepTransition current.status
      (if dependencyReady defined runtime = true then .ready else .waitingDependency) = true := by
    rcases waits with pending | waiting
    · rw [pending]
      split <;> rfl
    · rw [waiting]
      split <;> rfl
  simp only [ensures_bind]
  rw [ensures_check]
  refine ⟨fun _ => ?_, fun invalid => absurd valid invalid⟩
  rw [named]
  refine appendEvent_underway checked .plain underway
    (.moved _ (·.currentActivity) (·.blocker) found rfl (.readied waits ?_ ?_ rfl rfl rfl rfl)) rfl
    fun _ _ => id
  · split
    · exact Or.inl rfl
    · exact Or.inr rfl
  · intro ready
    refine ⟨defined, known, named.symm, by_contra fun waiting => ?_⟩
    rw [if_neg waiting] at ready
    cases ready

theorem reconcileReadiness_effect :
    HasEffect draw operation (reconcileReadiness draw taskId) directory := by
  refine loadSnapshot_effect fun checked => ?_
  simp only [HasEffect, ensures_bind]
  refine (ensures_foldlM (Underway draw operation directory directory.runtime)
    (fun defined known runtime after underway => reconcileStep_underway checked known underway)
    (underway_start _)).imp fun runtime after underway => ?_
  exact writeSnapshot_underway _ checked .plain underway fun _ returned _ =>
    (ensures_pure _).2 returned

theorem readyDependent_underway {defined : StepDefinition} (checked : directory.Checked taskId)
    (known : defined ∈ directory.definition.steps)
    (underway : Underway draw operation directory directory.runtime runtime after)
    (ends : EndsStep directory stepId .completed runtime) :
    (readyDependent draw taskId runtime defined).Ensures
      (fun runtime after => Underway draw operation directory directory.runtime runtime after ∧
        EndsStep directory stepId .completed runtime)
      (fun _ => Threw draw operation directory) after := by
  obtain ⟨dependent, found⟩ := underway.step?_isSome checked known
  have named := step?_stepId found
  simp only [readyDependent, ensures_bind]
  rw [found, require, ensures_pure, ensures_ite]
  refine ⟨fun _ => (ensures_pure _).2 ⟨underway, ends⟩, fun ready => ?_⟩
  rw [not_or, not_not, not_not] at ready
  rw [named]
  refine appendEvent_underway checked .plain underway
    (.moved _ (·.currentActivity) (·.blocker) found rfl (.readied (Or.inr ready.1) (Or.inl rfl)
        (fun _ => ⟨defined, known, named.symm, ready.2⟩) rfl rfl rfl rfl)) rfl
    fun sequence after underway => ⟨underway, ?_⟩
  exact (ends.readied found ready.1 (by rintro ⟨⟩)).recorded _ _

/-- Looking for the required outputs changes nothing; all of them are found where it returns. -/
theorem checkOutputs_effect {artifacts : List ExecutionEvent} {outputs : List ExpectedOutput}
    {next : Unit → TaskDirectory → Prop}
    (continues : (∀ output ∈ outputs, outputProduced artifacts output = true) → next () directory) :
    (checkOutputs artifacts outputs).Ensures next
      (fun _ => Threw draw operation directory) directory := by
  induction outputs with
  | nil => exact (ensures_pure _).2 (continues (by rintro _ ⟨⟩))
  | cons output outputs ih =>
    rw [checkOutputs, ensures_bind]
    refine .check (fun produced => ih fun others => continues ?_) .same
    exact List.forall_mem_cons.2 ⟨produced, others⟩

theorem completeWhenEnded_underway {evidence : Json}
    (called : operation = .gatePassed taskId stepId evidence) {step : StepRuntime}
    (found : directory.runtime.step? stepId = some step) (verifying : step.status = .verifying)
    (checked : directory.Checked taskId)
    (underway : Underway draw operation directory directory.runtime runtime after)
    (ends : EndsStep directory stepId .completed runtime) :
    (completeWhenEnded draw taskId runtime).Ensures
      (Underway draw operation directory directory.runtime)
      (fun _ => Threw draw operation directory) after := by
  rw [completeWhenEnded, ensures_ite, ensures_ite]
  refine ⟨fun completed => ?_, fun incomplete => ⟨fun all => ?_, fun _ => ?_⟩⟩
  · have allEnded : ∀ step ∈ runtime.steps, step.status.isEnded = true :=
      fun step member => StepStatus.isEnded_iff.2 (Or.inl (completed.2 step member))
    refine finishTask_underway runtime.task.activeStepIds checked .plain underway
      (.completed called found verifying fun other member different => ?_) ends.task
    obtain ⟨after, isAfter, same⟩ := ends.others allEnded member different
    rw [← same]
    exact completed.2 after isAfter
  · have allEnded : ∀ step ∈ runtime.steps, step.status.isEnded = true :=
      fun step member => StepStatus.isEnded_iff.2 (all step member)
    refine finishTask_underway runtime.task.activeStepIds checked .plain underway
      (.closed called found verifying (fun other member different => ?_) ?_) ends.task
    · obtain ⟨after, isAfter, same⟩ := ends.others allEnded member different
      rw [← same]
      exact allEnded after isAfter
    · -- there is a step, so that one of them is not completed
      obtain ⟨passed, isPassed, -⟩ := ends.onto step (List.mem_of_find?_eq_some found)
      have left : ∃ step ∈ runtime.steps, step.status ≠ .completed := by
        by_contra none_
        push Not at none_
        exact incomplete ⟨List.ne_nil_of_mem isPassed, none_⟩
      obtain ⟨later, isLater, open_⟩ := left
      obtain ⟨before, isBefore, end_⟩ := ends.from_ later isLater
      have different : before.stepId ≠ stepId := fun same => open_ (end_.final same)
      refine ⟨before, isBefore, different, ?_⟩
      rw [← end_.ended different (allEnded later isLater)]
      exact (all later isLater).resolve_left open_
  · exact (ensures_pure _).2 underway

theorem gatePassed_effect {evidence : Json}
    (called : operation = .gatePassed taskId stepId evidence) :
    HasEffect draw operation (gatePassed draw taskId stepId evidence) directory := by
  refine loadSnapshot_effect fun checked => ?_
  simp only [HasEffect, ensures_bind]
  refine .require (fun step found => .check (fun verifying => ?_) .same) .same
  refine .require (fun defined known => .check (fun _ => .check (fun _ => ?_) .same) .same) .same
  refine checkOutputs_effect fun produced => .check (fun _ => ?_) .same
  refine appendEvent_first checked (.moved _ (fun _ => none) (fun _ => none) found rfl ?_)
    (.drawn rfl) fun sequence after underway => ?_
  · have named := step?_stepId found
    rw [← named] at called known
    refine .passed called (named ▸ found) verifying known (fun gate => ?_) rfl rfl rfl
    rw [if_pos (Or.inl gate)] at produced
    exact produced
  refine (ensures_foldlM (fun runtime after =>
      Underway draw operation directory directory.runtime runtime after ∧
        EndsStep directory stepId .completed runtime)
    (fun defined known runtime after kept =>
      readyDependent_underway checked known kept.1 kept.2)
    ⟨underway, .recorded (.start directory ?_ ?_) _ _⟩).imp fun readied after kept => ?_
  · exact fun _ => rfl
  · exact fun _ => rfl
  refine (completeWhenEnded_underway called found verifying checked kept.1 kept.2).imp
    fun finished after underway => ?_
  exact writeSnapshot_underway _ checked .plain underway fun _ => snapshot_effect

end Operations

/-! ## The service -/

def replaceTask (store : ExecutionStore) (name : String) (directory : TaskDirectory) :
    ExecutionStore :=
  store.map fun entry => if entry.1 = name then (name, directory) else entry

def initialDirectory (createdAt : Int) (task : TaskDefinition) (steps : List StepDefinition) :
    TaskDirectory :=
  ⟨⟨1, task, steps⟩, initialRuntime createdAt task steps, [], false⟩

def Operation.taskId? : Operation → Option String
  | .createTask _ task _ => some task.taskId
  | .addSteps _ taskId _ | .transitionTask taskId _ _ | .reconcileReadiness taskId
  | .recordSkillPreflight taskId _ _ | .createAssignment _ taskId _ _ _
  | .transitionStep taskId _ _ _ _ | .recordProgress taskId _ _ _ _ | .recordArtifact taskId _ _ _
  | .requestCompletion taskId _ _ | .gatePassed taskId _ _ | .gateFailed taskId _ _
  | .updateSessionBindingState taskId _ _ | .setTaskArchived taskId _ | .deleteTask taskId =>
    some taskId
  | .bindSession _ _ _ => none

inductive WorksOn (operation : Operation) (store : ExecutionStore) : ExecutionStore → Prop where
  | found : WorksOn operation store store
  | created {createdAt : Int} {task : TaskDefinition} {drafts steps : List StepDefinition}
      {name : String} (called : operation = .createTask createdAt task drafts)
      (new : newSteps task.taskId "duplicate step id " drafts [] = .ok steps)
      (checked : (initialDirectory createdAt task steps).Checked task.taskId)
      (safe : safeId task.taskId "taskId" = .ok name) (fresh : store.lookup name = none) :
      WorksOn operation store (store ++ [(name, initialDirectory createdAt task steps)])

variable (draw : Nat → String) (operation : Operation) (store : ExecutionStore)

/-- **The stores a call may return in.** -/
inductive StoreReturned : ExecutionStore → Prop where
  | task {base : ExecutionStore} {taskId name : String} {directory after : TaskDirectory}
      (base_ : WorksOn operation store base) (about : ∀ id ∈ operation.taskId?, id = taskId)
      (safe : safeId taskId "taskId" = .ok name) (found : base.lookup name = some directory)
      (returned : Returned draw operation directory after) :
      StoreReturned (replaceTask base name after)
  | deleted {taskId name : String} {directory : TaskDirectory}
      (called : operation = .deleteTask taskId) (safe : safeId taskId "taskId" = .ok name)
      (found : store.lookup name = some directory) (idle : directory.runtime.activeSteps = 0) :
      StoreReturned (store.filter fun entry => entry.1 ≠ name)

/-- **The stores a call may throw in.** -/
inductive StoreThrew : ExecutionStore → Prop where
  | same : StoreThrew store
  | task {base : ExecutionStore} {taskId name : String} {directory after : TaskDirectory}
      (base_ : WorksOn operation store base) (about : ∀ id ∈ operation.taskId?, id = taskId)
      (safe : safeId taskId "taskId" = .ok name) (found : base.lookup name = some directory) (threw : Threw draw operation directory after) :
      StoreThrew (replaceTask base name after)

section Service

variable {draw : Nat → String} {operation : Operation} {store : ExecutionStore} {taskId : String}

theorem ensures_inTask_iff {α : Type} {procedure : Procedure TaskDirectory String α}
    {returns : α → ExecutionStore → Prop} {throws : String → ExecutionStore → Prop}
    (inside : ∀ name directory, safeId taskId "taskId" = .ok name →
      store.lookup name = some directory →
      procedure.Ensures (fun value after => returns value (replaceTask store name after))
        (fun error after => throws error (replaceTask store name after)) directory)
    (refused : storedTask store taskId = none → ∀ error, throws error store) :
    (inTask taskId procedure).Ensures returns throws store := by
  cases safe : safeId taskId "taskId" with
  | error error =>
    have ran : inTask taskId procedure store = (.error error, store) := by
      rw [inTask, safe]
    unfold Procedure.Ensures
    rw [ran]
    exact refused (by rw [storedTask, safe]) error
  | ok name =>
    cases found : store.lookup name with
    | none =>
      have ran : inTask taskId procedure store =
          (.error "ENOENT: no such file or directory", store) := by
        simp only [inTask, safe, found]
      unfold Procedure.Ensures
      rw [ran]
      exact refused (by rw [storedTask, safe]; exact found) _
    | some directory =>
      have ran : inTask taskId procedure store =
          ((procedure directory).1, replaceTask store name (procedure directory).2) := by
        simp only [inTask, safe, found]
        rfl
      have ensured := inside name directory safe found
      unfold Procedure.Ensures at ensured ⊢
      rw [ran]
      generalize procedure directory = result at ensured ⊢
      obtain ⟨result, after⟩ := result
      cases result with
      | ok value | error error => exact ensured

theorem replaceTask_self (distinct : (store.map (·.1)).Nodup) {name : String}
    {directory : TaskDirectory} (found : store.lookup name = some directory) :
    replaceTask store name directory = store := by
  obtain ⟨before, later, split, others⟩ := List.lookup_eq_some_iff.1 found
  have same : ∀ entry ∈ store, (if entry.1 = name then (name, directory) else entry) = entry := by
    intro entry member
    by_cases named : entry.1 = name
    · have isEntry : (name, directory) ∈ store := by simp [split]
      rw [if_pos named]
      exact List.inj_on_of_nodup_map distinct isEntry member named.symm
    · rw [if_neg named]
  rw [replaceTask, List.map_congr_left same, List.map_id']

/-- What a call of the service does. -/
abbrev HasStoreEffect {α : Type} (draw : Nat → String) (operation : Operation)
    (procedure : Procedure ExecutionStore String α) (store : ExecutionStore) : Prop :=
  procedure.Ensures (fun _ after => StoreReturned draw operation store after)
    (fun _ after => StoreThrew draw operation store after) store

theorem inTask_effect {α : Type} {procedure : Procedure TaskDirectory String α}
    (about : ∀ id ∈ operation.taskId?, id = taskId) (effect : ∀ directory, HasEffect draw operation procedure directory) :
    HasStoreEffect draw operation (inTask taskId procedure) store := by
  refine ensures_inTask_iff (fun name directory safe found => ?_) fun _ _ => .same
  exact (effect directory).mono (fun _ _ returned => .task .found about safe found returned)
    fun _ _ threw => .task .found about safe found threw

theorem createTask_effect {createdAt : Int} {task : TaskDefinition} {drafts : List StepDefinition}
    (called : operation = .createTask createdAt task drafts) :
    HasStoreEffect draw operation (createTask draw createdAt task drafts) store := by
  simp only [HasStoreEffect, createTask, ensures_bind]
  refine .check (fun _ => .ofExcept (fun steps new => ?_) fun _ => .same) .same
  refine .ofExcept (fun _ passed => .ofExcept (fun name safe => ?_) fun _ => .same) fun _ => .same
  rw [ensures_read]
  refine .check (fun fresh => ?_) .same
  rw [Procedure.ensures_write]
  have checked : (initialDirectory createdAt task steps).Checked task.taskId := ⟨passed, rfl⟩
  have base := WorksOn.created called new checked safe fresh
  have stored : (store ++ [(name, initialDirectory createdAt task steps)]).lookup name =
      some (initialDirectory createdAt task steps) := by
    rw [List.lookup_append, fresh]
    simp
  refine ensures_inTask_iff (fun name' directory safe' found => ?_) fun missing => ?_
  · obtain rfl : name = name' := Except.ok.inj (safe.symm.trans safe')
    obtain rfl := Option.some.inj (stored.symm.trans found)
    have effect : HasEffect draw operation (do
        let recorded ← appendEvent draw (initialRuntime createdAt task steps)
          { taskId := task.taskId, stepId := none, assignmentId := none, type := .taskCreated
            eventId := none
            payload := .object
              [("title", .string task.title), ("workflowId", nullableJson task.workflowId),
                ("stepIds", textsJson (steps.map (·.stepId)))] }
        writeSnapshot ⟨1, task, steps⟩ recorded
        snapshot task.taskId) (initialDirectory createdAt task steps) := by
      simp only [HasEffect, ensures_bind]
      refine appendEvent_first checked (unchanged_task rfl rfl) (.drawn rfl)
        fun sequence after underway => ?_
      generalize RuntimeState.recorded _ _ _ = recorded at underway ⊢
      exact writeSnapshot_underway recorded.task.activeStepIds checked .plain underway
        fun _ => snapshot_effect
    have about : ∀ id ∈ operation.taskId?, id = task.taskId := by
      intro id member
      rw [called] at member
      exact (Option.some.inj member).symm
    exact effect.mono (fun _ _ returned => .task base about safe found returned)
      fun _ _ threw => .task base about safe found threw
  · rw [storedTask, safe] at missing
    cases stored.symm.trans missing

theorem findAssignment_effect (distinct : (store.map (·.1)).Nodup) {assignmentId : String}
    {taskIds : List String} {next : String → ExecutionStore → Prop}
    (continues : ∀ taskId, next taskId store) :
    (findAssignment assignmentId taskIds).Ensures next
      (fun _ => StoreThrew draw operation store) store := by
  induction taskIds with
  | nil => exact (ensures_fail _).2 .same
  | cons taskId taskIds ih =>
    rw [findAssignment, ensures_bind]
    refine ensures_inTask_iff (fun name directory safe found => ?_) fun _ _ => .same
    have put := replaceTask_self distinct found
    refine ensures_loadSnapshot_iff (fun _ => ?_) fun _ _ => ?_
    · rw [put, ensures_ite]
      exact ⟨fun _ => (ensures_pure _).2 (continues taskId), fun _ => ih⟩
    · rw [put]
      exact .same

theorem deleteTask_effect (distinct : (store.map (·.1)).Nodup)
    (called : operation = .deleteTask taskId) :
    HasStoreEffect draw operation (deleteTask taskId) store := by
  simp only [HasStoreEffect, deleteTask, ensures_bind]
  refine ensures_inTask_iff (fun name directory safe found => ?_) fun _ _ => .same
  have put := replaceTask_self distinct found
  simp only [ensures_bind]
  refine ensures_loadSnapshot_iff (fun _ => .check (fun idle => ?_) ?_) fun _ _ => ?_
  · rw [put]
    refine .ofExcept (fun name' safe' => ?_) fun _ => .same
    obtain rfl : name = name' := Except.ok.inj (safe.symm.trans safe')
    rw [ensures_modify, ensures_pure]
    exact .deleted called safe found idle
  · rw [put]
    exact .same
  · rw [put]
    exact .same

/-- **What every call of the service does.** -/
theorem serve_effect (distinct : (store.map (·.1)).Nodup) (call : Operation × (Nat → String)) :
    HasStoreEffect call.2 call.1 (serve call) store := by
  obtain ⟨operation, draw⟩ := call
  rw [HasStoreEffect, serve]
  cases operation with
  | createTask createdAt task drafts => exact createTask_effect rfl
  | addSteps createdAt taskId drafts => exact inTask_effect (fun _ member => (Option.some.inj member).symm) fun _ => addSteps_effect rfl
  | transitionTask taskId status reason => exact inTask_effect (fun _ member => (Option.some.inj member).symm) fun _ => transitionTask_effect
  | reconcileReadiness taskId => exact inTask_effect (fun _ member => (Option.some.inj member).symm) fun _ => reconcileReadiness_effect
  | recordSkillPreflight taskId stepId preflight =>
    exact inTask_effect (fun _ member => (Option.some.inj member).symm) fun _ => recordSkillPreflight_effect
  | createAssignment uuid taskId stepId executor executorId =>
    exact inTask_effect (fun _ member => (Option.some.inj member).symm) fun _ => createAssignment_effect rfl
  | bindSession uuid assignmentId input =>
    simp only [bindSession, ensures_bind, ensures_read]
    exact findAssignment_effect distinct fun taskId =>
      inTask_effect (by rintro _ ⟨⟩) fun _ => bindTaskSession_effect rfl
  | transitionStep taskId stepId status reason identity =>
    exact inTask_effect (fun _ member => (Option.some.inj member).symm) fun _ => transitionStep_effect rfl
  | recordProgress taskId stepId progress currentActivity identity =>
    exact inTask_effect (fun _ member => (Option.some.inj member).symm) fun _ => recordProgress_effect rfl
  | recordArtifact taskId stepId artifact identity =>
    exact inTask_effect (fun _ member => (Option.some.inj member).symm) fun _ => recordArtifact_effect rfl
  | requestCompletion taskId stepId identity =>
    exact inTask_effect (fun _ member => (Option.some.inj member).symm) fun _ =>
      requestCompletion_effect rfl fun input id type payload => .given rfl (explicitId_eq id)
        (congrArg some type.symm) fun _ _ given distinct _ _ _ member => by
          obtain ⟨members, payload⟩ := payload
          rw [payload]
          exact get_eventPayload given distinct member
  | gatePassed taskId stepId evidence => exact inTask_effect (fun _ member => (Option.some.inj member).symm) fun _ => gatePassed_effect rfl
  | gateFailed taskId stepId reason => exact inTask_effect (fun _ member => (Option.some.inj member).symm) fun _ => gateFailed_effect
  | updateSessionBindingState taskId bindingId state =>
    exact inTask_effect (fun _ member => (Option.some.inj member).symm) fun _ => updateSessionBindingState_effect
  | setTaskArchived taskId archived => exact inTask_effect (fun _ member => (Option.some.inj member).symm) fun _ => setTaskArchived_effect
  | deleteTask taskId => exact deleteTask_effect distinct rfl

/-! ### Invariants of all tasks -/

theorem lookup_replaceTask (store : ExecutionStore) (name other : String)
    (directory : TaskDirectory) :
    (replaceTask store name directory).lookup other =
      if other = name then (store.lookup name).map fun _ => directory else store.lookup other := by
  induction store with
  | nil => simp [replaceTask]
  | cons entry store ih =>
    obtain ⟨key, kept⟩ := entry
    rw [replaceTask, List.map_cons, ← replaceTask, List.lookup_cons, List.lookup_cons,
      List.lookup_cons, ih]
    by_cases named : key = name
    · subst named
      by_cases same : other = key
      · simp [same]
      · have differs : (other == key) = false := by simpa using same
        simp [same, differs]
    · have otherName : (name == key) = false := by simpa using Ne.symm named
      by_cases same : other = key
      · simp [same, named]
      · have differs : (other == key) = false := by simpa using same
        simp [named, differs, otherName]

theorem names_replaceTask (store : ExecutionStore) (name : String) (directory : TaskDirectory) :
    (replaceTask store name directory).map (·.1) = store.map (·.1) := by
  rw [replaceTask, List.map_map]
  apply List.map_congr_left
  intro entry _
  by_cases named : entry.1 = name
  · rw [Function.comp_apply, if_pos named, named]
  · rw [Function.comp_apply, if_neg named]

theorem WorksOn.distinct {base : ExecutionStore} (base_ : WorksOn operation store base)
    (distinct : (store.map (·.1)).Nodup) : (base.map (·.1)).Nodup := by
  cases base_ with
  | found => exact distinct
  | @created _ _ _ _ name _ _ _ _ fresh =>
    rw [List.map_append, List.nodup_append]
    refine ⟨distinct, List.nodup_singleton _, fun key member other isName => ?_⟩
    obtain ⟨entry, isEntry, rfl⟩ := List.mem_map.1 member
    rw [List.map_singleton, List.mem_singleton] at isName
    rintro same
    rw [List.lookup_eq_none_iff] at fresh
    simpa [same, isName] using fresh entry isEntry

def StoreHas (Inv : TaskDirectory → Prop) (store : ExecutionStore) : Prop :=
  (store.map (·.1)).Nodup ∧ ∀ entry ∈ store, Inv entry.2

theorem StoreHas.stored {Inv : TaskDirectory → Prop} (has : StoreHas Inv store) {name : String}
    {directory : TaskDirectory} (found : store.lookup name = some directory) : Inv directory := by
  obtain ⟨before, later, split, _⟩ := List.lookup_eq_some_iff.1 found
  exact has.2 (name, directory) (by simp [split])

/-- **The invariant rule of the service**: what new tasks have, and every operation on a task keeps,
is kept by every call. -/
theorem serve_storeHas {Inv : TaskDirectory → Prop} (call : Operation × (Nat → String))
    (has : StoreHas Inv store)
    (initial : ∀ base, WorksOn call.1 store base → StoreHas Inv base)
    (returned : ∀ base taskId directory after, WorksOn call.1 store base →
      (∀ id ∈ call.1.taskId?, id = taskId) → storedTask base taskId = some directory →
      Inv directory → Returned call.2 call.1 directory after → Inv after)
    (threw : ∀ base taskId directory after, WorksOn call.1 store base →
      (∀ id ∈ call.1.taskId?, id = taskId) → storedTask base taskId = some directory →
      Inv directory → Threw call.2 call.1 directory after → Inv after) :
    (serve call).Ensures (fun _ => StoreHas Inv) (fun _ => StoreHas Inv)
      store := by
  -- a directory is replaced by one with the property
  have replaced (base : ExecutionStore) (name : String) (after : TaskDirectory)
      (base_ : WorksOn call.1 store base) (kept : Inv after) :
      StoreHas Inv (replaceTask base name after) := by
    obtain ⟨distinct, every⟩ := initial base base_
    refine ⟨by rw [names_replaceTask]; exact distinct, fun entry member => ?_⟩
    obtain ⟨before, isEntry, rfl⟩ := List.mem_map.1 member
    split
    · exact kept
    · exact every before isEntry
  have stored (base : ExecutionStore) (taskId name : String) (directory : TaskDirectory)
      (safe : safeId taskId "taskId" = .ok name) (found : base.lookup name = some directory) :
      storedTask base taskId = some directory := by
    rw [storedTask, safe]
    exact found
  refine (serve_effect has.1 call).mono (fun _ after effect => ?_) fun _ after effect => ?_
  · cases effect with
    | task base_ about safe found effect =>
      refine replaced _ _ _ base_ (returned _ _ _ _ base_ about (stored _ _ _ _ safe found) ?_ effect)
      exact (initial _ base_).stored found
    | deleted called safe found idle =>
      refine ⟨has.1.sublist ((List.filter_sublist).map _), fun entry member => ?_⟩
      exact has.2 entry (List.mem_of_mem_filter member)
  · cases effect with
    | same => exact has
    | task base_ about safe found effect =>
      refine replaced _ _ _ base_ (threw _ _ _ _ base_ about (stored _ _ _ _ safe found) ?_ effect)
      exact (initial _ base_).stored found

end Service

end Zero3Pilot.Execution
