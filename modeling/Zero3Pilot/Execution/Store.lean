import Zero3Pilot.Execution.Validators
import Zero3Pilot.Foundations.Procedure

/-! # The execution store

The durable files of an execution task: `execution-runtime/store.ts`, `event-ledger.ts`, and
`appendEvent` of the runtime. A task directory holds a snapshot, which is replaced as a whole and
checked whenever it is read or written, and a ledger of events, which only grows. What an operation
has appended to the ledger stays there when it throws afterwards. -/

namespace Zero3Pilot.Execution

open Procedure (check read modify ofExcept ensures_bind ensures_check ensures_modify
  ensures_ofExcept ensures_pure ensures_read)

/-! ## Checks of a snapshot -/

def safeId (value label : String) : Except String String := do
  let normalized := scriptTrim value
  ensure (normalized ≠ "" ∧ normalized ≠ "." ∧ normalized ≠ ".." ∧
      normalized.toList.all fun char => char ≠ '/' && char ≠ '\\' && char ≠ '\x00')
    (label ++ " is not a safe path segment")
  return normalized

def assertDefinition (definition : WorkflowDefinition) : Except String Unit :=
  let errors := validateExecutionWorkflowDefinition definition
  ensure (errors = []) ("invalid execution workflow: " ++ String.intercalate "; " errors)

/-- The checks of the assignments of a runtime state. -/
def assertAssignments (taskId : String) (stepIds : List String) :
    List Assignment → List String → Except String Unit
  | [], _ => .ok ()
  | assignment :: assignments, seen => do
    ensure (assignment.taskId = taskId ∧ assignment.stepId ∈ stepIds)
      "execution assignment identity mismatch"
    ensure (assignment.assignmentId ∉ seen) "duplicate execution assignment id"
    assertAssignments taskId stepIds assignments (assignment.assignmentId :: seen)

def assertSessionBindings (taskId : String) (stepIds assignmentIds : List String) :
    List SessionBinding → List String → Except String Unit
  | [], _ => .ok ()
  | binding :: bindings, seen => do
    ensure (binding.taskId = taskId ∧ binding.stepId ∈ stepIds ∧
        binding.assignmentId ∈ assignmentIds)
      "execution session binding identity mismatch"
    ensure (binding.bindingId ∉ seen) "duplicate execution session binding id"
    assertSessionBindings taskId stepIds assignmentIds bindings (binding.bindingId :: seen)

def assertRuntime (definition : WorkflowDefinition) (runtime : RuntimeState) :
    Except String Unit := do
  let taskId := definition.task.taskId
  let stepIds := definition.steps.map (·.stepId)
  ensure (runtime.task.taskId = taskId) "execution runtime task identity mismatch"
  ensure (runtime.steps.length = stepIds.eraseDups.length) "execution runtime step count mismatch"
  ensure (∀ step ∈ runtime.steps, step.taskId = taskId ∧ step.stepId ∈ stepIds)
    "execution runtime contains unknown step"
  ensure (runtime.steps.map (·.stepId)).Nodup "execution runtime contains duplicate step state"
  assertAssignments taskId stepIds runtime.assignments []
  assertSessionBindings taskId stepIds (runtime.assignments.map (·.assignmentId))
    runtime.sessionBindings []

def assertSnapshot (definition : WorkflowDefinition) (runtime : RuntimeState) :
    Except String Unit := do
  assertDefinition definition
  assertRuntime definition runtime

/-- **What `assertRuntime` checks** of a runtime state. -/
structure RuntimeFits (definition : WorkflowDefinition) (runtime : RuntimeState) : Prop where
  task : runtime.task.taskId = definition.task.taskId
  count : runtime.steps.length = (definition.steps.map (·.stepId)).eraseDups.length
  steps : ∀ step ∈ runtime.steps, step.taskId = definition.task.taskId ∧
    step.stepId ∈ definition.steps.map (·.stepId)
  distinct : (runtime.steps.map (·.stepId)).Nodup
  assignments : ∀ assignment ∈ runtime.assignments, assignment.taskId = definition.task.taskId ∧
      assignment.stepId ∈ definition.steps.map (·.stepId)
  assignmentIds : (runtime.assignments.map (·.assignmentId)).Nodup
  bindings : ∀ binding ∈ runtime.sessionBindings, binding.taskId = definition.task.taskId ∧
    binding.stepId ∈ definition.steps.map (·.stepId) ∧
    binding.assignmentId ∈ runtime.assignments.map (·.assignmentId)
  bindingIds : (runtime.sessionBindings.map (·.bindingId)).Nodup

theorem assertAssignments_ok {taskId : String} {stepIds : List String}
    {assignments : List Assignment} {seen : List String} {result : Unit} :
    assertAssignments taskId stepIds assignments seen = .ok result ↔
      (∀ assignment ∈ assignments, assignment.taskId = taskId ∧ assignment.stepId ∈ stepIds) ∧
        (assignments.map (·.assignmentId)).Nodup ∧
        ∀ assignment ∈ assignments, assignment.assignmentId ∉ seen := by
  induction assignments generalizing seen with
  | nil => simp [assertAssignments]
  | cons assignment assignments ih =>
    simp only [assertAssignments, bind_ok, ensure_ok, ih, List.map_cons, List.nodup_cons,
      List.mem_map, List.mem_cons, forall_eq_or_imp, not_or]
    constructor
    · rintro ⟨_, identity, _, fresh, identities, distinct, others⟩
      refine ⟨⟨identity, identities⟩, ⟨?_, distinct⟩, fresh, fun other member => (others other member).2⟩
      rintro ⟨other, member, same⟩
      exact (others other member).1 same
    · rintro ⟨⟨identity, identities⟩, ⟨first, distinct⟩, fresh, others⟩
      refine ⟨(), identity, (), fresh, identities, distinct, fun other member => ⟨?_, others other member⟩⟩
      exact fun same => first ⟨other, member, same⟩

theorem assertSessionBindings_ok {taskId : String} {stepIds assignmentIds : List String}
    {bindings : List SessionBinding} {seen : List String} {result : Unit} :
    assertSessionBindings taskId stepIds assignmentIds bindings seen = .ok result ↔
      (∀ binding ∈ bindings, binding.taskId = taskId ∧ binding.stepId ∈ stepIds ∧
          binding.assignmentId ∈ assignmentIds) ∧
        (bindings.map (·.bindingId)).Nodup ∧ ∀ binding ∈ bindings, binding.bindingId ∉ seen := by
  induction bindings generalizing seen with
  | nil => simp [assertSessionBindings]
  | cons binding bindings ih =>
    simp only [assertSessionBindings, bind_ok, ensure_ok, ih, List.map_cons, List.nodup_cons,
      List.mem_map, List.mem_cons, forall_eq_or_imp, not_or]
    constructor
    · rintro ⟨_, identity, _, fresh, identities, distinct, others⟩
      refine ⟨⟨identity, identities⟩, ⟨?_, distinct⟩, fresh, fun other member => (others other member).2⟩
      rintro ⟨other, member, same⟩
      exact (others other member).1 same
    · rintro ⟨⟨identity, identities⟩, ⟨first, distinct⟩, fresh, others⟩
      refine ⟨(), identity, (), fresh, identities, distinct, fun other member => ⟨?_, others other member⟩⟩
      exact fun same => first ⟨other, member, same⟩

theorem assertRuntime_ok {definition : WorkflowDefinition} {runtime : RuntimeState}
    {result : Unit} : assertRuntime definition runtime = .ok result ↔ RuntimeFits definition runtime := by
  simp only [assertRuntime, bind_ok, ensure_ok, assertAssignments_ok, assertSessionBindings_ok]
  constructor
  · rintro ⟨_, task, _, count, _, steps, _, distinct, _, ⟨assignments, assignmentIds, -⟩, bindings,
      bindingIds, -⟩
    exact ⟨task, count, steps, distinct, assignments, assignmentIds, bindings, bindingIds⟩
  · intro fits
    exact ⟨(), fits.task, (), fits.count, (), fits.steps, (), fits.distinct, (),
      ⟨fits.assignments, fits.assignmentIds, fun _ _ => List.not_mem_nil⟩, fits.bindings,
      fits.bindingIds, fun _ _ => List.not_mem_nil⟩

theorem assertSnapshot_ok {definition : WorkflowDefinition} {runtime : RuntimeState} :
    assertSnapshot definition runtime = .ok () ↔
      validateExecutionWorkflowDefinition definition = [] ∧ RuntimeFits definition runtime := by
  simp only [assertSnapshot, assertDefinition, bind_ok, ensure_ok, assertRuntime_ok]
  constructor
  · rintro ⟨_, valid, fits⟩
    exact ⟨valid, fits⟩
  · rintro ⟨valid, fits⟩
    exact ⟨(), valid, fits⟩

theorem assertSnapshot_nodup {definition : WorkflowDefinition} {runtime : RuntimeState}
    (passed : assertSnapshot definition runtime = .ok ()) :
    (runtime.steps.map (·.stepId)).Nodup :=
  (assertSnapshot_ok.1 passed).2.distinct

structure TaskDirectory.Checked (directory : TaskDirectory) (taskId : String) : Prop where
  passed : assertSnapshot directory.definition directory.runtime = .ok ()
  named : directory.definition.task.taskId = taskId

/-! ## The accesses to a task directory -/

def loadSnapshot (taskId : String) : Procedure TaskDirectory String TaskDirectory := do
  let directory ← read
  ofExcept (assertSnapshot directory.definition directory.runtime)
  check (directory.definition.task.taskId = taskId)
    ("Execution Task " ++ taskId ++ " snapshot identity mismatch")
  return directory

def writeSnapshot (definition : WorkflowDefinition) (runtime : RuntimeState) :
    Procedure TaskDirectory String Unit := do
  ofExcept (assertSnapshot definition runtime)
  let current ← loadSnapshot definition.task.taskId
  check (current.definition.revision ≤ definition.revision)
    "workflow revision cannot move backwards"
  check (definition.revision ≠ current.definition.revision ∨ definition = current.definition)
    "workflow definition changed without revision increment"
  modify fun directory => { directory with definition := definition, runtime := runtime }

/-- What `appendEvent` is given. -/
structure EventInput where
  taskId : String
  (stepId assignmentId : Option String)
  type : EventType
  eventId : Option String
  payload : Json

def EventInput.repeats (input : EventInput) (event : ExecutionEvent) : Prop :=
  event.taskId = input.taskId ∧ event.stepId = input.stepId ∧
    event.assignmentId = input.assignmentId ∧ event.type = input.type ∧
    stableJson event.payload = stableJson input.payload

instance (input : EventInput) (event : ExecutionEvent) : Decidable (input.repeats event) :=
  inferInstanceAs (Decidable (_ ∧ _ ∧ _ ∧ _ ∧ _))

/-- The state with the sequence number of its last event, of the step it is about as well. -/
def RuntimeState.recorded (runtime : RuntimeState) (stepId : Option String)
    (sequence : Nat → Nat) : RuntimeState :=
  { runtime with
    task := { runtime.task with lastEventSequence := sequence runtime.task.lastEventSequence }
    steps := runtime.steps.map fun step =>
      if some step.stepId = stepId then
        { step with lastEventSequence := sequence step.lastEventSequence }
      else step }

/-- Append a new event to the ledger: `appendExecutionEvent` refuses an identifier that is in use,
since the event of that identifier has an earlier sequence number. -/
def appendNewEvent (eventId : String) (runtime : RuntimeState) (input : EventInput) :
    Procedure TaskDirectory String RuntimeState := do
  let directory ← read
  let sequence := directory.events.length + 1
  check (∀ event ∈ directory.events, event.eventId ≠ eventId)
    ("event id " ++ eventId ++ " was reused with different content")
  let event : ExecutionEvent :=
    { eventId, sequence, taskId := input.taskId, stepId := input.stepId
      assignmentId := input.assignmentId, type := input.type, payload := input.payload }
  modify fun directory => { directory with events := directory.events ++ [event] }
  return runtime.recorded input.stepId fun _ => sequence

/-- The identifier an event is given by its reporter, if any. -/
def EventInput.explicitId (input : EventInput) : Option String :=
  (input.eventId.map scriptTrim).filter fun id => id ≠ ""

def appendEvent (draw : Nat → String) (runtime : RuntimeState) (input : EventInput) :
    Procedure TaskDirectory String RuntimeState := do
  let directory ← read
  match input.explicitId with
  | none => appendNewEvent ("evt-" ++ draw (directory.events.length + 1)) runtime input
  | some explicitId =>
    match directory.events.find? fun event => event.eventId = explicitId with
    | none => appendNewEvent explicitId runtime input
    | some existing => do
      check (input.repeats existing)
        ("event id " ++ explicitId ++ " was reused with different execution report content")
      return runtime.recorded input.stepId fun sequence => max sequence existing.sequence

/-! ## The store -/

abbrev ExecutionStore := List (String × TaskDirectory)

def storedTask (store : ExecutionStore) (taskId : String) : Option TaskDirectory :=
  match safeId taskId "taskId" with
  | .ok name => store.lookup name
  | .error _ => none

def inTask {α : Type} (taskId : String) (procedure : Procedure TaskDirectory String α) :
    Procedure ExecutionStore String α := fun store =>
  match safeId taskId "taskId" with
  | .error error => (.error error, store)
  | .ok name =>
    match store.lookup name with
    | none => (.error "ENOENT: no such file or directory", store)
    | some directory =>
      let ran := procedure directory
      (ran.1, store.map fun entry => if entry.1 = name then (name, ran.2) else entry)

/-! ## Rules -/

section Rules

variable {throws : String → TaskDirectory → Prop} {directory : TaskDirectory}

variable {taskId : String}

theorem ensures_loadSnapshot_iff {returns : TaskDirectory → TaskDirectory → Prop}
    (loaded : directory.Checked taskId → returns directory directory)
    (refused : ¬ directory.Checked taskId → ∀ error, throws error directory) :
    (loadSnapshot taskId).Ensures returns throws directory := by
  simp only [loadSnapshot, ensures_bind, ensures_read, ensures_ofExcept,
    ensures_check, ensures_pure]
  refine ⟨fun _ passed => ⟨fun named => loaded ⟨passed, named⟩, fun other => ?_⟩, fun error threw => ?_⟩
  · exact refused (fun checked => other checked.named) _
  · refine refused (fun checked => ?_) error
    rw [checked.passed] at threw
    cases threw

theorem ensures_loadSnapshot {returns : TaskDirectory → TaskDirectory → Prop}
    (loaded : (directory.runtime.steps.map (·.stepId)).Nodup → returns directory directory)
    (refused : ∀ error, throws error directory) :
    (loadSnapshot taskId).Ensures returns throws directory :=
  ensures_loadSnapshot_iff (fun checked => loaded (assertSnapshot_nodup checked.passed))
    fun _ => refused

variable {runtime : RuntimeState}

theorem ensures_writeSnapshot_iff {definition : WorkflowDefinition}
    {returns : Unit → TaskDirectory → Prop} (checked : directory.Checked taskId)
    (named : definition.task.taskId = taskId) (revised : definition = directory.definition ∨
      directory.definition.revision < definition.revision)
    (written : assertSnapshot definition runtime = .ok () →
      returns () { directory with definition := definition, runtime := runtime })
    (rejected : assertSnapshot definition runtime ≠ .ok () → ∀ error, throws error directory) :
    (writeSnapshot definition runtime).Ensures returns throws directory := by
  simp only [writeSnapshot, ensures_bind, ensures_ofExcept]
  refine ⟨fun _ passed => ?_, fun error threw => rejected (fun passed => ?_) error⟩
  · refine ensures_loadSnapshot_iff (fun _ => ?_) fun refused => absurd (named ▸ checked) refused
    rw [ensures_check, ensures_check]
    have forwards : directory.definition.revision ≤ definition.revision := by
      rcases revised with rfl | later
      · exact Nat.le_refl _
      · exact Nat.le_of_lt later
    have incremented : definition.revision ≠ directory.definition.revision ∨
        definition = directory.definition := by
      rcases revised with same | later
      · exact Or.inr same
      · exact Or.inl (Nat.ne_of_gt later)
    refine ⟨fun _ => ⟨fun _ => ?_, fun refused => absurd incremented refused⟩,
      fun refused => absurd forwards refused⟩
    rw [ensures_modify]
    exact written passed
  · rw [passed] at threw
    cases threw

theorem ensures_writeSnapshot {definition : WorkflowDefinition} {returns : Unit → TaskDirectory → Prop}
    (written : returns () { directory with definition := definition, runtime := runtime })
    (refused : ∀ error, throws error directory) :
    (writeSnapshot definition runtime).Ensures returns throws directory := by
  simp only [writeSnapshot, ensures_bind, ensures_ofExcept]
  refine ⟨fun _ _ => ?_, fun error _ => refused error⟩
  refine ensures_loadSnapshot (fun _ => ?_) refused
  simp only [ensures_check, ensures_modify]
  exact ⟨fun _ => ⟨fun _ => written, fun _ => refused _⟩, fun _ => refused _⟩

end Rules

end Zero3Pilot.Execution
