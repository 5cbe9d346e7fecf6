import Zero3Pilot.Execution.Parallelism

/-! # Rejected operations

An operation that throws leaves the task as it was where nothing fails after its first event is in the
ledger. Three things may: an identifier that is drawn is in use already, the workflow does not pass
its checks once it is expanded, or the task must not end with the step that ends last. The snapshot
passes its checks in all other operations, since they keep what is checked. -/

namespace Zero3Pilot.Execution

open List (length_append length_map map_append map_id' map_map mem_append mem_map mem_map_of_mem
  mem_singleton nodup_append)

/-! ## The condition -/

def Operation.uuid? : Operation → Option String
  | .createAssignment uuid _ _ _ _ | .bindSession uuid _ _ => some uuid
  | _ => none

/-- The identifiers that are drawn for a call are not in use, and not given to its report. -/
structure Unused (draw : Nat → String) (operation : Operation) (directory : TaskDirectory) :
    Prop where
  events : ∀ number, directory.events.length < number → ∀ event ∈ directory.events,
    event.eventId ≠ "evt-" ++ draw number
  different : ∀ first later, directory.events.length < first → first < later →
    draw first ≠ draw later
  given : ∀ number, directory.events.length < number →
    operation.explicitId ≠ some ("evt-" ++ draw number)
  assignments : ∀ uuid ∈ operation.uuid?, ∀ assignment ∈ directory.runtime.assignments,
    assignment.assignmentId ≠ "asg-" ++ uuid
  bindings : ∀ uuid ∈ operation.uuid?, ∀ binding ∈ directory.runtime.sessionBindings,
    binding.bindingId ≠ "bind-" ++ uuid

/-- **The condition on a call** and the task it is about. -/
structure Traceless (draw : Nat → String) (operation : Operation) (directory : TaskDirectory) :
    Prop where
  unused : Unused draw operation directory
  /-- The workflow passes its checks once it is expanded. -/
  expansion : ∀ createdAt taskId drafts additions, operation = .addSteps createdAt taskId drafts →
    directory.runtime.task.status ≠ .completed ∧ directory.runtime.task.status ≠ .cancelled →
    newSteps taskId "step id already exists: " drafts
      (directory.definition.steps.map (·.stepId)) = .ok additions →
    validateExecutionWorkflowDefinition (expandedDefinition directory additions) = []
  ending : ∀ status, Ending operation directory status →
    isValidTaskTransition directory.runtime.task.status status = true

def TracelessCall (store : ExecutionStore) (call : Operation × (Nat → String)) : Prop :=
  ∀ taskId directory, (∀ id ∈ call.1.taskId?, id = taskId) →
    storedTask store taskId = some directory → Traceless call.2 call.1 directory

/-- **A call that throws leaves no trace**: the snapshots and ledgers are as they were. -/
def LeavesNoTrace (store : ExecutionStore) (call : Operation × (Nat → String)) : Prop :=
  ∀ error, (serve call store).1 = .error error → (serve call store).2 = store

/-! ## What is checked is kept -/

section Fits

variable {draw : Nat → String} {operation : Operation} {directory : TaskDirectory}
  {definition : WorkflowDefinition} {runtime changed start : RuntimeState} {input : EventInput}
  {events : List ExecutionEvent} {taskId : String}

section

variable (fits : RuntimeFits definition runtime)
include fits

theorem RuntimeFits.map {after : RuntimeState} {change : StepRuntime → StepRuntime}
    (kept : ∀ step, (change step).stepId = step.stepId ∧ (change step).taskId = step.taskId)
    (task : after.task.taskId = runtime.task.taskId) (steps : after.steps = runtime.steps.map change)
    (assignments : after.assignments = runtime.assignments)
    (bindings : after.sessionBindings = runtime.sessionBindings) : RuntimeFits definition after where
  task := task.trans fits.task
  count := by rw [steps, length_map, fits.count]
  steps := by
    rw [steps, List.forall_mem_map]
    intro step member
    rw [(kept step).1, (kept step).2]
    exact fits.steps step member
  distinct := by
    have ids : (runtime.steps.map change).map (·.stepId) = runtime.steps.map (·.stepId) := by
      rw [map_map]
      exact List.map_congr_left fun step _ => (kept step).1
    rw [steps, ids]
    exact fits.distinct
  assignments := assignments ▸ fits.assignments
  assignmentIds := assignments ▸ fits.assignmentIds
  bindings := by
    rw [bindings, assignments]
    exact fits.bindings
  bindingIds := bindings ▸ fits.bindingIds

theorem RuntimeFits.updateStep (stepId : String) {update : StepRuntime → StepRuntime}
    (kept : ∀ step, (update step).stepId = step.stepId ∧ (update step).taskId = step.taskId) :
    RuntimeFits definition (runtime.updateStep stepId update) := by
  refine fits.map (fun step => ?_) rfl rfl rfl rfl
  split
  · exact kept step
  · exact ⟨rfl, rfl⟩

theorem RuntimeFits.recorded (about : Option String)
    (sequence : Nat → Nat) : RuntimeFits definition (runtime.recorded about sequence) := by
  refine fits.map (fun step => ?_) rfl rfl rfl rfl
  split <;> exact ⟨rfl, rfl⟩

theorem RuntimeFits.assigned {assignment : Assignment}
    {task : TaskRuntime} (named : task.taskId = runtime.task.taskId)
    (about : assignment.taskId = definition.task.taskId)
    (known : assignment.stepId ∈ definition.steps.map (·.stepId))
    (fresh : ∀ other ∈ runtime.assignments, other.assignmentId ≠ assignment.assignmentId) :
    RuntimeFits definition
      { runtime with task := task, assignments := runtime.assignments ++ [assignment] } where
  task := named.trans fits.task
  count := fits.count
  steps := fits.steps
  distinct := fits.distinct
  assignments := by
    intro other member
    rcases mem_append.1 member with old | new
    · exact fits.assignments other old
    · obtain rfl := mem_singleton.1 new
      exact ⟨about, known⟩
  assignmentIds := by
    rw [map_append, nodup_append]
    refine ⟨fits.assignmentIds, List.nodup_singleton _, fun id member other isNew => ?_⟩
    obtain ⟨old, isOld, rfl⟩ := mem_map.1 member
    obtain rfl := mem_singleton.1 isNew
    exact fresh old isOld
  bindings := by
    intro binding member
    obtain ⟨sameTask, step, assigned⟩ := fits.bindings binding member
    refine ⟨sameTask, step, ?_⟩
    rw [map_append]
    exact List.mem_append_left _ assigned
  bindingIds := fits.bindingIds

theorem RuntimeFits.bound {binding : SessionBinding}
    {assignment : Assignment} (known : assignment ∈ runtime.assignments)
    (of : binding.assignmentId = assignment.assignmentId)
    (about : binding.taskId = definition.task.taskId) (step : binding.stepId = assignment.stepId)
    (fresh : ∀ other ∈ runtime.sessionBindings, other.bindingId ≠ binding.bindingId) :
    RuntimeFits definition
      { runtime with sessionBindings := runtime.sessionBindings ++ [binding] } where
  task := fits.task
  count := fits.count
  steps := fits.steps
  distinct := fits.distinct
  assignments := fits.assignments
  assignmentIds := fits.assignmentIds
  bindings := by
    intro other member
    rcases mem_append.1 member with old | new
    · exact fits.bindings other old
    · obtain rfl := mem_singleton.1 new
      refine ⟨about, ?_, ?_⟩
      · rw [step]
        exact (fits.assignments assignment known).2
      · rw [of]
        exact mem_map_of_mem known
  bindingIds := by
    rw [map_append, nodup_append]
    refine ⟨fits.bindingIds, List.nodup_singleton _, fun id member other isNew => ?_⟩
    obtain ⟨old, isOld, rfl⟩ := mem_map.1 member
    obtain rfl := mem_singleton.1 isNew
    exact fresh old isOld

theorem RuntimeFits.rebound {bindingId : String}
    {state : SessionBindingState} {binding : SessionBinding}
    (found : binding ∈ runtime.sessionBindings) (identified : binding.bindingId = bindingId) :
    RuntimeFits definition
      { runtime with
        sessionBindings := runtime.sessionBindings.map fun item =>
          if item.bindingId = bindingId then { binding with state := state } else item } where
  task := fits.task
  count := fits.count
  steps := fits.steps
  distinct := fits.distinct
  assignments := fits.assignments
  assignmentIds := fits.assignmentIds
  bindings := by
    rw [List.forall_mem_map]
    intro item member
    split
    · exact fits.bindings binding found
    · exact fits.bindings item member
  bindingIds := by
    have ids : (runtime.sessionBindings.map fun item =>
        if item.bindingId = bindingId then { binding with state := state } else item).map
          (·.bindingId) = runtime.sessionBindings.map (·.bindingId) := by
      rw [map_map]
      apply List.map_congr_left
      intro item _
      by_cases named : item.bindingId = bindingId
      · rw [Function.comp_apply, if_pos named, named, identified]
      · rw [Function.comp_apply, if_neg named]
    rw [ids]
    exact fits.bindingIds

end

theorem mem_stepIds {stepId : String} {defined : StepDefinition}
    (known : definition.step? stepId = some defined) :
    stepId ∈ definition.steps.map (·.stepId) := by
  have named : defined.stepId = stepId := by simpa using List.find?_some known
  rw [← named]
  exact mem_map_of_mem (List.mem_of_find?_eq_some known)

/-- **One change** keeps what is checked. -/
theorem Change.fits (change : Change operation directory runtime changed input)
    (unused : Unused draw operation directory)
    (sameTask : definition.task.taskId = directory.definition.task.taskId)
    (extends_ : ∀ id defined, directory.definition.step? id = some defined →
      definition.step? id = some defined)
    (fits : RuntimeFits definition runtime) : RuntimeFits definition changed := by
  cases change with
  | task => exact fits.map (fun _ => ⟨rfl, rfl⟩) rfl (map_id' _).symm rfl rfl
  | noted => exact fits
  | preflight stepId => exact fits.updateStep stepId fun _ => ⟨rfl, rfl⟩
  | assigned stepId assignment task called known found assignable budget ready identified about
      unchanged named =>
      have stepped : RuntimeFits definition (runtime.updateStep stepId fun step =>
          { step with
            status := .dispatching
            attempt := assignment.attempt
            assignmentId := some assignment.assignmentId
            blocker := none }) := fits.updateStep stepId fun _ => ⟨rfl, rfl⟩
      refine stepped.assigned named (about.1.trans sameTask.symm) ?_ fun other member => ?_
      · rw [about.2.1]
        exact mem_stepIds (extends_ _ _ known)
      · rw [identified]
        refine unused.assignments _ ?_ other (unchanged ▸ member)
        rw [called]
        rfl
  | bound called identified known of about unchanged =>
    refine fits.bound known of (about.1.trans sameTask.symm) about.2 fun other member => ?_
    rw [identified]
    refine unused.bindings _ ?_ other (unchanged ▸ member)
    rw [called]
    rfl
  | rebound bindingId state found identified => exact fits.rebound found identified
  | moved stepId => exact fits.updateStep stepId fun _ => ⟨rfl, rfl⟩

theorem newSteps_ok {error : String} {drafts steps : List StepDefinition} {known : List String}
    (new : newSteps taskId error drafts known = .ok steps) :
    (steps.map (·.stepId)).Nodup ∧ ∀ step ∈ steps, step.stepId ∉ known ∧ step.taskId = taskId := by
  induction drafts generalizing known steps with
  | nil =>
    cases new
    exact ⟨List.nodup_nil, by rintro _ ⟨⟩⟩
  | cons draft drafts ih =>
    simp only [newSteps, bind_ok, ensure_ok, pure_ok] at new
    obtain ⟨_, fresh, later, added, rfl⟩ := new
    obtain ⟨distinct, others⟩ := ih added
    refine ⟨?_, ?_⟩
    · rw [List.map_cons, List.nodup_cons]
      refine ⟨fun member => ?_, distinct⟩
      obtain ⟨step, isStep, named⟩ := mem_map.1 member
      exact (others step isStep).1 (named ▸ List.mem_cons_self)
    · rw [List.forall_mem_cons]
      refine ⟨⟨fresh, rfl⟩, fun step member => ⟨fun wasKnown => ?_, (others step member).2⟩⟩
      exact (others step member).1 (List.mem_cons_of_mem _ wasKnown)

theorem eraseDups_eq_self {ids : List String} (distinct : ids.Nodup) : ids.eraseDups = ids := by
  induction ids with
  | nil => rfl
  | cons id ids ih =>
    obtain ⟨first, distinct⟩ := List.nodup_cons.1 distinct
    have others : (ids.filter fun other => !(other == id)) = ids := by
      apply List.filter_eq_self.2
      intro other member
      have differs : other ≠ id := fun same => first (same ▸ member)
      simpa using differs
    rw [List.eraseDups_cons, others, ih distinct]

theorem eraseDups_append_length {ids new : List String} (distinct : new.Nodup)
    (fresh : ∀ id ∈ new, id ∉ ids) :
    (ids ++ new).eraseDups.length = ids.eraseDups.length + new.length := by
  have others : new.removeAll ids = new := by
    apply List.filter_eq_self.2
    intro id member
    simpa using fresh id member
  rw [List.eraseDups_append, length_append, others, eraseDups_eq_self distinct]

theorem expandedRuntime_fits {createdAt : Int} {error : String}
    {drafts additions : List StepDefinition}
    (new : newSteps directory.definition.task.taskId error drafts
      (directory.definition.steps.map (·.stepId)) = .ok additions)
    (fits : RuntimeFits directory.definition directory.runtime) :
    RuntimeFits (expandedDefinition directory additions)
      (expandedRuntime directory createdAt additions) := by
  obtain ⟨distinct, added⟩ := newSteps_ok new
  have old {id : String} (known : id ∈ directory.definition.steps.map (·.stepId)) :
      id ∈ (directory.definition.steps ++ additions).map (·.stepId) := by
    rw [map_append]
    exact List.mem_append_left _ known
  have fresh : ∀ id ∈ additions.map (·.stepId), id ∉ directory.definition.steps.map (·.stepId) := by
    intro id member
    obtain ⟨step, isStep, rfl⟩ := mem_map.1 member
    exact (added step isStep).1
  refine ⟨fits.task, ?_, ?_, ?_, ?_, fits.assignmentIds, ?_, fits.bindingIds⟩
  · show (directory.runtime.steps ++ additions.map _).length =
      ((directory.definition.steps ++ additions).map _).eraseDups.length
    rw [map_append, eraseDups_append_length distinct fresh, length_append, fits.count,
      length_map, length_map]
  · intro step member
    rcases mem_append.1 member with was | isNew
    · exact ⟨(fits.steps step was).1, old (fits.steps step was).2⟩
    · obtain ⟨defined, isDefined, rfl⟩ := mem_map.1 isNew
      refine ⟨(added defined isDefined).2, ?_⟩
      show defined.stepId ∈ (directory.definition.steps ++ additions).map (·.stepId)
      rw [map_append]
      exact List.mem_append_right _ (mem_map_of_mem isDefined)
  · show ((directory.runtime.steps ++ additions.map _).map _).Nodup
    rw [map_append, map_map, nodup_append]
    refine ⟨fits.distinct, distinct, fun id member other isNew => ?_⟩
    obtain ⟨step, isStep, rfl⟩ := mem_map.1 member
    rintro rfl
    exact fresh _ isNew (fits.steps step isStep).2
  · exact fun assignment member =>
      ⟨(fits.assignments assignment member).1, old (fits.assignments assignment member).2⟩
  · intro binding member
    obtain ⟨sameTask, step, assigned⟩ := fits.bindings binding member
    exact ⟨sameTask, old step, assigned⟩

theorem Begins.fits (begins : Begins operation directory definition start)
    (checked : directory.Checked taskId) (traceless : Traceless draw operation directory) :
    validateExecutionWorkflowDefinition definition = [] ∧ RuntimeFits definition start := by
  obtain ⟨valid, fits⟩ := assertSnapshot_ok.1 checked.passed
  cases begins with
  | plain => exact ⟨valid, fits⟩
  | expanded called new open_ named =>
    refine ⟨traceless.expansion _ _ _ _ called open_ new, ?_⟩
    subst named
    exact expandedRuntime_fits new fits

section

variable (recorded : Recording draw operation directory start runtime events)
include recorded

/-- **What is recorded** keeps what is checked. -/
theorem Recording.fits
    (begins : Begins operation directory definition start) (checked : directory.Checked taskId)
    (traceless : Traceless draw operation directory) : RuntimeFits definition runtime := by
  have sameTask : definition.task.taskId = directory.definition.task.taskId :=
    (begins.named checked).trans checked.named.symm
  induction recorded with
  | nil => exact (begins.fits checked traceless).2
  | snoc before change appended identified ih =>
    exact (change.fits traceless.unused sameTask (fun _ _ => begins.extends_) ih).recorded _ _

theorem Recording.eventIds : ∀ event ∈ events, operation.explicitId = some event.eventId ∨
      ∃ number, directory.events.length < number ∧
        number ≤ (directory.events ++ events).length ∧ event.eventId = "evt-" ++ draw number := by
  induction recorded with
  | nil => rintro _ ⟨⟩
  | @snoc _ _ events later input _ before change appended identified ih =>
    intro event member
    rcases mem_append.1 member with old | new
    · refine (ih event old).imp_right ?_
      rintro ⟨number, after, within, drawn⟩
      refine ⟨number, after, within.trans ?_, drawn⟩
      simp only [length_append]
      omega
    · cases appended with
      | new eventId isId fresh =>
        obtain rfl := mem_singleton.1 new
        rcases isId with explicit | ⟨_, drawn⟩
        · refine Or.inl ?_
          cases identified with
          | drawn drawn => cases drawn.symm.trans explicit
          | given first given => exact given.symm.trans explicit
        · refine Or.inr ⟨(directory.events ++ events).length + 1, ?_, ?_, drawn⟩
          · simp only [length_append]
            omega
          · simp only [length_append, List.length_singleton]
            omega
      | repeated => cases new

theorem Recording.drawn_fresh
    (unused : Unused draw operation directory) : ∀ event ∈ directory.events ++ events,
      event.eventId ≠ "evt-" ++ draw ((directory.events ++ events).length + 1) := by
  intro event member
  have later : directory.events.length < (directory.events ++ events).length + 1 := by
    simp only [length_append]
    omega
  rcases mem_append.1 member with old | new
  · exact unused.events _ later event old
  · rcases recorded.eventIds event new with given | ⟨number, after, within, drawn⟩
    · intro same
      exact unused.given _ later (same ▸ given)
    · rw [drawn]
      intro same
      have sameDraw : draw number = draw ((directory.events ++ events).length + 1) := by
        simpa using same
      exact unused.different _ _ after (Nat.lt_succ_of_le within) sameDraw

end

/-- **An operation that throws** under the condition has changed nothing. -/
theorem Threw.unchanged {after : TaskDirectory} (threw : Threw draw operation directory after)
    (traceless : Traceless draw operation directory) : after = directory := by
  cases threw with
  | same => rfl
  | torn archived checked begins recorded reason =>
    cases reason with
    | reused used =>
      obtain ⟨event, member, named⟩ := used
      exact absurd named (recorded.drawn_fresh traceless.unused event member)
    | unended ending invalid =>
      rw [traceless.ending _ ending] at invalid
      cases invalid
    | rejected activeStepIds failed =>
      have fits := recorded.fits begins checked traceless
      refine absurd (assertSnapshot_ok.2 ⟨(begins.fits checked traceless).1, ?_⟩) failed
      exact fits.map (fun _ => ⟨rfl, rfl⟩) rfl (map_id' _).symm rfl rfl

end Fits

/-! ## The service -/

section Service

variable {draw : Nat → String} {store : ExecutionStore}

theorem createTask_unchanged (createdAt : Int) (task : TaskDefinition)
    (drafts : List StepDefinition) :
    (createTask draw createdAt task drafts).Ensures (fun _ _ => True)
      (fun _ after => after = store) store := by
  simp only [createTask, Procedure.ensures_bind]
  refine .check (fun _ => .ofExcept (fun steps new => ?_) fun _ => rfl) rfl
  refine .ofExcept (fun _ passed => .ofExcept (fun name safe => ?_) fun _ => rfl) fun _ => rfl
  rw [Procedure.ensures_read]
  refine .check (fun fresh => ?_) rfl
  rw [Procedure.ensures_write]
  have checked : (initialDirectory createdAt task steps).Checked task.taskId := ⟨passed, rfl⟩
  obtain ⟨valid, fits⟩ := assertSnapshot_ok.1 passed
  have stored : (store ++ [(name, initialDirectory createdAt task steps)]).lookup name =
      some (initialDirectory createdAt task steps) := by
    rw [List.lookup_append, fresh]
    simp
  refine ensures_inTask_iff (fun name' directory safe' found => ?_) fun missing => ?_
  · obtain rfl : name = name' := Except.ok.inj (safe.symm.trans safe')
    obtain rfl := Option.some.inj (stored.symm.trans found)
    simp only [Procedure.ensures_bind]
    refine ensures_appendEvent_iff (fun later sequence _ => ?_) fun refused => ?_
    · have written := assertSnapshot_ok.2 ⟨valid, fits.recorded none sequence⟩
      refine ensures_writeSnapshot_iff ⟨checked.passed, checked.named⟩ rfl (Or.inl rfl) (fun _ => ?_)
        fun failed => absurd written failed
      simp only [snapshot, Procedure.ensures_bind, Procedure.ensures_pure]
      exact ensures_loadSnapshot_iff (fun _ => trivial) fun refused => absurd ⟨written, rfl⟩ refused
    · -- the ledger of a new task is empty
      rcases refused with ⟨_, _, member, _⟩ | ⟨_, member, _⟩
      · cases member
      · cases member
  · rw [storedTask, safe] at missing
    cases stored.symm.trans missing

/-- **One call** that throws under the condition leaves the store as it was. -/
theorem serve_unchanged (distinct : (store.map (·.1)).Nodup) (call : Operation × (Nat → String))
    (traceless : TracelessCall store call) :
    (serve call).Ensures (fun _ _ => True) (fun _ after => after = store) store := by
  by_cases created : ∃ createdAt task drafts, call.1 = .createTask createdAt task drafts
  · obtain ⟨operation, draw⟩ := call
    obtain ⟨createdAt, task, drafts, rfl⟩ := created
    exact createTask_unchanged createdAt task drafts
  refine (serve_effect distinct call).mono (fun _ _ _ => trivial) fun _ after effect => ?_
  cases effect with
  | same => rfl
  | @task _ taskId name directory _ base_ about safe found threw =>
    cases base_ with
    | created called => exact absurd ⟨_, _, _, called⟩ created
    | found =>
      have stored : storedTask store taskId = some directory := by
        rw [storedTask, safe]
        exact found
      rw [threw.unchanged (traceless _ _ about stored)]
      exact replaceTask_self distinct found

theorem distinct_of_run {history : List ((Operation × (Nat → String)) × Except String Reply)}
    (run : runtimeMachine.Run Machine.anyStep [] history store) : (store.map (·.1)).Nodup := by
  have empty : StoreHas (fun _ => True) [] := ⟨List.nodup_nil, by rintro _ ⟨⟩⟩
  refine And.left (run.procedure_invariant (StoreHas fun _ => True) empty fun _ call has _ => ?_)
  exact serve_storeHas call has (fun base base_ => ⟨base_.distinct has.1, fun _ _ => trivial⟩)
    (fun _ _ _ _ _ _ _ _ _ => trivial) fun _ _ _ _ _ _ _ _ _ => trivial

end Service

/-- Identifiers that differ in their length. -/
def marks (number : Nat) : String := String.ofList (List.replicate number 'x')

theorem marks_injective {first later : Nat} (same : marks first = marks later) : first = later := by
  have chars := congrArg (fun text => text.toList.length) same
  simpa [marks] using chars

def createdTask : List (Operation × (Nat → String)) :=
  [(.createTask 0 ⟨"video-001", none, "video", "produce", none, 2⟩ [exampleStep "a"], marks)]

def completionCall : Operation × (Nat → String) :=
  (.transitionTask "video-001" .completed none, marks)

def createdStore : ExecutionStore := (runtimeMachine.exec [] createdTask).2

def expansionCall : Operation × (Nat → String) :=
  (.addSteps 0 "video-001" [{ exampleStep "b" with dependsOn := ["c"] }], marks)

end Zero3Pilot.Execution
