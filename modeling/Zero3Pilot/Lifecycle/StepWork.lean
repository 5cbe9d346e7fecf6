import Zero3Pilot.Lifecycle.Ownership

/-! # Operations on steps

What the operations of the execution runtime that the lifecycle runtime calls do to the records of
who holds a step. -/

namespace Zero3Pilot.Lifecycle

open Execution (EventIdentity ExecutionStore SessionBindingState StepDefinition StepStatus
  TaskDefinition TaskDirectory Touches replaceTask)
open Procedure (Leaves Moves ensures_bind ensures_fail ensures_focus ensures_modify ensures_pure
  ensures_read)

/-! ## The directory of a task -/

/-- **Work on a step** of a task: every step goes on. -/
structure Progresses (about : Option String) (directory after : TaskDirectory) : Prop
    extends Touches about directory after where
  marks : ∀ stepId mark, directory.mark? stepId = some mark →
    ∃ changed, after.mark? stepId = some changed ∧ Proceeds mark changed

theorem Progresses.refl (about : Option String) (directory : TaskDirectory) :
    Progresses about directory directory :=
  ⟨.refl about directory, fun _ mark marked => ⟨mark, marked, rfl, Or.inl rfl⟩⟩

theorem progresses_of_attends {directory after : TaskDirectory}
    (attends : Execution.Attends directory after) (about : Option String) :
    Progresses about directory after where
  toTouches := attends.of_attends about
  marks stepId mark marked :=
    ⟨mark, by rw [attends.others stepId (Option.some_ne_none stepId).symm, marked], rfl, Or.inl rfl⟩

theorem progresses_of_status {directory after : TaskDirectory} {stepId : String}
    {status : StepStatus} (touches : Touches (some stepId) directory after)
    (closed : status ∉ [StepStatus.ready, .fixRequired])
    (marked : after.mark? stepId =
      (directory.mark? stepId).map fun mark => { mark with status := status }) :
    Progresses (some stepId) directory after where
  toTouches := touches
  marks other mark isMark := by
    by_cases same : other = stepId
    · subst same
      rw [isMark] at marked
      exact ⟨_, marked, rfl, Or.inr closed⟩
    · have differs : (some stepId : Option String) ≠ some other :=
        fun equal => same (Option.some.inj equal).symm
      exact ⟨mark, by rw [touches.others other differs, isMark], rfl, Or.inl rfl⟩

def Holdings.withTask (holdings : Holdings) (name : String) (directory : TaskDirectory) : Holdings :=
  { holdings with
    task? := fun other => if other = name then some directory else holdings.task? other }

theorem holdings_replaceTask {state : LifecycleState} {name : String}
    {directory after : TaskDirectory} (found : state.execution.lookup name = some directory) :
    ({ state with execution := replaceTask state.execution name after } : LifecycleState).holdings =
      state.holdings.withTask name after := by
  refine congrArg (Holdings.mk state.store.rows · state.settings) ?_
  funext other
  rw [Execution.lookup_replaceTask, found]
  rfl

section Tasks

variable {taskId name : String} {about : Option String} {holdings : Holdings}
  {directory after : TaskDirectory}

theorem moved_withTask (found : holdings.task? name = some directory)
    (touches : Touches (if name = taskId then about else none) directory after) :
    Moved taskId about holdings (holdings.withTask name after) := by
  refine ⟨fun _ _ _ => rfl, fun other kept isKept => ?_⟩
  by_cases named : other = name
  · subst named
    rw [found] at isKept
    obtain rfl := Option.some.inj isKept
    exact ⟨after, if_pos rfl, touches⟩
  · exact ⟨kept, (if_neg named).trans isKept, .refl _ _⟩

theorem withTask_self (found : holdings.task? name = some directory) :
    holdings.withTask name directory = holdings := by
  refine congrArg (Holdings.mk holdings.toHeldRows · holdings.settings) ?_
  funext other
  by_cases named : other = name
  · subst named
    exact (if_pos rfl).trans found.symm
  · exact if_neg named

theorem mark?_withTask (stepId : String) :
    (holdings.withTask name after).mark? name stepId = after.mark? stepId := by
  show (if name = name then some after else holdings.task? name).bind _ = _
  rw [if_pos rfl, Option.bind_some]

theorem mark?_withTask_of_ne {other stepId : String} (differs : other ≠ name) :
    (holdings.withTask name after).mark? other stepId = holdings.mark? other stepId := by
  show (if other = name then some after else holdings.task? other).bind _ = _
  rw [if_neg differs]
  rfl

theorem mark?_of_found (found : holdings.task? name = some directory) (stepId : String) :
    holdings.mark? name stepId = directory.mark? stepId := by
  rw [Holdings.mark?, found, Option.bind_some]

theorem Progresses.worked (found : holdings.task? name = some directory)
    (progresses : Progresses (if name = taskId then about else none) directory after) :
    Worked taskId about holdings (holdings.withTask name after) where
  toMoved := moved_withTask found progresses.toTouches
  rows := rfl
  marks other stepId mark marked := by
    by_cases named : other = name
    · subst named
      rw [mark?_of_found found] at marked
      rw [mark?_withTask]
      exact progresses.marks stepId mark marked
    · rw [mark?_withTask_of_ne named]
      exact ⟨mark, marked, rfl, Or.inl rfl⟩

end Tasks

/-! ## Operations on a task -/

section Operations

variable {surroundings : Surroundings} {taskId stepId : String} {about : Option String}

section

variable (valid : IsId taskId)
include valid

theorem ensures_onTask {α : Type} {procedure : Procedure TaskDirectory String α}
    {returns : α → LifecycleState → Prop} {throws : String → LifecycleState → Prop}
    {state : LifecycleState}
    (inside : ∀ directory, state.holdings.task? taskId = some directory → procedure.Ensures
        (fun value after => ∀ changed : LifecycleState,
          changed.holdings = state.holdings.withTask taskId after → returns value changed)
        (fun error after => ∀ changed : LifecycleState,
          changed.holdings = state.holdings.withTask taskId after → throws error changed) directory)
    (refused : ∀ error, throws error state) :
    (onTask taskId procedure).Ensures returns throws state := by
  rw [onTask, onExecution, ensures_focus]
  refine Execution.ensures_inTask_iff (fun name directory safe found => ?_) fun _ => refused
  obtain rfl := valid.safe safe
  refine (inside directory found).mono (fun value after returned => ?_) fun error after threw => ?_
  · exact returned _ (holdings_replaceTask found)
  · exact threw _ (holdings_replaceTask found)

theorem onTask_worked {α : Type} {procedure : Procedure TaskDirectory String α}
    (inside : ∀ directory, procedure.Ensures (fun _ => Progresses about directory)
      (fun _ => Progresses about directory) directory) :
    Moves LifecycleState.holdings (Worked taskId about) (onTask taskId procedure) := by
  intro state
  refine ensures_onTask valid (fun directory found => ?_) fun _ => refl_of (Worked taskId about) _
  have progresses : ∀ after, Progresses about directory after → ∀ changed : LifecycleState,
      changed.holdings = state.holdings.withTask taskId after →
      Worked taskId about state.holdings changed.holdings := by
    intro after progresses changed same
    rw [same]
    exact Progresses.worked found (by rwa [if_pos rfl])
  exact (inside directory).mono (fun _ => progresses) fun _ after => progresses after

/-- **A step that makes progress** was reporting and goes on; where that fails, nothing happens. -/
theorem ensures_recordProgress (progress : NumberLiteral)
    (currentActivity : Option String) (identity : EventIdentity) (state : LifecycleState) :
    ((plainPorts surroundings).recordProgress taskId stepId progress currentActivity identity).Ensures
      (fun _ after => Worked taskId (some stepId) state.holdings after.holdings ∧
        after.holdings.mark? taskId stepId =
          (state.holdings.mark? taskId stepId).map (fun mark => { mark with status := .running }) ∧
        ∃ directory step, state.holdings.task? taskId = some directory ∧
          directory.runtime.step? stepId = some step ∧
          step.status ∈ [StepStatus.dispatching, .running, .waitingReport, .fixRequired])
      (fun _ after => after.holdings = state.holdings) state := by
  refine (ensures_bind _ _).2 (ensures_onTask valid (fun directory found => ?_) fun _ => rfl)
  refine Execution.recordProgress_marks
    (fun _ after step isFound reporting _ touches marked changed same => ?_) fun error changed same => ?_
  · refine (ensures_pure _).2 ⟨?_, ?_, directory, step, found, isFound, reporting⟩
    · rw [same]
      refine Progresses.worked found ?_
      rw [if_pos rfl]
      exact progresses_of_status touches (by decide) marked
    · rw [same, mark?_withTask, mark?_of_found found]
      exact marked
  · rw [same, withTask_self found]

theorem recordArtifact_worked (artifact : Json) (identity : EventIdentity) :
    Moves LifecycleState.holdings (Worked taskId (some stepId))
      ((plainPorts surroundings).recordArtifact taskId stepId artifact identity) := by
  refine Moves.bind (onTask_worked valid fun directory => ?_) fun _ => .pure ()
  refine Execution.recordArtifact_marks (fun _ after _ touches marked => ⟨touches, ?_⟩)
    fun _ => .refl _ _
  intro other mark isMark
  by_cases same : other = stepId
  · exact ⟨mark, by rw [same, marked, ← same, isMark], rfl, Or.inl rfl⟩
  · have differs : (some stepId : Option String) ≠ some other :=
      fun equal => same (Option.some.inj equal).symm
    exact ⟨mark, by rw [touches.others other differs, isMark], rfl, Or.inl rfl⟩

theorem requestCompletion_worked (identity : EventIdentity) :
    Moves LifecycleState.holdings (Worked taskId (some stepId))
      ((plainPorts surroundings).requestCompletion taskId stepId identity) := by
  refine Moves.bind (onTask_worked valid fun directory => ?_) fun _ => (readTask_leaves taskId).moves
  exact Execution.requestCompletion_marks
    (fun _ after _ touches marked => progresses_of_status touches (by decide) marked)
    fun _ => .refl _ _

theorem failStep_worked (reason : String) :
    Moves LifecycleState.holdings (Worked taskId (some stepId))
      ((plainPorts surroundings).transitionStep taskId stepId .failed reason) := by
  refine Moves.bind (onTask_worked valid fun directory => ?_) fun _ => .pure ()
  exact Execution.transitionStep_marks (Or.inl rfl)
    (fun _ after _ touches marked => progresses_of_status touches (by decide) marked)
    fun _ => .refl _ _

theorem readyStep_moved (reason : String) (state : LifecycleState) :
    ((plainPorts surroundings).transitionStep taskId stepId .ready reason).Ensures
      (fun _ after => Moved taskId (some stepId) state.holdings after.holdings ∧
        after.holdings.toHeldRows = state.holdings.toHeldRows)
      (fun _ after => after.holdings = state.holdings) state := by
  show (onTask taskId _ >>= fun _ => pure ()).Ensures _ _ _
  rw [ensures_bind]
  refine ensures_onTask valid (fun directory found => ?_) fun _ => rfl
  refine Execution.transitionStep_marks (Or.inr rfl) (fun _ after _ touches _ changed same => ?_)
    fun error changed same => ?_
  · rw [ensures_pure, same]
    exact ⟨moved_withTask found (by rwa [if_pos rfl]), rfl⟩
  · rw [same, withTask_self found]

theorem updateSessionState_worked (bindingId : String) (bindingState : SessionBindingState) :
    Moves LifecycleState.holdings (Worked taskId none)
      ((plainPorts surroundings).updateSessionState taskId bindingId bindingState) := by
  refine Moves.bind (onTask_worked valid fun directory => ?_) fun _ => .pure ()
  exact Execution.updateSessionBindingState_marks
    (fun _ after _ attends => progresses_of_attends attends none)
    fun _ after attends => progresses_of_attends attends none

theorem refreshSteps_worked (snapshot : TaskDirectory)
    (preflight : TaskDefinition → StepDefinition → Except String Execution.SkillPreflight)
    (steps : List StepDefinition) :
    Moves LifecycleState.holdings (Worked taskId none)
      (refreshSteps surroundings taskId snapshot preflight steps) := by
  induction steps with
  | nil => exact .pure ()
  | cons step steps ih =>
    refine .ite (fun _ => ih) fun _ => ?_
    apply Moves.bind (.ofExcept _)
    intro checked
    refine Moves.bind (onTask_worked valid fun directory => ?_) fun _ => ih
    exact Execution.recordSkillPreflight_marks
      (fun _ after _ attends => progresses_of_attends attends none)
      fun _ after attends => progresses_of_attends attends none

theorem refreshTask_worked :
    Moves LifecycleState.holdings (Worked taskId none) (refreshTask surroundings taskId) := by
  apply Moves.bind (readTask_leaves taskId).moves
  intro snapshot
  cases surroundings.preflight with
  | none => exact .pure ()
  | some preflight => exact refreshSteps_worked valid _ _ _

end

/-! ### Bindings -/

abbrev directories (store : ExecutionStore) (taskId : String) : Option TaskDirectory :=
  store.lookup taskId

theorem findAssignment_leaves (assignmentId : String) (taskIds : List String) :
    Leaves directories (Execution.findAssignment assignmentId taskIds) := by
  induction taskIds with
  | nil => exact .fail _
  | cons taskId taskIds ih =>
    refine Moves.bind (fun store => ?_) fun directory => .ite (fun _ => .pure _) fun _ => ih
    refine Execution.ensures_inTask_iff (fun name directory safe found => ?_) fun _ _ => rfl
    have same : directories (replaceTask store name directory) = directories store := by
      funext other
      rw [directories, Execution.lookup_replaceTask]
      by_cases named : other = name
      · rw [if_pos named, found, named, directories, found]
        rfl
      · rw [if_neg named]
    exact Execution.ensures_loadSnapshot_iff (fun _ => same) fun _ _ => same

theorem ensures_bound {uuid : String} (drawn : IsId ("bind-" ++ uuid)) (assignmentId : String)
    (input : Execution.BindExecutionSessionInput) (state : LifecycleState) :
    (onExecution (Execution.bindSession surroundings.eventUuid uuid assignmentId input)).Ensures
      (fun reply after => (∀ binding, reply = .binding binding → IsId binding.bindingId) ∧
        Worked taskId none state.holdings after.holdings)
      (fun _ after => Worked taskId none state.holdings after.holdings) state := by
  rw [onExecution, ensures_focus, Execution.bindSession, ensures_bind, ensures_read]
  have found_ : ∀ store, directories store = directories state.execution →
      ({ state with execution := store } : LifecycleState).holdings = state.holdings :=
    fun store same => congrArg (Holdings.mk state.store.rows · state.settings) same
  have unworked : ∀ store, directories store = directories state.execution →
      Worked taskId none state.holdings
        ({ state with execution := store } : LifecycleState).holdings := by
    intro store same
    rw [found_ store same]
    exact refl_of (Worked taskId none) _
  refine Moves.first (findAssignment_leaves assignmentId _) (fun found store same => ?_)
    fun _ store same => unworked store same
  refine Execution.ensures_inTask_iff (fun name directory safe isDirectory => ?_)
    fun _ _ => unworked store same
  have isTask : state.holdings.task? name = some directory :=
    (congrFun same name).symm.trans isDirectory
  have worked : ∀ after, Execution.Attends directory after → Worked taskId none state.holdings
      ({ state with execution := replaceTask store name after } : LifecycleState).holdings := by
    intro after attends
    have stored : ({ state with execution := store } : LifecycleState).execution.lookup name =
        some directory := isDirectory
    have changed : ({ state with execution := replaceTask store name after } :
        LifecycleState).holdings =
          ({ state with execution := store } : LifecycleState).holdings.withTask name after :=
      holdings_replaceTask stored
    rw [found_ store same] at changed
    rw [changed]
    exact Progresses.worked isTask (progresses_of_attends attends _)
  refine Execution.bindTaskSession_marks (fun binding after _ attends isBinding => ?_)
    fun _ after attends => worked after attends
  refine ⟨?_, worked after attends⟩
  rintro other ⟨⟩
  rw [isBinding]
  exact drawn

/-- **A session that is bound** is no work. -/
theorem ensures_bindSession (assignmentId : String) (input : Execution.BindExecutionSessionInput)
    (state : LifecycleState) :
    ((plainPorts surroundings).bindSession assignmentId input).Ensures
      (fun binding after => IsId binding.bindingId ∧
        Worked taskId none state.holdings after.holdings)
      (fun _ after => Worked taskId none state.holdings after.holdings) state := by
  refine (ensures_bind _ _).2 ?_
  rw [drawUuid, ensures_bind, ensures_read, ensures_bind, ensures_modify, ensures_pure]
  refine (ensures_bind _ _).2 ?_
  have drawn : IsId ("bind-" ++ (surroundings.uuid state.drawn).text) :=
    isId_drawn (by decide) (by decide) _
  refine (ensures_bound drawn assignmentId input { state with drawn := state.drawn + 1 }).imp
    fun reply after ensured => ?_
  cases reply with
  | binding binding => exact (ensures_pure _).2 ⟨ensured.1 binding rfl, ensured.2⟩
  | snapshot directory | plan plan | assignment assignment | deleted => exact (ensures_fail _).2 ensured.2

/-! ### Assignments -/

/-- **A step that was assigned**: the rows stay, no other step is touched, and nothing was recorded as
work. -/
structure Assigns (taskId stepId : String) (before after : Holdings) : Prop
    extends Moved taskId (some stepId) before after where
  rows : after.toHeldRows = before.toHeldRows
  ready : ∃ mark, before.mark? taskId stepId = some mark ∧
    mark.status ∈ [StepStatus.ready, .fixRequired]
  dispatched : ∃ mark, after.mark? taskId stepId = some mark ∧ mark.status = .dispatching
  unworked : ∀ name directory changed, before.task? name = some directory →
    after.task? name = some changed → ∃ later, changed.events = directory.events ++ later ∧
      ∀ event ∈ later, event.type.isWork = false

theorem Assigns.not_acted {before after : Holdings} (assigns : Assigns taskId stepId before after)
    (name other : String) : ¬ Acted before after name other := by
  intro acted
  obtain ⟨rfl, same⟩ := assigns.toMoved.acted acted
  obtain rfl := Option.some.inj same
  obtain ⟨directory, changed, found, isChanged, acted⟩ := acted
  rcases acted with ⟨event, member, work, -⟩ | ⟨mark, marked, differs, -⟩
  · obtain ⟨later, added, idle⟩ := assigns.unworked _ directory changed found isChanged
    rw [added, List.drop_left] at member
    rw [idle event member] at work
    exact Bool.false_ne_true work
  · obtain ⟨dispatched, isDispatched, status⟩ := assigns.dispatched
    rw [mark?_of_found isChanged, marked] at isDispatched
    obtain rfl := Option.some.inj isDispatched
    exact differs status

/-- **A step is assigned**, or nothing is worked on. -/
theorem ensures_createAssignment (valid : IsId taskId) (executorId : String)
    (state : LifecycleState) :
    ((plainPorts surroundings).createAssignment taskId stepId executorId).Ensures
      (fun assignment after => IsId assignment.assignmentId ∧
        Assigns taskId stepId state.holdings after.holdings ∧
        after.holdings.mark? taskId stepId = some ⟨.dispatching, some assignment.assignmentId⟩)
      (fun _ after => Worked taskId none state.holdings after.holdings) state := by
  refine ensures_bind _ _ |>.2 ?_
  rw [drawUuid, ensures_bind, ensures_read, ensures_bind, ensures_modify, ensures_pure]
  have drawn : IsId ("asg-" ++ (surroundings.uuid state.drawn).text) :=
    isId_drawn (by decide) (by decide) _
  generalize (surroundings.uuid state.drawn).text = uuid at drawn ⊢
  refine ensures_bind _ _ |>.2 ?_
  refine ensures_onTask valid (fun directory found => ?_) fun _ => refl_of (Worked taskId none) _
  have isTask : state.holdings.task? taskId = some directory := found
  refine Execution.createAssignment_marks
    (fun assignment after status _ definition isDrawn isStep open_ wasOpen marked others events
      changed same => ?_) fun error after attends changed same => ?_
  · refine (ensures_pure _).2 ⟨isDrawn ▸ drawn, ?_, ?_⟩
    · obtain ⟨mark, wasMark, rfl⟩ := Option.map_eq_some_iff.1 wasOpen
      obtain ⟨later, added, idle⟩ := events
      have touches : Touches (some stepId) directory after := by
        refine ⟨definition, fun other differs => others other fun equal => differs (congrArg some equal.symm),
          later, added, fun event member isWork => ?_⟩
        rw [idle event member] at isWork
        exact absurd isWork Bool.false_ne_true
      rw [same]
      refine ⟨moved_withTask isTask (by rwa [if_pos rfl]), rfl, ⟨mark, ?_, ?_⟩,
        ⟨⟨.dispatching, some assignment.assignmentId⟩, ?_, rfl⟩, ?_⟩
      · rw [mark?_of_found isTask, wasMark]
      · rcases open_ with ready | fixRequired
        · rw [ready]
          decide
        · rw [fixRequired]
          decide
      · rw [mark?_withTask, marked]
      · intro name before now isBefore isNow
        by_cases named : name = taskId
        · subst named
          rw [isTask] at isBefore
          have isAfter : some after = some now := (if_pos rfl).symm.trans isNow
          obtain rfl := Option.some.inj isBefore
          obtain rfl := Option.some.inj isAfter
          exact ⟨later, added, idle⟩
        · have kept : state.holdings.task? name = some now := (if_neg named).symm.trans isNow
          rw [isBefore] at kept
          obtain rfl := Option.some.inj kept
          exact ⟨[], (List.append_nil _).symm, fun _ member => absurd member List.not_mem_nil⟩
    · rw [same, mark?_withTask, marked]
  · rw [same]
    exact Progresses.worked isTask (progresses_of_attends attends _)

/-! ### Tasks -/

/-- **A task that is created** leaves the other tasks as they are. -/
theorem ensures_createTask {draw : Nat → String} {createdAt : Int} {task : TaskDefinition}
    {drafts : List StepDefinition} (valid : IsId task.taskId) (store : ExecutionStore) :
    (Execution.createTask draw createdAt task drafts).Ensures
      (fun _ after => store.lookup task.taskId = none ∧
        ∀ name directory, store.lookup name = some directory → after.lookup name = some directory)
      (fun _ after =>
        ∀ name directory, store.lookup name = some directory → after.lookup name = some directory)
      store := by
  have unchanged : ∀ name directory, store.lookup name = some directory →
      store.lookup name = some directory := fun _ _ found => found
  simp only [Execution.createTask, ensures_bind]
  refine .check (fun _ => .ofExcept (fun steps _ => ?_) fun _ => unchanged) unchanged
  refine .ofExcept (fun _ _ => .ofExcept (fun name safe => ?_) fun _ => unchanged) fun _ => unchanged
  obtain rfl := valid.safe safe
  rw [ensures_read]
  refine .check (fun fresh => ?_) unchanged
  rw [Procedure.ensures_write]
  generalize isBase : store ++ [(task.taskId, _)] = base
  have appended : ∀ name directory, store.lookup name = some directory →
      name ≠ task.taskId ∧ base.lookup name = some directory := by
    intro name directory found
    refine ⟨fun same => ?_, ?_⟩
    · rw [same, fresh] at found
      cases found
    · rw [← isBase, List.lookup_append, found]
      rfl
  refine Execution.ensures_inTask_iff (fun name found safe' _ => ?_) fun _ _ => fun name directory found =>
    (appended name directory found).2
  obtain rfl := valid.safe safe'
  have replaced : ∀ changed name directory, store.lookup name = some directory →
      (replaceTask base task.taskId changed).lookup name = some directory := by
    intro changed name directory isDirectory
    obtain ⟨differs, kept⟩ := appended name directory isDirectory
    rw [Execution.lookup_replaceTask, if_neg differs, kept]
  exact (Procedure.ensures_self _ _).mono (fun _ after _ => ⟨fresh, replaced after⟩)
    fun _ after _ => replaced after

theorem createTask_worked {name : String} (task : TaskDefinition) (valid : IsId task.taskId)
    (settings : TaskSettings) (steps : List StepDefinition) :
    Moves LifecycleState.holdings (Worked name none)
      ((plainPorts surroundings).createTask task settings steps) := by
  intro state
  have worked : ∀ (after : Holdings), after.toHeldRows = state.holdings.toHeldRows →
      (∀ other directory, state.holdings.task? other = some directory →
        after.settingsOf other = state.holdings.settingsOf other) →
      (∀ other directory, state.holdings.task? other = some directory →
        after.task? other = some directory) → Worked name none state.holdings after := by
    intro after rows kept tasks
    refine ⟨⟨kept, fun other directory found => ⟨directory, tasks other directory found, .refl _ _⟩⟩,
      rows, ?_⟩
    intro other stepId mark marked
    obtain ⟨directory, found, isMark⟩ := Option.bind_eq_some_iff.1 marked
    refine ⟨mark, ?_, rfl, Or.inl rfl⟩
    rw [Holdings.mark?, tasks other directory found]
    exact isMark
  refine ensures_bind _ _ |>.2 ?_
  rw [onExecution, ensures_focus]
  refine (ensures_createTask valid state.execution).mono (fun reply execution created => ?_)
    fun _ execution kept => worked _ rfl (fun _ _ _ => rfl) kept
  rw [ensures_bind, ensures_modify]
  refine (readTask_leaves task.taskId _).mono (fun _ after same => ?_) fun _ after same => ?_
  all_goals
    rw [same]
    refine worked _ rfl (fun other directory found => ?_) created.2
    have differs : (other == task.taskId) = false := by
      refine beq_false_of_ne fun equal => ?_
      have missing : state.holdings.task? other = none := equal ▸ created.1
      rw [missing] at found
      cases found
    show ((List.lookup other ((task.taskId, settings) :: state.settings)).getD _ : TaskSettings) = _
    rw [List.lookup_cons, differs]
    rfl

end Operations

end Zero3Pilot.Lifecycle
