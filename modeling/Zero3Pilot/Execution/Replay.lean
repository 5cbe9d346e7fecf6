import Zero3Pilot.Execution.Dependencies
import Zero3Pilot.Execution.Rejection
import Zero3Pilot.Execution.Reporter

/-! # Snapshot and ledger

An operation that finds the snapshot of its task up to date with the ledger keeps them together: each
step gets the status and the assignment that the last event about it gives. A snapshot that is behind
its ledger, because the operation before was interrupted, still agrees with the part of the ledger it
counts. -/

namespace Zero3Pilot.Execution

open List (append_assoc append_nil length_append mem_append mem_map mem_map_of_mem mem_singleton)

/-! ## Statements -/

def EventType.bearsStatus : EventType → Bool
  | .assignmentCreated | .stepStateChanged | .progressUpdated | .blocked | .waitingHuman
  | .outcomeUnknown | .completionRequested | .gatePassed | .gateFailed => true
  | _ => false

def ExecutionEvent.givenStatus (event : ExecutionEvent) : Option String :=
  match event.type with
  | .assignmentCreated => some StepStatus.dispatching.text
  | .stepStateChanged => ScriptValue.text? (event.payload.get "to")
  | .progressUpdated => some StepStatus.running.text
  | .blocked => some StepStatus.blocked.text
  | .waitingHuman => some StepStatus.waitingHuman.text
  | .outcomeUnknown => some StepStatus.outcomeUnknown.text
  | .completionRequested => some StepStatus.verifying.text
  | .gatePassed => some StepStatus.completed.text
  | .gateFailed => some StepStatus.fixRequired.text
  | _ => none

def ExecutionEvent.isAbout (event : ExecutionEvent) (stepId : String) : Bool :=
  event.stepId = some stepId && event.type.bearsStatus

def lastStatusEvent (events : List ExecutionEvent) (stepId : String) : Option ExecutionEvent :=
  (events.filter fun event => event.isAbout stepId).getLast?

/-- **A state agrees with a ledger**: each step has the status and the assignment that the last event
about it gives. -/
def Agrees (runtime : RuntimeState) (events : List ExecutionEvent) : Prop :=
  ∀ step ∈ runtime.steps, ∀ event ∈ lastStatusEvent events step.stepId,
    event.givenStatus = some step.status.text ∧ event.assignmentId = step.assignmentId

def ReportType.effect : ReportType → Option StepStatus
  | .sessionStarted | .progressUpdated => some .running
  | .artifactProduced => none
  | .blocked => some .blocked
  | .waitingHuman => some .waitingHuman
  | .completionRequested => some .verifying

def ReportType.eventType : ReportType → EventType
  | .sessionStarted => .stepStateChanged
  | .progressUpdated => .progressUpdated
  | .artifactProduced => .artifactProduced
  | .blocked => .blocked
  | .waitingHuman => .waitingHuman
  | .completionRequested => .completionRequested

/-- **The condition on an operation** and a task it is about. -/
structure Settled (operation : Operation) (directory : TaskDirectory) : Prop where
  current : directory.runtime.task.lastEventSequence = directory.events.length
  repeats : ∀ id ∈ operation.explicitId, ∀ event ∈ directory.events, event.eventId = id →
    ∀ reported ∈ operation.reported?, ∀ step ∈ directory.runtime.step? reported.1,
      step.status = reported.2
  unnamed : operation.eventType? = some .stepStateChanged →
    ∀ payload ∈ operation.identity.payload, (payload.get "to").isNone = true

/-- The identifiers of the events of reports. -/
def isReportId (id : String) : Bool := "report-".toList.isPrefixOf id.toList

/-! ## The invariant -/

def ReportTyped (event : ExecutionEvent) : Prop :=
  isReportId event.eventId = true → ∀ type : ReportType,
    ScriptValue.text? (event.payload.get "reportType") = some type.text →
    event.type = type.eventType ∧ event.givenStatus = type.effect.map (·.text) ∧
      (type.effect.isSome → event.stepId.isSome)

structure Ledger (events : List ExecutionEvent) : Prop where
  numbered : events.map (·.sequence) = List.range' 1 events.length
  typed : ∀ event ∈ events, ReportTyped event

def StepStatus.waits : StepStatus → Bool
  | .pending | .waitingDependency => true
  | _ => false

/-- **What holds of a state** and the events it counts. -/
structure Tracked (runtime : RuntimeState) (events : List ExecutionEvent) : Prop where
  agrees : Agrees runtime events
  unassigned : ∀ step ∈ runtime.steps, step.status.waits = true → step.assignmentId = none
  known : ∀ event ∈ events, ∀ stepId, event.isAbout stepId = true →
    stepId ∈ runtime.steps.map (·.stepId)

/-- **The invariant of a task**: its state agrees with the part of the ledger it counts. -/
structure Synced (directory : TaskDirectory) : Prop where
  ledger : Ledger directory.events
  within : directory.runtime.task.lastEventSequence ≤ directory.events.length
  tracked : Tracked directory.runtime
    (directory.events.take directory.runtime.task.lastEventSequence)

/-! ## Ledgers -/

section Ledgers

variable {events later : List ExecutionEvent} {event : ExecutionEvent} {stepId : String}

theorem lastStatusEvent_append (events : List ExecutionEvent) (event : ExecutionEvent)
    (stepId : String) : lastStatusEvent (events ++ [event]) stepId =
      if event.isAbout stepId = true then some event else lastStatusEvent events stepId := by
  rw [lastStatusEvent, List.filter_append]
  by_cases about : event.isAbout stepId = true
  · have isLast : [event].filter (fun event => event.isAbout stepId) = [event] := by simp [about]
    rw [isLast, List.getLast?_concat, if_pos about]
  · have other : [event].filter (fun event => event.isAbout stepId) = [] := by simp [about]
    rw [other, append_nil, if_neg about, lastStatusEvent]

theorem lastStatusEvent_mem (last : lastStatusEvent events stepId = some event) :
    event ∈ events ∧ event.isAbout stepId = true := by
  have member := List.mem_of_getLast? last
  rwa [List.mem_filter] at member

section

variable (ledger : Ledger events)
include ledger

theorem Ledger.sequence_le (member : event ∈ events) :
    1 ≤ event.sequence ∧ event.sequence ≤ events.length := by
  have isOne : event.sequence ∈ events.map (·.sequence) := mem_map_of_mem member
  rw [ledger.numbered, List.mem_range'_1] at isOne
  omega

theorem Ledger.mem_take (member : event ∈ events) {count : Nat}
    (counted : event.sequence ≤ count) : event ∈ events.take count := by
  rw [← List.take_append_drop count events, mem_append] at member
  refine member.resolve_right fun dropped => ?_
  have isLater : event.sequence ∈ (events.drop count).map (·.sequence) :=
    mem_map_of_mem dropped
  rw [List.map_drop, ledger.numbered, List.drop_range', List.mem_range'_1] at isLater
  omega

theorem Ledger.take (count : Nat) : Ledger (events.take count) where
  numbered := by
    rw [List.map_take, ledger.numbered]
    apply List.ext_getElem
    · simp
    · intro index _ _
      simp
  typed := fun event member => ledger.typed event (List.mem_of_mem_take member)

theorem Ledger.append (number : event.sequence = events.length + 1)
    (typed : ReportTyped event) : Ledger (events ++ [event]) where
  numbered := by
    rw [List.map_append, ledger.numbered, List.map_singleton, number, length_append,
      List.length_singleton, ← List.range'_append_1, Nat.add_comm 1]
    rfl
  typed := by
    intro other member
    rcases mem_append.1 member with old | new
    · exact ledger.typed other old
    · rw [mem_singleton.1 new]
      exact typed

theorem Ledger.le_last {last : ExecutionEvent} (member : event ∈ events)
    (about : event.isAbout stepId = true) (isLast : lastStatusEvent events stepId = some last) :
    event = last ∨ event.sequence < last.sequence := by
  have numbers : (events.map (·.sequence)).Pairwise (· < ·) := by
    rw [ledger.numbered]
    exact List.pairwise_lt_range'
  have increasing : events.Pairwise fun first second => first.sequence < second.sequence :=
    List.pairwise_map.1 numbers
  have filtered := increasing.filter fun event => event.isAbout stepId
  obtain ⟨before, split⟩ := List.getLast?_eq_some_iff.1 isLast
  have isOne : event ∈ events.filter fun event => event.isAbout stepId :=
    List.mem_filter.2 ⟨member, about⟩
  rw [split] at filtered isOne
  rcases mem_append.1 isOne with earlier | here
  · exact Or.inr ((List.pairwise_append.1 filtered).2.2 event earlier last (List.mem_singleton_self _))
  · exact Or.inl (mem_singleton.1 here)

end

end Ledgers

/-! ## One event -/

section Changes

variable {draw : Nat → String} {operation : Operation} {directory : TaskDirectory}
  {runtime changed : RuntimeState} {events : List ExecutionEvent} {event : ExecutionEvent}
  {input : EventInput} {stepId : String}

section

variable (tracked : Tracked runtime events)
include tracked

theorem Tracked.map {change : StepRuntime → StepRuntime}
    (steps : changed.steps = runtime.steps.map change)
    (kept : ∀ step ∈ runtime.steps, (change step).stepId = step.stepId ∧
      (change step).status = step.status ∧ (change step).assignmentId = step.assignmentId) :
    Tracked changed events where
  agrees := by
    intro after member
    rw [steps] at member
    obtain ⟨step, isStep, rfl⟩ := mem_map.1 member
    obtain ⟨named, status, assignment⟩ := kept step isStep
    rw [named, status, assignment]
    exact tracked.agrees step isStep
  unassigned := by
    intro after member
    rw [steps] at member
    obtain ⟨step, isStep, rfl⟩ := mem_map.1 member
    obtain ⟨-, status, assignment⟩ := kept step isStep
    rw [status, assignment]
    exact tracked.unassigned step isStep
  known := by
    have ids : (runtime.steps.map change).map (·.stepId) = runtime.steps.map (·.stepId) := by
      rw [List.map_map]
      exact List.map_congr_left fun step isStep => (kept step isStep).1
    rw [steps, ids]
    exact tracked.known

theorem Tracked.congr (steps : changed.steps = runtime.steps) : Tracked changed events :=
  tracked.map (steps.trans (List.map_id' _).symm) fun _ _ => ⟨rfl, rfl, rfl⟩

theorem Tracked.recorded (about : Option String)
    (sequence : Nat → Nat) : Tracked (runtime.recorded about sequence) events := by
  refine tracked.map rfl fun step _ => ?_
  split <;> exact ⟨rfl, rfl, rfl⟩

theorem Tracked.quiet
    (quiet : ∀ stepId, event.isAbout stepId = false) : Tracked runtime (events ++ [event]) where
  agrees := by
    intro step member last isLast
    rw [lastStatusEvent_append, quiet, if_neg Bool.false_ne_true] at isLast
    exact tracked.agrees step member last isLast
  unassigned := tracked.unassigned
  known := by
    intro other member stepId about
    rcases mem_append.1 member with old | new
    · exact tracked.known other old stepId about
    · rw [mem_singleton.1 new, quiet] at about
      cases about

end

variable {status : StepStatus}

/-- **One more event about a step**, which gets the status and the assignment the event gives. -/
theorem Tracked.given (tracked : Tracked runtime events) {update : StepRuntime → StepRuntime}
    (about : event.stepId = some stepId) (bears : event.type.bearsStatus = true)
    (given : event.givenStatus = some status.text) (known : stepId ∈ runtime.steps.map (·.stepId))
    (steps : changed.steps = (runtime.updateStep stepId update).steps)
    (kept : ∀ step, (update step).stepId = step.stepId)
    (becomes : ∀ step ∈ runtime.steps, step.stepId = stepId →
      (update step).status = status ∧ (update step).assignmentId = event.assignmentId)
    (unassigned : status.waits = true → event.assignmentId = none) :
    Tracked changed (events ++ [event]) where
  agrees := by
    intro after member last isLast
    rw [steps] at member
    obtain ⟨step, isStep, rfl⟩ := mem_map.1 member
    rw [lastStatusEvent_append] at isLast
    by_cases named : step.stepId = stepId
    · obtain ⟨isStatus, isAssignment⟩ := becomes step isStep named
      rw [if_pos named] at isLast ⊢
      have isAbout : event.isAbout (update step).stepId = true := by
        simp [ExecutionEvent.isAbout, about, bears, kept, named]
      rw [if_pos isAbout] at isLast
      obtain rfl := Option.some.inj isLast
      exact ⟨isStatus ▸ given, isAssignment.symm⟩
    · rw [if_neg named] at isLast ⊢
      have other : event.isAbout step.stepId = false := by
        simp [ExecutionEvent.isAbout, about, Ne.symm named]
      rw [other, if_neg Bool.false_ne_true] at isLast
      exact tracked.agrees step isStep last isLast
  unassigned := by
    intro after member waits
    rw [steps] at member
    obtain ⟨step, isStep, rfl⟩ := mem_map.1 member
    by_cases named : step.stepId = stepId
    · obtain ⟨isStatus, isAssignment⟩ := becomes step isStep named
      rw [if_pos named] at waits ⊢
      rw [isAssignment]
      exact unassigned (isStatus ▸ waits)
    · rw [if_neg named] at waits ⊢
      exact tracked.unassigned step isStep waits
  known := by
    intro other member id isAbout
    rw [steps, updateStep_stepIds stepId kept]
    rcases mem_append.1 member with old | new
    · exact tracked.known other old id isAbout
    · rw [mem_singleton.1 new, ExecutionEvent.isAbout, Bool.and_eq_true, decide_eq_true_eq,
        about] at isAbout
      exact Option.some.inj isAbout.1 ▸ known

theorem get_to_eventPayload {members : List (String × Json)} {identity : EventIdentity}
    (unnamed : ∀ payload, identity.payload = some payload → (payload.get "to").isNone = true) :
    (eventPayload (.object members) identity).get "to" = members.lookup "to" := by
  unfold eventPayload
  cases given : identity.payload with
  | none => rfl
  | some payload =>
    have absent := unnamed payload given
    cases payload with
    | object updates => exact get_spread_of_absent (by simpa [Json.get] using absent)
    | _ => rfl

theorem Cause.given {step : StepRuntime} (settled : Settled operation directory)
    (cause : Cause operation directory runtime step status input) (eventId : String) (sequence : Nat) :
    input.type.bearsStatus = true ∧
      (input.event eventId sequence).givenStatus = some status.text := by
  unfold ExecutionEvent.givenStatus EventInput.event
  dsimp only
  cases cause with
  | transition identity reason called loaded incomplete unverified valid ready assigned from_ type
      identified payload =>
      have isType : operation.eventType? = some (transitionEvent status) := by
        rw [called]
        exact congrArg some (if_neg unverified)
      have given : transitionEvent status = .stepStateChanged →
          ScriptValue.text? (input.payload.get "to") = some status.text := by
        intro changes
        rw [payload, get_to_eventPayload (fun brought isGiven => ?_)]
        · rfl
        · refine settled.unnamed (isType.trans (congrArg some changes)) brought ?_
          rw [called]
          exact isGiven
      rw [type]
      cases status <;> first | exact ⟨rfl, rfl⟩ | exact ⟨rfl, given rfl⟩
  | progress called loaded reporting from_ type =>
    rw [type]
    exact ⟨rfl, rfl⟩
  | requested called loaded assigned valid from_ type =>
    rw [type]
    exact ⟨rfl, rfl⟩
  | passed called loaded verifying known produced from_ type =>
    rw [type]
    exact ⟨rfl, rfl⟩
  | failed verifying from_ type =>
    rw [type]
    exact ⟨rfl, rfl⟩
  | readied waiting becomes ready from_ type own payload =>
    rw [type, payload]
    exact ⟨rfl, rfl⟩

theorem Cause.assigned {step : StepRuntime} (cause : Cause operation directory runtime step status input)
    (unassigned : step.status.waits = true → step.assignmentId = none) :
    input.assignmentId = step.assignmentId ∧ (status.waits = true → step.assignmentId = none) := by
  cases cause with
  | transition identity reason called loaded incomplete unverified valid ready assigned from_ =>
    refine ⟨from_, fun waits => unassigned ?_⟩
    -- only waiting steps get a waiting status
    generalize step.status = source at valid ⊢
    cases status <;> cases waits <;> cases source <;> first | rfl | cases valid
  | progress called loaded reporting from_ | requested called loaded assigned valid from_
  | passed called loaded verifying known produced from_ | failed verifying from_ =>
    exact ⟨from_, by rintro ⟨⟩⟩
  | readied waiting becomes ready from_ =>
    have none_ : step.assignmentId = none := by
      rcases waiting with pending | waiting
      · exact unassigned (by rw [pending]; rfl)
      · exact unassigned (by rw [waiting]; rfl)
    exact ⟨from_.trans none_.symm, fun _ => none_⟩

theorem Cause.reported {step : StepRuntime} (cause : Cause operation directory runtime step status input)
    (unowned : input.eventId ≠ none) :
    operation.reported? = some (step.stepId, status) ∧
      directory.runtime.step? step.stepId = some step := by
  cases cause with
  | transition identity reason called loaded =>
    refine ⟨?_, loaded⟩
    rw [called]
    rfl
  | progress called loaded =>
    refine ⟨?_, loaded⟩
    rw [called]
    rfl
  | requested called loaded => exact ⟨called, loaded⟩
  | passed called loaded verifying known produced from_ type own | failed verifying from_ type own
  | readied waiting becomes ready from_ type own => exact absurd own unowned

theorem eventId_ne_none (explicit : input.explicitId ≠ none) : input.eventId ≠ none := by
  intro own
  apply explicit
  rw [EventInput.explicitId, own]
  rfl

section

variable (change : Change operation directory runtime changed input)
include change

theorem Change.reported
    (explicit : input.explicitId ≠ none) (bears : input.type.bearsStatus = true) :
    ∃ step status, input.stepId = some step.stepId ∧
      operation.reported? = some (step.stepId, status) ∧
      Cause operation directory runtime step status input := by
  have unowned := eventId_ne_none explicit
  cases change with
  | task status activeStepIds blockers about own => exact absurd own unowned
  | noted type => rcases type with type | type <;> (rw [type] at bears; cases bears)
  | preflight stepId preflight blocker type own => exact absurd own unowned
  | assigned stepId assignment task called known found assignable budget ready identified about
      unchanged named sequence event => exact absurd event.2.2.2 unowned
  | bound called identified known of about unchanged type own
  | rebound bindingId state found identified type own => exact absurd own unowned
  | @moved _ stepId step status currentActivity blocker found about cause =>
    rw [← step?_stepId found] at about
    exact ⟨step, status, about, (cause.reported unowned).1, cause⟩

/-- **One change with its event**: the state agrees with the ledger afterwards. -/
theorem Change.tracked
    (settled : Settled operation directory) (distinct : (runtime.steps.map (·.stepId)).Nodup)
    (tracked : Tracked runtime events) (eventId : String) (sequence : Nat) :
    Tracked changed (events ++ [input.event eventId sequence]) := by
  have quiet (type : input.type.bearsStatus = false) :
      ∀ stepId, (input.event eventId sequence).isAbout stepId = false := by
    intro stepId
    rw [ExecutionEvent.isAbout, Bool.and_eq_false_iff]
    exact Or.inr type
  cases change with
  | task status activeStepIds blockers about =>
    refine Tracked.quiet (tracked.congr rfl) fun stepId => ?_
    rw [ExecutionEvent.isAbout, Bool.and_eq_false_iff]
    refine Or.inl ?_
    rw [EventInput.event, about]
    rfl
  | noted type =>
    refine tracked.quiet (quiet ?_)
    rcases type with type | type <;> (rw [type]; rfl)
  | preflight stepId preflight blocker type =>
    refine (tracked.map rfl fun step _ => ?_).quiet (quiet (by rw [type]; rfl))
    split <;> exact ⟨rfl, rfl, rfl⟩
  | assigned stepId assignment task called known found assignable budget ready identified about
      unchanged named counted event =>
      refine tracked.given event.1 (by rw [EventInput.event, event.2.2.1]; rfl)
        (by rw [ExecutionEvent.givenStatus, EventInput.event, event.2.2.1]) ?_ rfl (fun _ => rfl)
        (fun step _ _ => ⟨rfl, event.2.1.symm⟩) (by rintro ⟨⟩)
      rw [← step?_stepId found]
      exact mem_map_of_mem (List.mem_of_find?_eq_some found)
  | bound called identified known of about unchanged type =>
    exact Tracked.quiet (tracked.congr rfl) (quiet (by rw [type]; rfl))
  | rebound bindingId state found identified type =>
    exact Tracked.quiet (tracked.congr rfl) (quiet (by rw [type]; rfl))
  | @moved _ stepId step status currentActivity blocker found about cause =>
    have isStep := List.mem_of_find?_eq_some found
    obtain ⟨bears, given⟩ := cause.given settled eventId sequence
    obtain ⟨from_, waits⟩ := cause.assigned (tracked.unassigned step isStep)
    refine tracked.given about bears given ?_ rfl (fun _ => rfl) (fun other member named => ?_)
      fun isWaiting => from_.trans (waits isWaiting)
    · rw [← step?_stepId found]
      exact mem_map_of_mem isStep
    · rw [eq_of_step? distinct found member named]
      exact ⟨rfl, from_.symm⟩

/-- **A change whose event is in the ledger already** leaves every status as it is. -/
theorem Change.repeated
    (settled : Settled operation directory) (distinct : (runtime.steps.map (·.stepId)).Nodup)
    (explicit : input.explicitId = operation.explicitId) {existing : ExecutionEvent}
    (known : existing ∈ directory.events) (identified : input.explicitId = some existing.eventId)
    (tracked : Tracked runtime events) : Tracked changed events := by
  have unowned := eventId_ne_none (by rw [identified]; rintro ⟨⟩)
  cases change with
  | task status activeStepIds blockers about own => exact absurd own unowned
  | noted => exact tracked
  | preflight stepId preflight blocker type own => exact absurd own unowned
  | assigned stepId assignment task called known found assignable budget ready identified about
      unchanged named sequence event => exact absurd event.2.2.2 unowned
  | bound called identified known of about unchanged type own
  | rebound bindingId state found identified type own => exact absurd own unowned
  | @moved _ stepId step status currentActivity blocker found about cause =>
    obtain ⟨called, loaded⟩ := cause.reported unowned
    -- the step has the reported status already
    have same : step.status = status :=
      settled.repeats existing.eventId (explicit.symm.trans identified) existing known rfl _ called
        step loaded
    refine tracked.map rfl fun other member => ?_
    by_cases named : other.stepId = stepId
    · rw [if_pos named, eq_of_step? distinct found member named]
      exact ⟨rfl, same.symm, rfl⟩
    · rw [if_neg named]
      exact ⟨rfl, rfl, rfl⟩

end

end Changes

/-! ## All events of an operation -/

section Operations

variable {draw : Nat → String} {operation : Operation} {directory after : TaskDirectory}
  {definition : WorkflowDefinition} {start runtime : RuntimeState} {events : List ExecutionEvent}
  {input : EventInput} {taskId : String}

/-- **Whose operation it is**: one of a client, who does not take the identifiers of reports, or the
one a report becomes. -/
inductive Origin (operation : Operation) : Prop where
  | client (free : ∀ id ∈ operation.explicitId, isReportId id = false)
  | report (type : ReportType) (updates : List (String × Json))
      (brought : operation.identity.payload = some (.object updates))
      (distinct : (updates.map (·.1)).Nodup)
      (typed : ("reportType", .string type.text) ∈ updates) (described : operation.Described)
      (event : operation.eventType? = some type.eventType)
      (effect : operation.reported?.map (·.2) = type.effect)

theorem ReportType.text_injective {type other : ReportType} (same : type.text = other.text) :
    type = other := by
  revert same
  cases type <;> cases other <;> decide

theorem isReportId_drawn (uuid : String) : isReportId ("evt-" ++ uuid) = false := by
  rw [isReportId, String.toList_append]
  rfl

theorem Change.typed (change : Change operation directory runtime changed input)
    (settled : Settled operation directory) (origin : Origin operation) {eventId : String}
    (isId : input.explicitId = some eventId ∨ ∃ uuid, eventId = "evt-" ++ uuid)
    (identified : Identified operation events input) (sequence : Nat) :
    ReportTyped (input.event eventId sequence) := by
  intro isReport type named
  rcases isId with explicit | ⟨uuid, rfl⟩
  swap
  · exact absurd isReport (by rw [EventInput.event, isReportId_drawn]; decide)
  have isExplicit : input.explicitId ≠ none := by
    rw [explicit]
    rintro ⟨⟩
  cases identified with
  | drawn drawn => exact absurd drawn isExplicit
  | given first given isType payload =>
    cases origin with
    | client free =>
      have isFree := free eventId (given.symm.trans explicit)
      exact absurd isReport (Bool.eq_false_iff.1 isFree)
    | report own updates brought distinct typed described event effect =>
      -- the payload has the type of the report
      have isOwn := payload described updates brought distinct _ _ (by decide) typed
      have same : own = type := by
        rw [EventInput.event, isOwn] at named
        exact ReportType.text_injective (Option.some.inj named)
      subst same
      have eventType : input.type = own.eventType := Option.some.inj (isType.symm.trans event)
      cases isEffect : own.effect with
      | none =>
        have artifact : own = .artifactProduced := by
          revert isEffect
          cases own <;> first | exact fun _ => rfl | rintro ⟨⟩
        refine ⟨eventType, ?_, by rintro ⟨⟩⟩
        rw [ExecutionEvent.givenStatus, EventInput.event, eventType, artifact]
        rfl
      | some status =>
        have bears : input.type.bearsStatus = true := by
          rw [eventType]
          revert isEffect
          cases own <;> first | exact fun _ => rfl | rintro ⟨⟩
        obtain ⟨step, becomes, about, called, cause⟩ := change.reported isExplicit bears
        have sameStatus : becomes = status := by
          rw [called, isEffect] at effect
          exact Option.some.inj effect
        refine ⟨eventType, ?_, fun _ => ?_⟩
        · rw [(cause.given settled eventId sequence).2, sameStatus]
          rfl
        · rw [EventInput.event, about]
          rfl

theorem Change.lastEventSequence (change : Change operation directory runtime changed input) :
    changed.task.lastEventSequence = runtime.task.lastEventSequence := by
  cases change with
  | task | noted | preflight | bound | rebound | moved => rfl
  | assigned stepId assignment task called known found assignable budget ready identified about
      unchanged named sequence => exact sequence

/-- **What is recorded** keeps state and ledger together. -/
structure Follows (directory : TaskDirectory) (runtime : RuntimeState)
    (events : List ExecutionEvent) : Prop where
  ledger : Ledger (directory.events ++ events)
  counted : runtime.task.lastEventSequence = (directory.events ++ events).length
  tracked : Tracked runtime (directory.events ++ events)

theorem Recording.follows (recorded : Recording draw operation directory start runtime events)
    (settled : Settled operation directory) (origin : Origin operation)
    (distinct : (start.steps.map (·.stepId)).Nodup) (follows : Follows directory start []) :
    Follows directory runtime events := by
  induction recorded with
  | nil => exact follows
  | @snoc runtime changed events later input sequence before change appended identified ih =>
    have different := before.stepIds ▸ distinct
    have counted := change.lastEventSequence.trans ih.counted
    cases appended with
    | new eventId isId fresh =>
      have number : (input.event eventId ((directory.events ++ events).length + 1)).sequence =
          (directory.events ++ events).length + 1 := rfl
      have typed := change.typed settled origin
        (isId.imp_right fun drawn => ⟨_, drawn.2⟩) identified
        ((directory.events ++ events).length + 1)
      have grown := ih.ledger.append number typed
      rw [append_assoc] at grown
      refine ⟨grown, ?_, ?_⟩
      · show (directory.events ++ events).length + 1 = _
        rw [← append_assoc]
        generalize directory.events ++ events = counted
        rw [length_append, List.length_singleton]
      · rw [← append_assoc]
        exact (change.tracked settled different ih.tracked eventId _).recorded _ _
    | repeated existing known explicit repeats =>
      rw [append_nil]
      cases identified with
      | drawn drawn => cases drawn.symm.trans explicit
      | given first given =>
        have isOld : existing ∈ directory.events := by
          rwa [first, append_nil] at known
        have kept := change.repeated settled different given isOld explicit ih.tracked
        refine ⟨ih.ledger, ?_, kept.recorded _ _⟩
        -- the report was counted before
        have within := (ih.ledger.sequence_le known).2
        show max changed.task.lastEventSequence existing.sequence = _
        rw [counted, max_eq_left within]

theorem Begins.distinct (begins : Begins operation directory definition start)
    (checked : directory.Checked taskId) : (start.steps.map (·.stepId)).Nodup := by
  have fits := (assertSnapshot_ok.1 checked.passed).2
  cases begins with
  | plain => exact fits.distinct
  | expanded called new open_ named =>
    subst named
    exact (expandedRuntime_fits new fits).distinct

theorem Begins.follows (begins : Begins operation directory definition start)
    (checked : directory.Checked taskId) (settled : Settled operation directory)
    (synced : Synced directory) : Follows directory start [] := by
  have tracked : Tracked directory.runtime directory.events := by
    have counted := synced.tracked
    rwa [settled.current, List.take_length] at counted
  have ledger : Ledger (directory.events ++ []) := by
    rw [append_nil]
    exact synced.ledger
  cases begins with
  | plain =>
    refine ⟨ledger, ?_, ?_⟩
    · rw [append_nil]
      exact settled.current
    · rw [append_nil]
      exact tracked
  | @expanded createdAt _ _ additions called new =>
    refine ⟨ledger, ?_, ?_⟩
    · rw [append_nil]
      exact settled.current
    rw [append_nil]
    have fresh : ∀ step ∈ additions, step.stepId ∉ directory.runtime.steps.map (·.stepId) := by
      intro step isStep known
      exact ((newSteps_ok new).2 step isStep).1 ((stepIds_of_passed checked.passed _).1 known)
    refine ⟨fun step member last isLast => ?_, fun step member => ?_, fun event member id about => ?_⟩
    · rcases mem_append.1 member with old | isNew
      · exact tracked.agrees step old last isLast
      · -- no event is about a new step
        obtain ⟨defined, isDefined, rfl⟩ := mem_map.1 isNew
        obtain ⟨isEvent, isAbout⟩ := lastStatusEvent_mem isLast
        exact absurd (tracked.known last isEvent _ isAbout) (fresh defined isDefined)
    · rcases mem_append.1 member with old | isNew
      · exact tracked.unassigned step old
      · obtain ⟨defined, _, rfl⟩ := mem_map.1 isNew
        exact fun _ => rfl
    · show id ∈ (directory.runtime.steps ++ additions.map _).map _
      rw [List.map_append]
      exact List.mem_append_left _ (tracked.known event member id about)

theorem Synced.of_follows {after : TaskDirectory} (ledger : Ledger after.events)
    (counted : after.runtime.task.lastEventSequence = after.events.length)
    (tracked : Tracked after.runtime after.events) : Synced after := by
  refine ⟨ledger, Nat.le_of_eq counted, ?_⟩
  rw [counted, List.take_length]
  exact tracked

theorem Synced.grown (synced : Synced directory) {later : List ExecutionEvent} {archived : Bool}
    (ledger : Ledger (directory.events ++ later)) :
    Synced { directory with events := directory.events ++ later, archived := archived } := by
  refine ⟨ledger, ?_, ?_⟩
  · refine synced.within.trans ?_
    rw [length_append]
    omega
  · rw [List.take_append_of_le_length synced.within]
    exact synced.tracked

/-- **An operation that returns** leaves the task in sync, and its snapshot counts all events. -/
theorem Returned.synced (returned : Returned draw operation directory after)
    (settled : Settled operation directory) (origin : Origin operation) (synced : Synced directory) :
    Synced after ∧ after.runtime.task.lastEventSequence = after.events.length := by
  cases returned with
  | same => exact ⟨synced, settled.current⟩
  | written activeStepIds archived checked begins recorded passed =>
    have distinct := assertSnapshot_nodup passed
    rw [RuntimeState.withActive, recorded.stepIds] at distinct
    have follows := recorded.follows settled origin distinct (begins.follows checked settled synced)
    exact ⟨.of_follows follows.ledger follows.counted (follows.tracked.congr rfl), follows.counted⟩

/-- **An operation that throws** leaves the task in sync, its snapshot as it was. -/
theorem Threw.synced (threw : Threw draw operation directory after)
    (settled : Settled operation directory) (origin : Origin operation) (synced : Synced directory) :
    Synced after := by
  cases threw with
  | same => exact synced
  | @torn _ _ start _ _ archived checked begins recorded reason =>
    exact synced.grown (recorded.follows settled origin (begins.distinct checked)
      (begins.follows checked settled synced)).ledger

end Operations

end Zero3Pilot.Execution
