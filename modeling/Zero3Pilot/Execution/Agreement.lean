import Zero3Pilot.Execution.Replay

/-! # Agreement in every run

Runtime and reporter together, with crashes: as long as no operation is executed on a task whose
ledger is ahead of its snapshot, a snapshot that needs no replay agrees with its ledger, and the
effect of an accepted report is in the snapshot. An operation that is executed on such a task makes
the snapshot count its own events, and with them the earlier ones it has never seen. -/

namespace Zero3Pilot.Execution

open Procedure (ensures_bind ensures_fail ensures_pure)

/-! ## Statements -/

/-- **The effect of a report is in the snapshot**, unless that counts a later event about the step. -/
def Reflected (directory : TaskDirectory) (reportId : String) (type : ReportType) : Prop :=
  ∃ event ∈ directory.events, event.eventId = reportEventId reportId ∧ event.type = type.eventType ∧
    event.sequence ≤ directory.runtime.task.lastEventSequence ∧
    ∀ status ∈ type.effect, ∃ stepId, event.stepId = some stepId ∧
      ((∃ step, directory.runtime.step? stepId = some step ∧ step.status = status) ∨
        ∃ later ∈ directory.events, later.isAbout stepId = true ∧ event.sequence < later.sequence ∧
          later.sequence ≤ directory.runtime.task.lastEventSequence)

def ForTasksOf (store : ExecutionStore) (operation : Operation) (holds : TaskDirectory → Prop) :
    Prop :=
  match operation.taskId? with
  | some taskId => ∀ directory ∈ storedTask store taskId, holds directory
  | none => ∀ entry ∈ store, holds entry.2

/-- **The condition on a step of the system**: operations meet theirs, and clients take no identifiers of
reports. -/
def Uninterrupted (system : System) : SystemInput → Prop
  | .call operation _ _ => ForTasksOf system.store operation (Settled operation) ∧
      ∀ id ∈ operation.explicitId, isReportId id = false
  | .turn index _ _ => ∀ pending ∈ system.inFlight[index]?,
      ForTasksOf system.store pending.operation (Settled pending.operation)
  | .report _ _ | .restart => True

/-- **Agreement of a system**: a snapshot that needs no replay agrees with its ledger, and the effect
of a report that is accepted next is in the snapshot. -/
structure Agreement (ports : ReporterPorts) (system : System) : Prop where
  agrees : ∀ entry ∈ system.store, ∀ taskId result after,
    reconcile taskId entry.2 = (.ok result, after) → result.needsSemanticReplay = false →
    Agrees entry.2.runtime entry.2.events
  accepted : ∀ input result, Uninterrupted system input →
    (system.step ports input).1 = .answered (.ok result) →
    ∃ directory, storedTask (system.step ports input).2.store result.taskId = some directory ∧
      Reflected directory result.reportId result.reportType

/-! ## The stored tasks -/

section Stores

variable {draw : Nat → String} {operation : Operation} {store base after : ExecutionStore}
  {directory next : TaskDirectory} {taskId : String}

theorem initialDirectory_synced (createdAt : Int) (task : TaskDefinition)
    (steps : List StepDefinition) : Synced (initialDirectory createdAt task steps) := by
  refine ⟨⟨rfl, by rintro _ ⟨⟩⟩, Nat.le_refl _, ?_, ?_, by rintro _ ⟨⟩⟩
  · rintro _ _ _ ⟨⟩
  · intro step member
    obtain ⟨defined, _, rfl⟩ := List.mem_map.1 member
    exact fun _ => rfl

theorem WorksOn.synced (base_ : WorksOn operation store base) (has : StoreHas Synced store) :
    StoreHas Synced base := by
  refine ⟨base_.distinct has.1, ?_⟩
  cases base_ with
  | found => exact has.2
  | created =>
    intro entry member
    rcases List.mem_append.1 member with old | new
    · exact has.2 entry old
    · rw [List.mem_singleton.1 new]
      exact initialDirectory_synced _ _ _

theorem WorksOn.settled (base_ : WorksOn operation store base)
    (about : ∀ id ∈ operation.taskId?, id = taskId)
    (stored : storedTask base taskId = some directory)
    (met : ForTasksOf store operation (Settled operation)) : Settled operation directory := by
  unfold ForTasksOf at met
  cases base_ with
  | found =>
    cases named : operation.taskId? with
    | some id =>
      rw [named] at met
      exact met directory (about id named ▸ stored)
    | none =>
      rw [named] at met
      unfold storedTask at stored
      split at stored
      · rename_i name _
        obtain ⟨before, later, split, _⟩ := List.lookup_eq_some_iff.1 stored
        exact met (name, directory) (by simp [split])
      · cases stored
  | created called new checked safe fresh =>
    -- nothing has been recorded of a new task
    obtain rfl := about _ (by rw [called]; rfl)
    rw [storedTask, safe] at stored
    dsimp only at stored
    rw [List.lookup_append, fresh, Option.none_or, List.lookup_cons_self] at stored
    obtain rfl := Option.some.inj stored
    refine ⟨rfl, by rintro _ _ _ ⟨⟩, fun changes => ?_⟩
    rw [called] at changes
    cases changes

theorem Returned.grown (returned : Returned draw operation directory next) :
    directory.events <+: next.events := by
  cases returned with
  | same => exact List.prefix_refl _
  | written => exact List.prefix_append _ _

theorem Threw.grown (threw : Threw draw operation directory next) :
    directory.events <+: next.events := by
  cases threw with
  | same => exact List.prefix_refl _
  | torn => exact List.prefix_append _ _

/-- **What a call leaves of the tasks**: they are in sync, and their ledgers go on. -/
structure Grown (store after : ExecutionStore) : Prop where
  has : StoreHas Synced after
  grown : ∀ entry ∈ after, ∀ before ∈ store.lookup entry.1, before.events <+: entry.2.events

theorem lookup_of_mem (distinct : (store.map (·.1)).Nodup) {entry : String × TaskDirectory}
    (member : entry ∈ store) : store.lookup entry.1 = some entry.2 := by
  induction store with
  | nil => cases member
  | cons first store ih =>
    obtain ⟨key, kept⟩ := first
    rw [List.map_cons, List.nodup_cons] at distinct
    rw [List.lookup_cons]
    rcases List.mem_cons.1 member with rfl | later
    · simp
    · have differs : (entry.1 == key) = false := by
        rw [beq_eq_false_iff_ne]
        intro same
        have isKey : entry.1 ∈ store.map (·.1) := List.mem_map_of_mem later
        exact distinct.1 (same ▸ isKey)
      rw [differs]
      exact ih distinct.2 later

theorem grown_replaceTask {name : String} (has : StoreHas Synced store)
    (base_ : WorksOn operation store base) (found : base.lookup name = some directory)
    (synced : Synced next) (grown : directory.events <+: next.events) :
    Grown store (replaceTask base name next) := by
  obtain ⟨distinct, every⟩ := base_.synced has
  have names : ((replaceTask base name next).map (·.1)).Nodup := by
    rw [names_replaceTask]
    exact distinct
  refine ⟨⟨names, fun entry member => ?_⟩, fun entry member before stored => ?_⟩
  · obtain ⟨before, isEntry, rfl⟩ := List.mem_map.1 member
    split
    · exact synced
    · exact every before isEntry
  · have isBase := base_.lookup_some stored
    have isEntry := lookup_of_mem names member
    rw [lookup_replaceTask] at isEntry
    by_cases same : entry.1 = name
    · rw [if_pos same, found] at isEntry
      obtain rfl := Option.some.inj isEntry
      rw [same] at isBase
      obtain rfl := Option.some.inj (isBase.symm.trans found)
      exact grown
    · rw [if_neg same, isBase] at isEntry
      obtain rfl := Option.some.inj isEntry
      exact List.prefix_refl _

theorem grown_filter (has : StoreHas Synced store) (keeps : String × TaskDirectory → Bool) :
    Grown store (store.filter keeps) := by
  refine ⟨⟨has.1.sublist (List.filter_sublist.map _), fun entry member => ?_⟩,
    fun entry member before stored => ?_⟩
  · exact has.2 entry (List.mem_of_mem_filter member)
  · rw [lookup_of_mem has.1 (List.mem_of_mem_filter member)] at stored
    obtain rfl := Option.some.inj stored
    exact List.prefix_refl _

/-- **One call** under the condition lets the ledgers grow. -/
theorem serve_grown (call : Operation × (Nat → String)) (has : StoreHas Synced store)
    (met : ForTasksOf store call.1 (Settled call.1)) (origin : Origin call.1) :
    (serve call).Ensures (fun _ => Grown store) (fun _ => Grown store)
      store := by
  have stored (base : ExecutionStore) (taskId name : String) (directory : TaskDirectory)
      (safe : safeId taskId "taskId" = .ok name) (found : base.lookup name = some directory) :
      storedTask base taskId = some directory := by
    rw [storedTask, safe]
    exact found
  refine (serve_effect has.1 call).mono (fun _ after effect => ?_) fun _ after effect => ?_
  · cases effect with
    | task base_ about safe found returned =>
      have settled := base_.settled about (stored _ _ _ _ safe found) met
      have synced := returned.synced settled origin ((base_.synced has).stored found)
      exact grown_replaceTask has base_ found synced.1 returned.grown
    | deleted => exact grown_filter has _
  · cases effect with
    | same =>
      have kept := grown_filter has fun _ => true
      rwa [List.filter_eq_self.2 fun _ _ => rfl] at kept
    | task base_ about safe found threw =>
      have settled := base_.settled about (stored _ _ _ _ safe found) met
      have synced := threw.synced settled origin ((base_.synced has).stored found)
      exact grown_replaceTask has base_ found synced threw.grown

/-- **An interrupted call** leaves the tasks in sync. -/
theorem Grown.interrupted (grown : Grown store after) (has : StoreHas Synced store) (kept : Nat) :
    StoreHas Synced (interrupted store after kept) := by
  constructor
  · have names : (Execution.interrupted store after kept).map (·.1) = after.map (·.1) := by
      rw [Execution.interrupted, List.map_map]
      apply List.map_congr_left
      intro entry _
      rw [Function.comp_apply]
      split <;> rfl
    rw [names]
    exact grown.has.1
  · intro entry member
    obtain ⟨now, isEntry, rfl⟩ := List.mem_map.1 member
    have synced := grown.has.2 now isEntry
    cases found : store.lookup now.1 with
    | some before =>
      obtain ⟨later, goesOn⟩ := grown.grown now isEntry before found
      have firstOnes : (now.2.events.take (before.events.length + kept)) =
          before.events ++ later.take kept := by
        rw [← goesOn, List.take_length_add_append]
      have ledger := synced.ledger.take (before.events.length + kept)
      rw [firstOnes] at ledger
      show Synced (before.interrupted now.2 kept)
      rw [TaskDirectory.interrupted, firstOnes]
      exact (has.stored found).grown ledger
    | none =>
      -- the snapshot of a new task counts no event
      refine ⟨synced.ledger.take kept, Nat.zero_le _, ?_, ?_, by rintro _ ⟨⟩⟩
      · rintro _ _ _ ⟨⟩
      · exact synced.tracked.unassigned

end Stores

/-! ## Reports -/

section Reports

variable {ports : ReporterPorts} {store : ExecutionStore} {draw : Nat → String}
  {operation : Operation} {directory : TaskDirectory} {report : Report} {ticket : Ticket}
  {assignment : Assignment}

theorem not_isScriptWhitespace {char : Char} (idChar : isIdChar char = true) :
    isScriptWhitespace char = false := by
  have small : 0x20 < char.toNat ∧ char.toNat < 0x80 := by
    simp only [isIdChar, Bool.or_eq_true, decide_eq_true_eq] at idChar
    rcases idChar with (((alphanum | rfl) | rfl) | rfl) | rfl
    · exact bounds_of_isAlphanum alphanum
    all_goals decide
  simp only [isScriptWhitespace, isCommonWhitespace, Bool.or_eq_false_iff, Bool.and_eq_false_iff,
    decide_eq_false_iff_not]
  omega

theorem explicitId_reportIdentity (valid : ∀ char ∈ report.reportId.toList, isIdChar char = true) :
    (reportIdentity ports report ticket).explicitId = some (reportEventId report.reportId) := by
  have unblank : ∀ char ∈ (reportEventId report.reportId).toList, isScriptWhitespace char = false := by
    intro char member
    rw [reportEventId, String.toList_append] at member
    have fixedPart : ("report-".toList.all fun char => !isScriptWhitespace char) = true := rfl
    rcases List.mem_append.1 member with fixed | given
    · simpa using List.all_eq_true.1 fixedPart char fixed
    · exact not_isScriptWhitespace (valid char given)
  have trimmed : scriptTrim (reportEventId report.reportId) = reportEventId report.reportId :=
    trimWith_eq_self unblank
  have nonempty : reportEventId report.reportId ≠ "" := by
    intro empty
    have chars := congrArg String.toList empty
    rw [reportEventId, String.toList_append] at chars
    cases chars
  rw [EventIdentity.explicitId, reportIdentity, Option.map_some, trimmed,
    Option.filter_some, if_pos (by simpa using nonempty)]

/-- **What is known of a report** that waits for its turn. -/
structure Begun (ports : ReporterPorts) (pending : PendingReport) : Prop where
  valid : ∀ char ∈ pending.report.reportId.toList, isIdChar char = true
  operation : ∃ ticket, reportOperation ports pending.report ticket = .ok pending.operation ∧
    ticket.taskId = pending.assignment.taskId

/-- **The operation a report becomes**, by the type of the report. -/
inductive Becomes (ports : ReporterPorts) (report : Report) (ticket : Ticket) : Operation → Prop where
  | transition (status : StepStatus) (reason : Option String) (effect : report.type.effect = some status)
      (unverified : status ≠ .verifying) (incomplete : status ≠ .completed)
      (type : transitionEvent status = report.type.eventType) :
      Becomes ports report ticket
        (.transitionStep ticket.taskId ticket.stepId status reason (reportIdentity ports report ticket))
  | progress (progress : Option NumberLiteral) (activity : Option String)
      (type : report.type = .progressUpdated) :
      Becomes ports report ticket (.recordProgress ticket.taskId ticket.stepId progress activity
          (reportIdentity ports report ticket))
  | artifact (members : List (String × Json)) (type : report.type = .artifactProduced) :
      Becomes ports report ticket (.recordArtifact ticket.taskId ticket.stepId (.object members)
          (reportIdentity ports report ticket))
  | requested (type : report.type = .completionRequested) : Becomes ports report ticket
        (.requestCompletion ticket.taskId ticket.stepId (reportIdentity ports report ticket))

theorem artifactPayload_object {payload artifact : Json}
    (described : artifactPayload ports payload = .ok artifact) : ∃ members, artifact = .object members := by
  simp only [artifactPayload, bind_ok] at described
  obtain ⟨_, _, _, _, _, _, _, _, _, _, _, _, _, _, _, _, described⟩ := described
  split at described
  all_goals
    simp only [bind_ok, pure_ok] at described
    obtain ⟨_, _, rfl⟩ := described
    exact ⟨_, rfl⟩

theorem becomes_of_reportOperation (made : reportOperation ports report ticket = .ok operation) :
    Becomes ports report ticket operation := by
  unfold reportOperation at made
  cases type : report.type with
  | sessionStarted =>
    rw [type] at made
    cases made
    exact .transition .running none (by rw [type]; rfl) (by decide) (by decide) (by rw [type]; rfl)
  | progressUpdated =>
    rw [type] at made
    simp only [bind_ok, pure_ok] at made
    obtain ⟨progress, _, activity, _, rfl⟩ := made
    exact .progress _ _ type
  | artifactProduced =>
    rw [type] at made
    simp only [bind_ok, pure_ok] at made
    obtain ⟨artifact, described, rfl⟩ := made
    obtain ⟨members, rfl⟩ := artifactPayload_object described
    exact .artifact members type
  | blocked =>
    rw [type] at made
    simp only [bind_ok, pure_ok] at made
    obtain ⟨reason, _, rfl⟩ := made
    exact .transition .blocked _ (by rw [type]; rfl) (by decide) (by decide) (by rw [type]; rfl)
  | waitingHuman =>
    rw [type] at made
    simp only [bind_ok, pure_ok] at made
    obtain ⟨reason, _, rfl⟩ := made
    exact .transition .waitingHuman _ (by rw [type]; rfl) (by decide) (by decide)
      (by rw [type]; rfl)
  | completionRequested =>
    rw [type] at made
    cases made
    exact .requested type

theorem Becomes.identity (becomes : Becomes ports report ticket operation) :
    operation.identity = reportIdentity ports report ticket ∧
      operation.taskId? = some ticket.taskId := by
  cases becomes <;> exact ⟨rfl, rfl⟩

theorem Becomes.origin (becomes : Becomes ports report ticket operation) : Origin operation := by
  refine .report report.type _ (by rw [becomes.identity.1]; rfl) ?_ ?_ ?_ ?_ ?_
  · cases report.sentAt <;> simp [optionalMember]
  · simp
  · cases becomes <;> first | exact ⟨_, rfl⟩ | trivial
  · cases becomes with
    | transition status reason effect unverified incomplete type =>
      rw [← type]
      exact congrArg some (if_neg unverified)
    | progress progress activity type => rw [type]; rfl
    | artifact members type => rw [type]; rfl
    | requested type => rw [type]; rfl
  · cases becomes with
    | transition status reason effect => exact effect.symm
    | progress progress activity type => rw [type]; rfl
    | artifact members type => rw [type]; rfl
    | requested type => rw [type]; rfl

end Reports

/-! ## Answers -/

section Answers

variable {ports : ReporterPorts} {store : ExecutionStore} {draw : Nat → String}
  {operation : Operation} {directory : TaskDirectory} {report : Report} {ticket : Ticket}
  {assignment : Assignment} {result : ReportResult}

theorem requiredId_ok {value : ScriptValue} {label id : String}
    (valid : requiredId value label = .ok id) : ∀ char ∈ id.toList, isIdChar char = true := by
  simp only [requiredId, bind_ok, ensure_ok, pure_ok] at valid
  obtain ⟨_, checked, rfl⟩ := valid
  intro char member
  exact List.all_eq_true.1 checked.2.2 char member

theorem normalizeReport_ok {value : ScriptValue} (normal : normalizeReport ports value = .ok report) :
    ∀ char ∈ report.reportId.toList, isIdChar char = true := by
  simp only [normalizeReport, bind_ok] at normal
  obtain ⟨_, _, _, _, reportId, valid, _, _, _, _, _, _, _, _, normal⟩ := normal
  have chars := requiredId_ok valid
  split at normal
  · simp only [bind_ok, pure_ok, ensure_ok] at normal
    obtain ⟨_, _, _, _, _, _, rfl⟩ := normal
    exact chars
  · simp only [bind_ok, pure_ok, ensure_ok] at normal
    obtain ⟨_, _, _, _, _, _, rfl⟩ := normal
    exact chars

theorem resultFor_ok {duplicate : Bool}
    (answered : resultFor directory assignment report duplicate = .ok result) :
    result.taskId = assignment.taskId ∧ result.reportId = report.reportId ∧
      result.reportType = report.type := by
  simp only [resultFor, bind_ok, pure_ok] at answered
  obtain ⟨_, _, rfl⟩ := answered
  exact ⟨rfl, rfl, rfl⟩

/-- **The scope of a ticket** is an assignment of a stored task; nothing is written. -/
theorem findScope_stored (distinct : (store.map (·.1)).Nodup) {assignmentId : String}
    {taskIds : List String} :
    (findScope assignmentId taskIds).Ensures (fun scope after => after = store ∧
        storedTask store scope.assignment.taskId = some scope.directory)
      (fun _ after => after = store) store := by
  induction taskIds with
  | nil => exact (ensures_fail _).2 rfl
  | cons taskId taskIds ih =>
    rw [findScope, ensures_bind]
    refine ensures_inTask_iff (fun name directory safe found => ?_) fun _ _ => rfl
    have put := replaceTask_self distinct found
    refine ensures_loadSnapshot_iff (fun checked => ?_) fun _ _ => put
    rw [put]
    cases isOne : directory.runtime.assignments.find? fun item => item.assignmentId = assignmentId with
    | none => exact ih
    | some assignment =>
      simp only [ensures_bind, ensures_pure]
      refine .require (fun step _ => .require (fun runtime _ => ?_) rfl) rfl
      refine ⟨rfl, ?_⟩
      have fits := (assertSnapshot_ok.1 checked.passed).2
      rw [(fits.assignments assignment (List.mem_of_find?_eq_some isOne)).1, checked.named,
        storedTask, safe]
      exact found

theorem assertTicketScope_stored (distinct : (store.map (·.1)).Nodup) :
    (assertTicketScope ticket).Ensures
      (fun scope after => after = store ∧ scope.assignment.taskId = ticket.taskId ∧
        storedTask store scope.assignment.taskId = some scope.directory)
      (fun _ after => after = store) store := by
  simp only [assertTicketScope, ensures_bind, Procedure.ensures_read]
  refine (findScope_stored distinct).imp fun scope after kept => ?_
  obtain ⟨rfl, stored⟩ := kept
  refine .check (fun same => .check (fun _ => ?_) rfl) rfl
  cases ticket.bindingId.filter fun bindingId => bindingId ≠ "" with
  | none => exact (ensures_pure _).2 ⟨rfl, same.1, stored⟩
  | some bindingId =>
    simp only [ensures_bind, ensures_pure]
    refine .require (fun binding _ => .check (fun _ => ?_) rfl) rfl
    exact .check (fun _ => .check (fun _ => ⟨rfl, same.1, stored⟩) rfl) rfl

/-- **What the first half of a report comes to**: an answer about an event that is in the ledger and
counted, or a report that waits. -/
inductive Began (ports : ReporterPorts) (store : ExecutionStore) :
    ReportResult ⊕ PendingReport → Prop where
  | duplicate {result : ReportResult} {directory : TaskDirectory} {existing : ExecutionEvent}
      (stored : storedTask store result.taskId = some directory)
      (known : existing ∈ directory.events)
      (identified : existing.eventId = reportEventId result.reportId)
      (typed : ScriptValue.text? (existing.payload.get "reportType") = some result.reportType.text)
      (counted : existing.sequence ≤ directory.runtime.task.lastEventSequence) :
      Began ports store (.inl result)
  | pending {pending : PendingReport} (begun : Begun ports pending) :
      Began ports store (.inr pending)

theorem beginReport_began (ports : ReporterPorts) (distinct : (store.map (·.1)).Nodup) (now : Int) (value : ScriptValue) :
    (beginReport ports now value).Ensures (fun outcome _ => Began ports store outcome)
      (fun _ _ => True) store := by
  simp only [beginReport, ensures_bind]
  refine .ofExcept (fun report normal => .ofExcept (fun ticket _ => ?_) fun _ => trivial)
    fun _ => trivial
  refine .check (fun _ => .check (fun _ => ?_) trivial) trivial
  refine ((assertTicketScope_stored distinct).mono (fun _ _ => id) fun _ _ _ => trivial).imp
    fun scope after kept => ?_
  obtain ⟨rfl, sameTask, stored⟩ := kept
  cases found : scope.directory.events.find? fun event =>
      event.eventId = reportEventId report.reportId with
  | some existing =>
    simp only [ensures_bind, ensures_pure]
    refine .check (fun same => .check (fun counted => ?_) trivial) trivial
    refine .ofExcept (fun result answered => ?_) fun _ => trivial
    obtain ⟨taskId, reportId, type⟩ := resultFor_ok answered
    refine .duplicate (taskId ▸ stored) (List.mem_of_find?_eq_some found) ?_ (type ▸ same.2) counted
    rw [reportId]
    simpa using List.find?_some found
  | none =>
    simp only [ensures_bind, ensures_pure]
    refine .check (fun _ => .ofExcept (fun operation made => ?_) fun _ => trivial) trivial
    exact .pending ⟨normalizeReport_ok normal, ticket, made, sameTask.symm⟩

theorem StepStatus.text_injective {status other : StepStatus} (same : status.text = other.text) :
    status = other := by
  revert same
  cases status <;> cases other <;> decide

/-- **A duplicate** is answered about an event whose effect is in the snapshot. -/
theorem Synced.reflected (synced : Synced directory) {existing : ExecutionEvent}
    (known : existing ∈ directory.events) {reportId : String} {type : ReportType}
    (identified : existing.eventId = reportEventId reportId)
    (typed : ScriptValue.text? (existing.payload.get "reportType") = some type.text)
    (counted : existing.sequence ≤ directory.runtime.task.lastEventSequence) :
    Reflected directory reportId type := by
  have isReport : isReportId existing.eventId = true := by
    rw [identified, isReportId, reportEventId, String.toList_append]
    exact List.isPrefixOf_iff_prefix.2 (List.prefix_append _ _)
  obtain ⟨eventType, given, about⟩ := synced.ledger.typed existing known isReport type typed
  refine ⟨existing, known, identified, eventType, counted, fun status effect => ?_⟩
  rw [Option.mem_def] at effect
  rw [effect] at given about
  obtain ⟨stepId, named⟩ := Option.isSome_iff_exists.1 (about rfl)
  refine ⟨stepId, named, ?_⟩
  have isAbout : existing.isAbout stepId = true := by
    have bears : type.eventType.bearsStatus = true := by
      revert effect
      cases type <;> first | exact fun _ => rfl | rintro ⟨⟩
    rw [ExecutionEvent.isAbout, eventType, named, bears]
    simp
  -- the event is one of those the snapshot counts
  have taken := synced.ledger.mem_take known counted
  have isSome : (lastStatusEvent (directory.events.take
      directory.runtime.task.lastEventSequence) stepId).isSome := by
    rw [lastStatusEvent, Option.isSome_iff_ne_none, ne_eq, List.getLast?_eq_none_iff]
    exact List.ne_nil_of_mem (List.mem_filter.2 ⟨taken, isAbout⟩)
  obtain ⟨last, isLast⟩ := Option.isSome_iff_exists.1 isSome
  rcases (synced.ledger.take _).le_last taken isAbout isLast with rfl | later
  · obtain ⟨step, found⟩ := step?_of_mem (synced.tracked.known existing taken stepId isAbout)
    refine Or.inl ⟨step, found, ?_⟩
    have isStep := step?_stepId found
    have agrees := (synced.tracked.agrees step (List.mem_of_find?_eq_some found) existing
      (by rw [isStep]; exact isLast)).1
    exact StepStatus.text_injective (Option.some.inj (agrees.symm.trans given))
  · obtain ⟨isOne, aboutLast⟩ := lastStatusEvent_mem isLast
    refine Or.inr ⟨last, List.mem_of_mem_take isOne, aboutLast, later, ?_⟩
    have within := ((synced.ledger.take _).sequence_le isOne).2
    exact within.trans (List.length_take_le _ _)

end Answers

/-! ## Fresh reports -/

/-- **What a report leaves in its task**: its event, and the status it gives to its step. -/
structure Shows (eventId stepId : String) (type : ReportType) (runtime : RuntimeState)
    (events : List ExecutionEvent) : Prop where
  event : ∃ event ∈ events, event.eventId = eventId ∧ event.type = type.eventType ∧
    event.stepId = some stepId
  status : ∀ status ∈ type.effect, ∃ step, runtime.step? stepId = some step ∧ step.status = status

section Fresh

variable {ports : ReporterPorts} {store : ExecutionStore} {draw : Nat → String}
  {operation : Operation} {directory : TaskDirectory} {report : Report} {ticket : Ticket}
  {runtime changed : RuntimeState} {events later : List ExecutionEvent} {input : EventInput}
  {eventId taskId stepId : String} {type : ReportType} {definition : WorkflowDefinition}

theorem status_recorded {status : StepStatus}
    (shows_ : ∃ step, runtime.step? stepId = some step ∧ step.status = status)
    (about : Option String) (sequence : Nat → Nat) :
    ∃ step, (runtime.recorded about sequence).step? stepId = some step ∧ step.status = status := by
  obtain ⟨step, found, isStatus⟩ := shows_
  rw [recorded_step?, found, Option.map_some]
  refine ⟨_, rfl, ?_⟩
  split <;> exact isStatus

theorem Shows.recorded (shows_ : Shows eventId stepId type runtime events) (about : Option String)
    (sequence : Nat → Nat) (later : List ExecutionEvent) :
    Shows eventId stepId type (runtime.recorded about sequence) (events ++ later) where
  event := by
    obtain ⟨event, member, isEvent⟩ := shows_.event
    exact ⟨event, List.mem_append_left _ member, isEvent⟩
  status := fun status effect => status_recorded (shows_.status status effect) about sequence

theorem appendEvent_shows {next : RuntimeState → TaskDirectory → Prop}
    (explicit : input.explicitId = some eventId) (about : input.stepId = some stepId)
    (isType : input.type = type.eventType)
    (status : ∀ status ∈ type.effect, ∃ step, changed.step? stepId = some step ∧ step.status = status)
    (continues : ∀ recorded after, Shows eventId stepId type recorded after.events →
      next recorded after) :
    (appendEvent draw changed input).Ensures next (fun _ _ => True) directory := by
  refine ensures_appendEvent_iff (fun later sequence appended => continues _ _ ⟨?_, ?_⟩)
    fun _ _ => trivial
  · cases appended with
    | new drawn isId fresh =>
      refine ⟨_, List.mem_append_right _ (List.mem_singleton_self _), ?_, isType, about⟩
      rcases isId with given | ⟨absent, _⟩
      · exact Option.some.inj (given.symm.trans explicit)
      · cases absent.symm.trans explicit
    | repeated existing known given repeats =>
      refine ⟨existing, List.mem_append_left _ known, ?_, ?_, ?_⟩
      · exact Option.some.inj (given.symm.trans explicit)
      · exact repeats.2.2.2.1.trans isType
      · exact repeats.2.1.trans about
  · exact fun becomes effect => status_recorded (status becomes effect) _ _

theorem writeAndRead_shows (shows_ : Shows eventId stepId type runtime directory.events) :
    (writeSnapshot definition runtime).Ensures (fun _ after => (snapshot taskId).Ensures
        (fun _ after => Shows eventId stepId type after.runtime after.events) (fun _ _ => True) after)
      (fun _ _ => True) directory := by
  refine ensures_writeSnapshot ?_ fun _ => trivial
  simp only [snapshot, ensures_bind, ensures_pure]
  exact ensures_loadSnapshot (fun _ => shows_) fun _ => trivial

theorem recordAndWrite_shows (explicit : input.explicitId = some eventId)
    (about : input.stepId = some stepId) (isType : input.type = type.eventType)
    (status : ∀ status ∈ type.effect,
      ∃ step, changed.step? stepId = some step ∧ step.status = status) :
    (recordAndWrite draw definition changed input).Ensures (fun _ after => (snapshot taskId).Ensures
        (fun _ after => Shows eventId stepId type after.runtime after.events) (fun _ _ => True) after)
      (fun _ _ => True) directory := by
  rw [recordAndWrite, ensures_bind]
  refine appendEvent_shows explicit about isType status fun recorded after shows_ => ?_
  exact writeAndRead_shows ⟨shows_.event, shows_.status⟩

theorem status_updateStep {step : StepRuntime} {status : StepStatus}
    {update : StepRuntime → StepRuntime} (found : runtime.step? stepId = some step)
    (kept : ∀ step, (update step).stepId = step.stepId)
    (becomes : ∀ step, (update step).status = status) :
    ∃ step, (runtime.updateStep stepId update).step? stepId = some step ∧ step.status = status := by
  rw [updateStep_step? stepId kept, found, Option.map_some, if_pos (step?_stepId found)]
  exact ⟨_, rfl, becomes step⟩

theorem cancelWhenEnded_shows {next : RuntimeState → TaskDirectory → Prop}
    (shows_ : Shows eventId stepId type runtime directory.events)
    (continues : ∀ finished after, Shows eventId stepId type finished after.events →
      next finished after) :
    (cancelWhenEnded draw taskId runtime).Ensures next (fun _ _ => True) directory := by
  rw [cancelWhenEnded, Procedure.ensures_ite]
  refine ⟨fun _ => ?_, fun _ => (ensures_pure _).2 (continues _ _ shows_)⟩
  rw [finishTask, ensures_bind]
  refine .check (fun _ => ?_) trivial
  refine ensures_appendEvent_iff (fun later sequence _ => continues _ _ ?_) fun _ _ => trivial
  have kept : Shows eventId stepId type
      { runtime with task := { runtime.task with status := .cancelled } } directory.events :=
    ⟨shows_.event, shows_.status⟩
  exact kept.recorded _ _ _

/-- **The operation of a report** leaves its event and its status in the task. -/
theorem Becomes.shows_ (becomes : Becomes ports report ticket operation)
    (valid : ∀ char ∈ report.reportId.toList, isIdChar char = true) :
    (serve (operation, draw)).Ensures
      (fun _ after => ∃ directory, storedTask after ticket.taskId = some directory ∧
        Shows (reportEventId report.reportId) ticket.stepId report.type directory.runtime
          directory.events) (fun _ _ => True) store := by
  have explicit : (reportIdentity ports report ticket).explicitId =
      some (reportEventId report.reportId) := explicitId_reportIdentity valid
  -- what the operation leaves in the directory is stored
  have inside (procedure : TaskProcedure) (leaves : ∀ directory, procedure.Ensures
        (fun _ after => Shows (reportEventId report.reportId) ticket.stepId report.type after.runtime
          after.events) (fun _ _ => True) directory) :
      (inTask ticket.taskId procedure).Ensures
        (fun _ after => ∃ directory, storedTask after ticket.taskId = some directory ∧
          Shows (reportEventId report.reportId) ticket.stepId report.type directory.runtime
            directory.events) (fun _ _ => True) store := by
    refine ensures_inTask_iff (fun name directory safe found => ?_) fun _ _ => trivial
    refine (leaves directory).mono (fun _ after shows_ => ⟨after, ?_, shows_⟩) fun _ _ => id
    rw [storedTask, safe]
    dsimp only
    rw [lookup_replaceTask, if_pos rfl, found]
    rfl
  rw [serve]
  cases becomes with
  | transition status reason effect unverified incomplete isType =>
    refine inside _ fun directory => ?_
    simp only [transitionStep, if_neg incomplete, if_neg unverified, ensures_bind]
    refine ensures_loadSnapshot (fun _ => ?_) fun _ => trivial
    refine .require (fun step found => .check (fun _ => .check (fun _ => ?_) trivial) trivial) trivial
    refine .check (fun _ => .check (fun _ => ?_) trivial) trivial
    refine appendEvent_shows ((explicitId_eq rfl).trans explicit) rfl isType
      (fun becomes isEffect => ?_) fun recorded after shows_ => ?_
    · obtain rfl : status = becomes := Option.some.inj (effect.symm.trans isEffect)
      exact status_updateStep found (fun _ => rfl) fun _ => rfl
    · exact cancelWhenEnded_shows ⟨shows_.event, shows_.status⟩ fun finished after =>
        writeAndRead_shows
  | progress progress activity isType =>
    refine inside _ fun directory => ?_
    simp only [recordProgress, ensures_bind]
    refine ensures_loadSnapshot (fun _ => ?_) fun _ => trivial
    refine .require (fun step found => .check (fun _ => ?_) trivial) trivial
    refine .require (fun normalized _ => .check (fun _ => ?_) trivial) trivial
    refine recordAndWrite_shows ((explicitId_eq rfl).trans explicit) rfl (by rw [isType]; rfl)
      fun becomes isEffect => ?_
    rw [isType] at isEffect
    obtain rfl : StepStatus.running = becomes := Option.some.inj isEffect
    exact status_updateStep found (fun _ => rfl) fun _ => rfl
  | artifact members isType =>
    refine inside _ fun directory => ?_
    simp only [recordArtifact, ensures_bind]
    refine ensures_loadSnapshot (fun _ => .require (fun step found => ?_) trivial) fun _ => trivial
    refine recordAndWrite_shows ((explicitId_eq rfl).trans explicit) rfl (by rw [isType]; rfl) ?_
    rw [isType]
    rintro _ ⟨⟩
  | requested isType =>
    refine inside _ fun directory => ?_
    simp only [requestCompletion, ensures_bind]
    refine ensures_loadSnapshot (fun _ => .require (fun step found => ?_) trivial) fun _ => trivial
    refine .check (fun _ => .check (fun _ => .check (fun _ => ?_) trivial) trivial) trivial
    refine recordAndWrite_shows ((explicitId_eq rfl).trans explicit) rfl (by rw [isType]; rfl)
      fun becomes isEffect => ?_
    rw [isType] at isEffect
    obtain rfl : StepStatus.verifying = becomes := Option.some.inj isEffect
    exact status_updateStep found (fun _ => rfl) fun _ => rfl

theorem storedTask_has {Inv : TaskDirectory → Prop} (has : StoreHas Inv store)
    (stored : storedTask store taskId = some directory) : Inv directory := by
  unfold storedTask at stored
  split at stored
  · exact has.stored stored
  · cases stored

/-- **A call that returns** leaves a snapshot that counts all events of its task. -/
theorem serve_counts (call : Operation × (Nat → String)) (has : StoreHas Synced store)
    (met : ForTasksOf store call.1 (Settled call.1)) (origin : Origin call.1)
    (named : call.1.taskId? = some taskId) (kept : call.1 ≠ .deleteTask taskId) :
    (serve call).Ensures (fun _ after => ∀ directory ∈ storedTask after taskId,
      directory.runtime.task.lastEventSequence = directory.events.length) (fun _ _ => True)
      store := by
  refine (serve_effect has.1 call).mono (fun _ after effect => ?_) fun _ _ _ => trivial
  cases effect with
  | @task base _ name found_ next base_ about safe found returned =>
    obtain rfl := about taskId named
    intro directory stored
    have before : storedTask base taskId = some found_ := by
      rw [storedTask, safe]
      exact found
    rw [Option.mem_def, storedTask, safe] at stored
    dsimp only at stored
    rw [lookup_replaceTask, if_pos rfl, found] at stored
    obtain rfl := Option.some.inj stored
    exact (returned.synced (base_.settled about before met) origin
      ((base_.synced has).stored found)).2
  | deleted called =>
    rw [called] at named kept
    exact absurd (congrArg Operation.deleteTask (Option.some.inj named)) kept

/-- **A fresh report** is answered when its effect is in the snapshot. -/
theorem finishReport_reflected (draw : Nat → String) {pending : PendingReport} (begun : Begun ports pending)
    (has : StoreHas Synced store)
    (met : ForTasksOf store pending.operation (Settled pending.operation)) :
    (finishReport draw pending).Ensures (fun result after => ∃ directory,
      storedTask after result.taskId = some directory ∧
        Reflected directory result.reportId result.reportType) (fun _ _ => True) store := by
  obtain ⟨ticket, made, sameTask⟩ := begun.operation
  have becomes := becomes_of_reportOperation made
  have kept : pending.operation ≠ .deleteTask ticket.taskId := by
    intro deletes
    rw [deletes] at becomes
    cases becomes
  have counts := serve_counts (pending.operation, draw) has met becomes.origin
    becomes.identity.2 kept
  have grown := serve_grown (pending.operation, draw) has met becomes.origin
  rw [finishReport, ensures_bind]
  refine (((becomes.shows_ begun.valid).and counts).and grown).mono (fun reply after kept => ?_)
    fun _ _ _ => trivial
  obtain ⟨⟨⟨directory, stored, shows_⟩, counted⟩, grown⟩ := kept
  cases reply with
  | snapshot answer =>
    refine .ofExcept (fun result answered => ?_) fun _ => trivial
    obtain ⟨taskId, reportId, type⟩ := resultFor_ok answered
    refine ⟨directory, by rw [taskId, ← sameTask]; exact stored, ?_⟩
    rw [reportId, type]
    obtain ⟨event, member, identified, isType, about⟩ := shows_.event
    refine ⟨event, member, identified, isType, ?_, fun status effect => ?_⟩
    · rw [counted directory stored]
      exact ((storedTask_has grown.has stored).ledger.sequence_le member).2
    · exact ⟨ticket.stepId, about, Or.inl (shows_.status status effect)⟩
  | _ => exact (ensures_fail _).2 trivial

end Fresh

/-! ## The system -/

section Runs

variable {ports : ReporterPorts} {system : System}

/-- **The invariant of the system.** -/
structure Steady (ports : ReporterPorts) (system : System) : Prop where
  store : StoreHas Synced system.store
  pending : ∀ pending ∈ system.inFlight, Begun ports pending

theorem Steady.execute {α : Type} {procedure : Procedure ExecutionStore String α}
    {crash : Option Nat} {answer : Except String α → SystemOutput} (steady : Steady ports system)
    (call : Operation × (Nat → String))
    (ran : (procedure system.store).2 = (serve call system.store).2)
    (met : ForTasksOf system.store call.1 (Settled call.1)) (origin : Origin call.1) :
    Steady ports (system.execute procedure crash answer).2 := by
  have grown : Grown system.store (procedure system.store).2 := by
    rw [ran]
    exact Procedure.ensures_state.1 (serve_grown call steady.store met origin)
  unfold System.execute
  cases crash with
  | none => exact ⟨grown.has, steady.pending⟩
  | some kept => exact ⟨grown.interrupted steady.store kept, by rintro _ ⟨⟩⟩

theorem finishReport_store (draw : Nat → String) (pending : PendingReport)
    (store : ExecutionStore) :
    (finishReport draw pending store).2 = (serve (pending.operation, draw) store).2 := by
  have same : (finishReport draw pending).Ensures
      (fun _ after => after = (serve (pending.operation, draw) store).2)
      (fun _ after => after = (serve (pending.operation, draw) store).2) store := by
    rw [finishReport, ensures_bind]
    refine (Procedure.ensures_self (serve (pending.operation, draw)) store).mono
      (fun reply after ran => ?_) fun error after ran => ?_
    · have final : after = (serve (pending.operation, draw) store).2 := by rw [ran]
      cases reply with
      | snapshot directory => exact .ofExcept (fun _ _ => final) fun _ => final
      | _ => exact (ensures_fail _).2 final
    · rw [ran]
  generalize (serve (pending.operation, draw) store).2 = final at same ⊢
  unfold Procedure.Ensures at same
  generalize finishReport draw pending store = ran at same ⊢
  obtain ⟨answer, after⟩ := ran
  cases answer <;> exact same

/-- **One step of the system** under the condition. -/
theorem System.step_steady (steady : Steady ports system) {input : SystemInput}
    (met : Uninterrupted system input) : Steady ports (system.step ports input).2 := by
  cases input with
  | call operation draw crash =>
    exact steady.execute (operation, draw) rfl met.1 (.client met.2)
  | report now value =>
    rw [System.step]
    have began := beginReport_began ports steady.store.1 now value
    unfold Procedure.Ensures at began
    generalize beginReport ports now value system.store = ran at began ⊢
    obtain ⟨outcome, after⟩ := ran
    cases outcome with
    | error error => exact steady
    | ok outcome =>
      cases began with
      | duplicate => exact steady
      | pending begun =>
        refine ⟨steady.store, fun other member => ?_⟩
        rcases List.mem_append.1 member with old | new
        · exact steady.pending other old
        · rw [List.mem_singleton.1 new]
          exact begun
  | turn index draw crash =>
    rw [System.step]
    cases found : system.inFlight[index]? with
    | none => exact steady
    | some pending =>
      have begun := steady.pending pending (List.mem_of_getElem? found)
      obtain ⟨ticket, made, -⟩ := begun.operation
      have others : Steady ports { system with inFlight := system.inFlight.eraseIdx index } :=
        ⟨steady.store, fun other member => steady.pending other (List.mem_of_mem_eraseIdx member)⟩
      exact others.execute (pending.operation, draw) (finishReport_store draw pending system.store) (met pending found)
        (becomes_of_reportOperation made).origin
  | restart => exact ⟨steady.store, by rintro _ ⟨⟩⟩

theorem reconcile_ok {taskId : String} {directory after : TaskDirectory} {result : ReconcileResult}
    (reconciled : reconcile taskId directory = (.ok result, after))
    (current : result.needsSemanticReplay = false) :
    directory.runtime.task.lastEventSequence = directory.events.length := by
  have ensured : (reconcile taskId).Ensures (fun result _ => result.needsSemanticReplay = false →
        directory.runtime.task.lastEventSequence = directory.events.length)
      (fun _ _ => True) directory := by
    simp only [reconcile, ensures_bind, ensures_pure]
    refine ensures_loadSnapshot (fun _ => .check (fun within => ?_) trivial) fun _ => trivial
    intro isCurrent
    have notBehind := of_decide_eq_false isCurrent
    omega
  exact ensured.returned reconciled current

/-- **A state with the invariant** is one in which snapshots and ledgers agree. -/
theorem Steady.agreement (steady : Steady ports system) : Agreement ports system where
  agrees := by
    intro entry member taskId result after reconciled current
    have counted := reconcile_ok reconciled current
    have tracked := (steady.store.2 entry member).tracked
    rw [counted, List.take_length] at tracked
    exact tracked.agrees
  accepted := by
    intro input result met answered
    cases input with
    | call operation draw crash =>
      rw [System.step] at answered
      unfold System.execute at answered
      cases crash <;> cases answered
    | report now value =>
      rw [System.step] at answered ⊢
      have began := beginReport_began ports steady.store.1 now value
      unfold Procedure.Ensures at began
      generalize beginReport ports now value system.store = ran at began answered ⊢
      obtain ⟨outcome, after⟩ := ran
      cases outcome with
      | error error => cases answered
      | ok outcome =>
        cases began with
        | duplicate stored known identified typed counted =>
          cases answered
          exact ⟨_, stored, (storedTask_has steady.store stored).reflected known identified
            typed counted⟩
        | pending begun => cases answered
    | turn index draw crash =>
      rw [System.step] at answered ⊢
      cases found : system.inFlight[index]? with
      | none =>
        rw [found] at answered
        cases answered
      | some pending =>
        rw [found] at answered
        unfold System.execute at answered ⊢
        cases crash with
        | some kept => cases answered
        | none =>
          have begun := steady.pending pending (List.mem_of_getElem? found)
          have reflected := finishReport_reflected draw begun steady.store (met pending found)
          unfold Procedure.Ensures at reflected
          dsimp only at answered ⊢
          generalize finishReport draw pending system.store = ran at reflected answered ⊢
          obtain ⟨outcome, after⟩ := ran
          cases answered
          exact reflected
    | restart => cases answered

end Runs

instance (runtime : RuntimeState) (events : List ExecutionEvent) :
    Decidable (Agrees runtime events) :=
  inferInstanceAs (Decidable (∀ step ∈ runtime.steps,
    ∀ event ∈ lastStatusEvent events step.stepId, _ ∧ _))

instance (operation : Operation) (directory : TaskDirectory) :
    Decidable (Settled operation directory) :=
  decidable_of_iff (directory.runtime.task.lastEventSequence = directory.events.length ∧
      (∀ id ∈ operation.explicitId, ∀ event ∈ directory.events, event.eventId = id →
        ∀ reported ∈ operation.reported?, ∀ step ∈ directory.runtime.step? reported.1,
          step.status = reported.2) ∧
      (operation.eventType? = some .stepStateChanged →
        ∀ payload ∈ operation.identity.payload, (payload.get "to").isNone = true))
    ⟨fun met => ⟨met.1, met.2.1, met.2.2⟩, fun settled => ⟨settled.1, settled.2, settled.3⟩⟩

instance (store : ExecutionStore) (operation : Operation) (holds : TaskDirectory → Prop)
    [DecidablePred holds] : Decidable (ForTasksOf store operation holds) :=
  match named : operation.taskId? with
  | some taskId =>
    decidable_of_iff (∀ directory ∈ storedTask store taskId, holds directory)
      (by rw [ForTasksOf, named])
  | none => decidable_of_iff (∀ entry ∈ store, holds entry.2) (by rw [ForTasksOf, named])

instance (system : System) (input : SystemInput) : Decidable (Uninterrupted system input) :=
  match input with
  | .call _ _ _ => inferInstanceAs (Decidable (_ ∧ _))
  | .turn index _ _ => inferInstanceAs (Decidable (∀ pending ∈ system.inFlight[index]?, _))
  | .report _ _ | .restart => inferInstanceAs (Decidable True)

/-- The ticket of the only assignment. -/
def exampleTicket : Ticket where
  ticketId := "ticket-1"
  taskId := "video-001"
  stepId := "a"
  assignmentId := "asg-7"
  executor := .gptWeb
  attempt := 1
  bindingId := none
  logicalSessionId := none
  allowedReports := [.blocked]

def examplePorts : ReporterPorts where
  verifyTicket := fun _ ticket =>
    if ticket = "zero3.ticket" then .ok exampleTicket else .error "execution reporter ticket is invalid"
  isoDate := fun _ => none
  sha256 := String.ofList
  unitNumber := fun _ => none
  coerce := fun _ => none

def blockedReport : ScriptValue :=
  some (.object
    [("protocol", .string "zero3.pilot.execution-report.v1"), ("reportId", .string "rpt-1"),
      ("assignmentId", .string "asg-7"), ("ticket", .string "zero3.ticket"),
      ("type", .string "BLOCKED"), ("payload", .object [("reason", .string "no access")])])

def assignCall : Operation := .createAssignment "7" "video-001" "a" .gptWeb none

/-- A step is assigned and reported to be blocked, which is answered again after a restart. -/
def reportedRun : List SystemInput :=
  [.call (.createTask 0 ⟨"video-001", none, "video", "produce", none, 2⟩ [exampleStep "a"]) marks none,
    .call assignCall marks none,
    .report 0 blockedReport,
    .turn 0 marks none,
    .restart,
    .report 1 blockedReport]

def interruptedRun : List SystemInput :=
  [.call (.createTask 0 ⟨"video-001", none, "video", "produce", none, 2⟩ [exampleStep "a"]) marks none,
    .call assignCall marks (some 1),
    .call (.transitionTask "video-001" .running none) marks none]

def ReconcileResult.isCurrent : Except String ReconcileResult → Bool
  | .ok result => !result.needsSemanticReplay
  | .error _ => false

end Zero3Pilot.Execution
