import Zero3Pilot.JobScheduler.Manager

/-! # Recovering the jobs from the log

Rebuilding the jobs from the log of a manager gives the jobs it has, except for the calls that have
logged a change and not made it yet, as long as no progress is logged for a job that has ended in the
meantime: `progress` releases the lock between its check and its append. -/

namespace Zero3Pilot.JobScheduler

open ControlPlane (BTreeMap)

/-! ## Sections -/

/-- **What a section does.** -/
inductive Ran (state : ManagerState) (action : Action) :
    Option (Except JobManagerError Answer) → ManagerState → Prop
  /-- It is not run. -/
  | blocked : Ran state action none state
  | refused (error : JobManagerError) (free : state.callers action.caller = .idle) :
      Ran state action (some (.error error)) state
  | created (kind : String) (payload : Json) (sessionId : Option String) (id : JobId)
      (append : Append) (section_ : action.section_ = .create kind payload sessionId id append)
      (free : state.callers action.caller = .idle) :
      Ran state action none
        { state.enter action.caller
            (.inserting (queuedRecord id kind payload sessionId append.at_)) with
          log := state.log ++ [append.event sessionId (.jobQueued id kind payload)] }
  | inserted (record : JobRecord) (unlocked : state.lock = none)
      (phase : state.callers action.caller = .inserting record) :
      Ran state action (some (.ok (.created record.id)))
        { state.enter action.caller .idle with jobs := state.jobs.insert record.id record }
  | checked (change : JobChange) (record : JobRecord) (unlocked : state.lock = none)
      (free : state.callers action.caller = .idle)
      (found : state.jobs[change.transition.id]? = some record)
      (allowed : record.status ∈ change.transition.allowed) :
      Ran state action none
        { state.enter action.caller (.checked change record.sessionId) with
          lock := some action.caller }
  | progressing (id : JobId) (message : String) (sessionId : Option String)
      (free : state.callers action.caller = .idle) :
      Ran state action none (state.enter action.caller (.progressing id message sessionId))
  | released (change : JobChange) (sessionId : Option String) (error : JobManagerError)
      (phase : state.callers action.caller = .checked change sessionId) :
      Ran state action (some (.error error)) { state.enter action.caller .idle with lock := none }
  | logged (change : JobChange) (sessionId : Option String) (append : Append)
      (phase : state.callers action.caller = .checked change sessionId) :
      Ran state action none
        { state.enter action.caller (.logged change append.at_) with
          log := state.log ++ [append.event sessionId change.transition.event] }
  | lost (id : JobId) (message : String) (sessionId : Option String) (error : JobManagerError)
      (phase : state.callers action.caller = .progressing id message sessionId) :
      Ran state action (some (.error error)) (state.enter action.caller .idle)
  | progressed (id : JobId) (message : String) (sessionId : Option String) (append : Append)
      (section_ : action.section_ = .append append) (landed : append.landed = .ok ())
      (phase : state.callers action.caller = .progressing id message sessionId) :
      Ran state action (some (.ok .done))
        { state.enter action.caller .idle with
          log := state.log ++ [append.event sessionId (.jobProgress id message)] }
  | changed (change : JobChange) (at_ : Int) (record : JobRecord)
      (phase : state.callers action.caller = .logged change at_)
      (found : state.jobs[change.transition.id]? = some record) :
      Ran state action (some (.ok .done))
        { state.enter action.caller .idle with
          lock := none
          jobs := state.jobs.insert change.transition.id (change.transition.apply at_ record) }

variable {jobs : BTreeMap JobRecord} {record : JobRecord}

theorem requireStatus_ok {id : JobId} {allowed : List JobStatus} {target : JobStatus}
    (required : requireStatus jobs id allowed target = .ok record) :
    jobs[id]? = some record ∧ record.status ∈ allowed := by
  simp only [requireStatus, bind_ok, orError_ok, ensure_ok] at required
  obtain ⟨found, isFound, _, isAllowed, same⟩ := required
  cases same
  exact ⟨isFound, isAllowed⟩

theorem ran (state : ManagerState) (action : Action) :
    Ran state action (runSection state action).1 (runSection state action).2 := by
  obtain ⟨caller, section_⟩ := action
  rw [runSection]
  dsimp only
  split
  · rename_i kind payload sessionId id append free
    split
    · exact .refused _ free
    · exact .created kind payload sessionId id append rfl free
  · rename_i record phase
    split
    · rename_i unlocked
      exact .inserted record unlocked phase
    · exact .blocked
  · rename_i change free
    split
    · rename_i unlocked
      split
      · exact .refused _ free
      · rename_i record required
        obtain ⟨found, allowed⟩ := requireStatus_ok required
        exact .checked change record unlocked free found allowed
    · exact .blocked
  · rename_i id message free
    split
    · split
      · exact .refused _ free
      · exact .progressing id message _ free
    · exact .blocked
  · rename_i append change sessionId phase
    split
    · exact .released change sessionId _ phase
    · exact .logged change sessionId append phase
  · rename_i append id message sessionId phase
    split
    · exact .lost id message sessionId _ phase
    · rename_i landed
      exact .progressed id message sessionId append rfl landed phase
  · rename_i change at_ phase
    split
    · exact .blocked
    · rename_i record found
      exact .changed change at_ record phase found
  · exact .blocked

/-! ## Replaying -/

theorem fromEvents_snoc (events : List Event) (event : Event) :
    fromEvents (events ++ [event]) = fromEvents events >>= fun jobs => applyEventStrict jobs event := by
  rw [fromEvents, fromEvents, List.foldlM_append]
  congr 1
  funext jobs
  show (applyEventStrict jobs event >>= pure) = applyEventStrict jobs event
  rw [bind_pure]

theorem applyChange_eq {jobId : JobId} {event : String} {allowed : List JobStatus}
    {change : JobRecord → JobRecord} (found : jobs[jobId]? = some record)
    (isAllowed : record.status ∈ allowed) :
    applyChange jobs jobId event allowed change = .ok (jobs.insert jobId (change record)) := by
  rw [applyChange, requireExisting, found]
  show (requireReplayStatus record allowed event >>= fun _ => _) = _
  rw [requireReplayStatus, ensure, if_pos isAllowed]
  rfl

theorem applyEventStrict_change {change : JobChange} {append : Append} {sessionId : Option String}
    (found : jobs[change.transition.id]? = some record)
    (isAllowed : record.status ∈ change.transition.allowed) :
    applyEventStrict jobs (append.event sessionId change.transition.event) =
      .ok (jobs.insert change.transition.id (change.transition.apply append.at_ record)) := by
  cases change with
  | start id | complete id output | fail id reason | cancel id => exact applyChange_eq found isAllowed

theorem applyEventStrict_queued {id : JobId} (kind : String) (payload : Json) (append : Append)
    (sessionId : Option String) (unknown : jobs[id]? = none) :
    applyEventStrict jobs (append.event sessionId (.jobQueued id kind payload)) =
      .ok (jobs.insert id (queuedRecord id kind payload sessionId append.at_)) := by
  show (ensure (jobs[id]?.isNone) _ >>= fun _ => _) = _
  rw [ensure, if_pos (by rw [unknown]; rfl)]
  rfl

theorem applyEventStrict_progress {id : JobId} (message : String) (append : Append)
    (sessionId : Option String) (found : jobs[id]? = some record) (isRunning : record.status = .running) :
    applyEventStrict jobs (append.event sessionId (.jobProgress id message)) = .ok jobs := by
  show (requireExisting jobs id _ >>= fun _ => _) = _
  rw [requireExisting, found]
  show (requireReplayStatus record _ _ >>= fun _ => _) = _
  rw [requireReplayStatus, ensure, if_pos (by rw [isRunning]; exact List.mem_singleton_self _)]
  rfl

/-! ## The condition -/

/-- A job has been logged. -/
def Queued (log : List Event) (id : JobId) : Prop :=
  ∃ event ∈ log, ∃ kind payload, event.kind = .jobQueued id kind payload

theorem Queued.append {log : List Event} {id : JobId} (queued : Queued log id) (event : Event) :
    Queued (log ++ [event]) id := by
  obtain ⟨found, member, isQueued⟩ := queued
  exact ⟨found, List.mem_append_left _ member, isQueued⟩

/-- A job that is created gets an identifier no other job has. -/
def FreshId (state : ManagerState) (action : Action) : Prop :=
  ∀ kind payload sessionId id append,
    action.section_ = .create kind payload sessionId id append → ¬ Queued state.log id

def IsRunning (state : ManagerState) (id : JobId) : Prop :=
  (∃ record : JobRecord, state.jobs[id]? = some record ∧ record.status = .running) ∧
    ∀ caller change at_, state.callers caller = .logged change at_ → change.transition.id ≠ id

/-- Progress is logged only while its job is still running. -/
def ProgressInTime (state : ManagerState) (action : Action) : Prop :=
  ∀ id message sessionId append, state.callers action.caller = .progressing id message sessionId →
    action.section_ = .append append → append.landed = .ok () → IsRunning state id

/-- The condition on every section. -/
def Serial (state : ManagerState) (action : Action) : Prop :=
  FreshId state action ∧ ProgressInTime state action

/-! ## The log and the jobs -/

def Phase.about : Phase → Option JobId
  | .inserting record => some record.id
  | .checked change _ => some change.transition.id
  | .logged change _ => some change.transition.id
  | _ => none

/-- The job a caller has logged something about that is still to be made. -/
def Phase.pending : Phase → Option JobId
  | .inserting record => some record.id
  | .logged change _ => some change.transition.id
  | _ => none

/-- **What holds while a caller is in a phase**, of the jobs of the manager and those of the log. -/
def Phase.Holds (jobs recovered : BTreeMap JobRecord) (lock : Option Nat) (caller : Nat) :
    Phase → Prop
  | .inserting record => recovered[record.id]? = some record ∧ jobs[record.id]? = none
  | .checked change _ => lock = some caller ∧ ∃ record, jobs[change.transition.id]? = some record ∧
      record.status ∈ change.transition.allowed
  | .logged change at_ => lock = some caller ∧ ∃ record, jobs[change.transition.id]? = some record ∧
      recovered[change.transition.id]? = some (change.transition.apply at_ record)
  | _ => True

/-- **The jobs a log describes against the jobs of the manager**, whatever the callers are about. -/
structure Agreement (state : ManagerState) (recovered : BTreeMap JobRecord) : Prop where
  replayed : fromEvents state.log = .ok recovered
  queued : ∀ id record, recovered[id]? = some record → Queued state.log id
  phases : ∀ caller, (state.callers caller).Holds state.jobs recovered state.lock caller
  once : ∀ caller other id, (state.callers caller).pending = some id →
    (state.callers other).pending = some id → caller = other
  others : ∀ id, (∀ caller, (state.callers caller).pending ≠ some id) →
    recovered[id]? = state.jobs[id]?

section Agreement

variable {state : ManagerState} {recovered recovered' jobs jobs' : BTreeMap JobRecord}
  {lock lock' : Option Nat} {phase : Phase} {caller other : Nat}

theorem Phase.Holds.imp (holds : phase.Holds jobs recovered lock caller)
    (locks : lock = some caller → lock' = some caller)
    (sameJobs : ∀ id, phase.about = some id → jobs'[id]? = jobs[id]?)
    (sameRecovered : ∀ id, phase.pending = some id → recovered'[id]? = recovered[id]?) :
    phase.Holds jobs' recovered' lock' caller := by
  cases phase with
  | idle | progressing => trivial
  | inserting record =>
    refine ⟨?_, ?_⟩
    · rw [sameRecovered _ rfl]
      exact holds.1
    · rw [sameJobs _ rfl]
      exact holds.2
  | checked change sessionId =>
    obtain ⟨held, record, found, allowed⟩ := holds
    exact ⟨locks held, record, (sameJobs _ rfl).trans found, allowed⟩
  | logged change at_ =>
    obtain ⟨held, record, found, made⟩ := holds
    exact ⟨locks held, record, (sameJobs _ rfl).trans found, (sameRecovered _ rfl).trans made⟩

variable {id : JobId}

theorem Phase.Holds.found (holds : phase.Holds jobs recovered lock caller)
    (pending : phase.pending = some id) : ∃ record, recovered[id]? = some record := by
  cases phase with
  | inserting record =>
    cases pending
    exact ⟨record, holds.1⟩
  | logged change at_ =>
    cases pending
    obtain ⟨_, record, _, made⟩ := holds
    exact ⟨_, made⟩
  | _ => cases pending

theorem Phase.Holds.absent (holds : phase.Holds jobs recovered lock caller)
    (without : lock ≠ some caller) (about : phase.about = some id) :
    phase.pending = some id ∧ jobs[id]? = none := by
  cases phase with
  | inserting record =>
    cases about
    exact ⟨rfl, holds.2⟩
  | checked change sessionId | logged change at_ => exact absurd holds.1 without
  | _ => cases about

theorem Phase.about_of_pending (pending : phase.pending = some id) : phase.about = some id := by
  cases phase <;> simp_all [Phase.pending, Phase.about]

theorem enter_callers (state : ManagerState) (caller other : Nat) (phase : Phase) :
    (state.enter caller phase).callers other =
      if other = caller then phase else state.callers other := rfl

/-- **A caller enters another phase.** What is to be shown of the jobs and the log then. -/
theorem Agreement.enter (agreement : Agreement state recovered) {log : List Event}
    (replayed : fromEvents log = .ok recovered')
    (queued : ∀ id record, recovered'[id]? = some record → Queued log id)
    (own : phase.Holds jobs' recovered' lock' caller)
    (rest : ∀ other, other ≠ caller → (state.callers other).Holds jobs' recovered' lock' other)
    (fresh : ∀ id, phase.pending = some id → ∀ other, other ≠ caller →
      (state.callers other).pending ≠ some id)
    (others : ∀ id, phase.pending ≠ some id →
      (∀ other, other ≠ caller → (state.callers other).pending ≠ some id) →
      recovered'[id]? = jobs'[id]?) :
    Agreement ⟨jobs', log, lock', (state.enter caller phase).callers⟩ recovered' where
  replayed := replayed
  queued := queued
  phases other := by
    show ((state.enter caller phase).callers other).Holds jobs' recovered' lock' other
    rw [enter_callers]
    by_cases same : other = caller
    · rw [if_pos same, same]
      exact own
    · rw [if_neg same]
      exact rest other same
  once first second id isFirst isSecond := by
    rw [enter_callers] at isFirst isSecond
    by_cases one : first = caller
    · by_cases two : second = caller
      · rw [one, two]
      · rw [if_pos one] at isFirst
        rw [if_neg two] at isSecond
        exact absurd isSecond (fresh id isFirst second two)
    · rw [if_neg one] at isFirst
      by_cases two : second = caller
      · rw [if_pos two] at isSecond
        exact absurd isFirst (fresh id isSecond first one)
      · rw [if_neg two] at isSecond
        exact agreement.once first second id isFirst isSecond
  others id none := by
    refine others id ?_ fun other different => ?_
    · have own := none caller
      rwa [enter_callers, if_pos rfl] at own
    · have other := none other
      rwa [enter_callers, if_neg different] at other

/-- No caller has something to make of a job, when neither one has nor the others. -/
theorem none_pending (caller : Nat) (own : (state.callers caller).pending ≠ some id)
    (rest : ∀ other, other ≠ caller → (state.callers other).pending ≠ some id) :
    ∀ other, (state.callers other).pending ≠ some id := by
  intro other
  by_cases same : other = caller
  · rw [same]
    exact own
  · exact rest other same

section

variable (agreement : Agreement state recovered)
include agreement

theorem Agreement.enter_quiet
    (free : (state.callers caller).pending = none) (quiet : phase.pending = none)
    (own : phase.Holds state.jobs recovered lock' caller)
    (locks : ∀ other, other ≠ caller → state.lock = some other → lock' = some other) :
    Agreement ⟨state.jobs, state.log, lock', (state.enter caller phase).callers⟩ recovered := by
  refine agreement.enter agreement.replayed agreement.queued own ?_ ?_ ?_
  · intro other different
    exact (agreement.phases other).imp (locks other different) (fun _ _ => rfl) fun _ _ => rfl
  · intro id pending
    rw [quiet] at pending
    cases pending
  · intro id _ rest
    refine agreement.others id (none_pending caller ?_ rest)
    rw [free]
    exact nofun

theorem Agreement.unknown (fresh : ¬ Queued state.log id) :
    recovered[id]? = none ∧ state.jobs[id]? = none := by
  have unknown : recovered[id]? = none := by
    cases found : recovered[id]? with
    | none => rfl
    | some record => exact absurd (agreement.queued id record found) fresh
  refine ⟨unknown, ?_⟩
  rw [← agreement.others id fun caller pending => ?_, unknown]
  obtain ⟨record, found⟩ := (agreement.phases caller).found pending
  rw [unknown] at found
  cases found

/-- **A job is logged.** -/
theorem Agreement.created (fresh : ¬ Queued state.log id)
    (free : state.callers caller = .idle) (kind : String) (payload : Json) (sessionId : Option String)
    (append : Append) :
    ∃ recovered', Agreement
      { state.enter caller (.inserting (queuedRecord id kind payload sessionId append.at_)) with
        log := state.log ++ [append.event sessionId (.jobQueued id kind payload)] } recovered' := by
  obtain ⟨unknown, absent⟩ := agreement.unknown fresh
  have known {other : JobId} {record : JobRecord} (found : recovered[other]? = some record) :
      id ≠ other := by
    rintro rfl
    rw [unknown] at found
    cases found
  refine ⟨recovered.insert id (queuedRecord id kind payload sessionId append.at_),
    agreement.enter ?_ ?_ ⟨Std.ExtTreeMap.getElem?_insert_self, absent⟩ ?_ ?_ ?_⟩
  · rw [fromEvents_snoc, agreement.replayed]
    exact applyEventStrict_queued kind payload append sessionId unknown
  · intro other record found
    rw [Std.ExtTreeMap.getElem?_insert] at found
    by_cases same : id = other
    · exact ⟨_, List.mem_append_right _ (List.mem_singleton_self _), kind, payload, same ▸ rfl⟩
    · rw [if_neg (by simpa using same)] at found
      exact (agreement.queued other record found).append _
  · intro other _
    refine (agreement.phases other).imp (fun held => held) (fun _ _ => rfl) fun job pending => ?_
    obtain ⟨record, found⟩ := (agreement.phases other).found pending
    rw [Std.ExtTreeMap.getElem?_insert, if_neg (by simpa using known found)]
  · intro job own other _ pending
    cases own
    obtain ⟨record, found⟩ := (agreement.phases other).found pending
    exact known found rfl
  · intro other own rest
    have different : id ≠ other := fun same => own (congrArg some same)
    rw [Std.ExtTreeMap.getElem?_insert, if_neg (by simpa using different)]
    refine agreement.others other (none_pending caller ?_ rest)
    rw [free]
    exact nofun

/-- **A job that was logged is inserted.** -/
theorem Agreement.inserted {record : JobRecord}
    (unlocked : state.lock = none) (phase : state.callers caller = .inserting record) :
    Agreement { state.enter caller .idle with jobs := state.jobs.insert record.id record }
      recovered := by
  have own := agreement.phases caller
  rw [phase] at own
  have pending : (state.callers caller).pending = some record.id := by rw [phase]; rfl
  refine agreement.enter agreement.replayed agreement.queued trivial ?_ nofun ?_
  · intro other different
    refine (agreement.phases other).imp (fun held => held) (fun id about => ?_) fun _ _ => rfl
    have without : state.lock ≠ some other := by rw [unlocked]; exact nofun
    have alsoPending := ((agreement.phases other).absent without about).1
    have otherJob : record.id ≠ id := by
      rintro rfl
      exact different (agreement.once other caller _ alsoPending pending)
    rw [Std.ExtTreeMap.getElem?_insert, if_neg (by simpa using otherJob)]
  · intro id _ rest
    rw [Std.ExtTreeMap.getElem?_insert]
    by_cases same : record.id = id
    · rw [if_pos (by simpa using same), ← same]
      exact own.1
    · rw [if_neg (by simpa using same)]
      refine agreement.others id (none_pending caller ?_ rest)
      rw [pending]
      exact fun equal => same (Option.some.inj equal)

/-- **A change that was checked is logged.** -/
theorem Agreement.logged {change : JobChange}
    {sessionId : Option String} (phase : state.callers caller = .checked change sessionId)
    (append : Append) :
    ∃ recovered', Agreement
      { state.enter caller (.logged change append.at_) with
        log := state.log ++ [append.event sessionId change.transition.event] } recovered' := by
  have own := agreement.phases caller
  rw [phase] at own
  obtain ⟨held, record, found, allowed⟩ := own
  -- the other callers are without the lock, so that they are about other jobs
  have absent {other : Nat} (different : other ≠ caller) {id : JobId}
      (about : (state.callers other).about = some id) : change.transition.id ≠ id := by
    rintro rfl
    have without : state.lock ≠ some other := by
      rw [held]
      exact fun same => different (Option.some.inj same).symm
    rw [((agreement.phases other).absent without about).2] at found
    cases found
  have free : (state.callers caller).pending = none := by rw [phase]; rfl
  have same : recovered[change.transition.id]? = some record := by
    rw [← found]
    refine agreement.others _ (none_pending caller ?_ fun other different pending => ?_)
    · rw [free]
      exact nofun
    · exact absent different (Phase.about_of_pending pending) rfl
  refine ⟨recovered.insert change.transition.id (change.transition.apply append.at_ record),
    agreement.enter ?_ ?_ ⟨held, record, found, Std.ExtTreeMap.getElem?_insert_self⟩ ?_ ?_ ?_⟩
  · rw [fromEvents_snoc, agreement.replayed]
    exact applyEventStrict_change same allowed
  · intro id record' isRecord
    rw [Std.ExtTreeMap.getElem?_insert] at isRecord
    by_cases hit : change.transition.id = id
    · exact (agreement.queued id record (hit ▸ same)).append _
    · rw [if_neg (by simpa using hit)] at isRecord
      exact (agreement.queued id record' isRecord).append _
  · intro other different
    refine (agreement.phases other).imp (fun held => held) (fun _ _ => rfl) fun id pending => ?_
    have otherJob := absent different (Phase.about_of_pending pending)
    rw [Std.ExtTreeMap.getElem?_insert, if_neg (by simpa using otherJob)]
  · intro id isOwn other different pending
    cases isOwn
    exact absent different (Phase.about_of_pending pending) rfl
  · intro id isOther rest
    have otherJob : change.transition.id ≠ id := fun hit => isOther (congrArg some hit)
    rw [Std.ExtTreeMap.getElem?_insert, if_neg (by simpa using otherJob)]
    refine agreement.others id (none_pending caller ?_ rest)
    rw [free]
    exact nofun

/-- **A change that was logged is made.** -/
theorem Agreement.changed {change : JobChange} {at_ : Int}
    {record : JobRecord} (phase : state.callers caller = .logged change at_)
    (found : state.jobs[change.transition.id]? = some record) :
    Agreement
      { state.enter caller .idle with
        lock := none
        jobs := state.jobs.insert change.transition.id (change.transition.apply at_ record) }
      recovered := by
  have own := agreement.phases caller
  rw [phase] at own
  obtain ⟨held, record', found', made⟩ := own
  rw [found] at found'
  cases found'
  have absent {other : Nat} (different : other ≠ caller) {id : JobId}
      (about : (state.callers other).about = some id) : change.transition.id ≠ id := by
    rintro rfl
    have without : state.lock ≠ some other := by
      rw [held]
      exact fun same => different (Option.some.inj same).symm
    rw [((agreement.phases other).absent without about).2] at found
    cases found
  refine agreement.enter agreement.replayed agreement.queued trivial ?_ nofun ?_
  · intro other different
    refine (agreement.phases other).imp (fun isHeld => ?_) (fun id about => ?_) fun _ _ => rfl
    · rw [held] at isHeld
      exact absurd (Option.some.inj isHeld).symm different
    · have otherJob := absent different about
      rw [Std.ExtTreeMap.getElem?_insert, if_neg (by simpa using otherJob)]
  · intro id _ rest
    rw [Std.ExtTreeMap.getElem?_insert]
    by_cases hit : change.transition.id = id
    · rw [if_pos (by simpa using hit), ← hit, made]
    · rw [if_neg (by simpa using hit)]
      refine agreement.others id (none_pending caller ?_ rest)
      rw [phase]
      exact fun equal => hit (Option.some.inj equal)

/-- **The progress of a job that runs is logged.** -/
theorem Agreement.progressed {message : String}
    {sessionId : Option String} (phase : state.callers caller = .progressing id message sessionId)
    (isRunning : IsRunning state id) (append : Append) :
    Agreement
      { state.enter caller .idle with
        log := state.log ++ [append.event sessionId (.jobProgress id message)] } recovered := by
  obtain ⟨⟨record, found, running⟩, unlogged⟩ := isRunning
  have same : recovered[id]? = some record := by
    rw [← found]
    refine agreement.others id fun other pending => ?_
    have holds := agreement.phases other
    cases isPhase : state.callers other with
    | inserting record' =>
      rw [isPhase] at holds pending
      cases pending
      rw [holds.2] at found
      cases found
    | logged change at_ =>
      rw [isPhase] at pending
      exact unlogged other change at_ isPhase (Option.some.inj pending)
    | _ =>
      rw [isPhase] at pending
      cases pending
  refine agreement.enter ?_ ?_ trivial ?_ nofun ?_
  · rw [fromEvents_snoc, agreement.replayed]
    exact applyEventStrict_progress message append sessionId same running
  · intro other record' isRecord
    exact (agreement.queued other record' isRecord).append _
  · intro other _
    exact agreement.phases other
  · intro other _ rest
    refine agreement.others other (none_pending caller ?_ rest)
    rw [phase]
    exact nofun

/-- **One section** keeps the log and the jobs in agreement. -/
theorem Agreement.step {action : Action}
    {answer : Option (Except JobManagerError Answer)} {after : ManagerState}
    (serial : Serial state action) (ran : Ran state action answer after) :
    ∃ recovered', Agreement after recovered' := by
  cases ran with
  | blocked | refused => exact ⟨recovered, agreement⟩
  | created kind payload sessionId id append section_ free =>
    exact agreement.created (serial.1 _ _ _ _ _ section_) free kind payload sessionId append
  | inserted record unlocked phase => exact ⟨recovered, agreement.inserted unlocked phase⟩
  | checked change record unlocked free found allowed =>
    refine ⟨recovered, agreement.enter_quiet (by rw [free]; rfl) rfl ⟨rfl, record, found, allowed⟩ ?_⟩
    intro other _ held
    rw [unlocked] at held
    cases held
  | progressing id message sessionId free =>
    exact ⟨recovered, agreement.enter_quiet (by rw [free]; rfl) rfl trivial fun _ _ held => held⟩
  | released change sessionId error phase =>
    have holds := agreement.phases action.caller
    rw [phase] at holds
    refine ⟨recovered, agreement.enter_quiet (by rw [phase]; rfl) rfl trivial ?_⟩
    intro other different held
    rw [holds.1] at held
    exact absurd (Option.some.inj held).symm different
  | logged change sessionId append phase => exact agreement.logged phase append
  | lost id message sessionId error phase =>
    exact ⟨recovered, agreement.enter_quiet (by rw [phase]; rfl) rfl trivial fun _ _ held => held⟩
  | progressed id message sessionId append section_ landed phase =>
    have inTime := serial.2 id message sessionId append phase section_ landed
    exact ⟨recovered, agreement.progressed phase inTime append⟩
  | changed change at_ record phase found => exact ⟨recovered, agreement.changed phase found⟩

end

end Agreement

theorem logAgreement_of_run {state : ManagerState}
    {history : List (Action × Option (Except JobManagerError Answer))}
    (run : managerMachine.Run Serial .empty history state) :
    ∃ recovered, Agreement state recovered := by
  refine run.stateInvariant (fun state => ∃ recovered, Agreement state recovered) ?_ ?_
  · exact ⟨∅, rfl, fun id record found => by simp at found, fun _ => trivial, nofun, fun _ _ => rfl⟩
  · rintro state action ⟨recovered, agreement⟩ serial
    exact agreement.step serial (ran state action)

/-! ## Recovery -/

/-- No call is between its append and the change of the jobs. -/
def Settled (state : ManagerState) : Prop := ∀ caller, (state.callers caller).pending = none

/-- **Recovery**: the log describes jobs, and once no call is about to make what it has logged, the
jobs of the manager. -/
def Recovers (state : ManagerState) : Prop :=
  ∃ recovered, fromEvents state.log = .ok recovered ∧ (Settled state → recovered = state.jobs)

/-- **A call that is refused leaves nothing** in the jobs and the log. -/
structure RefusedUnchanged (state : ManagerState) (action : Action) : Prop where
  refused : ∀ error, (runSection state action).1 = some (.error error) →
    (runSection state action).2.jobs = state.jobs ∧ (runSection state action).2.log = state.log
  changed : ((runSection state action).2.jobs ≠ state.jobs ∨
      (runSection state action).2.log ≠ state.log) →
    (∃ answer, (runSection state action).1 = some (.ok answer)) ∨
      ((runSection state action).2.callers action.caller).pending ≠ none
  pending : (state.callers action.caller).pending ≠ none →
    (runSection state action).2 = state ∨ ∃ answer, (runSection state action).1 = some (.ok answer)

theorem refusedUnchanged (state : ManagerState) (action : Action) :
    RefusedUnchanged state action := by
  have done := ran state action
  refine ⟨?_, ?_, ?_⟩
  · intro error refused
    rw [refused] at done
    generalize (runSection state action).2 = after at done ⊢
    cases done <;> exact ⟨rfl, rfl⟩
  · intro differs
    generalize (runSection state action).1 = answer at done ⊢
    generalize (runSection state action).2 = after at done differs ⊢
    cases done with
    | created | logged =>
      refine Or.inr ?_
      show ((ManagerState.enter _ _ _).callers action.caller).pending ≠ none
      rw [enter_callers, if_pos rfl]
      exact nofun
    | inserted | progressed | changed => exact Or.inl ⟨_, rfl⟩
    | _ => exact absurd differs (by rintro (same | same) <;> exact same rfl)
  · intro isPending
    generalize (runSection state action).1 = answer at done ⊢
    generalize (runSection state action).2 = after at done ⊢
    cases done with
    | blocked | refused => exact Or.inl rfl
    | inserted | progressed | changed => exact Or.inr ⟨_, rfl⟩
    | created _ _ _ _ _ _ phase | checked _ _ _ phase | progressing _ _ _ phase
    | released _ _ _ phase | logged _ _ _ phase | lost _ _ _ _ phase =>
      exact absurd (by rw [phase]; rfl) isPending

/-- **Recovered jobs are the live jobs**, in every run in which progress is logged only while its job
is still running. -/
theorem recovery_of_run {state : ManagerState}
    {history : List (Action × Option (Except JobManagerError Answer))}
    (run : managerMachine.Run Serial .empty history state) :
    Recovers state ∧ ∀ action, RefusedUnchanged state action := by
  obtain ⟨recovered, agreement⟩ := logAgreement_of_run run
  refine ⟨⟨recovered, agreement.replayed, fun settled => ?_⟩, refusedUnchanged state⟩
  refine Std.ExtTreeMap.ext_getElem? fun id => agreement.others id fun caller => ?_
  rw [settled caller]
  exact nofun

/-! ## A progress in time, and one that is late -/

def landing (at_ : Int) : Append := ⟨"event", at_, .ok ()⟩

def sampleActions : List Action :=
  [⟨0, .create "test.echo" (.object []) none "job-1" (landing 0)⟩, ⟨0, .insert⟩,
    ⟨0, .check (.start "job-1")⟩, ⟨0, .append (landing 1)⟩, ⟨0, .change⟩,
    ⟨1, .progress "job-1" "halfway"⟩]

def stateAfter (actions : List Action) : ManagerState := (managerMachine.exec .empty actions).2

/-- A caller that logs a progress. -/
def Phase.isProgressing : Phase → Bool
  | .progressing _ _ _ => true
  | _ => false

theorem progressInTime_of {state : ManagerState} {action : Action}
    (other : (state.callers action.caller).isProgressing = false) : ProgressInTime state action := by
  intro id message sessionId append phase
  rw [phase] at other
  cases other

theorem freshId_of {state : ManagerState} {action : Action}
    (other : ∀ kind payload sessionId id append,
      action.section_ ≠ .create kind payload sessionId id append) : FreshId state action :=
  fun kind payload sessionId id append same => absurd same (other kind payload sessionId id append)

theorem freshId_empty (action : Action) : FreshId .empty action := by
  rintro _ _ _ _ _ _ ⟨_, member, _⟩
  cases member

theorem sampleActions_serial : managerMachine.Met Serial .empty sampleActions := by
  refine ⟨⟨freshId_empty _, progressInTime_of rfl⟩, ?_⟩
  refine ⟨⟨freshId_of nofun, progressInTime_of (by decide +kernel)⟩, ?_⟩
  refine ⟨⟨freshId_of nofun, progressInTime_of (by decide +kernel)⟩, ?_⟩
  refine ⟨⟨freshId_of nofun, progressInTime_of (by decide +kernel)⟩, ?_⟩
  refine ⟨⟨freshId_of nofun, progressInTime_of (by decide +kernel)⟩, ?_⟩
  exact ⟨⟨freshId_of nofun, progressInTime_of (by decide +kernel)⟩, trivial⟩

def logProgress : Action := ⟨1, .append (landing 2)⟩

theorem logProgress_serial : Serial (stateAfter sampleActions) logProgress := by
  refine ⟨freshId_of nofun, fun id message sessionId append phase _ _ => ?_⟩
  obtain ⟨recovered, agreement⟩ :=
    logAgreement_of_run (Machine.exec_run _ _ _ sampleActions_serial)
  have isJob : id = "job-1" := by
    have phases : (stateAfter sampleActions).callers 1 = .progressing "job-1" "halfway" none := by
      rfl
    exact (Phase.progressing.inj (phase.symm.trans phases)).1
  subst isJob
  refine ⟨?_, fun caller change at_ isLogged => ?_⟩
  · have running : ((stateAfter sampleActions).jobs["job-1"]?).map (·.status) = some .running := by
      decide +kernel
    obtain ⟨record, found, status⟩ := Option.map_eq_some_iff.1 running
    exact ⟨record, found, status⟩
  · -- a logged change holds the lock, which is free
    have holds := agreement.phases caller
    have free : (stateAfter sampleActions).lock = none := by decide +kernel
    have held : (stateAfter sampleActions).lock = some caller := by
      rw [show (managerMachine.exec .empty sampleActions).2.callers caller = .logged change at_ from
        isLogged] at holds
      exact holds.1
    rw [free] at held
    cases held

/-- What a run with the progress leaves. -/
theorem recovery_of_run_sample :
    Recovers (managerMachine.exec (stateAfter sampleActions) [logProgress]).2 :=
  (recovery_of_run ((Machine.exec_run _ _ _ sampleActions_serial).append_exec [logProgress]
    ⟨logProgress_serial, trivial⟩)).1

def lateActions : List Action :=
  sampleActions ++ [⟨0, .check (.complete "job-1" .null)⟩, ⟨0, .append (landing 2)⟩, ⟨0, .change⟩,
    ⟨1, .append (landing 3)⟩]

def corruption (result : Except CorruptHistoryError (BTreeMap JobRecord)) :
    Option CorruptHistoryError :=
  match result with
  | .error error => some error
  | .ok _ => none

/-- A progress is logged after the end of its job, and no manager can be recovered from the log. -/
theorem recovery_of_run_counterexample :
    managerMachine.Run FreshId .empty (managerMachine.exec .empty lateActions).1
        (stateAfter lateActions) ∧
      corruption (fromEvents (stateAfter lateActions).log) =
        some (.invalidTransition "job-1" "JobProgress" .succeeded) ∧
      ¬ Recovers (stateAfter lateActions) := by
  have corrupt : corruption (fromEvents (stateAfter lateActions).log) =
      some (.invalidTransition "job-1" "JobProgress" .succeeded) := by decide +kernel
  refine ⟨Machine.exec_run _ _ _ ?_, corrupt, ?_⟩
  · refine ⟨freshId_empty _, ?_⟩
    exact ⟨freshId_of nofun, freshId_of nofun, freshId_of nofun, freshId_of nofun,
      freshId_of nofun, freshId_of nofun, freshId_of nofun, freshId_of nofun, freshId_of nofun,
      trivial⟩
  · rintro ⟨recovered, replayed, _⟩
    rw [replayed] at corrupt
    cases corrupt

end Zero3Pilot.JobScheduler
