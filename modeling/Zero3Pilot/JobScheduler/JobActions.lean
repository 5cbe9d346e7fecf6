import Mathlib.Data.List.Perm.Basic
import Zero3Pilot.JobScheduler.LocalJobs
import Zero3Pilot.JobScheduler.Recovery

/-! # The actions of jobs over whole runs

A job is started once in its life, so its action is performed at most once, after the gate has accepted it;
and what the manager says of a job that has ended is what has happened. A job that runs or waits has a task
that executes or awaits it, unless an append fails whose failure nobody looks at. -/

namespace Zero3Pilot.JobScheduler

open JobStatus (noConfusion)
open List (append_assoc forall_mem_cons forall_mem_nil forall_mem_singleton mem_append
  mem_append_left mem_append_right mem_cons mem_cons_of_mem mem_cons_self mem_singleton
  mem_singleton_self nil_subperm not_mem_nil prefix_refl)
open ControlPlane (BTreeMap)

/-! ## What is asked -/

inductive Accepted (codec : RequestCodec) (kind : String) (payload : Json) : BackendAction → Prop where
  | dispatch (request : AgentRunRequest) (isKind : kind = "subagent")
      (read : codec.agent (unwrapScheduledPayload payload) = .ok request)
      (gate : actionGate request.approval.grantedLevel request.approval.approved "subagent" "dispatch"
        .elevated true = .ok ()) :
      Accepted codec kind payload (.dispatch request.backend request.goal request.context)
  | browser (request : BrowserRunRequest) (isKind : kind = "browser")
      (read : codec.browser (unwrapScheduledPayload payload) = .ok request)
      (gate : actionGate request.approval.grantedLevel request.approval.approved "browser"
        (browserPolicy request.action).1 (browserPolicy request.action).2.1
        (browserPolicy request.action).2.2 = .ok ()) :
      Accepted codec kind payload (.browser request.action)
  | computer (request : ComputerRunRequest) (isKind : kind = "computer")
      (read : codec.computer (unwrapScheduledPayload payload) = .ok request)
      (gate : actionGate request.approval.grantedLevel request.approval.approved "computer"
        (computerPolicy request.action).1 (computerPolicy request.action).2.1
        (computerPolicy request.action).2.2 = .ok ()) :
      Accepted codec kind payload (.computer request.action)

def Begun (log : List Event) (id : JobId) : Prop :=
  ∃ before event after, log = before ++ event :: after ∧ event.kind = .jobStarted id ∧
    ∀ earlier ∈ before, earlier.kind ≠ .jobCancelled id

/-- Why a job may have failed: its action has, it was refused, or the process stopped while it ran. -/
def Excused (codec : RequestCodec) (world : NodeWorld) (id : JobId) : Prop :=
  (∃ error, (id, .error error) ∈ world.results) ∨
    (∃ job error, world.jobs[id]? = some job ∧ askedAction codec job.kind job.payload = .error error) ∨
    id ∈ world.interrupted

def NodeWorld.status? (world : NodeWorld) (id : JobId) : Option JobStatus :=
  world.jobs[id]?.map JobRecord.status

def Task.Serves (status : JobStatus) (id : JobId) : Task → Prop
  | .started other _ | .acting other _ | .ending other _ => status = .running ∧ other = id
  | .spawned other | .reading other _ | .submitted other => status = .queued ∧ other = id
  | .dispatching _ created => status = .queued ∧ id ∈ created
  | .advancing other _ created => status = .queued ∧ (other = id ∨ id ∈ created)
  | .spawning ids => status = .queued ∧ id ∈ ids
  | .reconciling records => ∃ record ∈ records, record.id = id ∧ record.status = status

/-- **What is asked of the jobs.** -/
structure JobsLawful (codec : RequestCodec) (state : NodeState) : Prop where
  once : (state.world.acted.map Prod.fst).Nodup
  accepted : ∀ id action, (id, action) ∈ state.world.acted →
    ∃ job, state.world.jobs[id]? = some job ∧ Accepted codec job.kind job.payload action
  begun : ∀ id action, (id, action) ∈ state.world.acted → Begun state.world.log id
  succeeded : ∀ id job, state.world.jobs[id]? = some job → job.status = .succeeded →
    ∃ output, job.output = some output ∧ (id, .ok output) ∈ state.world.results
  failed : ∀ id, state.world.status? id = some .failed → Excused codec state.world id
  served : ∀ id status, status = .queued ∨ status = .running → state.world.status? id = some status →
    ∃ task ∈ state.tasks, task.Serves status id

/-! ## The condition -/

/-- **The appends of a task land**: where its job still waits for them, and no other task would do. -/
def Task.Lands (world : NodeWorld) (others : List Task) (environment : NodeEnvironment) : Task → Prop
  | .reading id _ => world.status? id = some .queued →
      environment.append.landed = .ok () ∨ ∃ other ∈ others, other.Serves .queued id
  | .ending id _ => world.status? id = some .running → environment.append.landed = .ok ()
  | .reconciling (record :: _) => record.status = .running →
      world.status? record.id = some .running → environment.append.landed = .ok ()
  | .dispatching (_ :: _) created => environment.append.landed = .ok () ∨ created = []
  | .advancing _ _ _ => environment.advanced = .ok ()
  | .spawned _ | .started _ _ | .acting _ _ | .submitted _ | .dispatching [] _ | .spawning _
  | .reconciling [] => True

/-- An identifier that is drawn is new. -/
def NodeState.Fresh (state : NodeState) : NodeInput → Prop
  | .submit _ _ id _ => state.world.status? id = none
  | .turn _ environment => state.world.status? environment.id = none
  | .cancel _ _ | .dispatchDue _ | .respawn _ | .stop => True

/-- **The condition on a step.** -/
def Steady (state : NodeState) (input : NodeInput) : Prop :=
  state.Fresh input ∧ ∀ position environment task, input = .turn position environment →
    state.tasks[position]? = some task →
    task.Lands state.world (state.tasks.eraseIdx position) environment

/-! ## The world -/

section World

variable {codec : RequestCodec} {world world' : NodeWorld} {id : JobId} {kind : String}
  {payload : Json}
  {action : BackendAction} {job record : JobRecord}

theorem accepted_of_prepare (prepared : askedAction codec kind payload = .ok action) :
    Accepted codec kind payload action := by
  unfold askedAction at prepared
  split at prepared
  · rename_i isKind
    obtain ⟨request, read, gated⟩ := bind_ok.1 prepared
    obtain ⟨⟨⟩, gate, same⟩ := bind_ok.1 gated
    cases same
    exact .dispatch request isKind read gate
  · split at prepared
    · rename_i isKind
      obtain ⟨request, read, gated⟩ := bind_ok.1 prepared
      obtain ⟨⟨⟩, gate, same⟩ := bind_ok.1 gated
      cases same
      exact .browser request isKind read gate
    · split at prepared
      · rename_i isKind
        obtain ⟨request, read, gated⟩ := bind_ok.1 prepared
        obtain ⟨⟨⟩, gate, same⟩ := bind_ok.1 gated
        cases same
        exact .computer request isKind read gate
      · cases prepared

def Own (world : NodeWorld) (id : JobId) (record : JobRecord) : Prop :=
  ∃ job, world.jobs[id]? = some job ∧ job.kind = record.kind ∧ job.payload = record.payload

/-- A job that has been started, cancelled or ended. -/
def Past (world : NodeWorld) (id : JobId) : Prop :=
  ∃ status, world.status? id = some status ∧ status ≠ .queued

/-- What is said of the world without its tasks. -/
structure Sound (codec : RequestCodec) (world : NodeWorld) : Prop where
  replayed : fromEvents world.log = .ok world.jobs
  named : ∀ id (job : JobRecord), world.jobs[id]? = some job → job.id = id
  uncancelled : ∀ id, ¬ Past world id → ∀ event ∈ world.log, event.kind ≠ .jobCancelled id
  accepted : ∀ id action, (id, action) ∈ world.acted →
    ∃ job : JobRecord, world.jobs[id]? = some job ∧ Accepted codec job.kind job.payload action
  succeeded : ∀ id (job : JobRecord), world.jobs[id]? = some job → job.status = .succeeded →
    ∃ output, job.output = some output ∧ (id, .ok output) ∈ world.results
  failed : ∀ id, world.status? id = some .failed → Excused codec world id

/-- What a step leaves of a world. -/
structure Grows (world world' : NodeWorld) : Prop where
  jobs : ∀ id (job : JobRecord), world.jobs[id]? = some job → Own world' id job
  past : ∀ id, Past world id → Past world' id
  log : world.log <+: world'.log
  results : world.results ⊆ world'.results
  interrupted : world.interrupted ⊆ world'.interrupted

theorem Own.grows (own : Own world id record) (grows : Grows world world') : Own world' id record := by
  obtain ⟨job, found, kind, payload⟩ := own
  obtain ⟨job', found', kind', payload'⟩ := grows.jobs id job found
  exact ⟨job', found', kind'.trans kind, payload'.trans payload⟩

theorem Excused.grows (excused : Excused codec world id) (grows : Grows world world') :
    Excused codec world' id := by
  obtain ⟨error, member⟩ | ⟨job, error, found, refused⟩ | member := excused
  · exact .inl ⟨error, grows.results member⟩
  · obtain ⟨job', found', kind, payload⟩ := grows.jobs id job found
    exact .inr (.inl ⟨job', error, found', by rw [kind, payload, refused]⟩)
  · exact .inr (.inr (grows.interrupted member))

theorem Begun.grows (begun : Begun world.log id) (grows : Grows world world') :
    Begun world'.log id := by
  obtain ⟨before, event, after, same, isStart, earlier⟩ := begun
  obtain ⟨more, logged⟩ := grows.log
  exact ⟨before, event, after ++ more, by rw [← logged, same]; simp, isStart, earlier⟩

theorem Grows.refl : Grows world world where
  jobs _ job found := ⟨job, found, rfl, rfl⟩
  past _ past := past
  log := prefix_refl _
  results := List.Subset.refl _
  interrupted := List.Subset.refl _

theorem status_put (id other : JobId) (event : Event) (job : JobRecord) :
    (world.put id event job).status? other = if id = other then some job.status else world.status? other := by
  simp only [NodeWorld.status?, NodeWorld.put, Std.ExtTreeMap.getElem?_insert, Std.LawfulEqCmp.compare_eq_iff_eq]
  split <;> rfl

/-- **A record that may be put for a job.** -/
structure Puts (codec : RequestCodec) (world : NodeWorld) (id : JobId) (event : Event) (job : JobRecord) :
    Prop where
  replayed : applyEventStrict world.jobs event = .ok (world.jobs.insert id job)
  named : job.id = id
  own : ∀ before : JobRecord, world.jobs[id]? = some before →
    job.kind = before.kind ∧ job.payload = before.payload ∧ job.status ≠ .queued
  cancelled : ∀ other, event.kind = .jobCancelled other → other = id ∧ job.status ≠ .queued
  succeeded : job.status = .succeeded → ∃ output, job.output = some output ∧ (id, .ok output) ∈ world.results
  failed : job.status = .failed → Excused codec world id

variable {event : Event}

theorem Puts.grows (puts : Puts codec world id event job) : Grows world (world.put id event job) where
  jobs other before found := by
    by_cases same : id = other
    · subst same
      exact ⟨job, Std.ExtTreeMap.getElem?_insert_self, (puts.own before found).1, (puts.own before found).2.1⟩
    · refine ⟨before, ?_, rfl, rfl⟩
      rw [NodeWorld.put, Std.ExtTreeMap.getElem?_insert, if_neg (by simpa using same), found]
  past other past := by
    obtain ⟨status, isStatus, notQueued⟩ := past
    rw [Past, status_put]
    split
    · rename_i same
      subst same
      obtain ⟨before, found, -⟩ := Option.map_eq_some_iff.1 isStatus
      exact ⟨_, rfl, (puts.own before found).2.2⟩
    · exact ⟨status, isStatus, notQueued⟩
  log := List.prefix_append _ _
  results := List.Subset.refl _
  interrupted := List.Subset.refl _

theorem grows_more (results : List (JobId × Except String Json)) (interrupted : List JobId) :
    Grows world (world.more results interrupted) where
  jobs _ job found := ⟨job, found, rfl, rfl⟩
  past _ past := past
  log := prefix_refl _
  results := List.subset_append_left _ _
  interrupted := List.subset_append_left _ _

/-- **A record that is put keeps the world sound.** -/
theorem Sound.put (sound : Sound codec world) (puts : Puts codec world id event job) :
    Sound codec (world.put id event job) := by
  have grows := puts.grows
  constructor
  · show fromEvents (world.log ++ [event]) = _
    rw [fromEvents_snoc, sound.replayed]
    exact puts.replayed
  · intro other found isJob
    rw [NodeWorld.put, Std.ExtTreeMap.getElem?_insert] at isJob
    split at isJob
    · rename_i same
      cases isJob
      exact puts.named.trans (Std.LawfulEqCmp.compare_eq_iff_eq.1 same)
    · exact sound.named other found isJob
  · intro other notPast earlier member
    obtain before | now := mem_append.1 member
    · exact sound.uncancelled other (fun past => notPast (grows.past other past)) earlier before
    · rw [mem_singleton] at now
      subst now
      intro cancels
      obtain ⟨rfl, notQueued⟩ := puts.cancelled other cancels
      exact notPast ⟨job.status, by rw [status_put, if_pos rfl], notQueued⟩
  · intro other action member
    obtain ⟨before, found, accepted⟩ := sound.accepted other action member
    obtain ⟨after, isAfter, kind, payload⟩ := grows.jobs other before found
    exact ⟨after, isAfter, by rw [kind, payload]; exact accepted⟩
  · intro other found isJob isSucceeded
    rw [NodeWorld.put, Std.ExtTreeMap.getElem?_insert] at isJob
    split at isJob
    · rename_i same
      cases isJob
      rw [← Std.LawfulEqCmp.compare_eq_iff_eq.1 same]
      exact puts.succeeded isSucceeded
    · exact sound.succeeded other found isJob isSucceeded
  · intro other isFailed
    rw [status_put] at isFailed
    split at isFailed
    · rename_i same
      rw [← same]
      exact (puts.failed (Option.some.inj isFailed)).grows grows
    · exact (sound.failed other isFailed).grows grows

theorem puts_created (kind : String) (payload : Json) (append : Append) (fresh : world.jobs[id]? = none) :
    Puts codec world id (append.event none (.jobQueued id kind payload))
      (queuedRecord id kind payload none append.at_) where
  replayed := applyEventStrict_queued kind payload append none fresh
  named := rfl
  own before found := by cases fresh.symm.trans found
  cancelled other cancels := by cases cancels
  succeeded isSucceeded := by cases isSucceeded
  failed isFailed := by cases isFailed

/-- What is logged at the end of a job is what has happened. -/
def Justified (codec : RequestCodec) (world : NodeWorld) : JobChange → Prop
  | .complete id output => (id, .ok output) ∈ world.results
  | .fail id _ => Excused codec world id
  | .start _ | .cancel _ => True

theorem puts_changed (change : JobChange) (sound : Sound codec world) (append : Append)
    (found : world.jobs[change.transition.id]? = some record)
    (allowed : record.status ∈ change.transition.allowed) (justified : Justified codec world change) :
    Puts codec world change.transition.id (append.event record.sessionId change.transition.event)
      (change.transition.apply append.at_ record) where
  replayed := applyEventStrict_change found allowed
  named := by
    have named := sound.named _ record found
    cases change <;> exact named
  own before isBefore := by
    cases found.symm.trans isBefore
    cases change <;> exact ⟨rfl, rfl, noConfusion⟩
  cancelled other cancels := by
    cases change with
    | cancel id =>
      cases cancels
      exact ⟨rfl, noConfusion⟩
    | start id | complete id output | fail id reason => cases cancels
  succeeded isSucceeded := by
    cases change with
    | complete id output => exact ⟨output, rfl, justified⟩
    | start id | fail id reason | cancel id => cases isSucceeded
  failed isFailed := by
    cases change with
    | fail id reason => exact justified
    | start id | complete id output | cancel id => cases isFailed

/-- An action is started, which the gate has accepted. -/
theorem Sound.act (sound : Sound codec world) (own : Own world id record)
    (prepared : askedAction codec record.kind record.payload = .ok action) :
    Sound codec { world with acted := world.acted ++ [(id, action)] } where
  replayed := sound.replayed
  named := sound.named
  uncancelled := sound.uncancelled
  accepted other action member := by
    obtain earlier | now := mem_append.1 member
    · exact sound.accepted other action earlier
    · rw [mem_singleton] at now
      cases now
      obtain ⟨job, found, kind, payload⟩ := own
      exact ⟨job, found, by rw [kind, payload]; exact accepted_of_prepare prepared⟩
  succeeded := sound.succeeded
  failed := sound.failed

theorem Sound.more (sound : Sound codec world) (results : List (JobId × Except String Json))
    (interrupted : List JobId) : Sound codec (world.more results interrupted) where
  replayed := sound.replayed
  named := sound.named
  uncancelled := sound.uncancelled
  accepted := sound.accepted
  succeeded id job found isSucceeded := by
    obtain ⟨output, same, member⟩ := sound.succeeded id job found isSucceeded
    exact ⟨output, same, mem_append_left _ member⟩
  failed id isFailed := (sound.failed id isFailed).grows (grows_more results interrupted)

end World

/-! ## The tasks -/

section Tasks

variable {codec : RequestCodec} {world world' : NodeWorld} {gone more others : List Task}

/-- **What holds of a task.** -/
def Task.Holds (codec : RequestCodec) (world : NodeWorld) : Task → Prop
  | .reading id record | .started id record => Own world id record
  | .ending id (.ok output) => (id, .ok output) ∈ world.results
  | .ending id (.error _) => Excused codec world id
  | .reconciling records => ∀ record ∈ records, record.status = .running → record.id ∈ world.interrupted
  | .spawned _ | .acting _ _ | .submitted _ | .dispatching _ _ | .advancing _ _ _ | .spawning _ => True

theorem Task.Holds.grows {task : Task} (holds : task.Holds codec world) (grows : Grows world world') :
    task.Holds codec world' := by
  cases task with
  | reading id record | started id record => exact Own.grows holds grows
  | ending id result =>
    cases result with
    | ok output => exact grows.results holds
    | error error => exact Excused.grows holds grows
  | reconciling records =>
    exact fun record member isRunning => grows.interrupted (holds record member isRunning)
  | spawned id | acting id action | submitted id | dispatching due created
  | advancing id due created | spawning ids => trivial

def Task.claim : Task → Option JobId
  | .started id _ => some id
  | _ => none

def claimed (world : NodeWorld) (tasks : List Task) : List JobId :=
  world.acted.map Prod.fst ++ tasks.filterMap Task.claim

def Covered (world : NodeWorld) (tasks : List Task) : Prop :=
  ∀ id status, status = .queued ∨ status = .running → world.status? id = some status →
    ∃ task ∈ tasks, task.Serves status id

/-- **The invariant.** -/
structure Kept (codec : RequestCodec) (world : NodeWorld) (tasks : List Task) : Prop where
  sound : Sound codec world
  holds : ∀ task ∈ tasks, task.Holds codec world
  once : (claimed world tasks).Nodup
  begun : ∀ id ∈ claimed world tasks, Begun world.log id ∧ Past world id
  covered : Covered world tasks

theorem Covered.next (covered : Covered world (gone ++ others))
    (relieved : ∀ id status, status = .queued ∨ status = .running → world'.status? id = some status →
      (world.status? id = some status ∧ ∀ task ∈ gone, ¬ task.Serves status id) ∨
        ∃ task ∈ more ++ others, task.Serves status id) :
    Covered world' (more ++ others) := by
  intro id status isOpen isStatus
  obtain ⟨before, left⟩ | found := relieved id status isOpen isStatus
  · obtain ⟨task, member, serves⟩ := covered id status isOpen before
    obtain away | stays := mem_append.1 member
    · exact absurd serves (left task away)
    · exact ⟨task, mem_append_right _ stays, serves⟩
  · exact found

theorem Covered.pass (covered : Covered world (gone ++ others))
    (same : ∀ id, world'.status? id = world.status? id)
    (served : ∀ id status, status = .queued ∨ status = .running → world.status? id = some status →
      ∀ task ∈ gone, task.Serves status id → ∃ other ∈ more ++ others, other.Serves status id) :
    Covered world' (more ++ others) := by
  refine covered.next fun id status isOpen isStatus => ?_
  rw [same] at isStatus
  by_cases left : ∃ task ∈ gone, task.Serves status id
  · obtain ⟨task, member, serves⟩ := left
    exact .inr (served id status isOpen isStatus task member serves)
  · exact .inl ⟨isStatus, fun task member serves => left ⟨task, member, serves⟩⟩

variable {id : JobId} {event : Event} {job record : JobRecord}

theorem Covered.put (covered : Covered world (gone ++ others))
    (own : job.status = .queued ∨ job.status = .running → ∃ task ∈ more, task.Serves job.status id)
    (served : ∀ other ≠ id, ∀ status, ∀ task ∈ gone, task.Serves status other →
      ∃ next ∈ more, next.Serves status other) :
    Covered (world.put id event job) (more ++ others) := by
  refine covered.next fun other status isOpen isStatus => ?_
  rw [status_put] at isStatus
  split at isStatus
  · rename_i same
    cases isStatus
    obtain ⟨task, member, serves⟩ := own isOpen
    exact .inr ⟨task, mem_append_left _ member, same ▸ serves⟩
  · rename_i different
    by_cases left : ∃ task ∈ gone, task.Serves status other
    · obtain ⟨task, member, serves⟩ := left
      obtain ⟨next, isMore, isNext⟩ := served other (Ne.symm different) status task member serves
      exact .inr ⟨next, mem_append_left _ isMore, isNext⟩
    · exact .inl ⟨isStatus, fun task member serves => left ⟨task, member, serves⟩⟩

/-- **A step that starts no job.** -/
theorem Kept.next (kept : Kept codec world (gone ++ others)) (sound : Sound codec world')
    (grows : Grows world world') (holds : ∀ task ∈ more, task.Holds codec world')
    (claims : (claimed world' more).Subperm (claimed world gone)) (covered : Covered world' (more ++ others)) :
    Kept codec world' (more ++ others) := by
  have fewer : (claimed world' (more ++ others)).Subperm (claimed world (gone ++ others)) := by
    rw [claimed, claimed, List.filterMap_append, List.filterMap_append, ← append_assoc,
      ← append_assoc]
    exact (List.subperm_append_right _).2 claims
  have once : (claimed world' (more ++ others)).Nodup := by
    obtain ⟨fewerYet, perm, sub⟩ := fewer
    exact perm.nodup (kept.once.sublist sub)
  refine ⟨sound, fun task member => ?_, once, fun id member => ?_, covered⟩
  · obtain new | stays := mem_append.1 member
    · exact holds task new
    · exact (kept.holds task (mem_append_right _ stays)).grows grows
  · obtain ⟨begun, past⟩ := kept.begun id (fewer.subset member)
    exact ⟨begun.grows grows, grows.past id past⟩

/-- **A task goes on, and the world stays.** -/
theorem Kept.pass {task : Task} (kept : Kept codec world ([task] ++ others))
    (holds : ∀ other ∈ more, other.Holds codec world) (claims : more.filterMap Task.claim = [])
    (served : ∀ id status, status = .queued ∨ status = .running → world.status? id = some status →
      task.Serves status id → ∃ other ∈ more ++ others, other.Serves status id) :
    Kept codec world (more ++ others) := by
  refine kept.next kept.sound .refl holds ?_ (kept.covered.pass (fun _ => rfl) ?_)
  · rw [claimed, claimed, claims]
    exact (List.subperm_append_left _).2 nil_subperm
  · exact fun id status isOpen isStatus => forall_mem_singleton.2 (served id status isOpen isStatus)

theorem Kept.spawn {task : Task} (kept : Kept codec world others) (holds : task.Holds codec world)
    (claims : task.claim = none) : Kept codec world (task :: others) := by
  refine @Kept.next _ _ _ [] [task] _ kept kept.sound .refl (forall_mem_singleton.2 holds) ?_
    (@Covered.pass _ _ [] _ _ kept.covered (fun _ => rfl) fun _ _ _ _ => forall_mem_nil _)
  rw [claimed, claimed, List.filterMap_cons_none claims]

/-- **A record is put**, and the tasks that are gone served nothing else. -/
theorem Kept.put (kept : Kept codec world (gone ++ others)) (puts : Puts codec world id event job)
    (holds : ∀ task ∈ more, task.Holds codec world) (claims : more.filterMap Task.claim = [])
    (own : job.status = .queued ∨ job.status = .running → ∃ task ∈ more, task.Serves job.status id)
    (served : ∀ other ≠ id, ∀ status, ∀ task ∈ gone, task.Serves status other →
      ∃ next ∈ more, next.Serves status other) :
    Kept codec (world.put id event job) (more ++ others) := by
  refine kept.next (kept.sound.put puts) puts.grows (fun task member => (holds task member).grows puts.grows)
    ?_ (kept.covered.put own served)
  rw [claimed, claimed, claims]
  exact (List.subperm_append_left _).2 nil_subperm

/-- **A job is started**, for the first time in its life and not after its cancellation. -/
theorem Kept.starts {read : JobRecord} {append : Append} (kept : Kept codec world ([.reading id read] ++ others))
    (found : world.jobs[id]? = some record) (isQueued : record.status = .queued) :
    Kept codec (world.put id (append.event record.sessionId (.jobStarted id))
      ((start id).apply append.at_ record)) ([.started id read] ++ others) := by
  have puts : Puts codec world id (append.event record.sessionId (.jobStarted id))
      ((start id).apply append.at_ record) := by
    refine puts_changed (.start id) kept.sound append found ?_ trivial
    rw [isQueued]
    exact mem_singleton_self _
  have notPast : ¬ Past world id := by
    rintro ⟨status, isStatus, notQueued⟩
    rw [NodeWorld.status?, found] at isStatus
    exact notQueued (by rw [← Option.some.inj isStatus]; exact isQueued)
  have begun : Begun (world.put id (append.event record.sessionId (.jobStarted id))
      ((start id).apply append.at_ record)).log id :=
    ⟨world.log, _, [], rfl, rfl, kept.sound.uncancelled id notPast⟩
  have same : (claimed (world.put id (append.event record.sessionId (.jobStarted id))
      ((start id).apply append.at_ record)) ([.started id read] ++ others)).Perm
      (id :: claimed world ([.reading id read] ++ others)) := List.perm_middle
  refine ⟨kept.sound.put puts, fun task member => ?_, ?_, fun other member => ?_, kept.covered.put ?_ ?_⟩
  · obtain rfl | stays := mem_cons.1 member
    · exact Own.grows (kept.holds (.reading id read) mem_cons_self) puts.grows
    · exact (kept.holds task (mem_cons_of_mem _ stays)).grows puts.grows
  · rw [same.nodup_iff]
    exact List.nodup_cons.2 ⟨fun member => notPast (kept.begun id member).2, kept.once⟩
  · obtain rfl | earlier := mem_cons.1 (same.subset member)
    · exact ⟨begun, .running, by rw [status_put, if_pos rfl]; rfl, noConfusion⟩
    · obtain ⟨begun, past⟩ := kept.begun other earlier
      exact ⟨begun.grows puts.grows, puts.grows.past other past⟩
  · exact fun _ => ⟨.started id read, mem_cons_self, rfl, rfl⟩
  · exact fun other different status => forall_mem_singleton.2 fun serves =>
      absurd serves.2.symm different

/-- **The action of a job starts.** -/
theorem Kept.act {action : BackendAction} (kept : Kept codec world ([.started id record] ++ others))
    (prepared : askedAction codec record.kind record.payload = .ok action) :
    Kept codec { world with acted := world.acted ++ [(id, action)] } ([.acting id action] ++ others) := by
  have own : Own world id record := kept.holds (.started id record) mem_cons_self
  have grows : Grows world { world with acted := world.acted ++ [(id, action)] } :=
    ⟨fun other job found => ⟨job, found, rfl, rfl⟩, fun _ past => past, prefix_refl _, List.Subset.refl _,
      List.Subset.refl _⟩
  refine kept.next (kept.sound.act own prepared) grows (forall_mem_singleton.2 trivial) ?_
    (kept.covered.pass (fun _ => rfl) fun other status _ _ => forall_mem_singleton.2 fun serves =>
      ⟨.acting id action, mem_cons_self, serves⟩)
  rw [claimed, claimed, List.map_append, append_assoc]
  exact List.Subperm.refl _

theorem Kept.returned {action : BackendAction} (kept : Kept codec world ([.acting id action] ++ others))
    (result : Except String Json) :
    Kept codec (world.more [(id, result)] []) ([.ending id result] ++ others) := by
  have isResult : (id, result) ∈ (world.more [(id, result)] []).results :=
    mem_append_right _ (mem_singleton_self _)
  refine kept.next (kept.sound.more _ _) (grows_more _ _) (forall_mem_singleton.2 ?_)
    (List.Subperm.refl _) (kept.covered.pass (fun _ => rfl) fun other status _ _ =>
      forall_mem_singleton.2 fun serves => ⟨.ending id result, mem_cons_self, serves⟩)
  cases result with
  | ok output => exact isResult
  | error error => exact .inl ⟨error, isResult⟩

variable {change : JobChange} {append : Append} {environment : NodeEnvironment}

theorem change_cases (world : NodeWorld) (change : JobChange) (append : Append) :
    (∃ record, world.jobs[change.transition.id]? = some record ∧ record.status ∈ change.transition.allowed ∧
        world.change change append = (.ok (), world.put change.transition.id
          (append.event record.sessionId change.transition.event)
          (change.transition.apply append.at_ record))) ∨
      (∃ error, world.change change append = (.error error, world)) ∧ (append.landed = .ok () →
        ∀ status ∈ change.transition.allowed, world.status? change.transition.id ≠ some status) := by
  simp only [NodeWorld.change]
  split
  · rename_i error refused
    refine .inr ⟨⟨error, rfl⟩, fun _ status member isStatus => ?_⟩
    obtain ⟨record, found, same⟩ := Option.map_eq_some_iff.1 isStatus
    rw [requireStatus, found] at refused
    change (ensure _ _ >>= fun _ => _) = _ at refused
    rw [ensure, if_pos (same ▸ member)] at refused
    cases refused
  · rename_i record required
    obtain ⟨found, allowed⟩ := requireStatus_ok required
    split
    · rename_i message lost
      exact .inr ⟨⟨.eventLog message, rfl⟩, fun landed => by cases lost.symm.trans landed⟩
    · exact .inl ⟨record, found, allowed, rfl⟩

theorem Kept.tried {task : Task} (kept : Kept codec world ([task] ++ others))
    (onRunning : change.transition.allowed = [.running]) (justified : Justified codec world change)
    (holds : ∀ other ∈ more, other.Holds codec world) (claims : more.filterMap Task.claim = [])
    (lands : world.status? change.transition.id = some .running → append.landed = .ok ())
    (isEnd : ∀ record, ¬ ((change.transition.apply append.at_ record).status = .queued ∨
      (change.transition.apply append.at_ record).status = .running))
    (served : ∀ id status, task.Serves status id →
      (id = change.transition.id ∧ status = .running) ∨ ∃ other ∈ more, other.Serves status id) :
    Kept codec (world.change change append).2 (more ++ others) := by
  obtain ⟨record, found, allowed, same⟩ | ⟨⟨error, same⟩, refused⟩ := change_cases world change append
  · rw [same]
    refine kept.put (puts_changed change kept.sound append found allowed justified) holds claims
      (fun isOpen => absurd isOpen (isEnd record)) ?_
    exact fun id different status => forall_mem_singleton.2 fun serves =>
      (served id status serves).resolve_left fun own => different own.1
  · rw [same]
    refine kept.pass holds claims fun id status isOpen isStatus serves => ?_
    obtain ⟨rfl, rfl⟩ | ⟨other, member, isOther⟩ := served id status serves
    · exact absurd isStatus (refused (lands isStatus) .running (by rw [onRunning]; exact mem_singleton_self _))
    · exact ⟨other, mem_append_left _ member, isOther⟩

/-- **A section** of a task. -/
theorem Kept.turn {task : Task} (kept : Kept codec world ([task] ++ others))
    (fresh : world.status? environment.id = none) (lands : task.Lands world others environment) :
    Kept codec (runTask codec world environment task).2
      ((runTask codec world environment task).1 ++ others) := by
  have holds : task.Holds codec world := kept.holds task mem_cons_self
  cases task with
  | spawned id =>
    simp only [runTask]
    split
    · rename_i missing
      refine kept.pass (forall_mem_nil _) rfl ?_
      rintro other status _ isStatus ⟨rfl, rfl⟩
      rw [NodeWorld.status?, missing] at isStatus
      cases isStatus
    · rename_i record found
      split
      · exact kept.pass (forall_mem_singleton.2 ⟨record, found, rfl, rfl⟩) rfl
          fun other status _ _ serves => ⟨.reading id record, mem_cons_self, serves⟩
      · rename_i notQueued
        refine kept.pass (forall_mem_nil _) rfl ?_
        rintro other status _ isStatus ⟨rfl, rfl⟩
        rw [NodeWorld.status?, found] at isStatus
        exact absurd (Option.some.inj isStatus) notQueued
  | reading id read =>
    simp only [runTask]
    obtain ⟨record, found, allowed, same⟩ | ⟨⟨error, same⟩, refused⟩ :=
      change_cases world (.start id) environment.append
    · rw [same]
      exact kept.starts found (mem_singleton.1 allowed)
    · rw [same]
      refine kept.pass (forall_mem_nil _) rfl ?_
      rintro other status _ isQueued ⟨rfl, rfl⟩
      obtain landed | awaited := lands isQueued
      · exact absurd isQueued (refused landed .queued (mem_singleton_self _))
      · exact awaited
  | started id record =>
    simp only [runTask]
    split
    · rename_i error prepared
      obtain ⟨job, found, kind, payload⟩ := holds
      have excused : Excused codec world id :=
        .inr (.inl ⟨job, error, found, by rw [kind, payload, prepared]⟩)
      exact kept.pass (forall_mem_singleton.2 excused) rfl
        fun other status _ _ serves => ⟨.ending id (.error error), mem_cons_self, serves⟩
    · rename_i action prepared
      exact kept.act prepared
  | acting id action => exact kept.returned environment.result
  | ending id result =>
    refine kept.tried ?_ ?_ (forall_mem_nil _) rfl ?_ ?_ ?_
    · cases result <;> rfl
    · cases result <;> exact holds
    · cases result <;> exact lands
    · cases result <;> exact fun record isOpen => isOpen.elim noConfusion noConfusion
    · cases result <;> exact fun other status serves => .inl ⟨serves.2.symm, serves.1⟩
  | submitted id =>
    exact kept.pass (forall_mem_singleton.2 trivial) rfl
      fun other status _ _ serves => ⟨.spawned id, mem_cons_self, serves⟩
  | dispatching due created =>
    cases due with
    | nil =>
      exact kept.pass (forall_mem_singleton.2 trivial) rfl
        fun other status _ _ serves => ⟨.spawning created, mem_cons_self, serves⟩
    | cons task due =>
      simp only [runTask, NodeWorld.create]
      cases isLanded : environment.append.landed with
      | ok landed =>
        refine kept.put (puts_created _ _ _ (Option.map_eq_none_iff.1 fresh))
          (forall_mem_singleton.2 trivial) rfl (fun _ => ⟨_, mem_cons_self, rfl, .inl rfl⟩) ?_
        exact fun other _ status => forall_mem_singleton.2 fun serves =>
          ⟨_, mem_cons_self, serves.1, .inr serves.2⟩
      | error message =>
        refine kept.pass (forall_mem_nil _) rfl ?_
        rintro other status _ _ ⟨-, serves⟩
        obtain landed | none := lands
        · cases isLanded.symm.trans landed
        · rw [none] at serves
          cases serves
  | advancing id due created =>
    have advanced : environment.advanced = .ok () := lands
    simp only [runTask, advanced]
    refine kept.pass (forall_mem_singleton.2 trivial) rfl ?_
    rintro other status _ _ ⟨isQueued, serves⟩
    refine ⟨.dispatching due (created ++ [id]), mem_cons_self, isQueued, ?_⟩
    obtain rfl | earlier := serves
    · exact mem_append_right _ (mem_singleton_self _)
    · exact mem_append_left _ earlier
  | spawning ids =>
    cases ids with
    | nil =>
      refine kept.pass (forall_mem_nil _) rfl ?_
      exact fun other status _ _ serves => absurd serves.2 not_mem_nil
    | cons id ids =>
      refine kept.pass (forall_mem_cons.2 ⟨trivial, forall_mem_singleton.2 trivial⟩) rfl ?_
      rintro other status _ _ ⟨isQueued, serves⟩
      obtain rfl | later := mem_cons.1 serves
      · exact ⟨.spawned other, mem_cons_self, isQueued, rfl⟩
      · exact ⟨.spawning ids, mem_cons_of_mem _ mem_cons_self, isQueued, later⟩
  | reconciling records =>
    cases records with
    | nil =>
      refine kept.pass (forall_mem_nil _) rfl ?_
      exact fun other status _ _ serves => absurd serves.choose_spec.1 not_mem_nil
    | cons record records =>
      have later : Task.Holds codec world (.reconciling records) :=
        fun other member => holds other (mem_cons_of_mem _ member)
      have served (id : JobId) (status : JobStatus) :
          Task.Serves status id (.reconciling (record :: records)) →
            (record.id = id ∧ record.status = status) ∨ Task.Serves status id (.reconciling records) := by
        rintro ⟨found, member, isJob⟩
        obtain rfl | earlier := mem_cons.1 member
        · exact .inl isJob
        · exact .inr ⟨found, earlier, isJob⟩
      have done (isDone : ¬ (record.status = .queued ∨ record.status = .running)) :
          Kept codec world ([.reconciling records] ++ others) := by
        refine kept.pass (forall_mem_singleton.2 later) rfl fun id status isOpen _ serves => ?_
        obtain ⟨-, rfl⟩ | next := served id status serves
        · exact absurd isOpen isDone
        · exact ⟨_, mem_cons_self, next⟩
      cases isStatus : record.status with
      | queued =>
        simp only [runTask, isStatus]
        refine kept.pass (forall_mem_cons.2 ⟨trivial, forall_mem_singleton.2 later⟩) rfl
          fun id status _ _ serves => ?_
        obtain now | next := served id status serves
        · exact ⟨_, mem_cons_self, now.2.symm.trans isStatus, now.1⟩
        · exact ⟨_, mem_cons_of_mem _ mem_cons_self, next⟩
      | running =>
        simp only [runTask, isStatus]
        have excused : Excused codec world record.id := .inr (.inr (holds record mem_cons_self isStatus))
        refine kept.tried rfl (show Justified codec world (.fail record.id interruptedReason) from excused)
          (forall_mem_singleton.2 later) rfl (lands isStatus)
          (fun job isOpen => isOpen.elim noConfusion noConfusion)
          fun id status serves => ?_
        obtain now | next := served id status serves
        · exact .inl ⟨now.1.symm, now.2.symm.trans isStatus⟩
        · exact .inr ⟨_, mem_cons_self, next⟩
      | succeeded | failed | cancelled =>
        simp only [runTask, isStatus]
        refine done fun isOpen => ?_
        rw [isStatus] at isOpen
        exact isOpen.elim noConfusion noConfusion

theorem Kept.reorder {tasks tasks' : List Task} (kept : Kept codec world tasks) (same : tasks.Perm tasks') :
    Kept codec world tasks' where
  sound := kept.sound
  holds task member := kept.holds task (same.mem_iff.2 member)
  once := ((same.filterMap Task.claim).append_left _).nodup_iff.1 kept.once
  begun id member := kept.begun id (((same.filterMap Task.claim).append_left _).mem_iff.2 member)
  covered id status isOpen isStatus := by
    obtain ⟨task, member, serves⟩ := kept.covered id status isOpen isStatus
    exact ⟨task, same.mem_iff.1 member, serves⟩

theorem mem_list {record : JobRecord} : record ∈ world.list ↔ ∃ id : JobId, world.jobs[id]? = some record := by
  rw [NodeWorld.list, List.mem_insertionSort, List.mem_map]
  constructor
  · rintro ⟨⟨id, job⟩, member, rfl⟩
    exact ⟨id, Std.ExtTreeMap.mem_toList_iff_getElem?_eq_some.1 member⟩
  · rintro ⟨id, found⟩
    exact ⟨(id, record), Std.ExtTreeMap.mem_toList_iff_getElem?_eq_some.2 found, rfl⟩

/-- **The process stops**, and another one reconciles the jobs of the log. -/
theorem Kept.restart {state : NodeState} (kept : Kept codec state.world state.tasks) :
    Kept codec state.restart.world state.restart.tasks := by
  have sound := kept.sound.more [] state.world.running
  have same : state.restart =
      ⟨state.world.more [] state.world.running, [.reconciling state.world.list]⟩ := by
    unfold NodeState.restart
    simp only [kept.sound.replayed]
    rfl
  rw [same]
  refine @Kept.next _ _ _ state.tasks [.reconciling state.world.list] []
    (by rw [List.append_nil]; exact kept) sound (grows_more _ _) (forall_mem_singleton.2 ?_) ?_ ?_
  · exact fun record member isRunning => mem_append_right _
      (List.mem_map_of_mem (List.mem_filter.2 ⟨member, decide_eq_true isRunning⟩))
  · rw [claimed, claimed]
    exact (List.subperm_append_left _).2 nil_subperm
  · intro id status _ isStatus
    obtain ⟨record, found, isStatus⟩ := Option.map_eq_some_iff.1 isStatus
    exact ⟨_, mem_cons_self, record, mem_list.2 ⟨id, found⟩, kept.sound.named id record found, isStatus⟩

end Tasks

/-! ## The runs -/

section Runs

variable {codec : RequestCodec}

theorem Kept.step {state : NodeState} {input : NodeInput} (kept : Kept codec state.world state.tasks)
    (steady : Steady state input) :
    Kept codec (state.step codec input).world (state.step codec input).tasks := by
  obtain ⟨fresh, lands⟩ := steady
  cases input with
  | submit kind payload id append =>
    simp only [NodeState.step, NodeWorld.create]
    cases append.landed with
    | ok landed =>
      refine @Kept.put _ _ [] [.submitted id] _ _ _ _ kept
        (puts_created _ _ _ (Option.map_eq_none_iff.1 fresh)) (forall_mem_singleton.2 trivial) rfl
        (fun _ => ⟨_, mem_cons_self, rfl, rfl⟩) fun _ _ _ => forall_mem_nil _
    | error message => exact kept
  | cancel id append =>
    simp only [NodeState.step]
    obtain ⟨record, found, allowed, same⟩ | ⟨⟨error, same⟩, refused⟩ :=
      change_cases state.world (.cancel id) append
    · rw [same]
      refine @Kept.put _ _ [] [] _ _ _ _ kept (puts_changed _ kept.sound append found allowed trivial)
        (forall_mem_nil _) rfl ?_ fun _ _ _ => forall_mem_nil _
      exact fun isOpen => isOpen.elim noConfusion noConfusion
    · rw [same]
      exact kept
  | dispatchDue due => exact kept.spawn trivial rfl
  | respawn id => exact kept.spawn trivial rfl
  | turn position environment =>
    simp only [NodeState.step]
    cases found : state.tasks[position]? with
    | none => exact kept
    | some task =>
      obtain ⟨isPosition, same⟩ := List.getElem?_eq_some_iff.1 found
      have first : state.tasks.Perm ([task] ++ state.tasks.eraseIdx position) := by
        rw [← same]
        exact (List.getElem_cons_eraseIdx_perm isPosition).symm
      exact (kept.reorder first).turn fresh (lands position environment task rfl found)
  | stop => exact kept.restart

theorem kept_of_run {history : List (NodeInput × Unit)} {state : NodeState}
    (run : (nodeMachine codec).Run Steady .empty history state) : Kept codec state.world state.tasks := by
  refine run.stateInvariant (fun state => Kept codec state.world state.tasks) ?_ fun state input => Kept.step
  have unknown (id : JobId) (status : JobStatus) : NodeState.empty.world.status? id ≠ some status := by
    rw [NodeWorld.status?, NodeState.empty, Std.ExtTreeMap.getElem?_empty]
    simp
  exact
    { sound :=
        { replayed := rfl
          named := fun id job found => by
            rw [NodeState.empty, Std.ExtTreeMap.getElem?_empty] at found
            cases found
          uncancelled := fun id _ => forall_mem_nil _
          accepted := fun id action member => absurd member not_mem_nil
          succeeded := fun id job found => by
            rw [NodeState.empty, Std.ExtTreeMap.getElem?_empty] at found
            cases found
          failed := fun id failed => absurd failed (unknown id _) }
      holds := forall_mem_nil _
      once := List.nodup_nil
      begun := forall_mem_nil _
      covered := fun id status _ isStatus => absurd isStatus (unknown id status) }

/-- **Jobs.** In every run whose appends land where nobody looks at them, every job acts at most once, as
the gate accepts, and its status tells what happened. -/
theorem jobs_lawful {history : List (NodeInput × Unit)} {state : NodeState}
    (run : (nodeMachine codec).Run Steady .empty history state) : JobsLawful codec state := by
  have kept := kept_of_run run
  have acted (id : JobId) (action : BackendAction) (member : (id, action) ∈ state.world.acted) :
      id ∈ claimed state.world state.tasks :=
    mem_append_left _ (List.mem_map_of_mem (f := Prod.fst) member)
  exact
    { once := (List.nodup_append.1 kept.once).1
      accepted := kept.sound.accepted
      begun := fun id action member => (kept.begun id (acted id action member)).1
      succeeded := kept.sound.succeeded
      failed := kept.sound.failed
      served := kept.covered }

def NodeInput.Landing : NodeInput → Prop
  | .turn _ environment => environment.append.landed = .ok () ∧ environment.advanced = .ok ()
  | .submit _ _ _ _ | .cancel _ _ | .dispatchDue _ | .respawn _ | .stop => True

/-- A step whose appends land meets the condition. -/
theorem steady_of_landing {state : NodeState} {input : NodeInput} (fresh : state.Fresh input)
    (landing : input.Landing) : Steady state input := by
  refine ⟨fresh, ?_⟩
  rintro position environment task rfl found
  obtain ⟨landed, advanced⟩ := landing
  cases task with
  | reading id record => exact fun _ => .inl landed
  | ending id result => exact fun _ => landed
  | reconciling records =>
    cases records with
    | nil => trivial
    | cons record records => exact fun _ _ => landed
  | dispatching due created =>
    cases due with
    | nil => trivial
    | cons task due => exact .inl landed
  | advancing id due created => exact advanced
  | spawned id | started id record | acting id action | submitted id | spawning ids => trivial

theorem met_of_landing {inputs : List NodeInput} :
    ∀ state, (∀ input ∈ inputs, input.Landing) → (nodeMachine codec).Met NodeState.Fresh state inputs →
      (nodeMachine codec).Met Steady state inputs := by
  induction inputs with
  | nil => exact fun _ _ _ => trivial
  | cons input inputs ih =>
    intro state landing fresh
    obtain ⟨first, rest⟩ := forall_mem_cons.1 landing
    exact ⟨steady_of_landing fresh.1 first, ih _ rest fresh.2⟩

instance (state : NodeState) (input : NodeInput) : Decidable (state.Fresh input) := by
  unfold NodeState.Fresh
  cases input <;> infer_instance

/-- A turn of the first task. -/
def sampleTurn (landed : Except String Unit) : NodeInput :=
  .turn 0 ⟨⟨"event", 0, landed⟩, "other", .ok (), .ok .null⟩

def sampleCodec : RequestCodec where
  agent _ := .error "no request"
  browser _ := .ok ⟨.tabs, {}⟩
  computer _ := .error "no request"
  quote text := text

def sampleSubmission : NodeInput := .submit "browser" .null "job" ⟨"event", 0, .ok ()⟩

def sampleExecution : List NodeInput := sampleSubmission :: List.replicate 6 (sampleTurn (.ok ()))

theorem jobs_lawful_sample :
    JobsLawful sampleCodec ((nodeMachine sampleCodec).exec .empty sampleExecution).2 := by
  have landing : ∀ input ∈ sampleExecution, input.Landing := by
    refine forall_mem_cons.2 ⟨trivial, fun input member => ?_⟩
    rw [List.eq_of_mem_replicate member]
    exact ⟨rfl, rfl⟩
  have fresh : (nodeMachine sampleCodec).Met NodeState.Fresh .empty sampleExecution := by decide +kernel
  exact jobs_lawful (Machine.exec_run _ _ _ (met_of_landing _ landing fresh))

def lostStart : List NodeInput :=
  [sampleSubmission, sampleTurn (.ok ()), sampleTurn (.ok ()), sampleTurn (.error "disk full")]

/-- The job is queued, and nothing executes it. -/
theorem jobs_lawful_counterexample :
    ¬ ∀ codec history state, (nodeMachine codec).Run NodeState.Fresh .empty history state →
      JobsLawful codec state := by
  intro always
  have met : (nodeMachine sampleCodec).Met NodeState.Fresh .empty lostStart := by decide +kernel
  have run := Machine.exec_run (nodeMachine sampleCodec) .empty lostStart met
  obtain ⟨task, member, _⟩ := (always sampleCodec _ _ run).served "job" .queued (.inl rfl) (by decide +kernel)
  have idle : ((nodeMachine sampleCodec).exec .empty lostStart).2.tasks.isEmpty = true := by decide +kernel
  rw [List.isEmpty_iff.1 idle] at member
  cases member

end Runs

end Zero3Pilot.JobScheduler
