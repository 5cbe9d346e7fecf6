import Zero3Pilot.ControlPlane.Durability

/-! # Fencing and exactly-once delivery

What the control plane promises its nodes over every run, restarts and failing writes included: only
the holder of the newest lease changes a task, and an accepted envelope is accepted once, however
often it is sent again.

Both rest on one order on task records. A record *extends* another when it knows at least its
deliveries and has at least its fencing token; every change of a record extends it, and the record on
disk always extends the one in memory, so that a restart too only ever extends what was in memory. -/

namespace Zero3Pilot.ControlPlane

variable {plane : Plane} {env : Environment} {request : Request}

/-! ## Envelopes -/

inductive Envelope where
  | event (body : EventEnvelope)
  | terminal (body : TerminalEnvelope) (route : TerminalRoute)

namespace Envelope

def content : Envelope → EventEnvelope ⊕ TerminalEnvelope
  | event body => .inl body
  | terminal body _ => .inr body

def deliveryId : Envelope → String
  | event body => body.deliveryId
  | terminal body _ => body.deliveryId

def fingerprint : Envelope → List Char
  | event body => canonicalJson body.toJson
  | terminal body _ => canonicalJson body.toJson

def toRequest (taskId nodeId : String) : Envelope → Request
  | event body => .acceptEvent taskId nodeId body
  | terminal body route => .acceptTerminal taskId nodeId body route

/-- An envelope that passes the checks of its own fields. -/
def Admissible : Envelope → Prop
  | event body => IsId body.deliveryId
  | terminal body route => IsId body.deliveryId ∧ route.takes body.state

theorem content_eq_of_fingerprint_eq {envelope envelope' : Envelope}
    (same : envelope.fingerprint = envelope'.fingerprint) :
    envelope.content = envelope'.content := by
  cases envelope with
  | event body =>
    cases envelope' with
    | event body' => exact congrArg Sum.inl (canonicalJson_event_inj same)
    | terminal body' => exact absurd same (canonicalJson_event_ne_terminal body body')
  | terminal body =>
    cases envelope' with
    | event body' => exact absurd same.symm (canonicalJson_event_ne_terminal body' body)
    | terminal body' => exact congrArg Sum.inr (canonicalJson_terminal_inj same)

end Envelope

def Accepted (history : List (Action × Outcome)) (taskId : String) (envelope : Envelope) : Prop :=
  ∃ nodeId env response,
    (.call (envelope.toRequest taskId nodeId) env, .answered (.ok response)) ∈ history

/-! ## The order on records -/

/-- **A record extends another**: same task, at least its deliveries, at least its fencing token. -/
structure Extends (record later : TaskRecord) : Prop where
  task : later.task = record.task
  token : record.fencingToken ≤ later.fencingToken
  deliveries : ∀ (deliveryId : String) (fingerprint : List Char),
    record.deliveryFingerprints[deliveryId]? = some fingerprint →
    later.deliveryFingerprints[deliveryId]? = some fingerprint

theorem Extends.refl (record : TaskRecord) : Extends record record :=
  ⟨rfl, Nat.le_refl _, fun _ _ known => known⟩

theorem getElem?_insert_fresh {records : BTreeMap (List Char)} {deliveryId : String}
    (fresh : records[deliveryId]? = none) (fingerprint : List Char) {known : String}
    {value : List Char} (found : records[known]? = some value) :
    (records.insert deliveryId fingerprint)[known]? = some value := by
  rw [Std.ExtTreeMap.getElem?_insert, if_neg, found]
  intro same
  have hit : deliveryId = known := by simpa using same
  rw [hit, found] at fresh
  cases fresh

variable {taskId : String} {response : Response}

/-- **Every change of a record extends it.** -/
theorem RecordMove.extends {leaseTtl : Int} {before record : TaskRecord}
    (move : RecordMove leaseTtl env taskId before request record response) :
    Extends before record := by
  cases move with
  | granted nodeId capabilities free bounded => exact ⟨rfl, Nat.le_succ _, fun _ _ known => known⟩
  | renewed nodeId body active held => exact ⟨rfl, Nat.le_refl _, fun _ _ known => known⟩
  | event nodeId body active fresh isOpen held newer =>
    exact ⟨rfl, Nat.le_refl _, fun _ _ known => getElem?_insert_fresh fresh _ known⟩
  | terminal nodeId body route active fresh isOpen held takes =>
    exact ⟨rfl, Nat.le_refl _, fun _ _ known => getElem?_insert_fresh fresh _ known⟩

def AllExtend (tasks later : BTreeMap TaskRecord) : Prop :=
  ∀ (taskId : String) (record : TaskRecord), tasks[taskId]? = some record →
    ∃ record', later[taskId]? = some record' ∧ Extends record record'

theorem AllExtend.refl (tasks : BTreeMap TaskRecord) : AllExtend tasks tasks :=
  fun _ record found => ⟨record, found, .refl record⟩

variable {record : TaskRecord}

theorem TaskWrite.extends (write : TaskWrite plane env request taskId record response)
    {before : TaskRecord} (known : plane.state.tasks[taskId]? = some before) : Extends before record := by
  cases write with
  | created task validId absent => rw [absent] at known; cases known
  | moved validId found ownId move =>
    rw [found] at known
    cases known
    exact move.extends

theorem AllExtend.insert {tasks later : BTreeMap TaskRecord} (extends_ : AllExtend tasks later)
    (above : ∀ before, tasks[taskId]? = some before → Extends before record) :
    AllExtend tasks (later.insert taskId record) := by
  intro id before found
  rw [Std.ExtTreeMap.getElem?_insert]
  by_cases hit : taskId = id
  · subst hit
    exact ⟨record, if_pos (by simp), above before found⟩
  · obtain ⟨record', found', extended⟩ := extends_ id before found
    exact ⟨record', by rw [if_neg (by simpa using hit), found'], extended⟩

theorem AllExtend.insert_both {tasks later : BTreeMap TaskRecord}
    (extends_ : AllExtend tasks later) (taskId : String) (record : TaskRecord) :
    AllExtend (tasks.insert taskId record) (later.insert taskId record) := by
  intro id before found
  rw [Std.ExtTreeMap.getElem?_insert] at found ⊢
  by_cases hit : taskId = id
  · rw [if_pos (by simpa using hit)] at found ⊢
    exact ⟨before, found, .refl before⟩
  · rw [if_neg (by simpa using hit)] at found ⊢
    exact extends_ id before found

/-! ## Memory, disk and history -/

/-- **The files run ahead of memory**: they hold a state each of whose records extends the one in
memory. -/
def DiskAhead (plane : Plane) : Prop :=
  ∃ onDisk, Filed plane.disk onDisk ∧ AllExtend plane.state.tasks onDisk.tasks

theorem serve_extends (keyed : Keyed plane.state) (env : Environment) (request : Request) :
    AllExtend plane.state.tasks (plane.serve env request).2.state.tasks := by
  have served := serve_cases keyed env request
  generalize plane.serve env request = result at served
  cases served with
  | refused error | replied response decided => exact .refl _
  | task taskId record response write failure =>
    rw [storeTask_state]
    split
    · exact (AllExtend.refl _).insert fun before known => write.extends known
    · exact .refl _
  | node nodeId record validId ownId aboutNode failure =>
    rw [storeNode_tasks]
    exact .refl _

theorem DiskAhead.serve (ahead : DiskAhead plane) (keyed : Keyed plane.state) (env : Environment)
    (request : Request) : DiskAhead (plane.serve env request).2 := by
  obtain ⟨onDisk, filed, extended⟩ := ahead
  have served := serve_cases keyed env request
  generalize plane.serve env request = result at served
  cases served with
  | refused error | replied response decided => exact ⟨onDisk, filed, extended⟩
  | task taskId record response write failure =>
    refine ⟨_, filed.storeTask write.ownId env response, ?_⟩
    rw [storeTask_state]
    by_cases stored : plane.taskFailure env record = none
    · rw [if_pos stored, if_pos (by simp [publishes, stored])]
      exact extended.insert_both taskId record
    · rw [if_neg stored]
      split
      · exact extended.insert fun before known => write.extends known
      · exact extended
  | node nodeId record validId ownId aboutNode failure =>
    refine ⟨_, filed.storeNode ownId validId env (.node record), ?_⟩
    rw [storeNode_tasks]
    split
    · exact extended
    · exact extended

/-- **What a run keeps** of the files, of the envelopes it has accepted and of the leases it has granted. -/
structure DeliveryInvariant (history : List (Action × Outcome)) (plane : Plane) : Prop where
  keyed : Keyed plane.state
  ahead : DiskAhead plane
  delivered : ∀ taskId envelope, Accepted history taskId envelope →
    ∃ record, plane.state.tasks[taskId]? = some record ∧
      record.deliveryFingerprints[envelope.deliveryId]? = some envelope.fingerprint
  admissible : ∀ taskId envelope, Accepted history taskId envelope → envelope.Admissible
  granted : ∀ taskId grant, grant ∈ grants taskId history →
    ∃ record, plane.state.tasks[taskId]? = some record ∧ grant.2 ≤ record.fencingToken

variable {envelope : Envelope}

theorem serve_accepted (keyed : Keyed plane.state) {taskId nodeId : String}
    (accepted : (plane.serve env (envelope.toRequest taskId nodeId)).1 = .ok response) :
    ∃ record, (plane.serve env (envelope.toRequest taskId nodeId)).2.state.tasks[taskId]? =
        some record ∧
      record.deliveryFingerprints[envelope.deliveryId]? = some envelope.fingerprint := by
  have served := serve_cases keyed env (envelope.toRequest taskId nodeId)
  generalize plane.serve env (envelope.toRequest taskId nodeId) = result at served accepted
  generalize asked : envelope.toRequest taskId nodeId = request at served
  cases served with
  | refused error => cases accepted
  | replied response' decided =>
    cases envelope with
    | event body =>
      subst asked
      cases decided with
      | replayedEvent _ _ _ record known delivered => exact ⟨record, known, delivered⟩
    | terminal body route =>
      subst asked
      cases decided with
      | replayedTerminal _ _ _ _ record known delivered => exact ⟨record, known, delivered⟩
  | task id record response' write failure =>
    have stored : plane.taskFailure env record = none := by
      rw [storeTask_answer] at accepted
      by_contra unstored
      rw [if_neg unstored] at accepted
      cases accepted
    cases envelope with
    | event body =>
      subst asked
      cases write with
      | moved validId known ownId move =>
        cases move with
        | event =>
          refine ⟨_, by rw [storeTask_get, if_pos ⟨stored, rfl⟩], ?_⟩
          exact Std.ExtTreeMap.getElem?_insert_self
    | terminal body route =>
      subst asked
      cases write with
      | moved validId known ownId move =>
        cases move with
        | terminal =>
          refine ⟨_, by rw [storeTask_get, if_pos ⟨stored, rfl⟩], ?_⟩
          exact Std.ExtTreeMap.getElem?_insert_self
  | node id record validId ownId aboutNode failure =>
    cases envelope <;> (subst asked; cases aboutNode)

theorem admissible_of_serve {taskId nodeId : String}
    (accepted : (plane.serve env (envelope.toRequest taskId nodeId)).1 = .ok response) :
    envelope.Admissible := by
  rw [Plane.serve] at accepted
  split at accepted
  · cases accepted
  · rename_i decision decided
    cases envelope with
    | event body =>
      simp only [Envelope.toRequest, Plane.decide, acceptEvent, bind_ok, validateId_ok] at decided
      obtain ⟨_, _, _, valid, _⟩ := decided
      exact valid
    | terminal body route =>
      simp only [Envelope.toRequest, Plane.decide, acceptTerminal, validateTerminalRoute, bind_ok,
        validateId_ok, ensure_ok] at decided
      obtain ⟨_, _, _, valid, _, takes, _⟩ := decided
      exact ⟨valid, takes⟩

theorem serve_granted (keyed : Keyed plane.state) {grant : String × Nat}
    (handed : grantOn taskId (.call request env, .answered (plane.serve env request).1) =
      some grant) :
    ∃ record, (plane.serve env request).2.state.tasks[taskId]? = some record ∧
      grant.2 ≤ record.fencingToken := by
  have served := serve_cases keyed env request
  generalize plane.serve env request = result at served handed
  cases served with
  | refused error =>
    rw [grantOn_error] at handed
    cases handed
  | replied response decided =>
    rw [grantOn_reply taskId decided] at handed
    cases handed
  | task id record response write failure =>
    rw [storeTask_answer] at handed
    by_cases stored : plane.taskFailure env record = none
    · rw [if_pos stored] at handed
      cases write with
      | created task validId absent =>
        rw [grantOn_ok (by simp)] at handed
        cases handed
      | moved validId known ownId move =>
        cases move with
        | granted nodeId capabilities free bounded =>
          rename_i before
          simp only [grantOn] at handed
          split at handed
          · rename_i here
            cases handed
            have hit : id = taskId := ownId.symm.trans here
            refine ⟨_, by rw [storeTask_get, if_pos ⟨stored, hit⟩], ?_⟩
            exact Nat.le_refl _
          · cases handed
        | renewed | event | terminal =>
          rw [grantOn_ok (by simp)] at handed
          cases handed
    · rw [if_neg stored, grantOn_error] at handed
      cases handed
  | node id record validId ownId aboutNode failure =>
    rw [storeNode_answer] at handed
    split at handed
    · rw [grantOn_ok (by simp)] at handed
      cases handed
    · rw [grantOn_error] at handed
      cases handed

variable {history : List (Action × Outcome)}

theorem accepted_append {action : Action} {outcome : Outcome}
    (accepted : Accepted (history ++ [(action, outcome)]) taskId envelope) :
    Accepted history taskId envelope ∨ ∃ nodeId env response,
      action = .call (envelope.toRequest taskId nodeId) env ∧
        outcome = .answered (.ok response) := by
  obtain ⟨nodeId, env, response, member⟩ := accepted
  rcases List.mem_append.1 member with earlier | last
  · exact .inl ⟨nodeId, env, response, earlier⟩
  · have same := List.mem_singleton.1 last
    exact .inr ⟨nodeId, env, response, (congrArg Prod.fst same).symm, (congrArg Prod.snd same).symm⟩

/-- **One served request preserves what the run keeps.** -/
theorem deliveryInvariant_serve (invariant : DeliveryInvariant history plane) (env : Environment)
    (request : Request) :
    DeliveryInvariant (history ++ [(.call request env, .answered (plane.serve env request).1)])
      (plane.serve env request).2 where
  keyed := invariant.keyed.serve env request
  ahead := invariant.ahead.serve invariant.keyed env request
  delivered taskId envelope accepted := by
    rcases accepted_append accepted with earlier | ⟨nodeId, env', response, same, answered⟩
    · obtain ⟨record, known, delivered⟩ := invariant.delivered taskId envelope earlier
      obtain ⟨record', known', extended⟩ := serve_extends invariant.keyed env request _ _ known
      exact ⟨record', known', extended.deliveries _ _ delivered⟩
    · cases same
      exact serve_accepted invariant.keyed (Outcome.answered.inj answered)
  admissible taskId envelope accepted := by
    rcases accepted_append accepted with earlier | ⟨nodeId, env', response, same, answered⟩
    · exact invariant.admissible taskId envelope earlier
    · cases same
      exact admissible_of_serve (Outcome.answered.inj answered)
  granted taskId grant member := by
    rw [grants_append] at member
    rcases List.mem_append.1 member with earlier | last
    · obtain ⟨record, known, token⟩ := invariant.granted taskId grant earlier
      obtain ⟨record', known', extended⟩ := serve_extends invariant.keyed env request _ _ known
      exact ⟨record', known', Nat.le_trans token extended.token⟩
    · exact serve_granted invariant.keyed (Option.mem_toList.1 last)

/-- **A restart preserves what the run keeps**: memory takes over the records on disk, which extend
those it had. -/
theorem deliveryInvariant_reopen (invariant : DeliveryInvariant history plane) :
    DeliveryInvariant (history ++ [(.restart, .reopened plane.reopen.1)]) plane.reopen.2 := by
  obtain ⟨onDisk, filed, extended⟩ := invariant.ahead
  have reopened : plane.reopen = (.ok (), { plane with state := onDisk }) := by
    rw [Plane.reopen, filed.open_eq]
  rw [reopened]
  constructor
  · exact filed.keyed
  · exact ⟨onDisk, filed, .refl _⟩
  · intro taskId envelope accepted
    rcases accepted_append accepted with earlier | ⟨nodeId, env', response, same, -⟩
    · obtain ⟨record, known, delivered⟩ := invariant.delivered taskId envelope earlier
      obtain ⟨record', known', later⟩ := extended _ _ known
      exact ⟨record', known', later.deliveries _ _ delivered⟩
    · cases same
  · intro taskId envelope accepted
    rcases accepted_append accepted with earlier | ⟨nodeId, env', response, same, -⟩
    · exact invariant.admissible taskId envelope earlier
    · cases same
  · intro taskId grant member
    rw [grants_append] at member
    rcases List.mem_append.1 member with earlier | last
    · obtain ⟨record, known, token⟩ := invariant.granted taskId grant earlier
      obtain ⟨record', known', later⟩ := extended _ _ known
      exact ⟨record', known', Nat.le_trans token later.token⟩
    · cases last

theorem deliveryInvariant_of_run {leaseTtl : Int}
    (run : controlPlane.Run Machine.anyStep (.empty leaseTtl) history plane) :
    DeliveryInvariant history plane := by
  refine run.invariant DeliveryInvariant ?_ ?_
  · exact {
      keyed := Filed.empty.keyed
      ahead := ⟨.empty, .empty, .refl _⟩
      delivered := by
        rintro taskId envelope ⟨nodeId, env, response, member⟩
        cases member
      admissible := by
        rintro taskId envelope ⟨nodeId, env, response, member⟩
        cases member
      granted := by
        intro taskId grant member
        cases member }
  · intro history plane action invariant _
    cases action with
    | call request env => exact deliveryInvariant_serve invariant env request
    | restart => exact deliveryInvariant_reopen invariant

/-! ## Known delivery identifiers -/

/-- **An envelope that is known is acknowledged again**, and nothing changes. -/
theorem serve_envelope_known (valid : IsId taskId) (admissible : envelope.Admissible)
    (known : plane.state.tasks[taskId]? = some record)
    (delivered : record.deliveryFingerprints[envelope.deliveryId]? = some envelope.fingerprint)
    (nodeId : String) :
    plane.serve env (envelope.toRequest taskId nodeId) = (.ok (.task record), plane) := by
  have decided : plane.decide env (envelope.toRequest taskId nodeId) =
      .ok (.reply (.task record)) := by
    cases envelope with
    | event body =>
      replace delivered : record.deliveryFingerprints[body.deliveryId]? =
        some (canonicalJson body.toJson) := delivered
      simp only [Envelope.toRequest, Plane.decide, acceptEvent, bind_ok, validateId_ok, orError_ok]
      refine ⟨(), valid, (), admissible, record, known, ?_⟩
      rw [delivered]
      simp only [bind_ok, ensure_ok, pure_ok]
      exact ⟨(), trivial, trivial⟩
    | terminal body route =>
      replace delivered : record.deliveryFingerprints[body.deliveryId]? =
        some (canonicalJson body.toJson) := delivered
      simp only [Envelope.toRequest, Plane.decide, acceptTerminal, validateTerminalRoute, bind_ok,
        validateId_ok, orError_ok, ensure_ok]
      refine ⟨(), valid, (), admissible.1, (), admissible.2, record, known, ?_⟩
      rw [delivered]
      simp only [bind_ok, ensure_ok, pure_ok]
      exact ⟨(), trivial, trivial⟩
  rw [Plane.serve, decided]
  rfl

/-- **A known identifier with another content is refused**, and nothing changes. -/
theorem serve_envelope_reused (known : plane.state.tasks[taskId]? = some record)
    {fingerprint : List Char}
    (delivered : record.deliveryFingerprints[envelope.deliveryId]? = some fingerprint)
    (other : fingerprint ≠ envelope.fingerprint) (nodeId : String) :
    ∃ error, plane.serve env (envelope.toRequest taskId nodeId) = (.error error, plane) := by
  cases decided : plane.decide env (envelope.toRequest taskId nodeId) with
  | error error => exact ⟨error, by rw [Plane.serve, decided]⟩
  | ok decision =>
    exfalso
    have inverted := decide_cases decided
    cases envelope with
    | event body =>
      cases inverted with
      | replayedEvent _ _ _ record' known' delivered' =>
        rw [known] at known'
        cases known'
        exact other (Option.some.inj (delivered.symm.trans delivered'))
      | moved _ record' _ _ known' move =>
        cases move with
        | event _ _ _ fresh =>
          rw [known] at known'
          cases known'
          exact Option.some_ne_none _ (delivered.symm.trans fresh)
    | terminal body route =>
      cases inverted with
      | replayedTerminal _ _ _ _ record' known' delivered' =>
        rw [known] at known'
        cases known'
        exact other (Option.some.inj (delivered.symm.trans delivered'))
      | moved _ record' _ _ known' move =>
        cases move with
        | terminal _ _ _ _ fresh =>
          rw [known] at known'
          cases known'
          exact Option.some_ne_none _ (delivered.symm.trans fresh)

/-! ## Fencing -/

def Request.fencing : Request → Option (String × Nat)
  | .renew taskId _ body => some (taskId, body.fencingToken)
  | .acceptEvent taskId _ body => some (taskId, body.fencingToken)
  | .acceptTerminal taskId _ body _ => some (taskId, body.fencingToken)
  | _ => none

/-- **The caller of a request holds the lease** of the task it is about. -/
def Request.HeldBy (state : ControlPlaneState) (env : Environment) : Request → Prop
  | .renew taskId nodeId body => ∃ record active, state.tasks[taskId]? = some record ∧
      HoldsLease record nodeId record.task.executionId body.leaseId body.fencingToken
        env.checkedAt active
  | .acceptEvent taskId nodeId body => ∃ record active, state.tasks[taskId]? = some record ∧
      HoldsLease record nodeId body.executionId body.leaseId body.fencingToken env.checkedAt active
  | .acceptTerminal taskId nodeId body _ => ∃ record active, state.tasks[taskId]? = some record ∧
      HoldsLease record nodeId body.executionId body.leaseId body.fencingToken env.checkedAt active
  | _ => False

def Plane.ChangedBy (plane : Plane) (env : Environment) (request : Request) : Prop :=
  (plane.serve env request).2.state ≠ plane.state ∨
    (plane.serve env request).2.disk.open ≠ plane.disk.open

/-- **Only the holder of the lease changes anything** through a request that carries a token. -/
theorem heldBy_of_changed (keyed : Keyed plane.state) {fencing : String × Nat}
    (carried : request.fencing = some fencing) (changed : plane.ChangedBy env request) :
    request.HeldBy plane.state env := by
  have served := serve_cases keyed env request
  rw [Plane.ChangedBy] at changed
  generalize plane.serve env request = result at served changed
  cases served with
  | refused error | replied response decided => simp at changed
  | task taskId record response write failure =>
    cases write with
    | created task validId absent => cases carried
    | moved validId known ownId move =>
      cases move with
      | granted => cases carried
      | renewed nodeId body active held | event nodeId body active fresh isOpen held newer =>
        exact ⟨_, active, known, held⟩
      | terminal nodeId body route active fresh isOpen held takes =>
        exact ⟨_, active, known, held⟩
  | node nodeId record validId ownId aboutNode failure =>
    cases request <;> first | (cases aboutNode; done) | cases carried

theorem token_of_heldBy {token : Nat} (carried : request.fencing = some (taskId, token))
    (held : request.HeldBy plane.state env) :
    ∃ record, plane.state.tasks[taskId]? = some record ∧ record.fencingToken = token := by
  cases request with
  | createTask | registerNode | heartbeat | tryLease => cases carried
  | renew id nodeId body =>
    obtain ⟨record, active, known, holds⟩ := held
    cases carried
    exact ⟨record, known, holds.newest⟩
  | acceptEvent id nodeId body =>
    obtain ⟨record, active, known, holds⟩ := held
    cases carried
    exact ⟨record, known, holds.newest⟩
  | acceptTerminal id nodeId body route =>
    obtain ⟨record, active, known, holds⟩ := held
    cases carried
    exact ⟨record, known, holds.newest⟩

/-! ## Every run -/

/-- **Fenced, exactly-once delivery** in a state reached with a history. -/
structure FencedDelivery (history : List (Action × Outcome)) (plane : Plane) : Prop where
  fenced : ∀ env request fencing, request.fencing = some fencing → plane.ChangedBy env request →
    request.HeldBy plane.state env
  outdated : ∀ env request taskId token grant, request.fencing = some (taskId, token) →
    grant ∈ grants taskId history → token < grant.2 → ¬ plane.ChangedBy env request
  /-- An accepted envelope sent again, by any node, succeeds and changes nothing. -/
  resent : ∀ taskId envelope, Accepted history taskId envelope → ∀ env nodeId, ∃ record,
    plane.state.tasks[taskId]? = some record ∧
      plane.serve env (envelope.toRequest taskId nodeId) = (.ok (.task record), plane)
  /-- An envelope for the same task that reuses the identifier of an accepted one with another
  content, through either endpoint, is refused and changes nothing. -/
  reused : ∀ (taskId : String) (envelope envelope' : Envelope), Accepted history taskId envelope →
    envelope'.deliveryId = envelope.deliveryId → envelope'.content ≠ envelope.content →
    ∀ env nodeId, ∃ error,
      plane.serve env (envelope'.toRequest taskId nodeId) = (.error error, plane)

/-- **Fencing and exactly-once delivery hold in every run** of the control plane, with restarts at
any time and whichever writes fail. -/
theorem delivery_of_run {leaseTtl : Int} {history : List (Action × Outcome)}
    (run : controlPlane.Run Machine.anyStep (.empty leaseTtl) history plane) :
    FencedDelivery history plane := by
  have invariant := deliveryInvariant_of_run run
  constructor
  · intro env request fencing carried changed
    exact heldBy_of_changed invariant.keyed carried changed
  · intro env request taskId token grant carried granted older changed
    have held := heldBy_of_changed invariant.keyed carried changed
    obtain ⟨record, known, newest⟩ := token_of_heldBy carried held
    obtain ⟨record', known', reached⟩ := invariant.granted taskId grant granted
    have same : record' = record := Option.some.inj (known'.symm.trans known)
    subst same
    omega
  · intro taskId envelope accepted env nodeId
    obtain ⟨record, known, delivered⟩ := invariant.delivered taskId envelope accepted
    have valid := (invariant.keyed.tasks taskId record known).2
    have admissible := invariant.admissible taskId envelope accepted
    exact ⟨record, known, serve_envelope_known valid admissible known delivered nodeId⟩
  · intro taskId envelope envelope' accepted sameId otherContent env nodeId
    obtain ⟨record, known, delivered⟩ := invariant.delivered taskId envelope accepted
    rw [← sameId] at delivered
    refine serve_envelope_reused known delivered ?_ nodeId
    intro same
    exact otherContent (Envelope.content_eq_of_fingerprint_eq same).symm

/-- The delivery properties after the run of `exampleActions` and a restart. -/
theorem delivery_exampleActions :
    FencedDelivery (controlPlane.exec (.empty 45) (exampleActions ++ [.restart])).1
      (controlPlane.exec (.empty 45) (exampleActions ++ [.restart])).2 :=
  delivery_of_run (Machine.exec_run _ _ _ (Machine.met_of_forall (fun _ _ _ => trivial) _))

def exampleForeignEvent : EventEnvelope :=
  { exampleEvent "delivery-1" 1 with executionId := "exec-2" }

/-- **A delivery identifier is bound per task**: the identifier of an event that was accepted for one
task is accepted with another content for another task. -/
theorem delivery_counterexample :
    ¬ ∀ (leaseTtl : Int) (history : List (Action × Outcome)) (plane : Plane),
      controlPlane.Run Machine.anyStep (.empty leaseTtl) history plane →
      ∀ (taskId : String) (envelope : Envelope), Accepted history taskId envelope →
      ∀ (taskId' : String) (envelope' : Envelope), envelope'.deliveryId = envelope.deliveryId →
      envelope'.content ≠ envelope.content →
      ∀ env nodeId, ∃ error,
        plane.serve env (envelope'.toRequest taskId' nodeId) = (.error error, plane) := by
  intro claimed
  let leased := controlPlane.exec (.empty 45) exampleLease
  let delivery : Action :=
    .call (.acceptEvent "task-1" "node-1" (exampleEvent "delivery-1" 1)) (exampleEnvironment 3)
  let delivered := controlPlane.step leased.2 delivery
  let further : List Action :=
    [.call (.createTask (exampleTask "task-2" "exec-2")) (exampleEnvironment 4),
      .call (.tryLease "node-1" ["codex", "thread", "turn"]) (exampleEnvironment 5)]
  have leasing : controlPlane.Run Machine.anyStep (.empty 45) leased.1 leased.2 :=
    Machine.exec_run _ _ _ (Machine.met_of_forall (fun _ _ _ => trivial) _)
  have run := (leasing.snoc delivery trivial).append_exec further
    (Machine.met_of_forall (fun _ _ _ => trivial) _)
  have accepted : Accepted (leased.1 ++ [(delivery, delivered.1)] ++
      (controlPlane.exec delivered.2 further).1) "task-1" (.event (exampleEvent "delivery-1" 1)) := by
    have succeeds : (leased.2.serve (exampleEnvironment 3)
        (.acceptEvent "task-1" "node-1" (exampleEvent "delivery-1" 1))).1.isOk := by decide +kernel
    cases answer : (leased.2.serve (exampleEnvironment 3)
        (.acceptEvent "task-1" "node-1" (exampleEvent "delivery-1" 1))).1 with
    | error error => rw [answer] at succeeds; cases succeeds
    | ok response =>
      refine ⟨"node-1", exampleEnvironment 3, response, List.mem_append_left _ ?_⟩
      refine List.mem_append_right _ (List.mem_singleton.2 ?_)
      exact Prod.ext rfl (congrArg Outcome.answered answer.symm)
  obtain ⟨error, refused⟩ := claimed 45 _ _ run "task-1" _ accepted "task-2"
    (.event exampleForeignEvent) rfl (by simp [Envelope.content, exampleForeignEvent, exampleEvent])
    (exampleEnvironment 6) "node-1"
  have succeeds : ((controlPlane.exec delivered.2 further).2.serve (exampleEnvironment 6)
      (.acceptEvent "task-2" "node-1" exampleForeignEvent)).1.isOk := by decide +kernel
  have failed := congrArg Prod.fst refused
  rw [show ((controlPlane.exec delivered.2 further).2.serve (exampleEnvironment 6)
      (.acceptEvent "task-2" "node-1" exampleForeignEvent)).1 = _ from failed] at succeeds
  cases succeeds

end Zero3Pilot.ControlPlane
