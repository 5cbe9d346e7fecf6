import Zero3Pilot.GroupRuntime.GroupWorld

/-! # The controller of a development group

`controller/group-controller.ts` and what it uses of the store: the state file is replaced through a
temporary file, leftover temporary files are removed when a group is resumed, events are appended to
the ledger one at a time, and the group state is what they make of it. -/

namespace Zero3Pilot.GroupRuntime

/-! ## The store -/

def writeState (state : DevelopmentGroupRuntimeState) : GroupProgram Unit := do
  let temporary ← ask (.createTemporary state)
  ask (.renameTemporary temporary)

/-- `recoverInterruptedWrite(state.json)`; the file itself is always there. -/
def recoverInterruptedWrite : GroupProgram Unit := do
  let temporaries ← ask .temporaries
  if temporaries = [] then return
  let _ ← ask .loadState
  temporaries.forM fun temporary => ask (.removeTemporary temporary)

/-- `DevelopmentGroupStore.reconcile(groupId)`: whether events have to be replayed. -/
def reconcile : GroupProgram Bool := do
  recoverInterruptedWrite
  let state ← ask .loadState
  let events ← ask .readEvents
  if events.length < state.lastEventSequence then
    throw (.failed s!"state sequence {state.lastEventSequence} is ahead of durable ledger {events.length}")
  return state.lastEventSequence < events.length

/-! ## Events -/

def GroupEvent.effect (event : GroupEvent) (state : DevelopmentGroupRuntimeState) :
    DevelopmentGroupRuntimeState :=
  match event.type with
  | .groupCreated => { state with status := .planning }
  | .planFrozen => { state with status := .ready }
  | .waveStarted => { state with status := .running, activeWaveId := event.waveId }
  | .sessionBlocked =>
    { state with
      status := .blocked
      unresolvedBlockers :=
        match event.detail with
        | some detail =>
          if detail ≠ "" && !state.unresolvedBlockers.contains detail then
            state.unresolvedBlockers ++ [detail]
          else state.unresolvedBlockers
        | none => state.unresolvedBlockers }
  | .sessionDelivered => { state with status := .running }
  | .integrationStarted => { state with status := .integrating }
  | .integrationMerged => { state with status := .verifying }
  | .verificationStarted => { state with status := .verifying }
  | .verificationFailed => { state with status := .repairing }
  | .repairCreated =>
    { state with status := .repairing, repairWaveCount := state.repairWaveCount + 1 }
  | .groupCompleted => { state with status := .completed }
  | .sessionCreated | .sessionStarted | .deliveryRejected => state

def reduceGroupEvent (state : DevelopmentGroupRuntimeState) (event : GroupEvent) :
    Except String DevelopmentGroupRuntimeState :=
  if event.sequence ≤ state.lastEventSequence then .ok state
  else if event.sequence ≠ state.lastEventSequence + 1 then
    .error s!"group event sequence gap: expected {state.lastEventSequence + 1}, got {event.sequence}"
  else if event.groupId ≠ state.groupId then .error "cross-group event during state reduction"
  else .ok { event.effect state with lastEventSequence := event.sequence }

def reduceGroupEvents (state : DevelopmentGroupRuntimeState) (events : List GroupEvent) :
    Except String DevelopmentGroupRuntimeState :=
  events.foldlM reduceGroupEvent state

theorem GroupEvent.effect_frame (event : GroupEvent) (state : DevelopmentGroupRuntimeState) :
    (event.effect state).groupId = state.groupId ∧
      (event.effect state).integrationSha = state.integrationSha ∧
      (event.effect state).outcomeUnknownCount = state.outcomeUnknownCount := by
  unfold effect
  cases event.type <;> exact ⟨rfl, rfl, rfl⟩

theorem reduceGroupEvent_integrationSha {state next : DevelopmentGroupRuntimeState}
    {event : GroupEvent} (reduced : reduceGroupEvent state event = .ok next) :
    next.integrationSha = state.integrationSha := by
  unfold reduceGroupEvent at reduced
  split at reduced
  · cases reduced
    rfl
  split at reduced
  · cases reduced
  split at reduced
  · cases reduced
  · cases reduced
    exact (event.effect_frame state).2.1

theorem reduceGroupEvents_integrationSha {events : List GroupEvent} :
    ∀ {state next : DevelopmentGroupRuntimeState}, reduceGroupEvents state events = .ok next →
      next.integrationSha = state.integrationSha := by
  induction events with
  | nil =>
    intro state next reduced
    cases reduced
    rfl
  | cons event events ih =>
    intro state next reduced
    rw [reduceGroupEvents, List.foldlM_cons, bind_ok] at reduced
    obtain ⟨between, first, rest⟩ := reduced
    rw [ih rest, reduceGroupEvent_integrationSha first]

/-! ## The controller -/

def resumeGroup : GroupProgram DevelopmentGroupRuntimeState := do
  let needsSemanticReplay ← reconcile
  let state ← ask .loadState
  if needsSemanticReplay then
    let events ← ask .readEvents
    let next ← given .failed (reduceGroupEvents state events)
    writeState next
    return next
  else
    return state

/-- What is recorded. -/
structure GroupEventInput where
  type : GroupEventType
  (sessionId waveId detail : Option String)

def GroupEventInput.event (input : GroupEventInput) (groupId : String) (sequence : Nat) :
    GroupEvent where
  eventId := s!"{groupId}:{sequence}:{input.type.text}"
  sequence := sequence
  groupId := groupId
  type := input.type
  sessionId := input.sessionId
  waveId := input.waveId
  detail := input.detail

def recordJob (groupId : String) (input : GroupEventInput) :
    GroupProgram DevelopmentGroupRuntimeState := do
  let events ← ask .readEvents
  let event := input.event groupId (events.length + 1)
  ask (.appendEvent event)
  let state ← ask .loadState
  let next ← given .failed (reduceGroupEvents state [event])
  writeState next
  return next

def record (groupId : String) (input : GroupEventInput) :
    GroupProgram DevelopmentGroupRuntimeState := do
  ask .enterRecordQueue
  match ← attempt (recordJob groupId input) with
  | .ok state =>
    ask .leaveRecordQueue
    return state
  | .error error =>
    ask .leaveRecordQueue
    throw error

end Zero3Pilot.GroupRuntime
