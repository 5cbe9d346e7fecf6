import Zero3Pilot.ControlPlane.Records
import Zero3Pilot.RemoteHost.Outbox

/-! # Event sequences of the outbox

The next event sequence of an execution is one more than what the cursor file and the pending
envelopes know. A sequence is never used again as long as one of the two remembers it. The step
that can forget is the removal of a pending event whose cursor was never written, because the
process stopped between persisting the envelope and writing the cursor. -/

namespace Zero3Pilot.RemoteHost

variable {config : OutboxConfig} {outbox : Outbox} {pair : String × String}

def OutboxEnvelope.sequenceOf (envelope : OutboxEnvelope) (pair : String × String) : Option Nat :=
  if envelope.pair = pair then envelope.eventSequence? else none

def persistedSequence (pair : String × String) : OutboxAction × OutboxOutcome → Option Nat
  | (_, .persisted envelope) => envelope.sequenceOf pair
  | _ => none

def persistedSequences (pair : String × String) (history : List (OutboxAction × OutboxOutcome)) :
    List Nat :=
  history.filterMap (persistedSequence pair)

theorem persistedSequences_append (history : List (OutboxAction × OutboxOutcome))
    (step : OutboxAction × OutboxOutcome) :
    persistedSequences pair (history ++ [step]) =
      persistedSequences pair history ++ (persistedSequence pair step).toList := by
  rw [persistedSequences, List.filterMap_append, List.filterMap_cons]
  cases persistedSequence pair step <;> rfl

/-! ## What the directories remember -/

/-- The cursor file of `pair` has reached `sequence`. -/
def CursorCovers (config : OutboxConfig) (outbox : Outbox) (pair : String × String)
    (sequence : Nat) : Prop :=
  ∃ cursor, outbox.cursors[config.safeKey pair.1 pair.2]? = some cursor ∧
    (cursor.taskId, cursor.executionId) = pair ∧ sequence ≤ cursor.lastSequence

def PendingCovers (outbox : Outbox) (pair : String × String) (sequence : Nat)
    (except : Option String) : Prop :=
  ∃ id envelope reached, outbox.pending[id]? = some envelope ∧ some id ≠ except ∧
    envelope.sequenceOf pair = some reached ∧ sequence ≤ reached

/-- **A sequence of `pair` is covered** by its cursor or by a pending event. -/
def Covered (config : OutboxConfig) (outbox : Outbox) (pair : String × String)
    (sequence : Nat) : Prop :=
  CursorCovers config outbox pair sequence ∨ PendingCovers outbox pair sequence none

theorem parseEnvelope_ok {envelope parsed : OutboxEnvelope}
    (passed : parseEnvelope envelope = .ok parsed) : parsed = envelope := by
  unfold parseEnvelope at passed
  simp only [bind_ok, pure_ok] at passed
  obtain ⟨_, _, _, _, same⟩ := passed
  exact same.symm

def AllParse (envelopes : List OutboxEnvelope) : Prop :=
  ∀ envelope ∈ envelopes, ∃ parsed, parseEnvelope envelope = .ok parsed

theorem mapM_parseEnvelope_ok {files envelopes : List OutboxEnvelope} :
    files.mapM parseEnvelope = .ok envelopes ↔ AllParse files ∧ envelopes = files := by
  induction files generalizing envelopes with
  | nil =>
    rw [List.mapM_nil, pure_ok]
    constructor
    · rintro rfl
      exact ⟨by simp [AllParse], rfl⟩
    · rintro ⟨-, rfl⟩
      rfl
  | cons file files ih =>
    rw [List.mapM_cons]
    simp only [bind_ok, pure_ok, ih]
    constructor
    · rintro ⟨parsed, first, rest, ⟨later, rfl⟩, rfl⟩
      refine ⟨?_, by rw [parseEnvelope_ok first]⟩
      intro envelope member
      rcases List.mem_cons.1 member with rfl | inRest
      · exact ⟨parsed, first⟩
      · exact later envelope inRest
    · rintro ⟨every, rfl⟩
      obtain ⟨parsed, first⟩ := every file List.mem_cons_self
      have same := parseEnvelope_ok first
      subst same
      exact ⟨parsed, first, files, ⟨fun envelope inRest =>
        every envelope (List.mem_cons_of_mem _ inRest), rfl⟩, rfl⟩

theorem listEnvelopes_ok {files envelopes : List OutboxEnvelope} :
    listEnvelopes files = .ok envelopes ↔ AllParse files ∧
      envelopes = files.mergeSort fun left right => compareEnvelopes left right ≠ .gt := by
  unfold listEnvelopes
  simp only [bind_ok, pure_ok, mapM_parseEnvelope_ok]
  constructor
  · rintro ⟨_, ⟨every, rfl⟩, rfl⟩
    exact ⟨every, rfl⟩
  · rintro ⟨every, rfl⟩
    exact ⟨files, ⟨every, rfl⟩, rfl⟩

theorem listEnvelopes_perm {files envelopes : List OutboxEnvelope}
    (listed : listEnvelopes files = .ok envelopes) : envelopes.Perm files := by
  rw [(listEnvelopes_ok.1 listed).2]
  exact List.mergeSort_perm _ _

/-- One round of the loop of `nextEventSequence`. -/
def raiseMaximum (taskId executionId : String) (maximum : Nat) (envelope : OutboxEnvelope) : Nat :=
  match envelope.kind with
  | .event eventSequence _ _ =>
    if envelope.taskId = taskId ∧ envelope.executionId = executionId ∧ maximum < eventSequence
    then eventSequence else maximum
  | .terminal .. => maximum

theorem pendingMaximum_eq (taskId executionId : String) (envelopes : List OutboxEnvelope) :
    pendingMaximum taskId executionId envelopes =
      envelopes.foldl (raiseMaximum taskId executionId) 0 := rfl

theorem le_raiseMaximum (taskId executionId : String) (maximum : Nat) (envelope : OutboxEnvelope) :
    maximum ≤ raiseMaximum taskId executionId maximum envelope := by
  unfold raiseMaximum
  split
  · split
    · rename_i raised
      omega
    · exact Nat.le_refl _
  · exact Nat.le_refl _

variable {envelope : OutboxEnvelope}

theorem sequence_le_raiseMaximum {reached : Nat} (isEvent : envelope.sequenceOf pair = some reached)
    (maximum : Nat) :
    reached ≤ raiseMaximum pair.1 pair.2 maximum envelope := by
  unfold OutboxEnvelope.sequenceOf at isEvent
  split at isEvent
  · rename_i samePair
    subst samePair
    unfold OutboxEnvelope.eventSequence? at isEvent
    split at isEvent
    · rename_i kind
      cases isEvent
      unfold raiseMaximum
      rw [kind]
      simp only [OutboxEnvelope.pair, true_and]
      split <;> omega
    · cases isEvent
  · cases isEvent

theorem le_foldl_raiseMaximum (taskId executionId : String) (envelopes : List OutboxEnvelope) :
    ∀ maximum, maximum ≤ envelopes.foldl (raiseMaximum taskId executionId) maximum := by
  induction envelopes with
  | nil => exact Nat.le_refl
  | cons envelope envelopes ih =>
    intro maximum
    exact Nat.le_trans (le_raiseMaximum taskId executionId maximum envelope) (ih _)

theorem sequence_le_foldl {envelopes : List OutboxEnvelope} (member : envelope ∈ envelopes)
    {reached : Nat} (isEvent : envelope.sequenceOf pair = some reached) :
    ∀ maximum, reached ≤ envelopes.foldl (raiseMaximum pair.1 pair.2) maximum := by
  induction envelopes with
  | nil => cases member
  | cons first rest ih =>
    intro maximum
    rcases List.mem_cons.1 member with rfl | later
    · have here := sequence_le_raiseMaximum isEvent maximum
      exact Nat.le_trans here (le_foldl_raiseMaximum _ _ rest _)
    · exact ih later _

theorem readCursor_ok {taskId executionId : String} {persisted : Nat}
    (read : outbox.readCursor config taskId executionId = .ok persisted) :
    ∀ cursor, outbox.cursors[config.safeKey taskId executionId]? = some cursor →
      (cursor.taskId, cursor.executionId) = (taskId, executionId) ∧
        cursor.lastSequence = persisted := by
  intro cursor found
  unfold Outbox.readCursor at read
  rw [found] at read
  simp only [bind_ok, ensure_ok, pure_ok] at read
  obtain ⟨_, ⟨sameTask, sameExecution, _⟩, same⟩ := read
  exact ⟨by rw [sameTask, sameExecution], same⟩

variable {sequence : Nat}

/-- **The next event sequence is above every covered one.** -/
theorem nextEventSequence_gt {next : Nat}
    (allocated : outbox.nextEventSequence config pair.1 pair.2 = .ok next)
    (covered : Covered config outbox pair sequence) : sequence < next := by
  unfold Outbox.nextEventSequence at allocated
  simp only [bind_ok, pure_ok] at allocated
  obtain ⟨persisted, read, envelopes, listed, rfl⟩ := allocated
  rcases covered with ⟨cursor, found, -, reached⟩ | ⟨id, envelope, reached, found, -, isEvent, le⟩
  · have same := (readCursor_ok read cursor found).2
    omega
  · have isPending : envelope ∈ outbox.pendingFiles :=
      List.mem_map.2 ⟨(id, envelope), Std.ExtTreeMap.mem_toList_iff_getElem?_eq_some.2 found, rfl⟩
    have member := (listEnvelopes_perm listed).mem_iff.2 isPending
    have bound := sequence_le_foldl member isEvent 0
    rw [← pendingMaximum_eq] at bound
    omega

/-! ## Runs -/

/-- The delivery identifiers drawn are not in use: `randomUUID` never repeats itself. -/
def FreshIds (outbox : Outbox) : OutboxAction → Prop
  | .enqueueEvent _ _ _ deliveryId _ => outbox.pending[deliveryId.text]? = none
  | .enqueueTerminal _ _ _ deliveryId _ => outbox.pending[deliveryId.text]? = none
  | _ => True

instance (outbox : Outbox) (action : OutboxAction) : Decidable (FreshIds outbox action) :=
  match action with
  | .enqueueEvent _ _ _ deliveryId _ =>
    inferInstanceAs (Decidable (outbox.pending[deliveryId.text]? = none))
  | .enqueueTerminal _ _ _ deliveryId _ =>
    inferInstanceAs (Decidable (outbox.pending[deliveryId.text]? = none))
  | .writeCursor | .cursorFails _ | .ack _ | .quarantine _ _ | .crash | .restart => .isTrue trivial

/-- **Removing a pending file keeps its sequence covered**: where it is an event, the cursor or
another pending event of its execution has reached its sequence. -/
def KeepsCovered (config : OutboxConfig) (outbox : Outbox) (deliveryId : String) : Prop :=
  ∀ envelope sequence, outbox.pending[deliveryId]? = some envelope →
    envelope.eventSequence? = some sequence →
    CursorCovers config outbox envelope.pair sequence ∨
      PendingCovers outbox envelope.pair sequence (some deliveryId)

/-- Fresh identifiers, and no envelope is removed that is the last to remember its sequence. -/
def KeepsSequences (config : OutboxConfig) (outbox : Outbox) (action : OutboxAction) : Prop :=
  FreshIds outbox action ∧
    match action with
    | .ack deliveryId => KeepsCovered config outbox deliveryId
    | .quarantine deliveryId _ => KeepsCovered config outbox deliveryId
    | _ => True

structure EventPersisted (config : OutboxConfig) (outbox : Outbox) (deliveryId : Uuid)
    (envelope : OutboxEnvelope) (after : Outbox) (cursor : CursorFile) : Prop where
  after_eq : after = { outbox with
    pending := outbox.pending.insert deliveryId.text envelope, process := .awaitingCursor cursor }
  deliveryId_eq : envelope.deliveryId = deliveryId.text
  sequence : envelope.sequenceOf (cursor.taskId, cursor.executionId) = some cursor.lastSequence
  positive : 1 ≤ cursor.lastSequence
  above : ∀ sequence, Covered config outbox (cursor.taskId, cursor.executionId) sequence →
    sequence < cursor.lastSequence
  ownFile : ∀ old, outbox.cursors[config.safeKey cursor.taskId cursor.executionId]? = some old →
    (old.taskId, old.executionId) = (cursor.taskId, cursor.executionId)

variable {after : Outbox}

theorem enqueueEvent_ok {lease : OutboxLease} {eventType : String} {payload : Json} {deliveryId : Uuid}
    {createdAt : String}
    (enqueued : outbox.enqueueEvent config lease eventType payload deliveryId createdAt =
      .ok (envelope, after)) :
    ∃ cursor, EventPersisted config outbox deliveryId envelope after cursor := by
  unfold Outbox.enqueueEvent Outbox.persist at enqueued
  simp only [bind_ok, ensure_ok, pure_ok, Prod.mk.injEq] at enqueued
  obtain ⟨_, _, next, allocated, _, ⟨_, _, rfl⟩, rfl, rfl⟩ := enqueued
  refine ⟨⟨lease.taskId, lease.executionId, next⟩, rfl, rfl, ?_, ?_, ?_, ?_⟩
  · exact if_pos rfl
  · unfold Outbox.nextEventSequence at allocated
    simp only [bind_ok, pure_ok] at allocated
    obtain ⟨_, _, _, _, rfl⟩ := allocated
    exact Nat.succ_pos _
  · intro sequence covered
    exact nextEventSequence_gt allocated covered
  · intro old found
    unfold Outbox.nextEventSequence at allocated
    simp only [bind_ok] at allocated
    obtain ⟨_, read, _⟩ := allocated
    exact (readCursor_ok read old found).1

theorem enqueueTerminal_ok {lease : OutboxLease} {state : TerminalState} {result : Json}
    {deliveryId : Uuid} {createdAt : String}
    (enqueued : outbox.enqueueTerminal config lease state result deliveryId createdAt =
      .ok (envelope, after)) :
    envelope.eventSequence? = none ∧ envelope.deliveryId = deliveryId.text ∧
      after = { outbox with pending := outbox.pending.insert deliveryId.text envelope } := by
  unfold Outbox.enqueueTerminal Outbox.persist at enqueued
  simp only [bind_ok, ensure_ok, pure_ok, Prod.mk.injEq] at enqueued
  obtain ⟨_, _, _, ⟨_, _, rfl⟩, rfl, rfl⟩ := enqueued
  exact ⟨rfl, rfl, rfl⟩

theorem ack_ok {deliveryId : String} (acked : outbox.ack deliveryId = .ok after) :
    after = { outbox with pending := outbox.pending.erase deliveryId } := by
  unfold Outbox.ack at acked
  simp only [bind_ok, pure_ok] at acked
  obtain ⟨_, _, rfl⟩ := acked
  rfl

theorem moveToQuarantine_ok {deliveryId reason : String}
    (moved : outbox.moveToQuarantine deliveryId reason = .ok after) :
    after.pending = outbox.pending.erase deliveryId ∧ after.cursors = outbox.cursors ∧
      after.process = outbox.process := by
  unfold Outbox.moveToQuarantine at moved
  simp only [bind_ok] at moved
  obtain ⟨_, _, moved⟩ := moved
  split at moved
  · rename_i absent
    rw [pure_ok] at moved
    subst moved
    refine ⟨?_, rfl, rfl⟩
    refine Std.ExtTreeMap.ext_getElem? fun id => ?_
    rw [Std.ExtTreeMap.getElem?_erase]
    split
    · rename_i hit
      have same : deliveryId = id := by simpa using hit
      rw [← same, absent]
    · rfl
  · rw [pure_ok] at moved
    subst moved
    exact ⟨rfl, rfl, rfl⟩

section

variable (covered : Covered config outbox pair sequence)
include covered

theorem Covered.insert {name : String}
    (fresh : outbox.pending[name]? = none) (envelope : OutboxEnvelope) (process : Process) :
    Covered config { outbox with pending := outbox.pending.insert name envelope, process := process }
      pair sequence := by
  rcases covered with byCursor | ⟨id, known, reached, found, -, isEvent, le⟩
  · exact .inl byCursor
  · refine .inr ⟨id, known, reached, ?_, nofun, isEvent, le⟩
    show (outbox.pending.insert name envelope)[id]? = _
    rw [Std.ExtTreeMap.getElem?_insert, if_neg, found]
    intro hit
    have same : name = id := by simpa using hit
    rw [same, found] at fresh
    cases fresh

theorem Covered.erase {name : String}
    (keeps : KeepsCovered config outbox name) (pending : after.pending = outbox.pending.erase name)
    (cursors : after.cursors = outbox.cursors) : Covered config after pair sequence := by
  have kept {id : String} {envelope : OutboxEnvelope} (found : outbox.pending[id]? = some envelope)
      (other : id ≠ name) : after.pending[id]? = some envelope := by
    rw [pending, Std.ExtTreeMap.getElem?_erase, if_neg, found]
    intro hit
    have same : name = id := by simpa using hit
    exact other same.symm
  rcases covered with ⟨cursor, found, samePair, le⟩ | ⟨id, envelope, reached, found, -, isEvent, le⟩
  · exact .inl ⟨cursor, by rw [cursors, found], samePair, le⟩
  · by_cases removed : id = name
    · -- the removed file covered the sequence: its own sequence is covered elsewhere
      subst removed
      unfold OutboxEnvelope.sequenceOf at isEvent
      split at isEvent
      · rename_i samePair
        rw [← samePair]
        rcases keeps envelope reached found isEvent with
          ⟨cursor, found', samePair', le'⟩ | ⟨id', envelope', reached', found', other, isEvent', le'⟩
        · exact .inl ⟨cursor, by rw [cursors, found'], samePair', Nat.le_trans le le'⟩
        · have different : id' ≠ id := fun same => other (congrArg some same)
          exact .inr ⟨id', envelope', reached', kept found' different, nofun, isEvent',
            Nat.le_trans le le'⟩
      · cases isEvent
    · exact .inr ⟨id, envelope, reached, kept found removed, nofun, isEvent, le⟩

theorem Covered.writeCursor {cursor : CursorFile}
    (above : (cursor.taskId, cursor.executionId) = pair → sequence ≤ cursor.lastSequence)
    (ownFile : ∀ old, outbox.cursors[config.safeKey cursor.taskId cursor.executionId]? = some old →
      (old.taskId, old.executionId) = (cursor.taskId, cursor.executionId)) :
    Covered config { outbox.writeCursor config cursor with process := .idle } pair sequence := by
  rcases covered with ⟨old, found, samePair, le⟩ | byPending
  · left
    by_cases hit : config.safeKey cursor.taskId cursor.executionId = config.safeKey pair.1 pair.2
    · -- the file that covered the sequence is the one that is replaced
      rw [← hit] at found
      have own : (cursor.taskId, cursor.executionId) = pair := (ownFile old found).symm.trans samePair
      refine ⟨cursor, ?_, own, above own⟩
      show (outbox.cursors.insert _ cursor)[_]? = _
      rw [hit, Std.ExtTreeMap.getElem?_insert_self]
    · refine ⟨old, ?_, samePair, le⟩
      show (outbox.cursors.insert _ cursor)[_]? = _
      rw [Std.ExtTreeMap.getElem?_insert, if_neg (by simpa using hit), found]
  · exact .inr byPending

end

/-- **The invariant of a run**: persisted sequences increase, are positive and stay covered. -/
structure SequenceInvariant (config : OutboxConfig)
    (history : List (OutboxAction × OutboxOutcome)) (outbox : Outbox) : Prop where
  ordered : ∀ pair, (persistedSequences pair history).Pairwise (· < ·)
  positive : ∀ pair, ∀ sequence ∈ persistedSequences pair history, 1 ≤ sequence
  covered : ∀ pair, ∀ sequence ∈ persistedSequences pair history,
    Covered config outbox pair sequence
  awaiting : ∀ cursor, outbox.process = .awaitingCursor cursor →
    (∀ sequence ∈ persistedSequences (cursor.taskId, cursor.executionId) history,
      sequence ≤ cursor.lastSequence) ∧
    ∀ old, outbox.cursors[config.safeKey cursor.taskId cursor.executionId]? = some old →
      (old.taskId, old.executionId) = (cursor.taskId, cursor.executionId)

variable {history : List (OutboxAction × OutboxOutcome)}

variable {action : OutboxAction}

theorem persistedSequences_unchanged {outcome : OutboxOutcome}
    (noEvent : persistedSequence pair (action, outcome) = none) :
    persistedSequences pair (history ++ [(action, outcome)]) = persistedSequences pair history := by
  rw [persistedSequences_append, noEvent, Option.toList_none, List.append_nil]

theorem SequenceInvariant.quiet (invariant : SequenceInvariant config history outbox)
    {outcome : OutboxOutcome} (noEvent : ∀ pair, persistedSequence pair (action, outcome) = none)
    (keeps : ∀ pair, ∀ sequence ∈ persistedSequences pair history,
      Covered config outbox pair sequence → Covered config after pair sequence)
    (settled : ∀ cursor, after.process = .awaitingCursor cursor →
      outbox.process = .awaitingCursor cursor ∧ after.cursors = outbox.cursors) :
    SequenceInvariant config (history ++ [(action, outcome)]) after := by
  constructor
  · intro pair
    rw [persistedSequences_unchanged (noEvent pair)]
    exact invariant.ordered pair
  · intro pair
    rw [persistedSequences_unchanged (noEvent pair)]
    exact invariant.positive pair
  · intro pair sequence member
    rw [persistedSequences_unchanged (noEvent pair)] at member
    exact keeps pair sequence member (invariant.covered pair sequence member)
  · intro cursor waits
    obtain ⟨waited, sameCursors⟩ := settled cursor waits
    rw [persistedSequences_unchanged (noEvent _), sameCursors]
    exact invariant.awaiting cursor waited

theorem SequenceInvariant.enqueueEvent (invariant : SequenceInvariant config history outbox)
    {deliveryId : Uuid} {cursor : CursorFile} (fresh : outbox.pending[deliveryId.text]? = none)
    (persisted : EventPersisted config outbox deliveryId envelope after cursor) :
    SequenceInvariant config (history ++ [(action, .persisted envelope)]) after := by
  have own := persisted.sequence
  -- only the sequences of the envelope's own execution grow
  have grown (pair : String × String) : persistedSequences pair (history ++
      [(action, .persisted envelope)]) = persistedSequences pair history ++
        (envelope.sequenceOf pair).toList := persistedSequences_append history _
  have ownPair {pair : String × String} {sequence : Nat}
      (isEvent : envelope.sequenceOf pair = some sequence) :
      pair = (cursor.taskId, cursor.executionId) ∧ sequence = cursor.lastSequence := by
    unfold OutboxEnvelope.sequenceOf at isEvent own
    split at isEvent
    · rename_i here
      split at own
      · rename_i there
        rw [own] at isEvent
        cases isEvent
        exact ⟨here.symm.trans there, rfl⟩
      · cases own
    · cases isEvent
  rw [persisted.after_eq]
  constructor
  · intro pair
    rw [grown]
    refine List.pairwise_append.2 ⟨invariant.ordered pair, ?_, ?_⟩
    · cases envelope.sequenceOf pair <;> simp
    · intro earlier member sequence isNew
      obtain ⟨rfl, rfl⟩ := ownPair (Option.mem_toList.1 isNew)
      exact persisted.above earlier (invariant.covered _ earlier member)
  · intro pair sequence member
    rw [grown] at member
    rcases List.mem_append.1 member with earlier | isNew
    · exact invariant.positive pair sequence earlier
    · obtain ⟨-, rfl⟩ := ownPair (Option.mem_toList.1 isNew)
      exact persisted.positive
  · intro pair sequence member
    rw [grown] at member
    rcases List.mem_append.1 member with earlier | isNew
    · exact (invariant.covered pair sequence earlier).insert fresh envelope _
    · refine .inr ⟨deliveryId.text, envelope, sequence, ?_, nofun, Option.mem_toList.1 isNew,
        Nat.le_refl _⟩
      exact Std.ExtTreeMap.getElem?_insert_self
  · intro waiting waits
    cases waits
    refine ⟨?_, persisted.ownFile⟩
    intro sequence member
    rw [grown] at member
    rcases List.mem_append.1 member with earlier | isNew
    · exact Nat.le_of_lt (persisted.above sequence (invariant.covered _ sequence earlier))
    · exact Nat.le_of_eq (ownPair (Option.mem_toList.1 isNew)).2

/-- **One step preserves the invariant**, as long as it removes no envelope that is the last to
remember its sequence. -/
theorem sequenceInvariant_step (invariant : SequenceInvariant config history outbox)
    (keeps : KeepsSequences config outbox action) :
    SequenceInvariant config (history ++ [(action, (outbox.step config action).1)])
      (outbox.step config action).2 := by
  obtain ⟨fresh, kept⟩ := keeps
  -- a step that changes neither directory nor position
  have idle {action : OutboxAction} {outcome : OutboxOutcome}
      (noEvent : ∀ pair, persistedSequence pair (action, outcome) = none) :
      SequenceInvariant config (history ++ [(action, outcome)]) outbox :=
    invariant.quiet noEvent (fun _ _ _ covered => covered) fun _ waits => ⟨waits, rfl⟩
  unfold Outbox.step
  split
  · exact invariant.quiet (fun _ => rfl) (fun _ _ _ covered => covered) fun _ waits => nomatch waits
  · exact invariant.quiet (fun _ => rfl) (fun _ _ _ covered => covered) fun _ waits => nomatch waits
  · rename_i cursor waits
    obtain ⟨above, ownFile⟩ := invariant.awaiting cursor waits
    refine invariant.quiet (fun _ => rfl) ?_ fun _ waits => nomatch waits
    intro pair sequence member covered
    exact covered.writeCursor (fun own => above sequence (own ▸ member)) ownFile
  · exact invariant.quiet (fun _ => rfl) (fun _ _ _ covered => covered) fun _ waits => nomatch waits
  · rename_i lease eventType payload deliveryId createdAt atRest
    cases enqueued : outbox.enqueueEvent config lease eventType payload deliveryId createdAt with
    | error error => exact idle fun _ => rfl
    | ok persisted =>
      obtain ⟨cursor, isPersisted⟩ := enqueueEvent_ok enqueued
      exact invariant.enqueueEvent fresh isPersisted
  · rename_i lease state result deliveryId createdAt atRest
    cases enqueued : outbox.enqueueTerminal config lease state result deliveryId createdAt with
    | error error => exact idle fun _ => rfl
    | ok persisted =>
      obtain ⟨envelope, after⟩ := persisted
      obtain ⟨noEvent, -, rfl⟩ := enqueueTerminal_ok enqueued
      refine invariant.quiet ?_ (fun _ _ _ covered => covered.insert fresh _ _) ?_
      · intro pair
        show envelope.sequenceOf pair = none
        unfold OutboxEnvelope.sequenceOf
        rw [noEvent, ite_self]
      · exact fun _ waits => ⟨waits, rfl⟩
  · rename_i deliveryId atRest
    cases acked : outbox.ack deliveryId with
    | error error => exact idle fun _ => rfl
    | ok after =>
      have erased := ack_ok acked
      subst erased
      exact invariant.quiet (fun _ => rfl) (fun _ _ _ covered => covered.erase kept rfl rfl)
        fun _ waits => ⟨waits, rfl⟩
  · rename_i deliveryId reason atRest
    cases moved : outbox.moveToQuarantine deliveryId reason with
    | error error => exact idle fun _ => rfl
    | ok after =>
      obtain ⟨pending, cursors, process⟩ := moveToQuarantine_ok moved
      exact invariant.quiet (fun _ => rfl) (fun _ _ _ covered => covered.erase kept pending cursors)
        fun _ waits => ⟨process ▸ waits, cursors⟩
  · exact idle fun _ => rfl

theorem sequenceInvariant_empty : SequenceInvariant config [] .empty where
  ordered _ := .nil
  positive := by simp [persistedSequences]
  covered := by simp [persistedSequences]
  awaiting := nofun

/-- **Event sequences are never reused** in a run of the outbox that removes no envelope which is the last
to remember its sequence. -/
theorem sequences_of_run
    (run : (outboxMachine config).Run (KeepsSequences config) .empty history outbox)
    (pair : String × String) :
    (persistedSequences pair history).Pairwise (· < ·) ∧
      ∀ earlier fresh later, persistedSequences pair history = earlier ++ fresh :: later →
        ∀ record : ControlPlane.TaskRecord,
          record.lastEventSequence = 0 ∨ record.lastEventSequence ∈ earlier →
            record.lastEventSequence < fresh := by
  have invariant : SequenceInvariant config history outbox :=
    run.invariant (SequenceInvariant config) sequenceInvariant_empty
      fun _ _ _ invariant keeps => sequenceInvariant_step invariant keeps
  refine ⟨invariant.ordered pair, ?_⟩
  intro earlier fresh later split record accepted
  rcases accepted with none_yet | before
  · have positive := invariant.positive pair fresh (by rw [split]; simp)
    omega
  · have ordered := invariant.ordered pair
    rw [split] at ordered
    exact (List.pairwise_append.1 ordered).2.2 _ before fresh List.mem_cons_self

/-! ## A crash before the cursor is written -/

def exampleConfig : OutboxConfig := ⟨fun taskId executionId => taskId ++ "/" ++ executionId,
  fun _ => true⟩

def exampleOutboxLease : OutboxLease := ⟨"task-1", "exec-1", "lease-1", 1⟩

def firstDelivery : Uuid := ⟨"00000000-0000-4000-8000-000000000001", by decide, by decide⟩

/-- Another delivery identifier. -/
def secondDelivery : Uuid := ⟨"00000000-0000-4000-8000-000000000002", by decide, by decide⟩

/-- The first event of `task-1`. -/
def firstEvent : OutboxAction :=
  .enqueueEvent exampleOutboxLease "host.accepted" .null firstDelivery "2026-08-30T00:00:00.000Z"

/-- The second event of `task-1`. -/
def secondEvent : OutboxAction :=
  .enqueueEvent exampleOutboxLease "codex.item" .null secondDelivery "2026-08-30T00:00:01.000Z"

def exampleRun : List OutboxAction :=
  [firstEvent, .writeCursor, .ack firstDelivery.text, secondEvent]

/-- The sequences persisted by `exampleRun`. -/
theorem sequences_exampleRun : (persistedSequences ("task-1", "exec-1")
        ((outboxMachine exampleConfig).exec .empty exampleRun).1).Pairwise (· < ·) ∧
      persistedSequences ("task-1", "exec-1")
        ((outboxMachine exampleConfig).exec .empty exampleRun).1 = [1, 2] := by
  have met : (outboxMachine exampleConfig).Met (KeepsSequences exampleConfig) .empty exampleRun := by
    refine ⟨⟨rfl, trivial⟩, ⟨trivial, trivial⟩, ⟨trivial, ?_⟩, ⟨by decide +kernel, trivial⟩, trivial⟩
    intro envelope sequence found isEvent
    -- the acknowledged event has sequence 1, and so has the cursor
    let written := ((outboxMachine exampleConfig).exec .empty [firstEvent, .writeCursor]).2
    have isFirst : (written.pending[firstDelivery.text]?.map fun envelope =>
        (envelope.pair, envelope.eventSequence?)) = some (("task-1", "exec-1"), some 1) := by
      decide +kernel
    rw [show written.pending[firstDelivery.text]? = some envelope from found, Option.map_some,
      Option.some.injEq, Prod.mk.injEq, isEvent] at isFirst
    have isOne : sequence = 1 := Option.some.inj isFirst.2
    rw [isFirst.1, isOne]
    exact .inl ⟨⟨"task-1", "exec-1", 1⟩, by decide +kernel, rfl, Nat.le_refl _⟩
  exact ⟨(sequences_of_run (Machine.exec_run _ _ _ met) _).1, by decide +kernel⟩

/-- The process stops between persisting the first event and writing its cursor; after the restart
the event is acknowledged before the next one is enqueued. -/
def crashRun : List OutboxAction :=
  [firstEvent, .crash, .restart, .ack firstDelivery.text, secondEvent]

/-- **A sequence is used twice** when the process stops before the cursor is written and the event
is acknowledged after the restart. -/
theorem sequences_counterexample :
    ¬ ∀ (config : OutboxConfig) (history : List (OutboxAction × OutboxOutcome)) (outbox : Outbox),
      (outboxMachine config).Run FreshIds .empty history outbox →
      ∀ pair, (persistedSequences pair history).Pairwise (· < ·) := by
  intro claimed
  have met : (outboxMachine exampleConfig).Met FreshIds .empty crashRun :=
    ⟨rfl, trivial, trivial, trivial, by decide +kernel, trivial⟩
  have ordered := claimed _ _ _ (Machine.exec_run _ _ _ met) ("task-1", "exec-1")
  have reused : persistedSequences ("task-1", "exec-1")
      ((outboxMachine exampleConfig).exec .empty crashRun).1 = [1, 1] := by decide +kernel
  rw [reused] at ordered
  simp at ordered

end Zero3Pilot.RemoteHost
