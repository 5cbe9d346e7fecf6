import Zero3Pilot.JobScheduler.EventStore
import Zero3Pilot.JobScheduler.Recovery

/-! # Event logs after interrupted appends

The file of an event store after any calls, interruptions and restarts. Recovery finds every event
whose line was written as far as its JSON goes, as long as an interruption leaves whole characters and
nothing is appended behind the beginning of a line: an append goes on where the file ends, so that it
would be glued to what an interruption has left. -/

namespace Zero3Pilot.JobScheduler

open List (append_nil cons_append map_cons mem_append mem_map mem_singleton prefix_refl
  utf8Encode_append zipIdx_cons)
open ControlPlane (BTreeMap)

/-! ## Statements -/

/-- **What the store relies on of `serde_json`**: an event is written as a JSON object, in which control
characters are escaped, and the beginning of an object is not read as one. -/
structure SerdeEvents.Lawful (serde : SerdeEvents) : Prop where
  opens : ∀ event, (serde.write event).head? = some '\x7b'
  plain : ∀ event, ∀ c ∈ serde.write event, 32 ≤ c.toNat
  torn : ∀ event start, start <+: serde.write event → start ≠ serde.write event →
    ∃ reason, serde.read start = .error reason

variable (serde : SerdeEvents)

def Terminated (file : ByteArray) : Prop :=
  ∃ raw, readToString file = .ok raw ∧ (raw = [] ∨ endsWithNewline raw = true)

def WholeCharacters (event : Event) (fault : Option (Nat × String)) : Prop :=
  ∀ count reason, fault = some (count, reason) → ∃ chars, chars <+: serde.write event ++ ['\n'] ∧
    (lineBytes serde event).extract 0 count = chars.utf8Encode

/-- **The condition on a call**: it appends to whole lines, whole characters and fresh identifiers. -/
structure WellAppended (state : StoreState) (call : StoreCall) : Prop where
  appends : ∀ jobs prepared, state.manager = some jobs →
    prepare jobs call = some (.ok prepared) → Terminated state.file ∧
      serde.read (serde.write prepared.event) = .ok prepared.event ∧
      WholeCharacters serde prepared.event call.fault
  fresh : ∀ jobs kind payload sessionId id, state.manager = some jobs →
    call.operation = .create kind payload sessionId id → jobs[id]? = none

/-- An append that was tried. -/
structure Attempt where
  event : Event
  /-- The append has returned `Ok`. -/
  acknowledged : Bool
  /-- The JSON of the event was written completely. -/
  complete : Bool

def attempt? (step : StoreCall × StoreAnswer) : Option Attempt :=
  match step.2 with
  | .appended event => some ⟨event, true, true⟩
  | .interrupted event =>
    some ⟨event, false,
      step.1.fault.all fun fault => (String.ofList (serde.write event)).toUTF8.size ≤ fault.1⟩
  | _ => none

/-- The appends that were tried, in order. -/
def attempts (history : List (StoreCall × StoreAnswer)) : List Attempt :=
  history.filterMap (attempt? serde)

def writtenEvents (history : List (StoreCall × StoreAnswer)) : List Event :=
  ((attempts serde history).filter (·.complete)).map (·.event)

/-- The events whose append has returned `Ok`, in order. -/
def acknowledgedEvents (history : List (StoreCall × StoreAnswer)) : List Event :=
  ((attempts serde history).filter (·.acknowledged)).map (·.event)

/-- The last append, if any, has returned `Ok`. -/
def LastAcknowledged (history : List (StoreCall × StoreAnswer)) : Prop :=
  ∀ attempt ∈ (attempts serde history).getLast?, attempt.acknowledged = true

/-- **The log survives**: recovery finds the events that were written completely, each in its place. -/
structure Survival (history : List (StoreCall × StoreAnswer)) (state : StoreState) : Prop where
  replayed : ∃ tail, replayRecoverable serde state.file = .ok ⟨writtenEvents serde history, tail⟩
  recovered : ∃ jobs, recoverWithMode serde .recoverCrashTail state.file = .ok jobs
  acknowledged : (acknowledgedEvents serde history).Sublist (writtenEvents serde history)
  strict : LastAcknowledged serde history →
    replay serde state.file = .ok (writtenEvents serde history) ∧
      ∃ jobs, recover serde state.file = .ok jobs

/-! ## The files -/

/-- What follows the last newline of a file, with the event that is read there. -/
inductive Tail : List Char → List Event → Prop
  | none : Tail [] []
  | complete (event : Event) (readBack : serde.read (serde.write event) = .ok event) :
      Tail (serde.write event) [event]
  | torn (chars : List Char) (event : Event) (begins : chars <+: serde.write event)
      (proper : chars ≠ serde.write event) (nonempty : chars ≠ []) : Tail chars []

/-- **The files**: the lines of some events, and a tail. -/
def Shape (file : ByteArray) (events : List Event) : Prop :=
  ∃ ended tail torn, file = (logText (ended.map serde.write) ++ tail).utf8Encode ∧
    (∀ event ∈ ended, serde.read (serde.write event) = .ok event) ∧
    Tail serde tail torn ∧ events = ended ++ torn

variable {serde}

theorem readToString_utf8Encode (raw : List Char) : readToString raw.utf8Encode = .ok raw := by
  rw [readToString, List.utf8Decode?_utf8Encode]
  rfl

theorem SerdeEvents.Lawful.isLine (lawful : serde.Lawful) (event : Event) :
    IsLine (serde.write event) := by
  refine ⟨fun member => ?_, fun member => ?_⟩
  · exact absurd (lawful.plain event _ member) (by decide)
  · exact absurd (lawful.plain event _ member) (by decide)

variable {event : Event} {chars : List Char}

theorem SerdeEvents.Lawful.notBlank (lawful : serde.Lawful) (begins : chars <+: serde.write event)
    (nonempty : chars ≠ []) : isBlank chars = false := by
  obtain ⟨c, chars, rfl⟩ := List.exists_cons_of_ne_nil nonempty
  obtain ⟨rest, whole⟩ := begins
  have first := lawful.opens event
  rw [← whole, cons_append, List.head?_cons] at first
  cases first
  rfl

theorem SerdeEvents.Lawful.nonempty (lawful : serde.Lawful) (event : Event) :
    serde.write event ≠ [] := by
  intro empty
  have first := lawful.opens event
  rw [empty] at first
  cases first

variable {tail : List Char} {torn : List Event}

theorem Tail.begins (isTail : Tail serde tail torn) (nonempty : tail ≠ []) :
    ∃ event, tail <+: serde.write event := by
  cases isTail with
  | none => exact absurd rfl nonempty
  | complete event => exact ⟨event, prefix_refl _⟩
  | torn _ event begins => exact ⟨event, begins⟩

theorem Tail.lines_eq (lawful : serde.Lawful) (isTail : Tail serde tail torn) :
    lines tail = if tail = [] then [] else [tail] := by
  by_cases empty : tail = []
  · rw [if_pos empty, empty]
    rfl
  · obtain ⟨event, begins⟩ := isTail.begins empty
    rw [if_neg empty, lines_tail ((lawful.isLine event).of_start begins) empty]

theorem Tail.not_ended (lawful : serde.Lawful) (isTail : Tail serde tail torn) (nonempty : tail ≠ [])
    (before : List Char) :
    endsWithNewline (before ++ tail) = false := by
  obtain ⟨event, begins⟩ := isTail.begins nonempty
  have newline := ((lawful.isLine event).of_start begins).1
  obtain ⟨last, isLast⟩ := Option.ne_none_iff_exists'.1 (mt List.getLast?_eq_none_iff.1 nonempty)
  rw [endsWithNewline, List.getLast?_append_of_ne_nil _ nonempty, isLast, decide_eq_false_iff_not]
  intro same
  cases same
  exact newline (List.mem_of_getLast? isLast)

/-! ## Reading -/

theorem readLines_eq (lawful : serde.Lawful) {ended : List Event} (isTail : Tail serde tail torn) :
    readLinesWithTermination (logText (ended.map serde.write) ++ tail).utf8Encode =
      .ok ((ended.map serde.write ++ if tail = [] then [] else [tail]).zipIdx 1,
        endsWithNewline (logText (ended.map serde.write) ++ tail)) := by
  have areLines : ∀ text ∈ ended.map serde.write, IsLine text := by
    intro text member
    obtain ⟨event, _, rfl⟩ := mem_map.1 member
    exact lawful.isLine event
  rw [readLinesWithTermination, readToString_utf8Encode]
  show Except.ok (_, _) = _
  rw [lines_logText areLines, isTail.lines_eq lawful]
  congr 2
  rw [List.filter_eq_self]
  -- no line is blank
  intro line member
  have isLine := List.fst_mem_of_mem_zipIdx member
  rw [Bool.not_eq_true']
  rcases mem_append.1 isLine with old | last
  · obtain ⟨event, _, same⟩ := mem_map.1 old
    rw [← same]
    exact lawful.notBlank (prefix_refl _) (lawful.nonempty event)
  · by_cases empty : tail = []
    · rw [if_pos empty] at last
      cases last
    · rw [if_neg empty] at last
      obtain ⟨event, begins⟩ := isTail.begins empty
      rw [mem_singleton.1 last]
      exact lawful.notBlank begins empty

section

variable {ended : List Event} (readBack : ∀ event ∈ ended, serde.read (serde.write event) = .ok event)
include readBack

theorem replayLines_append (rest : List (List Char)) (number : Nat) :
    replayLines serde ((ended.map serde.write ++ rest).zipIdx number) =
      (replayLines serde (rest.zipIdx (number + ended.length))).map (ended ++ ·) := by
  induction ended generalizing number with
  | nil =>
    show _ = (replayLines serde _).map id
    rw [Except.map_id]
    rfl
  | cons event ended ih =>
    rw [List.forall_mem_cons] at readBack
    rw [map_cons, cons_append, zipIdx_cons, replayLines, readBack.1]
    show (replayLines serde _ >>= fun events => _) = _
    rw [ih readBack.2, List.length_cons, Nat.add_comm ended.length, ← Nat.add_assoc]
    cases replayLines serde (rest.zipIdx (number + 1 + ended.length)) with
    | ok events | error error => rfl

theorem recoverLines_append (rest : List (List Char)) (ends : Bool) (number : Nat) :
    recoverLines serde ends ((ended.map serde.write ++ rest).zipIdx number) =
      (recoverLines serde ends (rest.zipIdx (number + ended.length))).map fun replayed =>
        { replayed with events := ended ++ replayed.events } := by
  induction ended generalizing number with
  | nil =>
    show _ = (recoverLines serde ends _).map id
    rw [Except.map_id]
    rfl
  | cons event ended ih =>
    rw [List.forall_mem_cons] at readBack
    rw [map_cons, cons_append, zipIdx_cons, recoverLines, readBack.1]
    show (recoverLines serde ends _ >>= fun replayed => _) = _
    rw [ih readBack.2, List.length_cons, Nat.add_comm ended.length, ← Nat.add_assoc]
    cases recoverLines serde ends (rest.zipIdx (number + 1 + ended.length)) with
    | ok events | error error => rfl

end

section Shape

variable {file : ByteArray} {events : List Event}

/-- **What is recovered** from a file. -/
theorem Shape.recovered (lawful : serde.Lawful) (shape : Shape serde file events) :
    ∃ tail, replayRecoverable serde file = .ok ⟨events, tail⟩ := by
  obtain ⟨ended, tail, torn, rfl, readBack, isTail, rfl⟩ := shape
  rw [replayRecoverable, readLines_eq lawful isTail]
  show ∃ found, recoverLines serde _ _ = _
  rw [recoverLines_append readBack]
  cases isTail with
  | none => exact ⟨none, rfl⟩
  | complete event readBack =>
    refine ⟨none, ?_⟩
    rw [if_neg (lawful.nonempty event), zipIdx_cons, recoverLines, readBack]
    rfl
  | torn _ event begins proper nonempty =>
    obtain ⟨reason, unread⟩ := lawful.torn event tail begins proper
    refine ⟨some ⟨1 + ended.length, tail, reason⟩, ?_⟩
    have unended := (Tail.torn tail event begins proper nonempty).not_ended lawful nonempty
      (logText (ended.map serde.write))
    rw [if_neg nonempty, zipIdx_cons, recoverLines, unread, unended]
    rfl

theorem Shape.replay_ok (lawful : serde.Lawful) (shape : Shape serde file events)
    {found : List Event} (read : replay serde file = .ok found) : found = events := by
  obtain ⟨ended, tail, torn, rfl, readBack, isTail, rfl⟩ := shape
  rw [replay, readLines_eq lawful isTail] at read
  change replayLines serde _ = .ok found at read
  rw [replayLines_append readBack] at read
  cases isTail with
  | none =>
    cases read
    rfl
  | complete event readBack =>
    rw [if_neg (lawful.nonempty event), zipIdx_cons, replayLines, readBack] at read
    cases read
    rfl
  | torn _ event begins proper nonempty =>
    obtain ⟨reason, unread⟩ := lawful.torn event tail begins proper
    rw [if_neg nonempty, zipIdx_cons, replayLines, unread] at read
    cases read

theorem replay_ended (lawful : serde.Lawful)
    (readBack : ∀ event ∈ events, serde.read (serde.write event) = .ok event) :
    replay serde (logText (events.map serde.write)).utf8Encode = .ok events := by
  have read : readLinesWithTermination (logText (events.map serde.write) ++ []).utf8Encode = _ :=
    readLines_eq lawful .none
  rw [append_nil] at read
  rw [replay, read]
  show replayLines serde _ = _
  rw [replayLines_append readBack]
  show Except.ok (events ++ []) = _
  rw [append_nil]

theorem Shape.readBack (shape : Shape serde file events) :
    ∀ event ∈ events, serde.read (serde.write event) = .ok event := by
  obtain ⟨ended, tail, torn, -, readBack, isTail, rfl⟩ := shape
  intro event member
  rcases mem_append.1 member with old | last
  · exact readBack event old
  · cases isTail with
    | complete written readBack =>
      rw [mem_singleton.1 last]
      exact readBack
    | _ => cases last

theorem Shape.ended (lawful : serde.Lawful) (shape : Shape serde file events)
    (terminated : Terminated file) : file = (logText (events.map serde.write)).utf8Encode := by
  obtain ⟨ended, tail, torn, rfl, readBack, isTail, rfl⟩ := shape
  obtain ⟨raw, read, ends⟩ := terminated
  rw [readToString_utf8Encode] at read
  cases read
  by_cases empty : tail = []
  · cases isTail with
    | none => rw [append_nil, append_nil]
    | complete event => exact absurd empty (lawful.nonempty event)
    | torn _ _ _ _ nonempty => exact absurd empty nonempty
  · rcases ends with nothing | newline
    · exact absurd (List.append_eq_nil_iff.1 nothing).2 empty
    · rw [isTail.not_ended lawful empty] at newline
      cases newline

theorem shape_ended (readBack : ∀ event ∈ events, serde.read (serde.write event) = .ok event) :
    Shape serde (logText (events.map serde.write)).utf8Encode events := by
  refine ⟨events, [], [], ?_, readBack, .none, ?_⟩
  · rw [append_nil]
  · rw [append_nil]

end Shape

/-! ## Appending -/

theorem lineBytes_eq (event : Event) :
    lineBytes serde event = (serde.write event ++ ['\n']).utf8Encode := rfl

theorem append_line (events : List Event) (event : Event) :
    (logText (events.map serde.write)).utf8Encode ++ lineBytes serde event =
      (logText ((events ++ [event]).map serde.write)).utf8Encode := by
  rw [lineBytes_eq, ← utf8Encode_append, List.map_append, logText_append]
  simp

theorem size_utf8Encode_pos (nonempty : chars ≠ []) : 0 < chars.utf8Encode.size := by
  obtain ⟨c, chars, rfl⟩ := List.exists_cons_of_ne_nil nonempty
  have first : [c].utf8Encode.size = c.utf8Size := by simp [List.utf8Encode_singleton]
  have positive := c.utf8Size_pos
  rw [List.utf8Encode_cons, ByteArray.size_append, first]
  omega

theorem complete_iff {count : Nat} (begins : chars <+: serde.write event ++ ['\n'])
    (left : (lineBytes serde event).extract 0 count = chars.utf8Encode) :
    (String.ofList (serde.write event)).toUTF8.size ≤ count ↔ serde.write event <+: chars := by
  have json : (String.ofList (serde.write event)).toUTF8 = (serde.write event).utf8Encode := by simp
  have newline : ['\n'].utf8Encode.size = 1 := by decide
  have sizes := congrArg ByteArray.size left
  rw [ByteArray.size_extract, lineBytes_eq, utf8Encode_append, ByteArray.size_append,
    newline] at sizes
  rw [json]
  constructor
  · intro written
    rcases List.prefix_concat_iff.1 begins with whole | ⟨rest, part⟩
    · exact ⟨['\n'], whole.symm⟩
    · by_cases empty : rest = []
      · rw [empty, append_nil] at part
        exact ⟨[], by rw [append_nil, part]⟩
      · -- fewer bytes than the JSON has
        have positive := size_utf8Encode_pos empty
        have size := congrArg (fun chars => (List.utf8Encode chars).size) part
        simp only [utf8Encode_append, ByteArray.size_append] at size
        omega
  · rintro ⟨rest, whole⟩
    have size := congrArg (fun chars => (List.utf8Encode chars).size) whole
    simp only [utf8Encode_append, ByteArray.size_append] at size
    omega

/-- **What an interrupted append leaves** behind ended lines. -/
theorem interrupted_shape {events : List Event}
    (readBack : ∀ event ∈ events, serde.read (serde.write event) = .ok event)
    (own : serde.read (serde.write event) = .ok event) (begins : chars <+: serde.write event ++ ['\n']) :
    Shape serde ((logText (events.map serde.write)).utf8Encode ++ chars.utf8Encode)
      (events ++ if serde.write event <+: chars then [event] else []) := by
  have all : ∀ event' ∈ events ++ [event], serde.read (serde.write event') = .ok event' := by
    intro event' member
    rcases mem_append.1 member with old | new
    · exact readBack event' old
    · rw [mem_singleton.1 new]
      exact own
  rcases List.prefix_concat_iff.1 begins with rfl | part
  · -- the whole line is written
    rw [if_pos (List.prefix_append _ _), ← lineBytes_eq, append_line]
    exact shape_ended all
  · rw [← utf8Encode_append]
    by_cases same : chars = serde.write event
    · -- all but the newline is written
      rw [if_pos (same ▸ prefix_refl _), same]
      exact ⟨events, _, _, rfl, readBack, .complete event own, rfl⟩
    · have proper : ¬ serde.write event <+: chars := by
        intro whole
        exact same (part.eq_of_length_le whole.length_le)
      rw [if_neg proper]
      by_cases empty : chars = []
      · rw [empty]
        exact ⟨events, _, _, rfl, readBack, .none, rfl⟩
      · exact ⟨events, _, _, rfl, readBack, .torn chars event part same empty, rfl⟩

/-! ## Calls -/

theorem prepare_replays {jobs : BTreeMap JobRecord} {call : StoreCall} {prepared : Prepared}
    {events : List Event} (replayed : fromEvents events = .ok jobs)
    (isPrepared : prepare jobs call = some (.ok prepared))
    (fresh : ∀ kind payload sessionId id,
      call.operation = .create kind payload sessionId id → jobs[id]? = none) :
    fromEvents (events ++ [prepared.event]) = .ok prepared.jobs := by
  rw [fromEvents_snoc, replayed]
  show applyEventStrict jobs prepared.event = _
  rw [prepare] at isPrepared
  cases operation : call.operation with
  | create kind payload sessionId id =>
    rw [operation] at isPrepared
    cases isPrepared
    exact applyEventStrict_queued kind payload _ sessionId (fresh _ _ _ _ operation)
  | change change =>
    rw [operation] at isPrepared
    cases required : requireStatus jobs change.transition.id change.transition.allowed
        change.transition.target with
    | error error =>
      simp [required, Except.map] at isPrepared
    | ok record =>
      obtain ⟨found, allowed⟩ := requireStatus_ok required
      simp only [required, Except.map, Option.some.injEq, Except.ok.injEq] at isPrepared
      rw [← isPrepared]
      exact applyEventStrict_change found allowed
  | progress id message =>
    rw [operation] at isPrepared
    cases required : requireStatus jobs id [.running] .running with
    | error error =>
      simp [required, Except.map] at isPrepared
    | ok record =>
      obtain ⟨found, allowed⟩ := requireStatus_ok required
      simp only [required, Except.map, Option.some.injEq, Except.ok.injEq] at isPrepared
      rw [← isPrepared]
      exact applyEventStrict_progress message _ record.sessionId found (mem_singleton.1 allowed)
  | recover mode =>
    rw [operation] at isPrepared
    cases isPrepared

/-- **How a call is served.** -/
inductive Served (serde : SerdeEvents) (state : StoreState) (call : StoreCall) :
    StoreAnswer → StoreState → Prop
  /-- Nothing is appended; a manager that runs did so before, or is recovered. -/
  | quiet (answer : StoreAnswer) (manager : Option (BTreeMap JobRecord))
      (without : attempt? serde (call, answer) = none)
      (sound : ∀ jobs, manager = some jobs → state.manager = some jobs ∨
        ∃ mode, recoverWithMode serde mode state.file = .ok jobs) :
      Served serde state call answer ⟨state.file, manager⟩
  | appended (jobs : BTreeMap JobRecord) (prepared : Prepared) (running : state.manager = some jobs)
      (isPrepared : prepare jobs call = some (.ok prepared)) (whole : call.fault = none) :
      Served serde state call (.appended prepared.event)
        ⟨state.file ++ lineBytes serde prepared.event, some prepared.jobs⟩
  | interrupted (jobs : BTreeMap JobRecord) (prepared : Prepared) (count : Nat) (reason : String)
      (running : state.manager = some jobs) (isPrepared : prepare jobs call = some (.ok prepared))
      (fault : call.fault = some (count, reason)) :
      Served serde state call (.interrupted prepared.event)
        ⟨state.file ++ (lineBytes serde prepared.event).extract 0 count, none⟩

variable {state : StoreState}

theorem served_recover {call : StoreCall} {mode : RecoveryMode}
    (operation : call.operation = .recover mode) :
    Served serde state call (serveCall serde state call).1 (serveCall serde state call).2 := by
  rw [serveCall, operation]
  dsimp only
  cases recovered : recoverWithMode serde mode state.file with
  | ok jobs =>
    refine .quiet _ _ rfl fun jobs' running => Or.inr ⟨mode, ?_⟩
    rw [recovered, Option.some.inj running]
  | error error => exact .quiet _ _ rfl nofun

theorem served_append {call : StoreCall} (operation : ∀ mode, call.operation ≠ .recover mode) :
    Served serde state call (serveCall serde state call).1 (serveCall serde state call).2 := by
  have unchanged (answer : StoreAnswer) (without : attempt? serde (call, answer) = none) :
      Served serde state call answer state :=
    .quiet answer state.manager without fun _ running => Or.inl running
  rw [serveCall]
  split
  · rename_i mode isRecover
    exact absurd isRecover (operation mode)
  · cases bound : state.manager.bind fun jobs => prepare jobs call with
    | none => exact unchanged _ rfl
    | some result =>
      obtain ⟨jobs, running, isResult⟩ := Option.bind_eq_some_iff.1 bound
      cases result with
      | error error => exact unchanged _ rfl
      | ok prepared =>
        cases fault : call.fault with
        | none => exact .appended jobs prepared running isResult fault
        | some cut => exact .interrupted jobs prepared cut.1 cut.2 running isResult fault

theorem served (state : StoreState) (call : StoreCall) :
    Served serde state call (serveCall serde state call).1 (serveCall serde state call).2 := by
  by_cases recovers : ∃ mode, call.operation = .recover mode
  · obtain ⟨mode, operation⟩ := recovers
    exact served_recover operation
  · exact served_append fun mode operation => recovers ⟨mode, operation⟩

/-! ## Runs -/

/-- What holds of the file and the manager after any calls. -/
structure LogInvariant (serde : SerdeEvents) (history : List (StoreCall × StoreAnswer))
    (state : StoreState) : Prop where
  shape : Shape serde state.file (writtenEvents serde history)
  legal : ∃ jobs, fromEvents (writtenEvents serde history) = .ok jobs
  manager : ∀ jobs, state.manager = some jobs → fromEvents (writtenEvents serde history) = .ok jobs
  ended : LastAcknowledged serde history →
    state.file = (logText ((writtenEvents serde history).map serde.write)).utf8Encode

section Step

variable {history : List (StoreCall × StoreAnswer)} {state after : StoreState} {call : StoreCall}
  {answer : StoreAnswer}

theorem attempts_snoc (history : List (StoreCall × StoreAnswer)) (step : StoreCall × StoreAnswer) :
    attempts serde (history ++ [step]) = attempts serde history ++ (attempt? serde step).toList := by
  rw [attempts, attempts, List.filterMap_append]
  cases attempted : attempt? serde step with
  | none | some attempt => simp [attempted]

theorem attempt?_interrupted {count : Nat} {reason : String} (event : Event)
    (fault : call.fault = some (count, reason)) :
    attempt? serde (call, .interrupted event) =
      some ⟨event, false, decide ((String.ofList (serde.write event)).toUTF8.size ≤ count)⟩ := by
  show some (Attempt.mk event false (call.fault.all _)) = _
  rw [fault]
  rfl

theorem LogInvariant.recovered (lawful : serde.Lawful) (invariant : LogInvariant serde history state)
    {mode : RecoveryMode} {jobs : BTreeMap JobRecord}
    (recovered : recoverWithMode serde mode state.file = .ok jobs) :
    fromEvents (writtenEvents serde history) = .ok jobs := by
  have replayed {events : Except StoreError (List Event)} (managed : managerOf events = .ok jobs) :
      ∃ found, events = .ok found ∧ fromEvents found = .ok jobs := by
    cases events with
    | error error => simp [managerOf, Except.mapError] at managed
    | ok found =>
      refine ⟨found, rfl, ?_⟩
      cases rebuilt : fromEvents found with
      | error error =>
        change (fromEvents found).mapError RecoveryError.corruptHistory = .ok jobs at managed
        rw [rebuilt] at managed
        cases managed
      | ok jobs' =>
        change (fromEvents found).mapError RecoveryError.corruptHistory = .ok jobs at managed
        rw [rebuilt] at managed
        cases managed
        rfl
  cases mode with
  | strict =>
    obtain ⟨found, read, rebuilt⟩ := replayed recovered
    rwa [invariant.shape.replay_ok lawful read] at rebuilt
  | recoverCrashTail =>
    obtain ⟨found, read, rebuilt⟩ := replayed recovered
    obtain ⟨tail, all⟩ := invariant.shape.recovered lawful
    rw [all] at read
    cases read
    exact rebuilt

/-- **One call** keeps the invariant. -/
theorem LogInvariant.step (lawful : serde.Lawful) (invariant : LogInvariant serde history state)
    (well : WellAppended serde state call) (served : Served serde state call answer after) :
    LogInvariant serde (history ++ [(call, answer)]) after := by
  cases served with
  | quiet answer manager without sound =>
    have same : attempts serde (history ++ [(call, answer)]) = attempts serde history := by
      rw [attempts_snoc, without, Option.toList_none, append_nil]
    have events : writtenEvents serde (history ++ [(call, answer)]) =
        writtenEvents serde history := by
      rw [writtenEvents, writtenEvents, same]
    refine ⟨events ▸ invariant.shape, events ▸ invariant.legal, fun jobs running => ?_, ?_⟩
    · rw [events]
      rcases sound jobs running with before | ⟨mode, recovered⟩
      · exact invariant.manager jobs before
      · exact invariant.recovered lawful recovered
    · rw [events, LastAcknowledged, same]
      exact invariant.ended
  | appended jobs prepared running isPrepared whole =>
    obtain ⟨terminated, own, -⟩ := well.appends jobs prepared running isPrepared
    have events : writtenEvents serde (history ++ [(call, .appended prepared.event)]) =
        writtenEvents serde history ++ [prepared.event] := by
      rw [writtenEvents, writtenEvents, attempts_snoc]
      simp [attempt?]
    have file : state.file ++ lineBytes serde prepared.event =
        (logText ((writtenEvents serde history ++ [prepared.event]).map
          serde.write)).utf8Encode := by
      rw [invariant.shape.ended lawful terminated, append_line]
    have readBack : ∀ event ∈ writtenEvents serde history ++ [prepared.event],
        serde.read (serde.write event) = .ok event := by
      intro event member
      rcases mem_append.1 member with old | new
      · exact invariant.shape.readBack event old
      · rw [mem_singleton.1 new]
        exact own
    have replayed := prepare_replays (invariant.manager jobs running) isPrepared
      fun kind payload sessionId id => well.fresh jobs kind payload sessionId id running
    refine ⟨?_, ?_, fun jobs' isManager => ?_, fun _ => ?_⟩
    · rw [events, file]
      exact shape_ended readBack
    · rw [events]
      exact ⟨_, replayed⟩
    · rw [events, ← Option.some.inj isManager]
      exact replayed
    · rw [events]
      exact file
  | interrupted jobs prepared count reason running isPrepared fault =>
    obtain ⟨terminated, own, cut⟩ := well.appends jobs prepared running isPrepared
    obtain ⟨chars, begins, left⟩ := cut count reason fault
    have events : writtenEvents serde (history ++ [(call, .interrupted prepared.event)]) =
        writtenEvents serde history ++
          if serde.write prepared.event <+: chars then [prepared.event] else [] := by
      rw [writtenEvents, writtenEvents, attempts_snoc, List.filter_append, List.map_append]
      congr 1
      rw [attempt?_interrupted prepared.event fault, Option.toList_some]
      by_cases complete : serde.write prepared.event <+: chars
      · rw [if_pos complete, decide_eq_true ((complete_iff begins left).2 complete)]
        rfl
      · rw [if_neg complete, decide_eq_false (mt (complete_iff begins left).1 complete)]
        rfl
    have replayed := prepare_replays (invariant.manager jobs running) isPrepared
      fun kind payload sessionId id => well.fresh jobs kind payload sessionId id running
    refine ⟨?_, ?_, nofun, fun last => ?_⟩
    · rw [events, left, invariant.shape.ended lawful terminated]
      exact interrupted_shape invariant.shape.readBack own begins
    · rw [events]
      by_cases complete : serde.write prepared.event <+: chars
      · rw [if_pos complete]
        exact ⟨_, replayed⟩
      · rw [if_neg complete, append_nil]
        exact invariant.legal
    · -- the last append is not acknowledged
      rw [LastAcknowledged, attempts_snoc, attempt?_interrupted prepared.event fault,
        Option.toList_some, List.getLast?_concat] at last
      exact absurd (last _ rfl) Bool.false_ne_true

end Step

theorem logInvariant_empty : LogInvariant serde [] .empty where
  shape := ⟨[], [], [], rfl, nofun, .none, rfl⟩
  legal := ⟨∅, rfl⟩
  manager := fun jobs running => by
    rw [← Option.some.inj running]
    rfl
  ended := fun _ => rfl

/-- What holds of the file and the manager in every run whose calls meet the condition. -/
theorem logInvariant_of_run (lawful : serde.Lawful) {history : List (StoreCall × StoreAnswer)}
    (run : (storeMachine serde).Run (WellAppended serde) .empty history state) :
    LogInvariant serde history state :=
  run.invariant (LogInvariant serde) logInvariant_empty
    fun _ state call invariant well => invariant.step lawful well (served state call)

/-- **The log survives** every run whose calls meet the condition. -/
theorem survival_of_run (lawful : serde.Lawful) {state : StoreState}
    {history : List (StoreCall × StoreAnswer)}
    (run : (storeMachine serde).Run (WellAppended serde) .empty history state) :
    Survival serde history state := by
  have invariant := logInvariant_of_run lawful run
  obtain ⟨jobs, rebuilt⟩ := invariant.legal
  refine ⟨invariant.shape.recovered lawful, ⟨jobs, ?_⟩, ?_, fun last => ?_⟩
  · obtain ⟨tail, replayed⟩ := invariant.shape.recovered lawful
    rw [recoverWithMode, replayed]
    show (fromEvents _).mapError RecoveryError.corruptHistory = _
    rw [rebuilt]
    rfl
  · -- whatever is acknowledged is complete
    have complete : ∀ attempt ∈ attempts serde history, attempt.acknowledged = true →
        attempt.complete = true := by
      intro attempt member acknowledged
      obtain ⟨⟨call, answer⟩, _, tried⟩ := List.mem_filterMap.1 member
      cases answer with
      | appended event =>
        cases tried
        rfl
      | interrupted event =>
        cases tried
        cases acknowledged
      | _ => cases tried
    have both : (attempts serde history).filter (·.acknowledged) =
        ((attempts serde history).filter (·.complete)).filter (·.acknowledged) := by
      rw [List.filter_filter]
      refine List.filter_congr fun attempt member => ?_
      cases acknowledged : attempt.acknowledged with
      | false => rfl
      | true => rw [complete attempt member acknowledged]; rfl
    rw [acknowledgedEvents, writtenEvents, both]
    exact (List.filter_sublist).map _
  · have replayed := replay_ended lawful invariant.shape.readBack
    rw [← invariant.ended last] at replayed
    refine ⟨replayed, jobs, ?_⟩
    rw [recover, replayed]
    show (fromEvents _).mapError RecoveryError.corruptHistory = _
    rw [rebuilt]
    rfl

/-! ## An interrupted append, and one behind it -/

def createCall (id : JobId) (second : Nat) (fault : Option (Nat × String)) : StoreCall where
  operation := .create "test.echo" (.object []) none id
  eventId := "evt-" ++ id
  at_ := 1000000000 * (second : Int)
  fault := fault

def createdEvent (id : JobId) (second : Nat) : Event :=
  (createCall id second none).event none (.jobQueued id "test.echo" (.object []))

def EventKind.queuedId : EventKind → Option JobId
  | .jobQueued id _ _ => some id
  | _ => none

/-- What is written for an event of the first ten seconds that queues a job. -/
def createdJson (event : Event) : Json :=
  .object [("id", .string event.id),
      ("at", .string ("1970-01-01T00:00:0" ++ toString (event.at_ / 1000000000) ++ "Z")),
      ("source", .string "Scheduler"), ("session_id", .null),
      ("kind", .object [("JobQueued", .object
        [("job_id", .string ((event.kind.queuedId).getD "")), ("kind", .string "test.echo"),
          ("payload", .object [])])])]

def sampleEvents : List Event :=
  [createdEvent "job-1" 0, createdEvent "job-2" 1, createdEvent "job-3" 2]

def sampleSerde : SerdeEvents where
  write event := (createdJson event).render
  read chars :=
    match sampleEvents.find? fun event => (createdJson event).render = chars with
    | some event => .ok event
    | none => .error "EOF while parsing an object"

theorem sampleSerde_lawful : sampleSerde.Lawful where
  opens event := rfl
  plain event := Json.render_plain _
  torn event start := by
    rintro ⟨rest, whole⟩ proper
    show ∃ reason, (match sampleEvents.find? fun event => (createdJson event).render = start with
      | some event => Except.ok event
      | none => .error "EOF while parsing an object") = .error reason
    cases found : sampleEvents.find? fun event => (createdJson event).render = start with
    | none => exact ⟨_, rfl⟩
    | some other =>
      -- no object is the beginning of another one
      have written : (createdJson other).render = start := by simpa using List.find?_some found
      have same : (createdJson other).render ++ rest = (createdJson event).render ++ [] := by
        rw [written, whole, append_nil]
        rfl
      obtain ⟨-, rfl⟩ := Json.object_unambiguous same
      rw [append_nil] at whole
      exact absurd whole proper

theorem sampleSerde_readBack (before after : List Event)
    (split : sampleEvents = before ++ event :: after) (others : before.all (fun other =>
      decide ((createdJson other).render ≠ (createdJson event).render)) = true) :
    sampleSerde.read (sampleSerde.write event) = .ok event := by
  show (match sampleEvents.find? fun other =>
      (createdJson other).render = (createdJson event).render with
    | some event => Except.ok event
    | none => .error "EOF while parsing an object") = .ok event
  rw [split, List.find?_append, List.find?_cons_of_pos (by simp)]
  have noneBefore : before.find? (fun other =>
      decide ((createdJson other).render = (createdJson event).render)) = none := by
    rw [List.find?_eq_none]
    intro other member same
    have different := List.all_eq_true.1 others other member
    simp only [decide_eq_true_eq] at same different
    exact different same
  rw [noneBefore]
  rfl

theorem terminated_logText (texts : List (List Char)) : Terminated (logText texts).utf8Encode := by
  refine ⟨_, readToString_utf8Encode _, ?_⟩
  rw [endsWithNewline, decide_eq_true_eq]
  exact logText_ends texts

theorem createCall_well {serde : SerdeEvents} {id : JobId} {second : Nat} {fault : Option (Nat × String)}
    (terminated : Terminated state.file)
    (readBack : serde.read (serde.write (createdEvent id second)) = .ok (createdEvent id second))
    (cut : WholeCharacters serde (createdEvent id second) fault)
    (unknown : state.manager.all (fun jobs => (jobs[id]?).isNone) = true) :
    WellAppended serde state (createCall id second fault) where
  appends := fun jobs prepared running isPrepared => by
    cases isPrepared
    exact ⟨terminated, readBack, cut⟩
  fresh := fun jobs kind payload sessionId other running operation => by
    cases operation
    rw [running] at unknown
    exact Option.isNone_iff_eq_none.1 unknown

/-- The first characters of the events of created jobs. -/
def tornChars : List Char := "\x7b\"id\":\"ev".toList

def interruptedCalls : List StoreCall :=
  [createCall "job-1" 0 none, createCall "job-2" 1 (some (9, "the system crashes"))]

theorem extract_prefix {start whole : List Char} (begins : start <+: whole) :
    whole.utf8Encode.extract 0 start.utf8Encode.size = start.utf8Encode := by
  obtain ⟨rest, rfl⟩ := begins
  rw [utf8Encode_append]
  exact ByteArray.extract_append_eq_left rfl

theorem interrupted_left : tornChars <+: sampleSerde.write (createdEvent "job-2" 1) ++ ['\n'] ∧
      (lineBytes sampleSerde (createdEvent "job-2" 1)).extract 0 9 = tornChars.utf8Encode := by
  have begins : tornChars <+: sampleSerde.write (createdEvent "job-2" 1) ++ ['\n'] := by
    rw [List.prefix_iff_eq_take]
    decide +kernel
  have size : tornChars.utf8Encode.size = 9 := by decide +kernel
  refine ⟨begins, ?_⟩
  rw [← size, lineBytes_eq]
  exact extract_prefix begins

theorem interruptedCalls_well :
    (storeMachine sampleSerde).Met (WellAppended sampleSerde) .empty interruptedCalls := by
  refine ⟨createCall_well (terminated_logText []) (sampleSerde_readBack [] _ rfl rfl) nofun
    (by decide +kernel), ?_⟩
  refine ⟨createCall_well ?_ (sampleSerde_readBack [createdEvent "job-1" 0] _ rfl
    (by decide +kernel)) ?_ (by decide +kernel), trivial⟩
  · have ended := terminated_logText [sampleSerde.write (createdEvent "job-1" 0)]
    rw [← List.map_singleton, ← List.nil_append [createdEvent "job-1" 0], ← append_line] at ended
    exact ended
  · intro count reason fault
    cases fault
    exact ⟨tornChars, interrupted_left⟩

def storeRun (calls : List StoreCall) : List (StoreCall × StoreAnswer) × StoreState :=
  (storeMachine sampleSerde).exec .empty calls

/-- The log survives the interruption. -/
theorem survival_of_run_sample :
    Survival sampleSerde (storeRun interruptedCalls).1 (storeRun interruptedCalls).2 :=
  survival_of_run sampleSerde_lawful (Machine.exec_run _ _ _ interruptedCalls_well)

theorem glued_file :
    (storeRun interruptedCalls).2.file ++ lineBytes sampleSerde (createdEvent "job-3" 2) =
      (logText ([createdEvent "job-1" 0].map sampleSerde.write ++
        [tornChars ++ sampleSerde.write (createdEvent "job-3" 2)])).utf8Encode := by
  show ((ByteArray.empty ++ lineBytes sampleSerde (createdEvent "job-1" 0)) ++
    (lineBytes sampleSerde (createdEvent "job-2" 1)).extract 0 9) ++ _ = _
  rw [interrupted_left.2, lineBytes_eq, lineBytes_eq, ByteArray.empty_append,
    ← utf8Encode_append, ← utf8Encode_append]
  refine congrArg List.utf8Encode ?_
  rw [List.map_singleton, List.singleton_append, logText_cons, logText_cons, logText_nil]
  simp only [List.append_assoc, cons_append, List.nil_append]

/-- **Nothing is recovered** from a log with a line that is not read. -/
theorem lost_of_unread {serde : SerdeEvents} (lawful : serde.Lawful) {ended : List Event}
    {line : List Char} (readBack : ∀ event ∈ ended, serde.read (serde.write event) = .ok event)
    (isLine : IsLine line) (notBlank : isBlank line = false) {reason : String}
    (unread : serde.read line = .error reason) :
    replayRecoverable serde (logText (ended.map serde.write ++ [line])).utf8Encode =
      .error (.corrupt (1 + ended.length) reason) := by
  have texts : ∀ text ∈ ended.map serde.write ++ [line], IsLine text ∧ isBlank text = false := by
    intro text member
    rcases mem_append.1 member with old | new
    · obtain ⟨event, _, rfl⟩ := mem_map.1 old
      exact ⟨lawful.isLine event, lawful.notBlank (prefix_refl _) (lawful.nonempty event)⟩
    · rw [mem_singleton.1 new]
      exact ⟨isLine, notBlank⟩
  have found := lines_logText (fun text member => (texts text member).1) []
  rw [append_nil, lines, append_nil] at found
  have newline : endsWithNewline (logText (ended.map serde.write ++ [line])) = true := by
    rcases logText_ends (ended.map serde.write ++ [line]) with empty | ends
    · simp [logText_append] at empty
    · rw [endsWithNewline, ends]
      rfl
  rw [replayRecoverable, readLinesWithTermination, readToString_utf8Encode]
  show recoverLines serde _ (((lines _).zipIdx 1).filter _) = _
  rw [found, newline, List.filter_eq_self.2, recoverLines_append readBack, zipIdx_cons,
    recoverLines, unread]
  · rfl
  · intro numbered member
    rw [(texts _ (List.fst_mem_of_mem_zipIdx member)).2]
    rfl

theorem restart {serde : SerdeEvents} {jobs : BTreeMap JobRecord}
    (recovered : recoverWithMode serde .recoverCrashTail state.file = .ok jobs) :
    (storeMachine serde).step state ⟨.recover .recoverCrashTail, "", 0, none⟩ =
      (.recovered, ⟨state.file, some jobs⟩) := by
  simp only [storeMachine, serveCall, recovered]

/-- The event that is appended behind the interruption is acknowledged, and then nothing can be
recovered from the log. -/
theorem survival_of_run_counterexample :
    ∃ history state, (storeMachine sampleSerde).Run Machine.anyStep .empty history state ∧
      LastAcknowledged sampleSerde history ∧ ¬ Survival sampleSerde history state := by
  have run : (storeMachine sampleSerde).Run Machine.anyStep .empty
      (storeRun interruptedCalls).1 (storeRun interruptedCalls).2 :=
    (Machine.exec_run _ _ _ interruptedCalls_well).weaken fun _ _ _ => trivial
  obtain ⟨jobs, recovered⟩ := survival_of_run_sample.recovered
  -- a restart, and then the creation of another job
  have restarted := run.snoc ⟨.recover .recoverCrashTail, "", 0, none⟩ trivial
  rw [restart recovered] at restarted
  refine ⟨_, _, restarted.snoc (createCall "job-3" 2 none) trivial, ?_, fun survives => ?_⟩
  · intro attempt isLast
    rw [attempts_snoc] at isLast
    change attempt ∈ (_ ++ [Attempt.mk (createdEvent "job-3" 2) true true]).getLast? at isLast
    rw [List.getLast?_concat] at isLast
    rw [← Option.some.inj isLast]
  · obtain ⟨tail, replayed⟩ := survives.replayed
    change replayRecoverable sampleSerde ((storeRun interruptedCalls).2.file ++
      lineBytes sampleSerde (createdEvent "job-3" 2)) = _ at replayed
    have unread : sampleSerde.read (tornChars ++ sampleSerde.write (createdEvent "job-3" 2)) =
        .error "EOF while parsing an object" := by
      have noSuch : sampleEvents.find? (fun event => decide ((createdJson event).render =
          tornChars ++ sampleSerde.write (createdEvent "job-3" 2))) = none := by
        decide +kernel
      show (match sampleEvents.find? fun event => (createdJson event).render =
          tornChars ++ sampleSerde.write (createdEvent "job-3" 2) with
        | some event => Except.ok event
        | none => .error "EOF while parsing an object") = _
      rw [noSuch]
    rw [glued_file, lost_of_unread sampleSerde_lawful ?_ ?_ rfl unread] at replayed
    · cases replayed
    · intro event member
      rw [mem_singleton.1 member]
      exact sampleSerde_readBack [] _ rfl rfl
    · have written := sampleSerde_lawful.isLine (createdEvent "job-3" 2)
      have torn : IsLine tornChars := ⟨by decide +kernel, by decide +kernel⟩
      exact ⟨by simp [torn.1, written.1], by simp [torn.2, written.2]⟩

end Zero3Pilot.JobScheduler
