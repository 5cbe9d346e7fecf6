import Zero3Pilot.Foundations.Checks
import Zero3Pilot.Foundations.Machine
import Zero3Pilot.ProviderSession.WriterGate

/-! # Runs of the session writer gate

The calls of any number of windows on one session, and what the agent kernel does with the turns that
were let through: it begins to execute a turn some time after the turn acquired the writer, and ends it
some time later. The handler of the turn settles when it sees the turn end, and also when it gives up. -/

namespace Zero3Pilot.ProviderSession

variable (gate : GateSurroundings)

/-! ## The world around the gate -/

inductive KernelPhase where
  | waiting
  | executing
  | ended
  deriving DecidableEq

/-- A turn that was let through. -/
structure KernelTurn where
  token : String
  (switchedWriter held : Bool)
  kernel : KernelPhase

/-- A switch that began, and has not been ended by `fail` or by the first turn of its target. -/
structure OpenSwitch where
  token : String
  targetGeneration : Nat
  targetProfileId : String
  verified : Option Json

structure GateWorld where
  record : Option SessionWriterState
  turns : List KernelTurn
  opened : Option OpenSwitch

/-- What happens to a session: a call of a window, or something in the kernel. -/
inductive GateEvent where
  | begin (request : Json) (now : Int) (uuid : Uuid)
  | verify (request : Json) (now : Int)
  | fail (request : Json) (now : Int)
  | status
  | turn (request : TurnRequest) (now : Int) (uuid : Uuid)
  | kernelStarts (turn : Nat)
  | kernelEnds (turn : Nat)
  | settles (turn : Nat) (failed : Bool) (now : Int)

def KernelTurn.start (turn : KernelTurn) : KernelTurn :=
  if turn.kernel = .waiting then { turn with kernel := .executing } else turn

def KernelTurn.finish (turn : KernelTurn) : KernelTurn :=
  if turn.kernel = .executing then { turn with kernel := .ended } else turn

def openedBy (request : Json) (uuid : Uuid) : Option OpenSwitch :=
  match beginRequest request with
  | .ok request => some ⟨uuid.text, request.sourceGeneration + 1, request.targetProfileId, none⟩
  | .error _ => none

def givenHandoff (request : Json) : Option Json :=
  match zero3ProviderHandoff (request.get "handoff") with
  | .ok handoff => handoff
  | .error _ => none

/-- What becomes of the open switch when `fail` is called: it is ended unless another token is given. -/
def leftOpen (request : Json) (record : Option SessionWriterState) (opened : Option OpenSwitch) :
    Option OpenSwitch :=
  match failRequest request, record with
  | .ok switchToken, some state =>
    if isOtherToken switchToken state.switchToken then opened else none
  | _, _ => opened

/-- **What an event does.** -/
def happen (world : GateWorld) (event : GateEvent) : GateWorld :=
  match event with
  | .begin request now uuid =>
    match zero3BeginSessionSwitch request now uuid world.record with
    | (.ok _, record) => { world with record, opened := openedBy request uuid }
    | (.error _, record) => { world with record }
  | .verify request now =>
    match zero3VerifySessionSwitch gate request now world.record with
    | (.ok _, record) =>
      { world with
        record
        opened := world.opened.map fun switch =>
          { switch with verified := givenHandoff request } }
    | (.error _, record) => { world with record }
  | .fail request now =>
    { world with
      record := (zero3FailSessionSwitch request now world.record).2
      opened := leftOpen request world.record world.opened }
  | .status => world
  | .turn request now uuid =>
    match zero3AcquireSessionWriter gate request now uuid world.record with
    | (.ok switchedWriter, record) =>
      { record
        turns := world.turns ++ [⟨uuid.text, switchedWriter, true, .waiting⟩]
        opened := if switchedWriter then none else world.opened }
    | (.error _, record) => { world with record }
  | .kernelStarts turn => { world with turns := world.turns.modify turn KernelTurn.start }
  | .kernelEnds turn => { world with turns := world.turns.modify turn KernelTurn.finish }
  | .settles turn failed now =>
    match world.turns[turn]? with
    | some settling =>
      if settling.held then
        { world with
          record := releaseWriter settling.token settling.switchedWriter failed now world.record
          turns := world.turns.modify turn fun turn => { turn with held := false } }
      else world
    | none => world

def gateMachine : Machine GateWorld GateEvent Unit := ⟨fun world event => ((), happen gate world event)⟩

/-- A session that no window has used. -/
def unusedGate : GateWorld := ⟨none, [], none⟩

/-! ## The law of the gate -/

/-- **When an event keeps the discipline of the gate**: switches and turns do not overlap. -/
def GateAllowed (world : GateWorld) (event : GateEvent) : Prop :=
  match event with
  | .fail request _ => ∀ token, failRequest request = .ok (some token) →
      ∀ state ∈ world.record, state.switchToken ≠ none
  | .turn _ _ _ => ∀ state ∈ world.record, state.phase = .failed → state.switchToken = none
  | .kernelStarts turn => ∀ starting ∈ world.turns[turn]?, starting.kernel = .waiting →
      starting.held = true
  | .settles turn _ _ => ∀ settling ∈ world.turns[turn]?, settling.held = true →
      settling.kernel ≠ .executing
  | _ => True

def GateWorld.Executes (world : GateWorld) (turn : Nat) : Prop :=
  ∃ executing ∈ world.turns[turn]?, executing.kernel = .executing

def carriedToken : GateEvent → Option String
  | .verify request _ => (zero3SessionText (request.get "switchToken") "switchToken" 256).toOption
  | .fail request _ => (failRequest request).toOption.join
  | _ => none

/-- **What the gate is for.** -/
structure GateLaw (world : GateWorld) (event : GateEvent) : Prop where
  exclusive : ∀ turn other, (happen gate world event).Executes turn →
    (happen gate world event).Executes other → turn = other
  gated : ∀ request now uuid switchedWriter, event = .turn request now uuid →
    (zero3AcquireSessionWriter gate request now uuid world.record).1 = .ok switchedWriter →
    ∀ switch ∈ world.opened, request.generation = switch.targetGeneration ∧
      request.profileId = switch.targetProfileId ∧
      ∃ handoff, request.handoff = some handoff ∧ switch.verified = some handoff
  verifiedIdle : ∀ request now snapshot, event = .verify request now →
    (zero3VerifySessionSwitch gate request now world.record).1 = .ok snapshot →
    ∀ turn, ¬ world.Executes turn
  /-- The generation grows by one only through the first turn of a target. -/
  generation : ∀ state ∈ world.record, ∃ later, (happen gate world event).record = some later ∧
    (later.generation = state.generation ∨ later.generation = state.generation + 1 ∧
      ∃ request now uuid, event = .turn request now uuid ∧
        ∃ switch ∈ world.opened, later.generation = switch.targetGeneration ∧
          request.generation = switch.targetGeneration)
  /-- A call with a token that is not current changes nothing. -/
  stale : ∀ token, carriedToken event = some token →
    (world.record.bind (·.switchToken)) ≠ some token → happen gate world event = world

/-! ## What the calls leave -/

variable {gate}

theorem uuid_ne_empty (uuid : Uuid) : uuid.text ≠ "" := by
  intro empty
  have length := uuid.length
  rw [empty] at length
  cases length

/-- **How a switch begins**: its request is not read; or it is refused; or it is recorded, with a token
of its own. -/
theorem begin_cases (request : Json) (now : Int) (uuid : Uuid) (known : Option SessionWriterState) :
    (∃ message, zero3BeginSessionSwitch request now uuid known = (.error message, known)) ∨
    ∃ read state, beginRequest request = .ok read ∧
      state = zero3SessionWriterState read.sourceGeneration read.sourceProfileId
        (some read.projectId) now known ∧
      ((∃ message, zero3BeginSessionSwitch request now uuid known = (.error message, some state)) ∨
      state.generation = read.sourceGeneration ∧ zero3BeginSessionSwitch request now uuid known =
        (.ok (zero3SessionWriterSnapshot (begun read now uuid state)),
          some (begun read now uuid state))) := by
  unfold zero3BeginSessionSwitch
  cases found : beginRequest request with
  | error message => exact .inl ⟨message, rfl⟩
  | ok read =>
    refine .inr ⟨read, _, rfl, rfl, ?_⟩
    dsimp only
    generalize zero3SessionWriterState read.sourceGeneration read.sourceProfileId
      (some read.projectId) now known = state
    cases refused : beginRefusal read state with
    | some message => exact .inl ⟨message, rfl⟩
    | none =>
      unfold beginRefusal at refused
      split at refused
      · cases refused
      · rename_i same
        exact .inr ⟨by simpa using same, rfl⟩

variable (gate) in
/-- **How a handoff is verified**: by the call of the current switch, while no turn is running. -/
theorem verify_cases (request : Json) (now : Int) (known : Option SessionWriterState) :
    (∃ message, zero3VerifySessionSwitch gate request now known = (.error message, known)) ∨
    ∃ token state, zero3SessionText (request.get "switchToken") "switchToken" 256 = .ok token ∧
      known = some state ∧ state.switchToken = some token ∧ state.phase = .handoffPending ∧
      state.writerToken = none ∧
      ((∃ snapshot handoff, givenHandoff request = some handoff ∧
        zero3VerifySessionSwitch gate request now known = (.ok snapshot,
          some { state with
            phase := .switching
            handoffHash := some (zero3SwitchHandoffHash gate handoff)
            updatedAt := now })) ∨
      ∃ message, zero3VerifySessionSwitch gate request now known = (.error message,
        some { state with phase := .failed, lastError := some message, updatedAt := now })) := by
  unfold zero3VerifySessionSwitch
  split
  · exact .inl ⟨_, rfl⟩
  · exact .inl ⟨_, rfl⟩
  · rename_i token state read
    split
    · exact .inl ⟨_, rfl⟩
    · rename_i current
      split
      · exact .inl ⟨_, rfl⟩
      · rename_i idle
        have free : state.writerToken = none := by simpa using idle
        obtain ⟨same, pending⟩ : state.switchToken = some token ∧ state.phase = .handoffPending := by
          simpa [not_or] using current
        refine .inr ⟨token, state, read, rfl, same, pending, free, ?_⟩
        cases verified : verifiedHandoff gate request { state with phase := .handoffVerifying } now with
        | error message => exact .inr ⟨message, rfl⟩
        | ok handoff =>
          refine .inl ⟨_, handoff, ?_, rfl⟩
          unfold verifiedHandoff at verified
          obtain ⟨given, parsed, rest⟩ := bind_ok.1 verified
          unfold givenHandoff
          rw [parsed]
          cases given with
          | none => cases rest
          | some handoff' =>
            dsimp only at rest ⊢
            split at rest
            · cases rest
            · cases rest
              rfl

/-- **How a switch is failed**: the record stays, or nothing of a switch is left in it. -/
theorem fail_cases (request : Json) (now : Int) (known : Option SessionWriterState)
    (opened : Option OpenSwitch) :
    ((zero3FailSessionSwitch request now known).2 = known ∧ leftOpen request known opened = opened) ∨
    ∃ state failed, known = some state ∧ (zero3FailSessionSwitch request now known).2 = some failed ∧
      leftOpen request known opened = none ∧ failed.phase = .failed ∧ failed.switchToken = none ∧
      failed.writerToken = state.writerToken ∧ failed.generation = state.generation := by
  unfold zero3FailSessionSwitch leftOpen
  cases read : failRequest request with
  | error message => exact .inl ⟨rfl, rfl⟩
  | ok switchToken =>
    cases known with
    | none => exact .inl ⟨rfl, rfl⟩
    | some state =>
      dsimp only
      by_cases other : isOtherToken switchToken state.switchToken = true
      · rw [if_pos other, if_pos other]
        exact .inl ⟨rfl, rfl⟩
      · rw [if_neg other, if_neg other]
        split
        · exact .inr ⟨state, _, rfl, rfl, rfl, rfl, rfl, rfl, rfl⟩
        · exact .inr ⟨state, _, rfl, rfl, rfl, rfl, rfl, rfl, rfl⟩

variable (gate) in
/-- **How a turn acquires the writer**: as the first turn of a verified target, or as one of the writer. -/
theorem acquire_cases (request : TurnRequest) (now : Int) (uuid : Uuid)
    (known : Option SessionWriterState) :
    ∃ state, state = zero3SessionWriterState request.generation (some request.profileId)
        (some request.projectId) now known ∧
      ((∃ message, zero3AcquireSessionWriter gate request now uuid known =
        (.error message, some state)) ∨
      state.writerToken = none ∧
        ((state.phase = .switching ∧ some request.generation = state.targetGeneration ∧
          some request.profileId = state.targetProfileId ∧
          (∃ handoff, request.handoff = some handoff ∧
            state.handoffHash = some (zero3SwitchHandoffHash gate handoff)) ∧
          zero3AcquireSessionWriter gate request now uuid known =
            (.ok true, some (acquired request now uuid state))) ∨
        state.phase ≠ .switching ∧ state.phase ≠ .handoffPending ∧ state.phase ≠ .handoffVerifying ∧
          zero3AcquireSessionWriter gate request now uuid known =
            (.ok false, some (acquired request now uuid state)))) := by
  refine ⟨_, rfl, ?_⟩
  unfold zero3AcquireSessionWriter
  dsimp only
  generalize zero3SessionWriterState request.generation (some request.profileId)
    (some request.projectId) now known = state
  cases refused : acquireRefusal gate request state now with
  | some message => exact .inl ⟨message, rfl⟩
  | none =>
    unfold acquireRefusal at refused
    split at refused
    · cases refused
    rename_i free
    split at refused
    · cases refused
    rename_i settled
    have idle : state.writerToken = none := by simpa using free
    obtain ⟨notPending, notVerifying⟩ : state.phase ≠ .handoffPending ∧
        state.phase ≠ .handoffVerifying := by
      simpa [not_or] using settled
    refine .inr ⟨idle, ?_⟩
    by_cases switching : state.phase = .switching
    · rw [if_pos switching] at refused
      unfold switchingRefusal at refused
      split at refused
      · cases refused
      rename_i target
      obtain ⟨sameGeneration, sameProfile⟩ : some request.generation = state.targetGeneration ∧
          some request.profileId = state.targetProfileId := by
        simpa [not_or] using target
      cases given : request.handoff with
      | none =>
        rw [given] at refused
        cases refused
      | some handoff =>
        rw [given] at refused
        dsimp only at refused
        split at refused
        · cases refused
        · split at refused
          · rename_i hashed
            refine .inl ⟨switching, sameGeneration, sameProfile, ⟨handoff, rfl, hashed⟩, ?_⟩
            simp [switching]
          · cases refused
    · refine .inr ⟨switching, notPending, notVerifying, ?_⟩
      simp [switching]

/-! ## What holds in every state -/

structure Opens (state : SessionWriterState) (switch : OpenSwitch) : Prop where
  token : state.switchToken = some switch.token
  drawn : switch.token ≠ ""
  targetGeneration : state.targetGeneration = some switch.targetGeneration
  targetProfileId : state.targetProfileId = some switch.targetProfileId
  next : switch.targetGeneration = state.generation + 1
  phase : state.phase = .handoffPending ∨ state.phase = .switching ∨ state.phase = .failed

/-- The record says that no switch is open. -/
structure Closes (state : SessionWriterState) : Prop where
  token : state.switchToken = none
  phase : state.phase = .active ∨ state.phase = .failed

/-- **What holds in every state** of the turns, of the kernel and of the record. -/
structure GateInvariant (gate : GateSurroundings) (world : GateWorld) : Prop where
  holds : ∀ (n : Nat), ∀ turn ∈ world.turns[n]?, turn.held = true →
    ∃ state ∈ world.record, state.writerToken = some turn.token
  single : ∀ (n m : Nat), ∀ turn ∈ world.turns[n]?, ∀ other ∈ world.turns[m]?, turn.held = true →
    other.held = true → n = m
  running : ∀ (n : Nat), ∀ turn ∈ world.turns[n]?, turn.kernel = .executing → turn.held = true
  opened : ∀ switch ∈ world.opened, ∃ state ∈ world.record, Opens state switch
  verified : ∀ switch ∈ world.opened, ∀ state ∈ world.record, state.phase = .switching →
    ∃ handoff, switch.verified = some handoff ∧
      state.handoffHash = some (zero3SwitchHandoffHash gate handoff)
  closed : world.opened = none → ∀ state ∈ world.record, Closes state

theorem gateInvariant_unused : GateInvariant gate unusedGate := by
  constructor
  · intro n turn member
    simp [unusedGate] at member
  · intro n m turn member
    simp [unusedGate] at member
  · intro n turn member
    simp [unusedGate] at member
  · rintro switch ⟨⟩
  · rintro switch ⟨⟩
  · rintro _ state ⟨⟩

variable {world : GateWorld}

theorem GateInvariant.idle (kept : GateInvariant gate world) {state : SessionWriterState}
    (known : world.record = some state) (free : state.writerToken = none) {n : Nat} {turn : KernelTurn}
    (member : turn ∈ world.turns[n]?) : turn.held = false := by
  by_contra held
  obtain ⟨other, same, token⟩ := kept.holds n turn member (by simpa using held)
  rw [known] at same
  cases same
  rw [free] at token
  cases token

/-- A change of the record that keeps its writer keeps what holds of the turns. -/
theorem GateInvariant.withRecord (kept : GateInvariant gate world) {record : Option SessionWriterState}
    {opened : Option OpenSwitch}
    (writer : ∀ state ∈ world.record, ∃ next ∈ record, next.writerToken = state.writerToken)
    (opens : ∀ switch ∈ opened, ∃ state ∈ record, Opens state switch)
    (verified : ∀ switch ∈ opened, ∀ state ∈ record, state.phase = .switching →
      ∃ handoff, switch.verified = some handoff ∧
        state.handoffHash = some (zero3SwitchHandoffHash gate handoff))
    (closed : opened = none → ∀ state ∈ record, Closes state) :
    GateInvariant gate { world with record, opened } := by
  constructor
  · intro n turn member held
    obtain ⟨state, known, token⟩ := kept.holds n turn member held
    obtain ⟨next, later, same⟩ := writer state known
    exact ⟨next, later, same.trans token⟩
  · exact kept.single
  · exact kept.running
  · exact opens
  · exact verified
  · exact closed

/-! ## What each event keeps -/

section

variable (kept : GateInvariant gate world)
include kept

theorem GateInvariant.created (generation : Nat) (profileId projectId : Option String) (now : Int) :
    GateInvariant gate { world with
      record := some (zero3SessionWriterState generation profileId projectId now world.record) } := by
  cases known : world.record with
  | some state =>
    have same : { world with
        record := some (zero3SessionWriterState generation profileId projectId now (some state)) } =
        world := by
      rw [zero3SessionWriterState, Option.getD_some, ← known]
    rw [same]
    exact kept
  | none =>
    have none : world.opened = none := by
      by_contra some
      obtain ⟨switch, opened⟩ := Option.ne_none_iff_exists'.1 some
      obtain ⟨state, found, _⟩ := kept.opened switch opened
      rw [known] at found
      cases found
    apply kept.withRecord
    · rw [known]
      rintro state ⟨⟩
    · rw [none]
      rintro switch ⟨⟩
    · rw [none]
      rintro switch ⟨⟩
    · rintro _ state ⟨⟩
      exact ⟨rfl, .inl rfl⟩

theorem GateInvariant.begin (request : Json) (now : Int) (uuid : Uuid) :
    GateInvariant gate (happen gate world (.begin request now uuid)) := by
  obtain ⟨message, refused⟩ | ⟨read, state, parsed, given, ⟨message, refused⟩ | ⟨same, opens⟩⟩ :=
    begin_cases request now uuid world.record
  · simp only [happen, refused]
    exact kept
  · simp only [happen, refused, given]
    exact kept.created _ _ _ _
  · simp only [happen, opens]
    have switch : openedBy request uuid =
        some ⟨uuid.text, read.sourceGeneration + 1, read.targetProfileId, none⟩ := by
      rw [openedBy, parsed]
    apply kept.withRecord
    · intro old known
      have current : state = old := by
        rw [given, show world.record = some old from known]
        rfl
      exact ⟨_, rfl, congrArg (·.writerToken) current⟩
    · rw [switch]
      rintro _ ⟨⟩
      refine ⟨_, rfl, rfl, uuid_ne_empty uuid, rfl, rfl, ?_, .inl rfl⟩
      exact congrArg (· + 1) same.symm
    · rintro _ _ _ ⟨⟩ switching
      cases switching
    · rw [switch]
      rintro ⟨⟩

theorem GateInvariant.verify (request : Json) (now : Int) :
    GateInvariant gate (happen gate world (.verify request now)) := by
  obtain ⟨message, refused⟩ | ⟨token, state, read, known, current, pending, free, outcome⟩ :=
    verify_cases gate request now world.record
  · simp only [happen, refused]
    exact kept
  · obtain ⟨switch, opened⟩ : ∃ switch, world.opened = some switch := by
      apply Option.ne_none_iff_exists'.1
      intro none
      have token := (kept.closed none state known).token
      rw [current] at token
      cases token
    obtain ⟨same, found, opens⟩ := kept.opened switch opened
    rw [known] at found
    cases found
    obtain ⟨snapshot, handoff, given, accepted⟩ | ⟨message, refused⟩ := outcome
    · simp only [happen, accepted, opened, given]
      apply kept.withRecord
      · intro old before
        rw [known] at before
        cases before
        exact ⟨_, rfl, rfl⟩
      · rintro _ ⟨⟩
        exact ⟨_, rfl, opens.token, opens.drawn, opens.targetGeneration, opens.targetProfileId, opens.next,
          .inr (.inl rfl)⟩
      · rintro _ ⟨⟩ _ ⟨⟩ _
        exact ⟨handoff, rfl, rfl⟩
      · rintro ⟨⟩
    · simp only [happen, refused]
      apply kept.withRecord
      · intro old before
        rw [known] at before
        cases before
        exact ⟨_, rfl, rfl⟩
      · rw [opened]
        rintro _ ⟨⟩
        exact ⟨_, rfl, opens.token, opens.drawn, opens.targetGeneration, opens.targetProfileId, opens.next,
          .inr (.inr rfl)⟩
      · rintro _ _ _ ⟨⟩ switching
        cases switching
      · rw [opened]
        rintro ⟨⟩

theorem GateInvariant.fail (request : Json) (now : Int) :
    GateInvariant gate (happen gate world (.fail request now)) := by
  obtain ⟨same, left⟩ | ⟨state, failed, known, after, left, phase, token, writer, _⟩ :=
    fail_cases request now world.record world.opened
  · simp only [happen, same, left]
    exact kept
  · simp only [happen, after, left]
    apply kept.withRecord
    · intro old before
      rw [known] at before
      cases before
      exact ⟨failed, rfl, writer⟩
    · rintro switch ⟨⟩
    · rintro switch ⟨⟩
    · rintro _ state ⟨⟩
      exact ⟨token, .inr phase⟩

end

theorem mem_modify {turns : List KernelTurn} {i n : Nat} {change : KernelTurn → KernelTurn}
    {turn : KernelTurn} (member : turn ∈ (turns.modify i change)[n]?) :
    ∃ old ∈ turns[n]?, turn = if i = n then change old else old := by
  rw [List.getElem?_modify] at member
  obtain ⟨old, stored, rfl⟩ := Option.map_eq_some_iff.1 member
  exact ⟨old, stored, rfl⟩

theorem mem_append_turn {turns : List KernelTurn} {n : Nat} {added turn : KernelTurn}
    (member : turn ∈ (turns ++ [added])[n]?) :
    turn ∈ turns[n]? ∨ n = turns.length ∧ turn = added := by
  have stored : (turns ++ [added])[n]? = some turn := member
  rw [List.getElem?_append] at stored
  split at stored
  · exact .inl stored
  · obtain ⟨inside, same⟩ := List.getElem?_eq_some_iff.1 stored
    have last : n = turns.length := by
      rw [List.length_singleton] at inside
      omega
    exact .inr ⟨last, by simpa [last] using same.symm⟩

section

variable (kept : GateInvariant gate world)
include kept

theorem GateInvariant.let_through {state next : SessionWriterState}
    (known : world.record = some state) (free : state.writerToken = none) {token : String}
    (takes : next.writerToken = some token) (switchedWriter : Bool) {opened : Option OpenSwitch}
    (opens : ∀ switch ∈ opened, Opens next switch) (notSwitching : next.phase ≠ .switching)
    (closed : opened = none → Closes next) :
    GateInvariant gate
      ⟨some next, world.turns ++ [⟨token, switchedWriter, true, .waiting⟩], opened⟩ := by
  constructor
  · intro n turn member held
    obtain old | ⟨_, rfl⟩ := mem_append_turn member
    · rw [kept.idle known free old] at held
      cases held
    · exact ⟨next, rfl, takes⟩
  · intro n m turn member other again held also
    obtain old | ⟨last, rfl⟩ := mem_append_turn member
    · rw [kept.idle known free old] at held
      cases held
    obtain old | ⟨end_, rfl⟩ := mem_append_turn again
    · rw [kept.idle known free old] at also
      cases also
    · rw [last, end_]
  · intro n turn member executing
    obtain old | ⟨_, rfl⟩ := mem_append_turn member
    · exact kept.running n turn old executing
    · cases executing
  · exact fun switch member => ⟨next, rfl, opens switch member⟩
  · rintro switch _ _ ⟨⟩ switching
    exact absurd switching notSwitching
  · rintro none _ ⟨⟩
    exact closed none

/-- A turn that is let through keeps the invariant, unless a failed switch is still current. -/
theorem GateInvariant.turn (request : TurnRequest) (now : Int)
    (uuid : Uuid) (allowed : GateAllowed world (.turn request now uuid)) :
    GateInvariant gate (happen gate world (.turn request now uuid)) := by
  obtain ⟨state, given, ⟨message, refused⟩ | ⟨free, ⟨switching, target, profile, handoff, accepted⟩ |
    ⟨notSwitching, notPending, notVerifying, accepted⟩⟩⟩ :=
    acquire_cases gate request now uuid world.record
  · simp only [happen, refused, given]
    exact kept.created _ _ _ _
  · simp only [happen, accepted, if_true]
    have known := kept.created request.generation (some request.profileId) (some request.projectId) now
    rw [← given] at known
    apply known.let_through rfl free
    · rw [acquired, if_pos switching]
    · rintro switch ⟨⟩
    · rw [acquired, if_pos switching]
      rintro ⟨⟩
    · rintro _
      rw [acquired, if_pos switching]
      exact ⟨rfl, .inl rfl⟩
  · simp only [happen, accepted, Bool.false_eq_true, if_false]
    have known := kept.created request.generation (some request.profileId) (some request.projectId) now
    rw [← given] at known
    -- a switch that is open has failed, and no turn is let through beside it
    have none : world.opened = none := by
      by_contra some
      obtain ⟨switch, opened⟩ := Option.ne_none_iff_exists'.1 some
      obtain ⟨old, found, opens⟩ := kept.opened switch opened
      have same : state = old := by
        rw [given, show world.record = .some old from found]
        rfl
      subst same
      obtain pending | verified | failed := opens.phase
      · exact notPending pending
      · exact notSwitching verified
      · have current := allowed state found failed
        rw [opens.token] at current
        cases current
    have closes := known.closed none state rfl
    apply known.let_through rfl free
    · rw [acquired, if_neg notSwitching]
    · rw [none]
      rintro switch ⟨⟩
    · rw [acquired, if_neg notSwitching]
      dsimp only
      split
      · rintro ⟨⟩
      · exact notSwitching
    · intro _
      rw [acquired, if_neg notSwitching]
      refine ⟨closes.token, ?_⟩
      dsimp only
      obtain active | failed := closes.phase
      · rw [active, if_neg (by decide)]
        exact .inl rfl
      · rw [if_pos failed]
        exact .inl rfl

theorem GateInvariant.kernel (i : Nat)
    {change : KernelTurn → KernelTurn} (token : ∀ turn, (change turn).token = turn.token)
    (held : ∀ turn, (change turn).held = turn.held)
    (executes : ∀ turn ∈ world.turns[i]?, (change turn).kernel = .executing →
      turn.held = true) : GateInvariant gate { world with turns := world.turns.modify i change } := by
  have same : ∀ (n : Nat) (old turn : KernelTurn), turn = (if i = n then change old else old) →
      turn.token = old.token ∧ turn.held = old.held := by
    intro n old turn changed
    rw [changed]
    split
    · exact ⟨token old, held old⟩
    · exact ⟨rfl, rfl⟩
  constructor
  · intro n turn member holds
    obtain ⟨old, stored, changed⟩ := mem_modify member
    obtain ⟨sameToken, sameHeld⟩ := same n old turn changed
    rw [sameHeld] at holds
    rw [sameToken]
    exact kept.holds n old stored holds
  · intro n m turn member other again holds also
    obtain ⟨old, stored, changed⟩ := mem_modify member
    obtain ⟨second, kept', changed'⟩ := mem_modify again
    rw [(same n old turn changed).2] at holds
    rw [(same m second other changed').2] at also
    exact kept.single n m old stored second kept' holds also
  · intro n turn member executing
    obtain ⟨old, stored, changed⟩ := mem_modify member
    rw [(same n old turn changed).2]
    rw [changed] at executing
    split at executing
    · rename_i here
      subst here
      exact executes old stored executing
    · exact kept.running n old stored executing
  · exact kept.opened
  · exact kept.verified
  · exact kept.closed

/-- A turn that settles keeps the invariant, unless the kernel still executes it. -/
theorem GateInvariant.settles (i : Nat) (failed : Bool) (now : Int)
    (allowed : GateAllowed world (.settles i failed now)) :
    GateInvariant gate (happen gate world (.settles i failed now)) := by
  cases stored : world.turns[i]? with
  | none =>
    simp only [happen, stored]
    exact kept
  | some settling =>
    by_cases holding : settling.held = true
    · simp only [happen, stored, holding, if_true]
      obtain ⟨state, known, token⟩ := kept.holds i settling stored holding
      have known : world.record = some state := known
      obtain ⟨next, released, phase, same⟩ : ∃ next,
          releaseWriter settling.token settling.switchedWriter failed now world.record =
            some next ∧ (next.phase = state.phase ∨ next.phase = .failed) ∧
          next.switchToken = state.switchToken ∧ next.targetGeneration = state.targetGeneration ∧
          next.targetProfileId = state.targetProfileId ∧ next.generation = state.generation ∧
          next.handoffHash = state.handoffHash := by
        rw [known, releaseWriter, Option.map_some, if_neg (by simp [token])]
        split
        · exact ⟨_, rfl, .inr rfl, rfl, rfl, rfl, rfl, rfl⟩
        · exact ⟨_, rfl, .inl rfl, rfl, rfl, rfl, rfl, rfl⟩
      obtain ⟨switchToken, targetGeneration, targetProfileId, generation, hash⟩ := same
      have released' : ∀ (n : Nat), ∀ turn ∈ (world.turns.modify i fun turn =>
          { turn with held := false })[n]?, turn.held = true → False := by
        intro n turn member held
        obtain ⟨old, before, rfl⟩ := mem_modify member
        split at held
        · cases held
        · rename_i other
          exact other (kept.single i n settling stored old before holding held)
      constructor
      · intro n turn member held
        exact (released' n turn member held).elim
      · intro n m turn member other again held
        exact (released' n turn member held).elim
      · intro n turn member executing
        obtain ⟨old, before, rfl⟩ := mem_modify member
        split at executing
        · rename_i here
          subst here
          have current : old = settling := by
            have found : world.turns[i]? = some old := before
            rw [stored] at found
            exact (Option.some.inj found).symm
          subst current
          exact absurd executing (allowed old stored holding)
        · rename_i other
          exact absurd (kept.single i n settling stored old before holding
            (kept.running n old before executing)) other
      · intro switch opened
        obtain ⟨old, before, opens⟩ := kept.opened switch opened
        rw [known] at before
        cases before
        refine ⟨next, released, switchToken.trans opens.token, opens.drawn,
          targetGeneration.trans opens.targetGeneration,
          targetProfileId.trans opens.targetProfileId, ?_, ?_⟩
        · rw [generation]
          exact opens.next
        · obtain kept | failed := phase
          · rw [kept]
            exact opens.phase
          · exact .inr (.inr failed)
      · intro switch opened later after switching
        rw [released] at after
        cases after
        obtain kept' | failed := phase
        · rw [kept'] at switching
          obtain ⟨handoff, verified, hashed⟩ := kept.verified switch opened state known switching
          exact ⟨handoff, verified, hash.trans hashed⟩
        · rw [failed] at switching
          cases switching
      · intro none later after
        rw [released] at after
        cases after
        have closes := kept.closed none state known
        refine ⟨switchToken.trans closes.token, ?_⟩
        obtain kept' | failed := phase
        · rw [kept']
          exact closes.phase
        · exact .inr failed
    · simp only [happen, stored, holding]
      exact kept

/-- **The run lemma.** An allowed event keeps the invariant. -/
theorem gateInvariant_happen {event : GateEvent} (allowed : GateAllowed world event) :
    GateInvariant gate (happen gate world event) := by
  cases event with
  | begin request now uuid => exact kept.begin request now uuid
  | verify request now => exact kept.verify request now
  | fail request now => exact kept.fail request now
  | status => exact kept
  | turn request now uuid => exact kept.turn request now uuid allowed
  | kernelStarts turn =>
    apply kept.kernel
    · intro turn
      unfold KernelTurn.start
      split <;> rfl
    · intro turn
      unfold KernelTurn.start
      split <;> rfl
    · intro starting stored executing
      unfold KernelTurn.start at executing
      split at executing
      · rename_i waiting
        exact allowed starting stored waiting
      · exact kept.running turn starting stored executing
  | kernelEnds turn =>
    apply kept.kernel
    · intro turn
      unfold KernelTurn.finish
      split <;> rfl
    · intro turn
      unfold KernelTurn.finish
      split <;> rfl
    · intro ending stored executing
      unfold KernelTurn.finish at executing
      split at executing
      · cases executing
      · exact kept.running turn ending stored executing
  | settles turn failed now => exact kept.settles turn failed now allowed

end

/-! ## The law holds -/

theorem GateInvariant.exclusive (kept : GateInvariant gate world) {turn other : Nat}
    (first : world.Executes turn) (second : world.Executes other) :
    turn = other := by
  obtain ⟨executing, stored, phase⟩ := first
  obtain ⟨second, storedToo, phaseToo⟩ := second
  exact kept.single turn other executing stored second storedToo
    (kept.running turn executing stored phase) (kept.running other second storedToo phaseToo)

theorem handoff_of_hash (injective : Function.Injective gate.digest) {handoff other : Json}
    (same : zero3SwitchHandoffHash gate handoff = zero3SwitchHandoffHash gate other) :
    handoff = other :=
  Json.render_injective (String.ofList_injective (injective same))

/-- **A turn beside an open switch** is the first turn of its target, with the verified handoff. -/
theorem GateInvariant.gated (kept : GateInvariant gate world)
    (injective : Function.Injective gate.digest) {request : TurnRequest} {now : Int} {uuid : Uuid}
    (allowed : GateAllowed world (.turn request now uuid)) {switchedWriter : Bool}
    (accepted : (zero3AcquireSessionWriter gate request now uuid world.record).1 =
      .ok switchedWriter) {switch : OpenSwitch} (opened : world.opened = some switch) :
    request.generation = switch.targetGeneration ∧ request.profileId = switch.targetProfileId ∧
      ∃ handoff, request.handoff = some handoff ∧ switch.verified = some handoff := by
  obtain ⟨old, found, opens⟩ := kept.opened switch opened
  have known : world.record = some old := found
  obtain ⟨state, given, ⟨message, refused⟩ | ⟨_, ⟨switching, target, profile, ⟨handoff, carried, hashed⟩,
    let_in⟩ | ⟨notSwitching, notPending, _, let_in⟩⟩⟩ :=
    acquire_cases gate request now uuid world.record
  · rw [refused] at accepted
    cases accepted
  · have same : state = old := by
      rw [given, known]
      rfl
    subst same
    rw [opens.targetGeneration] at target
    rw [opens.targetProfileId] at profile
    obtain ⟨handoff', verified, hashed'⟩ := kept.verified switch opened state known switching
    rw [hashed] at hashed'
    have equal := handoff_of_hash injective (Option.some.inj hashed')
    refine ⟨Option.some.inj target, Option.some.inj profile, handoff, carried, ?_⟩
    rw [equal, verified]
  · have same : state = old := by
      rw [given, known]
      rfl
    subst same
    exfalso
    obtain pending | verified | failed := opens.phase
    · exact notPending pending
    · exact notSwitching verified
    · have current := allowed state known failed
      rw [opens.token] at current
      cases current

/-- **The generation** of a record grows by one only through the first turn of a target. -/
theorem GateInvariant.generation (kept : GateInvariant gate world) {event : GateEvent}
    {state : SessionWriterState} (known : world.record = some state) :
    ∃ later, (happen gate world event).record = some later ∧
      (later.generation = state.generation ∨ later.generation = state.generation + 1 ∧
        ∃ request now uuid, event = .turn request now uuid ∧
          ∃ switch ∈ world.opened, later.generation = switch.targetGeneration ∧
            request.generation = switch.targetGeneration) := by
  cases event with
  | begin request now uuid =>
    obtain ⟨message, refused⟩ | ⟨read, found, _, given, ⟨message, refused⟩ | ⟨_, opens⟩⟩ :=
      begin_cases request now uuid world.record
    · simp only [happen, refused]
      exact ⟨state, known, .inl rfl⟩
    · rw [known] at given
      simp only [happen, refused]
      exact ⟨found, rfl, .inl (congrArg (·.generation) given)⟩
    · rw [known] at given
      simp only [happen, opens]
      exact ⟨_, rfl, .inl (congrArg (·.generation) given)⟩
  | verify request now =>
    obtain ⟨message, refused⟩ | ⟨_, old, _, found, _, _, _, outcome⟩ :=
      verify_cases gate request now world.record
    · simp only [happen, refused]
      exact ⟨state, known, .inl rfl⟩
    · rw [known] at found
      cases found
      obtain ⟨_, _, _, accepted⟩ | ⟨_, refused⟩ := outcome
      · simp only [happen, accepted]
        exact ⟨_, rfl, .inl rfl⟩
      · simp only [happen, refused]
        exact ⟨_, rfl, .inl rfl⟩
  | fail request now =>
    obtain ⟨same, _⟩ | ⟨old, failed, found, after, _, _, _, _, generation⟩ :=
      fail_cases request now world.record world.opened
    · simp only [happen, same]
      exact ⟨state, known, .inl rfl⟩
    · rw [known] at found
      cases found
      simp only [happen, after]
      exact ⟨failed, rfl, .inl generation⟩
  | status => exact ⟨state, known, .inl rfl⟩
  | turn request now uuid =>
    obtain ⟨found, given, ⟨message, refused⟩ | ⟨_, outcome⟩⟩ :=
      acquire_cases gate request now uuid world.record
    · rw [known] at given
      simp only [happen, refused]
      exact ⟨found, rfl, .inl (congrArg (·.generation) given)⟩
    · have same : found = state := by
        rw [given, known]
        rfl
      subst same
      obtain ⟨switching, target, _, _, accepted⟩ | ⟨notSwitching, _, _, accepted⟩ := outcome
      · obtain ⟨switch, opened⟩ : ∃ switch, world.opened = some switch := by
          apply Option.ne_none_iff_exists'.1
          intro none
          obtain active | failed := (kept.closed none found known).phase
          · rw [active] at switching
            cases switching
          · rw [failed] at switching
            cases switching
        obtain ⟨old, before, opens⟩ := kept.opened switch opened
        rw [known] at before
        cases before
        rw [opens.targetGeneration] at target
        have sameTarget : request.generation = switch.targetGeneration := Option.some.inj target
        refine ⟨acquired request now uuid found, by simp only [happen, accepted],
          .inr ⟨?_, request, now, uuid, rfl, switch, opened, ?_, sameTarget⟩⟩
        · rw [acquired, if_pos switching, ← opens.next]
          exact sameTarget
        · rw [acquired, if_pos switching]
          exact sameTarget
      · refine ⟨acquired request now uuid found, by simp only [happen, accepted], .inl ?_⟩
        rw [acquired, if_neg notSwitching]
  | kernelStarts turn | kernelEnds turn => exact ⟨state, known, .inl rfl⟩
  | settles turn failed now =>
    unfold happen
    dsimp only
    split
    · split
      · rw [known, releaseWriter, Option.map_some]
        refine ⟨_, rfl, .inl ?_⟩
        split
        · rfl
        · split <;> rfl
      · exact ⟨state, known, .inl rfl⟩
    · exact ⟨state, known, .inl rfl⟩

/-- **A stale token** changes nothing. -/
theorem GateInvariant.stale (kept : GateInvariant gate world) {event : GateEvent}
    (allowed : GateAllowed world event) {token : String} (carries : carriedToken event = some token)
    (stale : world.record.bind (·.switchToken) ≠ some token) : happen gate world event = world := by
  cases event with
  | verify request now =>
    obtain ⟨message, refused⟩ | ⟨given, state, read, known, current, _⟩ :=
      verify_cases gate request now world.record
    · simp only [happen, refused]
    · exfalso
      rw [carriedToken, read] at carries
      cases carries
      apply stale
      rw [known]
      exact current
  | fail request now =>
    have read : failRequest request = .ok (some token) := by
      have carries : (failRequest request).toOption.join = some token := carries
      cases found : failRequest request with
      | error message =>
        rw [found] at carries
        cases carries
      | ok given =>
        rw [found] at carries
        exact congrArg Except.ok carries
    cases known : world.record with
    | none =>
      unfold happen zero3FailSessionSwitch leftOpen
      dsimp only
      rw [read, known]
      dsimp only
      rw [← known]
    | some state =>
      have current := allowed token read state known
      obtain ⟨switch, opened⟩ : ∃ switch, world.opened = some switch := by
        apply Option.ne_none_iff_exists'.1
        intro none
        exact current (kept.closed none state known).token
      obtain ⟨old, found, opens⟩ := kept.opened switch opened
      rw [known] at found
      cases found
      have differs : isOtherToken (some token) state.switchToken = true := by
        rw [known] at stale
        have other : token ≠ switch.token := by
          intro same
          apply stale
          rw [same]
          exact opens.token
        rw [opens.token]
        simp [isOtherToken, opens.drawn, other]
      unfold happen zero3FailSessionSwitch leftOpen
      dsimp only
      rw [read, known]
      dsimp only
      rw [if_pos differs, if_pos differs, ← known]
  | begin request now uuid | status | turn request now uuid | kernelStarts turn | kernelEnds turn
  | settles turn failed now => cases carries

theorem gateInvariant_of_run {history : List (GateEvent × Unit)}
    (run : Machine.Run (gateMachine gate) GateAllowed unusedGate history world) :
    GateInvariant gate world :=
  run.stateInvariant (GateInvariant gate) gateInvariant_unused
    fun _ _ kept allowed => gateInvariant_happen kept allowed

/-- **Every event of a run of allowed events keeps the law of the gate**, where the hash of the
handoffs has no collisions. -/
theorem gate_of_run (injective : Function.Injective gate.digest) {world : GateWorld}
    {history : List (GateEvent × Unit)}
    (run : Machine.Run (gateMachine gate) GateAllowed unusedGate history world)
    (event : GateEvent) (allowed : GateAllowed world event) : GateLaw gate world event := by
  have kept := gateInvariant_of_run run
  constructor
  · intro turn other first second
    exact (gateInvariant_happen kept allowed).exclusive first second
  · rintro request now uuid switchedWriter rfl accepted switch opened
    exact kept.gated injective allowed accepted opened
  · rintro request now snapshot rfl accepted turn ⟨executing, stored, phase⟩
    obtain ⟨message, refused⟩ | ⟨_, state, _, known, _, _, free, _⟩ :=
      verify_cases gate request now world.record
    · rw [refused] at accepted
      cases accepted
    · have held := kept.running turn executing stored phase
      rw [kept.idle known free stored] at held
      cases held
  · intro state known
    exact kept.generation known
  · intro token carries stale
    exact kept.stale allowed carries stale

/-- A session whose texts are their own hashes. -/
def plainGate : GateSurroundings := ⟨"s", fun _ => none, id⟩

def firstUuid : Uuid := ⟨"00000000-0000-0000-0000-000000000001", by decide, by decide⟩

/-- The second id that is drawn. -/
def secondUuid : Uuid := ⟨"00000000-0000-0000-0000-000000000002", by decide, by decide⟩

/-- A turn of the first writer. -/
def plainTurn : TurnRequest := ⟨"p", 1, "x", none⟩

def settledTurn : List GateEvent :=
  [.turn plainTurn 0 firstUuid, .kernelStarts 0, .kernelEnds 0, .settles 0 false 0]

/-- The next turn after one that was executed and settled. -/
theorem gate_of_run_settled :
    GateLaw plainGate ((gateMachine plainGate).exec unusedGate settledTurn).2
      (.turn plainTurn 0 secondUuid) := by
  have met : (gateMachine plainGate).Met GateAllowed unusedGate settledTurn := by
    refine ⟨?_, ?_, trivial, ?_, trivial⟩
    · rintro state ⟨⟩
    · rintro turn ⟨⟩ _
      rfl
    · rintro turn ⟨⟩ _ executing
      cases executing
  apply gate_of_run Function.injective_id (Machine.exec_run _ _ _ met)
  rintro state ⟨⟩ failed
  cases failed

/-- The kernel executes a turn that was given up, and the handler lets the next one through. -/
def abandonedTurn : List GateEvent :=
  [.turn plainTurn 0 firstUuid, .kernelStarts 0, .settles 0 true 0, .turn plainTurn 0 secondUuid]

/-- The kernel begins the next turn beside the one that was given up. -/
theorem gate_counterexample :
    ¬ GateLaw plainGate ((gateMachine plainGate).exec unusedGate abandonedTurn).2
      (.kernelStarts 1) := by
  intro law
  have same : 0 = 1 := law.exclusive 0 1 ⟨_, rfl, rfl⟩ ⟨_, rfl, rfl⟩
  cases same

end Zero3Pilot.ProviderSession
