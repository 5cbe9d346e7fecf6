import Zero3Pilot.Foundations.Tables
import Zero3Pilot.GroupRuntime.Facade

/-! # Rules for programs of the runtime

A call changes at most one part of the world, so a program leaves alone all parts that none of its
calls changes, wherever it is stopped. -/

namespace Zero3Pilot.GroupRuntime

open Program

/-! ## Parts of the world -/

inductive WorldPart where
  | nothing
  | state
  | ledger
  | memory
  | session
  | delivery
  | milestone
  | run
  | log
  | repository
  deriving DecidableEq

def GroupCall.part : GroupCall → WorldPart
  | .removeTemporary _ | .createTemporary _ | .renameTemporary _ => .state
  | .appendEvent _ => .ledger
  | .enterRecordQueue | .leaveRecordQueue | .launch _ | .takeRunner _ | .putRunner _
  | .settle _ => .memory
  | .writeSession _ _ => .session
  | .writeDelivery _ => .delivery
  | .writeIntegration _ => .milestone
  | .writeVerification _ => .run
  | .startExecutor _ | .verifyDelivery _ _ => .log
  | .merge _ | .resetTo _ | .commitWork _ _ => .repository
  | .loadPlan _ | .temporaries | .loadState | .readEvents | .loadSession _ | .loadDelivery _
  | .loadRecords | .activeSessionIds | .promptProgress _ | .activeExecutor _
  | .respondPermission _ | .cancelExecutor _ | .closeExecutor _ | .materialize _ _
  | .currentBranch | .currentHead | .branchHead _ | .statusClean | .postMergeCheck _
  | .verificationCommands | .runCommand _ | .now | .randomUUID | .platform => .nothing

/-- **All parts of the world but some are as they were.** The mark of a pending head belongs to the
milestones and to the state. -/
structure Frame (parts : List WorldPart) (world after : GroupWorld) : Prop where
  plan : after.plan = world.plan
  failures : after.failures = world.failures
  repairs : after.repairs = world.repairs
  state : .state ∉ parts → after.state = world.state ∧ after.temporaries = world.temporaries
  ledger : .ledger ∉ parts → after.events = world.events
  memory : .memory ∉ parts → after.memory = world.memory
  session : .session ∉ parts → after.sessions = world.sessions
  delivery : .delivery ∉ parts → after.deliveries = world.deliveries
  milestone : .milestone ∉ parts → after.integrations = world.integrations
  pending : .milestone ∉ parts → .state ∉ parts → after.headIsPending = world.headIsPending
  settled : .milestone ∉ parts → world.headIsPending = false → after.headIsPending = false
  run : .run ∉ parts → after.verifications = world.verifications
  log : .log ∉ parts → after.log = world.log
  repository : .repository ∉ parts → after.repository = world.repository

section Frame

variable {parts parts' : List WorldPart} {world between after : GroupWorld}

theorem Frame.refl (parts : List WorldPart) (world : GroupWorld) : Frame parts world world :=
  ⟨rfl, rfl, rfl, fun _ => ⟨rfl, rfl⟩, fun _ => rfl, fun _ => rfl, fun _ => rfl, fun _ => rfl,
    fun _ => rfl, fun _ _ => rfl, fun _ settled => settled, fun _ => rfl, fun _ => rfl, fun _ => rfl⟩

theorem Frame.trans (first : Frame parts world between) (second : Frame parts between after) :
    Frame parts world after where
  plan := second.plan.trans first.plan
  failures := second.failures.trans first.failures
  repairs := second.repairs.trans first.repairs
  state h := ⟨(second.state h).1.trans (first.state h).1, (second.state h).2.trans (first.state h).2⟩
  ledger h := (second.ledger h).trans (first.ledger h)
  memory h := (second.memory h).trans (first.memory h)
  session h := (second.session h).trans (first.session h)
  delivery h := (second.delivery h).trans (first.delivery h)
  milestone h := (second.milestone h).trans (first.milestone h)
  pending h h' := (second.pending h h').trans (first.pending h h')
  settled h settled := second.settled h (first.settled h settled)
  run h := (second.run h).trans (first.run h)
  log h := (second.log h).trans (first.log h)
  repository h := (second.repository h).trans (first.repository h)

theorem Frame.mono (frame : Frame parts world after) (more : parts ⊆ parts') :
    Frame parts' world after where
  plan := frame.plan
  failures := frame.failures
  repairs := frame.repairs
  state h := frame.state fun member => h (more member)
  ledger h := frame.ledger fun member => h (more member)
  memory h := frame.memory fun member => h (more member)
  session h := frame.session fun member => h (more member)
  delivery h := frame.delivery fun member => h (more member)
  milestone h := frame.milestone fun member => h (more member)
  pending h h' := frame.pending (fun member => h (more member)) fun member => h' (more member)
  settled h := frame.settled fun member => h (more member)
  run h := frame.run fun member => h (more member)
  log h := frame.log fun member => h (more member)
  repository h := frame.repository fun member => h (more member)

end Frame

variable {host : RuntimeHost} {world : GroupWorld}

/-- **A call changes its part only.** -/
theorem answer_frame (host : RuntimeHost) (environment : GroupEnvironment) (world : GroupWorld)
    (call : GroupCall) : Frame [call.part] world (world.answer host environment call).2 := by
  cases call <;> unfold GroupWorld.answer <;> dsimp only [GroupCall.part]
  case appendEvent event =>
    cases appendGroupEvent world.events event <;> constructor <;> simp
  case renameTemporary temporary =>
    cases world.temporaries.find? fun other => other.1 = temporary <;> constructor <;>
      simp +contextual
  case takeRunner sessionId =>
    split <;> constructor <;> simp
  case verifyDelivery session delivery =>
    cases environment.gate <;> constructor <;> simp
  case merge branch =>
    cases environment.gitFailure <;> constructor <;> simp
  case resetTo sha =>
    cases environment.gitFailure <;> constructor <;> simp
  all_goals constructor <;> simp

theorem answer_of_reads {environment : GroupEnvironment} {call : GroupCall}
    (reads : call.part = .nothing) : (world.answer host environment call).2 = world := by
  cases call <;> first | rfl | cases reads

/-! ## The parts that a program may change -/

/-- **A program changes only some parts** of the world. -/
def Touches {α : Type} (parts : List WorldPart) (program : GroupProgram α) : Prop :=
  program.Only fun call => call.part ∈ parts

section Touches

variable {α β : Type} {parts parts' : List WorldPart}

theorem touches_pure (value : α) : Touches parts (pure value : GroupProgram α) :=
  only_pure value

theorem touches_throw (error : GroupError) : Touches parts (throw error : GroupProgram α) :=
  only_throw error

theorem touches_refuse (message : String) : Touches parts (refuse message : GroupProgram α) :=
  only_throw _

theorem touches_ask {call : GroupCall} (touched : call.part ∈ parts) : Touches parts (ask call) :=
  only_perform _ touched

theorem touches_insist (condition : Prop) [Decidable condition] (message : String) :
    Touches parts (insist condition message) := by
  unfold insist
  split
  · exact touches_pure _
  · exact touches_refuse message

theorem touches_demand (option : Option α) (message : String) :
    Touches parts (demand option message) := by
  cases option with
  | none => exact touches_refuse message
  | some value => exact touches_pure value

theorem touches_given (raise : String → GroupError) (result : Except String α) :
    Touches parts (given raise result) :=
  only_ofExcept raise result

theorem Touches.bind {program : GroupProgram α} {next : α → GroupProgram β}
    (first : Touches parts program) (rest : ∀ value, Touches parts (next value)) :
    Touches parts (program >>= next) :=
  Only.bind first rest

theorem Touches.attempt {program : GroupProgram α} (touches : Touches parts program) :
    Touches parts (attempt program) :=
  Only.catching (touches.bind fun value => touches_pure (Except.ok value)) fun error =>
    touches_pure (Except.error error)

theorem Touches.ite {condition : Prop} [Decidable condition] {program other : GroupProgram α}
    (taken : Touches parts program) (otherwise : Touches parts other) :
    Touches parts (if condition then program else other) := by
  split
  · exact taken
  · exact otherwise

theorem touches_forM {items : List α} {body : α → GroupProgram PUnit}
    (pass : ∀ item, Touches parts (body item)) : Touches parts (items.forM body) := by
  induction items with
  | nil => exact touches_pure _
  | cons item items ih => exact (pass item).bind fun _ => ih

theorem touches_mapM {items : List α} {body : α → GroupProgram β}
    (pass : ∀ item, Touches parts (body item)) : Touches parts (items.mapM body) := by
  induction items with
  | nil => exact touches_pure _
  | cons item items ih =>
    rw [List.mapM_cons]
    exact (pass item).bind fun _ => ih.bind fun _ => touches_pure _

/-- **Frame rule**: wherever the program stops, the other parts are as they were. -/
theorem Touches.frame {program : GroupProgram α} (touches : Touches parts program)
    (world : GroupWorld) :
    program.Ensures (Answers host) (Always (Frame parts world) fun _ _ => True) world := by
  refine (Within.ensures touches ?_ (Frame.refl parts world)).mono fun outcome after always =>
    ⟨always.1, fun _ _ => trivial⟩
  rintro between call reply after touched frame ⟨environment, answered⟩
  have changed := answer_frame host environment between call
  rw [answered] at changed
  refine frame.trans (changed.mono ?_)
  intro part member
  rw [List.mem_singleton.1 member]
  exact touched

end Touches

/-! ## Properties that hold wherever a program stops -/

section Stays

variable {α β : Type} (host) (inv : GroupWorld → Prop)

/-- **A property stays** while a program runs: it holds wherever the program stops, and what the
program returns is one of the `results`. -/
abbrev Stays (results : α → GroupWorld → Prop) (program : GroupProgram α) (world : GroupWorld) :
    Prop :=
  program.Ensures (Answers host) (Always inv results) world

variable {host inv} {results : α → GroupWorld → Prop} {final : β → GroupWorld → Prop}

section

variable (holds : inv world)
include holds

theorem stays_pure {value : α} (result : results value world) :
    Stays host inv results (pure value) world :=
  ensures_always_returned holds result

theorem stays_throw {error : GroupError} : Stays host inv results (throw error) world :=
  ensures_always_thrown holds

theorem stays_refuse {message : String} : Stays host inv results (refuse message) world :=
  ensures_always_thrown holds

/-- **A call**: what every environment makes of it. -/
theorem stays_ask {call : GroupCall} {results : GroupReply call → GroupWorld → Prop}
    (answered : ∀ environment, inv (world.answer host environment call).2 ∧
      ∀ reply, (world.answer host environment call).1 = .ok reply →
        results reply (world.answer host environment call).2) :
    Stays host inv results (ask call) world := by
  apply ensures_always_perform holds
  · rintro reply after ⟨environment, same⟩
    have kept := (answered environment).1
    rw [same] at kept
    exact kept
  · rintro reply after ⟨environment, same⟩
    have result := (answered environment).2 reply
    rw [same] at result
    exact result rfl

theorem stays_insist {condition : Prop} [Decidable condition] {message : String} :
    Stays host inv (fun _ after => condition ∧ after = world) (insist condition message) world := by
  unfold insist
  split
  · rename_i met
    exact stays_pure holds ⟨met, rfl⟩
  · exact stays_refuse holds

theorem stays_demand {option : Option α} {message : String} :
    Stays host inv (fun value after => option = some value ∧ after = world) (demand option message)
      world := by
  cases option with
  | none => exact stays_refuse holds
  | some value => exact stays_pure holds ⟨rfl, rfl⟩

theorem stays_given {raise : String → GroupError} {result : Except String α} :
    Stays host inv (fun value after => result = .ok value ∧ after = world) (given raise result)
      world := by
  cases result with
  | error message => exact stays_throw holds
  | ok value => exact stays_pure holds ⟨rfl, rfl⟩

end

variable {program : GroupProgram α}

/-- **Sequencing.** -/
theorem Stays.seq {next : α → GroupProgram β} (first : Stays host inv results program world)
    (rest : ∀ value after, inv after → results value after →
      Stays host inv final (next value) after) :
    Stays host inv final (program >>= next) world :=
  Ensures.seq first rest

theorem Stays.mono {inv' : GroupWorld → Prop} {results' : α → GroupWorld → Prop}
    (stays : Stays host inv results program world) (holds : ∀ after, inv after → inv' after)
    (result : ∀ value after, inv after → results value after → results' value after) :
    Stays host inv' results' program world := by
  refine Ensures.mono stays fun outcome after always => ⟨holds after always.1, ?_⟩
  intro value same
  exact result value after always.1 (always.2 value same)

theorem stays_next {call : GroupCall} {next : GroupReply call → GroupProgram β}
    (holds : inv world) (kept : ∀ environment, inv (world.answer host environment call).2)
    (rest : ∀ environment reply, (world.answer host environment call).1 = .ok reply →
      Stays host inv final (next reply) (world.answer host environment call).2) :
    Stays host inv final (ask call >>= next) world := by
  have asked : Stays host inv
      (fun reply after => ∃ environment, (world.answer host environment call).1 = .ok reply ∧
        after = (world.answer host environment call).2) (ask call) world := by
    apply stays_ask holds
    intro environment
    exact ⟨kept environment, fun reply same => ⟨environment, same, rfl⟩⟩
  refine asked.seq ?_
  rintro reply after _ ⟨environment, same, rfl⟩
  exact rest environment reply same

theorem stays_next_read {call : GroupCall} {next : GroupReply call → GroupProgram β}
    (reads : call.part = .nothing) (holds : inv world)
    (rest : ∀ environment reply, (world.answer host environment call).1 = .ok reply →
      Stays host inv final (next reply) world) :
    Stays host inv final (ask call >>= next) world := by
  apply stays_next holds
  · intro environment
    rwa [answer_of_reads reads]
  · intro environment reply same
    rw [answer_of_reads reads]
    exact rest environment reply same

theorem Stays.attempt (stays : Stays host inv results program world) :
    Stays host inv (fun outcome after => ∀ value, outcome = .ok value → results value after)
      (attempt program) world := by
  have returns : Stays host inv (fun (outcome : Except GroupError α) after =>
      ∀ value, outcome = .ok value → results value after) (do return .ok (← program)) world := by
    refine Stays.seq stays fun value after holds result => stays_pure holds ?_
    rintro value' ⟨⟩
    exact result
  refine Ensures.catching (Ensures.mono returns ?_)
  rintro outcome after ⟨holds, result⟩
  cases outcome with
  | returned value => exact ⟨holds, result⟩
  | thrown error =>
    refine ensures_always_returned holds ?_
    rintro value ⟨⟩
  | crashed | suspended => exact ⟨holds, by simp⟩

/-- **Loop rule.** -/
theorem stays_forM {items : List α} {body : α → GroupProgram PUnit} {passed : GroupWorld → Prop}
    (pass : ∀ item ∈ items, ∀ world, inv world → passed world →
      Stays host inv (fun _ => passed) (body item) world)
    (holds : inv world) (start : passed world) :
    Stays host inv (fun _ => passed) (items.forM body) world := by
  induction items generalizing world with
  | nil => exact stays_pure holds start
  | cons item items ih =>
    refine Stays.seq (pass item List.mem_cons_self world holds start) fun _ after kept reached => ?_
    exact ih (fun later member => pass later (List.mem_cons_of_mem _ member)) kept reached

/-- **Loop rule** for a loop that collects what its passes return. -/
theorem stays_mapM {items : List α} {body : α → GroupProgram β}
    (passed : List β → GroupWorld → Prop)
    (pass : ∀ item ∈ items, ∀ values world, inv world → passed values world →
      Stays host inv (fun value => passed (values ++ [value])) (body item) world)
    {before : List β} (holds : inv world) (start : passed before world) :
    Stays host inv (fun values => passed (before ++ values)) (items.mapM body)
      world := by
  induction items generalizing world before with
  | nil =>
    refine stays_pure holds ?_
    show passed (before ++ []) world
    rwa [List.append_nil]
  | cons item items ih =>
    rw [List.mapM_cons]
    refine (pass item List.mem_cons_self before world holds start).seq ?_
    intro value after kept reached
    have rest := ih (fun later member => pass later (List.mem_cons_of_mem _ member)) kept reached
    refine rest.seq ?_
    intro values final keptToo collected
    refine stays_pure keptToo ?_
    rwa [List.append_assoc] at collected

theorem Stays.framed {parts : List WorldPart} (stays : Stays host inv results program world)
    (touches : Touches parts program) :
    Stays host inv (fun value after => results value after ∧ Frame parts world after) program
      world := by
  refine (Ensures.and stays (touches.frame world)).mono ?_
  rintro outcome after ⟨⟨holds, result⟩, frame, _⟩
  exact ⟨holds, fun value same => ⟨result value same, frame⟩⟩

end Stays

/-! ## Invariants -/

section Keeps

variable {α β : Type} (host) (inv : GroupWorld → Prop)

/-- **A program keeps an invariant**: started with it, the program has it wherever it stops. -/
def Keeps (program : GroupProgram α) : Prop :=
  ∀ world, inv world → Stays host inv (fun _ _ => True) program world

variable {host inv}

theorem keeps_pure (value : α) : Keeps host inv (pure value : GroupProgram α) := by
  intro world holds
  exact stays_pure holds trivial

theorem keeps_throw (error : GroupError) : Keeps host inv (throw error : GroupProgram α) := by
  intro world holds
  exact stays_throw holds

variable {program : GroupProgram α}

theorem Keeps.bind {next : α → GroupProgram β} (first : Keeps host inv program)
    (rest : ∀ value, Keeps host inv (next value)) :
    Keeps host inv (program >>= next) := by
  intro world holds
  exact Stays.seq (first world holds) fun value after kept _ => rest value after kept

theorem Keeps.ite {condition : Prop} [Decidable condition] {program other : GroupProgram α}
    (taken : Keeps host inv program) (otherwise : Keeps host inv other) :
    Keeps host inv (if condition then program else other) := by
  split
  · exact taken
  · exact otherwise

theorem keeps_insist (condition : Prop) [Decidable condition] (message : String) :
    Keeps host inv (insist condition message) := by
  intro world holds
  exact (stays_insist holds).mono (fun _ kept => kept) fun _ _ _ _ => trivial

theorem keeps_demand (option : Option α) (message : String) :
    Keeps host inv (demand option message) := by
  intro world holds
  exact (stays_demand holds).mono (fun _ kept => kept) fun _ _ _ _ => trivial

theorem keeps_given (raise : String → GroupError) (result : Except String α) :
    Keeps host inv (given raise result) := by
  intro world holds
  exact (stays_given holds).mono (fun _ kept => kept) fun _ _ _ _ => trivial

theorem Keeps.attempt (keeps : Keeps host inv program) : Keeps host inv (attempt program) := by
  intro world holds
  exact (keeps world holds).attempt.mono (fun _ kept => kept) fun _ _ _ _ => trivial

theorem keeps_forM {items : List α} {body : α → GroupProgram PUnit}
    (pass : ∀ item, Keeps host inv (body item)) : Keeps host inv (items.forM body) := by
  intro world holds
  exact stays_forM (fun item _ world kept _ => pass item world kept) holds trivial

theorem keeps_mapM {items : List α} {body : α → GroupProgram β}
    (pass : ∀ item, Keeps host inv (body item)) : Keeps host inv (items.mapM body) := by
  induction items with
  | nil => exact keeps_pure _
  | cons item items ih =>
    rw [List.mapM_cons]
    exact (pass item).bind fun _ => ih.bind fun _ => keeps_pure _

theorem keeps_ask {call : GroupCall} (kept : ∀ environment world, inv world →
    inv (world.answer host environment call).2) : Keeps host inv (ask call) := by
  intro world holds
  exact stays_ask holds fun environment => ⟨kept environment world holds, fun _ _ => trivial⟩

/-- **What the calls of a program keep, the program keeps.** -/
theorem Touches.keeps {parts : List WorldPart} (touches : Touches parts program)
    (kept : ∀ environment world call, call.part ∈ parts → inv world →
      inv (world.answer host environment call).2) : Keeps host inv program := by
  intro world holds
  refine (Within.ensures touches ?_ holds).mono fun outcome after always =>
    ⟨always.1, fun _ _ => trivial⟩
  rintro between call reply after touched holds ⟨environment, answered⟩
  have result := kept environment between call touched holds
  rw [answered] at result
  exact result

theorem Keeps.framed {parts : List WorldPart} (keeps : Keeps host inv program)
    (touches : Touches parts program) {world : GroupWorld} (holds : inv world) :
    Stays host inv (fun _ => Frame parts world) program world :=
  ((keeps world holds).framed touches).mono (fun _ kept => kept) fun _ _ _ result => result.2

end Keeps

/-! ## Files that are well kept -/

/-- The temporary files are numbered, and records are kept under names of their own. -/
structure WellKept (world : GroupWorld) : Prop where
  temporary : ∀ other ∈ world.temporaries, other.1 < world.nextTemporary
  session : ∀ sessionId runtime, world.sessions sessionId = some runtime →
    runtime.sessionId = sessionId
  delivery : ∀ sessionId delivery, world.deliveries sessionId = some delivery →
    delivery.sessionId = sessionId
  milestone : (world.integrations.map (·.integrationRunId)).Nodup

theorem nodup_replaceRecord {α : Type} {name : α → String} {records : List α}
    (distinct : (records.map name).Nodup) (record : α) :
    ((replaceRecord name records record).map name).Nodup := by
  unfold replaceRecord
  rw [List.map_append, List.nodup_append]
  refine ⟨distinct.sublist (List.filter_sublist.map name), List.nodup_singleton _, ?_⟩
  rintro _ member _ last rfl
  obtain ⟨other, found, same⟩ := List.mem_map.1 member
  have differs : name other ≠ name record := by simpa using List.of_mem_filter found
  exact differs (same.trans (List.mem_singleton.1 last))

theorem WellKept.answer {world : GroupWorld} (kept : WellKept world) (host : RuntimeHost)
    (environment : GroupEnvironment) (call : GroupCall) :
    WellKept (world.answer host environment call).2 := by
  have frame := answer_frame host environment world call
  refine ⟨?_, ?_, ?_, ?_⟩
  · by_cases isState : call.part = .state
    · cases call
      case removeTemporary temporary =>
        intro other member
        exact kept.temporary other (List.mem_of_mem_filter member)
      case createTemporary state =>
        intro other member
        rcases List.mem_append.1 member with earlier | now
        · exact Nat.lt_succ_of_lt (kept.temporary other earlier)
        · rw [List.mem_singleton.1 now]
          exact Nat.lt_succ_self _
      case renameTemporary temporary =>
        unfold GroupWorld.answer
        dsimp only
        split
        · intro other member
          exact kept.temporary other (List.mem_of_mem_filter member)
        · exact kept.temporary
      all_goals exact absurd isState (by simp [GroupCall.part])
    · have numbers : (world.answer host environment call).2.nextTemporary = world.nextTemporary := by
        cases call
        case createTemporary state => exact absurd rfl isState
        case renameTemporary temporary => exact absurd rfl isState
        case appendEvent event =>
          unfold GroupWorld.answer
          dsimp only
          split <;> rfl
        case takeRunner sessionId =>
          unfold GroupWorld.answer
          dsimp only
          split <;> rfl
        case verifyDelivery session delivery =>
          unfold GroupWorld.answer
          dsimp only
          split <;> rfl
        case merge branch =>
          unfold GroupWorld.answer
          dsimp only
          split <;> rfl
        case resetTo sha =>
          unfold GroupWorld.answer
          dsimp only
          split <;> rfl
        all_goals rfl
      rw [numbers, (frame.state fun member => isState (List.mem_singleton.1 member).symm).2]
      exact kept.temporary
  · by_cases isSession : call.part = .session
    · cases call
      case writeSession known next =>
        intro sessionId runtime found
        rcases update_some found with ⟨rfl, ⟨⟩⟩ | ⟨_, found⟩
        · rfl
        · exact kept.session sessionId runtime found
      all_goals exact absurd isSession (by simp [GroupCall.part])
    · rw [frame.session fun member => isSession (List.mem_singleton.1 member).symm]
      exact kept.session
  · by_cases isDelivery : call.part = .delivery
    · cases call
      case writeDelivery written =>
        intro sessionId delivery found
        rcases update_some found with ⟨rfl, ⟨⟩⟩ | ⟨_, found⟩
        · rfl
        · exact kept.delivery sessionId delivery found
      all_goals exact absurd isDelivery (by simp [GroupCall.part])
    · rw [frame.delivery fun member => isDelivery (List.mem_singleton.1 member).symm]
      exact kept.delivery
  · by_cases isMilestone : call.part = .milestone
    · cases call
      case writeIntegration record => exact nodup_replaceRecord kept.milestone record
      all_goals exact absurd isMilestone (by simp [GroupCall.part])
    · rw [frame.milestone fun member => isMilestone (List.mem_singleton.1 member).symm]
      exact kept.milestone

def GroupWorld.withState (world : GroupWorld) (state : DevelopmentGroupRuntimeState) : GroupWorld :=
  { world with
    state
    nextTemporary := world.nextTemporary + 1
    headIsPending := world.headIsPending && state.integrationSha = world.state.integrationSha }

def GroupWorld.withTemporary (world : GroupWorld) (state : DevelopmentGroupRuntimeState) :
    GroupWorld :=
  { world with
    temporaries := world.temporaries ++ [(world.nextTemporary, state)]
    nextTemporary := world.nextTemporary + 1 }

theorem WellKept.withTemporary (kept : WellKept world) (state : DevelopmentGroupRuntimeState) :
    WellKept (world.withTemporary state) := by
  refine ⟨?_, kept.session, kept.delivery, kept.milestone⟩
  intro other member
  rcases List.mem_append.1 member with earlier | now
  · exact Nat.lt_succ_of_lt (kept.temporary other earlier)
  · rw [List.mem_singleton.1 now]
    exact Nat.lt_succ_self _

theorem WellKept.withState (kept : WellKept world) (state : DevelopmentGroupRuntimeState) :
    WellKept (world.withState state) := by
  refine ⟨?_, kept.session, kept.delivery, kept.milestone⟩
  intro other member
  exact Nat.lt_succ_of_lt (kept.temporary other member)

/-- **Writing the state**: a temporary file, then the state. -/
theorem stays_writeState {inv : GroupWorld → Prop} {state : DevelopmentGroupRuntimeState}
    (kept : WellKept world) (before : inv world) (between : inv (world.withTemporary state))
    (after : inv (world.withState state)) :
    Stays host inv (fun _ final => final = world.withState state) (writeState state) world := by
  have made : Stays host inv (fun (temporary : GroupReply (.createTemporary state)) reached =>
        temporary = world.nextTemporary ∧ reached = world.withTemporary state)
      (ask (.createTemporary state)) world := by
    apply stays_ask before
    intro environment
    refine ⟨between, fun reply named => ⟨?_, rfl⟩⟩
    exact (Except.ok.inj named).symm
  refine made.seq ?_
  rintro temporary reached _ ⟨rfl, rfl⟩
  have others : ∀ other ∈ world.temporaries, (other.1 ≠ world.nextTemporary) := by
    intro other member
    exact Nat.ne_of_lt (kept.temporary other member)
  have found : (world.withTemporary state).temporaries.find?
      (fun other => other.1 = world.nextTemporary) = some (world.nextTemporary, state) := by
    rw [GroupWorld.withTemporary, List.find?_append, List.find?_eq_none.2]
    · simp
    · simpa using others
  have rest : (world.withTemporary state).temporaries.filter
      (fun other => other.1 ≠ world.nextTemporary) = world.temporaries := by
    rw [GroupWorld.withTemporary, List.filter_append, List.filter_eq_self.2]
    · simp
    · simpa using others
  have renamed (environment : GroupEnvironment) :
      ((world.withTemporary state).answer host environment
        (.renameTemporary world.nextTemporary)).2 = world.withState state := by
    unfold GroupWorld.answer
    dsimp only
    rw [found, rest]
    rfl
  have written : Stays host inv
      (fun (_ : GroupReply (.renameTemporary world.nextTemporary)) final =>
        final = world.withState state)
      (ask (.renameTemporary world.nextTemporary)) (world.withTemporary state) := by
    apply stays_ask between
    intro environment
    rw [renamed environment]
    exact ⟨after, fun _ _ => rfl⟩
  exact written

end Zero3Pilot.GroupRuntime
