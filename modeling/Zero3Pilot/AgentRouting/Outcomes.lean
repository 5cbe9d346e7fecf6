import Zero3Pilot.AgentRouting.Recovery
import Zero3Pilot.Foundations.Views

/-! # What the log of a task says

Properties of the log of a task, the latest event first, and how the calls of a dispatch move it: a
call adds nothing but that it threw. -/

namespace Zero3Pilot.AgentRouting

open Procedure

/-! ## Properties of a log -/

section Log

variable (toLowerCase : String → String)

/-- **An attempt ended the dispatch** that is going on: it handed nothing on. -/
def Settled : List Event → Prop
  | [] => False
  | .dispatched :: _ => False
  | .attempted _ outcome :: older => ¬ HandsOn toLowerCase outcome ∨ Settled older
  | .prompted _ :: older => Settled older
  | .answered _ _ :: older => Settled older
  | .refused _ :: older => Settled older
  | .interrupted _ :: older => Settled older
  | .resolved :: older => Settled older

/-- **No executor is prompted** in a dispatch that an attempt has ended. -/
def Orderly : List Event → Prop
  | [] => True
  | .prompted _ :: older => ¬ Settled toLowerCase older ∧ Orderly older
  | .dispatched :: older => Orderly older
  | .attempted _ _ :: older => Orderly older
  | .answered _ _ :: older => Orderly older
  | .refused _ :: older => Orderly older
  | .interrupted _ :: older => Orderly older
  | .resolved :: older => Orderly older

/-- **An unknown outcome is on record**, and was not resolved. -/
def Awaiting : List Event → Prop
  | [] => False
  | .dispatched :: _ => False
  | .resolved :: _ => False
  | .attempted _ (.ok result) :: older =>
    (result.status = .outcomeUnknown ∧ ¬ HandsOn toLowerCase (.ok result)) ∨ Awaiting older
  | .attempted _ (.error _) :: older => Awaiting older
  | .refused which :: older => which = .get ∧ Awaiting older
  | .interrupted which :: older => which = .setResult ∧ Awaiting older
  | .prompted _ :: older => Awaiting older
  | .answered _ _ :: older => Awaiting older

end Log

/-! ## Calls that threw -/

/-- The event of a call that threw. -/
def Event.IsFault : Event → Prop
  | .refused _ => True
  | .interrupted _ => True
  | _ => False

/-- **Only calls that threw** were noted between two logs. -/
def Faulty (before after : List Event) : Prop :=
  ∃ faults, after = faults ++ before ∧ ∀ event ∈ faults, event.IsFault

instance : IsPreorder (List Event) Faulty where
  refl log := ⟨[], rfl, by intro event member; cases member⟩
  trans before between after first second := by
    obtain ⟨faults, rfl, areFaults⟩ := first
    obtain ⟨later, rfl, areLater⟩ := second
    refine ⟨later ++ faults, (List.append_assoc _ _ _).symm, fun event member => ?_⟩
    rcases List.mem_append.1 member with isLater | isFault
    · exact areLater event isLater
    · exact areFaults event isFault

variable {toLowerCase : String → String}

section

variable {before after : List Event} (faulty : Faulty before after)
include faulty

theorem Faulty.same {P : List Event → Prop}
    (refused : ∀ which log, P (.refused which :: log) ↔ P log)
    (interrupted : ∀ which log, P (.interrupted which :: log) ↔ P log) : P after ↔ P before := by
  obtain ⟨faults, rfl, areFaults⟩ := faulty
  induction faults with
  | nil => exact Iff.rfl
  | cons event faults ih =>
    rw [List.forall_mem_cons] at areFaults
    have rest := ih areFaults.2
    cases event with
    | refused which => exact (refused which _).trans rest
    | interrupted which => exact (interrupted which _).trans rest
    | dispatched | prompted executor | answered executor candidate | attempted executor outcome
    | resolved => exact areFaults.1.elim

theorem Faulty.settled : Settled toLowerCase after ↔ Settled toLowerCase before :=
  faulty.same (fun _ _ => Iff.rfl) fun _ _ => Iff.rfl

theorem Faulty.orderly : Orderly toLowerCase after ↔ Orderly toLowerCase before :=
  faulty.same (fun _ _ => Iff.rfl) fun _ _ => Iff.rfl

theorem Faulty.awaiting (awaiting : Awaiting toLowerCase after) : Awaiting toLowerCase before := by
  obtain ⟨faults, rfl, areFaults⟩ := faulty
  induction faults with
  | nil => exact awaiting
  | cons event faults ih =>
    rw [List.forall_mem_cons] at areFaults
    cases event with
    | refused which | interrupted which => exact ih areFaults.2 awaiting.2
    | dispatched | prompted executor | answered executor candidate | attempted executor outcome
    | resolved => exact areFaults.1.elim

end

/-! ## The calls of a dispatch -/

def afterThrow (which : Call) (before after : TaskWorld) : TaskWorld :=
  { after with log :=
      (if after.record = before.record then .refused which else .interrupted which) :: after.log }

/-- **What a call ensures**: what its procedure ensures, and that a throw is noted. -/
theorem ensures_call {α : Type} {which : Call} {procedure : TaskProcedure α}
    {returns : α → TaskWorld → Prop} {throws : Thrown → TaskWorld → Prop} {world : TaskWorld}
    (ensured : procedure.Ensures returns
      (fun error after => throws error (afterThrow which world after)) world) :
    (call which procedure).Ensures returns throws world := by
  unfold Ensures call at *
  cases ran : procedure world with
  | mk result after =>
    rw [ran] at ensured
    cases result with
    | ok value | error error => exact ensured

theorem faulty_afterThrow (which : Call) (before after : TaskWorld) :
    Faulty after.log (afterThrow which before after).log := by
  refine ⟨[if after.record = before.record then .refused which else .interrupted which], rfl, ?_⟩
  intro event member
  rw [List.mem_singleton] at member
  subst member
  split
  · exact trivial
  · exact trivial

theorem moves_call {α : Type} (which : Call) {procedure : TaskProcedure α}
    (leaves : Leaves TaskWorld.log procedure) : Moves TaskWorld.log Faulty (call which procedure) := by
  intro world
  refine ensures_call (leaves.ensures (fun _ after same => ?_) fun _ after same => ?_)
  · rw [same]
    exact refl_of Faulty _
  · have faulty := faulty_afterThrow which world after
    rwa [same] at faulty

theorem mapError_ok {α : Type} {result : Except String α} {value : α}
    (ok : result.mapError threw = .ok value) : result = .ok value := by
  cases result with
  | ok found =>
    cases ok
    rfl
  | error message => cases ok

/-- **What an update ensures.** It may be interrupted after the record has been changed. -/
theorem update_ensures (taskId : String) (answer : CallAnswer)
    (change : TaskRecord → Except String TaskRecord) (world : TaskWorld) :
    (update taskId answer change).Ensures
      (fun record after => ∃ current, world.record = some current ∧ change current = .ok record ∧
        after = { world with record := some record })
      (fun _ after => after = world ∨ ∃ current record, world.record = some current ∧
        change current = .ok record ∧ after = { world with record := some record }) world := by
  rw [update, ensures_bind]
  refine Ensures.check (fun _ => ?_) (Or.inl rfl)
  rw [ensures_bind, ensures_read, ensures_bind]
  refine Ensures.require (fun current isCurrent => ?_) (Or.inl rfl)
  rw [ensures_bind]
  refine Ensures.check (fun _ => ?_) (Or.inl rfl)
  cases answer with
  | refused message => exact (ensures_fail _).2 (Or.inl rfl)
  | done =>
    rw [ensures_bind]
    refine Ensures.ofExcept (fun record changed => ?_) fun _ => Or.inl rfl
    rw [ensures_bind, ensures_write, ensures_pure]
    exact ⟨current, isCurrent, mapError_ok changed, rfl⟩
  | interrupted message =>
    rw [ensures_bind]
    refine Ensures.ofExcept (fun record changed => ?_) fun _ => Or.inl rfl
    rw [ensures_bind, ensures_write, ensures_fail]
    exact Or.inr ⟨current, record, isCurrent, mapError_ok changed, rfl⟩

theorem leaves_update (taskId : String) (answer : CallAnswer)
    (change : TaskRecord → Except String TaskRecord) :
    Leaves TaskWorld.log (update taskId answer change) := by
  intro world
  refine (update_ensures taskId answer change world).mono ?_ ?_
  · rintro _ _ ⟨_, -, -, rfl⟩
    rfl
  · rintro _ _ (rfl | ⟨_, _, -, -, rfl⟩)
    · rfl
    · rfl

theorem leaves_create (task : TaskSpec) (target : Target) (answer : CallAnswer) :
    Leaves TaskWorld.log (create task target answer) := by
  have existing (record : TaskRecord) : Leaves TaskWorld.log (existingRecord task record) :=
    (Moves.check _ _).bind fun _ => (Moves.check _ _).bind fun _ => Moves.pure _
  intro world
  rw [create, ensures_bind]
  refine Ensures.check (fun _ => ?_) rfl
  rw [ensures_bind, ensures_read]
  cases found : world.record with
  | some record =>
    cases answer with
    | done | interrupted message => exact existing record world
    | refused message => exact (ensures_fail _).2 rfl
  | none =>
    cases answer with
    | done | interrupted message => simp
    | refused message => exact (ensures_fail _).2 rfl

theorem leaves_getRecord (taskId : String) (answer : CallAnswer) :
    Leaves id (getRecord taskId answer) := by
  refine (Moves.check _ _).bind fun _ => Moves.read.bind fun world => ?_
  cases answer with
  | done => exact (Moves.require _ _).bind fun record => (Moves.check _ _).bind fun _ => Moves.pure _
  | refused message | interrupted message => exact Moves.fail _

section Calls

variable (deps : Dependencies) (answers : AttemptAnswers)

theorem moves_plainCall (which : Call) : Moves TaskWorld.log Faulty (plainCall answers which) := by
  rw [plainCall]
  apply moves_call
  cases answers.calls which with
  | done => exact Moves.pure _
  | refused message | interrupted message => exact Moves.fail _

theorem moves_recordSkillUsage (which : Call) :
    Moves TaskWorld.log Faulty (recordSkillUsage deps answers which) :=
  Moves.ite (fun _ => moves_plainCall answers which) fun _ => Moves.pure _

theorem moves_resolveSkills : Moves TaskWorld.log Faulty (resolveSkills deps answers) :=
  Moves.ite (fun _ => Moves.ofExcept _) fun _ => Moves.pure _

theorem moves_updateCall (which : Call) (taskId : String) (answer : CallAnswer)
    (change : TaskRecord → Except String TaskRecord) :
    Moves TaskWorld.log Faulty (call which (update taskId answer change)) :=
  moves_call which (leaves_update taskId answer change)

end Calls

end Zero3Pilot.AgentRouting
