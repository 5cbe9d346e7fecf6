import Zero3Pilot.Foundations.Machine
import Zero3Pilot.Foundations.Program

/-! # Programs that take turns

A process serves operations, each of them by a program that awaits calls. The programs that have
begun and not yet ended are its *strands*: one of them takes a turn, which performs the call it awaits
and resumes it with the reply, then another one, in any order. The process may stop between two
turns: its strands are gone, and the world is what a restart makes of it.

* `StrandHost` — the programs of the operations, what a call does, what a restart does.
* `StrandHost.machine` — the machine whose inputs begin operations, give turns and stop the process.
* `StrandHost.alone_of_run` — the invariant rule where an operation begins only when no other runs.
* `StrandHost.kept_of_run` — the invariant rule for every interleaving of programs that make only
  some calls. -/

namespace Zero3Pilot

/-- **A process that serves operations.** A call that is not ready is performed by `none`. -/
structure StrandHost (World Call : Type) (Reply : Call → Type) (ε α Operation Environment : Type)
    where
  code : Operation → Program Call Reply ε α
  perform : Environment → World → (call : Call) → Option (Except String (Reply call) × World)
  /-- The world in which the process starts again. -/
  restart : World → World

structure Strand (World Call : Type) (Reply : Call → Type) (ε α Operation : Type) where
  operation : Operation
  began : World
  program : Program Call Reply ε α

structure StrandPool (World Call : Type) (Reply : Call → Type) (ε α Operation : Type) where
  world : World
  strands : List (Strand World Call Reply ε α Operation)

/-- What happens next. -/
inductive StrandInput (Operation Environment : Type) where
  | begin (operation : Operation)
  | turn (position : Nat) (environment : Environment)
  /-- The process stops and starts again. -/
  | stop

structure StrandEnding (World ε α Operation : Type) where
  operation : Operation
  (began ended : World)
  outcome : Except ε α

variable {World Call : Type} {Reply : Call → Type} {ε α Operation Environment : Type}

def Program.result : Program Call Reply ε α → Option (Except ε α)
  | .returned value => some (.ok value)
  | .thrown error => some (.error error)
  | .suspended | .await _ _ => none

def Program.Outcome.ofResult : Except ε α → Program.Outcome ε α
  | .ok value => .returned value
  | .error error => .thrown error

section

variable {answers : World → (call : Call) → Except String (Reply call) → World → Prop}
  {post : Program.Outcome ε α → World → Prop} {program : Program Call Reply ε α} {world : World}
  (ensured : program.Ensures answers post world)
include ensured

theorem Program.Ensures.ended {result : Except ε α}
    (ended : program.result = some result) : post (.ofResult result) world := by
  cases program with
  | returned value =>
    cases ended
    exact (Program.ensures_returned _ _ _).1 ensured
  | thrown error =>
    cases ended
    exact (Program.ensures_thrown _ _ _).1 ensured
  | suspended | await call resume => cases ended

theorem Program.Ensures.now : ∃ outcome, post outcome world := by
  cases ensured with
  | returned holds | thrown holds | suspended holds => exact ⟨_, holds⟩
  | await before after resumes => exact ⟨_, before⟩

end

namespace StrandHost

variable (host : StrandHost World Call Reply ε α Operation Environment)

def place (strands : List (Strand World Call Reply ε α Operation)) (position : Nat)
    (strand : Strand World Call Reply ε α Operation) (world : World) :
    Option (StrandEnding World ε α Operation) × StrandPool World Call Reply ε α Operation :=
  match strand.program.result with
  | some outcome =>
    (some ⟨strand.operation, strand.began, world, outcome⟩, ⟨world, strands.eraseIdx position⟩)
  | none => (none, ⟨world, strands.set position strand⟩)

def turn (pool : StrandPool World Call Reply ε α Operation) (position : Nat)
    (strand : Strand World Call Reply ε α Operation) (environment : Environment) :
    Option (StrandEnding World ε α Operation) × StrandPool World Call Reply ε α Operation :=
  match strand.program with
  | .await call resume =>
    match host.perform environment pool.world call with
    | some (reply, world) =>
      place pool.strands position { strand with program := resume reply } world
    | none => (none, pool)
  | .returned _ | .thrown _ | .suspended => (none, pool)

/-- **The machine of a process.** -/
def machine : Machine (StrandPool World Call Reply ε α Operation)
    (StrandInput Operation Environment) (Option (StrandEnding World ε α Operation)) where
  step pool
    | .begin operation =>
      let strand := ⟨operation, pool.world, host.code operation⟩
      place (pool.strands ++ [strand]) pool.strands.length strand pool.world
    | .turn position environment =>
      match pool.strands[position]? with
      | some strand => host.turn pool position strand environment
      | none => (none, pool)
    | .stop => (none, ⟨host.restart pool.world, []⟩)

/-- **What a turn does**: nothing, or a call is performed and the strand resumed. -/
theorem turn_cases (pool : StrandPool World Call Reply ε α Operation) (position : Nat)
    (strand : Strand World Call Reply ε α Operation) (environment : Environment) :
    host.turn pool position strand environment = (none, pool) ∨
      ∃ call resume reply world, strand.program = .await call resume ∧
        host.perform environment pool.world call = some (reply, world) ∧
        host.turn pool position strand environment =
          place pool.strands position { strand with program := resume reply } world := by
  unfold turn
  split
  · rename_i call resume awaits
    split
    · rename_i reply world performed
      exact Or.inr ⟨call, resume, reply, world, awaits, performed, rfl⟩
    · exact Or.inl rfl
  · exact Or.inl rfl
  · exact Or.inl rfl
  · exact Or.inl rfl

variable {host} {guard : StrandPool World Call Reply ε α Operation →
    StrandInput Operation Environment → Prop}
  {start : World} {pool : StrandPool World Call Reply ε α Operation}
  {history : List (StrandInput Operation Environment × Option (StrandEnding World ε α Operation))}

/-! ## One operation at a time -/

def OneAtATime (pool : StrandPool World Call Reply ε α Operation) :
    StrandInput Operation Environment → Prop
  | .begin _ => pool.strands = []
  | .turn _ _ | .stop => True

instance (pool : StrandPool World Call Reply ε α Operation)
    (input : StrandInput Operation Environment) : Decidable (OneAtATime pool input) := by
  unfold OneAtATime
  split <;> infer_instance

section Alone

variable (answers : World → (call : Call) → Except String (Reply call) → World → Prop)
  (inv : World → Prop) (post : Operation → World → Program.Outcome ε α → World → Prop)

/-- What holds while operations are served one at a time: between two of them the invariant, and
during one of them that its program ensures its postcondition. -/
def Alone (pool : StrandPool World Call Reply ε α Operation) : Prop :=
  (pool.strands = [] ∧ inv pool.world) ∨ ∃ strand, pool.strands = [strand] ∧ inv strand.began ∧
      strand.program.Ensures answers (post strand.operation strand.began) pool.world

def EndsAlone (ending : StrandEnding World ε α Operation) : Prop :=
  inv ending.began ∧ post ending.operation ending.began (.ofResult ending.outcome) ending.ended

variable {answers inv post}

theorem Alone.now {pool : StrandPool World Call Reply ε α Operation}
    (alone : Alone answers inv post pool)
    (ends : ∀ operation began outcome world, post operation began outcome world → inv world) :
    inv pool.world := by
  rcases alone with ⟨_, holds⟩ | ⟨strand, _, _, ensured⟩
  · exact holds
  · obtain ⟨outcome, reached⟩ := ensured.now
    exact ends _ _ _ _ reached

theorem alone_place {strands : List (Strand World Call Reply ε α Operation)}
    {strand former : Strand World Call Reply ε α Operation} {world : World}
    (only : strands = [former]) (kept : inv strand.began)
    (ensured : strand.program.Ensures answers (post strand.operation strand.began) world)
    (ends : ∀ operation began outcome world,
      post operation began (.ofResult outcome) world → inv world) :
    Alone answers inv post (place strands 0 strand world).2 ∧
      ∀ ending, (place strands 0 strand world).1 = some ending → EndsAlone inv post ending := by
  unfold place
  cases ended : strand.program.result with
  | some outcome =>
    have reached := ensured.ended ended
    refine ⟨Or.inl ⟨?_, ends _ _ _ _ reached⟩, ?_⟩
    · rw [only]
      rfl
    · intro ending same
      cases same
      exact ⟨kept, reached⟩
  | none =>
    refine ⟨Or.inr ⟨strand, ?_, kept, ensured⟩, ?_⟩
    · rw [only]
      rfl
    · intro ending same
      cases same

variable (answers inv post) in
/-- **Invariant rule for operations that are served one at a time**: the invariant is given to a program
at its beginning, and is due again at its end. -/
theorem alone_of_run (idle : ∀ pool operation, guard pool (.begin operation) → pool.strands = [])
    (ready : ∀ pool operation, guard pool (.begin operation) → inv pool.world →
      (host.code operation).Ensures answers (post operation pool.world) pool.world)
    (answered : ∀ pool position environment strand call resume reply world,
      guard pool (.turn position environment) → pool.strands[position]? = some strand →
      strand.program = .await call resume →
      host.perform environment pool.world call = some (reply, world) →
      answers pool.world call reply world)
    (ends : ∀ operation began outcome world,
      post operation began (.ofResult outcome) world → inv world)
    (stops : ∀ pool, guard pool .stop → Alone answers inv post pool → inv (host.restart pool.world))
    (base : inv start) (run : host.machine.Run guard ⟨start, []⟩ history pool) :
    Alone answers inv post pool ∧
      ∀ input ending, (input, some ending) ∈ history → EndsAlone inv post ending := by
  refine run.invariant (fun history pool => Alone answers inv post pool ∧
    ∀ input ending, (input, some ending) ∈ history → EndsAlone inv post ending)
    ⟨Or.inl ⟨rfl, base⟩, by simp⟩ ?_
  rintro history pool input ⟨alone, ended⟩ met
  -- what is left to show is that the step keeps the pool alone and ends what it ends
  suffices kept : Alone answers inv post (host.machine.step pool input).2 ∧
      ∀ ending, (host.machine.step pool input).1 = some ending → EndsAlone inv post ending by
    refine ⟨kept.1, ?_⟩
    intro which ending member
    rcases List.mem_append.1 member with earlier | now
    · exact ended which ending earlier
    · have same := Prod.mk.inj (List.mem_singleton.1 now)
      exact kept.2 ending same.2.symm
  cases input with
  | begin operation =>
    have none_runs := idle pool operation met
    rcases alone with ⟨_, holds⟩ | ⟨strand, only, _⟩
    · have at_start : pool.strands.length = 0 := by rw [none_runs]; rfl
      have only : pool.strands ++ [⟨operation, pool.world, host.code operation⟩] =
          [⟨operation, pool.world, host.code operation⟩] := by
        rw [none_runs]
        rfl
      dsimp only [machine]
      rw [at_start]
      exact alone_place only holds (ready pool operation met holds) ends
    · rw [none_runs] at only
      cases only
  | turn position environment =>
    dsimp only [machine]
    cases found : pool.strands[position]? with
    | none => exact ⟨alone, by simp⟩
    | some strand =>
      dsimp only
      rcases alone with ⟨none_runs, _⟩ | ⟨strand', only, kept, ensured⟩
      · rw [none_runs] at found
        cases found
      have first : position = 0 ∧ strand' = strand := by
        rw [only] at found
        cases position with
        | zero => exact ⟨rfl, Option.some.inj found⟩
        | succ position => cases found
      obtain ⟨rfl, rfl⟩ := first
      rcases host.turn_cases pool 0 strand' environment with
        same | ⟨call, resume, reply, world, awaits, performed, same⟩
      · rw [same]
        exact ⟨Or.inr ⟨strand', only, kept, ensured⟩, by simp⟩
      · rw [same]
        have answer := answered pool 0 environment strand' call resume reply world met found
          awaits performed
        rw [awaits] at ensured
        cases ensured with
        | await before after resumes =>
          exact alone_place only kept (resumes reply world answer) ends
  | stop => exact ⟨Or.inl ⟨rfl, stops pool met alone⟩, by simp [machine]⟩

end Alone

/-! ## Every interleaving -/

section Interleaved

variable {allowed : Call → Prop} {inv : World → Prop}

def AllOnly (allowed : Call → Prop) (strands : List (Strand World Call Reply ε α Operation)) :
    Prop :=
  ∀ strand ∈ strands, strand.program.Only allowed

theorem allOnly_place {strands : List (Strand World Call Reply ε α Operation)} {position : Nat}
    {strand : Strand World Call Reply ε α Operation} {world : World}
    (others : AllOnly allowed strands) (only : strand.program.Only allowed) :
    AllOnly allowed (place strands position strand world).2.strands ∧
      (place strands position strand world).2.world = world := by
  unfold place
  cases strand.program.result with
  | some outcome => exact ⟨fun other member => others other (List.mem_of_mem_eraseIdx member), rfl⟩
  | none =>
    refine ⟨fun other member => ?_, rfl⟩
    rcases List.mem_or_eq_of_mem_set member with earlier | rfl
    · exact others other earlier
    · exact only

/-- **Invariant rule for every interleaving** of programs that make only calls which keep the invariant. -/
theorem kept_of_run (code : ∀ pool operation, guard pool (.begin operation) →
      (host.code operation).Only allowed)
    (keeps : ∀ pool position environment strand call resume reply world,
      guard pool (.turn position environment) → pool.strands[position]? = some strand →
      strand.program = .await call resume → allowed call → inv pool.world →
      host.perform environment pool.world call = some (reply, world) → inv world)
    (restarts : ∀ pool, guard pool .stop → inv pool.world → inv (host.restart pool.world))
    (base : inv start) (run : host.machine.Run guard ⟨start, []⟩ history pool) :
    inv pool.world ∧ AllOnly allowed pool.strands := by
  have none_runs : AllOnly allowed ([] : List (Strand World Call Reply ε α Operation)) := by
    intro strand member
    cases member
  refine run.stateInvariant (fun pool => inv pool.world ∧ AllOnly allowed pool.strands)
    ⟨base, none_runs⟩ ?_
  rintro pool input ⟨holds, all⟩ met
  cases input with
  | begin operation =>
    dsimp only [machine]
    have only := code pool operation met
    have others : AllOnly allowed
        (pool.strands ++ [⟨operation, pool.world, host.code operation⟩]) := by
      intro strand member
      rcases List.mem_append.1 member with earlier | now
      · exact all strand earlier
      · rw [List.mem_singleton.1 now]
        exact only
    have placed : AllOnly allowed (place _ pool.strands.length
        ⟨operation, pool.world, host.code operation⟩ pool.world).2.strands ∧ _ :=
      allOnly_place others only
    exact ⟨placed.2.symm ▸ holds, placed.1⟩
  | turn position environment =>
    dsimp only [machine]
    cases found : pool.strands[position]? with
    | none => exact ⟨holds, all⟩
    | some strand =>
      dsimp only
      rcases host.turn_cases pool position strand environment with
        same | ⟨call, resume, reply, world, awaits, performed, same⟩
      · rw [same]
        exact ⟨holds, all⟩
      · rw [same]
        have only := all strand (List.mem_of_getElem? found)
        rw [awaits] at only
        cases only with
        | await isAllowed resumes =>
          have kept := keeps pool position environment strand call resume reply world met
            found awaits isAllowed holds performed
          have placed : AllOnly allowed (place pool.strands position
              { strand with program := resume reply } world).2.strands ∧ _ :=
            allOnly_place all (resumes reply)
          exact ⟨placed.2.symm ▸ kept, placed.1⟩
  | stop => exact ⟨restarts pool met holds, none_runs⟩

end Interleaved

end StrandHost

end Zero3Pilot
