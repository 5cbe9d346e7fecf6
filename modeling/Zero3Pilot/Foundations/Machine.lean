import Mathlib.Data.List.Basic

/-! # Deterministic machines and their runs

A machine answers every input with an output and a successor state. Its *runs* are the finite
sequences of inputs it has served, kept together with the outputs it gave, so that a property can
speak about the whole history of a run and not only about the state it ends in. A run may be
restricted by a *guard* on the state before a step and the input served there: the guarded runs are
the runs all of whose steps meet the guard.

* `Machine.Run M guard s₀ history s` — the machine goes from `s₀` to `s`, serving `history`.
* `Machine.Run.invariant` — the induction rule for invariants of history and state.
* `Machine.exec` — a run computed from its list of inputs; `Machine.exec_run` makes it a `Run`. -/

namespace Zero3Pilot

universe u v w

structure Machine (State : Type u) (Input : Type v) (Output : Type w) where
  step : State → Input → Output × State

namespace Machine

variable {State : Type u} {Input : Type v} {Output : Type w}

/-- The guard every step meets. -/
def anyStep : State → Input → Prop := fun _ _ => True

/-- **Runs of a machine** from `start`, newest step last: the history of inputs with the outputs
given, and the state reached. Every step of the run meets `guard` in the state it starts from. -/
inductive Run (machine : Machine State Input Output) (guard : State → Input → Prop)
    (start : State) : List (Input × Output) → State → Prop where
  | nil : Run machine guard start [] start
  | snoc {history : List (Input × Output)} {state : State} (input : Input) :
      Run machine guard start history state → guard state input →
      Run machine guard start (history ++ [(input, (machine.step state input).1)])
        (machine.step state input).2

variable {machine : Machine State Input Output} {guard guard' : State → Input → Prop}
  {start state : State} {history : List (Input × Output)}

/-- **Invariant rule.** A property of history and state that holds at the start and is preserved by
every guarded step holds at the end of every guarded run. -/
theorem Run.invariant (Inv : List (Input × Output) → State → Prop) (base : Inv [] start)
    (preserved : ∀ history state input, Inv history state → guard state input →
      Inv (history ++ [(input, (machine.step state input).1)]) (machine.step state input).2)
    (run : Run machine guard start history state) : Inv history state := by
  induction run with
  | nil => exact base
  | snoc input _ met ih => exact preserved _ _ input ih met

theorem Run.stateInvariant (Inv : State → Prop) (base : Inv start)
    (preserved : ∀ state input, Inv state → guard state input → Inv (machine.step state input).2)
    (run : Run machine guard start history state) : Inv state :=
  run.invariant (fun _ => Inv) base fun _ state input => preserved state input

theorem Run.weaken (weaker : ∀ state input, guard state input → guard' state input)
    (run : Run machine guard start history state) : Run machine guard' start history state := by
  induction run with
  | nil => exact .nil
  | snoc input _ met ih => exact .snoc input ih (weaker _ _ met)

/-- Serve a list of inputs in order, collecting the history. -/
def exec (machine : Machine State Input Output) : State → List Input → List (Input × Output) × State
  | state, [] => ([], state)
  | state, input :: inputs =>
    let rest := exec machine (machine.step state input).2 inputs
    ((input, (machine.step state input).1) :: rest.1, rest.2)

/-- Every step of the computed execution meets the guard. -/
def Met (machine : Machine State Input Output) (guard : State → Input → Prop) :
    State → List Input → Prop
  | _, [] => True
  | state, input :: inputs =>
    guard state input ∧ Met machine guard (machine.step state input).2 inputs

/-- Whether an execution meets a guard can be computed. -/
instance decidableMet [decides : ∀ state input, Decidable (guard state input)]
    (machine : Machine State Input Output) :
    ∀ state inputs, Decidable (machine.Met guard state inputs)
  | _, [] => isTrue trivial
  | state, input :: inputs =>
    haveI := decidableMet machine (machine.step state input).2 inputs
    inferInstanceAs (Decidable (guard state input ∧ _))

theorem met_of_forall {inputs : List Input} (met : ∀ input ∈ inputs, ∀ state, guard state input) :
    ∀ state, machine.Met guard state inputs := by
  induction inputs with
  | nil => exact fun _ => trivial
  | cons input inputs ih =>
    intro state
    refine ⟨met input List.mem_cons_self state, ih ?_ _⟩
    exact fun later member => met later (List.mem_cons_of_mem _ member)

theorem Run.append_exec (inputs : List Input) :
    ∀ {history : List (Input × Output)} {state : State}, Run machine guard start history state →
      machine.Met guard state inputs → Run machine guard start
        (history ++ (machine.exec state inputs).1) (machine.exec state inputs).2 := by
  induction inputs with
  | nil => intro history state run _; simpa [exec] using run
  | cons input inputs ih =>
    intro history state run met
    have extended := ih (Run.snoc input run met.1) met.2
    rwa [List.append_assoc] at extended

theorem exec_run (machine : Machine State Input Output) (start : State) (inputs : List Input)
    (met : machine.Met guard start inputs) :
    Run machine guard start (machine.exec start inputs).1 (machine.exec start inputs).2 := by
  have empty : Run machine guard start [] start := .nil
  simpa using empty.append_exec inputs met

end Machine

end Zero3Pilot
