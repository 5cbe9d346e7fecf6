import Zero3Pilot.Foundations.Procedure

/-! # Code that runs in several settings

The same asynchronous code is run as a procedure on a state, as a procedure whose calls may fail and
whose process may stop, or as a program that awaits its calls one by one. It is written once, in a
monad of which only this is known: that it throws messages, and that what is thrown can be taken as
a value.

* `Fallible` — the class of these monads, with `check`, `ofExcept` and `require`.
* `Procedure.focus` — a procedure on a part of a state.
* `Procedure.ensures_attempt`, `Procedure.ensures_focus` — their weakest preconditions. -/

namespace Zero3Pilot

/-- **Computations that throw messages**, and in which what is thrown may be caught. -/
class Fallible (m : Type → Type) where
  throw {α : Type} (message : String) : m α
  /-- Run a computation and take what it throws as a value. -/
  attempt {α : Type} (computation : m α) : m (Except String α)

namespace Fallible

variable {m : Type → Type} [Monad m] [Fallible m] {α : Type}

def check (condition : Prop) [Decidable condition] (message : String) : m Unit :=
  if condition then pure () else throw message

/-- The value of a computation that needs nothing of the monad. -/
def ofExcept (result : Except String α) : m α :=
  match result with
  | .ok value => pure value
  | .error message => throw message

def require (option : Option α) (message : String) : m α :=
  match option with
  | some value => pure value
  | none => throw message

end Fallible

namespace Procedure

variable {σ τ ε α : Type}

/-- Run a procedure and take what it throws as a value. -/
def attempt (procedure : Procedure σ ε α) : Procedure σ ε (Except ε α) := fun state =>
  (.ok (procedure state).1, (procedure state).2)

instance : Fallible (Procedure σ String) where
  throw := fail
  attempt := attempt

def focus (part : σ → τ) (replace : τ → σ → σ) (procedure : Procedure τ ε α) : Procedure σ ε α :=
  fun state =>
    ((procedure (part state)).1, replace (procedure (part state)).2 state)

section Rules

variable {throws : ε → σ → Prop} {state : σ}

@[simp] theorem ensures_attempt {procedure : Procedure σ ε α} {returns : Except ε α → σ → Prop} :
    procedure.attempt.Ensures returns throws state ↔
      procedure.Ensures (fun value after => returns (.ok value) after)
        (fun error after => returns (.error error) after) state := by
  unfold Ensures attempt
  cases procedure state with
  | mk result after =>
    cases result with
    | ok value | error error => exact Iff.rfl

@[simp] theorem ensures_focus {part : σ → τ} {replace : τ → σ → σ} {procedure : Procedure τ ε α}
    {returns : α → σ → Prop} :
    (procedure.focus part replace).Ensures returns throws state ↔
      procedure.Ensures (fun value after => returns value (replace after state))
        (fun error after => throws error (replace after state)) (part state) := by
  unfold Ensures focus
  cases procedure (part state) with
  | mk result after =>
    cases result with
    | ok value | error error => exact Iff.rfl

end Rules

section Readings

variable {throws : String → σ → Prop} {state : σ}

@[simp] theorem ensures_fallible_check {condition : Prop} [Decidable condition] {message : String}
    {returns : Unit → σ → Prop} :
    (Fallible.check condition message : Procedure σ String Unit).Ensures returns throws state ↔
      (condition → returns () state) ∧ (¬ condition → throws message state) :=
  ensures_check condition message

@[simp] theorem ensures_fallible_ofExcept {result : Except String α} {returns : α → σ → Prop} :
    (Fallible.ofExcept result : Procedure σ String α).Ensures returns throws state ↔
      (∀ value, result = .ok value → returns value state) ∧
        ∀ error, result = .error error → throws error state := by
  cases result with
  | ok value =>
    show (pure value : Procedure σ String α).Ensures returns throws state ↔ _
    simp [ensures_pure]
  | error error =>
    show (fail error : Procedure σ String α).Ensures returns throws state ↔ _
    simp [ensures_fail]

end Readings

end Procedure

end Zero3Pilot
