import Zero3Pilot.Foundations.Machine
import Zero3Pilot.Foundations.Checks

/-! # Fallible procedures on a state

An operation of a service reads and changes a state and may throw; what it has changed before it
throws stays changed, unless it runs in a transaction, which puts the state back. A procedure is
reasoned about backwards: `Procedure.Ensures` is the weakest precondition of a procedure for what it
returns and what it throws, and it computes over sequences, checks, loops and transactions.

* `Procedure` — a monad; `Procedure.check`, `Procedure.require`, `Procedure.transaction`.
* `Procedure.Ensures` — the weakest precondition, an equation for each way to form a procedure.
* `Procedure.ensures_forM`, `Procedure.ensures_foldlM` — the invariant rules of loops.
* `Procedure.machine` — the machine that serves operations; `Run.procedure_invariant` is the
  invariant rule of its runs. -/

namespace Zero3Pilot

/-- **A procedure** on a state: it returns a value or throws an error, and ends in a state. -/
def Procedure (σ ε α : Type) : Type := σ → Except ε α × σ

namespace Procedure

variable {σ ε α β : Type}

instance : Monad (Procedure σ ε) where
  pure value := fun state => (.ok value, state)
  bind procedure next := fun state =>
    match procedure state with
    | (.ok value, after) => next value after
    | (.error error, after) => (.error error, after)

def fail (error : ε) : Procedure σ ε α := fun state => (.error error, state)

def read : Procedure σ ε σ := fun state => (.ok state, state)

def write (state : σ) : Procedure σ ε Unit := fun _ => (.ok (), state)

def modify (change : σ → σ) : Procedure σ ε Unit := fun state => (.ok (), change state)

def check (condition : Prop) [Decidable condition] (error : ε) : Procedure σ ε Unit :=
  if condition then pure () else fail error

def require (option : Option α) (error : ε) : Procedure σ ε α :=
  match option with
  | some value => pure value
  | none => fail error

def ofExcept (result : Except ε α) : Procedure σ ε α := fun state => (result, state)

def transaction (procedure : Procedure σ ε α) : Procedure σ ε α := fun state =>
  match procedure state with
  | (.ok value, after) => (.ok value, after)
  | (.error error, _) => (.error error, state)

/-- Clean up where a procedure throws; what it threw is thrown again. -/
def onError (procedure : Procedure σ ε α) (cleanup : Procedure σ ε Unit) : Procedure σ ε α :=
  fun state =>
    match procedure state with
    | (.ok value, after) => (.ok value, after)
    | (.error error, after) => (.error error, (cleanup after).2)

/-- Run a procedure, and another one whether it returns or throws. -/
def andFinally (procedure : Procedure σ ε α) (last : Procedure σ ε Unit) : Procedure σ ε α :=
  fun state =>
    match last (procedure state).2 with
    | (.ok _, after) => ((procedure state).1, after)
    | (.error error, after) => (.error error, after)

theorem require_some (value : α) (error : ε) :
    (require (some value) error : Procedure σ ε α) = pure value := rfl

theorem ofExcept_ok (value : α) : (ofExcept (.ok value) : Procedure σ ε α) = pure value := rfl

/-! ## Weakest preconditions -/

/-- **What a procedure ensures**: where it returns, `returns` holds of the value and the state it
ends in; where it throws, `throws` holds of the error and that state. -/
def Ensures (procedure : Procedure σ ε α) (returns : α → σ → Prop) (throws : ε → σ → Prop)
    (state : σ) : Prop :=
  match procedure state with
  | (.ok value, after) => returns value after
  | (.error error, after) => throws error after

section Equations

variable {returns : α → σ → Prop} {throws : ε → σ → Prop} {state : σ}

@[simp] theorem ensures_pure (value : α) :
    (pure value : Procedure σ ε α).Ensures returns throws state ↔ returns value state := Iff.rfl

@[simp] theorem ensures_fail (error : ε) :
    (fail error : Procedure σ ε α).Ensures returns throws state ↔ throws error state := Iff.rfl

@[simp] theorem ensures_read {returns : σ → σ → Prop} :
    (read : Procedure σ ε σ).Ensures returns throws state ↔ returns state state := Iff.rfl

@[simp] theorem ensures_write {returns : Unit → σ → Prop} (after : σ) :
    (write after : Procedure σ ε Unit).Ensures returns throws state ↔ returns () after := Iff.rfl

@[simp] theorem ensures_modify {returns : Unit → σ → Prop} (change : σ → σ) :
    (modify change : Procedure σ ε Unit).Ensures returns throws state ↔ returns () (change state) :=
  Iff.rfl

/-- **Sequencing**: what comes second is ensured by what comes first. -/
@[simp] theorem ensures_bind {returns : β → σ → Prop} (procedure : Procedure σ ε α)
    (next : α → Procedure σ ε β) :
    (procedure >>= next).Ensures returns throws state ↔
      procedure.Ensures (fun value after => (next value).Ensures returns throws after) throws
        state := by
  simp only [Ensures, bind]
  cases procedure state with
  | mk result after =>
    cases result with
    | ok value | error error => exact Iff.rfl

@[simp] theorem ensures_map {returns : β → σ → Prop} (f : α → β) (procedure : Procedure σ ε α) :
    (f <$> procedure).Ensures returns throws state ↔
      procedure.Ensures (fun value after => returns (f value) after) throws state :=
  ensures_bind procedure fun value => pure (f value)

@[simp] theorem ensures_check {returns : Unit → σ → Prop} (condition : Prop)
    [Decidable condition] (error : ε) :
    (check condition error : Procedure σ ε Unit).Ensures returns throws state ↔
      (condition → returns () state) ∧ (¬ condition → throws error state) := by
  by_cases holds : condition
  · simp [check, holds]
  · simp [check, holds]

@[simp] theorem ensures_require (option : Option α) (error : ε) :
    (require option error : Procedure σ ε α).Ensures returns throws state ↔
      (∀ value, option = some value → returns value state) ∧
        (option = none → throws error state) := by
  cases option with
  | none | some value => simp [require]

@[simp] theorem ensures_ofExcept (result : Except ε α) :
    (ofExcept result : Procedure σ ε α).Ensures returns throws state ↔
      (∀ value, result = .ok value → returns value state) ∧
        (∀ error, result = .error error → throws error state) := by
  cases result with
  | ok value | error error => simp [Ensures, ofExcept]

@[simp] theorem ensures_ite (condition : Prop) [Decidable condition]
    (procedure other : Procedure σ ε α) :
    (if condition then procedure else other).Ensures returns throws state ↔
      (condition → procedure.Ensures returns throws state) ∧
        (¬ condition → other.Ensures returns throws state) := by
  by_cases holds : condition
  · simp [holds]
  · simp [holds]

@[simp] theorem ensures_transaction (procedure : Procedure σ ε α) :
    (transaction procedure).Ensures returns throws state ↔
      procedure.Ensures returns (fun error _ => throws error state) state := by
  simp only [Ensures, transaction]
  cases procedure state with
  | mk result after =>
    cases result with
    | ok value | error error => exact Iff.rfl

@[simp] theorem ensures_onError (procedure : Procedure σ ε α) (cleanup : Procedure σ ε Unit) :
    (procedure.onError cleanup).Ensures returns throws state ↔ procedure.Ensures returns
        (fun error after => cleanup.Ensures (fun _ cleaned => throws error cleaned)
          (fun _ cleaned => throws error cleaned) after) state := by
  simp only [Ensures, onError]
  cases procedure state with
  | mk result after =>
    cases result with
    | ok value => exact Iff.rfl
    | error error =>
      dsimp only
      cases cleanup after with
      | mk cleanedUp cleaned => cases cleanedUp <;> exact Iff.rfl

@[simp] theorem ensures_andFinally (procedure : Procedure σ ε α) (last : Procedure σ ε Unit) :
    (procedure.andFinally last).Ensures returns throws state ↔ procedure.Ensures
        (fun value after => last.Ensures (fun _ final => returns value final) throws after)
        (fun error after => last.Ensures (fun _ final => throws error final) throws after)
        state := by
  simp only [Ensures, andFinally]
  cases procedure state with
  | mk result after =>
    cases result with
    | ok value =>
      dsimp only
      cases last after with
      | mk finished final => cases finished <;> exact Iff.rfl
    | error error =>
      dsimp only
      cases last after with
      | mk finished final => cases finished <;> exact Iff.rfl

end Equations

variable {procedure : Procedure σ ε α} {state : σ}

/-- **Consequence.** A procedure ensures what follows from what it ensures. -/
theorem Ensures.mono {returns returns' : α → σ → Prop} {throws throws' : ε → σ → Prop}
    (ensured : procedure.Ensures returns throws state)
    (onReturn : ∀ value after, returns value after → returns' value after)
    (onThrow : ∀ error after, throws error after → throws' error after) :
    procedure.Ensures returns' throws' state := by
  unfold Ensures at ensured ⊢
  split
  · rename_i value after ran
    rw [ran] at ensured
    exact onReturn value after ensured
  · rename_i error after ran
    rw [ran] at ensured
    exact onThrow error after ensured

variable {throws : ε → σ → Prop}

theorem Ensures.imp {returns returns' : α → σ → Prop} (ensured : procedure.Ensures returns throws state)
    (onReturn : ∀ value after, returns value after → returns' value after) :
    procedure.Ensures returns' throws state :=
  ensured.mono onReturn fun _ _ thrown => thrown

section Checks

variable {throws : ε → σ → Prop} {state : σ}

theorem Ensures.check {condition : Prop} [Decidable condition] {error : ε}
    {returns : Unit → σ → Prop} (passed : condition → returns () state)
    (refused : throws error state) :
    (check condition error : Procedure σ ε Unit).Ensures returns throws state :=
  (ensures_check condition error).2 ⟨passed, fun _ => refused⟩

theorem Ensures.passes {condition : Prop} [Decidable condition] {error : ε}
    {returns : Unit → σ → Prop} (holds : condition) (passed : returns () state) :
    (Procedure.check condition error : Procedure σ ε Unit).Ensures returns throws state :=
  (ensures_check condition error).2 ⟨fun _ => passed, fun fails => absurd holds fails⟩

theorem Ensures.otherwise {condition : Prop} [Decidable condition] {procedure other : Procedure σ ε α}
    {returns : α → σ → Prop} (fails : ¬ condition) (ensured : other.Ensures returns throws state) :
    (if condition then procedure else other).Ensures returns throws state := by
  rw [if_neg fails]
  exact ensured

theorem Ensures.require {option : Option α} {error : ε} {returns : α → σ → Prop}
    (found : ∀ value, option = some value → returns value state)
    (missing : throws error state) :
    (require option error : Procedure σ ε α).Ensures returns throws state :=
  (ensures_require option error).2 ⟨found, fun _ => missing⟩

theorem Ensures.checked {condition : Prop} [Decidable condition] {error : ε}
    {next : Unit → Procedure σ ε β} {returns : β → σ → Prop}
    (passed : condition → (next ()).Ensures returns throws state) (refused : throws error state) :
    (Procedure.check condition error >>= next).Ensures returns throws state :=
  (ensures_bind _ _).2 (.check passed refused)

theorem Ensures.required {option : Option α} {error : ε} {next : α → Procedure σ ε β}
    {returns : β → σ → Prop}
    (found : ∀ value, option = some value → (next value).Ensures returns throws state)
    (missing : throws error state) :
    (Procedure.require option error >>= next).Ensures returns throws state :=
  (ensures_bind _ _).2 (.require found missing)

theorem Ensures.ofExcept {result : Except ε α} {returns : α → σ → Prop}
    (returned : ∀ value, result = .ok value → returns value state)
    (refused : ∀ error, throws error state) :
    (ofExcept result : Procedure σ ε α).Ensures returns throws state :=
  (ensures_ofExcept result).2 ⟨returned, fun error _ => refused error⟩

end Checks

theorem ensures_state {Inv : σ → Prop} : procedure.Ensures (fun _ => Inv) (fun _ => Inv) state ↔
      Inv (procedure state).2 := by
  unfold Ensures
  split
  · rename_i value after ran
    rw [ran]
  · rename_i error after ran
    rw [ran]

theorem Ensures.reached {Inv : σ → Prop}
    (ensured : procedure.Ensures (fun _ => Inv) (fun _ _ => False) state) :
    Inv (procedure state).2 :=
  ensures_state.1 (ensured.mono (fun _ _ holds => holds) fun _ _ never => never.elim)

theorem ensures_self (procedure : Procedure σ ε α) (state : σ) :
    procedure.Ensures (fun value after => procedure state = (.ok value, after))
      (fun error after => procedure state = (.error error, after)) state := by
  unfold Ensures
  split
  · assumption
  · assumption

theorem Ensures.and {returns returns' : α → σ → Prop} {throws throws' : ε → σ → Prop}
    (ensured : procedure.Ensures returns throws state)
    (ensured' : procedure.Ensures returns' throws' state) :
    procedure.Ensures (fun value after => returns value after ∧ returns' value after)
      (fun error after => throws error after ∧ throws' error after) state := by
  unfold Ensures at ensured ensured' ⊢
  split
  · rename_i value after ran
    rw [ran] at ensured ensured'
    exact ⟨ensured, ensured'⟩
  · rename_i error after ran
    rw [ran] at ensured ensured'
    exact ⟨ensured, ensured'⟩

section

variable {returns : α → σ → Prop} {state after : σ} (ensured : procedure.Ensures returns throws state)
include ensured

theorem Ensures.returned {value : α} (ran : procedure state = (.ok value, after)) :
    returns value after := by
  unfold Ensures at ensured
  rwa [ran] at ensured

theorem Ensures.threw {error : ε} (ran : procedure state = (.error error, after)) :
    throws error after := by
  unfold Ensures at ensured
  rwa [ran] at ensured

end

theorem eq_of_ensures {state state' : σ} {result : α}
    (ensured : procedure.Ensures (fun value after => value = result ∧ after = state')
      (fun _ _ => False) state) : procedure state = (.ok result, state') := by
  unfold Ensures at ensured
  split at ensured
  · rename_i value after ran
    rw [ran, ensured.1, ensured.2]
  · exact ensured.elim

-- from here on, what a procedure ensures is computed by the equations and the rules only
attribute [irreducible] Ensures

/-! ## Loops -/

/-- **Invariant rule of a loop**: what every pass keeps holds after the loop. -/
theorem ensures_forM {items : List α} {body : α → Procedure σ ε PUnit} {Inv : σ → Prop}
    (pass : ∀ item ∈ items, ∀ state, Inv state →
      (body item).Ensures (fun _ => Inv) throws state) (start : Inv state) :
    (items.forM body).Ensures (fun _ => Inv) throws state := by
  induction items generalizing state with
  | nil => exact (ensures_pure _).2 start
  | cons item items ih =>
    show (body item >>= fun _ => items.forM body).Ensures _ _ _
    rw [ensures_bind]
    refine (pass item List.mem_cons_self state start).imp fun _ after kept => ?_
    exact ih (fun later member => pass later (List.mem_cons_of_mem _ member)) kept

/-- **Invariant rule of a loop with an accumulator.** -/
theorem ensures_foldlM {items : List α} {body : β → α → Procedure σ ε β} (Inv : β → σ → Prop)
    (pass : ∀ item ∈ items, ∀ accumulator state, Inv accumulator state →
      (body accumulator item).Ensures Inv throws state) {accumulator : β} (start : Inv accumulator state) :
    (items.foldlM body accumulator).Ensures Inv throws state := by
  induction items generalizing accumulator state with
  | nil => exact (ensures_pure _).2 start
  | cons item items ih =>
    rw [List.foldlM_cons, ensures_bind]
    refine (pass item List.mem_cons_self accumulator state start).imp fun next after kept => ?_
    exact ih (fun later member => pass later (List.mem_cons_of_mem _ member)) kept

/-! ## Services -/

variable {Operation : Type}

def machine (serve : Operation → Procedure σ ε α) : Machine σ Operation (Except ε α) where
  step state operation := serve operation state

end Procedure

/-- **Invariants of a service.** A property of the state that every guarded operation ensures,
whether it returns or throws, holds at the end of every guarded run. -/
theorem Machine.Run.procedure_invariant {σ ε α Operation : Type}
    {serve : Operation → Procedure σ ε α} {guard : σ → Operation → Prop} {start state : σ}
    {history : List (Operation × Except ε α)}
    (Inv : σ → Prop) (base : Inv start)
    (preserved : ∀ state operation, Inv state → guard state operation →
      (serve operation).Ensures (fun _ => Inv) (fun _ => Inv) state)
    (run : (Procedure.machine serve).Run guard start history state) : Inv state := by
  refine run.stateInvariant Inv base ?_
  intro state operation kept met
  exact Procedure.ensures_state.1 (preserved state operation kept met)

end Zero3Pilot
