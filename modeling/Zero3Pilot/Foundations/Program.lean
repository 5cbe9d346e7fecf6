import Mathlib.Logic.Basic

/-! # Programs that await calls

An asynchronous program is a tree: it has returned, has thrown, or awaits a call and resumes with
the reply. The world it runs in answers the calls, by a relation between the world before, the call,
the reply and the world afterwards. The process may stop at every call, before the call takes effect
or after it.

* `Program` — the trees, a monad with errors; `Program.perform`, `Program.catching`.
* `Program.Runs` — the executions of a program in a world, stopped ones included.
* `Program.Ensures` — the weakest precondition of a program for a property of its outcomes, with
  `Ensures.sound` and the rules `Ensures.bind`, `Ensures.catching`, `Ensures.mono`.
* `Program.Within` — a program that makes only calls of one kind and returns only values of one
  kind; `Within.ensures` is its frame rule, and `Program.Only` the case without the values. -/

namespace Zero3Pilot

/-- **A program over an interface of calls**, each with its type of replies. A call that fails is
answered with a message. -/
inductive Program (Call : Type) (Reply : Call → Type) (ε α : Type) where
  | returned (value : α)
  | thrown (error : ε)
  /-- The program is still running when its fuel is used up. -/
  | suspended
  | await (call : Call) (resume : Except String (Reply call) → Program Call Reply ε α)

/-- How an execution ends. -/
inductive Program.Outcome (ε α : Type) where
  | returned (value : α)
  | thrown (error : ε)
  /-- The process has stopped. -/
  | crashed
  /-- The fuel is used up. -/
  | suspended

namespace Program

variable {Call : Type} {Reply : Call → Type} {ε α β : Type}

/-- Run a program, then continue with the value it returns. -/
def bind (program : Program Call Reply ε α) (next : α → Program Call Reply ε β) :
    Program Call Reply ε β :=
  match program with
  | .returned value => next value
  | .thrown error => .thrown error
  | .suspended => .suspended
  | .await call resume => .await call fun reply => (resume reply).bind next

instance : Monad (Program Call Reply ε) where
  pure := .returned
  bind := Program.bind

theorem bind_pure_eq (program : Program Call Reply ε α) : program.bind .returned = program := by
  induction program with
  | returned value | thrown error | suspended => rfl
  | await call resume ih => exact congrArg (Program.await call) (funext ih)

theorem bind_bind {γ : Type} (program : Program Call Reply ε α) (next : α → Program Call Reply ε β)
    (last : β → Program Call Reply ε γ) :
    (program.bind next).bind last = program.bind fun value => (next value).bind last := by
  induction program with
  | returned value | thrown error | suspended => rfl
  | await call resume ih => exact congrArg (Program.await call) (funext ih)

instance : LawfulMonad (Program Call Reply ε) :=
  LawfulMonad.mk' _ bind_pure_eq (fun _ _ => rfl) bind_bind

/-- Await a call; its failure is thrown as the error `raise` makes of its message. -/
def perform (raise : String → ε) (call : Call) : Program Call Reply ε (Reply call) :=
  .await call fun
    | .ok reply => .returned reply
    | .error message => .thrown (raise message)

/-- Run a program; what it throws is handled by `handler`. -/
def catching (program : Program Call Reply ε α) (handler : ε → Program Call Reply ε α) :
    Program Call Reply ε α :=
  match program with
  | .returned value => .returned value
  | .thrown error => handler error
  | .suspended => .suspended
  | .await call resume => .await call fun reply => (resume reply).catching handler

instance : MonadExceptOf ε (Program Call Reply ε) where
  throw := .thrown
  tryCatch := .catching

def ofExcept (raise : String → ε) : Except String α → Program Call Reply ε α
  | .ok value => .returned value
  | .error message => .thrown (raise message)

section Equations

variable (next : α → Program Call Reply ε β)

@[simp] theorem pure_eq (value : α) : (pure value : Program Call Reply ε α) = .returned value := rfl

@[simp] theorem throw_eq (error : ε) : (throw error : Program Call Reply ε α) = .thrown error := rfl

@[simp] theorem returned_bind (value : α) :
    (.returned value : Program Call Reply ε α) >>= next = next value := rfl

@[simp] theorem thrown_bind (error : ε) :
    (.thrown error : Program Call Reply ε α) >>= next = .thrown error := rfl

@[simp] theorem suspended_bind : (.suspended : Program Call Reply ε α) >>= next = .suspended := rfl

@[simp] theorem await_bind (call : Call)
    (resume : Except String (Reply call) → Program Call Reply ε α) :
    .await call resume >>= next = .await call fun reply => resume reply >>= next := rfl

end Equations

/-! ## Executions -/

variable {World : Type}

/-- **The executions of a program** in a world that answers its calls by `answers`. -/
inductive Runs (answers : World → (call : Call) → Except String (Reply call) → World → Prop) :
    Program Call Reply ε α → World → Outcome ε α → World → Prop where
  | returned (value : α) (world : World) :
      Runs answers (.returned value) world (.returned value) world
  | thrown (error : ε) (world : World) : Runs answers (.thrown error) world (.thrown error) world
  | suspended (world : World) : Runs answers .suspended world .suspended world
  /-- The process stops before a call takes effect. -/
  | crashedBefore (call : Call)
      (resume : Except String (Reply call) → Program Call Reply ε α) (world : World) :
      Runs answers (.await call resume) world .crashed world
  /-- The process stops after a call has taken effect. -/
  | crashedAfter (call : Call) (resume : Except String (Reply call) → Program Call Reply ε α)
      {world world' : World} (reply : Except String (Reply call))
      (answered : answers world call reply world') :
      Runs answers (.await call resume) world .crashed world'
  | await (call : Call) (resume : Except String (Reply call) → Program Call Reply ε α)
      {world world' world'' : World} (reply : Except String (Reply call))
      (answered : answers world call reply world') {outcome : Outcome ε α}
      (rest : Runs answers (resume reply) world' outcome world'') :
      Runs answers (.await call resume) world outcome world''

/-! ## What a program ensures -/

variable {answers : World → (call : Call) → Except String (Reply call) → World → Prop}

/-- **The weakest precondition**: every execution of the program from the world ends in an outcome
and a world with the property. -/
inductive Ensures (answers : World → (call : Call) → Except String (Reply call) → World → Prop)
    (post : Outcome ε α → World → Prop) : Program Call Reply ε α → World → Prop where
  | returned {value : α} {world : World} (holds : post (.returned value) world) :
      Ensures answers post (.returned value) world
  | thrown {error : ε} {world : World} (holds : post (.thrown error) world) :
      Ensures answers post (.thrown error) world
  | suspended {world : World} (holds : post .suspended world) : Ensures answers post .suspended world
  | await {call : Call} {resume : Except String (Reply call) → Program Call Reply ε α}
      {world : World} (before : post .crashed world)
      (after : ∀ reply world', answers world call reply world' → post .crashed world')
      (resumes : ∀ reply world', answers world call reply world' →
        Ensures answers post (resume reply) world') :
      Ensures answers post (.await call resume) world

section Readings

variable (post : Outcome ε α → World → Prop) (world : World)

@[simp] theorem ensures_returned (value : α) :
    Ensures answers post (.returned value : Program Call Reply ε α) world ↔
      post (.returned value) world := by
  constructor
  · intro ensured
    cases ensured with
    | returned holds => exact holds
  · exact .returned

@[simp] theorem ensures_thrown (error : ε) :
    Ensures answers post (.thrown error : Program Call Reply ε α) world ↔
      post (.thrown error) world := by
  constructor
  · intro ensured
    cases ensured with
    | thrown holds => exact holds
  · exact .thrown

@[simp] theorem ensures_suspended :
    Ensures answers post (.suspended : Program Call Reply ε α) world ↔ post .suspended world := by
  constructor
  · intro ensured
    cases ensured with
    | suspended holds => exact holds
  · exact .suspended

end Readings

variable {post post' : Outcome ε α → World → Prop} {program : Program Call Reply ε α}
  {world world' : World} {outcome : Outcome ε α}

/-- **Soundness**: every execution has the ensured property. -/
theorem Ensures.sound (ensured : Ensures answers post program world)
    (runs : Runs answers program world outcome world') : post outcome world' := by
  induction runs with
  | returned value world => exact (ensures_returned _ _ _).1 ensured
  | thrown error world => exact (ensures_thrown _ _ _).1 ensured
  | suspended world => exact (ensures_suspended _ _).1 ensured
  | crashedBefore call resume world =>
    cases ensured with
    | await before after resumes => exact before
  | crashedAfter call resume reply answered =>
    cases ensured with
    | await before after resumes => exact after reply _ answered
  | await call resume reply answered rest ih =>
    cases ensured with
    | await before after resumes => exact ih (resumes reply _ answered)

theorem Ensures.mono (ensured : Ensures answers post program world)
    (weaker : ∀ outcome world', post outcome world' → post' outcome world') :
    Ensures answers post' program world := by
  induction ensured with
  | returned holds => exact .returned (weaker _ _ holds)
  | thrown holds => exact .thrown (weaker _ _ holds)
  | suspended holds => exact .suspended (weaker _ _ holds)
  | await before after resumes ih =>
    exact .await (weaker _ _ before)
      (fun reply world' answered => weaker _ _ (after reply world' answered)) ih

theorem Ensures.and (left : Ensures answers post program world)
    (right : Ensures answers post' program world) :
    Ensures answers (fun outcome world' => post outcome world' ∧ post' outcome world') program
      world := by
  induction left with
  | returned holds => exact .returned ⟨holds, (ensures_returned _ _ _).1 right⟩
  | thrown holds => exact .thrown ⟨holds, (ensures_thrown _ _ _).1 right⟩
  | suspended holds => exact .suspended ⟨holds, (ensures_suspended _ _).1 right⟩
  | await before after resumes ih =>
    cases right with
    | await before' after' resumes' =>
      exact .await ⟨before, before'⟩
        (fun reply world' answered => ⟨after _ _ answered, after' _ _ answered⟩)
        fun reply world' answered => ih _ _ answered (resumes' _ _ answered)

/-- The outcomes of a sequence, in terms of those of its first part. -/
def afterwards (answers : World → (call : Call) → Except String (Reply call) → World → Prop)
    (next : α → Program Call Reply ε β) (post : Outcome ε β → World → Prop) :
    Outcome ε α → World → Prop
  | .returned value, world => Ensures answers post (next value) world
  | .thrown error, world => post (.thrown error) world
  | .crashed, world => post .crashed world
  | .suspended, world => post .suspended world

variable {next : α → Program Call Reply ε β}

/-- **Sequencing rule.** -/
theorem Ensures.bind {post : Outcome ε β → World → Prop}
    (ensured : Ensures answers (afterwards answers next post) program world) :
    Ensures answers post (program >>= next) world := by
  induction ensured with
  | returned holds => exact holds
  | thrown holds => exact .thrown holds
  | suspended holds => exact .suspended holds
  | await before after resumes ih => exact .await before after ih

def handled (answers : World → (call : Call) → Except String (Reply call) → World → Prop)
    (handler : ε → Program Call Reply ε α) (post : Outcome ε α → World → Prop) :
    Outcome ε α → World → Prop
  | .returned value, world => post (.returned value) world
  | .thrown error, world => Ensures answers post (handler error) world
  | .crashed, world => post .crashed world
  | .suspended, world => post .suspended world

/-- **Handling rule.** -/
theorem Ensures.catching {handler : ε → Program Call Reply ε α}
    (ensured : Ensures answers (handled answers handler post) program world) :
    Ensures answers post (program.catching handler) world := by
  induction ensured with
  | returned holds => exact .returned holds
  | thrown holds => exact holds
  | suspended holds => exact .suspended holds
  | await before after resumes ih => exact .await before after ih

/-! ## Invariants of a program -/

def Always (inv : World → Prop) (results : α → World → Prop) (outcome : Outcome ε α)
    (world : World) : Prop :=
  inv world ∧ ∀ value, outcome = .returned value → results value world

section Always

variable {inv : World → Prop} {results : α → World → Prop}

section

variable (holds : inv world)
include holds

theorem ensures_always_returned {value : α} (result : results value world) :
    Ensures answers (Always inv results) (.returned value : Program Call Reply ε α) world := by
  refine .returned ⟨holds, ?_⟩
  rintro _ ⟨⟩
  exact result

theorem ensures_always_thrown {error : ε} :
    Ensures answers (Always inv results) (.thrown error : Program Call Reply ε α) world :=
  .thrown ⟨holds, by simp⟩

theorem ensures_always_suspended :
    Ensures answers (Always inv results) (.suspended : Program Call Reply ε α) world :=
  .suspended ⟨holds, by simp⟩

section

variable {call : Call} (keeps : ∀ reply world', answers world call reply world' → inv world')
include keeps

theorem ensures_always_await {resume : Except String (Reply call) → Program Call Reply ε α}
    (rest : ∀ reply world', answers world call reply world' →
      Ensures answers (Always inv results) (resume reply) world') :
    Ensures answers (Always inv results) (.await call resume) world :=
  .await ⟨holds, by simp⟩ (fun reply world' answered => ⟨keeps reply world' answered, by simp⟩) rest

theorem ensures_always_perform {raise : String → ε} {results : Reply call → World → Prop}
    (answered : ∀ reply world', answers world call (.ok reply) world' → results reply world') :
    Ensures answers (Always inv results) (perform raise call) world := by
  refine ensures_always_await holds keeps fun reply world' answer => ?_
  cases reply with
  | error message => exact ensures_always_thrown (keeps _ _ answer)
  | ok reply => exact ensures_always_returned (keeps _ _ answer) (answered _ _ answer)

end

theorem ensures_always_ofExcept {raise : String → ε} {check : Except String α} :
    Ensures answers (Always inv fun value _ => check = .ok value)
      (ofExcept raise check : Program Call Reply ε α) world := by
  cases check with
  | error message => exact ensures_always_thrown holds
  | ok value => exact ensures_always_returned holds rfl

end

/-- **Sequencing rule for invariants.** -/
theorem Ensures.seq {next : α → Program Call Reply ε β} {final : β → World → Prop}
    (first : Ensures answers (Always inv results) program world)
    (rest : ∀ value world', inv world' → results value world' →
      Ensures answers (Always inv final) (next value) world') :
    Ensures answers (Always inv final) (program >>= next) world := by
  refine Ensures.bind (first.mono fun outcome world' always => ?_)
  obtain ⟨holds, result⟩ := always
  cases outcome with
  | returned value => exact rest value world' holds (result value rfl)
  | thrown error | crashed | suspended => exact ⟨holds, by simp⟩

theorem Ensures.rethrow {handler : ε → Program Call Reply ε α}
    (first : Ensures answers (Always inv results) program world)
    (rethrows : ∀ error, ∃ error', handler error = .thrown error') :
    Ensures answers (Always inv results) (program.catching handler) world := by
  refine Ensures.catching (first.mono fun outcome world' always => ?_)
  obtain ⟨holds, result⟩ := always
  cases outcome with
  | returned value => exact ⟨holds, result⟩
  | thrown error =>
    obtain ⟨error', same⟩ := rethrows error
    simp only [handled, same]
    exact ensures_always_thrown holds
  | crashed | suspended => exact ⟨holds, by simp⟩

theorem ensures_anything (program : Program Call Reply ε α) (world : World) :
    Ensures answers (Always (fun _ => True) fun _ _ => True) program world := by
  induction program generalizing world with
  | returned value => exact ensures_always_returned trivial trivial
  | thrown error => exact ensures_always_thrown trivial
  | suspended => exact ensures_always_suspended trivial
  | await call resume ih =>
    exact ensures_always_await trivial (fun _ _ _ => trivial) fun reply world' _ => ih reply world'

theorem Ensures.always_mono {inv' : World → Prop} {results' : α → World → Prop}
    (first : Ensures answers (Always inv results) program world)
    (holds : ∀ world', inv world' → inv' world')
    (result : ∀ value world', inv world' → results value world' → results' value world') :
    Ensures answers (Always inv' results') program world := by
  refine first.mono fun outcome world' always => ⟨holds _ always.1, fun value same => ?_⟩
  exact result value world' always.1 (always.2 value same)

end Always

/-! ## Programs that return -/

def Yields (results : α → World → Prop) : Outcome ε α → World → Prop
  | .returned value, world => results value world
  | .crashed, _ => True
  | .thrown _, _ | .suspended, _ => False

section Yields

variable {results : α → World → Prop}

/-- **Sequencing rule** after a part that returns. -/
theorem Ensures.after {next : α → Program Call Reply ε β} {post : Outcome ε β → World → Prop}
    (first : Ensures answers (Yields results) program world) (stops : ∀ world', post .crashed world')
    (rest : ∀ value world', results value world' → Ensures answers post (next value) world') :
    Ensures answers post (program >>= next) world := by
  refine Ensures.bind (first.mono fun outcome world' yields => ?_)
  cases outcome with
  | returned value => exact rest value world' yields
  | crashed => exact stops world'
  | thrown error | suspended => exact absurd yields id

theorem Ensures.yields_catching {handler : ε → Program Call Reply ε α}
    (first : Ensures answers (Yields results) program world) :
    Ensures answers (Yields results) (program.catching handler) world := by
  refine Ensures.catching (first.mono fun outcome world' yields => ?_)
  cases outcome with
  | returned value => exact yields
  | crashed => exact trivial
  | thrown error | suspended => exact absurd yields id

end Yields

theorem exists_runs (total : ∀ world call, ∃ reply world', answers world call reply world')
    (program : Program Call Reply ε α) (world : World) :
    ∃ outcome world', Runs answers program world outcome world' ∧ outcome ≠ .crashed := by
  induction program generalizing world with
  | returned value => exact ⟨_, _, .returned value world, by simp⟩
  | thrown error => exact ⟨_, _, .thrown error world, by simp⟩
  | suspended => exact ⟨_, _, .suspended world, by simp⟩
  | await call resume ih =>
    obtain ⟨reply, world', answered⟩ := total world call
    obtain ⟨outcome, world'', runs, uncrashed⟩ := ih reply world'
    exact ⟨outcome, world'', .await call resume reply answered runs, uncrashed⟩

def execute (answer : World → (call : Call) → Except String (Reply call) × World)
    (stops : World → Call → Bool) : Program Call Reply ε α → World → Outcome ε α × World
  | .returned value, world => (.returned value, world)
  | .thrown error, world => (.thrown error, world)
  | .suspended, world => (.suspended, world)
  | .await call resume, world =>
    if stops world call then (.crashed, world)
    else (resume (answer world call).1).execute answer stops (answer world call).2

theorem runs_execute {answer : World → (call : Call) → Except String (Reply call) × World}
    (lawful : ∀ world call, answers world call (answer world call).1 (answer world call).2)
    (stops : World → Call → Bool) (program : Program Call Reply ε α) (world : World) :
    Runs answers program world (program.execute answer stops world).1
      (program.execute answer stops world).2 := by
  induction program generalizing world with
  | returned value => exact .returned value world
  | thrown error => exact .thrown error world
  | suspended => exact .suspended world
  | await call resume ih =>
    unfold execute
    split
    · exact .crashedBefore call resume world
    · exact .await call resume _ (lawful world call) (ih _ _)

/-! ## Programs within an interface -/

inductive Within (allowed : Call → Prop) (values : α → Prop) : Program Call Reply ε α → Prop where
  | returned {value : α} (holds : values value) : Within allowed values (.returned value)
  | thrown {error : ε} : Within allowed values (.thrown error)
  | suspended : Within allowed values .suspended
  | await {call : Call} {resume : Except String (Reply call) → Program Call Reply ε α}
      (isAllowed : allowed call) (resumes : ∀ reply, Within allowed values (resume reply)) :
      Within allowed values (.await call resume)

variable {allowed : Call → Prop} {values : α → Prop}

theorem Within.bind {results : β → Prop} (within : program.Within allowed values)
    (rest : ∀ value, values value → (next value).Within allowed results) :
    (program >>= next).Within allowed results := by
  induction within with
  | returned holds => exact rest _ holds
  | thrown => exact .thrown
  | suspended => exact .suspended
  | await isAllowed resumes ih => exact .await isAllowed ih

theorem Within.catching {handler : ε → Program Call Reply ε α}
    (within : program.Within allowed values)
    (rest : ∀ error, (handler error).Within allowed values) :
    (program.catching handler).Within allowed values := by
  induction within with
  | returned holds => exact .returned holds
  | thrown => exact rest _
  | suspended => exact .suspended
  | await isAllowed resumes ih => exact .await isAllowed ih

theorem within_perform (allowed : Call → Prop) (raise : String → ε) {call : Call}
    (isAllowed : allowed call) :
    (perform raise call : Program Call Reply ε (Reply call)).Within allowed fun _ => True := by
  refine .await isAllowed fun reply => ?_
  cases reply with
  | error message => exact .thrown
  | ok reply => exact .returned trivial

theorem within_ofExcept (allowed : Call → Prop) (raise : String → ε) (check : Except String α) :
    (ofExcept raise check : Program Call Reply ε α).Within allowed fun value =>
      check = .ok value := by
  cases check with
  | error message => exact .thrown
  | ok value => exact .returned rfl

theorem Within.mono {allowed' : Call → Prop} {values' : α → Prop}
    (within : program.Within allowed values) (more : ∀ call, allowed call → allowed' call)
    (weaker : ∀ value, values value → values' value) : program.Within allowed' values' := by
  induction within with
  | returned holds => exact .returned (weaker _ holds)
  | thrown => exact .thrown
  | suspended => exact .suspended
  | await isAllowed resumes ih => exact .await (more _ isAllowed) ih

/-- **Frame rule.** What every allowed call keeps, a program within the interface keeps, wherever it
stops. -/
theorem Within.ensures {kept : World → Prop} (within : program.Within allowed values)
    (keeps : ∀ world call reply world', allowed call → kept world →
      answers world call reply world' → kept world')
    (start : kept world) :
    Ensures answers (Always kept fun value _ => values value) program world := by
  induction within generalizing world with
  | returned holds => exact ensures_always_returned start holds
  | thrown => exact ensures_always_thrown start
  | suspended => exact ensures_always_suspended start
  | await isAllowed resumes ih =>
    have after (reply) (world') (answered : answers world _ reply world') : kept world' :=
      keeps world _ reply world' isAllowed start answered
    exact ensures_always_await start after fun reply world' answered =>
      ih reply (after reply world' answered)

/-! ## Programs that make only some calls -/

def Only (allowed : Call → Prop) (program : Program Call Reply ε α) : Prop :=
  program.Within allowed fun _ => True

theorem only_pure (value : α) : (pure value : Program Call Reply ε α).Only allowed :=
  .returned trivial

theorem only_throw (error : ε) : (throw error : Program Call Reply ε α).Only allowed :=
  .thrown

theorem only_perform (raise : String → ε) {call : Call} (isAllowed : allowed call) :
    (perform raise call : Program Call Reply ε (Reply call)).Only allowed :=
  within_perform allowed raise isAllowed

theorem only_ofExcept (raise : String → ε) (check : Except String α) :
    (ofExcept raise check : Program Call Reply ε α).Only allowed :=
  (within_ofExcept allowed raise check).mono (fun _ isAllowed => isAllowed) fun _ _ => trivial

theorem Only.bind (only : program.Only allowed) (rest : ∀ value, (next value).Only allowed) :
    (program >>= next).Only allowed :=
  Within.bind only fun value _ => rest value

theorem Only.within {results : β → Prop} (only : program.Only allowed)
    (rest : ∀ value, (next value).Within allowed results) :
    (program >>= next).Within allowed results :=
  Within.bind only fun value _ => rest value

theorem Only.await {call : Call} {resume : Except String (Reply call) → Program Call Reply ε α}
    (isAllowed : allowed call) (rest : ∀ reply, (resume reply).Only allowed) :
    (Program.await call resume).Only allowed :=
  Within.await isAllowed rest

theorem Only.catching {handler : ε → Program Call Reply ε α} (only : program.Only allowed)
    (rest : ∀ error, (handler error).Only allowed) : (program.catching handler).Only allowed :=
  Within.catching only rest

theorem Only.mono {allowed' : Call → Prop} (only : program.Only allowed)
    (more : ∀ call, allowed call → allowed' call) : program.Only allowed' :=
  Within.mono only more fun _ _ => trivial

end Program

end Zero3Pilot
