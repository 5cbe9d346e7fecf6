import Zero3Pilot.Foundations.Fallible

/-! # What a procedure does to a part of the state

Most steps of a long procedure leave alone the part of the state an invariant speaks about, and the
others change it in few ways. A *view* of the state is that part. A procedure *moves* a view along a
preorder where the view before and the view after are related, whether the procedure returns or throws;
it *leaves* a view where the view stays as it is.

* `Procedure.Moves` — the preorder a view moves along, closed under the ways to form procedures.
* `Procedure.Leaves` — procedures that do not concern a view.
* `Procedure.Moves.ensures`, `Procedure.Leaves.ensures` — their use in weakest preconditions. -/

namespace Zero3Pilot.Procedure

universe u

variable {σ ε α β : Type} {ν : Type u} {view : σ → ν} {R S : ν → ν → Prop}

/-- **A procedure moves a view** of the state along a relation. -/
def Moves (view : σ → ν) (R : ν → ν → Prop) (procedure : Procedure σ ε α) : Prop :=
  ∀ state, procedure.Ensures (fun _ after => R (view state) (view after))
    (fun _ after => R (view state) (view after)) state

/-- **A procedure leaves a view** of the state as it is. -/
abbrev Leaves (view : σ → ν) (procedure : Procedure σ ε α) : Prop :=
  Moves view (fun before after => after = before) procedure

instance : IsPreorder ν fun before after : ν => after = before where
  refl _ := rfl
  trans _ _ _ first second := second.trans first

/-! ## Moves along a preorder -/

section Moves

variable [IsPreorder ν R] {procedure : Procedure σ ε α} {next : α → Procedure σ ε β}

theorem Leaves.moves (leaves : Leaves view procedure) : Moves view R procedure := by
  intro state
  refine (leaves state).mono (fun _ after same => ?_) fun _ after same => ?_
  · rw [same]
    exact refl_of R _
  · rw [same]
    exact refl_of R _

/-- **Sequencing**: a view that moves twice moves along the preorder. -/
theorem Moves.bind (first : Moves view R procedure) (second : ∀ value, Moves view R (next value)) :
    Moves view R (procedure >>= next) := by
  intro state
  rw [ensures_bind]
  refine (first state).mono (fun value between moved => ?_) fun _ after moved => moved
  refine (second value between).mono (fun _ after further => ?_) fun _ after further => ?_
  · exact trans_of R moved further
  · exact trans_of R moved further

theorem Moves.pure (value : α) : Moves view R (Pure.pure value : Procedure σ ε α) := by
  intro state
  rw [ensures_pure]
  exact refl_of R _

theorem Moves.fail (error : ε) : Moves view R (Procedure.fail error : Procedure σ ε α) := by
  intro state
  rw [ensures_fail]
  exact refl_of R _

theorem Moves.read : Moves view R (Procedure.read : Procedure σ ε σ) := by
  intro state
  rw [ensures_read]
  exact refl_of R _

theorem Moves.check (condition : Prop) [Decidable condition] (error : ε) :
    Moves view R (Procedure.check condition error) := by
  intro state
  rw [ensures_check]
  exact ⟨fun _ => refl_of R _, fun _ => refl_of R _⟩

theorem Moves.require (option : Option α) (error : ε) :
    Moves view R (Procedure.require option error) := by
  intro state
  rw [ensures_require]
  exact ⟨fun _ _ => refl_of R _, fun _ => refl_of R _⟩

theorem Moves.ofExcept (result : Except ε α) : Moves view R (Procedure.ofExcept result) := by
  intro state
  rw [ensures_ofExcept]
  exact ⟨fun _ _ => refl_of R _, fun _ _ => refl_of R _⟩

theorem Moves.transaction (moves : Moves view R procedure) :
    Moves view R (Procedure.transaction procedure) := by
  intro state
  rw [ensures_transaction]
  exact (moves state).mono (fun _ _ moved => moved) fun _ _ _ => refl_of R _

theorem Moves.forM {ι : Type} {items : List ι} {body : ι → Procedure σ ε PUnit}
    (pass : ∀ item ∈ items, Moves view R (body item)) : Moves view R (items.forM body) := by
  induction items with
  | nil => exact Moves.pure _
  | cons item items ih =>
    show Moves view R (body item >>= fun _ => items.forM body)
    exact (pass item List.mem_cons_self).bind fun _ =>
      ih fun later member => pass later (List.mem_cons_of_mem _ member)

end Moves

theorem Moves.ite {condition : Prop} [Decidable condition] {procedure other : Procedure σ ε α}
    (taken : condition → Moves view R procedure) (otherwise : ¬ condition → Moves view R other) :
    Moves view R (if condition then procedure else other) := by
  by_cases holds : condition
  · rw [if_pos holds]
    exact taken holds
  · rw [if_neg holds]
    exact otherwise holds

theorem Moves.attempt {procedure : Procedure σ ε α} (moves : Moves view R procedure) :
    Moves view R procedure.attempt := by
  intro state
  rw [ensures_attempt]
  exact moves state

theorem Moves.modify {change : σ → σ} (moved : ∀ state, R (view state) (view (change state))) :
    Moves view R (Procedure.modify change : Procedure σ ε Unit) := by
  intro state
  rw [ensures_modify]
  exact moved state

theorem Leaves.focus {τ : Type} {part : σ → τ} {replace : τ → σ → σ}
    (unseen : ∀ value state, view (replace value state) = view state)
    (procedure : Procedure τ ε α) : Leaves view (procedure.focus part replace) := by
  intro state
  rw [ensures_focus]
  refine (ensures_self procedure (part state)).mono (fun _ after _ => unseen after state)
    fun _ after _ => unseen after state

theorem Moves.focus {τ : Type} {μ : Type u} {part : σ → τ} {replace : τ → σ → σ} {inner : τ → μ}
    {Q : μ → μ → Prop} {procedure : Procedure τ ε α} (moves : Moves inner Q procedure)
    (seen : ∀ value state, Q (inner (part state)) (inner value) →
      R (view state) (view (replace value state))) :
    Moves view R (procedure.focus part replace) := by
  intro state
  rw [ensures_focus]
  exact (moves (part state)).mono (fun _ after moved => seen after state moved)
    fun _ after moved => seen after state moved

/-! ## Code that runs in several settings -/

theorem Moves.fallible_attempt {procedure : Procedure σ String α}
    (moves : Moves view R procedure) : Moves view R (Fallible.attempt procedure) :=
  moves.attempt

section Readings

variable [IsPreorder ν R] {procedure : Procedure σ String α}

theorem Moves.fallible_throw (message : String) :
    Moves view R (Fallible.throw message : Procedure σ String α) :=
  Moves.fail message

theorem Moves.fallible_check (condition : Prop) [Decidable condition] (message : String) :
    Moves view R (Fallible.check condition message : Procedure σ String Unit) :=
  Moves.check condition message

theorem Moves.fallible_ofExcept (result : Except String α) :
    Moves view R (Fallible.ofExcept result : Procedure σ String α) := by
  intro state
  rw [ensures_fallible_ofExcept]
  exact ⟨fun _ _ => refl_of R _, fun _ _ => refl_of R _⟩

theorem Moves.fallible_require (option : Option α) (message : String) :
    Moves view R (Fallible.require option message : Procedure σ String α) :=
  Moves.require option message

end Readings

/-! ## In weakest preconditions -/

section Uses

variable {procedure : Procedure σ ε α} {next : α → Procedure σ ε β} {state : σ}

theorem Moves.ensures {returns : α → σ → Prop} {throws : ε → σ → Prop}
    (moves : Moves view R procedure)
    (returned : ∀ value after, R (view state) (view after) → returns value after)
    (threw : ∀ error after, R (view state) (view after) → throws error after) :
    procedure.Ensures returns throws state :=
  (moves state).mono returned threw

theorem Moves.first {returns : β → σ → Prop} {throws : ε → σ → Prop}
    (moves : Moves view R procedure)
    (goesOn : ∀ value after, R (view state) (view after) → (next value).Ensures returns throws after)
    (threw : ∀ error after, R (view state) (view after) → throws error after) :
    (procedure >>= next).Ensures returns throws state := by
  rw [ensures_bind]
  exact moves.ensures goesOn threw

end Uses

end Zero3Pilot.Procedure
