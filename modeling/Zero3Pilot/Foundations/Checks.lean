import Mathlib.Data.List.Forall2

/-! # Programs made of checks

Fallible code that validates its input is a sequence of checks, each of which refuses with an error
of its own. This file has the two basic checks, and the inversion lemmas that turn *the sequence
succeeded* into *every check passed*.

* `bind_ok` — a sequence succeeds exactly when its parts do.
* `ensure_ok`, `orError_ok` — when a condition, or the presence of a value, is checked
  successfully.
* `mapM_ok` — when every item of a list is. -/

namespace Zero3Pilot

variable {ε α β : Type}

def ensure (condition : Prop) [Decidable condition] (error : ε) : Except ε Unit :=
  if condition then .ok () else .error error

def orError (option : Option α) (error : ε) : Except ε α :=
  match option with
  | some value => .ok value
  | none => .error error

/-- **Sequencing.** A sequence succeeds exactly when its first part does and its second part does
on the first one's result. -/
@[simp] theorem bind_ok {first : Except ε α} {second : α → Except ε β} {result : β} :
    (first >>= second) = .ok result ↔ ∃ value, first = .ok value ∧ second value = .ok result := by
  cases first with
  | error error | ok value => simp [bind, Except.bind]

@[simp] theorem pure_ok {value result : α} :
    (pure value : Except ε α) = .ok result ↔ value = result := by
  simp [pure, Except.pure]

@[simp] theorem ensure_ok {condition : Prop} [Decidable condition] {error : ε} {result : Unit} :
    ensure condition error = .ok result ↔ condition := by
  by_cases holds : condition
  · simp [ensure, holds]
  · simp [ensure, holds]

@[simp] theorem orError_ok {option : Option α} {error : ε} {value : α} :
    orError option error = .ok value ↔ option = some value := by
  cases option with
  | none | some found => simp [orError]

/-- **Item by item.** A list is computed exactly when each of its values is. -/
theorem mapM_ok {compute : α → Except ε β} {items : List α} {values : List β} :
    items.mapM compute = .ok values ↔
      List.Forall₂ (fun item value => compute item = .ok value) items values := by
  induction items generalizing values with
  | nil => rw [List.mapM_nil, pure_ok, List.forall₂_nil_left_iff, eq_comm]
  | cons item items ih =>
    rw [List.mapM_cons, bind_ok, List.forall₂_cons_left_iff]
    constructor
    · rintro ⟨value, computed, rest⟩
      obtain ⟨others, mapped, returned⟩ := bind_ok.1 rest
      cases returned
      exact ⟨value, others, computed, ih.1 mapped, rfl⟩
    · rintro ⟨value, others, computed, mapped, rfl⟩
      exact ⟨value, computed, bind_ok.2 ⟨others, ih.2 mapped, rfl⟩⟩

theorem mem_of_mapM_ok {compute : α → Except ε β} {items : List α} {values : List β}
    (computed : items.mapM compute = .ok values) {item : α} (member : item ∈ items) :
    ∃ value ∈ values, compute item = .ok value := by
  have each := mapM_ok.1 computed
  induction each with
  | nil => cases member
  | cons first rest ih =>
    rename_i head value tail values
    rcases List.mem_cons.1 member with rfl | later
    · exact ⟨value, List.mem_cons_self, first⟩
    · obtain ⟨found, among, same⟩ := ih (mapM_ok.2 rest) later
      exact ⟨found, List.mem_cons_of_mem _ among, same⟩

end Zero3Pilot
