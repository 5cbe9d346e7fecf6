import Mathlib.Data.List.Basic

/-! # Windows over the newest items

A log that keeps its newest items only: each addition at the end may push the oldest item out.

* `newest` — the newest items.
* `newest_sublist` — what holds of all items, or of each pair of them in order, holds of the newest.
* `Kept` — an item outlasts a number of additions; `kept_push`, `kept_added`. -/

namespace Zero3Pilot

variable {α : Type*}

def newest (limit : Nat) (items : List α) : List α := items.drop (items.length - limit)

theorem newest_sublist (limit : Nat) (items : List α) : (newest limit items).Sublist items :=
  List.drop_sublist _ _

theorem mem_of_mem_newest {limit : Nat} {items : List α} {item : α}
    (member : item ∈ newest limit items) : item ∈ items :=
  (newest_sublist limit items).subset member

theorem newest_eq_self {limit : Nat} {items : List α} (room : items.length ≤ limit) :
    newest limit items = items := by
  have none : items.length - limit = 0 := by omega
  rw [newest, none, List.drop_zero]

theorem length_newest_le (limit : Nat) (items : List α) : (newest limit items).length ≤ limit := by
  rw [newest, List.length_drop]
  omega

theorem newest_map {β : Type*} (f : α → β) (limit : Nat) (items : List α) :
    newest limit (items.map f) = (newest limit items).map f := by
  rw [newest, newest, List.length_map, List.map_drop]

@[simp] theorem newest_newest (limit : Nat) (items : List α) :
    newest limit (newest limit items) = newest limit items :=
  newest_eq_self (length_newest_le limit items)

def Kept (limit more : Nat) (items : List α) (item : α) : Prop :=
  item ∈ items.drop (items.length + more - limit)

theorem Kept.fewer {limit more less : Nat} {items : List α} {item : α}
    (kept : Kept limit more items item) (fewer : less ≤ more) : Kept limit less items item := by
  unfold Kept at *
  have split : items.length + more - limit = (items.length + less - limit) +
        ((items.length + more - limit) - (items.length + less - limit)) := by omega
  rw [split, ← List.drop_drop] at kept
  exact List.mem_of_mem_drop kept

/-- **One addition.** What outlasts one more addition outlasts the rest after it. -/
theorem kept_push {limit more : Nat} {items : List α} {item : α} (added : α)
    (kept : Kept limit (more + 1) items item) :
    Kept limit more (newest limit (items ++ [added])) item := by
  unfold Kept newest at *
  -- the window has moved by what was pushed out, and there is that much less to push out
  have count : items.length + 1 - limit +
      (items.length + 1 - (items.length + 1 - limit) + more - limit) =
      items.length + (more + 1) - limit := by omega
  rw [List.length_drop, List.drop_drop, List.length_append, List.length_singleton, count,
    List.drop_append]
  exact List.mem_append_left _ kept

theorem kept_added {limit more : Nat} (items : List α) (added : α) (room : more < limit) :
    Kept limit more (newest limit (items ++ [added])) added := by
  unfold Kept newest
  rw [List.length_drop, List.drop_drop, List.length_append, List.length_singleton,
    List.drop_append_of_le_length (by omega)]
  simp

end Zero3Pilot
