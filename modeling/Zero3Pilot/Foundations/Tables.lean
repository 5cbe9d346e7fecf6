import Mathlib.Data.List.Basic

/-! # Tables

A map whose order matters is the list of its entries; no two of them have the same key.

* `lookup_of_mem` — an entry of a table is found under its key.
* `mem_of_lookup` — what is found is an entry.
* `lookup_filter_ne` — removing another key leaves what is found.
* `update_some` — what is found after an update is new, or was found before. -/

namespace Zero3Pilot

universe u v

variable {Key : Type u} {Value : Type v}

theorem update_some [DecidableEq Key] {map : Key → Option Value} {key other : Key}
    {value : Option Value} {entry : Value}
    (found : Function.update map key value other = some entry) :
    other = key ∧ value = some entry ∨ other ≠ key ∧ map other = some entry := by
  by_cases same : other = key
  · subst same
    rw [Function.update_self] at found
    exact Or.inl ⟨rfl, found⟩
  · rw [Function.update_of_ne same] at found
    exact Or.inr ⟨same, found⟩

variable [BEq Key] [LawfulBEq Key]

/-- **An entry of a table** is found under its key. -/
theorem lookup_of_mem {table : List (Key × Value)} (distinct : (table.map (·.1)).Nodup)
    {entry : Key × Value} (member : entry ∈ table) : table.lookup entry.1 = some entry.2 := by
  induction table with
  | nil => cases member
  | cons first table ih =>
    rw [List.map_cons, List.nodup_cons] at distinct
    rw [List.lookup_cons]
    rcases List.mem_cons.1 member with rfl | member
    · rw [beq_self_eq_true]
    · -- the key of a later entry is not the first one
      have differs : (entry.1 == first.1) = false := by
        refine beq_false_of_ne fun same => distinct.1 ?_
        have isKey : entry.1 ∈ table.map (·.1) := List.mem_map_of_mem member
        exact same ▸ isKey
      rw [differs]
      exact ih distinct.2 member

/-- **What is found** under a key is an entry of the table. -/
theorem mem_of_lookup {table : List (Key × Value)} {key : Key} {value : Value}
    (found : table.lookup key = some value) : (key, value) ∈ table := by
  obtain ⟨before, later, split, -⟩ := List.lookup_eq_some_iff.1 found
  rw [split]
  exact List.mem_append_right before List.mem_cons_self

theorem lookup_filter_ne [DecidableEq Key] {table : List (Key × Value)} {key other : Key}
    (differs : key ≠ other) :
    (table.filter fun entry => entry.1 ≠ other).lookup key = table.lookup key := by
  induction table with
  | nil => rfl
  | cons first table ih =>
    rw [List.filter_cons]
    by_cases removed : first.1 = other
    · -- the entry that is removed has another key
      have unlike : (key == first.1) = false := beq_false_of_ne (removed ▸ differs)
      rw [if_neg (by simpa using removed), List.lookup_cons, unlike]
      exact ih
    · rw [if_pos (by simpa using removed), List.lookup_cons, List.lookup_cons, ih]

end Zero3Pilot
