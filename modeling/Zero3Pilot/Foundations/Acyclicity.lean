import Mathlib.Data.Set.Finite.List

/-! # Relations without a cycle

Items depend on each other without a cycle where no item is reached from itself. New items may then
depend on the old ones and, without a cycle, on each other; and among finitely many items one does
not depend on any of them. -/

namespace Zero3Pilot

universe u

variable {α : Type u} {R S : α → α → Prop}

/-- **No item is reached from itself.** -/
def Acyclic (R : α → α → Prop) : Prop := ∀ item, ¬ Relation.TransGen R item item

theorem Acyclic.mono (acyclic : Acyclic S) (fewer : ∀ item other, R item other → S item other) :
    Acyclic R := fun item cycle => acyclic item (Relation.TransGen.mono fewer item item cycle)

theorem Acyclic.extend (isNew : α → Prop) (acyclic : Acyclic R)
    (between : ∀ item other, R item other → ¬ isNew item ∧ ¬ isNew other)
    (fresh : ∀ item other, S item other → isNew item)
    (acyclic' : Acyclic fun item other => S item other ∧ isNew other) :
    Acyclic fun item other => R item other ∨ S item other := by
  intro item cycle
  by_cases added : isNew item
  · -- what a new item reaches among the new ones it reaches through them
    have within (other : α) (reached : Relation.TransGen (fun item other => R item other ∨ S item other)
        item other) : isNew other →
          Relation.TransGen (fun item other => S item other ∧ isNew other) item other := by
      induction reached with
      | single edge =>
        intro newer
        rcases edge with old | edge
        · exact absurd newer (between _ _ old).2
        · exact .single ⟨edge, newer⟩
      | tail _ edge ih =>
        intro newer
        rcases edge with old | edge
        · exact absurd newer (between _ _ old).2
        · exact (ih (fresh _ _ edge)).tail ⟨edge, newer⟩
    exact acyclic' item (within item cycle added)
  · -- an old item reaches only old ones
    have within (other : α) (reached : Relation.TransGen (fun item other => R item other ∨ S item other)
        item other) : Relation.TransGen R item other ∧ ¬ isNew other := by
      induction reached with
      | single edge =>
        rcases edge with old | edge
        · exact ⟨.single old, (between _ _ old).2⟩
        · exact absurd (fresh _ _ edge) added
      | tail _ edge ih =>
        rcases edge with old | edge
        · exact ⟨ih.1.tail old, (between _ _ old).2⟩
        · exact absurd (fresh _ _ edge) ih.2
    exact acyclic item (within item cycle).1

theorem Acyclic.exists_least (acyclic : Acyclic R) {items : List α} (nonempty : items ≠ []) :
    ∃ item ∈ items, ∀ other ∈ items, ¬ R item other := by
  have : Finite {item // item ∈ items} := (List.finite_toSet items).to_subtype
  let below (item other : {item // item ∈ items}) : Prop := Relation.TransGen R other.1 item.1
  have : IsTrans _ below := ⟨fun _ _ _ first second => second.trans first⟩
  have : Std.Irrefl below := ⟨fun item => acyclic item.1⟩
  obtain ⟨first, member⟩ := List.exists_mem_of_ne_nil items nonempty
  obtain ⟨least, -, minimal⟩ := (Finite.wellFounded_of_trans_of_irrefl below).has_min Set.univ
    ⟨⟨first, member⟩, trivial⟩
  exact ⟨least.1, least.2, fun other member' edge =>
    minimal ⟨other, member'⟩ trivial (.single edge)⟩

end Zero3Pilot
