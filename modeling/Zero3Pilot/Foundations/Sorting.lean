import Mathlib.Data.List.Basic
import Mathlib.Data.List.Pairwise

/-! # Sorting by a comparator

A sort by a comparator does what is expected of it on a list as soon as the comparator is a strict
weak order *on that list*; what it does with other elements is irrelevant. Here a comparator answers
with an `Ordering`, and only ever swaps its answer when its arguments are swapped.

* `StrictWeakOrderOn` — a strict weak order on the elements of a list.
* `pairwise_mergeSort` — the list is then sorted by the comparator.
* `pair_sublist_or` — two members of a list stand in it in one order or the other. -/

namespace Zero3Pilot

variable {α : Type}

/-- **A strict weak order on the elements of a list**: irreflexive, transitive, with transitive
incomparability. -/
structure StrictWeakOrderOn (less : α → α → Prop) (elements : List α) : Prop where
  irrefl : ∀ a ∈ elements, ¬ less a a
  trans : ∀ a ∈ elements, ∀ b ∈ elements, ∀ c ∈ elements, less a b → less b c → less a c
  incomparable : ∀ a ∈ elements, ∀ b ∈ elements, ∀ c ∈ elements,
    ¬ less a b → ¬ less b a → ¬ less b c → ¬ less c b → ¬ less a c ∧ ¬ less c a

theorem StrictWeakOrderOn.not_less_trans {less : α → α → Prop} {elements : List α}
    (order : StrictWeakOrderOn less elements) {a b c : α} (ha : a ∈ elements) (hb : b ∈ elements)
    (hc : c ∈ elements) (notBA : ¬ less b a) (notCB : ¬ less c b) : ¬ less c a := by
  intro lessCA
  -- `a` and `b` are incomparable, as are `b` and `c`; hence so are `a` and `c`
  have notAB : ¬ less a b := fun lessAB => notCB (order.trans c hc a ha b hb lessCA lessAB)
  have notBC : ¬ less b c := fun lessBC => notBA (order.trans b hb c hc a ha lessBC lessCA)
  exact (order.incomparable a ha b hb c hc notAB notBA notBC notCB).2 lessCA

variable {comparator : α → α → Ordering} {elements : List α}

/-- **A sort by a comparator that is a strict weak order on the list sorts it.** -/
theorem pairwise_mergeSort (swap : ∀ a b, comparator a b = (comparator b a).swap)
    (order : StrictWeakOrderOn (fun a b => comparator a b = .lt) elements) :
    (elements.mergeSort fun a b => comparator a b ≠ .gt).Pairwise
      fun a b => comparator a b ≠ .gt := by
  -- sort the members, where the comparator is an order throughout, and forget the membership
  let member (a b : {a // a ∈ elements}) : Bool := comparator a.1 b.1 ≠ .gt
  have notGt (a b : α) : comparator a b ≠ .gt ↔ ¬ comparator b a = .lt := by
    rw [swap a b, ne_eq, Ordering.swap_eq_gt]
  have trans : ∀ a b c : {a // a ∈ elements}, member a b → member b c → member a c := by
    intro a b c lessAB lessBC
    simp only [member, decide_eq_true_eq, notGt] at lessAB lessBC ⊢
    exact order.not_less_trans a.2 b.2 c.2 lessAB lessBC
  have total : ∀ a b : {a // a ∈ elements}, (member a b || member b a) = true := by
    intro a b
    simp only [member, Bool.or_eq_true, decide_eq_true_eq]
    rw [swap b.1 a.1]
    cases comparator a.1 b.1 <;> decide
  have sorted := List.pairwise_mergeSort trans total elements.attach
  have forgotten : (elements.attach.mergeSort member).map (·.1) =
      elements.mergeSort fun a b => comparator a b ≠ .gt := by
    rw [List.map_mergeSort (s := fun a b => comparator a b ≠ .gt) fun _ _ _ _ => rfl,
      List.attach_map_subtype_val]
  rw [← forgotten, List.pairwise_map]
  exact sorted.imp fun holds => by simpa [member] using holds

theorem pair_sublist_or {a b : α} (ha : a ∈ elements) (hb : b ∈ elements) (different : a ≠ b) :
    [a, b].Sublist elements ∨ [b, a].Sublist elements := by
  induction elements with
  | nil => cases ha
  | cons first rest ih =>
    rcases List.mem_cons.1 ha with rfl | laterA
    · rcases List.mem_cons.1 hb with rfl | laterB
      · exact absurd rfl different
      · exact .inl (List.cons_sublist_cons.2 (List.singleton_sublist.2 laterB))
    · rcases List.mem_cons.1 hb with rfl | laterB
      · exact .inr (List.cons_sublist_cons.2 (List.singleton_sublist.2 laterA))
      · exact (ih laterA laterB).imp (fun sub => sub.cons first) fun sub => sub.cons first

end Zero3Pilot
