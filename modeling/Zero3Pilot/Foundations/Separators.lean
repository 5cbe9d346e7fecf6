import Mathlib.Data.List.Basic

/-! # Joining with a separator

A text is made of parts and a last part that is not empty, with a separator between them. The parts
can be told from the text if none of them has the separator in it, and the last part at its end at
most. Where that fails, one of the separators can be moved, and the text is that of other parts.

* `joined_unique_iff` — when a text is that of no other parts. -/

namespace Zero3Pilot

variable {α : Type} {separator : α} {first first' rest rest' last last' : List α}
  {parts parts' : List (List α)}

theorem separator_injective (absent : separator ∉ first) (absent' : separator ∉ first')
    (same : first ++ separator :: rest = first' ++ separator :: rest') :
    first = first' ∧ rest = rest' := by
  induction first generalizing first' with
  | nil =>
    cases first' with
    | nil => exact ⟨rfl, (List.cons.inj same).2⟩
    | cons item first' =>
      simp only [List.mem_cons, not_or] at absent'
      exact absurd (List.cons.inj same).1 absent'.1
  | cons item first ih =>
    cases first' with
    | nil =>
      simp only [List.mem_cons, not_or] at absent
      exact absurd (List.cons.inj same).1.symm absent.1
    | cons item' first' =>
      obtain ⟨rfl, later⟩ := List.cons.inj same
      simp only [List.mem_cons, not_or] at absent absent'
      obtain ⟨rfl, rfl⟩ := ih absent.2 absent'.2 later
      exact ⟨rfl, rfl⟩

/-- **Parts joined with a separator.** -/
def joined (separator : α) : List (List α) → List α → List α
  | [], last => last
  | part :: parts, last => part ++ separator :: joined separator parts last

theorem forall_mem_joined {p : α → Prop} (isSeparator : p separator) :
    (∀ item ∈ joined separator parts last, p item) ↔
      (∀ part ∈ parts, ∀ item ∈ part, p item) ∧ ∀ item ∈ last, p item := by
  induction parts with
  | nil => simp [joined]
  | cons part parts ih =>
    simp only [joined, List.forall_mem_append, List.forall_mem_cons, ih, isSeparator, true_and,
      and_assoc]

theorem getLast?_joined {item : α} :
    (joined separator parts (last ++ [item])).getLast? = some item := by
  induction parts with
  | nil => rw [joined, List.getLast?_concat]
  | cons part parts ih =>
    rw [joined, List.getLast?_append, List.getLast?_cons, ih]
    rfl

section Counting

variable [DecidableEq α]

theorem le_count_joined :
    parts.length + last.count separator ≤ (joined separator parts last).count separator := by
  induction parts with
  | nil => simp [joined]
  | cons part parts ih =>
    rw [joined, List.count_append, List.count_cons_self, List.length_cons]
    omega

theorem count_joined (absent : ∀ part ∈ parts, separator ∉ part) :
    (joined separator parts last).count separator = parts.length + last.count separator := by
  induction parts with
  | nil => simp [joined]
  | cons part parts ih =>
    obtain ⟨here, later⟩ := List.forall_mem_cons.1 absent
    rw [joined, List.count_append, List.count_cons_self, List.length_cons, ih later,
      List.count_eq_zero.2 here]
    omega

theorem joined_ne_append (absent : ∀ part ∈ parts, separator ∉ part)
    (final : separator ∉ last.dropLast) (nonempty : last ≠ []) (nonempty' : last' ≠ [])
    (length : parts'.length = parts.length) :
    joined separator parts last ≠ first ++ separator :: joined separator parts' last' := by
  intro same
  obtain ⟨init, item, rfl⟩ := (List.eq_nil_or_concat' last).resolve_left nonempty
  obtain ⟨init', item', rfl⟩ := (List.eq_nil_or_concat' last').resolve_left nonempty'
  have counts := congrArg (List.count separator) same
  have least := @le_count_joined _ separator (init' ++ [item']) parts' _
  rw [List.dropLast_concat] at final
  rw [count_joined absent, List.count_append, List.count_append, List.count_cons_self,
    List.count_eq_zero.2 final] at counts
  rw [List.count_append] at least
  -- both texts end with the same item, which is a separator in the one and none in the other
  have ends := congrArg List.getLast? same
  rw [getLast?_joined, List.getLast?_append, List.getLast?_cons, getLast?_joined] at ends
  obtain rfl : item = item' := by simpa using ends
  omega

end Counting

/-- **When a text is that of no other parts.** -/
theorem joined_unique (absent : ∀ part ∈ parts, separator ∉ part) (final : separator ∉ last.dropLast)
    (nonempty : last ≠ []) (nonempty' : last' ≠ []) (length : parts'.length = parts.length)
    (same : joined separator parts last = joined separator parts' last') :
    parts = parts' ∧ last = last' := by
  classical
  induction parts generalizing parts' with
  | nil =>
    obtain rfl := List.length_eq_zero_iff.1 length
    exact ⟨rfl, same⟩
  | cons part parts ih =>
    obtain ⟨here, later⟩ := List.forall_mem_cons.1 absent
    obtain ⟨part', parts', rfl⟩ := List.exists_cons_of_length_eq_add_one length
    have shorter : parts'.length = parts.length := by simpa using length
    by_cases free : separator ∈ part'
    · obtain ⟨front, back, rfl, notBefore⟩ := List.eq_append_cons_of_mem free
      rw [joined, joined, List.append_assoc, List.cons_append] at same
      obtain ⟨-, rests⟩ := separator_injective here notBefore same
      exact (joined_ne_append later final nonempty nonempty' shorter rests).elim
    · obtain ⟨rfl, rests⟩ := separator_injective here free same
      obtain ⟨rfl, rfl⟩ := ih later shorter rests
      exact ⟨rfl, rfl⟩

theorem exists_joined (some_part : parts ≠ []) (nonempty : last ≠ [])
    (surplus : (∃ part ∈ parts, separator ∈ part) ∨ separator ∈ last.dropLast) :
    ∃ parts' last', parts'.length = parts.length ∧ last' ≠ [] ∧
      joined separator parts' last' = joined separator parts last ∧ (parts', last') ≠ (parts, last) := by
  induction parts with
  | nil => exact absurd rfl some_part
  | cons part parts ih =>
    by_cases here : separator ∈ part
    · obtain ⟨front, back, rfl⟩ := List.append_of_mem here
      cases parts with
      | nil => exact ⟨[front], back ++ separator :: last, rfl, by simp, by simp [joined], by simp⟩
      | cons next parts =>
        exact ⟨front :: (back ++ separator :: next) :: parts, last, rfl, nonempty,
          by simp [joined], by simp⟩
    · have later : (∃ part ∈ parts, separator ∈ part) ∨ separator ∈ last.dropLast := by
        simpa [here] using surplus
      by_cases only : parts = []
      · subst only
        obtain ⟨init, item, rfl⟩ := (List.eq_nil_or_concat' last).resolve_left nonempty
        have inInit : separator ∈ init := by simpa using later
        obtain ⟨front, back, rfl⟩ := List.append_of_mem inInit
        exact ⟨[part ++ separator :: front], back ++ [item], rfl, by simp, by simp [joined], by simp⟩
      · obtain ⟨parts', last', length, nonempty', same, differs⟩ := ih only later
        exact ⟨part :: parts', last', by simp [length], nonempty', by simp [joined, same],
          by simpa using differs⟩

end Zero3Pilot
