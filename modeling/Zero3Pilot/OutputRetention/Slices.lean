import Zero3Pilot.Foundations.PrettyJson

/-! # Slices of a text

A text is a list of characters here, and a place in it is counted in bytes, as the slices of a `&str`
are. Only the places between two characters are boundaries. -/

namespace Zero3Pilot.OutputRetention

open Json (bytes bytes_cons bytes_append)

/-- `text.is_char_boundary(index)`. -/
def isCharBoundary : List Char → Nat → Bool
  | [], index => index = 0
  | c :: text, index => index = 0 || c.utf8Size ≤ index && isCharBoundary text (index - c.utf8Size)

/-- `&text[index..]`, where the index is a boundary. -/
def sliceFrom : List Char → Nat → List Char
  | [], _ => []
  | c :: text, index => if index = 0 then c :: text else sliceFrom text (index - c.utf8Size)

/-- `&text[..index]`, where the index is a boundary. -/
def sliceTo : List Char → Nat → List Char
  | [], _ => []
  | c :: text, index =>
    if c.utf8Size ≤ index then c :: sliceTo text (index - c.utf8Size) else []

/-- A boundary stands behind a beginning of the text. -/
theorem isCharBoundary_iff {text : List Char} {index : Nat} :
    isCharBoundary text index = true ↔ ∃ before, before <+: text ∧ bytes before = index := by
  induction text generalizing index with
  | nil => simp [isCharBoundary, eq_comm]
  | cons c text ih =>
    simp only [isCharBoundary, Bool.or_eq_true, decide_eq_true_eq, Bool.and_eq_true, ih]
    constructor
    · rintro (rfl | ⟨fits, before, isPrefix, size⟩)
      · exact ⟨[], List.nil_prefix, rfl⟩
      · exact ⟨c :: before, List.cons_prefix_cons.2 ⟨rfl, isPrefix⟩, by rw [bytes_cons]; omega⟩
    · rintro ⟨before, isPrefix, rfl⟩
      cases before with
      | nil => exact Or.inl rfl
      | cons first before =>
        obtain ⟨rfl, shorter⟩ := List.cons_prefix_cons.1 isPrefix
        exact Or.inr ⟨Nat.le_add_right _ _, before, shorter, by rw [bytes_cons]; omega⟩

theorem sliceFrom_append (before rest : List Char) :
    sliceFrom (before ++ rest) (bytes before) = rest := by
  induction before with
  | nil => cases rest <;> simp [sliceFrom]
  | cons c before ih =>
    have positive := c.utf8Size_pos
    rw [List.cons_append, sliceFrom, bytes_cons, if_neg (by omega), Nat.add_sub_cancel_left, ih]

theorem sliceTo_append (before rest : List Char) :
    sliceTo (before ++ rest) (bytes before) = before := by
  induction before with
  | nil =>
    cases rest with
    | nil => rfl
    | cons c rest => exact if_neg (Nat.not_le.2 c.utf8Size_pos)
  | cons c before ih =>
    rw [List.cons_append, sliceTo, bytes_cons, if_pos (Nat.le_add_right _ _),
      Nat.add_sub_cancel_left, ih]

theorem bytes_eq_zero {text : List Char} : bytes text = 0 ↔ text = [] := by
  cases text with
  | nil => simp
  | cons c text =>
    have positive := c.utf8Size_pos
    simp only [bytes_cons, reduceCtorEq, iff_false]
    omega

/-- Two beginnings of a text go on from the shorter one. -/
theorem prefix_of_bytes_le {text first second : List Char} (isFirst : first <+: text)
    (isSecond : second <+: text) (le : bytes first ≤ bytes second) : first <+: second := by
  rcases List.prefix_or_prefix_of_prefix isFirst isSecond with shorter | ⟨more, longer⟩
  · exact shorter
  · -- the first one is at most as long, so there is no more of it
    have size : bytes second + bytes more = bytes first := by rw [← bytes_append, longer]
    have none_ : more = [] := bytes_eq_zero.1 (by omega)
    rw [none_, List.append_nil] at longer
    exact longer ▸ List.prefix_refl second

end Zero3Pilot.OutputRetention
