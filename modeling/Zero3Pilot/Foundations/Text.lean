import Mathlib.Data.List.DropRight

/-! # Trimming text

White space as the two languages of the repository see it, and trimming by either notion. Rust's
`str::trim` removes the characters with the Unicode `White_Space` property; JavaScript's
`String.prototype.trim` removes its own white space and line terminators. The two sets differ in
exactly two characters. Trimming is idempotent (`trimWith_trimWith`). -/

namespace Zero3Pilot

/-- The white space both languages know. -/
def isCommonWhitespace (char : Char) : Bool :=
  (0x09 ≤ char.toNat && char.toNat ≤ 0x0D) || char.toNat = 0x20 || char.toNat = 0xA0 ||
    char.toNat = 0x1680 || (0x2000 ≤ char.toNat && char.toNat ≤ 0x200A) ||
    char.toNat = 0x2028 || char.toNat = 0x2029 || char.toNat = 0x202F || char.toNat = 0x205F ||
    char.toNat = 0x3000

def isUnicodeWhitespace (char : Char) : Bool :=
  isCommonWhitespace char || char.toNat = 0x85

/-- The white space and line terminators of ECMAScript. -/
def isScriptWhitespace (char : Char) : Bool :=
  isCommonWhitespace char || char.toNat = 0xFEFF

theorem bounds_of_isAlphanum {char : Char} (alphanum : char.isAlphanum = true) :
    0x20 < char.toNat ∧ char.toNat < 0x80 := by
  delta Char.isAlphanum Char.isAlpha Char.isUpper Char.isLower at alphanum
  simp only [Char.isDigit, Bool.or_eq_true, Bool.and_eq_true, decide_eq_true_eq,
    UInt32.le_iff_toNat_le] at alphanum
  have isVal : char.toNat = char.val.toNat := rfl
  rcases alphanum with (upper | lower) | digit
  · have bounds : 65 ≤ char.val.toNat ∧ char.val.toNat ≤ 90 := upper
    omega
  · have bounds : 97 ≤ char.val.toNat ∧ char.val.toNat ≤ 122 := lower
    omega
  · have bounds : 48 ≤ char.val.toNat ∧ char.val.toNat ≤ 57 := digit
    omega

variable (blank : Char → Bool)

def trimWith (text : String) : String :=
  String.ofList ((text.toList.dropWhile blank).rdropWhile blank)

theorem dropWhile_rdropWhile (chars : List Char) :
    ((chars.dropWhile blank).rdropWhile blank).dropWhile blank =
      (chars.dropWhile blank).rdropWhile blank := by
  rw [List.dropWhile_eq_self_iff]
  intro nonempty isBlank
  -- what remains is a prefix of the text without leading blanks, so it starts as that does
  have isPrefix := List.rdropWhile_prefix blank (chars.dropWhile blank)
  have sameHead := isPrefix.getElem nonempty
  have notBlank := List.dropWhile_get_zero_not blank chars
    (Nat.lt_of_lt_of_le nonempty isPrefix.length_le)
  rw [sameHead] at isBlank
  exact notBlank isBlank

/-- **Trimming is idempotent.** -/
theorem trimWith_trimWith (text : String) :
    trimWith blank (trimWith blank text) = trimWith blank text := by
  rw [trimWith, trimWith, String.toList_ofList, dropWhile_rdropWhile, List.rdropWhile_idempotent]

theorem trimWith_eq_self {blank : Char → Bool} {text : String}
    (unblank : ∀ char ∈ text.toList, blank char = false) : trimWith blank text = text := by
  have first : text.toList.dropWhile blank = text.toList := by
    rw [List.dropWhile_eq_self_iff]
    intro nonempty isBlank
    rw [unblank _ (List.getElem_mem nonempty)] at isBlank
    cases isBlank
  have last : text.toList.rdropWhile blank = text.toList := by
    rw [List.rdropWhile_eq_self_iff]
    intro nonempty isBlank
    rw [unblank _ (List.getLast_mem nonempty)] at isBlank
    cases isBlank
  rw [trimWith, first, last, String.ofList_toList]

theorem trimWith_eq_empty (text : String) :
    trimWith blank text = "" ↔ ∀ char ∈ text.toList, blank char := by
  rw [trimWith, ← String.toList_inj, String.toList_ofList, String.toList_empty,
    List.rdropWhile_eq_nil_iff]
  constructor
  · intro every
    have gone : text.toList.dropWhile blank = [] := by
      cases kept : text.toList.dropWhile blank with
      | nil => rfl
      | cons first rest =>
        have notBlank := List.dropWhile_get_zero_not blank text.toList (by simp [kept])
        rw [kept] at every
        simp [kept, every first (by simp)] at notBlank
    exact List.dropWhile_eq_nil_iff.1 gone
  · intro every char member
    exact every char (List.dropWhile_sublist blank |>.subset member)

end Zero3Pilot
