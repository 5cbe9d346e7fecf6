import Mathlib.Data.List.Basic

/-! # UUIDs

The texts that `Uuid::new_v4` and `randomUUID` draw: 36 lowercase hexadecimal digits and hyphens. -/

namespace Zero3Pilot

def isUuidChar (char : Char) : Bool :=
  char.isDigit || ['a', 'b', 'c', 'd', 'e', 'f', '-'].contains char

structure Uuid where
  text : String
  plain : text.toList.all isUuidChar
  length : text.toList.length = 36

theorem isAlphanum_of_isUuidChar {char : Char} (uuidChar : isUuidChar char = true) :
    char.isAlphanum = true ∨ char = '-' := by
  simp only [isUuidChar, Bool.or_eq_true, List.contains_iff_mem] at uuidChar
  rcases uuidChar with digit | letter
  · simp [Char.isAlphanum, digit]
  · revert letter
    simp only [List.mem_cons, List.not_mem_nil, or_false]
    rintro (rfl | rfl | rfl | rfl | rfl | rfl | rfl) <;> decide

theorem utf8ByteSize_le (text : String) : text.utf8ByteSize ≤ 4 * text.toList.length := by
  induction text using String.push_induction with
  | empty => simp
  | push text char ih =>
    have short := char.utf8Size_le_four
    rw [String.utf8ByteSize_push, String.toList_push, List.length_append, List.length_singleton]
    omega

/-- `Uuid::simple`: the digits without the hyphens. -/
def Uuid.simple (uuid : Uuid) : String := String.ofList (uuid.text.toList.filter (· ≠ '-'))

end Zero3Pilot
