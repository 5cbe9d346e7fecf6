import Mathlib.Data.List.Basic

/-! # Texts of lines

Files that are written line by line, each line ended by a newline, and read as a whole. A write that
is interrupted leaves the beginning of a line behind, which ends the file without a newline.

* `lines` — the lines of a text, as `str::lines` and `split(/\r?\n/)` find them.
* `logText` — the text of some lines, each one ended.
* `lines_logText` — the lines of such a text, with or without the beginning of another one.
* `splitOn_terminated` — fields that each end with a separator are found by splitting. -/

namespace Zero3Pilot

/-- The lines of a text: each one ends at a newline, with or without a carriage return before it, or
at the end of the text. -/
def lines : List Char → List (List Char)
  | [] => []
  | '\n' :: rest => [] :: lines rest
  | '\r' :: '\n' :: rest => [] :: lines rest
  | c :: rest =>
    match lines rest with
    | [] => [[c]]
    | line :: more => (c :: line) :: more

def logText (lines : List (List Char)) : List Char := lines.flatMap fun line => line ++ ['\n']

@[simp] theorem logText_nil : logText [] = [] := rfl

@[simp] theorem logText_cons (line : List Char) (lines : List (List Char)) :
    logText (line :: lines) = line ++ '\n' :: logText lines := by
  simp [logText]

theorem logText_append (first second : List (List Char)) :
    logText (first ++ second) = logText first ++ logText second := by
  rw [logText, logText, logText, List.flatMap_append]

def IsLine (line : List Char) : Prop := '\n' ∉ line ∧ '\r' ∉ line

theorem lines_cons {c : Char} (newline : c ≠ '\n') (carriage : c ≠ '\r') (rest : List Char) :
    lines (c :: rest) =
      match lines rest with
      | [] => [[c]]
      | line :: more => (c :: line) :: more := by
  rw [lines.eq_def]
  split
  · rename_i same
    cases same
  · rename_i same
    cases same
    exact absurd rfl newline
  · rename_i same
    cases same
    exact absurd rfl carriage
  · rename_i same
    cases same
    rfl

theorem lines_line {line : List Char} (isLine : IsLine line) (rest : List Char) :
    lines (line ++ '\n' :: rest) = line :: lines rest := by
  induction line with
  | nil => rfl
  | cons c line ih =>
    obtain ⟨newline, carriage⟩ := isLine
    rw [List.mem_cons, not_or] at newline carriage
    rw [List.cons_append, lines_cons (Ne.symm newline.1) (Ne.symm carriage.1),
      ih ⟨newline.2, carriage.2⟩]

theorem lines_tail {line : List Char} (isLine : IsLine line) (nonempty : line ≠ []) :
    lines line = [line] := by
  induction line with
  | nil => exact absurd rfl nonempty
  | cons c line ih =>
    obtain ⟨newline, carriage⟩ := isLine
    rw [List.mem_cons, not_or] at newline carriage
    rw [lines_cons (Ne.symm newline.1) (Ne.symm carriage.1)]
    cases line with
    | nil => rfl
    | cons d line => rw [ih ⟨newline.2, carriage.2⟩ (List.cons_ne_nil _ _)]

/-- **The lines of a text of lines**, and of what follows them. -/
theorem lines_logText {texts : List (List Char)} (areLines : ∀ text ∈ texts, IsLine text)
    (rest : List Char) : lines (logText texts ++ rest) = texts ++ lines rest := by
  induction texts with
  | nil => rfl
  | cons text texts ih =>
    rw [List.forall_mem_cons] at areLines
    rw [logText_cons, List.append_assoc, List.cons_append, lines_line areLines.1, ih areLines.2,
      List.cons_append]

theorem IsLine.of_start {line start : List Char} (isLine : IsLine line) (begins : start <+: line) :
    IsLine start :=
  ⟨fun member => isLine.1 (begins.subset member), fun member => isLine.2 (begins.subset member)⟩

theorem logText_ends (texts : List (List Char)) :
    logText texts = [] ∨ (logText texts).getLast? = some '\n' := by
  rcases List.eq_nil_or_concat texts with rfl | ⟨before, text, rfl⟩
  · exact Or.inl rfl
  · refine Or.inr ?_
    rw [List.concat_eq_append, logText_append, logText_cons, logText_nil, ← List.append_assoc,
      List.getLast?_concat]

/-! ## Fields that end with a separator -/

section Fields

variable {α : Type} [DecidableEq α]

def terminated (separator : α) (fields : List (List α)) : List α :=
  fields.flatMap fun field => field ++ [separator]

/-- **Fields are found again by splitting**, with an empty one after the last separator. -/
theorem splitOn_terminated {separator : α} {fields : List (List α)}
    (free : ∀ field ∈ fields, separator ∉ field) :
    (terminated separator fields).splitOn separator = fields ++ [[]] := by
  induction fields with
  | nil => rfl
  | cons field fields ih =>
    rw [List.forall_mem_cons] at free
    have found := List.splitOn_append_cons_self_of_not_mem free.1 (terminated separator fields)
    rw [terminated, List.flatMap_cons, List.append_assoc, List.singleton_append, ← terminated,
      found, ih free.2, List.cons_append]

end Fields

end Zero3Pilot
