import Zero3Pilot.OutputRetention.Slices

/-! # Retaining a long text

`retain_text` of `ext/zero3-output-retention/src/retention.rs`: a tool result that is too long for the
model is stored as a whole, and the model is shown its beginning and its end with a notice of where
the rest is. Where it cannot be stored, or the notice alone is too long, the model is shown all of it. -/

namespace Zero3Pilot.OutputRetention

open Json (bytes bytes_append bytes_toDigits)

structure SpillSource where
  (threadId turnId callId toolName : String)

structure SpillRef where
  locator : String
  byteLen : Nat

/-- A `SpillStore` over its states: what it has saved under a reference is read there. -/
structure SpillStore (σ : Type) where
  saveText : SpillSource → List Char → σ → Except String SpillRef × σ
  readText : String → σ → Except String (List Char)
  saved : ∀ source text state reference, (saveText source text state).1 = .ok reference →
    readText reference.locator (saveText source text state).2 = .ok text

inductive RetentionOutcome
  | inline (text : List Char)
  | spilled (projection : List Char) (reference : SpillRef) (omittedBytes : Nat)

/-- Why a long text is kept inline: the warnings of `retain_text`. -/
inductive Warning
  | storageFailed (error : String)
  | noticeExceedsBudget
  | projectionExceedsBudget

def previewSeparator : List Char := "\n...\n".toList

def noticeSeparator : List Char := "\n\n".toList

def spillNotice (omittedBytes : Nat) (reference : SpillRef) : List Char :=
  "[zero3 spill: ".toList ++ Nat.toDigits 10 omittedBytes ++
    " UTF-8 bytes omitted; full result: ".toList ++ reference.locator.toList ++
    "; recover with read_spill or grep_spill]".toList

/-- The loop of `utf8_prefix`. -/
def prefixEnd (text : List Char) : Nat → Nat
  | 0 => 0
  | end_ + 1 => if isCharBoundary text (end_ + 1) then end_ + 1 else prefixEnd text end_

def utf8Prefix (text : List Char) (budget : Nat) : List Char :=
  if bytes text ≤ budget then text else sliceTo text (prefixEnd text budget)

/-- The loop of `utf8_suffix`. -/
def suffixStart (text : List Char) (start : Nat) : Nat :=
  if start < bytes text ∧ isCharBoundary text start = false then suffixStart text (start + 1)
  else start
termination_by bytes text - start

def utf8Suffix (text : List Char) (budget : Nat) : List Char :=
  if bytes text ≤ budget then text else sliceFrom text (suffixStart text (bytes text - budget))

def preview (head tail : List Char) : List Char :=
  if head.isEmpty then tail
  else if tail.isEmpty then head
  else head ++ previewSeparator ++ tail

def projectionOf (preview notice : List Char) : List Char :=
  if preview.isEmpty then notice else preview ++ noticeSeparator ++ notice

variable {σ : Type}

/-- `retain_text` once the text is stored. -/
def project (text : List Char) (maxInlineBytes : Nat) (reference : SpillRef) :
    RetentionOutcome × Option Warning :=
  let totalBytes := bytes text
  let worstNotice := spillNotice totalBytes reference
  if maxInlineBytes < bytes worstNotice then (.inline text, some .noticeExceedsBudget)
  else
    let reserved := bytes worstNotice + bytes noticeSeparator + bytes previewSeparator
    let previewBudget := maxInlineBytes - reserved
    let head := utf8Prefix text ((previewBudget + 1) / 2)
    let tail := utf8Suffix text (previewBudget / 2)
    let retainedBytes := min (bytes head + bytes tail) totalBytes
    let omittedBytes := totalBytes - retainedBytes
    let projection := projectionOf (preview head tail) (spillNotice omittedBytes reference)
    if maxInlineBytes < bytes projection then (.inline text, some .projectionExceedsBudget)
    else (.spilled projection reference omittedBytes, none)

def retainText (store : SpillStore σ) (source : SpillSource) (text : List Char)
    (maxInlineBytes : Nat) (state : σ) : (RetentionOutcome × Option Warning) × σ :=
  if bytes text ≤ maxInlineBytes then ((.inline text, none), state)
  else
    match store.saveText source text state with
    | (.error error, after) => ((.inline text, some (.storageFailed error)), after)
    | (.ok reference, after) => (project text maxInlineBytes reference, after)

/-! ## The two ends of a text -/

theorem prefixEnd_le (text : List Char) (end_ : Nat) : prefixEnd text end_ ≤ end_ := by
  induction end_ with
  | zero => exact Nat.le_refl 0
  | succ end_ ih =>
    rw [prefixEnd]
    split
    · exact Nat.le_refl _
    · exact Nat.le_succ_of_le ih

theorem prefixEnd_boundary (text : List Char) (end_ : Nat) :
    isCharBoundary text (prefixEnd text end_) = true := by
  induction end_ with
  | zero => exact isCharBoundary_iff.2 ⟨[], List.nil_prefix, rfl⟩
  | succ end_ ih =>
    rw [prefixEnd]
    split
    · assumption
    · exact ih

theorem suffixStart_spec {text : List Char} {start : Nat} (within : start ≤ bytes text) :
    start ≤ suffixStart text start ∧ isCharBoundary text (suffixStart text start) = true := by
  fun_induction suffixStart text start with
  | case1 start inside ih =>
    obtain ⟨later, boundary⟩ := ih inside.1
    exact ⟨Nat.le_of_succ_le later, boundary⟩
  | case2 start ends =>
    refine ⟨Nat.le_refl _, ?_⟩
    by_cases inside : start < bytes text
    · exact Bool.not_eq_false _ ▸ fun isNone => ends ⟨inside, isNone⟩
    · -- the end of the text is a boundary
      have all : start = bytes text := Nat.le_antisymm within (Nat.le_of_not_lt inside)
      exact isCharBoundary_iff.2 ⟨text, List.prefix_refl text, all.symm⟩

theorem utf8Prefix_spec (text : List Char) (budget : Nat) :
    utf8Prefix text budget <+: text ∧ bytes (utf8Prefix text budget) ≤ budget := by
  unfold utf8Prefix
  split
  · exact ⟨List.prefix_refl text, by assumption⟩
  · obtain ⟨before, ⟨rest, whole⟩, size⟩ := isCharBoundary_iff.1 (prefixEnd_boundary text budget)
    have isBefore : sliceTo text (prefixEnd text budget) = before := by
      rw [← size, ← whole, sliceTo_append]
    rw [isBefore, size]
    exact ⟨⟨rest, whole⟩, prefixEnd_le text budget⟩

theorem utf8Suffix_spec (text : List Char) (budget : Nat) :
    utf8Suffix text budget <:+ text ∧ bytes (utf8Suffix text budget) ≤ budget := by
  unfold utf8Suffix
  split
  · exact ⟨List.suffix_refl text, by assumption⟩
  · obtain ⟨later, boundary⟩ := suffixStart_spec (Nat.sub_le (bytes text) budget)
    obtain ⟨before, ⟨rest, whole⟩, size⟩ := isCharBoundary_iff.1 boundary
    have isRest : sliceFrom text (suffixStart text (bytes text - budget)) = rest := by
      rw [← size, ← whole, sliceFrom_append]
    have sizes : bytes before + bytes rest = bytes text := by rw [← bytes_append, whole]
    rw [isRest]
    exact ⟨⟨before, whole⟩, by omega⟩

/-- Ends that are together no longer than the text do not overlap. -/
theorem middle_of_bytes_le {text head tail : List Char} (isHead : head <+: text)
    (isTail : tail <:+ text) (le : bytes head + bytes tail ≤ bytes text) :
    ∃ middle, text = head ++ middle ++ tail := by
  obtain ⟨before, whole⟩ := isTail
  have sizes : bytes before + bytes tail = bytes text := by rw [← bytes_append, whole]
  obtain ⟨middle, rfl⟩ := prefix_of_bytes_le isHead ⟨tail, whole⟩ (by omega)
  exact ⟨middle, whole.symm⟩

/-! ## Budgets -/

theorem bytes_spillNotice_le {omitted total : Nat} (le : omitted ≤ total) (reference : SpillRef) :
    bytes (spillNotice omitted reference) ≤ bytes (spillNotice total reference) := by
  have shorter : (Nat.toDigits 10 omitted).length ≤ (Nat.toDigits 10 total).length := by
    have positive : 0 < (Nat.toDigits 10 total).length :=
      List.length_pos_iff.2 Nat.toDigits_ne_nil
    refine (Nat.length_toDigits_le_iff (by decide) positive).2 (Nat.lt_of_le_of_lt le ?_)
    exact (Nat.length_toDigits_le_iff (by decide) positive).1 (Nat.le_refl _)
  have texts (first second third fourth : List Char) :
      bytes (first ++ Nat.toDigits 10 omitted ++ second ++ third ++ fourth) ≤
        bytes (first ++ Nat.toDigits 10 total ++ second ++ third ++ fourth) := by
    simp only [bytes_append, bytes_toDigits]
    omega
  exact texts _ _ _ _

theorem bytes_projectionOf_le (head tail notice : List Char) :
    bytes (projectionOf (preview head tail) notice) ≤
      bytes head + bytes tail + bytes previewSeparator + bytes noticeSeparator + bytes notice := by
  unfold projectionOf preview
  split_ifs
  all_goals try simp only [bytes_append]
  all_goals omega

/-! ## What is retained -/

/-- The text is shown as a whole. -/
def KeptInline (store : SpillStore σ) (source : SpillSource) (text : List Char)
    (maxInlineBytes : Nat) (state : σ) : Prop :=
  bytes text ≤ maxInlineBytes ∨ (∃ error, (store.saveText source text state).1 = .error error) ∨
    ∃ reference, (store.saveText source text state).1 = .ok reference ∧
      maxInlineBytes < bytes (spillNotice (bytes text) reference)

/-- **A text that is stored**, and what the model is shown of it. -/
structure Spilled (store : SpillStore σ) (text : List Char) (maxInlineBytes : Nat) (after : σ)
    (projection : List Char) (reference : SpillRef) (omittedBytes : Nat) : Prop where
  recoverable : store.readText reference.locator after = .ok text
  within : bytes projection ≤ maxInlineBytes
  shown : ∃ head middle tail, text = head ++ middle ++ tail ∧ omittedBytes = bytes middle ∧
    projection = projectionOf (preview head tail) (spillNotice omittedBytes reference)
  omits : 0 < omittedBytes

theorem project_spilled {text : List Char} {maxInlineBytes : Nat} {reference : SpillRef}
    (long : maxInlineBytes < bytes text)
    (fits : bytes (spillNotice (bytes text) reference) ≤ maxInlineBytes) :
    ∃ head middle tail, text = head ++ middle ++ tail ∧ 0 < bytes middle ∧
      bytes (projectionOf (preview head tail) (spillNotice (bytes middle) reference)) ≤
        maxInlineBytes ∧
      project text maxInlineBytes reference = (.spilled (projectionOf (preview head tail)
        (spillNotice (bytes middle) reference)) reference (bytes middle), none) := by
  rw [project, if_neg (Nat.not_lt.2 fits)]
  dsimp only
  generalize isBudget : maxInlineBytes - (bytes (spillNotice (bytes text) reference) +
    bytes noticeSeparator + bytes previewSeparator) = previewBudget
  obtain ⟨isHead, headFits⟩ := utf8Prefix_spec text ((previewBudget + 1) / 2)
  obtain ⟨isTail, tailFits⟩ := utf8Suffix_spec text (previewBudget / 2)
  revert isHead headFits isTail tailFits
  generalize utf8Prefix text ((previewBudget + 1) / 2) = head
  generalize utf8Suffix text (previewBudget / 2) = tail
  intro isHead headFits isTail tailFits
  obtain ⟨middle, whole⟩ := middle_of_bytes_le isHead isTail (by omega)
  have sizes : bytes text = bytes head + bytes middle + bytes tail := by
    rw [whole, bytes_append, bytes_append]
  have omitted : bytes text - min (bytes head + bytes tail) (bytes text) = bytes middle := by omega
  have notice := @bytes_spillNotice_le (bytes middle) (bytes text) (by omega) reference
  have within : bytes (projectionOf (preview head tail) (spillNotice (bytes middle) reference)) ≤
      maxInlineBytes := by
    by_cases nothing : previewBudget = 0
    · -- no room for a preview: the notice stands alone
      have noHead : head = [] := bytes_eq_zero.1 (by omega)
      have noTail : tail = [] := bytes_eq_zero.1 (by omega)
      rw [noHead, noTail]
      exact Nat.le_trans notice fits
    · have most := bytes_projectionOf_le head tail (spillNotice (bytes middle) reference)
      omega
  refine ⟨head, middle, tail, whole, by omega, within, ?_⟩
  rw [omitted, if_neg (Nat.not_lt.2 within)]

end Zero3Pilot.OutputRetention
