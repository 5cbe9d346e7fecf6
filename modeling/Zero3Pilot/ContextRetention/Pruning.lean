import Zero3Pilot.Foundations.Checks

/-! # Pruning tool results

The pruning engine of `ext/zero3-context-retention/src/lib.rs`: a tool result that is too long loses
one middle span of its text, wherever its blocks begin and end, and keeps everything else. -/

namespace Zero3Pilot.ContextRetention

variable {ρ : Type}

inductive ContentBlock (ρ : Type)
  | text (text : String)
  | rich (value : ρ)

structure PruneConfig where
  (thresholdChars headChars tailChars : Nat)

inductive PruneError
  | invalidConfig (message : String)
  | invariant (message : String)

/-- How a call ends without an answer: with an error, or at a subtraction that falls below zero. -/
inductive Stop
  | refused (error : PruneError)
  | underflow

structure PruneProvenance where
  policyVersion : String := "zero3-context-retention/v1"
  (originalChars retainedChars removedChars netCharsSaved : Nat)
  markerCount : Nat := 1

structure PrunedContent (ρ : Type) where
  content : List (ContentBlock ρ)
  provenance : PruneProvenance

def pruneMarker : List Char := "\n\n[... tool result middle pruned ...]\n\n".toList

def checkedAdd (left right : Nat) : Option Nat :=
  if left + right < 18446744073709551616 then some (left + right) else none

def PruneConfig.validate (config : PruneConfig) : Except PruneError PruneConfig := do
  ensure (config.thresholdChars ≠ 0) (.invalidConfig "threshold_chars must be greater than zero")
  let emitted ← orError
    ((checkedAdd config.headChars pruneMarker.length).bind (checkedAdd · config.tailChars))
    (.invalidConfig "character budget overflow")
  ensure (emitted ≤ config.thresholdChars) (.invalidConfig
    s!"head + marker + tail ({emitted}) exceeds threshold ({config.thresholdChars})")
  return config

def measureContent : List (ContentBlock ρ) → Nat
  | [] => 0
  | .text text :: blocks => text.toList.length + measureContent blocks
  | .rich _ :: blocks => measureContent blocks

/-- The variables of the loop over the blocks. -/
structure Pass (ρ : Type) where
  output : List (ContentBlock ρ) := []
  consumed : Nat := 0
  markerInserted : Bool := false

/-- `output.push(..)`, unless nothing is retained. -/
def pushText (output : List (ContentBlock ρ)) (retained : List Char) : List (ContentBlock ρ) :=
  if retained.isEmpty then output else output ++ [.text (String.ofList retained)]

/-- One round of the loop. -/
def Pass.next (removedStart removedEnd : Nat) (pass : Pass ρ) : ContentBlock ρ → Pass ρ
  | .rich value => { pass with output := pass.output ++ [.rich value] }
  | .text text =>
    let points := text.toList
    let blockStart := pass.consumed
    let blockEnd := blockStart + points.length
    let headEnd := min (removedStart - blockStart) points.length
    let tailStart := min (removedEnd - blockStart) points.length
    let intersectsRemoved := decide (blockStart < removedEnd ∧ removedStart < blockEnd)
    let marker := if intersectsRemoved && !pass.markerInserted then pruneMarker else []
    { output := pushText pass.output (points.take headEnd ++ marker ++ points.drop tailStart)
      consumed := blockEnd
      markerInserted := pass.markerInserted || intersectsRemoved }

def subtract (left right : Nat) : Except Stop Nat := do
  ensure (right ≤ left) .underflow
  return left - right

def pruneContent (blocks : List (ContentBlock ρ)) (config : PruneConfig) :
    Except Stop (Option (PrunedContent ρ)) := do
  let config ← config.validate.mapError Stop.refused
  let totalChars := measureContent blocks
  if totalChars ≤ config.thresholdChars then return none
  else do
    let removedStart := config.headChars
    let removedEnd ← subtract totalChars config.tailChars
    let removedChars ← subtract removedEnd removedStart
    let pass := blocks.foldl (Pass.next removedStart removedEnd) {}
    ensure pass.markerInserted (.refused (.invariant "failed to locate removed text span"))
    let retainedChars := measureContent pass.output
    ensure (retainedChars ≤ config.thresholdChars) (.refused (.invariant
      s!"retained chars ({retainedChars}) exceed threshold ({config.thresholdChars})"))
    ensure (retainedChars < totalChars)
      (.refused (.invariant "pruned content must be smaller than original"))
    let netCharsSaved ← subtract totalChars retainedChars
    return some {
      content := pass.output
      provenance := { originalChars := totalChars, retainedChars, removedChars, netCharsSaved } }

/-! ## What a list of blocks says -/

/-- The text blocks, joined. -/
def textOf : List (ContentBlock ρ) → List Char
  | [] => []
  | .text text :: blocks => text.toList ++ textOf blocks
  | .rich _ :: blocks => textOf blocks

def richOf : List (ContentBlock ρ) → List ρ
  | [] => []
  | .text _ :: blocks => richOf blocks
  | .rich value :: blocks => value :: richOf blocks

/-- The scalars and the rich values, in their order. -/
def stream : List (ContentBlock ρ) → List (Char ⊕ ρ)
  | [] => []
  | .text text :: blocks => text.toList.map .inl ++ stream blocks
  | .rich value :: blocks => .inr value :: stream blocks

/-- The scalars of a stream. -/
def chars (items : List (Char ⊕ ρ)) : List Char := items.filterMap Sum.getLeft?

@[simp] theorem chars_append (items others : List (Char ⊕ ρ)) :
    chars (items ++ others) = chars items ++ chars others := List.filterMap_append

@[simp] theorem chars_points (points : List Char) :
    chars (points.map .inl : List (Char ⊕ ρ)) = points := by
  simp [chars, List.filterMap_map, Function.comp_def]

@[simp] theorem chars_rich (value : ρ) : chars [.inr value] = [] := rfl

@[simp] theorem chars_filter_isRight (items : List (Char ⊕ ρ)) :
    chars (items.filter Sum.isRight) = [] := by
  rw [chars, List.filterMap_eq_nil_iff]
  intro item member
  cases item with
  | inl char => exact absurd (List.mem_filter.1 member).2 Bool.false_ne_true
  | inr value => rfl

@[simp] theorem filter_isRight_points (points : List Char) :
    (points.map .inl : List (Char ⊕ ρ)).filter Sum.isRight = [] := by
  simp

theorem chars_stream (blocks : List (ContentBlock ρ)) : chars (stream blocks) = textOf blocks := by
  induction blocks with
  | nil => rfl
  | cons block blocks ih =>
    cases block with
    | text text => rw [stream, textOf, chars_append, chars_points, ih]
    | rich value => exact ih

theorem richOf_eq (blocks : List (ContentBlock ρ)) :
    richOf blocks = ((stream blocks).filter Sum.isRight).filterMap Sum.getRight? := by
  induction blocks with
  | nil => rfl
  | cons block blocks ih =>
    cases block with
    | text text => rw [stream, richOf, List.filter_append, filter_isRight_points, ih]; rfl
    | rich value => rw [stream, richOf, ih]; rfl

theorem measureContent_eq (blocks : List (ContentBlock ρ)) :
    measureContent blocks = (textOf blocks).length := by
  induction blocks with
  | nil => rfl
  | cons block blocks ih =>
    cases block with
    | text text => rw [measureContent, textOf, List.length_append, ih]
    | rich value => exact ih

theorem stream_concat (blocks : List (ContentBlock ρ)) (block : ContentBlock ρ) :
    stream (blocks ++ [block]) = stream blocks ++ stream [block] := by
  induction blocks with
  | nil => rfl
  | cons first blocks ih =>
    cases first with
    | text text => rw [List.cons_append, stream, ih, stream, List.append_assoc]
    | rich value => rw [List.cons_append, stream, ih, stream, List.cons_append]

theorem stream_pushText (output : List (ContentBlock ρ)) (retained : List Char) :
    stream (pushText output retained) = stream output ++ retained.map .inl := by
  unfold pushText
  split
  · rename_i empty
    rw [List.isEmpty_iff.1 empty, List.map_nil, List.append_nil]
  · rw [stream_concat]
    simp [stream]

/-! ## The cut -/

/-- A stream that lost the scalars of one span, where the marker stands now. -/
structure CutAt (start : Nat) (before middle after items cut : List (Char ⊕ ρ)) : Prop where
  whole : items = before ++ middle ++ after
  rest : cut = before ++ pruneMarker.map .inl ++ middle.filter Sum.isRight ++ after
  head : (chars before).length = start

/-- How far the loop is: before the span, inside it, or behind it. -/
inductive Progress (start stop : Nat) (items : List (Char ⊕ ρ)) (pass : Pass ρ) : Prop
  | ahead (position : pass.consumed ≤ start) (unmarked : pass.markerInserted = false)
      (same : stream pass.output = items)
  | inside (position : start < pass.consumed ∧ pass.consumed < stop)
      (marked : pass.markerInserted = true) (before middle : List (Char ⊕ ρ))
      (cut : CutAt start before middle [] items (stream pass.output))
  | behind (position : start < pass.consumed ∧ stop ≤ pass.consumed)
      (marked : pass.markerInserted = true) (before middle after : List (Char ⊕ ρ))
      (cut : CutAt start before middle after items (stream pass.output))
      (removed : (chars middle).length = stop - start)

structure Kept (start stop : Nat) (items : List (Char ⊕ ρ)) (pass : Pass ρ) : Prop where
  counted : pass.consumed = (chars items).length
  progress : Progress start stop items pass

variable {start stop : Nat} {items : List (Char ⊕ ρ)} {pass : Pass ρ}

/-- What a round adds for a text block. -/
theorem stream_next (start stop : Nat) (pass : Pass ρ) (text : String) :
    stream (pass.next start stop (.text text)).output = stream pass.output ++
      (text.toList.take (start - pass.consumed)).map .inl ++
      (if decide (pass.consumed < stop ∧ start < pass.consumed + text.toList.length) &&
          !pass.markerInserted then pruneMarker else []).map .inl ++
      (text.toList.drop (stop - pass.consumed)).map .inl := by
  rw [Pass.next, stream_pushText, ← List.take_eq_take_min, ← List.drop_eq_drop_min]
  simp only [List.map_append, List.append_assoc]

theorem Kept.rich (kept : Kept start stop items pass) (value : ρ) :
    Kept start stop (items ++ [.inr value]) (pass.next start stop (.rich value)) := by
  have pushed : stream (pass.output ++ [.rich value]) = stream pass.output ++ [.inr value] :=
    stream_concat _ _
  refine ⟨by rw [chars_append, chars_rich, List.append_nil]; exact kept.counted, ?_⟩
  cases kept.progress with
  | ahead position unmarked same => exact .ahead position unmarked (by rw [Pass.next, pushed, same])
  | inside position marked before middle cut =>
    refine .inside position marked before (middle ++ [.inr value]) ⟨?_, ?_, cut.head⟩
    · rw [cut.whole]
      simp
    · rw [Pass.next, pushed, cut.rest, List.filter_append]
      simp [List.filter]
  | behind position marked before middle after cut removed =>
    refine .behind position marked before middle (after ++ [.inr value]) ⟨?_, ?_, cut.head⟩ removed
    · rw [cut.whole]
      simp
    · rw [Pass.next, pushed, cut.rest]
      simp

/-- A text block that the span begins in. -/
theorem Kept.reach (kept : Kept start stop items pass) (order : start < stop)
    (position : pass.consumed ≤ start) (unmarked : pass.markerInserted = false)
    (same : stream pass.output = items) {text : String}
    (reaches : start < pass.consumed + text.toList.length) :
    Progress start stop (items ++ text.toList.map .inl) (pass.next start stop (.text text)) := by
  have early : pass.consumed < stop := Nat.lt_of_le_of_lt position order
  have marked : (pass.next start stop (.text text)).markerInserted = true := by
    simp [Pass.next, reaches, early]
  have output := stream_next start stop pass text
  simp only [early, reaches, and_self, decide_true, unmarked, Bool.not_false, Bool.and_self,
    if_true, same] at output
  have head : (chars (items ++ (text.toList.take (start - pass.consumed)).map .inl)).length =
      start := by
    rw [chars_append, chars_points, List.length_append, ← kept.counted, List.length_take]
    omega
  have split : text.toList.take (start - pass.consumed) ++
      (text.toList.take (stop - pass.consumed)).drop (start - pass.consumed) =
      text.toList.take (stop - pass.consumed) := by
    have shorter : text.toList.take (start - pass.consumed) =
        (text.toList.take (stop - pass.consumed)).take (start - pass.consumed) := by
      rw [List.take_take, Nat.min_eq_left (by omega)]
    rw [shorter, List.take_append_drop]
  have cut : CutAt start (items ++ (text.toList.take (start - pass.consumed)).map .inl)
      (((text.toList.take (stop - pass.consumed)).drop (start - pass.consumed)).map .inl)
      ((text.toList.drop (stop - pass.consumed)).map .inl) (items ++ text.toList.map .inl)
      (stream (pass.next start stop (.text text)).output) := by
    refine ⟨?_, by rw [output, filter_isRight_points, List.append_nil], head⟩
    rw [List.append_assoc, List.append_assoc, ← List.append_assoc (List.map _ _), ← List.map_append,
      split, ← List.map_append, List.take_append_drop]
  by_cases ends : stop ≤ pass.consumed + text.toList.length
  · refine .behind ⟨reaches, ends⟩ marked _ _ _ cut ?_
    rw [chars_points, List.length_drop, List.length_take]
    omega
  · rw [List.drop_eq_nil_of_le (by omega : _ ≤ stop - pass.consumed), List.map_nil] at cut
    exact .inside ⟨reaches, by exact Nat.lt_of_not_le ends⟩ marked _ _ cut

theorem Kept.text (kept : Kept start stop items pass) (order : start < stop) (text : String) :
    Kept start stop (items ++ text.toList.map .inl) (pass.next start stop (.text text)) := by
  have output := stream_next start stop pass text
  refine ⟨by rw [chars_append, chars_points, List.length_append, ← kept.counted]; rfl, ?_⟩
  cases kept.progress with
  | ahead position unmarked same =>
    by_cases reaches : start < pass.consumed + text.toList.length
    · exact kept.reach order position unmarked same reaches
    · have all := List.take_of_length_le (l := text.toList) (i := start - pass.consumed) (by omega)
      have none := @List.drop_eq_nil_of_le _ text.toList (stop - pass.consumed) (by omega)
      refine .ahead (Nat.le_of_not_lt reaches) (by simp [Pass.next, unmarked, reaches]) ?_
      rw [output, same, all, none]
      simp [reaches]
  | inside position marked before middle cut =>
    rw [Nat.sub_eq_zero_of_le (Nat.le_of_lt position.1), marked, cut.rest] at output
    have counted : pass.consumed = start + (chars middle).length := by
      rw [kept.counted, cut.whole, chars_append, chars_append, List.length_append,
        List.length_append, cut.head]
      rfl
    have cut' : CutAt start before (middle ++ (text.toList.take (stop - pass.consumed)).map .inl)
        ((text.toList.drop (stop - pass.consumed)).map .inl) (items ++ text.toList.map .inl)
        (stream (pass.next start stop (.text text)).output) := by
      refine ⟨?_, ?_, cut.head⟩
      · rw [cut.whole, List.append_nil, ← List.append_assoc before,
          List.append_assoc (before ++ middle) (List.map _ _), ← List.map_append,
          List.take_append_drop]
      · rw [output, List.filter_append, filter_isRight_points]
        simp
    by_cases ends : stop ≤ pass.consumed + text.toList.length
    · refine .behind ⟨by exact Nat.lt_add_right _ position.1, ends⟩ (by simp [Pass.next, marked])
        _ _ _ cut' ?_
      rw [chars_append, chars_points, List.length_append, List.length_take]
      omega
    · rw [List.drop_eq_nil_of_le (by omega), List.map_nil] at cut'
      exact .inside ⟨by exact Nat.lt_add_right _ position.1, by exact Nat.lt_of_not_le ends⟩
        (by simp [Pass.next, marked]) _ _ cut'
  | behind position marked before middle after cut removed =>
    rw [Nat.sub_eq_zero_of_le (Nat.le_of_lt position.1), Nat.sub_eq_zero_of_le position.2, marked,
      cut.rest] at output
    refine .behind ⟨by exact Nat.lt_add_right _ position.1, Nat.le_add_right_of_le position.2⟩
      (by simp [Pass.next, marked]) before middle (after ++ text.toList.map .inl)
      ⟨?_, ?_, cut.head⟩ removed
    · rw [cut.whole, List.append_assoc]
    · rw [output]
      simp

/-- **The loop.** It keeps the cut over all blocks. -/
theorem Kept.run (order : start < stop) (blocks : List (ContentBlock ρ))
    (kept : Kept start stop items pass) :
    Kept start stop (items ++ stream blocks) (blocks.foldl (Pass.next start stop) pass) := by
  induction blocks generalizing items pass with
  | nil => rw [stream, List.append_nil]; exact kept
  | cons block blocks ih =>
    cases block with
    | text text => rw [stream, ← List.append_assoc]; exact ih (kept.text order text)
    | rich value =>
      have next := ih (kept.rich value)
      rw [List.append_assoc] at next
      exact next

/-! ## Pruning -/

theorem PruneConfig.validate_ok {config checked : PruneConfig}
    (valid : config.validate = .ok checked) : checked = config ∧
      config.headChars + pruneMarker.length + config.tailChars ≤ config.thresholdChars := by
  simp only [validate, bind_ok, ensure_ok, orError_ok, Option.bind_eq_some_iff, checkedAdd,
    pure_ok] at valid
  obtain ⟨_, _, emitted, ⟨sum, first, second⟩, _, fits, same⟩ := valid
  split at first
  · cases first
    split at second
    · cases second
      exact ⟨same.symm, fits⟩
    · cases second
  · cases first

/-- What pruning makes of a list of blocks. -/
structure Pruned (config : PruneConfig) (blocks : List (ContentBlock ρ)) (pruned : PrunedContent ρ) :
    Prop where
  text : textOf pruned.content = (textOf blocks).take config.headChars ++ pruneMarker ++
    (textOf blocks).drop (measureContent blocks - config.tailChars)
  rich : richOf pruned.content = richOf blocks
  /-- Every scalar that stays keeps its place among the rich blocks. -/
  order : ∃ before middle after, stream blocks = before ++ middle ++ after ∧ stream pruned.content =
      before ++ pruneMarker.map .inl ++ middle.filter Sum.isRight ++ after ∧
    (chars before).length = config.headChars ∧ (chars after).length = config.tailChars
  original : pruned.provenance.originalChars = measureContent blocks
  retained : pruned.provenance.retainedChars = measureContent pruned.content
  within : pruned.provenance.retainedChars ≤ config.thresholdChars
  smaller : config.thresholdChars < pruned.provenance.originalChars
  removed : pruned.provenance.removedChars + config.headChars + config.tailChars =
    pruned.provenance.originalChars
  saved : pruned.provenance.netCharsSaved + pruned.provenance.retainedChars =
    pruned.provenance.originalChars
  marker : pruned.provenance.markerCount = 1
  /-- Pruning what is left changes nothing. -/
  again : pruneContent pruned.content config = .ok none

theorem pruneContent_small {blocks : List (ContentBlock ρ)} {config : PruneConfig}
    (valid : config.validate = .ok config) (small : measureContent blocks ≤ config.thresholdChars) :
    pruneContent blocks config = .ok none := by
  simp only [pruneContent, valid, Except.mapError, bind, Except.bind, if_pos small]
  rfl

theorem pruneContent_large {blocks : List (ContentBlock ρ)} {config : PruneConfig}
    (valid : config.validate = .ok config) (large : config.thresholdChars < measureContent blocks) :
    ∃ pruned, pruneContent blocks config = .ok (some pruned) ∧ Pruned config blocks pruned := by
  obtain ⟨-, budget⟩ := PruneConfig.validate_ok valid
  have order : config.headChars < measureContent blocks - config.tailChars := by omega
  have start : Kept config.headChars (measureContent blocks - config.tailChars) []
      ({} : Pass ρ) := ⟨rfl, .ahead (Nat.zero_le _) rfl rfl⟩
  obtain ⟨counted, progress⟩ := start.run order blocks
  generalize whole : blocks.foldl (Pass.next config.headChars
    (measureContent blocks - config.tailChars)) {} = pass at counted progress
  rw [List.nil_append, chars_stream, ← measureContent_eq] at counted
  rw [List.nil_append] at progress
  cases progress with
  | ahead position => omega
  | inside position => omega
  | behind position marked before middle after cut removed =>
    have total : measureContent blocks =
        config.headChars + (chars middle).length + (chars after).length := by
      rw [measureContent_eq, ← chars_stream, cut.whole, chars_append, chars_append,
        List.length_append, List.length_append, cut.head]
    have tail : (chars after).length = config.tailChars := by omega
    have written : textOf pass.output = chars before ++ pruneMarker ++ chars after := by
      rw [← chars_stream, cut.rest]
      simp
    have retained : measureContent pass.output =
        config.headChars + pruneMarker.length + config.tailChars := by
      rw [measureContent_eq, written, List.length_append, List.length_append, cut.head, tail]
    have input : textOf blocks = chars before ++ (chars middle ++ chars after) := by
      rw [← chars_stream, cut.whole, chars_append, chars_append, List.append_assoc]
    have first : (textOf blocks).take config.headChars = chars before := by
      rw [input, ← cut.head, List.take_left]
    have last : (textOf blocks).drop (measureContent blocks - config.tailChars) = chars after := by
      rw [input, ← List.append_assoc]
      refine List.drop_left' ?_
      rw [List.length_append, cut.head]
      omega
    refine ⟨⟨pass.output, { originalChars := measureContent blocks
                            retainedChars := measureContent pass.output
                            removedChars := measureContent blocks - config.tailChars -
                              config.headChars
                            netCharsSaved := measureContent blocks -
                              measureContent pass.output }⟩, ?_, {
      text := by rw [first, last]; exact written
      rich := by
        rw [richOf_eq, cut.rest, richOf_eq, cut.whole]
        simp
      order := ⟨before, middle, after, cut.whole, cut.rest, cut.head, tail⟩
      original := rfl
      retained := rfl
      within := retained ▸ budget
      smaller := large
      removed := by dsimp only; omega
      saved := Nat.sub_add_cancel (by omega)
      marker := rfl
      again := pruneContent_small valid (retained ▸ budget) }⟩
    have end' : config.tailChars ≤ measureContent blocks := by omega
    have shrinks : measureContent pass.output < measureContent blocks :=
      retained ▸ Nat.lt_of_le_of_lt budget large
    simp only [pruneContent, valid, Except.mapError, bind, Except.bind, pure, Except.pure, subtract,
      ensure, if_neg (Nat.not_le.2 large), if_pos end', if_pos (Nat.le_of_lt order), whole, marked, if_true,
      if_pos (retained ▸ budget : measureContent pass.output ≤ config.thresholdChars),
      if_pos shrinks, if_pos (Nat.le_of_lt shrinks)]

/-- **Pruning cuts one middle span.** -/
theorem pruneContent_cuts (blocks : List (ContentBlock ρ)) (config : PruneConfig)
    (valid : config.validate = .ok config) :
    (pruneContent blocks config = .ok none ↔ measureContent blocks ≤ config.thresholdChars) ∧
    (config.thresholdChars < measureContent blocks →
      ∃ pruned, pruneContent blocks config = .ok (some pruned) ∧ Pruned config blocks pruned) := by
  refine ⟨⟨?_, pruneContent_small valid⟩, pruneContent_large valid⟩
  intro none
  by_contra large
  obtain ⟨pruned, some, -⟩ := pruneContent_large valid (Nat.lt_of_not_le large)
  rw [none] at some
  cases some

/-- A text block, an image and another text block, 53 characters in all. -/
def exampleBlocks : List (ContentBlock String) :=
  [.text "before", .rich "image", .text "the output of a tool that goes on and on and on"]

theorem pruneContent_cuts_sample :
    ∃ pruned, pruneContent exampleBlocks ⟨50, 4, 6⟩ = .ok (some pruned) ∧
      Pruned ⟨50, 4, 6⟩ exampleBlocks pruned :=
  (pruneContent_cuts exampleBlocks ⟨50, 4, 6⟩ rfl).2 (by decide)

end Zero3Pilot.ContextRetention
