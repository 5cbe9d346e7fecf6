import Zero3Pilot.Overlay.PatchEngine

/-! # Upgrading a block of the overlay

A tree that carries a block of an earlier revision ought to become the tree that the current overlay makes
of the pristine text. The pattern for a block of any revision looks for an end marker without a revision,
and every block ends with one that has its revision; so no block is ever matched as a whole, and the tree
becomes the right one only where it is so already. -/

namespace Zero3Pilot.Overlay

open Pattern

/-! ## What is asked -/

/-- The number of start markers of a site, of any revision. -/
def blockStarts (site : Site) (source : Source) : Nat :=
  source.tails.countP fun rest =>
    (matchFrom [.text ('/' :: '*' :: site.tag ++ ":start ".toList), .many (fun char => char ≠ '*'),
      .text ['*', '/']] rest).isSome

/-- A text that has the anchor of a site, and nothing that the overlay has written there. -/
structure Pristine (site : Site) (source : Source) : Prop where
  anchored : site.anchor <:+: source
  unmarked : ¬ '/' :: '*' :: site.tag ++ ":start ".toList <:+: source
  noLegacy : test site.legacyBlock source = false

/-- **What is asked of an upgrade** of `tree` to `upgraded`. -/
structure UpgradeLaw (site : Site) (revision : Revision) (payload tree upgraded : Source) : Prop where
  /-- The earlier block is replaced. -/
  replaced : applySessionProvider site revision payload tree = .ok upgraded
  /-- A replay changes nothing. -/
  replayed : ∀ source result, applySessionProvider site revision payload source = .ok result →
    applySessionProvider site revision payload result = .ok result
  /-- A text with two blocks, of whatever revisions, is refused. -/
  single : ∀ result, applySessionProvider site revision payload tree = .ok result →
    blockStarts site result ≤ 1

/-! ## Texts around a block -/

section Texts

/-- A comment with a blank before its end. -/
def comment (text : Source) : Source := '/' :: '*' :: text ++ [' ', '*', '/']

variable {text : Source}

theorem no_comment_in_rest (unstarred : '*' ∉ text) {rest before after : Source}
    (same : text ++ ' ' :: '*' :: '/' :: '\n' :: rest = before ++ '/' :: '*' :: after)
    (inside : before.length < text.length + 3) : False := by
  induction text generalizing before with
  | nil =>
    rcases before with _ | ⟨first, _ | ⟨second, _ | ⟨third, before⟩⟩⟩
    · simp at same
    · simp at same
    · simp at same
    · simp only [List.length_cons, List.length_nil] at inside
      omega
  | cons char text ih =>
    simp only [List.mem_cons, not_or] at unstarred
    cases before with
    | nil =>
      simp only [List.cons_append, List.nil_append, List.cons.injEq] at same
      cases text with
      | nil => simp at same
      | cons next text =>
        simp only [List.cons_append, List.cons.injEq] at same
        exact unstarred.2 (by simp [same.2.1])
    | cons first before =>
      simp only [List.cons_append, List.cons.injEq] at same
      exact ih unstarred.2 same.2 (by simpa using inside)

theorem no_comment_inside (unstarred : '*' ∉ text) {rest before after : Source}
    (same : comment text ++ '\n' :: rest = before ++ '/' :: '*' :: after)
    (inside : before.length < (comment text).length) : before = [] := by
  rcases before with _ | ⟨first, _ | ⟨second, before⟩⟩
  · rfl
  · simp [comment] at same
  · simp only [comment, List.cons_append, List.append_assoc, List.nil_append, List.cons.injEq,
      List.length_cons, List.length_append, List.length_nil] at same inside
    exact (no_comment_in_rest unstarred same.2.2 (by omega)).elim

theorem comment_before (unstarred : '*' ∉ text) {rest between after : Source}
    (same : comment text ++ '\n' :: rest = between ++ (comment text ++ after))
    (later : between ≠ []) : comment text <:+: between := by
  by_cases inside : between.length < (comment text).length
  · exact absurd (no_comment_inside unstarred same inside) later
  · have starts : comment text <+: between ++ (comment text ++ after) := same ▸ List.prefix_append _ _
    exact (List.prefix_of_prefix_length_le starts (List.prefix_append _ _) (by omega)).isInfix

/-- **One place.** Where a text with a comment line put before one place is the same text with it put
before another one, the places are the same, unless the comment has been there before. -/
theorem aligned (unstarred : '*' ∉ text) {rest before before' after after' : Source}
    (same : before ++ (comment text ++ '\n' :: rest ++ after) =
      before' ++ (comment text ++ '\n' :: rest ++ after'))
    (fresh : ¬ comment text <:+: before) (fresh' : ¬ comment text <:+: before') :
    before = before' := by
  obtain ⟨between, rfl, parts⟩ | ⟨between, rfl, parts⟩ := List.append_eq_append_iff.1 same
  · by_cases later : between = []
    · rw [later, List.append_nil]
    · rw [List.append_assoc, List.append_assoc] at parts
      have inside := comment_before unstarred parts later
      exact absurd (inside.trans (List.suffix_append _ _).isInfix) fresh'
  · by_cases later : between = []
    · rw [later, List.append_nil]
    · rw [List.append_assoc, List.append_assoc] at parts
      have inside := comment_before unstarred parts later
      exact absurd (inside.trans (List.suffix_append _ _).isInfix) fresh

end Texts

/-! ## One run of the overlay -/

section Steps

variable {site : Site} {revision : Revision} {payload source result : Source}

def startText (site : Site) (revision : Revision) : Source :=
  site.tag ++ ":start ".toList ++ revision.label

/-- What stands in a block after its start marker. -/
def blockRest (site : Site) (revision : Revision) (payload : Source) : Source :=
  ((payload.dropWhile (· = '\n')).rdropWhile (· = '\n')) ++
    '\n' :: (sessionProviderMarkers site revision).stop ++ ['\n']

theorem start_eq (site : Site) (revision : Revision) :
    (sessionProviderMarkers site revision).start = comment (startText site revision) := by
  simp [sessionProviderMarkers, comment, startText, markerEnd]

theorem block_eq (site : Site) (revision : Revision) (payload : Source) :
    sessionProviderBlock site revision payload =
      comment (startText site revision) ++ '\n' :: blockRest site revision payload := by
  rw [sessionProviderBlock, markerBlock, start_eq, blockRest]
  simp

theorem startText_unstarred (site : Site) (revision : Revision) : '*' ∉ startText site revision := by
  have fixed : '*' ∉ site.tag ++ ":start ".toList := by cases site <;> decide +kernel
  intro member
  obtain first | last := List.mem_append.1 member
  · exact fixed first
  · exact revision.unstarred last

theorem includes_iff {text : Source} : includes source text = true ↔ text <:+: source := search_text

/-- The one replacement, before the copies are counted. -/
def step (site : Site) (revision : Revision) (payload source : Source) : Except String Source :=
  patchStep "Zero3 overlay" site.relativePath source (sessionProviderReplacement site revision payload)

theorem apply_ok_iff : applySessionProvider site revision payload source = .ok result ↔
    step site revision payload source = .ok result ∧
      copies (comment (startText site revision)) result = 1 := by
  unfold applySessionProvider patchOverlaySource
  show (step site revision payload source >>= fun patched => pure patched) >>= _ = _ ↔ _
  rw [bind_pure]
  cases stepped : step site revision payload source with
  | error error => simp [bind, Except.bind]
  | ok patched =>
    simp only [bind, Except.bind, assertOverlayInvariants, sessionProviderInvariant, List.map_cons,
      List.map_nil, List.foldl_cons, List.foldl_nil, Nat.zero_add, start_eq]
    by_cases one : copies (comment (startText site revision)) patched = 1
    · simp only [one, ne_eq, not_true_eq_false, if_false, Except.ok.injEq]
      constructor
      · rintro rfl
        exact ⟨rfl, one⟩
      · exact And.left
    · simp only [ne_eq, one, not_false_eq_true, if_true, reduceCtorEq, false_iff, Except.ok.injEq]
      rintro ⟨rfl, counted⟩
      exact one counted

theorem proofs_eq : (sessionProviderReplacement site revision payload).proofs =
    [comment (startText site revision)] := by
  simp [Replacement.proofs, sessionProviderReplacement, start_eq, comment]

theorem step_marked (marked : comment (startText site revision) <:+: source) :
    step site revision payload source = .ok source := by
  rw [step, patchStep, proofs_eq, if_pos]
  simpa using includes_iff.2 marked

/-- The text of a search with its match replaced. -/
def Pattern.Found.with (parts : Pattern.Found) (replacement : Source) : Source :=
  parts.before ++ (replacement ++ parts.after)

variable {parts : Found}

theorem replace_of_search {pattern : Pattern} {rewrite : Source → Source}
    (searched : search pattern source = some parts) :
    replace pattern rewrite source = Pattern.Found.with parts (rewrite parts.matched) := by
  rw [replace, searched]
  simp [Pattern.Found.with]

section

variable (unmarked : ¬ comment (startText site revision) <:+: source)
include unmarked

/-- **What the overlay rewrites** in a text without its marker. -/
theorem step_unmarked : step site revision payload source =
      if test (sessionProviderMarkers site revision).anyRevision source then
        .ok (replace (sessionProviderMarkers site revision).anyRevision
          (fun _ => sessionProviderBlock site revision payload) source)
      else if test site.legacyBlock source then
        .ok (replace site.legacyBlock (fun _ => sessionProviderBlock site revision payload) source)
      else if test [.text site.anchor] source then
        .ok (replace [.text site.anchor]
          (fun _ => sessionProviderBlock site revision payload ++ site.anchor) source)
      else .error (driftError "Zero3 overlay" site.relativePath
        (sessionProviderReplacement site revision payload)) := by
  have absent : ¬ ((sessionProviderReplacement site revision payload).proofs.any (includes source)) =
      true := by
    rw [proofs_eq]
    simpa using mt includes_iff.1 unmarked
  have listed : (sessionProviderReplacement site revision payload).candidates =
      sessionProviderCandidates (sessionProviderMarkers site revision) site.legacyBlock site.anchor
        (sessionProviderBlock site revision payload) := rfl
  rw [step, patchStep, if_neg absent, listed, sessionProviderCandidates]
  simp only [List.find?_cons, List.find?_nil, Candidate.shape, Shape.toPattern]
  cases test (sessionProviderMarkers site revision).anyRevision source with
  | true => rfl
  | false =>
    cases test site.legacyBlock source with
    | true => rfl
    | false =>
      cases test [.text site.anchor] source with
      | true => rfl
      | false => rfl

theorem step_any
    (searched : search (sessionProviderMarkers site revision).anyRevision source = some parts) :
    step site revision payload source =
      .ok (Pattern.Found.with parts (sessionProviderBlock site revision payload)) := by
  rw [step_unmarked unmarked, if_pos (by rw [test, searched]; rfl), replace_of_search searched]

theorem step_legacy
    (noBlock : test (sessionProviderMarkers site revision).anyRevision source = false)
    (searched : search site.legacyBlock source = some parts) :
    step site revision payload source =
      .ok (Pattern.Found.with parts (sessionProviderBlock site revision payload)) := by
  rw [step_unmarked unmarked, if_neg (by simp [noBlock]), if_pos (by rw [test, searched]; rfl),
    replace_of_search searched]

theorem step_anchor
    (noBlock : test (sessionProviderMarkers site revision).anyRevision source = false)
    (noLegacy : test site.legacyBlock source = false)
    (searched : search [.text site.anchor] source = some parts) :
    step site revision payload source =
      .ok (Pattern.Found.with parts (sessionProviderBlock site revision payload ++ site.anchor)) := by
  rw [step_unmarked unmarked, if_neg (by simp [noBlock]), if_neg (by simp [noLegacy]),
    if_pos (by rw [test, searched]; rfl), replace_of_search searched]

end

/-- **What the overlay makes of a pristine text**: its block stands before the anchor. -/
theorem Pristine.step (pristine : Pristine site source)
    (searched : search [.text site.anchor] source = some parts) :
    step site revision payload source =
      .ok (Pattern.Found.with parts (sessionProviderBlock site revision payload ++ site.anchor)) := by
  apply step_anchor
  · intro marked
    have starts : '/' :: '*' :: site.tag ++ ":start ".toList <:+: comment (startText site revision) :=
      ⟨[], revision.label ++ [' ', '*', '/'], by simp [comment, startText]⟩
    exact pristine.unmarked (starts.trans marked)
  · cases found : search (sessionProviderMarkers site revision).anyRevision source with
    | none => rw [test, found]; rfl
    | some parts' =>
      obtain ⟨whole, matched⟩ := search_append found
      have starts := prefix_of_matchFrom matched
      refine absurd ?_ pristine.unmarked
      rw [whole, List.append_assoc]
      exact (starts.isInfix.trans (List.prefix_append _ _).isInfix).trans
        (List.suffix_append _ _).isInfix
  · exact pristine.noLegacy
  · exact searched

def stopText (site : Site) (revision : Revision) : Source :=
  site.tag ++ ":end ".toList ++ revision.label

theorem stopText_unstarred (site : Site) (revision : Revision) : '*' ∉ stopText site revision := by
  have fixed : '*' ∉ site.tag ++ ":end ".toList := by cases site <;> decide +kernel
  intro member
  obtain first | last := List.mem_append.1 member
  · exact fixed first
  · exact revision.unstarred last

theorem block_suffix : ¬ '/' :: '*' :: site.tag ++ ":end ".toList ++ ['*', '/', '\n'] <:+
    sessionProviderBlock site revision payload := by
  intro bare
  have ended : comment (stopText site revision) ++ ['\n'] <:+ sessionProviderBlock site revision payload :=
    ⟨comment (startText site revision) ++
      '\n' :: ((payload.dropWhile (· = '\n')).rdropWhile (· = '\n')) ++ ['\n'], by
        simp [block_eq, blockRest, sessionProviderMarkers, comment, stopText, markerEnd]⟩
  have shorter : ('/' :: '*' :: site.tag ++ ":end ".toList ++ ['*', '/', '\n']).length <
      (comment (stopText site revision) ++ ['\n']).length := by
    simp only [comment, stopText, List.length_append, List.length_cons, List.length_nil]
    omega
  -- the bare marker would begin inside of the marker that ends the block
  obtain ⟨between, same⟩ := List.suffix_of_suffix_length_le bare ended (Nat.le_of_lt shorter)
  have inside : between.length < (comment (stopText site revision)).length := by
    have lengths := congrArg List.length same
    simp only [List.length_append, List.length_cons, List.length_nil] at lengths
    omega
  have apart := no_comment_inside (stopText_unstarred site revision) same.symm inside
  rw [← same, apart, List.nil_append] at shorter
  exact Nat.lt_irrefl _ shorter

theorem any_ne_block {revision' : Revision}
    (searched : search (sessionProviderMarkers site revision).anyRevision source = some parts) :
    parts.matched ≠ sessionProviderBlock site revision' payload := by
  intro whole
  obtain ⟨-, matched⟩ := search_append searched
  have ends := @suffix_of_matchFrom [_, _, _, _] _ _ _ matched
  rw [whole] at ends
  exact block_suffix ends

/-- A block does not begin as what the overlay wrote before there were markers. -/
theorem legacy_ne_block (searched : search site.legacyBlock source = some parts) :
    parts.matched ≠ sessionProviderBlock site revision payload := by
  intro whole
  obtain ⟨-, matched⟩ := search_append searched
  have begins : ∃ char literal, char ≠ '/' ∧ char :: literal <+: parts.matched := by
    cases site with
    | runtime | types => exact ⟨'\n', _, by decide, prefix_of_matchFrom matched⟩
    | preload => exact ⟨'c', _, by decide, prefix_of_matchFrom matched⟩
    | surface => exact ⟨' ', _, by decide, prefix_of_matchFrom matched⟩
  obtain ⟨char, literal, other, rest, same⟩ := begins
  rw [whole, block_eq, comment] at same
  exact other (List.cons.inj same).1

/-- **What the overlay writes into a text without its marker.** Its block stands in the place of some part
of the text, and that part is no block of whatever revision. -/
theorem written_of_step (unmarked : ¬ comment (startText site revision) <:+: source)
    (stepped : step site revision payload source = .ok result) :
    ∃ parts : Found, source = parts.before ++ (parts.matched ++ parts.after) ∧
      result = Pattern.Found.with parts (sessionProviderBlock site revision payload) ∧
      ∀ revision' payload', parts.matched ≠ sessionProviderBlock site revision' payload' := by
  cases block : search (sessionProviderMarkers site revision).anyRevision source with
  | some parts =>
    rw [step_any unmarked block, Except.ok.injEq] at stepped
    have whole := (search_append block).1
    exact ⟨parts, by rw [whole, List.append_assoc], stepped.symm, fun _ _ => any_ne_block block⟩
  | none =>
  have noBlock : test (sessionProviderMarkers site revision).anyRevision source = false := by
    rw [test, block]
    rfl
  cases legacy : search site.legacyBlock source with
  | some parts =>
    rw [step_legacy unmarked noBlock legacy, Except.ok.injEq] at stepped
    have whole := (search_append legacy).1
    exact ⟨parts, by rw [whole, List.append_assoc], stepped.symm, fun _ _ => legacy_ne_block legacy⟩
  | none =>
  have noLegacy : test site.legacyBlock source = false := by
    rw [test, legacy]
    rfl
  cases anchored : search [.text site.anchor] source with
  | some parts =>
    rw [step_anchor unmarked noBlock noLegacy anchored, Except.ok.injEq] at stepped
    have whole := (search_append anchored).1
    rw [matched_text anchored] at whole
    -- nothing is taken away here: the block is put before the anchor
    refine ⟨⟨parts.before, [], site.anchor ++ parts.after⟩, by simp [whole], ?_, ?_⟩
    · rw [← stepped]
      simp [Pattern.Found.with]
    · intro revision' payload' empty
      rw [block_eq, comment] at empty
      cases empty
  | none =>
    rw [step_unmarked unmarked, if_neg (by simp [noBlock]), if_neg (by simp [noLegacy]),
      if_neg (by simp [test, anchored])] at stepped
    cases stepped

theorem marked_of_step (stepped : step site revision payload source = .ok result) :
    comment (startText site revision) <:+: result := by
  by_cases marked : comment (startText site revision) <:+: source
  · rw [step_marked marked, Except.ok.injEq] at stepped
    exact stepped ▸ marked
  · obtain ⟨parts, -, rfl, -⟩ := written_of_step marked stepped
    exact ⟨parts.before, '\n' :: blockRest site revision payload ++ parts.after, by
      simp [Pattern.Found.with, block_eq]⟩

theorem apply_replayed (applied : applySessionProvider site revision payload source = .ok result) :
    applySessionProvider site revision payload result = .ok result := by
  obtain ⟨stepped, one⟩ := apply_ok_iff.1 applied
  exact apply_ok_iff.2 ⟨step_marked (marked_of_step stepped), one⟩

end Steps

/-! ## A text with an earlier block -/

section Upgrade

variable {site : Site} {earlier current : Revision} {payload payload' pristine tree upgraded : Source}

/-- A text with an earlier block and without the current marker does not become the right one. -/
theorem not_replaced (unmarked : ¬ comment (startText site current) <:+: tree) {before rest : Source}
    (carried : tree = before ++ (sessionProviderBlock site earlier payload ++ rest)) :
    step site current payload' tree ≠
      .ok (before ++ (sessionProviderBlock site current payload' ++ rest)) := by
  intro stepped
  obtain ⟨parts, whole, same, other⟩ := written_of_step unmarked stepped
  have fresh : ¬ comment (startText site current) <:+: before := fun inside =>
    unmarked (inside.trans (carried ▸ (List.prefix_append _ _).isInfix))
  have fresh' : ¬ comment (startText site current) <:+: parts.before := fun inside =>
    unmarked (inside.trans (whole ▸ (List.prefix_append _ _).isInfix))
  -- both texts have the current block, and so at one place
  have place : before = parts.before := by
    rw [Pattern.Found.with, block_eq] at same
    exact aligned (startText_unstarred site current) same fresh fresh'
  have after : rest = parts.after := by
    rw [Pattern.Found.with, place] at same
    exact List.append_cancel_left (List.append_cancel_left same)
  rw [carried, place, after] at whole
  exact other earlier payload (List.append_cancel_right (List.append_cancel_left whole)).symm

/-- **When an upgrade is what is asked of it**: where the tree has the current block already, and no other
start marker. -/
theorem upgrade_iff (pristineText : Pristine site pristine)
    (written : applySessionProvider site earlier payload pristine = .ok tree)
    (fresh : applySessionProvider site current payload' pristine = .ok upgraded) :
    UpgradeLaw site current payload' tree upgraded ↔
      sessionProviderBlock site earlier payload = sessionProviderBlock site current payload' ∧
        blockStarts site tree ≤ 1 := by
  obtain ⟨parts, searched⟩ := Option.isSome_iff_exists.1 (search_text.2 pristineText.anchored)
  have writes := (apply_ok_iff.1 written).1
  rw [pristineText.step searched, Except.ok.injEq] at writes
  obtain ⟨renews, one⟩ := apply_ok_iff.1 fresh
  rw [pristineText.step searched, Except.ok.injEq] at renews
  simp only [Pattern.Found.with, List.append_assoc] at writes renews
  constructor
  · intro law
    have stepped := (apply_ok_iff.1 law.replaced).1
    by_cases marked : comment (startText site current) <:+: tree
    · -- the tree is left as it is, so it is the right one
      rw [step_marked marked, Except.ok.injEq] at stepped
      have same := List.append_cancel_left (writes.trans (stepped.trans renews.symm))
      refine ⟨List.append_cancel_right same, law.single tree ?_⟩
      rw [law.replaced, stepped]
    · rw [← renews] at stepped
      exact absurd stepped (not_replaced marked writes.symm)
  · rintro ⟨same, single⟩
    have kept : tree = upgraded := by rw [← writes, ← renews, same]
    subst kept
    refine ⟨?_, fun _ _ => apply_replayed, ?_⟩
    · exact apply_replayed fresh
    · intro result applied
      rw [apply_replayed fresh, Except.ok.injEq] at applied
      exact applied ▸ single

end Upgrade

section Runs

def sampleRevision (letter : Char) (plain : letter ≠ '*') : Revision where
  label := ['v', letter]
  unstarred := by simp [plain.symm]

/-- The text that the overlay makes of the anchor alone. -/
def sampleTree (revision : Revision) (payload : Source) : Source :=
  sessionProviderBlock .runtime revision payload ++ Site.runtime.anchor

theorem sample_pristine : Pristine .runtime Site.runtime.anchor where
  anchored := List.infix_refl _
  unmarked := by
    rw [← includes_iff]
    decide +kernel
  noLegacy := by decide +kernel

theorem sample_four : applySessionProvider .runtime (sampleRevision '4' (by decide)) ['a']
    Site.runtime.anchor = .ok (sampleTree (sampleRevision '4' (by decide)) ['a']) := by
  decide +kernel

theorem sample_five : applySessionProvider .runtime (sampleRevision '5' (by decide)) ['b']
    Site.runtime.anchor = .ok (sampleTree (sampleRevision '5' (by decide)) ['b']) := by
  decide +kernel

/-- The blocks of one tree, written by the current overlay itself, satisfy the condition. -/
theorem upgrade_iff_replayed : UpgradeLaw .runtime (sampleRevision '5' (by decide)) ['b']
      (sampleTree (sampleRevision '5' (by decide)) ['b'])
      (sampleTree (sampleRevision '5' (by decide)) ['b']) ↔
    sessionProviderBlock .runtime (sampleRevision '5' (by decide)) ['b'] =
        sessionProviderBlock .runtime (sampleRevision '5' (by decide)) ['b'] ∧
      blockStarts .runtime (sampleTree (sampleRevision '5' (by decide)) ['b']) ≤ 1 :=
  upgrade_iff sample_pristine sample_five sample_five

/-- **An older block stays.** The block of the current revision is put after it, and the text with both is
returned. -/
theorem upgrade_counterexample :
    ¬ ∀ (site : Site) (earlier current : Revision) (payload payload' pristine tree upgraded : Source),
      Pristine site pristine → applySessionProvider site earlier payload pristine = .ok tree →
      applySessionProvider site current payload' pristine = .ok upgraded →
      UpgradeLaw site current payload' tree upgraded := by
  intro always
  have law := always .runtime _ _ _ _ _ _ _ sample_pristine sample_four sample_five
  have returned : applySessionProvider .runtime (sampleRevision '5' (by decide)) ['b']
      (sampleTree (sampleRevision '4' (by decide)) ['a']) =
      .ok (sessionProviderBlock .runtime (sampleRevision '4' (by decide)) ['a'] ++
        sampleTree (sampleRevision '5' (by decide)) ['b']) := by
    decide +kernel
  have twice := law.single _ returned
  revert twice
  decide +kernel

end Runs

end Zero3Pilot.Overlay
