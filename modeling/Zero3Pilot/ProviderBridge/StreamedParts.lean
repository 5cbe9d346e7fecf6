import Zero3Pilot.ProviderBridge.EventOrder
import Zero3Pilot.ProviderBridge.GlmHistory

/-! # The items of a streamed answer

The items of an answer are its reasoning, its text and its calls, in this order, so two answers have the
same items exactly when these three parts agree. -/

namespace Zero3Pilot.ProviderBridge

/-! ## Parts -/

def OutputItem.unnamed : OutputItem → OutputItem
  | .reasoning _ text => .reasoning none text
  | .message _ text => .message none text
  | .functionCall callId name arguments => .functionCall callId name arguments

def reasoningPart (reasoning : String) : List OutputItem :=
  if scriptTrim reasoning = "" then [] else [.reasoning none reasoning]

def textPart (text : String) : List OutputItem :=
  if scriptTrim text = "" then [] else [.message none text]

def OutputItem.part : OutputItem → Fin 3
  | .reasoning _ _ => 0
  | .message _ _ => 1
  | .functionCall _ _ _ => 2

def IsPart (part : Fin 3) (items : List OutputItem) : Prop := ∀ item ∈ items, item.part = part

theorem IsPart.filter_eq {part : Fin 3} {items : List OutputItem} (isPart : IsPart part items)
    (other : Fin 3) :
    (items.filter fun item => item.part = other) = if part = other then items else [] := by
  by_cases same : part = other
  · rw [if_pos same, List.filter_eq_self]
    exact fun item isIn => decide_eq_true ((isPart item isIn).trans same)
  · rw [if_neg same, List.filter_eq_nil_iff]
    intro item isIn is
    exact same (isPart item isIn ▸ of_decide_eq_true is)

/-- **Two answers have the same items when their parts agree.** -/
theorem parts_eq_iff {reasoning reasoning' text text' calls calls' : List OutputItem}
    (first : IsPart 0 reasoning) (first' : IsPart 0 reasoning') (second : IsPart 1 text)
    (second' : IsPart 1 text') (third : IsPart 2 calls) (third' : IsPart 2 calls') :
    reasoning ++ text ++ calls = reasoning' ++ text' ++ calls' ↔
      reasoning = reasoning' ∧ text = text' ∧ calls = calls' := by
  constructor
  · intro same
    have at_part (part : Fin 3) := congrArg (List.filter fun item => decide (item.part = part)) same
    simp only [List.filter_append, first.filter_eq, first'.filter_eq, second.filter_eq,
      second'.filter_eq, third.filter_eq, third'.filter_eq] at at_part
    exact ⟨by simpa using at_part 0, by simpa using at_part 1, by simpa using at_part 2⟩
  · rintro ⟨rfl, rfl, rfl⟩
    rfl

theorem isPart_reasoning (reasoning : String) : IsPart 0 (reasoningPart reasoning) := by
  rw [reasoningPart]
  split <;> simp [IsPart, OutputItem.part]

theorem isPart_text (text : String) : IsPart 1 (textPart text) := by
  rw [textPart]
  split <;> simp [IsPart, OutputItem.part]

theorem unnamed_reasoning (reasoning : String) :
    (reasoningPart reasoning).map OutputItem.unnamed = reasoningPart reasoning := by
  rw [reasoningPart]
  split <;> rfl

theorem unnamed_text (text : String) : (textPart text).map OutputItem.unnamed = textPart text := by
  rw [textPart]
  split <;> rfl

theorem unnamed_calls {calls : List OutputItem} (areCalls : IsPart 2 calls) :
    calls.map OutputItem.unnamed = calls := by
  refine (List.map_congr_left fun item isIn => ?_).trans (List.map_id calls)
  have isCall := areCalls item isIn
  cases item with
  | reasoning => cases isCall
  | message => cases isCall
  | functionCall => rfl

theorem reasoningPart_eq_iff {reasoning other : String} : reasoningPart reasoning = reasoningPart other ↔
    (scriptTrim reasoning = "" ↔ scriptTrim other = "") ∧
      (scriptTrim reasoning ≠ "" → reasoning = other) := by
  rw [reasoningPart, reasoningPart]
  by_cases blank : scriptTrim reasoning = "" <;> by_cases blank' : scriptTrim other = "" <;>
    simp [blank, blank']

theorem textPart_eq_iff {text other : String} : textPart text = textPart other ↔
    (scriptTrim text = "" ↔ scriptTrim other = "") ∧ (scriptTrim text ≠ "" → text = other) := by
  rw [textPart, textPart]
  by_cases blank : scriptTrim text = "" <;> by_cases blank' : scriptTrim other = "" <;>
    simp [blank, blank']

theorem isPart_streamCalls (calls : List CallDraft) : IsPart 2 (streamCallItems calls) := by
  intro item isIn
  obtain ⟨call, _, rfl⟩ := List.mem_map.mp isIn
  rfl

theorem streamItems_unnamed (text reasoning : String) (calls : List CallDraft) (ids : StreamIds) :
    (zero3ApiAgentStreamItems text reasoning calls ids).map OutputItem.unnamed =
      reasoningPart reasoning ++ textPart text ++ streamCallItems calls := by
  rw [zero3ApiAgentStreamItems, List.map_append, List.map_append,
    unnamed_calls (isPart_streamCalls calls), reasoningPart, textPart]
  split <;> split <;> rfl

/-! ## Calls -/

theorem filterMap_length_le {Item Sent : Type} {send other : Item → Option Sent} {items : List Item}
    (fewer : ∀ item ∈ items, other item = none → send item = none) :
    (items.filterMap send).length ≤ (items.filterMap other).length := by
  induction items with
  | nil => exact le_rfl
  | cons item items ih =>
    rw [List.forall_mem_cons] at fewer
    have later := ih fewer.2
    cases there : other item with
    | none =>
      rw [List.filterMap_cons_none (fewer.1 there), List.filterMap_cons_none there]
      exact later
    | some sent =>
      rw [List.filterMap_cons_some there, List.length_cons]
      cases here : send item with
      | none =>
        rw [List.filterMap_cons_none here]
        omega
      | some sent' =>
        rw [List.filterMap_cons_some here, List.length_cons]
        omega

/-- What is sent of items agrees exactly when it agrees for each of them, where one sends at least those
of the other. -/
theorem filterMap_eq_filterMap_iff {Item Sent : Type} {send other : Item → Option Sent} {items : List Item}
    (fewer : ∀ item ∈ items, other item = none → send item = none) :
    items.filterMap send = items.filterMap other ↔ ∀ item ∈ items, send item = other item := by
  constructor
  · intro same
    induction items with
    | nil => exact fun _ isIn => absurd isIn List.not_mem_nil
    | cons item items ih =>
      rw [List.forall_mem_cons] at fewer ⊢
      have shorter := filterMap_length_le fewer.2
      cases here : send item with
      | none =>
        cases there : other item with
        | none =>
          rw [List.filterMap_cons_none here, List.filterMap_cons_none there] at same
          exact ⟨rfl, ih fewer.2 same⟩
        | some sent =>
          rw [List.filterMap_cons_none here, List.filterMap_cons_some there] at same
          rw [same, List.length_cons] at shorter
          omega
      | some sent =>
        cases there : other item with
        | none =>
          rw [fewer.1 there] at here
          cases here
        | some sent' =>
          rw [List.filterMap_cons_some here, List.filterMap_cons_some there] at same
          obtain ⟨rfl, rest⟩ := List.cons.inj same
          exact ⟨rfl, ih fewer.2 rest⟩
  · exact List.filterMap_congr

/-! ## Texts -/

/-- Texts that say something in one of them at most: all are empty, or there is one that is not blank. -/
def OneText (texts : List String) : Prop :=
  (∀ text ∈ texts, text = "") ∨ texts.length ≤ 1 ∧ ∀ text ∈ texts, scriptTrim text ≠ ""

instance (texts : List String) : Decidable (OneText texts) := inferInstanceAs (Decidable (_ ∨ _))

theorem length_flatMap_toList (texts : List String) :
    (texts.flatMap String.toList).length + texts.length = lineWeight texts := by
  induction texts with
  | nil => rfl
  | cons text texts ih =>
    have step : lineWeight (text :: texts) = text.length + 1 + lineWeight texts := by
      simp [lineWeight]
    rw [List.flatMap_cons, List.length_append, List.length_cons, step, String.length_toList]
    omega

theorem intercalate_empty {texts : List String} (empty : ∀ text ∈ texts, text = "") :
    ∀ char ∈ ("\n".intercalate texts).toList, char = '\n' := by
  induction texts with
  | nil => simp
  | cons text texts ih =>
    rw [List.forall_mem_cons] at empty
    obtain ⟨rfl, rest⟩ := empty
    cases texts with
    | nil => simp
    | cons next texts =>
      intro char isIn
      rw [String.intercalate_cons_cons] at isIn
      simp only [String.toList_append, String.toList_empty, List.nil_append, List.mem_append] at isIn
      rcases isIn with line | later
      · simpa using line
      · exact ih rest char later

theorem texts_agree_iff {text : String} {texts : List String}
    (same : text.toList.Perm (texts.flatMap String.toList))
    (one : texts.length ≤ 1 → text = String.join texts) :
    textPart text = textPart ("\n".intercalate texts) ∧ Spoken text ↔ OneText texts := by
  have empty : text = "" ↔ ∀ piece ∈ texts, piece = "" := by
    rw [← String.toList_inj, String.toList_empty, ← List.length_eq_zero_iff, same.length_eq,
      List.length_eq_zero_iff, List.flatMap_eq_nil_iff]
    simp
  match texts, one with
  | [], one =>
    have none : text = "" := one (Nat.zero_le 1)
    subst none
    simp [Spoken, OneText]
  | [piece], one =>
    have alone : text = piece := by
      rw [one (Nat.le_refl 1), ← String.toList_inj, String.toList_join]
      simp
    subst alone
    simp [Spoken, OneText]
  | piece :: next :: rest, _ =>
    -- two texts or more are longer when they are joined by line breaks
    have lengths := length_flatMap_toList (piece :: next :: rest)
    have joined := length_intercalate piece (next :: rest)
    have whole : text.length = ((piece :: next :: rest).flatMap String.toList).length := by
      rw [← String.length_toList, same.length_eq]
    have apart : text ≠ "\n".intercalate (piece :: next :: rest) := by
      intro equal
      rw [← equal] at joined
      rw [List.length_cons, List.length_cons] at lengths
      omega
    have many : ¬ (piece :: next :: rest).length ≤ 1 := by simp
    rw [textPart_eq_iff, OneText, ← empty]
    constructor
    · rintro ⟨⟨_, agree⟩, none | spoken⟩
      · exact .inl none
      · exact absurd (agree spoken) apart
    · rintro (none | few)
      · have blank : scriptTrim ("\n".intercalate (piece :: next :: rest)) = "" := by
          refine (trimWith_eq_empty _ _).mpr fun char isIn => ?_
          rw [intercalate_empty (empty.mp none) char isIn]
          rfl
        subst none
        exact ⟨⟨⟨fun _ => blank, fun _ => rfl⟩, fun spoken => absurd rfl spoken⟩, .inl rfl⟩
      · exact absurd few.1 many

end Zero3Pilot.ProviderBridge
