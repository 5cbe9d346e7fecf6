import Mathlib.Algebra.GroupWithZero.Nat
import Mathlib.Algebra.Order.BigOperators.Group.List
import Mathlib.Algebra.Order.Group.Nat
import Zero3Pilot.ProviderBridge.ToolHistory

/-! # The messages of an OpenAI-compatible provider

What `zero3GlmMessages` keeps of its items. The messages are followed turn by turn: a group of calls is
attached to the text of its response, or stands alone, and is followed by its replies. A text is shortened
by each of its parts that is left out. -/

namespace Zero3Pilot.ProviderBridge

open List (append_nil filter_append map_cons map_map mem_cons_of_mem mem_cons_self mem_filter
  mem_map sum_cons)

/-! ## Lines that are left out -/

def lineWeight (texts : List String) : Nat := (texts.map fun text => text.length + 1).sum

theorem length_intercalate (first : String) (rest : List String) :
    ("\n".intercalate (first :: rest)).length + 1 = lineWeight (first :: rest) := by
  induction rest generalizing first with
  | nil =>
    rw [String.intercalate_singleton]
    rfl
  | cons next rest ih =>
    have later := ih next
    have one : ("\n" : String).length = 1 := rfl
    rw [String.intercalate_cons_cons, String.length_append, String.length_append, one]
    simp only [lineWeight, map_cons, sum_cons] at later ⊢
    omega

theorem lineWeight_sublist {kept texts : List String} (sublist : kept.Sublist texts) :
    lineWeight kept + texts.length ≤ lineWeight texts + kept.length := by
  induction sublist with
  | slnil => exact le_rfl
  | cons text _ ih =>
    simp only [lineWeight, map_cons, sum_cons, List.length_cons] at ih ⊢
    omega
  | cons_cons text _ ih =>
    simp only [lineWeight, map_cons, sum_cons, List.length_cons] at ih ⊢
    omega

/-- **Lines that are left out shorten a text.** -/
theorem joined_sublist {kept texts : List String} (sublist : kept.Sublist texts)
    (nonempty : ∀ text ∈ texts, text ≠ "") :
    ("\n".intercalate kept).length ≤ ("\n".intercalate texts).length ∧
      (("\n".intercalate kept).length = ("\n".intercalate texts).length → kept = texts) := by
  have weights := lineWeight_sublist sublist
  have lengths := sublist.length_le
  cases kept with
  | nil =>
    cases texts with
    | nil => exact ⟨le_rfl, fun _ => rfl⟩
    | cons first rest =>
      have some : first.length ≠ 0 := by
        intro zero
        exact nonempty first mem_cons_self (String.length_eq_zero_iff.1 zero)
      have whole := length_intercalate first rest
      have weight : lineWeight (first :: rest) = first.length + 1 + lineWeight rest := by
        simp [lineWeight]
      have none : ("\n".intercalate ([] : List String)).length = 0 := rfl
      constructor
      · omega
      · intro same
        omega
  | cons text others =>
    cases texts with
    | nil => cases sublist
    | cons first rest =>
      have part := length_intercalate text others
      have whole := length_intercalate first rest
      constructor
      · omega
      · intro same
        apply sublist.eq_of_length
        omega

theorem lengths_of_nonempty {α : Type} {items : List α} {short long : α → String}
    (shorter : ∀ item ∈ items, (short item).length ≤ (long item).length)
    (same : (items.map short).filter (· ≠ "") = (items.map long).filter (· ≠ "")) :
    ∀ item ∈ items, (short item).length = (long item).length := by
  have total (texts : List String) :
      ((texts.filter (· ≠ "")).map String.length).sum = (texts.map String.length).sum := by
    induction texts with
    | nil => rfl
    | cons text texts ih =>
      by_cases empty : text = ""
      · rw [List.filter_cons_of_neg (by simp [empty]), ih, empty]
        simp
      · rw [List.filter_cons_of_pos (by simp [empty]), map_cons, sum_cons, ih]
        rfl
  have sums : ((items.map short).map String.length).sum = ((items.map long).map String.length).sum := by
    rw [← total, same, total]
  clear same total
  induction items with
  | nil =>
    intro item member
    cases member
  | cons first rest ih =>
    have later (item : α) (member : item ∈ rest) := shorter item (mem_cons_of_mem _ member)
    have rests : ((rest.map short).map String.length).sum ≤
        ((rest.map long).map String.length).sum := by
      rw [map_map, map_map]
      exact List.sum_le_sum later
    have firsts := shorter first mem_cons_self
    simp only [map_cons, sum_cons] at sums
    intro item member
    obtain rfl | member := List.mem_cons.1 member
    · omega
    · exact ih later (by omega) item member

/-! ## The texts of a message -/

theorem shown_parts (parts : List Json) :
    ((parts.filterMap glmPart).map GlmPart.shown).filter (· ≠ "") =
      ((parts.filter isTextPart).map partText).filter (· ≠ "") := by
  induction parts with
  | nil => rfl
  | cons part rest ih =>
    by_cases isText : isTextPart part = true
    · have read : glmPart part = some (.text (partText part)) := by
        have given := isText
        simp only [isTextPart, decide_eq_true_eq] at given
        obtain ⟨text, found⟩ := Option.isSome_iff_exists.1 given.2
        rw [glmPart, if_pos isText, partText, found, textOf, found]
        rfl
      rw [List.filterMap_cons_some read, map_cons, List.filter_cons_of_pos isText, map_cons,
        List.filter_cons, List.filter_cons, ih]
      rfl
    · rw [List.filter_cons_of_neg isText, ← ih]
      have silent : ∀ sent, glmPart part = some sent → sent.shown = "" := by
        intro sent read
        rw [glmPart, if_neg isText] at read
        split at read
        · obtain ⟨url, _, rfl⟩ := Option.map_eq_some_iff.1 read
          rfl
        · cases read
      cases read : glmPart part with
      | none => rw [List.filterMap_cons_none read]
      | some sent =>
        rw [List.filterMap_cons_some read, map_cons, silent sent read]
        rfl

/-- **What is sent of a message** is at most its text, and is its text exactly when its texts are of the
known types. -/
theorem shown_content (content : ScriptValue) :
    (joinLines ((zero3GlmMessageContent content).map GlmPart.shown)).length ≤
        (zero3GlmText content).length ∧
      ((joinLines ((zero3GlmMessageContent content).map GlmPart.shown)).length =
        (zero3GlmText content).length → PlainParts content) ∧
      (PlainParts content →
        joinLines ((zero3GlmMessageContent content).map GlmPart.shown) = zero3GlmText content) := by
  have plainOf (none : ScriptValue.items? content = none) : PlainParts content := by
    intro part member
    rw [none] at member
    cases member
  cases content with
  | none => exact ⟨le_rfl, fun _ => plainOf rfl, fun _ => rfl⟩
  | some value =>
    cases value with
    | array parts =>
      let given := parts.filter fun part => partText part ≠ ""
      have known : ((parts.filter isTextPart).map partText).filter (· ≠ "") =
          (given.filter isTextPart).map partText := by
        rw [List.filter_map, List.filter_comm]
        rfl
      have every : (parts.map partText).filter (· ≠ "") = given.map partText := by
        rw [List.filter_map]
        rfl
      have sent : joinLines ((zero3GlmMessageContent (some (.array parts))).map GlmPart.shown) =
          "\n".intercalate ((given.filter isTextPart).map partText) := by
        rw [← known, ← shown_parts]
        rfl
      have whole : zero3GlmText (some (.array parts)) = "\n".intercalate (given.map partText) := by
        rw [← every]
        rfl
      have sublist : ((given.filter isTextPart).map partText).Sublist (given.map partText) :=
        List.filter_sublist.map partText
      have nonempty : ∀ text ∈ given.map partText, text ≠ "" := by
        intro text member
        rw [← every] at member
        simpa using (mem_filter.1 member).2
      obtain ⟨shorter, equal⟩ := joined_sublist sublist nonempty
      rw [sent, whole]
      refine ⟨shorter, fun same part member nonempty => ?_, fun plain => ?_⟩
      · have lengths := congrArg List.length (equal same)
        rw [List.length_map, List.length_map, List.length_filter_eq_length_iff] at lengths
        exact lengths part (mem_filter.2 ⟨member, by simpa using nonempty⟩)
      · have all : given.filter isTextPart = given := by
          apply List.filter_eq_self.2
          intro part member
          obtain ⟨member, nonempty⟩ := mem_filter.1 member
          exact plain part member (by simpa using nonempty)
        rw [all]
    | string text =>
      have same : joinLines ((zero3GlmMessageContent (some (.string text))).map GlmPart.shown) =
          zero3GlmText (some (.string text)) := by
        show "\n".intercalate ([text].filter (· ≠ "")) = text
        by_cases empty : text = ""
        · rw [empty]
          rfl
        · rw [List.filter_cons_of_pos (by simpa using empty), List.filter_nil,
            String.intercalate_singleton]
      exact ⟨le_of_eq (congrArg _ same), fun _ => plainOf rfl, fun _ => same⟩
    | null | bool _ | number _ | object _ => exact ⟨le_rfl, fun _ => plainOf rfl, fun _ => rfl⟩

/-! ## The messages of an OpenAI-compatible provider -/

theorem Paired.append {expected : List String} {messages more : List GlmMessage}
    (paired : Paired expected messages) (next : Paired [] more) : Paired expected (messages ++ more) := by
  induction messages generalizing expected with
  | nil =>
    cases paired
    exact next
  | cons message rest ih =>
    cases expected with
    | nil => exact ⟨paired.1, ih paired.2⟩
    | cons id ids =>
      obtain ⟨role, its, calls, text, content, later⟩ := paired
      exact ⟨role, its, calls, text, content, ih later⟩

theorem Paired.front {expected : List String} {messages rest : List GlmMessage} {message : GlmMessage}
    (paired : Paired expected (messages ++ message :: rest)) (plain : message.role ≠ .tool) :
    Paired expected messages := by
  induction messages generalizing expected with
  | nil =>
    cases expected with
    | nil => rfl
    | cons id ids => exact absurd paired.1 plain
  | cons first messages ih =>
    cases expected with
    | nil => exact ⟨paired.1, ih paired.2⟩
    | cons id ids =>
      obtain ⟨role, its, calls, text, content, later⟩ := paired
      exact ⟨role, its, calls, text, content, ih later⟩

theorem paired_replies (entries : List (CallEntry String (ToolCall String) String))
    (given : ∀ entry ∈ entries, entry.reply.getD toolOutputUnrecorded ≠ "") :
    Paired ((entries.map glmToolCall).map GlmToolCall.id) (entries.map glmReply) := by
  induction entries with
  | nil => rfl
  | cons entry rest ih =>
    have nonempty := given entry mem_cons_self
    refine ⟨rfl, rfl, rfl, ?_, ?_, ih fun other member => given other (mem_cons_of_mem _ member)⟩
    · intro empty
      exact nonempty (GlmContent.text.inj empty)
    · intro null
      cases null

def sentCalls (messages : List GlmMessage) : List GlmToolCall :=
  messages.flatMap fun message => message.toolCalls.getD []

def sentReplies (messages : List GlmMessage) : List GlmMessage :=
  messages.filter fun message => message.role = .tool

def sentTexts (messages : List GlmMessage) : List String :=
  ((messages.filter fun message => message.role ≠ .tool).map
    fun message => message.content.shown).filter (· ≠ "")

theorem sentCalls_append (messages more : List GlmMessage) :
    sentCalls (messages ++ more) = sentCalls messages ++ sentCalls more :=
  List.flatMap_append

theorem sentReplies_append (messages more : List GlmMessage) :
    sentReplies (messages ++ more) = sentReplies messages ++ sentReplies more :=
  filter_append ..

theorem sentTexts_append (messages more : List GlmMessage) :
    sentTexts (messages ++ more) = sentTexts messages ++ sentTexts more := by
  rw [sentTexts, filter_append, List.map_append, filter_append]
  rfl

/-- **The calls of a group are attached**: to the text of their response, or in a message of their own;
nothing else changes. -/
theorem attachCalls_spec {messages : List GlmMessage} (paired : Paired [] messages)
    (calls : List GlmToolCall) (carried : String) :
    ∃ front target, attachCalls messages calls carried = front ++ [target] ∧ Paired [] front ∧
      target.role = .assistant ∧ target.toolCalls = some calls ∧
      sentCalls front = sentCalls messages ∧ sentReplies front = sentReplies messages ∧
      sentTexts (front ++ [target]) = sentTexts messages := by
  have alone : ∀ messages : List GlmMessage,
      sentTexts (messages ++ [⟨.assistant, .null, some calls, none, carriedReasoning carried⟩]) =
        sentTexts messages := by
    intro messages
    rw [sentTexts_append]
    exact append_nil _
  unfold attachCalls
  cases last : messages.getLast? with
  | none =>
    have none : messages = [] := List.getLast?_eq_none_iff.1 last
    subst none
    exact ⟨[], _, rfl, rfl, rfl, rfl, rfl, rfl, alone []⟩
  | some previous =>
    obtain ⟨front, rfl⟩ := List.getLast?_eq_some_iff.1 last
    dsimp only
    by_cases joins : previous.role = .assistant ∧ previous.toolCalls = none
    · rw [if_pos joins, List.dropLast_concat]
      obtain ⟨role, none⟩ := joins
      have plain : previous.role ≠ .tool := by
        rw [role]
        decide
      refine ⟨front, _, rfl, paired.front plain, role, rfl, ?_, ?_, ?_⟩
      · rw [sentCalls_append]
        simp [sentCalls, none]
      · rw [sentReplies_append]
        simp [sentReplies, role]
      · rw [sentTexts_append, sentTexts_append]
        simp [sentTexts, role]
    · rw [if_neg joins]
      exact ⟨front ++ [previous], _, rfl, paired, rfl, rfl, rfl, rfl, alone _⟩

structure GlmWritten (instructions : List String)
    (turns : List (Turn String GlmSaid String (ToolCall String) String))
    (messages : List GlmMessage) : Prop where
  paired : Paired [] messages
  calls : sentCalls messages = (turns.flatMap Turn.entries).map glmToolCall
  replies : sentReplies messages = (turns.flatMap Turn.entries).map glmReply
  texts : sentTexts messages = instructions ++
    ((turns.filterMap Turn.message?).map fun said => joinLines (said.content.map GlmPart.shown)).filter
      (· ≠ "")

theorem GlmWritten.tell {instructions : List String}
    {turns : List (Turn String GlmSaid String (ToolCall String) String)} {draft : GlmDraft}
    (written : GlmWritten instructions turns draft.messages) (reasoningFallback : Bool)
    (turn : Turn String GlmSaid String (ToolCall String) String)
    (plain : ∀ said, turn = .said said → said.role ≠ .tool)
    (given : ∀ entry ∈ turn.entries, entry.reply.getD toolOutputUnrecorded ≠ "") :
    GlmWritten instructions (turns ++ [turn])
      ((glmScribe reasoningFallback).tell draft turn).messages := by
  cases turn with
  | said said =>
    have role := plain said rfl
    show GlmWritten instructions _ (draft.say said).messages
    unfold GlmDraft.say
    by_cases empty : said.content = []
    · rw [if_pos empty]
      constructor
      · exact written.paired
      · simpa [Turn.entries] using written.calls
      · simpa [Turn.entries] using written.replies
      · simpa [Turn.message?, empty, joinLines] using written.texts
    · rw [if_neg empty]
      constructor
      · exact written.paired.append ⟨role, rfl⟩
      · simpa [sentCalls_append, sentCalls, Turn.entries] using written.calls
      · simpa [sentReplies_append, sentReplies, Turn.entries, role] using written.replies
      · rw [sentTexts_append, written.texts]
        simp [sentTexts, Turn.message?, role, GlmContent.shown]
  | noted note =>
    have same : ((glmScribe reasoningFallback).tell draft (.noted note)).messages = draft.messages := by
      show (draft.note note).messages = _
      unfold GlmDraft.note
      split <;> rfl
    rw [same]
    constructor
    · exact written.paired
    · simpa [Turn.entries] using written.calls
    · simpa [Turn.entries] using written.replies
    · rw [List.filterMap_append]
      exact written.texts.trans (by rw [List.filterMap_cons_none rfl, List.filterMap_nil,
        append_nil])
  | group entries =>
    show GlmWritten instructions _ (draft.write reasoningFallback entries).messages
    unfold GlmDraft.write
    dsimp only
    generalize (if draft.reasoning ≠ "" then draft.reasoning
      else if reasoningFallback then reasoningUnrecorded else "") = carried
    obtain ⟨front, target, attached, paired, role, calls, sameCalls, sameReplies, sameTexts⟩ :=
      attachCalls_spec written.paired (entries.map glmToolCall) carried
    have others : sentCalls (entries.map glmReply) = [] ∧
        sentReplies (entries.map glmReply) = entries.map glmReply ∧
        sentTexts (entries.map glmReply) = [] := by
      refine ⟨?_, ?_, ?_⟩
      · simp [sentCalls, glmReply, List.flatMap_map]
      · apply List.filter_eq_self.2
        intro message member
        obtain ⟨entry, _, rfl⟩ := mem_map.1 member
        rfl
      · simp [sentTexts, glmReply]
    rw [attached]
    constructor
    · rw [List.append_assoc]
      apply paired.append
      have plain : target.role ≠ .tool := by
        rw [role]
        decide
      refine ⟨plain, ?_⟩
      rw [calls]
      exact paired_replies entries given
    · rw [sentCalls_append, sentCalls_append, others.1, sameCalls, written.calls]
      simp [sentCalls, calls, Turn.entries]
    · rw [sentReplies_append, sentReplies_append, others.2.1, sameReplies, written.replies]
      simp [sentReplies, role, Turn.entries]
    · rw [sentTexts_append, others.2.2, sameTexts, written.texts]
      simp [Turn.message?]

theorem GlmWritten.tells {instructions : List String} (reasoningFallback : Bool)
    (turns : List (Turn String GlmSaid String (ToolCall String) String))
    {told : List (Turn String GlmSaid String (ToolCall String) String)} {draft : GlmDraft}
    (written : GlmWritten instructions told draft.messages)
    (plain : ∀ turn ∈ turns, ∀ said, turn = .said said → said.role ≠ .tool)
    (given : ∀ turn ∈ turns, ∀ entry ∈ turn.entries, entry.reply.getD toolOutputUnrecorded ≠ "") :
    GlmWritten instructions (told ++ turns)
      (turns.foldl (glmScribe reasoningFallback).tell draft).messages := by
  induction turns generalizing told draft with
  | nil =>
    rw [append_nil]
    exact written
  | cons turn rest ih =>
    have next := written.tell reasoningFallback turn (plain turn mem_cons_self)
      (given turn mem_cons_self)
    have later := ih next (fun other member => plain other (mem_cons_of_mem _ member))
      (fun other member => given other (mem_cons_of_mem _ member))
    rwa [List.append_assoc] at later

def glmSaid (item : Json) : GlmSaid :=
  ⟨zero3GlmRole (item.get "role"), zero3GlmMessageContent (item.get "content")⟩

theorem glmReads : Reads glmRecord glmArguments isMessage glmSaid := by
  constructor
  · intro item call
    have types := call
    simp only [isCall, decide_eq_true_eq] at types
    rw [glmRecord, if_neg, if_neg, if_pos call]
    · obtain type | type := types <;> simp [type]
    · obtain type | type := types <;> simp [type]
  · intro item output
    have types := output
    simp only [isOutput, decide_eq_true_eq] at types
    have noCall : ¬ isCall item = true := by
      intro call
      rw [not_isOutput_of_isCall call] at output
      cases output
    rw [glmRecord, if_neg, if_neg, if_neg noCall, if_pos output]
    · obtain type | type | type := types <;> simp [type]
    · obtain type | type | type := types <;> simp [type]
  · intro item message
    have type : itemType item = "message" := by simpa [isMessage] using message
    rw [glmRecord, if_neg (by simp [type]), if_pos type]
    rfl
  · intro item noCall noOutput quiet
    have type : itemType item ≠ "message" := by simpa [isMessage] using quiet
    rw [glmRecord, if_neg type]
    split
    · exact .inr ⟨_, rfl⟩
    · rw [if_neg (by simp [noCall]), if_neg (by simp [noOutput])]
      exact .inl rfl
  · intro item message
    simpa [isMessage] using message

/-- The instructions, where they are not blank. -/
def givenInstructions (instructions : ScriptValue) : List String :=
  if scriptTrim (textOf instructions) = "" then [] else [textOf instructions]

theorem glmWritten_instructions (instructions : ScriptValue) :
    GlmWritten (givenInstructions instructions) [] (glmInstructions instructions) := by
  unfold givenInstructions glmInstructions
  by_cases blank : scriptTrim (textOf instructions) = ""
  · simp only [if_pos blank]
    exact ⟨rfl, rfl, rfl, rfl⟩
  · have nonempty : textOf instructions ≠ "" := by
      intro empty
      rw [empty] at blank
      exact blank (by decide)
    simp only [if_neg blank]
    refine ⟨⟨?_, rfl⟩, rfl, rfl, ?_⟩
    · rintro ⟨⟩
    · simp [sentTexts, GlmContent.shown, nonempty]

def glmEntries (items : List Json) : List (CallEntry String (ToolCall String) String) :=
  (turnsOf (items.filterMap glmRecord)).flatMap Turn.entries

/-- **What `zero3GlmMessages` writes of a list of items.** -/
theorem glmWritten (raws : List Json) (instructions : ScriptValue) (reasoningFallback : Bool)
    (plain : ∀ item ∈ requestItems (some (.array raws)), isMessage item = true →
      textOf (item.get "role") ≠ "tool") :
    GlmWritten (givenInstructions instructions)
      (turnsOf ((requestItems (some (.array raws))).filterMap glmRecord))
      (zero3GlmMessages (some (.array raws)) instructions reasoningFallback) := by
  have same : zero3GlmMessages (some (.array raws)) instructions reasoningFallback =
      ((turnsOf ((requestItems (some (.array raws))).filterMap glmRecord)).foldl
        (glmScribe reasoningFallback).tell ⟨glmInstructions instructions, ""⟩).messages := by
    rw [zero3GlmMessages, transcribe_eq]
    rfl
  rw [same]
  have entries := glmReads.entries (requestItems (some (.array raws)))
  generalize requestItems (some (.array raws)) = items at plain entries
  have start : GlmWritten (givenInstructions instructions) []
      (GlmDraft.mk (glmInstructions instructions) "").messages :=
    glmWritten_instructions instructions
  refine GlmWritten.tells reasoningFallback (turnsOf (items.filterMap glmRecord)) start ?_ ?_
  · rintro turn member said rfl
    have told : said ∈ (turnsOf (items.filterMap glmRecord)).filterMap Turn.message? :=
      List.mem_filterMap.2 ⟨_, member, rfl⟩
    rw [messages_told, glmReads.messages] at told
    obtain ⟨item, found, rfl⟩ := mem_map.1 told
    obtain ⟨member, message⟩ := mem_filter.1 found
    have role := plain item member message
    simp only [glmSaid, zero3GlmRole]
    split
    · rintro ⟨⟩
    split
    · rintro ⟨⟩
    split
    · rintro ⟨⟩
    split <;> rintro ⟨⟩
  · intro turn member entry isIts
    have listed : entry ∈ (turnsOf (items.filterMap glmRecord)).flatMap Turn.entries :=
      List.mem_flatMap.2 ⟨turn, member, isIts⟩
    obtain ⟨call, _, entryOf⟩ := exists_partner entries listed
    exact entryOf.reply_ne_empty

theorem glmArguments_of_text {item : Json} {text : String}
    (given : ScriptValue.text? (givenArguments item) = some text) : glmArguments item = text := by
  unfold givenArguments at given
  unfold glmArguments
  split at given
  · rename_i nullish
    have none : ScriptValue.text? (item.get "arguments") = none := by
      cases found : item.get "arguments" with
      | none => rfl
      | some value =>
        rw [found] at nullish
        cases value <;> first | rfl | cases nullish
    rw [none, given]
    rfl
  · rw [given]

/-- **The conversation of an OpenAI-compatible provider keeps everything** exactly when outputs are
prompt and texts are in parts of the known types. -/
theorem glmLaw_iff (raws : List Json) (instructions : ScriptValue) (reasoningFallback : Bool)
    (plain : ∀ item ∈ requestItems (some (.array raws)), isMessage item = true →
      textOf (item.get "role") ≠ "tool") :
    GlmLaw (requestItems (some (.array raws))) (givenInstructions instructions)
        (zero3GlmMessages (some (.array raws)) instructions reasoningFallback) ↔
      (∀ call ∈ namedCalls [] (requestItems (some (.array raws))), Prompt isMessage call) ∧
      ∀ item ∈ requestItems (some (.array raws)), isMessage item = true →
        PlainParts (item.get "content") := by
  have written := glmWritten raws instructions reasoningFallback plain
  have entries := glmReads.entries (requestItems (some (.array raws)))
  generalize zero3GlmMessages (some (.array raws)) instructions reasoningFallback = messages at written
  generalize requestItems (some (.array raws)) = items at written entries
  have texts : sentTexts messages = givenInstructions instructions ++
      ((items.filter isMessage).map fun item =>
        joinLines ((zero3GlmMessageContent (item.get "content")).map GlmPart.shown)).filter
          (· ≠ "") := by
    rw [written.texts, messages_told, glmReads.messages, map_map]
    rfl
  have replies : List.Forall₂ (fun call message => message.toolCallId = some call.id ∧
      ∃ reply, message.content = .text reply ∧ AnsweredBy call reply) (namedCalls [] items)
        (sentReplies messages) ↔ ∀ call ∈ namedCalls [] items, Prompt isMessage call := by
    rw [written.replies, List.forall₂_map_right_iff]
    apply forall₂_iff_forall entries
    intro call entry entryOf
    rw [← entryOf.answered_iff]
    constructor
    · rintro ⟨_, reply, content, answered⟩
      rw [GlmContent.text.inj content]
      exact answered
    · intro answered
      exact ⟨congrArg some entryOf.id, _, rfl, answered⟩
  constructor
  · intro law
    refine ⟨replies.1 law.replies, fun item member message => ?_⟩
    have same : sentTexts messages = givenInstructions instructions ++ messageTexts items := law.texts
    rw [texts] at same
    have lengths := lengths_of_nonempty
      (fun item _ => (shown_content (item.get "content")).1) (List.append_cancel_left same)
      item (mem_filter.2 ⟨member, message⟩)
    exact (shown_content (item.get "content")).2.1 lengths
  · rintro ⟨prompt, plain⟩
    constructor
    · exact written.paired
    · have calls : List.Forall₂ (fun call sent => sent.id = call.id ∧ sent.name = call.name ∧
          ∀ text, call.text? = some text → sent.arguments = text) (namedCalls [] items)
          (sentCalls messages) := by
        rw [written.calls, List.forall₂_map_right_iff]
        refine entries.imp fun call entry entryOf => ?_
        refine ⟨entryOf.id, congrArg ToolCall.name entryOf.made, fun text given => ?_⟩
        exact (congrArg ToolCall.arguments entryOf.made).trans (glmArguments_of_text given)
      exact calls
    · exact replies.2 prompt
    · have same : sentTexts messages = givenInstructions instructions ++ messageTexts items := by
        rw [texts]
        congr 2
        apply List.map_congr_left
        intro item member
        obtain ⟨member, message⟩ := mem_filter.1 member
        exact (shown_content (item.get "content")).2.2 (plain item member message)
      exact same

end Zero3Pilot.ProviderBridge
