import Zero3Pilot.ProviderBridge.GlmHistory

/-! # The dialogues of the other two providers

What `zero3ApiAnthropicPayload` and `zero3ApiGeminiPayload` keep of their items. Both write a dialogue in
which the speakers alternate; a group of calls joins what the assistant says, and its replies are the next
speech of the user. -/

namespace Zero3Pilot.ProviderBridge

open List (append_nil filterMap_append filterMap_map filter_append filter_cons_of_neg
  filter_cons_of_pos map_append map_cons map_map map_nil)

/-! ## The dialogue of the other two providers -/

section Dialogue

variable {Block : Type}

def pushBlocks (messages : List (Speech Block)) (role : Speaker) (blocks : List Block) :
    List (Speech Block) :=
  match messages.getLast? with
  | some last =>
    if last.role = role then
      messages.dropLast ++ [{ last with content := last.content ++ blocks }]
    else messages ++ [⟨role, blocks⟩]
  | none => [⟨role, blocks⟩]

theorem foldl_pushBlock {α : Type} (block : α → Block) (role : Speaker) (first : α) (rest : List α)
    (messages : List (Speech Block)) :
    (first :: rest).foldl (fun messages item => pushBlock messages role (block item)) messages =
      pushBlocks messages role ((first :: rest).map block) := by
  have more : ∀ (front : List (Speech Block)) (content : List Block) (items : List α),
      items.foldl (fun messages item => pushBlock messages role (block item))
        (front ++ [⟨role, content⟩]) = front ++ [⟨role, content ++ items.map block⟩] := by
    intro front content items
    induction items generalizing content with
    | nil => simp
    | cons item items ih =>
      rw [List.foldl_cons]
      have one : pushBlock (front ++ [⟨role, content⟩]) role (block item) =
          front ++ [⟨role, content ++ [block item]⟩] := by
        simp [pushBlock]
      rw [one, ih, map_cons, List.append_assoc]
      rfl
  rw [List.foldl_cons]
  cases last : messages.getLast? with
  | none =>
    have one : pushBlock messages role (block first) = [] ++ [⟨role, [block first]⟩] := by
      rw [pushBlock, last]
      rfl
    rw [one, more, pushBlocks, last]
    rfl
  | some speech =>
    obtain ⟨front, rfl⟩ := List.getLast?_eq_some_iff.1 last
    obtain ⟨speaker, content⟩ := speech
    by_cases same : speaker = role
    · subst same
      have one : pushBlock (front ++ [⟨speaker, content⟩]) speaker (block first) =
          front ++ [⟨speaker, content ++ [block first]⟩] := by
        simp [pushBlock]
      rw [one, more]
      simp [pushBlocks]
    · have one : pushBlock (front ++ [⟨speaker, content⟩]) role (block first) =
          (front ++ [⟨speaker, content⟩]) ++ [⟨role, [block first]⟩] := by
        simp [pushBlock, same]
      rw [one, more]
      simp [pushBlocks, same]

/-- **How blocks are pushed**: they join the last speech, or make the next one. -/
theorem pushBlocks_cases (messages : List (Speech Block)) (role : Speaker) (blocks : List Block) :
    (∃ front last, messages = front ++ [last] ∧ last.role = role ∧ pushBlocks messages role blocks =
        front ++ [{ last with content := last.content ++ blocks }]) ∨
    (∀ last ∈ messages.getLast?, last.role ≠ role) ∧
      pushBlocks messages role blocks = messages ++ [⟨role, blocks⟩] := by
  unfold pushBlocks
  cases found : messages.getLast? with
  | none =>
    have none : messages = [] := List.getLast?_eq_none_iff.1 found
    subst none
    refine .inr ⟨?_, rfl⟩
    rintro last ⟨⟩
  | some last =>
    obtain ⟨front, rfl⟩ := List.getLast?_eq_some_iff.1 found
    dsimp only
    by_cases same : last.role = role
    · rw [if_pos same, List.dropLast_concat]
      exact .inl ⟨front, last, rfl, same, rfl⟩
    · rw [if_neg same]
      refine .inr ⟨?_, rfl⟩
      rintro other ⟨⟩
      exact same

def readSpeeches {α : Type} (read : Block → Option α) (messages : List (Speech Block)) : List α :=
  messages.flatMap fun speech => speech.content.filterMap read

theorem readSpeeches_pushBlocks {α : Type} (read : Block → Option α)
    (messages : List (Speech Block)) (role : Speaker) (blocks : List Block) :
    readSpeeches read (pushBlocks messages role blocks) =
      readSpeeches read messages ++ blocks.filterMap read := by
  obtain ⟨front, last, rfl, _, pushed⟩ | ⟨_, pushed⟩ := pushBlocks_cases messages role blocks
  · rw [pushed]
    simp [readSpeeches, filterMap_append]
  · rw [pushed]
    simp [readSpeeches]

theorem alternate_pushBlocks {messages : List (Speech Block)}
    (alternate : (messages.map Speech.role).IsChain (· ≠ ·)) (role : Speaker) (blocks : List Block) :
    ((pushBlocks messages role blocks).map Speech.role).IsChain (· ≠ ·) := by
  obtain ⟨front, last, rfl, _, pushed⟩ | ⟨other, pushed⟩ := pushBlocks_cases messages role blocks
  · rw [pushed]
    rw [map_append] at alternate ⊢
    exact alternate
  · rw [pushed, map_append, List.isChain_append]
    refine ⟨alternate, List.isChain_singleton _, ?_⟩
    intro speaker found next first
    cases first
    rw [List.getLast?_map] at found
    obtain ⟨last, isLast, rfl⟩ := Option.map_eq_some_iff.1 found
    exact other last isLast

def Answered (reading : BlockReading Block) (messages : List (Speech Block)) : Prop :=
  (messages.map fun speech => (speech.content.filterMap reading.reply).map Prod.fst) ++ [[]] =
    [] :: messages.map fun speech => (speech.content.filterMap reading.call).map SentCall.key

variable {reading : BlockReading Block}

theorem Answered.push_text {messages : List (Speech Block)} (answered : Answered reading messages)
    (role : Speaker) {block : Block} (noCall : reading.call block = none)
    (noReply : reading.reply block = none) :
    Answered reading (pushBlocks messages role [block]) := by
  obtain ⟨front, last, rfl, _, pushed⟩ | ⟨_, pushed⟩ := pushBlocks_cases messages role [block]
  · rw [pushed]
    simpa [Answered, noCall, noReply] using answered
  · rw [pushed]
    unfold Answered at answered ⊢
    simp only [map_append, map_cons, map_nil, List.filterMap_cons_none noReply,
      List.filterMap_cons_none noCall, List.filterMap_nil]
    rw [answered]
    rfl

/-- **A group is answered at once**: its calls join or make a speech of the assistant, and its replies are
the next one of the user. -/
theorem Answered.push_group {messages : List (Speech Block)} (answered : Answered reading messages)
    {calls replies : List Block} (noReplies : calls.filterMap reading.reply = [])
    (noCalls : replies.filterMap reading.call = [])
    (same : (replies.filterMap reading.reply).map Prod.fst =
      (calls.filterMap reading.call).map SentCall.key) :
    Answered reading (pushBlocks (pushBlocks messages .assistant calls) .user replies) := by
  have next (front : List (Speech Block)) (last : Speech Block) (role : last.role = .assistant) :
      pushBlocks (front ++ [last]) .user replies = front ++ [last] ++ [⟨.user, replies⟩] := by
    simp [pushBlocks, role]
  obtain ⟨front, last, rfl, role, pushed⟩ | ⟨_, pushed⟩ := pushBlocks_cases messages .assistant calls
  · rw [pushed, next front ⟨last.role, last.content ++ calls⟩ role]
    unfold Answered at answered ⊢
    simp only [map_append, map_cons, map_nil, filterMap_append, noReplies, noCalls,
      same, append_nil] at answered ⊢
    -- the last speech had no calls of its own yet
    obtain ⟨before, lastCalls⟩ := List.append_inj' (answered.trans (List.cons_append ..).symm) rfl
    rw [before, ← List.head_eq_of_cons_eq lastCalls]
    rfl
  · rw [pushed, next messages _ rfl]
    unfold Answered at answered ⊢
    simp only [map_append, map_cons, map_nil, noReplies, noCalls, same]
    rw [answered]
    rfl

structure StyleRead (style : BlockStyle Block) (reading : BlockReading Block) : Prop where
  text : ∀ said, reading.text (style.text said) = some said
  textCall : ∀ said, reading.call (style.text said) = none
  textReply : ∀ said, reading.reply (style.text said) = none
  call : ∀ entry, reading.call (style.call entry) =
    some ⟨reading.key entry.id entry.call.name, entry.call.name, entry.call.arguments⟩
  callText : ∀ entry, reading.text (style.call entry) = none
  callReply : ∀ entry, reading.reply (style.call entry) = none
  reply : ∀ entry, reading.reply (style.reply entry) =
    some (reading.key entry.id entry.call.name, entry.reply.getD toolOutputUnrecorded)
  replyText : ∀ entry, reading.text (style.reply entry) = none
  replyCall : ∀ entry, reading.call (style.reply entry) = none

/-- A message is the system's. -/
def DialogueSaid.isSystem (said : DialogueSaid) : Bool :=
  textOf said.role = "system" ∨ textOf said.role = "developer"

def entryCall (reading : BlockReading Block) (entry : CallEntry String (ToolCall Json) String) :
    SentCall :=
  ⟨reading.key entry.id entry.call.name, entry.call.name, entry.call.arguments⟩

def entryReply (reading : BlockReading Block) (entry : CallEntry String (ToolCall Json) String) :
    String × String :=
  (reading.key entry.id entry.call.name, entry.reply.getD toolOutputUnrecorded)

structure DialogueWritten (reading : BlockReading Block) (instructions : List String)
    (turns : List (Turn String DialogueSaid Empty (ToolCall Json) String))
    (dialogue : Dialogue Block) : Prop where
  alternate : (dialogue.messages.map Speech.role).IsChain (· ≠ ·)
  answered : Answered reading dialogue.messages
  calls : readSpeeches reading.call dialogue.messages =
    (turns.flatMap Turn.entries).map (entryCall reading)
  replies : readSpeeches reading.reply dialogue.messages =
    (turns.flatMap Turn.entries).map (entryReply reading)
  texts : readSpeeches reading.text dialogue.messages =
    ((turns.filterMap Turn.message?).filter fun said => !said.isSystem).map DialogueSaid.text
  system : dialogue.systemParts = instructions ++
    ((turns.filterMap Turn.message?).filter DialogueSaid.isSystem).map DialogueSaid.text

variable {style : BlockStyle Block}

theorem DialogueWritten.tell (read : StyleRead style reading) {instructions : List String}
    {turns : List (Turn String DialogueSaid Empty (ToolCall Json) String)} {dialogue : Dialogue Block}
    (written : DialogueWritten reading instructions turns dialogue)
    (turn : Turn String DialogueSaid Empty (ToolCall Json) String) (some : turn ≠ .group []) :
    DialogueWritten reading instructions (turns ++ [turn])
      ((dialogueScribe style).tell dialogue turn) := by
  cases turn with
  | noted note => exact note.elim
  | said said =>
    show DialogueWritten reading instructions _ (dialogue.say style said)
    unfold Dialogue.say
    dsimp only
    have told : (turns ++ [Turn.said said]).filterMap Turn.message? =
        turns.filterMap Turn.message? ++ [said] := by
      rw [filterMap_append]
      rfl
    have entries : (turns ++ [Turn.said said]).flatMap Turn.entries = turns.flatMap Turn.entries := by
      rw [List.flatMap_append]
      exact append_nil _
    by_cases system : textOf said.role = "system" ∨ textOf said.role = "developer"
    · have isSystem : said.isSystem = true := by simpa [DialogueSaid.isSystem] using system
      rw [if_pos system]
      constructor
      · exact written.alternate
      · exact written.answered
      · rw [entries]
        exact written.calls
      · rw [entries]
        exact written.replies
      · rw [told]
        simpa [filter_append, isSystem] using written.texts
      · rw [told]
        simp [filter_append, isSystem, written.system]
    · have isSystem : said.isSystem = false := by simpa [DialogueSaid.isSystem] using system
      rw [if_neg system]
      generalize (if textOf said.role = "assistant" then Speaker.assistant else .user) = speaker
      have pushed : pushBlock dialogue.messages speaker (style.text said.text) =
          pushBlocks dialogue.messages speaker [style.text said.text] := rfl
      rw [pushed]
      constructor
      · exact alternate_pushBlocks written.alternate _ _
      · exact written.answered.push_text _ (read.textCall _) (read.textReply _)
      · rw [entries, readSpeeches_pushBlocks, List.filterMap_cons_none (read.textCall _)]
        exact (append_nil _).trans written.calls
      · rw [entries, readSpeeches_pushBlocks, List.filterMap_cons_none (read.textReply _)]
        exact (append_nil _).trans written.replies
      · rw [told, readSpeeches_pushBlocks, List.filterMap_cons_some (read.text _), written.texts]
        simp [filter_append, isSystem]
      · rw [told]
        simpa [filter_append, isSystem] using written.system
  | group entries =>
    show DialogueWritten reading instructions _ (dialogue.write style entries)
    have told : (turns ++ [Turn.group entries]).filterMap Turn.message? =
        turns.filterMap Turn.message? := by
      rw [filterMap_append]
      exact append_nil _
    have added : (turns ++ [Turn.group entries]).flatMap Turn.entries =
        turns.flatMap Turn.entries ++ entries := by
      simp [Turn.entries]
    obtain ⟨first, rest, rfl⟩ : ∃ first rest, entries = first :: rest := by
      cases entries with
      | nil => exact absurd rfl some
      | cons first rest => exact ⟨first, rest, rfl⟩
    unfold Dialogue.write
    dsimp only
    rw [foldl_pushBlock, foldl_pushBlock]
    generalize first :: rest = entries at told added
    have calls : (entries.map style.call).filterMap reading.call = entries.map (entryCall reading) := by
      rw [filterMap_map, ← List.filterMap_eq_map]
      exact List.filterMap_congr fun entry _ => read.call entry
    have replies : (entries.map style.reply).filterMap reading.reply =
        entries.map (entryReply reading) := by
      rw [filterMap_map, ← List.filterMap_eq_map]
      exact List.filterMap_congr fun entry _ => read.reply entry
    have silent {α : Type} (readBlock : Block → Option α)
        (block : CallEntry String (ToolCall Json) String → Block)
        (none : ∀ entry, readBlock (block entry) = none) :
        (entries.map block).filterMap readBlock = [] := by
      rw [filterMap_map, List.filterMap_eq_nil_iff]
      exact fun entry _ => none entry
    constructor
    · exact alternate_pushBlocks (alternate_pushBlocks written.alternate _ _) _ _
    · apply written.answered.push_group
      · exact silent _ _ read.callReply
      · exact silent _ _ read.replyCall
      · rw [calls, replies, map_map, map_map]
        rfl
    · rw [added, readSpeeches_pushBlocks, readSpeeches_pushBlocks, calls,
        silent _ _ read.replyCall, written.calls, append_nil, map_append]
    · rw [added, readSpeeches_pushBlocks, readSpeeches_pushBlocks, replies,
        silent _ _ read.callReply, written.replies, append_nil, map_append]
    · rw [told, readSpeeches_pushBlocks, readSpeeches_pushBlocks, silent _ _ read.callText,
        silent _ _ read.replyText, append_nil, append_nil]
      exact written.texts
    · rw [told]
      exact written.system

theorem DialogueWritten.tells (read : StyleRead style reading) {instructions : List String}
    (turns : List (Turn String DialogueSaid Empty (ToolCall Json) String))
    {told : List (Turn String DialogueSaid Empty (ToolCall Json) String)} {dialogue : Dialogue Block}
    (written : DialogueWritten reading instructions told dialogue)
    (some : ∀ turn ∈ turns, turn ≠ .group []) :
    DialogueWritten reading instructions (told ++ turns)
      (turns.foldl (dialogueScribe style).tell dialogue) := by
  induction turns generalizing told dialogue with
  | nil =>
    rw [append_nil]
    exact written
  | cons turn rest ih =>
    have next := written.tell read turn (some turn List.mem_cons_self)
    have later := ih next fun other member => some other (List.mem_cons_of_mem _ member)
    rwa [List.append_assoc] at later

def dialogueSaid (item : Json) : DialogueSaid :=
  ⟨item.get "role", zero3GlmText (item.get "content")⟩

/-- The arguments that a call is sent with. -/
def dialogueArguments (parse : String → Option Json) (item : Json) : Json :=
  zero3ApiAgentToolArguments parse (givenArguments item)

theorem dialogueReads (parse : String → Option Json) :
    Reads (dialogueRecord parse) (dialogueArguments parse) isTextMessage dialogueSaid := by
  constructor
  · intro item call
    have types := call
    simp only [isCall, decide_eq_true_eq] at types
    rw [dialogueRecord, if_neg, if_pos call]
    · rfl
    · obtain type | type := types <;> simp [type]
  · intro item output
    have types := output
    simp only [isOutput, decide_eq_true_eq] at types
    have noCall : ¬ isCall item = true := by
      intro call
      rw [not_isOutput_of_isCall call] at output
      cases output
    rw [dialogueRecord, if_neg, if_neg noCall, if_pos output]
    obtain type | type | type := types <;> simp [type]
  · intro item message
    obtain ⟨type, text⟩ : itemType item = "message" ∧ zero3GlmText (item.get "content") ≠ "" := by
      simpa [isTextMessage, isMessage] using message
    rw [dialogueRecord, if_pos type]
    exact if_neg text
  · intro item noCall noOutput quiet
    rw [dialogueRecord]
    by_cases type : itemType item = "message"
    · have blank : zero3GlmText (item.get "content") = "" := by
        simpa [isTextMessage, isMessage, type] using quiet
      rw [if_pos type]
      exact .inl (if_pos blank)
    · rw [if_neg type, if_neg (by simp [noCall]), if_neg (by simp [noOutput])]
      exact .inl rfl
  · intro item message
    have both : isMessage item = true := (Bool.and_eq_true_iff.1 message).1
    simpa [isMessage] using both

/-- **What is written of a request.** -/
theorem dialogueWritten (read : StyleRead style reading) (parse : String → Option Json) (body : Json) :
    DialogueWritten reading (dialogueInstructions body)
      (turnsOf ((requestItems (body.get "input")).filterMap (dialogueRecord parse)))
      (dialogueOf parse style body) := by
  rw [dialogueOf, transcribe_eq]
  have start : DialogueWritten reading (dialogueInstructions body) []
      (⟨[], dialogueInstructions body⟩ : Dialogue Block) :=
    ⟨List.isChain_nil, rfl, rfl, rfl, rfl, (append_nil _).symm⟩
  exact DialogueWritten.tells read _ start (groups_nonempty _)

theorem messageTexts_cons (item : Json) (rest : List Json) : messageTexts (item :: rest) =
      if isTextMessage item then zero3GlmText (item.get "content") :: messageTexts rest
      else messageTexts rest := by
  unfold messageTexts
  by_cases message : itemType item = "message"
  · rw [filter_cons_of_pos (by simp [message]), map_cons, List.filter_cons]
    simp [isTextMessage, isMessage, message]
  · rw [filter_cons_of_neg (by simp [message])]
    simp [isTextMessage, isMessage, message]

theorem messageTexts_filter (items : List Json) (wanted : Json → Bool) :
    messageTexts (items.filter wanted) =
      ((items.filter isTextMessage).filter wanted).map fun item =>
        zero3GlmText (item.get "content") := by
  induction items with
  | nil => rfl
  | cons item rest ih =>
    by_cases isWanted : wanted item = true
    · rw [filter_cons_of_pos isWanted, messageTexts_cons, ih]
      by_cases message : isTextMessage item = true
      · rw [if_pos message, filter_cons_of_pos message, filter_cons_of_pos isWanted, map_cons]
      · rw [if_neg message, filter_cons_of_neg message]
    · rw [filter_cons_of_neg isWanted, ih]
      by_cases message : isTextMessage item = true
      · rw [filter_cons_of_pos message, filter_cons_of_neg isWanted]
      · rw [filter_cons_of_neg message]

theorem denotes_iff (parse : String → Option Json) (text : String) :
    Denotes parse text (zero3ApiAgentToolArguments parse (some (.string text))) ↔
      Readable parse text := by
  unfold Denotes Readable zero3ApiAgentToolArguments
  by_cases blank : scriptTrim text = ""
  · simp [blank]
  · simp only [blank, false_and, or_false, false_or]
    cases parsed : parse text with
    | none => simp
    | some value => cases value <;> simp [ScriptValue.asRecord]

theorem eq_some_string {value : ScriptValue} {text : String}
    (given : ScriptValue.text? value = some text) : value = some (.string text) := by
  cases value with
  | none => cases given
  | some tree => cases tree <;> cases given; rfl

/-- **The dialogue of a request keeps everything** exactly when outputs are prompt and arguments are
objects. -/
theorem dialogueLaw_iff (read : StyleRead style reading) (parse : String → Option Json) (body : Json) :
    DialogueLaw reading parse (requestItems (body.get "input")) (dialogueInstructions body)
        (dialogueOf parse style body).messages
        (systemText (dialogueOf parse style body).systemParts) ↔
      (∀ call ∈ namedCalls [] (requestItems (body.get "input")), Prompt isTextMessage call) ∧
      ∀ call ∈ namedCalls [] (requestItems (body.get "input")), ∀ text, call.text? = some text →
        Readable parse text := by
  have written := dialogueWritten read parse body
  have entries := (dialogueReads parse).entries (requestItems (body.get "input"))
  generalize dialogueOf parse style body = dialogue at written
  generalize requestItems (body.get "input") = items at written entries
  have told : (turnsOf (items.filterMap (dialogueRecord parse))).filterMap Turn.message? =
      (items.filter isTextMessage).map dialogueSaid := by
    rw [messages_told, (dialogueReads parse).messages]
  have calls : List.Forall₂ (fun call sent => sent.key = reading.key call.id call.name ∧
      sent.name = call.name ∧ ∀ text, call.text? = some text → Denotes parse text sent.arguments)
      (namedCalls [] items)
      (readSpeeches reading.call dialogue.messages) ↔
        ∀ call ∈ namedCalls [] items, ∀ text, call.text? = some text → Readable parse text := by
    rw [written.calls, List.forall₂_map_right_iff]
    apply forall₂_iff_forall entries
    intro call entry entryOf
    have made : entry.call.arguments = zero3ApiAgentToolArguments parse (givenArguments call.item) :=
      congrArg ToolCall.arguments entryOf.made
    have key : reading.key entry.id entry.call.name = reading.key call.id call.name := by
      rw [entryOf.id, entryOf.made]
    have value (text : String) (given : call.text? = some text) :
        (entryCall reading entry).arguments = zero3ApiAgentToolArguments parse (some (.string text)) := by
      rw [entryCall, made, eq_some_string given]
    constructor
    · rintro ⟨_, _, denotes⟩ text given
      have denoted := denotes text given
      rwa [value text given, denotes_iff] at denoted
    · intro readable
      refine ⟨key, congrArg ToolCall.name entryOf.made, fun text given => ?_⟩
      rw [value text given, denotes_iff]
      exact readable text given
  have replies : List.Forall₂ (fun call sent => sent.1 = reading.key call.id call.name ∧
      sent.2 ≠ "" ∧ AnsweredBy call sent.2) (namedCalls [] items)
      (readSpeeches reading.reply dialogue.messages) ↔
        ∀ call ∈ namedCalls [] items, Prompt isTextMessage call := by
    rw [written.replies, List.forall₂_map_right_iff]
    apply forall₂_iff_forall entries
    intro call entry entryOf
    have key : reading.key entry.id entry.call.name = reading.key call.id call.name := by
      rw [entryOf.id, entryOf.made]
    rw [← entryOf.answered_iff]
    constructor
    · rintro ⟨_, _, answered⟩
      exact answered
    · intro answered
      exact ⟨key, entryOf.reply_ne_empty, answered⟩
  constructor
  · intro law
    exact ⟨replies.1 law.replies, calls.1 law.calls⟩
  · rintro ⟨prompt, readable⟩
    constructor
    · exact written.alternate
    · exact written.answered
    · exact calls.2 readable
    · exact replies.2 prompt
    · refine written.texts.trans ?_
      rw [told, List.filter_map, map_map, messageTexts_filter]
      rfl
    · rw [written.system, told, List.filter_map, map_map, messageTexts_filter]
      rfl

end Dialogue

/-! ## All three conversations -/

theorem anthropicRead : StyleRead anthropicStyle anthropicReading := by
  constructor <;> intro <;> rfl

theorem geminiRead : StyleRead geminiStyle geminiReading := by
  constructor <;> intro <;> rfl

theorem mem_takeWhile_of_imp {α : Type} {strong weak : α → Bool}
    (weaker : ∀ item, strong item = true → weak item = true) {items : List α} {item : α}
    (member : item ∈ items.takeWhile strong) : item ∈ items.takeWhile weak := by
  induction items with
  | nil => cases member
  | cons first rest ih =>
    by_cases met : strong first = true
    · rw [List.takeWhile_cons_of_pos met] at member
      rw [List.takeWhile_cons_of_pos (weaker first met)]
      obtain rfl | later := List.mem_cons.1 member
      · exact List.mem_cons_self
      · exact List.mem_cons_of_mem _ (ih later)
    · rw [List.takeWhile_cons_of_neg met] at member
      cases member

theorem Prompt.later {call : NamedCall} (prompt : Prompt isMessage call) :
    Prompt isTextMessage call := by
  obtain none | some | said := prompt
  · exact .inl none
  · refine .inr (.inl ?_)
    obtain ⟨text, member⟩ := List.exists_mem_of_ne_nil _ some
    obtain ⟨item, found, rfl⟩ := List.mem_map.1 member
    obtain ⟨early, isIts⟩ := List.mem_filter.1 found
    have longer : item ∈ call.after.takeWhile fun item => !isTextMessage item := by
      refine mem_takeWhile_of_imp (fun item quiet => ?_) early
      have noMessage : isMessage item = false := by simpa using quiet
      simp [isTextMessage, noMessage]
    exact List.ne_nil_of_mem (List.mem_map_of_mem (List.mem_filter.2 ⟨longer, isIts⟩))
  · exact .inr (.inr said)

structure ConversationsKeep (parse : String → Option Json) (body : Json) (model : String)
    (reasoningFallback : Bool) : Prop where
  glm : GlmLaw (requestItems (body.get "input")) (givenInstructions (body.get "instructions"))
    (zero3GlmMessages (body.get "input") (body.get "instructions") reasoningFallback)
  anthropic : DialogueLaw anthropicReading parse (requestItems (body.get "input"))
    (dialogueInstructions body) (zero3ApiAnthropicPayload parse body model).messages
    (zero3ApiAnthropicPayload parse body model).system
  gemini : DialogueLaw geminiReading parse (requestItems (body.get "input"))
    (dialogueInstructions body) (zero3ApiGeminiPayload parse body).contents
    (zero3ApiGeminiPayload parse body).systemInstruction

/-- **The three conversations keep a tool history** exactly when it fits. -/
theorem conversations_keep_iff (parse : String → Option Json) (body : Json) (model : String)
    (reasoningFallback : Bool) (raws : List Json) (listed : body.get "input" = some (.array raws))
    (roles : ∀ item ∈ requestItems (body.get "input"), isMessage item = true →
      textOf (item.get "role") ≠ "tool") :
    ConversationsKeep parse body model reasoningFallback ↔
      HistoryFits parse (requestItems (body.get "input")) := by
  have anthropic := dialogueLaw_iff anthropicRead parse body
  have gemini := dialogueLaw_iff geminiRead parse body
  have glm := glmLaw_iff raws (body.get "instructions") reasoningFallback (by rwa [← listed])
  rw [← listed] at glm
  constructor
  · intro kept
    obtain ⟨prompt, plain⟩ := glm.1 kept.glm
    exact ⟨prompt, (anthropic.1 kept.anthropic).2, plain⟩
  · intro fits
    have later (call) (member : call ∈ namedCalls [] (requestItems (body.get "input"))) :=
      (fits.prompt call member).later
    exact ⟨glm.2 ⟨fits.prompt, fits.plain⟩, anthropic.2 ⟨later, fits.readable⟩,
      gemini.2 ⟨later, fits.readable⟩⟩

/-- Whether an output is prompt can be computed. -/
instance (ends : Json → Bool) (call : NamedCall) : Decidable (Prompt ends call) :=
  inferInstanceAs (Decidable (_ ∨ _ ∨ _))

def samplePart (text : String) : Json :=
  .array [.object [("type", .string "input_text"), ("text", .string text)]]

def sampleMessage (role text : String) : Json :=
  .object [("type", .string "message"), ("role", .string role), ("content", samplePart text)]

def sampleCall : Json :=
  .object [("type", .string "function_call"), ("call_id", .string "c"), ("name", .string "shell"),
    ("arguments", .string "\x7b\x7d")]

def sampleOutput : Json :=
  .object [("type", .string "function_call_output"), ("call_id", .string "c"),
    ("output", .string "ok")]

def sampleRequest (items : List Json) : Json := .object [("input", .array items)]

def parseEmpty (_ : String) : Option Json := some (.object [])

def answeredCall : List Json := [sampleMessage "user" "hi", sampleCall, sampleOutput]

/-- A call that is answered at once is kept. -/
theorem conversations_keep_iff_answered :
    ConversationsKeep parseEmpty (sampleRequest answeredCall) "m" false ↔
      HistoryFits parseEmpty (requestItems ((sampleRequest answeredCall).get "input")) :=
  conversations_keep_iff parseEmpty (sampleRequest answeredCall) "m" false answeredCall rfl
    (by decide +kernel)

def interruptedCall : List Json := [sampleCall, sampleMessage "assistant" "wait", sampleOutput]

/-- No conversation keeps the output of a call that comes after a message. -/
theorem conversations_counterexample :
    ¬ ConversationsKeep parseEmpty (sampleRequest interruptedCall) "m" false := by
  intro kept
  have glm := (glmLaw_iff interruptedCall none false (by decide +kernel)).1 kept.glm
  have late : ¬ ∀ call ∈ namedCalls [] (requestItems (some (.array interruptedCall))),
      Prompt isMessage call := by decide +kernel
  exact late glm.1

end Zero3Pilot.ProviderBridge
