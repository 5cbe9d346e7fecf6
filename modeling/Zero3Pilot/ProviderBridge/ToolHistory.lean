import Mathlib.Data.List.Chain
import Zero3Pilot.ProviderBridge.Conversation

/-! # What a conversation must keep of a tool history

The three conversations of `Conversation.lean` beside what the items say: which calls there are, which
outputs are recorded for them, and what the messages say. -/

namespace Zero3Pilot.ProviderBridge

/-! ## The calls and outputs of a list of items -/

structure NamedCall where
  item : Json
  after : List Json

namespace NamedCall

def id (call : NamedCall) : String := textOf (call.item.get "call_id")

def name (call : NamedCall) : String := textOf (call.item.get "name")

def text? (call : NamedCall) : Option String := ScriptValue.text? (givenArguments call.item)

end NamedCall

def isNamedCall (item : Json) : Bool :=
  isCall item && textOf (item.get "call_id") ≠ "" && textOf (item.get "name") ≠ ""

def namedCalls (known : List String) : List Json → List NamedCall
  | [] => []
  | item :: rest =>
    if isNamedCall item then
      if textOf (item.get "call_id") ∈ known then namedCalls known rest
      else ⟨item, rest⟩ :: namedCalls (textOf (item.get "call_id") :: known) rest
    else namedCalls known rest

def outputsFor (id : String) (items : List Json) : List String :=
  (items.filter fun item => isOutput item && textOf (item.get "call_id") = id).map outputText

def messageTexts (items : List Json) : List String :=
  ((items.filter fun item => itemType item = "message").map
    fun item => zero3GlmText (item.get "content")).filter (· ≠ "")

def AnsweredBy (call : NamedCall) (reply : String) : Prop :=
  (outputsFor call.id call.after = [] → reply = toolOutputUnrecorded) ∧
    (outputsFor call.id call.after ≠ [] → reply ∈ outputsFor call.id call.after)

/-! ## What a conversation must be like -/

/-- Every message with calls is followed by one reply to each of them, in order, and there are no other
replies. The replies that are still expected come first. -/
def Paired : List String → List GlmMessage → Prop
  | expected, [] => expected = []
  | [], message :: rest =>
    message.role ≠ .tool ∧ Paired ((message.toolCalls.getD []).map GlmToolCall.id) rest
  | id :: ids, message :: rest =>
    message.role = .tool ∧ message.toolCallId = some id ∧ message.toolCalls = none ∧
      message.content ≠ .text "" ∧ message.content ≠ .null ∧ Paired ids rest

def GlmPart.shown : GlmPart → String
  | .text said => said
  | .imageUrl _ => ""

/-- The text of a message that is sent. -/
def GlmContent.shown : GlmContent → String
  | .null => ""
  | .text said => said
  | .parts said => joinLines (said.map GlmPart.shown)

/-- **What the conversation of an OpenAI-compatible provider must keep of the items.** -/
structure GlmLaw (items : List Json) (instructions : List String) (messages : List GlmMessage) :
    Prop where
  paired : Paired [] messages
  calls : List.Forall₂ (fun call sent => sent.id = call.id ∧ sent.name = call.name ∧
      ∀ text, call.text? = some text → sent.arguments = text)
    (namedCalls [] items) (messages.flatMap fun message => message.toolCalls.getD [])
  replies : List.Forall₂ (fun call message => message.toolCallId = some call.id ∧
      ∃ reply, message.content = .text reply ∧ AnsweredBy call reply)
    (namedCalls [] items) (messages.filter fun message => message.role = .tool)
  /-- Every text occurs, in order. -/
  texts : ((messages.filter fun message => message.role ≠ .tool).map
      fun message => message.content.shown).filter (· ≠ "") = instructions ++ messageTexts items

structure SentCall where
  (key name : String)
  arguments : Json

/-- How the blocks of a protocol are read. -/
structure BlockReading (Block : Type) where
  /-- What a reply names its call by. -/
  key : String → String → String
  text : Block → Option String
  call : Block → Option SentCall
  reply : Block → Option (String × String)

def Denotes (parse : String → Option Json) (text : String) (value : Json) : Prop :=
  parse text = some value ∨ scriptTrim text = "" ∧ value = .object []

def isSystem (item : Json) : Bool :=
  textOf (item.get "role") = "system" ∨ textOf (item.get "role") = "developer"

/-- **What the dialogue of the other two providers must keep of the items.** -/
structure DialogueLaw {Block : Type} (reading : BlockReading Block) (parse : String → Option Json)
    (items : List Json) (instructions : List String) (messages : List (Speech Block))
    (system : Option String) : Prop where
  alternate : (messages.map Speech.role).IsChain (· ≠ ·)
  answered : (messages.map fun speech =>
      (speech.content.filterMap reading.reply).map Prod.fst) ++ [[]] =
    [] :: messages.map fun speech => (speech.content.filterMap reading.call).map SentCall.key
  calls : List.Forall₂ (fun call sent => sent.key = reading.key call.id call.name ∧
      sent.name = call.name ∧ ∀ text, call.text? = some text → Denotes parse text sent.arguments)
    (namedCalls [] items) (messages.flatMap fun speech => speech.content.filterMap reading.call)
  replies : List.Forall₂ (fun call sent => sent.1 = reading.key call.id call.name ∧ sent.2 ≠ "" ∧
      AnsweredBy call sent.2)
    (namedCalls [] items)
    (messages.flatMap fun speech => speech.content.filterMap reading.reply)
  /-- Every text occurs, in order, those of the system apart. -/
  texts : (messages.flatMap fun speech => speech.content.filterMap reading.text) =
    messageTexts (items.filter fun item => !isSystem item)
  system : system = systemText (instructions ++ messageTexts (items.filter isSystem))

def AnthropicBlock.text? : AnthropicBlock → Option String
  | .text said => some said
  | _ => none

def AnthropicBlock.call? : AnthropicBlock → Option SentCall
  | .toolUse id name input => some ⟨id, name, input⟩
  | _ => none

def AnthropicBlock.reply? : AnthropicBlock → Option (String × String)
  | .toolResult id content => some (id, content)
  | _ => none

def anthropicReading : BlockReading AnthropicBlock :=
  ⟨fun id _ => id, AnthropicBlock.text?, AnthropicBlock.call?, AnthropicBlock.reply?⟩

def GeminiPart.text? : GeminiPart → Option String
  | .text said => some said
  | _ => none

def GeminiPart.call? : GeminiPart → Option SentCall
  | .functionCall name args => some ⟨name, name, args⟩
  | _ => none

def GeminiPart.reply? : GeminiPart → Option (String × String)
  | .functionResponse name result => some (name, result)
  | _ => none

def geminiReading : BlockReading GeminiPart :=
  ⟨fun _ name => name, GeminiPart.text?, GeminiPart.call?, GeminiPart.reply?⟩

/-! ## When everything is kept -/

def isMessage (item : Json) : Bool := itemType item = "message"

/-- A message with a text ends the group of calls before it. -/
def isTextMessage (item : Json) : Bool :=
  isMessage item && zero3GlmText (item.get "content") ≠ ""

def promptOutputs (ends : Json → Bool) (call : NamedCall) : List String :=
  outputsFor call.id (call.after.takeWhile fun item => !ends item)

/-- A call whose output is recorded has one before its group ends, or one that reads like a missing
output. -/
def Prompt (ends : Json → Bool) (call : NamedCall) : Prop :=
  outputsFor call.id call.after = [] ∨ promptOutputs ends call ≠ [] ∨
    toolOutputUnrecorded ∈ outputsFor call.id call.after

def Readable (parse : String → Option Json) (text : String) : Prop :=
  scriptTrim text = "" ∨ ∃ members, parse text = some (.object members)

def PlainParts (content : ScriptValue) : Prop :=
  ∀ part ∈ (ScriptValue.items? content).getD [], partText part ≠ "" → isTextPart part = true

/-- **When all conversations keep everything**: outputs come before the next message, arguments are
objects, and texts are in parts of the known types. -/
structure HistoryFits (parse : String → Option Json) (items : List Json) : Prop where
  prompt : ∀ call ∈ namedCalls [] items, Prompt isMessage call
  readable : ∀ call ∈ namedCalls [] items, ∀ text, call.text? = some text → Readable parse text
  plain : ∀ item ∈ items, isMessage item = true → PlainParts (item.get "content")

theorem forall₂_iff_forall {α β : Type} {related wanted : α → β → Prop} {single : α → Prop}
    {left : List α} {right : List β} (pairs : List.Forall₂ related left right)
    (same : ∀ a b, related a b → (wanted a b ↔ single a)) :
    List.Forall₂ wanted left right ↔ ∀ a ∈ left, single a := by
  induction pairs with
  | nil => simp
  | cons first _ ih => rw [List.forall₂_cons, ih, same _ _ first, List.forall_mem_cons]

theorem exists_partner {α β : Type} {related : α → β → Prop} {left : List α} {right : List β}
    (pairs : List.Forall₂ related left right) {b : β} (member : b ∈ right) :
    ∃ a ∈ left, related a b := by
  induction pairs with
  | nil => cases member
  | cons first _ ih =>
    obtain rfl | later := List.mem_cons.1 member
    · exact ⟨_, List.mem_cons_self, first⟩
    · obtain ⟨a, found, its⟩ := ih later
      exact ⟨a, List.mem_cons_of_mem _ found, its⟩

/-! ## The records of the items -/

/-- How a converter reads items: calls and outputs alike, and what else there is as a message where it
ends a group. -/
structure Reads {Message Note Arguments : Type}
    (record : Json → Option (Recorded String Message Note (ToolCall Arguments) String))
    (arguments : Json → Arguments) (ends : Json → Bool) (said : Json → Message) : Prop where
  call : ∀ item, isCall item = true → record item = readCall arguments item
  output : ∀ item, isOutput item = true → record item = readOutput item
  message : ∀ item, ends item = true → record item = some (.said (said item))
  other : ∀ item, isCall item = false → isOutput item = false → ends item = false →
    record item = none ∨ ∃ note, record item = some (.noted note)
  ends_message : ∀ item, ends item = true → itemType item = "message"

theorem not_isOutput_of_isCall {item : Json} (call : isCall item = true) : isOutput item = false := by
  simp only [isCall, decide_eq_true_eq] at call
  obtain type | type := call <;> simp [isOutput, type]

theorem not_isCall_of_message {item : Json} (type : itemType item = "message") :
    isCall item = false ∧ isOutput item = false := by
  simp [isCall, isOutput, type]

theorem outputsFor_cons (id : String) (item : Json) (rest : List Json) :
    outputsFor id (item :: rest) =
      if isOutput item = true ∧ textOf (item.get "call_id") = id then
        outputText item :: outputsFor id rest
      else outputsFor id rest := by
  by_cases found : isOutput item = true ∧ textOf (item.get "call_id") = id
  · rw [if_pos found, outputsFor, List.filter_cons_of_pos (by simp [found]), List.map_cons]
    rfl
  · rw [if_neg found, outputsFor, List.filter_cons_of_neg (by simpa using found)]
    rfl

section Reading

variable {Message Note Arguments : Type}
  {record : Json → Option (Recorded String Message Note (ToolCall Arguments) String)}
  {arguments : Json → Arguments} {ends : Json → Bool} {said : Json → Message}
  (reads : Reads record arguments ends said)

def NamedCall.first (record : Json → Option (Recorded String Message Note (ToolCall Arguments) String))
    (arguments : Json → Arguments) (call : NamedCall) :
    FirstCall String Message Note (ToolCall Arguments) String :=
  ⟨call.id, ⟨call.name, arguments call.item⟩, call.after.filterMap record⟩

variable (record arguments ends said) in
inductive ReadAs (item : Json) : Prop where
  | call (named : isNamedCall item = true) (output : isOutput item = false) (quiet : ends item = false)
      (read : record item = some (.called (textOf (item.get "call_id"))
        ⟨textOf (item.get "name"), arguments item⟩))
  | output (named : isNamedCall item = false) (output : isOutput item = true)
      (quiet : ends item = false) (given : textOf (item.get "call_id") ≠ "")
      (read : record item = some (.answered (textOf (item.get "call_id")) (outputText item)))
  | message (named : isNamedCall item = false) (output : isOutput item = false)
      (ends : ends item = true) (read : record item = some (.said (said item)))
  | other (named : isNamedCall item = false)
      (output : isOutput item = true → textOf (item.get "call_id") = "") (quiet : ends item = false)
      (read : record item = none ∨ ∃ note, record item = some (.noted note))

include reads

theorem Reads.cases (item : Json) : ReadAs record arguments ends said item := by
  by_cases ending : ends item = true
  · obtain ⟨noCall, noOutput⟩ := not_isCall_of_message (reads.ends_message item ending)
    exact .message (by simp [isNamedCall, noCall]) noOutput ending (reads.message item ending)
  have quiet : ends item = false := by simpa using ending
  by_cases call : isCall item = true
  · have output := not_isOutput_of_isCall call
    have read := reads.call item call
    rw [readCall] at read
    by_cases missing : textOf (item.get "call_id") = "" ∨ textOf (item.get "name") = ""
    · rw [if_pos missing] at read
      refine .other ?_ (fun isOutput => ?_) quiet (.inl read)
      · simp only [isNamedCall, call, Bool.true_and]
        obtain missing | missing := missing <;> simp [missing]
      · rw [output] at isOutput
        cases isOutput
    · rw [if_neg missing] at read
      obtain ⟨id, name⟩ := not_or.1 missing
      exact .call (by simp [isNamedCall, call, id, name]) output quiet read
  · have noCall : isCall item = false := by simpa using call
    have unnamed : isNamedCall item = false := by simp [isNamedCall, noCall]
    by_cases output : isOutput item = true
    · have read := reads.output item output
      rw [readOutput] at read
      by_cases missing : textOf (item.get "call_id") = ""
      · rw [if_pos missing] at read
        exact .other unnamed (fun _ => missing) quiet (.inl read)
      · rw [if_neg missing] at read
        exact .output unnamed output quiet missing read
    · have noOutput : isOutput item = false := by simpa using output
      refine .other unnamed (fun isOutput => absurd isOutput output) quiet ?_
      exact reads.other item noCall noOutput quiet

/-- **The first calls of the records are the named calls.** -/
theorem Reads.firstCalls (items : List Json) (known : List String) :
    Zero3Pilot.firstCalls known (items.filterMap record) =
      (namedCalls known items).map (NamedCall.first record arguments) := by
  induction items generalizing known with
  | nil => rfl
  | cons item rest ih =>
    cases reads.cases item with
    | call named _ _ read =>
      rw [List.filterMap_cons_some read, namedCalls, if_pos named, Zero3Pilot.firstCalls]
      split
      · exact ih known
      · rw [List.map_cons, ih]
        rfl
    | output named _ _ _ read =>
      rw [List.filterMap_cons_some read, namedCalls, if_neg (by simp [named])]
      exact ih known
    | message named _ _ read =>
      rw [List.filterMap_cons_some read, namedCalls, if_neg (by simp [named])]
      exact ih known
    | other named _ _ read =>
      rw [namedCalls, if_neg (by simp [named])]
      obtain none | ⟨note, read⟩ := read
      · rw [List.filterMap_cons_none none]
        exact ih known
      · rw [List.filterMap_cons_some read]
        exact ih known

theorem Reads.promptReplies {id : String} (given : id ≠ "") (items : List Json) :
    Zero3Pilot.promptReplies id (items.filterMap record) =
      outputsFor id (items.takeWhile fun item => !ends item) := by
  induction items with
  | nil => rfl
  | cons item rest ih =>
    cases reads.cases item with
    | call _ output quiet read =>
      rw [List.filterMap_cons_some read, List.takeWhile_cons_of_pos (by simp [quiet]),
        outputsFor_cons, if_neg (by simp [output])]
      exact ih
    | output _ output quiet _ read =>
      rw [List.filterMap_cons_some read, List.takeWhile_cons_of_pos (by simp [quiet]),
        outputsFor_cons, Zero3Pilot.promptReplies, ih]
      simp only [output, true_and]
    | message _ _ ending read =>
      rw [List.filterMap_cons_some read, List.takeWhile_cons_of_neg (by simp [ending])]
      rfl
    | other _ output quiet read =>
      have noMatch : ¬ (isOutput item = true ∧ textOf (item.get "call_id") = id) := by
        rintro ⟨isOutput, rfl⟩
        exact given (output isOutput)
      rw [List.takeWhile_cons_of_pos (by simp [quiet]), outputsFor_cons, if_neg noMatch]
      obtain none | ⟨note, read⟩ := read
      · rw [List.filterMap_cons_none none]
        exact ih
      · rw [List.filterMap_cons_some read]
        exact ih

omit reads in
theorem isNamedCall_of_mem {items : List Json} {known : List String} {call : NamedCall}
    (member : call ∈ namedCalls known items) : isNamedCall call.item = true := by
  induction items generalizing known with
  | nil => cases member
  | cons item rest ih =>
    rw [namedCalls] at member
    by_cases named : isNamedCall item = true
    · rw [if_pos named] at member
      split at member
      · exact ih member
      · obtain rfl | later := List.mem_cons.1 member
        · exact named
        · exact ih later
    · rw [if_neg named] at member
      exact ih member

omit reads in
theorem id_ne_empty_of_mem {items : List Json} {known : List String} {call : NamedCall}
    (member : call ∈ namedCalls known items) : call.id ≠ "" := by
  have named := isNamedCall_of_mem member
  simp only [isNamedCall, Bool.and_eq_true, decide_eq_true_eq] at named
  exact named.1.2

variable (arguments ends) in
structure EntryOf (call : NamedCall) (entry : CallEntry String (ToolCall Arguments) String) :
    Prop where
  id : entry.id = call.id
  made : entry.call = ⟨call.name, arguments call.item⟩
  unanswered : entry.reply = none ↔ promptOutputs ends call = []
  recorded : ∀ reply, entry.reply = some reply → reply ∈ promptOutputs ends call

/-- **The entries of the turns are those of the named calls.** -/
theorem Reads.entries (items : List Json) :
    List.Forall₂ (EntryOf arguments ends) (namedCalls [] items)
      ((turnsOf (items.filterMap record)).flatMap Turn.entries) := by
  have fits := entries_fit (items.filterMap record)
  rw [reads.firstCalls, List.forall₂_map_left_iff] at fits
  have both := (List.forall₂_and_left _ _).2 ⟨fun call member => id_ne_empty_of_mem member, fits⟩
  refine both.imp fun call entry given => ?_
  obtain ⟨given, fits⟩ := given
  have prompt : Zero3Pilot.promptReplies call.id (call.after.filterMap record) =
      promptOutputs ends call := reads.promptReplies given call.after
  constructor
  · exact fits.id
  · exact fits.call
  · rw [fits.unanswered, ← prompt]
    exact and_iff_right rfl
  · intro reply found
    obtain early | member := fits.recorded reply found
    · cases early
    · rw [← prompt]
      exact member

omit reads in
theorem outputText_ne_empty (item : Json) : outputText item ≠ "" := by
  unfold outputText
  dsimp only
  split
  · decide
  · rename_i nonblank
    intro empty
    rw [empty] at nonblank
    exact nonblank (by decide)

omit reads in
theorem ne_empty_of_mem_outputsFor {id : String} {items : List Json} {text : String}
    (member : text ∈ outputsFor id items) : text ≠ "" := by
  obtain ⟨item, _, rfl⟩ := List.mem_map.1 member
  exact outputText_ne_empty item

omit reads in
theorem EntryOf.reply_ne_empty {call : NamedCall}
    {entry : CallEntry String (ToolCall Arguments) String} (entryOf : EntryOf arguments ends call entry) :
    entry.reply.getD toolOutputUnrecorded ≠ "" := by
  cases found : entry.reply with
  | none => decide
  | some reply => exact ne_empty_of_mem_outputsFor (entryOf.recorded reply found)

omit reads in
theorem promptOutputs_subset (call : NamedCall) :
    promptOutputs ends call ⊆ outputsFor call.id call.after := by
  intro text member
  obtain ⟨item, found, rfl⟩ := List.mem_map.1 member
  obtain ⟨early, isIts⟩ := List.mem_filter.1 found
  exact List.mem_map_of_mem (List.mem_filter.2 ⟨List.takeWhile_subset _ early, isIts⟩)

omit reads in
/-- **The reply of an entry answers its call** exactly when the output is prompt. -/
theorem EntryOf.answered_iff {call : NamedCall}
    {entry : CallEntry String (ToolCall Arguments) String}
    (entryOf : EntryOf arguments ends call entry) :
    AnsweredBy call (entry.reply.getD toolOutputUnrecorded) ↔ Prompt ends call := by
  cases found : entry.reply with
  | none =>
    have late := entryOf.unanswered.1 found
    rw [AnsweredBy, Prompt, late]
    simp only [Option.getD_none, implies_true, true_and, ne_eq, not_true_eq_false, false_or]
    exact imp_iff_not_or.trans (or_congr_left not_not)
  | some reply =>
    have member := entryOf.recorded reply found
    have isOutput := promptOutputs_subset call member
    have some : promptOutputs ends call ≠ [] := List.ne_nil_of_mem member
    rw [AnsweredBy, Prompt]
    constructor
    · exact fun _ => .inr (.inl some)
    · intro _
      exact ⟨fun none => absurd none (List.ne_nil_of_mem isOutput), fun _ => isOutput⟩

/-- **The messages of the records are those of the items that end a group.** -/
theorem Reads.messages (items : List Json) :
    (items.filterMap record).filterMap Recorded.message? = (items.filter ends).map said := by
  induction items with
  | nil => rfl
  | cons item rest ih =>
    cases reads.cases item with
    | call _ _ quiet read =>
      rw [List.filterMap_cons_some read, List.filter_cons_of_neg (by simp [quiet]), ← ih]
      rfl
    | output _ _ quiet _ read =>
      rw [List.filterMap_cons_some read, List.filter_cons_of_neg (by simp [quiet]), ← ih]
      rfl
    | message _ _ ending read =>
      rw [List.filterMap_cons_some read, List.filter_cons_of_pos ending, List.map_cons, ← ih]
      rfl
    | other _ _ quiet read =>
      rw [List.filter_cons_of_neg (by simp [quiet]), ← ih]
      obtain none | ⟨note, read⟩ := read
      · rw [List.filterMap_cons_none none]
      · rw [List.filterMap_cons_some read]
        rfl

end Reading

end Zero3Pilot.ProviderBridge
