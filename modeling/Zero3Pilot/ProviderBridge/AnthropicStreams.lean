import Zero3Pilot.ProviderBridge.OpenAiStreams

/-! # Streams of Anthropic

The events of a stream open the blocks of the message one after the other and add pieces to blocks that are
open, however the pieces of several blocks are mixed. -/

namespace Zero3Pilot.ProviderBridge

/-! ## What events add up to -/

/-- A block of a message, as far as it was streamed. -/
inductive AnswerBlock where
  | text (text : String)
  | thinking (thinking : String)
  | toolUse (id name json : String)
  | other

namespace AnswerBlock

def text? : AnswerBlock → Option String
  | .text said => some said
  | _ => none

def thinking? : AnswerBlock → Option String
  | .thinking thought => some thought
  | _ => none

def call? : AnswerBlock → Option CallDraft
  | .toolUse id name json => some ⟨id, name, json⟩
  | _ => none

def shape : AnswerBlock → StreamBlock
  | .thinking _ => .reasoning
  | .toolUse _ _ _ => .tool 0
  | _ => .text

def opened (block : Json) : Option AnswerBlock :=
  let type := textOf (block.get "type")
  if type = "text" then if textOf (block.get "text") = "" then some (.text "") else none
  else if type = "thinking" then
    if textOf (block.get "thinking") = "" then some (.thinking "") else none
  else if type = "tool_use" then
    match ScriptValue.text? (block.get "id"), ScriptValue.text? (block.get "name") with
    | some id, some name => some (.toolUse id name "")
    | _, _ => none
  else some .other

def addText (piece : String) : AnswerBlock → AnswerBlock
  | .text said => .text (said ++ piece)
  | block => block

def addThinking (piece : String) : AnswerBlock → AnswerBlock
  | .thinking thought => .thinking (thought ++ piece)
  | block => block

def addJson (piece : String) : AnswerBlock → AnswerBlock
  | .toolUse id name json => .toolUse id name (json ++ piece)
  | block => block

def add (delta : Json) (block : AnswerBlock) : Option (AnswerBlock → AnswerBlock) :=
  let type := textOf (delta.get "type")
  if type = "text_delta" then
    if block.text?.isSome then some (addText (textOf (delta.get "text"))) else none
  else if type = "thinking_delta" then
    if block.thinking?.isSome then some (addThinking (textOf (delta.get "thinking"))) else none
  else if type = "input_json_delta" then
    if block.call?.isSome then some (addJson (textOf (delta.get "partial_json"))) else none
  else some id

end AnswerBlock

def blockIndex (event : Json) : Option Nat :=
  match event.get "index" with
  | some (.number literal) =>
    literal.toInt?.bind fun index =>
      if literal = .ofNat index.toNat then some index.toNat else none
  | _ => none

/-- An event is added: a block is opened at the end, and a piece belongs to a block that is open. -/
def acceptEvent (blocks : List AnswerBlock) (event : String × Json) : Option (List AnswerBlock) :=
  if event.1 = "content_block_start" then
    if blockIndex event.2 = some blocks.length then
      (AnswerBlock.opened (ScriptValue.asRecord (event.2.get "content_block"))).map fun block =>
        blocks ++ [block]
    else none
  else if event.1 = "content_block_delta" then
    (blockIndex event.2).bind fun index =>
      blocks[index]?.bind fun block =>
        (block.add (ScriptValue.asRecord (event.2.get "delta"))).map fun add => blocks.modify index add
  else some blocks

/-! ## Lists whose parts are read -/

section

variable {Part Value : Type} (read : Part → Option Value)

theorem filterMap_modify (change : Part → Part) (changed : Value → Value) {parts : List Part}
    {index : Nat} {part : Part} (at_ : parts[index]? = some part) {value : Value}
    (reads : read part = some value) (readsChange : read (change part) = some (changed value)) :
    (parts.modify index change).filterMap read =
      (parts.filterMap read).modify ((parts.take index).filterMap read).length changed ∧
    (parts.filterMap read)[((parts.take index).filterMap read).length]? = some value := by
  induction parts generalizing index with
  | nil => cases at_
  | cons first parts ih =>
    cases index with
    | zero =>
      obtain rfl := Option.some.inj at_
      rw [List.modify_zero_cons, List.filterMap_cons_some readsChange, List.filterMap_cons_some reads]
      exact ⟨rfl, rfl⟩
    | succ index =>
      have later := ih at_
      rw [List.modify_succ_cons, List.take_succ_cons]
      cases here : read first with
      | none =>
        simp only [List.filterMap_cons_none here]
        exact later
      | some value =>
        simp only [List.filterMap_cons_some here, List.length_cons, List.modify_succ_cons,
          List.getElem?_cons_succ, later.1, true_and]
        exact later.2

theorem filterMap_modify_same {parts : List Part} {index : Nat} {part : Part} {change : Part → Part}
    (at_ : parts[index]? = some part) (same : read (change part) = read part) :
    (parts.modify index change).filterMap read = parts.filterMap read := by
  induction parts generalizing index with
  | nil => cases at_
  | cons first parts ih =>
    cases index with
    | zero =>
      obtain rfl := Option.some.inj at_
      rw [List.modify_zero_cons, List.filterMap_cons, List.filterMap_cons, same]
    | succ index => rw [List.modify_succ_cons, List.filterMap_cons, List.filterMap_cons, ih at_]

end

/-! ## Fragments of texts -/

structure Fragments (whole : String) (texts : List String) : Prop where
  perm : whole.toList.Perm (texts.flatMap String.toList)
  one : texts.length ≤ 1 → whole = String.join texts

variable {texts : List String}

theorem Fragments.opened {whole : String} (fragments : Fragments whole texts) :
    Fragments whole (texts ++ [""]) := by
  refine ⟨by simpa using fragments.perm, fun few => ?_⟩
  rw [List.length_append, List.length_singleton] at few
  rw [fragments.one (by omega), String.join_append]
  simp

theorem Fragments.empty_iff {whole : String} (fragments : Fragments whole texts) :
    whole = "" ↔ ∀ text ∈ texts, text = "" := by
  rw [← String.toList_inj, String.toList_empty, ← List.length_eq_zero_iff, fragments.perm.length_eq,
    List.length_eq_zero_iff, List.flatMap_eq_nil_iff]
  simp

variable {index : Nat}

theorem flatMap_modify (inside : index < texts.length) (piece : String) :
    ((texts.modify index (· ++ piece)).flatMap String.toList).Perm
      (texts.flatMap String.toList ++ piece.toList) := by
  induction texts generalizing index with
  | nil => cases inside
  | cons text texts ih =>
    cases index with
    | zero =>
      rw [List.modify_zero_cons, List.flatMap_cons, List.flatMap_cons, String.toList_append,
        List.append_assoc, List.append_assoc]
      exact List.perm_append_comm.append_left _
    | succ index =>
      rw [List.modify_succ_cons, List.flatMap_cons, List.flatMap_cons, List.append_assoc]
      exact (ih (Nat.lt_of_succ_lt_succ inside)).append_left _

theorem Fragments.added {whole : String} (fragments : Fragments whole texts)
    (inside : index < texts.length) (piece : String) :
    Fragments (whole ++ piece) (texts.modify index (· ++ piece)) := by
  refine ⟨?_, fun few => ?_⟩
  · rw [String.toList_append]
    exact (fragments.perm.append_right _).trans (flatMap_modify inside piece).symm
  · rw [List.length_modify] at few
    have whole := fragments.one few
    match texts, few, inside with
    | [text], _, inside =>
      obtain rfl : index = 0 := by simpa using inside
      rw [whole, List.modify_zero_cons]
      simp

/-! ## The reading of a stream -/

/-- What is kept of a block when there are some calls before it. -/
def StreamBlock.numbered (count : Nat) : StreamBlock → StreamBlock
  | .tool _ => .tool count
  | other => other

def placed (shapes : List StreamBlock) (index : Nat) : Option StreamBlock :=
  shapes[index]?.map (.numbered ((shapes.take index).filter fun other => other = .tool 0).length)

/-- A stream has read what its events add up to. -/
structure AnthropicStream.Follows (blocks : List AnswerBlock) (stream : AnthropicStream) : Prop where
  text : Fragments (String.join stream.text) (blocks.filterMap AnswerBlock.text?)
  reasoning : Fragments (String.join stream.reasoning) (blocks.filterMap AnswerBlock.thinking?)
  calls : stream.calls = blocks.filterMap AnswerBlock.call?
  keys : ∀ known ∈ stream.blocks, ∃ index < blocks.length, known.1 = .ofNat index
  placed : ∀ index < blocks.length,
    stream.blocks.lookup (.ofNat index) = placed (blocks.map AnswerBlock.shape) index

theorem blockIndex_eq {event : Json} (named : blockIndex event = some index) (standard : NumberLiteral) :
    literalOr (event.get "index") standard = .ofNat index := by
  rw [blockIndex] at named
  split at named
  · rename_i literal number
    obtain ⟨value, _, known⟩ := Option.bind_eq_some_iff.mp named
    split at known
    · rename_i canonical
      obtain rfl := Option.some.inj known
      rw [number, literalOr, canonical]
    · cases known
  · cases named

theorem calls_before (blocks : List AnswerBlock) (index : Nat) :
    (((blocks.map AnswerBlock.shape).take index).filter fun other => other = .tool 0).length =
      ((blocks.take index).filterMap AnswerBlock.call?).length := by
  rw [← List.map_take]
  generalize blocks.take index = before
  induction before with
  | nil => rfl
  | cons block before ih =>
    cases block <;> simpa [AnswerBlock.shape, AnswerBlock.call?, List.filterMap_cons] using ih

theorem setBlock_fresh {blocks : List (NumberLiteral × StreamBlock)} {index : NumberLiteral}
    (fresh : ∀ known ∈ blocks, known.1 ≠ index) (block : StreamBlock) :
    setBlock blocks index block = blocks ++ [(index, block)] := by
  have none : (blocks.any fun known => known.1 = index) = false := by
    rw [List.any_eq_false]
    exact fun known isKnown => by simpa using fresh known isKnown
  rw [setBlock, none, if_neg Bool.false_ne_true]

theorem placed_append (shapes : List StreamBlock) (shape : StreamBlock) (inside : index < shapes.length) :
    placed (shapes ++ [shape]) index = placed shapes index := by
  rw [placed, placed, List.getElem?_append_left inside, List.take_append_of_le_length (Nat.le_of_lt inside)]

theorem placed_last (blocks : List AnswerBlock) (block : AnswerBlock) :
    placed ((blocks ++ [block]).map AnswerBlock.shape) blocks.length =
      some (block.shape.numbered (blocks.filterMap AnswerBlock.call?).length) := by
  have before := calls_before (blocks ++ [block]) blocks.length
  rw [List.take_left'] at before
  · rw [placed, before, List.map_append, List.getElem?_append_right (by simp)]
    simp
  · rfl

variable {blocks : List AnswerBlock} {block : AnswerBlock}

theorem keep_follows {stream next : AnthropicStream} (follows : stream.Follows blocks)
    {kept : StreamBlock}
    (isKept : kept = block.shape.numbered (blocks.filterMap AnswerBlock.call?).length)
    (texts : next.text = stream.text ∧ next.reasoning = stream.reasoning)
    (empty : block.text? = none ∨ block.text? = some "")
    (thoughtless : block.thinking? = none ∨ block.thinking? = some "")
    (calls : next.calls = stream.calls ++ block.call?.toList)
    (isSet : next.blocks = setBlock stream.blocks (.ofNat blocks.length) kept) :
    next.Follows (blocks ++ [block]) := by
  have fresh : ∀ known ∈ stream.blocks, known.1 ≠ .ofNat blocks.length := by
    intro known isKnown same
    obtain ⟨index, inside, key⟩ := follows.keys known isKnown
    have := NumberLiteral.ofNat_injective (key.symm.trans same)
    omega
  rw [setBlock_fresh fresh] at isSet
  refine ⟨?_, ?_, ?_, ?_, ?_⟩
  · rw [texts.1, List.filterMap_append]
    rcases empty with none | some
    · rw [List.filterMap_cons_none none, List.filterMap_nil, List.append_nil]
      exact follows.text
    · rw [List.filterMap_cons_some some, List.filterMap_nil]
      exact follows.text.opened
  · rw [texts.2, List.filterMap_append]
    rcases thoughtless with none | some
    · rw [List.filterMap_cons_none none, List.filterMap_nil, List.append_nil]
      exact follows.reasoning
    · rw [List.filterMap_cons_some some, List.filterMap_nil]
      exact follows.reasoning.opened
  · rw [calls, follows.calls, List.filterMap_append]
    cases block <;> rfl
  · intro known isKnown
    rw [isSet] at isKnown
    rw [List.length_append, List.length_singleton]
    rcases List.mem_append.mp isKnown with before | last
    · obtain ⟨index, inside, key⟩ := follows.keys known before
      exact ⟨index, by omega, key⟩
    · rw [List.mem_singleton.mp last]
      exact ⟨blocks.length, by omega, rfl⟩
  · intro index inside
    rw [List.length_append, List.length_singleton] at inside
    rw [isSet, List.lookup_append]
    rcases Nat.lt_or_ge index blocks.length with before | after
    · rw [follows.placed index before, List.map_append, List.map_singleton,
        placed_append _ _ (by simpa using before)]
      rw [placed, List.getElem?_map, List.getElem?_eq_getElem before]
      rfl
    · obtain rfl : index = blocks.length := by omega
      have none : stream.blocks.lookup (.ofNat blocks.length) = none := by
        rw [List.lookup_eq_none_iff]
        exact fun known isKnown => by simpa using Ne.symm (fresh known isKnown)
      rw [none, placed_last, ← isKept]
      simp

theorem opened_call {opened : Json} {id name : String}
    (isType : ScriptValue.text? (opened.get "type") = some "tool_use")
    (isId : ScriptValue.text? (opened.get "id") = some id)
    (isName : ScriptValue.text? (opened.get "name") = some name)
    (isOpened : AnswerBlock.opened opened = some block) : block = .toolUse id name "" := by
  simpa [AnswerBlock.opened, textOf, isType, isId, isName] using isOpened.symm

theorem opened_thinking {opened : Json}
    (isType : ScriptValue.text? (opened.get "type") = some "thinking")
    (isOpened : AnswerBlock.opened opened = some block) : block = .thinking "" := by
  have said : (if textOf (opened.get "thinking") = "" then some (.thinking "") else none) = some block := by
    simpa [AnswerBlock.opened, textOf, isType] using isOpened
  split at said
  · exact (Option.some.inj said).symm
  · cases said

theorem opened_other {opened : Json}
    (noThinking : ScriptValue.text? (opened.get "type") ≠ some "thinking")
    (noCall : ∀ id name, ScriptValue.text? (opened.get "type") = some "tool_use" →
      ScriptValue.text? (opened.get "id") = some id → ScriptValue.text? (opened.get "name") = some name →
      False) (isOpened : AnswerBlock.opened opened = some block) : block = .text "" ∨ block = .other := by
  have typed : ∀ word, word ≠ "" → textOf (opened.get "type") = word →
      ScriptValue.text? (opened.get "type") = some word := by
    rintro word named rfl
    rw [textOf] at named ⊢
    cases said : ScriptValue.text? (opened.get "type") with
    | none => exact absurd (by rw [said]; rfl) named
    | some word => rfl
  simp only [AnswerBlock.opened] at isOpened
  split at isOpened
  · split at isOpened
    · exact .inl (Option.some.inj isOpened).symm
    · cases isOpened
  · split at isOpened
    · rename_i isThinking
      exact absurd (typed "thinking" (by decide) isThinking) noThinking
    · split at isOpened
      · rename_i isCall
        split at isOpened
        · rename_i id name isId isName
          exact (noCall id name (typed "tool_use" (by decide) isCall) isId isName).elim
        · cases isOpened
      · exact .inr (Option.some.inj isOpened).symm

variable {stream : AnthropicStream}

theorem startBlock_follows {event : Json} (follows : stream.Follows blocks)
    (index : blockIndex event = some blocks.length)
    (isOpened : AnswerBlock.opened (ScriptValue.asRecord (event.get "content_block")) = some block) :
    (stream.startBlock event).Follows (blocks ++ [block]) := by
  have literal := blockIndex_eq index (.ofNat stream.blocks.length)
  have count : stream.calls.length = (blocks.filterMap AnswerBlock.call?).length := by rw [follows.calls]
  rw [AnthropicStream.startBlock]
  simp only [literal]
  generalize ScriptValue.asRecord (event.get "content_block") = opened at isOpened
  split
  · rename_i id name isType isId isName
    obtain rfl := opened_call isType isId isName isOpened
    exact keep_follows follows (congrArg StreamBlock.tool count) ⟨rfl, rfl⟩ (.inl rfl) (.inl rfl) rfl rfl
  · rename_i isType
    obtain rfl := opened_thinking isType isOpened
    exact keep_follows follows rfl ⟨rfl, rfl⟩ (.inl rfl) (.inr rfl) (List.append_nil _).symm rfl
  · rename_i noThinking noCall
    rcases opened_other noThinking noCall isOpened with rfl | rfl
    · exact keep_follows follows rfl ⟨rfl, rfl⟩ (.inr rfl) (.inl rfl) (List.append_nil _).symm rfl
    · exact keep_follows follows rfl ⟨rfl, rfl⟩ (.inl rfl) (.inl rfl) (List.append_nil _).symm rfl

theorem change_follows {stream next : AnthropicStream} {change : AnswerBlock → AnswerBlock}
    (follows : stream.Follows blocks) (at_ : blocks[index]? = some block)
    (shape : (change block).shape = block.shape) (isKept : next.blocks = stream.blocks)
    (text : Fragments (String.join next.text) ((blocks.modify index change).filterMap AnswerBlock.text?))
    (reasoning : Fragments (String.join next.reasoning)
      ((blocks.modify index change).filterMap AnswerBlock.thinking?))
    (calls : next.calls = (blocks.modify index change).filterMap AnswerBlock.call?) :
    next.Follows (blocks.modify index change) := by
  have shapes : (blocks.modify index change).map AnswerBlock.shape = blocks.map AnswerBlock.shape := by
    have read := filterMap_modify_same (fun block => some block.shape) at_ (congrArg some shape)
    rwa [List.filterMap_eq_map'] at read
  refine ⟨text, reasoning, calls, ?_, ?_⟩
  · rw [isKept, List.length_modify]
    exact follows.keys
  · rw [isKept, List.length_modify, shapes]
    exact follows.placed

theorem length_before {Part Value : Type} {read : Part → Option Value} {parts : List Part} {part : Part}
    {value : Value} (at_ : parts[index]? = some part) (reads : read part = some value) :
    ((parts.take index).filterMap read).length < (parts.filterMap read).length := by
  have found := (filterMap_modify read id id at_ reads reads).2
  exact (List.getElem?_eq_some_iff.mp found).1

theorem addText_follows {stream next : AnthropicStream} {said piece : String}
    (follows : stream.Follows blocks) (at_ : blocks[index]? = some (.text said))
    (text : String.join next.text = String.join stream.text ++ piece)
    (rest : next.reasoning = stream.reasoning ∧ next.calls = stream.calls ∧ next.blocks = stream.blocks) :
    next.Follows (blocks.modify index (.addText piece)) := by
  have texts := filterMap_modify AnswerBlock.text? (.addText piece) (· ++ piece) at_ rfl rfl
  refine change_follows follows at_ rfl rest.2.2 ?_ ?_ ?_
  · rw [text, texts.1]
    exact follows.text.added (length_before at_ rfl) piece
  · rw [rest.1, filterMap_modify_same _ at_ rfl]
    exact follows.reasoning
  · rw [rest.2.1, filterMap_modify_same _ at_ rfl]
    exact follows.calls

theorem addThinking_follows {stream next : AnthropicStream} {thought piece : String}
    (follows : stream.Follows blocks) (at_ : blocks[index]? = some (.thinking thought))
    (reasoning : String.join next.reasoning = String.join stream.reasoning ++ piece)
    (rest : next.text = stream.text ∧ next.calls = stream.calls ∧ next.blocks = stream.blocks) :
    next.Follows (blocks.modify index (.addThinking piece)) := by
  have thoughts := filterMap_modify AnswerBlock.thinking? (.addThinking piece) (· ++ piece) at_ rfl rfl
  refine change_follows follows at_ rfl rest.2.2 ?_ ?_ ?_
  · rw [rest.1, filterMap_modify_same _ at_ rfl]
    exact follows.text
  · rw [reasoning, thoughts.1]
    exact follows.reasoning.added (length_before at_ rfl) piece
  · rw [rest.2.1, filterMap_modify_same _ at_ rfl]
    exact follows.calls

theorem takeArguments_follows {id name json piece : String} (follows : stream.Follows blocks)
    (at_ : blocks[index]? = some (.toolUse id name json)) :
    (stream.takeArguments ((blocks.take index).filterMap AnswerBlock.call?).length piece).Follows
      (blocks.modify index (.addJson piece)) := by
  have calls := filterMap_modify AnswerBlock.call? (.addJson piece)
    (fun call => { call with arguments := call.arguments ++ piece }) at_ rfl rfl
  refine change_follows follows at_ rfl rfl ?_ ?_ ?_
  · rw [filterMap_modify_same _ at_ rfl]
    exact follows.text
  · rw [filterMap_modify_same _ at_ rfl]
    exact follows.reasoning
  · rw [calls.1, ← follows.calls]
    rfl

theorem placed_at (at_ : blocks[index]? = some block) : placed (blocks.map AnswerBlock.shape) index =
      some (block.shape.numbered ((blocks.take index).filterMap AnswerBlock.call?).length) := by
  rw [placed, List.getElem?_map, at_, calls_before]
  rfl

theorem modify_of_same {change : AnswerBlock → AnswerBlock} (at_ : blocks[index]? = some block)
    (same : change block = block) : blocks.modify index change = blocks := by
  have read := filterMap_modify_same (fun block => some block) at_ (congrArg some same)
  simpa using read

theorem takeDelta_follows {event : Json} {change : AnswerBlock → AnswerBlock}
    (follows : stream.Follows blocks) (named : blockIndex event = some index)
    (at_ : blocks[index]? = some block)
    (adds : block.add (ScriptValue.asRecord (event.get "delta")) = some change) :
    (stream.takeDelta event).Follows (blocks.modify index change) := by
  have inside : index < blocks.length := (List.getElem?_eq_some_iff.mp at_).1
  have kept : stream.blocks.lookup (literalOr (event.get "index") minusOne) =
      some (block.shape.numbered ((blocks.take index).filterMap AnswerBlock.call?).length) := by
    rw [blockIndex_eq named, follows.placed index inside, placed_at at_]
  rw [AnthropicStream.takeDelta]
  simp only [kept]
  generalize ScriptValue.asRecord (event.get "delta") = delta at adds
  simp only [AnswerBlock.add] at adds
  split at adds
  · rename_i isText
    split at adds
    · rename_i hasText
      obtain rfl := Option.some.inj adds
      cases block with
      | text said =>
        by_cases empty : textOf (delta.get "text") = ""
        · -- an empty piece changes nothing, whether or not it is taken
          simp only [isText, empty, ne_eq, not_true, and_false, if_false]
          exact addText_follows follows at_ (by simp) ⟨rfl, rfl, rfl⟩
        · simp only [isText, empty, ne_eq, not_false_iff, and_true, if_true]
          have kind : some (StreamBlock.numbered ((blocks.take index).filterMap
              AnswerBlock.call?).length (AnswerBlock.text said).shape) = some .text := rfl
          rw [if_pos kind]
          exact addText_follows follows at_ (by simp [AnthropicStream.takeText]) ⟨rfl, rfl, rfl⟩
      | _ => cases hasText
    · cases adds
  · rename_i noText
    split at adds
    · rename_i isThinking
      split at adds
      · rename_i hasThinking
        obtain rfl := Option.some.inj adds
        cases block with
        | thinking thought =>
          by_cases empty : textOf (delta.get "thinking") = ""
          · simp only [isThinking, empty, ne_eq, not_true, and_false, if_false]
            exact addThinking_follows follows at_ (by simp) ⟨rfl, rfl, rfl⟩
          · simp only [isThinking, empty, ne_eq, not_false_iff, and_true, if_true]
            exact addThinking_follows follows at_ (by simp [AnthropicStream.takeThinking])
              ⟨rfl, rfl, rfl⟩
        | _ => cases hasThinking
      · cases adds
    · rename_i noThinking
      simp only [noText, noThinking, false_and, if_false]
      split at adds
      · rename_i isJson
        split at adds
        · rename_i hasCall
          obtain rfl := Option.some.inj adds
          cases block with
          | toolUse id name json =>
            rw [if_pos isJson]
            exact takeArguments_follows follows at_
          | _ => cases hasCall
        · cases adds
      · rename_i noJson
        obtain rfl := Option.some.inj adds
        rw [if_neg noJson, modify_of_same at_ rfl]
        exact follows

theorem takeEvent_follows {blocks later : List AnswerBlock} {event : String × Json}
    (follows : stream.Follows blocks) (accepted : acceptEvent blocks event = some later) :
    (stream.takeEvent event.1 event.2).Follows later := by
  rw [acceptEvent] at accepted
  rw [AnthropicStream.takeEvent]
  split at accepted
  · rename_i starts
    split at accepted
    · rename_i index
      obtain ⟨block, isOpened, rfl⟩ := Option.map_eq_some_iff.mp accepted
      rw [if_neg (by rw [starts]; decide), if_pos starts]
      exact startBlock_follows follows index isOpened
    · cases accepted
  · rename_i noStart
    split at accepted
    · rename_i isDelta
      obtain ⟨index, named, rest⟩ := Option.bind_eq_some_iff.mp accepted
      obtain ⟨block, at_, added⟩ := Option.bind_eq_some_iff.mp rest
      obtain ⟨change, adds, rfl⟩ := Option.map_eq_some_iff.mp added
      rw [if_neg (by rw [isDelta]; decide), if_neg noStart, if_pos isDelta]
      exact takeDelta_follows follows named at_ adds
    · rename_i noDelta
      obtain rfl := Option.some.inj accepted
      rw [if_neg noStart, if_neg noDelta]
      split
      · exact ⟨follows.text, follows.reasoning, follows.calls, follows.keys, follows.placed⟩
      · split
        · exact ⟨follows.text, follows.reasoning, follows.calls, follows.keys, follows.placed⟩
        · exact follows

/-- **A stream is read to what its events add up to.** -/
theorem readAnthropic_follows {events : List (String × Json)}
    (accepted : events.foldlM acceptEvent [] = some blocks) :
    ∃ stream, foldUntil (fun stream event => ((stream.takeEvent event.1 event.2, none) :
        AnthropicStream × Option String)) .start events = (stream, none) ∧ stream.Follows blocks := by
  have start : AnthropicStream.start.Follows [] := by
    refine ⟨⟨.refl _, fun _ => rfl⟩, ⟨.refl _, fun _ => rfl⟩, rfl,
      fun _ isKnown => absurd isKnown List.not_mem_nil, fun _ inside => absurd inside (Nat.not_lt_zero _)⟩
  refine foldUntil_simulates (fun known stream event later follows accepts => ?_) accepted start
  exact ⟨stream.takeEvent event.1 event.2, rfl, takeEvent_follows follows accepts⟩

/-! ## The items of the message -/

variable (env : StreamSurroundings)

def inputOf (json : String) : Option Json := if json = "" then some (.object []) else env.parse json

/-- A block of a message is one that was streamed. -/
inductive IsBlock : AnswerBlock → Json → Prop where
  | text {said : String} {block : Json} (isType : ScriptValue.text? (block.get "type") = some "text")
      (isText : ScriptValue.text? (block.get "text") = some said) : IsBlock (.text said) block
  | thinking {thought : String} {block : Json}
      (isType : ScriptValue.text? (block.get "type") = some "thinking")
      (isThinking : ScriptValue.text? (block.get "thinking") = some thought) :
      IsBlock (.thinking thought) block
  | toolUse {id name json : String} {input block : Json}
      (isType : ScriptValue.text? (block.get "type") = some "tool_use")
      (isId : ScriptValue.text? (block.get "id") = some id)
      (isName : ScriptValue.text? (block.get "name") = some name)
      (isInput : block.get "input" = some input) (is : inputOf env json = some input) :
      IsBlock (.toolUse id name json) block
  | other {block : Json} (noText : ScriptValue.text? (block.get "type") ≠ some "text")
      (noCall : ScriptValue.text? (block.get "type") ≠ some "tool_use") : IsBlock .other block

def renderedInput (json : String) : String := String.ofList (orEmpty (inputOf env json)).render

/-- The items of an answer are passed on as they are: nothing was thought, the texts say something in one
block at most, and every call has an id and a name and its arguments as they are rendered. -/
structure PlainBlocks (blocks : List AnswerBlock) : Prop where
  thoughts : ∀ thought ∈ blocks.filterMap AnswerBlock.thinking?, thought = ""
  texts : OneText (blocks.filterMap AnswerBlock.text?)
  calls : ∀ call ∈ blocks.filterMap AnswerBlock.call?, call.isSent ∧
    (if call.arguments = "" then "\x7b\x7d" else call.arguments) = renderedInput env call.arguments

theorem blocks_agree {content : List Json} (are : List.Forall₂ (IsBlock env) blocks content) :
    content.filterMap anthropicText = blocks.filterMap AnswerBlock.text? ∧
      content.filterMap anthropicCall = (blocks.filterMap AnswerBlock.call?).map fun call =>
        { call with arguments := renderedInput env call.arguments } := by
  induction are with
  | nil => exact ⟨rfl, rfl⟩
  | @cons block read blocks content is _ ih =>
    rw [List.filterMap_cons, List.filterMap_cons, List.filterMap_cons, List.filterMap_cons]
    cases is with
    | text isType isText =>
      simp [anthropicText, anthropicCall, isType, isText, AnswerBlock.text?, AnswerBlock.call?, ih]
    | thinking isType isThinking =>
      simp [anthropicText, anthropicCall, isType, AnswerBlock.text?, AnswerBlock.call?, ih]
    | toolUse isType isId isName isInput is =>
      simp [anthropicText, anthropicCall, isType, isId, isName, isInput, AnswerBlock.text?,
        AnswerBlock.call?, ih, renderedInput, is]
    | other noText noCall =>
      simp [anthropicText, anthropicCall, noText, noCall, AnswerBlock.text?, AnswerBlock.call?, ih]

/-- **When the items of a stream are those of the message, and its thinking and text say something.** -/
theorem anthropic_agree_iff {body : Json} (follows : stream.Follows blocks)
    (are : List.Forall₂ (IsBlock env) blocks (records (body.get "content"))) {ids : StreamIds} :
    (zero3ApiAgentStreamItems (String.join stream.text) (String.join stream.reasoning) stream.calls
          ids).map OutputItem.unnamed = (zero3ApiAnthropicResponse body).items.map OutputItem.unnamed ∧
        Spoken (String.join stream.reasoning) ∧ Spoken (String.join stream.text) ↔
      PlainBlocks env blocks := by
  let text := String.join stream.text
  let reasoning := String.join stream.reasoning
  let texts := blocks.filterMap AnswerBlock.text?
  have agree := blocks_agree env are
  have whole : (zero3ApiAnthropicResponse body).items.map OutputItem.unnamed =
      [] ++ textPart ("\n".intercalate texts) ++ (blocks.filterMap AnswerBlock.call?).filterMap fun call =>
        some (.functionCall call.id call.name (renderedInput env call.arguments)) := by
    have areCalls : IsPart 2 (((records (body.get "content")).filterMap anthropicCall).map
        CallDraft.item) := by
      intro item isIn
      obtain ⟨_, _, rfl⟩ := List.mem_map.mp isIn
      rfl
    show (textPart _ ++ _).map OutputItem.unnamed = _
    rw [List.map_append, unnamed_text, unnamed_calls areCalls, agree.1, agree.2, List.map_map,
      List.filterMap_eq_map']
    rfl
  have sent : stream.calls.filterMap CallDraft.sentStreamed =
        (blocks.filterMap AnswerBlock.call?).filterMap (fun call =>
          some (.functionCall call.id call.name (renderedInput env call.arguments))) ↔
      ∀ call ∈ blocks.filterMap AnswerBlock.call?, call.isSent ∧
        (if call.arguments = "" then "\x7b\x7d" else call.arguments) =
          renderedInput env call.arguments := by
    rw [follows.calls, filterMap_eq_filterMap_iff fun _ _ none => by cases none]
    refine forall₂_congr fun call _ => ?_
    rw [CallDraft.sentStreamed, CallDraft.isSent]
    by_cases unsent : call.name = "" ∨ call.id = ""
    · rw [if_pos unsent]
      simp only [reduceCtorEq, false_iff]
      rintro ⟨named, _⟩
      exact (not_or.mpr named) unsent
    · rw [if_neg unsent]
      simp [not_or.mp unsent]
  have thoughtless : reasoningPart reasoning = [] ∧ Spoken reasoning ↔
      ∀ thought ∈ blocks.filterMap AnswerBlock.thinking?, thought = "" := by
    rw [← follows.reasoning.empty_iff, reasoningPart, Spoken]
    by_cases blank : scriptTrim reasoning = ""
    · simp [blank, reasoning]
    · simp only [blank, if_false, List.cons_ne_self, false_and, false_iff]
      intro none
      exact blank (by rw [show reasoning = "" from none, scriptTrim_empty])
  have oneText := texts_agree_iff follows.text.perm follows.text.one
  have calls := isPart_streamCalls stream.calls
  have wholeCalls : IsPart 2 ((blocks.filterMap AnswerBlock.call?).filterMap fun call =>
      some (.functionCall call.id call.name (renderedInput env call.arguments))) := by
    intro item isIn
    obtain ⟨_, _, same⟩ := List.mem_filterMap.mp isIn
    obtain rfl := Option.some.inj same
    rfl
  rw [streamItems_unnamed, whole, parts_eq_iff (isPart_reasoning _) (fun _ isIn => by cases isIn)
    (isPart_text _) (isPart_text _) calls wholeCalls, streamCallItems_eq, sent]
  constructor
  · rintro ⟨⟨noReasoning, sameText, sameCalls⟩, thought, spoke⟩
    exact ⟨thoughtless.mp ⟨noReasoning, thought⟩, oneText.mp ⟨sameText, spoke⟩, sameCalls⟩
  · rintro ⟨thoughts, one, sameCalls⟩
    obtain ⟨noReasoning, thought⟩ := thoughtless.mpr thoughts
    obtain ⟨sameText, spoke⟩ := oneText.mpr one
    exact ⟨⟨noReasoning, sameText, sameCalls⟩, thought, spoke⟩

end Zero3Pilot.ProviderBridge
