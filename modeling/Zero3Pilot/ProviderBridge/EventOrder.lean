import Mathlib.Data.List.Range
import Mathlib.Data.String.Basic
import Zero3Pilot.ProviderBridge.StreamRules

/-! # The order of the events of a stream

When a stream is over its items are done: the reasoning, the text and the calls. The events then fit
together exactly when no item that was opened is left out, and an item is left out exactly when its pieces
are blank. -/

namespace Zero3Pilot.ProviderBridge

open BridgeEvent (doneItem)

/-! ## Well-formed events -/

def OutputItem.ofKind : ItemKind → Option String → String → OutputItem
  | .reasoning => .reasoning
  | .message => .message

def BridgeEvent.saidOf (kind : ItemKind) (id : String) (event : BridgeEvent) : Option String :=
  (event.pieceOf kind).bind fun said => if said.1 = some id then some said.2 else none

def BridgeEvent.closes (id : String) (event : BridgeEvent) : Bool :=
  event.doneItem.any fun item => StreamEmitter.idOf item.2 = some id

/-- Events fit together: what is said and done of items is about items that were added. -/
structure EventsFit (events : List BridgeEvent) : Prop where
  refers : Refers events
  told : ∀ outputIndex kind id text, .done outputIndex (.ofKind kind (some id) text) ∈ events →
    String.join (events.filterMap (BridgeEvent.saidOf kind id)) = text
  closed : ∀ outputIndex kind id, .added outputIndex kind id ∈ events →
    ∃ item, events.filter (BridgeEvent.closes id) = [.done outputIndex item]
  addedApart : ((events.filterMap BridgeEvent.addedItem).map Prod.fst).Nodup
  doneApart : ((events.filterMap doneItem).map Prod.fst).Nodup
  sameItem : ∀ outputIndex kind id item, .added outputIndex kind id ∈ events →
    .done outputIndex item ∈ events → StreamEmitter.idOf item = some id

/-- A text is empty or says something. -/
def Spoken (text : String) : Prop := text = "" ∨ scriptTrim text ≠ ""

instance (text : String) : Decidable (Spoken text) := inferInstanceAs (Decidable (_ ∨ _))

/-! ## Items that are done -/

namespace StreamEmitter

variable {emitter : StreamEmitter}

def closing (emitter : StreamEmitter) (texts : ItemKind → String) (kind : ItemKind) : BridgeEvent :=
  .done (emitter.opened.idxOf kind)
    (.ofKind kind (some (streamItemId (emitter.opened.idxOf kind) kind)) (texts kind))

theorem doneEvents_calls {index : Nat} {calls : List OutputItem} (unnamed : ∀ call ∈ calls, idOf call = none) :
    emitter.doneEvents index calls = (calls.zipIdx index).map fun call => .done call.2 call.1 := by
  induction calls generalizing index with
  | nil => rfl
  | cons call calls ih =>
    rw [List.forall_mem_cons] at unnamed
    have later := @ih (index + 1) unnamed.2
    rw [doneEvents, unnamed.1, List.zipIdx_cons, List.map_cons, ← later]
    rfl

theorem doneEvents_eq {pieces : ItemKind → List String} (emitting : Emitting emitter pieces)
    {kinds : List ItemKind} (areOpen : ∀ kind ∈ kinds, kind ∈ emitter.opened) (texts : ItemKind → String)
    {index : Nat} {calls : List OutputItem} (unnamed : ∀ call ∈ calls, idOf call = none) :
    emitter.doneEvents index
        (kinds.map (fun kind => .ofKind kind (emitter.itemId kind) (texts kind)) ++ calls) =
      kinds.map (emitter.closing texts) ++ (calls.zipIdx index).map fun call => .done call.2 call.1 := by
  induction kinds with
  | nil => exact doneEvents_calls unnamed
  | cons kind kinds ih =>
    rw [List.forall_mem_cons] at areOpen
    have id : emitter.itemId kind = some (streamItemId (emitter.opened.idxOf kind) kind) := by
      rw [emitting.itemId, if_pos areOpen.1]
    have indexed : (idOf (.ofKind kind (emitter.itemId kind) (texts kind))).bind
        (fun id => emitter.outputIndexById.lookup id) = some (emitter.opened.idxOf kind) := by
      rw [id]
      cases kind <;> exact emitting.indexed _ areOpen.1
    rw [List.map_cons, List.cons_append, doneEvents, indexed, List.map_cons, List.cons_append,
      ih areOpen.2, closing, id]

end StreamEmitter

/-! ## When the events fit -/

section

variable {emitter : StreamEmitter} {pieces : ItemKind → List String}

def closedEvents (emitter : StreamEmitter) (texts : ItemKind → String) (kinds : List ItemKind)
    (calls : List OutputItem) : List BridgeEvent :=
  emitter.events ++ (kinds.map (emitter.closing texts) ++
    (calls.zipIdx emitter.opened.length).map fun call => .done call.2 call.1)

theorem saidOf_eq (emitting : Emitting emitter pieces) {kind : ItemKind} (isOpen : kind ∈ emitter.opened) :
    emitter.events.filterMap
        (BridgeEvent.saidOf kind (streamItemId (emitter.opened.idxOf kind) kind)) = pieces kind := by
  have id := emitting.itemId kind
  rw [if_pos isOpen] at id
  have split : emitter.events.filterMap
        (BridgeEvent.saidOf kind (streamItemId (emitter.opened.idxOf kind) kind)) =
      (emitter.events.filterMap (BridgeEvent.pieceOf kind)).filterMap fun said =>
        if said.1 = some (streamItemId (emitter.opened.idxOf kind) kind) then some said.2 else none := by
    rw [List.filterMap_filterMap]
    rfl
  rw [split, emitting.told kind, List.filterMap_map, id]
  simp

variable {texts : ItemKind → String} {kinds : List ItemKind}

theorem mem_closed {calls : List OutputItem} {event : BridgeEvent}
    (isIn : event ∈ kinds.map (emitter.closing texts) ++
      (calls.zipIdx emitter.opened.length).map fun call => .done call.2 call.1) :
    (∃ kind ∈ kinds, event = emitter.closing texts kind) ∨
      ∃ call ∈ calls, ∃ index, emitter.opened.length ≤ index ∧ event = .done index call := by
  rcases List.mem_append.mp isIn with item | call
  · obtain ⟨kind, isKind, rfl⟩ := List.mem_map.mp item
    exact .inl ⟨kind, isKind, rfl⟩
  · obtain ⟨⟨item, index⟩, isCall, rfl⟩ := List.mem_map.mp call
    obtain ⟨least, _, same⟩ := List.mem_zipIdx isCall
    exact .inr ⟨item, same ▸ List.getElem_mem _, index, least, rfl⟩

theorem idxOf_inj {opened : List ItemKind} {kind other : ItemKind} (isOpen : kind ∈ opened)
    (same : opened.idxOf kind = opened.idxOf other) : kind = other :=
  (List.idxOf_inj isOpen).mp same

theorem filter_closes (distinct : kinds.Nodup) {kind : ItemKind} (isKind : kind ∈ kinds) :
    (kinds.map (emitter.closing texts)).filter
        (BridgeEvent.closes (streamItemId (emitter.opened.idxOf kind) kind)) =
      [emitter.closing texts kind] := by
  have closes : ∀ other, BridgeEvent.closes (streamItemId (emitter.opened.idxOf kind) kind)
      (emitter.closing texts other) = (other == kind) := by
    intro other
    by_cases same : other = kind
    · subst same
      rw [beq_self_eq_true]
      cases other <;> exact decide_eq_true rfl
    · rw [beq_false_of_ne same]
      have apart : some (streamItemId (emitter.opened.idxOf other) other) ≠
          some (streamItemId (emitter.opened.idxOf kind) kind) := by
        rw [ne_eq, Option.some_inj]
        exact fun id => same (streamItemId_kind id)
      cases other <;> exact decide_eq_false apart
  have reads : (BridgeEvent.closes (streamItemId (emitter.opened.idxOf kind) kind) ∘
      emitter.closing texts) = fun other => other == kind := by
    funext other
    exact closes other
  rw [List.filter_map, reads, List.filter_beq, List.count_eq_one_of_mem distinct isKind]
  rfl

theorem eventsFit_of_all (emitting : Emitting emitter pieces)
    (joined : ∀ kind, String.join (pieces kind) = texts kind) (distinct : kinds.Nodup)
    (all : ∀ kind, kind ∈ kinds ↔ kind ∈ emitter.opened) {calls : List OutputItem}
    (unnamed : ∀ call ∈ calls, StreamEmitter.idOf call = none) :
    EventsFit (closedEvents emitter texts kinds calls) := by
  let last := kinds.map (emitter.closing texts) ++
    (calls.zipIdx emitter.opened.length).map fun call => BridgeEvent.done call.2 call.1
  -- the events at the end say nothing and add nothing
  have silent : ∀ event ∈ last, event.delta = none ∧ event.addedItem = none := by
    intro event isIn
    rcases mem_closed isIn with ⟨_, _, rfl⟩ | ⟨_, _, _, _, rfl⟩ <;> exact ⟨rfl, rfl⟩
  have early : ∀ {outputIndex kind id}, .added outputIndex kind id ∈ emitter.events ++ last →
      .added outputIndex kind id ∈ emitter.events := by
    intro outputIndex kind id isIn
    rcases List.mem_append.mp isIn with before | after
    · exact before
    · cases (silent _ after).2
  have late : ∀ {outputIndex item}, .done outputIndex item ∈ emitter.events ++ last →
      .done outputIndex item ∈ last := by
    intro outputIndex item isIn
    rcases List.mem_append.mp isIn with before | after
    · cases (emitting.undone _ before).1
    · exact after
  constructor
  · exact emitting.refers.append fun event isIn => (silent event isIn).1
  · intro outputIndex kind id text isIn
    show String.join ((emitter.events ++ last).filterMap _) = text
    have nothing : last.filterMap (BridgeEvent.saidOf kind id) = [] := by
      refine List.filterMap_eq_nil_iff.mpr fun event isLast => ?_
      rw [BridgeEvent.saidOf, BridgeEvent.pieceOf, (silent event isLast).1]
      rfl
    rw [List.filterMap_append, nothing, List.append_nil]
    rcases mem_closed (late isIn) with ⟨other, isKind, same⟩ | ⟨call, isCall, _, _, same⟩
    · have known : kind = other ∧ id = streamItemId (emitter.opened.idxOf other) other ∧
          text = texts other := by
        rw [StreamEmitter.closing, BridgeEvent.done.injEq] at same
        cases kind <;> cases other <;> cases same.2 <;> exact ⟨rfl, rfl, rfl⟩
      obtain ⟨rfl, rfl, rfl⟩ := known
      rw [saidOf_eq emitting ((all kind).mp isKind), joined]
    · have none := unnamed call isCall
      rw [BridgeEvent.done.injEq] at same
      rw [← same.2] at none
      cases kind <;> cases none
  · intro outputIndex kind id isIn
    obtain ⟨isOpen, rfl, rfl⟩ := emitting.mem_added (early isIn)
    refine ⟨.ofKind kind (some (streamItemId (emitter.opened.idxOf kind) kind)) (texts kind), ?_⟩
    show (emitter.events ++ (_ ++ _)).filter _ = [emitter.closing texts kind]
    have before : emitter.events.filter (BridgeEvent.closes
        (streamItemId (emitter.opened.idxOf kind) kind)) = [] := by
      refine List.filter_eq_nil_iff.mpr fun event isEvent => ?_
      rw [BridgeEvent.closes, (emitting.undone event isEvent).1]
      exact Bool.false_ne_true
    have after : ((calls.zipIdx emitter.opened.length).map fun call =>
        BridgeEvent.done call.2 call.1).filter (BridgeEvent.closes
          (streamItemId (emitter.opened.idxOf kind) kind)) = [] := by
      refine List.filter_eq_nil_iff.mpr fun event isEvent => ?_
      obtain ⟨⟨call, index⟩, isCall, rfl⟩ := List.mem_map.mp isEvent
      have none := unnamed call ((List.mem_zipIdx isCall).2.2 ▸ List.getElem_mem _)
      simp [BridgeEvent.closes, doneItem, none]
    rw [List.filter_append, List.filter_append, before, after,
      filter_closes distinct ((all kind).mpr isOpen)]
    rfl
  · show (((emitter.events ++ last).filterMap _).map _).Nodup
    have nothing : last.filterMap BridgeEvent.addedItem = [] :=
      List.filterMap_eq_nil_iff.mpr fun event isLast => (silent event isLast).2
    rw [List.filterMap_append, nothing, List.append_nil, emitting.added, List.map_map]
    exact emitting.distinct.map_on fun kind isOpen other _ same => idxOf_inj isOpen same
  · show (((emitter.events ++ (_ ++ _)).filterMap _).map _).Nodup
    have nothing : emitter.events.filterMap doneItem = [] :=
      List.filterMap_eq_nil_iff.mpr fun event isEvent => (emitting.undone event isEvent).1
    have items : ((kinds.map (emitter.closing texts)).filterMap doneItem).map Prod.fst =
        kinds.map emitter.opened.idxOf := by
      have reads : (doneItem ∘ emitter.closing texts) = fun kind =>
          some (emitter.opened.idxOf kind, .ofKind kind
            (some (streamItemId (emitter.opened.idxOf kind) kind)) (texts kind)) := rfl
      rw [List.filterMap_map, reads, List.filterMap_eq_map', List.map_map]
      rfl
    have indexes : ((((calls.zipIdx emitter.opened.length).map fun call =>
        BridgeEvent.done call.2 call.1).filterMap doneItem).map Prod.fst) =
        List.range' emitter.opened.length calls.length := by
      rw [List.filterMap_map, List.map_filterMap, ← List.zipIdx_map_snd, ← List.filterMap_eq_map]
      rfl
    rw [List.filterMap_append, nothing, List.nil_append, List.filterMap_append, List.map_append, items,
      indexes]
    refine List.nodup_append.mpr ⟨distinct.map_on fun kind isKind other _ same =>
      idxOf_inj ((all kind).mp isKind) same, List.nodup_range', fun index isItem other isCall => ?_⟩
    obtain ⟨kind, isKind, rfl⟩ := List.mem_map.mp isItem
    have inside := List.idxOf_lt_length_of_mem ((all kind).mp isKind)
    have outside := (List.mem_range'_1.mp isCall).1
    omega
  · intro outputIndex kind id item isAdded isDone
    obtain ⟨isOpen, rfl, rfl⟩ := emitting.mem_added (early isAdded)
    rcases mem_closed (late isDone) with ⟨other, isKind, same⟩ | ⟨call, isCall, index, least, same⟩
    · rw [StreamEmitter.closing, BridgeEvent.done.injEq] at same
      obtain rfl := idxOf_inj isOpen same.1
      rw [same.2]
      cases kind <;> rfl
    · have inside := List.idxOf_lt_length_of_mem isOpen
      rw [BridgeEvent.done.injEq] at same
      omega

theorem done_of_eventsFit (emitting : Emitting emitter pieces) {calls : List OutputItem}
    (unnamed : ∀ call ∈ calls, StreamEmitter.idOf call = none)
    (fits : EventsFit (closedEvents emitter texts kinds calls)) {kind : ItemKind}
    (isOpen : kind ∈ emitter.opened) : kind ∈ kinds := by
  obtain ⟨item, closed⟩ := fits.closed _ _ _ (List.mem_append_left _ (emitting.added_mem isOpen))
  have isDone : BridgeEvent.done (emitter.opened.idxOf kind) item ∈ (closedEvents emitter texts kinds
      calls).filter (BridgeEvent.closes (streamItemId (emitter.opened.idxOf kind) kind)) := by
    rw [closed]
    exact List.mem_cons_self
  obtain ⟨isEvent, closes⟩ := List.mem_filter.mp isDone
  rcases List.mem_append.mp isEvent with early | late
  · cases (emitting.undone _ early).1
  · rcases mem_closed late with ⟨other, isKind, same⟩ | ⟨call, isCall, _, _, same⟩
    · rw [same] at closes
      have id : streamItemId (emitter.opened.idxOf other) other =
          streamItemId (emitter.opened.idxOf kind) kind := by
        cases other <;> exact Option.some.inj (of_decide_eq_true closes)
      rw [← streamItemId_kind id]
      exact isKind
    · rw [same] at closes
      have none := unnamed call isCall
      rw [BridgeEvent.closes, doneItem, Option.any_some, none] at closes
      cases closes

end

/-! ## The events of a stream -/

theorem join_eq_empty_iff {texts : List String} : String.join texts = "" ↔ ∀ text ∈ texts, text = "" := by
  rw [← String.toList_inj, String.toList_join]
  simp

theorem join_eq_empty_of_nonempty {texts : List String} (nonempty : ∀ text ∈ texts, text ≠ "") :
    String.join texts = "" ↔ texts = [] := by
  rw [join_eq_empty_iff]
  constructor
  · intro every
    cases texts with
    | nil => rfl
    | cons text texts => exact absurd (every text List.mem_cons_self) (nonempty text List.mem_cons_self)
  · rintro rfl
    simp

theorem scriptTrim_empty : scriptTrim "" = "" := rfl

theorem streamCallItems_unnamed (calls : List CallDraft) :
    ∀ call ∈ streamCallItems calls, StreamEmitter.idOf call = none := by
  intro call isCall
  obtain ⟨_, _, rfl⟩ := List.mem_map.mp isCall
  rfl

def textsOf (text reasoning : List String) (kind : ItemKind) : String :=
  String.join (piecesOf text reasoning kind)

def doneKinds (text reasoning : List String) : List ItemKind :=
  [.reasoning, .message].filter fun kind => scriptTrim (textsOf text reasoning kind) ≠ ""

variable {emitter : StreamEmitter} {text reasoning : List String}

theorem mem_doneKinds {kind : ItemKind} :
    kind ∈ doneKinds text reasoning ↔ scriptTrim (textsOf text reasoning kind) ≠ "" := by
  cases kind <;> simp [doneKinds]

section

variable (emitted : Emitted emitter (piecesOf text reasoning))
include emitted

theorem isOpen_of_mem_doneKinds {kind : ItemKind}
    (isDone : kind ∈ doneKinds text reasoning) : kind ∈ emitter.opened := by
  rw [emitted.isOpen_iff]
  intro none
  rw [mem_doneKinds, textsOf, none] at isDone
  exact isDone scriptTrim_empty

theorem streamItems_eq (calls : List CallDraft) :
    zero3ApiAgentStreamItems (String.join text) (String.join reasoning) calls emitter.ids =
      (doneKinds text reasoning).map (fun kind =>
        .ofKind kind (emitter.itemId kind) (textsOf text reasoning kind)) ++ streamCallItems calls := by
  -- an item with a text was opened, so it has its id
  have ids : ∀ kind ∈ doneKinds text reasoning, ∃ id, emitter.itemId kind = some id := by
    intro kind isDone
    rw [emitted.emitting.itemId, if_pos (isOpen_of_mem_doneKinds emitted isDone)]
    exact ⟨_, rfl⟩
  have reasoned := ids .reasoning
  have said := ids .message
  rw [mem_doneKinds] at reasoned said
  rw [zero3ApiAgentStreamItems, doneKinds]
  by_cases thought : scriptTrim (String.join reasoning) = "" <;>
    by_cases spoke : scriptTrim (String.join text) = ""
  · simp [textsOf, piecesOf, thought, spoke]
  · obtain ⟨id, known⟩ := said spoke
    simp only [StreamEmitter.itemId] at known
    simp [textsOf, piecesOf, thought, spoke, OutputItem.ofKind, StreamEmitter.itemId,
      StreamEmitter.ids, known]
  · obtain ⟨id, known⟩ := reasoned thought
    simp only [StreamEmitter.itemId] at known
    simp [textsOf, piecesOf, thought, spoke, OutputItem.ofKind, StreamEmitter.itemId,
      StreamEmitter.ids, known]
  · obtain ⟨id, known⟩ := said spoke
    obtain ⟨other, alsoKnown⟩ := reasoned thought
    simp only [StreamEmitter.itemId] at known alsoKnown
    simp [textsOf, piecesOf, thought, spoke, OutputItem.ofKind, StreamEmitter.itemId,
      StreamEmitter.ids, known, alsoKnown]

/-- **When the events of a stream fit.** -/
theorem eventsFit_iff (calls : List CallDraft) : EventsFit (emitter.doneItems
        (zero3ApiAgentStreamItems (String.join text) (String.join reasoning) calls emitter.ids)).events ↔
      Spoken (String.join reasoning) ∧ Spoken (String.join text) := by
  have unnamed := streamCallItems_unnamed calls
  have isOpen_of_done : ∀ kind ∈ doneKinds text reasoning, kind ∈ emitter.opened :=
    fun _ => isOpen_of_mem_doneKinds emitted
  have events : (emitter.doneItems (zero3ApiAgentStreamItems (String.join text) (String.join reasoning)
      calls emitter.ids)).events = closedEvents emitter (textsOf text reasoning)
        (doneKinds text reasoning) (streamCallItems calls) := by
    rw [streamItems_eq emitted, StreamEmitter.doneItems, emitted.emitting.next, closedEvents,
      StreamEmitter.doneEvents_eq emitted.emitting isOpen_of_done _ unnamed]
  have spoken : ∀ kind, Spoken (textsOf text reasoning kind) ↔
      (kind ∈ emitter.opened → kind ∈ doneKinds text reasoning) := by
    intro kind
    rw [Spoken, mem_doneKinds, emitted.isOpen_iff, textsOf,
      join_eq_empty_of_nonempty (emitted.nonempty kind)]
    tauto
  rw [events]
  constructor
  · intro fits
    exact ⟨(spoken .reasoning).mpr (done_of_eventsFit emitted.emitting unnamed fits),
      (spoken .message).mpr (done_of_eventsFit emitted.emitting unnamed fits)⟩
  · rintro ⟨thought, spoke⟩
    have all : ∀ kind, kind ∈ doneKinds text reasoning ↔ kind ∈ emitter.opened := by
      intro kind
      refine ⟨isOpen_of_done kind, ?_⟩
      cases kind
      · exact (spoken .message).mp spoke
      · exact (spoken .reasoning).mp thought
    exact eventsFit_of_all emitted.emitting (fun _ => rfl)
      (List.Nodup.filter _ (by decide)) all unnamed

end

end Zero3Pilot.ProviderBridge
