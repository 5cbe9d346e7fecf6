import Zero3Pilot.ProviderSession.EventLog

/-! # Submitted messages and their echoes

A message of the user is stored when it is submitted, without an item; the runtime echoes it as an
item. The log is followed together with the messages that were submitted: the events without an item
are submitted messages that wait for their echo, and they keep their text. -/

namespace Zero3Pilot.ProviderSession

variable {env : StoreSurroundings}

/-! ## The messages that wait -/

def userPayload (content : String) : Json := .object [("text", .string (sliceTo maxText content))]

/-- A submitted message keeps its text, and there is one. -/
def Readable (env : StoreSurroundings) (content : String) : Prop :=
  scriptTrim (sliceTo maxText content) ≠ "" ∧
    boundedPayload env (userPayload content) = userPayload content

instance (content : String) : Decidable (Readable env content) :=
  inferInstanceAs (Decidable (_ ∧ _))

/-- **The submitted messages of a log**, by their sequence numbers: the events without an item are
theirs, and hold their texts. -/
structure Awaiting (env : StoreSurroundings) (session : StoredSession)
    (submitted : List (Nat × String)) : Prop where
  past : ∀ message ∈ submitted, message.1 < session.nextSeq
  source : ∀ event ∈ session.events, event.type = .userMessage → event.itemId = none →
    ∃ content, (event.sessionSeq, content) ∈ submitted ∧ event.payload = userPayload content
  holds : ∀ message ∈ submitted, ∀ event ∈ session.events, event.sessionSeq = message.1 →
    event.itemId = none → event.type = .userMessage ∧ event.payload = userPayload message.2
  readable : ∀ message ∈ submitted, Readable env message.2

variable {session : StoredSession} {submitted : List (Nat × String)}

/-- **A change that leaves the waiting events alone**: its events without an item are old ones, or
they are no messages of the user and have new numbers. -/
theorem Awaiting.mutate (awaiting : Awaiting env session submitted)
    (update : StoredSession → StoredSession) (next : session.nextSeq ≤ (update session).nextSeq)
    (alone : ∀ event ∈ (update session).events, event.itemId = none → event ∈ session.events ∨
      event.type ≠ .userMessage ∧ session.nextSeq ≤ event.sessionSeq) :
    Awaiting env (mutate env update session) submitted := by
  constructor
  · intro message member
    have later := le_mutate_nextSeq env update session
    have past := awaiting.past message member
    omega
  · intro event member user waits
    obtain ⟨written, kept, rfl⟩ := mem_mutate_events member
    obtain old | ⟨other, _⟩ := alone written kept waits
    · obtain ⟨content, submittedAs, payload⟩ := awaiting.source written old user waits
      refine ⟨content, submittedAs, ?_⟩
      rw [normalizeEvent, payload]
      exact (awaiting.readable _ submittedAs).2
    · exact absurd user other
  · intro message submittedAs event member same waits
    obtain ⟨written, kept, rfl⟩ := mem_mutate_events member
    obtain old | ⟨_, new⟩ := alone written kept waits
    · obtain ⟨user, payload⟩ := awaiting.holds message submittedAs written old same waits
      refine ⟨user, ?_⟩
      rw [normalizeEvent, payload]
      exact (awaiting.readable message submittedAs).2
    · have past := awaiting.past message submittedAs
      have number : written.sessionSeq = message.1 := same
      omega
  · exact awaiting.readable

variable {type : SessionEventType}

theorem Awaiting.append (awaiting : Awaiting env session submitted) {payload : Json}
    {details : EventMeta} {itemId : Option String} (other : type = .userMessage → ∃ id ∈ itemId, id ≠ "") :
    Awaiting env (append env type payload details itemId session) submitted := by
  apply awaiting.mutate
  · exact Nat.le_succ _
  · intro event member waits
    obtain old | new := List.mem_append.1 member
    · exact .inl old
    · rw [List.mem_singleton.1 new] at waits ⊢
      refine .inr ⟨?_, le_refl _⟩
      intro user
      obtain ⟨id, given, named⟩ := other user
      have none : itemId.filter (· ≠ "") = none := waits
      rw [given] at none
      simp [Option.filter, named] at none

/-- **A message is submitted.** -/
theorem Awaiting.appendUser (awaiting : Awaiting env session submitted) (logged : Logged session)
    {content : String} {details : EventMeta} (readable : Readable env content) :
    Awaiting env (appendUser env content details session)
      (submitted ++ [(session.nextSeq, content)]) := by
  have next : (ProviderSession.appendUser env content details session).nextSeq =
      session.nextSeq + 1 := by
    have added : Logged (addEvent env .userMessage (userPayload content) details none session) := by
      apply logged.addEvent
      rintro id ⟨⟩
    exact added.mutate_nextSeq (addEvent env .userMessage (userPayload content) details none)
  constructor
  · intro message member
    rw [next]
    obtain old | new := List.mem_append.1 member
    · exact Nat.lt_succ_of_lt (awaiting.past message old)
    · rw [List.mem_singleton.1 new]
      exact Nat.lt_succ_self _
  · intro event member user waits
    obtain ⟨written, kept, rfl⟩ := mem_mutate_events member
    obtain old | new := List.mem_append.1 kept
    · obtain ⟨said, submittedAs, payload⟩ := awaiting.source written old user waits
      refine ⟨said, List.mem_append_left _ submittedAs, ?_⟩
      rw [normalizeEvent, payload]
      exact (awaiting.readable _ submittedAs).2
    · rw [List.mem_singleton.1 new]
      refine ⟨content, List.mem_append_right _ List.mem_cons_self, ?_⟩
      rw [normalizeEvent]
      exact (congrArg (boundedPayload env) readable.2).trans readable.2
  · intro message submittedAs event member same waits
    obtain ⟨written, kept, rfl⟩ := mem_mutate_events member
    obtain before | last := List.mem_append.1 submittedAs
    · obtain old | new := List.mem_append.1 kept
      · obtain ⟨user, payload⟩ := awaiting.holds message before written old same waits
        refine ⟨user, ?_⟩
        rw [normalizeEvent, payload]
        exact (awaiting.readable message before).2
      · -- the new event has a number that no earlier message has
        have past := awaiting.past message before
        rw [List.mem_singleton.1 new] at same
        have number : session.nextSeq = message.1 := same
        omega
    · rw [List.mem_singleton.1 last] at same ⊢
      obtain old | new := List.mem_append.1 kept
      · have below := logged.below written old
        have number : written.sessionSeq = session.nextSeq := same
        omega
      · rw [List.mem_singleton.1 new]
        refine ⟨rfl, ?_⟩
        rw [normalizeEvent]
        exact (congrArg (boundedPayload env) readable.2).trans readable.2
  · intro message member
    obtain old | new := List.mem_append.1 member
    · exact awaiting.readable message old
    · rw [List.mem_singleton.1 new]
      exact readable

variable {itemId : String}

section

variable (awaiting : Awaiting env session submitted)
include awaiting

theorem Awaiting.updateItem (named : itemId ≠ "") {updater : Json → Json} {source : RuntimeMeta} :
    Awaiting env (updateItem env itemId type updater source session) submitted := by
  have updated : Awaiting env (ProviderSession.mutate env
      (updateEvents env itemId type updater source) session) submitted := by
    apply awaiting.mutate
    · exact le_refl _
    · intro event member waits
      obtain ⟨old, stored, rfl⟩ := List.mem_map.1 member
      rw [(inPlace_update env itemId type updater source).itemId] at waits
      have other : old.isItem itemId type = false := by simp [SessionEvent.isItem, waits]
      rw [other]
      exact .inl stored
  unfold ProviderSession.updateItem
  dsimp only
  split
  · exact updated
  · exact updated.append fun _ => ⟨itemId, rfl, named⟩

theorem Awaiting.adopt {itemId incomingText : String} :
    Awaiting env (adoptOrphanUserMessage env itemId incomingText session).2 submitted := by
  obtain ⟨_, unchanged, adopt, rfl | rfl⟩ | ⟨before, orphan, after, split, _, _, adopt⟩ :=
    adopt_cases env itemId incomingText session
  · rw [adopt]
    exact awaiting
  · rw [adopt]
    exact awaiting.mutate id (le_refl _) fun event member _ => .inl member
  · rw [adopt]
    apply awaiting.mutate
    · exact le_refl _
    · intro event member waits
      rw [split]
      obtain first | rest := List.mem_append.1 member
      · exact .inl (List.mem_append_left _ first)
      obtain rfl | last := List.mem_cons.1 rest
      · cases waits
      · exact .inl (List.mem_append_right _ (List.mem_cons_of_mem _ last))

theorem Awaiting.setBinding {patch : RuntimeBinding → RuntimeBinding} :
    Awaiting env (setBinding env patch session) submitted :=
  awaiting.mutate _ (le_refl _) fun _ member _ => .inl member

theorem Awaiting.appendAssistant {content : String} {details : EventMeta} :
    Awaiting env (appendAssistant env content details session) submitted := by
  unfold ProviderSession.appendAssistant
  dsimp only
  split
  · exact awaiting
  · apply awaiting.append
    rintro ⟨⟩

theorem Awaiting.ingestNotification {method : String} {params : Json} :
    Awaiting env (ingestNotification env method params session) submitted := by
  obtain ⟨_, same | ⟨payload, details, ends⟩⟩ |
    ⟨itemId, type, payload, updater, source, named, _, updated⟩ :=
    ingestNotification_cases env method params session
  · rw [same]
    exact awaiting
  · rw [ends]
    apply awaiting.append
    rintro ⟨⟩
  · rw [updated]
    apply Awaiting.updateItem _ named
    unfold adoptNotified
    split
    · exact awaiting.adopt
    · exact awaiting

theorem Awaiting.hydrateEntry {existingIds : List String}
    {entry : ThreadEntry} (named : entry.Named) {runtimeThreadId : Option String} :
    Awaiting env (hydrateEntry env runtimeThreadId (session, existingIds) entry).1 submitted := by
  cases entry with
  | turnEnd turnId status error =>
    unfold ProviderSession.hydrateEntry
    dsimp only
    split
    · exact awaiting
    · apply awaiting.append
      rintro ⟨⟩
  | item itemId type payload turnId =>
    unfold ProviderSession.hydrateEntry
    dsimp only
    split
    · exact awaiting
    · split
      · dsimp only
        split
        · exact awaiting.adopt
        · exact awaiting.adopt.append fun _ => ⟨itemId, rfl, named⟩
      · exact awaiting.append fun _ => ⟨itemId, rfl, named⟩

theorem Awaiting.hydrateFromThread {response : ScriptValue} {runtimeThreadId : Option String} :
    Awaiting env (hydrateFromThread env response runtimeThreadId session) submitted := by
  have entries : ∀ entries, (∀ entry ∈ entries, ThreadEntry.Named entry) → ∀ seen,
      Awaiting env (Prod.fst seen) submitted → Awaiting env
        (List.foldl (ProviderSession.hydrateEntry env runtimeThreadId) seen entries).1 submitted := by
    intro entries
    induction entries with
    | nil => exact fun _ seen waits => waits
    | cons entry entries ih =>
      intro named seen waits
      exact ih (fun other member => named other (List.mem_cons_of_mem _ member)) _
        (waits.hydrateEntry (named entry List.mem_cons_self))
  have hydrated := entries (threadEntries response)
    (fun entry => named_of_mem_threadEntries) (session, itemIds session) awaiting
  unfold ProviderSession.hydrateFromThread
  dsimp only
  split
  · exact hydrated.setBinding
  · exact hydrated

end

/-! ## Migrated messages -/

def migratedMessages (env : StoreSurroundings) :
    List LocalSessionMessage → StoredSession → List (Nat × String)
  | [], _ => []
  | message :: messages, session =>
    (if message.fromUser then [(session.nextSeq, message.content)] else []) ++
      migratedMessages env messages (migrateMessage env session message)

/-- **Legacy messages are migrated as submitted ones.** -/
theorem Awaiting.migrate {messages : List LocalSessionMessage}
    (readable : ∀ message ∈ messages, message.fromUser = true → Readable env message.content) :
    ∀ {session : StoredSession} {submitted : List (Nat × String)}, Logged session →
      Awaiting env session submitted → Awaiting env (messages.foldl (migrateMessage env) session)
        (submitted ++ migratedMessages env messages session) := by
  induction messages with
  | nil =>
    intro session submitted _ awaiting
    simpa [migratedMessages] using awaiting
  | cons message messages ih =>
    intro session submitted logged awaiting
    have others : ∀ other ∈ messages, other.fromUser = true → Readable env other.content :=
      fun other member => readable other (List.mem_cons_of_mem _ member)
    rw [List.foldl_cons, migratedMessages, ← List.append_assoc]
    by_cases user : message.fromUser = true
    · rw [if_pos user]
      apply ih others
      · rw [migrateMessage, if_pos user]
        exact logged.appendUser
      · rw [migrateMessage, if_pos user]
        exact awaiting.appendUser logged (readable message List.mem_cons_self user)
    · rw [if_neg user, List.append_nil]
      apply ih others
      · rw [migrateMessage, if_neg user]
        exact logged.appendAssistant
      · rw [migrateMessage, if_neg user]
        exact awaiting.appendAssistant

/-! ## The echo of a message -/

theorem takeUtf16_takeUtf16 (chars : List Char) :
    ∀ units, takeUtf16 units (takeUtf16 units chars) = takeUtf16 units chars := by
  induction chars with
  | nil => exact fun _ => rfl
  | cons char chars ih =>
    intro units
    rw [takeUtf16]
    split
    · rename_i fits
      rw [takeUtf16, if_pos fits, ih]
    · rfl

theorem payloadText_userPayload {content : String} (readable : Readable env content) :
    payloadText (userPayload content) = sliceTo maxText content := by
  have cut : text ((userPayload content).get "text") maxText = sliceTo maxText content := by
    have slice : sliceTo maxText (sliceTo maxText content) = sliceTo maxText content := by
      rw [sliceTo, sliceTo, String.toList_ofList, takeUtf16_takeUtf16]
    exact slice
  have said : sliceTo maxText content ≠ "" := by
    intro empty
    apply readable.1
    rw [empty]
    rfl
  rw [payloadText, cut, if_pos said]

def WaitsAs (session : StoredSession) (message : Nat × String) : Prop :=
  ∃ event ∈ session.events, event.sessionSeq = message.1 ∧ event.itemId = none

def Echoes (incomingText : String) (message : Nat × String) : Prop :=
  scriptTrim (sliceTo maxText message.2) = scriptTrim incomingText

theorem Awaiting.isOrphan (awaiting : Awaiting env session submitted) (logged : Logged session)
    {incomingText : String} {message : Nat × String} (submittedAs : message ∈ submitted)
    (waits : WaitsAs session message) (echoes : Echoes incomingText message) :
    ¬ NoOrphan incomingText session := by
  obtain ⟨event, stored, number, noItem⟩ := waits
  obtain ⟨user, payload⟩ := awaiting.holds message submittedAs event stored number noItem
  have readable := awaiting.readable message submittedAs
  rintro (blank | none)
  · rw [← echoes] at blank
    exact readable.1 blank
  · have orphan : event.isOrphan (scriptTrim incomingText) = true := by
      rw [isOrphan_iff (logged.named event stored), payload, payloadText_userPayload readable]
      exact ⟨noItem, user, echoes⟩
    rw [none event stored] at orphan
    cases orphan

theorem seqs_mutate (update : StoredSession → StoredSession)
    (room : (update session).events.length ≤ maxEvents) :
    (mutate env update session).events.map (·.sessionSeq) =
      (update session).events.map (·.sessionSeq) := by
  rw [mutate_events, shown, newest_eq_self room, List.map_map]
  rfl

theorem seqs_adopt (room : session.events.length ≤ maxEvents) (itemId incomingText : String) :
    (adoptOrphanUserMessage env itemId incomingText session).2.events.map (·.sessionSeq) =
      session.events.map (·.sessionSeq) := by
  obtain ⟨_, unchanged, adopt, rfl | rfl⟩ | ⟨before, orphan, after, split, _, _, adopt⟩ :=
    adopt_cases env itemId incomingText session
  · rw [adopt]
  · rw [adopt]
    exact seqs_mutate id room
  · rw [adopt]
    have length : (before ++ orphan.adopted itemId :: after).length ≤ maxEvents := by
      rw [split] at room
      simpa using room
    rw [seqs_mutate (withEvents (before ++ orphan.adopted itemId :: after)) length, split]
    simp [withEvents, SessionEvent.adopted]

theorem seqs_updateItem (room : session.events.length ≤ maxEvents) {updater : Json → Json}
    {source : RuntimeMeta} (found : session.events.any (·.isItem itemId type) = true) :
    (updateItem env itemId type updater source session).events.map (·.sessionSeq) =
      session.events.map (·.sessionSeq) := by
  unfold updateItem
  dsimp only
  rw [if_pos found, seqs_mutate]
  · rw [updateEvents_events, List.map_map]
    apply List.map_congr_left
    intro event _
    exact (inPlace_update env itemId type updater source).sessionSeq event
  · simpa using room

theorem carries_updateItem (updater : Json → Json) (source : RuntimeMeta)
    (room : session.events.length ≤ maxEvents) {event : SessionEvent} (stored : event ∈ session.events)
    (item : event.isItem itemId type = true) :
    ∃ later ∈ (updateItem env itemId type updater source session).events,
      later.sessionSeq = event.sessionSeq ∧ later.Carries itemId := by
  have found : session.events.any (·.isItem itemId type) = true :=
    List.any_eq_true.2 ⟨event, stored, item⟩
  unfold updateItem
  dsimp only
  rw [if_pos found, mutate_events, updateEvents_events, shown, newest_eq_self (by simpa using room)]
  refine ⟨_, List.mem_map_of_mem (List.mem_map_of_mem stored), ?_, ?_⟩
  · exact (inPlace_update env itemId type updater source).sessionSeq event
  · have carries : event.itemId = some itemId := by
      simp only [SessionEvent.isItem, Bool.and_eq_true, decide_eq_true_eq] at item
      exact item.1
    rw [SessionEvent.Carries, ← carries]
    exact (inPlace_update env itemId type updater source).itemId event

/-- **The echo of a message** is no second event, where the item is known or the message waits. -/
theorem echo_merges (logged : Logged session) (awaiting : Awaiting env session submitted)
    (room : session.events.length ≤ maxEvents) {method : String} {params : Json} {payload : Json}
    (notified : notifiedItem method params = some (itemId, .userMessage, some payload))
    (allowed : ItemAllowed (notifiedItem method params) session) :
    (¬ Unknown itemId session →
      (ingestNotification env method params session).events.map (·.sessionSeq) =
        session.events.map (·.sessionSeq)) ∧
    ((∃ message ∈ submitted, Echoes (payloadText payload) message ∧ WaitsAs session message) →
      Unknown itemId session →
      (ingestNotification env method params session).events.map (·.sessionSeq) =
        session.events.map (·.sessionSeq) ∧
      ∃ message ∈ submitted, Echoes (payloadText payload) message ∧ WaitsAs session message ∧
        ∃ event ∈ (ingestNotification env method params session).events,
          event.sessionSeq = message.1 ∧ event.Carries itemId) := by
  obtain ⟨absent, _⟩ | ⟨id, type, given, updater, source, named, found, updated⟩ :=
    ingestNotification_cases env method params session
  · rw [notified] at absent
    cases absent
  rw [notified] at found
  cases found
  rw [updated]
  have adopts : adoptNotified env itemId .userMessage (some payload) session =
      (adoptOrphanUserMessage env itemId (payloadText payload) session).2 := rfl
  rw [adopts]
  obtain ⟨oneType, notTwice⟩ := allowed itemId .userMessage (some payload) notified
  have once := notTwice (payloadText payload) rfl
  constructor
  · intro known
    -- the item has an event, which adoption leaves where it is
    obtain unknown | noOrphan := once
    · exact absurd unknown known
    have kept : (adoptOrphanUserMessage env itemId (payloadText payload) session).2.events.length ≤
        maxEvents ∧ (adoptOrphanUserMessage env itemId (payloadText payload) session).2.events.any
          (·.isItem itemId .userMessage) = true := by
      obtain ⟨event, stored, carries⟩ : ∃ event ∈ session.events, event.Carries itemId := by
        simpa [Unknown] using known
      have type := oneType event stored carries
      have item : event.itemId = some itemId := carries
      obtain ⟨_, unchanged, adopt, rfl | rfl⟩ | ⟨before, orphan, after, split, isOrphan, said, adopt⟩ :=
        adopt_cases env itemId (payloadText payload) session
      · rw [adopt]
        refine ⟨room, List.any_eq_true.2 ⟨event, stored, ?_⟩⟩
        simp [SessionEvent.isItem, type, item]
      · rw [adopt]
        refine ⟨room_mutate _ _, List.any_eq_true.2 ⟨normalizeEvent env event, ?_, ?_⟩⟩
        · rw [mutate_events, id, shown, newest_eq_self room]
          exact List.mem_map_of_mem stored
        · simp [SessionEvent.isItem, normalizeEvent, type, item]
      · obtain blank | none := noOrphan
        · exact absurd blank said
        · have waits := none orphan (by rw [split]; simp)
          rw [isOrphan] at waits
          cases waits
    rw [seqs_updateItem kept.1 kept.2, seqs_adopt room]
  · rintro ⟨message, submittedAs, echoes, waits⟩ unknown
    have some := awaiting.isOrphan logged submittedAs waits echoes
    obtain ⟨none, _⟩ | ⟨before, orphan, after, split, isOrphan, _, adopt⟩ :=
      adopt_cases env itemId (payloadText payload) session
    · exact absurd none some
    have stored : orphan ∈ session.events := by rw [split]; simp
    obtain ⟨noItem, user, text⟩ := (isOrphan_iff (logged.named orphan stored)).1 isOrphan
    obtain ⟨content, submittedFor, said⟩ := awaiting.source orphan stored user noItem
    have written : normalizeEvent env (orphan.adopted itemId) ∈
        (adoptOrphanUserMessage env itemId (payloadText payload) session).2.events := by
      rw [adopt, mutate_events, withEvents_events, shown, newest_eq_self]
      · exact List.mem_map_of_mem (by simp)
      · rw [split] at room
        simpa using room
    have item : (normalizeEvent env (orphan.adopted itemId)).isItem itemId .userMessage = true := by
      simp [SessionEvent.isItem, normalizeEvent, SessionEvent.adopted, user]
    have adoptedRoom : (adoptOrphanUserMessage env itemId (payloadText payload) session).2.events.length
        ≤ maxEvents := by
      rw [adopt]
      exact room_mutate (withEvents (before ++ orphan.adopted itemId :: after)) session
    have isSaid : Echoes (payloadText payload) (orphan.sessionSeq, content) := by
      rw [Echoes, ← text, said, payloadText_userPayload (awaiting.readable _ submittedFor)]
    obtain ⟨later, kept, number, carries⟩ :=
      carries_updateItem updater source adoptedRoom written item
    constructor
    · rw [seqs_updateItem adoptedRoom (List.any_eq_true.2 ⟨_, written, item⟩), seqs_adopt room]
    · exact ⟨(orphan.sessionSeq, content), submittedFor, isSaid, ⟨orphan, stored, rfl, noItem⟩,
        later, kept, number, carries⟩

end Zero3Pilot.ProviderSession
