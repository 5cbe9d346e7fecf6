import Zero3Pilot.ProviderSession.EventStore

/-! # The order and the identities of the log

What each operation of the event store leaves of the log: sequence numbers that grow strictly, one
event for each item, and the messages of the user that wait for their echo. Every change goes through
`mutate`, so each operation is settled by what its update does to the events. -/

namespace Zero3Pilot.ProviderSession

open List (mem_append mem_append_left mem_cons mem_cons_of_mem mem_cons_self mem_map mem_map_of_mem
  mem_singleton pairwise_append pairwise_cons pairwise_map)

variable {env : StoreSurroundings}

/-! ## What is read back -/

/-- The events that are read back of those that are written. -/
def shown (env : StoreSurroundings) (events : List SessionEvent) : List SessionEvent :=
  (newest maxEvents events).map (normalizeEvent env)

@[simp] theorem mutate_events (update : StoredSession → StoredSession) (session : StoredSession) :
    (mutate env update session).events = shown env (update session).events := by
  have room : ((newest maxEvents (update session).events).map (normalizeEvent env)).length ≤
      maxEvents := by
    rw [List.length_map]
    exact length_newest_le _ _
  simp only [mutate, normalizeSession]
  rw [newest_eq_self room, shown]

theorem mem_mutate_events {update : StoredSession → StoredSession} {session : StoredSession}
    {event : SessionEvent} (member : event ∈ (mutate env update session).events) :
    ∃ written ∈ (update session).events, event = normalizeEvent env written := by
  rw [mutate_events] at member
  obtain ⟨written, kept, rfl⟩ := mem_map.1 member
  exact ⟨written, mem_of_mem_newest kept, rfl⟩

theorem room_mutate (update : StoredSession → StoredSession) (session : StoredSession) :
    (mutate env update session).events.length ≤ maxEvents := by
  rw [mutate_events, shown, List.length_map]
  exact length_newest_le _ _

theorem maxSeq_lt {events : List SessionEvent} {bound : Nat} (positive : 0 < bound)
    (below : ∀ event ∈ events, event.sessionSeq < bound) : maxSeq events < bound := by
  have fold : ∀ start < bound,
      events.foldl (fun max event => Nat.max max event.sessionSeq) start < bound := by
    induction events with
    | nil => exact fun start small => small
    | cons event events ih =>
      intro start small
      apply ih (fun other member => below other (mem_cons_of_mem _ member))
      exact Nat.max_lt.2 ⟨small, below event mem_cons_self⟩
  exact fold 0 positive

/-! ## A log in order -/

def SessionEvent.Carries (event : SessionEvent) (itemId : String) : Prop :=
  event.itemId = some itemId

instance (event : SessionEvent) (itemId : String) : Decidable (event.Carries itemId) :=
  inferInstanceAs (Decidable (event.itemId = some itemId))

/-- **A log in order**: the sequence numbers grow and are below the next one, and no two events carry
one item. -/
structure Logged (session : StoredSession) : Prop where
  ordered : session.events.Pairwise fun event later => event.sessionSeq < later.sessionSeq
  below : ∀ event ∈ session.events, event.sessionSeq < session.nextSeq
  positive : 0 < session.nextSeq
  unique : session.events.Pairwise fun event later =>
    ∀ itemId, event.Carries itemId → ¬ later.Carries itemId
  named : ∀ event ∈ session.events, ¬ event.Carries ""

variable {session : StoredSession}

theorem Logged.mutate_nextSeq (update : StoredSession → StoredSession) (logged : Logged (update session)) :
    (mutate env update session).nextSeq = (update session).nextSeq := by
  have highest : maxSeq (mutate env update session).events < (update session).nextSeq := by
    apply maxSeq_lt logged.positive
    intro event member
    obtain ⟨written, kept, rfl⟩ := mem_mutate_events member
    exact logged.below written kept
  rw [mutate_events, shown] at highest
  simp only [mutate, normalizeSession, newest_map, newest_newest]
  rw [if_pos highest]

/-- **Writing keeps the order.** A log that is written in order is read back in order. -/
theorem Logged.mutate (update : StoredSession → StoredSession) (logged : Logged (update session)) :
    Logged (mutate env update session) := by
  have next : (ProviderSession.mutate env update session).nextSeq = (update session).nextSeq :=
    logged.mutate_nextSeq update
  constructor
  · rw [mutate_events, shown, pairwise_map]
    exact logged.ordered.sublist (newest_sublist _ _)
  · intro event member
    obtain ⟨written, kept, rfl⟩ := mem_mutate_events member
    rw [next]
    exact logged.below written kept
  · rw [next]
    exact logged.positive
  · rw [mutate_events, shown, pairwise_map]
    exact logged.unique.sublist (newest_sublist _ _)
  · intro event member
    obtain ⟨written, kept, rfl⟩ := mem_mutate_events member
    exact logged.named written kept

def Unknown (itemId : String) (session : StoredSession) : Prop :=
  ∀ event ∈ session.events, ¬ event.Carries itemId

instance (itemId : String) (session : StoredSession) : Decidable (Unknown itemId session) :=
  inferInstanceAs (Decidable (∀ event ∈ session.events, ¬ event.Carries itemId))

variable {type : SessionEventType} {payload : Json} {details : EventMeta}

theorem Logged.addEvent (logged : Logged session) {itemId : Option String}
    (fresh : ∀ id ∈ itemId, Unknown id session) :
    Logged (addEvent env type payload details itemId session) := by
  constructor
  · apply pairwise_append.2
    refine ⟨logged.ordered, List.pairwise_singleton _ _, ?_⟩
    intro event member added new
    rw [mem_singleton.1 new]
    exact logged.below event member
  · intro event member
    obtain old | new := mem_append.1 member
    · exact Nat.lt_succ_of_lt (logged.below event old)
    · rw [mem_singleton.1 new]
      exact Nat.lt_succ_self _
  · exact Nat.succ_pos _
  · apply pairwise_append.2
    refine ⟨logged.unique, List.pairwise_singleton _ _, ?_⟩
    intro event member added new id carries again
    rw [mem_singleton.1 new] at again
    have given : itemId.filter (· ≠ "") = some id := again
    exact fresh id (Option.filter_eq_some_iff.1 given).1 event member carries
  · intro event member
    obtain old | new := mem_append.1 member
    · exact logged.named event old
    · rw [mem_singleton.1 new]
      intro carries
      have given : itemId.filter (· ≠ "") = some "" := carries
      simp [Option.filter_eq_some_iff] at given

theorem Logged.append (logged : Logged session) {itemId : Option String}
    (fresh : ∀ id ∈ itemId, Unknown id session) :
    Logged (append env type payload details itemId session) :=
  (logged.addEvent fresh).mutate (ProviderSession.addEvent env type payload details itemId)

structure InPlace (change : SessionEvent → SessionEvent) : Prop where
  sessionSeq : ∀ event, (change event).sessionSeq = event.sessionSeq
  itemId : ∀ event, (change event).itemId = event.itemId
  type : ∀ event, (change event).type = event.type

theorem Logged.map (logged : Logged session) {change : SessionEvent → SessionEvent}
    (inPlace : InPlace change) :
    Logged { session with events := session.events.map change } := by
  constructor
  · rw [pairwise_map]
    simpa only [inPlace.sessionSeq] using logged.ordered
  · intro event member
    obtain ⟨old, kept, rfl⟩ := mem_map.1 member
    rw [inPlace.sessionSeq]
    exact logged.below old kept
  · exact logged.positive
  · rw [pairwise_map]
    simpa only [SessionEvent.Carries, inPlace.itemId] using logged.unique
  · intro event member
    obtain ⟨old, kept, rfl⟩ := mem_map.1 member
    rw [SessionEvent.Carries, inPlace.itemId]
    exact logged.named old kept

variable (env) in
theorem inPlace_update (itemId : String) (type : SessionEventType) (updater : Json → Json)
    (source : RuntimeMeta) : InPlace fun event =>
      if event.isItem itemId type then updatedEvent env updater source event else event := by
  constructor
  · intro event
    split <;> rfl
  · intro event
    split <;> rfl
  · intro event
    split <;> rfl

/-! ## The notifications on an item -/

def OneType (itemId : String) (type : SessionEventType) (session : StoredSession) : Prop :=
  ∀ event ∈ session.events, event.Carries itemId → event.type = type

instance (itemId : String) (type : SessionEventType) (session : StoredSession) :
    Decidable (OneType itemId type session) :=
  inferInstanceAs (Decidable (∀ event ∈ session.events, event.Carries itemId → event.type = type))

/-- **An item is updated in order** where its events are of one type. -/
theorem Logged.updateItem (logged : Logged session) {itemId : String} {updater : Json → Json}
    {source : RuntimeMeta} (oneType : OneType itemId type session) :
    Logged (updateItem env itemId type updater source session) := by
  have updated : Logged (ProviderSession.mutate env (updateEvents env itemId type updater source)
      session) :=
    (logged.map (inPlace_update env itemId type updater source)).mutate
      (updateEvents env itemId type updater source)
  unfold ProviderSession.updateItem
  dsimp only
  split
  · exact updated
  · rename_i absent
    apply updated.append
    intro other same event member carries
    cases same
    obtain ⟨written, kept, rfl⟩ := mem_mutate_events member
    obtain ⟨old, stored, rfl⟩ := mem_map.1 kept
    have known : old.Carries itemId := by
      rw [SessionEvent.Carries, ← (inPlace_update env itemId type updater source).itemId old]
      exact carries
    apply absent
    apply List.any_eq_true.2
    refine ⟨old, stored, ?_⟩
    have type : old.type = type := oneType old stored known
    have item : old.itemId = some itemId := known
    simp [SessionEvent.isItem, type, item]

/-! ## Adoption -/

theorem changeFirst_some {α : Type} {asked : α → Bool} {change : α → α} {items changed : List α}
    (found : changeFirst asked change items = some changed) :
    ∃ before item after, items = before ++ item :: after ∧ asked item = true ∧
      changed = before ++ change item :: after := by
  induction items generalizing changed with
  | nil => cases found
  | cons item items ih =>
    rw [changeFirst] at found
    split at found
    · rename_i holds
      cases found
      exact ⟨[], item, items, rfl, holds, rfl⟩
    · obtain ⟨rest, later, rfl⟩ := Option.map_eq_some_iff.1 found
      obtain ⟨before, other, after, rfl, holds, rfl⟩ := ih later
      exact ⟨item :: before, other, after, rfl, holds, rfl⟩

theorem changeFirst_none {α : Type} {asked : α → Bool} {change : α → α} {items : List α} :
    changeFirst asked change items = none ↔ ∀ item ∈ items, asked item = false := by
  induction items with
  | nil => simp [changeFirst]
  | cons item items ih =>
    rw [changeFirst]
    split
    · rename_i holds
      simp [holds]
    · rename_i fails
      rw [Option.map_eq_none_iff, ih]
      simp [fails]

theorem changeLast_some {α : Type} {asked : α → Bool} {change : α → α} {items changed : List α}
    (found : changeLast asked change items = some changed) :
    ∃ before item after, items = before ++ item :: after ∧ asked item = true ∧
      changed = before ++ change item :: after := by
  obtain ⟨reversed, first, rfl⟩ := Option.map_eq_some_iff.1 found
  obtain ⟨before, item, after, split, holds, rfl⟩ := changeFirst_some first
  refine ⟨after.reverse, item, before.reverse, ?_, holds, by simp⟩
  rw [← List.reverse_reverse items, split]
  simp

theorem changeLast_none {α : Type} {asked : α → Bool} {change : α → α} {items : List α} :
    changeLast asked change items = none ↔ ∀ item ∈ items, asked item = false := by
  rw [changeLast, Option.map_eq_none_iff, changeFirst_none]
  simp

def SessionEvent.adopted (itemId : String) (event : SessionEvent) : SessionEvent :=
  { event with itemId := some itemId }

/-- No message waits for an echo of a text. -/
def NoOrphan (incomingText : String) (session : StoredSession) : Prop :=
  scriptTrim incomingText = "" ∨
    ∀ event ∈ session.events, event.isOrphan (scriptTrim incomingText) = false

instance (incomingText : String) (session : StoredSession) :
    Decidable (NoOrphan incomingText session) :=
  inferInstanceAs (Decidable (_ ∨ ∀ event ∈ session.events, _ = false))

variable (env) in
/-- **How an orphan is adopted**: there is none, or one of them takes the item where it stands. -/
theorem adopt_cases (itemId incomingText : String) (session : StoredSession) :
    (NoOrphan incomingText session ∧
      ∃ unchanged, adoptOrphanUserMessage env itemId incomingText session = (false, unchanged) ∧
        (unchanged = session ∨ unchanged = mutate env id session)) ∨
    ∃ before orphan after, session.events = before ++ orphan :: after ∧
      orphan.isOrphan (scriptTrim incomingText) = true ∧ scriptTrim incomingText ≠ "" ∧
      adoptOrphanUserMessage env itemId incomingText session =
        (true, mutate env (withEvents (before ++ orphan.adopted itemId :: after)) session) := by
  unfold adoptOrphanUserMessage
  dsimp only
  split
  · rename_i blank
    exact .inl ⟨.inl blank, session, rfl, .inl rfl⟩
  · rename_i said
    cases found : changeLast (·.isOrphan (scriptTrim incomingText))
        (fun event => { event with itemId := some itemId }) session.events with
    | none => exact .inl ⟨.inr (changeLast_none.1 found), _, rfl, .inr rfl⟩
    | some events =>
      obtain ⟨before, orphan, after, split, holds, rfl⟩ := changeLast_some found
      exact .inr ⟨before, orphan, after, split, holds, said, rfl⟩

theorem isOrphan_iff {event : SessionEvent} {normalized : String} (named : ¬ event.Carries "") :
    event.isOrphan normalized = true ↔ event.itemId = none ∧ event.type = .userMessage ∧
      scriptTrim (payloadText event.payload) = normalized := by
  have item : (!event.itemId.any (· ≠ "")) = true ↔ event.itemId = none := by
    cases found : event.itemId with
    | none => simp
    | some itemId =>
      have other : itemId ≠ "" := by
        rintro rfl
        exact named found
      simp [other]
  simp only [SessionEvent.isOrphan, Bool.and_eq_true, item, decide_eq_true_eq, and_assoc]

theorem Logged.adopted (logged : Logged session) {before after : List SessionEvent}
    {orphan : SessionEvent} {itemId : String} (split : session.events = before ++ orphan :: after)
    (unknown : Unknown itemId session) (named : itemId ≠ "") :
    Logged (withEvents (before ++ orphan.adopted itemId :: after) session) := by
  have unknownIn : ∀ event, event ∈ before ∨ event ∈ after → ¬ event.Carries itemId := by
    intro event member
    apply unknown event
    rw [split]
    obtain first | last := member
    · exact mem_append_left _ first
    · exact List.mem_append_right _ (mem_cons_of_mem _ last)
  have ordered := logged.ordered
  have unique := logged.unique
  rw [split] at ordered unique
  obtain ⟨orderedFirst, orderedRest, across⟩ := pairwise_append.1 ordered
  obtain ⟨orderedLater, orderedLast⟩ := pairwise_cons.1 orderedRest
  obtain ⟨uniqueFirst, uniqueRest, apart⟩ := pairwise_append.1 unique
  obtain ⟨_, uniqueLast⟩ := pairwise_cons.1 uniqueRest
  constructor
  · refine pairwise_append.2 ⟨orderedFirst, pairwise_cons.2 ⟨orderedLater, orderedLast⟩, ?_⟩
    intro event first later member
    obtain rfl | last := mem_cons.1 member
    · exact across event first orphan mem_cons_self
    · exact across event first later (mem_cons_of_mem _ last)
  · intro event member
    obtain first | rest := mem_append.1 member
    · exact logged.below event (by rw [split]; exact mem_append_left _ first)
    obtain rfl | last := mem_cons.1 rest
    · exact logged.below orphan (by rw [split]; simp)
    · exact logged.below event (by rw [split]; simp [last])
  · exact logged.positive
  · refine pairwise_append.2 ⟨uniqueFirst, pairwise_cons.2 ⟨?_, uniqueLast⟩, ?_⟩
    · intro later last id carries again
      have same : itemId = id := by simpa [SessionEvent.Carries, SessionEvent.adopted] using carries
      rw [← same] at again
      exact unknownIn later (.inr last) again
    · intro event first later member id carries again
      obtain rfl | last := mem_cons.1 member
      · have same : itemId = id := by simpa [SessionEvent.Carries, SessionEvent.adopted] using again
        rw [← same] at carries
        exact unknownIn event (.inl first) carries
      · exact apart event first later (mem_cons_of_mem _ last) id carries again
  · intro event member
    obtain first | rest := mem_append.1 member
    · exact logged.named event (by rw [split]; exact mem_append_left _ first)
    obtain rfl | last := mem_cons.1 rest
    · simpa [SessionEvent.Carries, SessionEvent.adopted] using named
    · exact logged.named event (by rw [split]; simp [last])

/-- An item that an event carries has no orphan that could take it a second time. -/
def NotTwice (itemId incomingText : String) (session : StoredSession) : Prop :=
  Unknown itemId session ∨ NoOrphan incomingText session

instance (itemId incomingText : String) (session : StoredSession) :
    Decidable (NotTwice itemId incomingText session) :=
  inferInstanceAs (Decidable (_ ∨ _))

variable {itemId incomingText : String}

/-- **An item is adopted in order** where no event carries it, or no orphan waits for it. -/
theorem Logged.adopt (logged : Logged session) (named : itemId ≠ "")
    (notTwice : NotTwice itemId incomingText session) :
    Logged (adoptOrphanUserMessage env itemId incomingText session).2 := by
  obtain ⟨_, unchanged, adopt, rfl | rfl⟩ | ⟨before, orphan, after, split, isOrphan, said, adopt⟩ :=
    adopt_cases env itemId incomingText session
  · rw [adopt]
    exact logged
  · rw [adopt]
    exact logged.mutate id
  · rw [adopt]
    have unknown : Unknown itemId session := by
      obtain unknown | blank | none := notTwice
      · exact unknown
      · exact absurd blank said
      · have waits := none orphan (by rw [split]; simp)
        rw [isOrphan] at waits
        cases waits
    exact (logged.adopted split unknown named).mutate
      (withEvents (before ++ orphan.adopted itemId :: after))

theorem OneType.adopt (logged : Logged session) (oneType : OneType itemId .userMessage session) :
    OneType itemId .userMessage (adoptOrphanUserMessage env itemId incomingText session).2 := by
  obtain ⟨_, unchanged, adopt, rfl | rfl⟩ | ⟨before, orphan, after, split, isOrphan, _, adopt⟩ :=
    adopt_cases env itemId incomingText session
  · rw [adopt]
    exact oneType
  · rw [adopt]
    intro event member carries
    obtain ⟨written, kept, rfl⟩ := mem_mutate_events member
    exact oneType written kept carries
  · rw [adopt]
    intro event member carries
    obtain ⟨written, kept, rfl⟩ := mem_mutate_events member
    obtain first | rest := mem_append.1 kept
    · exact oneType written (by rw [split]; exact mem_append_left _ first) carries
    obtain rfl | last := mem_cons.1 rest
    · have member : orphan ∈ session.events := by rw [split]; simp
      exact ((isOrphan_iff (logged.named orphan member)).1 isOrphan).2.1
    · exact oneType written (by rw [split]; simp [last]) carries

/-! ## Notifications -/

/-- The item that a notification is about: its id, the type of its event, and the payload whose text
may be the echo of a message of the user. -/
def notifiedItem (method : String) (params : Json) :
    Option (String × SessionEventType × Option Json) :=
  let item := followedItem (ScriptValue.asRecord (params.get "item"))
  if method = "item/started" then
    item.map fun (itemId, type, item) => (itemId, type, some (startedItemPayload item))
  else if method = "item/completed" then
    item.map fun (itemId, type, item) => (itemId, type, some (completedItemPayload item))
  else if method = "turn/completed" then none
  else
    let itemId := text (params.get "itemId") 256
    (partOf method params).bind fun (type, _) =>
      if itemId = "" then none else some (itemId, type, none)

def echoText (type : SessionEventType) (payload : Option Json) : Option String :=
  if type = .userMessage then payload.map payloadText else none

def ItemAllowed (item : Option (String × SessionEventType × Option Json)) (session : StoredSession) :
    Prop :=
  ∀ itemId type payload, item = some (itemId, type, payload) → OneType itemId type session ∧
    ∀ incomingText ∈ echoText type payload, NotTwice itemId incomingText session

instance (item : Option (String × SessionEventType × Option Json)) (session : StoredSession) :
    Decidable (ItemAllowed item session) :=
  match item with
  | none => isTrue fun _ _ _ none => by cases none
  | some (itemId, type, payload) =>
    decidable_of_iff (OneType itemId type session ∧
      ∀ incomingText ∈ (echoText type payload).toList, NotTwice itemId incomingText session)
      (by simp [ItemAllowed])

def adoptNotified (env : StoreSurroundings) (itemId : String) (type : SessionEventType)
    (payload : Option Json) (session : StoredSession) : StoredSession :=
  match echoText type payload with
  | some incomingText => (adoptOrphanUserMessage env itemId incomingText session).2
  | none => session

theorem followedItem_named {value : Json} {itemId : String} {item : Json}
    (followed : followedItem value = some (itemId, type, item)) : itemId ≠ "" := by
  unfold followedItem at followed
  split at followed
  · split at followed
    · cases followed
    · rename_i named
      cases followed
      exact named
  · cases followed

variable (env) in
/-- **What a notification does**: nothing, the end of a turn, or an update of its item after adoption. -/
theorem ingestNotification_cases (method : String) (params : Json) (session : StoredSession) :
    (notifiedItem method params = none ∧ (ingestNotification env method params session = session ∨
        ∃ payload details, ingestNotification env method params session =
          append env .turnState payload details none session)) ∨
    ∃ itemId type payload updater source, itemId ≠ "" ∧
      notifiedItem method params = some (itemId, type, payload) ∧
      ingestNotification env method params session =
        updateItem env itemId type updater source (adoptNotified env itemId type payload session) := by
  have adopts : ∀ itemId type payload, adoptFor env itemId type payload session =
      adoptNotified env itemId type (some payload) session := by
    intro itemId type payload
    unfold adoptFor adoptNotified echoText
    split <;> rfl
  unfold ingestNotification notifiedItem
  by_cases started : method = "item/started"
  · simp only [if_pos started]
    cases followed : followedItem (ScriptValue.asRecord (params.get "item")) with
    | none => exact .inl ⟨rfl, .inl rfl⟩
    | some found =>
      obtain ⟨itemId, type, item⟩ := found
      exact .inr ⟨itemId, type, _, _, _, followedItem_named followed, rfl, by rw [← adopts]⟩
  by_cases completed : method = "item/completed"
  · simp only [if_neg started, if_pos completed]
    cases followed : followedItem (ScriptValue.asRecord (params.get "item")) with
    | none => exact .inl ⟨rfl, .inl rfl⟩
    | some found =>
      obtain ⟨itemId, type, item⟩ := found
      exact .inr ⟨itemId, type, _, _, _, followedItem_named followed, rfl, by rw [← adopts]⟩
  by_cases ended : method = "turn/completed"
  · simp only [if_neg started, if_neg completed, if_pos ended]
    exact .inl ⟨trivial, .inr ⟨_, _, rfl⟩⟩
  simp only [if_neg started, if_neg completed, if_neg ended]
  cases part : partOf method params with
  | none => exact .inl ⟨rfl, .inl rfl⟩
  | some found =>
    obtain ⟨type, updater⟩ := found
    dsimp only [Option.bind_some]
    split
    · exact .inl ⟨rfl, .inl rfl⟩
    · rename_i named
      have unchanged : adoptNotified env (text (params.get "itemId") 256) type none session =
          session := by
        unfold adoptNotified echoText
        cases type <;> rfl
      exact .inr ⟨_, type, none, updater, _, named, rfl, by rw [unchanged]⟩

variable (env) in
theorem Logged.adoptNotified (logged : Logged session) {itemId : String} {payload : Option Json}
    (named : itemId ≠ "") (allowed : ItemAllowed (some (itemId, type, payload)) session) :
    Logged (adoptNotified env itemId type payload session) ∧
      OneType itemId type (ProviderSession.adoptNotified env itemId type payload session) := by
  obtain ⟨oneType, notTwice⟩ := allowed itemId type payload rfl
  unfold ProviderSession.adoptNotified
  cases echo : echoText type payload with
  | none => exact ⟨logged, oneType⟩
  | some incomingText =>
    have user : type = .userMessage := by
      unfold echoText at echo
      split at echo
      · assumption
      · cases echo
    subst user
    exact ⟨logged.adopt named (notTwice incomingText echo), oneType.adopt logged⟩

/-- **A notification keeps the order** where its item is of one type and not adopted twice. -/
theorem Logged.ingestNotification (logged : Logged session) {method : String} {params : Json}
    (allowed : ItemAllowed (notifiedItem method params) session) :
    Logged (ingestNotification env method params session) := by
  obtain ⟨_, same | ⟨payload, details, ends⟩⟩ |
    ⟨itemId, type, payload, updater, source, named, notified, updated⟩ :=
    ingestNotification_cases env method params session
  · rw [same]
    exact logged
  · rw [ends]
    apply logged.append
    rintro id ⟨⟩
  · rw [notified] at allowed
    obtain ⟨adopted, oneType⟩ := logged.adoptNotified env named allowed
    rw [updated]
    exact adopted.updateItem oneType

theorem Logged.appendUser (logged : Logged session) {content : String} :
    Logged (appendUser env content details session) := by
  apply logged.append
  rintro id ⟨⟩

theorem Logged.appendAssistant (logged : Logged session) {content : String} :
    Logged (appendAssistant env content details session) := by
  unfold ProviderSession.appendAssistant
  dsimp only
  split
  · exact logged
  · apply logged.append
    rintro id ⟨⟩

theorem Logged.setBinding (logged : Logged session) {patch : RuntimeBinding → RuntimeBinding} :
    Logged (setBinding env patch session) := by
  apply Logged.mutate
  exact ⟨logged.ordered, logged.below, logged.positive, logged.unique, logged.named⟩

theorem Logged.ensureMigrated (logged : Logged session) {record : LocalSessionRecord} :
    Logged (ensureMigrated env record session) := by
  have migrated : ∀ messages start, Logged start →
      Logged (List.foldl (migrateMessage env) start messages) := by
    intro messages
    induction messages with
    | nil => exact fun start started => started
    | cons message messages ih =>
      intro start started
      apply ih
      unfold migrateMessage
      dsimp only
      split
      · exact started.appendUser
      · exact started.appendAssistant
  unfold ProviderSession.ensureMigrated
  split
  · exact logged
  · exact (migrated record.messages session logged).setBinding

/-! ## Hydration keeps the order -/

/-- The ids that hydration knows cover the items of the log. -/
def Covered (session : StoredSession) (existingIds : List String) : Prop :=
  ∀ event ∈ session.events, ∀ itemId, event.Carries itemId → itemId ∈ existingIds

variable {existingIds : List String}

theorem Covered.mutate (update : StoredSession → StoredSession)
    (covered : Covered (update session) existingIds) :
    Covered (mutate env update session) existingIds := by
  intro event member itemId carries
  obtain ⟨written, kept, rfl⟩ := mem_mutate_events member
  exact covered written kept itemId carries

theorem Covered.append (covered : Covered session existingIds) {itemId : Option String}
    (known : ∀ id ∈ itemId, id ∈ existingIds) :
    Covered (append env type payload details itemId session) existingIds := by
  apply Covered.mutate
  intro event member id carries
  obtain old | new := mem_append.1 member
  · exact covered event old id carries
  · rw [mem_singleton.1 new] at carries
    have given : itemId.filter (· ≠ "") = some id := carries
    exact known id (Option.filter_eq_some_iff.1 given).1

theorem Covered.adopt (covered : Covered session existingIds) (known : itemId ∈ existingIds) :
    Covered (adoptOrphanUserMessage env itemId incomingText session).2 existingIds := by
  obtain ⟨_, unchanged, adopt, rfl | rfl⟩ | ⟨before, orphan, after, split, _, _, adopt⟩ :=
    adopt_cases env itemId incomingText session
  · rw [adopt]
    exact covered
  · rw [adopt]
    exact Covered.mutate id covered
  · rw [adopt]
    apply Covered.mutate
    intro event member id carries
    obtain first | rest := mem_append.1 member
    · exact covered event (by rw [split]; exact mem_append_left _ first) id carries
    obtain rfl | last := mem_cons.1 rest
    · have same : itemId = id := by simpa [SessionEvent.Carries, SessionEvent.adopted] using carries
      exact same ▸ known
    · exact covered event (by rw [split]; simp [last]) id carries

def ThreadEntry.Named : ThreadEntry → Prop
  | item itemId _ _ _ => itemId ≠ ""
  | turnEnd turnId _ _ => turnId ≠ ""

theorem named_of_mem_threadEntries {response : ScriptValue} {entry : ThreadEntry}
    (member : entry ∈ threadEntries response) : entry.Named := by
  obtain ⟨rawTurn, _, found⟩ := List.mem_flatMap.1 member
  have items : ∀ (raws : List Json) (turnId : Option String),
      entry ∈ raws.filterMap (itemEntry turnId) → entry.Named := by
    intro raws turnId listed
    obtain ⟨raw, _, mapped⟩ := List.mem_filterMap.1 listed
    obtain ⟨⟨itemId, type, item⟩, followed, rfl⟩ := Option.map_eq_some_iff.1 mapped
    exact followedItem_named followed
  unfold turnEntries at found
  dsimp only at found
  split at found
  · split at found
    · rename_i ends
      obtain listed | last := mem_append.1 found
      · exact items _ _ listed
      · rw [mem_singleton.1 last]
        exact ends.1
    · exact items _ _ found
  · exact items _ _ found

variable (env) in
/-- **An entry of a thread is added in order.** -/
theorem Logged.hydrateEntry (logged : Logged session) (covered : Covered session existingIds)
    {entry : ThreadEntry} (named : entry.Named) (runtimeThreadId : Option String) :
    Logged (hydrateEntry env runtimeThreadId (session, existingIds) entry).1 ∧
      Covered (ProviderSession.hydrateEntry env runtimeThreadId (session, existingIds) entry).1
        (ProviderSession.hydrateEntry env runtimeThreadId (session, existingIds) entry).2 := by
  cases entry with
  | turnEnd turnId status error =>
    unfold ProviderSession.hydrateEntry
    dsimp only
    split
    · exact ⟨logged, covered⟩
    · refine ⟨logged.append ?_, covered.append ?_⟩
      · rintro id ⟨⟩
      · rintro id ⟨⟩
  | item itemId type payload turnId =>
    unfold ProviderSession.hydrateEntry
    dsimp only
    split
    · exact ⟨logged, covered⟩
    · rename_i new
      have wider : Covered session (itemId :: existingIds) :=
        fun event member id carries => mem_cons_of_mem _ (covered event member id carries)
      have unknown : Unknown itemId session :=
        fun event member carries => new (covered event member itemId carries)
      have appended : ∀ after, Logged after → Covered after (itemId :: existingIds) →
          Unknown itemId after → Logged (ProviderSession.append env type payload
            { turnId, runtimeThreadId } (some itemId) after) ∧
          Covered (ProviderSession.append env type payload
            { turnId, runtimeThreadId } (some itemId) after) (itemId :: existingIds) := by
        intro after ordered known fresh
        refine ⟨ordered.append ?_, known.append ?_⟩
        · rintro id ⟨⟩
          exact fresh
        · rintro id ⟨⟩
          exact mem_cons_self
      split
      · obtain ⟨_, unchanged, adopt, rfl | rfl⟩ | ⟨before, orphan, after, split, _, _, adopt⟩ :=
          adopt_cases env itemId (payloadText payload) session
        · rw [adopt]
          exact appended _ logged wider unknown
        · rw [adopt]
          refine appended _ (logged.mutate id) (Covered.mutate id wider) ?_
          intro event member
          obtain ⟨written, kept, rfl⟩ := mem_mutate_events member
          exact unknown written kept
        · have ordered : Logged
              (adoptOrphanUserMessage env itemId (payloadText payload) session).2 :=
            logged.adopt named (.inl unknown)
          have known : Covered (adoptOrphanUserMessage env itemId (payloadText payload) session).2
              (itemId :: existingIds) := wider.adopt mem_cons_self
          rw [adopt] at ordered known ⊢
          exact ⟨ordered, known⟩
      · exact appended _ logged wider unknown

/-- **Hydration keeps the order.** -/
theorem Logged.hydrateFromThread (logged : Logged session) {response : ScriptValue}
    {runtimeThreadId : Option String} :
    Logged (hydrateFromThread env response runtimeThreadId session) := by
  have entries : ∀ entries, (∀ entry ∈ entries, ThreadEntry.Named entry) → ∀ seen, Logged seen.1 →
      Covered seen.1 seen.2 →
      Logged (List.foldl (ProviderSession.hydrateEntry env runtimeThreadId) seen entries).1 := by
    intro entries
    induction entries with
    | nil => exact fun _ seen ordered _ => ordered
    | cons entry entries ih =>
      intro named seen ordered covered
      obtain ⟨next, known⟩ :=
        ordered.hydrateEntry env covered (named entry mem_cons_self) runtimeThreadId
      exact ih (fun other member => named other (mem_cons_of_mem _ member)) _ next known
  have covered : Covered session (itemIds session) := by
    intro event member itemId carries
    have filled : itemId ≠ "" := by
      rintro rfl
      exact logged.named event member carries
    have given : event.itemId = some itemId := carries
    refine List.mem_filterMap.2 ⟨event, member, ?_⟩
    rw [given]
    simp [Option.filter, filled]
  have hydrated := entries (threadEntries response)
    (fun entry => named_of_mem_threadEntries) (session, itemIds session) logged covered
  unfold ProviderSession.hydrateFromThread
  dsimp only
  split
  · exact hydrated.setBinding
  · exact hydrated

/-! ## Numbers are not used again -/

/-- **No number is used again**: what is in a later log was in the earlier one, or has a new number;
and the log stays within its limit. -/
structure Extends (session later : StoredSession) : Prop where
  room : session.events.length ≤ maxEvents → later.events.length ≤ maxEvents
  nextSeq : session.nextSeq ≤ later.nextSeq
  renewed : ∀ event ∈ later.events, event.sessionSeq ∈ session.events.map (·.sessionSeq) ∨
    session.nextSeq ≤ event.sessionSeq

theorem Extends.refl (session : StoredSession) : Extends session session :=
  ⟨id, le_refl _, fun _ member => .inl (mem_map_of_mem member)⟩

theorem Extends.trans {session later last : StoredSession} (first : Extends session later)
    (second : Extends later last) : Extends session last := by
  refine ⟨second.room ∘ first.room, first.nextSeq.trans second.nextSeq, ?_⟩
  intro event member
  obtain known | new := second.renewed event member
  · obtain ⟨old, stored, same⟩ := mem_map.1 known
    have before := first.renewed old stored
    rwa [same] at before
  · exact .inr (first.nextSeq.trans new)

variable (env) in
theorem le_mutate_nextSeq (update : StoredSession → StoredSession) (session : StoredSession) :
    (update session).nextSeq ≤ (mutate env update session).nextSeq := by
  simp only [mutate, normalizeSession]
  split <;> omega

theorem extends_mutate (update : StoredSession → StoredSession)
    (next : session.nextSeq ≤ (update session).nextSeq) (renewed : ∀ event ∈ (update session).events,
      event.sessionSeq ∈ session.events.map (·.sessionSeq) ∨ session.nextSeq ≤ event.sessionSeq) :
    Extends session (mutate env update session) := by
  refine ⟨fun _ => room_mutate update session,
    next.trans (le_mutate_nextSeq env update session), ?_⟩
  intro event member
  obtain ⟨raw, kept, rfl⟩ := mem_mutate_events member
  exact renewed raw kept

theorem extends_append {itemId : Option String} :
    Extends session (append env type payload details itemId session) := by
  apply extends_mutate
  · exact Nat.le_succ _
  · intro event member
    obtain old | new := mem_append.1 member
    · exact .inl (mem_map_of_mem old)
    · rw [mem_singleton.1 new]
      exact .inr (le_refl _)

theorem extends_updateItem {itemId : String} {updater : Json → Json} {source : RuntimeMeta} :
    Extends session (updateItem env itemId type updater source session) := by
  have updated : Extends session
      (mutate env (updateEvents env itemId type updater source) session) := by
    apply extends_mutate
    · exact le_refl _
    · intro event member
      obtain ⟨old, stored, rfl⟩ := mem_map.1 member
      rw [(inPlace_update env itemId type updater source).sessionSeq]
      exact .inl (mem_map_of_mem stored)
  unfold updateItem
  dsimp only
  split
  · exact updated
  · exact updated.trans extends_append

theorem extends_adopt :
    Extends session (adoptOrphanUserMessage env itemId incomingText session).2 := by
  obtain ⟨_, unchanged, adopt, rfl | rfl⟩ | ⟨before, orphan, after, split, _, _, adopt⟩ :=
    adopt_cases env itemId incomingText session
  · rw [adopt]
    exact .refl _
  · rw [adopt]
    exact extends_mutate id (le_refl _) fun _ member => .inl (mem_map_of_mem member)
  · rw [adopt]
    have seqs : (before ++ orphan.adopted itemId :: after).map (·.sessionSeq) =
        session.events.map (·.sessionSeq) := by
      rw [split]
      simp [SessionEvent.adopted]
    apply extends_mutate
    · exact le_refl _
    · intro event member
      rw [← seqs]
      exact .inl (mem_map_of_mem member)

theorem extends_setBinding {patch : RuntimeBinding → RuntimeBinding} :
    Extends session (setBinding env patch session) :=
  extends_mutate _ (le_refl _) fun _ member => .inl (mem_map_of_mem member)

theorem extends_appendAssistant {content : String} :
    Extends session (appendAssistant env content details session) := by
  unfold appendAssistant
  dsimp only
  split
  · exact .refl _
  · exact extends_append

theorem extends_ensureMigrated {record : LocalSessionRecord} :
    Extends session (ensureMigrated env record session) := by
  have migrated : ∀ messages start,
      Extends start (List.foldl (migrateMessage env) start messages) := by
    intro messages
    induction messages with
    | nil => exact fun start => .refl _
    | cons message messages ih =>
      intro start
      refine Extends.trans ?_ (ih _)
      unfold migrateMessage
      dsimp only
      split
      · exact extends_append
      · exact extends_appendAssistant
  unfold ensureMigrated
  split
  · exact .refl _
  · exact (migrated record.messages session).trans extends_setBinding

theorem extends_ingestNotification {method : String} {params : Json} :
    Extends session (ingestNotification env method params session) := by
  obtain ⟨_, same | ⟨payload, details, ends⟩⟩ |
    ⟨itemId, type, payload, updater, source, _, _, updated⟩ :=
    ingestNotification_cases env method params session
  · rw [same]
    exact .refl _
  · rw [ends]
    exact extends_append
  · rw [updated]
    refine Extends.trans ?_ extends_updateItem
    unfold adoptNotified
    split
    · exact extends_adopt
    · exact .refl _

theorem extends_hydrateFromThread {response : ScriptValue} {runtimeThreadId : Option String} :
    Extends session (hydrateFromThread env response runtimeThreadId session) := by
  have entry : ∀ seen entry,
      Extends (Prod.fst seen) (hydrateEntry env runtimeThreadId seen entry).1 := by
    intro seen entry
    unfold hydrateEntry
    cases entry with
    | turnEnd turnId status error =>
      dsimp only
      split
      · exact .refl _
      · exact extends_append
    | item itemId type payload turnId =>
      dsimp only
      split
      · exact .refl _
      · split
        · dsimp only
          split
          · exact extends_adopt
          · exact extends_adopt.trans extends_append
        · exact extends_append
  have entries : ∀ entries seen, Extends (Prod.fst seen)
      (List.foldl (hydrateEntry env runtimeThreadId) seen entries).1 := by
    intro entries
    induction entries with
    | nil => exact fun seen => .refl _
    | cons first rest ih => exact fun seen => (entry seen first).trans (ih _)
  have hydrated := entries (threadEntries response) (session, itemIds session)
  unfold hydrateFromThread
  dsimp only
  split
  · exact hydrated.trans extends_setBinding
  · exact hydrated

end Zero3Pilot.ProviderSession
