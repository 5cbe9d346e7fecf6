import Zero3Pilot.ProviderSession.Echoes

/-! # Hydration of a thread

After a thread has been read, each of its items and each end of a turn has an event. What hydration
appends may push older events out; as long as it pushes out nothing of the thread itself, hydrating the
thread again finds everything it looks for. -/

namespace Zero3Pilot.ProviderSession

open List (any_eq_true mem_append mem_cons mem_cons_of_mem mem_cons_self mem_filterMap
  mem_singleton)

variable {env : StoreSurroundings}

/-! ## What a thread asks for -/

inductive EntryKey where
  | item (itemId : String)
  | turn (turnId : String)
  deriving DecidableEq

def ThreadEntry.key : ThreadEntry → EntryKey
  | item itemId _ _ _ => .item itemId
  | turnEnd turnId _ _ => .turn turnId

def ThreadEntry.payload : ThreadEntry → Json
  | item _ _ payload _ => payload
  | turnEnd _ status error => .object [("status", status), ("error", error)]

def ThreadEntry.echo : ThreadEntry → Option String
  | item _ type payload _ => if type = .userMessage then some (payloadText payload) else none
  | turnEnd _ _ _ => none

def SessionEvent.hasKey (event : SessionEvent) : EntryKey → Bool
  | .item itemId => event.itemId = some itemId
  | .turn turnId => event.type = .turnState && event.turnId = some turnId

def HasKey (events : List SessionEvent) (key : EntryKey) : Bool := events.any (·.hasKey key)

def KeepsKey (more : Nat) (events : List SessionEvent) (key : EntryKey) : Bool :=
  HasKey (events.drop (events.length + more - maxEvents)) key

/-- An event holds the completed payload of an item. -/
def ThreadEntry.HeldBy (env : StoreSurroundings) (entry : ThreadEntry) (event : SessionEvent) : Prop :=
  match entry with
  | item _ _ payload _ =>
    event.payload = boundedPayload env payload ∨ event.payload.spread payload = event.payload
  | turnEnd _ _ _ => True

instance (entry : ThreadEntry) (event : SessionEvent) : Decidable (entry.HeldBy env event) :=
  match entry with
  | .item _ _ _ _ => inferInstanceAs (Decidable (_ ∨ _))
  | .turnEnd _ _ _ => inferInstanceAs (Decidable True)

def ThreadEntry.Agrees : ThreadEntry → ThreadEntry → Prop
  | item itemId _ payload _, item other _ again _ => itemId = other → payload = again
  | _, _ => True

instance (entry other : ThreadEntry) : Decidable (entry.Agrees other) :=
  match entry, other with
  | .item _ _ _ _, .item _ _ _ _ => inferInstanceAs (Decidable (_ → _))
  | .item _ _ _ _, .turnEnd _ _ _ => inferInstanceAs (Decidable True)
  | .turnEnd _ _ _, _ => inferInstanceAs (Decidable True)

def missing (events : List SessionEvent) (entries : List ThreadEntry) : List ThreadEntry :=
  entries.filter fun entry => !HasKey events entry.key

/-- **A thread that is hydrated without loss**, of which nothing is cut or pushed out. -/
structure HydrationAllowed (env : StoreSurroundings) (entries : List ThreadEntry)
    (session : StoredSession) : Prop where
  settled : ∀ event ∈ session.events, boundedPayload env event.payload = event.payload
  settles : ∀ entry ∈ entries,
    boundedPayload env (boundedPayload env entry.payload) = boundedPayload env entry.payload
  complete : ∀ entry ∈ entries, ∀ event ∈ session.events, event.hasKey entry.key = true →
    entry.HeldBy env event
  agree : ∀ entry ∈ entries, ∀ other ∈ entries, entry.Agrees other
  unwaited : ∀ entry ∈ entries, HasKey session.events entry.key = false →
    ∀ incomingText ∈ entry.echo, NoOrphan incomingText session
  fits : (missing session.events entries).length ≤ maxEvents
  keeps : ∀ entry ∈ entries, HasKey session.events entry.key = true →
    KeepsKey (missing session.events entries).length session.events entry.key = true

instance (entries : List ThreadEntry) (session : StoredSession) :
    Decidable (HydrationAllowed env entries session) :=
  decidable_of_iff ((∀ event ∈ session.events, boundedPayload env event.payload = event.payload) ∧
      (∀ entry ∈ entries, boundedPayload env (boundedPayload env entry.payload) =
        boundedPayload env entry.payload) ∧
      (∀ entry ∈ entries, ∀ event ∈ session.events, event.hasKey entry.key = true →
        entry.HeldBy env event) ∧
      (∀ entry ∈ entries, ∀ other ∈ entries, entry.Agrees other) ∧
      (∀ entry ∈ entries, HasKey session.events entry.key = false →
        ∀ incomingText ∈ entry.echo.toList, NoOrphan incomingText session) ∧
      (missing session.events entries).length ≤ maxEvents ∧
      ∀ entry ∈ entries, HasKey session.events entry.key = true →
        KeepsKey (missing session.events entries).length session.events entry.key = true)
    (by
      constructor
      · rintro ⟨settled, settles, complete, agree, unwaited, fits, keeps⟩
        exact ⟨settled, settles, complete, agree, by simpa using unwaited, fits, keeps⟩
      · rintro ⟨settled, settles, complete, agree, unwaited, fits, keeps⟩
        exact ⟨settled, settles, complete, agree, by simpa using unwaited, fits, keeps⟩)

/-! ## Appending to a settled log -/

def Settled (env : StoreSurroundings) (events : List SessionEvent) : Prop :=
  ∀ event ∈ events, boundedPayload env event.payload = event.payload

variable {events : List SessionEvent}

theorem shown_of_settled (settled : Settled env events) :
    shown env events = newest maxEvents events := by
  have same : (newest maxEvents events).map (normalizeEvent env) = (newest maxEvents events).map id := by
    apply List.map_congr_left
    intro event member
    rw [normalizeEvent, settled event (mem_of_mem_newest member), id]
  rw [shown, same, List.map_id]

variable {session : StoredSession}

theorem append_of_settled (settled : Settled env session.events) (type : SessionEventType)
    {payload : Json}
    (settles : boundedPayload env (boundedPayload env payload) = boundedPayload env payload)
    (details : EventMeta) (itemId : Option String) :
    (append env type payload details itemId session).events = newest maxEvents
          (session.events ++ [appendedEvent env type payload details itemId session]) ∧
      Settled env (append env type payload details itemId session).events := by
  have added : Settled env
      (session.events ++ [appendedEvent env type payload details itemId session]) := by
    intro event member
    obtain old | new := mem_append.1 member
    · exact settled event old
    · rw [mem_singleton.1 new]
      exact settles
  have read : (append env type payload details itemId session).events = newest maxEvents
        (session.events ++ [appendedEvent env type payload details itemId session]) := by
    rw [append, mutate_events]
    exact shown_of_settled added
  refine ⟨read, ?_⟩
  rw [read]
  exact fun event member => added event (mem_of_mem_newest member)

theorem adopt_of_noOrphan (settled : Settled env session.events)
    (room : session.events.length ≤ maxEvents) {itemId incomingText : String}
    (noOrphan : NoOrphan incomingText session) :
    ∃ after, adoptOrphanUserMessage env itemId incomingText session = (false, after) ∧
      after.events = session.events := by
  obtain ⟨_, unchanged, adopt, rfl | rfl⟩ | ⟨before, orphan, after, split, isOrphan, said, adopt⟩ :=
    adopt_cases env itemId incomingText session
  · exact ⟨_, adopt, rfl⟩
  · refine ⟨_, adopt, ?_⟩
    rw [mutate_events, id, shown_of_settled settled, newest_eq_self room]
  · obtain blank | none := noOrphan
    · exact absurd blank said
    · have waits := none orphan (by rw [split]; simp)
      rw [isOrphan] at waits
      cases waits

/-! ## What is kept -/

variable {key : EntryKey}

theorem hasKey_of_keepsKey {more : Nat} (keeps : KeepsKey more events key = true) :
    HasKey events key = true := by
  obtain ⟨event, kept, has⟩ := any_eq_true.1 keeps
  exact any_eq_true.2 ⟨event, List.mem_of_mem_drop kept, has⟩

theorem keepsKey_fewer {more less : Nat} (keeps : KeepsKey more events key = true) (fewer : less ≤ more) :
    KeepsKey less events key = true := by
  obtain ⟨event, kept, has⟩ := any_eq_true.1 keeps
  have outlasts : Kept maxEvents more events event := kept
  exact any_eq_true.2 ⟨event, outlasts.fewer fewer, has⟩

theorem keepsKey_push {more : Nat} (added : SessionEvent) (keeps : KeepsKey (more + 1) events key = true) :
    KeepsKey more (newest maxEvents (events ++ [added])) key = true := by
  obtain ⟨event, kept, has⟩ := any_eq_true.1 keeps
  exact any_eq_true.2 ⟨event, kept_push added kept, has⟩

theorem keepsKey_added {more : Nat} (events : List SessionEvent) (added : SessionEvent)
    (has : added.hasKey key = true) (room : more < maxEvents) :
    KeepsKey more (newest maxEvents (events ++ [added])) key = true :=
  any_eq_true.2 ⟨added, kept_added events added room, has⟩

/-! ## Between two entries -/

variable {entries : List ThreadEntry} {start : StoredSession}

/-- **What holds between two entries** of a thread: what has been found or added outlasts the rest. -/
structure Hydrating (env : StoreSurroundings) (entries : List ThreadEntry) (start : StoredSession)
    (done rest : List ThreadEntry) (session : StoredSession) (existingIds : List String) : Prop where
  room : session.events.length ≤ maxEvents
  settled : Settled env session.events
  ids : ∀ itemId, itemId ∈ existingIds ↔
    HasKey start.events (.item itemId) = true ∨ ∃ entry ∈ done, entry.key = .item itemId
  known : ∀ key, HasKey session.events key = true →
    HasKey start.events key = true ∨ ∃ entry ∈ done, entry.key = key
  keeps : ∀ entry ∈ entries, (HasKey start.events entry.key = true ∨
    ∃ other ∈ done, other.key = entry.key) →
      KeepsKey (missing start.events rest).length session.events entry.key = true
  waiting : ∀ event ∈ session.events, event.itemId = none → event.type = .userMessage →
    event ∈ start.events
  named : ∀ event ∈ session.events, ¬ event.Carries ""
  held : ∀ entry ∈ entries, ∀ event ∈ session.events, event.hasKey entry.key = true →
    entry.HeldBy env event

theorem Hydrating.first (allowed : HydrationAllowed env entries start)
    (logged : Logged start) (room : start.events.length ≤ maxEvents) :
    Hydrating env entries start [] entries start (itemIds start) := by
  constructor
  · exact room
  · exact allowed.settled
  · intro itemId
    constructor
    · intro member
      obtain ⟨event, stored, given⟩ := mem_filterMap.1 member
      have carries := (Option.filter_eq_some_iff.1 given).1
      exact .inl (any_eq_true.2 ⟨event, stored, by simp [SessionEvent.hasKey, carries]⟩)
    · rintro (has | ⟨entry, none, _⟩)
      · obtain ⟨event, stored, has⟩ := any_eq_true.1 has
        have carries : event.itemId = some itemId := by simpa [SessionEvent.hasKey] using has
        have filled : itemId ≠ "" := by
          rintro rfl
          exact logged.named event stored carries
        exact mem_filterMap.2 ⟨event, stored, by simp [carries, Option.filter, filled]⟩
      · cases none
  · exact fun key has => .inl has
  · rintro entry member (has | ⟨other, none, _⟩)
    · exact allowed.keeps entry member has
    · cases none
  · exact fun event member _ _ => member
  · exact logged.named
  · exact allowed.complete

variable {done rest : List ThreadEntry} {existingIds : List String} {entry : ThreadEntry}

/-- **An entry that is there** is passed over. -/
theorem Hydrating.skip (hydrating : Hydrating env entries start done (entry :: rest) session existingIds)
    (there : HasKey start.events entry.key = true ∨ ∃ other ∈ done, other.key = entry.key) :
    Hydrating env entries start (entry :: done) rest session existingIds := by
  have seen : ∀ key, (∃ other ∈ entry :: done, other.key = key) →
      HasKey start.events key = true ∨ ∃ other ∈ done, other.key = key := by
    rintro key ⟨other, member, rfl⟩
    obtain rfl | earlier := mem_cons.1 member
    · exact there
    · exact .inr ⟨other, earlier, rfl⟩
  constructor
  · exact hydrating.room
  · exact hydrating.settled
  · intro itemId
    rw [hydrating.ids]
    constructor
    · rintro (has | ⟨other, member, same⟩)
      · exact .inl has
      · exact .inr ⟨other, mem_cons_of_mem _ member, same⟩
    · rintro (has | found)
      · exact .inl has
      · exact seen _ found
  · intro key has
    obtain before | ⟨other, member, same⟩ := hydrating.known key has
    · exact .inl before
    · exact .inr ⟨other, mem_cons_of_mem _ member, same⟩
  · intro other member found
    have earlier : HasKey start.events other.key = true ∨ ∃ third ∈ done, third.key = other.key := by
      obtain has | found := found
      · exact .inl has
      · exact seen _ found
    apply keepsKey_fewer (hydrating.keeps other member earlier)
    rw [missing, missing, List.filter_cons]
    split
    · exact Nat.le_succ _
    · exact le_refl _
  · exact hydrating.waiting
  · exact hydrating.named
  · exact hydrating.held

/-- **An entry that is missing** is appended. -/
theorem Hydrating.add {session after : StoredSession} {existingIds ids : List String}
    (added : SessionEvent)
    (hydrating : Hydrating env entries start done (entry :: rest) session existingIds)
    (allowed : HydrationAllowed env entries start) (asked : entry ∈ entries)
    (few : (missing start.events (entry :: rest)).length ≤ maxEvents)
    (absent : HasKey start.events entry.key = false)
    (written : after.events = newest maxEvents (session.events ++ [added]))
    (settled : Settled env after.events) (has : ∀ key, added.hasKey key = true ↔ key = entry.key)
    (payload : added.payload = boundedPayload env entry.payload)
    (claimed : added.itemId = none → added.type ≠ .userMessage) (named : ¬ added.Carries "")
    (grown : ∀ itemId, itemId ∈ ids ↔ itemId ∈ existingIds ∨ entry.key = .item itemId) :
    Hydrating env entries start (entry :: done) rest after ids := by
  have count : (missing start.events (entry :: rest)).length =
      (missing start.events rest).length + 1 := by
    rw [missing, List.filter_cons, if_pos (by simp [absent])]
    rfl
  have members : ∀ event ∈ after.events, event ∈ session.events ∨ event = added := by
    intro event member
    rw [written] at member
    obtain old | new := mem_append.1 (mem_of_mem_newest member)
    · exact .inl old
    · exact .inr (mem_singleton.1 new)
  constructor
  · rw [written]
    exact length_newest_le _ _
  · exact settled
  · intro itemId
    rw [grown, hydrating.ids]
    constructor
    · rintro ((before | ⟨other, member, same⟩) | same)
      · exact .inl before
      · exact .inr ⟨other, mem_cons_of_mem _ member, same⟩
      · exact .inr ⟨entry, mem_cons_self, same⟩
    · rintro (before | ⟨other, member, same⟩)
      · exact .inl (.inl before)
      · obtain rfl | earlier := mem_cons.1 member
        · exact .inr same
        · exact .inl (.inr ⟨other, earlier, same⟩)
  · intro key found
    obtain ⟨event, member, hasKey⟩ := any_eq_true.1 found
    obtain old | rfl := members event member
    · obtain before | ⟨other, earlier, same⟩ :=
        hydrating.known key (any_eq_true.2 ⟨event, old, hasKey⟩)
      · exact .inl before
      · exact .inr ⟨other, mem_cons_of_mem _ earlier, same⟩
    · exact .inr ⟨entry, mem_cons_self, ((has key).1 hasKey).symm⟩
  · intro other member found
    rw [written]
    by_cases same : other.key = entry.key
    · apply keepsKey_added _ _ ((has _).2 same)
      omega
    · apply keepsKey_push
      rw [← count]
      apply hydrating.keeps other member
      obtain before | ⟨third, earlier, key⟩ := found
      · exact .inl before
      · obtain rfl | earlier := mem_cons.1 earlier
        · exact absurd key.symm same
        · exact .inr ⟨third, earlier, key⟩
  · intro event member noItem user
    obtain old | rfl := members event member
    · exact hydrating.waiting event old noItem user
    · exact absurd user (claimed noItem)
  · intro event member
    obtain old | rfl := members event member
    · exact hydrating.named event old
    · exact named
  · intro other member event stored hasKey
    obtain old | rfl := members event stored
    · exact hydrating.held other member event old hasKey
    · have same : other.key = entry.key := (has _).1 hasKey
      have agrees := allowed.agree entry asked other member
      cases entry with
      | turnEnd turnId status error =>
        cases other with
        | turnEnd _ _ _ => trivial
        | item _ _ _ _ => cases same
      | item itemId type content turnId =>
        cases other with
        | turnEnd _ _ _ => trivial
        | item otherId otherType otherContent otherTurn =>
          cases same
          have equal : content = otherContent := agrees rfl
          rw [← equal]
          exact .inl payload

/-! ## A whole thread -/

def ThreadEntry.OfItem : ThreadEntry → Prop
  | item _ type _ _ => type ≠ .turnState
  | turnEnd _ _ _ => True

theorem ofItem_of_mem_threadEntries {response : ScriptValue} (member : entry ∈ threadEntries response) :
    entry.OfItem := by
  cases entry with
  | turnEnd _ _ _ => trivial
  | item itemId type payload turnId =>
    obtain ⟨rawTurn, _, found⟩ := List.mem_flatMap.1 member
    have items : ∀ (raws : List Json) (id : Option String),
        ThreadEntry.item itemId type payload turnId ∈ raws.filterMap (itemEntry id) →
        type ≠ .turnState := by
      intro raws id listed
      obtain ⟨raw, _, mapped⟩ := mem_filterMap.1 listed
      obtain ⟨⟨_, _, _⟩, followed, made⟩ := Option.map_eq_some_iff.1 mapped
      cases made
      unfold followedItem at followed
      split at followed
      · rename_i typed
        split at followed
        · cases followed
        · cases followed
          unfold itemEventType at typed
          rintro rfl
          split at typed <;> cases typed
      · cases followed
    unfold turnEntries at found
    dsimp only at found
    split at found
    · split at found
      · obtain listed | last := mem_append.1 found
        · exact items _ _ listed
        · cases mem_singleton.1 last
      · exact items _ _ found
    · exact items _ _ found

theorem Hydrating.noOrphan (hydrating : Hydrating env entries start done rest session existingIds)
    {incomingText : String} (noOrphan : NoOrphan incomingText start) : NoOrphan incomingText session := by
  obtain blank | none := noOrphan
  · exact .inl blank
  · refine .inr fun event member => ?_
    by_contra waits
    have orphan : event.isOrphan (scriptTrim incomingText) = true := by simpa using waits
    obtain ⟨noItem, user, _⟩ := (isOrphan_iff (hydrating.named event member)).1 orphan
    rw [none event (hydrating.waiting event member noItem user)] at orphan
    cases orphan

theorem hasKey_item {itemId : String} {type : SessionEventType} {payload : Json}
    {turnId runtimeThreadId : Option String} (named : itemId ≠ "") (ofItem : type ≠ .turnState)
    (key : EntryKey) :
    (appendedEvent env type payload ⟨none, none, turnId, runtimeThreadId, none⟩ (some itemId)
      session).hasKey key = true ↔ key = .item itemId := by
  have item : (appendedEvent env type payload ⟨none, none, turnId, runtimeThreadId, none⟩
      (some itemId) session).itemId = some itemId := by
    simp [appendedEvent, Option.filter, named]
  cases key with
  | item id =>
    rw [SessionEvent.hasKey, item]
    simp [eq_comm]
  | turn id => simp [SessionEvent.hasKey, appendedEvent, ofItem]

theorem hasKey_turn {turnId : String} {payload : Json} {runtimeThreadId : Option String}
    (named : turnId ≠ "") (key : EntryKey) :
    (appendedEvent env .turnState payload ⟨none, none, some turnId, runtimeThreadId, none⟩ none
      session).hasKey key = true ↔ key = .turn turnId := by
  have turn : (appendedEvent env .turnState payload ⟨none, none, some turnId, runtimeThreadId, none⟩
      none session).turnId = some turnId := by
    simp [appendedEvent, Option.filter, named]
  cases key with
  | item id => simp [SessionEvent.hasKey, appendedEvent]
  | turn id =>
    rw [SessionEvent.hasKey, turn]
    simp [appendedEvent, eq_comm]

/-- **One entry.** -/
theorem Hydrating.step (runtimeThreadId : Option String)
    (hydrating : Hydrating env entries start done (entry :: rest) session existingIds)
    (allowed : HydrationAllowed env entries start) (asked : entry ∈ entries) (named : entry.Named)
    (ofItem : entry.OfItem) (few : (missing start.events (entry :: rest)).length ≤ maxEvents) :
    Hydrating env entries start (entry :: done) rest
      (hydrateEntry env runtimeThreadId (session, existingIds) entry).1
      (hydrateEntry env runtimeThreadId (session, existingIds) entry).2 := by
  cases entry with
  | turnEnd turnId status error =>
    unfold hydrateEntry
    dsimp only
    split
    · rename_i there
      exact hydrating.skip (hydrating.known _ there)
    · rename_i absent
      have missed : HasKey start.events (.turn turnId) = false := by
        by_contra has
        exact absent (hasKey_of_keepsKey
          (hydrating.keeps _ asked (.inl (by simpa [ThreadEntry.key] using has))))
      obtain ⟨written, settled⟩ := append_of_settled hydrating.settled .turnState
        (allowed.settles _ asked) ⟨none, none, some turnId, runtimeThreadId, none⟩ none
      refine hydrating.add _ allowed asked few missed written settled ?_ rfl ?_ ?_ ?_
      · exact hasKey_turn named
      · rintro _ ⟨⟩
      · rintro ⟨⟩
      · intro itemId
        simp [ThreadEntry.key]
  | item itemId type payload turnId =>
    unfold hydrateEntry
    dsimp only
    split
    · rename_i there
      exact hydrating.skip ((hydrating.ids itemId).1 there)
    · rename_i absent
      have missed : HasKey start.events (.item itemId) = false := by
        by_contra has
        exact absent ((hydrating.ids itemId).2 (.inl (by simpa using has)))
      have added : ∀ after : StoredSession, after.events = session.events →
          Hydrating env entries start (.item itemId type payload turnId :: done) rest
            (append env type payload ⟨none, none, turnId, runtimeThreadId, none⟩ (some itemId) after)
            (itemId :: existingIds) := by
        intro after same
        have filled : itemId ≠ "" := named
        have stable : Settled env after.events := by
          rw [same]
          exact hydrating.settled
        obtain ⟨written, settled⟩ := append_of_settled stable type
          (allowed.settles _ asked) ⟨none, none, turnId, runtimeThreadId, none⟩ (some itemId)
        rw [same] at written
        refine hydrating.add _ allowed asked few missed written settled ?_ rfl ?_ ?_ ?_
        · exact hasKey_item named ofItem
        · intro noItem
          simp [appendedEvent, Option.filter, filled] at noItem
        · intro carries
          simp [SessionEvent.Carries, appendedEvent, Option.filter] at carries
        · intro id
          simp [ThreadEntry.key, or_comm, eq_comm]
      split
      · rename_i user
        have noOrphan : NoOrphan (payloadText payload) session :=
          hydrating.noOrphan (allowed.unwaited _ asked missed _ (by simp [ThreadEntry.echo, user]))
        obtain ⟨after, adopt, same⟩ := adopt_of_noOrphan hydrating.settled hydrating.room noOrphan
        rw [adopt]
        exact added after same
      · exact added session rfl

/-- **All entries.** -/
theorem Hydrating.run (runtimeThreadId : Option String)
    (allowed : HydrationAllowed env entries start) (named : ∀ entry ∈ entries, entry.Named)
    (ofItem : ∀ entry ∈ entries, entry.OfItem) (rest : List ThreadEntry) :
    ∀ (done : List ThreadEntry) (seen : StoredSession × List String),
      (∀ entry ∈ rest, entry ∈ entries) → (missing start.events rest).length ≤ maxEvents →
      Hydrating env entries start done rest seen.1 seen.2 →
      ∃ all, (∀ entry, entry ∈ done ∨ entry ∈ rest → entry ∈ all) ∧
        Hydrating env entries start all [] (rest.foldl (hydrateEntry env runtimeThreadId) seen).1
          (rest.foldl (hydrateEntry env runtimeThreadId) seen).2 := by
  induction rest with
  | nil => exact fun done seen _ _ hydrating => ⟨done, by simp, hydrating⟩
  | cons entry rest ih =>
    intro done seen asked few hydrating
    have here := asked entry mem_cons_self
    have next := hydrating.step runtimeThreadId allowed here (named entry here) (ofItem entry here) few
    have fewer : (missing start.events rest).length ≤ maxEvents := by
      apply le_trans _ few
      exact (List.Sublist.filter _ (List.sublist_cons_self entry rest)).length_le
    obtain ⟨all, found, hydrated⟩ := ih (entry :: done) _
      (fun other member => asked other (mem_cons_of_mem _ member)) fewer next
    refine ⟨all, ?_, hydrated⟩
    rintro other (before | member)
    · exact found other (.inl (mem_cons_of_mem _ before))
    obtain rfl | later := mem_cons.1 member
    · exact found other (.inl mem_cons_self)
    · exact found other (.inr later)

theorem events_setBinding (settled : Settled env session.events)
    (room : session.events.length ≤ maxEvents) (patch : RuntimeBinding → RuntimeBinding) :
    (setBinding env patch session).events = session.events := by
  rw [setBinding, mutate_events, shown_of_settled settled, newest_eq_self room]

theorem foldl_hydrateEntry_of_there (runtimeThreadId : Option String) (entries : List ThreadEntry)
    (items : ∀ itemId type payload turnId, .item itemId type payload turnId ∈ entries →
      itemId ∈ existingIds) (turns : ∀ turnId status error, .turnEnd turnId status error ∈ entries →
      hasTurn turnId session = true) :
    entries.foldl (hydrateEntry env runtimeThreadId) (session, existingIds) =
      (session, existingIds) := by
  induction entries with
  | nil => rfl
  | cons entry entries ih =>
    have same : hydrateEntry env runtimeThreadId (session, existingIds) entry =
        (session, existingIds) := by
      cases entry with
      | item itemId type payload turnId =>
        exact if_pos (items itemId type payload turnId mem_cons_self)
      | turnEnd turnId status error =>
        unfold hydrateEntry
        dsimp only
        rw [if_pos (turns turnId status error mem_cons_self)]
    rw [List.foldl_cons, same]
    exact ih (fun itemId type payload turnId member =>
        items itemId type payload turnId (mem_cons_of_mem _ member))
      (fun turnId status error member => turns turnId status error (mem_cons_of_mem _ member))

theorem hydrate_events (response : ScriptValue) (runtimeThreadId : Option String)
    (session : StoredSession)
    (settled : Settled env ((threadEntries response).foldl (hydrateEntry env runtimeThreadId)
      (session, itemIds session)).1.events)
    (room : ((threadEntries response).foldl (hydrateEntry env runtimeThreadId)
      (session, itemIds session)).1.events.length ≤ maxEvents) :
    (hydrateFromThread env response runtimeThreadId session).events =
      ((threadEntries response).foldl (hydrateEntry env runtimeThreadId)
        (session, itemIds session)).1.events := by
  unfold hydrateFromThread
  dsimp only
  split
  · exact events_setBinding settled room _
  · rfl

/-- **A hydrated thread** holds the completed payloads, and hydrating it again changes no event. -/
theorem hydrated_holds (logged : Logged session) (room : session.events.length ≤ maxEvents)
    (response : ScriptValue) (runtimeThreadId : Option String)
    (allowed : HydrationAllowed env (threadEntries response) session) :
    (∀ entry ∈ threadEntries response,
      ∀ event ∈ (hydrateFromThread env response runtimeThreadId session).events,
        event.hasKey entry.key = true → entry.HeldBy env event) ∧
    (hydrateFromThread env response runtimeThreadId
        (hydrateFromThread env response runtimeThreadId session)).events =
      (hydrateFromThread env response runtimeThreadId session).events := by
  obtain ⟨all, found, hydrated⟩ := Hydrating.run runtimeThreadId allowed
    (fun entry => named_of_mem_threadEntries)
    (fun entry => ofItem_of_mem_threadEntries) (threadEntries response) []
    (session, itemIds session) (fun entry member => member) allowed.fits
    (Hydrating.first allowed logged room)
  have after := hydrate_events response runtimeThreadId session hydrated.settled hydrated.room
  have there : ∀ entry ∈ threadEntries response,
      HasKey (hydrateFromThread env response runtimeThreadId session).events entry.key = true := by
    intro entry member
    rw [after]
    exact hasKey_of_keepsKey (hydrated.keeps entry member (.inr ⟨entry, found entry (.inr member), rfl⟩))
  constructor
  · rw [after]
    exact hydrated.held
  · -- everything is found, so that only the binding is set
    have again : (threadEntries response).foldl (hydrateEntry env runtimeThreadId)
        (hydrateFromThread env response runtimeThreadId session,
          itemIds (hydrateFromThread env response runtimeThreadId session)) =
        (hydrateFromThread env response runtimeThreadId session,
          itemIds (hydrateFromThread env response runtimeThreadId session)) := by
      apply foldl_hydrateEntry_of_there
      · intro itemId type payload turnId member
        obtain ⟨event, stored, has⟩ := any_eq_true.1 (there _ member)
        have item : event.itemId = some itemId := by
          simpa [SessionEvent.hasKey, ThreadEntry.key] using has
        have filled : itemId ≠ "" := named_of_mem_threadEntries member
        exact mem_filterMap.2 ⟨event, stored, by simp [item, Option.filter, filled]⟩
      · intro turnId status error member
        exact there _ member
    have settled : Settled env (hydrateFromThread env response runtimeThreadId session).events := by
      rw [after]
      exact hydrated.settled
    have kept : (hydrateFromThread env response runtimeThreadId session).events.length ≤
        maxEvents := by
      rw [after]
      exact hydrated.room
    rw [hydrate_events, again]
    · rw [again]
      exact settled
    · rw [again]
      exact kept

end Zero3Pilot.ProviderSession
