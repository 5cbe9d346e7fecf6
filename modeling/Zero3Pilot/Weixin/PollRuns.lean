import Zero3Pilot.Weixin.Polling

/-! # Polling over whole runs

The cursor in memory runs ahead of the cursor on disk, and that one of the messages that have been
handled; between two rounds the three are equal. So a process that starts from the file handles no
message again, and one that goes on running leaves none out, unless the file cannot be written while
there are messages at hand. -/

namespace Zero3Pilot.Weixin

open Program Polling

section Rules

variable {answers : PollWorld → (call : PollCall) → Except String (PollReply call) → PollWorld → Prop}
  {α β : Type} {world : PollWorld}

/-- **A call, and what comes after it.** -/
theorem ensures_ask {call : PollCall} {context : String} {next : PollReply call → Polling α}
    {post : Outcome String α → PollWorld → Prop} (before : post .crashed world)
    (after : ∀ reply world', answers world call reply world' → post .crashed world')
    (answered : ∀ reply world', answers world call (.ok reply) world' →
      (next reply).Ensures answers post world')
    (failed : ∀ message world', answers world call (.error message) world' →
      post (.thrown (context ++ ": " ++ message)) world') :
    (ask call context >>= next).Ensures answers post world := by
  refine .await before after fun reply world' answer => ?_
  cases reply with
  | ok value => exact answered value world' answer
  | error message => exact .thrown (failed message world' answer)

theorem ensures_last {call : PollCall} {context : String}
    {post : Outcome String (PollReply call) → PollWorld → Prop} (before : post .crashed world)
    (after : ∀ reply world', answers world call reply world' → post .crashed world')
    (answered : ∀ reply world', answers world call (.ok reply) world' → post (.returned reply) world')
    (failed : ∀ message world', answers world call (.error message) world' →
      post (.thrown (context ++ ": " ++ message)) world') :
    (ask call context).Ensures answers post world := by
  refine .await before after fun reply world' answer => ?_
  cases reply with
  | ok value => exact .returned (answered value world' answer)
  | error message => exact .thrown (failed message world' answer)

end Rules

/-! ## How far the bridge is -/

section Bridge

variable {server : WeixinServer} {windows : Bool} {token : String} {world : PollWorld}
  {saved : Option WeixinCredentials} {held : WeixinCredentials} {passed : Nat}

/-- The place a cursor stands at. -/
def WeixinServer.place (server : WeixinServer) (credentials : WeixinCredentials) : Nat :=
  server.position credentials.getUpdatesBuf

/-- Credentials the bridge may go on with. -/
structure Usable (token : String) (world : PollWorld) (credentials : WeixinCredentials) : Prop where
  token : credentials.botToken = token
  returned : credentials.getUpdatesBuf ∈ world.returned

/-- **How far the bridge is**, in the file, in memory, and in what has been handled. -/
structure Progress (server : WeixinServer) (token : String) (saved : Option WeixinCredentials)
    (held : WeixinCredentials) (passed : Nat) (world : PollWorld) : Prop where
  file : world.file = saved.map .whole
  credentials : world.credentials = some held
  usable : Usable token world held
  saved_usable : ∀ credentials, saved = some credentials → Usable token world credentials
  ahead : ∀ credentials, saved = some credentials →
    passed ≤ server.place credentials ∧ server.place credentials ≤ server.place held
  passed_le : passed ≤ server.place held
  held_le : server.place held ≤ world.inbox.length
  since_le : world.since ≤ passed
  sent : ∀ entry ∈ world.handled, world.inbox[entry.2]? = some entry.1
  once : (world.handled.map Prod.snd).Nodup
  below : ∀ entry ∈ world.handled, entry.2 < passed
  all : ∀ place, world.since ≤ place → place < passed → ∃ message, (message, place) ∈ world.handled

/-- What holds at every moment. -/
def Safe (server : WeixinServer) (token : String) (world : PollWorld) : Prop :=
  ∃ saved held passed, Progress server token saved held passed world

/-- What holds between two rounds: everything up to the cursor is on disk and handled. -/
def Idle (server : WeixinServer) (token : String) (world : PollWorld) : Prop :=
  ∃ saved held, Progress server token (some saved) held (server.place held) world

theorem Idle.safe (idle : Idle server token world) : Safe server token world := by
  obtain ⟨saved, held, progress⟩ := idle
  exact ⟨_, _, _, progress⟩

def PollCall.persists : PollCall → Bool
  | .file _ | .fileExists => true
  | .credentials | .request _ _ _ | .setBuffer _ | .handleMessage _ => false

/-- The file is as far as the memory. -/
def PollWorld.Saved (server : WeixinServer) (world : PollWorld) : Prop :=
  ∃ saved held, world.file = some (.whole saved) ∧ world.credentials = some held ∧
    server.place saved = server.place held

/-- **The condition on a call**: the credentials file can be written, unless no message is at hand, or
it is the first rename on Windows. -/
def Spared (server : WeixinServer) (windows : Bool) (world : PollWorld) (call : PollCall)
    (environment : PollEnvironment) : Prop :=
  environment.fault ≠ none → call.persists = true →
    world.Saved server ∨ windows = true ∧ call = .file .rename ∧ world.file ≠ none

def Answers (server : WeixinServer) (windows : Bool) (world : PollWorld) (call : PollCall)
    (reply : Except String (PollReply call)) (world' : PollWorld) : Prop :=
  ∃ environment, Spared server windows world call environment ∧
    world.answer server environment call = (reply, world')

/-- What a round leaves behind, wherever it ends. -/
def Leaves (server : WeixinServer) (token : String) {α : Type} (returns : α → PollWorld → Prop) :
    Outcome String α → PollWorld → Prop
  | .returned value, world => returns value world
  | .thrown _, world => Idle server token world
  | .crashed, world => Safe server token world
  | .suspended, _ => False

/-- Where the file is as far as the memory, and nothing has been handled since, the bridge is idle. -/
theorem Progress.idle {saved : WeixinCredentials}
    (progress : Progress server token (some saved) held (server.place saved) world)
    (isSaved : world.Saved server) : Idle server token world := by
  obtain ⟨saved', held', file, credentials, same⟩ := isSaved
  rw [progress.file] at file
  rw [progress.credentials] at credentials
  cases file
  cases credentials
  exact ⟨saved, held, same ▸ progress⟩

theorem Progress.files (progress : Progress server token saved held passed world)
    (saved' : Option WeixinCredentials) (temporary : Option (FileContent WeixinCredentials))
    (usable : ∀ credentials, saved' = some credentials → Usable token world credentials ∧
      passed ≤ server.place credentials ∧ server.place credentials ≤ server.place held) :
    Progress server token saved' held passed
      { world with file := saved'.map .whole, temporary := temporary } :=
  { progress with
    file := rfl
    usable := ⟨progress.usable.token, progress.usable.returned⟩
    saved_usable := fun credentials same =>
      ⟨(usable credentials same).1.token, (usable credentials same).1.returned⟩
    ahead := fun credentials same => (usable credentials same).2 }

/-! ## Writing the file -/

theorem Progress.temporary (progress : Progress server token saved held passed world)
    (temporary : Option (FileContent WeixinCredentials)) :
    Progress server token saved held passed { world with temporary := temporary } := by
  have files := progress.files saved temporary fun credentials same =>
    ⟨progress.saved_usable credentials same, progress.ahead credentials same⟩
  rwa [← progress.file] at files

def FileStep.prepares : FileStep → Bool
  | .rename | .removeFile => false
  | .createDirectory | .createTemporary | .writeTemporary _ | .syncTemporary => true

theorem fileStep_prepares {step : FileStep} (prepares : step.prepares = true)
    (environment : PollEnvironment) (world : PollWorld) :
    world.fileStep environment step = (environment.outcome,
      { world with temporary := step.temporaryAfter environment world.temporary }) := by
  cases step with
  | rename | removeFile => cases prepares
  | createDirectory | createTemporary | writeTemporary _ | syncTemporary => rfl

/-- What a step leaves when it does not fail. -/
def FileStep.left (temporary : Option (FileContent WeixinCredentials)) :
    FileStep → Option (FileContent WeixinCredentials)
  | .createTemporary => some .torn
  | .writeTemporary credentials => some (.whole credentials)
  | .createDirectory | .syncTemporary | .rename | .removeFile => temporary

section Writing

variable {inbox : List WeixinMessage} {before held : WeixinCredentials} {α : Type}
  {returns : α → PollWorld → Prop}

/-- What is at hand while the file is being written: the messages between the two cursors. -/
structure Writing (server : WeixinServer) (token : String) (inbox : List WeixinMessage)
    (before held : WeixinCredentials) (world : PollWorld) : Prop where
  progress : Progress server token (some before) held (server.place before) world
  inbox : world.inbox = inbox

theorem Writing.safe (writing : Writing server token inbox before held world) :
    Safe server token world := ⟨_, _, _, writing.progress⟩

theorem Writing.temporary (writing : Writing server token inbox before held world)
    (temporary : Option (FileContent WeixinCredentials)) :
    Writing server token inbox before held { world with temporary := temporary } :=
  ⟨writing.progress.temporary temporary, writing.inbox⟩

theorem ensures_prepares {step : FileStep} {context : String} {next : Unit → Polling α}
    (prepares : step.prepares = true) (writing : Writing server token inbox before held world)
    (rest : ∀ world', Writing server token inbox before held world' →
      world'.temporary = step.left world.temporary →
      (next ()).Ensures (Answers server windows) (Leaves server token returns) world') :
    (ask (.file step) context >>= next).Ensures (Answers server windows)
      (Leaves server token returns) world := by
  apply ensures_ask
  · exact writing.safe
  · rintro reply world' ⟨environment, spared, answer⟩
    rw [PollWorld.answer, fileStep_prepares prepares, Prod.mk.injEq] at answer
    obtain ⟨-, rfl⟩ := answer
    exact (writing.temporary _).safe
  · rintro reply world' ⟨environment, spared, answer⟩
    rw [PollWorld.answer, fileStep_prepares prepares, Prod.mk.injEq] at answer
    obtain ⟨succeeds, rfl⟩ := answer
    have clear : environment.fault = none := by
      cases fault : environment.fault with
      | none => rfl
      | some message => simp [PollEnvironment.outcome, fault] at succeeds
    refine rest _ (writing.temporary _) ?_
    cases step <;> simp_all [FileStep.temporaryAfter, FileStep.left]
  · rintro message world' ⟨environment, spared, answer⟩
    rw [PollWorld.answer, fileStep_prepares prepares, Prod.mk.injEq] at answer
    obtain ⟨fails, rfl⟩ := answer
    have fault : environment.fault ≠ none := by
      intro clear
      simp [PollEnvironment.outcome, clear] at fails
    obtain isSaved | ⟨-, rename, -⟩ := spared fault rfl
    · obtain ⟨saved', held', idle⟩ := writing.progress.idle isSaved
      exact ⟨saved', held', idle.temporary _⟩
    · cases rename
      cases prepares

/-- The temporary file is whole; the credentials file holds `saved`, or is gone. -/
structure Moving (server : WeixinServer) (token : String) (inbox : List WeixinMessage)
    (saved : Option WeixinCredentials) (before held : WeixinCredentials) (world : PollWorld) : Prop where
  progress : Progress server token saved held (server.place before) world
  inbox : world.inbox = inbox
  temporary : world.temporary = some (.whole held)

/-- The file has been replaced. -/
structure Written (server : WeixinServer) (token : String) (inbox : List WeixinMessage)
    (before held : WeixinCredentials) (world : PollWorld) : Prop where
  progress : Progress server token (some held) held (server.place before) world
  inbox : world.inbox = inbox

variable {saved : Option WeixinCredentials}

theorem Moving.safe (moving : Moving server token inbox saved before held world) :
    Safe server token world := ⟨_, _, _, moving.progress⟩

theorem Written.safe (written : Written server token inbox before held world) :
    Safe server token world := ⟨_, _, _, written.progress⟩

/-- **What a rename does**: the file is replaced, or nothing. -/
theorem Moving.rename {reply : Except String Unit} {world' : PollWorld}
    (moving : Moving server token inbox saved before held world)
    (answer : Answers server windows world (.file .rename) reply world') :
    (reply = .ok () ∧ Written server token inbox before held world') ∨
      ∃ message, reply = .error message ∧ world' = world ∧
        (world.Saved server ∨ windows = true ∧ world.file ≠ none) := by
  obtain ⟨environment, spared, answer⟩ := answer
  simp only [PollWorld.answer, PollWorld.fileStep, PollWorld.rename, moving.temporary] at answer
  cases fault : environment.fault with
  | none =>
    rw [fault] at answer
    cases answer
    refine .inl ⟨rfl, ?_, moving.inbox⟩
    have files := moving.progress.files (some held) none fun credentials same => by
      cases same
      exact ⟨moving.progress.usable, moving.progress.passed_le, Nat.le_refl _⟩
    exact files
  | some message =>
    rw [fault] at answer
    cases answer
    refine .inr ⟨message, rfl, rfl, ?_⟩
    obtain isSaved | ⟨isWindows, -, isThere⟩ := spared (by simp [fault]) rfl
    · exact .inl isSaved
    · exact .inr ⟨isWindows, isThere⟩

theorem Moving.last {context : String} (moving : Moving server token inbox saved before held world)
    (spared : saved = none ∨ saved = some before ∧ world.Saved server) :
    (ask (.file .rename) context).Ensures (Answers server windows)
      (Leaves server token fun _ => Written server token inbox before held) world := by
  apply ensures_last
  · exact moving.safe
  · intro reply world' answer
    obtain ⟨-, written⟩ | ⟨message, -, rfl, -⟩ := moving.rename answer
    · exact written.safe
    · exact moving.safe
  · intro reply world' answer
    obtain ⟨-, written⟩ | ⟨message, fails, -, -⟩ := moving.rename answer
    · exact written
    · cases fails
  · intro message world' answer
    obtain ⟨fails, -⟩ | ⟨message', -, rfl, isSaved⟩ := moving.rename answer
    · cases fails
    · obtain rfl | ⟨rfl, isSaved⟩ := spared
      · -- where the file is gone, no rename fails
        have gone : world'.file = none := moving.progress.file
        obtain ⟨saved', held', file, -, -⟩ | ⟨-, isThere⟩ := isSaved
        · rw [gone] at file
          cases file
        · exact absurd gone isThere
      · exact moving.progress.idle isSaved

theorem Moving.removes {context context' : String}
    (moving : Moving server token inbox (some before) before held world) :
    (ask (.file .removeFile) context >>= fun _ => ask (.file .rename) context').Ensures
      (Answers server windows)
      (Leaves server token fun _ => Written server token inbox before held) world := by
  have removed : ∀ {reply world'}, Answers server windows world (.file .removeFile) reply world' →
      (reply = .ok () ∧ Moving server token inbox none before held world') ∨
        ∃ message, reply = .error message ∧ world' = world ∧ world.Saved server := by
    rintro reply world' ⟨environment, spared, answer⟩
    have file : world.file = some (.whole before) := moving.progress.file
    simp only [PollWorld.answer, PollWorld.fileStep, PollWorld.removeFile, file] at answer
    cases fault : environment.fault with
    | none =>
      rw [fault] at answer
      cases answer
      refine .inl ⟨rfl, ?_, moving.inbox, moving.temporary⟩
      have files := moving.progress.files none world.temporary fun _ same => by
        cases same
      exact files
    | some message =>
      rw [fault] at answer
      cases answer
      refine .inr ⟨message, rfl, rfl, ?_⟩
      obtain isSaved | ⟨-, other, -⟩ := spared (by simp [fault]) rfl
      · exact isSaved
      · cases other
  apply ensures_ask
  · exact moving.safe
  · intro reply world' answer
    obtain ⟨-, gone⟩ | ⟨message, -, rfl, -⟩ := removed answer
    · exact gone.safe
    · exact moving.safe
  · intro reply world' answer
    obtain ⟨-, gone⟩ | ⟨message, fails, -, -⟩ := removed answer
    · exact gone.last (.inl rfl)
    · cases fails
  · intro message world' answer
    obtain ⟨fails, -⟩ | ⟨message', -, rfl, isSaved⟩ := removed answer
    · cases fails
    · exact moving.progress.idle isSaved

theorem Moving.onWindows (moving : Moving server token inbox (some before) before held world) :
    replaceOnWindows.Ensures (Answers server windows)
      (Leaves server token fun _ => Written server token inbox before held) world := by
  unfold replaceOnWindows
  apply Ensures.bind
  apply Ensures.catching
  have there : ∀ {reply world'}, Answers server windows world .fileExists reply world' →
      world' = world ∧ (reply = .ok true ∨ reply = .ok false ∧ world.Saved server) := by
    rintro reply world' ⟨environment, spared, answer⟩
    have file : world.file = some (.whole before) := moving.progress.file
    simp only [PollWorld.answer, file, Option.isSome_some, Bool.true_and] at answer
    cases answer
    refine ⟨rfl, ?_⟩
    cases fault : environment.fault with
    | none => exact .inl rfl
    | some message =>
      obtain isSaved | ⟨-, other, -⟩ := spared (by simp [fault]) rfl
      · exact .inr ⟨rfl, isSaved⟩
      · cases other
  apply ensures_last
  · exact moving.safe
  · intro reply world' answer
    obtain ⟨rfl, -⟩ := there answer
    exact moving.safe
  · intro reply world' answer
    obtain ⟨rfl, isThere⟩ := there answer
    cases reply with
    | true => exact moving.removes
    | false =>
      obtain wrong | ⟨-, isSaved⟩ := isThere
      · cases wrong
      · exact moving.last (.inr ⟨rfl, isSaved⟩)
  · intro message world' answer
    obtain ⟨-, never | ⟨never, -⟩⟩ := there answer
    · cases never
    · cases never

/-- **Writing the file**: it is replaced, or the bridge is idle. -/
theorem Writing.persists (writing : Writing server token inbox before held world) :
    (persistCredentials windows held).Ensures (Answers server windows)
      (Leaves server token fun _ => Written server token inbox before held) world := by
  unfold persistCredentials
  refine ensures_prepares rfl writing fun world₁ writing₁ _ => ?_
  refine ensures_prepares rfl writing₁ fun world₂ writing₂ _ => ?_
  refine ensures_prepares rfl writing₂ fun world₃ writing₃ written => ?_
  refine ensures_prepares rfl writing₃ fun world₄ writing₄ synced => ?_
  have moving : Moving server token inbox (some before) before held world₄ :=
    ⟨writing₄.progress, writing₄.inbox, synced.trans written⟩
  apply Ensures.catching
  refine @ensures_last _ _ (.file .rename) _ _ ?_ ?_ ?_ ?_
  · exact moving.safe
  · intro reply world' answer
    obtain ⟨-, done⟩ | ⟨message, -, rfl, -⟩ := moving.rename answer
    · exact done.safe
    · exact moving.safe
  · intro reply world' answer
    obtain ⟨-, done⟩ | ⟨message, fails, -, -⟩ := moving.rename answer
    · exact done
    · cases fails
  · intro message world' answer
    obtain ⟨fails, -⟩ | ⟨message', -, rfl, isSaved⟩ := moving.rename answer
    · cases fails
    · cases windows with
      | true => exact moving.onWindows
      | false =>
        obtain isSaved | ⟨never, -⟩ := isSaved
        · exact .thrown (moving.progress.idle isSaved)
        · cases never

end Writing

/-! ## Handling the messages -/

/-- The messages at hand: those from `passed` to the cursor. -/
structure AtHand (server : WeixinServer) (token : String) (messages : List Placed) (passed : Nat)
    (world : PollWorld) : Prop where
  progress : ∃ held, Progress server token (some held) held passed world ∧
    server.place held = passed + messages.length
  places : messages.map Prod.snd = List.range' passed messages.length
  sent : ∀ entry ∈ messages, world.inbox[entry.2]? = some entry.1

theorem AtHand.safe {messages : List Placed} (atHand : AtHand server token messages passed world) :
    Safe server token world := by
  obtain ⟨held, progress, -⟩ := atHand.progress
  exact ⟨_, _, _, progress⟩

theorem AtHand.handle {message : Placed} {messages : List Placed}
    (atHand : AtHand server token (message :: messages) passed world) :
    AtHand server token messages (passed + 1)
      { world with handled := world.handled ++ [message] } := by
  obtain ⟨held, progress, place⟩ := atHand.progress
  have places := atHand.places
  rw [List.map_cons, List.length_cons, List.range'_succ, List.cons.injEq] at places
  obtain ⟨first, rest⟩ := places
  rw [List.length_cons] at place
  refine ⟨⟨held, ?_, by omega⟩, rest, fun entry member =>
    atHand.sent entry (List.mem_cons_of_mem _ member)⟩
  exact
    { progress with
      usable := ⟨progress.usable.token, progress.usable.returned⟩
      saved_usable := fun credentials same =>
        ⟨(progress.saved_usable credentials same).token, (progress.saved_usable credentials same).returned⟩
      ahead := fun credentials same => by
        cases same
        omega
      passed_le := by omega
      since_le := Nat.le_succ_of_le progress.since_le
      sent := by
        simp only [List.mem_append, List.mem_singleton]
        rintro entry (earlier | rfl)
        · exact progress.sent entry earlier
        · exact atHand.sent entry List.mem_cons_self
      once := by
        rw [List.map_append, List.map_singleton, ← List.concat_eq_append, List.nodup_concat]
        refine ⟨?_, progress.once⟩
        intro member
        obtain ⟨entry, earlier, same⟩ := List.mem_map.1 member
        have below := progress.below entry earlier
        omega
      below := by
        simp only [List.mem_append, List.mem_singleton]
        rintro entry (earlier | rfl)
        · exact Nat.lt_succ_of_lt (progress.below entry earlier)
        · omega
      all := by
        intro place since before
        obtain earlier | now := Nat.lt_succ_iff_lt_or_eq.1 before
        · obtain ⟨message', member⟩ := progress.all place since earlier
          exact ⟨message', List.mem_append_left _ member⟩
        · refine ⟨message.1, List.mem_append_right _ ?_⟩
          rw [List.mem_singleton, now, ← first] }

/-- **The loop over the messages**: when it ends, everything up to the cursor is handled. -/
theorem AtHand.handleAll {messages : List Placed}
    (atHand : AtHand server token messages passed world) :
    (handleAll messages).Ensures (Answers server windows)
      (Leaves server token fun _ => Idle server token) world := by
  induction messages generalizing passed world with
  | nil =>
    obtain ⟨held, progress, place⟩ := atHand.progress
    have caught : passed = server.place held := by simpa using place.symm
    exact .returned ⟨held, held, caught ▸ progress⟩
  | cons message messages ih =>
    have next : ∀ {reply world'}, Answers server windows world (.handleMessage message) reply world' →
        AtHand server token messages (passed + 1) world' := by
      rintro reply world' ⟨environment, -, answer⟩
      cases answer
      exact atHand.handle
    apply Ensures.bind
    apply Ensures.catching
    refine @ensures_last _ _ (.handleMessage message) _ _ ?_ ?_ ?_ ?_
    · exact atHand.safe
    · exact fun reply world' answer => (next answer).safe
    · exact fun reply world' answer => ih (next answer)
    · exact fun error world' answer => .returned (ih (next answer))

/-! ## A round -/

theorem getElem?_append {items : List WeixinMessage} {place : Nat} {message : WeixinMessage}
    (found : items[place]? = some message) (later : List WeixinMessage) :
    (items ++ later)[place]? = some message := by
  rw [List.getElem?_append_left (List.getElem?_eq_some_iff.1 found).1]
  exact found

theorem Progress.arrive (progress : Progress server token saved held passed world)
    (arrived : List WeixinMessage) :
    Progress server token saved held passed { world with inbox := world.inbox ++ arrived } :=
  { progress with
    usable := ⟨progress.usable.token, progress.usable.returned⟩
    saved_usable := fun credentials same =>
      ⟨(progress.saved_usable credentials same).token, (progress.saved_usable credentials same).returned⟩
    held_le := by
      rw [List.length_append]
      exact Nat.le_add_right_of_le progress.held_le
    sent := fun entry member => getElem?_append (progress.sent entry member) arrived }

/-- The bridge after the answer of the server, which named the cursor `next`. -/
def PollWorld.answered (server : WeixinServer) (world : PollWorld) (arrived : List WeixinMessage) :
    PollWorld :=
  let inbox := world.inbox ++ arrived
  { world with inbox := inbox, returned := world.returned ++ [server.cursorOf inbox.length] }

theorem Progress.answered (progress : Progress server token saved held passed world)
    (arrived : List WeixinMessage) :
    Progress server token saved held passed (world.answered server arrived) :=
  { progress.arrive arrived with
    usable := ⟨progress.usable.token, List.mem_append_left _ progress.usable.returned⟩
    saved_usable := fun credentials same =>
      ⟨(progress.saved_usable credentials same).token,
        List.mem_append_left _ (progress.saved_usable credentials same).returned⟩ }

/-- **What a request meets**: it fails, or is refused, or is answered with the messages after the
cursor. -/
theorem request_cases {cursor url botToken : String} {reply : Except String GetUpdatesResponse}
    {world' : PollWorld}
    (answer : Answers server windows world (.request url botToken cursor) reply world') :
    ∃ arrived, (world' = { world with inbox := world.inbox ++ arrived } ∧
        ∀ response, reply = .ok response → response.ret ≠ 0 ∨ response.errcode.getD 0 ≠ 0) ∨
      (world' = world.answered server arrived ∧ ∃ response, reply = .ok response ∧
        ¬ (response.ret ≠ 0 ∨ response.errcode.getD 0 ≠ 0) ∧
        response.msgs = (world.inbox ++ arrived).zipIdx.drop (server.position cursor) ∧
        response.getUpdatesBuf = some (server.cursorOf (world.inbox ++ arrived).length)) := by
  obtain ⟨environment, -, answer⟩ := answer
  refine ⟨environment.arrived, ?_⟩
  simp only [PollWorld.answer, PollWorld.request] at answer
  cases fault : environment.fault with
  | some message =>
    rw [fault] at answer
    cases answer
    exact .inl ⟨rfl, by simp⟩
  | none =>
    rw [fault] at answer
    by_cases refused : environment.refuses
    · simp only [if_pos refused] at answer
      cases answer
      refine .inl ⟨rfl, ?_⟩
      intro response same
      cases same
      exact refused
    · simp only [if_neg refused] at answer
      cases answer
      exact .inr ⟨rfl, _, rfl, refused, rfl, rfl⟩

theorem places_drop (inbox : List WeixinMessage) (start : Nat) :
    (inbox.zipIdx.drop start).map Prod.snd = List.range' start (inbox.zipIdx.drop start).length := by
  rw [List.map_drop, List.zipIdx_map_snd, List.drop_range', List.length_drop, List.length_zipIdx]
  simp

def advanced (server : WeixinServer) (held : WeixinCredentials) (inbox : List WeixinMessage) :
    WeixinCredentials :=
  { held with getUpdatesBuf := server.cursorOf inbox.length }

theorem place_advanced (inbox : List WeixinMessage) :
    server.place (advanced server held inbox) = inbox.length :=
  server.position_cursorOf inbox.length

theorem Writing.begin {before : WeixinCredentials} (arrived : List WeixinMessage)
    (progress : Progress server token (some before) held (server.place before) world) :
    Writing server token (world.inbox ++ arrived) before
      (advanced server held (world.inbox ++ arrived))
      { world.answered server arrived with
        credentials := some (advanced server held (world.inbox ++ arrived)) } := by
  have answered := progress.answered arrived
  have held_le := answered.held_le
  have ahead := progress.ahead before rfl
  refine ⟨?_, rfl⟩
  exact
    { answered with
      credentials := rfl
      usable := ⟨progress.usable.token, List.mem_append_right _ (List.mem_singleton_self _)⟩
      saved_usable := fun credentials same =>
        ⟨(answered.saved_usable credentials same).token, (answered.saved_usable credentials same).returned⟩
      ahead := fun credentials same => by
        cases same
        rw [place_advanced]
        exact ⟨Nat.le_refl _, ahead.2.trans held_le⟩
      passed_le := by
        rw [place_advanced]
        exact ahead.2.trans held_le
      held_le := by
        rw [place_advanced]
        exact Nat.le_refl _ }

/-- The messages after the old cursor are at hand once the file has been replaced. -/
theorem Written.atHand {inbox : List WeixinMessage} {before : WeixinCredentials}
    (written : Written server token inbox before (advanced server held inbox) world) :
    AtHand server token (inbox.zipIdx.drop (server.place before)) (server.place before) world := by
  refine ⟨⟨_, written.progress, ?_⟩, places_drop inbox _, ?_⟩
  · have passed_le := written.progress.passed_le
    rw [place_advanced] at passed_le ⊢
    rw [List.length_drop, List.length_zipIdx]
    omega
  · intro entry member
    rw [written.inbox]
    exact List.mem_zipIdx_iff_getElem?.1 (List.mem_of_mem_drop member)

/-- **A call of `get_updates`**: it yields the messages at hand, or leaves the bridge idle. -/
theorem Idle.getUpdates (idle : Idle server token world) :
    (getUpdates windows).Ensures (Answers server windows)
      (Leaves server token fun messages world' => ∃ passed, AtHand server token messages passed world')
      world := by
  obtain ⟨saved, held, progress⟩ := id idle
  have caught : server.place held = server.place saved := by
    have ahead := progress.ahead saved rfl
    omega
  have arrives : ∀ arrived, Idle server token { world with inbox := world.inbox ++ arrived } :=
    fun arrived => ⟨saved, held, progress.arrive arrived⟩
  rw [caught] at progress
  have begins := fun arrived => Writing.begin arrived progress
  have answered : ∀ arrived, Safe server token (world.answered server arrived) :=
    fun arrived => ⟨_, _, _, progress.answered arrived⟩
  unfold Weixin.getUpdates
  apply ensures_ask
  · exact idle.safe
  · rintro reply world' ⟨environment, -, answer⟩
    cases answer
    exact idle.safe
  · rintro reply world' ⟨environment, -, answer⟩
    simp only [PollWorld.answer, progress.credentials] at answer
    cases answer
    dsimp only
    apply ensures_ask
    · exact idle.safe
    · intro reply world' answer
      obtain ⟨arrived, ⟨rfl, -⟩ | ⟨rfl, -⟩⟩ := request_cases answer
      · exact (arrives arrived).safe
      · exact answered arrived
    · intro response world' answer
      obtain ⟨arrived, ⟨rfl, refused⟩ | ⟨rfl, response', same, accepted, msgs, buffer⟩⟩ :=
        request_cases answer
      · rw [if_pos (refused response rfl)]
        exact .thrown (arrives arrived)
      · cases same
        rw [if_neg accepted, buffer, msgs]
        dsimp only
        apply ensures_ask
        · exact answered arrived
        · rintro reply world' ⟨environment, -, answer⟩
          simp only [PollWorld.answer, PollWorld.answered, progress.credentials] at answer
          cases answer
          exact (begins arrived).safe
        · rintro reply world' ⟨environment, -, answer⟩
          simp only [PollWorld.answer, PollWorld.answered, progress.credentials] at answer
          cases answer
          apply Ensures.bind
          refine (begins arrived).persists.mono fun outcome world' leaves => ?_
          cases outcome with
          | returned _ => exact .returned ⟨_, caught ▸ Written.atHand leaves⟩
          | thrown _ | crashed | suspended => exact leaves
        · rintro message world' ⟨environment, -, answer⟩
          cases answer
    · intro message world' answer
      obtain ⟨arrived, ⟨rfl, -⟩ | ⟨rfl, response', same, -⟩⟩ := request_cases answer
      · exact arrives arrived
      · cases same
  · rintro message world' ⟨environment, -, answer⟩
    cases answer

/-- **A round** leaves the bridge idle, wherever it throws. -/
theorem Idle.pollOnce (idle : Idle server token world) :
    (pollOnce windows).Ensures (Answers server windows)
      (Leaves server token fun _ => Idle server token) world := by
  apply Ensures.bind
  refine idle.getUpdates.mono fun outcome world' leaves => ?_
  cases outcome with
  | returned messages =>
    obtain ⟨passed, atHand⟩ := leaves
    exact atHand.handleAll
  | thrown _ | crashed | suspended => exact leaves

/-! ## Runs -/

/-- **The condition on a step**: the credentials file can be written while messages are at hand. -/
def Steady (server : WeixinServer) (windows : Bool) (pool : PollPool) : PollInput → Prop
  | .begin _ => pool.strands = []
  | .turn position environment => ∀ strand call resume, pool.strands[position]? = some strand →
      strand.program = .await call resume → Spared server windows pool.world call environment
  | .stop => pool.world.file ≠ none

theorem Safe.restart (safe : Safe server token world) (isThere : world.file ≠ none) :
    Idle server token (world.restart server) := by
  obtain ⟨saved, held, passed, progress⟩ := safe
  have file := progress.file
  cases saved with
  | none => exact absurd file isThere
  | some saved =>
    obtain ⟨passed_le, saved_le⟩ := progress.ahead saved rfl
    have usable := progress.saved_usable saved rfl
    have restarted : world.restart server =
        { world with credentials := some saved, since := server.place saved } := by
      rw [PollWorld.restart, file]
      rfl
    rw [restarted]
    refine ⟨saved, saved, ?_⟩
    exact
      { progress with
        credentials := rfl
        usable := ⟨usable.token, usable.returned⟩
        saved_usable := fun credentials same => by
          cases same
          exact ⟨usable.token, usable.returned⟩
        ahead := fun credentials same => by
          cases same
          exact ⟨Nat.le_refl _, Nat.le_refl _⟩
        passed_le := Nat.le_refl _
        held_le := saved_le.trans progress.held_le
        since_le := Nat.le_refl _
        below := fun entry member => Nat.lt_of_lt_of_le (progress.below entry member) passed_le
        all := fun place since before => absurd before (Nat.not_lt.2 since) }

theorem Leaves.safe {α : Type} {returns : α → PollWorld → Prop} {outcome : Outcome String α}
    (returned : ∀ value world, returns value world → Idle server token world)
    (leaves : Leaves server token returns outcome world) : Safe server token world := by
  cases outcome with
  | returned value => exact (returned value world leaves).safe
  | thrown _ => exact Idle.safe leaves
  | crashed => exact leaves
  | suspended => exact leaves.elim

/-- What holds of the process: it is idle between two rounds, and safe at every moment. -/
def PollsAlone (server : WeixinServer) (windows : Bool) (token : String) (pool : PollPool) : Prop :=
  StrandHost.Alone (Answers server windows) (Idle server token)
    (fun _ _ => Leaves server token fun _ => Idle server token) pool

section

variable {pool : PollPool} (alone : PollsAlone server windows token pool)
include alone

theorem PollsAlone.safe : Safe server token pool.world := by
  obtain ⟨-, idle⟩ | ⟨strand, -, -, ensured⟩ := alone
  · exact idle.safe
  · obtain ⟨outcome, leaves⟩ := ensured.now
    exact leaves.safe fun _ _ idle => idle

theorem PollsAlone.idle (between : pool.strands = []) : Idle server token pool.world := by
  obtain ⟨-, idle⟩ | ⟨strand, only, -⟩ := alone
  · exact idle
  · rw [between] at only
    cases only

theorem PollsAlone.delivered : Delivered server token pool where
  passed := by
    intro between credentials isHeld place since before
    obtain ⟨saved, held, progress⟩ := alone.idle between
    rw [progress.credentials] at isHeld
    cases isHeld
    obtain ⟨message, member⟩ := progress.all place since before
    exact ⟨message, progress.sent _ member, member⟩
  once := by
    obtain ⟨saved, held, passed, progress⟩ := alone.safe
    exact progress.once
  loads := by
    intro between
    obtain ⟨saved, held, progress⟩ := alone.idle between
    have usable := progress.saved_usable saved rfl
    exact ⟨saved, by rw [progress.file]; rfl, usable.token, usable.returned⟩

end

theorem idle_start {credentials : WeixinCredentials} {inbox : List WeixinMessage}
    (within : server.place credentials ≤ inbox.length) :
    Idle server credentials.botToken (PollWorld.start server credentials inbox) := by
  have usable : Usable credentials.botToken (PollWorld.start server credentials inbox) credentials :=
    ⟨rfl, List.mem_singleton_self _⟩
  refine ⟨credentials, credentials, ?_⟩
  exact
    { file := rfl
      credentials := rfl
      usable := usable
      saved_usable := fun other same => by
        cases same
        exact usable
      ahead := fun other same => by
        cases same
        exact ⟨Nat.le_refl _, Nat.le_refl _⟩
      passed_le := Nat.le_refl _
      held_le := within
      since_le := Nat.le_refl _
      sent := by simp [PollWorld.start]
      once := List.nodup_nil
      below := by simp [PollWorld.start]
      all := fun place since before => absurd before (Nat.not_lt.2 since) }

/-- **Messages are neither lost nor handled twice**, and the file loads, in every run whose steps meet the
condition. -/
theorem messages_delivered (server : WeixinServer) (windows : Bool) (credentials : WeixinCredentials)
    (inbox : List WeixinMessage) {history : PollHistory} {pool : PollPool}
    (within : server.place credentials ≤ inbox.length)
    (run : (pollHost server windows).machine.Run (Steady server windows)
      ⟨PollWorld.start server credentials inbox, []⟩ history pool) :
    Delivered server credentials.botToken pool := by
  have served := StrandHost.alone_of_run (Answers server windows) (Idle server credentials.botToken)
    (fun _ _ => Leaves server credentials.botToken fun _ => Idle server credentials.botToken)
    (fun _ _ met => met) (fun _ _ _ idle => idle.pollOnce) ?answered ?ends ?stops (idle_start within) run
  · have alone : PollsAlone server windows credentials.botToken pool := served.1
    exact alone.delivered
  case answered =>
    intro pool position environment strand call resume reply world' met found awaits performed
    exact ⟨environment, met strand call resume found awaits, Option.some.inj performed⟩
  case ends =>
    intro operation began outcome world' leaves
    cases outcome with
    | ok _ | error _ => exact leaves
  case stops =>
    intro pool isThere alone
    have polls : PollsAlone server windows credentials.botToken pool := alone
    exact polls.safe.restart isThere

end Bridge

/-! ## Runs that lose messages -/

namespace PollDemonstration

def server : WeixinServer where
  cursorOf count := String.ofList (List.replicate count 'x')
  position cursor := cursor.toList.length
  position_cursorOf count := by rw [String.toList_ofList, List.length_replicate]

def credentials : WeixinCredentials := ⟨"token", "bot", "https://example.test", "owner", ""⟩

def message : WeixinMessage := ⟨none, some "owner", none, none, [⟨some (some "hello"), none⟩]⟩

def quiet : PollEnvironment := ⟨none, [], 0, none⟩
def arriving : PollEnvironment := ⟨none, [message], 0, none⟩
def diskFull : PollEnvironment := ⟨some "No space left on device", [], 0, none⟩

/-- A round up to the writing of the temporary file. -/
def opening : List PollInput :=
  [.begin (), .turn 0 quiet, .turn 0 arriving, .turn 0 quiet, .turn 0 quiet, .turn 0 quiet]

/-- The round goes on: the file is replaced, and the message is handled. -/
def round : List PollInput :=
  opening ++ [.turn 0 quiet, .turn 0 quiet, .turn 0 quiet, .turn 0 quiet]

/-- The temporary file cannot be written. -/
def failing : List PollInput := opening ++ [.turn 0 diskFull]

def pool : PollPool := ⟨PollWorld.start server credentials [], []⟩

end PollDemonstration

open PollDemonstration in
theorem messages_delivered_round : Delivered server credentials.botToken
    ((pollHost server false).machine.exec pool round).2 := by
  have calm : ∀ {pool : PollPool} {environment : PollEnvironment}, environment.fault = none →
      Steady server false pool (.turn 0 environment) :=
    fun clear strand call resume found awaits faulty => absurd clear faulty
  refine messages_delivered server false credentials [] (Nat.le_refl 0) (Machine.exec_run _ _ _ ?_)
  exact ⟨rfl, calm rfl, calm rfl, calm rfl, calm rfl, calm rfl, calm rfl, calm rfl, calm rfl, calm rfl,
    trivial⟩

open PollDemonstration in
/-- The messages of a batch whose cursor cannot be written are lost. -/
theorem messages_counterexample :
    ¬ ∀ (server : WeixinServer) (windows : Bool) (credentials : WeixinCredentials)
      (inbox : List WeixinMessage), server.place credentials ≤ inbox.length →
      ∀ (history : PollHistory) (pool : PollPool),
        (pollHost server windows).machine.Run StrandHost.OneAtATime
          ⟨PollWorld.start server credentials inbox, []⟩ history pool →
        Delivered server credentials.botToken pool := by
  intro claim
  have met : (pollHost server false).machine.Met StrandHost.OneAtATime pool failing :=
    ⟨rfl, trivial, trivial, trivial, trivial, trivial, trivial, trivial⟩
  have run := (pollHost server false).machine.exec_run pool failing met
  have delivered := claim server false credentials [] (Nat.le_refl 0) _ _ run
  obtain ⟨message, -, member⟩ := delivered.passed rfl _ rfl 0 (Nat.le_refl 0) (by decide)
  cases member

end Zero3Pilot.Weixin
