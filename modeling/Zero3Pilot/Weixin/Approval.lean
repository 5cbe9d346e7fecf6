import Zero3Pilot.Foundations.PrettyJson
import Zero3Pilot.Foundations.Procedure
import Zero3Pilot.Foundations.ScriptValue
import Zero3Pilot.Foundations.Sha256

/-! # The Weixin bridge and its approvals

Texts of the bound Weixin account are commands for an agent. A command that the gateway or the node
answers with *approval required* becomes pending, and the owner's code runs it. `handleMessage` is the
handler of one message: it replies, submits commands and verifies codes, and any reply may fail, which
ends the handling. What the handler reads from outside (the clock, how a reply and a submission went) is
its `Surroundings`; the quoting of `{:?}` is a parameter of the `Bridge`. -/

namespace Zero3Pilot.Weixin

open Procedure (modify read)

/-! ## The authorization code -/

def authRecordVersion : Nat := 1
def minCodeChars : Nat := 6
def maxCodeChars : Nat := 64
def hashRounds : Nat := 120000

structure AuthorizationRecord where
  version : Nat
  (salt passwordHash : String)

/-- The store of the authorization code, as it is read when the bridge starts. -/
structure AuthorizationStore where
  record : Option AuthorizationRecord

def trim (text : String) : String := trimWith isUnicodeWhitespace text

def validateCode (code : String) : Except String Unit :=
  if ¬ (minCodeChars ≤ code.toList.length ∧ code.toList.length ≤ maxCodeChars) then
    .error "授权码长度必须在允许范围内"
  else if code.toList.any isUnicodeWhitespace then
    .error "授权码不能包含空白字符"
  else
    .ok ()

def looksLikeCode (text : String) : Bool := (validateCode text).isOk

def utf8 (text : String) : List UInt8 := text.toUTF8.data.toList

def toLeBytes (round : Nat) : List UInt8 :=
  [round, round / 256, round / 65536, round / 16777216].map UInt8.ofNat

def hexDigit (digit : Nat) : Char := if digit < 10 then Char.ofNat (48 + digit) else Char.ofNat (87 + digit)

/-- `{byte:02x}`. -/
def hexByte (byte : UInt8) : List Char := [hexDigit (byte.toNat / 16), hexDigit (byte.toNat % 16)]

@[irreducible] def deriveHash (code salt : String) : String :=
  let first := sha256 (utf8 salt ++ [0] ++ utf8 code)
  let digest := (List.range' 1 (hashRounds - 1)).foldl
    (fun digest round => sha256 (digest ++ utf8 salt ++ toLeBytes round ++ utf8 code)) first
  String.ofList (digest.flatMap hexByte)

def constantTimeEq (left right : List UInt8) : Bool :=
  if left.length ≠ right.length then false
  else (left.zip right).foldl (fun diff pair => diff ||| (pair.1 ^^^ pair.2)) 0 == 0

/-- `AuthorizationStore::verify`, which never fails. -/
def AuthorizationStore.verify (store : AuthorizationStore) (code : String) : Bool :=
  match store.record with
  | none => false
  | some record =>
    constantTimeEq (utf8 (deriveHash code record.salt)) (utf8 record.passwordHash)

def AuthorizationStore.configure (salt code : String) : Except String AuthorizationStore := do
  validateCode code
  let record : AuthorizationRecord := ⟨authRecordVersion, salt, deriveHash code salt⟩
  .ok { record := some record }

theorem utf8_injective : Function.Injective utf8 := by
  intro left right same
  apply String.toByteArray_inj.1
  apply ByteArray.ext
  exact Array.toList_inj.1 same

theorem gathered_eq_zero (pairs : List (UInt8 × UInt8)) (diff : UInt8) :
    pairs.foldl (fun diff pair => diff ||| (pair.1 ^^^ pair.2)) diff = 0 ↔
      diff = 0 ∧ ∀ pair ∈ pairs, pair.1 = pair.2 := by
  induction pairs generalizing diff with
  | nil => simp
  | cons pair pairs ih =>
    rw [List.foldl_cons, ih, UInt8.or_eq_zero_iff, UInt8.xor_eq_zero_iff]
    simp [and_assoc]

theorem zip_agrees_iff {left right : List UInt8} (sameLength : left.length = right.length) :
    (∀ pair ∈ left.zip right, pair.1 = pair.2) ↔ left = right := by
  induction left generalizing right with
  | nil =>
    cases right with
    | nil => simp
    | cons _ _ => simp at sameLength
  | cons first left ih =>
    cases right with
    | nil => simp at sameLength
    | cons other right =>
      rw [List.zip_cons_cons, List.forall_mem_cons, ih (by simpa using sameLength), List.cons.injEq]

theorem constantTimeEq_iff (left right : List UInt8) :
    constantTimeEq left right = true ↔ left = right := by
  unfold constantTimeEq
  by_cases sameLength : left.length = right.length
  · rw [if_neg (not_not.2 sameLength), beq_iff_eq, gathered_eq_zero, zip_agrees_iff sameLength]
    exact and_iff_right rfl
  · rw [if_pos sameLength]
    simp only [Bool.false_eq_true, false_iff]
    intro same
    exact sameLength (congrArg List.length same)

section

variable {store : AuthorizationStore} {salt code : String}
  (configured : AuthorizationStore.configure salt code = .ok store)
include configured

/-- **What verifies** against a configured code is what hashes as it does. -/
theorem verify_configured (text : String) :
    store.verify text = true ↔ deriveHash text salt = deriveHash code salt := by
  unfold AuthorizationStore.configure at configured
  cases valid : validateCode code with
  | error error => simp [valid, bind, Except.bind] at configured
  | ok _ =>
    rw [valid] at configured
    cases configured
    rw [AuthorizationStore.verify, constantTimeEq_iff]
    exact utf8_injective.eq_iff

theorem valid_of_configured : validateCode code = .ok () := by
  unfold AuthorizationStore.configure at configured
  cases valid : validateCode code with
  | error error => simp [valid, bind, Except.bind] at configured
  | ok _ => rfl

end

/-! ## The approval session -/

def nanosPerSecond : Nat := 1000000000

def approvalTtl : Nat := 120 * nanosPerSecond
def authLockout : Nat := 600 * nanosPerSecond
def maxAuthFailures : Nat := 5

structure RemoteCommand where
  (backend goal fromUserId : String)
  sessionId : Option String
  messageId : Option Nat
  contextToken : Option String

/-- A command that waits for the code, and the reading of the clock when it began to. -/
structure PendingApproval where
  command : RemoteCommand
  createdAt : Nat

structure ApprovalSession where
  pending : Option PendingApproval := none
  failedAttempts : Nat := 0
  lockedUntil : Option Nat := none

namespace ApprovalSession

def clearPending (approval : ApprovalSession) : ApprovalSession := { approval with pending := none }

/-- Whether the pending command has waited for too long. -/
def isExpired (approval : ApprovalSession) (now : Nat) : Bool :=
  match approval.pending with
  | some pending => approvalTtl ≤ now - pending.createdAt
  | none => false

def pendingExpired (approval : ApprovalSession) (now : Nat) : Bool × ApprovalSession :=
  if approval.isExpired now then (true, approval.clearPending) else (false, approval)

def lockoutRemaining (approval : ApprovalSession) (now : Nat) : Option Nat × ApprovalSession :=
  match approval.lockedUntil with
  | none => (none, approval)
  | some deadline =>
    if deadline ≤ now then (none, { approval with lockedUntil := none, failedAttempts := 0 })
    else (some (deadline - now), approval)

/-- `register_failure`, with a counter of eight bits. -/
def registerFailure (approval : ApprovalSession) (now : Nat) : Bool × ApprovalSession :=
  let failedAttempts := min (approval.failedAttempts + 1) 255
  if maxAuthFailures ≤ failedAttempts then
    (true, { approval with failedAttempts := 0, lockedUntil := some (now + authLockout) })
  else
    (false, { approval with failedAttempts := failedAttempts })

def registerSuccess (approval : ApprovalSession) : ApprovalSession :=
  { approval with failedAttempts := 0, lockedUntil := none }

end ApprovalSession

/-! ## Messages and commands -/

structure WeixinMessageItem where
  (textItem voiceItem : Option (Option String))

structure WeixinMessage where
  messageId : Option Nat
  (fromUserId sessionId contextToken : Option String)
  itemList : List WeixinMessageItem

def spoken (item : Option (Option String)) : Option String :=
  item.join.filter fun text => trim text ≠ ""

def WeixinMessage.text (message : WeixinMessage) : Option String :=
  message.itemList.findSome? fun item => (spoken item.textItem).or (spoken item.voiceItem)

def commandPrefix : List Char := ['/', 'p', 'i', 'l', 'o', 't']
def cancelCommand : List Char := ['/', 'c', 'a', 'n', 'c', 'e', 'l']

/-- `trimmed.eq_ignore_ascii_case(CANCEL_COMMAND)`. -/
def isCancel (trimmed : String) : Bool := trimmed.toList.map Char.toLower = cancelCommand

def startsWithPrefix (trimmed : String) : Bool := commandPrefix.isPrefixOf trimmed.toList

def isBackend (backend : String) : Bool := ["zero3", "codex", "claude"].contains backend

section Parsing

variable (debugText : String → String)

def validateBackend (backend : String) : Except String Unit :=
  if isBackend backend then .ok ()
  else .error ("未知处理器 " ++ debugText backend ++ "; 仅支持 zero3/codex/claude")

def parseBackend (text defaultBackend : String) : Except String (String × String) :=
  let first := String.ofList (text.toList.takeWhile fun char => !isUnicodeWhitespace char)
  let rest := (text.toList.dropWhile fun char => !isUnicodeWhitespace char).drop 1
  if isBackend first then
    let goal := trim (String.ofList rest)
    if goal = "" then .error "指定 Agent 后必须提供任务内容" else .ok (first, goal)
  else do
    validateBackend debugText defaultBackend
    .ok (defaultBackend, text)

def parseUserMessage (text defaultBackend : String) : Except String (String × String) :=
  let trimmed := trim text
  if trimmed = "" then
    .error "消息不能为空"
  else if !startsWithPrefix trimmed then do
    validateBackend debugText defaultBackend
    .ok (defaultBackend, trimmed)
  else
    let rest := trim (String.ofList (trimmed.toList.drop commandPrefix.length))
    if rest = "" then .error "用法：直接发送消息，或 /pilot zero3|codex|claude <任务>"
    else parseBackend debugText rest defaultBackend

end Parsing

def truncateUtf8 (text : String) (maxChars : Nat) : String :=
  if text.toList.length ≤ maxChars then text
  else String.ofList (text.toList.take (maxChars - 16)) ++ "\n…(已截断)"

def renderReply (value : Json) : String :=
  let texts := [some value, value.get "text", value.get "summary", value.get "output"]
  match texts.findSome? ScriptValue.text? with
  | some text => text
  | none => String.ofList (value.renderPretty 0)

/-! ## The handler -/

inductive SubmitOutcome where
  | accepted (jobId : String)
  | completed (value : Json)
  | approvalRequired (reason : String)

/-- What the handling of one message reads from outside. -/
structure Surroundings where
  (startedAt checkedAt failedAt requestedAt : Nat)
  (confirmation reply : Except String Unit)
  submission : Except String SubmitOutcome
  job : Except String Json
  checked_later : startedAt ≤ checkedAt
  failed_later : checkedAt ≤ failedAt
  requested_later : startedAt ≤ requestedAt

/-- The last reading of the clock. -/
def Surroundings.endedAt (surroundings : Surroundings) : Nat :=
  max surroundings.failedAt surroundings.requestedAt

/-- The verification of a text: when the message came in, when it was seen that nothing is locked, and
when a failure was counted. -/
structure Verification where
  text : String
  (startedAt checkedAt failedAt : Nat)
  accepted : Bool

/-- What the bridge does. -/
inductive Occurrence where
  | sent (toUserId text : String) (contextToken : Option String) (outcome : Except String Unit)
  | withdrawn
  | verified (verification : Verification)
  | submitted (command : RemoteCommand) (approved : Bool) (answer : Except String SubmitOutcome)
      (answeredAt : Nat)

/-- The state a message is handled in, and what has been done for it. -/
structure Handling where
  approval : ApprovalSession
  done : List Occurrence

abbrev Handler := Procedure Handling String

/-- The bridge: its store, its owner, the default backend; `{:?}`. -/
structure Bridge where
  debugText : String → String
  store : AuthorizationStore
  owner : Option String
  defaultBackend : String

namespace Handler

def note (occurrence : Occurrence) : Handler Unit :=
  modify fun handling => { handling with done := handling.done ++ [occurrence] }

def setApproval (approval : ApprovalSession) : Handler Unit :=
  modify fun handling => { handling with approval := approval }

/-- A text is sent, and may fail to be. -/
def sendText (outcome : Except String Unit) (toUserId text : String) (contextToken : Option String) :
    Handler Unit := do
  note (.sent toUserId text contextToken outcome)
  Procedure.ofExcept outcome

end Handler

open Handler

section Handlers

variable (surroundings : Surroundings)

def submitAgent (command : RemoteCommand) (approved : Bool) : Handler (Except String SubmitOutcome) := do
  note (.submitted command approved surroundings.submission surroundings.requestedAt)
  pure surroundings.submission

def submitAndWait (command : RemoteCommand) (approved : Bool) : Handler (Except String Json) := do
  match ← submitAgent surroundings command approved with
  | .error error => pure (.error error)
  | .ok (.accepted _) => pure surroundings.job
  | .ok (.completed value) => pure (.ok value)
  | .ok (.approvalRequired reason) =>
    pure (.error ("授权后操作仍被权限层要求审批，已停止执行: " ++ reason))

/-- The reply about what a command yielded. -/
def renderOutput : Except String Json → String
  | .ok value => renderReply value
  | .error error => "Zero3 Pilot 执行失败：" ++ error

def executeAndReply (command : RemoteCommand) (approved : Bool) : Handler Unit := do
  let output ← submitAndWait surroundings command approved
  sendText surroundings.reply command.fromUserId (truncateUtf8 (renderOutput output) 3500)
    command.contextToken

def failureReply (failed : Bool × ApprovalSession) : String :=
  if failed.1 then "授权码连续错误 5 次，已锁定 10 分钟；当前操作不会执行。"
  else
    let remaining := maxAuthFailures - failed.2.failedAttempts
    s!"授权码错误，当前操作未执行。还可尝试 {remaining} 次。"

def lockoutReply (remaining : Nat) : String :=
  let minutes := (remaining / nanosPerSecond + 59) / 60
  s!"授权码尝试次数过多，已临时锁定。约 {minutes} 分钟后可重试。"

variable (bridge : Bridge) (sender trimmed : String) (message : WeixinMessage)

/-- The verification of a text while `pending` waits. -/
def verifyCode (pending : PendingApproval) : Handler Unit := do
  let accepted := bridge.store.verify trimmed
  let approval := (← read).approval
  note (.verified ⟨trimmed, surroundings.startedAt, surroundings.checkedAt, surroundings.failedAt, accepted⟩)
  if accepted then
    setApproval approval.registerSuccess.clearPending
    sendText surroundings.confirmation sender "授权码验证通过，仅授权当前操作。正在执行。" message.contextToken
    executeAndReply surroundings pending.command true
  else
    let failed := approval.registerFailure surroundings.failedAt
    setApproval failed.2
    sendText surroundings.reply sender (failureReply failed) message.contextToken

/-- A message while `pending` waits. -/
def answerPending (pending : PendingApproval) : Handler Unit := do
  let approval := (← read).approval
  if isCancel trimmed then
    setApproval approval.clearPending
    note .withdrawn
    sendText surroundings.reply sender "已取消当前待授权操作。" message.contextToken
  else if startsWithPrefix trimmed then
    sendText surroundings.reply sender
      "当前已有待授权操作。请先发送授权码，或发送 /cancel 取消后再提交新指令。" message.contextToken
  else
    let lockout := approval.lockoutRemaining surroundings.checkedAt
    setApproval lockout.2
    match lockout.1 with
    | some remaining =>
      sendText surroundings.reply sender (lockoutReply remaining) message.contextToken
    | none =>
      if looksLikeCode trimmed then verifyCode surroundings bridge sender trimmed message pending
      else
        sendText surroundings.reply sender "当前操作等待授权。请直接发送授权码，或发送 /cancel 取消。" message.contextToken

def approvalReply (reason : String) : String :=
  "检测到高风险/需审批操作，当前尚未执行。\n请在 2 分钟内直接发送授权码；发送 /cancel 可取消。\n权限原因：" ++ truncateUtf8 reason 500

/-- A message while nothing waits. -/
def submitCommand : Handler Unit := do
  match parseUserMessage bridge.debugText trimmed bridge.defaultBackend with
  | .error error => sendText surroundings.reply sender error message.contextToken
  | .ok parsed =>
    let command : RemoteCommand :=
      ⟨parsed.1, parsed.2, sender, message.sessionId, message.messageId, message.contextToken⟩
    match ← submitAgent surroundings command false with
    | .error error =>
      sendText surroundings.reply sender (truncateUtf8 (renderOutput (.error error)) 3500)
        message.contextToken
    | .ok (.accepted _) =>
      sendText surroundings.reply sender (truncateUtf8 (renderOutput surroundings.job) 3500)
        message.contextToken
    | .ok (.completed value) =>
      sendText surroundings.reply sender (truncateUtf8 (renderReply value) 3500) message.contextToken
    | .ok (.approvalRequired reason) =>
      let approval := (← read).approval
      setApproval { approval with pending := some ⟨command, surroundings.requestedAt⟩ }
      sendText surroundings.reply sender (approvalReply reason) message.contextToken

def handleText : Handler Unit := do
  let approval := (← read).approval
  let expired := approval.pendingExpired surroundings.startedAt
  setApproval expired.2
  if expired.1 then note .withdrawn
  if expired.1 && looksLikeCode trimmed then
    sendText surroundings.reply sender "授权请求已超过 2 分钟并失效，请重新发送原 /pilot 指令。" message.contextToken
  else
    match expired.2.pending with
    | some pending => answerPending surroundings bridge sender trimmed message pending
    | none => submitCommand surroundings bridge sender trimmed message

/-- What the owner says in a message: its sender, who is the owner, and the text, trimmed. -/
def Bridge.said : Option (String × String) :=
  match message.fromUserId with
  | none => none
  | some sender =>
    if bridge.owner ≠ some sender then none
    else message.text.map fun text => (sender, trim text)

def handleMessage : Handler Unit :=
  match bridge.said message with
  | none => pure ()
  | some said => handleText surroundings bridge said.1 said.2 message

end Handlers

/-! ## The bridge -/

/-- The bridge between two messages: its session, and the last reading of the clock. -/
structure BridgeState where
  approval : ApprovalSession
  log : List Occurrence
  clock : Nat

structure BridgeInput where
  message : WeixinMessage
  surroundings : Surroundings

def Bridge.machine (bridge : Bridge) : Machine BridgeState BridgeInput (List Occurrence) where
  step state input :=
    let handled := (handleMessage input.surroundings bridge input.message ⟨state.approval, []⟩).2
    (handled.done, ⟨handled.approval, state.log ++ handled.done, input.surroundings.endedAt⟩)

def BridgeState.start (clock : Nat) : BridgeState := ⟨{}, [], clock⟩

/-- The clock does not go back. -/
def BridgeState.InTime (state : BridgeState) (input : BridgeInput) : Prop :=
  state.clock ≤ input.surroundings.startedAt

instance (state : BridgeState) (input : BridgeInput) : Decidable (state.InTime input) :=
  inferInstanceAs (Decidable (state.clock ≤ input.surroundings.startedAt))

end Zero3Pilot.Weixin
