import Zero3Pilot.Foundations.Positions
import Zero3Pilot.Weixin.Approval

/-! # Approvals over whole runs

What the bridge has done is its log. The account of a log says which command is pending, how many
verifications have failed since the last one that succeeded, which commands have been authorised and
which have been performed. Over a run, every command that is performed has been authorised before, by a
text that verifies and comes in time; five failures are followed by ten minutes without a verification;
and nobody but the owner has any effect.

A command is authorised and not performed exactly where the confirmation of its code is not sent. A code
that comes when nothing is pending any more is a command like any other. -/

namespace Zero3Pilot.Weixin

open ApprovalSession (clearPending isExpired lockoutRemaining pendingExpired registerFailure)
open AuthorizationStore (configure)

/-! ## The account of a log -/

/-- What a log says: pending, failed, awaited, authorised and performed commands. -/
structure Account where
  pending : Option PendingApproval := none
  failures : Nat := 0
  asked : Bool := false
  authorised : List RemoteCommand := []
  performed : List RemoteCommand := []

namespace Account

def answered (account : Account) (command : RemoteCommand) (answeredAt : Nat) :
    Except String SubmitOutcome → Account
  | .ok (.approvalRequired _) => { account with pending := some ⟨command, answeredAt⟩, asked := true }
  | .ok _ => { account with asked := false }
  | .error _ => account

def verified (account : Account) (accepted : Bool) : Account :=
  if accepted then
    { account with
      pending := none
      failures := 0
      authorised := account.authorised ++ (account.pending.map PendingApproval.command).toList }
  else { account with failures := account.failures + 1 }

def record (account : Account) : Occurrence → Account
  | .sent _ _ _ _ => account
  | .withdrawn => { account with pending := none }
  | .verified verification => account.verified verification.accepted
  | .submitted command approved answer answeredAt =>
    if approved then { account with performed := account.performed ++ [command] }
    else account.answered command answeredAt answer

end Account

def accountOf (log : List Occurrence) : Account := log.foldl Account.record {}

@[simp] theorem accountOf_nil : accountOf [] = {} := rfl

@[simp] theorem accountOf_concat (log : List Occurrence) (occurrence : Occurrence) :
    accountOf (log ++ [occurrence]) = (accountOf log).record occurrence := by
  simp [accountOf]

/-! ## What is asked of approvals -/

/-- A verification after which the bridge is locked: the fifth failure in a row, the tenth, and so on. -/
def Locks (before : List Occurrence) (verification : Verification) : Prop :=
  verification.accepted = false ∧
    (accountOf (before ++ [.verified verification])).failures % maxAuthFailures = 0

/-- After a verification that locks, nothing is verified for ten minutes. -/
def Spaced (before : List Occurrence) (occurrence : Occurrence) : Prop :=
  ∀ next, occurrence = .verified next →
    Throughout (fun earlier past => ∀ verification, past = .verified verification →
      Locks earlier verification → verification.failedAt + authLockout ≤ next.checkedAt) before

/-- A verification that is accepted is one of the code, for the pending command and in time. -/
def Justified (salt code : String) (before : List Occurrence) (occurrence : Occurrence) : Prop :=
  ∀ verification, occurrence = .verified verification → verification.accepted = true →
    deriveHash verification.text salt = deriveHash code salt ∧
      ∃ pending, (accountOf before).pending = some pending ∧
        verification.startedAt - pending.createdAt < approvalTtl

/-- What has been performed are the first of the commands that have been authorised. -/
def Permitted (before : List Occurrence) (occurrence : Occurrence) : Prop :=
  (accountOf (before ++ [occurrence])).performed <+: (accountOf (before ++ [occurrence])).authorised

def IsCode (code : String) (message : WeixinMessage) : Prop := message.text.map trim = some code

instance (code : String) (message : WeixinMessage) : Decidable (IsCode code message) :=
  inferInstanceAs (Decidable (message.text.map trim = some code))

def Occurrence.prompt? : Occurrence → Option String
  | .submitted command false _ _ => some command.goal
  | _ => none

def prompts (occurrences : List Occurrence) : List String := occurrences.filterMap Occurrence.prompt?

def logOf (history : List (BridgeInput × List Occurrence)) : List Occurrence :=
  history.flatMap Prod.snd

/-- **What is asked of approvals**, over a history. -/
structure Lawful (bridge : Bridge) (salt code : String)
    (history : List (BridgeInput × List Occurrence)) : Prop where
  /-- A command is authorised by the code, while it is pending, in time. -/
  justified : Throughout (Justified salt code) (logOf history)
  permitted : Throughout Permitted (logOf history)
  performed : (accountOf (logOf history)).performed = (accountOf (logOf history)).authorised
  /-- Five failures are followed by ten minutes without a verification. -/
  spaced : Throughout Spaced (logOf history)
  owned : ∀ entry ∈ history, ∀ verification, .verified verification ∈ entry.2 →
    entry.1.message.fromUserId = bridge.owner ∧ IsCode verification.text entry.1.message ∧
      verification.startedAt = entry.1.surroundings.startedAt
  /-- The messages of others have no effect. -/
  strangers : ∀ state input, input.message.fromUserId ≠ bridge.owner →
    bridge.machine.step state input = ([], ⟨state.approval, state.log, input.surroundings.endedAt⟩)
  /-- The code is not submitted as a prompt between an approval request and the next command that is
  accepted. -/
  unspoken : Throughout (fun before entry => (accountOf (logOf before)).asked = true →
    IsCode code entry.1.message → code ∉ prompts entry.2) history

/-! ## What the handling of a message can do -/

def Occurrence.IsReply (occurrence : Occurrence) : Prop :=
  ∃ toUserId text contextToken outcome, occurrence = .sent toUserId text contextToken outcome

/-- A text is the code of the pending command, as far as the bridge can tell when it comes in. -/
structure Grants (bridge : Bridge) (approval : ApprovalSession) (surroundings : Surroundings)
    (trimmed : String) (pending : PendingApproval) : Prop where
  isPending : approval.pending = some pending
  inTime : surroundings.startedAt - pending.createdAt < approvalTtl
  notCancel : isCancel trimmed = false
  notCommand : startsWithPrefix trimmed = false
  unlocked : (approval.lockoutRemaining surroundings.checkedAt).1 = none
  verifies : bridge.store.verify trimmed = true

/-- The verification of a text, as it is logged. -/
def Surroundings.verification (surroundings : Surroundings) (trimmed : String) (accepted : Bool) :
    Verification :=
  ⟨trimmed, surroundings.startedAt, surroundings.checkedAt, surroundings.failedAt, accepted⟩

/-- How a text comes to be taken as a command: nothing waits, or what waited has waited too long. -/
inductive Opens (surroundings : Surroundings) (trimmed : String) (approval : ApprovalSession) :
    List Occurrence → Prop where
  | free (nothing : approval.pending = none) : Opens surroundings trimmed approval []
  | expired (late : approval.isExpired surroundings.startedAt = true)
      (noCode : looksLikeCode trimmed = false) : Opens surroundings trimmed approval [.withdrawn]

/-- **What the handling of a text can do** to the session, and what is then done. -/
inductive Served (bridge : Bridge) (surroundings : Surroundings) (trimmed : String)
    (approval : ApprovalSession) : ApprovalSession → List Occurrence → Prop where
  /-- A code comes too late. -/
  | late {reply : Occurrence} (isReply : reply.IsReply)
      (expired : approval.isExpired surroundings.startedAt = true) :
      Served bridge surroundings trimmed approval approval.clearPending [.withdrawn, reply]
  | cancelled {reply : Occurrence} (isReply : reply.IsReply) :
      Served bridge surroundings trimmed approval approval.clearPending [.withdrawn, reply]
  | waits {reply : Occurrence} (isReply : reply.IsReply) :
      Served bridge surroundings trimmed approval approval [reply]
  /-- A command waits, and its lockout may have passed. -/
  | unlocked {reply : Occurrence} (isReply : reply.IsReply) :
      Served bridge surroundings trimmed approval
        (approval.lockoutRemaining surroundings.checkedAt).2 [reply]
  /-- The code comes, and its confirmation is not sent. -/
  | dropped {reply : Occurrence} {pending : PendingApproval} {error : String} (isReply : reply.IsReply)
      (grants : Grants bridge approval surroundings trimmed pending)
      (failed : surroundings.confirmation = .error error) :
      Served bridge surroundings trimmed approval
        (approval.lockoutRemaining surroundings.checkedAt).2.registerSuccess.clearPending
        [.verified (surroundings.verification trimmed true), reply]
  /-- The code comes, and the command is performed. -/
  | granted {confirmation reply : Occurrence} {pending : PendingApproval}
      (isConfirmation : confirmation.IsReply) (isReply : reply.IsReply)
      (grants : Grants bridge approval surroundings trimmed pending) :
      Served bridge surroundings trimmed approval
        (approval.lockoutRemaining surroundings.checkedAt).2.registerSuccess.clearPending
        [.verified (surroundings.verification trimmed true), confirmation,
          .submitted pending.command true surroundings.submission surroundings.requestedAt, reply]
  /-- A wrong code comes. -/
  | refused {reply : Occurrence} (isReply : reply.IsReply)
      (unlocked : (approval.lockoutRemaining surroundings.checkedAt).1 = none) :
      Served bridge surroundings trimmed approval
        ((approval.lockoutRemaining surroundings.checkedAt).2.registerFailure
          surroundings.failedAt).2
        [.verified (surroundings.verification trimmed false), reply]
  /-- Nothing waits, and the text is no command. -/
  | unparsed {reply : Occurrence} {opening : List Occurrence} (isReply : reply.IsReply)
      (opens : Opens surroundings trimmed approval opening) :
      Served bridge surroundings trimmed approval approval.clearPending (opening ++ [reply])
  /-- Nothing waits, and the text is submitted; the answer asks for no approval. -/
  | submitted {reply : Occurrence} {opening : List Occurrence} {command : RemoteCommand}
      {said : String × String}
      (isReply : reply.IsReply) (opens : Opens surroundings trimmed approval opening)
      (parsed : parseUserMessage bridge.debugText trimmed bridge.defaultBackend = .ok said)
      (spoken : command.goal = said.2)
      (settled : ∀ reason, surroundings.submission ≠ .ok (.approvalRequired reason)) :
      Served bridge surroundings trimmed approval approval.clearPending
        (opening ++ [.submitted command false surroundings.submission surroundings.requestedAt] ++
          [reply])
  /-- Nothing waits, and the text is submitted; it begins to wait for the code. -/
  | asked {reply : Occurrence} {opening : List Occurrence} {command : RemoteCommand} {reason : String}
      {said : String × String}
      (isReply : reply.IsReply) (opens : Opens surroundings trimmed approval opening)
      (parsed : parseUserMessage bridge.debugText trimmed bridge.defaultBackend = .ok said)
      (spoken : command.goal = said.2)
      (required : surroundings.submission = .ok (.approvalRequired reason)) :
      Served bridge surroundings trimmed approval
        { approval with pending := some ⟨command, surroundings.requestedAt⟩ }
        (opening ++ [.submitted command false surroundings.submission surroundings.requestedAt] ++
          [reply])

section Handling

open Procedure Handler

variable {bridge : Bridge} {surroundings : Surroundings} {sender trimmed : String}
  {message : WeixinMessage} {approval : ApprovalSession} {handling : Handling}

theorem ensures_sendText {outcome : Except String Unit} {toUserId text : String}
    {contextToken : Option String} {returns : Unit → Handling → Prop}
    {throws : String → Handling → Prop}
    (sent : outcome = .ok () → ∀ reply : Occurrence, reply.IsReply →
      returns () ⟨handling.approval, handling.done ++ [reply]⟩)
    (failed : ∀ error, outcome = .error error → ∀ reply : Occurrence, reply.IsReply →
      throws error ⟨handling.approval, handling.done ++ [reply]⟩) :
    (sendText outcome toUserId text contextToken).Ensures returns throws handling := by
  have isReply : (Occurrence.sent toUserId text contextToken outcome).IsReply := ⟨_, _, _, _, rfl⟩
  simp only [sendText, note, ensures_bind, ensures_modify, ensures_ofExcept]
  exact ⟨fun _ same => sent same _ isReply, fun error same => failed error same _ isReply⟩

theorem ensures_reply {outcome : Except String Unit} {toUserId text : String}
    {contextToken : Option String} {Ends : Handling → Prop}
    (ends : ∀ reply : Occurrence, reply.IsReply → Ends ⟨handling.approval, handling.done ++ [reply]⟩) :
    (sendText outcome toUserId text contextToken).Ensures (fun _ => Ends)
      (fun _ => Ends) handling :=
  ensures_sendText (fun _ => ends) fun _ _ => ends

theorem ensures_submitAgent {command : RemoteCommand} {approved : Bool}
    {returns : Except String SubmitOutcome → Handling → Prop} {throws : String → Handling → Prop}
    (submitted : returns surroundings.submission ⟨handling.approval, handling.done ++
      [.submitted command approved surroundings.submission surroundings.requestedAt]⟩) :
    (submitAgent surroundings command approved).Ensures returns throws handling := by
  simpa only [submitAgent, note, ensures_bind, ensures_modify, ensures_pure] using submitted

theorem ensures_executeAndReply {command : RemoteCommand} {approved : Bool} {Ends : Handling → Prop}
    (ends : ∀ reply : Occurrence, reply.IsReply → Ends ⟨handling.approval, handling.done ++
      [.submitted command approved surroundings.submission surroundings.requestedAt] ++ [reply]⟩) :
    (executeAndReply surroundings command approved).Ensures (fun _ => Ends)
      (fun _ => Ends) handling := by
  simp only [executeAndReply, submitAndWait, ensures_bind]
  apply ensures_submitAgent
  split
  all_goals
    rw [ensures_pure]
    exact ensures_reply ends

def Ended (bridge : Bridge) (surroundings : Surroundings) (trimmed : String)
    (approval : ApprovalSession) (after : Handling) : Prop :=
  Served bridge surroundings trimmed approval after.approval after.done

theorem ensures_verifyCode {pending : PendingApproval} (isPending : approval.pending = some pending)
    (inTime : surroundings.startedAt - pending.createdAt < approvalTtl)
    (notCancel : isCancel trimmed = false) (notCommand : startsWithPrefix trimmed = false)
    (unlocked : (approval.lockoutRemaining surroundings.checkedAt).1 = none) :
    (verifyCode surroundings bridge sender trimmed message pending).Ensures
      (fun _ => Ended bridge surroundings trimmed approval)
      (fun _ => Ended bridge surroundings trimmed approval)
      ⟨(approval.lockoutRemaining surroundings.checkedAt).2, []⟩ := by
  simp only [verifyCode, note, setApproval, ensures_bind, ensures_read, ensures_modify, ensures_ite]
  constructor
  · intro verifies
    have grants : Grants bridge approval surroundings trimmed pending :=
      ⟨isPending, inTime, notCancel, notCommand, unlocked, verifies⟩
    rw [verifies]
    apply ensures_sendText
    · intro _ confirmation isConfirmation
      apply ensures_executeAndReply
      intro reply isReply
      exact .granted isConfirmation isReply grants
    · intro error failed confirmation isConfirmation
      exact .dropped isConfirmation grants failed
  · intro wrong
    rw [Bool.not_eq_true] at wrong
    rw [wrong]
    apply ensures_reply
    intro reply isReply
    exact .refused isReply unlocked

theorem ensures_answerPending {pending : PendingApproval}
    (isPending : approval.pending = some pending)
    (inTime : surroundings.startedAt - pending.createdAt < approvalTtl) :
    (answerPending surroundings bridge sender trimmed message pending).Ensures
      (fun _ => Ended bridge surroundings trimmed approval)
      (fun _ => Ended bridge surroundings trimmed approval) ⟨approval, []⟩ := by
  simp only [answerPending, note, setApproval, ensures_bind, ensures_read, ensures_modify, ensures_ite]
  refine ⟨fun _ => ?_, fun notCancel => ⟨fun _ => ?_, fun notCommand => ?_⟩⟩
  · exact ensures_reply fun reply isReply => .cancelled isReply
  · exact ensures_reply fun reply isReply => .waits isReply
  · rw [Bool.not_eq_true] at notCancel notCommand
    cases unlocked : (approval.lockoutRemaining surroundings.checkedAt).1 with
    | some remaining =>
      dsimp only
      exact ensures_reply fun reply isReply => .unlocked isReply
    | none =>
      dsimp only
      rw [ensures_ite]
      constructor
      · intro _
        exact ensures_verifyCode isPending inTime notCancel notCommand unlocked
      · intro _
        exact ensures_reply fun reply isReply => .unlocked isReply

theorem ensures_submitCommand {opening : List Occurrence}
    (opens : Opens surroundings trimmed approval opening) :
    (submitCommand surroundings bridge sender trimmed message).Ensures
      (fun _ => Ended bridge surroundings trimmed approval)
      (fun _ => Ended bridge surroundings trimmed approval) ⟨approval.clearPending, opening⟩ := by
  unfold submitCommand
  cases parsed : parseUserMessage bridge.debugText trimmed bridge.defaultBackend with
  | error error => exact ensures_reply fun reply isReply => .unparsed isReply opens
  | ok command =>
    dsimp only
    rw [ensures_bind]
    apply ensures_submitAgent
    split
    · rename_i error answer
      exact ensures_reply fun reply isReply =>
        .submitted isReply opens parsed rfl (by simp [answer])
    · rename_i jobId answer
      exact ensures_reply fun reply isReply =>
        .submitted isReply opens parsed rfl (by simp [answer])
    · rename_i value answer
      exact ensures_reply fun reply isReply =>
        .submitted isReply opens parsed rfl (by simp [answer])
    · rename_i reason answer
      simp only [setApproval, ensures_bind, ensures_read, ensures_modify]
      exact ensures_reply fun reply isReply => .asked isReply opens parsed rfl answer

theorem isExpired_of_pending {pending : PendingApproval} {now : Nat}
    (isPending : approval.pending = some pending) (fresh : approval.isExpired now = false) :
    now - pending.createdAt < approvalTtl := by
  simpa [isExpired, isPending] using fresh

theorem clearPending_of_none (nothing : approval.pending = none) :
    approval.clearPending = approval := by
  cases approval
  simp_all [clearPending]

/-- **What the handling of a text does** is one of the things it can do. -/
theorem handleText_served : (handleText surroundings bridge sender trimmed message).Ensures
      (fun _ => Ended bridge surroundings trimmed approval)
      (fun _ => Ended bridge surroundings trimmed approval) ⟨approval, []⟩ := by
  simp only [handleText, setApproval, ensures_bind, ensures_read, ensures_modify]
  cases expired : approval.isExpired surroundings.startedAt with
  | true =>
    simp only [pendingExpired, expired, if_true, Bool.true_and, note, ensures_bind,
      ensures_modify, ensures_ite, List.nil_append]
    constructor
    · intro _
      exact ensures_reply fun reply isReply => .late isReply expired
    · intro noCode
      exact ensures_submitCommand (.expired expired (by simpa using noCode))
  | false =>
    simp only [pendingExpired, expired, Bool.false_eq_true, if_false, Bool.false_and]
    cases isPending : approval.pending with
    | some pending => exact ensures_answerPending isPending (isExpired_of_pending isPending expired)
    | none =>
      have served : (submitCommand surroundings bridge sender trimmed message).Ensures
          (fun _ => Ended bridge surroundings trimmed approval)
          (fun _ => Ended bridge surroundings trimmed approval) ⟨approval.clearPending, []⟩ :=
        ensures_submitCommand (.free isPending)
      rwa [clearPending_of_none isPending] at served

end Handling

/-! ## What every occurrence keeps -/

section Keeping

variable {bridge : Bridge} {salt code : String} {owed : List RemoteCommand}
  {approval : ApprovalSession} {log : List Occurrence} {clock : Nat}

def Awaited (approval : ApprovalSession) (clock : Nat) (verification : Verification) : Prop :=
  verification.failedAt + authLockout ≤ clock ∨
    ∃ deadline, approval.lockedUntil = some deadline ∧ verification.failedAt + authLockout ≤ deadline

/-- **What every occurrence keeps**: the session is what the log says, and what has been authorised has
been performed, but for what is `owed`. -/
structure Kept (salt code : String) (owed : List RemoteCommand)
    (approval : ApprovalSession) (log : List Occurrence) (clock : Nat) : Prop where
  pending : (accountOf log).pending = approval.pending
  attempts : approval.failedAttempts = (accountOf log).failures % maxAuthFailures
  unlocked : approval.lockedUntil ≠ none → approval.failedAttempts = 0
  awaited : Throughout (fun earlier past => ∀ verification, past = .verified verification →
    Locks earlier verification → Awaited approval clock verification) log
  balance : (accountOf log).authorised = (accountOf log).performed ++ owed
  justified : Throughout (Justified salt code) log
  permitted : Throughout Permitted log
  spaced : Throughout Spaced log

section

variable (kept : Kept salt code owed approval log clock)
include kept

theorem Kept.later {now : Nat} (passed : clock ≤ now) : Kept salt code owed approval log now := by
  refine { kept with awaited := kept.awaited.mono ?_ }
  intro earlier past awaited verification same locks
  obtain elapsed | locked := awaited verification same locks
  · exact .inl (elapsed.trans passed)
  · exact .inr locked

theorem Kept.passes {approval' : ApprovalSession} {occurrence : Occurrence}
    (noVerification : ∀ verification, occurrence ≠ .verified verification)
    (authorised : ((accountOf log).record occurrence).authorised = (accountOf log).authorised)
    (performed : ((accountOf log).record occurrence).performed = (accountOf log).performed)
    (failures : ((accountOf log).record occurrence).failures = (accountOf log).failures)
    (pending : ((accountOf log).record occurrence).pending = approval'.pending)
    (sameAttempts : approval'.failedAttempts = approval.failedAttempts)
    (sameLock : approval'.lockedUntil = approval.lockedUntil) :
    Kept salt code owed approval' (log ++ [occurrence]) clock where
  pending := by rw [accountOf_concat, pending]
  attempts := by rw [accountOf_concat, failures, sameAttempts, kept.attempts]
  unlocked := by
    rw [sameLock, sameAttempts]
    exact kept.unlocked
  awaited := by
    rw [throughout_concat]
    constructor
    · simpa only [Awaited, sameLock] using kept.awaited
    · intro verification same
      exact absurd same (noVerification verification)
  balance := by rw [accountOf_concat, authorised, performed, kept.balance]
  justified := throughout_concat.2 ⟨kept.justified, fun verification same =>
    absurd same (noVerification verification)⟩
  permitted := by
    refine throughout_concat.2 ⟨kept.permitted, ?_⟩
    rw [Permitted, accountOf_concat, authorised, performed, kept.balance]
    exact List.prefix_append _ _
  spaced := throughout_concat.2 ⟨kept.spaced, fun verification same =>
    absurd same (noVerification verification)⟩

theorem Kept.replied {reply : Occurrence}
    (isReply : reply.IsReply) : Kept salt code owed approval (log ++ [reply]) clock := by
  obtain ⟨toUserId, text, contextToken, outcome, rfl⟩ := isReply
  exact kept.passes (by simp) rfl rfl rfl kept.pending rfl rfl

theorem Kept.withdrawn : Kept salt code owed approval.clearPending (log ++ [.withdrawn]) clock :=
  kept.passes (by simp) rfl rfl rfl rfl rfl rfl

theorem Kept.answered {command : RemoteCommand} {answer : Except String SubmitOutcome}
    {answeredAt : Nat}
    (settled : ∀ reason, answer ≠ .ok (.approvalRequired reason)) :
    Kept salt code owed approval (log ++ [.submitted command false answer answeredAt])
      clock := by
  have same : (accountOf log).answered command answeredAt answer = accountOf log ∨
      (accountOf log).answered command answeredAt answer = { accountOf log with asked := false } := by
    cases answer with
    | error error => exact .inl rfl
    | ok outcome =>
      cases outcome with
      | accepted jobId => exact .inr rfl
      | completed value => exact .inr rfl
      | approvalRequired reason => exact absurd rfl (settled reason)
  apply kept.passes (by simp)
  all_goals simp only [Account.record, Bool.false_eq_true, if_false]
  all_goals obtain same | same := same
  all_goals rw [same]
  all_goals exact kept.pending

theorem Kept.asked {command : RemoteCommand} {reason : String} {answeredAt : Nat} :
    Kept salt code owed { approval with pending := some ⟨command, answeredAt⟩ }
      (log ++ [.submitted command false (.ok (.approvalRequired reason)) answeredAt]) clock :=
  kept.passes (by simp) rfl rfl rfl rfl rfl rfl

end

theorem Kept.performed {command : RemoteCommand} {answer : Except String SubmitOutcome}
    {answeredAt : Nat} (kept : Kept salt code [command] approval log clock) :
    Kept salt code [] approval (log ++ [.submitted command true answer answeredAt]) clock where
  pending := by simpa [Account.record] using kept.pending
  attempts := by simpa [Account.record] using kept.attempts
  unlocked := kept.unlocked
  awaited := throughout_concat.2 ⟨kept.awaited, fun _ same => by simp at same⟩
  balance := by simpa [Account.record] using kept.balance
  justified := throughout_concat.2 ⟨kept.justified, fun _ same => by simp at same⟩
  permitted := by
    refine throughout_concat.2 ⟨kept.permitted, ?_⟩
    simp [Permitted, Account.record, kept.balance]
  spaced := throughout_concat.2 ⟨kept.spaced, fun _ same => by simp at same⟩

theorem Kept.lockout (kept : Kept salt code owed approval log clock) :
    Kept salt code owed (approval.lockoutRemaining clock).2 log clock := by
  unfold lockoutRemaining
  cases locked : approval.lockedUntil with
  | none => exact kept
  | some deadline =>
    dsimp only
    split
    · rename_i passed
      refine { kept with attempts := ?_, unlocked := fun _ => rfl, awaited := ?_ }
      · rw [← kept.attempts, kept.unlocked (by simp [locked])]
      · refine kept.awaited.mono ?_
        intro earlier past awaited verification same locks
        obtain elapsed | ⟨until', locked', within⟩ := awaited verification same locks
        · exact .inl elapsed
        · rw [locked, Option.some.injEq] at locked'
          exact .inl (within.trans (locked' ▸ passed))
    · exact kept

theorem Kept.spaced_next (kept : Kept salt code owed approval log clock)
    (unlocked : approval.lockedUntil = none) {verification : Verification}
    (checkedAt : verification.checkedAt = clock) : Spaced log (.verified verification) := by
  intro next same
  cases same
  refine kept.awaited.mono ?_
  intro earlier past awaited verification' same locks
  obtain elapsed | ⟨deadline, locked, -⟩ := awaited verification' same locks
  · rw [checkedAt]
    exact elapsed
  · rw [unlocked] at locked
    cases locked

theorem Kept.granted {pending : PendingApproval} {verification : Verification}
    (kept : Kept salt code [] approval log clock)
    (isPending : approval.pending = some pending) (unlocked : approval.lockedUntil = none)
    (checkedAt : verification.checkedAt = clock) (accepted : verification.accepted = true)
    (inTime : verification.startedAt - pending.createdAt < approvalTtl)
    (hashes : deriveHash verification.text salt = deriveHash code salt) :
    Kept salt code [pending.command] approval.registerSuccess.clearPending
      (log ++ [.verified verification]) clock where
  pending := by simp [Account.record, Account.verified, accepted, clearPending]
  attempts := by
    simp [Account.record, Account.verified, accepted, clearPending, ApprovalSession.registerSuccess]
  unlocked := fun _ => rfl
  awaited := by
    refine throughout_concat.2 ⟨kept.awaited.mono ?_, ?_⟩
    · intro earlier past awaited verification' same locks
      obtain elapsed | ⟨deadline, locked, -⟩ := awaited verification' same locks
      · exact .inl elapsed
      · rw [unlocked] at locked
        cases locked
    · intro verification' same locks
      cases same
      rw [locks.1] at accepted
      cases accepted
  balance := by
    simp [Account.record, Account.verified, accepted, kept.balance, kept.pending, isPending]
  justified := by
    refine throughout_concat.2 ⟨kept.justified, ?_⟩
    intro verification' same _
    cases same
    exact ⟨hashes, pending, kept.pending.trans isPending, inTime⟩
  permitted := by
    refine throughout_concat.2 ⟨kept.permitted, ?_⟩
    simp [Permitted, Account.record, Account.verified, accepted, kept.balance]
  spaced := throughout_concat.2 ⟨kept.spaced, kept.spaced_next unlocked checkedAt⟩

theorem registerFailure_attempts {failures : Nat} (now : Nat)
    (attempts : approval.failedAttempts = failures % maxAuthFailures) :
    (approval.registerFailure now).2.failedAttempts = (failures + 1) % maxAuthFailures ∧
      ((failures + 1) % maxAuthFailures = 0 →
        (approval.registerFailure now).2.lockedUntil = some (now + authLockout)) := by
  unfold registerFailure
  rw [show maxAuthFailures = 5 from rfl] at attempts ⊢
  by_cases full : 5 ≤ min (approval.failedAttempts + 1) 255
  · rw [if_pos full]
    have wraps : 0 = (failures + 1) % 5 := by omega
    exact ⟨wraps, fun _ => rfl⟩
  · rw [if_neg full]
    have counts : min (approval.failedAttempts + 1) 255 = (failures + 1) % 5 := by omega
    exact ⟨counts, by omega⟩

theorem Kept.refused {now : Nat} {verification : Verification}
    (kept : Kept salt code owed approval log clock)
    (unlocked : approval.lockedUntil = none) (checkedAt : verification.checkedAt = clock)
    (failedAt : verification.failedAt = now) (refused : verification.accepted = false) :
    Kept salt code owed (approval.registerFailure now).2 (log ++ [.verified verification])
      clock where
  pending := by
    rw [registerFailure]
    split <;> simpa [Account.record, Account.verified, refused] using kept.pending
  attempts := by
    have attempts := (registerFailure_attempts now kept.attempts).1
    simpa [Account.record, Account.verified, refused] using attempts
  unlocked := by
    rw [registerFailure]
    split
    · exact fun _ => rfl
    · exact fun locked => absurd unlocked locked
  awaited := by
    refine throughout_concat.2 ⟨kept.awaited.mono ?_, ?_⟩
    · intro earlier past awaited verification' same locks
      obtain elapsed | ⟨deadline, locked, -⟩ := awaited verification' same locks
      · exact .inl elapsed
      · rw [unlocked] at locked
        cases locked
    · intro verification' same locks
      cases same
      have wraps := locks.2
      simp only [accountOf_concat, Account.record, Account.verified, refused, Bool.false_eq_true,
        if_false] at wraps
      have locked := (registerFailure_attempts now kept.attempts).2 wraps
      exact .inr ⟨now + authLockout, locked, by rw [failedAt]⟩
  balance := by simpa [Account.record, Account.verified, refused] using kept.balance
  justified := by
    refine throughout_concat.2 ⟨kept.justified, ?_⟩
    intro verification' same accepted
    cases same
    rw [refused] at accepted
    cases accepted
  permitted := by
    refine throughout_concat.2 ⟨kept.permitted, ?_⟩
    simp [Permitted, Account.record, Account.verified, refused, kept.balance]
  spaced := throughout_concat.2 ⟨kept.spaced, kept.spaced_next unlocked checkedAt⟩

theorem Kept.checked {surroundings : Surroundings} (kept : Kept salt code owed approval log clock)
    (inTime : clock ≤ surroundings.startedAt) :
    Kept salt code owed (approval.lockoutRemaining surroundings.checkedAt).2 log
      surroundings.checkedAt :=
  (kept.later (inTime.trans surroundings.checked_later)).lockout

theorem lockoutRemaining_pending (approval : ApprovalSession) (now : Nat) :
    (approval.lockoutRemaining now).2.pending = approval.pending := by
  unfold lockoutRemaining
  split
  · rfl
  · split <;> rfl

theorem lockedUntil_of_unlocked {now : Nat} (unlocked : (approval.lockoutRemaining now).1 = none) :
    (approval.lockoutRemaining now).2.lockedUntil = none := by
  unfold lockoutRemaining at unlocked ⊢
  split
  · assumption
  · split
    · rfl
    · simp_all

variable {surroundings : Surroundings} {trimmed : String} {opening : List Occurrence}

theorem checked_le_ended : surroundings.checkedAt ≤ surroundings.endedAt :=
  surroundings.failed_later.trans (Nat.le_max_left _ _)

theorem started_le_ended : surroundings.startedAt ≤ surroundings.endedAt :=
  surroundings.checked_later.trans checked_le_ended

theorem Kept.opens (kept : Kept salt code owed approval log clock)
    (opens : Opens surroundings trimmed approval opening) :
    Kept salt code owed approval.clearPending (log ++ opening) clock := by
  cases opens with
  | free nothing => rwa [List.append_nil, clearPending_of_none nothing]
  | expired _ _ => exact kept.withdrawn

theorem Kept.grants {pending : PendingApproval}
    (configured : configure salt code = .ok bridge.store)
    (kept : Kept salt code [] approval log clock) (inTime : clock ≤ surroundings.startedAt)
    (grants : Grants bridge approval surroundings trimmed pending) :
    Kept salt code [pending.command]
      (approval.lockoutRemaining surroundings.checkedAt).2.registerSuccess.clearPending
      (log ++ [.verified (surroundings.verification trimmed true)]) surroundings.checkedAt :=
  (kept.checked inTime).granted ((lockoutRemaining_pending _ _).trans grants.isPending)
    (lockedUntil_of_unlocked grants.unlocked) rfl rfl grants.inTime
    ((verify_configured configured trimmed).1 grants.verifies)

/-- **The handling of a text keeps the invariant**, unless it drops an authorised command. -/
theorem Kept.served {approval' : ApprovalSession} {occurrences : List Occurrence}
    (configured : configure salt code = .ok bridge.store)
    (kept : Kept salt code [] approval log clock) (inTime : clock ≤ surroundings.startedAt)
    (confirmed : ∀ pending, Grants bridge approval surroundings trimmed pending →
      surroundings.confirmation = .ok ())
    (served : Served bridge surroundings trimmed approval approval' occurrences) :
    Kept salt code [] approval' (log ++ occurrences) surroundings.endedAt := by
  have began := kept.later inTime
  cases served with
  | late isReply _ =>
    rw [List.append_cons]
    exact (began.withdrawn.replied isReply).later started_le_ended
  | cancelled isReply =>
    rw [List.append_cons]
    exact (began.withdrawn.replied isReply).later started_le_ended
  | waits isReply => exact (began.replied isReply).later started_le_ended
  | unlocked isReply => exact ((kept.checked inTime).replied isReply).later checked_le_ended
  | dropped _ grants failed =>
    rw [confirmed _ grants] at failed
    cases failed
  | granted isConfirmation isReply grants =>
    rw [List.append_cons, List.append_cons, List.append_cons]
    have owed := (kept.grants configured inTime grants).replied isConfirmation
    exact (owed.performed.replied isReply).later checked_le_ended
  | refused isReply unlocked =>
    rw [List.append_cons]
    have checkedAt : (surroundings.verification trimmed false).checkedAt = surroundings.checkedAt := rfl
    have refused := (kept.checked inTime).refused (lockedUntil_of_unlocked unlocked) checkedAt rfl rfl
    exact (refused.replied isReply).later checked_le_ended
  | unparsed isReply opens =>
    rw [← List.append_assoc]
    exact ((began.opens opens).replied isReply).later started_le_ended
  | submitted isReply opens _ _ settled =>
    rw [← List.append_assoc, ← List.append_assoc]
    exact (((began.opens opens).answered settled).replied isReply).later started_le_ended
  | asked isReply opens _ _ required =>
    rw [required, ← List.append_assoc, ← List.append_assoc]
    exact (((began.opens opens).asked).replied isReply).later started_le_ended

end Keeping

/-! ## Runs -/

section Runs

variable {bridge : Bridge} {salt code : String}

/-- **The condition on a step**: the confirmation of the pending command's code is sent, and a code is not
taken for a command. -/
structure Met (bridge : Bridge) (code : String) (state : BridgeState) (input : BridgeInput) : Prop where
  inTime : state.InTime input
  confirmed : ∀ sender trimmed pending, bridge.said input.message = some (sender, trimmed) →
    Grants bridge state.approval input.surroundings trimmed pending →
      input.surroundings.confirmation = .ok ()
  pending : (accountOf state.log).asked = true → IsCode code input.message →
    (∃ backend, parseUserMessage bridge.debugText code bridge.defaultBackend = .ok (backend, code)) →
      state.approval.pending ≠ none

theorem said_some {message : WeixinMessage} {said : String × String}
    (isSaid : bridge.said message = some said) :
    message.fromUserId = bridge.owner ∧ IsCode said.2 message := by
  unfold Bridge.said at isSaid
  cases sender : message.fromUserId with
  | none => simp [sender] at isSaid
  | some sender' =>
    rw [sender] at isSaid
    dsimp only at isSaid
    by_cases stranger : bridge.owner ≠ some sender'
    · simp [stranger] at isSaid
    · rw [if_neg stranger, Option.map_eq_some_iff] at isSaid
      obtain ⟨text, isText, rfl⟩ := isSaid
      exact ⟨(not_not.1 stranger).symm, by simp [IsCode, isText]⟩

/-- **What a step can do**: nothing, or what the handling of the owner's text can do. -/
theorem step_cases (bridge : Bridge) (state : BridgeState) (input : BridgeInput) :
    ((bridge.machine.step state input).1 = [] ∧
        (bridge.machine.step state input).2.approval = state.approval) ∨
      ∃ said, bridge.said input.message = some said ∧
        Served bridge input.surroundings said.2 state.approval
          (bridge.machine.step state input).2.approval (bridge.machine.step state input).1 := by
  cases isSaid : bridge.said input.message with
  | none =>
    left
    simp [Bridge.machine, handleMessage, isSaid, pure]
  | some said =>
    right
    have ensured : (handleText input.surroundings bridge said.1 said.2 input.message).Ensures
        (fun _ => Ended bridge input.surroundings said.2 state.approval)
        (fun _ => Ended bridge input.surroundings said.2 state.approval) ⟨state.approval, []⟩ :=
      handleText_served
    have served := Procedure.ensures_state.1 ensured
    refine ⟨said, rfl, ?_⟩
    simpa only [Bridge.machine, handleMessage, isSaid, Ended] using served

section Served

variable {surroundings : Surroundings} {trimmed : String} {approval approval' : ApprovalSession}
  {occurrences opening : List Occurrence} {reply : Occurrence} {verification : Verification}
  {command : RemoteCommand} {answer : Except String SubmitOutcome} {answeredAt : Nat}

theorem Occurrence.IsReply.ne_verified (isReply : reply.IsReply) : .verified verification ≠ reply := by
  obtain ⟨toUserId, text, contextToken, outcome, rfl⟩ := isReply
  simp

theorem Occurrence.IsReply.ne_submitted {approved : Bool} (isReply : reply.IsReply) :
    .submitted command approved answer answeredAt ≠ reply := by
  obtain ⟨toUserId, text, contextToken, outcome, rfl⟩ := isReply
  simp

section

variable (opens : Opens surroundings trimmed approval opening)
include opens

theorem Opens.eq : opening = [] ∨ opening = [.withdrawn] := by
  cases opens with
  | free _ => exact .inl rfl
  | expired _ _ => exact .inr rfl

theorem Opens.free_or_noCode : approval.pending = none ∨ looksLikeCode trimmed = false := by
  cases opens with
  | free nothing => exact .inl nothing
  | expired _ noCode => exact .inr noCode

theorem Opens.submits {other : RemoteCommand} {answer' : Except String SubmitOutcome}
    {answeredAt' : Nat}
    (isReply : reply.IsReply)
    (member : .submitted command false answer answeredAt ∈
      opening ++ [.submitted other false answer' answeredAt'] ++ [reply]) : command = other := by
  obtain rfl | rfl := opens.eq
  all_goals
    simp only [List.nil_append, List.cons_append, List.mem_cons, Occurrence.submitted.injEq,
      isReply.ne_submitted, List.not_mem_nil, reduceCtorEq, false_or, or_false] at member
    exact member.1

end

theorem Served.verified (served : Served bridge surroundings trimmed approval approval' occurrences)
    (member : .verified verification ∈ occurrences) :
    verification.text = trimmed ∧ verification.startedAt = surroundings.startedAt := by
  cases served with
  | late isReply _ | cancelled isReply | waits isReply | unlocked isReply =>
    simp [isReply.ne_verified] at member
  | dropped isReply _ _ | refused isReply _ =>
    simp only [List.mem_cons, Occurrence.verified.injEq, isReply.ne_verified, List.not_mem_nil,
      or_false] at member
    exact member ▸ ⟨rfl, rfl⟩
  | granted isConfirmation isReply _ =>
    simp only [List.mem_cons, Occurrence.verified.injEq, isConfirmation.ne_verified,
      isReply.ne_verified, List.not_mem_nil, reduceCtorEq, or_false] at member
    exact member ▸ ⟨rfl, rfl⟩
  | unparsed isReply opens | submitted isReply opens _ _ _ | asked isReply opens _ _ _ =>
    obtain rfl | rfl := opens.eq <;> simp [isReply.ne_verified] at member

theorem mem_prompts {prompt : String} (isPrompt : prompt ∈ prompts occurrences) :
    ∃ command answer answeredAt, .submitted command false answer answeredAt ∈ occurrences ∧
      command.goal = prompt := by
  obtain ⟨occurrence, member, same⟩ := List.mem_filterMap.1 isPrompt
  cases occurrence with
  | submitted command approved answer answeredAt =>
    cases approved with
    | true => simp [Occurrence.prompt?] at same
    | false => exact ⟨command, answer, answeredAt, member, Option.some.inj same⟩
  | sent _ _ _ _ | withdrawn | verified _ => simp [Occurrence.prompt?] at same

/-- A text is submitted when nothing waits, or what waited has waited too long and the text is no code. -/
theorem Served.prompted {prompt : String}
    (served : Served bridge surroundings trimmed approval approval' occurrences)
    (isPrompt : prompt ∈ prompts occurrences) :
    (approval.pending = none ∨ looksLikeCode trimmed = false) ∧
      ∃ backend, parseUserMessage bridge.debugText trimmed bridge.defaultBackend =
        .ok (backend, prompt) := by
  obtain ⟨command, answer, answeredAt, member, rfl⟩ := mem_prompts isPrompt
  cases served with
  | late isReply _ | cancelled isReply | waits isReply | unlocked isReply | dropped isReply _ _
  | refused isReply _ =>
    simp [isReply.ne_submitted] at member
  | granted isConfirmation isReply _ =>
    simp [isConfirmation.ne_submitted, isReply.ne_submitted] at member
  | unparsed isReply opens => obtain rfl | rfl := opens.eq <;> simp [isReply.ne_submitted] at member
  | submitted isReply opens parsed spoken _ | asked isReply opens parsed spoken _ =>
    rw [opens.submits isReply member, spoken]
    exact ⟨opens.free_or_noCode, _, parsed⟩

end Served

structure Going (bridge : Bridge) (salt code : String) (history : List (BridgeInput × List Occurrence))
    (state : BridgeState) : Prop where
  logged : state.log = logOf history
  kept : Kept salt code [] state.approval state.log state.clock
  lawful : Lawful bridge salt code history

theorem strangers_ignored (state : BridgeState) (input : BridgeInput)
    (stranger : input.message.fromUserId ≠ bridge.owner) :
    bridge.machine.step state input = ([], ⟨state.approval, state.log, input.surroundings.endedAt⟩) := by
  have unsaid : bridge.said input.message = none := by
    cases isSaid : bridge.said input.message with
    | none => rfl
    | some said => exact absurd (said_some isSaid).1 stranger
  simp [Bridge.machine, handleMessage, unsaid, pure]

theorem Going.start (clock : Nat) : Going bridge salt code [] (BridgeState.start clock) where
  logged := rfl
  kept :=
    { pending := rfl, attempts := rfl, unlocked := fun _ => rfl, awaited := throughout_nil
      balance := rfl, justified := throughout_nil, permitted := throughout_nil
      spaced := throughout_nil }
  lawful :=
    { justified := throughout_nil, permitted := throughout_nil, performed := rfl
      spaced := throughout_nil, owned := by simp, strangers := strangers_ignored
      unspoken := throughout_nil }

theorem logOf_concat (history : List (BridgeInput × List Occurrence))
    (entry : BridgeInput × List Occurrence) : logOf (history ++ [entry]) = logOf history ++ entry.2 := by
  simp [logOf]

/-- **A step that meets the condition keeps the law.** -/
theorem Going.step {history : List (BridgeInput × List Occurrence)} {state : BridgeState}
    {input : BridgeInput}
    (configured : configure salt code = .ok bridge.store)
    (going : Going bridge salt code history state) (met : Met bridge code state input) :
    Going bridge salt code (history ++ [(input, (bridge.machine.step state input).1)])
      (bridge.machine.step state input).2 := by
  have logged : (bridge.machine.step state input).2.log =
      logOf (history ++ [(input, (bridge.machine.step state input).1)]) := by
    rw [logOf_concat, ← going.logged]
    rfl
  have kept : Kept salt code [] (bridge.machine.step state input).2.approval
      (bridge.machine.step state input).2.log (bridge.machine.step state input).2.clock := by
    show Kept _ _ _ _ (state.log ++ (bridge.machine.step state input).1) input.surroundings.endedAt
    obtain ⟨nothing, same⟩ | ⟨said, isSaid, served⟩ := step_cases bridge state input
    · rw [nothing, same, List.append_nil]
      exact going.kept.later (met.inTime.trans started_le_ended)
    · exact going.kept.served configured met.inTime
        (fun pending => met.confirmed said.1 said.2 pending isSaid) served
  refine ⟨logged, kept, ?_⟩
  rw [logged] at kept
  refine ⟨kept.justified, kept.permitted, by simpa using kept.balance.symm, kept.spaced, ?_,
    strangers_ignored, ?_⟩
  · intro entry member verification verified
    obtain member | newest := List.mem_append.1 member
    · exact going.lawful.owned entry member verification verified
    · rw [List.mem_singleton] at newest
      subst newest
      obtain ⟨nothing, -⟩ | ⟨said, isSaid, served⟩ := step_cases bridge state input
      · simp [nothing] at verified
      · obtain ⟨text, startedAt⟩ := served.verified verified
        obtain ⟨owner, isCode⟩ := said_some isSaid
        exact ⟨owner, text ▸ isCode, startedAt⟩
  · refine throughout_concat.2 ⟨going.lawful.unspoken, ?_⟩
    intro asked isCode isPrompt
    obtain ⟨nothing, -⟩ | ⟨said, isSaid, served⟩ := step_cases bridge state input
    · simp [nothing, prompts] at isPrompt
    · -- the text is the code; a code is a command only when nothing waits
      have sameText : said.2 = code := Option.some.inj ((said_some isSaid).2.symm.trans isCode)
      obtain ⟨notPending, backend, parsed⟩ := served.prompted isPrompt
      rw [sameText] at notPending parsed
      have pending := met.pending (going.logged ▸ asked) isCode ⟨backend, parsed⟩
      obtain nothing | noCode := notPending
      · exact pending nothing
      · simp [looksLikeCode, valid_of_configured configured, Except.isOk, Except.toBool] at noCode

/-- **The law of approvals** holds in every run whose steps meet the condition. -/
theorem approvals_lawful {clock : Nat} {history : List (BridgeInput × List Occurrence)}
    {state : BridgeState}
    (configured : configure salt code = .ok bridge.store)
    (run : bridge.machine.Run (Met bridge code) (BridgeState.start clock) history state) :
    Lawful bridge salt code history := by
  have going : Going bridge salt code history state :=
    run.invariant (Going bridge salt code) (Going.start clock)
      fun _ _ _ going met => going.step configured met
  exact going.lawful

end Runs

/-! ## Runs that break the law -/

namespace Demonstration

def salt : String := "0c5f7d0e-5b0e-4a8e-9d0a-3c1b9f6a2e47"
def code : String := "839201"

/-- A bridge whose code has been configured. -/
def bridge : Bridge where
  debugText text := "\"" ++ text ++ "\""
  store := ⟨some ⟨authRecordVersion, salt, deriveHash code salt⟩⟩
  owner := some "owner"
  defaultBackend := "zero3"

theorem configured : configure salt code = .ok bridge.store := by
  have valid : validateCode code = .ok () := by decide +kernel
  rw [configure, valid]
  rfl

def message (second : Nat) (text : String) (answer : Except String SubmitOutcome) : BridgeInput where
  message := ⟨none, some "owner", none, none, [⟨some (some text), none⟩]⟩
  surroundings :=
    { startedAt := second * nanosPerSecond
      checkedAt := second * nanosPerSecond
      failedAt := second * nanosPerSecond
      requestedAt := second * nanosPerSecond
      confirmation := .ok ()
      reply := .ok ()
      submission := answer
      job := .ok .null
      checked_later := Nat.le_refl _
      failed_later := Nat.le_refl _
      requested_later := Nat.le_refl _ }

/-- A command needs an approval; the owner cancels it, and then sends the code. -/
def inputs : List BridgeInput :=
  [message 1 "delete the branch" (.ok (.approvalRequired "high risk")),
    message 2 "/cancel" (.error ""),
    message 3 code (.ok (.accepted "job-1"))]

/-- The owner sends the code instead. -/
def granted : List BridgeInput :=
  [message 1 "delete the branch" (.ok (.approvalRequired "high risk")),
    message 2 code (.ok (.accepted "job-1"))]

end Demonstration

theorem approvals_lawful_granted : Lawful Demonstration.bridge Demonstration.salt Demonstration.code
    (Demonstration.bridge.machine.exec (BridgeState.start 0) Demonstration.granted).1 := by
  refine approvals_lawful Demonstration.configured (Machine.exec_run _ _ _ ⟨?_, ?_, trivial⟩)
  · exact ⟨by decide +kernel, fun _ _ _ _ _ => rfl, fun asked => by cases asked⟩
  · exact ⟨by decide +kernel, fun _ _ _ _ _ => rfl, fun _ _ _ => by decide +kernel⟩

/-- After a cancelled request the code is submitted as a prompt. -/
theorem approvals_counterexample :
    ¬ ∀ (bridge : Bridge) (salt code : String), configure salt code = .ok bridge.store →
      ∀ (clock : Nat) (history : List (BridgeInput × List Occurrence)) (state : BridgeState),
        bridge.machine.Run BridgeState.InTime (BridgeState.start clock) history state →
          Lawful bridge salt code history := by
  intro claim
  have met : Demonstration.bridge.machine.Met BridgeState.InTime (BridgeState.start 0)
      Demonstration.inputs := by decide +kernel
  have run := Demonstration.bridge.machine.exec_run (BridgeState.start 0) Demonstration.inputs met
  have lawful := claim Demonstration.bridge Demonstration.salt Demonstration.code
    Demonstration.configured _ _ _ run
  exact lawful.unspoken [_, _] _ [] rfl (by decide +kernel) (by decide +kernel) (by decide +kernel)

end Zero3Pilot.Weixin
