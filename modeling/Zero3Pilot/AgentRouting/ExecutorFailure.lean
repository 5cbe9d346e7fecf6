import Mathlib.Algebra.Group.Int.Defs
import Mathlib.Data.List.Infix
import Zero3Pilot.AgentRouting.Records

/-! # Failures of executors

`zero3-executor-failure.ts` and `classifyAttemptFailure` of `agent-runtime-orchestrator.ts`: whether
work may be handed on is read from a failure the executor declared, from the status of its result, or
from the message of what it threw. Lower case is a parameter, as Unicode defines it. -/

namespace Zero3Pilot.AgentRouting

def failureClassFor : FailureCode → FailureClass
  | .quotaExhausted => .reroute
  | .rateLimited => .reroute
  | .providerOverloaded => .reroute
  | .transportLost => .reroute
  | .processCrash => .reroute
  | .contextExhausted => .reroute
  | .providerError => .retrySameExecutor
  | .internalError => .retrySameExecutor
  | .authRequired => .reroute
  | .unsupported => .reroute
  | .budgetExhausted => .waitingHuman
  | .permissionDenied => .waitingHuman
  | .policyDenied => .waitingHuman
  | .badRequest => .terminal
  | .userStopped => .terminal
  | .contextLost => .outcomeUnknown

def isRetryable : FailureCode → Bool
  | .rateLimited | .providerOverloaded | .providerError | .transportLost | .processCrash
  | .internalError => true
  | _ => false

def createExecutorFailure (code : FailureCode) (detail : String) : ExecutionFailure where
  code := code
  failureClass := failureClassFor code
  retryable := failureClassFor code = .reroute ||
    (failureClassFor code = .retrySameExecutor && isRetryable code)
  detail := detail

/-! ## Reading messages -/

/-- Some words occur in a text. -/
def mentions (value : String) (words : List String) : Bool :=
  words.any fun word => decide (word.toList <:+: value.toList)

/-- The patterns of `executorFailureCodeFromMessage`, in the order they are tried. -/
def failurePatterns : List (List String × FailureCode) := [
  (["econnrefused", "enotfound", "eai_again", "socket hang up", "transport lost", "transport_lost",
    "connection lost", "connection refused", "connection reset", "network error", "fetch failed",
    "网络", "无法连接", "连接已关闭", "传输"], .transportLost),
  (["401", "403", "unauthor", "invalid api key", "no api key", "api key", "认证", "未授权", "login",
    "登录"], .authRequired),
  (["429", "rate limit", "too many requests", "限流", "频率"], .rateLimited),
  (["quota", "usage_limit", "insufficient", "balance", "credit", "余额", "额度", "欠费"],
    .quotaExhausted),
  (["overload", "overloaded", "busy", "服务器繁忙", "过载", "capacity"], .providerOverloaded),
  (["context window", "context length", "context_exhausted", "token limit", "上下文"],
    .contextExhausted),
  (["context_lost", "outcome unknown", "不可恢复"], .contextLost),
  (["budget"], .budgetExhausted),
  (["permission denied", "permission_denied", "权限"], .permissionDenied),
  (["policy", "denied by policy", "策略"], .policyDenied),
  (["not supported", "unsupported", "不支持"], .unsupported),
  (["bad request", "invalid request", "参数错误"], .badRequest),
  (["crash", "崩溃", "process exited", "exited with code"], .processCrash),
  (["timeout", "timed out", "超时", "abort", "etimedout"], .transportLost)]

def executorFailureCodeFromMessage (toLowerCase : String → String) (message : String) :
    FailureCode :=
  match failurePatterns.find? fun pattern => mentions (toLowerCase message) pattern.1 with
  | some pattern => pattern.2
  | none => .providerError

/-- `message.replace(/\s+/g, ' ')`. -/
def collapseBlanks : List Char → List Char
  | [] => []
  | char :: rest =>
    if isScriptWhitespace char then
      match collapseBlanks rest with
      | ' ' :: more => ' ' :: more
      | more => ' ' :: more
    else char :: collapseBlanks rest

/-- A text cut to a number of code units. -/
def sliceText (limit : Nat) (text : String) : String := String.ofList (takeUtf16 limit text.toList)

def classifyExecutorError (toLowerCase : String → String) (error : Thrown) : ExecutionFailure :=
  let read := sliceText 2000 (scriptTrim (String.ofList (collapseBlanks error.message.toList)))
  let detail := if read = "" then "executor failed without a provider message" else read
  createExecutorFailure (error.code.getD (executorFailureCodeFromMessage toLowerCase detail)) detail

/-! ## The decision -/

structure AttemptFailure where
  (switchEligible blameExecutor : Bool)
  code : Option FailureCode
  failureClass : Option FailureClass
  reason : String

/-- The first text of a result that says what happened. -/
def ExecutionResult.said (result : ExecutionResult) (fallback : String) : String :=
  if result.summary ≠ "" then result.summary
  else match result.blockers with
    | blocker :: _ => if blocker ≠ "" then blocker else fallback
    | [] => fallback

def classifyAttemptFailure (toLowerCase : String → String) :
    Except Thrown ExecutionResult → AttemptFailure
  | .error thrown =>
    let failure := classifyExecutorError toLowerCase thrown
    let failureClass :=
      if failure.failureClass = .outcomeUnknown ∨ failure.failureClass = .waitingHuman then
        failure.failureClass
      else .reroute
    { switchEligible := failureClass = .reroute
      blameExecutor := failureClass = .reroute
      code := some failure.code
      failureClass := some failureClass
      reason := s!"executor raised an error: {failure.code.text} ({failureClass.text}): {
        failure.detail}" }
  | .ok result =>
    match result.failure with
    | some declared =>
      { switchEligible := declared.failureClass = .reroute ||
          declared.failureClass = .retrySameExecutor
        blameExecutor := declared.failureClass = .reroute
        code := some declared.code
        failureClass := some declared.failureClass
        reason := s!"{declared.code.text} ({declared.failureClass.text}): {declared.detail}" }
    | none =>
      match result.status with
      | .complete | .partialResult => ⟨false, false, none, none, "succeeded"⟩
      | .failed =>
        ⟨true, true, some .providerError, some .reroute,
          "executor reported FAILED: " ++ result.said "no failure detail"⟩
      | .blocked =>
        ⟨false, false, some .policyDenied, some .waitingHuman,
          "executor blocked the task: " ++ result.said "policy gate"⟩
      | .outcomeUnknown =>
        ⟨false, false, some .contextLost, some .outcomeUnknown,
          "executor outcome is unknown; recovery reconciliation is required"⟩

/-- The result counts as a success: `COMPLETE` or `PARTIAL`. -/
def ExecutionResult.succeeded (result : ExecutionResult) : Bool :=
  result.status = .complete || result.status = .partialResult

/-- **An attempt hands on**: another executor may go on with the task. -/
def HandsOn (toLowerCase : String → String) : Except Thrown ExecutionResult → Prop
  | .error thrown =>
    (classifyExecutorError toLowerCase thrown).failureClass ≠ .outcomeUnknown ∧
      (classifyExecutorError toLowerCase thrown).failureClass ≠ .waitingHuman
  | .ok result =>
    result.succeeded = false ∧
      match result.failure with
      | some declared =>
        declared.failureClass = .reroute ∨ declared.failureClass = .retrySameExecutor
      | none => result.status = .failed

/-- **The decision** of an attempt that is no success is whether it hands on. -/
theorem switchEligible_iff {toLowerCase : String → String} {outcome : Except Thrown ExecutionResult}
    (failed : ∀ result, outcome = .ok result → result.succeeded = false) :
    (classifyAttemptFailure toLowerCase outcome).switchEligible ↔ HandsOn toLowerCase outcome := by
  cases outcome with
  | error thrown =>
    simp only [classifyAttemptFailure, HandsOn, decide_eq_true_iff]
    by_cases kept : (classifyExecutorError toLowerCase thrown).failureClass = .outcomeUnknown ∨
        (classifyExecutorError toLowerCase thrown).failureClass = .waitingHuman
    · rw [if_pos kept]
      constructor
      · intro reroute
        rw [reroute] at kept
        rcases kept with never | never <;> cases never
      · rintro ⟨known, machine⟩
        exact absurd kept (not_or.2 ⟨known, machine⟩)
    · rw [if_neg kept]
      simpa using kept
  | ok result =>
    have noSuccess := failed result rfl
    simp only [HandsOn, classifyAttemptFailure, noSuccess, true_and]
    cases result.failure with
    | some declared => simp
    | none =>
      cases status : result.status with
      | complete | partialResult | blocked | failed | outcomeUnknown => simp

end Zero3Pilot.AgentRouting
