import Mathlib.Algebra.Group.Int.Defs
import Zero3Pilot.Foundations.Uuid
import Zero3Pilot.ProviderSession.EventStore

/-! # The session writer gate

`apply-session-provider-runtime.mjs`: the main process keeps one record for each logical session that
says who may write it: the generation and the profile of the writer, the turn that is writing, and the
provider switch that is under way. This is the record of one session. `Date.parse` and `sha256` are
parameters; the clock and the ids that are drawn are given with each call. -/

namespace Zero3Pilot.ProviderSession

open ScriptValue (asRecord text?)

/-! ## The data -/

structure SessionWriterState where
  generation : Nat
  phase : SwitchPhase
  (profileId projectId writerToken : Option String)
  targetGeneration : Option Nat
  (targetProfileId switchToken handoffHash : Option String)
  updatedAt : Int
  lastError : Option String

/-- What `zero3SessionWriterSnapshot` answers. -/
structure WriterSnapshot where
  generation : Nat
  phase : SwitchPhase
  (profileId projectId : Option String)
  activeWriter : Bool
  targetGeneration : Option Nat
  (targetProfileId switchToken : Option String)
  updatedAt : Int
  lastError : Option String

def zero3SessionWriterSnapshot (state : SessionWriterState) : WriterSnapshot where
  generation := state.generation
  phase := state.phase
  profileId := state.profileId
  projectId := state.projectId
  activeWriter := state.writerToken.isSome
  targetGeneration := state.targetGeneration
  targetProfileId := state.targetProfileId
  switchToken := state.switchToken
  updatedAt := state.updatedAt
  lastError := state.lastError

/-- The session, how its dates are read and its handoffs are hashed. -/
structure GateSurroundings where
  logicalSessionId : String
  parseDate : String → Option Int
  digest : String → String

/-! ## Reading a request -/

def zero3SessionText (value : ScriptValue) (label : String) (max : Nat) : Except String String :=
  let text := ((text? value).map scriptTrim).getD ""
  if text = "" ∨ max < utf16Length text then
    .error s!"{label} is required and must be at most {max} characters"
  else .ok text

def zero3SessionOptionalText (value : ScriptValue) (max : Nat) : Except String (Option String) :=
  if value.isNullish = true ∨ text? value = some "" then .ok none
  else
    match text? value with
    | none => .error "value must be a string or null"
    | some given =>
      let text := scriptTrim given
      if text = "" ∨ max < utf16Length text then .error "value is too long" else .ok (some text)

def numberOf : ScriptValue → Option Int
  | some (.number literal) => literal.toInt?
  | _ => none

def zero3SessionGeneration (value : ScriptValue) : Except String Nat :=
  if value.isNullish then .ok 1
  else
    match numberOf value with
    | some number =>
      if 1 ≤ number ∧ number < 2 ^ 53 then .ok number.toNat
      else .error "generation must be a positive integer"
    | none => .error "generation must be a positive integer"

def handoffProtocol : String := "zero3.session-provider-handoff.v1"

def zero3ProviderHandoff (value : ScriptValue) : Except String (Option Json) :=
  if value.isNullish then .ok none
  else
    let handoff := asRecord value
    if text? (handoff.get "protocol") ≠ some handoffProtocol then
      .error "unsupported Zero3 provider handoff protocol"
    else if 768 * 1024 < (String.ofList handoff.render).utf8ByteSize then
      .error "Zero3 provider handoff exceeds 768 KiB"
    else .ok (some handoff)

/-- What `zero3BeginSessionSwitch` reads of its request. -/
structure BeginRequest where
  sourceGeneration : Nat
  sourceProfileId : Option String
  (targetProfileId projectId : String)

/-- The request of `zero3BeginSessionSwitch`, read. -/
def beginRequest (request : Json) : Except String BeginRequest := do
  let sourceGeneration ← zero3SessionGeneration (request.get "sourceGeneration")
  let sourceProfileId ← zero3SessionOptionalText (request.get "sourceProfileId") 128
  let targetProfileId ← zero3SessionText (request.get "targetProfileId") "targetProfileId" 128
  let projectId ← zero3SessionText (request.get "projectId") "projectId" 256
  return ⟨sourceGeneration, sourceProfileId, targetProfileId, projectId⟩

structure TurnRequest where
  profileId : String
  generation : Nat
  projectId : String
  handoff : Option Json

def turnRequest (request : Json) : Except String TurnRequest := do
  let profileId ← zero3SessionText (request.get "profileId") "profileId" 128
  let generation ← zero3SessionGeneration (request.get "generation")
  let _ ← zero3SessionOptionalText (request.get "requestId") 256
  let projectId ← zero3SessionText (request.get "projectId") "projectId" 256
  let handoff ← zero3ProviderHandoff (request.get "handoff")
  return ⟨profileId, generation, projectId, handoff⟩

/-! ## The calls of a switch -/

variable (gate : GateSurroundings)

/-- What a call answers, and the record it leaves. -/
abbrev GateAnswer (α : Type) := Except String α × Option SessionWriterState

def zero3SessionWriterState (generation : Nat) (profileId projectId : Option String) (now : Int)
    (known : Option SessionWriterState) : SessionWriterState :=
  known.getD ⟨generation, .active, profileId, projectId, none, none, none, none, none, now, none⟩

def beginRefusal (request : BeginRequest) (state : SessionWriterState) : Option String :=
  if state.generation ≠ request.sourceGeneration then
    some "Provider switch source generation is stale"
  else if state.phase ≠ .active ∧ state.phase ≠ .failed then
    some "Provider switch is already in progress"
  else if (state.profileId.any fun profile => profile ≠ "" ∧
      request.sourceProfileId.any (· ≠ profile)) then
    some "Provider switch source profile is stale"
  else none

/-- The record of a switch that begins. -/
def begun (request : BeginRequest) (now : Int) (uuid : Uuid) (state : SessionWriterState) :
    SessionWriterState :=
  { state with
    phase := .handoffPending
    profileId := request.sourceProfileId.orElse fun _ => state.profileId
    projectId := some request.projectId
    targetGeneration := some (request.sourceGeneration + 1)
    targetProfileId := some request.targetProfileId
    switchToken := some uuid.text
    handoffHash := none
    updatedAt := now
    lastError := none }

def zero3BeginSessionSwitch (request : Json) (now : Int) (uuid : Uuid)
    (known : Option SessionWriterState) : GateAnswer WriterSnapshot :=
  match beginRequest request with
  | .error message => (.error message, known)
  | .ok request =>
    let state := zero3SessionWriterState request.sourceGeneration request.sourceProfileId
      (some request.projectId) now known
    match beginRefusal request state with
    | some message => (.error message, some state)
    | none =>
      let next := begun request now uuid state
      (.ok (zero3SessionWriterSnapshot next), some next)

def isOtherText (kept : Option String) (given : ScriptValue) : Bool :=
  kept.any fun kept => kept ≠ "" && text? given ≠ some kept

def isTargetGeneration (given : ScriptValue) (target : Option Nat) : Bool :=
  match target with
  | some target => numberOf given = some (target : Int)
  | none => given = some .null

def switchHandoffFault (state : SessionWriterState) (handoff : Json) (now : Int) : Option String :=
  let metadata := asRecord (handoff.get "handoff")
  let generatedAt := (text? (metadata.get "generated_at")).bind gate.parseDate
  if text? (handoff.get "protocol") ≠ some handoffProtocol ∨
      text? (handoff.get "logical_session_id") ≠ some gate.logicalSessionId then
    some "Provider handoff identity is invalid"
  else if numberOf (metadata.get "source_runtime_generation") ≠ some (state.generation : Int) ∨
      isTargetGeneration (metadata.get "target_runtime_generation") state.targetGeneration = false then
    some "Provider handoff generation is stale"
  else if generatedAt.all fun time => now + 60000 < time || 10 * 60000 < now - time then
    some "Provider handoff is stale"
  else if isOtherText state.projectId (handoff.get "project_id") then
    some "Provider handoff project changed during switch"
  else if isOtherText state.profileId ((asRecord (handoff.get "from")).get "profileId") then
    some "Provider handoff source profile is stale"
  else if isOtherText state.targetProfileId ((asRecord (handoff.get "to")).get "profileId") then
    some "Provider handoff target profile is stale"
  else none

def zero3SwitchHandoffHash (handoff : Json) : String := gate.digest (String.ofList handoff.render)

/-- The `try` block of `zero3VerifySessionSwitch`. -/
def verifiedHandoff (request : Json) (state : SessionWriterState) (now : Int) :
    Except String Json := do
  let handoff ← zero3ProviderHandoff (request.get "handoff")
  match handoff with
  | none => .error "Provider handoff is required"
  | some handoff =>
    match switchHandoffFault gate state handoff now with
    | some message => .error message
    | none => .ok handoff

def zero3VerifySessionSwitch (request : Json) (now : Int) (known : Option SessionWriterState) :
    GateAnswer WriterSnapshot :=
  match zero3SessionText (request.get "switchToken") "switchToken" 256, known with
  | .error message, known => (.error message, known)
  | .ok _, none => (.error "Provider switch token is stale", none)
  | .ok switchToken, some state =>
    if state.switchToken ≠ some switchToken ∨ state.phase ≠ .handoffPending then
      (.error "Provider switch token is stale", some state)
    else if state.writerToken.isSome then
      (.error "Provider switch is waiting for the current Turn to finish", some state)
    else
      match verifiedHandoff gate request { state with phase := .handoffVerifying } now with
      | .ok handoff =>
        let next : SessionWriterState :=
          { state with
            phase := .switching
            handoffHash := some (zero3SwitchHandoffHash gate handoff)
            updatedAt := now }
        (.ok (zero3SessionWriterSnapshot next), some next)
      | .error message =>
        (.error message,
          some { state with phase := .failed, lastError := some message, updatedAt := now })

/-- What `zero3FailSessionSwitch` reads before it looks at the record. -/
def failRequest (request : Json) : Except String (Option String) :=
  zero3SessionOptionalText (request.get "switchToken") 256

def isOtherToken (given current : Option String) : Bool :=
  given.any fun given => current.any fun current => current ≠ "" ∧ given ≠ current

/-- `zero3FailSessionSwitch(request)`. The record is left as it is where the error text is refused, but
for what has been assigned by then. -/
def zero3FailSessionSwitch (request : Json) (now : Int) (known : Option SessionWriterState) :
    GateAnswer (Option WriterSnapshot) :=
  match failRequest request, known with
  | .error message, known => (.error message, known)
  | .ok _, none => (.ok none, none)
  | .ok switchToken, some state =>
    if isOtherToken switchToken state.switchToken then
      (.ok (some (zero3SessionWriterSnapshot state)), some state)
    else
      let failed : SessionWriterState :=
        { state with
          phase := .failed
          targetGeneration := none
          targetProfileId := none
          switchToken := none
          handoffHash := none }
      match zero3SessionOptionalText (request.get "error") 4000 with
      | .error message => (.error message, some failed)
      | .ok error =>
        let next := { failed with lastError := error, updatedAt := now }
        (.ok (some (zero3SessionWriterSnapshot next)), some next)

/-! ## The turns -/

def switchingRefusal (request : TurnRequest) (state : SessionWriterState) (now : Int) :
    Option String :=
  if some request.generation ≠ state.targetGeneration ∨
      some request.profileId ≠ state.targetProfileId then some "新 Provider 尚未取得写权限"
  else
    match request.handoff with
    | none => some "新 Provider 缺少已验证的 handoff"
    | some handoff =>
      match switchHandoffFault gate state handoff now with
      | some message => some message
      | none =>
        if state.handoffHash = some (zero3SwitchHandoffHash gate handoff) then none
        else some "Provider handoff changed after verification"

def acquireRefusal (request : TurnRequest) (state : SessionWriterState) (now : Int) : Option String :=
  if state.writerToken.isSome then some "该 Zero3 会话已有正在执行的 Turn；禁止双写"
  else if state.phase = .handoffPending ∨ state.phase = .handoffVerifying then
    some "Provider handoff 尚未完成，暂时禁止启动新 Turn"
  else if state.phase = .switching then switchingRefusal gate request state now
  else if request.generation ≠ state.generation then
    some "该请求来自非当前 Provider generation，已拒绝写入"
  else if state.profileId.any fun profile => profile ≠ "" ∧ profile ≠ request.profileId then
    some "API Profile 变更必须经过 Provider handoff"
  else none

/-- The record of a turn that begins. -/
def acquired (request : TurnRequest) (now : Int) (uuid : Uuid) (state : SessionWriterState) :
    SessionWriterState :=
  if state.phase = .switching then
    { state with
      generation := request.generation
      profileId := some request.profileId
      projectId := some request.projectId
      phase := .active
      targetGeneration := none
      targetProfileId := none
      switchToken := none
      handoffHash := none
      lastError := none
      writerToken := some uuid.text
      updatedAt := now }
  else
    { state with
      profileId := some request.profileId
      projectId := some request.projectId
      phase := if state.phase = .failed then .active else state.phase
      writerToken := some uuid.text
      updatedAt := now }

def zero3AcquireSessionWriter (request : TurnRequest) (now : Int) (uuid : Uuid)
    (known : Option SessionWriterState) : GateAnswer Bool :=
  let state := zero3SessionWriterState request.generation (some request.profileId)
    (some request.projectId) now known
  match acquireRefusal gate request state now with
  | some message => (.error message, some state)
  | none => (.ok (decide (state.phase = .switching)), some (acquired request now uuid state))

/-- The function that `zero3AcquireSessionWriter` answers, called with `failed`. -/
def releaseWriter (writerToken : String) (switchedWriter failed : Bool) (now : Int)
    (known : Option SessionWriterState) : Option SessionWriterState :=
  known.map fun latest =>
    if latest.writerToken ≠ some writerToken then latest
    else if failed && switchedWriter then
      { latest with
        writerToken := none
        phase := .failed
        lastError := some "target Provider Turn failed after writer handoff"
        updatedAt := now }
    else { latest with writerToken := none, updatedAt := now }

end Zero3Pilot.ProviderSession
