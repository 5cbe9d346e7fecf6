import Zero3Pilot.AgentRouting.ExecutorFailure

/-! # Collecting verification

`verification-collector.ts`: each check of a task is a command that is run in the worktree of the
task. What the command of a check answers is given by the position of the check; how `Number` converts
values other than numbers is a parameter. -/

namespace Zero3Pilot.AgentRouting

/-! ## The data -/

inductive VerificationState where
  | passed
  | failed
  | notRun
  | blocked
  deriving DecidableEq

def VerificationState.text : VerificationState → String
  | passed => "PASSED"
  | failed => "FAILED"
  | notRun => "NOT_RUN"
  | blocked => "BLOCKED"

structure VerificationResult where
  id : String
  state : VerificationState
  (command evidence reason : Option String)

/-- `Zero3TaskSpecV2`, with its checks and its gates. -/
structure GatedTask extends TaskSpec where
  verification : List Json
  completionGate : List String

def GatedTask.hasWorktree (task : GatedTask) : Bool :=
  task.worktreePath.any fun path => scriptTrim path ≠ ""

/-! ## Reading a check -/

def maxChecks : Nat := 32

def maxArgv : Nat := 32

def maxArg : Nat := 4096

def checkText (value : ScriptValue) (label : String) (max : Nat) : Except String String := do
  let normalized := ((ScriptValue.text? value).map scriptTrim).getD ""
  ensure (normalized ≠ "" ∧ utf16Length normalized ≤ max) s!"{label} is invalid"
  return normalized

def checkCommand (value : ScriptValue) (label : String) : Except String (List String) := do
  let invalid := s!"{label} must contain 1..{maxArgv} argv items"
  let items ← orError (ScriptValue.items? value) invalid
  ensure (1 ≤ items.length ∧ items.length ≤ maxArgv) invalid
  items.zipIdx.mapM fun (entry, index) => checkText (some entry) s!"{label}[{index}]" maxArg

def positionId (index : Nat) : String := s!"verification-{index + 1}"

/-- A check that can be run. -/
structure CheckPlan where
  id : String
  argv : List String
  timeoutMs : Int

variable (coerce : Json → Option Int)

def checkTimeout (value : ScriptValue) (index : Nat) : Except String Int := do
  let invalid := s!"verification[{index}].timeoutMs must be 1000..120000"
  let timeoutMs ← if value.isNullish then pure 60000 else orError (toInteger? coerce value) invalid
  ensure (1000 ≤ timeoutMs ∧ timeoutMs ≤ 120000) invalid
  return timeoutMs

/-- The `try` block that reads a check. -/
def checkPlan (spec : Json) (index : Nat) : Except String CheckPlan := do
  let given := spec.get "id"
  let id ← checkText (if given.isNullish then some (.string (positionId index)) else given)
    s!"verification[{index}].id" 256
  let argv ← checkCommand (spec.get "command") s!"verification[{index}].command"
  let timeoutMs ← checkTimeout coerce (spec.get "timeoutMs") index
  return ⟨id, argv, timeoutMs⟩

/-- The id of a check that cannot be read. -/
def fallbackId (limit : Option Nat) (spec : Json) (index : Nat) : String :=
  match (ScriptValue.text? (spec.get "id")).map scriptTrim with
  | some id =>
    if id = "" then positionId index else (limit.map fun limit => sliceText limit id).getD id
  | none => positionId index

/-! ## Running a check -/

def diagnostic (stdout stderr : String) : String :=
  boundedText 16000 (scriptTrim (if stdout ≠ "" then stdout else stderr))

def memberText (value : Json) (name : String) : String :=
  (ScriptValue.text? (value.get name)).getD ""

def judge (plan : CheckPlan) (answer : Except String ScriptValue) : VerificationResult :=
  let command := some (" ".intercalate plan.argv)
  match answer with
  | .error message =>
    ⟨plan.id, .blocked, command, none,
      some s!"verification could not be proven through Codex command/exec: {message}"⟩
  | .ok value =>
    let response := ScriptValue.asRecord value
    match toInteger? coerce (response.get "exitCode") with
    | none =>
      ⟨plan.id, .blocked, command, none, some "Codex command/exec returned an invalid exit code"⟩
    | some exitCode =>
      let detail := diagnostic (memberText response "stdout") (memberText response "stderr")
      let evidence := s!"Codex command/exec exit={exitCode}" ++
        if detail ≠ "" then "\n" ++ detail else ""
      if exitCode = 0 then ⟨plan.id, .passed, command, some evidence, none⟩
      else ⟨plan.id, .failed, command, some evidence,
        some s!"verification command exited {exitCode}"⟩

def collectCheck (answers : Nat → Except String ScriptValue) (check : Json) (index : Nat) :
    VerificationResult :=
  let spec := ScriptValue.asRecord (some check)
  match checkPlan coerce spec index with
  | .error message => ⟨fallbackId (some 256) spec index, .blocked, none, none, some message⟩
  | .ok plan => judge coerce plan (answers index)

/-- `Zero3VerificationCollector.collect(task, candidate)`, which does not look at the candidate. -/
def collect (answers : Nat → Except String ScriptValue) (task : GatedTask) :
    Except String (List VerificationResult) := do
  ensure (task.verification.length ≤ maxChecks)
    s!"TaskSpec verification may contain at most {maxChecks} checks"
  if task.hasWorktree then
    return task.verification.zipIdx.map fun (check, index) =>
      collectCheck coerce answers check index
  else
    return task.verification.zipIdx.map fun (check, index) =>
      ⟨fallbackId none check index, .blocked, none, none,
        some "verification requires an explicit task worktreePath"⟩

end Zero3Pilot.AgentRouting
