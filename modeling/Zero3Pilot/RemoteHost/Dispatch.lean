import Zero3Pilot.ControlPlane.Admission
import Zero3Pilot.RemoteHost.TaskRunner

/-! # Dispatching a remote task

The way of a task from its sender to the host: `dispatchZero3CodexTask` of
`host-runtime/web-gpt-fast-path.ts`, which builds a task object from the request of a Web GPT session;
`normalizedTask` and `normalizedExtension` of `control-runtime/control-client.ts`, through which every
task object is sent; and `lease` of `host-runtime/remote-client.ts`, which joins the leased task with
its extension. Each writes the members it lists and no others. -/

namespace Zero3Pilot.RemoteHost

open ScriptValue
open ControlPlane (RemoteTask RemoteTaskTarget RemoteTaskExecution optionalMember)

/-! ## Checks -/

/-- `record` of the control client, and `object` of the fast path. -/
def record (value : ScriptValue) (label : String) : Except String Json :=
  match value with
  | some (.object members) => .ok (.object members)
  | _ => .error (label ++ " must be an object")

abbrev requiredText : ScriptValue → String → Nat → Except String String := requiredString

abbrev optionalText : ScriptValue → String → Nat → Except String (Option String) := optionalString

abbrev fastPathText : ScriptValue → String → Nat → Except String String := requiredString

def textItems (value : ScriptValue) (label : String) (maxItems max : Nat) :
    Except String (List String) := do
  let error := label ++ " must contain at most " ++ toString maxItems ++ " items"
  let items ← orError value.items? error
  ensure (items.length ≤ maxItems) error
  requiredItems items label max

/-- `listOfText` of the control client. -/
def listOfText (value : ScriptValue) (label : String) : Except String (Option (List String)) :=
  unlessNullish value (textItems value label 64 4096)

/-- `stringList` of the fast path. -/
def stringList (value : ScriptValue) (label : String) (maxItems max : Nat) :
    Except String (List String) :=
  orDefault value [] (textItems value label maxItems max)

/-- `numberInRange` of the fast path. -/
def numberInRange (coerce : Json → Option Int) (value : ScriptValue) (label : String)
    (fallback min max : Nat) : Except String Nat :=
  integerInRange coerce value fallback min max
    (label ++ " must be " ++ toString min ++ ".." ++ toString max)

def isFastPathIdChar (char : Char) : Bool :=
  char.isAlphanum || char == '.' || char == '_' || char == ':' || char == '-'

def fastPathId (value : ScriptValue) (label : String) : Except String String := do
  let result ← fastPathText value label 256
  ensure (result.toList.all isFastPathIdChar) (label ++ " is invalid")
  return result

/-! ## The fast path -/

section FastPath

variable (platform : Platform) (stringOf : Json → String) (config : HostConfig)

def allowedWorkspace (value : ScriptValue) : Except String String := do
  let requested ← fastPathText value "workspace" 4096
  orError (workspaceAllowed platform config requested)
    "workspace is not in ZERO3_REMOTE_HOST_WORKSPACES"

def stableExecutionId (sessionId key suffix : String) : String :=
  let digest := platform.sha256 ("\x00".intercalate [sessionId, key, suffix]).toList
  "web-gpt-" ++ suffix ++ "-" ++ String.ofList (digest.toList.take 24)

def textOf (value : ScriptValue) (fallback : String) : String :=
  match value with
  | none | some .null => fallback
  | some (.string text) => text
  | some value => stringOf value

def fastPathProfiles : List String := ["read_only", "standard", "elevated"]

def fastPathTask (inputValue : ScriptValue) : Except String Json := do
  let input ← record inputValue "dispatch_codex_task input"
  let sessionId ← fastPathId (input.get "sessionId") "sessionId"
  let key ← fastPathId (input.get "idempotencyKey") "idempotencyKey"
  let workspace ← allowedWorkspace platform config (input.get "workspace")
  let objective ← fastPathText (input.get "objective") "objective" 64000
  let permissionProfile := textOf stringOf (input.get "permissionProfile") "standard"
  ensure (permissionProfile ∈ fastPathProfiles)
    "permissionProfile is not allowed for Web GPT Fast Path"
  let maxTurns ← numberInRange platform.coerce (input.get "maxTurns") "maxTurns" 1 1 8
  let timeoutSeconds ← numberInRange platform.coerce (input.get "timeoutSeconds") "timeoutSeconds"
    3600 30 28800
  let baseRef ← unlessNullish (input.get "baseRef")
    (fastPathText (input.get "baseRef") "baseRef" 256)
  let constraints ← stringList (input.get "constraints") "constraints" 64 4096
  let acceptanceCriteria ← stringList (input.get "acceptanceCriteria") "acceptanceCriteria" 64 4096
  return .object [("protocol", .string remoteTaskProtocol),
    ("task_id", .string (stableExecutionId platform sessionId key "task")),
    ("execution_id", .string (stableExecutionId platform sessionId key "exec")),
    ("objective", .string objective),
    ("target", .object (("workspace", .string workspace) ::
      optionalMember "base_ref" (baseRef.map .string))),
    ("constraints", .array (constraints.map .string)),
    ("acceptance_criteria", .array (acceptanceCriteria.map .string)),
    ("permission_profile", .string permissionProfile),
    ("execution", .object [("max_turns", .nat maxTurns), ("timeout_seconds", .nat timeoutSeconds),
      ("require_clean_worktree", .bool (input.get "requireCleanWorktree").isTrue),
      ("require_clean_worktree_on_success",
        .bool (input.get "requireCleanWorktreeOnSuccess").isTrue),
      ("require_remote_sync_on_success", .bool (input.get "requireRemoteSyncOnSuccess").isTrue)])]

def dispatchZero3CodexTask (inputValue : ScriptValue) (projectContext : Option Json) :
    Except String Json := do
  let task ← fastPathTask platform stringOf config inputValue
  return .object (("task", task) :: optionalMember "extension"
    (projectContext.map fun context => .object [("project_context", context)]))

end FastPath

/-! ## The control client -/

section Client

variable (coerce : Json → Option Int)

def clientProfiles : List String := ["read_only", "standard", "elevated", "full_control"]

def normalizedTask (value : ScriptValue) : Except String Json := do
  let task ← record value "task"
  ensure ((task.get "protocol").text? = some remoteTaskProtocol)
    "unsupported Zero3 remote task protocol"
  let target ← record (task.get "target") "task.target"
  let execution ← orDefault (task.get "execution") (.object [])
    (record (task.get "execution") "task.execution")
  let profile ← optionalText (task.get "permission_profile") "task.permission_profile" 32
  let permission := profile.getD "standard"
  ensure (permission ∈ clientProfiles) "unsupported task.permission_profile"
  let maxTurns ← integerInRange coerce (execution.get "max_turns") 1 1 32
    "task.execution.max_turns must be 1..32"
  let timeoutSeconds ← integerInRange coerce (execution.get "timeout_seconds") 3600 30 28800
    "task.execution.timeout_seconds must be 30..28800"
  let baseRef ← optionalText (target.get "base_ref") "task.target.base_ref" 256
  ensure (baseRef.bind (·.toList.head?) ≠ some '-') "task.target.base_ref must not start with a dash"
  let taskId ← requiredText (task.get "task_id") "task.task_id" 128
  let executionId ← requiredText (task.get "execution_id") "task.execution_id" 128
  let objective ← requiredText (task.get "objective") "task.objective" 64000
  let workspace ← requiredText (target.get "workspace") "task.target.workspace" 4096
  let constraints ← listOfText (task.get "constraints") "task.constraints"
  let acceptanceCriteria ← listOfText (task.get "acceptance_criteria") "task.acceptance_criteria"
  return .object ([("protocol", .string remoteTaskProtocol), ("task_id", .string taskId),
      ("execution_id", .string executionId), ("objective", .string objective),
      ("target", .object (("workspace", .string workspace) ::
        optionalMember "base_ref" (baseRef.map .string)))] ++
    optionalMember "constraints" (constraints.map fun texts => .array (texts.map .string)) ++
    optionalMember "acceptance_criteria"
      (acceptanceCriteria.map fun texts => .array (texts.map .string)) ++
    [("permission_profile", .string permission),
      ("execution", .object [("max_turns", .nat maxTurns), ("timeout_seconds", .nat timeoutSeconds),
        ("require_clean_worktree", .bool (execution.get "require_clean_worktree").isTrue)])])

def taskExtensionSchema : String := "zero3.pilot.task-extension.v1"

/-- A member of an object that is neither missing nor `null`, to be written again. -/
def presentMember (input : Json) (name : String) : List (String × Json) :=
  if (input.get name).isNullish then [] else optionalMember name (input.get name)

/-- The members of an extension: `TASK_EXTENSION_FIELDS`. -/
def extensionMembers (input : Json) : List (String × Json) :=
  ["project_context", "handoff", "provider", "review"].flatMap (presentMember input)

def normalizedExtension (task : Json) (value : ScriptValue) : Except String (Option Json) :=
  orDefault value none do
    let input ← record value "extension"
    if (extensionMembers input).isEmpty then return none
    else
      let executionId ← requiredText (task.get "execution_id") "task.execution_id" 128
      return some (.object ([("schema", .string taskExtensionSchema),
        ("execution_id", .string executionId), ("expected_version", .nat 0)] ++
          extensionMembers input))

def dispatchCodex (value : ScriptValue) : Except String (Json × Option Json) := do
  let input ← record value "dispatch request"
  let task ← normalizedTask coerce (input.get "task")
  let _ ← requiredText (task.get "task_id") "task.task_id" 128
  let extension ← normalizedExtension task (input.get "extension")
  return (task, extension)

end Client

/-! ## The lease -/

structure TaskExtension where
  (projectContext handoff : ScriptValue)

/-- A value that is neither missing nor `null`. -/
def present (value : ScriptValue) : ScriptValue := if value.isNullish then none else value

def taskExtension (coerce : Json → Option Int) (payload : Option Json)
    (taskId executionId : String) : Except String (Option TaskExtension) :=
  match payload with
  | none => .ok none
  | some payload => do
    let extension := asRecord (some payload)
    let version ← integerInRange coerce (extension.get "version") 0 0 9007199254740991
      "remote task extension has an invalid version"
    if version = 0 then return none
    else
      ensure ((extension.get "schema").text? = some taskExtensionSchema)
        "unsupported remote task extension schema"
      ensure ((extension.get "task_id").text? = some taskId)
        "remote task extension task_id mismatch"
      ensure ((extension.get "execution_id").text? = some executionId)
        "remote task extension execution_id mismatch"
      return some {
        projectContext := present (extension.get "project_context")
        handoff := present (extension.get "handoff") }

def sameJson (left right : ScriptValue) : Bool := left.map Json.render = right.map Json.render

/-- Two values that are both there and differ. -/
def conflicting (left right : ScriptValue) : Bool :=
  isTruthy left && isTruthy right && !sameJson left right

def setMember (members : List (String × Json)) (name : String) : ScriptValue → List (String × Json)
  | none => members
  | some value =>
    if members.any (·.1 = name) then
      members.map fun member => if member.1 = name then (name, value) else member
    else members ++ [(name, value)]

def membersOf : Json → List (String × Json)
  | .object members => members
  | _ => []

def joinedTask (task : Json) : Option TaskExtension → Except String Json
  | none => .ok task
  | some extension => do
    ensure (¬ conflicting extension.projectContext (task.get "project_context"))
      "remote task project_context conflicts with the H5 task extension envelope"
    ensure (¬ conflicting extension.handoff (task.get "handoff"))
      "remote task handoff conflicts with the H5 task extension envelope"
    return .object (setMember (setMember (membersOf task) "project_context"
      extension.projectContext) "handoff" extension.handoff)

theorem lookup_map_replace {name other : String} (different : other ≠ name) (value : Json)
    (members : List (String × Json)) :
    (members.map fun member => if member.1 = name then (name, value) else member).lookup other =
      members.lookup other := by
  have skips : (other == name) = false := by simpa using different
  induction members with
  | nil => rfl
  | cons member members ih =>
    obtain ⟨key, known⟩ := member
    rw [List.map_cons]
    by_cases hit : key = name
    · subst hit
      rw [if_pos rfl, List.lookup_cons, List.lookup_cons, skips]
      exact ih
    · rw [if_neg hit, List.lookup_cons, List.lookup_cons, ih]

theorem lookup_setMember {name other : String} (different : other ≠ name)
    (members : List (String × Json)) (value : ScriptValue) :
    (setMember members name value).lookup other = members.lookup other := by
  have skips : (other == name) = false := by simpa using different
  cases value with
  | none => rfl
  | some value =>
    rw [setMember]
    split
    · exact lookup_map_replace different value members
    · rw [List.lookup_append, List.lookup_cons, skips]
      exact Option.or_none

/-- **Joining** a task with its extension leaves every member but the extension's alone. -/
theorem get_joinedTask {members : List (String × Json)} {extension : Option TaskExtension}
    {joined : Json} (isJoined : joinedTask (.object members) extension = .ok joined) {name : String}
    (notContext : name ≠ "project_context") (notHandoff : name ≠ "handoff") :
    (asRecord (some joined)).get name = members.lookup name := by
  cases extension with
  | none =>
    cases isJoined
    rfl
  | some extension =>
    simp only [joinedTask, bind_ok, ensure_ok, pure_ok] at isJoined
    obtain ⟨_, _, _, _, rfl⟩ := isJoined
    show List.lookup name _ = _
    rw [lookup_setMember notHandoff, lookup_setMember notContext]
    rfl

/-! ## What is sent -/

theorem listOfText_ok {value : ScriptValue} {label : String} {texts : Option (List String)} :
    listOfText value label = .ok texts ↔ (value.isNullish = true ∧ texts = none) ∨
        (value.isNullish = false ∧ ∃ listed items, texts = some listed ∧ value.items? = some items ∧
          items.length ≤ 64 ∧
          List.Forall₂ (fun item => IsText 4096 (some item)) items listed) := by
  unfold listOfText textItems
  simp only [unlessNullish_ok, bind_ok, orError_ok, ensure_ok, requiredItems_ok, exists_const]
  refine or_congr_right (and_congr_right fun _ => ?_)
  constructor
  · rintro ⟨listed, ⟨items, isArray, short, each⟩, rfl⟩
    exact ⟨listed, items, rfl, isArray, short, each⟩
  · rintro ⟨listed, items, rfl, isArray, short, each⟩
    exact ⟨listed, ⟨items, isArray, short, each⟩, rfl⟩

/-- **What a remote task says of the dispatched object it was normalized from**, field by field. -/
structure Normalized (coerce : Json → Option Int) (dispatched : Json) (task : RemoteTask) :
    Prop where
  objective : IsText 64000 (dispatched.get "objective") task.objective
  target : ∃ members, dispatched.get "target" = some (.object members)
  workspace : IsText 4096 ((asRecord (dispatched.get "target")).get "workspace")
    task.target.workspace
  baseRef : optionalText ((asRecord (dispatched.get "target")).get "base_ref")
    "task.target.base_ref" 256 = .ok task.target.baseRef
  constraints : listOfText (dispatched.get "constraints") "task.constraints" = .ok task.constraints
  acceptanceCriteria : listOfText (dispatched.get "acceptance_criteria") "task.acceptance_criteria" =
    .ok task.acceptanceCriteria
  permission : ∃ profile, optionalText (dispatched.get "permission_profile")
      "task.permission_profile" 32 = .ok profile ∧
    task.permissionProfile = some (profile.getD "standard") ∧
    profile.getD "standard" ∈ clientProfiles
  execution : ∃ maxTurns timeoutSeconds, task.execution = some {
      maxTurns := some maxTurns
      timeoutSeconds := some timeoutSeconds
      requireCleanWorktree :=
        some ((asRecord (dispatched.get "execution")).get "require_clean_worktree").isTrue } ∧
    integerInRange coerce ((asRecord (dispatched.get "execution")).get "max_turns") 1 1 32
      "task.execution.max_turns must be 1..32" = .ok maxTurns ∧
    integerInRange coerce ((asRecord (dispatched.get "execution")).get "timeout_seconds") 3600 30 28800
      "task.execution.timeout_seconds must be 30..28800" = .ok timeoutSeconds

theorem record_ok {value : ScriptValue} {label : String} {result : Json} :
    record value label = .ok result ↔ ∃ members, value = some (.object members) ∧
      result = .object members := by
  unfold record
  split
  · simp [eq_comm]
  · rename_i notObject
    simp only [reduceCtorEq, false_iff]
    rintro ⟨members, rfl, -⟩
    exact notObject members rfl

theorem optionalRecord_ok {value : ScriptValue} {label : String} {result : Json}
    (passed : orDefault value (.object []) (record value label) = .ok result) :
    result = asRecord value := by
  rw [orDefault_ok, record_ok] at passed
  rcases passed with ⟨missing, rfl⟩ | ⟨-, members, rfl, rfl⟩
  · unfold isNullish at missing
    split at missing
    · rfl
    · rfl
    · cases missing
  · rfl

/-- **A task that is sent** is the JSON of a remote task that agrees with the dispatched object. -/
theorem normalizedTask_ok {coerce : Json → Option Int} {dispatched sent : Json}
    (normalized : normalizedTask coerce (some dispatched) = .ok sent) :
    ∃ task : RemoteTask, sent = task.toJson ∧ Normalized coerce dispatched task := by
  unfold normalizedTask at normalized
  simp only [bind_ok, ensure_ok, pure_ok, exists_const, record_ok] at normalized
  obtain ⟨_, ⟨members, isObject, rfl⟩, -, _, ⟨targetMembers, isTarget, rfl⟩, execution, isExecution,
    profile, isProfile, known, maxTurns, isTurns, timeoutSeconds, isTimeout, baseRef, isBaseRef, -,
    taskId, isTaskId, executionId, isExecutionId, objective, isObjective, workspace, isWorkspace,
    constraints, areConstraints, criteria, areCriteria, rfl⟩ := normalized
  cases isObject
  obtain rfl := optionalRecord_ok isExecution
  let execution := asRecord ((Json.object members).get "execution")
  refine ⟨{
    protocol := remoteTaskProtocol
    taskId, executionId, objective, constraints
    target := { workspace, baseRef }
    acceptanceCriteria := criteria
    permissionProfile := some (profile.getD "standard")
    execution := some {
      maxTurns := some maxTurns
      timeoutSeconds := some timeoutSeconds
      requireCleanWorktree := some (execution.get "require_clean_worktree").isTrue } }, ?_, ?_⟩
  · -- the last two members are written one by one
    simp [RemoteTask.toJson, RemoteTaskTarget.toJson, RemoteTaskExecution.toJson, optionalMember,
      execution]
  · have asTarget : Json.object targetMembers = asRecord ((Json.object members).get "target") := by
      rw [isTarget]
      rfl
    rw [asTarget] at isWorkspace isBaseRef
    exact {
      objective := requiredString_ok.1 isObjective
      target := ⟨targetMembers, isTarget⟩
      workspace := requiredString_ok.1 isWorkspace
      baseRef := isBaseRef
      constraints := areConstraints
      acceptanceCriteria := areCriteria
      permission := ⟨profile, isProfile, rfl, known⟩
      execution := ⟨maxTurns, timeoutSeconds, rfl, isTurns, isTimeout⟩ }

end Zero3Pilot.RemoteHost
