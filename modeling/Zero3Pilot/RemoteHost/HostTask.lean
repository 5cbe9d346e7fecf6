import Zero3Pilot.ControlPlane.Records
import Zero3Pilot.Foundations.Checks
import Zero3Pilot.Foundations.ScriptValue

/-! # Remote tasks as the Remote Host takes them

`validateTask` of `host-runtime/remote-task-runner.ts`: the checks of a leased task and the task the
host works on, with every default filled in; and the text of that task its fingerprint is taken of. -/

namespace Zero3Pilot.RemoteHost

open ScriptValue

def remoteTaskProtocol : String := "zero3.pilot.remote-task.v1"

def executionResultProtocol : String := "zero3.pilot.execution-result.v1"

inductive PermissionProfile where
  | readOnly
  | standard
  | elevated
  | fullControl
deriving DecidableEq

namespace PermissionProfile

def name : PermissionProfile → String
  | .readOnly => "read_only"
  | .standard => "standard"
  | .elevated => "elevated"
  | .fullControl => "full_control"

def ofName? (name : String) : Option PermissionProfile :=
  [readOnly, standard, elevated, fullControl].find? fun profile => profile.name = name

@[simp] theorem ofName?_name (profile : PermissionProfile) : ofName? profile.name = some profile := by
  cases profile <;> rfl

theorem name_injective : Function.Injective name := by
  intro left right same
  have read := congrArg ofName? same
  simpa using read

end PermissionProfile

structure TaskTarget where
  workspace : String
  baseRef : Option String
deriving DecidableEq

structure NativeSkill where
  (name path : String)
deriving DecidableEq

/-- `Zero3RemoteTaskExecution`, its defaults filled in. -/
structure TaskExecution where
  (maxTurns timeoutSeconds : Nat)
  (requireCleanWorktree requireCleanWorktreeOnSuccess requireRemoteSyncOnSuccess : Bool)
deriving DecidableEq

/-- The kinds of session a project context can come from. -/
inductive SourceKind where
  | gptWeb
  | codex
deriving DecidableEq

def SourceKind.name : SourceKind → String
  | .gptWeb => "gpt_web"
  | .codex => "codex"

structure ProjectContextRef where
  projectId : String
  contextVersion : Option Nat
  (contextRef sourceEntryId : Option String)
  sourceKind : Option SourceKind
deriving DecidableEq

/-- `Zero3RemoteHandoffRequest`, its result protocol being the only one there is. -/
structure HandoffRequest where
  returnEntryId : Option String
  requiredEvidence : List String
deriving DecidableEq

/-- `Zero3RemoteTask` as `validateTask` returns it. -/
structure HostTask where
  (taskId executionId objective : String)
  target : TaskTarget
  (constraints acceptanceCriteria : List String)
  nativeSkills : List NativeSkill
  permissionProfile : PermissionProfile
  execution : TaskExecution
  projectContext : Option ProjectContextRef
  handoff : Option HandoffRequest
deriving DecidableEq

/-! ## The checks of single fields -/

def orDefault {α : Type} (value : ScriptValue) (fallback : α) (check : Except String α) :
    Except String α :=
  if value.isNullish then .ok fallback else check

def unlessNullish {α : Type} (value : ScriptValue) (check : Except String α) :
    Except String (Option α) :=
  orDefault value none (check.map some)

def requiredString (value : ScriptValue) (label : String) (max : Nat) : Except String String := do
  let text := scriptTrim (value.text?.getD "")
  ensure (text ≠ "" ∧ utf16Length text ≤ max)
    (label ++ " is required and must be at most " ++ toString max ++ " characters")
  return text

def optionalString (value : ScriptValue) (label : String) (max : Nat) :
    Except String (Option String) :=
  if value.text? = some "" then .ok none else unlessNullish value (requiredString value label max)

def itemLabel (label : String) (index : Nat) : String := label ++ "[" ++ toString index ++ "]"

def requiredItems (items : List Json) (label : String) (max : Nat) : Except String (List String) :=
  items.zipIdx.mapM fun (item, index) => requiredString (some item) (itemLabel label index) max

def stringArray (value : ScriptValue) (label : String) (maxItems maxItemLength : Nat) :
    Except String (List String) :=
  orDefault value [] do
    let error := label ++ " must be an array with at most " ++ toString maxItems ++ " items"
    let items ← orError value.items? error
    ensure (items.length ≤ maxItems) error
    requiredItems items label maxItemLength

def integerInRange (coerce : Json → Option Int) (value : ScriptValue) (fallback min max : Nat)
    (error : String) : Except String Nat :=
  orDefault value fallback do
    let number ← orError (toInteger? coerce value) error
    ensure ((min : Int) ≤ number ∧ number ≤ (max : Int)) error
    return number.toNat

/-! ## The task -/

variable (coerce : Json → Option Int)

/-- The kind of session a project context names. -/
def sourceKindOf : Option String → Except String (Option SourceKind)
  | none => .ok none
  | some "gpt_web" => .ok (some .gptWeb)
  | some "codex" => .ok (some .codex)
  | some _ => .error "project_context.source_kind must be gpt_web or codex"

def optionalContextRef (value : ScriptValue) : Except String (Option ProjectContextRef) :=
  unlessNullish value do
    let raw := asRecord value
    let projectId ← requiredString (raw.get "project_id") "project_context.project_id" 512
    let contextVersion ← unlessNullish (raw.get "context_version")
      (integerInRange coerce (raw.get "context_version") 1 1 9007199254740991
        "project_context.context_version must be a positive safe integer")
    let sourceKind ← optionalString (raw.get "source_kind") "project_context.source_kind" 32
    let sourceKind ← sourceKindOf sourceKind
    let contextRef ← optionalString (raw.get "context_ref") "project_context.context_ref" 8192
    let sourceEntryId ← optionalString (raw.get "source_entry_id")
      "project_context.source_entry_id" 256
    return { projectId, contextVersion, contextRef, sourceEntryId, sourceKind }

def nativeSkillsOf (value : ScriptValue) : Except String (List NativeSkill) :=
  match value.items? with
  | none => .ok []
  | some items => (items.take 10).zipIdx.mapM fun (item, index) => do
    let skill := asRecord (some item)
    let name ← requiredString (skill.get "name") (itemLabel "native_skills" index ++ ".name") 256
    let path ← requiredString (skill.get "path") (itemLabel "native_skills" index ++ ".path") 4096
    return { name, path }

def handoffOf (value : ScriptValue) : Except String (Option HandoffRequest) :=
  unlessNullish value do
    let handoff := asRecord value
    let returnEntryId ← optionalString (handoff.get "return_entry_id") "handoff.return_entry_id" 256
    let requiredEvidence ← stringArray (handoff.get "required_evidence")
      "handoff.required_evidence" 64 256
    return { returnEntryId, requiredEvidence }

def checkResultProtocol (value : ScriptValue) : Except String Unit := do
  let handoff := asRecord value
  let resultProtocol ← orDefault (handoff.get "result_protocol") executionResultProtocol
    (requiredString (handoff.get "result_protocol") "handoff.result_protocol" 128)
  ensure (value.isNullish ∨ resultProtocol = executionResultProtocol)
    "unsupported handoff.result_protocol"

def baseRefOf (value : ScriptValue) : Except String (Option String) :=
  unlessNullish value do
    let baseRef ← requiredString value "target.base_ref" 256
    ensure (baseRef.toList.head? ≠ some '-') "target.base_ref must not start with a dash"
    return baseRef

def validateTask (leaseTask : Json) : Except String HostTask := do
  let raw := asRecord (some leaseTask)
  ensure ((raw.get "protocol").text? = some remoteTaskProtocol)
    "unsupported Zero3 remote task protocol"
  let target := asRecord (raw.get "target")
  let execution := asRecord (raw.get "execution")
  let permission ← orDefault (raw.get "permission_profile") "standard"
    (requiredString (raw.get "permission_profile") "permission_profile" 32)
  let permissionProfile ← orError (PermissionProfile.ofName? permission)
    "unsupported remote permission_profile"
  let maxTurns ← integerInRange coerce (execution.get "max_turns") 1 1 32
    "execution.max_turns must be an integer from 1 to 32"
  let timeoutSeconds ← integerInRange coerce (execution.get "timeout_seconds") 3600 30 28800
    "execution.timeout_seconds must be an integer from 30 to 28800"
  let baseRef ← baseRefOf (target.get "base_ref")
  let projectContext ← optionalContextRef coerce (raw.get "project_context")
  checkResultProtocol (raw.get "handoff")
  let nativeSkills ← nativeSkillsOf (raw.get "native_skills")
  let taskId ← requiredString (raw.get "task_id") "task_id" 256
  let executionId ← requiredString (raw.get "execution_id") "execution_id" 256
  let objective ← requiredString (raw.get "objective") "objective" 64000
  let workspace ← requiredString (target.get "workspace") "target.workspace" 4096
  let constraints ← stringArray (raw.get "constraints") "constraints" 64 4096
  let acceptanceCriteria ← stringArray (raw.get "acceptance_criteria") "acceptance_criteria" 64 4096
  let handoff ← handoffOf (raw.get "handoff")
  return {
    taskId, executionId, objective, constraints, acceptanceCriteria, nativeSkills,
    permissionProfile, projectContext, handoff
    target := { workspace, baseRef }
    execution := {
      maxTurns, timeoutSeconds
      requireCleanWorktree := (execution.get "require_clean_worktree").isTrue
      requireCleanWorktreeOnSuccess := (execution.get "require_clean_worktree_on_success").isTrue
      requireRemoteSyncOnSuccess := (execution.get "require_remote_sync_on_success").isTrue } }

/-! ## What the checks let through -/

def IsText (max : Nat) (value : ScriptValue) (text : String) : Prop :=
  ∃ raw, value.text? = some raw ∧ text = scriptTrim raw ∧ text ≠ "" ∧ utf16Length text ≤ max

variable {value : ScriptValue}

@[simp] theorem orDefault_ok {α : Type} {fallback result : α} {check : Except String α} :
    orDefault value fallback check = .ok result ↔ (value.isNullish = true ∧ result = fallback) ∨
        (value.isNullish = false ∧ check = .ok result) := by
  unfold orDefault
  cases value.isNullish
  · simp
  · simp [eq_comm]

@[simp] theorem unlessNullish_ok {α : Type} {result : Option α} {check : Except String α} :
    unlessNullish value check = .ok result ↔ (value.isNullish = true ∧ result = none) ∨
        (value.isNullish = false ∧ ∃ checked, check = .ok checked ∧ result = some checked) := by
  unfold unlessNullish
  rw [orDefault_ok]
  refine or_congr_right (and_congr_right fun _ => ?_)
  cases check with
  | error error => simp [Except.map]
  | ok checked => simp [Except.map, eq_comm]

theorem requiredString_ok {label text : String} {max : Nat} :
    requiredString value label max = .ok text ↔ IsText max value text := by
  unfold requiredString IsText
  simp only [bind_ok, ensure_ok, pure_ok, exists_const]
  cases value.text? with
  | none =>
    -- the trimmed text is empty
    have empty : scriptTrim "" = "" := by decide
    simp [empty]
  | some raw =>
    simp only [Option.getD_some, Option.some.injEq, exists_eq_left']
    constructor
    · rintro ⟨⟨nonempty, short⟩, rfl⟩
      exact ⟨rfl, nonempty, short⟩
    · rintro ⟨rfl, nonempty, short⟩
      exact ⟨⟨nonempty, short⟩, rfl⟩

theorem requiredItems_ok {items : List Json} {label : String} {max : Nat} {texts : List String} :
    requiredItems items label max = .ok texts ↔
      List.Forall₂ (fun item => IsText max (some item)) items texts := by
  unfold requiredItems
  -- the indices only enter the labels
  generalize 0 = start
  induction items generalizing texts start with
  | nil =>
    rw [List.zipIdx_nil, List.mapM_nil, pure_ok, List.forall₂_nil_left_iff]
    exact eq_comm
  | cons item items ih =>
    rw [List.zipIdx_cons, List.mapM_cons]
    simp only [bind_ok, pure_ok, requiredString_ok, ih, List.forall₂_cons_left_iff]
    constructor
    · rintro ⟨text, first, rest, later, rfl⟩
      exact ⟨text, rest, first, later, rfl⟩
    · rintro ⟨text, rest, first, later, rfl⟩
      exact ⟨text, first, rest, later, rfl⟩

theorem stringArray_ok {label : String} {maxItems max : Nat} {texts : List String} :
    stringArray value label maxItems max = .ok texts ↔ (value.isNullish = true ∧ texts = []) ∨
        (value.isNullish = false ∧ ∃ items, value.items? = some items ∧ items.length ≤ maxItems ∧
          List.Forall₂ (fun item => IsText max (some item)) items texts) := by
  unfold stringArray
  simp only [orDefault_ok, bind_ok, orError_ok, ensure_ok, requiredItems_ok, exists_const]

/-- Exactly the integers in the range pass; an absent number takes the default. -/
theorem integerInRange_ok {fallback min max n : Nat} {error : String} :
    integerInRange coerce value fallback min max error = .ok n ↔
      (value.isNullish = true ∧ n = fallback) ∨
        (value.isNullish = false ∧ toInteger? coerce value = some (n : Int) ∧ min ≤ n ∧ n ≤ max) := by
  unfold integerInRange
  simp only [orDefault_ok, bind_ok, orError_ok, ensure_ok, pure_ok, exists_const]
  refine or_congr_right (and_congr_right fun _ => ?_)
  constructor
  · rintro ⟨number, read, ⟨above, below⟩, rfl⟩
    have same : (number.toNat : Int) = number := by omega
    exact ⟨by rw [read, same], by omega, by omega⟩
  · rintro ⟨read, above, below⟩
    exact ⟨n, read, ⟨by omega, by omega⟩, by omega⟩

/-- **What a task says of the lease task it was validated from**, field by field. -/
structure Validated (leaseTask : Json) (task : HostTask) : Prop where
  taskId : requiredString ((asRecord (some leaseTask)).get "task_id") "task_id" 256 = .ok task.taskId
  objective : requiredString ((asRecord (some leaseTask)).get "objective") "objective" 64000 =
    .ok task.objective
  workspace : requiredString ((asRecord ((asRecord (some leaseTask)).get "target")).get "workspace")
    "target.workspace" 4096 = .ok task.target.workspace
  baseRef : baseRefOf ((asRecord ((asRecord (some leaseTask)).get "target")).get "base_ref") =
    .ok task.target.baseRef
  constraints : stringArray ((asRecord (some leaseTask)).get "constraints") "constraints" 64 4096 =
    .ok task.constraints
  acceptanceCriteria : stringArray ((asRecord (some leaseTask)).get "acceptance_criteria")
    "acceptance_criteria" 64 4096 = .ok task.acceptanceCriteria
  nativeSkills : nativeSkillsOf ((asRecord (some leaseTask)).get "native_skills") =
    .ok task.nativeSkills
  permission : ∃ name, PermissionProfile.ofName? name = some task.permissionProfile ∧
    orDefault ((asRecord (some leaseTask)).get "permission_profile") "standard"
      (requiredString ((asRecord (some leaseTask)).get "permission_profile")
        "permission_profile" 32) = .ok name
  maxTurns : integerInRange coerce
    ((asRecord ((asRecord (some leaseTask)).get "execution")).get "max_turns") 1 1 32
    "execution.max_turns must be an integer from 1 to 32" = .ok task.execution.maxTurns
  timeoutSeconds : integerInRange coerce
    ((asRecord ((asRecord (some leaseTask)).get "execution")).get "timeout_seconds") 3600 30 28800
    "execution.timeout_seconds must be an integer from 30 to 28800" =
      .ok task.execution.timeoutSeconds
  gates : task.execution.requireCleanWorktree =
      ((asRecord ((asRecord (some leaseTask)).get "execution")).get "require_clean_worktree").isTrue ∧
    task.execution.requireCleanWorktreeOnSuccess =
      ((asRecord ((asRecord (some leaseTask)).get "execution")).get
        "require_clean_worktree_on_success").isTrue ∧
    task.execution.requireRemoteSyncOnSuccess =
      ((asRecord ((asRecord (some leaseTask)).get "execution")).get
        "require_remote_sync_on_success").isTrue

variable {coerce}

section

variable {leaseTask : Json} {task : HostTask} (valid : validateTask coerce leaseTask = .ok task)
include valid

theorem validateTask_ok : Validated coerce leaseTask task := by
  unfold validateTask at valid
  simp only [bind_ok, ensure_ok, orError_ok, pure_ok, exists_const] at valid
  obtain ⟨-, permission, isPermission, profile, isProfile, maxTurns, isMaxTurns, timeoutSeconds,
    isTimeout, baseRef, isBaseRef, context, -, -, -, skills, areSkills, taskId, isTaskId, executionId,
    -, objective, isObjective, workspace, isWorkspace, constraints, areConstraints, criteria,
    areCriteria, handoff, -, rfl⟩ := valid
  exact ⟨isTaskId, isObjective, isWorkspace, isBaseRef, areConstraints, areCriteria, areSkills,
    ⟨permission, isProfile, isPermission⟩, isMaxTurns, isTimeout, rfl, rfl, rfl⟩

theorem timeoutSeconds_pos : 0 < task.execution.timeoutSeconds := by
  rcases (integerInRange_ok coerce).1 (validateTask_ok valid).timeoutSeconds with
    ⟨-, byDefault⟩ | ⟨-, -, above, -⟩
  · omega
  · omega

end

/-! ## The text a fingerprint is taken of -/

open ControlPlane (optionalMember string_injective nat_injective)

def TaskTarget.toJson (target : TaskTarget) : Json :=
  .object (("workspace", .string target.workspace) ::
    optionalMember "base_ref" (target.baseRef.map .string))

def NativeSkill.toJson (skill : NativeSkill) : Json :=
  .object [("name", .string skill.name), ("path", .string skill.path)]

def TaskExecution.toJson (execution : TaskExecution) : Json :=
  .object [("max_turns", .nat execution.maxTurns),
    ("timeout_seconds", .nat execution.timeoutSeconds),
    ("require_clean_worktree", .bool execution.requireCleanWorktree),
    ("require_clean_worktree_on_success", .bool execution.requireCleanWorktreeOnSuccess),
    ("require_remote_sync_on_success", .bool execution.requireRemoteSyncOnSuccess)]

def ProjectContextRef.toJson (context : ProjectContextRef) : Json :=
  .object (("project_id", .string context.projectId) ::
    optionalMember "context_version" (context.contextVersion.map .nat) ++
    optionalMember "context_ref" (context.contextRef.map .string) ++
    optionalMember "source_entry_id" (context.sourceEntryId.map .string) ++
    optionalMember "source_kind" (context.sourceKind.map fun kind => .string kind.name))

def HandoffRequest.toJson (handoff : HandoffRequest) : Json :=
  .object (("result_protocol", .string executionResultProtocol) ::
    optionalMember "return_entry_id" (handoff.returnEntryId.map .string) ++
    [("required_evidence", .array (handoff.requiredEvidence.map .string))])

def skillsJson : List NativeSkill → Option Json
  | [] => none
  | skills => some (.array (skills.map NativeSkill.toJson))

def HostTask.toJson (task : HostTask) : Json :=
  .object ([("protocol", .string remoteTaskProtocol), ("task_id", .string task.taskId),
      ("execution_id", .string task.executionId), ("objective", .string task.objective),
      ("target", task.target.toJson),
      ("constraints", .array (task.constraints.map .string)),
      ("acceptance_criteria", .array (task.acceptanceCriteria.map .string))] ++
    optionalMember "native_skills" (skillsJson task.nativeSkills) ++
    [("permission_profile", .string task.permissionProfile.name),
      ("execution", task.execution.toJson)] ++
    optionalMember "project_context" (task.projectContext.map ProjectContextRef.toJson) ++
    optionalMember "handoff" (task.handoff.map HandoffRequest.toJson))

theorem TaskTarget.toJson_injective : Function.Injective toJson := by
  intro left right same
  have member (name : String) := congrArg (Json.get · name) same
  have workspace := member "workspace"
  have baseRef := member "base_ref"
  simp [toJson, Json.get, List.lookup_cons] at workspace baseRef
  have baseRef := Option.map_injective string_injective baseRef
  cases left; cases right
  simp_all

theorem NativeSkill.toJson_injective : Function.Injective toJson := by
  intro left right same
  cases left; cases right
  simpa [toJson] using same

theorem TaskExecution.toJson_injective : Function.Injective toJson := by
  intro left right same
  cases left; cases right
  simpa [toJson] using same

theorem SourceKind.name_injective : Function.Injective name := by
  intro left right same
  cases left <;> cases right <;> first | rfl | simp [name] at same

theorem ProjectContextRef.toJson_injective : Function.Injective toJson := by
  intro left right same
  have member (name : String) := congrArg (Json.get · name) same
  have projectId := member "project_id"
  have contextVersion := member "context_version"
  have contextRef := member "context_ref"
  have sourceEntryId := member "source_entry_id"
  have sourceKind := member "source_kind"
  simp [toJson, Json.get, List.lookup_cons] at projectId contextVersion contextRef
  simp [toJson, Json.get, List.lookup_cons] at sourceEntryId sourceKind
  have contextVersion := Option.map_injective nat_injective contextVersion
  have contextRef := Option.map_injective string_injective contextRef
  have sourceEntryId := Option.map_injective string_injective sourceEntryId
  have sourceKind := Option.map_injective
    (string_injective.comp SourceKind.name_injective) sourceKind
  cases left; cases right
  simp_all

theorem HandoffRequest.toJson_injective : Function.Injective toJson := by
  intro left right same
  have member (name : String) := congrArg (Json.get · name) same
  have returnEntryId := member "return_entry_id"
  have requiredEvidence := member "required_evidence"
  simp [toJson, Json.get, List.lookup_cons] at returnEntryId requiredEvidence
  have returnEntryId := Option.map_injective string_injective returnEntryId
  have requiredEvidence := List.map_injective_iff.2 string_injective requiredEvidence
  cases left; cases right
  simp_all

theorem skillsJson_injective : Function.Injective skillsJson := by
  intro left right same
  cases left with
  | nil => cases right <;> simp_all [skillsJson]
  | cons first rest =>
    cases right with
    | nil => simp [skillsJson] at same
    | cons first' rest' =>
      have items := Json.array.inj (Option.some.inj same)
      exact List.map_injective_iff.2 NativeSkill.toJson_injective items

/-- **The JSON of a task determines the task.** -/
theorem HostTask.toJson_injective : Function.Injective toJson := by
  intro left right same
  have member (name : String) := congrArg (Json.get · name) same
  have taskId := member "task_id"
  have executionId := member "execution_id"
  have objective := member "objective"
  have target := member "target"
  have constraints := member "constraints"
  have acceptanceCriteria := member "acceptance_criteria"
  have nativeSkills := member "native_skills"
  have permissionProfile := member "permission_profile"
  have execution := member "execution"
  have projectContext := member "project_context"
  have handoff := member "handoff"
  simp [toJson, Json.get, List.lookup_cons] at taskId executionId objective target constraints
  simp [toJson, Json.get, List.lookup_cons] at acceptanceCriteria nativeSkills permissionProfile
  simp [toJson, Json.get, List.lookup_cons] at execution projectContext handoff
  have target := TaskTarget.toJson_injective target
  have constraints := List.map_injective_iff.2 string_injective constraints
  have acceptanceCriteria := List.map_injective_iff.2 string_injective acceptanceCriteria
  have nativeSkills := skillsJson_injective nativeSkills
  have permissionProfile := PermissionProfile.name_injective permissionProfile
  have execution := TaskExecution.toJson_injective execution
  have projectContext := Option.map_injective ProjectContextRef.toJson_injective projectContext
  have handoff := Option.map_injective HandoffRequest.toJson_injective handoff
  cases left; cases right
  simp_all

end Zero3Pilot.RemoteHost
