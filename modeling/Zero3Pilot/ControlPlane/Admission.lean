import Zero3Pilot.Foundations.ScriptValue
import Zero3Pilot.ControlPlane.Validation

/-! # Admission of remote tasks

How a task request enters the control plane: the `Deserialize` instances that `serde` derives for the
task structs of `apps/web/src/control_plane.rs`, and the checks of `apps/web/src/control_admission.rs`
on what they read. A member the structs do not list is read over. The positional form `serde` also
takes, an array of the fields in order, is left out: no client writes it. -/

namespace Zero3Pilot.ControlPlane

/-- The largest `u32`. -/
def u32Max : Nat := 4294967295

/-! ## Reading a struct -/

/-- The value of a field, if the object has one; a field that occurs twice is an error. -/
def field (members : List (String × Json)) (name : String) : Option (Option Json) :=
  if (members.map Prod.fst).count name ≤ 1 then some (members.lookup name) else none

/-- A field the object must have. -/
def requiredField {α : Type} (members : List (String × Json)) (name : String)
    (read : Json → Option α) : Option α :=
  (field members name).bind fun value => value.bind read

/-- A field with `#[serde(default)]` and an `Option` type: absent and `null` are none. -/
def optionalField {α : Type} (members : List (String × Json)) (name : String)
    (read : Json → Option α) : Option (Option α) :=
  (field members name).bind fun value =>
    match value with
    | none | some .null => some none
    | some value => (read value).map some

def readString : Json → Option String
  | .string text => some text
  | _ => none

def readBool : Json → Option Bool
  | .bool value => some value
  | _ => none

/-- `Vec<String>`. -/
def readStrings : Json → Option (List String)
  | .array items => items.mapM readString
  | _ => none

/-- An unsigned integer of at most `max`: a literal with a sign, a fraction or an exponent is not. -/
def readUnsigned (max : Nat) : Json → Option Nat
  | .number literal =>
    if literal.text.all Char.isDigit ∧ Nat.ofDigitChars 10 literal.text 0 ≤ max then
      some (Nat.ofDigitChars 10 literal.text 0)
    else none
  | _ => none

def RemoteTaskTarget.fromJson : Json → Option RemoteTaskTarget
  | .object members => do
    let workspace ← requiredField members "workspace" readString
    let baseRef ← optionalField members "base_ref" readString
    return { workspace, baseRef }
  | _ => none

def RemoteTaskExecution.fromJson : Json → Option RemoteTaskExecution
  | .object members => do
    let maxTurns ← optionalField members "max_turns" (readUnsigned u32Max)
    let timeoutSeconds ← optionalField members "timeout_seconds" (readUnsigned u64Max)
    let requireCleanWorktree ← optionalField members "require_clean_worktree" readBool
    return { maxTurns, timeoutSeconds, requireCleanWorktree }
  | _ => none

def RemoteTask.fromJson : Json → Option RemoteTask
  | .object members => do
    let protocol ← requiredField members "protocol" readString
    let taskId ← requiredField members "task_id" readString
    let executionId ← requiredField members "execution_id" readString
    let objective ← requiredField members "objective" readString
    let target ← requiredField members "target" RemoteTaskTarget.fromJson
    let constraints ← optionalField members "constraints" readStrings
    let acceptanceCriteria ← optionalField members "acceptance_criteria" readStrings
    let permissionProfile ← optionalField members "permission_profile" readString
    let execution ← optionalField members "execution" RemoteTaskExecution.fromJson
    return {
      protocol, taskId, executionId, objective, target, constraints, acceptanceCriteria,
      permissionProfile, execution }
  | _ => none

/-! ## The checks -/

def validateText (value : String) (max : Nat) (message : String) : Except String Unit :=
  ensure (trim value ≠ "" ∧ (trim value).utf8ByteSize ≤ max) message

/-- `validate_list`; the length of an item is taken before it is trimmed. -/
def validateList (values : Option (List String)) (label : String) : Except String Unit :=
  match values with
  | none => .ok ()
  | some values => do
    ensure (values.length ≤ 64) (label ++ " must contain at most 64 items")
    ensure (∀ value ∈ values, trim value ≠ "" ∧ value.utf8ByteSize ≤ 4096)
      ("each " ++ label ++ " item must be non-empty and at most 4096 characters")

def validateExecution (execution : RemoteTaskExecution) : Except String Unit := do
  ensure (∀ maxTurns ∈ execution.maxTurns, 1 ≤ maxTurns ∧ maxTurns ≤ 32)
    "execution.max_turns must be an integer from 1 to 32"
  ensure (∀ timeoutSeconds ∈ execution.timeoutSeconds, 30 ≤ timeoutSeconds ∧ timeoutSeconds ≤ 28800)
    "execution.timeout_seconds must be an integer from 30 to 28800"

def validateRemoteTask (task : RemoteTask) : Except String Unit := do
  ensure (task.protocol = remoteTaskProtocol) "unsupported Zero3 remote task protocol"
  validateText task.taskId 128 "task_id is required and must be at most 128 characters"
  validateText task.executionId 128 "execution_id is required and must be at most 128 characters"
  validateText task.objective 64000 "objective is required and must be at most 64000 characters"
  validateText task.target.workspace 4096
    "target.workspace is required and must be at most 4096 characters"
  match task.target.baseRef with
  | none => pure ()
  | some baseRef => validateText baseRef 256 "target.base_ref must be at most 256 characters"
  validateList task.constraints "constraints"
  validateList task.acceptanceCriteria "acceptance_criteria"
  ensure (task.permissionProfile.getD "standard" ∈
      ["read_only", "standard", "elevated", "full_control"])
    "unsupported remote permission_profile"
  match task.execution with
  | none => pure ()
  | some execution => validateExecution execution

def admitTask (body : Json) : Except ApiError RemoteTask := do
  let task ← orError (RemoteTask.fromJson body)
    ⟨.badRequest, "remote task request must be valid JSON matching the v1 schema"⟩
  match validateRemoteTask task with
  | .error message => .error ⟨.badRequest, message⟩
  | .ok _ => return task

/-! ## Reading back what is written -/

section Reading

variable {members : List (String × Json)}

theorem field_of_nodup (nodup : (members.map Prod.fst).Nodup) (name : String) :
    field members name = some (members.lookup name) :=
  if_pos (List.nodup_iff_count_le_one.1 nodup name)

theorem names_optionalMember (name : String) (value : Option Json) :
    ((optionalMember name value).map Prod.fst).Sublist [name] := by
  cases value with
  | none => exact List.nil_sublist _
  | some value => exact List.Sublist.refl _

@[simp] theorem readString_string (text : String) : readString (.string text) = some text := rfl

@[simp] theorem readBool_bool (value : Bool) : readBool (.bool value) = some value := rfl

@[simp] theorem readStrings_array (texts : List String) :
    readStrings (.array (texts.map .string)) = some texts := by
  rw [readStrings]
  induction texts with
  | nil => rfl
  | cons text texts ih =>
    rw [List.map_cons, List.mapM_cons, ih]
    rfl

theorem readUnsigned_nat {max n : Nat} (bounded : n ≤ max) :
    readUnsigned max (.nat n) = some n := by
  have digits : (Nat.toDigits 10 n).all Char.isDigit := by
    rw [List.all_eq_true]
    exact fun char member => Nat.isDigit_of_mem_toDigits (by decide) (by decide) member
  have value : Nat.ofDigitChars 10 (Nat.toDigits 10 n) 0 = n := Nat.ofDigitChars_ten_toDigits
  show (if (Nat.toDigits 10 n).all Char.isDigit ∧ Nat.ofDigitChars 10 (Nat.toDigits 10 n) 0 ≤ max then
    some (Nat.ofDigitChars 10 (Nat.toDigits 10 n) 0) else none) = some n
  rw [if_pos ⟨digits, by omega⟩, value]

theorem requiredField_of_lookup {α : Type} (nodup : (members.map Prod.fst).Nodup) {name : String}
    {written : Json} (found : members.lookup name = some written) (read : Json → Option α) :
    requiredField members name read = read written := by
  rw [requiredField, field_of_nodup nodup, found]
  rfl

theorem optionalField_of_lookup {α : Type} (nodup : (members.map Prod.fst).Nodup) {name : String}
    (write : α → Json) {value : Option α} (found : members.lookup name = value.map write)
    (proper : ∀ value, write value ≠ .null) {read : Json → Option α}
    (reads : ∀ written ∈ value, read (write written) = some written) :
    optionalField members name read = some value := by
  rw [optionalField, field_of_nodup nodup, found]
  cases value with
  | none => rfl
  | some value =>
    show (match some (write value) with
      | none | some .null => some none
      | some written => (read written).map some) = some (some value)
    split
    · cases ‹some (write value) = none›
    · exact absurd (Option.some.inj ‹some (write value) = some .null›) (proper value)
    · rename_i written _ isWritten
      rw [← Option.some.inj isWritten, reads value rfl]
      rfl

end Reading

theorem RemoteTaskTarget.names_nodup (target : RemoteTaskTarget) :
    ((("workspace", Json.string target.workspace) ::
      optionalMember "base_ref" (target.baseRef.map .string)).map Prod.fst).Nodup := by
  have names := (names_optionalMember "base_ref" (target.baseRef.map .string)).cons_cons "workspace"
  exact names.nodup (by simp)

@[simp] theorem RemoteTaskTarget.fromJson_toJson (target : RemoteTaskTarget) :
    fromJson target.toJson = some target := by
  have nodup := target.names_nodup
  have workspace := requiredField_of_lookup nodup List.lookup_cons_self readString
  have baseRef : optionalField _ "base_ref" readString = some target.baseRef :=
    optionalField_of_lookup nodup .string (by simp [List.lookup_cons]) (by simp) (by simp)
  rw [toJson, fromJson, workspace, baseRef]
  rfl

def RemoteTaskExecution.Fits (execution : RemoteTaskExecution) : Prop :=
  (∀ maxTurns ∈ execution.maxTurns, maxTurns ≤ u32Max) ∧
    ∀ timeoutSeconds ∈ execution.timeoutSeconds, timeoutSeconds ≤ u64Max

theorem RemoteTaskExecution.fromJson_toJson {execution : RemoteTaskExecution}
    (fits : execution.Fits) : fromJson execution.toJson = some execution := by
  have nodup : ((optionalMember "max_turns" (execution.maxTurns.map .nat) ++
      optionalMember "timeout_seconds" (execution.timeoutSeconds.map .nat) ++
      optionalMember "require_clean_worktree"
        (execution.requireCleanWorktree.map .bool)).map Prod.fst).Nodup := by
    have names := ((names_optionalMember "max_turns" (execution.maxTurns.map .nat)).append
      (names_optionalMember "timeout_seconds" (execution.timeoutSeconds.map .nat))).append
      (names_optionalMember "require_clean_worktree" (execution.requireCleanWorktree.map .bool))
    rw [List.map_append, List.map_append]
    exact names.nodup (by simp)
  have maxTurns : optionalField _ "max_turns" (readUnsigned u32Max) = some execution.maxTurns :=
    optionalField_of_lookup nodup .nat (by simp) (by simp [Json.nat])
      fun n isTurns => readUnsigned_nat (fits.1 n isTurns)
  have timeoutSeconds : optionalField _ "timeout_seconds" (readUnsigned u64Max) =
      some execution.timeoutSeconds :=
    optionalField_of_lookup nodup .nat (by simp) (by simp [Json.nat])
      fun n isTimeout => readUnsigned_nat (fits.2 n isTimeout)
  have requireClean : optionalField _ "require_clean_worktree" readBool =
      some execution.requireCleanWorktree :=
    optionalField_of_lookup nodup .bool (by simp) (by simp) (by simp)
  rw [toJson, fromJson, maxTurns, timeoutSeconds, requireClean]
  rfl

def RemoteTask.members (task : RemoteTask) : List (String × Json) :=
  [("protocol", .string task.protocol), ("task_id", .string task.taskId),
      ("execution_id", .string task.executionId), ("objective", .string task.objective),
      ("target", task.target.toJson)] ++
    optionalMember "constraints" (task.constraints.map fun values => .array (values.map .string)) ++
    optionalMember "acceptance_criteria"
      (task.acceptanceCriteria.map fun values => .array (values.map .string)) ++
    optionalMember "permission_profile" (task.permissionProfile.map .string) ++
    optionalMember "execution" (task.execution.map RemoteTaskExecution.toJson)

theorem RemoteTask.toJson_eq (task : RemoteTask) : task.toJson = .object task.members := rfl

theorem RemoteTask.names_nodup (task : RemoteTask) : (task.members.map Prod.fst).Nodup := by
  have fixed : List.Sublist ["protocol", "task_id", "execution_id", "objective", "target"]
      ["protocol", "task_id", "execution_id", "objective", "target"] := List.Sublist.refl _
  have names := (((fixed.append (names_optionalMember "constraints"
      (task.constraints.map fun values => .array (values.map .string)))).append
    (names_optionalMember "acceptance_criteria"
      (task.acceptanceCriteria.map fun values => .array (values.map .string)))).append
    (names_optionalMember "permission_profile" (task.permissionProfile.map .string))).append
    (names_optionalMember "execution" (task.execution.map RemoteTaskExecution.toJson))
  rw [members, List.map_append, List.map_append, List.map_append, List.map_append]
  exact names.nodup (by simp)

/-- **A task is read back** from its own JSON. -/
theorem RemoteTask.fromJson_toJson {task : RemoteTask}
    (fits : ∀ execution ∈ task.execution, execution.Fits) : fromJson task.toJson = some task := by
  have nodup := task.names_nodup
  have required {α : Type} {name : String} {value : α} (written : Json) (read : Json → Option α)
      (found : task.members.lookup name = some written) (reads : read written = some value) :
      requiredField task.members name read = some value := by
    rw [requiredField_of_lookup nodup found, reads]
  have protocol : requiredField task.members "protocol" readString = some task.protocol :=
    required (.string task.protocol) readString (by simp [members]) rfl
  have taskId : requiredField task.members "task_id" readString = some task.taskId :=
    required (.string task.taskId) readString (by simp [members, List.lookup_cons]) rfl
  have executionId : requiredField task.members "execution_id" readString = some task.executionId :=
    required (.string task.executionId) readString (by simp [members, List.lookup_cons]) rfl
  have objective : requiredField task.members "objective" readString = some task.objective :=
    required (.string task.objective) readString (by simp [members, List.lookup_cons]) rfl
  have target : requiredField task.members "target" RemoteTaskTarget.fromJson = some task.target :=
    required task.target.toJson RemoteTaskTarget.fromJson (by simp [members, List.lookup_cons])
      task.target.fromJson_toJson
  have constraints : optionalField task.members "constraints" readStrings = some task.constraints :=
    optionalField_of_lookup nodup _ (by simp [members, List.lookup_cons]) (by simp)
      fun texts _ => readStrings_array texts
  have acceptanceCriteria : optionalField task.members "acceptance_criteria" readStrings =
      some task.acceptanceCriteria :=
    optionalField_of_lookup nodup _ (by simp [members, List.lookup_cons]) (by simp)
      fun texts _ => readStrings_array texts
  have permissionProfile : optionalField task.members "permission_profile" readString =
      some task.permissionProfile :=
    optionalField_of_lookup nodup .string (by simp [members, List.lookup_cons]) (by simp) (by simp)
  have execution : optionalField task.members "execution" RemoteTaskExecution.fromJson =
      some task.execution :=
    optionalField_of_lookup nodup RemoteTaskExecution.toJson
      (by simp [members, List.lookup_cons]) (by simp [RemoteTaskExecution.toJson])
      fun execution isExecution => RemoteTaskExecution.fromJson_toJson (fits execution isExecution)
  rw [toJson_eq, fromJson, protocol, taskId, executionId, objective, target, constraints,
    acceptanceCriteria, permissionProfile, execution]
  rfl

end Zero3Pilot.ControlPlane
