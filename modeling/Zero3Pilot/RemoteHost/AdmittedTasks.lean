import Zero3Pilot.ControlPlane.Admission
import Zero3Pilot.Foundations.PrettyJson
import Zero3Pilot.RemoteHost.HostTask

/-! # Admitted tasks at the host

A task that `apps/web/src/control_admission.rs` and `control_plane.rs` let through, as the Remote Host
takes it from its lease. The two sides measure texts differently and trim different characters, and
only the host looks at the start of a base reference. -/

namespace Zero3Pilot.RemoteHost

open ScriptValue
open Json (bytes bytes_append)
open ControlPlane (IsId RemoteTask RemoteTaskExecution RemoteTaskTarget admitTask isIdChar trim
  validateExecution validateList validateRemoteTask)

/-! ## Lengths -/

theorem utf16Units_le (char : Char) : utf16Units char ≤ char.utf8Size := by
  unfold utf16Units
  split
  · exact char.utf8Size_pos
  · rename_i large
    have isVal : char.toNat = char.val.toNat := rfl
    simp only [Char.utf8Size, UInt32.le_iff_toNat_le, UInt32.toNat_ofNatLT]
    -- the shorter encodings are those of smaller code points
    split_ifs <;> omega

/-- A text is no longer in UTF-16 units than in bytes. -/
theorem utf16Length_le (text : String) : utf16Length text ≤ bytes text.toList := by
  rw [utf16Length]
  induction text.toList with
  | nil => exact Nat.le_refl 0
  | cons char chars ih => exact Nat.add_le_add (utf16Units_le char) ih

theorem bytes_toList (text : String) : bytes text.toList = text.utf8ByteSize := by
  induction text using String.push_induction with
  | empty => rfl
  | push text char ih =>
    rw [String.toList_push, bytes_append, ih, String.utf8ByteSize_push]
    rfl

theorem bytes_sublist {chars others : List Char} (sublist : chars.Sublist others) :
    bytes chars ≤ bytes others := by
  induction sublist with
  | slnil => exact Nat.le_refl _
  | cons char _ ih => exact Nat.le_trans ih (Nat.le_add_left _ _)
  | cons_cons char _ ih => exact Nat.add_le_add_left ih _

theorem utf16Length_scriptTrim_le (text : String) :
    utf16Length (scriptTrim text) ≤ text.utf8ByteSize := by
  refine Nat.le_trans (utf16Length_le _) ?_
  rw [← bytes_toList, scriptTrim, trimWith, String.toList_ofList]
  exact bytes_sublist ((List.rdropWhile_prefix _ _).sublist.trans (List.dropWhile_sublist _))

/-! ## Single fields -/

/-- A text the host takes. -/
def HostText (max : Nat) (text : String) : Prop :=
  scriptTrim text ≠ "" ∧ utf16Length (scriptTrim text) ≤ max

theorem requiredString_written {label text : String} {max : Nat} :
    (∃ result, requiredString (some (.string text)) label max = .ok result) ↔ HostText max text := by
  simp only [requiredString_ok]
  constructor
  · rintro ⟨_, _, ⟨⟩, rfl, taken⟩
    exact taken
  · rintro taken
    exact ⟨_, text, rfl, rfl, taken⟩

theorem hostText_of_isId {text : String} (isId : IsId text) : HostText 256 text := by
  have trimmed : scriptTrim text = text := by
    refine trimWith_eq_self fun char member => ?_
    have idChar := List.all_eq_true.1 isId.plain char member
    have small : 0x20 < char.toNat ∧ char.toNat < 0x80 := by
      simp only [isIdChar, Bool.or_eq_true, beq_iff_eq] at idChar
      rcases idChar with ((alphanum | rfl) | rfl) | rfl
      · exact bounds_of_isAlphanum alphanum
      all_goals decide
    simp only [isScriptWhitespace, isCommonWhitespace, Bool.or_eq_false_iff, Bool.and_eq_false_iff,
      decide_eq_false_iff_not]
    omega
  have short := utf16Length_scriptTrim_le text
  have bounded := isId.short
  exact ⟨trimmed.symm ▸ isId.nonempty, by omega⟩

theorem baseRefOf_written {baseRef : Option String} :
    (∃ result, baseRefOf (baseRef.map .string) = .ok result) ↔
      ∀ text ∈ baseRef, HostText 256 text ∧ (scriptTrim text).toList.head? ≠ some '-' := by
  cases baseRef with
  | none => simp [baseRefOf, unlessNullish, orDefault, isNullish]
  | some text =>
    simp only [baseRefOf, Option.map_some, unlessNullish_ok, isNullish, reduceCtorEq, false_and,
      true_and, false_or, bind_ok, ensure_ok, pure_ok, requiredString_ok, exists_const,
      Option.mem_def, Option.some.injEq, forall_eq']
    constructor
    · rintro ⟨_, _, ⟨_, ⟨_, ⟨⟩, rfl, taken⟩, plain, rfl⟩, rfl⟩
      exact ⟨taken, plain⟩
    · rintro ⟨taken, plain⟩
      exact ⟨_, _, ⟨_, ⟨text, rfl, rfl, taken⟩, plain, rfl⟩, rfl⟩

theorem requiredItems_written {label : String} {texts : List String} {max : Nat} :
    (∃ results, requiredItems (texts.map .string) label max = .ok results) ↔
      ∀ text ∈ texts, HostText max text := by
  simp only [requiredItems_ok]
  induction texts with
  | nil => exact ⟨fun _ _ member => absurd member List.not_mem_nil, fun _ => ⟨[], .nil⟩⟩
  | cons text texts ih =>
    rw [List.forall_mem_cons, ← ih]
    constructor
    · rintro ⟨_, each⟩
      cases each with
      | cons first later =>
        exact ⟨(@requiredString_written label _ _).1 ⟨_, requiredString_ok.2 first⟩, _, later⟩
    · rintro ⟨taken, results, later⟩
      exact ⟨_, .cons ⟨text, rfl, rfl, taken⟩ later⟩

theorem stringArray_written {label : String} {values : Option (List String)} {maxItems max : Nat}
    (few : ∀ texts ∈ values, texts.length ≤ maxItems) :
    (∃ results, stringArray (values.map fun texts => .array (texts.map .string)) label maxItems max =
        .ok results) ↔
      ∀ texts ∈ values, ∀ text ∈ texts, HostText max text := by
  cases values with
  | none => simp [stringArray, orDefault, isNullish]
  | some texts =>
    have short : (texts.map Json.string).length ≤ maxItems := by
      rw [List.length_map]
      exact few texts rfl
    simp only [stringArray, Option.map_some, orDefault_ok, isNullish, reduceCtorEq, false_and,
      true_and, false_or, bind_ok, orError_ok, ensure_ok, items?, Option.some.injEq,
      exists_eq_left', short, exists_const, requiredItems_written, Option.mem_def, forall_eq']

theorem integerInRange_written (coerce : Json → Option Int) {value : Option Nat}
    {fallback min max : Nat} {error : String} (fits : ∀ n ∈ value, min ≤ n ∧ n ≤ max) :
    ∃ n, integerInRange coerce (value.map .nat) fallback min max error = .ok n := by
  simp only [integerInRange_ok]
  cases value with
  | none => exact ⟨_, .inl ⟨rfl, rfl⟩⟩
  | some n => exact ⟨n, .inr ⟨rfl, toInteger?_nat coerce n, fits n rfl⟩⟩

/-! ## Tasks -/

theorem validateList_ok {values : Option (List String)} {label : String}
    (passed : validateList values label = .ok ()) :
    ∀ texts ∈ values, texts.length ≤ 64 ∧ ∀ text ∈ texts, text.utf8ByteSize ≤ 4096 := by
  rintro texts rfl
  simp only [validateList, bind_ok, ensure_ok, exists_const] at passed
  exact ⟨passed.1, fun text member => (passed.2 text member).2⟩

/-- What the admission shows of the fields that the host checks by the same bounds. -/
structure Admitted (task : RemoteTask) : Prop where
  protocol : task.protocol = remoteTaskProtocol
  constraints : validateList task.constraints "constraints" = .ok ()
  criteria : validateList task.acceptanceCriteria "acceptance_criteria" = .ok ()
  permission : task.permissionProfile.getD "standard" ∈
    ["read_only", "standard", "elevated", "full_control"]
  execution : ∀ execution ∈ task.execution, validateExecution execution = .ok ()

theorem validateRemoteTask_ok {task : RemoteTask} (passed : validateRemoteTask task = .ok ()) :
    Admitted task := by
  simp only [validateRemoteTask, bind_ok, ensure_ok, exists_const] at passed
  obtain ⟨protocol, _, _, _, _, _, _, _, _, passed⟩ := passed
  have later : validateList task.constraints "constraints" = .ok () ∧
      validateList task.acceptanceCriteria "acceptance_criteria" = .ok () ∧
      task.permissionProfile.getD "standard" ∈ ["read_only", "standard", "elevated", "full_control"] ∧
      ∀ execution ∈ task.execution, validateExecution execution = .ok () := by
    cases baseRef : task.target.baseRef with
    | none =>
      simp only [baseRef, bind_ok, ensure_ok] at passed
      obtain ⟨_, constraints, _, criteria, _, permission, passed⟩ := passed
      exact ⟨constraints, criteria, permission, fun execution isExecution => by
        rwa [isExecution] at passed⟩
    | some text =>
      simp only [baseRef, bind_ok, ensure_ok] at passed
      obtain ⟨_, _, _, constraints, _, criteria, _, permission, passed⟩ := passed
      exact ⟨constraints, criteria, permission, fun execution isExecution => by
        rwa [isExecution] at passed⟩
  obtain ⟨constraints, criteria, permission, execution⟩ := later
  exact ⟨protocol, constraints, criteria, permission, execution⟩

theorem permission_written {profile : Option String}
    (known : profile.getD "standard" ∈ ["read_only", "standard", "elevated", "full_control"]) :
    ∃ name, orDefault (profile.map Json.string) "standard"
        (requiredString (profile.map Json.string) "permission_profile" 32) = .ok name ∧
      ∃ found, PermissionProfile.ofName? name = some found := by
  cases profile with
  | none => exact ⟨"standard", rfl, .standard, rfl⟩
  | some name =>
    simp only [Option.getD_some, List.mem_cons, List.not_mem_nil, or_false] at known
    rcases known with rfl | rfl | rfl | rfl
    · exact ⟨"read_only", rfl, .readOnly, rfl⟩
    · exact ⟨"standard", rfl, .standard, rfl⟩
    · exact ⟨"elevated", rfl, .elevated, rfl⟩
    · exact ⟨"full_control", rfl, .fullControl, rfl⟩

theorem execution_written (coerce : Json → Option Int) {execution : Option RemoteTaskExecution}
    (valid : ∀ given ∈ execution, validateExecution given = .ok ()) :
    ∃ maxTurns timeoutSeconds,
      integerInRange coerce ((asRecord (execution.map RemoteTaskExecution.toJson)).get "max_turns")
        1 1 32 "execution.max_turns must be an integer from 1 to 32" = .ok maxTurns ∧
      integerInRange coerce
        ((asRecord (execution.map RemoteTaskExecution.toJson)).get "timeout_seconds") 3600 30 28800
        "execution.timeout_seconds must be an integer from 30 to 28800" = .ok timeoutSeconds := by
  cases execution with
  | none => exact ⟨1, 3600, rfl, rfl⟩
  | some execution =>
    have inRange := valid execution rfl
    simp only [validateExecution, bind_ok, ensure_ok, exists_const] at inRange
    have turns : execution.toJson.get "max_turns" = execution.maxTurns.map .nat := by
      simp [RemoteTaskExecution.toJson, Json.get]
    have timeout : execution.toJson.get "timeout_seconds" = execution.timeoutSeconds.map .nat := by
      simp [RemoteTaskExecution.toJson, Json.get]
    obtain ⟨maxTurns, isTurns⟩ := integerInRange_written coerce inRange.1
    obtain ⟨timeoutSeconds, isTimeout⟩ := integerInRange_written coerce inRange.2
    refine ⟨maxTurns, timeoutSeconds, ?_, ?_⟩
    · show integerInRange coerce (execution.toJson.get "max_turns") _ _ _ _ = _
      rw [turns, isTurns]
    · show integerInRange coerce (execution.toJson.get "timeout_seconds") _ _ _ _ = _
      rw [timeout, isTimeout]

/-- **What the host asks of an admitted task beyond its admission**: its texts are not blank to a
script, which takes a byte order mark for white space; they are short where a script leaves a next-line
character at their ends; and the base reference does not start with a dash. -/
structure HostReadable (task : RemoteTask) : Prop where
  objective : HostText 64000 task.objective
  workspace : HostText 4096 task.target.workspace
  baseRef : ∀ text ∈ task.target.baseRef,
    HostText 256 text ∧ (scriptTrim text).toList.head? ≠ some '-'
  constraints : ∀ texts ∈ task.constraints, ∀ text ∈ texts, scriptTrim text ≠ ""
  criteria : ∀ texts ∈ task.acceptanceCriteria, ∀ text ∈ texts, scriptTrim text ≠ ""

/-- **Admission and the host.** A task that is admitted is taken by the host exactly where it is
readable for it. -/
theorem validateTask_admitted_iff (coerce : Json → Option Int) {body : Json} {remote : RemoteTask}
    (admitted : admitTask body = .ok remote) (valid : ControlPlane.validateTask remote = .ok ()) :
    (∃ task, validateTask coerce remote.toJson = .ok task) ↔ HostReadable remote := by
  have passed : validateRemoteTask remote = .ok () := by
    unfold admitTask at admitted
    simp only [bind_ok, orError_ok] at admitted
    obtain ⟨read, -, admitted⟩ := admitted
    split at admitted
    · cases admitted
    · rename_i passed
      cases pure_ok.1 admitted
      exact passed
  obtain ⟨protocol, constraints, criteria, permission, execution⟩ := validateRemoteTask_ok passed
  obtain ⟨taskId, executionId⟩ := ControlPlane.validateTask_ids valid
  have short {values : Option (List String)} {label : String}
      (listed : validateList values label = .ok ()) : ∀ texts ∈ values, texts.length ≤ 64 :=
    fun texts isList => (validateList_ok listed texts isList).1
  have objective : remote.members.lookup "objective" = some (.string remote.objective) := by
    simp [RemoteTask.members, List.lookup_cons]
  have target : remote.members.lookup "target" = some remote.target.toJson := by
    simp [RemoteTask.members, List.lookup_cons]
  have workspace : remote.target.toJson.get "workspace" = some (.string remote.target.workspace) := rfl
  have baseRef : remote.target.toJson.get "base_ref" = remote.target.baseRef.map .string := by
    simp [RemoteTaskTarget.toJson, Json.get, List.lookup_cons]
  have isConstraints : remote.members.lookup "constraints" =
      remote.constraints.map fun texts => .array (texts.map .string) := by
    simp [RemoteTask.members, List.lookup_cons]
  have isCriteria : remote.members.lookup "acceptance_criteria" =
      remote.acceptanceCriteria.map fun texts => .array (texts.map .string) := by
    simp [RemoteTask.members, List.lookup_cons]
  have reads (name : String) : (asRecord (some remote.toJson)).get name = remote.members.lookup name :=
    rfl
  have isTarget : asRecord (remote.members.lookup "target") = remote.target.toJson := by
    rw [target]
    rfl
  constructor
  · rintro ⟨task, taken⟩
    have validated := validateTask_ok taken
    have items {values : Option (List String)} {label : String} {results : List String}
        (listed : ∀ texts ∈ values, texts.length ≤ 64)
        (taken : stringArray (values.map fun texts => .array (texts.map .string)) label 64 4096 =
          .ok results) : ∀ texts ∈ values, ∀ text ∈ texts, scriptTrim text ≠ "" :=
      fun texts isList text member =>
        ((stringArray_written listed).1 ⟨_, taken⟩ texts isList text member).1
    have isObjective := validated.objective
    have isWorkspace := validated.workspace
    have isBaseRef := validated.baseRef
    have areConstraints := validated.constraints
    have areCriteria := validated.acceptanceCriteria
    simp only [reads, objective, isTarget, workspace, baseRef, isConstraints, isCriteria]
      at isObjective isWorkspace isBaseRef areConstraints areCriteria
    exact ⟨requiredString_written.1 ⟨_, isObjective⟩, requiredString_written.1 ⟨_, isWorkspace⟩,
      baseRefOf_written.1 ⟨_, isBaseRef⟩, items (short constraints) areConstraints,
      items (short criteria) areCriteria⟩
  · intro readable
    have hostTexts {values : Option (List String)} {label : String}
        (listed : validateList values label = .ok ())
        (unblank : ∀ texts ∈ values, ∀ text ∈ texts, scriptTrim text ≠ "") :
        ∀ texts ∈ values, ∀ text ∈ texts, HostText 4096 text :=
      fun texts isList text member => ⟨unblank texts isList text member,
        Nat.le_trans (utf16Length_scriptTrim_le text)
          ((validateList_ok listed texts isList).2 text member)⟩
    obtain ⟨profileName, isProfileName, profile, isProfile⟩ := permission_written permission
    obtain ⟨maxTurns, timeoutSeconds, isTurns, isTimeout⟩ := execution_written coerce execution
    obtain ⟨_, isBaseRef⟩ := baseRefOf_written.2 readable.baseRef
    obtain ⟨_, isTaskId⟩ := (@requiredString_written "task_id" _ _).2 (hostText_of_isId taskId)
    obtain ⟨_, isExecutionId⟩ :=
      (@requiredString_written "execution_id" _ _).2 (hostText_of_isId executionId)
    obtain ⟨_, isObjective⟩ := (@requiredString_written "objective" _ _).2 readable.objective
    obtain ⟨_, isWorkspace⟩ :=
      (@requiredString_written "target.workspace" _ _).2 readable.workspace
    obtain ⟨_, areConstraints⟩ := (@stringArray_written "constraints" _ _ _ (short constraints)).2
      (hostTexts constraints readable.constraints)
    obtain ⟨_, areCriteria⟩ := (@stringArray_written "acceptance_criteria" _ _ _ (short criteria)).2
      (hostTexts criteria readable.criteria)
    have isProtocol : text? (remote.members.lookup "protocol") = some remoteTaskProtocol := by
      rw [← protocol]
      rfl
    have isId : remote.members.lookup "task_id" = some (.string remote.taskId) := by
      simp [RemoteTask.members, List.lookup_cons]
    have isExecution : remote.members.lookup "execution_id" = some (.string remote.executionId) := by
      simp [RemoteTask.members, List.lookup_cons]
    have profileRead : remote.members.lookup "permission_profile" =
        remote.permissionProfile.map .string := by
      simp [RemoteTask.members, List.lookup_cons]
    have executionRead : remote.members.lookup "execution" =
        remote.execution.map RemoteTaskExecution.toJson := by
      simp [RemoteTask.members, List.lookup_cons]
    have noContext : remote.members.lookup "project_context" = none := by
      simp [RemoteTask.members, List.lookup_cons]
    have noHandoff : remote.members.lookup "handoff" = none := by
      simp [RemoteTask.members, List.lookup_cons]
    have noSkills : remote.members.lookup "native_skills" = none := by
      simp [RemoteTask.members, List.lookup_cons]
    simp only [validateTask, reads, objective, isTarget, workspace, baseRef, isConstraints, isCriteria,
      isId, isExecution, profileRead, executionRead, noContext, noHandoff, noSkills, isProfileName,
      isProfile, isTurns, isTimeout, isBaseRef, isTaskId, isExecutionId, isObjective, isWorkspace,
      areConstraints, areCriteria, bind, Except.bind, ensure, isProtocol, if_true, orError]
    exact ⟨_, rfl⟩

def sampleRemote (baseRef : Option String) : RemoteTask :=
  ⟨remoteTaskProtocol, "task-1", "exec-1", "ship it", ⟨"/zero3/workspace", baseRef⟩, none, none, none,
    none⟩

theorem sampleRemote_admitted {baseRef : Option String} (known : baseRef = some "main" ∨
    baseRef = some "-main") : admitTask (sampleRemote baseRef).toJson = .ok (sampleRemote baseRef) ∧
      ControlPlane.validateTask (sampleRemote baseRef) = .ok () := by
  rcases known with rfl | rfl <;> constructor <;> decide +kernel

theorem validateTask_admitted_iff_sample :
    ∃ task, validateTask (fun _ => none) (sampleRemote (some "main")).toJson = .ok task := by
  obtain ⟨admitted, valid⟩ := sampleRemote_admitted (Or.inl rfl)
  refine (validateTask_admitted_iff _ admitted valid).2 ⟨?_, ?_, ?_, ?_, ?_⟩
  · exact ⟨by decide +kernel, by decide +kernel⟩
  · exact ⟨by decide +kernel, by decide +kernel⟩
  · rintro text ⟨⟩
    exact ⟨⟨by decide +kernel, by decide +kernel⟩, by decide +kernel⟩
  · rintro texts ⟨⟩
  · rintro texts ⟨⟩

/-- **A base reference that starts with a dash** is admitted, and refused by the host. -/
theorem validateTask_admitted_counterexample :
    ¬ ∀ (coerce : Json → Option Int) (body : Json) (remote : RemoteTask),
      admitTask body = .ok remote → ControlPlane.validateTask remote = .ok () →
        ∃ task, validateTask coerce remote.toJson = .ok task := by
  intro claimed
  obtain ⟨admitted, valid⟩ := sampleRemote_admitted (Or.inr rfl)
  obtain ⟨task, taken⟩ := claimed (fun _ => none) _ _ admitted valid
  have passed : baseRefOf ((some "-main").map .string) = .ok task.target.baseRef :=
    (validateTask_ok taken).baseRef
  have plain := (baseRefOf_written.1 ⟨_, passed⟩ "-main" rfl).2
  exact plain (by decide +kernel)

end Zero3Pilot.RemoteHost
