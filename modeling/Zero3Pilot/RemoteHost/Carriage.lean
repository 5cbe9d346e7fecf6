import Zero3Pilot.ControlPlane.TaskIdentity
import Zero3Pilot.RemoteHost.Dispatch
import Zero3Pilot.RemoteHost.RunHistory

/-! # What reaches the host of a dispatched task

A dispatched task is rewritten four times before the host enforces it: by the control client, by the
structs of the control plane, by the lease, and by the host's own validation. This file follows every
field on that way. -/

namespace Zero3Pilot.RemoteHost

open Program ScriptValue
open ControlPlane (Action Created Environment Outcome Plane RemoteLease RemoteTask
  RemoteTaskExecution RemoteTaskTarget admitTask controlPlane exampleEnvironment)

/-! ## What a task asks for -/

/-- **What the host enforces** of a task; native skills are pairs of a name and a path. -/
structure Enforced where
  (objective workspace : String)
  baseRef : Option String
  (constraints acceptanceCriteria : List String)
  nativeSkills : List (String × String)
  permissionProfile : Option PermissionProfile
  (maxTurns timeoutSeconds : Nat)
  (requireCleanWorktree requireCleanWorktreeOnSuccess requireRemoteSyncOnSuccess : Bool)

def HostTask.enforced (task : HostTask) : Enforced where
  objective := task.objective
  workspace := task.target.workspace
  baseRef := task.target.baseRef
  constraints := task.constraints
  acceptanceCriteria := task.acceptanceCriteria
  nativeSkills := task.nativeSkills.map fun skill => (skill.name, skill.path)
  permissionProfile := some task.permissionProfile
  maxTurns := task.execution.maxTurns
  timeoutSeconds := task.execution.timeoutSeconds
  requireCleanWorktree := task.execution.requireCleanWorktree
  requireCleanWorktreeOnSuccess := task.execution.requireCleanWorktreeOnSuccess
  requireRemoteSyncOnSuccess := task.execution.requireRemoteSyncOnSuccess

/-- A text without the blanks around it. -/
def askedText (value : ScriptValue) : String := scriptTrim (value.text?.getD "")

/-- A text that may be missing or empty. -/
def askedOptionalText (value : ScriptValue) : Option String :=
  (value.text?.map scriptTrim).filter (· ≠ "")

def askedTexts (value : ScriptValue) : List String :=
  (value.items?.getD []).map fun item => askedText (some item)

/-- The first ten skills of a list that may be missing. -/
def askedSkills (value : ScriptValue) : List (String × String) :=
  ((value.items?.getD []).take 10).map fun skill =>
    (askedText ((asRecord (some skill)).get "name"), askedText ((asRecord (some skill)).get "path"))

/-- A number that may be missing. -/
def askedNumber (coerce : Json → Option Int) (value : ScriptValue) (fallback : Nat) : Nat :=
  if value.isNullish then fallback else ((toInteger? coerce value).getD 0).toNat

/-- **What a dispatched object asks for**, every default filled in. -/
def asked (coerce : Json → Option Int) (dispatched : Json) : Enforced :=
  let target := asRecord (dispatched.get "target")
  let execution := asRecord (dispatched.get "execution")
  { objective := askedText (dispatched.get "objective")
    workspace := askedText (target.get "workspace")
    baseRef := askedOptionalText (target.get "base_ref")
    constraints := askedTexts (dispatched.get "constraints")
    acceptanceCriteria := askedTexts (dispatched.get "acceptance_criteria")
    nativeSkills := askedSkills (dispatched.get "native_skills")
    permissionProfile := PermissionProfile.ofName?
      ((askedOptionalText (dispatched.get "permission_profile")).getD "standard")
    maxTurns := askedNumber coerce (execution.get "max_turns") 1
    timeoutSeconds := askedNumber coerce (execution.get "timeout_seconds") 3600
    requireCleanWorktree := (execution.get "require_clean_worktree").isTrue
    requireCleanWorktreeOnSuccess := (execution.get "require_clean_worktree_on_success").isTrue
    requireRemoteSyncOnSuccess := (execution.get "require_remote_sync_on_success").isTrue }

variable {value : ScriptValue}

theorem IsText.eq_asked {max : Nat} {text : String} (isText : IsText max value text) :
    text = askedText value := by
  obtain ⟨raw, isRaw, rfl, -⟩ := isText
  rw [askedText, isRaw]
  rfl

theorem IsText.trimmed {max : Nat} {text : String} (isText : IsText max value text) :
    scriptTrim text = text := by
  obtain ⟨raw, -, rfl, -⟩ := isText
  exact scriptTrim_scriptTrim raw

theorem IsText.again {max max' : Nat} {text text' : String} (isText : IsText max value text)
    (isText' : IsText max' (some (.string text)) text') :
    text' = text := by
  obtain ⟨raw, isRaw, rfl, -⟩ := isText'
  cases isRaw
  exact isText.trimmed

theorem optionalText_ok {label : String} {max : Nat} {text : Option String}
    (passed : optionalText value label max = .ok text) :
    text = askedOptionalText value ∧ ∀ present ∈ text, IsText max value present := by
  unfold optionalText optionalString at passed
  split at passed
  · rename_i isEmpty
    cases passed
    exact ⟨by rw [askedOptionalText, isEmpty]; decide, by simp⟩
  · rw [unlessNullish_ok] at passed
    rcases passed with ⟨missing, rfl⟩ | ⟨-, checked, isChecked, rfl⟩
    · have noText : value.text? = none := by
        unfold isNullish at missing
        split at missing
        · rfl
        · rfl
        · cases missing
      exact ⟨by rw [askedOptionalText, noText]; rfl, by simp⟩
    · have isText := requiredString_ok.1 isChecked
      refine ⟨?_, ?_⟩
      · obtain ⟨raw, isRaw, same, nonempty, -⟩ := isText
        rw [askedOptionalText, isRaw, Option.map_some, ← same, Option.filter_some,
          if_pos (by simpa using nonempty)]
      · rintro present ⟨⟩
        exact isText

theorem askedItems_eq {items : List Json} {texts : List String} {max : Nat}
    (each : List.Forall₂ (fun item => IsText max (some item)) items texts) :
    items.map (fun item => askedText (some item)) = texts := by
  induction each with
  | nil => rfl
  | cons isText each ih => rw [List.map_cons, ih, ← isText.eq_asked]

theorem items_again {items : List Json} {texts texts' : List String} {max max' : Nat}
    (each : List.Forall₂ (fun item => IsText max (some item)) items texts)
    (each' : List.Forall₂ (fun item => IsText max' (some item))
      (texts.map .string) texts') : texts' = texts := by
  induction each generalizing texts' with
  | nil =>
    rw [List.map_nil, List.forall₂_nil_left_iff] at each'
    exact each'
  | cons isText each ih =>
    rw [List.map_cons, List.forall₂_cons_left_iff] at each'
    obtain ⟨text', rest', isText', each', rfl⟩ := each'
    rw [isText.again isText', ih each']

/-- **A list of texts arrives** as it was asked for, whether it was sent or left out. -/
theorem texts_arrive {label label' : String} {sent : Option (List String)} {arrived : List String}
    (isSent : listOfText value label = .ok sent)
    (hasArrived : stringArray (sent.map fun texts => .array (texts.map .string)) label' 64 4096 =
      .ok arrived) : arrived = askedTexts value := by
  rw [stringArray_ok] at hasArrived
  rcases listOfText_ok.1 isSent with ⟨missing, rfl⟩ | ⟨-, listed, items, rfl, isArray, -, each⟩
  · have noItems : value.items? = none := by
      unfold isNullish at missing
      split at missing
      · rfl
      · rfl
      · cases missing
    rw [askedTexts, noItems]
    rcases hasArrived with ⟨-, isEmpty⟩ | ⟨present, -⟩
    · exact isEmpty
    · cases present
  · rw [askedTexts, isArray, Option.getD_some, askedItems_eq each]
    rcases hasArrived with ⟨missing, -⟩ | ⟨-, items', isArray', -, each'⟩
    · cases missing
    · cases isArray'
      exact items_again each each'

section

variable {coerce : Json → Option Int} {fallback min max n : Nat} {error : String}
  (passed : integerInRange coerce value fallback min max error = .ok n)
include passed

theorem number_eq_asked : n = askedNumber coerce value fallback := by
  rw [askedNumber]
  rcases (integerInRange_ok coerce).1 passed with ⟨missing, rfl⟩ | ⟨present, read, -⟩
  · rw [missing]
    rfl
  · rw [present, read]
    rfl

theorem integerInRange_le (inRange : fallback ≤ max) : n ≤ max := by
  rcases (integerInRange_ok coerce).1 passed with ⟨-, rfl⟩ | ⟨-, -, -, below⟩
  · exact inRange
  · exact below

end

theorem number_arrives {coerce : Json → Option Int} {sent arrived fallback min max : Nat}
    {error : String}
    (hasArrived : integerInRange coerce (some (.nat sent)) fallback min max error = .ok arrived) :
    arrived = sent := by
  rcases (integerInRange_ok coerce).1 hasArrived with ⟨missing, -⟩ | ⟨-, read, -⟩
  · cases missing
  · rw [toInteger?_nat] at read
    exact (Int.ofNat.inj (Option.some.inj read)).symm

theorem trimmed_of_clientProfile {profile : String} (known : profile ∈ clientProfiles) :
    scriptTrim profile = profile := by
  simp only [clientProfiles, List.mem_cons, List.not_mem_nil, or_false] at known
  rcases known with rfl | rfl | rfl | rfl <;> decide

/-! ## The way to the host -/

/-- **A host obtains a dispatched task**: through the control client, the control plane in a run of its
own, a lease in a state that run reaches, and the validation of the host. -/
inductive Reaches (coerce : Json → Option Int) (dispatched : Json) : HostTask → Prop where
  | obtained {sent leaseTask : Json} {extensionSent : Option Json} {request : Json}
      {remote : RemoteTask} {task : HostTask} {lease : RemoteLease} {leaseTtl : Int}
      {history : List (Action × Outcome)} {plane : Plane} {env : Environment} {nodeId : String}
      {capabilities : List String} {extension : Option TaskExtension}
      (isTask : request.get "task" = some dispatched)
      (dispatches : dispatchCodex coerce (some request) = .ok (sent, extensionSent))
      (admitted : admitTask sent = .ok remote)
      (run : controlPlane.Run Machine.anyStep (.empty leaseTtl) history plane)
      (created : Created history remote)
      (leased : (plane.serve env (.tryLease nodeId capabilities)).1 = .ok (.lease (some lease)))
      (sameId : lease.task.taskId = remote.taskId)
      (joined : joinedTask lease.task.toJson extension = .ok leaseTask)
      (valid : validateTask coerce leaseTask = .ok task) : Reaches coerce dispatched task

variable {coerce : Json → Option Int} {dispatched : Json} {task : HostTask}

theorem admitted_eq {remote remote' : RemoteTask}
    (fits : ∀ execution ∈ remote.execution, execution.Fits)
    (admitted : admitTask remote.toJson = .ok remote') : remote' = remote := by
  unfold admitTask at admitted
  simp only [bind_ok, orError_ok] at admitted
  obtain ⟨read, isRead, admitted⟩ := admitted
  rw [RemoteTask.fromJson_toJson fits] at isRead
  cases isRead
  split at admitted
  · cases admitted
  · exact (pure_ok.1 admitted).symm

/-- **What a host has obtained** was validated from a remote task that the dispatched object was
normalized to. -/
theorem Reaches.remote (reaches : Reaches coerce dispatched task) :
    ∃ (remote : RemoteTask) (leaseTask : Json), Normalized coerce dispatched remote ∧
      Validated coerce leaseTask task ∧ ∀ name, name ≠ "project_context" → name ≠ "handoff" →
        (asRecord (some leaseTask)).get name = remote.members.lookup name := by
  cases reaches with
  | obtained isTask dispatches admitted run created leased sameId joined valid =>
    simp only [dispatchCodex, bind_ok, record_ok, pure_ok] at dispatches
    obtain ⟨_, ⟨members, isObject, rfl⟩, sent, isSent, _, _, extension, _, result⟩ := dispatches
    cases isObject
    rw [isTask] at isSent
    obtain ⟨remote, rfl, normalized⟩ := normalizedTask_ok isSent
    have fits : ∀ execution ∈ remote.execution, execution.Fits := by
      obtain ⟨maxTurns, timeoutSeconds, isExecution, isTurns, isTimeout⟩ := normalized.execution
      rintro execution present
      cases isExecution.symm.trans present
      have turnsBound := integerInRange_le isTurns (by decide)
      have timeoutBound := integerInRange_le isTimeout (by decide)
      refine ⟨?_, ?_⟩
      · rintro _ ⟨⟩
        exact Nat.le_trans turnsBound (by decide)
      · rintro _ ⟨⟩
        exact Nat.le_trans timeoutBound (by decide)
    cases result
    obtain rfl := admitted_eq fits admitted
    have sameTask := ControlPlane.leased_task_eq run created leased sameId
    rw [sameTask, RemoteTask.toJson_eq] at joined
    exact ⟨_, _, normalized, validateTask_ok valid, fun name => get_joinedTask joined⟩

theorem baseRef_arrives {label : String} {sent arrived : Option String}
    (isSent : optionalText value label 256 = .ok sent)
    (hasArrived : baseRefOf (sent.map .string) = .ok arrived) : arrived = askedOptionalText value := by
  obtain ⟨isAsked, isText⟩ := optionalText_ok isSent
  rw [← isAsked]
  unfold baseRefOf at hasArrived
  rw [unlessNullish_ok] at hasArrived
  cases sent with
  | none =>
    rcases hasArrived with ⟨-, isNone⟩ | ⟨present, -⟩
    · exact isNone
    · cases present
  | some sent =>
    rcases hasArrived with ⟨missing, -⟩ | ⟨-, checked, isChecked, rfl⟩
    · cases missing
    · simp only [Option.map_some, bind_ok, ensure_ok, pure_ok, requiredString_ok] at isChecked
      obtain ⟨_, isText', _, _, rfl⟩ := isChecked
      rw [(isText sent rfl).again isText']

theorem permission_arrives {label label' name : String} {profile : Option String}
    (isSent : optionalText value label 32 = .ok profile)
    (known : profile.getD "standard" ∈ clientProfiles)
    (hasArrived : orDefault (some (.string (profile.getD "standard"))) "standard"
      (requiredString (some (.string (profile.getD "standard"))) label' 32) = .ok name) :
    name = (askedOptionalText value).getD "standard" := by
  rw [← (optionalText_ok isSent).1]
  rcases orDefault_ok.1 hasArrived with ⟨missing, -⟩ | ⟨-, isChecked⟩
  · cases missing
  · obtain ⟨raw, isRaw, rfl, -⟩ := requiredString_ok.1 isChecked
    cases isRaw
    exact trimmed_of_clientProfile known

theorem execution_arrives {leaseTask : Json} {remote : RemoteTask} {requireClean : Bool}
    {sentTurns sentTimeout : Nat}
    (validated : Validated coerce leaseTask task)
    (reads : (asRecord (some leaseTask)).get "execution" =
      remote.execution.map RemoteTaskExecution.toJson)
    (isExecution : remote.execution = some ⟨some sentTurns, some sentTimeout, some requireClean⟩) :
    task.execution = {
      maxTurns := sentTurns
      timeoutSeconds := sentTimeout
      requireCleanWorktree := requireClean
      requireCleanWorktreeOnSuccess := false
      requireRemoteSyncOnSuccess := false } := by
  have turns := validated.maxTurns
  have timeout := validated.timeoutSeconds
  obtain ⟨clean, cleanOnSuccess, syncOnSuccess⟩ := validated.gates
  rw [reads, isExecution] at turns timeout clean cleanOnSuccess syncOnSuccess
  generalize task.execution = arrived at turns timeout clean cleanOnSuccess syncOnSuccess ⊢
  cases arrived
  cases number_arrives turns
  cases number_arrives timeout
  cases cleanOnSuccess
  cases syncOnSuccess
  have sameClean : _ = requireClean := clean.trans (by cases requireClean <;> rfl)
  cases sameClean
  rfl

/-- **What arrives of a dispatched task**: everything it asks for but its native skills and its two
completion gates. -/
theorem Reaches.enforced_eq (reaches : Reaches coerce dispatched task) :
    task.enforced = { asked coerce dispatched with
      nativeSkills := []
      requireCleanWorktreeOnSuccess := false
      requireRemoteSyncOnSuccess := false } := by
  obtain ⟨remote, leaseTask, normalized, validated, reads⟩ := reaches.remote
  obtain ⟨profile, isProfile, isPermission, known⟩ := normalized.permission
  obtain ⟨sentTurns, sentTimeout, isExecution, isTurns, isTimeout⟩ := normalized.execution
  -- what the host reads under each name
  have read (name : String) (value : ScriptValue) (context : name ≠ "project_context")
      (handoff : name ≠ "handoff") (found : remote.members.lookup name = value) :
      (asRecord (some leaseTask)).get name = value := (reads name context handoff).trans found
  have objective : task.objective = askedText (dispatched.get "objective") := by
    have isText := requiredString_ok.1 validated.objective
    rw [read "objective" (some (.string remote.objective)) (by decide) (by decide)
      (by simp [RemoteTask.members, List.lookup_cons])] at isText
    rw [normalized.objective.again isText, ← normalized.objective.eq_asked]
  have target := read "target" (some remote.target.toJson) (by decide) (by decide)
    (by simp [RemoteTask.members, List.lookup_cons])
  have workspace : task.target.workspace =
      askedText ((asRecord (dispatched.get "target")).get "workspace") := by
    have isText := requiredString_ok.1 validated.workspace
    rw [target] at isText
    rw [normalized.workspace.again isText, ← normalized.workspace.eq_asked]
  have baseRef : task.target.baseRef =
      askedOptionalText ((asRecord (dispatched.get "target")).get "base_ref") := by
    have isRef := validated.baseRef
    rw [target, show (asRecord (some remote.target.toJson)).get "base_ref" =
      remote.target.baseRef.map .string by
        simp [RemoteTaskTarget.toJson, asRecord, Json.get, List.lookup_cons]] at isRef
    exact baseRef_arrives normalized.baseRef isRef
  have constraints : task.constraints = askedTexts (dispatched.get "constraints") := by
    have areTexts := validated.constraints
    rw [read "constraints" _ (by decide) (by decide)
      (by simp [RemoteTask.members, List.lookup_cons]; rfl)] at areTexts
    exact texts_arrive normalized.constraints areTexts
  have acceptanceCriteria : task.acceptanceCriteria =
      askedTexts (dispatched.get "acceptance_criteria") := by
    have areTexts := validated.acceptanceCriteria
    rw [read "acceptance_criteria" _ (by decide) (by decide)
      (by simp [RemoteTask.members, List.lookup_cons]; rfl)] at areTexts
    exact texts_arrive normalized.acceptanceCriteria areTexts
  have nativeSkills : task.nativeSkills = [] := by
    have areSkills := validated.nativeSkills
    rw [read "native_skills" none (by decide) (by decide)
      (by simp [RemoteTask.members, List.lookup_cons])] at areSkills
    exact (Except.ok.inj areSkills).symm
  have permission : some task.permissionProfile = PermissionProfile.ofName?
      ((askedOptionalText (dispatched.get "permission_profile")).getD "standard") := by
    obtain ⟨name, isProfile', isName⟩ := validated.permission
    rw [read "permission_profile" (some (.string (profile.getD "standard"))) (by decide) (by decide)
      (by simp [RemoteTask.members, List.lookup_cons, isPermission])] at isName
    rw [← permission_arrives isProfile known isName, isProfile']
  have execution := execution_arrives validated
    (read "execution" _ (by decide) (by decide) (by simp [RemoteTask.members, List.lookup_cons]))
    isExecution
  rw [HostTask.enforced, objective, workspace, baseRef, constraints, acceptanceCriteria,
    nativeSkills, permission, execution]
  rw [number_eq_asked isTurns, number_eq_asked isTimeout]
  rfl

/-! ## What arrives unchanged -/

/-- **A dispatched task asks for nothing that is lost**: it names no native skills and switches neither
completion gate on. -/
structure Carried (dispatched : Json) : Prop where
  skills : ∀ items, (dispatched.get "native_skills").items? = some items → items = []
  clean : ((asRecord (dispatched.get "execution")).get "require_clean_worktree_on_success").isTrue =
    false
  synced : ((asRecord (dispatched.get "execution")).get "require_remote_sync_on_success").isTrue =
    false

theorem askedSkills_eq_nil :
    askedSkills value = [] ↔ ∀ items, value.items? = some items → items = [] := by
  rw [askedSkills, List.map_eq_nil_iff, List.take_eq_nil_iff]
  cases value.items? with
  | none => simp
  | some items => simp

/-- **A repository passes the completion gates** a task asks for. -/
structure GatesPass (platform : Platform) (wanted : Enforced) (repository : Repository) : Prop where
  clean : wanted.requireCleanWorktreeOnSuccess = true →
    ∃ stdout, repository.status = some stdout ∧ scriptTrim stdout = ""
  synced : wanted.requireRemoteSyncOnSuccess = true → ∃ head upstream,
    PrintsCommit repository.head head ∧ PrintsCommit repository.upstream upstream ∧
      sameCommit platform head upstream = true

/-- **No completion gate is skipped**: the postflight returns only where the gates asked for are passed. -/
def GatesKept (task : HostTask) (wanted : Enforced) : Prop :=
  ∀ (platform : Platform) (workspace : String) (repository : Repository)
    (answers : HostWorld → (hostCall : HostCall) → Except String (HostReply hostCall) →
      HostWorld → Prop) (kept : HostWorld → Prop) (preflight : GitPreflight)
    (postflight : GitPostflight) (world world' : HostWorld),
    Answering answers repository kept → kept world →
    Runs answers (runGitPostflight platform workspace task preflight) world
      (.returned postflight) world' →
    GatesPass platform wanted repository

theorem gatesKept_of_enforced {wanted : Enforced} (same : task.enforced = wanted) :
    GatesKept task wanted := by
  intro platform workspace repository answers kept preflight postflight world world' answering held
    runs
  have holds := ((only_runGitPostflight answering held preflight).sound runs).2 postflight rfl
  subst same
  obtain ⟨stdout, printed, clean⟩ := holds.status
  exact ⟨fun asked => ⟨stdout, printed, clean asked⟩, holds.synced⟩

/-- **A dispatched task arrives unchanged**: the host enforces what it asks for, its completion gates
included. -/
structure Unchanged (coerce : Json → Option Int) (dispatched : Json) (task : HostTask) : Prop where
  enforced : task.enforced = asked coerce dispatched
  gates : GatesKept task (asked coerce dispatched)

theorem unchanged_iff (reaches : Reaches coerce dispatched task) :
    Unchanged coerce dispatched task ↔ Carried dispatched := by
  have arrived := reaches.enforced_eq
  constructor
  · rintro ⟨same, -⟩
    rw [arrived] at same
    have skills : [] = (asked coerce dispatched).nativeSkills := congrArg Enforced.nativeSkills same
    have clean := congrArg Enforced.requireCleanWorktreeOnSuccess same
    have synced := congrArg Enforced.requireRemoteSyncOnSuccess same
    exact ⟨askedSkills_eq_nil.1 skills.symm, clean.symm, synced.symm⟩
  · rintro ⟨skills, clean, synced⟩
    have same : task.enforced = asked coerce dispatched := by
      rw [arrived, asked]
      simp only [askedSkills_eq_nil.2 skills, clean, synced]
    exact ⟨same, gatesKept_of_enforced same⟩

/-! ## The fast path -/

section FastPath

variable {platform : Platform} {stringOf : Json → String} {config : HostConfig}

/-- **What a request of the fast path asks for**, every default filled in. -/
def fastPathAsked (platform : Platform) (stringOf : Json → String) (config : HostConfig)
    (input : Json) : Enforced where
  objective := askedText (input.get "objective")
  workspace :=
    scriptTrim ((workspaceAllowed platform config (askedText (input.get "workspace"))).getD "")
  baseRef := if (input.get "baseRef").isNullish then none else some (askedText (input.get "baseRef"))
  constraints := askedTexts (input.get "constraints")
  acceptanceCriteria := askedTexts (input.get "acceptanceCriteria")
  nativeSkills := []
  permissionProfile :=
    PermissionProfile.ofName? (textOf stringOf (input.get "permissionProfile") "standard")
  maxTurns := askedNumber platform.coerce (input.get "maxTurns") 1
  timeoutSeconds := askedNumber platform.coerce (input.get "timeoutSeconds") 3600
  requireCleanWorktree := (input.get "requireCleanWorktree").isTrue
  requireCleanWorktreeOnSuccess := (input.get "requireCleanWorktreeOnSuccess").isTrue
  requireRemoteSyncOnSuccess := (input.get "requireRemoteSyncOnSuccess").isTrue

theorem askedTexts_written {items : List Json} {texts : List String} {max : Nat}
    (each : List.Forall₂ (fun item => IsText max (some item)) items texts) :
    askedTexts (some (.array (texts.map .string))) = texts := by
  show (texts.map Json.string).map (fun item => askedText (some item)) = texts
  induction each with
  | nil => rfl
  | cons isText each ih =>
    rw [List.map_cons, List.map_cons, ih]
    exact congrArg (· :: _) isText.trimmed

theorem stringList_ok {value : ScriptValue} {label : String} {maxItems max : Nat}
    {texts : List String} (passed : stringList value label maxItems max = .ok texts) :
    askedTexts (some (.array (texts.map .string))) = askedTexts value := by
  unfold stringList textItems at passed
  simp only [orDefault_ok, bind_ok, orError_ok, ensure_ok, requiredItems_ok, exists_const] at passed
  rcases passed with ⟨missing, rfl⟩ | ⟨-, items, isArray, -, each⟩
  · unfold isNullish at missing
    split at missing
    · rfl
    · rfl
    · cases missing
  · rw [askedTexts_written each, ← askedItems_eq each, askedTexts, isArray]
    rfl

theorem fastPathBaseRef_ok {value : ScriptValue} {label : String} {max : Nat}
    {baseRef : Option String}
    (passed : unlessNullish value (fastPathText value label max) = .ok baseRef) :
    askedOptionalText (baseRef.map .string) =
      if value.isNullish then none else some (askedText value) := by
  rcases unlessNullish_ok.1 passed with ⟨missing, rfl⟩ | ⟨present, text, isText, rfl⟩
  · rw [missing]
    rfl
  · have checked := requiredString_ok.1 isText
    have trimmed := checked.trimmed
    have same := checked.eq_asked
    obtain ⟨-, -, -, nonempty, -⟩ := checked
    rw [present, ← same]
    show Option.filter (· ≠ "") (some (scriptTrim text)) = some text
    rw [trimmed, Option.filter_some, if_pos (by simpa using nonempty)]

/-- **The task object of the fast path asks for what its request asks for.** -/
theorem fastPathTask_asked {inputValue : ScriptValue} {dispatched : Json}
    (built : fastPathTask platform stringOf config inputValue = .ok dispatched)
    (coerce : Json → Option Int) :
    asked coerce dispatched = fastPathAsked platform stringOf config (asRecord inputValue) := by
  unfold fastPathTask allowedWorkspace at built
  simp only [bind_ok, ensure_ok, orError_ok, pure_ok, exists_const, record_ok] at built
  obtain ⟨_, ⟨members, rfl, rfl⟩, sessionId, -, key, -, workspace, ⟨requested, isRequested,
    isAllowed⟩, objective, isObjective, permitted, maxTurns, isTurns, timeoutSeconds, isTimeout,
    baseRef, isBaseRef, constraints, areConstraints, criteria, areCriteria, rfl⟩ := built
  have objectiveText := requiredString_ok.1 isObjective
  rw [(requiredString_ok.1 isRequested).eq_asked] at isAllowed
  -- the profile is one of three names, none of which is changed by trimming
  have profile : (askedOptionalText (some (.string
      (textOf stringOf ((Json.object members).get "permissionProfile") "standard")))).getD "standard" =
      textOf stringOf ((Json.object members).get "permissionProfile") "standard" := by
    generalize textOf stringOf ((Json.object members).get "permissionProfile") "standard" = name at *
    simp only [fastPathProfiles, List.mem_cons, List.not_mem_nil, or_false] at permitted
    rcases permitted with rfl | rfl | rfl <;> decide
  rw [asked, fastPathAsked, Enforced.mk.injEq]
  have isTrue_bool (value : Bool) : ScriptValue.isTrue (some (.bool value)) = value := by
    cases value <;> rfl
  have written (n fallback : Nat) : askedNumber coerce (some (.nat n)) fallback = n := by
    show ((toInteger? coerce (some (.nat n))).getD 0).toNat = n
    rw [toInteger?_nat]
    rfl
  simp only [asRecord, Json.get, List.lookup_cons, List.lookup_nil, String.reduceBEq,
    ControlPlane.lookup_optionalMember, if_true]
  refine ⟨?_, ?_, ?_, ?_, ?_, rfl, ?_, ?_, ?_, ?_, ?_, ?_⟩
  · exact objectiveText.trimmed.trans objectiveText.eq_asked
  · exact congrArg (fun allowed => scriptTrim (Option.getD allowed "")) isAllowed.symm
  · exact fastPathBaseRef_ok isBaseRef
  · exact stringList_ok areConstraints
  · exact stringList_ok areCriteria
  · exact congrArg PermissionProfile.ofName? profile
  · exact (written _ _).trans (number_eq_asked isTurns)
  · exact (written _ _).trans (number_eq_asked isTimeout)
  · exact isTrue_bool _
  · exact isTrue_bool _
  · exact isTrue_bool _

end FastPath

/-! ## The result -/

/-- **A dispatched task arrives unchanged exactly where it asks for no native skills and no completion
gate.** For the fast path, this says what its request asks for. -/
theorem arrives_unchanged_iff (reaches : Reaches coerce dispatched task) :
    (Unchanged coerce dispatched task ↔ Carried dispatched) ∧
      ∀ (platform : Platform) (stringOf : Json → String) (config : HostConfig)
        (inputValue : ScriptValue), fastPathTask platform stringOf config inputValue = .ok dispatched →
        asked coerce dispatched = fastPathAsked platform stringOf config (asRecord inputValue) ∧
          (Unchanged coerce dispatched task ↔
            ((asRecord inputValue).get "requireCleanWorktreeOnSuccess").isTrue = false ∧
              ((asRecord inputValue).get "requireRemoteSyncOnSuccess").isTrue = false) := by
  refine ⟨unchanged_iff reaches, fun platform stringOf config inputValue built => ?_⟩
  have same := fastPathTask_asked built coerce
  refine ⟨same, (unchanged_iff reaches).trans ?_⟩
  have skills := congrArg Enforced.nativeSkills same
  have clean := congrArg Enforced.requireCleanWorktreeOnSuccess same
  have synced := congrArg Enforced.requireRemoteSyncOnSuccess same
  constructor
  · rintro ⟨-, cleanOff, syncedOff⟩
    exact ⟨clean.symm.trans cleanOff, synced.symm.trans syncedOff⟩
  · rintro ⟨cleanOff, syncedOff⟩
    exact ⟨askedSkills_eq_nil.1 skills, clean.trans cleanOff, synced.trans syncedOff⟩

/-! ## A delivery that can be computed -/

/-- Send a request through a control plane that does nothing else. -/
def carry (coerce : Json → Option Int) (request : Json) : Option HostTask := do
  let sent ← (dispatchCodex coerce (some request)).toOption
  let remote ← (admitTask sent.1).toOption
  let registered := (controlPlane.exec (.empty 45)
    [.call (.registerNode "node-1" ["codex", "thread", "turn"]) (exampleEnvironment 0)]).2
  let created := registered.serve (exampleEnvironment 1) (.createTask remote)
  if created.1.isOk then
    match (created.2.serve (exampleEnvironment 2)
        (.tryLease "node-1" ["codex", "thread", "turn"])).1 with
    | .ok (.lease (some lease)) =>
      if lease.task.taskId = remote.taskId then
        (joinedTask lease.task.toJson none).toOption.bind fun leaseTask =>
          (validateTask coerce leaseTask).toOption
      else none
    | _ => none
  else none

theorem toOption_eq_some {ε α : Type} {check : Except ε α} {value : α} :
    check.toOption = some value ↔ check = .ok value := by
  cases check <;> simp [Except.toOption]

theorem reaches_of_carry {request : Json} (isTask : request.get "task" = some dispatched)
    (carried : carry coerce request = some task) : Reaches coerce dispatched task := by
  simp only [carry, Option.bind_eq_bind, Option.bind_eq_some_iff, toOption_eq_some] at carried
  obtain ⟨sent, dispatches, remote, admitted, carried⟩ := carried
  generalize registering : controlPlane.exec (.empty 45) _ = registered at carried
  have registeredRun : controlPlane.Run Machine.anyStep (.empty 45) registered.1 registered.2 :=
    registering ▸ Machine.exec_run _ _ _ (Machine.met_of_forall (fun _ _ _ => trivial) _)
  have run := registeredRun.snoc (.call (.createTask remote) (exampleEnvironment 1)) trivial
  split at carried
  · rename_i accepted
    split at carried
    · rename_i lease leased
      split at carried
      · rename_i sameId
        obtain ⟨leaseTask, joined, valid⟩ := Option.bind_eq_some_iff.1 carried
        have created : Created (registered.1 ++ [(.call (.createTask remote)
            (exampleEnvironment 1), .answered (registered.2.serve
              (exampleEnvironment 1) (.createTask remote)).1)]) remote := by
          cases answer : (registered.2.serve (exampleEnvironment 1) (.createTask remote)).1 with
          | error error => rw [answer] at accepted; cases accepted
          | ok response =>
            exact ⟨_, response, List.mem_append_right _ (List.mem_singleton.2 rfl)⟩
        exact .obtained isTask dispatches admitted run created leased sameId
          (toOption_eq_some.1 joined) (toOption_eq_some.1 valid)
      · cases carried
    · cases carried
  · cases carried

/-- A host platform that knows the digests of one request. -/
def dispatchPlatform : Platform :=
  { samplePlatform with
    sha256 := fun text =>
      if text = "session-1\x00key-1\x00task".toList then
        "117120429d204bb99dff8692246baa9da9a9d4bcb864c010b376cf29239418d3"
      else if text = "session-1\x00key-1\x00exec".toList then
        "9c412e273cb6003ff151bf987e946746576405a01fe5f708d9fcb3eb9a706095"
      else "" }

/-- A request of the fast path, with or without the clean-worktree gate. -/
def sampleInput (cleanOnSuccess : Bool) : Json :=
  .object [("sessionId", .string "session-1"), ("idempotencyKey", .string "key-1"),
    ("workspace", .string "/zero3/workspace"), ("objective", .string "ship it"),
    ("requireCleanWorktreeOnSuccess", .bool cleanOnSuccess)]

/-- The task object of the request. -/
def sampleDispatched (cleanOnSuccess : Bool) : Option Json :=
  (fastPathTask dispatchPlatform (fun _ => "") sampleConfig (some (sampleInput cleanOnSuccess))).toOption

def sampleArrived (cleanOnSuccess : Bool) : Option HostTask :=
  (sampleDispatched cleanOnSuccess).bind fun dispatched =>
    carry (fun _ => none) (.object [("task", dispatched)])

theorem reaches_sample {cleanOnSuccess : Bool} {task : HostTask}
    (arrived : sampleArrived cleanOnSuccess = some task) :
    ∃ dispatched, fastPathTask dispatchPlatform (fun _ => "") sampleConfig
        (some (sampleInput cleanOnSuccess)) = .ok dispatched ∧
      Reaches (fun _ => none) dispatched task := by
  obtain ⟨dispatched, built, carried⟩ := Option.bind_eq_some_iff.1 arrived
  exact ⟨dispatched, toOption_eq_some.1 built, reaches_of_carry rfl carried⟩

/-- The request without a gate arrives unchanged. -/
theorem arrives_unchanged_iff_sample : ∃ (dispatched : Json) (task : HostTask),
    Reaches (fun _ => none) dispatched task ∧ Unchanged (fun _ => none) dispatched task := by
  have arrives : (sampleArrived false).isSome = true := by decide +kernel
  obtain ⟨task, arrived⟩ := Option.isSome_iff_exists.1 arrives
  obtain ⟨dispatched, built, reaches⟩ := reaches_sample arrived
  have condition := ((arrives_unchanged_iff reaches).2 _ _ _ _ built).2
  exact ⟨dispatched, task, reaches, condition.2 ⟨rfl, rfl⟩⟩

/-- **The clean-worktree gate of a dispatched task does not arrive.** -/
theorem arrives_unchanged_counterexample :
    ¬ ∀ (coerce : Json → Option Int) (dispatched : Json) (task : HostTask),
      Reaches coerce dispatched task → Unchanged coerce dispatched task := by
  intro claimed
  have arrives : (sampleArrived true).isSome = true := by decide +kernel
  obtain ⟨task, arrived⟩ := Option.isSome_iff_exists.1 arrives
  obtain ⟨dispatched, built, reaches⟩ := reaches_sample arrived
  have off : task.enforced.requireCleanWorktreeOnSuccess = false := by
    rw [reaches.enforced_eq]
  have on : (asked (fun _ => none) dispatched).requireCleanWorktreeOnSuccess = true := by
    rw [fastPathTask_asked built]
    rfl
  rw [(claimed _ _ _ reaches).enforced, on] at off
  cases off

end Zero3Pilot.RemoteHost
