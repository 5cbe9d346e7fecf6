import Zero3Pilot.Foundations.Separators
import Zero3Pilot.WorkerGateway.Outcomes

/-! # The scopes of idempotency keys

`request_dedupe_key` joins the identifiers that scope a key with colons, and an identifier may have
colons in it. So the requests of two workers can have one key. Then the second one is refused, or is
answered with the record of the first. -/

namespace Zero3Pilot.WorkerGateway

open ControlPlane (isIdChar trim)
open Procedure (ensures_bind ensures_read ensures_map ensures_modify ensures_pure ensures_fail)

variable {node capability tool : String} {arguments : Json} {state after : WorkerGatewayState}

/-! ## Scopes -/

def scopeMembers : List String :=
  ["taskId", "stepId", "assignmentId", "workerId", "sessionId", "claimId"]

/-- **The nine components** of an idempotency key in its scope. -/
structure Scope where
  (capability tool : String)
  identifiers : List String
  key : String
deriving DecidableEq

def scopeOf (capability tool : String) : Json → Option Scope
  | .object members => do
    let key := trim (← textMember members "idempotencyKey")
    if key = "" then none
    else some ⟨capability, tool, scopeMembers.map fun name => (textMember members name).getD "", key⟩
  | _ => none

/-- The parts of a key before the key of the caller. -/
def Scope.parts (scope : Scope) : List (List Char) :=
  (scope.capability :: scope.tool :: scope.identifiers).map String.toList

def Scope.text (scope : Scope) : String := String.ofList (joined ':' scope.parts scope.key.toList)

variable {scope scope' : Scope}

theorem requestDedupeKey_eq :
    requestDedupeKey capability tool arguments = (scopeOf capability tool arguments).map Scope.text := by
  cases arguments with
  | object members =>
    simp only [requestDedupeKey, scopeOf]
    cases textMember members "idempotencyKey" with
    | none => rfl
    | some key =>
      simp only [Option.bind_eq_bind, Option.bind_some]
      by_cases empty : trim key = ""
      · rw [if_pos empty, if_pos empty]
        rfl
      · rw [if_neg empty, if_neg empty, Option.map_some, Option.some_inj]
        apply String.toList_inj.1
        simp [Scope.text, Scope.parts, scopeMembers, joined, String.toList_append]
  | null | bool | number | string | array => rfl

theorem scopeOf_fields (isScope : scopeOf capability tool arguments = some scope) :
    scope.capability = capability ∧ scope.tool = tool ∧ scope.identifiers.length = 6 ∧
      scope.key.toList ≠ [] := by
  unfold scopeOf at isScope
  split at isScope
  · simp only [Option.bind_eq_bind, Option.bind_eq_some_iff] at isScope
    obtain ⟨key, -, isScope⟩ := isScope
    split at isScope
    · cases isScope
    · rename_i nonempty
      cases isScope
      exact ⟨rfl, rfl, rfl, by simpa using nonempty⟩
  · cases isScope

theorem Scope.text_injective (same : scope.text = scope'.text) :
    joined ':' scope.parts scope.key.toList = joined ':' scope'.parts scope'.key.toList := by
  simpa [Scope.text] using congrArg String.toList same

theorem Scope.ext_parts (parts : scope.parts = scope'.parts)
    (key : scope.key.toList = scope'.key.toList) : scope = scope' := by
  have texts := List.map_injective_iff.2 (fun _ _ => String.toList_inj.1) parts
  obtain ⟨capability, tool, identifiers, text⟩ := scope
  obtain ⟨capability', tool', identifiers', text'⟩ := scope'
  simp only [List.cons.injEq] at texts
  obtain ⟨rfl, rfl, rfl⟩ := texts
  obtain rfl : text = text' := String.toList_inj.1 key
  rfl

/-- **No separator in the identifiers**, and none in the key but at its end. -/
def Scope.Plain (scope : Scope) : Prop :=
  (∀ identifier ∈ scope.identifiers, ':' ∉ identifier.toList) ∧ ':' ∉ scope.key.toList.dropLast

/-- The characters of the identifiers a caller may send. -/
def isScopeChar (char : Char) : Bool := isIdChar char || char == ':'

/-- **A valid submission** with a key. -/
structure Submits (capability tool : String) (arguments : Json) (scope : Scope) : Prop where
  known : validateToolFor capability tool = .ok ()
  isScope : scopeOf capability tool arguments = some scope
  chars : ∀ text ∈ scope.key :: scope.identifiers, ∀ char ∈ text.toList, isScopeChar char = true

theorem plain_of_known (known : validateToolFor capability tool = .ok ()) :
    ':' ∉ capability.toList ∧ ':' ∉ tool.toList := by
  have tools : ∀ tool ∈ workerTools ++ skillTools ++ capabilityTools, ':' ∉ tool.toList := by
    decide
  rw [validateToolFor, ensure_ok] at known
  split_ifs at known with worker skill remote
  · exact ⟨worker ▸ by decide, tools tool (by simp_all)⟩
  · exact ⟨skill ▸ by decide, tools tool (by simp_all)⟩
  · exact ⟨remote ▸ by decide, tools tool (by simp_all)⟩

theorem Scope.Plain.unique (plain : scope.Plain) (known : validateToolFor capability tool = .ok ())
    (isScope : scopeOf capability tool arguments = some scope) {capability' tool' : String}
    {arguments' : Json} (isScope' : scopeOf capability' tool' arguments' = some scope')
    (same : scope'.text = scope.text) : scope' = scope := by
  obtain ⟨rfl, rfl, length, nonempty⟩ := scopeOf_fields isScope
  obtain ⟨-, -, length', nonempty'⟩ := scopeOf_fields isScope'
  have free : ∀ part ∈ scope.parts, ':' ∉ part := by
    have named := plain_of_known known
    simpa [Scope.parts, named] using plain.1
  obtain ⟨parts, key⟩ := joined_unique free plain.2 nonempty nonempty'
    (by simp [Scope.parts, length, length']) (Scope.text_injective same.symm)
  exact (Scope.ext_parts parts key).symm

/-! ## Answers -/

variable {environment : Environment} {record : WorkerRpcRecord} {id : String}

def WorkerRpcRecord.Keyed (record : WorkerRpcRecord) : Prop :=
  record.dedupeKey = requestDedupeKey record.capability record.tool record.arguments

def Keyed (state : WorkerGatewayState) : Prop :=
  ∀ (id : String) (record : WorkerRpcRecord), state.requests[id]? = some record → record.Keyed

theorem Refreshed.submission {now : Int} (refreshed : Refreshed now state after)
    (found : after.requests[id]? = some record) :
    ∃ before : WorkerRpcRecord, state.requests[id]? = some before ∧
      before.capability = record.capability ∧ before.tool = record.tool ∧
      before.arguments = record.arguments ∧ before.dedupeKey = record.dedupeKey := by
  obtain ⟨before, held, rfl | isKept⟩ := refreshed.found found
  · exact ⟨_, held, rfl, rfl, rfl, rfl⟩
  · refine ⟨before, held, ?_⟩
    obtain rfl | ⟨-, -, rfl⟩ | ⟨-, rfl⟩ := WorkerRpcRecord.kept_cases isKept
    all_goals exact ⟨rfl, rfl, rfl, rfl⟩

theorem keyed_of_run {history : GatewayHistory}
    (run : (gatewayMachine node).Run Machine.anyStep .empty history state) : Keyed state := by
  refine run.stateInvariant Keyed (by simp [Keyed, WorkerGatewayState.empty]) ?_
  intro state call keyed _
  obtain ⟨mid, refreshed, effect⟩ := (serves node call state).effect
  have inMid : Keyed mid := by
    intro id record found
    obtain ⟨before, held, capability, tool, arguments, key⟩ := refreshed.submission found
    have before_keyed := keyed id before held
    rwa [WorkerRpcRecord.Keyed, capability, tool, arguments, key] at before_keyed
  have inserted {key : String} {new : WorkerRpcRecord} (isKeyed : new.Keyed) :
      Keyed ⟨mid.requests.insert key new⟩ := by
    intro id record found
    rw [Std.ExtTreeMap.getElem?_insert] at found
    split at found
    · cases found
      exact isKeyed
    · exact inMid id record found
  show Keyed (serve node call state).2
  generalize (serve node call state).1 = answer at effect
  generalize (serve node call state).2 = after at effect
  cases effect with
  | none | idle => exact inMid
  | submitted => exact inserted rfl
  | leased _ leased _ isOldest =>
    obtain ⟨⟨key, found⟩, -⟩ := WorkerGatewayState.mem_candidates.1 (oldest_spec isOldest).1
    exact inserted (inMid key leased found)
  | finished report reported _ found => exact inserted (inMid _ reported found)

def SharesKey (key : Option String) (state : WorkerGatewayState) (record : WorkerRpcRecord) : Prop :=
  key.isSome ∧ ∃ (id : String) (before : WorkerRpcRecord), state.requests[id]? = some before ∧
    before.capability = record.capability ∧ before.tool = record.tool ∧
    before.arguments = record.arguments ∧ before.dedupeKey = key

theorem validateToolFor_error {error : ApiError}
    (unknown : validateToolFor capability tool = .error error) : error.status = .notFound := by
  unfold validateToolFor at unknown
  dsimp only at unknown
  generalize (if capability = workerCapability then _ else _ : Bool) = known at unknown
  cases known with
  | false =>
    cases unknown
    rfl
  | true => cases unknown

theorem submitFor_answers : (submitFor node capability tool arguments environment).Ensures
      (fun record _ => record = submittedRecord node capability tool arguments environment ∨
        SharesKey (requestDedupeKey capability tool arguments) state record)
      (fun error _ => error.status = .conflict →
        ∃ record, SharesKey (requestDedupeKey capability tool arguments) state record) state := by
  rw [submitFor, ensures_bind]
  refine (Procedure.ensures_ofExcept _).2 ⟨fun _ _ => ?_, fun error unknown status => ?_⟩
  · refine .checked (fun _ => ?_) (by simp)
    rw [ensures_bind]
    refine ((refreshLocked_ensures.and refreshLocked_throws).mono ?_ ?_)
    · rintro - mid ⟨kept, -⟩
      simp only [ensures_bind, ensures_read]
      have refreshed : Refreshed environment.refreshedAt state mid := fun id => .inr (kept id)
      split
      · rename_i isFound
        have listed := List.mem_of_find?_eq_some isFound
        have matching := List.find?_some isFound
        obtain ⟨⟨id, existing⟩, entry, rfl⟩ := List.mem_map.1 listed
        obtain ⟨hasKey, key⟩ : (requestDedupeKey capability tool arguments).isSome ∧
            existing.dedupeKey = requestDedupeKey capability tool arguments := by
          simpa using matching
        obtain ⟨before, held, same⟩ :=
          refreshed.submission (Std.ExtTreeMap.mem_toList_iff_getElem?_eq_some.1 entry)
        have shares : SharesKey (requestDedupeKey capability tool arguments) state existing :=
          ⟨hasKey, id, before, held, same.1, same.2.1, same.2.2.1, same.2.2.2.trans key⟩
        exact .checked (fun _ => (ensures_pure _).2 (.inr shares)) fun _ => ⟨existing, shares⟩
      · rw [enqueue]
        simp only [ensures_bind, ensures_read]
        refine .check (fun _ => ?_) (by simp)
        cases environment.fault with
        | none =>
          simp only [persist, ensures_pure, ensures_modify]
          exact .inl trivial
        | some message => exact (ensures_fail _).2 (by simp [ApiError.internal])
    · rintro error mid ⟨-, _, message, -, rfl⟩ conflict
      cases conflict
  · rw [validateToolFor_error unknown] at status
    cases status

/-! ## Separated submissions -/

/-- **A submission is not taken for another one.** No other valid submission has its key. What it is
answered with, and what it is refused for, is a record of the same components. -/
structure Separated (node capability tool : String) (arguments : Json) (scope : Scope) : Prop where
  keys : ∀ (capability' tool' : String) (arguments' : Json) (scope' : Scope),
    Submits capability' tool' arguments' scope' →
      requestDedupeKey capability' tool' arguments' = requestDedupeKey capability tool arguments →
        scope' = scope
  returned : ∀ (history : GatewayHistory) (state : WorkerGatewayState) (environment : Environment)
      (record : WorkerRpcRecord),
    (gatewayMachine node).Run Machine.anyStep .empty history state →
      (serve node ⟨.submitFor capability tool arguments, environment⟩ state).1 =
          .ok (.record record) →
        scopeOf record.capability record.tool record.arguments = some scope
  refused : ∀ (history : GatewayHistory) (state : WorkerGatewayState) (environment : Environment)
      (error : ApiError),
    (gatewayMachine node).Run Machine.anyStep .empty history state →
      (serve node ⟨.submitFor capability tool arguments, environment⟩ state).1 = .error error →
        error.status = .conflict →
          ∃ (id : String) (record : WorkerRpcRecord), state.requests[id]? = some record ∧
            scopeOf record.capability record.tool record.arguments = some scope

theorem Scope.Plain.shared (plain : scope.Plain) (submits : Submits capability tool arguments scope)
    (keyed : Keyed state)
    (shares : SharesKey (requestDedupeKey capability tool arguments) state record) :
    ∃ (id : String) (before : WorkerRpcRecord), state.requests[id]? = some before ∧
      before.capability = record.capability ∧ before.tool = record.tool ∧
      before.arguments = record.arguments ∧
      scopeOf record.capability record.tool record.arguments = some scope := by
  obtain ⟨-, id, before, held, isCapability, isTool, isArguments, key⟩ := shares
  refine ⟨id, before, held, isCapability, isTool, isArguments, ?_⟩
  have same := keyed id before held
  rw [WorkerRpcRecord.Keyed, key, isCapability, isTool, isArguments, requestDedupeKey_eq,
    requestDedupeKey_eq, submits.isScope, Option.map_some] at same
  obtain ⟨scope', isScope', texts⟩ := Option.map_eq_some_iff.1 same.symm
  rw [isScope', plain.unique submits.known submits.isScope isScope' texts]

def Scope.toArguments (scope : Scope) : Json :=
  .object (("idempotencyKey", .string scope.key) :: scopeMembers.zip (scope.identifiers.map .string))

theorem scopeOf_arguments (length : scope.identifiers.length = 6) (trimmed : trim scope.key = scope.key)
    (nonempty : scope.key ≠ "") :
    scopeOf scope.capability scope.tool scope.toArguments = some scope := by
  obtain ⟨capability, tool, identifiers, key⟩ := scope
  rcases identifiers with _ | ⟨a, _ | ⟨b, _ | ⟨c, _ | ⟨d, _ | ⟨e, _ | ⟨f, _ | ⟨g, more⟩⟩⟩⟩⟩⟩⟩
  all_goals simp at length
  simp only at trimmed nonempty
  simp [scopeOf, Scope.toArguments, scopeMembers, textMember, List.lookup_cons, trimmed, nonempty]

theorem trim_of_scopeChars {text : String} (chars : ∀ char ∈ text.toList, isScopeChar char = true) :
    trim text = text := by
  refine trimWith_eq_self fun char member => ?_
  have isChar := chars char member
  have bounds : 0x20 < char.toNat ∧ char.toNat < 0x80 := by
    simp only [isScopeChar, isIdChar, Bool.or_eq_true, beq_iff_eq] at isChar
    rcases isChar with (((alphanum | rfl) | rfl) | rfl) | rfl
    · exact bounds_of_isAlphanum alphanum
    all_goals decide
  simp only [isUnicodeWhitespace, isCommonWhitespace, Bool.or_eq_false_iff, Bool.and_eq_false_iff,
    decide_eq_false_iff_not]
  omega

theorem Submits.plain (submits : Submits capability tool arguments scope)
    (separated : Separated node capability tool arguments scope) : scope.Plain := by
  obtain ⟨rfl, rfl, length, nonempty⟩ := scopeOf_fields submits.isScope
  by_contra surplus
  obtain ⟨parts, last, length', nonempty', same, differs⟩ := @exists_joined _ ':' scope.key.toList
    (scope.identifiers.map String.toList) (fun none => by simp [List.map_eq_nil_iff.1 none] at length) nonempty
    (by simpa [Scope.Plain, imp_iff_not_or, Classical.not_and_iff_not_or_not] using surplus)
  have chars : (∀ part ∈ parts, ∀ char ∈ part, isScopeChar char = true) ∧
      ∀ char ∈ last, isScopeChar char = true := by
    have joining {parts : List (List Char)} {last : List Char} := @forall_mem_joined _ ':' last parts
      (isScopeChar · = true) (by decide)
    rw [← joining, same, joining]
    obtain ⟨key, identifiers⟩ := List.forall_mem_cons.1 submits.chars
    exact ⟨List.forall_mem_map.2 identifiers, key⟩
  let other : Scope := ⟨scope.capability, scope.tool, parts.map String.ofList, String.ofList last⟩
  have isScope : scopeOf other.capability other.tool other.toArguments = some other :=
    scopeOf_arguments (by simpa [other, length] using length')
      (trim_of_scopeChars (by simpa [other] using chars.2)) (by simpa [other] using nonempty')
  have submitted : Submits scope.capability scope.tool other.toArguments other :=
    ⟨submits.known, isScope, by simpa [other] using ⟨chars.2, chars.1⟩⟩
  have texts : other.text = scope.text := by
    simp [other, Scope.text, Scope.parts, joined, Function.comp_def, same]
  have equal := separated.keys _ _ _ other submitted (by
    rw [requestDedupeKey_eq, requestDedupeKey_eq, isScope, submits.isScope, Option.map_some,
      Option.map_some, texts])
  apply differs
  rw [← equal]
  simp [other, Function.comp_def]

theorem Scope.Plain.answers (plain : scope.Plain) (submits : Submits capability tool arguments scope)
    (keyed : Keyed state) :
    (serve node ⟨.submitFor capability tool arguments, environment⟩).Ensures
      (fun answer _ => ∀ record, answer = .record record →
        scopeOf record.capability record.tool record.arguments = some scope)
      (fun error _ => error.status = .conflict →
        ∃ (id : String) (record : WorkerRpcRecord), state.requests[id]? = some record ∧
          scopeOf record.capability record.tool record.arguments = some scope) state := by
  rw [serve]
  refine (ensures_map _ _).2 (submitFor_answers.mono ?_ ?_)
  · rintro record - answered _ ⟨⟩
    rcases answered with rfl | shares
    · exact submits.isScope
    · obtain ⟨-, -, -, -, -, -, same⟩ := plain.shared submits keyed shares
      exact same
  · intro error _ answered conflict
    obtain ⟨record, shares⟩ := answered conflict
    obtain ⟨id, before, held, isCapability, isTool, isArguments, same⟩ :=
      plain.shared submits keyed shares
    refine ⟨id, before, held, ?_⟩
    rw [isCapability, isTool, isArguments, same]

/-- **Submissions are separated exactly where the identifiers have no separator.** -/
theorem separated_iff (submits : Submits capability tool arguments scope) :
    Separated node capability tool arguments scope ↔ scope.Plain := by
  refine ⟨submits.plain, fun plain => ⟨?_, ?_, ?_⟩⟩
  · intro capability' tool' arguments' scope' submits' same
    rw [requestDedupeKey_eq, requestDedupeKey_eq, submits.isScope, submits'.isScope, Option.map_some,
      Option.map_some, Option.some_inj] at same
    exact plain.unique submits.known submits.isScope submits'.isScope same
  · intro history state environment record run answered
    exact (plain.answers submits (keyed_of_run run)).returned (Prod.ext answered rfl) record rfl
  · intro history state environment error run refused
    exact (plain.answers submits (keyed_of_run run)).threw (Prod.ext refused rfl)

def claimArguments (taskId stepId : String) : Json :=
  .object [("idempotencyKey", .string "claim-1"), ("taskId", .string taskId),
    ("stepId", .string stepId)]

def claimScope (taskId stepId : String) : Scope :=
  ⟨workerCapability, "claim_work", [taskId, stepId, "", "", "", ""], "claim-1"⟩

theorem scopeChars_of_all {texts : List String} (all : texts.all (·.toList.all isScopeChar) = true) :
    ∀ text ∈ texts, ∀ char ∈ text.toList, isScopeChar char = true := by
  simpa using all

theorem separated_iff_sample :
    Separated "node-1" workerCapability "claim_work" (claimArguments "task-1" "step-1")
      (claimScope "task-1" "step-1") :=
  (separated_iff ⟨by decide, by decide, scopeChars_of_all (by decide)⟩).2 (by unfold Scope.Plain; decide)

def claimedRun : GatewayHistory × WorkerGatewayState :=
  (gatewayMachine "node-1").exec .empty
    [⟨.submitFor workerCapability "claim_work" (claimArguments "a:b" "c"),
      sampleEnvironment 0 (sampleUuid 0)⟩]

/-- The claim of the step `b:c` of the task `a` has the same key and is refused. -/
theorem separated_iff_counterexample :
    Submits workerCapability "claim_work" (claimArguments "a" "b:c") (claimScope "a" "b:c") ∧
      ¬ Separated "node-1" workerCapability "claim_work" (claimArguments "a" "b:c")
        (claimScope "a" "b:c") ∧
      (gatewayMachine "node-1").Run Machine.anyStep .empty claimedRun.1 claimedRun.2 ∧
      refusal (serve "node-1" ⟨.submitFor workerCapability "claim_work" (claimArguments "a" "b:c"),
        sampleEnvironment 1 (sampleUuid 1)⟩ claimedRun.2).1 = some .conflict := by
  refine ⟨⟨by decide, by decide, scopeChars_of_all (by decide)⟩, fun separated => ?_,
    Machine.exec_run _ _ _ ⟨trivial, trivial⟩, by decide +kernel⟩
  have same := separated.keys workerCapability "claim_work" (claimArguments "a:b" "c")
    (claimScope "a:b" "c") ⟨by decide, by decide, scopeChars_of_all (by decide)⟩ (by decide)
  exact absurd same (by decide)

end Zero3Pilot.WorkerGateway
