import Mathlib.Data.Prod.Lex
import Mathlib.Data.String.Basic
import Zero3Pilot.WorkerRuntime.Batches

/-! # Claiming

A claim looks at as many of the ready stages as it may take, in their order, and takes those of them
whose capability the session has. A stage whose capability it lacks stays in its way. -/

namespace Zero3Pilot.WorkerRuntime

open Procedure (ensures_bind ensures_ite ensures_modify ensures_pure ensures_read modify)

/-! ## Choosing -/

section Lists

variable {α : Type} {p : α → Bool} {items : List α} {count : Nat}

/-- The chosen ones of the first items are the first of the chosen ones, if all the first items are
chosen or no later one is. -/
theorem filter_take_eq_iff : (items.take count).filter p = (items.filter p).take count ↔
    (∀ item ∈ items.take count, p item = true) ∨ ∀ item ∈ items.drop count, ¬ p item = true := by
  have parts : items.filter p = (items.take count).filter p ++ (items.drop count).filter p := by
    rw [← List.filter_append, List.take_append_drop]
  constructor
  · intro same
    by_cases none : (items.drop count).filter p = []
    · exact .inr (List.filter_eq_nil_iff.1 none)
    · have more := congrArg List.length parts
      have lengths := congrArg List.length same
      rw [List.length_append] at more
      rw [List.length_take] at lengths
      have positive := List.length_pos_iff.2 none
      have most := List.length_filter_le p (items.take count)
      have few := List.length_take_le count items
      refine .inl (List.length_filter_eq_length_iff.1 ?_)
      omega
  · intro lawful
    rw [parts]
    rcases lawful with all | none
    · rw [List.filter_eq_self.2 all]
      by_cases short : items.length ≤ count
      · rw [List.drop_eq_nil_of_le short, List.filter_nil, List.append_nil, List.take_take, min_self]
      · rw [List.take_append_of_le_length (by simp; omega), List.take_take, min_self]
    · rw [List.filter_eq_nil_iff.2 none, List.append_nil]
      exact (List.take_of_length_le ((List.length_filter_le ..).trans (List.length_take_le ..))).symm

variable {r : α → α → Prop} [DecidableRel r] [IsTrans α r]

theorem filter_orderedInsert {item : α} (sorted : items.Pairwise r) :
    (items.orderedInsert r item).filter p =
      if p item then (items.filter p).orderedInsert r item else items.filter p := by
  induction items with
  | nil => cases chosen : p item <;> simp [chosen]
  | cons other items ih =>
    have rest := ih (List.pairwise_cons.1 sorted).2
    by_cases before : r item other
    · have all (later : α) (member : later ∈ (other :: items).filter p) : r item later := by
        rcases List.mem_cons.1 (List.mem_filter.1 member).1 with rfl | member
        · exact before
        · exact trans_of r before ((List.pairwise_cons.1 sorted).1 later member)
      have first : ((other :: items).filter p).orderedInsert r item =
          item :: (other :: items).filter p := by
        cases same : (other :: items).filter p with
        | nil => rfl
        | cons head tail => exact List.orderedInsert_cons_of_le _ _ (all head (by rw [same]; simp))
      rw [List.orderedInsert_cons_of_le _ _ before, first, List.filter_cons]
    · rw [List.orderedInsert_of_not_le _ _ before, List.filter_cons, rest]
      cases chosen : p other <;> cases chosen' : p item <;> simp [chosen, before]

/-- What is chosen before is sorted as what is chosen afterwards. -/
theorem filter_insertionSort [Std.Total r] :
    (items.insertionSort r).filter p = (items.filter p).insertionSort r := by
  induction items with
  | nil => rfl
  | cons item items ih =>
    rw [List.insertionSort_cons, filter_orderedInsert (List.pairwise_insertionSort r items), ih]
    cases chosen : p item <;> simp [chosen]

end Lists

/-! ## The order of stages -/

variable {store : WorkerStore} {verified : Verified} {maxItems leaseSeconds : Nat}
  {environment : Environment}

def WorkerStore.place (store : WorkerStore) (row : StageRun) : Nat ×ₗ Nat ×ₗ String :=
  toLex (((store.item? row.workflowRunId row.workItemId).map (·.ordinal)).getD 0,
    toLex (row.ordinal, row.stageRunId))

theorem earlier_iff {row other : StageRun} :
    store.Earlier row other ↔ store.place row ≤ store.place other := by
  unfold WorkerStore.Earlier WorkerStore.place
  rw [Prod.Lex.toLex_le_toLex, Prod.Lex.toLex_le_toLex]

instance : Std.Total store.Earlier where
  total row other := (le_total (store.place row) (store.place other)).imp earlier_iff.2 earlier_iff.2

instance : IsTrans StageRun store.Earlier where
  trans _ _ _ first second := earlier_iff.2 ((earlier_iff.1 first).trans (earlier_iff.1 second))

def Verified.Waits (verified : Verified) (row : StageRun) : Bool :=
  row.workflowRunId = verified.claims.workflowRunId &&
    row.workerDefinitionId = verified.claims.workerDefinitionId && row.status = .ready &&
    row.attempts < row.maxAttempts

def Verified.Allows (verified : Verified) (row : StageRun) : Bool :=
  verified.claims.allowedCapabilities.contains row.requiredCapability

/-- **The stages a ticket may be given**, in their order. -/
def WorkerStore.eligible (store : WorkerStore) (verified : Verified) : List StageRun :=
  (store.stages.filter fun row => verified.Waits row && verified.Allows row).insertionSort store.Earlier

/-- The stages that are ready for the worker of a ticket, in their order. -/
def WorkerStore.waiting (store : WorkerStore) (verified : Verified) : List StageRun :=
  (store.stages.filter verified.Waits).insertionSort store.Earlier

theorem filter_waiting : (store.waiting verified).filter verified.Allows = store.eligible verified := by
  unfold WorkerStore.waiting WorkerStore.eligible
  rw [filter_insertionSort, List.filter_filter]
  simp only [Bool.and_comm]

theorem scope_of_verified {ticket : Ticket} {now : Int} {after : WorkerStore}
    (isVerified : verifiedTicket ticket now store = (.ok verified, after)) :
    verified.binding.workflowRunId = verified.claims.workflowRunId ∧
      verified.binding.workerDefinitionId = verified.claims.workerDefinitionId := by
  have ensured : (verifiedTicket ticket now).Ensures (fun verified _ =>
      verified.binding.workflowRunId = verified.claims.workflowRunId ∧
        verified.binding.workerDefinitionId = verified.claims.workerDefinitionId)
      (fun _ _ => True) store := by
    refine (ensures_bind _ _).2 (.ofExcept (fun claims _ => (ensures_bind _ _).2 (ensures_read.2 ?_))
      fun _ => trivial)
    refine (ensures_bind _ _).2 (.require (fun slot _ => ?_) trivial)
    refine (ensures_bind _ _).2 (.require (fun session _ => ?_) trivial)
    refine (ensures_bind _ _).2 (.require (fun binding _ => ?_) trivial)
    refine (ensures_bind _ _).2 (.require (fun _ _ => ?_) trivial)
    refine (ensures_bind _ _).2 (.check (fun sameRun => ?_) trivial)
    refine (ensures_bind _ _).2 (.check (fun sameDefinition => ?_) trivial)
    iterate 4 refine (ensures_bind _ _).2 (.check (fun _ => ?_) trivial)
    exact (ensures_pure _).2 ⟨sameRun, sameDefinition⟩
  exact ensured.returned isVerified

/-! ## A claim -/

def Placed (tables : StageTables) (runId itemId : String) : Prop :=
  (runId, itemId) ∈ tables.items ∧
    ∃ row ∈ tables.stages, row.workflowRunId = runId ∧ row.workItemId = itemId

variable {tables tables' : StageTables} {runId itemId : String}

theorem Placed.quiet (placed : Placed tables runId itemId) (quiet : Quiet tables tables') :
    Placed tables' runId itemId := by
  obtain ⟨isItem, row, member, rfl, rfl⟩ := placed
  obtain ⟨row', now, becomes⟩ := quiet.forward row member
  exact ⟨quiet.items ▸ isItem, row', now, becomes.run, becomes.item⟩

theorem item?_isSome : (store.item? runId itemId).isSome ↔ (runId, itemId) ∈ store.tables.items := by
  simp [WorkerStore.item?, WorkerStore.tables, List.find?_isSome]

theorem ensures_recalculateWorkItem (placed : Placed store.tables runId itemId) :
    (recalculateWorkItem runId itemId).Ensures
      (fun _ after => after.units = store.units ∧ Quiet store.tables after.tables)
      (fun _ _ => False) store := by
  have found : (recalculateWorkItem runId itemId).Ensures (fun _ after => after.units = store.units)
      (fun _ _ => False) store := by
    obtain ⟨isItem, row, member, own, sameItem⟩ := placed
    refine (ensures_bind _ _).2 (ensures_read.2 ((ensures_bind _ _).2
      ((Procedure.ensures_require _ _).2 ⟨fun item _ => (ensures_bind _ _).2 (.passes ?_ ?_),
        fun absent => ?_⟩)))
    · exact List.ne_nil_of_mem (List.mem_filter.2 ⟨member, by simp [own, sameItem]⟩)
    · exact (ensures_bind _ _).2 ((ensures_modify _).2 ((ensures_pure _).2 rfl))
    · rw [← item?_isSome, absent] at isItem
      exact absurd isItem (by decide)
  exact (found.and (isQuiet_recalculateWorkItem runId itemId store)).mono (fun _ _ both => both)
    fun _ _ both => both.1

theorem quiet_withUnit (store : WorkerStore) (claimId stageRunId : String) :
    Quiet store.tables (store.withUnit claimId stageRunId).tables := by
  refine quiet_updateStage fun row => ?_
  split
  · exact becomes_status (by simp)
  · exact .refl row

theorem ensures_units {claimId : String} {rows : List StageRun}
    (placed : ∀ row ∈ rows, Placed store.tables runId row.workItemId) :
    (rows.forM fun row => do
      modify fun store => store.withUnit claimId row.stageRunId
      let _ ← recalculateWorkItem runId row.workItemId : Runtime PUnit).Ensures
      (fun _ after => after.units = store.units ++ rows.map fun row => (claimId, row.stageRunId))
      (fun _ _ => False) store := by
  induction rows generalizing store with
  | nil => exact (ensures_pure _).2 (List.append_nil _).symm
  | cons row rows ih =>
    refine (ensures_bind _ _).2 ((ensures_bind _ _).2 ((ensures_modify _).2 ((ensures_bind _ _).2 ?_)))
    have taken := quiet_withUnit store claimId row.stageRunId
    refine (ensures_recalculateWorkItem ((placed row List.mem_cons_self).quiet taken)).imp
      fun _ between kept => (ensures_pure _).2 ?_
    refine (ih fun other member => ((placed other (List.mem_cons_of_mem _ member)).quiet taken).quiet
      kept.2).imp fun _ after units => ?_
    rw [units, kept.1]
    simp [WorkerStore.withUnit]

def IsFree (store : WorkerStore) (verified : Verified) : Prop :=
  (∀ claim ∈ store.claims, claim.workerSlotId = verified.binding.workerSlotId →
    claim.workerSessionId = verified.session.workerSessionId → claim.status ≠ .active) ∧
  verified.slot.state ≠ .rotating ∧ verified.slot.state ≠ .closed ∧ verified.slot.state ≠ .lost

instance : Decidable (IsFree store verified) := inferInstanceAs (Decidable (_ ∧ _))

def WorkerStore.taken (store : WorkerStore) (verified : Verified) (maxItems : Nat) : List StageRun :=
  ((store.readyRows verified.binding.workflowRunId verified.binding.workerDefinitionId).take
    maxItems).filter verified.Allows

/-- **What a claim returns and takes.** -/
theorem ensures_createClaimTx (free : IsFree store verified) :
    (createClaimTx verified maxItems leaseSeconds environment).Ensures
      (fun claim after => (claim = none ↔ store.taken verified maxItems = []) ∧
        ∀ view ∈ claim, after.units = store.units ++
          (store.taken verified maxItems).map fun row => (view.claimId, row.stageRunId))
      (fun _ _ => False) store := by
  have idle : (store.currentClaims verified.binding.workerSlotId).find? (fun claim =>
      claim.workerSessionId = verified.session.workerSessionId) = none := by
    simp only [List.find?_eq_none, WorkerStore.currentClaims, List.mem_insertionSort, List.mem_filter,
      Bool.and_eq_true, decide_eq_true_eq]
    exact fun claim listed own => free.1 claim listed.1 listed.2.1 own listed.2.2
  refine (ensures_bind _ _).2 (ensures_read.2 ?_)
  rw [idle]
  refine .otherwise (fun rests => ?_) ((ensures_ite _ _ _).2 ⟨fun none => ?_, fun some => ?_⟩)
  · exact rests.elim free.2.1 (·.elim free.2.2.1 free.2.2.2)
  · exact (ensures_pure _).2 ⟨iff_of_true rfl none, fun view isView => absurd isView (Option.not_mem_none view)⟩
  · refine (ensures_bind _ _).2 ((ensures_modify _).2 ((ensures_bind _ _).2 ?_))
    refine .imp (ensures_units fun row member => ?_) fun _ between units => ?_
    · have listed := List.mem_of_mem_take (List.mem_filter.1 member).1
      simp only [WorkerStore.readyRows, List.mem_insertionSort, List.mem_filter, Bool.and_eq_true,
        decide_eq_true_eq] at listed
      exact ⟨item?_isSome.1 listed.2.2, row, listed.1, listed.2.1.1.1.1, rfl⟩
    · refine (ensures_bind _ _).2 ((ensures_modify _).2 ((ensures_bind _ _).2 ((ensures_modify _).2
        ((ensures_bind _ _).2 (ensures_read.2 ((ensures_pure _).2 ⟨?_, ?_⟩))))))
      · exact iff_of_false (Option.some_ne_none _) some
      · rintro _ ⟨⟩
        exact units

/-- **A claim overlooks nothing**: it returns nothing exactly where no stage is eligible, and
otherwise it takes the first eligible ones. -/
def ClaimsFirst (store : WorkerStore) (verified : Verified) (maxItems leaseSeconds : Nat)
    (environment : Environment) : Prop :=
  ∃ claim after, createClaimTx verified maxItems leaseSeconds environment store = (.ok claim, after) ∧
    (claim = none ↔ store.eligible verified = []) ∧
    ∀ view ∈ claim, after.units = store.units ++
      ((store.eligible verified).take maxItems).map fun row => (view.claimId, row.stageRunId)

theorem taken_eq {lawful : Prop} (sound : Sound lawful [] store.tables)
    (sameRun : verified.binding.workflowRunId = verified.claims.workflowRunId)
    (sameDefinition : verified.binding.workerDefinitionId = verified.claims.workerDefinitionId) :
    store.taken verified maxItems = ((store.waiting verified).take maxItems).filter verified.Allows := by
  unfold WorkerStore.taken WorkerStore.readyRows WorkerStore.waiting
  rw [sameRun, sameDefinition]
  congr 3
  refine List.filter_congr fun row member => ?_
  have housed := item?_isSome.2 (sound.housed row member)
  by_cases own : row.workflowRunId = verified.claims.workflowRunId
  · rw [own] at housed
    simp [Verified.Waits, own, housed]
  · simp [Verified.Waits, own]

/-- **Nothing is overlooked exactly when** the first ready stages, as many as may be taken, all have
an allowed capability, or none of those after them has one. -/
theorem claimsFirst_iff {history : List (WorkerCall × Except String WorkerAnswer)}
    (run : runtimeMachine.Run Machine.anyStep {} history store) {ticket : Ticket} {now : Int}
    (isVerified : verifiedTicket ticket now store = (.ok verified, store))
    (free : IsFree store verified) (positive : 1 ≤ maxItems) :
    ClaimsFirst store verified maxItems leaseSeconds environment ↔
      (∀ row ∈ (store.waiting verified).take maxItems, verified.Allows row = true) ∨
        ∀ row ∈ (store.waiting verified).drop maxItems, ¬ verified.Allows row = true := by
  have sound : Sound False [] store.tables := sound_of_run (run.weaken fun _ _ _ never => never.elim)
  obtain ⟨sameRun, sameDefinition⟩ := scope_of_verified isVerified
  rw [← filter_take_eq_iff, filter_waiting, ← taken_eq sound sameRun sameDefinition]
  have ensured : (createClaimTx verified maxItems leaseSeconds environment).Ensures _ _ store :=
    ensures_createClaimTx free
  obtain ⟨claim, after, ran⟩ : ∃ claim after,
      createClaimTx verified maxItems leaseSeconds environment store = (.ok claim, after) := by
    cases ran : createClaimTx verified maxItems leaseSeconds environment store with
    | mk result after =>
      cases result with
      | ok claim => exact ⟨claim, after, rfl⟩
      | error error => exact (ensured.threw ran).elim
  obtain ⟨isNone, takes⟩ := ensured.returned ran
  constructor
  · rintro ⟨claim', after', ran', isNone', takes'⟩
    obtain ⟨same, rfl⟩ := Prod.mk.inj (ran'.symm.trans ran)
    obtain rfl := Except.ok.inj same
    cases claim' with
    | none =>
      rw [isNone'.1 rfl, isNone.1 rfl, List.take_nil]
    | some view =>
      have units := List.append_cancel_left ((takes view rfl).symm.trans (takes' view rfl))
      have lengths := congrArg List.length units
      rw [List.length_map, List.length_map] at lengths
      -- both are the first of the stages that are eligible
      have first : store.taken verified maxItems <+: store.eligible verified := by
        rw [taken_eq sound sameRun sameDefinition, ← filter_waiting]
        exact (List.take_prefix _ _).filter _
      exact (List.prefix_of_prefix_length_le first (List.take_prefix _ _) lengths.le).eq_of_length
        lengths
  · intro same
    refine ⟨claim, after, ran, ?_, fun view isView => ?_⟩
    · rw [isNone, same, List.take_eq_nil_iff]
      exact or_iff_right (Nat.ne_of_gt positive)
    · rw [← same]
      exact takes view isView

/-! ## Sample runs -/

def sampleBinding : WorkerBinding :=
  ⟨"slot-1", "run-1", "writer", ["write"], 10, none, false, false, none, none, ""⟩

def sampleTicket : Ticket :=
  .ok ⟨"ticket-1", "run-1", "writer", "slot-1", "gptws-1b7e8d2c-5f31-4a6e-9c48-d1e2f3a4b5c6", ["write"],
    0, 100000, 1⟩

/-- A run with stages that are ready and a session that may claim them. -/
def claimable (stages : List StageSeed) : List (WorkerCall × Except String WorkerAnswer) × WorkerStore :=
  runtimeMachine.exec {} (addingCalls stages ++
    [⟨.ensureWorkerBinding sampleBinding "module-1" "1", sampleEnvironment 2⟩,
      ⟨.openPhysicalSession "slot-1" "session-1", sampleEnvironment 3⟩,
      ⟨.bootstrapWorker sampleTicket, sampleEnvironment 4⟩])

theorem run_claimable (stages : List StageSeed) :
    runtimeMachine.Run Machine.anyStep {} (claimable stages).1 (claimable stages).2 :=
  Machine.exec_run _ _ _ ⟨trivial, trivial, trivial, trivial, trivial, trivial⟩

def verifiedOf : Except String Verified → Option Verified
  | .ok verified => some verified
  | .error _ => none

theorem verified_of_get {ticket : Ticket} {now : Int}
    (isSome : (verifiedOf (verifiedTicket ticket now store).1).isSome = true) :
    verifiedTicket ticket now store =
      (.ok ((verifiedOf (verifiedTicket ticket now store).1).get isSome), store) := by
  have leaves : Procedure.Leaves (fun store => store) (verifiedTicket ticket now) :=
    moves_verifiedTicket ticket now
  have same := Procedure.ensures_state.1 (leaves store)
  refine Prod.ext ?_ same
  generalize (verifiedTicket ticket now store).1 = result at isSome
  cases result with
  | ok verified => rfl
  | error error => cases isSome

/-- Two stages, both with the capability of the ticket. -/
def plainRun : List (WorkerCall × Except String WorkerAnswer) × WorkerStore :=
  claimable [sampleStage "draft" "write" [], sampleStage "revise" "write" []]

theorem claimsFirst_iff_sample : ClaimsFirst plainRun.2
      ((verifiedOf (verifiedTicket sampleTicket 5 plainRun.2).1).get (by decide +kernel)) 1 1800
      (sampleEnvironment 5) :=
  (claimsFirst_iff (run_claimable _) (verified_of_get _) (by decide +kernel) le_rfl).2
    (.inl (by decide +kernel))

/-- The first stage needs a capability that the ticket does not have. -/
def blockedRun : List (WorkerCall × Except String WorkerAnswer) × WorkerStore :=
  claimable [sampleStage "survey" "search" [], sampleStage "draft" "write" []]

def isClaimed : Except String (Option ClaimView) → Bool
  | .ok (some _) => true
  | _ => false

/-- Asked for one stage, the runtime has none, though `draft` is eligible. -/
theorem claimsFirst_iff_counterexample :
    ∃ verified, runtimeMachine.Run Machine.anyStep {} blockedRun.1 blockedRun.2 ∧
      verifiedTicket sampleTicket 5 blockedRun.2 = (.ok verified, blockedRun.2) ∧
      IsFree blockedRun.2 verified ∧
      (blockedRun.2.eligible verified).map (·.stageRunId) = ["draft"] ∧
      ¬ ClaimsFirst blockedRun.2 verified 1 1800 (sampleEnvironment 5) := by
  refine ⟨_, run_claimable _, verified_of_get (by decide +kernel), by decide +kernel, by decide +kernel, ?_⟩
  rintro ⟨claim, after, ran, isNone, -⟩
  have refused : isClaimed (createClaimTx ((verifiedOf (verifiedTicket sampleTicket 5 blockedRun.2).1).get
      (by decide +kernel)) 1 1800 (sampleEnvironment 5) blockedRun.2).1 = false := by decide +kernel
  rw [ran] at refused
  cases claim with
  | none => exact absurd (isNone.1 rfl) (by decide +kernel)
  | some view => cases refused

end Zero3Pilot.WorkerRuntime
