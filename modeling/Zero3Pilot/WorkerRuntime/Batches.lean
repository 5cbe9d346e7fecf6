import Zero3Pilot.WorkerRuntime.StageGraph

/-! # Batches of stages

What a call that adds work items does to the stage graph: its stages are inserted first, then their
dependencies, and then their readiness is calculated. -/

namespace Zero3Pilot.WorkerRuntime

open Procedure (ensures_bind ensures_forM ensures_modify ensures_pure ensures_read
  ensures_transaction)

variable {lawful : Prop} {start tables : StageTables} {store : WorkerStore} {runId itemId : String}
  {seeds added : List StageSeed}

/-- The identifiers of new stages. -/
abbrev idsOf (seeds : List StageSeed) : List String := seeds.map (·.stageRunId)

def DependsWithin (seeds : List StageSeed) (child parent : String) : Prop :=
  child ≠ parent ∧ parent ∈ idsOf seeds ∧ ∃ seed ∈ seeds, seed.stageRunId = child ∧ parent ∈ seed.dependsOn

/-! ## Insertion -/

/-- **New stages of a run**, which were not there at the start and have no dependencies yet. -/
structure Seeding (lawful : Prop) (start : StageTables) (runId : String) (added : List StageSeed)
    (tables : StageTables) : Prop where
  sound : Sound lawful (idsOf added) tables
  dependencies : tables.dependencies = start.dependencies
  grown : ∀ row ∈ start.stages, row ∈ tables.stages
  fresh : ∀ id ∈ idsOf added, id ∉ start.stages.map (·.stageRunId)
  placed : ∀ id ∈ idsOf added, ∃ row ∈ tables.stages, row.stageRunId = id ∧ row.workflowRunId = runId
  apart : ∀ seed ∈ added, seed.stageRunId ∉ seed.dependsOn

section

variable (seeding : Seeding lawful start runId added store.tables)
include seeding

theorem Seeding.stage {entry : StageSeed × Nat} (absent : store.stage? entry.1.stageRunId = none)
    (housed : (runId, itemId) ∈ store.tables.items)
    (apart : entry.1.stageRunId ∉ entry.1.dependsOn) :
    Seeding lawful start runId (added ++ [entry.1]) ({ store with
      stages := store.stages ++ [entry.1.row runId itemId entry.2] } : WorkerStore).tables := by
  have unknown (row : StageRun) (member : row ∈ store.stages) : row.stageRunId ≠ entry.1.stageRunId := by
    simpa using List.find?_eq_none.1 absent row member
  have listed {id : String} : id ∈ idsOf (added ++ [entry.1]) ↔
      id ∈ idsOf added ∨ id = entry.1.stageRunId := by
    simp [idsOf]
  refine ⟨⟨?_, fun row member => ?_, fun child parent edge => ?_, seeding.sound.acyclic,
    fun row member isPending tight => ?_⟩, seeding.dependencies,
    fun row member => List.mem_append_left _ (seeding.grown row member), fun id member known => ?_,
    fun id member => ?_, fun seed member => ?_⟩
  · refine List.map_append ▸ seeding.sound.distinct.append (List.nodup_singleton _) ?_
    rintro id known new
    obtain ⟨row, member, rfl⟩ := List.mem_map.1 known
    exact unknown row member (List.mem_singleton.1 new)
  · rcases List.mem_append.1 member with member | new
    · exact seeding.sound.housed row member
    · rw [List.mem_singleton.1 new]
      exact housed
  · obtain ⟨row, member, other, member', same⟩ := seeding.sound.known child parent edge
    exact ⟨row, List.mem_append_left _ member, other, List.mem_append_left _ member', same⟩
  · rcases List.mem_append.1 member with member | new
    · obtain ⟨parent, isParent, waits⟩ := seeding.sound.waits row member isPending fun known =>
        tight (listed.2 (.inl known))
      exact ⟨parent, List.mem_append_left _ isParent, waits⟩
    · rw [List.mem_singleton.1 new] at tight
      exact absurd (listed.2 (.inr rfl)) tight
  · rcases listed.1 member with member | rfl
    · exact seeding.fresh id member known
    · obtain ⟨row, member, same⟩ := List.mem_map.1 known
      exact unknown row (seeding.grown row member) same
  · rcases listed.1 member with member | rfl
    · obtain ⟨row, member, same⟩ := seeding.placed id member
      exact ⟨row, List.mem_append_left _ member, same⟩
    · exact ⟨_, List.mem_append_right _ (List.mem_singleton_self _), rfl, rfl⟩
  · rcases List.mem_append.1 member with member | new
    · exact seeding.apart seed member
    · rw [List.mem_singleton.1 new]
      exact apart

theorem Seeding.item {item : WorkItem} :
    Seeding lawful start runId added ({ store with items := store.items ++ [item] } : WorkerStore).tables := by
  refine ⟨⟨seeding.sound.distinct, fun row member => ?_, seeding.sound.known, seeding.sound.acyclic,
    seeding.sound.waits⟩, seeding.dependencies, seeding.grown, seeding.fresh, seeding.placed,
    seeding.apart⟩
  simp only [WorkerStore.tables, List.map_append]
  exact List.mem_append_left _ (seeding.sound.housed row member)

theorem ensures_stages {entries : List (StageSeed × Nat)} (housed : (runId, itemId) ∈ store.tables.items) :
    (entries.forM (addStage runId itemId)).Ensures
      (fun _ after => Seeding lawful start runId (added ++ entries.map Prod.fst) after.tables)
      (fun _ _ => True) store := by
  induction entries generalizing added store with
  | nil => exact (ensures_pure _).2 (by simpa using seeding)
  | cons entry entries ih =>
    show (addStage runId itemId entry >>= fun _ => entries.forM (addStage runId itemId)).Ensures _ _ _
    refine (ensures_bind _ _).2 ((ensures_bind _ _).2 (ensures_read.2 ((ensures_bind _ _).2
      (.check (fun absent => (ensures_bind _ _).2 ((ensures_modify _).2 ((ensures_bind _ _).2
        (.check (fun _ => .check (fun apart => ?_) trivial) trivial)))) trivial))))
    refine (ih (seeding.stage absent housed apart) housed).imp fun _ after seeding => ?_
    rw [List.append_assoc] at seeding
    exact seeding

theorem ensures_items {items : List WorkItemSeed} {nextOrdinal : Nat} :
    (items.foldlM (addItem runId) nextOrdinal).Ensures
      (fun _ after => Seeding lawful start runId (added ++ items.flatMap (·.stages)) after.tables)
      (fun _ _ => True) store := by
  induction items generalizing added store nextOrdinal with
  | nil => exact (ensures_pure _).2 (by simpa using seeding)
  | cons item items ih =>
    rw [List.foldlM_cons]
    refine (ensures_bind _ _).2 ((ensures_bind _ _).2 (.check (fun _ => (ensures_bind _ _).2
      (ensures_read.2 ((ensures_bind _ _).2 (.check (fun _ => (ensures_bind _ _).2
        ((ensures_modify _).2 ((ensures_bind _ _).2 ?_))) trivial)))) trivial))
    refine .imp (ensures_stages seeding.item ?_) fun _ after seeding => (ensures_pure _).2 (.imp (ih seeding) fun _ after seeding => ?_)
    · simp [WorkerStore.tables]
    · simpa [List.append_assoc] using seeding

end

/-! ## Dependencies -/

/-- **Dependencies of new stages are added** to the tables there were. -/
structure Wired (start : StageTables) (seeds : List StageSeed) (tables : StageTables) : Prop where
  stages : tables.stages = start.stages
  items : tables.items = start.items
  known : Known tables
  kept : ∀ child parent, start.DependsOn child parent → tables.DependsOn child parent
  added : ∀ child parent, tables.DependsOn child parent → start.DependsOn child parent ∨
    ∃ seed ∈ seeds, seed.stageRunId = child ∧ parent ∈ seed.dependsOn

theorem ensures_addDependency {seed : StageSeed} {parent : String} (member : seed ∈ seeds)
    (edge : parent ∈ seed.dependsOn)
    (placed : ∃ row ∈ start.stages, row.stageRunId = seed.stageRunId ∧ row.workflowRunId = runId)
    (wired : Wired start seeds store.tables) :
    (addDependency runId seed.stageRunId parent).Ensures
      (fun _ after => Wired start seeds after.tables) (fun _ _ => True) store := by
  refine (ensures_bind _ _).2 (ensures_read.2 ((ensures_bind _ _).2 (.check (fun isKnown =>
    (ensures_modify _).2 ?_) trivial)))
  obtain ⟨row, found, sameRun⟩ := (Option.any_eq_true ..).1 isKnown
  obtain ⟨child, isChild, sameChild, ownRun⟩ := placed
  have isParent : row.stageRunId = parent := by simpa using List.find?_some found
  have grown {child' parent' : String} : (child', parent') ∈ store.dependencies ++ [(seed.stageRunId, parent)] ↔
      store.tables.DependsOn child' parent' ∨ (child' = seed.stageRunId ∧ parent' = parent) := by
    simp [StageTables.DependsOn, WorkerStore.tables]
  refine ⟨wired.stages, wired.items, fun child' parent' added => ?_, fun child' parent' old =>
    grown.2 (.inl (wired.kept child' parent' old)), fun child' parent' added => ?_⟩
  · rcases grown.1 added with old | ⟨rfl, rfl⟩
    · exact wired.known child' parent' old
    · exact ⟨child, wired.stages ▸ isChild, row, List.mem_of_find?_eq_some found, sameChild, isParent,
        (of_decide_eq_true sameRun).trans ownRun.symm⟩
  · rcases grown.1 added with old | ⟨rfl, rfl⟩
    · exact wired.added child' parent' old
    · exact .inr ⟨seed, member, rfl, edge⟩

/-- **The graph with the new stages has no cycle** where there is none among them. -/
theorem Seeding.wired {wired : StageTables} (sound : Sound lawful [] start)
    (seeding : Seeding lawful start runId seeds tables) (wiring : Wired tables seeds wired)
    (acyclic : lawful → Acyclic (DependsWithin seeds)) : Sound lawful (idsOf seeds) wired := by
  refine ⟨wiring.stages ▸ seeding.sound.distinct, fun row member => ?_, wiring.known, ?_,
    fun row member isPending tight => ?_⟩
  · rw [wiring.items]
    exact seeding.sound.housed row (wiring.stages ▸ member)
  · intro isLawful
    have old {child parent : String} (edge : tables.DependsOn child parent) :
        child ∉ idsOf seeds ∧ parent ∉ idsOf seeds := by
      unfold StageTables.DependsOn at edge
      rw [seeding.dependencies] at edge
      obtain ⟨row, member, other, member', rfl, rfl, -⟩ := sound.known child parent edge
      exact ⟨fun new => seeding.fresh _ new (List.mem_map_of_mem member),
        fun new => seeding.fresh _ new (List.mem_map_of_mem member')⟩
    refine Acyclic.mono ((seeding.sound.acyclic isLawful).extend (· ∈ idsOf seeds)
      (fun child parent edge => old edge) (fun child parent new => ?_)
      ((acyclic isLawful).mono fun child parent new => ?_)) wiring.added
    · obtain ⟨seed, member, rfl, -⟩ := new
      exact List.mem_map_of_mem member
    · obtain ⟨⟨seed, member, rfl, edge⟩, within⟩ := new
      exact ⟨fun same => seeding.apart seed member (same ▸ edge), within, seed, member, rfl, edge⟩
  · obtain ⟨parent, isParent, edge, unfinished⟩ :=
      seeding.sound.waits row (wiring.stages ▸ member) isPending tight
    exact ⟨parent, wiring.stages ▸ isParent, wiring.kept _ _ edge, unfinished⟩

/-! ## Adding work items -/

theorem ensures_readiness {loose : List StageSeed} (sound : Sound lawful (idsOf loose) store.tables) :
    (loose.forM fun seed => do
      let _ ← recalculateStageReadiness seed.stageRunId : Runtime PUnit).Ensures
      (fun _ after => Sound lawful [] after.tables) (fun _ _ => True) store := by
  induction loose generalizing store with
  | nil => exact (ensures_pure _).2 sound
  | cons seed loose ih =>
    refine (ensures_bind _ _).2 ((ensures_bind _ _).2 ?_)
    exact (ensures_recalculate sound).imp fun _ after kept => (ensures_pure _).2 (ih kept)

theorem ensures_addWorkItems {items : List WorkItemSeed} {key : String} {environment : Environment}
    (acyclic : lawful → Acyclic (DependsWithin (items.flatMap (·.stages)))) (sound : Sound lawful [] store.tables) :
    (addWorkItems runId items key environment).Ensures (fun _ after => Sound lawful [] after.tables)
      (fun _ after => Sound lawful [] after.tables) store := by
  refine (ensures_bind _ _).2 (.check (fun _ => (ensures_transaction _).2 ?_) sound)
  refine (keeps_idempotent (fun store sound => ?_) store sound).mono (fun _ _ kept => kept)
    fun _ _ _ => sound
  refine (ensures_bind _ _).2 (ensures_read.2 ((ensures_bind _ _).2 (.require (fun _ _ =>
    (ensures_bind _ _).2 ?_) trivial)))
  have seeding : Seeding lawful store.tables runId [] store.tables :=
    ⟨sound, rfl, fun _ member => member, fun _ member => absurd member List.not_mem_nil,
      fun _ member => absurd member List.not_mem_nil, fun _ member => absurd member List.not_mem_nil⟩
  refine (ensures_items seeding).imp fun _ between seeding => (ensures_bind _ _).2 ?_
  rw [List.nil_append] at seeding
  have wired : Wired between.tables (items.flatMap (·.stages)) between.tables :=
    ⟨rfl, rfl, seeding.sound.known, fun _ _ edge => edge, fun _ _ edge => .inl edge⟩
  refine .imp (ensures_forM
    (fun seed member store wired => ensures_forM (fun parent edge store wired =>
      ensures_addDependency member edge (seeding.placed _ (List.mem_map_of_mem member)) wired) wired)
    wired) fun _ linked (wired : Wired between.tables (items.flatMap (·.stages)) linked.tables) => (ensures_bind _ _).2 ?_
  refine (ensures_readiness (seeding.wired sound wired acyclic)).imp fun _ after sound =>
    keeps_of_isQuiet ?_ after sound
  exact .bind (.forM fun item _ => .bind (isQuiet_recalculateWorkItem _ _) fun _ => .pure _) fun _ =>
    .bind .read fun _ => .bind (.forM fun _ _ => isQuiet_modify fun _ => rfl) fun _ => .pure _

/-! ## Runs -/

/-- No two new stages of a call wait for each other. -/
def AcyclicBatch (call : WorkerCall) : Prop :=
  ∀ runId items key, call.operation = .addWorkItems runId items key →
    Acyclic (DependsWithin (items.flatMap (·.stages)))

theorem sound_serve {call : WorkerCall} (acyclic : lawful → AcyclicBatch call) (sound : Sound lawful [] store.tables) :
    (serve call).Ensures (fun _ after => Sound lawful [] after.tables) (fun _ after => Sound lawful [] after.tables)
      store := by
  by_cases quiet : IsQuiet (serve call)
  · exact quiet.ensures (fun _ _ moved => sound.quiet moved) fun _ _ moved => sound.quiet moved
  · obtain ⟨operation, environment⟩ := call
    by_cases adds : ∃ runId items key, operation = .addWorkItems runId items key
    · obtain ⟨runId, items, key, rfl⟩ := adds
      exact ensures_addWorkItems (fun isLawful => acyclic isLawful runId items key rfl) sound
    by_cases commits : ∃ ticket claimId artifacts maxItems leaseSeconds key,
        operation = .commitAndClaimNext ticket claimId artifacts maxItems leaseSeconds key
    · obtain ⟨ticket, claimId, artifacts, maxItems, leaseSeconds, key, rfl⟩ := commits
      exact keeps_commit ticket claimId artifacts maxItems leaseSeconds key environment sound
    refine absurd (isQuiet_serve ?_ ?_) quiet
    · exact fun runId items key same => adds ⟨runId, items, key, same⟩
    · exact fun ticket claimId artifacts maxItems leaseSeconds key same =>
        commits ⟨ticket, claimId, artifacts, maxItems, leaseSeconds, key, same⟩

theorem sound_nil : Sound lawful [] (WorkerStore.tables {}) := by
  refine ⟨List.nodup_nil, fun row member => absurd member List.not_mem_nil,
    fun child parent edge => absurd edge List.not_mem_nil, fun _ id cycle => ?_,
    fun row member => absurd member List.not_mem_nil⟩
  obtain ⟨parent, edge, -⟩ := Relation.TransGen.head'_iff.1 cycle
  exact absurd edge List.not_mem_nil

variable {history : List (WorkerCall × Except String WorkerAnswer)}

theorem sound_of_run
    (run : runtimeMachine.Run (fun _ call => lawful → AcyclicBatch call) {} history store) :
    Sound lawful [] store.tables :=
  run.procedure_invariant (fun store => Sound lawful [] store.tables) sound_nil
    fun _ _ sound acyclic => sound_serve acyclic sound

/-- **Runs proceed** as long as no stages that are added together wait for each other. -/
theorem progressing_of_run
    (run : runtimeMachine.Run (fun _ call => AcyclicBatch call) {} history store) :
    Progressing store.tables :=
  (sound_of_run (run.weaken fun _ _ acyclic _ => acyclic)).progressing

def sampleEnvironment (time : Int) : Environment where
  checkedAt := time
  now := time
  recheckedAt := time
  uuid := ⟨"1b7e8d2c-5f31-4a6e-9c48-d1e2f3a4b5c6", by decide, by decide⟩
  wakeupUuid _ _ := ⟨"5f310b7e-8d2c-4a6e-9c48-d1e2f3a4b5c6", by decide, by decide⟩

def sampleStage (id capability : String) (dependsOn : List String) : StageSeed :=
  ⟨id, "writer", capability, none, [], 3, dependsOn⟩

def addingCalls (stages : List StageSeed) : List WorkerCall :=
  [⟨.ensureWorkflowRun "run-1" "task-1" "module-1" "1" "", sampleEnvironment 0⟩,
    ⟨.addWorkItems "run-1" [⟨"item-1", none, stages⟩] "key-1", sampleEnvironment 1⟩]

theorem progressing_of_run_sample :
    Progressing (runtimeMachine.exec {} (addingCalls [sampleStage "draft" "write" [],
      sampleStage "review" "write" ["draft"]])).2.tables := by
  refine progressing_of_run (Machine.exec_run _ _ (addingCalls _) ⟨?_, ?_, trivial⟩)
  · exact fun _ _ _ adds => WorkerOperation.noConfusion adds
  · intro runId items key adds id cycle
    obtain ⟨rfl, rfl, rfl⟩ := WorkerOperation.addWorkItems.inj adds
    have edge {child parent : String} (within : DependsWithin
        [sampleStage "draft" "write" [], sampleStage "review" "write" ["draft"]] child parent) :
        child = "review" ∧ parent = "draft" := by
      obtain ⟨-, -, seed, member, rfl, depends⟩ := within
      rcases List.mem_pair.1 member with rfl | rfl
      · exact absurd depends List.not_mem_nil
      · exact ⟨rfl, List.mem_singleton.1 depends⟩
    obtain ⟨parent, first, -⟩ := Relation.TransGen.head'_iff.1 cycle
    obtain ⟨child, -, last⟩ := Relation.TransGen.tail'_iff.1 cycle
    exact absurd ((edge first).1.symm.trans (edge last).2) (by decide)

/-- Two stages that depend on each other are accepted, and wait forever. -/
theorem progressing_of_run_counterexample :
    ∃ history store, runtimeMachine.Run Machine.anyStep {} history store ∧
      ¬ Acyclic store.tables.DependsOn ∧ store.stages ≠ [] ∧
      (∀ row ∈ store.stages, row.status = .pending) ∧ ¬ Progressing store.tables := by
  refine ⟨_, _, Machine.exec_run _ _ (addingCalls [sampleStage "draft" "write" ["review"],
    sampleStage "review" "write" ["draft"]]) ⟨trivial, trivial, trivial⟩, ?_⟩
  have cyclic : ¬ Acyclic (runtimeMachine.exec {} (addingCalls [sampleStage "draft" "write" ["review"],
      sampleStage "review" "write" ["draft"]])).2.tables.DependsOn := fun acyclic =>
    acyclic "draft" (.tail (b := "review") (.single (by decide +kernel)) (by decide +kernel))
  exact ⟨cyclic, by decide +kernel, by decide +kernel, fun progressing => cyclic progressing.acyclic⟩

/-- **No stage is overlooked** in any run: a stage that is pending waits for a stage of its own run. -/
theorem waits_of_run (run : runtimeMachine.Run Machine.anyStep {} history store) {row : StageRun}
    (member : row ∈ store.stages) (pending : row.status = .pending) :
    ∃ parent ∈ store.stages, (row.stageRunId, parent.stageRunId) ∈ store.dependencies ∧
      parent.workflowRunId = row.workflowRunId ∧ parent.status ≠ .completed := by
  have sound : Sound False [] store.tables := sound_of_run (run.weaken fun _ _ _ => False.elim)
  obtain ⟨parent, isParent, edge, unfinished⟩ := sound.waits row member pending List.not_mem_nil
  obtain ⟨child, isChild, other, isOther, sameChild, sameParent, sameRun⟩ := sound.known _ _ edge
  obtain rfl := sound.eq_of_id isChild member sameChild
  obtain rfl := sound.eq_of_id isOther isParent sameParent
  exact ⟨_, isParent, edge, sameRun, unfinished⟩

def sampleBatch : List (WorkerCall × Except String WorkerAnswer) × WorkerStore :=
  runtimeMachine.exec {} (addingCalls [sampleStage "draft" "write" [],
    sampleStage "review" "write" ["draft"]])

/-- The second stage of a batch waits for the first. -/
theorem waits_of_run_sample : ∃ row ∈ sampleBatch.2.stages, row.status = .pending ∧
    ∃ parent ∈ sampleBatch.2.stages, (row.stageRunId, parent.stageRunId) ∈ sampleBatch.2.dependencies ∧
      parent.workflowRunId = row.workflowRunId ∧ parent.status ≠ .completed := by
  have waiting : ∃ row ∈ sampleBatch.2.stages, row.status = .pending := by
    decide +kernel
  obtain ⟨row, member, pending⟩ := waiting
  refine ⟨row, member, pending, waits_of_run (Machine.exec_run _ _ (addingCalls _) ?_) member pending⟩
  exact ⟨trivial, trivial, trivial⟩

end Zero3Pilot.WorkerRuntime
