import Zero3Pilot.RemoteHost.Repository
import Zero3Pilot.RemoteHost.TurnUniqueness

/-! # Sequences of runs

A host runs a task again and again: after a crash, after an error, with the payload the server sends
that day. The runs share the mapping file and nothing else. -/

namespace Zero3Pilot.RemoteHost

open Program

/-! ## Histories -/

/-- One run: what it was given, what it called, and how it ended. -/
structure Attempt where
  config : HostConfig
  rounds : Nat
  leaseTask : Json
  log : List LogEntry
  outcome : Outcome RunError RunResult

variable {platform : Platform} {history : List Attempt} {mappings : Mappings}

def Attempt.Leads (platform : Platform) (attempt : Attempt) (before after : Mappings) : Prop :=
  Runs answers (run platform attempt.config attempt.rounds attempt.leaseTask) ⟨before, []⟩
    attempt.outcome ⟨after, attempt.log⟩

/-- **The sequences of runs** from an empty mapping file, with the mapping file they lead to. -/
inductive Attempts (platform : Platform) : List Attempt → Mappings → Prop where
  | start : Attempts platform [] ∅
  | attempt {history : List Attempt} {before after : Mappings}
      (reached : Attempts platform history before) (next : Attempt) (leads : next.Leads platform before after) :
      Attempts platform (history ++ [next]) after

def Attempt.IsOf (platform : Platform) (attempt : Attempt) (taskId : String) (task : HostTask) :
    Prop :=
  validateTask platform.coerce attempt.leaseTask = .ok task ∧ task.taskId = taskId

def Attempt.startsOf (platform : Platform) (taskId : String) (attempt : Attempt) :
    List TurnParams :=
  match validateTask platform.coerce attempt.leaseTask with
  | .ok task => if task.taskId = taskId then turnStarts attempt.log else []
  | .error _ => []

def turnStartsOf (platform : Platform) (taskId : String) (history : List Attempt) :
    List TurnParams :=
  history.flatMap (Attempt.startsOf platform taskId)

/-- **What the mapping file knows of the runs so far.** -/
structure HistoryInvariant (platform : Platform) (history : List Attempt) (mappings : Mappings) :
    Prop where
  filed : Filed mappings
  bound : ∀ (taskId : String) (mapping : CodexMapping), mappings[taskId]? = some mapping →
    ∃ attempt ∈ history, ∃ origin, attempt.IsOf platform taskId origin ∧
      BoundTo platform attempt.config mapping origin
  started : ∀ taskId, turnStartsOf platform taskId history = [] ∨
    ∃ mapping params, mappings[taskId]? = some mapping ∧ mapping.IsClaimed ∧
      turnStartsOf platform taskId history = [params]

theorem turnStartsOf_append (taskId : String) (next : Attempt) :
    turnStartsOf platform taskId (history ++ [next]) =
      turnStartsOf platform taskId history ++ next.startsOf platform taskId := by
  rw [turnStartsOf, List.flatMap_append, List.flatMap_singleton]
  rfl

variable {next : Attempt}

theorem startsOf_other {task : HostTask} {taskId : String}
    (valid : validateTask platform.coerce next.leaseTask = .ok task) (other : task.taskId ≠ taskId) :
    next.startsOf platform taskId = [] := by
  unfold Attempt.startsOf
  rw [valid]
  exact if_neg other

theorem startsOf_own {task : HostTask} (valid : validateTask platform.coerce next.leaseTask = .ok task) :
    next.startsOf platform task.taskId = turnStarts next.log := by
  unfold Attempt.startsOf
  rw [valid]
  exact if_pos rfl

theorem leads_invalid {before after : Mappings} {message : String}
    (invalid : validateTask platform.coerce next.leaseTask = .error message)
    (leads : next.Leads platform before after) :
    after = before ∧ next.outcome = .thrown (.plain message) ∧
      ∀ taskId, next.startsOf platform taskId = [] := by
  obtain ⟨thrown, same⟩ := runs_of_invalid invalid leads
  refine ⟨congrArg HostWorld.mappings same, thrown, fun taskId => ?_⟩
  unfold Attempt.startsOf
  rw [invalid]

theorem leads_valid {before after : Mappings} {task : HostTask} (filed : Filed before)
    (valid : validateTask platform.coerce next.leaseTask = .ok task)
    (leads : next.Leads platform before after) :
    AttemptInvariant platform next.config task before ⟨after, next.log⟩ ∧
      ∀ result, next.outcome = .returned result → ∀ mapping,
        before[task.taskId]? = some mapping → mapping.IsClaimed →
          ResumedTurn mapping next.log result.turnId :=
  (ensures_run next.config next.rounds filed valid).sound leads

/-- **One more run keeps the invariant.** -/
theorem HistoryInvariant.attempt {before after : Mappings}
    (invariant : HistoryInvariant platform history before) (leads : next.Leads platform before after) :
    HistoryInvariant platform (history ++ [next]) after := by
  have earlier {taskId : String} {mapping : CodexMapping}
      (known : ∃ attempt ∈ history, ∃ origin, attempt.IsOf platform taskId origin ∧
        BoundTo platform attempt.config mapping origin) :
      ∃ attempt ∈ history ++ [next], ∃ origin, attempt.IsOf platform taskId origin ∧
        BoundTo platform attempt.config mapping origin := by
    obtain ⟨attempt, isAttempt, known⟩ := known
    exact ⟨attempt, List.mem_append_left _ isAttempt, known⟩
  cases valid : validateTask platform.coerce next.leaseTask with
  | error message =>
    obtain ⟨rfl, -, none_started⟩ := leads_invalid valid leads
    refine ⟨invariant.filed, fun taskId mapping found => ?_, fun taskId => ?_⟩
    · exact earlier (invariant.bound taskId mapping found)
    · rw [turnStartsOf_append, none_started, List.append_nil]
      exact invariant.started taskId
  | ok task =>
    obtain ⟨attempted, -⟩ := leads_valid invariant.filed valid leads
    refine ⟨attempted.filed, fun taskId mapping found => ?_, fun taskId => ?_⟩
    · by_cases own : taskId = task.taskId
      · subst own
        cases known : before[task.taskId]? with
        | none =>
          -- the mapping is new, and bound to the task of this run
          refine ⟨next, by simp, task, ⟨valid, rfl⟩, attempted.bound known mapping found⟩
        | some old =>
          obtain ⟨later, found', extended⟩ := attempted.extended old known
          obtain rfl : later = mapping := Option.some.inj (found'.symm.trans found)
          obtain ⟨attempt, isAttempt, origin, isOf, bound⟩ := invariant.bound _ old known
          exact earlier ⟨attempt, isAttempt, origin, isOf, bound.extends extended⟩
      · rw [show after[taskId]? = before[taskId]? from attempted.others taskId own] at found
        exact earlier (invariant.bound taskId mapping found)
    · rw [turnStartsOf_append]
      by_cases own : taskId = task.taskId
      · subst own
        rw [startsOf_own valid]
        rcases attempted.started with none_started | ⟨unclaimed, later, params, found, claimed, one⟩
        · rw [show turnStarts next.log = [] from none_started, List.append_nil]
          rcases invariant.started task.taskId with none_yet | ⟨mapping, params, found, claimed, one⟩
          · exact .inl none_yet
          · obtain ⟨later, found', extended⟩ := attempted.extended mapping found
            exact .inr ⟨later, params, found', extended.claimed claimed, one⟩
        · -- a turn was started, so none was started before
          rcases invariant.started task.taskId with none_yet | ⟨mapping, _, found', claimed', -⟩
          · refine .inr ⟨later, params, found, claimed, ?_⟩
            rw [none_yet, List.nil_append]
            exact one
          · exact absurd claimed' (unclaimed mapping found')
      · rw [startsOf_other valid fun same => own same.symm, List.append_nil]
        rw [show after[taskId]? = before[taskId]? from attempted.others taskId own]
        exact invariant.started taskId

/-- **The invariant of every sequence of runs.** -/
theorem historyInvariant_attempts (reached : Attempts platform history mappings) :
    HistoryInvariant platform history mappings := by
  induction reached with
  | start =>
    refine ⟨fun id mapping found => ?_, fun taskId mapping found => ?_, fun taskId => .inl rfl⟩
    · simp at found
    · simp at found
  | attempt reached next leads ih => exact ih.attempt leads

/-! ## A sample host -/

def sampleCommit (digit : Char) : String := String.ofList (List.replicate 40 digit)

def sampleText (base : String) : String :=
  "\x7b\"protocol\":\"zero3.pilot.remote-task.v1\",\"task_id\":\"task-1\"," ++
  "\"execution_id\":\"execution-1\",\"objective\":\"Inspect the project and report success.\"," ++
  "\"target\":\x7b\"workspace\":\"/zero3/workspace\"" ++ base ++ "\x7d,\"constraints\":[]," ++
  "\"acceptance_criteria\":[],\"permission_profile\":\"standard\"," ++
  "\"execution\":\x7b\"max_turns\":1,\"timeout_seconds\":30,\"require_clean_worktree\":false," ++
  "\"require_clean_worktree_on_success\":false,\"require_remote_sync_on_success\":false\x7d\x7d"

/-- The texts hashed on the sample host, with their digests. -/
def sampleDigests : List (String × String) :=
  [("zero3.pilot.remote-task.v1\x00task-1\x00execution-1\x00turn:1",
      "3a437895e95fe2310c3cd7887eebb9f39854e91d7b5caaa9f82adf656107d180"),
    (sampleText "", "bbf3507d1d578911fa19c3e79961069689ee0d85e2033b49a66333a987bfe6b1"),
    (sampleText (",\"base_ref\":\"" ++ sampleCommit 'a' ++ "\""),
      "c9bc1727ffa2ca1a4ff58bf63968802463ab7c12a391c10ce5be62758746203a")]

/-- A host on which the paths are resolved already. -/
def samplePlatform : Platform where
  coerce _ := none
  sha256 text := ((sampleDigests.find? (·.1.toList = text)).map (·.2)).getD ""
  resolve path := path
  relative base path := if base = path then "" else path
  isAbsolute path := path.toList.head? = some '/'
  toLowerCase text := text
  caseInsensitivePaths := false

def sampleConfig : HostConfig := ⟨["/zero3/workspace"], 30000⟩

def sampleLease (maxTurns : Nat) (baseRef : Json) : Json :=
  .object [("protocol", .string remoteTaskProtocol), ("task_id", .string "task-1"),
    ("execution_id", .string "execution-1"),
    ("objective", .string "Inspect the project and report success."),
    ("target", .object [("workspace", .string "/zero3/workspace"), ("base_ref", baseRef)]),
    ("execution", .object [("max_turns", .nat maxTurns), ("timeout_seconds", .nat 30)])]

def sampleRepository (head : Char) : Repository where
  root := some "/zero3/workspace\n"
  head := some (sampleCommit head ++ "\n")
  base := some (sampleCommit 'a' ++ "\n")
  upstream := some (sampleCommit head ++ "\n")
  branch := some "main\n"
  status := some ""

def sampleThread : Json :=
  .object [("thread", .object [("id", .string "thread-1"),
    ("turns", .array [.object [("id", .string "turn-1"), ("status", .string "completed")]])])]

def sampleAnswer (repository : Repository) (world : HostWorld) :
    (hostCall : HostCall) → Except String (HostReply hostCall) × HostWorld
  | .now => (.ok 0, ⟨world.mappings, world.log ++ [⟨.now, .ok 0⟩]⟩)
  | .delay ms => (.ok (), ⟨world.mappings, world.log ++ [⟨.delay ms, .ok ()⟩]⟩)
  | .readMappings => (.ok world.mappings,
      ⟨world.mappings, world.log ++ [⟨.readMappings, .ok world.mappings⟩]⟩)
  | .writeMappings mappings =>
    (.ok (), ⟨mappings, world.log ++ [⟨.writeMappings mappings, .ok ()⟩]⟩)
  | .execCommand command cwd =>
    let response := commandResponse (repository.prints (command.drop 1))
    (.ok response, ⟨world.mappings, world.log ++ [⟨.execCommand command cwd, .ok response⟩]⟩)
  | .startThread cwd => (.ok sampleThread,
      ⟨world.mappings, world.log ++ [⟨.startThread cwd, .ok sampleThread⟩]⟩)
  | .startTurn params =>
    let turn : Json := .object [("turn", .object [("id", .string "turn-1")])]
    (.ok turn, ⟨world.mappings, world.log ++ [⟨.startTurn params, .ok turn⟩]⟩)
  | .readThread threadId => (.ok sampleThread,
      ⟨world.mappings, world.log ++ [⟨.readThread threadId, .ok sampleThread⟩]⟩)
  | .emitEvidence item => (.ok (), ⟨world.mappings, world.log ++ [⟨.emitEvidence item, .ok ()⟩]⟩)

theorem answers_sampleAnswer (repository : Repository) (world : HostWorld) (hostCall : HostCall) :
    answers world hostCall (sampleAnswer repository world hostCall).1
      (sampleAnswer repository world hostCall).2 := by
  cases hostCall with
  | readMappings => exact ⟨⟨rfl, rfl⟩, rfl⟩
  | _ => exact ⟨rfl, rfl⟩

def sampleRun (repository : Repository) (stops : HostWorld → HostCall → Bool) (leaseTask : Json)
    (mappings : Mappings) : Outcome RunError RunResult × HostWorld :=
  (run samplePlatform sampleConfig 2 leaseTask).execute (sampleAnswer repository) stops
    ⟨mappings, []⟩

def sampleAttempt (repository : Repository) (stops : HostWorld → HostCall → Bool) (leaseTask : Json)
    (mappings : Mappings) : Attempt where
  config := sampleConfig
  rounds := 2
  leaseTask := leaseTask
  log := (sampleRun repository stops leaseTask mappings).2.log
  outcome := (sampleRun repository stops leaseTask mappings).1

theorem leads_sampleAttempt (repository : Repository) (stops : HostWorld → HostCall → Bool)
    (leaseTask : Json) (mappings : Mappings) :
    (sampleAttempt repository stops leaseTask mappings).Leads samplePlatform mappings
      (sampleRun repository stops leaseTask mappings).2.mappings :=
  runs_execute (answers_sampleAnswer repository) stops _ _

/-! ## The guarantees -/

/-- The first run of the sample task, which starts its turn. -/
def sampleFirst : Attempt :=
  sampleAttempt (sampleRepository 'a') (fun _ _ => false) (sampleLease 1 .null) ∅

def sampleMappings : Mappings :=
  (sampleRun (sampleRepository 'a') (fun _ _ => false) (sampleLease 1 .null) ∅).2.mappings

theorem attempts_sampleFirst : Attempts samplePlatform [sampleFirst] sampleMappings :=
  .attempt .start sampleFirst (leads_sampleAttempt _ _ _ _)

theorem turnStartsOf_sampleFirst :
    (turnStartsOf samplePlatform "task-1" [sampleFirst]).length = 1 := by decide +kernel

/-- Two tasks are a collision when their fingerprints agree although their texts differ. -/
def Collide (platform : Platform) (first second : HostTask) : Prop :=
  first.toJson.render ≠ second.toJson.render ∧
    taskFingerprint platform first = taskFingerprint platform second

/-- **What a run of a task finds of the runs before it**, given the mapping filed for the task. -/
structure LaterRun (platform : Platform) (history : List Attempt) (mappings : Mappings)
    (next : Attempt) (after : Mappings) (task : HostTask) (mapping : CodexMapping) : Prop where
  resumed : mapping.IsClaimed → ∀ result, next.outcome = .returned result →
    ResumedTurn mapping next.log result.turnId
  notStarted : mapping.IsClaimed → turnStarts next.log = []
  mismatched : Mismatched platform next.config mapping task →
    after = mappings ∧ (∀ entry ∈ next.log, entry.call.onlyLooks = true) ∧
      ∀ result, next.outcome ≠ .returned result
  origin : ∃ attempt ∈ history, ∃ origin, attempt.IsOf platform task.taskId origin ∧
    BoundTo platform attempt.config mapping origin ∧
    (origin ≠ task → ¬ Collide platform origin task → Mismatched platform next.config mapping task)

/-- **At most one turn.** In every sequence of runs at most one turn is started for a task. A later run of
the task starts none once its mapping is claimed: it returns the recorded turn, or the one that
carries the identifier of the intent, or only looks. -/
theorem turns_of_attempts (reached : Attempts platform history mappings) (taskId : String) :
    (turnStartsOf platform taskId history).length ≤ 1 ∧
    (turnStartsOf platform taskId history ≠ [] →
      ∃ mapping, mappings[taskId]? = some mapping ∧ mapping.IsClaimed) ∧
    ∀ (next : Attempt) (after : Mappings), next.Leads platform mappings after →
      (∀ message, validateTask platform.coerce next.leaseTask = .error message →
        after = mappings ∧ next.log = []) ∧
      ∀ task mapping, next.IsOf platform taskId task → mappings[taskId]? = some mapping →
        LaterRun platform history mappings next after task mapping := by
  have invariant := historyInvariant_attempts reached
  refine ⟨?_, ?_, fun next after leads => ⟨?_, ?_⟩⟩
  · rcases invariant.started taskId with none_started | ⟨_, _, _, _, one⟩
    · rw [none_started]
      exact Nat.zero_le 1
    · rw [one]
      exact le_refl 1
  · intro some_started
    rcases invariant.started taskId with none_started | ⟨mapping, _, found, claimed, -⟩
    · exact absurd none_started some_started
    · exact ⟨mapping, found, claimed⟩
  · intro message invalid
    have stopped := (runs_of_invalid invalid leads).2
    exact ⟨congrArg HostWorld.mappings stopped, congrArg HostWorld.log stopped⟩
  · rintro task mapping ⟨valid, rfl⟩ found
    obtain ⟨attempted, resumed⟩ := leads_valid invariant.filed valid leads
    refine ⟨fun claimed result returned => resumed result returned mapping found claimed, ?_, ?_, ?_⟩
    · intro claimed
      rcases attempted.started with none_started | ⟨unclaimed, -⟩
      · exact none_started
      · exact absurd claimed (unclaimed mapping found)
    · intro mismatched
      obtain ⟨looked, unreturned⟩ :=
        (ensures_run_mismatched next.config next.rounds valid found mismatched).sound leads
      exact ⟨looked.mappings, looked.log, unreturned⟩
    · obtain ⟨attempt, isAttempt, origin, isOf, bound⟩ :=
        invariant.bound task.taskId mapping found
      refine ⟨attempt, isAttempt, origin, isOf, bound, fun differs noCollision => .inr (.inl ?_)⟩
      rw [bound.fingerprint]
      intro sameFingerprint
      refine noCollision ⟨fun sameText => differs ?_, sameFingerprint⟩
      exact HostTask.toJson_injective (Json.render_injective sameText)

/-- The first run of the sample task starts its turn, and the task is claimed. -/
theorem turns_of_attempts_sample : (turnStartsOf samplePlatform "task-1" [sampleFirst]).length = 1 ∧
      ∃ mapping, sampleMappings["task-1"]? = some mapping ∧ mapping.IsClaimed := by
  have one := turnStartsOf_sampleFirst
  refine ⟨one, (turns_of_attempts attempts_sampleFirst "task-1").2.1 fun none_started => ?_⟩
  rw [none_started] at one
  cases one

/-- **A later run may throw a plain error**: the task has been run, and is sent again with more turns
than a host allows. -/
theorem turns_counterexample : Attempts samplePlatform [sampleFirst] sampleMappings ∧
      (turnStartsOf samplePlatform "task-1" [sampleFirst]).length = 1 ∧
      ∃ next : Attempt, next.leaseTask = sampleLease 99 .null ∧
        next.Leads samplePlatform sampleMappings sampleMappings ∧
        next.outcome = .thrown (.plain "execution.max_turns must be an integer from 1 to 32") := by
  have invalid : validateTask samplePlatform.coerce (sampleLease 99 .null) =
      .error "execution.max_turns must be an integer from 1 to 32" := by decide +kernel
  have leads := leads_sampleAttempt (sampleRepository 'a') (fun _ _ => false) (sampleLease 99 .null)
    sampleMappings
  obtain ⟨same, thrown, -⟩ := leads_invalid invalid leads
  refine ⟨attempts_sampleFirst, turnStartsOf_sampleFirst, _, rfl, ?_, thrown⟩
  rw [same] at leads
  exact leads

end Zero3Pilot.RemoteHost
