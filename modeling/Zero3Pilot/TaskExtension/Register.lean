import Zero3Pilot.TaskExtension.Files

/-! # Task extensions as versioned registers

What the store of task extensions promises to its writers, over every order of their requests and
of restarts: a put is a replay, which changes nothing, or a change, which moves the version of its
task on by one from the version the writer may have asked for, or it is rejected, which leaves the
records and their files as they were; and the files are read back as the records. -/

namespace Zero3Pilot.TaskExtension

open ControlPlane (BTreeMap IsId fileName extension jsonFiles insertAll insertAll_eq mem_jsonFiles
  extension_tmp extension_fileName fileName_injective u64Max)
open Procedure (ensures_bind ensures_check ensures_read ensures_modify ensures_fail ensures_pure
  ensures_ofExcept ensures_ite)

variable {package : SerdeJson}

/-! ## What a put does -/

/-- The records and their files are as they were. -/
def Unchanged (store after : TaskExtensionStore) : Prop :=
  after.records = store.records ∧
    ∀ name, extension name = some "json" → after.directory[name]? = store.directory[name]?

structure Changed (store : TaskExtensionStore) (taskId : String) (body : PutTaskExtensionBody)
    (record : TaskExtensionRecord) (after : TaskExtensionStore) : Prop where
  version : record.version = versionOf store.records[taskId]? + 1
  expected : ∀ expected ∈ body.expectedVersion, expected = versionOf store.records[taskId]?
  identity : ∀ existing, store.records[taskId]? = some existing →
    existing.executionId = record.executionId ∧ existing.createdAt = record.createdAt
  schema : record.schema = body.schema
  task : record.taskId = taskId
  execution : record.executionId = body.executionId
  fields : record.fields = body.fields
  records : after.records = store.records.insert taskId record
  files : ∀ name, extension name = some "json" → after.directory[name]? =
    if name = fileName taskId then some (.whole record.text) else store.directory[name]?

/-- **How an accepted put ended**: it was a replay of the stored payload, or a change. -/
inductive Accepted (store : TaskExtensionStore) (taskId : String) (body : PutTaskExtensionBody)
    (record : TaskExtensionRecord) (after : TaskExtensionStore) : Prop
  | replay (stored : store.records[taskId]? = some record) (matched : record.matchesPayload body)
      (unchanged : after = store)
  | change (differs : ∀ existing, store.records[taskId]? = some existing →
        ¬ existing.matchesPayload body)
      (changed : Changed store taskId body record after)

variable {taskId : String} {body : PutTaskExtensionBody} {record : TaskExtensionRecord}

theorem Changed.ne {store after : TaskExtensionStore} (changed : Changed store taskId body record after) :
    store.records[taskId]? ≠ some record := by
  intro found
  have version := changed.version
  rw [found] at version
  exact absurd version (Nat.ne_of_lt (Nat.lt_succ_self _))

theorem extension_temporaryName (valid : IsId taskId) (uuid : Uuid) :
    extension (temporaryName taskId uuid) ≠ some "json" := by
  have shape : temporaryName taskId uuid = taskId ++ "." ++ ("tmp-" ++ uuid.text) := by
    simp only [temporaryName, String.append_assoc]
    rfl
  rw [shape]
  exact extension_tmp valid.nonempty uuid

section Persist

variable {record : TaskExtensionRecord} {environment : Environment} {store : TaskExtensionStore}

theorem persist_ensures (valid : IsId record.taskId) : (persist record environment).Ensures
      (fun _ after => Json.bytes record.text ≤ maxExtensionBytes ∧ after.records = store.records ∧
        ∀ name, extension name = some "json" → after.directory[name]? =
          if name = fileName record.taskId then some (.whole record.text)
          else store.directory[name]?)
      (fun _ => Unchanged store) store := by
  have notTemporary {name : String} (json : extension name = some "json") :
      temporaryName record.taskId environment.uuid ≠ name := by
    rintro rfl
    exact extension_temporaryName valid environment.uuid json
  have beside (content : FileContent (List Char)) : Unchanged store
      { store with directory :=
        store.directory.insert (temporaryName record.taskId environment.uuid) content } := by
    refine ⟨rfl, fun name json => ?_⟩
    rw [Std.ExtTreeMap.getElem?_insert, if_neg (by simpa using notTemporary json)]
  rw [persist]
  simp only [ensures_bind, ensures_check]
  refine ⟨fun small => ?_, fun _ => ⟨rfl, fun _ _ => rfl⟩⟩
  cases environment.fault with
  | none =>
    rw [ensures_modify]
    refine ⟨small, rfl, fun name json => ?_⟩
    rw [Std.ExtTreeMap.getElem?_insert, Std.ExtTreeMap.getElem?_erase,
      if_neg (c := compare (temporaryName _ _) name = _) (by simpa using notTemporary json)]
    refine if_congr ?_ rfl rfl
    rw [Std.compare_eq_iff_eq, eq_comm]
  | some fault =>
    obtain ⟨step, message⟩ := fault
    cases step with
    | write => simpa only [ensures_bind, ensures_modify, ensures_fail] using beside .torn
    | rename =>
      simpa only [ensures_bind, ensures_modify, ensures_fail] using beside (.whole record.text)

end Persist

section Put

variable {taskId : String} {body : PutTaskExtensionBody} {environment : Environment}
  {store : TaskExtensionStore}

theorem putNext_ensures (isTask : IsId taskId) (isExecution : IsId body.executionId)
    (schema : body.schema = taskExtensionSchema)
    (present : ∃ value ∈ body.fields.values, value.isSome)
    (bound : ∀ existing, store.records[taskId]? = some existing →
      existing.executionId = body.executionId) :
    (putNext taskId body store.records[taskId]? environment).Ensures
      (fun record after => Changed store taskId body record after ∧ record.Checked)
      (fun _ => Unchanged store) store := by
  have kept : Unchanged store store := ⟨rfl, fun _ _ => rfl⟩
  rw [putNext]
  simp only [ensures_bind, ensures_check]
  refine ⟨fun expected => ⟨fun inRange => ?_, fun _ => kept⟩, fun _ => kept⟩
  refine (persist_ensures isTask).mono ?_ fun _ _ unchanged => unchanged
  rintro - after ⟨small, records, files⟩
  simp only [ensures_modify, ensures_pure]
  refine ⟨⟨rfl, expected, fun existing found => ⟨bound existing found, ?_⟩, schema.symm, rfl, rfl,
    rfl, by rw [records], files⟩, ⟨rfl, isTask, isExecution, ⟨?_, ?_⟩, present, small⟩⟩
  · rw [found]
    rfl
  · exact Nat.succ_le_succ (Nat.zero_le _)
  · exact inRange

/-- **What a put does.** -/
theorem put_ensures : (put taskId body environment).Ensures
      (fun record after => Accepted store taskId body record after ∧
        (Changed store taskId body record after → record.Checked))
      (fun _ => Unchanged store) store := by
  have kept : Unchanged store store := ⟨rfl, fun _ _ => rfl⟩
  rw [put]
  simp only [ensures_bind, ensures_check, ensures_ofExcept, ensures_read, validateId_ok]
  refine ⟨fun _ isTask => ⟨fun _ isExecution => ⟨fun schema => ⟨fun present => ⟨fun _ => ?_,
    fun _ => kept⟩, fun _ => kept⟩, fun _ => kept⟩, fun _ _ => kept⟩, fun _ _ => kept⟩
  cases found : store.records[taskId]? with
  | none =>
    have next : (putNext taskId body store.records[taskId]? environment).Ensures _ _ store :=
      putNext_ensures isTask isExecution schema present (by simp [found])
    rw [found] at next
    refine next.imp fun record after written => ?_
    refine ⟨.change (by simp [found]) written.1, fun _ => written.2⟩
  | some existing =>
    simp only [ensures_bind, ensures_check, ensures_ite, ensures_pure]
    refine ⟨fun same => ⟨fun matched => ?_, fun differs => ?_⟩, fun _ => kept⟩
    · exact ⟨.replay found matched rfl, fun changed => absurd found changed.ne⟩
    · have next : (putNext taskId body store.records[taskId]? environment).Ensures _ _ store :=
        putNext_ensures isTask isExecution schema present (by simp [found, same])
      rw [found] at next
      refine next.imp fun record after written => ?_
      refine ⟨.change ?_ written.1, fun _ => written.2⟩
      intro other isOther
      rw [found] at isOther
      cases isOther
      exact differs

end Put

/-! ## The files of a store -/

def ExtensionFields.ReadBack (package : SerdeJson) (fields : ExtensionFields) : Prop :=
  ∀ value, some value ∈ fields.values → value.AllNumbers package.ReadsBack

/-- **The files of a store hold its records.** -/
structure Filed (package : SerdeJson) (store : TaskExtensionStore) : Prop where
  sound : ∀ name content, store.directory[name]? = some content → extension name = some "json" →
    ∃ record : TaskExtensionRecord, name = fileName record.taskId ∧ content = .whole record.text ∧
      store.records[record.taskId]? = some record
  complete : ∀ (taskId : String) (record : TaskExtensionRecord),
    store.records[taskId]? = some record → record.taskId = taskId ∧ record.Stored package ∧ record.fields.ReadBack package ∧
      store.directory[fileName taskId]? = some (.whole record.text)

theorem Filed.empty : Filed package .empty where
  sound := by simp [TaskExtensionStore.empty]
  complete := by simp [TaskExtensionStore.empty]

theorem Filed.unchanged {store after : TaskExtensionStore} (filed : Filed package store)
    (unchanged : Unchanged store after) : Filed package after where
  sound := by
    intro name content found json
    rw [unchanged.2 name json] at found
    rw [unchanged.1]
    exact filed.sound name content found json
  complete := by
    intro taskId record found
    rw [unchanged.1] at found
    obtain ⟨own, stored, readBack, held⟩ := filed.complete taskId record found
    refine ⟨own, stored, readBack, ?_⟩
    rwa [unchanged.2 _ (extension_fileName (own ▸ stored.taskId))]

theorem Filed.changed {store after : TaskExtensionStore} (filed : Filed package store)
    (changed : Changed store taskId body record after) (stored : record.Stored package)
    (readBack : record.fields.ReadBack package) : Filed package after where
  sound := by
    intro name content found json
    rw [changed.files name json] at found
    by_cases hit : name = fileName taskId
    · rw [if_pos hit] at found
      refine ⟨record, by rw [hit, changed.task], (Option.some.inj found).symm, ?_⟩
      rw [changed.records, changed.task, Std.ExtTreeMap.getElem?_insert_self]
    · rw [if_neg hit] at found
      obtain ⟨other, isName, isText, held⟩ := filed.sound name content found json
      refine ⟨other, isName, isText, ?_⟩
      rw [changed.records, Std.ExtTreeMap.getElem?_insert, if_neg, held]
      intro same
      have sameTask : taskId = other.taskId := by simpa using same
      exact hit (by rw [isName, sameTask])
  complete := by
    intro other found held
    rw [changed.records, Std.ExtTreeMap.getElem?_insert] at held
    by_cases hit : taskId = other
    · rw [if_pos (by simpa using hit)] at held
      cases held
      subst hit
      refine ⟨changed.task, stored, readBack, ?_⟩
      rw [changed.files _ (extension_fileName (changed.task ▸ stored.taskId)), if_pos rfl]
    · rw [if_neg (by simpa using hit)] at held
      obtain ⟨own, stored', readBack', isFile⟩ := filed.complete other found held
      refine ⟨own, stored', readBack', ?_⟩
      rw [changed.files _ (extension_fileName (own ▸ stored'.taskId)), if_neg, isFile]
      exact fun same => hit (fileName_injective same).symm

theorem loadRecords_eq {files : List (String × FileContent (List Char))}
    (readable : ∀ file ∈ files, ∃ record, readRecord package file.1 file.2 = .ok record)
    (loaded : BTreeMap TaskExtensionRecord) :
    ∃ entries, loadRecords package files loaded = .ok (insertAll entries loaded) ∧
      ∀ taskId record, (taskId, record) ∈ entries ↔
        record.taskId = taskId ∧ ∃ file ∈ files, readRecord package file.1 file.2 = .ok record := by
  induction files generalizing loaded with
  | nil => exact ⟨[], rfl, by simp⟩
  | cons file files ih =>
    obtain ⟨name, content⟩ := file
    obtain ⟨record, read⟩ := readable _ List.mem_cons_self
    obtain ⟨entries, run, listed⟩ :=
      ih (fun file member => readable file (List.mem_cons_of_mem _ member))
        (loaded.insert record.taskId record)
    refine ⟨(record.taskId, record) :: entries, ?_, fun taskId found => ?_⟩
    · rw [loadRecords, read]
      exact run
    · simp only [List.mem_cons, Prod.mk.injEq, listed, exists_eq_or_imp, read, Except.ok.injEq]
      constructor
      · rintro (⟨rfl, rfl⟩ | ⟨own, held⟩)
        · exact ⟨rfl, .inl rfl⟩
        · exact ⟨own, .inr held⟩
      · rintro ⟨own, rfl | held⟩
        · exact .inl ⟨own.symm, rfl⟩
        · exact .inr ⟨own, held⟩

theorem openDirectory_eq {directory : Directory (List Char)} {records : BTreeMap TaskExtensionRecord}
    (sound : ∀ name content, directory[name]? = some content → extension name = some "json" →
      ∃ record : TaskExtensionRecord, readRecord package name content = .ok record ∧
        records[record.taskId]? = some record)
    (complete : ∀ (taskId : String) (record : TaskExtensionRecord),
      records[taskId]? = some record → record.taskId = taskId ∧ ∃ name content, directory[name]? = some content ∧ extension name = some "json" ∧
        readRecord package name content = .ok record) :
    openDirectory package directory = .ok records := by
  have held {file : String × FileContent (List Char)} (member : file ∈ jsonFiles directory) :=
    sound file.1 file.2 (mem_jsonFiles.1 member).1 (mem_jsonFiles.1 member).2
  obtain ⟨entries, run, listed⟩ :=
    loadRecords_eq (fun file member => (held member).imp fun _ holds => holds.1) ∅
  rw [openDirectory, run, insertAll_eq]
  · rintro ⟨taskId, record⟩ member
    obtain ⟨rfl, file, isFile, read⟩ := (listed _ _).1 member
    obtain ⟨record', read', found⟩ := held isFile
    rw [read] at read'
    cases read'
    exact found
  · intro taskId record found
    obtain ⟨own, name, content, isFile, json, read⟩ := complete taskId record found
    exact (listed _ _).2 ⟨own, (name, content), mem_jsonFiles.2 ⟨isFile, json⟩, read⟩

variable {store : TaskExtensionStore}

/-- **The files of a store are opened as its records.** -/
theorem Filed.reopened (lawful : package.Lawful) (filed : Filed package store) :
    openDirectory package store.directory = .ok store.records := by
  have read {record : TaskExtensionRecord} (name : String)
      (found : store.records[record.taskId]? = some record) :
      readRecord package name (.whole record.text) = .ok record := by
    obtain ⟨-, stored, readBack, -⟩ := filed.complete _ _ found
    rw [readRecord_text lawful stored, record.reread_eq_self readBack]
  refine openDirectory_eq ?_ ?_
  · intro name content found json
    obtain ⟨record, -, rfl, held⟩ := filed.sound name content found json
    exact ⟨record, read name held, held⟩
  · intro taskId record found
    obtain ⟨rfl, stored, -, isFile⟩ := filed.complete _ _ found
    exact ⟨rfl, _, _, isFile, extension_fileName stored.taskId, read _ found⟩

/-! ## Runs -/

def StoreAction.ReadBack (package : SerdeJson) : StoreAction → Prop
  | .put request => request.body.fields.ReadBack package
  | .restart => True

/-- **What happens to the store keeps its files.** -/
theorem serve_filed (lawful : package.Lawful) (action : StoreAction) (filed : Filed package store)
    (readBack : action.ReadBack package) :
    (serve package action).Ensures (fun _ => Filed package) (fun _ => Filed package) store := by
  cases action with
  | put request =>
    simp only [serve, ensures_bind, ensures_pure]
    refine put_ensures.mono ?_ fun _ after => filed.unchanged
    rintro record after ⟨accepted, checked⟩
    cases accepted with
    | replay _ _ unchanged => rwa [unchanged]
    | change _ changed =>
      have readBack' : record.fields.ReadBack package := by
        rw [changed.fields]
        exact readBack
      refine filed.changed changed ⟨checked changed, fun value found => ?_⟩ readBack'
      have readable := request.readable.values value (by rwa [← changed.fields])
      exact ⟨readable.1, readable.2, (readBack' value found).imp fun _ reads => reads.1⟩
  | restart =>
    simp only [serve, restart, ensures_bind, ensures_read, ensures_ofExcept, ensures_modify,
      ensures_pure, filed.reopened lawful]
    refine ⟨fun records same => ?_, fun _ _ => filed⟩
    cases same
    exact filed

/-- **The files of a store hold its records** in every run whose numbers are read back. -/
theorem filed_of_run (lawful : package.Lawful)
    {history : List (StoreAction × Except ApiError (Option TaskExtensionRecord))}
    {start store : TaskExtensionStore} (filed : Filed package start)
    (run : (extensionMachine package).Run (fun _ action => action.ReadBack package) start history
      store) : Filed package store :=
  run.procedure_invariant (Filed package) filed fun _ action kept met =>
    serve_filed lawful action kept met

/-! ## The register -/

/-- A register only moves forward: the record of a task stays, in its execution, and its version
only grows, with any change of it. -/
def Advances (store later : TaskExtensionStore) : Prop :=
  ∀ (taskId : String) (record : TaskExtensionRecord), store.records[taskId]? = some record →
    ∃ record' : TaskExtensionRecord, later.records[taskId]? = some record' ∧
      record'.executionId = record.executionId ∧ record.version ≤ record'.version ∧
      (record'.version = record.version → record' = record)

theorem Advances.of_eq {store later : TaskExtensionStore} (same : later.records = store.records) :
    Advances store later := by
  intro taskId record found
  exact ⟨record, by rw [same, found], rfl, Nat.le_refl _, fun _ => rfl⟩

theorem Advances.trans {store later last : TaskExtensionStore} (first : Advances store later)
    (second : Advances later last) : Advances store last := by
  intro taskId record found
  obtain ⟨record', found', execution', grown', same'⟩ := first taskId record found
  obtain ⟨record'', found'', execution'', grown'', same''⟩ := second taskId record' found'
  refine ⟨record'', found'', execution''.trans execution', grown'.trans grown'', fun version => ?_⟩
  have middle : record'.version = record.version := by omega
  rw [same'' (by omega), same' middle]

theorem Changed.advances {store after : TaskExtensionStore}
    (changed : Changed store taskId body record after) : Advances store after := by
  intro other existing found
  by_cases hit : taskId = other
  · subst hit
    have version : record.version = existing.version + 1 := by
      rw [changed.version, found]
      rfl
    refine ⟨record, ?_, (changed.identity existing found).1.symm, by omega, by omega⟩
    rw [changed.records, Std.ExtTreeMap.getElem?_insert_self]
  · refine ⟨existing, ?_, rfl, Nat.le_refl _, fun _ => rfl⟩
    rw [changed.records, Std.ExtTreeMap.getElem?_insert, if_neg (by simpa using hit), found]

theorem serve_advances (lawful : package.Lawful) (action : StoreAction) (filed : Filed package store) :
    (serve package action).Ensures (fun _ => Advances store) (fun _ => Advances store) store := by
  cases action with
  | put request =>
    simp only [serve, ensures_bind, ensures_pure]
    refine put_ensures.mono ?_ fun _ after unchanged => .of_eq unchanged.1
    rintro record after ⟨accepted, -⟩
    cases accepted with
    | replay _ _ unchanged => exact .of_eq (by rw [unchanged])
    | change _ changed => exact changed.advances
  | restart =>
    simp only [serve, restart, ensures_bind, ensures_read, ensures_ofExcept, ensures_modify,
      ensures_pure, filed.reopened lawful]
    refine ⟨fun records same => ?_, fun _ _ => .of_eq rfl⟩
    cases same
    exact .of_eq rfl

/-- **A put of the stored payload** returns the stored record, whatever version it expects. -/
theorem Filed.replayed (filed : Filed package store) {request : PutRequest}
    (found : store.records[request.taskId]? = some record) (matched : record.matchesPayload request.body) :
    put request.taskId request.body request.environment store = (.ok record, store) := by
  obtain ⟨own, stored, -, -⟩ := filed.complete _ _ found
  have size : Json.bytes request.body.text ≤ maxExtensionBytes :=
    (bytes_body_le matched request.readable).trans stored.size
  have parts := matched
  simp only [TaskExtensionRecord.matchesPayload, Bool.and_eq_true, decide_eq_true_eq] at parts
  obtain ⟨⟨schema, execution⟩, fields⟩ := parts
  have present : ∃ value ∈ request.body.fields.values, value.isSome := by
    have shape := congrArg (List.any · Option.isSome) fields
    simp only [ExtensionFields.compared, List.any_map, Function.comp_def, Option.isSome_map] at shape
    have some_stored : record.fields.values.any Option.isSome = true :=
      List.any_eq_true.2 stored.present
    exact List.any_eq_true.1 (shape ▸ some_stored)
  have isTask : validateId "task_id" request.taskId = .ok () :=
    validateId_ok.2 (own ▸ stored.taskId)
  have isExecution : validateId "execution_id" request.body.executionId = .ok () :=
    validateId_ok.2 (execution ▸ stored.executionId)
  refine Procedure.eq_of_ensures ?_
  rw [put, isTask, isExecution]
  simp only [ensures_bind, ensures_check, ensures_ofExcept, ensures_read, found, ensures_ite,
    ensures_pure, execution, matched, present, size, ← schema, stored.schema]
  simp

/-- **The store is a versioned register** for every task. -/
structure Register (package : SerdeJson) (store : TaskExtensionStore) : Prop where
  positive : ∀ (taskId : String) (record : TaskExtensionRecord),
    store.records[taskId]? = some record → 1 ≤ record.version
  replayed : ∀ (request : PutRequest) (record : TaskExtensionRecord),
    store.records[request.taskId]? = some record → record.matchesPayload request.body →
      put request.taskId request.body request.environment store = (.ok record, store)
  /-- Any other accepted put writes the next version, from the version it may expect. -/
  accepted : ∀ (request : PutRequest) (record : TaskExtensionRecord) (after : TaskExtensionStore),
    put request.taskId request.body request.environment store = (.ok record, after) →
      Accepted store request.taskId request.body record after
  /-- A rejected put changes neither the records nor their files. -/
  rejected : ∀ (request : PutRequest) (error : ApiError) (after : TaskExtensionStore),
    put request.taskId request.body request.environment store = (.error error, after) →
      Unchanged store after
  reopened : openDirectory package store.directory = .ok store.records

theorem Filed.register (lawful : package.Lawful) (filed : Filed package store) :
    Register package store where
  positive taskId record found := (filed.complete taskId record found).2.1.version.1
  replayed _ _ found matched := filed.replayed found matched
  accepted _ _ _ ran := (put_ensures.returned ran).1
  rejected _ _ _ ran := put_ensures.threw ran
  reopened := filed.reopened lawful

/-- **The register over every run** whose numbers are read back as they were printed: from every
store that is reached, the run only moves the registers forward. -/
theorem register_of_run (lawful : package.Lawful)
    {history later : List (StoreAction × Except ApiError (Option TaskExtensionRecord))}
    {store last : TaskExtensionStore}
    (run : (extensionMachine package).Run (fun _ action => action.ReadBack package) .empty history
      store)
    (next : (extensionMachine package).Run (fun _ action => action.ReadBack package) store later
      last) : Register package last ∧ Advances store last := by
  have filed : Filed package store := filed_of_run lawful .empty run
  have kept : Filed package last ∧ Advances store last := by
    refine next.procedure_invariant (fun state => Filed package state ∧ Advances store state)
      ⟨filed, .of_eq rfl⟩ fun state action ⟨filed, advances⟩ met => ?_
    have step := (serve_filed lawful action filed met).and (serve_advances lawful action filed)
    refine step.mono (fun _ after => ?_) fun _ after => ?_
    · exact fun ⟨filed, next⟩ => ⟨filed, advances.trans next⟩
    · exact fun ⟨filed, next⟩ => ⟨filed, advances.trans next⟩
  exact ⟨kept.1.register lawful, kept.2⟩

/-! ## Two packages -/

noncomputable def readPrinted (readNumber : NumberLiteral → NumberLiteral) (text : List Char) :
    Option Json :=
  open Classical in
  if printed : ∃ tree : Json, tree.renderPretty 0 = text then
    some (printed.choose.mapNumbers readNumber)
  else none

theorem readPrinted_renderPretty (readNumber : NumberLiteral → NumberLiteral) (tree : Json) :
    readPrinted readNumber (tree.renderPretty 0) = some (tree.mapNumbers readNumber) := by
  have printed : ∃ other : Json, other.renderPretty 0 = tree.renderPretty 0 := ⟨tree, rfl⟩
  rw [readPrinted, dif_pos printed, Json.renderPretty_injective 0 printed.choose_spec]

noncomputable def packageReading (readNumber : NumberLiteral → NumberLiteral) : SerdeJson where
  Prints _ := True
  readNumber := readNumber
  read := readPrinted readNumber

theorem packageReading_lawful {readNumber : NumberLiteral → NumberLiteral}
    (integers : ∀ n ≤ u64Max, readNumber (.ofNat n) = .ofNat n) :
    (packageReading readNumber).Lawful where
  read_renderPretty tree _ _ := readPrinted_renderPretty readNumber tree
  prints_nat _ _ := trivial
  readNumber_nat := integers

def contextBody (expected : Nat) (version : NumberLiteral) : PutTaskExtensionBody where
  schema := taskExtensionSchema
  executionId := "exec-1"
  expectedVersion := some expected
  fields := {
    projectContext := some (.object
      [("context_version", .number version), ("project_id", .string "zero3")])
    handoff := none
    provider := none
    review := none }

theorem contextBody_readable {expected : Nat} (small : expected ≤ u64Max)
    (version : NumberLiteral) : (contextBody expected version).Readable where
  version := by simpa [contextBody] using small
  values := by
    intro value found
    have isContext : value = .object
        [("context_version", .number version), ("project_id", .string "zero3")] := by
      simpa [contextBody, ExtensionFields.values] using found
    subst isContext
    exact ⟨by simp, by simp [Json.depth, Json.membersDepth]⟩

theorem contextBody_readBack {expected : Nat} {version : NumberLiteral}
    (reads : package.ReadsBack version) :
    (contextBody expected version).fields.ReadBack package := by
  intro value found
  have isContext : value = .object
      [("context_version", .number version), ("project_id", .string "zero3")] := by
    simpa [contextBody, ExtensionFields.values] using found
  subst isContext
  exact ⟨reads, trivial, trivial⟩

/-- Nothing fails, at noon. -/
def atNoon : Environment where
  now := ⟨"2026-08-30T12:00:00Z", by decide⟩
  uuid := ⟨"3f2504e0-4f89-41d3-9a0c-0305e82c3301", by decide, by decide⟩
  fault := none

def contextPut (expected : Nat) (small : expected ≤ u64Max) (version : NumberLiteral) : PutRequest where
  taskId := "task-1"
  body := contextBody expected version
  readable := contextBody_readable small version
  environment := atNoon

/-- Two versions of a context, a replay of the first one by a stale writer, and a restart. -/
def sampleActions : List StoreAction :=
  [.put (contextPut 0 (by decide) (.ofNat 7)), .put (contextPut 0 (by decide) (.ofNat 7)),
    .put (contextPut 0 (by decide) (.ofNat 8)), .restart,
    .put (contextPut 1 (by decide) (.ofNat 8))]

/-- The store of a package that reads every number as it was printed, after requests. -/
noncomputable def sampleStore (actions : List StoreAction) : TaskExtensionStore :=
  ((extensionMachine (packageReading id)).exec .empty actions).2

/-- The register that two contexts go through. -/
theorem register_of_run_sample : Register (packageReading id) (sampleStore sampleActions) ∧
      Advances .empty (sampleStore sampleActions) := by
  have met : (extensionMachine (packageReading id)).Met
      (fun _ action => action.ReadBack (packageReading id)) .empty sampleActions := by
    refine Machine.met_of_forall (fun action member state => ?_) _
    simp only [sampleActions, List.mem_cons, List.not_mem_nil, or_false] at member
    rcases member with rfl | rfl | rfl | rfl | rfl
    · exact contextBody_readBack ⟨trivial, rfl⟩
    · exact contextBody_readBack ⟨trivial, rfl⟩
    · exact contextBody_readBack ⟨trivial, rfl⟩
    · exact trivial
    · exact contextBody_readBack ⟨trivial, rfl⟩
  exact register_of_run (packageReading_lawful fun _ _ => rfl) .nil (Machine.exec_run _ _ _ met)

def printedNumber : NumberLiteral :=
  ⟨"90.24131830353687".toList, by decide, List.all_eq_true.1 (by decide)⟩

/-- The literal of its neighbour, which is read from it: the digits 9024131830353687 are rounded
before they are divided by the power of ten. -/
def neighbourNumber : NumberLiteral :=
  ⟨"90.24131830353689".toList, by decide, List.all_eq_true.1 (by decide)⟩

def roundingNumber (literal : NumberLiteral) : NumberLiteral :=
  if literal.text = printedNumber.text then neighbourNumber else literal

theorem roundingNumber_nat (n : Nat) : roundingNumber (.ofNat n) = .ofNat n := by
  refine if_neg fun same => ?_
  have dot : '.' ∈ (NumberLiteral.ofNat n).text := by
    rw [same]
    decide
  have digit := Nat.isDigit_of_mem_toDigits (by decide) (by decide) dot
  exact absurd digit (by decide)

theorem Changed.reopened_first (lawful : package.Lawful) {after : TaskExtensionStore}
    (changed : Changed .empty taskId body record after) (stored : record.Stored package) :
    openDirectory package after.directory =
      .ok ((∅ : BTreeMap TaskExtensionRecord).insert taskId (record.reread package)) := by
  have json : extension (fileName taskId) = some "json" :=
    extension_fileName (changed.task ▸ stored.taskId)
  have read (name : String) : readRecord package name (.whole record.text) =
      .ok (record.reread package) := readRecord_text lawful stored name
  have task : (record.reread package).taskId = taskId := changed.task
  refine openDirectory_eq ?_ ?_
  · intro name content found isJson
    rw [changed.files name isJson] at found
    by_cases hit : name = fileName taskId
    · rw [if_pos hit] at found
      cases found
      exact ⟨_, read name, by rw [task, Std.ExtTreeMap.getElem?_insert_self]⟩
    · rw [if_neg hit] at found
      simp [TaskExtensionStore.empty] at found
  · intro other found held
    rw [Std.ExtTreeMap.getElem?_insert] at held
    by_cases hit : taskId = other
    · rw [if_pos (by simpa using hit)] at held
      cases held
      subst hit
      refine ⟨task, _, _, ?_, json, read _⟩
      rw [changed.files _ json, if_pos rfl]
    · rw [if_neg (by simpa using hit)] at held
      simp at held

theorem exec_put_state (request : PutRequest) (store : TaskExtensionStore) :
    ((extensionMachine package).exec store [.put request]).2 =
      (put request.taskId request.body request.environment store).2 := by
  show (serve package (.put request) store).2 = _
  simp only [serve, bind]
  cases put request.taskId request.body request.environment store with
  | mk result after =>
    cases result with
    | ok record => rfl
    | error error => rfl

noncomputable def roundingPackage : SerdeJson := packageReading roundingNumber

def printedPut : PutRequest := contextPut 0 (by decide) printedNumber

noncomputable def roundedStore : TaskExtensionStore :=
  ((extensionMachine roundingPackage).exec .empty [.put printedPut]).2

theorem printedPut_accepted :
    ∃ record, (put printedPut.taskId printedPut.body printedPut.environment .empty).1 =
      .ok record := by
  have accepted : (put printedPut.taskId printedPut.body printedPut.environment .empty).1.isOk :=
    by decide +kernel
  cases ran : (put printedPut.taskId printedPut.body printedPut.environment .empty).1 with
  | ok record => exact ⟨record, rfl⟩
  | error error =>
    rw [ran] at accepted
    cases accepted

/-- A restart does not find the record that was written with the number. -/
theorem register_of_run_counterexample : roundingPackage.Lawful ∧
      (extensionMachine roundingPackage).Run Machine.anyStep .empty
        ((extensionMachine roundingPackage).exec .empty [.put printedPut]).1 roundedStore ∧
      ¬ Register roundingPackage roundedStore := by
  have lawful : roundingPackage.Lawful := packageReading_lawful fun n _ => roundingNumber_nat n
  refine ⟨lawful, Machine.exec_run _ _ _ ⟨trivial, trivial⟩, fun register => ?_⟩
  obtain ⟨record, accepted⟩ := printedPut_accepted
  have ran : put printedPut.taskId printedPut.body printedPut.environment .empty =
      (.ok record, roundedStore) := by
    refine Prod.ext accepted ?_
    rw [roundedStore, exec_put_state]
  obtain ⟨isAccepted, checked⟩ := put_ensures.returned ran
  have changed : Changed .empty printedPut.taskId printedPut.body record roundedStore := by
    cases isAccepted with
    | replay stored => simp [TaskExtensionStore.empty] at stored
    | change _ changed => exact changed
  have values : ∀ value, some value ∈ record.fields.values → FieldValue roundingPackage value := by
    intro value found
    rw [changed.fields] at found
    have readable := printedPut.readable.values value found
    have numbers : (contextBody 0 printedNumber).fields.ReadBack (packageReading id) :=
      contextBody_readBack ⟨trivial, rfl⟩
    exact ⟨readable.1, readable.2, (numbers value found).imp fun _ _ => trivial⟩
  have reopened := changed.reopened_first lawful ⟨checked changed, values⟩
  rw [register.reopened, Except.ok.injEq, changed.records] at reopened
  have found := congrArg (fun records => records[printedPut.taskId]?) reopened
  simp only [Std.ExtTreeMap.getElem?_insert_self] at found
  -- the context that is read has the neighbour in it
  have contexts := congrArg (fun record => record.fields.projectContext) (Option.some.inj found)
  simp only [TaskExtensionRecord.reread, ExtensionFields.mapNumbers, changed.fields] at contexts
  have literals : printedNumber = roundingPackage.readNumber printedNumber := by
    simpa [printedPut, contextPut, contextBody, Json.mapNumbers, Json.mapMembers] using contexts
  have texts : printedNumber.text = (roundingNumber printedNumber).text :=
    congrArg NumberLiteral.text literals
  exact absurd texts (by decide)

end Zero3Pilot.TaskExtension
