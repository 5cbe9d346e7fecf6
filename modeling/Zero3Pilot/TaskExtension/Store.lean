import Zero3Pilot.Foundations.PrettyJson
import Zero3Pilot.Foundations.Procedure
import Zero3Pilot.ControlPlane.Admission
import Zero3Pilot.ControlPlane.Disk

/-! # The task extension sidecar

`TaskExtensionStore` of `apps/web/src/control_extensions.rs`: one versioned record a task, held in
a map and in a JSON file, replaced under one lock. Bodies are checked against their compact JSON
text and records against their indented one; `open` reads the files back. The JSON package is a
parameter: what it prints is `Json.render` and `Json.renderPretty`, and what it reads back from an
indented text is the tree printed there, as far as it is not nested too deeply, each number being
the one it reads from the literal. -/

namespace Zero3Pilot.TaskExtension

open ControlPlane (BTreeMap fileName extension isIdChar jsonFiles optionalMember readString
  readUnsigned requiredField optionalField u64Max)
open Procedure (check read ofExcept fail modify)

/-! ## The JSON package -/

structure SerdeJson where
  Prints : NumberLiteral → Prop
  readNumber : NumberLiteral → NumberLiteral
  /-- `serde_json::from_slice`: the tree of a text, its members in the order they have there. -/
  read : List Char → Option Json

/-- What is relied on: a printed tree is read back, but for its numbers, unless it is nested more deeply
than the recursion limit; of the numbers only integers are read back as they are. -/
structure SerdeJson.Lawful (package : SerdeJson) : Prop where
  read_renderPretty : ∀ tree : Json, tree.depth ≤ 127 → tree.AllNumbers package.Prints →
    package.read (tree.renderPretty 0) = some (tree.mapNumbers package.readNumber)
  prints_nat : ∀ n ≤ u64Max, package.Prints (.ofNat n)
  readNumber_nat : ∀ n ≤ u64Max, package.readNumber (.ofNat n) = .ofNat n

def SerdeJson.ReadsBack (package : SerdeJson) (literal : NumberLiteral) : Prop :=
  package.Prints literal ∧ package.readNumber literal = literal

/-! ## Records -/

def taskExtensionSchema : String := "zero3.pilot.task-extension.v1"

def maxExtensionBytes : Nat := 512 * 1024

inductive StatusCode where
  | badRequest
  | payloadTooLarge
  | conflict
  | internalServerError

structure ApiError where
  status : StatusCode
  message : String

def ApiError.internal (error : String) : ApiError :=
  ⟨.internalServerError, "task extension persistence failure: " ++ error⟩

/-- `DateTime<Utc>`, by the RFC 3339 text that is printed for it: `2026-08-30T00:00:00Z` and longer
ones. -/
structure Instant where
  text : String
  long : 20 ≤ text.toList.length

def readInstant : Json → Option Instant
  | .string text => if long : 20 ≤ text.toList.length then some ⟨text, long⟩ else none
  | _ => none

structure ExtensionFields where
  (projectContext handoff provider review : Option Json)

def ExtensionFields.values (fields : ExtensionFields) : List (Option Json) :=
  [fields.projectContext, fields.handoff, fields.provider, fields.review]

def ExtensionFields.present (fields : ExtensionFields) : List (String × Json) :=
  optionalMember "project_context" fields.projectContext ++
    optionalMember "handoff" fields.handoff ++
    optionalMember "provider" fields.provider ++
    optionalMember "review" fields.review

def ExtensionFields.nullable (fields : ExtensionFields) : List (String × Json) :=
  [("project_context", fields.projectContext.getD .null), ("handoff", fields.handoff.getD .null),
    ("provider", fields.provider.getD .null), ("review", fields.review.getD .null)]

structure TaskExtensionRecord where
  (schema taskId executionId : String)
  version : Nat
  fields : ExtensionFields
  (createdAt updatedAt : Instant)

def TaskExtensionRecord.members (record : TaskExtensionRecord) : List (String × Json) :=
  [("schema", .string record.schema), ("task_id", .string record.taskId),
      ("execution_id", .string record.executionId), ("version", .nat record.version)] ++
    record.fields.present ++
    [("created_at", .string record.createdAt.text), ("updated_at", .string record.updatedAt.text)]

def TaskExtensionRecord.text (record : TaskExtensionRecord) : List Char :=
  (Json.object record.members).renderPretty 0

def TaskExtensionRecord.fromJson : Json → Option TaskExtensionRecord
  | .object members => do
    let schema ← requiredField members "schema" readString
    let taskId ← requiredField members "task_id" readString
    let executionId ← requiredField members "execution_id" readString
    let version ← requiredField members "version" (readUnsigned u64Max)
    let projectContext ← optionalField members "project_context" some
    let handoff ← optionalField members "handoff" some
    let provider ← optionalField members "provider" some
    let review ← optionalField members "review" some
    let createdAt ← requiredField members "created_at" readInstant
    let updatedAt ← requiredField members "updated_at" readInstant
    return {
      schema, taskId, executionId, version
      fields := { projectContext, handoff, provider, review }
      createdAt, updatedAt }
  | _ => none

structure PutTaskExtensionBody where
  (schema executionId : String)
  expectedVersion : Option Nat
  fields : ExtensionFields

def PutTaskExtensionBody.members (body : PutTaskExtensionBody) : List (String × Json) :=
  [("schema", .string body.schema), ("execution_id", .string body.executionId),
      ("expected_version", (body.expectedVersion.map .nat).getD .null)] ++
    body.fields.nullable

def PutTaskExtensionBody.text (body : PutTaskExtensionBody) : List Char :=
  (Json.object body.members).render

def ExtensionFields.compared (fields : ExtensionFields) : List (Option (List Char)) :=
  fields.values.map fun value => value.map Json.comparedValue

def TaskExtensionRecord.matchesPayload (record : TaskExtensionRecord)
    (body : PutTaskExtensionBody) : Bool :=
  record.schema = body.schema && record.executionId = body.executionId &&
    record.fields.compared = body.fields.compared

/-! ## The store -/

structure TaskExtensionStore where
  records : BTreeMap TaskExtensionRecord
  directory : Directory (List Char)

def TaskExtensionStore.empty : TaskExtensionStore := ⟨∅, ∅⟩

def validateId (label value : String) : Except ApiError Unit :=
  ensure (value ≠ "" ∧ value.utf8ByteSize ≤ 128 ∧ value.toList.all isIdChar)
    ⟨.badRequest, label ++ " must be 1-128 ASCII letters, digits, '.', '_' or '-'"⟩

/-- The steps of `persist` that may fail. -/
inductive PersistStep where
  | write
  | rename

def temporaryName (taskId : String) (uuid : Uuid) : String := taskId ++ ".tmp-" ++ uuid.text

/-- What the environment brings to a call: the clock, a UUID, and the step of `persist` that fails,
with the message of its failure. -/
structure Environment where
  now : Instant
  uuid : Uuid
  fault : Option (PersistStep × String)

def persist (record : TaskExtensionRecord) (environment : Environment) :
    Procedure TaskExtensionStore ApiError Unit := do
  let target := fileName record.taskId
  let temporary := temporaryName record.taskId environment.uuid
  check (Json.bytes record.text ≤ maxExtensionBytes)
    (.internal "task extension exceeds maximum size after serialization")
  match environment.fault with
  | none =>
    modify fun store => { store with
      directory := (store.directory.erase temporary).insert target (.whole record.text) }
  | some (.write, message) => do
    modify fun store => { store with directory := store.directory.insert temporary .torn }
    fail (.internal message)
  | some (.rename, message) => do
    modify fun store => { store with
      directory := store.directory.insert temporary (.whole record.text) }
    fail (.internal message)

def versionOf (existing : Option TaskExtensionRecord) : Nat := (existing.map (·.version)).getD 0

/-- The end of `put`, which writes the next version. -/
def putNext (taskId : String) (body : PutTaskExtensionBody)
    (existing : Option TaskExtensionRecord) (environment : Environment) :
    Procedure TaskExtensionStore ApiError TaskExtensionRecord := do
  let currentVersion := versionOf existing
  check (∀ expected ∈ body.expectedVersion, expected = currentVersion)
    ⟨.conflict, "task extension version conflict: expected " ++
      toString (body.expectedVersion.getD 0) ++ ", current " ++ toString currentVersion⟩
  check (currentVersion < u64Max) ⟨.conflict, "task extension version exhausted"⟩
  let record : TaskExtensionRecord :=
    { schema := taskExtensionSchema
      taskId
      executionId := body.executionId
      version := currentVersion + 1
      fields := body.fields
      createdAt := (existing.map (·.createdAt)).getD environment.now
      updatedAt := environment.now }
  persist record environment
  modify fun store => { store with records := store.records.insert taskId record }
  return record

def put (taskId : String) (body : PutTaskExtensionBody) (environment : Environment) :
    Procedure TaskExtensionStore ApiError TaskExtensionRecord := do
  ofExcept (validateId "task_id" taskId)
  ofExcept (validateId "execution_id" body.executionId)
  check (body.schema = taskExtensionSchema) ⟨.badRequest, "unsupported task extension schema"⟩
  check (∃ value ∈ body.fields.values, value.isSome)
    ⟨.badRequest, "task extension must contain at least one extension field"⟩
  check (Json.bytes body.text ≤ maxExtensionBytes)
    ⟨.payloadTooLarge, "task extension exceeds the 512 KiB limit"⟩
  let store ← read
  match store.records[taskId]? with
  | none => putNext taskId body none environment
  | some existing => do
    check (existing.executionId = body.executionId)
      ⟨.conflict, "task_id is already bound to a different execution_id"⟩
    if existing.matchesPayload body then return existing
    else putNext taskId body (some existing) environment

/-! ## Opening a store -/

def readRecord (package : SerdeJson) (name : String) :
    FileContent (List Char) → Except String TaskExtensionRecord
  | .torn => .error ("invalid JSON in " ++ name)
  | .whole text => do
    ensure (Json.bytes text ≤ maxExtensionBytes)
      ("persisted task extension exceeds maximum size: " ++ name)
    let record ← orError ((package.read text).bind TaskExtensionRecord.fromJson)
      ("invalid JSON in " ++ name)
    ((validateId "persisted task_id" record.taskId).mapError (·.message))
    ((validateId "persisted execution_id" record.executionId).mapError (·.message))
    ensure (record.schema = taskExtensionSchema ∧ record.version ≠ 0)
      ("invalid persisted task extension: " ++ name)
    return record

/-- The loop of `open` over the JSON files of the directory. -/
def loadRecords (package : SerdeJson) :
    List (String × FileContent (List Char)) → BTreeMap TaskExtensionRecord →
      Except String (BTreeMap TaskExtensionRecord)
  | [], records => .ok records
  | (name, content) :: files, records => do
    let record ← readRecord package name content
    loadRecords package files (records.insert record.taskId record)

def openDirectory (package : SerdeJson) (directory : Directory (List Char)) :
    Except String (BTreeMap TaskExtensionRecord) :=
  loadRecords package (jsonFiles directory) ∅

/-! ## The service -/

structure PutTaskExtensionBody.Readable (body : PutTaskExtensionBody) : Prop where
  version : ∀ expected ∈ body.expectedVersion, expected ≤ u64Max
  values : ∀ value, some value ∈ body.fields.values → value ≠ .null ∧ value.depth ≤ 126

structure PutRequest where
  taskId : String
  body : PutTaskExtensionBody
  readable : body.Readable
  environment : Environment

/-- What happens to a store: a writer's request, or a restart of the service. -/
inductive StoreAction where
  | put (request : PutRequest)
  | restart

/-- A restart that does not find a valid directory fails, and nothing is served. -/
def restart (package : SerdeJson) : Procedure TaskExtensionStore ApiError Unit := do
  let store ← read
  let records ← ofExcept ((openDirectory package store.directory).mapError .internal)
  modify fun store => { store with records := records }

/-- **The service of the store.** The lock makes the requests of all writers follow one another. -/
def serve (package : SerdeJson) :
    StoreAction → Procedure TaskExtensionStore ApiError (Option TaskExtensionRecord)
  | .put request => do
    let record ← put request.taskId request.body request.environment
    return some record
  | .restart => do
    restart package
    return none

abbrev extensionMachine (package : SerdeJson) :
    Machine TaskExtensionStore StoreAction (Except ApiError (Option TaskExtensionRecord)) :=
  Procedure.machine (serve package)

end Zero3Pilot.TaskExtension
