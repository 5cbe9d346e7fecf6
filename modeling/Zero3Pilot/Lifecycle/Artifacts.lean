import Zero3Pilot.Foundations.Fallible
import Zero3Pilot.Lifecycle.Requests

/-! # The store of artifact references

`Zero3ArtifactReferenceStore` of `artifact-runtime/artifact-reference-store.ts`: the references that
were registered, each under a key. A key that is used again is answered with its record. A fingerprint
is kept as the text that is hashed; a reference that is registered has been normalized before, and
normalizing it once more leaves it as it is. -/

namespace Zero3Pilot.Lifecycle

open Procedure (check ofExcept read modify)

structure ArtifactRecord extends WorkflowArtifactRef where
  (projectId taskId agentId : String)
  agentType : LifecycleAgentType
  description : Option String
  version : Nat
  (status idempotencyKey : String)
  fingerprint : List Char

/-- What is registered. -/
structure ArtifactInput where
  artifact : WorkflowArtifactRef
  (projectId taskId agentId : String)
  agentType : LifecycleAgentType
  (description version status : ScriptValue)
  idempotencyKey : String

def textMembers (name : String) (text : Option String) : List (String × Json) :=
  (text.map fun text => (name, .string text)).toList

def WorkflowArtifactRef.json (artifact : WorkflowArtifactRef) : Json :=
  .object ([("artifactId", .string artifact.artifactId),
      ("workflowRunId", .string artifact.workflowRunId),
      ("workItemId", .string artifact.workItemId), ("stageRunId", .string artifact.stageRunId),
      ("logicalName", .string artifact.logicalName), ("kind", .string artifact.kind)] ++
    textMembers "mimeType" artifact.mimeType ++ [("storage", artifact.storage)] ++
    textMembers "sha256" artifact.sha256 ++ member "sizeBytes" artifact.sizeBytes ++
    [("producer", .object [("workerDefinitionId", .string artifact.workerDefinitionId),
      ("workerSlotId", .string artifact.workerSlotId),
      ("workerSessionId", .string artifact.workerSessionId)])])

/-- The number a version is, if it is an integer between 1 and a million. -/
def versionOf (value : ScriptValue) : Except String Nat :=
  match value with
  | some (.number literal) =>
    match literal.toInt? with
    | some version =>
      if 1 ≤ version ∧ version ≤ 1000000 then .ok version.toNat
      else .error "artifact version is invalid"
    | none => .error "artifact version is invalid"
  | _ => .error "artifact version is invalid"

def artifactStatuses : List String := ["draft", "produced", "approved", "rejected", "superseded"]

/-- The references of all tasks, in the order they were registered in. -/
abbrev ArtifactStore := List ArtifactRecord

namespace ArtifactStore

def readIndex (store : ArtifactStore) (taskId : String) : List ArtifactRecord :=
  store.filter fun record => record.taskId = taskId

def nextVersion (index : List ArtifactRecord) (logicalName : String) : Nat :=
  ((index.filter fun record => record.logicalName = logicalName).map (·.version)).foldl max 0 + 1

def register (input : ArtifactInput) : Procedure ArtifactStore String ArtifactRecord := do
  let projectId ← ofExcept (textId input.projectId "projectId")
  let taskId ← ofExcept (textId input.taskId "taskId")
  let agentId ← ofExcept (textId input.agentId "agentId")
  let idempotencyKey ← ofExcept (textId input.idempotencyKey "idempotencyKey")
  let description ←
    if input.description.isNullish ∨ ScriptValue.text? input.description = some "" then pure none
    else Option.some <$> ofExcept (textOf input.description "description" 8192)
  let status := if input.status.isNullish then "produced"
    else (ScriptValue.text? input.status).getD ""
  check (status ∈ artifactStatuses) "artifact status is invalid"
  let store ← read
  let index := readIndex store taskId
  let fingerprint := stableJson (.object
    [("artifact", input.artifact.json), ("projectId", .string projectId),
      ("taskId", .string taskId), ("agentId", .string agentId),
      ("agentType", .string input.agentType.text),
      ("description", (description.map Json.string).getD .null), ("status", .string status),
      ("version", input.version.getD .null)])
  match index.find? fun record => record.idempotencyKey = idempotencyKey with
  | some replay => do
    check (replay.fingerprint = fingerprint)
      "artifact idempotency key was reused with different content"
    return replay
  | none => do
    let version ← if input.version.isNullish then pure (nextVersion index input.artifact.logicalName)
      else ofExcept (versionOf input.version)
    check (∀ record ∈ index, record.artifactId ≠ input.artifact.artifactId)
      "artifactId already exists"
    let record : ArtifactRecord :=
      { input.artifact with
        projectId, taskId, agentId, agentType := input.agentType, description, version, status,
        idempotencyKey, fingerprint }
    modify fun store => store ++ [record]
    return record

def list (taskId : String) : Procedure ArtifactStore String (List ArtifactRecord) := do
  let taskId ← ofExcept (textId taskId "taskId")
  let store ← read
  return readIndex store taskId

end ArtifactStore

end Zero3Pilot.Lifecycle
