import Zero3Pilot.Execution.Reporter

/-! # Requests of agents

How the lifecycle runtime reads what agents send: the helpers of
`worker-runtime/v2/lifecycle-runtime.ts`, and `normalizeWorkflowArtifactRef` of `contracts.ts`. A
request is a JSON tree, most of whose members go under two names. -/

namespace Zero3Pilot.Lifecycle

open Execution (plainRecord requiredId)

/-! ## Members -/

def coalesce (value other : ScriptValue) : ScriptValue := if value.isNullish then other else value

def either (input : Json) (camel snake : String) : ScriptValue :=
  coalesce (input.get camel) (input.get snake)

def member (name : String) (value : ScriptValue) : List (String × Json) :=
  (value.map fun value => (name, value)).toList

def idOf (value : ScriptValue) (label : String) : Except String String := requiredId value label

def textId (text label : String) : Except String String := idOf (some (.string text)) label

def textOf (value : ScriptValue) (label : String) (max : Nat) : Except String String := do
  let normalized := scriptTrim ((ScriptValue.text? value).getD "")
  ensure (normalized ≠ "" ∧ utf16Length normalized ≤ max) (label ++ " is invalid")
  return normalized

def arrayOf (value : ScriptValue) (label : String) : Except String (List Json) :=
  if value.isNullish then .ok []
  else
    match ScriptValue.items? value with
    | some items =>
      if items.length ≤ 100 then .ok items
      else .error (label ++ " must contain at most 100 items")
    | none => .error (label ++ " must contain at most 100 items")

/-! ## Enumerations -/

inductive LifecycleAgentType where
  | webGpt | codex | claude | hermes | zero3 | antigravity | other
  deriving DecidableEq

def LifecycleAgentType.text : LifecycleAgentType → String
  | .webGpt => "web_gpt"
  | .codex => "codex"
  | .claude => "claude"
  | .hermes => "hermes"
  | .zero3 => "zero3"
  | .antigravity => "antigravity"
  | .other => "other"

def memoryAgentType : LifecycleAgentType → String
  | .webGpt => "gpt_web"
  | .hermes | .other => "zero3"
  | type => type.text

inductive LifecycleImportance where
  | low | normal | high | critical
  deriving DecidableEq

def LifecycleImportance.text : LifecycleImportance → String
  | .low => "low"
  | .normal => "normal"
  | .high => "high"
  | .critical => "critical"

inductive LifecycleEventType where
  | decision | progress | warning | error | discovery | userInstruction | dependency
  deriving DecidableEq

def LifecycleEventType.text : LifecycleEventType → String
  | .decision => "decision"
  | .progress => "progress"
  | .warning => "warning"
  | .error => "error"
  | .discovery => "discovery"
  | .userInstruction => "user_instruction"
  | .dependency => "dependency"

/-- The member of an enumeration with a text. No other than ASCII letters are lowered to the letters
of these texts. -/
def named {α : Type} (text : α → String) (members : List α) (given error : String) :
    Except String α :=
  orError (members.find? fun member => text member = (scriptTrim given).toLower) error

def agentTypeOf (value : ScriptValue) : Except String LifecycleAgentType :=
  named LifecycleAgentType.text [.webGpt, .codex, .claude, .hermes, .zero3, .antigravity, .other]
    ((ScriptValue.text? value).getD "") "agentType is invalid"

def soleText : Json → String
  | .string text => text
  | .array [item] => soleText item
  | _ => ""

def importanceOf (value : ScriptValue) : Except String LifecycleImportance :=
  match value with
  | none | some .null => .ok .normal
  | some value =>
    named LifecycleImportance.text [.low, .normal, .high, .critical] (soleText value)
      "importance is invalid"

def eventTypeOf (value : ScriptValue) : Except String LifecycleEventType :=
  named LifecycleEventType.text
    [.decision, .progress, .warning, .error, .discovery, .userInstruction, .dependency]
    ((ScriptValue.text? value).getD "") "eventType is invalid"

/-! ## Items of a memory commit -/

def entityContent : Json → Json
  | .string text => .object [("text", .string text)]
  | .object members => .object members
  | .array items => .object ((items.zipIdx).map fun item => (toString item.2, item.1))
  | _ => .object []

/-- The identifier an entity brings itself, if any. -/
def entityId? : Json → Except String (Option String)
  | .null => .error "Cannot read properties of null (reading 'entityId')"
  | value =>
    match value.get "entityId" with
    | some (.string given) =>
      match textId given "entityId" with
      | .ok id => .ok (some id)
      | .error _ => .ok none
    | _ => .ok none

/-! ## References of artifacts -/

/-- `integer(value, label, 0, Number.MAX_SAFE_INTEGER)`. -/
def sizeOf (value : ScriptValue) (label : String) : Except String Json :=
  match value with
  | some (.number literal) =>
    match literal.toInt? with
    | some size =>
      if 0 ≤ size ∧ size ≤ 9007199254740991 then .ok (.number literal)
      else .error (label ++ " must be an integer between 0 and 9007199254740991")
    | none => .error (label ++ " must be an integer between 0 and 9007199254740991")
  | _ => .error (label ++ " must be an integer between 0 and 9007199254740991")

def textMember (input : Json) (name label : String) (max : Nat) :
    Except String (List (String × Json)) := do
  let value := input.get name
  if value.isNullish then return []
  else return [(name, .string (← textOf value label max))]

def normalizeStorage (value : ScriptValue) : Except String Json := do
  let input ← plainRecord value "artifact storage"
  let provider := (ScriptValue.text? (input.get "provider")).getD ""
  ensure (provider ∈ ["GOOGLE_DRIVE", "LOCAL", "REMOTE_COMPUTE", "URL"])
    "artifact storage provider is invalid"
  let fileId ← textMember input "fileId" "storage.fileId" 2048
  let path ← textMember input "path" "storage.path" 8192
  let uri ← textMember input "uri" "storage.uri" 8192
  let webUrl ← textMember input "webUrl" "storage.webUrl" 8192
  ensure (provider ≠ "GOOGLE_DRIVE" ∨ fileId ≠ []) "GOOGLE_DRIVE storage requires fileId"
  ensure (provider ≠ "LOCAL" ∨ path ≠ []) "LOCAL storage requires path"
  ensure (provider ≠ "REMOTE_COMPUTE" ∨ path ≠ [] ∨ uri ≠ [])
    "REMOTE_COMPUTE storage requires path or uri"
  ensure (provider ≠ "URL" ∨ uri ≠ [] ∨ webUrl ≠ []) "URL storage requires uri or webUrl"
  return .object ([("provider", .string provider)] ++ fileId ++ path ++ uri ++ webUrl)

def isSha256 (text : String) : Bool :=
  text.toList.length = 64 && text.toList.all fun char =>
    char.isDigit || ('a'.toNat ≤ char.toLower.toNat && char.toLower.toNat ≤ 'f'.toNat)

structure WorkflowArtifactRef where
  (artifactId workflowRunId workItemId stageRunId logicalName kind : String)
  mimeType : Option String
  storage : Json
  sha256 : Option String
  sizeBytes : Option Json
  (workerDefinitionId workerSlotId workerSessionId : String)

/-- What a request says of an artifact, before it is normalized. -/
structure ArtifactDraft where
  (artifactId workflowRunId : ScriptValue)
  (workItemId stageRunId logicalName : String)
  (kind mimeType : ScriptValue)
  storage : Json
  (sha256 sizeBytes workerDefinitionId workerSlotId : ScriptValue)
  workerSessionId : String

def normalizeWorkflowArtifactRef (input : ArtifactDraft) : Except String WorkflowArtifactRef := do
  let sha256 ←
    if input.sha256.isNullish ∨ ScriptValue.text? input.sha256 = some "" then pure none
    else pure (some (← textOf input.sha256 "sha256" 64))
  ensure (sha256.all isSha256) "sha256 is invalid"
  let artifactId ← idOf input.artifactId "artifactId"
  let workflowRunId ← idOf input.workflowRunId "workflowRunId"
  let workItemId ← textId input.workItemId "workItemId"
  let stageRunId ← textId input.stageRunId "stageRunId"
  let logicalName ← textOf (some (.string input.logicalName)) "logicalName" 1024
  let kind ← idOf input.kind "kind"
  let mimeType ←
    if input.mimeType.isNullish then pure none
    else pure (some (← textOf input.mimeType "mimeType" 256))
  let storage ← normalizeStorage (some input.storage)
  let sizeBytes ←
    if input.sizeBytes.isNullish then pure none
    else pure (some (← sizeOf input.sizeBytes "sizeBytes"))
  let workerDefinitionId ← idOf input.workerDefinitionId "producer.workerDefinitionId"
  let workerSlotId ← idOf input.workerSlotId "producer.workerSlotId"
  let workerSessionId ← textId input.workerSessionId "producer.workerSessionId"
  return { artifactId, workflowRunId, workItemId, stageRunId, logicalName, kind, mimeType, storage,
           sha256, sizeBytes, workerDefinitionId, workerSlotId, workerSessionId }

/-- The storage of a request, under the names of the reference. -/
def draftStorage (raw : Json) : Json :=
  let providerRaw := (scriptTrim (soleText ((raw.get "provider").getD .null))).toUpper.map fun char =>
    if char = '-' then '_' else char
  let provider := if providerRaw = "GOOGLEDRIVE" then "GOOGLE_DRIVE" else providerRaw
  .object ([("provider", .string provider)] ++ member "fileId" (either raw "fileId" "file_id") ++
    member "path" (raw.get "path") ++ member "uri" (raw.get "uri") ++
    member "webUrl" (either raw "webUrl" "web_url"))

end Zero3Pilot.Lifecycle
