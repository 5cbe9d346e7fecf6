import Zero3Pilot.Foundations.ScriptValue
import Zero3Pilot.Foundations.Checks

/-! # Development sessions and deliveries

What `contract-types.ts` says of development sessions and of the deliveries they hand in, and what
`validators.ts` checks of a delivery before Git is asked anything. Hashing is a parameter: a delivery
is hashed by its canonical text. -/

namespace Zero3Pilot.GroupRuntime

/-! ## The data -/

/-- `DevelopmentGroupPolicy['permissionProfile']`. -/
inductive PermissionProfile where
  | readOnly
  | standard
  | elevated
  | fullControl
  deriving DecidableEq

structure DevelopmentDeliveryPolicy where
  (requireCleanHead requireOwnershipValidation requireHandoff requireDeliveryHash : Bool)

/-- `DevelopmentSessionDefinition`, as far as deliveries are concerned. -/
structure DevelopmentSessionDefinition where
  (groupId sessionId executionId baselineSha branch worktree : String)
  (ownedPaths readOnlyPaths forbiddenPaths requirements : List String)
  permissionProfile : PermissionProfile
  deliveryPolicy : DevelopmentDeliveryPolicy

inductive DevelopmentDeliveryStatus where
  | completed
  | blocked
  | failed
  | cancelled
  | outcomeUnknown
  deriving DecidableEq

/-- How a status is written. -/
def DevelopmentDeliveryStatus.text : DevelopmentDeliveryStatus → String
  | completed => "completed"
  | blocked => "blocked"
  | failed => "failed"
  | cancelled => "cancelled"
  | outcomeUnknown => "outcome_unknown"

structure DevelopmentDelivery where
  (contract groupId sessionId executionId : String)
  status : DevelopmentDeliveryStatus
  (baseSha headSha : String)
  (changedPaths requirements testsAdded testsExecuted artifacts knownIssues : List String)
  downstreamNotes : List String
  handoffCheckpoint : Option String
  (deliveryHash createdAt : String)

def developmentDeliveryContract : String := "zero3.pilot.development-delivery.v1"

/-! ## Checks -/

def isHexDigit (char : Char) : Bool :=
  ('0' ≤ char && char ≤ '9') || ('a' ≤ char && char ≤ 'f') || ('A' ≤ char && char ≤ 'F')

/-- `SHA_RE.test(value)`. -/
def isSha (value : String) : Bool := value.toList.length = 40 && value.toList.all isHexDigit

def nonEmpty (value : String) : Bool := scriptTrim value ≠ ""

def hasDuplicates (values : List String) : Bool := values.eraseDups.length ≠ values.length

structure ValidationIssue where
  (code path message : String)

def issueIf (found : Bool) (code path message : String) : List ValidationIssue :=
  if found then [⟨code, path, message⟩] else []

def validateDevelopmentDelivery (delivery : DevelopmentDelivery)
    (session : DevelopmentSessionDefinition) : List ValidationIssue :=
  issueIf (delivery.contract ≠ developmentDeliveryContract) "unsupported_contract"
      "delivery.contract" "development delivery contract is unsupported" ++
    issueIf (delivery.groupId ≠ session.groupId || delivery.sessionId ≠ session.sessionId ||
        delivery.executionId ≠ session.executionId)
      "identity_mismatch" "delivery" "delivery identity must match the Development Session" ++
    issueIf (delivery.baseSha ≠ session.baselineSha || !isSha delivery.baseSha) "invalid_baseline"
      "delivery.baseSha" "delivery base must match the session baseline" ++
    issueIf (!isSha delivery.headSha || delivery.headSha = delivery.baseSha) "invalid_head"
      "delivery.headSha" "delivery needs a distinct exact head SHA" ++
    issueIf (!nonEmpty delivery.deliveryHash) "missing_delivery_hash" "delivery.deliveryHash"
      "delivery hash is required" ++
    issueIf (hasDuplicates delivery.changedPaths) "duplicate_changed_path" "delivery.changedPaths"
      "changed paths must be unique" ++
    issueIf (hasDuplicates delivery.requirements) "duplicate_requirement" "delivery.requirements"
      "delivered requirements must be unique" ++
    delivery.requirements.flatMap fun requirement =>
      issueIf (!session.requirements.contains requirement) "scope_violation" "delivery.requirements"
        s!"session does not own requirement {requirement}"

/-! ## The text that is hashed -/

def textItems (texts : List String) : Json := .array (texts.map .string)

/-- `JSON.stringify(canonicalize(unsigned))`: the members of a delivery without its hash, sorted by
their names. -/
def DevelopmentDelivery.canonicalText (delivery : DevelopmentDelivery) : String :=
  String.ofList (Json.object ([
    ("artifacts", textItems delivery.artifacts),
    ("baseSha", .string delivery.baseSha),
    ("changedPaths", textItems delivery.changedPaths),
    ("contract", .string delivery.contract),
    ("createdAt", .string delivery.createdAt),
    ("downstreamNotes", textItems delivery.downstreamNotes),
    ("executionId", .string delivery.executionId),
    ("groupId", .string delivery.groupId)] ++
    (match delivery.handoffCheckpoint with
      | some checkpoint => [("handoffCheckpoint", .string checkpoint)]
      | none => []) ++ [
    ("headSha", .string delivery.headSha),
    ("knownIssues", textItems delivery.knownIssues),
    ("requirements", textItems delivery.requirements),
    ("sessionId", .string delivery.sessionId),
    ("status", .string delivery.status.text),
    ("testsAdded", textItems delivery.testsAdded),
    ("testsExecuted", textItems delivery.testsExecuted)])).render

def computeDeliveryHash (sha256 : String → String) (delivery : DevelopmentDelivery) : String :=
  sha256 delivery.canonicalText

end Zero3Pilot.GroupRuntime
