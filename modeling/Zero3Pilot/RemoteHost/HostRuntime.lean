import Zero3Pilot.Foundations.Program
import Zero3Pilot.RemoteHost.HostTask

/-! # What the task runner works with

The calls `host-runtime/remote-task-runner.ts` awaits (the Codex runtime, the mapping file of
`remote-mapping-store.ts`, the evidence callback, the clock), the data they carry, and the world that
answers them. The mapping file is modelled: it is replaced atomically, and a failing replacement may
or may not have taken effect. Everything else answers as it likes. -/

namespace Zero3Pilot.RemoteHost

/-- What the runner takes from the language and its platform: `Number` of values that are not
numbers, `sha256` in hexadecimal, the `path` module, and case mapping. -/
structure Platform where
  coerce : Json → Option Int
  sha256 : List Char → String
  resolve : String → String
  relative : String → String → String
  isAbsolute : String → Bool
  toLowerCase : String → String
  caseInsensitivePaths : Bool

inductive RunError where
  | blocked (message : String)
  | outcomeUnknown (message : String)
  | plain (message : String)

def RunError.message : RunError → String
  | .blocked message | .outcomeUnknown message | .plain message => message

structure CodexMapping where
  (taskId executionId taskFingerprint threadId : String)
  turnIds : List String
  workspace : String
  pendingTurnClientId : Option String

abbrev Mappings := Std.ExtTreeMap String CodexMapping compare

/-- `Zero3RemoteEvidenceItem`, without the time it was pushed at. -/
structure EvidenceItem where
  sequence : Nat
  method : String
  params : Json

/-- What `startTurn` is called with. -/
structure TurnParams where
  (threadId clientUserMessageId : String)
  skills : List NativeSkill
  prompt : String

/-- **The calls a run awaits.** -/
inductive HostCall where
  /-- `Date.now()`, in milliseconds. -/
  | now
  | delay (ms : Nat)
  | readMappings
  | writeMappings (mappings : Mappings)
  | execCommand (command : List String) (cwd : String)
  | startThread (cwd : String)
  | startTurn (params : TurnParams)
  | readThread (threadId : String)
  | emitEvidence (item : EvidenceItem)

abbrev HostReply : HostCall → Type
  | .now => Nat
  | .readMappings => Mappings
  | .execCommand .. | .startThread .. | .startTurn .. | .readThread .. => Json
  | .delay .. | .writeMappings .. | .emitEvidence .. => Unit

abbrev HostProgram := Program HostCall HostReply RunError

/-- Await a call; its failure is rethrown. -/
def call (call : HostCall) : HostProgram (HostReply call) := .perform .plain call

/-! ## The world -/

/-- A call that was answered. -/
structure LogEntry where
  call : HostCall
  reply : Except String (HostReply call)

/-- The mapping file, and the calls answered so far. -/
structure HostWorld where
  mappings : Mappings
  log : List LogEntry

def storeAnswers (mappings : Mappings) :
    (call : HostCall) → Except String (HostReply call) → Mappings → Prop
  | .readMappings, .ok read, after => read = mappings ∧ after = mappings
  | .writeMappings written, .ok _, after => after = written
  | .writeMappings written, .error _, after => after = mappings ∨ after = written
  | _, _, after => after = mappings

/-- **How the world answers**: the mapping file as a file, every other call as it likes. -/
def answers (world : HostWorld) (call : HostCall) (reply : Except String (HostReply call))
    (world' : HostWorld) : Prop :=
  storeAnswers world.mappings call reply world'.mappings ∧ world'.log = world.log ++ [⟨call, reply⟩]

def HostCall.isWrite : HostCall → Bool
  | .writeMappings _ => true
  | _ => false

theorem answers_mappings {world world' : HostWorld} {call : HostCall}
    {reply : Except String (HostReply call)} (reads : call.isWrite = false)
    (answered : answers world call reply world') : world'.mappings = world.mappings := by
  have stored := answered.1
  cases call with
  | writeMappings written => cases reads
  | readMappings =>
    cases reply with
    | ok read => exact stored.2
    | error message => exact stored
  | _ => exact stored

/-! ## The mapping store -/

def objectPrototypeMembers : List String :=
  ["constructor", "hasOwnProperty", "isPrototypeOf", "propertyIsEnumerable", "toLocaleString",
    "toString", "valueOf", "__proto__", "__defineGetter__", "__defineSetter__", "__lookupGetter__",
    "__lookupSetter__"]

/-- What `state.mappings[taskId]` is. -/
inductive MappingLookup where
  | absent
  /-- A member of the prototype of all objects: not a mapping, and none of its fields is a text. -/
  | inherited
  | found (mapping : CodexMapping)

/-- `Zero3RemoteMappingStore.get` on the mappings of the file. -/
def lookupMapping (mappings : Mappings) (taskId : String) : MappingLookup :=
  match mappings[taskId]? with
  | some mapping => .found mapping
  | none => if objectPrototypeMembers.contains taskId then .inherited else .absent

/-- `Zero3RemoteMappingStore.put`. -/
def putMapping (mapping : CodexMapping) : HostProgram Unit := do
  let mappings ← call .readMappings
  call (.writeMappings (mappings.insert mapping.taskId mapping))

/-! ## Evidence -/

/-- `evidence.push` followed by the evidence callback. -/
def pushEvidence (evidence : List EvidenceItem) (method : String) (params : Json) :
    HostProgram (List EvidenceItem) := do
  let item : EvidenceItem := ⟨evidence.length + 1, method, params⟩
  call (.emitEvidence item)
  return evidence ++ [item]

end Zero3Pilot.RemoteHost
