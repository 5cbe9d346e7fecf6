import Zero3Pilot.GroupRuntime.GroupWorld

/-! # Verification runs

`verification/verification-runner.ts`: the commands of a run are checked before the first one is run,
and the run passes where every required command has passed. -/

namespace Zero3Pilot.GroupRuntime

def commandErrors (ids : List String) (command : VerificationCommand) : List String :=
  (if !nonEmpty command.id then ["verification command id is empty"]
    else if ids.contains command.id then [s!"duplicate verification command id {command.id}"]
    else []) ++
  (if !nonEmpty command.command then [s!"verification command {command.id} is empty"] else []) ++
  (if command.cwd.any fun cwd => !nonEmpty cwd then
    [s!"verification command {command.id} has empty cwd"] else [])

def commandListErrors : List String → List VerificationCommand → List String
  | _, [] => []
  | ids, command :: commands =>
    commandErrors ids command ++ commandListErrors (command.id :: ids) commands

def validateVerificationCommands (commands : List VerificationCommand) : List String :=
  commandListErrors [] commands

def requiredIds (commands : List VerificationCommand) : List String :=
  (commands.filter (·.required)).map (·.id)

def missingMandatory (commands : List VerificationCommand) (mandatoryIds : List String) :
    List String :=
  sortTexts (mandatoryIds.eraseDups.filter fun id => !(requiredIds commands).contains id)

/-- `VerificationRunRequest`, as the runtime makes it. -/
structure VerificationRunRequest where
  (groupId integrationSha policyRevision : String)
  commands : List VerificationCommand
  mandatoryCommandIds : List String
  platform : VerificationPlatform
  verificationRunId : Option String

def VerificationRunRequest.refusal (request : VerificationRunRequest) : Option String :=
  if !isSha request.integrationSha then
    some "verification requires an exact 40-character integration SHA"
  else if validateVerificationCommands request.commands ≠ [] then
    some ("; ".intercalate (validateVerificationCommands request.commands))
  else if missingMandatory request.commands request.mandatoryCommandIds ≠ [] then
    some ("mandatory verification commands missing or not required: " ++
      ", ".intercalate (missingMandatory request.commands request.mandatoryCommandIds))
  else none

def skippedResult (platform : VerificationPlatform) (command : VerificationCommand) :
    VerificationResult where
  commandId := command.id
  status := .notRunPlatform
  exitCode := none
  evidence := ["required_platform=" ++ (command.platform.map (·.text)).getD "any",
    s!"actual_platform={platform.text}"]

/-- The commands are run in their order, up to the first exception; whether there was one. -/
def runCommands (platform : VerificationPlatform) :
    List VerificationCommand → GroupProgram (List VerificationResult × Bool)
  | [] => return ([], false)
  | command :: commands =>
    if command.platform.any (· ≠ platform) then do
      let (results, unknown) ← runCommands platform commands
      return (skippedResult platform command :: results, unknown)
    else do
      match ← attempt (ask (.runCommand command)) with
      | .ok (exitCode, evidence) =>
        let (results, unknown) ← runCommands platform commands
        return (⟨command.id, if exitCode = 0 then .passed else .failed, some exitCode,
          evidence⟩ :: results, unknown)
      | .error error =>
        return ([⟨command.id, .notRun, none, ["executor_exception=" ++ error.text]⟩], true)

def runStatus (commands : List VerificationCommand) (results : List VerificationResult)
    (outcomeUnknown : Bool) : VerificationStatus :=
  if outcomeUnknown then .outcomeUnknown
  else if commands.any fun command => command.required &&
      (mapGet (·.commandId) results command.id).all fun result => result.status ≠ .passed then
    .failed
  else .passed

def VerificationRunRequest.runId (request : VerificationRunRequest) : GroupProgram String :=
  match request.verificationRunId with
  | some id => return id
  | none => do
    let id ← ask .randomUUID
    return s!"V-{id}"

def executeVerification (request : VerificationRunRequest) : GroupProgram VerificationRun := do
  match request.refusal with
  | some message => refuse message
  | none =>
    let startedAt ← ask .now
    let verificationRunId ← request.runId
    let (results, outcomeUnknown) ← runCommands request.platform request.commands
    return {
      verificationRunId
      groupId := request.groupId
      integrationSha := request.integrationSha
      policyRevision := request.policyRevision
      commands := request.commands
      results
      platform := request.platform
      startedAt
      status := runStatus request.commands results outcomeUnknown }

end Zero3Pilot.GroupRuntime
