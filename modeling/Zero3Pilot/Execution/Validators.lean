import Zero3Pilot.Execution.Contracts

/-! # Checking and scheduling a workflow

The pure checks of the execution runtime: `execution-runtime/scheduler.ts` and
`execution-runtime/validators.ts`. Each collects the texts of all errors it finds. -/

namespace Zero3Pilot.Execution

/-- `[...new Set(errors)].sort()`. -/
def sortedErrors (errors : List String) : List String := sortTexts errors.eraseDups

/-- `text(value)`: some character is not white space. -/
def text (value : String) : Bool := scriptTrim value ≠ ""

/-! ## The dependency graph -/

structure CycleSearch where
  (visiting visited errors : List String)

def visit (steps : List StepDefinition) : Nat → String → List String → CycleSearch → CycleSearch
  | 0, _, _, search => search
  | depth + 1, stepId, path, search =>
    if search.visited.contains stepId then search
    else if search.visiting.contains stepId then
      let cycle := path.dropWhile (fun id => id ≠ stepId) ++ [stepId]
      { search with
        errors := search.errors ++ ["cycle detected: " ++ String.intercalate " -> " cycle] }
    else
      let known := fun id => steps.any fun step => step.stepId = id
      let dependencies := match steps.find? fun step => step.stepId = stepId with
        | some step => step.dependsOn.filter known
        | none => []
      let entered := { search with visiting := stepId :: search.visiting }
      let left := dependencies.foldl
        (fun search dependency => visit steps depth dependency (path ++ [stepId]) search) entered
      { left with
        visiting := left.visiting.filter fun id => id ≠ stepId
        visited := stepId :: left.visited }

/-- The errors of step identifiers that occur more than once. -/
def duplicateErrors : List StepDefinition → List String → List String
  | [], _ => []
  | step :: steps, seen =>
    if seen.contains step.stepId then
      ("duplicate step id " ++ step.stepId) :: duplicateErrors steps seen
    else duplicateErrors steps (step.stepId :: seen)

def dependencyErrors (steps : List StepDefinition) (step : StepDefinition) : List String :=
  step.dependsOn.filterMap fun dependencyId =>
    if dependencyId = step.stepId then some (step.stepId ++ " cannot depend on itself")
    else if steps.any fun other => other.stepId = dependencyId then none
    else some (step.stepId ++ " depends on unknown step " ++ dependencyId)

def validateExecutionDag (steps : List StepDefinition) : List String :=
  let search := steps.foldl
    (fun search step => visit steps (steps.length + 1) step.stepId [] search) ⟨[], [], []⟩
  sortedErrors (duplicateErrors steps [] ++ steps.flatMap (dependencyErrors steps) ++ search.errors)

/-! ## Definitions -/

/-- The error of a check that failed. -/
def errorUnless (holds : Prop) [Decidable holds] (error : String) : List String :=
  if holds then [] else [error]

def skillSelectors (value : List String) (label : String) : List String :=
  if 32 < value.length then [label ++ " must contain at most 32 items"]
  else
    let normalized := value.map scriptTrim
    errorUnless (∀ item ∈ normalized, item ≠ "" ∧ utf16Length item ≤ 256 ∧ '\x00' ∉ item.toList)
        (label ++ " contains an invalid selector") ++
      errorUnless normalized.Nodup (label ++ " contains duplicates")

def outputErrors (stepId : String) (output : ExpectedOutput) : List String :=
  errorUnless (text output.logicalName) (stepId ++ " has an expected output without logicalName") ++
    errorUnless (∀ minCount ∈ output.minCount, ∀ maxCount ∈ output.maxCount, minCount ≤ maxCount)
      (stepId ++ "/" ++ output.logicalName ++ " count range is invalid")

def stepErrors (task : TaskDefinition) (step : StepDefinition) : List String :=
  let stepId := step.stepId
  let required := step.requiredSkills.map scriptTrim
  errorUnless (step.taskId = task.taskId)
      ((if stepId = "" then "<unknown>" else stepId) ++ " belongs to a different task") ++
    errorUnless (text stepId) "stepId is required" ++
    errorUnless (text step.title) (stepId ++ " title is required") ++
    errorUnless (text step.objective) (stepId ++ " objective is required") ++
    skillSelectors step.requiredSkills (stepId ++ " requiredSkills") ++
    skillSelectors step.optionalSkills (stepId ++ " optionalSkills") ++
    (step.optionalSkills.filter fun optional => required.contains (scriptTrim optional)).map
      (fun optional => stepId ++ " Skill cannot be both required and optional: " ++ optional) ++
    errorUnless (1 ≤ step.maxAttempts ∧ step.maxAttempts ≤ 100)
      (stepId ++ " maxAttempts must be between 1 and 100") ++
    errorUnless step.dependsOn.Nodup (stepId ++ " has duplicate dependencies") ++
    step.inputArtifacts.flatMap (fun logicalName =>
      errorUnless (text logicalName) (stepId ++ " has an input artifact without logicalName")) ++
    step.expectedOutputs.flatMap (outputErrors stepId)

def validateExecutionWorkflowDefinition (definition : WorkflowDefinition) : List String :=
  let task := definition.task
  sortedErrors (errorUnless (text task.taskId) "taskId is required" ++
      errorUnless (text task.title) "task title is required" ++
      errorUnless (text task.goal) "task goal is required" ++
      errorUnless (∀ workspace ∈ task.workspace, text workspace)
        "task workspace must be null or non-empty" ++
      errorUnless (1 ≤ definition.revision) "workflow revision must be a positive integer" ++
      errorUnless (1 ≤ task.maxParallelSteps ∧ task.maxParallelSteps ≤ 256)
        "maxParallelSteps must be an integer between 1 and 256" ++
      definition.steps.flatMap (stepErrors task) ++ validateExecutionDag definition.steps)

/-! ## Scheduling -/

def dependencyReady (step : StepDefinition) (runtime : RuntimeState) : Bool :=
  step.dependsOn.all fun dependencyId =>
    (runtime.step? dependencyId).map (·.status) = some .completed

def preflightReady (preflight : Option SkillPreflight) : Bool :=
  preflight.any fun preflight =>
    preflight.state = .ready && preflight.missingRequiredSkills.isEmpty

structure SchedulePlan where
  valid : Bool
  errors : List String
  (activeCount capacity : Nat)
  (dispatchableStepIds dependencyReadyStepIds waitingStepIds capabilityBlockedStepIds : List String)
  recommendedExecutorByStep : List (String × ExecutorTarget)

def runtimeErrors (definition : WorkflowDefinition) (runtime : RuntimeState) : List String :=
  definition.steps.flatMap (fun step =>
      match runtime.step? step.stepId with
      | none => ["runtime missing for step " ++ step.stepId]
      | some current =>
        errorUnless (current.taskId = step.taskId)
          ("runtime task mismatch for step " ++ step.stepId)) ++
    runtime.steps.flatMap fun step =>
      errorUnless ((definition.step? step.stepId).isSome) ("orphan runtime " ++ step.stepId)

def planExecutionSchedule (definition : WorkflowDefinition) (runtime : RuntimeState) :
    SchedulePlan :=
  let errors := validateExecutionDag definition.steps ++ runtimeErrors definition runtime ++
    errorUnless (1 ≤ definition.task.maxParallelSteps) "maxParallelSteps must be a positive integer"
  if errors ≠ [] then ⟨false, sortedErrors errors, 0, 0, [], [], [], [], []⟩
  else
    let capacity := definition.task.maxParallelSteps - runtime.activeSteps
    let status := fun step : StepDefinition => (runtime.step? step.stepId).map (·.status)
    let preflight := fun step : StepDefinition =>
      (runtime.step? step.stepId).bind (·.skillPreflight)
    let queued := definition.steps.filter fun step =>
      [some StepStatus.pending, some .waitingDependency, some .ready].contains (status step)
    let dependencyReadySteps := queued.filter fun step => dependencyReady step runtime
    let capabilityBlocked := dependencyReadySteps.filter fun step =>
      !step.requiredSkills.isEmpty && !preflightReady (preflight step)
    let dispatchable := dependencyReadySteps.filter fun step =>
      status step = some .ready && !(capabilityBlocked.map (·.stepId)).contains step.stepId
    { valid := true
      errors := []
      activeCount := runtime.activeSteps
      capacity := capacity
      dispatchableStepIds := (dispatchable.map (·.stepId)).take capacity
      dependencyReadyStepIds := dependencyReadySteps.map (·.stepId)
      waitingStepIds :=
        (queued.filter fun step => !dependencyReady step runtime).map (·.stepId)
      capabilityBlockedStepIds := capabilityBlocked.map (·.stepId)
      recommendedExecutorByStep := dependencyReadySteps.filterMap fun step =>
        ((preflight step).bind (·.executor)).map fun executor => (step.stepId, executor) }

end Zero3Pilot.Execution
