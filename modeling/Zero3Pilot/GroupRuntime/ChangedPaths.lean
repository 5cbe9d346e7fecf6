import Zero3Pilot.GroupRuntime.DeliveryGate
import Zero3Pilot.GroupRuntime.DeliveryMaterializer

/-! # Which changed paths are audited

The gate audits the names that `git diff` prints, after trimming them and after dropping leading
dots. A path is *seen* where that leads to the text the classifier itself compares with the
patterns; the source of a detected rename is not printed, and so not seen. What is seen is owned or
excepted wherever a delivery is accepted, and what is not seen may be anything. -/

namespace Zero3Pilot.GroupRuntime

/-- **A path that is seen** by the gate: it is printed, and the audit reads its name as the
classifier does. -/
def SeenByGate {base head : Tree} (renames : DetectedRenames base head) (path : GitPath) : Prop :=
  ¬ renames.IsSource path ∧
    (gateName path.name).bind auditReading = some (classifierReading path.name)

instance {base head : Tree} (renames : DetectedRenames base head) (path : GitPath) :
    Decidable (SeenByGate renames path) :=
  inferInstanceAs (Decidable (¬ _ ∧ _))

def Allowed (session : DevelopmentSessionDefinition) (integrationExceptions : List String)
    (path : GitPath) : Prop :=
  (classifyChangedPath path.name session integrationExceptions).authority.allows

def Owned (session : DevelopmentSessionDefinition) (path : GitPath) : Prop :=
  (classifyChangedPath path.name session []).authority = .owned

section Gate

variable {Rest : Type} {host : GateHost (HandoffCheckpoint Rest)} {git : GitCommands}
  {finds : GitQuestion → Checkout} {fingerprint : Except String String}
  {input : DeliveryGateInput Rest} {base head : Tree} {renames : DetectedRenames base head}

theorem reported_of_changedPaths {changedPaths : List String}
    (reported : (git.port finds fingerprint).changedPaths input.session.baselineSha
      input.delivery.headSha = .ok changedPaths) :
    ∃ stdout, git.diff input.session.baselineSha input.delivery.headSha (finds .changedPaths) =
      .ok stdout ∧ changedPaths = readNames stdout := by
  have ensured : (git.changedPaths input.session.baselineSha input.delivery.headSha).Ensures
      (fun names _ => ∃ stdout, git.diff input.session.baselineSha input.delivery.headSha
        (finds .changedPaths) = .ok stdout ∧ names = readNames stdout)
      (fun _ _ => True) (finds .changedPaths) := by
    rw [GitCommands.changedPaths, Procedure.ensures_bind]
    refine Procedure.Ensures.ofExcept (fun _ _ => ?_) fun _ => trivial
    rw [Procedure.ensures_bind]
    refine Procedure.Ensures.ofExcept (fun _ _ => ?_) fun _ => trivial
    rw [Procedure.ensures_bind]
    refine ensures_query (fun stdout printed => ?_) fun _ => trivial
    exact (Procedure.ensures_pure _).2 ⟨stdout, printed, rfl⟩
  cases ran : git.changedPaths input.session.baselineSha input.delivery.headSha
      (finds .changedPaths) with
  | mk result after =>
    have answered : result = .ok changedPaths := by
      have same : (git.changedPaths input.session.baselineSha input.delivery.headSha
        (finds .changedPaths)).1 = .ok changedPaths := reported
      rwa [ran] at same
    rw [answered] at ran
    exact ensured.returned ran

/-- **What the gate sees is allowed** in a delivery that it accepts. -/
theorem allowed_of_seen (prints : ∀ checkout stdout,
      git.diff input.session.baselineSha input.delivery.headSha checkout = .ok stdout →
        PrintsDiff renames stdout)
    (required : input.session.deliveryPolicy.requireOwnershipValidation)
    (accepted : (verifyDevelopmentDelivery host (git.port finds fingerprint) input).Accepts)
    {path : GitPath} (differs : Differs base head path) (seen : SeenByGate renames path) :
    Allowed input.session input.integrationExceptions path := by
  obtain ⟨changedPaths, reported, valid⟩ := audited_of_accepted host required accepted
  obtain ⟨stdout, printed, rfl⟩ := reported_of_changedPaths reported
  obtain ⟨paths, rfl, listed⟩ := prints _ _ printed
  obtain ⟨isPrinted, read⟩ := seen
  rw [Option.bind_eq_some_iff] at read
  obtain ⟨name, isName, read⟩ := read
  have member : path ∈ paths := (listed path).2 ⟨differs, isPrinted⟩
  exact allows_of_valid valid (mem_normalizedPaths member isName) read

end Gate

/-- **What an audit sees is owned** wherever the controller commits it. -/
theorem owned_of_seen {git : GitCommands} (lawful : git.Lawful) {input : MaterializerInput}
    {checkout : Checkout} {path : GitPath}
    (differs : Differs checkout.head (materializeControllerCommit git input checkout).2.head path)
    (seen : SeenOnCommit (git.statusOf checkout) path) : Owned input.session path := by
  have commits : CommitsDirty input.session (git.statusOf checkout) checkout
      (materializeControllerCommit git input checkout).2 := materialize_ensures lawful checkout
  rcases commits with same | ⟨dirty, audited⟩
  · rw [same] at differs
    exact absurd rfl differs
  rcases audited with same | ⟨paths, listed, staged⟩
  · rw [same] at differs
    exact absurd rfl differs
  apply owned_of_allows
  rcases seen with read | ⟨member, read⟩
  · -- the audit of what is staged sees it
    rw [Option.bind_eq_some_iff] at read
    obtain ⟨name, isListed, read⟩ := read
    exact allows_of_valid staged (mem_readNames.2 ⟨path, (listed path).2 differs, isListed⟩) read
  · exact allows_of_valid dirty member read

/-! ## The law, and where it fails -/

/-- **Every changed path is audited, as far as it is seen.** What the gate and the controller accept is
allowed exactly if that is which they do not see. -/
theorem everyChangedPath_iff {Rest : Type} (host : GateHost (HandoffCheckpoint Rest))
    (git : GitCommands) :
    (∀ (finds : GitQuestion → Checkout) (fingerprint : Except String String)
        (input : DeliveryGateInput Rest) (base head : Tree) (renames : DetectedRenames base head),
      (∀ checkout stdout,
        git.diff input.session.baselineSha input.delivery.headSha checkout = .ok stdout →
          PrintsDiff renames stdout) →
      input.session.deliveryPolicy.requireOwnershipValidation →
      (verifyDevelopmentDelivery host (git.port finds fingerprint) input).Accepts →
      ((∀ path, Differs base head path → Allowed input.session input.integrationExceptions path) ↔
        ∀ path, Differs base head path → ¬ SeenByGate renames path →
          Allowed input.session input.integrationExceptions path)) ∧
    ∀ (input : MaterializerInput) (checkout : Checkout), git.Lawful → ((∀ path,
          Differs checkout.head (materializeControllerCommit git input checkout).2.head path →
          Owned input.session path) ↔
        ∀ path, Differs checkout.head (materializeControllerCommit git input checkout).2.head path →
          ¬ SeenOnCommit (git.statusOf checkout) path → Owned input.session path) := by
  constructor
  · intro finds fingerprint input base head renames prints required accepted
    constructor
    · exact fun every path differs _ => every path differs
    · intro unseen path differs
      by_cases seen : SeenByGate renames path
      · exact allowed_of_seen prints required accepted differs seen
      · exact unseen path differs seen
  · intro input checkout lawful
    constructor
    · exact fun every path differs _ => every path differs
    · intro unseen path differs
      by_cases seen : SeenOnCommit (git.statusOf checkout) path
      · exact owned_of_seen lawful differs seen
      · exact unseen path differs seen

/-! ### A repository -/

def twoCommits (first second : Tree) (renamed : List GitPath) : GitCommands where
  revParseHead checkout :=
    .ok (if checkout.head = first then "0000000000000000000000000000000000000001\n"
      else "0000000000000000000000000000000000000002\n")
  symbolicRef _ := .ok "work\n"
  revParseBranch _ checkout :=
    .ok (if checkout.head = first then "0000000000000000000000000000000000000001\n"
      else "0000000000000000000000000000000000000002\n")
  isAncestor _ _ _ := .ok true
  diff base head _ :=
    .ok (if base = head then "" else
      namesText ((differing first second).filter fun path => path ∉ renamed))
  status checkout := .ok (String.ofList (terminated nul
    ((differing checkout.head checkout.index).map (fun path => "M  ".toList ++ path.name.toList) ++
      (differing checkout.index checkout.files).map fun path =>
        (if checkout.index.lookup path = none then "?? " else " M ").toList ++ path.name.toList)))
  diffCached checkout := .ok (namesText (differing checkout.head checkout.index))
  add specs checkout :=
    let named (entry : GitPath × String) := specs.contains s!":(literal){entry.1.name}"
    (.ok (), { checkout with
      index := checkout.files.filter named ++ checkout.index.filter fun entry => !named entry })
  reset specs checkout :=
    let named (entry : GitPath × String) := specs.contains s!":(literal){entry.1.name}"
    (.ok (), { checkout with
      index := checkout.head.filter named ++ checkout.index.filter fun entry => !named entry })
  commit _ checkout := (.ok (), { checkout with head := checkout.index })
  localeCompare left right := compare left right

theorem twoCommits_lawful (first second : Tree) (renamed : List GitPath) :
    (twoCommits first second renamed).Lawful where
  add_head _ _ := rfl
  reset_head _ _ := rfl
  commit_head _ _ := Or.inr rfl
  diffCached_prints checkout stdout printed := by
    cases printed
    refine ⟨_, rfl, fun path => ?_⟩
    rw [mem_differing]
    simp [DetectedRenames.IsSource, DetectedRenames.none]

theorem twoCommits_prints {first second : Tree} (renames : DetectedRenames first second)
    (checkout : Checkout) (stdout : String)
    (printed : (twoCommits first second (renames.pairs.map (·.1))).diff
      "0000000000000000000000000000000000000001" "0000000000000000000000000000000000000002"
        checkout = .ok stdout) : PrintsDiff renames stdout := by
  rw [twoCommits] at printed
  dsimp only at printed
  rw [if_neg (by decide +kernel)] at printed
  cases printed
  refine ⟨_, rfl, fun path => ?_⟩
  rw [List.mem_filter, mem_differing, decide_eq_true_iff, DetectedRenames.IsSource]

def sourceSession : DevelopmentSessionDefinition where
  groupId := "g"
  sessionId := "s"
  executionId := "e"
  baselineSha := "0000000000000000000000000000000000000001"
  branch := "work"
  worktree := "/w"
  ownedPaths := ["src/**"]
  readOnlyPaths := []
  forbiddenPaths := []
  requirements := []
  permissionProfile := .standard
  deliveryPolicy := ⟨true, true, false, false⟩

/-- A delivery of the second commit. -/
def sourceDelivery : DevelopmentDelivery where
  contract := developmentDeliveryContract
  groupId := "g"
  sessionId := "s"
  executionId := "e"
  status := .completed
  baseSha := "0000000000000000000000000000000000000001"
  headSha := "0000000000000000000000000000000000000002"
  changedPaths := ["src/b"]
  requirements := []
  testsAdded := []
  testsExecuted := []
  artifacts := []
  knownIssues := []
  downstreamNotes := []
  handoffCheckpoint := none
  deliveryHash := "h"
  createdAt := "t"

def sourceInput : DeliveryGateInput Unit := ⟨sourceDelivery, sourceSession, none, []⟩

/-- A host that is not asked for a hash that matters. -/
def plainHost : GateHost (HandoffCheckpoint Unit) where
  sha256 text := text
  localeCompare left right := compare left right
  toLowerCase text := text
  resolvePath text := text
  checkpointHash checkpoint := checkpoint.checkpointHash

def documentPath : GitPath := ⟨"doc/a", by decide +kernel⟩

def sourcePath : GitPath := ⟨"src/b", by decide +kernel⟩

def cleanCheckout (tree : Tree) : Checkout := ⟨tree, tree, tree⟩

def noRenames : DetectedRenames [] [(sourcePath, "1")] := DetectedRenames.none _ _

def documentRenamed : DetectedRenames [(documentPath, "1")] [(sourcePath, "1")] :=
  ⟨[(documentPath, sourcePath)], by
    intro pair member
    rw [List.mem_singleton] at member
    subst member
    decide +kernel⟩

/-- What the executor of the session left in the worktree is committed. -/
def sourceMaterializer : MaterializerInput := ⟨"g", sourceSession, some "x", ["x"]⟩

example : (materializeControllerCommit (twoCommits [] [(sourcePath, "1")] []) sourceMaterializer
    ⟨[], [], [(sourcePath, "1")]⟩).2 = cleanCheckout [(sourcePath, "1")] := by decide +kernel

/-- The law where a source is added, and where the controller commits it. -/
theorem everyChangedPath_sample :
    Allowed sourceSession [] sourcePath ∧ Owned sourceSession sourcePath := by
  constructor
  · have law := (everyChangedPath_iff plainHost (twoCommits [] [(sourcePath, "1")] [])).1
      (fun _ => cleanCheckout [(sourcePath, "1")]) (.ok "f") sourceInput [] [(sourcePath, "1")]
      noRenames (twoCommits_prints noRenames) rfl (by decide +kernel)
    refine law.2 (fun path differs unseen => ?_) sourcePath (by decide +kernel)
    have isSource : path ∈ differing [] [(sourcePath, "1")] := mem_differing.2 differs
    have same : path = sourcePath := by
      have only : differing [] [(sourcePath, "1")] = [sourcePath] := by decide +kernel
      rw [only] at isSource
      exact List.mem_singleton.1 isSource
    subst same
    exact absurd (by decide +kernel) unseen
  · have law := (everyChangedPath_iff plainHost (twoCommits [] [(sourcePath, "1")] [])).2
      sourceMaterializer ⟨[], [], [(sourcePath, "1")]⟩ (twoCommits_lawful _ _ _)
    refine law.2 (fun path differs unseen => ?_) sourcePath (by decide +kernel)
    have isSource := mem_differing.2 differs
    have same : path = sourcePath := by
      have only : differing [] (materializeControllerCommit (twoCommits [] [(sourcePath, "1")] [])
          sourceMaterializer ⟨[], [], [(sourcePath, "1")]⟩).2.head = [sourcePath] := by
        decide +kernel
      rw [only] at isSource
      exact List.mem_singleton.1 isSource
    subst same
    exact absurd (by decide +kernel) unseen

/-- **A document that is renamed** into the sources is not seen: the delivery is accepted, and the
document is gone without anybody owning it. -/
theorem everyChangedPath_counterexample :
    (∀ checkout stdout, (twoCommits [(documentPath, "1")] [(sourcePath, "1")]
        [documentPath]).diff sourceSession.baselineSha sourceDelivery.headSha checkout =
          .ok stdout → PrintsDiff documentRenamed stdout) ∧
      sourceSession.deliveryPolicy.requireOwnershipValidation ∧
      (verifyDevelopmentDelivery plainHost
        ((twoCommits [(documentPath, "1")] [(sourcePath, "1")] [documentPath]).port
          (fun _ => cleanCheckout [(sourcePath, "1")]) (.ok "f")) sourceInput).Accepts ∧
      Differs [(documentPath, "1")] [(sourcePath, "1")] documentPath ∧
      ¬ Allowed sourceSession [] documentPath :=
  ⟨twoCommits_prints documentRenamed, rfl, by decide +kernel, by decide +kernel,
    by unfold Allowed; decide +kernel⟩

end Zero3Pilot.GroupRuntime
