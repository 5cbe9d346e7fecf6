import Zero3Pilot.GroupRuntime.Ownership
import Zero3Pilot.Foundations.Procedure
import Zero3Pilot.Foundations.Lines

/-! # Trees and the Git adapter

`workspace/git-workspace.ts` asks the program `git` and reads what it prints. Trees are finite maps
from the paths Git allows to entries; what `git` prints of two trees is told by a relation, and the
adapter reads it as the source does. -/

namespace Zero3Pilot.GroupRuntime

open Procedure (ofExcept)

/-! ## Trees -/

def nul : Char := Char.ofNat 0

/-- Git keeps a name: no component is empty, a dot directory or Git's own. -/
def IsGitPath (name : String) : Prop :=
  nul ∉ name.toList ∧
    ∀ component ∈ name.toList.splitOn '/', component ∉ ["", ".", "..", ".git"].map String.toList

instance (name : String) : Decidable (IsGitPath name) := inferInstanceAs (Decidable (_ ∧ _))

/-- **A path of a tree.** -/
structure GitPath where
  name : String
  allowed : IsGitPath name
  deriving DecidableEq

/-- **A tree**: the mode and the object of each path. -/
abbrev Tree := List (GitPath × String)

def Differs (base head : Tree) (path : GitPath) : Prop := base.lookup path ≠ head.lookup path

instance (base head : Tree) (path : GitPath) : Decidable (Differs base head path) :=
  inferInstanceAs (Decidable (_ ≠ _))

def differing (base head : Tree) : List GitPath :=
  ((base ++ head).map (·.1)).eraseDups.filter fun path => Differs base head path

theorem mem_differing {base head : Tree} {path : GitPath} :
    path ∈ differing base head ↔ Differs base head path := by
  rw [differing, List.mem_filter, decide_eq_true_iff, List.mem_eraseDups, List.map_append,
    List.mem_append]
  constructor
  · exact fun listed => listed.2
  · intro differs
    refine ⟨?_, differs⟩
    by_contra absent
    rw [not_or] at absent
    -- a path that is in neither tree has no entry in both
    have none (tree : Tree) (away : path ∉ tree.map (·.1)) : tree.lookup path = none := by
      rw [List.lookup_eq_none_iff]
      intro entry member
      rw [bne_iff_ne]
      intro same
      exact away (List.mem_map.2 ⟨entry, member, same.symm⟩)
    exact differs (by rw [none base absent.1, none head absent.2])

/-! ## What Git prints -/

/-- **Renames that were detected**: each one moves an entry from a path that is gone to a new one. -/
structure DetectedRenames (base head : Tree) where
  pairs : List (GitPath × GitPath)
  moved : ∀ pair ∈ pairs, base.lookup pair.1 ≠ none ∧ head.lookup pair.1 = none ∧
    base.lookup pair.2 = none ∧ head.lookup pair.2 ≠ none

def DetectedRenames.IsSource {base head : Tree} (renames : DetectedRenames base head)
    (path : GitPath) : Prop :=
  path ∈ renames.pairs.map (·.1)

instance {base head : Tree} (renames : DetectedRenames base head) (path : GitPath) :
    Decidable (renames.IsSource path) :=
  inferInstanceAs (Decidable (_ ∈ _))

def DetectedRenames.none (base head : Tree) : DetectedRenames base head :=
  ⟨[], by intro pair member; cases member⟩

/-- Raw names, each one ended. -/
def namesText (paths : List GitPath) : String :=
  String.ofList (terminated nul (paths.map fun path => path.name.toList))

/-- **What `git diff --name-only -z` prints**: the paths that differ, of a detected rename the
destination only. -/
def PrintsDiff {base head : Tree} (renames : DetectedRenames base head) (stdout : String) : Prop :=
  ∃ paths, stdout = namesText paths ∧
    ∀ path, path ∈ paths ↔ Differs base head path ∧ ¬ renames.IsSource path

/-! ## What the adapter reads -/

/-- `value.replaceAll('\\', '/')`. -/
def withForwardSlashes (value : String) : String := String.ofList (forwardSlashes value.toList)

def nulFields (text : String) : List String := (text.toList.splitOn nul).map String.ofList

def parseNulList (text : String) : List String :=
  ((nulFields text).map scriptTrim).filter (· ≠ "")

def readNames (stdout : String) : List String :=
  sortTexts ((parseNulList stdout).map withForwardSlashes).eraseDups

structure GitStatusEntry where
  (status path : String)
  originalPath : Option String

def dropChars (n : Nat) (text : String) : String := String.ofList (text.toList.drop n)

/-- The loop of `status`. -/
def parseStatus : List String → List GitStatusEntry
  | [] => []
  | [token] =>
    [⟨String.ofList (token.toList.take 2), withForwardSlashes (dropChars 3 token), none⟩]
  | token :: next :: rest =>
    let status := String.ofList (token.toList.take 2)
    let path := withForwardSlashes (dropChars 3 token)
    if status.toList.head? = some 'R' ∨ status.toList.head? = some 'C' then
      ⟨status, path, some (withForwardSlashes next)⟩ :: parseStatus rest
    else ⟨status, path, none⟩ :: parseStatus (next :: rest)

/-- The entries of a printed status, sorted by their paths. -/
def readStatus (localeCompare : String → String → Ordering) (stdout : String) :
    List GitStatusEntry :=
  (parseStatus ((nulFields stdout).filter (· ≠ ""))).mergeSort fun left right =>
    localeCompare left.path right.path ≠ .gt

def assertSha (value name : String) : Except String Unit :=
  ensure (isSha value) s!"{name} must be an exact 40-character Git SHA"

/-- A control character that no branch, path or message has. -/
def breaksLine (char : Char) : Bool := char = nul || char = '\r' || char = '\n'

def assertBranch (value : String) : Except String String := do
  let branch := scriptTrim value
  ensure (branch ≠ "" ∧ branch.toList.head? ≠ some '-' ∧ branch.toList.all (!breaksLine ·))
    "branch is invalid"
  return branch

/-- A printed commit id. -/
def readSha (stdout name : String) : Except String String := do
  assertSha (scriptTrim stdout) name
  return scriptTrim stdout

/-- A path that stays in the repository. -/
def isSafePath (path : List Char) : Bool :=
  path ≠ [] && path.all (!breaksLine ·) && path.head? ≠ some '/' && (match path with
      | drive :: ':' :: '/' :: _ => !drive.isAlpha
      | _ => true) &&
    ['.', '.'] ∉ path.splitOn '/'

def safeRelativePaths (paths : List String) : Except String (List String) := do
  let values := (paths.map withForwardSlashes).eraseDups
  ensure (values ≠ []) "at least one Git path is required"
  values.forM fun normalized =>
    ensure (isSafePath normalized.toList) s!"unsafe Git path: {String.ofList (Json.quote normalized)}"
  return values

def pathspecs (paths : List String) : Except String (List String) := do
  let values ← safeRelativePaths paths
  return values.map fun path => s!":(literal){path}"

/-! ## The program and the adapter -/

/-- **A checkout**: the trees of the last commit, of the index and of the files. -/
structure Checkout where
  (head index files : Tree)
  deriving DecidableEq

/-- The program `git`, run in a checkout: what it prints, or why it fails, and what it changes. -/
structure GitCommands where
  (revParseHead symbolicRef : Checkout → Except String String)
  revParseBranch : String → Checkout → Except String String
  /-- `merge-base --is-ancestor`: whether it ends with 0 or 1. -/
  isAncestor : String → String → Checkout → Except String Bool
  /-- `diff --name-only -z <base>..<head>`. -/
  diff : String → String → Checkout → Except String String
  /-- `status --porcelain=v1 -z --untracked-files=all`. -/
  status : Checkout → Except String String
  diffCached : Checkout → Except String String
  add : List String → Procedure Checkout String Unit
  /-- `reset --mixed HEAD -- <pathspecs>`. -/
  reset : List String → Procedure Checkout String Unit
  /-- `commit -m <subject>`. -/
  commit : String → Procedure Checkout String Unit
  localeCompare : String → String → Ordering

namespace GitCommands

variable (git : GitCommands)

/-- What a command that changes nothing prints. -/
def query {α : Type} (command : Checkout → Except String α) : Procedure Checkout String α := do
  ofExcept (command (← Procedure.read))

def resolveHead : Procedure Checkout String String := do
  let stdout ← query git.revParseHead
  ofExcept (readSha stdout "HEAD")

def currentBranch : Procedure Checkout String String := do
  let stdout ← query git.symbolicRef
  ofExcept (assertBranch (scriptTrim stdout))

def branchHead (branch : String) : Procedure Checkout String String := do
  let name ← ofExcept (assertBranch branch)
  let stdout ← query (git.revParseBranch name)
  ofExcept (readSha stdout "branch head")

def isAncestorOf (baseSha headSha : String) : Procedure Checkout String Bool := do
  ofExcept (assertSha baseSha "baseSha")
  ofExcept (assertSha headSha "headSha")
  query (git.isAncestor baseSha headSha)

def changedPaths (baseSha headSha : String) : Procedure Checkout String (List String) := do
  ofExcept (assertSha baseSha "baseSha")
  ofExcept (assertSha headSha "headSha")
  let stdout ← query (git.diff baseSha headSha)
  return readNames stdout

def statusEntries : Procedure Checkout String (List GitStatusEntry) := do
  let stdout ← query git.status
  return readStatus git.localeCompare stdout

def stagePaths (paths : List String) : Procedure Checkout String Unit := do
  let specs ← ofExcept (pathspecs paths)
  git.add specs

def stagedPaths : Procedure Checkout String (List String) := do
  let stdout ← query git.diffCached
  return readNames stdout

def unstagePaths (paths : List String) : Procedure Checkout String Unit := do
  let specs ← ofExcept (pathspecs paths)
  git.reset specs

def commitStaged (message : String) : Procedure Checkout String String := do
  let subject := scriptTrim message
  Procedure.check (subject ≠ "" ∧ utf16Length subject ≤ 512 ∧ subject.toList.all (!breaksLine ·))
    "Git commit message is invalid"
  git.commit subject
  git.resolveHead

end GitCommands

/-! ## The names that are read -/

/-- The name under which a printed path is read; a path of blanks is left out. -/
def listedName (name : String) : Option String :=
  if scriptTrim name = "" then none else some (withForwardSlashes (scriptTrim name))

theorem nulFields_namesText (paths : List GitPath) :
    nulFields (namesText paths) = paths.map (·.name) ++ [""] := by
  have free : ∀ field ∈ paths.map fun path => path.name.toList, nul ∉ field := by
    intro field member
    obtain ⟨path, -, rfl⟩ := List.mem_map.1 member
    exact path.allowed.1
  rw [nulFields, namesText, String.toList_ofList, splitOn_terminated free, List.map_append,
    List.map_map]
  simp [Function.comp_def]

/-- **The names that are read** of a printed list of paths. -/
theorem mem_readNames {paths : List GitPath} {name : String} :
    name ∈ readNames (namesText paths) ↔ ∃ path ∈ paths, listedName path.name = some name := by
  rw [readNames, mem_sortTexts, List.mem_eraseDups, parseNulList, nulFields_namesText]
  simp only [List.mem_map, List.mem_filter, decide_eq_true_iff, List.mem_append,
    List.mem_singleton, listedName]
  constructor
  · rintro ⟨trimmed, ⟨⟨raw, member, rfl⟩, kept⟩, rfl⟩
    rcases member with ⟨path, member, rfl⟩ | rfl
    · exact ⟨path, member, if_neg kept⟩
    · exact absurd (by decide) kept
  · rintro ⟨path, member, read⟩
    by_cases blank : scriptTrim path.name = ""
    · rw [if_pos blank] at read
      cases read
    · rw [if_neg blank] at read
      exact ⟨scriptTrim path.name, ⟨⟨path.name, Or.inl ⟨path, member, rfl⟩, rfl⟩, blank⟩,
        Option.some.inj read⟩

end Zero3Pilot.GroupRuntime
