import Zero3Pilot.GroupRuntime.Contracts

/-! # Who owns a path

`workspace/ownership.ts`: a changed path is normalized and compared with the glob patterns of a
session. A pattern is compiled to a regular expression; here it is the list of the parts that
expression is made of, and a part says which texts it consumes before the rest has to match. -/

namespace Zero3Pilot.GroupRuntime

/-! ## Names -/

/-- `value.replaceAll('\\', '/')`. -/
def forwardSlashes (value : List Char) : List Char :=
  value.map fun char => if char = '\\' then '/' else char

/-- `value.replace(/^\.\//, '')`: one leading `./` is removed. -/
def dropDotSlash : List Char → List Char
  | '.' :: '/' :: rest => rest
  | value => value

def normalizePath (value : String) : String :=
  String.ofList (((dropDotSlash (forwardSlashes value.toList)).dropWhile (· = '/')).rdropWhile
    (· = '/'))

/-! ## Patterns -/

/-- A part of the regular expression of a pattern. -/
inductive GlobPart where
  | directories
  | anything
  | name
  | character
  /-- A character that stands for itself. -/
  | literal (char : Char)

/-- The loop of `globToRegExp`. -/
def globParts : List Char → List GlobPart
  | '*' :: '*' :: '/' :: rest => .directories :: globParts rest
  | '*' :: '*' :: rest => .anything :: globParts rest
  | '*' :: rest => .name :: globParts rest
  | '?' :: rest => .character :: globParts rest
  | char :: rest => .literal char :: globParts rest
  | [] => []

/-- The characters a dot of a regular expression does not match. -/
def isLineTerminator (char : Char) : Bool :=
  char = '\n' || char = '\r' || char.toNat = 0x2028 || char.toNat = 0x2029

def consumes (kind : Char → Bool) (rest : List Char → Bool) : List Char → Bool
  | [] => rest []
  | char :: chars => rest (char :: chars) || (kind char && consumes kind rest chars)

def throughSlash (rest : List Char → Bool) : List Char → Bool
  | [] => false
  | char :: chars =>
    (char = '/' && rest chars) || (!isLineTerminator char && throughSlash rest chars)

def GlobPart.accepts (rest : List Char → Bool) : GlobPart → List Char → Bool
  | directories, text => rest text || throughSlash rest text
  | anything, text => consumes (!isLineTerminator ·) rest text
  | name, text => consumes (· ≠ '/') rest text
  | character, char :: chars => char ≠ '/' && rest chars
  | literal expected, char :: chars => char = expected && rest chars
  | _, [] => false

/-- `globToRegExp(pattern).test(text)`. -/
def globMatches (pattern text : String) : Bool :=
  (globParts (normalizePath pattern).toList).foldr (fun part rest => part.accepts rest)
    List.isEmpty text.toList

def firstMatch (path : String) (patterns : List String) : Option String :=
  (patterns.find? fun pattern => globMatches pattern (normalizePath path)).filter (· ≠ "")

/-! ## Authority -/

inductive PathAuthority where
  | owned
  | readOnly
  | forbidden
  | unowned
  | exception
  deriving DecidableEq

/-- How an authority is written. -/
def PathAuthority.text : PathAuthority → String
  | owned => "owned"
  | readOnly => "read_only"
  | forbidden => "forbidden"
  | unowned => "unowned"
  | exception => "exception"

def PathAuthority.allows (authority : PathAuthority) : Bool :=
  authority = .owned || authority = .exception

structure PathAuthorityRecord where
  path : String
  authority : PathAuthority
  matchedPattern : Option String

def classifyChangedPath (path : String) (session : DevelopmentSessionDefinition)
    (integrationExceptions : List String) : PathAuthorityRecord :=
  let normalized := normalizePath path
  match firstMatch normalized integrationExceptions with
  | some pattern => ⟨normalized, .exception, some pattern⟩
  | none =>
  match firstMatch normalized session.forbiddenPaths with
  | some pattern => ⟨normalized, .forbidden, some pattern⟩
  | none =>
  match firstMatch normalized session.readOnlyPaths with
  | some pattern => ⟨normalized, .readOnly, some pattern⟩
  | none =>
  match firstMatch normalized session.ownedPaths with
  | some pattern => ⟨normalized, .owned, some pattern⟩
  | none => ⟨normalized, .unowned, none⟩

structure OwnershipAudit where
  valid : Bool
  (records violations : List PathAuthorityRecord)

def auditChangedPathOwnership (changedPaths : List String) (session : DevelopmentSessionDefinition)
    (integrationExceptions : List String) : OwnershipAudit :=
  let names := (changedPaths.map normalizePath).filter (· ≠ "")
  let records := (sortTexts names.eraseDups).map fun path =>
    classifyChangedPath path session integrationExceptions
  let violations := records.filter fun record => !record.authority.allows
  ⟨violations.isEmpty, records, violations⟩

def OwnershipAudit.violationTexts (audit : OwnershipAudit) : String :=
  ", ".intercalate (audit.violations.map fun item => s!"{item.path}={item.authority.text}")

/-! ## What the classifier compares -/

def classifierReading (path : String) : String := normalizePath (normalizePath path)

/-- The text under which the audit of a name compares it with the patterns; a name that is
normalized to nothing is left out. -/
def auditReading (name : String) : Option String :=
  if normalizePath name = "" then none else some (classifierReading (normalizePath name))

theorem classify_of_reading {path other : String} (session : DevelopmentSessionDefinition)
    (integrationExceptions : List String) (same : classifierReading path = classifierReading other) :
    (classifyChangedPath path session integrationExceptions).authority =
      (classifyChangedPath other session integrationExceptions).authority := by
  have found (patterns : List String) :
      firstMatch (normalizePath path) patterns = firstMatch (normalizePath other) patterns := by
    rw [classifierReading, classifierReading] at same
    rw [firstMatch, firstMatch, same]
  simp only [classifyChangedPath, found]
  cases firstMatch (normalizePath other) integrationExceptions with
  | some pattern => rfl
  | none =>
  cases firstMatch (normalizePath other) session.forbiddenPaths with
  | some pattern => rfl
  | none =>
  cases firstMatch (normalizePath other) session.readOnlyPaths with
  | some pattern => rfl
  | none =>
  cases firstMatch (normalizePath other) session.ownedPaths with
  | some pattern => rfl
  | none => rfl

theorem mem_sortTexts {text : String} {texts : List String} :
    text ∈ sortTexts texts ↔ text ∈ texts :=
  (List.perm_insertionSort _ texts).mem_iff

/-- **A valid audit** allows each name that is not normalized to nothing. -/
theorem audit_valid_iff (changedPaths : List String) (session : DevelopmentSessionDefinition)
    (integrationExceptions : List String) :
    (auditChangedPathOwnership changedPaths session integrationExceptions).valid ↔
      ∀ name ∈ changedPaths, normalizePath name ≠ "" →
        (classifyChangedPath (normalizePath name) session
          integrationExceptions).authority.allows := by
  simp only [auditChangedPathOwnership, List.isEmpty_iff, List.filter_eq_nil_iff, List.mem_map,
    mem_sortTexts, List.mem_eraseDups, List.mem_filter]
  constructor
  · intro none name member kept
    have allowed := none _ ⟨normalizePath name, ⟨⟨name, member, rfl⟩, decide_eq_true kept⟩, rfl⟩
    simpa using allowed
  · rintro every record ⟨path, ⟨⟨name, member, rfl⟩, kept⟩, rfl⟩
    simp [every name member (of_decide_eq_true kept)]

/-- **What a valid audit allows**: each path that one of its names is read as. -/
theorem allows_of_valid {changedPaths : List String} {session : DevelopmentSessionDefinition}
    {integrationExceptions : List String} {name path : String}
    (valid : (auditChangedPathOwnership changedPaths session integrationExceptions).valid)
    (member : name ∈ changedPaths) (read : auditReading name = some (classifierReading path)) :
    (classifyChangedPath path session integrationExceptions).authority.allows := by
  rw [auditReading] at read
  by_cases gone : normalizePath name = ""
  · rw [if_pos gone] at read
    cases read
  · rw [if_neg gone] at read
    have allowed := (audit_valid_iff _ _ _).1 valid name member gone
    rwa [classify_of_reading session integrationExceptions (Option.some.inj read)] at allowed

end Zero3Pilot.GroupRuntime
