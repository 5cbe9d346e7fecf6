import Mathlib.Data.List.DropRight
import Zero3Pilot.Foundations.Patterns

/-! # The overlay patch engine, and the session-provider overlay

An overlay rewrites generated source texts and is replayed over what earlier runs left behind.
`patchOverlaySource` takes replacements one after the other: each is skipped where a marker proves that it
has been applied, and otherwise rewrites the leftmost match of the first of its candidates that matches.
In the end the copies of some texts are counted.

The session-provider overlay puts a block before an anchor at four places. A block stands between two
markers that carry the revision of its payload. The candidates are a block of any revision, what the
overlay wrote before there were markers, and the bare anchor. -/

namespace Zero3Pilot.Overlay

abbrev Source := List Char

/-! ## The engine -/

inductive Shape where
  | text (literal : Source)
  | pattern (items : Pattern)

def Shape.toPattern : Shape → Pattern
  | .text literal => [.text literal]
  | .pattern items => items

/-- What a match is replaced by: a text, or the value of a function. -/
inductive Rewrite where
  | text (literal : Source)
  | function (rewrite : Source → Source)

inductive Candidate where
  | plain (shape : Shape)
  | rewriting (shape : Shape) (target : Option Rewrite)

namespace Candidate

def shape : Candidate → Shape
  | .plain matched | .rewriting matched _ => matched

def target : Candidate → Option Rewrite
  | .plain _ => none
  | .rewriting _ rewrite => rewrite

def isFalsy : Candidate → Bool
  | .plain (.text literal) => literal.isEmpty
  | .plain (.pattern _) | .rewriting _ _ => false

end Candidate

structure Replacement where
  label : String
  shape : Option Candidate := none
  fromAny : List Candidate := []
  target : Option Rewrite := none
  appliedMarker : Option Source := none
  already : Option Source := none
  alreadyAny : List Source := []
  hint : Option String := none

structure Invariant where
  label : String
  texts : List Source
  count : Nat
  /-- The texts that are counted are not empty. -/
  nonempty : ∀ text ∈ texts, text ≠ []

def includes (source text : Source) : Bool := Pattern.test [.text text] source

namespace Replacement

variable (replacement : Replacement)

def proofs : List Source :=
  let texts := match replacement.target with
    | some (.text literal) => [literal]
    | some (.function _) | none => []
  (texts ++ replacement.appliedMarker.toList ++ replacement.already.toList ++ replacement.alreadyAny).filter
    fun text => !text.isEmpty

def candidates : List Candidate :=
  (replacement.shape.toList ++ replacement.fromAny).filter fun candidate => !candidate.isFalsy

end Replacement

/-- The text a match is replaced by; a replacement that is missing is `undefined`. -/
def rewritten (target : Option Rewrite) (matched : Source) : Source :=
  match target with
  | some (.text literal) => literal
  | some (.function rewrite) => rewrite matched
  | none => "undefined".toList

def copiesFrom (text : Source) : Nat → Source → Nat
  | _, [] => 0
  | skip + 1, _ :: source => copiesFrom text skip source
  | 0, char :: source =>
    if text.isPrefixOf (char :: source) then 1 + copiesFrom text (text.length - 1) source
    else copiesFrom text 0 source

def copies (text source : Source) : Nat := copiesFrom text 0 source

section Engine

variable (driftPrefix relativePath : String)

def driftError (replacement : Replacement) : String :=
  driftPrefix ++ " drift in " ++ relativePath ++ ": missing " ++ replacement.label ++ "." ++
    replacement.hint.elim "" fun hint => " " ++ hint

def patchStep (patched : Source) (replacement : Replacement) : Except String Source :=
  if replacement.proofs.any (includes patched) then .ok patched
  else
    match replacement.candidates.find? fun candidate => candidate.shape.toPattern.test patched with
    | none => .error (driftError driftPrefix relativePath replacement)
    | some candidate =>
      .ok (candidate.shape.toPattern.replace (rewritten (candidate.target.or replacement.target)) patched)

def copiesError (invariant : Invariant) (found : Nat) : String :=
  driftPrefix ++ " left " ++ toString found ++ " copies of " ++ invariant.label ++ " in " ++
    relativePath ++ "; expected " ++ toString invariant.count ++ "."

def assertOverlayInvariants (source : Source) : List Invariant → Except String Unit
  | [] => .ok ()
  | invariant :: invariants =>
    let found := (invariant.texts.map fun text => copies text source).foldl (· + ·) 0
    if found ≠ invariant.count then .error (copiesError driftPrefix relativePath invariant found)
    else assertOverlayInvariants source invariants

def patchOverlaySource (source : Source) (replacements : List Replacement)
    (invariants : List Invariant) : Except String Source := do
  let patched ← replacements.foldlM (patchStep driftPrefix relativePath) source
  assertOverlayInvariants driftPrefix relativePath patched invariants
  .ok patched

end Engine

/-! ## The session-provider overlay -/

/-- The places where the overlay puts a block. -/
inductive Site where
  | runtime
  | preload
  | types
  | surface

structure Revision where
  label : Source
  unstarred : '*' ∉ label

namespace Site

def kind : Site → Source
  | runtime => "runtime".toList
  | preload => "preload".toList
  | types => "types".toList
  | surface => "surface".toList

def relativePath : Site → String
  | runtime => "electron/main.ts"
  | preload => "electron/preload.ts"
  | types | surface => "src/global.d.ts"

def anchor : Site → Source
  | runtime => "const zero3AgentRuntime = new Zero3AgentRuntimeOrchestrator(\x7b".toList
  | preload => "contextBridge.exposeInMainWorld('zero3AgentTask', \x7b".toList
  | types => "type Zero3AgentTaskTarget =".toList
  | surface => "    zero3AgentTask: \x7b".toList

def label : Site → String
  | runtime => "session provider runtime before Agent orchestrator"
  | preload => "session provider preload before Agent Task bridge"
  | types => "session provider renderer types"
  | surface => "session provider renderer surface"

def invariantLabel : Site → String
  | runtime => "session provider runtime block"
  | preload => "session provider preload block"
  | types => "session provider renderer types block"
  | surface => "session provider renderer surface block"

end Site

def legacyProviderUnion : Source :=
  "type Zero3SessionProviderId = 'gpt' | 'gemini' | 'codex' | 'claude' | 'antigravity' | 'zero3'".toList

/-- What the overlay wrote before the markers existed. -/
def Site.legacyBlock (site : Site) : Pattern :=
  match site with
  | .runtime | .types =>
    [.text ('\n' :: legacyProviderUnion ++ ['\n']), .anything, .text ['\n'], .ahead site.anchor]
  | .preload =>
    [.text "contextBridge.exposeInMainWorld('zero3SessionProviders', \x7b".toList, .anything,
      .text ['\n', '\n'], .ahead site.anchor]
  | .surface =>
    [.text "    zero3SessionProviders: \x7b".toList, .anything, .text ['\n'], .ahead site.anchor]

def Site.tag (site : Site) : Source := " zero3:session-provider-".toList ++ site.kind

def markerEnd : Source := [' ', '*', '/']

structure SessionProviderMarkers where
  (start stop : Source)
  anyRevision : Pattern

def sessionProviderMarkers (site : Site) (revision : Revision) : SessionProviderMarkers where
  start := '/' :: '*' :: site.tag ++ ":start ".toList ++ revision.label ++ markerEnd
  stop := '/' :: '*' :: site.tag ++ ":end ".toList ++ revision.label ++ markerEnd
  anyRevision :=
    [.text ('/' :: '*' :: site.tag ++ ":start ".toList), .many fun char => char ≠ '*',
      .text ['*', '/'], .anything, .text ('/' :: '*' :: site.tag ++ ":end ".toList ++ ['*', '/', '\n'])]

/-- The payload without the newlines around it, between the markers. -/
def markerBlock (start stop body : Source) : Source :=
  start ++ '\n' :: ((body.dropWhile (· = '\n')).rdropWhile (· = '\n')) ++ '\n' :: stop ++ ['\n']

def sessionProviderCandidates (markers : SessionProviderMarkers) (legacyBlock : Pattern)
    (anchor block : Source) : List Candidate :=
  [.rewriting (.pattern markers.anyRevision) (some (.text block)),
    .rewriting (.pattern legacyBlock) (some (.text block)),
    .rewriting (.text anchor) (some (.text (block ++ anchor)))]

section Overlay

variable (site : Site) (revision : Revision) (payload : Source)

def sessionProviderBlock : Source :=
  let markers := sessionProviderMarkers site revision
  markerBlock markers.start markers.stop payload

def sessionProviderReplacement : Replacement :=
  let markers := sessionProviderMarkers site revision
  { label := site.label
    appliedMarker := some markers.start
    fromAny := sessionProviderCandidates markers site.legacyBlock site.anchor
      (sessionProviderBlock site revision payload) }

def sessionProviderInvariant : Invariant where
  label := site.invariantLabel
  texts := [(sessionProviderMarkers site revision).start]
  count := 1
  nonempty := by simp [sessionProviderMarkers]

/-- **The overlay at one of its places.** -/
def applySessionProvider (source : Source) : Except String Source :=
  patchOverlaySource "Zero3 overlay" site.relativePath source
    [sessionProviderReplacement site revision payload] [sessionProviderInvariant site revision]

end Overlay

end Zero3Pilot.Overlay
