import Zero3Pilot.Execution.Agreement
import Zero3Pilot.Lifecycle.Holdings

/-! # Who holds a step

A session holds a step by its active claim, and the step is assigned under that claim. The row of the
session, the claim and the mark of the step are three records of it; this is how they agree between
the operations, and how they come to agree again when a claim is made or given up. -/

namespace Zero3Pilot.Lifecycle

open List (all_eq_true map_map mem_append mem_map mem_singleton)
open Execution (StepMark TaskDirectory Touches isIdChar requiredId safeId)

/-! ## Identifiers -/

/-- A text that is its own identifier. -/
structure IsId (id : String) : Prop where
  chars : ∀ char ∈ id.toList, isIdChar char = true
  bounded : id.toList ≠ [] ∧ id.toList.length ≤ 256

theorem isId_of_requiredId {value : ScriptValue} {label id : String}
    (checked : requiredId value label = .ok id) : IsId id := by
  simp only [requiredId, bind_ok, ensure_ok, pure_ok] at checked
  obtain ⟨_, checked, rfl⟩ := checked
  exact ⟨fun char member => all_eq_true.1 checked.2.2 char member, checked.1, checked.2.1⟩

section Ids

variable {id : String} (valid : IsId id)

include valid

theorem IsId.trimmed : scriptTrim id = id :=
  trimWith_eq_self fun char member => Execution.not_isScriptWhitespace (valid.chars char member)

theorem IsId.textId (label : String) : textId id label = .ok id := by
  rw [Lifecycle.textId, idOf, requiredId]
  simp only [ScriptValue.text?, Option.getD_some, valid.trimmed]
  rw [ensure, if_pos ⟨valid.bounded.1, valid.bounded.2, all_eq_true.2 valid.chars⟩]
  rfl

theorem IsId.safe {label name : String} (safe : safeId id label = .ok name) : name = id := by
  simp only [safeId, bind_ok, ensure_ok, pure_ok, valid.trimmed] at safe
  obtain ⟨_, _, rfl⟩ := safe
  rfl

end Ids

theorem isIdChar_of_isUuidChar {char : Char} (uuidChar : isUuidChar char = true) :
    isIdChar char = true := by
  rcases isAlphanum_of_isUuidChar uuidChar with alphanum | rfl
  · simp [isIdChar, alphanum]
  · decide

theorem isId_drawn {kind : String} (chars : kind.toList.all isIdChar = true)
    (short : kind.toList.length ≤ 100) (uuid : Uuid) : IsId (kind ++ uuid.text) where
  chars := by
    intro char member
    rw [String.toList_append] at member
    rcases mem_append.1 member with member | member
    · exact all_eq_true.1 chars char member
    · exact isIdChar_of_isUuidChar (all_eq_true.1 uuid.plain char member)
  bounded := by
    have length := uuid.length
    rw [String.toList_append]
    constructor
    · intro empty
      rw [(List.append_eq_nil_iff.1 empty).2] at length
      simp at length
    · rw [List.length_append]
      omega

/-! ## Holding a step -/

def Holdings.mark? (holdings : Holdings) (taskId stepId : String) : Option StepMark :=
  (holdings.task? taskId).bind fun directory => directory.mark? stepId

def Holdings.settingsOf (holdings : Holdings) (taskId : String) : TaskSettings :=
  (holdings.settings.lookup taskId).getD ⟨none, false⟩

/-- **A session holds a step**: it has an active claim of the step, under the assignment of the
step. -/
def Holds (holdings : Holdings) (sessionId taskId stepId : String) : Prop :=
  ∃ claim ∈ holdings.claims, claim.state = .active ∧ claim.sessionId = sessionId ∧
    claim.taskId = taskId ∧ claim.stepId = some stepId ∧
    ∃ mark, holdings.mark? taskId stepId = some mark ∧ mark.assignmentId ≠ none ∧
      claim.assignmentId = mark.assignmentId

/-- **A step was acted on**: work was recorded about it, or it changed its status otherwise than by
being assigned. -/
def Acted (before after : Holdings) (taskId stepId : String) : Prop :=
  ∃ directory changed, before.task? taskId = some directory ∧ after.task? taskId = some changed ∧
    ((∃ event ∈ changed.events.drop directory.events.length,
        event.type.isWork = true ∧ event.stepId = some stepId) ∨
      ∃ mark, changed.mark? stepId = some mark ∧ mark.status ≠ .dispatching ∧
        (directory.mark? stepId).map (·.status) ≠ some mark.status)

/-! ## What operations leave behind -/

/-- **An operation of a session** changes the tasks about one step of its task. -/
structure Moved (taskId : String) (about : Option String) (before after : Holdings) : Prop where
  settings : ∀ name directory, before.task? name = some directory →
    after.settingsOf name = before.settingsOf name
  tasks : ∀ name directory, before.task? name = some directory →
    ∃ changed, after.task? name = some changed ∧
      Touches (if name = taskId then about else none) directory changed

section Moved

variable {taskId : String} {about : Option String} {before between after : Holdings}

instance : IsPreorder Holdings (Moved taskId about) where
  refl holdings := ⟨fun _ _ _ => rfl, fun _ directory found => ⟨directory, found, .refl _ _⟩⟩
  trans before between after first second := by
    refine ⟨fun name directory found => ?_, fun name directory found => ?_⟩
    · obtain ⟨changed, isChanged, -⟩ := first.tasks name directory found
      rw [second.settings name changed isChanged, first.settings name directory found]
    · obtain ⟨changed, isChanged, touches⟩ := first.tasks name directory found
      obtain ⟨last, isLast, further⟩ := second.tasks name changed isChanged
      exact ⟨last, isLast, touches.trans further⟩

theorem Moved.acted (moved : Moved taskId about before after) {name stepId : String}
    (acted : Acted before after name stepId) : name = taskId ∧ about = some stepId := by
  obtain ⟨directory, changed, found, isChanged, acted⟩ := acted
  obtain ⟨changed', isChanged', touches⟩ := moved.tasks name directory found
  rw [isChanged] at isChanged'
  obtain rfl := Option.some.inj isChanged'
  have isAbout : (if name = taskId then about else none) = some stepId := by
    rcases acted with ⟨event, member, work, isStep⟩ | ⟨mark, marked, -, differs⟩
    · obtain ⟨later, added, works⟩ := touches.events
      rw [added, List.drop_left] at member
      rw [← isStep]
      exact ((works event member work).2).symm
    · by_contra other
      rw [← touches.others stepId other, marked] at differs
      exact differs rfl
  by_cases named : name = taskId
  · rw [if_pos named] at isAbout
    exact ⟨named, isAbout⟩
  · rw [if_neg named] at isAbout
    cases isAbout

theorem Moved.of_attends (moved : Moved taskId none before after) (about : Option String) :
    Moved taskId about before after := by
  refine ⟨moved.settings, fun name directory found => ?_⟩
  obtain ⟨changed, isChanged, touches⟩ := moved.tasks name directory found
  refine ⟨changed, isChanged, ?_⟩
  have attends : Execution.Attends directory changed := by
    rw [ite_self] at touches
    exact touches
  exact attends.of_attends _

theorem Moved.mode (moved : Moved taskId about before after) {name : String}
    {directory changed : TaskDirectory} (found : before.task? name = some directory)
    (isChanged : after.task? name = some changed) :
    claimMode ⟨after.settingsOf name, changed⟩ = claimMode ⟨before.settingsOf name, directory⟩ := by
  obtain ⟨changed', isChanged', touches⟩ := moved.tasks name directory found
  rw [isChanged] at isChanged'
  obtain rfl := Option.some.inj isChanged'
  rw [claimMode, claimMode, moved.settings name directory found, touches.definition]

end Moved

def Proceeds (before after : StepMark) : Prop :=
  after.assignmentId = before.assignmentId ∧
    (after.status = before.status ∨ after.status ∉ [Execution.StepStatus.ready, .fixRequired])

/-- **What work on a step leaves behind**: the rows, and every step goes on. -/
structure Worked (taskId : String) (about : Option String) (before after : Holdings) : Prop
    extends Moved taskId about before after where
  rows : after.toHeldRows = before.toHeldRows
  marks : ∀ name stepId mark, before.mark? name stepId = some mark →
    ∃ changed, after.mark? name stepId = some changed ∧ Proceeds mark changed

instance {taskId : String} {about : Option String} : IsPreorder Holdings (Worked taskId about) where
  refl holdings :=
    { toMoved := refl_of (Moved taskId about) holdings
      rows := rfl
      marks := fun _ _ mark marked => ⟨mark, marked, rfl, Or.inl rfl⟩ }
  trans before between after first second :=
    { toMoved := trans_of (Moved taskId about) first.toMoved second.toMoved
      rows := second.rows.trans first.rows
      marks := by
        intro name stepId mark marked
        obtain ⟨changed, isChanged, kept, status⟩ := first.marks name stepId mark marked
        obtain ⟨last, isLast, keeps, became⟩ := second.marks name stepId changed isChanged
        refine ⟨last, isLast, keeps.trans kept, ?_⟩
        rcases became with same | closed
        · rw [same]
          exact status
        · exact Or.inr closed }

theorem Worked.of_attends {taskId : String} {before after : Holdings}
    (worked : Worked taskId none before after) (about : Option String) :
    Worked taskId about before after :=
  ⟨worked.toMoved.of_attends about, worked.rows, worked.marks⟩

/-! ## The agreement of the records -/

/-- **The rows agree**: every active claim is the one its session's row speaks of, and every answer
speaks of a claim. -/
structure RowsFit (rows : HeldRows) : Prop where
  sessionIds : (rows.sessions.map (·.sessionId)).Nodup
  ids : ∀ session ∈ rows.sessions,
    IsId session.sessionId ∧ IsId session.taskId ∧ IsId session.agentId
  claimIds : (rows.claims.map (·.claimId)).Nodup
  owner : ∀ claim ∈ rows.claims, claim.state = .active → ∃ session ∈ rows.sessions,
    session.sessionId = claim.sessionId ∧ session.taskId = claim.taskId ∧
      session.stepId = claim.stepId
  single : ∀ claim ∈ rows.claims, ∀ other ∈ rows.claims, claim.state = .active →
    other.state = .active → claim.sessionId = other.sessionId → claim = other
  answers : ∀ row ∈ rows.answers, row.operation = "task.claim" →
    ∀ answer, row.response = .taskClaim answer → ∀ claim, answer.claim? = some claim → (answer.state = "CLAIMED" → claim.stepId ≠ none) ∧
      ∃ known ∈ rows.claims, known.claimId = claim.claimId ∧ known.stepId = claim.stepId

/-- **The claims agree with the tasks**, whose claimed steps are assigned under their claims. -/
structure TasksFit (holdings : Holdings) : Prop where
  known : ∀ claim ∈ holdings.claims, claim.state = .active →
    (holdings.task? claim.taskId).isSome = true
  alone : ∀ claim ∈ holdings.claims, ∀ other ∈ holdings.claims, claim.state = .active →
    other.state = .active → claim.taskId = other.taskId → claim.stepId = other.stepId →
    claim.stepId ≠ none → claim = other
  assigned : ∀ claim ∈ holdings.claims, claim.state = .active → ∀ stepId,
    claim.stepId = some stepId → ∃ mark, holdings.mark? claim.taskId stepId = some mark ∧
      mark.assignmentId ≠ none ∧ claim.assignmentId = mark.assignmentId ∧
      mark.status ∉ [Execution.StepStatus.ready, .fixRequired]
  exclusive : ∀ taskId directory, holdings.task? taskId = some directory →
    claimMode ⟨holdings.settingsOf taskId, directory⟩ = .exclusive →
    ∀ claim ∈ holdings.claims, ∀ other ∈ holdings.claims, claim.state = .active →
      other.state = .active → claim.taskId = taskId → other.taskId = taskId →
      claim.sessionId = other.sessionId

/-- **The records of who holds a step agree.** -/
structure Owned (holdings : Holdings) : Prop where
  rows : RowsFit holdings.toHeldRows
  tasks : TasksFit holdings

section Agreement

variable {taskId : String} {about : Option String} {before after : Holdings}

theorem TasksFit.holds (fits : TasksFit before) {claim : AgentLifecycleClaim} {stepId : String}
    (member : claim ∈ before.claims) (active : claim.state = .active)
    (isStep : claim.stepId = some stepId) : Holds before claim.sessionId claim.taskId stepId := by
  obtain ⟨mark, marked, assigned, same, -⟩ := fits.assigned claim member active stepId isStep
  exact ⟨claim, member, active, rfl, rfl, isStep, mark, marked, assigned, same⟩

/-- **The tasks move on**, and no new claims are active: a step that is still claimed goes on. -/
theorem TasksFit.moved (fits : TasksFit before) (moved : Moved taskId about before after)
    (active : ∀ claim ∈ after.claims, claim.state = .active → claim ∈ before.claims)
    (proceeds : ∀ claim ∈ after.claims, claim.state = .active → ∀ stepId mark,
      claim.stepId = some stepId → before.mark? claim.taskId stepId = some mark →
      ∃ changed, after.mark? claim.taskId stepId = some changed ∧ Proceeds mark changed) :
    TasksFit after where
  known claim member isActive := by
    have known := fits.known claim (active claim member isActive) isActive
    obtain ⟨directory, found⟩ := Option.isSome_iff_exists.1 known
    obtain ⟨changed, isChanged, -⟩ := moved.tasks _ directory found
    rw [isChanged]
    rfl
  alone claim member other isOther isActive otherActive :=
    fits.alone claim (active claim member isActive) other (active other isOther otherActive) isActive
      otherActive
  assigned claim member isActive stepId isStep := by
    obtain ⟨mark, marked, assigned, same, closed⟩ :=
      fits.assigned claim (active claim member isActive) isActive stepId isStep
    obtain ⟨changed, isChanged, kept, status⟩ :=
      proceeds claim member isActive stepId mark isStep marked
    refine ⟨changed, isChanged, ?_, ?_, ?_⟩
    · rw [kept]
      exact assigned
    · rw [kept]
      exact same
    · rcases status with unchanged | still
      · rw [unchanged]
        exact closed
      · exact still
  exclusive name changed isChanged mode claim member other isOther isActive otherActive named
      otherNamed := by
    have known := fits.known claim (active claim member isActive) isActive
    obtain ⟨directory, found⟩ := Option.isSome_iff_exists.1 known
    rw [named] at found
    rw [moved.mode found isChanged] at mode
    exact fits.exclusive name directory found mode claim (active claim member isActive) other
      (active other isOther otherActive) isActive otherActive named otherNamed

/-- **Work on a step** keeps the agreement. -/
theorem Worked.owned (worked : Worked taskId about before after) (owned : Owned before) :
    Owned after where
  rows := worked.rows ▸ owned.rows
  tasks := by
    have claims : after.claims = before.claims := congrArg HeldRows.claims worked.rows
    refine owned.tasks.moved worked.toMoved (fun claim member _ => claims ▸ member) ?_
    intro claim _ _ stepId mark _ marked
    exact worked.marks claim.taskId stepId mark marked

theorem Moved.mark? (moved : Moved taskId about before after) {name stepId : String}
    {mark : StepMark} (other : name = taskId → about ≠ some stepId)
    (marked : before.mark? name stepId = some mark) : after.mark? name stepId = some mark := by
  obtain ⟨directory, found, isMark⟩ := Option.bind_eq_some_iff.1 marked
  obtain ⟨changed, isChanged, touches⟩ := moved.tasks name directory found
  have unrelated : (if name = taskId then about else none) ≠ some stepId := by
    by_cases named : name = taskId
    · rw [if_pos named]
      exact other named
    · rw [if_neg named]
      exact (Option.some_ne_none stepId).symm
  rw [Holdings.mark?, isChanged, Option.bind_some, touches.others stepId unrelated]
  exact isMark

/-! ## Giving up a claim -/

def relinquish (claimId : String) (ended : LifecycleClaimState)
    (claims : List AgentLifecycleClaim) : List AgentLifecycleClaim :=
  claims.map fun claim => if claim.claimId = claimId then { claim with state := ended } else claim

theorem mem_relinquish {claimId : String} {ended : LifecycleClaimState}
    {claims : List AgentLifecycleClaim} (inactive : ended ≠ .active) {claim : AgentLifecycleClaim}
    (member : claim ∈ relinquish claimId ended claims) (active : claim.state = .active) :
    claim ∈ claims ∧ claim.claimId ≠ claimId := by
  obtain ⟨earlier, isEarlier, rfl⟩ := mem_map.1 member
  by_cases named : earlier.claimId = claimId
  · rw [if_pos named] at active
    exact absurd active inactive
  · rw [if_neg named]
    exact ⟨isEarlier, named⟩

theorem RowsFit.relinquished {rows : HeldRows} (fits : RowsFit rows) (claimId : String)
    {ended : LifecycleClaimState} (inactive : ended ≠ .active) :
    RowsFit { rows with claims := relinquish claimId ended rows.claims } where
  sessionIds := fits.sessionIds
  ids := fits.ids
  claimIds := by
    have same : (relinquish claimId ended rows.claims).map (·.claimId) =
        rows.claims.map (·.claimId) := by
      rw [relinquish, map_map]
      apply List.map_congr_left
      intro claim _
      by_cases named : claim.claimId = claimId
      · simp [named]
      · simp [named]
    show ((relinquish claimId ended rows.claims).map (·.claimId)).Nodup
    rw [same]
    exact fits.claimIds
  owner claim member active := fits.owner claim (mem_relinquish inactive member active).1 active
  single claim member other isOther active otherActive :=
    fits.single claim (mem_relinquish inactive member active).1 other
      (mem_relinquish inactive isOther otherActive).1 active otherActive
  answers row member ofClaim answer isAnswer claim isClaim := by
    obtain ⟨assigned, known, isKnown, named, isStep⟩ :=
      fits.answers row member ofClaim answer isAnswer claim isClaim
    refine ⟨assigned, _, List.mem_map_of_mem isKnown, ?_, ?_⟩
    · by_cases ends : known.claimId = claimId
      · rw [if_pos ends]
        exact named
      · rw [if_neg ends]
        exact named
    · by_cases ends : known.claimId = claimId
      · rw [if_pos ends]
        exact isStep
      · rw [if_neg ends]
        exact isStep

/-- **A claim is given up**, together with its step, whatever has become of that step. -/
theorem Owned.relinquished (owned : Owned before) {current : AgentLifecycleClaim}
    (member : current ∈ before.claims) (active : current.state = .active)
    {ended : LifecycleClaimState} (inactive : ended ≠ .active)
    (moved : Moved current.taskId current.stepId before after)
    (rows : after.toHeldRows =
      { before.toHeldRows with claims := relinquish current.claimId ended before.claims }) :
    Owned after where
  rows := rows ▸ owned.rows.relinquished current.claimId inactive
  tasks := by
    have claims : after.claims = relinquish current.claimId ended before.claims :=
      congrArg HeldRows.claims rows
    refine owned.tasks.moved moved (fun claim isClaim isActive => ?_) ?_
    · rw [claims] at isClaim
      exact (mem_relinquish inactive isClaim isActive).1
    · intro claim isClaim isActive stepId mark isStep marked
      rw [claims] at isClaim
      obtain ⟨known, differs⟩ := mem_relinquish inactive isClaim isActive
      -- a step is claimed once, so that the step of another claim is another step
      refine ⟨mark, moved.mark? (fun named same => differs ?_) marked, rfl, Or.inl rfl⟩
      have alike : claim.stepId = current.stepId := isStep.trans same.symm
      rw [owned.tasks.alone claim known current member isActive active named alike
        (isStep ▸ Option.some_ne_none stepId)]

/-! ## Making a claim -/

def Unclaimed (holdings : Holdings) (taskId stepId : String) : Prop :=
  ∀ claim ∈ holdings.claims, claim.state = .active → claim.taskId = taskId →
    claim.stepId ≠ some stepId

theorem TasksFit.unclaimed (fits : TasksFit before) {name stepId : String} {mark : StepMark}
    (marked : before.mark? name stepId = some mark)
    (open_ : mark.status ∈ [Execution.StepStatus.ready, .fixRequired]) :
    Unclaimed before name stepId := by
  intro claim member active named isStep
  obtain ⟨assigned, isMark, -, -, closed⟩ := fits.assigned claim member active stepId isStep
  rw [named, marked] at isMark
  obtain rfl := Option.some.inj isMark
  exact closed open_

/-- **A step that is not claimed** may be assigned. -/
theorem Owned.assigned (owned : Owned before) {stepId : String}
    (unclaimed : Unclaimed before taskId stepId) (moved : Moved taskId (some stepId) before after)
    (rows : after.toHeldRows = before.toHeldRows) : Owned after where
  rows := rows ▸ owned.rows
  tasks := by
    have claims : after.claims = before.claims := congrArg HeldRows.claims rows
    refine owned.tasks.moved moved (fun claim member _ => claims ▸ member) ?_
    intro claim member active other mark isStep marked
    rw [claims] at member
    refine ⟨mark, moved.mark? (fun named same => ?_) marked, rfl, Or.inl rfl⟩
    exact unclaimed claim member active named (isStep.trans same.symm)

/-- The rows of the sessions with one of them bound. -/
def rebind (sessionId : String) (stepId assignmentId bindingId : Option String)
    (sessions : List AgentLifecycleSession) : List AgentLifecycleSession :=
  sessions.map fun session =>
    if session.sessionId = sessionId then { session with stepId, assignmentId, bindingId }
    else session

theorem map_rebind {α : Type} {sessionId : String} {stepId assignmentId bindingId : Option String}
    (sessions : List AgentLifecycleSession) (part : AgentLifecycleSession → α)
    (kept : ∀ session : AgentLifecycleSession,
      part { session with stepId, assignmentId, bindingId } = part session) :
    (rebind sessionId stepId assignmentId bindingId sessions).map part = sessions.map part := by
  rw [rebind, map_map]
  apply List.map_congr_left
  intro session _
  rw [Function.comp_apply]
  by_cases named : session.sessionId = sessionId
  · rw [if_pos named, kept]
  · rw [if_neg named]

structure NewClaim (before : Holdings) (session : AgentLifecycleSession)
    (claim : AgentLifecycleClaim) : Prop where
  known : ∃ row ∈ before.sessions, row.sessionId = session.sessionId ∧ row.taskId = session.taskId
  active : claim.state = .active
  ofSession : claim.sessionId = session.sessionId
  ofTask : claim.taskId = session.taskId
  free : ∀ other ∈ before.claims, other.state = .active → other.sessionId ≠ session.sessionId
  fresh : ∀ other ∈ before.claims, other.claimId ≠ claim.claimId
  mode : ∀ directory, before.task? session.taskId = some directory →
    claimMode ⟨before.settingsOf session.taskId, directory⟩ = .exclusive →
    ∀ other ∈ before.claims, other.state = .active → other.taskId = session.taskId →
      other.sessionId = session.sessionId

/-- **A claim is made** by a session that has none. -/
theorem Owned.claimed (owned : Owned before) {session : AgentLifecycleSession}
    {claim : AgentLifecycleClaim} (isNew : NewClaim before session claim)
    (there : (before.task? session.taskId).isSome = true)
    (assigned : ∀ stepId, claim.stepId = some stepId → Unclaimed before session.taskId stepId ∧
      ∃ mark, before.mark? session.taskId stepId = some mark ∧ mark.assignmentId ≠ none ∧
        claim.assignmentId = mark.assignmentId ∧
        mark.status ∉ [Execution.StepStatus.ready, .fixRequired]) :
    Owned { before with
      sessions := rebind session.sessionId claim.stepId claim.assignmentId claim.bindingId
        before.sessions
      claims := before.claims ++ [claim] } := by
  obtain ⟨known, active, ofSession, ofTask, free, fresh, mode⟩ := isNew
  have rowOf : ∀ other : AgentLifecycleClaim, other ∈ before.claims → other.state = .active →
      ∀ row ∈ before.sessions, row.sessionId = other.sessionId → row.sessionId ≠ session.sessionId :=
    fun other member isActive row _ same named => free other member isActive (same ▸ named)
  constructor
  · constructor
    · show ((rebind _ _ _ _ before.sessions).map (·.sessionId)).Nodup
      rw [map_rebind before.sessions (·.sessionId) fun _ => rfl]
      exact owned.rows.sessionIds
    · intro row member
      obtain ⟨earlier, isEarlier, rfl⟩ := mem_map.1 member
      have ids := owned.rows.ids earlier isEarlier
      by_cases named : earlier.sessionId = session.sessionId
      · rw [if_pos named]
        exact ids
      · rw [if_neg named]
        exact ids
    · show ((before.claims ++ [claim]).map (·.claimId)).Nodup
      rw [List.map_append, List.nodup_append]
      refine ⟨owned.rows.claimIds, List.nodup_singleton _, fun id member other isOther => ?_⟩
      obtain ⟨earlier, isEarlier, rfl⟩ := mem_map.1 member
      rw [List.map_singleton, mem_singleton] at isOther
      rw [isOther]
      exact fresh earlier isEarlier
    · intro other member isActive
      rcases mem_append.1 member with member | member
      · obtain ⟨row, isRow, same, task, step⟩ := owned.rows.owner other member isActive
        refine ⟨_, List.mem_map_of_mem isRow, ?_⟩
        rw [if_neg (rowOf other member isActive row isRow same)]
        exact ⟨same, task, step⟩
      · obtain rfl := mem_singleton.1 member
        obtain ⟨row, isRow, named, task⟩ := known
        refine ⟨_, List.mem_map_of_mem isRow, ?_⟩
        rw [if_pos named]
        exact ⟨named.trans ofSession.symm, task.trans ofTask.symm, rfl⟩
    · intro first isFirst second isSecond firstActive secondActive same
      rcases mem_append.1 isFirst with old | new
      · rcases mem_append.1 isSecond with later | latest
        · exact owned.rows.single first old second later firstActive secondActive same
        · rw [mem_singleton.1 latest] at same
          exact absurd (same.trans ofSession) (free first old firstActive)
      · rw [mem_singleton.1 new] at same
        rcases mem_append.1 isSecond with later | latest
        · exact absurd (same.symm.trans ofSession) (free second later secondActive)
        · exact (mem_singleton.1 new).trans (mem_singleton.1 latest).symm
    · intro row member ofClaim answer isAnswer named isNamed
      obtain ⟨assigned, recorded, isRecorded, same⟩ :=
        owned.rows.answers row member ofClaim answer isAnswer named isNamed
      exact ⟨assigned, recorded, List.mem_append_left _ isRecorded, same⟩
  · constructor
    · intro other member isActive
      rcases mem_append.1 member with member | member
      · exact owned.tasks.known other member isActive
      · obtain rfl := mem_singleton.1 member
        rw [ofTask]
        exact there
    · intro first isFirst second isSecond firstActive secondActive task step some_
      obtain ⟨stepId, isStep⟩ := Option.ne_none_iff_exists'.1 some_
      rcases mem_append.1 isFirst with old | new
      · rcases mem_append.1 isSecond with later | latest
        · exact owned.tasks.alone first old second later firstActive secondActive task step some_
        · rw [mem_singleton.1 latest] at task step
          exact absurd isStep
            ((assigned stepId (step ▸ isStep)).1 first old firstActive (task.trans ofTask))
      · rcases mem_append.1 isSecond with later | latest
        · rw [mem_singleton.1 new] at task step isStep
          exact absurd (step ▸ isStep)
            ((assigned stepId isStep).1 second later secondActive (task.symm.trans ofTask))
        · exact (mem_singleton.1 new).trans (mem_singleton.1 latest).symm
    · intro other member isActive stepId isStep
      rcases mem_append.1 member with member | member
      · exact owned.tasks.assigned other member isActive stepId isStep
      · obtain rfl := mem_singleton.1 member
        rw [ofTask]
        exact (assigned stepId isStep).2
    · intro name directory found isExclusive first isFirst second isSecond firstActive secondActive
        firstTask secondTask
      have sole : ∀ other ∈ before.claims, other.state = .active → other.taskId = name →
          name = session.taskId → other.sessionId = session.sessionId := by
        rintro other member isActive task rfl
        exact mode directory found isExclusive other member isActive task
      rcases mem_append.1 isFirst with old | new
      · rcases mem_append.1 isSecond with later | latest
        · exact owned.tasks.exclusive name directory found isExclusive first old second later
            firstActive secondActive firstTask secondTask
        · rw [mem_singleton.1 latest] at secondTask ⊢
          rw [ofSession]
          exact sole first old firstActive firstTask (secondTask.symm.trans ofTask)
      · rw [mem_singleton.1 new] at firstTask ⊢
        rcases mem_append.1 isSecond with later | latest
        · rw [ofSession]
          exact (sole second later secondActive secondTask (firstTask.symm.trans ofTask)).symm
        · rw [mem_singleton.1 latest]

end Agreement

end Zero3Pilot.Lifecycle
