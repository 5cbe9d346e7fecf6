import Mathlib.Data.List.Nodup
import Zero3Pilot.Foundations.Sorting
import Zero3Pilot.RemoteHost.OutboxSequences

/-! # Publication order of the outbox

`list` sorts the pending envelopes by `compareEnvelopes`, and `drainZero3RemoteOutboxInOrder`
publishes them one by one. The comparator looks at the clock reading of an envelope first, then,
within one execution, at its sequence and kind, and otherwise at the random delivery identifier.
It agrees with the order in which the envelopes were enqueued as long as two things hold: the clock
never steps back between an event and a later envelope of its execution, and no identifier of
another execution separates two envelopes of one execution and one millisecond the wrong way round. -/

namespace Zero3Pilot.RemoteHost

variable {config : OutboxConfig} {outbox : Outbox} {queue : List OutboxEnvelope}
  {history : List (OutboxAction × OutboxOutcome)}

/-! ## Draining -/

/-- `Zero3RemotePublishEnvelopeResult`. -/
inductive PublishResult where
  | published
  | quarantined

/-- What one round of the drain meets: whether publication is still allowed, and what publishing the
envelope comes to. -/
structure DrainRound where
  canPublish : Bool
  publish : Except String PublishResult

def drainInOrder (rounds : Nat → DrainRound) (targetDeliveryId : Option String) :
    Nat → List OutboxEnvelope → List OutboxEnvelope × Except String (Option PublishResult)
  | _, [] => ([], .ok none)
  | round, envelope :: envelopes =>
    if (rounds round).canPublish then
      match (rounds round).publish with
      | .error error => ([envelope], .error error)
      | .ok result =>
        if targetDeliveryId = some envelope.deliveryId then ([envelope], .ok (some result))
        else
          let rest := drainInOrder rounds targetDeliveryId (round + 1) envelopes
          (envelope :: rest.1, rest.2)
    else ([], .ok none)

theorem drainInOrder_prefixOf (rounds : Nat → DrainRound) (target : Option String)
    (envelopes : List OutboxEnvelope) :
    ∀ round, (drainInOrder rounds target round envelopes).1 <+: envelopes := by
  induction envelopes with
  | nil => exact fun _ => List.nil_prefix
  | cons envelope envelopes ih =>
    intro round
    unfold drainInOrder
    split
    · split
      · exact List.prefix_append [envelope] envelopes
      · split
        · exact List.prefix_append [envelope] envelopes
        · exact (List.prefix_cons_inj envelope).2 (ih (round + 1))
    · exact List.nil_prefix

def publishAll : Nat → DrainRound := fun _ => ⟨true, .ok .published⟩

theorem drainInOrder_publishAll (envelopes : List OutboxEnvelope) :
    ∀ round, (drainInOrder publishAll none round envelopes).1 = envelopes := by
  induction envelopes with
  | nil => exact fun _ => rfl
  | cons envelope envelopes ih =>
    intro round
    show envelope :: (drainInOrder publishAll none (round + 1) envelopes).1 = _
    rw [ih]

/-! ## The comparator -/

/-- The comparison of two envelopes of one execution and one clock reading. -/
def compareKinds (left right : OutboxEnvelope) : Ordering :=
  match left.kind, right.kind with
  | .event leftSequence _ _, .event rightSequence _ _ => compare leftSequence rightSequence
  | .event .., .terminal .. => .lt
  | .terminal .., .event .. => .gt
  | .terminal .., .terminal .. => compare left.deliveryId right.deliveryId

variable {left right : OutboxEnvelope}

theorem compareEnvelopes_of_ne (differ : compare left.createdAt right.createdAt ≠ .eq) :
    compareEnvelopes left right = compare left.createdAt right.createdAt := by
  unfold compareEnvelopes
  split
  · rename_i same
    exact absurd same differ
  · rfl

theorem compareEnvelopes_of_pair (sameTime : left.createdAt = right.createdAt)
    (samePair : left.pair = right.pair) :
    compareEnvelopes left right = compareKinds left right := by
  unfold compareEnvelopes compareKinds
  rw [sameTime, Std.ReflOrd.compare_self]
  obtain ⟨sameTask, sameExecution⟩ := Prod.mk.inj samePair
  exact if_pos ⟨sameTask, sameExecution⟩

theorem compareEnvelopes_of_pair_ne (sameTime : left.createdAt = right.createdAt)
    (pairNe : left.pair ≠ right.pair) :
    compareEnvelopes left right = compare left.deliveryId right.deliveryId := by
  unfold compareEnvelopes
  rw [sameTime, Std.ReflOrd.compare_self]
  refine if_neg fun both => pairNe ?_
  exact Prod.ext both.1 both.2

theorem compareKinds_swap (left right : OutboxEnvelope) :
    compareKinds left right = (compareKinds right left).swap := by
  unfold compareKinds
  cases left.kind <;> cases right.kind <;> dsimp only
  · exact Std.OrientedCmp.eq_swap
  · rfl
  · rfl
  · exact Std.OrientedCmp.eq_swap

/-- **Swapping the envelopes swaps the answer of the comparator.** -/
theorem compareEnvelopes_swap (left right : OutboxEnvelope) :
    compareEnvelopes left right = (compareEnvelopes right left).swap := by
  by_cases sameTime : left.createdAt = right.createdAt
  · by_cases samePair : left.pair = right.pair
    · rw [compareEnvelopes_of_pair sameTime samePair,
        compareEnvelopes_of_pair sameTime.symm samePair.symm]
      exact compareKinds_swap left right
    · rw [compareEnvelopes_of_pair_ne sameTime samePair,
        compareEnvelopes_of_pair_ne sameTime.symm (Ne.symm samePair)]
      exact Std.OrientedCmp.eq_swap
  · have differ : compare left.createdAt right.createdAt ≠ .eq :=
      fun same => sameTime (Std.LawfulEqCmp.compare_eq_iff_eq.1 same)
    have differ' : compare right.createdAt left.createdAt ≠ .eq :=
      fun same => sameTime (Std.LawfulEqCmp.compare_eq_iff_eq.1 same).symm
    rw [compareEnvelopes_of_ne differ, compareEnvelopes_of_ne differ']
    exact Std.OrientedCmp.eq_swap

theorem compareKinds_trans {first second third : OutboxEnvelope}
    (left : compareKinds first second = .lt) (right : compareKinds second third = .lt) :
    compareKinds first third = .lt := by
  unfold compareKinds at *
  cases kind₁ : first.kind <;> cases kind₂ : second.kind <;> cases kind₃ : third.kind <;>
    simp only [kind₁, kind₂, kind₃, reduceCtorEq] at left right ⊢
  · exact Std.TransCmp.lt_trans left right
  · exact Std.TransCmp.lt_trans left right

/-! ## Pending envelopes -/

def SequencesIncrease (earlier later : OutboxEnvelope) : Prop :=
  earlier.pair = later.pair → ∀ sequence sequence', earlier.eventSequence? = some sequence →
    later.eventSequence? = some sequence' → sequence < sequence'

/-- **What the outbox guarantees of its pending envelopes**, in the order they were enqueued. -/
structure Enqueued (queue : List OutboxEnvelope) : Prop where
  ids : (queue.map (·.deliveryId)).Nodup
  sequences : queue.Pairwise SequencesIncrease

theorem Enqueued.eq_of_deliveryId (enqueued : Enqueued queue) (hl : left ∈ queue) (hr : right ∈ queue)
    (same : left.deliveryId = right.deliveryId) :
    left = right :=
  List.inj_on_of_nodup_map enqueued.ids hl hr same

/-- Two envelopes of one execution that compare equal by kind are one envelope. -/
theorem Enqueued.eq_of_compareKinds (enqueued : Enqueued queue) (hl : left ∈ queue) (hr : right ∈ queue)
    (samePair : left.pair = right.pair) (same : compareKinds left right = .eq) : left = right := by
  unfold compareKinds at same
  cases kindL : left.kind with
  | event sequence eventType payload =>
    cases kindR : right.kind with
    | event sequence' eventType' payload' =>
      simp only [kindL, kindR] at same
      have sameSequence : sequence = sequence' := Std.LawfulEqCmp.compare_eq_iff_eq.1 same
      subst sameSequence
      -- two events of one execution with one sequence cannot be two
      by_contra different
      have isL : left.eventSequence? = some sequence := by simp [OutboxEnvelope.eventSequence?, kindL]
      have isR : right.eventSequence? = some sequence := by simp [OutboxEnvelope.eventSequence?, kindR]
      rcases pair_sublist_or hl hr different with sub | sub
      · have ordered := List.pairwise_iff_forall_sublist.1 enqueued.sequences sub
        exact Nat.lt_irrefl _ (ordered samePair _ _ isL isR)
      · have ordered := List.pairwise_iff_forall_sublist.1 enqueued.sequences sub
        exact Nat.lt_irrefl _ (ordered samePair.symm _ _ isR isL)
    | terminal state result =>
      simp only [kindL, kindR, reduceCtorEq] at same
  | terminal state result =>
    cases kindR : right.kind with
    | event sequence' eventType' payload' => simp only [kindL, kindR, reduceCtorEq] at same
    | terminal state' result' =>
      simp only [kindL, kindR] at same
      exact enqueued.eq_of_deliveryId hl hr (Std.LawfulEqCmp.compare_eq_iff_eq.1 same)

/-- **The comparator tells any two pending envelopes apart.** -/
theorem Enqueued.eq_of_compareEnvelopes (enqueued : Enqueued queue) (hl : left ∈ queue)
    (hr : right ∈ queue) (same : compareEnvelopes left right = .eq) :
    left = right := by
  by_cases sameTime : left.createdAt = right.createdAt
  · by_cases samePair : left.pair = right.pair
    · rw [compareEnvelopes_of_pair sameTime samePair] at same
      exact enqueued.eq_of_compareKinds hl hr samePair same
    · rw [compareEnvelopes_of_pair_ne sameTime samePair] at same
      exact enqueued.eq_of_deliveryId hl hr (Std.LawfulEqCmp.compare_eq_iff_eq.1 same)
  · have differ : compare left.createdAt right.createdAt ≠ .eq :=
      fun same => sameTime (Std.LawfulEqCmp.compare_eq_iff_eq.1 same)
    rw [compareEnvelopes_of_ne differ] at same
    exact absurd same differ

/-! ## When the comparator is an order -/

/-- **No other execution interleaves** between two envelopes of one execution and one clock reading. -/
def NoInterleaving (queue : List OutboxEnvelope) : Prop :=
  ∀ first ∈ queue, ∀ second ∈ queue, ∀ other ∈ queue,
    first.createdAt = second.createdAt → other.createdAt = second.createdAt →
    first.pair = second.pair → other.pair ≠ second.pair → compareKinds first second = .lt →
    ¬ (compare second.deliveryId other.deliveryId = .lt ∧
      compare other.deliveryId first.deliveryId = .lt)

/-- *Published before*. -/
def Precedes (left right : OutboxEnvelope) : Prop := compareEnvelopes left right = .lt

/-- Of two pending envelopes of different executions and one clock reading, the identifiers decide. -/
theorem Enqueued.lt_or_gt_deliveryId (enqueued : Enqueued queue) (hl : left ∈ queue) (hr : right ∈ queue)
    (pairNe : left.pair ≠ right.pair) :
    compare left.deliveryId right.deliveryId = .lt ∨
      compare right.deliveryId left.deliveryId = .lt := by
  cases order : compare left.deliveryId right.deliveryId with
  | lt => exact .inl rfl
  | gt => exact .inr (Std.OrientedCmp.lt_of_gt order)
  | eq =>
    have same := enqueued.eq_of_deliveryId hl hr (Std.LawfulEqCmp.compare_eq_iff_eq.1 order)
    exact absurd (congrArg OutboxEnvelope.pair same) pairNe

theorem Enqueued.precedes_trans_sameTime (enqueued : Enqueued queue)
    (noInterleaving : NoInterleaving queue) {a b c : OutboxEnvelope} (ha : a ∈ queue)
    (hb : b ∈ queue) (hc : c ∈ queue) (timeAB : a.createdAt = b.createdAt)
    (timeBC : b.createdAt = c.createdAt) (left : Precedes a b) (right : Precedes b c) :
    Precedes a c := by
  have timeAC := timeAB.trans timeBC
  unfold Precedes at *
  by_cases pairAB : a.pair = b.pair
  · rw [compareEnvelopes_of_pair timeAB pairAB] at left
    by_cases pairBC : b.pair = c.pair
    · -- one execution
      rw [compareEnvelopes_of_pair timeBC pairBC] at right
      rw [compareEnvelopes_of_pair timeAC (pairAB.trans pairBC)]
      exact compareKinds_trans left right
    · -- `c` is of another execution than `a` and `b`
      have pairAC : a.pair ≠ c.pair := fun same => pairBC (pairAB.symm.trans same)
      rw [compareEnvelopes_of_pair_ne timeBC pairBC] at right
      rw [compareEnvelopes_of_pair_ne timeAC pairAC]
      rcases enqueued.lt_or_gt_deliveryId ha hc pairAC with less | greater
      · exact less
      · exact absurd ⟨right, greater⟩ (noInterleaving a ha b hb c hc timeAB timeBC.symm pairAB
          (Ne.symm pairBC) left)
  · rw [compareEnvelopes_of_pair_ne timeAB pairAB] at left
    by_cases pairBC : b.pair = c.pair
    · -- `a` is of another execution than `b` and `c`
      have pairAC : a.pair ≠ c.pair := fun same => pairAB (same.trans pairBC.symm)
      rw [compareEnvelopes_of_pair timeBC pairBC] at right
      rw [compareEnvelopes_of_pair_ne timeAC pairAC]
      rcases enqueued.lt_or_gt_deliveryId ha hc pairAC with less | greater
      · exact less
      · exact absurd ⟨greater, left⟩ (noInterleaving b hb c hc a ha timeBC timeAC pairBC
          pairAC right)
    · rw [compareEnvelopes_of_pair_ne timeBC pairBC] at right
      have ids := Std.TransCmp.lt_trans left right
      by_cases pairAC : a.pair = c.pair
      · -- `b` is of another execution than `a` and `c`
        rw [compareEnvelopes_of_pair timeAC pairAC]
        cases order : compareKinds a c with
        | lt => rfl
        | eq =>
          have same := enqueued.eq_of_compareKinds ha hc pairAC order
          rw [same, Std.ReflOrd.compare_self] at ids
          cases ids
        | gt =>
          have reverse : compareKinds c a = .lt := by
            rw [compareKinds_swap, order]
            rfl
          exact absurd ⟨left, right⟩ (noInterleaving c hc a ha b hb timeAC.symm timeAB.symm
            pairAC.symm (Ne.symm pairAB) reverse)
      · rw [compareEnvelopes_of_pair_ne timeAC pairAC]
        exact ids

theorem Enqueued.precedes_trans (enqueued : Enqueued queue)
    (noInterleaving : NoInterleaving queue) {a b c : OutboxEnvelope} (ha : a ∈ queue)
    (hb : b ∈ queue) (hc : c ∈ queue) (left : Precedes a b) (right : Precedes b c) :
    Precedes a c := by
  -- the clock readings do not decrease along a comparison
  have notAfter {x y : OutboxEnvelope} (precedes : Precedes x y) :
      x.createdAt = y.createdAt ∨ compare x.createdAt y.createdAt = .lt := by
    by_cases sameTime : x.createdAt = y.createdAt
    · exact .inl sameTime
    · have differ : compare x.createdAt y.createdAt ≠ .eq :=
        fun same => sameTime (Std.LawfulEqCmp.compare_eq_iff_eq.1 same)
      exact .inr ((compareEnvelopes_of_ne differ).symm.trans precedes)
  have byTime (earlier : compare a.createdAt c.createdAt = .lt) : Precedes a c := by
    unfold Precedes
    rw [compareEnvelopes_of_ne (by rw [earlier]; decide), earlier]
  rcases notAfter left with timeAB | timeAB
  · rcases notAfter right with timeBC | timeBC
    · exact enqueued.precedes_trans_sameTime noInterleaving ha hb hc timeAB timeBC left right
    · exact byTime (timeAB ▸ timeBC)
  · rcases notAfter right with timeBC | timeBC
    · exact byTime (timeBC ▸ timeAB)
    · exact byTime (Std.TransCmp.lt_trans timeAB timeBC)

/-- **The comparator is a strict weak order on the pending envelopes exactly when no other execution
interleaves.** -/
theorem strictWeakOrder_iff (enqueued : Enqueued queue) :
    StrictWeakOrderOn Precedes queue ↔ NoInterleaving queue := by
  constructor
  · rintro order first hf second hs other ho time otherTime samePair otherPair kinds ⟨below, above⟩
    -- first < second < other < first
    have one : Precedes first second := by
      unfold Precedes
      rw [compareEnvelopes_of_pair time samePair, kinds]
    have two : Precedes second other := by
      unfold Precedes
      rw [compareEnvelopes_of_pair_ne otherTime.symm (Ne.symm otherPair), below]
    have three : Precedes other first := by
      unfold Precedes
      rw [compareEnvelopes_of_pair_ne (otherTime.trans time.symm)
        (fun same => otherPair (same.trans samePair)), above]
    have cycle := order.trans first hf second hs other ho one two
    exact order.irrefl first hf (order.trans first hf other ho first hf cycle three)
  · intro noInterleaving
    refine ⟨?_, ?_, ?_⟩
    · intro a _ less
      unfold Precedes at less
      rw [compareEnvelopes_of_pair rfl rfl] at less
      have swapped := compareKinds_swap a a
      rw [less] at swapped
      cases swapped
    · intro a ha b hb c hc
      exact enqueued.precedes_trans noInterleaving ha hb hc
    · intro a ha b hb c hc notAB notBA notBC notCB
      -- incomparable envelopes are one envelope
      have same {x y : OutboxEnvelope} (hx : x ∈ queue) (hy : y ∈ queue) (notXY : ¬ Precedes x y)
          (notYX : ¬ Precedes y x) : x = y := by
        refine enqueued.eq_of_compareEnvelopes hx hy ?_
        unfold Precedes at notXY notYX
        rw [compareEnvelopes_swap] at notYX
        cases order : compareEnvelopes x y with
        | lt => exact absurd order notXY
        | eq => rfl
        | gt => rw [order] at notYX; exact absurd rfl notYX
      have sameAB := same ha hb notAB notBA
      subst sameAB
      exact ⟨notBC, notCB⟩

/-! ## When envelopes are published in order -/

/-- **Published in the order of the execution**, terminal envelopes after the events before them. -/
structure PublishedInOrder (queue published : List OutboxEnvelope) : Prop where
  events : published.Pairwise SequencesIncrease
  terminals : ∀ before terminal after, published = before ++ terminal :: after →
    terminal.eventSequence? = none →
    ∀ event, [event, terminal].Sublist queue → event.pair = terminal.pair →
      event.eventSequence?.isSome → event ∈ before

/-- **The clock does not step back** between an event and a later envelope of its execution. -/
def ClockMonotone (queue : List OutboxEnvelope) : Prop :=
  queue.Pairwise fun earlier later => earlier.pair = later.pair → earlier.eventSequence?.isSome →
    compare earlier.createdAt later.createdAt ≠ .gt

/-- **Publication in order**, in whatever order the directory is read and whatever publication meets. -/
structure PublishesInOrder (queue : List OutboxEnvelope) : Prop where
  order : StrictWeakOrderOn Precedes queue
  published : ∀ files, files.Perm queue → ∀ listed, listEnvelopes files = .ok listed →
    ∀ rounds target, PublishedInOrder queue (drainInOrder rounds target 0 listed).1

theorem ClockMonotone.precedes_terminal (clock : ClockMonotone queue)
    {event terminal : OutboxEnvelope} (enqueuedFirst : [event, terminal].Sublist queue)
    (samePair : event.pair = terminal.pair) (isEvent : event.eventSequence?.isSome)
    (isTerminal : terminal.eventSequence? = none) : Precedes event terminal := by
  have notAfter := List.pairwise_iff_forall_sublist.1 clock enqueuedFirst samePair isEvent
  unfold Precedes
  by_cases sameTime : event.createdAt = terminal.createdAt
  · rw [compareEnvelopes_of_pair sameTime samePair]
    unfold compareKinds
    unfold OutboxEnvelope.eventSequence? at isEvent isTerminal
    cases kindE : event.kind with
    | terminal state result => simp [kindE] at isEvent
    | event sequence eventType payload =>
      cases kindT : terminal.kind with
      | event sequence' eventType' payload' => simp [kindT] at isTerminal
      | terminal state result => rfl
  · have differ : compare event.createdAt terminal.createdAt ≠ .eq :=
      fun same => sameTime (Std.LawfulEqCmp.compare_eq_iff_eq.1 same)
    rw [compareEnvelopes_of_ne differ]
    cases order : compare event.createdAt terminal.createdAt with
    | lt => rfl
    | eq => exact absurd order differ
    | gt => exact absurd order notAfter

theorem ClockMonotone.precedes_event (clock : ClockMonotone queue) (enqueued : Enqueued queue)
    {earlier later : OutboxEnvelope} (enqueuedFirst : [earlier, later].Sublist queue)
    (samePair : earlier.pair = later.pair) {sequence sequence' : Nat}
    (isEarlier : earlier.eventSequence? = some sequence)
    (isLater : later.eventSequence? = some sequence') : Precedes earlier later := by
  have notAfter := List.pairwise_iff_forall_sublist.1 clock enqueuedFirst samePair
    (by rw [isEarlier]; rfl)
  have increase := List.pairwise_iff_forall_sublist.1 enqueued.sequences enqueuedFirst samePair
    sequence sequence' isEarlier isLater
  unfold Precedes
  by_cases sameTime : earlier.createdAt = later.createdAt
  · rw [compareEnvelopes_of_pair sameTime samePair]
    unfold compareKinds
    unfold OutboxEnvelope.eventSequence? at isEarlier isLater
    cases kindE : earlier.kind with
    | terminal state result => simp [kindE] at isEarlier
    | event first eventType payload =>
      cases kindL : later.kind with
      | terminal state result => simp [kindL] at isLater
      | event second eventType' payload' =>
        simp only [kindE, kindL, Option.some.injEq] at isEarlier isLater
        subst isEarlier isLater
        exact Nat.compare_eq_lt.2 increase
  · have differ : compare earlier.createdAt later.createdAt ≠ .eq :=
      fun same => sameTime (Std.LawfulEqCmp.compare_eq_iff_eq.1 same)
    rw [compareEnvelopes_of_ne differ]
    cases order : compare earlier.createdAt later.createdAt with
    | lt => rfl
    | eq => exact absurd order differ
    | gt => exact absurd order notAfter

theorem listed_pairwise {files listed : List OutboxEnvelope} (perm : files.Perm queue)
    (order : StrictWeakOrderOn Precedes queue) (isListed : listEnvelopes files = .ok listed) :
    listed.Pairwise fun left right => ¬ Precedes right left := by
  have onFiles : StrictWeakOrderOn Precedes files :=
    ⟨fun a ha => order.irrefl a (perm.mem_iff.1 ha),
      fun a ha b hb c hc => order.trans a (perm.mem_iff.1 ha) b (perm.mem_iff.1 hb) c
        (perm.mem_iff.1 hc),
      fun a ha b hb c hc => order.incomparable a (perm.mem_iff.1 ha) b (perm.mem_iff.1 hb) c
        (perm.mem_iff.1 hc)⟩
  rw [(listEnvelopes_ok.1 isListed).2]
  refine (pairwise_mergeSort compareEnvelopes_swap onFiles).imp ?_
  intro left right notGt precedes
  unfold Precedes at precedes
  rw [compareEnvelopes_swap, precedes] at notGt
  exact notGt rfl

/-- Without interleaving and steps back, every prefix of the list is in order. -/
theorem publishedInOrder_of_conditions (enqueued : Enqueued queue)
    (order : StrictWeakOrderOn Precedes queue) (clock : ClockMonotone queue)
    {files listed published : List OutboxEnvelope} (perm : files.Perm queue)
    (isListed : listEnvelopes files = .ok listed) (isPrefix : published <+: listed) :
    PublishedInOrder queue published := by
  have sorted := listed_pairwise perm order isListed
  have members : ∀ envelope, envelope ∈ listed ↔ envelope ∈ queue :=
    fun envelope => ((listEnvelopes_perm isListed).trans perm).mem_iff
  constructor
  · refine (List.pairwise_iff_forall_sublist.2 fun {earlier later} sub => ?_).sublist
      isPrefix.sublist
    intro samePair sequence sequence' isEarlier isLater
    have notAfter := List.pairwise_iff_forall_sublist.1 sorted sub
    have inEarlier := (members earlier).1 (sub.subset (by simp))
    have inLater := (members later).1 (sub.subset (by simp))
    by_cases same : earlier = later
    · -- the same envelope twice would make its identifier occur twice
      subst same
      have nodup : listed.Nodup :=
        ((listEnvelopes_perm isListed).trans perm).nodup_iff.2 (List.Nodup.of_map _ enqueued.ids)
      have twice := sub.nodup nodup
      simp at twice
    · rcases pair_sublist_or inEarlier inLater same with first | first
      · exact List.pairwise_iff_forall_sublist.1 enqueued.sequences first samePair _ _ isEarlier
          isLater
      · exact absurd (clock.precedes_event enqueued first samePair.symm isLater isEarlier) notAfter
  · intro before terminal after split isTerminal event enqueuedFirst samePair isEvent
    have precedes := clock.precedes_terminal enqueuedFirst samePair isEvent isTerminal
    obtain ⟨rest, whole⟩ := isPrefix
    rw [split, List.append_assoc, List.cons_append] at whole
    have member : event ∈ before ++ terminal :: (after ++ rest) := by
      rw [whole, members]
      exact enqueuedFirst.subset (by simp)
    rcases List.mem_append.1 member with inBefore | later
    · exact inBefore
    · rw [← whole] at sorted
      have following := (List.pairwise_append.1 sorted).2.1
      rcases List.mem_cons.1 later with same | behind
      · rw [same, isTerminal] at isEvent
        cases isEvent
      · exact absurd precedes (List.rel_of_pairwise_cons following behind)

/-- **Envelopes are published in the order of their execution exactly when** no other execution
interleaves and, where the pending files can be listed at all, the clock does not step back. -/
theorem publishesInOrder_iff (enqueued : Enqueued queue) :
    PublishesInOrder queue ↔ NoInterleaving queue ∧ (AllParse queue → ClockMonotone queue) := by
  constructor
  · rintro ⟨order, published⟩
    refine ⟨(strictWeakOrder_iff enqueued).1 order, fun parse => ?_⟩
    have isListed := listEnvelopes_ok.2 ⟨parse, rfl⟩
    have inOrder := published queue (List.Perm.refl _) _ isListed publishAll none
    have sorted := listed_pairwise (List.Perm.refl _) order isListed
    rw [drainInOrder_publishAll] at inOrder
    generalize queue.mergeSort (fun left right => compareEnvelopes left right ≠ .gt) = listed
      at isListed inOrder sorted
    have members : ∀ envelope, envelope ∈ listed ↔ envelope ∈ queue :=
      fun envelope => (listEnvelopes_perm isListed).mem_iff
    refine List.pairwise_iff_forall_sublist.2 fun {earlier later} first samePair isEvent stepsBack => ?_
    -- `later` is older by the clock, so it is published first
    have precedes : Precedes later earlier := by
      have older : compare later.createdAt earlier.createdAt = .lt :=
        Std.OrientedCmp.lt_of_gt stepsBack
      unfold Precedes
      rw [compareEnvelopes_of_ne (by rw [older]; decide), older]
    have inEarlier := (members earlier).2 (first.subset (by simp))
    have inLater := (members later).2 (first.subset (by simp))
    have different : later ≠ earlier := by
      rintro rfl
      rw [Std.ReflOrd.compare_self] at stepsBack
      cases stepsBack
    rcases pair_sublist_or inLater inEarlier different with laterFirst | earlierFirst
    · obtain ⟨sequence, isEarlier⟩ := Option.isSome_iff_exists.1 isEvent
      cases isLater : later.eventSequence? with
      | some sequence' =>
        have increase := List.pairwise_iff_forall_sublist.1 enqueued.sequences first samePair _ _
          isEarlier isLater
        have decrease := List.pairwise_iff_forall_sublist.1 inOrder.events laterFirst
          samePair.symm _ _ isLater isEarlier
        omega
      | none =>
        obtain ⟨before, after, split⟩ := List.append_of_mem inLater
        have inBefore := inOrder.terminals before later after split isLater earlier first samePair
          isEvent
        -- `earlier` is published before `later`, which precedes it
        rw [split] at sorted
        exact (List.pairwise_append.1 sorted).2.2 earlier inBefore later List.mem_cons_self
          precedes
    · exact List.pairwise_iff_forall_sublist.1 sorted earlierFirst precedes
  · rintro ⟨noInterleaving, clock⟩
    have order := (strictWeakOrder_iff enqueued).2 noInterleaving
    refine ⟨order, fun files perm listed isListed rounds target => ?_⟩
    have parse : AllParse queue := by
      intro envelope member
      exact (listEnvelopes_ok.1 isListed).1 envelope (perm.mem_iff.2 member)
    exact publishedInOrder_of_conditions enqueued order (clock parse) perm isListed
      (drainInOrder_prefixOf rounds target listed 0)

/-! ## The pending envelopes of a run -/

/-- The pending envelopes after one more step, in the order they were enqueued. -/
def track (queue : List OutboxEnvelope) : OutboxAction × OutboxOutcome → List OutboxEnvelope
  | (_, .persisted envelope) => queue ++ [envelope]
  | (.ack deliveryId, .done) => queue.filter (·.deliveryId ≠ deliveryId)
  | (.quarantine deliveryId _, .done) => queue.filter (·.deliveryId ≠ deliveryId)
  | _ => queue

/-- **The pending envelopes of a history**, in the order they were enqueued. -/
def pendingQueue (history : List (OutboxAction × OutboxOutcome)) : List OutboxEnvelope :=
  history.foldl track []

theorem pendingQueue_append (step : OutboxAction × OutboxOutcome) :
    pendingQueue (history ++ [step]) = track (pendingQueue history) step := by
  rw [pendingQueue, List.foldl_append]
  rfl

structure QueueInvariant (queue : List OutboxEnvelope) (outbox : Outbox) : Prop where
  files : ∀ (id : String) (envelope : OutboxEnvelope),
    outbox.pending[id]? = some envelope ↔ envelope ∈ queue ∧ envelope.deliveryId = id
  enqueued : Enqueued queue

theorem QueueInvariant.persist (invariant : QueueInvariant queue outbox) {envelope : OutboxEnvelope}
    {after : Outbox} (fresh : outbox.pending[envelope.deliveryId]? = none)
    (pending : after.pending = outbox.pending.insert envelope.deliveryId envelope)
    (above : ∀ earlier ∈ queue, SequencesIncrease earlier envelope) :
    QueueInvariant (queue ++ [envelope]) after := by
  -- no pending envelope has the fresh identifier
  have unused : ∀ known ∈ queue, known.deliveryId ≠ envelope.deliveryId := by
    intro known member same
    have found := (invariant.files _ known).2 ⟨member, same⟩
    rw [fresh] at found
    cases found
  constructor
  · intro id known
    rw [pending, Std.ExtTreeMap.getElem?_insert]
    split
    · rename_i hit
      have same : envelope.deliveryId = id := by simpa using hit
      subst same
      constructor
      · intro isNew
        cases isNew
        exact ⟨List.mem_append_right queue (List.mem_singleton.2 rfl), rfl⟩
      · rintro ⟨member, sameId⟩
        rcases List.mem_append.1 member with old | isNew
        · exact absurd sameId (unused known old)
        · rw [List.mem_singleton.1 isNew]
    · rename_i miss
      have other : envelope.deliveryId ≠ id := by simpa using miss
      rw [invariant.files id known]
      refine and_congr_left fun sameId => ?_
      rw [List.mem_append, List.mem_singleton]
      constructor
      · exact .inl
      · rintro (old | rfl)
        · exact old
        · exact absurd sameId other
  · constructor
    · rw [List.map_append, List.nodup_append]
      refine ⟨invariant.enqueued.ids, List.nodup_singleton _, ?_⟩
      rintro id old id' isNew rfl
      obtain ⟨known, member, rfl⟩ := List.mem_map.1 old
      exact unused known member (List.mem_singleton.1 isNew)
    · refine List.pairwise_append.2 ⟨invariant.enqueued.sequences, List.pairwise_singleton _ _, ?_⟩
      intro earlier member later isNew
      rw [List.mem_singleton.1 isNew]
      exact above earlier member

theorem QueueInvariant.remove (invariant : QueueInvariant queue outbox) {deliveryId : String}
    {after : Outbox} (pending : after.pending = outbox.pending.erase deliveryId) :
    QueueInvariant (queue.filter (·.deliveryId ≠ deliveryId)) after := by
  constructor
  · intro id envelope
    rw [pending, Std.ExtTreeMap.getElem?_erase, List.mem_filter, decide_eq_true_eq]
    split
    · rename_i hit
      have same : deliveryId = id := by simpa using hit
      subst same
      constructor
      · intro none_left
        cases none_left
      · rintro ⟨⟨-, different⟩, sameId⟩
        exact absurd sameId different
    · rename_i miss
      have other : deliveryId ≠ id := by simpa using miss
      rw [invariant.files id envelope]
      refine and_congr_left fun sameId => ?_
      have different : envelope.deliveryId ≠ deliveryId := fun same => other (same.symm.trans sameId)
      exact ⟨fun member => ⟨member, different⟩, And.left⟩
  · constructor
    · exact invariant.enqueued.ids.sublist (List.filter_sublist.map _)
    · exact invariant.enqueued.sequences.filter _

/-- **One step keeps the queue**: what is persisted goes to its end, what is removed leaves it. -/
theorem queueInvariant_step (invariant : QueueInvariant (pendingQueue history) outbox)
    {action : OutboxAction} (fresh : FreshIds outbox action) :
    QueueInvariant (pendingQueue (history ++ [(action, (outbox.step config action).1)]))
      (outbox.step config action).2 := by
  rw [pendingQueue_append]
  -- steps that touch no pending file
  have same {after : Outbox} (pending : after.pending = outbox.pending) :
      QueueInvariant (pendingQueue history) after :=
    ⟨by rw [pending]; exact invariant.files, invariant.enqueued⟩
  have refused {action : OutboxAction} {error : String} :
      QueueInvariant (track (pendingQueue history) (action, .failed error)) outbox := by
    cases action <;> exact invariant
  unfold Outbox.step
  split
  · exact same rfl
  · exact same rfl
  · exact same rfl
  · exact same rfl
  · rename_i lease eventType payload deliveryId createdAt atRest
    cases enqueued : outbox.enqueueEvent config lease eventType payload deliveryId createdAt with
    | error error => exact refused
    | ok persisted =>
      obtain ⟨envelope, after⟩ := persisted
      obtain ⟨cursor, persisted⟩ := enqueueEvent_ok enqueued
      refine invariant.persist ?_ ?_ ?_
      · rw [persisted.deliveryId_eq]
        exact fresh
      · rw [persisted.deliveryId_eq, persisted.after_eq]
        rfl
      · intro earlier member samePair sequence sequence' isEarlier isNew
        -- the pending event covers its sequence, and the new one is above what is covered
        have found := (invariant.files _ earlier).2 ⟨member, rfl⟩
        have own := persisted.sequence
        unfold OutboxEnvelope.sequenceOf at own
        split at own
        · rename_i newPair
          rw [isNew, Option.some.injEq] at own
          have covers : earlier.sequenceOf (cursor.taskId, cursor.executionId) = some sequence := by
            rw [OutboxEnvelope.sequenceOf, if_pos (samePair.trans newPair), isEarlier]
          rw [own]
          exact persisted.above sequence
            (.inr ⟨_, earlier, sequence, found, by simp, covers, Nat.le_refl _⟩)
        · cases own
  · rename_i lease state result deliveryId createdAt atRest
    cases enqueued : outbox.enqueueTerminal config lease state result deliveryId createdAt with
    | error error => exact refused
    | ok persisted =>
      obtain ⟨envelope, after⟩ := persisted
      obtain ⟨noEvent, sameId, rfl⟩ := enqueueTerminal_ok enqueued
      refine invariant.persist ?_ ?_ ?_
      · rw [sameId]
        exact fresh
      · rw [sameId]
        rfl
      · intro earlier _ _ sequence sequence' _ isNew
        rw [noEvent] at isNew
        cases isNew
  · rename_i deliveryId atRest
    cases acked : outbox.ack deliveryId with
    | error error => exact refused
    | ok after =>
      have erased := ack_ok acked
      subst erased
      exact invariant.remove rfl
  · rename_i deliveryId reason atRest
    cases moved : outbox.moveToQuarantine deliveryId reason with
    | error error => exact refused
    | ok after => exact invariant.remove (moveToQuarantine_ok moved).1
  · have unavailable : ∀ action,
        QueueInvariant (track (pendingQueue history) (action, .unavailable)) outbox := by
      intro action
      cases action <;> exact invariant
    exact unavailable _

theorem queueInvariant_of_run (run : (outboxMachine config).Run FreshIds .empty history outbox) :
    QueueInvariant (pendingQueue history) outbox := by
  refine run.invariant (fun history => QueueInvariant (pendingQueue history)) ?_
    fun _ _ _ invariant fresh => queueInvariant_step invariant fresh
  exact ⟨by simp [pendingQueue, Outbox.empty], ⟨List.nodup_nil, .nil⟩⟩

theorem QueueInvariant.perm (invariant : QueueInvariant queue outbox) :
    outbox.pendingFiles.Perm queue := by
  have member (envelope : OutboxEnvelope) : envelope ∈ outbox.pendingFiles ↔ envelope ∈ queue := by
    unfold Outbox.pendingFiles
    rw [List.mem_map]
    constructor
    · rintro ⟨⟨id, known⟩, listed, rfl⟩
      have found := Std.ExtTreeMap.mem_toList_iff_getElem?_eq_some.1 listed
      exact ((invariant.files id known).1 found).1
    · intro inQueue
      have found := (invariant.files _ envelope).2 ⟨inQueue, rfl⟩
      exact ⟨(envelope.deliveryId, envelope),
        Std.ExtTreeMap.mem_toList_iff_getElem?_eq_some.2 found, rfl⟩
  -- files are named by their identifiers, so none is there twice
  have filesNodup : outbox.pendingFiles.Nodup := by
    refine List.pairwise_map.2 (Std.ExtTreeMap.distinct_keys_toList.imp_of_mem ?_)
    rintro ⟨id, left⟩ ⟨id', right⟩ listed listed' different rfl
    have found := (invariant.files id left).1
      (Std.ExtTreeMap.mem_toList_iff_getElem?_eq_some.1 listed)
    have found' := (invariant.files id' left).1
      (Std.ExtTreeMap.mem_toList_iff_getElem?_eq_some.1 listed')
    have sameId : id = id' := found.2.symm.trans found'.2
    subst sameId
    exact different Std.ReflOrd.compare_self
  exact (List.perm_ext_iff_of_nodup filesNodup (List.Nodup.of_map _ invariant.enqueued.ids)).2
    member

/-- **Publication order.** In every state of every run the pending envelopes are published in the order
of their execution exactly when no other execution interleaves and the clock does not step back. -/
theorem publicationOrder_iff (run : (outboxMachine config).Run FreshIds .empty history outbox) :
    outbox.pendingFiles.Perm (pendingQueue history) ∧
      (PublishesInOrder (pendingQueue history) ↔ NoInterleaving (pendingQueue history) ∧
        (AllParse (pendingQueue history) → ClockMonotone (pendingQueue history))) := by
  have invariant := queueInvariant_of_run run
  exact ⟨invariant.perm, publishesInOrder_iff invariant.enqueued⟩

def orderedRun : List OutboxAction := [firstEvent, .writeCursor, secondEvent]

/-- The run of two events in order. -/
theorem publicationOrder_orderedRun :
    ((outboxMachine exampleConfig).exec .empty orderedRun).2.pendingFiles.Perm
        (pendingQueue ((outboxMachine exampleConfig).exec .empty orderedRun).1) ∧
      (pendingQueue ((outboxMachine exampleConfig).exec .empty orderedRun).1).map
        (·.eventSequence?) = [some 1, some 2] := by
  have met : (outboxMachine exampleConfig).Met FreshIds .empty orderedRun :=
    ⟨rfl, trivial, by decide +kernel, trivial⟩
  exact ⟨(publicationOrder_iff (Machine.exec_run _ _ _ met)).1, by decide +kernel⟩

/-! ## A clock that steps back -/

/-- The second event of `task-1`, a second before the first one by the clock. -/
def steppedBackEvent : OutboxAction :=
  .enqueueEvent exampleOutboxLease "codex.item" .null secondDelivery "2026-08-29T23:59:59.000Z"

def steppedBackRun : List OutboxAction := [firstEvent, .writeCursor, steppedBackEvent]

/-- **The second event is published first** when the clock steps back. -/
theorem publicationOrder_counterexample :
    ¬ ∀ (config : OutboxConfig) (history : List (OutboxAction × OutboxOutcome)) (outbox : Outbox),
      (outboxMachine config).Run FreshIds .empty history outbox →
      PublishesInOrder (pendingQueue history) := by
  intro claimed
  have met : (outboxMachine exampleConfig).Met FreshIds .empty steppedBackRun :=
    ⟨rfl, trivial, by decide +kernel, trivial⟩
  have run := Machine.exec_run _ _ _ met
  have inOrder := claimed _ _ _ run
  have conditions := (publishesInOrder_iff (queueInvariant_of_run run).enqueued).1 inOrder
  -- both envelopes can be read back, and the second is older by the clock
  have read : (pendingQueue ((outboxMachine exampleConfig).exec .empty steppedBackRun).1).map
      (fun envelope => (envelope.pair, envelope.createdAt, envelope.eventSequence?,
        (parseEnvelope envelope).toOption.isSome)) =
      [(("task-1", "exec-1"), "2026-08-30T00:00:00.000Z", some 1, true),
        (("task-1", "exec-1"), "2026-08-29T23:59:59.000Z", some 2, true)] := by decide +kernel
  generalize pendingQueue ((outboxMachine exampleConfig).exec .empty steppedBackRun).1 = queue
    at conditions read
  obtain ⟨first, rest, rfl, isFirst, read⟩ := List.map_eq_cons_iff.1 read
  obtain ⟨second, rest, rfl, isSecond, read⟩ := List.map_eq_cons_iff.1 read
  have none_left := List.map_eq_nil_iff.1 read
  subst none_left
  simp only [Prod.mk.injEq] at isFirst isSecond
  obtain ⟨firstPair, firstTime, firstSequence, firstParses⟩ := isFirst
  obtain ⟨secondPair, secondTime, secondSequence, secondParses⟩ := isSecond
  have parses {envelope : OutboxEnvelope}
      (some_parsed : (parseEnvelope envelope).toOption.isSome = true) :
      ∃ parsed, parseEnvelope envelope = .ok parsed := by
    cases outcome : parseEnvelope envelope with
    | error error => simp [outcome, Except.toOption] at some_parsed
    | ok parsed => exact ⟨parsed, rfl⟩
  have allParse : AllParse [first, second] := by
    intro envelope member
    simp only [List.mem_cons, List.not_mem_nil, or_false] at member
    rcases member with rfl | rfl
    · exact parses firstParses
    · exact parses secondParses
  have clock := List.rel_of_pairwise_cons (conditions.2 allParse) List.mem_cons_self
    (firstPair.trans secondPair.symm) (by rw [firstSequence]; rfl)
  rw [firstTime, secondTime] at clock
  exact clock (by decide +kernel)

end Zero3Pilot.RemoteHost
