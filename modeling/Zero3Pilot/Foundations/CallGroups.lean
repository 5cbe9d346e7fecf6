import Mathlib.Data.List.Forall2

/-! # Grouping calls with their replies

A history records messages, notes, calls and replies to calls, one after the other. A *ledger* reads
it once and writes it out so that the calls which were made together stand together, each with the
reply that was recorded while its group was open: a message closes the group, and so does a call that
comes when every call of the group has a reply. A reply counts only while its call is pending, and a
call only the first time its id occurs.

What is written out is up to a *scribe*. The *turns* of a history are what the scribe is told.

* `Ledger.run`, `transcribe` — the reading of a history.
* `transcribe_eq` — what is written out is what the scribe makes of the turns.
* `firstCalls` — the first call of each id, and what the history records after it.
* `entries_fit` — the turns hold exactly the first calls, in order, and a call has a reply exactly when
  one is recorded before the next message. -/

namespace Zero3Pilot

variable {Id Message Note Call Reply Out : Type} [DecidableEq Id]

/-! ## Histories -/

inductive Recorded (Id Message Note Call Reply : Type) where
  | said (message : Message)
  | noted (note : Note)
  | called (id : Id) (call : Call)
  | answered (id : Id) (reply : Reply)

structure CallEntry (Id Call Reply : Type) where
  id : Id
  call : Call
  reply : Option Reply

/-- What a scribe is told. -/
inductive Turn (Id Message Note Call Reply : Type) where
  | said (message : Message)
  | noted (note : Note)
  | group (entries : List (CallEntry Id Call Reply))

/-- How a history is written out. -/
structure Scribe (Id Message Note Call Reply Out : Type) where
  say : Out → Message → Out
  note : Out → Note → Out
  write : Out → List (CallEntry Id Call Reply) → Out

def Scribe.tell (scribe : Scribe Id Message Note Call Reply Out) (out : Out) :
    Turn Id Message Note Call Reply → Out
  | .said message => scribe.say out message
  | .noted note => scribe.note out note
  | .group entries => scribe.write out entries

/-! ## The ledger -/

/-- What has been written out, the calls of the open group, the replies they got, and the calls that
were written. -/
structure Ledger (Id Call Reply Out : Type) where
  out : Out
  pending : List (Id × Call)
  results : Id → Option Reply
  written : List Id

namespace Ledger

variable (scribe : Scribe Id Message Note Call Reply Out)

def pendingIds (ledger : Ledger Id Call Reply Out) : List Id := ledger.pending.map Prod.fst

/-- The calls of the open group, with their replies. -/
def entries (ledger : Ledger Id Call Reply Out) : List (CallEntry Id Call Reply) :=
  ledger.pending.map fun call => ⟨call.1, call.2, ledger.results call.1⟩

/-- The open group is closed. -/
def flush (ledger : Ledger Id Call Reply Out) : Ledger Id Call Reply Out :=
  if ledger.pending = [] then ledger
  else
    { out := scribe.write ledger.out ledger.entries
      pending := []
      results := fun id => if id ∈ ledger.pendingIds then none else ledger.results id
      written := ledger.written ++ ledger.pendingIds }

def complete (ledger : Ledger Id Call Reply Out) : Bool :=
  ledger.pending ≠ [] && ledger.pending.all fun call => (ledger.results call.1).isSome

def join (ledger : Ledger Id Call Reply Out) (id : Id) (call : Call) : Ledger Id Call Reply Out :=
  { ledger with pending := ledger.pending ++ [(id, call)] }

/-- A call joins the open group, or begins the next one. -/
def call (ledger : Ledger Id Call Reply Out) (id : Id) (call : Call) : Ledger Id Call Reply Out :=
  if id ∈ ledger.written ∨ id ∈ ledger.pendingIds then ledger
  else
    (if ledger.complete then ledger.flush scribe else ledger).join id call

def answer (ledger : Ledger Id Call Reply Out) (id : Id) (reply : Reply) : Ledger Id Call Reply Out :=
  if id ∈ ledger.written ∨ id ∉ ledger.pendingIds then ledger
  else { ledger with results := Function.update ledger.results id (some reply) }

/-- A message closes the open group. -/
def say (ledger : Ledger Id Call Reply Out) (message : Message) : Ledger Id Call Reply Out :=
  let ledger := ledger.flush scribe
  { ledger with out := scribe.say ledger.out message }

def read (ledger : Ledger Id Call Reply Out) :
    Recorded Id Message Note Call Reply → Ledger Id Call Reply Out
  | .said message => ledger.say scribe message
  | .noted note => { ledger with out := scribe.note ledger.out note }
  | .called id call => ledger.call scribe id call
  | .answered id reply => ledger.answer id reply

def run (ledger : Ledger Id Call Reply Out) (history : List (Recorded Id Message Note Call Reply)) :
    Ledger Id Call Reply Out :=
  history.foldl (read scribe) ledger

/-- A ledger in which nothing is written. -/
def fresh (out : Out) : Ledger Id Call Reply Out := ⟨out, [], fun _ => none, []⟩

end Ledger

/-- **What is written out of a history.** -/
def transcribe (scribe : Scribe Id Message Note Call Reply Out) (out : Out)
    (history : List (Recorded Id Message Note Call Reply)) : Out :=
  (((Ledger.fresh out).run scribe history).flush scribe).out

/-! ## The turns -/

/-- The scribe that writes down what it is told. -/
def clerk : Scribe Id Message Note Call Reply (List (Turn Id Message Note Call Reply)) where
  say turns message := turns ++ [.said message]
  note turns note := turns ++ [.noted note]
  write turns entries := turns ++ [.group entries]

def turnsOf (history : List (Recorded Id Message Note Call Reply)) :
    List (Turn Id Message Note Call Reply) :=
  transcribe clerk [] history

namespace Ledger

/-- The same ledger, what is written out being changed. -/
def mapOut {Out' : Type} (f : Out → Out') (ledger : Ledger Id Call Reply Out) :
    Ledger Id Call Reply Out' :=
  ⟨f ledger.out, ledger.pending, ledger.results, ledger.written⟩

variable (scribe : Scribe Id Message Note Call Reply Out) (out : Out)

def told (turns : List (Turn Id Message Note Call Reply)) : Out := turns.foldl scribe.tell out

omit [DecidableEq Id] in
@[simp] theorem told_append (turns : List (Turn Id Message Note Call Reply))
    (turn : Turn Id Message Note Call Reply) :
    told scribe out (turns ++ [turn]) = scribe.tell (told scribe out turns) turn := by
  rw [told, List.foldl_append]
  rfl

theorem mapOut_flush (ledger : Ledger Id Call Reply (List (Turn Id Message Note Call Reply))) :
    (ledger.flush clerk).mapOut (told scribe out) = (ledger.mapOut (told scribe out)).flush scribe := by
  by_cases none : ledger.pending = []
  · have same : (ledger.mapOut (told scribe out)).pending = [] := none
    rw [flush, if_pos none, flush, if_pos same]
  · have same : (ledger.mapOut (told scribe out)).pending ≠ [] := none
    rw [flush, if_neg none, flush, if_neg same, mapOut]
    simp only [clerk, told_append]
    rfl

theorem mapOut_read (ledger : Ledger Id Call Reply (List (Turn Id Message Note Call Reply)))
    (record : Recorded Id Message Note Call Reply) :
    (ledger.read clerk record).mapOut (told scribe out) =
      (ledger.mapOut (told scribe out)).read scribe record := by
  cases record with
  | said message =>
    simp only [read, say, ← mapOut_flush]
    simp [mapOut, clerk, Scribe.tell]
  | noted note => simp [read, mapOut, clerk, Scribe.tell]
  | called id call =>
    simp only [read, Ledger.call]
    by_cases known : id ∈ ledger.written ∨ id ∈ ledger.pendingIds
    · have same : id ∈ (ledger.mapOut (told scribe out)).written ∨
          id ∈ (ledger.mapOut (told scribe out)).pendingIds := known
      rw [if_pos known, if_pos same]
    · have same : ¬ (id ∈ (ledger.mapOut (told scribe out)).written ∨
          id ∈ (ledger.mapOut (told scribe out)).pendingIds) := known
      rw [if_neg known, if_neg same]
      by_cases complete : ledger.complete = true
      · have same : (ledger.mapOut (told scribe out)).complete = true := complete
        rw [if_pos complete, if_pos same, ← mapOut_flush]
        rfl
      · have same : ¬ (ledger.mapOut (told scribe out)).complete = true := complete
        rw [if_neg complete, if_neg same]
        rfl
  | answered id reply =>
    simp only [read, answer]
    by_cases late : id ∈ ledger.written ∨ id ∉ ledger.pendingIds
    · have same : id ∈ (ledger.mapOut (told scribe out)).written ∨
          id ∉ (ledger.mapOut (told scribe out)).pendingIds := late
      rw [if_pos late, if_pos same]
    · have same : ¬ (id ∈ (ledger.mapOut (told scribe out)).written ∨
          id ∉ (ledger.mapOut (told scribe out)).pendingIds) := late
      rw [if_neg late, if_neg same]
      rfl

theorem mapOut_run (history : List (Recorded Id Message Note Call Reply))
    (ledger : Ledger Id Call Reply (List (Turn Id Message Note Call Reply))) :
    (ledger.run clerk history).mapOut (told scribe out) =
      (ledger.mapOut (told scribe out)).run scribe history := by
  induction history generalizing ledger with
  | nil => rfl
  | cons record rest ih =>
    have step := ih (ledger.read clerk record)
    rw [mapOut_read] at step
    exact step

end Ledger

/-- **What is written out is what the scribe makes of the turns.** -/
theorem transcribe_eq (scribe : Scribe Id Message Note Call Reply Out) (out : Out)
    (history : List (Recorded Id Message Note Call Reply)) :
    transcribe scribe out history = (turnsOf history).foldl scribe.tell out := by
  have run := Ledger.mapOut_run scribe out history (Ledger.fresh [])
  have closed := Ledger.mapOut_flush scribe out ((Ledger.fresh []).run clerk history)
  rw [run] at closed
  exact (congrArg Ledger.out closed).symm

/-! ## The first calls -/

structure FirstCall (Id Message Note Call Reply : Type) where
  id : Id
  call : Call
  after : List (Recorded Id Message Note Call Reply)

def firstCalls (known : List Id) :
    List (Recorded Id Message Note Call Reply) → List (FirstCall Id Message Note Call Reply)
  | [] => []
  | .called id call :: rest =>
    if id ∈ known then firstCalls known rest
    else ⟨id, call, rest⟩ :: firstCalls (id :: known) rest
  | _ :: rest => firstCalls known rest

theorem firstCalls_congr (history : List (Recorded Id Message Note Call Reply)) {known known' : List Id}
    (same : ∀ id, id ∈ known ↔ id ∈ known') : firstCalls known history = firstCalls known' history := by
  induction history generalizing known known' with
  | nil => rfl
  | cons record rest ih =>
    cases record with
    | called id call =>
      have later : ∀ other, other ∈ id :: known ↔ other ∈ id :: known' := by
        intro other
        rw [List.mem_cons, List.mem_cons, same other]
      simp only [firstCalls, same id, ih same, ih later]
    | said message | noted note | answered id reply => exact ih same

def promptReplies (id : Id) : List (Recorded Id Message Note Call Reply) → List Reply
  | [] => []
  | .said _ :: _ => []
  | .answered other reply :: rest =>
    if other = id then reply :: promptReplies id rest else promptReplies id rest
  | _ :: rest => promptReplies id rest

/-- An entry is that of a call that had the reply `kept` before the rest of the history was read. -/
structure FirstCall.Fits (kept : Option Reply) (first : FirstCall Id Message Note Call Reply)
    (entry : CallEntry Id Call Reply) : Prop where
  id : entry.id = first.id
  call : entry.call = first.call
  unanswered : entry.reply = none ↔ kept = none ∧ promptReplies first.id first.after = []
  recorded : ∀ reply, entry.reply = some reply →
    kept = some reply ∨ reply ∈ promptReplies first.id first.after

/-! ## What the turns hold -/

def Turn.entries : Turn Id Message Note Call Reply → List (CallEntry Id Call Reply)
  | .group entries => entries
  | _ => []

namespace Ledger

structure Tidy (ledger : Ledger Id Call Reply Out) : Prop where
  unwritten : ∀ id ∈ ledger.pendingIds, id ∉ ledger.written
  current : ∀ id, ledger.results id ≠ none → id ∈ ledger.pendingIds

def knownIds (ledger : Ledger Id Call Reply Out) : List Id := ledger.written ++ ledger.pendingIds

variable (scribe : Scribe Id Message Note Call Reply Out)

@[simp] theorem flush_pending (ledger : Ledger Id Call Reply Out) :
    (ledger.flush scribe).pending = [] := by
  by_cases none : ledger.pending = []
  · rw [flush, if_pos none, none]
  · rw [flush, if_neg none]

@[simp] theorem flush_knownIds (ledger : Ledger Id Call Reply Out) :
    (ledger.flush scribe).knownIds = ledger.knownIds := by
  by_cases none : ledger.pending = []
  · rw [flush, if_pos none]
  · rw [flush, if_neg none]
    simp [knownIds, pendingIds]

theorem Tidy.flush_results {ledger : Ledger Id Call Reply Out} (tidy : ledger.Tidy) (id : Id) :
    (ledger.flush scribe).results id = none := by
  by_cases none : ledger.pending = []
  · rw [flush, if_pos none]
    by_contra some
    have member := tidy.current id some
    rw [pendingIds, none] at member
    cases member
  · rw [flush, if_neg none]
    by_cases member : id ∈ ledger.pendingIds
    · exact if_pos member
    · refine (if_neg member).trans ?_
      by_contra some
      exact member (tidy.current id some)

theorem Tidy.flush {ledger : Ledger Id Call Reply Out} (tidy : ledger.Tidy) :
    (ledger.flush scribe).Tidy := by
  constructor
  · intro id member
    rw [pendingIds, flush_pending] at member
    cases member
  · intro id some
    exact absurd (tidy.flush_results scribe id) some

theorem entries_flush (ledger : Ledger Id Call Reply (List (Turn Id Message Note Call Reply))) :
    (ledger.flush clerk).out.flatMap Turn.entries = ledger.out.flatMap Turn.entries ++ ledger.entries := by
  by_cases none : ledger.pending = []
  · rw [Ledger.flush, if_pos none, entries, none, List.map_nil, List.append_nil]
  · rw [Ledger.flush, if_neg none]
    simp [clerk, Turn.entries]

omit [DecidableEq Id] in
theorem Tidy.join {ledger : Ledger Id Call Reply Out} (tidy : ledger.Tidy) {id : Id}
    (fresh : id ∉ ledger.knownIds) (call : Call) : (ledger.join id call).Tidy := by
  constructor
  · intro other member
    rw [pendingIds, Ledger.join, List.map_append, List.mem_append] at member
    obtain pending | last := member
    · exact tidy.unwritten other pending
    · rw [List.mem_singleton.1 last]
      exact fun written => fresh (List.mem_append_left _ written)
  · intro other some
    rw [pendingIds, Ledger.join, List.map_append]
    exact List.mem_append_left _ (tidy.current other some)

theorem join_firstCalls (ledger : Ledger Id Call Reply Out) (id : Id) (call : Call)
    (history : List (Recorded Id Message Note Call Reply)) :
    firstCalls (ledger.join id call).knownIds history =
      firstCalls (id :: ledger.knownIds) history := by
  apply firstCalls_congr
  intro other
  simp only [knownIds, pendingIds, join, List.map_append, List.mem_append, List.mem_cons,
    List.map_cons, List.map_nil, List.not_mem_nil, or_false]
  rw [← or_assoc, or_comm]

structure Fulfils (ledger : Ledger Id Call Reply (List (Turn Id Message Note Call Reply)))
    (history : List (Recorded Id Message Note Call Reply))
    (opened added : List (CallEntry Id Call Reply)) : Prop where
  total : ((ledger.run clerk history).flush clerk).out.flatMap Turn.entries =
    ledger.out.flatMap Turn.entries ++ opened ++ added
  opened : List.Forall₂ (fun call entry =>
    FirstCall.Fits (ledger.results call.1) ⟨call.1, call.2, history⟩ entry) ledger.pending opened
  added : List.Forall₂ (FirstCall.Fits none) (firstCalls ledger.knownIds history) added

theorem fits_entries (ledger : Ledger Id Call Reply Out)
    (history : List (Recorded Id Message Note Call Reply))
    (closed : ledger.complete = true ∨ ∀ id, promptReplies id history = []) :
    List.Forall₂ (fun call entry =>
      FirstCall.Fits (ledger.results call.1) ⟨call.1, call.2, history⟩ entry)
      ledger.pending ledger.entries := by
  rw [entries, List.forall₂_map_right_iff, List.forall₂_same]
  intro call member
  refine ⟨rfl, rfl, ?_, fun reply found => .inl found⟩
  obtain complete | none := closed
  · have replied : (ledger.results call.1).isSome = true := by
      have all := (Bool.and_eq_true_iff.1 complete).2
      exact List.all_eq_true.1 all call member
    obtain ⟨reply, found⟩ := Option.isSome_iff_exists.1 replied
    simp [found]
  · simp [none]

theorem fits_cons {kept kept' : Option Reply} {id : Id} {call : Call}
    {record : Recorded Id Message Note Call Reply}
    {rest : List (Recorded Id Message Note Call Reply)} {entry : CallEntry Id Call Reply}
    (same : kept = kept') (replies : promptReplies id (record :: rest) = promptReplies id rest)
    (fits : FirstCall.Fits kept ⟨id, call, rest⟩ entry) :
    FirstCall.Fits kept' ⟨id, call, record :: rest⟩ entry := by
  subst same
  refine ⟨fits.id, fits.call, ?_, ?_⟩
  · rw [fits.unanswered]
    exact and_congr_right' (by rw [replies])
  · intro reply found
    have recorded := fits.recorded reply found
    rwa [← replies] at recorded

theorem forall₂_concat {α β : Type} {R : α → β → Prop} {left : List α} {last : α} {right : List β}
    (related : List.Forall₂ R (left ++ [last]) right) :
    ∃ front partner, right = front ++ [partner] ∧ List.Forall₂ R left front ∧ R last partner := by
  induction left generalizing right with
  | nil =>
    obtain ⟨partner, rest, first, none, rfl⟩ := List.forall₂_cons_left_iff.1 related
    rw [List.forall₂_nil_left_iff.1 none]
    exact ⟨[], partner, rfl, .nil, first⟩
  | cons item left ih =>
    obtain ⟨other, rest, first, others, rfl⟩ := List.forall₂_cons_left_iff.1 related
    obtain ⟨front, partner, rfl, pairs, ends⟩ := ih others
    exact ⟨other :: front, partner, rfl, .cons first pairs, ends⟩

/-- **The run lemma**: the entries are those of the open group and of the calls to come. -/
theorem fulfils (history : List (Recorded Id Message Note Call Reply))
    (ledger : Ledger Id Call Reply (List (Turn Id Message Note Call Reply))) (tidy : ledger.Tidy) :
    ∃ opened added, ledger.Fulfils history opened added := by
  induction history generalizing ledger with
  | nil =>
    refine ⟨ledger.entries, [], ?_, fits_entries ledger [] (.inr fun _ => rfl), .nil⟩
    rw [List.append_nil]
    exact entries_flush ledger
  | cons record rest ih =>
    cases record with
    | said message =>
      obtain ⟨opened, added, later⟩ := ih (ledger.say clerk message)
        ⟨(tidy.flush clerk).unwritten, (tidy.flush clerk).current⟩
      have none : opened = [] := by
        have both := later.opened
        rw [show (ledger.say clerk message).pending = [] from flush_pending clerk ledger] at both
        cases both
        rfl
      subst none
      refine ⟨ledger.entries, added, ?_, fits_entries ledger _ (.inr fun _ => rfl), ?_⟩
      · refine later.total.trans ?_
        simp [say, clerk, Turn.entries, ← entries_flush]
      · have known : (ledger.say clerk message).knownIds = ledger.knownIds :=
          flush_knownIds clerk ledger
        rw [← known]
        exact later.added
    | noted note =>
      obtain ⟨opened, added, later⟩ := ih { ledger with out := clerk.note ledger.out note }
        ⟨tidy.unwritten, tidy.current⟩
      refine ⟨opened, added, ?_, ?_, later.added⟩
      · refine later.total.trans ?_
        simp [clerk, Turn.entries]
      · exact later.opened.imp fun _ _ fits => fits_cons rfl rfl fits
    | called id call =>
      by_cases known : id ∈ ledger.written ∨ id ∈ ledger.pendingIds
      · have same : ledger.read clerk (.called id call) = ledger := if_pos known
        obtain ⟨opened, added, later⟩ := ih ledger tidy
        refine ⟨opened, added, ?_, ?_, ?_⟩
        · refine Eq.trans ?_ later.total
          rw [run, List.foldl_cons, same]
          rfl
        · exact later.opened.imp fun _ _ fits => fits_cons rfl rfl fits
        · have member : id ∈ ledger.knownIds := List.mem_append.2 known
          rw [firstCalls, if_pos member]
          exact later.added
      · have fresh : id ∉ ledger.knownIds := fun member => known (List.mem_append.1 member)
        have calls : firstCalls ledger.knownIds (.called id call :: rest) =
            ⟨id, call, rest⟩ :: firstCalls (id :: ledger.knownIds) rest := if_neg fresh
        by_cases complete : ledger.complete = true
        · have same : ledger.read clerk (.called id call) = (ledger.flush clerk).join id call := by
            refine (if_neg known).trans ?_
            rw [if_pos complete]
          have freshToo : id ∉ (ledger.flush clerk).knownIds := by
            rw [flush_knownIds]
            exact fresh
          obtain ⟨opened, added, later⟩ := ih _ ((tidy.flush clerk).join freshToo call)
          obtain ⟨front, entry, rfl, others, fits⟩ := forall₂_concat later.opened
          rw [flush_pending] at others
          cases others
          refine ⟨ledger.entries, entry :: added, ?_, fits_entries ledger _ (.inl complete), ?_⟩
          · rw [run, List.foldl_cons, same]
            refine later.total.trans ?_
            simp [join, ← entries_flush]
          · rw [calls]
            refine .cons ?_ ?_
            · rw [← tidy.flush_results clerk id]
              exact fits
            · have added := later.added
              rwa [join_firstCalls, flush_knownIds] at added
        · have same : ledger.read clerk (.called id call) = ledger.join id call := by
            refine (if_neg known).trans ?_
            rw [if_neg complete]
          obtain ⟨opened, added, later⟩ := ih _ (tidy.join fresh call)
          obtain ⟨front, entry, rfl, others, fits⟩ := forall₂_concat later.opened
          refine ⟨front, entry :: added, ?_, ?_, ?_⟩
          · rw [run, List.foldl_cons, same]
            refine later.total.trans ?_
            simp [join]
          · exact others.imp fun _ _ fits => fits_cons rfl rfl fits
          · rw [calls]
            refine .cons ?_ ?_
            · have none : ledger.results id = none := by
                by_contra some
                exact fresh (List.mem_append_right _ (tidy.current id some))
              rw [← none]
              exact fits
            · have added := later.added
              rwa [join_firstCalls] at added
    | answered id reply =>
      by_cases late : id ∈ ledger.written ∨ id ∉ ledger.pendingIds
      · have same : ledger.read clerk (.answered id reply) = ledger := if_pos late
        obtain ⟨opened, added, later⟩ := ih ledger tidy
        refine ⟨opened, added, ?_, ?_, later.added⟩
        · refine Eq.trans ?_ later.total
          rw [run, List.foldl_cons, same]
          rfl
        · have other : ∀ call ∈ ledger.pending, call.1 ≠ id := by
            rintro call member rfl
            have pending : call.1 ∈ ledger.pendingIds := List.mem_map_of_mem member
            obtain written | absent := late
            · exact tidy.unwritten call.1 pending written
            · exact absent pending
          rw [List.forall₂_iff_zip]
          refine ⟨later.opened.length_eq, fun {call entry} member => ?_⟩
          have fits := (List.forall₂_iff_zip.1 later.opened).2 member
          refine fits_cons rfl ?_ fits
          exact if_neg fun same => other call (List.of_mem_zip member).1 same.symm
      · have same : ledger.read clerk (.answered id reply) =
            { ledger with results := Function.update ledger.results id (some reply) } := if_neg late
        obtain ⟨unwritten, pending⟩ : id ∉ ledger.written ∧ id ∈ ledger.pendingIds := by
          simpa using late
        obtain ⟨opened, added, later⟩ := ih
          { ledger with results := Function.update ledger.results id (some reply) } (by
            refine ⟨tidy.unwritten, fun other some => ?_⟩
            by_cases here : other = id
            · rw [here]
              exact pending
            · exact tidy.current other (by simpa [Function.update_of_ne here] using some))
        refine ⟨opened, added, ?_, ?_, later.added⟩
        · refine Eq.trans ?_ later.total
          rw [run, List.foldl_cons, same]
          rfl
        · refine later.opened.imp fun call entry fits => ?_
          by_cases here : call.1 = id
          · have kept : Function.update ledger.results id (some reply) call.1 = some reply := by
              rw [here, Function.update_self]
            have replied : promptReplies call.1 (.answered id reply :: rest) =
                reply :: promptReplies call.1 rest := if_pos here.symm
            have fits : FirstCall.Fits (some reply) ⟨call.1, call.2, rest⟩ entry := by
              rw [← kept]
              exact fits
            refine ⟨fits.id, fits.call, ?_, fun given found => .inr ?_⟩
            · rw [fits.unanswered, replied]
              simp
            · rw [replied]
              obtain first | recorded := fits.recorded given found
              · rw [Option.some.inj first]
                exact List.mem_cons_self
              · exact List.mem_cons_of_mem _ recorded
          · refine fits_cons (Function.update_of_ne here _ _) ?_ fits
            exact if_neg (Ne.symm here)

end Ledger

/-- **The turns hold exactly the first calls**, in order, each with the reply that fits it. -/
theorem entries_fit (history : List (Recorded Id Message Note Call Reply)) :
    List.Forall₂ (FirstCall.Fits none) (firstCalls [] history)
      ((turnsOf history).flatMap Turn.entries) := by
  have tidy : (Ledger.fresh [] :
      Ledger Id Call Reply (List (Turn Id Message Note Call Reply))).Tidy := by
    refine ⟨fun id member => ?_, fun id some => absurd rfl some⟩
    cases member
  obtain ⟨opened, added, whole⟩ := Ledger.fulfils history (Ledger.fresh []) tidy
  have none : opened = [] := List.forall₂_nil_left_iff.1 whole.opened
  subst none
  have total : (turnsOf history).flatMap Turn.entries = added := whole.total
  rw [total]
  exact whole.added

/-! ## Messages and groups -/

def Turn.message? : Turn Id Message Note Call Reply → Option Message
  | .said message => some message
  | _ => none

def Recorded.message? : Recorded Id Message Note Call Reply → Option Message
  | .said message => some message
  | _ => none

/-- **The messages are told in order.** -/
theorem messages_told (history : List (Recorded Id Message Note Call Reply)) :
    (turnsOf history).filterMap Turn.message? = history.filterMap Recorded.message? := by
  have flushed (ledger : Ledger Id Call Reply (List (Turn Id Message Note Call Reply))) :
      (ledger.flush clerk).out.filterMap Turn.message? = ledger.out.filterMap Turn.message? := by
    by_cases none : ledger.pending = []
    · rw [Ledger.flush, if_pos none]
    · rw [Ledger.flush, if_neg none]
      simp [clerk, Turn.message?]
  have reads (ledger : Ledger Id Call Reply (List (Turn Id Message Note Call Reply))) (record) :
      (ledger.read clerk record).out.filterMap Turn.message? =
        ledger.out.filterMap Turn.message? ++ [record].filterMap Recorded.message? := by
    cases record with
    | said message =>
      have both := flushed ledger
      simp [Ledger.read, Ledger.say, clerk, Turn.message?, Recorded.message?] at both ⊢
      exact both
    | noted note =>
      simp only [Ledger.read, clerk, List.filterMap_append]
      rfl
    | called id call =>
      simp only [Ledger.read, Ledger.call, Recorded.message?, List.filterMap_cons,
        List.filterMap_nil, List.append_nil]
      split
      · rfl
      · split
        · exact flushed ledger
        · rfl
    | answered id reply =>
      simp only [Ledger.read, Ledger.answer, Recorded.message?, List.filterMap_cons,
        List.filterMap_nil, List.append_nil]
      split <;> rfl
  have runs (ledger : Ledger Id Call Reply (List (Turn Id Message Note Call Reply))) :
      (ledger.run clerk history).out.filterMap Turn.message? =
        ledger.out.filterMap Turn.message? ++ history.filterMap Recorded.message? := by
    induction history generalizing ledger with
    | nil => exact (List.append_nil _).symm
    | cons record rest ih =>
      refine (ih _).trans ?_
      rw [reads, List.append_assoc, ← List.filterMap_append]
      rfl
  exact (flushed _).trans (runs _)

/-- **Every group has a call.** -/
theorem groups_nonempty (history : List (Recorded Id Message Note Call Reply)) :
    ∀ turn ∈ turnsOf history, turn ≠ .group [] := by
  have flushed (ledger : Ledger Id Call Reply (List (Turn Id Message Note Call Reply)))
      (kept : ∀ turn ∈ ledger.out, turn ≠ .group []) :
      ∀ turn ∈ (ledger.flush clerk).out, turn ≠ .group [] := by
    by_cases none : ledger.pending = []
    · rw [Ledger.flush, if_pos none]
      exact kept
    · rw [Ledger.flush, if_neg none]
      intro turn member
      obtain earlier | last := List.mem_append.1 member
      · exact kept turn earlier
      · rw [List.mem_singleton.1 last]
        simpa [Ledger.entries] using none
  have runs (ledger : Ledger Id Call Reply (List (Turn Id Message Note Call Reply)))
      (kept : ∀ turn ∈ ledger.out, turn ≠ .group []) :
      ∀ turn ∈ (ledger.run clerk history).out, turn ≠ .group [] := by
    induction history generalizing ledger with
    | nil => exact kept
    | cons record rest ih =>
      apply ih
      cases record with
      | said message =>
        intro turn member
        obtain earlier | last := List.mem_append.1 member
        · exact flushed ledger kept turn earlier
        · rw [List.mem_singleton.1 last]
          rintro ⟨⟩
      | noted note =>
        intro turn member
        obtain earlier | last := List.mem_append.1 member
        · exact kept turn earlier
        · rw [List.mem_singleton.1 last]
          rintro ⟨⟩
      | called id call =>
        simp only [Ledger.read, Ledger.call]
        split
        · exact kept
        · split
          · exact flushed ledger kept
          · exact kept
      | answered id reply =>
        simp only [Ledger.read, Ledger.answer]
        split <;> exact kept
  apply flushed
  apply runs
  intro turn member
  cases member

end Zero3Pilot
