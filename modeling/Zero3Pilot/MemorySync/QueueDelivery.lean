import Zero3Pilot.MemorySync.OutboundQueue

/-! # Delivery states

The runs of both outbound queues in which every call is `Orderly`: each event keeps its row and its
payload, settled events stay settled, and the two queues hold the same deliveries. -/

namespace Zero3Pilot.MemorySync

open Queues (empty)

/-! ## Updates -/

section Updates

variable {table native script : PendingTable} {applies applies' : PendingRow → Bool}
  {change change' : PendingRow → PendingRow} {eventId : String}

theorem map_update {α : Type} (project : PendingRow → α)
    (kept : ∀ row, project (change row) = project row) :
    (table.update applies change).map project = table.map project := by
  rw [PendingTable.update, List.map_map]
  refine List.map_congr_left fun row _ => ?_
  dsimp only [Function.comp_apply]
  split
  · exact kept row
  · rfl

theorem get_update (kept : ∀ row, (change row).eventId = row.eventId) :
    (table.update applies change).get eventId =
      (table.get eventId).map fun row => if applies row then change row else row := by
  have sameId : ∀ row, (if applies row then change row else row).eventId = row.eventId := by
    intro row
    split
    · exact kept row
    · rfl
  induction table with
  | nil => rfl
  | cons row table ih =>
    simp only [PendingTable.get, PendingTable.update, List.map_cons, List.find?_cons, sameId] at ih ⊢
    cases decide (row.eventId = eventId) with
    | true => rfl
    | false => exact ih

theorem update_none (unused : ∀ row ∈ table, applies row = false) :
    table.update applies change = table := by
  rw [PendingTable.update]
  refine (List.map_congr_left fun row member => ?_).trans (List.map_id _)
  rw [unused row member]
  rfl

theorem Agree.update (agree : Agree native script)
    (alike : ∀ row, ∀ other ∈ script, SameDelivery row other →
      SameDelivery (if applies row then change row else row)
        (if applies' other then change' other else other)) :
    Agree (native.update applies change) (script.update applies' change') := by
  induction agree with
  | nil => exact .nil
  | cons same rest ih =>
    refine .cons (alike _ _ List.mem_cons_self same) (ih fun row other member => ?_)
    exact alike row other (List.mem_cons_of_mem _ member)

theorem Agree.map {α : Type} (agree : Agree native script) (project : PendingRow → α)
    (same : ∀ row other, SameDelivery row other → project row = project other) :
    native.map project = script.map project := by
  induction agree with
  | nil => rfl
  | cons sameRow _ ih => rw [List.map_cons, List.map_cons, same _ _ sameRow, ih]

theorem Agree.pending (agree : Agree native script) : Agree native.pending script.pending := by
  induction agree with
  | nil => exact .nil
  | cons same _ ih =>
    simp only [PendingTable.pending, List.filter_cons, same.state] at ih ⊢
    split
    · exact .cons same ih
    · exact ih

/-- **Marking rows one after another** is marking those that wait at once. -/
theorem markSending_eq (now : Nat) (sender : Option Nat) (eventIds : List String) :
    table.markSending now sender eventIds = table.update
      (fun row => eventIds.contains row.eventId && row.state = .pending) (.sending now sender) := by
  induction eventIds generalizing table with
  | nil => exact (update_none fun _ _ => rfl).symm
  | cons eventId eventIds ih =>
    refine (ih).trans ?_
    simp only [PendingTable.update, List.map_map]
    refine List.map_congr_left fun row _ => ?_
    dsimp only [Function.comp_apply]
    by_cases isFirst : (decide (row.eventId = eventId) && decide (row.state = .pending)) = true
    · -- a row that has been marked is not marked again
      have isId : row.eventId = eventId ∧ row.state = .pending := by simpa using isFirst
      rw [if_pos isFirst, if_neg (by simp [PendingRow.sending]), if_pos (by simp [isId])]
    · rw [if_neg isFirst]
      refine if_congr ?_ rfl rfl
      simp only [List.contains_cons, Bool.and_eq_true, Bool.or_eq_true, decide_eq_true_eq, beq_iff_eq]
        at isFirst ⊢
      tauto

theorem Agree.markSending (agree : Agree native script) (now : Nat) (sender sender' : Option Nat)
    {eventIds eventIds' : List String} (same : ∀ eventId, eventId ∈ eventIds ↔ eventId ∈ eventIds') :
    Agree (native.markSending now sender eventIds) (script.markSending now sender' eventIds') := by
  rw [markSending_eq, markSending_eq]
  refine agree.update fun row other _ sameRow => ?_
  have isMarked : eventIds.contains row.eventId = eventIds'.contains other.eventId := by
    rw [Bool.eq_iff_iff, List.contains_iff_mem, List.contains_iff_mem, sameRow.eventId, same]
  rw [isMarked, sameRow.state]
  split
  · exact ⟨sameRow.eventId, sameRow.payload, rfl, congrArg (· + 1) sameRow.retryCount,
      sameRow.lastError, sameRow.serverSequence, sameRow.createdAt⟩
  · exact sameRow

theorem map_markSending {α : Type} (project : PendingRow → α) (now : Nat) (sender : Option Nat)
    (kept : ∀ row : PendingRow, project (row.sending now sender) = project row)
    (eventIds : List String) : (table.markSending now sender eventIds).map project = table.map project := by
  induction eventIds generalizing table with
  | nil => rfl
  | cons eventId eventIds ih => exact (ih).trans (map_update project kept)

end Updates

/-! ## Settled events -/

section Settled

variable {table later : PendingTable} {applies : PendingRow → Bool} {change : PendingRow → PendingRow}

theorem StaysSettled.refl (table : PendingTable) : StaysSettled table table :=
  fun _ row found _ => ⟨row, found, rfl⟩

theorem StaysSettled.trans {last : PendingTable} (first : StaysSettled table later)
    (second : StaysSettled later last) : StaysSettled table last := by
  intro eventId row found final
  obtain ⟨row', found', same⟩ := first eventId row found final
  obtain ⟨row'', found'', same'⟩ := second eventId row' found' (same ▸ final)
  exact ⟨row'', found'', same'.trans same⟩

theorem mem_of_get {eventId : String} {row : PendingRow} (found : table.get eventId = some row) :
    row ∈ table ∧ row.eventId = eventId :=
  ⟨List.mem_of_find?_eq_some found, by simpa using List.find?_some found⟩

/-- **An update** that leaves the states of settled rows. -/
theorem staysSettled_update (kept : ∀ row, (change row).eventId = row.eventId)
    (settled : ∀ row ∈ table, applies row = true → row.state.IsFinal → (change row).state = row.state) :
    StaysSettled table (table.update applies change) := by
  intro eventId row found final
  refine ⟨if applies row then change row else row, ?_, ?_⟩
  · rw [get_update kept, found]
    rfl
  · by_cases isApplied : applies row = true
    · rw [if_pos isApplied]
      exact settled row (mem_of_get found).1 isApplied final
    · rw [if_neg isApplied]

theorem staysSettled_markSending (now : Nat) (sender : Option Nat) (eventIds : List String) :
    StaysSettled table (table.markSending now sender eventIds) := by
  induction eventIds generalizing table with
  | nil => exact .refl table
  | cons eventId eventIds ih =>
    have marked : StaysSettled table (table.update
        (fun row => row.eventId = eventId && row.state = .pending) (.sending now sender)) := by
      refine staysSettled_update (fun _ => rfl) fun row _ isApplied final => ?_
      -- a row that is marked was pending
      simp only [Bool.and_eq_true, decide_eq_true_eq] at isApplied
      rw [isApplied.2] at final
      exact final.elim
    exact marked.trans ih

theorem staysSettled_insert (row : PendingRow) : StaysSettled table (table.insertOrIgnore row) := by
  unfold PendingTable.insertOrIgnore
  split
  · exact .refl table
  · intro eventId found isFound _
    refine ⟨found, ?_, rfl⟩
    rw [PendingTable.get, List.find?_append]
    have isFound : table.find? (fun row => row.eventId = eventId) = some found := isFound
    rw [isFound]
    rfl

end Settled

/-! ## Agreement -/

section Agreement

variable {queues : Queues} {call : QueueCall}

theorem takeFitting_eq {rows : List PendingRow} {bytes : Nat} {taken : Bool}
    (fits : bytes + batchSize rows ≤ Script.batchBytes) :
    Script.takeFitting bytes taken rows = rows := by
  induction rows generalizing bytes taken with
  | nil => rfl
  | cons row rows ih =>
    rw [batchSize] at fits
    rw [Script.takeFitting, if_neg fun exceeds => by omega, ih (by omega)]

theorem takeFitting_of_fit {rows : List PendingRow} (fits : FitBatch rows) :
    Script.takeFitting 0 false rows = rows := by
  rcases fits with few | fits
  · -- the first row is always taken
    cases rows with
    | nil => rfl
    | cons row rows =>
      cases rows with
      | nil => rfl
      | cons row' rows =>
        rw [List.length_cons, List.length_cons] at few
        omega
  · exact takeFitting_eq (by omega)

theorem claimed_agree (agree : Agree queues.native queues.script) {limit : Nat}
    (fits : FitBatch (queues.script.pending.take limit))
    (inOrder : queues.script.pending.length ≤ limit ∨
      queues.script.pending.Pairwise fun row other => row.createdAt ≤ other.createdAt)
    (eventId : String) :
    eventId ∈ (Native.nextBatch limit queues.native).map (·.eventId) ↔
      eventId ∈ (Script.nextBatch limit queues.script).map (·.eventId) := by
  have sameIds := agree.pending.map (·.eventId) fun _ _ same => same.eventId
  rw [Native.nextBatch, Script.nextBatch, takeFitting_of_fit fits]
  rcases inOrder with all | sorted
  · -- everything is claimed, in whatever order
    have allNative : queues.native.pending.length ≤ limit := by
      have lengths := congrArg List.length sameIds
      rw [List.length_map, List.length_map] at lengths
      omega
    rw [List.take_of_length_le all, List.take_of_length_le (by rwa [List.length_mergeSort]),
      ← sameIds]
    exact ((List.mergeSort_perm _ _).map _).mem_iff
  · have sortedNative : queues.native.pending.Pairwise fun row other => row.createdAt ≤ other.createdAt := by
      rw [← List.pairwise_map] at sorted ⊢
      rwa [agree.pending.map (·.createdAt) fun _ _ same => same.createdAt]
    rw [List.mergeSort_of_pairwise (sortedNative.imp fun within => decide_eq_true within), List.map_take,
      List.map_take, sameIds]

theorem get_isSome {table : PendingTable} {eventId : String} :
    (table.get eventId).isSome = true ↔ eventId ∈ table.map (·.eventId) := by
  rw [PendingTable.get, List.find?_isSome]
  simp

theorem Agree.insertOrIgnore {native script : PendingTable} (agree : Agree native script)
    (row : PendingRow) : Agree (native.insertOrIgnore row) (script.insertOrIgnore row) := by
  have known : (native.get row.eventId).isSome = (script.get row.eventId).isSome := by
    rw [Bool.eq_iff_iff, get_isSome, get_isSome, agree.map (·.eventId) fun _ _ same => same.eventId]
  unfold PendingTable.insertOrIgnore
  by_cases isKnown : (script.get row.eventId).isSome = true
  · rw [if_pos isKnown, if_pos (known.trans isKnown)]
    exact agree
  · rw [if_neg isKnown, if_neg fun isKnown' => isKnown (known.symm.trans isKnown')]
    have same : SameDelivery row row := ⟨rfl, rfl, rfl, rfl, rfl, rfl, rfl⟩
    exact List.rel_append agree (.cons same .nil)

theorem refused_alike {row other : PendingRow} {eventId error : String} {state : PendingState} {now : Nat}
    (same : SameDelivery row other) (unacked : other.eventId = eventId → other.state ≠ .acked) :
    SameDelivery (if decide (row.eventId = eventId) then row.refused state error now else row)
      (if decide (other.eventId = eventId) && decide (other.state ≠ .acked) then
        other.refused state error now else other) := by
  rw [same.eventId]
  by_cases isId : other.eventId = eventId
  · rw [if_pos (by simpa using isId), if_pos (by simpa [isId] using unacked isId)]
    exact ⟨same.eventId, same.payload, rfl, same.retryCount, rfl, same.serverSequence, same.createdAt⟩
  · rw [if_neg (by simpa using isId), if_neg (by simp [isId])]
    exact same

theorem reset_alike {row other : PendingRow} {sender now : Nat} (same : SameDelivery row other)
    (resets : other.state = .sending → other.sender = some sender ∨ Script.stale now other = true) :
    SameDelivery (if decide (row.state = .sending) then { row with state := .pending, updatedAt := now }
        else row)
      (if decide (other.state = .sending) && (decide (other.sender = some sender) ||
        Script.stale now other) then Script.released other else other) := by
  rw [same.state]
  by_cases isSending : other.state = .sending
  · rw [if_pos (by simpa using isSending), if_pos (by simpa [isSending] using resets isSending)]
    exact ⟨same.eventId, same.payload, rfl, same.retryCount, same.lastError, same.serverSequence,
      same.createdAt⟩
  · rw [if_neg (by simpa using isSending), if_neg (by simp [isSending])]
    exact same

/-- **An orderly call** keeps the two tables in agreement. -/
theorem serve_agree (agree : Agree queues.native queues.script) (orderly : Orderly queues call) :
    Agree (serveNative call queues.native).2 (serveScript call queues.script).2 := by
  obtain ⟨sender, now, operation⟩ := call
  cases operation with
  | enqueue eventId payload =>
    obtain ⟨trimmed, samePayload⟩ := orderly
    dsimp only [serveNative, serveScript, Native.enqueue, Script.enqueue]
    rw [trimmed]
    by_cases blank : eventId = ""
    · rw [if_pos blank, if_pos blank]
      exact agree
    · have unused : ¬ ((queues.script.get eventId).any fun row => row.payload ≠ payload) = true := by
        cases found : queues.script.get eventId with
        | none => simp
        | some row =>
          have same := samePayload row (mem_of_get found).1 (mem_of_get found).2
          simp [same]
      rw [if_neg blank, if_neg blank, if_neg unused]
      exact agree.insertOrIgnore _
  | nextBatch limit => exact agree
  | claimBatch limit =>
    obtain ⟨fits, inOrder, recent⟩ := orderly
    dsimp only [serveNative, serveScript, Script.claimBatch]
    rw [update_none fun row member => ?_]
    · exact agree.markSending now none (some sender) (claimed_agree agree fits inOrder)
    · cases isSending : decide (row.state = .sending) with
      | false => rfl
      | true => exact recent row member (of_decide_eq_true isSending)
  | markSending eventIds => exact agree.markSending now none (some sender) fun _ => Iff.rfl
  | markAcked eventId sequence =>
    obtain ⟨safe, -⟩ := orderly
    dsimp only [serveNative, serveScript, Native.markAcked, Script.markAcked]
    by_cases positive : sequence < 1
    · rw [if_pos positive, if_pos (.inr positive)]
      exact agree
    · rw [if_neg positive, if_neg (by omega)]
      refine agree.update fun row other _ same => ?_
      rw [same.eventId]
      split
      · exact ⟨same.eventId, same.payload, rfl, same.retryCount, rfl, rfl, same.createdAt⟩
      · exact same
  | markConflict eventId error =>
    exact agree.update fun row other member same => refused_alike same fun isId =>
      (orderly other member isId).1
  | markRejected eventId error =>
    exact agree.update fun row other member same => refused_alike same fun isId =>
      (orderly other member isId).1
  | resetInflight =>
    exact agree.update fun row other member same => reset_alike same (orderly other member)

end Agreement

/-! ## What an orderly call settles -/

section Orderly

variable {queues : Queues} {call : QueueCall}

theorem Agree.mem {native script : PendingTable} (agree : Agree native script) {row : PendingRow}
    (member : row ∈ native) : ∃ other ∈ script, SameDelivery row other := by
  induction agree with
  | nil => cases member
  | cons same _ ih =>
    rcases List.mem_cons.1 member with rfl | member
    · exact ⟨_, List.mem_cons_self, same⟩
    · obtain ⟨other, isOther, same⟩ := ih member
      exact ⟨other, List.mem_cons_of_mem _ isOther, same⟩

section

variable {state : PendingState} (final : state.IsFinal)
include final

theorem PendingState.IsFinal.acked
    (unrefused : state ≠ .conflict ∧ state ≠ .rejected) : state = .acked := by
  cases state with
  | acked => rfl
  | conflict => exact absurd rfl unrefused.1
  | rejected => exact absurd rfl unrefused.2
  | pending | sending => exact final.elim

theorem PendingState.IsFinal.conflict
    (others : state ≠ .acked ∧ state ≠ .rejected) : state = .conflict := by
  cases state with
  | acked => exact absurd rfl others.1
  | conflict => rfl
  | rejected => exact absurd rfl others.2
  | pending | sending => exact final.elim

theorem PendingState.IsFinal.rejected
    (others : state ≠ .acked ∧ state ≠ .conflict) : state = .rejected := by
  cases state with
  | acked => exact absurd rfl others.1
  | conflict => exact absurd rfl others.2
  | rejected => rfl
  | pending | sending => exact final.elim

end

theorem not_final_of_sending {row : PendingRow} (isSending : row.state = .sending) :
    ¬ row.state.IsFinal := by
  rw [isSending]
  exact id

/-- **The script queue** leaves settled events as they are. -/
theorem serveScript_settled (orderly : Orderly queues call) :
    StaysSettled queues.script (serveScript call queues.script).2 := by
  obtain ⟨sender, now, operation⟩ := call
  cases operation with
  | enqueue eventId payload =>
    dsimp only [serveScript, Script.enqueue]
    split
    · exact .refl _
    · split
      · exact .refl _
      · exact staysSettled_insert _
  | nextBatch limit => exact .refl _
  | claimBatch limit =>
    have released : StaysSettled queues.script (queues.script.update
        (fun row => row.state = .sending && Script.stale now row) Script.released) := by
      refine staysSettled_update (fun _ => rfl) fun row _ isApplied final => ?_
      simp only [Bool.and_eq_true, decide_eq_true_eq] at isApplied
      exact absurd final (not_final_of_sending isApplied.1)
    exact released.trans (staysSettled_markSending now (some sender) _)
  | markSending eventIds => exact staysSettled_markSending now (some sender) eventIds
  | markAcked eventId sequence =>
    dsimp only [serveScript, Script.markAcked]
    split
    · exact .refl _
    · refine staysSettled_update (fun _ => rfl) fun row member isApplied final => ?_
      exact (final.acked (orderly.2 row member (of_decide_eq_true isApplied))).symm
  | markConflict eventId error =>
    refine staysSettled_update (fun _ => rfl) fun row member isApplied final => ?_
    simp only [Bool.and_eq_true, decide_eq_true_eq] at isApplied
    exact (final.conflict (orderly row member isApplied.1)).symm
  | markRejected eventId error =>
    refine staysSettled_update (fun _ => rfl) fun row member isApplied final => ?_
    simp only [Bool.and_eq_true, decide_eq_true_eq] at isApplied
    exact (final.rejected (orderly row member isApplied.1)).symm
  | resetInflight =>
    refine staysSettled_update (fun _ => rfl) fun row _ isApplied final => ?_
    simp only [Bool.and_eq_true, decide_eq_true_eq] at isApplied
    exact absurd final (not_final_of_sending isApplied.1)

/-- **The native queue** leaves settled events as they are. -/
theorem serveNative_settled (agree : Agree queues.native queues.script) (orderly : Orderly queues call) :
    StaysSettled queues.native (serveNative call queues.native).2 := by
  obtain ⟨sender, now, operation⟩ := call
  cases operation with
  | enqueue eventId payload =>
    dsimp only [serveNative, Native.enqueue]
    split
    · exact .refl _
    · exact staysSettled_insert _
  | nextBatch limit => exact .refl _
  | claimBatch limit => exact staysSettled_markSending now none _
  | markSending eventIds => exact staysSettled_markSending now none eventIds
  | markAcked eventId sequence =>
    dsimp only [serveNative, Native.markAcked]
    split
    · exact .refl _
    · refine staysSettled_update (fun _ => rfl) fun row member isApplied final => ?_
      obtain ⟨other, isOther, same⟩ := agree.mem member
      have isId := same.eventId.symm.trans (of_decide_eq_true isApplied)
      exact (final.acked (same.state ▸ orderly.2 other isOther isId)).symm
  | markConflict eventId error =>
    refine staysSettled_update (fun _ => rfl) fun row member isApplied final => ?_
    obtain ⟨other, isOther, same⟩ := agree.mem member
    have isId := same.eventId.symm.trans (of_decide_eq_true isApplied)
    exact (final.conflict (same.state ▸ orderly other isOther isId)).symm
  | markRejected eventId error =>
    refine staysSettled_update (fun _ => rfl) fun row member isApplied final => ?_
    obtain ⟨other, isOther, same⟩ := agree.mem member
    have isId := same.eventId.symm.trans (of_decide_eq_true isApplied)
    exact (final.rejected (same.state ▸ orderly other isOther isId)).symm
  | resetInflight =>
    refine staysSettled_update (fun _ => rfl) fun row _ isApplied final => ?_
    exact absurd final (not_final_of_sending (of_decide_eq_true isApplied))

end Orderly

/-! ## What rows are about -/

section Stamps

variable {history : List (QueueCall × QueueReplies)} {queues : Queues} {call : QueueCall}
  {table : PendingTable}

/-- What no operation changes of a row. -/
def PendingRow.stamp (row : PendingRow) : String × String × Nat :=
  (row.eventId, row.payload, row.createdAt)

/-- **Only a new event** changes what the rows are about. -/
theorem serveScript_stamps (call : QueueCall) (table : PendingTable) :
    (serveScript call table).2.map PendingRow.stamp = table.map PendingRow.stamp ∧
        (∀ eventId payload, call.enqueued? = some (eventId, payload) → (table.get eventId).isSome) ∨
      ∃ eventId payload, call.enqueued? = some (eventId, payload) ∧ table.get eventId = none ∧
        (serveScript call table).2.map PendingRow.stamp =
          table.map PendingRow.stamp ++ [(eventId, payload, call.now)] := by
  obtain ⟨sender, now, operation⟩ := call
  -- what the other operations enqueue
  have nothing : ∀ {eventId payload : String}, none = some (eventId, payload) →
      (table.get eventId).isSome := by
    rintro _ _ ⟨⟩
  cases operation with
  | enqueue eventId payload =>
    dsimp only [serveScript, Script.enqueue, QueueCall.enqueued?]
    by_cases blank : eventId = ""
    · rw [if_pos blank, if_pos blank]
      exact .inl ⟨rfl, fun _ _ => nothing⟩
    · rw [if_neg blank, if_neg blank]
      cases found : table.get eventId with
      | some row =>
        refine .inl ⟨?_, ?_⟩
        · split
          · rfl
          · dsimp only [PendingTable.insertOrIgnore, PendingRow.new]
            rw [found]
            rfl
        · rintro _ _ ⟨⟩
          rw [found]
          rfl
      | none =>
        refine .inr ⟨eventId, payload, rfl, found, ?_⟩
        rw [if_neg (by simp)]
        dsimp only [PendingTable.insertOrIgnore, PendingRow.new]
        rw [found, if_neg (by decide), List.map_append]
        rfl
  | nextBatch limit => exact .inl ⟨rfl, fun _ _ => nothing⟩
  | claimBatch limit =>
    refine .inl ⟨(map_markSending _ _ _ (fun _ => rfl) _).trans ?_, fun _ _ => nothing⟩
    exact map_update _ fun _ => rfl
  | markSending eventIds => exact .inl ⟨map_markSending _ _ _ (fun _ => rfl) _, fun _ _ => nothing⟩
  | markAcked eventId sequence =>
    refine .inl ⟨?_, fun _ _ => nothing⟩
    dsimp only [serveScript, Script.markAcked]
    split
    · rfl
    · exact map_update _ fun _ => rfl
  | markConflict eventId error | markRejected eventId error | resetInflight =>
    exact .inl ⟨map_update _ fun _ => rfl, fun _ _ => nothing⟩

/-- **The rows of a table are the events of a history.** -/
structure Registered (history : List (QueueCall × QueueReplies))
    (stamps : List (String × String × Nat)) : Prop where
  keeps : ∀ eventId payload, (enqueuedIn history).lookup eventId = some payload ↔
    ∃ createdAt, (eventId, payload, createdAt) ∈ stamps
  distinct : (stamps.map (·.1)).Nodup

theorem enqueuedIn_snoc (entry : QueueCall × QueueReplies) :
    enqueuedIn (history ++ [entry]) = enqueuedIn history ++ entry.1.enqueued?.toList := by
  rw [enqueuedIn, List.filterMap_append, ← enqueuedIn]
  cases enqueued : entry.1.enqueued? with
  | none | some event => simp [enqueued]

section

variable {stamps : List (String × String × Nat)} (registered : Registered history stamps)
include registered

theorem Registered.unused {eventId : String} (unused : eventId ∉ stamps.map (·.1)) :
    (enqueuedIn history).lookup eventId = none := by
  cases found : (enqueuedIn history).lookup eventId with
  | none => rfl
  | some payload =>
    obtain ⟨createdAt, member⟩ := (registered.keeps eventId payload).1 found
    exact absurd (List.mem_map_of_mem member) unused

theorem Registered.repeat (entry : QueueCall × QueueReplies)
    (known : ∀ eventId payload, entry.1.enqueued? = some (eventId, payload) →
      ∃ payload', (enqueuedIn history).lookup eventId = some payload') :
    Registered (history ++ [entry]) stamps := by
  refine ⟨fun eventId payload => ?_, registered.distinct⟩
  rw [← registered.keeps, enqueuedIn_snoc, List.lookup_append]
  cases found : (enqueuedIn history).lookup eventId with
  | some payload' => rw [Option.some_or]
  | none =>
    rw [Option.none_or]
    cases enqueued : entry.1.enqueued? with
    | none => simp
    | some event =>
      obtain ⟨id, added⟩ := event
      obtain ⟨payload', isKnown⟩ := known id added enqueued
      have differs : eventId ≠ id := by
        rintro rfl
        rw [isKnown] at found
        cases found
      simp [List.lookup_cons, beq_false_of_ne differs]

theorem Registered.register (entry : QueueCall × QueueReplies)
    {eventId payload : String} {now : Nat} (enqueued : entry.1.enqueued? = some (eventId, payload))
    (unused : eventId ∉ stamps.map (·.1)) : Registered (history ++ [entry]) (stamps ++ [(eventId, payload, now)]) := by
  refine ⟨fun other payload' => ?_, ?_⟩
  · rw [enqueuedIn_snoc, List.lookup_append, enqueued]
    by_cases same : other = eventId
    · subst same
      rw [registered.unused unused, Option.none_or]
      constructor
      · intro found
        refine ⟨now, List.mem_append_right _ ?_⟩
        simpa using found.symm
      · rintro ⟨createdAt, member⟩
        rcases List.mem_append.1 member with earlier | isNew
        · exact absurd (List.mem_map_of_mem earlier) unused
        · simp only [List.mem_singleton, Prod.mk.injEq] at isNew
          simp [isNew.2.1]
    · have others : ([(eventId, payload)] : List (String × String)).lookup other = none := by
        rw [List.lookup_cons, beq_false_of_ne same]
        rfl
      rw [Option.toList_some, others, Option.or_none, registered.keeps]
      constructor
      · rintro ⟨createdAt, member⟩
        exact ⟨createdAt, List.mem_append_left _ member⟩
      · rintro ⟨createdAt, member⟩
        rcases List.mem_append.1 member with earlier | isNew
        · exact ⟨createdAt, earlier⟩
        · simp only [List.mem_singleton, Prod.mk.injEq] at isNew
          exact absurd isNew.1 same
  · rw [List.map_append, List.nodup_append]
    refine ⟨registered.distinct, by simp, fun id member id' isNew same => ?_⟩
    rw [List.map_singleton, List.mem_singleton] at isNew
    have isNew : id' = eventId := isNew
    exact unused (same.trans isNew ▸ member)

end

/-- **The script queue** keeps its register. -/
theorem serveScript_registered (registered : Registered history (queues.script.map PendingRow.stamp))
    (call : QueueCall) (replies : QueueReplies) :
    Registered (history ++ [(call, replies)])
      ((serveScript call queues.script).2.map PendingRow.stamp) := by
  rcases serveScript_stamps call queues.script with
    ⟨kept, known⟩ | ⟨eventId, payload, enqueued, unused, isNew⟩
  · rw [kept]
    refine registered.repeat (call, replies) fun eventId payload enqueued => ?_
    obtain ⟨row, found⟩ := Option.isSome_iff_exists.1 (known eventId payload enqueued)
    obtain ⟨member, rfl⟩ := mem_of_get found
    exact ⟨row.payload, (registered.keeps _ _).2 ⟨row.createdAt, List.mem_map_of_mem member⟩⟩
  · rw [isNew]
    refine registered.register (call, replies) enqueued fun isUsed => ?_
    have isUsed : eventId ∈ queues.script.map (·.eventId) := by
      rw [List.map_map] at isUsed
      exact isUsed
    rw [← get_isSome, unused] at isUsed
    cases isUsed

end Stamps

/-! ## Runs -/

section Runs

variable {history later : List (QueueCall × QueueReplies)} {queues after : Queues}

theorem filter_eventId {table : PendingTable} (distinct : (table.map (·.eventId)).Nodup)
    {row : PendingRow} (member : row ∈ table) :
    table.filter (fun other => other.eventId = row.eventId) = [row] := by
  induction table with
  | nil => cases member
  | cons first table ih =>
    rw [List.map_cons, List.nodup_cons] at distinct
    rw [List.filter_cons]
    rcases List.mem_cons.1 member with rfl | member
    · rw [if_pos (by simp)]
      congr 1
      rw [List.filter_eq_nil_iff]
      intro other isOther same
      refine distinct.1 ?_
      have isId : other.eventId ∈ table.map (·.eventId) := List.mem_map_of_mem isOther
      rwa [of_decide_eq_true same] at isId
    · have differs : first.eventId ≠ row.eventId := by
        intro same
        have isId : row.eventId ∈ table.map (·.eventId) := List.mem_map_of_mem member
        exact distinct.1 (same ▸ isId)
      rw [if_neg (by simpa using differs)]
      exact ih distinct.2 member

theorem Registered.keepsFirst {table : PendingTable}
    (registered : Registered history (table.map PendingRow.stamp)) : KeepsFirst history table := by
  intro eventId payload first
  obtain ⟨createdAt, member⟩ := (registered.keeps eventId payload).1 first
  obtain ⟨row, isRow, isStamp⟩ := List.mem_map.1 member
  cases isStamp
  have distinct : (table.map (·.eventId)).Nodup := by
    have distinct := registered.distinct
    rwa [List.map_map] at distinct
  exact ⟨row, filter_eventId distinct isRow, rfl⟩

/-- **The invariant of both queues.** -/
structure InStep (history : List (QueueCall × QueueReplies)) (queues : Queues) : Prop where
  agree : Agree queues.native queues.script
  registered : Registered history (queues.script.map PendingRow.stamp)
  reports : ReportsReuse history

theorem lookup_enqueuedIn {entry : QueueCall × QueueReplies} (member : entry ∈ history)
    {eventId payload : String} (enqueued : entry.1.enqueued? = some (eventId, payload)) :
    (enqueuedIn history).lookup eventId ≠ none := by
  intro missing
  have isEvent : (eventId, payload) ∈ enqueuedIn history := List.mem_filterMap.2 ⟨entry, member, enqueued⟩
  have differs := List.lookup_eq_none_iff.1 missing _ isEvent
  simp at differs

theorem InStep.reports_snoc {call : QueueCall} (inStep : InStep history queues)
    (orderly : Orderly queues call) (replies : QueueReplies) :
    ReportsReuse (history ++ [(call, replies)]) := by
  intro entry member eventId payload enqueued
  rw [enqueuedIn_snoc, List.lookup_append]
  rcases List.mem_append.1 member with earlier | isNew
  · have known := lookup_enqueuedIn earlier enqueued
    have reported := inStep.reports entry earlier eventId payload enqueued
    cases first : (enqueuedIn history).lookup eventId with
    | none => exact absurd first known
    | some payload' =>
      rw [first] at reported
      exact reported
  · obtain rfl := List.mem_singleton.1 isNew
    intro differs
    refine absurd ?_ differs
    cases first : (enqueuedIn history).lookup eventId with
    | none => simp [enqueued]
    | some payload' =>
      -- the row of the event has the payload of the call
      obtain ⟨createdAt, isStamp⟩ := (inStep.registered.keeps eventId payload').1 first
      obtain ⟨row, isRow, isStamp⟩ := List.mem_map.1 isStamp
      cases isStamp
      obtain ⟨sender, now, operation⟩ := call
      cases operation with
      | enqueue id added =>
        dsimp only [QueueCall.enqueued?] at enqueued
        split at enqueued
        · cases enqueued
        · cases enqueued
          rw [orderly.2 row isRow rfl]
          rfl
      | _ => cases enqueued

/-- **An orderly call** keeps both queues in step. -/
theorem InStep.serve {call : QueueCall} (inStep : InStep history queues)
    (orderly : Orderly queues call) :
    InStep (history ++ [(call, (queuesMachine.step queues call).1)])
      (queuesMachine.step queues call).2 := by
  exact ⟨serve_agree inStep.agree orderly, serveScript_registered inStep.registered call _,
    inStep.reports_snoc orderly _⟩

theorem inStep_empty : InStep [] empty := by
  refine ⟨.nil, ⟨fun eventId payload => ?_, .nil⟩, ?_⟩
  · constructor
    · rintro ⟨⟩
    · rintro ⟨_, ⟨⟩⟩
  · rintro _ ⟨⟩

/-- What both queues keep of a state they were in. -/
structure Onward (queues after : Queues) : Prop where
  inStep : ∃ history, InStep history after
  native : StaysSettled queues.native after.native
  script : StaysSettled queues.script after.script

/-- **An orderly call** keeps what has been settled before. -/
theorem Onward.serve {call : QueueCall} (onward : Onward queues after) (orderly : Orderly after call) :
    Onward queues (queuesMachine.step after call).2 := by
  obtain ⟨history, inStep⟩ := onward.inStep
  exact ⟨⟨_, inStep.serve orderly⟩, onward.native.trans (serveNative_settled inStep.agree orderly),
    onward.script.trans (serveScript_settled orderly)⟩

/-- **Every event is delivered once and settled once, by both queues alike**, in the runs of orderly
calls. -/
theorem storedOnce_of_run (run : queuesMachine.Run Orderly empty history queues)
    (onward : queuesMachine.Run Orderly queues later after) : Delivered history queues after := by
  have inStep : InStep history queues :=
    run.invariant InStep inStep_empty fun _ _ _ inStep orderly => inStep.serve orderly
  have settled : Onward queues after :=
    onward.stateInvariant (Onward queues) ⟨⟨history, inStep⟩, .refl _, .refl _⟩
      fun _ _ onward orderly => onward.serve orderly
  have sameStamps : queues.native.map PendingRow.stamp = queues.script.map PendingRow.stamp := by
    refine inStep.agree.map _ fun row other same => ?_
    rw [PendingRow.stamp, same.eventId, same.payload, same.createdAt]
    rfl
  exact ⟨(sameStamps ▸ inStep.registered : Registered history _).keepsFirst,
    inStep.registered.keepsFirst, inStep.reports, settled.native, settled.script, inStep.agree⟩

end Runs

/-! ## An answer that comes late -/

section Sample

def acknowledging : List QueueCall :=
  [⟨0, 0, .enqueue "event-1" "{}"⟩, ⟨0, 1, .claimBatch 100⟩, ⟨0, 2, .markAcked "event-1" 7⟩]

def queuesAfter (queues : Queues) (calls : List QueueCall) : Queues :=
  (queuesMachine.exec queues calls).2

/-- The answer to an earlier attempt arrives. -/
def belated : List QueueCall := [⟨1, 3, .markConflict "event-1" "version_conflict"⟩]

/-- **An acknowledged event becomes a conflict** in the native queue. -/
theorem storedOnce_of_run_counterexample :
    ¬ ∀ (history later : List (QueueCall × QueueReplies)) (queues after : Queues),
      queuesMachine.Run Machine.anyStep empty history queues →
      queuesMachine.Run Machine.anyStep queues later after → Delivered history queues after := by
  intro all
  have run := queuesMachine.exec_run empty acknowledging
    (Machine.met_of_forall (fun _ _ _ => trivial) _)
  have onward := queuesMachine.exec_run (queuesAfter empty acknowledging) belated
    (Machine.met_of_forall (fun _ _ _ => trivial) _)
  have settled := (all _ _ _ _ run onward).nativeSettled
  have isRow : (queuesAfter empty acknowledging).native.get "event-1" =
      some ⟨"event-1", "{}", .acked, 1, none, some 7, 0, 2, none⟩ := by decide +kernel
  obtain ⟨row, found, same⟩ := settled _ _ isRow trivial
  have isLater : (queuesAfter (queuesAfter empty acknowledging) belated).native.get "event-1" =
      some ⟨"event-1", "{}", .conflict, 1, some "version_conflict", some 7, 0, 3, none⟩ := by
    decide +kernel
  cases isLater.symm.trans found
  cases same

/-- The calls of an orderly run. -/
theorem storedOnce_of_run_sample : Delivered (queuesMachine.exec empty acknowledging).1
      (queuesAfter empty acknowledging) (queuesAfter empty acknowledging) := by
  refine storedOnce_of_run (queuesMachine.exec_run empty acknowledging
    ⟨⟨by decide, ?_⟩, ⟨.inl ?_, .inl ?_, ?_⟩, ⟨by decide, ?_⟩, trivial⟩) .nil
  · rintro _ ⟨⟩
  · decide +kernel
  · decide +kernel
  · intro row member isSending
    have isTable : (queuesAfter empty [⟨0, 0, .enqueue "event-1" "{}"⟩]).script =
        [.new "event-1" "{}" 0] := by decide +kernel
    have member : row ∈ [PendingRow.new "event-1" "{}" 0] := isTable ▸ member
    obtain rfl := List.mem_singleton.1 member
    cases isSending
  · intro row member _
    have isTable : (queuesAfter empty [⟨0, 0, .enqueue "event-1" "{}"⟩,
        ⟨0, 1, .claimBatch 100⟩]).script = [(PendingRow.new "event-1" "{}" 0).sending 1 (some 0)] := by
      decide +kernel
    have member : row ∈ [(PendingRow.new "event-1" "{}" 0).sending 1 (some 0)] := isTable ▸ member
    obtain rfl := List.mem_singleton.1 member
    exact ⟨by decide, by decide⟩

end Sample

end Zero3Pilot.MemorySync
