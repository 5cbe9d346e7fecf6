import Zero3Pilot.GroupRuntime.Footprints

/-! # What a snapshot observes

A snapshot ends with the state and the records of the world in which it ends; where it had to
normalize the state, it wrote it first. -/

namespace Zero3Pilot.GroupRuntime

/-- **A snapshot observes a world**: its plan, its state and its records, and the state fits the
records. -/
structure GroupSnapshot.Observes (host : RuntimeHost) (snapshot : GroupSnapshot)
    (world : GroupWorld) : Prop where
  plan : snapshot.plan = world.plan
  state : snapshot.state = world.state
  records : world.records host = .ok snapshot.records
  normal : snapshot.state = normalizeRuntimeState snapshot.state snapshot.records

theorem normalizeRuntimeState_idem (state : DevelopmentGroupRuntimeState)
    (records : DurableGroupRecords) :
    normalizeRuntimeState (normalizeRuntimeState state records) records =
      normalizeRuntimeState state records := by
  have status : normalizedStatus (normalizeRuntimeState state records) records =
      normalizedStatus state records := by
    show normalizedStatus { state with status := normalizedStatus state records, .. } records = _
    unfold normalizedStatus
    by_cases unknown : 0 < outcomeUnknownCount records
    · have some_ : ¬ outcomeUnknownCount records = 0 := by omega
      by_cases final : state.status.isFinal
      · simp [unknown, some_, final]
      · simp [unknown, some_, final]
    · have none_ : outcomeUnknownCount records = 0 := by omega
      by_cases was : state.status = .outcomeUnknown
      · by_cases blocked : currentBlockers records = []
        · simp [none_, was, blocked]
        · simp [none_, was, blocked]
      · simp [none_, was]
  unfold normalizeRuntimeState at status ⊢
  simp [status]

variable {host : RuntimeHost} {world : GroupWorld}

/-- **The end of a snapshot**: the world it ends in is the world as it was, or with the normalized
state. -/
theorem stays_normalizeSnapshot {inv : GroupWorld → Prop} (kept : WellKept world)
    (holds : inv world) (between : ∀ state, inv (world.withTemporary state))
    (written : ∀ records, world.records host = .ok records →
      inv (world.withState (normalizeRuntimeState world.state records))) :
    Stays host inv (fun snapshot after => snapshot.Observes host after ∧
      (after = world ∨ after = world.withState snapshot.state))
      (normalizeSnapshot world.plan) world := by
  refine stays_next_read rfl holds fun _ rawState loaded => ?_
  cases Except.ok.inj loaded
  refine stays_next_read rfl holds fun _ records found => ?_
  have same := normalizeRuntimeState_idem world.state records
  dsimp only
  split
  · refine (stays_writeState kept holds (between _) (written records found)).seq ?_
    rintro _ after holds rfl
    exact stays_pure holds ⟨⟨rfl, rfl, found, same.symm⟩, Or.inr rfl⟩
  · rename_i fits
    have fits := not_not.1 fits
    refine stays_pure holds ⟨⟨rfl, fits, found, ?_⟩, Or.inl rfl⟩
    exact same.symm

end Zero3Pilot.GroupRuntime
