import Dalph.Coordination.RuntimeAdmission

/-!
# Capacity and ownership of task positions

A transaction on the positions either keeps their number at capacity and hands a committed position
over, or it is a synchronization, which removes a committed position only with release evidence for
its claim operation.  Every interleaving of the controller consists of such transactions.
-/

namespace Dalph

namespace AdmissionState

variable {current later : AdmissionState} {taskId : TaskId} {position : TaskWorkPosition}
  {commitment : FreshTaskCommitment}

/-! ## What may become of a committed position -/

def StillCommitted (current : AdmissionState) (taskId : TaskId)
    (commitment : FreshTaskCommitment) : Prop :=
  ∃ kept, current.positions.lookup taskId = some (.freshTaskCommitted kept) ∧
    (kept = commitment ∨ sameFreshTaskCommitment kept commitment = true)

def HandedOver (current : AdmissionState) (taskId : TaskId) (commitment : FreshTaskCommitment) :
    Prop :=
  ∃ accepted handedOver,
    current.positions.lookup taskId = some (.locallyAcceptedAttemptPosition accepted) ∧
      accepted.handoff = .freshCommitmentHandoff handedOver ∧
        sameFreshTaskCommitment handedOver commitment = true

/-- No growth at capacity, and a committed position stays or is handed over. -/
structure Evolves (current later : AdmissionState) : Prop where
  bounded : current.capacity ≤ KeyedMap.size current.positions →
    KeyedMap.size later.positions ≤ KeyedMap.size current.positions
  owned : ∀ {taskId commitment},
    current.positions.lookup taskId = some (.freshTaskCommitted commitment) →
      later.StillCommitted taskId commitment ∨ later.HandedOver taskId commitment

theorem stillCommitted_of_lookup
    (committed : current.positions.lookup taskId = some (.freshTaskCommitted commitment)) :
    current.StillCommitted taskId commitment :=
  ⟨commitment, committed, Or.inl rfl⟩

theorem Evolves.refl (current : AdmissionState) : current.Evolves current :=
  ⟨fun _ => le_rfl, fun committed => Or.inl (stillCommitted_of_lookup committed)⟩

theorem stillCommitted_setPosition {other : TaskId} (apart : other ≠ taskId)
    (committed : current.positions.lookup other = some (.freshTaskCommitted commitment)) :
    (current.setPosition taskId position).StillCommitted other commitment := by
  refine ⟨commitment, ?_, Or.inl rfl⟩
  simp [setPosition, withPositions, apart, committed]

theorem evolves_setPosition_free (free : current.positions.lookup taskId = none)
    (below : ¬ KeyedMap.size current.positions ≥ current.capacity) :
    current.Evolves (current.setPosition taskId position) := by
  constructor
  · intro full
    exact absurd full below
  · intro other commitment committed
    refine Or.inl (stillCommitted_setPosition ?_ committed)
    rintro rfl
    rw [free] at committed
    contradiction

variable {existing : TaskWorkPosition}

theorem evolves_setPosition (occupied : current.positions.lookup taskId = some existing)
    (owned : ∀ {commitment}, existing = .freshTaskCommitted commitment →
      (current.setPosition taskId position).HandedOver taskId commitment) :
    current.Evolves (current.setPosition taskId position) := by
  constructor
  · intro _
    exact le_of_eq (KeyedMap.size_set_of_lookup occupied)
  · intro other commitment committed
    by_cases same : other = taskId
    · subst same
      rw [occupied] at committed
      exact Or.inr (owned (Option.some.inj committed))
    · exact Or.inl (stillCommitted_setPosition same committed)

theorem evolves_removePosition (occupied : current.positions.lookup taskId = some existing)
    (uncommitted : ∀ commitment, existing ≠ .freshTaskCommitted commitment) :
    current.Evolves (current.removePosition taskId) := by
  constructor
  · intro _
    exact KeyedMap.size_erase_le
  · intro other commitment committed
    refine Or.inl ⟨commitment, ?_, Or.inl rfl⟩
    have apart : other ≠ taskId := by
      rintro rfl
      rw [occupied] at committed
      exact uncommitted commitment (Option.some.inj committed)
    simp only [removePosition, withPositions, KeyedMap.lookup_erase_eq_ite, if_neg apart, committed]

/-! ## Reservations evolve -/

section

variable (proposal : DeliveryActionProposal)

theorem evolves_reserveOccupiedReusablePosition
    (retainAs : Option PlannedAttemptExecutorCorrelation)
    (occupied : current.positions.lookup taskId = some existing) :
    current.Evolves
      (reserveOccupiedReusablePosition proposal taskId retainAs existing current).2 := by
  unfold reserveOccupiedReusablePosition unchangedTaskReservation
  split
  · split <;> exact .refl current
  · split
    · exact .refl current
    · exact evolves_setPosition occupied nofun
    · exact .refl current

theorem evolves_reserveReusableTaskPosition (taskId : TaskId)
    (retainAs : Option PlannedAttemptExecutorCorrelation) (current : AdmissionState) :
    current.Evolves (reserveReusableTaskPosition proposal taskId retainAs current).2 := by
  unfold reserveReusableTaskPosition
  split
  · next occupied => exact evolves_reserveOccupiedReusablePosition proposal retainAs occupied
  · next free =>
      split
      · exact .refl current
      · next below => exact evolves_setPosition_free free below

theorem evolves_reserveSafeContinuationPosition
    (eligibility : SafeContinuationRevalidationEligibility) (current : AdmissionState) :
    current.Evolves (reserveSafeContinuationPosition proposal eligibility current).2 := by
  simp only [reserveSafeContinuationPosition, unchangedTaskReservation]
  split
  · exact .refl current
  · split
    · exact .refl current
    · exact .refl current
    · next free =>
        split
        · exact .refl current
        · split
          · exact .refl current
          · next below => exact evolves_setPosition_free free below

theorem evolves_reserveTaskPositionState (current : AdmissionState) :
    current.Evolves (reserveTaskPositionState proposal current).2 := by
  simp only [reserveTaskPositionState]
  split
  · exact evolves_reserveSafeContinuationPosition proposal _ current
  · split
    · exact .refl current
    · split
      · exact .refl current
      · unfold reserveRequiredTaskPosition
        split
        · exact .refl current
        · split <;> exact .refl current
        · exact evolves_reserveReusableTaskPosition proposal _ _ current

end

theorem lookup_of_freshCandidateIsSelectable {candidate : FreshTaskCandidate}
    (selectable : current.freshCandidateIsSelectable candidate = true) :
    current.positions.lookup candidate.taskId = none ∨
      ∃ entry, current.positions.lookup candidate.taskId =
        some (.freshEntryRuntimePosition entry) := by
  unfold freshCandidateIsSelectable at selectable
  split at selectable
  · next free => exact Or.inl free
  · next entry occupied => exact Or.inr ⟨entry, occupied⟩
  · contradiction

theorem evolves_reserveFreshTaskPosition (frontier : FreshTaskCandidateFrontier)
    (current : AdmissionState) :
    current.Evolves (reserveFreshTaskPosition frontier current).2 := by
  simp only [reserveFreshTaskPosition]
  split
  · exact .refl current
  · split
    · exact .refl current
    · split
      · exact .refl current
      · next candidate found =>
          split
          · next occupied => exact evolves_setPosition occupied nofun
          · next others =>
              split
              · exact .refl current
              · next below =>
                  obtain free | ⟨entry, occupied⟩ :=
                    lookup_of_freshCandidateIsSelectable (List.find?_some found)
                  · exact evolves_setPosition_free free below
                  · exact absurd occupied (others entry)

/-! ## Releases and bindings evolve -/

theorem evolves_releaseTaskReservation (taskId : TaskId) (proposalId : DeliveryProposalId)
    (current : AdmissionState) :
    current.Evolves (releaseTaskReservation taskId proposalId current) := by
  unfold releaseTaskReservation
  split
  · next owned =>
      obtain ⟨existing, occupied, owner⟩ := Option.bind_eq_some_iff.mp owned
      refine evolves_removePosition occupied ?_
      rintro commitment rfl
      contradiction
  · exact .refl current

theorem evolves_restoreFreshTaskReservation (reservation : FreshTaskPositionReservation)
    (ownedByProposalId : Option DeliveryProposalId) (current : AdmissionState) :
    current.Evolves (restoreFreshTaskReservation reservation ownedByProposalId current) := by
  unfold restoreFreshTaskReservation
  split
  · next occupied =>
      split
      · split
        · exact evolves_removePosition occupied nofun
        · exact evolves_setPosition occupied nofun
      · exact .refl current
  · exact .refl current

theorem evolves_markFreshEntryActivity (candidate : FreshTaskCandidate)
    (activity : FreshEntryActivity) (current : AdmissionState) :
    current.Evolves (markFreshEntryActivity candidate activity current) := by
  unfold markFreshEntryActivity
  split
  · next occupied =>
      split
      · exact evolves_setPosition occupied nofun
      · exact .refl current
  · exact .refl current

theorem evolves_releaseSafeContinuationReservation (proposal : DeliveryActionProposal)
    (current : AdmissionState) :
    current.Evolves (releaseSafeContinuationReservation proposal current) := by
  unfold releaseSafeContinuationReservation
  split
  · exact .refl current
  · split
    · next occupied =>
        split
        · exact evolves_removePosition occupied nofun
        · exact .refl current
    · exact .refl current

theorem evolves_releasePlannedAttemptPosition (correlation : PlannedAttemptExecutorCorrelation)
    (current : AdmissionState) :
    current.Evolves (releasePlannedAttemptPosition correlation current).2 := by
  unfold releasePlannedAttemptPosition
  split
  · exact .refl current
  · next entry found =>
      have correlated := List.find?_some found
      have occupied : current.positions.lookup entry.1 = some entry.2 :=
        AList.mem_lookup_iff.mpr (List.mem_of_find?_eq_some found)
      refine evolves_removePosition occupied ?_
      intro commitment committed
      rw [committed] at correlated
      contradiction

theorem evolves_bindFreshTaskClaimOperation (candidate : FreshTaskCandidate)
    (proposalId : DeliveryProposalId) (operationId : OperationId) (current : AdmissionState) :
    current.Evolves (bindFreshTaskClaimOperation candidate proposalId operationId current).2 := by
  unfold bindFreshTaskClaimOperation
  split
  · next occupied =>
      split
      · exact evolves_setPosition occupied nofun
      · exact .refl current
  · exact .refl current

theorem handoff_of_bindingMatches {binding : PlannedAttemptPositionBinding}
    (matching : plannedAttemptPositionBindingMatches (.freshTaskCommitted commitment) binding =
      true) :
    ∃ handedOver, binding.handoff = .freshCommitmentHandoff handedOver ∧
      sameFreshTaskCommitment handedOver commitment = true := by
  simp only [plannedAttemptPositionBindingMatches, Bool.and_eq_true] at matching
  obtain ⟨⟨⟨-, handoff⟩, -⟩, -⟩ := matching
  simp only [freshCommitmentHandoffMatches] at handoff
  split at handoff
  · next handedOver agreed =>
      exact ⟨handedOver, agreed, (Bool.and_eq_true_iff.mp handoff).1⟩
  · contradiction

theorem evolves_bindPlannedAttemptPositionState (binding : PlannedAttemptPositionBinding)
    (current : AdmissionState) :
    current.Evolves (current.bindPlannedAttemptPositionState binding).2 := by
  simp only [bindPlannedAttemptPositionState]
  split
  · exact .refl current
  · next position occupied =>
      split
      · exact .refl current
      · next matching =>
          split
          · exact .refl current
          · split
            · exact .refl current
            · split
              · exact .refl current
              · split
                · exact .refl current
                · next acceptedAt _ =>
                  refine evolves_setPosition occupied ?_
                  rintro commitment rfl
                  obtain ⟨handedOver, handoff, same⟩ :=
                    handoff_of_bindingMatches (by simpa using matching)
                  refine ⟨⟨binding.handoff, binding.plannedAttempt, acceptedAt⟩, handedOver, ?_,
                    handoff, same⟩
                  simp [setPosition, withPositions]

/-! ## Synchronization -/

section Synchronization

variable {basis : FreshTaskAdmissionBasis} {observation : FreshTaskCandidateObservation}

theorem mem_reconciledEntries_of_lookup {entry : TaskId × TaskWorkPosition}
    (occupied : current.positions.lookup taskId = some position)
    (member : entry ∈ current.reconciledEntries basis observation) (same : entry.1 = taskId) :
    reconcilePosition basis observation taskId position = .keep entry.2 := by
  obtain old | new := List.mem_append.mp member
  · obtain ⟨⟨found, value⟩, mem, kept⟩ := List.mem_filterMap.mp old
    split at kept
    · next keep =>
        cases kept
        obtain rfl : found = taskId := same
        have unique : current.positions.lookup found = some value := AList.mem_lookup_iff.mpr mem
        rw [occupied] at unique
        cases unique
        exact keep
    · contradiction
  · obtain ⟨found, mem, rfl⟩ := List.mem_map.mp new
    obtain ⟨-, absent⟩ := List.mem_filter.mp mem
    have present : taskId ∈ current.positions.keys := by
      rw [← AList.mem_keys, ← AList.lookup_isSome, occupied]
      rfl
    obtain rfl : found.1 = taskId := same
    simp [present] at absent

theorem lookup_reconciled_of_keep {kept : TaskWorkPosition}
    (occupied : current.positions.lookup taskId = some position)
    (keep : reconcilePosition basis observation taskId position = .keep kept) :
    (KeyedMap.ofEntries (current.reconciledEntries basis observation)).lookup taskId =
      some kept := by
  apply KeyedMap.lookup_ofEntries
  · intro entry member same
    have other := mem_reconciledEntries_of_lookup occupied member same
    rw [keep] at other
    exact (PositionReconciliation.keep.inj other).symm
  · refine List.mem_append_left _ (List.mem_filterMap.mpr ⟨⟨taskId, position⟩, ?_, ?_⟩)
    · exact AList.mem_lookup_iff.mp occupied
    · simp only [keep]

theorem lookup_reconciled_of_accepted {occupancy : TaskAdmissionOccupancy}
    (free : current.positions.lookup taskId = none)
    (accepted : basis.occupied.lookup taskId = some occupancy) :
    (KeyedMap.ofEntries (current.reconciledEntries basis observation)).lookup taskId =
      some (runtimePositionOf occupancy) := by
  have absent : taskId ∉ current.positions.keys := by
    rw [← AList.mem_keys]
    exact AList.lookup_eq_none.mp free
  apply KeyedMap.lookup_ofEntries
  · intro entry member same
    obtain old | new := List.mem_append.mp member
    · obtain ⟨⟨found, value⟩, mem, kept⟩ := List.mem_filterMap.mp old
      split at kept
      · cases kept
        obtain rfl : found = taskId := same
        have occupied : current.positions.lookup found = some value :=
          AList.mem_lookup_iff.mpr mem
        rw [free] at occupied
        contradiction
      · contradiction
    · obtain ⟨⟨found, value⟩, mem, rfl⟩ := List.mem_map.mp new
      obtain rfl : found = taskId := same
      have unique : basis.occupied.lookup found = some value :=
        AList.mem_lookup_iff.mpr (List.mem_filter.mp mem).1
      rw [accepted] at unique
      cases unique
      rfl
  · refine List.mem_append_right _ (List.mem_map.mpr ⟨⟨taskId, occupancy⟩, ?_, rfl⟩)
    refine List.mem_filter.mpr ⟨AList.mem_lookup_iff.mp accepted, ?_⟩
    simpa using absent

theorem reconcilePosition_ne_remove {occupancy : TaskAdmissionOccupancy}
    (accepted : basis.occupied.lookup taskId = some occupancy) :
    reconcilePosition basis observation taskId position ≠ .remove := by
  cases position with
  | freshTaskCommitted commitment =>
      simp only [reconcilePosition, reconcileFreshCommitment, accepted]
      cases occupancy <;> simp only <;> grind
  | freshEntryRuntimePosition entry =>
      simp only [reconcilePosition, reconcileFreshRuntimePosition, accepted]
      cases occupancy <;> simp only <;> grind
  | locallyAcceptedAttemptPosition position =>
      simp only [reconcilePosition, reconcileLocallyAcceptedAttempt, accepted]
      cases occupancy <;> simp only <;> grind
  | safeContinuationReserved eligibility proposalId =>
      simp only [reconcilePosition, reconcileSafeContinuationReservation, accepted]
      cases occupancy <;> simp only <;> grind
  | existingResponsibilityReserved plannedAttempt
  | exactAttemptHeld plannedAttempt
  | boundRuntimePosition correlation proposalId
  | pendingRuntimePosition proposalId => simp [reconcilePosition, accepted]

theorem reconcile_freshTaskCommitted
    (kept : reconcilePosition basis observation taskId (.freshTaskCommitted commitment) ≠
      .contradiction) :
    (∃ other, reconcilePosition basis observation taskId (.freshTaskCommitted commitment) =
        .keep (.freshTaskCommitted other) ∧
      (other = commitment ∨ sameFreshTaskCommitment other commitment = true)) ∨
    (basis.exactFreshTaskRelease taskId commitment.claimOperationId).isSome = true := by
  simp only [reconcilePosition, reconcileFreshCommitment] at kept ⊢
  cases accepted : basis.occupied.lookup taskId with
  | none =>
      cases released : basis.exactFreshTaskRelease taskId commitment.claimOperationId with
      | none => exact Or.inl ⟨commitment, rfl, Or.inl rfl⟩
      | some evidence => exact Or.inr rfl
  | some occupancy =>
      cases occupancy with
      | freshTaskCommitted other =>
          simp only [accepted] at kept ⊢
          by_cases same : sameFreshTaskCommitment other commitment = true
          · exact Or.inl ⟨other, by rw [same]; rfl, Or.inr same⟩
          · right
            by_contra unreleased
            exact kept (if_neg (by simp [same, unreleased]))
      | exactAttemptHeld plannedAttempt =>
          simp only [accepted] at kept
          right
          by_contra unreleased
          refine kept (if_neg ?_)
          have none := Option.not_isSome_iff_eq_none.mp unreleased
          simp [FreshTaskAdmissionBasis.exactHandoffMatches, none]
      | freshEntryReserved candidate | existingResponsibilityReserved plannedAttempt =>
          simp [accepted] at kept

theorem synchronize_occupied (success : (current.synchronize basis observation).1 = none)
    (accepted : (basis.occupied.lookup taskId).isSome = true) :
    ((current.synchronize basis observation).2.positions.lookup taskId).isSome = true := by
  obtain ⟨occupancy, accepted⟩ := Option.isSome_iff_exists.mp accepted
  simp only [synchronize] at success ⊢
  split at success
  · contradiction
  · next current_le =>
      rw [if_neg current_le]
      split at success
      · contradiction
      · next consistent =>
          cases occupied : current.positions.lookup taskId with
          | none => rw [lookup_reconciled_of_accepted occupied accepted]; rfl
          | some position =>
              cases reconciliation : reconcilePosition basis observation taskId position with
              | keep kept => rw [lookup_reconciled_of_keep occupied reconciliation]; rfl
              | remove => exact absurd reconciliation (reconcilePosition_ne_remove accepted)
              | contradiction =>
                  have found := List.find?_eq_none.mp consistent ⟨taskId, position⟩
                    (AList.mem_lookup_iff.mp occupied)
                  simp [reconciliation] at found

theorem synchronize_owned
    (committed : current.positions.lookup taskId = some (.freshTaskCommitted commitment)) :
    (current.synchronize basis observation).2.StillCommitted taskId commitment ∨
      (basis.exactFreshTaskRelease taskId commitment.claimOperationId).isSome = true := by
  simp only [synchronize]
  split
  · exact Or.inl (stillCommitted_of_lookup committed)
  · split
    · exact Or.inl (stillCommitted_of_lookup committed)
    · next consistent =>
        have sound : reconcilePosition basis observation taskId (.freshTaskCommitted commitment) ≠
            .contradiction := by
          have found := List.find?_eq_none.mp consistent ⟨taskId, .freshTaskCommitted commitment⟩
            (AList.mem_lookup_iff.mp committed)
          simpa using found
        refine (reconcile_freshTaskCommitted sound).imp_left ?_
        rintro ⟨other, keep, same⟩
        exact ⟨other, lookup_reconciled_of_keep committed keep, same⟩

end Synchronization

end AdmissionState

namespace DeliveryRuntime

open Program

/-! ## Transactions of the controller -/

/-- A relation that every transaction of a call other than `synchronize` satisfies. -/
structure Compatible (Allowed : DeliveryRuntime → DeliveryRuntime → Prop) : Prop where
  refl : ∀ runtime, Allowed runtime runtime
  admission : ∀ {runtime : DeliveryRuntime} {later}, runtime.admission.Evolves later →
    Allowed runtime { runtime with admission := later }
  exit : ∀ (runtime : DeliveryRuntime) action,
    Allowed runtime { runtime with
      applicationExit := (ApplicationExitState.step action runtime.applicationExit).2 }
  guard : ∀ (runtime : DeliveryRuntime) guard,
    Allowed runtime { runtime with
      plannedAttemptProtocol := { runtime.plannedAttemptProtocol with guard } }
  acquire : ∀ (runtime : DeliveryRuntime) responsibility,
    Allowed runtime { runtime with
      integrationTargets := (runtime.integrationTargets.acquire responsibility).2 }
  release : ∀ (runtime : DeliveryRuntime) responsibility,
    Allowed runtime { runtime with
      integrationTargets := { runtime.integrationTargets with
        leases := (runtime.integrationTargets.leases.release responsibility).2 } }
  withdraw : ∀ (runtime : DeliveryRuntime) accepted,
    Allowed runtime { runtime with
      integrationTargets := { runtime.integrationTargets with accepted } }
  reservations : ∀ (runtime : DeliveryRuntime) activeReservations nextReservation,
    Allowed runtime { runtime with activeReservations, nextReservation }

section Calls

variable {Allowed : DeliveryRuntime → DeliveryRuntime → Prop} (compatible : Compatible Allowed)
include compatible

section Transactions

variable {Answer : Type}

theorem within_modifyAdmission {transaction : AdmissionState → Answer × AdmissionState}
    (evolves : ∀ current, AdmissionState.Evolves current (transaction current).2) :
    (modifyAdmission transaction).Within Allowed :=
  within_modify fun runtime => compatible.admission (evolves runtime.admission)

theorem within_updateAdmission {transaction : AdmissionState → AdmissionState}
    (evolves : ∀ current, AdmissionState.Evolves current (transaction current)) :
    (updateAdmission transaction).Within Allowed :=
  within_modifyAdmission compatible evolves

theorem within_modifyExit
    {transaction : ApplicationExitState Unit → Answer × ApplicationExitState Unit}
    (action : ApplicationExitAction Unit)
    (steps : ∀ exit, (transaction exit).2 = (ApplicationExitState.step action exit).2) :
    (modifyExit transaction).Within Allowed := by
  refine within_modify fun runtime => ?_
  simp only [steps]
  exact compatible.exit runtime action

theorem within_modifyGuard (transaction : GuardState → Answer × GuardState) :
    (modifyGuard transaction).Within Allowed :=
  within_modify fun runtime => compatible.guard runtime _

theorem within_modifyReservations
    (transaction : KeyedMap Nat DeliveryAdmissionReservationBinding →
      Answer × KeyedMap Nat DeliveryAdmissionReservationBinding) :
    (modifyReservations transaction).Within Allowed :=
  within_modify fun runtime => compatible.reservations runtime _ _

theorem within_view (view : DeliveryRuntime → Answer) : (Program.read view).Within Allowed :=
  within_read view compatible.refl

end Transactions

theorem within_removeForwardOwner (ownerId : Nat) :
    (removeForwardOwner ownerId).Within Allowed := by
  refine Within.bind ?_ fun drained => ?_
  · exact within_modifyExit compatible (.removeOwner ownerId) fun _ => rfl
  · cases drained with
    | none => exact within_pure ()
    | some call => exact within_modifyExit compatible (.resume call) fun _ => rfl

theorem within_reservePlannedAttemptProtocol (proposal : DeliveryActionProposal) :
    (reservePlannedAttemptProtocol proposal).Within Allowed := by
  unfold reservePlannedAttemptProtocol
  split
  · exact within_pure _
  · refine (within_modifyGuard compatible _).bind fun owner => ?_
    cases owner <;> exact within_pure _

theorem within_completeSignals (signals : List GuardSignal) :
    (completeSignals signals).Within Allowed := by
  induction signals with
  | nil => exact within_pure ()
  | cons signal signals induction =>
      exact (within_modifyGuard compatible _).bind fun _ => induction

theorem within_releasePermit (permit : Option PlannedAttemptProtocolPermit) :
    (releasePermit permit).Within Allowed := by
  cases permit with
  | none => exact within_pure ()
  | some permit =>
      refine (within_modifyGuard compatible _).bind fun call => ?_
      split
      · exact within_completeSignals compatible _
      · exact within_pure ()

theorem within_reserveIntegration (proposal : DeliveryActionProposal) :
    (reserveIntegration proposal).Within Allowed := by
  unfold reserveIntegration
  split
  · exact within_pure _
  · refine Within.bind ?_ fun answer => ?_
    · exact within_modify fun runtime => compatible.acquire runtime _
    · split <;> exact within_pure _
  · refine Within.bind ?_ fun held => ?_
    · refine (within_view compatible _).bind fun accepted => ?_
      exact (within_view compatible _).bind fun lease => within_pure _
    · split <;> exact within_pure _

theorem within_releaseIntegrationTarget
    (acquired : Option IntegrationTargetResourceResponsibility) :
    (releaseIntegrationTarget acquired).Within Allowed := by
  cases acquired with
  | none => exact within_pure ()
  | some responsibility =>
      refine Within.bind ?_ fun released => ?_
      · exact within_modify fun runtime => compatible.release runtime responsibility
      · split
        · exact within_modify fun runtime => compatible.withdraw runtime _
        · exact within_pure ()

theorem within_releaseCreatedPosition (createdFor : Option TaskId)
    (proposalId : DeliveryProposalId) :
    (releaseCreatedPosition createdFor proposalId).Within Allowed := by
  cases createdFor with
  | none => exact within_pure ()
  | some taskId =>
      exact within_updateAdmission compatible
        (AdmissionState.evolves_releaseTaskReservation taskId proposalId)

theorem within_restoreFreshTask
    (freshTask : Option AdmissionState.FreshTaskPositionReservation)
    (ownedByProposalId : Option DeliveryProposalId) :
    (restoreFreshTask freshTask ownedByProposalId).Within Allowed := by
  cases freshTask with
  | none => exact within_pure ()
  | some reservation =>
      exact within_updateAdmission compatible
        (AdmissionState.evolves_restoreFreshTaskReservation reservation ownedByProposalId)

/-! ## Operations of the controller -/

section Reserve

variable (proposal : DeliveryActionProposal)
  (freshTask : Option AdmissionState.FreshTaskPositionReservation)
  (permit : Option PlannedAttemptProtocolPermit) (ownerId : Nat)

theorem within_undoPrepared :
    (undoPrepared proposal freshTask permit ownerId).Within Allowed :=
  (within_restoreFreshTask compatible freshTask _).bind fun _ =>
    (within_releasePermit compatible permit).bind fun _ =>
      within_removeForwardOwner compatible ownerId

theorem within_registerReservation (task : TaskPositionReservation)
    (acquired : Option IntegrationTargetResourceResponsibility) :
    (registerReservation proposal freshTask permit ownerId task acquired).Within Allowed := by
  refine Within.bind ?_ fun registered => ?_
  · exact within_modifyExit compatible (.register ownerId) fun _ => rfl
  · split
    · refine Within.bind ?_ fun reservation => within_pure _
      exact within_modify fun runtime => compatible.reservations runtime _ _
    · exact (within_releaseIntegrationTarget compatible acquired).bind fun _ =>
        (within_releaseCreatedPosition compatible task.createdFor proposal.id).bind fun _ =>
          (within_undoPrepared compatible proposal freshTask permit ownerId).bind fun _ =>
            within_pure _

theorem within_reserveTaskPosition : (reserveTaskPosition proposal freshTask).Within Allowed := by
  cases freshTask with
  | none =>
      exact within_modifyAdmission compatible
        (AdmissionState.evolves_reserveTaskPositionState proposal)
  | some reservation => exact within_pure _

theorem within_reservePermitted :
    (reservePermitted proposal freshTask permit ownerId).Within Allowed := by
  refine (within_reserveTaskPosition compatible proposal freshTask).bind fun task => ?_
  split
  · exact (within_undoPrepared compatible proposal freshTask permit ownerId).bind fun _ =>
      within_pure _
  · refine (within_reserveIntegration compatible proposal).bind fun integration => ?_
    split
    · exact (within_releaseCreatedPosition compatible task.createdFor proposal.id).bind fun _ =>
        (within_undoPrepared compatible proposal freshTask permit ownerId).bind fun _ =>
          within_pure _
    · exact within_pure _
    · exact within_registerReservation compatible proposal freshTask permit ownerId task _

theorem within_tryReservePrepared : (tryReservePrepared proposal freshTask).Within Allowed := by
  refine Within.bind ?_ fun owner => ?_
  · exact within_modifyExit compatible (.prepareForwardOwner (forwardOwnerKindFor proposal))
      fun _ => rfl
  · split
    · exact within_pure _
    · next ownerId =>
      refine (within_reservePlannedAttemptProtocol compatible proposal).bind fun protocol => ?_
      split
      · exact (within_undoPrepared compatible proposal freshTask none ownerId).bind fun _ =>
          within_pure _
      · exact within_reservePermitted compatible proposal freshTask _ ownerId

end Reserve

theorem within_reserveMaterialized (position : AdmissionState.FreshTaskPositionReservation)
    (proposal : DeliveryActionProposal) :
    (reserveMaterialized position proposal).Within Allowed := by
  refine (within_updateAdmission compatible
    (AdmissionState.evolves_markFreshEntryActivity position.candidate _)).bind fun _ => ?_
  refine (within_tryReservePrepared compatible proposal (some position)).bind fun outcome => ?_
  split
  · exact (within_restoreFreshTask compatible _ _).bind fun _ => within_pure _
  · exact (within_restoreFreshTask compatible _ _).bind fun _ => within_pure _
  · exact within_pure _

theorem within_tryReserveFresh (frontier : FreshTaskCandidateFrontier)
    (materialize : FreshTaskCandidate → DeliveryActionProposal) :
    (tryReserveFresh frontier materialize).Within Allowed := by
  unfold tryReserveFresh
  split
  · exact within_pure _
  · refine (within_view compatible _).bind fun currentRunId => ?_
    split
    · exact within_pure _
    · refine (within_modifyAdmission compatible
        (AdmissionState.evolves_reserveFreshTaskPosition frontier)).bind fun reserved => ?_
      split
      · exact within_pure _
      · next position =>
        simp only
        split
        · exact (within_restoreFreshTask compatible _ _).bind fun _ => within_pure _
        · exact within_reserveMaterialized compatible position _

section

variable (reservation : DeliveryAdmissionReservation)

theorem within_rollback (disposition : DeliveryAdmissionRollbackDisposition) :
    (rollback reservation disposition).Within Allowed := by
  refine (within_modifyReservations compatible _).bind fun consumed => ?_
  split
  · exact within_pure _
  · next binding =>
    have rest : (do
        rollbackFreshTask reservation disposition binding
        removeForwardOwner reservation.forwardOwner
        releasePermit reservation.permit
        releaseIntegrationTarget reservation.acquiredIntegrationResponsibility
        pure DeliveryAdmissionOutcome.completed : DeliveryProgram _).Within Allowed := by
      refine Within.bind ?_ fun _ => ?_
      · unfold rollbackFreshTask
        split
        · exact within_pure ()
        · split
          · exact within_updateAdmission compatible
              (AdmissionState.evolves_markFreshEntryActivity _ _)
          · exact within_updateAdmission compatible
              (AdmissionState.evolves_restoreFreshTaskReservation _ _)
      · exact (within_removeForwardOwner compatible _).bind fun _ =>
          (within_releasePermit compatible _).bind fun _ =>
            (within_releaseIntegrationTarget compatible _).bind fun _ => within_pure _
    simp only
    split
    · exact (within_updateAdmission compatible
        (AdmissionState.evolves_releaseSafeContinuationReservation _)).bind fun _ =>
          (within_releaseCreatedPosition compatible _ _).bind fun _ => rest
    · exact rest

theorem within_complete : (complete reservation).Within Allowed := by
  refine (within_modifyReservations compatible _).bind fun consumed => ?_
  split
  · exact within_pure _
  · next binding =>
    refine Within.bind ?_ fun outcome => ?_
    · unfold completePositions
      split
      · split
        · exact within_pure _
        · exact (within_updateAdmission compatible
            (AdmissionState.evolves_markFreshEntryActivity _ _)).bind fun _ => within_pure _
      · simp only
        split
        · exact (within_releaseCreatedPosition compatible _ _).bind fun _ => within_pure _
        · exact within_pure _
    · exact (within_removeForwardOwner compatible _).bind fun _ =>
        (within_releasePermit compatible _).bind fun _ => within_pure _

theorem within_bindFreshTaskClaimOperation (operationId : OperationId) :
    (bindFreshTaskClaimOperation reservation operationId).Within Allowed := by
  unfold bindFreshTaskClaimOperation
  split
  · split
    · exact within_pure _
    · refine (within_modifyReservations compatible _).bind fun active => ?_
      split
      · refine (within_modifyAdmission compatible
          (AdmissionState.evolves_bindFreshTaskClaimOperation _ _ _)).bind fun bound => ?_
        split
        · exact within_pure _
        · exact (within_modifyReservations compatible _).bind fun _ => within_pure _
      · exact within_pure _
  · exact within_pure _

theorem within_bindPlannedAttemptPosition (plannedAttempt : PlannedTaskAttempt)
    (acceptedResponsibility : Option AdmissionState.AcceptedPlannedAttemptExecutorResponsibility)
    (acceptedDelivery : Option AdmissionState.AcceptedExecutorCommandDelivery) :
    (bindPlannedAttemptPosition reservation plannedAttempt acceptedResponsibility
      acceptedDelivery).Within Allowed := by
  refine Within.bind ?_ fun active => ?_
  · refine (within_view compatible _).bind fun priorBinding => ?_
    split
    · exact within_pure _
    · exact within_modifyReservations compatible _
  · split
    · exact within_pure _
    · refine (within_modifyAdmission compatible
        (AdmissionState.evolves_bindPlannedAttemptPositionState _)).bind fun bound => ?_
      split
      · exact within_pure _
      · exact (within_modifyReservations compatible _).bind fun _ => within_pure _

end

end Calls

def Call.isSynchronize : Call → Bool
  | .synchronize .. => true
  | _ => false

theorem Call.program_within {Allowed : DeliveryRuntime → DeliveryRuntime → Prop}
    (compatible : Compatible Allowed) (initialRunId : RunId) {call : Call}
    (other : call.isSynchronize = false) : (call.program initialRunId).Within Allowed := by
  cases call with
  | synchronize basis observation => simp [isSynchronize] at other
  | tryReserve proposal => exact within_tryReservePrepared compatible proposal none
  | tryReserveFresh frontier materialize =>
      exact within_tryReserveFresh compatible frontier materialize
  | bindFreshTaskClaimOperation reservation operationId =>
      exact within_bindFreshTaskClaimOperation compatible reservation operationId
  | bindPlannedAttemptPosition reservation plannedAttempt responsibility delivery =>
      exact within_bindPlannedAttemptPosition compatible reservation plannedAttempt responsibility
        delivery
  | complete reservation => exact within_complete compatible reservation
  | rollback reservation disposition => exact within_rollback compatible reservation disposition
  | releasePlannedAttemptPosition correlation =>
      exact (within_modifyAdmission compatible
        (AdmissionState.evolves_releasePlannedAttemptPosition correlation)).bind fun _ =>
          within_pure _

def Evolves (before later : DeliveryRuntime) : Prop :=
  before.admission.Evolves later.admission

theorem Evolves.refl (runtime : DeliveryRuntime) : Evolves runtime runtime :=
  AdmissionState.Evolves.refl runtime.admission

theorem compatible_evolves : Compatible Evolves where
  refl := Evolves.refl
  admission evolves := evolves
  exit runtime _ := Evolves.refl runtime
  guard runtime _ := Evolves.refl runtime
  acquire runtime _ := Evolves.refl runtime
  release runtime _ := Evolves.refl runtime
  withdraw runtime _ := Evolves.refl runtime
  reservations runtime _ _ := Evolves.refl runtime

/-! ## Every interleaving -/

theorem synchronize_within (initialRunId : RunId) (basis : FreshTaskAdmissionBasis)
    (observation : FreshTaskCandidateObservation) :
    ((Call.synchronize basis observation).program initialRunId).Within fun before later =>
      ∀ taskId commitment,
        before.admission.positions.lookup taskId = some (.freshTaskCommitted commitment) →
          later.admission.StillCommitted taskId commitment ∨
            (basis.exactFreshTaskRelease taskId commitment.claimOperationId).isSome = true := by
  simp only [Call.program, synchronize]
  split
  · exact within_pure _
  · split
    · exact within_pure _
    · split
      · exact within_pure _
      · refine Within.bind ?_ fun problem => ?_
        · exact within_modify fun runtime taskId commitment committed =>
            AdmissionState.synchronize_owned committed
        · cases problem <;> exact within_pure _

theorem acceptedBasis_of_synchronize {current : AdmissionState} {basis : FreshTaskAdmissionBasis}
    {observation : FreshTaskCandidateObservation}
    (success : (current.synchronize basis observation).1 = none) :
    (current.synchronize basis observation).2.acceptedBasis = basis := by
  simp only [AdmissionState.synchronize] at success ⊢
  split at success
  · contradiction
  · next current_le =>
      rw [if_neg current_le]
      split at success
      · contradiction
      · rfl

theorem synchronize_finishes (initialRunId : RunId) (basis : FreshTaskAdmissionBasis)
    (observation : FreshTaskCandidateObservation) :
    ((Call.synchronize basis observation).program initialRunId).Finishes fun _ later outcome =>
      outcome = .completed → later.admission.acceptedBasis = basis ∧
        ∀ taskId, (basis.occupied.lookup taskId).isSome = true →
          (later.admission.positions.lookup taskId).isSome = true := by
  simp only [Call.program, synchronize]
  split
  · trivial
  · split
    · trivial
    · split
      · trivial
      · constructor
        · rintro runtime result finished rfl
          have success : (runtime.admission.synchronize basis observation).1 = none := by
            cases problem : (runtime.admission.synchronize basis observation).1 with
            | none => rfl
            | some message =>
                simp only [problem, Program.bind] at finished
                cases finished
          exact ⟨acceptedBasis_of_synchronize success,
            fun taskId accepted => AdmissionState.synchronize_occupied success accepted⟩
        · intro problem
          cases problem <;> trivial

section

variable (initial : FreshTaskAdmissionBasis) (actions : List (PoolAction Call ForeignAction))
  (action : PoolAction Call ForeignAction)

theorem after_concat :
    after initial (actions ++ [action]) =
      (Pool.step (Call.program initial.runId) foreign action (after initial actions)).2 :=
  Pool.after_concat _ actions action

theorem step_evolves :
    (after initial actions).state.admission.Evolves
        (after initial (actions ++ [action])).state.admission ∨
      ∃ id basis observation rest, action = .advance id ∧
        (after initial actions).calls id = some (.synchronize basis observation, rest) := by
  cases action with
  | begin call =>
      left
      rw [after_concat]
      exact .refl _
  | foreign action =>
      left
      rw [after_concat]
      cases action <;> exact AdmissionState.Evolves.refl _
  | advance id =>
      cases running : (after initial actions).calls id with
      | none =>
          left
          rw [after_concat, Pool.step_advance_idle running]
          exact .refl _
      | some entry =>
          obtain ⟨call, rest⟩ := entry
          by_cases other : call.isSynchronize = false
          · exact Or.inl (Pool.advance_within
              (Call.program_within compatible_evolves initial.runId other) Evolves.refl running)
          · cases call with
            | synchronize basis observation =>
                exact Or.inr ⟨id, basis, observation, rest, rfl, running⟩
            | _ => exact absurd rfl other

end

/-- What a step of any interleaving does to the positions. -/
theorem taskPositions_bounded_and_owned (initial : FreshTaskAdmissionBasis)
    (actions : List (PoolAction Call ForeignAction)) (action : PoolAction Call ForeignAction) :
    let before := after initial actions
    let later := after initial (actions ++ [action])
    (before.state.admission.capacity ≤ KeyedMap.size before.state.admission.positions →
      KeyedMap.size before.state.admission.positions <
          KeyedMap.size later.state.admission.positions →
        ∃ id basis observation rest, action = .advance id ∧
          before.calls id = some (.synchronize basis observation, rest)) ∧
    (∀ id basis observation rest, action = .advance id →
      before.calls id = some (.synchronize basis observation, rest) →
      (∀ outcome, rest ≠ .done outcome) →
      later.calls id = some (.synchronize basis observation, .done .completed) →
        later.state.admission.acceptedBasis = basis ∧
          ∀ taskId, (basis.occupied.lookup taskId).isSome = true →
            (later.state.admission.positions.lookup taskId).isSome = true) ∧
    ∀ taskId commitment,
      before.state.admission.positions.lookup taskId = some (.freshTaskCommitted commitment) →
        later.state.admission.StillCommitted taskId commitment ∨
          later.state.admission.HandedOver taskId commitment ∨
            ∃ id basis observation rest, action = .advance id ∧
              before.calls id = some (.synchronize basis observation, rest) ∧
                (basis.exactFreshTaskRelease taskId commitment.claimOperationId).isSome =
                  true := by
  intro before later
  have step := step_evolves initial actions action
  refine ⟨?_, ?_, ?_⟩
  · intro full grown
    refine step.resolve_left fun evolves => ?_
    exact absurd (evolves.bounded full) (Nat.not_le.mpr grown)
  · rintro id basis observation rest rfl running unfinished finished
    exact Pool.advance_finishes (synchronize_finishes initial.runId basis observation) running
      unfinished finished rfl
  · intro taskId commitment committed
    obtain evolves | ⟨id, basis, observation, rest, rfl, running⟩ := step
    · obtain kept | handedOver := evolves.owned committed
      · exact Or.inl kept
      · exact Or.inr (Or.inl handedOver)
    · have reflexive : ∀ runtime : DeliveryRuntime, ∀ taskId commitment,
          runtime.admission.positions.lookup taskId = some (.freshTaskCommitted commitment) →
            runtime.admission.StillCommitted taskId commitment ∨
              (basis.exactFreshTaskRelease taskId commitment.claimOperationId).isSome = true :=
        fun runtime taskId commitment committed =>
          Or.inl (AdmissionState.stillCommitted_of_lookup committed)
      obtain kept | released := Pool.advance_within
        (synchronize_within initial.runId basis observation) reflexive running taskId commitment
          committed
      · exact Or.inl kept
      · exact Or.inr (Or.inr ⟨id, basis, observation, rest, rfl, running, released⟩)

/-! ## A released commitment -/

namespace CommitmentReleased

def taskId : TaskId := ⟨"task"⟩

def operation : AcquireTaskClaimOperation :=
  ⟨⟨⟨"claim"⟩, ⟨"owner"⟩, taskId, ⟨"token"⟩⟩, .taskSelection, []⟩

def runId : RunId := ⟨"admission-run", by decide⟩

def commitment : FreshTaskCommitment := ⟨3, true, operation, runId⟩

def committed : FreshTaskAdmissionBasis where
  acceptedAt := some 3
  capacity := 1
  issued := true
  occupied := KeyedMap.ofEntries [(taskId, .freshTaskCommitted commitment)]
  releaseEvidence := ∅
  runId := runId
  safeContinuationRevalidations := []

def rejected : FreshTaskAdmissionBasis :=
  { committed with
    acceptedAt := some 4
    occupied := ∅
    releaseEvidence := KeyedMap.ofEntries
      [(freshTaskAdmissionReleaseKey taskId ⟨"claim"⟩, .exactPreOwnershipClaimRejected)] }

def actions : List (PoolAction Call ForeignAction) := [.begin (.synchronize rejected none)]

/-- The commitment goes with the evidence for its claim operation. -/
theorem commitment_released :
    (after committed (actions ++ [.advance 0])).state.admission.positions.lookup taskId = none ∧
      ((after committed (actions ++ [.advance 0])).state.admission.StillCommitted taskId
          commitment ∨
        (after committed (actions ++ [.advance 0])).state.admission.HandedOver taskId commitment ∨
          ∃ id basis observation rest, (.advance 0 : PoolAction Call ForeignAction) = .advance id ∧
            (after committed actions).calls id = some (.synchronize basis observation, rest) ∧
              (basis.exactFreshTaskRelease taskId commitment.claimOperationId).isSome = true) :=
  ⟨by decide, (taskPositions_bounded_and_owned committed actions (.advance 0)).2.2 taskId
    commitment (by decide)⟩

end CommitmentReleased

end DeliveryRuntime

end Dalph
