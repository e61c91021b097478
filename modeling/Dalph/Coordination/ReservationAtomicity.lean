import Dalph.Coordination.ReservationRollback

/-!
# Atomicity of reservations

A failed reservation leaves every resource as it was, except on two paths: a pending position was
bound to the attempt of the proposal, or the target of the proposal was already leased to its
responsibility.
-/

namespace Dalph

/-! ## Positions -/

namespace AdmissionState

variable {proposal : DeliveryActionProposal} {current : AdmissionState}

def BindsPendingPosition (proposal : DeliveryActionProposal) (current : AdmissionState)
    (taskId : TaskId) : Prop :=
  proposal.admission.safeContinuationRevalidation = none ∧ proposal.isFreshEntryRoute = false ∧
    freshContinuationIsUsable proposal.freshContinuationCommitmentRequirementOf current = true ∧
    proposal.admission.taskWorkPosition = .reserveOrReuse taskId ∧
    proposal.admission.plannedAttemptProtocol.isSome = true ∧
    ∃ owner, current.positions.lookup taskId = some (.pendingRuntimePosition owner)

/-- A reservation changes nothing, creates a position for itself, or binds a pending one. -/
inductive ReservationEffect (proposal : DeliveryActionProposal) (current : AdmissionState) : Prop
  | unchanged (created : (current.reserveTaskPositionState proposal).1.createdFor = none)
      (same : (current.reserveTaskPositionState proposal).2 = current)
  | created (taskId : TaskId) (position : TaskWorkPosition)
      (admitted : (current.reserveTaskPositionState proposal).1.admitted = true)
      (created : (current.reserveTaskPositionState proposal).1.createdFor = some taskId)
      (free : current.positions.lookup taskId = none)
      (owner : positionProposalId position = some proposal.id)
      (set : (current.reserveTaskPositionState proposal).2 = current.setPosition taskId position)
  | bound (taskId : TaskId) (correlation : PlannedAttemptExecutorCorrelation)
      (binds : BindsPendingPosition proposal current taskId)
      (admitted : (current.reserveTaskPositionState proposal).1.admitted = true)
      (created : (current.reserveTaskPositionState proposal).1.createdFor = none)
      (set : (current.reserveTaskPositionState proposal).2 =
        current.setPosition taskId (.boundRuntimePosition correlation proposal.id))

theorem reservationEffect (proposal : DeliveryActionProposal) (current : AdmissionState) :
    ReservationEffect proposal current := by
  cases safe : proposal.admission.safeContinuationRevalidation with
  | some eligibility =>
      have reserved : current.reserveTaskPositionState proposal =
          current.reserveSafeContinuationPosition proposal eligibility := by
        simp only [reserveTaskPositionState, safe]
      simp only [reserveSafeContinuationPosition, unchangedTaskReservation] at reserved
      split at reserved
      · exact .unchanged (by rw [reserved]) (by rw [reserved])
      · split at reserved
        · exact .unchanged (by rw [reserved]) (by rw [reserved])
        · exact .unchanged (by rw [reserved]) (by rw [reserved])
        · next free =>
            split at reserved
            · exact .unchanged (by rw [reserved]) (by rw [reserved])
            · split at reserved
              · exact .unchanged (by rw [reserved]) (by rw [reserved])
              · exact .created _ _ (by rw [reserved]) (by rw [reserved]) free rfl (by rw [reserved])
  | none =>
      by_cases entry : proposal.isFreshEntryRoute = true
      · have reserved : current.reserveTaskPositionState proposal =
            current.unchangedTaskReservation false := by
          simp only [reserveTaskPositionState, safe, entry, if_true]
        exact .unchanged (by rw [reserved]; rfl) (by rw [reserved]; rfl)
      · by_cases refused : (!freshContinuationIsUsable
            proposal.freshContinuationCommitmentRequirementOf current ||
              continuationCannotUseCommittedPosition
                proposal.freshContinuationCommitmentRequirementOf
                proposal.admission.taskWorkPosition current) = true
        · have reserved : current.reserveTaskPositionState proposal =
              current.unchangedTaskReservation false := by
            simp only [reserveTaskPositionState, safe, entry, refused, if_true]
            rfl
          exact .unchanged (by rw [reserved]; rfl) (by rw [reserved]; rfl)
        · have reserved : current.reserveTaskPositionState proposal =
              current.reserveRequiredTaskPosition proposal proposal.admission.taskWorkPosition := by
            simp only [reserveTaskPositionState, safe, entry, refused]
            rfl
          simp only [Bool.or_eq_true, Bool.not_eq_true', not_or, Bool.not_eq_false] at refused
          cases required : proposal.admission.taskWorkPosition with
          | noTaskWorkPosition =>
              simp only [required, reserveRequiredTaskPosition, unchangedTaskReservation] at reserved
              exact .unchanged (by rw [reserved]) (by rw [reserved])
          | existing taskId =>
              simp only [required, reserveRequiredTaskPosition, reserveExistingTaskPosition,
                unchangedTaskReservation] at reserved
              split at reserved <;> exact .unchanged (by rw [reserved]) (by rw [reserved])
          | reserveOrReuse taskId =>
              simp only [required, reserveRequiredTaskPosition, reserveReusableTaskPosition,
                unchangedTaskReservation] at reserved
              split at reserved
              · next existing occupied =>
                  simp only [reserveOccupiedReusablePosition, unchangedTaskReservation] at reserved
                  split at reserved
                  · split at reserved <;> exact .unchanged (by rw [reserved]) (by rw [reserved])
                  · next correlation attempt =>
                      split at reserved
                      · exact .unchanged (by rw [reserved]) (by rw [reserved])
                      · next owner =>
                          refine .bound taskId correlation ?_ (by rw [reserved]) (by rw [reserved])
                            (by rw [reserved])
                          exact ⟨safe, by simpa using entry, refused.1, required, by simp [attempt],
                            owner, occupied⟩
                      · exact .unchanged (by rw [reserved]) (by rw [reserved])
              · next free =>
                  split at reserved
                  · exact .unchanged (by rw [reserved]) (by rw [reserved])
                  · refine .created taskId _ (by rw [reserved]) (by rw [reserved]) free ?_
                      (by rw [reserved])
                    split <;> rfl

theorem BindsPendingPosition.reserves {taskId : TaskId}
    (binds : BindsPendingPosition proposal current taskId) :
    (current.reserveTaskPositionState proposal).1 = ⟨true, none⟩ ∧
      ∃ correlation, (current.reserveTaskPositionState proposal).2 =
        current.setPosition taskId (.boundRuntimePosition correlation proposal.id) := by
  obtain ⟨safe, entry, usable, required, attempt, owner, pending⟩ := binds
  obtain ⟨correlation, attempt⟩ := Option.isSome_iff_exists.mp attempt
  have uncommitted : continuationCannotUseCommittedPosition
      proposal.freshContinuationCommitmentRequirementOf (.reserveOrReuse taskId) current = false := by
    simp [continuationCannotUseCommittedPosition, requiredTaskId, pending]
  have reserved : current.reserveTaskPositionState proposal =
      (⟨true, none⟩,
        current.setPosition taskId (.boundRuntimePosition correlation proposal.id)) := by
    simp [reserveTaskPositionState, safe, entry, usable, required, uncommitted,
      reserveRequiredTaskPosition, reserveReusableTaskPosition, pending,
      reserveOccupiedReusablePosition, attempt]
  rw [reserved]
  exact ⟨rfl, correlation, rfl⟩

theorem lookup_release_created {taskId : TaskId} {position : TaskWorkPosition}
    {proposalId : DeliveryProposalId} (free : current.positions.lookup taskId = none)
    (owner : positionProposalId position = some proposalId) (other : TaskId) :
    ((current.setPosition taskId position).releaseTaskReservation taskId
      proposalId).positions.lookup other = current.positions.lookup other := by
  have owned : (((current.setPosition taskId position).positions.lookup taskId).bind
      positionProposalId) = some proposalId := by
    simp [setPosition, withPositions, owner]
  rw [releaseTaskReservation, if_pos owned]
  simp only [removePosition, setPosition, withPositions, KeyedMap.lookup_erase_eq_ite,
    KeyedMap.lookup_set]
  split
  · next same => rw [same, free]
  · rfl

/-! ## Fresh positions -/

theorem reserveFreshTaskPosition_cases (frontier : FreshTaskCandidateFrontier)
    (current : AdmissionState) :
    ((current.reserveFreshTaskPosition frontier).1 = none ∧
      (current.reserveFreshTaskPosition frontier).2 = current) ∨
    ∃ reservation : FreshTaskPositionReservation,
      (current.reserveFreshTaskPosition frontier).1 = some reservation ∧
      current.positions.lookup reservation.candidate.taskId =
        reservation.previous.map .freshEntryRuntimePosition ∧
      (current.reserveFreshTaskPosition frontier).2 =
        current.setPosition reservation.candidate.taskId
          (.freshEntryRuntimePosition ⟨.pendingMaterialization, reservation.candidate⟩) := by
  simp only [reserveFreshTaskPosition]
  split
  · exact Or.inl ⟨rfl, rfl⟩
  · split
    · exact Or.inl ⟨rfl, rfl⟩
    · split
      · exact Or.inl ⟨rfl, rfl⟩
      · next candidate found =>
          split
          · next existing occupied => exact Or.inr ⟨_, rfl, occupied, rfl⟩
          · next others =>
              split
              · exact Or.inl ⟨rfl, rfl⟩
              · obtain free | ⟨entry, occupied⟩ :=
                  lookup_of_freshCandidateIsSelectable (List.find?_some found)
                · exact Or.inr ⟨_, rfl, free, rfl⟩
                · exact absurd occupied (others entry)

theorem lookup_restoreFreshTaskReservation {reservation : FreshTaskPositionReservation}
    {proposalId : DeliveryProposalId} {restored : AdmissionState}
    (previous : current.positions.lookup reservation.candidate.taskId =
      reservation.previous.map .freshEntryRuntimePosition)
    (elsewhere : ∀ taskId, taskId ≠ reservation.candidate.taskId →
      restored.positions.lookup taskId = current.positions.lookup taskId)
    (here : restored.positions.lookup reservation.candidate.taskId =
        current.positions.lookup reservation.candidate.taskId ∨
      restored.positions.lookup reservation.candidate.taskId =
        some (.freshEntryRuntimePosition ⟨.owned proposalId, reservation.candidate⟩))
    (taskId : TaskId) :
    (restored.restoreFreshTaskReservation reservation (some proposalId)).positions.lookup taskId =
      current.positions.lookup taskId := by
  by_cases same : taskId = reservation.candidate.taskId
  · subst same
    simp only [restoreFreshTaskReservation]
    obtain unchanged | owned := here
    · split
      · next entry occupied =>
          split
          · split
            · next absent =>
                rw [unchanged, previous, absent] at occupied
                cases occupied
            · next existing =>
                rw [previous, existing]
                simp [setPosition, withPositions]
          · exact unchanged
      · exact unchanged
    · have restorable : freshReservationCanBeRestored ⟨.owned proposalId, reservation.candidate⟩
          reservation (some proposalId) = true := by
        simp [freshReservationCanBeRestored, freshActivityIsOwnedBy]
      simp only [owned, restorable, if_true]
      rw [previous]
      cases reservation.previous with
      | none => simp [removePosition, withPositions]
      | some existing => simp [setPosition, withPositions]
  · rw [← elsewhere taskId same]
    simp only [restoreFreshTaskReservation]
    split
    · split
      · split
        · simp [removePosition, withPositions, same]
        · simp [setPosition, withPositions, same]
      · rfl
    · rfl

end AdmissionState

namespace ApplicationExitState

variable {Value : Type} {state : ApplicationExitState Value}

def OwnersBelow (state : ApplicationExitState Value) : Prop :=
  ∀ ownerId, (state.owners.lookup ownerId).isSome = true → ownerId < state.nextOwnerId

theorem OwnersBelow.insert (below : state.OwnersBelow) {ownerId : Nat} {owner old : ForwardOwnerState}
    (found : state.owners.lookup ownerId = some old) :
    ({ state with owners := state.owners.insert ownerId owner }).OwnersBelow := by
  intro other present
  apply below
  simp only [KeyedMap.lookup_insert_eq_ite] at present
  split at present
  · next same => rw [same, found]; rfl
  · exact present

theorem OwnersBelow.updateInterruptibleBoundary (below : state.OwnersBelow) (ownerId : Nat)
    (boundary : InterruptibleBoundaryOwnerSnapshot) :
    (state.updateInterruptibleBoundary ownerId boundary).OwnersBelow := by
  unfold ApplicationExitState.updateInterruptibleBoundary
  split
  · next found => exact below.insert found
  · exact below

theorem OwnersBelow.step (below : state.OwnersBelow) (action : ApplicationExitAction Value) :
    (ApplicationExitState.step action state).2.OwnersBelow := by
  cases action with
  | prepareForwardOwner kind =>
      simp only [ApplicationExitState.step, ApplicationExitState.prepareForwardOwner]
      split
      · exact below
      · intro ownerId present
        simp only [answer, begin, setCall, KeyedMap.lookup_insert_eq_ite] at present ⊢
        split at present
        · next same => rw [same]; exact Nat.lt_succ_self _
        · exact Nat.lt_succ_of_lt (below ownerId present)
  | register ownerId =>
      simp only [ApplicationExitState.step, ApplicationExitState.register]
      split
      · next serving found => exact below.insert found
      · exact below
  | removeOwner ownerId =>
      have erased : ∀ other, ((state.owners.erase ownerId).lookup other).isSome = true →
          other < state.nextOwnerId := by
        intro other present
        apply below
        rw [KeyedMap.lookup_erase_eq_ite] at present
        split at present
        · contradiction
        · exact present
      simp only [ApplicationExitState.step, ApplicationExitState.removeOwner]
      split
      · exact below
      · split <;> exact erased
  | requestExit requestedAt =>
      simp only [ApplicationExitState.step, ApplicationExitState.requestExit]
      split <;> exact below
  | runInterruptibleBoundary ownerId intent =>
      simp only [ApplicationExitState.step, ApplicationExitState.runInterruptibleBoundary]
      split
      · next serving found =>
          split
          · exact below.insert found
          · exact below
      · exact below
  | runAtomicBoundary ownerId =>
      simp only [ApplicationExitState.step, ApplicationExitState.runAtomicBoundary]
      split <;> exact below
  | resume call =>
      simp only [ApplicationExitState.step, ApplicationExitState.resume]
      split
      · exact below
      · split <;> exact below
      · exact below
      · split <;> exact below
      · exact below.updateInterruptibleBoundary _ _
      · exact below.updateInterruptibleBoundary _ _
      · exact below.updateInterruptibleBoundary _ _
      · split <;> exact below
      · split <;> exact below
      · exact below
  | effectReturns call value =>
      simp only [ApplicationExitState.step, ApplicationExitState.effectReturns]
      split <;> exact below
  | effectFails call =>
      simp only [ApplicationExitState.step, ApplicationExitState.effectFails]
      split <;> exact below
  | interrupt call =>
      simp only [ApplicationExitState.step, ApplicationExitState.interrupt]
      split <;> exact below

end ApplicationExitState

def DeliveryAdmissionOutcome.Failed (outcome : DeliveryAdmissionOutcome) : Prop :=
  (∃ reason, outcome = .deferred reason) ∨ outcome = .applicationExiting

namespace DeliveryRuntime

open Program

/-! ## Reachable runtimes -/

/-- The lease maps are inverse and the next owner is new. -/
structure Sound (runtime : DeliveryRuntime) : Prop where
  inverse : runtime.integrationTargets.leases.MutuallyInverse
  ownersBelow : runtime.applicationExit.OwnersBelow

theorem compatible_sound : Compatible fun before later => Sound before → Sound later where
  refl _ sound := sound
  admission _ sound := ⟨sound.inverse, sound.ownersBelow⟩
  exit _ action sound := ⟨sound.inverse, sound.ownersBelow.step action⟩
  guard _ _ sound := ⟨sound.inverse, sound.ownersBelow⟩
  acquire runtime responsibility sound := by
    refine ⟨?_, sound.ownersBelow⟩
    have acquired := sound.inverse.acquire responsibility runtime.integrationTargets.nextPermit
    simp only [IntegrationTargetResourceState.acquire]
    split <;> exact acquired
  release _ responsibility sound := ⟨sound.inverse.release responsibility, sound.ownersBelow⟩
  withdraw _ _ sound := ⟨sound.inverse, sound.ownersBelow⟩
  reservations _ _ _ sound := ⟨sound.inverse, sound.ownersBelow⟩

theorem after_sound (initial : FreshTaskAdmissionBasis)
    (actions : List (PoolAction Call ForeignAction)) : (after initial actions).state.Sound := by
  refine Pool.after_preserves ?_ ?_ ?_ actions
  · intro call
    by_cases other : call.isSynchronize = false
    · exact Call.program_within compatible_sound initial.runId other
    · cases call with
      | synchronize basis observation =>
          simp only [Call.program, synchronize]
          split
          · exact within_pure _
          · split
            · exact within_pure _
            · split
              · exact within_pure _
              · refine Within.bind ?_ fun problem => ?_
                · exact within_modify fun runtime sound => ⟨sound.inverse, sound.ownersBelow⟩
                · cases problem <;> exact within_pure _
      | _ => exact absurd rfl other
  · intro action runtime sound
    cases action with
    | applicationExit action => exact ⟨sound.inverse, sound.ownersBelow.step action⟩
    | integrationTarget action =>
        exact ⟨IntegrationTargetResourceState.inverse_step sound.inverse action, sound.ownersBelow⟩
    | plannedAttemptProtocol action => exact ⟨sound.inverse, sound.ownersBelow⟩
  · refine ⟨IntegrationTargetResourceLeases.mutuallyInverse_emptyLeases, ?_⟩
    intro ownerId present
    simp [makeDeliveryRuntimeAdmissionController, makeApplicationExitLifecycle] at present

/-! ## What a failed reservation leaves -/

section Failure

variable {before final : DeliveryRuntime} {proposal : DeliveryActionProposal}
  {freshTask : Option AdmissionState.FreshTaskPositionReservation}
  {outcome : DeliveryAdmissionOutcome}

def Reservable (runtime : DeliveryRuntime) (proposal : DeliveryActionProposal) : Prop :=
  runtime.applicationExit.phase = .serving ∧
    ProtocolFree proposal runtime.resources.protocolOwners

/-- The permit and the forward owner were given back. -/
structure OwnersRestored (before final : DeliveryRuntime) : Prop where
  protocolOwners : ∀ key, final.resources.protocolOwners.lookup key =
    before.resources.protocolOwners.lookup key
  forwardOwners : ∀ ownerId, final.resources.forwardOwners.lookup ownerId =
    before.resources.forwardOwners.lookup ownerId

theorem Sound.nextOwner (sound : before.Sound) :
    before.resources.forwardOwners.lookup before.applicationExit.nextOwnerId = none := by
  by_contra present
  exact Nat.lt_irrefl _ (sound.ownersBelow _ (Option.isSome_iff_ne_none.mpr present))

theorem Sound.erase_insert (sound : before.Sound) (owner : ForwardOwnerState) (ownerId : Nat) :
    ((before.resources.forwardOwners.insert before.applicationExit.nextOwnerId owner).erase
      before.applicationExit.nextOwnerId).lookup ownerId =
        before.resources.forwardOwners.lookup ownerId := by
  rw [KeyedMap.lookup_erase_eq_ite, KeyedMap.lookup_insert_eq_ite]
  split
  · next same => rw [same, sound.nextOwner]
  · rfl

/-- A failed reservation was refused at once, or gave its permit and its owner back. -/
theorem ends_tryReservePrepared (sound : before.Sound)
    (ends : Ends (tryReservePrepared proposal freshTask) before outcome final)
    (failed : outcome.Failed) :
    (outcome = .applicationExiting ∧ final.resources = before.resources) ∨
      (OwnersRestored before final ∧
        ((final.admission = withFreshRestored freshTask proposal.id before.admission ∧
          final.resources.leases = before.resources.leases) ∨
        (Reservable before proposal ∧
          (reservedPosition proposal freshTask before.admission).1.admitted = false ∧
          final.admission = withFreshRestored freshTask proposal.id
            (reservedPosition proposal freshTask before.admission).2 ∧
          final.resources.leases = before.resources.leases) ∨
        (Reservable before proposal ∧
          (reservedPosition proposal freshTask before.admission).1.admitted = true ∧
          final.admission = positionsAfterFailure proposal freshTask before.admission ∧
          ∃ acquired leases, TargetGranted proposal before.resources.leases leases acquired ∧
            final.resources.leases = withoutTarget leases acquired))) := by
  obtain ⟨owner, prepared, prepares, rest⟩ := executes_bind_iff.mp ends
  obtain ⟨rfl, prepared_eq⟩ | ⟨rfl, serving, prepared_eq⟩ := ends_prepareForwardOwner prepares
  · obtain ⟨rfl, rfl⟩ := executes_pure_iff.mp rest
    exact Or.inl ⟨rfl, prepared_eq⟩
  right
  have preparedAdmission : prepared.admission = before.admission :=
    congrArg Resources.admission prepared_eq
  obtain ⟨protocol, permitted, reserves, rest⟩ := executes_bind_iff.mp rest
  obtain ⟨rfl, owned, permitted_eq⟩ | ⟨permit, rfl, free, permitted_eq, permits, released⟩ :=
    ends_reservePlannedAttemptProtocol reserves
  · -- The attempt is owned: only the prepared owner is given back.
    obtain ⟨_, undoing, undoes, returns⟩ := executes_bind_iff.mp rest
    obtain ⟨rfl, rfl⟩ := executes_pure_iff.mp returns
    have final_eq := ends_undoPrepared (show Permitted _ none from trivial)
      (by rw [permitted_eq, prepared_eq]; simp) undoes
    rw [permitted_eq, prepared_eq] at final_eq
    refine ⟨⟨fun key => ?_, fun ownerId => ?_⟩, Or.inl ⟨?_, ?_⟩⟩
    · rw [final_eq]
      rfl
    · rw [final_eq]
      exact sound.erase_insert _ ownerId
    · exact congrArg Resources.admission final_eq
    · rw [final_eq]
  · have permittedAdmission : permitted.admission = before.admission :=
      (congrArg Resources.admission permitted_eq).trans preparedAdmission
    have permittedLeases : permitted.resources.leases = before.resources.leases := by
      rw [permitted_eq, prepared_eq]
    have permittedOwners : permitted.resources.forwardOwners =
        before.resources.forwardOwners.insert before.applicationExit.nextOwnerId
          (.preparing (forwardOwnerKindFor proposal)) := by
      rw [permitted_eq, prepared_eq]
    have reservable : Reservable before proposal := ⟨serving, by rwa [prepared_eq] at free⟩
    have restored : ∀ {admission leases}, final.resources =
        permitted.undone permit before.applicationExit.nextOwnerId admission leases →
          OwnersRestored before final := by
      intro admission leases final_eq
      refine ⟨fun key => ?_, fun ownerId => ?_⟩
      · rw [final_eq]
        exact (released key).trans (by rw [prepared_eq])
      · rw [final_eq]
        simp only [undone, permittedOwners]
        exact sound.erase_insert _ ownerId
    obtain ⟨rfl, refused, final_eq⟩ | ⟨rfl, granted, unheld, final_eq⟩ |
      ⟨rfl, granted, acquired, leases, target, final_eq⟩ | ⟨reservation, rfl⟩ |
        ⟨⟨message, rfl⟩, -⟩ := ends_reservePermitted permits (by rw [permittedOwners]; simp) rest
    · rw [permittedAdmission] at refused final_eq
      rw [permittedLeases] at final_eq
      exact ⟨restored final_eq, Or.inr (Or.inl ⟨reservable, refused,
        congrArg Resources.admission final_eq, by rw [final_eq]; rfl⟩)⟩
    · rw [permittedAdmission] at granted final_eq
      rw [permittedLeases] at final_eq unheld
      exact ⟨restored final_eq, Or.inr (Or.inr ⟨reservable, granted,
        congrArg Resources.admission final_eq, none, _, Or.inl ⟨rfl, rfl, unheld⟩,
          by rw [final_eq]; rfl⟩)⟩
    · rw [permittedAdmission] at granted final_eq
      rw [permittedLeases] at target
      exact ⟨restored final_eq, Or.inr (Or.inr ⟨reservable, granted,
        congrArg Resources.admission final_eq, acquired, leases, target,
          congrArg Resources.leases final_eq⟩)⟩
    · obtain ⟨reason, impossible⟩ | impossible := failed <;> contradiction
    · obtain ⟨reason, impossible⟩ | impossible := failed <;> contradiction

/-! ## Restored positions and leases -/

variable {acquired : Option IntegrationTargetResourceResponsibility}

theorem withoutTarget_same {leases later : IntegrationTargetResourceLeases}
    (inverse : leases.MutuallyInverse) (unheld : ¬ AcquiresHeldTarget proposal leases)
    (granted : TargetGranted proposal leases later acquired) :
    (∀ key, (withoutTarget later acquired).byTarget.lookup key = leases.byTarget.lookup key) ∧
      ∀ key, (withoutTarget later acquired).targetByResponsibility.lookup key =
        leases.targetByResponsibility.lookup key := by
  obtain ⟨rfl, rfl, -⟩ | ⟨responsibility, permit, required, rfl, acquires⟩ := granted
  · exact ⟨fun _ => rfl, fun _ => rfl⟩
  · refine IntegrationTargetResourceLeases.release_acquire inverse ?_ acquires
    by_contra held
    exact unheld ⟨responsibility, required, Option.isSome_iff_ne_none.mpr held⟩

theorem positionsAfterFailure_same {current : AdmissionState}
    (unbound : ∀ taskId, ¬ AdmissionState.BindsPendingPosition proposal current taskId)
    (taskId : TaskId) :
    (positionsAfterFailure proposal none current).positions.lookup taskId =
      current.positions.lookup taskId := by
  simp only [positionsAfterFailure, reservedPosition, withFreshRestored]
  cases AdmissionState.reservationEffect proposal current with
  | unchanged created same =>
      rw [created, same]
      rfl
  | created createdFor position _ created free owner set =>
      rw [created, set]
      exact AdmissionState.lookup_release_created free owner taskId
  | bound boundFor _ binds => exact absurd binds (unbound boundFor)

theorem refused_same {current : AdmissionState}
    (refused : (current.reserveTaskPositionState proposal).1.admitted = false) :
    (current.reserveTaskPositionState proposal).2 = current := by
  cases AdmissionState.reservationEffect proposal current with
  | unchanged _ same => exact same
  | created _ _ admitted =>
      rw [admitted] at refused
      contradiction
  | bound _ _ _ admitted =>
      rw [admitted] at refused
      contradiction

def LeavesTrace (runtime : DeliveryRuntime) (proposal : DeliveryActionProposal) : Prop :=
  Reservable runtime proposal ∧
    ((∃ taskId, AdmissionState.BindsPendingPosition proposal runtime.admission taskId) ∨
      ((runtime.admission.reserveTaskPositionState proposal).1.admitted = true ∧
        AcquiresHeldTarget proposal runtime.resources.leases))

theorem tryReserve_restores (sound : before.Sound) (traceless : ¬ LeavesTrace before proposal)
    (ends : Ends (tryReserve proposal) before outcome final) (failed : outcome.Failed) :
    final.resources.Same before.resources := by
  obtain ⟨-, same⟩ | ⟨owners, ⟨admission, leases⟩ | ⟨-, refused, admission, leases⟩ |
    ⟨reservable, granted, admission, acquired, later, target, leases⟩⟩ :=
      ends_tryReservePrepared sound ends failed
  · rw [same]
    exact .refl _
  · refine ⟨fun taskId => ?_, owners.protocolOwners, ?_, ?_, owners.forwardOwners⟩
    · exact congrArg (·.positions.lookup taskId) admission
    · exact fun key => by rw [leases]
    · exact fun key => by rw [leases]
  · refine ⟨fun taskId => ?_, owners.protocolOwners, ?_, ?_, owners.forwardOwners⟩
    · exact congrArg (·.positions.lookup taskId) (admission.trans (refused_same refused))
    · exact fun key => by rw [leases]
    · exact fun key => by rw [leases]
  · have unbound : ∀ taskId,
        ¬ AdmissionState.BindsPendingPosition proposal before.admission taskId :=
      fun taskId binds => traceless ⟨reservable, Or.inl ⟨taskId, binds⟩⟩
    have unheld : ¬ AcquiresHeldTarget proposal before.resources.leases :=
      fun held => traceless ⟨reservable, Or.inr ⟨granted, held⟩⟩
    obtain ⟨targets, responsibilities⟩ := withoutTarget_same sound.inverse unheld target
    refine ⟨fun taskId => ?_, owners.protocolOwners, ?_, ?_, owners.forwardOwners⟩
    · exact (congrArg (·.positions.lookup taskId) admission).trans
        (positionsAfterFailure_same unbound taskId)
    · exact fun key => by rw [leases]; exact targets key
    · exact fun key => by rw [leases]; exact responsibilities key

/-! ## A failure after every grant -/

theorem exists_registration_refused (ownerId : Nat) (before : DeliveryRuntime) :
    ∃ final, Ends (registerForwardOwner ownerId) before false final := by
  obtain ⟨cutoffAt, stage, begun⟩ := requestExit_begins before.applicationExit 0
  refine ⟨_, executes_modify_iff.mpr ⟨foreign (.applicationExit (.requestExit 0)) before,
    .single ⟨0, rfl⟩, Prod.ext ?_ rfl⟩⟩
  simp [foreign, ApplicationExitState.step, begun, ApplicationExitState.begin,
    ApplicationExitState.setCall, ApplicationExitState.register, ApplicationExitState.answer]

theorem exists_ends {Result : Type} (program : DeliveryProgram Result) (before : DeliveryRuntime) :
    ∃ result final, Ends program before result final :=
  exists_executes (fun _ => .refl) program before

theorem exists_registerReservation_fails (permit : Option PlannedAttemptProtocolPermit)
    (ownerId : Nat) (task : TaskPositionReservation)
    (acquired : Option IntegrationTargetResourceResponsibility) (before : DeliveryRuntime) :
    ∃ final, Ends (registerReservation proposal freshTask permit ownerId task acquired) before
      .applicationExiting final := by
  obtain ⟨refused, refuses⟩ := exists_registration_refused ownerId before
  obtain ⟨_, freed, frees⟩ := exists_ends (releaseIntegrationTarget acquired) refused
  obtain ⟨_, released, releases⟩ :=
    exists_ends (releaseCreatedPosition task.createdFor proposal.id) freed
  obtain ⟨_, final, undoes⟩ := exists_ends (undoPrepared proposal freshTask permit ownerId) released
  refine ⟨final, executes_bind_iff.mpr ⟨false, refused, refuses, ?_⟩⟩
  refine executes_bind_iff.mpr ⟨_, freed, frees, ?_⟩
  refine executes_bind_iff.mpr ⟨_, released, releases, ?_⟩
  exact executes_bind_iff.mpr ⟨_, final, undoes, executes_pure_iff.mpr ⟨rfl, rfl⟩⟩

theorem exists_reservePermitted_fails (permit : Option PlannedAttemptProtocolPermit) (ownerId : Nat)
    (inverse : before.resources.leases.MutuallyInverse)
    (granted : (reservedPosition proposal freshTask before.admission).1.admitted = true) :
    ∃ outcome final, Ends (reservePermitted proposal freshTask permit ownerId) before outcome
      final ∧ outcome.Failed := by
  obtain ⟨task, reserved, reserves⟩ := exists_ends (reserveTaskPosition proposal freshTask) before
  obtain ⟨integration, leased, leases⟩ := exists_ends (reserveIntegration proposal) reserved
  obtain ⟨rfl, reserved_eq⟩ := ends_reserveTaskPosition reserves
  obtain ⟨rfl, -, -⟩ | ⟨-, responsibility, number, invalid⟩ | ⟨acquired, rfl, -, -⟩ :=
    ends_reserveIntegration leases
  · obtain ⟨_, released, releases⟩ := exists_ends (releaseCreatedPosition
      (reservedPosition proposal freshTask before.admission).1.createdFor proposal.id) leased
    obtain ⟨_, final, undoes⟩ :=
      exists_ends (undoPrepared proposal freshTask permit ownerId) released
    refine ⟨.deferred .integrationTargetUnavailable, final, ?_, Or.inl ⟨_, rfl⟩⟩
    refine executes_bind_iff.mpr ⟨_, reserved, reserves, ?_⟩
    simp only [granted, Bool.not_true, Bool.false_eq_true, if_false]
    refine executes_bind_iff.mpr ⟨_, leased, leases, ?_⟩
    refine executes_bind_iff.mpr ⟨_, released, releases, ?_⟩
    exact executes_bind_iff.mpr ⟨_, final, undoes, executes_pure_iff.mpr ⟨rfl, rfl⟩⟩
  · rw [reserved_eq] at invalid
    exact absurd invalid
      (IntegrationTargetResourceLeases.acquire_cases inverse responsibility number).1
  · obtain ⟨final, fails⟩ := exists_registerReservation_fails permit ownerId
      (reservedPosition proposal freshTask before.admission).1 acquired leased
    refine ⟨_, final, ?_, Or.inr rfl⟩
    refine executes_bind_iff.mpr ⟨_, reserved, reserves, ?_⟩
    simp only [granted, Bool.not_true, Bool.false_eq_true, if_false]
    exact executes_bind_iff.mpr ⟨_, leased, leases, fails⟩

theorem exists_prepareForwardOwner (kind : ForwardOwnerKind)
    (serving : before.applicationExit.phase = .serving) :
    ∃ prepared, Ends (prepareForwardOwner kind) before (some before.applicationExit.nextOwnerId)
      prepared := by
  refine ⟨_, executes_modify_iff.mpr ⟨before, .refl, Prod.ext ?_ rfl⟩⟩
  simp [ApplicationExitState.prepareForwardOwner, serving, ApplicationExitState.answer]

theorem exists_failure (sound : before.Sound) (reservable : Reservable before proposal)
    (granted : (reservedPosition proposal freshTask before.admission).1.admitted = true) :
    ∃ outcome final, Ends (tryReservePrepared proposal freshTask) before outcome final ∧
      outcome.Failed ∧ final.admission = positionsAfterFailure proposal freshTask before.admission ∧
        ∃ acquired leases, TargetGranted proposal before.resources.leases leases acquired ∧
          final.resources.leases = withoutTarget leases acquired := by
  obtain ⟨serving, free⟩ := reservable
  obtain ⟨prepared, prepares⟩ :=
    exists_prepareForwardOwner (forwardOwnerKindFor proposal) serving
  obtain ⟨impossible, -⟩ | ⟨-, -, prepared_eq⟩ := ends_prepareForwardOwner prepares
  · contradiction
  obtain ⟨protocol, permitted, reserves⟩ :=
    exists_ends (reservePlannedAttemptProtocol proposal) prepared
  obtain ⟨-, owned, -⟩ | ⟨permit, rfl, -, permitted_eq, permits, -⟩ :=
    ends_reservePlannedAttemptProtocol reserves
  · rw [prepared_eq] at owned
    exact absurd free owned
  have permittedAdmission : permitted.admission = before.admission :=
    (congrArg Resources.admission permitted_eq).trans (congrArg Resources.admission prepared_eq)
  have permittedLeases : permitted.resources.leases = before.resources.leases := by
    rw [permitted_eq, prepared_eq]
  have present : (permitted.resources.forwardOwners.lookup
      before.applicationExit.nextOwnerId).isSome = true := by
    rw [permitted_eq, prepared_eq]
    simp
  rw [← permittedAdmission] at granted
  obtain ⟨outcome, final, fails, failed⟩ := exists_reservePermitted_fails permit
    before.applicationExit.nextOwnerId (by rw [permittedLeases]; exact sound.inverse) granted
  refine ⟨outcome, final, ?_, failed, ?_⟩
  · refine executes_bind_iff.mpr ⟨_, prepared, prepares, ?_⟩
    exact executes_bind_iff.mpr ⟨_, permitted, reserves, fails⟩
  · rw [← permittedAdmission, ← permittedLeases]
    obtain ⟨-, refused, -⟩ | ⟨-, -, unheld, final_eq⟩ | ⟨-, -, acquired, leases, target, final_eq⟩ |
      ⟨reservation, rfl⟩ | ⟨⟨message, rfl⟩, -⟩ := ends_reservePermitted permits present fails
    · rw [granted] at refused
      contradiction
    · exact ⟨congrArg Resources.admission final_eq, none, _, Or.inl ⟨rfl, rfl, unheld⟩,
        by rw [final_eq]; rfl⟩
    · exact ⟨congrArg Resources.admission final_eq, acquired, leases, target,
        congrArg Resources.leases final_eq⟩
    · obtain ⟨reason, impossible⟩ | impossible := failed <;> contradiction
    · obtain ⟨reason, impossible⟩ | impossible := failed <;> contradiction

theorem withoutTarget_of_held {leases later : IntegrationTargetResourceLeases}
    (held : AcquiresHeldTarget proposal leases)
    (granted : TargetGranted proposal leases later acquired) :
    ∃ key, (withoutTarget later acquired).byTarget.lookup key ≠ leases.byTarget.lookup key := by
  obtain ⟨-, -, unheld⟩ | ⟨responsibility, permit, required, rfl, acquires⟩ := granted
  · exact absurd held unheld
  · obtain ⟨other, otherRequired, held⟩ := held
    rw [required] at otherRequired
    cases otherRequired
    obtain ⟨lease, held⟩ := Option.isSome_iff_exists.mp held
    rw [IntegrationTargetResourceLeases.acquire_of_held permit held] at acquires
    cases acquires
    obtain ⟨freed, leased⟩ := IntegrationTargetResourceLeases.release_of_held held
    refine ⟨targetKey responsibility.integrationTarget, ?_⟩
    rw [withoutTarget, freed, leased]
    exact nofun

theorem exists_tryReserve_trace (sound : before.Sound) (trace : LeavesTrace before proposal) :
    ∃ outcome final, Ends (tryReserve proposal) before outcome final ∧ outcome.Failed ∧
      ¬ final.resources.Same before.resources := by
  obtain ⟨reservable, ⟨taskId, binds⟩ | ⟨granted, held⟩⟩ := trace
  · obtain ⟨answer, correlation, bound⟩ := binds.reserves
    obtain ⟨outcome, final, ends, failed, admission, -⟩ :=
      @exists_failure _ _ none sound reservable (congrArg TaskPositionReservation.admitted answer)
    refine ⟨outcome, final, ends, failed, fun same => ?_⟩
    obtain ⟨-, -, -, -, -, owner, pending⟩ := binds
    have kept : final.admission.positions.lookup taskId = before.admission.positions.lookup taskId :=
      same.positions taskId
    have created : (before.admission.reserveTaskPositionState proposal).1.createdFor = none :=
      congrArg TaskPositionReservation.createdFor answer
    rw [admission, pending] at kept
    simp only [positionsAfterFailure, reservedPosition, withFreshRestored, created, withoutCreated,
      bound, AdmissionState.setPosition, AdmissionState.withPositions, KeyedMap.lookup_set,
      if_true] at kept
    cases kept
  · obtain ⟨outcome, final, ends, failed, -, acquired, leases, target, leases_eq⟩ :=
      @exists_failure _ _ none sound reservable granted
    obtain ⟨key, differs⟩ := withoutTarget_of_held held target
    refine ⟨outcome, final, ends, failed, fun same => differs ?_⟩
    rw [← leases_eq]
    exact same.targets key

/-! ## Fresh candidates -/

/-- The candidate that the next position goes to, when its proposal is the one materialized. -/
def SelectsFresh (runtime : DeliveryRuntime) (frontier : FreshTaskCandidateFrontier)
    (materialize : FreshTaskCandidate → DeliveryActionProposal)
    (position : AdmissionState.FreshTaskPositionReservation) : Prop :=
  frontier.issued = true ∧
    freshFrontierMatchesRun frontier runtime.admission.acceptedBasis.runId = true ∧
    (runtime.admission.reserveFreshTaskPosition frontier).1 = some position ∧
    acceptedFreshProposalMatchesCandidate (materialize position.candidate) position.candidate = true

def FreshLeavesTrace (runtime : DeliveryRuntime) (frontier : FreshTaskCandidateFrontier)
    (materialize : FreshTaskCandidate → DeliveryActionProposal) : Prop :=
  ∃ position, SelectsFresh runtime frontier materialize position ∧
    Reservable runtime (materialize position.candidate) ∧
      AcquiresHeldTarget (materialize position.candidate) runtime.resources.leases

def ownedFresh (runtime : DeliveryRuntime) (frontier : FreshTaskCandidateFrontier)
    (position : AdmissionState.FreshTaskPositionReservation) (proposalId : DeliveryProposalId) :
    AdmissionState :=
  (runtime.admission.reserveFreshTaskPosition frontier).2.markFreshEntryActivity position.candidate
    (.owned proposalId)

variable {frontier : FreshTaskCandidateFrontier}
  {position : AdmissionState.FreshTaskPositionReservation}

theorem lookup_ownedFresh_restored {proposalId : DeliveryProposalId}
    (selected : (before.admission.reserveFreshTaskPosition frontier).1 = some position)
    (taskId : TaskId) :
    ((before.ownedFresh frontier position proposalId).restoreFreshTaskReservation position
        (some proposalId)).positions.lookup taskId =
      before.admission.positions.lookup taskId ∧
    (((before.ownedFresh frontier position proposalId).restoreFreshTaskReservation position
        (some proposalId)).restoreFreshTaskReservation position
          (some proposalId)).positions.lookup taskId =
      before.admission.positions.lookup taskId := by
  obtain ⟨none_eq, -⟩ | ⟨reservation, answer, previous, reserved⟩ :=
    AdmissionState.reserveFreshTaskPosition_cases frontier before.admission
  · rw [none_eq] at selected
    contradiction
  · rw [answer] at selected
    obtain rfl := Option.some.inj selected
    have once : ∀ taskId, ((before.ownedFresh frontier reservation
        proposalId).restoreFreshTaskReservation reservation (some proposalId)).positions.lookup
          taskId = before.admission.positions.lookup taskId := by
      refine AdmissionState.lookup_restoreFreshTaskReservation previous ?_ (Or.inr ?_)
      · intro other apart
        simp [ownedFresh, reserved, AdmissionState.markFreshEntryActivity,
          AdmissionState.setPosition, AdmissionState.withPositions, apart]
      · simp [ownedFresh, reserved, AdmissionState.markFreshEntryActivity,
          AdmissionState.setPosition, AdmissionState.withPositions]
    exact ⟨once taskId, AdmissionState.lookup_restoreFreshTaskReservation previous
      (fun other _ => once other) (Or.inl (once _)) taskId⟩

theorem sound_of_ends_modifyAdmission {Answer : Type} {answer : Answer}
    {transaction : AdmissionState → Answer × AdmissionState}
    (sound : before.Sound) (ends : Ends (modifyAdmission transaction) before answer final) :
    final.Sound ∧ ∀ proposal, Reservable final proposal → Reservable before proposal := by
  obtain ⟨disturbed, exits, answered⟩ := ends_modify ends
  cases answered
  refine ⟨⟨?_, ?_⟩, ?_⟩
  · simp only [exits.integrationTargets]
    exact sound.inverse
  · intro ownerId present
    simp only [exits.owners, exits.nextOwnerId] at present ⊢
    exact sound.ownersBelow ownerId present
  · rintro proposal ⟨serving, free⟩
    refine ⟨exits.serving serving, ?_⟩
    simp only [resources, exits.plannedAttemptProtocol] at free
    exact free

/-- Both ways in which the reservation of a candidate fails restore every position. -/
theorem ends_reserveMaterialized {reserved : DeliveryRuntime} (sound : reserved.Sound)
    (selected : (before.admission.reserveFreshTaskPosition frontier).1 = some position)
    (reserved_eq : reserved.resources =
      { before.resources with admission := (before.admission.reserveFreshTaskPosition frontier).2 })
    (unheld : Reservable reserved proposal → ¬ AcquiresHeldTarget proposal before.resources.leases)
    (ends : Ends (reserveMaterialized position proposal) reserved outcome final)
    (failed : outcome.Failed) : final.resources.Same before.resources := by
  obtain ⟨_, owned, marks, rest⟩ := executes_bind_iff.mp ends
  obtain ⟨inner, tried, tries, rest⟩ := executes_bind_iff.mp rest
  have owned_eq : owned.resources =
      { before.resources with admission := before.ownedFresh frontier position proposal.id } := by
    rw [ends_updateAdmission marks, reserved_eq]
    simp only [ownedFresh]
    rw [show reserved.admission = _ from congrArg Resources.admission reserved_eq]
  have ownedAdmission : owned.admission = before.ownedFresh frontier position proposal.id :=
    congrArg Resources.admission owned_eq
  obtain ⟨ownedSound, reservable⟩ := sound_of_ends_modifyAdmission sound marks
  -- What the reservation itself leaves, before a cutoff restores the candidate once more.
  have left : inner.Failed → (inner = .applicationExiting ∧ tried.resources = owned.resources) ∨
      tried.resources.Same
        { before.resources with
          admission := (before.ownedFresh frontier position proposal.id).restoreFreshTaskReservation
            position (some proposal.id) } ∧
        tried.admission = (before.ownedFresh frontier position
          proposal.id).restoreFreshTaskReservation position (some proposal.id) := by
    intro innerFailed
    obtain refused | ⟨owners, ⟨admission, leases⟩ | ⟨-, impossible, -⟩ |
      ⟨serving, -, admission, acquired, later, target, leases⟩⟩ :=
        ends_tryReservePrepared ownedSound tries innerFailed
    · exact Or.inl refused
    · right
      rw [ownedAdmission] at admission
      refine ⟨⟨fun taskId => congrArg (·.positions.lookup taskId) admission, fun key => ?_,
        fun key => ?_, fun key => ?_, fun ownerId => ?_⟩, admission⟩
      · rw [owners.protocolOwners, owned_eq]
      · rw [leases, owned_eq]
      · rw [leases, owned_eq]
      · rw [owners.forwardOwners, owned_eq]
    · contradiction
    · right
      rw [ownedAdmission] at admission
      have ownedLeases : owned.resources.leases = before.resources.leases := by rw [owned_eq]
      have inverse : before.resources.leases.MutuallyInverse := by
        rw [← ownedLeases]
        exact ownedSound.inverse
      rw [ownedLeases] at target
      obtain ⟨targets, responsibilities⟩ :=
        withoutTarget_same inverse (unheld (reservable _ serving)) target
      refine ⟨⟨fun taskId => congrArg (·.positions.lookup taskId) admission, fun key => ?_,
        fun key => ?_, fun key => ?_, fun ownerId => ?_⟩, admission⟩
      · rw [owners.protocolOwners, owned_eq]
      · rw [leases]
        exact targets key
      · rw [leases]
        exact responsibilities key
      · rw [owners.forwardOwners, owned_eq]
  cases inner with
  | applicationExiting =>
      obtain ⟨_, restored, restores, returns⟩ := executes_bind_iff.mp rest
      obtain ⟨rfl, rfl⟩ := executes_pure_iff.mp returns
      have final_eq := ends_restoreFreshTask restores
      obtain ⟨-, same⟩ | ⟨same, admission⟩ := left (Or.inr rfl)
      · rw [same, owned_eq] at final_eq
        rw [final_eq]
        exact ⟨fun taskId => (lookup_ownedFresh_restored selected taskId).1, fun _ => rfl,
          fun _ => rfl, fun _ => rfl, fun _ => rfl⟩
      · rw [final_eq]
        refine ⟨fun taskId => ?_, same.protocolOwners, same.targets, same.responsibilities,
          same.forwardOwners⟩
        change ((tried.admission).restoreFreshTaskReservation position
          (some proposal.id)).positions.lookup taskId = _
        rw [admission]
        exact (lookup_ownedFresh_restored selected taskId).2
  | deferred reason =>
      obtain ⟨rfl, rfl⟩ := executes_pure_iff.mp rest
      obtain ⟨impossible, -⟩ | ⟨same, -⟩ := left (Or.inl ⟨reason, rfl⟩)
      · contradiction
      · exact ⟨fun taskId => (same.positions taskId).trans
          (lookup_ownedFresh_restored selected taskId).1, same.protocolOwners, same.targets,
            same.responsibilities, same.forwardOwners⟩
  | died message =>
      obtain ⟨_, restored, -, returns⟩ := executes_bind_iff.mp rest
      obtain ⟨rfl, -⟩ := executes_pure_iff.mp returns
      obtain ⟨reason, impossible⟩ | impossible := failed <;> contradiction
  | _ =>
      obtain ⟨rfl, -⟩ := executes_pure_iff.mp rest
      obtain ⟨reason, impossible⟩ | impossible := failed <;> contradiction

variable {materialize : FreshTaskCandidate → DeliveryActionProposal}

/-- Without trace, a failed reservation of a candidate leaves every resource as it was. -/
theorem tryReserveFresh_restores (sound : before.Sound)
    (traceless : ¬ FreshLeavesTrace before frontier materialize)
    (ends : Ends (tryReserveFresh frontier materialize) before outcome final)
    (failed : outcome.Failed) : final.resources.Same before.resources := by
  unfold tryReserveFresh at ends
  split at ends
  · rw [(executes_pure_iff.mp ends).2]
    exact .refl _
  · next issued =>
      obtain ⟨currentRunId, observed, observes, rest⟩ := executes_bind_iff.mp ends
      obtain ⟨exits, rfl⟩ := ends_read observes
      split at rest
      · rw [(executes_pure_iff.mp rest).2, exits.resources]
        exact .refl _
      · next matching =>
          obtain ⟨answer, reserved, reserves, rest⟩ := executes_bind_iff.mp rest
          obtain ⟨rfl, reserved_eq⟩ := ends_modifyAdmission reserves
          rw [exits.admission] at rest reserved_eq matching
          rw [exits.resources] at reserved_eq
          split at rest
          · next refused =>
              obtain ⟨-, unchanged⟩ | ⟨_, reservation, -⟩ :=
                AdmissionState.reserveFreshTaskPosition_cases frontier before.admission
              · rw [(executes_pure_iff.mp rest).2, reserved_eq, unchanged]
                exact .refl _
              · rw [refused] at reservation
                contradiction
          · next position selected =>
              simp only at rest
              split at rest
              · obtain ⟨_, restored, -, returns⟩ := executes_bind_iff.mp rest
                obtain ⟨rfl, -⟩ := executes_pure_iff.mp returns
                obtain ⟨reason, impossible⟩ | impossible := failed <;> contradiction
              · next accepted =>
                  have observedSound : observed.Sound :=
                    ⟨by rw [exits.integrationTargets]; exact sound.inverse, fun ownerId present => by
                      rw [exits.owners] at present
                      rw [exits.nextOwnerId]
                      exact sound.ownersBelow ownerId present⟩
                  obtain ⟨reservedSound, reservable⟩ :=
                    sound_of_ends_modifyAdmission observedSound reserves
                  refine ends_reserveMaterialized reservedSound selected reserved_eq ?_ rest failed
                  intro serving held
                  obtain ⟨observedServing, free⟩ := reservable _ serving
                  rw [exits.resources] at free
                  refine traceless ⟨position, ⟨by simpa using issued, by simpa using matching,
                    selected, by simpa using accepted⟩, ⟨exits.serving observedServing, free⟩, held⟩

theorem exists_tryReserveFresh_trace (sound : before.Sound)
    (trace : FreshLeavesTrace before frontier materialize) :
    ∃ outcome final, Ends (tryReserveFresh frontier materialize) before outcome final ∧
      outcome.Failed ∧ ¬ final.resources.Same before.resources := by
  obtain ⟨position, ⟨issued, matching, selected, accepted⟩, ⟨serving, free⟩, held⟩ := trace
  -- Undisturbed until the candidate is marked as owned by its proposal.
  let reserved : DeliveryRuntime :=
    { before with admission := (before.admission.reserveFreshTaskPosition frontier).2 }
  let owned : DeliveryRuntime :=
    { before with
      admission := before.ownedFresh frontier position (materialize position.candidate).id }
  have observes : Ends (Program.read fun runtime : DeliveryRuntime =>
      runtime.admission.acceptedBasis.runId) before before.admission.acceptedBasis.runId before :=
    executes_modify_iff.mpr ⟨before, .refl, rfl⟩
  have reserves : Ends (modifyAdmission (AdmissionState.reserveFreshTaskPosition frontier)) before
      (some position) reserved :=
    executes_modify_iff.mpr ⟨before, .refl, Prod.ext selected rfl⟩
  have marks : Ends (updateAdmission (AdmissionState.markFreshEntryActivity position.candidate
      (.owned (materialize position.candidate).id))) reserved () owned :=
    executes_modify_iff.mpr ⟨reserved, .refl, rfl⟩
  have ownedSound : owned.Sound := ⟨sound.inverse, sound.ownersBelow⟩
  obtain ⟨inner, tried, tries, innerFailed, -, acquired, leases, target, leases_eq⟩ :=
    @exists_failure owned (materialize position.candidate) (some position) ownedSound
      ⟨serving, free⟩ rfl
  obtain ⟨key, differs⟩ := withoutTarget_of_held held target
  have proceeds : ∀ {outcome final},
      Ends (reserveMaterialized position (materialize position.candidate)) reserved outcome final →
        Ends (tryReserveFresh frontier materialize) before outcome final := by
    intro outcome final rest
    simp only [tryReserveFresh, issued, Bool.not_true, Bool.false_eq_true, if_false]
    refine executes_bind_iff.mpr ⟨_, before, observes, ?_⟩
    simp only [matching, Bool.not_true, Bool.false_eq_true, if_false]
    refine executes_bind_iff.mpr ⟨_, reserved, reserves, ?_⟩
    simp only [accepted, Bool.not_true, Bool.false_eq_true, if_false]
    exact rest
  have traced : ∀ {final : DeliveryRuntime}, final.resources.leases = tried.resources.leases →
      ¬ final.resources.Same before.resources := by
    intro final kept same
    apply differs
    rw [← leases_eq, ← kept]
    exact same.targets key
  obtain ⟨reason, rfl⟩ | rfl := innerFailed
  · refine ⟨_, tried, proceeds ?_, Or.inl ⟨reason, rfl⟩, traced rfl⟩
    refine executes_bind_iff.mpr ⟨(), owned, marks, ?_⟩
    exact executes_bind_iff.mpr ⟨_, tried, tries, executes_pure_iff.mpr ⟨rfl, rfl⟩⟩
  · obtain ⟨_, final, restores⟩ := exists_ends
      (restoreFreshTask (some position) (some (materialize position.candidate).id)) tried
    refine ⟨.applicationExiting, final, proceeds ?_, Or.inr rfl, traced ?_⟩
    · refine executes_bind_iff.mpr ⟨(), owned, marks, ?_⟩
      refine executes_bind_iff.mpr ⟨_, tried, tries, ?_⟩
      exact executes_bind_iff.mpr ⟨_, final, restores, executes_pure_iff.mpr ⟨rfl, rfl⟩⟩
    · rw [ends_restoreFreshTask restores]

end Failure

/-! ## All or nothing -/

/-- However Exit interferes, a failed run of the program leaves every resource as it was. -/
def AllOrNothing (program : DeliveryProgram DeliveryAdmissionOutcome) (before : DeliveryRuntime) :
    Prop :=
  ∀ outcome final, Ends program before outcome final → outcome.Failed →
    final.resources.Same before.resources

/-- In every reachable runtime a failed reservation is undone exactly where no trace is left. -/
theorem reservation_allOrNothing_iff (initial : FreshTaskAdmissionBasis)
    (actions : List (PoolAction Call ForeignAction)) :
    (∀ proposal, AllOrNothing (tryReserve proposal) (after initial actions).state ↔
      ¬ LeavesTrace (after initial actions).state proposal) ∧
    ∀ frontier materialize,
      AllOrNothing (tryReserveFresh frontier materialize) (after initial actions).state ↔
        ¬ FreshLeavesTrace (after initial actions).state frontier materialize := by
  have sound := after_sound initial actions
  constructor
  · intro proposal
    constructor
    · intro holds trace
      obtain ⟨outcome, final, ends, failed, differs⟩ := exists_tryReserve_trace sound trace
      exact differs (holds outcome final ends failed)
    · intro traceless outcome final ends failed
      exact tryReserve_restores sound traceless ends failed
  · intro frontier materialize
    constructor
    · intro holds trace
      obtain ⟨outcome, final, ends, failed, differs⟩ := exists_tryReserveFresh_trace sound trace
      exact differs (holds outcome final ends failed)
    · intro traceless outcome final ends failed
      exact tryReserveFresh_restores sound traceless ends failed

namespace ReservationTraces

def taskId : TaskId := ⟨"reused"⟩

def runId : RunId := ⟨"reserving-run", by decide⟩

def basis : FreshTaskAdmissionBasis where
  acceptedAt := some 1
  capacity := 1
  issued := true
  occupied := ∅
  releaseEvidence := ∅
  runId := runId
  safeContinuationRevalidations := []

def responsibility : IntegrationTargetResourceResponsibility :=
  ⟨⟨"/reserved.git", "refs/heads/main"⟩, runId, 1⟩

def pending : DeliveryActionProposal where
  admission := ⟨none, none, none, .reserveOrReuse taskId, nofun⟩
  id := ⟨"pending"⟩
  route := .recoveredNewActionRoute
  waitsForLiveOperationId := none
  issuedFreshContinuation := none
  issuedAcceptedFreshTask := none

def binding : DeliveryActionProposal :=
  { pending with
    admission := ⟨none, some ⟨⟨"attempt"⟩, runId⟩, none, .reserveOrReuse taskId, nofun⟩
    id := ⟨"binding"⟩ }

def acquiring : DeliveryActionProposal :=
  { pending with
    admission := ⟨some ⟨.acquire, responsibility⟩, none, none, .noTaskWorkPosition, nofun⟩
    id := ⟨"acquiring"⟩ }

def actions : List (PoolAction Call ForeignAction) :=
  [.begin (.tryReserve pending), .advance 0, .advance 0, .advance 0, .advance 0,
    .foreign (.integrationTarget (.acquire 0 responsibility))]

theorem binding_leavesTrace : LeavesTrace (after basis actions).state binding := by
  refine ⟨⟨by decide, ?_⟩, Or.inl ⟨taskId, by decide, by decide, by decide, rfl, rfl,
    ⟨"pending"⟩, by decide⟩⟩
  intro correlation _
  rfl

theorem acquiring_leavesTrace : LeavesTrace (after basis actions).state acquiring := by
  refine ⟨⟨by decide, ?_⟩, Or.inr ⟨by decide, responsibility, rfl, by decide⟩⟩
  intro correlation _
  rfl

/-- A cutoff before the registration leaves the position bound, and the target free. -/
theorem failed_reservations_leave_traces :
    ¬ AllOrNothing (tryReserve binding) (after basis actions).state ∧
      ¬ AllOrNothing (tryReserve acquiring) (after basis actions).state := by
  have sound := after_sound basis actions
  constructor
  · intro holds
    obtain ⟨outcome, final, ends, failed, differs⟩ :=
      exists_tryReserve_trace sound binding_leavesTrace
    exact differs (holds outcome final ends failed)
  · intro holds
    obtain ⟨outcome, final, ends, failed, differs⟩ :=
      exists_tryReserve_trace sound acquiring_leavesTrace
    exact differs (holds outcome final ends failed)

end ReservationTraces

end DeliveryRuntime

end Dalph
