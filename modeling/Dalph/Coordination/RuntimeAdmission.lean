import Dalph.Coordination.ApplicationExit
import Dalph.Coordination.AttemptProtocol
import Dalph.Coordination.TaskWorkPosition
import Dalph.Foundation.Program

/-!
# Delivery runtime admission

The controller reserves a task position, an attempt protocol permit, an integration target and a
forward owner for one proposal, and undoes its reservations when a later one fails.  Its operations
are programs whose transactions interleave with each other and with other users of the resources.
-/

namespace Dalph

inductive DeliveryAdmissionReservationBinding where
  | freshClaimOperationBinding (operationId : OperationId)
  | noReservationBinding
  | plannedAttemptHandoffBinding (plannedAttempt : PlannedTaskAttempt)
deriving DecidableEq

structure PlannedAttemptProtocolPermit where
  key : String
  owner : Nat
deriving DecidableEq

structure DeliveryAdmissionReservation where
  reference : Nat
  acquiredIntegrationResponsibility : Option IntegrationTargetResourceResponsibility
  createdTaskPositionFor : Option TaskId
  freshEntryPrevious : Option FreshEntryRuntimePosition
  freshTaskCandidate : Option FreshTaskCandidate
  forwardOwner : Nat
  permit : Option PlannedAttemptProtocolPermit
  proposal : DeliveryActionProposal
deriving DecidableEq

/-- Whether a failed action reached the durable claim intent. -/
inductive DeliveryAdmissionRollbackDisposition where
  | beforeDurableClaimIntent
  | afterDurableClaimIntentOrAmbiguity
deriving DecidableEq

/-- Why a reservation is put off. -/
inductive DeliveryDeferral where
  | integrationTargetUnavailable
  | plannedAttemptProtocolUnavailable
  | taskWorkPositionUnavailable
deriving DecidableEq

/-- How an operation of the controller ends. -/
inductive DeliveryAdmissionOutcome where
  | admitted (reservation : DeliveryAdmissionReservation)
  | deferred (reason : DeliveryDeferral)
  | applicationExiting
  | completed
  | plannedAttemptPosition (release : AdmissionState.PlannedAttemptPositionRelease)
  | died (message : String)
deriving DecidableEq

/-- The controller and the resources it shares with others. -/
structure DeliveryRuntime where
  initialRunId : RunId
  admission : AdmissionState
  activeReservations : KeyedMap Nat DeliveryAdmissionReservationBinding
  nextReservation : Nat
  applicationExit : ApplicationExitState Unit
  integrationTargets : IntegrationTargetResourceState
  plannedAttemptProtocol : ProtocolControllerState

/-- An operation of the controller. -/
abbrev DeliveryProgram := Program DeliveryRuntime

def makeDeliveryRuntimeAdmissionController (initial : FreshTaskAdmissionBasis) :
    DeliveryRuntime where
  initialRunId := initial.runId
  admission :=
    { acceptedBasis := initial
      acceptedCandidateFrontier := none
      capacity := initial.capacity
      positions := KeyedMap.ofEntries (initial.occupied.entries.map fun entry =>
        (taskAdmissionOccupancyTaskId entry.2, runtimePositionOf entry.2)) }
  activeReservations := ∅
  nextReservation := 0
  applicationExit := makeApplicationExitLifecycle
  integrationTargets := makeIntegrationTargetResourceController
  plannedAttemptProtocol := makePlannedAttemptProtocolController

def forwardOwnerKindFor (proposal : DeliveryActionProposal) : ForwardOwnerKind :=
  match proposal.route with
  | .identityFreeWorkflowRoute transition =>
      if (integrationExitBoundaryFamilyFor transition).isSome then .atomicBoundary
      else .interruptibleBoundary
  | _ => .interruptibleBoundary

namespace DeliveryRuntime

def modifyAdmission {Answer : Type} (transaction : AdmissionState → Answer × AdmissionState) :
    DeliveryProgram Answer :=
  .modify fun runtime =>
    ((transaction runtime.admission).1,
      { runtime with admission := (transaction runtime.admission).2 })

def updateAdmission (transaction : AdmissionState → AdmissionState) : DeliveryProgram Unit :=
  modifyAdmission fun current => ((), transaction current)

def modifyExit {Answer : Type}
    (transaction : ApplicationExitState Unit → Answer × ApplicationExitState Unit) :
    DeliveryProgram Answer :=
  .modify fun runtime =>
    ((transaction runtime.applicationExit).1,
      { runtime with applicationExit := (transaction runtime.applicationExit).2 })

def modifyGuard {Answer : Type} (transaction : GuardState → Answer × GuardState) :
    DeliveryProgram Answer :=
  .modify fun runtime =>
    ((transaction runtime.plannedAttemptProtocol.guard).1,
      { runtime with
        plannedAttemptProtocol :=
          { runtime.plannedAttemptProtocol with
            guard := (transaction runtime.plannedAttemptProtocol.guard).2 } })

def modifyTargets {Answer : Type}
    (transaction : IntegrationTargetResourceState → Answer × IntegrationTargetResourceState) :
    DeliveryProgram Answer :=
  .modify fun runtime =>
    ((transaction runtime.integrationTargets).1,
      { runtime with integrationTargets := (transaction runtime.integrationTargets).2 })

def modifyReservations {Answer : Type}
    (transaction : KeyedMap Nat DeliveryAdmissionReservationBinding →
      Answer × KeyedMap Nat DeliveryAdmissionReservationBinding) : DeliveryProgram Answer :=
  .modify fun runtime =>
    ((transaction runtime.activeReservations).1,
      { runtime with activeReservations := (transaction runtime.activeReservations).2 })

def prepareForwardOwner (kind : ForwardOwnerKind) : DeliveryProgram (Option Nat) :=
  modifyExit fun exit =>
    (match (exit.prepareForwardOwner kind).1 with
      | .ended (.prepared ownerId) => some ownerId
      | _ => none,
    (exit.prepareForwardOwner kind).2)

def registerForwardOwner (ownerId : Nat) : DeliveryProgram Bool :=
  modifyExit fun exit =>
    (match (exit.register ownerId).1 with
      | .ended .registered => true
      | _ => false,
    (exit.register ownerId).2)

/-- Removes a prepared or registered owner; the last one after the cutoff completes a signal. -/
def removeForwardOwner (ownerId : Nat) : DeliveryProgram Unit := do
  let drained ← modifyExit fun exit =>
    (match (exit.removeOwner ownerId).1 with
      | .suspended => some exit.nextCall
      | _ => none,
    (exit.removeOwner ownerId).2)
  match drained with
  | some call => modifyExit fun exit => ((), (exit.resume call).2)
  | none => pure ()

/-- Reserves the attempt that the proposal requires; `none` when it is owned. -/
def reservePlannedAttemptProtocol (proposal : DeliveryActionProposal) :
    DeliveryProgram (Option (Option PlannedAttemptProtocolPermit)) :=
  match proposal.admission.plannedAttemptProtocol with
  | none => pure (some none)
  | some correlation => do
      let key := plannedAttemptProtocolGuardKey correlation
      match ← modifyGuard (·.tryAcquire key) with
      | some owner => pure (some (some ⟨key, owner⟩))
      | none => pure none

def completeSignals : List GuardSignal → DeliveryProgram Unit
  | [] => pure ()
  | signal :: signals => do
      modifyGuard fun guard => ((), guard.signal signal)
      completeSignals signals

def releasePermit : Option PlannedAttemptProtocolPermit → DeliveryProgram Unit
  | none => pure ()
  | some permit => do
      match ← modifyGuard (·.release permit.key permit.owner) with
      | .signalling signals => completeSignals signals
      | _ => pure ()

inductive IntegrationReservation where
  | admitted (acquired : Option IntegrationTargetResourceResponsibility)
  | unavailable
  | defect (message : String)

/-- Whether the responsibility has accepted ownership of exactly its leased target. -/
def integrationTargetIsHeld (responsibility : IntegrationTargetResourceResponsibility) :
    DeliveryProgram Bool := do
  let accepted ← Program.read fun runtime : DeliveryRuntime =>
    runtime.integrationTargets.accepted.lookup (integrationResponsibilityIdentityKey
      (integrationResponsibilityIdentity responsibility))
  let lease ← Program.read fun runtime : DeliveryRuntime =>
    runtime.integrationTargets.leases.exactLease responsibility
  pure (accepted.map (·.targetKey) = some (targetKey responsibility.integrationTarget) &&
    lease.isSome)

def reserveIntegration (proposal : DeliveryActionProposal) :
    DeliveryProgram IntegrationReservation :=
  match proposal.admission.integrationTarget with
  | none => pure (.admitted none)
  | some ⟨.acquire, responsibility⟩ => do
      match ← modifyTargets (·.acquire responsibility) with
      | .completed => pure (.admitted (some responsibility))
      | .defect message => pure (.defect message)
      | _ => pure .unavailable
  | some ⟨_, responsibility⟩ => do
      if ← integrationTargetIsHeld responsibility then pure (.admitted none)
      else pure .unavailable

def releaseIntegrationTarget :
    Option IntegrationTargetResourceResponsibility → DeliveryProgram Unit
  | none => pure ()
  | some responsibility => do
      let released ← modifyTargets fun targets =>
        ((targets.leases.release responsibility).1,
          { targets with leases := (targets.leases.release responsibility).2 })
      if released then
        modifyTargets fun targets =>
          ((), { targets with
            accepted := targets.accepted.erase (integrationResponsibilityIdentityKey
              (integrationResponsibilityIdentity responsibility)) })

def reserveTaskPosition (proposal : DeliveryActionProposal)
    (freshTask : Option AdmissionState.FreshTaskPositionReservation) :
    DeliveryProgram TaskPositionReservation :=
  match freshTask with
  | none => modifyAdmission (AdmissionState.reserveTaskPositionState proposal)
  | some _ => pure ⟨true, none⟩

def releaseCreatedPosition (createdFor : Option TaskId) (proposalId : DeliveryProposalId) :
    DeliveryProgram Unit :=
  match createdFor with
  | none => pure ()
  | some taskId => updateAdmission (AdmissionState.releaseTaskReservation taskId proposalId)

def restoreFreshTask (freshTask : Option AdmissionState.FreshTaskPositionReservation)
    (ownedByProposalId : Option DeliveryProposalId) : DeliveryProgram Unit :=
  match freshTask with
  | none => pure ()
  | some reservation =>
      updateAdmission (AdmissionState.restoreFreshTaskReservation reservation ownedByProposalId)

def reservationProposalOf (proposal : DeliveryActionProposal) : DeliveryActionProposal :=
  match proposal.freshContinuationCommitmentRequirementOf with
  | .freshContinuationCommitmentRequired _ | .replacementContinuationRequired _ => proposal
  | _ =>
      if proposal.admission.safeContinuationRevalidation.isSome then proposal
      else proposal.immutableSnapshot

def issueReservation (reservation : Nat → DeliveryAdmissionReservation) :
    DeliveryProgram DeliveryAdmissionReservation :=
  .modify fun runtime =>
    (reservation runtime.nextReservation,
      { runtime with
        nextReservation := runtime.nextReservation + 1
        activeReservations := KeyedMap.set runtime.activeReservations runtime.nextReservation
          .noReservationBinding })

def undoPrepared (proposal : DeliveryActionProposal)
    (freshTask : Option AdmissionState.FreshTaskPositionReservation)
    (permit : Option PlannedAttemptProtocolPermit) (ownerId : Nat) : DeliveryProgram Unit := do
  restoreFreshTask freshTask (some proposal.id)
  releasePermit permit
  removeForwardOwner ownerId

/-- Registers the prepared owner last; a cutoff in between undoes everything. -/
def registerReservation (proposal : DeliveryActionProposal)
    (freshTask : Option AdmissionState.FreshTaskPositionReservation)
    (permit : Option PlannedAttemptProtocolPermit) (ownerId : Nat)
    (task : TaskPositionReservation)
    (acquired : Option IntegrationTargetResourceResponsibility) :
    DeliveryProgram DeliveryAdmissionOutcome := do
  if ← registerForwardOwner ownerId then
    let reservation ← issueReservation fun reference =>
      { reference
        acquiredIntegrationResponsibility := acquired
        createdTaskPositionFor := task.createdFor
        freshEntryPrevious := freshTask.bind (·.previous)
        freshTaskCandidate := freshTask.map (·.candidate)
        forwardOwner := ownerId
        permit
        proposal := reservationProposalOf proposal }
    pure (.admitted reservation)
  else
    releaseIntegrationTarget acquired
    releaseCreatedPosition task.createdFor proposal.id
    undoPrepared proposal freshTask permit ownerId
    pure .applicationExiting

/-- Reserves the position and the target of a proposal whose permit and owner are taken. -/
def reservePermitted (proposal : DeliveryActionProposal)
    (freshTask : Option AdmissionState.FreshTaskPositionReservation)
    (permit : Option PlannedAttemptProtocolPermit) (ownerId : Nat) :
    DeliveryProgram DeliveryAdmissionOutcome := do
  let task ← reserveTaskPosition proposal freshTask
  if !task.admitted then
    undoPrepared proposal freshTask permit ownerId
    pure (.deferred .taskWorkPositionUnavailable)
  else
    match ← reserveIntegration proposal with
    | .unavailable =>
        releaseCreatedPosition task.createdFor proposal.id
        undoPrepared proposal freshTask permit ownerId
        pure (.deferred .integrationTargetUnavailable)
    | .defect message => pure (.died message)
    | .admitted acquired => registerReservation proposal freshTask permit ownerId task acquired

/-- Reserves every declared resource in order. -/
def tryReservePrepared (proposal : DeliveryActionProposal)
    (freshTask : Option AdmissionState.FreshTaskPositionReservation) :
    DeliveryProgram DeliveryAdmissionOutcome := do
  match ← prepareForwardOwner (forwardOwnerKindFor proposal) with
  | none => pure .applicationExiting
  | some ownerId =>
      match ← reservePlannedAttemptProtocol proposal with
      | none =>
          undoPrepared proposal freshTask none ownerId
          pure (.deferred .plannedAttemptProtocolUnavailable)
      | some permit => reservePermitted proposal freshTask permit ownerId

def tryReserve (proposal : DeliveryActionProposal) : DeliveryProgram DeliveryAdmissionOutcome :=
  tryReservePrepared proposal none

def freshFrontierMatchesRun (frontier : FreshTaskCandidateFrontier) (runId : RunId) : Bool :=
  frontier.runId = runId && frontier.candidates.all (·.runId = runId)

def acceptedFreshProposalMatchesCandidate (proposal : DeliveryActionProposal)
    (candidate : FreshTaskCandidate) : Bool :=
  proposal.issuedAcceptedFreshTask = some candidate &&
    proposal.admission.taskWorkPosition = .reserveOrReuse candidate.taskId

def reserveMaterialized (position : AdmissionState.FreshTaskPositionReservation)
    (proposal : DeliveryActionProposal) : DeliveryProgram DeliveryAdmissionOutcome := do
  updateAdmission (AdmissionState.markFreshEntryActivity position.candidate (.owned proposal.id))
  match ← tryReservePrepared proposal (some position) with
  | .applicationExiting =>
      restoreFreshTask (some position) (some proposal.id)
      pure .applicationExiting
  | .died message =>
      restoreFreshTask (some position) (some proposal.id)
      pure (.died message)
  | outcome => pure outcome

def tryReserveFresh (frontier : FreshTaskCandidateFrontier)
    (materialize : FreshTaskCandidate → DeliveryActionProposal) :
    DeliveryProgram DeliveryAdmissionOutcome := do
  if !frontier.issued then pure (.deferred .taskWorkPositionUnavailable)
  else
    let currentRunId ← Program.read fun runtime : DeliveryRuntime =>
      runtime.admission.acceptedBasis.runId
    if !freshFrontierMatchesRun frontier currentRunId then
      pure (.deferred .taskWorkPositionUnavailable)
    else
      match ← modifyAdmission (AdmissionState.reserveFreshTaskPosition frontier) with
      | none => pure (.deferred .taskWorkPositionUnavailable)
      | some position =>
          let proposal := materialize position.candidate
          if !acceptedFreshProposalMatchesCandidate proposal position.candidate then
            restoreFreshTask (some position) none
            pure (.died ("accepted fresh proposal does not match candidate " ++
              position.candidate.id.value))
          else reserveMaterialized position proposal

def consumeReservation (reservation : DeliveryAdmissionReservation) :
    DeliveryProgram (Option DeliveryAdmissionReservationBinding) :=
  modifyReservations fun active =>
    (active.lookup reservation.reference, active.erase reservation.reference)

def bindActiveReservation (reservation : DeliveryAdmissionReservation)
    (binding : DeliveryAdmissionReservationBinding) : DeliveryProgram Bool :=
  modifyReservations fun active =>
    if active.lookup reservation.reference = some .noReservationBinding then
      (true, KeyedMap.set active reservation.reference binding)
    else (false, active)

def unbindReservation (reservation : DeliveryAdmissionReservation) : DeliveryProgram Unit :=
  modifyReservations fun active =>
    ((), KeyedMap.set active reservation.reference .noReservationBinding)

def rollbackFreshTask (reservation : DeliveryAdmissionReservation)
    (disposition : DeliveryAdmissionRollbackDisposition)
    (binding : DeliveryAdmissionReservationBinding) : DeliveryProgram Unit :=
  match reservation.freshTaskCandidate with
  | none => pure ()
  | some candidate =>
      match disposition, binding with
      | .afterDurableClaimIntentOrAmbiguity, .freshClaimOperationBinding operationId =>
          updateAdmission (AdmissionState.markFreshEntryActivity candidate
            (.awaitingDurableCommitment operationId))
      | _, _ =>
          updateAdmission (AdmissionState.restoreFreshTaskReservation
            ⟨candidate, reservation.freshEntryPrevious⟩ (some reservation.proposal.id))

/-- Ends a reservation whose action failed. -/
def rollback (reservation : DeliveryAdmissionReservation)
    (disposition : DeliveryAdmissionRollbackDisposition) :
    DeliveryProgram DeliveryAdmissionOutcome := do
  match ← consumeReservation reservation with
  | none => pure (.died "delivery admission rollback requires the exact issued reservation")
  | some binding =>
      if disposition = .beforeDurableClaimIntent then
        updateAdmission (AdmissionState.releaseSafeContinuationReservation reservation.proposal)
        releaseCreatedPosition reservation.createdTaskPositionFor reservation.proposal.id
      rollbackFreshTask reservation disposition binding
      removeForwardOwner reservation.forwardOwner
      releasePermit reservation.permit
      releaseIntegrationTarget reservation.acquiredIntegrationResponsibility
      pure .completed

def completedFreshActivity (candidate : FreshTaskCandidate)
    (binding : DeliveryAdmissionReservationBinding) : Option FreshEntryActivity :=
  match candidate.step, binding with
  | .readCurrentTaskGraph, _ => some .idlePreIntent
  | .acquireTaskClaim, .freshClaimOperationBinding operationId =>
      some (.awaitingDurableCommitment operationId)
  | .acquireTaskClaim, _ => none

def completionReleasesPosition (reservation : DeliveryAdmissionReservation) : Bool :=
  reservation.freshTaskCandidate.isNone &&
    reservation.proposal.admission.safeContinuationRevalidation.isNone &&
    reservation.proposal.admission.plannedAttemptProtocol.isNone

def completePositions (reservation : DeliveryAdmissionReservation)
    (binding : DeliveryAdmissionReservationBinding) : DeliveryProgram DeliveryAdmissionOutcome :=
  match reservation.freshTaskCandidate with
  | some candidate =>
      match completedFreshActivity candidate binding with
      | none =>
          pure (.died "fresh claim completion requires its exact materialized operation binding")
      | some activity => do
          updateAdmission (AdmissionState.markFreshEntryActivity candidate activity)
          pure .completed
  | none => do
      if completionReleasesPosition reservation then
        releaseCreatedPosition reservation.createdTaskPositionFor reservation.proposal.id
      pure .completed

/-- Ends a reservation whose action succeeded; acquired targets stay leased. -/
def complete (reservation : DeliveryAdmissionReservation) :
    DeliveryProgram DeliveryAdmissionOutcome := do
  match ← consumeReservation reservation with
  | none => pure (.died "delivery admission completion requires the exact issued reservation")
  | some binding =>
      let outcome ← completePositions reservation binding
      removeForwardOwner reservation.forwardOwner
      releasePermit reservation.permit
      pure outcome

def bindFreshTaskClaimOperation (reservation : DeliveryAdmissionReservation)
    (operationId : OperationId) : DeliveryProgram DeliveryAdmissionOutcome :=
  match reservation.freshTaskCandidate with
  | some candidate =>
      if candidate.step ≠ .acquireTaskClaim then
        pure (.died "fresh claim operation binding requires an admitted fresh claim proposal")
      else do
        if ← bindActiveReservation reservation (.freshClaimOperationBinding operationId) then
          if ← modifyAdmission (AdmissionState.bindFreshTaskClaimOperation candidate
              reservation.proposal.id operationId) then
            pure .completed
          else
            unbindReservation reservation
            pure (.died ("fresh claim operation rejected reservation " ++
              reservation.proposal.id.value))
        else pure (.died "fresh claim operation binding requires one exact active reservation")
  | none => pure (.died "fresh claim operation binding requires an admitted fresh claim proposal")

/-- A delivery receipt may follow the handoff of the same attempt. -/
def existingHandoff (plannedAttempt : PlannedTaskAttempt)
    (acceptedDelivery : Option AdmissionState.AcceptedExecutorCommandDelivery)
    (priorBinding : Option DeliveryAdmissionReservationBinding) : Bool :=
  acceptedDelivery.any (·.issued) &&
    match priorBinding with
    | some (.plannedAttemptHandoffBinding prior) =>
        plannedTaskAttemptEquivalence prior plannedAttempt
    | _ => false

def handoffOf : FreshContinuationCommitmentRequirement → AttemptHandoff
  | .freshContinuationCommitmentRequired commitment => .freshCommitmentHandoff commitment
  | _ => .existingAttemptHandoff

def activateHandoff (reservation : DeliveryAdmissionReservation)
    (plannedAttempt : PlannedTaskAttempt)
    (acceptedDelivery : Option AdmissionState.AcceptedExecutorCommandDelivery) :
    DeliveryProgram Bool := do
  let priorBinding ← Program.read fun runtime : DeliveryRuntime =>
    runtime.activeReservations.lookup reservation.reference
  if existingHandoff plannedAttempt acceptedDelivery priorBinding then pure true
  else bindActiveReservation reservation (.plannedAttemptHandoffBinding plannedAttempt)

def bindPlannedAttemptPosition (reservation : DeliveryAdmissionReservation)
    (plannedAttempt : PlannedTaskAttempt)
    (acceptedResponsibility :
      Option AdmissionState.AcceptedPlannedAttemptExecutorResponsibility)
    (acceptedDelivery : Option AdmissionState.AcceptedExecutorCommandDelivery) :
    DeliveryProgram DeliveryAdmissionOutcome := do
  if !(← activateHandoff reservation plannedAttempt acceptedDelivery) then
    pure (.died "planned-attempt binding requires one exact active reservation")
  else
    let continuation := reservation.proposal.freshContinuationCommitmentRequirementOf
    if ← modifyAdmission (·.bindPlannedAttemptPositionState
        { acceptedDelivery
          acceptedResponsibility
          continuation
          handoff := handoffOf continuation
          plannedAttempt
          proposal := reservation.proposal
          proposedAttempt := reservation.proposal.freshBeginAttemptOf }) then
      pure .completed
    else
      unbindReservation reservation
      pure (.died ("planned-attempt position rejected reservation " ++
        reservation.proposal.id.value))

def coherentObservation (basis : FreshTaskAdmissionBasis)
    (candidateObservation : FreshTaskCandidateObservation) (runId : RunId) : Bool :=
  (issuedFrontier candidateObservation).all fun frontier =>
    frontier.runId = runId && frontier.acceptedAt = basis.acceptedAt

def synchronize (initialRunId : RunId) (basis : FreshTaskAdmissionBasis)
    (candidateObservation : FreshTaskCandidateObservation) :
    DeliveryProgram DeliveryAdmissionOutcome :=
  if !basis.issued then
    pure (.died "delivery admission synchronization requires an immutable accepted basis")
  else if basis.runId ≠ initialRunId then
    pure (.died "delivery admission synchronization requires the controller Run")
  else if !coherentObservation basis candidateObservation initialRunId then
    pure (.died
      "delivery admission synchronization requires one coherent basis and candidate frontier")
  else do
    match ← modifyAdmission (·.synchronize basis candidateObservation) with
    | none => pure .completed
    | some problem => pure (.died problem)

/-- A call of the controller. -/
inductive Call where
  | synchronize (basis : FreshTaskAdmissionBasis)
      (candidateObservation : FreshTaskCandidateObservation)
  | tryReserve (proposal : DeliveryActionProposal)
  | tryReserveFresh (frontier : FreshTaskCandidateFrontier)
      (materialize : FreshTaskCandidate → DeliveryActionProposal)
  | bindFreshTaskClaimOperation (reservation : DeliveryAdmissionReservation)
      (operationId : OperationId)
  | bindPlannedAttemptPosition (reservation : DeliveryAdmissionReservation)
      (plannedAttempt : PlannedTaskAttempt)
      (acceptedResponsibility :
        Option AdmissionState.AcceptedPlannedAttemptExecutorResponsibility)
      (acceptedDelivery : Option AdmissionState.AcceptedExecutorCommandDelivery)
  | complete (reservation : DeliveryAdmissionReservation)
  | rollback (reservation : DeliveryAdmissionReservation)
      (disposition : DeliveryAdmissionRollbackDisposition)
  | releasePlannedAttemptPosition (correlation : PlannedAttemptExecutorCorrelation)

def Call.program (initialRunId : RunId) : Call → DeliveryProgram DeliveryAdmissionOutcome
  | .synchronize basis candidateObservation =>
      DeliveryRuntime.synchronize initialRunId basis candidateObservation
  | .tryReserve proposal => DeliveryRuntime.tryReserve proposal
  | .tryReserveFresh frontier materialize => DeliveryRuntime.tryReserveFresh frontier materialize
  | .bindFreshTaskClaimOperation reservation operationId =>
      DeliveryRuntime.bindFreshTaskClaimOperation reservation operationId
  | .bindPlannedAttemptPosition reservation plannedAttempt acceptedResponsibility
      acceptedDelivery =>
      DeliveryRuntime.bindPlannedAttemptPosition reservation plannedAttempt acceptedResponsibility
        acceptedDelivery
  | .complete reservation => DeliveryRuntime.complete reservation
  | .rollback reservation disposition => DeliveryRuntime.rollback reservation disposition
  | .releasePlannedAttemptPosition correlation => do
      let release ← modifyAdmission (AdmissionState.releasePlannedAttemptPosition correlation)
      pure (.plannedAttemptPosition release)

/-- A step of another user of the shared resources. -/
inductive ForeignAction where
  | applicationExit (action : ApplicationExitAction Unit)
  | integrationTarget (action : IntegrationTargetAction)
  | plannedAttemptProtocol (action : ProtocolControllerAction)
deriving DecidableEq

/-- What another user does to the shared resources. -/
def foreign (action : ForeignAction) (runtime : DeliveryRuntime) : DeliveryRuntime :=
  match action with
  | .applicationExit action =>
      { runtime with
        applicationExit := (ApplicationExitState.step action runtime.applicationExit).2 }
  | .integrationTarget action =>
      { runtime with
        integrationTargets :=
          (IntegrationTargetResourceState.step action runtime.integrationTargets).2 }
  | .plannedAttemptProtocol action =>
      { runtime with
        plannedAttemptProtocol :=
          (ProtocolControllerState.step action runtime.plannedAttemptProtocol).2 }

def after (initial : FreshTaskAdmissionBasis)
    (actions : List (Program.PoolAction Call ForeignAction)) :
    Program.Pool DeliveryRuntime Call DeliveryAdmissionOutcome :=
  Program.Pool.after (Call.program initial.runId) foreign
    (makeDeliveryRuntimeAdmissionController initial) actions

end DeliveryRuntime

end Dalph
