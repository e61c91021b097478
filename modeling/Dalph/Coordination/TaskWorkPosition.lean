import Dalph.Coordination.DeliveryProposal

/-!
# Task-work positions

Admission keeps one position per task.  Every change of the positions is one transaction on the
admission state: synchronization with an accepted basis, reservation, binding, and release.
-/

namespace Dalph

/-- The capacity-consuming state of one task in an accepted basis. -/
inductive TaskAdmissionOccupancy where
  | freshEntryReserved (candidate : FreshTaskCandidate)
  | freshTaskCommitted (commitment : FreshTaskCommitment)
  | existingResponsibilityReserved (plannedAttempt : PlannedTaskAttempt)
  | exactAttemptHeld (plannedAttempt : PlannedTaskAttempt)
deriving DecidableEq

def taskAdmissionOccupancyTaskId : TaskAdmissionOccupancy → TaskId
  | .freshEntryReserved candidate => candidate.taskId
  | .freshTaskCommitted commitment => commitment.operation.acquisition.taskId
  | .existingResponsibilityReserved plannedAttempt | .exactAttemptHeld plannedAttempt =>
      plannedAttempt.taskId

inductive FreshEntryActivity where
  | awaitingDurableCommitment (claimOperationId : OperationId)
  | freshClaimOperationBound (claimOperationId : OperationId) (proposalId : DeliveryProposalId)
  | idlePreIntent
  | owned (proposalId : DeliveryProposalId)
  | pendingMaterialization
deriving DecidableEq

structure FreshEntryRuntimePosition where
  activity : FreshEntryActivity
  candidate : FreshTaskCandidate
deriving DecidableEq

/-- What a locally accepted attempt took over. -/
inductive AttemptHandoff where
  | existingAttemptHandoff
  | freshCommitmentHandoff (commitment : FreshTaskCommitment)
deriving DecidableEq

/-- Responsibility accepted locally while its publication catches up. -/
structure LocallyAcceptedAttemptPosition where
  handoff : AttemptHandoff
  plannedAttempt : PlannedTaskAttempt
  responsibilityAcceptedAt : JournalPosition
deriving DecidableEq

inductive TaskWorkPosition where
  | freshTaskCommitted (commitment : FreshTaskCommitment)
  | existingResponsibilityReserved (plannedAttempt : PlannedTaskAttempt)
  | exactAttemptHeld (plannedAttempt : PlannedTaskAttempt)
  | boundRuntimePosition (correlation : PlannedAttemptExecutorCorrelation)
      (proposalId : DeliveryProposalId)
  | pendingRuntimePosition (proposalId : DeliveryProposalId)
  | freshEntryRuntimePosition (entry : FreshEntryRuntimePosition)
  | locallyAcceptedAttemptPosition (accepted : LocallyAcceptedAttemptPosition)
  | safeContinuationReserved (eligibility : SafeContinuationRevalidationEligibility)
      (proposalId : DeliveryProposalId)
deriving DecidableEq

def runtimePositionOf : TaskAdmissionOccupancy → TaskWorkPosition
  | .freshEntryReserved candidate => .freshEntryRuntimePosition ⟨.idlePreIntent, candidate⟩
  | .freshTaskCommitted commitment => .freshTaskCommitted commitment
  | .existingResponsibilityReserved plannedAttempt => .existingResponsibilityReserved plannedAttempt
  | .exactAttemptHeld plannedAttempt => .exactAttemptHeld plannedAttempt

def positionCorrelation : TaskWorkPosition → Option PlannedAttemptExecutorCorrelation
  | .safeContinuationReserved eligibility _ => some eligibility.acceptedSafeCorrelation
  | .boundRuntimePosition correlation _ => some correlation
  | .locallyAcceptedAttemptPosition accepted =>
      some (plannedAttemptExecutorCorrelation accepted.plannedAttempt)
  | .existingResponsibilityReserved plannedAttempt | .exactAttemptHeld plannedAttempt =>
      some (plannedAttemptExecutorCorrelation plannedAttempt)
  | .freshTaskCommitted _ | .pendingRuntimePosition _ | .freshEntryRuntimePosition _ => none

/-- Accepted evidence that a claim operation no longer owns pre-attempt admission. -/
inductive FreshTaskAdmissionReleaseEvidence where
  | exactAttemptHandoffAccepted (plannedAttempt : PlannedTaskAttempt)
  | exactPreOwnershipClaimRejected
deriving DecidableEq

def freshTaskAdmissionReleaseKey (taskId : TaskId) (claimOperationId : OperationId) : String :=
  Json.stringify (.arr [.str taskId.value, .str claimOperationId.value])

/-- Closed occupancy at one accepted Journal prefix. -/
structure FreshTaskAdmissionBasis where
  acceptedAt : Option JournalPosition
  capacity : Nat
  issued : Bool
  occupied : KeyedMap TaskId TaskAdmissionOccupancy
  releaseEvidence : KeyedMap String FreshTaskAdmissionReleaseEvidence
  runId : RunId
  safeContinuationRevalidations : List SafeContinuationRevalidationEligibility

structure AdmissionState where
  acceptedBasis : FreshTaskAdmissionBasis
  acceptedCandidateFrontier : Option FreshTaskCandidateFrontier
  capacity : Nat
  positions : KeyedMap TaskId TaskWorkPosition

namespace FreshTaskAdmissionBasis

def exactFreshTaskRelease (basis : FreshTaskAdmissionBasis) (taskId : TaskId)
    (claimOperationId : OperationId) : Option FreshTaskAdmissionReleaseEvidence :=
  basis.releaseEvidence.lookup (freshTaskAdmissionReleaseKey taskId claimOperationId)

def exactHandoffMatches (basis : FreshTaskAdmissionBasis) (taskId : TaskId)
    (claimOperationId : OperationId) (plannedAttempt : PlannedTaskAttempt) : Bool :=
  match basis.exactFreshTaskRelease taskId claimOperationId with
  | some (.exactAttemptHandoffAccepted accepted) =>
      plannedTaskAttemptEquivalence accepted plannedAttempt
  | _ => false

end FreshTaskAdmissionBasis

inductive PositionReconciliation where
  | contradiction
  | keep (position : TaskWorkPosition)
  | remove
deriving DecidableEq

def freshRuntimeClaimOperationId (entry : FreshEntryRuntimePosition) : Option OperationId :=
  match entry.activity with
  | .awaitingDurableCommitment claimOperationId
  | .freshClaimOperationBound claimOperationId _ => some claimOperationId
  | _ => none

def reconcileFreshCommitment (basis : FreshTaskAdmissionBasis) (taskId : TaskId)
    (commitment : FreshTaskCommitment) (accepted : Option TaskAdmissionOccupancy) :
    PositionReconciliation :=
  let claimOperationId := commitment.claimOperationId
  let release := basis.exactFreshTaskRelease taskId claimOperationId
  match accepted with
  | none => if release.isNone then .keep (.freshTaskCommitted commitment) else .remove
  | some (.freshTaskCommitted acceptedCommitment) =>
      if sameFreshTaskCommitment acceptedCommitment commitment || release.isSome then
        .keep (.freshTaskCommitted acceptedCommitment)
      else .contradiction
  | some (.exactAttemptHeld plannedAttempt) =>
      if basis.exactHandoffMatches taskId claimOperationId plannedAttempt then
        .keep (.exactAttemptHeld plannedAttempt)
      else .contradiction
  | some _ => .contradiction

def freshIdleEntryWasOmitted (candidateObservation : FreshTaskCandidateObservation)
    (taskId : TaskId) (entry : FreshEntryRuntimePosition) : Bool :=
  match issuedFrontier candidateObservation with
  | some frontier =>
      !frontier.entryCapableTaskIds.contains taskId && entry.activity = .idlePreIntent
  | none => false

/-- The accepted commitment is the one that the entry waits for, or the entry was released. -/
def freshRuntimeCommitmentMatches (claimOperationId : Option OperationId)
    (release : Option FreshTaskAdmissionReleaseEvidence) (accepted : FreshTaskCommitment) : Bool :=
  claimOperationId = some accepted.claimOperationId || release.isSome

/-- A fresh entry follows the commitment or the attempt that its claim operation became. -/
def reconcileFreshRuntimePosition (basis : FreshTaskAdmissionBasis)
    (candidateObservation : FreshTaskCandidateObservation) (taskId : TaskId)
    (entry : FreshEntryRuntimePosition) (accepted : Option TaskAdmissionOccupancy) :
    PositionReconciliation :=
  let claimOperationId := freshRuntimeClaimOperationId entry
  let release := claimOperationId.bind (basis.exactFreshTaskRelease taskId)
  match accepted with
  | none =>
      if release.isSome then .remove
      else if freshIdleEntryWasOmitted candidateObservation taskId entry then .remove
      else .keep (.freshEntryRuntimePosition entry)
  | some (.freshTaskCommitted commitment) =>
      if freshRuntimeCommitmentMatches claimOperationId release commitment then
        .keep (.freshTaskCommitted commitment)
      else .contradiction
  | some (.exactAttemptHeld plannedAttempt) =>
      if claimOperationId.any (basis.exactHandoffMatches taskId · plannedAttempt) then
        .keep (.exactAttemptHeld plannedAttempt)
      else .contradiction
  | some _ => .contradiction

/-- A locally accepted attempt stays until the basis has caught up with it. -/
def reconcileLocallyAcceptedAttempt (basisAcceptedAt : Option JournalPosition)
    (position : LocallyAcceptedAttemptPosition) (accepted : Option TaskAdmissionOccupancy) :
    PositionReconciliation :=
  match accepted with
  | none =>
      if basisAcceptedAt.any (· > position.responsibilityAcceptedAt) then .remove
      else .keep (.locallyAcceptedAttemptPosition position)
  | some (.freshTaskCommitted acceptedCommitment) =>
      match position.handoff with
      | .freshCommitmentHandoff commitment =>
          if sameFreshTaskCommitment commitment acceptedCommitment then
            .keep (.locallyAcceptedAttemptPosition position)
          else .contradiction
      | .existingAttemptHandoff => .contradiction
  | some (.exactAttemptHeld plannedAttempt) =>
      if plannedTaskAttemptEquivalence plannedAttempt position.plannedAttempt then
        .keep (.exactAttemptHeld plannedAttempt)
      else .contradiction
  | some (.existingResponsibilityReserved plannedAttempt) =>
      if plannedTaskAttemptEquivalence plannedAttempt position.plannedAttempt then
        .keep (.locallyAcceptedAttemptPosition position)
      else .contradiction
  | some (.freshEntryReserved _) => .contradiction

def reconcileSafeContinuationReservation (basis : FreshTaskAdmissionBasis)
    (eligibility : SafeContinuationRevalidationEligibility) (proposalId : DeliveryProposalId)
    (accepted : Option TaskAdmissionOccupancy) : PositionReconciliation :=
  match accepted with
  | some (.exactAttemptHeld plannedAttempt) =>
      if plannedTaskAttemptEquivalence plannedAttempt eligibility.plannedAttempt then
        .keep (.exactAttemptHeld plannedAttempt)
      else .contradiction
  | some _ => .contradiction
  | none =>
      if basis.safeContinuationRevalidations.any (sameSafeContinuation · eligibility) then
        .keep (.safeContinuationReserved eligibility proposalId)
      else .remove

/-- What synchronization does with the position of a task. -/
def reconcilePosition (basis : FreshTaskAdmissionBasis)
    (candidateObservation : FreshTaskCandidateObservation) (taskId : TaskId)
    (position : TaskWorkPosition) : PositionReconciliation :=
  let accepted := basis.occupied.lookup taskId
  match position with
  | .freshTaskCommitted commitment => reconcileFreshCommitment basis taskId commitment accepted
  | .freshEntryRuntimePosition entry =>
      reconcileFreshRuntimePosition basis candidateObservation taskId entry accepted
  | .locallyAcceptedAttemptPosition position =>
      reconcileLocallyAcceptedAttempt basis.acceptedAt position accepted
  | .safeContinuationReserved eligibility proposalId =>
      reconcileSafeContinuationReservation basis eligibility proposalId accepted
  | .exactAttemptHeld _ =>
      match accepted with
      | some occupancy => .keep (runtimePositionOf occupancy)
      | none => .remove
  | .existingResponsibilityReserved _ | .boundRuntimePosition _ _ | .pendingRuntimePosition _ =>
      match accepted with
      | some occupancy => .keep (runtimePositionOf occupancy)
      | none => .keep position

namespace AdmissionState

def withPositions (current : AdmissionState) (positions : KeyedMap TaskId TaskWorkPosition) :
    AdmissionState :=
  { current with positions }

def setPosition (current : AdmissionState) (taskId : TaskId) (position : TaskWorkPosition) :
    AdmissionState :=
  current.withPositions (KeyedMap.set current.positions taskId position)

def removePosition (current : AdmissionState) (taskId : TaskId) : AdmissionState :=
  current.withPositions (current.positions.erase taskId)

def olderPrefixProblem : String :=
  "delivery admission synchronization rejected an older accepted Journal prefix"

def contradictionProblem (taskId : TaskId) : String :=
  "accepted task-work position contradicts locally accepted attempt " ++ taskId.value

/-- Positions that survive reconciliation, and the newly accepted ones. -/
def reconciledEntries (current : AdmissionState) (basis : FreshTaskAdmissionBasis)
    (candidateObservation : FreshTaskCandidateObservation) : List (TaskId × TaskWorkPosition) :=
  current.positions.entries.filterMap (fun entry =>
      match reconcilePosition basis candidateObservation entry.1 entry.2 with
      | .keep position => some (entry.1, position)
      | _ => none) ++
    (basis.occupied.entries.filter fun entry => !current.positions.keys.contains entry.1).map
      fun entry => (entry.1, runtimePositionOf entry.2)

def synchronize (current : AdmissionState) (basis : FreshTaskAdmissionBasis)
    (candidateObservation : FreshTaskCandidateObservation) : Option String × AdmissionState :=
  let older := current.acceptedBasis.acceptedAt.any fun acceptedAt =>
    basis.acceptedAt.all (· < acceptedAt)
  if older then (some olderPrefixProblem, current)
  else
    match current.positions.entries.find? fun entry =>
        reconcilePosition basis candidateObservation entry.1 entry.2 = .contradiction with
    | some contradictory => (some (contradictionProblem contradictory.1), current)
    | none =>
        (none,
          { acceptedBasis := basis
            acceptedCandidateFrontier := issuedFrontier candidateObservation
            capacity := basis.capacity
            positions := KeyedMap.ofEntries (current.reconciledEntries basis candidateObservation) })

end AdmissionState

structure TaskPositionReservation where
  admitted : Bool
  createdFor : Option TaskId
deriving DecidableEq

namespace AdmissionState

def unchangedTaskReservation (admitted : Bool) (current : AdmissionState) :
    TaskPositionReservation × AdmissionState :=
  (⟨admitted, none⟩, current)

def reserveExistingTaskPosition (taskId : TaskId) (correlation : PlannedAttemptExecutorCorrelation)
    (current : AdmissionState) : TaskPositionReservation × AdmissionState :=
  current.unchangedTaskReservation
    (((current.positions.lookup taskId).bind positionCorrelation) = some correlation)

def proposalReusesFreshCommitment (proposal : DeliveryActionProposal)
    (commitment : FreshTaskCommitment) : Bool :=
  match proposal.route with
  | .freshExecutorWorkflowRoute (.beginPlannedAttemptExecutorWork claimOperationId _ _) =>
      claimOperationId = commitment.claimOperationId
  | _ => false

/-- An occupied position is reused; a pending one is bound to the attempt of the proposal. -/
def reserveOccupiedReusablePosition (proposal : DeliveryActionProposal) (taskId : TaskId)
    (retainAs : Option PlannedAttemptExecutorCorrelation) (existing : TaskWorkPosition)
    (current : AdmissionState) : TaskPositionReservation × AdmissionState :=
  match retainAs with
  | none =>
      match existing with
      | .pendingRuntimePosition _ | .freshTaskCommitted _ => current.unchangedTaskReservation true
      | _ => current.unchangedTaskReservation false
  | some correlation =>
      match existing with
      | .freshTaskCommitted commitment =>
          current.unchangedTaskReservation (proposalReusesFreshCommitment proposal commitment)
      | .pendingRuntimePosition _ =>
          (⟨true, none⟩,
            current.setPosition taskId (.boundRuntimePosition correlation proposal.id))
      | existing =>
          current.unchangedTaskReservation (positionCorrelation existing = some correlation)

def reserveReusableTaskPosition (proposal : DeliveryActionProposal) (taskId : TaskId)
    (retainAs : Option PlannedAttemptExecutorCorrelation) (current : AdmissionState) :
    TaskPositionReservation × AdmissionState :=
  match current.positions.lookup taskId with
  | some existing => reserveOccupiedReusablePosition proposal taskId retainAs existing current
  | none =>
      if KeyedMap.size current.positions ≥ current.capacity then
        current.unchangedTaskReservation false
      else
        (⟨true, some taskId⟩,
          current.setPosition taskId
            (match retainAs with
            | none => .pendingRuntimePosition proposal.id
            | some correlation => .boundRuntimePosition correlation proposal.id))

def freshCommitmentMatchesPosition (commitment : FreshTaskCommitment) (current : AdmissionState) :
    Bool :=
  match current.positions.lookup commitment.operation.acquisition.taskId with
  | some (.freshTaskCommitted existing) => sameFreshTaskCommitment existing commitment
  | _ => false

def requiredTaskId : TaskWorkPositionRequirement → Option TaskId
  | .noTaskWorkPosition => none
  | .existing taskId | .reserveOrReuse taskId => some taskId

def continuationCannotUseCommittedPosition
    (continuation : FreshContinuationCommitmentRequirement)
    (requirement : TaskWorkPositionRequirement) (current : AdmissionState) : Bool :=
  let hasNoFreshCommitment :=
    match continuation with
    | .freshContinuationCommitmentNotRequired | .replacementContinuationRequired _ => true
    | _ => false
  let committed :=
    match (requiredTaskId requirement).bind fun taskId => current.positions.lookup taskId with
    | some (.freshTaskCommitted _) => true
    | _ => false
  hasNoFreshCommitment && committed

def reserveRequiredTaskPosition (proposal : DeliveryActionProposal)
    (requirement : TaskWorkPositionRequirement) (current : AdmissionState) :
    TaskPositionReservation × AdmissionState :=
  match requirement with
  | .noTaskWorkPosition => current.unchangedTaskReservation true
  | .existing taskId =>
      match proposal.admission.plannedAttemptProtocol with
      | none => current.unchangedTaskReservation false
      | some correlation => reserveExistingTaskPosition taskId correlation current
  | .reserveOrReuse taskId =>
      reserveReusableTaskPosition proposal taskId proposal.admission.plannedAttemptProtocol current

def safeContinuationRequirementMatches (proposal : DeliveryActionProposal)
    (eligibility : SafeContinuationRevalidationEligibility) : Bool :=
  proposal.admission.taskWorkPosition = .reserveOrReuse eligibility.plannedAttempt.taskId &&
    proposal.admission.plannedAttemptProtocol.all (· = eligibility.acceptedSafeCorrelation)

def earlierSafeContinuationWaits (current : AdmissionState)
    (eligibility : SafeContinuationRevalidationEligibility) : Bool :=
  current.acceptedBasis.safeContinuationRevalidations.any fun waiting =>
    waiting.responsibilityBeganAt < eligibility.responsibilityBeganAt &&
      (current.positions.lookup waiting.plannedAttempt.taskId).isNone

/-- A safe continuation keeps its own position or gets one in the order of its responsibility. -/
def reserveSafeContinuationPosition (proposal : DeliveryActionProposal)
    (eligibility : SafeContinuationRevalidationEligibility) (current : AdmissionState) :
    TaskPositionReservation × AdmissionState :=
  let taskId := eligibility.plannedAttempt.taskId
  let acceptedEligibility := current.acceptedBasis.safeContinuationRevalidations.any
    (sameSafeContinuation · eligibility)
  if !eligibility.issued || !safeContinuationRequirementMatches proposal eligibility ||
      !acceptedEligibility then
    current.unchangedTaskReservation false
  else
    match current.positions.lookup taskId with
    | some (.safeContinuationReserved existing _) =>
        current.unchangedTaskReservation (sameSafeContinuation existing eligibility)
    | some _ => current.unchangedTaskReservation false
    | none =>
        if earlierSafeContinuationWaits current eligibility then
          current.unchangedTaskReservation false
        else if KeyedMap.size current.positions ≥ current.capacity then
          current.unchangedTaskReservation false
        else
          (⟨true, some taskId⟩,
            current.setPosition taskId (.safeContinuationReserved eligibility proposal.id))

/-- A required commitment is there and is the required one. -/
def freshContinuationIsUsable (continuation : FreshContinuationCommitmentRequirement)
    (current : AdmissionState) : Bool :=
  match continuation with
  | .freshContinuationCommitmentMissing => false
  | .freshContinuationCommitmentRequired commitment =>
      freshCommitmentMatchesPosition commitment current
  | _ => true

def reserveTaskPositionState (proposal : DeliveryActionProposal) (current : AdmissionState) :
    TaskPositionReservation × AdmissionState :=
  match proposal.admission.safeContinuationRevalidation with
  | some eligibility => reserveSafeContinuationPosition proposal eligibility current
  | none =>
      if proposal.isFreshEntryRoute then current.unchangedTaskReservation false
      else
        let continuation := proposal.freshContinuationCommitmentRequirementOf
        let requirement := proposal.admission.taskWorkPosition
        if !freshContinuationIsUsable continuation current ||
            continuationCannotUseCommittedPosition continuation requirement current then
          current.unchangedTaskReservation false
        else reserveRequiredTaskPosition proposal requirement current

/-- A reserved candidate and the idle entry it replaced. -/
structure FreshTaskPositionReservation where
  candidate : FreshTaskCandidate
  previous : Option FreshEntryRuntimePosition
deriving DecidableEq

/-- A candidate whose task is free or has an idle local entry. -/
def freshCandidateIsSelectable (current : AdmissionState) (candidate : FreshTaskCandidate) : Bool :=
  match current.positions.lookup candidate.taskId with
  | none => true
  | some (.freshEntryRuntimePosition entry) =>
      entry.activity = .idlePreIntent &&
        (current.acceptedBasis.occupied.lookup candidate.taskId).isNone
  | some _ => false

def safeContinuationWaits (current : AdmissionState) : Bool :=
  current.acceptedBasis.safeContinuationRevalidations.any fun waiting =>
    (current.positions.lookup waiting.plannedAttempt.taskId).isNone

def reserveFreshTaskPosition (frontier : FreshTaskCandidateFrontier) (current : AdmissionState) :
    Option FreshTaskPositionReservation × AdmissionState :=
  let accepted := frontier.runId = current.acceptedBasis.runId ∧
    current.acceptedCandidateFrontier.map (·.reference) = some frontier.reference
  if ¬ accepted then (none, current)
  else if current.safeContinuationWaits then (none, current)
  else
    match frontier.candidates.find? current.freshCandidateIsSelectable with
    | none => (none, current)
    | some candidate =>
        let reserved := TaskWorkPosition.freshEntryRuntimePosition
          ⟨.pendingMaterialization, candidate⟩
        match current.positions.lookup candidate.taskId with
        | some (.freshEntryRuntimePosition existing) =>
            (some ⟨candidate, some existing⟩, current.setPosition candidate.taskId reserved)
        | _ =>
            if KeyedMap.size current.positions ≥ current.capacity then (none, current)
            else (some ⟨candidate, none⟩, current.setPosition candidate.taskId reserved)

def positionProposalId : TaskWorkPosition → Option DeliveryProposalId
  | .boundRuntimePosition _ proposalId | .pendingRuntimePosition proposalId
  | .safeContinuationReserved _ proposalId => some proposalId
  | _ => none

def releaseTaskReservation (taskId : TaskId) (proposalId : DeliveryProposalId)
    (current : AdmissionState) : AdmissionState :=
  if (current.positions.lookup taskId).bind positionProposalId = some proposalId then
    current.removePosition taskId
  else current

def freshActivityIsOwnedBy (activity : FreshEntryActivity) (proposalId : DeliveryProposalId) :
    Bool :=
  match activity with
  | .owned owner | .freshClaimOperationBound _ owner => owner = proposalId
  | _ => false

/-- The entry is still the one that the reservation made. -/
def freshReservationCanBeRestored (entry : FreshEntryRuntimePosition)
    (reservation : FreshTaskPositionReservation)
    (ownedByProposalId : Option DeliveryProposalId) : Bool :=
  entry.candidate.id = reservation.candidate.id &&
    match ownedByProposalId with
    | none => entry.activity = .pendingMaterialization
    | some proposalId => freshActivityIsOwnedBy entry.activity proposalId

def restoreFreshTaskReservation (reservation : FreshTaskPositionReservation)
    (ownedByProposalId : Option DeliveryProposalId) (current : AdmissionState) : AdmissionState :=
  match current.positions.lookup reservation.candidate.taskId with
  | some (.freshEntryRuntimePosition entry) =>
      if freshReservationCanBeRestored entry reservation ownedByProposalId then
        match reservation.previous with
        | none => current.removePosition reservation.candidate.taskId
        | some previous =>
            current.setPosition reservation.candidate.taskId (.freshEntryRuntimePosition previous)
      else current
  | _ => current

/-- The transaction that moves the entry of a candidate on. -/
def markFreshEntryActivity (candidate : FreshTaskCandidate) (activity : FreshEntryActivity)
    (current : AdmissionState) : AdmissionState :=
  match current.positions.lookup candidate.taskId with
  | some (.freshEntryRuntimePosition entry) =>
      if entry.candidate.id = candidate.id then
        current.setPosition candidate.taskId (.freshEntryRuntimePosition ⟨activity, candidate⟩)
      else current
  | _ => current

def releaseSafeContinuationReservation (proposal : DeliveryActionProposal)
    (current : AdmissionState) : AdmissionState :=
  match proposal.admission.safeContinuationRevalidation with
  | none => current
  | some eligibility =>
      match current.positions.lookup eligibility.plannedAttempt.taskId with
      | some (.safeContinuationReserved existing _) =>
          if sameSafeContinuation existing eligibility then
            current.removePosition eligibility.plannedAttempt.taskId
          else current
      | _ => current

inductive PlannedAttemptPositionRelease where
  | released
  | alreadyAbsent
deriving DecidableEq

def releasePlannedAttemptPosition (correlation : PlannedAttemptExecutorCorrelation)
    (current : AdmissionState) : PlannedAttemptPositionRelease × AdmissionState :=
  match current.positions.entries.find? fun entry =>
      positionCorrelation entry.2 = some correlation with
  | none => (.alreadyAbsent, current)
  | some found => (.released, current.removePosition found.1)

def bindFreshTaskClaimOperation (candidate : FreshTaskCandidate) (proposalId : DeliveryProposalId)
    (operationId : OperationId) (current : AdmissionState) : Bool × AdmissionState :=
  match current.positions.lookup candidate.taskId with
  | some (.freshEntryRuntimePosition entry) =>
      if entry.candidate.id = candidate.id ∧ entry.activity = .owned proposalId then
        (true,
          current.setPosition candidate.taskId (.freshEntryRuntimePosition
            ⟨.freshClaimOperationBound operationId proposalId, candidate⟩))
      else (false, current)
  | _ => (false, current)

structure AcceptedPlannedAttemptExecutorResponsibility where
  acceptedAt : JournalPosition
  issued : Bool
  plannedAttempt : PlannedTaskAttempt
deriving DecidableEq

inductive ExecutorCommandDelivery where
  | initialCommandDelivery (resume : Bool)
  | resumeRedelivery (projectionOrdinal : Nat) (safeProjectionObservedAt : JournalPosition)
deriving DecidableEq

structure AcceptedExecutorCommandDelivery where
  acceptedAt : JournalPosition
  commandOrdinal : Nat
  delivery : ExecutorCommandDelivery
  issued : Bool
  plannedAttempt : PlannedTaskAttempt
deriving DecidableEq

structure PlannedAttemptPositionBinding where
  acceptedDelivery : Option AcceptedExecutorCommandDelivery
  acceptedResponsibility : Option AcceptedPlannedAttemptExecutorResponsibility
  continuation : FreshContinuationCommitmentRequirement
  handoff : AttemptHandoff
  plannedAttempt : PlannedTaskAttempt
  proposal : DeliveryActionProposal
  proposedAttempt : Option PlannedTaskAttempt

def plannedAttemptReservationMatches (proposal : DeliveryActionProposal)
    (plannedAttempt : PlannedTaskAttempt) : Bool :=
  requiredTaskId proposal.admission.taskWorkPosition = some plannedAttempt.taskId &&
    proposal.admission.plannedAttemptProtocol =
      some (plannedAttemptExecutorCorrelation plannedAttempt)

def freshCommitmentHandoffMatches (position : TaskWorkPosition) (handoff : AttemptHandoff)
    (proposedAttempt : Option PlannedTaskAttempt) (plannedAttempt : PlannedTaskAttempt) : Bool :=
  match position with
  | .freshTaskCommitted commitment =>
      match handoff with
      | .freshCommitmentHandoff handedOver =>
          sameFreshTaskCommitment handedOver commitment &&
            proposedAttempt.any (plannedTaskAttemptEquivalence · plannedAttempt)
      | .existingAttemptHandoff => false
  | _ => true

/-- A replacement hands over exactly its own attempt. -/
def replacementHandoffMatches (continuation : FreshContinuationCommitmentRequirement)
    (proposedAttempt : Option PlannedTaskAttempt) (plannedAttempt : PlannedTaskAttempt) : Bool :=
  match continuation with
  | .replacementContinuationRequired replacement =>
      plannedTaskAttemptEquivalence replacement.plannedAttempt plannedAttempt &&
        proposedAttempt.any (plannedTaskAttemptEquivalence · plannedAttempt)
  | _ => true

def taskPositionMatchesAttempt (position : TaskWorkPosition) (proposalId : DeliveryProposalId)
    (plannedAttempt : PlannedTaskAttempt) : Bool :=
  match position with
  | .freshEntryRuntimePosition _ | .locallyAcceptedAttemptPosition _ => false
  | .freshTaskCommitted _ => true
  | .pendingRuntimePosition owner => owner = proposalId
  | .boundRuntimePosition correlation owner =>
      owner = proposalId && correlation = plannedAttemptExecutorCorrelation plannedAttempt
  | .safeContinuationReserved eligibility _ =>
      plannedTaskAttemptEquivalence eligibility.plannedAttempt plannedAttempt
  | .existingResponsibilityReserved held | .exactAttemptHeld held =>
      plannedTaskAttemptEquivalence held plannedAttempt

def acceptedResponsibilityMatchesHandoff (binding : PlannedAttemptPositionBinding) : Bool :=
  match binding.acceptedResponsibility with
  | none =>
      match binding.handoff with
      | .freshCommitmentHandoff _ => false
      | .existingAttemptHandoff => true
  | some responsibility =>
      responsibility.issued &&
        plannedTaskAttemptEquivalence responsibility.plannedAttempt binding.plannedAttempt

def plannedAttemptPositionBindingMatches (position : TaskWorkPosition)
    (binding : PlannedAttemptPositionBinding) : Bool :=
  plannedAttemptReservationMatches binding.proposal binding.plannedAttempt &&
    taskPositionMatchesAttempt position binding.proposal.id binding.plannedAttempt &&
    freshCommitmentHandoffMatches position binding.handoff binding.proposedAttempt
      binding.plannedAttempt &&
    replacementHandoffMatches binding.continuation binding.proposedAttempt
      binding.plannedAttempt &&
    acceptedResponsibilityMatchesHandoff binding

def acceptedDeliveryMatchesBinding (binding : PlannedAttemptPositionBinding) : Bool :=
  binding.acceptedDelivery.all fun receipt =>
    receipt.issued && plannedTaskAttemptEquivalence receipt.plannedAttempt binding.plannedAttempt

def acceptedDeliveryMatchesEligibility (receipt : AcceptedExecutorCommandDelivery)
    (eligibility : SafeContinuationRevalidationEligibility) : Bool :=
  if receipt.acceptedAt ≤ eligibility.responsibilityBeganAt then false
  else
    match eligibility.basis, receipt.delivery with
    | .lifecycleReopenAfterAcceptedSafe, .initialCommandDelivery resume => resume
    | .reconciledResumeStillSafe observedAt projectionOrdinal resumeCommandOrdinal,
        .resumeRedelivery deliveredOrdinal safeProjectionObservedAt =>
        receipt.commandOrdinal = resumeCommandOrdinal && deliveredOrdinal = projectionOrdinal &&
          safeProjectionObservedAt = observedAt && receipt.acceptedAt > observedAt
    | _, _ => false

def acceptedDeliveryFitsProposal (binding : PlannedAttemptPositionBinding) : Bool :=
  match binding.acceptedDelivery,
      binding.proposal.admission.safeContinuationRevalidation with
  | some receipt, some eligibility => acceptedDeliveryMatchesEligibility receipt eligibility
  | _, _ => true

def responsibilityAcceptedAt (current : AdmissionState) (binding : PlannedAttemptPositionBinding) :
    Option JournalPosition :=
  ((binding.acceptedDelivery.map (·.acceptedAt)).or
    (binding.acceptedResponsibility.map (·.acceptedAt))).or current.acceptedBasis.acceptedAt

/-- A held attempt needs no binding, and a safe continuation waits for its delivery receipt. -/
def bindingLeavesPosition (position : TaskWorkPosition)
    (binding : PlannedAttemptPositionBinding) : Bool :=
  match position with
  | .exactAttemptHeld _ => true
  | .safeContinuationReserved _ _ => binding.acceptedDelivery.isNone
  | _ => false

/-- The transaction that hands a position over to its accepted attempt. -/
def bindPlannedAttemptPositionState (current : AdmissionState)
    (binding : PlannedAttemptPositionBinding) : Bool × AdmissionState :=
  match current.positions.lookup binding.plannedAttempt.taskId with
  | none => (false, current)
  | some position =>
      if !plannedAttemptPositionBindingMatches position binding then (false, current)
      else if !acceptedDeliveryMatchesBinding binding then (false, current)
      else if !acceptedDeliveryFitsProposal binding then (false, current)
      else if bindingLeavesPosition position binding then (true, current)
      else
        match current.responsibilityAcceptedAt binding with
        | none => (false, current)
        | some responsibilityAcceptedAt =>
            (true,
              current.setPosition binding.plannedAttempt.taskId (.locallyAcceptedAttemptPosition
                { handoff := binding.handoff
                  plannedAttempt := binding.plannedAttempt
                  responsibilityAcceptedAt }))

end AdmissionState

end Dalph
