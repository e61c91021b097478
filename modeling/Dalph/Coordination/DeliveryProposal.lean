import Dalph.Coordination.IntegrationTargetResource
import Dalph.Workflow.Operation

/-!
# Delivery proposals

What admission reads of one proposed action: its route, the resources it declares, and the private
authority that proposal derivation registered for it.  A registry entry of an object is a field of
the value, and `reference` tells which object it is where objects are compared.
-/

namespace Dalph

structure DeliveryProposalId where
  value : String
deriving DecidableEq

structure FreshTaskCandidateId where
  value : String
deriving DecidableEq

/-- The pre-intent step of a candidate. -/
inductive FreshEntryStep where
  | acquireTaskClaim
  | readCurrentTaskGraph
deriving DecidableEq

/-- One still-uncommitted tracker task. -/
structure FreshTaskCandidate where
  reference : Nat
  id : FreshTaskCandidateId
  runId : RunId
  step : FreshEntryStep
  taskId : TaskId
deriving DecidableEq

/-- Complete candidate order of one evaluation; only issued frontiers are authority. -/
structure FreshTaskCandidateFrontier where
  reference : Nat
  acceptedAt : Option JournalPosition
  candidates : List FreshTaskCandidate
  entryCapableTaskIds : List TaskId
  issued : Bool
  runId : RunId
deriving DecidableEq

abbrev FreshTaskCandidateObservation := Option FreshTaskCandidateFrontier

def issuedFrontier (observation : FreshTaskCandidateObservation) :
    Option FreshTaskCandidateFrontier :=
  observation.filter (·.issued)

/-- Durable evidence of one exact fresh claim operation. -/
structure FreshTaskCommitment where
  acceptedIntentPosition : JournalPosition
  issued : Bool
  operation : AcquireTaskClaimOperation
  runId : RunId
deriving DecidableEq

namespace FreshTaskCommitment

def claimOperationId (commitment : FreshTaskCommitment) : OperationId :=
  commitment.operation.acquisition.operationId

end FreshTaskCommitment

def sameFreshTaskCommitment (left right : FreshTaskCommitment) : Bool :=
  left.issued && right.issued && left.runId = right.runId &&
    left.acceptedIntentPosition = right.acceptedIntentPosition &&
    left.operation.acquisition = right.operation.acquisition &&
    left.operation.predecessorOperationIds = right.operation.predecessorOperationIds

/-- Why a safely suspended attempt may reread its authority. -/
inductive SafeContinuationBasis where
  | lifecycleReopenAfterAcceptedSafe
  | reconciledResumeStillSafe (observedAt : JournalPosition)
      (projectionOrdinal resumeCommandOrdinal : Nat)
deriving DecidableEq

/-- Process-local permission to reserve capacity for continuation reads. -/
structure SafeContinuationRevalidationEligibility where
  acceptedSafeCorrelation : PlannedAttemptExecutorCorrelation
  acceptedSafeReportOrdinal : Nat
  basis : SafeContinuationBasis
  issued : Bool
  plannedAttempt : PlannedTaskAttempt
  responsibilityBeganAt : JournalPosition
deriving DecidableEq

def sameSafeContinuation (left right : SafeContinuationRevalidationEligibility) : Bool :=
  left.basis = right.basis &&
    left.acceptedSafeReportOrdinal = right.acceptedSafeReportOrdinal &&
    left.responsibilityBeganAt = right.responsibilityBeganAt &&
    plannedTaskAttemptEquivalence left.plannedAttempt right.plannedAttempt

/-- Next protocol step of one fresh ticket. -/
inductive FreshWorkflowStep where
  | readCurrentTaskGraph (predecessorOperationId : OperationId) (taskId : TaskId)
  | acquireTaskClaim (predecessorOperationId : OperationId) (taskId : TaskId)
  | readPostClaimGraph (claimOperation : AcquireTaskClaimOperation)
      (predecessorOperationId : OperationId) (taskId : TaskId)
  | readRejectedTaskClaim (predecessorOperationId rejectedClaimOperationId : OperationId)
      (taskId : TaskId)
  | readTaskWorkSpecification (claimOperationId predecessorOperationId : OperationId)
      (taskId : TaskId)
  | readTaskAttemptBaseRetryFacts (claimOperationId predecessorOperationId : OperationId)
      (taskId : TaskId)
  | readTaskAttemptBase (claimOperationId predecessorOperationId : OperationId) (taskId : TaskId)
  | recordTaskAttemptPlan (claimOperationId predecessorOperationId : OperationId) (taskId : TaskId)
  | reconcileTaskWorktree (claimOperationId : OperationId) (plannedAttempt : PlannedTaskAttempt)
      (predecessorOperationId : OperationId) (taskId : TaskId)
  | beginPlannedAttemptExecutorWork (claimOperationId : OperationId)
      (plannedAttempt : PlannedTaskAttempt) (taskId : TaskId)
  | observePlannedAttemptExecutorWork (plannedAttempt : PlannedTaskAttempt) (taskId : TaskId)
deriving DecidableEq

inductive FreshWorkflowStepTag where
  | readCurrentTaskGraph
  | acquireTaskClaim
  | readPostClaimGraph
  | readRejectedTaskClaim
  | readTaskWorkSpecification
  | readTaskAttemptBaseRetryFacts
  | readTaskAttemptBase
  | recordTaskAttemptPlan
  | reconcileTaskWorktree
  | beginPlannedAttemptExecutorWork
  | observePlannedAttemptExecutorWork
deriving DecidableEq

namespace FreshWorkflowStep

def tag : FreshWorkflowStep → FreshWorkflowStepTag
  | .readCurrentTaskGraph .. => .readCurrentTaskGraph
  | .acquireTaskClaim .. => .acquireTaskClaim
  | .readPostClaimGraph .. => .readPostClaimGraph
  | .readRejectedTaskClaim .. => .readRejectedTaskClaim
  | .readTaskWorkSpecification .. => .readTaskWorkSpecification
  | .readTaskAttemptBaseRetryFacts .. => .readTaskAttemptBaseRetryFacts
  | .readTaskAttemptBase .. => .readTaskAttemptBase
  | .recordTaskAttemptPlan .. => .recordTaskAttemptPlan
  | .reconcileTaskWorktree .. => .reconcileTaskWorktree
  | .beginPlannedAttemptExecutorWork .. => .beginPlannedAttemptExecutorWork
  | .observePlannedAttemptExecutorWork .. => .observePlannedAttemptExecutorWork

def taskId : FreshWorkflowStep → TaskId
  | .readCurrentTaskGraph _ taskId | .acquireTaskClaim _ taskId | .readPostClaimGraph _ _ taskId
  | .readRejectedTaskClaim _ _ taskId | .readTaskWorkSpecification _ _ taskId
  | .readTaskAttemptBaseRetryFacts _ _ taskId | .readTaskAttemptBase _ _ taskId
  | .recordTaskAttemptPlan _ _ taskId | .reconcileTaskWorktree _ _ _ taskId
  | .beginPlannedAttemptExecutorWork _ _ taskId
  | .observePlannedAttemptExecutorWork _ taskId => taskId

def continuationClaimOperationIdOrNull : FreshWorkflowStep → Option OperationId
  | .readPostClaimGraph claimOperation _ _ => some claimOperation.acquisition.operationId
  | .readTaskWorkSpecification claimOperationId _ _
  | .readTaskAttemptBaseRetryFacts claimOperationId _ _ | .readTaskAttemptBase claimOperationId _ _
  | .recordTaskAttemptPlan claimOperationId _ _ | .reconcileTaskWorktree claimOperationId _ _ _
  | .beginPlannedAttemptExecutorWork claimOperationId _ _ => some claimOperationId
  | .readCurrentTaskGraph .. | .acquireTaskClaim .. | .readRejectedTaskClaim ..
  | .observePlannedAttemptExecutorWork .. => none

def predecessorOperationId? : FreshWorkflowStep → Option OperationId
  | .readCurrentTaskGraph predecessor _ | .acquireTaskClaim predecessor _
  | .readPostClaimGraph _ predecessor _ | .readRejectedTaskClaim predecessor _ _
  | .readTaskWorkSpecification _ predecessor _ | .readTaskAttemptBaseRetryFacts _ predecessor _
  | .readTaskAttemptBase _ predecessor _ | .recordTaskAttemptPlan _ predecessor _
  | .reconcileTaskWorktree _ _ predecessor _ => some predecessor
  | .beginPlannedAttemptExecutorWork .. | .observePlannedAttemptExecutorWork .. => none

def plannedAttempt? : FreshWorkflowStep → Option PlannedTaskAttempt
  | .reconcileTaskWorktree _ plannedAttempt _ _
  | .beginPlannedAttemptExecutorWork _ plannedAttempt _
  | .observePlannedAttemptExecutorWork plannedAttempt _ => some plannedAttempt
  | _ => none

end FreshWorkflowStep

inductive IdentityFreeWorkflowTransition where
  | runIntegrator
  | runRemotePublication
  | runTargetPromotion
  | reconcileTargetPromotionAttempt
  | other
deriving DecidableEq

inductive IntegrationExitBoundaryFamily where
  | integratorPreparation
  | remotePublication
  | targetPromotion
deriving DecidableEq

def integrationExitBoundaryFamilyFor :
    IdentityFreeWorkflowTransition → Option IntegrationExitBoundaryFamily
  | .runIntegrator => some .integratorPreparation
  | .runRemotePublication => some .remotePublication
  | .runTargetPromotion | .reconcileTargetPromotionAttempt => some .targetPromotion
  | .other => none

inductive DeliveryRoute where
  | freshWorkflowRoute (step : FreshWorkflowStep)
  | recoveredNewActionRoute
  | trackerGraphReadRoute
  | acceptedWorkflowRoute
  | freshExecutorWorkflowRoute (step : FreshWorkflowStep)
  | identityFreeWorkflowRoute (transition : IdentityFreeWorkflowTransition)
deriving DecidableEq

inductive TaskWorkPositionRequirement where
  | noTaskWorkPosition
  | existing (taskId : TaskId)
  | reserveOrReuse (taskId : TaskId)
deriving DecidableEq

inductive IntegrationTargetAccess where
  | acquire
  | release
  | useHeld
deriving DecidableEq

structure IntegrationTargetResourceRequirement where
  access : IntegrationTargetAccess
  responsibility : IntegrationTargetResourceResponsibility
deriving DecidableEq

/-- Declared resources; an existing position is proved for an exact attempt. -/
structure DeliveryAdmissionRequirements where
  integrationTarget : Option IntegrationTargetResourceRequirement
  plannedAttemptProtocol : Option PlannedAttemptExecutorCorrelation
  safeContinuationRevalidation : Option SafeContinuationRevalidationEligibility
  taskWorkPosition : TaskWorkPositionRequirement
  correlated : ∀ taskId, taskWorkPosition = .existing taskId → plannedAttemptProtocol.isSome
deriving DecidableEq

structure ReplacementContinuationAuthority where
  plannedAttempt : PlannedTaskAttempt
deriving DecidableEq

inductive FreshContinuationAuthority where
  | freshCommitmentAuthority (commitment : FreshTaskCommitment)
  | replacementAuthority (replacement : ReplacementContinuationAuthority)
deriving DecidableEq

inductive FreshContinuationAuthoritySnapshot where
  | freshOperationContinuationAuthority (claimOperationId predecessorOperationId : OperationId)
      (step : FreshWorkflowStepTag) (taskId : TaskId)
  | freshAttemptHandoffAuthority (claimOperationId : OperationId)
      (plannedAttempt : PlannedTaskAttempt) (runId : RunId) (step : FreshWorkflowStepTag)
      (taskId : TaskId)
deriving DecidableEq

structure FreshContinuationProposalAuthority where
  authority : FreshContinuationAuthority
  continuationSnapshot : FreshContinuationAuthoritySnapshot
deriving DecidableEq

/-- One proposed action.  The last two fields are what private registries hold for the object. -/
structure DeliveryActionProposal where
  admission : DeliveryAdmissionRequirements
  id : DeliveryProposalId
  route : DeliveryRoute
  waitsForLiveOperationId : Option OperationId
  issuedFreshContinuation : Option FreshContinuationProposalAuthority
  issuedAcceptedFreshTask : Option FreshTaskCandidate
deriving DecidableEq

inductive FreshContinuationCommitmentRequirement where
  | freshContinuationCommitmentNotRequired
  | freshContinuationCommitmentMissing
  | freshContinuationCommitmentRequired (commitment : FreshTaskCommitment)
  | replacementContinuationRequired (replacement : ReplacementContinuationAuthority)
deriving DecidableEq

namespace DeliveryActionProposal

def needsFreshCommitment (proposal : DeliveryActionProposal) : Bool :=
  match proposal.route with
  | .freshExecutorWorkflowRoute step => step.tag = .beginPlannedAttemptExecutorWork
  | .freshWorkflowRoute step =>
      step.tag = .readPostClaimGraph || step.tag = .readTaskAttemptBase ||
        step.tag = .readTaskAttemptBaseRetryFacts || step.tag = .readTaskWorkSpecification ||
        step.tag = .recordTaskAttemptPlan || step.tag = .reconcileTaskWorktree
  | _ => false

def continuationStep (proposal : DeliveryActionProposal) : Option FreshWorkflowStep :=
  match proposal.route with
  | .freshWorkflowRoute step | .freshExecutorWorkflowRoute step => some step
  | _ => none

/-- The registered continuation is exactly this step of this proposal. -/
def continuationSnapshotMatches (proposal : DeliveryActionProposal) (step : FreshWorkflowStep) :
    FreshContinuationAuthoritySnapshot → Bool
  | .freshAttemptHandoffAuthority claimOperationId plannedAttempt runId tag taskId =>
      step.tag = tag && step.taskId = taskId &&
        step.continuationClaimOperationIdOrNull = some claimOperationId &&
        proposal.waitsForLiveOperationId = none &&
        step.plannedAttempt?.any fun attempt =>
          attempt.runId = runId && plannedTaskAttemptEquivalence attempt plannedAttempt
  | .freshOperationContinuationAuthority claimOperationId predecessorOperationId tag taskId =>
      step.tag = tag && step.taskId = taskId &&
        step.continuationClaimOperationIdOrNull = some claimOperationId &&
        step.predecessorOperationId? = some predecessorOperationId &&
        proposal.waitsForLiveOperationId = some predecessorOperationId

def freshContinuationCommitmentRequirementOf (proposal : DeliveryActionProposal) :
    FreshContinuationCommitmentRequirement :=
  if !proposal.needsFreshCommitment then .freshContinuationCommitmentNotRequired
  else
    match proposal.issuedFreshContinuation, proposal.continuationStep with
    | some registered, some step =>
        if proposal.continuationSnapshotMatches step registered.continuationSnapshot then
          match registered.authority with
          | .freshCommitmentAuthority commitment => .freshContinuationCommitmentRequired commitment
          | .replacementAuthority replacement => .replacementContinuationRequired replacement
        else .freshContinuationCommitmentMissing
    | _, _ => .freshContinuationCommitmentMissing

def immutableSnapshot (proposal : DeliveryActionProposal) : DeliveryActionProposal :=
  { proposal with issuedFreshContinuation := none, issuedAcceptedFreshTask := none }

def isFreshEntryRoute (proposal : DeliveryActionProposal) : Bool :=
  match proposal.route with
  | .freshWorkflowRoute step => step.tag = .readCurrentTaskGraph || step.tag = .acquireTaskClaim
  | _ => false

def freshBeginAttemptOf (proposal : DeliveryActionProposal) : Option PlannedTaskAttempt :=
  match proposal.route with
  | .freshExecutorWorkflowRoute (.beginPlannedAttemptExecutorWork _ plannedAttempt _) =>
      some plannedAttempt
  | _ => none

end DeliveryActionProposal

end Dalph
