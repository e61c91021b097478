import Dalph.TaskTracker.Facts

/-!
# Workflow operations

The tracker, claim, plan and Git operations that the workflow journal records before their effects.
Each names the operations that causally precede it.
-/

namespace Dalph

inductive TrackerGraphReadCause where
  | workflowEstablishment
  | attemptContinuation
  | attemptRestartAuthorityCheck
  | executingWorkAuthorityCheck
  | postQuiescenceReconfirmation (quiescentGraphOperationId : OperationId)
  | postPromotionFinalityCheck (promotionRequestId : String)
  | taskControlMembershipCheck
deriving DecidableEq

structure ReadTrackerGraphOperation where
  cause : TrackerGraphReadCause
  operationId : OperationId
  predecessorOperationIds : List OperationId
  /-- Subjects that the target closure names explicitly. -/
  explicitlyCoveredTaskIds : List TaskId
  target : TrackerTarget
deriving DecidableEq

structure FocusedTaskReadOperation where
  operationId : OperationId
  predecessorOperationIds : List OperationId
  target : TrackerTarget
  taskId : TaskId
deriving DecidableEq

structure ReadCompletionTaskFactsOperation where
  operationId : OperationId
  predecessorOperationIds : List OperationId
  purpose : Payload
  request : Payload
  target : TrackerTarget
deriving DecidableEq

inductive TaskTrackerReadOperation where
  | readCompletionTaskFacts (operation : ReadCompletionTaskFactsOperation)
  | readTaskClaim (operation : FocusedTaskReadOperation)
  | readTrackerGraph (operation : ReadTrackerGraphOperation)
  | readTaskWorkSpecification (operation : FocusedTaskReadOperation)
deriving DecidableEq

namespace TaskTrackerReadOperation

def operationId : TaskTrackerReadOperation → OperationId
  | readCompletionTaskFacts operation => operation.operationId
  | readTaskClaim operation => operation.operationId
  | readTrackerGraph operation => operation.operationId
  | readTaskWorkSpecification operation => operation.operationId

def predecessorOperationIds : TaskTrackerReadOperation → List OperationId
  | readCompletionTaskFacts operation => operation.predecessorOperationIds
  | readTaskClaim operation => operation.predecessorOperationIds
  | readTrackerGraph operation => operation.predecessorOperationIds
  | readTaskWorkSpecification operation => operation.predecessorOperationIds

def target : TaskTrackerReadOperation → TrackerTarget
  | readCompletionTaskFacts operation => operation.target
  | readTaskClaim operation => operation.target
  | readTrackerGraph operation => operation.target
  | readTaskWorkSpecification operation => operation.target

def graph? : TaskTrackerReadOperation → Option ReadTrackerGraphOperation
  | readTrackerGraph operation => some operation
  | _ => none

end TaskTrackerReadOperation

def factFamilyCoverageMatchesExplicitTaskIds (evidence : List CompleteFactEvidence)
    (explicitlyCoveredTaskIds : List TaskId) : Bool :=
  evidence.all fun family =>
    exactTaskIdSetKey family.coverage.explicitlyCoveredTaskIds =
      exactTaskIdSetKey explicitlyCoveredTaskIds

def completeGraphMatchesRead (evidence : List CompleteFactEvidence) :
    TaskTrackerReadOperation → Bool
  | .readTrackerGraph operation =>
      factFamilyCoverageMatchesExplicitTaskIds evidence operation.explicitlyCoveredTaskIds
  | _ => false

/-- The observation answers the exact initiating read. -/
def taskTrackerObservationMatchesRead (observation : TaskTrackerFactsObservation)
    (operation : TaskTrackerReadOperation) : Bool :=
  taskTrackerTargetKey operation.target = taskTrackerTargetKey observation.target &&
    match observation, operation with
    | .completeTaskTrackerFacts facts, read =>
        completeGraphMatchesRead facts.factFamilies.evidence read
    | .unchangedTaskTrackerFactsReconfirmed facts, read =>
        completeGraphMatchesRead facts.factFamilies.evidence read
    | .focusedTaskClaimFacts facts, .readTaskClaim read => read.taskId = facts.observation.taskId
    | .focusedTaskClaimFactsUnreadable _ _ taskId, .readTaskClaim read => read.taskId = taskId
    | .focusedTaskCompletionFacts _ _ request purpose _, .readCompletionTaskFacts read =>
        read.request = request ∧ read.purpose = purpose
    | .focusedTaskWorkSpecificationFacts facts, .readTaskWorkSpecification read =>
        read.taskId = facts.taskId
    | .taskTrackerFactsReadFailed operationId _ _, .readTrackerGraph read =>
        read.operationId = operationId
    | _, _ => false

inductive TaskClaimAcquisitionAuthority where
  | explicitTaskClaimReacquisition (requestId : String)
  | taskSelection
deriving DecidableEq

structure AcquireTaskClaimOperation where
  acquisition : TaskClaimAcquisition
  authority : TaskClaimAcquisitionAuthority
  predecessorOperationIds : List OperationId
deriving DecidableEq

structure RunRequestId where
  nonce : String
  runId : RunId
deriving DecidableEq

inductive TaskClaimReleaseAuthority where
  | cancelledAttempt (cancellationAppliedAt implementationAbandonedAt : JournalPosition)
      (observationOperationId : OperationId)
  | stoppedAttempt (observationOperationId : OperationId) (requestId : RunRequestId)
  | workflow
deriving DecidableEq

structure ReleaseTaskClaimOperation where
  authority : TaskClaimReleaseAuthority
  predecessorOperationIds : List OperationId
  release : TaskClaimRelease
deriving DecidableEq

/-- One operation about an immutable plan: recording it, or reconciling or reading its worktree. -/
structure PlannedAttemptOperation where
  operationId : OperationId
  plannedAttempt : PlannedTaskAttempt
  predecessorOperationIds : List OperationId
deriving DecidableEq

/-- Run-owned rule that selects the base of new attempts. -/
inductive AttemptBasePolicy where
  | qualifiedCurrentIntegrationHead (executionRepository : String)
      (integrationTarget : IntegrationTarget) (lineageAnchor : GitCommitSha)
  | explicitFixedBase (baseSha : GitCommitSha)
deriving DecidableEq

structure ReadTaskAttemptBaseOperation where
  retryRequestId : Option Payload
  claimOperationId : OperationId
  operationId : OperationId
  policy : AttemptBasePolicy
  predecessorOperationIds : List OperationId
  taskId : TaskId
  taskRevision : TaskRevision
deriving DecidableEq

inductive TaskAttemptBaseObservation where
  | qualified (baseSha : GitCommitSha)
  | refused (detail : Payload)
deriving DecidableEq

inductive GitReadOperation where
  | readTaskWorktree (operation : PlannedAttemptOperation)
  | readTargetLineage (operation : PlannedAttemptOperation)
      (integrationTarget : IntegrationTarget)
deriving DecidableEq

def GitReadOperation.operation : GitReadOperation → PlannedAttemptOperation
  | readTaskWorktree operation => operation
  | readTargetLineage operation _ => operation

/-- Proof that Git's current head of the planned worktree descends from the planned base. -/
structure PlannedWorktreeReady where
  baseSha : GitCommitSha
  branch : String
  headSha : GitCommitSha
  worktree : String
deriving DecidableEq

inductive PlannedAttemptWorktreeObservation where
  | plannedWorktreeReady (proof : PlannedWorktreeReady)
  | attemptWorktreeLost (plannedAttempt : PlannedTaskAttempt)
  | untrackedWorktreePath (worktree : String)
  | foreignWorktreeRegistration (branch plannedWorktree : String)
  | conflictingWorktreeRegistration (plannedBranch worktree : String)
  | competingWorktreeRegistrations (plannedBranch plannedWorktree : String)
  | worktreeBaseMismatch (baseSha : GitCommitSha) (branch worktree : String)
  | contradictoryWorktreeState (worktree : String)
deriving DecidableEq

/-- Target head and its relationship to one planned base. -/
structure TargetLineageObservation where
  plannedBaseIsAncestorOfTargetHead : Bool
  plannedBaseSha : GitCommitSha
  targetHeadSha : GitCommitSha
deriving DecidableEq

end Dalph
