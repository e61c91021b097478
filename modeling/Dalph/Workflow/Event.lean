import Dalph.Workflow.Operation
import Dalph.TaskTracker.RunFinality

/-!
# The closed event vocabulary of the workflow journal

Every journal event with the data its validators read.  Event families whose validators are not
embedded keep their kind, the subject of their record key and the attempts they concern.
-/

namespace Dalph

structure WorkflowRunBegan where
  attemptBasePolicy : Option AttemptBasePolicy
  /-- Task execution capacity of the initial control policy. -/
  initialTaskExecutionCapacity : Nat
  remotePublicationTarget : Payload
  target : TrackerTarget
deriving DecidableEq

structure WorkflowRunTerminated where
  disposition : RunTerminationDisposition
  evidence : RunFinalityEvidence
deriving DecidableEq

structure TaskWorkCapacityChanged where
  capacity : Nat
  previousRevision : Nat
  revision : Nat
deriving DecidableEq

/-- Run or task whose direction the Operator changed. -/
inductive ControlDirectionSubject where
  | run (runId : RunId)
  | task (runId : RunId) (taskId : TaskId)
deriving DecidableEq

def ControlDirectionSubject.runId : ControlDirectionSubject → RunId
  | run runId => runId
  | task runId _ => runId

/-- Pause or Unpause. -/
inductive ControlDirection where
  | pause
  | unpause
deriving DecidableEq

structure ControlDirectionApplied where
  direction : ControlDirection
  ordinal : Nat
  subject : ControlDirectionSubject
deriving DecidableEq

/-- How one attempt whose instructions changed may proceed. -/
inductive AttemptChoice where
  | continueExistingAttempt
  | restartTaskImplementation
  | stopTaskImplementation
deriving DecidableEq

structure AttemptChoiceSubject where
  observedTaskRevision : TaskRevision
  plannedAttempt : PlannedTaskAttempt
deriving DecidableEq

structure AttemptChoiceApplied where
  choice : AttemptChoice
  requestId : RunRequestId
  subject : AttemptChoiceSubject
deriving DecidableEq

/-- Intent recorded before Stop may suspend the executor. -/
structure AttemptStoppageIntended where
  requestId : RunRequestId
  subject : AttemptChoiceSubject
deriving DecidableEq

/-- Quiescence was proved and the implementation is no longer retained. -/
structure AttemptImplementationAbandoned where
  expectedClaim : ActiveTaskClaim
  /-- Ordinal of the accepted report that proves quiescence. -/
  reportOrdinal : Nat
  requestId : RunRequestId
  subject : AttemptChoiceSubject
deriving DecidableEq

/-- Stop must leave an absent or foreign claim unchanged. -/
structure StoppedAttemptClaimNoReleaseObserved where
  expectedClaim : ActiveTaskClaim
  observation : TaskClaimObservation
  observationOperationId : OperationId
  requestId : RunRequestId
  subject : AttemptChoiceSubject
deriving DecidableEq

structure CancelledAttemptImplementationAbandoned where
  authorizedClaim : ActiveTaskClaim
  cancellationAppliedAt : JournalPosition
  plannedAttempt : PlannedTaskAttempt
  reportOrdinal : Nat
deriving DecidableEq

/-- Cancellation must leave an absent or foreign claim unchanged. -/
structure CancelledAttemptClaimNoReleaseObserved where
  cancellationAppliedAt : JournalPosition
  expectedClaim : ActiveTaskClaim
  observation : TaskClaimObservation
  observationOperationId : OperationId
  plannedAttempt : PlannedTaskAttempt
deriving DecidableEq

structure PlannedAttemptContinuationWitness where
  graphObservationOperationId : OperationId
  taskClaimObservationOperationId : OperationId
  taskWorkSpecificationObservationOperationId : OperationId
  targetLineageObservationOperationId : OperationId
  worktreeObservationOperationId : OperationId
deriving DecidableEq

structure PlannedAttemptContinuationAuthorized where
  plannedAttempt : PlannedTaskAttempt
  witness : PlannedAttemptContinuationWitness
deriving DecidableEq

inductive ResultRecoverySubject where
  | rejectedResult (plannedAttempt : PlannedTaskAttempt) (reportOrdinal : Nat)
  | historicalUnknownFailure (plannedAttempt : PlannedTaskAttempt) (reportOrdinal : Nat)
deriving DecidableEq

def ResultRecoverySubject.plannedAttempt : ResultRecoverySubject → PlannedTaskAttempt
  | rejectedResult plannedAttempt _ => plannedAttempt
  | historicalUnknownFailure plannedAttempt _ => plannedAttempt

inductive ResultRecoveryDirection where
  | continueRetainedAttempt
  | restartTaskImplementation
deriving DecidableEq

structure ResultRecoveryDirected where
  direction : ResultRecoveryDirection
  requestId : RunRequestId
  subject : ResultRecoverySubject
deriving DecidableEq

/-- Permission for a new result cycle of retained work. -/
structure ResultRecoveryContinueAuthorized where
  requestId : RunRequestId
  plannedAttempt : PlannedTaskAttempt
  witness : PlannedAttemptContinuationWitness
deriving DecidableEq

/-- One record retains the rejected predecessor and acknowledges its new plan. -/
structure ResultRecoveryAttemptReplaced where
  requestId : RunRequestId
  subject : ResultRecoverySubject
  integrationTarget : IntegrationTarget
  witness : PlannedAttemptContinuationWitness
  /-- The plan whose writers were observed stopped, when that was observed. -/
  writerCustody : Option PlannedTaskAttempt
  successorPlan : PlannedAttemptOperation
deriving DecidableEq

inductive AttemptRestartAuthorityReadFailure where
  | taskFacts (failure : Payload)
  | git (failure : Payload)
deriving DecidableEq

structure AttemptRestartAuthorityReadFailed where
  failure : AttemptRestartAuthorityReadFailure
  operationId : OperationId
  requestId : RunRequestId
  subject : AttemptChoiceSubject
deriving DecidableEq

structure PlannedAttemptReplacementWitness where
  claimObservationOperationId : OperationId
  expectedClaim : ActiveTaskClaim
  graphObservationOperationId : OperationId
  oldWorktreeObservationOperationId : OperationId
  oldWorktreeProof : PlannedWorktreeReady
  reportOrdinal : Nat
  specificationObservationOperationId : OperationId
  targetHeadSha : GitCommitSha
  targetLineageObservationOperationId : OperationId
deriving DecidableEq

/-- One record supersedes an attempt and records its successor's plan. -/
structure PlannedAttemptReplaced where
  requestId : RunRequestId
  subject : AttemptChoiceSubject
  successorPlan : PlannedAttemptOperation
  witness : PlannedAttemptReplacementWitness
deriving DecidableEq

structure TaskClaimReacquisitionDirected where
  requestId : String
  runId : RunId
  taskId : TaskId
deriving DecidableEq

inductive PlannedAttemptExecutorCommand where
  | begin
  | resume
  | suspend
  | continueRejectedResult
deriving DecidableEq

structure PlannedAttemptExecutorCommandIntended where
  command : PlannedAttemptExecutorCommand
  recoveryAuthorization : Option PlannedAttemptResultRecoveryAuthorization
  ordinal : Nat
  plannedAttempt : PlannedTaskAttempt
deriving DecidableEq

structure PlannedAttemptExecutorResumeRedeliveryIntended where
  safeProjectionObservedAt : JournalPosition
  witness : PlannedAttemptContinuationWitness
  commandOrdinal : Nat
  plannedAttempt : PlannedTaskAttempt
  projectionOrdinal : Nat
  redeliveryOrdinal : Nat
deriving DecidableEq

inductive PlannedAttemptExecutorCommandProjectionObservation where
  | exactExecutorReport (report : PlannedAttemptExecutorReport)
  | executorBeginNotCrossed (proofId : String)
  | executorStateNoCurrentReport
  | executorStateTemporarilyUnavailable
  | executorStateUnreadable
  | executorReportContradiction (observed : PlannedAttemptExecutorReport)
deriving DecidableEq

/-- A read-only reconciliation of one unmatched command. -/
structure PlannedAttemptExecutorCommandProjectionObserved where
  commandOrdinal : Nat
  observation : PlannedAttemptExecutorCommandProjectionObservation
  plannedAttempt : PlannedTaskAttempt
  projectionOrdinal : Nat
deriving DecidableEq

structure PlannedAttemptExecutorCommandResponseObserved where
  commandOrdinal : Nat
  plannedAttempt : PlannedTaskAttempt
  report : PlannedAttemptExecutorReport
deriving DecidableEq

structure PlannedAttemptExecutorCommandResponseContradicted where
  commandOrdinal : Nat
  observed : PlannedAttemptExecutorReport
  plannedAttempt : PlannedTaskAttempt
deriving DecidableEq

inductive PlannedAttemptExecutorStateObservation where
  | exactExecutorReport (report : PlannedAttemptExecutorReport)
  | executorStateNoCurrentReport
  | executorStateTemporarilyUnavailable
  | executorStateUnreadable
  | executorReportContradiction (observed : PlannedAttemptExecutorReport)
  | executorInitialReportCausalityContradiction (observed : PlannedAttemptExecutorReport)
  | executorLifecycleTransitionContradiction (accepted observed : PlannedAttemptExecutorReport)
deriving DecidableEq

/-- A read-only observation not owned by an unmatched command. -/
structure PlannedAttemptExecutorStateObserved where
  observation : PlannedAttemptExecutorStateObservation
  ordinal : Nat
  plannedAttempt : PlannedTaskAttempt
deriving DecidableEq

/-- Accepts one lifecycle transition. -/
structure PlannedAttemptExecutorWorkReported where
  ordinal : Nat
  report : PlannedAttemptExecutorReport
deriving DecidableEq

structure IntegrationFinalitySettled where
  originalClaim : ActiveTaskClaim
  plannedAttempt : PlannedTaskAttempt
  promotionRequestId : String
  /-- Qualified candidate of the promotion. -/
  qualifiedCandidate : Payload
  deletionOperationId : OperationId
  replacementOperationId : OperationId
  successObservation : Payload
deriving DecidableEq

inductive CleanupStep where
  | authorized
  | observationIntended
  | observed
  | absenceConfirmed
  | mutationIntended
  | mutationResultRecorded
  | contradicted
  | settled
deriving DecidableEq

/-- Kinds of the events whose validators are not embedded. -/
inductive ProtocolEventKind where
  | executorGuidanceAdmitted
  | executorGuidanceDispatchIntended
  | executorGuidanceObserved
  | taskAttemptBaseRetryRequested
  | integrationResponsibilityBegan
  | integrationStarted
  | integratorSessionFixed
  | integratorSuccessorSessionFixed
  | integratorCompetingHeadSuccessorAuthorized
  | integratorAutomaticSuccessorSessionFixed
  | integratorRunStarted
  | integratorRunResultRecorded
  | integratorRunCandidateGitReadIntended
  | integratorRunCandidateGitObserved
  | remoteBaselineReadIntended
  | remoteBaselineObserved
  | localTargetCatchUpIntended
  | localTargetCatchUpObserved
  | remotePublicationAdmissionReadIntended
  | remotePublicationAdmissionObserved
  | remotePublicationIntended
  | remotePublicationAttemptIntended
  | remotePublicationSucceeded
  | remotePublicationAttemptRejectedNonFastForward
  | remotePublicationRetained
  | remotePublicationResumeRequested
  | remotePublicationBatchGrantApplied
  | worktreeCleanup (step : CleanupStep)
  | branchCleanup (step : CleanupStep)
  | integratorCandidateCleanup (step : CleanupStep)
  | targetPromotionIntended
  | targetPromotionAttemptIntended
  | targetPromotionSafetyRefused
  | targetPromotionReconciliationDeferred
  | targetPromotionObservedSuccess
  | targetPromotionStale
  | targetPromotionNonConvergence
  | completionClaimReplacementIntended
  | completionClaimReplacementAttemptIntended
  | completionClaimReplaced
  | completionClaimDeletionIntended
  | completionClaimDeletionAttemptIntended
  | completionClaimDeletionReadObserved
  | completionClaimDeleted
  | postPromotionBlockerCandidateAncestryReadIntended
  | postPromotionBlockerCandidateAncestryObserved
  | integrationQuarantined
  | integrationProviderRunActivityAbsent
  | integrationQuarantineDirectionApplied
  | completionTaskIntended
  | completionTaskAttemptIntended
  | completionTaskAcknowledged
  | completionTaskResponseLost
  | completionTaskRejected
  | completionTaskCandidateAncestryReadIntended
  | completionTaskCandidateAncestryObserved
  | completionTaskRequestLookupIntended
  | completionTaskRequestLookupObserved
deriving DecidableEq

/-- One event of a family whose validators are not embedded. -/
structure ProtocolEvent where
  kind : ProtocolEventKind
  /-- Part of the record key after the prefix of its kind. -/
  keySubject : String
  attemptIds : List AttemptId
  payload : Payload
deriving DecidableEq

/-- Closed vocabulary of the workflow journal. -/
inductive WorkflowJournalEvent where
  | workflowRunBegan (event : WorkflowRunBegan)
  | workflowRunTerminated (event : WorkflowRunTerminated)
  | runCancellationApplied
  | cancelledAttemptImplementationAbandoned (event : CancelledAttemptImplementationAbandoned)
  | cancelledAttemptClaimNoReleaseObserved (event : CancelledAttemptClaimNoReleaseObserved)
  | taskWorkCapacityChanged (event : TaskWorkCapacityChanged)
  | controlDirectionApplied (event : ControlDirectionApplied)
  | attemptChoiceApplied (event : AttemptChoiceApplied)
  | resultRecoveryDirected (event : ResultRecoveryDirected)
  | resultRecoveryContinueAuthorized (event : ResultRecoveryContinueAuthorized)
  | resultRecoveryAttemptReplaced (event : ResultRecoveryAttemptReplaced)
  | attemptRestartAuthorityReadFailed (event : AttemptRestartAuthorityReadFailed)
  | plannedAttemptReplaced (event : PlannedAttemptReplaced)
  | attemptStoppageIntended (event : AttemptStoppageIntended)
  | attemptImplementationAbandoned (event : AttemptImplementationAbandoned)
  | stoppedAttemptClaimNoReleaseObserved (event : StoppedAttemptClaimNoReleaseObserved)
  | taskClaimReacquisitionDirected (event : TaskClaimReacquisitionDirected)
  | taskTrackerReadIntentRecorded (operation : TaskTrackerReadOperation)
  | taskTrackerFactsObserved (observation : TaskTrackerFactsObservation)
  | taskClaimAcquisitionIntended (operation : AcquireTaskClaimOperation)
  | taskClaimAcquired (claim : ActiveTaskClaim)
  | taskClaimAcquisitionRejected (operationId : OperationId) (observed : ActiveTaskClaim)
  | taskClaimReleaseIntended (operation : ReleaseTaskClaimOperation)
  | taskClaimReleased (release : TaskClaimRelease)
  | taskAttemptPlanned (operation : PlannedAttemptOperation)
  | taskAttemptBaseReadIntended (operation : ReadTaskAttemptBaseOperation)
  | taskAttemptBaseObserved (operationId : OperationId)
      (observation : TaskAttemptBaseObservation)
  | taskWorktreeReconciliationIntended (operation : PlannedAttemptOperation)
  | taskWorktreeReady (operationId : OperationId) (proof : PlannedWorktreeReady)
  | gitReadIntentRecorded (operation : GitReadOperation)
  | plannedAttemptWorktreeObserved (operationId : OperationId)
      (observation : PlannedAttemptWorktreeObservation)
  | targetLineageObserved (operationId : OperationId) (plannedAttempt : PlannedTaskAttempt)
      (observation : TargetLineageObservation)
  | plannedAttemptContinuationAuthorized (event : PlannedAttemptContinuationAuthorized)
  | plannedAttemptExecutorWorkResponsibilityBegan (plannedAttempt : PlannedTaskAttempt)
  | plannedAttemptExecutorCommandIntended (event : PlannedAttemptExecutorCommandIntended)
  | plannedAttemptExecutorResumeRedeliveryIntended
      (event : PlannedAttemptExecutorResumeRedeliveryIntended)
  | plannedAttemptExecutorCommandProjectionObserved
      (event : PlannedAttemptExecutorCommandProjectionObserved)
  | plannedAttemptExecutorCommandResponseObserved
      (event : PlannedAttemptExecutorCommandResponseObserved)
  | plannedAttemptExecutorCommandResponseContradicted
      (event : PlannedAttemptExecutorCommandResponseContradicted)
  | plannedAttemptExecutorStateObserved (event : PlannedAttemptExecutorStateObserved)
  | plannedAttemptExecutorWorkReported (event : PlannedAttemptExecutorWorkReported)
  | integrationFinalitySettled (event : IntegrationFinalitySettled)
  | protocol (event : ProtocolEvent)
deriving DecidableEq

/-- Name of an event kind. -/
inductive WorkflowJournalEventTag where
  | workflowRunBegan
  | workflowRunTerminated
  | runCancellationApplied
  | cancelledAttemptImplementationAbandoned
  | cancelledAttemptClaimNoReleaseObserved
  | taskWorkCapacityChanged
  | controlDirectionApplied
  | attemptChoiceApplied
  | resultRecoveryDirected
  | resultRecoveryContinueAuthorized
  | resultRecoveryAttemptReplaced
  | attemptRestartAuthorityReadFailed
  | plannedAttemptReplaced
  | attemptStoppageIntended
  | attemptImplementationAbandoned
  | stoppedAttemptClaimNoReleaseObserved
  | taskClaimReacquisitionDirected
  | taskTrackerReadIntentRecorded
  | taskTrackerFactsObserved
  | taskClaimAcquisitionIntended
  | taskClaimAcquired
  | taskClaimAcquisitionRejected
  | taskClaimReleaseIntended
  | taskClaimReleased
  | taskAttemptPlanned
  | taskAttemptBaseReadIntended
  | taskAttemptBaseObserved
  | taskWorktreeReconciliationIntended
  | taskWorktreeReady
  | gitReadIntentRecorded
  | plannedAttemptWorktreeObserved
  | targetLineageObserved
  | plannedAttemptContinuationAuthorized
  | plannedAttemptExecutorWorkResponsibilityBegan
  | plannedAttemptExecutorCommandIntended
  | plannedAttemptExecutorResumeRedeliveryIntended
  | plannedAttemptExecutorCommandProjectionObserved
  | plannedAttemptExecutorCommandResponseObserved
  | plannedAttemptExecutorCommandResponseContradicted
  | plannedAttemptExecutorStateObserved
  | plannedAttemptExecutorWorkReported
  | integrationFinalitySettled
  | protocol (kind : ProtocolEventKind)
deriving DecidableEq

namespace WorkflowJournalEvent

def tag : WorkflowJournalEvent → WorkflowJournalEventTag
  | workflowRunBegan _ => .workflowRunBegan
  | workflowRunTerminated _ => .workflowRunTerminated
  | runCancellationApplied => .runCancellationApplied
  | cancelledAttemptImplementationAbandoned _ => .cancelledAttemptImplementationAbandoned
  | cancelledAttemptClaimNoReleaseObserved _ => .cancelledAttemptClaimNoReleaseObserved
  | taskWorkCapacityChanged _ => .taskWorkCapacityChanged
  | controlDirectionApplied _ => .controlDirectionApplied
  | attemptChoiceApplied _ => .attemptChoiceApplied
  | resultRecoveryDirected _ => .resultRecoveryDirected
  | resultRecoveryContinueAuthorized _ => .resultRecoveryContinueAuthorized
  | resultRecoveryAttemptReplaced _ => .resultRecoveryAttemptReplaced
  | attemptRestartAuthorityReadFailed _ => .attemptRestartAuthorityReadFailed
  | plannedAttemptReplaced _ => .plannedAttemptReplaced
  | attemptStoppageIntended _ => .attemptStoppageIntended
  | attemptImplementationAbandoned _ => .attemptImplementationAbandoned
  | stoppedAttemptClaimNoReleaseObserved _ => .stoppedAttemptClaimNoReleaseObserved
  | taskClaimReacquisitionDirected _ => .taskClaimReacquisitionDirected
  | taskTrackerReadIntentRecorded _ => .taskTrackerReadIntentRecorded
  | taskTrackerFactsObserved _ => .taskTrackerFactsObserved
  | taskClaimAcquisitionIntended _ => .taskClaimAcquisitionIntended
  | taskClaimAcquired _ => .taskClaimAcquired
  | taskClaimAcquisitionRejected _ _ => .taskClaimAcquisitionRejected
  | taskClaimReleaseIntended _ => .taskClaimReleaseIntended
  | taskClaimReleased _ => .taskClaimReleased
  | taskAttemptPlanned _ => .taskAttemptPlanned
  | taskAttemptBaseReadIntended _ => .taskAttemptBaseReadIntended
  | taskAttemptBaseObserved _ _ => .taskAttemptBaseObserved
  | taskWorktreeReconciliationIntended _ => .taskWorktreeReconciliationIntended
  | taskWorktreeReady _ _ => .taskWorktreeReady
  | gitReadIntentRecorded _ => .gitReadIntentRecorded
  | plannedAttemptWorktreeObserved _ _ => .plannedAttemptWorktreeObserved
  | targetLineageObserved _ _ _ => .targetLineageObserved
  | plannedAttemptContinuationAuthorized _ => .plannedAttemptContinuationAuthorized
  | plannedAttemptExecutorWorkResponsibilityBegan _ => .plannedAttemptExecutorWorkResponsibilityBegan
  | plannedAttemptExecutorCommandIntended _ => .plannedAttemptExecutorCommandIntended
  | plannedAttemptExecutorResumeRedeliveryIntended _ => .plannedAttemptExecutorResumeRedeliveryIntended
  | plannedAttemptExecutorCommandProjectionObserved _ => .plannedAttemptExecutorCommandProjectionObserved
  | plannedAttemptExecutorCommandResponseObserved _ => .plannedAttemptExecutorCommandResponseObserved
  | plannedAttemptExecutorCommandResponseContradicted _ => .plannedAttemptExecutorCommandResponseContradicted
  | plannedAttemptExecutorStateObserved _ => .plannedAttemptExecutorStateObserved
  | plannedAttemptExecutorWorkReported _ => .plannedAttemptExecutorWorkReported
  | integrationFinalitySettled _ => .integrationFinalitySettled
  | protocol event => .protocol event.kind

end WorkflowJournalEvent

end Dalph
