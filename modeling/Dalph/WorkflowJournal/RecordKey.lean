import Dalph.Workflow.Event

/-!
# Record keys and event descriptors

Every event determines the key under which its record is stored, and the causal facts that history
validation checks for it.
-/

namespace Dalph

def workflowRunBeganRecordKey : JournalRecordKey := { value := "run:began" }

def workflowRunTerminatedRecordKey : JournalRecordKey := { value := "run:terminated" }

def runCancellationAppliedRecordKey : JournalRecordKey := { value := "run:cancellation:applied" }

def intentRecordKey (operationId : OperationId) : JournalRecordKey :=
  { value := s!"operation:{operationId.value}:intent" }

def outcomeRecordKey (operationId : OperationId) : JournalRecordKey :=
  { value := s!"operation:{operationId.value}:outcome" }

def attemptRestartAuthorityReadFailedRecordKey (operationId : OperationId) : JournalRecordKey :=
  { value := s!"operation:{operationId.value}:restart-authority-read-failed" }

def taskWorkCapacityPolicyRecordKey (revision : Nat) : JournalRecordKey :=
  { value := s!"run-policy:{revision}:task-work-capacity" }

def controlDirectionAppliedRecordKey (ordinal : Nat) : JournalRecordKey :=
  { value := s!"control-direction:{ordinal}:applied" }

def taskClaimReacquisitionDirectedRecordKey (requestId : String) : JournalRecordKey :=
  { value := s!"task-claim-reacquisition:{requestId}:directed" }

def attemptChoiceAppliedRecordKey (requestId : RunRequestId) : JournalRecordKey :=
  { value := s!"attempt-choice:{requestId.nonce}:applied" }

def attemptStoppageRecordKey (requestId : RunRequestId) (step : String) : JournalRecordKey :=
  { value := s!"attempt-stoppage:{requestId.nonce}:{step}" }

def attemptStoppageIntentRecordKey (requestId : RunRequestId) : JournalRecordKey :=
  attemptStoppageRecordKey requestId "intent"

def attemptImplementationAbandonedRecordKey (requestId : RunRequestId) : JournalRecordKey :=
  attemptStoppageRecordKey requestId "implementation-abandoned"

def stoppedAttemptClaimNoReleaseRecordKey (requestId : RunRequestId) : JournalRecordKey :=
  attemptStoppageRecordKey requestId "claim-no-release"

def cancelledAttemptRecordKey (attemptId : AttemptId) (step : String) : JournalRecordKey :=
  { value := s!"cancelled-attempt:{attemptId.value}:{step}" }

def cancelledAttemptImplementationAbandonedRecordKey (attemptId : AttemptId) : JournalRecordKey :=
  cancelledAttemptRecordKey attemptId "implementation-relinquished"

def cancelledAttemptClaimNoReleaseRecordKey (attemptId : AttemptId) : JournalRecordKey :=
  cancelledAttemptRecordKey attemptId "claim-no-release"

def resultRecoveryRecordKey (requestId : RunRequestId) (step : String) : JournalRecordKey :=
  { value := s!"result-recovery:{requestId.nonce}:{step}" }

def resultRecoveryDirectedRecordKey (requestId : RunRequestId) : JournalRecordKey :=
  resultRecoveryRecordKey requestId "directed"

def resultRecoveryContinueAuthorizedRecordKey (requestId : RunRequestId) : JournalRecordKey :=
  resultRecoveryRecordKey requestId "continue-authorized"

def resultRecoveryAttemptReplacedRecordKey (attemptId : AttemptId) : JournalRecordKey :=
  { value := s!"result-recovery-replacement:{attemptId.value}" }

def attemptRecordKey (attemptId : AttemptId) (fact : String) : JournalRecordKey :=
  { value := s!"attempt:{attemptId.value}:{fact}" }

def attemptPlanRecordKey (attemptId : AttemptId) : JournalRecordKey :=
  attemptRecordKey attemptId "plan"

def plannedAttemptReplacedRecordKey (attemptId : AttemptId) : JournalRecordKey :=
  attemptRecordKey attemptId "replaced"

def plannedAttemptExecutorWorkResponsibilityBeganRecordKey (attemptId : AttemptId) :
    JournalRecordKey :=
  attemptRecordKey attemptId "executor-work-responsibility-began"

def plannedAttemptContinuationAuthorizedRecordKey (attemptId : AttemptId)
    (witness : PlannedAttemptContinuationWitness) : JournalRecordKey :=
  let witnessOperationIds :=
    [witness.graphObservationOperationId, witness.taskClaimObservationOperationId,
      witness.taskWorkSpecificationObservationOperationId,
      witness.targetLineageObservationOperationId, witness.worktreeObservationOperationId]
  let sortedIds := (witnessOperationIds.map (·.value)).insertionSort (· ≤ ·)
  attemptRecordKey attemptId ("continuation-authorized:" ++ String.intercalate ":" sortedIds)

def plannedAttemptExecutorCommandIntendedRecordKey (attemptId : AttemptId) (ordinal : Nat) :
    JournalRecordKey :=
  attemptRecordKey attemptId s!"executor-command:{ordinal}:intent"

def plannedAttemptExecutorCommandProjectionObservedRecordKey (attemptId : AttemptId)
    (commandOrdinal projectionOrdinal : Nat) : JournalRecordKey :=
  attemptRecordKey attemptId
    s!"executor-command:{commandOrdinal}:projection:{projectionOrdinal}:observation"

def plannedAttemptExecutorResumeRedeliveryIntendedRecordKey (attemptId : AttemptId)
    (commandOrdinal redeliveryOrdinal : Nat) : JournalRecordKey :=
  attemptRecordKey attemptId
    s!"executor-command:{commandOrdinal}:resume-redelivery:{redeliveryOrdinal}:intent"

def plannedAttemptExecutorCommandResponseContradictedRecordKey (attemptId : AttemptId)
    (commandOrdinal : Nat) : JournalRecordKey :=
  attemptRecordKey attemptId s!"executor-command:{commandOrdinal}:response-contradiction"

def plannedAttemptExecutorCommandResponseObservedRecordKey (attemptId : AttemptId)
    (commandOrdinal : Nat) : JournalRecordKey :=
  attemptRecordKey attemptId s!"executor-command:{commandOrdinal}:response-observation"

def plannedAttemptExecutorWorkReportedRecordKey (attemptId : AttemptId) (ordinal : Nat) :
    JournalRecordKey :=
  attemptRecordKey attemptId s!"executor-work-report:{ordinal}"

def plannedAttemptExecutorStateObservedRecordKey (attemptId : AttemptId) (ordinal : Nat) :
    JournalRecordKey :=
  attemptRecordKey attemptId s!"executor-state-observation:{ordinal}"

def integrationFinalitySettledRecordKey (requestId : String) : JournalRecordKey :=
  { value := s!"integration-finality:{requestId}:settled" }

def ProtocolEventKind.keyPrefix : ProtocolEventKind → String
  | executorGuidanceAdmitted | executorGuidanceDispatchIntended | executorGuidanceObserved =>
      "executor-guidance:"
  | taskAttemptBaseRetryRequested => "task-attempt-base-retry:"
  | integrationResponsibilityBegan | integrationStarted => "attempt:"
  | integratorSessionFixed | integratorSuccessorSessionFixed
  | integratorCompetingHeadSuccessorAuthorized | integratorAutomaticSuccessorSessionFixed
  | integratorRunStarted | integratorRunResultRecorded | integratorRunCandidateGitReadIntended
  | integratorRunCandidateGitObserved => "integrator:"
  | remoteBaselineReadIntended | remoteBaselineObserved | localTargetCatchUpIntended
  | localTargetCatchUpObserved => "remote-baseline:"
  | remotePublicationAdmissionReadIntended | remotePublicationAdmissionObserved =>
      "remote-publication-admission:"
  | remotePublicationIntended | remotePublicationAttemptIntended | remotePublicationSucceeded
  | remotePublicationAttemptRejectedNonFastForward => "remote-publication:"
  -- a first retention and one after a resume or a batch grant continue differently
  | remotePublicationRetained => "remote-publication"
  | remotePublicationResumeRequested => "remote-publication-resume:"
  | remotePublicationBatchGrantApplied => "remote-publication-batch-grant:"
  | worktreeCleanup _ | branchCleanup _ | integratorCandidateCleanup _ => "disposition-cleanup:"
  | targetPromotionIntended | targetPromotionAttemptIntended | targetPromotionSafetyRefused
  | targetPromotionReconciliationDeferred | targetPromotionObservedSuccess
  | targetPromotionStale | targetPromotionNonConvergence => "target-promotion:"
  | completionClaimReplacementIntended | completionClaimReplacementAttemptIntended
  | completionClaimReplaced | completionClaimDeletionIntended
  | completionClaimDeletionAttemptIntended | completionClaimDeletionReadObserved
  | completionClaimDeleted => "completion-claim:"
  | postPromotionBlockerCandidateAncestryReadIntended
  | postPromotionBlockerCandidateAncestryObserved => "operation:"
  | integrationQuarantined | integrationProviderRunActivityAbsent => "integration-quarantine:"
  | integrationQuarantineDirectionApplied => "integration-quarantine-direction:"
  | completionTaskIntended | completionTaskAttemptIntended | completionTaskAcknowledged
  | completionTaskResponseLost | completionTaskRejected
  | completionTaskCandidateAncestryReadIntended | completionTaskCandidateAncestryObserved
  | completionTaskRequestLookupIntended | completionTaskRequestLookupObserved =>
      "completion-task:"

theorem ProtocolEventKind.keyPrefix_ne_empty (kind : ProtocolEventKind) : kind.keyPrefix ≠ "" := by
  cases kind <;> simp [keyPrefix]

namespace WorkflowJournalEvent

/-- Storage identity derived from an event. -/
def expectedKey : WorkflowJournalEvent → JournalRecordKey
  | workflowRunBegan _ => workflowRunBeganRecordKey
  | workflowRunTerminated _ => workflowRunTerminatedRecordKey
  | runCancellationApplied => runCancellationAppliedRecordKey
  | cancelledAttemptImplementationAbandoned event =>
      cancelledAttemptImplementationAbandonedRecordKey event.plannedAttempt.attemptId
  | cancelledAttemptClaimNoReleaseObserved event =>
      cancelledAttemptClaimNoReleaseRecordKey event.plannedAttempt.attemptId
  | taskWorkCapacityChanged event => taskWorkCapacityPolicyRecordKey event.revision
  | controlDirectionApplied event => controlDirectionAppliedRecordKey event.ordinal
  | attemptChoiceApplied event => attemptChoiceAppliedRecordKey event.requestId
  | resultRecoveryDirected event => resultRecoveryDirectedRecordKey event.requestId
  | resultRecoveryContinueAuthorized event =>
      resultRecoveryContinueAuthorizedRecordKey event.requestId
  | resultRecoveryAttemptReplaced event =>
      resultRecoveryAttemptReplacedRecordKey event.subject.plannedAttempt.attemptId
  | attemptRestartAuthorityReadFailed event =>
      attemptRestartAuthorityReadFailedRecordKey event.operationId
  | plannedAttemptReplaced event =>
      plannedAttemptReplacedRecordKey event.subject.plannedAttempt.attemptId
  | attemptStoppageIntended event => attemptStoppageIntentRecordKey event.requestId
  | attemptImplementationAbandoned event =>
      attemptImplementationAbandonedRecordKey event.requestId
  | stoppedAttemptClaimNoReleaseObserved event =>
      stoppedAttemptClaimNoReleaseRecordKey event.requestId
  | taskClaimReacquisitionDirected event => taskClaimReacquisitionDirectedRecordKey event.requestId
  | taskTrackerReadIntentRecorded operation => intentRecordKey operation.operationId
  | taskTrackerFactsObserved observation => outcomeRecordKey observation.operationId
  | taskClaimAcquisitionIntended operation => intentRecordKey operation.acquisition.operationId
  | taskClaimAcquired claim => outcomeRecordKey claim.operationId
  | taskClaimAcquisitionRejected operationId _ => outcomeRecordKey operationId
  | taskClaimReleaseIntended operation => intentRecordKey operation.release.operationId
  | taskClaimReleased release => outcomeRecordKey release.operationId
  | taskAttemptPlanned operation => attemptPlanRecordKey operation.plannedAttempt.attemptId
  | taskAttemptBaseReadIntended operation => intentRecordKey operation.operationId
  | taskAttemptBaseObserved operationId _ => outcomeRecordKey operationId
  | taskWorktreeReconciliationIntended operation => intentRecordKey operation.operationId
  | taskWorktreeReady operationId _ => outcomeRecordKey operationId
  | gitReadIntentRecorded operation => intentRecordKey operation.operation.operationId
  | plannedAttemptWorktreeObserved operationId _ => outcomeRecordKey operationId
  | targetLineageObserved operationId _ _ => outcomeRecordKey operationId
  | plannedAttemptContinuationAuthorized event =>
      plannedAttemptContinuationAuthorizedRecordKey event.plannedAttempt.attemptId event.witness
  | plannedAttemptExecutorWorkResponsibilityBegan plannedAttempt =>
      plannedAttemptExecutorWorkResponsibilityBeganRecordKey plannedAttempt.attemptId
  | plannedAttemptExecutorCommandIntended event =>
      plannedAttemptExecutorCommandIntendedRecordKey event.plannedAttempt.attemptId event.ordinal
  | plannedAttemptExecutorResumeRedeliveryIntended event =>
      plannedAttemptExecutorResumeRedeliveryIntendedRecordKey event.plannedAttempt.attemptId
        event.commandOrdinal event.redeliveryOrdinal
  | plannedAttemptExecutorCommandProjectionObserved event =>
      plannedAttemptExecutorCommandProjectionObservedRecordKey event.plannedAttempt.attemptId
        event.commandOrdinal event.projectionOrdinal
  | plannedAttemptExecutorCommandResponseObserved event =>
      plannedAttemptExecutorCommandResponseObservedRecordKey event.plannedAttempt.attemptId
        event.commandOrdinal
  | plannedAttemptExecutorCommandResponseContradicted event =>
      plannedAttemptExecutorCommandResponseContradictedRecordKey event.plannedAttempt.attemptId
        event.commandOrdinal
  | plannedAttemptExecutorStateObserved event =>
      plannedAttemptExecutorStateObservedRecordKey event.plannedAttempt.attemptId event.ordinal
  | plannedAttemptExecutorWorkReported event =>
      plannedAttemptExecutorWorkReportedRecordKey event.report.correlation.attemptId event.ordinal
  | integrationFinalitySettled event =>
      integrationFinalitySettledRecordKey event.promotionRequestId
  | protocol event =>
      { value := event.kind.keyPrefix ++ event.keySubject
        nonempty := by simp [event.kind.keyPrefix_ne_empty] }

def executorCorrelation? : WorkflowJournalEvent → Option PlannedAttemptExecutorCorrelation
  | plannedAttemptExecutorWorkResponsibilityBegan plannedAttempt =>
      some (plannedAttemptExecutorCorrelation plannedAttempt)
  | plannedAttemptExecutorCommandIntended event =>
      some (plannedAttemptExecutorCorrelation event.plannedAttempt)
  | plannedAttemptExecutorResumeRedeliveryIntended event =>
      some (plannedAttemptExecutorCorrelation event.plannedAttempt)
  | plannedAttemptExecutorCommandProjectionObserved event =>
      some (plannedAttemptExecutorCorrelation event.plannedAttempt)
  | plannedAttemptExecutorCommandResponseObserved event =>
      some (plannedAttemptExecutorCorrelation event.plannedAttempt)
  | plannedAttemptExecutorCommandResponseContradicted event =>
      some (plannedAttemptExecutorCorrelation event.plannedAttempt)
  | plannedAttemptExecutorStateObserved event =>
      some (plannedAttemptExecutorCorrelation event.plannedAttempt)
  | plannedAttemptExecutorWorkReported event => some event.report.correlation
  | _ => none

end WorkflowJournalEvent

def StartsWith (text first : String) : Prop :=
  first.toList <+: text.toList

namespace StartsWith

variable {text first other : String}

theorem refl (first : String) : StartsWith first first :=
  List.prefix_rfl

theorem append (starts : StartsWith text first) (more : String) :
    StartsWith (text ++ more) first := by
  refine List.IsPrefix.trans starts ?_
  rw [String.toList_append]
  exact List.prefix_append _ _

theorem ne (starts : StartsWith text first)
    (differs : first.toList.isPrefixOf other.toList = false) : text ≠ other := by
  rintro rfl
  rw [List.isPrefixOf_iff_prefix.mpr starts] at differs
  cases differs

end StartsWith

theorem ProtocolEventKind.keyPrefix_not_terminated (kind : ProtocolEventKind) :
    kind.keyPrefix.toList.isPrefixOf workflowRunTerminatedRecordKey.value.toList = false := by
  cases kind with
  | worktreeCleanup step | branchCleanup step | integratorCandidateCleanup step =>
      cases step <;> decide
  | _ => decide

theorem WorkflowJournalEvent.expectedKey_eq_terminated {event : WorkflowJournalEvent}
    (same : event.expectedKey = workflowRunTerminatedRecordKey) :
    event.tag = .workflowRunTerminated := by
  have text := congrArg JournalRecordKey.value same
  cases event with
  | workflowRunTerminated event => rfl
  | protocol event =>
      cases StartsWith.ne ((StartsWith.refl _).append _)
        (ProtocolEventKind.keyPrefix_not_terminated event.kind) text
  | workflowRunBegan event =>
      exact absurd text (by decide : workflowRunBeganRecordKey.value ≠ _)
  | runCancellationApplied =>
      exact absurd text (by decide : runCancellationAppliedRecordKey.value ≠ _)
  | _ =>
      apply absurd text
      apply StartsWith.ne
      · repeat apply StartsWith.append
        exact StartsWith.refl _
      · decide

end Dalph
