import Dalph.Workflow.Event
import Dalph.WorkflowJournal.StoragePayload

/-!
# Events as objects

Code that asks whether an event has a member, whatever its kind, reads the event as an object.  An
object holds the members that such code asks for, under their recorded names.
-/

namespace Dalph

open Json

/-- Operations of the tracker, of claims, of plans and of Git. -/
inductive WorkflowOperation where
  | taskTrackerRead (operation : TaskTrackerReadOperation)
  | acquireTaskClaim (operation : AcquireTaskClaimOperation)
  | releaseTaskClaim (operation : ReleaseTaskClaimOperation)
  | recordTaskAttemptPlan (operation : PlannedAttemptOperation)
  | readTaskAttemptBase (operation : ReadTaskAttemptBaseOperation)
  | reconcileTaskWorktree (operation : PlannedAttemptOperation)
  | gitRead (operation : GitReadOperation)
deriving DecidableEq

/-- Identity of an operation; claim operations carry theirs inside the claim request. -/
def workflowOperationId : WorkflowOperation → OperationId
  | .taskTrackerRead operation => operation.operationId
  | .acquireTaskClaim operation => operation.acquisition.operationId
  | .releaseTaskClaim operation => operation.release.operationId
  | .recordTaskAttemptPlan operation => operation.operationId
  | .readTaskAttemptBase operation => operation.operationId
  | .reconcileTaskWorktree operation => operation.operationId
  | .gitRead operation => operation.operation.operationId

def Payload.object (payload : Payload) : Json :=
  (Json.parse payload.text).getD .null

def PlannedTaskAttempt.object (plannedAttempt : PlannedTaskAttempt) : Json :=
  .obj [("attemptId", .str plannedAttempt.attemptId.value),
    ("runId", .str plannedAttempt.runId.value), ("taskId", .str plannedAttempt.taskId.value)]

def ActiveTaskClaim.object (claim : ActiveTaskClaim) : Json :=
  .obj [("operationId", .str claim.operationId.value), ("taskId", .str claim.taskId.value)]

def TaskClaimRelease.object (release : TaskClaimRelease) : Json :=
  .obj [("claim", release.claim.object), ("operationId", .str release.operationId.value)]

def AttemptChoiceSubject.object (subject : AttemptChoiceSubject) : Json :=
  .obj [("plannedAttempt", subject.plannedAttempt.object)]

def ControlDirectionSubject.object : ControlDirectionSubject → Json
  | .run runId => .obj [("runId", .str runId.value)]
  | .task runId taskId => .obj [("runId", .str runId.value), ("taskId", .str taskId.value)]

def ResultRecoverySubject.object (subject : ResultRecoverySubject) : Json :=
  .obj [("plannedAttempt", subject.plannedAttempt.object)]

def PlannedAttemptOperation.object (operation : PlannedAttemptOperation) : Json :=
  .obj [("operationId", .str operation.operationId.value),
    ("plannedAttempt", operation.plannedAttempt.object)]

def TaskTrackerReadOperation.object : TaskTrackerReadOperation → Json
  | .readCompletionTaskFacts operation =>
      .obj [("operationId", .str operation.operationId.value),
        ("purpose", operation.purpose.object), ("request", operation.request.object)]
  | .readTaskClaim operation =>
      .obj [("operationId", .str operation.operationId.value),
        ("taskId", .str operation.taskId.value)]
  | .readTrackerGraph operation =>
      .obj [("operationId", .str operation.operationId.value),
        ("readShape", .obj [("explicitlyCoveredTaskIds",
          .arr (operation.explicitlyCoveredTaskIds.map fun taskId => .str taskId.value))])]
  | .readTaskWorkSpecification operation =>
      .obj [("operationId", .str operation.operationId.value),
        ("taskId", .str operation.taskId.value)]

def WorkflowOperation.object : WorkflowOperation → Json
  | .taskTrackerRead operation => operation.object
  | .acquireTaskClaim operation =>
      .obj [("acquisition", operation.acquisition.claim.object)]
  | .releaseTaskClaim operation => .obj [("release", operation.release.object)]
  | .recordTaskAttemptPlan operation => operation.object
  | .readTaskAttemptBase operation =>
      .obj [("operationId", .str operation.operationId.value),
        ("taskId", .str operation.taskId.value)]
  | .reconcileTaskWorktree operation => operation.object
  | .gitRead operation => operation.operation.object

def TaskTrackerFactsObservation.object : TaskTrackerFactsObservation → Json
  | .focusedTaskCompletionFacts _ _ request purpose _ =>
      .obj [("purpose", purpose.object), ("request", request.object)]
  | _ => .obj []

def IntegrationFinalitySettled.claimObject (event : IntegrationFinalitySettled) : Json :=
  .obj [("originalClaim", event.originalClaim.object),
    ("plannedAttempt", event.plannedAttempt.object),
    ("promotionCorrelation", .obj [("requestId", .str event.promotionRequestId)])]

def operationObject (operation : WorkflowOperation) : Json :=
  .obj [("operation", operation.object)]

def commandObject (plannedAttempt : PlannedTaskAttempt) (commandOrdinal : Nat) : Json :=
  .obj [("plannedAttempt", plannedAttempt.object), ("commandOrdinal", .num commandOrdinal)]

def plannedAttemptObject (plannedAttempt : PlannedTaskAttempt) : Json :=
  .obj [("plannedAttempt", plannedAttempt.object)]

/-- The members of an event that are asked for by name. -/
def WorkflowJournalEvent.object : WorkflowJournalEvent → Json
  | .workflowRunBegan _ => .obj []
  | .workflowRunTerminated _ => .obj []
  | .runCancellationApplied => .obj []
  | .cancelledAttemptImplementationAbandoned event => plannedAttemptObject event.plannedAttempt
  | .cancelledAttemptClaimNoReleaseObserved event =>
      .obj [("expectedClaim", event.expectedClaim.object), ("observation", .obj []),
        ("plannedAttempt", event.plannedAttempt.object)]
  | .taskWorkCapacityChanged _ => .obj []
  | .controlDirectionApplied event => .obj [("subject", event.subject.object)]
  | .attemptChoiceApplied event => .obj [("subject", event.subject.object)]
  | .resultRecoveryDirected event => .obj [("subject", event.subject.object)]
  | .resultRecoveryContinueAuthorized event => plannedAttemptObject event.plannedAttempt
  | .resultRecoveryAttemptReplaced event =>
      .obj [("subject", event.subject.object), ("successorPlan", event.successorPlan.object)]
  | .attemptRestartAuthorityReadFailed event =>
      .obj [("operationId", .str event.operationId.value), ("subject", event.subject.object)]
  | .plannedAttemptReplaced event =>
      .obj [("subject", event.subject.object), ("successorPlan", event.successorPlan.object)]
  | .attemptStoppageIntended event => .obj [("subject", event.subject.object)]
  | .attemptImplementationAbandoned event =>
      .obj [("expectedClaim", event.expectedClaim.object), ("subject", event.subject.object)]
  | .stoppedAttemptClaimNoReleaseObserved event =>
      .obj [("expectedClaim", event.expectedClaim.object), ("observation", .obj []),
        ("subject", event.subject.object)]
  | .taskClaimReacquisitionDirected event =>
      .obj [("subject",
        .obj [("runId", .str event.runId.value), ("taskId", .str event.taskId.value)])]
  | .taskTrackerReadIntentRecorded operation => operationObject (.taskTrackerRead operation)
  | .taskTrackerFactsObserved observation =>
      .obj [("observation", observation.object),
        ("operationId", .str observation.operationId.value)]
  | .taskClaimAcquisitionIntended operation => operationObject (.acquireTaskClaim operation)
  | .taskClaimAcquired claim => .obj [("claim", claim.object)]
  | .taskClaimAcquisitionRejected operationId _ => .obj [("operationId", .str operationId.value)]
  | .taskClaimReleaseIntended operation => operationObject (.releaseTaskClaim operation)
  | .taskClaimReleased release => .obj [("release", release.object)]
  | .taskAttemptPlanned operation => operationObject (.recordTaskAttemptPlan operation)
  | .taskAttemptBaseReadIntended operation => operationObject (.readTaskAttemptBase operation)
  | .taskAttemptBaseObserved operationId _ =>
      .obj [("observation", .obj []), ("operationId", .str operationId.value)]
  | .taskWorktreeReconciliationIntended operation =>
      operationObject (.reconcileTaskWorktree operation)
  | .taskWorktreeReady operationId _ => .obj [("operationId", .str operationId.value)]
  | .gitReadIntentRecorded operation => operationObject (.gitRead operation)
  | .plannedAttemptWorktreeObserved operationId _ =>
      .obj [("observation", .obj []), ("operationId", .str operationId.value)]
  | .targetLineageObserved operationId plannedAttempt _ =>
      .obj [("observation", .obj []), ("operationId", .str operationId.value),
        ("plannedAttempt", plannedAttempt.object)]
  | .plannedAttemptContinuationAuthorized event => plannedAttemptObject event.plannedAttempt
  | .plannedAttemptExecutorWorkResponsibilityBegan plannedAttempt =>
      plannedAttemptObject plannedAttempt
  | .plannedAttemptExecutorCommandIntended event => plannedAttemptObject event.plannedAttempt
  | .plannedAttemptExecutorResumeRedeliveryIntended event =>
      .obj [("authorization", .obj []), ("plannedAttempt", event.plannedAttempt.object),
        ("commandOrdinal", .num event.commandOrdinal)]
  | .plannedAttemptExecutorCommandProjectionObserved event =>
      .obj [("plannedAttempt", event.plannedAttempt.object),
        ("commandOrdinal", .num event.commandOrdinal), ("observation", .obj [])]
  | .plannedAttemptExecutorCommandResponseObserved event =>
      commandObject event.plannedAttempt event.commandOrdinal
  | .plannedAttemptExecutorCommandResponseContradicted event =>
      commandObject event.plannedAttempt event.commandOrdinal
  | .plannedAttemptExecutorStateObserved event =>
      .obj [("observation", .obj []), ("plannedAttempt", event.plannedAttempt.object)]
  | .plannedAttemptExecutorWorkReported _ => .obj []
  | .integrationFinalitySettled event =>
      .obj [("claim", event.claimObject),
        ("deletionOperationId", .str event.deletionOperationId.value),
        ("replacementOperationId", .str event.replacementOperationId.value)]
  | .protocol event => event.payload.object

def text : Option Json → Option String
  | some (.str value) => some value
  | _ => none

def integer : Option Json → Option Int
  | some (.num value) => some value
  | _ => none

def operationId? (value : Option Json) : Option OperationId := (text value).map OperationId.mk

def attemptId? (value : Option Json) : Option AttemptId := (text value).map AttemptId.mk

def taskId? (value : Option Json) : Option TaskId := (text value).map TaskId.mk

end Dalph
