import Dalph.Foundation.Worklist
import Dalph.Workflow.AttemptPlanning

/-!
# Authority over the claim of an attempt

The claim of an attempt is the one acquired claim among the operations that causally precede its
plan, or the latest claim that a later reacquisition direction authorized.
-/

namespace Dalph

def WorkflowOperation.predecessorOperationIds : WorkflowOperation → List OperationId
  | taskTrackerRead operation => operation.predecessorOperationIds
  | acquireTaskClaim operation => operation.predecessorOperationIds
  | releaseTaskClaim operation => operation.predecessorOperationIds
  | recordTaskAttemptPlan operation => operation.predecessorOperationIds
  | readTaskAttemptBase operation => operation.predecessorOperationIds
  | reconcileTaskWorktree operation => operation.predecessorOperationIds
  | gitRead operation => operation.operation.predecessorOperationIds

/-- Predecessors of the latest operation with an identity; an unknown operation has none. -/
def predecessorsIn (evidence : JournalRecordEvidence) (operationId : OperationId) :
    List OperationId :=
  ((journalOperationById operationId (.indexed evidence)).map
    WorkflowOperation.predecessorOperationIds).getD []

def recordedOperationIds (evidence : JournalRecordEvidence) : List OperationId :=
  (evidence.records.toList.filterMap operationOf).map workflowOperationId

def causalPredecessorOperationIdsFromEvidence (evidence : JournalRecordEvidence)
    (predecessorOperationIds : List OperationId) : List OperationId :=
  Worklist.search (predecessorsIn evidence) (recordedOperationIds evidence) predecessorOperationIds

/-- A plain list is indexed before the search. -/
def causalPredecessorOperationIds (source : JournalHistorySource)
    (predecessorOperationIds : List OperationId) : List OperationId :=
  match source with
  | .raw records =>
      causalPredecessorOperationIdsFromEvidence (journalEvidenceFrom records)
        predecessorOperationIds
  | .indexed evidence =>
      causalPredecessorOperationIdsFromEvidence evidence predecessorOperationIds

def exactlyPlans (attemptId : AttemptId) (record : JournalRecord) : Bool :=
  match record.event with
  | .taskAttemptPlanned operation =>
      operation.plannedAttempt.attemptId = attemptId &&
        record.runId = operation.plannedAttempt.runId &&
        record.key = attemptPlanRecordKey attemptId
  | .plannedAttemptReplaced event =>
      event.successorPlan.plannedAttempt.attemptId = attemptId &&
        record.runId = event.successorPlan.plannedAttempt.runId &&
        record.key = plannedAttemptReplacedRecordKey event.subject.plannedAttempt.attemptId
  | .resultRecoveryAttemptReplaced event =>
      event.successorPlan.plannedAttempt.attemptId = attemptId &&
        record.runId = event.successorPlan.plannedAttempt.runId &&
        record.key = resultRecoveryAttemptReplacedRecordKey event.subject.plannedAttempt.attemptId
  | _ => false

def theOnly? {Item : Type} : List Item → Option Item
  | [item] => some item
  | _ => none

def exactPlanRecordForAttempt (source : JournalHistorySource) (attemptId : AttemptId) :
    Option JournalRecord :=
  theOnly? ((journalRecordsForAttemptKind attemptId .taskAttemptPlanned source ++
    journalRecordsForAttemptKind attemptId .plannedAttemptReplaced source ++
    journalRecordsForAttemptKind attemptId .resultRecoveryAttemptReplaced source).filter
      (exactlyPlans attemptId))

def exactRecordByKey (source : JournalHistorySource) (key : JournalRecordKey) :
    Option JournalRecord :=
  match source with
  | .raw records => theOnly? (records.filter fun record => record.key = key)
  | .indexed _ => journalRecordByKey key source

def acquiredClaim? (record : JournalRecord) : Option ActiveTaskClaim :=
  match record.event with
  | .taskClaimAcquired claim => some claim
  | _ => none

def acquisitionIntended? (record : JournalRecord) : Option AcquireTaskClaimOperation :=
  match record.event with
  | .taskClaimAcquisitionIntended operation => some operation
  | _ => none

def acquiresClaim (acquisition : TaskClaimAcquisition) (claim : ActiveTaskClaim) : Bool :=
  acquisition.operationId = claim.operationId && acquisition.owner = claim.owner &&
    acquisition.taskId = claim.taskId && acquisition.token = claim.token

def claimOutcomeBefore (source : JournalHistorySource) (planRecord : JournalRecord)
    (plan : PlannedAttemptOperation) (operationId : OperationId) :
    Option (JournalRecord × ActiveTaskClaim) := do
  let outcome ← exactRecordByKey source (outcomeRecordKey operationId)
  let claim ← acquiredClaim? outcome
  if outcome.runId = planRecord.runId && claim.taskId = plan.plannedAttempt.taskId &&
      outcome.position < planRecord.position then some (outcome, claim)
  else none

def causalClaimForAttempt (source : JournalHistorySource) (attemptId : AttemptId) :
    Option ActiveTaskClaim := do
  let planRecord ← exactPlanRecordForAttempt source attemptId
  let plan ← recordedPlan? planRecord
  let predecessors := causalPredecessorOperationIds source plan.predecessorOperationIds
  let (outcome, claim) ← theOnly? (predecessors.filterMap (claimOutcomeBefore source planRecord plan))
  let intent ← exactRecordByKey source (intentRecordKey claim.operationId)
  let operation ← acquisitionIntended? intent
  if intent.runId = planRecord.runId && acquiresClaim operation.acquisition claim &&
      intent.position < outcome.position then some claim
  else none

def taskClaimReacquisitionOperationId (requestId : String) : OperationId :=
  ⟨s!"task-claim-reacquisition:{requestId}"⟩

def directionAuthorizes (plannedAttempt : PlannedTaskAttempt) (plannedAt : JournalPosition)
    (intent : JournalRecord) (requestId : String) (claim : ActiveTaskClaim)
    (direction : JournalRecord) : Bool :=
  match direction.event with
  | .taskClaimReacquisitionDirected event =>
      direction.position < intent.position && direction.position > plannedAt &&
        direction.runId = plannedAttempt.runId && event.runId = plannedAttempt.runId &&
        event.taskId = plannedAttempt.taskId && event.requestId = requestId &&
        taskClaimReacquisitionOperationId event.requestId = claim.operationId
  | _ => false

/-- The task's latest claim, where a reacquisition direction behind the plan authorized it. -/
def reacquiredClaimForAttempt (source : JournalHistorySource) (plannedAttempt : PlannedTaskAttempt)
    (plannedRecord : JournalRecord) : Option ActiveTaskClaim := do
  let claimRecord ← lastJournalRecordForTaskKind plannedAttempt.taskId .taskClaimAcquired source
  let claim ← acquiredClaim? claimRecord
  let intent ← exactRecordByKey source (intentRecordKey claim.operationId)
  let operation ← acquisitionIntended? intent
  match operation.authority with
  | .taskSelection => none
  | .explicitTaskClaimReacquisition requestId =>
      let direction ← exactRecordByKey source (taskClaimReacquisitionDirectedRecordKey requestId)
      if claimRecord.runId = plannedAttempt.runId &&
          claimRecord.key = outcomeRecordKey claim.operationId &&
          intent.position < claimRecord.position && intent.runId = plannedAttempt.runId &&
          acquiresClaim operation.acquisition claim &&
          directionAuthorizes plannedAttempt plannedRecord.position intent requestId claim
            direction then
        some claim
      else none

/-- The original planned claim, or the latest claim that an accepted reacquisition authorized. -/
def authorizedClaimForAttempt (source : JournalHistorySource)
    (plannedAttempt : PlannedTaskAttempt) : Option ActiveTaskClaim :=
  match exactPlanRecordForAttempt source plannedAttempt.attemptId with
  | none => none
  | some plannedRecord =>
      if plannedRecord.runId ≠ plannedAttempt.runId then none
      else
        match reacquiredClaimForAttempt source plannedAttempt plannedRecord with
        | some claim => some claim
        | none => causalClaimForAttempt source plannedAttempt.attemptId

end Dalph
