import Dalph.Coordination.Reconstruction.AttemptChoices
import Dalph.Workflow.ClaimAuthority

/-!
# Cancelled attempts

Cancellation closes forward admission: only settlement, reconciliation, cleanup and reads may
follow it.  An attempt whose executor began before is abandoned once its writers are stopped.
-/

namespace Dalph

def isRunCancellation : WorkflowJournalEvent → Bool
  | .runCancellationApplied => true
  | _ => false

def exactCancellation (position : JournalPosition) : JournalHistorySource → Option JournalRecord
  | .raw records => records.find? fun record =>
      record.position = position && isRunCancellation record.event
  | .indexed evidence => (journalRecordByPosition position (.indexed evidence)).filter fun record =>
      isRunCancellation record.event

def appliedCancellation (runId : RunId) (source : JournalHistorySource) : Option JournalRecord :=
  let candidate : Option JournalRecord :=
    match source with
    | .raw records => findLast records fun record =>
        record.runId = runId && isRunCancellation record.event
    | .indexed _ => journalRecordByKey runCancellationAppliedRecordKey source
  candidate.filter fun record => record.runId = runId

def intendsAcquisition (operationId : OperationId) : WorkflowJournalEvent → Bool
  | .taskClaimAcquisitionIntended operation => operation.acquisition.operationId = operationId
  | _ => false

def claimAcquisitionWasIntendedBeforeCancellation (source : JournalHistorySource)
    (operationId : OperationId) (cancellationAt : JournalPosition) : Bool :=
  let prior := priorRecords cancellationAt source
  match prior with
  | .raw records => records.any fun record => intendsAcquisition operationId record.event
  | .indexed _ => (journalRecordByKey (intentRecordKey operationId) prior).any fun record =>
      intendsAcquisition operationId record.event

/-- The record began the responsibility of a started integration before the cancellation. -/
def integrationResponsibilityPrecedesCancellation (candidate : JournalRecord)
    (started : IntegrationStarted) (startedAt cancellationAt : JournalPosition) : Bool :=
  candidate.position < cancellationAt && candidate.position < startedAt &&
    (integrationResponsibilityBegan? candidate.event).any fun began =>
      integrationResponsibilityEquivalence began started.facts

def integrationResponsibilityWasBeganBeforeCancellation (record : JournalRecord)
    (source : JournalHistorySource) (cancellationAt : JournalPosition) : Bool :=
  (integrationStarted? record.event).any fun started =>
    match source with
    | .raw records => records.any fun candidate =>
        candidate.position = started.responsibilityBeganAt &&
          integrationResponsibilityPrecedesCancellation candidate started record.position
            cancellationAt
    | .indexed _ => (journalRecordByPosition started.responsibilityBeganAt source).any fun candidate =>
        integrationResponsibilityPrecedesCancellation candidate started record.position
          cancellationAt

def postCancellationForwardWork (record : JournalRecord) (source : JournalHistorySource)
    (cancellationAt : JournalPosition) : Option String :=
  match record.event with
  | .taskClaimAcquired claim =>
      if claimAcquisitionWasIntendedBeforeCancellation source claim.operationId cancellationAt then
        none
      else some "TaskClaimAcquired"
  | .taskClaimAcquisitionRejected operationId _ =>
      if claimAcquisitionWasIntendedBeforeCancellation source operationId cancellationAt then none
      else some "TaskClaimAcquisitionRejected"
  | .plannedAttemptExecutorCommandIntended event =>
      if event.command = .begin || event.command = .resume then
        some "PlannedAttemptExecutorCommandIntended"
      else none
  | .taskClaimAcquisitionIntended _ => some "TaskClaimAcquisitionIntended"
  | .taskClaimReacquisitionDirected _ => some "TaskClaimReacquisitionDirected"
  | .taskAttemptPlanned _ => some "TaskAttemptPlanned"
  | .plannedAttemptReplaced _ => some "PlannedAttemptReplaced"
  | .plannedAttemptExecutorWorkResponsibilityBegan _ =>
      some "PlannedAttemptExecutorWorkResponsibilityBegan"
  | .attemptChoiceApplied _ => some "AttemptChoiceApplied"
  | .protocol event =>
      match event.kind with
      | .integrationResponsibilityBegan => some "IntegrationResponsibilityBegan"
      | .integrationStarted =>
          if integrationResponsibilityWasBeganBeforeCancellation record source cancellationAt then
            none
          else some "IntegrationStarted"
      | _ => none
  | _ => none

def validateNoForwardWorkAfterCancellation (record : JournalRecord) (runId : RunId)
    (source : JournalHistorySource) : List String :=
  if record.runId ≠ runId then []
  else
    match appliedCancellation runId (priorRecords record.position source) with
    | none => []
    | some cancellation =>
        match postCancellationForwardWork record source cancellation.position with
        | none => []
        | some forbidden =>
            [s!"post-cancellation history cannot record forward-work event {forbidden}"]

def proofEvidenceFor (reportOrdinal : Nat) (plannedAttempt : PlannedTaskAttempt)
    (source : JournalHistorySource) : Option PlannedAttemptExecutorEvidence :=
  match source with
  | .raw _ => (plannedAttemptExecutorEvidence source plannedAttempt none).find? fun evidence =>
      evidence.source.acceptedOrdinal? = some reportOrdinal
  | .indexed _ => do
      let record ← journalRecordByKey
        (plannedAttemptExecutorWorkReportedRecordKey plannedAttempt.attemptId reportOrdinal) source
      match record.event with
      | .plannedAttemptExecutorWorkReported event =>
          if event.ordinal = reportOrdinal && exactCorrelation event.report plannedAttempt then
            some
              { observedAt := record.position
                report := event.report
                source := .acceptedReport event.ordinal }
          else none
      | _ => none

/-- The proof is the current evidence, its writers are stopped and no command follows it. -/
def proofMatchesEvidence (reportOrdinal : Nat) (plannedAttempt : PlannedTaskAttempt)
    (source : JournalHistorySource) : Bool :=
  match proofEvidenceFor reportOrdinal plannedAttempt source,
    latestPlannedAttemptExecutorEvidence source plannedAttempt none with
  | some evidence, some latest =>
      latest.observedAt = evidence.observedAt &&
        executorReportProvesStoppedWriters evidence.report &&
          (lastJournalRecordForAttemptKind plannedAttempt.attemptId
            .plannedAttemptExecutorCommandIntended source).all fun laterCommand =>
              laterCommand.position ≤ evidence.observedAt
  | _, _ => false

def beginsResponsibility (plannedAttempt : PlannedTaskAttempt) : WorkflowJournalEvent → Bool
  | .plannedAttemptExecutorWorkResponsibilityBegan began =>
      plannedTaskAttemptEquivalence began plannedAttempt
  | _ => false

def abandonsCancelled (plannedAttempt : PlannedTaskAttempt) : WorkflowJournalEvent → Bool
  | .cancelledAttemptImplementationAbandoned event =>
      plannedTaskAttemptEquivalence event.plannedAttempt plannedAttempt
  | _ => false

/-- The first record that a test selects; an index is asked for the one key it can stand under. -/
def recordUnderKey (key : JournalRecordKey) (test : WorkflowJournalEvent → Bool)
    (source : JournalHistorySource) : Option JournalRecord :=
  let candidate : Option JournalRecord :=
    match source with
    | .raw records => records.find? fun record => test record.event
    | .indexed _ => journalRecordByKey key source
  candidate.filter fun record => test record.event

def validateAbandonmentFoundations (event : CancelledAttemptImplementationAbandoned)
    (position : JournalPosition) (runId : RunId) (source prior : JournalHistorySource) :
    List String :=
  let cancellation := exactCancellation event.cancellationAppliedAt source
  (if (cancellation.filter fun record => record.position < position).isNone then
      ["cancelled-attempt abandonment requires its exact prior RunCancellationApplied position"]
    else
      issueUnless (cancellation.any fun record => record.runId = runId)
        "cancelled-attempt abandonment names a cancellation from another Run") ++
    issueUnless (event.plannedAttempt.runId = runId)
      "cancelled-attempt abandonment planned attempt binds another Run" ++
    issueUnless (recordedTaskAttemptPlanFor prior event.plannedAttempt).isSome
      "cancelled-attempt abandonment requires its exact prior planned attempt"

/-- The executor's responsibility was begun before the cancellation. -/
def validateAbandonmentResponsibility (event : CancelledAttemptImplementationAbandoned)
    (cancellation : Option JournalRecord) (prior : JournalHistorySource) : List String :=
  let began := recordUnderKey
    (plannedAttemptExecutorWorkResponsibilityBeganRecordKey event.plannedAttempt.attemptId)
    (beginsResponsibility event.plannedAttempt) prior
  issueUnless (began.any fun began => cancellation.all fun record => began.position < record.position)
    "cancelled-attempt abandonment requires prior executor-work responsibility"

def validateAbandonmentNotReplaced (event : CancelledAttemptImplementationAbandoned)
    (prior : JournalHistorySource) : List String :=
  issueUnless
    (recordUnderKey (plannedAttemptReplacedRecordKey event.plannedAttempt.attemptId)
      (replacesAttempt event.plannedAttempt) prior).isNone
    "cancelled-attempt abandonment cannot follow replacement of the exact planned attempt"

def validateAbandonmentNotRepeated (event : CancelledAttemptImplementationAbandoned)
    (prior : JournalHistorySource) : List String :=
  issueUnless
    (recordUnderKey (cancelledAttemptImplementationAbandonedRecordKey event.plannedAttempt.attemptId)
      (abandonsCancelled event.plannedAttempt) prior).isNone
    "cancelled-attempt implementation responsibility is already abandoned"

/-- The abandonment names the claim that the attempt holds through the cancellation. -/
def validateAbandonmentClaim (event : CancelledAttemptImplementationAbandoned)
    (cancellation : Option JournalRecord) (source prior : JournalHistorySource) : List String :=
  let throughCancellation :=
    match cancellation with
    | none => prior
    | some record => recordsThrough record.position source
  issueUnless
    ((authorizedClaimForAttempt throughCancellation event.plannedAttempt).any fun authorized =>
      isExactTaskClaim authorized event.authorizedClaim)
    "cancelled-attempt abandonment requires the exact authorized claim"

def validateAbandonmentProof (event : CancelledAttemptImplementationAbandoned)
    (cancellation : Option JournalRecord) (prior : JournalHistorySource) : List String :=
  issueUnless
    (cancellation.isSome && proofMatchesEvidence event.reportOrdinal event.plannedAttempt prior)
    "cancelled-attempt abandonment requires current stopped-writer executor evidence"

def validateAbandonment (record : JournalRecord) (runId : RunId) (source : JournalHistorySource) :
    List String :=
  match record.event with
  | .cancelledAttemptImplementationAbandoned event =>
      let prior := priorRecords record.position source
      let cancellation := exactCancellation event.cancellationAppliedAt source
      validateAbandonmentFoundations event record.position runId source prior ++
        validateAbandonmentResponsibility event cancellation prior ++
        validateAbandonmentNotReplaced event prior ++
        validateAbandonmentNotRepeated event prior ++
        validateAbandonmentClaim event cancellation source prior ++
        validateAbandonmentProof event cancellation prior
  | _ => []

end Dalph
