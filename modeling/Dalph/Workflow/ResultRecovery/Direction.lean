import Dalph.Workflow.AttemptPlanning
import Dalph.Workflow.ExecutorEvidence
import Dalph.Workflow.IntegrationAdmission

/-!
# Directions of result recovery

The Operator directs what happens to a rejected result.  A direction is admitted while the attempt
is retained, no other direction won the same report and that report is still current.
-/

namespace Dalph

def ResultRecoverySubject.reportOrdinal : ResultRecoverySubject → Nat
  | rejectedResult _ reportOrdinal => reportOrdinal
  | historicalUnknownFailure _ reportOrdinal => reportOrdinal

def ResultRecoverySubject.isRejectedResult : ResultRecoverySubject → Bool
  | rejectedResult _ _ => true
  | historicalUnknownFailure _ _ => false

/-- Why an earlier record of the attempt forbids a direction. -/
def directionConflict (request : ResultRecoveryDirected) (appliedRequestId : Option RunRequestId)
    (record : JournalRecord) : Option String :=
  let attempt := request.subject.plannedAttempt
  let replaced := "the selected attempt was already replaced"
  match record.event with
  | .protocol event =>
      if (integrationStarted? (.protocol event)).any fun started =>
          plannedTaskAttemptEquivalence started.facts.plannedAttempt attempt then
        some "integration already consumed the retained attempt"
      else none
  | .plannedAttemptReplaced event =>
      if plannedTaskAttemptEquivalence event.subject.plannedAttempt attempt then some replaced
      else none
  | .resultRecoveryAttemptReplaced event =>
      if plannedTaskAttemptEquivalence event.subject.plannedAttempt attempt then some replaced
      else none
  | .resultRecoveryDirected event =>
      if plannedTaskAttemptEquivalence event.subject.plannedAttempt attempt &&
          event.subject.reportOrdinal = request.subject.reportOrdinal &&
          !appliedRequestId.any fun applied => event.requestId = applied then
        some "a direction already won the selected result recovery"
      else none
  | _ => none

def selectedReportProblem (request : ResultRecoveryDirected)
    (report : PlannedAttemptExecutorReport) : Option String :=
  match request.subject with
  | .rejectedResult _ _ =>
      match report with
      | .resultRejected _ rejection =>
          if rejection.custody = .stopped then none
          else some "rejected-result writers remain unresolved"
      | _ => some "selection is not an accepted result rejection"
  | .historicalUnknownFailure _ _ =>
      if request.direction ≠ .restartTaskImplementation then
        some "historical unknown failure permits Restart only"
      else
        match report with
        | .terminal _ (.failed none _) => none
        | _ => some "selection is not a historical failure with unknown cause"

/-- Why a direction is not admitted; a direction that is applied already does not stand in its own
way. -/
def resultRecoveryDirectionProblem (request : ResultRecoveryDirected) (runId : RunId)
    (source : JournalHistorySource) (appliedRequestId : Option RunRequestId) : Option String :=
  let attempt := request.subject.plannedAttempt
  if attempt.runId ≠ runId || request.requestId.runId ≠ runId then
    some "result recovery belongs to another Run"
  else if (recordedTaskAttemptPlanFor source attempt).isNone then
    some "selected attempt does not match its immutable plan"
  else
    match (journalRecordsForAttempt attempt.attemptId source).findSome?
        (directionConflict request appliedRequestId) with
    | some problem => some problem
    | none =>
        match latestAcceptedPlannedAttemptExecutorEvidence source attempt none with
        | none => some "the selected accepted report is no longer current"
        | some evidence =>
            if evidence.source.acceptedOrdinal? ≠ some request.subject.reportOrdinal then
              some "the selected accepted report is no longer current"
            else selectedReportProblem request evidence.report

theorem resultRecoveryDirectionProblem_eq_none {request : ResultRecoveryDirected} {runId : RunId}
    {source : JournalHistorySource} {appliedRequestId : Option RunRequestId} :
    resultRecoveryDirectionProblem request runId source appliedRequestId = none ↔
      (request.subject.plannedAttempt.runId = runId ∧ request.requestId.runId = runId) ∧
        (recordedTaskAttemptPlanFor source request.subject.plannedAttempt).isSome = true ∧
        (∀ record ∈ journalRecordsForAttempt request.subject.plannedAttempt.attemptId source,
          directionConflict request appliedRequestId record = none) ∧
        ∃ evidence, latestAcceptedPlannedAttemptExecutorEvidence source
            request.subject.plannedAttempt none = some evidence ∧
          evidence.source.acceptedOrdinal? = some request.subject.reportOrdinal ∧
            selectedReportProblem request evidence.report = none := by
  rw [← List.findSome?_eq_none_iff, ← Option.not_isNone]
  unfold resultRecoveryDirectionProblem
  by_cases bound : request.subject.plannedAttempt.runId = runId ∧ request.requestId.runId = runId
  · cases planned : (recordedTaskAttemptPlanFor source request.subject.plannedAttempt).isNone
    · cases conflict : (journalRecordsForAttempt request.subject.plannedAttempt.attemptId
          source).findSome? (directionConflict request appliedRequestId) with
      | some problem => simp [bound, planned, conflict]
      | none =>
          cases latest : latestAcceptedPlannedAttemptExecutorEvidence source
              request.subject.plannedAttempt none with
          | none => simp [bound, planned, conflict, latest]
          | some evidence =>
              by_cases current :
                  evidence.source.acceptedOrdinal? = some request.subject.reportOrdinal
              · simp [bound, planned, conflict, latest, current]
              · simp [bound, planned, conflict, latest, current]
    · simp [bound, planned]
  · have other : request.subject.plannedAttempt.runId ≠ runId ∨ request.requestId.runId ≠ runId := by
      tauto
    simp [bound, other]

theorem not_suspended_of_selected {request : ResultRecoveryDirected}
    {report : PlannedAttemptExecutorReport} (selected : selectedReportProblem request report = none) :
    report.isSafelySuspended = false := by
  unfold selectedReportProblem at selected
  cases report with
  | safelySuspended correlation =>
      split at selected
      · simp at selected
      · split at selected <;> simp at selected
  | executing correlation => rfl
  | resultRejected correlation rejection => rfl
  | terminal correlation result => rfl

end Dalph
