import Dalph.WorkflowJournal.RecordEvidence

/-!
# Executor evidence

What the journal says about the executor's work on one attempt: exact reports with the way Dalph
learned of them, projections that show no exact report, and commands without an answer.
-/

namespace Dalph

/-- The report proves that no writer runs; a rejected result does so only with stopped custody. -/
def executorReportProvesStoppedWriters : PlannedAttemptExecutorReport → Bool
  | .safelySuspended _ => true
  | .terminal _ _ => true
  | .resultRejected _ rejection => rejection.custody = .stopped
  | .executing _ => false

/-- How Dalph learned of an exact report. -/
inductive PlannedAttemptExecutorEvidenceSource where
  | acceptedReport (ordinal : Nat)
  | boundaryCommandResponse (commandOrdinal : Nat)
  | commandProjection (commandOrdinal projectionOrdinal : Nat)
  | stateProjection (ordinal : Nat)
deriving DecidableEq

def PlannedAttemptExecutorEvidenceSource.acceptedOrdinal? :
    PlannedAttemptExecutorEvidenceSource → Option Nat
  | acceptedReport ordinal => some ordinal
  | _ => none

structure PlannedAttemptExecutorEvidence where
  observedAt : JournalPosition
  report : PlannedAttemptExecutorReport
  source : PlannedAttemptExecutorEvidenceSource
deriving DecidableEq

def PlannedAttemptExecutorEvidence.isAccepted (evidence : PlannedAttemptExecutorEvidence) : Bool :=
  evidence.source.acceptedOrdinal?.isSome

def executorRecordsForAttempt (source : JournalHistorySource) (attemptId : AttemptId) :
    List JournalRecord :=
  match source with
  | .raw records => records
  | .indexed _ => journalRecordsForAttempt attemptId source

def exactCorrelation (report : PlannedAttemptExecutorReport) (plannedAttempt : PlannedTaskAttempt) :
    Bool :=
  report.correlation.runId = plannedAttempt.runId &&
    report.correlation.attemptId = plannedAttempt.attemptId

/-- The report of a record with its source, whatever work it is about. -/
def reportOf : WorkflowJournalEvent →
    Option (PlannedAttemptExecutorReport × PlannedAttemptExecutorEvidenceSource)
  | .plannedAttemptExecutorWorkReported event => some (event.report, .acceptedReport event.ordinal)
  | .plannedAttemptExecutorCommandResponseObserved event =>
      some (event.report, .boundaryCommandResponse event.commandOrdinal)
  | .plannedAttemptExecutorCommandProjectionObserved event =>
      match event.observation with
      | .exactExecutorReport report =>
          some (report, .commandProjection event.commandOrdinal event.projectionOrdinal)
      | _ => none
  | .plannedAttemptExecutorStateObserved event =>
      match event.observation with
      | .exactExecutorReport report => some (report, .stateProjection event.ordinal)
      | _ => none
  | _ => none

def evidenceFromRecord (record : JournalRecord) (plannedAttempt : PlannedTaskAttempt) :
    Option PlannedAttemptExecutorEvidence := do
  let (report, source) ← reportOf record.event
  if exactCorrelation report plannedAttempt then
    some { observedAt := record.position, report, source }
  else none

def plannedAttemptExecutorEvidence (source : JournalHistorySource)
    (plannedAttempt : PlannedTaskAttempt) (after : Option JournalPosition) :
    List PlannedAttemptExecutorEvidence :=
  (executorRecordsForAttempt source plannedAttempt.attemptId).filterMap fun record =>
    if after.any fun after => record.position ≤ after then none
    else evidenceFromRecord record plannedAttempt

/-- A projection of the executor's state shows something else than an exact report. -/
def projectionShowsIssue : WorkflowJournalEvent → Bool
  | .plannedAttemptExecutorCommandProjectionObserved event =>
      match event.observation with
      | .exactExecutorReport _ => false
      | .executorBeginNotCrossed _ => false
      | _ => true
  | .plannedAttemptExecutorStateObserved event =>
      match event.observation with
      | .exactExecutorReport _ => false
      | _ => true
  | _ => false

def projectedAttempt? : WorkflowJournalEvent → Option PlannedTaskAttempt
  | .plannedAttemptExecutorCommandProjectionObserved event => some event.plannedAttempt
  | .plannedAttemptExecutorStateObserved event => some event.plannedAttempt
  | _ => none

/-- Position of the latest projection of the plan's work that shows no exact report. -/
def latestPlannedAttemptExecutorProjectionIssue (source : JournalHistorySource)
    (plannedAttempt : PlannedTaskAttempt) : Option JournalPosition :=
  (findLast (executorRecordsForAttempt source plannedAttempt.attemptId) fun record =>
    projectionShowsIssue record.event &&
      (projectedAttempt? record.event).any fun projected =>
        projected.runId = plannedAttempt.runId &&
          projected.attemptId = plannedAttempt.attemptId).map (·.position)

/-- A later observation is preferred to the accepted report only where it says something else. -/
def preferredExactExecutorEvidence (accepted observed : Option PlannedAttemptExecutorEvidence) :
    Option PlannedAttemptExecutorEvidence :=
  match accepted, observed with
  | accepted, none => accepted
  | none, observed => observed
  | some accepted, some observed =>
      if observed.observedAt > accepted.observedAt &&
          !samePlannedAttemptExecutorReport observed.report accepted.report then
        some observed
      else some accepted

def unlessLaterIssue (evidence latestExact : Option PlannedAttemptExecutorEvidence)
    (issue : Option JournalPosition) : Option PlannedAttemptExecutorEvidence := do
  let evidence ← evidence
  let latestExact ← latestExact
  if issue.all fun issue => latestExact.observedAt > issue then some evidence else none

/-- Current evidence from a search of all records. -/
def deriveLatestExecutorEvidence (source : JournalHistorySource)
    (plannedAttempt : PlannedTaskAttempt) (after : Option JournalPosition) :
    Option PlannedAttemptExecutorEvidence :=
  let allEvidence := plannedAttemptExecutorEvidence source plannedAttempt after
  let accepted := findLast allEvidence (·.isAccepted)
  let observed := findLast allEvidence fun evidence => !evidence.isAccepted
  unlessLaterIssue (preferredExactExecutorEvidence accepted observed) allEvidence.getLast?
    (latestPlannedAttemptExecutorProjectionIssue source plannedAttempt)

def observedKinds : List WorkflowJournalEventTag :=
  [.plannedAttemptExecutorCommandResponseObserved, .plannedAttemptExecutorCommandProjectionObserved,
    .plannedAttemptExecutorStateObserved]

def lastOfKindAfter (source : JournalHistorySource) (plannedAttempt : PlannedTaskAttempt)
    (kind : WorkflowJournalEventTag) (after : Option JournalPosition) : Option JournalRecord :=
  (lastJournalRecordForAttemptKind plannedAttempt.attemptId kind source).filter fun record =>
    !after.any fun after => record.position ≤ after

def indexedEvidenceCandidate (source : JournalHistorySource) (plannedAttempt : PlannedTaskAttempt)
    (kind : WorkflowJournalEventTag) (after : Option JournalPosition) :
    Option PlannedAttemptExecutorEvidence :=
  (lastOfKindAfter source plannedAttempt kind after).bind (evidenceFromRecord · plannedAttempt)

def latestObserved (candidates : List PlannedAttemptExecutorEvidence) :
    Option PlannedAttemptExecutorEvidence :=
  (candidates.mergeSort fun left right => left.observedAt ≤ right.observedAt).getLast?

def deriveLatestIndexedExecutorEvidence (source : JournalHistorySource)
    (plannedAttempt : PlannedTaskAttempt) (after : Option JournalPosition) :
    Option PlannedAttemptExecutorEvidence :=
  let accepted :=
    indexedEvidenceCandidate source plannedAttempt .plannedAttemptExecutorWorkReported after
  let observedCandidates :=
    observedKinds.filterMap fun kind => indexedEvidenceCandidate source plannedAttempt kind after
  let issues :=
    [WorkflowJournalEventTag.plannedAttemptExecutorCommandProjectionObserved,
      .plannedAttemptExecutorStateObserved].filterMap fun kind =>
        ((lastOfKindAfter source plannedAttempt kind after).filter fun record =>
          projectionShowsIssue record.event).map (·.position)
  unlessLaterIssue (preferredExactExecutorEvidence accepted (latestObserved observedCandidates))
    (latestObserved (accepted.toList ++ observedCandidates)) issues.max?

def latestPlannedAttemptExecutorEvidence (source : JournalHistorySource)
    (plannedAttempt : PlannedTaskAttempt) (after : Option JournalPosition) :
    Option PlannedAttemptExecutorEvidence :=
  match source with
  | .raw _ => deriveLatestExecutorEvidence source plannedAttempt after
  | .indexed _ => deriveLatestIndexedExecutorEvidence source plannedAttempt after

def latestAcceptedPlannedAttemptExecutorEvidence (source : JournalHistorySource)
    (plannedAttempt : PlannedTaskAttempt) (after : Option JournalPosition) :
    Option PlannedAttemptExecutorEvidence :=
  (latestPlannedAttemptExecutorEvidence source plannedAttempt after).filter (·.isAccepted)

/-- The command intent of an event about the plan's work. -/
def commandIntended? (plannedAttempt : PlannedTaskAttempt) :
    WorkflowJournalEvent → Option PlannedAttemptExecutorCommandIntended
  | .plannedAttemptExecutorCommandIntended event =>
      if event.plannedAttempt.runId = plannedAttempt.runId &&
          event.plannedAttempt.attemptId = plannedAttempt.attemptId then some event
      else none
  | _ => none

def redelivers (plannedAttempt : PlannedTaskAttempt) (commandOrdinal : Nat) :
    WorkflowJournalEvent → Bool
  | .plannedAttemptExecutorResumeRedeliveryIntended event =>
      event.commandOrdinal = commandOrdinal &&
        plannedTaskAttemptEquivalence event.plannedAttempt plannedAttempt
  | _ => false

/-- The event answers a command of the plan with an exact report. -/
def settlesCommand (plannedAttempt : PlannedTaskAttempt) (commandOrdinal : Nat) :
    WorkflowJournalEvent → Bool
  | .plannedAttemptExecutorCommandResponseObserved event =>
      event.commandOrdinal = commandOrdinal && exactCorrelation event.report plannedAttempt
  | .plannedAttemptExecutorCommandProjectionObserved event =>
      event.commandOrdinal = commandOrdinal &&
        match event.observation with
        | .exactExecutorReport report => exactCorrelation report plannedAttempt
        | _ => false
  | _ => false

/-- The latest command whose answer is still unknown; a redelivery asks again. -/
def latestUnsettledPlannedAttemptExecutorCommand (source : JournalHistorySource)
    (plannedAttempt : PlannedTaskAttempt) : Option PlannedAttemptExecutorCommandIntended := do
  let attemptRecords := executorRecordsForAttempt source plannedAttempt.attemptId
  let record ← findLast attemptRecords fun record =>
    (commandIntended? plannedAttempt record.event).isSome
  let command ← commandIntended? plannedAttempt record.event
  let latestDelivery := findLast attemptRecords fun delivery =>
    delivery.position > record.position && redelivers plannedAttempt command.ordinal delivery.event
  let deliveryPosition := (latestDelivery.map (·.position)).getD record.position
  if attemptRecords.any fun answer =>
      answer.position > deliveryPosition &&
        settlesCommand plannedAttempt command.ordinal answer.event then none
  else some command

def intendsBeginOrResume (plannedAttempt : PlannedTaskAttempt) : WorkflowJournalEvent → Bool
  | .plannedAttemptExecutorCommandIntended event =>
      (event.command = .begin || event.command = .resume) &&
        plannedTaskAttemptEquivalence event.plannedAttempt plannedAttempt
  | _ => false

/-- Accepted safe suspension before any later Begin or Resume and with every command answered. -/
def currentUnconsumedAcceptedSafeEvidence (source : JournalHistorySource)
    (plannedAttempt : PlannedTaskAttempt) : Option PlannedAttemptExecutorEvidence := do
  let safe ← latestAcceptedPlannedAttemptExecutorEvidence source plannedAttempt none
  if !safe.report.isSafelySuspended ||
      (latestUnsettledPlannedAttemptExecutorCommand source plannedAttempt).isSome then none
  else if (executorRecordsForAttempt source plannedAttempt.attemptId).any fun record =>
      record.position > safe.observedAt && intendsBeginOrResume plannedAttempt record.event then none
  else some safe

end Dalph
