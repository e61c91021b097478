import Dalph.Workflow.PresentedEvidence

/-!
# Executor lifecycle

An executor's report is accepted as a step of a lifecycle: each step follows the accepted report
before it and is caused by an exact command.  Accepted reports in turn permit commands.
-/

namespace Dalph

def acceptedReport? : WorkflowJournalEvent → Option PlannedAttemptExecutorReport
  | .plannedAttemptExecutorWorkReported event => some event.report
  | _ => none

def acceptsReportFor (plannedAttempt : PlannedTaskAttempt) (record : JournalRecord) : Bool :=
  (acceptedReport? record.event).any (exactCorrelation · plannedAttempt)

def acceptedPlannedAttemptExecutorReportRecords (source : JournalHistorySource)
    (plannedAttempt : PlannedTaskAttempt) : List JournalRecord :=
  (journalRecordsForAttempt plannedAttempt.attemptId source).filter (acceptsReportFor plannedAttempt)

def exactCommandIntended? (plannedAttempt : PlannedTaskAttempt) :
    WorkflowJournalEvent → Option PlannedAttemptExecutorCommandIntended
  | .plannedAttemptExecutorCommandIntended event =>
      if plannedTaskAttemptEquivalence event.plannedAttempt plannedAttempt then some event else none
  | _ => none

/-- The record intends one command of the exact plan under the command's own key. -/
def exactAttemptCommand (record : JournalRecord) (plannedAttempt : PlannedTaskAttempt)
    (commandOrdinal : Nat) (command : PlannedAttemptExecutorCommand) : Bool :=
  record.runId = plannedAttempt.runId &&
    record.key =
      plannedAttemptExecutorCommandIntendedRecordKey plannedAttempt.attemptId commandOrdinal &&
    (exactCommandIntended? plannedAttempt record.event).any fun event =>
      event.command = command && event.ordinal = commandOrdinal

structure ExactCommandSettlement where
  commandOrdinal : Nat
  report : PlannedAttemptExecutorReport
deriving DecidableEq

def exactCommandSettlement (record : JournalRecord) (plannedAttempt : PlannedTaskAttempt) :
    Option ExactCommandSettlement :=
  match record.event with
  | .plannedAttemptExecutorCommandResponseObserved event =>
      if record.runId = plannedAttempt.runId &&
          plannedTaskAttemptEquivalence event.plannedAttempt plannedAttempt &&
          record.key = plannedAttemptExecutorCommandResponseObservedRecordKey
            plannedAttempt.attemptId event.commandOrdinal then
        some ⟨event.commandOrdinal, event.report⟩
      else none
  | .plannedAttemptExecutorCommandProjectionObserved event =>
      match event.observation with
      | .exactExecutorReport report =>
          if record.runId = plannedAttempt.runId &&
              plannedTaskAttemptEquivalence event.plannedAttempt plannedAttempt &&
              record.key = plannedAttemptExecutorCommandProjectionObservedRecordKey
                plannedAttempt.attemptId event.commandOrdinal event.projectionOrdinal then
            some ⟨event.commandOrdinal, report⟩
          else none
      | _ => none
  | _ => none

def followsCommandCutoff (position : JournalPosition) (after : Option JournalPosition) : Bool :=
  after.all fun after => position > after

def settlementKinds : List WorkflowJournalEventTag :=
  [.plannedAttemptExecutorCommandResponseObserved, .plannedAttemptExecutorCommandProjectionObserved]

def latestExactCommandSettlement (source : JournalHistorySource)
    (plannedAttempt : PlannedTaskAttempt) (after : Option JournalPosition)
    (observed : PlannedAttemptExecutorReport) : Option JournalRecord :=
  let settlements := settlementKinds.flatMap fun kind =>
    (journalRecordsForAttemptKind plannedAttempt.attemptId kind source).filter fun record =>
      followsCommandCutoff record.position after &&
        (exactCommandSettlement record plannedAttempt).any fun exact_ =>
          samePlannedAttemptExecutorReport exact_.report observed
  settlements.foldl (fun settlement record =>
    if settlement.all fun settled => record.position > settled.position then some record
    else settlement) none

def exactCommandSettledWith (source : JournalHistorySource) (plannedAttempt : PlannedTaskAttempt)
    (after : Option JournalPosition) (command : PlannedAttemptExecutorCommand)
    (observed : PlannedAttemptExecutorReport) : Bool :=
  (latestExactCommandSettlement source plannedAttempt after observed).any fun settlement =>
    (exactCommandSettlement settlement plannedAttempt).any fun exact_ =>
      (journalRecordsForAttemptKind plannedAttempt.attemptId
          .plannedAttemptExecutorCommandIntended source).any fun record =>
        followsCommandCutoff record.position after &&
          record.position < settlement.position &&
          exactAttemptCommand record plannedAttempt exact_.commandOrdinal command

def exactSuspendIntendedAfter (source : JournalHistorySource) (plannedAttempt : PlannedTaskAttempt)
    (acceptedExecutingAt : JournalPosition) : Bool :=
  (journalRecordsForAttemptKind plannedAttempt.attemptId .plannedAttemptExecutorCommandIntended
      source).any fun record =>
    record.position > acceptedExecutingAt &&
      (exactCommandIntended? plannedAttempt record.event).any fun event =>
        exactAttemptCommand record plannedAttempt event.ordinal .suspend

/-- Why an observed report is no next step of the lifecycle. -/
inductive PlannedAttemptExecutorLifecycleTransitionError where
  | beginReportContradiction (observed : PlannedAttemptExecutorReport)
  | initialReportCausalityContradiction (observed : PlannedAttemptExecutorReport)
  | lifecycleTransitionContradiction (accepted observed : PlannedAttemptExecutorReport)
  | terminalReportContradiction (accepted observed : PlannedAttemptExecutorReport)
deriving DecidableEq

def PlannedAttemptExecutorLifecycleTransitionError.tag :
    PlannedAttemptExecutorLifecycleTransitionError → String
  | beginReportContradiction _ => "PlannedAttemptExecutorBeginReportContradiction"
  | initialReportCausalityContradiction _ =>
      "PlannedAttemptExecutorInitialReportCausalityContradiction"
  | lifecycleTransitionContradiction _ _ =>
      "PlannedAttemptExecutorLifecycleTransitionContradiction"
  | terminalReportContradiction _ _ => "PlannedAttemptExecutorTerminalReportContradiction"

/-- The first report must settle Begin and show that work runs. -/
def initialLifecycleReportError (source : JournalHistorySource)
    (plannedAttempt : PlannedTaskAttempt) (observed : PlannedAttemptExecutorReport) :
    Option PlannedAttemptExecutorLifecycleTransitionError :=
  if !exactCommandSettledWith source plannedAttempt none .begin observed then
    some (.initialReportCausalityContradiction observed)
  else if observed.isExecuting then none
  else some (.beginReportContradiction observed)

/-- The observed report only proves that the writers of a rejected result stopped. -/
def provesStoppedCustody (retained : PlannedAttemptRejectedResult) :
    PlannedAttemptExecutorReport → Bool
  | .resultRejected _ observed =>
      retained.reason = observed.reason && retained.recoveryCause = observed.recoveryCause &&
        retained.responseCount = observed.responseCount && retained.custody = .unresolved &&
        observed.custody = .stopped
  | _ => false

def unlessCaused (caused : Bool) (accepted observed : PlannedAttemptExecutorReport) :
    Option PlannedAttemptExecutorLifecycleTransitionError :=
  if caused then none else some (.lifecycleTransitionContradiction accepted observed)

/-- A report that differs from the accepted one needs the command that caused the change. -/
def distinctAcceptedLifecycleReportError (source : JournalHistorySource)
    (plannedAttempt : PlannedTaskAttempt) (acceptedAt : JournalPosition)
    (accepted observed : PlannedAttemptExecutorReport) :
    Option PlannedAttemptExecutorLifecycleTransitionError :=
  match accepted with
  | .terminal _ _ => some (.terminalReportContradiction accepted observed)
  | .resultRejected _ retained =>
      unlessCaused (provesStoppedCustody retained observed ||
        (retained.custody = .stopped && (observed.isExecuting || observed.isTerminal) &&
          exactCommandSettledWith source plannedAttempt (some acceptedAt) .continueRejectedResult
            observed)) accepted observed
  | .executing _ =>
      unlessCaused (!observed.isSafelySuspended ||
        exactSuspendIntendedAfter source plannedAttempt acceptedAt) accepted observed
  | .safelySuspended _ =>
      unlessCaused (!observed.isExecuting ||
        exactCommandSettledWith source plannedAttempt (some acceptedAt) .resume observed)
        accepted observed

/-- Why a report is no next step of the accepted lifecycle. -/
def plannedAttemptExecutorLifecycleTransitionError (source : JournalHistorySource)
    (plannedAttempt : PlannedTaskAttempt) (observed : PlannedAttemptExecutorReport) :
    Option PlannedAttemptExecutorLifecycleTransitionError :=
  match lastJournalRecordForAttemptKind plannedAttempt.attemptId
      .plannedAttemptExecutorWorkReported source with
  | none => initialLifecycleReportError source plannedAttempt observed
  | some latest =>
      match acceptedReport? latest.event with
      | none => initialLifecycleReportError source plannedAttempt observed
      | some accepted =>
          if latest.runId ≠ plannedAttempt.runId || !exactCorrelation accepted plannedAttempt then
            initialLifecycleReportError source plannedAttempt observed
          else if samePlannedAttemptExecutorReport accepted observed then none
          else distinctAcceptedLifecycleReportError source plannedAttempt latest.position accepted
            observed

/-- Why a projection without an exact report cannot authorize work. -/
inductive PlannedAttemptExecutorProjectionWaitReason where
  | noCurrentReport
  | temporarilyUnavailable
  | unreadable
  | correlationContradiction
  | initialReportCausalityContradiction
  | lifecycleTransitionContradiction
deriving DecidableEq

def projectionIssueReason : WorkflowJournalEvent → Option PlannedAttemptExecutorProjectionWaitReason
  | .plannedAttemptExecutorCommandProjectionObserved event =>
      match event.observation with
      | .executorStateNoCurrentReport => some .noCurrentReport
      | .executorStateTemporarilyUnavailable => some .temporarilyUnavailable
      | .executorStateUnreadable => some .unreadable
      | .executorReportContradiction _ => some .correlationContradiction
      | .exactExecutorReport _ => none
      | .executorBeginNotCrossed _ => none
  | .plannedAttemptExecutorStateObserved event =>
      match event.observation with
      | .executorStateNoCurrentReport => some .noCurrentReport
      | .executorStateTemporarilyUnavailable => some .temporarilyUnavailable
      | .executorStateUnreadable => some .unreadable
      | .executorReportContradiction _ => some .correlationContradiction
      | .executorInitialReportCausalityContradiction _ => some .initialReportCausalityContradiction
      | .executorLifecycleTransitionContradiction _ _ => some .lifecycleTransitionContradiction
      | .exactExecutorReport _ => none
  | _ => none

def projectsAttempt (plannedAttempt : PlannedTaskAttempt) (record : JournalRecord) : Bool :=
  (projectedAttempt? record.event).any fun projected =>
    projected.runId = plannedAttempt.runId && projected.attemptId = plannedAttempt.attemptId

def latestProjectionIssueReason (source : JournalHistorySource)
    (plannedAttempt : PlannedTaskAttempt) :
    Option (JournalPosition × PlannedAttemptExecutorProjectionWaitReason) := do
  let record ← findLast (executorRecordsForAttempt source plannedAttempt.attemptId) fun record =>
    projectionShowsIssue record.event && projectsAttempt plannedAttempt record
  let reason ← projectionIssueReason record.event
  some (record.position, reason)

/-- The observation in place of an exact report, where passive reading was merely impossible. -/
def passiveReason? : WorkflowJournalEvent → Option PlannedAttemptExecutorProjectionWaitReason
  | .plannedAttemptExecutorStateObserved event =>
      match event.observation with
      | .executorStateUnreadable => some .unreadable
      | .executorStateTemporarilyUnavailable => some .temporarilyUnavailable
      | _ => none
  | _ => none

/-- An event behind an accepted Executing report leaves that report standing. -/
def retainsExecuting (plannedAttempt : PlannedTaskAttempt) : WorkflowJournalEvent → Bool
  | .plannedAttemptExecutorStateObserved event =>
      plannedTaskAttemptEquivalence event.plannedAttempt plannedAttempt &&
        match event.observation with
        | .executorStateUnreadable => true
        | .executorStateTemporarilyUnavailable => true
        | .exactExecutorReport report =>
            report.isExecuting && exactCorrelation report plannedAttempt
        | _ => false
  | .plannedAttemptExecutorCommandProjectionObserved _ => false
  | .plannedAttemptExecutorCommandResponseObserved event =>
      plannedTaskAttemptEquivalence event.plannedAttempt plannedAttempt &&
        event.report.isExecuting && exactCorrelation event.report plannedAttempt
  | _ => true

def pausesRun (runId : RunId) : WorkflowJournalEvent → Bool
  | .controlDirectionApplied event =>
      event.direction = .pause &&
        match event.subject with
        | .run paused => paused = runId
        | .task _ _ => false
  | _ => false

/-- The control that asks for the suspension: the cancellation of the Run, or else its pause. -/
def suspendingControl (source : JournalHistorySource) (runId : RunId) : Option JournalRecord :=
  (lastJournalRecordOfKind .runCancellationApplied source).orElse fun _ =>
    findLast (journalRecordsOfKind .controlDirectionApplied source) fun record =>
      pausesRun runId record.event

/-- An accepted Executing report outlasts a passive reading that was merely impossible. -/
def retainedExecutingIsAuthorized (source : JournalHistorySource)
    (plannedAttempt : PlannedTaskAttempt) : Bool :=
  let latestAccepted :=
    (acceptedPlannedAttemptExecutorReportRecords source plannedAttempt).getLast?
  let latestState := findLast
    (journalRecordsForAttemptKind plannedAttempt.attemptId .plannedAttemptExecutorStateObserved
      source) (projectsAttempt plannedAttempt)
  latestAccepted.any fun accepted =>
    (acceptedReport? accepted.event).any (·.isExecuting) &&
      (journalRecordsForAttempt plannedAttempt.attemptId source).all (fun record =>
        record.position ≤ accepted.position || retainsExecuting plannedAttempt record.event) &&
      latestState.any fun state =>
        accepted.position < state.position &&
          (latestProjectionIssueReason source plannedAttempt).any (fun issue =>
            issue.1 = state.position && passiveReason? state.event = some issue.2) &&
          (suspendingControl source plannedAttempt.runId).any fun control =>
            accepted.position < control.position

def plannedAttemptExecutorSuspensionIsAuthorized (source : JournalHistorySource)
    (plannedAttempt : PlannedTaskAttempt) : Bool :=
  ((latestPlannedAttemptExecutorEvidence source plannedAttempt none).any fun evidence =>
    evidence.isAccepted && evidence.report.isExecuting) ||
    retainedExecutingIsAuthorized source plannedAttempt

def isAppliedTerminalAttemptChoice (plannedAttempt : PlannedTaskAttempt) :
    WorkflowJournalEvent → Bool
  | .attemptChoiceApplied event =>
      (event.choice = .restartTaskImplementation || event.choice = .stopTaskImplementation) &&
        plannedTaskAttemptEquivalence event.subject.plannedAttempt plannedAttempt
  | _ => false

def appliedTerminalChoiceFor (source : JournalHistorySource) (plannedAttempt : PlannedTaskAttempt) :
    Option JournalRecord :=
  findLast (journalRecordsForAttemptKind plannedAttempt.attemptId .attemptChoiceApplied source)
    fun record => isAppliedTerminalAttemptChoice plannedAttempt record.event

end Dalph
