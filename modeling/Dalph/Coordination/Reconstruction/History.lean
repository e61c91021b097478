import Dalph.Coordination.Reconstruction.AttemptEndings

/-!
# Accepted histories

The checks of a record run in one order and hand on what they keep.  A history is accepted when the
replay over growing evidence finds nothing, or else the replay over the complete list finds nothing.
The checks of choices, endings, plans and cancellation are here, and of executor events those that
concern ended attempts; the others only refuse more.
-/

namespace Dalph

abbrev HistoryCheck := JournalRecord → RunId → JournalHistorySource → FoldIndexes → CheckResult

def reporting (issues : JournalRecord → RunId → JournalHistorySource → List String) : HistoryCheck :=
  fun record runId source indexes => { indexes, issues := issues record runId source }

def runChecks : List HistoryCheck → HistoryCheck
  | [], _, _, _, indexes => { indexes, issues := [] }
  | check :: checks, record, runId, source, indexes =>
      let checked := check record runId source indexes
      let rest := runChecks checks record runId source checked.indexes
      { indexes := rest.indexes, issues := checked.issues ++ rest.issues }

def validateCancelledAttemptHistory (record : JournalRecord) (runId : RunId)
    (source : JournalHistorySource) : List String :=
  validateNoForwardWorkAfterCancellation record runId source ++
    validateAbandonment record runId source

def recordChecks : List HistoryCheck :=
  [validateResultRecovery, validateAttemptChoice, validateAttemptStop,
    reporting validateCancelledAttemptHistory]

def uniqueRecordChecks : List HistoryCheck :=
  [validatePlannedAttemptReplacement, fun record _ _ indexes => validatePlan record indexes,
    fun record _ _ indexes => validateExecutorEvent record indexes]

def validateRecord (record : JournalRecord) (index : Nat) (runId : RunId)
    (source : JournalHistorySource) (indexes : FoldIndexes) : CheckResult :=
  let envelope := validateRecordEnvelope record index runId indexes
  let checked :=
    runChecks (if envelope.unique then recordChecks ++ uniqueRecordChecks else recordChecks)
      record runId source envelope.indexes
  { indexes := checked.indexes, issues := envelope.issues ++ checked.issues }

def replayFrom (replay : HistoryReplay) (runId : RunId) (records : List JournalRecord) :
    Nat → List JournalRecord → FoldIndexes → CheckResult
  | _, [], indexes => { indexes, issues := [] }
  | index, record :: rest, indexes =>
      let checked := validateRecord record index runId (replay.source records index) indexes
      let remaining := replayFrom replay runId records (index + 1) rest checked.indexes
      { indexes := remaining.indexes, issues := checked.issues ++ remaining.issues }

def replayHistory (replay : HistoryReplay) (runId : RunId) (records : List JournalRecord) :
    CheckResult :=
  replayFrom replay runId records 0 records emptyIndexes

def AcceptedHistory (runId : RunId) (records : List JournalRecord) : Prop :=
  (replayHistory .indexed runId records).issues = [] ∨
    (replayHistory .raw runId records).issues = []

instance (runId : RunId) (records : List JournalRecord) :
    Decidable (AcceptedHistory runId records) :=
  inferInstanceAs (Decidable (_ ∨ _))

namespace EstablishedRun

def runId : RunId := ⟨"established-run", by decide⟩

def recordsFrom (events : List WorkflowJournalEvent) : List JournalRecord :=
  events.mapIdx fun index event => ⟨event, event.expectedKey, index + 1, runId⟩

def target : TrackerTarget := .fixture "target"

def task : TaskId := ⟨"task"⟩

def claim : ActiveTaskClaim := ⟨⟨"claim"⟩, ⟨"dalph"⟩, task, ⟨"token"⟩⟩

def attempt : PlannedTaskAttempt where
  attemptId := ⟨"attempt"⟩
  baseSha := ⟨"base"⟩
  branch := "refs/heads/dalph/attempt"
  executor := "executor"
  runId := runId
  taskId := task
  taskRevision := ⟨"revision"⟩
  worktree := "/worktrees/attempt"

def graphRead : ReadTrackerGraphOperation where
  cause := .workflowEstablishment
  operationId := ⟨"graph"⟩
  predecessorOperationIds := [claim.operationId]
  explicitlyCoveredTaskIds := [task]
  target := target

def evidence : CompleteFactEvidence := ⟨⟨"graph-revision"⟩, ⟨[task], target⟩, graphRead.operationId⟩

def facts : CompleteTaskTrackerFactsObserved where
  factFamilies :=
    { identities := ⟨evidence, [task], [], target⟩
      lifecycles := ⟨evidence, [task], [(task, .opened)]⟩
      prerequisites := ⟨evidence, [task], [(task, [])]⟩
      groupings := ⟨evidence, [task], [(task, none)]⟩
      membership := ⟨evidence, [task], target⟩ }
  operationId := graphRead.operationId
  rootTaskId := some task
  target := target
  valid := by decide

def specificationRead (operationId behind : OperationId) : FocusedTaskReadOperation :=
  ⟨operationId, [behind], target, task⟩

def specification (operationId : OperationId) (fingerprint : TaskRevision) :
    WorkflowJournalEvent :=
  .taskTrackerFactsObserved
    (.focusedTaskWorkSpecificationFacts ⟨"body", fingerprint, operationId, target, task, "title"⟩)

def command (ordinal : Nat) (command : PlannedAttemptExecutorCommand) : WorkflowJournalEvent :=
  .plannedAttemptExecutorCommandIntended ⟨command, none, ordinal, attempt⟩

def response (ordinal : Nat) (report : PlannedAttemptExecutorReport) : WorkflowJournalEvent :=
  .plannedAttemptExecutorCommandResponseObserved ⟨ordinal, attempt, report⟩

def reported (ordinal : Nat) (report : PlannedAttemptExecutorReport) : WorkflowJournalEvent :=
  .plannedAttemptExecutorWorkReported ⟨ordinal, report⟩

def executing : PlannedAttemptExecutorReport := .executing (plannedAttemptExecutorCorrelation attempt)

def suspended : PlannedAttemptExecutorReport :=
  .safelySuspended (plannedAttemptExecutorCorrelation attempt)

def events : List WorkflowJournalEvent :=
  [.workflowRunBegan ⟨some (.explicitFixedBase attempt.baseSha), 1, ⟨"publication-target"⟩, target⟩,
    .taskClaimAcquisitionIntended ⟨⟨claim.operationId, claim.owner, task, claim.token⟩, .taskSelection, []⟩,
    .taskClaimAcquired claim,
    .taskTrackerReadIntentRecorded (.readTrackerGraph graphRead),
    .taskTrackerFactsObserved (.completeTaskTrackerFacts facts),
    .taskTrackerReadIntentRecorded
      (.readTaskWorkSpecification (specificationRead ⟨"specification"⟩ graphRead.operationId)),
    specification ⟨"specification"⟩ attempt.taskRevision,
    .taskAttemptPlanned ⟨⟨"plan"⟩, attempt, [⟨"specification"⟩]⟩,
    .taskWorktreeReconciliationIntended ⟨⟨"worktree"⟩, attempt, [⟨"plan"⟩]⟩,
    .taskWorktreeReady ⟨"worktree"⟩
      ⟨attempt.baseSha, attempt.branch, attempt.baseSha, attempt.worktree⟩,
    .plannedAttemptExecutorWorkResponsibilityBegan attempt,
    command 1 .begin, response 1 executing, reported 1 executing]

def suspendedEvents : List WorkflowJournalEvent :=
  events ++ [command 2 .suspend, response 2 suspended, reported 2 suspended]

example : AcceptedHistory runId (recordsFrom suspendedEvents) :=
  Or.inr (by decide +kernel)

end EstablishedRun

end Dalph
