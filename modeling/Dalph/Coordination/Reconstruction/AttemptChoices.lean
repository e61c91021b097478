import Dalph.Coordination.Reconstruction.HistoryReplay
import Dalph.Workflow.ExecutorEvidence
import Dalph.Workflow.IntegrationAdmission
import Dalph.Workflow.AttemptPlanning
import Dalph.WorkflowJournal.RunTarget

/-!
# Attempt choices

The Operator chooses how an attempt whose instructions changed proceeds.  A choice names the exact
plan, the latest observed fingerprint and a safely suspended executor; one choice wins each pair.
-/

namespace Dalph

def PlannedTaskAttempt.encode (plannedAttempt : PlannedTaskAttempt) : Json :=
  .obj [("attemptId", .str plannedAttempt.attemptId.value),
    ("baseSha", .str plannedAttempt.baseSha.value), ("branch", .str plannedAttempt.branch),
    ("executor", .str plannedAttempt.executor), ("runId", .str plannedAttempt.runId.value),
    ("taskId", .str plannedAttempt.taskId.value),
    ("taskRevision", .str plannedAttempt.taskRevision.value),
    ("worktree", .str plannedAttempt.worktree)]

def attemptChoiceSubjectKey (subject : AttemptChoiceSubject) : String :=
  Json.stringify
    (.obj [("observedTaskRevision", .str subject.observedTaskRevision.value),
      ("plannedAttempt", subject.plannedAttempt.encode)])

def sameAttemptChoiceSubject (left right : AttemptChoiceSubject) : Bool :=
  left.observedTaskRevision = right.observedTaskRevision &&
    plannedTaskAttemptEquivalence left.plannedAttempt right.plannedAttempt

@[simp]
theorem sameAttemptChoiceSubject_iff {left right : AttemptChoiceSubject} :
    sameAttemptChoiceSubject left right = true ↔ left = right := by
  cases left
  cases right
  simp [sameAttemptChoiceSubject, plannedTaskAttemptEquivalence]

def appliesChoiceTo (plannedAttempt : PlannedTaskAttempt) (choice : AttemptChoice) :
    WorkflowJournalEvent → Bool
  | .attemptChoiceApplied event =>
      event.choice = choice &&
        plannedTaskAttemptEquivalence event.subject.plannedAttempt plannedAttempt
  | _ => false

def replacesAttempt (plannedAttempt : PlannedTaskAttempt) : WorkflowJournalEvent → Bool
  | .plannedAttemptReplaced event =>
      plannedTaskAttemptEquivalence event.subject.plannedAttempt plannedAttempt
  | _ => false

def startsIntegrationOf (plannedAttempt : PlannedTaskAttempt) (event : WorkflowJournalEvent) : Bool :=
  (integrationStarted? event).any fun started =>
    started.facts.plannedAttempt.runId = plannedAttempt.runId &&
      started.facts.plannedAttempt.attemptId = plannedAttempt.attemptId

/-- The Run, the plan, the suspended executor and the fingerprint that a choice rests on. -/
def validateAttemptChoiceAuthority (event : AttemptChoiceApplied) (runId : RunId)
    (prior : JournalHistorySource) : List String :=
  let nonce := event.requestId.nonce
  let plannedAttempt := event.subject.plannedAttempt
  let latest := do
    latestSpecification prior plannedAttempt.taskId (← prior.exactWorkflowRunTargetFor)
  issueUnless (event.requestId.runId = runId && plannedAttempt.runId = runId)
      s!"attempt-choice request {nonce} binds run {plannedAttempt.runId.value}" ++
    issueUnless (recordedTaskAttemptPlanFor prior plannedAttempt).isSome
      s!"attempt-choice request {nonce} has no prior matching planned attempt" ++
    issueUnless (currentUnconsumedAcceptedSafeEvidence prior plannedAttempt).isSome
      (s!"attempt-choice request {nonce} requires the latest accepted safely-suspended executor " ++
        "report") ++
    issueUnless (latest.any fun facts => facts.fingerprint = event.subject.observedTaskRevision)
      s!"attempt-choice request {nonce} does not name the latest observed task fingerprint"

/-- No choice follows the replacement or the integration of its attempt. -/
def validateAttemptChoiceCutoffs (event : AttemptChoiceApplied) (prior : JournalHistorySource) :
    List String :=
  let nonce := event.requestId.nonce
  let plannedAttempt := event.subject.plannedAttempt
  let ofKind (kind : WorkflowJournalEventTag) :=
    journalRecordsForAttemptKind plannedAttempt.attemptId kind prior
  issueUnless
      (!(ofKind .plannedAttemptReplaced).any fun record =>
        replacesAttempt plannedAttempt record.event)
      s!"attempt-choice request {nonce} follows the atomic replacement of the same attempt" ++
    issueUnless
      (!(ofKind (.protocol .integrationStarted)).any fun record =>
        startsIntegrationOf plannedAttempt record.event)
      s!"attempt-choice request {nonce} follows the exact integration-start cutoff"

def choiceWasApplied (plannedAttempt : PlannedTaskAttempt) (choice : AttemptChoice)
    (directions : KeyedMap AttemptId PlannedTaskAttempt) (prior : JournalHistorySource) : Bool :=
  match prior with
  | .raw _ => (journalRecordsForAttempt plannedAttempt.attemptId prior).any fun record =>
      appliesChoiceTo plannedAttempt choice record.event
  | .indexed _ => (directions.lookup plannedAttempt.attemptId).isSome

/-- No choice follows Stop and no Continue follows Restart. -/
def validatePriorTerminalAttemptChoice (event : AttemptChoiceApplied)
    (prior : JournalHistorySource) (indexes : FoldIndexes) : List String :=
  let nonce := event.requestId.nonce
  let plannedAttempt := event.subject.plannedAttempt
  issueUnless
      (!choiceWasApplied plannedAttempt .stopTaskImplementation indexes.attemptStopDirections prior)
      s!"attempt-choice request {nonce} follows the terminal Stop direction for the same attempt" ++
    issueUnless
      (!(event.choice = .continueExistingAttempt &&
        choiceWasApplied plannedAttempt .restartTaskImplementation
          indexes.attemptRestartDirections prior))
      s!"Continue request {nonce} follows the terminal Restart direction for the same attempt"

def FoldIndexes.withChoice (indexes : FoldIndexes) (event : AttemptChoiceApplied) : FoldIndexes :=
  let plannedAttempt := event.subject.plannedAttempt
  { indexes with
    attemptChoiceSubjects := indexes.attemptChoiceSubjects.add (attemptChoiceSubjectKey event.subject)
    attemptStopDirections :=
      if event.choice = .stopTaskImplementation then
        indexes.attemptStopDirections.insert plannedAttempt.attemptId plannedAttempt
      else indexes.attemptStopDirections
    attemptRestartDirections :=
      if event.choice = .restartTaskImplementation then
        indexes.attemptRestartDirections.insert plannedAttempt.attemptId plannedAttempt
      else indexes.attemptRestartDirections }

def validateAttemptChoice (record : JournalRecord) (runId : RunId) (source : JournalHistorySource)
    (indexes : FoldIndexes) : CheckResult :=
  match record.event with
  | .attemptChoiceApplied event =>
      let prior := priorRecords record.position source
      { indexes := indexes.withChoice event
        issues :=
          validateAttemptChoiceAuthority event runId prior ++
            validateAttemptChoiceCutoffs event prior ++
            validatePriorTerminalAttemptChoice event prior indexes ++
            issueUnless (!(attemptChoiceSubjectKey event.subject ∈ indexes.attemptChoiceSubjects))
              (s!"attempt-choice request {event.requestId.nonce} follows the winning direction for the " ++
                "same fingerprint pair") }
  | _ => { indexes, issues := [] }

end Dalph
