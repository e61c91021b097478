import Dalph.Coordination.Reconstruction.HistoryIndexes
import Dalph.Workflow.ExecutorLifecycle

/-!
# Executor chronology

Behind the other checks of a record the kernel checks what the executor of an attempt did: commands
are counted and answered one at a time, and reports are accepted in order.  Of the permission for a
command its witnesses are not read again, and of a beginning the lineage of its worktree is not
asked for: both only refuse more.
-/

namespace Dalph

structure ExecutorResponsibility where
  plannedAttempt : PlannedTaskAttempt
  position : JournalPosition
deriving DecidableEq

/-- The executor facts that the kernel keeps for the checks of later records. -/
structure ExecutorIndexes where
  executorCommandOrdinals : KeyedMap AttemptId Nat
  executorCommandCountsSinceSafeSuspension : KeyedMap (AttemptId × PlannedAttemptExecutorCommand) Nat
  executorCommandProjectionOrdinals : KeyedMap (AttemptId × Nat) Nat
  executorReportOrdinals : KeyedMap AttemptId Nat
  executorStateObservationOrdinals : KeyedMap AttemptId Nat
  executorResponsibilitiesBegan : KeyedMap AttemptId ExecutorResponsibility
  terminalExecutorAttempts : KeySet AttemptId
  unsettledExecutorCommands : KeyedMap AttemptId Nat

namespace ExecutorIndexes

def empty : ExecutorIndexes where
  executorCommandOrdinals := ∅
  executorCommandCountsSinceSafeSuspension := ∅
  executorCommandProjectionOrdinals := ∅
  executorReportOrdinals := ∅
  executorStateObservationOrdinals := ∅
  executorResponsibilitiesBegan := ∅
  terminalExecutorAttempts := .empty
  unsettledExecutorCommands := ∅

def responsibleFor (indexes : ExecutorIndexes) (plannedAttempt : PlannedTaskAttempt) : Bool :=
  (indexes.executorResponsibilitiesBegan.lookup plannedAttempt.attemptId).any fun responsibility =>
    plannedTaskAttemptEquivalence responsibility.plannedAttempt plannedAttempt

/-- How often a command of an attempt was intended, Suspend only since the last safe suspension. -/
def commandCount (indexes : ExecutorIndexes) (attemptId : AttemptId)
    (command : PlannedAttemptExecutorCommand) : Nat :=
  (indexes.executorCommandCountsSinceSafeSuspension.lookup (attemptId, command)).getD 0

end ExecutorIndexes

def nextOrdinal {Key : Type} [DecidableEq Key] (ordinals : KeyedMap Key Nat) (key : Key) : Nat :=
  (ordinals.lookup key).getD 0 + 1

/-- What an executor check leaves: the indexes behind the record and the issues it found. -/
structure ExecutorCheck where
  indexes : ExecutorIndexes
  issues : List String

/-- A responsibility begins once, for the plan that the attempt has. -/
def validateResponsibilityBegan (plannedAttempt : PlannedTaskAttempt) (record : JournalRecord)
    (plans : KeyedMap AttemptId PlannedTaskAttempt) (indexes : ExecutorIndexes) : ExecutorCheck :=
  let attemptId := plannedAttempt.attemptId
  let planned := issueUnless
    ((plans.lookup attemptId).any fun plan => plannedTaskAttemptEquivalence plan plannedAttempt)
    s!"executor work for attempt {attemptId.value} has no prior matching planned task attempt"
  match indexes.executorResponsibilitiesBegan.lookup attemptId with
  | some prior =>
      { indexes
        issues := planned ++
          [s!"task {plannedAttempt.taskId.value} has unfinished attempts " ++
            s!"{prior.plannedAttempt.attemptId.value} at position {prior.position} and " ++
            s!"{attemptId.value} at position {record.position}"] }
  | none =>
      { indexes :=
          { indexes with
            executorResponsibilitiesBegan :=
              indexes.executorResponsibilitiesBegan.insert attemptId
                ⟨plannedAttempt, record.position⟩ }
        issues := planned }

def defaultPlannedAttemptExecutorSuspensionLimit : Nat := 3

def beginsAttempt (attemptId : AttemptId) : WorkflowJournalEvent → Bool
  | .plannedAttemptExecutorCommandIntended event =>
      event.command = .begin && event.plannedAttempt.attemptId = attemptId
  | _ => false

/-- A Begin of the attempt was intended earlier; a list is searched, else its count is asked. -/
def priorBeginExists (attemptId : AttemptId) (position : JournalPosition)
    (source : JournalHistorySource) (indexes : ExecutorIndexes) : Bool :=
  match source with
  | .raw records =>
      records.any fun earlier => earlier.position < position && beginsAttempt attemptId earlier.event
  | .indexed _ => indexes.commandCount attemptId .begin > 0

def validateExecutorResumeAuthority (plannedAttempt : PlannedTaskAttempt)
    (prior : JournalHistorySource) : List String :=
  let attemptId := plannedAttempt.attemptId
  let priorTerminalChoice :=
    (appliedTerminalChoiceFor prior plannedAttempt).bind fun record => choiceOf? record.event
  (priorTerminalChoice.map fun choice =>
      s!"executor resume for attempt {attemptId.value} follows terminal choice " ++
        choice.requestId.nonce).toList ++
    issueUnless (currentUnconsumedAcceptedSafeEvidence prior plannedAttempt).isSome
      s!"executor resume for attempt {attemptId.value} lacks an unconsumed accepted safe suspension"

def validateExecutorSuspendAuthority (plannedAttempt : PlannedTaskAttempt)
    (prior : JournalHistorySource) : List String :=
  issueUnless (plannedAttemptExecutorSuspensionIsAuthorized prior plannedAttempt)
    (s!"executor Suspend for attempt {plannedAttempt.attemptId.value} lacks latest accepted " ++
      "executing-work authority")

def continueAuthorizedBy? (requestId : RunRequestId) (source : JournalHistorySource) :
    Option ResultRecoveryContinueAuthorized := do
  let record ← journalRecordByKey (resultRecoveryContinueAuthorizedRecordKey requestId) source
  match record.event with
  | .resultRecoveryContinueAuthorized event => some event
  | _ => none

def continueDirectionProblem (source : JournalHistorySource) (directedAt : JournalPosition)
    (directed : ResultRecoveryDirected) (requestId : RunRequestId)
    (witness : PlannedAttemptContinuationWitness) : Option String :=
  if directed.requestId.runId ≠ requestId.runId then
    some "no exact applied result recovery direction"
  else if directed.direction ≠ .continueRetainedAttempt || !directed.subject.isRejectedResult then
    some "the applied direction does not authorize retained-work Continue"
  else
    match resultRecoveryDirectionProblem directed requestId.runId source (some requestId) with
    | some problem => some problem
    | none =>
        (readBeforeDirection witness.reads directedAt source).map fun operationId =>
          s!"result recovery requires a fresh read intent after direction: {operationId.value}"

def resultRecoveryContinueAuthorizationProblem (source : JournalHistorySource)
    (event : ResultRecoveryContinueAuthorized) : Option String :=
  match (directedBy? event.requestId source).filter fun directed =>
    plannedTaskAttemptEquivalence directed.2.subject.plannedAttempt event.plannedAttempt with
  | none => some "result recovery authorization does not match its exact applied attempt"
  | some (record, directed) =>
      continueDirectionProblem source record.position directed event.requestId event.witness

def spendsPermission (nonce : String) : WorkflowJournalEvent → Bool
  | .plannedAttemptExecutorCommandIntended event =>
      event.recoveryAuthorization.any fun permission => permission.nonce = nonce
  | _ => false

/-- Why a command to continue a rejected result lacks its one permission. -/
def resultRecoveryContinueCommandProblem (source : JournalHistorySource)
    (command : PlannedAttemptExecutorCommandIntended) : Option String :=
  if command.command ≠ .continueRejectedResult then none
  else
    match command.recoveryAuthorization with
    | none => some "result recovery command lacks permission identity"
    | some permission =>
        match (continueAuthorizedBy? ⟨permission.nonce, permission.correlation.runId⟩ source).filter
          fun authorized =>
            plannedTaskAttemptEquivalence authorized.plannedAttempt command.plannedAttempt with
        | none => some "result recovery command lacks exact durable authorization"
        | some authorized =>
            if (journalRecordsForAttemptKind command.plannedAttempt.attemptId
                .plannedAttemptExecutorCommandIntended source).any fun prior =>
                  spendsPermission permission.nonce prior.event then
              some "one result recovery permission cannot allocate another semantic command"
            else resultRecoveryContinueAuthorizationProblem source authorized

def validateCommandAuthority (event : PlannedAttemptExecutorCommandIntended)
    (record : JournalRecord) (source : JournalHistorySource) (indexes : ExecutorIndexes) :
    List String :=
  let prior := priorRecords record.position source
  let attemptId := event.plannedAttempt.attemptId
  match event.command with
  | .begin =>
      issueUnless (!priorBeginExists attemptId record.position source indexes)
        s!"executor begin for attempt {attemptId.value} follows a prior begin intent"
  | .resume => validateExecutorResumeAuthority event.plannedAttempt prior
  | .suspend => validateExecutorSuspendAuthority event.plannedAttempt prior
  | .continueRejectedResult => (resultRecoveryContinueCommandProblem prior event).toList

/-- A command names the next ordinal of its attempt and leaves no earlier command unanswered. -/
def validateExecutorCommandIntent (event : PlannedAttemptExecutorCommandIntended)
    (record : JournalRecord) (source : JournalHistorySource) (indexes : ExecutorIndexes) :
    ExecutorCheck :=
  let attemptId := event.plannedAttempt.attemptId
  let expectedOrdinal := nextOrdinal indexes.executorCommandOrdinals attemptId
  let commandCount := indexes.commandCount attemptId event.command + 1
  { indexes :=
      { indexes with
        executorCommandOrdinals := indexes.executorCommandOrdinals.insert attemptId event.ordinal
        executorCommandCountsSinceSafeSuspension :=
          indexes.executorCommandCountsSinceSafeSuspension.insert (attemptId, event.command)
            commandCount
        unsettledExecutorCommands :=
          indexes.unsettledExecutorCommands.insert attemptId event.ordinal }
    issues :=
      issueUnless (indexes.responsibleFor event.plannedAttempt)
          (s!"executor command for attempt {attemptId.value} has no prior matching " ++
            "executor-work responsibility") ++
        issueUnless (event.ordinal = expectedOrdinal)
          (s!"executor command for attempt {attemptId.value} expected ordinal {expectedOrdinal}, " ++
            s!"found {event.ordinal}") ++
        issueUnless (event.command ≠ .suspend ||
            commandCount ≤ defaultPlannedAttemptExecutorSuspensionLimit)
          (s!"executor Suspend command for attempt {attemptId.value} exceeds durable limit " ++
            s!"{defaultPlannedAttemptExecutorSuspensionLimit}") ++
        validateCommandAuthority event record source indexes ++
        issueUnless (indexes.unsettledExecutorCommands.lookup attemptId).isNone
          (s!"executor command for attempt {attemptId.value} follows an unmatched prior command " ++
            "intent") ++
        issueUnless (!(attemptId ∈ indexes.terminalExecutorAttempts))
          s!"executor command follows the terminal result for attempt {attemptId.value}" }

structure ReconciledResumeStillSafe where
  observedAt : JournalPosition
  projectionOrdinal : Nat
  resumeCommandOrdinal : Nat
deriving DecidableEq

def PlannedAttemptExecutorResumeRedeliveryIntended.basis
    (event : PlannedAttemptExecutorResumeRedeliveryIntended) : ReconciledResumeStillSafe :=
  ⟨event.safeProjectionObservedAt, event.projectionOrdinal, event.commandOrdinal⟩

def exactWorkflowRunTargetForRun (source : JournalHistorySource) (runId : RunId) :
    Option TrackerTarget :=
  (JournalHistorySource.raw ((journalRecordsOfKind .workflowRunBegan source).filter fun record =>
    record.runId = runId)).exactWorkflowRunTargetFor

def intendsNamedResume (plannedAttempt : PlannedTaskAttempt) (basis : ReconciledResumeStillSafe)
    (event : WorkflowJournalEvent) : Bool :=
  (exactCommandIntended? plannedAttempt event).any fun command =>
    command.command = .resume && command.ordinal = basis.resumeCommandOrdinal

/-- The event intends or answers a command of the exact plan. -/
def supersedesResume (plannedAttempt : PlannedTaskAttempt) : WorkflowJournalEvent → Bool
  | .plannedAttemptExecutorCommandIntended event =>
      plannedTaskAttemptEquivalence event.plannedAttempt plannedAttempt
  | .plannedAttemptExecutorCommandResponseObserved event =>
      plannedTaskAttemptEquivalence event.plannedAttempt plannedAttempt
  | .plannedAttemptExecutorCommandResponseContradicted event =>
      plannedTaskAttemptEquivalence event.plannedAttempt plannedAttempt
  | _ => false

def projectsNamedSafe (plannedAttempt : PlannedTaskAttempt) (basis : ReconciledResumeStillSafe) :
    WorkflowJournalEvent → Bool
  | .plannedAttemptExecutorCommandProjectionObserved event =>
      event.commandOrdinal = basis.resumeCommandOrdinal &&
        event.projectionOrdinal = basis.projectionOrdinal &&
        plannedTaskAttemptEquivalence event.plannedAttempt plannedAttempt &&
        match event.observation with
        | .exactExecutorReport report =>
            report.isSafelySuspended && exactCorrelation report plannedAttempt
        | _ => false
  | _ => false

def consumesProjection (plannedAttempt : PlannedTaskAttempt) (basis : ReconciledResumeStillSafe) :
    WorkflowJournalEvent → Bool
  | .plannedAttemptExecutorResumeRedeliveryIntended event =>
      plannedTaskAttemptEquivalence event.plannedAttempt plannedAttempt && event.basis = basis
  | _ => false

def supersededBeforeProjection (source : JournalHistorySource) (plannedAttempt : PlannedTaskAttempt)
    (basis : ReconciledResumeStillSafe) (intendedAt : JournalPosition) : Bool :=
  ((journalRecordsForAttempt plannedAttempt.attemptId source).any fun record =>
    record.position > intendedAt && record.position < basis.observedAt &&
      supersedesResume plannedAttempt record.event) ||
    (plannedAttemptExecutorEvidence source plannedAttempt none).any fun evidence =>
      evidence.observedAt > intendedAt && evidence.observedAt < basis.observedAt &&
        !evidence.report.isSafelySuspended

def supersededBehindProjection (source : JournalHistorySource) (plannedAttempt : PlannedTaskAttempt)
    (basis : ReconciledResumeStillSafe) : Bool :=
  ((plannedAttemptExecutorEvidence source plannedAttempt none).any fun evidence =>
    evidence.observedAt > basis.observedAt) ||
    (journalRecordsForAttempt plannedAttempt.attemptId source).any fun record =>
      record.position > basis.observedAt && intendsBeginOrResume plannedAttempt record.event

/-- Why a Resume is not redelivered. -/
def resumeRedeliveryProblem (source : JournalHistorySource) (plannedAttempt : PlannedTaskAttempt)
    (basis : ReconciledResumeStillSafe) : Option String :=
  let attemptRecords := journalRecordsForAttempt plannedAttempt.attemptId source
  if (exactWorkflowRunTargetForRun source plannedAttempt.runId).isNone then
    some "Resume redelivery requires exactly one immutable WorkflowRunBegan target"
  else if (appliedTerminalChoiceFor source plannedAttempt).isSome then
    some "Resume redelivery follows an applied terminal choice"
  else
    match findLast attemptRecords fun record =>
      record.position < basis.observedAt && intendsNamedResume plannedAttempt basis record.event with
    | none => some "Resume redelivery requires its exact accepted Resume intent"
    | some intended =>
        if supersededBeforeProjection source plannedAttempt basis intended.position then
          some "Resume redelivery follows intervening executor command evidence"
        else if !attemptRecords.any fun record =>
            record.position = basis.observedAt &&
              projectsNamedSafe plannedAttempt basis record.event then
          some "Resume redelivery requires the exact Safe command projection"
        else if supersededBehindProjection source plannedAttempt basis then
          some "Resume redelivery eligibility was superseded by later executor evidence"
        else if attemptRecords.any fun record =>
            consumesProjection plannedAttempt basis record.event then
          some "the exact reconciled Safe projection already authorized a redelivery"
        else none

/-- A redelivery asks again for the answer to its Resume. -/
def validateExecutorResumeRedeliveryIntent (event : PlannedAttemptExecutorResumeRedeliveryIntended)
    (record : JournalRecord) (source : JournalHistorySource) (indexes : ExecutorIndexes) :
    ExecutorCheck :=
  let prior := priorRecords record.position source
  let attemptId := event.plannedAttempt.attemptId
  let expectedOrdinal :=
    journalRecordCountForAttemptCommandKind attemptId event.commandOrdinal
      .plannedAttemptExecutorResumeRedeliveryIntended prior + 1
  { indexes :=
      { indexes with
        unsettledExecutorCommands :=
          indexes.unsettledExecutorCommands.insert attemptId event.commandOrdinal }
    issues :=
      ((resumeRedeliveryProblem prior event.plannedAttempt event.basis).map fun detail =>
          s!"executor Resume redelivery lacks exact authorization: {detail}").toList ++
        issueUnless (event.redeliveryOrdinal = expectedOrdinal)
          (s!"executor Resume redelivery expected ordinal {expectedOrdinal}, " ++
            s!"found {event.redeliveryOrdinal}") }

/-- What is said against an event about a command that its attempt does not owe. -/
def validateNamedCommand (owned named : String) (plannedAttempt : PlannedTaskAttempt)
    (commandOrdinal : Nat) (indexes : ExecutorIndexes) : List String :=
  let attemptId := plannedAttempt.attemptId
  issueUnless (indexes.responsibleFor plannedAttempt)
      (s!"{owned} for attempt {attemptId.value} has no prior matching " ++
        "executor-work responsibility") ++
    issueUnless (indexes.unsettledExecutorCommands.lookup attemptId = some commandOrdinal)
      s!"{named} for attempt {attemptId.value} does not name its unmatched command intent"

def ExecutorIndexes.settle (indexes : ExecutorIndexes) (attemptId : AttemptId) : ExecutorIndexes :=
  { indexes with
    unsettledExecutorCommands := indexes.unsettledExecutorCommands.erase attemptId }

def validateCommandObservation (event : PlannedAttemptExecutorCommandProjectionObserved)
    (record : JournalRecord) (source : JournalHistorySource) : List String :=
  let attemptId := event.plannedAttempt.attemptId
  match event.observation with
  | .executorReportContradiction observed =>
      issueUnless (!exactCorrelation observed event.plannedAttempt)
        (s!"executor command projection contradiction for attempt {attemptId.value} contains the " ++
          "expected correlation")
  | .executorBeginNotCrossed _ =>
      issueUnless
        ((latestUnsettledPlannedAttemptExecutorCommand (priorRecords record.position source)
            event.plannedAttempt).any fun intended =>
          intended.command = .begin && intended.ordinal = event.commandOrdinal)
        (s!"executor Begin-not-crossed projection for attempt {attemptId.value} requires its " ++
          "exact unsettled Begin intent")
  | _ => []

/-- A command projection is about the unanswered command; an exact report answers it. -/
def validateCommandProjection (event : PlannedAttemptExecutorCommandProjectionObserved)
    (record : JournalRecord) (source : JournalHistorySource) (indexes : ExecutorIndexes) :
    ExecutorCheck :=
  let attemptId := event.plannedAttempt.attemptId
  let projectionKey := (attemptId, event.commandOrdinal)
  let expectedOrdinal := nextOrdinal indexes.executorCommandProjectionOrdinals projectionKey
  let projected :=
    { indexes with
      executorCommandProjectionOrdinals :=
        indexes.executorCommandProjectionOrdinals.insert projectionKey event.projectionOrdinal }
  { indexes :=
      match event.observation with
      | .exactExecutorReport report =>
          if exactCorrelation report event.plannedAttempt then projected.settle attemptId
          else projected
      | _ => projected
    issues :=
      validateNamedCommand "executor command projection" "executor projection"
          event.plannedAttempt event.commandOrdinal indexes ++
        issueUnless (event.projectionOrdinal = expectedOrdinal)
          (s!"executor projection for attempt {attemptId.value} expected ordinal " ++
            s!"{expectedOrdinal}, found {event.projectionOrdinal}") ++
        validateCommandObservation event record source }

def validateCommandResponse (event : PlannedAttemptExecutorCommandResponseObserved)
    (indexes : ExecutorIndexes) : ExecutorCheck :=
  { indexes :=
      if exactCorrelation event.report event.plannedAttempt then
        indexes.settle event.plannedAttempt.attemptId
      else indexes
    issues := validateNamedCommand "executor command response" "executor command response"
      event.plannedAttempt event.commandOrdinal indexes }

/-- A contradictory response is about the unanswered command and leaves it unanswered. -/
def validateCommandResponseContradiction
    (event : PlannedAttemptExecutorCommandResponseContradicted) (indexes : ExecutorIndexes) :
    ExecutorCheck :=
  { indexes
    issues :=
      validateNamedCommand "contradictory executor response" "contradictory executor response"
          event.plannedAttempt event.commandOrdinal indexes ++
        issueUnless (!exactCorrelation event.observed event.plannedAttempt)
          (s!"contradictory executor response for attempt {event.plannedAttempt.attemptId.value} " ++
            "contains the expected correlation") }

def isRecognizedExecutorLifecycleContradiction (accepted observed : PlannedAttemptExecutorReport) :
    Bool :=
  !samePlannedAttemptExecutorReport accepted observed &&
    (accepted.isTerminal || (accepted.isExecuting && observed.isSafelySuspended) ||
      (accepted.isSafelySuspended && observed.isExecuting))

/-- What is said against a passive observation. -/
def validateStateObservationContent (event : PlannedAttemptExecutorStateObserved)
    (prior : JournalHistorySource) : List String :=
  let attemptId := event.plannedAttempt.attemptId
  match event.observation with
  | .exactExecutorReport report =>
      ((plannedAttemptExecutorLifecycleTransitionError prior event.plannedAttempt report).map
        fun contradiction =>
          s!"exact executor state observation for attempt {attemptId.value} violates " ++
            contradiction.tag).toList
  | .executorReportContradiction observed =>
      issueUnless (!exactCorrelation observed event.plannedAttempt)
        (s!"executor state observation contradiction for attempt {attemptId.value} contains the " ++
          "expected correlation")
  | .executorInitialReportCausalityContradiction observed =>
      if !exactCorrelation observed event.plannedAttempt then
        [s!"executor initial-report causality contradiction for attempt {attemptId.value} " ++
          "contains a contradictory correlation"]
      else issueUnless
        (plannedAttemptExecutorLifecycleTransitionError prior event.plannedAttempt observed =
          some (.initialReportCausalityContradiction observed))
        (s!"executor initial-report causality contradiction for attempt {attemptId.value} does " ++
          "not describe a missing exact Begin settlement")
  | .executorLifecycleTransitionContradiction accepted observed =>
      issueUnless
          (exactCorrelation accepted event.plannedAttempt &&
            exactCorrelation observed event.plannedAttempt)
          (s!"executor lifecycle transition contradiction for attempt {attemptId.value} contains " ++
            "a contradictory correlation") ++
        issueUnless
          (((lastJournalRecordForAttemptKind attemptId .plannedAttemptExecutorWorkReported
              prior).bind fun latest => acceptedReport? latest.event).any fun latest =>
                samePlannedAttemptExecutorReport latest accepted)
          (s!"executor lifecycle transition contradiction for attempt {attemptId.value} does not " ++
            "name its latest accepted report") ++
        issueUnless (isRecognizedExecutorLifecycleContradiction accepted observed)
          (s!"executor lifecycle transition contradiction for attempt {attemptId.value} does not " ++
            "contain a contradictory lifecycle transition")
  | _ => []

/-- A passive observation waits until every command is answered. -/
def validateStateObservation (event : PlannedAttemptExecutorStateObserved) (record : JournalRecord)
    (source : JournalHistorySource) (indexes : ExecutorIndexes) : ExecutorCheck :=
  let attemptId := event.plannedAttempt.attemptId
  let expectedOrdinal := nextOrdinal indexes.executorStateObservationOrdinals attemptId
  { indexes :=
      { indexes with
        executorStateObservationOrdinals :=
          indexes.executorStateObservationOrdinals.insert attemptId event.ordinal }
    issues :=
      issueUnless (indexes.responsibleFor event.plannedAttempt)
          (s!"executor state observation for attempt {attemptId.value} has no prior matching " ++
            "executor-work responsibility") ++
        issueUnless (indexes.unsettledExecutorCommands.lookup attemptId).isNone
          (s!"executor state observation for attempt {attemptId.value} bypasses its unmatched " ++
            "command intent") ++
        issueUnless (event.ordinal = expectedOrdinal)
          (s!"executor state observation for attempt {attemptId.value} expected ordinal " ++
            s!"{expectedOrdinal}, found {event.ordinal}") ++
        validateStateObservationContent event (priorRecords record.position source) }

def unacceptedEvidenceKinds : List WorkflowJournalEventTag :=
  [.plannedAttemptExecutorCommandResponseObserved,
    .plannedAttemptExecutorCommandResponseContradicted,
    .plannedAttemptExecutorCommandProjectionObserved, .plannedAttemptExecutorStateObserved]

def latestRecord (records : List JournalRecord) : Option JournalRecord :=
  records.foldl (fun latest candidate =>
    if latest.all fun latest => candidate.position > latest.position then some candidate
    else latest) none

def latestUnacceptedExecutorEvidenceFor (prior : JournalHistorySource)
    (priorAcceptedPosition : Option JournalPosition) (attemptId : AttemptId) : Option JournalRecord :=
  (latestRecord (unacceptedEvidenceKinds.filterMap fun kind =>
    lastJournalRecordForAttemptKind attemptId kind prior)).filter fun candidate =>
      priorAcceptedPosition.all fun accepted => candidate.position > accepted

/-- The exact report that an event observed, without accepting it. -/
def executorReportFromEvidence? : WorkflowJournalEvent → Option PlannedAttemptExecutorReport
  | .plannedAttemptExecutorCommandResponseObserved event => some event.report
  | .plannedAttemptExecutorCommandProjectionObserved event =>
      match event.observation with
      | .exactExecutorReport report => some report
      | _ => none
  | .plannedAttemptExecutorStateObserved event =>
      match event.observation with
      | .exactExecutorReport report => some report
      | _ => none
  | _ => none

def causalExecutorCommandOrdinal : WorkflowJournalEvent → Option Nat
  | .plannedAttemptExecutorCommandResponseObserved event => some event.commandOrdinal
  | .plannedAttemptExecutorCommandProjectionObserved event => some event.commandOrdinal
  | _ => none

def isMatchingCausalResume (evidencePosition priorAcceptedPosition : JournalPosition)
    (correlation : PlannedAttemptExecutorCorrelation) (commandOrdinal : Nat)
    (candidate : JournalRecord) : Bool :=
  match candidate.event with
  | .plannedAttemptExecutorCommandIntended event =>
      candidate.position < evidencePosition && candidate.position > priorAcceptedPosition &&
        event.command = .resume && event.ordinal = commandOrdinal &&
        event.plannedAttempt.runId = correlation.runId &&
        event.plannedAttempt.attemptId = correlation.attemptId
  | _ => false

/-- The Resume that caused a report; a list is searched, else its key is asked. -/
def exactCausalResumeCommand (source : JournalHistorySource)
    (correlation : PlannedAttemptExecutorCorrelation) (commandOrdinal : Nat)
    (evidencePosition priorAcceptedPosition : JournalPosition) : Option JournalRecord :=
  let matching :=
    isMatchingCausalResume evidencePosition priorAcceptedPosition correlation commandOrdinal
  match source with
  | .raw records => findLast records matching
  | .indexed _ =>
      (journalRecordByKey (plannedAttemptExecutorCommandIntendedRecordKey correlation.attemptId
        commandOrdinal) source).filter matching

/-- What is said against work that runs again without the Resume that caused it. -/
def validateSafeToExecutingCausality (event : PlannedAttemptExecutorWorkReported)
    (record : JournalRecord) (source : JournalHistorySource)
    (priorAccepted latestUnaccepted : Option JournalRecord) : List String :=
  let evidencePosition := (latestUnaccepted.map (·.position)).getD record.position
  let commandOrdinal := latestUnaccepted.bind fun latest => causalExecutorCommandOrdinal latest.event
  priorAccepted.toList.flatMap fun prior =>
    if (acceptedReport? prior.event).any (·.isSafelySuspended) && event.report.isExecuting then
      issueUnless
        (commandOrdinal.any fun commandOrdinal =>
          (exactCausalResumeCommand source event.report.correlation commandOrdinal evidencePosition
            prior.position).isSome)
        ("executor lifecycle transition from accepted safe suspension to executing for attempt " ++
          s!"{event.report.correlation.attemptId.value} requires its matching Resume command " ++
          "response or projection")
    else []

def recordExecutorWorkReportOutcome (event : PlannedAttemptExecutorWorkReported)
    (indexes : ExecutorIndexes) : ExecutorIndexes :=
  let attemptId := event.report.correlation.attemptId
  match event.report with
  | .terminal _ _ =>
      { indexes with terminalExecutorAttempts := indexes.terminalExecutorAttempts.add attemptId }
  | .safelySuspended _ =>
      { indexes with
        executorCommandCountsSinceSafeSuspension :=
          indexes.executorCommandCountsSinceSafeSuspension.erase (attemptId, .suspend) }
  | _ => indexes

/-- A report is accepted in its order, from the latest evidence and as the next lifecycle step. -/
def validateExecutorWorkReport (event : PlannedAttemptExecutorWorkReported) (record : JournalRecord)
    (source : JournalHistorySource) (indexes : ExecutorIndexes) : ExecutorCheck :=
  let prior := priorRecords record.position source
  let correlation := event.report.correlation
  let attemptId := correlation.attemptId
  let responsibility := indexes.executorResponsibilitiesBegan.lookup attemptId
  let expectedOrdinal := nextOrdinal indexes.executorReportOrdinals attemptId
  let priorAccepted :=
    lastJournalRecordForAttemptKind attemptId .plannedAttemptExecutorWorkReported prior
  let latestUnaccepted :=
    latestUnacceptedExecutorEvidenceFor prior (priorAccepted.map (·.position)) attemptId
  let evidenceReport := latestUnaccepted.bind fun latest => executorReportFromEvidence? latest.event
  let lifecycleError := responsibility.bind fun responsibility =>
    plannedAttemptExecutorLifecycleTransitionError prior responsibility.plannedAttempt event.report
  { indexes := recordExecutorWorkReportOutcome event
      { indexes with
        executorReportOrdinals := indexes.executorReportOrdinals.insert attemptId event.ordinal }
    issues :=
      issueUnless (responsibility.any fun responsibility =>
          correlation.runId = responsibility.plannedAttempt.runId)
          (s!"executor report for attempt {attemptId.value} has no prior matching " ++
            "executor-work responsibility") ++
        issueUnless (event.ordinal = expectedOrdinal)
          (s!"executor report for attempt {attemptId.value} expected ordinal {expectedOrdinal}, " ++
            s!"found {event.ordinal}") ++
        issueUnless (evidenceReport.any (samePlannedAttemptExecutorReport · event.report))
          (s!"executor report for attempt {attemptId.value} lacks a matching unaccepted command " ++
            "response or observation") ++
        (lifecycleError.map fun contradiction =>
          s!"executor lifecycle report for attempt {attemptId.value} violates " ++
            contradiction.tag).toList ++
        validateSafeToExecutingCausality event record source priorAccepted latestUnaccepted ++
        issueUnless (!((priorAccepted.bind fun accepted => acceptedReport? accepted.event).any
            (samePlannedAttemptExecutorReport · event.report)))
          s!"executor report for attempt {attemptId.value} repeats an unchanged lifecycle report" ++
        issueUnless (!(attemptId ∈ indexes.terminalExecutorAttempts))
          s!"executor report follows the terminal result for attempt {attemptId.value}" }

def validateExecutorWork (record : JournalRecord) (source : JournalHistorySource)
    (plans : KeyedMap AttemptId PlannedTaskAttempt) (indexes : ExecutorIndexes) : ExecutorCheck :=
  match record.event with
  | .plannedAttemptExecutorWorkResponsibilityBegan plannedAttempt =>
      validateResponsibilityBegan plannedAttempt record plans indexes
  | .plannedAttemptExecutorCommandIntended event =>
      validateExecutorCommandIntent event record source indexes
  | .plannedAttemptExecutorResumeRedeliveryIntended event =>
      validateExecutorResumeRedeliveryIntent event record source indexes
  | .plannedAttemptExecutorCommandProjectionObserved event =>
      validateCommandProjection event record source indexes
  | .plannedAttemptExecutorCommandResponseObserved event => validateCommandResponse event indexes
  | .plannedAttemptExecutorCommandResponseContradicted event =>
      validateCommandResponseContradiction event indexes
  | .plannedAttemptExecutorStateObserved event =>
      validateStateObservation event record source indexes
  | .plannedAttemptExecutorWorkReported event =>
      validateExecutorWorkReport event record source indexes
  | _ => { indexes, issues := [] }

def validateExecutorRun (record : JournalRecord) (runId : RunId) : List String :=
  match record.event.executorCorrelation? with
  | none => []
  | some correlation =>
      issueUnless (correlation.runId = runId)
        (s!"executor work for attempt {correlation.attemptId.value} binds run " ++
          s!"{correlation.runId.value}")

structure KernelIndexes where
  fold : FoldIndexes
  executor : ExecutorIndexes

def emptyKernel : KernelIndexes := ⟨emptyIndexes, .empty⟩

/-- What the kernel leaves: the indexes behind a record and the issues it found. -/
structure KernelCheck where
  indexes : KernelIndexes
  issues : List String

/-- A repeated key ends the checks of a record, unless it begins an executor's responsibility. -/
def executorChecked (record : JournalRecord) (seenKeys : KeySet JournalRecordKey) : Bool :=
  !(record.key ∈ seenKeys) ||
    record.event.tag = .plannedAttemptExecutorWorkResponsibilityBegan

def validateKernelRecord (record : JournalRecord) (index : Nat) (runId : RunId)
    (source : JournalHistorySource) (indexes : KernelIndexes) : KernelCheck :=
  let checked := validateRecord record index runId source indexes.fold
  let worked :=
    if executorChecked record indexes.fold.seenKeys then
      validateExecutorWork record source checked.indexes.plans indexes.executor
    else { indexes := indexes.executor, issues := [] }
  { indexes := ⟨checked.indexes, worked.indexes⟩
    issues := checked.issues ++ validateExecutorRun record runId ++ worked.issues }

def replayKernelFrom (replay : HistoryReplay) (runId : RunId) (records : List JournalRecord) :
    Nat → List JournalRecord → KernelIndexes → KernelCheck
  | _, [], indexes => { indexes, issues := [] }
  | index, record :: rest, indexes =>
      let checked := validateKernelRecord record index runId (replay.source records index) indexes
      let remaining := replayKernelFrom replay runId records (index + 1) rest checked.indexes
      { indexes := remaining.indexes, issues := checked.issues ++ remaining.issues }

def replayKernel (replay : HistoryReplay) (runId : RunId) (records : List JournalRecord) :
    KernelCheck :=
  replayKernelFrom replay runId records 0 records emptyKernel

end Dalph
