import Dalph.Coordination.Reconstruction.AttemptChoices
import Dalph.Coordination.Reconstruction.CancelledAttempts
import Dalph.Workflow.ResultRecovery.Direction

/-!
# Endings of attempts

An attempt ends by Stop, by Restart, by result recovery or by the cancellation of its Run.  Each
ending is checked against the choice or direction it carries out and against the executor's state;
the reads that a replacement's witness names are not examined here.  No executor event follows an
abandonment by Stop or a replacement.
-/

namespace Dalph

def attemptRecordsUnderKey (key : JournalRecordKey) (attemptId : AttemptId)
    (source : JournalHistorySource) : List JournalRecord :=
  match source with
  | .raw _ => journalRecordsForAttempt attemptId source
  | .indexed _ => (journalRecordByKey key source).toList

def appliesChoice (choice : AttemptChoice) (requestId : RunRequestId)
    (subject : AttemptChoiceSubject) : WorkflowJournalEvent → Bool
  | .attemptChoiceApplied event =>
      event.choice = choice && event.requestId = requestId &&
        sameAttemptChoiceSubject event.subject subject
  | _ => false

def matchingAppliedStop (requestId : RunRequestId) (subject : AttemptChoiceSubject)
    (prior : JournalHistorySource) : Option JournalRecord :=
  (attemptRecordsUnderKey (attemptChoiceAppliedRecordKey requestId) subject.plannedAttempt.attemptId
    prior).find? fun record => appliesChoice .stopTaskImplementation requestId subject record.event

def validateStopEventAuthority (requestId : RunRequestId) (subject : AttemptChoiceSubject)
    (tag : String) (runId : RunId) (prior : JournalHistorySource) : List String :=
  issueUnless (requestId.runId = runId && subject.plannedAttempt.runId = runId)
      s!"attempt Stop request {requestId.nonce} binds another Run" ++
    issueUnless (matchingAppliedStop requestId subject prior).isSome
      s!"attempt Stop event {tag} requires its exact prior applied Stop choice"

def acceptedExecutorProofEvidenceFor (reportOrdinal : Nat) (plannedAttempt : PlannedTaskAttempt)
    (prior : JournalHistorySource) : Option PlannedAttemptExecutorEvidence :=
  proofEvidenceFor reportOrdinal plannedAttempt prior

def provesCurrentSuspension (reportOrdinal : Nat) (plannedAttempt : PlannedTaskAttempt)
    (prior : JournalHistorySource) : Bool :=
  (acceptedExecutorProofEvidenceFor reportOrdinal plannedAttempt prior).any fun evidence =>
    (latestPlannedAttemptExecutorEvidence prior plannedAttempt none).any fun current =>
      current.observedAt = evidence.observedAt && evidence.report.isSafelySuspended

def validateStopAbandonment (event : AttemptImplementationAbandoned) (prior : JournalHistorySource) :
    List String :=
  let plannedAttempt := event.subject.plannedAttempt
  let attempt := plannedAttempt.attemptId.value
  (if !provesCurrentSuspension event.reportOrdinal plannedAttempt prior then
      [s!"attempt abandonment for {attempt} requires its exact accepted Safe executor proof"]
    else
      issueUnless (latestUnsettledPlannedAttemptExecutorCommand prior plannedAttempt).isNone
        s!"attempt abandonment for {attempt} follows a later executor command") ++
    issueUnless
      ((authorizedClaimForAttempt prior plannedAttempt).any fun authorized =>
        isExactTaskClaim authorized event.expectedClaim)
      s!"attempt abandonment for {attempt} requires its exact authorized claim"

/-- What is said against a step of Stop, with the indexes behind it. -/
def validateAttemptStop (record : JournalRecord) (runId : RunId) (source : JournalHistorySource)
    (indexes : FoldIndexes) : CheckResult :=
  let prior := priorRecords record.position source
  match record.event with
  | .attemptStoppageIntended event =>
      { indexes
        issues := validateStopEventAuthority event.requestId event.subject "AttemptStoppageIntended"
          runId prior }
  | .stoppedAttemptClaimNoReleaseObserved event =>
      { indexes
        issues := validateStopEventAuthority event.requestId event.subject
          "StoppedAttemptClaimNoReleaseObserved" runId prior }
  | .attemptImplementationAbandoned event =>
      { indexes :=
          { indexes with
            abandonedExecutorAttempts :=
              indexes.abandonedExecutorAttempts.add event.subject.plannedAttempt.attemptId }
        issues :=
          validateStopEventAuthority event.requestId event.subject "AttemptImplementationAbandoned"
              runId prior ++
            validateStopAbandonment event prior }
  | _ => { indexes, issues := [] }

def appliedRestartForReplacement (event : PlannedAttemptReplaced) (prior : JournalHistorySource) :
    Option JournalRecord :=
  findLast (attemptRecordsUnderKey (attemptChoiceAppliedRecordKey event.requestId)
      event.subject.plannedAttempt.attemptId prior) fun record =>
    appliesChoice .restartTaskImplementation event.requestId event.subject record.event

def replacementFollowsIntegrationCutoff (prior : JournalHistorySource)
    (plannedAttempt : PlannedTaskAttempt) : Bool :=
  (journalRecordsForAttemptKind plannedAttempt.attemptId (.protocol .integrationStarted) prior).any
    fun record => startsIntegrationOf plannedAttempt record.event

/-- The named report is current, every command is answered and the executor is suspended. -/
def replacementQuiescenceIsCurrent (prior : JournalHistorySource)
    (plannedAttempt : PlannedTaskAttempt) (reportOrdinal : Nat) : Bool :=
  provesCurrentSuspension reportOrdinal plannedAttempt prior &&
    (latestUnsettledPlannedAttemptExecutorCommand prior plannedAttempt).isNone

def restartChoiceStands (prior : JournalHistorySource) (appliedAt : JournalPosition)
    (subject : AttemptChoiceSubject) : Bool :=
  prior.exactWorkflowRunTargetFor.any fun target =>
    !specificationDivergedAfter prior subject.plannedAttempt.taskId target
      subject.observedTaskRevision appliedAt

def FoldIndexes.withSuperseded (indexes : FoldIndexes) (attemptId : AttemptId) : FoldIndexes :=
  { indexes with
    supersededExecutorAttempts := indexes.supersededExecutorAttempts.add attemptId }

def validatePlannedAttemptReplacement (record : JournalRecord) (runId : RunId)
    (source : JournalHistorySource) (indexes : FoldIndexes) : CheckResult :=
  match record.event with
  | .plannedAttemptReplaced event =>
      let prior := priorRecords record.position source
      let plannedAttempt := event.subject.plannedAttempt
      let binding :=
        issueUnless (event.requestId.runId = runId && plannedAttempt.runId = runId)
          s!"planned-attempt replacement {event.requestId.nonce} binds another Run"
      match appliedRestartForReplacement event prior with
      | none =>
          { indexes
            issues :=
              binding ++ ["PlannedAttemptReplaced requires its exact prior applied Restart choice"] }
      | some applied =>
          { indexes := indexes.withSuperseded plannedAttempt.attemptId
            issues :=
              binding ++
                issueUnless (!(plannedAttempt.attemptId ∈ indexes.supersededExecutorAttempts))
                  s!"attempt {plannedAttempt.attemptId.value} already has a recorded successor" ++
                issueUnless (!replacementFollowsIntegrationCutoff prior plannedAttempt)
                  "PlannedAttemptReplaced follows the exact integration-start cutoff" ++
                issueUnless
                  (replacementQuiescenceIsCurrent prior plannedAttempt event.witness.reportOrdinal)
                  "PlannedAttemptReplaced requires current unbroken accepted Safe suspension" ++
                issueUnless (restartChoiceStands prior applied.position event.subject)
                  "PlannedAttemptReplaced lacks exact fresh F2, K1, W1, or H2 authority" }
  | _ => { indexes, issues := [] }

def directedBy? (requestId : RunRequestId) (source : JournalHistorySource) :
    Option (JournalRecord × ResultRecoveryDirected) := do
  let record ← journalRecordByKey (resultRecoveryDirectedRecordKey requestId) source
  match record.event with
  | .resultRecoveryDirected event => some (record, event)
  | _ => none

def readBeforeDirection (reads : List OperationId) (directedAt : JournalPosition)
    (source : JournalHistorySource) : Option OperationId :=
  reads.find? fun operationId =>
    (journalRecordByKey (intentRecordKey operationId) source).any fun intent =>
      intent.position ≤ directedAt

/-- Why a direction does not permit a replacement. -/
def restartDirectionProblem (source : JournalHistorySource) (directedAt : JournalPosition)
    (directed : ResultRecoveryDirected) (requestId : RunRequestId)
    (witness : PlannedAttemptContinuationWitness) : Option String :=
  if directed.direction ≠ .restartTaskImplementation then
    some "no exact applied result recovery Restart direction"
  else
    match resultRecoveryDirectionProblem directed requestId.runId source (some requestId) with
    | some problem => some problem
    | none =>
        if (readBeforeDirection witness.reads directedAt source).isSome then
          some "Restart requires reads started after its exact applied direction"
        else none

def retainsPlanAndClaim (source : JournalHistorySource) (event : ResultRecoveryAttemptReplaced) :
    Bool :=
  let prior := event.subject.plannedAttempt
  let predecessors := event.successorPlan.predecessorOperationIds
  (recordedTaskAttemptPlanFor source prior).any fun plan =>
    (authorizedClaimForAttempt source prior).any fun claim =>
      plan.operationId ∈ predecessors && claim.operationId ∈ predecessors

def resultRecoveryReplacementProblem (source : JournalHistorySource)
    (event : ResultRecoveryAttemptReplaced) : Option String :=
  let prior := event.subject.plannedAttempt
  match (directedBy? event.requestId source).filter fun directed =>
    directed.2.subject = event.subject with
  | none => some "result replacement requires its exact applied direction and selected report"
  | some (record, directed) =>
      match restartDirectionProblem source record.position directed event.requestId
        event.witness with
      | some problem => some problem
      | none =>
          if !event.subject.isRejectedResult && event.writerCustody.isNone then
            some ("historical failure requires separately reconciled executor writer custody before " ++
              "replacement")
          else if !retainsPlanAndClaim source event then
            some "result replacement must retain exact predecessor plan and claim authority"
          else if (journalRecordsForAttempt prior.attemptId source).any fun earlier =>
              replacesAttempt prior earlier.event then
            some "the retained result already has a successor"
          else none

/-- What is said against the steps of result recovery, with the indexes behind them. -/
def validateResultRecovery (record : JournalRecord) (runId : RunId) (source : JournalHistorySource)
    (indexes : FoldIndexes) : CheckResult :=
  let prior := priorRecords record.position source
  match record.event with
  | .resultRecoveryDirected event =>
      { indexes, issues := (resultRecoveryDirectionProblem event runId prior none).toList }
  | .resultRecoveryAttemptReplaced event =>
      { indexes := indexes.withSuperseded event.subject.plannedAttempt.attemptId
        issues := (resultRecoveryReplacementProblem prior event).toList }
  | _ => { indexes, issues := [] }

def validatePlan (record : JournalRecord) (indexes : FoldIndexes) : CheckResult :=
  match recordedPlan? record with
  | none => { indexes, issues := [] }
  | some plan =>
      let plannedAttempt := plan.plannedAttempt
      match indexes.plans.lookup plannedAttempt.attemptId with
      | none =>
          { indexes :=
              { indexes with
                plans := indexes.plans.insert plannedAttempt.attemptId plannedAttempt }
            issues := [] }
      | some prior =>
          { indexes
            issues :=
              [if plannedTaskAttemptEquivalence prior plannedAttempt then
                s!"duplicate planned task attempt for attempt {plannedAttempt.attemptId.value}"
              else
                s!"contradictory planned task attempts for attempt {plannedAttempt.attemptId.value}"] }

def executorEventName : WorkflowJournalEvent → String
  | .plannedAttemptExecutorWorkResponsibilityBegan _ =>
      "PlannedAttemptExecutorWorkResponsibilityBegan"
  | .plannedAttemptExecutorCommandIntended _ => "PlannedAttemptExecutorCommandIntended"
  | .plannedAttemptExecutorResumeRedeliveryIntended _ =>
      "PlannedAttemptExecutorResumeRedeliveryIntended"
  | .plannedAttemptExecutorCommandProjectionObserved _ =>
      "PlannedAttemptExecutorCommandProjectionObserved"
  | .plannedAttemptExecutorCommandResponseObserved _ =>
      "PlannedAttemptExecutorCommandResponseObserved"
  | .plannedAttemptExecutorCommandResponseContradicted _ =>
      "PlannedAttemptExecutorCommandResponseContradicted"
  | .plannedAttemptExecutorStateObserved _ => "PlannedAttemptExecutorStateObserved"
  | .plannedAttemptExecutorWorkReported _ => "PlannedAttemptExecutorWorkReported"
  | _ => ""

/-- An exact report must be about the plan whose executor gave it. -/
def validateReportCorrelation : WorkflowJournalEvent → List String
  | .plannedAttemptExecutorCommandResponseObserved event =>
      issueUnless (exactCorrelation event.report event.plannedAttempt)
        s!"executor command response for attempt {event.plannedAttempt.attemptId.value} is foreign"
  | .plannedAttemptExecutorCommandProjectionObserved event =>
      match event.observation with
      | .exactExecutorReport report =>
          issueUnless (exactCorrelation report event.plannedAttempt)
            (s!"executor command projection for attempt {event.plannedAttempt.attemptId.value} " ++
              "returned a contradictory correlation")
      | _ => []
  | .plannedAttemptExecutorStateObserved event =>
      match event.observation with
      | .exactExecutorReport report =>
          issueUnless (exactCorrelation report event.plannedAttempt)
            (s!"executor state observation for attempt {event.plannedAttempt.attemptId.value} " ++
              "returned a contradictory correlation")
      | _ => []
  | _ => []

def validateExecutorEvent (record : JournalRecord) (indexes : FoldIndexes) : CheckResult :=
  let cutoffs :=
    match record.event.executorCorrelation? with
    | none => []
    | some correlation =>
        issueUnless (!(correlation.attemptId ∈ indexes.abandonedExecutorAttempts))
            (s!"executor event {executorEventName record.event} follows abandonment of attempt " ++
              s!"{correlation.attemptId.value}") ++
          issueUnless (!(correlation.attemptId ∈ indexes.supersededExecutorAttempts))
            (s!"executor event {executorEventName record.event} follows replacement of attempt " ++
              s!"{correlation.attemptId.value}")
  { indexes, issues := cutoffs ++ validateReportCorrelation record.event }

end Dalph
