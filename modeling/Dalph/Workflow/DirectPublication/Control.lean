import Dalph.Workflow.DirectPublication.State

/-!
# Direct publication: batch grants and resume receipts

The Operator grants one more batch after an exhaustion, or resumes a retained publication.  Both
controls decide on one accepted prefix of the Run's journal: they answer a repeated request from its
record, refuse what the prefix does not support, and otherwise name the record to append.
-/

namespace Dalph

/-- Events that the controls read; every other kind is opaque to them. -/
inductive PublicationRunEvent where
  | workflowRunBegan (remotePublicationTarget : RemotePublicationTarget)
  | workflowRunTerminated
  | integrationResponsibilityBegan (facts : IntegrationResponsibilityFacts)
  | integrationStarted (responsibilityBeganAt : JournalPosition)
      (facts : IntegrationResponsibilityFacts)
  | publication (event : RemotePublicationTransitionEvent)
  | batchGrantApplied (request : RemotePublicationBatchGrantRequest)
  | other (payload : Payload)
deriving DecidableEq

namespace PublicationRunEvent

def grant? : PublicationRunEvent → Option RemotePublicationBatchGrantRequest
  | batchGrantApplied request => some request
  | _ => none

def receipt? :
    PublicationRunEvent → Option (RemotePublicationCorrelation × RemotePublicationResumeRequest)
  | publication (.resumeRequested correlation request) => some (correlation, request)
  | _ => none

def began? : PublicationRunEvent → Option RemotePublicationTarget
  | workflowRunBegan remotePublicationTarget => some remotePublicationTarget
  | _ => none

def transition? : PublicationRunEvent → Option RemotePublicationTransitionEvent
  | publication event => some event
  | _ => none

def retained? : PublicationRunEvent → Option
    (Option JournalPosition × RemotePublicationRetainedCause × RemotePublicationCorrelation)
  | publication (.retained _ batchGrantAt cause correlation) => some (batchGrantAt, cause, correlation)
  | _ => none

def attemptIntent? :
    PublicationRunEvent → Option (Option JournalPosition × RemotePublicationCorrelation)
  | publication (.attemptIntended _ batchGrantAt correlation _) => some (batchGrantAt, correlation)
  | _ => none

def responsibilityBegan? : PublicationRunEvent → Option IntegrationResponsibilityFacts
  | integrationResponsibilityBegan facts => some facts
  | _ => none

def started? : PublicationRunEvent → Option (JournalPosition × IntegrationResponsibilityFacts)
  | integrationStarted responsibilityBeganAt facts => some (responsibilityBeganAt, facts)
  | _ => none

end PublicationRunEvent

structure PublicationRunRecord where
  position : JournalPosition
  key : JournalRecordKey
  event : PublicationRunEvent
deriving DecidableEq

/-- Accepted records of one Run, in position order. -/
abbrev PublicationRunJournal := List PublicationRunRecord

namespace PublicationRunJournal

def byPosition (journal : PublicationRunJournal) (position : JournalPosition) :
    Option PublicationRunRecord :=
  journal.find? fun record => record.position = position

def firstWhere {Fact : Type} (journal : PublicationRunJournal)
    (read : PublicationRunEvent → Option Fact) (accept : Fact → Bool) :
    Option (JournalPosition × Fact) :=
  journal.findSome? fun record =>
    (read record.event).bind fun fact => if accept fact then some (record.position, fact) else none

def allOf {Fact : Type} (journal : PublicationRunJournal)
    (read : PublicationRunEvent → Option Fact) : List (JournalPosition × Fact) :=
  journal.filterMap fun record => (read record.event).map (record.position, ·)

end PublicationRunJournal

def remotePublicationEventsFor (journal : PublicationRunJournal)
    (correlation : RemotePublicationCorrelation) : List RemotePublicationTransitionEvent :=
  (journal.filterMap fun record => record.event.transition?).filter fun event =>
    event.correlation.requestId = correlation.requestId

def batchGrantReferencesExhaustion (journal : PublicationRunJournal)
    (grant : JournalPosition × RemotePublicationBatchGrantRequest) : Bool :=
  match (journal.byPosition grant.2.exhaustionAt).bind fun record =>
      record.event.retained?.map (record.position, ·) with
  | some (position, _, cause, correlation) =>
      position < grant.1 &&
        correlation.qualifiedCandidate.run.session.queuedAt = grant.2.responsibility.queuedAt &&
        (cause.tag = "AttemptsExhausted" || cause.tag = "CompatibleCompetingHead")
  | none => false

/-- Accepted grants for this exact Run responsibility in journal order. -/
def remotePublicationBatchGrantsFor (journal : PublicationRunJournal)
    (correlation : RemotePublicationCorrelation) :
    List (JournalPosition × RemotePublicationBatchGrantRequest) :=
  (journal.allOf (·.grant?)).filter fun grant =>
    grant.2.runId = remotePublicationRunIdOf correlation &&
      grant.2.responsibility.runId = grant.2.runId &&
      grant.2.responsibility.queuedAt = correlation.qualifiedCandidate.run.session.queuedAt

def latestGrantBefore (grants : List (JournalPosition × RemotePublicationBatchGrantRequest))
    (position : JournalPosition) : Option (JournalPosition × RemotePublicationBatchGrantRequest) :=
  (grants.filter fun grant => grant.1 < position).getLast?

def grantReferenceIssue (journal : PublicationRunJournal)
    (grants : List (JournalPosition × RemotePublicationBatchGrantRequest)) (mismatch : String)
    (position : JournalPosition) (batchGrantAt : Option JournalPosition) : Option String :=
  let currentGrant := latestGrantBefore grants position
  if batchGrantAt ≠ currentGrant.map Prod.fst then some mismatch
  else if currentGrant.any fun grant => ¬ batchGrantReferencesExhaustion journal grant then
    some "publication batch grant must reference an earlier retained exhaustion occurrence"
  else none

/-- What is wrong with one attempt intent, given the grants of the intents before it. -/
def attemptGrantIssue (journal : PublicationRunJournal)
    (grants : List (JournalPosition × RemotePublicationBatchGrantRequest))
    (earlier : List (Option JournalPosition)) (position : JournalPosition)
    (batchGrantAt : Option JournalPosition) : Option String :=
  (grantReferenceIssue journal grants
    "publication attempt must reference the latest exact batch grant before its durable intent"
    position batchGrantAt).or
    (if batchGrantAt ≠ none ∧ earlier.count batchGrantAt + 1 > remotePublicationAttemptLimit then
      some "publication candidate exceeds the three-intent allowance for one batch grant"
    else none)

def attemptGrantsIssue (journal : PublicationRunJournal)
    (grants : List (JournalPosition × RemotePublicationBatchGrantRequest)) :
    List (Option JournalPosition) → List (JournalPosition × Option JournalPosition) → Option String
  | _, [] => none
  | earlier, (position, batchGrantAt) :: later =>
      (attemptGrantIssue journal grants earlier position batchGrantAt).or
        (attemptGrantsIssue journal grants (earlier ++ [batchGrantAt]) later)

/-- The publication's state, unless its records contradict each other. -/
def validateRemotePublicationState (journal : PublicationRunJournal)
    (correlation : RemotePublicationCorrelation) : Except String RemotePublicationState :=
  let grants := remotePublicationBatchGrantsFor journal correlation
  let retainedRecords := (journal.allOf (·.retained?)).filter fun retained =>
    retained.2.2.2.requestId = correlation.requestId
  let attemptRecords := (journal.allOf (·.attemptIntent?)).filter fun attempt =>
    attempt.2.2.requestId = correlation.requestId
  let events := remotePublicationEventsFor journal correlation
  match (retainedRecords.findSome? fun retained => grantReferenceIssue journal grants
      "retained publication must reference the latest exact batch grant before its durable outcome"
      retained.1 retained.2.1).or
    (attemptGrantsIssue journal grants [] (attemptRecords.map fun attempt =>
      (attempt.1, attempt.2.1))) with
  | some detail => .error detail
  | none =>
      if events.any fun event => event.correlation ≠ correlation then
        .error "journal contains a different exact publication correlation for this request id"
      else
        match deriveRemotePublicationState events with
        | .publicationContradiction detail => .error detail
        | state => .ok state

/-- What the Run's other histories say of a prefix. -/
inductive CurrentIntegratorState where
  | contradiction (detail : String)
  | gitQualifiedPrepared (candidate : IntegratorRunQualifiedCandidate)
  | unprepared
deriving DecidableEq

/-- Integrator and finality histories of the same prefix, which the controls read by their results. -/
structure RunProjections where
  deriveCurrentIntegratorState :
    PublicationRunJournal → StartedIntegrationResponsibility → CurrentIntegratorState
  /-- Session capacity is exhausted, counted from the batch grant if there is one. -/
  integratorSessionCapacityExhausted :
    PublicationRunJournal → IntegratorSessionCorrelation → Option JournalPosition → Bool
  isIntegrationFinalitySettledForCandidate :
    PublicationRunJournal → IntegratorRunQualifiedCandidate → Bool

def startedResponsibilityForRequest (journal : PublicationRunJournal)
    (responsibility : IntegrationResponsibilityIdentity) : Option StartedIntegrationResponsibility := do
  let queued ← journal.byPosition responsibility.queuedAt
  let facts ← queued.event.responsibilityBegan?
  let (startedAt, _, startedFacts) ← journal.firstWhere (·.started?) (·.1 = queued.position)
  if startedFacts = facts then
    some { toIntegrationResponsibilityFacts := facts, queuedAt := queued.position, startedAt }
  else none

def workflowRunBeganFor (journal : PublicationRunJournal) : Option RemotePublicationTarget :=
  (journal.firstWhere (·.began?) fun _ => true).map Prod.snd

def workflowRunIsTerminated (journal : PublicationRunJournal) : Bool :=
  journal.any fun record => record.event = .workflowRunTerminated

structure RemotePublicationBatchGrantReceipt where
  acceptedAt : JournalPosition
  exhaustionAt : JournalPosition
  requestId : RemotePublicationBatchGrantRequestId
deriving DecidableEq

def grantReceipt (grant : JournalPosition × RemotePublicationBatchGrantRequest) :
    RemotePublicationBatchGrantReceipt :=
  ⟨grant.1, grant.2.exhaustionAt, grant.2.requestId⟩

def sameGrantSubject (left right : RemotePublicationBatchGrantRequest) : Bool :=
  left.runId = right.runId && left.responsibility.runId = right.responsibility.runId &&
    left.responsibility.queuedAt = right.responsibility.queuedAt &&
    left.exhaustionAt = right.exhaustionAt

/-- What one control request is answered with. -/
inductive PublicationControlAnswer where
  | newlyRecordedBatchGrant (result : RemotePublicationBatchGrantReceipt)
  | batchGrantReplay (result : RemotePublicationBatchGrantReceipt)
  | batchGrantAlreadyRecordedForExhaustion (result : RemotePublicationBatchGrantReceipt)
  | newlyRecordedResumeReceipt (acceptedAt : JournalPosition)
      (publicationRequestId : RemotePublicationRequestId)
      (requestId : RemotePublicationResumeRequestId)
  | resumeReceiptReplay (acceptedAt : JournalPosition)
      (publicationRequestId : RemotePublicationRequestId)
      (requestId : RemotePublicationResumeRequestId)
  | resumeStatus (state : RemotePublicationState)
  | requestConflict
  | subjectMismatch
  | historyContradiction (detail : String)
  | recordContradiction
deriving DecidableEq

def PublicationControlAnswer.isFailure : PublicationControlAnswer → Bool
  | requestConflict | subjectMismatch | historyContradiction _ | recordContradiction => true
  | _ => false

def previousGrant (journal : PublicationRunJournal) (request : RemotePublicationBatchGrantRequest) :
    Option PublicationControlAnswer :=
  match journal.firstWhere (·.grant?) (·.requestId = request.requestId) with
  | some byRequest =>
      if byRequest.2 = request then some (.batchGrantReplay (grantReceipt byRequest))
      else some .requestConflict
  | none =>
      (journal.firstWhere (·.grant?) (sameGrantSubject · request)).map fun bySubject =>
        .batchGrantAlreadyRecordedForExhaustion (grantReceipt bySubject)

/-- The retained record that a request calls an exhaustion, if it is of the request's responsibility. -/
def exhaustionOccurrence (journal : PublicationRunJournal) (expectedRunId : RunId)
    (request : RemotePublicationBatchGrantRequest) : Option
      (JournalPosition × Option JournalPosition × RemotePublicationRetainedCause ×
        RemotePublicationCorrelation) := do
  let occurrence ← journal.byPosition request.exhaustionAt
  let (batchGrantAt, cause, correlation) ← occurrence.event.retained?
  if remotePublicationRunIdOf correlation = expectedRunId ∧
      correlation.qualifiedCandidate.run.session.queuedAt = request.responsibility.queuedAt then
    some (occurrence.position, batchGrantAt, cause, correlation)
  else none

/-- The candidate that the Integrator now holds for a started responsibility is the published one. -/
def publishesCurrentCandidate (projections : RunProjections) (journal : PublicationRunJournal)
    (responsibility : StartedIntegrationResponsibility) (correlation : RemotePublicationCorrelation) :
    Bool :=
  match workflowRunBeganFor journal,
      projections.deriveCurrentIntegratorState journal responsibility with
  | some remotePublicationTarget, .gitQualifiedPrepared candidate =>
      correlation = remotePublicationCorrelationFor candidate remotePublicationTarget
  | _, _ => false

def retainedStateIsExhausted (projections : RunProjections) (journal : PublicationRunJournal)
    (occurrenceGrantAt : Option JournalPosition) (cause : RemotePublicationRetainedCause)
    (correlation : RemotePublicationCorrelation) : RemotePublicationState → Bool
  | .publicationRetained _ attemptOrdinalsInBatch batchGrantAt stateCause _ =>
      if stateCause.tag ≠ cause.tag ∨ occurrenceGrantAt ≠ batchGrantAt then false
      else
        match cause with
        | .attemptsExhausted => attemptOrdinalsInBatch.length = remotePublicationAttemptLimit
        | .compatibleCompetingHead _ _ => projections.integratorSessionCapacityExhausted journal
            correlation.qualifiedCandidate.run.session batchGrantAt
        | _ => false
  | _ => false

def publicationExhaustionIsCurrent (projections : RunProjections) (journal : PublicationRunJournal)
    (expectedRunId : RunId) (request : RemotePublicationBatchGrantRequest) : Except String Bool :=
  match exhaustionOccurrence journal expectedRunId request,
      startedResponsibilityForRequest journal request.responsibility with
  | some (position, occurrenceGrantAt, cause, correlation), some responsibility =>
      let matchingRetained := (journal.allOf (·.retained?)).filter fun retained =>
        retained.2.2.2 = correlation
      if responsibility.toIntegrationResponsibilityFacts ≠
          correlation.qualifiedCandidate.run.session.toIntegrationResponsibilityFacts then .ok false
      else if ¬ publishesCurrentCandidate projections journal responsibility correlation then .ok false
      else if matchingRetained.getLast?.map Prod.fst ≠ some position then .ok false
      else (validateRemotePublicationState journal correlation).map
        (retainedStateIsExhausted projections journal occurrenceGrantAt cause correlation)
  | _, _ => .ok false

inductive PublicationControlEvent where
  | batchGrantApplied (request : RemotePublicationBatchGrantRequest)
  | resumeRequested (correlation : RemotePublicationCorrelation)
      (request : RemotePublicationResumeRequest)
deriving DecidableEq

namespace PublicationControlEvent

def runEvent : PublicationControlEvent → PublicationRunEvent
  | batchGrantApplied request => .batchGrantApplied request
  | resumeRequested correlation request => .publication (.resumeRequested correlation request)

def newlyRecorded (position : JournalPosition) : PublicationControlEvent → PublicationControlAnswer
  | batchGrantApplied request => .newlyRecordedBatchGrant (grantReceipt (position, request))
  | resumeRequested correlation request =>
      .newlyRecordedResumeReceipt position correlation.requestId request.requestId

def replay (position : JournalPosition) : PublicationControlEvent → PublicationControlAnswer
  | batchGrantApplied request => .batchGrantReplay (grantReceipt (position, request))
  | resumeRequested correlation request =>
      .resumeReceiptReplay position correlation.requestId request.requestId

end PublicationControlEvent

/-- What a control decides on one accepted prefix. -/
inductive PublicationControlDecision where
  | answer (answer : PublicationControlAnswer)
  | append (key : JournalRecordKey) (event : PublicationControlEvent)
deriving DecidableEq

/-- Uniqueness key of one exact (Run, responsibility, exhaustion occurrence) batch grant. -/
def remotePublicationBatchGrantRecordKey (request : RemotePublicationBatchGrantRequest) :
    JournalRecordKey :=
  { value := s!"remote-publication-batch-grant:{request.runId.value.length}:" ++
      s!"{request.runId.value}:{request.responsibility.queuedAt}:{request.exhaustionAt}" }

/-- One evaluation of a grant request on an accepted prefix. -/
def evaluateBatchGrant (projections : RunProjections) (expectedRunId : RunId)
    (journal : PublicationRunJournal) (request : RemotePublicationBatchGrantRequest) :
    PublicationControlDecision :=
  if request.runId ≠ expectedRunId ∨ request.responsibility.runId ≠ expectedRunId then
    .answer .subjectMismatch
  else
    match previousGrant journal request with
    | some duplicate => .answer duplicate
    | none =>
        if workflowRunBeganFor journal = none ∨ workflowRunIsTerminated journal then
          .answer .subjectMismatch
        else
          match publicationExhaustionIsCurrent projections journal expectedRunId request with
          | .error detail => .answer (.historyContradiction detail)
          | .ok false => .answer .subjectMismatch
          | .ok true =>
              .append (remotePublicationBatchGrantRecordKey request) (.batchGrantApplied request)

def remotePublicationResumeRequestedRecordKey (requestId : RemotePublicationResumeRequestId) :
    JournalRecordKey :=
  { value := s!"remote-publication-resume:{requestId.value}" }

def previousResumeAdmission (journal : PublicationRunJournal)
    (request : RemotePublicationResumeRequest) : Option PublicationControlAnswer :=
  (journal.firstWhere (·.receipt?) (·.2.requestId = request.requestId)).map fun duplicate =>
    if duplicate.2.2 = request then
      .resumeReceiptReplay duplicate.1 duplicate.2.1.requestId request.requestId
    else .requestConflict

/-- The started responsibility of the request in this Run, with the pinned destination. -/
def exactResumeSubjectFor (journal : PublicationRunJournal)
    (request : RemotePublicationResumeRequest) :
    Option (RemotePublicationTarget × StartedIntegrationResponsibility) := do
  let responsibility ← startedResponsibilityForRequest journal request.responsibility
  if responsibility.plannedAttempt.runId = request.runId ∧
      responsibility.plannedAttempt.runId = request.responsibility.runId ∧
      responsibility.queuedAt = request.responsibility.queuedAt then
    (workflowRunBeganFor journal).map (·, responsibility)
  else none

def consumedAttempts (journal : PublicationRunJournal) (correlation : RemotePublicationCorrelation) :
    RemotePublicationState → Nat
  | .publicationRetained _ attemptOrdinalsInBatch _ _ _ => attemptOrdinalsInBatch.length
  | _ => (remotePublicationEventsFor journal correlation).countP fun event => event.attempt?.isSome

def continuesProvedFinality (projections : RunProjections) (journal : PublicationRunJournal)
    (candidate : IntegratorRunQualifiedCandidate) : RemotePublicationState → Bool
  | .publicationSucceeded _ _ =>
      !projections.isIntegrationFinalitySettledForCandidate journal candidate &&
        !workflowRunIsTerminated journal
  | _ => false

def resumableRetained : RemotePublicationState → Bool
  | .publicationRetained _ _ _ cause _ => remotePublicationRetainedCauseIsResumable cause
  | _ => false

def resumeEligible (projections : RunProjections) (journal : PublicationRunJournal)
    (candidate : IntegratorRunQualifiedCandidate) (correlation : RemotePublicationCorrelation)
    (state : RemotePublicationState) : Bool :=
  continuesProvedFinality projections journal candidate state ||
    (resumableRetained state &&
      consumedAttempts journal correlation state < remotePublicationAttemptLimit)

def resumePreparedCandidate (projections : RunProjections) (journal : PublicationRunJournal)
    (request : RemotePublicationResumeRequest) (candidate : IntegratorRunQualifiedCandidate)
    (correlation : RemotePublicationCorrelation) : PublicationControlDecision :=
  match validateRemotePublicationState journal correlation with
  | .error detail => .answer (.historyContradiction detail)
  | .ok state =>
      if resumeEligible projections journal candidate correlation state then
        .append (remotePublicationResumeRequestedRecordKey request.requestId)
          (.resumeRequested correlation request)
      else .answer (.resumeStatus state)

/-- One evaluation of a resume request on an accepted prefix. -/
def evaluateResume (projections : RunProjections) (expectedRunId : RunId)
    (journal : PublicationRunJournal) (request : RemotePublicationResumeRequest) :
    PublicationControlDecision :=
  if request.runId ≠ expectedRunId ∨ request.responsibility.runId ≠ expectedRunId then
    .answer .subjectMismatch
  else
    match previousResumeAdmission journal request, exactResumeSubjectFor journal request with
    | some duplicate, _ => .answer duplicate
    | none, none => .answer .subjectMismatch
    | none, some (remotePublicationTarget, responsibility) =>
        match projections.deriveCurrentIntegratorState journal responsibility with
        | .contradiction detail => .answer (.resumeStatus (.publicationContradiction detail))
        | .unprepared => .answer (.resumeStatus .publicationAbsent)
        | .gitQualifiedPrepared candidate =>
            resumePreparedCandidate projections journal request
              candidate (remotePublicationCorrelationFor candidate remotePublicationTarget)

end Dalph
