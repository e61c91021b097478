import Dalph.Workflow.Integrator

/-!
# Direct publication: events and durable state

A qualified candidate is pushed to the Run's receiving branch in numbered attempts.  The state of one
publication is reduced from its events in journal order; a history that the protocol cannot have
written reduces to a contradiction with its detail.
-/

namespace Dalph

/-- Binds one credential-free remote endpoint to its exact publication branch. -/
structure RemotePublicationTarget where
  branch : String
  endpoint : String
deriving DecidableEq

/-- Stable identity for publication of one exact qualified candidate. -/
structure RemotePublicationRequestId where
  value : String
deriving DecidableEq

structure RemotePublicationResumeRequestId where
  value : String
deriving DecidableEq

structure RemotePublicationBatchGrantRequestId where
  value : String
deriving DecidableEq

/-- Subject and deduplication identity supplied by the resume caller. -/
structure RemotePublicationResumeRequest where
  requestId : RemotePublicationResumeRequestId
  responsibility : IntegrationResponsibilityIdentity
  runId : RunId
deriving DecidableEq

/-- Run, responsibility and retained exhaustion occurrence selected by the Operator. -/
structure RemotePublicationBatchGrantRequest where
  exhaustionAt : JournalPosition
  requestId : RemotePublicationBatchGrantRequestId
  responsibility : IntegrationResponsibilityIdentity
  runId : RunId
deriving DecidableEq

def remotePublicationRequestIdFor (candidate : IntegratorRunQualifiedCandidate)
    (target : RemotePublicationTarget) : RemotePublicationRequestId :=
  ⟨s!"direct-publication:{candidate.run.session.sessionId}:{candidate.run.ordinal}:" ++
    s!"{candidate.candidateCommit.value}:{target.endpoint}\x00{target.branch}"⟩

/-- One publication; its identity derives from the candidate and the pinned destination. -/
structure RemotePublicationCorrelation where
  qualifiedCandidate : IntegratorRunQualifiedCandidate
  requestId : RemotePublicationRequestId
  target : RemotePublicationTarget
  derived : requestId = remotePublicationRequestIdFor qualifiedCandidate target
deriving DecidableEq

def remotePublicationCorrelationFor (candidate : IntegratorRunQualifiedCandidate)
    (target : RemotePublicationTarget) : RemotePublicationCorrelation :=
  ⟨candidate, remotePublicationRequestIdFor candidate target, target, rfl⟩

def remotePublicationRunIdOf (correlation : RemotePublicationCorrelation) : RunId :=
  correlation.qualifiedCandidate.run.session.plannedAttempt.runId

def remotePublicationRefspecFor (candidateCommit : GitCommitSha) (branch : String) : String :=
  s!"{candidateCommit.value}:{branch}"

def remotePublicationAttemptLimit : Nat := 3

inductive RemotePublicationAttemptAuthorization where
  | initialAttempt
  | resumeRequest (requestId : RemotePublicationResumeRequestId)
deriving DecidableEq

/-- Why Git could not observe the destination. -/
inductive RemotePublicationObservationFailureReason where
  | ancestryUnavailable
  | endpointMappingChanged
  | responseDeadline
  | senderStopUnproven
  | targetUnreadable
deriving DecidableEq

inductive RemotePublicationRetainedCause where
  | attemptsExhausted
  | authenticationDenied
  | compatibleCompetingHead (mergeBase remoteHead : GitCommitSha)
  | incompatibleLineage (remoteHead : GitCommitSha)
  | observationUnavailable (reason : RemotePublicationObservationFailureReason)
  | policyDenied
  | pushCustodyUnproven
  | pushEndpointMappingChanged
  | remoteDenied
  | targetMissing
  | throttled
deriving DecidableEq

def RemotePublicationRetainedCause.tag : RemotePublicationRetainedCause → String
  | attemptsExhausted => "AttemptsExhausted"
  | authenticationDenied => "AuthenticationDenied"
  | compatibleCompetingHead _ _ => "CompatibleCompetingHead"
  | incompatibleLineage _ => "IncompatibleLineage"
  | observationUnavailable _ => "ObservationUnavailable"
  | policyDenied => "PolicyDenied"
  | pushCustodyUnproven => "PushCustodyUnproven"
  | pushEndpointMappingChanged => "PushEndpointMappingChanged"
  | remoteDenied => "RemoteDenied"
  | targetMissing => "TargetMissing"
  | throttled => "Throttled"

def remotePublicationRetainedCauseIsResumable : RemotePublicationRetainedCause → Bool
  | .attemptsExhausted | .throttled => false
  | _ => true

/-- What proves that the receiving branch contains the candidate. -/
inductive RemotePublicationProofBasis where
  | pushApplied (attemptOrdinal : Nat) (remoteHead : GitCommitSha)
  | pushUpToDate (attemptOrdinal : Nat) (remoteHead : GitCommitSha)
  | reconciledCandidateAncestor (attemptOrdinal : Nat) (remoteHead : GitCommitSha)
  | reconciledCandidateCurrent (attemptOrdinal : Nat) (remoteHead : GitCommitSha)
deriving DecidableEq

namespace RemotePublicationProofBasis

def attemptOrdinal : RemotePublicationProofBasis → Nat
  | pushApplied attemptOrdinal _ | pushUpToDate attemptOrdinal _
  | reconciledCandidateAncestor attemptOrdinal _ | reconciledCandidateCurrent attemptOrdinal _ =>
      attemptOrdinal

def remoteHead : RemotePublicationProofBasis → GitCommitSha
  | pushApplied _ remoteHead | pushUpToDate _ remoteHead
  | reconciledCandidateAncestor _ remoteHead | reconciledCandidateCurrent _ remoteHead =>
      remoteHead

def isPush : RemotePublicationProofBasis → Bool
  | pushApplied _ _ | pushUpToDate _ _ => true
  | _ => false

def isCurrentHead : RemotePublicationProofBasis → Bool
  | reconciledCandidateAncestor _ _ => false
  | _ => true

end RemotePublicationProofBasis

inductive RemotePublicationTransitionEvent where
  | intended (correlation : RemotePublicationCorrelation)
  | attemptIntended (attemptOrdinal : Nat) (batchGrantAt : Option JournalPosition)
      (correlation : RemotePublicationCorrelation) (refspec : String)
  | attemptRejectedNonFastForward (attemptOrdinal : Nat) (correlation : RemotePublicationCorrelation)
  | succeeded (correlation : RemotePublicationCorrelation) (proof : RemotePublicationProofBasis)
  | retained (authorization : RemotePublicationAttemptAuthorization)
      (batchGrantAt : Option JournalPosition) (cause : RemotePublicationRetainedCause)
      (correlation : RemotePublicationCorrelation)
  | resumeRequested (correlation : RemotePublicationCorrelation)
      (request : RemotePublicationResumeRequest)
deriving DecidableEq

namespace RemotePublicationTransitionEvent

def correlation : RemotePublicationTransitionEvent → RemotePublicationCorrelation
  | intended correlation | attemptIntended _ _ correlation _
  | attemptRejectedNonFastForward _ correlation | succeeded correlation _
  | retained _ _ _ correlation | resumeRequested correlation _ => correlation

def isIntended : RemotePublicationTransitionEvent → Bool
  | intended _ => true
  | _ => false

def isRetained : RemotePublicationTransitionEvent → Bool
  | retained .. => true
  | _ => false

def isSucceeded : RemotePublicationTransitionEvent → Bool
  | succeeded .. => true
  | _ => false

def attempt? : RemotePublicationTransitionEvent → Option (Nat × Option JournalPosition)
  | attemptIntended attemptOrdinal batchGrantAt _ _ => some (attemptOrdinal, batchGrantAt)
  | _ => none

def rejected? : RemotePublicationTransitionEvent → Option Nat
  | attemptRejectedNonFastForward attemptOrdinal _ => some attemptOrdinal
  | _ => none

def refspecDerives : RemotePublicationTransitionEvent → Bool
  | attemptIntended _ _ correlation refspec => refspec =
      remotePublicationRefspecFor correlation.qualifiedCandidate.candidateCommit
        correlation.target.branch
  | _ => true

end RemotePublicationTransitionEvent

/-- Durable state of one publication. -/
inductive RemotePublicationState where
  | publicationAbsent
  | publicationContradiction (detail : String)
  | publicationPending (authorization : RemotePublicationAttemptAuthorization)
      (attemptOrdinals attemptOrdinalsInBatch : List Nat) (batchGrantAt : Option JournalPosition)
      (correlation : RemotePublicationCorrelation)
  | publicationResumeReady (attemptOrdinals attemptOrdinalsInBatch : List Nat)
      (batchGrantAt : Option JournalPosition) (correlation : RemotePublicationCorrelation)
      (request : RemotePublicationResumeRequest)
  | publicationSucceeded (correlation : RemotePublicationCorrelation)
      (proof : RemotePublicationProofBasis)
  | publicationRetained (authorization : RemotePublicationAttemptAuthorization)
      (attemptOrdinalsInBatch : List Nat) (batchGrantAt : Option JournalPosition)
      (cause : RemotePublicationRetainedCause) (correlation : RemotePublicationCorrelation)
deriving DecidableEq

/-- Where the reduction stands between two events. -/
inductive ReductionPhase where
  | pending (attemptOrdinalsInBatch : List Nat)
      (authorization : RemotePublicationAttemptAuthorization) (batchGrantAt : Option JournalPosition)
  | resumeReady (cause : RemotePublicationRetainedCause) (attemptOrdinalsInBatch : List Nat)
      (batchGrantAt : Option JournalPosition) (request : RemotePublicationResumeRequest)
  | retained (authorization : RemotePublicationAttemptAuthorization)
      (attemptOrdinalsInBatch : List Nat) (batchGrantAt : Option JournalPosition)
      (cause : RemotePublicationRetainedCause)
  | succeeded (proof : RemotePublicationProofBasis)
deriving DecidableEq

def contiguousAttemptsIssue (attempts : List Nat) : Option String :=
  if attempts = (List.range attempts.length).map (· + 1) then none
  else some "publication attempt ordinals must begin at one and remain contiguous"

def resumeRequestMatchesCorrelation (correlation : RemotePublicationCorrelation)
    (request : RemotePublicationResumeRequest) : Bool :=
  request.runId = remotePublicationRunIdOf correlation &&
    request.responsibility.runId = request.runId &&
    request.responsibility.queuedAt = correlation.qualifiedCandidate.run.session.queuedAt

/-- A numbered intent opens a granted batch or continues the active one. -/
def reduceAttempt (phase : ReductionPhase) (attemptOrdinal : Nat)
    (nextBatchGrantAt : Option JournalPosition) : Except String ReductionPhase :=
  match phase with
  | .retained _ _ batchGrantAt _ =>
      if nextBatchGrantAt = none ∨ nextBatchGrantAt = batchGrantAt then
        .error ("publication attempt after retained outcome requires a new exact batch grant " ++
          "or resume receipt")
      else .ok (.pending [attemptOrdinal] .initialAttempt nextBatchGrantAt)
  | .pending attemptOrdinalsInBatch authorization batchGrantAt =>
      if attemptOrdinalsInBatch = [] ∧ nextBatchGrantAt ≠ none then
        .ok (.pending [attemptOrdinal] authorization nextBatchGrantAt)
      else if nextBatchGrantAt ≠ batchGrantAt then
        .error "publication attempt cannot change its batch grant within an active batch"
      else .ok (.pending (attemptOrdinalsInBatch ++ [attemptOrdinal]) authorization batchGrantAt)
  | .resumeReady _ attemptOrdinalsInBatch batchGrantAt request =>
      if nextBatchGrantAt ≠ batchGrantAt then
        .error "publication attempt cannot change its batch grant within an active batch"
      else .ok (.pending (attemptOrdinalsInBatch ++ [attemptOrdinal])
        (.resumeRequest request.requestId) batchGrantAt)
  | .succeeded proof => .ok (.succeeded proof)

/-- A fresh grant may meet a blocker before its first intent; its batch then starts empty. -/
def phaseBeforeRetained (phase : ReductionPhase) (granted : Option JournalPosition) :
    ReductionPhase :=
  match phase with
  | .retained _ _ batchGrantAt _ =>
      if granted ≠ none ∧ granted ≠ batchGrantAt then .pending [] .initialAttempt granted else phase
  | _ => phase

def settleRetained (phase : ReductionPhase) (authorization : RemotePublicationAttemptAuthorization)
    (granted : Option JournalPosition) (cause : RemotePublicationRetainedCause) :
    Except String ReductionPhase :=
  let settle (attemptOrdinalsInBatch : List Nat)
      (active : RemotePublicationAttemptAuthorization) (batchGrantAt : Option JournalPosition) :=
    if granted ≠ batchGrantAt ∨ authorization ≠ active then
      .error "publication retained outcome must identify its exact active authorization"
    else if cause = .attemptsExhausted ∧
        attemptOrdinalsInBatch.length ≠ remotePublicationAttemptLimit then
      .error "publication exhaustion requires the exact accepted attempt limit"
    else .ok (.retained authorization attemptOrdinalsInBatch batchGrantAt cause)
  match phase with
  | .pending attemptOrdinalsInBatch active batchGrantAt =>
      settle attemptOrdinalsInBatch active batchGrantAt
  | .resumeReady _ attemptOrdinalsInBatch batchGrantAt request =>
      settle attemptOrdinalsInBatch (.resumeRequest request.requestId) batchGrantAt
  | _ => .error "publication retained outcome must identify its exact active authorization"

def reduceResume (phase : ReductionPhase) (previous : Option RemotePublicationTransitionEvent)
    (seenResumeRequestIds : List RemotePublicationResumeRequestId)
    (correlation : RemotePublicationCorrelation) (request : RemotePublicationResumeRequest) :
    Except String ReductionPhase :=
  match phase, previous.any (·.isRetained) with
  | .retained _ attemptOrdinalsInBatch batchGrantAt cause, true =>
      if ¬ resumeRequestMatchesCorrelation correlation request then
        .error "publication resume receipt does not identify the exact Run responsibility"
      else if request.requestId ∈ seenResumeRequestIds then
        .error "publication resume request identity is duplicated"
      else if ¬ remotePublicationRetainedCauseIsResumable cause then
        .error s!"publication resume receipt cannot override retained cause {cause.tag}"
      else if attemptOrdinalsInBatch.length ≥ remotePublicationAttemptLimit then
        .error "publication resume receipt cannot override the exhausted attempt allowance"
      else .ok (.resumeReady cause attemptOrdinalsInBatch batchGrantAt request)
  | _, _ => .error "publication resume receipt must immediately follow an exact retained outcome"

/-- The events before a proof in a resumed publication support only a reconciliation. -/
def resumedProofIssue (phase : ReductionPhase) (earlier : List RemotePublicationTransitionEvent)
    (proof : RemotePublicationProofBasis) : Option String :=
  match phase with
  | .resumeReady .. =>
      if proof.isPush then
        some "resume receipt can settle publication only through exact remote reconciliation"
      else if (earlier.filterMap (·.attempt?)).getLast?.map Prod.fst ≠ some proof.attemptOrdinal then
        some "resumed publication proof must identify the latest pre-receipt attempt"
      else none
  | _ => none

def reduceProof (events earlier : List RemotePublicationTransitionEvent) (phase : ReductionPhase)
    (candidateCommit : GitCommitSha) (proof : RemotePublicationProofBasis) :
    Except String ReductionPhase :=
  match phase with
  | .retained .. | .succeeded _ => .error "publication proof has no active delivery phase"
  | _ =>
      match resumedProofIssue phase earlier proof with
      | some detail => .error detail
      | none =>
          if proof.isPush ∧ proof.attemptOrdinal ∈ events.filterMap (·.rejected?) then
            .error "one push attempt cannot both reject and succeed"
          else if proof.attemptOrdinal ∉ (earlier.filterMap (·.attempt?)).map Prod.fst then
            .error "publication proof has no exact earlier attempt intent"
          else if proof.isCurrentHead ∧ proof.remoteHead ≠ candidateCommit then
            .error "current-head publication proof does not identify the exact candidate"
          else .ok (.succeeded proof)

/-- A rejection answers the intent directly before it, once. -/
def reduceRejection (earlier : List RemotePublicationTransitionEvent) (phase : ReductionPhase)
    (attemptOrdinal : Nat) : Except String ReductionPhase :=
  if (earlier.getLast?.bind (·.attempt?)).map Prod.fst ≠ some attemptOrdinal ∨
      attemptOrdinal ∈ earlier.filterMap (·.rejected?) then
    .error "publication rejection requires its exact unmatched preceding attempt intent"
  else
    match phase with
    | .pending .. => .ok phase
    | _ => .error "publication rejection has no active attempt"

def reduceAfterProof (seenResumeRequestIds : List RemotePublicationResumeRequestId) :
    RemotePublicationTransitionEvent → Except String (List RemotePublicationResumeRequestId)
  | .resumeRequested correlation request =>
      if ¬ resumeRequestMatchesCorrelation correlation request then
        .error "publication resume receipt does not identify the exact Run responsibility"
      else if request.requestId ∈ seenResumeRequestIds then
        .error "publication resume request identity is duplicated"
      else .ok (seenResumeRequestIds ++ [request.requestId])
  | _ => .error "publication history contains an event after terminal proof"

def reduceEvent (events earlier : List RemotePublicationTransitionEvent)
    (candidateCommit : GitCommitSha) (phase : ReductionPhase)
    (seenResumeRequestIds : List RemotePublicationResumeRequestId)
    (event : RemotePublicationTransitionEvent) :
    Except String (ReductionPhase × List RemotePublicationResumeRequestId) :=
  match phase with
  | .succeeded _ => (reduceAfterProof seenResumeRequestIds event).map (phase, ·)
  | _ =>
      match event with
      | .intended _ => .error "publication history has more than one outer intent"
      | .attemptIntended attemptOrdinal batchGrantAt _ _ =>
          (reduceAttempt phase attemptOrdinal batchGrantAt).map (·, seenResumeRequestIds)
      | .attemptRejectedNonFastForward attemptOrdinal _ =>
          (reduceRejection earlier phase attemptOrdinal).map (·, seenResumeRequestIds)
      | .retained authorization batchGrantAt cause _ =>
          (settleRetained (phaseBeforeRetained phase batchGrantAt) authorization batchGrantAt cause).map
            (·, seenResumeRequestIds)
      | .resumeRequested correlation request =>
          (reduceResume phase earlier.getLast? seenResumeRequestIds correlation request).map
            (·, seenResumeRequestIds ++ [request.requestId])
      | .succeeded _ proof =>
          (reduceProof events earlier phase candidateCommit proof).map (·, seenResumeRequestIds)

def reduceEvents (events : List RemotePublicationTransitionEvent) (candidateCommit : GitCommitSha) :
    List RemotePublicationTransitionEvent → ReductionPhase →
      List RemotePublicationResumeRequestId → List RemotePublicationTransitionEvent →
        Except String ReductionPhase
  | _, phase, _, [] => .ok phase
  | earlier, phase, seenResumeRequestIds, event :: later => do
      let (next, seen) ← reduceEvent events earlier candidateCommit phase seenResumeRequestIds event
      reduceEvents events candidateCommit (earlier ++ [event]) next seen later

/-- What is wrong with the events as a whole. -/
def publicationHistoryIssue (events : List RemotePublicationTransitionEvent)
    (correlation : RemotePublicationCorrelation) : Option String :=
  let attempts := events.filterMap (·.attempt?)
  if events.countP (·.isIntended) ≠ 1 then
    some "publication history has more than one outer intent"
  else if events.any fun event => event.correlation ≠ correlation then
    some "publication history mixes distinct request correlations"
  else if attempts.any fun attempt =>
      (attempts.countP fun other => other.2 = attempt.2) > remotePublicationAttemptLimit then
    some "publication history exceeds the accepted three-intent allowance for one batch"
  else if events.any fun event => ¬ event.refspecDerives then
    some "publication attempt intent refspec must derive from the exact candidate and pinned branch"
  else
    match contiguousAttemptsIssue (attempts.map Prod.fst) with
    | some detail => some detail
    | none =>
        if events.countP (·.isSucceeded) > 1 then
          some "publication history has more than one terminal proof"
        else none

def stateOfPhase (correlation : RemotePublicationCorrelation) (attemptOrdinals : List Nat) :
    ReductionPhase → RemotePublicationState
  | .pending attemptOrdinalsInBatch authorization batchGrantAt =>
      .publicationPending authorization attemptOrdinals attemptOrdinalsInBatch batchGrantAt correlation
  | .resumeReady _ attemptOrdinalsInBatch batchGrantAt request =>
      .publicationResumeReady attemptOrdinals attemptOrdinalsInBatch batchGrantAt correlation request
  | .retained authorization attemptOrdinalsInBatch batchGrantAt cause =>
      .publicationRetained authorization attemptOrdinalsInBatch batchGrantAt cause correlation
  | .succeeded proof => .publicationSucceeded correlation proof

/-- Reduces one request's durable events; a missing record is never read as a result. -/
def deriveRemotePublicationState (events : List RemotePublicationTransitionEvent) :
    RemotePublicationState :=
  match events with
  | [] => .publicationAbsent
  | .intended correlation :: later =>
      match publicationHistoryIssue events correlation with
      | some detail => .publicationContradiction detail
      | none =>
          match reduceEvents events correlation.qualifiedCandidate.candidateCommit
              [.intended correlation] (.pending [] .initialAttempt none) [] later with
          | .error detail => .publicationContradiction detail
          | .ok phase =>
              stateOfPhase correlation ((events.filterMap (·.attempt?)).map Prod.fst) phase
  | _ :: _ => .publicationContradiction "publication history must begin with the outer intent"

end Dalph
