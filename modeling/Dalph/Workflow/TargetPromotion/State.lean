import Dalph.Workflow.Integrator

/-!
# Target promotion: events and state

A promotion moves the integration target from the head that an Integrator run expected to the
candidate that the run produced.  Its state is derived from the journaled occurrences of one request;
the occurrences are listed here in the order of their positions, so a place in the list stands for a
position.
-/

namespace Dalph

/-- Identifies one immutable compare-and-set request. -/
structure TargetPromotionRequestId where
  value : String
deriving DecidableEq

def targetPromotionRequestIdForCandidate (candidate : IntegratorRunQualifiedCandidate) :
    TargetPromotionRequestId :=
  ⟨"target-promotion:" ++ candidate.run.session.sessionId ++ ":" ++
    toString candidate.run.ordinal ++ ":" ++ candidate.candidateCommit.value⟩

structure TargetPromotionCorrelation where
  qualifiedCandidate : IntegratorRunQualifiedCandidate
  requestId : TargetPromotionRequestId
  derived : requestId = targetPromotionRequestIdForCandidate qualifiedCandidate
deriving DecidableEq

def targetPromotionCorrelationFor (candidate : IntegratorRunQualifiedCandidate) :
    TargetPromotionCorrelation :=
  ⟨candidate, targetPromotionRequestIdForCandidate candidate, rfl⟩

namespace TargetPromotionCorrelation

def expectedHead (correlation : TargetPromotionCorrelation) : GitCommitSha :=
  correlation.qualifiedCandidate.run.session.expectedTargetHead

def candidateCommit (correlation : TargetPromotionCorrelation) : GitCommitSha :=
  correlation.qualifiedCandidate.candidateCommit

end TargetPromotionCorrelation

def targetPromotionAttemptLimit : Nat := 3

/-- A retry is either the first request or follows one recorded read of the expected head. -/
inductive TargetPromotionAttemptReason where
  | initial (observedHeadSha : GitCommitSha)
  | reconciledExpectedHead (observedHeadSha : GitCommitSha) (previousAttemptOrdinal : Nat)
deriving DecidableEq

/-- Whether a result settled before any request or after a numbered request. -/
inductive TargetPromotionTerminalBasis where
  | beforeFirstAttempt
  | afterAttempt (attemptOrdinal : Nat)
deriving DecidableEq

def TargetPromotionTerminalBasis.ofPrevious : Option Nat → TargetPromotionTerminalBasis
  | none => .beforeFirstAttempt
  | some attemptOrdinal => .afterAttempt attemptOrdinal

inductive TargetPromotionSafetyRefusal where
  | occupiedWorktree (worktree : String)
  | inventoryUnreadable (detail : String)
  | targetIdentityUnreadable (detail : String)
deriving DecidableEq

inductive TargetPromotionBoundary where
  | reconciliationRead
  | compareAndSet
deriving DecidableEq

/-- Why one read-only reconciliation stopped after its single Git read. -/
inductive TargetPromotionReconciliationDeferral where
  | retryAuthorityRequired (observedHeadSha : GitCommitSha)
  | targetReadFailed (detail : String)
deriving DecidableEq

/-- Whether Git showed the candidate current or later in its ancestry. -/
inductive TargetPromotionSuccessObservation where
  | compareAndSetApplied (targetHeadSha : GitCommitSha)
  | reconciledCandidateAncestor (targetHeadSha : GitCommitSha)
  | reconciledCandidateCurrent (targetHeadSha : GitCommitSha)
deriving DecidableEq

/-- An atomic mismatch of the expected head, or a read that proves no ancestry. -/
inductive TargetPromotionStaleObservation where
  | compareAndSetRejected (observedHeadSha : GitCommitSha)
  | reconciledCandidateNotInAncestry (observedHeadSha : GitCommitSha)
deriving DecidableEq

/-- The final read fact retained when the attempts cannot converge. -/
inductive TargetPromotionNonConvergenceObservation where
  | expectedHeadStillObserved (observedHeadSha : GitCommitSha)
  | targetReadFailed (detail : String)
deriving DecidableEq

/-- Closed target-promotion vocabulary of the workflow journal. -/
inductive TargetPromotionJournalEvent where
  | safetyRefused (boundary : TargetPromotionBoundary) (basis : TargetPromotionTerminalBasis)
      (correlation : TargetPromotionCorrelation) (observationOrdinal : Nat)
      (refusal : TargetPromotionSafetyRefusal)
  | intended (correlation : TargetPromotionCorrelation)
  | attemptIntended (attemptOrdinal : Nat) (correlation : TargetPromotionCorrelation)
      (reason : TargetPromotionAttemptReason)
  | reconciliationDeferred (afterAttemptOrdinal : Nat) (correlation : TargetPromotionCorrelation)
      (deferral : TargetPromotionReconciliationDeferral)
  | observedSuccess (basis : TargetPromotionTerminalBasis)
      (correlation : TargetPromotionCorrelation)
      (observation : TargetPromotionSuccessObservation)
  | stale (basis : TargetPromotionTerminalBasis) (correlation : TargetPromotionCorrelation)
      (observation : TargetPromotionStaleObservation)
  | nonConvergence (attemptOrdinal : Nat) (correlation : TargetPromotionCorrelation)
      (lastObservation : TargetPromotionNonConvergenceObservation)
deriving DecidableEq

namespace TargetPromotionJournalEvent

def correlation : TargetPromotionJournalEvent → TargetPromotionCorrelation
  | safetyRefused _ _ correlation _ _ | intended correlation | attemptIntended _ correlation _
  | reconciliationDeferred _ correlation _ | observedSuccess _ correlation _
  | stale _ correlation _ | nonConvergence _ correlation _ => correlation

def isIntent : TargetPromotionJournalEvent → Bool
  | intended _ => true
  | _ => false

def attemptOrdinal? : TargetPromotionJournalEvent → Option Nat
  | attemptIntended attemptOrdinal _ _ => some attemptOrdinal
  | _ => none

def deferredAttempt? : TargetPromotionJournalEvent → Option Nat
  | reconciliationDeferred afterAttemptOrdinal _ _ => some afterAttemptOrdinal
  | _ => none

def isRefusal : TargetPromotionJournalEvent → Bool
  | safetyRefused .. => true
  | _ => false

def isProgress (event : TargetPromotionJournalEvent) : Bool :=
  event.attemptOrdinal?.isSome || event.deferredAttempt?.isSome

def isTerminal : TargetPromotionJournalEvent → Bool
  | observedSuccess .. | stale .. | nonConvergence .. => true
  | _ => false

end TargetPromotionJournalEvent

open TargetPromotionJournalEvent

/-- The next bounded action is either the mandatory initial read or a read after an ambiguous
write. -/
inductive TargetPromotionPendingRetry where
  | needInitialReconciliationRead
  | needReconciliationRead (afterAttemptOrdinal : Nat)
deriving DecidableEq

def TargetPromotionTerminalBasis.retry : TargetPromotionTerminalBasis → TargetPromotionPendingRetry
  | beforeFirstAttempt => .needInitialReconciliationRead
  | afterAttempt attemptOrdinal => .needReconciliationRead attemptOrdinal

/-- Durable state reconstructed from exact promotion occurrences. -/
inductive TargetPromotionState where
  | promotionSafetyRefused (boundary : TargetPromotionBoundary)
      (correlation : TargetPromotionCorrelation) (retry : TargetPromotionPendingRetry)
      (refusal : TargetPromotionSafetyRefusal) (observationOrdinal : Nat)
  | promotionPending (correlation : TargetPromotionCorrelation)
      (retry : TargetPromotionPendingRetry)
  | promotionReconciliationDeferred (afterAttemptOrdinal : Nat)
      (correlation : TargetPromotionCorrelation)
      (deferral : TargetPromotionReconciliationDeferral)
  | promotionSucceeded (basis : TargetPromotionTerminalBasis)
      (correlation : TargetPromotionCorrelation)
      (observation : TargetPromotionSuccessObservation)
  | promotionStale (basis : TargetPromotionTerminalBasis)
      (correlation : TargetPromotionCorrelation) (observation : TargetPromotionStaleObservation)
  | promotionNonConvergent (attemptOrdinal : Nat) (correlation : TargetPromotionCorrelation)
      (lastObservation : TargetPromotionNonConvergenceObservation)
deriving DecidableEq

/-- Occurrences of one promotion request, in order. -/
abbrev PromotionHistory := List TargetPromotionJournalEvent

namespace PromotionHistory

def relevantPromotionOccurrences (records : PromotionHistory)
    (request : TargetPromotionCorrelation) : PromotionHistory :=
  records.filter fun event => event.correlation = request

def targetPromotionCorrelationConflictFor (records : PromotionHistory)
    (request : TargetPromotionCorrelation) : Option TargetPromotionCorrelation :=
  (records.find? fun event =>
    event.correlation.requestId = request.requestId && event.correlation ≠ request).map
      (·.correlation)

def lastWhere (kind : TargetPromotionJournalEvent → Bool) (records : PromotionHistory) :
    Option (TargetPromotionJournalEvent × Nat) :=
  (records.zipIdx.filter fun occurrence => kind occurrence.1).getLast?

def attemptOrdinals (records : PromotionHistory) : List Nat :=
  records.filterMap attemptOrdinal?

def deferredAttempts (records : PromotionHistory) : List Nat :=
  records.filterMap deferredAttempt?

def correlationFromIntent (records : PromotionHistory) : Option TargetPromotionCorrelation :=
  (lastWhere isIntent records).map (·.1.correlation)

/-- The first issue that an occurrence raises against the occurrences before it. -/
def firstIssue (issue : PromotionHistory → TargetPromotionJournalEvent → Option String) :
    PromotionHistory → PromotionHistory → Option String
  | _, [] => none
  | prior, event :: rest =>
      match issue prior event with
      | some found => some found
      | none => firstIssue issue (prior ++ [event]) rest

/-- Rejects deferral fields that the Git read path could never truthfully produce. -/
def targetPromotionReconciliationDeferralFieldIssue (afterAttemptOrdinal : Nat)
    (correlation : TargetPromotionCorrelation)
    (deferral : TargetPromotionReconciliationDeferral) : Option String :=
  if afterAttemptOrdinal ≥ targetPromotionAttemptLimit then
    some ("target promotion reconciliation cannot defer after final attempt " ++
      toString afterAttemptOrdinal)
  else
    match deferral with
    | .retryAuthorityRequired observedHeadSha =>
        if observedHeadSha ≠ correlation.expectedHead then
          some ("target promotion retry authority observed " ++ observedHeadSha.value ++
            " instead of exact expected head " ++ correlation.expectedHead.value)
        else none
    | .targetReadFailed _ => none

/-- Why a deferral cannot follow the occurrences before it. -/
def reconciliationDeferralCausalIssue (prior : PromotionHistory)
    (event : TargetPromotionJournalEvent) : Option String :=
  match event with
  | .reconciliationDeferred afterAttemptOrdinal correlation deferral =>
      if correlationFromIntent prior = none then
        some "target promotion reconciliation deferral has no prior exact promotion intent"
      else if prior.any isTerminal then
        some "target promotion reconciliation deferral follows a terminal promotion result"
      else if prior.attemptOrdinals.getLast? ≠ some afterAttemptOrdinal then
        some "target promotion reconciliation deferral has no exact latest unresolved attempt"
      else if afterAttemptOrdinal ∈ prior.deferredAttempts then
        some "target promotion reconciliation deferral duplicates the same promotion attempt"
      else targetPromotionReconciliationDeferralFieldIssue afterAttemptOrdinal correlation deferral
  | _ => none

def targetPromotionReconciliationDeferralIssueFor (records : PromotionHistory)
    (request : TargetPromotionCorrelation) : Option String :=
  firstIssue reconciliationDeferralCausalIssue [] (records.relevantPromotionOccurrences request)

def knownMutationRefusal (prior : PromotionHistory) (boundary : TargetPromotionBoundary)
    (basis : TargetPromotionTerminalBasis) : Bool :=
  boundary ≠ .compareAndSet ||
    (basis ≠ .beforeFirstAttempt && prior.getLast?.any (·.attemptOrdinal?.isSome))

/-- Why a safety refusal cannot follow the occurrences before it. -/
def safetyRefusalCausalIssue (prior : PromotionHistory) (event : TargetPromotionJournalEvent) :
    Option String :=
  match event with
  | .safetyRefused boundary basis _ observationOrdinal _ =>
      if !knownMutationRefusal prior boundary basis || correlationFromIntent prior = none ||
          prior.any isTerminal ||
          basis ≠ TargetPromotionTerminalBasis.ofPrevious prior.attemptOrdinals.getLast? ||
          observationOrdinal ≠ prior.countP isRefusal + 1 then
        some ("target promotion safety refusal has no exact causal basis or sequential " ++
          "observation identity")
      else none
  | _ => none

def targetPromotionSafetyRefusalIssueFor (records : PromotionHistory)
    (request : TargetPromotionCorrelation) : Option String :=
  firstIssue safetyRefusalCausalIssue [] (records.relevantPromotionOccurrences request)

def stateFromTerminal : TargetPromotionJournalEvent → Option TargetPromotionState
  | .observedSuccess basis correlation observation =>
      some (.promotionSucceeded basis correlation observation)
  | .stale basis correlation observation => some (.promotionStale basis correlation observation)
  | .nonConvergence attemptOrdinal correlation lastObservation =>
      some (.promotionNonConvergent attemptOrdinal correlation lastObservation)
  | _ => none

def stateFromRefusal : TargetPromotionJournalEvent → Option TargetPromotionState
  | .safetyRefused boundary basis correlation observationOrdinal refusal =>
      some (.promotionSafetyRefused boundary correlation basis.retry refusal observationOrdinal)
  | _ => none

def stateFromDeferral : TargetPromotionJournalEvent → Option TargetPromotionState
  | .reconciliationDeferred afterAttemptOrdinal correlation deferral =>
      some (.promotionReconciliationDeferred afterAttemptOrdinal correlation deferral)
  | _ => none

def deferredStateFor (relevant : PromotionHistory) : Option TargetPromotionState :=
  match lastWhere (·.attemptOrdinal?.isSome) relevant,
      lastWhere (·.deferredAttempt?.isSome) relevant with
  | some (lastAttempt, attemptPlace), some (lastDeferral, deferralPlace) =>
      if deferralPlace ≤ attemptPlace || lastDeferral.deferredAttempt? ≠ lastAttempt.attemptOrdinal?
      then none
      else stateFromDeferral lastDeferral
  | _, _ => none

def refusedStateFor (relevant : PromotionHistory) : Option TargetPromotionState :=
  match lastWhere isRefusal relevant, lastWhere isProgress relevant with
  | some (lastRefusal, refusalPlace), some (_, progressPlace) =>
      if refusalPlace > progressPlace then stateFromRefusal lastRefusal else none
  | some (lastRefusal, _), none => stateFromRefusal lastRefusal
  | none, _ => none

def pendingStateFor (relevant : PromotionHistory) (intent : TargetPromotionCorrelation) :
    TargetPromotionState :=
  match lastWhere (·.attemptOrdinal?.isSome) relevant with
  | some (.attemptIntended attemptOrdinal correlation _, _) =>
      .promotionPending correlation (.needReconciliationRead attemptOrdinal)
  | _ => .promotionPending intent .needInitialReconciliationRead

/-- Reconstructs promotion state without treating a journal row as Git authority. -/
def deriveTargetPromotionState (records : PromotionHistory)
    (request : TargetPromotionCorrelation) : Option TargetPromotionState :=
  match records.targetPromotionCorrelationConflictFor request with
  | some _ => none
  | none =>
      let relevant := records.relevantPromotionOccurrences request
      match lastWhere isTerminal relevant with
      | some (terminal, _) => stateFromTerminal terminal
      | none =>
          match correlationFromIntent relevant with
          | none => none
          | some intent =>
              match refusedStateFor relevant with
              | some refused => some refused
              | none =>
                  match deferredStateFor relevant with
                  | some deferred => some deferred
                  | none => some (pendingStateFor relevant intent)

/-- Why a promotion prefix is refused. -/
inductive PromotionContradiction where
  | correlation (detail : String) (requestId : TargetPromotionRequestId)
  | history (detail : String) (requestId : TargetPromotionRequestId)
  | result (candidateCommit : GitCommitSha) (detail : String)
deriving DecidableEq

/-- The derived state of a prefix on which the checks find nothing. -/
def validateTargetPromotionState (records : PromotionHistory)
    (correlation : TargetPromotionCorrelation) :
    Except PromotionContradiction (Option TargetPromotionState) :=
  match records.targetPromotionCorrelationConflictFor correlation with
  | some _ =>
      .error (.correlation
        "journal contains a different exact promotion correlation for this request id"
        correlation.requestId)
  | none =>
      match (records.targetPromotionReconciliationDeferralIssueFor correlation).or
          (records.targetPromotionSafetyRefusalIssueFor correlation) with
      | some detail => .error (.history detail correlation.requestId)
      | none => .ok (records.deriveTargetPromotionState correlation)

end PromotionHistory

end Dalph
