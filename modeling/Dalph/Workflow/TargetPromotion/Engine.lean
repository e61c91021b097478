import Dalph.Foundation.Machine
import Dalph.Workflow.TargetPromotion.History

/-!
# Target promotion: engine

One call authorizes the next step from the validated prefix, reads Git, journals a numbered attempt,
sends one compare-and-set and journals its result.  Every append, every Git request and every Git
answer is a step of its own, and the process may crash between any two of them.  What is left of a
crash is the journal; the permissions of a call are gone with the call.
-/

namespace Dalph

open TargetPromotionJournalEvent PromotionHistory

def targetPromotionRecordKeySuffix : TargetPromotionJournalEvent → String
  | .intended _ => ":intent"
  | .attemptIntended attemptOrdinal _ _ => ":attempt:" ++ toString attemptOrdinal
  | .reconciliationDeferred afterAttemptOrdinal _ _ =>
      ":attempt:" ++ (toString afterAttemptOrdinal ++ ":reconciliation-deferred")
  | .safetyRefused _ _ _ observationOrdinal _ => ":safety-refused:" ++ toString observationOrdinal
  | .observedSuccess .. => ":observed-success"
  | .stale .. => ":stale"
  | .nonConvergence .. => ":nonconvergence"

def targetPromotionRecordKey (event : TargetPromotionJournalEvent) : JournalRecordKey :=
  { value := s!"target-promotion:{event.correlation.requestId.value}" ++
      targetPromotionRecordKeySuffix event }

/-- Appends an event under its key; the same event is a replay, and another one contradicts it. -/
def appendTargetPromotionEvent (journal : PromotionHistory) (event : TargetPromotionJournalEvent) :
    Except TargetPromotionJournalEvent PromotionHistory :=
  match journal.find? fun existing =>
      targetPromotionRecordKey existing = targetPromotionRecordKey event with
  | none => .ok (journal ++ [event])
  | some existing => if existing = event then .ok journal else .error existing

/-- Git's complete read after an ambiguous compare-and-set response. -/
inductive TargetPromotionGitReadObservation where
  | candidateAncestor (currentHeadSha : GitCommitSha)
  | candidateCurrent (currentHeadSha : GitCommitSha)
  | candidateNotInAncestry (currentHeadSha : GitCommitSha)
deriving DecidableEq

inductive TargetPromotionReadAnswer where
  | observed (observation : TargetPromotionGitReadObservation)
  | failed (detail : String)
  | refused (refusal : TargetPromotionSafetyRefusal)
deriving DecidableEq

/-- Git's result when replacing the expected head with the candidate. -/
inductive TargetPromotionCompareAndSetResult where
  | applied (newHeadSha : GitCommitSha)
  | rejectedExpectedHead (observedHeadSha : GitCommitSha)
deriving DecidableEq

/-- What a compare-and-set ends with; a failure says nothing of its effect. -/
inductive TargetPromotionCompareAndSetAnswer where
  | settled (result : TargetPromotionCompareAndSetResult)
  | ambiguous
  | refused (refusal : TargetPromotionSafetyRefusal)
deriving DecidableEq

/-- Whether a call may retry or only reconcile. -/
inductive TargetPromotionAuthority where
  | readOnly
  | retryAuthorized
deriving DecidableEq

/-- The durable state that a permission was minted from. -/
inductive TargetPromotionDurableBasis where
  | deferredRetryAuthority
  | deferredTargetReadFailed
  | pendingAttempt
  | pendingInitial
deriving DecidableEq

/-- Process-local permission to perform exactly one promotion read. -/
structure TargetPromotionReadAuthorization where
  authority : TargetPromotionAuthority
  durableBasis : TargetPromotionDurableBasis
  previousAttemptOrdinal : Option Nat
deriving DecidableEq

/-- Process-local proof that one exact-head read authorizes one numbered attempt intent. -/
structure TargetPromotionAttemptAuthorization where
  attemptOrdinal : Nat
  durableBasis : TargetPromotionDurableBasis
  reason : TargetPromotionAttemptReason
deriving DecidableEq

def TargetPromotionState.pendingRead? : TargetPromotionState → Option TargetPromotionPendingRetry
  | promotionPending _ retry | promotionSafetyRefused _ _ retry _ _ => some retry
  | _ => none

def TargetPromotionState.deferral? :
    TargetPromotionState → Option (Nat × TargetPromotionReconciliationDeferral)
  | promotionReconciliationDeferred afterAttemptOrdinal _ deferral =>
      some (afterAttemptOrdinal, deferral)
  | _ => none

def TargetPromotionReconciliationDeferral.isTargetReadFailed :
    TargetPromotionReconciliationDeferral → Bool
  | targetReadFailed _ => true
  | retryAuthorityRequired _ => false

def targetPromotionReadBasisMatches (basis : TargetPromotionReadAuthorization)
    (state : Option TargetPromotionState) : Bool :=
  match basis.durableBasis with
  | .pendingInitial =>
      state.bind (·.pendingRead?) = some .needInitialReconciliationRead
  | .pendingAttempt =>
      (state.bind (·.pendingRead?)).any fun retry =>
        retry ≠ .needInitialReconciliationRead &&
          basis.previousAttemptOrdinal.map .needReconciliationRead = some retry
  | _ =>
      (state.bind (·.deferral?)).any fun (afterAttemptOrdinal, deferral) =>
        some afterAttemptOrdinal = basis.previousAttemptOrdinal && deferral.isTargetReadFailed

def targetPromotionAttemptBasisMatches (basis : TargetPromotionAttemptAuthorization)
    (state : Option TargetPromotionState) : Bool :=
  match basis.durableBasis with
  | .pendingInitial =>
      basis.attemptOrdinal = 1 && state.bind (·.pendingRead?) = some .needInitialReconciliationRead
  | .pendingAttempt =>
      state.bind (·.pendingRead?) = some (.needReconciliationRead (basis.attemptOrdinal - 1))
  | .deferredRetryAuthority =>
      (state.bind (·.deferral?)).any fun (afterAttemptOrdinal, deferral) =>
        afterAttemptOrdinal = basis.attemptOrdinal - 1 && !deferral.isTargetReadFailed
  | .deferredTargetReadFailed =>
      (state.bind (·.deferral?)).any fun (afterAttemptOrdinal, deferral) =>
        afterAttemptOrdinal = basis.attemptOrdinal - 1 && deferral.isTargetReadFailed

inductive TargetPromotionReadDecision where
  | attemptAuthorized (authorization : TargetPromotionAttemptAuthorization)
  | nonConvergent (attemptOrdinal : Nat) (observation : TargetPromotionNonConvergenceObservation)
  | propagateFailure (detail : String)
  | reconciliationDeferred (afterAttemptOrdinal : Nat)
      (deferral : TargetPromotionReconciliationDeferral)
  | resultContradiction (detail : String)
  | stale (basis : TargetPromotionTerminalBasis) (observation : TargetPromotionStaleObservation)
  | succeeded (basis : TargetPromotionTerminalBasis)
      (observation : TargetPromotionSuccessObservation)
deriving DecidableEq

def decideFailedTargetPromotionRead (basis : TargetPromotionReadAuthorization) (detail : String) :
    TargetPromotionReadDecision :=
  match basis.previousAttemptOrdinal with
  | none => .propagateFailure detail
  | some previousAttemptOrdinal =>
      if basis.authority = .readOnly ∧ previousAttemptOrdinal ≠ targetPromotionAttemptLimit then
        .reconciliationDeferred previousAttemptOrdinal (.targetReadFailed detail)
      else if previousAttemptOrdinal = targetPromotionAttemptLimit then
        .nonConvergent previousAttemptOrdinal (.targetReadFailed detail)
      else .propagateFailure detail

def decideExpectedHeadRead (basis : TargetPromotionReadAuthorization)
    (observedHeadSha : GitCommitSha) : TargetPromotionReadDecision :=
  match basis.previousAttemptOrdinal with
  | none => .attemptAuthorized ⟨1, basis.durableBasis, .initial observedHeadSha⟩
  | some previousAttemptOrdinal =>
      if previousAttemptOrdinal = targetPromotionAttemptLimit then
        .nonConvergent previousAttemptOrdinal (.expectedHeadStillObserved observedHeadSha)
      else if basis.authority = .readOnly then
        .reconciliationDeferred previousAttemptOrdinal (.retryAuthorityRequired observedHeadSha)
      else
        .attemptAuthorized ⟨previousAttemptOrdinal + 1, basis.durableBasis,
          .reconciledExpectedHead observedHeadSha previousAttemptOrdinal⟩

/-- Why an observation cannot be true of the request. -/
def readObservationContradiction (request : TargetPromotionCorrelation) :
    TargetPromotionGitReadObservation → Option String
  | .candidateCurrent currentHeadSha =>
      if currentHeadSha ≠ request.candidateCommit then
        some "Git classified a non-candidate head as the candidate current head"
      else none
  | .candidateAncestor currentHeadSha =>
      if currentHeadSha = request.candidateCommit then
        some "Git classified the exact candidate current head as not current"
      else if currentHeadSha = request.expectedHead then
        some "Git classified the candidate as an ancestor of its own expected first parent"
      else none
  | .candidateNotInAncestry currentHeadSha =>
      if currentHeadSha = request.candidateCommit then
        some "Git classified the exact candidate current head as not current"
      else none

def decideSuccessfulTargetPromotionRead (request : TargetPromotionCorrelation)
    (basis : TargetPromotionReadAuthorization) (observation : TargetPromotionGitReadObservation) :
    TargetPromotionReadDecision :=
  match readObservationContradiction request observation with
  | some detail => .resultContradiction detail
  | none =>
      let terminalBasis := TargetPromotionTerminalBasis.ofPrevious basis.previousAttemptOrdinal
      match observation with
      | .candidateCurrent currentHeadSha =>
          .succeeded terminalBasis (.reconciledCandidateCurrent currentHeadSha)
      | .candidateAncestor currentHeadSha =>
          .succeeded terminalBasis (.reconciledCandidateAncestor currentHeadSha)
      | .candidateNotInAncestry currentHeadSha =>
          if currentHeadSha = request.expectedHead then decideExpectedHeadRead basis currentHeadSha
          else .stale terminalBasis (.reconciledCandidateNotInAncestry currentHeadSha)

/-- The decision after a compare-and-set that Git answered. -/
inductive TargetPromotionSettlementDecision where
  | resultContradiction (detail : String)
  | stale (observation : TargetPromotionStaleObservation)
  | succeeded (observation : TargetPromotionSuccessObservation)
deriving DecidableEq

/-- The terminal interpretation of one observed compare-and-set response. -/
def decideTargetPromotionSettlement (request : TargetPromotionCorrelation) :
    TargetPromotionCompareAndSetResult → TargetPromotionSettlementDecision
  | .applied newHeadSha =>
      if newHeadSha = request.candidateCommit then .succeeded (.compareAndSetApplied newHeadSha)
      else
        .resultContradiction ("Git reported " ++ newHeadSha.value ++ " after requesting " ++
          request.candidateCommit.value)
  | .rejectedExpectedHead observedHeadSha =>
      if observedHeadSha = request.candidateCommit then
        .succeeded (.reconciledCandidateCurrent observedHeadSha)
      else if observedHeadSha = request.expectedHead then
        .resultContradiction "Git rejected the compare-and-set while reporting the exact expected head"
      else .stale (.compareAndSetRejected observedHeadSha)

inductive PromotionCall where
  | readAuthorized (authorization : TargetPromotionReadAuthorization)
  | reading (authorization : TargetPromotionReadAuthorization)
  | read (authorization : TargetPromotionReadAuthorization) (answer : TargetPromotionReadAnswer)
  | attemptAuthorized (authorization : TargetPromotionAttemptAuthorization)
  | attemptIntended (attemptOrdinal : Nat)
  | sending (attemptOrdinal : Nat)
  | sent (attemptOrdinal : Nat) (answer : TargetPromotionCompareAndSetAnswer)
deriving DecidableEq

/-- The records of one request, the call in flight and the attempts whose compare-and-set was
sent. -/
structure PromotionMachine where
  journal : PromotionHistory
  call : Option PromotionCall
  sent : List Nat

/-- Why a call failed. -/
inductive PromotionFailure where
  | contradiction (contradiction : PromotionContradiction)
  | gitRead (detail : String)
  | died (detail : String)
deriving DecidableEq

/-- What a step shows. -/
inductive PromotionAnswer where
  | working
  | ignored
  | returned (state : TargetPromotionState)
  | failed (failure : PromotionFailure)
  | journalContradiction (existing : TargetPromotionJournalEvent)
deriving DecidableEq

/-- What may happen next.  The publication proof of a call is checked by another protocol. -/
inductive PromotionAction where
  | runTargetPromotion (published : Bool)
  | reconcileTargetPromotionAttempt (published : Bool)
  | proceed
  | gitRead (answer : TargetPromotionReadAnswer)
  | gitCompareAndSet (answer : TargetPromotionCompareAndSetAnswer)
  | crash
deriving DecidableEq

namespace PromotionMachine

def finish (machine : PromotionMachine) (answer : PromotionAnswer) :
    PromotionAnswer × PromotionMachine :=
  (answer, { machine with call := none })

def advance (machine : PromotionMachine) (call : PromotionCall) :
    PromotionAnswer × PromotionMachine :=
  (.working, { machine with call := some call })

def resultContradiction (machine : PromotionMachine) (correlation : TargetPromotionCorrelation)
    (detail : String) : PromotionAnswer × PromotionMachine :=
  machine.finish (.failed (.contradiction (.result correlation.candidateCommit detail)))

def validated (machine : PromotionMachine) (correlation : TargetPromotionCorrelation)
    (next : Option TargetPromotionState → PromotionAnswer × PromotionMachine) :
    PromotionAnswer × PromotionMachine :=
  match machine.journal.validateTargetPromotionState correlation with
  | .error contradiction => machine.finish (.failed (.contradiction contradiction))
  | .ok state => next state

def append (machine : PromotionMachine) (event : TargetPromotionJournalEvent)
    (next : PromotionMachine → PromotionAnswer × PromotionMachine) :
    PromotionAnswer × PromotionMachine :=
  match appendTargetPromotionEvent machine.journal event with
  | .error existing => machine.finish (.journalContradiction existing)
  | .ok journal => next { machine with journal }

def appendState (machine : PromotionMachine) (event : TargetPromotionJournalEvent)
    (state : TargetPromotionState) : PromotionAnswer × PromotionMachine :=
  machine.append event fun appended => appended.finish (.returned state)

end PromotionMachine

/-- The next read of a pending promotion; a read-only call does not read before the first attempt. -/
def authorizePendingProgress (retry : TargetPromotionPendingRetry)
    (authority : TargetPromotionAuthority) : Option TargetPromotionReadAuthorization :=
  match retry with
  | .needInitialReconciliationRead =>
      if authority = .readOnly then none else some ⟨authority, .pendingInitial, none⟩
  | .needReconciliationRead afterAttemptOrdinal =>
      some ⟨authority, .pendingAttempt, some afterAttemptOrdinal⟩

namespace PromotionMachine

/-- The next step of a promotion that has a state. -/
def authorizeProgress (machine : PromotionMachine) (state : TargetPromotionState)
    (authority : TargetPromotionAuthority)
    (unauthorized : PromotionAnswer × PromotionMachine) : PromotionAnswer × PromotionMachine :=
  match state with
  | .promotionPending _ retry | .promotionSafetyRefused _ _ retry _ _ =>
      match authorizePendingProgress retry authority with
      | some authorization => machine.advance (.readAuthorized authorization)
      | none => unauthorized
  | .promotionReconciliationDeferred afterAttemptOrdinal _ deferral =>
      if authority = .readOnly then machine.finish (.returned state)
      else
        match deferral with
        | .targetReadFailed _ =>
            machine.advance (.readAuthorized
              ⟨authority, .deferredTargetReadFailed, some afterAttemptOrdinal⟩)
        | .retryAuthorityRequired observedHeadSha =>
            machine.advance (.attemptAuthorized ⟨afterAttemptOrdinal + 1, .deferredRetryAuthority,
              .reconciledExpectedHead observedHeadSha afterAttemptOrdinal⟩)
  | _ => machine.finish (.returned state)

/-- Starts a new promotion or selects the next step for an existing exact correlation. -/
def authorizeOrRecordTargetPromotionProgress (machine : PromotionMachine)
    (correlation : TargetPromotionCorrelation) : PromotionAnswer × PromotionMachine :=
  machine.validated correlation fun
    | none =>
        machine.append (.intended correlation) fun appended =>
          appended.advance (.readAuthorized ⟨.retryAuthorized, .pendingInitial, none⟩)
    | some state =>
        machine.authorizeProgress state .retryAuthorized
          (machine.finish (.failed
            (.died "retry-authorized pending promotion did not authorize a read")))

/-- Selects the next step without reading Git, appending an event or requesting a mutation. -/
def authorizeTargetPromotionProgress (machine : PromotionMachine)
    (correlation : TargetPromotionCorrelation) (authority : TargetPromotionAuthority) :
    PromotionAnswer × PromotionMachine :=
  machine.validated correlation fun
    | none =>
        machine.resultContradiction correlation
          "target promotion progress requires a durable promotion intent"
    | some state =>
        machine.authorizeProgress state authority
          (machine.resultContradiction correlation
            "read-only reconciliation requires one exact unmatched compare-and-set intent")

def repeatsRefusal (journal : PromotionHistory) (boundary : TargetPromotionBoundary)
    (basis : TargetPromotionTerminalBasis) (refusal : TargetPromotionSafetyRefusal) : Bool :=
  (lastWhere isRefusal journal).any fun last =>
    match last.1 with
    | .safetyRefused lastBoundary lastBasis _ _ lastRefusal =>
        lastBoundary = boundary && lastBasis = basis && lastRefusal = refusal
    | _ => false

def isSafetyRefused : TargetPromotionState → Bool
  | .promotionSafetyRefused .. => true
  | _ => false

/-- Appends the next safety observation and returns the state reconstructed from it. -/
def appendRefusal (machine : PromotionMachine) (boundary : TargetPromotionBoundary)
    (correlation : TargetPromotionCorrelation) (basis : TargetPromotionTerminalBasis)
    (refusal : TargetPromotionSafetyRefusal) : PromotionAnswer × PromotionMachine :=
  let event := TargetPromotionJournalEvent.safetyRefused boundary basis correlation
    (machine.journal.countP isRefusal + 1) refusal
  machine.append event fun appended =>
    match (machine.journal ++ [event]).deriveTargetPromotionState correlation with
    | some state =>
        if isSafetyRefused state then appended.finish (.returned state)
        else appended.finish (.failed
          (.died "appended safety refusal did not reconstruct its exact promotion state"))
    | none => appended.finish (.failed
        (.died "appended safety refusal did not reconstruct its exact promotion state"))

/-- Retains a fresh failed boundary observation; a repeated one reuses its observation. -/
def appendTargetPromotionSafetyRefusal (machine : PromotionMachine)
    (boundary : TargetPromotionBoundary) (correlation : TargetPromotionCorrelation)
    (afterAttemptOrdinal : Option Nat) (refusal : TargetPromotionSafetyRefusal) :
    PromotionAnswer × PromotionMachine :=
  let basis := TargetPromotionTerminalBasis.ofPrevious afterAttemptOrdinal
  match machine.journal.deriveTargetPromotionState correlation with
  | some current =>
      if isSafetyRefused current && repeatsRefusal machine.journal boundary basis refusal then
        machine.finish (.returned current)
      else machine.appendRefusal boundary correlation basis refusal
  | none => machine.appendRefusal boundary correlation basis refusal

/-- Carries out the decision of one read. -/
def finishReadDecision (machine : PromotionMachine) (correlation : TargetPromotionCorrelation) :
    TargetPromotionReadDecision → PromotionAnswer × PromotionMachine
  | .attemptAuthorized authorization => machine.advance (.attemptAuthorized authorization)
  | .nonConvergent attemptOrdinal observation =>
      machine.appendState (.nonConvergence attemptOrdinal correlation observation)
        (.promotionNonConvergent attemptOrdinal correlation observation)
  | .propagateFailure detail => machine.finish (.failed (.gitRead detail))
  | .reconciliationDeferred afterAttemptOrdinal deferral =>
      machine.appendState (.reconciliationDeferred afterAttemptOrdinal correlation deferral)
        (.promotionReconciliationDeferred afterAttemptOrdinal correlation deferral)
  | .resultContradiction detail => machine.resultContradiction correlation detail
  | .stale basis observation =>
      machine.appendState (.stale basis correlation observation)
        (.promotionStale basis correlation observation)
  | .succeeded basis observation =>
      machine.appendState (.observedSuccess basis correlation observation)
        (.promotionSucceeded basis correlation observation)

/-- Checks a read permission against the durable state and asks Git. -/
def requestTargetPromotionRead (machine : PromotionMachine)
    (correlation : TargetPromotionCorrelation) (authorization : TargetPromotionReadAuthorization) :
    PromotionAnswer × PromotionMachine :=
  machine.validated correlation fun state =>
    if targetPromotionReadBasisMatches authorization state then
      machine.advance (.reading authorization)
    else
      machine.resultContradiction correlation
        "promotion read authorization no longer matches the exact durable state"

/-- Carries out what Git answered to the one read of a permission. -/
def observeTargetPromotionRead (machine : PromotionMachine)
    (correlation : TargetPromotionCorrelation) (authorization : TargetPromotionReadAuthorization) :
    TargetPromotionReadAnswer → PromotionAnswer × PromotionMachine
  | .observed observation =>
      machine.finishReadDecision correlation
        (decideSuccessfulTargetPromotionRead correlation authorization observation)
  | .failed detail =>
      machine.finishReadDecision correlation
        (decideFailedTargetPromotionRead authorization detail)
  | .refused refusal =>
      machine.appendTargetPromotionSafetyRefusal .reconciliationRead correlation
        authorization.previousAttemptOrdinal refusal

/-- Appends exactly one numbered compare-and-set intent and does not call Git. -/
def recordTargetPromotionAttemptIntent (machine : PromotionMachine)
    (correlation : TargetPromotionCorrelation)
    (authorization : TargetPromotionAttemptAuthorization) : PromotionAnswer × PromotionMachine :=
  machine.validated correlation fun state =>
    if targetPromotionAttemptBasisMatches authorization state then
      machine.append (.attemptIntended authorization.attemptOrdinal correlation authorization.reason)
        fun appended => appended.advance (.attemptIntended authorization.attemptOrdinal)
    else
      machine.resultContradiction correlation
        "promotion attempt authorization no longer matches the exact durable state"

def pendingAttemptOrdinalMatches (state : Option TargetPromotionState) (attemptOrdinal : Nat) :
    Bool :=
  match state with
  | some (.promotionPending _ retry) => retry = .needReconciliationRead attemptOrdinal
  | _ => false

/-- Calls Git exactly once for an already-journaled attempt and does not append a result. -/
def sendTargetPromotionAttempt (machine : PromotionMachine)
    (correlation : TargetPromotionCorrelation) (attemptOrdinal : Nat) :
    PromotionAnswer × PromotionMachine :=
  machine.validated correlation fun state =>
    if pendingAttemptOrdinalMatches state attemptOrdinal then
      { machine with sent := machine.sent ++ [attemptOrdinal] }.advance (.sending attemptOrdinal)
    else
      machine.resultContradiction correlation
        "promotion attempt intent no longer matches the exact durable state"

/-- Appends what a compare-and-set response was decided to mean. -/
def finishSettlement (machine : PromotionMachine) (correlation : TargetPromotionCorrelation)
    (attemptOrdinal : Nat) :
    TargetPromotionSettlementDecision → PromotionAnswer × PromotionMachine
  | .resultContradiction detail => machine.resultContradiction correlation detail
  | .stale observation =>
      machine.appendState (.stale (.afterAttempt attemptOrdinal) correlation observation)
        (.promotionStale (.afterAttempt attemptOrdinal) correlation observation)
  | .succeeded observation =>
      machine.appendState (.observedSuccess (.afterAttempt attemptOrdinal) correlation observation)
        (.promotionSucceeded (.afterAttempt attemptOrdinal) correlation observation)

/-- Appends the terminal interpretation of one observed compare-and-set response. -/
def settleTargetPromotionAttempt (machine : PromotionMachine)
    (correlation : TargetPromotionCorrelation) (attemptOrdinal : Nat)
    (result : TargetPromotionCompareAndSetResult) : PromotionAnswer × PromotionMachine :=
  machine.validated correlation fun state =>
    if pendingAttemptOrdinalMatches state attemptOrdinal then
      machine.finishSettlement correlation attemptOrdinal
        (decideTargetPromotionSettlement correlation result)
    else
      machine.resultContradiction correlation
        "observed promotion attempt no longer matches the exact durable state"

/-- Carries out what Git answered to the compare-and-set of an attempt. -/
def observeTargetPromotionAttempt (machine : PromotionMachine)
    (correlation : TargetPromotionCorrelation) (attemptOrdinal : Nat) :
    TargetPromotionCompareAndSetAnswer → PromotionAnswer × PromotionMachine
  | .refused refusal =>
      machine.appendTargetPromotionSafetyRefusal .compareAndSet correlation (some attemptOrdinal)
        refusal
  | .ambiguous =>
      machine.finish (.returned (.promotionPending correlation
        (.needReconciliationRead attemptOrdinal)))
  | .settled result => machine.settleTargetPromotionAttempt correlation attemptOrdinal result

/-- The next step of a call that waits for nothing. -/
def proceed (machine : PromotionMachine) (correlation : TargetPromotionCorrelation) :
    PromotionCall → PromotionAnswer × PromotionMachine
  | .readAuthorized authorization => machine.requestTargetPromotionRead correlation authorization
  | .read authorization answer =>
      machine.observeTargetPromotionRead correlation authorization answer
  | .attemptAuthorized authorization =>
      machine.recordTargetPromotionAttemptIntent correlation authorization
  | .attemptIntended attemptOrdinal =>
      machine.sendTargetPromotionAttempt correlation attemptOrdinal
  | .sent attemptOrdinal answer =>
      machine.observeTargetPromotionAttempt correlation attemptOrdinal answer
  | .reading _ | .sending _ => (.ignored, machine)

end PromotionMachine

/-- A call without the exact durable publication proof fails. -/
def authorizePublishedCandidate (correlation : TargetPromotionCorrelation) (published : Bool)
    (machine : PromotionMachine) (next : PromotionAnswer × PromotionMachine) :
    PromotionAnswer × PromotionMachine :=
  if published then next
  else
    machine.resultContradiction correlation
      "target promotion requires the exact durable remote publication proof"

def promotionStep (correlation : TargetPromotionCorrelation) (action : PromotionAction)
    (machine : PromotionMachine) : PromotionAnswer × PromotionMachine :=
  match action, machine.call with
  | .runTargetPromotion published, none =>
      authorizePublishedCandidate correlation published machine
        (machine.authorizeOrRecordTargetPromotionProgress correlation)
  | .reconcileTargetPromotionAttempt published, none =>
      authorizePublishedCandidate correlation published machine
        (machine.authorizeTargetPromotionProgress correlation .readOnly)
  | .proceed, some call => machine.proceed correlation call
  | .gitRead answer, some (.reading authorization) => machine.advance (.read authorization answer)
  | .gitCompareAndSet answer, some (.sending attemptOrdinal) =>
      machine.advance (.sent attemptOrdinal answer)
  | .crash, some _ => machine.finish .working
  | _, _ => (.ignored, machine)

end Dalph
