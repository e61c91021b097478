import Dalph.Contracts
import Dalph.Foundation.KeyedMap
import Dalph.Foundation.Machine

/-!
# Application Exit

One reference holds the forward owners and the phase of the application; two one-shot signals tell
that Exit was requested and that every forward owner was released.  Calls run concurrently, and every
update of the reference and every completion of a signal is one step.
-/

namespace Dalph

inductive CompletionClaimCleanupBoundaryCall where
  | readBeforeOriginalClaimRelease (readOrdinal : Nat)
  | releaseOriginalClaim
  | confirmOriginalClaimReleased (attemptOrdinal readOrdinal : Nat)
  | confirmNoActiveClaimAfterMarkerAbsent (attemptOrdinal readOrdinal : Nat)
  | readBeforeDeletionAttempt (attemptOrdinal readOrdinal : Nat)
  | deleteAttempt (attemptOrdinal : Nat)
  | readAfterDeletionAttemptsExhausted (attemptOrdinal readOrdinal : Nat)
deriving DecidableEq

structure CompletionClaimDeletionRequest where
  operationId : OperationId
  claim : Payload
  successObservation : Payload
deriving DecidableEq

inductive InterruptibleBoundaryIntent where
  | remoteBaseline (correlation phase : Payload)
  | authorityRequest (family : Payload) (operationId : OperationId)
  | postPromotionFinalityReads (request : Payload)
      (graphOperationId specificationOperationId claimOperationId : OperationId)
  | taskClaimCleanup (operation : Payload)
  | completionClaimCleanup (call : CompletionClaimCleanupBoundaryCall) (callId : String)
      (replacementOperationId : OperationId) (request : CompletionClaimDeletionRequest)
      (sequenceId : String)
deriving DecidableEq

def completionClaimRequestLimit : Nat := 3

/-- The call that may follow a recorded cleanup call. -/
def matchCleanupCall : CompletionClaimCleanupBoundaryCall → CompletionClaimCleanupBoundaryCall → Bool
  | .confirmNoActiveClaimAfterMarkerAbsent _ _, _ => false
  | .confirmOriginalClaimReleased attemptOrdinal _, .deleteAttempt next => next = attemptOrdinal
  | .deleteAttempt attemptOrdinal, .readBeforeDeletionAttempt next _ => next = attemptOrdinal + 1
  | .deleteAttempt attemptOrdinal, .readAfterDeletionAttemptsExhausted next _ =>
      next = attemptOrdinal && attemptOrdinal = completionClaimRequestLimit
  | .readAfterDeletionAttemptsExhausted attemptOrdinal _,
      .confirmNoActiveClaimAfterMarkerAbsent next _ => next = attemptOrdinal
  | .readBeforeDeletionAttempt attemptOrdinal _, .confirmOriginalClaimReleased next _ =>
      next = attemptOrdinal
  | .readBeforeDeletionAttempt attemptOrdinal _, .confirmNoActiveClaimAfterMarkerAbsent next _ =>
      attemptOrdinal > 1 && next = attemptOrdinal
  | .readBeforeOriginalClaimRelease _, .releaseOriginalClaim => true
  | .releaseOriginalClaim, .readBeforeDeletionAttempt next _ => next = 1
  | _, _ => false

/-- Allows only the next exact call in one value-equal completion-claim cleanup. -/
def continuesCompletionClaimCleanup : InterruptibleBoundaryIntent → InterruptibleBoundaryIntent → Bool
  | .completionClaimCleanup call _ replacementOperationId request sequenceId,
      .completionClaimCleanup nextCall _ nextReplacementOperationId nextRequest nextSequenceId =>
      sequenceId = nextSequenceId && replacementOperationId = nextReplacementOperationId &&
        request.operationId = nextRequest.operationId && request.claim = nextRequest.claim &&
        request.successObservation = nextRequest.successObservation &&
        matchCleanupCall call nextCall
  | _, _ => false

inductive ForwardOwnerKind where
  | atomicBoundary
  | authorizedRunTerminationAppend
  | interruptibleBoundary
  | runActivation
deriving DecidableEq

inductive InterruptibleBoundaryOwnerSnapshot where
  | noBoundaryCall
  | awaitingBoundaryResult (intent : InterruptibleBoundaryIntent)
  | boundaryResultProduced (intent : InterruptibleBoundaryIntent)
  | boundaryResultRecorded (intent : InterruptibleBoundaryIntent)
  | recoverableAmbiguity (intent : InterruptibleBoundaryIntent)
deriving DecidableEq

/-- One owner; only a registered interruptible owner has a boundary. -/
inductive ForwardOwnerState where
  | preparing (kind : ForwardOwnerKind)
  | registeredInterruptible (boundary : InterruptibleBoundaryOwnerSnapshot)
  | registered (kind : ForwardOwnerKind) (other : kind ≠ .interruptibleBoundary)
deriving DecidableEq

def ForwardOwnerState.ofKind (kind : ForwardOwnerKind) : ForwardOwnerState :=
  if other : kind = .interruptibleBoundary then .registeredInterruptible .noBoundaryCall
  else .registered kind other

def boundaryAccepts (boundary : InterruptibleBoundaryOwnerSnapshot)
    (intent : InterruptibleBoundaryIntent) : Bool :=
  match boundary with
  | .noBoundaryCall => true
  | .boundaryResultRecorded previous => continuesCompletionClaimCleanup previous intent
  | _ => false

inductive ApplicationExitPhase where
  | serving
  | exiting (cutoffAt : Nat)
deriving DecidableEq

section Lifecycle

variable {Value : Type}

/-- How a call of the lifecycle ends. -/
inductive ApplicationExitOutcome (Value : Type) where
  | prepared (ownerId : Nat)
  | registered
  | applicationExiting
  | removed
  | exitRequest (cutoffAt : Nat) (first : Bool)
  | interrupted
  | failed
  | recordingFailed
  | completed (value : Value)
deriving DecidableEq

/-- Where a call stands. -/
inductive ApplicationExitCall (Value : Type) where
  /-- `removeOwner` removed the last owner after the cutoff; the signal is not yet completed. -/
  | drained
  /-- The first request closed the cutoff; its signals are not yet completed. -/
  | exitDecided (cutoffAt : Nat) (ownersDrained : Bool)
  /-- The first request has told that Exit was requested; the owners were already drained. -/
  | exitDraining (cutoffAt : Nat)
  /-- The boundary call races with the Exit request. -/
  | awaiting (ownerId : Nat) (intent : InterruptibleBoundaryIntent)
  /-- Exit won the race. -/
  | exitWon (ownerId : Nat) (intent : InterruptibleBoundaryIntent)
  /-- The call won the race; the uninterruptible region has not begun. -/
  | returned (ownerId : Nat) (intent : InterruptibleBoundaryIntent) (value : Value)
  /-- The result is produced and `recordResult` runs. -/
  | produced (ownerId : Nat) (intent : InterruptibleBoundaryIntent) (value : Value)
  /-- `recordResult` succeeded. -/
  | recorded (ownerId : Nat) (intent : InterruptibleBoundaryIntent) (value : Value)
  /-- The owner shows the recorded result; the phase is still to be read. -/
  | closing (value : Value)
  /-- The atomic section runs. -/
  | inSection
  /-- The atomic section returned; the phase is still to be read. -/
  | sectionLeft (value : Value)
  | ended (outcome : ApplicationExitOutcome Value)
deriving DecidableEq

/-- The reference, the signals, every call so far and what `recordResult` has recorded. -/
structure ApplicationExitState (Value : Type) where
  nextOwnerId : Nat
  owners : KeyedMap Nat ForwardOwnerState
  phase : ApplicationExitPhase
  exitRequested : Bool
  forwardOwnersReleased : Bool
  nextCall : Nat
  calls : Nat → Option (ApplicationExitCall Value)
  recordedResults : List (Nat × Value)

/-- A new call or the next step of one. -/
inductive ApplicationExitAction (Value : Type) where
  | prepareForwardOwner (kind : ForwardOwnerKind)
  | register (ownerId : Nat)
  /-- `cancel` of a preparation and `release` of a lease. -/
  | removeOwner (ownerId : Nat)
  | requestExit (requestedAt : Nat)
  | runInterruptibleBoundary (ownerId : Nat) (intent : InterruptibleBoundaryIntent)
  | runAtomicBoundary (ownerId : Nat)
  | resume (call : Nat)
  /-- The boundary call, the recording or the section of a call ends. -/
  | effectReturns (call : Nat) (value : Value)
  | effectFails (call : Nat)
  | interrupt (call : Nat)
deriving DecidableEq

inductive ApplicationExitAnswer (Value : Type) where
  /-- The call cannot take the step now. -/
  | blocked
  | suspended
  /-- A boundary call or an atomic section was entered. -/
  | entered
  | ended (outcome : ApplicationExitOutcome Value)
deriving DecidableEq

def makeApplicationExitLifecycle : ApplicationExitState Value where
  nextOwnerId := 0
  owners := ∅
  phase := .serving
  exitRequested := false
  forwardOwnersReleased := false
  nextCall := 0
  calls := fun _ => none
  recordedResults := []

namespace ApplicationExitState

def setCall (state : ApplicationExitState Value) (call : Nat) (next : ApplicationExitCall Value) :
    ApplicationExitState Value :=
  { state with calls := Function.update state.calls call (some next) }

def begin (state : ApplicationExitState Value) (first : ApplicationExitCall Value) :
    ApplicationExitState Value :=
  { state with nextCall := state.nextCall + 1 }.setCall state.nextCall first

def answer (state : ApplicationExitState Value) (outcome : ApplicationExitOutcome Value) :
    ApplicationExitAnswer Value × ApplicationExitState Value :=
  (.ended outcome, state.begin (.ended outcome))

def finish (state : ApplicationExitState Value) (call : Nat)
    (outcome : ApplicationExitOutcome Value) :
    ApplicationExitAnswer Value × ApplicationExitState Value :=
  (.ended outcome, state.setCall call (.ended outcome))

/-- Atomically rejects late work or records its preparation. -/
def prepareForwardOwner (state : ApplicationExitState Value) (kind : ForwardOwnerKind) :
    ApplicationExitAnswer Value × ApplicationExitState Value :=
  match state.phase with
  | .exiting _ => state.answer .applicationExiting
  | .serving =>
      { state with
        nextOwnerId := state.nextOwnerId + 1
        owners := state.owners.insert state.nextOwnerId (.preparing kind) }.answer
          (.prepared state.nextOwnerId)

def register (state : ApplicationExitState Value) (ownerId : Nat) :
    ApplicationExitAnswer Value × ApplicationExitState Value :=
  match state.phase, state.owners.lookup ownerId with
  | .serving, some (.preparing kind) =>
      { state with owners := state.owners.insert ownerId (.ofKind kind) }.answer .registered
  | _, _ => state.answer .applicationExiting

/-- Removes an owner; the last one after the cutoff completes the signal in a further step. -/
def removeOwner (state : ApplicationExitState Value) (ownerId : Nat) :
    ApplicationExitAnswer Value × ApplicationExitState Value :=
  if (state.owners.lookup ownerId).isNone then state.answer .removed
  else
    let owners := state.owners.erase ownerId
    if state.phase ≠ .serving ∧ KeyedMap.size owners = 0 then
      (.suspended, { state with owners }.begin .drained)
    else { state with owners }.answer .removed

/-- Closes the cutoff, or joins it when it is already closed. -/
def requestExit (state : ApplicationExitState Value) (requestedAt : Nat) :
    ApplicationExitAnswer Value × ApplicationExitState Value :=
  match state.phase with
  | .exiting cutoffAt => state.answer (.exitRequest cutoffAt false)
  | .serving =>
      (.suspended, { state with phase := .exiting requestedAt }.begin
        (.exitDecided requestedAt (KeyedMap.size state.owners = 0)))

def updateInterruptibleBoundary (state : ApplicationExitState Value) (ownerId : Nat)
    (boundary : InterruptibleBoundaryOwnerSnapshot) : ApplicationExitState Value :=
  match state.owners.lookup ownerId with
  | some (.registeredInterruptible _) =>
      { state with owners := state.owners.insert ownerId (.registeredInterruptible boundary) }
  | _ => state

/-- Admits a boundary call of a registered interruptible owner before the cutoff. -/
def runInterruptibleBoundary (state : ApplicationExitState Value) (ownerId : Nat)
    (intent : InterruptibleBoundaryIntent) :
    ApplicationExitAnswer Value × ApplicationExitState Value :=
  match state.phase, state.owners.lookup ownerId with
  | .serving, some (.registeredInterruptible boundary) =>
      if boundaryAccepts boundary intent then
        (.entered,
          { state with
            owners := state.owners.insert ownerId
              (.registeredInterruptible (.awaitingBoundaryResult intent)) }.begin
            (.awaiting ownerId intent))
      else state.answer .interrupted
  | _, _ => state.answer .interrupted

def runAtomicBoundary (state : ApplicationExitState Value) (ownerId : Nat) :
    ApplicationExitAnswer Value × ApplicationExitState Value :=
  match state.phase, state.owners.lookup ownerId with
  | .serving, some (.registered .atomicBoundary _) => (.entered, state.begin .inSection)
  | _, _ => state.answer .interrupted

/-- Next step of a suspended call. -/
def resume (state : ApplicationExitState Value) (call : Nat) :
    ApplicationExitAnswer Value × ApplicationExitState Value :=
  match state.calls call with
  | some .drained => { state with forwardOwnersReleased := true }.finish call .removed
  | some (.exitDecided cutoffAt ownersDrained) =>
      if ownersDrained then
        (.suspended, { state with exitRequested := true }.setCall call (.exitDraining cutoffAt))
      else { state with exitRequested := true }.finish call (.exitRequest cutoffAt true)
  | some (.exitDraining cutoffAt) =>
      { state with forwardOwnersReleased := true }.finish call (.exitRequest cutoffAt true)
  | some (.awaiting ownerId intent) =>
      if state.exitRequested then (.suspended, state.setCall call (.exitWon ownerId intent))
      else (.blocked, state)
  | some (.exitWon ownerId intent) =>
      (state.updateInterruptibleBoundary ownerId (.recoverableAmbiguity intent)).finish call
        .interrupted
  | some (.returned ownerId intent value) =>
      (.suspended, (state.updateInterruptibleBoundary ownerId
        (.boundaryResultProduced intent)).setCall call (.produced ownerId intent value))
  | some (.recorded ownerId intent value) =>
      (.suspended, (state.updateInterruptibleBoundary ownerId
        (.boundaryResultRecorded intent)).setCall call (.closing value))
  | some (.closing value) | some (.sectionLeft value) =>
      match state.phase with
      | .exiting _ => state.finish call .interrupted
      | .serving => state.finish call (.completed value)
  | _ => (.blocked, state)

/-- The caller's effect of a call succeeds. -/
def effectReturns (state : ApplicationExitState Value) (call : Nat) (value : Value) :
    ApplicationExitAnswer Value × ApplicationExitState Value :=
  match state.calls call with
  | some (.awaiting ownerId intent) =>
      (.suspended, state.setCall call (.returned ownerId intent value))
  | some (.produced ownerId intent result) =>
      (.suspended,
        { state with recordedResults := state.recordedResults ++ [(call, result)] }.setCall call
          (.recorded ownerId intent value))
  | some .inSection => (.suspended, state.setCall call (.sectionLeft value))
  | _ => (.blocked, state)

def effectFails (state : ApplicationExitState Value) (call : Nat) :
    ApplicationExitAnswer Value × ApplicationExitState Value :=
  match state.calls call with
  | some (.awaiting _ _) => state.finish call .failed
  | some (.produced _ _ _) => state.finish call .recordingFailed
  | some .inSection => state.finish call .failed
  | _ => (.blocked, state)

/-- Interruption of the caller; the section and everything from the produced result on are
uninterruptible. -/
def interrupt (state : ApplicationExitState Value) (call : Nat) :
    ApplicationExitAnswer Value × ApplicationExitState Value :=
  match state.calls call with
  | some (.awaiting _ _) | some (.exitWon _ _) | some (.returned _ _ _) | some (.sectionLeft _) =>
      state.finish call .interrupted
  | _ => (.blocked, state)

def step (action : ApplicationExitAction Value) (state : ApplicationExitState Value) :
    ApplicationExitAnswer Value × ApplicationExitState Value :=
  match action with
  | .prepareForwardOwner kind => state.prepareForwardOwner kind
  | .register ownerId => state.register ownerId
  | .removeOwner ownerId => state.removeOwner ownerId
  | .requestExit requestedAt => state.requestExit requestedAt
  | .runInterruptibleBoundary ownerId intent => state.runInterruptibleBoundary ownerId intent
  | .runAtomicBoundary ownerId => state.runAtomicBoundary ownerId
  | .resume call => state.resume call
  | .effectReturns call value => state.effectReturns call value
  | .effectFails call => state.effectFails call
  | .interrupt call => state.interrupt call

def after (actions : List (ApplicationExitAction Value)) : ApplicationExitState Value :=
  (Machine.run step makeApplicationExitLifecycle actions).2

end ApplicationExitState

end Lifecycle

end Dalph
