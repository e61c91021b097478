import Dalph.Foundation.Machine

/-!
# The owner that reactivates one Run

Hints ask for another activation of the Run.  A gate serialises the producers of hints with the one
worker that takes them; what stands outside the gate is a step of its own: a producer reads the
phase before it waits for the gate, and the worker takes its message before it is admitted.
-/

namespace Dalph

/-- A non-authoritative request to ask the ordinary Run entry for current facts. -/
inductive RunReactivationHint where
  | startup
  | trackerNotification
  | acceptedFactPublication
  | operatorWake
  | cancellationApplied
  | timer
deriving DecidableEq

inductive ActiveWorkAuthorityRefreshSource where
  | trackerNotification
  | timer
deriving DecidableEq

inductive TrailingActivationKind where
  | ordinary
  | acceptedFactPublication
  | activeWorkAuthorityRefresh (source : ActiveWorkAuthorityRefreshSource)
deriving DecidableEq

inductive RunReactivationMessage where
  | hint (hint : RunReactivationHint)
  | trailingActivation (generation : Nat)
deriving DecidableEq

def RunReactivationMessage.generation? : RunReactivationMessage → Option Nat
  | .hint _ => none
  | .trailingActivation generation => some generation

/-- One activation promised by a hint that crossed an activation handoff. -/
structure TrailingActivationObligation where
  generation : Nat
  kind : TrailingActivationKind
deriving DecidableEq

inductive ActivationStage where
  | idle
  | running
  | finalizing
deriving DecidableEq

structure ActivationPhase where
  stage : ActivationStage
  generation : Nat
deriving DecidableEq

inductive RunReactivationControlState where
  | runPaused
  | runUnpaused
  | runTerminated
deriving DecidableEq

inductive AcceptedRunControlDirection where
  | pause
  | unpause
deriving DecidableEq

inductive ActivationGraphReadCause where
  | workflowEstablishment
  | postQuiescenceReconfirmation
deriving DecidableEq

/-- Accepted progress, or an observation that leaves the Run at the same retained wait. -/
inductive AcceptedRunFactPublication where
  | workflowProgress
  | retainedWait
  | readPending
  | readObserved
  | activationGraphReadObserved (cause : ActivationGraphReadCause)
  | readFailed
deriving DecidableEq

inductive ActivationResult where
  | runMayTerminate
  | runContinues
  /-- A failure caused by durable Run closure, or one that cannot be retried safely. -/
  | failsForGood
  | fails
deriving DecidableEq

inductive ReactivationDefect where
  | enteredRunningBeforeAdmission
  | trailingGenerationChanged
  | unrecordedTrailingObligation
  | finalizedFrom (stage : ActivationStage)
  | unownedTrailingActivation
deriving DecidableEq

/-- Where the worker stands. -/
inductive ReactivationWorker where
  /-- Observers are installed; the durable control is being read. -/
  | installing
  | starting
  /-- Before the gate that leaves `Finalizing`. -/
  | entering
  | waiting
  /-- A message is taken and not yet admitted. -/
  | taken (message : RunReactivationMessage)
  /-- `Running` is recorded; `stopped` is read next. -/
  | admitted (hint : Option RunReactivationHint)
  /-- The cancellation wake is taken next. -/
  | unstopped (hint : Option RunReactivationHint)
  /-- The control state is read next. -/
  | woken (hint : Option RunReactivationHint) (cancellationWake : Bool)
  | active (hint : Option RunReactivationHint)
  | stopRequested
  /-- A failed activation before it rewrites the trailing obligation. -/
  | failing (hint : Option RunReactivationHint)
  | coolingDown
  | finalizing
  | ended
  | defect (defect : ReactivationDefect)
deriving DecidableEq

/-- A producer that has read the phase and waits for the gate. -/
inductive ReactivationArrival where
  | hint (hint : RunReactivationHint) (phase : ActivationPhase)
  | publication (publication : AcceptedRunFactPublication) (phase : ActivationPhase)
      (publicationGeneration : Option Nat)
deriving DecidableEq

/-- State of one owner.  The queue slides with capacity one. -/
structure RunReactivationOwner where
  messages : Option RunReactivationMessage
  stopped : Bool
  activationPhase : ActivationPhase
  publicationOwnedActivation : Option Nat
  trailingActivationObligation : Option TrailingActivationObligation
  retainedWaitGeneration : Option Nat
  completedReadWakeGeneration : Option Nat
  cancellationWakePending : Bool
  controlState : RunReactivationControlState
  controlRevision : Nat
  arrivals : List ReactivationArrival
  worker : ReactivationWorker
  /-- Activations in flight. -/
  activations : Nat
deriving DecidableEq

def initialRunReactivationOwner : RunReactivationOwner where
  messages := none
  stopped := false
  activationPhase := ⟨.idle, 0⟩
  publicationOwnedActivation := none
  trailingActivationObligation := none
  retainedWaitGeneration := none
  completedReadWakeGeneration := none
  cancellationWakePending := false
  controlState := .runUnpaused
  controlRevision := 0
  arrivals := []
  worker := .installing
  activations := 0

namespace RunReactivationHint

def refreshSource? : RunReactivationHint → Option ActiveWorkAuthorityRefreshSource
  | trackerNotification => some .trackerNotification
  | timer => some .timer
  | _ => none

def trailingKindFor (hint : RunReactivationHint) : TrailingActivationKind :=
  match hint.refreshSource? with
  | some source => .activeWorkAuthorityRefresh source
  | none => if hint = acceptedFactPublication then .acceptedFactPublication else .ordinary

end RunReactivationHint

namespace TrailingActivationKind

def strengthens (kind current : TrailingActivationKind) : Bool :=
  match current, kind with
  | .acceptedFactPublication, .acceptedFactPublication => false
  | .acceptedFactPublication, _ => true
  | .ordinary, .activeWorkAuthorityRefresh _ => true
  | _, _ => false

def hint? : TrailingActivationKind → Option RunReactivationHint
  | activeWorkAuthorityRefresh .trackerNotification => some .trackerNotification
  | activeWorkAuthorityRefresh .timer => some .timer
  | _ => none

end TrailingActivationKind

namespace RunReactivationOwner

def recordTrailingActivationInsideGate (generation : Nat) (kind : TrailingActivationKind)
    (owner : RunReactivationOwner) : RunReactivationOwner :=
  match owner.trailingActivationObligation with
  | some current =>
      if kind.strengthens current.kind then
        { owner with trailingActivationObligation := some { current with kind } }
      else owner
  | none =>
      -- The queue is cleared first: a queued hint is covered by this activation.
      { owner with
        trailingActivationObligation := some ⟨generation, kind⟩
        messages := some (.trailingActivation generation) }

def arrivedBeforeActivationHandoff (arrivalPhase : Option ActivationPhase)
    (phase : ActivationPhase) : Bool :=
  arrivalPhase.any fun arrival =>
    arrival.stage ≠ .idle || phase.stage ≠ .idle || arrival.generation ≠ phase.generation

def cancellationWakeAfter (hint : RunReactivationHint) (owner : RunReactivationOwner) : Bool :=
  hint = .cancellationApplied || owner.cancellationWakePending

def offerHintInsideGate (hint : RunReactivationHint) (arrivalPhase : Option ActivationPhase)
    (owner : RunReactivationOwner) : RunReactivationOwner :=
  if owner.stopped then owner
  else
    let owner := { owner with cancellationWakePending := owner.cancellationWakeAfter hint }
    if owner.controlState ≠ .runUnpaused ∧ owner.cancellationWakePending = false then owner
    else if owner.trailingActivationObligation.isSome ∨ owner.activationPhase.stage ≠ .idle ∨
        arrivedBeforeActivationHandoff arrivalPhase owner.activationPhase then
      owner.recordTrailingActivationInsideGate owner.activationPhase.generation
        hint.trailingKindFor
    else { owner with messages := some (.hint hint) }

def ownPublicationGraphRead (publication : AcceptedRunFactPublication)
    (arrivalPhase : ActivationPhase) (publicationGeneration : Option Nat) : Bool :=
  match publication with
  | .activationGraphReadObserved _ =>
      arrivalPhase.stage = .running && publicationGeneration = some arrivalPhase.generation
  | _ => false

def publicationOffersHint (publication : AcceptedRunFactPublication)
    (arrivalPhase : ActivationPhase) (publicationGeneration : Option Nat) : Bool :=
  match publication with
  | .workflowProgress | .readObserved => true
  | .activationGraphReadObserved cause =>
      !(ownPublicationGraphRead publication arrivalPhase publicationGeneration &&
        cause = .postQuiescenceReconfirmation)
  | _ => false

def completesRead (publication : AcceptedRunFactPublication) (arrivalPhase : ActivationPhase)
    (publicationGeneration : Option Nat) : Bool :=
  match publication with
  | .readObserved => true
  | .activationGraphReadObserved _ =>
      !ownPublicationGraphRead publication arrivalPhase publicationGeneration
  | _ => false

def publishProgress (publication : AcceptedRunFactPublication) (arrivalPhase : ActivationPhase)
    (publicationGeneration : Option Nat) (owner : RunReactivationOwner) : RunReactivationOwner :=
  let generation := arrivalPhase.generation
  offerHintInsideGate .acceptedFactPublication (some arrivalPhase)
    { owner with
      completedReadWakeGeneration :=
        if completesRead publication arrivalPhase publicationGeneration then some generation
        else owner.completedReadWakeGeneration
      retainedWaitGeneration :=
        if owner.retainedWaitGeneration = some generation then none
        else owner.retainedWaitGeneration }

/-- Gate section of a publication that retains the wait: it retracts a trailing activation that
only publications asked for. -/
def retainWait (arrivalPhase : ActivationPhase) (owner : RunReactivationOwner) :
    RunReactivationOwner :=
  let generation := arrivalPhase.generation
  if owner.completedReadWakeGeneration = some generation then owner
  else
    let owner := { owner with retainedWaitGeneration := some generation }
    if owner.trailingActivationObligation.any (·.kind = .acceptedFactPublication) then
      { owner with trailingActivationObligation := none, messages := none }
    else owner

def enterGate (arrival : ReactivationArrival) (owner : RunReactivationOwner) :
    RunReactivationOwner :=
  match arrival with
  | .hint hint phase => owner.offerHintInsideGate hint (some phase)
  | .publication publication phase publicationGeneration =>
      if publicationOffersHint publication phase publicationGeneration then
        owner.publishProgress publication phase publicationGeneration
      else owner.retainWait phase

def acceptedControl (direction : AcceptedRunControlDirection) (owner : RunReactivationOwner) :
    RunReactivationOwner :=
  if owner.stopped then owner
  else
    let owner := { owner with controlRevision := owner.controlRevision + 1 }
    match owner.controlState, direction with
    | .runUnpaused, .pause => { owner with controlState := .runPaused }
    | .runPaused, .unpause =>
        offerHintInsideGate .operatorWake none { owner with controlState := .runUnpaused }
    | _, _ => owner

def die (defect : ReactivationDefect) (owner : RunReactivationOwner) : RunReactivationOwner :=
  { owner with worker := .defect defect }

def admittedGeneration (phase : ActivationPhase) : Nat :=
  if phase.stage = .finalizing then phase.generation + 1 else phase.generation

def beginRunning (hint : Option RunReactivationHint) (publicationOwned : Bool)
    (owner : RunReactivationOwner) : RunReactivationOwner :=
  let generation := admittedGeneration owner.activationPhase
  { owner with
    activationPhase := ⟨.running, generation⟩
    publicationOwnedActivation := if publicationOwned then some generation else none
    worker := .admitted hint }

/-- Gate section that admits a taken message. -/
def admitMessage (message : RunReactivationMessage) (owner : RunReactivationOwner) :
    RunReactivationOwner :=
  if owner.activationPhase.stage = .running then owner.die .enteredRunningBeforeAdmission
  else
    match owner.trailingActivationObligation with
    | some pending =>
        if message.generation?.any (· ≠ pending.generation) then
          owner.die .trailingGenerationChanged
        else
          let owner := { owner with
            trailingActivationObligation := none
            completedReadWakeGeneration := none }
          if pending.kind = .acceptedFactPublication ∧
              owner.retainedWaitGeneration = some pending.generation then
            { owner with worker := .entering }
          else owner.beginRunning pending.kind.hint? (pending.kind = .acceptedFactPublication)
    | none =>
        match message with
        | .trailingActivation _ => owner.die .unrecordedTrailingObligation
        | .hint hint => owner.beginRunning (some hint) (hint = .acceptedFactPublication)

def enterIdle (owner : RunReactivationOwner) : RunReactivationOwner :=
  let owner := { owner with worker := .waiting }
  if owner.activationPhase.stage = .finalizing ∧
      (owner.messages = none ∨ owner.trailingActivationObligation.isSome) then
    { owner with activationPhase := ⟨.idle, owner.activationPhase.generation + 1⟩ }
  else owner

/-- Gate section after an activation: a hint that won the interval before `Running` was recorded
becomes a trailing obligation. -/
def finalizeActivation (owner : RunReactivationOwner) : RunReactivationOwner :=
  if owner.activationPhase.stage ≠ .running then
    owner.die (.finalizedFrom owner.activationPhase.stage)
  else
    let generation := owner.activationPhase.generation
    let owner := { owner with activationPhase := ⟨.finalizing, generation⟩, worker := .entering }
    match owner.trailingActivationObligation, owner.messages with
    | none, some (.hint hint) =>
        recordTrailingActivationInsideGate generation hint.trailingKindFor
          { owner with messages := none }
    | none, some (.trailingActivation _) => owner.die .unownedTrailingActivation
    | _, _ => owner

/-- A retryable failure: an active refresh that failed leaves an ordinary obligation. -/
def settleFailure (hint : Option RunReactivationHint) (owner : RunReactivationOwner) :
    RunReactivationOwner :=
  let owner := { owner with worker := .coolingDown }
  if hint.any (·.refreshSource?.isSome) then
    { owner with
      trailingActivationObligation :=
        owner.trailingActivationObligation.map fun pending => { pending with kind := .ordinary } }
  else owner

def startWorker (owner : RunReactivationOwner) : RunReactivationOwner :=
  match owner.controlState with
  | .runTerminated => { owner with stopped := true, worker := .ended }
  | .runPaused => { owner with worker := .entering }
  | .runUnpaused =>
      if owner.stopped ∨ owner.messages.isSome then { owner with worker := .entering }
      else { owner with worker := .entering, messages := some (.hint .startup) }

def decideActivation (hint : Option RunReactivationHint) (cancellationWake : Bool)
    (owner : RunReactivationOwner) : RunReactivationOwner :=
  match owner.controlState with
  | .runPaused =>
      if cancellationWake then
        { owner with worker := .active hint, activations := owner.activations + 1 }
      else { owner with worker := .finalizing }
  | .runTerminated => { owner with worker := .stopRequested }
  | .runUnpaused => { owner with worker := .active hint, activations := owner.activations + 1 }

/-- The next step of the worker where nothing outside decides it. -/
def work (owner : RunReactivationOwner) : RunReactivationOwner :=
  match owner.worker with
  | .starting => owner.startWorker
  | .entering => owner.enterIdle
  | .waiting =>
      match owner.messages with
      | some message => { owner with messages := none, worker := .taken message }
      | none => owner
  | .taken message => owner.admitMessage message
  | .admitted hint =>
      { owner with worker := if owner.stopped then .finalizing else .unstopped hint }
  | .unstopped hint =>
      { owner with
        cancellationWakePending := false
        worker := .woken hint owner.cancellationWakePending }
  | .woken hint cancellationWake => owner.decideActivation hint cancellationWake
  | .stopRequested => { owner with stopped := true, worker := .finalizing }
  | .failing hint => owner.settleFailure hint
  | .coolingDown => { owner with worker := .finalizing }
  | .finalizing => owner.finalizeActivation
  | .installing | .active _ | .ended | .defect _ => owner

def complete (result : ActivationResult) (owner : RunReactivationOwner) : RunReactivationOwner :=
  match owner.worker with
  | .active hint =>
      { owner with
        activations := owner.activations - 1
        worker :=
          match result with
          | .runMayTerminate | .failsForGood => .stopRequested
          | .runContinues => .finalizing
          | .fails => .failing hint }
  | _ => owner

/-- The durable control is read; a direction accepted meanwhile wins. -/
def readControl (control : RunReactivationControlState) (owner : RunReactivationOwner) :
    RunReactivationOwner :=
  match owner.worker with
  | .installing =>
      { owner with
        controlState := if owner.controlRevision = 0 then control else owner.controlState
        worker := .starting }
  | _ => owner

def leave (owner : RunReactivationOwner) : RunReactivationOwner :=
  if owner.worker = .waiting ∧ owner.stopped then { owner with worker := .ended } else owner

end RunReactivationOwner

/-- One step of an interleaving. -/
inductive ReactivationAction where
  /-- A producer reads the phase and waits for the gate. -/
  | hint (hint : RunReactivationHint)
  | publish (publication : AcceptedRunFactPublication)
  /-- The waiting producer at an index enters the gate. -/
  | enter (index : Nat)
  /-- The current value of the tracker source is offered when the source is attached. -/
  | attachTracker
  | control (direction : AcceptedRunControlDirection)
  | requestStop
  | readControl (control : RunReactivationControlState)
  | work
  | complete (result : ActivationResult)
  | leave
deriving DecidableEq

open RunReactivationOwner in
def reactivationStep (action : ReactivationAction) (owner : RunReactivationOwner) :
    Unit × RunReactivationOwner :=
  match action with
  | .hint hint =>
      ((), { owner with arrivals := owner.arrivals ++ [.hint hint owner.activationPhase] })
  | .publish .readPending => ((), owner)
  | .publish publication =>
      ((), { owner with
        arrivals := owner.arrivals ++
          [.publication publication owner.activationPhase owner.publicationOwnedActivation] })
  | .enter index =>
      match owner.arrivals[index]? with
      | none => ((), owner)
      | some arrival =>
          ((), enterGate arrival { owner with arrivals := owner.arrivals.eraseIdx index })
  | .attachTracker => ((), owner.offerHintInsideGate .trackerNotification none)
  | .control direction => ((), owner.acceptedControl direction)
  | .requestStop => ((), { owner with stopped := true })
  | .readControl control => ((), owner.readControl control)
  | .work => ((), owner.work)
  | .complete result => ((), owner.complete result)
  | .leave => ((), owner.leave)

def reactivationAfter (actions : List ReactivationAction) : RunReactivationOwner :=
  (Machine.run reactivationStep initialRunReactivationOwner actions).2

end Dalph
