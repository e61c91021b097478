import Dalph.Contracts
import Dalph.Foundation.Json
import Dalph.Foundation.KeyedMap
import Dalph.Foundation.Machine

/-!
# Attempt protocol guard

One reference maps every attempt to its owner: a protocol owner with an intent gate, or a terminal
owner that may have displaced a protocol owner before its intent.  Calls run concurrently; every
access of the reference, of a gate or of a one-shot signal is one step.
-/

namespace Dalph

def plannedAttemptProtocolGuardKey (correlation : PlannedAttemptExecutorCorrelation) : String :=
  Json.stringify (.obj [("attemptId", .str correlation.attemptId.value),
    ("runId", .str correlation.runId.value)])

theorem plannedAttemptProtocolGuardKey_injective :
    Function.Injective plannedAttemptProtocolGuardKey := by
  intro left right same
  have values := Json.stringify_injective
    (.obj (by simp) (by simp [Json.WellFormed.str])) (.obj (by simp) (by simp [Json.WellFormed.str]))
    same
  obtain ⟨⟨leftRunId⟩, ⟨leftAttemptId⟩⟩ := left
  obtain ⟨⟨rightRunId⟩, ⟨rightAttemptId⟩⟩ := right
  simp_all

inductive ProtocolOwnerPhase where
  | intentCommitted
  | preIntentCancellable
deriving DecidableEq

/-- A protocol owner.  Its gate and its `released` signal are made with it and share its number. -/
structure ProtocolOwner where
  released : Nat
  phase : ProtocolOwnerPhase
deriving DecidableEq

/-- The protocol owner that a terminal owner must restore or finish. -/
inductive TerminalPreemption where
  | none
  | released (owner : ProtocolOwner)
  | retained (owner : ProtocolOwner)
deriving DecidableEq

def TerminalPreemption.owner? : TerminalPreemption → Option ProtocolOwner
  | .none => Option.none
  | .released owner | .retained owner => some owner

/-- A terminal owner.  Its signals `released` and `completed` are made with it and share its
number. -/
structure TerminalOwner where
  released : Nat
  preemption : TerminalPreemption
deriving DecidableEq

/-- Who owns an attempt. -/
inductive GuardOwner where
  | protocolOwner (owner : ProtocolOwner)
  | terminalOwner (owner : TerminalOwner)
deriving DecidableEq

def GuardOwner.released : GuardOwner → Nat
  | .protocolOwner owner => owner.released
  | .terminalOwner owner => owner.released

/-- The references, gates and signals of the controller. -/
structure GuardState where
  owners : KeyedMap String GuardOwner
  nextOwner : Nat
  gateTaken : Nat → Bool
  released : Nat → Bool
  completed : Nat → Bool

namespace GuardState

def sameOwner (guard : GuardState) (key : String) (released : Nat) : Option ProtocolOwner :=
  match guard.owners.lookup key with
  | some (.protocolOwner owner) => if owner.released = released then some owner else none
  | _ => none

def terminalPreemptedOwner (guard : GuardState) (key : String) (released : Nat) :
    Option TerminalOwner :=
  match guard.owners.lookup key with
  | some (.terminalOwner terminal) =>
      if terminal.preemption.owner?.map (·.released) = some released then some terminal else none
  | _ => none

def ownersWith (guard : GuardState) (key : String) (owner : GuardOwner) : GuardState :=
  { guard with owners := guard.owners.insert key owner }

def ownersWithout (guard : GuardState) (key : String) : GuardState :=
  { guard with owners := guard.owners.erase key }

def made (guard : GuardState) : GuardState :=
  { guard with nextOwner := guard.nextOwner + 1 }

def setGate (guard : GuardState) (owner : Nat) (taken : Bool) : GuardState :=
  { guard with gateTaken := Function.update guard.gateTaken owner taken }

end GuardState

inductive GuardedUse where
  | activate
  | recordFact
  | commitIntent
deriving DecidableEq

inductive GuardSignal where
  | released (owner : Nat)
  | completed (terminal : Nat)
deriving DecidableEq

/-- How a call ends. -/
inductive GuardOutcome where
  | reserved (owner : Nat)
  | notReserved
  | active
  | released
  | succeeded
  | failed
  | interrupted
deriving DecidableEq

/-- What a call does after it gave the gate back. -/
inductive GateDecision where
  | ended (outcome : GuardOutcome)
  | preempted (use : GuardedUse) (key : String) (owner terminal : Nat)
  | acquired (key : String) (terminal : Nat)
  | wait (key : String) (owner : Nat)
  | retry (key : String)
deriving DecidableEq

/-- Where a call stands. -/
inductive GuardCall where
  /-- `reserve` before its transaction. -/
  | reserving (key : String)
  /-- `withPermit` before the transaction of `tryAcquire`. -/
  | acquiring (key : String)
  /-- `tryAcquire` found an owner; it is about to be read. -/
  | looking (key : String)
  /-- `withPermit` awaits the release of the owner it read. -/
  | awaitingReleased (key : String) (owner : Nat)
  /-- The permitted effect runs. -/
  | usingPermit (key : String) (owner : Nat)
  /-- The permit is about to be released. -/
  | releasing (key : String) (owner : Nat)
  /-- Signals are still to be completed, in this order. -/
  | signalling (signals : List GuardSignal)
  /-- `activate` is about to read the owner. -/
  | activating (key : String) (owner : Nat)
  /-- A guarded append awaits the gate of its owner. -/
  | atGate (use : GuardedUse) (key : String) (owner : Nat)
  /-- The gate is taken; the owner is about to be read. -/
  | inGate (use : GuardedUse) (key : String) (owner : Nat)
  /-- The append runs inside the gate. -/
  | appending (use : GuardedUse) (key : String) (owner : Nat)
  /-- The intent is appended; its phase is about to be set inside the gate. -/
  | committing (key : String) (owner : Nat)
  /-- The gate is about to be given back. -/
  | leavingGate (owner : Nat) (decision : GateDecision)
  /-- A displaced owner awaits the completion of the terminal use. -/
  | awaitingCompleted (use : GuardedUse) (key : String) (owner terminal : Nat)
  /-- `acquireTerminal` is about to read the owner. -/
  | terminalLooking (key : String)
  /-- `acquireTerminal` awaits the release of an owner. -/
  | terminalAwaiting (key : String) (owner : Nat)
  /-- `acquireTerminal` found the attempt free. -/
  | terminalInserting (key : String)
  /-- `acquireTerminal` awaits the gate of the protocol owner it read. -/
  | terminalAtGate (key : String) (owner : Nat)
  /-- `acquireTerminal` has the gate; its transaction is next. -/
  | terminalInGate (key : String) (owner : Nat)
  /-- The terminal use runs. -/
  | usingTerminal (key : String) (terminal : Nat)
  /-- The terminal use ended; its transaction is next. -/
  | releasingTerminal (key : String) (terminal : Nat)
  | ended (outcome : GuardOutcome)
deriving DecidableEq

def GuardedUse.retry (use : GuardedUse) (key : String) (owner : Nat) : GuardCall :=
  match use with
  | .activate => .activating key owner
  | use => .atGate use key owner

def GateDecision.next : GateDecision → GuardCall
  | .ended outcome => .ended outcome
  | .preempted use key owner terminal => .awaitingCompleted use key owner terminal
  | .acquired key terminal => .usingTerminal key terminal
  | .wait key owner => .terminalAwaiting key owner
  | .retry key => .terminalLooking key

/-- What moves a call: its own next step, or the end of the caller's effect in it. -/
inductive GuardEvent where
  | resume
  | effectReturns
  | effectFails
  | interrupt
deriving DecidableEq

namespace GuardState

def tryAcquire (guard : GuardState) (key : String) : Option Nat × GuardState :=
  if (guard.owners.lookup key).isSome then (none, guard.made)
  else (some guard.nextOwner,
    guard.made.ownersWith key (.protocolOwner ⟨guard.nextOwner, .preIntentCancellable⟩))

/-- The transaction of `release`: a displaced owner is released when the terminal use ends. -/
def release (guard : GuardState) (key : String) (owner : Nat) : GuardCall × GuardState :=
  if (guard.sameOwner key owner).isSome then
    (.signalling [.released owner], guard.ownersWithout key)
  else
    match guard.terminalPreemptedOwner key owner with
    | some ⟨terminal, .retained displaced⟩ =>
        (.ended .succeeded,
          guard.ownersWith key (.terminalOwner ⟨terminal, .released displaced⟩))
    | _ => (.ended .succeeded, guard)

/-- The transaction of `releaseTerminal`: a retained owner is restored. -/
def releaseTerminal (guard : GuardState) (key : String) (terminal : Nat) : GuardCall × GuardState :=
  match guard.owners.lookup key with
  | some (.terminalOwner active) =>
      if active.released = terminal then
        match active.preemption with
        | .none =>
            (.signalling [.released terminal, .completed terminal], guard.ownersWithout key)
        | .released owner =>
            (.signalling [.released terminal, .released owner.released, .completed terminal],
              guard.ownersWithout key)
        | .retained owner =>
            (.signalling [.released terminal, .completed terminal],
              guard.ownersWith key (.protocolOwner owner))
      else (.ended .succeeded, guard)
  | _ => (.ended .succeeded, guard)

/-- The transaction of `acquireTerminal` inside the gate of the owner it read. -/
def decideTerminal (guard : GuardState) (key : String) (owner : Nat) : GateDecision × GuardState :=
  match guard.sameOwner key owner with
  | none => (.retry key, guard.made)
  | some latest =>
      match latest.phase with
      | .intentCommitted => (.wait key latest.released, guard.made)
      | .preIntentCancellable =>
          (.acquired key guard.nextOwner,
            guard.made.ownersWith key (.terminalOwner ⟨guard.nextOwner, .retained latest⟩))

def enterGate (guard : GuardState) (use : GuardedUse) (key : String) (owner : Nat) : GuardCall :=
  if (guard.sameOwner key owner).isSome then .appending use key owner
  else
    match guard.terminalPreemptedOwner key owner with
    | some terminal => .leavingGate owner (.preempted use key owner terminal.released)
    | none => .leavingGate owner (.ended .interrupted)

def activate (guard : GuardState) (key : String) (owner : Nat) : GuardCall :=
  if (guard.sameOwner key owner).isSome then .ended .active
  else
    match guard.terminalPreemptedOwner key owner with
    | some terminal => .awaitingCompleted .activate key owner terminal.released
    | none => .ended .released

def commit (guard : GuardState) (key : String) (owner : Nat) : GuardState :=
  match guard.sameOwner key owner with
  | some current =>
      guard.ownersWith key (.protocolOwner { current with phase := .intentCommitted })
  | none => guard

def signal (guard : GuardState) : GuardSignal → GuardState
  | .released owner => { guard with released := Function.update guard.released owner true }
  | .completed terminal =>
      { guard with completed := Function.update guard.completed terminal true }

/-- The next step of a call, or nothing while it waits. -/
def resume (guard : GuardState) : GuardCall → Option (GuardCall × GuardState)
  | .reserving key =>
      match guard.tryAcquire key with
      | (some owner, next) => some (.ended (.reserved owner), next)
      | (none, next) => some (.ended .notReserved, next)
  | .acquiring key =>
      match guard.tryAcquire key with
      | (some owner, next) => some (.usingPermit key owner, next)
      | (none, next) => some (.looking key, next)
  | .looking key =>
      match guard.owners.lookup key with
      | some owner => some (.awaitingReleased key owner.released, guard)
      | none => some (.acquiring key, guard)
  | .awaitingReleased key owner =>
      if guard.released owner then some (.acquiring key, guard) else none
  | .releasing key owner => some (guard.release key owner)
  | .signalling [] => some (.ended .succeeded, guard)
  | .signalling (signal :: signals) => some (.signalling signals, guard.signal signal)
  | .activating key owner => some (guard.activate key owner, guard)
  | .atGate use key owner =>
      if guard.gateTaken owner then none
      else some (.inGate use key owner, guard.setGate owner true)
  | .inGate use key owner => some (guard.enterGate use key owner, guard)
  | .committing key owner => some (.leavingGate owner (.ended .succeeded), guard.commit key owner)
  | .leavingGate owner decision => some (decision.next, guard.setGate owner false)
  | .awaitingCompleted use key owner terminal =>
      if guard.completed terminal then some (use.retry key owner, guard) else none
  | .terminalLooking key =>
      match guard.owners.lookup key with
      | none => some (.terminalInserting key, guard)
      | some (.terminalOwner terminal) => some (.terminalAwaiting key terminal.released, guard)
      | some (.protocolOwner owner) => some (.terminalAtGate key owner.released, guard)
  | .terminalAwaiting key owner =>
      if guard.released owner then some (.terminalLooking key, guard) else none
  | .terminalInserting key =>
      if (guard.owners.lookup key).isSome then some (.terminalLooking key, guard.made)
      else some (.usingTerminal key guard.nextOwner,
        guard.made.ownersWith key (.terminalOwner ⟨guard.nextOwner, .none⟩))
  | .terminalAtGate key owner =>
      if guard.gateTaken owner then none
      else some (.terminalInGate key owner, guard.setGate owner true)
  | .terminalInGate key owner =>
      some (.leavingGate owner (guard.decideTerminal key owner).1,
        (guard.decideTerminal key owner).2)
  | .releasingTerminal key terminal => some (guard.releaseTerminal key terminal)
  | .usingPermit _ _ | .appending _ _ _ | .usingTerminal _ _ | .ended _ => none

end GuardState

def GuardCall.effectReturns : GuardCall → Option GuardCall
  | .usingPermit key owner => some (.releasing key owner)
  | .usingTerminal key terminal => some (.releasingTerminal key terminal)
  | .appending .commitIntent key owner => some (.committing key owner)
  | .appending _ _ owner => some (.leavingGate owner (.ended .succeeded))
  | _ => none

def GuardCall.effectFails : GuardCall → Option GuardCall
  | .usingPermit key owner => some (.releasing key owner)
  | .usingTerminal key terminal => some (.releasingTerminal key terminal)
  | .appending _ _ owner => some (.leavingGate owner (.ended .failed))
  | _ => none

/-- Interruption of the caller.  Acquisition and release are uninterruptible; a gate is given back
through its finalizer. -/
def GuardCall.interrupt : GuardCall → Option GuardCall
  | .usingPermit key owner => some (.releasing key owner)
  | .usingTerminal key terminal => some (.releasingTerminal key terminal)
  | .activating _ _ | .atGate _ _ _ | .awaitingCompleted _ _ _ _ => some (.ended .interrupted)
  | .inGate _ _ owner | .appending _ _ owner | .committing _ owner =>
      some (.leavingGate owner (.ended .interrupted))
  | _ => none

def GuardCall.move (guard : GuardState) (call : GuardCall) :
    GuardEvent → Option (GuardCall × GuardState)
  | .resume => guard.resume call
  | .effectReturns => call.effectReturns.map (·, guard)
  | .effectFails => call.effectFails.map (·, guard)
  | .interrupt => call.interrupt.map (·, guard)

inductive GuardRequest where
  | reserve (correlation : PlannedAttemptExecutorCorrelation)
  | withPermit (correlation : PlannedAttemptExecutorCorrelation)
  | withTerminalPermit (correlation : PlannedAttemptExecutorCorrelation)
  | guarded (use : GuardedUse) (correlation : PlannedAttemptExecutorCorrelation) (owner : Nat)
  | release (correlation : PlannedAttemptExecutorCorrelation) (owner : Nat)
deriving DecidableEq

def GuardRequest.start : GuardRequest → GuardCall
  | .reserve correlation => .reserving (plannedAttemptProtocolGuardKey correlation)
  | .withPermit correlation => .acquiring (plannedAttemptProtocolGuardKey correlation)
  | .withTerminalPermit correlation => .terminalLooking (plannedAttemptProtocolGuardKey correlation)
  | .guarded use correlation owner => use.retry (plannedAttemptProtocolGuardKey correlation) owner
  | .release correlation owner => .releasing (plannedAttemptProtocolGuardKey correlation) owner

def GuardRequest.permitted (request : GuardRequest) (guard : GuardState) : Bool :=
  match request with
  | .guarded _ _ owner | .release _ owner => owner < guard.nextOwner
  | _ => true

/-- The guard and every call so far. -/
structure ProtocolControllerState where
  guard : GuardState
  nextCall : Nat
  calls : Nat → Option GuardCall

/-- A new call or the move of one. -/
inductive ProtocolControllerAction where
  | begin (request : GuardRequest)
  | move (call : Nat) (event : GuardEvent)
deriving DecidableEq

def makePlannedAttemptProtocolController : ProtocolControllerState where
  guard := ⟨∅, 0, fun _ => false, fun _ => false, fun _ => false⟩
  nextCall := 0
  calls := fun _ => none

namespace ProtocolControllerState

/-- One step; the answer tells whether it could be taken. -/
def step (action : ProtocolControllerAction) (state : ProtocolControllerState) :
    Bool × ProtocolControllerState :=
  match action with
  | .begin request =>
      if request.permitted state.guard then
        (true,
          { state with
            nextCall := state.nextCall + 1
            calls := Function.update state.calls state.nextCall (some request.start) })
      else (false, state)
  | .move call event =>
      match state.calls call with
      | none => (false, state)
      | some current =>
          match current.move state.guard event with
          | none => (false, state)
          | some (later, guard) =>
              (true, { state with guard, calls := Function.update state.calls call (some later) })

def after (actions : List ProtocolControllerAction) : ProtocolControllerState :=
  (Machine.run step makePlannedAttemptProtocolController actions).2

end ProtocolControllerState

end Dalph
