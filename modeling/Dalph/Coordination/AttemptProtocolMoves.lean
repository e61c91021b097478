import Dalph.Coordination.AttemptProtocol

/-!
# Moves of attempt protocol calls

The step function of one call is presented as a relation with one case per branch.  From its cases
follow what a move does to gates, signals and owners.
-/

namespace Dalph

namespace GuardCall

def gate? : GuardCall → Option Nat
  | .inGate _ _ owner | .appending _ _ owner | .committing _ owner | .leavingGate owner _
  | .terminalInGate _ owner => some owner
  | _ => none

def terminal? : GuardCall → Option (String × Nat)
  | .usingTerminal key terminal | .releasingTerminal key terminal
  | .leavingGate _ (.acquired key terminal) => some (key, terminal)
  | _ => none

def append? : GuardCall → Option (String × Nat)
  | .appending _ key owner | .committing key owner => some (key, owner)
  | _ => none

def pends : GuardCall → List GuardSignal
  | .signalling signals => signals
  | _ => []

def awaits? : GuardCall → Option (String × GuardSignal)
  | .awaitingReleased key owner | .terminalAwaiting key owner
  | .leavingGate _ (.wait key owner) => some (key, .released owner)
  | .awaitingCompleted _ key _ terminal | .leavingGate _ (.preempted _ key _ terminal) =>
      some (key, .completed terminal)
  | _ => none

def awaitsGate? : GuardCall → Option Nat
  | .atGate _ _ owner | .terminalAtGate _ owner => some owner
  | _ => none

def waits? : GuardCall → Option String
  | .awaitingReleased key _ | .awaitingCompleted _ key _ _ | .terminalAwaiting key _
  | .atGate _ key _ | .terminalAtGate key _ => some key
  | _ => none

end GuardCall

namespace GuardState

variable {guard next : GuardState} {call later : GuardCall} {event : GuardEvent}

def signalled (guard : GuardState) : GuardSignal → Bool
  | .released owner => guard.released owner
  | .completed terminal => guard.completed terminal

variable {key : String}

theorem sameOwner_eq_some {released : Nat} {owner : ProtocolOwner}
    (same : guard.sameOwner key released = some owner) :
    guard.owners.lookup key = some (.protocolOwner owner) ∧ owner.released = released := by
  unfold sameOwner at same
  split at same
  · next found owned =>
    split at same
    · next agrees =>
      cases same
      exact ⟨owned, agrees⟩
    · contradiction
  · contradiction

theorem terminalPreemptedOwner_eq_some {released : Nat} {terminal : TerminalOwner}
    (preempted : guard.terminalPreemptedOwner key released = some terminal) :
    guard.owners.lookup key = some (.terminalOwner terminal) ∧
      ∃ owner, terminal.preemption.owner? = some owner ∧ owner.released = released := by
  unfold terminalPreemptedOwner at preempted
  split at preempted
  · next found owned =>
    split at preempted
    · next agrees =>
      cases preempted
      exact ⟨owned, by simpa using agrees⟩
    · contradiction
  · contradiction

/-- Every move of a call, with what it found and what it left behind. -/
inductive Moves (guard : GuardState) : GuardCall → GuardCall → GuardState → Prop
  | reserved {key : String} (free : guard.owners.lookup key = none) :
      Moves guard (.reserving key) (.ended (.reserved guard.nextOwner)) (guard.made.ownersWith key
        (.protocolOwner ⟨guard.nextOwner, .preIntentCancellable⟩))
  | notReserved {key : String} : Moves guard (.reserving key) (.ended .notReserved) guard.made
  | acquired {key : String} (free : guard.owners.lookup key = none) :
      Moves guard (.acquiring key) (.usingPermit key guard.nextOwner) (guard.made.ownersWith key
        (.protocolOwner ⟨guard.nextOwner, .preIntentCancellable⟩))
  | occupied {key : String} : Moves guard (.acquiring key) (.looking key) guard.made
  | sawOwner {key : String} {owner : GuardOwner} (owned : guard.owners.lookup key = some owner) :
      Moves guard (.looking key) (.awaitingReleased key owner.released) guard
  | sawFree {key : String} : Moves guard (.looking key) (.acquiring key) guard
  | woke {key : String} {owner : Nat} : Moves guard (.awaitingReleased key owner) (.acquiring key) guard
  | released {key : String} {owner : ProtocolOwner}
      (owned : guard.owners.lookup key = some (.protocolOwner owner)) :
      Moves guard (.releasing key owner.released) (.signalling [.released owner.released])
        (guard.ownersWithout key)
  | deferred {key : String} {terminal : Nat} {owner : ProtocolOwner}
      (owned : guard.owners.lookup key = some (.terminalOwner ⟨terminal, .retained owner⟩)) :
      Moves guard (.releasing key owner.released) (.ended .succeeded)
        (guard.ownersWith key (.terminalOwner ⟨terminal, .released owner⟩))
  | notReleased {key : String} {owner : Nat} :
      Moves guard (.releasing key owner) (.ended .succeeded) guard
  | allSignalled : Moves guard (.signalling []) (.ended .succeeded) guard
  | signalled {signal : GuardSignal} {signals : List GuardSignal} :
      Moves guard (.signalling (signal :: signals)) (.signalling signals) (guard.signal signal)
  | activated {key : String} {owner : Nat} {outcome : GuardOutcome} :
      Moves guard (.activating key owner) (.ended outcome) guard
  | activationPreempted {key : String} {owner : Nat} {terminal : TerminalOwner}
      (owned : guard.owners.lookup key = some (.terminalOwner terminal)) :
      Moves guard (.activating key owner)
        (.awaitingCompleted .activate key owner terminal.released) guard
  | tookGate {use : GuardedUse} {key : String} {owner : Nat}
      (free : guard.gateTaken owner = false) :
      Moves guard (.atGate use key owner) (.inGate use key owner) (guard.setGate owner true)
  | began {use : GuardedUse} {key : String} {owner : ProtocolOwner}
      (owned : guard.owners.lookup key = some (.protocolOwner owner)) :
      Moves guard (.inGate use key owner.released) (.appending use key owner.released) guard
  | wasPreempted {use : GuardedUse} {key : String} {owner : Nat} {terminal : TerminalOwner}
      (owned : guard.owners.lookup key = some (.terminalOwner terminal)) :
      Moves guard (.inGate use key owner)
        (.leavingGate owner (.preempted use key owner terminal.released)) guard
  | gaveUp {call : GuardCall} {owner : Nat} {outcome : GuardOutcome}
      (inside : call.gate? = some owner) (other : call.terminal? = none) :
      Moves guard call (.leavingGate owner (.ended outcome)) guard
  | intentAppended {key : String} {owner : Nat} :
      Moves guard (.appending .commitIntent key owner) (.committing key owner) guard
  | committed {key : String} {owner : ProtocolOwner}
      (owned : guard.owners.lookup key = some (.protocolOwner owner)) :
      Moves guard (.committing key owner.released)
        (.leavingGate owner.released (.ended .succeeded))
        (guard.ownersWith key (.protocolOwner { owner with phase := .intentCommitted }))
  | leftGate {owner : Nat} {decision : GateDecision} :
      Moves guard (.leavingGate owner decision) decision.next (guard.setGate owner false)
  | retried {use : GuardedUse} {key : String} {owner terminal : Nat} :
      Moves guard (.awaitingCompleted use key owner terminal) (use.retry key owner) guard
  | terminalSawFree {key : String} :
      Moves guard (.terminalLooking key) (.terminalInserting key) guard
  | terminalSawTerminal {key : String} {terminal : TerminalOwner}
      (owned : guard.owners.lookup key = some (.terminalOwner terminal)) :
      Moves guard (.terminalLooking key) (.terminalAwaiting key terminal.released) guard
  | terminalSawProtocol {key : String} {owner : ProtocolOwner} :
      Moves guard (.terminalLooking key) (.terminalAtGate key owner.released) guard
  | terminalWoke {key : String} {owner : Nat} :
      Moves guard (.terminalAwaiting key owner) (.terminalLooking key) guard
  | notInserted {key : String} :
      Moves guard (.terminalInserting key) (.terminalLooking key) guard.made
  | inserted {key : String} (free : guard.owners.lookup key = none) :
      Moves guard (.terminalInserting key) (.usingTerminal key guard.nextOwner)
        (guard.made.ownersWith key (.terminalOwner ⟨guard.nextOwner, .none⟩))
  | terminalTookGate {key : String} {owner : Nat} (free : guard.gateTaken owner = false) :
      Moves guard (.terminalAtGate key owner) (.terminalInGate key owner)
        (guard.setGate owner true)
  | mustRetry {key : String} {owner : Nat} :
      Moves guard (.terminalInGate key owner) (.leavingGate owner (.retry key)) guard.made
  | mustWait {key : String} {owner : ProtocolOwner}
      (owned : guard.owners.lookup key = some (.protocolOwner owner)) :
      Moves guard (.terminalInGate key owner.released)
        (.leavingGate owner.released (.wait key owner.released)) guard.made
  | preempted {key : String} {owner : ProtocolOwner}
      (owned : guard.owners.lookup key = some (.protocolOwner owner))
      (phase : owner.phase = .preIntentCancellable) :
      Moves guard (.terminalInGate key owner.released)
        (.leavingGate owner.released (.acquired key guard.nextOwner))
        (guard.made.ownersWith key (.terminalOwner ⟨guard.nextOwner, .retained owner⟩))
  | useEnded {key : String} {owner : Nat} :
      Moves guard (.usingPermit key owner) (.releasing key owner) guard
  | terminalUseEnded {key : String} {terminal : Nat} :
      Moves guard (.usingTerminal key terminal) (.releasingTerminal key terminal) guard
  | interruptedOutside {call : GuardCall} (outside : call.gate? = none)
      (other : call.terminal? = none) (settled : call.pends = []) :
      Moves guard call (.ended .interrupted) guard
  | finished {key : String} {terminal : Nat}
      (owned : guard.owners.lookup key = some (.terminalOwner ⟨terminal, .none⟩)) :
      Moves guard (.releasingTerminal key terminal)
        (.signalling [.released terminal, .completed terminal]) (guard.ownersWithout key)
  | finishedReleased {key : String} {terminal : Nat} {owner : ProtocolOwner}
      (owned : guard.owners.lookup key = some (.terminalOwner ⟨terminal, .released owner⟩)) :
      Moves guard (.releasingTerminal key terminal)
        (.signalling [.released terminal, .released owner.released, .completed terminal])
        (guard.ownersWithout key)
  | restored {key : String} {terminal : Nat} {owner : ProtocolOwner}
      (owned : guard.owners.lookup key = some (.terminalOwner ⟨terminal, .retained owner⟩)) :
      Moves guard (.releasingTerminal key terminal)
        (.signalling [.released terminal, .completed terminal])
        (guard.ownersWith key (.protocolOwner owner))
  | notFinished {key : String} {terminal : Nat} :
      Moves guard (.releasingTerminal key terminal) (.ended .succeeded) guard

theorem release_moves (key : String) (owner : Nat) :
    Moves guard (.releasing key owner) (guard.release key owner).1 (guard.release key owner).2 := by
  unfold release
  split
  · next same =>
    obtain ⟨found, same⟩ := Option.isSome_iff_exists.mp same
    obtain ⟨owned, rfl⟩ := sameOwner_eq_some same
    exact .released owned
  · split
    · next terminal displaced preempted =>
      obtain ⟨owned, found, foundOwner, rfl⟩ := terminalPreemptedOwner_eq_some preempted
      cases foundOwner
      exact .deferred owned
    · exact .notReleased

theorem releaseTerminal_moves (key : String) (terminal : Nat) :
    Moves guard (.releasingTerminal key terminal) (guard.releaseTerminal key terminal).1
      (guard.releaseTerminal key terminal).2 := by
  unfold releaseTerminal
  split
  · next active owned =>
    obtain ⟨number, preemption⟩ := active
    split
    · next same =>
      change number = terminal at same
      subst same
      cases preemption with
      | none => exact .finished owned
      | released owner => exact .finishedReleased owned
      | retained owner => exact .restored owned
    · exact .notFinished
  · exact .notFinished

theorem decideTerminal_moves (key : String) (owner : Nat) :
    Moves guard (.terminalInGate key owner) (.leavingGate owner (guard.decideTerminal key owner).1)
      (guard.decideTerminal key owner).2 := by
  unfold decideTerminal
  split
  · exact .mustRetry
  · next latest same =>
    obtain ⟨owned, rfl⟩ := sameOwner_eq_some same
    split
    · exact .mustWait owned
    · next phase => exact .preempted owned phase

theorem commit_moves (key : String) (owner : Nat) :
    Moves guard (.committing key owner) (.leavingGate owner (.ended .succeeded))
      (guard.commit key owner) := by
  unfold commit
  split
  · next current same =>
    obtain ⟨owned, rfl⟩ := sameOwner_eq_some same
    exact .committed owned
  · exact .gaveUp rfl rfl

theorem enterGate_moves (use : GuardedUse) (key : String) (owner : Nat) :
    Moves guard (.inGate use key owner) (guard.enterGate use key owner) guard := by
  unfold enterGate
  split
  · next same =>
    obtain ⟨found, same⟩ := Option.isSome_iff_exists.mp same
    obtain ⟨owned, rfl⟩ := sameOwner_eq_some same
    exact .began owned
  · split
    · next preempted => exact .wasPreempted (terminalPreemptedOwner_eq_some preempted).1
    · exact .gaveUp rfl rfl

theorem activate_moves (key : String) (owner : Nat) :
    Moves guard (.activating key owner) (guard.activate key owner) guard := by
  unfold activate
  split
  · exact .activated
  · split
    · next preempted => exact .activationPreempted (terminalPreemptedOwner_eq_some preempted).1
    · exact .activated

theorem resume_moves (moved : guard.resume call = some (later, next)) :
    Moves guard call later next := by
  cases call with
  | reserving key =>
      cases owned : guard.owners.lookup key with
      | none =>
          simp only [resume, tryAcquire, owned, Option.isSome_none, Bool.false_eq_true, if_false]
            at moved
          cases moved
          exact .reserved owned
      | some owner =>
          simp only [resume, tryAcquire, owned, Option.isSome_some, if_true] at moved
          cases moved
          exact .notReserved
  | acquiring key =>
      cases owned : guard.owners.lookup key with
      | none =>
          simp only [resume, tryAcquire, owned, Option.isSome_none, Bool.false_eq_true, if_false]
            at moved
          cases moved
          exact .acquired owned
      | some owner =>
          simp only [resume, tryAcquire, owned, Option.isSome_some, if_true] at moved
          cases moved
          exact .occupied
  | looking key =>
      simp only [resume] at moved
      split at moved
      · next owned =>
        cases moved
        exact .sawOwner owned
      · cases moved
        exact .sawFree
  | awaitingReleased key owner =>
      simp only [resume, Option.ite_none_right_eq_some, Option.some.injEq, Prod.mk.injEq] at moved
      obtain ⟨-, rfl, rfl⟩ := moved
      exact .woke
  | releasing key owner =>
      obtain ⟨rfl, rfl⟩ := Prod.mk.inj (Option.some.inj moved)
      exact release_moves key owner
  | signalling signals =>
      cases signals with
      | nil =>
          cases moved
          exact .allSignalled
      | cons signal signals =>
          cases moved
          exact .signalled
  | activating key owner =>
      cases moved
      exact activate_moves key owner
  | atGate use key owner =>
      simp only [resume, Option.ite_none_left_eq_some, Option.some.injEq, Prod.mk.injEq,
        Bool.not_eq_true] at moved
      obtain ⟨free, rfl, rfl⟩ := moved
      exact .tookGate free
  | inGate use key owner =>
      cases moved
      exact enterGate_moves use key owner
  | committing key owner =>
      cases moved
      exact commit_moves key owner
  | leavingGate owner decision =>
      cases moved
      exact .leftGate
  | awaitingCompleted use key owner terminal =>
      simp only [resume, Option.ite_none_right_eq_some, Option.some.injEq, Prod.mk.injEq] at moved
      obtain ⟨-, rfl, rfl⟩ := moved
      exact .retried
  | terminalLooking key =>
      simp only [resume] at moved
      split at moved
      · cases moved
        exact .terminalSawFree
      · next owned =>
        cases moved
        exact .terminalSawTerminal owned
      · cases moved
        exact .terminalSawProtocol
  | terminalAwaiting key owner =>
      simp only [resume, Option.ite_none_right_eq_some, Option.some.injEq, Prod.mk.injEq] at moved
      obtain ⟨-, rfl, rfl⟩ := moved
      exact .terminalWoke
  | terminalInserting key =>
      simp only [resume] at moved
      split at moved
      · cases moved
        exact .notInserted
      · next free =>
        cases moved
        exact .inserted (by simpa using free)
  | terminalAtGate key owner =>
      simp only [resume, Option.ite_none_left_eq_some, Option.some.injEq, Prod.mk.injEq,
        Bool.not_eq_true] at moved
      obtain ⟨free, rfl, rfl⟩ := moved
      exact .terminalTookGate free
  | terminalInGate key owner =>
      cases moved
      exact decideTerminal_moves key owner
  | releasingTerminal key terminal =>
      obtain ⟨rfl, rfl⟩ := Prod.mk.inj (Option.some.inj moved)
      exact releaseTerminal_moves key terminal
  | usingPermit key owner => simp [resume] at moved
  | appending use key owner => simp [resume] at moved
  | usingTerminal key terminal => simp [resume] at moved
  | ended outcome => simp [resume] at moved

theorem effectReturns_moves (moved : call.effectReturns = some later) :
    Moves guard call later guard := by
  unfold GuardCall.effectReturns at moved
  split at moved
  · cases moved
    exact .useEnded
  · cases moved
    exact .terminalUseEnded
  · cases moved
    exact .intentAppended
  · cases moved
    exact .gaveUp rfl rfl
  · contradiction

theorem effectFails_moves (moved : call.effectFails = some later) :
    Moves guard call later guard := by
  unfold GuardCall.effectFails at moved
  split at moved
  · cases moved
    exact .useEnded
  · cases moved
    exact .terminalUseEnded
  · cases moved
    exact .gaveUp rfl rfl
  · contradiction

theorem interrupt_moves (moved : call.interrupt = some later) : Moves guard call later guard := by
  unfold GuardCall.interrupt at moved
  split at moved
  · cases moved
    exact .useEnded
  · cases moved
    exact .terminalUseEnded
  all_goals first
    | contradiction
    | (obtain rfl := Option.some.inj moved
       first
         | exact .interruptedOutside rfl rfl rfl
         | exact .gaveUp rfl rfl)

theorem move_moves (moved : call.move guard event = some (later, next)) :
    Moves guard call later next := by
  cases event with
  | resume => exact resume_moves moved
  | effectReturns =>
      obtain ⟨found, returned, same⟩ := Option.map_eq_some_iff.mp moved
      cases same
      exact effectReturns_moves returned
  | effectFails =>
      obtain ⟨found, failed, same⟩ := Option.map_eq_some_iff.mp moved
      cases same
      exact effectFails_moves failed
  | interrupt =>
      obtain ⟨found, interrupted, same⟩ := Option.map_eq_some_iff.mp moved
      cases same
      exact interrupt_moves interrupted

@[simp]
theorem lookup_ownersWith (key other : String) (owner : GuardOwner) :
    (guard.ownersWith key owner).owners.lookup other =
      if other = key then some owner else guard.owners.lookup other :=
  KeyedMap.lookup_insert_eq_ite

@[simp]
theorem lookup_ownersWithout (key other : String) :
    (guard.ownersWithout key).owners.lookup other =
      if other = key then none else guard.owners.lookup other :=
  KeyedMap.lookup_erase_eq_ite

@[simp]
theorem owners_signal (signal : GuardSignal) : (guard.signal signal).owners = guard.owners := by
  cases signal <;> rfl

theorem Moves.made_le (moves : Moves guard call later next) :
    guard.nextOwner ≤ next.nextOwner := by
  cases moves with
  | signalled => rename_i signal signals; cases signal <;> exact le_rfl
  | _ => first | exact le_rfl | exact Nat.le_succ _

/-- A gate is kept, taken when free, or given back by its holder. -/
inductive GateMove (guard : GuardState) (call later : GuardCall) (next : GuardState) : Prop
  | kept (gates : next.gateTaken = guard.gateTaken) (same : later.gate? = call.gate?)
  | took (owner : Nat) (free : guard.gateTaken owner = false) (before : call.gate? = none)
      (after : later.gate? = some owner)
      (gates : next.gateTaken = Function.update guard.gateTaken owner true)
  | gaveBack (owner : Nat) (before : call.gate? = some owner) (after : later.gate? = none)
      (gates : next.gateTaken = Function.update guard.gateTaken owner false)

theorem Moves.gates (moves : Moves guard call later next) : GateMove guard call later next := by
  cases moves with
  | tookGate free => exact .took _ free rfl rfl rfl
  | terminalTookGate free => exact .took _ free rfl rfl rfl
  | leftGate =>
      rename_i owner decision
      exact .gaveBack owner rfl (by cases decision <;> rfl) rfl
  | signalled => rename_i signal signals; exact .kept (by cases signal <;> rfl) rfl
  | gaveUp inside => exact .kept rfl inside.symm
  | interruptedOutside outside => exact .kept rfl outside.symm
  | retried => rename_i use _ _ _; exact .kept rfl (by cases use <;> rfl)
  | _ => exact .kept rfl rfl

theorem signalled_signal (guard : GuardState) (signal : GuardSignal) :
    (guard.signal signal).signalled signal = true := by
  cases signal <;> simp [GuardState.signal, GuardState.signalled]

theorem signalled_of_signal {signal other : GuardSignal} (done : guard.signalled other = true) :
    (guard.signal signal).signalled other = true := by
  cases signal <;> cases other <;>
    simp_all [GuardState.signal, GuardState.signalled, Function.update_apply]

theorem Moves.signalled_mono (moves : Moves guard call later next) {signal : GuardSignal}
    (done : guard.signalled signal = true) : next.signalled signal = true := by
  cases moves with
  | signalled => exact signalled_of_signal done
  | _ => cases signal <;> exact done

theorem pends_of_gate? {owner : Nat} (inside : call.gate? = some owner) : call.pends = [] := by
  cases call <;> first | rfl | simp [GuardCall.gate?] at inside

theorem Moves.pends (moves : Moves guard call later next) {signal : GuardSignal}
    (pending : signal ∈ call.pends) : signal ∈ later.pends ∨ next.signalled signal = true := by
  cases moves with
  | signalled =>
      obtain same | rest := List.mem_cons.mp pending
      · exact Or.inr (same ▸ signalled_signal guard signal)
      · exact Or.inl rest
  | gaveUp inside =>
      rw [pends_of_gate? inside] at pending
      contradiction
  | interruptedOutside _ _ settled =>
      rw [settled] at pending
      contradiction
  | _ => exact absurd pending (by simp [GuardCall.pends])

variable {terminal : Nat}

theorem Moves.terminals (moves : Moves guard call later next)
    (acquired : later.terminal? = some (key, terminal)) :
    call.terminal? = some (key, terminal) ∨
      (terminal = guard.nextOwner ∧ ∃ preemption,
        next.owners.lookup key = some (.terminalOwner ⟨terminal, preemption⟩)) := by
  cases moves with
  | inserted =>
      cases acquired
      exact Or.inr ⟨rfl, .none, by simp⟩
  | preempted =>
      rename_i owner _ _
      cases acquired
      exact Or.inr ⟨rfl, .retained owner, by simp⟩
  | leftGate =>
      rename_i owner decision
      left
      cases decision <;> exact acquired
  | terminalUseEnded => exact Or.inl acquired
  | retried =>
      rename_i use _ _ _
      cases use <;> simp [GuardedUse.retry, GuardCall.terminal?] at acquired
  | _ => simp [GuardCall.terminal?] at acquired

theorem Moves.appends (moves : Moves guard call later next) {owner : Nat}
    (appends : later.append? = some (key, owner)) :
    call.append? = some (key, owner) ∨ (guard.sameOwner key owner).isSome = true ∧ next = guard := by
  cases moves with
  | began owned =>
      cases appends
      exact Or.inr ⟨by simp [sameOwner, owned], rfl⟩
  | intentAppended => exact Or.inl appends
  | leftGate =>
      rename_i owner decision
      cases decision <;> simp [GateDecision.next, GuardCall.append?] at appends
  | retried =>
      rename_i use _ _ _
      cases use <;> simp [GuardedUse.retry, GuardCall.append?] at appends
  | _ => simp [GuardCall.append?] at appends

/-- How the owner of one attempt changes, with the number of owners made so far. -/
inductive OwnerChange (guard : GuardState) (key : String) (made : Nat) :
    GuardCall → GuardCall → Option GuardOwner → Option GuardOwner → Prop
  | reserved {call later : GuardCall} (counted : guard.nextOwner < made) :
      OwnerChange guard key made call later none
        (some (.protocolOwner ⟨guard.nextOwner, .preIntentCancellable⟩))
  | inserted {call later : GuardCall} (counted : guard.nextOwner < made) :
      OwnerChange guard key made call later none (some (.terminalOwner ⟨guard.nextOwner, .none⟩))
  | released {owner : ProtocolOwner} :
      OwnerChange guard key made (.releasing key owner.released)
        (.signalling [.released owner.released]) (some (.protocolOwner owner)) none
  | deferred {later : GuardCall} {terminal : Nat} {owner : ProtocolOwner} :
      OwnerChange guard key made (.releasing key owner.released) later
        (some (.terminalOwner ⟨terminal, .retained owner⟩))
        (some (.terminalOwner ⟨terminal, .released owner⟩))
  | committed {call later : GuardCall} {owner : ProtocolOwner} :
      OwnerChange guard key made call later (some (.protocolOwner owner))
        (some (.protocolOwner { owner with phase := .intentCommitted }))
  | preempted {later : GuardCall} {owner : ProtocolOwner}
      (phase : owner.phase = .preIntentCancellable) (counted : guard.nextOwner < made) :
      OwnerChange guard key made (.terminalInGate key owner.released) later
        (some (.protocolOwner owner))
        (some (.terminalOwner ⟨guard.nextOwner, .retained owner⟩))
  | finished {terminal : Nat} :
      OwnerChange guard key made (.releasingTerminal key terminal)
        (.signalling [.released terminal, .completed terminal])
        (some (.terminalOwner ⟨terminal, .none⟩)) none
  | finishedReleased {terminal : Nat} {owner : ProtocolOwner} :
      OwnerChange guard key made (.releasingTerminal key terminal)
        (.signalling [.released terminal, .released owner.released, .completed terminal])
        (some (.terminalOwner ⟨terminal, .released owner⟩)) none
  | restored {terminal : Nat} {owner : ProtocolOwner} :
      OwnerChange guard key made (.releasingTerminal key terminal)
        (.signalling [.released terminal, .completed terminal])
        (some (.terminalOwner ⟨terminal, .retained owner⟩)) (some (.protocolOwner owner))

theorem owner_of_lookup {target key : String} {made : Nat} {before after : Option GuardOwner}
    (owned : guard.owners.lookup target = before)
    (change : OwnerChange guard target made call later before after)
    (looked : next.owners.lookup key = if key = target then after else guard.owners.lookup key) :
    next.owners.lookup key = guard.owners.lookup key ∨
      OwnerChange guard key made call later (guard.owners.lookup key) (next.owners.lookup key) := by
  rw [looked]
  split
  · next same => exact Or.inr (by rw [same, owned]; exact change)
  · exact Or.inl rfl

theorem Moves.owner (moves : Moves guard call later next) (key : String) :
    next.owners.lookup key = guard.owners.lookup key ∨
      OwnerChange guard key next.nextOwner call later (guard.owners.lookup key)
        (next.owners.lookup key) := by
  cases moves with
  | reserved free | acquired free =>
      exact owner_of_lookup free (.reserved (Nat.lt_succ_self _)) (lookup_ownersWith ..)
  | inserted free =>
      exact owner_of_lookup free (.inserted (Nat.lt_succ_self _)) (lookup_ownersWith ..)
  | released owned => exact owner_of_lookup owned .released (lookup_ownersWithout ..)
  | deferred owned => exact owner_of_lookup owned .deferred (lookup_ownersWith ..)
  | committed owned => exact owner_of_lookup owned .committed (lookup_ownersWith ..)
  | preempted owned phase =>
      exact owner_of_lookup owned (.preempted phase (Nat.lt_succ_self _)) (lookup_ownersWith ..)
  | finished owned => exact owner_of_lookup owned .finished (lookup_ownersWithout ..)
  | finishedReleased owned =>
      exact owner_of_lookup owned .finishedReleased (lookup_ownersWithout ..)
  | restored owned => exact owner_of_lookup owned .restored (lookup_ownersWith ..)
  | signalled => exact Or.inl (by rw [owners_signal])
  | _ => exact Or.inl rfl

/-- The owner of the attempt will complete the signal, or the terminal owner that displaced it. -/
def Promises (guard : GuardState) (key : String) : GuardSignal → Prop
  | .released released =>
      (∃ owner, guard.owners.lookup key = some owner ∧ owner.released = released) ∨
        ∃ terminal owner, guard.owners.lookup key = some (.terminalOwner terminal) ∧
          terminal.preemption.owner? = some owner ∧ owner.released = released
  | .completed released =>
      ∃ preemption, guard.owners.lookup key = some (.terminalOwner ⟨released, preemption⟩)

theorem Moves.promises (moves : Moves guard call later next) {signal : GuardSignal}
    (promised : guard.Promises key signal) : next.Promises key signal ∨ signal ∈ later.pends := by
  obtain same | change := moves.owner key
  · left
    cases signal <;> simpa only [Promises, same] using promised
  · unfold Promises at promised ⊢
    generalize guard.owners.lookup key = before at promised change
    generalize next.owners.lookup key = after at change ⊢
    cases change <;> cases signal <;>
      simp_all [GuardCall.pends, GuardOwner.released, TerminalPreemption.owner?] <;> omega

theorem Moves.awaits (moves : Moves guard call later next) {signal : GuardSignal}
    (awaits : later.awaits? = some (key, signal)) :
    call.awaits? = some (key, signal) ∨ next.Promises key signal := by
  cases moves with
  | sawOwner owned =>
      cases awaits
      exact Or.inr (Or.inl ⟨_, owned, rfl⟩)
  | activationPreempted owned =>
      cases awaits
      exact Or.inr ⟨_, owned⟩
  | wasPreempted owned =>
      cases awaits
      exact Or.inr ⟨_, owned⟩
  | terminalSawTerminal owned =>
      cases awaits
      exact Or.inr (Or.inl ⟨_, owned, rfl⟩)
  | mustWait owned =>
      cases awaits
      exact Or.inr (Or.inl ⟨_, owned, rfl⟩)
  | leftGate =>
      rename_i owner decision
      left
      cases decision <;> exact awaits
  | retried =>
      rename_i use _ _ _
      cases use <;> simp [GuardedUse.retry, GuardCall.awaits?] at awaits
  | _ => simp [GuardCall.awaits?] at awaits

/-- Numbers of owners are not reused, and only an owner before its intent is displaced. -/
structure OwnersSound (guard : GuardState) : Prop where
  fresh : ∀ {key owner}, guard.owners.lookup key = some owner → owner.released < guard.nextOwner
  displaced : ∀ {key terminal owner}, guard.owners.lookup key = some (.terminalOwner terminal) →
    terminal.preemption.owner? = some owner →
      owner.released < guard.nextOwner ∧ owner.phase = .preIntentCancellable

section

variable (moves : Moves guard call later next)
include moves

theorem Moves.ownersSound (sound : guard.OwnersSound) : next.OwnersSound := by
  have made := moves.made_le
  constructor
  · intro key owner owned
    obtain same | change := moves.owner key
    · rw [same] at owned
      exact lt_of_lt_of_le (sound.fresh owned) made
    · rw [owned] at change
      have before : ∀ {earlier}, guard.owners.lookup key = some earlier →
          earlier.released < next.nextOwner :=
        fun found => lt_of_lt_of_le (sound.fresh found) made
      have displaced : ∀ {terminal displaced},
          guard.owners.lookup key = some (.terminalOwner terminal) →
            terminal.preemption.owner? = some displaced → displaced.released < next.nextOwner :=
        fun found retained => lt_of_lt_of_le (sound.displaced found retained).1 made
      generalize guard.owners.lookup key = found at before displaced change
      cases change with
      | reserved counted => exact counted
      | inserted counted => exact counted
      | preempted _ counted => exact counted
      | deferred =>
          have bound := before rfl
          exact bound
      | committed =>
          have bound := before rfl
          exact bound
      | restored => exact displaced rfl rfl
  · intro key terminal owner owned retained
    have before : ∀ {earlier displaced},
        guard.owners.lookup key = some (.terminalOwner earlier) →
          earlier.preemption.owner? = some displaced →
            displaced.released < next.nextOwner ∧ displaced.phase = .preIntentCancellable := by
      intro earlier displaced found kept
      obtain ⟨bound, phase⟩ := sound.displaced found kept
      exact ⟨lt_of_lt_of_le bound made, phase⟩
    obtain same | change := moves.owner key
    · rw [same] at owned
      exact before owned retained
    · rw [owned] at change
      have fresh : ∀ {earlier}, guard.owners.lookup key = some earlier →
          earlier.released < next.nextOwner :=
        fun found => lt_of_lt_of_le (sound.fresh found) made
      generalize guard.owners.lookup key = found at before fresh change
      cases change with
      | inserted => contradiction
      | deferred => exact before rfl retained
      | preempted phase =>
          cases retained
          exact ⟨fresh rfl, phase⟩

theorem Moves.terminal_stays {preemption : TerminalPreemption}
    (owned : guard.owners.lookup key = some (.terminalOwner ⟨terminal, preemption⟩)) :
    (∃ preemption, next.owners.lookup key = some (.terminalOwner ⟨terminal, preemption⟩)) ∨
      (call.terminal? = some (key, terminal) ∧ later.terminal? = none) := by
  obtain same | change := moves.owner key
  · exact Or.inl ⟨preemption, same.trans owned⟩
  · rw [owned] at change
    generalize next.owners.lookup key = after at change ⊢
    cases change with
    | deferred => exact Or.inl ⟨_, rfl⟩
    | finished => exact Or.inr ⟨rfl, rfl⟩
    | finishedReleased => exact Or.inr ⟨rfl, rfl⟩
    | restored => exact Or.inr ⟨rfl, rfl⟩

theorem Moves.protocol_stays {owner : Nat} (owned : (guard.sameOwner key owner).isSome = true) :
    (next.sameOwner key owner).isSome = true ∨ call = .releasing key owner ∨
      call = .terminalInGate key owner := by
  obtain ⟨found, same⟩ := Option.isSome_iff_exists.mp owned
  obtain ⟨lookup, rfl⟩ := sameOwner_eq_some same
  unfold sameOwner
  obtain same | change := moves.owner key
  · exact Or.inl (by simp [same, lookup])
  · rw [lookup] at change
    generalize next.owners.lookup key = after at change ⊢
    cases change with
    | released => exact Or.inr (Or.inl rfl)
    | committed => exact Or.inl (by simp)
    | preempted => exact Or.inr (Or.inr rfl)

theorem Moves.terminal_begins {terminal : TerminalOwner} {owner : ProtocolOwner}
    (owned : next.owners.lookup key = some (.terminalOwner terminal))
    (before : guard.owners.lookup key = some (.protocolOwner owner)) :
    owner.phase = .preIntentCancellable := by
  obtain same | change := moves.owner key
  · rw [same, before] at owned
    simp at owned
  · rw [owned, before] at change
    cases change with
    | preempted phase => exact phase

theorem Moves.terminal_number {preemption : TerminalPreemption}
    (owned : next.owners.lookup key = some (.terminalOwner ⟨terminal, preemption⟩)) :
    (∃ earlier, guard.owners.lookup key = some (.terminalOwner ⟨terminal, earlier⟩)) ∨
      terminal = guard.nextOwner := by
  obtain same | change := moves.owner key
  · exact Or.inl ⟨preemption, same ▸ owned⟩
  · rw [owned] at change
    generalize guard.owners.lookup key = before at change ⊢
    cases change with
    | inserted => exact Or.inr rfl
    | preempted => exact Or.inr rfl
    | deferred => exact Or.inl ⟨_, rfl⟩

theorem Moves.retained_stays {owner : ProtocolOwner}
    (owned : guard.owners.lookup key = some (.terminalOwner ⟨terminal, .retained owner⟩)) :
    next.owners.lookup key = some (.terminalOwner ⟨terminal, .retained owner⟩) ∨
      call = .releasing key owner.released ∨
      (call = .releasingTerminal key terminal ∧
        next.owners.lookup key = some (.protocolOwner owner)) := by
  obtain same | change := moves.owner key
  · exact Or.inl (same.trans owned)
  · rw [owned] at change
    generalize next.owners.lookup key = after at change ⊢
    cases change with
    | deferred => exact Or.inr (Or.inl rfl)
    | restored => exact Or.inr (Or.inr ⟨rfl, rfl⟩)

end

end GuardState

end Dalph
