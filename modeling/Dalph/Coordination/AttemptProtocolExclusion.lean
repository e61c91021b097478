import Dalph.Coordination.AttemptProtocolMoves

/-!
# Exclusion of attempt protocol owners

What one move keeps is kept along every interleaving: who holds a gate, who owns an attempt, and
which signal a waiter is promised.
-/

namespace Dalph

namespace ProtocolControllerState

open GuardState

variable {state next : ProtocolControllerState}

/-- A step begins one call, moves one call or does nothing. -/
inductive StepEffect (state : ProtocolControllerState) (action : ProtocolControllerAction)
    (next : ProtocolControllerState) : Prop
  | unchanged (same : next = state)
  | began (request : GuardRequest)
      (same : next =
        { state with
          nextCall := state.nextCall + 1
          calls := Function.update state.calls state.nextCall (some request.start) })
  | moved (mover : Nat) (event : GuardEvent) (current later : GuardCall) (guard : GuardState)
      (named : action = .move mover event) (found : state.calls mover = some current)
      (resumed : current.move state.guard event = some (later, guard))
      (same : next =
        { state with guard, calls := Function.update state.calls mover (some later) })

theorem step_effect (action : ProtocolControllerAction) (state : ProtocolControllerState) :
    StepEffect state action (step action state).2 := by
  cases action with
  | begin request =>
      simp only [step]
      split
      · exact .began request rfl
      · exact .unchanged rfl
  | move mover event =>
      simp only [step]
      split
      · exact .unchanged rfl
      · next current found =>
        split
        · exact .unchanged rfl
        · next later guard resumed => exact .moved mover event current later guard rfl found resumed rfl

def Pends (state : ProtocolControllerState) (signal : GuardSignal) : Prop :=
  ∃ call current, state.calls call = some current ∧ signal ∈ current.pends

/-- What holds in every reachable state. -/
structure Sound (state : ProtocolControllerState) : Prop where
  callsFresh : ∀ call, state.nextCall ≤ call → state.calls call = none
  owners : state.guard.OwnersSound
  gateTaken : ∀ {call current owner}, state.calls call = some current →
    current.gate? = some owner → state.guard.gateTaken owner = true
  gateUnique : ∀ {call current other otherCurrent owner}, state.calls call = some current →
    state.calls other = some otherCurrent → current.gate? = some owner →
      otherCurrent.gate? = some owner → call = other
  gateHeld : ∀ {owner}, state.guard.gateTaken owner = true →
    ∃ call current, state.calls call = some current ∧ current.gate? = some owner
  terminalOwned : ∀ {call current key terminal}, state.calls call = some current →
    current.terminal? = some (key, terminal) → ∃ preemption,
      state.guard.owners.lookup key = some (.terminalOwner ⟨terminal, preemption⟩)
  terminalUnique : ∀ {call current other otherCurrent key otherKey terminal},
    state.calls call = some current → state.calls other = some otherCurrent →
      current.terminal? = some (key, terminal) →
        otherCurrent.terminal? = some (otherKey, terminal) → call = other
  promised : ∀ {call current key signal}, state.calls call = some current →
    current.awaits? = some (key, signal) → state.guard.Promises key signal ∨
      state.guard.signalled signal = true ∨ state.Pends signal

theorem sound_make : makePlannedAttemptProtocolController.Sound where
  callsFresh _ _ := rfl
  owners :=
    { fresh := fun owned => by simp [makePlannedAttemptProtocolController] at owned
      displaced := fun owned => by simp [makePlannedAttemptProtocolController] at owned }
  gateTaken found := by simp [makePlannedAttemptProtocolController] at found
  gateUnique found := by simp [makePlannedAttemptProtocolController] at found
  gateHeld taken := by simp [makePlannedAttemptProtocolController] at taken
  terminalOwned found := by simp [makePlannedAttemptProtocolController] at found
  terminalUnique found := by simp [makePlannedAttemptProtocolController] at found
  promised found := by simp [makePlannedAttemptProtocolController] at found

section Roles

variable (request : GuardRequest)

@[simp]
theorem start_gate? : request.start.gate? = none := by
  cases request with
  | guarded use => cases use <;> rfl
  | _ => rfl

@[simp]
theorem start_terminal? : request.start.terminal? = none := by
  cases request with
  | guarded use => cases use <;> rfl
  | _ => rfl

@[simp]
theorem start_append? : request.start.append? = none := by
  cases request with
  | guarded use => cases use <;> rfl
  | _ => rfl

@[simp]
theorem start_awaits? : request.start.awaits? = none := by
  cases request with
  | guarded use => cases use <;> rfl
  | _ => rfl

end Roles

variable {call : Nat}

theorem call_of_update {calls : Nat → Option GuardCall} {mover : Nat} {later current : GuardCall}
    (found : Function.update calls mover (some later) call = some current) :
    (call = mover ∧ current = later) ∨ (call ≠ mover ∧ calls call = some current) := by
  rw [Function.update_apply] at found
  split at found
  · next same => exact Or.inl ⟨same, (Option.some.inj found).symm⟩
  · next apart => exact Or.inr ⟨apart, found⟩

/-- Beginning a call keeps every invariant: a new call has no role yet. -/
theorem Sound.begin (sound : state.Sound) (request : GuardRequest) :
    Sound
      { state with
        nextCall := state.nextCall + 1
        calls := Function.update state.calls state.nextCall (some request.start) } where
  callsFresh call beyond := by
    have apart : call ≠ state.nextCall := by
      intro same
      simp only [same] at beyond
      omega
    simp only [Function.update_of_ne apart]
    exact sound.callsFresh call (by simp only at beyond; omega)
  owners := sound.owners
  gateTaken found gate := by
    obtain ⟨-, rfl⟩ | ⟨-, old⟩ := call_of_update found
    · simp at gate
    · exact sound.gateTaken old gate
  gateUnique found otherFound gate otherGate := by
    obtain ⟨-, rfl⟩ | ⟨-, old⟩ := call_of_update found
    · simp at gate
    · obtain ⟨-, rfl⟩ | ⟨-, otherOld⟩ := call_of_update otherFound
      · simp at otherGate
      · exact sound.gateUnique old otherOld gate otherGate
  gateHeld taken := by
    obtain ⟨call, current, found, gate⟩ := sound.gateHeld taken
    refine ⟨call, current, ?_, gate⟩
    simp only
    rw [Function.update_of_ne, found]
    rintro rfl
    rw [sound.callsFresh _ le_rfl] at found
    contradiction
  terminalOwned found acquired := by
    obtain ⟨-, rfl⟩ | ⟨-, old⟩ := call_of_update found
    · simp at acquired
    · exact sound.terminalOwned old acquired
  terminalUnique found otherFound acquired otherAcquired := by
    obtain ⟨-, rfl⟩ | ⟨-, old⟩ := call_of_update found
    · simp at acquired
    · obtain ⟨-, rfl⟩ | ⟨-, otherOld⟩ := call_of_update otherFound
      · simp at otherAcquired
      · exact sound.terminalUnique old otherOld acquired otherAcquired
  promised found awaits := by
    obtain ⟨-, rfl⟩ | ⟨-, old⟩ := call_of_update found
    · simp at awaits
    · obtain promises | done | ⟨call, current, pendsFound, pends⟩ := sound.promised old awaits
      · exact Or.inl promises
      · exact Or.inr (Or.inl done)
      · refine Or.inr (Or.inr ⟨call, current, ?_, pends⟩)
        simp only
        rw [Function.update_of_ne, pendsFound]
        rintro rfl
        rw [sound.callsFresh _ le_rfl] at pendsFound
        contradiction

section Move

variable {mover : Nat} {current later : GuardCall} {guard : GuardState}

theorem Sound.callsFresh_move (sound : state.Sound) (found : state.calls mover = some current)
    (call : Nat) (beyond : state.nextCall ≤ call) :
    Function.update state.calls mover (some later) call = none := by
  rw [Function.update_of_ne]
  · exact sound.callsFresh call beyond
  · rintro rfl
    rw [sound.callsFresh _ beyond] at found
    contradiction

variable {call : Nat} {holder : GuardCall}

section

variable (sound : state.Sound) (found : state.calls mover = some current)
  (moves : Moves state.guard current later guard)
include sound found moves

theorem Sound.gateTaken_move {owner : Nat}
    (called : Function.update state.calls mover (some later) call = some holder)
    (gate : holder.gate? = some owner) : guard.gateTaken owner = true := by
  obtain ⟨rfl, rfl⟩ | ⟨apart, old⟩ := call_of_update called
  · cases moves.gates with
    | kept gates same =>
        rw [gates]
        exact sound.gateTaken found (same ▸ gate)
    | took taken _ _ after gates =>
        rw [after] at gate
        cases gate
        simp [gates]
    | gaveBack _ _ after => simp [after] at gate
  · have held := sound.gateTaken old gate
    cases moves.gates with
    | kept gates => rwa [gates]
    | took taken _ _ _ gates =>
        rw [gates, Function.update_apply]
        split
        · rfl
        · exact held
    | gaveBack given before _ gates =>
        rw [gates, Function.update_of_ne]
        · exact held
        · rintro rfl
          exact apart (sound.gateUnique old found gate before)

theorem Sound.gateUnique_move {other owner : Nat} {otherHolder : GuardCall}
    (called : Function.update state.calls mover (some later) call = some holder)
    (otherCalled : Function.update state.calls mover (some later) other = some otherHolder)
    (gate : holder.gate? = some owner) (otherGate : otherHolder.gate? = some owner) :
    call = other := by
  -- The mover can only have a gate that it had before or that was free.
  have settled : ∀ {third : Nat} {thirdHolder : GuardCall}, third ≠ mover →
      state.calls third = some thirdHolder → thirdHolder.gate? = some owner →
        later.gate? = some owner → False := by
    intro third thirdHolder apart old thirdGate laterGate
    cases moves.gates with
    | kept _ same => exact apart (sound.gateUnique old found thirdGate (same ▸ laterGate))
    | took taken free _ after =>
        rw [after] at laterGate
        cases laterGate
        rw [sound.gateTaken old thirdGate] at free
        contradiction
    | gaveBack _ _ after => simp [after] at laterGate
  obtain ⟨rfl, rfl⟩ | ⟨apart, old⟩ := call_of_update called <;>
    obtain ⟨rfl, rfl⟩ | ⟨otherApart, otherOld⟩ := call_of_update otherCalled
  · rfl
  · exact (settled otherApart otherOld otherGate gate).elim
  · exact (settled apart old gate otherGate).elim
  · exact sound.gateUnique old otherOld gate otherGate

theorem Sound.gateHeld_move {owner : Nat} (taken : guard.gateTaken owner = true) :
    ∃ call holder, Function.update state.calls mover (some later) call = some holder ∧
      holder.gate? = some owner := by
  have kept : ∀ {call holder}, state.calls call = some holder → holder.gate? = some owner →
      (call = mover → later.gate? = some owner) →
      ∃ call holder, Function.update state.calls mover (some later) call = some holder ∧
        holder.gate? = some owner := by
    intro call holder old gate still
    by_cases same : call = mover
    · exact ⟨mover, later, Function.update_self .., still same⟩
    · exact ⟨call, holder, by rw [Function.update_of_ne same, old], gate⟩
  cases moves.gates with
  | kept gates same =>
      rw [gates] at taken
      obtain ⟨call, holder, old, gate⟩ := sound.gateHeld taken
      refine kept old gate ?_
      rintro rfl
      rw [found] at old
      cases old
      rw [same, gate]
  | took fresh _ before after gates =>
      rw [gates, Function.update_apply] at taken
      split at taken
      · next same => exact ⟨mover, later, Function.update_self .., same ▸ after⟩
      · obtain ⟨call, holder, old, gate⟩ := sound.gateHeld taken
        refine kept old gate ?_
        rintro rfl
        rw [found] at old
        cases old
        rw [before] at gate
        contradiction
  | gaveBack given before _ gates =>
      rw [gates, Function.update_apply] at taken
      split at taken
      · contradiction
      · next apart =>
        obtain ⟨call, holder, old, gate⟩ := sound.gateHeld taken
        refine kept old gate ?_
        rintro rfl
        rw [found] at old
        cases old
        rw [before] at gate
        exact absurd (Option.some.inj gate).symm apart

theorem Sound.terminalOwned_move {terminal : Nat} {key : String}
    (called : Function.update state.calls mover (some later) call = some holder)
    (acquired : holder.terminal? = some (key, terminal)) :
    ∃ preemption, guard.owners.lookup key = some (.terminalOwner ⟨terminal, preemption⟩) := by
  -- A terminal owner that stays owned is ended only by its own call.
  have stays : ∀ {call holder}, state.calls call = some holder →
      holder.terminal? = some (key, terminal) →
      (call = mover → later.terminal? = some (key, terminal)) →
      ∃ preemption, guard.owners.lookup key = some (.terminalOwner ⟨terminal, preemption⟩) := by
    intro call holder old held still
    obtain ⟨preemption, owned⟩ := sound.terminalOwned old held
    obtain stays | ⟨ends, gone⟩ := moves.terminal_stays owned
    · exact stays
    · have same := sound.terminalUnique old found held ends
      rw [still same] at gone
      contradiction
  obtain ⟨rfl, rfl⟩ | ⟨apart, old⟩ := call_of_update called
  · obtain before | ⟨-, owned⟩ := moves.terminals acquired
    · exact stays found before (fun _ => acquired)
    · exact owned
  · exact stays old acquired (fun same => absurd same apart)

theorem Sound.terminalUnique_move {other terminal : Nat} {otherHolder : GuardCall}
    {key otherKey : String}
    (called : Function.update state.calls mover (some later) call = some holder)
    (otherCalled : Function.update state.calls mover (some later) other = some otherHolder)
    (acquired : holder.terminal? = some (key, terminal))
    (otherAcquired : otherHolder.terminal? = some (otherKey, terminal)) : call = other := by
  have settled : ∀ {third : Nat} {thirdHolder : GuardCall} {thirdKey laterKey : String},
      third ≠ mover → state.calls third = some thirdHolder →
        thirdHolder.terminal? = some (thirdKey, terminal) →
          later.terminal? = some (laterKey, terminal) → False := by
    intro third thirdHolder thirdKey laterKey apart old thirdAcquired laterAcquired
    obtain before | ⟨fresh, -⟩ := moves.terminals laterAcquired
    · exact apart (sound.terminalUnique old found thirdAcquired before)
    · obtain ⟨preemption, owned⟩ := sound.terminalOwned old thirdAcquired
      have bound := sound.owners.fresh owned
      simp only [GuardOwner.released, fresh] at bound
      exact absurd bound (lt_irrefl _)
  obtain ⟨rfl, rfl⟩ | ⟨apart, old⟩ := call_of_update called <;>
    obtain ⟨rfl, rfl⟩ | ⟨otherApart, otherOld⟩ := call_of_update otherCalled
  · rfl
  · exact (settled otherApart otherOld otherAcquired acquired).elim
  · exact (settled apart old acquired otherAcquired).elim
  · exact sound.terminalUnique old otherOld acquired otherAcquired

/-- No wake-up is lost: what a waiter was promised is owned, signalled or about to be. -/
theorem Sound.promised_move {waiter : GuardCall} {key : String} {signal : GuardSignal}
    (called : Function.update state.calls mover (some later) call = some waiter)
    (awaits : waiter.awaits? = some (key, signal)) :
    guard.Promises key signal ∨ guard.signalled signal = true ∨
      ∃ other pending, Function.update state.calls mover (some later) other = some pending ∧
        signal ∈ pending.pends := by
  have byMover : signal ∈ later.pends → ∃ other pending,
      Function.update state.calls mover (some later) other = some pending ∧
        signal ∈ pending.pends :=
    fun pending => ⟨mover, later, Function.update_self .., pending⟩
  have kept : ∀ {call waiter}, state.calls call = some waiter →
      waiter.awaits? = some (key, signal) → guard.Promises key signal ∨
        guard.signalled signal = true ∨
          ∃ other pending, Function.update state.calls mover (some later) other = some pending ∧
            signal ∈ pending.pends := by
    intro call waiter old awaited
    obtain promises | done | ⟨other, pending, otherFound, pends⟩ := sound.promised old awaited
    · obtain still | pending := moves.promises promises
      · exact Or.inl still
      · exact Or.inr (Or.inr (byMover pending))
    · exact Or.inr (Or.inl (moves.signalled_mono done))
    · by_cases same : other = mover
      · subst same
        rw [found] at otherFound
        cases otherFound
        obtain pending | done := moves.pends pends
        · exact Or.inr (Or.inr (byMover pending))
        · exact Or.inr (Or.inl done)
      · exact Or.inr (Or.inr ⟨other, pending, by rw [Function.update_of_ne same, otherFound], pends⟩)
  obtain ⟨rfl, rfl⟩ | ⟨-, old⟩ := call_of_update called
  · obtain before | promises := moves.awaits awaits
    · exact kept found before
    · exact Or.inl promises
  · exact kept old awaits

end

end Move

theorem Sound.step (sound : state.Sound) (action : ProtocolControllerAction) :
    (step action state).2.Sound := by
  cases step_effect action state with
  | unchanged same => rwa [same]
  | began request same => exact same ▸ sound.begin request
  | moved mover event current later guard _ found resumed same =>
      have moves := move_moves resumed
      rw [same]
      exact
        { callsFresh := fun call beyond => sound.callsFresh_move found call beyond
          owners := moves.ownersSound sound.owners
          gateTaken := sound.gateTaken_move found moves
          gateUnique := sound.gateUnique_move found moves
          gateHeld := sound.gateHeld_move found moves
          terminalOwned := sound.terminalOwned_move found moves
          terminalUnique := sound.terminalUnique_move found moves
          promised := sound.promised_move found moves }

theorem after_sound (actions : List ProtocolControllerAction) : (after actions).Sound :=
  Machine.run_preserves (fun action _ sound => sound.step action) sound_make actions

def ReleaseStep (state : ProtocolControllerState) (action : ProtocolControllerAction) (key : String)
    (owner : Nat) : Prop :=
  ∃ call, action = .move call .resume ∧ state.calls call = some (.releasing key owner)

def Appends (state : ProtocolControllerState) (call : Nat) (key : String) (owner : Nat) : Prop :=
  ∃ current, state.calls call = some current ∧ current.append? = some (key, owner)

def ReleasedInAppend (actions : List ProtocolControllerAction) (call : Nat) (key : String)
    (owner : Nat) : Prop :=
  ∃ before action later, actions = before ++ action :: later ∧
    ReleaseStep (after before) action key owner ∧ (after before).Appends call key owner

variable {key : String} {owner : Nat}

theorem gate?_of_append? {current : GuardCall} (appends : current.append? = some (key, owner)) :
    current.gate? = some owner := by
  cases current <;> simp_all [GuardCall.append?, GuardCall.gate?]

theorem releaseStep_of_move {mover : Nat} {event : GuardEvent} {later : GuardCall}
    {guard : GuardState} (found : state.calls mover = some (.releasing key owner))
    (resumed : (GuardCall.releasing key owner).move state.guard event = some (later, guard)) :
    ReleaseStep state (.move mover event) key owner := by
  cases event with
  | resume => exact ⟨mover, rfl, found⟩
  | effectReturns => simp [GuardCall.move, GuardCall.effectReturns] at resumed
  | effectFails => simp [GuardCall.move, GuardCall.effectFails] at resumed
  | interrupt => simp [GuardCall.move, GuardCall.interrupt] at resumed

theorem appends_step (action : ProtocolControllerAction)
    (appends : (step action state).2.Appends call key owner) :
    state.Appends call key owner ∨
      ((step action state).2.guard.sameOwner key owner).isSome = true := by
  obtain ⟨current, called, found⟩ := appends
  cases step_effect action state with
  | unchanged same => exact Or.inl ⟨current, by rwa [same] at called, found⟩
  | began request same =>
      rw [same] at called
      obtain ⟨-, rfl⟩ | ⟨-, old⟩ := call_of_update called
      · simp at found
      · exact Or.inl ⟨current, old, found⟩
  | moved mover event before later guard _ moverFound resumed same =>
      rw [same] at called ⊢
      obtain ⟨rfl, rfl⟩ | ⟨-, old⟩ := call_of_update called
      · obtain earlier | ⟨owned, unchanged⟩ := (move_moves resumed).appends found
        · exact Or.inl ⟨before, moverFound, earlier⟩
        · exact Or.inr (by simpa only [unchanged] using owned)
      · exact Or.inl ⟨current, old, found⟩

theorem releaseStep_of_lost (sound : state.Sound) (action : ProtocolControllerAction)
    (appends : state.Appends call key owner)
    (owned : (state.guard.sameOwner key owner).isSome = true)
    (lost : ¬ ((step action state).2.guard.sameOwner key owner).isSome = true) :
    ReleaseStep state action key owner := by
  obtain ⟨current, called, appending⟩ := appends
  cases step_effect action state with
  | unchanged same => exact absurd owned (same ▸ lost)
  | began request same => exact absurd owned (by rwa [same] at lost)
  | moved mover event before later guard named found resumed same =>
      rw [same] at lost
      obtain kept | rfl | rfl := (move_moves resumed).protocol_stays owned
      · exact absurd kept lost
      · exact named ▸ releaseStep_of_move found resumed
      · have sameCall := sound.gateUnique called found (gate?_of_append? appending) rfl
        subst sameCall
        rw [found] at called
        cases called
        simp [GuardCall.append?] at appending

theorem owner_or_releasedInAppend (actions : List ProtocolControllerAction)
    (appends : (after actions).Appends call key owner) :
    ((after actions).guard.sameOwner key owner).isSome = true ∨
      ReleasedInAppend actions call key owner := by
  have unclaimed : ¬ makePlannedAttemptProtocolController.Appends call key owner := by
    simp [Appends, makePlannedAttemptProtocolController]
  obtain owned | ⟨before, action, later, split, claimed, owned, lost⟩ :=
    @Machine.run_basis_or_lost _ _ _ step Sound (·.Appends call key owner)
      (fun state => (state.guard.sameOwner key owner).isSome = true)
      (fun action _ sound => sound.step action) (fun action _ _ => appends_step action) _ sound_make
      unclaimed actions appends
  · exact Or.inl owned
  · exact Or.inr ⟨before, action, later, split,
      releaseStep_of_lost (after_sound before) action claimed owned lost, claimed⟩

def Retains (state : ProtocolControllerState) (key : String) (terminal : Nat)
    (owner : ProtocolOwner) : Prop :=
  state.guard.owners.lookup key = some (.terminalOwner ⟨terminal, .retained owner⟩)

def Left (state : ProtocolControllerState) (key : String) (terminal : Nat) : Prop :=
  terminal < state.guard.nextOwner ∧ ∀ preemption,
    state.guard.owners.lookup key ≠ some (.terminalOwner ⟨terminal, preemption⟩)

variable {terminal : Nat}

theorem Left.step (left : state.Left key terminal) (action : ProtocolControllerAction) :
    (step action state).2.Left key terminal := by
  cases step_effect action state with
  | unchanged same => rwa [same]
  | began request same => rwa [same]
  | moved mover event before later guard _ _ resumed same =>
      have moves := move_moves resumed
      rw [same]
      refine ⟨lt_of_lt_of_le left.1 moves.made_le, fun preemption owned => ?_⟩
      obtain ⟨earlier, was⟩ | fresh := moves.terminal_number owned
      · exact left.2 earlier was
      · exact absurd left.1 (by omega)

theorem releaseStep_of_not_retains {owner : ProtocolOwner} (sound : state.Sound)
    (action : ProtocolControllerAction) (retains : state.Retains key terminal owner)
    (lost : ¬ ((step action state).2.Retains key terminal owner ∨
      (step action state).2.Left key terminal)) : ReleaseStep state action key owner.released := by
  rw [not_or] at lost
  cases step_effect action state with
  | unchanged same => exact absurd retains (same ▸ lost.1)
  | began request same => exact absurd retains (by rw [same] at lost; exact lost.1)
  | moved mover event before later guard named found resumed same =>
      have moves := move_moves resumed
      rw [same] at lost
      obtain kept | rfl | ⟨-, restored⟩ := moves.retained_stays retains
      · exact absurd kept lost.1
      · exact named ▸ releaseStep_of_move found resumed
      · refine absurd ⟨?_, ?_⟩ lost.2
        · exact lt_of_lt_of_le (sound.owners.fresh retains) moves.made_le
        · intro preemption owned
          rw [restored] at owned
          simp at owned

theorem after_append (before later : List ProtocolControllerAction) :
    after (before ++ later) = (Machine.run step (after before) later).2 := by
  rw [after, after, Machine.run_append]

theorem restored_or_released (before later : List ProtocolControllerAction) {owner : ProtocolOwner}
    (retains : (after before).Retains key terminal owner)
    (ending : (after (before ++ later)).calls call = some (.releasingTerminal key terminal)) :
    (after (before ++ later ++ [.move call .resume])).guard.owners.lookup key =
        some (.protocolOwner owner) ∨
      ∃ middle action rest, later = middle ++ action :: rest ∧
        ReleaseStep (after (before ++ middle)) action key owner.released := by
  obtain kept | ⟨middle, action, rest, split, held, lost⟩ :=
    @Machine.run_holds_or_lost _ _ _ step
      (fun state => state.Retains key terminal owner ∨ state.Left key terminal) (after before)
      (Or.inl retains) later
  · left
    rw [← after_append] at kept
    have retained : (after (before ++ later)).Retains key terminal owner := by
      obtain retained | left := kept
      · exact retained
      · obtain ⟨preemption, owned⟩ := (after_sound (before ++ later)).terminalOwned ending rfl
        exact absurd owned (left.2 preemption)
    rw [after_append, Machine.run_cons, Machine.run_nil]
    simp only [Retains] at retained
    simp [step, ending, GuardCall.move, GuardState.resume, GuardState.releaseTerminal, retained]
  · right
    rw [← after_append] at held lost
    refine ⟨middle, action, rest, split, ?_⟩
    obtain retained | left := held
    · exact releaseStep_of_not_retains (after_sound _) action retained lost
    · exact absurd (Or.inr (left.step action)) lost

def Unblocks (blocker waiter : GuardCall) : Prop :=
  (∃ key signal, waiter.awaits? = some (key, signal) ∧ signal ∈ blocker.pends) ∨
    ∃ owner, waiter.awaitsGate? = some owner ∧ blocker.gate? = some owner

theorem Unblocks.moves {blocker waiter : GuardCall} (unblocks : Unblocks blocker waiter)
    (guard : GuardState) :
    (guard.resume blocker).isSome = true ∨ blocker.append?.isSome = true := by
  cases blocker with
  | signalling signals => left; cases signals <;> rfl
  | inGate | committing | leavingGate | terminalInGate => exact Or.inl rfl
  | appending => exact Or.inr rfl
  | _ => simp [Unblocks, GuardCall.pends, GuardCall.gate?] at unblocks

/-- Whoever waits for a free attempt can proceed, or waits for a call that will let it. -/
theorem Sound.waiter_proceeds (sound : state.Sound) {waiter : GuardCall}
    (called : state.calls call = some waiter) (waits : waiter.waits? = some key)
    (free : state.guard.owners.lookup key = none) :
    (state.guard.resume waiter).isSome = true ∨
      ∃ other blocker, state.calls other = some blocker ∧ Unblocks blocker waiter := by
  have promised : ∀ {signal}, waiter.awaits? = some (key, signal) →
      (state.guard.signalled signal = true → (state.guard.resume waiter).isSome = true) →
      (state.guard.resume waiter).isSome = true ∨
        ∃ other blocker, state.calls other = some blocker ∧ Unblocks blocker waiter := by
    intro signal awaits proceeds
    obtain promises | done | ⟨other, blocker, found, pends⟩ := sound.promised called awaits
    · cases signal <;> simp [Promises, free] at promises
    · exact Or.inl (proceeds done)
    · exact Or.inr ⟨other, blocker, found, Or.inl ⟨key, signal, awaits, pends⟩⟩
  have gated : ∀ {owner}, waiter.awaitsGate? = some owner →
      (state.guard.gateTaken owner = false → (state.guard.resume waiter).isSome = true) →
      (state.guard.resume waiter).isSome = true ∨
        ∃ other blocker, state.calls other = some blocker ∧ Unblocks blocker waiter := by
    intro owner awaits proceeds
    cases taken : state.guard.gateTaken owner with
    | false => exact Or.inl (proceeds taken)
    | true =>
        obtain ⟨other, blocker, found, gate⟩ := sound.gateHeld taken
        exact Or.inr ⟨other, blocker, found, Or.inr ⟨owner, awaits, gate⟩⟩
  cases waiter with
  | awaitingReleased other owner | awaitingCompleted use other owner terminal
  | terminalAwaiting other owner =>
      cases waits
      exact promised rfl (fun done => by simp_all [GuardState.resume, GuardState.signalled])
  | atGate use other owner => exact gated rfl (fun open_ => by simp_all [GuardState.resume])
  | terminalAtGate other owner => exact gated rfl (fun open_ => by simp_all [GuardState.resume])
  | _ => simp [GuardCall.waits?] at waits

theorem Sound.committed_excludes (sound : state.Sound) {owner : ProtocolOwner}
    (owned : state.guard.owners.lookup key = some (.protocolOwner owner))
    (committed : owner.phase = .intentCommitted) (action : ProtocolControllerAction)
    {current : GuardCall}
    (called : (ProtocolControllerState.step action state).2.calls call = some current) :
    current.terminal? ≠ some (key, terminal) := by
  intro acquired
  obtain ⟨preemption, enters⟩ := (sound.step action).terminalOwned called acquired
  cases step_effect action state with
  | unchanged same =>
      rw [same, owned] at enters
      simp at enters
  | began request same =>
      rw [same] at enters
      change state.guard.owners.lookup key = _ at enters
      rw [owned] at enters
      simp at enters
  | moved mover event before later guard _ _ resumed same =>
      rw [same] at enters
      have phase := (move_moves resumed).terminal_begins enters owned
      rw [committed] at phase
      contradiction

/-- Exclusion of attempt protocol owners in every interleaving. -/
theorem attemptProtocol_exclusive (actions : List ProtocolControllerAction) :
    -- each attempt has at most one owner
    (∀ key owner other, ((after actions).guard.sameOwner key owner).isSome = true →
        ((after actions).guard.sameOwner key other).isSome = true → owner = other) ∧
      (∀ call other key terminal otherTerminal,
        (after actions).calls call = some (.usingTerminal key terminal) →
          ((∀ owner, ((after actions).guard.sameOwner key owner).isSome = false) ∧
            ((after actions).calls other = some (.usingTerminal key otherTerminal) →
              call = other))) ∧
      -- an append overlaps a terminal use only after its owner was released in the append
      (∀ call other key owner terminal, (after actions).Appends call key owner →
        (after actions).calls other = some (.usingTerminal key terminal) →
          ReleasedInAppend actions call key owner) ∧
      -- no terminal use begins while the owner has committed its intent
      (∀ key owner,
        (after actions).guard.owners.lookup key = some (.protocolOwner owner) →
          owner.phase = .intentCommitted → ∀ action call current terminal,
            (after (actions ++ [action])).calls call = some current →
              current.terminal? ≠ some (key, terminal)) ∧
      -- a displaced owner is restored unless it was released meanwhile
      (∀ later key terminal owner call, (after actions).Retains key terminal owner →
        (after (actions ++ later)).calls call = some (.releasingTerminal key terminal) →
          (after (actions ++ later ++ [.move call .resume])).guard.owners.lookup key =
              some (.protocolOwner owner) ∨
            ∃ middle action rest, later = middle ++ action :: rest ∧
              ReleaseStep (after (actions ++ middle)) action key owner.released) ∧
      -- no wake-up of a waiter for a free attempt is lost
      ∀ call waiter key, (after actions).calls call = some waiter → waiter.waits? = some key →
        (after actions).guard.owners.lookup key = none →
          ((after actions).guard.resume waiter).isSome = true ∨
            ∃ other blocker, (after actions).calls other = some blocker ∧
              Unblocks blocker waiter ∧
                (((after actions).guard.resume blocker).isSome = true ∨
                  blocker.append?.isSome = true) := by
  have sound := after_sound actions
  have excludes : ∀ {call key terminal owner},
      (after actions).calls call = some (.usingTerminal key terminal) →
        ((after actions).guard.sameOwner key owner).isSome = false := by
    intro call key terminal owner called
    obtain ⟨preemption, owned⟩ := sound.terminalOwned called rfl
    simp [sameOwner, owned]
  refine ⟨?_, ?_, ?_, ?_, ?_, ?_⟩
  · intro key owner other owned otherOwned
    obtain ⟨found, same⟩ := Option.isSome_iff_exists.mp owned
    obtain ⟨otherFound, otherSame⟩ := Option.isSome_iff_exists.mp otherOwned
    obtain ⟨lookup, rfl⟩ := sameOwner_eq_some same
    obtain ⟨otherLookup, rfl⟩ := sameOwner_eq_some otherSame
    rw [lookup] at otherLookup
    obtain rfl := GuardOwner.protocolOwner.inj (Option.some.inj otherLookup)
    rfl
  · intro call other key terminal otherTerminal called
    refine ⟨fun owner => excludes called, fun otherCalled => ?_⟩
    obtain ⟨preemption, owned⟩ := sound.terminalOwned called rfl
    obtain ⟨otherPreemption, otherOwned⟩ := sound.terminalOwned otherCalled rfl
    rw [owned] at otherOwned
    cases otherOwned
    exact sound.terminalUnique called otherCalled rfl rfl
  · intro call other key owner terminal appends called
    obtain owned | released := owner_or_releasedInAppend actions appends
    · rw [excludes called] at owned
      contradiction
    · exact released
  · intro key owner owned committed action call current terminal called
    rw [after_append, Machine.run_cons, Machine.run_nil] at called
    exact sound.committed_excludes owned committed action called
  · intro later key terminal owner call retains ending
    exact restored_or_released actions later retains ending
  · intro call waiter key called waits free
    obtain proceeds | ⟨other, blocker, found, unblocks⟩ := sound.waiter_proceeds called waits free
    · exact Or.inl proceeds
    · exact Or.inr ⟨other, blocker, found, unblocks, unblocks.moves _⟩

namespace ReleaseInAppend

def attempt : PlannedAttemptExecutorCorrelation := ⟨⟨"attempt"⟩, ⟨"run", by simp⟩⟩

def actions : List ProtocolControllerAction :=
  [.begin (.reserve attempt), .move 0 .resume, .begin (.guarded .recordFact attempt 0),
    .move 1 .resume, .move 1 .resume, .begin (.release attempt 0), .move 2 .resume,
    .begin (.withTerminalPermit attempt), .move 3 .resume, .move 3 .resume]

theorem appends : (after actions).Appends 1 (plannedAttemptProtocolGuardKey attempt) 0 :=
  ⟨.appending .recordFact (plannedAttemptProtocolGuardKey attempt) 0, by decide, rfl⟩

theorem usesTerminal : (after actions).calls 3 =
    some (.usingTerminal (plannedAttemptProtocolGuardKey attempt) 1) := by
  decide

/-- The append of the released owner runs beside the terminal use. -/
theorem append_overlaps_terminal :
    ¬ ∀ actions call other key owner terminal, (after actions).Appends call key owner →
      (after actions).calls other ≠ some (.usingTerminal key terminal) := by
  intro excluded
  exact excluded actions 1 3 _ 0 1 appends usesTerminal

/-- The overlap is explained by the release. -/
theorem overlap_released_in_append :
    ReleasedInAppend actions 1 (plannedAttemptProtocolGuardKey attempt) 0 :=
  (attemptProtocol_exclusive actions).2.2.1 1 3 _ 0 1 appends usesTerminal

end ReleaseInAppend

end ProtocolControllerState

end Dalph
