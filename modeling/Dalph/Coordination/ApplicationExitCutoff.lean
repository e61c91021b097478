import Dalph.Coordination.ApplicationExit

/-!
# Finality of the Exit cutoff

After the first Exit request nothing is admitted, every request joins one cutoff, the signal of
released owners is completed exactly when the last owner is gone, and a produced boundary result is
recorded before its run ends.
-/

namespace Dalph

variable {Value : Type}

namespace ApplicationExitCall

def pendsDrain : Option (ApplicationExitCall Value) → Bool
  | some .drained | some (.exitDraining _) | some (.exitDecided _ true) => true
  | _ => false

def exitRequest : Option (ApplicationExitCall Value) → Option (Nat × Bool)
  | some (.exitDecided cutoffAt _) | some (.exitDraining cutoffAt) => some (cutoffAt, true)
  | some (.ended (.exitRequest cutoffAt first)) => some (cutoffAt, first)
  | _ => none

end ApplicationExitCall

open ApplicationExitCall

namespace ApplicationExitState

variable {state next : ApplicationExitState Value} {action : ApplicationExitAction Value}

def Drained (state : ApplicationExitState Value) : Prop :=
  state.phase ≠ .serving ∧ KeyedMap.size state.owners = 0

/-- What the move of a call does to the recorded results. -/
inductive RecordingStep (state next : ApplicationExitState Value) (call : Nat)
    (later : ApplicationExitCall Value) : Prop
  | outside (other : ∀ ownerId intent value,
        state.calls call ≠ some (.produced ownerId intent value))
      (same : next.recordedResults = state.recordedResults)
  | failed (failure : later = .ended .recordingFailed)
      (same : next.recordedResults = state.recordedResults)
  | recorded (ownerId : Nat) (intent : InterruptibleBoundaryIntent) (value : Value)
      (found : state.calls call = some (.produced ownerId intent value))
      (appended : next.recordedResults = state.recordedResults ++ [(call, value)])

structure Moves (state next : ApplicationExitState Value) (call : Nat)
    (later : ApplicationExitCall Value) : Prop where
  calls : next.calls = Function.update state.calls call (some later)
  counted : (call = state.nextCall ∧ next.nextCall = state.nextCall + 1) ∨
    ((state.calls call).isSome = true ∧ next.nextCall = state.nextCall)
  live : ∀ outcome, state.calls call ≠ some (.ended outcome)
  recording : RecordingStep state next call later

def Fresh (state : ApplicationExitState Value) : Prop :=
  ∀ call, state.nextCall ≤ call → state.calls call = none

theorem Fresh.atNext (fresh : state.Fresh) : state.calls state.nextCall = none :=
  fresh _ le_rfl

theorem Fresh.moves_begin (fresh : state.Fresh) (later : ApplicationExitCall Value)
    (calls : next.calls = state.calls) (counted : next.nextCall = state.nextCall)
    (recorded : next.recordedResults = state.recordedResults) :
    Moves state (next.begin later) state.nextCall later where
  calls := by simp [begin, setCall, calls, counted]
  counted := Or.inl ⟨rfl, by simp [begin, setCall, counted]⟩
  live := by simp [fresh.atNext]
  recording := .outside (by simp [fresh.atNext]) recorded

variable {call : Nat}

theorem moves_setCall {current : ApplicationExitCall Value} (later : ApplicationExitCall Value)
    (found : state.calls call = some current) (live : ∀ outcome, current ≠ .ended outcome)
    (other : ∀ ownerId intent value, current ≠ .produced ownerId intent value)
    (calls : next.calls = state.calls) (counted : next.nextCall = state.nextCall)
    (recorded : next.recordedResults = state.recordedResults) :
    Moves state (next.setCall call later) call later where
  calls := by simp [setCall, calls]
  counted := Or.inr ⟨by simp [found], counted⟩
  live := by simpa [found] using live
  recording := .outside (by simpa [found] using other) recorded

/-- What a step can do to the phase, the owners, the signal of released owners and the calls. -/
inductive StepEffect (state next : ApplicationExitState Value) : Prop
  | unchanged (same : next = state)
  | quiet (call : Nat) (later : ApplicationExitCall Value) (moves : Moves state next call later)
      (phase : next.phase = state.phase)
      (owners : state.phase = .serving ∨
        (KeyedMap.size next.owners = 0 ↔ KeyedMap.size state.owners = 0))
      (released : next.forwardOwnersReleased = state.forwardOwnersReleased)
      (pends : pendsDrain (state.calls call) = false) (laterPends : pendsDrain (some later) = false)
      (request : exitRequest (state.calls call) = none)
      (laterRequest : exitRequest (some later) = none)
  | drainedNow (cutoffAt : Nat) (phase : state.phase = .exiting cutoffAt)
      (nextPhase : next.phase = state.phase) (owned : KeyedMap.size state.owners ≠ 0)
      (empty : KeyedMap.size next.owners = 0)
      (released : next.forwardOwnersReleased = state.forwardOwnersReleased)
      (moves : Moves state next state.nextCall .drained)
  | exitBegan (cutoffAt : Nat) (phase : state.phase = .serving)
      (nextPhase : next.phase = .exiting cutoffAt) (owners : next.owners = state.owners)
      (released : next.forwardOwnersReleased = state.forwardOwnersReleased)
      (moves : Moves state next state.nextCall
        (.exitDecided cutoffAt (KeyedMap.size state.owners = 0)))
  | exitJoined (cutoffAt : Nat) (phase : state.phase = .exiting cutoffAt)
      (nextPhase : next.phase = state.phase) (owners : next.owners = state.owners)
      (released : next.forwardOwnersReleased = state.forwardOwnersReleased)
      (moves : Moves state next state.nextCall (.ended (.exitRequest cutoffAt false)))
  | signalled (call cutoffAt : Nat) (ownersDrained : Bool)
      (found : state.calls call = some (.exitDecided cutoffAt ownersDrained))
      (nextPhase : next.phase = state.phase) (owners : next.owners = state.owners)
      (released : next.forwardOwnersReleased = state.forwardOwnersReleased)
      (moves : Moves state next call
        (if ownersDrained then .exitDraining cutoffAt else .ended (.exitRequest cutoffAt true)))
  | completed (call : Nat) (later : ApplicationExitCall Value) (moves : Moves state next call later)
      (pends : pendsDrain (state.calls call) = true) (laterPends : pendsDrain (some later) = false)
      (request : exitRequest (some later) = exitRequest (state.calls call))
      (nextPhase : next.phase = state.phase) (owners : next.owners = state.owners)
      (released : next.forwardOwnersReleased = true)

theorem effect_answer (fresh : state.Fresh) {outcome : ApplicationExitOutcome Value}
    {owners : KeyedMap Nat ForwardOwnerState} {nextOwnerId : Nat}
    (kept : state.phase = .serving ∨ (KeyedMap.size owners = 0 ↔ KeyedMap.size state.owners = 0))
    (other : exitRequest (some (.ended outcome : ApplicationExitCall Value)) = none) :
    StepEffect state (({ state with nextOwnerId, owners }).answer outcome).2 :=
  .quiet state.nextCall (.ended outcome) (fresh.moves_begin _ rfl rfl rfl) rfl kept rfl
    (by rw [fresh.atNext]; rfl) rfl (by rw [fresh.atNext]; rfl) other

theorem size_updateInterruptibleBoundary (ownerId : Nat)
    (boundary : InterruptibleBoundaryOwnerSnapshot) :
    KeyedMap.size (state.updateInterruptibleBoundary ownerId boundary).owners =
      KeyedMap.size state.owners := by
  unfold updateInterruptibleBoundary
  split
  · next found => exact KeyedMap.size_insert_of_lookup found
  · rfl

theorem updateInterruptibleBoundary_eq (ownerId : Nat)
    (boundary : InterruptibleBoundaryOwnerSnapshot) :
    state.updateInterruptibleBoundary ownerId boundary =
      { state with owners := (state.updateInterruptibleBoundary ownerId boundary).owners } := by
  unfold updateInterruptibleBoundary
  split <;> rfl

variable {later : ApplicationExitCall Value}

theorem effect_setCall {current : ApplicationExitCall Value}
    {owners : KeyedMap Nat ForwardOwnerState} {exitRequested : Bool}
    (found : state.calls call = some current) (live : ∀ outcome, current ≠ .ended outcome)
    (other : ∀ ownerId intent value, current ≠ .produced ownerId intent value)
    (kept : KeyedMap.size owners = KeyedMap.size state.owners)
    (pends : pendsDrain (some current) = false) (laterPends : pendsDrain (some later) = false)
    (request : exitRequest (some current) = none) (laterRequest : exitRequest (some later) = none) :
    StepEffect state (({ state with owners, exitRequested }).setCall call later) :=
  .quiet call later (moves_setCall later found live other rfl rfl rfl) rfl
    (Or.inr (by show KeyedMap.size owners = 0 ↔ _; rw [kept])) rfl (by rw [found]; exact pends)
    laterPends (by rw [found]; exact request) laterRequest

theorem resume_effect (call : Nat) : StepEffect state (state.resume call).2 := by
  unfold resume
  split
  · next found =>
    exact .completed call _ (moves_setCall _ found nofun nofun rfl rfl rfl) (by rw [found]; rfl) rfl
      (by rw [found]; rfl) rfl rfl rfl
  · next cutoffAt ownersDrained found =>
    split
    · next drained =>
      exact .signalled call cutoffAt ownersDrained found rfl rfl rfl
        (by rw [if_pos drained]; exact moves_setCall _ found nofun nofun rfl rfl rfl)
    · next owned =>
      exact .signalled call cutoffAt ownersDrained found rfl rfl rfl
        (by rw [if_neg owned]; exact moves_setCall _ found nofun nofun rfl rfl rfl)
  · next cutoffAt found =>
    exact .completed call _ (moves_setCall _ found nofun nofun rfl rfl rfl) (by rw [found]; rfl) rfl
      (by rw [found]; rfl) rfl rfl rfl
  · next found =>
    split
    · exact effect_setCall found nofun nofun rfl rfl rfl rfl rfl
    · exact .unchanged rfl
  iterate 3
    next found =>
      rw [updateInterruptibleBoundary_eq]
      exact effect_setCall found nofun nofun (size_updateInterruptibleBoundary _ _) rfl rfl rfl rfl
  iterate 2
    next found => split <;> exact effect_setCall found nofun nofun rfl rfl rfl rfl rfl
  · exact .unchanged rfl

theorem effectReturns_effect (call : Nat) (value : Value) :
    StepEffect state (state.effectReturns call value).2 := by
  unfold effectReturns
  split
  · next found => exact effect_setCall found nofun nofun rfl rfl rfl rfl rfl
  · next ownerId intent result found =>
    refine .quiet call _ ⟨rfl, Or.inr ⟨by simp [found], rfl⟩, by simp [found], ?_⟩ rfl (Or.inr Iff.rfl) rfl
      (by rw [found]; rfl) rfl (by rw [found]; rfl) rfl
    exact .recorded ownerId intent result found rfl
  · next found => exact effect_setCall found nofun nofun rfl rfl rfl rfl rfl
  · exact .unchanged rfl

theorem effectFails_effect (call : Nat) : StepEffect state (state.effectFails call).2 := by
  unfold effectFails
  split
  · next found => exact effect_setCall found nofun nofun rfl rfl rfl rfl rfl
  · next found =>
    refine .quiet call _ ⟨rfl, Or.inr ⟨by simp [found], rfl⟩, by simp [found], ?_⟩ rfl (Or.inr Iff.rfl) rfl
      (by rw [found]; rfl) rfl (by rw [found]; rfl) rfl
    exact .failed rfl rfl
  · next found => exact effect_setCall found nofun nofun rfl rfl rfl rfl rfl
  · exact .unchanged rfl

theorem interrupt_effect (call : Nat) : StepEffect state (state.interrupt call).2 := by
  unfold interrupt
  split
  iterate 4
    next found => exact effect_setCall found nofun nofun rfl rfl rfl rfl rfl
  · exact .unchanged rfl

theorem exists_cutoff {phase : ApplicationExitPhase} (exiting : phase ≠ .serving) :
    ∃ cutoffAt, phase = .exiting cutoffAt := by
  cases phase with
  | serving => contradiction
  | exiting cutoffAt => exact ⟨cutoffAt, rfl⟩

theorem removeOwner_effect (fresh : state.Fresh) (ownerId : Nat) :
    StepEffect state (state.removeOwner ownerId).2 := by
  unfold removeOwner
  split
  · exact effect_answer fresh (Or.inr Iff.rfl) rfl
  · next found =>
    have owned : KeyedMap.size state.owners ≠ 0 := by
      intro empty
      simp [KeyedMap.size_eq_zero.mp empty ownerId] at found
    simp only
    split
    · next last =>
      obtain ⟨cutoffAt, phase⟩ := exists_cutoff last.1
      exact .drainedNow cutoffAt phase rfl owned last.2 rfl (fresh.moves_begin _ rfl rfl rfl)
    · next remains =>
      refine effect_answer fresh ?_ rfl
      by_cases serving : state.phase = .serving
      · exact Or.inl serving
      · have nonempty : KeyedMap.size (state.owners.erase ownerId) ≠ 0 :=
          fun empty => remains ⟨serving, empty⟩
        exact Or.inr ⟨fun empty => absurd empty nonempty, fun empty => absurd empty owned⟩

theorem step_effect (fresh : state.Fresh) (action : ApplicationExitAction Value) :
    StepEffect state (step action state).2 := by
  cases action with
  | prepareForwardOwner kind =>
      simp only [step, prepareForwardOwner]
      split
      · exact effect_answer fresh (Or.inr Iff.rfl) rfl
      · next serving => exact effect_answer fresh (Or.inl serving) rfl
  | register ownerId =>
      simp only [step, register]
      split
      · next serving _ => exact effect_answer fresh (Or.inl serving) rfl
      · exact effect_answer fresh (Or.inr Iff.rfl) rfl
  | removeOwner ownerId => exact removeOwner_effect fresh ownerId
  | requestExit requestedAt =>
      simp only [step, requestExit]
      split
      · next cutoffAt exiting =>
        exact .exitJoined cutoffAt exiting rfl rfl rfl (fresh.moves_begin _ rfl rfl rfl)
      · next serving =>
        exact .exitBegan requestedAt serving rfl rfl rfl (fresh.moves_begin _ rfl rfl rfl)
  | runInterruptibleBoundary ownerId intent =>
      simp only [step, runInterruptibleBoundary]
      split
      · next serving _ =>
        split
        · exact .quiet state.nextCall _ (fresh.moves_begin _ rfl rfl rfl) rfl (Or.inl serving) rfl
            (by rw [fresh.atNext]; rfl) rfl (by rw [fresh.atNext]; rfl) rfl
        · exact effect_answer fresh (Or.inr Iff.rfl) rfl
      · exact effect_answer fresh (Or.inr Iff.rfl) rfl
  | runAtomicBoundary ownerId =>
      simp only [step, runAtomicBoundary]
      split
      · exact .quiet state.nextCall _ (fresh.moves_begin _ rfl rfl rfl) rfl (Or.inr Iff.rfl) rfl
          (by rw [fresh.atNext]; rfl) rfl (by rw [fresh.atNext]; rfl) rfl
      · exact effect_answer fresh (Or.inr Iff.rfl) rfl
  | resume call => exact resume_effect call
  | effectReturns call value => exact effectReturns_effect call value
  | effectFails call => exact effectFails_effect call
  | interrupt call => exact interrupt_effect call

/-- What holds in every reachable state. -/
structure Sound (state : ApplicationExitState Value) : Prop where
  fresh : state.Fresh
  /-- The signal is completed only when exiting without owners. -/
  drained : state.forwardOwnersReleased = true → state.Drained
  /-- Whoever has to complete the signal has seen the last owner go. -/
  pending : ∀ {call}, pendsDrain (state.calls call) = true → state.Drained
  /-- Once drained, the signal is completed or a call has to complete it. -/
  signalled : state.Drained → state.forwardOwnersReleased = true ∨
    ∃ call, pendsDrain (state.calls call) = true
  /-- Every request returns the cutoff of the phase. -/
  cutoff : ∀ {call cutoffAt first}, exitRequest (state.calls call) = some (cutoffAt, first) →
    state.phase = .exiting cutoffAt
  firstUnique : ∀ {call other cutoffAt otherCutoffAt},
    exitRequest (state.calls call) = some (cutoffAt, true) →
      exitRequest (state.calls other) = some (otherCutoffAt, true) → call = other
  firstExists : ∀ {cutoffAt}, state.phase = .exiting cutoffAt →
    ∃ call, exitRequest (state.calls call) = some (cutoffAt, true)

theorem sound_make : (makeApplicationExitLifecycle : ApplicationExitState Value).Sound where
  fresh _ _ := rfl
  drained completed := by simp [makeApplicationExitLifecycle] at completed
  pending pends := by simp [makeApplicationExitLifecycle, pendsDrain] at pends
  signalled drained := by simp [Drained, makeApplicationExitLifecycle] at drained
  cutoff request := by simp [makeApplicationExitLifecycle, exitRequest] at request
  firstUnique request := by simp [makeApplicationExitLifecycle, exitRequest] at request
  firstExists phase := by simp [makeApplicationExitLifecycle] at phase

theorem Moves.fresh (moves : Moves state next call later) (fresh : state.Fresh) : next.Fresh := by
  intro other beyond
  rw [moves.calls, Function.update_apply, if_neg]
  · obtain ⟨-, counted⟩ | ⟨-, counted⟩ := moves.counted
    · exact fresh other (by omega)
    · exact fresh other (by omega)
  · rintro rfl
    obtain ⟨isNext, counted⟩ | ⟨started, counted⟩ := moves.counted
    · omega
    · rw [fresh other (by omega)] at started
      contradiction

section

variable (fresh : state.Fresh) (action : ApplicationExitAction Value)
include fresh

theorem step_fresh : (step action state).2.Fresh := by
  cases step_effect fresh action with
  | unchanged same => rwa [same]
  | quiet _ _ moves => exact moves.fresh fresh
  | drainedNow _ _ _ _ _ _ moves => exact moves.fresh fresh
  | exitBegan _ _ _ _ _ moves => exact moves.fresh fresh
  | exitJoined _ _ _ _ _ moves => exact moves.fresh fresh
  | signalled _ _ _ _ _ _ _ moves => exact moves.fresh fresh
  | completed _ _ moves => exact moves.fresh fresh

theorem step_phase : (step action state).2.phase = state.phase ∨ state.phase = .serving := by
  cases step_effect fresh action with
  | unchanged same => exact Or.inl (by rw [same])
  | quiet _ _ _ phase => exact Or.inl phase
  | drainedNow _ _ nextPhase => exact Or.inl nextPhase
  | exitBegan _ phase => exact Or.inr phase
  | exitJoined _ _ nextPhase => exact Or.inl nextPhase
  | signalled _ _ _ _ nextPhase => exact Or.inl nextPhase
  | completed _ _ _ _ _ _ nextPhase => exact Or.inl nextPhase

theorem step_drained (drained : state.Drained) : (step action state).2.Drained := by
  obtain ⟨exiting, empty⟩ := drained
  cases step_effect fresh action with
  | unchanged same =>
      rw [same]
      exact ⟨exiting, empty⟩
  | quiet _ _ _ phase owners =>
      exact ⟨phase ▸ exiting, (owners.resolve_left exiting).mpr empty⟩
  | drainedNow _ _ _ owned => exact absurd empty owned
  | exitBegan _ phase => exact absurd phase exiting
  | exitJoined _ _ nextPhase owners => exact ⟨nextPhase ▸ exiting, owners ▸ empty⟩
  | signalled _ _ _ _ nextPhase owners => exact ⟨nextPhase ▸ exiting, owners ▸ empty⟩
  | completed _ _ _ _ _ _ nextPhase owners => exact ⟨nextPhase ▸ exiting, owners ▸ empty⟩

end

section Moved

variable {call other : Nat} {later : ApplicationExitCall Value}

section

variable (moves : Moves state next call later)
include moves

theorem Moves.pends (pends : pendsDrain (next.calls other) = true) :
    (other = call ∧ pendsDrain (some later) = true) ∨
      (other ≠ call ∧ pendsDrain (state.calls other) = true) := by
  rw [moves.calls, Function.update_apply] at pends
  split at pends
  · next same => exact Or.inl ⟨same, pends⟩
  · next apart => exact Or.inr ⟨apart, pends⟩

theorem Moves.request (other : Nat) :
    exitRequest (next.calls other) =
      if other = call then exitRequest (some later) else exitRequest (state.calls other) := by
  rw [moves.calls, Function.update_apply]
  split <;> rfl

theorem Moves.call_self : next.calls call = some later := by
  rw [moves.calls, Function.update_self]

theorem Moves.call_other (apart : other ≠ call) : next.calls other = state.calls other := by
  rw [moves.calls, Function.update_of_ne apart]

end

end Moved

section

variable (sound : state.Sound) (action : ApplicationExitAction Value)
include sound

theorem Sound.drained_step (completed : (step action state).2.forwardOwnersReleased = true) :
    (step action state).2.Drained := by
  apply step_drained sound.fresh
  cases step_effect sound.fresh action with
  | unchanged same => exact sound.drained (by rwa [same] at completed)
  | quiet _ _ _ _ _ released => exact sound.drained (by rwa [released] at completed)
  | drainedNow _ _ _ _ _ released => exact sound.drained (by rwa [released] at completed)
  | exitBegan _ _ _ _ released => exact sound.drained (by rwa [released] at completed)
  | exitJoined _ _ _ _ released => exact sound.drained (by rwa [released] at completed)
  | signalled _ _ _ _ _ _ released => exact sound.drained (by rwa [released] at completed)
  | completed _ _ _ pends => exact sound.pending pends

theorem Sound.pending_step (pends : pendsDrain ((step action state).2.calls call) = true) :
    (step action state).2.Drained := by
  have old : pendsDrain (state.calls call) = true → (step action state).2.Drained :=
    fun before => step_drained sound.fresh action (sound.pending before)
  cases step_effect sound.fresh action with
  | unchanged same => exact old (by rwa [same] at pends)
  | quiet _ _ moves _ _ _ _ laterPends =>
      obtain ⟨-, now⟩ | ⟨-, before⟩ := moves.pends pends
      · rw [laterPends] at now
        contradiction
      · exact old before
  | drainedNow cutoffAt phase nextPhase _ empty =>
      exact ⟨by simp [nextPhase, phase], empty⟩
  | exitBegan cutoffAt _ nextPhase owners _ moves =>
      obtain ⟨-, now⟩ | ⟨-, before⟩ := moves.pends pends
      · refine ⟨by simp [nextPhase], ?_⟩
        rw [owners]
        cases empty : decide (KeyedMap.size state.owners = 0) with
        | true => exact of_decide_eq_true empty
        | false => simp [empty, pendsDrain] at now
      · exact old before
  | exitJoined _ _ _ _ _ moves =>
      obtain ⟨-, now⟩ | ⟨-, before⟩ := moves.pends pends
      · simp [pendsDrain] at now
      · exact old before
  | signalled caller cutoffAt ownersDrained found _ _ _ moves =>
      obtain ⟨-, now⟩ | ⟨-, before⟩ := moves.pends pends
      · cases ownersDrained with
        | true =>
            exact step_drained sound.fresh action
              (sound.pending (show pendsDrain (state.calls caller) = true by rw [found]; rfl))
        | false => simp [pendsDrain] at now
      · exact old before
  | completed _ _ moves _ laterPends =>
      obtain ⟨-, now⟩ | ⟨-, before⟩ := moves.pends pends
      · rw [laterPends] at now
        contradiction
      · exact old before

/-- The signal is never lost: the step that drains leaves a call that completes it. -/
theorem Sound.signalled_step (drained : (step action state).2.Drained) :
    (step action state).2.forwardOwnersReleased = true ∨
      ∃ call, pendsDrain ((step action state).2.calls call) = true := by
  obtain ⟨exiting, empty⟩ := drained
  cases step_effect sound.fresh action with
  | unchanged same =>
      rw [same] at exiting empty ⊢
      exact sound.signalled ⟨exiting, empty⟩
  | quiet call later moves phase owners released pends laterPends =>
      have wasExiting : state.phase ≠ .serving := phase ▸ exiting
      obtain completed | ⟨pendingCall, pending⟩ :=
        sound.signalled ⟨wasExiting, (owners.resolve_left wasExiting).mp empty⟩
      · exact Or.inl (by rwa [released])
      · refine Or.inr ⟨pendingCall, ?_⟩
        rwa [moves.call_other]
        rintro rfl
        rw [pends] at pending
        contradiction
  | drainedNow _ _ _ _ _ _ moves =>
      exact Or.inr ⟨state.nextCall, by rw [moves.call_self]; rfl⟩
  | exitBegan cutoffAt _ _ owners _ moves =>
      refine Or.inr ⟨state.nextCall, ?_⟩
      rw [owners] at empty
      rw [moves.call_self]
      simp [empty, pendsDrain]
  | exitJoined cutoffAt phase nextPhase owners released moves =>
      rw [owners] at empty
      obtain completed | ⟨pendingCall, pending⟩ :=
        sound.signalled ⟨by simp [phase], empty⟩
      · exact Or.inl (by rwa [released])
      · refine Or.inr ⟨pendingCall, ?_⟩
        rwa [moves.call_other]
        rintro rfl
        rw [sound.fresh.atNext] at pending
        contradiction
  | signalled caller cutoffAt ownersDrained found nextPhase owners released moves =>
      rw [owners] at empty
      rw [nextPhase] at exiting
      obtain completed | ⟨pendingCall, pending⟩ := sound.signalled ⟨exiting, empty⟩
      · exact Or.inl (by rwa [released])
      · refine Or.inr ⟨pendingCall, ?_⟩
        by_cases same : pendingCall = caller
        · subst same
          rw [found] at pending
          rw [moves.call_self]
          cases ownersDrained with
          | true => rfl
          | false => simp [pendsDrain] at pending
        · rwa [moves.call_other same]
  | completed _ _ _ _ _ _ _ _ released => exact Or.inl released

end

theorem step_request (fresh : state.Fresh) (action : ApplicationExitAction Value) :
    ((step action state).2.phase = state.phase ∧
        ∀ call, exitRequest ((step action state).2.calls call) = exitRequest (state.calls call)) ∨
      (∃ cutoffAt, state.phase = .serving ∧ (step action state).2.phase = .exiting cutoffAt ∧
        ∀ call, exitRequest ((step action state).2.calls call) =
          if call = state.nextCall then some (cutoffAt, true)
          else exitRequest (state.calls call)) ∨
      ∃ cutoffAt, state.phase = .exiting cutoffAt ∧
        (step action state).2.phase = state.phase ∧
          ∀ call, exitRequest ((step action state).2.calls call) =
            if call = state.nextCall then some (cutoffAt, false)
            else exitRequest (state.calls call) := by
  cases step_effect fresh action with
  | unchanged same => exact Or.inl ⟨by rw [same], fun call => by rw [same]⟩
  | quiet caller _ moves phase _ _ _ _ request laterRequest =>
      refine Or.inl ⟨phase, fun call => ?_⟩
      rw [moves.request, laterRequest]
      split
      · next same => rw [same, request]
      · rfl
  | drainedNow _ _ nextPhase _ _ _ moves =>
      refine Or.inl ⟨nextPhase, fun call => ?_⟩
      rw [moves.request]
      split
      · next same => rw [same, fresh.atNext]; rfl
      · rfl
  | exitBegan cutoffAt phase nextPhase _ _ moves =>
      exact Or.inr (Or.inl ⟨cutoffAt, phase, nextPhase, moves.request⟩)
  | exitJoined cutoffAt phase nextPhase _ _ moves =>
      exact Or.inr (Or.inr ⟨cutoffAt, phase, nextPhase, moves.request⟩)
  | signalled caller cutoffAt ownersDrained found nextPhase _ _ moves =>
      refine Or.inl ⟨nextPhase, fun call => ?_⟩
      rw [moves.request]
      split
      · next same =>
        rw [same, found]
        cases ownersDrained <;> rfl
      · rfl
  | completed caller later moves _ _ request nextPhase =>
      refine Or.inl ⟨nextPhase, fun call => ?_⟩
      rw [moves.request]
      split
      · next same => rw [same, request]
      · rfl

section

variable (sound : state.Sound) (action : ApplicationExitAction Value)
include sound

theorem Sound.cutoff_step {cutoffAt : Nat} {first : Bool}
    (request : exitRequest ((step action state).2.calls call) = some (cutoffAt, first)) :
    (step action state).2.phase = .exiting cutoffAt := by
  obtain ⟨phase, requests⟩ | ⟨began, serving, phase, requests⟩ | ⟨joined, exiting, phase, requests⟩ :=
    step_request sound.fresh action
  · rw [requests] at request
    rw [phase]
    exact sound.cutoff request
  · rw [requests] at request
    split at request
    · obtain ⟨rfl, -⟩ := Prod.mk.inj (Option.some.inj request)
      exact phase
    · rw [sound.cutoff request] at serving
      contradiction
  · rw [requests] at request
    rw [phase]
    split at request
    · obtain ⟨rfl, -⟩ := Prod.mk.inj (Option.some.inj request)
      exact exiting
    · exact sound.cutoff request

theorem Sound.firstUnique_step {other cutoffAt otherCutoffAt : Nat}
    (request : exitRequest ((step action state).2.calls call) = some (cutoffAt, true))
    (otherRequest : exitRequest ((step action state).2.calls other) = some (otherCutoffAt, true)) :
    call = other := by
  obtain ⟨-, requests⟩ | ⟨began, serving, -, requests⟩ | ⟨joined, exiting, -, requests⟩ :=
    step_request sound.fresh action
  · rw [requests] at request otherRequest
    exact sound.firstUnique request otherRequest
  · have noRequest : ∀ {earlier found},
        exitRequest (state.calls earlier) = some found → False := by
      intro earlier found present
      have phase := sound.cutoff (show exitRequest (state.calls earlier) = some (found.1, found.2)
        from present)
      rw [serving] at phase
      contradiction
    rw [requests] at request otherRequest
    split at request
    · next same =>
      split at otherRequest
      · next otherSame => exact same.trans otherSame.symm
      · exact (noRequest otherRequest).elim
    · exact (noRequest request).elim
  · rw [requests] at request otherRequest
    split at request
    · simp at request
    · split at otherRequest
      · simp at otherRequest
      · exact sound.firstUnique request otherRequest

theorem Sound.firstExists_step {cutoffAt : Nat}
    (exiting : (step action state).2.phase = .exiting cutoffAt) :
    ∃ call, exitRequest ((step action state).2.calls call) = some (cutoffAt, true) := by
  obtain ⟨phase, requests⟩ | ⟨began, -, phase, requests⟩ | ⟨joined, -, phase, requests⟩ :=
    step_request sound.fresh action
  · rw [phase] at exiting
    obtain ⟨call, request⟩ := sound.firstExists exiting
    exact ⟨call, by rw [requests, request]⟩
  · rw [exiting] at phase
    cases phase
    exact ⟨state.nextCall, by rw [requests, if_pos rfl]⟩
  · rw [phase] at exiting
    obtain ⟨call, request⟩ := sound.firstExists exiting
    refine ⟨call, ?_⟩
    rw [requests, if_neg, request]
    rintro rfl
    rw [sound.fresh.atNext] at request
    contradiction

theorem Sound.step :
    (step action state).2.Sound where
  fresh := step_fresh sound.fresh action
  drained := sound.drained_step action
  pending := sound.pending_step action
  signalled := sound.signalled_step action
  cutoff := sound.cutoff_step action
  firstUnique := sound.firstUnique_step action
  firstExists := sound.firstExists_step action

end

theorem after_sound (actions : List (ApplicationExitAction Value)) : (after actions).Sound :=
  Machine.run_preserves (fun action _ sound => sound.step action) sound_make actions

def admits : ApplicationExitAnswer Value → Bool
  | .entered | .ended (.prepared _) | .ended .registered => true
  | _ => false

theorem serving_of_admits (admitted : admits (step action state).1 = true) :
    state.phase = .serving := by
  cases action with
  | prepareForwardOwner kind =>
      simp only [step, prepareForwardOwner] at admitted
      split at admitted
      · simp [answer, admits] at admitted
      · assumption
  | register ownerId =>
      simp only [step, register] at admitted
      split at admitted
      · assumption
      · simp [answer, admits] at admitted
  | removeOwner ownerId =>
      simp only [step, removeOwner] at admitted
      split at admitted
      · simp [answer, admits] at admitted
      · split at admitted <;> simp [answer, admits] at admitted
  | requestExit requestedAt =>
      simp only [step, requestExit] at admitted
      split at admitted <;> simp [answer, admits] at admitted
  | runInterruptibleBoundary ownerId intent =>
      simp only [step, runInterruptibleBoundary] at admitted
      split at admitted
      · assumption
      · simp [answer, admits] at admitted
  | runAtomicBoundary ownerId =>
      simp only [step, runAtomicBoundary] at admitted
      split at admitted
      · assumption
      · simp [answer, admits] at admitted
  | resume call =>
      simp only [step, resume] at admitted
      split at admitted
      case h_2 | h_4 | h_8 | h_9 =>
        split at admitted <;> simp [finish, admits] at admitted
      all_goals simp [finish, admits] at admitted
  | effectReturns call value =>
      simp only [step, effectReturns] at admitted
      split at admitted <;> simp [admits] at admitted
  | effectFails call =>
      simp only [step, effectFails] at admitted
      split at admitted <;> simp [finish, admits] at admitted
  | interrupt call =>
      simp only [step, interrupt] at admitted
      split at admitted <;> simp [finish, admits] at admitted

theorem Sound.exiting_step (sound : state.Sound) (exiting : state.phase ≠ .serving)
    (action : ApplicationExitAction Value) :
    (ApplicationExitState.step action state).2.phase ≠ .serving := by
  rwa [(step_phase sound.fresh action).resolve_right exiting]

theorem admits_after_cutoff (sound : state.Sound) (exiting : state.phase ≠ .serving)
    (later : List (ApplicationExitAction Value)) :
    ∀ answer ∈ (Machine.run step state later).1, admits answer = false := by
  apply @Machine.run_answers _ _ _ step (fun state => state.Sound ∧ state.phase ≠ .serving)
  · intro action state holds
    exact ⟨holds.1.step action, holds.1.exiting_step holds.2 action⟩
  · intro action state holds
    rw [Bool.eq_false_iff]
    intro admitted
    exact holds.2 (serving_of_admits admitted)
  · exact ⟨sound, exiting⟩

theorem drained_run (sound : state.Sound) (drained : state.Drained)
    (later : List (ApplicationExitAction Value)) : (Machine.run step state later).2.Drained := by
  refine (@Machine.run_preserves _ _ _ step (fun state => state.Sound ∧ state.Drained)
    ?_ state ⟨sound, drained⟩ later).2
  intro action state holds
  exact ⟨holds.1.step action, step_drained holds.1.fresh action holds.2⟩

theorem released_of_pendsDrain (pends : pendsDrain (state.calls call) = true) :
    (Machine.run step state [.resume call, .resume call]).2.forwardOwnersReleased = true := by
  rw [pendsDrain.eq_def] at pends
  split at pends
  · next found => simp [step, resume, found, finish, setCall]
  · next found => simp [step, resume, found, finish, setCall]
  · next found => simp [step, resume, found, finish, setCall]
  · contradiction

/-- The result of a call was produced and is not yet lost: it is being recorded, was recorded, or its
recording failed. -/
def Records (state : ApplicationExitState Value) (call : Nat) (value : Value) : Prop :=
  (∃ ownerId intent, state.calls call = some (.produced ownerId intent value)) ∨
    (call, value) ∈ state.recordedResults ∨ state.calls call = some (.ended .recordingFailed)

theorem Moves.records {mover : Nat} {value : Value} (moves : Moves state next mover later)
    (records : state.Records call value) : next.Records call value := by
  have kept : state.recordedResults ⊆ next.recordedResults := by
    cases moves.recording with
    | outside _ same => exact same ▸ List.Subset.refl _
    | failed _ same => exact same ▸ List.Subset.refl _
    | recorded _ _ _ _ appended =>
        rw [appended]
        exact List.subset_append_left _ _
  obtain ⟨ownerId, intent, producing⟩ | recorded | failed := records
  · by_cases same : call = mover
    · subst same
      cases moves.recording with
      | outside other => exact absurd producing (other ownerId intent value)
      | failed failure => exact Or.inr (Or.inr (by rw [moves.call_self, failure]))
      | recorded _ _ found recordedAt appended =>
          rw [producing] at recordedAt
          obtain ⟨-, -, rfl⟩ := ApplicationExitCall.produced.inj (Option.some.inj recordedAt)
          exact Or.inr (Or.inl (by simp [appended]))
    · exact Or.inl ⟨ownerId, intent, by rw [moves.call_other same, producing]⟩
  · exact Or.inr (Or.inl (kept recorded))
  · refine Or.inr (Or.inr ?_)
    rw [moves.call_other, failed]
    rintro rfl
    exact moves.live _ failed

theorem Records.step {value : Value} (fresh : state.Fresh) (records : state.Records call value)
    (action : ApplicationExitAction Value) : (step action state).2.Records call value := by
  cases step_effect fresh action with
  | unchanged same => rwa [same]
  | quiet _ _ moves => exact moves.records records
  | drainedNow _ _ _ _ _ _ moves => exact moves.records records
  | exitBegan _ _ _ _ _ moves => exact moves.records records
  | exitJoined _ _ _ _ _ moves => exact moves.records records
  | signalled _ _ _ _ _ _ _ moves => exact moves.records records
  | completed _ _ moves => exact moves.records records

theorem records_run {value : Value} (sound : state.Sound) (records : state.Records call value)
    (later : List (ApplicationExitAction Value)) :
    (Machine.run step state later).2.Records call value := by
  refine (@Machine.run_preserves _ _ _ step (fun state => state.Sound ∧ state.Records call value)
    ?_ state ⟨sound, records⟩ later).2
  intro action state holds
  exact ⟨holds.1.step action, holds.2.step holds.1.fresh action⟩

theorem after_append (before later : List (ApplicationExitAction Value)) :
    after (before ++ later) = (Machine.run step (after before) later).2 := by
  rw [after, after, Machine.run_append]

/-- The Exit cutoff is final in every interleaving. -/
theorem applicationExit_cutoff_final (before later : List (ApplicationExitAction Value)) :
    ((after before).phase ≠ .serving →
        (after (before ++ later)).phase = (after before).phase ∧
          ∀ answer ∈ (Machine.run step (after before) later).1, admits answer = false) ∧
      (∀ call request, exitRequest ((after before).calls call) = some request →
        (∀ other otherRequest,
          exitRequest ((after before).calls other) = some otherRequest →
            otherRequest.1 = request.1) ∧
        ∃! first, exitRequest ((after before).calls first) = some (request.1, true)) ∧
      ((after before).forwardOwnersReleased = true →
        (after before).Drained ∧ (after (before ++ later)).Drained) ∧
      ((after before).Drained → (after before).forwardOwnersReleased = true ∨
        ∃ call, pendsDrain ((after before).calls call) = true ∧
          (after (before ++ [.resume call, .resume call])).forwardOwnersReleased = true) ∧
      ∀ call ownerId intent value,
        (after before).calls call = some (.produced ownerId intent value) →
          ∀ outcome, (after (before ++ later)).calls call = some (.ended outcome) →
            (call, value) ∈ (after (before ++ later)).recordedResults ∨
              outcome = .recordingFailed := by
  have sound := after_sound before
  refine ⟨?_, ?_, ?_, ?_, ?_⟩
  · intro exiting
    refine ⟨?_, admits_after_cutoff sound exiting later⟩
    obtain ⟨cutoffAt, phase⟩ := exists_cutoff exiting
    rw [after_append, phase]
    refine (@Machine.run_preserves _ _ _ step
      (fun state => state.Sound ∧ state.phase = .exiting cutoffAt) ?_ _ ⟨sound, phase⟩ later).2
    intro action state holds
    refine ⟨holds.1.step action, ?_⟩
    rw [(step_phase holds.1.fresh action).resolve_right (by simp [holds.2]), holds.2]
  · rintro call ⟨cutoffAt, first⟩ request
    have phase := sound.cutoff request
    refine ⟨?_, ?_⟩
    · rintro other ⟨otherCutoffAt, otherFirst⟩ otherRequest
      have otherPhase := sound.cutoff otherRequest
      rw [phase] at otherPhase
      exact (ApplicationExitPhase.exiting.inj otherPhase).symm
    · obtain ⟨firstCall, firstRequest⟩ := sound.firstExists phase
      exact ⟨firstCall, firstRequest, fun other otherRequest =>
        sound.firstUnique otherRequest firstRequest⟩
  · intro completed
    have drained := sound.drained completed
    refine ⟨drained, ?_⟩
    rw [after_append]
    exact drained_run sound drained later
  · intro drained
    obtain completed | ⟨call, pends⟩ := sound.signalled drained
    · exact Or.inl completed
    · refine Or.inr ⟨call, pends, ?_⟩
      rw [after_append]
      exact released_of_pendsDrain pends
  · intro call ownerId intent value produced outcome ended
    rw [after_append] at ended ⊢
    obtain ⟨_, _, producing⟩ | recorded | failed :=
      records_run sound (Or.inl ⟨ownerId, intent, produced⟩) later
    · simp [producing] at ended
    · exact Or.inl recorded
    · rw [failed] at ended
      exact Or.inr (ApplicationExitCall.ended.inj (Option.some.inj ended)).symm

def producedAtCutoff : List (ApplicationExitAction Nat) :=
  [.prepareForwardOwner .interruptibleBoundary, .register 0,
    .runInterruptibleBoundary 0 (.taskClaimCleanup ⟨"release"⟩), .effectReturns 2 5, .resume 2,
    .requestExit 7]

def recordedAfterCutoff : List (ApplicationExitAction Nat) :=
  [.resume 3, .effectReturns 2 6, .resume 2, .resume 2, .removeOwner 0, .resume 4]

/-- The recorded run ends interrupted, its result is kept, and the drain completes. -/
theorem produced_result_recorded :
    ((after producedAtCutoff).phase ≠ .serving ∧
      (after (producedAtCutoff ++ recordedAfterCutoff)).forwardOwnersReleased = true) ∧
      ((2, 5) ∈ (after (producedAtCutoff ++ recordedAfterCutoff)).recordedResults ∨
        (.interrupted : ApplicationExitOutcome Nat) = .recordingFailed) :=
  ⟨⟨by decide, by decide⟩,
    (applicationExit_cutoff_final producedAtCutoff recordedAfterCutoff).2.2.2.2 2 0
      (.taskClaimCleanup ⟨"release"⟩) 5 (by decide) .interrupted (by decide)⟩

end ApplicationExitState

end Dalph
