import Dalph.Coordination.IntegrationTargetResource

/-!
# Exclusion of integration target leases

A step does one of nine things to the leases, the semaphores and the calls in flight.  From these
cases follow the invariants of every interleaving: the maps stay inverse, a permit has one taker, and
a call loses its lease only when the lease is released in use.
-/

namespace Dalph

namespace IntegrationTargetFiber

def permitUse : Option IntegrationTargetFiber → Option IntegrationTargetPermitUse
  | some (.withPermit _ use) => some use
  | _ => none

def takenPermit : Option IntegrationTargetFiber → Option IntegrationTargetPermitUse
  | some (.withPermit .waiting _) => none
  | some (.withPermit _ use) => some use
  | _ => none

end IntegrationTargetFiber

namespace IntegrationTargetResourceState

variable {state : IntegrationTargetResourceState} {action : IntegrationTargetAction}
  {fiber other : Nat} {use otherUse : IntegrationTargetPermitUse}

def Uses (state : IntegrationTargetResourceState) (fiber : Nat)
    (use : IntegrationTargetPermitUse) : Prop :=
  IntegrationTargetFiber.permitUse (state.fibers fiber) = some use

def HasPermit (state : IntegrationTargetResourceState) (fiber : Nat)
    (use : IntegrationTargetPermitUse) : Prop :=
  IntegrationTargetFiber.takenPermit (state.fibers fiber) = some use

def RunsEffect (state : IntegrationTargetResourceState) (fiber : Nat)
    (use : IntegrationTargetPermitUse) : Prop :=
  state.fibers fiber = some (.withPermit .running use)

def Leases (state : IntegrationTargetResourceState) (use : IntegrationTargetPermitUse) : Prop :=
  ∃ lease, state.leases.byTarget.lookup use.targetKey = some lease ∧ lease.permit = use.permit

theorem RunsEffect.uses (runs : state.RunsEffect fiber use) : state.Uses fiber use := by
  rw [RunsEffect] at runs
  rw [Uses, runs]
  rfl

theorem RunsEffect.hasPermit (runs : state.RunsEffect fiber use) :
    state.HasPermit fiber use := by
  rw [RunsEffect] at runs
  rw [HasPermit, runs]
  rfl

/-- What a step can do to the leases, the semaphores and the calls in flight. -/
inductive StepEffect (action : IntegrationTargetAction) (state next : IntegrationTargetResourceState) :
    Prop
  | unchanged (leases : next.leases = state.leases) (permits : next.nextPermit = state.nextPermit)
      (taken : next.taken = state.taken) (fibers : next.fibers = state.fibers)
  | acquired (fiber : Nat) (responsibility : IntegrationTargetResourceResponsibility)
      (call : action = .acquire fiber responsibility)
      (leases : next.leases = (state.leases.acquire responsibility state.nextPermit).2)
      (permits : next.nextPermit = state.nextPermit + 1)
      (taken : next.taken = state.taken) (fibers : next.fibers = state.fibers)
  | released (fiber : Nat) (responsibility : IntegrationTargetResourceResponsibility)
      (call : action = .release fiber responsibility)
      (leases : next.leases = (state.leases.release responsibility).2)
      (permits : next.nextPermit = state.nextPermit) (taken : next.taken = state.taken)
      (left : Option IntegrationTargetFiber)
      (unused : IntegrationTargetFiber.takenPermit (state.fibers fiber) = none)
      (outside : IntegrationTargetFiber.permitUse left = none)
      (fibers : next.fibers = Function.update state.fibers fiber left)
  | releasedAll (fiber : Nat) (call : action = .releaseAll fiber)
      (leases : next.leases = emptyLeases) (permits : next.nextPermit = state.nextPermit)
      (taken : next.taken = state.taken) (left : Option IntegrationTargetFiber)
      (unused : IntegrationTargetFiber.takenPermit (state.fibers fiber) = none)
      (outside : IntegrationTargetFiber.permitUse left = none)
      (fibers : next.fibers = Function.update state.fibers fiber left)
  | found (fiber : Nat) (responsibility : IntegrationTargetResourceResponsibility)
      (lease : IntegrationTargetResourceLease)
      (exact : state.leases.exactLease responsibility = some lease)
      (unused : IntegrationTargetFiber.takenPermit (state.fibers fiber) = none)
      (leases : next.leases = state.leases) (permits : next.nextPermit = state.nextPermit)
      (taken : next.taken = state.taken)
      (fibers : next.fibers = Function.update state.fibers fiber (some (.withPermit .waiting
        ⟨integrationResponsibilityIdentity responsibility, lease.permit,
          targetKey responsibility.integrationTarget⟩)))
  | took (fiber : Nat) (use : IntegrationTargetPermitUse)
      (waits : state.fibers fiber = some (.withPermit .waiting use))
      (free : state.taken use.permit = false)
      (leases : next.leases = state.leases) (permits : next.nextPermit = state.nextPermit)
      (taken : next.taken = Function.update state.taken use.permit true)
      (fibers : next.fibers =
        Function.update state.fibers fiber (some (.withPermit .permitted use)))
  | advanced (fiber : Nat) (use : IntegrationTargetPermitUse) (later : Option IntegrationTargetFiber)
      (before : state.HasPermit fiber use)
      (after : IntegrationTargetFiber.takenPermit later = some use)
      (leases : next.leases = state.leases) (permits : next.nextPermit = state.nextPermit)
      (taken : next.taken = state.taken)
      (fibers : next.fibers = Function.update state.fibers fiber later)
  | gaveBack (fiber : Nat) (use : IntegrationTargetPermitUse) (before : state.HasPermit fiber use)
      (leases : next.leases = state.leases) (permits : next.nextPermit = state.nextPermit)
      (taken : next.taken = Function.update state.taken use.permit false)
      (fibers : next.fibers = Function.update state.fibers fiber none)
  | aside (fiber : Nat) (later : Option IntegrationTargetFiber)
      (unused : IntegrationTargetFiber.takenPermit (state.fibers fiber) = none)
      (outside : IntegrationTargetFiber.permitUse later = none)
      (leases : next.leases = state.leases) (permits : next.nextPermit = state.nextPermit)
      (taken : next.taken = state.taken)
      (fibers : next.fibers = Function.update state.fibers fiber later)

theorem takenPermit_of_not_isSome (idle : ¬ (state.fibers fiber).isSome = true) :
    IntegrationTargetFiber.takenPermit (state.fibers fiber) = none := by
  rw [Option.not_isSome_iff_eq_none.mp idle]
  rfl

theorem resumePermit_effect (stage : IntegrationTargetPermitStage)
    (suspended : state.fibers fiber = some (.withPermit stage use)) :
    StepEffect action state (state.resumePermit fiber use stage).2 := by
  have before : stage ≠ .waiting → state.HasPermit fiber use := by
    intro taken
    rw [HasPermit, suspended]
    cases stage <;> first | rfl | contradiction
  cases stage with
  | waiting =>
      simp only [resumePermit]
      split
      · exact .unchanged rfl rfl rfl rfl
      · next free => exact .took fiber use suspended (by simpa using free) rfl rfl rfl rfl
  | permitted => exact .advanced fiber use _ (before nofun) rfl rfl rfl rfl rfl
  | entering => exact .advanced fiber use _ (before nofun) rfl rfl rfl rfl rfl
  | running => exact .advanced fiber use _ (before nofun) rfl rfl rfl rfl rfl
  | leaving => exact .advanced fiber use _ (before nofun) rfl rfl rfl rfl rfl
  | returning => exact .gaveBack fiber use (before nofun) rfl rfl rfl rfl

theorem resume_effect : StepEffect action state (state.resume fiber).2 := by
  unfold resume
  split
  case h_1 => exact .unchanged rfl rfl rfl rfl
  case h_6 stage use suspended => exact resumePermit_effect stage suspended
  all_goals
    next suspended => exact .aside fiber _ (by rw [suspended]; rfl) rfl rfl rfl rfl rfl

theorem interrupt_effect : StepEffect action state (state.interrupt fiber).2 := by
  unfold interrupt
  split
  case h_1 => exact .unchanged rfl rfl rfl rfl
  case h_2 use suspended =>
    exact .advanced fiber use _ (by rw [HasPermit, suspended]; rfl) rfl rfl rfl rfl rfl
  case h_3 use suspended =>
    exact .advanced fiber use _ (by rw [HasPermit, suspended]; rfl) rfl rfl rfl rfl rfl
  case h_4 use suspended =>
    exact .advanced fiber use _ (by rw [HasPermit, suspended]; rfl) rfl rfl rfl rfl rfl
  case h_5 => exact .unchanged rfl rfl rfl rfl
  case h_6 => exact .unchanged rfl rfl rfl rfl
  case h_7 call notPermitted notEntering notRunning notLeaving notReturning suspended =>
    refine .aside fiber none ?_ rfl rfl rfl rfl rfl
    rw [suspended]
    cases call with
    | withPermit stage use => cases stage <;> simp_all [IntegrationTargetFiber.takenPermit]
    | _ => rfl

theorem step_effect (action : IntegrationTargetAction) (state : IntegrationTargetResourceState) :
    StepEffect action state (step action state).2 := by
  cases action with
  | acquire fiber responsibility =>
      simp only [step]
      split
      · exact .unchanged rfl rfl rfl rfl
      · simp only [acquire]
        split <;> exact .acquired fiber responsibility rfl rfl rfl rfl rfl
  | publishAcceptedOwnership fiber responsibility =>
      simp only [step, publishAcceptedOwnership]
      split
      · exact .unchanged rfl rfl rfl rfl
      · next idle =>
        split
        · exact .unchanged rfl rfl rfl rfl
        · exact .aside fiber _ (takenPermit_of_not_isSome idle) rfl rfl rfl rfl rfl
  | release fiber responsibility =>
      simp only [step, release]
      split
      · exact .unchanged rfl rfl rfl rfl
      · next idle =>
        split
        · exact .unchanged rfl rfl rfl rfl
        · next released =>
          exact .released fiber responsibility rfl (by simp [setFiber, released]) rfl rfl _
            (takenPermit_of_not_isSome idle) rfl rfl
  | releaseAll fiber =>
      simp only [step]
      split
      · exact .unchanged rfl rfl rfl rfl
      · next idle => exact .releasedAll fiber rfl rfl rfl rfl _ (takenPermit_of_not_isSome idle) rfl rfl
  | withPermit fiber responsibility =>
      simp only [step, withPermit]
      split
      · exact .unchanged rfl rfl rfl rfl
      · next idle =>
        split
        · exact .unchanged rfl rfl rfl rfl
        · next lease exact =>
          exact .found fiber responsibility lease exact (takenPermit_of_not_isSome idle)
            rfl rfl rfl rfl
  | resume fiber => exact resume_effect
  | interrupt fiber => exact interrupt_effect

theorem HasPermit.uses (taken : state.HasPermit fiber use) : state.Uses fiber use := by
  rw [HasPermit, IntegrationTargetFiber.takenPermit.eq_def] at taken
  rw [Uses, IntegrationTargetFiber.permitUse.eq_def]
  split at taken <;> simp_all

section Update

variable {next : IntegrationTargetResourceState} {later : Option IntegrationTargetFiber}

theorem uses_of_update (fibers : next.fibers = Function.update state.fibers fiber later)
    (uses : next.Uses other use) :
    (other = fiber ∧ IntegrationTargetFiber.permitUse later = some use) ∨
      state.Uses other use := by
  rw [Uses, fibers, Function.update_apply] at uses
  split at uses
  · next same => exact Or.inl ⟨same, uses⟩
  · exact Or.inr uses

theorem hasPermit_of_update (fibers : next.fibers = Function.update state.fibers fiber later)
    (taken : next.HasPermit other use) :
    (other = fiber ∧ IntegrationTargetFiber.takenPermit later = some use) ∨
      (other ≠ fiber ∧ state.HasPermit other use) := by
  rw [HasPermit, fibers, Function.update_apply] at taken
  split at taken
  · next same => exact Or.inl ⟨same, taken⟩
  · next apart => exact Or.inr ⟨apart, taken⟩

theorem takenPermit_eq_none (outside : IntegrationTargetFiber.permitUse later = none) :
    IntegrationTargetFiber.takenPermit later = none := by
  rw [IntegrationTargetFiber.permitUse.eq_def] at outside
  rw [IntegrationTargetFiber.takenPermit.eq_def]
  split at outside <;> simp_all

end Update

theorem step_uses (uses : (step action state).2.Uses fiber use) :
    state.Uses fiber use ∨
      ((step action state).2.leases = state.leases ∧
        (step action state).2.nextPermit = state.nextPermit ∧
          ∃ lease, state.leases.byTarget.lookup use.targetKey = some lease ∧
            lease.permit = use.permit ∧ lease.identity = use.identity) := by
  cases step_effect action state with
  | unchanged _ _ _ fibers | acquired _ _ _ _ _ _ fibers =>
      left
      rwa [Uses, fibers] at uses
  | released _ _ _ _ _ _ _ _ outside fibers | releasedAll _ _ _ _ _ _ _ outside fibers
  | aside _ _ _ outside _ _ _ fibers =>
      obtain ⟨-, later⟩ | old := uses_of_update fibers uses
      · rw [outside] at later
        contradiction
      · exact Or.inl old
  | found _ responsibility lease exact _ leases permits _ fibers =>
      obtain ⟨-, later⟩ | old := uses_of_update fibers uses
      · obtain ⟨leased, -, identity⟩ :=
          IntegrationTargetResourceLeases.exactLease_eq_some exact
        cases later
        exact Or.inr ⟨leases, permits, lease, leased, rfl, identity⟩
      · exact Or.inl old
  | took fiber' use' waits _ _ _ _ fibers =>
      left
      obtain ⟨rfl, later⟩ | old := uses_of_update fibers uses
      · rw [Uses, waits]
        exact later
      · exact old
  | advanced fiber' use' later' before after _ _ _ fibers =>
      left
      obtain ⟨rfl, later⟩ | old := uses_of_update fibers uses
      · have same : use' = use := by
          cases later' with
          | none => simp [IntegrationTargetFiber.takenPermit] at after
          | some call =>
              cases call with
              | withPermit stage moved =>
                  cases stage <;>
                    simp_all [IntegrationTargetFiber.takenPermit, IntegrationTargetFiber.permitUse]
              | _ => simp [IntegrationTargetFiber.takenPermit] at after
        subst same
        exact before.uses
      · exact old
  | gaveBack _ _ _ _ _ _ fibers =>
      obtain ⟨-, later⟩ | old := uses_of_update fibers uses
      · simp [IntegrationTargetFiber.permitUse] at later
      · exact Or.inl old

/-- Whoever has taken a permit has it alone. -/
structure SemaphoreSound (state : IntegrationTargetResourceState) : Prop where
  taken : ∀ {fiber use}, state.HasPermit fiber use → state.taken use.permit = true
  unique : ∀ {fiber use other otherUse}, state.HasPermit fiber use →
    state.HasPermit other otherUse → use.permit = otherUse.permit → fiber = other

theorem SemaphoreSound.of_hasPermit {next : IntegrationTargetResourceState}
    (sound : state.SemaphoreSound) (taken : next.taken = state.taken)
    (had : ∀ {fiber use}, next.HasPermit fiber use → state.HasPermit fiber use) :
    next.SemaphoreSound where
  taken has := by rw [taken]; exact sound.taken (had has)
  unique has otherHas := sound.unique (had has) (had otherHas)

theorem SemaphoreSound.step (sound : state.SemaphoreSound) (action : IntegrationTargetAction) :
    (step action state).2.SemaphoreSound := by
  cases step_effect action state with
  | unchanged _ _ taken fibers | acquired _ _ _ _ _ taken fibers =>
      refine sound.of_hasPermit taken fun has => ?_
      rwa [HasPermit, fibers] at has
  | released _ _ _ _ _ taken _ _ outside fibers | releasedAll _ _ _ _ taken _ _ outside fibers
  | aside _ _ _ outside _ _ taken fibers =>
      refine sound.of_hasPermit taken fun has => ?_
      obtain ⟨-, later⟩ | ⟨-, old⟩ := hasPermit_of_update fibers has
      · rw [takenPermit_eq_none outside] at later
        contradiction
      · exact old
  | found _ _ _ _ _ _ _ taken fibers =>
      refine sound.of_hasPermit taken fun has => ?_
      obtain ⟨-, later⟩ | ⟨-, old⟩ := hasPermit_of_update fibers has
      · simp [IntegrationTargetFiber.takenPermit] at later
      · exact old
  | took taker use waits free _ _ taken fibers =>
      -- No fiber had this permit, so the taker is the only one that has it now.
      have unheld : ∀ {fiber old}, state.HasPermit fiber old → old.permit ≠ use.permit := by
        intro fiber old has same
        have := sound.taken has
        rw [same, free] at this
        contradiction
      constructor
      · intro fiber found has
        rw [taken, Function.update_apply]
        obtain ⟨-, later⟩ | ⟨-, old⟩ := hasPermit_of_update fibers has
        · cases later
          simp
        · rw [if_neg (unheld old)]
          exact sound.taken old
      · intro fiber found other otherFound has otherHas same
        obtain ⟨rfl, later⟩ | ⟨-, old⟩ := hasPermit_of_update fibers has <;>
          obtain ⟨rfl, otherLater⟩ | ⟨-, otherOld⟩ := hasPermit_of_update fibers otherHas
        · rfl
        · cases later
          exact absurd same.symm (unheld otherOld)
        · cases otherLater
          exact absurd same (unheld old)
        · exact sound.unique old otherOld same
  | advanced mover use _ before after _ _ taken fibers =>
      refine sound.of_hasPermit taken fun has => ?_
      obtain ⟨rfl, later⟩ | ⟨-, old⟩ := hasPermit_of_update fibers has
      · rw [after] at later
        cases later
        exact before
      · exact old
  | gaveBack giver use before _ _ taken fibers =>
      have others : ∀ {fiber found},
          (IntegrationTargetResourceState.step action state).2.HasPermit fiber found →
            fiber ≠ giver ∧ state.HasPermit fiber found := by
        intro fiber found has
        obtain ⟨-, later⟩ | old := hasPermit_of_update fibers has
        · simp [IntegrationTargetFiber.takenPermit] at later
        · exact old
      constructor
      · intro fiber found has
        obtain ⟨apart, old⟩ := others has
        rw [taken, Function.update_apply, if_neg]
        · exact sound.taken old
        · exact fun same => apart (sound.unique old before same)
      · intro fiber found other otherFound has otherHas same
        exact sound.unique (others has).2 (others otherHas).2 same

/-- The maps are inverse, every semaphore belongs to one lease and has one taker. -/
structure Consistent (state : IntegrationTargetResourceState) : Prop where
  inverse : state.leases.MutuallyInverse
  leaseFresh : ∀ {key lease}, state.leases.byTarget.lookup key = some lease →
    lease.permit < state.nextPermit
  useFresh : ∀ {fiber use}, state.Uses fiber use → use.permit < state.nextPermit
  useOwner : ∀ {fiber use lease}, state.Uses fiber use →
    state.leases.byTarget.lookup use.targetKey = some lease → lease.permit = use.permit →
      lease.identity = use.identity
  semaphores : state.SemaphoreSound

theorem consistent_make : makeIntegrationTargetResourceController.Consistent where
  inverse := IntegrationTargetResourceLeases.mutuallyInverse_emptyLeases
  leaseFresh leased := by simp [makeIntegrationTargetResourceController, emptyLeases] at leased
  useFresh uses := by
    simp [Uses, makeIntegrationTargetResourceController, IntegrationTargetFiber.permitUse] at uses
  useOwner uses := by
    simp [Uses, makeIntegrationTargetResourceController, IntegrationTargetFiber.permitUse] at uses
  semaphores := by
    constructor
    · intro fiber use has
      simp [HasPermit, makeIntegrationTargetResourceController,
        IntegrationTargetFiber.takenPermit] at has
    · intro fiber use other otherUse has
      simp [HasPermit, makeIntegrationTargetResourceController,
        IntegrationTargetFiber.takenPermit] at has

theorem step_lease (consistent : state.Consistent) {key : String}
    {lease : IntegrationTargetResourceLease}
    (leased : (step action state).2.leases.byTarget.lookup key = some lease) :
    state.leases.byTarget.lookup key = some lease ∨
      (lease.permit = state.nextPermit ∧
        (step action state).2.nextPermit = state.nextPermit + 1) := by
  cases step_effect action state with
  | acquired _ responsibility _ leases permits =>
      obtain ⟨-, same | ⟨-, -, inserted⟩⟩ := IntegrationTargetResourceLeases.acquire_cases
        consistent.inverse responsibility state.nextPermit
      · rw [leases, same] at leased
        exact Or.inl leased
      · rw [leases, inserted, KeyedMap.lookup_insert_eq_ite] at leased
        split at leased
        · cases leased
          exact Or.inr ⟨rfl, permits⟩
        · exact Or.inl leased
  | released _ responsibility _ leases =>
      left
      rw [leases, IntegrationTargetResourceLeases.release] at leased
      split at leased
      · exact leased
      · rw [KeyedMap.lookup_erase_eq_ite] at leased
        split at leased
        · contradiction
        · exact leased
  | releasedAll _ _ leases =>
      rw [leases] at leased
      simp [emptyLeases] at leased
  | unchanged leases => exact Or.inl (by rwa [leases] at leased)
  | found _ _ _ _ _ leases => exact Or.inl (by rwa [leases] at leased)
  | took _ _ _ _ leases => exact Or.inl (by rwa [leases] at leased)
  | advanced _ _ _ _ _ leases => exact Or.inl (by rwa [leases] at leased)
  | gaveBack _ _ _ leases => exact Or.inl (by rwa [leases] at leased)
  | aside _ _ _ _ leases => exact Or.inl (by rwa [leases] at leased)

theorem nextPermit_le_step (action : IntegrationTargetAction)
    (state : IntegrationTargetResourceState) :
    state.nextPermit ≤ (step action state).2.nextPermit := by
  cases step_effect action state <;> simp_all

theorem inverse_step (inverse : state.leases.MutuallyInverse)
    (action : IntegrationTargetAction) :
    (step action state).2.leases.MutuallyInverse := by
  cases step_effect action state with
  | acquired _ responsibility _ leases =>
      rw [leases]
      exact inverse.acquire responsibility state.nextPermit
  | released _ responsibility _ leases =>
      rw [leases]
      exact inverse.release responsibility
  | releasedAll _ _ leases =>
      rw [leases]
      exact IntegrationTargetResourceLeases.mutuallyInverse_emptyLeases
  | unchanged leases => exact leases ▸ inverse
  | found _ _ _ _ _ leases => exact leases ▸ inverse
  | took _ _ _ _ leases => exact leases ▸ inverse
  | advanced _ _ _ _ _ leases => exact leases ▸ inverse
  | gaveBack _ _ _ leases => exact leases ▸ inverse
  | aside _ _ _ _ leases => exact leases ▸ inverse

theorem Consistent.step (consistent : state.Consistent) (action : IntegrationTargetAction) :
    (step action state).2.Consistent where
  inverse := inverse_step consistent.inverse action
  leaseFresh := by
    intro key lease leased
    obtain old | ⟨fresh, permits⟩ := step_lease consistent leased
    · exact lt_of_lt_of_le (consistent.leaseFresh old) (nextPermit_le_step action state)
    · rw [fresh, permits]
      exact Nat.lt_succ_self _
  useFresh := by
    intro fiber use uses
    obtain old | ⟨-, permits, lease, leased, permit, -⟩ := step_uses uses
    · exact lt_of_lt_of_le (consistent.useFresh old) (nextPermit_le_step action state)
    · rw [permits, ← permit]
      exact consistent.leaseFresh leased
  useOwner := by
    intro fiber use lease uses leased same
    obtain old | ⟨leases, -, found, foundAt, -, identity⟩ := step_uses uses
    · obtain oldLease | ⟨fresh, -⟩ := step_lease consistent leased
      · exact consistent.useOwner old oldLease same
      · have bound := consistent.useFresh old
        rw [← same, fresh] at bound
        exact absurd bound (lt_irrefl _)
    · rw [leases, foundAt] at leased
      cases leased
      exact identity
  semaphores := consistent.semaphores.step action

def after (actions : List IntegrationTargetAction) : IntegrationTargetResourceState :=
  (Machine.run step makeIntegrationTargetResourceController actions).2

theorem after_consistent (actions : List IntegrationTargetAction) : (after actions).Consistent :=
  Machine.run_preserves (fun action _ consistent => consistent.step action) consistent_make actions

def Releases (action : IntegrationTargetAction) (use : IntegrationTargetPermitUse) : Prop :=
  (∃ fiber, action = .releaseAll fiber) ∨
    ∃ fiber responsibility, action = .release fiber responsibility ∧
      targetKey responsibility.integrationTarget = use.targetKey ∧
        integrationResponsibilityIdentity responsibility = use.identity

/-- During the run the lease of the use was released although the fiber still waited for its permit
or used it. -/
def ReleasedInUse (actions : List IntegrationTargetAction) (fiber : Nat)
    (use : IntegrationTargetPermitUse) : Prop :=
  ∃ before action later, actions = before ++ action :: later ∧ Releases action use ∧
    (after before).Uses fiber use ∧ (after before).Leases use ∧
      ¬ (after (before ++ [action])).Leases use

/-- Only a release by the responsibility itself, or of all leases, ends a lease. -/
theorem releases_of_not_leases (consistent : state.Consistent) (uses : state.Uses fiber use)
    (leased : state.Leases use) (lost : ¬ (step action state).2.Leases use) :
    Releases action use := by
  obtain ⟨lease, leasedAt, permit⟩ := leased
  have kept : (step action state).2.leases.byTarget.lookup use.targetKey ≠ some lease :=
    fun still => lost ⟨lease, still, permit⟩
  cases step_effect action state with
  | acquired _ responsibility _ leases =>
      obtain ⟨-, same | ⟨free, -, inserted⟩⟩ := IntegrationTargetResourceLeases.acquire_cases
        consistent.inverse responsibility state.nextPermit
      · rw [leases, same] at kept
        contradiction
      · rw [leases, inserted, KeyedMap.lookup_insert_eq_ite] at kept
        split at kept
        · next sameKey =>
          rw [← sameKey, leasedAt] at free
          contradiction
        · contradiction
  | released fiber' responsibility call leases =>
      right
      refine ⟨fiber', responsibility, call, ?_⟩
      rw [leases, IntegrationTargetResourceLeases.release] at kept
      split at kept
      · contradiction
      · next exact =>
        obtain ⟨heldAt, -, heldBy⟩ := IntegrationTargetResourceLeases.exactLease_eq_some exact
        rw [KeyedMap.lookup_erase_eq_ite] at kept
        split at kept
        · next sameKey =>
          rw [← sameKey, leasedAt] at heldAt
          cases heldAt
          exact ⟨sameKey.symm, heldBy.symm.trans (consistent.useOwner uses leasedAt permit)⟩
        · contradiction
  | releasedAll fiber' call => exact Or.inl ⟨fiber', call⟩
  | unchanged leases => exact absurd leasedAt (leases ▸ kept)
  | found _ _ _ _ _ leases => exact absurd leasedAt (leases ▸ kept)
  | took _ _ _ _ leases => exact absurd leasedAt (leases ▸ kept)
  | advanced _ _ _ _ _ leases => exact absurd leasedAt (leases ▸ kept)
  | gaveBack _ _ _ leases => exact absurd leasedAt (leases ▸ kept)
  | aside _ _ _ _ leases => exact absurd leasedAt (leases ▸ kept)

theorem leases_or_releasedInUse (actions : List IntegrationTargetAction)
    (uses : (after actions).Uses fiber use) :
    (after actions).Leases use ∨ ReleasedInUse actions fiber use := by
  have based : ∀ action state, Consistent state → (step action state).2.Uses fiber use →
      state.Uses fiber use ∨ (step action state).2.Leases use := by
    intro action state _ later
    obtain old | ⟨leases, -, lease, leased, permit, -⟩ := step_uses later
    · exact Or.inl old
    · exact Or.inr ⟨lease, by rwa [leases], permit⟩
  have unclaimed : ¬ makeIntegrationTargetResourceController.Uses fiber use := by
    simp [Uses, makeIntegrationTargetResourceController, IntegrationTargetFiber.permitUse]
  obtain leased | ⟨before, action, later, split, used, held, lost⟩ :=
    @Machine.run_basis_or_lost _ _ _ step Consistent (·.Uses fiber use) (·.Leases use)
      (fun action _ consistent => consistent.step action) based _ consistent_make unclaimed actions
      uses
  · exact Or.inl leased
  · refine Or.inr ⟨before, action, later, split, ?_, used, held, ?_⟩
    · exact releases_of_not_leases (after_consistent before) used held lost
    · rwa [after, Machine.run_concat]

theorem step_ne_invalidBinding (consistent : state.Consistent) (action : IntegrationTargetAction) :
    (step action state).1 ≠ .defect invalidBindingDefect := by
  cases action with
  | acquire fiber responsibility =>
      have valid := (IntegrationTargetResourceLeases.acquire_cases consistent.inverse
        responsibility state.nextPermit).1
      simp only [step]
      split
      · simp
      · simp only [acquire]
        split <;> simp_all
  | publishAcceptedOwnership fiber responsibility =>
      simp only [step, publishAcceptedOwnership]
      split
      · simp
      · split <;> simp [invalidBindingDefect]
  | release fiber responsibility =>
      simp only [step, release]
      split
      · simp
      · split <;> simp
  | releaseAll fiber =>
      simp only [step]
      split <;> simp
  | withPermit fiber responsibility =>
      simp only [step, withPermit]
      split
      · simp
      · split <;> simp [invalidBindingDefect]
  | resume fiber =>
      simp only [step, resume]
      split
      case h_6 stage use _ =>
        cases stage with
        | waiting =>
            simp only [resumePermit]
            split <;> simp
        | _ => simp [resumePermit]
      all_goals simp
  | interrupt fiber =>
      simp only [step, interrupt]
      split <;> simp

/-- In every interleaving the maps stay inverse, each target has one holder, and effects of one
target overlap only after a lease was released in use. -/
theorem integrationTargetResource_exclusive (actions : List IntegrationTargetAction) :
    (after actions).leases.MutuallyInverse ∧
      (∀ answer ∈ (Machine.run step makeIntegrationTargetResourceController actions).1,
        answer ≠ .defect invalidBindingDefect) ∧
      (∀ left right lease otherLease,
        (after actions).leases.exactLease left = some lease →
        (after actions).leases.exactLease right = some otherLease →
        left.integrationTarget = right.integrationTarget →
          integrationResponsibilityIdentity left = integrationResponsibilityIdentity right) ∧
      ∀ fiber other use otherUse, fiber ≠ other →
        (after actions).RunsEffect fiber use → (after actions).RunsEffect other otherUse →
        use.targetKey = otherUse.targetKey →
          use.permit ≠ otherUse.permit ∧
            (ReleasedInUse actions fiber use ∨ ReleasedInUse actions other otherUse) := by
  have consistent := after_consistent actions
  refine ⟨consistent.inverse, ?_, ?_, ?_⟩
  · exact @Machine.run_answers _ _ _ step Consistent (· ≠ .defect invalidBindingDefect)
      (fun action _ holds => holds.step action)
      (fun action _ holds => step_ne_invalidBinding holds action) _ consistent_make actions
  · intro left right lease otherLease leftExact rightExact sameTarget
    have leftHolds := (IntegrationTargetResourceLeases.exactLease_eq_some leftExact).2.1
    have rightHolds := (IntegrationTargetResourceLeases.exactLease_eq_some rightExact).2.1
    rw [← sameTarget] at rightHolds
    exact consistent.inverse.holder_unique leftHolds rightHolds
  · intro fiber other use otherUse apart runs otherRuns sameTarget
    have permits : use.permit ≠ otherUse.permit := fun same =>
      apart (consistent.semaphores.unique runs.hasPermit otherRuns.hasPermit same)
    refine ⟨permits, ?_⟩
    obtain ⟨lease, leased, permit⟩ | released := leases_or_releasedInUse actions runs.uses
    · obtain ⟨otherLease, otherLeased, otherPermit⟩ | otherReleased :=
        leases_or_releasedInUse actions otherRuns.uses
      · rw [sameTarget, otherLeased] at leased
        cases leased
        exact absurd (permit.symm.trans otherPermit) permits
      · exact Or.inr otherReleased
    · exact Or.inl released

namespace ReleaseInUse

def target : IntegrationTarget := ⟨"/repository.git", "refs/heads/main"⟩

def first : IntegrationTargetResourceResponsibility := ⟨target, ⟨"target-run", by simp⟩, 1⟩

def second : IntegrationTargetResourceResponsibility := ⟨target, ⟨"target-run", by simp⟩, 2⟩

def actions : List IntegrationTargetAction :=
  [.acquire 0 first, .withPermit 0 first, .resume 0, .resume 0, .resume 0, .release 2 first,
    .acquire 1 second, .withPermit 1 second, .resume 1, .resume 1, .resume 1]

def firstUse : IntegrationTargetPermitUse :=
  ⟨integrationResponsibilityIdentity first, 0, targetKey target⟩

def secondUse : IntegrationTargetPermitUse :=
  ⟨integrationResponsibilityIdentity second, 1, targetKey target⟩

theorem first_runs : (after actions).RunsEffect 0 firstUse := by
  unfold RunsEffect
  decide

theorem second_runs : (after actions).RunsEffect 1 secondUse := by
  unfold RunsEffect
  decide

/-- The next holder runs its effect beside the effect of the responsibility that released. -/
theorem effects_overlap :
    ¬ ∀ actions fiber other use otherUse, fiber ≠ other →
      (after actions).RunsEffect fiber use → (after actions).RunsEffect other otherUse →
        use.targetKey ≠ otherUse.targetKey := by
  intro exclusive
  exact exclusive actions 0 1 firstUse secondUse (by decide) first_runs second_runs rfl

/-- The overlap is explained by a release in use. -/
theorem overlap_released :
    ReleasedInUse actions 0 firstUse ∨ ReleasedInUse actions 1 secondUse :=
  ((integrationTargetResource_exclusive actions).2.2.2 0 1 firstUse secondUse (by decide)
    first_runs second_runs rfl).2

end ReleaseInUse

end IntegrationTargetResourceState

end Dalph
