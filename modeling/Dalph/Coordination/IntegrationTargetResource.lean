import Dalph.Foundation.Json
import Dalph.Foundation.KeyedMap
import Dalph.Foundation.Machine
import Dalph.Workflow.Integrator

/-!
# Integration target leases

One process-local owner leases integration targets to responsibilities.  Fibers call the controller
concurrently; every read or update of one reference is one step, and each lease carries its own
semaphore with a single permit.
-/

namespace Dalph

structure IntegrationTargetResourceResponsibility where
  integrationTarget : IntegrationTarget
  plannedAttemptRunId : RunId
  queuedAt : JournalPosition
deriving DecidableEq

def integrationResponsibilityIdentity (responsibility : IntegrationTargetResourceResponsibility) :
    IntegrationResponsibilityIdentity :=
  ⟨responsibility.queuedAt, responsibility.plannedAttemptRunId⟩

def integrationResponsibilityIdentityKey (identity : IntegrationResponsibilityIdentity) : String :=
  Json.stringify (.arr [.str identity.runId.value, .num identity.queuedAt])

def targetKey (target : IntegrationTarget) : String :=
  Json.stringify (.arr [.str target.repository, .str target.ref])

theorem integrationResponsibilityIdentityKey_injective :
    Function.Injective integrationResponsibilityIdentityKey := by
  intro left right same
  have values := Json.stringify_injective
    (.arr (by simp [Json.WellFormed.str, Json.WellFormed.num]))
    (.arr (by simp [Json.WellFormed.str, Json.WellFormed.num])) same
  obtain ⟨leftQueuedAt, ⟨leftRunId⟩⟩ := left
  obtain ⟨rightQueuedAt, ⟨rightRunId⟩⟩ := right
  simp_all

structure IntegrationTargetResourceLease where
  identity : IntegrationResponsibilityIdentity
  permit : Nat
  target : IntegrationTarget
deriving DecidableEq

structure IntegrationTargetResourceLeases where
  byTarget : KeyedMap String IntegrationTargetResourceLease
  targetByResponsibility : KeyedMap String String

/-- Accepted or active ownership of one responsibility. -/
structure IntegrationTargetResourceOwnership where
  identity : IntegrationResponsibilityIdentity
  targetKey : String
deriving DecidableEq

/-- Why an acquisition changes nothing. -/
inductive IntegrationTargetResourceAcquisitionConflict where
  | identityTargetMismatch (acquiredTarget : IntegrationTarget)
  | invalidBinding
  | targetUnavailable (lease : IntegrationTargetResourceLease)
deriving DecidableEq

def emptyLeases : IntegrationTargetResourceLeases := ⟨∅, ∅⟩

namespace IntegrationTargetResourceLeases

def exactLease (leases : IntegrationTargetResourceLeases)
    (responsibility : IntegrationTargetResourceResponsibility) :
    Option IntegrationTargetResourceLease :=
  let target := targetKey responsibility.integrationTarget
  let identityKey :=
    integrationResponsibilityIdentityKey (integrationResponsibilityIdentity responsibility)
  match leases.byTarget.lookup target with
  | none => none
  | some lease =>
      if leases.targetByResponsibility.lookup identityKey = some target ∧
          integrationResponsibilityIdentityKey lease.identity = identityKey then some lease
      else none

/-- The transaction of `acquire` with a fresh semaphore. -/
def acquire (current : IntegrationTargetResourceLeases)
    (responsibility : IntegrationTargetResourceResponsibility) (permit : Nat) :
    Option IntegrationTargetResourceAcquisitionConflict × IntegrationTargetResourceLeases :=
  let key := targetKey responsibility.integrationTarget
  let identity := integrationResponsibilityIdentity responsibility
  let identityKey := integrationResponsibilityIdentityKey identity
  let grant :=
    match current.byTarget.lookup key with
    | some existing =>
        if integrationResponsibilityIdentityKey existing.identity = identityKey then
          (none, current)
        else (some (.targetUnavailable existing), current)
    | none =>
        (none,
          { byTarget := current.byTarget.insert key
              { identity, permit, target := responsibility.integrationTarget }
            targetByResponsibility := current.targetByResponsibility.insert identityKey key })
  match current.targetByResponsibility.lookup identityKey with
  | some boundTargetKey =>
      if boundTargetKey = key then grant
      else
        match current.byTarget.lookup boundTargetKey with
        | none => (some .invalidBinding, current)
        | some boundLease => (some (.identityTargetMismatch boundLease.target), current)
  | none => grant

/-- The transaction of `release`: only the exact lease of the responsibility goes. -/
def release (current : IntegrationTargetResourceLeases)
    (responsibility : IntegrationTargetResourceResponsibility) :
    Bool × IntegrationTargetResourceLeases :=
  let identityKey :=
    integrationResponsibilityIdentityKey (integrationResponsibilityIdentity responsibility)
  match current.exactLease responsibility with
  | none => (false, current)
  | some _ =>
      (true,
        { byTarget := current.byTarget.erase (targetKey responsibility.integrationTarget)
          targetByResponsibility := current.targetByResponsibility.erase identityKey })

structure MutuallyInverse (leases : IntegrationTargetResourceLeases) : Prop where
  bound : ∀ {key lease}, leases.byTarget.lookup key = some lease →
    leases.targetByResponsibility.lookup
      (integrationResponsibilityIdentityKey lease.identity) = some key
  leased : ∀ {identityKey key}, leases.targetByResponsibility.lookup identityKey = some key →
    ∃ lease, leases.byTarget.lookup key = some lease ∧
      integrationResponsibilityIdentityKey lease.identity = identityKey

end IntegrationTargetResourceLeases

/-- One permitted call: the lease found before waiting is kept until the call ends. -/
structure IntegrationTargetPermitUse where
  identity : IntegrationResponsibilityIdentity
  permit : Nat
  targetKey : String
deriving DecidableEq

/-- Progress of `withPermit` after its lease was found. -/
inductive IntegrationTargetPermitStage where
  /-- Waits for the permit of the lease. -/
  | waiting
  /-- Took the permit; the guarded effect has not started. -/
  | permitted
  /-- Started; active ownership is not yet published. -/
  | entering
  /-- The caller's effect runs. -/
  | running
  /-- The effect ended; active ownership is still published. -/
  | leaving
  /-- Active ownership is withdrawn; the permit is still taken. -/
  | returning
deriving DecidableEq

/-- What a suspended call has left to do. -/
inductive IntegrationTargetFiber where
  | releasing (identityKey : String)
  | publishing (identityKey : String) (ownership : IntegrationTargetResourceOwnership)
  | clearingAccepted
  | clearingActive
  | withPermit (stage : IntegrationTargetPermitStage) (use : IntegrationTargetPermitUse)
deriving DecidableEq

/-- References of the controller, its semaphores and the calls in flight. -/
structure IntegrationTargetResourceState where
  leases : IntegrationTargetResourceLeases
  accepted : KeyedMap String IntegrationTargetResourceOwnership
  active : KeyedMap String IntegrationTargetResourceOwnership
  nextPermit : Nat
  taken : Nat → Bool
  fibers : Nat → Option IntegrationTargetFiber

/-- A step of one fiber: a call, its continuation or its interruption. -/
inductive IntegrationTargetAction where
  | acquire (fiber : Nat) (responsibility : IntegrationTargetResourceResponsibility)
  | publishAcceptedOwnership (fiber : Nat)
      (responsibility : IntegrationTargetResourceResponsibility)
  | release (fiber : Nat) (responsibility : IntegrationTargetResourceResponsibility)
  | releaseAll (fiber : Nat)
  | withPermit (fiber : Nat) (responsibility : IntegrationTargetResourceResponsibility)
  | resume (fiber : Nat)
  | interrupt (fiber : Nat)
deriving DecidableEq

inductive IntegrationTargetAnswer where
  /-- The fiber cannot take the step now. -/
  | blocked
  | suspended
  | completed
  | unavailable (heldBy requestedBy : IntegrationResponsibilityIdentity)
      (target : IntegrationTarget)
  | targetMismatch (acquiredTarget : IntegrationTarget)
      (identity : IntegrationResponsibilityIdentity) (requestedTarget : IntegrationTarget)
  | defect (message : String)
deriving DecidableEq

def makeIntegrationTargetResourceController : IntegrationTargetResourceState where
  leases := emptyLeases
  accepted := ∅
  active := ∅
  nextPermit := 0
  taken := fun _ => false
  fibers := fun _ => none

def invalidBindingDefect : String := "integration responsibility target binding was invalid"

namespace IntegrationTargetResourceState

def setFiber (state : IntegrationTargetResourceState) (fiber : Nat)
    (next : Option IntegrationTargetFiber) : IntegrationTargetResourceState :=
  { state with fibers := Function.update state.fibers fiber next }

/-- `acquire`, one transaction; the semaphore is made before it. -/
def acquire (state : IntegrationTargetResourceState)
    (responsibility : IntegrationTargetResourceResponsibility) :
    IntegrationTargetAnswer × IntegrationTargetResourceState :=
  let identity := integrationResponsibilityIdentity responsibility
  let (conflict, leases) := state.leases.acquire responsibility state.nextPermit
  let next := { state with leases, nextPermit := state.nextPermit + 1 }
  match conflict with
  | some .invalidBinding => (.defect invalidBindingDefect, next)
  | some (.identityTargetMismatch acquiredTarget) =>
      (.targetMismatch acquiredTarget identity responsibility.integrationTarget, next)
  | some (.targetUnavailable lease) =>
      (.unavailable lease.identity identity responsibility.integrationTarget, next)
  | none => (.completed, next)

/-- First step of `release`; accepted ownership is withdrawn by the next one. -/
def release (state : IntegrationTargetResourceState) (fiber : Nat)
    (responsibility : IntegrationTargetResourceResponsibility) :
    IntegrationTargetAnswer × IntegrationTargetResourceState :=
  match state.leases.release responsibility with
  | (false, _) => (.completed, state)
  | (true, leases) =>
      (.suspended, { state with leases }.setFiber fiber (some (.releasing
        (integrationResponsibilityIdentityKey
          (integrationResponsibilityIdentity responsibility)))))

/-- First step of `publishAcceptedOwnership`: the exact lease must be held. -/
def publishAcceptedOwnership (state : IntegrationTargetResourceState) (fiber : Nat)
    (responsibility : IntegrationTargetResourceResponsibility) :
    IntegrationTargetAnswer × IntegrationTargetResourceState :=
  let identity := integrationResponsibilityIdentity responsibility
  match state.leases.exactLease responsibility with
  | none =>
      (.defect "accepted integration ownership requires its exact acquired responsibility", state)
  | some _ =>
      (.suspended, state.setFiber fiber (some (.publishing
        (integrationResponsibilityIdentityKey identity)
        ⟨identity, targetKey responsibility.integrationTarget⟩)))

/-- First step of `withPermit`: looks the exact lease up, then waits for its permit. -/
def withPermit (state : IntegrationTargetResourceState) (fiber : Nat)
    (responsibility : IntegrationTargetResourceResponsibility) :
    IntegrationTargetAnswer × IntegrationTargetResourceState :=
  match state.leases.exactLease responsibility with
  | none => (.defect "integration target permit requires its exact held responsibility", state)
  | some lease =>
      (.suspended, state.setFiber fiber (some (.withPermit .waiting
        ⟨integrationResponsibilityIdentity responsibility, lease.permit,
          targetKey responsibility.integrationTarget⟩)))

/-- Next step of a call that waits for its permit or has taken it. -/
def resumePermit (state : IntegrationTargetResourceState) (fiber : Nat)
    (use : IntegrationTargetPermitUse) :
    IntegrationTargetPermitStage → IntegrationTargetAnswer × IntegrationTargetResourceState
  | .waiting =>
      if state.taken use.permit then (.blocked, state)
      else
        (.suspended, { state with taken := Function.update state.taken use.permit true }.setFiber
          fiber (some (.withPermit .permitted use)))
  | .permitted => (.suspended, state.setFiber fiber (some (.withPermit .entering use)))
  | .entering =>
      (.suspended,
        { state with
          active := state.active.insert (integrationResponsibilityIdentityKey use.identity)
            ⟨use.identity, use.targetKey⟩ }.setFiber fiber (some (.withPermit .running use)))
  | .running => (.suspended, state.setFiber fiber (some (.withPermit .leaving use)))
  | .leaving =>
      (.suspended,
        { state with
          active := state.active.erase
            (integrationResponsibilityIdentityKey use.identity) }.setFiber fiber
              (some (.withPermit .returning use)))
  | .returning =>
      (.completed,
        { state with taken := Function.update state.taken use.permit false }.setFiber fiber none)

/-- Next step of a suspended call. -/
def resume (state : IntegrationTargetResourceState) (fiber : Nat) :
    IntegrationTargetAnswer × IntegrationTargetResourceState :=
  match state.fibers fiber with
  | none => (.blocked, state)
  | some (.releasing identityKey) =>
      (.completed, { state with accepted := state.accepted.erase identityKey }.setFiber fiber none)
  | some (.publishing identityKey ownership) =>
      (.completed,
        { state with accepted := state.accepted.insert identityKey ownership }.setFiber fiber none)
  | some .clearingAccepted =>
      (.suspended, { state with accepted := ∅ }.setFiber fiber (some .clearingActive))
  | some .clearingActive => (.completed, { state with active := ∅ }.setFiber fiber none)
  | some (.withPermit stage use) => state.resumePermit fiber use stage

/-- Interruption of a suspended call.  A permit once taken is given back through the finalizers. -/
def interrupt (state : IntegrationTargetResourceState) (fiber : Nat) :
    IntegrationTargetAnswer × IntegrationTargetResourceState :=
  match state.fibers fiber with
  | none => (.blocked, state)
  | some (.withPermit .permitted use) =>
      (.suspended, state.setFiber fiber (some (.withPermit .returning use)))
  | some (.withPermit .entering use) =>
      (.suspended, state.setFiber fiber (some (.withPermit .leaving use)))
  | some (.withPermit .running use) =>
      (.suspended, state.setFiber fiber (some (.withPermit .leaving use)))
  | some (.withPermit .leaving _) => (.blocked, state)
  | some (.withPermit .returning _) => (.blocked, state)
  | some _ => (.completed, state.setFiber fiber none)

/-- One step of the controller.  A fiber starts a call only when it has none in flight. -/
def step (action : IntegrationTargetAction) (state : IntegrationTargetResourceState) :
    IntegrationTargetAnswer × IntegrationTargetResourceState :=
  match action with
  | .acquire fiber responsibility =>
      if (state.fibers fiber).isSome then (.blocked, state) else state.acquire responsibility
  | .publishAcceptedOwnership fiber responsibility =>
      if (state.fibers fiber).isSome then (.blocked, state)
      else state.publishAcceptedOwnership fiber responsibility
  | .release fiber responsibility =>
      if (state.fibers fiber).isSome then (.blocked, state)
      else state.release fiber responsibility
  | .releaseAll fiber =>
      if (state.fibers fiber).isSome then (.blocked, state)
      else (.suspended,
        { state with leases := emptyLeases }.setFiber fiber (some .clearingAccepted))
  | .withPermit fiber responsibility =>
      if (state.fibers fiber).isSome then (.blocked, state)
      else state.withPermit fiber responsibility
  | .resume fiber => state.resume fiber
  | .interrupt fiber => state.interrupt fiber

end IntegrationTargetResourceState

namespace IntegrationTargetResourceLeases

variable {leases : IntegrationTargetResourceLeases}

theorem exactLease_eq_some {responsibility : IntegrationTargetResourceResponsibility}
    {lease : IntegrationTargetResourceLease} (exact : leases.exactLease responsibility = some lease)
    :
    leases.byTarget.lookup (targetKey responsibility.integrationTarget) = some lease ∧
      leases.targetByResponsibility.lookup (integrationResponsibilityIdentityKey
          (integrationResponsibilityIdentity responsibility)) =
        some (targetKey responsibility.integrationTarget) ∧
      lease.identity = integrationResponsibilityIdentity responsibility := by
  simp only [exactLease] at exact
  split at exact
  · contradiction
  · next found leased =>
    split at exact
    · next agrees =>
      cases exact
      exact ⟨leased, agrees.1, integrationResponsibilityIdentityKey_injective agrees.2⟩
    · contradiction

theorem mutuallyInverse_emptyLeases : emptyLeases.MutuallyInverse where
  bound leased := by simp [emptyLeases] at leased
  leased bound := by simp [emptyLeases] at bound

section

variable (inverse : leases.MutuallyInverse)
include inverse

section

variable (responsibility : IntegrationTargetResourceResponsibility)

theorem acquire_cases (permit : Nat) :
    (leases.acquire responsibility permit).1 ≠ some .invalidBinding ∧
      ((leases.acquire responsibility permit).2 = leases ∨
        (leases.byTarget.lookup (targetKey responsibility.integrationTarget) = none ∧
          leases.targetByResponsibility.lookup (integrationResponsibilityIdentityKey
            (integrationResponsibilityIdentity responsibility)) = none ∧
          (leases.acquire responsibility permit).2 =
            { byTarget := leases.byTarget.insert (targetKey responsibility.integrationTarget)
                ⟨integrationResponsibilityIdentity responsibility, permit,
                  responsibility.integrationTarget⟩
              targetByResponsibility := leases.targetByResponsibility.insert
                (integrationResponsibilityIdentityKey
                  (integrationResponsibilityIdentity responsibility))
                (targetKey responsibility.integrationTarget) })) := by
  unfold acquire
  cases bound : leases.targetByResponsibility.lookup (integrationResponsibilityIdentityKey
    (integrationResponsibilityIdentity responsibility)) with
  | none =>
      cases existing : leases.byTarget.lookup (targetKey responsibility.integrationTarget) with
      | none => simp [bound, existing]
      | some lease =>
          simp only [bound, existing]
          split <;> simp
  | some boundTargetKey =>
      obtain ⟨lease, leased, identity⟩ := inverse.leased bound
      by_cases same : boundTargetKey = targetKey responsibility.integrationTarget
      · subst same
        simp [bound, leased, identity]
      · simp [bound, same, leased]

theorem MutuallyInverse.acquire (permit : Nat) :
    (leases.acquire responsibility permit).2.MutuallyInverse := by
  obtain ⟨-, same | ⟨free, unbound, inserted⟩⟩ := acquire_cases inverse responsibility permit
  · rw [same]
    exact inverse
  · rw [inserted]
    constructor
    · intro key lease leased
      simp only [KeyedMap.lookup_insert_eq_ite] at leased ⊢
      split at leased
      · next sameKey =>
        cases leased
        simp [sameKey]
      · have bound := inverse.bound leased
        rw [if_neg, bound]
        intro sameIdentity
        rw [sameIdentity, unbound] at bound
        contradiction
    · intro identityKey key bound
      simp only [KeyedMap.lookup_insert_eq_ite] at bound ⊢
      split at bound
      · next sameIdentity =>
        cases bound
        simp [sameIdentity]
      · obtain ⟨lease, leased, identity⟩ := inverse.leased bound
        refine ⟨lease, ?_, identity⟩
        rw [if_neg, leased]
        rintro rfl
        rw [free] at leased
        contradiction

theorem MutuallyInverse.release : (leases.release responsibility).2.MutuallyInverse := by
  unfold IntegrationTargetResourceLeases.release
  split
  · exact inverse
  · next held exact =>
    obtain ⟨heldAt, boundAt, heldBy⟩ := exactLease_eq_some exact
    constructor
    · intro key lease leased
      simp only [KeyedMap.lookup_erase_eq_ite] at leased ⊢
      split at leased
      · contradiction
      · next otherKey =>
        have bound := inverse.bound leased
        rw [if_neg, bound]
        intro sameIdentity
        rw [sameIdentity, boundAt] at bound
        exact otherKey (Option.some.inj bound).symm
    · intro identityKey key bound
      simp only [KeyedMap.lookup_erase_eq_ite] at bound ⊢
      split at bound
      · contradiction
      · next otherIdentity =>
        obtain ⟨lease, leased, identity⟩ := inverse.leased bound
        refine ⟨lease, ?_, identity⟩
        rw [if_neg, leased]
        rintro rfl
        rw [heldAt] at leased
        cases leased
        rw [heldBy] at identity
        exact otherIdentity identity.symm

end

theorem MutuallyInverse.holder_unique {left right : IntegrationResponsibilityIdentity}
    {key : String}
    (leftHolds : leases.targetByResponsibility.lookup (integrationResponsibilityIdentityKey left) = some key)
    (rightHolds : leases.targetByResponsibility.lookup (integrationResponsibilityIdentityKey right) = some key)
    : left = right := by
  obtain ⟨leftLease, leftLeased, leftIdentity⟩ := inverse.leased leftHolds
  obtain ⟨rightLease, rightLeased, rightIdentity⟩ := inverse.leased rightHolds
  rw [leftLeased] at rightLeased
  cases rightLeased
  exact integrationResponsibilityIdentityKey_injective (leftIdentity.symm.trans rightIdentity)

end

section Rollback

variable {leases later : IntegrationTargetResourceLeases}
  {responsibility : IntegrationTargetResourceResponsibility} {permit : Nat}

theorem acquire_conflict (conflict : (leases.acquire responsibility permit).1 ≠ none) :
    (leases.acquire responsibility permit).2 = leases := by
  simp only [acquire] at conflict ⊢
  grind

theorem held_or_free (inverse : leases.MutuallyInverse)
    (acquired : leases.acquire responsibility permit = (none, later)) :
    (leases.exactLease responsibility).isSome = true ∨
      leases.byTarget.lookup (targetKey responsibility.integrationTarget) = none := by
  cases found : leases.byTarget.lookup (targetKey responsibility.integrationTarget) with
  | none => exact Or.inr rfl
  | some lease =>
      left
      by_cases same : integrationResponsibilityIdentityKey lease.identity =
          integrationResponsibilityIdentityKey (integrationResponsibilityIdentity responsibility)
      · have bound := inverse.bound found
        rw [same] at bound
        simp [exactLease, found, bound, same]
      · exfalso
        simp only [acquire, found, same, if_false] at acquired
        grind

theorem release_acquire (inverse : leases.MutuallyInverse)
    (unheld : leases.exactLease responsibility = none)
    (acquired : leases.acquire responsibility permit = (none, later)) :
    (∀ key, (later.release responsibility).2.byTarget.lookup key = leases.byTarget.lookup key) ∧
      ∀ key, (later.release responsibility).2.targetByResponsibility.lookup key =
        leases.targetByResponsibility.lookup key := by
  have free := (held_or_free inverse acquired).resolve_left (by simp [unheld])
  obtain ⟨-, same | ⟨-, unbound, inserted⟩⟩ := acquire_cases inverse responsibility permit
  · -- A free target is not left free by an acquisition.
    exfalso
    rw [acquired] at same
    subst same
    simp only [acquire, free] at acquired
    grind [AList.lookup_insert]
  · rw [acquired] at inserted
    subst inserted
    simp only [release, exactLease, AList.lookup_insert, and_self, if_true,
      KeyedMap.lookup_erase_eq_ite, KeyedMap.lookup_insert_eq_ite]
    constructor
    · intro key
      split
      · next same => rw [same, free]
      · rfl
    · intro key
      split
      · next same => rw [same, unbound]
      · rfl

theorem acquire_of_held {lease : IntegrationTargetResourceLease} (permit : Nat)
    (held : leases.exactLease responsibility = some lease) :
    leases.acquire responsibility permit = (none, leases) := by
  simp only [exactLease] at held
  simp only [acquire]
  grind

theorem release_of_held {lease : IntegrationTargetResourceLease}
    (held : leases.exactLease responsibility = some lease) :
    (leases.release responsibility).2.byTarget.lookup
        (targetKey responsibility.integrationTarget) = none ∧
      leases.byTarget.lookup (targetKey responsibility.integrationTarget) = some lease := by
  constructor
  · simp [release, held]
  · simp only [exactLease] at held
    grind

end Rollback

end IntegrationTargetResourceLeases

end Dalph
