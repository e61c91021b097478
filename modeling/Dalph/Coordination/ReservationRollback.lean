import Dalph.Coordination.IntegrationTargetExclusion
import Dalph.Coordination.TaskWorkOwnership

/-!
# Rollback of a failed reservation

A reservation takes four kinds of resources in sequence.  What a failed one leaves behind is computed
path by path, while the application may be asked to exit before any of its transactions.
-/

namespace Dalph

namespace DeliveryRuntime

open Program

/-- What a reservation takes. -/
structure Resources where
  admission : AdmissionState
  protocolOwners : KeyedMap String GuardOwner
  leases : IntegrationTargetResourceLeases
  forwardOwners : KeyedMap Nat ForwardOwnerState

def resources (runtime : DeliveryRuntime) : Resources :=
  ⟨runtime.admission, runtime.plannedAttemptProtocol.guard.owners,
    runtime.integrationTargets.leases, runtime.applicationExit.owners⟩

/-- The same positions, owners and leases. -/
structure Resources.Same (left right : Resources) : Prop where
  positions : ∀ taskId, left.admission.positions.lookup taskId =
    right.admission.positions.lookup taskId
  protocolOwners : ∀ key, left.protocolOwners.lookup key = right.protocolOwners.lookup key
  targets : ∀ key, left.leases.byTarget.lookup key = right.leases.byTarget.lookup key
  responsibilities : ∀ key, left.leases.targetByResponsibility.lookup key =
    right.leases.targetByResponsibility.lookup key
  forwardOwners : ∀ ownerId, left.forwardOwners.lookup ownerId =
    right.forwardOwners.lookup ownerId

theorem Resources.Same.refl (resources : Resources) : resources.Same resources :=
  ⟨fun _ => rfl, fun _ => rfl, fun _ => rfl, fun _ => rfl, fun _ => rfl⟩

def ExitRequests : DeliveryRuntime → DeliveryRuntime → Prop :=
  Relation.ReflTransGen fun before later =>
    ∃ requestedAt, later = foreign (.applicationExit (.requestExit requestedAt)) before

/-- A program ends while Exit may be requested before each of its transactions. -/
abbrev Ends {Result : Type} (program : DeliveryProgram Result) (before : DeliveryRuntime)
    (result : Result) (final : DeliveryRuntime) : Prop :=
  Executes ExitRequests program before result final

/-- Requests change the phase of the application and nothing that is reserved. -/
structure OnlyExits (before later : DeliveryRuntime) : Prop where
  admission : later.admission = before.admission
  integrationTargets : later.integrationTargets = before.integrationTargets
  plannedAttemptProtocol : later.plannedAttemptProtocol = before.plannedAttemptProtocol
  owners : later.applicationExit.owners = before.applicationExit.owners
  nextOwnerId : later.applicationExit.nextOwnerId = before.applicationExit.nextOwnerId
  serving : later.applicationExit.phase = .serving → before.applicationExit.phase = .serving
  nextCall : before.applicationExit.nextCall ≤ later.applicationExit.nextCall
  calls : ∀ call < before.applicationExit.nextCall,
    later.applicationExit.calls call = before.applicationExit.calls call

theorem requestExit_begins (exit : ApplicationExitState Unit) (requestedAt : Nat) :
    ∃ cutoffAt stage,
      (exit.requestExit requestedAt).2 = { exit with phase := .exiting cutoffAt }.begin stage := by
  unfold ApplicationExitState.requestExit
  split
  · next cutoffAt exiting =>
      refine ⟨cutoffAt, .ended (.exitRequest cutoffAt false), ?_⟩
      rw [← exiting]
      rfl
  · exact ⟨_, _, rfl⟩

theorem ExitRequests.onlyExits {before later : DeliveryRuntime}
    (requests : ExitRequests before later) : OnlyExits before later := by
  induction requests with
  | refl => exact ⟨rfl, rfl, rfl, rfl, rfl, id, le_rfl, fun _ _ => rfl⟩
  | @tail middle later _ request induction =>
      obtain ⟨requestedAt, rfl⟩ := request
      obtain ⟨cutoffAt, stage, begun⟩ := requestExit_begins middle.applicationExit requestedAt
      refine ⟨induction.admission, induction.integrationTargets,
        induction.plannedAttemptProtocol, ?_, ?_, ?_, ?_, ?_⟩ <;>
        simp only [foreign, ApplicationExitState.step, begun, ApplicationExitState.begin,
          ApplicationExitState.setCall]
      · exact induction.owners
      · exact induction.nextOwnerId
      · exact nofun
      · exact Nat.le_succ_of_le induction.nextCall
      · intro call earlier
        rw [Function.update_of_ne, induction.calls call earlier]
        exact Nat.ne_of_lt (Nat.lt_of_lt_of_le earlier induction.nextCall)

theorem OnlyExits.resources {before later : DeliveryRuntime} (exits : OnlyExits before later) :
    later.resources = before.resources := by
  simp only [DeliveryRuntime.resources, exits.admission, exits.integrationTargets,
    exits.plannedAttemptProtocol, exits.owners]

section Effects

variable {Answer : Type} {before final : DeliveryRuntime} {answer : Answer}

theorem ends_modify {transaction : DeliveryRuntime → Answer × DeliveryRuntime}
    (ends : Ends (Program.modify transaction) before answer final) :
    ∃ disturbed, OnlyExits before disturbed ∧ transaction disturbed = (answer, final) := by
  obtain ⟨disturbed, requests, answered⟩ := executes_modify_iff.mp ends
  exact ⟨disturbed, requests.onlyExits, answered⟩

theorem ends_modifyAdmission {transaction : AdmissionState → Answer × AdmissionState}
    (ends : Ends (modifyAdmission transaction) before answer final) :
    answer = (transaction before.admission).1 ∧
      final.resources =
        { before.resources with admission := (transaction before.admission).2 } := by
  obtain ⟨disturbed, exits, answered⟩ := ends_modify ends
  cases answered
  rw [← exits.resources]
  simp only [exits.admission, resources, and_self]

theorem ends_updateAdmission {transaction : AdmissionState → AdmissionState} {result : Unit}
    (ends : Ends (updateAdmission transaction) before result final) :
    final.resources = { before.resources with admission := transaction before.admission } :=
  (ends_modifyAdmission ends).2

theorem ends_modifyGuard {transaction : GuardState → Answer × GuardState}
    (ends : Ends (modifyGuard transaction) before answer final) :
    answer = (transaction before.plannedAttemptProtocol.guard).1 ∧
      final.plannedAttemptProtocol.guard = (transaction before.plannedAttemptProtocol.guard).2 ∧
        final.resources =
          { before.resources with
            protocolOwners := (transaction before.plannedAttemptProtocol.guard).2.owners } := by
  obtain ⟨disturbed, exits, answered⟩ := ends_modify ends
  cases answered
  rw [← exits.resources]
  simp only [exits.plannedAttemptProtocol, resources, and_self]

theorem ends_modifyTargets
    {transaction : IntegrationTargetResourceState → Answer × IntegrationTargetResourceState}
    (ends : Ends (modifyTargets transaction) before answer final) :
    answer = (transaction before.integrationTargets).1 ∧
      final.integrationTargets = (transaction before.integrationTargets).2 ∧
      final.resources =
        { before.resources with leases := (transaction before.integrationTargets).2.leases } := by
  obtain ⟨disturbed, exits, answered⟩ := ends_modify ends
  cases answered
  rw [← exits.resources]
  simp only [exits.integrationTargets, resources, and_self]

theorem ends_modifyExit
    {transaction : ApplicationExitState Unit → Answer × ApplicationExitState Unit}
    (ends : Ends (modifyExit transaction) before answer final) :
    ∃ disturbed, OnlyExits before disturbed ∧ answer = (transaction disturbed.applicationExit).1 ∧
      final.applicationExit = (transaction disturbed.applicationExit).2 ∧
        final.resources =
          { before.resources with
            forwardOwners := (transaction disturbed.applicationExit).2.owners } := by
  obtain ⟨disturbed, exits, answered⟩ := ends_modify ends
  cases answered
  refine ⟨disturbed, exits, rfl, rfl, ?_⟩
  rw [← exits.resources]
  rfl

theorem ends_read {view : DeliveryRuntime → Answer}
    (ends : Ends (Program.read view) before answer final) :
    OnlyExits before final ∧ answer = view final := by
  obtain ⟨disturbed, exits, answered⟩ := ends_modify ends
  cases answered
  exact ⟨exits, rfl⟩

end Effects

section Parts

variable {before final : DeliveryRuntime} {result : Unit}

theorem ends_prepareForwardOwner {kind : ForwardOwnerKind} {owner : Option Nat}
    (ends : Ends (prepareForwardOwner kind) before owner final) :
    (owner = none ∧ final.resources = before.resources) ∨
      (owner = some before.applicationExit.nextOwnerId ∧
        before.applicationExit.phase = .serving ∧
        final.resources =
          { before.resources with
            forwardOwners := before.resources.forwardOwners.insert
              before.applicationExit.nextOwnerId (.preparing kind) }) := by
  obtain ⟨disturbed, exits, rfl, -, final_eq⟩ := ends_modifyExit ends
  rw [final_eq]
  simp only [ApplicationExitState.prepareForwardOwner]
  cases phase : disturbed.applicationExit.phase with
  | exiting cutoffAt =>
      left
      refine ⟨rfl, ?_⟩
      change { before.resources with forwardOwners := disturbed.applicationExit.owners } = _
      rw [exits.owners]
      rfl
  | serving =>
      right
      refine ⟨by rw [← exits.nextOwnerId]; rfl, exits.serving phase, ?_⟩
      have same : before.resources.forwardOwners = disturbed.applicationExit.owners :=
        exits.owners.symm
      rw [← exits.nextOwnerId, same]
      rfl

theorem ends_registerForwardOwner {ownerId : Nat}
    (ends : Ends (registerForwardOwner ownerId) before false final) :
    final.resources = before.resources := by
  obtain ⟨disturbed, exits, answered, -, final_eq⟩ := ends_modifyExit ends
  rw [final_eq]
  simp only [ApplicationExitState.register] at answered ⊢
  split
  · next serving preparing =>
      simp only [serving, preparing, ApplicationExitState.answer] at answered
      contradiction
  · change { before.resources with forwardOwners := disturbed.applicationExit.owners } = _
    rw [exits.owners]
    rfl

theorem removeOwner_cases (exit : ApplicationExitState Unit) {ownerId : Nat}
    (present : (exit.owners.lookup ownerId).isSome = true) :
    (exit.removeOwner ownerId).2.owners = exit.owners.erase ownerId ∧
      ((exit.removeOwner ownerId).1 = .suspended →
        exit.nextCall < (exit.removeOwner ownerId).2.nextCall ∧
          (exit.removeOwner ownerId).2.calls exit.nextCall = some .drained) := by
  have notNone : ¬ (exit.owners.lookup ownerId).isNone = true := by
    simp [Option.isSome_iff_ne_none.mp present]
  simp only [ApplicationExitState.removeOwner, if_neg notNone]
  split
  · refine ⟨rfl, fun _ => ⟨Nat.lt_succ_self _, ?_⟩⟩
    simp [ApplicationExitState.begin, ApplicationExitState.setCall]
  · exact ⟨rfl, nofun⟩

theorem ends_removeForwardOwner {ownerId : Nat}
    (present : (before.resources.forwardOwners.lookup ownerId).isSome = true)
    (ends : Ends (removeForwardOwner ownerId) before result final) :
    final.resources =
      { before.resources with
        forwardOwners := before.resources.forwardOwners.erase ownerId } := by
  obtain ⟨drained, middle, removed, rest⟩ := executes_bind_iff.mp ends
  obtain ⟨disturbed, exits, answered, middleExit, middle_eq⟩ := ends_modifyExit removed
  have owned : (disturbed.applicationExit.owners.lookup ownerId).isSome = true := by
    rw [exits.owners]
    exact present
  obtain ⟨owners, recorded⟩ := removeOwner_cases disturbed.applicationExit owned
  have erased : middle.resources =
      { before.resources with
        forwardOwners := before.resources.forwardOwners.erase ownerId } := by
    rw [middle_eq]
    simp only
    rw [owners, exits.owners]
    rfl
  cases drained with
  | none =>
      obtain ⟨-, rfl⟩ := executes_pure_iff.mp rest
      exact erased
  | some call =>
      obtain ⟨suspended, rfl⟩ : (disturbed.applicationExit.removeOwner ownerId).1 = .suspended ∧
          call = disturbed.applicationExit.nextCall := by
        split at answered
        · next suspended => exact ⟨suspended, Option.some.inj answered⟩
        · contradiction
      obtain ⟨earlier, drained⟩ := recorded suspended
      obtain ⟨later, laterExits, -, -, final_eq⟩ := ends_modifyExit rest
      simp only at middleExit
      rw [← middleExit] at earlier drained
      rw [final_eq]
      simp only [ApplicationExitState.resume, laterExits.calls _ earlier, drained]
      change { middle.resources with forwardOwners := later.applicationExit.owners } = _
      rw [laterExits.owners, erased, ← erased]
      rfl

def Permitted (owners : KeyedMap String GuardOwner) :
    Option PlannedAttemptProtocolPermit → Prop
  | none => True
  | some permit => ∃ phase, owners.lookup permit.key = some (.protocolOwner ⟨permit.owner, phase⟩)

def withoutPermit (owners : KeyedMap String GuardOwner) :
    Option PlannedAttemptProtocolPermit → KeyedMap String GuardOwner
  | none => owners
  | some permit => owners.erase permit.key

def ProtocolFree (proposal : DeliveryActionProposal) (owners : KeyedMap String GuardOwner) : Prop :=
  ∀ correlation, proposal.admission.plannedAttemptProtocol = some correlation →
    owners.lookup (plannedAttemptProtocolGuardKey correlation) = none

theorem ends_reservePlannedAttemptProtocol {proposal : DeliveryActionProposal}
    {protocol : Option (Option PlannedAttemptProtocolPermit)}
    (ends : Ends (reservePlannedAttemptProtocol proposal) before protocol final) :
    (protocol = none ∧ ¬ ProtocolFree proposal before.resources.protocolOwners ∧
      final.resources = before.resources) ∨
    ∃ permit, protocol = some permit ∧ ProtocolFree proposal before.resources.protocolOwners ∧
      final.resources = { before.resources with protocolOwners := final.resources.protocolOwners } ∧
      Permitted final.resources.protocolOwners permit ∧
        ∀ key, (withoutPermit final.resources.protocolOwners permit).lookup key =
          before.resources.protocolOwners.lookup key := by
  unfold reservePlannedAttemptProtocol at ends
  split at ends
  · next unrequired =>
      right
      obtain ⟨rfl, rfl⟩ := executes_pure_iff.mp ends
      refine ⟨none, rfl, ?_, rfl, trivial, fun _ => rfl⟩
      intro correlation required
      rw [unrequired] at required
      contradiction
  · next correlation required =>
      obtain ⟨acquired, middle, acquires, rest⟩ := executes_bind_iff.mp ends
      obtain ⟨rfl, -, middle_eq⟩ := ends_modifyGuard acquires
      set key := plannedAttemptProtocolGuardKey correlation with key_eq
      cases owned : before.resources.protocolOwners.lookup key with
      | some owner =>
          left
          have taken : before.plannedAttemptProtocol.guard.owners.lookup key = some owner := owned
          simp only [GuardState.tryAcquire, taken, Option.isSome_some, if_true] at rest middle_eq
          obtain ⟨rfl, rfl⟩ := executes_pure_iff.mp rest
          refine ⟨rfl, fun free => ?_, middle_eq⟩
          rw [free correlation required] at owned
          contradiction
      | none =>
          right
          have free : before.plannedAttemptProtocol.guard.owners.lookup key = none := owned
          simp only [GuardState.tryAcquire, free, Option.isSome_none, Bool.false_eq_true,
            if_false] at rest middle_eq
          obtain ⟨rfl, rfl⟩ := executes_pure_iff.mp rest
          refine ⟨_, rfl, ?_, by rw [middle_eq], ?_, ?_⟩
          · intro other otherRequired
            rw [required] at otherRequired
            cases otherRequired
            exact owned
          · refine ⟨.preIntentCancellable, ?_⟩
            rw [middle_eq]
            exact AList.lookup_insert _
          · intro other
            rw [middle_eq]
            simp only [withoutPermit, GuardState.ownersWith, GuardState.made,
              KeyedMap.lookup_erase_eq_ite, KeyedMap.lookup_insert_eq_ite]
            split
            · next same => rw [same, owned]
            · rfl

theorem ends_completeSignals {signals : List GuardSignal}
    (ends : Ends (completeSignals signals) before result final) :
    final.resources = before.resources := by
  induction signals generalizing before with
  | nil => rw [(executes_pure_iff.mp ends).2]
  | cons signal signals induction =>
      obtain ⟨_, middle, signalled, rest⟩ := executes_bind_iff.mp ends
      rw [induction rest, (ends_modifyGuard signalled).2.2]
      cases signal <;> rfl

theorem ends_releasePermit {permit : Option PlannedAttemptProtocolPermit}
    (permitted : Permitted before.resources.protocolOwners permit)
    (ends : Ends (releasePermit permit) before result final) :
    final.resources =
      { before.resources with
        protocolOwners := withoutPermit before.resources.protocolOwners permit } := by
  cases permit with
  | none => rw [(executes_pure_iff.mp ends).2]; rfl
  | some permit =>
      obtain ⟨phase, owned⟩ := permitted
      obtain ⟨call, middle, released, rest⟩ := executes_bind_iff.mp ends
      obtain ⟨rfl, -, middle_eq⟩ := ends_modifyGuard released
      have same : (before.plannedAttemptProtocol.guard.sameOwner permit.key permit.owner).isSome =
          true := by
        have found : before.plannedAttemptProtocol.guard.owners.lookup permit.key =
            some (.protocolOwner ⟨permit.owner, phase⟩) := owned
        simp [GuardState.sameOwner, found]
      simp only [GuardState.release, same, if_true] at rest middle_eq
      rw [ends_completeSignals rest, middle_eq]
      rfl

def withoutTarget (leases : IntegrationTargetResourceLeases) :
    Option IntegrationTargetResourceResponsibility → IntegrationTargetResourceLeases
  | none => leases
  | some responsibility => (leases.release responsibility).2

theorem ends_releaseIntegrationTarget
    {acquired : Option IntegrationTargetResourceResponsibility}
    (ends : Ends (releaseIntegrationTarget acquired) before result final) :
    final.resources =
      { before.resources with
        leases := withoutTarget before.resources.leases acquired } := by
  cases acquired with
  | none => rw [(executes_pure_iff.mp ends).2]; rfl
  | some responsibility =>
      obtain ⟨released, middle, releases, rest⟩ := executes_bind_iff.mp ends
      obtain ⟨-, -, middle_eq⟩ := ends_modifyTargets releases
      split at rest
      · obtain ⟨-, -, final_eq⟩ := ends_modifyTargets rest
        rw [final_eq, middle_eq]
        change { before.resources with leases := middle.resources.leases } = _
        rw [middle_eq]
        rfl
      · rw [(executes_pure_iff.mp rest).2, middle_eq]
        rfl

def withoutCreated (createdFor : Option TaskId) (proposalId : DeliveryProposalId)
    (current : AdmissionState) : AdmissionState :=
  match createdFor with
  | none => current
  | some taskId => current.releaseTaskReservation taskId proposalId

def withFreshRestored (freshTask : Option AdmissionState.FreshTaskPositionReservation)
    (proposalId : DeliveryProposalId) (current : AdmissionState) : AdmissionState :=
  match freshTask with
  | none => current
  | some reservation => current.restoreFreshTaskReservation reservation (some proposalId)

theorem ends_releaseCreatedPosition {createdFor : Option TaskId} {proposalId : DeliveryProposalId}
    (ends : Ends (releaseCreatedPosition createdFor proposalId) before result final) :
    final.resources =
      { before.resources with
        admission := withoutCreated createdFor proposalId before.resources.admission } := by
  cases createdFor with
  | none => rw [(executes_pure_iff.mp ends).2]; rfl
  | some taskId => exact ends_updateAdmission ends

variable {freshTask : Option AdmissionState.FreshTaskPositionReservation}

theorem ends_restoreFreshTask {proposalId : DeliveryProposalId}
    (ends : Ends (restoreFreshTask freshTask (some proposalId)) before result final) :
    final.resources =
      { before.resources with
        admission := withFreshRestored freshTask proposalId before.resources.admission } := by
  cases freshTask with
  | none => rw [(executes_pure_iff.mp ends).2]; rfl
  | some reservation => exact ends_updateAdmission ends

theorem ends_undoPrepared {proposal : DeliveryActionProposal}
    {permit : Option PlannedAttemptProtocolPermit} {ownerId : Nat}
    (permitted : Permitted before.resources.protocolOwners permit)
    (present : (before.resources.forwardOwners.lookup ownerId).isSome = true)
    (ends : Ends (undoPrepared proposal freshTask permit ownerId) before result final) :
    final.resources =
      { admission := withFreshRestored freshTask proposal.id before.resources.admission
        protocolOwners := withoutPermit before.resources.protocolOwners permit
        leases := before.resources.leases
        forwardOwners := before.resources.forwardOwners.erase ownerId } := by
  obtain ⟨_, restored, restores, rest⟩ := executes_bind_iff.mp ends
  obtain ⟨_, released, releases, removes⟩ := executes_bind_iff.mp rest
  have restored_eq := ends_restoreFreshTask restores
  have released_eq := ends_releasePermit (by rw [restored_eq]; exact permitted) releases
  have final_eq := ends_removeForwardOwner
    (by rw [released_eq, restored_eq]; exact present) removes
  rw [final_eq, released_eq, restored_eq]

end Parts

section Paths

variable {before final : DeliveryRuntime} {proposal : DeliveryActionProposal}
  {freshTask : Option AdmissionState.FreshTaskPositionReservation}

def AcquiresHeldTarget (proposal : DeliveryActionProposal)
    (leases : IntegrationTargetResourceLeases) : Prop :=
  ∃ responsibility, proposal.admission.integrationTarget = some ⟨.acquire, responsibility⟩ ∧
    (leases.exactLease responsibility).isSome = true

def TargetGranted (proposal : DeliveryActionProposal)
    (leases later : IntegrationTargetResourceLeases)
    (acquired : Option IntegrationTargetResourceResponsibility) : Prop :=
  (acquired = none ∧ later = leases ∧ ¬ AcquiresHeldTarget proposal leases) ∨
    ∃ responsibility permit,
      proposal.admission.integrationTarget = some ⟨.acquire, responsibility⟩ ∧
        acquired = some responsibility ∧ leases.acquire responsibility permit = (none, later)

/-- A refused target leaves the leases as they were. -/
theorem ends_reserveIntegration {integration : IntegrationReservation}
    (ends : Ends (reserveIntegration proposal) before integration final) :
    (integration = .unavailable ∧ ¬ AcquiresHeldTarget proposal before.resources.leases ∧
      final.resources = before.resources) ∨
      ((∃ message, integration = .defect message) ∧
        ∃ responsibility permit, (before.resources.leases.acquire responsibility permit).1 =
          some .invalidBinding) ∨
      ∃ acquired, integration = .admitted acquired ∧
        final.resources = { before.resources with leases := final.resources.leases } ∧
          TargetGranted proposal before.resources.leases final.resources.leases acquired := by
  unfold reserveIntegration at ends
  split at ends
  · next unrequired =>
      obtain ⟨rfl, rfl⟩ := executes_pure_iff.mp ends
      refine Or.inr (Or.inr ⟨none, rfl, rfl, Or.inl ⟨rfl, rfl, ?_⟩⟩)
      rintro ⟨responsibility, required, -⟩
      rw [unrequired] at required
      contradiction
  · next responsibility required =>
      obtain ⟨answer, middle, acquires, rest⟩ := executes_bind_iff.mp ends
      obtain ⟨rfl, -, middle_eq⟩ := ends_modifyTargets acquires
      set targets := before.integrationTargets with targets_eq
      have leases : (targets.acquire responsibility).2.leases =
          (targets.leases.acquire responsibility targets.nextPermit).2 := by
        simp only [IntegrationTargetResourceState.acquire]
        split <;> rfl
      cases conflict : (targets.leases.acquire responsibility targets.nextPermit).1 with
      | none =>
          have completed : (targets.acquire responsibility).1 = .completed := by
            simp [IntegrationTargetResourceState.acquire, conflict]
          simp only [completed] at rest
          obtain ⟨rfl, rfl⟩ := executes_pure_iff.mp rest
          refine Or.inr (Or.inr ⟨some responsibility, rfl, by rw [middle_eq], Or.inr ?_⟩)
          refine ⟨responsibility, targets.nextPermit, required, rfl, ?_⟩
          rw [middle_eq, leases]
          exact Prod.ext conflict rfl
      | some problem =>
          have same := IntegrationTargetResourceLeases.acquire_conflict
            (by rw [conflict]; exact Option.some_ne_none problem)
          have unheld : ¬ AcquiresHeldTarget proposal before.resources.leases := by
            rintro ⟨other, otherRequired, held⟩
            rw [required] at otherRequired
            cases otherRequired
            obtain ⟨lease, held⟩ := Option.isSome_iff_exists.mp held
            have granted := IntegrationTargetResourceLeases.acquire_of_held targets.nextPermit held
            rw [show targets.leases = before.resources.leases from rfl, granted] at conflict
            contradiction
          rw [leases, same] at middle_eq
          have unchanged : middle.resources = before.resources := by
            rw [middle_eq]
            rfl
          cases problem with
          | invalidBinding =>
              have defect : (targets.acquire responsibility).1 = .defect invalidBindingDefect := by
                simp [IntegrationTargetResourceState.acquire, conflict]
              simp only [defect] at rest
              exact Or.inr (Or.inl ⟨⟨_, (executes_pure_iff.mp rest).1⟩, responsibility,
                targets.nextPermit, conflict⟩)
          | identityTargetMismatch acquiredTarget =>
              have mismatch : (targets.acquire responsibility).1 =
                  .targetMismatch acquiredTarget (integrationResponsibilityIdentity responsibility)
                    responsibility.integrationTarget := by
                simp [IntegrationTargetResourceState.acquire, conflict]
              simp only [mismatch] at rest
              obtain ⟨rfl, rfl⟩ := executes_pure_iff.mp rest
              exact Or.inl ⟨rfl, unheld, unchanged⟩
          | targetUnavailable lease =>
              have unavailable : (targets.acquire responsibility).1 =
                  .unavailable lease.identity (integrationResponsibilityIdentity responsibility)
                    responsibility.integrationTarget := by
                simp [IntegrationTargetResourceState.acquire, conflict]
              simp only [unavailable] at rest
              obtain ⟨rfl, rfl⟩ := executes_pure_iff.mp rest
              exact Or.inl ⟨rfl, unheld, unchanged⟩
  · next access responsibility other required =>
    have unheld : ¬ AcquiresHeldTarget proposal before.resources.leases := by
      rintro ⟨acquired, acquires, -⟩
      rw [required] at acquires
      cases acquires
      exact other rfl
    obtain ⟨held, middle, observes, rest⟩ := executes_bind_iff.mp ends
    obtain ⟨_, first, readsAccepted, more⟩ := executes_bind_iff.mp observes
    obtain ⟨_, second, readsLease, answers⟩ := executes_bind_iff.mp more
    obtain ⟨-, rfl⟩ := executes_pure_iff.mp answers
    have unchanged : middle.resources = before.resources :=
      (ends_read readsLease).1.resources.trans (ends_read readsAccepted).1.resources
    split at rest
    · obtain ⟨rfl, rfl⟩ := executes_pure_iff.mp rest
      exact Or.inr (Or.inr ⟨none, rfl, by rw [unchanged],
        Or.inl ⟨rfl, by rw [unchanged], unheld⟩⟩)
    · obtain ⟨rfl, rfl⟩ := executes_pure_iff.mp rest
      exact Or.inl ⟨rfl, unheld, unchanged⟩

def reservedPosition (proposal : DeliveryActionProposal)
    (freshTask : Option AdmissionState.FreshTaskPositionReservation) (current : AdmissionState) :
    TaskPositionReservation × AdmissionState :=
  match freshTask with
  | none => current.reserveTaskPositionState proposal
  | some _ => (⟨true, none⟩, current)

theorem ends_reserveTaskPosition {task : TaskPositionReservation}
    (ends : Ends (reserveTaskPosition proposal freshTask) before task final) :
    task = (reservedPosition proposal freshTask before.admission).1 ∧
      final.resources =
        { before.resources with
          admission := (reservedPosition proposal freshTask before.admission).2 } := by
  cases freshTask with
  | none => exact ends_modifyAdmission ends
  | some reservation =>
      obtain ⟨rfl, rfl⟩ := executes_pure_iff.mp ends
      exact ⟨rfl, rfl⟩

/-- The resources of a reservation that gave back its permit and its owner. -/
def undone (runtime : DeliveryRuntime) (permit : Option PlannedAttemptProtocolPermit)
    (ownerId : Nat) (admission : AdmissionState) (leases : IntegrationTargetResourceLeases) :
    Resources where
  admission := admission
  protocolOwners := withoutPermit runtime.resources.protocolOwners permit
  leases := leases
  forwardOwners := runtime.resources.forwardOwners.erase ownerId

/-- The positions that a reservation leaves when it fails after its position was granted. -/
def positionsAfterFailure (proposal : DeliveryActionProposal)
    (freshTask : Option AdmissionState.FreshTaskPositionReservation) (current : AdmissionState) :
    AdmissionState :=
  withFreshRestored freshTask proposal.id
    (withoutCreated (reservedPosition proposal freshTask current).1.createdFor proposal.id
      (reservedPosition proposal freshTask current).2)

theorem ends_reservePermitted {permit : Option PlannedAttemptProtocolPermit} {ownerId : Nat}
    {outcome : DeliveryAdmissionOutcome}
    (permitted : Permitted before.resources.protocolOwners permit)
    (present : (before.resources.forwardOwners.lookup ownerId).isSome = true)
    (ends : Ends (reservePermitted proposal freshTask permit ownerId) before outcome final) :
    (outcome = .deferred .taskWorkPositionUnavailable ∧
      (reservedPosition proposal freshTask before.admission).1.admitted = false ∧
      final.resources = before.undone permit ownerId (withFreshRestored freshTask proposal.id
        (reservedPosition proposal freshTask before.admission).2) before.resources.leases) ∨
    (outcome = .deferred .integrationTargetUnavailable ∧
      (reservedPosition proposal freshTask before.admission).1.admitted = true ∧
      ¬ AcquiresHeldTarget proposal before.resources.leases ∧
      final.resources = before.undone permit ownerId
        (positionsAfterFailure proposal freshTask before.admission) before.resources.leases) ∨
    (outcome = .applicationExiting ∧
      (reservedPosition proposal freshTask before.admission).1.admitted = true ∧
      ∃ acquired leases, TargetGranted proposal before.resources.leases leases acquired ∧
        final.resources = before.undone permit ownerId
          (positionsAfterFailure proposal freshTask before.admission)
          (withoutTarget leases acquired)) ∨
    (∃ reservation, outcome = .admitted reservation) ∨
      (∃ message, outcome = .died message) ∧ ¬ before.resources.leases.MutuallyInverse := by
  obtain ⟨task, reserved, reserves, rest⟩ := executes_bind_iff.mp ends
  obtain ⟨rfl, reserved_eq⟩ := ends_reserveTaskPosition reserves
  split at rest
  · next refused =>
      left
      obtain ⟨_, undoing, undoes, returns⟩ := executes_bind_iff.mp rest
      obtain ⟨rfl, rfl⟩ := executes_pure_iff.mp returns
      refine ⟨rfl, by simpa using refused, ?_⟩
      rw [ends_undoPrepared (by rw [reserved_eq]; exact permitted)
        (by rw [reserved_eq]; exact present) undoes, reserved_eq]
      rfl
  · next granted =>
      right
      have admitted : (reservedPosition proposal freshTask before.admission).1.admitted = true := by
        simpa using granted
      obtain ⟨integration, leased, leases, rest⟩ := executes_bind_iff.mp rest
      obtain ⟨rfl, unheld, leased_eq⟩ | ⟨⟨message, rfl⟩, responsibility, permit, invalid⟩ |
        ⟨acquired, rfl, leased_eq, grantedTarget⟩ := ends_reserveIntegration leases
      · left
        obtain ⟨_, released, releases, rest⟩ := executes_bind_iff.mp rest
        obtain ⟨_, undoing, undoes, returns⟩ := executes_bind_iff.mp rest
        obtain ⟨rfl, rfl⟩ := executes_pure_iff.mp returns
        rw [reserved_eq] at unheld
        refine ⟨rfl, admitted, unheld, ?_⟩
        have released_eq := ends_releaseCreatedPosition releases
        rw [leased_eq, reserved_eq] at released_eq
        rw [ends_undoPrepared (by rw [released_eq]; exact permitted)
          (by rw [released_eq]; exact present) undoes, released_eq]
        rfl
      · refine Or.inr (Or.inr (Or.inr ⟨⟨message, (executes_pure_iff.mp rest).1⟩, ?_⟩))
        intro inverse
        rw [reserved_eq] at invalid
        exact (IntegrationTargetResourceLeases.acquire_cases inverse responsibility permit).1 invalid
      · right
        obtain ⟨registered, owned, registers, rest⟩ := executes_bind_iff.mp rest
        cases registered with
        | true =>
            obtain ⟨reservation, issued, issues, returns⟩ := executes_bind_iff.mp rest
            exact Or.inr (Or.inl ⟨reservation, (executes_pure_iff.mp returns).1⟩)
        | false =>
            left
            have owned_eq := ends_registerForwardOwner registers
            obtain ⟨_, freed, frees, rest⟩ := executes_bind_iff.mp rest
            obtain ⟨_, released, releases, rest⟩ := executes_bind_iff.mp rest
            obtain ⟨_, undoing, undoes, returns⟩ := executes_bind_iff.mp rest
            obtain ⟨rfl, rfl⟩ := executes_pure_iff.mp returns
            rw [reserved_eq] at leased_eq grantedTarget
            have freed_eq := ends_releaseIntegrationTarget frees
            have released_eq := ends_releaseCreatedPosition releases
            refine ⟨rfl, admitted, acquired, leased.resources.leases, grantedTarget, ?_⟩
            rw [owned_eq, leased_eq] at freed_eq
            rw [freed_eq] at released_eq
            rw [ends_undoPrepared (by rw [released_eq]; exact permitted)
              (by rw [released_eq]; exact present) undoes, released_eq]
            rfl

end Paths

end DeliveryRuntime

end Dalph
