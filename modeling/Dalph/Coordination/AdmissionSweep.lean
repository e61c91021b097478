import Dalph.Coordination.ReservationAtomicity
import Dalph.Foundation.Dialogue

/-!
# The admission sweep

A sweep repeats admission passes over one evaluation as long as a pass starts something.  A pass asks
for the reservation of available proposals and, where none of an existing responsibility was
deferred, of a fresh candidate.  Everything that is started gets a live owner, which keeps its
proposal out of the later passes.
-/

namespace Dalph

open Dialogue (Exchange Respondent)

/-! ## Proposals and deferrals -/

inductive DeliveryProposalOrder where
  | recoveredWorkflowOrder (responsibilityBeganAt : Option JournalPosition)
  | otherOrder
deriving DecidableEq

/-- What the admission loop reads of a proposed action. -/
structure SweepProposal where
  id : DeliveryProposalId
  /-- `liveActionKeyOf`, the identity of the action across changes of its route. -/
  liveActionKey : String
  order : DeliveryProposalOrder
  waitsForLiveOperationId : Option OperationId
deriving DecidableEq

def isExistingResponsibilityDeliveryProposal (proposal : SweepProposal) : Bool :=
  match proposal.order with
  | .recoveredWorkflowOrder responsibilityBeganAt => responsibilityBeganAt.isSome
  | .otherOrder => false

abbrev LiveOwners := KeyedMap DeliveryProposalId SweepProposal

inductive DeliveryProposalFrontier where
  | deliveryProposalsAvailable (proposals : List SweepProposal)
      (freshTaskCandidates : List FreshTaskCandidate)
      (freshTaskCandidateFrontier : Option FreshTaskCandidateFrontier)
  | deliveryProposalOwnershipConflict (conflicts : List DeliveryProposalId)

def DeliveryProposalFrontier.proposals : DeliveryProposalFrontier → List SweepProposal
  | .deliveryProposalsAvailable proposals _ _ => proposals
  | .deliveryProposalOwnershipConflict _ => []

def DeliveryProposalFrontier.candidates : DeliveryProposalFrontier → List FreshTaskCandidate
  | .deliveryProposalsAvailable _ candidates _ => candidates
  | .deliveryProposalOwnershipConflict _ => []

/-- What a pass asks its surroundings. -/
inductive SweepQuestion where
  /-- The operations that the live owners have materialized so far. -/
  | liveOperationIds
  | reserveAndStart (proposal : SweepProposal)
  | reserveFreshAndStart (frontier : FreshTaskCandidateFrontier)

/-- Why a reservation is put off: a cleanup comes first, or admission has no resource. -/
inductive ReservationDeferral where
  | dispositionCleanupRequired
  | admission (reason : DeliveryDeferral)
deriving DecidableEq

/-- Outcome of a reservation; a start installs an owner and tells whether its action began. -/
inductive ReservationResult where
  | deferred (reason : ReservationDeferral)
  | started (started : Bool)

inductive FreshReservationResult where
  | deferred (reason : ReservationDeferral)
  | started (candidate : FreshTaskCandidate) (proposal : SweepProposal) (started : Bool)

/-- What a question is answered; `Failure` is that of the journal or of the exiting application. -/
abbrev SweepQuestion.Answer (Failure : Type) : SweepQuestion → Type
  | .liveOperationIds => List OperationId
  | .reserveAndStart _ => Except Failure ReservationResult
  | .reserveFreshAndStart _ => Except Failure FreshReservationResult

inductive SweepFailure (Failure : Type) where
  | proposalOwnershipConflict (proposalIds : List DeliveryProposalId)
  | failed (failure : Failure)
  | progressContradiction (maximumSuccessfulStarts successfulStarts : Nat)

/-! ## One pass -/

/-- Whether fresh candidates may be admitted in a pass. -/
inductive FreshAdmissionDecision where
  | freshAdmissionAllowed
  | freshAdmissionBlocked
deriving DecidableEq

inductive OrdinaryProposalAdmissionResult where
  | ordinaryProposalStarted (started : Bool) (owners : LiveOwners)
  | notStarted (freshAdmission : FreshAdmissionDecision)

section Pass

variable {Failure : Type}

end Pass

/-! ## The sweep -/

section Sweep

variable {Failure : Type}

end Sweep

/-! ## What a pass says -/

section Said

variable {Failure : Type}

def ordinaryStart? : Exchange (SweepQuestion.Answer Failure) → Option DeliveryProposalId
  | ⟨.reserveAndStart proposal, .ok (.started _)⟩ => some proposal.id
  | _ => none

def freshStart? : Exchange (SweepQuestion.Answer Failure) → Option FreshTaskCandidateId
  | ⟨.reserveFreshAndStart _, .ok (.started candidate _ _)⟩ => some candidate.id
  | _ => none

def asksFresh : Exchange (SweepQuestion.Answer Failure) → Bool
  | ⟨.reserveFreshAndStart _, _⟩ => true
  | _ => false

def defersExisting : Exchange (SweepQuestion.Answer Failure) → Bool
  | ⟨.reserveAndStart proposal, .ok (.deferred _)⟩ =>
      isExistingResponsibilityDeliveryProposal proposal
  | _ => false

/-- Nothing is started, and an existing responsibility that was put off blocks fresh candidates. -/
structure Waits (said : List (Exchange (SweepQuestion.Answer Failure)))
    (freshAdmission : FreshAdmissionDecision) : Prop where
  noOrdinary : said.filterMap ordinaryStart? = []
  noFresh : ∀ exchange ∈ said, asksFresh exchange = false
  blocks : ∀ exchange ∈ said, defersExisting exchange = true →
    freshAdmission = .freshAdmissionBlocked

inductive PassStarts (proposals : List SweepProposal) (owners : LiveOwners)
    (said : List (Exchange (SweepQuestion.Answer Failure))) : Option LiveOwners → Prop where
  | nothing (noOrdinary : said.filterMap ordinaryStart? = [])
      (noFresh : said.filterMap freshStart? = []) : PassStarts proposals owners said none
  | ordinary (proposal : SweepProposal) (listed : proposal ∈ proposals)
      (unowned : owners.lookup proposal.id = none)
      (started : said.filterMap ordinaryStart? = [proposal.id])
      (noFresh : said.filterMap freshStart? = []) :
      PassStarts proposals owners said (some (owners.insert proposal.id proposal))
  | fresh (candidate : FreshTaskCandidateId) (proposal : SweepProposal)
      (noOrdinary : said.filterMap ordinaryStart? = [])
      (started : said.filterMap freshStart? = [candidate]) :
      PassStarts proposals owners said (some (owners.insert proposal.id proposal))

/-- What the proposals of a pass come to. -/
inductive OrdinaryOutcome (proposals : List SweepProposal) (owners : LiveOwners)
    (said : List (Exchange (SweepQuestion.Answer Failure))) :
    Except (SweepFailure Failure) OrdinaryProposalAdmissionResult → Prop where
  | waits {freshAdmission : FreshAdmissionDecision} (waits : Waits said freshAdmission) :
      OrdinaryOutcome proposals owners said (.ok (.notStarted freshAdmission))
  | started (started : Bool) {later : LiveOwners}
      (starts : PassStarts proposals owners said (some later))
      (noFresh : ∀ exchange ∈ said, asksFresh exchange = false) :
      OrdinaryOutcome proposals owners said (.ok (.ordinaryProposalStarted started later))
  | failed (failure : Failure) (starts : PassStarts proposals owners said none)
      (noFresh : ∀ exchange ∈ said, asksFresh exchange = false) :
      OrdinaryOutcome proposals owners said (.error (.failed failure))

variable {proposals rest : List SweepProposal} {owners : LiveOwners}
  {said base : List (Exchange (SweepQuestion.Answer Failure))} {proposal : SweepProposal}
  {available : SweepProposal → Bool} {freshAdmission : FreshAdmissionDecision}
  {exchange : Exchange (SweepQuestion.Answer Failure)}

theorem freshStart?_eq_none (ordinary : asksFresh exchange = false) :
    freshStart? exchange = none := by
  obtain ⟨_ | _ | _, answer⟩ := exchange
  · rfl
  · rfl
  · cases ordinary

theorem filterMap_freshStart?_eq_nil (ordinary : ∀ exchange ∈ said, asksFresh exchange = false) :
    said.filterMap freshStart? = [] :=
  List.filterMap_eq_nil_iff.mpr fun exchange member => freshStart?_eq_none (ordinary exchange member)

namespace Waits

theorem noFresh_concat (waits : Waits said freshAdmission) (ordinary : asksFresh exchange = false) :
    ∀ other ∈ said ++ [exchange], asksFresh other = false := by
  intro other member
  obtain before | here := Log.mem_concat.mp member
  · exact waits.noFresh other before
  · rw [here]
    exact ordinary

theorem start (waits : Waits said freshAdmission) (listed : proposal ∈ proposals)
    (unowned : owners.lookup proposal.id = none) (started : Bool) :
    OrdinaryOutcome proposals owners
      (said ++ [⟨.reserveAndStart proposal, .ok (.started started)⟩])
      (.ok (.ordinaryProposalStarted started (owners.insert proposal.id proposal))) := by
  have noFresh := @noFresh_concat _ _ _ ⟨.reserveAndStart proposal, .ok (.started started)⟩ waits rfl
  refine .started _ (.ordinary proposal listed unowned ?_ (filterMap_freshStart?_eq_nil noFresh))
    noFresh
  rw [List.filterMap_append, waits.noOrdinary]
  rfl

end Waits

theorem PassStarts.cons {exchange : Exchange (SweepQuestion.Answer Failure)}
    {result : Option LiveOwners} (starts : PassStarts proposals owners said result)
    (ordinary : ordinaryStart? exchange = none) (fresh : freshStart? exchange = none) :
    PassStarts proposals owners (exchange :: said) result := by
  have ordinary := List.filterMap_cons_none (l := said) ordinary
  have fresh := List.filterMap_cons_none (l := said) fresh
  cases starts with
  | nothing noOrdinary noFresh =>
      exact .nothing (ordinary.trans noOrdinary) (fresh.trans noFresh)
  | ordinary other listed unowned started noFresh =>
      exact .ordinary other listed unowned (ordinary.trans started) (fresh.trans noFresh)
  | fresh candidate other noOrdinary started =>
      exact .fresh candidate other (ordinary.trans noOrdinary) (fresh.trans started)

structure StartsListed (proposals : List SweepProposal)
    (said : List (Exchange (SweepQuestion.Answer Failure))) : Prop where
  distinct : (said.filterMap ordinaryStart?).Nodup
  listed : ∀ id ∈ said.filterMap ordinaryStart?, id ∈ proposals.map (·.id)

def startCount (said : List (Exchange (SweepQuestion.Answer Failure))) : Nat :=
  (said.filterMap ordinaryStart?).length + (said.filterMap freshStart?).length

/-- What was said in so many passes that each started something, with the owners after them. -/
structure Swept (proposals : List SweepProposal) (pass : Nat) (owners : LiveOwners)
    (said : List (Exchange (SweepQuestion.Answer Failure))) : Prop
    extends StartsListed proposals said where
  owned : ∀ id ∈ said.filterMap ordinaryStart?, owners.lookup id ≠ none
  count : startCount said = pass

namespace Swept

variable {pass : Nat} {result : Option LiveOwners} {later : LiveOwners}
  {more : List (Exchange (SweepQuestion.Answer Failure))}

theorem startsListed (swept : Swept proposals pass owners said)
    (starts : PassStarts proposals owners more result) : StartsListed proposals (said ++ more) := by
  have silent : more.filterMap ordinaryStart? = [] → StartsListed proposals (said ++ more) := by
    intro nothing
    refine ⟨?_, ?_⟩
    · rw [List.filterMap_append, nothing, List.append_nil]
      exact swept.distinct
    · rw [List.filterMap_append, nothing, List.append_nil]
      exact swept.listed
  cases starts with
  | nothing noOrdinary noFresh => exact silent noOrdinary
  | fresh candidate proposal noOrdinary started => exact silent noOrdinary
  | ordinary proposal member unowned started noFresh =>
      refine ⟨?_, ?_⟩
      · rw [List.filterMap_append, started]
        refine List.nodup_append.mpr ⟨swept.distinct, List.nodup_singleton _, ?_⟩
        intro id earlier other here same
        rw [List.mem_singleton] at here
        subst here
        subst same
        exact swept.owned _ earlier unowned
      · intro id started_id
        rw [List.filterMap_append, started] at started_id
        obtain earlier | here := Log.mem_concat.mp started_id
        · exact swept.listed id earlier
        · rw [here]
          exact List.mem_map_of_mem member

theorem next (swept : Swept proposals pass owners said)
    (starts : PassStarts proposals owners more (some later)) :
    Swept proposals (pass + 1) later (said ++ more) where
  toStartsListed := swept.startsListed starts
  owned := by
    have kept : ∀ (proposal : SweepProposal), ∀ id ∈ said.filterMap ordinaryStart?,
        (owners.insert proposal.id proposal).lookup id ≠ none := by
      intro proposal id earlier
      rw [KeyedMap.lookup_insert_eq_ite]
      split
      · simp
      · exact swept.owned id earlier
    intro id member
    rw [List.filterMap_append] at member
    cases starts with
    | ordinary proposal listed unowned started noFresh =>
        rw [started] at member
        obtain earlier | here := Log.mem_concat.mp member
        · exact kept proposal id earlier
        · rw [here, AList.lookup_insert]
          simp
    | fresh candidate proposal noOrdinary started =>
        rw [noOrdinary, List.append_nil] at member
        exact kept proposal id member
  count := by
    have count := swept.count
    unfold startCount at count ⊢
    rw [List.filterMap_append, List.filterMap_append, List.length_append, List.length_append]
    cases starts with
    | ordinary proposal listed unowned started noFresh =>
        rw [started, noFresh, List.length_singleton, List.length_nil]
        omega
    | fresh candidate proposal noOrdinary started =>
        rw [started, noOrdinary, List.length_singleton, List.length_nil]
        omega

end Swept

theorem StartsListed.length_le (starts : StartsListed proposals said) :
    (said.filterMap ordinaryStart?).length ≤ proposals.length := by
  have fewer := (starts.distinct.subperm starts.listed).length_le
  rwa [List.length_map] at fewer

/-- Fresh reservations start candidates of the frontier, none of them twice. -/
structure FreshStartsOnce (candidates : List FreshTaskCandidate)
    (said : List (Exchange (SweepQuestion.Answer Failure))) : Prop where
  distinct : (said.filterMap freshStart?).Nodup
  offered : ∀ id ∈ said.filterMap freshStart?, id ∈ candidates.map (·.id)

theorem FreshStartsOnce.length_le {candidates : List FreshTaskCandidate}
    (once : FreshStartsOnce candidates said) :
    (said.filterMap freshStart?).length ≤ candidates.length := by
  have fewer := (once.distinct.subperm once.offered).length_le
  rwa [List.length_map] at fewer

end Said

namespace RepeatedFreshStart

def candidate : FreshTaskCandidate where
  reference := 1
  id := ⟨"candidate"⟩
  runId := ⟨"repeated fresh start", by decide⟩
  step := .acquireTaskClaim
  taskId := ⟨"fresh task"⟩

def frontier : FreshTaskCandidateFrontier where
  reference := 2
  acceptedAt := none
  candidates := [candidate]
  entryCapableTaskIds := [candidate.taskId]
  issued := true
  runId := candidate.runId

def proposal : SweepProposal where
  id := ⟨"fresh proposal"⟩
  liveActionKey := "fresh proposal"
  order := .otherOrder
  waitsForLiveOperationId := none

def respondent : Respondent (SweepQuestion.Answer Unit)
  | _, .liveOperationIds => []
  | _, .reserveAndStart _ => .ok (.deferred .dispositionCleanupRequired)
  | _, .reserveFreshAndStart _ => .ok (.started candidate proposal true)

def existing : SweepProposal where
  id := ⟨"existing proposal"⟩
  liveActionKey := "existing proposal"
  order := .recoveredWorkflowOrder (some 1)
  waitsForLiveOperationId := none

end RepeatedFreshStart

end Dalph
