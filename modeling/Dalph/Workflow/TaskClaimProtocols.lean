import Dalph.Foundation.Dialogue
import Dalph.TaskTracker.Facts

/-!
# Claiming and releasing a task

Both protocols read the claim of the task before every request and once more after the last one.
Requests may fail without telling whether they were applied, and others may change the claim between
a read and the request it led to.
-/

namespace Dalph

open Dialogue (Exchange Respondent Careful Rounds)

inductive TaskClaimRequestOutcome where
  | definitelyNotApplied
  | unknown
deriving DecidableEq

/-- Atomic acquisition found a different claim. -/
structure TaskClaimConflict where
  attempted : TaskClaimAcquisition
  observed : ActiveTaskClaim
deriving DecidableEq

/-- Release did not name the current claim. -/
structure TaskClaimOwnershipConflict where
  attempted : ActiveTaskClaim
  observed : TaskClaimObservation
deriving DecidableEq

structure TaskClaimRequestFailure where
  acquisition : TaskClaimAcquisition
  detail : String
  outcome : TaskClaimRequestOutcome
deriving DecidableEq

/-- The tracker gave no observation of the claim. -/
structure TaskClaimReadFailure where
  detail : String
  taskId : TaskId
deriving DecidableEq

/-- A release request returned without proving whether the claim was deleted. -/
structure TaskClaimReleaseFailure where
  release : TaskClaimRelease
  detail : String
deriving DecidableEq

/-- Failures of `acquireTaskClaim`.  Lost ownership and throttling are handed on unread. -/
inductive AcquireTaskClaimFailure (Refusal : Type) where
  | conflict (failure : TaskClaimConflict)
  | read (failure : TaskClaimReadFailure)
  | request (failure : TaskClaimRequestFailure)
  | refused (refusal : Refusal)
deriving DecidableEq

inductive ReleaseTaskClaimFailure (Refusal : Type) where
  | ownershipConflict (failure : TaskClaimOwnershipConflict)
  | read (failure : TaskClaimReadFailure)
  | release (failure : TaskClaimReleaseFailure)
  | refused (refusal : Refusal)
deriving DecidableEq

abbrev TaskClaimReading : Type :=
  Except TaskClaimReadFailure TaskClaimObservation

def TaskClaimObservation.IsForeign (claim : ActiveTaskClaim)
    (observation : TaskClaimObservation) : Prop :=
  ∃ other, observation = .activeTaskClaim other ∧ isExactTaskClaim other claim = false

def TaskClaimObservation.IsUnclaimed (observation : TaskClaimObservation) : Prop :=
  ∃ taskId, observation = .unclaimedTask taskId

theorem isExactTaskClaim_iff {left right : ActiveTaskClaim} :
    isExactTaskClaim left right = true ↔ left = right := by
  simp [isExactTaskClaim]

structure TaskClaimAcquisitionRead where
  operationId : OperationId
  readOrdinal : Nat
deriving DecidableEq

inductive AcquisitionCall where
  | readTaskClaim (taskId : TaskId)
  | readTaskClaimForAcquisition (taskId : TaskId) (acquisitionRead : TaskClaimAcquisitionRead)
  | acquireTaskClaim (acquisition : TaskClaimAcquisition)
deriving DecidableEq

namespace AcquisitionCall

abbrev Answer (Refusal : Type) : AcquisitionCall → Type
  | .readTaskClaim _ => TaskClaimReading
  | .readTaskClaimForAcquisition _ _ => TaskClaimReading
  | .acquireTaskClaim _ => Except (AcquireTaskClaimFailure Refusal) ActiveTaskClaim

end AcquisitionCall

inductive TaskClaimAcquisitionFailure (Refusal : Type) where
  | didNotConverge (acquisition : TaskClaimAcquisition) (attempts : Nat)
  | failed (failure : AcquireTaskClaimFailure Refusal)
deriving DecidableEq

inductive AcquisitionPassFailure (Refusal : Type) where
  | repeatTaskClaimObservation
  | failed (failure : AcquireTaskClaimFailure Refusal)
deriving DecidableEq

def AcquisitionPassFailure.isRepeat {Refusal : Type} : AcquisitionPassFailure Refusal → Bool
  | .repeatTaskClaimObservation => true
  | .failed _ => false

def maximumTaskClaimRequestCount : Nat := 3

def acceptObservedActiveClaim (observation attemptedClaim : ActiveTaskClaim)
    (acquisition : TaskClaimAcquisition) : Except TaskClaimConflict ActiveTaskClaim :=
  if isExactTaskClaim observation attemptedClaim then .ok observation
  else .error ⟨acquisition, observation⟩

section Acquisition

variable {Refusal : Type}

/-- Reads the claim, through the observer of acquisition reads where the tracker has one. -/
def readCurrentClaim (observesReads : Bool) (acquisition : TaskClaimAcquisition) (readCount : Nat) :
    Dialogue AcquisitionCall (AcquisitionCall.Answer Refusal) (TaskClaimReading × Nat) :=
  if observesReads then
    .ask (.readTaskClaimForAcquisition acquisition.taskId ⟨acquisition.operationId, readCount + 1⟩)
      fun reading => .conclude (reading, readCount + 1)
  else
    .ask (.readTaskClaim acquisition.taskId) fun reading => .conclude (reading, readCount + 1)

/-- One read and, where it shows the task unclaimed, one request. -/
def acquisitionPass (observesReads : Bool) (acquisition : TaskClaimAcquisition) (readCount : Nat) :
    Dialogue AcquisitionCall (AcquisitionCall.Answer Refusal)
      (Except (AcquisitionPassFailure Refusal) ActiveTaskClaim × Nat) :=
  (readCurrentClaim observesReads acquisition readCount).andThen fun
    | (.error failure, readCount) => .conclude (.error (.failed (.read failure)), readCount)
    | (.ok (.activeTaskClaim observation), readCount) =>
        match acceptObservedActiveClaim observation acquisition.claim acquisition with
        | .ok claim => .conclude (.ok claim, readCount)
        | .error conflict => .conclude (.error (.failed (.conflict conflict)), readCount)
    | (.ok (.unclaimedTask _), readCount) =>
        .ask (.acquireTaskClaim acquisition) fun
          | .error (.conflict failure) =>
              .conclude (.error (.failed (.conflict failure)), readCount)
          | .error (.read failure) => .conclude (.error (.failed (.read failure)), readCount)
          | .error (.refused refusal) => .conclude (.error (.failed (.refused refusal)), readCount)
          | .error (.request _) => .conclude (.error .repeatTaskClaimObservation, readCount)
          | .ok _ => .conclude (.error .repeatTaskClaimObservation, readCount)

/-- After the last pass: the last request is as ambiguous as every other, so the claim is read once
more. -/
def finishAcquisition (observesReads : Bool) (acquisition : TaskClaimAcquisition)
    (readCount : Nat) :
    AcquisitionPassFailure Refusal → Dialogue AcquisitionCall (AcquisitionCall.Answer Refusal)
      (Except (TaskClaimAcquisitionFailure Refusal) ActiveTaskClaim)
  | .failed failure => .conclude (.error (.failed failure))
  | .repeatTaskClaimObservation =>
      (readCurrentClaim observesReads acquisition readCount).andThen fun
        | (.error failure, _) => .conclude (.error (.failed (.read failure)))
        | (.ok (.activeTaskClaim observation), _) =>
            match acceptObservedActiveClaim observation acquisition.claim acquisition with
            | .ok claim => .conclude (.ok claim)
            | .error conflict => .conclude (.error (.failed (.conflict conflict)))
        | (.ok (.unclaimedTask _), _) =>
            .conclude (.error (.didNotConverge acquisition maximumTaskClaimRequestCount))

def runTaskClaimAcquisitionProtocol (observesReads : Bool) (acquisition : TaskClaimAcquisition) :
    Dialogue AcquisitionCall (AcquisitionCall.Answer Refusal)
      (Except (TaskClaimAcquisitionFailure Refusal) ActiveTaskClaim) :=
  Dialogue.retryOrElse AcquisitionPassFailure.isRepeat (acquisitionPass observesReads acquisition)
    (finishAcquisition observesReads acquisition) (maximumTaskClaimRequestCount - 1) 0

namespace AcquisitionCall

def isRequest : AcquisitionCall → Bool
  | .readTaskClaim _ => false
  | .readTaskClaimForAcquisition _ _ => false
  | .acquireTaskClaim _ => true

def shown (taskId : TaskId) : Exchange (Answer Refusal) → Option TaskClaimObservation
  | ⟨.readTaskClaim asked, reading⟩ => if asked = taskId then reading.toOption else none
  | ⟨.readTaskClaimForAcquisition asked _, reading⟩ =>
      if asked = taskId then reading.toOption else none
  | ⟨.acquireTaskClaim _, _⟩ => none

def Permitted (acquisition : TaskClaimAcquisition) (last act : Exchange (Answer Refusal)) : Prop :=
  act.1 = .acquireTaskClaim acquisition ∧
    ∃ observation ∈ shown acquisition.taskId last, observation.IsUnclaimed

def ShowsForeign (acquisition : TaskClaimAcquisition) (exchange : Exchange (Answer Refusal)) :
    Prop :=
  ∃ observation ∈ shown acquisition.taskId exchange, observation.IsForeign acquisition.claim

end AcquisitionCall

open AcquisitionCall (isRequest shown Permitted ShowsForeign)

/-- An acquisition acts carefully, and its success rests on the claim it read last. -/
structure AcquisitionOutcome (acquisition : TaskClaimAcquisition)
    (said : List (Exchange (AcquisitionCall.Answer Refusal)))
    (result : Except (TaskClaimAcquisitionFailure Refusal) ActiveTaskClaim) : Prop where
  careful : Careful (fun exchange => isRequest exchange.1) (Permitted acquisition)
    (ShowsForeign acquisition) maximumTaskClaimRequestCount said
  rests : ∀ claim, result = .ok claim → claim = acquisition.claim ∧
    ∃ last ∈ said.getLast?, shown acquisition.taskId last = some (.activeTaskClaim claim)

/-- What was said in so many rounds of a read and a request of unknown effect. -/
abbrev AcquisitionRounds (acquisition : TaskClaimAcquisition) (requests : Nat)
    (said : List (Exchange (AcquisitionCall.Answer Refusal))) : Prop :=
  Rounds (fun exchange => isRequest exchange.1) (Permitted acquisition) (ShowsForeign acquisition)
    requests said

/-- An exchange is a read of the task with this answer. -/
structure IsAcquisitionRead (acquisition : TaskClaimAcquisition) (reading : TaskClaimReading)
    (exchange : Exchange (AcquisitionCall.Answer Refusal)) : Prop where
  passive : isRequest exchange.1 = false
  shows : shown acquisition.taskId exchange = reading.toOption

variable {acquisition : TaskClaimAcquisition} {observesReads : Bool} {requests readCount : Nat}
  {said : List (Exchange (AcquisitionCall.Answer Refusal))} {reading : TaskClaimReading}
  {exchange : Exchange (AcquisitionCall.Answer Refusal)}
  {result : Except (TaskClaimAcquisitionFailure Refusal) ActiveTaskClaim}

theorem readCurrentClaim_establishes :
    (readCurrentClaim observesReads acquisition readCount).Establishes
      (fun after answer => ∃ exchange, after = said ++ [exchange] ∧
        IsAcquisitionRead acquisition answer.1 exchange) said := by
  unfold readCurrentClaim
  split <;> exact fun reading => ⟨_, rfl, rfl, by simp [shown]⟩

theorem acceptObservedActiveClaim_eq_ok {observation claim : ActiveTaskClaim}
    (accepts : acceptObservedActiveClaim observation acquisition.claim acquisition = .ok claim) :
    claim = observation ∧ claim = acquisition.claim := by
  unfold acceptObservedActiveClaim at accepts
  split at accepts
  next exact =>
    cases accepts
    exact ⟨rfl, isExactTaskClaim_iff.mp exact⟩
  next => cases accepts

section

variable (rounds : AcquisitionRounds acquisition requests said)
  (few : requests ≤ maximumTaskClaimRequestCount)
include rounds few

theorem acquisitionOutcome_of_read (read : IsAcquisitionRead acquisition reading exchange)
    (rests : ∀ claim, result = .ok claim →
      claim = acquisition.claim ∧ reading = .ok (.activeTaskClaim claim)) :
    AcquisitionOutcome acquisition (said ++ [exchange]) result where
  careful := (rounds.listen read.passive).mono few
  rests := fun claim success => by
    obtain ⟨asked, shows⟩ := rests claim success
    refine ⟨asked, exchange, by simp, ?_⟩
    rw [read.shows, shows]
    rfl

theorem acquisitionOutcome_of_claim {observation : ActiveTaskClaim}
    (read : IsAcquisitionRead acquisition (.ok (.activeTaskClaim observation)) exchange)
    {claim : ActiveTaskClaim}
    (accepts : acceptObservedActiveClaim observation acquisition.claim acquisition = .ok claim) :
    @AcquisitionOutcome Refusal acquisition (said ++ [exchange]) (.ok claim) := by
  refine acquisitionOutcome_of_read rounds few read fun other success => ?_
  obtain ⟨rfl, asked⟩ := acceptObservedActiveClaim_eq_ok accepts
  cases success
  exact ⟨asked, rfl⟩

end

section Unclaimed

variable {taskId : TaskId}

theorem not_showsForeign_of_unclaimed
    (read : IsAcquisitionRead acquisition (.ok (.unclaimedTask taskId)) exchange) :
    ¬ ShowsForeign acquisition exchange := by
  rintro ⟨observation, shows, other, rfl, -⟩
  rw [read.shows] at shows
  cases shows

theorem permitted_of_unclaimed
    (read : IsAcquisitionRead acquisition (.ok (.unclaimedTask taskId)) exchange)
    (answer : Except (AcquireTaskClaimFailure Refusal) ActiveTaskClaim) :
    Permitted acquisition exchange ⟨.acquireTaskClaim acquisition, answer⟩ :=
  ⟨rfl, _, read.shows, taskId, rfl⟩

theorem AcquisitionRounds.request (rounds : AcquisitionRounds acquisition requests said)
    (read : IsAcquisitionRead acquisition (.ok (.unclaimedTask taskId)) exchange)
    (answer : Except (AcquireTaskClaimFailure Refusal) ActiveTaskClaim) :
    AcquisitionRounds acquisition (requests + 1)
      (said ++ [exchange] ++ [⟨.acquireTaskClaim acquisition, answer⟩]) := by
  refine rounds.another read.passive (not_showsForeign_of_unclaimed read)
    (permitted_of_unclaimed read answer) ?_
  rintro ⟨observation, shows, -⟩
  cases shows

theorem acquisitionOutcome_of_request (rounds : AcquisitionRounds acquisition requests said)
    (few : requests < maximumTaskClaimRequestCount)
    (read : IsAcquisitionRead acquisition (.ok (.unclaimedTask taskId)) exchange)
    (answer : Except (AcquireTaskClaimFailure Refusal) ActiveTaskClaim)
    (failure : TaskClaimAcquisitionFailure Refusal) :
    AcquisitionOutcome acquisition
      (said ++ [exchange] ++ [⟨.acquireTaskClaim acquisition, answer⟩]) (.error failure) where
  careful := (rounds.act read.passive (not_showsForeign_of_unclaimed read)
    (permitted_of_unclaimed read answer)).mono few
  rests := fun claim success => by cases success

end Unclaimed

def AfterPass (acquisition : TaskClaimAcquisition) (requests : Nat)
    (said : List (Exchange (AcquisitionCall.Answer Refusal))) :
    Except (AcquisitionPassFailure Refusal) ActiveTaskClaim × Nat → Prop
  | (.ok claim, _) => AcquisitionOutcome acquisition said (.ok claim)
  | (.error (.failed failure), _) => AcquisitionOutcome acquisition said (.error (.failed failure))
  | (.error .repeatTaskClaimObservation, _) => AcquisitionRounds acquisition (requests + 1) said

theorem acquisitionPass_establishes (rounds : AcquisitionRounds acquisition requests said)
    (few : requests < maximumTaskClaimRequestCount) :
    (acquisitionPass observesReads acquisition readCount).Establishes
      (AfterPass acquisition requests) said := by
  refine readCurrentClaim_establishes.andThen ?_
  rintro after ⟨reading, count⟩ ⟨exchange, rfl, read⟩
  obtain failure | (observation | taskId) := reading
  · exact acquisitionOutcome_of_read rounds few.le read fun claim success => by cases success
  · dsimp only
    split
    next claim accepts => exact acquisitionOutcome_of_claim rounds few.le read accepts
    next => exact acquisitionOutcome_of_read rounds few.le read fun claim success => by cases success
  · intro answer
    obtain (conflict | failure | failure | refusal) | claim := answer
    · exact acquisitionOutcome_of_request rounds few read _ _
    · exact acquisitionOutcome_of_request rounds few read _ _
    · exact rounds.request read _
    · exact acquisitionOutcome_of_request rounds few read _ _
    · exact rounds.request read _

theorem finishAcquisition_establishes (rounds : AcquisitionRounds acquisition requests said)
    (few : requests ≤ maximumTaskClaimRequestCount) :
    (finishAcquisition observesReads acquisition readCount
      .repeatTaskClaimObservation).Establishes (AcquisitionOutcome acquisition) said := by
  refine readCurrentClaim_establishes.andThen ?_
  rintro after ⟨reading, count⟩ ⟨exchange, rfl, read⟩
  obtain failure | (observation | taskId) := reading
  · exact acquisitionOutcome_of_read rounds few read fun claim success => by cases success
  · dsimp only
    split
    next claim accepts => exact acquisitionOutcome_of_claim rounds few read accepts
    next => exact acquisitionOutcome_of_read rounds few read fun claim success => by cases success
  · exact acquisitionOutcome_of_read rounds few read fun claim success => by cases success

def BeforePass (acquisition : TaskClaimAcquisition) (left _readCount : Nat)
    (said : List (Exchange (AcquisitionCall.Answer Refusal))) : Prop :=
  ∃ requests, requests + left + 1 = maximumTaskClaimRequestCount ∧
    AcquisitionRounds acquisition requests said

theorem runTaskClaimAcquisitionProtocol_establishes :
    (runTaskClaimAcquisitionProtocol observesReads acquisition).Establishes
      (@AcquisitionOutcome Refusal acquisition) [] := by
  have begins : @BeforePass Refusal acquisition (maximumTaskClaimRequestCount - 1) 0 [] :=
    ⟨0, rfl, Dialogue.rounds_nil⟩
  refine Dialogue.retryOrElse_establishes (BeforePass acquisition)
    (fun left said outcome => ∃ requests, requests + left + 1 = maximumTaskClaimRequestCount ∧
      AfterPass acquisition requests said outcome) ?_ ?_ ?_ ?_ begins
  · rintro left readCount said ⟨requests, total, rounds⟩
    exact (acquisitionPass_establishes rounds (by omega)).mono fun after => ⟨requests, total, after⟩
  · rintro left said result readCount ⟨requests, total, outcome⟩
    exact outcome
  · rintro left said (_ | failure) readCount ⟨requests, total, rounds⟩ asks
    · exact ⟨requests + 1, by omega, rounds⟩
    · cases asks
  · rintro left said (_ | failure) readCount ⟨requests, total, outcome⟩ last
    · exact finishAcquisition_establishes outcome (by have := last rfl; omega)
    · exact outcome

end Acquisition

inductive ReleaseCall where
  | readTaskClaim (taskId : TaskId) (readOrdinal : Nat)
  | releaseTaskClaim (release : TaskClaimRelease)
deriving DecidableEq

abbrev ReleaseCall.Answer (Refusal : Type) : ReleaseCall → Type
  | .readTaskClaim _ _ => TaskClaimReading
  | .releaseTaskClaim _ => Except (ReleaseTaskClaimFailure Refusal) Unit

inductive TaskClaimReleaseProtocolFailure (Refusal : Type) where
  | didNotConverge (attempts : Nat) (release : TaskClaimRelease)
  | failed (failure : ReleaseTaskClaimFailure Refusal)
deriving DecidableEq

/-- The tracker freshly proved that the claim is absent. -/
structure AuthoritativeTaskClaimReleased where
  release : TaskClaimRelease
deriving DecidableEq

def taskClaimReleaseRequestBound : Nat := 3

section Release

variable {Refusal : Type}

/-- The rounds of the loop that are left, from one count of attempts on. -/
def releaseRounds (release : TaskClaimRelease) : (rounds attempts : Nat) →
    Dialogue ReleaseCall (ReleaseCall.Answer Refusal)
      (Except (TaskClaimReleaseProtocolFailure Refusal) AuthoritativeTaskClaimReleased)
  | 0, _ => .conclude (.error (.didNotConverge taskClaimReleaseRequestBound release))
  | rounds + 1, attempts =>
      .ask (.readTaskClaim release.claim.taskId (attempts + 1)) fun
        | .error failure => .conclude (.error (.failed (.read failure)))
        | .ok (.unclaimedTask _) => .conclude (.ok ⟨release⟩)
        | .ok (.activeTaskClaim observed) =>
            if isExactTaskClaim observed release.claim then
              if attempts = taskClaimReleaseRequestBound then
                .conclude (.error (.didNotConverge attempts release))
              else
                .ask (.releaseTaskClaim release) fun
                  | .error (.ownershipConflict failure) =>
                      .conclude (.error (.failed (.ownershipConflict failure)))
                  | .error (.read failure) => .conclude (.error (.failed (.read failure)))
                  | .error (.refused refusal) => .conclude (.error (.failed (.refused refusal)))
                  | .error (.release _) => releaseRounds release rounds (attempts + 1)
                  | .ok _ => releaseRounds release rounds (attempts + 1)
            else
              .conclude (.error (.failed
                (.ownershipConflict ⟨release.claim, .activeTaskClaim observed⟩)))

def runTaskClaimReleaseProtocol (release : TaskClaimRelease) :
    Dialogue ReleaseCall (ReleaseCall.Answer Refusal)
      (Except (TaskClaimReleaseProtocolFailure Refusal) AuthoritativeTaskClaimReleased) :=
  releaseRounds release (taskClaimReleaseRequestBound + 1) 0

namespace ReleaseCall

def isRequest : ReleaseCall → Bool
  | .readTaskClaim _ _ => false
  | .releaseTaskClaim _ => true

def shown (taskId : TaskId) : Exchange (Answer Refusal) → Option TaskClaimObservation
  | ⟨.readTaskClaim asked _, reading⟩ => if asked = taskId then reading.toOption else none
  | ⟨.releaseTaskClaim _, _⟩ => none

def Permitted (release : TaskClaimRelease) (last act : Exchange (Answer Refusal)) : Prop :=
  act.1 = .releaseTaskClaim release ∧
    shown release.claim.taskId last = some (.activeTaskClaim release.claim)

def ShowsForeign (release : TaskClaimRelease) (exchange : Exchange (Answer Refusal)) : Prop :=
  ∃ observation ∈ shown release.claim.taskId exchange, observation.IsForeign release.claim

end ReleaseCall

/-- A release acts carefully, and its success rests on the task it read unclaimed last. -/
structure ReleaseOutcome (release : TaskClaimRelease)
    (said : List (Exchange (ReleaseCall.Answer Refusal)))
    (result : Except (TaskClaimReleaseProtocolFailure Refusal) AuthoritativeTaskClaimReleased) :
    Prop where
  careful : Careful (fun exchange => exchange.1.isRequest) (ReleaseCall.Permitted release)
    (ReleaseCall.ShowsForeign release) taskClaimReleaseRequestBound said
  rests : ∀ released, result = .ok released → released = ⟨release⟩ ∧ ∃ last ∈ said.getLast?,
    ∃ observation ∈ ReleaseCall.shown release.claim.taskId last, observation.IsUnclaimed

/-- What was said in so many rounds of a read and a request of unknown effect. -/
abbrev ReleaseRounds (release : TaskClaimRelease) (requests : Nat)
    (said : List (Exchange (ReleaseCall.Answer Refusal))) : Prop :=
  Rounds (fun exchange => exchange.1.isRequest) (ReleaseCall.Permitted release)
    (ReleaseCall.ShowsForeign release) requests said

variable {release : TaskClaimRelease} {requests ordinal : Nat}
  {said : List (Exchange (ReleaseCall.Answer Refusal))}

theorem releaseOutcome_of_read (rounds : ReleaseRounds release requests said)
    (few : requests ≤ taskClaimReleaseRequestBound) (reading : TaskClaimReading)
    (failure : TaskClaimReleaseProtocolFailure Refusal) :
    ReleaseOutcome release (said ++ [⟨.readTaskClaim release.claim.taskId ordinal, reading⟩])
      (.error failure) where
  careful := (rounds.listen rfl).mono few
  rests := fun released success => by cases success

theorem releaseOutcome_of_unclaimed (rounds : ReleaseRounds release requests said)
    (few : requests ≤ taskClaimReleaseRequestBound) (taskId : TaskId) :
    ReleaseOutcome release
      (said ++ [⟨.readTaskClaim release.claim.taskId ordinal, .ok (.unclaimedTask taskId)⟩])
      (.ok ⟨release⟩) where
  careful := (rounds.listen rfl).mono few
  rests := fun released success => by
    refine ⟨(Except.ok.inj success).symm, _, Option.mem_def.mpr List.getLast?_concat, ?_⟩
    exact ⟨.unclaimedTask taskId, by simp [ReleaseCall.shown, Except.toOption], taskId, rfl⟩

section Exact

abbrev exactRead (release : TaskClaimRelease) (ordinal : Nat) :
    Exchange (ReleaseCall.Answer Refusal) :=
  ⟨.readTaskClaim release.claim.taskId ordinal, .ok (.activeTaskClaim release.claim)⟩

theorem shown_exactRead : ReleaseCall.shown release.claim.taskId
    (@exactRead Refusal release ordinal) = some (.activeTaskClaim release.claim) := by
  simp [ReleaseCall.shown, Except.toOption]

theorem not_showsForeign_exactRead :
    ¬ ReleaseCall.ShowsForeign release (@exactRead Refusal release ordinal) := by
  rintro ⟨observation, shows, other, rfl, differs⟩
  rw [shown_exactRead] at shows
  cases shows
  simp [isExactTaskClaim] at differs

theorem ReleaseRounds.request (rounds : ReleaseRounds release requests said)
    (answer : Except (ReleaseTaskClaimFailure Refusal) Unit) :
    ReleaseRounds release (requests + 1)
      (said ++ [exactRead release ordinal] ++ [⟨.releaseTaskClaim release, answer⟩]) := by
  refine rounds.another rfl not_showsForeign_exactRead ⟨rfl, shown_exactRead⟩ ?_
  rintro ⟨observation, shows, -⟩
  cases shows

theorem releaseOutcome_of_request (rounds : ReleaseRounds release requests said)
    (few : requests < taskClaimReleaseRequestBound)
    (answer : Except (ReleaseTaskClaimFailure Refusal) Unit)
    (failure : TaskClaimReleaseProtocolFailure Refusal) :
    ReleaseOutcome release
      (said ++ [exactRead release ordinal] ++ [⟨.releaseTaskClaim release, answer⟩])
      (.error failure) where
  careful := (rounds.act rfl not_showsForeign_exactRead ⟨rfl, shown_exactRead⟩).mono few
  rests := fun released success => by cases success

end Exact

theorem releaseRounds_establishes {left : Nat}
    (total : requests + left = taskClaimReleaseRequestBound + 1) (some_left : 0 < left)
    (rounds : ReleaseRounds release requests said) :
    (releaseRounds release left requests).Establishes (ReleaseOutcome release) said := by
  induction left generalizing requests said with
  | zero => exact absurd some_left (lt_irrefl 0)
  | succ left induction =>
      have few : requests ≤ taskClaimReleaseRequestBound := by omega
      intro reading
      obtain failure | (observed | taskId) := reading
      · exact releaseOutcome_of_read rounds few _ _
      · dsimp only
        split
        next exact_claim =>
          obtain rfl := isExactTaskClaim_iff.mp exact_claim
          split
          next => exact releaseOutcome_of_read rounds few _ _
          next unfinished =>
            have fewer : requests < taskClaimReleaseRequestBound := by omega
            intro answer
            obtain (failure | failure | failure | refusal) | ⟨⟩ := answer
            · exact releaseOutcome_of_request rounds fewer _ _
            · exact releaseOutcome_of_request rounds fewer _ _
            · exact induction (by omega) (by omega) (rounds.request _)
            · exact releaseOutcome_of_request rounds fewer _ _
            · exact induction (by omega) (by omega) (rounds.request _)
        next => exact releaseOutcome_of_read rounds few _ _
      · exact releaseOutcome_of_unclaimed rounds few taskId

theorem runTaskClaimReleaseProtocol_establishes :
    (runTaskClaimReleaseProtocol release).Establishes (@ReleaseOutcome Refusal release) [] :=
  releaseRounds_establishes rfl (Nat.succ_pos _) Dialogue.rounds_nil

end Release

/-- Whatever the tracker answers and others do to the claim between two calls, both protocols end
after at most three requests, each sent directly after a read that permits it; they end on a read of
a foreign claim, and succeed only on what they read last. -/
theorem taskClaimProtocols_spare_foreign_claims {Refusal : Type} :
    (∀ (observesReads : Bool) (acquisition : TaskClaimAcquisition)
      (respondent : Respondent (AcquisitionCall.Answer Refusal)),
      AcquisitionOutcome acquisition
        ((runTaskClaimAcquisitionProtocol observesReads acquisition).converse respondent []).1
        ((runTaskClaimAcquisitionProtocol observesReads acquisition).converse respondent []).2) ∧
    ∀ (release : TaskClaimRelease) (respondent : Respondent (ReleaseCall.Answer Refusal)),
      ReleaseOutcome release
        ((runTaskClaimReleaseProtocol release).converse respondent []).1
        ((runTaskClaimReleaseProtocol release).converse respondent []).2 :=
  ⟨fun _ _ respondent => runTaskClaimAcquisitionProtocol_establishes.converse respondent,
    fun _ respondent => runTaskClaimReleaseProtocol_establishes.converse respondent⟩

end Dalph
