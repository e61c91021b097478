import Dalph.Workflow.TargetPromotion.State

/-!
# Target promotion: history checks

Reconstruction accepts a promotion record only behind the records it follows from.  The indexes of
reconstruction hold, for one request, what is read off its earlier occurrences here.  The earlier Git
qualification of the candidate is not a promotion record and is not asked for.  An accepted history
has the state of its last record, and the checks of the promotion itself find nothing in it.
-/

namespace Dalph

open TargetPromotionJournalEvent

namespace TargetPromotionTerminalBasis

def ordinal : TargetPromotionTerminalBasis → Nat
  | beforeFirstAttempt => 0
  | afterAttempt attemptOrdinal => attemptOrdinal

def decodes : TargetPromotionTerminalBasis → Bool
  | beforeFirstAttempt => true
  | afterAttempt attemptOrdinal => 0 < attemptOrdinal

end TargetPromotionTerminalBasis

namespace TargetPromotionJournalEvent

def observationOrdinal? : TargetPromotionJournalEvent → Option Nat
  | safetyRefused _ _ _ observationOrdinal _ => some observationOrdinal
  | _ => none

def decodes : TargetPromotionJournalEvent → Bool
  | safetyRefused _ basis _ observationOrdinal _ => basis.decodes && 0 < observationOrdinal
  | intended _ => true
  | attemptIntended attemptOrdinal _ _ => 0 < attemptOrdinal
  | reconciliationDeferred afterAttemptOrdinal _ _ => 0 < afterAttemptOrdinal
  | observedSuccess basis _ _ => basis.decodes
  | stale basis _ _ => basis.decodes
  | nonConvergence attemptOrdinal _ _ => 0 < attemptOrdinal

def state : TargetPromotionJournalEvent → TargetPromotionState
  | safetyRefused boundary basis correlation observationOrdinal refusal =>
      .promotionSafetyRefused boundary correlation basis.retry refusal observationOrdinal
  | intended correlation => .promotionPending correlation .needInitialReconciliationRead
  | attemptIntended attemptOrdinal correlation _ =>
      .promotionPending correlation (.needReconciliationRead attemptOrdinal)
  | reconciliationDeferred afterAttemptOrdinal correlation deferral =>
      .promotionReconciliationDeferred afterAttemptOrdinal correlation deferral
  | observedSuccess basis correlation observation =>
      .promotionSucceeded basis correlation observation
  | stale basis correlation observation => .promotionStale basis correlation observation
  | nonConvergence attemptOrdinal correlation lastObservation =>
      .promotionNonConvergent attemptOrdinal correlation lastObservation

end TargetPromotionJournalEvent

namespace PromotionHistory

def hasAttempt (prior : PromotionHistory) (attemptOrdinal : Nat)
    (correlation : TargetPromotionCorrelation) : Bool :=
  prior.any fun event => event.attemptOrdinal? = some attemptOrdinal && event.correlation = correlation

def latestProgress (prior : PromotionHistory) : Option TargetPromotionJournalEvent :=
  (prior.filter fun event => event.isProgress || event.isRefusal).getLast?

/-- The first attempt follows the initial read, and every other one a read after its predecessor. -/
def exactPromotionAttemptReason (attemptOrdinal : Nat) (correlation : TargetPromotionCorrelation)
    (reason : TargetPromotionAttemptReason) : Bool :=
  if attemptOrdinal = 1 then reason = .initial correlation.expectedHead
  else reason = .reconciledExpectedHead correlation.expectedHead (attemptOrdinal - 1)

def validPromotionAttempt (prior : PromotionHistory) (attemptOrdinal : Nat)
    (correlation : TargetPromotionCorrelation) (reason : TargetPromotionAttemptReason) : Bool :=
  correlationFromIntent prior = some correlation && !prior.any isTerminal &&
    attemptOrdinal = prior.attemptOrdinals.length + 1 &&
    attemptOrdinal ≤ targetPromotionAttemptLimit && attemptOrdinal ∉ prior.attemptOrdinals &&
    exactPromotionAttemptReason attemptOrdinal correlation reason

/-- A deferral is the first one of the latest attempt. -/
def validPromotionDeferral (prior : PromotionHistory) (afterAttemptOrdinal : Nat)
    (correlation : TargetPromotionCorrelation)
    (deferral : TargetPromotionReconciliationDeferral) : Bool :=
  correlationFromIntent prior = some correlation &&
    prior.hasAttempt afterAttemptOrdinal correlation && !prior.any isTerminal &&
    afterAttemptOrdinal = prior.attemptOrdinals.length &&
    afterAttemptOrdinal ∉ prior.deferredAttempts &&
    targetPromotionReconciliationDeferralFieldIssue afterAttemptOrdinal correlation deferral = none

/-- Git showed the candidate current, or an ancestor of a head that is neither of the two. -/
def validPromotionSuccessObservation (basis : TargetPromotionTerminalBasis)
    (correlation : TargetPromotionCorrelation) : TargetPromotionSuccessObservation → Bool
  | .reconciledCandidateAncestor targetHeadSha =>
      targetHeadSha ≠ correlation.candidateCommit && targetHeadSha ≠ correlation.expectedHead
  | .reconciledCandidateCurrent targetHeadSha => targetHeadSha = correlation.candidateCommit
  | .compareAndSetApplied targetHeadSha =>
      targetHeadSha = correlation.candidateCommit && basis ≠ .beforeFirstAttempt

/-- Git showed a head that is neither the expected one nor the candidate. -/
def validPromotionStaleObservation (basis : TargetPromotionTerminalBasis)
    (correlation : TargetPromotionCorrelation) : TargetPromotionStaleObservation → Bool
  | .compareAndSetRejected observedHeadSha =>
      observedHeadSha ≠ correlation.expectedHead && observedHeadSha ≠ correlation.candidateCommit &&
        basis ≠ .beforeFirstAttempt
  | .reconciledCandidateNotInAncestry observedHeadSha =>
      observedHeadSha ≠ correlation.expectedHead && observedHeadSha ≠ correlation.candidateCommit

def validPromotionNonConvergenceObservation (attemptOrdinal : Nat)
    (correlation : TargetPromotionCorrelation) : TargetPromotionNonConvergenceObservation → Bool
  | .expectedHeadStillObserved observedHeadSha =>
      attemptOrdinal = targetPromotionAttemptLimit && observedHeadSha = correlation.expectedHead
  | .targetReadFailed _ => attemptOrdinal = targetPromotionAttemptLimit

def terminalBasisIsCausal (prior : PromotionHistory) (correlation : TargetPromotionCorrelation) :
    TargetPromotionTerminalBasis → Bool
  | .beforeFirstAttempt => prior.attemptOrdinals.length = 0
  | .afterAttempt attemptOrdinal =>
      attemptOrdinal = prior.attemptOrdinals.length && prior.hasAttempt attemptOrdinal correlation

def validPromotionTerminal (prior : PromotionHistory) (correlation : TargetPromotionCorrelation)
    (basis : TargetPromotionTerminalBasis) (observed : Bool) : Bool :=
  !prior.any isTerminal && correlationFromIntent prior = some correlation &&
    prior.terminalBasisIsCausal correlation basis && observed

/-- A refusal is the next observation about the latest attempt. -/
def validPromotionSafetyRefusal (prior : PromotionHistory) (boundary : TargetPromotionBoundary)
    (basis : TargetPromotionTerminalBasis) (correlation : TargetPromotionCorrelation)
    (observationOrdinal : Nat) : Bool :=
  (boundary ≠ .compareAndSet ||
      (basis ≠ .beforeFirstAttempt && prior.latestProgress.any (·.attemptOrdinal?.isSome))) &&
    correlationFromIntent prior = some correlation && !prior.any isTerminal &&
    basis.ordinal = prior.attemptOrdinals.length &&
    observationOrdinal = (prior.filterMap observationOrdinal?).getLast?.getD 0 + 1

/-- Validates one promotion event against the earlier occurrences of its request. -/
def validTargetPromotionRecord (prior : PromotionHistory) : TargetPromotionJournalEvent → Bool
  | .intended _ => !prior.any isIntent
  | .safetyRefused boundary basis correlation observationOrdinal _ =>
      prior.validPromotionSafetyRefusal boundary basis correlation observationOrdinal
  | .attemptIntended attemptOrdinal correlation reason =>
      prior.validPromotionAttempt attemptOrdinal correlation reason
  | .reconciliationDeferred afterAttemptOrdinal correlation deferral =>
      prior.validPromotionDeferral afterAttemptOrdinal correlation deferral
  | .observedSuccess basis correlation observation =>
      prior.validPromotionTerminal correlation basis
        (validPromotionSuccessObservation basis correlation observation)
  | .stale basis correlation observation =>
      prior.validPromotionTerminal correlation basis
        (validPromotionStaleObservation basis correlation observation)
  | .nonConvergence attemptOrdinal correlation lastObservation =>
      prior.validPromotionTerminal correlation (.afterAttempt attemptOrdinal)
        (validPromotionNonConvergenceObservation attemptOrdinal correlation lastObservation)

def invalidTargetPromotionDetail (prior : PromotionHistory) (event : TargetPromotionJournalEvent) :
    String :=
  let request := event.correlation.requestId.value
  match event with
  | .intended _ =>
      "target promotion intent has no exact earlier Integrator Git qualification for request " ++
        request
  | .safetyRefused .. =>
      "promotion safety refusal has no exact latest basis or sequential observation for request " ++
        request
  | .attemptIntended .. =>
      "target promotion attempt for request " ++ request ++ " expected exact sequential ordinal " ++
        toString (prior.attemptOrdinals.length + 1) ++ " at or below " ++
        toString targetPromotionAttemptLimit
  | .reconciliationDeferred afterAttemptOrdinal correlation deferral =>
      (targetPromotionReconciliationDeferralFieldIssue afterAttemptOrdinal correlation
        deferral).getD
        ("target promotion reconciliation deferral has no exact latest unresolved attempt for " ++
          "request " ++ request)
  | .observedSuccess .. | .stale .. | .nonConvergence .. =>
      "target promotion terminal has no exact latest unresolved attempt for request " ++ request

/-- The issue that one promotion event raises behind the earlier occurrences of its request. -/
def invalidTargetPromotionHistory (prior : PromotionHistory)
    (event : TargetPromotionJournalEvent) : Option String :=
  if prior.validTargetPromotionRecord event then none
  else some (invalidTargetPromotionDetail prior event)

/-- The decoded occurrences of one request in an accepted history. -/
structure Accepted (records : PromotionHistory) : Prop where
  decodes : ∀ event ∈ records, event.decodes
  history : firstIssue invalidTargetPromotionHistory [] records = none

section Occurrences

variable {records prior : PromotionHistory} {event : TargetPromotionJournalEvent}
  {issue : PromotionHistory → TargetPromotionJournalEvent → Option String}
  {kind : TargetPromotionJournalEvent → Bool}

theorem firstIssue_concat :
    firstIssue issue prior (records ++ [event]) = none ↔
      firstIssue issue prior records = none ∧ issue (prior ++ records) event = none := by
  induction records generalizing prior with
  | nil => cases found : issue prior event <;> simp [firstIssue, found]
  | cons first rest induction =>
      cases found : issue prior first with
      | some text => simp [firstIssue, found]
      | none => simp [firstIssue, found, induction]

theorem lastWhere_concat :
    lastWhere kind (records ++ [event]) =
      if kind event then some (event, records.length) else lastWhere kind records := by
  unfold lastWhere
  rw [List.zipIdx_append, List.filter_append]
  by_cases kept : kind event = true <;> simp [kept]

theorem lastWhere_concat_of (kept : kind event = true) :
    lastWhere kind (records ++ [event]) = some (event, records.length) := by
  rw [lastWhere_concat, if_pos kept]

theorem lastWhere_concat_of_not (other : kind event = false) :
    lastWhere kind (records ++ [event]) = lastWhere kind records := by
  rw [lastWhere_concat, if_neg (by simp [other])]

theorem lastWhere_eq_none : lastWhere kind records = none ↔ records.any kind = false := by
  unfold lastWhere
  rw [List.getLast?_eq_none_iff, List.filter_eq_nil_iff, List.any_eq_false]
  constructor
  · intro none event member
    obtain ⟨place, bound, rfl⟩ := List.getElem_of_mem member
    exact none (records[place], place) (List.mk_mem_zipIdx_iff_getElem?.mpr (by simp))
  · intro none occurrence member
    exact none occurrence.1 (List.fst_mem_of_mem_zipIdx member)

theorem lastWhere_place {place : Nat} (found : lastWhere kind records = some (event, place)) :
    place < records.length ∧ records[place]? = some event ∧ kind event := by
  have member := List.mem_filter.mp (List.mem_of_getLast? found)
  have occurrence := List.mk_mem_zipIdx_iff_getElem?.mp member.1
  exact ⟨(List.getElem?_eq_some_iff.mp occurrence).1, occurrence, member.2⟩

@[simp]
theorem correlationFromIntent_concat :
    correlationFromIntent (records ++ [event]) =
      if event.isIntent then some event.correlation else correlationFromIntent records := by
  unfold correlationFromIntent
  rw [lastWhere_concat]
  split <;> rfl

@[simp]
theorem attemptOrdinals_concat :
    attemptOrdinals (records ++ [event]) = records.attemptOrdinals ++ event.attemptOrdinal?.toList := by
  unfold attemptOrdinals
  rw [List.filterMap_append]
  cases found : event.attemptOrdinal? <;> simp [found]

@[simp]
theorem deferredAttempts_concat :
    deferredAttempts (records ++ [event]) =
      records.deferredAttempts ++ event.deferredAttempt?.toList := by
  unfold deferredAttempts
  rw [List.filterMap_append]
  cases found : event.deferredAttempt? <;> simp [found]

theorem lastWhere_attempt {latest : Nat} (last : records.attemptOrdinals.getLast? = some latest) :
    ∃ attempt place, lastWhere (·.attemptOrdinal?.isSome) records = some (attempt, place) ∧
      attempt.attemptOrdinal? = some latest := by
  induction records using List.reverseRecOn with
  | nil => cases last
  | append_singleton earlier event induction =>
      rw [attemptOrdinals_concat] at last
      cases numbered : event.attemptOrdinal? with
      | none =>
          rw [lastWhere_concat_of_not (by simp [numbered])]
          exact induction (by simpa [numbered] using last)
      | some attemptOrdinal =>
          rw [lastWhere_concat_of (by simp [numbered])]
          exact ⟨event, earlier.length, rfl, by simpa [numbered] using last⟩

theorem accepted_concat :
    Accepted (records ++ [event]) ↔
      Accepted records ∧ event.decodes ∧ records.validTargetPromotionRecord event := by
  have checked : invalidTargetPromotionHistory records event = none ↔
      records.validTargetPromotionRecord event := by
    unfold invalidTargetPromotionHistory
    split <;> simp_all
  constructor
  · intro accepted
    obtain ⟨earlier, last⟩ := firstIssue_concat.mp accepted.history
    refine ⟨⟨fun event member => accepted.decodes event (by simp [member]), earlier⟩, ?_⟩
    exact ⟨accepted.decodes event (by simp), checked.mp last⟩
  · rintro ⟨accepted, decodes, valid⟩
    refine ⟨?_, firstIssue_concat.mpr ⟨accepted.history, checked.mpr valid⟩⟩
    intro other member
    rcases List.mem_append.mp member with earlier | last
    · exact accepted.decodes other earlier
    · rw [List.mem_singleton.mp last]
      exact decodes

end Occurrences

variable {records : PromotionHistory}

section

variable {correlation : TargetPromotionCorrelation}
  (exact_ : ∀ event ∈ records, event.correlation = correlation)
include exact_

theorem relevant_of_exact : records.relevantPromotionOccurrences correlation = records :=
  List.filter_eq_self.mpr fun event member => decide_eq_true (exact_ event member)

theorem undisputed_of_exact : records.targetPromotionCorrelationConflictFor correlation = none := by
  rw [targetPromotionCorrelationConflictFor, Option.map_eq_none_iff, List.find?_eq_none]
  intro event member
  simp [exact_ event member]

end

theorem exact_of_validated {correlation : TargetPromotionCorrelation}
    {derived : Option TargetPromotionState}
    (validated : records.validateTargetPromotionState correlation = .ok derived)
    (bucket : ∀ event ∈ records, event.correlation.requestId = correlation.requestId) :
    ∀ event ∈ records, event.correlation = correlation := by
  intro event member
  by_contra other
  have disputed : records.targetPromotionCorrelationConflictFor correlation ≠ none := by
    rw [targetPromotionCorrelationConflictFor, Ne, Option.map_eq_none_iff, List.find?_eq_none]
    intro none
    exact none event member (by simp [bucket event member, other])
  obtain ⟨conflict, found⟩ := Option.ne_none_iff_exists'.mp disputed
  rw [validateTargetPromotionState, found] at validated
  cases validated

theorem getD_getLast?_range' (count : Nat) :
    (List.range' 1 count).getLast?.getD 0 = count := by
  rw [List.getLast?_range']
  split <;> simp_all

namespace Accepted

variable {records : PromotionHistory} {event : TargetPromotionJournalEvent}
  {correlation : TargetPromotionCorrelation}

theorem follows_intent (valid : records.validTargetPromotionRecord event)
    (progress : event.isIntent = false) :
    correlationFromIntent records = some event.correlation ∧ records.any isTerminal = false := by
  cases event <;>
    simp_all [validTargetPromotionRecord, validPromotionSafetyRefusal, validPromotionAttempt,
      validPromotionDeferral, validPromotionTerminal, TargetPromotionJournalEvent.correlation,
      isIntent]

section

variable (accepted : Accepted records)
include accepted

theorem intent (present : records ≠ []) : records.any isIntent = true := by
  induction records using List.reverseRecOn with
  | nil => exact absurd rfl present
  | append_singleton earlier last induction =>
      obtain ⟨acceptedEarlier, -, valid⟩ := accepted_concat.mp accepted
      by_cases first : last.isIntent = true
      · simp [first]
      · obtain ⟨intended, -⟩ := follows_intent valid (by simpa using first)
        have nonempty : earlier ≠ [] := by
          rintro rfl
          cases intended
        simp [induction acceptedEarlier nonempty]

theorem nil_of_intent {intended : TargetPromotionCorrelation}
    (valid : records.validTargetPromotionRecord (.intended intended)) : records = [] := by
  by_contra present
  have before := accepted.intent present
  simp [validTargetPromotionRecord, before] at valid

theorem numbered :
    records.attemptOrdinals = List.range' 1 records.attemptOrdinals.length ∧
      records.attemptOrdinals.length ≤ targetPromotionAttemptLimit := by
  induction records using List.reverseRecOn with
  | nil => exact ⟨rfl, by decide⟩
  | append_singleton earlier last induction =>
      obtain ⟨acceptedEarlier, -, valid⟩ := accepted_concat.mp accepted
      obtain ⟨ordered, bounded⟩ := induction acceptedEarlier
      cases last with
      | attemptIntended attemptOrdinal correlation reason =>
          simp only [validTargetPromotionRecord, validPromotionAttempt, Bool.and_eq_true,
            decide_eq_true_eq] at valid
          obtain ⟨⟨⟨⟨-, next⟩, limit⟩, -⟩, -⟩ := valid
          rw [attemptOrdinals_concat]
          simp only [attemptOrdinal?, Option.toList_some, List.length_append, List.length_singleton]
          refine ⟨?_, by omega⟩
          rw [List.range'_concat, ← ordered, next, Nat.add_comm, Nat.one_mul]
      | _ => simpa [attemptOrdinal?] using ⟨ordered, bounded⟩

theorem getLast?_attemptOrdinals :
    records.attemptOrdinals.getLast? =
      if records.attemptOrdinals.length = 0 then none
      else some records.attemptOrdinals.length := by
  rw [accepted.numbered.1, List.getLast?_range', List.length_range']
  split <;> simp_all

theorem basis_of_ordinal {basis : TargetPromotionTerminalBasis} (decodes : basis.decodes = true)
    (ordinal : basis.ordinal = records.attemptOrdinals.length) :
    basis = .ofPrevious records.attemptOrdinals.getLast? := by
  rw [accepted.getLast?_attemptOrdinals, ← ordinal]
  cases basis with
  | beforeFirstAttempt => rfl
  | afterAttempt attemptOrdinal =>
      have positive : attemptOrdinal ≠ 0 := (of_decide_eq_true decodes).ne'
      simp [TargetPromotionTerminalBasis.ordinal, positive, TargetPromotionTerminalBasis.ofPrevious]

theorem latest_of_deferral {afterAttemptOrdinal : Nat}
    {deferral : TargetPromotionReconciliationDeferral}
    (valid : records.validTargetPromotionRecord
      (.reconciliationDeferred afterAttemptOrdinal correlation deferral)) :
    records.attemptOrdinals.getLast? = some afterAttemptOrdinal := by
  simp only [validTargetPromotionRecord, validPromotionDeferral, hasAttempt, Bool.and_eq_true,
    decide_eq_true_eq, List.any_eq_true] at valid
  obtain ⟨⟨⟨⟨⟨-, attempt, member, ordinal, -⟩, -⟩, latest⟩, -⟩, -⟩ := valid
  have present : afterAttemptOrdinal ∈ records.attemptOrdinals :=
    List.mem_filterMap.mpr ⟨attempt, member, ordinal⟩
  rw [accepted.getLast?_attemptOrdinals, ← latest, if_neg]
  rintro rfl
  exact absurd (List.eq_nil_of_length_eq_zero latest.symm) (List.ne_nil_of_mem present)

theorem observations :
    records.filterMap observationOrdinal? = List.range' 1 (records.countP isRefusal) := by
  induction records using List.reverseRecOn with
  | nil => rfl
  | append_singleton earlier last induction =>
      obtain ⟨acceptedEarlier, -, valid⟩ := accepted_concat.mp accepted
      have counted := induction acceptedEarlier
      cases last with
      | safetyRefused boundary basis correlation observationOrdinal refusal =>
          simp only [validTargetPromotionRecord, validPromotionSafetyRefusal, Bool.and_eq_true,
            decide_eq_true_eq, counted, getD_getLast?_range'] at valid
          simp [List.filterMap_append, observationOrdinal?, counted, isRefusal, valid.2,
            List.range'_concat, Nat.add_comm]
      | _ =>
          simpa [List.filterMap_append, List.filterMap_cons, observationOrdinal?, isRefusal] using
            counted

theorem latestProgress_attempt (open_ : records.any isTerminal = false)
    (attempt : records.latestProgress.any (·.attemptOrdinal?.isSome)) :
    records.getLast?.any (·.attemptOrdinal?.isSome) := by
  induction records using List.reverseRecOn with
  | nil => cases attempt
  | append_singleton earlier last _ =>
      obtain ⟨acceptedEarlier, -, valid⟩ := accepted_concat.mp accepted
      cases last with
      | intended correlation =>
          rw [acceptedEarlier.nil_of_intent valid] at attempt
          cases attempt
      | observedSuccess | stale | nonConvergence => simp [isTerminal] at open_
      | attemptIntended => simp [attemptOrdinal?]
      | safetyRefused | reconciliationDeferred =>
          simp [latestProgress, isProgress, isRefusal, attemptOrdinal?, deferredAttempt?] at attempt

end

theorem refusedStateFor_refusal (earlier : PromotionHistory) (boundary : TargetPromotionBoundary)
    (basis : TargetPromotionTerminalBasis) (correlation : TargetPromotionCorrelation)
    (observationOrdinal : Nat) (refusal : TargetPromotionSafetyRefusal) :
    refusedStateFor
        (earlier ++ [.safetyRefused boundary basis correlation observationOrdinal refusal]) =
      some (.promotionSafetyRefused boundary correlation basis.retry refusal
        observationOrdinal) := by
  unfold refusedStateFor
  rw [lastWhere_concat, lastWhere_concat]
  cases progressed : lastWhere isProgress earlier with
  | none => simp [isRefusal, isProgress, attemptOrdinal?, deferredAttempt?, stateFromRefusal]
  | some progress =>
      obtain ⟨event, place⟩ := progress
      have before := (lastWhere_place progressed).1
      simp [isRefusal, isProgress, attemptOrdinal?, deferredAttempt?, stateFromRefusal, before]

variable {earlier : PromotionHistory}

theorem refusedStateFor_progress {progress : TargetPromotionJournalEvent}
    (progressed : progress.isProgress = true) (unrefused : progress.isRefusal = false) :
    refusedStateFor (earlier ++ [progress]) = none := by
  unfold refusedStateFor
  rw [lastWhere_concat, lastWhere_concat]
  cases refused : lastWhere isRefusal earlier with
  | none => simp [unrefused]
  | some refusal =>
      obtain ⟨event, place⟩ := refusal
      have before := (lastWhere_place refused).1
      simp [unrefused, progressed, before.le]

theorem deferredStateFor_deferral {afterAttemptOrdinal : Nat}
    {deferral : TargetPromotionReconciliationDeferral}
    (latest : earlier.attemptOrdinals.getLast? = some afterAttemptOrdinal) :
    deferredStateFor
        (earlier ++ [.reconciliationDeferred afterAttemptOrdinal correlation deferral]) =
      some (.promotionReconciliationDeferred afterAttemptOrdinal correlation deferral) := by
  obtain ⟨attempt, place, found, numbered⟩ := lastWhere_attempt latest
  have before := (lastWhere_place found).1
  unfold deferredStateFor
  rw [lastWhere_concat_of_not rfl, found, lastWhere_concat_of rfl]
  simp [deferredAttempt?, numbered, stateFromDeferral, before]

theorem deferredStateFor_attempt {attemptOrdinal : Nat} {reason : TargetPromotionAttemptReason} :
    deferredStateFor (earlier ++ [.attemptIntended attemptOrdinal correlation reason]) = none := by
  unfold deferredStateFor
  rw [lastWhere_concat_of rfl, lastWhere_concat_of_not rfl]
  cases deferred : lastWhere (·.deferredAttempt?.isSome) earlier with
  | none => rfl
  | some deferral =>
      obtain ⟨event, place⟩ := deferral
      have before := (lastWhere_place deferred).1
      simp [before.le]

theorem derived (accepted : Accepted records)
    (exact_ : ∀ event ∈ records, event.correlation = correlation) :
    records.deriveTargetPromotionState correlation = records.getLast?.map state := by
  unfold deriveTargetPromotionState
  simp only [undisputed_of_exact exact_, relevant_of_exact exact_]
  induction records using List.reverseRecOn with
  | nil => rfl
  | append_singleton earlier last _ =>
      obtain ⟨acceptedEarlier, -, valid⟩ := accepted_concat.mp accepted
      rw [List.getLast?_concat, Option.map_some]
      cases last with
      | observedSuccess | stale | nonConvergence =>
          rw [lastWhere_concat]
          rfl
      | intended correlation =>
          rw [acceptedEarlier.nil_of_intent valid]
          rfl
      | safetyRefused boundary basis correlation observationOrdinal refusal =>
          obtain ⟨intended, open_⟩ := follows_intent valid rfl
          rw [lastWhere_concat_of_not rfl, lastWhere_eq_none.mpr open_,
            correlationFromIntent_concat, if_neg (by simp [isIntent]), intended,
            refusedStateFor_refusal]
          rfl
      | attemptIntended attemptOrdinal correlation reason =>
          obtain ⟨intended, open_⟩ := follows_intent valid rfl
          rw [lastWhere_concat_of_not rfl, lastWhere_eq_none.mpr open_,
            correlationFromIntent_concat, if_neg (by simp [isIntent]), intended,
            refusedStateFor_progress rfl rfl, deferredStateFor_attempt]
          simp only [pendingStateFor]
          rw [lastWhere_concat_of rfl]
          rfl
      | reconciliationDeferred afterAttemptOrdinal correlation deferral =>
          obtain ⟨intended, open_⟩ := follows_intent valid rfl
          have latest := acceptedEarlier.latest_of_deferral valid
          rw [lastWhere_concat_of_not rfl, lastWhere_eq_none.mpr open_,
            correlationFromIntent_concat, if_neg (by simp [isIntent]), intended,
            refusedStateFor_progress rfl rfl, deferredStateFor_deferral latest]
          rfl

theorem deferrals (accepted : Accepted records) :
    firstIssue reconciliationDeferralCausalIssue [] records = none := by
  induction records using List.reverseRecOn with
  | nil => rfl
  | append_singleton earlier last induction =>
      obtain ⟨acceptedEarlier, -, valid⟩ := accepted_concat.mp accepted
      refine firstIssue_concat.mpr ⟨induction acceptedEarlier, ?_⟩
      rw [List.nil_append]
      cases last with
      | reconciliationDeferred afterAttemptOrdinal correlation deferral =>
          obtain ⟨intended, open_⟩ := follows_intent valid rfl
          have latest := acceptedEarlier.latest_of_deferral valid
          simp only [validTargetPromotionRecord, validPromotionDeferral, Bool.and_eq_true,
            decide_eq_true_eq] at valid
          simp [reconciliationDeferralCausalIssue, intended, open_, latest, valid.1.2, valid.2]
      | _ => rfl

theorem refusals (accepted : Accepted records) :
    firstIssue safetyRefusalCausalIssue [] records = none := by
  induction records using List.reverseRecOn with
  | nil => rfl
  | append_singleton earlier last induction =>
      obtain ⟨acceptedEarlier, decodes, valid⟩ := accepted_concat.mp accepted
      refine firstIssue_concat.mpr ⟨induction acceptedEarlier, ?_⟩
      rw [List.nil_append]
      cases last with
      | safetyRefused boundary basis correlation observationOrdinal refusal =>
          obtain ⟨intended, open_⟩ := follows_intent valid rfl
          simp only [validTargetPromotionRecord, validPromotionSafetyRefusal, Bool.and_eq_true,
            decide_eq_true_eq, acceptedEarlier.observations, getD_getLast?_range'] at valid
          obtain ⟨⟨⟨⟨known, -⟩, -⟩, ordinal⟩, next⟩ := valid
          have basis_eq := acceptedEarlier.basis_of_ordinal
            (Bool.and_eq_true_iff.mp decodes).1 ordinal
          have direct : knownMutationRefusal earlier boundary basis = true := by
            rcases Bool.or_eq_true_iff.mp known with read | mutation
            · simp [knownMutationRefusal, read]
            · obtain ⟨after, attempt⟩ := Bool.and_eq_true_iff.mp mutation
              simp [knownMutationRefusal, after, acceptedEarlier.latestProgress_attempt open_ attempt]
          simp [safetyRefusalCausalIssue, direct, intended, open_, ← basis_eq, next]
      | _ => rfl

theorem validated (accepted : Accepted records)
    (exact_ : ∀ event ∈ records, event.correlation = correlation) :
    records.validateTargetPromotionState correlation = .ok (records.getLast?.map state) := by
  simp [validateTargetPromotionState, undisputed_of_exact exact_,
    targetPromotionReconciliationDeferralIssueFor, targetPromotionSafetyRefusalIssueFor,
    relevant_of_exact exact_, accepted.deferrals, accepted.refusals, accepted.derived exact_]

end Accepted

end PromotionHistory

end Dalph
