import Dalph.Foundation.Loop
import Dalph.Workflow.DirectPublication.Once

/-!
# Direct publication: consistent histories

A history that reduces to no contradiction was consistent at every earlier point.  Its attempts are
numbered without a gap, three to a batch at most; a proof names an attempt intended before it and
ends the history but for further receipts.  On a validated journal the batch that a state reports
holds exactly the intents of its grant.
-/

namespace Dalph

/-! ## Everything the protocol journals -/

/-- Journaled events of the protocol; only transitions carry the correlation of a publication. -/
inductive RemotePublicationJournalEvent where
  | admissionReadIntended
  | admissionObserved
  | transition (event : RemotePublicationTransitionEvent)
  | batchGrantApplied (request : RemotePublicationBatchGrantRequest)
deriving DecidableEq

def RemotePublicationJournalEvent.transition? :
    RemotePublicationJournalEvent → Option RemotePublicationTransitionEvent
  | transition event => some event
  | _ => none

def transitionsOf (events : List RemotePublicationJournalEvent) :
    List RemotePublicationTransitionEvent :=
  events.filterMap (·.transition?)

def ReductionPhase.proof? : ReductionPhase → Option RemotePublicationProofBasis
  | succeeded proof => some proof
  | _ => none

/-- A phase with the receipts seen before it. -/
abbrev ReductionState := ReductionPhase × List RemotePublicationResumeRequestId

/-- A rejection or a receipt directly behind an event that is no transition answers nothing. -/
def detachedAnswerIssue (previous : Option RemotePublicationJournalEvent) :
    RemotePublicationTransitionEvent → Option String
  | .attemptRejectedNonFastForward _ _ =>
      if (previous.bind (·.transition?)).isSome then none
      else some "publication rejection requires its exact unmatched preceding attempt intent"
  | .resumeRequested _ _ =>
      if (previous.bind (·.transition?)).isSome then none
      else some "publication resume receipt must immediately follow an exact retained outcome"
  | _ => none

/-- One journaled event of the reduction; only a terminal proof minds those that are no transition. -/
def reduceJournalEvent (events earlier : List RemotePublicationJournalEvent)
    (candidateCommit : GitCommitSha) (state : ReductionState) :
    RemotePublicationJournalEvent → Except String ReductionState
  | .transition event =>
      match if state.1.proof?.isSome then none else detachedAnswerIssue earlier.getLast? event with
      | some detail => .error detail
      | none => reduceEvent (transitionsOf events) (transitionsOf earlier) candidateCommit state.1
          state.2 event
  | _ =>
      if state.1.proof?.isSome then .error "publication history contains an event after terminal proof"
      else .ok state

def reduceJournalEvents (events : List RemotePublicationJournalEvent)
    (candidateCommit : GitCommitSha) :
    List RemotePublicationJournalEvent → ReductionState → List RemotePublicationJournalEvent →
      Except String ReductionState
  | _, state, [] => .ok state
  | earlier, state, event :: later =>
      reduceJournalEvent events earlier candidateCommit state event >>= fun next =>
        reduceJournalEvents events candidateCommit (earlier ++ [event]) next later

def attemptOrdinalsOf (events : List RemotePublicationTransitionEvent) : List Nat :=
  (events.filterMap (·.attempt?)).map Prod.fst

def deriveJournaledPublicationState (events : List RemotePublicationJournalEvent) :
    RemotePublicationState :=
  match events with
  | [] => .publicationAbsent
  | .transition (.intended correlation) :: later =>
      match publicationHistoryIssue (transitionsOf events) correlation with
      | some detail => .publicationContradiction detail
      | none =>
          match reduceJournalEvents events correlation.qualifiedCandidate.candidateCommit
              [.transition (.intended correlation)] (.pending [] .initialAttempt none, []) later with
          | .error detail => .publicationContradiction detail
          | .ok (phase, _) => stateOfPhase correlation (attemptOrdinalsOf (transitionsOf events)) phase
  | _ :: _ => .publicationContradiction "publication history must begin with the outer intent"

/-! ## What one event does -/

def RemotePublicationState.batch? : RemotePublicationState → Option (List Nat × Option JournalPosition)
  | publicationPending _ _ attemptOrdinalsInBatch batchGrantAt _
  | publicationResumeReady _ attemptOrdinalsInBatch batchGrantAt _ _
  | publicationRetained _ attemptOrdinalsInBatch batchGrantAt _ _ =>
      some (attemptOrdinalsInBatch, batchGrantAt)
  | _ => none

def ReductionPhase.batch? : ReductionPhase → Option (List Nat × Option JournalPosition)
  | pending attemptOrdinalsInBatch _ batchGrantAt
  | resumeReady _ attemptOrdinalsInBatch batchGrantAt _
  | retained _ attemptOrdinalsInBatch batchGrantAt _ => some (attemptOrdinalsInBatch, batchGrantAt)
  | succeeded _ => none

def RemotePublicationTransitionEvent.receiptId? :
    RemotePublicationTransitionEvent → Option RemotePublicationResumeRequestId
  | resumeRequested _ request => some request.requestId
  | _ => none

def RemotePublicationTransitionEvent.carriedGrant? :
    RemotePublicationTransitionEvent → Option (Option JournalPosition)
  | attemptIntended _ batchGrantAt _ _ | retained _ batchGrantAt _ _ => some batchGrantAt
  | _ => none

/-- One step of the reduction, by what the event is. -/
inductive ReductionStep (events earlier : List RemotePublicationTransitionEvent)
    (candidateCommit : GitCommitSha) :
    ReductionState → RemotePublicationJournalEvent → ReductionState → Prop
  | unrelated {phase : ReductionPhase} {seen : List RemotePublicationResumeRequestId}
      {event : RemotePublicationJournalEvent} (active : phase.proof? = none)
      (other : event.transition? = none) :
      ReductionStep events earlier candidateCommit (phase, seen) event (phase, seen)
  | attempt {phase next : ReductionPhase} {seen : List RemotePublicationResumeRequestId}
      {attemptOrdinal : Nat} {batchGrantAt : Option JournalPosition}
      {correlation : RemotePublicationCorrelation} {refspec : String} (active : phase.proof? = none)
      (reduced : reduceAttempt phase attemptOrdinal batchGrantAt = .ok next) :
      ReductionStep events earlier candidateCommit (phase, seen)
        (.transition (.attemptIntended attemptOrdinal batchGrantAt correlation refspec)) (next, seen)
  | rejection {phase : ReductionPhase} {seen : List RemotePublicationResumeRequestId}
      {attemptOrdinal : Nat} {correlation : RemotePublicationCorrelation}
      (active : phase.proof? = none) :
      ReductionStep events earlier candidateCommit (phase, seen)
        (.transition (.attemptRejectedNonFastForward attemptOrdinal correlation)) (phase, seen)
  | retained {phase next : ReductionPhase} {seen : List RemotePublicationResumeRequestId}
      {authorization : RemotePublicationAttemptAuthorization} {batchGrantAt : Option JournalPosition}
      {cause : RemotePublicationRetainedCause} {correlation : RemotePublicationCorrelation}
      (active : phase.proof? = none)
      (reduced : settleRetained (phaseBeforeRetained phase batchGrantAt) authorization batchGrantAt
        cause = .ok next) :
      ReductionStep events earlier candidateCommit (phase, seen)
        (.transition (.retained authorization batchGrantAt cause correlation)) (next, seen)
  | resume {phase next : ReductionPhase} {seen : List RemotePublicationResumeRequestId}
      {previous : Option RemotePublicationTransitionEvent}
      {correlation : RemotePublicationCorrelation} {request : RemotePublicationResumeRequest}
      (active : phase.proof? = none)
      (reduced : reduceResume phase previous seen correlation request = .ok next) :
      ReductionStep events earlier candidateCommit (phase, seen)
        (.transition (.resumeRequested correlation request)) (next, seen ++ [request.requestId])
  | proof {phase next : ReductionPhase} {seen : List RemotePublicationResumeRequestId}
      {correlation : RemotePublicationCorrelation} {proof : RemotePublicationProofBasis}
      (active : phase.proof? = none)
      (reduced : reduceProof events earlier phase candidateCommit proof = .ok next) :
      ReductionStep events earlier candidateCommit (phase, seen)
        (.transition (.succeeded correlation proof)) (next, seen)
  | receipt {proof : RemotePublicationProofBasis} {seen : List RemotePublicationResumeRequestId}
      {correlation : RemotePublicationCorrelation} {request : RemotePublicationResumeRequest}
      (fresh : request.requestId ∉ seen) :
      ReductionStep events earlier candidateCommit (.succeeded proof, seen)
        (.transition (.resumeRequested correlation request))
        (.succeeded proof, seen ++ [request.requestId])

section

variable {events earlier : List RemotePublicationJournalEvent} {candidateCommit : GitCommitSha}
  {state next : ReductionState}

theorem reduceRejection_eq_ok {earlier : List RemotePublicationTransitionEvent}
    {phase later : ReductionPhase} {attemptOrdinal : Nat}
    (reduced : reduceRejection earlier phase attemptOrdinal = .ok later) : later = phase := by
  unfold reduceRejection at reduced
  split at reduced
  · cases reduced
  · split at reduced
    · cases reduced
      rfl
    · cases reduced

theorem reductionStep_of_active {phase : ReductionPhase}
    {seen : List RemotePublicationResumeRequestId} {event : RemotePublicationTransitionEvent}
    (active : phase.proof? = none)
    (reduced : reduceEvent (transitionsOf events) (transitionsOf earlier) candidateCommit phase seen
      event = .ok next) :
    ReductionStep (transitionsOf events) (transitionsOf earlier) candidateCommit (phase, seen)
      (.transition event) next := by
  unfold reduceEvent at reduced
  split at reduced
  · cases active
  · split at reduced
    · cases reduced
    · obtain ⟨later, attempted, rfl⟩ := Except.map_eq_ok_iff.mp reduced
      exact .attempt active attempted
    · obtain ⟨later, rejected, rfl⟩ := Except.map_eq_ok_iff.mp reduced
      obtain rfl := reduceRejection_eq_ok rejected
      exact .rejection active
    · obtain ⟨later, settled, rfl⟩ := Except.map_eq_ok_iff.mp reduced
      exact .retained active settled
    · obtain ⟨later, resumed, rfl⟩ := Except.map_eq_ok_iff.mp reduced
      exact .resume active resumed
    · obtain ⟨later, proved, rfl⟩ := Except.map_eq_ok_iff.mp reduced
      exact .proof active proved

theorem reductionStep_of_reduced {event : RemotePublicationJournalEvent}
    (reduced : reduceJournalEvent events earlier candidateCommit state event = .ok next) :
    ReductionStep (transitionsOf events) (transitionsOf earlier) candidateCommit state event next := by
  obtain ⟨phase, seen⟩ := state
  cases ended : phase.proof? with
  | some proof =>
      obtain rfl : phase = .succeeded proof := by
        cases phase <;> simp_all [ReductionPhase.proof?]
      cases event with
      | transition event =>
          obtain ⟨later, receipts, rfl⟩ := Except.map_eq_ok_iff.mp reduced
          cases event with
          | resumeRequested correlation request =>
              rw [reduceAfterProof] at receipts
              split_ifs at receipts with foreign repeated
              cases receipts
              exact .receipt repeated
          | _ => cases receipts
      | _ => simp [reduceJournalEvent, ReductionPhase.proof?] at reduced
  | none =>
      cases event with
      | transition event =>
          simp only [reduceJournalEvent, ended, Option.isSome_none, Bool.false_eq_true,
            if_false] at reduced
          cases detached : detachedAnswerIssue earlier.getLast? event with
          | some detail => simp [detached] at reduced
          | none =>
              simp only [detached] at reduced
              exact reductionStep_of_active ended reduced
      | _ =>
          simp only [reduceJournalEvent, ended, Option.isSome_none, Bool.false_eq_true, if_false,
            Except.ok.injEq] at reduced
          subst reduced
          exact .unrelated ended rfl

end

/-! ## Steps -/

section

variable {events earlier : List RemotePublicationTransitionEvent} {candidateCommit : GitCommitSha}
  {state after : ReductionState} {event : RemotePublicationJournalEvent} {phase next : ReductionPhase}

theorem reduceResume_eq_ok {previous : Option RemotePublicationTransitionEvent}
    {seen : List RemotePublicationResumeRequestId} {correlation : RemotePublicationCorrelation}
    {request : RemotePublicationResumeRequest}
    (reduced : reduceResume phase previous seen correlation request = .ok next) :
    request.requestId ∉ seen ∧ next.proof? = none ∧ next.batch? = phase.batch? := by
  unfold reduceResume at reduced
  split at reduced
  · split_ifs at reduced with foreign repeated
    cases reduced
    exact ⟨repeated, rfl, rfl⟩
  · cases reduced

theorem reduceProof_eq_ok {proof : RemotePublicationProofBasis}
    (reduced : reduceProof events earlier phase candidateCommit proof = .ok next) :
    next = .succeeded proof ∧ proof.attemptOrdinal ∈ attemptOrdinalsOf earlier ∧
      (proof.isPush = true → proof.attemptOrdinal ∉ events.filterMap (·.rejected?)) ∧
      (proof.isCurrentHead = true → proof.remoteHead = candidateCommit) := by
  unfold reduceProof at reduced
  split at reduced
  · cases reduced
  · cases reduced
  · split at reduced
    · cases reduced
    · split_ifs at reduced with rejected intended current
      cases reduced
      refine ⟨rfl, intended, fun push member => rejected ⟨push, member⟩, ?_⟩
      exact fun head => not_not.mp fun other => current ⟨head, other⟩

theorem reduceAttempt_eq_ok {attemptOrdinal : Nat} {batchGrantAt : Option JournalPosition}
    (active : phase.proof? = none)
    (reduced : reduceAttempt phase attemptOrdinal batchGrantAt = .ok next) :
    next.proof? = none ∧ ∃ ordinals grant, phase.batch? = some (ordinals, grant) ∧
      next.batch? = some
        (if batchGrantAt = grant then ordinals ++ [attemptOrdinal] else [attemptOrdinal],
          batchGrantAt) := by
  cases phase with
  | retained authorization ordinals grant cause =>
      rw [reduceAttempt] at reduced
      split_ifs at reduced with repeated
      cases reduced
      obtain ⟨-, apart⟩ := not_or.mp repeated
      exact ⟨rfl, ordinals, grant, rfl, by simp [ReductionPhase.batch?, apart]⟩
  | pending ordinals authorization grant =>
      rw [reduceAttempt] at reduced
      split_ifs at reduced with opens other
      · cases reduced
        obtain ⟨rfl, -⟩ := opens
        exact ⟨rfl, [], grant, rfl, by simp [ReductionPhase.batch?]⟩
      · cases reduced
        obtain rfl := not_not.mp other
        exact ⟨rfl, ordinals, batchGrantAt, rfl, by simp [ReductionPhase.batch?]⟩
  | resumeReady cause ordinals grant request =>
      rw [reduceAttempt] at reduced
      split_ifs at reduced with other
      cases reduced
      obtain rfl := not_not.mp other
      exact ⟨rfl, ordinals, batchGrantAt, rfl, by simp [ReductionPhase.batch?]⟩
  | succeeded proof => cases active

theorem settleRetained_eq_ok {authorization : RemotePublicationAttemptAuthorization}
    {batchGrantAt : Option JournalPosition} {cause : RemotePublicationRetainedCause}
    (reduced : settleRetained (phaseBeforeRetained phase batchGrantAt) authorization batchGrantAt
      cause = .ok next) :
    next.proof? = none ∧ ∃ ordinals grant, phase.batch? = some (ordinals, grant) ∧
      next.batch? = some (if batchGrantAt = grant then ordinals else [], batchGrantAt) := by
  have settled : ∀ (ordinals : List Nat) (active : RemotePublicationAttemptAuthorization)
      (grant : Option JournalPosition),
      (if batchGrantAt ≠ grant ∨ authorization ≠ active then
        (.error "publication retained outcome must identify its exact active authorization" :
          Except String ReductionPhase)
      else if cause = .attemptsExhausted ∧ ordinals.length ≠ remotePublicationAttemptLimit then
        .error "publication exhaustion requires the exact accepted attempt limit"
      else .ok (.retained authorization ordinals grant cause)) = .ok next →
      batchGrantAt = grant ∧ next = .retained authorization ordinals grant cause := by
    intro ordinals active grant ended
    split_ifs at ended with mismatch exhausted
    cases ended
    exact ⟨not_not.mp (not_or.mp mismatch).1, rfl⟩
  cases phase with
  | pending ordinals active grant =>
      obtain ⟨rfl, rfl⟩ := settled ordinals active grant reduced
      exact ⟨rfl, ordinals, batchGrantAt, rfl, by simp [ReductionPhase.batch?]⟩
  | resumeReady earlierCause ordinals grant request =>
      obtain ⟨rfl, rfl⟩ := settled ordinals _ grant reduced
      exact ⟨rfl, ordinals, batchGrantAt, rfl, by simp [ReductionPhase.batch?]⟩
  | retained earlierAuthorization ordinals grant earlierCause =>
      rw [phaseBeforeRetained] at reduced
      split_ifs at reduced with opens
      · obtain ⟨-, rfl⟩ := settled [] .initialAttempt batchGrantAt reduced
        exact ⟨rfl, ordinals, grant, rfl, by simp [ReductionPhase.batch?, opens.2]⟩
      · cases reduced
  | succeeded proof => cases reduced

theorem ReductionStep.of_proved {proof : RemotePublicationProofBasis}
    (step : ReductionStep events earlier candidateCommit state event after)
    (proved : state.1 = .succeeded proof) :
    after.1 = .succeeded proof ∧
      ∃ correlation request, event = .transition (.resumeRequested correlation request) := by
  have ended : state.1.proof? = some proof := by rw [proved, ReductionPhase.proof?]
  cases step with
  | receipt fresh => exact ⟨proved, _, _, rfl⟩
  | unrelated active | attempt active | rejection active | retained active | resume active
  | proof active =>
      rw [active] at ended
      cases ended

theorem ReductionStep.receipts
    (step : ReductionStep events earlier candidateCommit state event after) :
    after.2 = state.2 ++ (event.transition?.bind (·.receiptId?)).toList ∧
      (state.2.Nodup → after.2.Nodup) := by
  have fresh : ∀ {seen : List RemotePublicationResumeRequestId}
      {request : RemotePublicationResumeRequest}, request.requestId ∉ seen → seen.Nodup →
        (seen ++ [request.requestId]).Nodup := by
    intro seen request unseen distinct
    refine List.nodup_append.mpr ⟨distinct, List.nodup_singleton _, ?_⟩
    rintro earlier member later last rfl
    exact unseen (List.mem_singleton.mp last ▸ member)
  cases step with
  | unrelated active other => simp [other]
  | attempt | rejection | retained | proof =>
      simp [RemotePublicationJournalEvent.transition?, RemotePublicationTransitionEvent.receiptId?]
  | resume active reduced => exact ⟨rfl, fresh (reduceResume_eq_ok reduced).1⟩
  | receipt unseen => exact ⟨rfl, fresh unseen⟩

end

/-! ## Runs -/

section

variable {events earlier later rest : List RemotePublicationJournalEvent}
  {candidateCommit : GitCommitSha} {state after : ReductionState}

def receiptIdsOf (events : List RemotePublicationJournalEvent) :
    List RemotePublicationResumeRequestId :=
  (transitionsOf events).filterMap (·.receiptId?)

@[simp] theorem transitionsOf_nil : transitionsOf [] = [] := rfl

@[simp] theorem transitionsOf_append (left right : List RemotePublicationJournalEvent) :
    transitionsOf (left ++ right) = transitionsOf left ++ transitionsOf right :=
  List.filterMap_append

theorem reduceJournalEvents_append :
    reduceJournalEvents events candidateCommit earlier state (later ++ rest) = .ok after ↔
      ∃ middle, reduceJournalEvents events candidateCommit earlier state later = .ok middle ∧
        reduceJournalEvents events candidateCommit (earlier ++ later) middle rest = .ok after := by
  induction later generalizing earlier state with
  | nil => simp [reduceJournalEvents]
  | cons event later induction =>
      simp only [List.cons_append, reduceJournalEvents, Except.bind_eq_ok_iff, induction]
      rw [List.append_assoc, List.singleton_append]
      constructor
      · rintro ⟨next, step, middle, first, second⟩
        exact ⟨middle, ⟨next, step, first⟩, second⟩
      · rintro ⟨middle, ⟨next, step, first⟩, second⟩
        exact ⟨next, step, middle, first, second⟩

theorem reduceJournalEvents_cons {event : RemotePublicationJournalEvent} :
    reduceJournalEvents events candidateCommit earlier state (event :: later) = .ok after ↔
      ∃ next, reduceJournalEvent events earlier candidateCommit state event = .ok next ∧
        reduceJournalEvents events candidateCommit (earlier ++ [event]) next later = .ok after := by
  rw [reduceJournalEvents, Except.bind_eq_ok_iff]

theorem receipts_of_reduced
    (reduced : reduceJournalEvents events candidateCommit earlier state later = .ok after) :
    after.2 = state.2 ++ receiptIdsOf later ∧ (state.2.Nodup → after.2.Nodup) := by
  induction later generalizing earlier state with
  | nil =>
      cases reduced
      exact ⟨by simp [receiptIdsOf], id⟩
  | cons event later induction =>
      obtain ⟨next, step, rest⟩ := reduceJournalEvents_cons.mp reduced
      obtain ⟨seen, distinct⟩ := (reductionStep_of_reduced step).receipts
      obtain ⟨seenLater, distinctLater⟩ := induction rest
      refine ⟨?_, distinctLater ∘ distinct⟩
      rw [seenLater, seen, List.append_assoc, receiptIdsOf, receiptIdsOf, transitionsOf,
        transitionsOf, List.filterMap_cons]
      cases event.transition? with
      | none => rfl
      | some transition =>
          rw [Option.bind_some, List.filterMap_cons]
          cases transition.receiptId? <;> rfl

theorem proved_of_reduced {proof : RemotePublicationProofBasis}
    (reduced : reduceJournalEvents events candidateCommit earlier state later = .ok after)
    (proved : state.1 = .succeeded proof) :
    after.1 = .succeeded proof ∧ ∀ event ∈ later, ∃ correlation request,
      event = .transition (.resumeRequested correlation request) := by
  induction later generalizing earlier state with
  | nil =>
      cases reduced
      exact ⟨proved, by simp⟩
  | cons event later induction =>
      obtain ⟨next, step, rest⟩ := reduceJournalEvents_cons.mp reduced
      obtain ⟨stands, receipt⟩ := (reductionStep_of_reduced step).of_proved proved
      obtain ⟨stays, receipts⟩ := induction rest stands
      exact ⟨stays, List.forall_mem_cons.mpr ⟨receipt, receipts⟩⟩

theorem reduceProof_of_subset {events fewer earlier : List RemotePublicationTransitionEvent}
    (subset : fewer ⊆ events) {phase next : ReductionPhase} {proof : RemotePublicationProofBasis}
    (reduced : reduceProof events earlier phase candidateCommit proof = .ok next) :
    reduceProof fewer earlier phase candidateCommit proof = .ok next := by
  have unrejected : proof.isPush ∧ proof.attemptOrdinal ∈ fewer.filterMap (·.rejected?) →
      proof.isPush ∧ proof.attemptOrdinal ∈ events.filterMap (·.rejected?) :=
    And.imp_right fun member => (List.filterMap_subset _ subset) member
  unfold reduceProof at reduced ⊢
  split at reduced
  · cases reduced
  · cases reduced
  · split at reduced
    · cases reduced
    · split_ifs at reduced with rejected intended current
      · rw [if_neg fun again => rejected (unrejected again), if_neg (not_not.mpr intended),
          if_neg current]
        exact reduced

theorem reduceJournalEvent_of_subset {fewer : List RemotePublicationJournalEvent}
    (subset : fewer ⊆ events) {event : RemotePublicationJournalEvent}
    (reduced : reduceJournalEvent events earlier candidateCommit state event = .ok after) :
    reduceJournalEvent fewer earlier candidateCommit state event = .ok after := by
  have transitions : transitionsOf fewer ⊆ transitionsOf events :=
    List.filterMap_subset _ subset
  have reducedEvent : ∀ (phase : ReductionPhase) (seen : List RemotePublicationResumeRequestId)
      (transition : RemotePublicationTransitionEvent),
      reduceEvent (transitionsOf events) (transitionsOf earlier) candidateCommit phase seen
        transition = .ok after →
      reduceEvent (transitionsOf fewer) (transitionsOf earlier) candidateCommit phase seen
        transition = .ok after := by
    intro phase seen transition reduced
    unfold reduceEvent at reduced ⊢
    split at reduced
    · exact reduced
    · cases transition with
      | succeeded correlation proof =>
          obtain ⟨next, proved, rest⟩ := Except.map_eq_ok_iff.mp reduced
          exact Except.map_eq_ok_iff.mpr ⟨next, reduceProof_of_subset transitions proved, rest⟩
      | _ => exact reduced
  cases event with
  | transition transition =>
      unfold reduceJournalEvent at reduced ⊢
      dsimp only at reduced ⊢
      split at reduced
      · cases reduced
      · exact reducedEvent _ _ _ reduced
  | _ => exact reduced

theorem reduceJournalEvents_of_subset {fewer : List RemotePublicationJournalEvent}
    (subset : fewer ⊆ events)
    (reduced : reduceJournalEvents events candidateCommit earlier state later = .ok after) :
    reduceJournalEvents fewer candidateCommit earlier state later = .ok after := by
  induction later generalizing earlier state with
  | nil => exact reduced
  | cons event later induction =>
      obtain ⟨next, step, rest⟩ := reduceJournalEvents_cons.mp reduced
      exact reduceJournalEvents_cons.mpr
        ⟨next, reduceJournalEvent_of_subset subset step, induction rest⟩

end

/-! ## Histories -/

def initialReductionState : ReductionState := (.pending [] .initialAttempt none, [])

/-- A history whose events fit together as a whole. -/
structure RegularPublicationHistory (events : List RemotePublicationTransitionEvent)
    (correlation : RemotePublicationCorrelation) : Prop where
  intended : events.countP (·.isIntended) = 1
  correlated : ∀ event ∈ events, event.correlation = correlation
  batches : ∀ batchGrantAt, ((events.filterMap (·.attempt?)).countP fun attempt =>
    attempt.2 = batchGrantAt) ≤ remotePublicationAttemptLimit
  refspecs : ∀ event ∈ events, event.refspecDerives = true
  ordinals : attemptOrdinalsOf events =
    (List.range (attemptOrdinalsOf events).length).map (· + 1)
  proofs : events.countP (·.isSucceeded) ≤ 1

/-- Nothing is wrong with the events as a whole exactly when they fit together. -/
theorem publicationHistoryIssue_eq_none {events : List RemotePublicationTransitionEvent}
    {correlation : RemotePublicationCorrelation} :
    publicationHistoryIssue events correlation = none ↔
      RegularPublicationHistory events correlation := by
  have batches : ((events.filterMap (·.attempt?)).any fun attempt =>
      ((events.filterMap (·.attempt?)).countP fun other => other.2 = attempt.2) >
        remotePublicationAttemptLimit) = false ↔
      ∀ batchGrantAt, ((events.filterMap (·.attempt?)).countP fun attempt =>
        attempt.2 = batchGrantAt) ≤ remotePublicationAttemptLimit := by
    simp only [List.any_eq_false, decide_eq_true_eq, not_lt, gt_iff_lt]
    refine ⟨fun limited batchGrantAt => ?_, fun limited attempt _ => limited attempt.2⟩
    by_cases occurs : ∃ attempt ∈ events.filterMap (·.attempt?), attempt.2 = batchGrantAt
    · obtain ⟨attempt, member, rfl⟩ := occurs
      exact limited attempt member
    · rw [List.countP_eq_zero.mpr fun attempt member => by
        simpa using fun same => occurs ⟨attempt, member, same⟩]
      exact Nat.zero_le _
  have contiguous : contiguousAttemptsIssue (attemptOrdinalsOf events) = none ↔
      attemptOrdinalsOf events =
        (List.range (attemptOrdinalsOf events).length).map (· + 1) := by
    rw [contiguousAttemptsIssue]
    split_ifs with same
    · exact iff_of_true rfl same
    · exact iff_of_false (by simp) same
  have some_ne : ∀ detail : String, ¬ some detail = none := fun detail => Option.some_ne_none detail
  unfold publicationHistoryIssue
  dsimp only
  split
  · next several => exact iff_of_false (some_ne _) fun regular => several regular.intended
  next several =>
  split
  · next mixed =>
      obtain ⟨event, member, other⟩ := List.any_eq_true.mp mixed
      exact iff_of_false (some_ne _) fun regular =>
        of_decide_eq_true other (regular.correlated event member)
  next mixed =>
  split
  · next exceeded =>
      refine iff_of_false (some_ne _) fun regular => ?_
      rw [batches.mpr regular.batches] at exceeded
      cases exceeded
  next exceeded =>
  split
  · next underived =>
      obtain ⟨event, member, other⟩ := List.any_eq_true.mp underived
      exact iff_of_false (some_ne _) fun regular =>
        of_decide_eq_true other (regular.refspecs event member)
  next underived =>
  rw [← attemptOrdinalsOf]
  cases issue : contiguousAttemptsIssue (attemptOrdinalsOf events) with
  | some detail =>
      refine iff_of_false (some_ne _) fun regular => ?_
      rw [contiguous.mpr regular.ordinals] at issue
      cases issue
  | none =>
      dsimp only
      split
      · next repeated =>
          exact iff_of_false (some_ne _) fun regular =>
            absurd regular.proofs (Nat.not_le.mpr repeated)
      · next repeated =>
          exact iff_of_true rfl
            { intended := not_not.mp several
              correlated := by simpa using mixed
              batches := batches.mp (Bool.eq_false_iff.mpr exceeded)
              refspecs := by simpa using underived
              ordinals := contiguous.mp issue
              proofs := Nat.not_lt.mp repeated }

theorem RegularPublicationHistory.of_isPrefix
    {events before : List RemotePublicationTransitionEvent}
    {correlation : RemotePublicationCorrelation}
    (regular : RegularPublicationHistory events correlation) (extended : before <+: events)
    (opened : ∃ event ∈ before, event.isIntended = true) :
    RegularPublicationHistory before correlation where
  intended := by
    refine le_antisymm ?_ (List.countP_pos_iff.mpr opened)
    rw [← regular.intended]
    exact extended.sublist.countP_le
  correlated := fun event member => regular.correlated event (extended.subset member)
  batches := fun batchGrantAt =>
    ((extended.sublist.filterMap _).countP_le).trans (regular.batches batchGrantAt)
  refspecs := fun event member => regular.refspecs event (extended.subset member)
  ordinals := by
    have numbered : attemptOrdinalsOf before <+: attemptOrdinalsOf events :=
      (extended.filterMap _).map _
    have bounded := numbered.length_le
    rw [List.prefix_iff_eq_take, regular.ordinals, ← List.map_take, List.take_range,
      min_eq_left bounded] at numbered
    exact numbered
  proofs := (extended.sublist.countP_le).trans regular.proofs

/-- A history that begins with its outer intent, fits together and reduces to a state. -/
structure ReducedHistory (events : List RemotePublicationJournalEvent)
    (correlation : RemotePublicationCorrelation) (state : ReductionState) : Prop where
  regular : RegularPublicationHistory (transitionsOf events) correlation
  reduced : ∃ later, events = .transition (.intended correlation) :: later ∧
    reduceJournalEvents events correlation.qualifiedCandidate.candidateCommit
      [.transition (.intended correlation)] initialReductionState later = .ok state

def RemotePublicationState.IsContradiction (state : RemotePublicationState) : Prop :=
  ∃ detail, state = .publicationContradiction detail

theorem not_isContradiction_stateOfPhase (correlation : RemotePublicationCorrelation)
    (attemptOrdinals : List Nat) (phase : ReductionPhase) :
    ¬ (stateOfPhase correlation attemptOrdinals phase).IsContradiction := by
  rintro ⟨detail, same⟩
  cases phase <;> cases same

variable {events : List RemotePublicationJournalEvent}

theorem reducedHistory_of_consistent
    (consistent : ¬ (deriveJournaledPublicationState events).IsContradiction) :
    events = [] ∨ ∃ correlation state, ReducedHistory events correlation state := by
  unfold deriveJournaledPublicationState at consistent
  split at consistent
  · exact .inl rfl
  · next correlation later =>
      refine .inr ⟨correlation, ?_⟩
      split at consistent
      · exact absurd ⟨_, rfl⟩ consistent
      · next regular =>
          split at consistent
          · exact absurd ⟨_, rfl⟩ consistent
          · next phase seen reduced =>
              exact ⟨(phase, seen), publicationHistoryIssue_eq_none.mp regular, later, rfl, reduced⟩
  · exact absurd ⟨_, rfl⟩ consistent

namespace ReducedHistory

variable {events before after : List RemotePublicationJournalEvent}
  {correlation : RemotePublicationCorrelation} {state : ReductionState}

section

variable (history : ReducedHistory events correlation state)
include history

theorem derived :
    deriveJournaledPublicationState events =
      stateOfPhase correlation (attemptOrdinalsOf (transitionsOf events)) state.1 := by
  obtain ⟨later, rfl, reduced⟩ := history.reduced
  rw [deriveJournaledPublicationState, publicationHistoryIssue_eq_none.mpr history.regular]
  dsimp only
  rw [← initialReductionState, reduced]

theorem of_isPrefix (extended : before <+: events) :
    before = [] ∨ ∃ earlier, ReducedHistory before correlation earlier := by
  obtain ⟨later, rfl, reduced⟩ := history.reduced
  cases before with
  | nil => exact .inl rfl
  | cons first before =>
      obtain ⟨rfl, kept⟩ := List.cons_prefix_cons.mp extended
      obtain ⟨rest, rfl⟩ := kept
      obtain ⟨middle, here, -⟩ := reduceJournalEvents_append.mp reduced
      refine .inr ⟨middle, history.regular.of_isPrefix (extended.filterMap _) ?_, before, rfl, ?_⟩
      · exact ⟨.intended correlation, List.mem_cons_self, rfl⟩
      · exact reduceJournalEvents_of_subset extended.subset here

theorem proved {named : RemotePublicationCorrelation} {proof : RemotePublicationProofBasis}
    (split : events = before ++ .transition (.succeeded named proof) :: after) :
    state.1 = .succeeded proof ∧
      proof.attemptOrdinal ∈ attemptOrdinalsOf (transitionsOf before) ∧
      (proof.isPush = true →
        proof.attemptOrdinal ∉ (transitionsOf events).filterMap (·.rejected?)) ∧
      (proof.isCurrentHead = true →
        proof.remoteHead = correlation.qualifiedCandidate.candidateCommit) ∧
      ∀ event ∈ after, ∃ correlation request,
        event = .transition (.resumeRequested correlation request) := by
  obtain ⟨later, begins, reduced⟩ := history.reduced
  rw [begins] at split
  cases before with
  | nil => cases (List.cons.inj split).1
  | cons first before =>
      cases split
      obtain ⟨middle, -, rest⟩ := reduceJournalEvents_append.mp reduced
      obtain ⟨next, step, receipts⟩ := reduceJournalEvents_cons.mp rest
      cases reductionStep_of_reduced step with
      | unrelated active other => cases other
      | proof active proving =>
          obtain ⟨rfl, intended, unrejected, current⟩ := reduceProof_eq_ok proving
          obtain ⟨stands, follow⟩ := proved_of_reduced receipts rfl
          exact ⟨stands, intended, unrejected, current, follow⟩

theorem distinctReceipts : (receiptIdsOf events).Nodup := by
  obtain ⟨later, rfl, reduced⟩ := history.reduced
  obtain ⟨seen, distinct⟩ := receipts_of_reduced reduced
  have receipts : receiptIdsOf (.transition (.intended correlation) :: later) = state.2 :=
    seen.symm
  rw [receipts]
  exact distinct List.nodup_nil

end

end ReducedHistory

/-! ## Only transitions count -/

theorem reduceEvents_transitionsOf {later earlier : List RemotePublicationJournalEvent}
    {candidateCommit : GitCommitSha} {state after : ReductionState}
    (reduced : reduceJournalEvents events candidateCommit earlier state later = .ok after) :
    reduceEvents (transitionsOf events) candidateCommit (transitionsOf earlier) state.1 state.2
      (transitionsOf later) = .ok after.1 := by
  induction later generalizing earlier state with
  | nil =>
      cases reduced
      rfl
  | cons event later induction =>
      obtain ⟨next, step, rest⟩ := reduceJournalEvents_cons.mp reduced
      have remaining := induction rest
      rw [transitionsOf_append] at remaining
      cases event with
      | transition transition =>
          unfold reduceJournalEvent at step
          dsimp only at step
          split at step
          · cases step
          · exact Except.bind_eq_ok_iff.mpr ⟨next, step, remaining⟩
      | _ =>
          have same : next = state := by
            unfold reduceJournalEvent at step
            dsimp only at step
            split at step
            · cases step
            · exact (Except.ok.inj step).symm
          rw [same] at remaining
          simpa [transitionsOf, RemotePublicationJournalEvent.transition?] using remaining

theorem deriveRemotePublicationState_transitionsOf
    (consistent : ¬ (deriveJournaledPublicationState events).IsContradiction) :
    deriveRemotePublicationState (transitionsOf events) =
      deriveJournaledPublicationState events := by
  obtain rfl | ⟨correlation, state, history⟩ := reducedHistory_of_consistent consistent
  · rfl
  · rw [history.derived]
    obtain ⟨later, rfl, reduced⟩ := history.reduced
    have regular := publicationHistoryIssue_eq_none.mpr history.regular
    have transitions := reduceEvents_transitionsOf reduced
    change deriveRemotePublicationState (.intended correlation :: transitionsOf later) = _
    change publicationHistoryIssue (.intended correlation :: transitionsOf later) correlation = none
      at regular
    rw [deriveRemotePublicationState, regular]
    dsimp only
    change reduceEvents (.intended correlation :: transitionsOf later) _ [.intended correlation]
      (.pending [] .initialAttempt none) [] (transitionsOf later) = _ at transitions
    rw [transitions]
    rfl

/-! ## The current batch -/

def intentsUnder (events : List RemotePublicationTransitionEvent)
    (batchGrantAt : Option JournalPosition) : List Nat :=
  ((events.filterMap (·.attempt?)).filter fun attempt => attempt.2 = batchGrantAt).map Prod.fst

def carriedGrants (events : List RemotePublicationTransitionEvent) : List (Option JournalPosition) :=
  events.filterMap (·.carriedGrant?)

def GrantNotAfter (left right : Option JournalPosition) : Prop :=
  ∀ position ∈ left, ∃ later ∈ right, position ≤ later

theorem GrantNotAfter.antisymm {left right : Option JournalPosition}
    (forward : GrantNotAfter left right) (backward : GrantNotAfter right left) : left = right := by
  cases left with
  | none =>
      cases right with
      | none => rfl
      | some position =>
          obtain ⟨later, impossible, -⟩ := backward position rfl
          cases impossible
  | some position =>
      obtain ⟨later, found, ahead⟩ := forward position rfl
      obtain ⟨again, same, behind⟩ := backward later found
      cases same
      rw [Option.mem_def.mp found, le_antisymm ahead behind]

theorem not_mem_carried {carried : List (Option JournalPosition)}
    {batchGrantAt grant : Option JournalPosition}
    (ascending : (carried ++ [batchGrantAt]).Pairwise GrantNotAfter)
    (latest : carried.getLast?.getD none = grant) (differs : batchGrantAt ≠ grant) :
    batchGrantAt ∉ carried := by
  intro member
  obtain rfl | ⟨earlier, last, rfl⟩ := List.eq_nil_or_concat carried
  · cases member
  · rw [List.concat_eq_append] at ascending latest member
    rw [List.getLast?_concat, Option.getD_some] at latest
    subst latest
    obtain ⟨before, -, behind⟩ := List.pairwise_append.mp ascending
    obtain inside | here := Log.mem_concat.mp member
    · have forward := (List.pairwise_append.mp before).2.2 batchGrantAt inside last (by simp)
      have backward := behind last (by simp) batchGrantAt (by simp)
      exact differs (forward.antisymm backward)
    · exact differs here

theorem intentsUnder_eq_nil {events : List RemotePublicationTransitionEvent}
    {batchGrantAt : Option JournalPosition} (unused : batchGrantAt ∉ carriedGrants events) :
    intentsUnder events batchGrantAt = [] := by
  rw [intentsUnder, List.map_eq_nil_iff, List.filter_eq_nil_iff]
  intro attempt member same
  obtain ⟨event, listed, intended⟩ := List.mem_filterMap.mp member
  refine unused (List.mem_filterMap.mpr ⟨event, listed, ?_⟩)
  rw [← of_decide_eq_true same]
  cases event <;> cases intended
  rfl

def BatchTracked (events : List RemotePublicationTransitionEvent) (phase : ReductionPhase) : Prop :=
  ∀ ordinals grant, phase.batch? = some (ordinals, grant) →
    ordinals = intentsUnder events grant ∧ (carriedGrants events).getLast?.getD none = grant

section

variable {events earlier : List RemotePublicationTransitionEvent} {candidateCommit : GitCommitSha}
  {state after : ReductionState} {event : RemotePublicationJournalEvent}

theorem ReductionStep.batchTracked
    (step : ReductionStep events earlier candidateCommit state event after)
    (tracked : BatchTracked earlier state.1)
    (ascending : (carriedGrants (earlier ++ event.transition?.toList)).Pairwise GrantNotAfter) :
    BatchTracked (earlier ++ event.transition?.toList) after.1 := by
  -- behind an event that carries a grant, the batch is the one under this grant
  have carrying : ∀ {phase next : ReductionPhase} {transition : RemotePublicationTransitionEvent}
      {batchGrantAt : Option JournalPosition} {intended : List Nat},
      transition.carriedGrant? = some batchGrantAt →
      intentsUnder [transition] batchGrantAt = intended →
      (carriedGrants (earlier ++ [transition])).Pairwise GrantNotAfter →
      BatchTracked earlier phase →
      (∃ ordinals grant, phase.batch? = some (ordinals, grant) ∧ next.batch? = some
        (if batchGrantAt = grant then ordinals ++ intended else intended, batchGrantAt)) →
      BatchTracked (earlier ++ [transition]) next := by
    rintro phase next transition batchGrantAt intended carries under ascending tracked
      ⟨ordinals, grant, batch, reached⟩
    obtain ⟨rfl, latest⟩ := tracked ordinals grant batch
    have carried : carriedGrants (earlier ++ [transition]) = carriedGrants earlier ++ [batchGrantAt] := by
      simp [carriedGrants, carries]
    have appended : intentsUnder (earlier ++ [transition]) batchGrantAt =
        intentsUnder earlier batchGrantAt ++ intended := by
      rw [← under]
      simp [intentsUnder]
    intro later grantLater found
    rw [reached, Option.some.injEq, Prod.mk.injEq] at found
    obtain ⟨rfl, rfl⟩ := found
    refine ⟨?_, by rw [carried, List.getLast?_concat, Option.getD_some]⟩
    rw [appended]
    split_ifs with same
    · rw [same]
    · rw [carried] at ascending
      rw [intentsUnder_eq_nil (not_mem_carried ascending latest same), List.nil_append]
  cases step with
  | unrelated active other => simpa [other] using tracked
  | attempt active reduced =>
      exact carrying rfl (by simp [intentsUnder, RemotePublicationTransitionEvent.attempt?]) ascending
        tracked (reduceAttempt_eq_ok active reduced).2
  | rejection active =>
      simpa [BatchTracked, intentsUnder, carriedGrants, RemotePublicationJournalEvent.transition?,
        RemotePublicationTransitionEvent.attempt?, RemotePublicationTransitionEvent.carriedGrant?]
        using tracked
  | retained active reduced =>
      obtain ⟨-, ordinals, grant, batch, reached⟩ := settleRetained_eq_ok reduced
      exact carrying rfl (show intentsUnder [_] _ = [] from rfl) ascending tracked
        ⟨ordinals, grant, batch, by rw [reached, List.append_nil]⟩
  | resume active reduced =>
      intro ordinals grant found
      rw [(reduceResume_eq_ok reduced).2.2] at found
      simpa [intentsUnder, carriedGrants, RemotePublicationJournalEvent.transition?,
        RemotePublicationTransitionEvent.attempt?, RemotePublicationTransitionEvent.carriedGrant?]
        using tracked ordinals grant found
  | proof active reduced =>
      intro ordinals grant found
      rw [(reduceProof_eq_ok reduced).1] at found
      cases found
  | receipt fresh =>
      intro ordinals grant found
      cases found

end

theorem batchTracked_of_reduced {earlier later : List RemotePublicationJournalEvent}
    {candidateCommit : GitCommitSha} {state after : ReductionState}
    (reduced : reduceJournalEvents events candidateCommit earlier state later = .ok after)
    (tracked : BatchTracked (transitionsOf earlier) state.1)
    (ascending : (carriedGrants (transitionsOf (earlier ++ later))).Pairwise GrantNotAfter) :
    BatchTracked (transitionsOf (earlier ++ later)) after.1 := by
  induction later generalizing earlier state with
  | nil =>
      cases reduced
      rwa [List.append_nil]
  | cons event later induction =>
      obtain ⟨next, step, rest⟩ := reduceJournalEvents_cons.mp reduced
      have single : transitionsOf (earlier ++ [event]) =
          transitionsOf earlier ++ event.transition?.toList := by
        rw [transitionsOf_append]
        cases event <;> rfl
      rw [List.append_cons] at ascending ⊢
      refine induction rest ?_ ascending
      rw [single]
      refine (reductionStep_of_reduced step).batchTracked tracked ?_
      rw [← single]
      refine ascending.sublist ?_
      rw [transitionsOf_append (earlier ++ [event])]
      exact (List.sublist_append_left _ _).filterMap _

/-! ## Validated journals -/

theorem latestGrantBefore_notAfter
    {grants : List (JournalPosition × RemotePublicationBatchGrantRequest)}
    (ordered : grants.Pairwise fun earlier later => earlier.1 < later.1)
    {position later : JournalPosition} (behind : position < later) :
    GrantNotAfter ((latestGrantBefore grants position).map Prod.fst)
      ((latestGrantBefore grants later).map Prod.fst) := by
  intro grantedAt found
  obtain ⟨grant, latest, rfl⟩ := Option.map_eq_some_iff.mp found
  obtain ⟨listed, before⟩ := List.mem_filter.mp (List.mem_of_getLast? latest)
  have visible : grant ∈ grants.filter fun grant => grant.1 < later :=
    List.mem_filter.mpr ⟨listed, decide_eq_true ((of_decide_eq_true before).trans behind)⟩
  obtain none | ⟨first, last, split⟩ :=
    List.eq_nil_or_concat (grants.filter fun grant => grant.1 < later)
  · rw [none] at visible
    cases visible
  · rw [List.concat_eq_append] at split
    have sorted : (first ++ [last]).Pairwise fun earlier later => earlier.1 < later.1 :=
      split ▸ ordered.filter _
    refine ⟨last.1, ?_, ?_⟩
    · rw [latestGrantBefore, split, List.getLast?_concat]
      rfl
    · rw [split] at visible
      obtain inside | here := Log.mem_concat.mp visible
      · exact Nat.le_of_lt ((List.pairwise_append.mp sorted).2.2 grant inside last (by simp))
      · rw [here]

section

variable {journal : PublicationRunJournal} {correlation : RemotePublicationCorrelation}
  {grants : List (JournalPosition × RemotePublicationBatchGrantRequest)}
  {state : RemotePublicationState}

theorem grant_of_grantReferenceIssue {mismatch : String} {position : JournalPosition}
    {batchGrantAt : Option JournalPosition}
    (correct : grantReferenceIssue journal grants mismatch position batchGrantAt = none) :
    batchGrantAt = (latestGrantBefore grants position).map Prod.fst := by
  unfold grantReferenceIssue at correct
  dsimp only at correct
  split_ifs at correct with differs
  exact not_not.mp differs

theorem grant_of_attemptGrantsIssue {earlier : List (Option JournalPosition)}
    {attempts : List (JournalPosition × Option JournalPosition)}
    (correct : attemptGrantsIssue journal grants earlier attempts = none) :
    ∀ attempt ∈ attempts, attempt.2 = (latestGrantBefore grants attempt.1).map Prod.fst := by
  induction attempts generalizing earlier with
  | nil => simp
  | cons attempt attempts induction =>
      rw [attemptGrantsIssue, Option.or_eq_none_iff] at correct
      obtain ⟨here, later⟩ := correct
      rw [attemptGrantIssue, Option.or_eq_none_iff] at here
      exact List.forall_mem_cons.mpr ⟨grant_of_grantReferenceIssue here.1, induction later⟩

theorem grant_of_validated
    (validated : validateRemotePublicationState journal correlation = .ok state)
    {record : PublicationRunRecord} (member : record ∈ journal)
    {event : RemotePublicationTransitionEvent} (published : record.event.transition? = some event)
    (own : event.correlation.requestId = correlation.requestId)
    {batchGrantAt : Option JournalPosition} (carries : event.carriedGrant? = some batchGrantAt) :
    batchGrantAt = (latestGrantBefore (remotePublicationBatchGrantsFor journal correlation)
      record.position).map Prod.fst := by
  obtain ⟨position, key, recorded⟩ := record
  obtain rfl : recorded = .publication event := by
    cases recorded <;> cases published
    rfl
  unfold validateRemotePublicationState at validated
  dsimp only at validated
  split at validated
  · cases validated
  · next correct =>
      obtain ⟨outcomes, intents⟩ := Option.or_eq_none_iff.mp correct
      cases event with
      | attemptIntended attemptOrdinal named correlation' refspec =>
          cases carries
          refine grant_of_attemptGrantsIssue intents (position, batchGrantAt) ?_
          refine List.mem_map.mpr ⟨(position, batchGrantAt, correlation'), ?_, rfl⟩
          exact List.mem_filter.mpr
            ⟨List.mem_filterMap.mpr ⟨_, member, rfl⟩, decide_eq_true own⟩
      | retained authorization named cause correlation' =>
          cases carries
          have outcome := List.findSome?_eq_none_iff.mp outcomes
            (position, batchGrantAt, cause, correlation') (List.mem_filter.mpr
              ⟨List.mem_filterMap.mpr ⟨_, member, rfl⟩, decide_eq_true own⟩)
          exact grant_of_grantReferenceIssue outcome
      | _ => cases carries

theorem ascending_of_validated
    (ordered : journal.Pairwise fun earlier later => earlier.position < later.position)
    (validated : validateRemotePublicationState journal correlation = .ok state) :
    (carriedGrants (remotePublicationEventsFor journal correlation)).Pairwise GrantNotAfter := by
  have grantsOrdered : (remotePublicationBatchGrantsFor journal correlation).Pairwise
      fun earlier later => earlier.1 < later.1 := by
    refine List.Pairwise.filter _ (List.pairwise_filterMap.mpr (ordered.imp ?_))
    intro earlier later behind grant granted grantLater grantedLater
    obtain ⟨request, -, rfl⟩ := Option.map_eq_some_iff.mp granted
    obtain ⟨requestLater, -, rfl⟩ := Option.map_eq_some_iff.mp grantedLater
    exact behind
  rw [carriedGrants, remotePublicationEventsFor, List.pairwise_filterMap, List.pairwise_filter,
    List.pairwise_filterMap]
  refine ordered.imp_of_mem ?_
  intro earlier later member memberLater behind event published eventLater publishedLater own
    ownLater grant carries grantLater carriesLater
  rw [grant_of_validated validated member published (of_decide_eq_true own) carries,
    grant_of_validated validated memberLater publishedLater (of_decide_eq_true ownLater)
      carriesLater]
  exact latestGrantBefore_notAfter grantsOrdered behind

theorem derived_of_validated
    (validated : validateRemotePublicationState journal correlation = .ok state) :
    deriveRemotePublicationState (remotePublicationEventsFor journal correlation) = state := by
  unfold validateRemotePublicationState at validated
  dsimp only at validated
  split at validated
  · cases validated
  · split at validated
    · cases validated
    · split at validated
      · cases validated
      · exact Except.ok.inj validated

end

/-! ## Consistent histories -/

/-- What a proof in a history stands for. -/
structure ProvedPublication (events before : List RemotePublicationJournalEvent)
    (correlation : RemotePublicationCorrelation) (proof : RemotePublicationProofBasis)
    (after : List RemotePublicationJournalEvent) : Prop where
  intended : proof.attemptOrdinal ∈ attemptOrdinalsOf (transitionsOf before)
  unrejected : proof.isPush = true →
    proof.attemptOrdinal ∉ (transitionsOf events).filterMap (·.rejected?)
  current : proof.isCurrentHead = true →
    proof.remoteHead = correlation.qualifiedCandidate.candidateCommit
  receipts : ∀ event ∈ after, ∃ correlation request,
    event = .transition (.resumeRequested correlation request)
  distinct : (receiptIdsOf after).Nodup
  stands : ∀ later, later <+: after → deriveJournaledPublicationState
    (before ++ .transition (.succeeded correlation proof) :: later) =
      .publicationSucceeded correlation proof

/-- What holds of a history without a contradiction. -/
structure ConsistentPublicationHistory (events : List RemotePublicationJournalEvent) : Prop where
  beginnings : ∀ before, before <+: events →
    ¬ (deriveJournaledPublicationState before).IsContradiction
  ordinals : attemptOrdinalsOf (transitionsOf events) =
    (List.range (attemptOrdinalsOf (transitionsOf events)).length).map (· + 1)
  batches : ∀ batchGrantAt,
    (intentsUnder (transitionsOf events) batchGrantAt).length ≤ remotePublicationAttemptLimit
  proofs : ∀ before correlation proof after,
    events = before ++ .transition (.succeeded correlation proof) :: after →
      ProvedPublication events before correlation proof after
  reported : ∀ before, before <+: events →
    ∀ (journal : PublicationRunJournal) (correlation : RemotePublicationCorrelation)
      (state : RemotePublicationState),
      journal.Pairwise (fun earlier later => earlier.position < later.position) →
      remotePublicationEventsFor journal correlation = transitionsOf before →
      validateRemotePublicationState journal correlation = .ok state →
        state = deriveJournaledPublicationState before ∧
          ∀ ordinals batchGrantAt, state.batch? = some (ordinals, batchGrantAt) →
            ordinals = intentsUnder (transitionsOf before) batchGrantAt

namespace ReducedHistory

variable {events before after : List RemotePublicationJournalEvent}
  {correlation : RemotePublicationCorrelation} {state : ReductionState}

theorem provedPublication (history : ReducedHistory events correlation state)
    {named : RemotePublicationCorrelation} {proof : RemotePublicationProofBasis}
    (split : events = before ++ .transition (.succeeded named proof) :: after) :
    ProvedPublication events before named proof after := by
  obtain ⟨-, intended, unrejected, current, receipts⟩ := history.proved split
  obtain rfl : named = correlation := by
    refine history.regular.correlated (.succeeded named proof) ?_
    rw [split, transitionsOf_append]
    exact List.mem_append_right _ List.mem_cons_self
  have distinct : (receiptIdsOf after).Nodup := by
    have whole := history.distinctReceipts
    rw [receiptIdsOf, split, transitionsOf_append, List.filterMap_append] at whole
    exact whole.of_append_right
  refine ⟨intended, unrejected, current, receipts, distinct, fun later extended => ?_⟩
  have beginning : before ++ .transition (.succeeded named proof) :: later <+: events := by
    rw [split, List.prefix_append_right_inj, List.cons_prefix_cons]
    exact ⟨rfl, extended⟩
  obtain empty | ⟨reached, shorter⟩ := history.of_isPrefix beginning
  · simp at empty
  · rw [shorter.derived, (shorter.proved rfl).1, stateOfPhase]

theorem reportedBatch (history : ReducedHistory events correlation state)
    (ascending : (carriedGrants (transitionsOf events)).Pairwise GrantNotAfter)
    {ordinals : List Nat} {batchGrantAt : Option JournalPosition}
    (reported : (deriveJournaledPublicationState events).batch? = some (ordinals, batchGrantAt)) :
    ordinals = intentsUnder (transitionsOf events) batchGrantAt := by
  rw [history.derived] at reported
  have batch : state.1.batch? = some (ordinals, batchGrantAt) := by
    rw [← reported]
    cases state.1 <;> rfl
  obtain ⟨later, rfl, reduced⟩ := history.reduced
  have opening : BatchTracked (transitionsOf [.transition (.intended correlation)])
      initialReductionState.1 := by
    intro ordinals grant found
    cases found
    exact ⟨rfl, rfl⟩
  exact (batchTracked_of_reduced reduced opening ascending ordinals batchGrantAt batch).1

end ReducedHistory

/-- A history whose derived state is no contradiction is consistent. -/
theorem publicationHistory_consistent (events : List RemotePublicationJournalEvent)
    (consistent : ∀ detail,
      deriveJournaledPublicationState events ≠ .publicationContradiction detail) :
    ConsistentPublicationHistory events := by
  have beginning : ∀ before, before <+: events →
      ¬ (deriveJournaledPublicationState before).IsContradiction := by
    intro before extended
    obtain rfl | ⟨correlation, state, history⟩ :=
      reducedHistory_of_consistent fun ⟨detail, found⟩ => consistent detail found
    · rw [List.prefix_nil.mp extended]
      rintro ⟨detail, impossible⟩
      cases impossible
    · obtain rfl | ⟨reached, shorter⟩ := history.of_isPrefix extended
      · rintro ⟨detail, impossible⟩
        cases impossible
      · rw [shorter.derived]
        exact not_isContradiction_stateOfPhase _ _ _
  constructor
  · exact beginning
  · obtain rfl | ⟨correlation, state, history⟩ :=
      reducedHistory_of_consistent (beginning events List.prefix_rfl)
    · rfl
    · exact history.regular.ordinals
  · intro batchGrantAt
    rw [intentsUnder, List.length_map, ← List.countP_eq_length_filter]
    obtain rfl | ⟨correlation, state, history⟩ :=
      reducedHistory_of_consistent (beginning events List.prefix_rfl)
    · exact Nat.zero_le _
    · exact history.regular.batches batchGrantAt
  · intro before correlation proof after split
    obtain rfl | ⟨correlation, state, history⟩ :=
      reducedHistory_of_consistent (beginning events List.prefix_rfl)
    · simp at split
    · exact history.provedPublication split
  · intro before extended journal correlation state ordered own validated
    have derived : state = deriveJournaledPublicationState before := by
      rw [← derived_of_validated validated, own]
      exact deriveRemotePublicationState_transitionsOf (beginning before extended)
    refine ⟨derived, fun ordinals batchGrantAt reported => ?_⟩
    rw [derived] at reported
    obtain rfl | ⟨correlation, reached, history⟩ :=
      reducedHistory_of_consistent (beginning before extended)
    · cases reported
    · exact history.reportedBatch (own ▸ ascending_of_validated ordered validated) reported

open ConcurrentGrants in
def publishedEvents : List RemotePublicationJournalEvent :=
  [.transition (.intended correlation),
    .transition (.attemptIntended 1 none correlation "candidate:refs/heads/main"),
    .transition (.attemptRejectedNonFastForward 1 correlation), .batchGrantApplied (request "first"),
    .transition (.attemptIntended 2 none correlation "candidate:refs/heads/main"),
    .transition (.succeeded correlation (.pushApplied 2 ⟨"candidate"⟩)),
    .transition (.resumeRequested correlation
      ⟨⟨"go on"⟩, ⟨2, session.plannedAttempt.runId⟩, session.plannedAttempt.runId⟩)]

theorem publishedEvents_consistent : ConsistentPublicationHistory publishedEvents := by
  have derived : deriveJournaledPublicationState publishedEvents =
      .publicationSucceeded ConcurrentGrants.correlation (.pushApplied 2 ⟨"candidate"⟩) := by
    decide +kernel
  refine publicationHistory_consistent publishedEvents fun detail contradicts => ?_
  rw [derived] at contradicts
  cases contradicts

end Dalph
