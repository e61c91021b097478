import Dalph.Foundation.TextKey
import Dalph.Workflow.TargetPromotion.Engine

/-!
# Target promotion: coherence

Along every run the engine keeps the journal of its promotion accepted, and every state that it
returns is the derived one, as long as no read-only reconciliation leaves an attempt unresolved that
is already deferred.  The key of a deferral is that of its attempt, so a second deferral of one
attempt contradicts the first one or repeats it behind a later refusal.
-/

namespace Dalph

open TargetPromotionJournalEvent PromotionHistory

/-! ## Records that continue a history -/

/-- The promotion is intended and not settled, and its latest attempt is the given one. -/
structure PromotionHistory.Continues (records : PromotionHistory)
    (correlation : TargetPromotionCorrelation) (previous : Option Nat) : Prop where
  intended : records.correlationFromIntent = some correlation
  unsettled : records.any isTerminal = false
  latest : records.attemptOrdinals.getLast? = previous

def PromotionHistory.Exact (records : PromotionHistory) (correlation : TargetPromotionCorrelation) :
    Prop :=
  ∀ event ∈ records, event.correlation = correlation

theorem PromotionHistory.latestProgress_of_last {records : PromotionHistory}
    (attempted : records.getLast?.any (·.attemptOrdinal?.isSome)) :
    records.latestProgress.any (·.attemptOrdinal?.isSome) := by
  induction records using List.reverseRecOn with
  | nil => cases attempted
  | append_singleton earlier last _ =>
      simp only [List.getLast?_concat, Option.any_some] at attempted
      simp [latestProgress, isProgress, attempted]

namespace PromotionHistory.Continues

variable {records : PromotionHistory} {correlation : TargetPromotionCorrelation}
  {previous : Option Nat} {attemptOrdinal : Nat}

theorem count (continues : records.Continues correlation previous) (accepted : records.Accepted) :
    records.attemptOrdinals.length = previous.getD 0 := by
  rw [← continues.latest, accepted.getLast?_attemptOrdinals]
  split <;> simp_all

theorem attempt (continues : records.Continues correlation (some attemptOrdinal))
    (accepted : records.Accepted) :
    0 < attemptOrdinal ∧ attemptOrdinal ≤ targetPromotionAttemptLimit ∧
      attemptOrdinal = records.attemptOrdinals.length ∧
      attemptOrdinal ∈ records.attemptOrdinals := by
  have counted : records.attemptOrdinals.length = attemptOrdinal := continues.count accepted
  have member := List.mem_of_getLast? continues.latest
  have bounded := accepted.numbered.2
  refine ⟨?_, by omega, counted.symm, member⟩
  have present := List.length_pos_of_mem member
  omega

theorem hasAttempt (continues : records.Continues correlation (some attemptOrdinal))
    (accepted : records.Accepted) (exact_ : records.Exact correlation) :
    records.hasAttempt attemptOrdinal correlation = true := by
  obtain ⟨event, member, ordinal⟩ :=
    List.mem_filterMap.mp (continues.attempt accepted).2.2.2
  rw [PromotionHistory.hasAttempt, List.any_eq_true]
  exact ⟨event, member, by simp [ordinal, exact_ event member]⟩

theorem valid_attempt (continues : records.Continues correlation previous)
    (accepted : records.Accepted) {reason : TargetPromotionAttemptReason}
    (limit : previous ≠ some targetPromotionAttemptLimit)
    (reasoned : exactPromotionAttemptReason (previous.getD 0 + 1) correlation reason = true) :
    records.validTargetPromotionRecord
      (.attemptIntended (previous.getD 0 + 1) correlation reason) = true := by
  have counted := continues.count accepted
  obtain ⟨ordered, bounded⟩ := accepted.numbered
  have below : previous.getD 0 + 1 ≤ targetPromotionAttemptLimit := by
    cases previous with
    | none => decide
    | some attemptOrdinal =>
        simp only [Option.getD_some, ne_eq, Option.some.injEq] at counted limit ⊢
        omega
  have fresh : previous.getD 0 + 1 ∉ records.attemptOrdinals := by
    rw [ordered, List.mem_range'_1]
    omega
  simp [validTargetPromotionRecord, validPromotionAttempt, continues.intended,
    continues.unsettled, counted, below, fresh, reasoned]

theorem valid_deferral (continues : records.Continues correlation (some attemptOrdinal))
    (accepted : records.Accepted) (exact_ : records.Exact correlation)
    {deferral : TargetPromotionReconciliationDeferral}
    (undeferred : attemptOrdinal ∉ records.deferredAttempts)
    (fields : targetPromotionReconciliationDeferralFieldIssue attemptOrdinal correlation deferral =
      none) :
    records.validTargetPromotionRecord
      (.reconciliationDeferred attemptOrdinal correlation deferral) = true := by
  obtain ⟨-, -, counted, -⟩ := continues.attempt accepted
  simp [validTargetPromotionRecord, validPromotionDeferral, continues.intended,
    continues.hasAttempt accepted exact_, continues.unsettled, ← counted, undeferred, fields]

theorem valid_terminal (continues : records.Continues correlation previous)
    (accepted : records.Accepted) (exact_ : records.Exact correlation) {observed : Bool}
    (truthful : observed = true) :
    records.validPromotionTerminal correlation (.ofPrevious previous) observed = true := by
  have causal : records.terminalBasisIsCausal correlation (.ofPrevious previous) = true := by
    cases previous with
    | none => simp [terminalBasisIsCausal, TargetPromotionTerminalBasis.ofPrevious,
        continues.count accepted]
    | some attemptOrdinal =>
        obtain ⟨-, -, counted, -⟩ := continues.attempt accepted
        simp [terminalBasisIsCausal, TargetPromotionTerminalBasis.ofPrevious, ← counted,
          continues.hasAttempt accepted exact_]
  simp [validPromotionTerminal, continues.intended, continues.unsettled, causal, truthful]

theorem valid_refusal (continues : records.Continues correlation previous)
    (accepted : records.Accepted) {boundary : TargetPromotionBoundary}
    {refusal : TargetPromotionSafetyRefusal}
    (known : boundary ≠ .compareAndSet ∨
      previous ≠ none ∧ records.getLast?.any (·.attemptOrdinal?.isSome)) :
    records.validTargetPromotionRecord (.safetyRefused boundary (.ofPrevious previous) correlation
      (records.countP isRefusal + 1) refusal) = true := by
  have ordinal : (TargetPromotionTerminalBasis.ofPrevious previous).ordinal =
      records.attemptOrdinals.length := by
    rw [continues.count accepted]
    cases previous <;> rfl
  have mutation : boundary ≠ .compareAndSet ∨
      TargetPromotionTerminalBasis.ofPrevious previous ≠ .beforeFirstAttempt ∧
        records.latestProgress.any (·.attemptOrdinal?.isSome) := by
    refine known.imp_right fun ⟨after, attempted⟩ => ⟨?_, latestProgress_of_last attempted⟩
    cases previous with
    | none => exact absurd rfl after
    | some attemptOrdinal => simp [TargetPromotionTerminalBasis.ofPrevious]
  simp only [validTargetPromotionRecord, validPromotionSafetyRefusal, continues.intended,
    continues.unsettled, ordinal, accepted.observations, getD_getLast?_range']
  simpa using mutation

end PromotionHistory.Continues

/-! ## Keys -/

theorem attempt_suffix_ne (attemptOrdinal deferred : Nat) :
    ":attempt:" ++ toString attemptOrdinal ≠
      ":attempt:" ++ (toString deferred ++ ":reconciliation-deferred") := by
  intro same
  have texts := congrArg String.toList same
  simp only [String.toList_append, List.append_cancel_left_eq] at texts
  apply TextKey.colon_not_mem_toString attemptOrdinal
  rw [texts]
  simp

theorem deferral_suffix_inj {deferred other : Nat}
    (same : ":attempt:" ++ (toString deferred ++ ":reconciliation-deferred") =
      ":attempt:" ++ (toString other ++ ":reconciliation-deferred")) : deferred = other := by
  have texts := congrArg String.toList same
  simp only [String.toList_append, List.append_cancel_left_eq, List.append_cancel_right_eq] at texts
  exact Nat.repr_injective (String.toList_inj.mp texts)

theorem number_suffix_inj {tag : String} {number other : Nat}
    (same : tag ++ toString number = tag ++ toString other) : number = other := by
  have texts := congrArg String.toList same
  simp only [String.toList_append, List.append_cancel_left_eq] at texts
  exact Nat.repr_injective (String.toList_inj.mp texts)

/-- Events of one kind and number share a key. -/
def TargetPromotionJournalEvent.SameSlot (event other : TargetPromotionJournalEvent) : Prop :=
  match event, other with
  | .intended _, .intended _ => True
  | .attemptIntended attemptOrdinal _ _, .attemptIntended other _ _ => attemptOrdinal = other
  | .reconciliationDeferred attempt _ _, .reconciliationDeferred other _ _ => attempt = other
  | .safetyRefused _ _ _ ordinal _, .safetyRefused _ _ _ other _ => ordinal = other
  | .observedSuccess .., .observedSuccess .. => True
  | .stale .., .stale .. => True
  | .nonConvergence .., .nonConvergence .. => True
  | _, _ => False

def suffixInitials : TargetPromotionJournalEvent → List Char
  | .intended _ => [':', 'i', 'n']
  | .attemptIntended .. | .reconciliationDeferred .. => [':', 'a', 't']
  | .safetyRefused .. => [':', 's', 'a']
  | .observedSuccess .. => [':', 'o', 'b']
  | .stale .. => [':', 's', 't']
  | .nonConvergence .. => [':', 'n', 'o']

theorem take_suffix (event : TargetPromotionJournalEvent) :
    (targetPromotionRecordKeySuffix event).toList.take 3 = suffixInitials event := by
  cases event <;> simp [targetPromotionRecordKeySuffix, suffixInitials]

theorem sameSlot_of_suffix {event other : TargetPromotionJournalEvent}
    (same : targetPromotionRecordKeySuffix event = targetPromotionRecordKeySuffix other) :
    event.SameSlot other := by
  have initials : suffixInitials event = suffixInitials other := by
    rw [← take_suffix, ← take_suffix, same]
  cases event <;> cases other
  case attemptIntended.attemptIntended => exact number_suffix_inj same
  case safetyRefused.safetyRefused => exact number_suffix_inj same
  case reconciliationDeferred.reconciliationDeferred => exact deferral_suffix_inj same
  case attemptIntended.reconciliationDeferred => exact attempt_suffix_ne _ _ same
  case reconciliationDeferred.attemptIntended => exact attempt_suffix_ne _ _ same.symm
  all_goals first
    | trivial
    | simp [suffixInitials] at initials

theorem sameSlot_of_key {correlation : TargetPromotionCorrelation}
    {event other : TargetPromotionJournalEvent} (mine : event.correlation = correlation)
    (theirs : other.correlation = correlation)
    (same : targetPromotionRecordKey event = targetPromotionRecordKey other) :
    event.SameSlot other := by
  apply sameSlot_of_suffix
  have keys : "target-promotion:" ++ event.correlation.requestId.value ++
        targetPromotionRecordKeySuffix event =
      "target-promotion:" ++ other.correlation.requestId.value ++
        targetPromotionRecordKeySuffix other := congrArg JournalRecordKey.value same
  rw [mine, theirs] at keys
  have texts := congrArg String.toList keys
  simp only [String.toList_append, List.append_assoc, List.append_cancel_left_eq] at texts
  exact String.toList_inj.mp texts

section Append

variable {journal : PromotionHistory} {correlation : TargetPromotionCorrelation}
  {event : TargetPromotionJournalEvent}

section

variable (accepted : journal.Accepted) (exact_ : journal.Exact correlation)
  (mine : event.correlation = correlation)
include accepted exact_ mine

theorem key_fresh (valid : journal.validTargetPromotionRecord event = true)
    {existing : TargetPromotionJournalEvent} (member : existing ∈ journal) :
    targetPromotionRecordKey existing ≠ targetPromotionRecordKey event := by
  intro same
  have slot := sameSlot_of_key (exact_ existing member) mine same
  cases event with
  | intended intendedCorrelation =>
      rw [accepted.nil_of_intent valid] at member
      cases member
  | attemptIntended attemptOrdinal attemptCorrelation reason =>
      simp only [validTargetPromotionRecord, validPromotionAttempt, Bool.and_eq_true,
        decide_eq_true_eq] at valid
      apply valid.1.2
      cases existing <;> cases slot
      exact List.mem_filterMap.mpr ⟨_, member, rfl⟩
  | reconciliationDeferred afterAttemptOrdinal deferredCorrelation deferral =>
      simp only [validTargetPromotionRecord, validPromotionDeferral, Bool.and_eq_true,
        decide_eq_true_eq] at valid
      apply valid.1.2
      cases existing <;> cases slot
      exact List.mem_filterMap.mpr ⟨_, member, rfl⟩
  | safetyRefused boundary basis refusedCorrelation observationOrdinal refusal =>
      simp only [validTargetPromotionRecord, validPromotionSafetyRefusal, Bool.and_eq_true,
        decide_eq_true_eq, accepted.observations, getD_getLast?_range'] at valid
      have observed : observationOrdinal ∈ journal.filterMap observationOrdinal? := by
        cases existing <;> cases slot
        exact List.mem_filterMap.mpr ⟨_, member, rfl⟩
      rw [accepted.observations, List.mem_range'_1] at observed
      omega
  | observedSuccess | stale | nonConvergence =>
      have unsettled := List.any_eq_false.mp (Accepted.follows_intent valid rfl).2 existing member
      cases existing <;> cases slot
      exact unsettled rfl

theorem append_valid (decodes : event.decodes = true)
    (valid : journal.validTargetPromotionRecord event = true) :
    appendTargetPromotionEvent journal event = .ok (journal ++ [event]) ∧
      (journal ++ [event]).Accepted ∧ PromotionHistory.Exact (journal ++ [event]) correlation := by
  refine ⟨?_, PromotionHistory.accepted_concat.mpr ⟨accepted, decodes, valid⟩, ?_⟩
  · have absent : journal.find? (fun existing =>
        targetPromotionRecordKey existing = targetPromotionRecordKey event) = none := by
      rw [List.find?_eq_none]
      intro existing member
      simpa using key_fresh accepted exact_ mine valid member
    rw [appendTargetPromotionEvent, absent]
  · intro other member
    rcases List.mem_append.mp member with earlier | last
    · exact exact_ other earlier
    · rw [List.mem_singleton.mp last]
      exact mine

end

end Append

/-! ## Permissions that fit the journal -/

section Continues

variable {journal : PromotionHistory} {correlation : TargetPromotionCorrelation}
  {last : TargetPromotionJournalEvent}

theorem intended_of_exact (accepted : journal.Accepted) (exact_ : journal.Exact correlation)
    (present : journal ≠ []) : journal.correlationFromIntent = some correlation := by
  have intended := accepted.intent present
  unfold correlationFromIntent
  cases found : lastWhere isIntent journal with
  | none => simp [lastWhere_eq_none.mp found] at intended
  | some occurrence =>
      obtain ⟨event, place⟩ := occurrence
      have member := List.mem_of_getElem? (lastWhere_place found).2.1
      simp [exact_ event member]

theorem unsettled_of_valid (accepted : journal.Accepted)
    (valid : journal.validTargetPromotionRecord last = true) :
    journal.any isTerminal = false := by
  cases first : last.isIntent with
  | false => exact (Accepted.follows_intent valid first).2
  | true =>
      cases last with
      | intended => rw [accepted.nil_of_intent valid, List.any_nil]
      | _ => cases first

theorem unsettled_of_last (accepted : journal.Accepted) (ended : journal.getLast? = some last) :
    journal.any isTerminal = last.isTerminal := by
  obtain ⟨earlier, rfl⟩ := List.getLast?_eq_some_iff.mp ended
  obtain ⟨acceptedEarlier, -, valid⟩ := accepted_concat.mp accepted
  rw [List.any_append, unsettled_of_valid acceptedEarlier valid]
  simp

def TargetPromotionPendingRetry.previous : TargetPromotionPendingRetry → Option Nat
  | needInitialReconciliationRead => none
  | needReconciliationRead afterAttemptOrdinal => some afterAttemptOrdinal

theorem previous_retry_ofPrevious (previous : Option Nat) :
    (TargetPromotionTerminalBasis.ofPrevious previous).retry.previous = previous := by
  cases previous <;> rfl

theorem pending_continues (accepted : journal.Accepted) (exact_ : journal.Exact correlation)
    (ended : journal.getLast? = some last) {retry : TargetPromotionPendingRetry}
    (pending : last.state.pendingRead? = some retry) :
    journal.Continues correlation retry.previous := by
  have present : journal ≠ [] := by
    rintro rfl
    cases ended
  have unsettled : journal.any isTerminal = false := by
    rw [unsettled_of_last accepted ended]
    cases last <;> first | rfl | cases pending
  refine ⟨intended_of_exact accepted exact_ present, unsettled, ?_⟩
  obtain ⟨earlier, rfl⟩ := List.getLast?_eq_some_iff.mp ended
  obtain ⟨acceptedEarlier, decodes, valid⟩ := accepted_concat.mp accepted
  cases last with
  | intended =>
      cases pending
      rw [acceptedEarlier.nil_of_intent valid]
      rfl
  | attemptIntended attemptOrdinal =>
      cases pending
      simp [attemptOrdinals_concat, attemptOrdinal?, TargetPromotionPendingRetry.previous]
  | safetyRefused boundary basis refusedCorrelation observationOrdinal refusal =>
      cases pending
      simp only [validTargetPromotionRecord, validPromotionSafetyRefusal, Bool.and_eq_true,
        decide_eq_true_eq] at valid
      have latest := acceptedEarlier.basis_of_ordinal (Bool.and_eq_true_iff.mp decodes).1 valid.1.2
      rw [latest, previous_retry_ofPrevious, attemptOrdinals_concat]
      simp [attemptOrdinal?]
  | reconciliationDeferred | observedSuccess | stale | nonConvergence => cases pending

theorem deferred_continues (accepted : journal.Accepted) (exact_ : journal.Exact correlation)
    (ended : journal.getLast? = some last) {afterAttemptOrdinal : Nat}
    {deferral : TargetPromotionReconciliationDeferral}
    (deferred : last.state.deferral? = some (afterAttemptOrdinal, deferral)) :
    journal.Continues correlation (some afterAttemptOrdinal) ∧
      targetPromotionReconciliationDeferralFieldIssue afterAttemptOrdinal correlation deferral =
        none := by
  cases last with
  | reconciliationDeferred attempt deferredCorrelation =>
      cases deferred
      have mine := exact_ _ (List.mem_of_getLast? ended)
      cases mine
      have unsettled := unsettled_of_last accepted ended
      obtain ⟨earlier, rfl⟩ := List.getLast?_eq_some_iff.mp ended
      obtain ⟨acceptedEarlier, -, valid⟩ := accepted_concat.mp accepted
      refine ⟨⟨intended_of_exact accepted exact_ (by simp), unsettled, ?_⟩, ?_⟩
      · rw [attemptOrdinals_concat]
        simpa [attemptOrdinal?] using acceptedEarlier.latest_of_deferral valid
      · simp only [validTargetPromotionRecord, validPromotionDeferral, Bool.and_eq_true,
          decide_eq_true_eq] at valid
        exact valid.2
  | _ => cases deferred

end Continues

/-- A read permission is about the latest attempt, and a read-only one is not about a promotion
that is deferred. -/
structure TargetPromotionReadAuthorization.Fits (correlation : TargetPromotionCorrelation)
    (journal : PromotionHistory) (authorization : TargetPromotionReadAuthorization) : Prop where
  continues : journal.Continues correlation authorization.previousAttemptOrdinal
  readOnly : authorization.authority = .readOnly →
    ¬ journal.getLast?.any (·.deferredAttempt?.isSome)

structure TargetPromotionAttemptAuthorization.Fits (correlation : TargetPromotionCorrelation)
    (journal : PromotionHistory) (authorization : TargetPromotionAttemptAuthorization) : Prop where
  continues : ∃ previous, journal.Continues correlation previous ∧
    previous ≠ some targetPromotionAttemptLimit ∧
    authorization.attemptOrdinal = previous.getD 0 + 1
  reasoned : exactPromotionAttemptReason authorization.attemptOrdinal correlation
    authorization.reason = true

def PromotionHistory.Awaits (correlation : TargetPromotionCorrelation) (journal : PromotionHistory)
    (attemptOrdinal : Nat) : Prop :=
  ∃ reason, journal.getLast? = some (.attemptIntended attemptOrdinal correlation reason)

def PromotionCall.Fits (correlation : TargetPromotionCorrelation) (journal : PromotionHistory)
    (already : List Nat) : PromotionCall → Prop
  | readAuthorized authorization | reading authorization | read authorization _ =>
      authorization.Fits correlation journal
  | attemptAuthorized authorization => authorization.Fits correlation journal
  | attemptIntended attemptOrdinal =>
      journal.Awaits correlation attemptOrdinal ∧ attemptOrdinal ∉ already
  | sending attemptOrdinal | sent attemptOrdinal _ => journal.Awaits correlation attemptOrdinal

/-! ## Steps -/

/-- A step appends at most one record, that leaves the prefix valid and contradicts no earlier one;
a returned state is the derived one; no attempt is sent twice or before it is journaled; at most three
attempts are intended; and nothing is appended or sent behind a terminal result. -/
structure PromotionConforms (correlation : TargetPromotionCorrelation) (before : PromotionMachine)
    (step : PromotionAnswer × PromotionMachine) : Prop where
  grows : ∃ appended, step.2.journal = before.journal ++ appended ∧ appended.length ≤ 1
  validates : ∃ derived, step.2.journal.validateTargetPromotionState correlation = .ok derived
  accepted : ∀ existing, step.1 ≠ .journalContradiction existing
  derives : ∀ state, step.1 = .returned state →
    step.2.journal.deriveTargetPromotionState correlation = some state
  sentOnce : step.2.sent.Nodup
  sentJournaled : ∀ attemptOrdinal ∈ step.2.sent, attemptOrdinal ∈ before.journal.attemptOrdinals
  bounded : step.2.journal.attemptOrdinals.length ≤ targetPromotionAttemptLimit
  settled : before.journal.any isTerminal = true →
    step.2.journal = before.journal ∧ step.2.sent = before.sent

/-- The journal is accepted and of the exact promotion, and the call fits it. -/
structure PromotionInvariant (correlation : TargetPromotionCorrelation)
    (machine : PromotionMachine) : Prop where
  accepted : machine.journal.Accepted
  exact_ : machine.journal.Exact correlation
  sentOnce : machine.sent.Nodup
  sentJournaled : ∀ attemptOrdinal ∈ machine.sent, attemptOrdinal ∈ machine.journal.attemptOrdinals
  call : ∀ call ∈ machine.call, call.Fits correlation machine.journal machine.sent

def PromotionKept (correlation : TargetPromotionCorrelation) (before : PromotionMachine)
    (step : PromotionAnswer × PromotionMachine) : Prop :=
  PromotionConforms correlation before step ∧ PromotionInvariant correlation step.2

/-- What a decision says of the read that it follows. -/
def TargetPromotionReadDecision.Allowed (correlation : TargetPromotionCorrelation)
    (authorization : TargetPromotionReadAuthorization) : TargetPromotionReadDecision → Prop
  | attemptAuthorized attempt =>
      authorization.previousAttemptOrdinal ≠ some targetPromotionAttemptLimit ∧
        attempt.attemptOrdinal = authorization.previousAttemptOrdinal.getD 0 + 1 ∧
        exactPromotionAttemptReason attempt.attemptOrdinal correlation attempt.reason = true
  | nonConvergent attemptOrdinal observation =>
      authorization.previousAttemptOrdinal = some attemptOrdinal ∧
        validPromotionNonConvergenceObservation attemptOrdinal correlation observation = true
  | reconciliationDeferred afterAttemptOrdinal deferral =>
      authorization.previousAttemptOrdinal = some afterAttemptOrdinal ∧
        authorization.authority = .readOnly ∧
        targetPromotionReconciliationDeferralFieldIssue afterAttemptOrdinal correlation deferral =
          none
  | stale basis observation =>
      basis = .ofPrevious authorization.previousAttemptOrdinal ∧
        validPromotionStaleObservation basis correlation observation = true
  | succeeded basis observation =>
      basis = .ofPrevious authorization.previousAttemptOrdinal ∧
        validPromotionSuccessObservation basis correlation observation = true
  | propagateFailure _ | resultContradiction _ => True

def TargetPromotionReadAuthorization.Numbered (authorization : TargetPromotionReadAuthorization) :
    Prop :=
  ∀ attemptOrdinal, authorization.previousAttemptOrdinal = some attemptOrdinal →
    0 < attemptOrdinal ∧ attemptOrdinal ≤ targetPromotionAttemptLimit

theorem deferralFieldIssue_eq_none {afterAttemptOrdinal : Nat}
    {correlation : TargetPromotionCorrelation} {deferral : TargetPromotionReconciliationDeferral} :
    targetPromotionReconciliationDeferralFieldIssue afterAttemptOrdinal correlation deferral =
        none ↔
      afterAttemptOrdinal < targetPromotionAttemptLimit ∧
        ∀ observedHeadSha, deferral = .retryAuthorityRequired observedHeadSha →
          observedHeadSha = correlation.expectedHead := by
  unfold targetPromotionReconciliationDeferralFieldIssue
  by_cases below : afterAttemptOrdinal < targetPromotionAttemptLimit
  · rw [if_neg (by omega)]
    cases deferral <;> simp [below]
  · rw [if_pos (by omega)]
    simp [below]

section Decisions

variable {correlation : TargetPromotionCorrelation}
  {authorization : TargetPromotionReadAuthorization}

theorem failedRead_allowed (numbered : authorization.Numbered) (detail : String) :
    (decideFailedTargetPromotionRead authorization detail).Allowed correlation authorization := by
  unfold decideFailedTargetPromotionRead
  cases previous : authorization.previousAttemptOrdinal with
  | none => trivial
  | some attemptOrdinal =>
      have bounded := (numbered attemptOrdinal previous).2
      dsimp only
      split
      next deferred =>
        refine ⟨previous, deferred.1, deferralFieldIssue_eq_none.mpr ⟨?_, nofun⟩⟩
        exact lt_of_le_of_ne bounded deferred.2
      next =>
        split
        next last => exact ⟨previous, by simp [validPromotionNonConvergenceObservation, last]⟩
        next => trivial

theorem expectedHeadRead_allowed (numbered : authorization.Numbered) :
    (decideExpectedHeadRead authorization correlation.expectedHead).Allowed correlation
      authorization := by
  unfold decideExpectedHeadRead
  cases previous : authorization.previousAttemptOrdinal with
  | none => simp [TargetPromotionReadDecision.Allowed, previous, exactPromotionAttemptReason]
  | some attemptOrdinal =>
      obtain ⟨positive, bounded⟩ := numbered attemptOrdinal previous
      dsimp only
      split
      next last => exact ⟨previous, by simp [validPromotionNonConvergenceObservation, last]⟩
      next more =>
        split
        next readOnly =>
          refine ⟨previous, readOnly, deferralFieldIssue_eq_none.mpr ⟨?_, ?_⟩⟩
          · exact lt_of_le_of_ne bounded more
          · intro observed same
            cases same
            rfl
        next =>
          simp [TargetPromotionReadDecision.Allowed, previous, exactPromotionAttemptReason, more,
            positive.ne']

theorem successfulRead_allowed (numbered : authorization.Numbered)
    (observation : TargetPromotionGitReadObservation) :
    (decideSuccessfulTargetPromotionRead correlation authorization observation).Allowed correlation
      authorization := by
  unfold decideSuccessfulTargetPromotionRead
  split
  next => trivial
  next consistent =>
    cases observation with
    | candidateAncestor currentHeadSha =>
        refine ⟨rfl, ?_⟩
        by_cases current : currentHeadSha = correlation.candidateCommit
        · simp [readObservationContradiction, current] at consistent
        · by_cases expected : currentHeadSha = correlation.expectedHead
          · rw [readObservationContradiction, if_neg current, if_pos expected] at consistent
            cases consistent
          · simp [validPromotionSuccessObservation, current, expected]
    | candidateCurrent currentHeadSha =>
        refine ⟨rfl, ?_⟩
        by_cases current : currentHeadSha = correlation.candidateCommit
        · simp [validPromotionSuccessObservation, current]
        · simp [readObservationContradiction, current] at consistent
    | candidateNotInAncestry currentHeadSha =>
        by_cases current : currentHeadSha = correlation.candidateCommit
        · simp [readObservationContradiction, current] at consistent
        · dsimp only
          split
          next expected =>
            rw [expected]
            exact expectedHeadRead_allowed numbered
          next moved => exact ⟨rfl, by simp [validPromotionStaleObservation, current, moved]⟩

end Decisions

def PromotionAnswer.Truthful (derived : Option TargetPromotionState) : PromotionAnswer → Prop
  | returned state => derived = some state
  | journalContradiction _ => False
  | working | ignored | failed _ => True

section

variable {derived : Option TargetPromotionState} {answer : PromotionAnswer}
  (truthful : answer.Truthful derived)
include truthful

theorem PromotionAnswer.Truthful.derives (state : TargetPromotionState)
    (returned : answer = .returned state) : derived = some state := by
  rw [returned] at truthful
  exact truthful

theorem PromotionAnswer.Truthful.accepted (existing : TargetPromotionJournalEvent) :
    answer ≠ .journalContradiction existing := by
  intro contradicted
  rw [contradicted] at truthful
  exact truthful

end

section Steps

variable {machine : PromotionMachine} {correlation : TargetPromotionCorrelation}

section

variable (invariant : PromotionInvariant correlation machine)
include invariant

theorem kept_call {answer : PromotionAnswer} {call : Option PromotionCall}
    (fits : ∀ next ∈ call, next.Fits correlation machine.journal machine.sent)
    (truthful : answer.Truthful (machine.journal.getLast?.map TargetPromotionJournalEvent.state)) :
    PromotionKept correlation machine (answer, { machine with call }) := by
  refine ⟨?_, invariant.accepted, invariant.exact_, invariant.sentOnce, invariant.sentJournaled,
    fits⟩
  exact {
    grows := ⟨[], by simp⟩
    validates := ⟨_, invariant.accepted.validated invariant.exact_⟩
    accepted := truthful.accepted
    derives := fun state returned => by
      rw [invariant.accepted.derived invariant.exact_, truthful.derives state returned]
    sentOnce := invariant.sentOnce
    sentJournaled := invariant.sentJournaled
    bounded := invariant.accepted.numbered.2
    settled := fun _ => ⟨rfl, rfl⟩ }

theorem kept_advance {call : PromotionCall}
    (fits : call.Fits correlation machine.journal machine.sent) :
    PromotionKept correlation machine (machine.advance call) :=
  kept_call invariant (by simpa using fits) trivial

theorem kept_finish {answer : PromotionAnswer}
    (truthful : answer.Truthful (machine.journal.getLast?.map TargetPromotionJournalEvent.state)) :
    PromotionKept correlation machine (machine.finish answer) :=
  kept_call invariant nofun truthful

theorem kept_resultContradiction (detail : String) :
    PromotionKept correlation machine (machine.resultContradiction correlation detail) :=
  kept_finish invariant trivial

theorem validated_eq (next : Option TargetPromotionState → PromotionAnswer × PromotionMachine) :
    machine.validated correlation next =
      next (machine.journal.getLast?.map TargetPromotionJournalEvent.state) := by
  rw [PromotionMachine.validated, invariant.accepted.validated invariant.exact_]

end

theorem kept_append (invariant : PromotionInvariant correlation machine)
    {event : TargetPromotionJournalEvent} (mine : event.correlation = correlation)
    (decodes : event.decodes = true)
    (valid : machine.journal.validTargetPromotionRecord event = true)
    {next : PromotionMachine → PromotionAnswer × PromotionMachine} {answer : PromotionAnswer}
    {call : Option PromotionCall}
    (goesOn : next { machine with journal := machine.journal ++ [event] } =
      (answer, { machine with journal := machine.journal ++ [event], call }))
    (fits : ∀ next ∈ call, next.Fits correlation (machine.journal ++ [event]) machine.sent)
    (truthful : answer.Truthful (some event.state)) :
    PromotionKept correlation machine (machine.append event next) := by
  obtain ⟨appended, acceptedNext, exactNext⟩ :=
    append_valid invariant.accepted invariant.exact_ mine decodes valid
  rw [PromotionMachine.append, appended]
  simp only [goesOn]
  have journaled : ∀ attemptOrdinal ∈ machine.sent,
      attemptOrdinal ∈ attemptOrdinals (machine.journal ++ [event]) := by
    intro attemptOrdinal member
    rw [attemptOrdinals_concat, List.mem_append]
    exact .inl (invariant.sentJournaled attemptOrdinal member)
  refine ⟨?_, acceptedNext, exactNext, invariant.sentOnce, journaled, fits⟩
  exact {
    grows := ⟨[event], rfl, le_rfl⟩
    validates := ⟨_, acceptedNext.validated exactNext⟩
    accepted := truthful.accepted
    derives := fun state returned => by
      rw [acceptedNext.derived exactNext, List.getLast?_concat, Option.map_some,
        truthful.derives state returned]
    sentOnce := invariant.sentOnce
    sentJournaled := invariant.sentJournaled
    bounded := acceptedNext.numbered.2
    settled := fun terminal => by
      rw [unsettled_of_valid invariant.accepted valid] at terminal
      cases terminal }

theorem kept_appendState (invariant : PromotionInvariant correlation machine)
    {event : TargetPromotionJournalEvent} (mine : event.correlation = correlation)
    (decodes : event.decodes = true)
    (valid : machine.journal.validTargetPromotionRecord event = true) :
    PromotionKept correlation machine (machine.appendState event event.state) :=
  @kept_append _ _ invariant _ mine decodes valid _ _ none rfl nofun rfl

theorem decodes_ofPrevious {previous : Option Nat}
    (continues : machine.journal.Continues correlation previous)
    (accepted : machine.journal.Accepted) :
    (TargetPromotionTerminalBasis.ofPrevious previous).decodes = true := by
  cases previous with
  | none => rfl
  | some attemptOrdinal => exact decide_eq_true (continues.attempt accepted).1

theorem kept_refusal (invariant : PromotionInvariant correlation machine)
    {boundary : TargetPromotionBoundary} {previous : Option Nat}
    {refusal : TargetPromotionSafetyRefusal}
    (continues : machine.journal.Continues correlation previous)
    (known : boundary ≠ .compareAndSet ∨
      previous ≠ none ∧ machine.journal.getLast?.any (·.attemptOrdinal?.isSome)) :
    PromotionKept correlation machine
      (machine.appendTargetPromotionSafetyRefusal boundary correlation previous refusal) := by
  have valid := @PromotionHistory.Continues.valid_refusal _ _ _ continues invariant.accepted _
    refusal known
  have decodes : (TargetPromotionJournalEvent.safetyRefused boundary (.ofPrevious previous)
      correlation (machine.journal.countP isRefusal + 1) refusal).decodes = true :=
    Bool.and_eq_true_iff.mpr ⟨decodes_ofPrevious continues invariant.accepted, by simp⟩
  have fresh : PromotionKept correlation machine
      (machine.appendRefusal boundary correlation (.ofPrevious previous) refusal) := by
    obtain ⟨-, acceptedNext, exactNext⟩ :=
      append_valid invariant.accepted invariant.exact_ rfl decodes valid
    unfold PromotionMachine.appendRefusal
    refine @kept_append _ _ invariant _ rfl decodes valid _ (.returned _) none ?_ nofun rfl
    rw [acceptedNext.derived exactNext, List.getLast?_concat]
    rfl
  unfold PromotionMachine.appendTargetPromotionSafetyRefusal
  cases derived : machine.journal.deriveTargetPromotionState correlation with
  | none => exact fresh
  | some current =>
      dsimp only
      split
      · refine kept_finish invariant ?_
        rw [← invariant.accepted.derived invariant.exact_, derived]
        rfl
      · exact fresh

variable {last : TargetPromotionJournalEvent}

theorem kept_returned (invariant : PromotionInvariant correlation machine)
    (ended : machine.journal.getLast? = some last) :
    PromotionKept correlation machine (machine.finish (.returned last.state)) := by
  refine kept_finish invariant ?_
  rw [ended, Option.map_some]
  rfl

variable {authorization : TargetPromotionReadAuthorization}

section

variable (invariant : PromotionInvariant correlation machine)
include invariant

theorem kept_authorizePending (ended : machine.journal.getLast? = some last)
    {retry : TargetPromotionPendingRetry} (pending : last.state.pendingRead? = some retry)
    {authority : TargetPromotionAuthority}
    (authorized : authorizePendingProgress retry authority = some authorization) :
    PromotionKept correlation machine (machine.advance (.readAuthorized authorization)) := by
  have previous : authorization.previousAttemptOrdinal = retry.previous := by
    cases retry with
    | needInitialReconciliationRead =>
        simp only [authorizePendingProgress] at authorized
        split at authorized <;> cases authorized
        rfl
    | needReconciliationRead => cases authorized; rfl
  refine kept_advance invariant ⟨?_, ?_⟩
  · rw [previous]
    exact pending_continues invariant.accepted invariant.exact_ ended pending
  · rintro -
    rw [ended, Option.any_some]
    cases last <;> first | exact Bool.false_ne_true | cases pending

theorem kept_authorizeProgress (ended : machine.journal.getLast? = some last)
    {authority : TargetPromotionAuthority} {unauthorized : PromotionAnswer × PromotionMachine}
    (kept : PromotionKept correlation machine unauthorized) :
    PromotionKept correlation machine
      (machine.authorizeProgress last.state authority unauthorized) := by
  cases last with
  | intended | attemptIntended | safetyRefused =>
      simp only [PromotionMachine.authorizeProgress, TargetPromotionJournalEvent.state]
      split
      next authorization authorized => exact kept_authorizePending invariant ended rfl authorized
      next => exact kept
  | reconciliationDeferred afterAttemptOrdinal deferredCorrelation deferral =>
      obtain ⟨continues, fields⟩ :=
        deferred_continues invariant.accepted invariant.exact_ ended rfl
      simp only [PromotionMachine.authorizeProgress, TargetPromotionJournalEvent.state]
      split
      next => exact kept_returned invariant ended
      next retry =>
        cases deferral with
        | targetReadFailed detail =>
            refine kept_advance invariant ⟨continues, ?_⟩
            intro readOnly
            exact absurd readOnly retry
        | retryAuthorityRequired observedHeadSha =>
            obtain ⟨below, observed⟩ := deferralFieldIssue_eq_none.mp fields
            obtain ⟨positive, -⟩ := continues.attempt invariant.accepted
            refine kept_advance invariant ⟨⟨some afterAttemptOrdinal, continues, ?_, rfl⟩, ?_⟩
            · simp [below.ne]
            · simp [exactPromotionAttemptReason, positive.ne', observed observedHeadSha rfl]
  | observedSuccess | stale | nonConvergence => exact kept_returned invariant ended

theorem kept_finishReadDecision (fits : authorization.Fits correlation machine.journal)
    {decision : TargetPromotionReadDecision} (decided : decision.Allowed correlation authorization)
    (once : ∀ afterAttemptOrdinal deferral,
      decision = .reconciliationDeferred afterAttemptOrdinal deferral →
        afterAttemptOrdinal ∉ machine.journal.deferredAttempts) :
    PromotionKept correlation machine (machine.finishReadDecision correlation decision) := by
  have decodes := decodes_ofPrevious fits.continues invariant.accepted
  cases decision with
  | attemptAuthorized attempt =>
      obtain ⟨limit, next, reasoned⟩ := decided
      exact kept_advance invariant ⟨⟨_, fits.continues, limit, next⟩, reasoned⟩
  | nonConvergent attemptOrdinal observation =>
      obtain ⟨previous, truthful⟩ := decided
      have continues := fits.continues
      rw [previous] at continues decodes
      exact kept_appendState invariant rfl decodes
        (continues.valid_terminal invariant.accepted invariant.exact_ truthful)
  | propagateFailure detail => exact kept_finish invariant trivial
  | reconciliationDeferred afterAttemptOrdinal deferral =>
      obtain ⟨previous, -, fields⟩ := decided
      have continues := fits.continues
      rw [previous] at continues decodes
      exact kept_appendState invariant rfl decodes
        (continues.valid_deferral invariant.accepted invariant.exact_ (once _ _ rfl) fields)
  | resultContradiction detail => exact kept_resultContradiction invariant detail
  | stale basis observation | succeeded basis observation =>
      obtain ⟨rfl, truthful⟩ := decided
      exact kept_appendState invariant rfl decodes
        (fits.continues.valid_terminal invariant.accepted invariant.exact_ truthful)

theorem numbered_of_fits (fits : authorization.Fits correlation machine.journal) :
    authorization.Numbered := by
  intro attemptOrdinal previous
  have continues := fits.continues
  rw [previous] at continues
  obtain ⟨positive, bounded, -⟩ := continues.attempt invariant.accepted
  exact ⟨positive, bounded⟩

end

variable {attemptOrdinal : Nat}

section

variable (invariant : PromotionInvariant correlation machine)
include invariant

theorem continues_of_awaits (awaits : machine.journal.Awaits correlation attemptOrdinal) :
    machine.journal.Continues correlation (some attemptOrdinal) := by
  obtain ⟨reason, ended⟩ := awaits
  exact pending_continues invariant.accepted invariant.exact_ ended rfl

theorem kept_recordAttempt {authorization : TargetPromotionAttemptAuthorization}
    (fits : authorization.Fits correlation machine.journal) :
    PromotionKept correlation machine
      (machine.recordTargetPromotionAttemptIntent correlation authorization) := by
  obtain ⟨⟨previous, continues, limit, next⟩, reasoned⟩ := fits
  rw [PromotionMachine.recordTargetPromotionAttemptIntent, validated_eq invariant]
  split
  · rw [next] at reasoned ⊢
    refine @kept_append _ _ invariant _ rfl (by simp [decodes])
      (continues.valid_attempt invariant.accepted limit reasoned) _ _ (some _) rfl ?_ trivial
    intro call member
    cases member
    refine ⟨⟨authorization.reason, List.getLast?_concat⟩, ?_⟩
    intro sent
    have earlier := invariant.sentJournaled _ sent
    rw [invariant.accepted.numbered.1, List.mem_range'_1, continues.count invariant.accepted]
      at earlier
    omega
  · exact kept_resultContradiction invariant _

theorem kept_sendAttempt (awaits : machine.journal.Awaits correlation attemptOrdinal)
    (unsent : attemptOrdinal ∉ machine.sent) :
    PromotionKept correlation machine
      (machine.sendTargetPromotionAttempt correlation attemptOrdinal) := by
  have continues := continues_of_awaits invariant awaits
  obtain ⟨-, -, -, journaled⟩ := continues.attempt invariant.accepted
  rw [PromotionMachine.sendTargetPromotionAttempt, validated_eq invariant]
  split
  · have once : (machine.sent ++ [attemptOrdinal]).Nodup := by
      rw [← List.concat_eq_append]
      exact invariant.sentOnce.concat unsent
    have sentJournaled : ∀ ordinal ∈ machine.sent ++ [attemptOrdinal],
        ordinal ∈ machine.journal.attemptOrdinals := by
      intro ordinal member
      rcases List.mem_append.mp member with earlier | last
      · exact invariant.sentJournaled ordinal earlier
      · rwa [List.mem_singleton.mp last]
    refine ⟨?_, invariant.accepted, invariant.exact_, once, sentJournaled, ?_⟩
    · exact {
        grows := ⟨[], by simp [PromotionMachine.advance]⟩
        validates := ⟨_, invariant.accepted.validated invariant.exact_⟩
        accepted := fun _ => PromotionAnswer.noConfusion
        derives := fun _ => PromotionAnswer.noConfusion
        sentOnce := once
        sentJournaled
        bounded := invariant.accepted.numbered.2
        settled := fun terminal => by
          rw [continues.unsettled] at terminal
          cases terminal }
    · intro call member
      cases member
      exact awaits
  · exact kept_resultContradiction invariant _

theorem kept_settlement (continues : machine.journal.Continues correlation (some attemptOrdinal))
    (result : TargetPromotionCompareAndSetResult) :
    PromotionKept correlation machine
      (machine.finishSettlement correlation attemptOrdinal
        (decideTargetPromotionSettlement correlation result)) := by
  have decodes := decodes_ofPrevious continues invariant.accepted
  have stale : ∀ observation,
      validPromotionStaleObservation (.afterAttempt attemptOrdinal) correlation observation = true →
        PromotionKept correlation machine
          (machine.finishSettlement correlation attemptOrdinal (.stale observation)) :=
    fun _ truthful => kept_appendState invariant rfl decodes
      (continues.valid_terminal invariant.accepted invariant.exact_ truthful)
  have succeeded : ∀ observation,
      validPromotionSuccessObservation (.afterAttempt attemptOrdinal) correlation observation =
        true →
        PromotionKept correlation machine
          (machine.finishSettlement correlation attemptOrdinal (.succeeded observation)) :=
    fun _ truthful => kept_appendState invariant rfl decodes
      (continues.valid_terminal invariant.accepted invariant.exact_ truthful)
  cases result with
  | applied newHeadSha =>
      rw [decideTargetPromotionSettlement]
      split
      next applied => exact succeeded _ (by simp [validPromotionSuccessObservation, applied])
      next => exact kept_resultContradiction invariant _
  | rejectedExpectedHead observedHeadSha =>
      rw [decideTargetPromotionSettlement]
      split
      next current => exact succeeded _ (by simp [validPromotionSuccessObservation, current])
      next moved =>
        split
        next => exact kept_resultContradiction invariant _
        next unexpected =>
          exact stale _ (by simp [validPromotionStaleObservation, moved, unexpected])

theorem kept_observeAttempt (awaits : machine.journal.Awaits correlation attemptOrdinal)
    (answer : TargetPromotionCompareAndSetAnswer) :
    PromotionKept correlation machine
      (machine.observeTargetPromotionAttempt correlation attemptOrdinal answer) := by
  have continues := continues_of_awaits invariant awaits
  obtain ⟨reason, ended⟩ := awaits
  cases answer with
  | ambiguous => exact kept_returned invariant ended
  | refused refusal =>
      refine kept_refusal invariant continues (.inr ⟨by simp, ?_⟩)
      rw [ended]
      rfl
  | settled result =>
      rw [PromotionMachine.observeTargetPromotionAttempt,
        PromotionMachine.settleTargetPromotionAttempt, validated_eq invariant]
      split
      · exact kept_settlement invariant continues result
      · exact kept_resultContradiction invariant _

end

end Steps

/-! ## Second deferrals -/

def TargetPromotionReadAnswer.leavesUnresolved (correlation : TargetPromotionCorrelation) :
    TargetPromotionReadAnswer → Bool
  | failed _ => true
  | observed (.candidateNotInAncestry currentHeadSha) =>
      currentHeadSha = correlation.expectedHead && currentHeadSha ≠ correlation.candidateCommit
  | _ => false

/-- A read-only reconciliation leaves an attempt unresolved that is already deferred. -/
def defersAgain (correlation : TargetPromotionCorrelation) (action : PromotionAction)
    (machine : PromotionMachine) : Bool :=
  match action, machine.call with
  | .proceed, some (.read authorization answer) =>
      authorization.authority = .readOnly &&
        authorization.previousAttemptOrdinal.any (· ∈ machine.journal.deferredAttempts) &&
        answer.leavesUnresolved correlation
  | _, _ => false

section Deferrals

variable {machine : PromotionMachine} {correlation : TargetPromotionCorrelation}
  {authorization : TargetPromotionReadAuthorization} {answer : TargetPromotionReadAnswer}

theorem unresolved_of_deferred {observation : TargetPromotionGitReadObservation}
    {afterAttemptOrdinal : Nat} {deferral : TargetPromotionReconciliationDeferral}
    (deferred : decideSuccessfulTargetPromotionRead correlation authorization observation =
      .reconciliationDeferred afterAttemptOrdinal deferral) :
    (TargetPromotionReadAnswer.observed observation).leavesUnresolved correlation = true := by
  unfold decideSuccessfulTargetPromotionRead at deferred
  split at deferred
  next => cases deferred
  next consistent =>
    cases observation with
    | candidateAncestor | candidateCurrent => cases deferred
    | candidateNotInAncestry currentHeadSha =>
        by_cases current : currentHeadSha = correlation.candidateCommit
        · simp [readObservationContradiction, current] at consistent
        · by_cases expected : currentHeadSha = correlation.expectedHead
          · rw [expected] at current
            simp [TargetPromotionReadAnswer.leavesUnresolved, expected, current]
          · simp [expected] at deferred

theorem deferred_of_unresolved {attemptOrdinal : Nat}
    (readOnly : authorization.authority = .readOnly)
    (previous : authorization.previousAttemptOrdinal = some attemptOrdinal)
    (more : attemptOrdinal ≠ targetPromotionAttemptLimit)
    (unresolved : answer.leavesUnresolved correlation = true) :
    ∃ deferral, machine.observeTargetPromotionRead correlation authorization answer =
      machine.finishReadDecision correlation (.reconciliationDeferred attemptOrdinal deferral) := by
  cases answer with
  | refused refusal => cases unresolved
  | failed detail =>
      refine ⟨.targetReadFailed detail, ?_⟩
      simp [PromotionMachine.observeTargetPromotionRead, decideFailedTargetPromotionRead, previous,
        readOnly, more]
  | observed observation =>
      cases observation with
      | candidateAncestor | candidateCurrent => cases unresolved
      | candidateNotInAncestry currentHeadSha =>
          refine ⟨.retryAuthorityRequired currentHeadSha, ?_⟩
          simp only [TargetPromotionReadAnswer.leavesUnresolved, Bool.and_eq_true,
            decide_eq_true_eq] at unresolved
          obtain ⟨rfl, other⟩ := unresolved
          simp [PromotionMachine.observeTargetPromotionRead, decideSuccessfulTargetPromotionRead,
            readObservationContradiction, other, decideExpectedHeadRead, previous, readOnly, more]

theorem kept_observeRead (invariant : PromotionInvariant correlation machine)
    (fits : authorization.Fits correlation machine.journal)
    (once : ¬ (authorization.authority = .readOnly ∧
      authorization.previousAttemptOrdinal.any (· ∈ machine.journal.deferredAttempts) = true ∧
      answer.leavesUnresolved correlation = true)) :
    PromotionKept correlation machine
      (machine.observeTargetPromotionRead correlation authorization answer) := by
  have numbered := numbered_of_fits invariant fits
  have deferredOnce : ∀ decision : TargetPromotionReadDecision,
      decision.Allowed correlation authorization →
      (∀ afterAttemptOrdinal deferral,
        decision = .reconciliationDeferred afterAttemptOrdinal deferral →
          answer.leavesUnresolved correlation = true) →
      ∀ afterAttemptOrdinal deferral,
        decision = .reconciliationDeferred afterAttemptOrdinal deferral →
          afterAttemptOrdinal ∉ machine.journal.deferredAttempts := by
    rintro decision allowed unresolved afterAttemptOrdinal deferral rfl again
    obtain ⟨previous, readOnly, -⟩ := allowed
    exact once ⟨readOnly, by simpa [previous] using again, unresolved _ _ rfl⟩
  cases answer with
  | refused refusal =>
      exact kept_refusal invariant fits.continues (.inl (by simp))
  | failed detail =>
      have allowed := @failedRead_allowed correlation _ numbered detail
      exact kept_finishReadDecision invariant fits allowed
        (deferredOnce _ allowed fun _ _ _ => rfl)
  | observed observation =>
      have allowed := @successfulRead_allowed correlation _ numbered observation
      exact kept_finishReadDecision invariant fits allowed
        (deferredOnce _ allowed fun _ _ => unresolved_of_deferred)

theorem deferred_below {journal : PromotionHistory} (accepted : journal.Accepted)
    {attemptOrdinal : Nat} (deferred : attemptOrdinal ∈ journal.deferredAttempts) :
    attemptOrdinal < targetPromotionAttemptLimit := by
  induction journal using List.reverseRecOn with
  | nil => cases deferred
  | append_singleton earlier last induction =>
      obtain ⟨acceptedEarlier, -, valid⟩ := accepted_concat.mp accepted
      rw [deferredAttempts_concat, List.mem_append] at deferred
      rcases deferred with before | now
      · exact induction acceptedEarlier before
      · cases last with
        | reconciliationDeferred afterAttemptOrdinal deferredCorrelation deferral =>
            simp only [validTargetPromotionRecord, validPromotionDeferral, Bool.and_eq_true,
              decide_eq_true_eq] at valid
            simp only [deferredAttempt?, Option.toList_some, List.mem_singleton] at now
            rw [now]
            exact (deferralFieldIssue_eq_none.mp valid.2).1
        | _ => cases now

/-- A second deferral contradicts the first one, or is returned behind a later refusal. -/
theorem second_deferral (invariant : PromotionInvariant correlation machine)
    (fits : authorization.Fits correlation machine.journal)
    (readOnly : authorization.authority = .readOnly) {attemptOrdinal : Nat}
    (again : attemptOrdinal ∈ machine.journal.deferredAttempts)
    (deferral : TargetPromotionReconciliationDeferral) :
    ¬ PromotionConforms correlation machine
      (machine.finishReadDecision correlation (.reconciliationDeferred attemptOrdinal deferral)) := by
  intro conforms
  obtain ⟨first, member, about⟩ := List.mem_filterMap.mp again
  have mine := invariant.exact_ first member
  have sameKey : targetPromotionRecordKey first = targetPromotionRecordKey
      (.reconciliationDeferred attemptOrdinal correlation deferral) := by
    cases first with
    | reconciliationDeferred attempt firstCorrelation firstDeferral =>
        cases about
        cases mine
        rfl
    | _ => cases about
  obtain ⟨existing, found⟩ : ∃ existing, machine.journal.find? (fun existing =>
      targetPromotionRecordKey existing = targetPromotionRecordKey
        (.reconciliationDeferred attemptOrdinal correlation deferral)) = some existing := by
    rw [← Option.isSome_iff_exists, List.find?_isSome]
    exact ⟨first, member, decide_eq_true sameKey⟩
  simp only [PromotionMachine.finishReadDecision, PromotionMachine.appendState,
    PromotionMachine.append, appendTargetPromotionEvent, found] at conforms
  by_cases same : existing = .reconciliationDeferred attemptOrdinal correlation deferral
  · rw [if_pos same] at conforms
    have derived := conforms.derives _ rfl
    have undeferred := fits.readOnly readOnly
    dsimp only [PromotionMachine.finish] at derived
    rw [invariant.accepted.derived invariant.exact_] at derived
    obtain ⟨last, ended, state⟩ := Option.map_eq_some_iff.mp derived
    rw [ended, Option.any_some] at undeferred
    cases last with
    | reconciliationDeferred => exact undeferred rfl
    | _ => cases state
  · rw [if_neg same] at conforms
    exact conforms.accepted existing rfl

end Deferrals

/-! ## Runs -/

section Runs

variable {machine : PromotionMachine} {correlation : TargetPromotionCorrelation}

section

variable (invariant : PromotionInvariant correlation machine)
include invariant

theorem kept_published (published : Bool) {next : PromotionAnswer × PromotionMachine}
    (kept : PromotionKept correlation machine next) :
    PromotionKept correlation machine
      (authorizePublishedCandidate correlation published machine next) := by
  unfold authorizePublishedCandidate
  split
  · exact kept
  · exact kept_resultContradiction invariant _

theorem kept_run :
    PromotionKept correlation machine
      (machine.authorizeOrRecordTargetPromotionProgress correlation) := by
  rw [PromotionMachine.authorizeOrRecordTargetPromotionProgress, validated_eq invariant]
  cases ended : machine.journal.getLast? with
  | none =>
      have empty := List.getLast?_eq_none_iff.mp ended
      refine @kept_append _ _ invariant _ rfl rfl (by rw [empty]; rfl) _ _ (some _) rfl ?_ trivial
      intro call member
      cases member
      rw [empty]
      exact ⟨⟨rfl, rfl, rfl⟩, nofun⟩
  | some last => exact kept_authorizeProgress invariant ended (kept_finish invariant trivial)

theorem kept_reconcile (authority : TargetPromotionAuthority) :
    PromotionKept correlation machine
      (machine.authorizeTargetPromotionProgress correlation authority) := by
  rw [PromotionMachine.authorizeTargetPromotionProgress, validated_eq invariant]
  cases ended : machine.journal.getLast? with
  | none => exact kept_resultContradiction invariant _
  | some last =>
      exact kept_authorizeProgress invariant ended (kept_resultContradiction invariant _)

theorem promotionStep_kept (action : PromotionAction)
    (once : defersAgain correlation action machine = false) :
    PromotionKept correlation machine (promotionStep correlation action machine) := by
  have unchanged : PromotionKept correlation machine (.ignored, machine) :=
    kept_call invariant invariant.call trivial
  have fits := invariant.call
  unfold promotionStep
  unfold defersAgain at once
  split
  next published idle => exact kept_published invariant published (kept_run invariant)
  next published idle =>
    exact kept_published invariant published (kept_reconcile invariant .readOnly)
  next call called =>
    have fit := fits call called
    cases call with
    | readAuthorized authorization =>
        rw [PromotionMachine.proceed, PromotionMachine.requestTargetPromotionRead,
          validated_eq invariant]
        split
        · exact kept_advance invariant fit
        · exact kept_resultContradiction invariant _
    | read authorization answer =>
        apply kept_observeRead invariant fit
        simpa [called, and_assoc] using once
    | attemptAuthorized authorization => exact kept_recordAttempt invariant fit
    | attemptIntended attemptOrdinal => exact kept_sendAttempt invariant fit.1 fit.2
    | sent attemptOrdinal answer => exact kept_observeAttempt invariant fit answer
    | reading | sending => exact unchanged
  next answer authorization called =>
    exact kept_advance invariant (fits (.reading authorization) called)
  next answer attemptOrdinal called =>
    exact kept_advance invariant (fits (.sending attemptOrdinal) called)
  next => exact kept_finish invariant trivial
  next => exact unchanged

theorem defersAgain_not_conforms {action : PromotionAction}
    (again : defersAgain correlation action machine = true) :
    ¬ PromotionConforms correlation machine (promotionStep correlation action machine) := by
  unfold defersAgain at again
  split at again
  next authorization answer called =>
    simp only [Bool.and_eq_true, Option.any_eq_true] at again
    obtain ⟨⟨only, attemptOrdinal, previous, deferred⟩, unresolved⟩ := again
    have readOnly := of_decide_eq_true only
    have fit : authorization.Fits correlation machine.journal := invariant.call _ called
    obtain ⟨deferral, decided⟩ :=
      @deferred_of_unresolved machine _ _ _ _ readOnly previous
        (deferred_below invariant.accepted (of_decide_eq_true deferred)).ne unresolved
    simp only [promotionStep, called, PromotionMachine.proceed, decided]
    exact second_deferral invariant fit readOnly (of_decide_eq_true deferred) deferral
  next => cases again

end

/-- The steps of a run conform exactly when none of them defers an attempt that is already
deferred. -/
theorem promotion_conforms_iff {journal : PromotionHistory} {sent : List Nat}
    {derived : Option TargetPromotionState}
    (validated : journal.validateTargetPromotionState correlation = .ok derived)
    (bucket : ∀ event ∈ journal, event.correlation.requestId = correlation.requestId)
    (accepted : journal.Accepted) (sentOnce : sent.Nodup)
    (sentJournaled : ∀ attemptOrdinal ∈ sent, attemptOrdinal ∈ journal.attemptOrdinals)
    (actions : List PromotionAction) :
    Machine.Guarded (promotionStep correlation)
        (fun action before =>
          PromotionConforms correlation before (promotionStep correlation action before))
        ⟨journal, none, sent⟩ actions ↔
      Machine.Guarded (promotionStep correlation)
        (fun action before => defersAgain correlation action before = false)
        ⟨journal, none, sent⟩ actions := by
  apply @Machine.guarded_congr _ _ _ _ _ _ (PromotionInvariant correlation)
  · intro action machine invariant
    cases again : defersAgain correlation action machine with
    | false => simpa using (promotionStep_kept invariant action again).1
    | true => simpa using defersAgain_not_conforms invariant again
  · intro action machine once invariant
    exact (promotionStep_kept invariant action once).2
  · exact ⟨accepted, exact_of_validated validated bucket, sentOnce, sentJournaled, nofun⟩

end Runs

namespace SecondDeferral

def plannedAttempt : PlannedTaskAttempt where
  attemptId := ⟨"attempt"⟩
  baseSha := ⟨"base"⟩
  branch := "refs/heads/task"
  executor := "executor"
  runId := ⟨"promotion-run", by decide⟩
  taskId := ⟨"task"⟩
  taskRevision := ⟨"revision"⟩
  worktree := "/task"

def session : IntegratorSessionCorrelation where
  acceptedResult := ⟨⟨"accepted"⟩, ⟨0, "evidence"⟩⟩
  integrationTarget := ⟨"/target", "refs/heads/main"⟩
  plannedAttempt := plannedAttempt
  queuedAt := 2
  startedAt := 3
  candidateResource := "resource"
  expectedTargetHead := ⟨"expected"⟩
  sessionId := "session"
  targetLineageObservedAt := 4

theorem parents_exact : ((⟨"expected"⟩, ⟨"accepted"⟩) : GitCommitSha × GitCommitSha) =
    (session.expectedTargetHead, session.acceptedResult.commit) := rfl

def candidate : IntegratorRunQualifiedCandidate where
  candidateCommit := ⟨"candidate"⟩
  candidateText := "candidate"
  directParents := (⟨"expected"⟩, ⟨"accepted"⟩)
  qualifiedAt := 5
  run := ⟨1, session⟩
  exactParents := parents_exact
  qualifiedLater := Nat.lt_succ_self 4

def correlation : TargetPromotionCorrelation := targetPromotionCorrelationFor candidate

def ambiguousAttempt : List PromotionAction :=
  [.runTargetPromotion true, .proceed, .gitRead (.observed (.candidateNotInAncestry ⟨"expected"⟩)),
    .proceed, .proceed, .proceed, .gitCompareAndSet .ambiguous, .proceed]

def deferredAndRefused : List PromotionAction :=
  [.reconcileTargetPromotionAttempt true, .proceed, .gitRead (.failed "offline"), .proceed,
    .runTargetPromotion true, .proceed, .gitRead (.refused (.occupiedWorktree "/target")), .proceed]

def reconciledAgain : List PromotionAction :=
  [.reconcileTargetPromotionAttempt true, .proceed, .gitRead (.failed "timeout")]

def reconciling : PromotionMachine :=
  (Machine.run (promotionStep correlation) ⟨[], none, []⟩
    (ambiguousAttempt ++ deferredAndRefused ++ reconciledAgain)).2

/-- From the empty prefix the second reconciliation contradicts the first one. -/
theorem second_reconciliation_contradicts :
    PromotionHistory.validateTargetPromotionState [] correlation = .ok none ∧
      ¬ Machine.Guarded (promotionStep correlation)
        (fun action before =>
          PromotionConforms correlation before (promotionStep correlation action before))
        ⟨[], none, []⟩ (ambiguousAttempt ++ deferredAndRefused ++ reconciledAgain ++ [.proceed]) := by
  refine ⟨rfl, fun conforms => ?_⟩
  have last := (Machine.guarded_append.mp conforms).2.1
  have contradicted : (promotionStep correlation .proceed reconciling).1 = .journalContradiction
      (.reconciliationDeferred 1 correlation (.targetReadFailed "offline")) := by
    decide +kernel
  exact last.accepted _ contradicted

def ambiguousPrefix : PromotionHistory :=
  [.intended correlation, .attemptIntended 1 correlation (.initial ⟨"expected"⟩)]

/-- From a prefix with an ambiguous attempt, its first reconciliation and the retry conform. -/
theorem first_reconciliation_conforms :
    Machine.Guarded (promotionStep correlation)
      (fun action before =>
        PromotionConforms correlation before (promotionStep correlation action before))
      ⟨ambiguousPrefix, none, [1]⟩
      (deferredAndRefused ++ [.runTargetPromotion true, .proceed,
        .gitRead (.observed (.candidateNotInAncestry ⟨"expected"⟩)), .proceed, .proceed, .proceed,
        .gitCompareAndSet (.settled (.applied ⟨"candidate"⟩)), .proceed]) := by
  refine (@promotion_conforms_iff correlation ambiguousPrefix [1]
    (some (.promotionPending correlation (.needReconciliationRead 1))) ?_ ?_ ?_ ?_ ?_ _).mpr ?_
  · decide +kernel
  · decide +kernel
  · exact ⟨by decide +kernel, by decide +kernel⟩
  · decide
  · decide +kernel
  · decide +kernel

end SecondDeferral

end Dalph
