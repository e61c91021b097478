import Dalph.Coordination.Reconstruction.HistoryIndexes

/-!
# Forward work behind a cancellation

The check of cancellation knows the kinds of records that start forward work, except for those that
result recovery added.
-/

namespace Dalph

section

variable {source : JournalHistorySource} {runId : RunId} {shown before rest : List JournalRecord}
  {cancellation record : JournalRecord}

theorem appliedCancellation_eq (presents : Presents source shown) (canonical : Canonical runId shown)
    (member : cancellation ∈ shown) (cancels : isRunCancellation cancellation.event = true) :
    appliedCancellation runId source = some cancellation := by
  have key : ∀ other : JournalRecord, isRunCancellation other.event = true →
      other.event.expectedKey = runCancellationAppliedRecordKey := by
    intro other cancels
    unfold isRunCancellation at cancels
    split at cancels
    · next event => rw [event]; rfl
    · cases cancels
  have owned := canonical.owned cancellation member
  cases presents with
  | raw =>
      have found : (findLast shown fun other => decide (other.runId = runId) &&
          isRunCancellation other.event) = some cancellation := by
        cases search : findLast shown fun other => decide (other.runId = runId) &&
            isRunCancellation other.event with
        | none =>
            have absent := List.find?_eq_none.mp search cancellation (List.mem_reverse.mpr member)
            simp [owned, cancels] at absent
        | some other =>
            have listed := List.mem_reverse.mp (List.mem_of_find?_eq_some search)
            have selected := List.find?_some search
            rw [Bool.and_eq_true] at selected
            rw [canonical.eq_of_key listed member (by rw [key other selected.2, key cancellation cancels])]
      simp [appliedCancellation, found, owned]
  | indexed chronological shows =>
      have found := canonical.find_key member
      rw [key cancellation cancels, ← (Presents.indexed chronological shows).recordByKey] at found
      simp [appliedCancellation, found, owned]

theorem mem_before_of_position (canonical : Canonical runId (before ++ cancellation :: rest))
    (member : record ∈ before ++ cancellation :: rest)
    (earlier : record.position < cancellation.position) : record ∈ before := by
  rw [← canonical.filter_before]
  exact List.mem_filter.mpr ⟨member, decide_eq_true earlier⟩

end

theorem ReplayedBy.postCancellation {replay : HistoryReplay} {runId : RunId}
    {before between after : List JournalRecord} {cancellation record : JournalRecord}
    (replayed : ReplayedBy replay runId (before ++ cancellation :: (between ++ record :: after)))
    (canonical : Canonical runId (before ++ cancellation :: (between ++ record :: after)))
    (cancels : isRunCancellation cancellation.event = true) :
    ∃ source rest, Presents source (before ++ cancellation :: (between ++ record :: rest)) ∧
      Canonical runId (before ++ cancellation :: (between ++ record :: rest)) ∧
        postCancellationForwardWork record source cancellation.position = none := by
  rw [← List.cons_append, ← List.append_assoc] at replayed canonical
  obtain ⟨indexes, _, checked⟩ := replayed.record
  obtain ⟨rest, through, presents⟩ := canonical.presents_source replay
  have prior := canonical.presents_prior replay
  have member : cancellation ∈ before ++ cancellation :: between := by simp
  have applied := appliedCancellation_eq prior canonical.left member cancels
  have owned := (validateRecordEnvelope_issues_eq_nil.mp checked.envelope).2.1
  have passed := (List.append_eq_nil_iff.mp checked.cancelled).1
  rw [validateNoForwardWorkAfterCancellation, if_neg (not_not_intro owned), applied] at passed
  have shown : before ++ cancellation :: between ++ record :: rest =
      before ++ cancellation :: (between ++ record :: rest) := by simp
  rw [shown] at through presents
  refine ⟨_, rest, presents, through, ?_⟩
  cases forbidden : postCancellationForwardWork record
      (replay.source (before ++ cancellation :: between ++ record :: after)
        (before ++ cancellation :: between).length) cancellation.position with
  | none => rfl
  | some work => simp only [forbidden, List.cons_ne_nil] at passed

namespace CancelledRun

open EstablishedRun

def settled : List JournalRecord :=
  recordsFrom (suspendedEvents ++
    [.runCancellationApplied, .cancelledAttemptImplementationAbandoned ⟨claim, 18, attempt, 2⟩])

def rejected : PlannedAttemptExecutorReport :=
  .resultRejected (plannedAttemptExecutorCorrelation attempt)
    ⟨.resultEnvelopeInvalid, .correctionExhausted, .three, .stopped, rfl⟩

def directed : JournalRecord where
  event := .resultRecoveryDirected
    ⟨.continueRetainedAttempt, ⟨"direction", runId⟩, .rejectedResult attempt 2⟩
  key := resultRecoveryDirectedRecordKey ⟨"direction", runId⟩
  position := 18
  runId := runId

end CancelledRun

end Dalph
