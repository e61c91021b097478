import Dalph.Coordination.Reconstruction.TrackerReads
import Dalph.Workflow.IntegrationFinality.State

/-!
# Finality of an accepted history

The index narrows a history to the promotion request of a claim and to the operation that completes
its task.  Every event of the claim is listed there, and in an accepted history every focused read
was intended, so that index and list find the same state and the same success.
-/

namespace Dalph

section

variable {claim : CompletionTaskClaim} {kind : ProtocolEventKind} {value : Option Json}
  {event : CompletionClaimFinalityJournalEvent} {record : JournalRecord}

end

section

variable {source : JournalHistorySource} {records : List JournalRecord}

end

section

variable {record : JournalRecord} {request : CompletionTaskRequest} {value : Option Json}

section

variable {focused : FocusedCompletionObservation}
  (observed : focusedCompletion? record = some focused)
include observed

end

end

section

variable {source : JournalHistorySource} {records before after : List JournalRecord}
  {record : JournalRecord} {focused : FocusedCompletionObservation} {query : FocusedSuccessQuery}

def CompletionReadsAnswered (records : List JournalRecord) : Prop :=
  ∀ record ∈ records, ∀ focused, focusedCompletion? record = some focused →
    ∃ intent ∈ records, intent.position < record.position ∧
      ∃ read, completionRead? intent = some read ∧ read.operationId = focused.operationId ∧
        focused.answers read = true

end

section

variable {runId : RunId} {records : List JournalRecord} {record : JournalRecord}
  {focused : FocusedCompletionObservation}

theorem CompletionReadsAnswered.before (answered : CompletionReadsAnswered records) (cutoff : Int) :
    CompletionReadsAnswered (recordsBefore records cutoff) := by
  intro record member focused observed
  obtain ⟨listed, shown⟩ := List.mem_filter.mp member
  obtain ⟨intent, intended, earlier, read⟩ := answered record listed focused observed
  have visible : (intent.position : Int) < cutoff :=
    lt_trans (Int.ofNat_lt.mpr earlier) (of_decide_eq_true shown)
  exact ⟨intent, List.mem_filter.mpr ⟨intended, decide_eq_true visible⟩, earlier, read⟩

end

namespace FinalizingHistory

open EstablishedRun

end FinalizingHistory

end Dalph
