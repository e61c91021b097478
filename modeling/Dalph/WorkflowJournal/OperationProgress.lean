import Dalph.Foundation.Log
import Dalph.WorkflowJournal.EvidenceIndex

/-!
# Progress of read operations

A read is pending between its intent and its outcome.  The index keeps what is pending behind every
record, and an outcome that stands before its intent leaves nothing to wait for.
-/

namespace Dalph

open PersistentSequence (Increasing)

def completedReadOperationIdOf (record : JournalRecord) : Option OperationId :=
  match record.event with
  | .taskTrackerFactsObserved observation => some observation.operationId
  | .taskAttemptBaseObserved operationId _ => some operationId
  | .plannedAttemptWorktreeObserved operationId _ => some operationId
  | .targetLineageObserved operationId _ _ => some operationId
  | .attemptRestartAuthorityReadFailed event =>
      match event.failure with
      | .taskFacts _ => none
      | .git _ => some event.operationId
  | _ => none

def intendedReadOperationIdOf (record : JournalRecord) : Option OperationId :=
  match record.event with
  | .taskAttemptBaseReadIntended operation => some operation.operationId
  | .gitReadIntentRecorded operation => some operation.operation.operationId
  | .taskTrackerReadIntentRecorded operation => some operation.operationId
  | _ => none

structure OperationProgress where
  completedReadOperationIds : KeySet OperationId
  pendingReadOperationIds : KeySet OperationId
  pendingReadOperationIdsByPosition : KeyedMap JournalPosition (KeySet OperationId)

def emptyOperationProgress : OperationProgress :=
  ⟨.empty, .empty, ∅⟩

def appendOperationProgress (progress : OperationProgress) (record : JournalRecord) :
    OperationProgress :=
  let completed := completedReadOperationIdOf record
  let completedReadOperationIds := progress.completedReadOperationIds.add? completed
  let intended := (intendedReadOperationIdOf record).filter fun operationId =>
    operationId ∉ completedReadOperationIds
  let withIntent := progress.pendingReadOperationIds.add? intended
  let pendingReadOperationIds := completed.elim withIntent withIntent.delete
  { completedReadOperationIds
    pendingReadOperationIds
    pendingReadOperationIdsByPosition :=
      progress.pendingReadOperationIdsByPosition.set record.position pendingReadOperationIds }

def operationProgressFrom (records : List JournalRecord) : OperationProgress :=
  records.foldl appendOperationProgress emptyOperationProgress

/-- The reads that are pending at the end of evidence; a window uses the index of its source. -/
def journalPendingReadOperationIds (progress : OperationProgress) (source : JournalRecordEvidence) :
    KeySet OperationId :=
  match source.lastPosition with
  | none => .empty
  | some position => (progress.pendingReadOperationIdsByPosition.lookup position).getD .empty

section

variable {records before after : List JournalRecord} {record : JournalRecord}
  {operationId : OperationId}

theorem operationProgressFrom_concat (records : List JournalRecord) (record : JournalRecord) :
    operationProgressFrom (records ++ [record]) =
      appendOperationProgress (operationProgressFrom records) record := by
  rw [operationProgressFrom, List.foldl_append]
  rfl

theorem not_intended_of_completed (completed : completedReadOperationIdOf record =
    some operationId) :
    intendedReadOperationIdOf record = none := by
  unfold completedReadOperationIdOf at completed
  unfold intendedReadOperationIdOf
  split at completed <;> simp_all

theorem mem_completedReadOperationIds :
    operationId ∈ (operationProgressFrom records).completedReadOperationIds ↔
      ∃ record ∈ records, completedReadOperationIdOf record = some operationId := by
  induction records using List.reverseRecOn with
  | nil => simp [operationProgressFrom, emptyOperationProgress]
  | append_singleton records record induction =>
      rw [operationProgressFrom_concat, appendOperationProgress]
      simp only [KeySet.mem_add?, induction, List.mem_append, List.mem_singleton, or_and_right,
        exists_or, exists_eq_left]
      exact or_comm

theorem mem_pendingReadOperationIds :
    operationId ∈ (operationProgressFrom records).pendingReadOperationIds ↔
      (∃ record ∈ records, intendedReadOperationIdOf record = some operationId) ∧
        ¬ ∃ record ∈ records, completedReadOperationIdOf record = some operationId := by
  induction records using List.reverseRecOn with
  | nil => simp [operationProgressFrom, emptyOperationProgress]
  | append_singleton records record induction =>
      have earlier := @mem_completedReadOperationIds records operationId
      rw [operationProgressFrom_concat, appendOperationProgress]
      simp only [List.mem_append, List.mem_singleton, or_and_right, exists_or, exists_eq_left]
      cases completed : completedReadOperationIdOf record with
      | none =>
          simp only [Option.elim_none, KeySet.mem_add?, Option.filter_eq_some_iff, earlier,
            induction,
            reduceCtorEq, or_false, false_or, decide_eq_true_eq]
          exact or_comm
      | some other =>
          have unintended := not_intended_of_completed completed
          simp only [Option.elim_some, KeySet.mem_delete, KeySet.mem_add?, unintended,
            Option.filter_none, reduceCtorEq, false_or, induction, Option.some.injEq, not_or,
            false_and, or_false]
          constructor
          · rintro ⟨apart, intended, waits⟩
            exact ⟨intended, waits, Ne.symm apart⟩
          · rintro ⟨intended, waits, apart⟩
            exact ⟨Ne.symm apart, intended, waits⟩

theorem lookup_pendingReadOperationIdsByPosition
    (increasing : InOrder (before ++ record :: after)) :
    (operationProgressFrom (before ++ record :: after)).pendingReadOperationIdsByPosition.lookup
        record.position =
      some (operationProgressFrom (before ++ [record])).pendingReadOperationIds := by
  induction after using List.reverseRecOn with
  | nil =>
      rw [operationProgressFrom_concat, appendOperationProgress]
      simp
  | append_singleton after last induction =>
      rw [← List.cons_append, ← List.append_assoc] at increasing ⊢
      obtain ⟨earlier, -, later⟩ := List.pairwise_append.mp increasing
      have apart : record.position ≠ last.position :=
        Nat.ne_of_lt (later record (by simp) last (by simp))
      rw [operationProgressFrom_concat, appendOperationProgress, KeyedMap.lookup_set, if_neg apart]
      exact induction earlier

end

/-- At every cutoff a read is pending exactly if its intent is visible and no outcome of it is. -/
theorem mem_journalPendingReadOperationIds_iff (records : List JournalRecord)
    (chronological : Chronological records) (cutoff : Int) (operationId : OperationId) :
    operationId ∈ journalPendingReadOperationIds (operationProgressFrom records)
        (journalEvidenceBefore (journalEvidenceFrom records) cutoff) ↔
      (∃ record ∈ records, (record.position : Int) < cutoff ∧
        intendedReadOperationIdOf record = some operationId) ∧
      ¬ ∃ record ∈ records, (record.position : Int) < cutoff ∧
        completedReadOperationIdOf record = some operationId := by
  have shows := (shows_journalEvidenceFrom chronological.increasing).before chronological cutoff
  obtain ⟨later, split⟩ := chronological.increasing.exists_filter_append (cutoff - 1)
  simp only [Int.le_sub_one_iff] at split
  have visible : ∀ holds : JournalRecord → Prop,
      (∃ record ∈ records, (record.position : Int) < cutoff ∧ holds record) ↔
        ∃ record ∈ records.filter (fun record => decide ((record.position : Int) < cutoff)),
          holds record := by
    intro holds
    simp only [List.mem_filter, decide_eq_true_eq, and_assoc]
  rw [visible, visible, ← mem_pendingReadOperationIds, journalPendingReadOperationIds, shows.last]
  generalize records.filter (fun record => decide ((record.position : Int) < cutoff)) = shown
    at split
  subst split
  obtain rfl | ⟨earlier, last, rfl⟩ := List.eq_nil_or_concat shown
  · rfl
  · rw [List.concat_eq_append, List.append_assoc, List.singleton_append] at chronological ⊢
    rw [List.getLast?_append]
    simp only [List.getLast?_singleton, Option.some_or, Option.map_some]
    rw [lookup_pendingReadOperationIdsByPosition chronological.increasing, Option.getD_some]

def readIntent (position : JournalPosition) (read : String) : JournalRecord where
  event := .taskTrackerReadIntentRecorded (.readTaskClaim ⟨⟨read⟩, [], .fixture "tracker", ⟨"task"⟩⟩)
  key := { value := "intent" }
  position
  runId := ⟨"reads", by decide⟩

def readOutcome (position : JournalPosition) (read : String) : JournalRecord where
  event := .taskTrackerFactsObserved
    (.focusedTaskClaimFactsUnreadable ⟨read⟩ (.fixture "tracker") ⟨"task"⟩)
  key := { value := "outcome" }
  position
  runId := ⟨"reads", by decide⟩

def interleavedReads : List JournalRecord :=
  [readOutcome 1 "early", readIntent 3 "early", readIntent 4 "late", readOutcome 6 "late"]

/-- The read with an early outcome never waits, and the other one waits between its two records. -/
theorem pendingReads_interleaved :
    ⟨"late"⟩ ∈ journalPendingReadOperationIds (operationProgressFrom interleavedReads)
        (journalEvidenceBefore (journalEvidenceFrom interleavedReads) 6) ∧
      ⟨"early"⟩ ∉ journalPendingReadOperationIds (operationProgressFrom interleavedReads)
        (journalEvidenceBefore (journalEvidenceFrom interleavedReads) 6) := by
  have chronological : Chronological interleavedReads := by
    refine ⟨?_, by decide⟩
    unfold Increasing
    decide
  rw [mem_journalPendingReadOperationIds_iff interleavedReads chronological,
    mem_journalPendingReadOperationIds_iff interleavedReads chronological]
  decide

end Dalph
