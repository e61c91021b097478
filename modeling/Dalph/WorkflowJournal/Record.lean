import Dalph.WorkflowJournal.RecordKey

/-!
# Journal records and the failures of a journal store

A record is the durable envelope of one event.  The stores number the records of a Run from one and
never use a key twice.
-/

namespace Dalph

/-- Physical storage of one workflow-journal history. -/
inductive JournalPartition where
  | hot
  | cold
deriving DecidableEq

/-- One durable envelope around a workflow event. -/
structure JournalRecord where
  event : WorkflowJournalEvent
  key : JournalRecordKey
  position : JournalPosition
  runId : RunId
deriving DecidableEq

namespace WorkflowJournalEvent

def isRunBegan (event : WorkflowJournalEvent) : Bool :=
  event.tag = .workflowRunBegan

def isRunTerminated (event : WorkflowJournalEvent) : Bool :=
  event.tag = .workflowRunTerminated

end WorkflowJournalEvent

/-- Ordinary workflow facts; Run lifecycle facts use their dedicated operations. -/
structure AppendableWorkflowJournalEvent where
  event : WorkflowJournalEvent
  ordinary : event.isRunBegan = false ∧ event.isRunTerminated = false
deriving DecidableEq

def runCancellationFact : AppendableWorkflowJournalEvent :=
  ⟨.runCancellationApplied, by decide⟩

inductive JournalStoreOperation where
  | append
  | read
  | beginRun
  | terminateRun
  | readRunForRecovery
  | scanHot
  | auditAll
  | retireTerminalRun
  | readCompletion
  | maintainArchive
deriving DecidableEq

/-- Wall-clock milliseconds of storage age. -/
abbrev RunCompletionTime := Nat

/-- When a Run completed; legacy histories carry no trustworthy original date. -/
inductive RunCompletionTiming where
  | known (completedAt : RunCompletionTime)
  | legacyBaseline (verifiedAt : RunCompletionTime)
deriving DecidableEq

/-- Recorded receiving-branch proof. -/
inductive RunCompletionPublication where
  | noRecordedPublication
  | recordedPublication (publication : Payload) (recordedAt : JournalPosition)
deriving DecidableEq

/-- Durable terminal result, independent of the detailed history. -/
structure RunCompletion where
  runId : RunId
  target : TrackerTarget
  disposition : RunTerminationDisposition
  terminatedAt : JournalPosition
  timing : RunCompletionTiming
  publication : RunCompletionPublication
deriving DecidableEq

/-- Why the owner removed one whole detailed history. -/
inductive RunHistoryDeletionReason where
  | age
  | budget
  | ageAndBudget
deriving DecidableEq

/-- Why and when the owner removed one whole detailed history. -/
structure RunHistoryDeletion where
  reason : RunHistoryDeletionReason
  observedAt : RunCompletionTime
deriving DecidableEq

/-- Typed failures of the journal stores. -/
inductive JournalStoreFailure where
  | journalStorageUnavailable (operation : JournalStoreOperation) (detail : String)
  | journalDataCorruption (operation : JournalStoreOperation) (detail : String)
  | journalHistoryCorruption (operation : JournalStoreOperation) (detail : String)
      (journalPartition : JournalPartition) (runId : RunId)
  | journalHistoryDeleted (completion : RunCompletion) (deletion : RunHistoryDeletion)
  | journalStoreContradiction (runId : RunId) (key : JournalRecordKey)
      (existingPosition : JournalPosition)
  | journalPartitionContradiction (runId : RunId)
  | journalHistoryNotTerminal (runId : RunId)
  | workflowRunAlreadyBegan (beganAt : JournalPosition) (runId : RunId)
  | workflowRunIdentityAlreadyUsed (firstRecordAt : JournalPosition) (runId : RunId)
  | workflowRunNotBegan (runId : RunId)
  | workflowRunTargetMismatch (recordedTarget requestedTarget : TrackerTarget) (runId : RunId)
  | workflowRunAlreadyTerminated (runId : RunId) (terminatedAt : JournalPosition)
  | workflowRunTerminationEvidenceInvalid (detail : String) (runId : RunId)
deriving DecidableEq

/-- Class of a typed failure. -/
inductive JournalStoreFailureClass where
  | journalStorageUnavailable
  | journalDataCorruption
  | journalHistoryCorruption
  | journalHistoryDeleted
  | journalStoreContradiction
  | journalPartitionContradiction
  | journalHistoryNotTerminal
  | workflowRunAlreadyBegan
  | workflowRunIdentityAlreadyUsed
  | workflowRunNotBegan
  | workflowRunTargetMismatch
  | workflowRunAlreadyTerminated
  | workflowRunTerminationEvidenceInvalid
deriving DecidableEq

def JournalStoreFailure.failureClass : JournalStoreFailure → JournalStoreFailureClass
  | journalStorageUnavailable .. => .journalStorageUnavailable
  | journalDataCorruption .. => .journalDataCorruption
  | journalHistoryCorruption .. => .journalHistoryCorruption
  | journalHistoryDeleted .. => .journalHistoryDeleted
  | journalStoreContradiction .. => .journalStoreContradiction
  | journalPartitionContradiction .. => .journalPartitionContradiction
  | journalHistoryNotTerminal .. => .journalHistoryNotTerminal
  | workflowRunAlreadyBegan .. => .workflowRunAlreadyBegan
  | workflowRunIdentityAlreadyUsed .. => .workflowRunIdentityAlreadyUsed
  | workflowRunNotBegan .. => .workflowRunNotBegan
  | workflowRunTargetMismatch .. => .workflowRunTargetMismatch
  | workflowRunAlreadyTerminated .. => .workflowRunAlreadyTerminated
  | workflowRunTerminationEvidenceInvalid .. => .workflowRunTerminationEvidenceInvalid

/-- Records of one Run as a store keeps them. -/
structure RecordSequence (runId : RunId) (records : List JournalRecord) : Prop where
  /-- Positions count from one. -/
  positions : records.map (·.position) = List.range' 1 records.length
  /-- Every record belongs to the Run. -/
  owned : ∀ record ∈ records, record.runId = runId
  /-- No key is used twice. -/
  distinctKeys : (records.map (·.key)).Nodup
  /-- Only the first record may begin the Run. -/
  beganFirst : ∀ record ∈ records.tail, record.event.isRunBegan = false
  /-- Only the last record may terminate the Run. -/
  terminatedLast : ∀ record ∈ records.dropLast, record.event.isRunTerminated = false

def endsTerminated (records : List JournalRecord) : Bool :=
  records.getLast?.any (·.event.isRunTerminated)

theorem exists_getLast?_of_endsTerminated {records : List JournalRecord}
    (ends : endsTerminated records = true) : ∃ last, records.getLast? = some last := by
  cases final : records.getLast? with
  | none => simp [endsTerminated, final] at ends
  | some last => exact ⟨last, rfl⟩

namespace RecordSequence

variable {runId : RunId} {records : List JournalRecord} {record : JournalRecord}

theorem nil : RecordSequence runId [] where
  positions := rfl
  owned := by simp
  distinctKeys := List.nodup_nil
  beganFirst := by simp
  terminatedLast := by simp

theorem singleton (owned : record.runId = runId) (first : record.position = 1) :
    RecordSequence runId [record] where
  positions := by simp [first]
  owned := by simpa using owned
  distinctKeys := List.nodup_singleton _
  beganFirst := by simp
  terminatedLast := by simp

theorem append (sequence : RecordSequence runId records) (owned : record.runId = runId)
    (next : record.position = records.length + 1)
    (fresh : ∀ earlier ∈ records, earlier.key ≠ record.key)
    (began : records ≠ [] → record.event.isRunBegan = false)
    (open_ : ∀ earlier ∈ records, earlier.event.isRunTerminated = false) :
    RecordSequence runId (records ++ [record]) where
  positions := by
    rw [List.map_append, sequence.positions, List.length_append]
    simp [List.range'_1_concat, next, Nat.add_comm]
  owned := by
    intro member listed
    rcases Log.mem_concat.mp listed with earlier | last
    · exact sequence.owned member earlier
    · rwa [last]
  distinctKeys := by
    rw [List.map_append, List.nodup_append]
    refine ⟨sequence.distinctKeys, by simp, ?_⟩
    intro key listed other last
    obtain ⟨earlier, member, rfl⟩ := List.mem_map.mp listed
    rw [List.map_singleton, List.mem_singleton] at last
    exact last ▸ fresh earlier member
  beganFirst := by
    cases records with
    | nil => simp
    | cons first rest =>
        intro member listed
        rw [List.cons_append, List.tail_cons] at listed
        rcases Log.mem_concat.mp listed with earlier | last
        · exact sequence.beganFirst member earlier
        · rw [last]
          exact began (List.cons_ne_nil first rest)
  terminatedLast := by
    rw [List.dropLast_concat]
    exact open_

section

variable (sequence : RecordSequence runId records)
include sequence

theorem position_getElem (index : Nat) (bound : index < records.length) :
    records[index].position = index + 1 := by
  have mapped := congrArg (fun positions => positions[index]?) sequence.positions
  simp only [List.getElem?_map, List.getElem?_eq_getElem bound, Option.map_some,
    List.getElem?_range' bound, Option.some.injEq] at mapped
  rw [mapped, Nat.one_mul, Nat.add_comm]

theorem position_le_length (member : record ∈ records) :
    1 ≤ record.position ∧ record.position ≤ records.length := by
  obtain ⟨index, bound, rfl⟩ := List.mem_iff_getElem.mp member
  rw [sequence.position_getElem index bound]
  exact ⟨Nat.le_add_left 1 index, bound⟩

theorem find_key_eq (member : record ∈ records) :
    records.find? (·.key = record.key) = some record := by
  cases found : records.find? (·.key = record.key) with
  | none =>
      have absent := List.find?_eq_none.mp found record member
      simp at absent
  | some other =>
      have sameKey : other.key = record.key := by simpa using List.find?_some found
      rw [List.inj_on_of_nodup_map sequence.distinctKeys (List.mem_of_find?_eq_some found) member
        sameKey]

theorem head_of_isRunBegan (member : record ∈ records) (began : record.event.isRunBegan = true) :
    records.head? = some record := by
  cases records with
  | nil => cases member
  | cons first rest =>
      rcases List.mem_cons.mp member with rfl | later
      · rfl
      · have ordinary := sequence.beganFirst record later
        rw [began] at ordinary
        cases ordinary

theorem not_terminated_of_not_ends (ends : endsTerminated records = false) :
    ∀ member ∈ records, member.event.isRunTerminated = false := by
  rcases List.eq_nil_or_concat records with rfl | ⟨initial, last, rfl⟩
  · simp
  · intro member listed
    rw [endsTerminated, List.concat_eq_append, List.getLast?_concat] at ends
    rw [List.concat_eq_append] at listed sequence
    rcases Log.mem_concat.mp listed with earlier | final
    · have open_ := sequence.terminatedLast
      rw [List.dropLast_concat] at open_
      exact open_ member earlier
    · rw [final]
      simpa using ends

theorem find_terminated (ends : endsTerminated records = true) :
    records.find? (·.event.isRunTerminated) = records.getLast? := by
  rcases List.eq_nil_or_concat records with rfl | ⟨initial, last, rfl⟩
  · simp [endsTerminated] at ends
  · rw [List.concat_eq_append] at *
    rw [endsTerminated, List.getLast?_concat] at ends
    have open_ := sequence.terminatedLast
    rw [List.dropLast_concat] at open_
    have none_before : initial.find? (·.event.isRunTerminated) = none := by
      rw [List.find?_eq_none]
      intro member listed
      simp [open_ member listed]
    rw [List.find?_append, none_before, List.getLast?_concat]
    simpa using ends

end

end RecordSequence

end Dalph
