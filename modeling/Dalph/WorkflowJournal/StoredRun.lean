import Dalph.WorkflowJournal.Completion

/-!
# One Run in a journal store

Both stores keep the same things for a Run: its records in one of two partitions, its completion
and the marker of a deleted history.  One relation lists every effect that an operation may have on
them; the invariant of a Run and the permanence of its records are read off that list.
-/

namespace Dalph

structure StoredRun where
  hot : Option (List JournalRecord)
  cold : Option (List JournalRecord)
  /-- The bytes of the Run are accounted to the archive. -/
  archived : Bool
  completion : Option RunCompletion
  deletion : Option RunHistoryDeletion
deriving DecidableEq

namespace StoredRun

variable {kernel : HistoryKernel} {runId : RunId} {run next : StoredRun}
  {stored : List JournalRecord} {record : JournalRecord}

def unknown : StoredRun :=
  ⟨none, none, false, none, none⟩

def records (run : StoredRun) : List JournalRecord :=
  (run.hot.or run.cold).getD []

def inspection (run : StoredRun) (runId : RunId) : RunCompletionInspection :=
  match run.completion, run.deletion with
  | none, _ => .noCompletion runId
  | some completion, none => .completedRun completion .available
  | some completion, some deletion => .completedRun completion (.deleted deletion)

theorem completion_of_inspection_completedRun {completion : RunCompletion}
    {history : RunHistoryAvailability}
    (known : run.inspection runId = .completedRun completion history) :
    run.completion = some completion := by
  unfold inspection at known
  split at known
  next => cases known
  next completed _ => cases known; exact completed
  next completed _ => cases known; exact completed

/-- The records of a Run are held once and in sequence. -/
structure WellFormed (kernel : HistoryKernel) (runId : RunId) (run : StoredRun) : Prop where
  /-- No Run is both hot and cold. -/
  hotOrCold : run.hot = none ∨ run.cold = none
  /-- A Run that is held has a first record. -/
  nonempty : run.hot ≠ some [] ∧ run.cold ≠ some []
  /-- Positions, keys and lifecycle records of the Run. -/
  sequence : RecordSequence runId run.records
  /-- Only valid terminal histories are cold. -/
  coldValid : ∀ records, run.cold = some records →
    decideJournalPartitionHistory kernel .cold runId records = .validPartitionHistory true

/-- Mutual consistency of what is kept for a Run. -/
structure Consistent (kernel : HistoryKernel) (runId : RunId) (run : StoredRun) : Prop
    extends WellFormed kernel runId run where
  /-- Exactly the cold Runs are accounted to the archive. -/
  archivedCold : run.archived = run.cold.isSome
  /-- A deleted Run keeps its completion and no records. -/
  deletedCompleted : run.deletion.isSome → run.completion.isSome ∧ run.hot = none ∧ run.cold = none
  /-- Exactly the Runs that were terminated are completed, whether or not they are deleted. -/
  completed : run.completion.isSome ↔ endsTerminated run.records = true ∨ run.deletion.isSome
  /-- A completion is the summary of the records it completes. -/
  compacted : ∀ completion, run.completion = some completion → run.deletion = none →
    compactRunCompletion runId run.records completion.timing = some completion

theorem unknown_consistent : unknown.Consistent kernel runId where
  hotOrCold := .inl rfl
  nonempty := ⟨nofun, nofun⟩
  archivedCold := rfl
  deletedCompleted := nofun
  sequence := .nil
  completed := by simp [unknown, records, endsTerminated]
  compacted := nofun
  coldValid := nofun

theorem records_of_hot (hot : run.hot = some stored) : run.records = stored := by
  simp [records, hot]

namespace WellFormed

theorem records_of_cold (wellFormed : run.WellFormed kernel runId)
    (cold : run.cold = some stored) : run.records = stored := by
  rcases wellFormed.hotOrCold with absent | absent
  · simp [records, absent, cold]
  · rw [absent] at cold
    cases cold

theorem absent_of_records_nil (wellFormed : run.WellFormed kernel runId)
    (empty : run.records = []) : run.hot = none ∧ run.cold = none := by
  obtain ⟨hotNonempty, coldNonempty⟩ := wellFormed.nonempty
  cases hot : run.hot with
  | some stored =>
      rw [records_of_hot hot] at empty
      exact absurd (empty ▸ hot) hotNonempty
  | none =>
      cases cold : run.cold with
      | some stored =>
          rw [wellFormed.records_of_cold cold] at empty
          exact absurd (empty ▸ cold) coldNonempty
      | none => exact ⟨rfl, rfl⟩

end WellFormed

namespace Consistent

theorem open_of_incomplete (consistent : run.Consistent kernel runId)
    (incomplete : run.completion = none) :
    endsTerminated run.records = false ∧ run.deletion = none := by
  have notDone := consistent.completed.not.mp (by simp [incomplete])
  rw [not_or, Bool.not_eq_true, Bool.not_eq_true, Option.isSome_eq_false_iff,
    Option.isNone_iff_eq_none] at notDone
  exact notDone

theorem notCold_of_incomplete (consistent : run.Consistent kernel runId)
    (incomplete : run.completion = none) : run.cold = none := by
  obtain ⟨open_, -⟩ := consistent.open_of_incomplete incomplete
  cases cold : run.cold with
  | none => rfl
  | some stored =>
      rw [consistent.records_of_cold cold,
        endsTerminated_of_valid (consistent.coldValid stored cold)] at open_
      cases open_

theorem began_of_terminated (consistent : run.Consistent kernel runId)
    (ends : endsTerminated run.records = true) :
    run.records.head?.any (·.event.isRunBegan) := by
  obtain ⟨completion, completed⟩ := Option.isSome_iff_exists.mp (consistent.completed.mpr (.inl ends))
  cases deleted : run.deletion with
  | some deletion =>
      obtain ⟨-, hot, cold⟩ := consistent.deletedCompleted (by simp [deleted])
      simp [records, hot, cold, endsTerminated] at ends
  | none =>
      obtain ⟨first, -, began, -, head, -, beginning, -⟩ :=
        compactRunCompletion_eq_some (consistent.compacted completion completed deleted)
      rw [head]
      exact JournalRecord.isRunBegan_of_runBegan? beginning

end Consistent

/-- A record that may follow the records of a Run that is still open. -/
structure Extends (runId : RunId) (run : StoredRun) (record : JournalRecord) : Prop where
  owned : record.runId = runId
  next : record.position = run.records.length + 1
  incomplete : run.completion = none
  notCold : run.cold = none
  fresh : ∀ earlier ∈ run.records, earlier.key ≠ record.key
  beganFirst : run.records ≠ [] → record.event.isRunBegan = false

/-- Every effect that an operation may have on a Run. -/
inductive Change (kernel : HistoryKernel) (runId : RunId) (run : StoredRun) : StoredRun → Prop where
  | unchanged : Change kernel runId run run
  | recorded (record : JournalRecord) (extends_ : run.Extends runId record)
      (ordinary : record.event.isRunTerminated = false) :
      Change kernel runId run { run with hot := some (run.records ++ [record]) }
  | terminated (record : JournalRecord) (extends_ : run.Extends runId record)
      (terminal : record.event.isRunTerminated = true) (completion : RunCompletion)
      (compact : compactRunCompletion runId (run.records ++ [record]) completion.timing =
        some completion) :
      Change kernel runId run
        { run with hot := some (run.records ++ [record]), completion := some completion }
  | retired (stored : List JournalRecord) (hot : run.hot = some stored)
      (valid : decideJournalPartitionHistory kernel .hot runId stored =
        .validPartitionHistory true) :
      Change kernel runId run { run with hot := none, cold := some stored, archived := true }
  | deleted (deletion : RunHistoryDeletion) (cold : run.cold.isSome)
      (completed : run.completion.isSome) :
      Change kernel runId run
        { run with cold := none, archived := false, deletion := some deletion }

section

variable (consistent : run.Consistent kernel runId) (incomplete : run.completion = none)
include consistent incomplete

theorem extends_of_beginning {beginning : RunBeginning}
    (accepted : decideWorkflowRunBeginning run.records runId beginning = .ok record) :
    run.Extends runId record ∧ record.event.isRunTerminated = false := by
  obtain ⟨empty, rfl⟩ := decideWorkflowRunBeginning_ok accepted
  refine ⟨?_, rfl⟩
  exact
    { owned := rfl
      next := by rw [empty]; rfl
      incomplete
      notCold := (consistent.absent_of_records_nil empty).2
      fresh := by simp [empty]
      beganFirst := fun nonempty => absurd empty nonempty }

theorem extends_of_append {key : JournalRecordKey}
    (fresh : ∀ earlier ∈ run.records, earlier.key ≠ key) (event : AppendableWorkflowJournalEvent) :
    run.Extends runId ⟨event.event, key, run.records.length + 1, runId⟩ where
  owned := rfl
  next := rfl
  incomplete := incomplete
  notCold := consistent.notCold_of_incomplete incomplete
  fresh := fresh
  beganFirst _ := event.ordinary.1

theorem extends_of_termination {disposition : RunTerminationDisposition}
    {evidence : RunFinalityEvidence}
    (accepted : decideWorkflowRunTermination kernel run.records runId disposition evidence =
      .ok record) : run.Extends runId record ∧ record.event.isRunTerminated = true := by
  have fresh := decideWorkflowRunTermination_fresh accepted
  obtain ⟨-, -, -, -, rfl⟩ := decideWorkflowRunTermination_ok accepted
  refine ⟨?_, rfl⟩
  exact
    { owned := rfl
      next := rfl
      incomplete
      notCold := consistent.notCold_of_incomplete incomplete
      fresh
      beganFirst := fun _ => rfl }

end

theorem Extends.sequence (extends_ : run.Extends runId record)
    (consistent : run.Consistent kernel runId) : RecordSequence runId (run.records ++ [record]) :=
  consistent.sequence.append extends_.owned extends_.next extends_.fresh extends_.beganFirst
    (consistent.sequence.not_terminated_of_not_ends
      (consistent.open_of_incomplete extends_.incomplete).1)

theorem Change.consistent (change : Change kernel runId run next)
    (consistent : run.Consistent kernel runId) : next.Consistent kernel runId := by
  cases change with
  | unchanged => exact consistent
  | recorded record extends_ ordinary =>
      obtain ⟨-, undeleted⟩ := consistent.open_of_incomplete extends_.incomplete
      exact
        { hotOrCold := .inr extends_.notCold
          nonempty := ⟨by simp, consistent.nonempty.2⟩
          archivedCold := consistent.archivedCold
          deletedCompleted := by simp [undeleted]
          sequence := extends_.sequence consistent
          completed := by simp [extends_.incomplete, undeleted, records, endsTerminated, ordinary]
          compacted := by simp [extends_.incomplete]
          coldValid := consistent.coldValid }
  | terminated record extends_ terminal completion compact =>
      obtain ⟨-, undeleted⟩ := consistent.open_of_incomplete extends_.incomplete
      exact
        { hotOrCold := .inr extends_.notCold
          nonempty := ⟨by simp, consistent.nonempty.2⟩
          archivedCold := consistent.archivedCold
          deletedCompleted := by simp [undeleted]
          sequence := extends_.sequence consistent
          completed := by simp [records, endsTerminated, terminal]
          compacted := by
            rintro _ ⟨⟩ -
            exact compact
          coldValid := consistent.coldValid }
  | retired stored hot valid =>
      have same : records { run with hot := none, cold := some stored, archived := true } =
          run.records := by
        rw [records_of_hot hot]
        rfl
      have nonempty : stored ≠ [] := fun empty => consistent.nonempty.1 (empty ▸ hot)
      exact
        { hotOrCold := .inl rfl
          nonempty := ⟨by simp, by simpa using nonempty⟩
          archivedCold := rfl
          deletedCompleted := fun deleted => by
            obtain ⟨-, absent, -⟩ := consistent.deletedCompleted deleted
            rw [absent] at hot
            cases hot
          sequence := same ▸ consistent.sequence
          completed := by rw [same]; exact consistent.completed
          compacted := by rw [same]; exact consistent.compacted
          coldValid := by
            rintro _ ⟨⟩
            exact decideJournalPartitionHistory_cold valid }
  | deleted deletion cold completed =>
      have hot : run.hot = none := by
        rcases consistent.hotOrCold with absent | absent
        · exact absent
        · simp [absent] at cold
      exact
        { hotOrCold := .inr rfl
          nonempty := ⟨consistent.nonempty.1, by simp⟩
          archivedCold := rfl
          deletedCompleted := fun _ => ⟨completed, hot, rfl⟩
          sequence := by simpa [records, hot] using RecordSequence.nil
          completed := by simp [completed]
          compacted := by simp
          coldValid := by simp }

theorem Change.prefix_or_deleted (change : Change kernel runId run next) :
    run.records <+: next.records ∨ next.deletion.isSome := by
  cases change with
  | unchanged => exact .inl List.prefix_rfl
  | recorded record _ _ => exact .inl (List.prefix_append _ _)
  | terminated record _ _ _ _ => exact .inl (List.prefix_append _ _)
  | retired stored hot _ =>
      left
      rw [records_of_hot hot]
      exact List.prefix_rfl
  | deleted deletion _ _ => exact .inr rfl

theorem Change.deleted_stays (change : Change kernel runId run next)
    (deleted : run.deletion.isSome) : next.deletion.isSome := by
  cases change <;> simp [deleted]

end StoredRun

inductive JournalRequest where
  | beginRun (runId : RunId) (beginning : RunBeginning)
  | append (runId : RunId) (key : JournalRecordKey) (event : AppendableWorkflowJournalEvent)
  | read (runId : RunId)
  | terminateRun (runId : RunId) (disposition : RunTerminationDisposition)
      (evidence : RunFinalityEvidence) (now : RunCompletionTime)
  | retireTerminalRun (runId : RunId)

inductive JournalTerminalHistoryRetirement where
  | retired (runId : RunId)
  | alreadyRetired (runId : RunId)
deriving DecidableEq

inductive JournalAnswer where
  | record (record : JournalRecord)
  | records (records : List JournalRecord)
  | retirement (retirement : JournalTerminalHistoryRetirement)
  | archive (observation : ArchiveRetentionObservation)
  | archiveUnit
deriving DecidableEq

def JournalRequest.runId : JournalRequest → RunId
  | beginRun runId _ | append runId _ _ | read runId | terminateRun runId _ _ _
  | retireTerminalRun runId => runId

/-- The answer to a request about a consistent Run, and the Run after it. -/
def StoredRun.answer (kernel : HistoryKernel) (request : JournalRequest) (run : StoredRun) :
    Except JournalStoreFailure (JournalAnswer × StoredRun) :=
  match request with
  | .beginRun runId beginning =>
      match run.completion with
      | some _ => .error (.workflowRunAlreadyBegan 1 runId)
      | none =>
          match decideWorkflowRunBeginning run.records runId beginning with
          | .error failure => .error failure
          | .ok record => .ok (.record record, { run with hot := some (run.records ++ [record]) })
  | .append runId key event =>
      match run.completion with
      | some completion => .error (.workflowRunAlreadyTerminated runId completion.terminatedAt)
      | none =>
          match run.records.find? (·.key = key) with
          | some existing =>
              if existing.event = event.event then .ok (.record existing, run)
              else .error (.journalStoreContradiction runId key existing.position)
          | none =>
              let record : JournalRecord :=
                { event := event.event, key, position := run.records.length + 1, runId }
              .ok (.record record, { run with hot := some (run.records ++ [record]) })
  | .read _ =>
      match run.completion, run.deletion with
      | some completion, some deletion => .error (.journalHistoryDeleted completion deletion)
      | _, _ => .ok (.records run.records, run)
  | .terminateRun runId disposition evidence now =>
      match run.completion with
      | some completion => .error (.workflowRunAlreadyTerminated runId completion.terminatedAt)
      | none =>
          match decideWorkflowRunTermination kernel run.records runId disposition evidence with
          | .error failure => .error failure
          | .ok record =>
              match decideJournalPartitionHistory kernel .hot runId (run.records ++ [record]),
                  compactRunCompletion runId (run.records ++ [record]) (.known now) with
              | .invalidPartitionHistory detail, _ =>
                  .error (.journalDataCorruption .terminateRun detail)
              | .validPartitionHistory _, none =>
                  .error (.journalDataCorruption .terminateRun "missing terminal metadata")
              | .validPartitionHistory _, some completion =>
                  .ok (.record record,
                    { run with
                      hot := some (run.records ++ [record])
                      completion := some completion })
  | .retireTerminalRun runId =>
      match run.hot, run.cold with
      | _, some _ => .ok (.retirement (.alreadyRetired runId), run)
      | none, none => .error (.workflowRunNotBegan runId)
      | some stored, none =>
          match decideJournalPartitionHistory kernel .hot runId stored with
          | .invalidPartitionHistory detail =>
              .error (.journalHistoryCorruption .retireTerminalRun detail .hot runId)
          | .validPartitionHistory false => .error (.journalHistoryNotTerminal runId)
          | .validPartitionHistory true =>
              .ok (.retirement (.retired runId),
                { run with hot := none, cold := some stored, archived := true })

theorem StoredRun.answer_change {kernel : HistoryKernel} {request : JournalRequest}
    {run next : StoredRun} {answer : JournalAnswer}
    (consistent : run.Consistent kernel request.runId)
    (answered : run.answer kernel request = .ok (answer, next)) :
    Change kernel request.runId run next := by
  cases request with
  | beginRun runId beginning =>
      simp only [StoredRun.answer] at answered
      split at answered
      · cases answered
      next incomplete =>
        split at answered
        · cases answered
        next record decided =>
          cases answered
          obtain ⟨extends_, ordinary⟩ := extends_of_beginning consistent incomplete decided
          exact .recorded record extends_ ordinary
  | append runId key event =>
      simp only [StoredRun.answer] at answered
      split at answered
      · cases answered
      next incomplete =>
        split at answered
        next existing found =>
          split_ifs at answered
          cases answered
          exact .unchanged
        next absent =>
          cases answered
          refine .recorded _ ?_ event.ordinary.2
          exact extends_of_append consistent incomplete (by simpa using absent) event
  | read runId =>
      simp only [StoredRun.answer] at answered
      split at answered
      · cases answered
      · cases answered
        exact .unchanged
  | terminateRun runId disposition evidence now =>
      simp only [StoredRun.answer] at answered
      split at answered
      · cases answered
      next incomplete =>
        split at answered
        · cases answered
        next record decided =>
          split at answered
          · cases answered
          · cases answered
          next completion _ compact =>
            cases answered
            obtain ⟨extends_, terminal⟩ := extends_of_termination consistent incomplete decided
            obtain ⟨_, _, _, _, -, -, -, -, summary⟩ := compactRunCompletion_eq_some compact
            have sameTiming : completion.timing = .known now := by rw [summary]
            exact .terminated record extends_ terminal completion (sameTiming ▸ compact)
  | retireTerminalRun runId =>
      simp only [StoredRun.answer] at answered
      split at answered
      · cases answered
        exact .unchanged
      · cases answered
      next stored hot cold =>
        split at answered
        · cases answered
        · cases answered
        next valid =>
          cases answered
          exact .retired stored hot valid

def replayAnswer (record : JournalRecord) (completion : Option RunCompletion)
    (event : AppendableWorkflowJournalEvent) : Except JournalStoreFailure JournalAnswer :=
  match completion with
  | some completion =>
      .error (.workflowRunAlreadyTerminated record.runId completion.terminatedAt)
  | none =>
      if record.event = event.event then .ok (.record record)
      else .error (.journalStoreContradiction record.runId record.key record.position)

theorem StoredRun.held_of_append {kernel : HistoryKernel} {runId : RunId} {run next : StoredRun}
    (consistent : run.Consistent kernel runId) {key : JournalRecordKey}
    {event : AppendableWorkflowJournalEvent} {answer : JournalAnswer}
    (answered : run.answer kernel (.append runId key event) = .ok (answer, next)) :
    ∃ record ∈ next.records, answer = .record record ∧ record.runId = runId ∧ record.key = key ∧
      record.event = event.event := by
  simp only [StoredRun.answer] at answered
  split at answered
  · cases answered
  · split at answered
    next existing found =>
      split_ifs at answered with same
      cases answered
      have listed := List.mem_of_find?_eq_some found
      exact ⟨existing, listed, rfl, consistent.sequence.owned existing listed,
        by simpa using List.find?_some found, same⟩
    next =>
      cases answered
      refine ⟨_, ?_, rfl, rfl, rfl, rfl⟩
      rw [records_of_hot rfl]
      simp

def journalStep (kernel : HistoryKernel) (request : JournalRequest) (runs : RunId → StoredRun) :
    Except JournalStoreFailure JournalAnswer × (RunId → StoredRun) :=
  match (runs request.runId).answer kernel request with
  | .error failure => (.error failure, runs)
  | .ok (answer, next) => (.ok answer, Function.update runs request.runId next)

def JournalChange (kernel : HistoryKernel) (runs next : RunId → StoredRun) : Prop :=
  ∀ runId, StoredRun.Change kernel runId (runs runId) (next runId)

def JournalConsistent (kernel : HistoryKernel) (runs : RunId → StoredRun) : Prop :=
  ∀ runId, (runs runId).Consistent kernel runId

section Journal

variable {kernel : HistoryKernel} {runs next : RunId → StoredRun} {runId : RunId}

theorem JournalChange.unchanged : JournalChange kernel runs runs :=
  fun _ => .unchanged

theorem JournalChange.update {run : StoredRun}
    (change : StoredRun.Change kernel runId (runs runId) run) :
    JournalChange kernel runs (Function.update runs runId run) :=
  (Function.forall_update_iff runs fun other run =>
    StoredRun.Change kernel other (runs other) run).mpr ⟨change, fun _ _ => .unchanged⟩

theorem JournalChange.consistent (change : JournalChange kernel runs next)
    (consistent : JournalConsistent kernel runs) : JournalConsistent kernel next :=
  fun runId => (change runId).consistent (consistent runId)

def RecordKept (record : JournalRecord) (runs : RunId → StoredRun) : Prop :=
  record ∈ (runs record.runId).records ∨ (runs record.runId).deletion.isSome

theorem JournalChange.recordKept {record : JournalRecord} (change : JournalChange kernel runs next)
    (kept : RecordKept record runs) : RecordKept record next := by
  rcases kept with held | deleted
  · rcases (change record.runId).prefix_or_deleted with extended | deleted
    · exact .inl (extended.subset held)
    · exact .inr deleted
  · exact .inr ((change record.runId).deleted_stays deleted)

def NoneCompleted (runs : RunId → StoredRun) : Prop :=
  ∀ runId, (runs runId).completion = none

theorem journalStep_append_noneCompleted (open_ : NoneCompleted runs) (key : JournalRecordKey)
    (event : AppendableWorkflowJournalEvent) :
    NoneCompleted (journalStep kernel (.append runId key event) runs).2 := by
  intro other
  unfold journalStep StoredRun.answer JournalRequest.runId
  rw [open_ runId]
  dsimp only
  rcases eq_or_ne other runId with rfl | apart
  · split
    · exact open_ other
    next answered =>
      split at answered
      · split_ifs at answered
        cases answered
        simpa using open_ other
      · cases answered
        simp
  · split
    · exact open_ other
    · simpa [apart] using open_ other

theorem journalStep_change (consistent : JournalConsistent kernel runs) (request : JournalRequest) :
    JournalChange kernel runs (journalStep kernel request runs).2 := by
  unfold journalStep
  split
  · exact .unchanged
  next answer run answered =>
    exact .update (StoredRun.answer_change (consistent request.runId) answered)

end Journal

end Dalph
