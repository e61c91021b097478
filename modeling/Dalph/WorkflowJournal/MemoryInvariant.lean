import Dalph.WorkflowJournal.MemoryStore
import Dalph.WorkflowJournal.StoredRun

/-!
# Reachable states of the memory journal store

Every request acts on each Run as one of the effects of `StoredRun.Change`, so the invariant of the
store holds along every run of the machine.
-/

namespace Dalph

namespace MemoryJournalState

variable {kernel : HistoryKernel} {state next : MemoryJournalState} {runId : RunId}

def run (state : MemoryJournalState) (runId : RunId) : StoredRun :=
  { hot := state.hotRecordsByRun.lookup runId
    cold := state.coldRecordsByRun.lookup runId
    archived := (state.archiveBytes.lookup runId).isSome
    completion := state.completions.lookup runId
    deletion := state.deletions.lookup runId }

theorem recordsOf_eq (state : MemoryJournalState) (runId : RunId) :
    state.recordsOf runId = (state.run runId).records := rfl

def Consistent (kernel : HistoryKernel) (state : MemoryJournalState) : Prop :=
  JournalConsistent kernel state.run

theorem empty_consistent : emptyMemoryJournalState.Consistent kernel :=
  fun _ => StoredRun.unknown_consistent

theorem Consistent.not_inBothPartitions (consistent : state.Consistent kernel) (runId : RunId) :
    state.inBothPartitions runId = false := by
  rcases (consistent runId).hotOrCold with absent | absent
  · simp_all [inBothPartitions, run]
  · simp_all [inBothPartitions, run]

end MemoryJournalState

theorem endpointCompletion_of_compact {runId : RunId} {records : List JournalRecord}
    {completion : RunCompletion} (sequence : RecordSequence runId records)
    (compact : compactRunCompletion runId records completion.timing = some completion) :
    endpointCompletion runId records completion = some completion := by
  obtain ⟨first, last, began, terminated, head, final, beginning, terminal, summary⟩ :=
    compactRunCompletion_eq_some compact
  have unpublishedFirst := publicationSucceeded?_of_began beginning
  have unpublishedLast := publicationSucceeded?_of_terminated terminal
  generalize completion.timing = timing at summary
  subst summary
  unfold endpointCompletion
  cases recorded : completionPublicationOf records with
  | noRecordedPublication =>
      simp [compactRunCompletion, head, final, beginning, terminal, completionPublicationOf,
        unpublishedFirst, unpublishedLast]
  | recordedPublication publication recordedAt =>
      obtain ⟨record, listed, published, rfl⟩ := completionPublicationOf_recorded recorded
      obtain ⟨index, bound, rfl⟩ := List.mem_iff_getElem.mp listed
      have stored : records[records[index].position - 1]? = some records[index] := by
        rw [sequence.position_getElem index bound, Nat.add_sub_cancel,
          List.getElem?_eq_getElem bound]
      simp [compactRunCompletion, head, final, beginning, terminal, completionPublicationOf,
        unpublishedLast, stored, published]

section Requests

variable {kernel : HistoryKernel} {encode : WorkflowJournalEvent → EncodedJournalEvent}
  {state next : MemoryJournalState} {runId : RunId} {operation : JournalStoreOperation}

theorem decideMemoryCompletion_eq (consistent : state.Consistent kernel) :
    decideMemoryCompletion kernel state runId operation =
      .ok ((state.run runId).inspection runId) := by
  unfold decideMemoryCompletion StoredRun.inspection
  rw [consistent.not_inBothPartitions runId]
  simp only [MemoryJournalState.run]
  cases completed : state.completions.lookup runId with
  | none =>
      obtain ⟨open_, -⟩ := (consistent runId).open_of_incomplete completed
      rw [← state.recordsOf_eq] at open_
      simp [open_]
  | some completion =>
      cases deleted : state.deletions.lookup runId with
      | none =>
          have endpoint := endpointCompletion_of_compact (consistent runId).sequence
            ((consistent runId).compacted completion completed deleted)
          rw [← state.recordsOf_eq] at endpoint
          simp [endpoint]
      | some deletion =>
          obtain ⟨-, hot, cold⟩ :=
            (consistent runId).deletedCompleted (by simp [MemoryJournalState.run, deleted])
          simp only [MemoryJournalState.run] at hot cold
          simp [hot, cold]

theorem MemoryJournalState.run_eq_update {run : StoredRun} (here : next.run runId = run)
    (elsewhere : ∀ other, other ≠ runId → next.run other = state.run other) :
    next.run = Function.update state.run runId run := by
  funext other
  rcases eq_or_ne other runId with rfl | differs
  · rw [Function.update_self, here]
  · rw [Function.update_of_ne differs, elsewhere other differs]

/-- A request answers as the journal of the represented Runs does, with the same effect. -/
def Refines (kernel : HistoryKernel) (request : JournalRequest) (state : MemoryJournalState)
    (outcome : Except JournalStoreFailure JournalAnswer × MemoryJournalState) : Prop :=
  outcome.1 = (journalStep kernel request state.run).1 ∧
    outcome.2.run = (journalStep kernel request state.run).2

section

variable (consistent : state.Consistent kernel)
include consistent

theorem memoryBeginRun_refines (beginning : RunBeginning) :
    Refines kernel (.beginRun runId beginning) state
      (memoryBeginRun kernel state runId beginning) := by
  unfold memoryBeginRun Refines journalStep StoredRun.answer
  rw [decideMemoryCompletion_eq consistent, consistent.not_inBothPartitions]
  unfold StoredRun.inspection JournalRequest.runId
  cases completed : (state.run runId).completion with
  | some completion => cases (state.run runId).deletion <;> exact ⟨rfl, rfl⟩
  | none =>
      dsimp only
      rw [← state.recordsOf_eq]
      cases decided : decideWorkflowRunBeginning (state.recordsOf runId) runId beginning with
      | error failure => exact ⟨rfl, rfl⟩
      | ok record =>
          refine ⟨rfl, MemoryJournalState.run_eq_update ?_ ?_⟩
          · rw [(decideWorkflowRunBeginning_ok decided).1, ← completed]
            simp [MemoryJournalState.run]
          · intro other differs
            simp [MemoryJournalState.run, AList.lookup_insert_ne differs]

theorem existingMemoryAppendTransition_eq (incomplete : (state.run runId).completion = none)
    (key : JournalRecordKey) (event : AppendableWorkflowJournalEvent) :
    existingMemoryAppendTransition state runId key event (state.recordsOf runId) =
      ((state.recordsOf runId).find? (·.key = key)).map fun existing =>
        if existing.event = event.event then .ok (.record existing)
        else .error (.journalStoreContradiction runId key existing.position) := by
  have notTerminated : (state.recordsOf runId).find? (·.event.isRunTerminated) = none := by
    rw [List.find?_eq_none]
    intro record listed
    simp [(consistent runId).sequence.not_terminated_of_not_ends
      ((consistent runId).open_of_incomplete incomplete).1 record listed]
  have notCold : state.coldRecordsByRun.lookup runId = none :=
    (consistent runId).notCold_of_incomplete incomplete
  unfold existingMemoryAppendTransition
  rw [notTerminated, notCold]
  cases (state.recordsOf runId).find? (·.key = key) with
  | none => rfl
  | some existing =>
      simp only [Option.isSome_none, Bool.false_eq_true, if_false, Option.map_some]
      split_ifs <;> rfl

theorem memoryAppendTransition_refines (key : JournalRecordKey)
    (event : AppendableWorkflowJournalEvent) :
    Refines kernel (.append runId key event) state
      (memoryAppendTransition kernel state runId key event) := by
  unfold memoryAppendTransition Refines journalStep StoredRun.answer
  rw [decideMemoryCompletion_eq consistent, consistent.not_inBothPartitions]
  unfold StoredRun.inspection JournalRequest.runId
  cases completed : (state.run runId).completion with
  | some completion => cases (state.run runId).deletion <;> exact ⟨rfl, rfl⟩
  | none =>
      dsimp only
      rw [existingMemoryAppendTransition_eq consistent completed, ← state.recordsOf_eq]
      cases (state.recordsOf runId).find? (·.key = key) with
      | some existing =>
          by_cases same : existing.event = event.event
          · simp [same]
          · simp [same]
      | none =>
          refine ⟨rfl, MemoryJournalState.run_eq_update ?_ ?_⟩
          · rw [← completed]
            simp [MemoryJournalState.run]
          · intro other differs
            simp [MemoryJournalState.run, AList.lookup_insert_ne differs]

theorem memoryRead_refines :
    Refines kernel (.read runId) state (memoryRead kernel state runId, state) := by
  have once := (consistent runId).hotOrCold
  have available : state.deletions.lookup runId = none →
      memoryRead kernel state runId = .ok (.records (state.recordsOf runId)) := by
    intro undeleted
    unfold memoryRead
    rw [undeleted, consistent.not_inBothPartitions]
    cases cold : state.coldRecordsByRun.lookup runId with
    | none => simp [MemoryJournalState.recordsOf, cold]
    | some stored =>
        have valid := (consistent runId).coldValid stored cold
        have records : state.recordsOf runId = stored := (consistent runId).records_of_cold cold
        simp [valid, records]
  unfold Refines journalStep StoredRun.answer JournalRequest.runId
  cases deleted : (state.run runId).deletion with
  | none =>
      rw [available deleted]
      cases (state.run runId).completion <;>
        exact ⟨rfl, (Function.update_eq_self runId state.run).symm⟩
  | some deletion =>
      obtain ⟨completed, -, -⟩ := (consistent runId).deletedCompleted (by simp [deleted])
      obtain ⟨completion, known⟩ := Option.isSome_iff_exists.mp completed
      have marked : state.deletions.lookup runId = some deletion := deleted
      refine ⟨?_, ?_⟩
      · unfold memoryRead
        rw [decideMemoryCompletion_eq consistent]
        simp [marked, StoredRun.inspection, known, deleted]
      · simp [known]

theorem memoryTerminationTransition_refines (disposition : RunTerminationDisposition)
    (evidence : RunFinalityEvidence) (now : RunCompletionTime) :
    Refines kernel (.terminateRun runId disposition evidence now) state
      (memoryTerminationTransition kernel state runId disposition evidence (.known now)) := by
  unfold memoryTerminationTransition Refines journalStep StoredRun.answer
  rw [decideMemoryCompletion_eq consistent, consistent.not_inBothPartitions]
  unfold StoredRun.inspection JournalRequest.runId
  cases completed : (state.run runId).completion with
  | some completion => cases (state.run runId).deletion <;> exact ⟨rfl, rfl⟩
  | none =>
      have notCold : state.coldRecordsByRun.lookup runId = none :=
        (consistent runId).notCold_of_incomplete completed
      dsimp only
      rw [← state.recordsOf_eq, notCold]
      cases decideWorkflowRunTermination kernel (state.recordsOf runId) runId disposition
          evidence with
      | error failure => exact ⟨rfl, rfl⟩
      | ok record =>
          dsimp only [Option.isSome_none]
          cases decideJournalPartitionHistory kernel .hot runId
              (state.recordsOf runId ++ [record]) with
          | invalidPartitionHistory detail => exact ⟨rfl, rfl⟩
          | validPartitionHistory isTerminal =>
              cases compactRunCompletion runId (state.recordsOf runId ++ [record])
                  (.known now) with
              | none => exact ⟨rfl, rfl⟩
              | some completion =>
                  refine ⟨rfl, MemoryJournalState.run_eq_update ?_ ?_⟩
                  · simp [MemoryJournalState.run]
                  · intro other differs
                    simp [MemoryJournalState.run, AList.lookup_insert_ne differs]

theorem memoryRetireTerminalRun_refines :
    Refines kernel (.retireTerminalRun runId) state
      (memoryRetireTerminalRun kernel encode state runId) := by
  unfold memoryRetireTerminalRun memoryRetirementTransition Refines journalStep StoredRun.answer
    JournalRequest.runId
  rw [decideMemoryCompletion_eq consistent]
  cases cold : (state.run runId).cold with
  | some stored =>
      have valid := (consistent runId).coldValid stored cold
      have notHot : (state.run runId).hot = none := by
        simpa [cold] using (consistent runId).hotOrCold
      have coldLookup : state.coldRecordsByRun.lookup runId = some stored := cold
      have hotLookup : state.hotRecordsByRun.lookup runId = none := notHot
      simp [hotLookup, coldLookup, valid]
  | none =>
      have coldLookup : state.coldRecordsByRun.lookup runId = none := cold
      cases hot : (state.run runId).hot with
      | none =>
          have hotLookup : state.hotRecordsByRun.lookup runId = none := hot
          simp [hotLookup, coldLookup]
      | some stored =>
          have hotLookup : state.hotRecordsByRun.lookup runId = some stored := hot
          simp only [hotLookup, coldLookup]
          cases decideJournalPartitionHistory kernel .hot runId stored with
          | invalidPartitionHistory detail => exact ⟨rfl, rfl⟩
          | validPartitionHistory isTerminal =>
              cases isTerminal with
              | false => exact ⟨rfl, rfl⟩
              | true =>
                  refine ⟨rfl, MemoryJournalState.run_eq_update ?_ ?_⟩
                  · simp [MemoryJournalState.run]
                  · intro other differs
                    simp [MemoryJournalState.run, AList.lookup_insert_ne differs,
                      AList.lookup_erase_ne differs]

theorem memoryStoreStep_refines (request : JournalRequest) :
    Refines kernel request state (memoryStoreStep kernel encode request state) := by
  cases request with
  | beginRun runId beginning => exact memoryBeginRun_refines consistent beginning
  | append runId key event => exact memoryAppendTransition_refines consistent key event
  | read runId => exact memoryRead_refines consistent
  | terminateRun runId disposition evidence now =>
      exact memoryTerminationTransition_refines consistent disposition evidence now
  | retireTerminalRun runId => exact memoryRetireTerminalRun_refines consistent

theorem memoryStoreStep_change (request : JournalRequest) :
    JournalChange kernel state.run (memoryStoreStep kernel encode request state).2.run := by
  rw [(memoryStoreStep_refines consistent request).2]
  exact journalStep_change consistent request

end

theorem run_deleteArchived (state : MemoryJournalState) (runId : RunId) (now : Nat)
    (reason : RunHistoryDeletionReason) :
    (state.deleteArchived runId now (some reason)).run =
      Function.update state.run runId
        { state.run runId with
          cold := none
          archived := false
          deletion := some ⟨reason, now⟩ } := by
  refine MemoryJournalState.run_eq_update ?_ ?_
  · simp [MemoryJournalState.run, MemoryJournalState.deleteArchived]
  · intro other differs
    simp [MemoryJournalState.run, MemoryJournalState.deleteArchived,
      AList.lookup_insert_ne differs, AList.lookup_erase_ne differs]

theorem deleteArchived_change (now : Nat) (reason : Option RunHistoryDeletionReason)
    (cold : (state.run runId).cold.isSome) (completed : (state.run runId).completion.isSome) :
    JournalChange kernel state.run (state.deleteArchived runId now reason).run := by
  cases reason with
  | none => exact .unchanged
  | some reason =>
      rw [run_deleteArchived]
      exact .update (.deleted ⟨reason, now⟩ cold completed)

theorem memoryRemoveArchived_change (consistent : state.Consistent kernel)
    (candidate : ArchiveRetentionCandidate) (now : Nat) :
    JournalChange kernel state.run (memoryRemoveArchived kernel candidate now state).2.run := by
  unfold memoryRemoveArchived
  rw [decideMemoryCompletion_eq consistent]
  cases known : (state.run candidate.runId).inspection candidate.runId with
  | noCompletion named => exact .unchanged
  | completedRun completion history =>
      cases history with
      | deleted deletion => exact .unchanged
      | available =>
          have completed := StoredRun.completion_of_inspection_completedRun known
          dsimp only
          split
          · exact .unchanged
          next records cold =>
            split
            · exact .unchanged
            · exact deleteArchived_change now _ (Option.isSome_of_eq_some cold)
                (Option.isSome_of_eq_some completed)

theorem memoryStep_preserves {Holds : (RunId → StoredRun) → Prop}
    (preserved : ∀ runs next, JournalChange kernel runs next → Holds runs → Holds next)
    (request : MemoryRequest) {state : MemoryJournalState} (consistent : state.Consistent kernel)
    (holds : Holds state.run) :
    (memoryStep kernel encode request state).2.Consistent kernel ∧
      Holds (memoryStep kernel encode request state).2.run := by
  cases request with
  | store request =>
      have change : JournalChange kernel state.run
          (memoryStoreStep kernel encode request state).2.run :=
        memoryStoreStep_change consistent request
      exact ⟨change.consistent consistent, preserved _ _ change holds⟩
  | maintainArchive now clock =>
      have removal (candidate : ArchiveRetentionCandidate) (before : MemoryJournalState)
          (kept : before.Consistent kernel ∧ Holds before.run) :
          (memoryRemoveArchived kernel candidate now before).2.Consistent kernel ∧
            Holds (memoryRemoveArchived kernel candidate now before).2.run := by
        have change := memoryRemoveArchived_change kept.1 candidate now
        exact ⟨change.consistent kept.1, preserved _ _ change kept.2⟩
      have pass : (fun after : MemoryJournalState => after.Consistent kernel ∧ Holds after.run)
          (archiveRetentionPass memoryArchiveSnapshot (memoryRemoveArchived kernel) now clock
            state).2 :=
        archiveRetentionPass_preserves removal ⟨consistent, holds⟩
      exact pass
  | removeArchived candidate now =>
      have change := memoryRemoveArchived_change consistent candidate now
      exact ⟨change.consistent consistent, preserved _ _ change holds⟩

theorem memoryStep_consistent (request : MemoryRequest) (state : MemoryJournalState)
    (consistent : state.Consistent kernel) :
    (memoryStep kernel encode request state).2.Consistent kernel :=
  have keepsAll : ∀ runs next, JournalChange kernel runs next → True → True := fun _ _ _ => id
  (memoryStep_preserves keepsAll request consistent trivial).1

theorem memoryAppendTransition_completed (consistent : state.Consistent kernel)
    {completion : RunCompletion} (completed : state.completions.lookup runId = some completion)
    (key : JournalRecordKey) (event : AppendableWorkflowJournalEvent) :
    memoryAppendTransition kernel state runId key event =
      (.error (.workflowRunAlreadyTerminated runId completion.terminatedAt), state) := by
  have known : (state.run runId).completion = some completion := completed
  unfold memoryAppendTransition
  rw [decideMemoryCompletion_eq consistent, StoredRun.inspection, known]
  cases (state.run runId).deletion <;> rfl

theorem memoryAppendTransition_held (consistent : state.Consistent kernel) {record : JournalRecord}
    (incomplete : state.completions.lookup record.runId = none)
    (held : record ∈ (state.run record.runId).records) (event : AppendableWorkflowJournalEvent) :
    memoryAppendTransition kernel state record.runId record.key event =
      (replayAnswer record none event, state) := by
  have found := (consistent record.runId).sequence.find_key_eq held
  rw [← state.recordsOf_eq] at found
  have open_ : (state.run record.runId).completion = none := incomplete
  unfold memoryAppendTransition replayAnswer
  rw [decideMemoryCompletion_eq consistent, consistent.not_inBothPartitions, StoredRun.inspection,
    open_]
  dsimp only
  rw [existingMemoryAppendTransition_eq consistent open_, found]
  rfl

def KeepsOnFailure {Result : Type} (state : MemoryJournalState)
    (outcome : Except JournalStoreFailure Result × MemoryJournalState) : Prop :=
  ∀ failure, outcome.1 = .error failure → outcome.2 = state

theorem keepsOnFailure_error {Result : Type} (failure : JournalStoreFailure) :
    KeepsOnFailure state ((.error failure, state) : Except JournalStoreFailure Result × _) :=
  fun _ _ => rfl

theorem keepsOnFailure_ok {Result : Type} (result : Result) :
    KeepsOnFailure state (.ok result, next) := by
  intro failure failed
  cases failed

theorem memoryBeginRun_keepsOnFailure (beginning : RunBeginning) :
    KeepsOnFailure state (memoryBeginRun kernel state runId beginning) := by
  unfold memoryBeginRun
  split
  · exact keepsOnFailure_error _
  · exact keepsOnFailure_error _
  · split_ifs
    · exact keepsOnFailure_error _
    · split
      · exact keepsOnFailure_error _
      · exact keepsOnFailure_ok _

theorem memoryAppendTransition_keepsOnFailure (key : JournalRecordKey)
    (event : AppendableWorkflowJournalEvent) :
    KeepsOnFailure state (memoryAppendTransition kernel state runId key event) := by
  unfold memoryAppendTransition
  split
  · exact keepsOnFailure_error _
  · exact keepsOnFailure_error _
  · split_ifs
    · exact keepsOnFailure_error _
    · dsimp only
      split
      · exact fun _ _ => rfl
      · exact keepsOnFailure_ok _

theorem memoryTerminationTransition_keepsOnFailure (disposition : RunTerminationDisposition)
    (evidence : RunFinalityEvidence) (timing : RunCompletionTiming) :
    KeepsOnFailure state
      (memoryTerminationTransition kernel state runId disposition evidence timing) := by
  unfold memoryTerminationTransition
  split
  · exact keepsOnFailure_error _
  · exact keepsOnFailure_error _
  · split
    · exact keepsOnFailure_error _
    · dsimp only
      split
      · exact keepsOnFailure_error _
      · split
        · exact keepsOnFailure_error _
        · split
          · exact keepsOnFailure_error _
          · split
            · exact keepsOnFailure_error _
            · exact keepsOnFailure_ok _

theorem memoryRetireTerminalRun_keepsOnFailure :
    KeepsOnFailure state (memoryRetireTerminalRun kernel encode state runId) := by
  unfold memoryRetireTerminalRun memoryRetirementTransition
  split
  · exact keepsOnFailure_error _
  · split
    · exact keepsOnFailure_error _
    · split
      · exact keepsOnFailure_error _
      · exact keepsOnFailure_ok _
    · exact keepsOnFailure_error _
    · split
      · exact keepsOnFailure_error _
      · exact keepsOnFailure_error _
      · exact keepsOnFailure_ok _

theorem memoryRemoveArchived_keepsOnFailure (candidate : ArchiveRetentionCandidate) (now : Nat) :
    KeepsOnFailure state (memoryRemoveArchived kernel candidate now state) := by
  unfold memoryRemoveArchived
  split
  · exact keepsOnFailure_error _
  · exact keepsOnFailure_ok _
  · exact keepsOnFailure_ok _
  · split
    · exact keepsOnFailure_ok _
    · split
      · exact keepsOnFailure_error _
      · exact keepsOnFailure_ok _

theorem memoryStep_keepsOnFailure (request : MemoryRequest) (state : MemoryJournalState) :
    KeepsOnFailure state (memoryStep kernel encode request state) := by
  cases request with
  | store request =>
      cases request with
      | beginRun runId beginning => exact memoryBeginRun_keepsOnFailure beginning
      | append runId key event => exact memoryAppendTransition_keepsOnFailure key event
      | read runId => exact fun _ _ => rfl
      | terminateRun runId disposition evidence now =>
          exact memoryTerminationTransition_keepsOnFailure disposition evidence _
      | retireTerminalRun runId => exact memoryRetireTerminalRun_keepsOnFailure
  | maintainArchive now clock => exact keepsOnFailure_ok _
  | removeArchived candidate now =>
      intro failure failed
      cases removed : (memoryRemoveArchived kernel candidate now state).1 with
      | error cause => exact memoryRemoveArchived_keepsOnFailure candidate now cause removed
      | ok result => simp [memoryStep, removed, Except.map] at failed

end Requests

section Reachable

variable (kernel : HistoryKernel) (encode : WorkflowJournalEvent → EncodedJournalEvent)

def memoryStateAfter (requests : List MemoryRequest) : MemoryJournalState :=
  (Machine.run (memoryStep kernel encode) emptyMemoryJournalState requests).2

theorem memoryStateAfter_consistent (requests : List MemoryRequest) :
    (memoryStateAfter kernel encode requests).Consistent kernel :=
  Machine.run_preserves memoryStep_consistent MemoryJournalState.empty_consistent requests

/-- The five maps of every reachable state agree, and no failed request changes them. -/
theorem memoryStateAfter_invariant (requests : List MemoryRequest) :
    let state := memoryStateAfter kernel encode requests
    (∀ runId, state.hotRecordsByRun.lookup runId = none ∨
      state.coldRecordsByRun.lookup runId = none) ∧
    (∀ runId, (state.archiveBytes.lookup runId).isSome ↔
      (state.coldRecordsByRun.lookup runId).isSome) ∧
    (∀ runId, (state.deletions.lookup runId).isSome →
      (state.completions.lookup runId).isSome ∧ state.hotRecordsByRun.lookup runId = none ∧
        state.coldRecordsByRun.lookup runId = none) ∧
    (∀ runId records, (state.hotRecordsByRun.lookup runId = some records ∨
        state.coldRecordsByRun.lookup runId = some records) →
      records ≠ [] ∧ RecordSequence runId records ∧
        (endsTerminated records = true → records.head?.any (·.event.isRunBegan))) ∧
    (∀ runId, (state.completions.lookup runId).isSome ↔
      endsTerminated (state.recordsOf runId) = true ∨ (state.deletions.lookup runId).isSome) ∧
    ∀ request failure, (memoryStep kernel encode request state).1 = .error failure →
      (memoryStep kernel encode request state).2 = state := by
  intro state
  have consistent : state.Consistent kernel := memoryStateAfter_consistent kernel encode requests
  refine ⟨fun runId => (consistent runId).hotOrCold, ?_,
    fun runId => (consistent runId).deletedCompleted, ?_, fun runId => (consistent runId).completed,
    fun request => memoryStep_keepsOnFailure request state⟩
  · intro runId
    have archived : (state.archiveBytes.lookup runId).isSome =
        (state.coldRecordsByRun.lookup runId).isSome := (consistent runId).archivedCold
    rw [archived]
  · intro runId records held
    have kept := consistent runId
    have same : (state.run runId).records = records := by
      rcases held with hot | cold
      · exact StoredRun.records_of_hot hot
      · exact kept.records_of_cold cold
    subst same
    refine ⟨?_, kept.sequence, kept.began_of_terminated⟩
    intro empty
    rw [empty] at held
    exact held.elim kept.nonempty.1 kept.nonempty.2

def unbegunRun : RunId := { value := "run" }

/-- An append to a Run that never began is stored, so the records of a Run may begin otherwise. -/
theorem records_without_beginning :
    ¬ ∃ (kernel : HistoryKernel) (encode : WorkflowJournalEvent → EncodedJournalEvent),
      ∀ requests runId records,
        (memoryStateAfter kernel encode requests).hotRecordsByRun.lookup runId = some records →
          records.head?.any (·.event.isRunBegan) = true := by
  rintro ⟨kernel, encode, begins⟩
  have begun := begins
    [.store (.append unbegunRun runCancellationAppliedRecordKey runCancellationFact)] unbegunRun
    [⟨.runCancellationApplied, runCancellationAppliedRecordKey, 1, unbegunRun⟩] rfl
  cases begun

end Reachable

end Dalph
