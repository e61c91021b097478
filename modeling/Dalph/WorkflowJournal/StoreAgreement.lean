import Dalph.WorkflowJournal.MemoryInvariant
import Dalph.WorkflowJournal.SqliteCoherence

/-!
# Agreement of the two journal stores

Both stores refine one journal, so they answer every run of requests alike and show the same Runs
after each of them.  What one acknowledged append guarantees is read off the journal as well.
-/

namespace Dalph

section Agreement

variable {kernel : HistoryKernel} {platform : SqlitePlatform}
  {encode : WorkflowJournalEvent → EncodedJournalEvent}

def memoryRun (kernel : HistoryKernel) (encode : WorkflowJournalEvent → EncodedJournalEvent)
    (requests : List JournalRequest) :
    List (Except JournalStoreFailure JournalAnswer) × MemoryJournalState :=
  Machine.run (memoryStoreStep kernel encode) emptyMemoryJournalState requests

def sqliteRun (kernel : HistoryKernel) (platform : SqlitePlatform)
    (requests : List JournalRequest) :
    List (Except JournalStoreFailure JournalAnswer) × SqliteState :=
  Machine.run (fun request => sqliteStoreStep kernel platform request .completes) emptySqliteState
    requests

/-- The two stores hold the same journal. -/
structure StoresAgree (kernel : HistoryKernel) (platform : SqlitePlatform) (sqlite : SqliteState)
    (memory : MemoryJournalState) : Prop where
  consistent : memory.Consistent kernel
  keeps : sqlite.Keeps kernel platform memory.run

theorem StoresAgree.empty :
    StoresAgree kernel platform emptySqliteState emptyMemoryJournalState :=
  ⟨MemoryJournalState.empty_consistent, emptySqliteState_keeps⟩

theorem StoresAgree.step {sqlite : SqliteState} {memory : MemoryJournalState}
    (agree : StoresAgree kernel platform sqlite memory) {request : JournalRequest}
    (storable : request.Storable platform) :
    AnswersAlike (sqliteStoreStep kernel platform request .completes sqlite).1
        (memoryStoreStep kernel encode request memory).1 ∧
      StoresAgree kernel platform (sqliteStoreStep kernel platform request .completes sqlite).2
        (memoryStoreStep kernel encode request memory).2 := by
  obtain ⟨answer, effect⟩ : Refines kernel request memory _ :=
    memoryStoreStep_refines agree.consistent request
  obtain ⟨after, -, kept, completes⟩ := sqliteStoreStep_keeps agree.keeps .completes storable
  obtain ⟨rfl, alike⟩ := completes rfl
  refine ⟨answer ▸ alike, ?_, effect ▸ kept⟩
  exact (memoryStoreStep_change agree.consistent request).consistent agree.consistent

theorem storesAgree_after {requests : List JournalRequest}
    (storable : ∀ request ∈ requests, request.Storable platform) :
    List.Forall₂ AnswersAlike (sqliteRun kernel platform requests).1
        (memoryRun kernel encode requests).1 ∧
      StoresAgree kernel platform (sqliteRun kernel platform requests).2
        (memoryRun kernel encode requests).2 :=
  Machine.run_simulates (fun _ _ _ stored agree => agree.step stored) .empty storable

/-- Readers of the two stores see the same records and the same completion of a Run. -/
def ReadersAgree (kernel : HistoryKernel) (platform : SqlitePlatform) (sqlite : SqliteState)
    (memory : MemoryJournalState) (runId : RunId) : Prop :=
  AnswersAlike (sqliteRead kernel platform sqlite .completes runId).1
      (memoryRead kernel memory runId) ∧
    (∀ operation, loadRunRecords kernel platform sqlite.database runId operation =
      .ok (memory.recordsOf runId)) ∧
    ∀ operation, readCompletionFor kernel platform sqlite.database runId =
      decideMemoryCompletion kernel memory runId operation

theorem StoresAgree.readersAgree {sqlite : SqliteState} {memory : MemoryJournalState}
    (agree : StoresAgree kernel platform sqlite memory) (runId : RunId) :
    ReadersAgree kernel platform sqlite memory runId := by
  have stored : (JournalRequest.read runId).Storable platform := trivial
  have read : AnswersAlike (sqliteStoreStep kernel platform (.read runId) .completes sqlite).1
      (memoryStoreStep kernel platform.encode (.read runId) memory).1 := (agree.step stored).1
  refine ⟨read, ?_, ?_⟩
  · intro operation
    rw [agree.keeps.represents.loadRunRecords_eq, memory.recordsOf_eq]
  · intro operation
    rw [agree.keeps.represents.readCompletionFor_eq, decideMemoryCompletion_eq agree.consistent]

/-- On every run of storable requests both stores give the same answer, or a failure of the same
class, at each step, and readers see the same Runs after each step. -/
theorem sqliteRun_refines_memoryRun {requests : List JournalRequest}
    (storable : ∀ request ∈ requests, request.Storable platform) :
    List.Forall₂ AnswersAlike (sqliteRun kernel platform requests).1
        (memoryRun kernel encode requests).1 ∧
      ∀ count runId, ReadersAgree kernel platform
        (sqliteRun kernel platform (requests.take count)).2
        (memoryRun kernel encode (requests.take count)).2 runId := by
  refine ⟨(storesAgree_after storable).1, fun count runId => ?_⟩
  have taken : ∀ request ∈ requests.take count, request.Storable platform :=
    fun request listed => storable request (List.mem_of_mem_take listed)
  exact (storesAgree_after taken).2.readersAgree runId

end Agreement

section Permanence

variable {kernel : HistoryKernel} {platform : SqlitePlatform}
  {encode : WorkflowJournalEvent → EncodedJournalEvent}

def StandsAt (record : JournalRecord) (records : List JournalRecord) : Prop :=
  records[record.position - 1]? = some record

variable {record : JournalRecord}

theorem RecordSequence.standsAt {runId : RunId} {records : List JournalRecord}
    (sequence : RecordSequence runId records) (held : record ∈ records) :
    StandsAt record records := by
  obtain ⟨index, bound, rfl⟩ := List.mem_iff_getElem.mp held
  unfold StandsAt
  rw [sequence.position_getElem index bound, Nat.add_sub_cancel, List.getElem?_eq_getElem bound]

variable {runs : RunId → StoredRun}

theorem RecordKept.held_or_completed (consistent : JournalConsistent kernel runs)
    (kept : RecordKept record runs) :
    record ∈ (runs record.runId).records ∨ (runs record.runId).completion.isSome := by
  rcases kept with held | deleted
  · exact .inl held
  · exact .inr ((consistent record.runId).deletedCompleted deleted).1

def JournalRequest.isAppend : JournalRequest → Bool
  | append _ _ _ => true
  | _ => false

def MemoryRequest.isAppend : MemoryRequest → Bool
  | store request => request.isAppend
  | _ => false

theorem JournalRequest.exists_of_isAppend {request : JournalRequest}
    (isAppend : request.isAppend = true) :
    ∃ runId key event, request = .append runId key event := by
  cases request with
  | append runId key event => exact ⟨runId, key, event, rfl⟩
  | _ => cases isAppend

theorem MemoryRequest.exists_of_isAppend {request : MemoryRequest}
    (isAppend : request.isAppend = true) :
    ∃ runId key event, request = .store (.append runId key event) := by
  cases request with
  | store request =>
      obtain ⟨runId, key, event, rfl⟩ := JournalRequest.exists_of_isAppend isAppend
      exact ⟨runId, key, event, rfl⟩
  | _ => cases isAppend

/-- What an acknowledged append guarantees in a later state: every append under its key is answered
from the record and changes nothing, and the record stands until its history is deleted. -/
structure Acknowledged {Content : Type} (runId : RunId) (key : JournalRecordKey)
    (event : AppendableWorkflowJournalEvent) (record : JournalRecord)
    (append : AppendableWorkflowJournalEvent →
      Except JournalStoreFailure JournalAnswer × Content)
    (content : Content) (completion : Option RunCompletion) (records : List JournalRecord)
    (deleted : Bool) : Prop where
  stored : record.runId = runId ∧ record.key = key ∧ record.event = event.event
  replayed : ∀ again, append again = (replayAnswer record completion again, content)
  stands : StandsAt record records ∨ deleted = true

variable {key : JournalRecordKey} {event : AppendableWorkflowJournalEvent}

theorem recordKept_of_journalStep {runId : RunId} (consistent : JournalConsistent kernel runs)
    (acknowledged : (journalStep kernel (.append runId key event) runs).1 = .ok (.record record)) :
    (record.runId = runId ∧ record.key = key ∧ record.event = event.event) ∧
      RecordKept record (journalStep kernel (.append runId key event) runs).2 := by
  unfold journalStep at acknowledged ⊢
  cases answered : (runs runId).answer kernel (.append runId key event) with
  | error failure =>
      simp only [JournalRequest.runId, answered, reduceCtorEq] at acknowledged
  | ok result =>
      obtain ⟨answer, next⟩ := result
      simp only [JournalRequest.runId, answered, Except.ok.injEq] at acknowledged ⊢
      obtain ⟨stored, held, rfl, rfl, rfl, same⟩ :=
        StoredRun.held_of_append (consistent runId) answered
      cases acknowledged
      refine ⟨⟨rfl, rfl, same⟩, .inl ?_⟩
      rwa [Function.update_self]

section

variable {state : MemoryJournalState} (consistent : state.Consistent kernel)
  (kept : RecordKept record state.run)
include consistent kept

theorem memoryAppendTransition_kept (event : AppendableWorkflowJournalEvent) :
    memoryAppendTransition kernel state record.runId record.key event =
      (replayAnswer record (state.completions.lookup record.runId) event, state) := by
  cases completed : state.completions.lookup record.runId with
  | some completion => exact memoryAppendTransition_completed consistent completed record.key event
  | none =>
      rcases kept.held_or_completed consistent with held | isCompleted
      · exact memoryAppendTransition_held consistent completed held event
      · simp [MemoryJournalState.run, completed] at isCompleted

theorem memoryRun_recordKept (requests : List MemoryRequest) :
    (Machine.run (memoryStep kernel encode) state requests).2.Consistent kernel ∧
      RecordKept record (Machine.run (memoryStep kernel encode) state requests).2.run := by
  have preserved (request : MemoryRequest) (before : MemoryJournalState)
      (holds : before.Consistent kernel ∧ RecordKept record before.run) :
      (memoryStep kernel encode request before).2.Consistent kernel ∧
        RecordKept record (memoryStep kernel encode request before).2.run :=
    memoryStep_preserves (fun _ _ change => change.recordKept) request holds.1 holds.2
  have run : (fun after : MemoryJournalState =>
      after.Consistent kernel ∧ RecordKept record after.run)
      (Machine.run (memoryStep kernel encode) state requests).2 :=
    Machine.run_preserves preserved ⟨consistent, kept⟩ requests
  exact run

end

theorem memoryStateAfter_noneCompleted {requests : List MemoryRequest}
    (appends : ∀ request ∈ requests, request.isAppend = true) :
    NoneCompleted (memoryStateAfter kernel encode requests).run := by
  have preserved (request : MemoryRequest) (before : MemoryJournalState)
      (isAppend : request.isAppend = true)
      (holds : before.Consistent kernel ∧ NoneCompleted before.run) :
      (memoryStep kernel encode request before).2.Consistent kernel ∧
        NoneCompleted (memoryStep kernel encode request before).2.run := by
    refine ⟨memoryStep_consistent request before holds.1, ?_⟩
    obtain ⟨runId, key, event, rfl⟩ := MemoryRequest.exists_of_isAppend isAppend
    change NoneCompleted (memoryStoreStep kernel encode (.append runId key event) before).2.run
    rw [(memoryStoreStep_refines holds.1 (.append runId key event)).2]
    exact journalStep_append_noneCompleted holds.2 key event
  have run : (fun after : MemoryJournalState =>
      after.Consistent kernel ∧ NoneCompleted after.run)
      (Machine.run (memoryStep kernel encode) emptyMemoryJournalState requests).2 :=
    Machine.run_preserves_of_mem preserved
      ⟨MemoryJournalState.empty_consistent, fun _ => rfl⟩ appends
  exact run.2

theorem memory_acknowledged (before later : List MemoryRequest) {runId : RunId}
    (answered : (memoryStep kernel encode (.store (.append runId key event))
      (memoryStateAfter kernel encode before)).1 = .ok (.record record)) :
    let state := memoryStateAfter kernel encode (before ++ .store (.append runId key event) :: later)
    Acknowledged runId key event record
      (fun again => memoryStep kernel encode (.store (.append runId key again)) state) state
      (state.completions.lookup runId) (state.recordsOf runId)
      (state.deletions.lookup runId).isSome := by
  intro state
  have initial := memoryStateAfter_consistent kernel encode before
  have refines : Refines kernel (.append runId key event) (memoryStateAfter kernel encode before)
      (memoryStoreStep kernel encode (.append runId key event)
        (memoryStateAfter kernel encode before)) :=
    memoryStoreStep_refines initial (.append runId key event)
  obtain ⟨⟨rfl, rfl, same⟩, kept⟩ := recordKept_of_journalStep initial
    (refines.1.symm.trans answered)
  rw [← refines.2] at kept
  obtain ⟨consistent, kept⟩ := memoryRun_recordKept
    (memoryStep_consistent (.store (.append record.runId record.key event)) _ initial) kept later
  have reached : (Machine.run (memoryStep kernel encode) (memoryStep kernel encode
      (.store (.append record.runId record.key event)) (memoryStateAfter kernel encode before)).2
      later).2 = state := by
    simp [state, memoryStateAfter, Machine.run_append]
  rw [reached] at consistent kept
  refine ⟨⟨rfl, rfl, same⟩, memoryAppendTransition_kept consistent kept, ?_⟩
  rcases kept with held | deleted
  · exact .inl ((consistent record.runId).sequence.standsAt held)
  · exact .inr deleted

theorem ReceiptsRepresent.completion_eq {database : SqliteDatabase}
    (represents : ReceiptsRepresent kernel platform database runs) (runId : RunId) :
    (database.completions.lookup runId).map (·.completion) = (runs runId).completion := by
  have receipt := represents.receipts runId
  cases known : database.completions.lookup runId with
  | none =>
      rw [known] at receipt
      exact (show (runs runId).completion = none from receipt).symm
  | some row =>
      rw [known] at receipt
      exact receipt.1.symm

theorem ReceiptsRepresent.deletion_eq {database : SqliteDatabase}
    (represents : ReceiptsRepresent kernel platform database runs) {runId : RunId}
    (deleted : (runs runId).deletion.isSome) :
    (database.completions.lookup runId).any (·.deletion.isSome) = true := by
  have completed := ((represents.consistent runId).deletedCompleted deleted).1
  have receipt := represents.receipts runId
  cases known : database.completions.lookup runId with
  | none =>
      rw [known] at receipt
      rw [show (runs runId).completion = none from receipt] at completed
      cases completed
  | some row =>
      rw [known] at receipt
      obtain ⟨-, -, deletion, -, -⟩ := receipt
      rw [Option.any_some, deletion]
      exact deleted

theorem SqliteState.Keeps.append_kept {state : SqliteState}
    (keeps : state.Keeps kernel platform runs) (kept : RecordKept record runs)
    (event : AppendableWorkflowJournalEvent) :
    let outcome := sqliteAppend kernel platform state .completes record.runId record.key event
    (outcome.1, outcome.2.database) =
      (replayAnswer record ((state.database.completions.lookup record.runId).map (·.completion))
        event, state.database) := by
  have consistent := keeps.represents.consistent
  rw [keeps.represents.completion_eq]
  unfold sqliteAppend replayAnswer
  cases completed : (runs record.runId).completion with
  | some completion =>
      rw [sqliteAppendBody_completed keeps.represents completed]
      rfl
  | none =>
      rcases kept.held_or_completed consistent with held | isCompleted
      · have found := (consistent record.runId).sequence.find_key_eq held
        rw [sqliteAppendBody_open keeps.represents keeps.coherent completed, found]
        dsimp only
        split_ifs <;> rfl
      · simp [completed] at isCompleted

theorem sqliteRun_recordKept {state : SqliteState}
    (kept : ∃ runs, state.Keeps kernel platform runs ∧ RecordKept record runs)
    {requests : List (SqliteRequest × SqliteCut)}
    (storable : ∀ request ∈ requests, request.1.Storable platform) :
    ∃ runs, (Machine.run (sqliteStep kernel platform) state requests).2.Keeps kernel platform runs ∧
      RecordKept record runs := by
  have preserved (request : SqliteRequest × SqliteCut) (before : SqliteState)
      (stored : request.1.Storable platform)
      (holds : ∃ runs, before.Keeps kernel platform runs ∧ RecordKept record runs) :
      ∃ runs, (sqliteStep kernel platform request before).2.Keeps kernel platform runs ∧
        RecordKept record runs := by
    obtain ⟨runs, keeps, kept⟩ := holds
    obtain ⟨after, change, keepsAfter⟩ := sqliteStep_keeps keeps stored
    exact ⟨after, keepsAfter, change.recordKept kept⟩
  have run : (fun after : SqliteState =>
      ∃ runs, after.Keeps kernel platform runs ∧ RecordKept record runs)
      (Machine.run (sqliteStep kernel platform) state requests).2 :=
    Machine.run_preserves_of_mem preserved kept storable
  exact run

def SqliteRequest.isAppend : SqliteRequest → Bool
  | store request => request.isAppend
  | _ => false

theorem SqliteRequest.exists_of_isAppend {request : SqliteRequest}
    (isAppend : request.isAppend = true) :
    ∃ runId key event, request = .store (.append runId key event) := by
  cases request with
  | store request =>
      obtain ⟨runId, key, event, rfl⟩ := JournalRequest.exists_of_isAppend isAppend
      exact ⟨runId, key, event, rfl⟩
  | _ => cases isAppend

theorem sqliteStateAfter_noneCompleted {requests : List (SqliteRequest × SqliteCut)}
    (storable : ∀ request ∈ requests, request.1.Storable platform)
    (appends : ∀ request ∈ requests, request.1.isAppend = true) (runId : RunId) :
    (sqliteStateAfter kernel platform requests).database.completions.lookup runId = none := by
  have preserved (request : SqliteRequest × SqliteCut) (before : SqliteState)
      (admissible : request.1.Storable platform ∧ request.1.isAppend = true)
      (holds : ∃ runs, before.Keeps kernel platform runs ∧ NoneCompleted runs) :
      ∃ runs, (sqliteStep kernel platform request before).2.Keeps kernel platform runs ∧
        NoneCompleted runs := by
    obtain ⟨runs, keeps, open_⟩ := holds
    obtain ⟨request, cut⟩ := request
    obtain ⟨storable, isAppend⟩ := admissible
    obtain ⟨runId, key, event, rfl⟩ := SqliteRequest.exists_of_isAppend isAppend
    have stored : (JournalRequest.append runId key event).Storable platform := storable
    obtain ⟨after, effect, kept, -⟩ := sqliteStoreStep_keeps keeps cut stored
    refine ⟨after, kept, ?_⟩
    rcases effect with rfl | rfl
    · exact open_
    · exact journalStep_append_noneCompleted open_ key event
  have run : (fun after : SqliteState =>
      ∃ runs, after.Keeps kernel platform runs ∧ NoneCompleted runs)
      (Machine.run (sqliteStep kernel platform) emptySqliteState requests).2 :=
    Machine.run_preserves_of_mem preserved ⟨emptyJournal, emptySqliteState_keeps, fun _ => rfl⟩
      fun request listed => ⟨storable request listed, appends request listed⟩
  obtain ⟨runs, keeps, open_⟩ := run
  exact keeps.represents.no_receipt (open_ runId)

theorem sqlite_acknowledged {before later : List (SqliteRequest × SqliteCut)} {runId : RunId}
    (storable : ∀ request ∈ before ++ (.store (.append runId key event), .completes) :: later,
      request.1.Storable platform)
    (answered : (sqliteStoreStep kernel platform (.append runId key event) .completes
      (sqliteStateAfter kernel platform before)).1 = .ok (.record record)) :
    let state := sqliteStateAfter kernel platform
      (before ++ (.store (.append runId key event), .completes) :: later)
    ∃ records, loadRunRecords kernel platform state.database runId .read = .ok records ∧
      Acknowledged runId key event record
        (fun again =>
          let outcome := sqliteStoreStep kernel platform (.append runId key again) .completes state
          (outcome.1, outcome.2.database))
        state.database ((state.database.completions.lookup runId).map (·.completion)) records
        ((state.database.completions.lookup runId).any (·.deletion.isSome)) := by
  intro state
  rw [List.forall_mem_append, List.forall_mem_cons] at storable
  obtain ⟨storableBefore, storable, storableLater⟩ := storable
  have stored : (JournalRequest.append runId key event).Storable platform := storable
  obtain ⟨initial, keeps⟩ : ∃ runs, (sqliteStateAfter kernel platform before).Keeps kernel platform
      runs := sqliteStateAfter_keeps storableBefore
  obtain ⟨after, -, keepsAfter, completes⟩ := sqliteStoreStep_keeps keeps .completes stored
  obtain ⟨rfl, alike⟩ := completes rfl
  rw [answered] at alike
  have acknowledged : (journalStep kernel (.append runId key event) initial).1 =
      .ok (.record record) := alike.eq_ok
  obtain ⟨⟨rfl, rfl, same⟩, kept⟩ :=
    recordKept_of_journalStep keeps.represents.consistent acknowledged
  obtain ⟨runs, keeps, kept⟩ := sqliteRun_recordKept ⟨_, keepsAfter, kept⟩ storableLater
  have reached : (Machine.run (sqliteStep kernel platform) (sqliteStoreStep kernel platform
      (.append record.runId record.key event) .completes (sqliteStateAfter kernel platform before)).2
      later).2 = state := by
    simp [state, sqliteStateAfter, Machine.run_append, sqliteStep]
  rw [reached] at keeps
  refine ⟨_, keeps.represents.loadRunRecords_eq record.runId .read, ⟨rfl, rfl, same⟩,
    keeps.append_kept kept, ?_⟩
  rcases kept with held | deleted
  · exact .inl ((keeps.represents.consistent record.runId).sequence.standsAt held)
  · exact .inr (keeps.represents.deletion_eq deleted)

/-- In both stores an acknowledged append is replayed, contradicted or refused without any change
in every later state, its record stands until the history of its Run is deleted, and as long as
only appends are made no Run is completed. -/
theorem acknowledged_append_permanent (kernel : HistoryKernel) (platform : SqlitePlatform)
    (encode : WorkflowJournalEvent → EncodedJournalEvent) (runId : RunId) (key : JournalRecordKey)
    (event : AppendableWorkflowJournalEvent) (record : JournalRecord) :
    (∀ before later : List MemoryRequest,
      (memoryStep kernel encode (.store (.append runId key event))
        (memoryStateAfter kernel encode before)).1 = .ok (.record record) →
      let requests := before ++ .store (.append runId key event) :: later
      let state := memoryStateAfter kernel encode requests
      Acknowledged runId key event record
          (fun again => memoryStep kernel encode (.store (.append runId key again)) state) state
          (state.completions.lookup runId) (state.recordsOf runId)
          (state.deletions.lookup runId).isSome ∧
        ((∀ request ∈ requests, request.isAppend = true) →
          state.completions.lookup runId = none)) ∧
    ∀ before later : List (SqliteRequest × SqliteCut),
      let requests := before ++ (.store (.append runId key event), .completes) :: later
      (∀ request ∈ requests, request.1.Storable platform) →
      (sqliteStoreStep kernel platform (.append runId key event) .completes
        (sqliteStateAfter kernel platform before)).1 = .ok (.record record) →
      let state := sqliteStateAfter kernel platform requests
      (∃ records, loadRunRecords kernel platform state.database runId .read = .ok records ∧
        Acknowledged runId key event record
          (fun again =>
            let outcome := sqliteStoreStep kernel platform (.append runId key again) .completes state
            (outcome.1, outcome.2.database))
          state.database ((state.database.completions.lookup runId).map (·.completion)) records
          ((state.database.completions.lookup runId).any (·.deletion.isSome))) ∧
        ((∀ request ∈ requests, request.1.isAppend = true) →
          state.database.completions.lookup runId = none) := by
  refine ⟨?_, ?_⟩
  · intro before later answered requests state
    exact ⟨memory_acknowledged before later answered,
      fun appends => memoryStateAfter_noneCompleted appends runId⟩
  · intro before later requests storable answered state
    exact ⟨sqlite_acknowledged storable answered,
      fun appends => sqliteStateAfter_noneCompleted storable appends runId⟩

end Permanence

namespace CancelledRun

def cancellationRecord : JournalRecord :=
  ⟨.runCancellationApplied, runCancellationAppliedRecordKey, 2, runId⟩

def journalRequests : List JournalRequest :=
  [.beginRun runId beginning, .append runId runCancellationAppliedRecordKey cancellation,
    .append runId runCancellationAppliedRecordKey cancellation, .read runId]

theorem journalRequests_storable : ∀ request ∈ journalRequests, request.Storable platform := by
  simp only [journalRequests, List.forall_mem_cons]
  exact ⟨⟨rfl, beginning_encodes⟩, ⟨rfl, cancellation_encodes⟩, ⟨rfl, cancellation_encodes⟩,
    trivial, by simp⟩

/-- Both stores answer the replayed cancellation with the record stored first, and show both
records. -/
theorem stores_agree :
    (memoryRun kernel platform.encode journalRequests).1 =
        [.ok (.record (makeWorkflowRunBeganRecord runId beginning)),
          .ok (.record cancellationRecord), .ok (.record cancellationRecord),
          .ok (.records [makeWorkflowRunBeganRecord runId beginning, cancellationRecord])] ∧
      List.Forall₂ AnswersAlike (sqliteRun kernel platform journalRequests).1
        (memoryRun kernel platform.encode journalRequests).1 :=
  ⟨rfl, (sqliteRun_refines_memoryRun journalRequests_storable).1⟩

theorem sqlite_acknowledges :
    (sqliteStoreStep kernel platform (.append runId runCancellationAppliedRecordKey cancellation)
      .completes (sqliteStateAfter kernel platform
        [(.store (.beginRun runId beginning), .completes)])).1 =
      .ok (.record cancellationRecord) := by
  have storedBeginning : (JournalRequest.beginRun runId beginning).Storable platform :=
    ⟨rfl, beginning_encodes⟩
  have storedCancellation : (JournalRequest.append runId runCancellationAppliedRecordKey
      cancellation).Storable platform := ⟨rfl, cancellation_encodes⟩
  have begun : StoresAgree kernel platform
      (sqliteStoreStep kernel platform (.beginRun runId beginning) .completes emptySqliteState).2
      (memoryStoreStep kernel platform.encode (.beginRun runId beginning)
        emptyMemoryJournalState).2 :=
    (StoresAgree.empty.step storedBeginning).2
  have cancelled : AnswersAlike _ (memoryStoreStep kernel platform.encode
      (.append runId runCancellationAppliedRecordKey cancellation)
      (memoryStoreStep kernel platform.encode (.beginRun runId beginning)
        emptyMemoryJournalState).2).1 :=
    (begun.step storedCancellation).1
  exact cancelled.symm.eq_ok

/-- The acknowledged cancellation stands in both stores after it was repeated. -/
theorem cancellation_stands :
    StandsAt cancellationRecord ((memoryStateAfter kernel platform.encode
        [.store (.beginRun runId beginning),
          .store (.append runId runCancellationAppliedRecordKey cancellation)]).recordsOf runId) ∧
      ∃ records, loadRunRecords kernel platform (sqliteStateAfter kernel platform
          [(.store (.beginRun runId beginning), .completes),
            (.store (.append runId runCancellationAppliedRecordKey cancellation), .completes),
            (.store (.append runId runCancellationAppliedRecordKey cancellation),
              .failsAfterCommit)]).database runId .read = .ok records := by
  have permanent := acknowledged_append_permanent kernel platform platform.encode runId
    runCancellationAppliedRecordKey cancellation cancellationRecord
  refine ⟨?_, ?_⟩
  · have kept := (permanent.1 [.store (.beginRun runId beginning)] [] rfl).1.stands
    exact kept.resolve_right (by decide)
  · obtain ⟨records, loaded, -⟩ := (permanent.2
      [(.store (.beginRun runId beginning), .completes)]
      [(.store (.append runId runCancellationAppliedRecordKey cancellation), .failsAfterCommit)]
      (by
        simp only [List.cons_append, List.nil_append, List.forall_mem_cons]
        exact ⟨⟨rfl, beginning_encodes⟩, ⟨rfl, cancellation_encodes⟩, ⟨rfl, cancellation_encodes⟩,
          by simp⟩)
      sqlite_acknowledges).1
    exact ⟨records, loaded⟩

end CancelledRun

end Dalph
