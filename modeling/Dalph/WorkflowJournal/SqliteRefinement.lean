import Dalph.WorkflowJournal.SqliteCheckpoint

/-!
# Transactions of the SQLite store

On tables that represent a journal, the transaction of every request answers as the journal does
and leaves tables that represent the journal after it.
-/

namespace Dalph

variable {kernel : HistoryKernel} {platform : SqlitePlatform} {database next : SqliteDatabase}
  {runs : RunId → StoredRun} {runId : RunId} {run : StoredRun}

theorem Represents.terminated (represents : Represents kernel platform database runs)
    {record : JournalRecord} (extends_ : (runs runId).Extends runId record)
    (terminal : record.event.isRunTerminated = true)
    (encodes : platform.Encodes record.event) (reads : platform.Reads runId)
    {timing : RunCompletionTiming} {completion : RunCompletion}
    (valid : ∃ isTerminal, decideJournalPartitionHistory kernel .hot runId
      ((runs runId).records ++ [record]) = .validPartitionHistory isTerminal)
    (compact : compactRunCompletion runId ((runs runId).records ++ [record]) timing =
      some completion) :
    ∃ saved, saveCompletion kernel platform (database.inserted (sqliteRowOf platform record)) runId
        ((runs runId).records ++ [record]) timing = .ok saved ∧
      Represents kernel platform saved
        (Function.update runs runId
          { runs runId with
            hot := some ((runs runId).records ++ [record])
            completion := some completion }) := by
  have owned : (sqliteRowOf platform record).runId = runId := extends_.owned
  have sequence := extends_.sequence (represents.consistent runId)
  obtain ⟨-, undeleted⟩ := (represents.consistent runId).open_of_incomplete extends_.incomplete
  have unsaved : (database.inserted (sqliteRowOf platform record)).completions.lookup runId = none :=
    represents.no_receipt extends_.incomplete
  obtain ⟨isTerminal, valid⟩ := valid
  have verified : verifiedRunCompletion kernel runId ((runs runId).records ++ [record]) timing =
      .ok (some completion) := by
    simp [verifiedRunCompletion, valid, compact]
  obtain ⟨_, _, _, _, -, -, -, -, summary⟩ := compactRunCompletion_eq_some compact
  have sameTiming : completion.timing = timing := by rw [summary]
  -- the rows already represent the extended Run while its receipt is still missing
  have rows := represents.toRowsRepresent.inserted extends_ sequence encodes reads
  have held : (Function.update runs runId
      { runs runId with hot := some ((runs runId).records ++ [record]), completion := none }
        runId).records = (runs runId).records ++ [record] := by
    rw [Function.update_self]
    rfl
  refine ⟨_, (rows none).saveCompletion_eq unsaved held verified, ?_⟩
  have differs := (inserted_differsAt database owned).withReceipt
    (receiptFor platform completion ((runs runId).records ++ [record]))
  have kept := rows (some completion)
  refine represents.update differs ?_ (represents.archived runId)
  refine represents.toReceiptsRepresent.update differs
    ⟨kept.wellFormed, kept.encodes, kept.reads, kept.hot, kept.cold⟩
    (.terminated record extends_ terminal completion (sameTiming ▸ compact)) ?_
  rw [AList.lookup_insert]
  exact ⟨rfl, by rw [summary]; rfl, undeleted.symm, rfl, fun _ => rfl⟩

theorem filter_others_self (rows : List SqliteRow) (runId : RunId) :
    (rows.filter (·.runId ≠ runId)).filter (·.runId = runId) = [] := by
  simp

theorem filter_others_of_ne (rows : List SqliteRow) {runId other : RunId} (apart : other ≠ runId) :
    (rows.filter (·.runId ≠ runId)).filter (·.runId = other) =
      rows.filter (·.runId = other) := by
  rw [List.filter_filter]
  refine List.filter_congr ?_
  intro row _
  by_cases owned : row.runId = other
  · simp [owned, apart]
  · simp [owned]

theorem filter_own_of_ne (rows : List SqliteRow) {runId other : RunId} (apart : other ≠ runId) :
    (rows.filter (·.runId = runId)).filter (·.runId = other) = [] := by
  rw [List.filter_filter, List.filter_eq_nil_iff]
  intro row _ both
  simp only [Bool.and_eq_true, decide_eq_true_eq] at both
  exact apart (both.1.symm.trans both.2)

def SqliteDatabase.moved (database : SqliteDatabase) (runId : RunId) : SqliteDatabase :=
  { database with
    cold := database.cold ++ database.hot.filter (·.runId = runId)
    hot := database.hot.filter (·.runId ≠ runId) }

theorem moved_differsAt (database : SqliteDatabase) (runId : RunId) :
    DiffersAt runId database (database.moved runId) where
  hot other apart := filter_others_of_ne database.hot apart
  cold other apart := by
    rw [SqliteDatabase.moved, List.filter_append, filter_own_of_ne database.hot apart,
      List.append_nil]
  completions _ _ := rfl
  archive _ _ := rfl

theorem Represents.rows_of_hot (represents : Represents kernel platform database runs)
    {stored : List JournalRecord} (hot : (runs runId).hot = some stored) :
    database.hot.filter (·.runId = runId) = stored.map (sqliteRowOf platform) ∧
      database.cold.filter (·.runId = runId) = [] := by
  have notCold : (runs runId).cold = none := by
    simpa [hot] using (represents.consistent runId).hotOrCold
  rw [represents.hot, represents.cold, hot, notCold]
  exact ⟨rfl, rfl⟩

theorem Represents.moved (represents : Represents kernel platform database runs)
    {stored : List JournalRecord} (hot : (runs runId).hot = some stored)
    (valid : decideJournalPartitionHistory kernel .hot runId stored = .validPartitionHistory true) :
    ReceiptsRepresent kernel platform (database.moved runId)
      (Function.update runs runId
        { runs runId with hot := none, cold := some stored, archived := true }) := by
  have change : StoredRun.Change kernel runId (runs runId)
      { runs runId with hot := none, cold := some stored, archived := true } :=
    .retired stored hot valid
  have records : (runs runId).records = stored := StoredRun.records_of_hot hot
  obtain ⟨hotRows, coldRows⟩ := represents.rows_of_hot hot
  refine represents.toReceiptsRepresent.update (moved_differsAt database runId) ?_ change ?_
  · refine represents.toRowsRepresent.update (moved_differsAt database runId)
      (change.consistent (represents.consistent runId)).toWellFormed ?_ ?_ ?_ ?_
    · change ∀ record ∈ stored, platform.Encodes record.event
      rw [← records]
      exact represents.encodes runId
    · change stored ≠ [] → platform.Reads runId
      rw [← records]
      exact represents.reads runId
    · exact filter_others_self database.hot runId
    · rw [SqliteDatabase.moved, List.filter_append, coldRows, List.nil_append, List.filter_filter]
      simpa using hotRows
  · have receipt := represents.receipts runId
    change ReceiptOf platform runId _ (database.completions.lookup runId)
    cases known : database.completions.lookup runId with
    | none =>
        rw [known] at receipt
        exact receipt
    | some row =>
        rw [known] at receipt
        obtain ⟨completed, owned, deletion, checksum, fingerprints⟩ := receipt
        rw [records] at fingerprints
        exact ⟨completed, owned, deletion, checksum, fingerprints⟩

theorem ReceiptsRepresent.refreshed (represents : ReceiptsRepresent kernel platform database runs)
    (cold : (runs runId).cold.isSome)
    (elsewhere : ∀ other, other ≠ runId →
      (database.archive.lookup other).isSome = (runs other).archived) :
    Represents kernel platform (refreshSqliteArchiveAccounting database runId) runs := by
  obtain ⟨stored, held⟩ := Option.isSome_iff_exists.mp cold
  have rows : database.rowsOf .cold runId = stored.map (sqliteRowOf platform) := by
    rw [represents.rowsOf_eq, StoredRun.partitionRecords, held, Option.getD_some]
  unfold refreshSqliteArchiveAccounting
  cases listed : database.rowsOf .cold runId with
  | nil =>
      rw [listed] at rows
      have empty : stored = [] := by simpa using rows.symm
      exact absurd (empty ▸ held) (represents.wellFormed runId).nonempty.2
  | cons first rest =>
      refine ⟨⟨⟨represents.wellFormed, represents.encodes, represents.reads, represents.hot,
        represents.cold⟩, represents.consistent, represents.receipts⟩, ?_⟩
      intro other
      rcases eq_or_ne other runId with rfl | apart
      · rw [AList.lookup_insert, (represents.consistent other).archivedCold, held]
        rfl
      · rw [AList.lookup_insert_ne apart]
        exact elsewhere other apart

/-- Deleting the rows of an archived Run and marking its receipt deletes the represented Run. -/
theorem Represents.deleted (represents : Represents kernel platform database runs)
    (cold : (runs runId).cold.isSome) (completed : (runs runId).completion.isSome) (now : Nat)
    (reason : RunHistoryDeletionReason) :
    ∃ next, deleteArchivedRows platform database runId now (some reason) = .ok next ∧
      Represents kernel platform next
        (Function.update runs runId
          { runs runId with
            cold := none
            archived := false
            deletion := some ⟨reason, now⟩ }) := by
  have change : StoredRun.Change kernel runId (runs runId) _ :=
    .deleted ⟨reason, now⟩ cold completed
  have notHot : (runs runId).hot = none := by
    rcases (represents.consistent runId).hotOrCold with absent | absent
    · exact absent
    · simp [absent] at cold
  have noRecords : StoredRun.records
      { runs runId with cold := none, archived := false, deletion := some ⟨reason, now⟩ } = [] := by
    simp [StoredRun.records, notHot]
  have receipt := represents.receipts runId
  cases known : database.completions.lookup runId with
  | none =>
      rw [known] at receipt
      rw [show (runs runId).completion = none from receipt] at completed
      cases completed
  | some row =>
      rw [known] at receipt
      obtain ⟨completion, owned, -, -, -⟩ := receipt
      let erasure : SqliteDatabase :=
        { database with
          cold := database.cold.filter (·.runId ≠ runId)
          completions := database.completions.insert runId
            { row with
              checksum :=
                platform.receiptDigest row.completion row.integrity (some ⟨reason, now⟩)
              deletion := some ⟨reason, now⟩ }
          archive := database.archive.erase runId }
      have erased : deleteArchivedRows platform database runId now (some reason) = .ok erasure := by
        simp [deleteArchivedRows, markDeleted, known, bind, Except.bind, pure, Except.pure, erasure]
      refine ⟨_, erased, ?_⟩
      have differs : DiffersAt runId database erasure :=
        { hot := fun _ _ => rfl
          cold := fun other apart => filter_others_of_ne database.cold apart
          completions := fun other apart => AList.lookup_insert_ne apart
          archive := fun other apart => AList.lookup_erase_ne apart }
      refine represents.update differs ?_ (by rw [AList.lookup_erase]; rfl)
      refine represents.toReceiptsRepresent.update differs ?_ change ?_
      · refine represents.toRowsRepresent.update differs
          (change.consistent (represents.consistent runId)).toWellFormed ?_ ?_ ?_ ?_
        · rw [noRecords]
          simp
        · rw [noRecords]
          exact fun nonempty => absurd rfl nonempty
        · exact represents.hot runId
        · exact filter_others_self database.cold runId
      · rw [AList.lookup_insert]
        exact ⟨completion, owned, rfl, rfl, by simp⟩

/-- The event that a request would store, if any, reads back, as does the identity of its Run. -/
def JournalRequest.Storable (platform : SqlitePlatform) : JournalRequest → Prop
  | beginRun runId beginning =>
      platform.Reads runId ∧ platform.Encodes (.workflowRunBegan beginning)
  | append runId _ event => platform.Reads runId ∧ platform.Encodes event.event
  | terminateRun runId disposition evidence _ =>
      platform.Reads runId ∧ platform.Encodes (.workflowRunTerminated ⟨disposition, evidence⟩)
  | read _ | retireTerminalRun _ => True

/-- The body of a transaction answers as the journal does and commits the journal after it. -/
def BodyAnswers {Result : Type} (kernel : HistoryKernel) (platform : SqlitePlatform)
    (runs : RunId → StoredRun) (request : JournalRequest) (answerOf : Result → JournalAnswer)
    (body : Except JournalStoreFailure (Result × SqliteDatabase)) : Prop :=
  match (runs request.runId).answer kernel request with
  | .error failure => ∃ cause, body = .error cause ∧ cause.failureClass = failure.failureClass
  | .ok (answer, run) =>
      ∃ result next, body = .ok (result, next) ∧ answerOf result = answer ∧
        Represents kernel platform next (Function.update runs request.runId run)

theorem sqliteBeginRunBody_answers (represents : Represents kernel platform database runs)
    {beginning : RunBeginning}
    (storable : (JournalRequest.beginRun runId beginning).Storable platform) :
    BodyAnswers kernel platform runs (.beginRun runId beginning) .record
      (sqliteBeginRunBody kernel platform database runId beginning) := by
  obtain ⟨reads, encodes⟩ := storable
  unfold BodyAnswers sqliteBeginRunBody StoredRun.answer JournalRequest.runId
  rw [represents.readCompletionFor_eq]
  unfold StoredRun.inspection
  cases completed : (runs runId).completion with
  | some completion =>
      cases (runs runId).deletion <;> exact ⟨_, rfl, rfl⟩
  | none =>
      simp only [bind, Except.bind, represents.loadRunRecords_eq]
      cases decided : decideWorkflowRunBeginning (runs runId).records runId beginning with
      | error failure => exact ⟨_, rfl, rfl⟩
      | ok record =>
          obtain ⟨extends_, ordinary⟩ :=
            StoredRun.extends_of_beginning (represents.consistent runId) completed decided
          have event : record.event = .workflowRunBegan beginning := by
            rw [(decideWorkflowRunBeginning_ok decided).2]
            rfl
          simp only [represents.insertRow_eq extends_]
          refine ⟨record, _, rfl, rfl, ?_⟩
          rw [← completed]
          exact represents.recorded extends_ ordinary (event ▸ encodes) reads

/-- Whatever is cached for a Run is what a fresh load of it yields. -/
structure SqliteState.Coherent (runs : RunId → StoredRun) (state : SqliteState) : Prop where
  checkpoints : ∀ runId checkpoint, state.checkpoints.lookup runId = some checkpoint →
    checkpoint = (snapshotOf runId (runs runId)).checkpoint
  readSnapshots : ∀ runId snapshot, state.readSnapshots.lookup runId = some snapshot →
    snapshot = snapshotOf runId (runs runId)

section Caches

variable {state : SqliteState}

theorem loadCurrentSnapshot_eq (represents : Represents kernel platform state.database runs)
    (coherent : state.Coherent runs) (runId : RunId) (operation : JournalStoreOperation) :
    loadCurrentSnapshot kernel platform state runId operation =
      .ok (snapshotOf runId (runs runId)).checkpoint := by
  unfold loadCurrentSnapshot
  simp only [represents.locateRunPartition_eq, represents.loadRunSnapshotForPartition_eq, bind,
    Except.bind, pure, Except.pure]
  cases cached : state.checkpoints.lookup runId with
  | none => rfl
  | some checkpoint =>
      rw [coherent.checkpoints runId checkpoint cached]
      dsimp only
      split_ifs <;> rfl

theorem decideSqliteAppendCheckpoint_eq {run : StoredRun} (consistent : run.Consistent kernel runId)
    (incomplete : run.completion = none) :
    decideSqliteAppendCheckpoint (snapshotOf runId run).checkpoint runId = .ok () := by
  have notCold := consistent.notCold_of_incomplete incomplete
  have notTerminated : run.records.find? (·.event.isRunTerminated) = none := by
    rw [List.find?_eq_none]
    intro record listed
    simp [consistent.sequence.not_terminated_of_not_ends
      (consistent.open_of_incomplete incomplete).1 record listed]
  simp [decideSqliteAppendCheckpoint, snapshotOf, evidenceOf, StoredRun.partition, notCold,
    notTerminated]

theorem length_of_decodedThrough {run : StoredRun} (sequence : RecordSequence runId run.records) :
    (snapshotOf runId run).checkpoint.decodedThrough.getD 0 = run.records.length := by
  simp only [snapshotOf, evidenceOf]
  cases final : run.records.getLast? with
  | none =>
      rw [List.getLast?_eq_none_iff] at final
      simp [final]
  | some last =>
      rw [List.getLast?_eq_getElem?] at final
      obtain ⟨bound, rfl⟩ := List.getElem?_eq_some_iff.mp final
      rw [Option.map_some, Option.getD_some, sequence.position_getElem _ bound]
      exact Nat.sub_add_cancel (Nat.zero_lt_of_lt bound)

section

variable (represents : Represents kernel platform state.database runs)
include represents

theorem sqliteAppendBody_completed {completion : RunCompletion}
    (completed : (runs runId).completion = some completion) (key : JournalRecordKey)
    (event : AppendableWorkflowJournalEvent) :
    sqliteAppendBody kernel platform state runId key event =
      .error (.workflowRunAlreadyTerminated runId completion.terminatedAt) := by
  unfold sqliteAppendBody
  rw [represents.readCompletionFor_eq, StoredRun.inspection, completed]
  cases (runs runId).deletion <;> rfl

theorem sqliteAppendBody_open (coherent : state.Coherent runs)
    (incomplete : (runs runId).completion = none) (key : JournalRecordKey)
    (event : AppendableWorkflowJournalEvent) :
    sqliteAppendBody kernel platform state runId key event =
      match (runs runId).records.find? (·.key = key) with
      | some existing =>
          if existing.event = event.event then
            .ok (((snapshotOf runId (runs runId)).checkpoint, existing), state.database)
          else .error (.journalStoreContradiction runId key existing.position)
      | none =>
          let record : JournalRecord := ⟨event.event, key, (runs runId).records.length + 1, runId⟩
          (state.database.insertRow .append (sqliteRowOf platform record)).map fun next =>
            ((appendSqliteStorageCheckpoint (snapshotOf runId (runs runId)).checkpoint record,
              record), next) := by
  have consistent := represents.consistent runId
  have byKey : (snapshotOf runId (runs runId)).checkpoint.recordsByKey.lookup key = _ :=
    lookup_recordsByKeyOf consistent.sequence.distinctKeys key
  unfold sqliteAppendBody
  rw [represents.readCompletionFor_eq, StoredRun.inspection, incomplete]
  simp only [bind, Except.bind, loadCurrentSnapshot_eq represents coherent,
    decideSqliteAppendCheckpoint_eq consistent incomplete, decideSqliteAppend]
  rw [byKey, length_of_decodedThrough consistent.sequence]
  cases found : (runs runId).records.find? (·.key = key) with
  | some existing =>
      have owned : existing.runId = runId :=
        consistent.sequence.owned existing (List.mem_of_find?_eq_some found)
      have sameKey : existing.key = key := by simpa using List.find?_some found
      by_cases same : existing.event = event.event
      · simp only [Option.map_some, same, if_true]
        rw [← same, ← sameKey, ← owned]
        rfl
      · simp [same]
  | none =>
      simp only [Option.map_none]
      cases state.database.insertRow .append _ <;> rfl

theorem sqliteAppendBody_answers (coherent : state.Coherent runs) {key : JournalRecordKey}
    {event : AppendableWorkflowJournalEvent}
    (storable : (JournalRequest.append runId key event).Storable platform) :
    match (runs runId).answer kernel (.append runId key event) with
    | .error failure => sqliteAppendBody kernel platform state runId key event = .error failure
    | .ok (answer, run) =>
        ∃ record next, sqliteAppendBody kernel platform state runId key event =
          .ok (((snapshotOf runId run).checkpoint, record), next) ∧
        .record record = answer ∧ Represents kernel platform next (Function.update runs runId run) := by
  obtain ⟨reads, encodes⟩ := storable
  unfold StoredRun.answer
  cases completed : (runs runId).completion with
  | some completion => exact sqliteAppendBody_completed represents completed key event
  | none =>
      rw [sqliteAppendBody_open represents coherent completed]
      dsimp only
      cases found : (runs runId).records.find? (·.key = key) with
      | some existing =>
          by_cases same : existing.event = event.event
          · simp only [same, if_true]
            refine ⟨existing, state.database, rfl, rfl, ?_⟩
            rw [Function.update_eq_self]
            exact represents
          · simp [same]
      | none =>
          have extends_ := StoredRun.extends_of_append (represents.consistent runId) completed
            (by simpa using found) event
          dsimp only
          rw [represents.insertRow_eq extends_]
          let record : JournalRecord := ⟨event.event, key, (runs runId).records.length + 1, runId⟩
          refine ⟨record, state.database.inserted (sqliteRowOf platform record), ?_, rfl, ?_⟩
          · rw [appendSqliteStorageCheckpoint_eq extends_.notCold event.ordinary.2, completed]
            rfl
          · rw [← completed]
            exact represents.recorded extends_ event.ordinary.2 encodes reads

theorem requireAvailable_eq (runId : RunId) :
    requireAvailable kernel platform state.database runId =
      match (runs runId).completion, (runs runId).deletion with
      | some completion, some deletion => .error (.journalHistoryDeleted completion deletion)
      | _, _ => .ok () := by
  have receipt := represents.receipts runId
  unfold requireAvailable
  rw [represents.sqliteReadCompletion_eq]
  cases known : state.database.completions.lookup runId with
  | none =>
      rw [known] at receipt
      have incomplete : (runs runId).completion = none := receipt
      simp [incomplete]
  | some row =>
      rw [known] at receipt
      obtain ⟨completed, -, deletion, -, -⟩ := receipt
      cases deleted : (runs runId).deletion with
      | none => simp [deletion, deleted, completed]
      | some marker =>
          simp [deletion, deleted, completed, StoredRun.inspection, bind, Except.bind]

theorem sqliteReadBody_answers (coherent : state.Coherent runs) (runId : RunId) :
    match (runs runId).answer kernel (.read runId) with
    | .error failure => sqliteReadBody kernel platform state runId = .error failure
    | .ok (answer, run) =>
        sqliteReadBody kernel platform state runId = .ok (snapshotOf runId (runs runId)) ∧
          .records (runs runId).records = answer ∧ run = runs runId := by
  have loads : requireAvailable kernel platform state.database runId = .ok () →
      sqliteReadBody kernel platform state runId = .ok (snapshotOf runId (runs runId)) := by
    intro available
    unfold sqliteReadBody
    simp only [available, represents.locateRunPartition_eq,
      represents.loadRunSnapshotForPartition_eq, bind, Except.bind]
    cases cached : state.readSnapshots.lookup runId with
    | some snapshot =>
        rw [coherent.readSnapshots runId snapshot cached]
        exact if_pos rfl
    | none =>
        cases held : state.checkpoints.lookup runId with
        | none => rfl
        | some checkpoint =>
            rw [coherent.checkpoints runId checkpoint held]
            dsimp only
            rw [snapshotFromSqliteStorageCheckpoint_eq (represents.consistent runId).sequence]
            exact if_pos rfl
  have availability := requireAvailable_eq represents runId
  unfold StoredRun.answer
  cases completed : (runs runId).completion with
  | none =>
      rw [completed] at availability
      exact ⟨loads availability, rfl, rfl⟩
  | some completion =>
      cases deleted : (runs runId).deletion with
      | none =>
          rw [completed, deleted] at availability
          exact ⟨loads availability, rfl, rfl⟩
      | some deletion =>
          rw [completed, deleted] at availability
          simp [sqliteReadBody, availability, bind, Except.bind]

end

end Caches

theorem compactRunCompletion_of_termination (consistent : run.Consistent kernel runId)
    {disposition : RunTerminationDisposition} {evidence : RunFinalityEvidence}
    {record : JournalRecord}
    (decided : decideWorkflowRunTermination kernel run.records runId disposition evidence =
      .ok record) (timing : RunCompletionTiming) :
    ∃ completion, compactRunCompletion runId (run.records ++ [record]) timing = some completion := by
  obtain ⟨⟨began, found⟩, -, -, -, rfl⟩ := decideWorkflowRunTermination_ok decided
  have isBegan : began.event.isRunBegan = true := by simpa using List.find?_some found
  obtain ⟨beginning, event⟩ := JournalRecord.exists_runBegan?_of_isRunBegan isBegan
  have first := consistent.sequence.head_of_isRunBegan (List.mem_of_find?_eq_some found) isBegan
  exact ⟨_, by simp [compactRunCompletion, first, event, JournalRecord.runTerminated?,
    makeWorkflowRunTerminatedRecord]; rfl⟩

section

variable (represents : Represents kernel platform database runs)
include represents

theorem sqliteTerminateRunBody_answers {disposition : RunTerminationDisposition}
    {evidence : RunFinalityEvidence} {now : RunCompletionTime}
    (storable : (JournalRequest.terminateRun runId disposition evidence now).Storable platform) :
    BodyAnswers kernel platform runs (.terminateRun runId disposition evidence now) .record
      (sqliteTerminateRunBody kernel platform database runId disposition evidence now) := by
  obtain ⟨reads, encodes⟩ := storable
  have consistent := represents.consistent runId
  unfold BodyAnswers sqliteTerminateRunBody StoredRun.answer JournalRequest.runId
  rw [represents.readCompletionFor_eq]
  unfold StoredRun.inspection
  cases completed : (runs runId).completion with
  | some completion => cases (runs runId).deletion <;> exact ⟨_, rfl, rfl⟩
  | none =>
      have notCold := consistent.notCold_of_incomplete completed
      simp only [bind, Except.bind, represents.loadRunRecords_eq, represents.hasPartitionRows_eq,
        StoredRun.partitionRecords, notCold, Option.isSome_none]
      cases decided : decideWorkflowRunTermination kernel (runs runId).records runId disposition
          evidence with
      | error failure => exact ⟨_, rfl, rfl⟩
      | ok record =>
          obtain ⟨extends_, terminal⟩ :=
            StoredRun.extends_of_termination consistent completed decided
          obtain ⟨completion, compact⟩ :=
            compactRunCompletion_of_termination consistent decided (.known now)
          have event : record.event = .workflowRunTerminated ⟨disposition, evidence⟩ := by
            rw [(decideWorkflowRunTermination_ok decided).2.2.2.2]
            rfl
          simp only [represents.insertRow_eq extends_, compact]
          cases history : decideJournalPartitionHistory kernel .hot runId
              ((runs runId).records ++ [record]) with
          | invalidPartitionHistory detail =>
              refine ⟨.journalDataCorruption .readCompletion detail, ?_, rfl⟩
              simp [saveCompletion, verifiedRunCompletion, history, bind, Except.bind]
          | validPartitionHistory isTerminal =>
              obtain ⟨saved, save, after⟩ := represents.terminated extends_ terminal
                (event ▸ encodes) reads ⟨isTerminal, history⟩ compact
              refine ⟨record, saved, ?_, rfl, ?_⟩
              · simp [save, pure, Except.pure]
              · simpa only [notCold] using after

theorem retirementCopyPreservesBytes_eq {stored : List JournalRecord}
    (hot : (runs runId).hot = some stored) :
    retirementCopyPreservesBytes
      { database with cold := database.cold ++ database.hot.filter (·.runId = runId) } runId =
        true := by
  obtain ⟨hotRows, coldRows⟩ := represents.rows_of_hot hot
  have copied : (database.cold ++ database.hot.filter (·.runId = runId)).filter (·.runId = runId) =
      stored.map (sqliteRowOf platform) := by
    rw [List.filter_append, coldRows, List.nil_append, List.filter_filter]
    simpa using hotRows
  have nonempty : stored ≠ [] := fun empty => (represents.wellFormed runId).nonempty.1 (empty ▸ hot)
  unfold retirementCopyPreservesBytes
  dsimp only
  rw [copied, hotRows]
  simp only [Bool.and_eq_true, decide_eq_true_eq, List.all_eq_true, ne_eq, List.map_eq_nil_iff]
  exact ⟨⟨⟨trivial, nonempty⟩, fun _ listed => listed⟩, fun _ listed => listed⟩

theorem sqliteRetireBody_answers :
    BodyAnswers kernel platform runs (.retireTerminalRun runId) .retirement
      (sqliteRetireBody kernel platform database runId) := by
  have consistent := represents.consistent runId
  unfold BodyAnswers sqliteRetireBody StoredRun.answer JournalRequest.runId
  simp only [bind, Except.bind, represents.hasPartitionRows_eq, StoredRun.partitionRecords]
  cases cold : (runs runId).cold with
  | some stored =>
      have notHot : (runs runId).hot = none := by simpa [cold] using consistent.hotOrCold
      have valid := consistent.coldValid stored cold
      have retired : retireCold kernel platform database runId =
          .ok (.alreadyRetired runId, database) := by
        simp [retireCold, represents.loadPartitionRecords_eq, StoredRun.partitionRecords, cold,
          valid, bind, Except.bind, pure, Except.pure]
      simp only [notHot, Option.isSome_none, Option.isSome_some, Bool.false_and, Bool.false_eq_true,
        if_false, if_true, retired, represents.readCompletionFor_eq]
      refine ⟨_, _, rfl, rfl, ?_⟩
      rw [Function.update_eq_self]
      exact represents.toReceiptsRepresent.refreshed (by simp [cold])
        fun other _ => represents.archived other
  | none =>
      cases hot : (runs runId).hot with
      | none => exact ⟨_, rfl, rfl⟩
      | some stored =>
          have loaded : loadPartitionRecords platform database .hot runId .retireTerminalRun =
              .ok stored := by
            simp [represents.loadPartitionRecords_eq, StoredRun.partitionRecords, hot]
          simp only [Option.isSome_none, Option.isSome_some, Bool.and_false, Bool.false_eq_true,
            if_false, Bool.not_true, retireHot, loaded, bind, Except.bind]
          cases history : decideJournalPartitionHistory kernel .hot runId stored with
          | invalidPartitionHistory detail => exact ⟨_, rfl, rfl⟩
          | validPartitionHistory isTerminal =>
              cases isTerminal with
              | false => exact ⟨_, rfl, rfl⟩
              | true =>
                  have moved := represents.moved hot history
                  have completion : readCompletionFor kernel platform
                      { database with
                        hot := database.hot.filter (·.runId ≠ runId)
                        cold := database.cold ++ database.hot.filter (·.runId = runId) } runId =
                      .ok _ := moved.readCompletionFor_eq runId
                  simp only [retirementCopyPreservesBytes_eq represents hot, if_true, pure,
                    Except.pure, completion]
                  refine ⟨_, _, rfl, rfl, moved.refreshed (by simp) ?_⟩
                  intro other apart
                  rw [Function.update_of_ne apart]
                  exact represents.archived other

end

end Dalph
