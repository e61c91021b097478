import Dalph.WorkflowJournal.SqliteStore
import Dalph.WorkflowJournal.StoredRun

/-!
# What the SQLite tables represent

The committed tables represent one `StoredRun` for every Run.  Every query is computed from the
Run it loads, so that an operation of the store is an effect on the represented Runs.
-/

namespace Dalph

/-- The codec reads the event back, and stores only terminations under the terminal kind. -/
structure SqlitePlatform.Encodes (platform : SqlitePlatform) (event : WorkflowJournalEvent) :
    Prop where
  decodes : platform.decode (platform.encode event) = .ok event
  terminated : (platform.encode event).kind = workflowRunTerminatedKind →
    event.isRunTerminated = true

def SqlitePlatform.Reads (platform : SqlitePlatform) (runId : RunId) : Prop :=
  platform.readText runId.value = runId.value

def ReceiptOf (platform : SqlitePlatform) (runId : RunId) (run : StoredRun) :
    Option SqliteReceipt → Prop
  | none => run.completion = none
  | some receipt =>
      run.completion = some receipt.completion ∧ receipt.completion.runId = runId ∧
        receipt.deletion = run.deletion ∧
        receipt.checksum =
          platform.receiptDigest receipt.completion receipt.integrity receipt.deletion ∧
        (run.deletion = none →
          receipt.integrity = integrityRows platform (run.records.map (sqliteRowOf platform)))

/-- The two record tables hold exactly the records of these Runs. -/
structure RowsRepresent (kernel : HistoryKernel) (platform : SqlitePlatform)
    (database : SqliteDatabase) (runs : RunId → StoredRun) : Prop where
  wellFormed : ∀ runId, (runs runId).WellFormed kernel runId
  encodes : ∀ runId, ∀ record ∈ (runs runId).records, platform.Encodes record.event
  reads : ∀ runId, (runs runId).records ≠ [] → platform.Reads runId
  hot : ∀ runId, database.hot.filter (·.runId = runId) =
    ((runs runId).hot.getD []).map (sqliteRowOf platform)
  cold : ∀ runId, database.cold.filter (·.runId = runId) =
    ((runs runId).cold.getD []).map (sqliteRowOf platform)

/-- The receipts are those of these Runs as well. -/
structure ReceiptsRepresent (kernel : HistoryKernel) (platform : SqlitePlatform)
    (database : SqliteDatabase) (runs : RunId → StoredRun) : Prop
    extends RowsRepresent kernel platform database runs where
  consistent : JournalConsistent kernel runs
  receipts : ∀ runId, ReceiptOf platform runId (runs runId) (database.completions.lookup runId)

/-- The tables hold exactly these Runs. -/
structure Represents (kernel : HistoryKernel) (platform : SqlitePlatform)
    (database : SqliteDatabase) (runs : RunId → StoredRun) : Prop
    extends ReceiptsRepresent kernel platform database runs where
  archived : ∀ runId, (database.archive.lookup runId).isSome = (runs runId).archived

def StoredRun.partitionRecords (run : StoredRun) : JournalPartition → Option (List JournalRecord)
  | .hot => run.hot
  | .cold => run.cold

def StoredRun.partition (run : StoredRun) : JournalPartition :=
  if run.cold.isSome then .cold else .hot

variable {runId : RunId} {records : List JournalRecord}

theorem RecordSequence.sorted (sequence : RecordSequence runId records) :
    records.Pairwise fun left right => left.position < right.position := by
  rw [← List.pairwise_map, sequence.positions]
  exact List.pairwise_lt_range'

def evidenceOf (records : List JournalRecord) : SqliteDecodedHistoryEvidence :=
  { decodedThrough := records.getLast?.map (·.position)
    records
    recordsByKey := recordsByKeyOf records
    terminalPosition := (records.find? (·.event.isRunTerminated)).map (·.position) }

/-- The snapshot that a fresh load of a Run yields. -/
def snapshotOf (runId : RunId) (run : StoredRun) : SqlitePartitionSnapshot :=
  { checkpoint :=
      { decodedThrough := (evidenceOf run.records).decodedThrough
        journalPartition := run.partition
        recordsByKey := (evidenceOf run.records).recordsByKey
        runId
        terminalPosition := (evidenceOf run.records).terminalPosition }
    records := run.records }

theorem decodedHistoryIssue_eq_none {index : Nat} {observed : List JournalRecordKey}
    (positions : records.map (·.position) = List.range' (index + 1) records.length)
    (distinct : (records.map (·.key)).Nodup)
    (unobserved : ∀ record ∈ records, record.key ∉ observed) :
    decodedHistoryIssue records index observed = none := by
  induction records generalizing index observed with
  | nil => rfl
  | cons record records induction =>
      rw [List.map_cons, List.length_cons, List.range'_succ, List.cons.injEq] at positions
      rw [List.map_cons, List.nodup_cons] at distinct
      rw [List.forall_mem_cons] at unobserved
      unfold decodedHistoryIssue
      rw [if_neg (not_not.mpr positions.1), if_neg unobserved.1]
      refine induction positions.2 distinct.2 ?_
      intro later listed
      rw [List.mem_cons, not_or]
      refine ⟨?_, unobserved.2 later listed⟩
      intro same
      exact distinct.1 (List.mem_map.mpr ⟨later, listed, same⟩)

theorem makeSqliteDecodedHistoryEvidence_eq {named : RunId}
    (sequence : RecordSequence runId records) (journalPartition : JournalPartition)
    (operation : JournalStoreOperation) :
    makeSqliteDecodedHistoryEvidence records journalPartition named operation =
      .ok (evidenceOf records) := by
  unfold makeSqliteDecodedHistoryEvidence
  rw [decodedHistoryIssue_eq_none sequence.positions sequence.distinctKeys (by simp)]
  rfl

variable {platform : SqlitePlatform}

theorem decodeRunId_eq (reads : platform.Reads runId) :
    decodeRunId platform runId = some runId := by
  have whole : platform.readText runId.value = runId.value := reads
  simp [decodeRunId, whole, runId.nonempty]

variable {record : JournalRecord}

theorem decodeRow_sqliteRowOf (encodes : platform.Encodes record.event)
    (reads : platform.Reads record.runId) :
    decodeRow platform (sqliteRowOf platform record) = .ok record := by
  simp [decodeRow, sqliteRowOf, decodeRunId_eq reads, encodes.decodes]

theorem mapM_decodeRow (encodes : ∀ record ∈ records, platform.Encodes record.event)
    (reads : ∀ record ∈ records, platform.Reads record.runId) :
    (records.map (sqliteRowOf platform)).mapM (decodeRow platform) = .ok records := by
  induction records with
  | nil => rfl
  | cons record records induction =>
      rw [List.forall_mem_cons] at encodes reads
      rw [List.map_cons, List.mapM_cons, decodeRow_sqliteRowOf encodes.1 reads.1,
        induction encodes.2 reads.2]
      rfl

theorem StoredRun.WellFormed.partitionRecords_eq {kernel : HistoryKernel} {run : StoredRun}
    {stored : List JournalRecord} {journalPartition : JournalPartition}
    (wellFormed : run.WellFormed kernel runId)
    (held : run.partitionRecords journalPartition = some stored) : run.records = stored := by
  cases journalPartition with
  | hot => exact records_of_hot held
  | cold => exact wellFormed.records_of_cold held

theorem StoredRun.WellFormed.getD_partitionRecords {kernel : HistoryKernel} {run : StoredRun}
    (wellFormed : run.WellFormed kernel runId) :
    (run.partitionRecords run.partition).getD [] = run.records := by
  unfold StoredRun.partition
  cases cold : run.cold with
  | some stored => simp [StoredRun.partitionRecords, cold, wellFormed.records_of_cold cold]
  | none => simp [StoredRun.partitionRecords, StoredRun.records, cold]

namespace RowsRepresent

variable {kernel : HistoryKernel} {platform : SqlitePlatform} {database : SqliteDatabase}
  {runs : RunId → StoredRun}

section

variable (represents : RowsRepresent kernel platform database runs)
include represents

section

variable (journalPartition : JournalPartition) (runId : RunId)

theorem filter_rows :
    (database.rows journalPartition).filter (·.runId = runId) =
      (((runs runId).partitionRecords journalPartition).getD []).map (sqliteRowOf platform) := by
  cases journalPartition with
  | hot => exact represents.hot runId
  | cold => exact represents.cold runId

theorem held_sequence :
    RecordSequence runId (((runs runId).partitionRecords journalPartition).getD []) := by
  cases held : (runs runId).partitionRecords journalPartition with
  | none => exact .nil
  | some stored =>
      rw [Option.getD_some, ← (represents.wellFormed runId).partitionRecords_eq held]
      exact (represents.wellFormed runId).sequence

theorem held_encodes :
    ∀ record ∈ ((runs runId).partitionRecords journalPartition).getD [],
      platform.Encodes record.event ∧ platform.Reads record.runId := by
  cases held : (runs runId).partitionRecords journalPartition with
  | none => simp
  | some stored =>
      rw [Option.getD_some, ← (represents.wellFormed runId).partitionRecords_eq held]
      intro record listed
      refine ⟨represents.encodes runId record listed, ?_⟩
      rw [(represents.wellFormed runId).sequence.owned record listed]
      exact represents.reads runId (List.ne_nil_of_mem listed)

theorem rowsOf_eq :
    database.rowsOf journalPartition runId =
      (((runs runId).partitionRecords journalPartition).getD []).map (sqliteRowOf platform) := by
  unfold SqliteDatabase.rowsOf
  rw [represents.filter_rows]
  refine List.mergeSort_of_pairwise ?_
  rw [List.pairwise_map]
  refine (represents.held_sequence journalPartition runId).sorted.imp ?_
  intro left right before
  exact decide_eq_true (Nat.le_of_lt before)

theorem hasPartitionRows_eq (operation : JournalStoreOperation) :
    hasPartitionRows platform database journalPartition runId operation =
      .ok ((runs runId).partitionRecords journalPartition).isSome := by
  unfold hasPartitionRows
  rw [← List.head?_filter, represents.filter_rows]
  have encodes := represents.held_encodes journalPartition runId
  cases held : (runs runId).partitionRecords journalPartition with
  | none => rfl
  | some stored =>
      cases stored with
      | nil =>
          obtain ⟨hot, cold⟩ := (represents.wellFormed runId).nonempty
          cases journalPartition with
          | hot => exact absurd held hot
          | cold => exact absurd held cold
      | cons first rest =>
          rw [held] at encodes
          have reads := (encodes first (by simp)).2
          simp [sqliteRowOf, decodeRunId_eq reads]

end

theorem locateRunPartition_eq (runId : RunId) (operation : JournalStoreOperation) :
    locateRunPartition platform database runId operation = .ok (runs runId).partition := by
  unfold locateRunPartition
  rw [represents.hasPartitionRows_eq, represents.hasPartitionRows_eq]
  have once := (represents.wellFormed runId).hotOrCold
  unfold StoredRun.partition StoredRun.partitionRecords
  cases hot : (runs runId).hot <;> cases cold : (runs runId).cold <;> simp_all [bind, Except.bind]

section

variable (journalPartition : JournalPartition) (runId : RunId) (operation : JournalStoreOperation)

theorem loadPartitionEvidence_eq :
    loadPartitionEvidence platform database journalPartition runId operation =
      .ok (evidenceOf (((runs runId).partitionRecords journalPartition).getD [])) := by
  have encodes := represents.held_encodes journalPartition runId
  unfold loadPartitionEvidence
  rw [represents.rowsOf_eq, mapM_decodeRow (fun record listed => (encodes record listed).1)
    fun record listed => (encodes record listed).2]
  exact makeSqliteDecodedHistoryEvidence_eq
    (represents.held_sequence journalPartition runId) journalPartition operation

theorem loadPartitionRecords_eq :
    loadPartitionRecords platform database journalPartition runId operation =
      .ok (((runs runId).partitionRecords journalPartition).getD []) := by
  unfold loadPartitionRecords
  rw [represents.loadPartitionEvidence_eq]
  rfl

end

theorem loadRunSnapshotForPartition_eq (runId : RunId) (operation : JournalStoreOperation) :
    loadRunSnapshotForPartition kernel platform database (runs runId).partition runId operation =
      .ok (snapshotOf runId (runs runId)) := by
  have wellFormed := represents.wellFormed runId
  unfold loadRunSnapshotForPartition
  rw [represents.loadPartitionEvidence_eq, wellFormed.getD_partitionRecords]
  cases cold : (runs runId).cold with
  | none =>
      have located : (runs runId).partition = .hot := by simp [StoredRun.partition, cold]
      rw [located]
      simp [snapshotOf, located, bind, Except.bind, evidenceOf, pure, Except.pure]
  | some stored =>
      have located : (runs runId).partition = .cold := by simp [StoredRun.partition, cold]
      have valid := wellFormed.coldValid stored cold
      rw [← wellFormed.records_of_cold cold] at valid
      obtain ⟨last, final⟩ := exists_getLast?_of_endsTerminated (endsTerminated_of_valid valid)
      have found := wellFormed.sequence.find_terminated (endsTerminated_of_valid valid)
      rw [located]
      simp [snapshotOf, located, bind, Except.bind, evidenceOf, pure, Except.pure, valid, found,
        final]

theorem loadRunSnapshot_eq (runId : RunId) (operation : JournalStoreOperation) :
    loadRunSnapshot kernel platform database runId operation =
      .ok (snapshotOf runId (runs runId)) := by
  unfold loadRunSnapshot
  rw [represents.locateRunPartition_eq]
  exact represents.loadRunSnapshotForPartition_eq runId operation

theorem loadRunRecords_eq (runId : RunId) (operation : JournalStoreOperation) :
    loadRunRecords kernel platform database runId operation = .ok (runs runId).records := by
  unfold loadRunRecords
  rw [represents.loadRunSnapshot_eq]
  rfl

theorem integrity_eq (runId : RunId) :
    integrity platform database runId =
      .ok (integrityRows platform ((runs runId).records.map (sqliteRowOf platform))) := by
  unfold integrity
  rw [represents.locateRunPartition_eq]
  simp only [bind, Except.bind, pure, Except.pure]
  rw [represents.rowsOf_eq, (represents.wellFormed runId).getD_partitionRecords]

end

end RowsRepresent

namespace ReceiptsRepresent

variable {kernel : HistoryKernel} {platform : SqlitePlatform} {database : SqliteDatabase}
  {runs : RunId → StoredRun}

section

variable (represents : ReceiptsRepresent kernel platform database runs)
include represents

theorem no_terminal_row {runId : RunId} (incomplete : (runs runId).completion = none)
    (journalPartition : JournalPartition) :
    (database.rows journalPartition).any (fun row =>
      row.runId = runId && row.stored.kind = workflowRunTerminatedKind) = false := by
  have consistent := represents.consistent runId
  rw [List.any_eq_false]
  intro row listed
  simp only [Bool.and_eq_true, decide_eq_true_eq, not_and]
  intro owned terminalKind
  have held : row ∈ (database.rows journalPartition).filter (·.runId = runId) :=
    List.mem_filter.mpr ⟨listed, by simpa using owned⟩
  rw [represents.filter_rows] at held
  obtain ⟨record, stored, rfl⟩ := List.mem_map.mp held
  have terminal := (represents.held_encodes journalPartition runId record stored).1.terminated
    terminalKind
  cases kept : (runs runId).partitionRecords journalPartition with
  | none => simp [kept] at stored
  | some records =>
      rw [kept, Option.getD_some, ← consistent.partitionRecords_eq kept] at stored
      have open_ := consistent.sequence.not_terminated_of_not_ends
        (consistent.open_of_incomplete incomplete).1 record stored
      simp [open_] at terminal

theorem sqliteReadCompletion_eq (runId : RunId) :
    sqliteReadCompletion kernel platform database runId = .ok ((runs runId).inspection runId) := by
  have receipt := represents.receipts runId
  unfold sqliteReadCompletion StoredRun.inspection
  cases known : database.completions.lookup runId with
  | none =>
      rw [known] at receipt
      have incomplete : (runs runId).completion = none := receipt
      simp [represents.locateRunPartition_eq, bind, Except.bind,
        represents.no_terminal_row incomplete, incomplete, pure, Except.pure]
  | some row =>
      rw [known] at receipt
      obtain ⟨completed, owned, deletion, checksum, fingerprints⟩ := receipt
      cases deleted : (runs runId).deletion with
      | none =>
          rw [deleted] at deletion
          simp [owned, checksum, deletion, represents.integrity_eq, completed,
            fingerprints deleted, bind, Except.bind, pure, Except.pure]
      | some marker =>
          rw [deleted] at deletion
          obtain ⟨-, hot, cold⟩ :=
            (represents.consistent runId).deletedCompleted (by simp [deleted])
          simp [owned, checksum, deletion, represents.hasPartitionRows_eq, completed,
            StoredRun.partitionRecords, hot, cold, bind, Except.bind, pure, Except.pure]

theorem readCompletionFor_eq (runId : RunId) :
    readCompletionFor kernel platform database runId = .ok ((runs runId).inspection runId) := by
  unfold readCompletionFor
  rw [represents.sqliteReadCompletion_eq]
  rfl

end

end ReceiptsRepresent

/-- The tables differ only in what they keep for one Run. -/
structure DiffersAt (runId : RunId) (database next : SqliteDatabase) : Prop where
  hot : ∀ other, other ≠ runId →
    next.hot.filter (·.runId = other) = database.hot.filter (·.runId = other)
  cold : ∀ other, other ≠ runId →
    next.cold.filter (·.runId = other) = database.cold.filter (·.runId = other)
  completions : ∀ other, other ≠ runId →
    next.completions.lookup other = database.completions.lookup other
  archive : ∀ other, other ≠ runId → next.archive.lookup other = database.archive.lookup other

variable {kernel : HistoryKernel} {platform : SqlitePlatform} {database next : SqliteDatabase}
  {runs : RunId → StoredRun} {runId : RunId} {run : StoredRun}

theorem DiffersAt.withReceipt (differs : DiffersAt runId database next) (receipt : SqliteReceipt) :
    DiffersAt runId database
      { next with completions := next.completions.insert runId receipt } where
  hot := differs.hot
  cold := differs.cold
  completions other apart := by
    rw [AList.lookup_insert_ne apart]
    exact differs.completions other apart
  archive := differs.archive

theorem RowsRepresent.update (represents : RowsRepresent kernel platform database runs)
    (differs : DiffersAt runId database next) (wellFormed : run.WellFormed kernel runId)
    (encodes : ∀ record ∈ run.records, platform.Encodes record.event)
    (reads : run.records ≠ [] → platform.Reads runId)
    (hot : next.hot.filter (·.runId = runId) = (run.hot.getD []).map (sqliteRowOf platform))
    (cold : next.cold.filter (·.runId = runId) = (run.cold.getD []).map (sqliteRowOf platform)) :
    RowsRepresent kernel platform next (Function.update runs runId run) where
  wellFormed := (Function.forall_update_iff runs fun other run =>
    run.WellFormed kernel other).mpr ⟨wellFormed, fun other _ => represents.wellFormed other⟩
  encodes := (Function.forall_update_iff runs fun _ run =>
    ∀ record ∈ run.records, platform.Encodes record.event).mpr
      ⟨encodes, fun other _ => represents.encodes other⟩
  reads := (Function.forall_update_iff runs fun other run =>
    run.records ≠ [] → platform.Reads other).mpr ⟨reads, fun other _ => represents.reads other⟩
  hot := (Function.forall_update_iff runs fun other run => next.hot.filter (·.runId = other) =
    (run.hot.getD []).map (sqliteRowOf platform)).mpr
      ⟨hot, fun other apart => (differs.hot other apart).trans (represents.hot other)⟩
  cold := (Function.forall_update_iff runs fun other run => next.cold.filter (·.runId = other) =
    (run.cold.getD []).map (sqliteRowOf platform)).mpr
      ⟨cold, fun other apart => (differs.cold other apart).trans (represents.cold other)⟩

theorem ReceiptsRepresent.update (represents : ReceiptsRepresent kernel platform database runs)
    (differs : DiffersAt runId database next)
    (rows : RowsRepresent kernel platform next (Function.update runs runId run))
    (change : StoredRun.Change kernel runId (runs runId) run)
    (receipt : ReceiptOf platform runId run (next.completions.lookup runId)) :
    ReceiptsRepresent kernel platform next (Function.update runs runId run) where
  toRowsRepresent := rows
  consistent := (JournalChange.update change).consistent represents.consistent
  receipts := (Function.forall_update_iff runs fun other run =>
    ReceiptOf platform other run (next.completions.lookup other)).mpr
      ⟨receipt, fun other apart => by
        rw [differs.completions other apart]
        exact represents.receipts other⟩

theorem Represents.update (represents : Represents kernel platform database runs)
    (differs : DiffersAt runId database next)
    (receipts : ReceiptsRepresent kernel platform next (Function.update runs runId run))
    (archived : (next.archive.lookup runId).isSome = run.archived) :
    Represents kernel platform next (Function.update runs runId run) where
  toReceiptsRepresent := receipts
  archived := (Function.forall_update_iff runs fun other run =>
    (next.archive.lookup other).isSome = run.archived).mpr
      ⟨archived, fun other apart => by
        rw [differs.archive other apart]
        exact represents.archived other⟩

def SqliteDatabase.inserted (database : SqliteDatabase) (row : SqliteRow) : SqliteDatabase :=
  { database with hot := database.hot ++ [row] }

theorem RowsRepresent.insertRow_eq (represents : RowsRepresent kernel platform database runs)
    (extends_ : (runs runId).Extends runId record) (operation : JournalStoreOperation) :
    database.insertRow operation (sqliteRowOf platform record) =
      .ok (database.inserted (sqliteRowOf platform record)) := by
  unfold SqliteDatabase.insertRow
  rw [if_neg]
  · rfl
  intro clash
  rw [List.any_eq_true] at clash
  obtain ⟨row, listed, clash⟩ := clash
  simp only [Bool.and_eq_true, Bool.or_eq_true, decide_eq_true_eq] at clash
  obtain ⟨owned, clash⟩ := clash
  have held : row ∈ database.hot.filter (·.runId = runId) :=
    List.mem_filter.mpr ⟨listed, by simpa [sqliteRowOf, extends_.owned] using owned⟩
  have records : ((runs runId).hot.getD []) = (runs runId).records := by
    simp [StoredRun.records, extends_.notCold]
  rw [represents.hot, records] at held
  obtain ⟨earlier, stored, rfl⟩ := List.mem_map.mp held
  rcases clash with samePosition | sameKey
  · have bound := ((represents.wellFormed runId).sequence.position_le_length stored).2
    have next := extends_.next
    simp only [sqliteRowOf] at samePosition
    rw [samePosition, next] at bound
    exact Nat.not_succ_le_self _ bound
  · exact extends_.fresh earlier stored sameKey

theorem inserted_differsAt (database : SqliteDatabase) {row : SqliteRow} (owned : row.runId = runId) :
    DiffersAt runId database (database.inserted row) where
  hot other apart := by
    have absent : row.runId ≠ other := owned ▸ apart.symm
    simp [SqliteDatabase.inserted, absent]
  cold _ _ := rfl
  completions _ _ := rfl
  archive _ _ := rfl

theorem RowsRepresent.inserted (represents : RowsRepresent kernel platform database runs)
    (extends_ : (runs runId).Extends runId record)
    (sequence : RecordSequence runId ((runs runId).records ++ [record]))
    (encodes : platform.Encodes record.event) (reads : platform.Reads runId)
    (completion : Option RunCompletion) :
    RowsRepresent kernel platform (database.inserted (sqliteRowOf platform record))
      (Function.update runs runId
        { runs runId with hot := some ((runs runId).records ++ [record]), completion }) := by
  have owned : (sqliteRowOf platform record).runId = runId := extends_.owned
  refine represents.update (inserted_differsAt database owned) ?_ ?_ (fun _ => reads) ?_ ?_
  · exact
      { hotOrCold := .inr extends_.notCold
        nonempty := ⟨by simp, by simp [extends_.notCold]⟩
        sequence
        coldValid := by simp [extends_.notCold] }
  · change ∀ stored ∈ (runs runId).records ++ [record], platform.Encodes stored.event
    intro stored listed
    rcases Log.mem_concat.mp listed with earlier | last
    · exact represents.encodes runId stored earlier
    · rwa [last]
  · have before : (runs runId).hot.getD [] = (runs runId).records := by
      simp [StoredRun.records, extends_.notCold]
    simp [SqliteDatabase.inserted, represents.hot, before, owned]
  · exact represents.cold runId

theorem ReceiptsRepresent.no_receipt (represents : ReceiptsRepresent kernel platform database runs)
    (incomplete : (runs runId).completion = none) : database.completions.lookup runId = none := by
  have receipt := represents.receipts runId
  cases known : database.completions.lookup runId with
  | none => rfl
  | some row =>
      rw [known] at receipt
      obtain ⟨completed, -⟩ := receipt
      rw [incomplete] at completed
      cases completed

theorem Represents.recorded (represents : Represents kernel platform database runs)
    (extends_ : (runs runId).Extends runId record) (ordinary : record.event.isRunTerminated = false)
    (encodes : platform.Encodes record.event) (reads : platform.Reads runId) :
    Represents kernel platform (database.inserted (sqliteRowOf platform record))
      (Function.update runs runId
        { runs runId with hot := some ((runs runId).records ++ [record]) }) := by
  have owned : (sqliteRowOf platform record).runId = runId := extends_.owned
  have differs := inserted_differsAt database owned
  refine represents.update differs ?_ (represents.archived runId)
  refine represents.toReceiptsRepresent.update differs ?_ (.recorded record extends_ ordinary) ?_
  · exact represents.toRowsRepresent.inserted extends_
      (extends_.sequence (represents.consistent runId)) encodes reads _
  · have unsaved : (database.inserted (sqliteRowOf platform record)).completions.lookup runId =
        none := represents.no_receipt extends_.incomplete
    rw [unsaved]
    exact extends_.incomplete

def receiptFor (platform : SqlitePlatform) (completion : RunCompletion)
    (records : List JournalRecord) : SqliteReceipt :=
  let fingerprints := integrityRows platform (records.map (sqliteRowOf platform))
  ⟨completion, fingerprints, platform.receiptDigest completion fingerprints none, none⟩

theorem RowsRepresent.saveCompletion_eq (represents : RowsRepresent kernel platform database runs)
    (unsaved : database.completions.lookup runId = none) (held : (runs runId).records = records)
    {timing : RunCompletionTiming} {completion : RunCompletion}
    (verified : verifiedRunCompletion kernel runId records timing = .ok (some completion)) :
    saveCompletion kernel platform database runId records timing =
      .ok { database with
        completions :=
          database.completions.insert runId (receiptFor platform completion records) } := by
  subst held
  have valid : ∀ other, ∃ result, verifiedRunCompletion kernel runId (runs runId).records other =
      .ok result := by
    intro other
    unfold verifiedRunCompletion at verified ⊢
    split at verified
    · cases verified
    · exact ⟨_, rfl⟩
  have absent : sqliteReadCompletion kernel platform database runId = .ok (.noCompletion runId) := by
    obtain ⟨result, legacy⟩ := valid (.legacyBaseline 0)
    unfold sqliteReadCompletion
    simp only [unsaved, represents.locateRunPartition_eq, represents.loadRunRecords_eq, legacy,
      bind, Except.bind, pure, Except.pure]
    split_ifs <;> rfl
  unfold saveCompletion
  simp only [verified, absent, represents.integrity_eq, bind, Except.bind, pure, Except.pure,
    receiptFor]

end Dalph
