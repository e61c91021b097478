import Dalph.WorkflowJournal.EventCodec
import Dalph.WorkflowJournal.Completion

/-!
# Tables and queries of the SQLite journal

Committed rows of the four tables, the statements that change them and the queries that load one
Run.  A load decodes every row of a Run and proves positions and keys before anything uses it.
-/

namespace Dalph

/-- One row of `journal_records` or `journal_records_cold`. -/
structure SqliteRow where
  runId : RunId
  position : JournalPosition
  key : JournalRecordKey
  stored : EncodedJournalEvent
deriving DecidableEq

/-- What the fingerprint of a completed history keeps of one row. -/
structure IntegrityRow where
  position : JournalPosition
  kind : JournalEventKind
  version : Int
  key : JournalRecordKey
  digest : String
deriving DecidableEq

/-- One row of `run_completions`; JSON columns are held as the values they encode. -/
structure SqliteReceipt where
  completion : RunCompletion
  integrity : List IntegrityRow
  checksum : String
  deletion : Option RunHistoryDeletion
deriving DecidableEq

structure SqliteArchiveHistory where
  savedBytes : Nat
  baseline : Option RunCompletionTime
deriving DecidableEq

structure SqliteDatabase where
  hot : List SqliteRow
  cold : List SqliteRow
  completions : RunMap SqliteReceipt
  archive : RunMap SqliteArchiveHistory

def emptySqliteDatabase : SqliteDatabase :=
  ⟨[], [], ∅, ∅⟩

/-- What the store takes from the event codec, the driver and the hash. -/
structure SqlitePlatform where
  encode : WorkflowJournalEvent → EncodedJournalEvent
  decode : EncodedJournalEvent → Except JournalEventDecodeIssue WorkflowJournalEvent
  /-- The text that the driver returns for a text column. -/
  readText : String → String
  /-- SHA-256 of a text. -/
  digest : String → String
  /-- Checksum over the JSON columns of a receipt. -/
  receiptDigest : RunCompletion → List IntegrityRow → Option RunHistoryDeletion → String
  /-- Text of a schema library issue about a row. -/
  boundaryDetail : String → String

namespace SqliteDatabase

def rows (database : SqliteDatabase) : JournalPartition → List SqliteRow
  | .hot => database.hot
  | .cold => database.cold

def rowsOf (database : SqliteDatabase) (journalPartition : JournalPartition) (runId : RunId) :
    List SqliteRow :=
  ((database.rows journalPartition).filter (·.runId = runId)).mergeSort
    fun left right => left.position ≤ right.position

/-- `INSERT INTO journal_records`, under the primary key and the unique key of the table. -/
def insertRow (database : SqliteDatabase) (operation : JournalStoreOperation) (row : SqliteRow) :
    Except JournalStoreFailure SqliteDatabase :=
  if database.hot.any fun other =>
      other.runId = row.runId && (other.position = row.position || other.key = row.key) then
    .error (.journalStorageUnavailable operation "UNIQUE constraint failed")
  else .ok { database with hot := database.hot ++ [row] }

end SqliteDatabase

section Queries

variable (kernel : HistoryKernel) (platform : SqlitePlatform) (database : SqliteDatabase)

def sqliteRowOf (record : JournalRecord) : SqliteRow :=
  ⟨record.runId, record.position, record.key, platform.encode record.event⟩

def decodeRunId (runId : RunId) : Option RunId :=
  let text := platform.readText runId.value
  if nonempty : text ≠ "" then some ⟨text, nonempty⟩ else none

def historyCorruption (journalPartition : JournalPartition) (runId : RunId)
    (operation : JournalStoreOperation) (detail : String) : JournalStoreFailure :=
  .journalHistoryCorruption operation detail journalPartition runId

def decodeIssueDetail (issue : JournalEventDecodeIssue) : String :=
  issue.detail.getD (platform.boundaryDetail issue.kind.value)

/-- Decodes one row; the key column is read as hexadecimal and comes back whole. -/
def decodeRow (row : SqliteRow) : Except String JournalRecord :=
  match decodeRunId platform row.runId with
  | none => .error (platform.boundaryDetail row.runId.value)
  | some runId =>
      match platform.decode row.stored with
      | .error issue => .error (decodeIssueDetail platform issue)
      | .ok event => .ok { event, key := row.key, position := row.position, runId }

def hasPartitionRows (journalPartition : JournalPartition) (runId : RunId)
    (operation : JournalStoreOperation) : Except JournalStoreFailure Bool :=
  match (database.rows journalPartition).find? (·.runId = runId) with
  | none => .ok false
  | some row =>
      match decodeRunId platform row.runId with
      | none => .error (historyCorruption journalPartition runId operation
          (platform.boundaryDetail row.runId.value))
      | some _ => .ok true

def locateRunPartition (runId : RunId) (operation : JournalStoreOperation) :
    Except JournalStoreFailure JournalPartition := do
  let hot ← hasPartitionRows platform database .hot runId operation
  let cold ← hasPartitionRows platform database .cold runId operation
  if hot && cold then .error (.journalPartitionContradiction runId)
  else if cold then .ok .cold
  else .ok .hot

/-- Content and position established while building a checkpoint. -/
structure SqliteStorageRecordEvidence where
  event : WorkflowJournalEvent
  position : JournalPosition
deriving DecidableEq

/-- Evidence that every row of one Run partition was decoded through an exact position. -/
structure SqliteStorageCheckpoint where
  decodedThrough : Option JournalPosition
  journalPartition : JournalPartition
  recordsByKey : AList fun _ : JournalRecordKey => SqliteStorageRecordEvidence
  runId : RunId
  terminalPosition : Option JournalPosition

/-- A checkpoint and the records it was built from. -/
structure SqlitePartitionSnapshot where
  checkpoint : SqliteStorageCheckpoint
  records : List JournalRecord

structure SqliteDecodedHistoryEvidence where
  decodedThrough : Option JournalPosition
  records : List JournalRecord
  recordsByKey : AList fun _ : JournalRecordKey => SqliteStorageRecordEvidence
  terminalPosition : Option JournalPosition

def recordsByKeyOf (records : List JournalRecord) :
    AList fun _ : JournalRecordKey => SqliteStorageRecordEvidence :=
  records.foldl (fun map record => map.insert record.key ⟨record.event, record.position⟩) ∅

/-- The first defect of positions or keys, if any. -/
def decodedHistoryIssue : List JournalRecord → Nat → List JournalRecordKey → Option String
  | [], _, _ => none
  | record :: records, index, observedKeys =>
      if record.position ≠ index + 1 then
        some s!"expected contiguous position {index + 1}, found {record.position}"
      else if record.key ∈ observedKeys then some s!"duplicate record key {record.key.value}"
      else decodedHistoryIssue records (index + 1) (record.key :: observedKeys)

/-- Proves append positions and key uniqueness for decoded rows. -/
def makeSqliteDecodedHistoryEvidence (records : List JournalRecord)
    (journalPartition : JournalPartition) (runId : RunId) (operation : JournalStoreOperation) :
    Except JournalStoreFailure SqliteDecodedHistoryEvidence :=
  match decodedHistoryIssue records 0 [] with
  | some detail => .error (historyCorruption journalPartition runId operation detail)
  | none => .ok
      { decodedThrough := records.getLast?.map (·.position)
        records
        recordsByKey := recordsByKeyOf records
        terminalPosition := (records.find? (·.event.isRunTerminated)).map (·.position) }

/-- Rebuilds an ordered read view from a checkpoint. -/
def snapshotFromSqliteStorageCheckpoint (checkpoint : SqliteStorageCheckpoint) :
    SqlitePartitionSnapshot :=
  { checkpoint
    records := (checkpoint.recordsByKey.entries.map fun entry =>
      { event := entry.2.event
        key := entry.1
        position := entry.2.position
        runId := checkpoint.runId : JournalRecord }).mergeSort
          fun left right => left.position ≤ right.position }

/-- A checkpoint extended by one stored record. -/
def appendSqliteStorageCheckpoint (checkpoint : SqliteStorageCheckpoint) (record : JournalRecord) :
    SqliteStorageCheckpoint :=
  { decodedThrough := some record.position
    journalPartition := checkpoint.journalPartition
    recordsByKey := checkpoint.recordsByKey.insert record.key ⟨record.event, record.position⟩
    runId := checkpoint.runId
    terminalPosition :=
      if record.event.isRunTerminated then some record.position else checkpoint.terminalPosition }

def loadPartitionEvidence (journalPartition : JournalPartition) (runId : RunId)
    (operation : JournalStoreOperation) :
    Except JournalStoreFailure SqliteDecodedHistoryEvidence := do
  let records ← ((database.rowsOf journalPartition runId).mapM (decodeRow platform)).mapError
    (historyCorruption journalPartition runId operation)
  makeSqliteDecodedHistoryEvidence records journalPartition runId operation

def loadPartitionRecords (journalPartition : JournalPartition) (runId : RunId)
    (operation : JournalStoreOperation) : Except JournalStoreFailure (List JournalRecord) := do
  let evidence ← loadPartitionEvidence platform database journalPartition runId operation
  return evidence.records

def loadRunSnapshotForPartition (journalPartition : JournalPartition) (runId : RunId)
    (operation : JournalStoreOperation) : Except JournalStoreFailure SqlitePartitionSnapshot := do
  let evidence ← loadPartitionEvidence platform database journalPartition runId operation
  let snapshot : SqlitePartitionSnapshot :=
    { checkpoint :=
        { decodedThrough := evidence.decodedThrough
          journalPartition
          recordsByKey := evidence.recordsByKey
          runId
          terminalPosition := evidence.terminalPosition }
      records := evidence.records }
  match journalPartition with
  | .hot => return snapshot
  | .cold =>
      match decideJournalPartitionHistory kernel .cold runId evidence.records with
      | .invalidPartitionHistory detail =>
          .error (historyCorruption .cold runId operation detail)
      | .validPartitionHistory _ =>
          if evidence.decodedThrough = none ∨ evidence.terminalPosition = none then
            .error (historyCorruption .cold runId operation
              "valid Cold history requires a terminal record")
          else return snapshot

def loadRunSnapshot (runId : RunId) (operation : JournalStoreOperation) :
    Except JournalStoreFailure SqlitePartitionSnapshot := do
  let journalPartition ← locateRunPartition platform database runId operation
  loadRunSnapshotForPartition kernel platform database journalPartition runId operation

def loadRunRecords (runId : RunId) (operation : JournalStoreOperation) :
    Except JournalStoreFailure (List JournalRecord) := do
  let snapshot ← loadRunSnapshot kernel platform database runId operation
  return snapshot.records

end Queries

end Dalph
