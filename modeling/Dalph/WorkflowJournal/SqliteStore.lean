import Dalph.WorkflowJournal.SqliteDatabase
import Dalph.WorkflowJournal.MemoryStore

/-!
# The SQLite journal store

Every operation runs one transaction on the committed tables.  Two caches survive between
operations: checkpoints of decoded Runs and read snapshots.  An operation publishes, advances or
drops them on its own success and failure paths.
-/

namespace Dalph

section Completions

variable (kernel : HistoryKernel) (platform : SqlitePlatform) (database : SqliteDatabase)

def workflowRunTerminatedKind : JournalEventKind := ⟨"WorkflowRunTerminated"⟩

def remotePublicationSucceededKind : JournalEventKind := ⟨"RemotePublicationSucceeded"⟩

/-- Fingerprints of the first row, the last row and the last publication success. -/
def integrityRows (rows : List SqliteRow) : List IntegrityRow :=
  let lastPosition := (rows.map (·.position)).max?
  let publishedPosition :=
    ((rows.filter (·.stored.kind = remotePublicationSucceededKind)).map (·.position)).max?
  (rows.filter fun row =>
    row.position = 1 || some row.position = lastPosition ||
      some row.position = publishedPosition).map fun row =>
    { position := row.position
      kind := row.stored.kind
      version := row.stored.version
      key := row.key
      digest := platform.digest row.stored.payloadJson }

def integrity (runId : RunId) : Except JournalStoreFailure (List IntegrityRow) := do
  let journalPartition ← locateRunPartition platform database runId .readCompletion
  return integrityRows platform (database.rowsOf journalPartition runId)

def verifiedRunCompletion (runId : RunId) (records : List JournalRecord)
    (timing : RunCompletionTiming) : Except JournalStoreFailure (Option RunCompletion) :=
  match decideJournalPartitionHistory kernel .hot runId records with
  | .invalidPartitionHistory detail => .error (.journalDataCorruption .readCompletion detail)
  | .validPartitionHistory _ => .ok (compactRunCompletion runId records timing)

def completionContradiction (runId : RunId) : JournalStoreFailure :=
  .journalDataCorruption .readCompletion s!"completion/history contradiction for {runId.value}"

/-- Reads a completion; fingerprints detect contradictions without replaying history. -/
def sqliteReadCompletion (runId : RunId) : Except JournalStoreFailure RunCompletionInspection :=
  match database.completions.lookup runId with
  | none => do
      let journalPartition ← locateRunPartition platform database runId .readCompletion
      if (database.rows journalPartition).any fun row =>
          row.runId = runId && row.stored.kind = workflowRunTerminatedKind then
        let records ← loadRunRecords kernel platform database runId .readCompletion
        -- the result is dropped, so the time it was verified at does not matter
        let _ ← verifiedRunCompletion kernel runId records (.legacyBaseline 0)
        return .noCompletion runId
      else return .noCompletion runId
  | some receipt =>
      if receipt.completion.runId ≠ runId ∨
          platform.receiptDigest receipt.completion receipt.integrity receipt.deletion ≠
            receipt.checksum then
        .error (completionContradiction runId)
      else
        match receipt.deletion with
        | some deletion => do
            let hot ← hasPartitionRows platform database .hot runId .readCompletion
            let present ←
              if hot then .ok true
              else hasPartitionRows platform database .cold runId .readCompletion
            if present then
              .error (.journalDataCorruption .readCompletion
                s!"deleted history has rows for {runId.value}")
            else return .completedRun receipt.completion (.deleted deletion)
        | none => do
            let current ← integrity platform database runId
            if current ≠ receipt.integrity then
              let journalPartition ← locateRunPartition platform database runId .readCompletion
              .error (.journalHistoryCorruption .readCompletion
                "completion/history endpoints contradict recorded fingerprints"
                journalPartition runId)
            else return .completedRun receipt.completion .available

/-- Saves the completion of a terminal history. -/
def saveCompletion (runId : RunId) (records : List JournalRecord) (timing : RunCompletionTiming) :
    Except JournalStoreFailure SqliteDatabase := do
  match ← verifiedRunCompletion kernel runId records timing with
  | none => return database
  | some completion =>
      match ← sqliteReadCompletion kernel platform database runId with
      | .completedRun existing _ =>
          if existing = { completion with timing := existing.timing } then return database
          else .error (completionContradiction runId)
      | .noCompletion _ =>
          let current ← integrity platform database runId
          return { database with
            completions := database.completions.insert runId
              ⟨completion, current, platform.receiptDigest completion current none, none⟩ }

def markDeleted (runId : RunId) (deletion : RunHistoryDeletion) :
    Except JournalStoreFailure SqliteDatabase :=
  match database.completions.lookup runId with
  | none => .error (.journalDataCorruption .maintainArchive "missing established completion")
  | some receipt => .ok
      { database with
        completions := database.completions.insert runId
          { receipt with
            checksum :=
              platform.receiptDigest receipt.completion receipt.integrity (some deletion)
            deletion := some deletion } }

def requireAvailable (runId : RunId) : Except JournalStoreFailure Unit :=
  if (database.completions.lookup runId).any (·.deletion.isSome) then do
    match ← sqliteReadCompletion kernel platform database runId with
    | .completedRun completion (.deleted deletion) =>
        .error (.journalHistoryDeleted completion deletion)
    | _ => return ()
  else .ok ()

def savedRowBytes (row : SqliteRow) : Nat :=
  row.runId.value.utf8ByteSize + row.key.value.utf8ByteSize + row.stored.kind.value.utf8ByteSize +
    row.stored.payloadJson.utf8ByteSize + 16

/-- Accounts the archived rows of one Run; a Run without rows keeps what it had. -/
def refreshSqliteArchiveAccounting (runId : RunId) : SqliteDatabase :=
  match database.rowsOf .cold runId with
  | [] => database
  | rows =>
      { database with
        archive := database.archive.insert runId
          { savedBytes := (rows.map savedRowBytes).sum
            baseline := (database.completions.lookup runId).map
              fun receipt => retentionBaseline receipt.completion } }

end Completions

/-- Committed tables and the two caches of one connection. -/
structure SqliteState where
  database : SqliteDatabase
  checkpoints : RunMap SqliteStorageCheckpoint
  readSnapshots : RunMap SqlitePartitionSnapshot

def emptySqliteState : SqliteState :=
  ⟨emptySqliteDatabase, ∅, ∅⟩

namespace SqliteState

def invalidateRead (state : SqliteState) (runId : RunId) : SqliteState :=
  { state with readSnapshots := state.readSnapshots.erase runId }

def invalidate (state : SqliteState) (runId : RunId) : SqliteState :=
  { state with
    checkpoints := state.checkpoints.erase runId
    readSnapshots := state.readSnapshots.erase runId }

def invalidateAll (state : SqliteState) : SqliteState :=
  { state with checkpoints := ∅, readSnapshots := ∅ }

def publish (state : SqliteState) (checkpoint : SqliteStorageCheckpoint) : SqliteState :=
  { state with checkpoints := state.checkpoints.insert checkpoint.runId checkpoint }

end SqliteState

def classifyJournalMethodFailure (operation : JournalStoreOperation) :
    JournalStoreFailure → JournalStoreFailure
  | .journalHistoryCorruption _ detail journalPartition runId =>
      .journalHistoryCorruption operation detail journalPartition runId
  | .journalStorageUnavailable _ detail => .journalStorageUnavailable operation detail
  | failure => failure

/-- Where an operation is cut short, if it is. -/
inductive SqliteCut where
  | completes
  | failsBeforeCommit
  | failsAfterCommit
deriving DecidableEq

/-- Runs the body of a transaction.  A failed body and a failed commit leave the tables as they
were; a response lost after the commit does not. -/
def withTransaction {Result : Type} (operation : JournalStoreOperation) (cut : SqliteCut)
    (database : SqliteDatabase)
    (body : Except JournalStoreFailure (Result × SqliteDatabase)) :
    Except JournalStoreFailure Result × SqliteDatabase :=
  match body with
  | .error failure => (.error (classifyJournalMethodFailure operation failure), database)
  | .ok (result, next) =>
      match cut with
      | .completes => (.ok result, next)
      | .failsBeforeCommit =>
          (.error (.journalStorageUnavailable operation "failed before commit"), database)
      | .failsAfterCommit =>
          (.error (.journalStorageUnavailable operation "failed after commit"), next)

section Operations

variable (kernel : HistoryKernel) (platform : SqlitePlatform)

def readCompletionFor (database : SqliteDatabase) (runId : RunId) :
    Except JournalStoreFailure RunCompletionInspection :=
  (sqliteReadCompletion kernel platform database runId).mapError
    (classifyJournalMethodFailure .readCompletion)

def sqliteBeginRunBody (database : SqliteDatabase) (runId : RunId) (beginning : RunBeginning) :
    Except JournalStoreFailure (JournalRecord × SqliteDatabase) := do
  match ← readCompletionFor kernel platform database runId with
  | .completedRun _ _ => .error (.workflowRunAlreadyBegan 1 runId)
  | .noCompletion _ =>
      let existing ← loadRunRecords kernel platform database runId .beginRun
      let record ← decideWorkflowRunBeginning existing runId beginning
      let next ← database.insertRow .beginRun (sqliteRowOf platform record)
      return (record, next)

def sqliteBeginRun (state : SqliteState) (cut : SqliteCut) (runId : RunId)
    (beginning : RunBeginning) : Except JournalStoreFailure JournalAnswer × SqliteState :=
  let (result, database) := withTransaction .beginRun cut state.database
    (sqliteBeginRunBody kernel platform state.database runId beginning)
  (result.map .record, { state with database }.invalidate runId)

/-- The checkpoint of a Run, from the cache when it is about the partition that holds the Run. -/
def loadCurrentSnapshot (state : SqliteState) (runId : RunId)
    (operation : JournalStoreOperation) : Except JournalStoreFailure SqliteStorageCheckpoint := do
  let journalPartition ← locateRunPartition platform state.database runId operation
  let load : Except JournalStoreFailure SqliteStorageCheckpoint := do
    let snapshot ← loadRunSnapshotForPartition kernel platform state.database journalPartition
      runId operation
    return snapshot.checkpoint
  match state.checkpoints.lookup runId with
  | none => load
  | some current => if current.journalPartition = journalPartition then .ok current else load

/-- Rejects an append to a terminated or archived Run.  A Cold checkpoint has a terminal
position. -/
def decideSqliteAppendCheckpoint (checkpoint : SqliteStorageCheckpoint) (runId : RunId) :
    Except JournalStoreFailure Unit :=
  match checkpoint.journalPartition, checkpoint.terminalPosition with
  | .cold, terminalPosition =>
      .error (.workflowRunAlreadyTerminated runId (terminalPosition.getD 0))
  | .hot, some terminalPosition => .error (.workflowRunAlreadyTerminated runId terminalPosition)
  | .hot, none => .ok ()

/-- Outcome of an append before it crosses the insert boundary. -/
inductive SqliteAppendDecision where
  | replay (record : JournalRecord)
  | contradiction (failure : JournalStoreFailure)
  | insert (position : JournalPosition)
deriving DecidableEq

def decideSqliteAppend (checkpoint : SqliteStorageCheckpoint) (runId : RunId)
    (key : JournalRecordKey) (event : AppendableWorkflowJournalEvent) : SqliteAppendDecision :=
  match checkpoint.recordsByKey.lookup key with
  | none => .insert (checkpoint.decodedThrough.getD 0 + 1)
  | some evidence =>
      if evidence.event = event.event then
        .replay { event := event.event, key, position := evidence.position, runId }
      else .contradiction (.journalStoreContradiction runId key evidence.position)

/-- Transaction of `append`. -/
def sqliteAppendBody (state : SqliteState) (runId : RunId) (key : JournalRecordKey)
    (event : AppendableWorkflowJournalEvent) :
    Except JournalStoreFailure ((SqliteStorageCheckpoint × JournalRecord) × SqliteDatabase) := do
  match ← readCompletionFor kernel platform state.database runId with
  | .completedRun completion _ =>
      .error (.workflowRunAlreadyTerminated runId completion.terminatedAt)
  | .noCompletion _ =>
      let checkpoint ← loadCurrentSnapshot kernel platform state runId .append
      decideSqliteAppendCheckpoint checkpoint runId
      match decideSqliteAppend checkpoint runId key event with
      | .contradiction failure => .error failure
      | .replay record => return ((checkpoint, record), state.database)
      | .insert position =>
          let record : JournalRecord := { event := event.event, key, position, runId }
          let next ← state.database.insertRow .append (sqliteRowOf platform record)
          return ((appendSqliteStorageCheckpoint checkpoint record, record), next)

/-- Append one ordinary fact; the checkpoint is published only after the commit. -/
def sqliteAppend (state : SqliteState) (cut : SqliteCut) (runId : RunId) (key : JournalRecordKey)
    (event : AppendableWorkflowJournalEvent) :
    Except JournalStoreFailure JournalAnswer × SqliteState :=
  let (result, database) := withTransaction .append cut state.database
    (sqliteAppendBody kernel platform state runId key event)
  match result with
  | .ok (checkpoint, record) =>
      (.ok (.record record), ({ state with database }.publish checkpoint).invalidateRead runId)
  | .error failure => (.error failure, { state with database }.invalidate runId)

/-- Transaction of `read`. -/
def sqliteReadBody (state : SqliteState) (runId : RunId) :
    Except JournalStoreFailure SqlitePartitionSnapshot := do
  requireAvailable kernel platform state.database runId
  let journalPartition ← locateRunPartition platform state.database runId .read
  let load := loadRunSnapshotForPartition kernel platform state.database journalPartition runId
    .read
  let fromCheckpoint : Except JournalStoreFailure SqlitePartitionSnapshot :=
    match state.checkpoints.lookup runId with
    | none => load
    | some checkpoint =>
        if checkpoint.journalPartition = journalPartition then
          .ok (snapshotFromSqliteStorageCheckpoint checkpoint)
        else load
  match state.readSnapshots.lookup runId with
  | none => fromCheckpoint
  | some cached =>
      if cached.checkpoint.journalPartition = journalPartition then .ok cached else fromCheckpoint

def sqliteRead (state : SqliteState) (cut : SqliteCut) (runId : RunId) :
    Except JournalStoreFailure JournalAnswer × SqliteState :=
  let (result, database) := withTransaction .read cut state.database
    ((sqliteReadBody kernel platform state runId).map fun snapshot => (snapshot, state.database))
  match result with
  | .ok snapshot =>
      let published := { state with database }.publish snapshot.checkpoint
      (.ok (.records snapshot.records),
        { published with readSnapshots := published.readSnapshots.insert runId snapshot })
  | .error failure => (.error failure, { state with database }.invalidate runId)

def sqliteTerminateRunBody (database : SqliteDatabase) (runId : RunId)
    (disposition : RunTerminationDisposition) (evidence : RunFinalityEvidence)
    (now : RunCompletionTime) : Except JournalStoreFailure (JournalRecord × SqliteDatabase) := do
  match ← readCompletionFor kernel platform database runId with
  | .completedRun completion _ =>
      .error (.workflowRunAlreadyTerminated runId completion.terminatedAt)
  | .noCompletion _ =>
      let cold ← hasPartitionRows platform database .cold runId .terminateRun
      let records ← loadRunRecords kernel platform database runId .terminateRun
      let record ← decideWorkflowRunTermination kernel records runId disposition evidence
      if cold then
        .error (.journalHistoryCorruption .terminateRun
          "cold partition contains nonterminal history" .cold runId)
      else
        let inserted ← database.insertRow .terminateRun (sqliteRowOf platform record)
        let next ← saveCompletion kernel platform inserted runId (records ++ [record]) (.known now)
        return (record, next)

def sqliteTerminateRun (state : SqliteState) (cut : SqliteCut) (runId : RunId)
    (disposition : RunTerminationDisposition) (evidence : RunFinalityEvidence)
    (now : RunCompletionTime) : Except JournalStoreFailure JournalAnswer × SqliteState :=
  let (result, database) := withTransaction .terminateRun cut state.database
    (sqliteTerminateRunBody kernel platform state.database runId disposition evidence now)
  (result.map .record, { state with database }.invalidate runId)

def retirementCopyPreservesBytes (database : SqliteDatabase) (runId : RunId) : Bool :=
  let hot := database.hot.filter (·.runId = runId)
  let cold := database.cold.filter (·.runId = runId)
  hot.length = cold.length && hot ≠ [] && hot.all (· ∈ cold) && cold.all (· ∈ hot)

def retireHot (database : SqliteDatabase) (runId : RunId) :
    Except JournalStoreFailure (JournalTerminalHistoryRetirement × SqliteDatabase) := do
  let records ← loadPartitionRecords platform database .hot runId .retireTerminalRun
  match decideJournalPartitionHistory kernel .hot runId records with
  | .invalidPartitionHistory detail =>
      .error (.journalHistoryCorruption .retireTerminalRun detail .hot runId)
  | .validPartitionHistory false => .error (.journalHistoryNotTerminal runId)
  | .validPartitionHistory true =>
      let copied := { database with
        cold := database.cold ++ database.hot.filter (·.runId = runId) }
      if retirementCopyPreservesBytes copied runId then
        return (.retired runId,
          { copied with hot := copied.hot.filter (·.runId ≠ runId) })
      else .error (.journalDataCorruption .retireTerminalRun
        "terminal history copy did not preserve every persisted byte")

def retireCold (database : SqliteDatabase) (runId : RunId) :
    Except JournalStoreFailure (JournalTerminalHistoryRetirement × SqliteDatabase) := do
  let records ← loadPartitionRecords platform database .cold runId .retireTerminalRun
  match decideJournalPartitionHistory kernel .cold runId records with
  | .invalidPartitionHistory detail =>
      .error (.journalHistoryCorruption .retireTerminalRun detail .cold runId)
  | .validPartitionHistory _ => return (.alreadyRetired runId, database)

def sqliteRetireBody (database : SqliteDatabase) (runId : RunId) :
    Except JournalStoreFailure (JournalTerminalHistoryRetirement × SqliteDatabase) := do
  let hot ← hasPartitionRows platform database .hot runId .retireTerminalRun
  let cold ← hasPartitionRows platform database .cold runId .retireTerminalRun
  let (retirement, moved) ←
    if hot && cold then .error (.journalPartitionContradiction runId)
    else if cold then retireCold kernel platform database runId
    else if !hot then .error (.workflowRunNotBegan runId)
    else retireHot kernel platform database runId
  let _ ← readCompletionFor kernel platform moved runId
  return (retirement, refreshSqliteArchiveAccounting moved runId)

def sqliteRetireTerminalRun (state : SqliteState) (cut : SqliteCut) (runId : RunId) :
    Except JournalStoreFailure JournalAnswer × SqliteState :=
  let (result, database) := withTransaction .retireTerminalRun cut state.database
    (sqliteRetireBody kernel platform state.database runId)
  (result.map .retirement, { state with database }.invalidate runId)

def completedRunRecoveryFailure (runId : RunId) (target : TrackerTarget) :
    RunCompletionInspection → Option JournalStoreFailure
  | .noCompletion _ => none
  | .completedRun completion _ =>
      if taskTrackerTargetKey completion.target ≠ taskTrackerTargetKey target then
        some (.workflowRunTargetMismatch completion.target target runId)
      else some (.workflowRunAlreadyTerminated runId completion.terminatedAt)

def sqliteRecoverBody (database : SqliteDatabase) (runId : RunId) (target : TrackerTarget) :
    Except JournalStoreFailure (SqliteStorageCheckpoint × JournalRecord) := do
  let completion ← readCompletionFor kernel platform database runId
  match completedRunRecoveryFailure runId target completion with
  | some failure => .error failure
  | none =>
      let snapshot ← loadRunSnapshot kernel platform database runId .readRunForRecovery
      let beginning ← readRecoverableRunBeginning snapshot.records runId target
      return (snapshot.checkpoint, beginning)

def sqliteReadRunForRecovery (state : SqliteState) (cut : SqliteCut) (runId : RunId)
    (target : TrackerTarget) : Except JournalStoreFailure JournalRecord × SqliteState :=
  let (result, database) := withTransaction .readRunForRecovery cut state.database
    ((sqliteRecoverBody kernel platform state.database runId target).map
      fun recovered => (recovered, state.database))
  match result with
  | .ok (checkpoint, beginning) =>
      (.ok beginning, ({ state with database }.publish checkpoint).invalidateRead runId)
  -- what was published before the beginning was checked is dropped again
  | .error failure => (.error failure, { state with database }.invalidate runId)

/-- A defect that a scan reports. -/
inductive JournalAuditIssue where
  | boundary (detail : String) (journalPartition : JournalPartition) (rowOrdinal : Nat)
      (runId : Option RunId)
  | semantic (detail : String) (journalPartition : JournalPartition) (runId : RunId)
deriving DecidableEq

def JournalAuditIssue.runId : JournalAuditIssue → Option RunId
  | boundary _ _ _ runId => runId
  | semantic _ _ runId => some runId

structure JournalRunRecords where
  runId : RunId
  records : List JournalRecord
deriving DecidableEq

structure SqlitePartitionScan where
  issues : List JournalAuditIssue
  rowRunIds : List RunId
  runs : List JournalRunRecords

def scanOrder (left right : SqliteRow) : Bool :=
  left.runId.value < right.runId.value ||
    (left.runId.value = right.runId.value && left.position ≤ right.position)

/-- Reads and validates every row of a partition. -/
def scanPartition (database : SqliteDatabase) (journalPartition : JournalPartition) :
    SqlitePartitionScan :=
  let scanned := ((database.rows journalPartition).mergeSort scanOrder).map fun row =>
    (row, decodeRow platform row)
  let boundaryIssues := scanned.zipIdx.filterMap fun ((row, decoded), index) =>
    match decoded with
    | .ok _ => none
    | .error detail =>
        some (JournalAuditIssue.boundary detail journalPartition (index + 1)
          (decodeRunId platform row.runId))
  let records := scanned.filterMap fun (_, decoded) => decoded.toOption
  let runs := (records.map (·.runId)).eraseDups.map fun runId =>
    { runId, records := records.filter (·.runId = runId) : JournalRunRecords }
  let semanticIssues := runs.filterMap fun run =>
    match decideJournalPartitionHistory kernel journalPartition run.runId run.records with
    | .invalidPartitionHistory detail =>
        some (JournalAuditIssue.semantic detail journalPartition run.runId)
    | .validPartitionHistory _ => none
  { issues := boundaryIssues ++ semanticIssues
    rowRunIds := scanned.filterMap fun (row, _) => decodeRunId platform row.runId
    runs }

/-- The checkpoint of the Run that a scan retains, if it is among the valid ones. -/
def retainedCheckpoint (database : SqliteDatabase) (scan : SqlitePartitionScan)
    (retainRunId : Option RunId) :
    Except JournalStoreFailure (Option SqliteStorageCheckpoint) :=
  let invalidRunIds := scan.issues.filterMap (·.runId)
  match scan.runs.find? fun run => some run.runId = retainRunId && run.runId ∉ invalidRunIds with
  | none => .ok none
  | some selected => do
      let cold ← hasPartitionRows platform database .cold selected.runId .scanHot
      if cold then .error (.journalPartitionContradiction selected.runId)
      else
        let evidence ← makeSqliteDecodedHistoryEvidence selected.records .hot selected.runId .scanHot
        return some
          { decodedThrough := evidence.decodedThrough
            journalPartition := .hot
            recordsByKey := evidence.recordsByKey
            runId := selected.runId
            terminalPosition := evidence.terminalPosition }

structure JournalScan where
  issues : List JournalAuditIssue
  runs : List JournalRunRecords

def sqliteScanHot (state : SqliteState) (cut : SqliteCut) (retainRunId : Option RunId) :
    Except JournalStoreFailure JournalScan × SqliteState :=
  let cleared := state.invalidateAll
  let scan := scanPartition kernel platform state.database .hot
  let invalidRunIds := scan.issues.filterMap (·.runId)
  match retainedCheckpoint platform state.database scan retainRunId with
  | .error failure => (.error (classifyJournalMethodFailure .scanHot failure), cleared)
  | .ok retained =>
      match cut with
      | .completes =>
          (.ok ⟨scan.issues, scan.runs.filter fun run => run.runId ∉ invalidRunIds⟩,
            match retained with
            | none => cleared
            | some checkpoint => cleared.publish checkpoint)
      | _ => (.error (.journalStorageUnavailable .scanHot "failed scan"), cleared)

def auditCompletions (database : SqliteDatabase) (scan : JournalScan) :
    Except JournalStoreFailure (List RunCompletionInspection) := do
  let invalidRunIds := scan.issues.map (·.runId)
  let established := database.completions.keys.filter fun runId => some runId ∉ invalidRunIds
  let receipts ← established.mapM (readCompletionFor kernel platform database)
  let checked := scan.runs.filter fun run => some run.runId ∉ invalidRunIds
  let _ ← checked.mapM fun run => do
    match ← readCompletionFor kernel platform database run.runId with
    | .noCompletion _ => return ()
    | .completedRun completion _ =>
        let expected ← verifiedRunCompletion kernel run.runId run.records completion.timing
        if expected = some completion then return ()
        else .error (completionContradiction run.runId)
  return receipts.filter fun
    | .noCompletion _ => false
    | .completedRun _ _ => true

/-- Audit both partitions; nothing stays cached. -/
def sqliteAuditAll (state : SqliteState) (cut : SqliteCut) :
    Except JournalStoreFailure (JournalScan × List RunCompletionInspection) × SqliteState :=
  let body : Except JournalStoreFailure
      ((JournalScan × List RunCompletionInspection) × SqliteDatabase) := do
    let hot := scanPartition kernel platform state.database .hot
    let cold := scanPartition kernel platform state.database .cold
    match hot.rowRunIds.find? (· ∈ cold.rowRunIds) with
    | some runId => .error (.journalPartitionContradiction runId)
    | none =>
        let audit : JournalScan := ⟨hot.issues ++ cold.issues, hot.runs ++ cold.runs⟩
        let completions ← auditCompletions kernel platform state.database audit
        return ((audit, completions), state.database)
  let (result, database) := withTransaction .auditAll cut state.database body
  (result, { state with database }.invalidateAll)

def deleteArchivedRows (database : SqliteDatabase) (runId : RunId) (now : Nat) :
    Option RunHistoryDeletionReason → Except JournalStoreFailure SqliteDatabase
  | none => .ok database
  | some reason => do
      let removed := { database with cold := database.cold.filter (·.runId ≠ runId) }
      let marked ← markDeleted platform removed runId ⟨reason, now⟩
      return { marked with archive := marked.archive.erase runId }

def removeArchivedHistory (database : SqliteDatabase) (runId : RunId) (now : Nat)
    (reasonOf : RunCompletion → Option RunHistoryDeletionReason) :
    Except JournalStoreFailure (Unit × SqliteDatabase) := do
  match ← readCompletionFor kernel platform database runId with
  | .noCompletion _ =>
      .error (.journalDataCorruption .maintainArchive "archive candidate lacks completion")
  | .completedRun _ (.deleted _) => return ((), database)
  | .completedRun completion .available =>
      let records ← loadPartitionRecords platform database .cold runId .maintainArchive
      match decideJournalPartitionHistory kernel .cold runId records with
      | .invalidPartitionHistory detail =>
          .error (.journalHistoryCorruption .maintainArchive detail .cold runId)
      | .validPartitionHistory _ =>
          let next ← deleteArchivedRows platform database runId now (reasonOf completion)
          return ((), next)

def sqliteRemoveArchivedBody (database : SqliteDatabase) (candidate : ArchiveRetentionCandidate)
    (now : Nat) : Except JournalStoreFailure (Unit × SqliteDatabase) :=
  let savedBytes := (database.archive.entries.map (·.2.savedBytes)).sum
  removeArchivedHistory kernel platform database candidate.runId now fun completion =>
    retentionReason { candidate with baseline := retentionBaseline completion } now savedBytes

/-- Remove one archived history; a lost acknowledgement is reconciled with what was committed. -/
def sqliteRemoveArchived (state : SqliteState) (cut : SqliteCut)
    (candidate : ArchiveRetentionCandidate) (now : Nat) :
    Except JournalStoreFailure Unit × SqliteState :=
  let (result, database) := withTransaction .maintainArchive cut state.database
    (sqliteRemoveArchivedBody kernel platform state.database candidate now)
  let next := { state with database }.invalidate candidate.runId
  match result with
  | .ok () => (.ok (), next)
  | .error failure =>
      match readCompletionFor kernel platform database candidate.runId with
      | .ok (.completedRun _ (.deleted _)) => (.ok (), next)
      | _ => (.error failure, next)

def sqliteStoreStep (request : JournalRequest) (cut : SqliteCut) (state : SqliteState) :
    Except JournalStoreFailure JournalAnswer × SqliteState :=
  match request with
  | .beginRun runId beginning => sqliteBeginRun kernel platform state cut runId beginning
  | .append runId key event => sqliteAppend kernel platform state cut runId key event
  | .read runId => sqliteRead kernel platform state cut runId
  | .terminateRun runId disposition evidence now =>
      sqliteTerminateRun kernel platform state cut runId disposition evidence now
  | .retireTerminalRun runId => sqliteRetireTerminalRun kernel platform state cut runId

/-- Requests of the SQLite store.  A retention pass yields between its removals, so one removal is
a request. -/
inductive SqliteRequest where
  | store (request : JournalRequest)
  | readCompletion (runId : RunId)
  | readRunForRecovery (runId : RunId) (target : TrackerTarget)
  | scanHot (retainRunId : Option RunId)
  | auditAll
  | removeArchived (candidate : ArchiveRetentionCandidate) (now : Nat)

inductive SqliteAnswer where
  | store (answer : JournalAnswer)
  | completion (inspection : RunCompletionInspection)
  | recovered (beginning : JournalRecord)
  | scan (scan : JournalScan)
  | audit (scan : JournalScan) (completions : List RunCompletionInspection)
  | archiveUnit

def sqliteStep (request : SqliteRequest × SqliteCut) (state : SqliteState) :
    Except JournalStoreFailure SqliteAnswer × SqliteState :=
  match request.1 with
  | .store journalRequest =>
      let (result, next) := sqliteStoreStep kernel platform journalRequest request.2 state
      (result.map .store, next)
  | .readCompletion runId =>
      let (result, database) := withTransaction .readCompletion request.2 state.database
        ((readCompletionFor kernel platform state.database runId).map
          fun inspection => (inspection, state.database))
      (result.map .completion, { state with database })
  | .readRunForRecovery runId target =>
      let (result, next) := sqliteReadRunForRecovery kernel platform state request.2 runId target
      (result.map .recovered, next)
  | .scanHot retainRunId =>
      let (result, next) := sqliteScanHot kernel platform state request.2 retainRunId
      (result.map .scan, next)
  | .auditAll =>
      let (result, next) := sqliteAuditAll kernel platform state request.2
      (result.map fun (scan, completions) => .audit scan completions, next)
  | .removeArchived candidate now =>
      let (result, next) := sqliteRemoveArchived kernel platform state request.2 candidate now
      (result.map fun _ => .archiveUnit, next)

end Operations

end Dalph
