import Dalph.WorkflowJournal.SqliteCoherence

/-!
# The live journal of one Run

A Run publishes its accepted records from one journal.  Every call holds the publication permit from
its first read of the journal to its answer, so calls never overlap: an interleaving is a sequence
of calls.  Storage keeps the records; it may commit, replay, or fail before or after its commit.
History reconstruction is a parameter: nothing here depends on which records it accepts.
-/

namespace Dalph

/-- An ordinary fact as a call passes it: what it means, and the object that `JSON.stringify`
writes, with its members in the order in which they were set. -/
structure AppendableEventValue where
  fact : AppendableWorkflowJournalEvent
  object : Json

/-- A record as the process holds it, with the object of its event. -/
structure LiveRecord where
  record : JournalRecord
  object : Json

namespace LiveRecord

def json (live : LiveRecord) : Json :=
  .obj [("event", live.object), ("key", .str live.record.key.value),
    ("position", .num live.record.position), ("runId", .str live.record.runId.value)]

def text (live : LiveRecord) : String :=
  live.json.stringify

end LiveRecord

/-- One request to storage and where it is cut short, if it is. -/
def storageCall (kernel : HistoryKernel) (request : JournalRequest) (cut : SqliteCut)
    (run : StoredRun) : Except JournalStoreFailure JournalAnswer × StoredRun :=
  match run.answer kernel request with
  | .error failure => (.error failure, run)
  | .ok (answer, next) =>
      match cut with
      | .completes => (.ok answer, next)
      | .failsBeforeCommit =>
          (.error (.journalStorageUnavailable .append "failed before commit"), run)
      | .failsAfterCommit =>
          (.error (.journalStorageUnavailable .append "failed after commit"), next)

/-- Why a journal stopped publishing. -/
inductive JournalError where
  | journalHistoryInvalid (position : JournalPosition) (issues : List String) (runId : RunId)
  | journalPositionGap (position expectedPosition : JournalPosition) (runId : RunId)
  | journalRecordMismatch (position : JournalPosition) (key : JournalRecordKey) (runId : RunId)
deriving DecidableEq

/-- The published prefix and its last position, or the failure that ended publication. -/
inductive JournalStatus where
  | journalOpen (records : List LiveRecord) (position : JournalPosition)
  | journalFailed (failure : JournalError)

/-- Published status and stored Run. -/
structure LiveJournal where
  status : JournalStatus
  run : StoredRun

inductive JournalCallFailure where
  | inRunJournalRunMismatch (expectedRunId requestedRunId : RunId)
  | journal (failure : JournalError)
  | storage (failure : JournalStoreFailure)

inductive JournalCallAnswer where
  | record (record : LiveRecord)
  | prefixAdvanced (currentPosition expectedPosition : JournalPosition)
  | failed (failure : JournalCallFailure)

/-- History reconstruction as the journal uses it. -/
structure LiveHistory extends HistoryKernel where
  /-- Issues that `advanceWorkflowJournalHistory` finds in the successor of an accepted prefix. -/
  advanceIssues : List JournalRecord → JournalRecord → List String

inductive JournalInitialHistoryInvalid where
  | emptyHistory
  | missingRunBeginning
  | runIdentityMismatch
deriving DecidableEq

section Journal

variable (history : LiveHistory) (runId : RunId)

def makeJournal (historyRunId : RunId) (records : List LiveRecord) (run : StoredRun) :
    Except JournalInitialHistoryInvalid LiveJournal :=
  match records.head?, records.getLast? with
  | some first, some last =>
      if historyRunId ≠ runId || first.record.runId ≠ runId then .error .runIdentityMismatch
      else if first.record.event.isRunBegan then
        .ok ⟨.journalOpen records last.record.position, run⟩
      else .error .missingRunBeginning
  | _, _ => .error .emptyHistory

def failJournal (run : StoredRun) (failure : JournalError) : JournalCallAnswer × LiveJournal :=
  (.failed (.journal failure), ⟨.journalFailed failure, run⟩)

/-- Publishes a record that storage acknowledged, or recognises it as published. -/
def acceptAcknowledgedRecord (records : List LiveRecord) (position : JournalPosition)
    (run : StoredRun) (acknowledged : LiveRecord) : JournalCallAnswer × LiveJournal :=
  let record := acknowledged.record
  if record.position ≤ position then
    let existing := records.find? (·.record.key = record.key)
    if existing.map (·.text) = some acknowledged.text then
      (.record acknowledged, ⟨.journalOpen records position, run⟩)
    else failJournal run (.journalRecordMismatch record.position record.key runId)
  else if record.position ≠ position + 1 then
    failJournal run (.journalPositionGap record.position (position + 1) runId)
  else
    match history.advanceIssues (records.map (·.record)) record with
    | [] =>
        (.record acknowledged,
          ⟨.journalOpen (records ++ [acknowledged]) record.position, run⟩)
    | issue :: rest =>
        failJournal run (.journalHistoryInvalid record.position (issue :: rest) runId)

/-- Appends through storage.  SQLite answers a repetition with the event of the repeating call. -/
def appendStored (records : List LiveRecord) (position : JournalPosition) (run : StoredRun)
    (key : JournalRecordKey) (event : AppendableEventValue) (cut : SqliteCut) :
    JournalCallAnswer × LiveJournal :=
  match storageCall history.toHistoryKernel (.append runId key event.fact) cut run with
  | (.ok (.record record), next) =>
      acceptAcknowledgedRecord history runId records position next ⟨record, event.object⟩
  | (.ok _, next) => (.failed (.storage (.workflowRunNotBegan runId)),
      ⟨.journalOpen records position, next⟩)
  | (.error failure, next) =>
      (.failed (.storage failure), ⟨.journalOpen records position, next⟩)

def liveAppend (requested : RunId) (key : JournalRecordKey) (event : AppendableEventValue)
    (cut : SqliteCut) (journal : LiveJournal) : JournalCallAnswer × LiveJournal :=
  if requested ≠ runId then (.failed (.inRunJournalRunMismatch runId requested), journal)
  else
    match journal.status with
    | .journalFailed failure => (.failed (.journal failure), journal)
    | .journalOpen records position =>
        appendStored history runId records position journal.run key event cut

def appendIfAcceptedPrefixCurrent (requested : RunId) (expectedPosition : JournalPosition)
    (key : JournalRecordKey) (event : AppendableEventValue) (cut : SqliteCut)
    (journal : LiveJournal) : JournalCallAnswer × LiveJournal :=
  if requested ≠ runId then (.failed (.inRunJournalRunMismatch runId requested), journal)
  else
    match journal.status with
    | .journalFailed failure => (.failed (.journal failure), journal)
    | .journalOpen records position =>
        if position ≠ expectedPosition then (.prefixAdvanced position expectedPosition, journal)
        else appendStored history runId records position journal.run key event cut

/-- The first published record that the stored history does not repeat at its offset. -/
def persistedPrefixMismatch : List LiveRecord → List LiveRecord → Option JournalError
  | [], _ => none
  | prior :: _, [] =>
      some (.journalRecordMismatch prior.record.position prior.record.key runId)
  | prior :: rest, stored :: others =>
      if prior.text = stored.text then persistedPrefixMismatch rest others
      else some (.journalRecordMismatch prior.record.position prior.record.key runId)

def acknowledgedTerminationMatches (record : JournalRecord)
    (disposition : RunTerminationDisposition) (evidence : RunFinalityEvidence) : Bool :=
  record.key = workflowRunTerminatedRecordKey && record.runId = runId &&
    record.event = .workflowRunTerminated ⟨disposition, evidence⟩

/-- A terminal write failed: storage is read again before the write is believed lost.  The events
read are written as `object` gives them. -/
def reconcileTermination (records : List LiveRecord) (position : JournalPosition)
    (failure : JournalStoreFailure) (stored : List LiveRecord) :
    JournalCallFailure ⊕ JournalError ⊕ LiveRecord :=
  match history.reductionIssues runId (stored.map (·.record)) with
  | issue :: rest => .inr (.inl (.journalHistoryInvalid (position + 1) (issue :: rest) runId))
  | [] =>
      match persistedPrefixMismatch runId records stored with
      | some mismatch => .inr (.inl mismatch)
      | none =>
          match stored.find? (·.record.key = workflowRunTerminatedRecordKey) with
          | none => .inl (.storage failure)
          | some terminal => .inr (.inr terminal)

/-- The terminal record that storage acknowledged, or the one that a second read found. -/
def terminalRecord (records : List LiveRecord) (position : JournalPosition) (run : StoredRun)
    (disposition : RunTerminationDisposition) (evidence : RunFinalityEvidence)
    (now : RunCompletionTime) (cut readCut : SqliteCut) (object : JournalRecord → Json) :
    (JournalCallFailure ⊕ JournalError ⊕ LiveRecord) × StoredRun :=
  match storageCall history.toHistoryKernel (.terminateRun runId disposition evidence now) cut run
  with
  | (.ok (.record record), next) => (.inr (.inr ⟨record, object record⟩), next)
  | (.ok _, next) => (.inl (.storage (.workflowRunNotBegan runId)), next)
  | (.error failure, next) =>
      match storageCall history.toHistoryKernel (.read runId) readCut next with
      | (.ok (.records stored), read) =>
          (reconcileTermination history runId records position failure
            (stored.map fun record => ⟨record, object record⟩), read)
      | (.ok _, read) => (.inl (.storage (.workflowRunNotBegan runId)), read)
      | (.error unreadable, read) => (.inl (.storage unreadable), read)

def liveTerminate (disposition : RunTerminationDisposition) (evidence : RunFinalityEvidence)
    (now : RunCompletionTime) (cut readCut : SqliteCut) (object : JournalRecord → Json)
    (journal : LiveJournal) : JournalCallAnswer × LiveJournal :=
  match journal.status with
  | .journalFailed failure => (.failed (.journal failure), journal)
  | .journalOpen records position =>
      match terminalRecord history runId records position journal.run disposition evidence now cut
          readCut object with
      | (.inl failure, next) => (.failed failure, ⟨.journalOpen records position, next⟩)
      | (.inr (.inl failure), next) => failJournal next failure
      | (.inr (.inr terminal), next) =>
          if acknowledgedTerminationMatches runId terminal.record disposition evidence then
            acceptAcknowledgedRecord history runId records position next terminal
          else
            failJournal next
              (.journalRecordMismatch terminal.record.position terminal.record.key runId)

/-- A call with everything that storage decides about it: where it is cut short, and how the events
that storage itself writes or reads are written. -/
inductive JournalCall where
  | append (requested : RunId) (key : JournalRecordKey) (event : AppendableEventValue)
      (cut : SqliteCut)
  | appendIfAcceptedPrefixCurrent (requested : RunId) (expectedPosition : JournalPosition)
      (key : JournalRecordKey) (event : AppendableEventValue) (cut : SqliteCut)
  | terminate (disposition : RunTerminationDisposition) (evidence : RunFinalityEvidence)
      (now : RunCompletionTime) (cut readCut : SqliteCut) (object : JournalRecord → Json)

def liveStep (call : JournalCall) (journal : LiveJournal) : JournalCallAnswer × LiveJournal :=
  match call with
  | .append requested key event cut => liveAppend history runId requested key event cut journal
  | .appendIfAcceptedPrefixCurrent requested expectedPosition key event cut =>
      appendIfAcceptedPrefixCurrent history runId requested expectedPosition key event cut journal
  | .terminate disposition evidence now cut readCut object =>
      liveTerminate history runId disposition evidence now cut readCut object journal

def liveAfter (initial : LiveJournal) (calls : List JournalCall) : LiveJournal :=
  (Machine.run (liveStep history runId) initial calls).2

end Journal

end Dalph
