import Dalph.Foundation.Machine
import Dalph.WorkflowJournal.StoredRun
import Dalph.WorkflowJournal.EventCodec

/-!
# The memory journal store

Five maps keep the records of hot and cold Runs, the completions of terminated Runs, the saved
bytes of archived Runs and the markers of deleted histories.  Every operation is one transition of
the whole state.
-/

namespace Dalph

structure MemoryJournalState where
  archiveBytes : RunMap Nat
  deletions : RunMap RunHistoryDeletion
  completions : RunMap RunCompletion
  hotRecordsByRun : RunMap (List JournalRecord)
  coldRecordsByRun : RunMap (List JournalRecord)

def emptyMemoryJournalState : MemoryJournalState :=
  ⟨∅, ∅, ∅, ∅, ∅⟩

/-- Requests of the memory store.  A pass yields between its units, so one unit is a request too. -/
inductive MemoryRequest where
  | store (request : JournalRequest)
  | maintainArchive (now : Nat) (clock : Nat → Nat)
  | removeArchived (candidate : ArchiveRetentionCandidate) (now : Nat)

section Operations

variable (kernel : HistoryKernel) (encode : WorkflowJournalEvent → EncodedJournalEvent)

def MemoryJournalState.recordsOf (state : MemoryJournalState) (runId : RunId) :
    List JournalRecord :=
  ((state.hotRecordsByRun.lookup runId).or (state.coldRecordsByRun.lookup runId)).getD []

def MemoryJournalState.inBothPartitions (state : MemoryJournalState) (runId : RunId) : Bool :=
  (state.hotRecordsByRun.lookup runId).isSome && (state.coldRecordsByRun.lookup runId).isSome

def MemoryJournalState.partitionOf (state : MemoryJournalState) (runId : RunId) :
    JournalPartition :=
  if (state.coldRecordsByRun.lookup runId).isSome then .cold else .hot

def endpointCompletion (runId : RunId) (records : List JournalRecord) (receipt : RunCompletion) :
    Option RunCompletion :=
  let publication :=
    match receipt.publication with
    | .recordedPublication _ recordedAt => records[recordedAt - 1]?
    | .noRecordedPublication => none
  compactRunCompletion runId
    ([records.head?, publication, records.getLast?].filterMap id) receipt.timing

/-- Reads bounded metadata of a known completion. -/
def decideMemoryCompletion (state : MemoryJournalState) (runId : RunId)
    (operation : JournalStoreOperation) : Except JournalStoreFailure RunCompletionInspection :=
  if state.inBothPartitions runId then .error (.journalPartitionContradiction runId)
  else
    let records := state.recordsOf runId
    match state.completions.lookup runId with
    | none =>
        if endsTerminated records then
          match decideJournalPartitionHistory kernel (state.partitionOf runId) runId records with
          | .invalidPartitionHistory detail =>
              .error (.journalHistoryCorruption operation detail (state.partitionOf runId) runId)
          | .validPartitionHistory _ => .ok (.noCompletion runId)
        else .ok (.noCompletion runId)
    | some receipt =>
        match state.deletions.lookup runId with
        | some deletion =>
            if (state.hotRecordsByRun.lookup runId).isSome ||
                (state.coldRecordsByRun.lookup runId).isSome then
              .error (.journalDataCorruption operation
                s!"deleted history still has rows for {runId.value}")
            else .ok (.completedRun receipt (.deleted deletion))
        | none =>
            if endpointCompletion runId records receipt = some receipt then
              .ok (.completedRun receipt .available)
            else .error (.journalDataCorruption operation
              s!"completion/history contradiction for {runId.value}")

def memoryBeginRun (state : MemoryJournalState) (runId : RunId) (beginning : RunBeginning) :
    Except JournalStoreFailure JournalAnswer × MemoryJournalState :=
  match decideMemoryCompletion kernel state runId .beginRun with
  | .error failure => (.error failure, state)
  | .ok (.completedRun _ _) => (.error (.workflowRunAlreadyBegan 1 runId), state)
  | .ok (.noCompletion _) =>
      if state.inBothPartitions runId then (.error (.journalPartitionContradiction runId), state)
      else
        match decideWorkflowRunBeginning (state.recordsOf runId) runId beginning with
        | .error failure => (.error failure, state)
        | .ok record =>
            (.ok (.record record),
              { state with hotRecordsByRun := state.hotRecordsByRun.insert runId [record] })

/-- Append to a Run that is neither terminated nor archived; an exact repetition is answered from
the stored record. -/
def existingMemoryAppendTransition (state : MemoryJournalState) (runId : RunId)
    (key : JournalRecordKey) (event : AppendableWorkflowJournalEvent)
    (records : List JournalRecord) : Option (Except JournalStoreFailure JournalAnswer) :=
  match records.find? (·.event.isRunTerminated) with
  | some terminated => some (.error (.workflowRunAlreadyTerminated runId terminated.position))
  | none =>
      if (state.coldRecordsByRun.lookup runId).isSome then
        some (.error (.journalHistoryCorruption .append
          "cold partition contains nonterminal history" .cold runId))
      else
        match records.find? (·.key = key) with
        | none => none
        | some existing =>
            if existing.event = event.event then some (.ok (.record existing))
            else some (.error (.journalStoreContradiction runId key existing.position))

/-- Append one ordinary fact. -/
def memoryAppendTransition (state : MemoryJournalState) (runId : RunId) (key : JournalRecordKey)
    (event : AppendableWorkflowJournalEvent) :
    Except JournalStoreFailure JournalAnswer × MemoryJournalState :=
  match decideMemoryCompletion kernel state runId .append with
  | .error failure => (.error failure, state)
  | .ok (.completedRun completion _) =>
      (.error (.workflowRunAlreadyTerminated runId completion.terminatedAt), state)
  | .ok (.noCompletion _) =>
      if state.inBothPartitions runId then (.error (.journalPartitionContradiction runId), state)
      else
        let records := state.recordsOf runId
        match existingMemoryAppendTransition state runId key event records with
        | some answer => (answer, state)
        | none =>
            let record : JournalRecord :=
              { event := event.event, key, position := records.length + 1, runId }
            (.ok (.record record),
              { state with
                hotRecordsByRun := state.hotRecordsByRun.insert runId (records ++ [record]) })

/-- Read one Run.  A cold history is decided before it is returned; the source keeps a positive
decision for the same immutable root, which cannot change the answer. -/
def memoryRead (state : MemoryJournalState) (runId : RunId) :
    Except JournalStoreFailure JournalAnswer :=
  let available : Except JournalStoreFailure JournalAnswer :=
    if state.inBothPartitions runId then .error (.journalPartitionContradiction runId)
    else
      match state.coldRecordsByRun.lookup runId with
      | none => .ok (.records ((state.hotRecordsByRun.lookup runId).getD []))
      | some cold =>
          match decideJournalPartitionHistory kernel .cold runId cold with
          | .invalidPartitionHistory detail =>
              .error (.journalHistoryCorruption .read detail .cold runId)
          | .validPartitionHistory _ => .ok (.records cold)
  if (state.deletions.lookup runId).isSome then
    match decideMemoryCompletion kernel state runId .read with
    | .error failure => .error failure
    | .ok (.completedRun completion (.deleted deletion)) =>
        .error (.journalHistoryDeleted completion deletion)
    | .ok _ => available
  else available

/-- Terminate a Run; the terminal record and its completion become visible together. -/
def memoryTerminationTransition (state : MemoryJournalState) (runId : RunId)
    (disposition : RunTerminationDisposition) (evidence : RunFinalityEvidence)
    (timing : RunCompletionTiming) :
    Except JournalStoreFailure JournalAnswer × MemoryJournalState :=
  match decideMemoryCompletion kernel state runId .terminateRun with
  | .error failure => (.error failure, state)
  | .ok (.completedRun completion _) =>
      (.error (.workflowRunAlreadyTerminated runId completion.terminatedAt), state)
  | .ok (.noCompletion _) =>
      if state.inBothPartitions runId then (.error (.journalPartitionContradiction runId), state)
      else
        let records := state.recordsOf runId
        match decideWorkflowRunTermination kernel records runId disposition evidence with
        | .error failure => (.error failure, state)
        | .ok record =>
            if (state.coldRecordsByRun.lookup runId).isSome then
              (.error (.journalHistoryCorruption .terminateRun
                "cold partition contains nonterminal history" .cold runId), state)
            else
              let full := records ++ [record]
              match decideJournalPartitionHistory kernel .hot runId full with
              | .invalidPartitionHistory detail =>
                  (.error (.journalDataCorruption .terminateRun detail), state)
              | .validPartitionHistory _ =>
                  match compactRunCompletion runId full timing with
                  | none =>
                      (.error (.journalDataCorruption .terminateRun "missing terminal metadata"),
                        state)
                  | some completion =>
                      (.ok (.record record),
                        { state with
                          hotRecordsByRun := state.hotRecordsByRun.insert runId full
                          completions := state.completions.insert runId completion })

def savedMemoryArchiveBytes (records : List JournalRecord) : Nat :=
  (records.map fun record =>
    let encoded := encode record.event
    record.runId.value.utf8ByteSize + record.key.value.utf8ByteSize +
      encoded.kind.value.utf8ByteSize + encoded.payloadJson.utf8ByteSize + 16).sum

def memoryRetirementTransition (state : MemoryJournalState) (runId : RunId) :
    Except JournalStoreFailure JournalAnswer × MemoryJournalState :=
  match state.hotRecordsByRun.lookup runId, state.coldRecordsByRun.lookup runId with
  | some _, some _ => (.error (.journalPartitionContradiction runId), state)
  | none, some cold =>
      match decideJournalPartitionHistory kernel .cold runId cold with
      | .invalidPartitionHistory detail =>
          (.error (.journalHistoryCorruption .retireTerminalRun detail .cold runId), state)
      | .validPartitionHistory _ => (.ok (.retirement (.alreadyRetired runId)), state)
  | none, none => (.error (.workflowRunNotBegan runId), state)
  | some hot, none =>
      match decideJournalPartitionHistory kernel .hot runId hot with
      | .invalidPartitionHistory detail =>
          (.error (.journalHistoryCorruption .retireTerminalRun detail .hot runId), state)
      | .validPartitionHistory false => (.error (.journalHistoryNotTerminal runId), state)
      | .validPartitionHistory true =>
          (.ok (.retirement (.retired runId)),
            { state with
              coldRecordsByRun := state.coldRecordsByRun.insert runId hot
              hotRecordsByRun := state.hotRecordsByRun.erase runId
              archiveBytes :=
                state.archiveBytes.insert runId (savedMemoryArchiveBytes encode hot) })

def memoryRetireTerminalRun (state : MemoryJournalState) (runId : RunId) :
    Except JournalStoreFailure JournalAnswer × MemoryJournalState :=
  match decideMemoryCompletion kernel state runId .retireTerminalRun with
  | .error failure => (.error failure, state)
  | .ok _ => memoryRetirementTransition kernel encode state runId

def MemoryJournalState.savedBytes (state : MemoryJournalState) : Nat :=
  (state.archiveBytes.entries.map (·.2)).sum

def memoryArchiveSnapshot (state : MemoryJournalState) (now : Nat) : ArchiveRetentionSnapshot :=
  { expiredBacklog := (state.archiveBytes.entries.filter fun entry =>
      (state.completions.lookup entry.1).any fun completion =>
        retentionBaseline completion + archiveAgeMillis ≤ now).length
    savedBytes := state.savedBytes
    candidates := state.archiveBytes.entries.filterMap fun entry =>
      (state.completions.lookup entry.1).map fun completion =>
        ⟨entry.1, retentionBaseline completion, entry.2⟩ }

/-- Drop the records of a Run for the given reason, if there is one. -/
def MemoryJournalState.deleteArchived (state : MemoryJournalState) (runId : RunId) (now : Nat) :
    Option RunHistoryDeletionReason → MemoryJournalState
  | none => state
  | some reason =>
      { state with
        archiveBytes := state.archiveBytes.erase runId
        deletions := state.deletions.insert runId ⟨reason, now⟩
        coldRecordsByRun := state.coldRecordsByRun.erase runId }

/-- Remove one archived history when the policy still asks for it. -/
def memoryRemoveArchived (candidate : ArchiveRetentionCandidate) (now : Nat)
    (state : MemoryJournalState) : Except JournalStoreFailure Unit × MemoryJournalState :=
  match decideMemoryCompletion kernel state candidate.runId .maintainArchive with
  | .error failure => (.error failure, state)
  | .ok (.noCompletion _) => (.ok (), state)
  | .ok (.completedRun _ (.deleted _)) => (.ok (), state)
  | .ok (.completedRun completion .available) =>
      match state.coldRecordsByRun.lookup candidate.runId with
      | none => (.ok (), state)
      | some records =>
          match decideJournalPartitionHistory kernel .cold candidate.runId records with
          | .invalidPartitionHistory detail =>
              (.error (.journalHistoryCorruption .maintainArchive detail .cold candidate.runId),
                state)
          | .validPartitionHistory _ =>
              let reason :=
                retentionReason { candidate with baseline := retentionBaseline completion } now
                  state.savedBytes
              (.ok (), state.deleteArchived candidate.runId now reason)

def memoryStoreStep (request : JournalRequest) (state : MemoryJournalState) :
    Except JournalStoreFailure JournalAnswer × MemoryJournalState :=
  match request with
  | .beginRun runId beginning => memoryBeginRun kernel state runId beginning
  | .append runId key event => memoryAppendTransition kernel state runId key event
  | .read runId => (memoryRead kernel state runId, state)
  | .terminateRun runId disposition evidence now =>
      memoryTerminationTransition kernel state runId disposition evidence (.known now)
  | .retireTerminalRun runId => memoryRetireTerminalRun kernel encode state runId

def memoryStep (request : MemoryRequest) (state : MemoryJournalState) :
    Except JournalStoreFailure JournalAnswer × MemoryJournalState :=
  match request with
  | .store request => memoryStoreStep kernel encode request state
  | .maintainArchive now clock =>
      let (observation, next) :=
        archiveRetentionPass memoryArchiveSnapshot (memoryRemoveArchived kernel) now clock state
      (.ok (.archive observation), next)
  | .removeArchived candidate now =>
      let (result, next) := memoryRemoveArchived kernel candidate now state
      (result.map fun _ => .archiveUnit, next)

end Operations

end Dalph
