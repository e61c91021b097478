import Dalph.Foundation.SequenceIndex
import Dalph.Workflow.EventObject
import Dalph.WorkflowJournal.Record

/-!
# Record evidence

Indexes over the records of one journal.  Every record is appended to the sequences of the
operations, attempts, tasks, sessions and requests it concerns.  A window shares the indexes of the
evidence it was cut from and shows only the records before its end.  Each query is answered from the
indexes, or from a plain list of records.
-/

namespace Dalph

def operationOf (record : JournalRecord) : Option WorkflowOperation :=
  match record.event with
  | .plannedAttemptReplaced event => some (.recordTaskAttemptPlan event.successorPlan)
  | .resultRecoveryAttemptReplaced event => some (.recordTaskAttemptPlan event.successorPlan)
  | .taskTrackerReadIntentRecorded operation => some (.taskTrackerRead operation)
  | .taskClaimAcquisitionIntended operation => some (.acquireTaskClaim operation)
  | .taskClaimReleaseIntended operation => some (.releaseTaskClaim operation)
  | .taskAttemptPlanned operation => some (.recordTaskAttemptPlan operation)
  | .taskAttemptBaseReadIntended operation => some (.readTaskAttemptBase operation)
  | .taskWorktreeReconciliationIntended operation => some (.reconcileTaskWorktree operation)
  | .gitReadIntentRecorded operation => some (.gitRead operation)
  | _ => none

def completionTaskCandidateAncestryReadOperationIdFor (request purpose : Option Json) :
    Option OperationId := do
  let operationId ← text (field request "operationId")
  let attemptOrdinal ← integer (field purpose "attemptOrdinal")
  let authorizationOrdinal ← integer (field purpose "authorizationOrdinal")
  return ⟨s!"{operationId}:authorization:{attemptOrdinal}:{authorizationOrdinal}:git"⟩

def completionTaskRequestLookupOperationIdFor (request attemptOrdinal : Option Json) :
    Option OperationId := do
  let operationId ← text (field request "operationId")
  let attemptOrdinal ← integer attemptOrdinal
  return ⟨s!"{operationId}:lookup:{attemptOrdinal}"⟩

def completionPurposeOperationId (request purpose : Option Json) : Option OperationId :=
  if text (field purpose "_tag") = some "Authorization" then
    completionTaskCandidateAncestryReadOperationIdFor request purpose
  else completionTaskRequestLookupOperationIdFor request (field purpose "attemptOrdinal")

def completionAttemptKinds : List WorkflowJournalEventTag :=
  [.protocol .completionTaskAttemptIntended, .protocol .completionTaskAcknowledged,
    .protocol .completionTaskResponseLost, .protocol .completionTaskRejected]

/-- A numbered completion call concerns its lookup. -/
@[simp] def completionAttemptOperationIds (record : JournalRecord) (ids : KeySet OperationId) :
    KeySet OperationId :=
  let event := some record.event.object
  if record.event.tag ∈ completionAttemptKinds then
    ids.add? (completionTaskRequestLookupOperationIdFor (field event "request")
      (field event "attemptOrdinal"))
  else ids

/-- Completion reads also concern the action derived from their purpose. -/
@[simp] def completionOperationIds (record : JournalRecord) (initial : KeySet OperationId) :
    KeySet OperationId :=
  let ids :=
    match record.event with
    | .taskTrackerReadIntentRecorded (.readCompletionTaskFacts operation) =>
        let request := some operation.request.object
        (initial.add? (operationId? (field request "operationId"))).add?
          (completionPurposeOperationId request (some operation.purpose.object))
    | .taskTrackerFactsObserved (.focusedTaskCompletionFacts _ _ request purpose _) =>
        initial.add? (completionPurposeOperationId (some request.object) (some purpose.object))
    | _ => initial
  completionAttemptOperationIds record ids

@[simp] def requestOperationIds (record : JournalRecord) (ids : KeySet OperationId) :
    KeySet OperationId :=
  let event := some record.event.object
  (ids.add? (operationId? (field (field event "request") "operationId"))).add?
    (operationId? (field (field event "authorization") "operationId"))

/-- Operations that the event names itself. -/
@[simp] def directOperationIds (record : JournalRecord) (initial : KeySet OperationId) :
    KeySet OperationId :=
  let event := some record.event.object
  let ids := initial.add? (operationId? (field event "operationId"))
  -- An acquired claim carries its causal operation; a completion claim does not.
  let ids :=
    if record.event.tag = .taskClaimAcquired then
      ids.add? (operationId? (field (field event "claim") "operationId"))
    else ids
  ((requestOperationIds record ids).add? (operationId? (field event "deletionOperationId"))).add?
    (operationId? (field event "replacementOperationId"))

@[simp] def claimReleaseOperationIds (record : JournalRecord) (ids : KeySet OperationId) :
    KeySet OperationId :=
  let event := some record.event.object
  let release := field event "release"
  let intended := field (field event "operation") "release"
  (((ids.add? (operationId? (field (field event "expectedClaim") "operationId"))).add?
    (operationId? (field release "operationId"))).add?
      (operationId? (field (field release "claim") "operationId"))).add?
        (operationId? (field (field intended "claim") "operationId"))

def operationIdsOf (record : JournalRecord) : KeySet OperationId :=
  let initial := KeySet.empty.add? ((operationOf record).map workflowOperationId)
  let ids := directOperationIds record (completionOperationIds record initial)
  let ids := claimReleaseOperationIds record ids
  let observation := field (some record.event.object) "observation"
  ids.add? (operationId? (field (field observation "request") "operationId"))

def descriptorAttemptIds (record : JournalRecord) : KeySet AttemptId :=
  let one (plannedAttempt : PlannedTaskAttempt) := KeySet.empty.add plannedAttempt.attemptId
  let recorded (payload : Payload) :=
    let plan := field (some payload.object) "plannedAttempt"
    KeySet.empty.add? (attemptId? (field plan "attemptId"))
  match record.event with
  | .plannedAttemptExecutorWorkResponsibilityBegan plannedAttempt => one plannedAttempt
  | .plannedAttemptExecutorCommandIntended event => one event.plannedAttempt
  | .plannedAttemptExecutorCommandProjectionObserved event => one event.plannedAttempt
  | .plannedAttemptExecutorResumeRedeliveryIntended event => one event.plannedAttempt
  | .plannedAttemptExecutorCommandResponseObserved event => one event.plannedAttempt
  | .plannedAttemptExecutorCommandResponseContradicted event => one event.plannedAttempt
  | .plannedAttemptExecutorStateObserved event => one event.plannedAttempt
  | .plannedAttemptExecutorWorkReported event => KeySet.empty.add event.report.correlation.attemptId
  | .protocol ⟨.integrationResponsibilityBegan, _, _, payload⟩ => recorded payload
  | .protocol ⟨.integrationStarted, _, _, payload⟩ => recorded payload
  | .resultRecoveryAttemptReplaced event => one event.successorPlan.plannedAttempt
  | .plannedAttemptReplaced event => one event.successorPlan.plannedAttempt
  | .attemptRestartAuthorityReadFailed event => one event.subject.plannedAttempt
  | .gitReadIntentRecorded operation => one operation.operation.plannedAttempt
  | .targetLineageObserved _ plannedAttempt _ => one plannedAttempt
  | .taskAttemptPlanned operation => one operation.plannedAttempt
  | .taskWorktreeReconciliationIntended operation => one operation.plannedAttempt
  | _ => .empty

def baselineKinds : List WorkflowJournalEventTag :=
  [.protocol .remoteBaselineReadIntended, .protocol .remoteBaselineObserved,
    .protocol .localTargetCatchUpIntended, .protocol .localTargetCatchUpObserved]

def replacementKinds : List WorkflowJournalEventTag :=
  [.plannedAttemptReplaced, .resultRecoveryAttemptReplaced]

def responsibilityPlan (event : Option Json) : Option Json :=
  field (field (field event "correlation") "responsibility") "plannedAttempt"

def attemptIdsOf (record : JournalRecord) : KeySet AttemptId :=
  let event := some record.event.object
  let planned (ids : KeySet AttemptId) (plan : Option Json) :=
    ids.add? (attemptId? (field plan "attemptId"))
  let ids := planned (descriptorAttemptIds record) (field event "plannedAttempt")
  let ids := planned ids (field (field event "subject") "plannedAttempt")
  let ids :=
    if record.event.tag ∈ replacementKinds then
      planned ids (field (field event "successorPlan") "plannedAttempt")
    else ids
  let ids := planned ids (field (field (field event "run") "session") "plannedAttempt")
  let ids :=
    if record.event.tag ∈ baselineKinds then planned ids (responsibilityPlan event) else ids
  planned ids (field (field event "claim") "plannedAttempt")

def taskWorktreeRead? (record : JournalRecord) : Option PlannedAttemptOperation :=
  match record.event with
  | .gitReadIntentRecorded (.readTaskWorktree operation) => some operation
  | _ => none

def worktreeOutcomeOperationId? (record : JournalRecord) : Option OperationId :=
  match record.event with
  | .plannedAttemptWorktreeObserved operationId _ => some operationId
  | _ => none

def readsWorktreeOf (read : JournalRecord) (operationId : OperationId) (runId : RunId)
    (attemptId : AttemptId) : Bool :=
  (taskWorktreeRead? read).any fun operation =>
    operation.operationId = operationId && operation.plannedAttempt.runId = runId &&
      operation.plannedAttempt.attemptId = attemptId

/-- Without indexes, a worktree outcome belongs to the attempt of any earlier read it answers. -/
def rawRecordBelongsToAttempt (records : List JournalRecord) (record : JournalRecord)
    (attemptId : AttemptId) : Bool :=
  if attemptId ∈ attemptIdsOf record then true
  else
    match worktreeOutcomeOperationId? record with
    | none => false
    | some operationId =>
        records.any fun read =>
          read.position < record.position && readsWorktreeOf read operationId record.runId attemptId

def integratorSessionIdsOf (record : JournalRecord) : KeySet String :=
  let event := some record.event.object
  let session (member : String) := text (field (field event member) "sessionId")
  ((((KeySet.empty.add? (session "correlation")).add?
    (text (field (field (field event "run") "session") "sessionId"))).add?
      (session "fingerprint")).add? (session "predecessor")).add? (session "successor")

def directPublicationKinds : List WorkflowJournalEventTag :=
  [.protocol .remotePublicationIntended, .protocol .remotePublicationAttemptIntended,
    .protocol .remotePublicationAttemptRejectedNonFastForward, .protocol .remotePublicationRetained,
    .protocol .remotePublicationResumeRequested, .protocol .remotePublicationSucceeded,
    .protocol .integratorCompetingHeadSuccessorAuthorized]

def correlationRequestId (event : Option Json) : Option String :=
  text (field (field event "correlation") "requestId")

def claimRequestId (claim : Option Json) : Option String :=
  text (field (field claim "promotionCorrelation") "requestId")

def carriedClaimRequestId (event : Option Json) : Option String :=
  (claimRequestId (field event "claim")).or
    ((claimRequestId (field (field event "request") "claim")).or
      (claimRequestId (field (field event "authorization") "claim")))

def promotionRequestIdOf (record : JournalRecord) : Option String :=
  let event := some record.event.object
  if record.event.tag ∈ directPublicationKinds then none
  else (correlationRequestId event).or (carriedClaimRequestId event)

def quarantineDirectionRequest? (record : JournalRecord) : Option (String × String) :=
  if record.event.tag = .protocol .integrationQuarantineDirectionApplied then do
    let requestId := field (some record.event.object) "requestId"
    return (← text (field requestId "runId"), ← text (field requestId "nonce"))
  else none

def quarantineDirectionRequestKey (request : String × String) : String :=
  toString (codeUnits request.1) ++ ":" ++ (request.1 ++ request.2)

def commandOrdinal? (record : JournalRecord) : Option Nat :=
  match record.event with
  | .plannedAttemptExecutorResumeRedeliveryIntended event => some event.commandOrdinal
  | .plannedAttemptExecutorCommandProjectionObserved event => some event.commandOrdinal
  | .plannedAttemptExecutorCommandResponseObserved event => some event.commandOrdinal
  | .plannedAttemptExecutorCommandResponseContradicted event => some event.commandOrdinal
  | _ => none

def commandKey (attemptId : AttemptId) (commandOrdinal : Nat) : String :=
  attemptId.value ++ ":" ++ toString commandOrdinal

/-- The query roots of a journal; every append updates all of them. -/
structure EvidenceIndexes where
  /-- Every appended position equals its one-based offset. -/
  positionsAreOrdinals : Bool
  byKey : KeyedMap JournalRecordKey JournalRecord
  byKind : SequenceIndex WorkflowJournalEventTag JournalRecord
  byAttempt : SequenceIndex AttemptId JournalRecord
  byAttemptKind : KindIndex AttemptId WorkflowJournalEventTag JournalRecord
  byAttemptCommandKind : KindIndex String WorkflowJournalEventTag JournalRecord
  byTask : SequenceIndex TaskId JournalRecord
  byTaskKind : KindIndex TaskId WorkflowJournalEventTag JournalRecord
  operations : SequenceIndex OperationId JournalRecord
  recordsByOperation : SequenceIndex OperationId JournalRecord
  recordsByOperationKind : KindIndex OperationId WorkflowJournalEventTag JournalRecord
  byPromotionRequest : SequenceIndex String JournalRecord
  byIntegratorSession : SequenceIndex String JournalRecord
  byQuarantineDirectionRequest : SequenceIndex String JournalRecord

/-- Indexed records.  The value makes no claim of semantic acceptance. -/
structure JournalRecordEvidence where
  records : PersistentSequence JournalRecord
  indexes : EvidenceIndexes
  /-- Last position of this view. -/
  lastPosition : Option JournalPosition

def emptyJournalEvidence : JournalRecordEvidence where
  records := .empty
  indexes :=
    { positionsAreOrdinals := true
      byKey := ∅
      byKind := ∅
      byAttempt := ∅
      byAttemptKind := ∅
      byAttemptCommandKind := ∅
      byTask := ∅
      byTaskKind := ∅
      operations := ∅
      recordsByOperation := ∅
      recordsByOperationKind := ∅
      byPromotionRequest := ∅
      byIntegratorSession := ∅
      byQuarantineDirectionRequest := ∅ }
  lastPosition := none

def explicitlyCoveredTaskIds (evidence : List CompleteFactEvidence) : List TaskId :=
  evidence.flatMap (·.coverage.explicitlyCoveredTaskIds)

def priorFullObservationOperationId? (record : JournalRecord) : Option OperationId :=
  match record.event with
  | .taskTrackerFactsObserved (.unchangedTaskTrackerFactsReconfirmed facts) =>
      some facts.priorFullObservationOperationId
  | _ => none

def completeTaskIds (prior : JournalRecord) : List TaskId :=
  match prior.event with
  | .taskTrackerFactsObserved (.completeTaskTrackerFacts facts) =>
      facts.factFamilies.identities.taskIds
  | _ => []

/-- Tasks of the full observation that a reconfirmation names, where the index holds it. -/
def priorTaskIds (record : JournalRecord) (indexes : Option EvidenceIndexes) : List TaskId :=
  let prior := do
    let operationId ← priorFullObservationOperationId? record
    (← indexes).byKey.lookup (outcomeRecordKey operationId)
  (prior.map completeTaskIds).getD []

def graphObservationTaskIds (record : JournalRecord) (indexes : Option EvidenceIndexes) :
    List TaskId :=
  match record.event with
  | .taskTrackerFactsObserved (.completeTaskTrackerFacts facts) =>
      facts.factFamilies.identities.taskIds ++ explicitlyCoveredTaskIds facts.factFamilies.evidence
  | .taskTrackerFactsObserved (.unchangedTaskTrackerFactsReconfirmed facts) =>
      priorTaskIds record indexes ++ explicitlyCoveredTaskIds facts.factFamilies.evidence
  | _ => []

/-- The task of an executor or operation descriptor. -/
@[simp] def descriptorTaskIds (record : JournalRecord) : KeySet TaskId :=
  let one (plannedAttempt : PlannedTaskAttempt) := KeySet.empty.add plannedAttempt.taskId
  match record.event with
  | .plannedAttemptExecutorWorkResponsibilityBegan plannedAttempt => one plannedAttempt
  | .plannedAttemptExecutorCommandIntended event => one event.plannedAttempt
  | .plannedAttemptExecutorCommandProjectionObserved event => one event.plannedAttempt
  | .plannedAttemptExecutorResumeRedeliveryIntended event => one event.plannedAttempt
  | .plannedAttemptExecutorCommandResponseObserved event => one event.plannedAttempt
  | .plannedAttemptExecutorCommandResponseContradicted event => one event.plannedAttempt
  | .plannedAttemptExecutorStateObserved event => one event.plannedAttempt
  | .resultRecoveryAttemptReplaced event => one event.successorPlan.plannedAttempt
  | .plannedAttemptReplaced event => one event.successorPlan.plannedAttempt
  | .attemptRestartAuthorityReadFailed event => one event.subject.plannedAttempt
  | .gitReadIntentRecorded operation => one operation.operation.plannedAttempt
  | .targetLineageObserved _ plannedAttempt _ => one plannedAttempt
  | .taskAttemptPlanned operation => one operation.plannedAttempt
  | .taskWorktreeReconciliationIntended operation => one operation.plannedAttempt
  | _ => .empty

@[simp] def trackerObservationTaskIds (record : JournalRecord) (ids : KeySet TaskId) :
    KeySet TaskId :=
  match record.event with
  | .taskTrackerFactsObserved (.focusedTaskWorkSpecificationFacts facts) => ids.add facts.taskId
  | .taskTrackerFactsObserved (.focusedTaskClaimFacts facts) => ids.add facts.observation.taskId
  | .taskTrackerFactsObserved (.focusedTaskClaimFactsUnreadable _ _ taskId) => ids.add taskId
  | .taskTrackerFactsObserved (.focusedTaskCompletionFacts _ _ request _ _) =>
      ids.add? (taskId? (field (some request.object) "taskId"))
  | _ => ids

@[simp] def subjectTaskIds (event : Option Json) (ids : KeySet TaskId) : KeySet TaskId :=
  let subject := field event "subject"
  ((ids.add? (taskId? (field (field event "plannedAttempt") "taskId"))).add?
    (taskId? (field (field subject "plannedAttempt") "taskId"))).add?
      (taskId? (field subject "taskId"))

@[simp] def claimTaskIds (event : Option Json) (ids : KeySet TaskId) : KeySet TaskId :=
  let claim := field event "claim"
  (((ids.add? (taskId? (field claim "taskId"))).add?
    (taskId? (field (field claim "plannedAttempt") "taskId"))).add?
      (taskId? (field (field (field event "release") "claim") "taskId"))).add?
        (taskId? (field (field event "expectedClaim") "taskId"))

@[simp] def requestTaskIds (carrier : Option Json) (ids : KeySet TaskId) : KeySet TaskId :=
  let request := field carrier "request"
  (ids.add? (taskId? (field request "taskId"))).add?
    (taskId? (field (field (field request "claim") "plannedAttempt") "taskId"))

@[simp] def taskIdsListed : Option Json → List TaskId
  | some (.arr items) => items.filterMap fun item => taskId? (some item)
  | _ => []

@[simp] def operationTaskIds (event : Option Json) (ids : KeySet TaskId) : KeySet TaskId :=
  let operation := field event "operation"
  let ids := (ids.add? (taskId? (field (field operation "plannedAttempt") "taskId"))).add?
    (taskId? (field operation "taskId"))
  let ids := ids.addAll
    (taskIdsListed (field (field operation "readShape") "explicitlyCoveredTaskIds"))
  let ids := (ids.add? (taskId? (field (field operation "acquisition") "taskId"))).add?
    (taskId? (field (field (field operation "release") "claim") "taskId"))
  requestTaskIds operation ids

def candidatePlan (event : Option Json) : Option Json :=
  field (field (field (field (field event "correlation") "qualifiedCandidate") "run") "session")
    "plannedAttempt"

def namedTaskIds (record : JournalRecord) : KeySet TaskId :=
  let event := some record.event.object
  let planned (ids : KeySet TaskId) (plan : Option Json) := ids.add? (taskId? (field plan "taskId"))
  let ids := trackerObservationTaskIds record (descriptorTaskIds record)
  let ids := requestTaskIds event (claimTaskIds event (subjectTaskIds event ids))
  let ids := operationTaskIds event ids
  let ids :=
    if record.event.tag ∈ replacementKinds then
      planned (planned ids (field (field event "subject") "plannedAttempt"))
        (field (field event "successorPlan") "plannedAttempt")
    else ids
  let ids :=
    if record.event.tag = .protocol .targetPromotionObservedSuccess then
      planned ids (candidatePlan event)
    else ids
  if record.event.tag ∈ baselineKinds then planned ids (responsibilityPlan event) else ids

def taskIdsOf (record : JournalRecord) (indexes : Option EvidenceIndexes) : KeySet TaskId :=
  (namedTaskIds record).addAll (graphObservationTaskIds record indexes)

def recordCountThroughPosition (records : PersistentSequence JournalRecord) (position : Int) :
    Nat :=
  records.countThrough JournalRecord.position position

def windowLength (source : JournalRecordEvidence) (exclusivePosition : Int) : Int :=
  if source.indexes.positionsAreOrdinals then max 0 (exclusivePosition - 1)
  else recordCountThroughPosition source.records (exclusivePosition - 1)

/-- A window on the records before a position; it shares the indexes of its source. -/
def journalEvidenceBefore (source : JournalRecordEvidence) (exclusivePosition : Int) :
    JournalRecordEvidence :=
  match source.lastPosition with
  | none => source
  | some last =>
      if (last : Int) < exclusivePosition then source
      else
        let records := source.records.before (windowLength source exclusivePosition)
        { records, indexes := source.indexes, lastPosition := (records.get (-1)).map (·.position) }

def JournalRecordEvidence.throughPosition (source : JournalRecordEvidence) : Nat :=
  source.lastPosition.getD 0

def visible (source : JournalRecordEvidence) (record : Option JournalRecord) :
    Option JournalRecord :=
  record.filter fun record => record.position ≤ source.throughPosition

def indexedRecords (source : JournalRecordEvidence) (records : PersistentSequence JournalRecord) :
    List JournalRecord :=
  records.toList.takeWhile fun record => (record.position : Int) ≤ source.throughPosition

def visibleRecordCount (source : JournalRecordEvidence)
    (records : PersistentSequence JournalRecord) : Nat :=
  recordCountThroughPosition records source.throughPosition

def lastVisibleRecord (source : JournalRecordEvidence)
    (records : PersistentSequence JournalRecord) : Option JournalRecord :=
  let last := records.get ((records.length : Int) - 1)
  if last.all fun record => record.position ≤ source.throughPosition then last
  else
    let length := visibleRecordCount source records
    if length = 0 then none else records.get ((length : Int) - 1)

def indexedOperationById (source : JournalRecordEvidence) (operationId : OperationId) :
    Option WorkflowOperation :=
  (lastVisibleRecord source (source.indexes.operations.bucket operationId)).bind operationOf

def worktreeReadAttempt? (operation : WorkflowOperation) (runId : RunId) : Option AttemptId :=
  match operation with
  | .gitRead (.readTaskWorktree operation) =>
      if operation.plannedAttempt.runId = runId then some operation.plannedAttempt.attemptId
      else none
  | _ => none

/-- Attempts a record is indexed under.  Git's worktree outcome names its read, not the attempt. -/
def indexedAttemptIds (prior : JournalRecordEvidence) (record : JournalRecord) : KeySet AttemptId :=
  let linked := do
    let operationId ← worktreeOutcomeOperationId? record
    let operation ← indexedOperationById (journalEvidenceBefore prior record.position) operationId
    worktreeReadAttempt? operation record.runId
  (attemptIdsOf record).add? linked

def indexedCommandKeys (attemptIds : List AttemptId) (record : JournalRecord) : List String :=
  match commandOrdinal? record with
  | some commandOrdinal => attemptIds.map fun attemptId => commandKey attemptId commandOrdinal
  | none => []

/-- Adds a record to every index it concerns. -/
def appendJournalEvidence (prior : JournalRecordEvidence) (record : JournalRecord) :
    JournalRecordEvidence :=
  let indexes := prior.indexes
  let kind := record.event.tag
  let attemptIds := (indexedAttemptIds prior record).items
  let taskIds := (taskIdsOf record (some indexes)).items
  let operationIds := (operationIdsOf record).items
  { records := prior.records.append record
    indexes :=
      { positionsAreOrdinals :=
          indexes.positionsAreOrdinals && record.position = prior.records.length + 1
        byKey :=
          if (indexes.byKey.lookup record.key).isSome then indexes.byKey
          else indexes.byKey.set record.key record
        byKind := indexes.byKind.push kind record
        byAttempt := indexes.byAttempt.pushAll attemptIds record
        byAttemptKind := indexes.byAttemptKind.pushAll attemptIds kind record
        byAttemptCommandKind :=
          indexes.byAttemptCommandKind.pushAll (indexedCommandKeys attemptIds record) kind record
        byTask := indexes.byTask.pushAll taskIds record
        byTaskKind := indexes.byTaskKind.pushAll taskIds kind record
        operations :=
          indexes.operations.pushAll ((operationOf record).map workflowOperationId).toList record
        recordsByOperation := indexes.recordsByOperation.pushAll operationIds record
        recordsByOperationKind := indexes.recordsByOperationKind.pushAll operationIds kind record
        byPromotionRequest :=
          indexes.byPromotionRequest.pushAll (promotionRequestIdOf record).toList record
        byIntegratorSession :=
          indexes.byIntegratorSession.pushAll (integratorSessionIdsOf record).items record
        byQuarantineDirectionRequest :=
          indexes.byQuarantineDirectionRequest.pushAll
            ((quarantineDirectionRequest? record).map quarantineDirectionRequestKey).toList record }
    lastPosition := some record.position }

def journalEvidenceFrom (records : List JournalRecord) : JournalRecordEvidence :=
  records.foldl appendJournalEvidence emptyJournalEvidence

/-- A plain list of records, or indexed evidence. -/
inductive JournalHistorySource where
  | raw (records : List JournalRecord)
  | indexed (evidence : JournalRecordEvidence)

def findLast {Item : Type} (items : List Item) (test : Item → Bool) : Option Item :=
  items.reverse.find? test

def journalRecordByPosition (position : JournalPosition) :
    JournalHistorySource → Option JournalRecord
  | .raw records => records.find? fun record => record.position = position
  | .indexed source =>
      if position > source.throughPosition then none
      else if source.indexes.positionsAreOrdinals then source.records.get ((position : Int) - 1)
      else
        let offset := recordCountThroughPosition source.records ((position : Int) - 1)
        (source.records.get offset).filter fun record => record.position = position

def journalRecordByKey (key : JournalRecordKey) : JournalHistorySource → Option JournalRecord
  | .raw records => records.find? fun record => record.key = key
  | .indexed source => visible source (source.indexes.byKey.lookup key)

def firstOffsetAfter (source : JournalRecordEvidence) : Option JournalPosition → Nat
  | none => 0
  | some after =>
      if source.indexes.positionsAreOrdinals then after
      else recordCountThroughPosition source.records after

def journalRecordsAfter (after : Option JournalPosition) :
    JournalHistorySource → List JournalRecord
  | .raw records => records.filter fun record => after.all fun after => after < record.position
  | .indexed source => source.records.toList.drop (firstOffsetAfter source after)

def journalRecordsOfKind (kind : WorkflowJournalEventTag) :
    JournalHistorySource → List JournalRecord
  | .raw records => records.filter fun record => record.event.tag = kind
  | .indexed source => indexedRecords source (source.indexes.byKind.bucket kind)

def firstJournalRecordOfKind (kind : WorkflowJournalEventTag) :
    JournalHistorySource → Option JournalRecord
  | .raw records => records.find? fun record => record.event.tag = kind
  | .indexed source => visible source ((source.indexes.byKind.bucket kind).get 0)

def lastJournalRecordOfKind (kind : WorkflowJournalEventTag) :
    JournalHistorySource → Option JournalRecord
  | .raw records => findLast records fun record => record.event.tag = kind
  | .indexed source => lastVisibleRecord source (source.indexes.byKind.bucket kind)

def initiatesOperation (record : JournalRecord) (operationId : OperationId) : Bool :=
  (operationOf record).any fun operation => workflowOperationId operation = operationId

def journalOperationById (operationId : OperationId) :
    JournalHistorySource → Option WorkflowOperation
  | .raw records =>
      (findLast (records.map operationOf) fun operation =>
        operation.any fun operation => workflowOperationId operation = operationId).join
  | .indexed source => indexedOperationById source operationId

def journalRecordForOperationId (operationId : OperationId) :
    JournalHistorySource → Option JournalRecord
  | .raw records => findLast records fun record => initiatesOperation record operationId
  | .indexed source => lastVisibleRecord source (source.indexes.operations.bucket operationId)

def journalRecordsForOperationId (operationId : OperationId) :
    JournalHistorySource → List JournalRecord
  | .raw records => records.filter fun record => operationId ∈ operationIdsOf record
  | .indexed source => indexedRecords source (source.indexes.recordsByOperation.bucket operationId)

def journalRecordsForOperationIdKind (operationId : OperationId) (kind : WorkflowJournalEventTag) :
    JournalHistorySource → List JournalRecord
  | .raw records =>
      records.filter fun record => record.event.tag = kind && operationId ∈ operationIdsOf record
  | .indexed source =>
      indexedRecords source (source.indexes.recordsByOperationKind.bucket operationId kind)

def journalRecordsForPromotionRequest (requestId : String) :
    JournalHistorySource → List JournalRecord
  | .raw records =>
      records.filter fun record =>
        correlationRequestId (some record.event.object) = some requestId
  | .indexed source => indexedRecords source (source.indexes.byPromotionRequest.bucket requestId)

def journalRecordsForIntegratorSession (sessionId : String) :
    JournalHistorySource → List JournalRecord
  | .raw records => records.filter fun record => sessionId ∈ integratorSessionIdsOf record
  | .indexed source => indexedRecords source (source.indexes.byIntegratorSession.bucket sessionId)

def journalRecordsForQuarantineDirectionRequest (request : String × String) :
    JournalHistorySource → List JournalRecord
  | .raw records => records.filter fun record => quarantineDirectionRequest? record = some request
  | .indexed source =>
      indexedRecords source (source.indexes.byQuarantineDirectionRequest.bucket
        (quarantineDirectionRequestKey request))

def journalRecordsForAttempt (attemptId : AttemptId) : JournalHistorySource → List JournalRecord
  | .raw records => records.filter fun record => rawRecordBelongsToAttempt records record attemptId
  | .indexed source => indexedRecords source (source.indexes.byAttempt.bucket attemptId)

def journalRecordsForAttemptKind (attemptId : AttemptId) (kind : WorkflowJournalEventTag) :
    JournalHistorySource → List JournalRecord
  | .raw records =>
      records.filter fun record =>
        record.event.tag = kind && rawRecordBelongsToAttempt records record attemptId
  | .indexed source => indexedRecords source (source.indexes.byAttemptKind.bucket attemptId kind)

def lastJournalRecordForAttemptKind (attemptId : AttemptId) (kind : WorkflowJournalEventTag) :
    JournalHistorySource → Option JournalRecord
  | .raw records =>
      findLast records fun record =>
        record.event.tag = kind && rawRecordBelongsToAttempt records record attemptId
  | .indexed source => lastVisibleRecord source (source.indexes.byAttemptKind.bucket attemptId kind)

def journalRecordCountForAttemptKind (attemptId : AttemptId) (kind : WorkflowJournalEventTag) :
    JournalHistorySource → Nat
  | .raw records =>
      (records.filter fun record =>
        record.event.tag = kind && rawRecordBelongsToAttempt records record attemptId).length
  | .indexed source =>
      visibleRecordCount source (source.indexes.byAttemptKind.bucket attemptId kind)

def journalRecordCountForAttemptCommandKind (attemptId : AttemptId) (commandOrdinal : Nat)
    (kind : WorkflowJournalEventTag) : JournalHistorySource → Nat
  | .raw records =>
      (records.filter fun record =>
        record.event.tag = kind && commandOrdinal? record = some commandOrdinal &&
          attemptId ∈ attemptIdsOf record).length
  | .indexed source =>
      visibleRecordCount source
        (source.indexes.byAttemptCommandKind.bucket (commandKey attemptId commandOrdinal) kind)

/-- Without indexes, a reconfirmation also concerns the tasks of the observation it names. -/
def rawRecordConcernsTask (records : List JournalRecord) (record : JournalRecord)
    (taskId : TaskId) : Bool :=
  if taskId ∈ taskIdsOf record none then true
  else
    match priorFullObservationOperationId? record with
    | none => false
    | some operationId =>
        (records.find? fun prior => prior.key = outcomeRecordKey operationId).any fun prior =>
          taskId ∈ taskIdsOf prior none

def journalRecordsForTask (taskId : TaskId) : JournalHistorySource → List JournalRecord
  | .raw records => records.filter fun record => rawRecordConcernsTask records record taskId
  | .indexed source => indexedRecords source (source.indexes.byTask.bucket taskId)

def journalRecordsForTaskKind (taskId : TaskId) (kind : WorkflowJournalEventTag) :
    JournalHistorySource → List JournalRecord
  | .raw records =>
      records.filter fun record => record.event.tag = kind && taskId ∈ taskIdsOf record none
  | .indexed source => indexedRecords source (source.indexes.byTaskKind.bucket taskId kind)

def lastJournalRecordForTaskKind (taskId : TaskId) (kind : WorkflowJournalEventTag) :
    JournalHistorySource → Option JournalRecord
  | .raw records =>
      findLast (journalRecordsForTask taskId (.raw records)) fun record => record.event.tag = kind
  | .indexed source => lastVisibleRecord source (source.indexes.byTaskKind.bucket taskId kind)

end Dalph
