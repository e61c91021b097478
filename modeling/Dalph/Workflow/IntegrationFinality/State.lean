import Dalph.Workflow.AttemptPlanning
import Dalph.Workflow.IntegrationFinality.Events
import Dalph.WorkflowJournal.RunLifecycle

/-!
# Finality state

How far the replacement, deletion and settlement of one completion claim have come, and the latest
focused success that proves its task completed.  An indexed history is narrowed to the claim's
promotion request and completion operation first; a plain list is scanned whole.
-/

namespace Dalph

/-- The completion facts of a focused read, with the request that the read serves. -/
structure FocusedCompletionObservation where
  operationId : OperationId
  target : TrackerTarget
  request : CompletionTaskRequest
  facts : FocusedTaskCompletionFacts
  observation : TaskTrackerFactsObservation

def focusedCompletion? (record : JournalRecord) : Option FocusedCompletionObservation :=
  record.trackerFacts?.bind fun observation =>
    match observation with
    | .focusedTaskCompletionFacts operationId target request _ facts =>
        (completionTaskRequest? (some request.object)).map fun request =>
          { operationId, target, request, facts, observation }
    | _ => none

def completionRead? (record : JournalRecord) : Option ReadCompletionTaskFactsOperation :=
  record.trackerRead?.bind fun read =>
    match read with
    | .readCompletionTaskFacts operation => some operation
    | _ => none

def FocusedCompletionObservation.answers (focused : FocusedCompletionObservation)
    (read : ReadCompletionTaskFactsOperation) : Bool :=
  taskTrackerObservationMatchesRead focused.observation (.readCompletionTaskFacts read)

def intendsCompletion (request : CompletionTaskRequest) (record : JournalRecord) : Bool :=
  (completionTaskIntended? record.event).any fun intended =>
    completionTaskRequestEquals intended request

/-- The task, the claim and the position behind which a success is looked for. -/
structure FocusedSuccessQuery where
  taskId : TaskId
  afterPosition : JournalPosition
  claim : CompletionTaskClaim

/-- The success that focused facts prove about the queried claim. -/
def FocusedSuccessQuery.success? (query : FocusedSuccessQuery) (observedAt : JournalPosition)
    (focused : FocusedCompletionObservation) : Option FocusedCompletedTaskObservation :=
  if focused.facts.lifecycle = .completedSuccessfully && focused.facts.targetMember &&
      focused.facts.operationId = focused.operationId && focused.facts.taskId = query.taskId &&
      focused.request.taskId = query.taskId &&
      focused.facts.taskRevision = focused.request.taskRevision &&
      taskTrackerTargetKey focused.facts.target = taskTrackerTargetKey focused.target &&
      completionTaskClaimEquals focused.request.claim query.claim then
    some
      { claim := focused.request.claim
        observedAt
        operationId := focused.operationId
        taskId := query.taskId
        taskRevision := focused.facts.taskRevision
        target := focused.facts.target
        trackerRevision := focused.facts.trackerRevision }
  else none

/-- The index lists a read that the facts answer among the earlier records of their operation. -/
def hasEarlierFocusedRead (source : JournalHistorySource) (record : JournalRecord)
    (focused : FocusedCompletionObservation) : Bool :=
  let earlier := (journalRecordsForOperationId focused.operationId source).takeWhile fun intent =>
    intent.position < record.position
  earlier.any fun intent => (completionRead? intent).any focused.answers

def indexedFocusedSuccessAt (source : JournalHistorySource) (query : FocusedSuccessQuery)
    (record : JournalRecord) (matchingRequestIntentSeen : Bool) :
    Option FocusedCompletedTaskObservation :=
  (focusedCompletion? record).bind fun focused =>
    if query.afterPosition < record.position && hasEarlierFocusedRead source record focused &&
        matchingRequestIntentSeen then
      query.success? record.position focused
    else none

/-- What a search of the index has found so far. -/
structure FocusedSuccessSearch where
  matchingRequestIntentSeen : Bool
  latestObservation : Option FocusedCompletedTaskObservation

/-- One record of the search: an intent of the request is noted, a success replaces the latest. -/
def FocusedSuccessSearch.visit (source : JournalHistorySource) (query : FocusedSuccessQuery)
    (search : FocusedSuccessSearch) (record : JournalRecord) : FocusedSuccessSearch :=
  if (completionTaskIntended? record.event).isSome then
    { search with
      matchingRequestIntentSeen := search.matchingRequestIntentSeen ||
        intendsCompletion (completionTaskRequestFor query.claim) record }
  else
    { search with
      latestObservation :=
        (indexedFocusedSuccessAt source query record search.matchingRequestIntentSeen).or
          search.latestObservation }

end Dalph
