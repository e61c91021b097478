import Dalph.Workflow.RecordedCandidates
import Dalph.WorkflowJournal.SettledCompletionClaimReplacement

/-!
# Finality events

The events that replace an active claim by a completion claim, delete the completion claim after a
focused success, and settle the responsibility.  Every one of them carries the whole claim.
-/

namespace Dalph

def activeTaskClaim? (value : Option Json) : Option ActiveTaskClaim := do
  some
    { operationId := ← operationId? (field value "operationId")
      owner := ⟨← text (field value "owner")⟩
      taskId := ← taskId? (field value "taskId")
      token := ⟨← text (field value "token")⟩ }

def boundCompletionTaskClaim? (claim : CompletionTaskClaim) : Option CompletionTaskClaim :=
  if claim.wellBound then some claim else none

def completionTaskClaim? (value : Option Json) : Option CompletionTaskClaim := do
  boundCompletionTaskClaim?
    { originalClaim := ← activeTaskClaim? (field value "originalClaim")
      plannedAttempt := ← plannedTaskAttempt? (field value "plannedAttempt")
      promotionCorrelation := ← targetPromotionCorrelation? (field value "promotionCorrelation") }

def completionTaskOperationIdFor (claim : CompletionTaskClaim) : OperationId :=
  ⟨"completion-task:" ++ claim.promotionCorrelation.requestId.value⟩

structure CompletionTaskRequest where
  claim : CompletionTaskClaim
  operationId : OperationId
  taskId : TaskId
  taskRevision : TaskRevision
deriving DecidableEq

def CompletionTaskRequest.exactBinding (request : CompletionTaskRequest) : Bool :=
  request.claim.plannedAttempt.taskId = request.taskId &&
    request.claim.plannedAttempt.taskRevision = request.taskRevision &&
    request.operationId = completionTaskOperationIdFor request.claim

def completionTaskRequestEquals (left right : CompletionTaskRequest) : Bool :=
  left.operationId = right.operationId && left.taskId = right.taskId &&
    left.taskRevision = right.taskRevision && completionTaskClaimEquals left.claim right.claim

def completionTaskRequestFor (claim : CompletionTaskClaim) : CompletionTaskRequest where
  claim
  operationId := completionTaskOperationIdFor claim
  taskId := claim.plannedAttempt.taskId
  taskRevision := claim.plannedAttempt.taskRevision

def completionTaskRequest? (value : Option Json) : Option CompletionTaskRequest := do
  let request : CompletionTaskRequest :=
    { claim := ← completionTaskClaim? (field value "claim")
      operationId := ← operationId? (field value "operationId")
      taskId := ← taskId? (field value "taskId")
      taskRevision := ⟨← text (field value "taskRevision")⟩ }
  if request.exactBinding then some request else none

structure FocusedCompletedTaskObservation where
  claim : CompletionTaskClaim
  observedAt : JournalPosition
  operationId : OperationId
  taskId : TaskId
  taskRevision : TaskRevision
  trackerRevision : TrackerRevision
  target : TrackerTarget
deriving DecidableEq

structure CompletionClaimReplacementIntendedEvent where
  claim : CompletionTaskClaim
  operationId : OperationId
deriving DecidableEq

structure CompletionClaimReplacementAttemptIntendedEvent where
  attemptOrdinal : Nat
  claim : CompletionTaskClaim
  operationId : OperationId
deriving DecidableEq

structure CompletionClaimReplacedEvent where
  claim : CompletionTaskClaim
  operationId : OperationId
deriving DecidableEq

structure CompletionClaimDeletionIntendedEvent where
  claim : CompletionTaskClaim
  operationId : OperationId
  successObservation : FocusedCompletedTaskObservation
deriving DecidableEq

structure CompletionClaimDeletionAttemptIntendedEvent where
  attemptOrdinal : Nat
  claim : CompletionTaskClaim
  operationId : OperationId
  successObservation : FocusedCompletedTaskObservation
deriving DecidableEq

structure CompletionClaimDeletedEvent where
  claim : CompletionTaskClaim
  operationId : OperationId
  successObservation : FocusedCompletedTaskObservation
deriving DecidableEq

structure IntegrationFinalitySettledEvent where
  claim : CompletionTaskClaim
  deletionOperationId : OperationId
  replacementOperationId : OperationId
  successObservation : FocusedCompletedTaskObservation
deriving DecidableEq

inductive CompletionClaimFinalityJournalEvent where
  | replacementIntended (event : CompletionClaimReplacementIntendedEvent)
  | replacementAttemptIntended (event : CompletionClaimReplacementAttemptIntendedEvent)
  | replaced (event : CompletionClaimReplacedEvent)
  | deletionIntended (event : CompletionClaimDeletionIntendedEvent)
  | deletionAttemptIntended (event : CompletionClaimDeletionAttemptIntendedEvent)
  | deleted (event : CompletionClaimDeletedEvent)
  | settled (event : IntegrationFinalitySettledEvent)
deriving DecidableEq

namespace CompletionClaimFinalityJournalEvent

def claim : CompletionClaimFinalityJournalEvent → CompletionTaskClaim
  | replacementIntended event => event.claim
  | replacementAttemptIntended event => event.claim
  | replaced event => event.claim
  | deletionIntended event => event.claim
  | deletionAttemptIntended event => event.claim
  | deleted event => event.claim
  | settled event => event.claim

def replacement? : CompletionClaimFinalityJournalEvent → Option CompletionClaimReplacedEvent
  | replaced event => some event
  | _ => none

def settlement? : CompletionClaimFinalityJournalEvent → Option IntegrationFinalitySettledEvent
  | settled event => some event
  | _ => none

end CompletionClaimFinalityJournalEvent

def completionTaskIntended? : WorkflowJournalEvent → Option CompletionTaskRequest
  | .protocol event =>
      if event.kind = .completionTaskIntended then
        completionTaskRequest? (field (some event.payload.object) "request")
      else none
  | _ => none

end Dalph
