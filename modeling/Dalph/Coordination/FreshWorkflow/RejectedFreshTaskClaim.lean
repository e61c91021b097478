import Dalph.Coordination.Reconstruction.GraphKnowledge

/-!
# Rejected fresh task claims

A rejected claim constrains its task until the tracker shows the task unclaimed.  A later complete
graph observation wakes one focused read of the claim, and the read's own outcome clears the
constraint or waits for the next observation.
-/

namespace Dalph

namespace FreshWorkflow

structure TaskWorkSpecification where
  body : String
  fingerprint : TaskRevision
  taskId : TaskId
  title : String
deriving DecidableEq

def specificationOf (facts : FocusedTaskWorkSpecificationFactsObserved) : TaskWorkSpecification :=
  { body := facts.body
    fingerprint := facts.fingerprint
    taskId := facts.taskId
    title := facts.title }

/-- One fresh ticket's exact next protocol step, with all its members. -/
inductive FreshWorkflowStep where
  | readCurrentTaskGraph (predecessorOperationId : OperationId) (task : TrackerTask)
  | acquireTaskClaim (predecessorOperationId : OperationId) (task : TrackerTask)
  | readPostClaimGraph (claimOperation : AcquireTaskClaimOperation)
      (predecessorOperationId : OperationId) (task : TrackerTask)
  | readRejectedTaskClaim (predecessorOperationId rejectedClaimOperationId : OperationId)
      (task : TrackerTask)
  | readTaskWorkSpecification (claimOperationId predecessorOperationId : OperationId)
      (task : TrackerTask)
  | readTaskAttemptBaseRetryFacts
      (claimOperationId operationId predecessorOperationId : OperationId)
      (operation : TaskTrackerReadOperation) (task : TrackerTask)
  | readTaskAttemptBase (retryRequestId : Option String)
      (claimOperationId operationId : OperationId) (policy : AttemptBasePolicy)
      (predecessorOperationId : OperationId) (specification : TaskWorkSpecification)
      (task : TrackerTask)
  | recordTaskAttemptPlan (baseSha : GitCommitSha) (ordinal : Nat)
      (claimOperationId predecessorOperationId : OperationId)
      (specification : TaskWorkSpecification) (task : TrackerTask)
  | reconcileTaskWorktree (claimOperationId : OperationId) (plannedAttempt : PlannedTaskAttempt)
      (predecessorOperationId : OperationId) (task : TrackerTask)
  | beginPlannedAttemptExecutorWork (claimOperationId : OperationId)
      (plannedAttempt : PlannedTaskAttempt) (specification : TaskWorkSpecification)
      (task : TrackerTask)
  | observePlannedAttemptExecutorWork (acceptedReportOrdinal : Nat)
      (plannedAttempt : PlannedTaskAttempt) (specification : TaskWorkSpecification)
      (task : TrackerTask)
deriving DecidableEq

def FreshWorkflowStep.task : FreshWorkflowStep → TrackerTask
  | readCurrentTaskGraph _ task | acquireTaskClaim _ task | readPostClaimGraph _ _ task
  | readRejectedTaskClaim _ _ task | readTaskWorkSpecification _ _ task
  | readTaskAttemptBaseRetryFacts _ _ _ _ task | readTaskAttemptBase _ _ _ _ _ _ task
  | recordTaskAttemptPlan _ _ _ _ _ task | reconcileTaskWorktree _ _ _ task
  | beginPlannedAttemptExecutorWork _ _ _ task
  | observePlannedAttemptExecutorWork _ _ _ task => task

/-- The transitions that a fresh step asks for. -/
inductive Transition where
  | continueFreshWorkflowOperation (operationId : OperationId) (taskId : TaskId)
  | commitFreshTaskClaimIntent (task : TrackerTask)
  | beginPlannedAttemptExecutorWork (plannedAttempt : PlannedTaskAttempt)
  | observePlannedAttemptExecutorWork (acceptedReportOrdinal : Nat)
      (plannedAttempt : PlannedTaskAttempt)
deriving DecidableEq

/-- A step with its transition. -/
structure FreshWorkflowDecision where
  step : FreshWorkflowStep
  transition : Transition
deriving DecidableEq

def transitionFor : FreshWorkflowStep → Transition
  | .acquireTaskClaim _ task => .commitFreshTaskClaimIntent task
  | .beginPlannedAttemptExecutorWork _ plannedAttempt _ _ =>
      .beginPlannedAttemptExecutorWork plannedAttempt
  | .observePlannedAttemptExecutorWork ordinal plannedAttempt _ _ =>
      .observePlannedAttemptExecutorWork ordinal plannedAttempt
  | .readCurrentTaskGraph predecessor task | .readPostClaimGraph _ predecessor task
  | .readRejectedTaskClaim predecessor _ task | .readTaskWorkSpecification _ predecessor task
  | .readTaskAttemptBaseRetryFacts _ _ predecessor _ task
  | .readTaskAttemptBase _ _ _ _ predecessor _ task
  | .recordTaskAttemptPlan _ _ _ predecessor _ task | .reconcileTaskWorktree _ _ predecessor task =>
      .continueFreshWorkflowOperation predecessor task.id

def decisionFor (step : FreshWorkflowStep) : FreshWorkflowDecision :=
  { step, transition := transitionFor step }

def isFreshTaskEntryDecision (decision : FreshWorkflowDecision) : Bool :=
  match decision.step, decision.transition with
  | .readCurrentTaskGraph _ _, .continueFreshWorkflowOperation _ _ => true
  | .acquireTaskClaim _ _, .commitFreshTaskClaimIntent _ => true
  | _, _ => false

inductive RejectedFreshTaskClaimDisposition where
  | constraintAbsent
  | constraintCleared
  | constraintRetained
  | observeConstraint (step : FreshWorkflowStep)
deriving DecidableEq

def isWithinWakeWindow (record : JournalRecord) (runId : RunId) (after : JournalPosition)
    (before : Option JournalPosition) : Bool :=
  record.runId = runId && record.position > after &&
    before.all fun before => record.position < before

def completeGraphOutcome? (event : WorkflowJournalEvent) : Option OperationId :=
  match event with
  | .taskTrackerFactsObserved observation =>
      if observation.isGraphFacts then some observation.operationId else none
  | _ => none

def isAcceptedCompleteGraphOutcome (record : JournalRecord)
    (completeGraphObserved : List OperationId) (required : Option (List OperationId)) : Bool :=
  (completeGraphOutcome? record.event).any fun operationId =>
    operationId ∈ completeGraphObserved && required.all fun required => operationId ∈ required

def graphRead? : WorkflowJournalEvent → Option ReadTrackerGraphOperation
  | .taskTrackerReadIntentRecorded operation => operation.graph?
  | _ => none

def graphReadIntentBeforeOutcome (records : JournalHistorySource) (runId : RunId)
    (outcome : JournalRecord) (outcomeOperationId : OperationId) (targetKey : String) :
    Option ReadTrackerGraphOperation :=
  (findLast (journalRecordsForOperationId outcomeOperationId records) fun record =>
    record.runId = runId && record.position < outcome.position &&
      (graphRead? record.event).any fun operation =>
        operation.operationId = outcomeOperationId &&
          taskTrackerTargetKey operation.target = targetKey).bind
    fun record => graphRead? record.event

def completeGraphWakeFor (records : JournalHistorySource) (runId : RunId)
    (after : JournalPosition) (targetKey : String) (completeGraphObserved : List OperationId)
    (before : Option JournalPosition) (required : Option (List OperationId)) :
    Option ReadTrackerGraphOperation := do
  let outcome ← findLast (journalRecordsOfKind .taskTrackerFactsObserved records) fun record =>
    isWithinWakeWindow record runId after before &&
      isAcceptedCompleteGraphOutcome record completeGraphObserved required
  let operationId ← completeGraphOutcome? outcome.event
  graphReadIntentBeforeOutcome records runId outcome operationId targetKey

def claimRead? : WorkflowJournalEvent → Option FocusedTaskReadOperation
  | .taskTrackerReadIntentRecorded (.readTaskClaim operation) => some operation
  | _ => none

/-- The focused read of a task's claim behind a rejection and caused by the rejected claim. -/
def focusedConstraintRead? (runId : RunId) (after : JournalPosition) (taskId : TaskId)
    (targetKey : String) (claimOperationId : OperationId) (record : JournalRecord) :
    Option (JournalRecord × FocusedTaskReadOperation) := do
  let operation ← claimRead? record.event
  if record.runId = runId && record.position > after && operation.taskId = taskId &&
      taskTrackerTargetKey operation.target = targetKey &&
      claimOperationId ∈ operation.predecessorOperationIds then
    some (record, operation)
  else none

inductive FocusedReadAdvance where
  | cleared
  | ignored
  | retained
  | wakeAdvanced (wakeBaseline : JournalPosition)
deriving DecidableEq

def factsObserved? : WorkflowJournalEvent → Option TaskTrackerFactsObservation
  | .taskTrackerFactsObserved observation => some observation
  | _ => none

def focusedReadOutcomeAfter (records : JournalHistorySource) (read : JournalRecord)
    (operationId : OperationId) (runId : RunId) :
    Option (JournalRecord × TaskTrackerFactsObservation) := do
  let record ← findLast (journalRecordsForOperationId operationId records) fun record =>
    record.runId = runId && record.position > read.position &&
      (factsObserved? record.event).any fun observation => observation.operationId = operationId
  let observation ← factsObserved? record.event
  some (record, observation)

def showsUnclaimedTask : TaskTrackerFactsObservation → Bool
  | .focusedTaskClaimFacts facts =>
      match facts.observation with
      | .unclaimedTask _ => true
      | .activeTaskClaim _ => false
  | _ => false

/-- A read counts once a complete graph outcome woke it; then its own outcome decides. -/
def advanceFocusedConstraintRead (records : JournalHistorySource)
    (read : JournalRecord × FocusedTaskReadOperation) (runId : RunId)
    (wakeBaseline : JournalPosition) (targetKey : String)
    (completeGraphObserved : List OperationId) : FocusedReadAdvance :=
  match completeGraphWakeFor records runId wakeBaseline targetKey completeGraphObserved
      (some read.1.position) (some read.2.predecessorOperationIds) with
  | none => .ignored
  | some _ =>
      match focusedReadOutcomeAfter records read.1 read.2.operationId runId with
      | none => .retained
      | some (record, facts) =>
          if showsUnclaimedTask facts then .cleared else .wakeAdvanced record.position

def advanceFocusedConstraintReads (records : JournalHistorySource) (runId : RunId)
    (targetKey : String) (completeGraphObserved : List OperationId) :
    List (JournalRecord × FocusedTaskReadOperation) → JournalPosition → FocusedReadAdvance
  | [], wakeBaseline => .wakeAdvanced wakeBaseline
  | read :: reads, wakeBaseline =>
      match advanceFocusedConstraintRead records read runId wakeBaseline targetKey
          completeGraphObserved with
      | .ignored =>
          advanceFocusedConstraintReads records runId targetKey completeGraphObserved reads
            wakeBaseline
      | .cleared => .cleared
      | .retained => .retained
      | .wakeAdvanced later =>
          advanceFocusedConstraintReads records runId targetKey completeGraphObserved reads later

def selectionClaim? : WorkflowJournalEvent → Option AcquireTaskClaimOperation
  | .taskClaimAcquisitionIntended operation =>
      if operation.authority = .taskSelection then some operation else none
  | _ => none

def isRejectedClaimOutcome (record : JournalRecord) (runId : RunId) (after : JournalPosition)
    (operationId : OperationId) : Bool :=
  record.runId = runId && record.position > after &&
    match record.event with
    | .taskClaimAcquisitionRejected rejected _ => rejected = operationId
    | _ => false

def latestRejectedClaimOutcome (records : JournalHistorySource) (runId : RunId)
    (claimIntentPosition : JournalPosition) (claimOperationId : OperationId) :
    Option JournalRecord :=
  findLast (journalRecordsForOperationId claimOperationId records)
    (isRejectedClaimOutcome · runId claimIntentPosition claimOperationId)

def recordsToSearch (records : JournalHistorySource) (taskId : TaskId) : List JournalRecord :=
  match records with
  | .raw records => records
  | .indexed _ => journalRecordsForTask taskId records

/-- The constraint behind a rejection, from the focused reads up to now. -/
def rejectedConstraint (records : JournalHistorySource) (task : TrackerTask) (runId : RunId)
    (rejected : JournalRecord) (claimOperationId : OperationId)
    (completeGraphObserved : List OperationId) (targetKey : String) :
    RejectedFreshTaskClaimDisposition :=
  let focusedReads := (recordsToSearch records task.id).filterMap
    (focusedConstraintRead? runId rejected.position task.id targetKey claimOperationId)
  match advanceFocusedConstraintReads records runId targetKey completeGraphObserved focusedReads
      rejected.position with
  | .cleared => .constraintCleared
  | .retained | .ignored => .constraintRetained
  | .wakeAdvanced wakeBaseline =>
      match completeGraphWakeFor records runId wakeBaseline targetKey completeGraphObserved none
          none with
      | none => .constraintRetained
      | some wakeGraph =>
          .observeConstraint (.readRejectedTaskClaim wakeGraph.operationId claimOperationId task)

def rejectedFreshTaskClaimDisposition (records : JournalHistorySource) (task : TrackerTask)
    (claimIntent : JournalRecord) (completeGraphObserved : List OperationId)
    (immutableRunTargetKey : String) : RejectedFreshTaskClaimDisposition :=
  match selectionClaim? claimIntent.event with
  | none => .constraintAbsent
  | some operation =>
      match latestRejectedClaimOutcome records claimIntent.runId claimIntent.position
          operation.acquisition.operationId with
      | none => .constraintAbsent
      | some rejected =>
          rejectedConstraint records task claimIntent.runId rejected
            operation.acquisition.operationId completeGraphObserved immutableRunTargetKey

end FreshWorkflow

end Dalph
