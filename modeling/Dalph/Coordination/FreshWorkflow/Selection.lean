import Dalph.Coordination.DeliveryProposal
import Dalph.Coordination.FreshWorkflow.RejectedFreshTaskClaim
import Dalph.Coordination.PauseProgress
import Dalph.Coordination.Reconstruction.PauseState
import Dalph.Workflow.ClaimAuthority
import Dalph.Workflow.ExecutorEvidence

/-!
# Fresh workflow selection

Each eligible task that no responsibility owns gets the next step of its workflow, read from the
accepted history.  A second computation lists the tasks that may still enter fresh work.
-/

namespace Dalph

namespace FreshWorkflow

/-- One immutable input to the selection: indexed evidence of an accepted history with the graph,
pauses and responsibilities reconstructed from it. -/
structure CurrentDeliveryFrame where
  currentGraph : TaskDagSnapshot
  pause : ReconstructedPauseState
  responsibility : List WorkflowResponsibilityEntry
  runId : RunId
  evidence : JournalRecordEvidence
  /-- The records that the evidence shows. -/
  records : List JournalRecord
  presented : Presents (.indexed evidence) records
  canonical : Canonical runId records

def CurrentDeliveryFrame.source (frame : CurrentDeliveryFrame) : JournalHistorySource :=
  .indexed frame.evidence

/-- The latest boundary whose exact accepted lineage must be present. -/
inductive FreshAttemptLineageBoundary where
  | plan
  | worktreeReady
deriving DecidableEq

structure AcceptedFreshAttemptLineage where
  claimOperationId : OperationId
  planOperationId : OperationId
  postClaimGraphOperationId : OperationId
  specificationOperationId : OperationId
deriving DecidableEq

structure ReplacementContinuationAuthority where
  claim : ActiveTaskClaim
  plannedAttempt : PlannedTaskAttempt
  specification : TaskWorkSpecification
  successorPlanOperationId : OperationId
deriving DecidableEq

/-- The two readers of attempt authority; the selection uses their answers, whatever these are. -/
structure AttemptAuthorityReaders where
  acceptedFreshAttemptLineage : JournalHistorySource → PlannedTaskAttempt →
    FreshAttemptLineageBoundary → Option AcceptedFreshAttemptLineage
  replacementContinuationAuthorityFrom : JournalHistorySource → RunId → PlannedTaskAttempt →
    OperationId → Option ReplacementContinuationAuthority

/-- Operations whose read or worktree outcome is recorded. -/
def observedOperationIds (records : JournalHistorySource) : List OperationId :=
  (journalRecordsOfKind .taskTrackerFactsObserved records).filterMap
      (fun record => (factsObserved? record.event).map (·.operationId)) ++
    (journalRecordsOfKind .taskWorktreeReady records).filterMap fun record =>
      match record.event with
      | .taskWorktreeReady operationId _ => some operationId
      | _ => none

def completeGraphObservationIds (records : JournalHistorySource) : List OperationId :=
  (journalRecordsOfKind .taskTrackerFactsObserved records).filterMap
    fun record => completeGraphOutcome? record.event

def acceptedAttemptBasePolicy (records : JournalHistorySource) : Option AttemptBasePolicy := do
  let beginning ← journalRecordByKey workflowRunBeganRecordKey records
  match beginning.event with
  | .workflowRunBegan event => event.attemptBasePolicy
  | _ => none

def specificationFacts? (event : WorkflowJournalEvent) :
    Option FocusedTaskWorkSpecificationFactsObserved :=
  match event with
  | .taskTrackerFactsObserved (.focusedTaskWorkSpecificationFacts facts) => some facts
  | _ => none

/-- The specification that a plan was made for, of one read where one is given. -/
def plannedSpecificationFor (records : JournalHistorySource) (plannedAttempt : PlannedTaskAttempt)
    (immutableRunTargetKey : String) (operationId : Option OperationId) :
    Option TaskWorkSpecification := do
  let record ← findLast (journalRecordsForTask plannedAttempt.taskId records) fun record =>
    (specificationFacts? record.event).any fun facts =>
      operationId.all (facts.operationId = ·) &&
        taskTrackerTargetKey facts.target = immutableRunTargetKey &&
        facts.taskId = plannedAttempt.taskId && facts.fingerprint = plannedAttempt.taskRevision
  (specificationFacts? record.event).map specificationOf

section

variable (readers : AttemptAuthorityReaders)

def exactAttemptHandoff? (runId : RunId) (records : JournalRecordEvidence)
    (record : JournalRecord) : Option (TaskId × OperationId) :=
  match record.event with
  | .plannedAttemptExecutorWorkResponsibilityBegan plannedAttempt =>
      if record.runId ≠ runId || record.runId ≠ plannedAttempt.runId ||
          record.key ≠
            plannedAttemptExecutorWorkResponsibilityBeganRecordKey plannedAttempt.attemptId then
        none
      else
        (readers.acceptedFreshAttemptLineage
          (.indexed (journalEvidenceBefore records (record.position + 1))) plannedAttempt
          .worktreeReady).map fun lineage => (plannedAttempt.taskId, lineage.claimOperationId)
  | _ => none

def exactAttemptHandoffs (runId : RunId) (records : JournalRecordEvidence) :
    List (TaskId × OperationId) :=
  (journalRecordsOfKind .plannedAttemptExecutorWorkResponsibilityBegan (.indexed records)).filterMap
    (exactAttemptHandoff? readers runId records)

def claimOutcome? (records : JournalHistorySource) (intent : JournalRecord)
    (acquisition : TaskClaimAcquisition) : Option WorkflowJournalEvent :=
  ((journalRecordByKey (outcomeRecordKey acquisition.operationId) records).filter fun record =>
    record.position > intent.position && record.runId = intent.runId).map (·.event)

def exactOwnedClaimWasAccepted (records : JournalHistorySource) (intent : JournalRecord)
    (acquisition : TaskClaimAcquisition) : Bool :=
  (claimOutcome? records intent acquisition).any fun event =>
    match event with
    | .taskClaimAcquired claim => claim = acquisition.claim
    | _ => false

def exactPreOwnershipRejectionWasAccepted (records : JournalHistorySource) (intent : JournalRecord)
    (acquisition : TaskClaimAcquisition) : Bool :=
  !exactOwnedClaimWasAccepted records intent acquisition &&
    (claimOutcome? records intent acquisition).any fun event =>
      match event with
      | .taskClaimAcquisitionRejected operationId _ => operationId = acquisition.operationId
      | _ => false

def projectFreshTaskCommitments (runId : RunId) (records : JournalRecordEvidence) :
    List FreshTaskCommitment :=
  let handoffs := exactAttemptHandoffs readers runId records
  (journalRecordsOfKind .taskClaimAcquisitionIntended (.indexed records)).filterMap fun record => do
    let operation ← selectionClaim? record.event
    let acquisition := operation.acquisition
    if record.key ≠ intentRecordKey acquisition.operationId ||
        exactPreOwnershipRejectionWasAccepted (.indexed records) record acquisition ||
        (acquisition.taskId, acquisition.operationId) ∈ handoffs then
      none
    else
      some
        { acceptedIntentPosition := record.position
          issued := true
          operation
          runId }

end

def retryRequest? (record : JournalRecord) : Option (String × OperationId) := do
  if record.event.tag = .protocol .taskAttemptBaseRetryRequested then
    let event := some record.event.object
    return (← text (field event "requestId"),
      ⟨← text (field (field event "subject") "refusedReadOperationId")⟩)
  else none

def taskAttemptBaseRetryFactOperationId (requestId family : String) : OperationId :=
  ⟨"task-attempt-base-retry:" ++ Json.stringify (.arr [.str requestId, .str family])⟩

def taskAttemptBaseReadOperationIdFor (claimOperationId specificationOperationId : OperationId) :
    OperationId :=
  ⟨"task-attempt-base:" ++
    Json.stringify (.arr [.str claimOperationId.value, .str specificationOperationId.value])⟩

/-- The task was open with satisfied prerequisites in the graph of an observation. -/
def taskWasEligibleAt (records : List JournalRecord) (outcome : JournalRecord) (taskId : TaskId) :
    Bool :=
  (completeGraphOutcome? outcome.event).isSome &&
    (journalGraphSnapshotForObservation records outcome.position).any fun graph =>
      (graph.snapshot.lifecycleOf taskId).any isTaskOpen &&
        (graph.snapshot.prerequisitesOf taskId).all fun prerequisiteId =>
          (graph.snapshot.lifecycleOf prerequisiteId).any isDependencySatisfied

def baseRead? : WorkflowJournalEvent → Option ReadTaskAttemptBaseOperation
  | .taskAttemptBaseReadIntended operation => some operation
  | _ => none

def specificationRead? : WorkflowJournalEvent → Option FocusedTaskReadOperation
  | .taskTrackerReadIntentRecorded (.readTaskWorkSpecification operation) => some operation
  | _ => none

def baseObservation? : WorkflowJournalEvent → Option TaskAttemptBaseObservation
  | .taskAttemptBaseObserved _ observation => some observation
  | _ => none

def acquiredClaim? : WorkflowJournalEvent → Option ActiveTaskClaim
  | .taskClaimAcquired claim => some claim
  | _ => none

def observedClaim? : WorkflowJournalEvent → Option ActiveTaskClaim
  | .taskTrackerFactsObserved (.focusedTaskClaimFacts facts) =>
      match facts.observation with
      | .activeTaskClaim claim => some claim
      | .unclaimedTask _ => none
  | _ => none

/-- What a retry request asks for next: nothing yet, one step, or that the ordinary derivation goes
on. -/
inductive BaseRetryWorkflow where
  | retained
  | step (step : FreshWorkflowStep)
  | ordinary
deriving DecidableEq

def baseRetryFacts (claimOperationId : OperationId) (operation : TaskTrackerReadOperation)
    (task : TrackerTask) : BaseRetryWorkflow :=
  .step (.readTaskAttemptBaseRetryFacts claimOperationId operation.operationId
    ((operation.predecessorOperationIds.head?).getD claimOperationId) operation task)

/-- The retried base read itself, unless its outcome is recorded. -/
def baseRetryRead (frame : CurrentDeliveryFrame) (requestId : String)
    (baseRead : ReadTaskAttemptBaseOperation) (specificationId : OperationId)
    (work : FocusedTaskWorkSpecificationFactsObserved) (task : TrackerTask) : BaseRetryWorkflow :=
  let successorId := taskAttemptBaseReadOperationIdFor baseRead.claimOperationId specificationId
  match (journalRecordByKey (outcomeRecordKey successorId) frame.source).bind
      fun record => baseObservation? record.event with
  | some (.refused _) => .retained
  | some (.qualified _) => .ordinary
  | none =>
      .step (.readTaskAttemptBase (some requestId) baseRead.claimOperationId successorId
        baseRead.policy specificationId (specificationOf work) task)

def baseRetryReads (frame : CurrentDeliveryFrame) (request : JournalRecord) (requestId : String)
    (baseRead : ReadTaskAttemptBaseOperation) (claim : ActiveTaskClaim) (target : TrackerTarget)
    (task : TrackerTask) : BaseRetryWorkflow :=
  let graphId := taskAttemptBaseRetryFactOperationId requestId "Graph"
  let claimId := taskAttemptBaseRetryFactOperationId requestId "Claim"
  let specificationId := taskAttemptBaseRetryFactOperationId requestId "Specification"
  match journalRecordByKey (outcomeRecordKey graphId) frame.source with
  | none =>
      baseRetryFacts baseRead.claimOperationId
        (.readTrackerGraph
          { cause := .workflowEstablishment
            operationId := graphId
            predecessorOperationIds := [baseRead.claimOperationId]
            explicitlyCoveredTaskIds := [task.id]
            target }) task
  | some graph =>
      if graph.position ≤ request.position || !taskWasEligibleAt frame.records graph task.id then
        .retained
      else
        match journalRecordByKey (outcomeRecordKey claimId) frame.source with
        | none =>
            baseRetryFacts baseRead.claimOperationId
              (.readTaskClaim
                { operationId := claimId
                  predecessorOperationIds := [graphId]
                  target
                  taskId := task.id }) task
        | some claimRead =>
            if !(observedClaim? claimRead.event).any (isExactTaskClaim · claim) then .retained
            else
              match journalRecordByKey (outcomeRecordKey specificationId) frame.source with
              | none =>
                  baseRetryFacts baseRead.claimOperationId
                    (.readTaskWorkSpecification
                      { operationId := specificationId
                        predecessorOperationIds := [claimId]
                        target
                        taskId := task.id }) task
              | some specification =>
                  match specificationFacts? specification.event with
                  | none => .retained
                  | some work =>
                      if work.fingerprint ≠ baseRead.taskRevision then .retained
                      else baseRetryRead frame requestId baseRead specificationId work task

/-- A request is retained even when refreshed tracker authority refuses its successor. -/
def baseRetryWorkflowStep (frame : CurrentDeliveryFrame) (task : TrackerTask) :
    BaseRetryWorkflow :=
  match findLast (journalRecordsForTask task.id frame.source)
      fun record => (retryRequest? record).isSome with
  | none => .ordinary
  | some request =>
      match retryRequest? request with
      | none => .ordinary
      | some (requestId, refusedReadOperationId) =>
          match (journalRecordByKey (intentRecordKey refusedReadOperationId) frame.source).bind
              fun record => baseRead? record.event with
          | none => .retained
          | some baseRead =>
              let claim := (journalRecordByKey (outcomeRecordKey baseRead.claimOperationId)
                frame.source).bind fun record => acquiredClaim? record.event
              let originalSpecification := (baseRead.predecessorOperationIds.filterMap fun id =>
                (journalRecordByKey (intentRecordKey id) frame.source).bind
                  fun record => specificationRead? record.event).head?
              match claim, originalSpecification with
              | some claim, some specification =>
                  baseRetryReads frame request requestId baseRead claim specification.target task
              | _, _ => .retained

/-- What one selection reads besides the history. -/
structure SelectionContext where
  completeGraphObserved : List OperationId
  immutableRunTargetKey : String
  observed : List OperationId
  recoveredAttemptIds : List AttemptId

def runGraphRead? (context : SelectionContext) (event : WorkflowJournalEvent) :
    Option ReadTrackerGraphOperation :=
  (graphRead? event).filter fun operation =>
    taskTrackerTargetKey operation.target = context.immutableRunTargetKey

def begunExecutorWork? : WorkflowJournalEvent → Option PlannedTaskAttempt
  | .plannedAttemptExecutorWorkResponsibilityBegan plannedAttempt => some plannedAttempt
  | _ => none

def acceptedReport? : WorkflowJournalEvent → Option PlannedAttemptExecutorWorkReported
  | .plannedAttemptExecutorWorkReported event => some event
  | _ => none

def reportsExecuting : PlannedAttemptExecutorReport → Bool
  | .executing _ => true
  | _ => false

/-- Observation of executor work that began for the task and was last reported executing. -/
def executorObservation? (frame : CurrentDeliveryFrame) (context : SelectionContext)
    (task : TrackerTask) : Option FreshWorkflowStep := do
  let responsibility ← findLast (journalRecordsForTask task.id frame.source) fun record =>
    (begunExecutorWork? record.event).any (·.taskId = task.id)
  let plannedAttempt ← begunExecutorWork? responsibility.event
  if plannedAttempt.attemptId ∈ context.recoveredAttemptIds then none
  else
    let record ← lastJournalRecordForAttemptKind plannedAttempt.attemptId
      .plannedAttemptExecutorWorkReported frame.source
    let report ← acceptedReport? record.event
    let specification ←
      plannedSpecificationFor frame.source plannedAttempt context.immutableRunTargetKey none
    if reportsExecuting report.report then
      some (.observePlannedAttemptExecutorWork report.ordinal plannedAttempt specification task)
    else none

def worktreeReconciliation? : WorkflowJournalEvent → Option PlannedAttemptOperation
  | .taskWorktreeReconciliationIntended operation => some operation
  | _ => none

/-- The last reconciliation of the plan's worktree that an operation causally precedes. -/
def worktreeReconciliationFor (frame : CurrentDeliveryFrame) (plannedAttempt : PlannedTaskAttempt)
    (planOperationId : OperationId) (task : TrackerTask) : Option PlannedAttemptOperation :=
  (findLast (journalRecordsForTask task.id frame.source) fun record =>
    (worktreeReconciliation? record.event).any fun operation =>
      plannedTaskAttemptEquivalence operation.plannedAttempt plannedAttempt &&
        planOperationId ∈
          causalPredecessorOperationIds frame.source operation.predecessorOperationIds).bind
    fun record => worktreeReconciliation? record.event

def worktreeWasObserved (context : SelectionContext) (worktree : Option PlannedAttemptOperation) :
    Bool :=
  worktree.any fun operation => operation.operationId ∈ context.observed

section

variable (readers : AttemptAuthorityReaders)

def commitmentFor (frame : CurrentDeliveryFrame) (task : TrackerTask) :
    Option FreshTaskCommitment :=
  (projectFreshTaskCommitments readers frame.runId frame.evidence).find? fun commitment =>
    commitment.operation.acquisition.taskId = task.id

def ordinaryPlanStep? (frame : CurrentDeliveryFrame) (context : SelectionContext)
    (plannedAttempt : PlannedTaskAttempt) (task : TrackerTask) : Option FreshWorkflowStep := do
  let lineage ← readers.acceptedFreshAttemptLineage frame.source plannedAttempt .plan
  let commitment ← commitmentFor readers frame task
  if commitment.claimOperationId ≠ lineage.claimOperationId then none
  else
    let specification ← plannedSpecificationFor frame.source plannedAttempt
      context.immutableRunTargetKey (some lineage.specificationOperationId)
    let worktree := worktreeReconciliationFor frame plannedAttempt lineage.planOperationId task
    if (readers.acceptedFreshAttemptLineage frame.source plannedAttempt .worktreeReady).isSome then
      some (.beginPlannedAttemptExecutorWork lineage.claimOperationId plannedAttempt specification
        task)
    else if worktreeWasObserved context worktree then none
    else
      some (.reconcileTaskWorktree lineage.claimOperationId plannedAttempt lineage.planOperationId
        task)

def replacementContinuationAuthorityMatchesStep (authority : ReplacementContinuationAuthority) :
    FreshWorkflowStep → Bool
  | .beginPlannedAttemptExecutorWork claimOperationId plannedAttempt specification task =>
      task.id = authority.plannedAttempt.taskId && claimOperationId = authority.claim.operationId &&
        plannedTaskAttemptEquivalence plannedAttempt authority.plannedAttempt &&
        specification = authority.specification
  | .reconcileTaskWorktree claimOperationId plannedAttempt predecessorOperationId task =>
      task.id = authority.plannedAttempt.taskId && claimOperationId = authority.claim.operationId &&
        predecessorOperationId = authority.successorPlanOperationId &&
        plannedTaskAttemptEquivalence plannedAttempt authority.plannedAttempt
  | _ => false

/-- Continuation of a replacement's successor plan under its own authority. -/
def replacementStep? (frame : CurrentDeliveryFrame) (context : SelectionContext)
    (plan : PlannedAttemptOperation) (task : TrackerTask) : Option FreshWorkflowStep := do
  let authority ← readers.replacementContinuationAuthorityFrom frame.source frame.runId
    plan.plannedAttempt plan.operationId
  let worktree := worktreeReconciliationFor frame plan.plannedAttempt plan.operationId task
  let step : FreshWorkflowStep :=
    if worktreeWasObserved context worktree then
      .beginPlannedAttemptExecutorWork authority.claim.operationId plan.plannedAttempt
        authority.specification task
    else
      .reconcileTaskWorktree authority.claim.operationId plan.plannedAttempt plan.operationId task
  if replacementContinuationAuthorityMatchesStep authority step then some step else none

def ordinaryPlanWasRecorded (frame : CurrentDeliveryFrame) (plan : PlannedAttemptOperation)
    (task : TrackerTask) : Bool :=
  (journalRecordsForTask task.id frame.source).any fun record =>
    match record.event with
    | .taskAttemptPlanned operation =>
        operation.operationId = plan.operationId &&
          plannedTaskAttemptEquivalence operation.plannedAttempt plan.plannedAttempt
    | _ => false

def plansOf (frame : CurrentDeliveryFrame) (task : TrackerTask) : List PlannedAttemptOperation :=
  (recordedTaskAttemptPlans frame.source).filter fun plan => plan.plannedAttempt.taskId = task.id

def baseReadFor (frame : CurrentDeliveryFrame) (claimOperationId : OperationId)
    (facts : FocusedTaskWorkSpecificationFactsObserved) (task : TrackerTask) :
    Option ReadTaskAttemptBaseOperation :=
  (findLast (journalRecordsForTask task.id frame.source) fun record =>
    (baseRead? record.event).any fun operation =>
      operation.claimOperationId = claimOperationId &&
        operation.taskRevision = facts.fingerprint &&
        facts.operationId ∈ operation.predecessorOperationIds).bind
    fun record => baseRead? record.event

def specificationFollowsClaim (frame : CurrentDeliveryFrame)
    (facts : FocusedTaskWorkSpecificationFactsObserved) (claimOperationId : OperationId)
    (task : TrackerTask) : Bool :=
  ((journalRecordsForTask task.id frame.source).find? fun record =>
      (specificationRead? record.event).any (·.operationId = facts.operationId)).any fun record =>
    (specificationRead? record.event).any fun operation =>
      claimOperationId ∈
        causalPredecessorOperationIds frame.source operation.predecessorOperationIds

/-- Planning behind an observed specification: the base is fixed, read or still to be read. -/
def specifiedStep? (frame : CurrentDeliveryFrame)
    (facts : FocusedTaskWorkSpecificationFactsObserved) (policy : AttemptBasePolicy)
    (task : TrackerTask) : Option FreshWorkflowStep := do
  let commitment ← commitmentFor readers frame task
  let claimOperationId := commitment.claimOperationId
  if !specificationFollowsClaim frame facts claimOperationId task then none
  else
    let ordinal := (plansOf frame task).length
    let specification := specificationOf facts
    match policy with
    | .explicitFixedBase baseSha =>
        some (.recordTaskAttemptPlan baseSha ordinal claimOperationId facts.operationId
          specification task)
    | .qualifiedCurrentIntegrationHead .. =>
        let intent := baseReadFor frame claimOperationId facts task
        let outcome := intent.bind fun intent =>
          (journalRecordByKey (outcomeRecordKey intent.operationId) frame.source).bind
            fun record => baseObservation? record.event
        match outcome with
        | some (.refused _) => none
        | some (.qualified baseSha) =>
            some (.recordTaskAttemptPlan baseSha ordinal claimOperationId
              ((intent.map (·.operationId)).getD facts.operationId) specification task)
        | none =>
            some (.readTaskAttemptBase none claimOperationId
              ((intent.map (·.operationId)).getD
                (taskAttemptBaseReadOperationIdFor claimOperationId facts.operationId))
              policy facts.operationId specification task)

end

def observedSpecification? (frame : CurrentDeliveryFrame) (context : SelectionContext)
    (task : TrackerTask) : Option FocusedTaskWorkSpecificationFactsObserved :=
  (findLast (journalRecordsForTask task.id frame.source) fun record =>
    (specificationFacts? record.event).any fun facts =>
      taskTrackerTargetKey facts.target = context.immutableRunTargetKey &&
        facts.taskId = task.id).bind
    fun record => specificationFacts? record.event

def claimsTask (taskId : TaskId) (record : JournalRecord) : Bool :=
  (selectionClaim? record.event).any (·.acquisition.taskId = taskId)

def claimsTaskUnderKey (taskId : TaskId) (record : JournalRecord) : Bool :=
  (selectionClaim? record.event).any fun operation =>
    operation.acquisition.taskId = taskId &&
      record.key = intentRecordKey operation.acquisition.operationId

def claimWasAcquired (frame : CurrentDeliveryFrame) (intent : JournalRecord)
    (acquisition : TaskClaimAcquisition) (task : TrackerTask) : Bool :=
  (journalRecordsForTask task.id frame.source).any fun record =>
    record.runId = intent.runId && record.position > intent.position &&
      record.key = outcomeRecordKey acquisition.operationId &&
      (acquiredClaim? record.event).any (isExactTaskClaim · acquisition.claim)

def acquiredStep (frame : CurrentDeliveryFrame) (context : SelectionContext)
    (operation : AcquireTaskClaimOperation) (task : TrackerTask) : FreshWorkflowStep :=
  let claimOperationId := operation.acquisition.operationId
  match (findLast (journalRecordsForTask task.id frame.source) fun record =>
    (runGraphRead? context record.event).any fun read =>
      claimOperationId ∈ read.predecessorOperationIds && read.operationId ∈ context.observed).bind
    fun record => graphRead? record.event with
  | some read => .readTaskWorkSpecification claimOperationId read.operationId task
  | none => .readPostClaimGraph operation claimOperationId task

/-- No graph read of the Run's target is observed. -/
inductive NoSuchElementError where
  | noSuchElement
deriving DecidableEq

/-- Entry into fresh work: the claim where the current graph covers the task, else the graph. -/
def entryStep (frame : CurrentDeliveryFrame) (context : SelectionContext) (task : TrackerTask) :
    Except NoSuchElementError FreshWorkflowStep :=
  match (findLast (journalRecordsForTask task.id frame.source) fun record =>
    (runGraphRead? context record.event).any fun read =>
      read.predecessorOperationIds.length = 0 && task.id ∈ read.explicitlyCoveredTaskIds &&
        read.operationId ∈ context.completeGraphObserved).bind
    fun record => graphRead? record.event with
  | some read => .ok (.acquireTaskClaim read.operationId task)
  | none =>
      match (((journalRecordsOfKind .taskTrackerReadIntentRecorded frame.source).filterMap
        fun record => runGraphRead? context record.event).filter
          fun read => read.operationId ∈ context.observed).getLast? with
      | some read => .ok (.readCurrentTaskGraph read.operationId task)
      | none => .error .noSuchElement

def claimStep (frame : CurrentDeliveryFrame) (context : SelectionContext) (task : TrackerTask) :
    Except NoSuchElementError (Option FreshWorkflowStep) :=
  match findLast (journalRecordsForTask task.id frame.source) (claimsTaskUnderKey task.id) with
  | none => (entryStep frame context task).map some
  | some intent =>
      match selectionClaim? intent.event with
      | none => (entryStep frame context task).map some
      | some operation =>
          if claimWasAcquired frame intent operation.acquisition task then
            .ok (some (acquiredStep frame context operation task))
          else
            match rejectedFreshTaskClaimDisposition frame.source task intent
                context.completeGraphObserved context.immutableRunTargetKey with
            | .observeConstraint step => .ok (some step)
            | .constraintRetained => .ok none
            | .constraintAbsent | .constraintCleared => (entryStep frame context task).map some

/-- The next step of a task; closed families of recorded occurrences route to one operation. -/
def journaledStepFor (readers : AttemptAuthorityReaders) (frame : CurrentDeliveryFrame)
    (context : SelectionContext) (task : TrackerTask) :
    Except NoSuchElementError (Option FreshWorkflowStep) :=
  match executorObservation? frame context task with
  | some step => .ok (some step)
  | none =>
      match (plansOf frame task).getLast? with
      | some plan =>
          if ordinaryPlanWasRecorded frame plan task then
            .ok (ordinaryPlanStep? readers frame context plan.plannedAttempt task)
          else .ok (replacementStep? readers frame context plan task)
      | none =>
          match acceptedAttemptBasePolicy frame.source with
          | none => .ok none
          | some policy =>
              match baseRetryWorkflowStep frame task with
              | .retained => .ok none
              | .step step => .ok (some step)
              | .ordinary =>
                  match observedSpecification? frame context task with
                  | some facts => .ok (specifiedStep? readers frame facts policy task)
                  | none => claimStep frame context task

/-- A recovered attempt keeps its task, as does one with an unexplained projection or one that its
last report left. -/
def executorResponsibilityStillOwnsTask (records : JournalHistorySource)
    (plannedAttempt : PlannedTaskAttempt) (recoveredAttemptIds : List AttemptId) : Bool :=
  if plannedAttempt.attemptId ∈ recoveredAttemptIds then true
  else
    let exactEvidence := latestPlannedAttemptExecutorEvidence records plannedAttempt none
    let projectionIssue := latestPlannedAttemptExecutorProjectionIssue records plannedAttempt
    if projectionIssue.any fun issue =>
        exactEvidence.all fun evidence => issue > evidence.observedAt then true
    else
      ((lastJournalRecordForAttemptKind plannedAttempt.attemptId
        .plannedAttemptExecutorWorkReported records).bind
          fun record => acceptedReport? record.event).any
        fun report => !reportsExecuting report.report

def settlesClaim (acquisition : TaskClaimAcquisition) : WorkflowJournalEvent → Bool
  | .taskClaimAcquired claim => claim.taskId = acquisition.taskId
  | .taskClaimAcquisitionRejected operationId _ => operationId = acquisition.operationId
  | _ => false

def settlesWorktree (operationId : OperationId) : WorkflowJournalEvent → Bool
  | .taskWorktreeReady ready _ => ready = operationId
  | _ => false

def outcomeSettles (records : JournalHistorySource) (operationId : OperationId)
    (beganAt : JournalPosition) (settles : WorkflowJournalEvent → Bool) : Bool :=
  (journalRecordByKey (outcomeRecordKey operationId) records).any fun outcome =>
    outcome.position > beganAt && settles outcome.event

def responsibilityStillOwnsTask (records : JournalHistorySource)
    (recoveredAttemptIds : List AttemptId) : WorkflowResponsibilityEntry → Bool
  | .plannedAttemptExecutorWorkResponsibility _ plannedAttempt =>
      executorResponsibilityStillOwnsTask records plannedAttempt recoveredAttemptIds
  | .taskClaimReleaseResponsibility _ _ => true
  | .taskClaimResponsibility acquisition beganAt =>
      !outcomeSettles records acquisition.operationId beganAt (settlesClaim acquisition)
  | .taskWorktreeResponsibility beganAt operation =>
      !outcomeSettles records operation.operationId beganAt (settlesWorktree operation.operationId)

def pauseCoveredTaskIds (frame : CurrentDeliveryFrame) : List TaskId :=
  frame.pause.tasks.taskIds.flatMap frame.currentGraph.groupingSubtreeOf

def responsibleTaskIds (frame : CurrentDeliveryFrame) (recoveredAttemptIds : List AttemptId) :
    List TaskId :=
  (frame.responsibility.filter
    (responsibilityStillOwnsTask frame.source recoveredAttemptIds)).map workflowResponsibilityTaskId

def selectionContext (frame : CurrentDeliveryFrame) (recoveredAttemptIds : List AttemptId)
    (immutableRunTarget : TrackerTarget) : SelectionContext :=
  { completeGraphObserved := completeGraphObservationIds frame.source
    immutableRunTargetKey := taskTrackerTargetKey immutableRunTarget
    observed := observedOperationIds frame.source
    recoveredAttemptIds }

def taskIsFree (frame : CurrentDeliveryFrame) (recoveredAttemptIds : List AttemptId)
    (taskId : TaskId) : Bool :=
  taskId ∉ responsibleTaskIds frame recoveredAttemptIds && taskId ∉ pauseCoveredTaskIds frame

/-- The latest claim of a task leaves it free to enter. -/
def claimPermitsEntry (frame : CurrentDeliveryFrame) (context : SelectionContext)
    (task : TrackerTask) : Bool :=
  match findLast (journalRecordsForTask task.id frame.source) (claimsTask task.id) with
  | none => true
  | some latestClaimIntent =>
      match rejectedFreshTaskClaimDisposition frame.source task latestClaimIntent
          context.completeGraphObserved context.immutableRunTargetKey with
      | .constraintAbsent | .constraintCleared => true
      | .constraintRetained | .observeConstraint _ => false

/-- Tasks that the complete current graph still permits to enter fresh work. -/
def deriveFreshWorkflowEntryCapableTaskIds (frame : CurrentDeliveryFrame)
    (immutableRunTarget : TrackerTarget) (recoveredAttemptIds : List AttemptId) : List TaskId :=
  if frame.pause.run = .runPaused || (acceptedAttemptBasePolicy frame.source).isNone then []
  else
    let context := selectionContext frame recoveredAttemptIds immutableRunTarget
    (frame.currentGraph.eligibleTasks.filter fun task =>
      taskIsFree frame recoveredAttemptIds task.id &&
        claimPermitsEntry frame context task).map (·.id)

def latestGlobalGraphRead (frame : CurrentDeliveryFrame) (context : SelectionContext) :
    Option (JournalRecord × ReadTrackerGraphOperation) := do
  let record ← findLast (journalRecordsOfKind .taskTrackerReadIntentRecorded frame.source)
    fun record => (runGraphRead? context record.event).any fun operation =>
      operation.explicitlyCoveredTaskIds.length = 0 && operation.operationId ∈ context.observed
  let operation ← graphRead? record.event
  some (record, operation)

/-- The latest graph observation up to the outcome of the last read of the whole target. -/
def candidateGraphObservation (frame : CurrentDeliveryFrame) (context : SelectionContext) :
    Option JournalRecord := do
  let (intent, operation) ← latestGlobalGraphRead frame context
  let outcome := journalRecordByKey (outcomeRecordKey operation.operationId) frame.source
  let through : JournalPosition := (outcome.map JournalRecord.position).getD intent.position
  latestGraphObservation? (recordsBefore frame.records ((through : Int) + 1)) operation.target

/-- The graph that the last read of the whole target showed; the current graph where none did. -/
def candidateGraph (frame : CurrentDeliveryFrame) (context : SelectionContext) : TaskDagSnapshot :=
  match (candidateGraphObservation frame context).bind fun observation =>
      journalGraphSnapshotForObservation frame.records observation.position with
  | some graph => graph.snapshot
  | none => frame.currentGraph

def decisionsFor (readers : AttemptAuthorityReaders) (frame : CurrentDeliveryFrame)
    (context : SelectionContext) :
    List TrackerTask → Except NoSuchElementError (List FreshWorkflowDecision)
  | [] => .ok []
  | task :: tasks => do
      let step ← journaledStepFor readers frame context task
      let later ← decisionsFor readers frame context tasks
      return (step.map decisionFor).toList ++ later

def rank : FreshWorkflowStep → Nat
  | .readPostClaimGraph .. => 0
  | .acquireTaskClaim .. => 1
  | .readTaskWorkSpecification .. => 2
  | .beginPlannedAttemptExecutorWork .. | .observePlannedAttemptExecutorWork .. => 4
  | _ => 3

/-- Fresh work for eligible tasks that nothing holds, in the order of their ranks. -/
def deriveFreshWorkflowDecisions (readers : AttemptAuthorityReaders) (frame : CurrentDeliveryFrame)
    (recoveredAttemptIds : List AttemptId) (immutableRunTarget : TrackerTarget) :
    Except NoSuchElementError (List FreshWorkflowDecision) := do
  if frame.pause.run = .runPaused then return []
  let context := selectionContext frame recoveredAttemptIds immutableRunTarget
  let candidates := (candidateGraph frame context).eligibleTasks.filter fun task =>
    task.id ∈ frame.currentGraph.eligibleTasks.map (·.id) &&
      taskIsFree frame recoveredAttemptIds task.id
  let decisions ← decisionsFor readers frame context candidates
  return decisions.mergeSort fun left right => rank left.step ≤ rank right.step

end FreshWorkflow

end Dalph
