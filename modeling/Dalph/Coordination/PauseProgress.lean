import Dalph.Coordination.AttemptProtocol
import Dalph.Coordination.DeliveryProposal
import Dalph.Coordination.Reconstruction.PauseState
import Dalph.Workflow.EventObject
import Dalph.Workflow.IntegrationAdmission
import Dalph.Workflow.TargetPromotion.State

/-!
# Pause progress

A passive view tells the Operator how far an applied Pause has come.  It lists the obligations of
the covered tasks, each at the safe boundary of its protocol or with the facts that still keep it
from there, and the covered actions that no obligation accounts for.  The Pause is confirmed when
nothing keeps it.
-/

namespace Dalph

/-- One exact workflow subject whose obligation remains outstanding. -/
inductive WorkflowResponsibilityEntry where
  | taskClaimResponsibility (acquisition : TaskClaimAcquisition) (beganAt : JournalPosition)
  | taskClaimReleaseResponsibility (beganAt : JournalPosition)
      (operation : ReleaseTaskClaimOperation)
  | taskWorktreeResponsibility (beganAt : JournalPosition) (operation : PlannedAttemptOperation)
  | plannedAttemptExecutorWorkResponsibility (beganAt : JournalPosition)
      (plannedAttempt : PlannedTaskAttempt)
deriving DecidableEq

def workflowResponsibilityTaskId : WorkflowResponsibilityEntry → TaskId
  | .taskClaimResponsibility acquisition _ => acquisition.taskId
  | .taskClaimReleaseResponsibility _ operation => operation.release.claim.taskId
  | .taskWorktreeResponsibility _ operation => operation.plannedAttempt.taskId
  | .plannedAttemptExecutorWorkResponsibility _ plannedAttempt => plannedAttempt.taskId

def workflowResponsibilityOperationId : WorkflowResponsibilityEntry → Option OperationId
  | .taskClaimResponsibility acquisition _ => some acquisition.operationId
  | .taskClaimReleaseResponsibility _ operation => some operation.release.operationId
  | .taskWorktreeResponsibility _ operation => some operation.operationId
  | .plannedAttemptExecutorWorkResponsibility _ _ => none

def workflowResponsibilityKey : WorkflowResponsibilityEntry → String
  | .taskClaimResponsibility acquisition _ => "operation:" ++ acquisition.operationId.value
  | .taskClaimReleaseResponsibility _ operation =>
      "operation:" ++ operation.release.operationId.value
  | .taskWorktreeResponsibility _ operation => "operation:" ++ operation.operationId.value
  | .plannedAttemptExecutorWorkResponsibility _ plannedAttempt =>
      plannedAttemptProtocolGuardKey (plannedAttemptExecutorCorrelation plannedAttempt)

structure UnqueuedAcceptedResult where
  acceptedResult : AcceptedResult
  plannedAttempt : PlannedTaskAttempt
  terminalAt : JournalPosition
deriving DecidableEq

/-- An accepted result in its integration queue. -/
structure QueuedIntegrationResponsibility extends IntegrationResponsibilityFacts where
  queuedAt : JournalPosition
deriving DecidableEq

/-- What a delivery still owes. -/
inductive ExactWorkflowObligation where
  | workflowResponsibility (responsibility : WorkflowResponsibilityEntry)
  | acceptedAwaitingIntegration (accepted : UnqueuedAcceptedResult)
  | queuedIntegration (responsibility : QueuedIntegrationResponsibility)
  | startedIntegration (responsibility : StartedIntegrationResponsibility)
deriving DecidableEq

def obligationTaskId : ExactWorkflowObligation → TaskId
  | .acceptedAwaitingIntegration accepted => accepted.plannedAttempt.taskId
  | .queuedIntegration responsibility => responsibility.plannedAttempt.taskId
  | .startedIntegration responsibility => responsibility.plannedAttempt.taskId
  | .workflowResponsibility responsibility => workflowResponsibilityTaskId responsibility

def integrationQueuedAt : ExactWorkflowObligation → Option JournalPosition
  | .acceptedAwaitingIntegration _ | .workflowResponsibility _ => none
  | .queuedIntegration responsibility => some responsibility.queuedAt
  | .startedIntegration responsibility => some responsibility.queuedAt

/-- Disposition of a responsibility, as far as a Pause tells dispositions apart. -/
inductive ResponsibilityDisposition where
  | plannedAttemptExecutorWorkSafelySuspended
  | plannedAttemptExecutorWorkTerminal
  | other
deriving DecidableEq

structure ResponsibilityFreshFacts where
  disposition : ResponsibilityDisposition
  responsibility : WorkflowResponsibilityEntry
deriving DecidableEq

inductive TicketDeliveryEvidence where
  | responsibilityFacts (facts : ResponsibilityFreshFacts)
  | targetPromotion (responsibility : StartedIntegrationResponsibility)
      (state : TargetPromotionState)
  | other
deriving DecidableEq

structure TicketDelivery where
  evidence : List TicketDeliveryEvidence
  obligations : List ExactWorkflowObligation
  taskId : TaskId
deriving DecidableEq

/-- What orders a proposal; only the read of the Run's graph belongs to no task. -/
inductive DeliveryProposalOrderEvidence where
  | freshWorkflowOrder (taskId : TaskId)
  | recoveredWorkflowOrder (taskId : TaskId)
  | integrationOrder (taskId : TaskId)
  | unqueuedAcceptedResultOrder (taskId : TaskId)
  | trackerGraphOrder
deriving DecidableEq

def deliveryProposalOrderTaskId : DeliveryProposalOrderEvidence → Option TaskId
  | .freshWorkflowOrder taskId | .recoveredWorkflowOrder taskId | .integrationOrder taskId
  | .unqueuedAcceptedResultOrder taskId => some taskId
  | .trackerGraphOrder => none

inductive AcceptedWorkflowTransition where
  | naming (operationId : OperationId)
  | carrying (operation : WorkflowOperation)
deriving DecidableEq

def acceptedWorkflowTransitionOperationId : AcceptedWorkflowTransition → OperationId
  | .naming operationId => operationId
  | .carrying operation => workflowOperationId operation

/-- What the projection reads of a proposed action. -/
structure PauseProposal where
  id : DeliveryProposalId
  /-- The transition, where the route is that of an accepted operation. -/
  acceptedTransition : Option AcceptedWorkflowTransition
  integrationTarget : Option IntegrationTargetResourceRequirement
  order : DeliveryProposalOrderEvidence
  plannedAttemptProtocol : Option PlannedAttemptExecutorCorrelation
deriving DecidableEq

inductive DeliveryRuntimeActionIntent where
  | intentNotRecorded
  | intentRecorded
deriving DecidableEq

/-- State of the process-local owner of one action. -/
inductive DeliveryRuntimeLiveOwnerSnapshot where
  | admittedDeliveryAction (proposal : PauseProposal)
  | materializedDeliveryAction (intent : DeliveryRuntimeActionIntent) (operationId : OperationId)
      (proposal : PauseProposal)
  | settledBeforeMaterialization (proposal : PauseProposal)
  | settledMaterializedDeliveryAction (intent : DeliveryRuntimeActionIntent)
      (operationId : OperationId) (proposal : PauseProposal)
deriving DecidableEq

def DeliveryRuntimeLiveOwnerSnapshot.proposal : DeliveryRuntimeLiveOwnerSnapshot → PauseProposal
  | .admittedDeliveryAction proposal | .materializedDeliveryAction _ _ proposal
  | .settledBeforeMaterialization proposal
  | .settledMaterializedDeliveryAction _ _ proposal => proposal

/-- Two lower relations claimed the same action. -/
structure DeliveryProposalOwnershipConflict where
  id : DeliveryProposalId
  order : DeliveryProposalOrderEvidence
deriving DecidableEq

/-- The proposals of an evaluation, or the conflicts that close it. -/
inductive ProposedActions where
  | deliveryProposalsAvailable (proposals : List PauseProposal)
  | deliveryProposalOwnershipConflict (conflicts : List DeliveryProposalOwnershipConflict)
deriving DecidableEq

def ProposedActions.proposals : ProposedActions → List PauseProposal
  | .deliveryProposalsAvailable proposals => proposals
  | .deliveryProposalOwnershipConflict _ => []

/-- The applied directions with the graph that their grouping is read from. -/
inductive PauseCoverageFacts where
  | pauseCoverageGraphEstablished (applied : ReconstructedPauseState)
      (observedAt : JournalPosition) (snapshot : TaskDagSnapshot)
  | pauseCoverageGraphNotEstablished (applied : ReconstructedPauseState)

def PauseCoverageFacts.applied : PauseCoverageFacts → ReconstructedPauseState
  | .pauseCoverageGraphEstablished applied _ _ | .pauseCoverageGraphNotEstablished applied =>
      applied

structure ReadyRuntimeObservation where
  deliveries : List TicketDelivery
  liveOwners : List DeliveryRuntimeLiveOwnerSnapshot
  pauseCoverage : PauseCoverageFacts
  proposedActions : ProposedActions

structure IntegrationTargetResourceSnapshot where
  activeResponsibilities : List IntegrationResponsibilityIdentity
  heldResponsibilities : List IntegrationResponsibilityIdentity
deriving DecidableEq

inductive PauseResponsibilityCoverage where
  | runPauseCoverage
  | exactTaskPauseCoverage
  | groupingDescendantPauseCoverage (groupingObservedAt : JournalPosition) (pausedTaskId : TaskId)
deriving DecidableEq

def appliedPauseCoversSubject (subject : ControlDirectionSubject) (coverage : PauseCoverageFacts) :
    Bool :=
  match subject with
  | .run _ => coverage.applied.run = .runPaused
  | .task _ taskId => taskId ∈ coverage.applied.tasks.taskIds

/-- The covered tasks: all that the Run still speaks of, or the paused task and what it groups. -/
def coveredTaskCoverage (subject : ControlDirectionSubject) (coverage : PauseCoverageFacts)
    (deliveries : List TicketDelivery) (actionTaskIds : List TaskId) :
    KeyedMap TaskId PauseResponsibilityCoverage :=
  match subject with
  | .run _ =>
      KeyedMap.ofEntries ((deliveries.flatMap (fun delivery =>
        delivery.taskId :: delivery.obligations.map obligationTaskId) ++ actionTaskIds).map
          fun taskId => (taskId, .runPauseCoverage))
  | .task _ taskId =>
      match coverage with
      | .pauseCoverageGraphNotEstablished _ =>
          KeyedMap.ofEntries [(taskId, .exactTaskPauseCoverage)]
      | .pauseCoverageGraphEstablished _ observedAt snapshot =>
          KeyedMap.ofEntries ((taskId, .exactTaskPauseCoverage) ::
            ((snapshot.groupingSubtreeOf taskId).filter (· ≠ taskId)).map fun descendantTaskId =>
              (descendantTaskId, .groupingDescendantPauseCoverage observedAt taskId))

structure CoveredPauseAction where
  coverage : PauseResponsibilityCoverage
  proposal : PauseProposal
  taskId : TaskId
deriving DecidableEq

structure CoveredPauseActions where
  actions : KeyedMap DeliveryProposalId CoveredPauseAction
  coverageByTask : KeyedMap TaskId PauseResponsibilityCoverage
  liveOwners : List DeliveryRuntimeLiveOwnerSnapshot

def coveredActionOf (coverageByTask : KeyedMap TaskId PauseResponsibilityCoverage)
    (proposal : PauseProposal) : Option CoveredPauseAction :=
  (deliveryProposalOrderTaskId proposal.order).bind fun taskId =>
    (coverageByTask.lookup taskId).map fun coverage => ⟨coverage, proposal, taskId⟩

def ReadyRuntimeObservation.everyActionProposal (runtime : ReadyRuntimeObservation) :
    List PauseProposal :=
  runtime.proposedActions.proposals ++ runtime.liveOwners.map (·.proposal)

/-- Coverage and covered actions of an observation; a live owner replaces the proposal it runs. -/
def coveredPauseActions (subject : ControlDirectionSubject) (runtime : ReadyRuntimeObservation) :
    CoveredPauseActions :=
  let coverageByTask := coveredTaskCoverage subject runtime.pauseCoverage runtime.deliveries
    (runtime.everyActionProposal.filterMap fun proposal =>
      deliveryProposalOrderTaskId proposal.order)
  { actions := KeyedMap.ofEntries (runtime.everyActionProposal.filterMap fun proposal =>
      (coveredActionOf coverageByTask proposal).map fun action => (proposal.id, action))
    coverageByTask
    liveOwners := runtime.liveOwners.filter fun owner =>
      (coveredActionOf coverageByTask owner.proposal).isSome }

def executorProposalMatchesObligation (proposal : PauseProposal) :
    ExactWorkflowObligation → Bool
  | .workflowResponsibility (.plannedAttemptExecutorWorkResponsibility _ plannedAttempt) =>
      proposal.plannedAttemptProtocol.any fun correlation =>
        plannedAttemptProtocolGuardKey correlation =
          plannedAttemptProtocolGuardKey (plannedAttemptExecutorCorrelation plannedAttempt)
  | _ => false

def integrationProposalMatchesObligation (proposal : PauseProposal)
    (obligation : ExactWorkflowObligation) : Bool :=
  (integrationQueuedAt obligation).any fun queuedAt =>
    proposal.integrationTarget.any fun requirement =>
      requirement.responsibility.queuedAt = queuedAt

def workflowOperationProposalMatchesObligation (proposal : PauseProposal) :
    ExactWorkflowObligation → Bool
  | .workflowResponsibility responsibility =>
      (workflowResponsibilityOperationId responsibility).any fun operationId =>
        proposal.acceptedTransition.any fun transition =>
          acceptedWorkflowTransitionOperationId transition = operationId
  | _ => false

def proposalMatchesObligation (proposal : PauseProposal) (obligation : ExactWorkflowObligation) :
    Bool :=
  executorProposalMatchesObligation proposal obligation ||
    integrationProposalMatchesObligation proposal obligation ||
    workflowOperationProposalMatchesObligation proposal obligation

/-- An action that keeps a responsibility from its boundary. -/
inductive PauseDeliveryActionBlocker where
  | proposedDeliveryAction (proposal : PauseProposal)
  | liveDeliveryAction (owner : DeliveryRuntimeLiveOwnerSnapshot)
  | acceptedOutcomePublicationPending (proposal : PauseProposal)
deriving DecidableEq

inductive PauseSafeBoundaryBlocker where
  | executorSafeSuspensionRequired (correlation : PlannedAttemptExecutorCorrelation)
  | heldIntegrationTarget (queuedAt : JournalPosition)
  | activeIntegrationTarget (queuedAt : JournalPosition)
  | targetPromotionResultRequired (request : TargetPromotionCorrelation)
  | deliveryAction (blocker : PauseDeliveryActionBlocker)
deriving DecidableEq

def TicketDeliveryEvidence.reportsBoundary (responsibility : WorkflowResponsibilityEntry) :
    TicketDeliveryEvidence → Bool
  | .responsibilityFacts facts =>
      workflowResponsibilityKey facts.responsibility = workflowResponsibilityKey responsibility &&
        (facts.disposition = .plannedAttemptExecutorWorkSafelySuspended ||
          facts.disposition = .plannedAttemptExecutorWorkTerminal)
  | .targetPromotion _ _ | .other => false

def executorBoundaryBlocker (delivery : TicketDelivery)
    (responsibility : WorkflowResponsibilityEntry) (plannedAttempt : PlannedTaskAttempt) :
    List PauseSafeBoundaryBlocker :=
  if delivery.evidence.any (·.reportsBoundary responsibility) then []
  else [.executorSafeSuspensionRequired (plannedAttemptExecutorCorrelation plannedAttempt)]

def integrationTargetResourceSnapshotIncludes (identities : List IntegrationResponsibilityIdentity)
    (responsibility : IntegrationTargetResourceResponsibility) : Bool :=
  identities.any fun identity =>
    integrationResponsibilityIdentityKey identity =
      integrationResponsibilityIdentityKey (integrationResponsibilityIdentity responsibility)

def resourceResponsibility (facts : IntegrationResponsibilityFacts) (queuedAt : JournalPosition) :
    IntegrationTargetResourceResponsibility :=
  ⟨facts.integrationTarget, facts.plannedAttempt.runId, queuedAt⟩

def resourceBlockers (responsibility : IntegrationTargetResourceResponsibility)
    (resources : IntegrationTargetResourceSnapshot) : List PauseSafeBoundaryBlocker :=
  (if integrationTargetResourceSnapshotIncludes resources.heldResponsibilities responsibility then
      [.heldIntegrationTarget responsibility.queuedAt] else []) ++
    (if integrationTargetResourceSnapshotIncludes resources.activeResponsibilities responsibility
      then [.activeIntegrationTarget responsibility.queuedAt] else [])

def sameStartedIntegrationResponsibility (left right : StartedIntegrationResponsibility) : Bool :=
  left.queuedAt = right.queuedAt && left.startedAt = right.startedAt &&
    integrationResponsibilityEquivalence left.toIntegrationResponsibilityFacts
      right.toIntegrationResponsibilityFacts

def TicketDeliveryEvidence.pendingPromotion? (responsibility : StartedIntegrationResponsibility) :
    TicketDeliveryEvidence → Option TargetPromotionCorrelation
  | .targetPromotion promoted (.promotionPending correlation _) =>
      if sameStartedIntegrationResponsibility promoted responsibility then some correlation
      else none
  | _ => none

def targetPromotionBlockers (delivery : TicketDelivery)
    (responsibility : StartedIntegrationResponsibility) : List PauseSafeBoundaryBlocker :=
  (delivery.evidence.filterMap (·.pendingPromotion? responsibility)).map
    .targetPromotionResultRequired

/-- How an action stands: proposed, run by its owner, or waiting for its outcome to be published. -/
def actionBlocker (proposal : PauseProposal) (liveOwners : List DeliveryRuntimeLiveOwnerSnapshot) :
    PauseDeliveryActionBlocker :=
  match liveOwners.find? fun owner => owner.proposal.id = proposal.id with
  | none => .proposedDeliveryAction proposal
  | some owner =>
      match owner with
      | .admittedDeliveryAction _ | .materializedDeliveryAction _ _ _ => .liveDeliveryAction owner
      | .settledBeforeMaterialization _ | .settledMaterializedDeliveryAction _ _ _ =>
          .acceptedOutcomePublicationPending proposal

/-- A covered obligation.  Its kind is the kind of the responsibility that is shown. -/
structure PauseWorkflowResponsibility where
  coverage : PauseResponsibilityCoverage
  obligation : ExactWorkflowObligation
  taskId : TaskId
deriving DecidableEq

/-- What a view lists. -/
inductive PauseResponsibility where
  | workflow (responsibility : PauseWorkflowResponsibility)
  | deliveryAction (action : CoveredPauseAction)
deriving DecidableEq

structure PauseResponsibilityPreventingBoundary where
  blockers : List PauseSafeBoundaryBlocker
  responsibility : PauseResponsibility
  blocked : blockers ≠ []
deriving DecidableEq

/-- How far one covered obligation has come, and the actions that it accounts for. -/
structure ObligationPauseProgress where
  actionIds : List DeliveryProposalId
  blockers : List PauseSafeBoundaryBlocker
  responsibility : PauseWorkflowResponsibility
deriving DecidableEq

def ObligationPauseProgress.atBoundary? (progress : ObligationPauseProgress) :
    Option PauseWorkflowResponsibility :=
  if progress.blockers = [] then some progress.responsibility else none

def ObligationPauseProgress.preventing? (progress : ObligationPauseProgress) :
    Option PauseResponsibilityPreventingBoundary :=
  if blocked : progress.blockers ≠ [] then
    some ⟨progress.blockers, .workflow progress.responsibility, blocked⟩
  else none

inductive PauseProgressView where
  | pauseWaiting (atBoundary : List PauseWorkflowResponsibility)
      (preventing : List PauseResponsibilityPreventingBoundary) (waits : preventing ≠ [])
      (subject : ControlDirectionSubject)
  | pauseConfirmed (atBoundary : List PauseWorkflowResponsibility)
      (subject : ControlDirectionSubject)
deriving DecidableEq

/-- A view, or why there is none. -/
inductive PauseProjection where
  | pauseProjectionNotApplied
  | pauseProgressProjectionConflict (proposalIds : List DeliveryProposalId)
      (subject : ControlDirectionSubject)
  | pauseProgressView (view : PauseProgressView)
deriving DecidableEq

def CoveredPauseActions.everyAction (covered : CoveredPauseActions) : List CoveredPauseAction :=
  covered.actions.entries.map (·.2)

def matchingActions (obligation : ExactWorkflowObligation) (covered : CoveredPauseActions) :
    List PauseProposal :=
  (covered.everyAction.map (·.proposal)).filter fun proposal =>
    proposalMatchesObligation proposal obligation

def obligationPauseProgress (delivery : TicketDelivery) (obligation : ExactWorkflowObligation)
    (coverage : PauseResponsibilityCoverage) (covered : CoveredPauseActions)
    (resources : IntegrationTargetResourceSnapshot) : ObligationPauseProgress :=
  let proposals := matchingActions obligation covered
  let actionIds := proposals.map (·.id)
  let actionBlockers := proposals.map fun proposal =>
    PauseSafeBoundaryBlocker.deliveryAction (actionBlocker proposal covered.liveOwners)
  let responsibility := ⟨coverage, obligation, obligationTaskId obligation⟩
  match obligation with
  -- An accepted result that nothing has queued has no protocol to stop.
  | .acceptedAwaitingIntegration _ => ⟨[], [], responsibility⟩
  | .queuedIntegration queued =>
      ⟨actionIds,
        resourceBlockers (resourceResponsibility queued.toIntegrationResponsibilityFacts
          queued.queuedAt) resources ++ actionBlockers, responsibility⟩
  | .startedIntegration started =>
      ⟨actionIds,
        targetPromotionBlockers delivery started ++
          resourceBlockers (resourceResponsibility started.toIntegrationResponsibilityFacts
            started.queuedAt) resources ++ actionBlockers, responsibility⟩
  | .workflowResponsibility entry =>
      match entry with
      | .plannedAttemptExecutorWorkResponsibility _ plannedAttempt =>
          ⟨actionIds, executorBoundaryBlocker delivery entry plannedAttempt ++ actionBlockers,
            responsibility⟩
      | .taskClaimReleaseResponsibility _ _ | .taskClaimResponsibility _ _
      | .taskWorktreeResponsibility _ _ => ⟨actionIds, actionBlockers, responsibility⟩

/-- Covered actions that no obligation accounts for. -/
def unmatchedActionProgress (covered : CoveredPauseActions)
    (matchedActionIds : List DeliveryProposalId) : List PauseResponsibilityPreventingBoundary :=
  covered.everyAction.filterMap fun action =>
    if action.proposal.id ∈ matchedActionIds then none
    else
      some ⟨[.deliveryAction (actionBlocker action.proposal covered.liveOwners)],
        .deliveryAction action, List.cons_ne_nil _ _⟩

def everyObligationProgress (covered : CoveredPauseActions) (deliveries : List TicketDelivery)
    (resources : IntegrationTargetResourceSnapshot) : List ObligationPauseProgress :=
  deliveries.flatMap fun delivery => delivery.obligations.filterMap fun obligation =>
    (covered.coverageByTask.lookup (obligationTaskId obligation)).map fun coverage =>
      obligationPauseProgress delivery obligation coverage covered resources

def conflictingProposalIds (subject : ControlDirectionSubject) (runtime : ReadyRuntimeObservation) :
    List DeliveryProposalId :=
  match runtime.proposedActions with
  | .deliveryProposalsAvailable _ => []
  | .deliveryProposalOwnershipConflict conflicts =>
      let conflictCoverage := coveredTaskCoverage subject runtime.pauseCoverage runtime.deliveries
        (conflicts.filterMap fun conflict => deliveryProposalOrderTaskId conflict.order)
      conflicts.filterMap fun conflict =>
        if (deliveryProposalOrderTaskId conflict.order).any fun taskId =>
          taskId ∈ conflictCoverage then some conflict.id else none

def pauseProgressViewOf (subject : ControlDirectionSubject) (runtime : ReadyRuntimeObservation)
    (resources : IntegrationTargetResourceSnapshot) : PauseProjection :=
  if !appliedPauseCoversSubject subject runtime.pauseCoverage then .pauseProjectionNotApplied
  else if conflictingProposalIds subject runtime ≠ [] then
    .pauseProgressProjectionConflict (conflictingProposalIds subject runtime) subject
  else
    let covered := coveredPauseActions subject runtime
    let progress := everyObligationProgress covered runtime.deliveries resources
    let atBoundary := progress.filterMap (·.atBoundary?)
    let preventing := progress.filterMap (·.preventing?) ++
      unmatchedActionProgress covered (progress.flatMap (·.actionIds))
    if waits : preventing ≠ [] then
      .pauseProgressView (.pauseWaiting atBoundary preventing waits subject)
    else .pauseProgressView (.pauseConfirmed atBoundary subject)

end Dalph
