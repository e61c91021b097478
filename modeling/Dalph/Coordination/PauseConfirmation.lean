import Dalph.Coordination.PauseProgress

/-!
# Confirmation of a Pause

A Pause is confirmed only at a safe boundary of every obligation that it reaches, and when no action
that it reaches is proposed or has a live owner.  A view shows each reached obligation once.  An
action is shown once by each obligation that accounts for it, and on its own where none does.
-/

namespace KeyedMap

variable {Key Value : Type} [DecidableEq Key] {map : KeyedMap Key Value} {key : Key} {value : Value}
  {entries : List (Key × Value)}

theorem mem_ofEntries : key ∈ ofEntries entries ↔ key ∈ entries.map (·.1) := by
  have added : ∀ map : KeyedMap Key Value,
      key ∈ entries.foldl (fun map entry => set map entry.1 entry.2) map ↔
        key ∈ entries.map (·.1) ∨ key ∈ map := by
    induction entries with
    | nil => simp
    | cons entry entries induction =>
        intro map
        rw [List.foldl_cons, induction, mem_set, List.map_cons, List.mem_cons]
        tauto
  rw [ofEntries, added]
  simp

theorem mem_of_lookup_foldl_set
    (found : (entries.foldl (fun map entry => set map entry.1 entry.2) map).lookup key =
      some value) :
    (key, value) ∈ entries ∨ map.lookup key = some value := by
  induction entries generalizing map with
  | nil => exact Or.inr found
  | cons entry entries induction =>
      rcases induction found with member | found
      · exact Or.inl (List.mem_cons_of_mem entry member)
      · rw [lookup_set] at found
        split at found
        · next same =>
            cases found
            exact Or.inl (by simp [same])
        · exact Or.inr found

theorem mem_of_lookup_ofEntries (found : (ofEntries entries).lookup key = some value) :
    (key, value) ∈ entries :=
  (mem_of_lookup_foldl_set found).resolve_right (by simp)

end KeyedMap

namespace Dalph

section Reach

/-! ## What a Pause reaches -/

def PauseCoverageFacts.Groups : PauseCoverageFacts → TaskId → TaskId → Prop
  | .pauseCoverageGraphEstablished _ _ snapshot, above, below =>
      snapshot.IsGroupingAncestor above below
  | .pauseCoverageGraphNotEstablished _, _, _ => False

/-- The Pause of a Run reaches every task; that of a task reaches it and every task below it. -/
def PauseReaches (coverage : PauseCoverageFacts) : ControlDirectionSubject → TaskId → Prop
  | .run _, _ => True
  | .task _ pausedTaskId, taskId => taskId = pausedTaskId ∨ coverage.Groups pausedTaskId taskId

variable {subject : ControlDirectionSubject} {runtime : ReadyRuntimeObservation}
  {resources : IntegrationTargetResourceSnapshot} {coverage : PauseCoverageFacts}
  {deliveries : List TicketDelivery} {actionTaskIds : List TaskId} {taskId : TaskId}

theorem mem_coveredTaskCoverage (subject : ControlDirectionSubject) (coverage : PauseCoverageFacts)
    (listed : taskId ∈ deliveries.flatMap (fun delivery =>
      delivery.taskId :: delivery.obligations.map obligationTaskId) ++ actionTaskIds) :
    taskId ∈ coveredTaskCoverage subject coverage deliveries actionTaskIds ↔
      PauseReaches coverage subject taskId := by
  cases subject with
  | run runId =>
      rw [coveredTaskCoverage, KeyedMap.mem_ofEntries, List.map_map]
      simpa [PauseReaches] using listed
  | task runId pausedTaskId =>
      cases coverage with
      | pauseCoverageGraphNotEstablished applied =>
          rw [coveredTaskCoverage, KeyedMap.mem_ofEntries]
          simp [PauseReaches, PauseCoverageFacts.Groups]
      | pauseCoverageGraphEstablished applied observedAt snapshot =>
          rw [coveredTaskCoverage, KeyedMap.mem_ofEntries, List.map_cons, List.map_map,
            List.mem_cons]
          simp only [PauseReaches, PauseCoverageFacts.Groups]
          by_cases same : taskId = pausedTaskId
          · simp [same]
          · have below : taskId ∈ snapshot.groupingSubtreeOf pausedTaskId ↔
                snapshot.IsGroupingAncestor pausedTaskId taskId := by
              rw [TaskDagSnapshot.mem_groupingSubtreeOf]
              constructor
              · rintro ⟨-, equal | above⟩
                · exact absurd equal same
                · exact above
              · exact fun above =>
                  ⟨TaskDagSnapshot.mem_taskIds_of_isGroupingAncestor above, Or.inr above⟩
            simp [same, below]

def PauseReachesOrder (coverage : PauseCoverageFacts) (subject : ControlDirectionSubject)
    (order : DeliveryProposalOrderEvidence) : Prop :=
  ∃ taskId, deliveryProposalOrderTaskId order = some taskId ∧ PauseReaches coverage subject taskId

def ProposedActions.conflicts : ProposedActions → List DeliveryProposalOwnershipConflict
  | .deliveryProposalsAvailable _ => []
  | .deliveryProposalOwnershipConflict conflicts => conflicts

/-- No action that the Pause reaches is proposed, has a live owner or is contested. -/
structure NoCoveredAction (subject : ControlDirectionSubject) (runtime : ReadyRuntimeObservation) :
    Prop where
  proposed : ∀ proposal ∈ runtime.proposedActions.proposals,
    ¬PauseReachesOrder runtime.pauseCoverage subject proposal.order
  live : ∀ owner ∈ runtime.liveOwners,
    ¬PauseReachesOrder runtime.pauseCoverage subject owner.proposal.order
  contested : ∀ conflict ∈ runtime.proposedActions.conflicts,
    ¬PauseReachesOrder runtime.pauseCoverage subject conflict.order

/-! ## Safe boundaries -/

def TargetAtRest (resources : IntegrationTargetResourceSnapshot)
    (facts : IntegrationResponsibilityFacts) (queuedAt : JournalPosition) : Prop :=
  ⟨queuedAt, facts.plannedAttempt.runId⟩ ∉ resources.heldResponsibilities ∧
    ⟨queuedAt, facts.plannedAttempt.runId⟩ ∉ resources.activeResponsibilities

/-- The delivery shows that the executor of an attempt is safely suspended or has ended. -/
def ExecutorAtRest (delivery : TicketDelivery) (plannedAttempt : PlannedTaskAttempt) : Prop :=
  ∃ disposition beganAt reported,
    .responsibilityFacts ⟨disposition, .plannedAttemptExecutorWorkResponsibility beganAt reported⟩ ∈
        delivery.evidence ∧
      plannedAttemptExecutorCorrelation reported =
        plannedAttemptExecutorCorrelation plannedAttempt ∧
      (disposition = .plannedAttemptExecutorWorkSafelySuspended ∨
        disposition = .plannedAttemptExecutorWorkTerminal)

/-- The boundary at which the protocol of an obligation may stay while paused. -/
def AtSafeBoundary (subject : ControlDirectionSubject) (runtime : ReadyRuntimeObservation)
    (resources : IntegrationTargetResourceSnapshot) (delivery : TicketDelivery) :
    ExactWorkflowObligation → Prop
  | .workflowResponsibility responsibility =>
      match responsibility with
      | .plannedAttemptExecutorWorkResponsibility _ plannedAttempt =>
          ExecutorAtRest delivery plannedAttempt
      | .taskClaimReleaseResponsibility _ _ | .taskClaimResponsibility _ _
      | .taskWorktreeResponsibility _ _ =>
          ∀ proposal ∈ runtime.everyActionProposal,
            PauseReachesOrder runtime.pauseCoverage subject proposal.order →
              ∀ transition ∈ proposal.acceptedTransition,
                workflowResponsibilityOperationId responsibility ≠
                  some (acceptedWorkflowTransitionOperationId transition)
  | .acceptedAwaitingIntegration _ => True
  | .queuedIntegration queued =>
      TargetAtRest resources queued.toIntegrationResponsibilityFacts queued.queuedAt
  | .startedIntegration started =>
      TargetAtRest resources started.toIntegrationResponsibilityFacts started.queuedAt ∧
        ∀ correlation retry,
          .targetPromotion started (.promotionPending correlation retry) ∉ delivery.evidence

theorem workflowResponsibilityKey_eq_executor {entry : WorkflowResponsibilityEntry}
    {beganAt : JournalPosition} {plannedAttempt : PlannedTaskAttempt}
    (same : workflowResponsibilityKey entry = workflowResponsibilityKey
      (.plannedAttemptExecutorWorkResponsibility beganAt plannedAttempt)) :
    ∃ reportedAt reported,
      entry = .plannedAttemptExecutorWorkResponsibility reportedAt reported ∧
        plannedAttemptExecutorCorrelation reported =
          plannedAttemptExecutorCorrelation plannedAttempt := by
  have operationKey : ∀ operationId : String, "operation:" ++ operationId ≠
      workflowResponsibilityKey
        (.plannedAttemptExecutorWorkResponsibility beganAt plannedAttempt) := by
    intro operationId same
    have first := congrArg (fun text => text.toList.head?) same
    simp [workflowResponsibilityKey, plannedAttemptProtocolGuardKey, Json.stringify,
      Json.print] at first
  cases entry with
  | taskClaimResponsibility acquisition _ => exact absurd same (operationKey _)
  | taskClaimReleaseResponsibility _ operation => exact absurd same (operationKey _)
  | taskWorktreeResponsibility _ operation => exact absurd same (operationKey _)
  | plannedAttemptExecutorWorkResponsibility reportedAt reported =>
      exact ⟨reportedAt, reported, rfl, plannedAttemptProtocolGuardKey_injective same⟩

theorem executorAtRest_of_unblocked {delivery : TicketDelivery} {beganAt : JournalPosition}
    {plannedAttempt : PlannedTaskAttempt}
    (unblocked : executorBoundaryBlocker delivery
      (.plannedAttemptExecutorWorkResponsibility beganAt plannedAttempt) plannedAttempt = []) :
    ExecutorAtRest delivery plannedAttempt := by
  unfold executorBoundaryBlocker at unblocked
  split at unblocked
  · next reported =>
      obtain ⟨evidence, member, reports⟩ := List.any_eq_true.mp reported
      cases evidence with
      | responsibilityFacts facts =>
          obtain ⟨disposition, responsibility⟩ := facts
          simp only [TicketDeliveryEvidence.reportsBoundary, Bool.and_eq_true, Bool.or_eq_true,
            decide_eq_true_eq] at reports
          obtain ⟨reportedAt, reported, rfl, same⟩ :=
            workflowResponsibilityKey_eq_executor reports.1
          exact ⟨disposition, reportedAt, reported, member, same, reports.2⟩
      | targetPromotion promoted state => cases reports
      | other => cases reports
  · cases unblocked

theorem integrationTargetResourceSnapshotIncludes_iff
    {identities : List IntegrationResponsibilityIdentity}
    {responsibility : IntegrationTargetResourceResponsibility} :
    integrationTargetResourceSnapshotIncludes identities responsibility = true ↔
      integrationResponsibilityIdentity responsibility ∈ identities := by
  simp [integrationTargetResourceSnapshotIncludes,
    integrationResponsibilityIdentityKey_injective.eq_iff]

theorem targetAtRest_of_unblocked {facts : IntegrationResponsibilityFacts}
    {queuedAt : JournalPosition}
    (unblocked : resourceBlockers (resourceResponsibility facts queuedAt) resources = []) :
    TargetAtRest resources facts queuedAt := by
  rw [resourceBlockers, List.append_eq_nil_iff] at unblocked
  obtain ⟨notHeld, notActive⟩ := unblocked
  constructor
  · intro held
    have included : integrationTargetResourceSnapshotIncludes resources.heldResponsibilities
        (resourceResponsibility facts queuedAt) = true :=
      integrationTargetResourceSnapshotIncludes_iff.mpr held
    simp [included] at notHeld
  · intro active
    have included : integrationTargetResourceSnapshotIncludes resources.activeResponsibilities
        (resourceResponsibility facts queuedAt) = true :=
      integrationTargetResourceSnapshotIncludes_iff.mpr active
    simp [included] at notActive

theorem sameStartedIntegrationResponsibility_self
    (started : StartedIntegrationResponsibility) :
    sameStartedIntegrationResponsibility started started = true := by
  simp [sameStartedIntegrationResponsibility]

theorem not_pending_of_unblocked {delivery : TicketDelivery}
    {started : StartedIntegrationResponsibility}
    (unblocked : targetPromotionBlockers delivery started = [])
    (correlation : TargetPromotionCorrelation) (retry : TargetPromotionPendingRetry) :
    .targetPromotion started (.promotionPending correlation retry) ∉ delivery.evidence := by
  intro pending
  have shown : correlation ∈ delivery.evidence.filterMap (·.pendingPromotion? started) :=
    List.mem_filterMap.mpr ⟨_, pending, by
      simp [TicketDeliveryEvidence.pendingPromotion?, sameStartedIntegrationResponsibility_self]⟩
  rw [List.map_eq_nil_iff.mp unblocked] at shown
  exact List.not_mem_nil shown

/-! ## Covered actions -/

section Covered

variable {covered : CoveredPauseActions} {delivery : TicketDelivery}
  {obligation : ExactWorkflowObligation} {responsibilityCoverage : PauseResponsibilityCoverage}
  {proposal : PauseProposal} {action : CoveredPauseAction}

theorem mem_coverageByTask_of_action (member : proposal ∈ runtime.everyActionProposal)
    (ordered : deliveryProposalOrderTaskId proposal.order = some taskId) :
    taskId ∈ (coveredPauseActions subject runtime).coverageByTask ↔
      PauseReaches runtime.pauseCoverage subject taskId :=
  mem_coveredTaskCoverage subject _ (List.mem_append_right _
    (List.mem_filterMap.mpr ⟨proposal, member, ordered⟩))

theorem mem_coverageByTask_of_obligation (listed : delivery ∈ runtime.deliveries)
    (member : obligation ∈ delivery.obligations) :
    obligationTaskId obligation ∈ (coveredPauseActions subject runtime).coverageByTask ↔
      PauseReaches runtime.pauseCoverage subject (obligationTaskId obligation) :=
  mem_coveredTaskCoverage subject _ (List.mem_append_left _ (List.mem_flatMap.mpr
    ⟨delivery, listed, List.mem_cons_of_mem _ (List.mem_map.mpr ⟨obligation, member, rfl⟩)⟩))

theorem isSome_coveredActionOf (member : proposal ∈ runtime.everyActionProposal) :
    (coveredActionOf (coveredPauseActions subject runtime).coverageByTask proposal).isSome ↔
      PauseReachesOrder runtime.pauseCoverage subject proposal.order := by
  unfold coveredActionOf PauseReachesOrder
  cases ordered : deliveryProposalOrderTaskId proposal.order with
  | none => simp
  | some taskId =>
      rw [Option.bind_some, Option.isSome_map, AList.lookup_isSome,
        mem_coverageByTask_of_action member ordered]
      simp

theorem coveredActionOf_proposal {coverageByTask : KeyedMap TaskId PauseResponsibilityCoverage}
    (found : coveredActionOf coverageByTask proposal = some action) :
    action.proposal = proposal := by
  obtain ⟨taskId, -, found⟩ := Option.bind_eq_some_iff.mp found
  obtain ⟨coverage, -, rfl⟩ := Option.map_eq_some_iff.mp found
  rfl

theorem of_lookup_actions {id : DeliveryProposalId}
    (found : (coveredPauseActions subject runtime).actions.lookup id = some action) :
    action.proposal ∈ runtime.everyActionProposal ∧ action.proposal.id = id ∧
      coveredActionOf (coveredPauseActions subject runtime).coverageByTask action.proposal =
        some action := by
  obtain ⟨proposal, offered, paired⟩ :=
    List.mem_filterMap.mp (KeyedMap.mem_of_lookup_ofEntries found)
  obtain ⟨kept, acted, same⟩ := Option.map_eq_some_iff.mp paired
  obtain ⟨named, rfl⟩ := Prod.mk.inj same
  obtain rfl := coveredActionOf_proposal acted
  exact ⟨offered, named, acted⟩

theorem lookup_of_mem_everyAction
    (member : action ∈ (coveredPauseActions subject runtime).everyAction) :
    ∃ id, (coveredPauseActions subject runtime).actions.lookup id = some action := by
  obtain ⟨⟨id, kept⟩, entry, rfl⟩ := List.mem_map.mp member
  exact ⟨id, Option.mem_def.mp (AList.mem_lookup_iff.mpr entry)⟩

theorem reached_of_mem_everyAction
    (member : action ∈ (coveredPauseActions subject runtime).everyAction) :
    action.proposal ∈ runtime.everyActionProposal ∧
      PauseReachesOrder runtime.pauseCoverage subject action.proposal.order := by
  obtain ⟨id, found⟩ := lookup_of_mem_everyAction member
  obtain ⟨offered, -, acted⟩ := of_lookup_actions found
  exact ⟨offered, (isSome_coveredActionOf offered).mp (by rw [acted]; rfl)⟩

theorem nodup_actionIds :
    ((coveredPauseActions subject runtime).everyAction.map (·.proposal.id)).Nodup := by
  have keys : (coveredPauseActions subject runtime).everyAction.map (·.proposal.id) =
      (coveredPauseActions subject runtime).actions.keys := by
    rw [CoveredPauseActions.everyAction, List.map_map]
    refine List.map_congr_left fun entry member => ?_
    exact (of_lookup_actions (Option.mem_def.mp (AList.mem_lookup_iff.mpr member))).2.1
  rw [keys]
  exact (coveredPauseActions subject runtime).actions.nodupKeys

theorem exists_everyAction_of_reached (member : proposal ∈ runtime.everyActionProposal)
    (reached : PauseReachesOrder runtime.pauseCoverage subject proposal.order) :
    ∃ action ∈ (coveredPauseActions subject runtime).everyAction,
      action.proposal.id = proposal.id := by
  obtain ⟨action, acted⟩ :=
    Option.isSome_iff_exists.mp ((isSome_coveredActionOf member).mpr reached)
  have kept : proposal.id ∈ (coveredPauseActions subject runtime).actions :=
    KeyedMap.mem_ofEntries.mpr (List.mem_map.mpr ⟨(proposal.id, action),
      List.mem_filterMap.mpr ⟨proposal, member, congrArg (Option.map _) acted⟩, rfl⟩)
  obtain ⟨action, found⟩ := Option.isSome_iff_exists.mp (AList.lookup_isSome.mpr kept)
  have entry := AList.mem_lookup_iff.mp (Option.mem_def.mpr found)
  exact ⟨action, List.mem_map.mpr ⟨_, entry, rfl⟩, (of_lookup_actions found).2.1⟩

/-! ## Progress of one obligation -/

def PauseSafeBoundaryBlocker.actionId? : PauseSafeBoundaryBlocker → Option DeliveryProposalId
  | .deliveryAction (.proposedDeliveryAction proposal)
  | .deliveryAction (.acceptedOutcomePublicationPending proposal) => some proposal.id
  | .deliveryAction (.liveDeliveryAction owner) => some owner.proposal.id
  | .executorSafeSuspensionRequired _ | .heldIntegrationTarget _ | .activeIntegrationTarget _
  | .targetPromotionResultRequired _ => none

theorem actionId?_actionBlocker {liveOwners : List DeliveryRuntimeLiveOwnerSnapshot} :
    (PauseSafeBoundaryBlocker.deliveryAction (actionBlocker proposal liveOwners)).actionId? =
      some proposal.id := by
  unfold actionBlocker
  split
  · rfl
  · next owner found =>
      have same : owner.proposal.id = proposal.id := by simpa using List.find?_some found
      cases owner with
      | admittedDeliveryAction other => exact congrArg some same
      | materializedDeliveryAction intent operationId other => exact congrArg some same
      | settledBeforeMaterialization other => rfl
      | settledMaterializedDeliveryAction intent operationId other => rfl

theorem actionIds_executorBoundaryBlocker {entry : WorkflowResponsibilityEntry}
    {plannedAttempt : PlannedTaskAttempt} :
    (executorBoundaryBlocker delivery entry plannedAttempt).filterMap (·.actionId?) = [] := by
  unfold executorBoundaryBlocker
  split <;> rfl

theorem actionIds_resourceBlockers {responsibility : IntegrationTargetResourceResponsibility} :
    (resourceBlockers responsibility resources).filterMap (·.actionId?) = [] := by
  unfold resourceBlockers
  split <;> split <;> rfl

theorem actionIds_targetPromotionBlockers {started : StartedIntegrationResponsibility} :
    (targetPromotionBlockers delivery started).filterMap (·.actionId?) = [] := by
  simp [targetPromotionBlockers, List.filterMap_map, PauseSafeBoundaryBlocker.actionId?]

theorem matchingActions_acceptedAwaitingIntegration {accepted : UnqueuedAcceptedResult} :
    matchingActions (.acceptedAwaitingIntegration accepted) covered = [] := by
  simp [matchingActions, proposalMatchesObligation, executorProposalMatchesObligation,
    integrationProposalMatchesObligation, integrationQueuedAt,
    workflowOperationProposalMatchesObligation]

theorem obligationPauseProgress_obligation :
    (obligationPauseProgress delivery obligation responsibilityCoverage covered
      resources).responsibility.obligation = obligation := by
  cases obligation with
  | workflowResponsibility entry => cases entry <;> rfl
  | acceptedAwaitingIntegration accepted => rfl
  | queuedIntegration queued => rfl
  | startedIntegration started => rfl

theorem obligationPauseProgress_actionIds :
    (obligationPauseProgress delivery obligation responsibilityCoverage covered
      resources).actionIds = (matchingActions obligation covered).map (·.id) := by
  cases obligation with
  | workflowResponsibility entry => cases entry <;> rfl
  | acceptedAwaitingIntegration accepted =>
      rw [matchingActions_acceptedAwaitingIntegration]
      rfl
  | queuedIntegration queued => rfl
  | startedIntegration started => rfl

theorem obligationPauseProgress_shown :
    (obligationPauseProgress delivery obligation responsibilityCoverage covered
      resources).blockers.filterMap (·.actionId?) =
        (matchingActions obligation covered).map (·.id) := by
  have actions : ((matchingActions obligation covered).map fun proposal =>
      PauseSafeBoundaryBlocker.deliveryAction
        (actionBlocker proposal covered.liveOwners)).filterMap (·.actionId?) =
        (matchingActions obligation covered).map (·.id) := by
    rw [List.filterMap_map, ← List.filterMap_eq_map]
    exact List.filterMap_congr fun proposal _ => actionId?_actionBlocker
  cases obligation with
  | workflowResponsibility entry =>
      cases entry with
      | plannedAttemptExecutorWorkResponsibility beganAt plannedAttempt =>
          refine List.filterMap_append.trans ?_
          rw [actionIds_executorBoundaryBlocker, List.nil_append]
          exact actions
      | taskClaimResponsibility acquisition beganAt => exact actions
      | taskClaimReleaseResponsibility beganAt operation => exact actions
      | taskWorktreeResponsibility beganAt operation => exact actions
  | acceptedAwaitingIntegration accepted =>
      rw [matchingActions_acceptedAwaitingIntegration]
      rfl
  | queuedIntegration queued =>
      refine List.filterMap_append.trans ?_
      rw [actionIds_resourceBlockers, List.nil_append]
      exact actions
  | startedIntegration started =>
      refine List.filterMap_append.trans ?_
      rw [List.filterMap_append, actionIds_targetPromotionBlockers, actionIds_resourceBlockers,
        List.nil_append, List.nil_append]
      exact actions

theorem atSafeBoundary_of_unblocked
    (unblocked : (obligationPauseProgress delivery obligation responsibilityCoverage
      (coveredPauseActions subject runtime) resources).blockers = [])
    (idle : NoCoveredAction subject runtime) :
    AtSafeBoundary subject runtime resources delivery obligation := by
  have untouched : ∀ proposal ∈ runtime.everyActionProposal,
      ¬PauseReachesOrder runtime.pauseCoverage subject proposal.order := by
    intro proposal member
    rcases List.mem_append.mp member with proposed | live
    · exact idle.proposed proposal proposed
    · obtain ⟨owner, owned, rfl⟩ := List.mem_map.mp live
      exact idle.live owner owned
  cases obligation with
  | workflowResponsibility entry =>
      cases entry with
      | plannedAttemptExecutorWorkResponsibility beganAt plannedAttempt =>
          exact executorAtRest_of_unblocked (List.append_eq_nil_iff.mp unblocked).1
      | taskClaimResponsibility acquisition beganAt =>
          exact fun proposal member reached => absurd reached (untouched proposal member)
      | taskClaimReleaseResponsibility beganAt operation =>
          exact fun proposal member reached => absurd reached (untouched proposal member)
      | taskWorktreeResponsibility beganAt operation =>
          exact fun proposal member reached => absurd reached (untouched proposal member)
  | acceptedAwaitingIntegration accepted => trivial
  | queuedIntegration queued =>
      exact targetAtRest_of_unblocked (List.append_eq_nil_iff.mp unblocked).1
  | startedIntegration started =>
      obtain ⟨resting, -⟩ := List.append_eq_nil_iff.mp unblocked
      obtain ⟨settled, resting⟩ := List.append_eq_nil_iff.mp resting
      exact ⟨targetAtRest_of_unblocked resting, not_pending_of_unblocked settled⟩

end Covered

/-! ## The whole view -/

section View

variable {progress : List ObligationPauseProgress}

def PauseResponsibility.obligation? : PauseResponsibility → Option ExactWorkflowObligation
  | .workflow responsibility => some responsibility.obligation
  | .deliveryAction _ => none

def PauseProgressView.obligations : PauseProgressView → List ExactWorkflowObligation
  | .pauseWaiting atBoundary preventing _ _ =>
      atBoundary.map (·.obligation) ++ preventing.filterMap (·.responsibility.obligation?)
  | .pauseConfirmed atBoundary _ => atBoundary.map (·.obligation)

def PauseProgressView.actionIds : PauseProgressView → List DeliveryProposalId
  | .pauseWaiting _ preventing _ _ =>
      preventing.flatMap fun boundary => boundary.blockers.filterMap (·.actionId?)
  | .pauseConfirmed _ _ => []

@[simp]
theorem atBoundary?_of_unblocked {progress : ObligationPauseProgress}
    (unblocked : progress.blockers = []) : progress.atBoundary? = some progress.responsibility :=
  if_pos unblocked

@[simp]
theorem atBoundary?_of_blocked {progress : ObligationPauseProgress}
    (blocked : progress.blockers ≠ []) : progress.atBoundary? = none :=
  if_neg blocked

@[simp]
theorem preventing?_of_unblocked {progress : ObligationPauseProgress}
    (unblocked : progress.blockers = []) : progress.preventing? = none :=
  dif_neg (not_not_intro unblocked)

@[simp]
theorem preventing?_of_blocked {progress : ObligationPauseProgress}
    (blocked : progress.blockers ≠ []) :
    progress.preventing? =
      some ⟨progress.blockers, .workflow progress.responsibility, blocked⟩ :=
  dif_pos blocked

theorem perm_obligations (progress : List ObligationPauseProgress) :
    ((progress.filterMap (·.atBoundary?)).map (·.obligation) ++
      (progress.filterMap (·.preventing?)).filterMap (·.responsibility.obligation?)).Perm
        (progress.map (·.responsibility.obligation)) := by
  induction progress with
  | nil => exact .refl _
  | cons first rest induction =>
      by_cases unblocked : first.blockers = []
      · simpa [List.filterMap_cons, unblocked] using induction
      · simpa [List.filterMap_cons, unblocked, PauseResponsibility.obligation?] using
          List.perm_middle.trans (induction.cons first.responsibility.obligation)

theorem actionIds_preventing :
    (progress.filterMap (·.preventing?)).flatMap
        (fun boundary => boundary.blockers.filterMap (·.actionId?)) =
      progress.flatMap fun progress => progress.blockers.filterMap (·.actionId?) := by
  induction progress with
  | nil => rfl
  | cons first rest induction =>
      by_cases unblocked : first.blockers = []
      · simpa [List.filterMap_cons, unblocked] using induction
      · simpa [List.filterMap_cons, unblocked] using induction

theorem obligations_unmatchedActionProgress {covered : CoveredPauseActions}
    {matched : List DeliveryProposalId} :
    (unmatchedActionProgress covered matched).filterMap (·.responsibility.obligation?) = [] := by
  refine List.filterMap_eq_nil_iff.mpr fun boundary member => ?_
  obtain ⟨action, -, shown⟩ := List.mem_filterMap.mp member
  split at shown
  · cases shown
  · cases shown
    rfl

theorem actionIds_unmatchedActionProgress {covered : CoveredPauseActions}
    {matched : List DeliveryProposalId} :
    (unmatchedActionProgress covered matched).flatMap
        (fun boundary => boundary.blockers.filterMap (·.actionId?)) =
      (covered.everyAction.map (·.proposal.id)).filter (· ∉ matched) := by
  rw [unmatchedActionProgress]
  induction covered.everyAction with
  | nil => rfl
  | cons action rest induction =>
      by_cases known : action.proposal.id ∈ matched
      · simp [known, induction]
      · simp [known, induction, actionId?_actionBlocker]

/-- The obligations that a Pause reaches, as often as the deliveries list them. -/
noncomputable def coveredObligations (subject : ControlDirectionSubject)
    (runtime : ReadyRuntimeObservation) : List ExactWorkflowObligation :=
  open Classical in (runtime.deliveries.flatMap (·.obligations)).filter fun obligation =>
    PauseReaches runtime.pauseCoverage subject (obligationTaskId obligation)

theorem everyObligationProgress_obligations (subject : ControlDirectionSubject)
    (runtime : ReadyRuntimeObservation) (resources : IntegrationTargetResourceSnapshot) :
    (everyObligationProgress (coveredPauseActions subject runtime) runtime.deliveries
      resources).map (·.responsibility.obligation) = coveredObligations subject runtime := by
  rw [everyObligationProgress, coveredObligations, List.map_flatMap, List.filter_flatMap]
  refine List.flatMap_congr fun delivery listed => ?_
  rw [List.map_filterMap, ← List.filterMap_eq_filter]
  refine List.filterMap_congr fun obligation member => ?_
  have reached :
      obligationTaskId obligation ∈ (coveredPauseActions subject runtime).coverageByTask ↔
        PauseReaches runtime.pauseCoverage subject (obligationTaskId obligation) :=
    mem_coverageByTask_of_obligation listed member
  rw [← AList.lookup_isSome] at reached
  cases found : (coveredPauseActions subject runtime).coverageByTask.lookup
      (obligationTaskId obligation) with
  | none => simpa [found, Option.guard] using reached
  | some coverage =>
      simp only [found, Option.isSome_some, true_iff] at reached
      simp [Option.guard, reached, obligationPauseProgress_obligation]

theorem of_mem_everyObligationProgress {step : ObligationPauseProgress}
    (member : step ∈ everyObligationProgress (coveredPauseActions subject runtime)
      runtime.deliveries resources) :
    step.actionIds = (matchingActions step.responsibility.obligation
        (coveredPauseActions subject runtime)).map (·.id) ∧
      step.blockers.filterMap (·.actionId?) = step.actionIds := by
  obtain ⟨delivery, listed, member⟩ := List.mem_flatMap.mp member
  obtain ⟨obligation, owed, member⟩ := List.mem_filterMap.mp member
  obtain ⟨coverage, found, rfl⟩ := Option.map_eq_some_iff.mp member
  rw [obligationPauseProgress_obligation, obligationPauseProgress_shown,
    obligationPauseProgress_actionIds]
  exact ⟨rfl, rfl⟩

variable {view : PauseProgressView}

theorem of_pauseProgressViewOf
    (shown : pauseProgressViewOf subject runtime resources = .pauseProgressView view) :
    ∃ progress, progress = everyObligationProgress (coveredPauseActions subject runtime)
        runtime.deliveries resources ∧
      view.obligations.Perm (progress.map (·.responsibility.obligation)) ∧
      view.actionIds = (progress.flatMap fun step => step.blockers.filterMap (·.actionId?)) ++
        ((coveredPauseActions subject runtime).everyAction.map (·.proposal.id)).filter
          (· ∉ progress.flatMap (·.actionIds)) := by
  refine ⟨_, rfl, ?_⟩
  rw [← actionIds_preventing, ← actionIds_unmatchedActionProgress, ← List.flatMap_append]
  rw [pauseProgressViewOf] at shown
  split at shown
  · cases shown
  split at shown
  · cases shown
  dsimp only at shown
  split at shown
  · next waits =>
      cases shown
      refine ⟨?_, rfl⟩
      rw [PauseProgressView.obligations, List.filterMap_append, obligations_unmatchedActionProgress,
        List.append_nil]
      exact perm_obligations _
  · next confirmed =>
      cases shown
      have nothing := not_not.mp confirmed
      refine ⟨?_, by rw [nothing]; rfl⟩
      have settled := (List.append_eq_nil_iff.mp nothing).1
      have listed := perm_obligations (everyObligationProgress
        (coveredPauseActions subject runtime) runtime.deliveries resources)
      rw [settled, List.filterMap_nil, List.append_nil] at listed
      exact listed

theorem count_map_filter {Entry Id : Type} [DecidableEq Id] {entries : List Entry}
    {idOf : Entry → Id} {select : Entry → Bool} {entry : Entry} (distinct : (entries.map idOf).Nodup)
    (member : entry ∈ entries) :
    ((entries.filter select).map idOf).count (idOf entry) = if select entry then 1 else 0 := by
  have selected : ((entries.filter select).map idOf).Nodup :=
    distinct.sublist (List.filter_sublist.map idOf)
  rw [List.Nodup.count selected]
  refine if_congr ?_ rfl rfl
  rw [List.mem_map]
  constructor
  · rintro ⟨other, found, same⟩
    rw [List.mem_filter] at found
    obtain rfl := List.inj_on_of_nodup_map distinct found.1 member same
    exact found.2
  · exact fun chosen => ⟨entry, List.mem_filter.mpr ⟨member, chosen⟩, rfl⟩

theorem count_accounted {action : CoveredPauseAction} {steps : List ObligationPauseProgress}
    (member : action ∈ (coveredPauseActions subject runtime).everyAction)
    (accounts : ∀ step ∈ steps, step.actionIds = (matchingActions step.responsibility.obligation
      (coveredPauseActions subject runtime)).map (·.id)) :
    (steps.flatMap (·.actionIds)).count action.proposal.id =
      (steps.map (·.responsibility.obligation)).countP
        (proposalMatchesObligation action.proposal) := by
  induction steps with
  | nil => rfl
  | cons step steps induction =>
      rw [List.forall_mem_cons] at accounts
      have distinct : (((coveredPauseActions subject runtime).everyAction.map (·.proposal)).map
          (·.id)).Nodup := by
        rw [List.map_map]
        exact nodup_actionIds
      rw [List.flatMap_cons, List.count_append, induction accounts.2, List.map_cons,
        List.countP_cons, accounts.1, matchingActions,
        count_map_filter distinct (List.mem_map_of_mem member), Nat.add_comm]

theorem count_append_missing {Id : Type} [DecidableEq Id] {ids listed : List Id} {id : Id}
    (distinct : ids.Nodup) (member : id ∈ ids) :
    (listed ++ ids.filter (· ∉ listed)).count id = max 1 (listed.count id) := by
  rw [List.count_append]
  by_cases known : id ∈ listed
  · have missing : (ids.filter (· ∉ listed)).count id = 0 :=
      List.count_eq_zero.mpr fun kept => of_decide_eq_true (List.mem_filter.mp kept).2 known
    have positive := List.count_pos_iff.mpr known
    omega
  · have added : (ids.filter (· ∉ listed)).count id = 1 := by
      rw [List.count_filter (by simpa using known)]
      exact List.count_eq_one_of_mem distinct member
    have unlisted := List.count_eq_zero.mpr known
    omega

theorem count_actionIds {action : CoveredPauseAction}
    (shown : pauseProgressViewOf subject runtime resources = .pauseProgressView view)
    (member : action ∈ (coveredPauseActions subject runtime).everyAction) :
    view.actionIds.count action.proposal.id =
      max 1 ((coveredObligations subject runtime).countP
        (proposalMatchesObligation action.proposal)) := by
  obtain ⟨progress, rfl, -, lists⟩ := of_pauseProgressViewOf shown
  rw [← everyObligationProgress_obligations subject runtime resources,
    ← count_accounted member fun step listed => (of_mem_everyObligationProgress listed).1, lists,
    List.flatMap_congr fun step listed => (of_mem_everyObligationProgress listed).2]
  exact count_append_missing nodup_actionIds (List.mem_map_of_mem member)

theorem exists_everyAction_of_listed {id : DeliveryProposalId}
    (shown : pauseProgressViewOf subject runtime resources = .pauseProgressView view)
    (listed : id ∈ view.actionIds) :
    ∃ action ∈ (coveredPauseActions subject runtime).everyAction, action.proposal.id = id := by
  obtain ⟨progress, rfl, -, lists⟩ := of_pauseProgressViewOf shown
  rw [lists] at listed
  rcases List.mem_append.mp listed with accounted | alone
  · obtain ⟨step, known, accounted⟩ := List.mem_flatMap.mp accounted
    obtain ⟨matching, same⟩ := of_mem_everyObligationProgress known
    rw [same, matching] at accounted
    obtain ⟨proposal, member, rfl⟩ := List.mem_map.mp accounted
    obtain ⟨action, kept, rfl⟩ := List.mem_map.mp (List.mem_filter.mp member).1
    exact ⟨action, kept, rfl⟩
  · obtain ⟨action, kept, rfl⟩ := List.mem_map.mp (List.mem_filter.mp alone).1
    exact ⟨action, kept, rfl⟩

theorem of_pauseConfirmed {atBoundary : List PauseWorkflowResponsibility}
    (confirmed : pauseProgressViewOf subject runtime resources =
      .pauseProgressView (.pauseConfirmed atBoundary subject)) :
    (coveredPauseActions subject runtime).everyAction = [] ∧
      ∀ step ∈ everyObligationProgress (coveredPauseActions subject runtime) runtime.deliveries
        resources, step.blockers = [] := by
  rw [pauseProgressViewOf] at confirmed
  split at confirmed
  · cases confirmed
  split at confirmed
  · cases confirmed
  dsimp only at confirmed
  split at confirmed
  · cases confirmed
  · next settled =>
      obtain ⟨boundaries, unmatched⟩ := List.append_eq_nil_iff.mp (not_not.mp settled)
      have unblocked : ∀ step ∈ everyObligationProgress (coveredPauseActions subject runtime)
          runtime.deliveries resources, step.blockers = [] := by
        intro step listed
        by_contra blocked
        have kept := List.filterMap_eq_nil_iff.mp boundaries step listed
        rw [preventing?_of_blocked blocked] at kept
        cases kept
      refine ⟨?_, unblocked⟩
      have none : (everyObligationProgress (coveredPauseActions subject runtime) runtime.deliveries
          resources).flatMap (·.actionIds) = [] := by
        refine List.flatMap_eq_nil_iff.mpr fun step listed => ?_
        rw [← (of_mem_everyObligationProgress listed).2, unblocked step listed]
        rfl
      rw [none] at unmatched
      refine List.eq_nil_iff_forall_not_mem.mpr fun action member => ?_
      have shown := List.filterMap_eq_nil_iff.mp unmatched action member
      simp at shown

theorem exists_view_iff :
    (∃ view, pauseProgressViewOf subject runtime resources = .pauseProgressView view) ↔
      appliedPauseCoversSubject subject runtime.pauseCoverage ∧
        ∀ conflict ∈ runtime.proposedActions.conflicts,
          ¬PauseReachesOrder runtime.pauseCoverage subject conflict.order := by
  have uncontested : conflictingProposalIds subject runtime = [] ↔
      ∀ conflict ∈ runtime.proposedActions.conflicts,
        ¬PauseReachesOrder runtime.pauseCoverage subject conflict.order := by
    rw [conflictingProposalIds]
    split
    · next proposals offered => simp [offered, ProposedActions.conflicts]
    · next conflicts contested =>
        rw [List.filterMap_eq_nil_iff, contested, ProposedActions.conflicts]
        refine forall₂_congr fun conflict member => ?_
        cases ordered : deliveryProposalOrderTaskId conflict.order with
        | none => simp [PauseReachesOrder, ordered]
        | some taskId =>
            have listed : taskId ∈ runtime.deliveries.flatMap (fun delivery =>
                delivery.taskId :: delivery.obligations.map obligationTaskId) ++
                conflicts.filterMap fun conflict => deliveryProposalOrderTaskId conflict.order :=
              List.mem_append_right _ (List.mem_filterMap.mpr ⟨conflict, member, ordered⟩)
            simp [PauseReachesOrder, ordered,
              mem_coveredTaskCoverage subject runtime.pauseCoverage listed]
  rw [← uncontested, pauseProgressViewOf]
  split
  · next unapplied => simp_all
  split
  · next contested => simp_all
  dsimp only
  split
  · simp_all
  · simp_all

/-- A Pause is confirmed only when every obligation that it reaches is at its safe boundary and no
action that it reaches is left.  Every view lists each reached obligation once, and each reached
action once for every obligation that it matches, on its own where it matches none. -/
theorem pauseProgressViewOf_accounts (subject : ControlDirectionSubject)
    (runtime : ReadyRuntimeObservation) (resources : IntegrationTargetResourceSnapshot) :
    ((∃ view, pauseProgressViewOf subject runtime resources = .pauseProgressView view) ↔
      appliedPauseCoversSubject subject runtime.pauseCoverage ∧
        ∀ conflict ∈ runtime.proposedActions.conflicts,
          ¬PauseReachesOrder runtime.pauseCoverage subject conflict.order) ∧
    (∀ atBoundary, pauseProgressViewOf subject runtime resources =
        .pauseProgressView (.pauseConfirmed atBoundary subject) →
      NoCoveredAction subject runtime ∧
        ∀ delivery ∈ runtime.deliveries, ∀ obligation ∈ delivery.obligations,
          PauseReaches runtime.pauseCoverage subject (obligationTaskId obligation) →
            AtSafeBoundary subject runtime resources delivery obligation) ∧
    ∀ view, pauseProgressViewOf subject runtime resources = .pauseProgressView view →
      view.obligations.Perm (coveredObligations subject runtime) ∧
      (∀ id ∈ view.actionIds, ∃ proposal ∈ runtime.everyActionProposal, proposal.id = id ∧
        PauseReachesOrder runtime.pauseCoverage subject proposal.order) ∧
      ∀ proposal ∈ runtime.everyActionProposal,
        PauseReachesOrder runtime.pauseCoverage subject proposal.order →
          ∃ kept ∈ runtime.everyActionProposal, kept.id = proposal.id ∧
            PauseReachesOrder runtime.pauseCoverage subject kept.order ∧
            view.actionIds.count proposal.id = max 1
              ((coveredObligations subject runtime).countP (proposalMatchesObligation kept)) := by
  refine ⟨exists_view_iff, fun atBoundary confirmed => ?_, fun view shown => ⟨?_, ?_, ?_⟩⟩
  · obtain ⟨idle, unblocked⟩ := of_pauseConfirmed confirmed
    have untouched : ∀ proposal ∈ runtime.everyActionProposal,
        ¬PauseReachesOrder runtime.pauseCoverage subject proposal.order := by
      intro proposal member reached
      obtain ⟨action, kept, -⟩ := exists_everyAction_of_reached member reached
      rw [idle] at kept
      exact List.not_mem_nil kept
    have quiet : NoCoveredAction subject runtime :=
      { proposed := fun proposal member => untouched proposal (List.mem_append_left _ member)
        live := fun owner member =>
          untouched owner.proposal (List.mem_append_right _ (List.mem_map_of_mem member))
        contested := (exists_view_iff.mp ⟨_, confirmed⟩).2 }
    refine ⟨quiet, fun delivery listed obligation owed reached => ?_⟩
    obtain ⟨coverage, found⟩ := Option.isSome_iff_exists.mp
      (AList.lookup_isSome.mpr ((mem_coverageByTask_of_obligation listed owed).mpr reached))
    have step : obligationPauseProgress delivery obligation coverage
        (coveredPauseActions subject runtime) resources ∈
          everyObligationProgress (coveredPauseActions subject runtime) runtime.deliveries
            resources :=
      List.mem_flatMap.mpr ⟨delivery, listed,
        List.mem_filterMap.mpr ⟨obligation, owed, congrArg (Option.map _) found⟩⟩
    exact atSafeBoundary_of_unblocked (unblocked _ step) quiet
  · obtain ⟨progress, rfl, lists, -⟩ := of_pauseProgressViewOf shown
    rwa [everyObligationProgress_obligations] at lists
  · intro id listed
    obtain ⟨action, kept, rfl⟩ := exists_everyAction_of_listed shown listed
    obtain ⟨offered, covered⟩ := reached_of_mem_everyAction kept
    exact ⟨action.proposal, offered, rfl, covered⟩
  · intro proposal member reached
    obtain ⟨action, kept, named⟩ := exists_everyAction_of_reached member reached
    obtain ⟨offered, covered⟩ := reached_of_mem_everyAction kept
    exact ⟨action.proposal, offered, named, covered, named ▸ count_actionIds shown kept⟩

end View

end Reach

/-! ## A paused Run -/

def PauseProjection.view? : PauseProjection → Option PauseProgressView
  | .pauseProgressView view => some view
  | .pauseProjectionNotApplied | .pauseProgressProjectionConflict _ _ => none

theorem PauseProjection.of_view? {projection : PauseProjection} {view : PauseProgressView}
    (shown : projection.view? = some view) : projection = .pauseProgressView view := by
  cases projection with
  | pauseProjectionNotApplied => cases shown
  | pauseProgressProjectionConflict proposalIds subject => cases shown
  | pauseProgressView other =>
      exact congrArg PauseProjection.pauseProgressView (Option.some.inj shown)

namespace ContestedAttempt

theorem run_named : "run with a contested attempt" ≠ "" := by decide

def plannedAttempt : PlannedTaskAttempt where
  attemptId := ⟨"attempt"⟩
  baseSha := ⟨"base"⟩
  branch := "branch"
  executor := "executor"
  runId := ⟨"run with a contested attempt", run_named⟩
  taskId := ⟨"task"⟩
  taskRevision := ⟨"revision"⟩
  worktree := "worktree"

def subject : ControlDirectionSubject :=
  .run plannedAttempt.runId

def resources : IntegrationTargetResourceSnapshot :=
  ⟨[], []⟩

def work (beganAt : JournalPosition) : WorkflowResponsibilityEntry :=
  .plannedAttemptExecutorWorkResponsibility beganAt plannedAttempt

def suspension : PauseProposal where
  id := ⟨"suspend"⟩
  acceptedTransition := none
  integrationTarget := none
  order := .recoveredWorkflowOrder ⟨"task"⟩
  plannedAttemptProtocol := some (plannedAttemptExecutorCorrelation plannedAttempt)

def runtime (disposition : ResponsibilityDisposition) (beganAt : List JournalPosition)
    (proposals : List PauseProposal) : ReadyRuntimeObservation where
  deliveries :=
    [{ evidence := beganAt.map fun position => .responsibilityFacts ⟨disposition, work position⟩
       obligations := beganAt.map fun position => .workflowResponsibility (work position)
       taskId := ⟨"task"⟩ }]
  liveOwners := []
  pauseCoverage := .pauseCoverageGraphNotEstablished ⟨.runPaused, .noTaskPauses⟩
  proposedActions := .deliveryProposalsAvailable proposals

def suspended : ReadyRuntimeObservation :=
  runtime .plannedAttemptExecutorWorkSafelySuspended [4] []

def contested : ReadyRuntimeObservation :=
  runtime .other [4, 6] [suspension]

theorem confirmed_suspended :
    pauseProgressViewOf subject suspended resources =
      .pauseProgressView (.pauseConfirmed
        [⟨.runPauseCoverage, .workflowResponsibility (work 4), ⟨"task"⟩⟩] subject) := by
  decide +kernel

theorem reached_suspension :
    PauseReachesOrder contested.pauseCoverage subject suspension.order :=
  ⟨_, rfl, trivial⟩

/-- The suspended Run is confirmed at rest; the contested one shows its reached obligations. -/
theorem accounts_contestedAttempt :
    (NoCoveredAction subject suspended ∧ ExecutorAtRest
      ⟨[.responsibilityFacts ⟨.plannedAttemptExecutorWorkSafelySuspended, work 4⟩],
        [.workflowResponsibility (work 4)], ⟨"task"⟩⟩ plannedAttempt) ∧
    ∃ view, pauseProgressViewOf subject contested resources = .pauseProgressView view ∧
      view.obligations.Perm (coveredObligations subject contested) := by
  obtain ⟨idle, safe⟩ := (pauseProgressViewOf_accounts subject suspended resources).2.1 _
    confirmed_suspended
  obtain ⟨view, shown⟩ := (pauseProgressViewOf_accounts subject contested resources).1.mpr
    ⟨by decide, fun conflict member => absurd member List.not_mem_nil⟩
  exact ⟨⟨idle, safe _ (List.mem_singleton_self _) _ (List.mem_singleton_self _) trivial⟩, view,
    shown, ((pauseProgressViewOf_accounts subject contested resources).2.2 view shown).1⟩

theorem actionIds_contested :
    (pauseProgressViewOf subject contested resources).view?.map (·.actionIds) =
      some [⟨"suspend"⟩, ⟨"suspend"⟩] := by
  decide +kernel

/-- Not every reached action is listed exactly once. -/
theorem not_listed_once :
    ¬∀ (subject : ControlDirectionSubject) (runtime : ReadyRuntimeObservation)
      (resources : IntegrationTargetResourceSnapshot) (view : PauseProgressView),
      pauseProgressViewOf subject runtime resources = .pauseProgressView view →
        ∀ proposal ∈ runtime.everyActionProposal,
          PauseReachesOrder runtime.pauseCoverage subject proposal.order →
            view.actionIds.count proposal.id = 1 := by
  intro once
  obtain ⟨view, shown, lists⟩ := Option.map_eq_some_iff.mp actionIds_contested
  have listed := once subject contested resources view (PauseProjection.of_view? shown) suspension
    (List.mem_singleton_self _) reached_suspension
  rw [lists] at listed
  cases listed

end ContestedAttempt

end Dalph
