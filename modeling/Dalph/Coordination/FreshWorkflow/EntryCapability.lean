import Dalph.Coordination.FreshWorkflow.Selection
import Dalph.Coordination.Reconstruction.History
import Dalph.Foundation.Loop

/-!
# Capability of fresh entries

A decision enters a task into fresh work when it reads the task's graph or claims the task.  The
selection reaches such a step only along the facts that the list of entry-capable tasks asks for.
-/

namespace Dalph

namespace FreshWorkflow

def Continues (task : TrackerTask) (step : FreshWorkflowStep) : Prop :=
  step.task = task ∧ isFreshTaskEntryDecision (decisionFor step) = false

section

variable {readers : AttemptAuthorityReaders} {frame : CurrentDeliveryFrame}
  {context : SelectionContext} {task : TrackerTask} {step : FreshWorkflowStep}

theorem continues_executorObservation
    (found : executorObservation? frame context task = some step) : Continues task step := by
  simp only [executorObservation?, Option.bind_eq_bind, Option.bind_eq_some_iff] at found
  obtain ⟨responsibility, -, plannedAttempt, -, found⟩ := found
  split at found
  · cases found
  · simp only [Option.bind_eq_some_iff] at found
    obtain ⟨record, -, report, -, specification, -, found⟩ := found
    split at found
    · cases found
      exact ⟨rfl, rfl⟩
    · cases found

theorem continues_ordinaryPlanStep {plannedAttempt : PlannedTaskAttempt}
    (found : ordinaryPlanStep? readers frame context plannedAttempt task = some step) :
    Continues task step := by
  simp only [ordinaryPlanStep?, Option.bind_eq_bind, Option.bind_eq_some_iff] at found
  obtain ⟨lineage, -, commitment, -, found⟩ := found
  split at found
  · cases found
  · simp only [Option.bind_eq_some_iff] at found
    obtain ⟨specification, -, found⟩ := found
    split at found
    · cases found
      exact ⟨rfl, rfl⟩
    · split at found
      · cases found
      · cases found
        exact ⟨rfl, rfl⟩

theorem continues_replacementStep {plan : PlannedAttemptOperation}
    (found : replacementStep? readers frame context plan task = some step) :
    Continues task step := by
  simp only [replacementStep?, Option.bind_eq_bind, Option.bind_eq_some_iff] at found
  obtain ⟨authority, -, found⟩ := found
  split at found
  · split at found
    · cases found
      exact ⟨rfl, rfl⟩
    · cases found
  · split at found
    · cases found
      exact ⟨rfl, rfl⟩
    · cases found

theorem continues_specifiedStep {facts : FocusedTaskWorkSpecificationFactsObserved}
    {policy : AttemptBasePolicy}
    (found : specifiedStep? readers frame facts policy task = some step) : Continues task step := by
  simp only [specifiedStep?, Option.bind_eq_bind, Option.bind_eq_some_iff] at found
  obtain ⟨commitment, -, found⟩ := found
  split at found
  · cases found
  · split at found
    · cases found
      exact ⟨rfl, rfl⟩
    · split at found
      · cases found
      · cases found
        exact ⟨rfl, rfl⟩
      · cases found
        exact ⟨rfl, rfl⟩

theorem continues_baseRetryRead {requestId : String} {baseRead : ReadTaskAttemptBaseOperation}
    {specificationId : OperationId} {work : FocusedTaskWorkSpecificationFactsObserved}
    (found : baseRetryRead frame requestId baseRead specificationId work task = .step step) :
    Continues task step := by
  simp only [baseRetryRead] at found
  split at found
  · cases found
  · cases found
  · cases found
    exact ⟨rfl, rfl⟩

theorem continues_baseRetryFacts {claimOperationId : OperationId}
    {operation : TaskTrackerReadOperation}
    (found : baseRetryFacts claimOperationId operation task = .step step) :
    Continues task step := by
  cases found
  exact ⟨rfl, rfl⟩

theorem continues_baseRetryReads {request : JournalRecord} {requestId : String}
    {baseRead : ReadTaskAttemptBaseOperation} {claim : ActiveTaskClaim} {target : TrackerTarget}
    (found : baseRetryReads frame request requestId baseRead claim target task = .step step) :
    Continues task step := by
  simp only [baseRetryReads] at found
  split at found
  · exact continues_baseRetryFacts found
  · split at found
    · cases found
    · split at found
      · exact continues_baseRetryFacts found
      · split at found
        · cases found
        · split at found
          · exact continues_baseRetryFacts found
          · split at found
            · cases found
            · split at found
              · cases found
              · exact continues_baseRetryRead found

theorem continues_baseRetryWorkflowStep (found : baseRetryWorkflowStep frame task = .step step) :
    Continues task step := by
  simp only [baseRetryWorkflowStep] at found
  split at found
  · cases found
  · split at found
    · cases found
    · split at found
      · cases found
      · split at found
        · exact continues_baseRetryReads found
        · cases found

theorem continues_acquiredStep {operation : AcquireTaskClaimOperation} :
    Continues task (acquiredStep frame context operation task) := by
  simp only [acquiredStep]
  split
  · exact ⟨rfl, rfl⟩
  · exact ⟨rfl, rfl⟩

theorem continues_rejectedClaim {records : JournalHistorySource} {claimIntent : JournalRecord}
    {completeGraphObserved : List OperationId} {targetKey : String}
    (found : rejectedFreshTaskClaimDisposition records task claimIntent completeGraphObserved
      targetKey = .observeConstraint step) : Continues task step := by
  rw [rejectedFreshTaskClaimDisposition] at found
  split at found
  · cases found
  · split at found
    · cases found
    · rw [rejectedConstraint] at found
      split at found
      · cases found
      · cases found
      · cases found
      · split at found
        · cases found
        · cases found
          exact ⟨rfl, rfl⟩

theorem task_entryStep (found : entryStep frame context task = .ok step) : step.task = task := by
  rw [entryStep] at found
  split at found
  · cases found
    rfl
  · split at found
    · cases found
      rfl
    · cases found

end

theorem findLast_congr {Item : Type} {items : List Item} {test test' : Item → Bool}
    (agree : ∀ item ∈ items, test item = test' item) :
    findLast items test = findLast items test' := by
  rw [findLast_eq_filter, findLast_eq_filter, List.filter_congr agree]

theorem mem_of_recordsForTask {source : JournalHistorySource} {records : List JournalRecord}
    (presents : Presents source records) {taskId : TaskId} {record : JournalRecord}
    (member : record ∈ journalRecordsForTask taskId source) : record ∈ records := by
  cases presents with
  | raw => exact List.mem_of_mem_filter member
  | indexed chronological shows =>
      rw [shows.journalRecordsForTask_eq chronological.increasing] at member
      exact List.mem_of_mem_filter member

theorem expectedKey_of_selectionClaim {event : WorkflowJournalEvent}
    {operation : AcquireTaskClaimOperation} (selected : selectionClaim? event = some operation) :
    event.expectedKey = intentRecordKey operation.acquisition.operationId := by
  cases event with
  | taskClaimAcquisitionIntended recorded =>
      simp only [selectionClaim?, Option.ite_none_right_eq_some, Option.some.injEq] at selected
      rw [← selected.2]
      rfl
  | _ => cases selected

theorem claimsTaskUnderKey_eq (frame : CurrentDeliveryFrame) (taskId : TaskId)
    {record : JournalRecord} (member : record ∈ frame.records) :
    claimsTaskUnderKey taskId record = claimsTask taskId record := by
  have keyed := frame.canonical.keyed record member
  rw [claimsTaskUnderKey, claimsTask]
  cases selected : selectionClaim? record.event with
  | none => rfl
  | some operation =>
      have expected : record.event.expectedKey =
          intentRecordKey operation.acquisition.operationId :=
        expectedKey_of_selectionClaim selected
      simp [keyed, expected]

theorem findLast_claimsTaskUnderKey (frame : CurrentDeliveryFrame) (taskId : TaskId) :
    findLast (journalRecordsForTask taskId frame.source) (claimsTaskUnderKey taskId) =
      findLast (journalRecordsForTask taskId frame.source) (claimsTask taskId) :=
  findLast_congr fun _ member =>
    claimsTaskUnderKey_eq frame taskId (mem_of_recordsForTask frame.presented member)

theorem rejectedClaim_congr {records : JournalHistorySource} {claimIntent : JournalRecord}
    {completeGraphObserved : List OperationId} {targetKey : String} {task other : TrackerTask}
    (same : task.id = other.id) :
    rejectedFreshTaskClaimDisposition records task claimIntent completeGraphObserved targetKey =
        rejectedFreshTaskClaimDisposition records other claimIntent completeGraphObserved
          targetKey ∨
      ∃ step step', rejectedFreshTaskClaimDisposition records task claimIntent
          completeGraphObserved targetKey = .observeConstraint step ∧
        rejectedFreshTaskClaimDisposition records other claimIntent completeGraphObserved
          targetKey = .observeConstraint step' := by
  rw [rejectedFreshTaskClaimDisposition, rejectedFreshTaskClaimDisposition]
  cases selectionClaim? claimIntent.event with
  | none => exact .inl rfl
  | some operation =>
      simp only
      cases latestRejectedClaimOutcome records claimIntent.runId claimIntent.position
          operation.acquisition.operationId with
      | none => exact .inl rfl
      | some rejected =>
          simp only [rejectedConstraint, same]
          generalize advanceFocusedConstraintReads records claimIntent.runId targetKey
            completeGraphObserved _ rejected.position = advance
          cases advance with
          | cleared => exact .inl rfl
          | ignored => exact .inl rfl
          | retained => exact .inl rfl
          | wakeAdvanced wakeBaseline =>
              simp only
              cases completeGraphWakeFor records claimIntent.runId wakeBaseline targetKey
                  completeGraphObserved none none with
              | none => exact .inl rfl
              | some wakeGraph => exact .inr ⟨_, _, rfl, rfl⟩

theorem claimPermitsEntry_congr (frame : CurrentDeliveryFrame) (context : SelectionContext)
    {task other : TrackerTask} (same : task.id = other.id) :
    claimPermitsEntry frame context task = claimPermitsEntry frame context other := by
  rw [claimPermitsEntry, claimPermitsEntry, same]
  cases findLast (journalRecordsForTask other.id frame.source) (claimsTask other.id) with
  | none => rfl
  | some latestClaimIntent =>
      obtain alike | ⟨step, step', observes, observes'⟩ := @rejectedClaim_congr frame.source
        latestClaimIntent context.completeGraphObserved context.immutableRunTargetKey task other
        same
      · simp only [alike]
      · simp only [observes, observes']

section

variable {readers : AttemptAuthorityReaders} {frame : CurrentDeliveryFrame}
  {context : SelectionContext} {task : TrackerTask} {step : FreshWorkflowStep}

/-- A claim step is about its task, and enters it only where its claim permits entry. -/
theorem claimStep_eq_some (found : claimStep frame context task = .ok (some step)) :
    step.task = task ∧ (isFreshTaskEntryDecision (decisionFor step) = true →
      claimPermitsEntry frame context task = true) := by
  have entered (mapped : (entryStep frame context task).map some = .ok (some step)) :
      step.task = task := by
    obtain ⟨value, entry, same⟩ := Except.map_eq_ok_iff.mp mapped
    cases same
    exact task_entryStep entry
  rw [claimStep, findLast_claimsTaskUnderKey] at found
  rw [claimPermitsEntry]
  cases claim : findLast (journalRecordsForTask task.id frame.source) (claimsTask task.id) with
  | none =>
      rw [claim] at found
      exact ⟨entered found, fun _ => rfl⟩
  | some intent =>
      rw [claim] at found
      obtain ⟨operation, selected⟩ : ∃ operation,
          selectionClaim? intent.event = some operation := by
        have claims := (mem_of_findLast claim).2
        cases selected : selectionClaim? intent.event with
        | none => simp [claimsTask, selected] at claims
        | some operation => exact ⟨operation, rfl⟩
      simp only [selected] at found
      split at found
      · cases found
        exact ⟨continues_acquiredStep.1, fun enters => by
          simp [continues_acquiredStep.2] at enters⟩
      · split at found
        next step observes =>
          cases found
          have continues := continues_rejectedClaim observes
          exact ⟨continues.1, fun enters => by simp [continues.2] at enters⟩
        next => cases found
        next absent => exact ⟨entered found, fun _ => by simp only [absent]⟩
        next cleared => exact ⟨entered found, fun _ => by simp only [cleared]⟩

/-- A step is about its task, and enters it only under a base policy and where its claim permits
entry. -/
theorem journaledStepFor_eq_some
    (found : journaledStepFor readers frame context task = .ok (some step)) :
    step.task = task ∧ (isFreshTaskEntryDecision (decisionFor step) = true →
      (acceptedAttemptBasePolicy frame.source).isSome ∧
        claimPermitsEntry frame context task = true) := by
  have continues {step : FreshWorkflowStep} (continues : Continues task step) :
      step.task = task ∧ (isFreshTaskEntryDecision (decisionFor step) = true →
        (acceptedAttemptBasePolicy frame.source).isSome ∧
          claimPermitsEntry frame context task = true) :=
    ⟨continues.1, fun enters => by simp [continues.2] at enters⟩
  rw [journaledStepFor] at found
  split at found
  next observation observed =>
    cases found
    exact continues (continues_executorObservation observed)
  next =>
    split at found
    next plan _ =>
      split at found
      · exact continues (continues_ordinaryPlanStep (Except.ok.inj found))
      · exact continues (continues_replacementStep (Except.ok.inj found))
    next =>
      split at found
      · cases found
      next policy accepted =>
        split at found
        · cases found
        next retried asked =>
          cases found
          exact continues (continues_baseRetryWorkflowStep asked)
        next =>
          split at found
          · exact continues (continues_specifiedStep (Except.ok.inj found))
          · obtain ⟨about, permitted⟩ := claimStep_eq_some found
            exact ⟨about, fun enters => ⟨by simp [accepted], permitted enters⟩⟩

theorem decisionsFor_spec {tasks : List TrackerTask} {decisions : List FreshWorkflowDecision}
    (decided : decisionsFor readers frame context tasks = .ok decisions) :
    (decisions.map (·.step.task)).Sublist tasks ∧ ∀ decision ∈ decisions, ∃ task ∈ tasks,
      journaledStepFor readers frame context task = .ok (some decision.step) ∧
        decision = decisionFor decision.step := by
  induction tasks generalizing decisions with
  | nil =>
      cases decided
      exact ⟨List.Sublist.refl _, fun decision member => by cases member⟩
  | cons task tasks induction =>
      obtain ⟨step, stepped, decided⟩ := Except.bind_eq_ok_iff.mp decided
      obtain ⟨later, decidedLater, decided⟩ := Except.bind_eq_ok_iff.mp decided
      cases decided
      obtain ⟨ordered, each⟩ := induction decidedLater
      have others : ∀ decision ∈ later, ∃ other ∈ task :: tasks,
          journaledStepFor readers frame context other = .ok (some decision.step) ∧
            decision = decisionFor decision.step := by
        intro decision member
        obtain ⟨other, listed, derived⟩ := each decision member
        exact ⟨other, List.mem_cons_of_mem task listed, derived⟩
      cases step with
      | none =>
          exact ⟨ordered.cons task, others⟩
      | some step =>
          constructor
          · have about : step.task = task := (journaledStepFor_eq_some stepped).1
            simpa [decisionFor, about] using ordered
          · intro decision member
            obtain rfl | member := List.mem_cons.mp member
            · exact ⟨task, List.mem_cons_self, stepped, rfl⟩
            · exact others decision member

end

theorem nodup_eligibleTasks (snapshot : TaskDagSnapshot) :
    (snapshot.eligibleTasks.map (·.id)).Nodup := by
  have listed (ids : List TaskId) : ((ids.filterMap fun taskId =>
      (snapshot.node? taskId).map fun node =>
        ({ descriptor := node.descriptor
           id := taskId
           lifecycle := node.lifecycle
           parentTaskId := snapshot.parentTaskIdOf taskId
           prerequisiteIds := snapshot.prerequisitesOf taskId } : TrackerTask)).map (·.id)).Sublist
      ids := by
    induction ids with
    | nil => exact List.Sublist.refl _
    | cons taskId ids induction =>
        cases node : snapshot.node? taskId with
        | none => simpa [node] using induction.cons taskId
        | some _ => simpa [node] using induction
  have distinct : snapshot.eligibleTaskIds.Nodup := snapshot.nodup_taskIds.filter _
  exact distinct.sublist (listed snapshot.eligibleTaskIds)

section

variable {readers : AttemptAuthorityReaders} {frame : CurrentDeliveryFrame}
  {recoveredAttemptIds : List AttemptId} {immutableRunTarget : TrackerTarget}
  {decisions : List FreshWorkflowDecision}

theorem decision_spec
    (decided : deriveFreshWorkflowDecisions readers frame recoveredAttemptIds immutableRunTarget =
      .ok decisions) :
    (decisions.map (·.step.task.id)).Nodup ∧ ∀ decision ∈ decisions,
      frame.pause.run ≠ .runPaused ∧ ∃ task : TrackerTask,
        task.id ∈ frame.currentGraph.eligibleTasks.map (·.id) ∧
          taskIsFree frame recoveredAttemptIds task.id = true ∧
          decision = decisionFor decision.step ∧
          journaledStepFor readers frame
            (selectionContext frame recoveredAttemptIds immutableRunTarget) task =
              .ok (some decision.step) := by
  rw [deriveFreshWorkflowDecisions] at decided
  split at decided
  · cases decided
    exact ⟨List.nodup_nil, fun decision member => by cases member⟩
  next running =>
    obtain ⟨unsorted, derived, sorted⟩ := Except.bind_eq_ok_iff.mp decided
    cases sorted
    obtain ⟨ordered, each⟩ := decisionsFor_spec derived
    have sorting := unsorted.mergeSort_perm fun left right => rank left.step ≤ rank right.step
    constructor
    · have distinct : (unsorted.map (·.step.task.id)).Nodup := by
        have identities := (ordered.trans List.filter_sublist).map TrackerTask.id
        rw [List.map_map] at identities
        exact (nodup_eligibleTasks _).sublist identities
      exact (sorting.map _).nodup_iff.mpr distinct
    · intro decision member
      obtain ⟨task, candidate, stepped, formed⟩ := each decision (sorting.mem_iff.mp member)
      have selected := (List.mem_filter.mp candidate).2
      simp only [Bool.and_eq_true, decide_eq_true_eq] at selected
      exact ⟨running, task, selected.1, selected.2, formed, stepped⟩

end

/-- Every task that a decision enters into fresh work is counted as entry-capable in the same frame,
and no task has two decisions. -/
theorem deriveFreshWorkflowDecisions_covered (readers : AttemptAuthorityReaders)
    (frame : CurrentDeliveryFrame) (recoveredAttemptIds : List AttemptId)
    (immutableRunTarget : TrackerTarget) (decisions : List FreshWorkflowDecision)
    (decided : deriveFreshWorkflowDecisions readers frame recoveredAttemptIds immutableRunTarget =
      .ok decisions) :
    (∀ decision ∈ decisions, isFreshTaskEntryDecision decision = true →
      decision.step.task.id ∈
        deriveFreshWorkflowEntryCapableTaskIds frame immutableRunTarget recoveredAttemptIds) ∧
      (decisions.map (·.step.task.id)).Nodup := by
  obtain ⟨distinct, each⟩ := decision_spec decided
  refine ⟨fun decision member enters => ?_, distinct⟩
  obtain ⟨running, task, eligible, free, formed, stepped⟩ := each decision member
  rw [formed] at enters
  obtain ⟨about, permitted⟩ := journaledStepFor_eq_some stepped
  obtain ⟨policy, permits⟩ := permitted enters
  obtain ⟨current, listed, same⟩ := List.mem_map.mp eligible
  rw [about, ← same, deriveFreshWorkflowEntryCapableTaskIds]
  have selecting : (decide (frame.pause.run = .runPaused) ||
      (acceptedAttemptBasePolicy frame.source).isNone) = false := by
    simp [running, policy]
  rw [selecting]
  refine List.mem_map.mpr ⟨current, List.mem_filter.mpr ⟨listed, ?_⟩, rfl⟩
  rw [same, free, claimPermitsEntry_congr frame _ same, permits]
  rfl

namespace BegunRun

open EstablishedRun

def trackerTask : TrackerTask :=
  { descriptor := none
    id := task
    lifecycle := .opened
    parentTaskId := none
    prerequisiteIds := [] }

def decodedGraph : TrackerSnapshot :=
  { revision := ⟨"graph-revision"⟩
    rootTaskId := some task
    tasks := [trackerTask] }

theorem decodedGraph_valid : projectionIssues decodedGraph = [] := by decide +kernel

def records : List JournalRecord :=
  recordsFrom
    [.workflowRunBegan
        ⟨some (.explicitFixedBase attempt.baseSha), 1, ⟨"publication-target"⟩, target⟩,
      .taskTrackerReadIntentRecorded
        (.readTrackerGraph { graphRead with predecessorOperationIds := [] }),
      .taskTrackerFactsObserved (.completeTaskTrackerFacts facts)]

theorem canonical_records : Canonical runId records where
  positions := by decide
  owned := by decide
  keyed := by decide
  distinctKeys := by decide

def frame : CurrentDeliveryFrame where
  currentGraph := ⟨decodedGraph, decodedGraph_valid⟩
  pause := { run := .runUnpaused, tasks := .noTaskPauses }
  responsibility := []
  runId := runId
  evidence := journalEvidenceFrom records
  records := records
  presented := presents_journalEvidenceFrom canonical_records.chronological
  canonical := canonical_records

def readers : AttemptAuthorityReaders where
  acceptedFreshAttemptLineage _ _ _ := none
  replacementContinuationAuthorityFrom _ _ _ _ := none

def claimDecision : FreshWorkflowDecision :=
  decisionFor (.acquireTaskClaim graphRead.operationId trackerTask)

theorem decided : deriveFreshWorkflowDecisions readers frame [] target = .ok [claimDecision] := by
  decide +kernel

end BegunRun

/-- The task of a begun Run is counted while its claim is proposed. -/
theorem begunRun_covered :
    (∀ decision ∈ [BegunRun.claimDecision], isFreshTaskEntryDecision decision = true →
      decision.step.task.id ∈ deriveFreshWorkflowEntryCapableTaskIds BegunRun.frame
        EstablishedRun.target []) ∧
      ([BegunRun.claimDecision].map (·.step.task.id)).Nodup :=
  deriveFreshWorkflowDecisions_covered BegunRun.readers BegunRun.frame [] EstablishedRun.target
    [BegunRun.claimDecision] BegunRun.decided

end FreshWorkflow

end Dalph
