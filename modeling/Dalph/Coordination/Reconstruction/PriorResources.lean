import Dalph.Coordination.Reconstruction.HistoryIndexes

/-!
# Resources of a replaced attempt

A Restart may replace an attempt only while the claim, the task and the worktree of the attempt were
left alone behind the applied choice.  A plain list is searched for any mutation; indexed evidence is
asked for the last one of each kind.
-/

namespace Dalph

/-- The event mutates the claim, the task or the worktree that a replacement relies on. -/
def replacementResourceConflict (event : WorkflowJournalEvent) (plannedAttempt : PlannedTaskAttempt)
    (expectedClaim : ActiveTaskClaim) : Bool :=
  match event with
  | .taskClaimReacquisitionDirected directed =>
      directed.runId = plannedAttempt.runId && directed.taskId = plannedAttempt.taskId
  | .taskClaimAcquisitionIntended operation => operation.acquisition.taskId = plannedAttempt.taskId
  | .taskClaimReleaseIntended operation => isExactTaskClaim operation.release.claim expectedClaim
  | .taskClaimReleased release => isExactTaskClaim release.claim expectedClaim
  | .taskWorktreeReconciliationIntended operation =>
      plannedTaskAttemptEquivalence operation.plannedAttempt plannedAttempt
  | _ => false

def conflictsBehind (applicationPosition : JournalPosition) (plannedAttempt : PlannedTaskAttempt)
    (expectedClaim : ActiveTaskClaim) (record : JournalRecord) : Bool :=
  if record.position ≤ applicationPosition then false
  else replacementResourceConflict record.event plannedAttempt expectedClaim

/-- Nothing mutated the resources of the attempt behind the applied choice. -/
def replacementPreservesPriorResources (prior : JournalHistorySource)
    (plannedAttempt : PlannedTaskAttempt) (witness : PlannedAttemptReplacementWitness)
    (applicationPosition : JournalPosition) : Bool :=
  let conflicts := conflictsBehind applicationPosition plannedAttempt witness.expectedClaim
  match prior with
  | .raw records => !(journalRecordsForTask plannedAttempt.taskId (.raw records)).any conflicts
  | .indexed evidence =>
      let latestMutations :=
        [lastJournalRecordForTaskKind plannedAttempt.taskId .taskClaimReacquisitionDirected
            (.indexed evidence),
          lastJournalRecordForTaskKind plannedAttempt.taskId .taskClaimAcquisitionIntended
            (.indexed evidence),
          lastJournalRecordForAttemptKind plannedAttempt.attemptId
            .taskWorktreeReconciliationIntended (.indexed evidence)]
      if latestMutations.any fun record => record.any conflicts then false
      else
        !(journalRecordsForOperationId witness.expectedClaim.operationId (.indexed evidence)).any
          conflicts

def validateTaskClaimReacquisitionDirection (record : JournalRecord) (runId : RunId) : List String :=
  match record.event with
  | .taskClaimReacquisitionDirected event =>
      if event.runId = runId then []
      else [s!"task-claim reacquisition request {event.requestId} binds run {event.runId.value}"]
  | _ => []

def reacquisitionDirectionIssues (runId : RunId) (records : List JournalRecord) : List String :=
  records.flatMap fun record => validateTaskClaimReacquisitionDirection record runId

def JournalRecord.reconciliation? (record : JournalRecord) : Option PlannedAttemptOperation :=
  match record.event with
  | .taskWorktreeReconciliationIntended operation => some operation
  | _ => none

/-- The reconciliation is the last one under its attempt id, or it carries the claim's operation. -/
def ToldByIndex (records : List JournalRecord) (expectedClaim : ActiveTaskClaim)
    (record : JournalRecord) (operation : PlannedAttemptOperation) : Prop :=
  operation.operationId = expectedClaim.operationId ∨
    ∀ later ∈ records, ∀ reconciled, later.reconciliation? = some reconciled →
      reconciled.plannedAttempt.attemptId = operation.plannedAttempt.attemptId →
        later.position ≤ record.position

/-- Where a reconciliation of the plan stands behind the position, a mutation does that is no
reconciliation, or that the index tells. -/
def ReconciliationsTold (records : List JournalRecord) (plannedAttempt : PlannedTaskAttempt)
    (expectedClaim : ActiveTaskClaim) (applicationPosition : JournalPosition) : Prop :=
  ∀ record ∈ records, ∀ operation, record.reconciliation? = some operation →
    conflictsBehind applicationPosition plannedAttempt expectedClaim record = true →
      ∃ other ∈ records,
        conflictsBehind applicationPosition plannedAttempt expectedClaim other = true ∧
          ∀ reconciled, other.reconciliation? = some reconciled →
            ToldByIndex records expectedClaim other reconciled

section

variable {runId : RunId} {records : List JournalRecord} {record : JournalRecord}
  {evidence : JournalRecordEvidence} {plannedAttempt : PlannedTaskAttempt}
  {expectedClaim : ActiveTaskClaim} {applicationPosition : JournalPosition}
  {operation : PlannedAttemptOperation} {taskId : TaskId}

theorem position_of_conflictsBehind
    (conflicts : conflictsBehind applicationPosition plannedAttempt expectedClaim record = true) :
    applicationPosition < record.position ∧
      replacementResourceConflict record.event plannedAttempt expectedClaim = true := by
  unfold conflictsBehind at conflicts
  split at conflicts
  · cases conflicts
  · next behind => exact ⟨Nat.lt_of_not_le behind, conflicts⟩

theorem conflictsBehind_of_conflict (behind : applicationPosition < record.position)
    (conflict : replacementResourceConflict record.event plannedAttempt expectedClaim = true) :
    conflictsBehind applicationPosition plannedAttempt expectedClaim record = true := by
  rw [conflictsBehind, if_neg (Nat.not_le_of_lt behind)]
  exact conflict

theorem mem_taskIdsOf_of_reacquisition {directed : TaskClaimReacquisitionDirected}
    (event : record.event = .taskClaimReacquisitionDirected directed) :
    taskId ∈ taskIdsOf record none ↔ taskId = directed.taskId := by
  simp [taskIdsOf, namedTaskIds, graphObservationTaskIds, event, WorkflowJournalEvent.tag,
    replacementKinds, baselineKinds, WorkflowJournalEvent.object, field, List.lookup, taskId?, text]
  exact eq_comm

theorem mem_taskIdsOf_of_acquisition {acquire : AcquireTaskClaimOperation}
    (event : record.event = .taskClaimAcquisitionIntended acquire) :
    taskId ∈ taskIdsOf record none ↔ taskId = acquire.acquisition.taskId := by
  simp [taskIdsOf, namedTaskIds, graphObservationTaskIds, event, WorkflowJournalEvent.tag,
    replacementKinds, baselineKinds, WorkflowJournalEvent.object, operationObject,
    WorkflowOperation.object, TaskClaimAcquisition.claim, ActiveTaskClaim.object, field,
    List.lookup, taskId?, text]
  exact eq_comm

theorem concerns_of_release {claim : ActiveTaskClaim}
    (event : (∃ operation, record.event = .taskClaimReleaseIntended operation ∧
      operation.release.claim = claim) ∨
      ∃ release, record.event = .taskClaimReleased release ∧ release.claim = claim) :
    claim.taskId ∈ taskIdsOf record none ∧ claim.operationId ∈ operationIdsOf record := by
  obtain ⟨operation, event, rfl⟩ | ⟨release, event, rfl⟩ := event
  all_goals
    refine ⟨?_, ?_⟩
    · simp [taskIdsOf, namedTaskIds, graphObservationTaskIds, event, WorkflowJournalEvent.tag,
        replacementKinds, baselineKinds, WorkflowJournalEvent.object, operationObject,
        WorkflowOperation.object, TaskClaimRelease.object, ActiveTaskClaim.object, field,
        List.lookup, taskId?, text]
    · simp [operationIdsOf, event, WorkflowJournalEvent.tag, operationOf, workflowOperationId,
        completionAttemptKinds, WorkflowJournalEvent.object, operationObject,
        WorkflowOperation.object, TaskClaimRelease.object, ActiveTaskClaim.object, field,
        List.lookup, operationId?, text]

theorem concerns_of_reconciliation (reconciles : record.reconciliation? = some operation) :
    operation.plannedAttempt.taskId ∈ taskIdsOf record none ∧
      (∀ attemptId, attemptId ∈ attemptIdsOf record ↔
        attemptId = operation.plannedAttempt.attemptId) ∧
      ∀ operationId, operationId ∈ operationIdsOf record ↔ operationId = operation.operationId := by
  have event : record.event = .taskWorktreeReconciliationIntended operation := by
    unfold JournalRecord.reconciliation? at reconciles
    split at reconciles
    · next event => rw [event, Option.some.inj reconciles]
    · cases reconciles
  refine ⟨?_, fun attemptId => ?_, fun operationId => ?_⟩
  · simp [taskIdsOf, namedTaskIds, graphObservationTaskIds, event, WorkflowJournalEvent.tag,
      replacementKinds, baselineKinds, WorkflowJournalEvent.object, operationObject,
      WorkflowOperation.object, PlannedAttemptOperation.object, PlannedTaskAttempt.object, field,
      List.lookup, taskId?, text]
  · simp [attemptIdsOf, event, WorkflowJournalEvent.tag, replacementKinds, baselineKinds,
      descriptorAttemptIds, WorkflowJournalEvent.object, operationObject, WorkflowOperation.object,
      PlannedAttemptOperation.object, field, List.lookup, attemptId?, text]
  · simp [operationIdsOf, event, WorkflowJournalEvent.tag, operationOf, workflowOperationId,
      completionAttemptKinds, WorkflowJournalEvent.object, operationObject,
      WorkflowOperation.object, PlannedAttemptOperation.object, field, List.lookup, operationId?,
      text]
    exact eq_comm

theorem concernsTask_of_conflict (belongs : expectedClaim.taskId = plannedAttempt.taskId)
    (conflict : replacementResourceConflict record.event plannedAttempt expectedClaim = true) :
    rawRecordConcernsTask records record plannedAttempt.taskId = true := by
  suffices named : plannedAttempt.taskId ∈ taskIdsOf record none by
    rw [rawRecordConcernsTask, if_pos named]
  unfold replacementResourceConflict at conflict
  split at conflict
  · next directed event =>
      have same := ((Bool.and_eq_true _ _).mp conflict).2
      exact (mem_taskIdsOf_of_reacquisition event).mpr (of_decide_eq_true same).symm
  · next acquire event =>
      exact (mem_taskIdsOf_of_acquisition event).mpr (of_decide_eq_true conflict).symm
  · next operation event =>
      have exact : operation.release.claim = expectedClaim := of_decide_eq_true conflict
      rw [← belongs]
      exact (concerns_of_release (.inl ⟨operation, event, exact⟩)).1
  · next release event =>
      have exact : release.claim = expectedClaim := of_decide_eq_true conflict
      rw [← belongs]
      exact (concerns_of_release (.inr ⟨release, event, exact⟩)).1
  · next operation event =>
      have exact : operation.plannedAttempt = plannedAttempt := of_decide_eq_true conflict
      rw [← exact]
      exact (concerns_of_reconciliation (by rw [JournalRecord.reconciliation?, event])).1
  · cases conflict

theorem preservesPriorResources_raw_eq_false_iff {witness : PlannedAttemptReplacementWitness}
    (belongs : witness.expectedClaim.taskId = plannedAttempt.taskId) :
    replacementPreservesPriorResources (.raw records) plannedAttempt witness applicationPosition =
        false ↔
      ∃ record ∈ records,
        conflictsBehind applicationPosition plannedAttempt witness.expectedClaim record = true := by
  unfold replacementPreservesPriorResources
  rw [Bool.not_eq_false', List.any_eq_true]
  constructor
  · rintro ⟨record, listed, conflicts⟩
    exact ⟨record, List.mem_of_mem_filter listed, conflicts⟩
  · rintro ⟨record, member, conflicts⟩
    refine ⟨record, List.mem_filter.mpr ⟨member, ?_⟩, conflicts⟩
    exact concernsTask_of_conflict belongs (position_of_conflictsBehind conflicts).2

def ofTaskKind (taskId : TaskId) (kind : WorkflowJournalEventTag) (record : JournalRecord) : Bool :=
  decide (record.event.tag = kind) && decide (taskId ∈ taskIdsOf record none)

def ofAttemptKind (attemptId : AttemptId) (kind : WorkflowJournalEventTag) (record : JournalRecord) :
    Bool :=
  decide (record.event.tag = kind) && decide (attemptId ∈ attemptIdsOf record)

variable {kind : WorkflowJournalEventTag}

theorem ofTaskKind_iff :
    ofTaskKind taskId kind record = true ↔
      record.event.tag = kind ∧ taskId ∈ taskIdsOf record none := by
  simp [ofTaskKind]

theorem ofAttemptKind_iff {attemptId : AttemptId} :
    ofAttemptKind attemptId kind record = true ↔
      record.event.tag = kind ∧ attemptId ∈ attemptIdsOf record := by
  simp [ofAttemptKind]

theorem runId_of_reacquisitionDirection {directed : TaskClaimReacquisitionDirected}
    (bound : reacquisitionDirectionIssues runId records = []) (member : record ∈ records)
    (event : record.event = .taskClaimReacquisitionDirected directed) : directed.runId = runId := by
  have regular := List.flatMap_eq_nil_iff.mp bound record member
  rw [validateTaskClaimReacquisitionDirection, event] at regular
  by_contra foreign
  simp [foreign] at regular

theorem reacquisition_of_tag (same : record.event.tag = .taskClaimReacquisitionDirected) :
    ∃ directed, record.event = .taskClaimReacquisitionDirected directed := by
  cases event : record.event <;> simp_all [WorkflowJournalEvent.tag]

theorem acquisition_of_tag (same : record.event.tag = .taskClaimAcquisitionIntended) :
    ∃ acquire, record.event = .taskClaimAcquisitionIntended acquire := by
  cases event : record.event <;> simp_all [WorkflowJournalEvent.tag]

theorem reconciliation_of_tag (same : record.event.tag = .taskWorktreeReconciliationIntended) :
    ∃ operation, record.reconciliation? = some operation := by
  unfold JournalRecord.reconciliation?
  cases event : record.event <;> simp_all [WorkflowJournalEvent.tag]

theorem tag_of_reconciliation? (reconciles : record.reconciliation? = some operation) :
    record.event.tag = .taskWorktreeReconciliationIntended := by
  unfold JournalRecord.reconciliation? at reconciles
  split at reconciles
  · next event => rw [event]; rfl
  · cases reconciles

theorem reconciliation?_eq_none (same : record.event.tag = kind)
    (other : kind ≠ .taskWorktreeReconciliationIntended) : record.reconciliation? = none := by
  unfold JournalRecord.reconciliation?
  split
  · next event => exact absurd (by rw [← same, event]; rfl) other
  · rfl

/-- Indexed evidence reports exactly a mutation that is no reconciliation, or that it tells. -/
theorem preservesPriorResources_indexed_eq_false_iff {witness : PlannedAttemptReplacementWitness}
    (increasing : InOrder records)
    (presents : Presents (.indexed evidence) records)
    (bound : reacquisitionDirectionIssues runId records = []) :
    replacementPreservesPriorResources (.indexed evidence) plannedAttempt witness
        applicationPosition = false ↔
      ∃ record ∈ records,
        conflictsBehind applicationPosition plannedAttempt witness.expectedClaim record = true ∧
          ∀ operation, record.reconciliation? = some operation →
            ToldByIndex records witness.expectedClaim record operation := by
  have answer : replacementPreservesPriorResources (.indexed evidence) plannedAttempt witness
        applicationPosition = false ↔
      (∃ record, findLast records
          (ofTaskKind plannedAttempt.taskId .taskClaimReacquisitionDirected) = some record ∧
          conflictsBehind applicationPosition plannedAttempt witness.expectedClaim record = true) ∨
      (∃ record, findLast records
          (ofTaskKind plannedAttempt.taskId .taskClaimAcquisitionIntended) = some record ∧
          conflictsBehind applicationPosition plannedAttempt witness.expectedClaim record = true) ∨
      (∃ record, findLast records
          (ofAttemptKind plannedAttempt.attemptId .taskWorktreeReconciliationIntended) =
            some record ∧
          conflictsBehind applicationPosition plannedAttempt witness.expectedClaim record = true) ∨
      ∃ record ∈ records, witness.expectedClaim.operationId ∈ operationIdsOf record ∧
        conflictsBehind applicationPosition plannedAttempt witness.expectedClaim record = true := by
    unfold replacementPreservesPriorResources
    dsimp only
    rw [presents.lastRecordForTaskKind _ (by decide), presents.lastRecordForTaskKind _ (by decide),
      presents.lastRecordForAttemptKind _ (by decide), presents.recordsForOperationId]
    split
    · next hit =>
        simp only [List.any_cons, List.any_nil, Bool.or_false, Bool.or_eq_true,
          Option.any_eq_true] at hit
        refine iff_of_true rfl ?_
        obtain found | found | found := hit
        · exact .inl found
        · exact .inr (.inl found)
        · exact .inr (.inr (.inl found))
    · next missed =>
        simp only [List.any_cons, List.any_nil, Bool.or_false, Bool.or_eq_true,
          Option.any_eq_true, not_or] at missed
        rw [Bool.not_eq_false', List.any_eq_true]
        simp only [List.mem_filter, decide_eq_true_iff, and_assoc]
        refine ⟨fun found => .inr (.inr (.inr found)), ?_⟩
        rintro (found | found | found | found)
        · exact absurd found missed.1
        · exact absurd found missed.2.1
        · exact absurd found missed.2.2
        · exact found
  rw [answer]
  constructor
  · rintro (⟨record, found, conflicts⟩ | ⟨record, found, conflicts⟩ | ⟨record, found, conflicts⟩ |
      ⟨record, member, concerned, conflicts⟩)
    iterate 2
      obtain ⟨member, selected⟩ := mem_of_findLast found
      refine ⟨record, member, conflicts, fun operation reconciles => ?_⟩
      rw [reconciliation?_eq_none (ofTaskKind_iff.mp selected).1 (by decide)] at reconciles
      cases reconciles
    · obtain ⟨member, selected⟩ := mem_of_findLast found
      refine ⟨record, member, conflicts, fun operation reconciles => .inr ?_⟩
      have own := ((concerns_of_reconciliation reconciles).2.1 _).mp (ofAttemptKind_iff.mp selected).2
      intro later listed reconciled again same
      have concerned : plannedAttempt.attemptId ∈ attemptIdsOf later :=
        ((concerns_of_reconciliation again).2.1 _).mpr (own.trans same.symm)
      obtain ⟨last, _, ends, _, before⟩ := exists_findLast _ increasing listed
        (ofAttemptKind_iff.mpr ⟨tag_of_reconciliation? again, concerned⟩)
      rw [found] at ends
      cases ends
      exact before
    · refine ⟨record, member, conflicts, fun operation reconciles => .inl ?_⟩
      exact (((concerns_of_reconciliation reconciles).2.2 _).mp concerned).symm
  · rintro ⟨record, member, conflicts, told⟩
    obtain ⟨behind, conflict⟩ := position_of_conflictsBehind conflicts
    unfold replacementResourceConflict at conflict
    split at conflict
    · next directed event =>
        -- the directions of an accepted history name one Run, so the last one conflicts as well
        obtain ⟨run, task⟩ := (Bool.and_eq_true _ _).mp conflict
        have concerned := (mem_taskIdsOf_of_reacquisition event).mpr (of_decide_eq_true task).symm
        obtain ⟨last, listed, found, selected, before⟩ := exists_findLast _ increasing member
          (ofTaskKind_iff.mpr ⟨by rw [event], concerned⟩)
        obtain ⟨kind, concerned'⟩ := ofTaskKind_iff.mp selected
        obtain ⟨directed', event'⟩ := reacquisition_of_tag kind
        refine .inl ⟨last, found, conflictsBehind_of_conflict (Nat.lt_of_lt_of_le behind before) ?_⟩
        have same := (mem_taskIdsOf_of_reacquisition event').mp concerned'
        rw [event', replacementResourceConflict, runId_of_reacquisitionDirection bound listed event',
          ← runId_of_reacquisitionDirection bound member event, run, same]
        simp
    · next acquire event =>
        have concerned :=
          (mem_taskIdsOf_of_acquisition event).mpr (of_decide_eq_true conflict).symm
        obtain ⟨last, listed, found, selected, before⟩ := exists_findLast _ increasing member
          (ofTaskKind_iff.mpr ⟨by rw [event], concerned⟩)
        obtain ⟨kind, concerned'⟩ := ofTaskKind_iff.mp selected
        obtain ⟨acquire', event'⟩ := acquisition_of_tag kind
        refine .inr (.inl
          ⟨last, found, conflictsBehind_of_conflict (Nat.lt_of_lt_of_le behind before) ?_⟩)
        rw [event', replacementResourceConflict,
          (mem_taskIdsOf_of_acquisition event').mp concerned']
        simp
    · next operation event =>
        have exact : operation.release.claim = witness.expectedClaim := of_decide_eq_true conflict
        refine .inr (.inr (.inr ⟨record, member, ?_, conflicts⟩))
        rw [← exact]
        exact (concerns_of_release (.inl ⟨operation, event, rfl⟩)).2
    · next release event =>
        have exact : release.claim = witness.expectedClaim := of_decide_eq_true conflict
        refine .inr (.inr (.inr ⟨record, member, ?_, conflicts⟩))
        rw [← exact]
        exact (concerns_of_release (.inr ⟨release, event, rfl⟩)).2
    · next operation event =>
        have reconciles : record.reconciliation? = some operation := by
          rw [JournalRecord.reconciliation?, event]
        have exact : operation.plannedAttempt = plannedAttempt := of_decide_eq_true conflict
        obtain ⟨_, attempts, operations⟩ := concerns_of_reconciliation reconciles
        obtain named | greatest := told operation reconciles
        · exact .inr (.inr (.inr ⟨record, member, (operations _).mpr named.symm, conflicts⟩))
        · have concerned := (attempts plannedAttempt.attemptId).mpr (by rw [exact])
          obtain ⟨last, listed, found, selected, before⟩ := exists_findLast _ increasing member
            (ofAttemptKind_iff.mpr ⟨tag_of_reconciliation? reconciles, concerned⟩)
          obtain ⟨kind, concerned'⟩ := ofAttemptKind_iff.mp selected
          obtain ⟨reconciled, again⟩ := reconciliation_of_tag kind
          have same := ((concerns_of_reconciliation again).2.1 _).mp concerned'
          have after := greatest last listed reconciled again (by rw [exact, ← same])
          obtain rfl := increasing.eq_of_position listed member (Nat.le_antisymm after before)
          exact .inr (.inr (.inl ⟨_, found, conflicts⟩))
    · cases conflict

/-- In an accepted history, indexed evidence and a plain list agree about the resources of a decoded
replacement exactly where every reconciliation of the replaced plan behind the applied choice is
told. -/
theorem preservesPriorResources_agree_iff {event : PlannedAttemptReplaced}
    (accepted : AcceptedHistory runId records)
    (bound : reacquisitionDirectionIssues runId records = [])
    (decoded : invalidReplacement event = none)
    (presents : Presents (.indexed evidence) records) (applicationPosition : JournalPosition) :
    replacementPreservesPriorResources (.indexed evidence) event.subject.plannedAttempt event.witness
        applicationPosition =
      replacementPreservesPriorResources (.raw records) event.subject.plannedAttempt event.witness
        applicationPosition ↔
      ReconciliationsTold records event.subject.plannedAttempt event.witness.expectedClaim
        applicationPosition := by
  have belongs : event.witness.expectedClaim.taskId = event.subject.plannedAttempt.taskId := by
    have listed : (replacementValidationRules event)[5]? =
        some (decide (event.witness.expectedClaim.taskId = event.subject.plannedAttempt.taskId),
          "replacement witness claim must belong to the exact task") := rfl
    exact of_decide_eq_true (rule_of_none decoded (List.mem_of_getElem? listed))
  have raw := @preservesPriorResources_raw_eq_false_iff records event.subject.plannedAttempt
    applicationPosition event.witness belongs
  have indexed := @preservesPriorResources_indexed_eq_false_iff runId records evidence
    event.subject.plannedAttempt applicationPosition event.witness
    accepted.canonical.chronological.increasing presents bound
  constructor
  · intro same record member operation reconciles conflicts
    exact indexed.mp (same.trans (raw.mpr ⟨record, member, conflicts⟩))
  · intro told
    refine Bool.eq_iff_iff.mpr ?_
    rw [← not_iff_not, Bool.not_eq_true, Bool.not_eq_true, raw, indexed]
    constructor
    · rintro ⟨record, member, conflicts, _⟩
      exact ⟨record, member, conflicts⟩
    · rintro ⟨record, member, conflicts⟩
      cases reconciles : record.reconciliation? with
      | none =>
          refine ⟨record, member, conflicts, fun operation impossible => ?_⟩
          rw [reconciles] at impossible
          cases impossible
      | some operation => exact told record member operation reconciles conflicts

end

namespace ReconciledRestart

open EstablishedRun

def revised : TaskRevision := ⟨"revised"⟩

def restartSubject : AttemptChoiceSubject := ⟨revised, attempt⟩

def moved : PlannedTaskAttempt :=
  { attempt with branch := "refs/heads/dalph/moved", worktree := "/worktrees/moved" }

def reconciledEvents : List WorkflowJournalEvent :=
  suspendedEvents ++
    [.taskTrackerReadIntentRecorded
        (.readTaskWorkSpecification (specificationRead ⟨"revised"⟩ graphRead.operationId)),
      specification ⟨"revised"⟩ revised,
      .attemptChoiceApplied ⟨.restartTaskImplementation, ⟨"restart", runId⟩, restartSubject⟩,
      .taskWorktreeReconciliationIntended ⟨⟨"worktree-again"⟩, attempt, [⟨"plan"⟩]⟩]

def reconciled : List JournalRecord := recordsFrom reconciledEvents

def relocated : List JournalRecord :=
  recordsFrom (reconciledEvents ++
    [.taskWorktreeReconciliationIntended ⟨⟨"worktree-moved"⟩, moved, [⟨"plan"⟩]⟩])

def successor : PlannedTaskAttempt where
  attemptId := ⟨"successor"⟩
  baseSha := ⟨"head"⟩
  branch := "refs/heads/dalph/successor"
  executor := attempt.executor
  runId := runId
  taskId := task
  taskRevision := revised
  worktree := "/worktrees/successor"

def replacement : PlannedAttemptReplaced where
  requestId := ⟨"restart", runId⟩
  subject := restartSubject
  successorPlan :=
    ⟨⟨"successor-plan"⟩, successor, [claim.operationId, ⟨"claim-read"⟩, ⟨"graph-read"⟩,
      ⟨"worktree-read"⟩, ⟨"specification-read"⟩, ⟨"lineage-read"⟩]⟩
  witness :=
    { claimObservationOperationId := ⟨"claim-read"⟩
      expectedClaim := claim
      graphObservationOperationId := ⟨"graph-read"⟩
      oldWorktreeObservationOperationId := ⟨"worktree-read"⟩
      oldWorktreeProof := ⟨attempt.baseSha, attempt.branch, attempt.baseSha, attempt.worktree⟩
      reportOrdinal := 2
      specificationObservationOperationId := ⟨"specification-read"⟩
      targetHeadSha := ⟨"head"⟩
      targetLineageObservationOperationId := ⟨"lineage-read"⟩ }

end ReconciledRestart

open ReconciledRestart in
/-- The only reconciliation behind the choice is the last one, and both answers report it. -/
theorem preservesPriorResources_reconciled :
    replacementPreservesPriorResources (.indexed (journalEvidenceFrom reconciled))
        replacement.subject.plannedAttempt replacement.witness 20 =
      replacementPreservesPriorResources (.raw reconciled) replacement.subject.plannedAttempt
        replacement.witness 20 := by
  have accepted : AcceptedHistory EstablishedRun.runId reconciled := .inr (by decide +kernel)
  refine (preservesPriorResources_agree_iff accepted (by decide +kernel)
    (show invalidReplacement replacement = none by decide +kernel)
    (presents_journalEvidenceFrom accepted.canonical.chronological) 20).mpr ?_
  intro record member operation _ conflicts
  have behind := (position_of_conflictsBehind conflicts).1
  refine ⟨record, member, conflicts, fun _ _ => .inr fun later listed _ _ _ => ?_⟩
  have last : ∀ later ∈ reconciled, later.position ≤ 21 := by decide +kernel
  exact Nat.le_trans (last later listed) behind

open ReconciledRestart in
/-- The plain list reports the reconciliation of the replaced plan, the index asks only for the last
one, which names another plan. -/
theorem preservesPriorResources_relocated :
    AcceptedHistory EstablishedRun.runId relocated ∧
      reacquisitionDirectionIssues EstablishedRun.runId relocated = [] ∧
      invalidReplacement replacement = none ∧
      (∃ record ∈ relocated, record.position = 20 ∧ choiceOf? record.event =
        some ⟨.restartTaskImplementation, replacement.requestId, replacement.subject⟩) ∧
      replacementPreservesPriorResources (.indexed (journalEvidenceFrom relocated))
        replacement.subject.plannedAttempt replacement.witness 20 = true ∧
      replacementPreservesPriorResources (.raw relocated) replacement.subject.plannedAttempt
        replacement.witness 20 = false :=
  ⟨.inr (by decide +kernel), by decide +kernel, by decide +kernel, by decide +kernel,
    by decide +kernel, by decide +kernel⟩

end Dalph
