import Dalph.WorkflowJournal.PresentedHistory

/-!
# The Run's target

A Run is about one tracker target, recorded by its beginning.  Choices and replacements rest on
focused observations of that target.
-/

namespace Dalph

def begunTarget? : WorkflowJournalEvent → Option TrackerTarget
  | .workflowRunBegan event => some event.target
  | _ => none

def JournalHistorySource.exactWorkflowRunTargetFor (source : JournalHistorySource) :
    Option TrackerTarget := do
  let first ← firstJournalRecordOfKind .workflowRunBegan source
  let last ← lastJournalRecordOfKind .workflowRunBegan source
  if first = last then begunTarget? first.event else none

def specificationOf (taskId : TaskId) (target : TrackerTarget) :
    WorkflowJournalEvent → Option FocusedTaskWorkSpecificationFactsObserved
  | .taskTrackerFactsObserved (.focusedTaskWorkSpecificationFacts facts) =>
      if facts.taskId = taskId && taskTrackerTargetKey facts.target = taskTrackerTargetKey target then
        some facts
      else none
  | _ => none

def observesSpecification (taskId : TaskId) (target : TrackerTarget) (record : JournalRecord) : Bool :=
  (specificationOf taskId target record.event).isSome

def taskObservationRecords (source : JournalHistorySource) (taskId : TaskId) : List JournalRecord :=
  match source with
  | .raw _ => journalRecordsForTask taskId source
  | .indexed _ => journalRecordsAfter none source

def latestSpecification (source : JournalHistorySource) (taskId : TaskId) (target : TrackerTarget) :
    Option FocusedTaskWorkSpecificationFactsObserved :=
  (findLast (taskObservationRecords source taskId) (observesSpecification taskId target)).bind
    fun record => specificationOf taskId target record.event

def specificationDivergedAfter (source : JournalHistorySource) (taskId : TaskId)
    (target : TrackerTarget) (expected : TaskRevision) (after : JournalPosition) : Bool :=
  (taskObservationRecords source taskId).any fun record =>
    record.position > after &&
      (specificationOf taskId target record.event).any fun facts => facts.fingerprint ≠ expected

theorem observesSpecification_iff {taskId : TaskId} {target : TrackerTarget}
    {record : JournalRecord} :
    observesSpecification taskId target record = true ↔
      ∃ facts, record.event = .taskTrackerFactsObserved (.focusedTaskWorkSpecificationFacts facts) ∧
        facts.taskId = taskId ∧ taskTrackerTargetKey facts.target = taskTrackerTargetKey target := by
  unfold observesSpecification specificationOf
  split <;> simp_all

theorem mem_taskIdsOf_of_specification {taskId : TaskId} {target : TrackerTarget}
    {record : JournalRecord} (observes : observesSpecification taskId target record = true) :
    taskId ∈ taskIdsOf record none := by
  obtain ⟨facts, event, rfl, _⟩ := observesSpecification_iff.mp observes
  simp [taskIdsOf, namedTaskIds, graphObservationTaskIds, event, WorkflowJournalEvent.tag,
    replacementKinds, baselineKinds]

namespace Presents

variable {source : JournalHistorySource} {records : List JournalRecord}

section

variable (presents : Presents source records)
include presents

theorem begins_of_target {target : TrackerTarget}
    (found : source.exactWorkflowRunTargetFor = some target) :
    ∃ began, records.find? (fun record => record.event.tag = .workflowRunBegan) = some began ∧
      begunTarget? began.event = some target := by
  unfold JournalHistorySource.exactWorkflowRunTargetFor at found
  rw [presents.firstRecordOfKind] at found
  obtain ⟨first, begins, found⟩ := Option.bind_eq_some_iff.mp found
  obtain ⟨last, _, found⟩ := Option.bind_eq_some_iff.mp found
  split at found
  · exact ⟨first, begins, found⟩
  · cases found

variable (taskId : TaskId) (target : TrackerTarget)

theorem specifications :
    (taskObservationRecords source taskId).filter (observesSpecification taskId target) =
      records.filter (observesSpecification taskId target) := by
  cases presents with
  | raw =>
      have named : ∀ record : JournalRecord, observesSpecification taskId target record = true →
          priorFullObservationOperationId? record = none := by
        intro record observes
        obtain ⟨facts, event, _⟩ := observesSpecification_iff.mp observes
        simp [priorFullObservationOperationId?, event]
      rw [taskObservationRecords, (Presents.raw records).recordsForTask_filter taskId named]
      refine List.filter_congr fun record _ => ?_
      by_cases observes : observesSpecification taskId target record = true
      · simp [observes, mem_taskIdsOf_of_specification observes]
      · simp [observes]
  | indexed chronological shows =>
      rw [taskObservationRecords, journalRecordsAfter, firstOffsetAfter, List.drop_zero, shows.toList]

theorem latestSpecification_eq :
    latestSpecification source taskId target =
      (findLast records (observesSpecification taskId target)).bind fun record =>
        specificationOf taskId target record.event := by
  rw [latestSpecification, findLast_eq_filter, presents.specifications, ← findLast_eq_filter]

theorem specificationDivergedAfter_iff (expected : TaskRevision) (after : JournalPosition) :
    specificationDivergedAfter source taskId target expected after = true ↔
      ∃ record ∈ records, after < record.position ∧
        ∃ facts, specificationOf taskId target record.event = some facts ∧
          facts.fingerprint ≠ expected := by
  have selected : ∀ record : JournalRecord, record ∈ taskObservationRecords source taskId ∧
      observesSpecification taskId target record = true ↔
      record ∈ records ∧ observesSpecification taskId target record = true := by
    intro record
    rw [← List.mem_filter, ← List.mem_filter, presents.specifications]
  simp only [specificationDivergedAfter, List.any_eq_true, Bool.and_eq_true, decide_eq_true_iff,
    Option.any_eq_true, decide_not, Bool.not_eq_true', decide_eq_false_iff_not]
  constructor
  · rintro ⟨record, listed, later, facts, found, differs⟩
    have observes : observesSpecification taskId target record = true := by
      simp [observesSpecification, found]
    exact ⟨record, ((selected record).mp ⟨listed, observes⟩).1, later, facts, found, differs⟩
  · rintro ⟨record, listed, later, facts, found, differs⟩
    have observes : observesSpecification taskId target record = true := by
      simp [observesSpecification, found]
    exact ⟨record, ((selected record).mpr ⟨listed, observes⟩).1, later, facts, found, differs⟩

end

end Presents

end Dalph
