import Dalph.Workflow.ExecutorEvidence
import Dalph.WorkflowJournal.PresentedHistory

/-!
# Presented evidence

Current evidence about an executor comes from a presented record.  Records that say nothing about
the work of a plan leave its current evidence as it is.
-/

namespace Dalph

def reportingKinds : List WorkflowJournalEventTag :=
  .plannedAttemptExecutorWorkReported :: observedKinds

def concernsAttempt (attemptId : AttemptId) (record : JournalRecord) : Bool :=
  record.event.executorCorrelation?.any fun correlation => correlation.attemptId = attemptId

/-- The record tells nothing about the work of a plan. -/
structure SilentAbout (plannedAttempt : PlannedTaskAttempt) (record : JournalRecord) : Prop where
  unreported : evidenceFromRecord record plannedAttempt = none
  unprojected : ∀ projected, projectedAttempt? record.event = some projected →
    projected.attemptId ≠ plannedAttempt.attemptId
  unlisted : ∀ kind ∈ reportingKinds, record.event.tag = kind →
    ¬ plannedAttempt.attemptId ∈ attemptIdsOf record

section

variable {record : JournalRecord} {plannedAttempt : PlannedTaskAttempt}

theorem mem_attemptIdsOf_of_executor {attemptId : AttemptId}
    {correlation : PlannedAttemptExecutorCorrelation}
    (executor : record.event.executorCorrelation? = some correlation) :
    attemptId ∈ attemptIdsOf record ↔ attemptId = correlation.attemptId := by
  obtain ⟨event, _, _, _⟩ := record
  cases event <;> simp only [WorkflowJournalEvent.executorCorrelation?, reduceCtorEq] at executor
  all_goals
    cases executor
    simp [attemptIdsOf, descriptorAttemptIds, WorkflowJournalEvent.object, WorkflowJournalEvent.tag,
      plannedAttemptExecutorCorrelation, replacementKinds, baselineKinds, field, List.lookup,
      attemptId?, text, commandObject, plannedAttemptObject, PlannedTaskAttempt.object, KeySet.add?]

theorem concernsAttempt_iff {attemptId : AttemptId} : concernsAttempt attemptId record = true ↔
    ∃ correlation, record.event.executorCorrelation? = some correlation ∧
      correlation.attemptId = attemptId := by
  rw [concernsAttempt, Option.any_eq_true]
  simp

theorem executor_of_reporting (reporting : record.event.tag ∈ reportingKinds) :
    ∃ correlation, record.event.executorCorrelation? = some correlation := by
  obtain ⟨event, _, _, _⟩ := record
  cases event <;>
    simp only [WorkflowJournalEvent.tag, reportingKinds, observedKinds, List.mem_cons,
      List.not_mem_nil, reduceCtorEq, or_false] at reporting
  all_goals exact ⟨_, rfl⟩

theorem mem_attemptIdsOf_of_reporting {kind : WorkflowJournalEventTag} {attemptId : AttemptId}
    (reporting : kind ∈ reportingKinds) (same : record.event.tag = kind) :
    attemptId ∈ attemptIdsOf record ↔ concernsAttempt attemptId record = true := by
  obtain ⟨correlation, executor⟩ := executor_of_reporting (by rw [same]; exact reporting)
  rw [mem_attemptIdsOf_of_executor executor, concernsAttempt_iff, executor]
  simp [eq_comm]

theorem observedAt_of_evidence {evidence : PlannedAttemptExecutorEvidence}
    (found : evidenceFromRecord record plannedAttempt = some evidence) :
    evidence.observedAt = record.position := by
  obtain ⟨⟨report, origin⟩, _, found⟩ := Option.bind_eq_some_iff.mp found
  dsimp only at found
  split at found
  · rw [← Option.some.inj found]
  · cases found

theorem evidenceFromRecord_eq_none
    (other : ∀ report source, reportOf record.event = some (report, source) →
      report.correlation.attemptId ≠ plannedAttempt.attemptId) :
    evidenceFromRecord record plannedAttempt = none := by
  unfold evidenceFromRecord
  cases reported : reportOf record.event with
  | none => rfl
  | some found =>
      have differs := other found.1 found.2 reported
      simp [exactCorrelation, differs]

theorem silentAbout_of_other (unconcerned : concernsAttempt plannedAttempt.attemptId record = false)
    (own : ∀ report source, reportOf record.event = some (report, source) →
      concernsAttempt report.correlation.attemptId record = true) :
    SilentAbout plannedAttempt record where
  unreported := by
    refine evidenceFromRecord_eq_none fun report source reported same => ?_
    have concerned := own report source reported
    rw [same, unconcerned] at concerned
    cases concerned
  unprojected := by
    intro projected found same
    have concerned : concernsAttempt projected.attemptId record = true := by
      unfold projectedAttempt? at found
      split at found <;>
        simp_all [concernsAttempt, WorkflowJournalEvent.executorCorrelation?,
          plannedAttemptExecutorCorrelation]
    rw [same, unconcerned] at concerned
    cases concerned
  unlisted := by
    intro kind reporting same
    rw [mem_attemptIdsOf_of_reporting reporting same, unconcerned]
    exact Bool.false_ne_true

end

section

variable {earlier later : JournalHistorySource} {records rest : List JournalRecord}
  {plannedAttempt : PlannedTaskAttempt}

def SameKind : JournalHistorySource → JournalHistorySource → Prop
  | .raw _, .raw _ => True
  | .indexed _, .indexed _ => True
  | _, _ => False

theorem lastOfKindAfter_append (presents : Presents earlier records)
    (shown : Presents later (records ++ rest))
    (silent : ∀ record ∈ rest, SilentAbout plannedAttempt record) {kind : WorkflowJournalEventTag}
    (reporting : kind ∈ reportingKinds) :
    lastOfKindAfter later plannedAttempt kind none = lastOfKindAfter earlier plannedAttempt kind none := by
  have named : kind ≠ .plannedAttemptWorktreeObserved := by
    rintro rfl
    exact absurd reporting (by decide)
  rw [lastOfKindAfter, lastOfKindAfter, presents.lastRecordForAttemptKind _ named,
    shown.lastRecordForAttemptKind _ named, findLast_append_of_false]
  intro record member
  by_cases same : record.event.tag = kind
  · simp [(silent record member).unlisted kind reporting same]
  · simp [same]

theorem latestEvidence_append (presents : Presents earlier records)
    (shown : Presents later (records ++ rest)) (same : SameKind earlier later)
    (silent : ∀ record ∈ rest, SilentAbout plannedAttempt record) :
    latestPlannedAttemptExecutorEvidence later plannedAttempt none =
      latestPlannedAttemptExecutorEvidence earlier plannedAttempt none := by
  have last : ∀ kind ∈ reportingKinds, lastOfKindAfter later plannedAttempt kind none =
      lastOfKindAfter earlier plannedAttempt kind none :=
    fun kind reporting => lastOfKindAfter_append presents shown silent reporting
  cases presents with
  | raw =>
      cases shown with
      | raw =>
          have evidence : plannedAttemptExecutorEvidence (.raw (records ++ rest)) plannedAttempt none =
              plannedAttemptExecutorEvidence (.raw records) plannedAttempt none := by
            have none : rest.filterMap (fun record =>
                if (none : Option JournalPosition).any (fun after => record.position ≤ after) then none
                else evidenceFromRecord record plannedAttempt) = [] :=
              List.filterMap_eq_nil_iff.mpr fun record member => by
                simp [(silent record member).unreported]
            simp only [plannedAttemptExecutorEvidence, executorRecordsForAttempt, List.filterMap_append,
              none, List.append_nil]
          have issue : latestPlannedAttemptExecutorProjectionIssue (.raw (records ++ rest))
              plannedAttempt =
                latestPlannedAttemptExecutorProjectionIssue (.raw records) plannedAttempt := by
            unfold latestPlannedAttemptExecutorProjectionIssue executorRecordsForAttempt
            rw [findLast_append_of_false]
            intro record member
            cases projected : projectedAttempt? record.event with
            | none => simp
            | some found => simp [(silent record member).unprojected found projected]
          simp only [latestPlannedAttemptExecutorEvidence, deriveLatestExecutorEvidence, evidence, issue]
      | indexed => cases same
  | indexed =>
      cases shown with
      | raw => cases same
      | indexed =>
          simp only [latestPlannedAttemptExecutorEvidence, deriveLatestIndexedExecutorEvidence,
            indexedEvidenceCandidate, observedKinds, List.filterMap_cons, List.filterMap_nil,
            last .plannedAttemptExecutorWorkReported (by decide),
            last .plannedAttemptExecutorCommandResponseObserved (by decide),
            last .plannedAttemptExecutorCommandProjectionObserved (by decide),
            last .plannedAttemptExecutorStateObserved (by decide)]

variable {evidence : PlannedAttemptExecutorEvidence}

theorem preferredExactExecutorEvidence_cases
    {accepted observed : Option PlannedAttemptExecutorEvidence}
    (preferred : preferredExactExecutorEvidence accepted observed = some evidence) :
    accepted = some evidence ∨ observed = some evidence := by
  unfold preferredExactExecutorEvidence at preferred
  split at preferred
  · exact Or.inl preferred
  · exact Or.inr preferred
  · split at preferred
    · exact Or.inr preferred
    · exact Or.inl preferred

theorem unlessLaterIssue_eq_some {evidence latestExact : Option PlannedAttemptExecutorEvidence}
    {issue : Option JournalPosition} {current : PlannedAttemptExecutorEvidence}
    (stands : unlessLaterIssue evidence latestExact issue = some current) :
    evidence = some current := by
  obtain ⟨found, exact_, stands⟩ := Option.bind_eq_some_iff.mp stands
  obtain ⟨latest, _, stands⟩ := Option.bind_eq_some_iff.mp stands
  split at stands
  · rw [exact_, Option.some.inj stands]
  · cases stands

theorem mem_of_indexedEvidenceCandidate (presents : Presents earlier records)
    {kind : WorkflowJournalEventTag} (reporting : kind ∈ reportingKinds)
    (found : indexedEvidenceCandidate earlier plannedAttempt kind none = some evidence) :
    ∃ record ∈ records, evidenceFromRecord record plannedAttempt = some evidence := by
  have named : kind ≠ .plannedAttemptWorktreeObserved := by
    rintro rfl
    exact absurd reporting (by decide)
  obtain ⟨record, last, found⟩ := Option.bind_eq_some_iff.mp found
  rw [lastOfKindAfter, presents.lastRecordForAttemptKind _ named] at last
  exact ⟨record, List.mem_reverse.mp (List.mem_of_find?_eq_some (Option.mem_filter_iff.mp last).1), found⟩

theorem mem_of_latestEvidence (presents : Presents earlier records)
    (found : latestPlannedAttemptExecutorEvidence earlier plannedAttempt none = some evidence) :
    ∃ record ∈ records, evidenceFromRecord record plannedAttempt = some evidence := by
  have candidate : ∀ kind ∈ reportingKinds,
      indexedEvidenceCandidate earlier plannedAttempt kind none = some evidence →
        ∃ record ∈ records, evidenceFromRecord record plannedAttempt = some evidence :=
    fun kind reporting => mem_of_indexedEvidenceCandidate presents reporting
  cases presents with
  | raw =>
      have listed : evidence ∈ plannedAttemptExecutorEvidence (.raw records) plannedAttempt none := by
        rcases preferredExactExecutorEvidence_cases (unlessLaterIssue_eq_some found) with last | last
        · exact List.mem_reverse.mp (List.mem_of_find?_eq_some last)
        · exact List.mem_reverse.mp (List.mem_of_find?_eq_some last)
      obtain ⟨record, member, reported⟩ := List.mem_filterMap.mp listed
      exact ⟨record, member, by simpa using reported⟩
  | indexed =>
      rcases preferredExactExecutorEvidence_cases (unlessLaterIssue_eq_some found) with last | last
      · exact candidate .plannedAttemptExecutorWorkReported (by decide) last
      · have listed := List.mem_of_getLast? last
        rw [List.mem_mergeSort, List.mem_filterMap] at listed
        obtain ⟨kind, observed, last⟩ := listed
        exact candidate kind (List.mem_cons_of_mem _ observed) last

end

end Dalph
