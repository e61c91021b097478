import Dalph.Coordination.Reconstruction.HistoryIndexes
import Dalph.Workflow.PresentedEvidence

/-!
# Rules of choices

What the checks of an accepted choice say about the records before it, whichever replay they read.
-/

namespace Dalph

def subjectAttempt? : WorkflowJournalEvent → Option PlannedTaskAttempt
  | .attemptChoiceApplied event => some event.subject.plannedAttempt
  | .resultRecoveryDirected event => some event.subject.plannedAttempt
  | .plannedAttemptReplaced event => some event.subject.plannedAttempt
  | .resultRecoveryAttemptReplaced event => some event.subject.plannedAttempt
  | _ => none

section

variable {record : JournalRecord} {plannedAttempt : PlannedTaskAttempt}

theorem mem_attemptIdsOf_of_subject (about : subjectAttempt? record.event = some plannedAttempt) :
    plannedAttempt.attemptId ∈ attemptIdsOf record := by
  obtain ⟨event, _, _, _⟩ := record
  cases event <;>
    simp_all [subjectAttempt?, attemptIdsOf, descriptorAttemptIds, WorkflowJournalEvent.object,
      WorkflowJournalEvent.tag, replacementKinds, baselineKinds, field, List.lookup, attemptId?, text,
      AttemptChoiceSubject.object, ResultRecoverySubject.object, PlannedAttemptOperation.object,
      PlannedTaskAttempt.object, KeySet.add?]

theorem unanswered_of_subject (about : (subjectAttempt? record.event).isSome = true) :
    worktreeOutcomeOperationId? record = none := by
  obtain ⟨event, _, _, _⟩ := record
  cases event <;> simp_all [subjectAttempt?, worktreeOutcomeOperationId?]

theorem mem_attemptIdsOf_of_descriptor {attemptId : AttemptId}
    (named : attemptId ∈ descriptorAttemptIds record) : attemptId ∈ attemptIdsOf record := by
  unfold attemptIdsOf
  simp only [KeySet.mem_add?]
  split <;> split <;> simp [KeySet.mem_add?, named]

theorem attemptId_of_plannedTaskAttempt {value : Option Json}
    (decoded : plannedTaskAttempt? value = some plannedAttempt) :
    attemptId? (field value "attemptId") = some plannedAttempt.attemptId := by
  obtain ⟨runId, _, decoded⟩ := Option.bind_eq_some_iff.mp decoded
  split at decoded
  · obtain ⟨attemptId, named, decoded⟩ := Option.bind_eq_some_iff.mp decoded
    simp only [Option.bind_eq_bind, Option.bind_eq_some_iff, Option.some.injEq] at decoded
    obtain ⟨_, _, _, _, _, _, _, _, _, _, _, _, rfl⟩ := decoded
    exact named
  · cases decoded

theorem mem_attemptIdsOf_of_integration
    (starts : startsIntegrationOf plannedAttempt record.event = true) :
    record.event.tag = .protocol .integrationStarted ∧
      plannedAttempt.attemptId ∈ attemptIdsOf record := by
  obtain ⟨started, decoded, same⟩ := Option.any_eq_true _ _ |>.mp starts
  simp only [Bool.and_eq_true, decide_eq_true_iff] at same
  unfold integrationStarted? at decoded
  split at decoded
  · next event protocol =>
      split at decoded
      · next kind =>
          obtain ⟨facts, identified, decoded⟩ := Option.bind_eq_some_iff.mp decoded
          obtain ⟨position, _, decoded⟩ := Option.bind_eq_some_iff.mp decoded
          cases decoded
          obtain ⟨result, _, identified⟩ := Option.bind_eq_some_iff.mp identified
          obtain ⟨target, _, identified⟩ := Option.bind_eq_some_iff.mp identified
          obtain ⟨attempt, planned, identified⟩ := Option.bind_eq_some_iff.mp identified
          cases identified
          have named := attemptId_of_plannedTaskAttempt planned
          rw [← same.2]
          obtain ⟨_, _, _, _⟩ := event
          simp only at kind
          subst kind
          refine ⟨by simp [protocol, WorkflowJournalEvent.tag], mem_attemptIdsOf_of_descriptor ?_⟩
          simp [descriptorAttemptIds, protocol, named, KeySet.add?]
      · cases decoded
  · cases decoded

end

section

variable {source : JournalHistorySource} {records : List JournalRecord} {record : JournalRecord}
  {plannedAttempt : PlannedTaskAttempt}

theorem Presents.mem_recordsForAttempt (presents : Presents source records)
    (member : record ∈ records) (about : subjectAttempt? record.event = some plannedAttempt) :
    record ∈ journalRecordsForAttempt plannedAttempt.attemptId source := by
  have selected : (subjectAttempt? record.event).isSome = true := by rw [about]; rfl
  exact (presents.mem_recordsForAttempt_iff (unanswered_of_subject selected)
    (mem_attemptIdsOf_of_subject about)).mpr member

end

section

variable {source : JournalHistorySource} {records : List JournalRecord}
  {plannedAttempt : PlannedTaskAttempt}

def Planned (records : List JournalRecord) (plannedAttempt : PlannedTaskAttempt) : Prop :=
  ∃ record ∈ records, ∃ operation, recordedPlan? record = some operation ∧
    operation.plannedAttempt = plannedAttempt

theorem planned_of_recordedTaskAttemptPlanFor (presents : Presents source records)
    (found : (recordedTaskAttemptPlanFor source plannedAttempt).isSome = true) :
    Planned records plannedAttempt := by
  obtain ⟨operation, found⟩ := Option.isSome_iff_exists.mp found
  have listed := List.mem_of_find?_eq_some found
  have same := List.find?_some found
  simp only [plannedTaskAttemptEquivalence, Bool.and_eq_true, decide_eq_true_iff] at same
  cases presents with
  | raw =>
      obtain ⟨record, member, recorded⟩ := List.mem_filterMap.mp listed
      exact ⟨record, member, operation, recorded, same.2⟩
  | indexed chronological shows =>
      have presents := Presents.indexed chronological shows
      obtain ⟨record, member, recorded⟩ := List.mem_filterMap.mp listed
      rw [sortedByPosition, (List.perm_insertionSort _ _).mem_iff, List.mem_append,
        List.mem_append, presents.recordsForAttemptKind _ (by decide),
        presents.recordsForAttemptKind _ (by decide),
        presents.recordsForAttemptKind _ (by decide)] at member
      have shown : record ∈ records := by
        rcases member with (first | second) | third
        · exact List.mem_of_mem_filter first
        · exact List.mem_of_mem_filter second
        · exact List.mem_of_mem_filter third
      exact ⟨record, shown, operation, recorded, same.2⟩

theorem mem_attemptIdsOf_of_recordedPlan {record : JournalRecord} {plan : PlannedAttemptOperation}
    (recorded : recordedPlan? record = some plan) :
    plan.plannedAttempt.attemptId ∈ attemptIdsOf record := by
  obtain event | ⟨replaced, event, rfl⟩ | ⟨replaced, event, rfl⟩ := recordedPlan?_cases recorded <;>
    simp [attemptIdsOf, event, descriptorAttemptIds, WorkflowJournalEvent.object,
      WorkflowJournalEvent.tag, replacementKinds, baselineKinds, operationObject,
      WorkflowOperation.object, PlannedAttemptOperation.object, PlannedTaskAttempt.object, field,
      List.lookup, attemptId?, text, AttemptChoiceSubject.object, ResultRecoverySubject.object,
      KeySet.add?]

theorem recordedTaskAttemptPlanFor_isSome (presents : Presents source records) :
    (recordedTaskAttemptPlanFor source plannedAttempt).isSome = true ↔
      Planned records plannedAttempt := by
  refine ⟨planned_of_recordedTaskAttemptPlanFor presents, ?_⟩
  rintro ⟨record, member, operation, recorded, rfl⟩
  have listed : operation ∈ recordedPlansForAttempt source operation.plannedAttempt.attemptId := by
    cases presents with
    | raw => exact List.mem_filterMap.mpr ⟨record, member, recorded⟩
    | indexed chronological shows =>
        have presents := Presents.indexed chronological shows
        refine List.mem_filterMap.mpr ⟨record, ?_, recorded⟩
        have named := mem_attemptIdsOf_of_recordedPlan recorded
        rw [sortedByPosition, (List.perm_insertionSort _ _).mem_iff, List.mem_append,
          List.mem_append, presents.recordsForAttemptKind _ (by decide),
          presents.recordsForAttemptKind _ (by decide),
          presents.recordsForAttemptKind _ (by decide)]
        obtain event | ⟨_, event, _⟩ | ⟨_, event, _⟩ := recordedPlan?_cases recorded
        · refine Or.inl (Or.inl (List.mem_filter.mpr ⟨member, ?_⟩))
          simp [event, WorkflowJournalEvent.tag, named]
        · refine Or.inl (Or.inr (List.mem_filter.mpr ⟨member, ?_⟩))
          simp [event, WorkflowJournalEvent.tag, named]
        · refine Or.inr (List.mem_filter.mpr ⟨member, ?_⟩)
          simp [event, WorkflowJournalEvent.tag, named]
  rw [recordedTaskAttemptPlanFor, List.find?_isSome]
  exact ⟨operation, listed, by simp [plannedTaskAttemptEquivalence]⟩

end

variable {records : List JournalRecord}

theorem Tracks.plan_unique {indexes : FoldIndexes} (tracks : Tracks records indexes)
    {left right : PlannedTaskAttempt} (first : Planned records left)
    (second : Planned records right) (same : left.attemptId = right.attemptId) : left = right := by
  obtain ⟨record, member, operation, recorded, planned⟩ := first
  obtain ⟨record', member', operation', recorded', planned'⟩ := second
  have known := (tracks.plans left.attemptId left).mpr
    ⟨record, member, operation, recorded, planned, rfl⟩
  have known' := (tracks.plans left.attemptId right).mpr
    ⟨record', member', operation', recorded', planned', same.symm⟩
  rw [known, Option.some.injEq] at known'
  exact known'

def recordedTarget? (records : List JournalRecord) : Option TrackerTarget :=
  (records.find? fun record => record.event.tag = .workflowRunBegan).bind fun record =>
    begunTarget? record.event

def recordedSpecification? (records : List JournalRecord) (taskId : TaskId) (target : TrackerTarget) :
    Option FocusedTaskWorkSpecificationFactsObserved :=
  (findLast records (observesSpecification taskId target)).bind fun record =>
    specificationOf taskId target record.event

theorem recordedTarget_eq {source : JournalHistorySource} (presents : Presents source records)
    {target : TrackerTarget} (found : source.exactWorkflowRunTargetFor = some target) :
    recordedTarget? records = some target := by
  obtain ⟨began, first, begins⟩ := presents.begins_of_target found
  rw [recordedTarget?, first, Option.bind_some, begins]

theorem recordedTarget_append {target : TrackerTarget}
    (recorded : recordedTarget? records = some target) (rest : List JournalRecord) :
    recordedTarget? (records ++ rest) = some target := by
  obtain ⟨began, first, begins⟩ := Option.bind_eq_some_iff.mp recorded
  rw [recordedTarget?, List.find?_append, first, Option.some_or, Option.bind_some, begins]

/-- What the records before an admitted choice must and must not hold. -/
structure AdmittedChoice (before : List JournalRecord) (choice : AttemptChoiceApplied) : Prop where
  planned : Planned before choice.subject.plannedAttempt
  unreplaced : ∀ record ∈ before,
    restartedAttempt? record.event ≠ some choice.subject.plannedAttempt
  unintegrated : ∀ record ∈ before,
    startsIntegrationOf choice.subject.plannedAttempt record.event = false
  unstopped : ∀ record ∈ before, ∀ earlier, choiceOf? record.event = some earlier →
    earlier.choice = .stopTaskImplementation →
      earlier.subject.plannedAttempt ≠ choice.subject.plannedAttempt
  unrestarted : choice.choice = .continueExistingAttempt → ∀ record ∈ before, ∀ earlier,
    choiceOf? record.event = some earlier → earlier.choice = .restartTaskImplementation →
      earlier.subject.plannedAttempt ≠ choice.subject.plannedAttempt
  fresh : ∀ record ∈ before, ∀ earlier, choiceOf? record.event = some earlier →
    earlier.subject ≠ choice.subject
  current : ∃ target facts, recordedTarget? before = some target ∧
    recordedSpecification? before choice.subject.plannedAttempt.taskId target = some facts ∧
      facts.fingerprint = choice.subject.observedTaskRevision

section

variable {source : JournalHistorySource} {before : List JournalRecord}
  {plannedAttempt : PlannedTaskAttempt}

theorem choiceOf_eq_some {event : WorkflowJournalEvent} {choice : AttemptChoiceApplied}
    (chosen : choiceOf? event = some choice) : event = .attemptChoiceApplied choice := by
  unfold choiceOf? at chosen
  split at chosen
  · rw [Option.some.inj chosen]
  · cases chosen

theorem restartedAttempt_eq_some {event : WorkflowJournalEvent}
    (restarted : restartedAttempt? event = some plannedAttempt) :
    ∃ replaced, event = .plannedAttemptReplaced replaced ∧
      replaced.subject.plannedAttempt = plannedAttempt := by
  unfold restartedAttempt? at restarted
  split at restarted
  · next replaced => exact ⟨replaced, rfl, Option.some.inj restarted⟩
  · cases restarted

theorem not_chosen (presents : Presents source before) {choice : AttemptChoice}
    {directions : KeyedMap AttemptId PlannedTaskAttempt}
    (holds : ∀ attemptId, (directions.lookup attemptId).isSome = true ↔
      ∃ record ∈ before, ∃ applied, choiceOf? record.event = some applied ∧
        applied.choice = choice ∧ applied.subject.plannedAttempt.attemptId = attemptId)
    (unapplied : choiceWasApplied plannedAttempt choice directions source = false) :
    ∀ record ∈ before, ∀ earlier, choiceOf? record.event = some earlier →
      earlier.choice = choice → earlier.subject.plannedAttempt ≠ plannedAttempt := by
  intro record member earlier chosen same about
  have event := choiceOf_eq_some chosen
  cases presents with
  | raw =>
      have applies : appliesChoiceTo plannedAttempt choice record.event = true := by
        simp [event, appliesChoiceTo, same, about, plannedTaskAttemptEquivalence]
      have subject : subjectAttempt? record.event = some plannedAttempt := by
        rw [event, subjectAttempt?, about]
      have listed := (Presents.raw before).mem_recordsForAttempt member subject
      have found : choiceWasApplied plannedAttempt choice directions (.raw before) = true :=
        List.any_eq_true.mpr ⟨record, listed, applies⟩
      rw [found] at unapplied
      cases unapplied
  | indexed =>
      have known := (holds plannedAttempt.attemptId).mpr
        ⟨record, member, earlier, chosen, same, by rw [about]⟩
      rw [choiceWasApplied, known] at unapplied
      cases unapplied

theorem not_replaced (presents : Presents source before)
    (unreplaced : ((journalRecordsForAttemptKind plannedAttempt.attemptId .plannedAttemptReplaced
      source).any fun record => replacesAttempt plannedAttempt record.event) = false) :
    ∀ record ∈ before, restartedAttempt? record.event ≠ some plannedAttempt := by
  intro record member restarted
  obtain ⟨event, replaced, about⟩ := restartedAttempt_eq_some restarted
  have subject : subjectAttempt? record.event = some plannedAttempt := by
    rw [replaced, subjectAttempt?, about]
  rw [presents.recordsForAttemptKind _ (by decide), List.any_filter, List.any_eq_false] at unreplaced
  refine unreplaced record member ?_
  simp [mem_attemptIdsOf_of_subject subject, replaced, WorkflowJournalEvent.tag, replacesAttempt, about,
    plannedTaskAttemptEquivalence]

theorem not_integrated (presents : Presents source before)
    (unstarted : ((journalRecordsForAttemptKind plannedAttempt.attemptId
      (.protocol .integrationStarted) source).any fun record =>
        startsIntegrationOf plannedAttempt record.event) = false) :
    ∀ record ∈ before, startsIntegrationOf plannedAttempt record.event = false := by
  intro record member
  rw [presents.recordsForAttemptKind _ (by decide), List.any_filter, List.any_eq_false] at unstarted
  cases starts : startsIntegrationOf plannedAttempt record.event with
  | false => rfl
  | true =>
      have named := mem_attemptIdsOf_of_integration starts
      exact absurd (by simp [named.1, named.2, starts]) (unstarted record member)

end

theorem admittedChoice_of_validated {runId : RunId} {source : JournalHistorySource}
    {before : List JournalRecord} {record : JournalRecord} {choice : AttemptChoiceApplied}
    {indexes : FoldIndexes} (prior : Presents (priorRecords record.position source) before)
    (tracks : Tracks before indexes) (chosen : choiceOf? record.event = some choice)
    (accepted : (validateAttemptChoice record runId source indexes).issues = []) :
    AdmittedChoice before choice := by
  unfold validateAttemptChoice at accepted
  rw [choiceOf_eq_some chosen] at accepted
  generalize priorRecords record.position source = source at prior accepted
  simp only [validateAttemptChoiceAuthority, validateAttemptChoiceCutoffs,
    validatePriorTerminalAttemptChoice, List.append_eq_nil_iff, issueUnless_eq_nil,
    Bool.not_eq_true', decide_eq_false_iff_not, Bool.and_eq_false_iff] at accepted
  obtain ⟨⟨⟨⟨⟨⟨_, planned⟩, _⟩, latest⟩, unreplaced, unstarted⟩, unstopped, unrestarted⟩, unused⟩ :=
    accepted
  refine
    { planned := planned_of_recordedTaskAttemptPlanFor prior planned
      unreplaced := not_replaced prior unreplaced
      unintegrated := not_integrated prior unstarted
      unstopped := not_chosen prior tracks.stops unstopped
      unrestarted := fun continues => not_chosen prior tracks.restarts
        (unrestarted.resolve_left (not_not_intro continues))
      fresh := ?_
      current := ?_ }
  · intro other member earlier applied same
    exact unused ((tracks.subjects _).mpr ⟨other, member, earlier, applied, by rw [same]⟩)
  · obtain ⟨facts, found, fingerprint⟩ := Option.any_eq_true _ _ |>.mp latest
    obtain ⟨target, named, found⟩ := Option.bind_eq_some_iff.mp found
    rw [prior.latestSpecification_eq] at found
    exact ⟨target, facts, recordedTarget_eq prior named, found, by simpa using fingerprint⟩

theorem ReplayedBy.choice {replay : HistoryReplay} {runId : RunId}
    {before after : List JournalRecord} {record : JournalRecord} {choice : AttemptChoiceApplied}
    (replayed : ReplayedBy replay runId (before ++ record :: after))
    (canonical : Canonical runId (before ++ record :: after))
    (chosen : choiceOf? record.event = some choice) : AdmittedChoice before choice := by
  obtain ⟨indexes, tracks, checked⟩ := replayed.record
  exact admittedChoice_of_validated (canonical.presents_prior replay) tracks chosen checked.choice

end Dalph
