import Dalph.WorkflowJournal.EvidenceAgreement

/-!
# Presented histories

A reader asks a source and learns about the records that the source presents: a plain list presents
itself, indexed evidence presents its window.  Each query selects from the presented records.
-/

namespace Dalph

/-- The records that a source shows to its readers. -/
inductive Presents : JournalHistorySource → List JournalRecord → Prop
  | raw (records : List JournalRecord) : Presents (.raw records) records
  | indexed {evidence : JournalRecordEvidence} {records shown : List JournalRecord}
      (chronological : Chronological records) (shows : Shows evidence records shown) :
      Presents (.indexed evidence) shown

variable {records : List JournalRecord}

theorem presents_journalEvidenceFrom (chronological : Chronological records) :
    Presents (.indexed (journalEvidenceFrom records)) records :=
  .indexed chronological (shows_journalEvidenceFrom chronological.increasing)

variable {shown : List JournalRecord} {record : JournalRecord}

theorem rawRecordConcernsTask_eq_of_named (named : priorFullObservationOperationId? record = none)
    (taskId : TaskId) :
    rawRecordConcernsTask shown record taskId = decide (taskId ∈ taskIdsOf record none) := by
  rw [rawRecordConcernsTask, named]
  split <;> simp_all

theorem linkedToTask_eq_of_named (named : priorFullObservationOperationId? record = none)
    (taskId : TaskId) :
    linkedToTask shown record taskId = decide (taskId ∈ taskIdsOf record none) := by
  simp [linkedToTask, reconfirmedRecord?, named]

theorem linkedToAttempt_eq_of_named (named : worktreeOutcomeOperationId? record = none)
    (attemptId : AttemptId) :
    linkedToAttempt shown record attemptId = decide (attemptId ∈ attemptIdsOf record) := by
  simp [linkedToAttempt, answeredAttempt?, named]

theorem rawRecordBelongsToAttempt_eq_of_named (named : worktreeOutcomeOperationId? record = none)
    (attemptId : AttemptId) :
    rawRecordBelongsToAttempt shown record attemptId = decide (attemptId ∈ attemptIdsOf record) := by
  rw [← linkedToAttempt_eq_raw_of_no_outcome named, linkedToAttempt_eq_of_named named]

theorem findLast_eq_filter {Item : Type} (items : List Item) (test : Item → Bool) :
    findLast items test = (items.filter test).getLast? := by
  rw [findLast, ← List.head?_filter, List.filter_reverse, List.head?_reverse]

theorem findLast_filterMap {Item Read : Type} (items : List Item) (read : Item → Option Read)
    (test : Read → Bool) :
    findLast (items.filterMap read) test =
      (findLast items fun item => (read item).any test).bind read := by
  rw [findLast, findLast, ← List.filterMap_reverse, List.find?_filterMap]

theorem findLast_append_of_false {Item : Type} {items rest : List Item} {test : Item → Bool}
    (fails : ∀ item ∈ rest, test item = false) : findLast (items ++ rest) test = findLast items test := by
  have none : rest.filter test = [] := List.filter_eq_nil_iff.mpr fun item member => by
    simp [fails item member]
  rw [findLast_eq_filter, findLast_eq_filter, List.filter_append, none, List.append_nil]

theorem mem_of_findLast {Item : Type} {items : List Item} {item : Item} {test : Item → Bool}
    (found : findLast items test = some item) : item ∈ items ∧ test item = true :=
  ⟨List.mem_reverse.mp (List.mem_of_find?_eq_some found), List.find?_some found⟩

theorem findLast_eq_some_iff (test : JournalRecord → Bool)
    (increasing : InOrder records) :
    findLast records test = some record ↔ record ∈ records ∧ test record = true ∧
      ∀ other ∈ records, test other = true → other.position ≤ record.position := by
  constructor
  · intro found
    obtain ⟨member, selected⟩ := mem_of_findLast found
    rw [findLast_eq_filter] at found
    refine ⟨member, selected, fun other listed also => ?_⟩
    exact position_le_of_getLast? (increasing.filter test) found
      (List.mem_filter.mpr ⟨listed, also⟩)
  · rintro ⟨member, selected, latest⟩
    rw [findLast_eq_filter]
    refine getLast?_eq_some_of_greatest (increasing.filter test)
      (List.mem_filter.mpr ⟨member, selected⟩) fun other listed => ?_
    obtain ⟨listed, also⟩ := List.mem_filter.mp listed
    exact latest other listed also

theorem exists_findLast (test : JournalRecord → Bool)
    (increasing : InOrder records) (member : record ∈ records)
    (selected : test record = true) :
    ∃ last ∈ records, findLast records test = some last ∧ test last = true ∧
      record.position ≤ last.position := by
  have listed : record ∈ records.filter test := List.mem_filter.mpr ⟨member, selected⟩
  obtain ⟨last, found⟩ := Option.isSome_iff_exists.mp
    (List.getLast?_isSome.mpr (List.ne_nil_of_mem listed))
  rw [← findLast_eq_filter] at found
  obtain ⟨inside, also, latest⟩ := (findLast_eq_some_iff test increasing).mp found
  exact ⟨last, inside, found, also, latest record member selected⟩

namespace Presents

variable {source : JournalHistorySource} {records : List JournalRecord}

theorem recordsOfKind (presents : Presents source records) (kind : WorkflowJournalEventTag) :
    journalRecordsOfKind kind source = records.filter fun record => record.event.tag = kind := by
  cases presents with
  | raw => rfl
  | indexed chronological shows =>
      exact shows.indexedRecords_eq chronological.increasing (shows.indexed.byKind kind)

theorem firstRecordOfKind (presents : Presents source records) (kind : WorkflowJournalEventTag) :
    firstJournalRecordOfKind kind source = records.find? fun record => record.event.tag = kind := by
  cases presents with
  | raw => rfl
  | indexed chronological shows =>
      rw [firstJournalRecordOfKind,
        shows.visible_first chronological.increasing (shows.indexed.byKind kind), List.head?_filter]

theorem recordsForTask_filter (presents : Presents source records) (taskId : TaskId)
    {test : JournalRecord → Bool}
    (named : ∀ record, test record = true → priorFullObservationOperationId? record = none) :
    (journalRecordsForTask taskId source).filter test =
      records.filter fun record => test record && decide (taskId ∈ taskIdsOf record none) := by
  cases presents with
  | raw =>
      rw [journalRecordsForTask, List.filter_filter]
      refine List.filter_congr fun record _ => ?_
      by_cases selected : test record = true
      · rw [rawRecordConcernsTask_eq_of_named (named record selected)]
      · simp [selected]
  | indexed chronological shows =>
      rw [shows.journalRecordsForTask_eq chronological.increasing, List.filter_filter]
      refine List.filter_congr fun record _ => ?_
      by_cases selected : test record = true
      · rw [linkedToTask_eq_of_named (named record selected)]
      · simp [selected]

theorem recordsForAttempt_filter (presents : Presents source records) (attemptId : AttemptId)
    {test : JournalRecord → Bool}
    (named : ∀ record, test record = true → worktreeOutcomeOperationId? record = none) :
    (journalRecordsForAttempt attemptId source).filter test =
      records.filter fun record => test record && decide (attemptId ∈ attemptIdsOf record) := by
  cases presents with
  | raw =>
      rw [journalRecordsForAttempt, List.filter_filter]
      refine List.filter_congr fun record _ => ?_
      by_cases selected : test record = true
      · rw [rawRecordBelongsToAttempt_eq_of_named (named record selected)]
      · simp [selected]
  | indexed chronological shows =>
      rw [shows.journalRecordsForAttempt_eq chronological.increasing, List.filter_filter]
      refine List.filter_congr fun record _ => ?_
      by_cases selected : test record = true
      · rw [linkedToAttempt_eq_of_named (named record selected)]
      · simp [selected]

theorem mem_of_recordsForAttempt (presents : Presents source records) {attemptId : AttemptId}
    {record : JournalRecord} (listed : record ∈ journalRecordsForAttempt attemptId source) :
    record ∈ records := by
  cases presents with
  | raw => exact List.mem_of_mem_filter listed
  | indexed chronological shows =>
      rw [shows.journalRecordsForAttempt_eq chronological.increasing] at listed
      exact List.mem_of_mem_filter listed

theorem mem_recordsForAttempt_iff (presents : Presents source records) {attemptId : AttemptId}
    {record : JournalRecord} (named : worktreeOutcomeOperationId? record = none)
    (about : attemptId ∈ attemptIdsOf record) :
    record ∈ journalRecordsForAttempt attemptId source ↔ record ∈ records := by
  refine ⟨presents.mem_of_recordsForAttempt, fun member => ?_⟩
  have kept := @recordsForAttempt_filter source records presents attemptId
    (fun record => (worktreeOutcomeOperationId? record).isNone) fun record none =>
      Option.isNone_iff_eq_none.mp none
  have selected : record ∈ records.filter fun record =>
      (worktreeOutcomeOperationId? record).isNone && decide (attemptId ∈ attemptIdsOf record) :=
    List.mem_filter.mpr ⟨member, by simp [named, about]⟩
  rw [← kept] at selected
  exact List.mem_of_mem_filter selected

variable {kind : WorkflowJournalEventTag}

section

variable (presents : Presents source records)
include presents

theorem recordsForAttemptKind (attemptId : AttemptId)
    (named : kind ≠ .plannedAttemptWorktreeObserved) :
    journalRecordsForAttemptKind attemptId kind source =
      records.filter fun record =>
        decide (record.event.tag = kind) && decide (attemptId ∈ attemptIdsOf record) := by
  have unanswered : ∀ record : JournalRecord, record.event.tag = kind →
      worktreeOutcomeOperationId? record = none := by
    intro record same
    unfold worktreeOutcomeOperationId?
    split
    case h_1 outcome => exact absurd (by rw [← same, outcome]; rfl) named
    case h_2 => rfl
  cases presents with
  | raw =>
      refine List.filter_congr fun record _ => ?_
      by_cases same : record.event.tag = kind
      · rw [rawRecordBelongsToAttempt_eq_of_named (unanswered record same)]
      · simp [same]
  | indexed chronological shows =>
      rw [journalRecordsForAttemptKind,
        shows.indexedRecords_eq chronological.increasing (shows.indexed.byAttemptKind attemptId kind)]
      refine List.filter_congr fun record member => ?_
      by_cases same : record.event.tag = kind
      · rw [shows.linkedToAttempt_eq member, linkedToAttempt_eq_of_named (unanswered record same)]
      · simp [same]

theorem lastRecordForAttemptKind (attemptId : AttemptId)
    (named : kind ≠ .plannedAttemptWorktreeObserved) :
    lastJournalRecordForAttemptKind attemptId kind source =
      findLast records fun record =>
        decide (record.event.tag = kind) && decide (attemptId ∈ attemptIdsOf record) := by
  rw [findLast_eq_filter, ← presents.recordsForAttemptKind attemptId named]
  cases presents with
  | raw => rw [lastJournalRecordForAttemptKind, findLast_eq_filter]; rfl
  | indexed chronological shows =>
      rw [lastJournalRecordForAttemptKind,
        shows.lastVisibleRecord_eq chronological.increasing (shows.indexed.byAttemptKind attemptId kind),
        journalRecordsForAttemptKind,
        shows.indexedRecords_eq chronological.increasing (shows.indexed.byAttemptKind attemptId kind)]

theorem lastRecordForTaskKind (taskId : TaskId) (named : kind ≠ .taskTrackerFactsObserved) :
    lastJournalRecordForTaskKind taskId kind source =
      findLast records fun record =>
        decide (record.event.tag = kind) && decide (taskId ∈ taskIdsOf record none) := by
  have observed : ∀ record : JournalRecord, record.event.tag = kind →
      priorFullObservationOperationId? record = none := by
    intro record same
    unfold priorFullObservationOperationId?
    split
    case h_1 facts reconfirmed => exact absurd (by rw [← same, reconfirmed]; rfl) named
    case h_2 => rfl
  rw [findLast_eq_filter]
  cases presents with
  | raw =>
      rw [lastJournalRecordForTaskKind, findLast_eq_filter, journalRecordsForTask,
        List.filter_filter]
      refine congrArg List.getLast? (List.filter_congr fun record _ => ?_)
      by_cases same : record.event.tag = kind
      · rw [rawRecordConcernsTask_eq_of_named (observed record same)]
      · simp [same]
  | indexed chronological shows =>
      rw [shows.lastJournalRecordForTaskKind_eq chronological.increasing,
        shows.journalRecordsForTaskKind_eq chronological.increasing]
      refine congrArg List.getLast? (List.filter_congr fun record _ => ?_)
      by_cases same : record.event.tag = kind
      · rw [linkedToTask_eq_of_named (observed record same)]
      · simp [same]

theorem recordsForOperationId (operationId : OperationId) :
    journalRecordsForOperationId operationId source =
      records.filter fun record => operationId ∈ operationIdsOf record := by
  cases presents with
  | raw => rfl
  | indexed chronological shows =>
      exact shows.indexedRecords_eq chronological.increasing
        (shows.indexed.recordsByOperation operationId)

end

end Presents

end Dalph
