import Dalph.Workflow.ExecutorLifecycle

/-!
# Presented commands

Which command of a plan is unanswered is read off the presented records: the latest command, unless
an exact answer stands behind it and behind every redelivery of it.
-/

namespace Dalph

def Correlated (record : JournalRecord) : Prop :=
  ∀ report origin, reportOf record.event = some (report, origin) →
    concernsAttempt report.correlation.attemptId record = true

section

variable {record : JournalRecord} {attemptId : AttemptId} {plannedAttempt : PlannedTaskAttempt}
  {commandOrdinal : Nat}

theorem mem_attemptIdsOf_of_concerns (concerned : concernsAttempt attemptId record = true) :
    attemptId ∈ attemptIdsOf record := by
  obtain ⟨correlation, executor, same⟩ := concernsAttempt_iff.mp concerned
  exact (mem_attemptIdsOf_of_executor executor).mpr same.symm

theorem worktreeOutcome_of_concerns (concerned : concernsAttempt attemptId record = true) :
    worktreeOutcomeOperationId? record = none := by
  obtain ⟨correlation, executor, _⟩ := concernsAttempt_iff.mp concerned
  unfold worktreeOutcomeOperationId?
  split
  · next outcome => rw [outcome] at executor; cases executor
  · rfl

theorem commandIntended?_eq_some {event : WorkflowJournalEvent}
    {command : PlannedAttemptExecutorCommandIntended} :
    commandIntended? plannedAttempt event = some command ↔
      event = .plannedAttemptExecutorCommandIntended command ∧
        command.plannedAttempt.runId = plannedAttempt.runId ∧
          command.plannedAttempt.attemptId = plannedAttempt.attemptId := by
  constructor
  · intro intends
    unfold commandIntended? at intends
    split at intends
    · split at intends
      · next same =>
          cases intends
          rw [Bool.and_eq_true, decide_eq_true_eq, decide_eq_true_eq] at same
          exact ⟨rfl, same⟩
      · cases intends
    · cases intends
  · rintro ⟨rfl, sameRun, sameAttempt⟩
    simp [commandIntended?, sameRun, sameAttempt]

theorem concernsAttempt_of_command
    (intended : (commandIntended? plannedAttempt record.event).isSome = true) :
    concernsAttempt plannedAttempt.attemptId record = true := by
  obtain ⟨command, intended⟩ := Option.isSome_iff_exists.mp intended
  obtain ⟨shown, _, same⟩ := commandIntended?_eq_some.mp intended
  rw [concernsAttempt_iff, shown]
  exact ⟨_, rfl, same⟩

theorem concernsAttempt_of_redelivery
    (redelivered : redelivers plannedAttempt commandOrdinal record.event = true) :
    concernsAttempt plannedAttempt.attemptId record = true := by
  unfold redelivers at redelivered
  split at redelivered
  · next event intends =>
      simp only [Bool.and_eq_true, plannedTaskAttemptEquivalence, decide_eq_true_eq] at redelivered
      simp [concernsAttempt, intends, WorkflowJournalEvent.executorCorrelation?,
        plannedAttemptExecutorCorrelation, redelivered.2]
  · cases redelivered

theorem reportOf_of_settles
    (settles : settlesCommand plannedAttempt commandOrdinal record.event = true) :
    ∃ report origin, reportOf record.event = some (report, origin) ∧
      exactCorrelation report plannedAttempt = true := by
  unfold settlesCommand at settles
  split at settles
  · next event observed =>
      rw [Bool.and_eq_true] at settles
      exact ⟨event.report, _, by rw [observed, reportOf], settles.2⟩
  · next event observed =>
      rw [Bool.and_eq_true] at settles
      obtain ⟨_, settles⟩ := settles
      split at settles
      · next report exact_ =>
          exact ⟨report, .commandProjection event.commandOrdinal event.projectionOrdinal,
            by rw [observed, reportOf]; simp [exact_], settles⟩
      · cases settles
  · cases settles

theorem concernsAttempt_of_settles (correlated : Correlated record)
    (settles : settlesCommand plannedAttempt commandOrdinal record.event = true) :
    concernsAttempt plannedAttempt.attemptId record = true := by
  obtain ⟨report, origin, reported, exact_⟩ := reportOf_of_settles settles
  have concerned := correlated report origin reported
  simp only [exactCorrelation, Bool.and_eq_true, decide_eq_true_eq] at exact_
  rwa [exact_.2] at concerned

end

namespace Presents

variable {source : JournalHistorySource} {records : List JournalRecord} {record : JournalRecord}
  {attemptId : AttemptId}

section

variable (presents : Presents source records)
include presents

theorem mem_recordsForAttempt_of_concerns (concerned : concernsAttempt attemptId record = true) :
    record ∈ journalRecordsForAttempt attemptId source ↔ record ∈ records :=
  presents.mem_recordsForAttempt_iff (worktreeOutcome_of_concerns concerned)
    (mem_attemptIdsOf_of_concerns concerned)

theorem mem_of_executorRecords (listed : record ∈ executorRecordsForAttempt source attemptId) :
    record ∈ records := by
  cases presents with
  | raw => exact listed
  | indexed chronological shows =>
      exact (Presents.indexed chronological shows).mem_of_recordsForAttempt listed

theorem mem_executorRecords (concerned : concernsAttempt attemptId record = true) :
    record ∈ executorRecordsForAttempt source attemptId ↔ record ∈ records := by
  cases presents with
  | raw => exact Iff.rfl
  | indexed chronological shows =>
      exact (Presents.indexed chronological shows).mem_recordsForAttempt_of_concerns concerned

theorem increasing_executorRecords (increasing : InOrder records) :
    InOrder (executorRecordsForAttempt source attemptId) := by
  cases presents with
  | raw => exact increasing
  | indexed chronological shows =>
      rw [executorRecordsForAttempt, shows.journalRecordsForAttempt_eq chronological.increasing]
      exact increasing.filter _

end

end Presents

section

variable {source : JournalHistorySource} {records : List JournalRecord}
  {plannedAttempt : PlannedTaskAttempt}

theorem concernsAttempt_of_evidence {record : JournalRecord} (correlated : Correlated record)
    {evidence : PlannedAttemptExecutorEvidence}
    (found : evidenceFromRecord record plannedAttempt = some evidence) :
    concernsAttempt plannedAttempt.attemptId record = true := by
  obtain ⟨⟨report, origin⟩, reported, found⟩ := Option.bind_eq_some_iff.mp found
  dsimp only at found
  split at found
  · next exact_ =>
      have concerned := correlated report origin reported
      simp only [exactCorrelation, Bool.and_eq_true, decide_eq_true_eq] at exact_
      rwa [exact_.2] at concerned
  · cases found

theorem Presents.mem_evidence (presents : Presents source records)
    (correlated : ∀ record ∈ records, Correlated record)
    {evidence : PlannedAttemptExecutorEvidence} :
    evidence ∈ plannedAttemptExecutorEvidence source plannedAttempt none ↔
      ∃ record ∈ records, evidenceFromRecord record plannedAttempt = some evidence := by
  simp only [plannedAttemptExecutorEvidence, List.mem_filterMap, Option.any_none,
    Bool.false_eq_true, if_false]
  constructor
  · rintro ⟨record, listed, found⟩
    exact ⟨record, presents.mem_of_executorRecords listed, found⟩
  · rintro ⟨record, member, found⟩
    have concerned := concernsAttempt_of_evidence (correlated record member) found
    exact ⟨record, (presents.mem_executorRecords concerned).mpr member, found⟩

end

/-- A record intends the latest command of a plan, which nothing has answered since it was delivered
last. -/
structure Outstanding (records : List JournalRecord) (plannedAttempt : PlannedTaskAttempt)
    (record : JournalRecord) (command : PlannedAttemptExecutorCommandIntended) : Prop where
  member : record ∈ records
  intends : commandIntended? plannedAttempt record.event = some command
  latest : ∀ other ∈ records, (commandIntended? plannedAttempt other.event).isSome = true →
    other.position ≤ record.position
  unanswered : ∀ answer ∈ records,
    settlesCommand plannedAttempt command.ordinal answer.event = true →
      record.position < answer.position →
        ∃ delivery ∈ records, redelivers plannedAttempt command.ordinal delivery.event = true ∧
          answer.position ≤ delivery.position

section

variable {source : JournalHistorySource} {records : List JournalRecord}
  {plannedAttempt : PlannedTaskAttempt} {command : PlannedAttemptExecutorCommandIntended}

/-- The position behind which an answer counts: that of the last redelivery, or of the command. -/
def deliveryPosition (source : JournalHistorySource) (plannedAttempt : PlannedTaskAttempt)
    (commandOrdinal : Nat) (intendedAt : JournalPosition) : JournalPosition :=
  ((findLast (executorRecordsForAttempt source plannedAttempt.attemptId) fun delivery =>
    delivery.position > intendedAt && redelivers plannedAttempt commandOrdinal delivery.event).map
      (·.position)).getD intendedAt

theorem Presents.position_le_delivery (presents : Presents source records)
    (increasing : InOrder records) {commandOrdinal : Nat}
    {intendedAt position : JournalPosition} (behind : intendedAt < position) :
    position ≤ deliveryPosition source plannedAttempt commandOrdinal intendedAt ↔
      ∃ delivery ∈ records, redelivers plannedAttempt commandOrdinal delivery.event = true ∧
        position ≤ delivery.position := by
  have ordered : InOrder
      (executorRecordsForAttempt source plannedAttempt.attemptId) :=
    presents.increasing_executorRecords increasing
  let test (delivery : JournalRecord) :=
    decide (delivery.position > intendedAt) &&
      redelivers plannedAttempt commandOrdinal delivery.event
  have selects : ∀ delivery ∈ records,
      redelivers plannedAttempt commandOrdinal delivery.event = true →
        position ≤ delivery.position →
          delivery ∈ executorRecordsForAttempt source plannedAttempt.attemptId ∧
            test delivery = true := by
    intro delivery member redelivered reaches
    refine ⟨(presents.mem_executorRecords (concernsAttempt_of_redelivery redelivered)).mpr member, ?_⟩
    simp [test, redelivered, Nat.lt_of_lt_of_le behind reaches]
  constructor
  · intro reaches
    unfold deliveryPosition at reaches
    cases found : findLast (executorRecordsForAttempt source plannedAttempt.attemptId) test with
    | none =>
        rw [found] at reaches
        exact absurd behind (Nat.not_lt.mpr reaches)
    | some delivery =>
        obtain ⟨listed, selected⟩ := mem_of_findLast found
        rw [found] at reaches
        rw [Bool.and_eq_true] at selected
        exact ⟨delivery, presents.mem_of_executorRecords listed, selected.2, reaches⟩
  · rintro ⟨delivery, member, redelivered, reaches⟩
    obtain ⟨listed, selected⟩ := selects delivery member redelivered reaches
    obtain ⟨last, _, found, _, after⟩ := exists_findLast test ordered listed selected
    unfold deliveryPosition
    rw [found]
    exact Nat.le_trans reaches after

theorem le_deliveryPosition (source : JournalHistorySource) (plannedAttempt : PlannedTaskAttempt)
    (commandOrdinal : Nat) (intendedAt : JournalPosition) :
    intendedAt ≤ deliveryPosition source plannedAttempt commandOrdinal intendedAt := by
  unfold deliveryPosition
  cases found : findLast (executorRecordsForAttempt source plannedAttempt.attemptId)
      fun delivery => delivery.position > intendedAt &&
        redelivers plannedAttempt commandOrdinal delivery.event with
  | none => exact Nat.le_refl _
  | some delivery =>
      have selected := (mem_of_findLast found).2
      rw [Bool.and_eq_true, decide_eq_true_eq] at selected
      exact Nat.le_of_lt selected.1

theorem Presents.latestCommand_eq_some (presents : Presents source records)
    (increasing : InOrder records) {record : JournalRecord} :
    findLast (executorRecordsForAttempt source plannedAttempt.attemptId) (fun record =>
      (commandIntended? plannedAttempt record.event).isSome) = some record ↔
        record ∈ records ∧ (commandIntended? plannedAttempt record.event).isSome = true ∧
          ∀ other ∈ records, (commandIntended? plannedAttempt other.event).isSome = true →
            other.position ≤ record.position := by
  rw [findLast_eq_some_iff _ (presents.increasing_executorRecords increasing)]
  constructor
  · rintro ⟨listed, intends, latest⟩
    refine ⟨presents.mem_of_executorRecords listed, intends, fun other member also => ?_⟩
    exact latest other
      ((presents.mem_executorRecords (concernsAttempt_of_command also)).mpr member) also
  · rintro ⟨member, intends, latest⟩
    refine ⟨(presents.mem_executorRecords (concernsAttempt_of_command intends)).mpr member,
      intends, fun other listed also => ?_⟩
    exact latest other (presents.mem_of_executorRecords listed) also

theorem Presents.answered_eq_false (presents : Presents source records)
    (correlated : ∀ record ∈ records, Correlated record) {commandOrdinal : Nat}
    {delivered : JournalPosition} :
    (executorRecordsForAttempt source plannedAttempt.attemptId).any (fun answer =>
      answer.position > delivered &&
        settlesCommand plannedAttempt commandOrdinal answer.event) = false ↔
      ∀ answer ∈ records, settlesCommand plannedAttempt commandOrdinal answer.event = true →
        answer.position ≤ delivered := by
  simp only [List.any_eq_false, Bool.and_eq_true, decide_eq_true_eq, not_and]
  constructor
  · intro none answer member settles
    have concerned := concernsAttempt_of_settles (correlated answer member) settles
    by_contra behind
    exact none answer ((presents.mem_executorRecords concerned).mpr member)
      (Nat.lt_of_not_le behind) settles
  · intro none answer listed behind settles
    exact absurd behind
      (Nat.not_lt.mpr (none answer (presents.mem_of_executorRecords listed) settles))

theorem Presents.latestUnsettled_eq_some (presents : Presents source records)
    (increasing : InOrder records)
    (correlated : ∀ record ∈ records, Correlated record) :
    latestUnsettledPlannedAttemptExecutorCommand source plannedAttempt = some command ↔
      ∃ record, Outstanding records plannedAttempt record command := by
  have answered : ∀ commandOrdinal intendedAt,
      (executorRecordsForAttempt source plannedAttempt.attemptId).any (fun answer =>
        answer.position > deliveryPosition source plannedAttempt commandOrdinal intendedAt &&
          settlesCommand plannedAttempt commandOrdinal answer.event) = false ↔
        ∀ answer ∈ records, settlesCommand plannedAttempt commandOrdinal answer.event = true →
          answer.position ≤ deliveryPosition source plannedAttempt commandOrdinal intendedAt :=
    fun _ _ => presents.answered_eq_false correlated
  unfold latestUnsettledPlannedAttemptExecutorCommand
  simp only [Option.bind_eq_bind, Option.bind_eq_some_iff, presents.latestCommand_eq_some increasing]
  constructor
  · rintro ⟨record, ⟨member, -, latest⟩, found, intends, stands⟩
    split at stands
    · cases stands
    · next open_ =>
        cases stands
        refine ⟨record, member, intends, latest, fun answer listed settles behind => ?_⟩
        rw [← presents.position_le_delivery increasing behind]
        exact (answered _ _).mp (Bool.eq_false_iff.mpr open_) answer listed settles
  · rintro ⟨record, outstanding⟩
    refine ⟨record, ⟨outstanding.member, by rw [outstanding.intends]; rfl, outstanding.latest⟩,
      command, outstanding.intends, if_neg (Bool.eq_false_iff.mp ((answered _ _).mpr ?_))⟩
    intro answer listed settles
    by_cases behind : record.position < answer.position
    · rw [presents.position_le_delivery increasing behind]
      exact outstanding.unanswered answer listed settles behind
    · exact Nat.le_trans (Nat.le_of_not_lt behind) (le_deliveryPosition _ _ _ _)

end

end Dalph
