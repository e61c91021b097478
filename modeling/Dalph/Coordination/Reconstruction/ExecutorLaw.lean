import Dalph.Coordination.Reconstruction.ExecutorHistory
import Dalph.Coordination.Reconstruction.SingleEnding
import Dalph.Workflow.PresentedCommands

/-!
# The law of executor records

What the kernel's checks demand of an executor record is a statement about the records before it:
commands rest on the last accepted report, redeliveries on a safe projection of their Resume, and
every report has a cause.
-/

namespace Dalph

/-- A record accepts the last report about a plan's work. -/
structure LatestAccepted (records : List JournalRecord) (plannedAttempt : PlannedTaskAttempt)
    (record : JournalRecord) (report : PlannedAttemptExecutorReport) : Prop where
  member : record ∈ records
  accepts : acceptedReport? record.event = some report
  correlates : exactCorrelation report plannedAttempt = true
  latest : ∀ other ∈ records, acceptsReportFor plannedAttempt other = true →
    other.position ≤ record.position

section

variable {record : JournalRecord} {plannedAttempt : PlannedTaskAttempt}
  {report : PlannedAttemptExecutorReport} {evidence : PlannedAttemptExecutorEvidence}

theorem acceptsReportFor_iff : acceptsReportFor plannedAttempt record = true ↔
    ∃ report, acceptedReport? record.event = some report ∧
      exactCorrelation report plannedAttempt = true := by
  rw [acceptsReportFor, Option.any_eq_true]

theorem evidence_of_accepts (accepts : acceptedReport? record.event = some report)
    (correlates : exactCorrelation report plannedAttempt = true) :
    ∃ ordinal, evidenceFromRecord record plannedAttempt =
      some ⟨record.position, report, .acceptedReport ordinal⟩ := by
  unfold acceptedReport? at accepts
  split at accepts
  · next event reported =>
      cases accepts
      exact ⟨event.ordinal, by simp [evidenceFromRecord, reported, reportOf, correlates]⟩
  · cases accepts

theorem accepts_of_evidence (found : evidenceFromRecord record plannedAttempt = some evidence)
    (accepted : evidence.isAccepted = true) :
    acceptedReport? record.event = some evidence.report ∧
      exactCorrelation evidence.report plannedAttempt = true ∧
        evidence.observedAt = record.position := by
  obtain ⟨⟨report, origin⟩, reported, found⟩ := Option.bind_eq_some_iff.mp found
  dsimp only at found
  split at found
  · next correlates =>
      cases found
      refine ⟨?_, correlates, rfl⟩
      unfold reportOf at reported
      split at reported
      · next event accepts =>
          cases reported
          rw [accepts, acceptedReport?]
      · cases reported
        cases accepted
      · split at reported
        · cases reported
          cases accepted
        · cases reported
      · split at reported
        · cases reported
          cases accepted
        · cases reported
      · cases reported
  · cases found

theorem any_isAccepted_evidence :
    (evidenceFromRecord record plannedAttempt).any (·.isAccepted) =
      acceptsReportFor plannedAttempt record := by
  rw [Bool.eq_iff_iff, acceptsReportFor_iff, Option.any_eq_true]
  constructor
  · rintro ⟨evidence, found, accepted⟩
    obtain ⟨accepts, correlates, _⟩ := accepts_of_evidence found accepted
    exact ⟨evidence.report, accepts, correlates⟩
  · rintro ⟨report, accepts, correlates⟩
    obtain ⟨ordinal, found⟩ := evidence_of_accepts accepts correlates
    exact ⟨_, found, rfl⟩

theorem concernsAttempt_of_accepts (accepts : acceptsReportFor plannedAttempt record = true) :
    concernsAttempt plannedAttempt.attemptId record = true := by
  obtain ⟨report, accepts, correlates⟩ := acceptsReportFor_iff.mp accepts
  simp only [exactCorrelation, Bool.and_eq_true, decide_eq_true_eq] at correlates
  unfold acceptedReport? at accepts
  split at accepts
  · next event reported =>
      cases accepts
      rw [concernsAttempt_iff]
      exact ⟨event.report.correlation, by rw [reported]; rfl, correlates.2⟩
  · cases accepts

theorem tag_of_accepts (accepts : acceptsReportFor plannedAttempt record = true) :
    record.event.tag = .plannedAttemptExecutorWorkReported := by
  obtain ⟨report, accepts, _⟩ := acceptsReportFor_iff.mp accepts
  unfold acceptedReport? at accepts
  split at accepts
  · next reported => rw [reported]; rfl
  · cases accepts

end

section

variable {source : JournalHistorySource} {records : List JournalRecord} {record : JournalRecord}
  {plannedAttempt : PlannedTaskAttempt} {report : PlannedAttemptExecutorReport}

theorem LatestAccepted.unique (increasing : InOrder records)
    (latest : LatestAccepted records plannedAttempt record report) {other : JournalRecord}
    {report' : PlannedAttemptExecutorReport}
    (also : LatestAccepted records plannedAttempt other report') : report' = report := by
  have accepts := acceptsReportFor_iff.mpr ⟨report, latest.accepts, latest.correlates⟩
  have accepts' := acceptsReportFor_iff.mpr ⟨report', also.accepts, also.correlates⟩
  have same := increasing.eq_of_position latest.member also.member
    (Nat.le_antisymm (also.latest record latest.member accepts)
      (latest.latest other also.member accepts'))
  have accepted := latest.accepts
  rw [same, also.accepts] at accepted
  exact Option.some.inj accepted

theorem Presents.latestAccepted_of_evidence (presents : Presents source records)
    (increasing : InOrder records)
    {evidence : PlannedAttemptExecutorEvidence}
    (found : latestAcceptedPlannedAttemptExecutorEvidence source plannedAttempt none =
      some evidence) :
    ∃ record, LatestAccepted records plannedAttempt record evidence.report ∧
      evidence.observedAt = record.position := by
  obtain ⟨current, accepted⟩ := Option.filter_eq_some_iff.mp found
  have ends : ∀ record ∈ records, evidenceFromRecord record plannedAttempt = some evidence →
      (∀ other ∈ records, acceptsReportFor plannedAttempt other = true →
        other.position ≤ record.position) →
      ∃ record, LatestAccepted records plannedAttempt record evidence.report ∧
        evidence.observedAt = record.position := by
    intro record member given latest
    obtain ⟨accepts, correlates, observed⟩ := accepts_of_evidence given accepted
    exact ⟨record, ⟨member, accepts, correlates, latest⟩, observed⟩
  cases presents with
  | raw =>
      rcases preferredExactExecutorEvidence_cases (unlessLaterIssue_eq_some current) with last | last
      · rw [plannedAttemptExecutorEvidence, findLast_filterMap] at last
        simp only [Option.any_none, Bool.false_eq_true, if_false, executorRecordsForAttempt,
          any_isAccepted_evidence] at last
        obtain ⟨record, last, given⟩ := Option.bind_eq_some_iff.mp last
        obtain ⟨member, _, latest⟩ := (findLast_eq_some_iff _ increasing).mp last
        exact ends record member given latest
      · have observed := (mem_of_findLast last).2
        rw [accepted] at observed
        cases observed
  | indexed chronological shows =>
      have presents := Presents.indexed chronological shows
      rcases preferredExactExecutorEvidence_cases (unlessLaterIssue_eq_some current) with last | last
      · obtain ⟨record, last, given⟩ := Option.bind_eq_some_iff.mp last
        rw [lastOfKindAfter, presents.lastRecordForAttemptKind _ (by decide)] at last
        obtain ⟨last, -⟩ := Option.filter_eq_some_iff.mp last
        obtain ⟨member, _, latest⟩ := (findLast_eq_some_iff _ increasing).mp last
        refine ends record member given fun other listed accepts => latest other listed ?_
        simp [tag_of_accepts accepts,
          mem_attemptIdsOf_of_concerns (concernsAttempt_of_accepts accepts)]
      · have listed := List.mem_of_getLast? last
        rw [List.mem_mergeSort, List.mem_filterMap] at listed
        obtain ⟨kind, observed, last⟩ := listed
        obtain ⟨record, last, given⟩ := Option.bind_eq_some_iff.mp last
        rw [lastOfKindAfter, presents.lastRecordForAttemptKind _
          (by rintro rfl; exact absurd observed (by decide))] at last
        obtain ⟨last, -⟩ := Option.filter_eq_some_iff.mp last
        have selected := (mem_of_findLast last).2
        obtain ⟨accepts, correlates, _⟩ := accepts_of_evidence given accepted
        have reported := tag_of_accepts (acceptsReportFor_iff.mpr ⟨_, accepts, correlates⟩)
        rw [Bool.and_eq_true, decide_eq_true_eq, reported] at selected
        rw [← selected.1] at observed
        exact absurd observed (by decide)

theorem Presents.latestAccepted_of_getLast (presents : Presents source records)
    (increasing : InOrder records)
    (found : (acceptedPlannedAttemptExecutorReportRecords source plannedAttempt).getLast? =
      some record) (accepts : acceptedReport? record.event = some report) :
    LatestAccepted records plannedAttempt record report := by
  have kept := @Presents.recordsForAttempt_filter source records presents plannedAttempt.attemptId
    (acceptsReportFor plannedAttempt) fun record accepts =>
      worktreeOutcome_of_concerns (concernsAttempt_of_accepts accepts)
  rw [acceptedPlannedAttemptExecutorReportRecords, kept, ← findLast_eq_filter] at found
  obtain ⟨member, selected, latest⟩ := (findLast_eq_some_iff _ increasing).mp found
  rw [Bool.and_eq_true] at selected
  obtain ⟨report', accepts', correlates⟩ := acceptsReportFor_iff.mp selected.1
  rw [accepts, Option.some.injEq] at accepts'
  subst accepts'
  refine ⟨member, accepts, correlates, fun other listed also => latest other listed ?_⟩
  simp [also, mem_attemptIdsOf_of_concerns (concernsAttempt_of_accepts also)]

def PlannedAttemptExecutorCommand.restsOn :
    PlannedAttemptExecutorCommand → PlannedAttemptExecutorReport → Bool
  | begin, _ => true
  | resume, report => report.isSafelySuspended
  | suspend, report => report.isExecuting
  | continueRejectedResult, report => report.isResultRejected

theorem Presents.latestAccepted_of_suspension (presents : Presents source records)
    (increasing : InOrder records)
    (authorized : plannedAttemptExecutorSuspensionIsAuthorized source plannedAttempt = true) :
    ∃ record report, LatestAccepted records plannedAttempt record report ∧
      report.isExecuting = true := by
  rw [plannedAttemptExecutorSuspensionIsAuthorized, Bool.or_eq_true] at authorized
  rcases authorized with current | retained
  · obtain ⟨evidence, found, accepted⟩ := Option.any_eq_true _ _ |>.mp current
    rw [Bool.and_eq_true] at accepted
    obtain ⟨record, latest, _⟩ := presents.latestAccepted_of_evidence increasing
      (Option.filter_eq_some_iff.mpr ⟨found, accepted.1⟩)
    exact ⟨record, evidence.report, latest, accepted.2⟩
  · obtain ⟨record, found, stands⟩ := Option.any_eq_true _ _ |>.mp retained
    simp only [Bool.and_eq_true] at stands
    obtain ⟨report, accepts, executing⟩ := Option.any_eq_true _ _ |>.mp stands.1.1
    exact ⟨record, report, presents.latestAccepted_of_getLast increasing found accepts, executing⟩

theorem Presents.latestAccepted_of_safe (presents : Presents source records)
    (increasing : InOrder records)
    (safe : (currentUnconsumedAcceptedSafeEvidence source plannedAttempt).isSome = true) :
    ∃ record report, LatestAccepted records plannedAttempt record report ∧
      report.isSafelySuspended = true := by
  obtain ⟨evidence, safe⟩ := Option.isSome_iff_exists.mp safe
  obtain ⟨current, found, stands⟩ := Option.bind_eq_some_iff.mp safe
  obtain ⟨record, latest, _⟩ := presents.latestAccepted_of_evidence increasing found
  split at stands
  · cases stands
  · next suspended =>
      rw [Bool.or_eq_true, not_or, Bool.not_eq_true', Bool.not_eq_false] at suspended
      exact ⟨record, current.report, latest, suspended.1⟩

theorem permission_of_continue {command : PlannedAttemptExecutorCommandIntended}
    (continues : command.command = .continueRejectedResult)
    (permitted : resultRecoveryContinueCommandProblem source command = none) :
    ∃ authorized : ResultRecoveryContinueAuthorized,
      authorized.plannedAttempt = command.plannedAttempt ∧
        resultRecoveryContinueAuthorizationProblem source authorized = none := by
  unfold resultRecoveryContinueCommandProblem at permitted
  rw [if_neg (not_not.mpr continues)] at permitted
  split at permitted
  · cases permitted
  · split at permitted
    · cases permitted
    · next authorized found =>
        have samePlan := (Option.filter_eq_some_iff.mp found).2
        split at permitted
        · cases permitted
        · exact ⟨authorized, of_decide_eq_true samePlan, permitted⟩

theorem direction_of_permission {authorized : ResultRecoveryContinueAuthorized}
    (permitted : resultRecoveryContinueAuthorizationProblem source authorized = none) :
    ∃ directed : ResultRecoveryDirected,
      directed.subject.plannedAttempt = authorized.plannedAttempt ∧
        directed.subject.isRejectedResult = true ∧
        ∃ runId applied, resultRecoveryDirectionProblem directed runId source applied = none := by
  unfold resultRecoveryContinueAuthorizationProblem at permitted
  split at permitted
  · cases permitted
  · next record directed found =>
      have sameSubject := (Option.filter_eq_some_iff.mp found).2
      unfold continueDirectionProblem at permitted
      split at permitted
      · cases permitted
      · split at permitted
        · cases permitted
        · next kind =>
            rw [Bool.or_eq_true, not_or, Bool.not_eq_true', Bool.not_eq_false] at kind
            split at permitted
            · cases permitted
            · next selected =>
                exact ⟨directed, of_decide_eq_true sameSubject, kind.2, _, _, selected⟩

theorem isResultRejected_of_selected {request : ResultRecoveryDirected}
    (rejected : request.subject.isRejectedResult = true)
    (selected : selectedReportProblem request report = none) : report.isResultRejected = true := by
  unfold selectedReportProblem at selected
  split at selected
  · cases report <;> simp_all [PlannedAttemptExecutorReport.isResultRejected]
  · next subject =>
      rw [subject] at rejected
      cases rejected

theorem Presents.latestAccepted_of_continue (presents : Presents source records)
    (increasing : InOrder records)
    {command : PlannedAttemptExecutorCommandIntended}
    (continues : command.command = .continueRejectedResult)
    (permitted : resultRecoveryContinueCommandProblem source command = none) :
    ∃ record report, LatestAccepted records command.plannedAttempt record report ∧
      report.isResultRejected = true := by
  obtain ⟨authorized, samePlan, stands⟩ := permission_of_continue continues permitted
  obtain ⟨directed, sameSubject, rejected, runId, applied, unopposed⟩ := direction_of_permission stands
  obtain ⟨_, _, _, evidence, found, _, selected⟩ :=
    resultRecoveryDirectionProblem_eq_none.mp unopposed
  rw [sameSubject, samePlan] at found
  obtain ⟨record, latest, _⟩ := presents.latestAccepted_of_evidence increasing found
  exact ⟨record, evidence.report, latest, isResultRejected_of_selected rejected selected⟩

end

def reportsOn (attemptId : AttemptId) (record : JournalRecord) : Bool :=
  (reportOf record.event).isSome && concernsAttempt attemptId record

theorem mem_of_foldl_choose {Item : Type} (better : Option Item → Item → Bool) {items : List Item}
    {start : Option Item} {chosen : Item}
    (found : items.foldl (fun kept item => if better kept item then some item else kept) start =
      some chosen) : start = some chosen ∨ chosen ∈ items := by
  induction items generalizing start with
  | nil => exact .inl found
  | cons item items induction =>
      rcases induction found with kept | later
      · dsimp only at kept
        split at kept
        · exact .inr (List.mem_cons.mpr (.inl (Option.some.inj kept).symm))
        · exact .inl kept
      · exact .inr (List.mem_cons_of_mem _ later)

section

variable {source : JournalHistorySource} {records : List JournalRecord} {record : JournalRecord}
  {attemptId : AttemptId} {plannedAttempt : PlannedTaskAttempt}
  {report : PlannedAttemptExecutorReport}

theorem Presents.concerns_of_lastRecord (presents : Presents source records)
    {kind : WorkflowJournalEventTag} (named : kind ≠ .plannedAttemptWorktreeObserved)
    (found : lastJournalRecordForAttemptKind attemptId kind source = some record)
    (executor : (record.event.executorCorrelation?).isSome = true) :
    record ∈ records ∧ record.event.tag = kind ∧ concernsAttempt attemptId record = true := by
  rw [presents.lastRecordForAttemptKind _ named] at found
  obtain ⟨member, selected⟩ := mem_of_findLast found
  rw [Bool.and_eq_true, decide_eq_true_eq, decide_eq_true_eq] at selected
  obtain ⟨correlation, executor⟩ := Option.isSome_iff_exists.mp executor
  have same := (mem_attemptIdsOf_of_executor executor).mp selected.2
  exact ⟨member, selected.1, concernsAttempt_iff.mpr ⟨correlation, executor, same.symm⟩⟩

theorem executor_of_accepts (accepts : acceptedReport? record.event = some report) :
    (record.event.executorCorrelation?).isSome = true ∧ (reportOf record.event).isSome = true := by
  unfold acceptedReport? at accepts
  split at accepts
  · next event reported => rw [reported]; exact ⟨rfl, rfl⟩
  · cases accepts

theorem reportsOn_of_settlement {settlement : ExactCommandSettlement}
    (settles : exactCommandSettlement record plannedAttempt = some settlement) :
    reportsOn plannedAttempt.attemptId record = true := by
  unfold exactCommandSettlement at settles
  rw [reportsOn, Bool.and_eq_true, concernsAttempt_iff]
  split at settles
  · next event observed =>
      split at settles
      · next exact_ =>
          simp only [Bool.and_eq_true, plannedTaskAttemptEquivalence, decide_eq_true_eq] at exact_
          rw [observed]
          exact ⟨rfl, _, rfl, by rw [exact_.1.2]; rfl⟩
      · cases settles
  · next event observed =>
      split at settles
      · next report shows =>
          split at settles
          · next exact_ =>
              simp only [Bool.and_eq_true, plannedTaskAttemptEquivalence,
                decide_eq_true_eq] at exact_
              rw [observed]
              exact ⟨by rw [reportOf, shows]; rfl, _, rfl, by rw [exact_.1.2]; rfl⟩
          · cases settles
      · cases settles
  · cases settles

theorem Presents.reported_of_lifecycle (presents : Presents source records)
    (stands : plannedAttemptExecutorLifecycleTransitionError source plannedAttempt report = none) :
    ∃ earlier ∈ records, reportsOn plannedAttempt.attemptId earlier = true := by
  have settled : initialLifecycleReportError source plannedAttempt report = none →
      ∃ earlier ∈ records, reportsOn plannedAttempt.attemptId earlier = true := by
    intro initial
    unfold initialLifecycleReportError at initial
    split at initial
    · cases initial
    · next settled =>
        rw [Bool.not_eq_true, Bool.not_eq_false'] at settled
        obtain ⟨settlement, found, settled⟩ := Option.any_eq_true _ _ |>.mp settled
        obtain ⟨exact_, settles, _⟩ := Option.any_eq_true _ _ |>.mp settled
        have listed := (mem_of_foldl_choose _ found).resolve_left (by simp)
        obtain ⟨kind, member, listed⟩ := List.mem_flatMap.mp listed
        have listed := List.mem_of_mem_filter listed
        rw [presents.recordsForAttemptKind _ (by rintro rfl; exact absurd member (by decide))]
          at listed
        exact ⟨settlement, List.mem_of_mem_filter listed, reportsOn_of_settlement settles⟩
  unfold plannedAttemptExecutorLifecycleTransitionError at stands
  split at stands
  · exact settled stands
  · next latest found =>
      split at stands
      · exact settled stands
      · next accepted accepts =>
          obtain ⟨executor, reported⟩ := executor_of_accepts accepts
          obtain ⟨member, _, concerned⟩ := presents.concerns_of_lastRecord (by decide) found executor
          exact ⟨latest, member, by rw [reportsOn, reported, concerned]; rfl⟩

theorem Presents.reported_of_evidence (presents : Presents source records)
    {acceptedAt : Option JournalPosition} {latest : JournalRecord}
    (found : latestUnacceptedExecutorEvidenceFor source acceptedAt attemptId = some latest)
    (shows : executorReportFromEvidence? latest.event = some report) :
    latest ∈ records ∧ reportsOn attemptId latest = true := by
  obtain ⟨found, _⟩ := Option.filter_eq_some_iff.mp found
  have listed := (mem_of_foldl_choose _ found).resolve_left (by simp)
  obtain ⟨kind, member, last⟩ := List.mem_filterMap.mp listed
  have executor : (latest.event.executorCorrelation?).isSome = true ∧
      (reportOf latest.event).isSome = true := by
    unfold executorReportFromEvidence? at shows
    split at shows
    · next event observed => rw [observed]; exact ⟨rfl, rfl⟩
    · next event observed =>
        split at shows
        · next report exact_ => rw [observed, reportOf, exact_]; exact ⟨rfl, rfl⟩
        · cases shows
    · next event observed =>
        split at shows
        · next report exact_ => rw [observed, reportOf, exact_]; exact ⟨rfl, rfl⟩
        · cases shows
    · cases shows
  obtain ⟨member, _, concerned⟩ := presents.concerns_of_lastRecord
    (by rintro rfl; exact absurd member (by decide)) last executor.1
  exact ⟨member, by rw [reportsOn, executor.2, concerned]; rfl⟩

end

/-- A command is permitted: Begin once, the others by the last accepted report. -/
structure CommandLaw (before : List JournalRecord)
    (event : PlannedAttemptExecutorCommandIntended) : Prop where
  once : event.command = .begin → ∀ earlier ∈ before,
    beginsAttempt event.plannedAttempt.attemptId earlier.event = false
  rests : event.command ≠ .begin → ∃ record report,
    LatestAccepted before event.plannedAttempt record report ∧ event.command.restsOn report = true

/-- A Resume is redelivered: its executor was still safe, and nothing else happened since. -/
structure RedeliveryLaw (before : List JournalRecord) (plannedAttempt : PlannedTaskAttempt)
    (basis : ReconciledResumeStillSafe) (intended : JournalRecord)
    (resume : PlannedAttemptExecutorCommandIntended) : Prop where
  member : intended ∈ before
  intends : exactCommandIntended? plannedAttempt intended.event = some resume
  resumes : resume.command = .resume
  named : resume.ordinal = basis.resumeCommandOrdinal
  earlier : intended.position < basis.observedAt
  projected : ∃ projection ∈ before, projection.position = basis.observedAt ∧
    projection.event.tag = .plannedAttemptExecutorCommandProjectionObserved
  between : ∀ other ∈ before, (exactCommandIntended? plannedAttempt other.event).isSome = true →
    intended.position < other.position → ¬ other.position < basis.observedAt
  safe : ∀ other ∈ before, ∀ evidence, evidenceFromRecord other plannedAttempt = some evidence →
    intended.position < other.position → other.position < basis.observedAt →
      evidence.report.isSafelySuspended = true
  silent : ∀ other ∈ before, (evidenceFromRecord other plannedAttempt).isSome = true →
    ¬ basis.observedAt < other.position
  unresumed : ∀ other ∈ before, intendsBeginOrResume plannedAttempt other.event = true →
    ¬ basis.observedAt < other.position

def namedCommand? : WorkflowJournalEvent → Option (PlannedTaskAttempt × Nat)
  | .plannedAttemptExecutorCommandProjectionObserved event =>
      some (event.plannedAttempt, event.commandOrdinal)
  | .plannedAttemptExecutorCommandResponseObserved event =>
      some (event.plannedAttempt, event.commandOrdinal)
  | .plannedAttemptExecutorCommandResponseContradicted event =>
      some (event.plannedAttempt, event.commandOrdinal)
  | _ => none

abbrev unsettledCommand (records : List JournalRecord) (plannedAttempt : PlannedTaskAttempt) :
    Option PlannedAttemptExecutorCommandIntended :=
  latestUnsettledPlannedAttemptExecutorCommand (.raw records) plannedAttempt

/-- What the records before an executor record must say for it to be accepted. -/
structure ExecutorLaw (runId : RunId) (before : List JournalRecord) (record : JournalRecord) :
    Prop where
  owned : ∀ correlation, record.event.executorCorrelation? = some correlation →
    correlation.runId = runId
  correlated : Correlated record
  reported : ∀ report origin, reportOf record.event = some (report, origin) →
    report.correlation.runId = runId
  commanded : ∀ event, record.event = .plannedAttemptExecutorCommandIntended event →
    CommandLaw before event
  redelivered : ∀ event, record.event = .plannedAttemptExecutorResumeRedeliveryIntended event →
    ∃ intended resume, RedeliveryLaw before event.plannedAttempt event.basis intended resume
  named : ∀ plannedAttempt ordinal, namedCommand? record.event = some (plannedAttempt, ordinal) →
    ∃ command, unsettledCommand before plannedAttempt = some command ∧ command.ordinal = ordinal
  uncrossed : ∀ event proofId,
    record.event = .plannedAttemptExecutorCommandProjectionObserved event →
      event.observation = .executorBeginNotCrossed proofId →
        ∃ command, unsettledCommand before event.plannedAttempt = some command ∧
          command.command = .begin
  caused : ∀ attemptId, reportsOn attemptId record = true → namedCommand? record.event = none →
    ∃ earlier ∈ before, reportsOn attemptId earlier = true

section

variable {source : JournalHistorySource} {before : List JournalRecord}
  {plannedAttempt : PlannedTaskAttempt} {basis : ReconciledResumeStillSafe}

theorem concernsAttempt_of_exactCommand {record : JournalRecord}
    {command : PlannedAttemptExecutorCommandIntended}
    (intends : exactCommandIntended? plannedAttempt record.event = some command) :
    record.event = .plannedAttemptExecutorCommandIntended command ∧
      command.plannedAttempt = plannedAttempt ∧
        concernsAttempt plannedAttempt.attemptId record = true := by
  unfold exactCommandIntended? at intends
  split at intends
  · next event intended =>
      split at intends
      · next same =>
          obtain rfl := Option.some.inj intends
          have samePlan : event.plannedAttempt = plannedAttempt := of_decide_eq_true same
          refine ⟨intended, samePlan, ?_⟩
          rw [concernsAttempt_iff, intended, ← samePlan]
          exact ⟨_, rfl, rfl⟩
      · cases intends
  · cases intends

theorem exactCommand_of_beginOrResume {record : JournalRecord}
    (intends : intendsBeginOrResume plannedAttempt record.event = true) :
    ∃ command, exactCommandIntended? plannedAttempt record.event = some command := by
  unfold intendsBeginOrResume at intends
  split at intends
  · next event intended =>
      rw [Bool.and_eq_true] at intends
      exact ⟨event, by rw [intended, exactCommandIntended?, if_pos intends.2]⟩
  · cases intends

theorem resumeRedeliveryProblem_eq_none
    (permitted : resumeRedeliveryProblem source plannedAttempt basis = none) :
    ∃ intended,
      findLast (journalRecordsForAttempt plannedAttempt.attemptId source) (fun record =>
        record.position < basis.observedAt &&
          intendsNamedResume plannedAttempt basis record.event) = some intended ∧
      supersededBeforeProjection source plannedAttempt basis intended.position = false ∧
      ((journalRecordsForAttempt plannedAttempt.attemptId source).any fun record =>
        record.position = basis.observedAt &&
          projectsNamedSafe plannedAttempt basis record.event) = true ∧
      supersededBehindProjection source plannedAttempt basis = false := by
  unfold resumeRedeliveryProblem at permitted
  cases target : (exactWorkflowRunTargetForRun source plannedAttempt.runId).isNone with
  | true => simp [target] at permitted
  | false =>
      cases chosen : (appliedTerminalChoiceFor source plannedAttempt).isSome with
      | true => simp [target, chosen] at permitted
      | false =>
          cases found : findLast (journalRecordsForAttempt plannedAttempt.attemptId source)
              fun record => record.position < basis.observedAt &&
                intendsNamedResume plannedAttempt basis record.event with
          | none => simp [target, chosen, found] at permitted
          | some intended =>
              have between : supersededBeforeProjection source plannedAttempt basis
                  intended.position = false := by
                by_contra superseded
                rw [Bool.not_eq_false] at superseded
                simp [target, chosen, found, superseded] at permitted
              have projected : ((journalRecordsForAttempt plannedAttempt.attemptId source).any
                  fun record => record.position = basis.observedAt &&
                    projectsNamedSafe plannedAttempt basis record.event) = true := by
                by_contra missing
                rw [Bool.not_eq_true] at missing
                simp [target, chosen, found, between, missing] at permitted
              have behind : supersededBehindProjection source plannedAttempt basis = false := by
                by_contra superseded
                rw [Bool.not_eq_false] at superseded
                simp [target, chosen, found, between, projected, superseded] at permitted
              exact ⟨intended, rfl, between, projected, behind⟩

theorem Presents.redeliveryLaw (presents : Presents source before)
    (correlated : ∀ record ∈ before, Correlated record)
    (permitted : resumeRedeliveryProblem source plannedAttempt basis = none) :
    ∃ intended resume, RedeliveryLaw before plannedAttempt basis intended resume := by
  obtain ⟨intended, found, between, projected, behind⟩ := resumeRedeliveryProblem_eq_none permitted
  have listed : ∀ record ∈ before, concernsAttempt plannedAttempt.attemptId record = true →
      record ∈ journalRecordsForAttempt plannedAttempt.attemptId source :=
    fun record member concerned => (presents.mem_recordsForAttempt_of_concerns concerned).mpr member
  obtain ⟨member, selected⟩ := mem_of_findLast found
  rw [Bool.and_eq_true, decide_eq_true_eq] at selected
  obtain ⟨resume, intends, same⟩ := Option.any_eq_true _ _ |>.mp selected.2
  rw [Bool.and_eq_true, decide_eq_true_eq, decide_eq_true_eq] at same
  obtain ⟨projection, present, projects⟩ := List.any_eq_true.mp projected
  rw [Bool.and_eq_true, decide_eq_true_eq] at projects
  simp only [supersededBeforeProjection, Bool.or_eq_false_iff, List.any_eq_false, Bool.and_eq_true,
    decide_eq_true_eq, Bool.not_eq_true', Bool.not_eq_false, not_and] at between
  simp only [supersededBehindProjection, Bool.or_eq_false_iff, List.any_eq_false, Bool.and_eq_true,
    decide_eq_true_eq, not_and] at behind
  refine ⟨intended, resume, presents.mem_of_recordsForAttempt member, intends, same.1, same.2,
    selected.1, ?_, ?_, ?_, ?_, ?_⟩
  · refine ⟨projection, presents.mem_of_recordsForAttempt present, projects.1, ?_⟩
    have shows := projects.2
    unfold projectsNamedSafe at shows
    split at shows
    · next event observed => rw [observed]; rfl
    · cases shows
  · intro other here also after before_
    obtain ⟨command, also⟩ := Option.isSome_iff_exists.mp also
    obtain ⟨event, samePlan, concerned⟩ := concernsAttempt_of_exactCommand also
    refine between.1 other (listed other here concerned) ⟨after, before_⟩ ?_
    rw [event, supersedesResume, plannedTaskAttemptEquivalence, decide_eq_true_eq]
    exact samePlan
  · intro other here evidence given after before_
    have observed := observedAt_of_evidence given
    exact between.2 evidence ((presents.mem_evidence correlated).mpr ⟨other, here, given⟩)
      ⟨by rw [observed]; exact after, by rw [observed]; exact before_⟩
  · intro other here given after
    obtain ⟨evidence, given⟩ := Option.isSome_iff_exists.mp given
    refine behind.1 evidence ((presents.mem_evidence correlated).mpr ⟨other, here, given⟩) ?_
    rw [observedAt_of_evidence given]
    exact after
  · intro other here resumes after
    obtain ⟨command, also⟩ := exactCommand_of_beginOrResume resumes
    obtain ⟨_, _, concerned⟩ := concernsAttempt_of_exactCommand also
    exact behind.2 other (listed other here concerned) after resumes

end

end Dalph
