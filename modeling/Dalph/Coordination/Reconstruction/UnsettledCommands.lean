import Dalph.Coordination.Reconstruction.ExecutorLaw
import Dalph.Foundation.Log

/-!
# Unsettled commands

The kernel keeps for every attempt the ordinal of the command that its executor still owes an answer
to.  In an accepted history this is the command that a search of the attempt's records finds.
-/

namespace Dalph

/-- The executor facts of the kernel behind some records. -/
structure ExecutorTracks (before : List JournalRecord) (indexes : ExecutorIndexes) : Prop where
  responsible : ∀ attemptId responsibility,
    indexes.executorResponsibilitiesBegan.lookup attemptId = some responsibility →
      responsibility.plannedAttempt.attemptId = attemptId
  planned : ∀ attemptId responsibility,
    indexes.executorResponsibilitiesBegan.lookup attemptId = some responsibility →
      Planned before responsibility.plannedAttempt
  commanded : ∀ record ∈ before, ∀ event,
    record.event = .plannedAttemptExecutorCommandIntended event →
      indexes.responsibleFor event.plannedAttempt = true
  begun : ∀ record ∈ before, ∀ attemptId, beginsAttempt attemptId record.event = true →
    0 < indexes.commandCount attemptId .begin
  unsettled : ∀ attemptId responsibility,
    indexes.executorResponsibilitiesBegan.lookup attemptId = some responsibility →
      indexes.unsettledExecutorCommands.lookup attemptId =
        (unsettledCommand before responsibility.plannedAttempt).map (·.ordinal)
  idle : ∀ attemptId, indexes.executorResponsibilitiesBegan.lookup attemptId = none →
    indexes.unsettledExecutorCommands.lookup attemptId = none

theorem executorTracks_empty : ExecutorTracks [] .empty where
  responsible _ _ known := by simp [ExecutorIndexes.empty] at known
  planned _ _ known := by simp [ExecutorIndexes.empty] at known
  commanded _ member := by cases member
  begun _ member := by cases member
  unsettled _ _ known := by simp [ExecutorIndexes.empty] at known
  idle _ _ := by simp [ExecutorIndexes.empty]

theorem responsibleFor_iff {indexes : ExecutorIndexes} {plannedAttempt : PlannedTaskAttempt} :
    indexes.responsibleFor plannedAttempt = true ↔
      ∃ responsibility, indexes.executorResponsibilitiesBegan.lookup plannedAttempt.attemptId =
        some responsibility ∧ responsibility.plannedAttempt = plannedAttempt := by
  simp [ExecutorIndexes.responsibleFor, Option.any_eq_true, plannedTaskAttemptEquivalence]

namespace ExecutorTracks

variable {before : List JournalRecord} {indexes : ExecutorIndexes}
  {plannedAttempt : PlannedTaskAttempt}

section

variable (tracks : ExecutorTracks before indexes)
include tracks

theorem unsettled_of_responsible (responsible : indexes.responsibleFor plannedAttempt = true) :
    indexes.unsettledExecutorCommands.lookup plannedAttempt.attemptId =
      (unsettledCommand before plannedAttempt).map (·.ordinal) := by
  obtain ⟨responsibility, known, same⟩ := responsibleFor_iff.mp responsible
  rw [tracks.unsettled _ _ known, same]

theorem samePlan {record : JournalRecord} {event : PlannedAttemptExecutorCommandIntended}
    (member : record ∈ before)
    (intended : record.event = .plannedAttemptExecutorCommandIntended event)
    (responsible : indexes.responsibleFor plannedAttempt = true)
    (same : event.plannedAttempt.attemptId = plannedAttempt.attemptId) :
    event.plannedAttempt = plannedAttempt := by
  obtain ⟨first, known, plan⟩ := responsibleFor_iff.mp (tracks.commanded record member event intended)
  obtain ⟨second, known', plan'⟩ := responsibleFor_iff.mp responsible
  rw [same, known', Option.some.injEq] at known
  rw [← plan, ← plan', known]

theorem uncommanded {attemptId : AttemptId}
    (unknown : indexes.executorResponsibilitiesBegan.lookup attemptId = none)
    {record : JournalRecord} {event : PlannedAttemptExecutorCommandIntended}
    (member : record ∈ before)
    (intended : record.event = .plannedAttemptExecutorCommandIntended event) :
    event.plannedAttempt.attemptId ≠ attemptId := by
  rintro rfl
  obtain ⟨_, known, _⟩ := responsibleFor_iff.mp (tracks.commanded record member event intended)
  rw [unknown] at known
  cases known

theorem unsettled_eq_none (increasing : InOrder before)
    (correlated : ∀ record ∈ before, Correlated record)
    (unknown : indexes.executorResponsibilitiesBegan.lookup plannedAttempt.attemptId = none) :
    unsettledCommand before plannedAttempt = none := by
  rw [← Option.not_isSome_iff_eq_none]
  intro found
  obtain ⟨command, found⟩ := Option.isSome_iff_exists.mp found
  obtain ⟨intended, outstanding⟩ :=
    ((Presents.raw before).latestUnsettled_eq_some increasing correlated).mp found
  obtain ⟨shown, _, same⟩ := commandIntended?_eq_some.mp outstanding.intends
  exact tracks.uncommanded unknown outstanding.member shown same

end

end ExecutorTracks

section

variable {runId : RunId} {source : JournalHistorySource} {before : List JournalRecord}
  {record : JournalRecord} {indexes : ExecutorIndexes}
  {plans : KeyedMap AttemptId PlannedTaskAttempt}

theorem correlated_of_justified (lawful : Log.Justified (ExecutorLaw runId) before) :
    ∀ earlier ∈ before, Correlated earlier := by
  intro earlier member
  obtain ⟨_, _, law⟩ := lawful.admissible_of_mem member
  exact law.correlated

theorem Presents.latestUnsettled_eq (presents : Presents source before)
    (increasing : InOrder before)
    (correlated : ∀ record ∈ before, Correlated record) (plannedAttempt : PlannedTaskAttempt) :
    latestUnsettledPlannedAttemptExecutorCommand source plannedAttempt =
      unsettledCommand before plannedAttempt := by
  refine Option.ext fun command => ?_
  rw [presents.latestUnsettled_eq_some increasing correlated,
    (Presents.raw before).latestUnsettled_eq_some increasing correlated]

section

variable (tracks : ExecutorTracks before indexes)
  (presents : Presents (priorRecords record.position source) before)
include tracks presents

theorem ExecutorTracks.first_begin {attemptId : AttemptId}
    (first : priorBeginExists attemptId record.position source indexes = false) :
    ∀ earlier ∈ before, beginsAttempt attemptId earlier.event = false := by
  intro earlier member
  by_contra begins
  rw [Bool.not_eq_false] at begins
  unfold priorBeginExists at first
  split at first
  · next records =>
      rw [priorRecords] at presents
      cases presents with
      | raw =>
          obtain ⟨listed, position⟩ := List.mem_filter.mp member
          have none := List.any_eq_false.mp first earlier listed
          rw [position, begins] at none
          exact none rfl
  · exact of_decide_eq_false first (tracks.begun earlier member attemptId begins)

theorem ExecutorTracks.commandLaw (increasing : InOrder before)
    {event : PlannedAttemptExecutorCommandIntended}
    (permitted : validateCommandAuthority event record source indexes = []) :
    CommandLaw before event := by
  unfold validateCommandAuthority at permitted
  cases command : event.command with
  | begin =>
      rw [command] at permitted
      simp only [issueUnless_eq_nil, Bool.not_eq_true'] at permitted
      exact ⟨fun _ => tracks.first_begin presents permitted, fun other => absurd command other⟩
  | resume =>
      rw [command] at permitted
      simp only [validateExecutorResumeAuthority, List.append_eq_nil_iff, issueUnless_eq_nil]
        at permitted
      refine ⟨fun begins => by simp [command] at begins, fun _ => ?_⟩
      rw [command]
      exact presents.latestAccepted_of_safe increasing permitted.2
  | suspend =>
      rw [command] at permitted
      simp only [validateExecutorSuspendAuthority, issueUnless_eq_nil] at permitted
      refine ⟨fun begins => by simp [command] at begins, fun _ => ?_⟩
      rw [command]
      exact presents.latestAccepted_of_suspension increasing permitted
  | continueRejectedResult =>
      rw [command] at permitted
      refine ⟨fun begins => by simp [command] at begins, fun _ => ?_⟩
      rw [command]
      exact presents.latestAccepted_of_continue increasing command
        (Option.toList_eq_nil_iff.mp permitted)

end

theorem validateNamedCommand_eq_nil {owned named : String} {plannedAttempt : PlannedTaskAttempt}
    {ordinal : Nat} (accepted : validateNamedCommand owned named plannedAttempt ordinal indexes = []) :
    indexes.responsibleFor plannedAttempt = true ∧
      indexes.unsettledExecutorCommands.lookup plannedAttempt.attemptId = some ordinal := by
  simpa [validateNamedCommand, List.append_eq_nil_iff] using accepted

theorem named_of_accepted (accepted : (validateExecutorWork record source plans indexes).issues = [])
    {plannedAttempt : PlannedTaskAttempt} {ordinal : Nat}
    (names : namedCommand? record.event = some (plannedAttempt, ordinal)) :
    indexes.responsibleFor plannedAttempt = true ∧
      indexes.unsettledExecutorCommands.lookup plannedAttempt.attemptId = some ordinal := by
  unfold namedCommand? at names
  unfold validateExecutorWork at accepted
  split at names
  · next event observed =>
      cases names
      rw [observed] at accepted
      simp only [validateCommandProjection, List.append_eq_nil_iff] at accepted
      exact validateNamedCommand_eq_nil accepted.1.1
  · next event observed =>
      cases names
      rw [observed] at accepted
      exact validateNamedCommand_eq_nil accepted
  · next event observed =>
      cases names
      rw [observed] at accepted
      simp only [validateCommandResponseContradiction, List.append_eq_nil_iff] at accepted
      exact validateNamedCommand_eq_nil accepted.1
  · cases names

theorem caused_of_accepted
    (presents : Presents (priorRecords record.position source) before)
    (accepted : (validateExecutorWork record source plans indexes).issues = [])
    {attemptId : AttemptId} (reports : reportsOn attemptId record = true)
    (unnamed : namedCommand? record.event = none) :
    ∃ earlier ∈ before, reportsOn attemptId earlier = true := by
  rw [reportsOn, Bool.and_eq_true, concernsAttempt_iff] at reports
  obtain ⟨reported, correlation, executor, rfl⟩ := reports
  obtain ⟨⟨report, origin⟩, reported⟩ := Option.isSome_iff_exists.mp reported
  unfold reportOf at reported
  unfold validateExecutorWork at accepted
  split at reported
  · next event reports =>
      rw [reports] at accepted executor
      cases executor
      simp only [validateExecutorWorkReport, List.append_eq_nil_iff, issueUnless_eq_nil] at accepted
      obtain ⟨evidence, shows, _⟩ := Option.any_eq_true _ _ |>.mp accepted.1.1.1.1.2
      obtain ⟨latest, found, shows⟩ := Option.bind_eq_some_iff.mp shows
      exact ⟨latest, presents.reported_of_evidence found shows⟩
  · next event observed => simp [observed, namedCommand?] at unnamed
  · next event observed => simp [observed, namedCommand?] at unnamed
  · next event observed =>
      split at reported
      · next report shows =>
          rw [observed] at accepted executor
          cases executor
          simp only [validateStateObservation, List.append_eq_nil_iff,
            validateStateObservationContent, shows, Option.toList_eq_nil_iff,
            Option.map_eq_none_iff] at accepted
          exact presents.reported_of_lifecycle accepted.2
      · cases reported
  · cases reported

theorem runId_of_report (correlated : validateReportCorrelation record.event = [])
    (owned : validateExecutorRun record runId = []) {report : PlannedAttemptExecutorReport}
    {origin : PlannedAttemptExecutorEvidenceSource}
    (reported : reportOf record.event = some (report, origin)) :
    report.correlation.runId = runId := by
  unfold reportOf at reported
  unfold validateReportCorrelation at correlated
  unfold validateExecutorRun at owned
  split at reported
  · next event shown =>
      cases reported
      rw [shown] at owned
      exact of_decide_eq_true (issueUnless_eq_nil.mp owned)
  · next event shown =>
      cases reported
      rw [shown] at owned correlated
      have exact_ := issueUnless_eq_nil.mp correlated
      rw [exactCorrelation, Bool.and_eq_true, decide_eq_true_eq] at exact_
      rw [exact_.1]
      exact of_decide_eq_true (issueUnless_eq_nil.mp owned)
  iterate 2
    next event shown =>
      split at reported
      · next report exact_ =>
          cases reported
          rw [shown] at owned correlated
          simp only [exact_, issueUnless_eq_nil, exactCorrelation, Bool.and_eq_true,
            decide_eq_true_eq] at correlated
          rw [correlated.1]
          exact of_decide_eq_true (issueUnless_eq_nil.mp owned)
      · cases reported
  · cases reported

theorem ExecutorTracks.executorLaw (tracks : ExecutorTracks before indexes)
    (presents : Presents (priorRecords record.position source) before)
    (increasing : InOrder before)
    (lawful : Log.Justified (ExecutorLaw runId) before)
    (correlated : validateReportCorrelation record.event = [])
    (owned : validateExecutorRun record runId = [])
    (accepted : (validateExecutorWork record source plans indexes).issues = []) :
    ExecutorLaw runId before record where
  owned := by
    intro correlation executor
    simpa [validateExecutorRun, executor] using owned
  correlated := fun _ _ reported => concernsAttempt_of_report correlated reported
  reported := fun _ _ reported => runId_of_report correlated owned reported
  commanded := by
    intro event intended
    unfold validateExecutorWork at accepted
    rw [intended] at accepted
    simp only [validateExecutorCommandIntent, List.append_eq_nil_iff] at accepted
    exact tracks.commandLaw presents increasing accepted.1.1.2
  redelivered := by
    intro event intended
    unfold validateExecutorWork at accepted
    rw [intended] at accepted
    simp only [validateExecutorResumeRedeliveryIntent, List.append_eq_nil_iff,
      Option.toList_eq_nil_iff, Option.map_eq_none_iff] at accepted
    exact presents.redeliveryLaw (correlated_of_justified lawful) accepted.1
  named := by
    intro plannedAttempt ordinal names
    obtain ⟨responsible, known⟩ := named_of_accepted accepted names
    rw [tracks.unsettled_of_responsible responsible] at known
    exact Option.map_eq_some_iff.mp known
  uncrossed := by
    intro event proofId observed uncrossed
    unfold validateExecutorWork at accepted
    rw [observed] at accepted
    simp only [validateCommandProjection, List.append_eq_nil_iff, validateCommandObservation,
      uncrossed, issueUnless_eq_nil] at accepted
    obtain ⟨intended, found, begins⟩ := Option.any_eq_true _ _ |>.mp accepted.2
    rw [presents.latestUnsettled_eq increasing (correlated_of_justified lawful)] at found
    rw [Bool.and_eq_true, decide_eq_true_eq] at begins
    exact ⟨intended, found, begins.1⟩
  caused := fun _ reports unnamed => caused_of_accepted presents accepted reports unnamed

end

section

variable {runId : RunId} {before : List JournalRecord} {plannedAttempt : PlannedTaskAttempt}
  {basis : ReconciledResumeStillSafe} {intended : JournalRecord}
  {resume : PlannedAttemptExecutorCommandIntended}

variable (law : RedeliveryLaw before plannedAttempt basis intended resume)
  (increasing : InOrder before)
  (lawful : Log.Justified (ExecutorLaw runId) before)
include law increasing lawful

/-- Behind the Resume of a redelivery no other report was accepted than those before it. -/
theorem RedeliveryLaw.suspended_at {first last : List JournalRecord} {later record : JournalRecord}
    {report : PlannedAttemptExecutorReport} (split : before = first ++ later :: last)
    (behind : intended ∈ first) (latest : LatestAccepted first plannedAttempt record report) :
    report.isSafelySuspended = true := by
  have ordered : InOrder first := by
    rw [split] at increasing
    exact (List.pairwise_append.mp increasing).1
  obtain ⟨shown, samePlan, _⟩ := concernsAttempt_of_exactCommand law.intends
  obtain ⟨start, rest, rfl⟩ := List.append_of_mem behind
  have resumed := lawful start intended (rest ++ later :: last) (by rw [split]; simp)
  obtain ⟨safe, suspended, accepted, rests⟩ := (resumed.commanded resume shown).rests
    (by rw [law.resumes]; decide)
  rw [law.resumes] at rests
  rw [samePlan] at accepted
  have within : record ∈ before := by
    rw [split]
    exact List.mem_append_left _ latest.member
  obtain ⟨ordinal, given⟩ := evidence_of_accepts latest.accepts latest.correlates
  have accepts := acceptsReportFor_iff.mpr ⟨report, latest.accepts, latest.correlates⟩
  rcases List.mem_append.mp latest.member with inside | after
  · have also : LatestAccepted start plannedAttempt record report :=
      ⟨inside, latest.accepts, latest.correlates, fun other member accepts =>
        latest.latest other (List.mem_append_left _ member) accepts⟩
    rw [accepted.unique (List.pairwise_append.mp ordered).1 also]
    exact rests
  · rcases List.mem_cons.mp after with here | after
    · rw [here, acceptsReportFor_iff, shown] at accepts
      obtain ⟨_, accepts, _⟩ := accepts
      cases accepts
    · have follows : intended.position < record.position :=
        (List.pairwise_cons.mp (List.pairwise_append.mp ordered).2.1).1 record after
      have through : ¬ basis.observedAt < record.position :=
        law.silent record within (by rw [given]; rfl)
      rcases Nat.lt_or_eq_of_le (Nat.le_of_not_lt through) with inside | same
      · exact law.safe record within _ given follows inside
      · obtain ⟨projection, member, position, kind⟩ := law.projected
        have one := increasing.eq_of_position within member (same.trans position.symm)
        rw [← one, tag_of_accepts accepts] at kind
        cases kind

theorem RedeliveryLaw.latest :
    ∀ other ∈ before, (exactCommandIntended? plannedAttempt other.event).isSome = true →
      other.position ≤ intended.position := by
  intro other member also
  by_contra behind
  have follows := Nat.lt_of_not_le behind
  obtain ⟨command, intends⟩ := Option.isSome_iff_exists.mp also
  obtain ⟨shown, samePlan, _⟩ := concernsAttempt_of_exactCommand intends
  rcases Nat.lt_trichotomy other.position basis.observedAt with inside | same | after
  · exact law.between other member also follows inside
  · obtain ⟨projection, listed, position, kind⟩ := law.projected
    have one := increasing.eq_of_position member listed (same.trans position.symm)
    rw [← one, shown] at kind
    cases kind
  · have unresumed : intendsBeginOrResume plannedAttempt other.event = false := by
      rw [Bool.eq_false_iff]
      exact fun resumes => law.unresumed other member resumes after
    rw [shown, intendsBeginOrResume, samePlan] at unresumed
    simp only [plannedTaskAttemptEquivalence, decide_true, Bool.and_true, Bool.or_eq_false_iff,
      decide_eq_false_iff_not] at unresumed
    obtain ⟨first, last, split⟩ := List.append_of_mem member
    have earlier : intended ∈ first := by
      have listed := law.member
      rw [split] at listed increasing
      rcases List.mem_append.mp listed with inside | later
      · exact inside
      · rcases List.mem_cons.mp later with here | later
        · rw [here] at follows
          exact absurd follows (Nat.lt_irrefl _)
        · exact absurd ((List.pairwise_cons.mp (List.pairwise_append.mp increasing).2.1).1
            intended later) (Nat.lt_asymm follows)
    have checked := (lawful first other last split).commanded command shown
    obtain ⟨record, report, accepted, rests⟩ := checked.rests unresumed.1
    rw [samePlan] at accepted
    have suspended := law.suspended_at increasing lawful split earlier accepted
    cases kind : command.command with
    | begin => exact unresumed.1 kind
    | resume => exact unresumed.2 kind
    | suspend =>
        rw [kind] at rests
        cases report <;> simp_all [PlannedAttemptExecutorCommand.restsOn,
          PlannedAttemptExecutorReport.isExecuting, PlannedAttemptExecutorReport.isSafelySuspended]
    | continueRejectedResult =>
        rw [kind] at rests
        cases report <;> simp_all [PlannedAttemptExecutorCommand.restsOn,
          PlannedAttemptExecutorReport.isResultRejected,
          PlannedAttemptExecutorReport.isSafelySuspended]

end

/-- The record neither intends, nor redelivers, nor answers a command of the plan. -/
structure IdleAbout (plannedAttempt : PlannedTaskAttempt) (record : JournalRecord) : Prop where
  unintended : commandIntended? plannedAttempt record.event = none
  undelivered : ∀ ordinal, redelivers plannedAttempt ordinal record.event = false
  unanswered : ∀ ordinal, settlesCommand plannedAttempt ordinal record.event = false

section

variable {before : List JournalRecord} {record : JournalRecord} {plannedAttempt : PlannedTaskAttempt}
  {command : PlannedAttemptExecutorCommandIntended}

theorem idleAbout_of_other (correlated : Correlated record)
    (other : concernsAttempt plannedAttempt.attemptId record = false) :
    IdleAbout plannedAttempt record where
  unintended := by
    rw [← Option.not_isSome_iff_eq_none]
    intro intended
    rw [concernsAttempt_of_command intended] at other
    cases other
  undelivered ordinal := by
    rw [Bool.eq_false_iff]
    intro redelivered
    rw [concernsAttempt_of_redelivery redelivered] at other
    cases other
  unanswered ordinal := by
    rw [Bool.eq_false_iff]
    intro settles
    rw [concernsAttempt_of_settles correlated settles] at other
    cases other

theorem IdleAbout.outstanding_iff (idle : IdleAbout plannedAttempt record)
    {intended : JournalRecord} :
    Outstanding (before ++ [record]) plannedAttempt intended command ↔
      Outstanding before plannedAttempt intended command := by
  constructor
  · intro outstanding
    refine ⟨?_, outstanding.intends, fun other member also =>
      outstanding.latest other (List.mem_append_left _ member) also, ?_⟩
    · rcases Log.mem_concat.mp outstanding.member with inside | here
      · exact inside
      · have intends := outstanding.intends
        rw [here, idle.unintended] at intends
        cases intends
    · intro answer member settles behind
      obtain ⟨delivery, listed, redelivered, reaches⟩ :=
        outstanding.unanswered answer (List.mem_append_left _ member) settles behind
      rcases Log.mem_concat.mp listed with inside | here
      · exact ⟨delivery, inside, redelivered, reaches⟩
      · rw [here, idle.undelivered] at redelivered
        cases redelivered
  · intro outstanding
    refine ⟨List.mem_append_left _ outstanding.member, outstanding.intends,
      fun other listed also => ?_, fun answer listed settles behind => ?_⟩
    · rcases Log.mem_concat.mp listed with inside | here
      · exact outstanding.latest other inside also
      · rw [here, idle.unintended] at also
        cases also
    · rcases Log.mem_concat.mp listed with inside | here
      · obtain ⟨delivery, member, redelivered, reaches⟩ :=
          outstanding.unanswered answer inside settles behind
        exact ⟨delivery, List.mem_append_left _ member, redelivered, reaches⟩
      · rw [here, idle.unanswered] at settles
        cases settles

variable (increasing : InOrder (before ++ [record]))
  (correlated : ∀ earlier ∈ before ++ [record], Correlated earlier)
include increasing correlated

theorem unsettledCommand_of_idle (idle : IdleAbout plannedAttempt record) :
    unsettledCommand (before ++ [record]) plannedAttempt = unsettledCommand before plannedAttempt := by
  refine Option.ext fun command => ?_
  rw [(Presents.raw _).latestUnsettled_eq_some increasing correlated,
    (Presents.raw _).latestUnsettled_eq_some (List.pairwise_append.mp increasing).1
      fun other member => correlated other (List.mem_append_left _ member)]
  exact exists_congr fun intended => idle.outstanding_iff

theorem unsettledCommand_of_intended
    (intends : commandIntended? plannedAttempt record.event = some command) :
    unsettledCommand (before ++ [record]) plannedAttempt = some command := by
  have last : ∀ other ∈ before ++ [record], other.position ≤ record.position :=
    fun other member => position_le_of_getLast? increasing (by simp) member
  refine ((Presents.raw _).latestUnsettled_eq_some increasing correlated).mpr
    ⟨record, by simp, intends, fun other member _ => last other member, ?_⟩
  intro answer member _ behind
  exact absurd (last answer member) (Nat.not_le.mpr behind)

theorem unsettledCommand_of_redelivered {intended : JournalRecord} (member : intended ∈ before)
    (intends : commandIntended? plannedAttempt intended.event = some command)
    (latest : ∀ other ∈ before, (commandIntended? plannedAttempt other.event).isSome = true →
      other.position ≤ intended.position)
    (redelivered : redelivers plannedAttempt command.ordinal record.event = true) :
    unsettledCommand (before ++ [record]) plannedAttempt = some command := by
  refine ((Presents.raw _).latestUnsettled_eq_some increasing correlated).mpr
    ⟨intended, List.mem_append_left _ member, intends, fun other listed also => ?_, ?_⟩
  · rcases Log.mem_concat.mp listed with inside | here
    · exact latest other inside also
    · rw [here] at also
      unfold redelivers at redelivered
      split at redelivered
      · next event shown => rw [shown] at also; cases also
      · cases redelivered
  · intro answer listed _ _
    exact ⟨record, by simp, redelivered, position_le_of_getLast? increasing (by simp) listed⟩

theorem unsettledCommand_of_answered
    (unanswered : unsettledCommand before plannedAttempt = some command)
    (settles : settlesCommand plannedAttempt command.ordinal record.event = true) :
    unsettledCommand (before ++ [record]) plannedAttempt = none := by
  have ordered : InOrder before := (List.pairwise_append.mp increasing).1
  have earlier : ∀ other ∈ before, other.position < record.position := fun other member =>
    (List.pairwise_append.mp increasing).2.2 other member record (by simp)
  have unintended : commandIntended? plannedAttempt record.event = none ∧
      ∀ ordinal, redelivers plannedAttempt ordinal record.event = false := by
    unfold settlesCommand at settles
    split at settles
    · next event shown => rw [shown]; exact ⟨rfl, fun _ => rfl⟩
    · next event shown => rw [shown]; exact ⟨rfl, fun _ => rfl⟩
    · cases settles
  obtain ⟨intended, outstanding⟩ := ((Presents.raw before).latestUnsettled_eq_some ordered
    fun other member => correlated other (List.mem_append_left _ member)).mp unanswered
  rw [← Option.not_isSome_iff_eq_none]
  intro still
  obtain ⟨command', still⟩ := Option.isSome_iff_exists.mp still
  obtain ⟨intended', outstanding'⟩ :=
    ((Presents.raw _).latestUnsettled_eq_some increasing correlated).mp still
  have inside : intended' ∈ before := by
    rcases Log.mem_concat.mp outstanding'.member with inside | here
    · exact inside
    · have intends := outstanding'.intends
      rw [here, unintended.1] at intends
      cases intends
  have same := ordered.eq_of_position inside outstanding.member
    (Nat.le_antisymm
      (outstanding.latest intended' inside (by rw [outstanding'.intends]; rfl))
      (outstanding'.latest intended (List.mem_append_left _ outstanding.member)
        (by rw [outstanding.intends]; rfl)))
  have named := outstanding'.intends
  rw [same, outstanding.intends, Option.some.injEq] at named
  subst named
  obtain ⟨delivery, listed, redelivered, reaches⟩ := outstanding'.unanswered record (by simp) settles
    (earlier intended' inside)
  rcases Log.mem_concat.mp listed with inside | here
  · exact absurd reaches (Nat.not_le.mpr (earlier delivery inside))
  · rw [here, unintended.2] at redelivered
    cases redelivered

end

section

variable {before : List JournalRecord} {record : JournalRecord} {indexes next : ExecutorIndexes}
  {plannedAttempt : PlannedTaskAttempt}

theorem ExecutorTracks.frame (tracks : ExecutorTracks before indexes)
    (responsibilities :
      next.executorResponsibilitiesBegan = indexes.executorResponsibilitiesBegan)
    (counts : ∀ attemptId, indexes.commandCount attemptId .begin ≤ next.commandCount attemptId .begin)
    (commanded : ∀ event, record.event = .plannedAttemptExecutorCommandIntended event →
      indexes.responsibleFor event.plannedAttempt = true)
    (begun : ∀ attemptId, beginsAttempt attemptId record.event = true →
      0 < next.commandCount attemptId .begin)
    (unsettled : ∀ plannedAttempt, indexes.responsibleFor plannedAttempt = true →
      next.unsettledExecutorCommands.lookup plannedAttempt.attemptId =
        (unsettledCommand (before ++ [record]) plannedAttempt).map (·.ordinal))
    (idle : ∀ attemptId, indexes.executorResponsibilitiesBegan.lookup attemptId = none →
      next.unsettledExecutorCommands.lookup attemptId = none) :
    ExecutorTracks (before ++ [record]) next where
  responsible attemptId responsibility known := by
    rw [responsibilities] at known
    exact tracks.responsible attemptId responsibility known
  planned attemptId responsibility known := by
    rw [responsibilities] at known
    obtain ⟨plan, member, recorded⟩ := tracks.planned attemptId responsibility known
    exact ⟨plan, List.mem_append_left _ member, recorded⟩
  commanded other member event intended := by
    rw [ExecutorIndexes.responsibleFor, responsibilities]
    rcases Log.mem_concat.mp member with inside | here
    · exact tracks.commanded other inside event intended
    · rw [here] at intended
      exact commanded event intended
  begun other member attemptId begins := by
    rcases Log.mem_concat.mp member with inside | here
    · exact Nat.lt_of_lt_of_le (tracks.begun other inside attemptId begins) (counts attemptId)
    · rw [here] at begins
      exact begun attemptId begins
  unsettled attemptId responsibility known := by
    rw [responsibilities] at known
    have own := tracks.responsible attemptId responsibility known
    rw [← own] at known ⊢
    exact unsettled _ (responsibleFor_iff.mpr ⟨responsibility, known, rfl⟩)
  idle attemptId unknown := by
    rw [responsibilities] at unknown
    exact idle attemptId unknown

variable (increasing : InOrder (before ++ [record]))
  (correlated : ∀ earlier ∈ before ++ [record], Correlated earlier)
include increasing correlated

variable (tracks : ExecutorTracks before indexes)
include tracks

theorem ExecutorTracks.keep (idle : ∀ plannedAttempt, IdleAbout plannedAttempt record)
    (responsibilities :
      next.executorResponsibilitiesBegan = indexes.executorResponsibilitiesBegan)
    (counts : ∀ attemptId, indexes.commandCount attemptId .begin = next.commandCount attemptId .begin)
    (unsettled : next.unsettledExecutorCommands = indexes.unsettledExecutorCommands) :
    ExecutorTracks (before ++ [record]) next := by
  have other : ∀ event, record.event ≠ .plannedAttemptExecutorCommandIntended event := by
    intro event intended
    have unintended := (idle event.plannedAttempt).unintended
    simp [intended, commandIntended?] at unintended
  refine tracks.frame responsibilities (fun attemptId => Nat.le_of_eq (counts attemptId))
    (fun event intended => absurd intended (other event)) ?_ ?_ ?_
  · intro attemptId begins
    unfold beginsAttempt at begins
    split at begins
    · next event intended => exact absurd intended (other event)
    · cases begins
  · intro plannedAttempt responsible
    rw [unsettled, tracks.unsettled_of_responsible responsible,
      unsettledCommand_of_idle increasing correlated (idle plannedAttempt)]
  · intro attemptId unknown
    rw [unsettled]
    exact tracks.idle attemptId unknown

theorem ExecutorTracks.advance
    (executor : record.event.executorCorrelation? =
      some (plannedAttemptExecutorCorrelation plannedAttempt))
    (responsible : indexes.responsibleFor plannedAttempt = true)
    (responsibilities :
      next.executorResponsibilitiesBegan = indexes.executorResponsibilitiesBegan)
    (counts : ∀ attemptId, indexes.commandCount attemptId .begin ≤ next.commandCount attemptId .begin)
    (commanded : ∀ event, record.event = .plannedAttemptExecutorCommandIntended event →
      event.plannedAttempt = plannedAttempt)
    (begun : ∀ attemptId, beginsAttempt attemptId record.event = true →
      0 < next.commandCount attemptId .begin)
    (own : next.unsettledExecutorCommands.lookup plannedAttempt.attemptId =
      (unsettledCommand (before ++ [record]) plannedAttempt).map (·.ordinal))
    (others : ∀ attemptId, attemptId ≠ plannedAttempt.attemptId →
      next.unsettledExecutorCommands.lookup attemptId =
        indexes.unsettledExecutorCommands.lookup attemptId) :
    ExecutorTracks (before ++ [record]) next := by
  obtain ⟨responsibility, known, plan⟩ := responsibleFor_iff.mp responsible
  refine tracks.frame responsibilities counts (fun event intended => ?_) begun ?_ ?_
  · rw [commanded event intended]
    exact responsible
  · intro other also
    by_cases same : other.attemptId = plannedAttempt.attemptId
    · obtain ⟨responsibility', known', plan'⟩ := responsibleFor_iff.mp also
      rw [same, known, Option.some.injEq] at known'
      rw [← plan', ← known', plan]
      exact own
    · have apart : concernsAttempt other.attemptId record = false := by
        rw [Bool.eq_false_iff, ne_eq, concernsAttempt_iff]
        rintro ⟨correlation, shown, concerned⟩
        rw [executor, Option.some.injEq] at shown
        subst shown
        exact same concerned.symm
      rw [others _ same, tracks.unsettled_of_responsible also,
        unsettledCommand_of_idle increasing correlated
          (idleAbout_of_other (correlated record (by simp)) apart)]
  · intro attemptId unknown
    have apart : attemptId ≠ plannedAttempt.attemptId := by
      rintro rfl
      rw [known] at unknown
      cases unknown
    rw [others attemptId apart]
    exact tracks.idle attemptId unknown

theorem ExecutorTracks.begin
    (executor : record.event = .plannedAttemptExecutorWorkResponsibilityBegan plannedAttempt)
    (fresh : indexes.executorResponsibilitiesBegan.lookup plannedAttempt.attemptId = none)
    (planned : Planned (before ++ [record]) plannedAttempt) {position : JournalPosition} :
    ExecutorTracks (before ++ [record])
      { indexes with
        executorResponsibilitiesBegan := indexes.executorResponsibilitiesBegan.insert
          plannedAttempt.attemptId ⟨plannedAttempt, position⟩ } := by
  have idle : ∀ other, IdleAbout other record := fun other =>
    ⟨by rw [executor]; rfl, fun _ => by rw [executor]; rfl, fun _ => by rw [executor]; rfl⟩
  constructor
  · intro attemptId responsibility known
    rw [KeyedMap.lookup_insert_eq_ite] at known
    split at known
    · next same => rw [← Option.some.inj known, same]
    · exact tracks.responsible attemptId responsibility known
  · intro attemptId responsibility known
    rw [KeyedMap.lookup_insert_eq_ite] at known
    split at known
    · rw [← Option.some.inj known]
      exact planned
    · obtain ⟨plan, member, recorded⟩ := tracks.planned attemptId responsibility known
      exact ⟨plan, List.mem_append_left _ member, recorded⟩
  · intro earlier member event intended
    rcases Log.mem_concat.mp member with inside | here
    · rw [ExecutorIndexes.responsibleFor, KeyedMap.lookup_insert_eq_ite,
        if_neg (tracks.uncommanded fresh inside intended)]
      exact tracks.commanded earlier inside event intended
    · rw [here, executor] at intended
      cases intended
  · intro earlier member attemptId begins
    rcases Log.mem_concat.mp member with inside | here
    · exact tracks.begun earlier inside attemptId begins
    · rw [here, executor] at begins
      cases begins
  · intro attemptId responsibility known
    rw [KeyedMap.lookup_insert_eq_ite] at known
    rw [unsettledCommand_of_idle increasing correlated (idle _)]
    split at known
    · next same =>
        cases known
        rw [same, tracks.idle _ fresh, eq_comm, Option.map_eq_none_iff]
        exact tracks.unsettled_eq_none (List.pairwise_append.mp increasing).1
          (fun other member => correlated other (List.mem_append_left _ member)) fresh
    · exact tracks.unsettled attemptId responsibility known
  · intro attemptId unknown
    rw [KeyedMap.lookup_insert_eq_ite] at unknown
    split at unknown
    · cases unknown
    · exact tracks.idle attemptId unknown

end

end Dalph
