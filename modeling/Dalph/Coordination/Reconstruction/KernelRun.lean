import Dalph.Coordination.Reconstruction.UnsettledCommands

/-!
# Runs of the kernel

Every record that the kernel accepts keeps its executor facts true of the records read, so they are
true behind a whole history that it says nothing against.
-/

namespace Dalph

section

variable {runId : RunId} {source : JournalHistorySource} {before : List JournalRecord}
  {record : JournalRecord} {indexes : ExecutorIndexes} {plannedAttempt : PlannedTaskAttempt}
  {plans : KeyedMap AttemptId PlannedTaskAttempt}

theorem commandCount_insert (attemptId counted : AttemptId) (command : PlannedAttemptExecutorCommand) :
    ((indexes.executorCommandCountsSinceSafeSuspension.insert (counted, command)
      (indexes.commandCount counted command + 1)).lookup (attemptId, .begin)).getD 0 =
        if attemptId = counted ∧ command = .begin then indexes.commandCount attemptId .begin + 1
        else indexes.commandCount attemptId .begin := by
  rw [KeyedMap.lookup_insert_eq_ite]
  by_cases same : attemptId = counted ∧ command = .begin
  · obtain ⟨rfl, rfl⟩ := same
    simp
  · have apart : ¬ (attemptId, PlannedAttemptExecutorCommand.begin) = (counted, command) := by
      rintro ⟨rfl, rfl⟩
      exact same ⟨rfl, rfl⟩
    rw [if_neg apart, if_neg same]
    rfl

variable (increasing : InOrder (before ++ [record]))
  (correlated : ∀ earlier ∈ before ++ [record], Correlated earlier)
include increasing correlated

variable (tracks : ExecutorTracks before indexes)
include tracks

theorem ExecutorTracks.command {event : PlannedAttemptExecutorCommandIntended}
    (intended : record.event = .plannedAttemptExecutorCommandIntended event)
    (accepted : (validateExecutorCommandIntent event record source indexes).issues = []) :
    ExecutorTracks (before ++ [record])
      (validateExecutorCommandIntent event record source indexes).indexes := by
  have responsible : indexes.responsibleFor event.plannedAttempt = true := by
    simp only [validateExecutorCommandIntent, List.append_eq_nil_iff, issueUnless_eq_nil] at accepted
    exact accepted.1.1.1.1.1
  have counted : ∀ attemptId,
      (validateExecutorCommandIntent event record source indexes).indexes.commandCount attemptId
        .begin = if attemptId = event.plannedAttempt.attemptId ∧ event.command = .begin then
          indexes.commandCount attemptId .begin + 1 else indexes.commandCount attemptId .begin :=
    fun attemptId => commandCount_insert attemptId _ _
  have executor : record.event.executorCorrelation? =
      some (plannedAttemptExecutorCorrelation event.plannedAttempt) := by
    rw [intended]
    rfl
  refine tracks.advance increasing correlated executor responsible rfl (fun attemptId => ?_)
    (fun other shown => ?_) (fun attemptId begins => ?_) ?_ (fun attemptId other => ?_)
  · rw [counted]
    split
    · exact Nat.le_succ _
    · exact Nat.le_refl _
  · rw [intended] at shown
    cases shown
    rfl
  · rw [intended, beginsAttempt, Bool.and_eq_true, decide_eq_true_eq, decide_eq_true_eq] at begins
    rw [counted, if_pos ⟨begins.2.symm, begins.1⟩]
    exact Nat.succ_pos _
  · have own : commandIntended? event.plannedAttempt record.event = some event := by
      simp [intended, commandIntended?]
    rw [unsettledCommand_of_intended increasing correlated own]
    simp [validateExecutorCommandIntent]
  · simp [validateExecutorCommandIntent, other]

theorem ExecutorTracks.redelivery (lawful : Log.Justified (ExecutorLaw runId) before)
    {event : PlannedAttemptExecutorResumeRedeliveryIntended}
    (redelivered : record.event = .plannedAttemptExecutorResumeRedeliveryIntended event)
    {intended : JournalRecord} {resume : PlannedAttemptExecutorCommandIntended}
    (law : RedeliveryLaw before event.plannedAttempt event.basis intended resume) :
    ExecutorTracks (before ++ [record])
      (validateExecutorResumeRedeliveryIntent event record source indexes).indexes := by
  have ordered : InOrder before := (List.pairwise_append.mp increasing).1
  obtain ⟨shown, samePlan, _⟩ := concernsAttempt_of_exactCommand law.intends
  have responsible : indexes.responsibleFor event.plannedAttempt = true := by
    rw [← samePlan]
    exact tracks.commanded intended law.member resume shown
  have owed : unsettledCommand (before ++ [record]) event.plannedAttempt = some resume := by
    refine unsettledCommand_of_redelivered increasing correlated law.member ?_ ?_ ?_
    · simp [shown, commandIntended?, samePlan]
    · intro other member also
      refine law.latest ordered lawful other member ?_
      obtain ⟨command, also⟩ := Option.isSome_iff_exists.mp also
      obtain ⟨intends, _, same⟩ := commandIntended?_eq_some.mp also
      have one := tracks.samePlan member intends responsible same
      simp [intends, exactCommandIntended?, plannedTaskAttemptEquivalence, one]
    · have ordinal := law.named
      simp [redelivered, redelivers, plannedTaskAttemptEquivalence, ordinal,
        PlannedAttemptExecutorResumeRedeliveryIntended.basis]
  have executor : record.event.executorCorrelation? =
      some (plannedAttemptExecutorCorrelation event.plannedAttempt) := by
    rw [redelivered]
    rfl
  refine tracks.advance increasing correlated executor responsible rfl
    (fun attemptId => Nat.le_refl _) (fun other intends => ?_) (fun attemptId begins => ?_) ?_
    (fun attemptId other => ?_)
  · rw [redelivered] at intends
    cases intends
  · rw [redelivered] at begins
    cases begins
  · rw [owed]
    have ordinal : event.commandOrdinal = resume.ordinal := law.named.symm
    simp [validateExecutorResumeRedeliveryIntent, ordinal]
  · simp [validateExecutorResumeRedeliveryIntent, other]

theorem ExecutorTracks.answer {ordinal : Nat} {next : ExecutorIndexes}
    (executor : record.event.executorCorrelation? =
      some (plannedAttemptExecutorCorrelation plannedAttempt))
    (responsible : indexes.responsibleFor plannedAttempt = true)
    (owed : indexes.unsettledExecutorCommands.lookup plannedAttempt.attemptId = some ordinal)
    (settles : settlesCommand plannedAttempt ordinal record.event = true)
    (responsibilities :
      next.executorResponsibilitiesBegan = indexes.executorResponsibilitiesBegan)
    (counts : next.executorCommandCountsSinceSafeSuspension =
      indexes.executorCommandCountsSinceSafeSuspension)
    (settled : next.unsettledExecutorCommands =
      indexes.unsettledExecutorCommands.erase plannedAttempt.attemptId) :
    ExecutorTracks (before ++ [record]) next := by
  rw [tracks.unsettled_of_responsible responsible] at owed
  obtain ⟨command, unanswered, rfl⟩ := Option.map_eq_some_iff.mp owed
  have uncommanded : ∀ event, record.event ≠ .plannedAttemptExecutorCommandIntended event := by
    intro event intended
    rw [intended] at settles
    cases settles
  refine tracks.advance increasing correlated executor responsible responsibilities
    (fun attemptId => ?_) (fun event intended => absurd intended (uncommanded event))
    (fun attemptId begins => ?_) ?_ (fun attemptId other => ?_)
  · rw [ExecutorIndexes.commandCount, ExecutorIndexes.commandCount, counts]
  · unfold beginsAttempt at begins
    split at begins
    · next event intended => exact absurd intended (uncommanded event)
    · cases begins
  · rw [unsettledCommand_of_answered increasing correlated unanswered settles, settled]
    simp
  · simp [settled, other]

/-- Behind an accepted projection the attempt owes nothing exactly where the report is exact. -/
theorem ExecutorTracks.projection {event : PlannedAttemptExecutorCommandProjectionObserved}
    (observed : record.event = .plannedAttemptExecutorCommandProjectionObserved event)
    (correlation : validateReportCorrelation record.event = [])
    (accepted : (validateCommandProjection event record source indexes).issues = []) :
    ExecutorTracks (before ++ [record])
      (validateCommandProjection event record source indexes).indexes := by
  simp only [validateCommandProjection, List.append_eq_nil_iff] at accepted
  obtain ⟨responsible, owed⟩ := validateNamedCommand_eq_nil accepted.1.1
  have idle (inexact : ∀ report, event.observation ≠ .exactExecutorReport report) :
      ∀ other, IdleAbout other record := by
    refine fun other => ⟨by rw [observed]; rfl, fun _ => by rw [observed]; rfl, fun ordinal => ?_⟩
    rw [observed, settlesCommand, Bool.and_eq_false_iff]
    refine .inr ?_
    split
    · next report exact_ => exact absurd exact_ (inexact report)
    · rfl
  have kept (inexact : ∀ report, event.observation ≠ .exactExecutorReport report) :
      ∀ next : ExecutorIndexes,
        next.executorResponsibilitiesBegan = indexes.executorResponsibilitiesBegan →
        next.executorCommandCountsSinceSafeSuspension =
          indexes.executorCommandCountsSinceSafeSuspension →
        next.unsettledExecutorCommands = indexes.unsettledExecutorCommands →
          ExecutorTracks (before ++ [record]) next := by
    intro next responsibilities counts unsettled
    exact tracks.keep increasing correlated (idle inexact) responsibilities
      (fun attemptId => by rw [ExecutorIndexes.commandCount, ExecutorIndexes.commandCount, counts])
      unsettled
  unfold validateCommandProjection
  cases shown : event.observation with
  | exactExecutorReport report =>
      rw [observed, validateReportCorrelation, shown] at correlation
      have exact_ := issueUnless_eq_nil.mp correlation
      have executor : record.event.executorCorrelation? =
          some (plannedAttemptExecutorCorrelation event.plannedAttempt) := by
        rw [observed]
        rfl
      refine tracks.answer increasing correlated executor responsible owed ?_ ?_ ?_ ?_
      · simp [observed, settlesCommand, shown, exact_]
      all_goals simp [exact_, ExecutorIndexes.settle]
  | _ => exact kept (by rw [shown]; intro report same; cases same) _ rfl rfl rfl

theorem ExecutorTracks.response {event : PlannedAttemptExecutorCommandResponseObserved}
    (observed : record.event = .plannedAttemptExecutorCommandResponseObserved event)
    (correlation : validateReportCorrelation record.event = [])
    (accepted : (validateCommandResponse event indexes).issues = []) :
    ExecutorTracks (before ++ [record]) (validateCommandResponse event indexes).indexes := by
  obtain ⟨responsible, owed⟩ := validateNamedCommand_eq_nil accepted
  rw [observed, validateReportCorrelation] at correlation
  have exact_ := issueUnless_eq_nil.mp correlation
  have executor : record.event.executorCorrelation? =
      some (plannedAttemptExecutorCorrelation event.plannedAttempt) := by
    rw [observed]
    rfl
  refine tracks.answer increasing correlated executor responsible owed ?_ ?_ ?_ ?_
  · simp [observed, settlesCommand, exact_]
  all_goals simp [validateCommandResponse, exact_, ExecutorIndexes.settle]

theorem ExecutorTracks.report {event : PlannedAttemptExecutorWorkReported}
    (reported : record.event = .plannedAttemptExecutorWorkReported event) :
    ExecutorTracks (before ++ [record])
      (validateExecutorWorkReport event record source indexes).indexes := by
  refine tracks.keep increasing correlated (fun other => ⟨by rw [reported]; rfl,
    fun _ => by rw [reported]; rfl, fun _ => by rw [reported]; rfl⟩) ?_ (fun attemptId => ?_) ?_
  · simp only [validateExecutorWorkReport, recordExecutorWorkReportOutcome]
    split <;> rfl
  · simp only [validateExecutorWorkReport, recordExecutorWorkReportOutcome,
      ExecutorIndexes.commandCount]
    split
    · rfl
    · simp
    · rfl
  · simp only [validateExecutorWorkReport, recordExecutorWorkReportOutcome]
    split <;> rfl

theorem ExecutorTracks.step (lawful : Log.Justified (ExecutorLaw runId) before)
    (law : ExecutorLaw runId before record)
    (correlation : validateReportCorrelation record.event = [])
    (recorded : ∀ attemptId plan, plans.lookup attemptId = some plan →
      Planned (before ++ [record]) plan)
    (accepted : (validateExecutorWork record source plans indexes).issues = []) :
    ExecutorTracks (before ++ [record])
      (validateExecutorWork record source plans indexes).indexes := by
  have kept (idle : ∀ other, IdleAbout other record) : ExecutorTracks (before ++ [record]) indexes :=
    tracks.keep increasing correlated idle rfl (fun _ => rfl) rfl
  unfold validateExecutorWork at accepted ⊢
  split at accepted
  · next began shown =>
      cases known : indexes.executorResponsibilitiesBegan.lookup began.attemptId with
      | some prior => simp [validateResponsibilityBegan, known] at accepted
      | none =>
          simp only [validateResponsibilityBegan, known, issueUnless_eq_nil] at accepted ⊢
          obtain ⟨plan, planned, same⟩ := Option.any_eq_true _ _ |>.mp accepted
          obtain rfl : plan = began := of_decide_eq_true same
          exact tracks.begin increasing correlated shown known (recorded _ _ planned)
  · next event shown => exact tracks.command increasing correlated shown accepted
  · next event shown =>
      obtain ⟨intended, resume, redelivers⟩ := law.redelivered event shown
      exact tracks.redelivery increasing correlated lawful shown redelivers
  · next event shown => exact tracks.projection increasing correlated shown correlation accepted
  · next event shown => exact tracks.response increasing correlated shown correlation accepted
  · next event shown =>
      exact kept fun other =>
        ⟨by rw [shown]; rfl, fun _ => by rw [shown]; rfl, fun _ => by rw [shown]; rfl⟩
  · next event shown =>
      exact tracks.keep increasing correlated (fun other =>
        ⟨by rw [shown]; rfl, fun _ => by rw [shown]; rfl, fun _ => by rw [shown]; rfl⟩)
        rfl (fun _ => rfl) rfl
  · next event shown => exact tracks.report increasing correlated shown
  · next unintended redelivered projected responded _ _ _ =>
      refine kept fun other => ⟨?_, fun ordinal => ?_, fun ordinal => ?_⟩
      · unfold commandIntended?
        split
        · next event shown => exact absurd shown (unintended event)
        · rfl
      · unfold redelivers
        split
        · next event shown => exact absurd shown (redelivered event)
        · rfl
      · unfold settlesCommand
        split
        · next event shown => exact absurd shown (responded event)
        · next event shown => exact absurd shown (projected event)
        · rfl

end

section

variable {replay : HistoryReplay} {runId : RunId} {records before after : List JournalRecord}
  {index : Nat} {indexes : KernelIndexes}

theorem replayKernelFrom_append :
    replayKernelFrom replay runId records index (before ++ after) indexes =
      { indexes := (replayKernelFrom replay runId records (index + before.length) after
          (replayKernelFrom replay runId records index before indexes).indexes).indexes
        issues := (replayKernelFrom replay runId records index before indexes).issues ++
          (replayKernelFrom replay runId records (index + before.length) after
            (replayKernelFrom replay runId records index before indexes).indexes).issues } := by
  induction before generalizing index indexes with
  | nil => simp [replayKernelFrom]
  | cons first before induction =>
      simp only [List.cons_append, replayKernelFrom, induction, List.length_cons, List.append_assoc]
      rw [show index + 1 + before.length = index + (before.length + 1) by omega]

end

/-- What is true behind records that the kernel said nothing against. -/
structure KernelTracks (runId : RunId) (before : List JournalRecord) (indexes : KernelIndexes) :
    Prop where
  canonical : Canonical runId before
  fold : Tracks before indexes.fold
  lawful : Log.Justified (ExecutorLaw runId) before
  executor : ExecutorTracks before indexes.executor

theorem kernelTracks_empty (runId : RunId) : KernelTracks runId [] emptyKernel :=
  ⟨canonical_nil runId, tracks_empty, Log.justified_nil, executorTracks_empty⟩

section

variable {replay : HistoryReplay} {runId : RunId} {source : JournalHistorySource}
  {before after : List JournalRecord} {record : JournalRecord} {indexes : KernelIndexes}

theorem validateKernelRecord_accepted {index : Nat}
    (accepted : (validateKernelRecord record index runId source indexes).issues = []) :
    RecordAccepted record index runId source indexes.fold ∧ validateExecutorRun record runId = [] ∧
      (validateExecutorWork record source (indexes.fold.advance record).plans
        indexes.executor).issues = [] ∧
        (validateKernelRecord record index runId source indexes).indexes =
          ⟨indexes.fold.advance record, (validateExecutorWork record source
            (indexes.fold.advance record).plans indexes.executor).indexes⟩ := by
  simp only [validateKernelRecord, List.append_eq_nil_iff] at accepted
  obtain ⟨⟨folded, owned⟩, worked⟩ := accepted
  have checked := (validateRecord_issues_eq_nil _ _ _ _ _).mp folded
  have fresh : executorChecked record indexes.fold.seenKeys = true := by
    have unseen := (validateRecordEnvelope_issues_eq_nil.mp checked.envelope).2.2.2
    simp [executorChecked, unseen]
  rw [if_pos fresh, checked.indexes_eq] at worked
  refine ⟨checked, owned, worked, ?_⟩
  simp only [validateKernelRecord, if_pos fresh, checked.indexes_eq]

theorem KernelTracks.step (tracks : KernelTracks runId before indexes)
    (presents : Presents (priorRecords record.position source) before)
    (accepted : (validateKernelRecord record before.length runId source indexes).issues = []) :
    KernelTracks runId (before ++ [record])
      (validateKernelRecord record before.length runId source indexes).indexes := by
  obtain ⟨checked, owned, worked, kept⟩ := validateKernelRecord_accepted accepted
  have canonical := tracks.canonical.concat tracks.fold checked.envelope
  have fold := tracks.fold.advance checked.plan
  have increasing := canonical.chronological.increasing
  have correlation := (List.append_eq_nil_iff.mp checked.executor).2
  have law := tracks.executor.executorLaw presents
    tracks.canonical.chronological.increasing tracks.lawful correlation owned worked
  have lawful : Log.Justified (ExecutorLaw runId) (before ++ [record]) :=
    Log.justified_concat.mpr ⟨tracks.lawful, law⟩
  rw [kept]
  refine ⟨canonical, fold, lawful, tracks.executor.step increasing
    (correlated_of_justified lawful) tracks.lawful law correlation (fun attemptId plan known => ?_)
    worked⟩
  obtain ⟨other, member, operation, recorded, same, _⟩ := (fold.plans attemptId plan).mp known
  exact ⟨other, member, operation, recorded, same⟩

theorem replayFrom_of_kernel {records : List JournalRecord} {index : Nat}
    (accepted : (replayKernelFrom replay runId records index after indexes).issues = []) :
    (replayFrom replay runId records index after indexes.fold).issues = [] := by
  induction after generalizing index indexes with
  | nil => rfl
  | cons record after induction =>
      simp only [replayKernelFrom, validateKernelRecord, List.append_eq_nil_iff] at accepted
      simp only [replayFrom, List.append_eq_nil_iff]
      exact ⟨accepted.1.1.1, induction accepted.2⟩

end

def KernelReplayed (replay : HistoryReplay) (runId : RunId) (records : List JournalRecord) : Prop :=
  (replayKernel replay runId records).issues = []

instance (replay : HistoryReplay) (runId : RunId) (records : List JournalRecord) :
    Decidable (KernelReplayed replay runId records) :=
  inferInstanceAs (Decidable ((replayKernel replay runId records).issues = []))

namespace KernelReplayed

variable {replay : HistoryReplay} {runId : RunId} {records before after : List JournalRecord}

theorem accepted (replayed : KernelReplayed replay runId records) :
    AcceptedHistory runId records := by
  have checked : ReplayedBy replay runId records := replayFrom_of_kernel replayed
  cases replay with
  | indexed => exact .inl checked
  | raw => exact .inr checked

theorem invariant {Holds : List JournalRecord → KernelIndexes → Prop} (start : Holds [] emptyKernel)
    (step : ∀ before record source indexes,
      Presents (priorRecords record.position source) before → Holds before indexes →
        (validateKernelRecord record before.length runId source indexes).issues = [] →
          Holds (before ++ [record])
            (validateKernelRecord record before.length runId source indexes).indexes)
    (replayed : KernelReplayed replay runId (before ++ after)) :
    Holds before (replayKernelFrom replay runId (before ++ after) 0 before emptyKernel).indexes := by
  have whole := replayed.accepted.canonical
  induction before using List.reverseRecOn generalizing after with
  | nil => exact start
  | append_singleton before record induction =>
      rw [List.append_assoc, List.singleton_append] at replayed whole ⊢
      have holds := induction replayed whole
      rw [KernelReplayed, replayKernel, replayKernelFrom_append] at replayed
      simp only [replayKernelFrom, List.append_eq_nil_iff, Nat.zero_add] at replayed
      simp only [replayKernelFrom_append, replayKernelFrom, Nat.zero_add]
      exact step before record _ _ (whole.presents_prior replay) holds replayed.2.1

theorem tracks_left (replayed : KernelReplayed replay runId (before ++ after)) :
    KernelTracks runId before
      (replayKernelFrom replay runId (before ++ after) 0 before emptyKernel).indexes :=
  replayed.invariant (kernelTracks_empty runId)
    fun _ _ _ _ presents tracks accepted => tracks.step presents accepted

theorem tracks (replayed : KernelReplayed replay runId records) :
    KernelTracks runId records (replayKernel replay runId records).indexes := by
  rw [← List.append_nil records] at replayed
  have left := replayed.tracks_left
  rwa [List.append_nil] at left

end KernelReplayed

section

variable {replay : HistoryReplay} {runId : RunId} {records : List JournalRecord}
  {source : JournalHistorySource}

/-- In every accepted history the kernel and a search of the records, in either form, agree on the
one command that an attempt's executor still owes an answer to. -/
theorem unsettledExecutorCommands_agree (replayed : KernelReplayed replay runId records)
    (presents : Presents source records) :
    (∀ plannedAttempt, Planned records plannedAttempt →
      (replayKernel replay runId records).indexes.executor.unsettledExecutorCommands.lookup
          plannedAttempt.attemptId =
        (latestUnsettledPlannedAttemptExecutorCommand source plannedAttempt).map (·.ordinal)) ∧
      ∀ plannedAttempt : PlannedTaskAttempt,
        (∀ planned, Planned records planned → planned.attemptId ≠ plannedAttempt.attemptId) →
          (replayKernel replay runId records).indexes.executor.unsettledExecutorCommands.lookup
              plannedAttempt.attemptId = none ∧
            latestUnsettledPlannedAttemptExecutorCommand source plannedAttempt = none := by
  have tracks := replayed.tracks
  have increasing := tracks.canonical.chronological.increasing
  have correlated := correlated_of_justified tracks.lawful
  have unowed : ∀ plannedAttempt : PlannedTaskAttempt,
      (replayKernel replay runId records).indexes.executor.executorResponsibilitiesBegan.lookup
        plannedAttempt.attemptId = none →
      (replayKernel replay runId records).indexes.executor.unsettledExecutorCommands.lookup
          plannedAttempt.attemptId = none ∧
        latestUnsettledPlannedAttemptExecutorCommand source plannedAttempt = none := by
    intro plannedAttempt unknown
    refine ⟨tracks.executor.idle _ unknown, ?_⟩
    rw [presents.latestUnsettled_eq increasing correlated]
    exact tracks.executor.unsettled_eq_none increasing correlated unknown
  refine ⟨fun plannedAttempt planned => ?_, fun plannedAttempt unplanned => ?_⟩
  · cases known : (replayKernel replay runId records).indexes.executor.executorResponsibilitiesBegan
        |>.lookup plannedAttempt.attemptId with
    | none =>
        obtain ⟨settled, unanswered⟩ := unowed _ known
        rw [settled, unanswered, Option.map_none]
    | some responsibility =>
        have own := tracks.executor.responsible _ _ known
        have one : plannedAttempt = responsibility.plannedAttempt :=
          tracks.fold.plan_unique planned (tracks.executor.planned _ _ known) own.symm
        rw [presents.latestUnsettled_eq increasing correlated,
          tracks.executor.unsettled _ _ known, one]
  · refine unowed plannedAttempt ?_
    rw [← Option.not_isSome_iff_eq_none]
    intro known
    obtain ⟨responsibility, known⟩ := Option.isSome_iff_exists.mp known
    exact unplanned _ (tracks.executor.planned _ _ known) (tracks.executor.responsible _ _ known)

end

namespace ResumedRun

open EstablishedRun

def records : List JournalRecord := recordsFrom (suspendedEvents ++ [command 3 .resume])

theorem planned : Planned records attempt :=
  ⟨records.get ⟨7, by decide⟩, List.get_mem _ _, _, rfl, rfl⟩

/-- The Resume is the command that is owed an answer. -/
theorem unsettledExecutorCommands_agree_resumed :
    (replayKernel .raw runId records).indexes.executor.unsettledExecutorCommands.lookup
        attempt.attemptId =
      (latestUnsettledPlannedAttemptExecutorCommand (.raw records) attempt).map (·.ordinal) ∧
    (latestUnsettledPlannedAttemptExecutorCommand (.raw records) attempt).map (·.ordinal) = some 3 :=
  ⟨(@unsettledExecutorCommands_agree .raw runId records (.raw records) (by decide +kernel)
    (.raw records)).1 attempt planned, by decide +kernel⟩

end ResumedRun

end Dalph
