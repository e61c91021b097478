import Dalph.Coordination.Reconstruction.AttemptChains
import Dalph.Coordination.Reconstruction.UnfinishedAttempts
import Dalph.WorkflowJournal.RetainedExecutorResponsibility

/-!
# Retained and unfinished responsibilities

The index of retained responsibilities and the kernel end them at the same records, except that only
the kernel ends the responsibility for a result that result recovery replaces.
-/

namespace Dalph

def releasedAttempt? (event : WorkflowJournalEvent) : Option AttemptId :=
  match changeFor event with
  | some (.release _ attemptId) => some attemptId
  | _ => none

def recordsUpTo (records : List JournalRecord) (cutoff : Int) : List JournalRecord :=
  records.filter fun record => (record.position : Int) ≤ cutoff

def kernelThrough (replay : HistoryReplay) (runId : RunId) (records : List JournalRecord)
    (cutoff : Int) : KernelIndexes :=
  (replayKernelFrom replay runId records 0 (recordsUpTo records cutoff) emptyKernel).indexes

/-- The executor's responsibility began and the kernel does not treat its attempt as finished. -/
def Unfinished (indexes : KernelIndexes) (subject : RetainedExecutorResponsibilitySubject) : Prop :=
  indexes.executor.executorResponsibilitiesBegan.lookup subject.plannedAttempt.attemptId =
      some ⟨subject.plannedAttempt, subject.beganAt⟩ ∧
    attemptIsFinished indexes subject.plannedAttempt.attemptId = false

def beganAttempt? : WorkflowJournalEvent → Option AttemptId
  | .plannedAttemptExecutorWorkResponsibilityBegan plannedAttempt => some plannedAttempt.attemptId
  | _ => none

def RecoveriesTerminal (records : List JournalRecord) : Prop :=
  ∀ record ∈ records, ∀ plannedAttempt, recoveredAttempt? record.event = some plannedAttempt →
    (∃ began ∈ records, beganAttempt? began.event = some plannedAttempt.attemptId) →
      ∃ reported ∈ records, terminatedAttempt? reported.event = some plannedAttempt.attemptId

section

variable {event : WorkflowJournalEvent} {attemptId : AttemptId} {plannedAttempt : PlannedTaskAttempt}

theorem changeFor_retain (changed : changeFor event = some (.retain plannedAttempt)) :
    event = .plannedAttemptExecutorWorkResponsibilityBegan plannedAttempt := by
  unfold changeFor at changed
  split at changed
  · rw [RetentionChange.retain.inj (Option.some.inj changed)]
  · cases Option.some.inj changed
  · cases Option.some.inj changed
  · split at changed
    · cases Option.some.inj changed
    · cases changed
  · cases changed

theorem finishesAttempt_iff :
    FinishesAttempt event attemptId ↔ releasedAttempt? event = some attemptId ∨
      (recoveredAttempt? event).map (·.attemptId) = some attemptId := by
  cases event with
  | plannedAttemptExecutorWorkReported event =>
      cases terminal : event.report.isTerminal <;>
        simp [FinishesAttempt, releasedAttempt?, changeFor, terminatedAttempt?, stoppedAttempt?,
          recoveredAttempt?, restartedAttempt?, terminal]
  | _ =>
      simp [FinishesAttempt, releasedAttempt?, changeFor, terminatedAttempt?, stoppedAttempt?,
        recoveredAttempt?, restartedAttempt?, RetentionChange.releasing]

theorem ended_of_released (released : releasedAttempt? event = some attemptId) :
    terminatedAttempt? event = some attemptId ∨
      (∃ plannedAttempt, endedAttempt? event = some plannedAttempt ∧
        plannedAttempt.attemptId = attemptId) ∧
        cancelledAttempt? event = none ∧ recoveredAttempt? event = none := by
  unfold releasedAttempt? changeFor at released
  cases event with
  | plannedAttemptReplaced event =>
      exact .inr ⟨⟨_, rfl, Option.some.inj released⟩, rfl, rfl⟩
  | attemptImplementationAbandoned event =>
      exact .inr ⟨⟨_, rfl, Option.some.inj released⟩, rfl, rfl⟩
  | plannedAttemptExecutorWorkReported event =>
      cases terminal : event.report.isTerminal with
      | true =>
          simp only [terminal, if_true] at released
          simp [terminatedAttempt?, terminal, Option.some.inj released]
      | false => simp [terminal] at released
  | _ => cases released

theorem ended_of_recovered (recovered : recoveredAttempt? event = some plannedAttempt) :
    endedAttempt? event = some plannedAttempt ∧ cancelledAttempt? event = none := by
  unfold recoveredAttempt? at recovered
  split at recovered
  · exact ⟨recovered, rfl⟩
  · cases recovered

end

/-- The retained subjects are the responsibilities that began and were not released. -/
structure RetentionTracks (runId : RunId) (before : List JournalRecord) (indexes : KernelIndexes) :
    Prop where
  subjects : ∀ attemptId subject,
    (retainedSubjects runId before).lookup attemptId = some subject ↔
      (∀ record ∈ before, releasedAttempt? record.event ≠ some attemptId) ∧
        indexes.executor.executorResponsibilitiesBegan.lookup attemptId =
          some ⟨subject.plannedAttempt, subject.beganAt⟩
  finished : ∀ attemptId, attemptIsFinished indexes attemptId = true ↔
    ∃ record ∈ before, FinishesAttempt record.event attemptId
  began : ∀ attemptId,
    (indexes.executor.executorResponsibilitiesBegan.lookup attemptId).isSome = true ↔
      ∃ record ∈ before, beganAttempt? record.event = some attemptId
  terminal : ∀ attemptId ∈ indexes.executor.terminalExecutorAttempts,
    (indexes.executor.executorResponsibilitiesBegan.lookup attemptId).isSome = true

theorem retentionTracks_empty (runId : RunId) : RetentionTracks runId [] emptyKernel where
  subjects attemptId subject := by simp [retainedSubjects, emptyKernel, ExecutorIndexes.empty]
  finished attemptId := by simp [attemptIsFinished, emptyKernel, ExecutorIndexes.empty, emptyIndexes]
  began attemptId := by simp [emptyKernel, ExecutorIndexes.empty]
  terminal attemptId member := by simp [emptyKernel, ExecutorIndexes.empty] at member

section

variable {runId : RunId} {source : JournalHistorySource} {before : List JournalRecord}
  {record : JournalRecord} {indexes : KernelIndexes} {index : Nat} {attemptId : AttemptId}

theorem runId_of_change {change : RetentionChange}
    (checked : RecordAccepted record index runId source indexes.fold)
    (owned : validateExecutorRun record runId = []) (changed : changeFor record.event = some change) :
    change.runId = runId := by
  unfold changeFor at changed
  split at changed
  · next plannedAttempt began =>
      rw [validateExecutorRun, began] at owned
      rw [← Option.some.inj changed]
      exact issueUnless_eq_nil.mp owned |> of_decide_eq_true
  · next event replaced =>
      have accepted := checked.replacement
      rw [← Option.some.inj changed]
      simp only [validatePlannedAttemptReplacement, replaced] at accepted
      split at accepted
      · simp at accepted
      · simp only [List.append_eq_nil_iff, issueUnless_eq_nil, Bool.and_eq_true,
          decide_eq_true_eq] at accepted
        exact accepted.1.1.1.1.2
  · next event stopped =>
      have accepted := checked.stop
      rw [← Option.some.inj changed]
      simp only [validateAttemptStop, stopped, validateStopEventAuthority, List.append_eq_nil_iff,
        issueUnless_eq_nil, Bool.and_eq_true, decide_eq_true_eq] at accepted
      exact accepted.1.1.2
  · next event reported =>
      rw [validateExecutorRun, reported] at owned
      split at changed
      · rw [← Option.some.inj changed]
        exact issueUnless_eq_nil.mp owned |> of_decide_eq_true
      · cases changed
  · cases changed

theorem unreleased_of_began {plannedAttempt : PlannedTaskAttempt}
    (tracks : RetentionTracks runId before indexes)
    (checked : RecordAccepted record index runId source indexes.fold)
    (began : record.event = .plannedAttemptExecutorWorkResponsibilityBegan plannedAttempt)
    (unknown : indexes.executor.executorResponsibilitiesBegan.lookup plannedAttempt.attemptId = none) :
    attemptIsFinished indexes plannedAttempt.attemptId = false := by
  have accepted := (List.append_eq_nil_iff.mp checked.executor).1
  rw [began] at accepted
  simp only [WorkflowJournalEvent.executorCorrelation?, List.append_eq_nil_iff,
    issueUnless_eq_nil, Bool.not_eq_true', decide_eq_false_iff_not] at accepted
  have unreported : ¬ plannedAttempt.attemptId ∈ indexes.executor.terminalExecutorAttempts := by
    intro terminal
    have known := tracks.terminal _ terminal
    rw [unknown] at known
    cases known
  simp only [attemptIsFinished, Bool.or_eq_false_iff, decide_eq_false_iff_not]
  exact ⟨⟨unreported, accepted.1⟩, accepted.2⟩

theorem began_of_terminated {plans : KeyedMap AttemptId PlannedTaskAttempt}
    (terminated : terminatedAttempt? record.event = some attemptId)
    (worked : (validateExecutorWork record source plans indexes.executor).issues = []) :
    (indexes.executor.executorResponsibilitiesBegan.lookup attemptId).isSome = true := by
  unfold terminatedAttempt? at terminated
  split at terminated
  · next event reported =>
      split at terminated
      · rw [validateExecutorWork, reported] at worked
        simp only [validateExecutorWorkReport, List.append_eq_nil_iff, issueUnless_eq_nil] at worked
        obtain ⟨responsibility, known, _⟩ := Option.any_eq_true _ _ |>.mp worked.1.1.1.1.1.1
        rw [← Option.some.inj terminated, known]
        rfl
      · cases terminated
  · cases terminated

theorem KernelStep.isSome_began {next : KernelIndexes} (step : KernelStep indexes next record) :
    (next.executor.executorResponsibilitiesBegan.lookup attemptId).isSome = true ↔
      (indexes.executor.executorResponsibilitiesBegan.lookup attemptId).isSome = true ∨
        beganAttempt? record.event = some attemptId := by
  by_cases begins : ∃ plannedAttempt,
      record.event = .plannedAttemptExecutorWorkResponsibilityBegan plannedAttempt
  · obtain ⟨plannedAttempt, began⟩ := begins
    rw [(step.begun plannedAttempt began).2, KeyedMap.lookup_insert_eq_ite, began, beganAttempt?]
    split
    · next same => simp [same]
    · next apart => simp [Ne.symm apart]
  · have unbegun : ∀ plannedAttempt,
        record.event ≠ .plannedAttemptExecutorWorkResponsibilityBegan plannedAttempt :=
      fun plannedAttempt began => begins ⟨plannedAttempt, began⟩
    have none_ : beganAttempt? record.event = none := by
      unfold beganAttempt?
      split
      · next plannedAttempt began => exact absurd began (unbegun plannedAttempt)
      · rfl
    rw [step.others unbegun, none_]
    simp

theorem RetentionTracks.step (tracks : RetentionTracks runId before indexes)
    (canonical : Canonical runId (before ++ [record]))
    (accepted : (validateKernelRecord record index runId source indexes).issues = []) :
    RetentionTracks runId (before ++ [record])
      (validateKernelRecord record index runId source indexes).indexes := by
  obtain ⟨checked, owned, worked, kept⟩ := validateKernelRecord_accepted accepted
  have step := kernelStep_of_accepted accepted
  generalize (validateKernelRecord record index runId source indexes).indexes = next at step kept ⊢
  have own : record.runId = runId := canonical.owned record (by simp)
  have released : ∀ attemptId,
      (∀ other ∈ before ++ [record], releasedAttempt? other.event ≠ some attemptId) ↔
        (∀ other ∈ before, releasedAttempt? other.event ≠ some attemptId) ∧
          releasedAttempt? record.event ≠ some attemptId := by
    intro attemptId
    simp [or_imp, forall_and]
  refine ⟨fun attemptId subject => ?_, fun attemptId => ?_, fun attemptId => ?_,
    fun attemptId member => ?_⟩
  · have before_ := tracks.subjects attemptId subject
    rw [retainedSubjects_concat, released, retainThrough, changeWithin]
    cases changed : changeFor record.event with
    | none =>
        have unbegun : ∀ plannedAttempt,
            record.event ≠ .plannedAttemptExecutorWorkResponsibilityBegan plannedAttempt := by
          intro plannedAttempt began
          simp [began, changeFor] at changed
        simp [releasedAttempt?, changed, step.others unbegun, before_]
    | some change =>
        have about := runId_of_change checked owned changed
        rw [Option.filter_some, own, about, if_pos (by simp), Option.bind_some]
        cases change with
        | retain plannedAttempt =>
            have began := changeFor_retain changed
            obtain ⟨unknown, inserted⟩ := step.begun plannedAttempt began
            have unfinished := unreleased_of_began tracks checked began unknown
            have releasing : releasedAttempt? record.event = none := by
              rw [releasedAttempt?, changed]
            simp only [applyRetentionChange, Option.getD_some, KeyedMap.lookup_set, inserted,
              KeyedMap.lookup_insert_eq_ite, releasing, ne_eq, reduceCtorEq, not_false_eq_true,
              and_true]
            split
            · next same =>
                subst same
                have unreleased : ∀ other ∈ before,
                    releasedAttempt? other.event ≠ some plannedAttempt.attemptId := by
                  intro other member releases
                  have finished := (tracks.finished _).mpr
                    ⟨other, member, finishesAttempt_iff.mpr (.inl releases)⟩
                  rw [unfinished] at finished
                  cases finished
                rw [and_iff_right unreleased]
                obtain ⟨plan, position⟩ := subject
                simp
            · exact before_
        | release runId' attemptId' =>
            have unbegun : ∀ plannedAttempt,
                record.event ≠ .plannedAttemptExecutorWorkResponsibilityBegan plannedAttempt := by
              intro plannedAttempt began
              simp [began, changeFor] at changed
            have kept_ : ((applyRetentionChange (retainedSubjects runId before)
                (.release runId' attemptId') record.position).getD
                  (retainedSubjects runId before)).lookup attemptId =
                if attemptId = attemptId' then none
                else (retainedSubjects runId before).lookup attemptId := by
              rw [applyRetentionChange]
              split
              · rw [Option.getD_some, KeyedMap.lookup_erase_eq_ite]
              · next absent =>
                  rw [Bool.not_eq_true, Option.isSome_eq_false_iff, Option.isNone_iff_eq_none]
                    at absent
                  rw [Option.getD_none]
                  split
                  · next same => rw [same, absent]
                  · rfl
            rw [kept_, step.others unbegun]
            have releasing : releasedAttempt? record.event = some attemptId' := by
              rw [releasedAttempt?, changed]
            rw [releasing]
            split
            · next same => simp [same]
            · next apart => simp [before_, Ne.symm apart]
  · rw [step.finished, tracks.finished]
    simp [or_and_right, exists_or]
  · rw [step.isSome_began, tracks.began]
    simp [or_and_right, exists_or]
  · have terminated : attemptId ∈ indexes.executor.terminalExecutorAttempts ∨
        terminatedAttempt? record.event = some attemptId := by
      rw [kept] at member
      exact mem_terminal_validateExecutorWork.mp member
    exact step.isSome_began.mpr (.inl (terminated.elim (tracks.terminal attemptId) fun terminated =>
      began_of_terminated terminated worked))

end

section

variable {replay : HistoryReplay} {runId : RunId} {records : List JournalRecord}

theorem KernelReplayed.retention (replayed : KernelReplayed replay runId records) (cutoff : Int) :
    KernelTracks runId (recordsUpTo records cutoff) (kernelThrough replay runId records cutoff) ∧
      RetentionTracks runId (recordsUpTo records cutoff)
        (kernelThrough replay runId records cutoff) := by
  obtain ⟨later, split⟩ :=
    replayed.accepted.canonical.chronological.increasing.exists_filter_append cutoff
  have whole : records = recordsUpTo records cutoff ++ later := split
  have shown : kernelThrough replay runId records cutoff =
      (replayKernelFrom replay runId (recordsUpTo records cutoff ++ later) 0
        (recordsUpTo records cutoff) emptyKernel).indexes := by
    rw [kernelThrough, ← whole]
  rw [shown]
  rw [whole] at replayed
  refine @KernelReplayed.invariant replay runId _ later
    (fun before indexes => KernelTracks runId before indexes ∧ RetentionTracks runId before indexes)
    ⟨kernelTracks_empty runId, retentionTracks_empty runId⟩ ?_ replayed
  intro before record source indexes presents holds accepted
  have tracks := holds.1.step presents accepted
  exact ⟨tracks, holds.2.step tracks.canonical accepted⟩

theorem terminated_of_recovered_released (replayed : KernelReplayed replay runId records)
    {recovered released : JournalRecord} {plannedAttempt : PlannedTaskAttempt}
    (here : recovered ∈ records) (there : released ∈ records)
    (recovers : recoveredAttempt? recovered.event = some plannedAttempt)
    (releases : releasedAttempt? released.event = some plannedAttempt.attemptId) :
    terminatedAttempt? released.event = some plannedAttempt.attemptId := by
  rcases ended_of_released releases with terminated | ⟨⟨other, ended, same⟩, uncancelled, unrecovered⟩
  · exact terminated
  · have checked : ReplayedBy replay runId records := replayFrom_of_kernel replayed
    have canonical := replayed.accepted.canonical
    obtain ⟨ended', uncancelled'⟩ := ended_of_recovered recovers
    have differ : recovered ≠ released := by
      rintro rfl
      rw [recovers] at unrecovered
      cases unrecovered
    have overlooked : Overlooked recovered.event released.event ∨
        Overlooked released.event recovered.event := by
      rcases precedes_or_precedes here there differ with order | order
      · exact checked.overlooked_of_precedes canonical order ended' ended same.symm
      · exact (checked.overlooked_of_precedes canonical order ended ended' same).symm
    simp [Overlooked, uncancelled, uncancelled'] at overlooked

/-- At a cutoff the retained responsibilities are exactly those that the kernel knows as unfinished
where every begun attempt that result recovery replaced by then had a terminal report. -/
theorem retainedResponsibilities_unfinished_iff (replayed : KernelReplayed replay runId records)
    (cutoff : Int) :
    (∀ subject, subject ∈ retainedExecutorResponsibilitySubjectsAt
        (retainedExecutorResponsibilityFrom records) runId cutoff ↔
          Unfinished (kernelThrough replay runId records cutoff) subject) ↔
      RecoveriesTerminal (recordsUpTo records cutoff) := by
  obtain ⟨kernel, retention⟩ := replayed.retention cutoff
  generalize kernelThrough replay runId records cutoff = indexes at kernel retention ⊢
  have listed : ∀ subject, subject ∈ retainedExecutorResponsibilitySubjectsAt
      (retainedExecutorResponsibilityFrom records) runId cutoff ↔
        (∀ record ∈ recordsUpTo records cutoff,
          releasedAttempt? record.event ≠ some subject.plannedAttempt.attemptId) ∧
          indexes.executor.executorResponsibilitiesBegan.lookup subject.plannedAttempt.attemptId =
            some ⟨subject.plannedAttempt, subject.beganAt⟩ := by
    intro subject
    rw [mem_retainedExecutorResponsibilitySubjectsAt
      replayed.accepted.canonical.chronological.increasing fun attemptId subject found =>
        kernel.executor.responsible _ _ ((retention.subjects attemptId subject).mp found).2]
    exact retention.subjects subject.plannedAttempt.attemptId subject
  constructor
  · intro same record member plannedAttempt recovered began
    have whole : ∀ other ∈ recordsUpTo records cutoff, other ∈ records :=
      fun other member => List.mem_of_mem_filter member
    obtain ⟨⟨plan, position⟩, known⟩ :=
      Option.isSome_iff_exists.mp ((retention.began plannedAttempt.attemptId).mpr began)
    have plans : plan.attemptId = plannedAttempt.attemptId := kernel.executor.responsible _ _ known
    by_contra running
    have unreleased : ∀ other ∈ recordsUpTo records cutoff,
        releasedAttempt? other.event ≠ some plan.attemptId := by
      intro other found releases
      rw [plans] at releases
      exact running ⟨other, found, terminated_of_recovered_released replayed (whole record member)
        (whole other found) recovered releases⟩
    have unfinished : attemptIsFinished indexes plan.attemptId = false :=
      ((same ⟨plan, position⟩).mp ((listed ⟨plan, position⟩).mpr ⟨unreleased, plans ▸ known⟩)).2
    have finished : attemptIsFinished indexes plan.attemptId = true := by
      rw [plans, retention.finished]
      exact ⟨record, member, finishesAttempt_iff.mpr (.inr (by rw [recovered]; rfl))⟩
    rw [unfinished] at finished
    cases finished
  · intro terminal subject
    rw [listed, Unfinished, and_comm]
    refine and_congr_right fun known => ?_
    rw [Bool.eq_false_iff, ne_eq, retention.finished]
    constructor
    · rintro unreleased ⟨record, member, finishes⟩
      rcases finishesAttempt_iff.mp finishes with releases | recovers
      · exact unreleased record member releases
      · obtain ⟨plannedAttempt, recovered, same⟩ := Option.map_eq_some_iff.mp recovers
        have began := (retention.began subject.plannedAttempt.attemptId).mp (by rw [known]; rfl)
        rw [← same] at began
        obtain ⟨reported, found, terminated⟩ := terminal record member plannedAttempt recovered began
        refine unreleased reported found ?_
        rw [← same]
        unfold terminatedAttempt? at terminated
        split at terminated
        · next event shown =>
            split at terminated
            · next ended => rw [releasedAttempt?, shown, changeFor, if_pos ended, ← terminated]
            · cases terminated
        · cases terminated
    · intro unfinished record member releases
      exact unfinished ⟨record, member, finishesAttempt_iff.mpr (.inl releases)⟩

end

namespace RecoveredRun

open EstablishedRun

theorem retainedResponsibilities_unfinished_executing :
    RecoveriesTerminal (recordsUpTo (recordsFrom events) 14) ∧
      ∀ subject, subject ∈ retainedExecutorResponsibilitySubjectsAt
          (retainedExecutorResponsibilityFrom (recordsFrom events)) runId 14 ↔
        Unfinished (kernelThrough .raw runId (recordsFrom events) 14) subject := by
  have unrecovered : ∀ record ∈ recordsUpTo (recordsFrom events) 14,
      recoveredAttempt? record.event = none := by decide
  have terminal : RecoveriesTerminal (recordsUpTo (recordsFrom events) 14) := by
    intro record member plannedAttempt recovered
    rw [unrecovered record member] at recovered
    cases recovered
  exact ⟨terminal, (@retainedResponsibilities_unfinished_iff .raw runId (recordsFrom events)
    (by decide +kernel) 14).mpr terminal⟩

def restartGraph : ReadTrackerGraphOperation :=
  ⟨.attemptRestartAuthorityCheck, ⟨"restart-graph"⟩, [⟨"plan"⟩], [task], target⟩

def restartEvidence : CompleteFactEvidence :=
  ⟨⟨"graph-revision"⟩, ⟨[task], target⟩, restartGraph.operationId⟩

def restartFacts : CompleteTaskTrackerFactsObserved where
  factFamilies :=
    { identities := ⟨restartEvidence, [task], [], target⟩
      lifecycles := ⟨restartEvidence, [task], [(task, .opened)]⟩
      prerequisites := ⟨restartEvidence, [task], [(task, [])]⟩
      groupings := ⟨restartEvidence, [task], [(task, none)]⟩
      membership := ⟨restartEvidence, [task], target⟩ }
  operationId := restartGraph.operationId
  rootTaskId := some task
  target := target
  valid := by decide

def recovery : RunRequestId := ⟨"recovery", runId⟩

def integrationTarget : IntegrationTarget := ⟨"repository", "refs/heads/main"⟩

def worktreeRead : PlannedAttemptOperation := ⟨⟨"restart-worktree"⟩, attempt, [⟨"restart-claim"⟩]⟩

def lineageRead : PlannedAttemptOperation := ⟨⟨"restart-lineage"⟩, attempt, [⟨"restart-worktree"⟩]⟩

def successor : PlannedTaskAttempt :=
  { attempt with
    attemptId := ⟨"successor"⟩
    branch := "refs/heads/dalph/successor"
    worktree := "/worktrees/successor" }

def replacement : ResultRecoveryAttemptReplaced where
  requestId := recovery
  subject := .rejectedResult attempt 2
  integrationTarget := integrationTarget
  witness := ⟨restartGraph.operationId, ⟨"restart-claim"⟩, ⟨"restart-specification"⟩,
    lineageRead.operationId, worktreeRead.operationId⟩
  writerCustody := none
  successorPlan := ⟨⟨"successor-plan"⟩, successor, [⟨"plan"⟩, claim.operationId,
    restartGraph.operationId, ⟨"restart-claim"⟩, ⟨"restart-specification"⟩,
    lineageRead.operationId, worktreeRead.operationId]⟩

/-- The Operator directs Restart for a rejected result, and its attempt is replaced. -/
def recovered : List JournalRecord :=
  recordsFrom (events ++
    [.plannedAttemptExecutorStateObserved
        ⟨.exactExecutorReport CancelledRun.rejected, 1, attempt⟩,
      reported 2 CancelledRun.rejected,
      .resultRecoveryDirected ⟨.restartTaskImplementation, recovery, .rejectedResult attempt 2⟩,
      .taskTrackerReadIntentRecorded (.readTrackerGraph restartGraph),
      .taskTrackerFactsObserved (.completeTaskTrackerFacts restartFacts),
      .taskTrackerReadIntentRecorded (.readTaskWorkSpecification
        ⟨⟨"restart-specification"⟩, [⟨"plan"⟩, restartGraph.operationId], target, task⟩),
      specification ⟨"restart-specification"⟩ attempt.taskRevision,
      .taskTrackerReadIntentRecorded (.readTaskClaim
        ⟨⟨"restart-claim"⟩, [⟨"plan"⟩, restartGraph.operationId, ⟨"restart-specification"⟩],
          target, task⟩),
      .taskTrackerFactsObserved
        (.focusedTaskClaimFacts ⟨.activeTaskClaim claim, ⟨"restart-claim"⟩, target⟩),
      .gitReadIntentRecorded (.readTaskWorktree worktreeRead),
      .plannedAttemptWorktreeObserved worktreeRead.operationId (.plannedWorktreeReady
        ⟨attempt.baseSha, attempt.branch, attempt.baseSha, attempt.worktree⟩),
      .gitReadIntentRecorded (.readTargetLineage lineageRead integrationTarget),
      .targetLineageObserved lineageRead.operationId attempt ⟨true, attempt.baseSha, attempt.baseSha⟩,
      .resultRecoveryAttemptReplaced replacement])

theorem replaced_attempt_retained :
    ¬ ∀ replay runId records, KernelReplayed replay runId records → ∀ (cutoff : Int) subject,
      subject ∈ retainedExecutorResponsibilitySubjectsAt
          (retainedExecutorResponsibilityFrom records) runId cutoff ↔
        Unfinished (kernelThrough replay runId records cutoff) subject := by
  intro always
  have same := always .raw runId recovered (by decide +kernel) 28 ⟨attempt, 11⟩
  exact absurd (same.mp (by decide +kernel)).2 (by decide +kernel)

end RecoveredRun

end Dalph
