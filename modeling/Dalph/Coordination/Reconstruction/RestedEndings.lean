import Dalph.Coordination.Reconstruction.AttemptChains
import Dalph.Coordination.Reconstruction.ExecutorSafety

/-!
# Rest before an ending

In an accepted history an attempt ends only behind a last accepted report that proves its writers
stopped; a Stop or a Restart leaves no command of it unanswered.
-/

namespace Dalph

/-- An ending of an attempt against the records before it. -/
structure RestedEnding (before : List JournalRecord) (record : JournalRecord) : Prop where
  rested : ∀ plannedAttempt, endedAttempt? record.event = some plannedAttempt →
    ∃ reported report, LatestAccepted before plannedAttempt reported report ∧
      executorReportProvesStoppedWriters report = true
  settled : ∀ plannedAttempt, stoppedAttempt? record.event = some plannedAttempt ∨
      restartedAttempt? record.event = some plannedAttempt →
    ∀ intended command, ¬ Unsettled before plannedAttempt intended command

section

variable {source : JournalHistorySource} {records : List JournalRecord}
  {plannedAttempt : PlannedTaskAttempt} {ordinal : Nat}

theorem isAccepted_of_proofEvidence {evidence : PlannedAttemptExecutorEvidence}
    (found : proofEvidenceFor ordinal plannedAttempt source = some evidence) :
    evidence.isAccepted = true := by
  unfold proofEvidenceFor at found
  split at found
  · have named : evidence.source.acceptedOrdinal? = some ordinal := by
      simpa using List.find?_some found
    rw [PlannedAttemptExecutorEvidence.isAccepted, named]
    rfl
  · obtain ⟨record, -, found⟩ := Option.bind_eq_some_iff.mp found
    split at found
    · split at found
      · cases found
        rfl
      · cases found
    · cases found

theorem latestAccepted_of_current (presents : Presents source records)
    (increasing : InOrder records) {proof current : PlannedAttemptExecutorEvidence}
    (proven : proofEvidenceFor ordinal plannedAttempt source = some proof)
    (latest : latestPlannedAttemptExecutorEvidence source plannedAttempt none = some current)
    (same : current.observedAt = proof.observedAt) :
    ∃ record, LatestAccepted records plannedAttempt record proof.report := by
  obtain ⟨record, member, reported⟩ := mem_of_proofEvidence presents proven
  obtain ⟨record', member', reported'⟩ := mem_of_latestEvidence presents latest
  have one := increasing.eq_of_position member' member (by
    rw [← observedAt_of_evidence reported', same, observedAt_of_evidence reported])
  rw [one, reported, Option.some.injEq] at reported'
  rw [← reported'] at latest
  obtain ⟨accepted, stands, -⟩ := presents.latestAccepted_of_evidence increasing
    (Option.filter_eq_some_iff.mpr ⟨latest, isAccepted_of_proofEvidence proven⟩)
  exact ⟨accepted, stands⟩

theorem rested_of_provesCurrentSuspension (presents : Presents source records)
    (increasing : InOrder records)
    (proves : provesCurrentSuspension ordinal plannedAttempt source = true) :
    ∃ reported report, LatestAccepted records plannedAttempt reported report ∧
      executorReportProvesStoppedWriters report = true := by
  obtain ⟨proof, proven, proves⟩ := Option.any_eq_true _ _ |>.mp proves
  obtain ⟨current, latest, proves⟩ := Option.any_eq_true _ _ |>.mp proves
  rw [Bool.and_eq_true, decide_eq_true_iff] at proves
  obtain ⟨reported, stands⟩ :=
    latestAccepted_of_current presents increasing proven latest proves.1
  refine ⟨reported, proof.report, stands, ?_⟩
  cases shown : proof.report <;>
    simp_all [PlannedAttemptExecutorReport.isSafelySuspended, executorReportProvesStoppedWriters]

theorem rested_of_proofMatchesEvidence (presents : Presents source records)
    (increasing : InOrder records)
    (proves : proofMatchesEvidence ordinal plannedAttempt source = true) :
    ∃ reported report, LatestAccepted records plannedAttempt reported report ∧
      executorReportProvesStoppedWriters report = true := by
  unfold proofMatchesEvidence at proves
  split at proves
  · next proof current proven latest =>
      simp only [Bool.and_eq_true, decide_eq_true_iff] at proves
      obtain ⟨reported, stands⟩ :=
        latestAccepted_of_current presents increasing proven latest proves.1.1
      exact ⟨reported, proof.report, stands, proves.1.2⟩
  · cases proves

theorem stoppedWriters_of_selected {request : ResultRecoveryDirected}
    {report : PlannedAttemptExecutorReport}
    (selected : selectedReportProblem request report = none) :
    executorReportProvesStoppedWriters report = true := by
  unfold selectedReportProblem at selected
  split at selected
  · split at selected
    · split at selected
      · next stopped => simpa [executorReportProvesStoppedWriters] using stopped
      · cases selected
    · cases selected
  · split at selected
    · cases selected
    · split at selected
      · rfl
      · cases selected

/-- A Stop or a Restart is recorded of a suspended executor that owes no answer. -/
theorem quiescent_of_accepted {record : JournalRecord} {index : Nat} {runId : RunId}
    {indexes : FoldIndexes} (checked : RecordAccepted record index runId source indexes)
    (ended : stoppedAttempt? record.event = some plannedAttempt ∨
      restartedAttempt? record.event = some plannedAttempt) :
    ∃ ordinal, replacementQuiescenceIsCurrent (priorRecords record.position source) plannedAttempt
      ordinal = true := by
  rcases ended with stopped | restarted
  · unfold stoppedAttempt? at stopped
    split at stopped
    · next event shown =>
        have accepted := checked.stop
        simp only [validateAttemptStop, shown, validateStopAbandonment, List.append_eq_nil_iff]
          at accepted
        obtain ⟨-, proven, -⟩ := accepted
        split at proven
        · cases proven
        · next proves =>
            refine ⟨event.reportOrdinal, ?_⟩
            rw [issueUnless_eq_nil] at proven
            rw [← Option.some.inj stopped, replacementQuiescenceIsCurrent, proven]
            simpa using proves
    · cases stopped
  · obtain ⟨event, shown, about⟩ := restartedAttempt_eq_some restarted
    have accepted := checked.replacement
    unfold validatePlannedAttemptReplacement at accepted
    rw [shown] at accepted
    dsimp only at accepted
    split at accepted
    · simp at accepted
    · simp only [List.append_eq_nil_iff, issueUnless_eq_nil] at accepted
      exact ⟨event.witness.reportOrdinal, about ▸ accepted.1.2⟩

end

section

variable {replay : HistoryReplay} {runId : RunId} {records before after : List JournalRecord}
  {record : JournalRecord}

theorem KernelReplayed.rested (replayed : KernelReplayed replay runId (before ++ record :: after)) :
    RestedEnding before record := by
  have tracks := replayed.safety_left
  have canonical := replayed.accepted.canonical
  have presents := canonical.presents_prior replay
  have increasing := canonical.left.chronological.increasing
  have recorded : ReplayedBy replay runId (before ++ record :: after) :=
    replayFrom_of_kernel replayed
  obtain ⟨indexes, -, checked⟩ := recorded.record
  constructor
  · intro plannedAttempt ended
    have quiescent (disposed : stoppedAttempt? record.event = some plannedAttempt ∨
        restartedAttempt? record.event = some plannedAttempt) :
        ∃ reported report, LatestAccepted before plannedAttempt reported report ∧
          executorReportProvesStoppedWriters report = true := by
      obtain ⟨ordinal, quiescent⟩ := quiescent_of_accepted checked disposed
      exact rested_of_provesCurrentSuspension presents increasing
        (Bool.and_eq_true_iff.mp quiescent).1
    cases endsAttempt_of_ended ended with
    | stopped stop shown about => exact quiescent (.inl (by rw [shown, ← about]; rfl))
    | restarted restarted shown about => exact quiescent (.inr (by rw [shown, ← about]; rfl))
    | cancelled cancelled shown about =>
        have accepted := (List.append_eq_nil_iff.mp checked.cancelled).2
        simp only [validateAbandonment, shown, validateAbandonmentProof, List.append_eq_nil_iff,
          issueUnless_eq_nil, Bool.and_eq_true, about] at accepted
        exact rested_of_proofMatchesEvidence presents increasing accepted.2.2
    | recovered recovered shown about =>
        have accepted := checked.recovery
        simp only [validateResultRecovery, shown, Option.toList_eq_nil_iff] at accepted
        obtain ⟨directed, same, admitted, -⟩ := directed_of_replacement accepted
        obtain ⟨-, -, -, evidence, latest, -, selected⟩ :=
          resultRecoveryDirectionProblem_eq_none.mp admitted
        rw [same, about] at latest
        obtain ⟨reported, stands, -⟩ := presents.latestAccepted_of_evidence increasing latest
        exact ⟨reported, _, stands, stoppedWriters_of_selected selected⟩
  · intro plannedAttempt disposed intended command unsettled
    obtain ⟨ordinal, quiescent⟩ := quiescent_of_accepted checked disposed
    have ended : endedAttempt? record.event = some plannedAttempt := by
      rcases disposed with stopped | restarted
      · exact ended_of_disposed (.inl stopped)
      · obtain ⟨event, shown, about⟩ := restartedAttempt_eq_some restarted
        rw [shown, ← about]
        rfl
    have owed := (presents.latestUnsettled_eq_some increasing
      (correlated_of_justified tracks.lawful)).mpr
        ⟨intended, tracks.outstanding (recorded.planned_of_ended canonical ended) unsettled⟩
    rw [replacementQuiescenceIsCurrent, owed, Bool.and_eq_true] at quiescent
    cases quiescent.2

/-- In every accepted history an attempt ends only at rest. -/
theorem endings_rested (replayed : KernelReplayed replay runId records) :
    Log.Justified RestedEnding records := by
  intro before record after split
  subst split
  exact replayed.rested

end

namespace CancelledRun

open EstablishedRun

theorem endings_rested_abandonedTwice : Log.Justified RestedEnding abandonedTwice :=
  @endings_rested .raw runId _ (by decide +kernel)

end CancelledRun

end Dalph
