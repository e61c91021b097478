import Dalph.Coordination.Reconstruction.KernelRun

/-!
# Unfinished attempts

A validated history keeps the kernel's indexes and, for every task, its one unfinished attempt.  The
next record is checked against both and advances both; a cold history computes the unfinished
attempts from its indexes.  The checks that are not embedded only refuse and are a parameter.
-/

namespace Dalph

/-! ## Validated histories -/

/-- The other checks of the kernel: what they keep along a history and what they say against it. -/
structure RemainingChecks where
  Kept : Type
  nothing : Kept
  record : JournalRecord → Nat → RunId → JournalHistorySource → KernelIndexes → Kept →
    Kept × List String
  lifecycle : RunId → JournalHistorySource → List String

structure HistoryIndexes (checks : RemainingChecks) where
  kernel : KernelIndexes
  kept : checks.Kept

def emptyHistoryIndexes (checks : RemainingChecks) : HistoryIndexes checks :=
  ⟨emptyKernel, checks.nothing⟩

structure ValidatedKernelState (checks : RemainingChecks) where
  indexes : HistoryIndexes checks
  unfinished : KeyedMap TaskId ExecutorResponsibility

/-- An accepted history; one that was decoded has no kernel state. -/
structure ValidWorkflowJournalHistory (checks : RemainingChecks) where
  runId : RunId
  records : List JournalRecord
  kernel : Option (ValidatedKernelState checks)

/-- What a reduction or an advance gives; a defect of the kernel itself ends the program. -/
inductive HistoryResult (checks : RemainingChecks) where
  | valid (history : ValidWorkflowJournalHistory checks)
  | invalid (issues : List String)
  | defect (detail : String)

/-! ## Unfinished attempts -/

def attemptIsFinished (indexes : KernelIndexes) (attemptId : AttemptId) : Bool :=
  attemptId ∈ indexes.executor.terminalExecutorAttempts ||
    attemptId ∈ indexes.fold.abandonedExecutorAttempts ||
    attemptId ∈ indexes.fold.supersededExecutorAttempts

def unfinishedResponsibilities (indexes : KernelIndexes) : List (TaskId × ExecutorResponsibility) :=
  indexes.executor.executorResponsibilitiesBegan.entries.filterMap fun entry =>
    if attemptIsFinished indexes entry.1 then none
    else some (entry.2.plannedAttempt.taskId, entry.2)

def unfinishedTasksFrom (indexes : KernelIndexes) : KeyedMap TaskId ExecutorResponsibility :=
  .ofEntries (unfinishedResponsibilities indexes)

/-- Only acquisition, executor reports, abandonment, and replacement change whether an attempt is
unfinished. -/
def unfinishedAttemptAffectedBy : WorkflowJournalEvent → Option AttemptId
  | .plannedAttemptExecutorWorkResponsibilityBegan plannedAttempt => some plannedAttempt.attemptId
  | .plannedAttemptExecutorWorkReported event => some event.report.correlation.attemptId
  | .attemptImplementationAbandoned event => some event.subject.plannedAttempt.attemptId
  | .plannedAttemptReplaced event => some event.subject.plannedAttempt.attemptId
  | .resultRecoveryAttemptReplaced event => some event.subject.plannedAttempt.attemptId
  | _ => none

/-- The unfinished attempts behind a record; none where two attempts at one task would be. -/
def advanceUnfinishedTasks (prior : KeyedMap TaskId ExecutorResponsibility)
    (indexes : KernelIndexes) (record : JournalRecord) :
    Option (KeyedMap TaskId ExecutorResponsibility) :=
  match unfinishedAttemptAffectedBy record.event with
  | none => some prior
  | some attemptId =>
      match indexes.executor.executorResponsibilitiesBegan.lookup attemptId with
      | none => some prior
      | some responsibility =>
          let taskId := responsibility.plannedAttempt.taskId
          let existing := prior.lookup taskId
          if attemptIsFinished indexes attemptId then
            some (if existing.any fun other => other.plannedAttempt.attemptId = attemptId then
              prior.erase taskId else prior)
          else if existing.any fun other => other.plannedAttempt.attemptId ≠ attemptId then none
          else some (prior.insert taskId responsibility)

def duplicateUnfinishedTaskAttemptIssue (first second : ExecutorResponsibility) : String :=
  s!"task {second.plannedAttempt.taskId.value} has unfinished attempts " ++
    s!"{first.plannedAttempt.attemptId.value} at position {first.position} and " ++
    s!"{second.plannedAttempt.attemptId.value} at position {second.position}"

def reportDuplicateUnfinishedAttempt (unfinished : KeyedMap TaskId ExecutorResponsibility)
    (record : JournalRecord) : List String :=
  match record.event with
  | .plannedAttemptExecutorWorkResponsibilityBegan plannedAttempt =>
      ((unfinished.lookup plannedAttempt.taskId).map fun existing =>
        duplicateUnfinishedTaskAttemptIssue existing ⟨plannedAttempt, record.position⟩).toList
  | _ => []

/-- What is said against the later ones of a task's unfinished attempts, in the order they began. -/
def duplicateUnfinishedFrom : KeyedMap TaskId ExecutorResponsibility →
    List (TaskId × ExecutorResponsibility) → List String
  | _, [] => []
  | seen, (taskId, responsibility) :: rest =>
      match seen.lookup taskId with
      | some prior =>
          duplicateUnfinishedTaskAttemptIssue prior responsibility ::
            duplicateUnfinishedFrom seen rest
      | none => duplicateUnfinishedFrom (seen.insert taskId responsibility) rest

def validateOneUnfinishedAttemptPerTask (indexes : KernelIndexes) : List String :=
  duplicateUnfinishedFrom ∅ ((unfinishedResponsibilities indexes).mergeSort fun left right =>
    left.2.position ≤ right.2.position)

/-! ## Cold histories -/

section

variable (checks : RemainingChecks) (runId : RunId)

structure HistoryChecked where
  indexes : HistoryIndexes checks
  issues : List String

def validateHistoryRecord (record : JournalRecord) (index : Nat) (source : JournalHistorySource)
    (indexes : HistoryIndexes checks) : HistoryChecked checks :=
  let checked := validateKernelRecord record index runId source indexes.kernel
  let remaining := checks.record record index runId source indexes.kernel indexes.kept
  { indexes := ⟨checked.indexes, remaining.1⟩
    issues := checked.issues ++ remaining.2 }

def replayRawFrom (records : List JournalRecord) :
    Nat → List JournalRecord → HistoryIndexes checks → HistoryChecked checks
  | _, [], indexes => { indexes, issues := [] }
  | index, record :: rest, indexes =>
      let checked := validateHistoryRecord checks runId record index (.raw records) indexes
      let remaining := replayRawFrom records (index + 1) rest checked.indexes
      { indexes := remaining.indexes, issues := checked.issues ++ remaining.issues }

def coldHistory (records : List JournalRecord) (indexes : HistoryIndexes checks) :
    ValidWorkflowJournalHistory checks :=
  { runId, records, kernel := some ⟨indexes, unfinishedTasksFrom indexes.kernel⟩ }

def finalIssues (source : JournalHistorySource) (indexes : HistoryIndexes checks) : List String :=
  validateOneUnfinishedAttemptPerTask indexes.kernel ++ checks.lifecycle runId source

def reduceRawDiagnosticHistory (records : List JournalRecord) : HistoryResult checks :=
  let replayed := replayRawFrom checks runId records 0 records (emptyHistoryIndexes checks)
  let issues := replayed.issues ++ finalIssues checks runId (.raw records) replayed.indexes
  if issues.isEmpty then .valid (coldHistory checks runId records replayed.indexes)
  else .invalid issues

def hasCanonicalJournalEnvelope (record : JournalRecord) (expectedPosition : JournalPosition)
    (indexes : KernelIndexes) : Bool :=
  record.position = expectedPosition && record.runId = runId &&
    record.key = record.event.expectedKey && !(record.key ∈ indexes.fold.seenKeys)

/-- The indexed reduction of the records from an index on; any issue leads to the diagnostic one. -/
def reduceIndexedFrom (records : List JournalRecord) :
    Nat → List JournalRecord → HistoryIndexes checks → HistoryResult checks
  | _, [], indexes =>
      if (finalIssues checks runId (.indexed (journalEvidenceFrom records)) indexes).isEmpty then
        .valid (coldHistory checks runId records indexes)
      else reduceRawDiagnosticHistory checks runId records
  | index, record :: rest, indexes =>
      if !hasCanonicalJournalEnvelope runId record (index + 1) indexes.kernel then
        reduceRawDiagnosticHistory checks runId records
      else
        let checked := validateHistoryRecord checks runId record index
          (HistoryReplay.indexed.source records index) indexes
        if !checked.issues.isEmpty then reduceRawDiagnosticHistory checks runId records
        else reduceIndexedFrom records (index + 1) rest checked.indexes

def reduceWorkflowJournalHistory (records : List JournalRecord) : HistoryResult checks :=
  reduceIndexedFrom checks runId records 0 records (emptyHistoryIndexes checks)

end

/-! ## Successors -/

section

variable {checks : RemainingChecks}

def advanceWorkflowJournalHistory (prior : ValidWorkflowJournalHistory checks)
    (record : JournalRecord) : HistoryResult checks :=
  match prior.kernel with
  | none => .defect "validated journal history lacks its private kernel state"
  | some kernel =>
      let records := prior.records ++ [record]
      if !hasCanonicalJournalEnvelope prior.runId record (prior.records.length + 1)
          kernel.indexes.kernel then
        reduceRawDiagnosticHistory checks prior.runId records
      else
        let candidate := JournalHistorySource.indexed (journalEvidenceFrom records)
        let checked := validateHistoryRecord checks prior.runId record prior.records.length candidate
          kernel.indexes
        let advancedUnfinished :=
          advanceUnfinishedTasks kernel.unfinished checked.indexes.kernel record
        let duplicate :=
          if advancedUnfinished.isNone then
            reportDuplicateUnfinishedAttempt kernel.unfinished record
          else []
        let issues := checked.issues ++ duplicate ++ checks.lifecycle prior.runId candidate
        if !issues.isEmpty then .invalid issues
        else
          match advancedUnfinished with
          | none =>
              .defect "successor changed unfinished responsibility without its acquisition occurrence"
          | some unfinished =>
              .valid
                { runId := prior.runId
                  records
                  kernel := some ⟨checked.indexes, unfinished⟩ }

/-- The history behind some more records, where each is accepted. -/
def advanceThrough (prior : ValidWorkflowJournalHistory checks) :
    List JournalRecord → Option (ValidWorkflowJournalHistory checks)
  | [] => some prior
  | record :: rest =>
      match advanceWorkflowJournalHistory prior record with
      | .valid next => advanceThrough next rest
      | _ => none

end

/-! ## What a record changes -/

def terminatedAttempt? : WorkflowJournalEvent → Option AttemptId
  | .plannedAttemptExecutorWorkReported event =>
      if event.report.isTerminal then some event.report.correlation.attemptId else none
  | _ => none

def FinishesAttempt (event : WorkflowJournalEvent) (attemptId : AttemptId) : Prop :=
  terminatedAttempt? event = some attemptId ∨
    (stoppedAttempt? event).map (·.attemptId) = some attemptId ∨
    (recoveredAttempt? event).map (·.attemptId) = some attemptId ∨
    (restartedAttempt? event).map (·.attemptId) = some attemptId

/-- What an accepted record changes of who is responsible and of what is finished. -/
structure KernelStep (indexes next : KernelIndexes) (record : JournalRecord) : Prop where
  others : (∀ plannedAttempt,
      record.event ≠ .plannedAttemptExecutorWorkResponsibilityBegan plannedAttempt) →
    next.executor.executorResponsibilitiesBegan = indexes.executor.executorResponsibilitiesBegan
  begun : ∀ plannedAttempt,
    record.event = .plannedAttemptExecutorWorkResponsibilityBegan plannedAttempt →
      indexes.executor.executorResponsibilitiesBegan.lookup plannedAttempt.attemptId = none ∧
        next.executor.executorResponsibilitiesBegan =
          indexes.executor.executorResponsibilitiesBegan.insert plannedAttempt.attemptId
            ⟨plannedAttempt, record.position⟩
  finished : ∀ attemptId, attemptIsFinished next attemptId = true ↔
    attemptIsFinished indexes attemptId = true ∨ FinishesAttempt record.event attemptId

section

variable {runId : RunId} {source : JournalHistorySource} {record : JournalRecord}
  {indexes : ExecutorIndexes} {plans : KeyedMap AttemptId PlannedTaskAttempt}

theorem mem_terminal_validateExecutorWork {attemptId : AttemptId} :
    attemptId ∈ (validateExecutorWork record source plans indexes).indexes.terminalExecutorAttempts ↔
      attemptId ∈ indexes.terminalExecutorAttempts ∨
        terminatedAttempt? record.event = some attemptId := by
  unfold validateExecutorWork
  split
  · next plannedAttempt shown =>
      rw [shown, validateResponsibilityBegan]
      split <;> simp [terminatedAttempt?]
  · next event shown => simp [shown, terminatedAttempt?, validateExecutorCommandIntent]
  · next event shown => simp [shown, terminatedAttempt?, validateExecutorResumeRedeliveryIntent]
  · next event shown =>
      rw [shown, validateCommandProjection]
      cases event.observation with
      | exactExecutorReport report =>
          dsimp only
          split <;> simp [terminatedAttempt?, ExecutorIndexes.settle]
      | _ => simp [terminatedAttempt?]
  · next event shown =>
      rw [shown, validateCommandResponse]
      dsimp only
      split <;> simp [terminatedAttempt?, ExecutorIndexes.settle]
  · next event shown => simp [shown, terminatedAttempt?, validateCommandResponseContradiction]
  · next event shown => simp [shown, terminatedAttempt?, validateStateObservation]
  · next event shown =>
      rw [shown]
      simp only [validateExecutorWorkReport, recordExecutorWorkReportOutcome, terminatedAttempt?]
      cases event.report with
      | terminal correlation result =>
          simp [PlannedAttemptExecutorReport.isTerminal, or_comm, eq_comm]
      | _ => simp [PlannedAttemptExecutorReport.isTerminal]
  · next other =>
      have unreported : terminatedAttempt? record.event = none := by
        unfold terminatedAttempt?
        split
        · next event shown => exact absurd shown (other event)
        · rfl
      simp [unreported]

theorem responsibilities_validateExecutorWork
    (other : ∀ plannedAttempt,
      record.event ≠ .plannedAttemptExecutorWorkResponsibilityBegan plannedAttempt) :
    (validateExecutorWork record source plans indexes).indexes.executorResponsibilitiesBegan =
      indexes.executorResponsibilitiesBegan := by
  unfold validateExecutorWork
  split
  · next plannedAttempt shown => exact absurd shown (other plannedAttempt)
  · rfl
  · rfl
  · next event shown =>
      rw [validateCommandProjection]
      cases event.observation with
      | exactExecutorReport report =>
          dsimp only
          split <;> rfl
      | _ => rfl
  · next event shown =>
      rw [validateCommandResponse]
      dsimp only
      split <;> rfl
  · rfl
  · rfl
  · next event shown =>
      simp only [validateExecutorWorkReport, recordExecutorWorkReportOutcome]
      cases event.report <;> rfl
  · rfl

theorem began_of_accepted {plannedAttempt : PlannedTaskAttempt}
    (began : record.event = .plannedAttemptExecutorWorkResponsibilityBegan plannedAttempt)
    (accepted : (validateExecutorWork record source plans indexes).issues = []) :
    indexes.executorResponsibilitiesBegan.lookup plannedAttempt.attemptId = none ∧
      (validateExecutorWork record source plans indexes).indexes.executorResponsibilitiesBegan =
        indexes.executorResponsibilitiesBegan.insert plannedAttempt.attemptId
          ⟨plannedAttempt, record.position⟩ := by
  unfold validateExecutorWork at accepted ⊢
  rw [began] at accepted ⊢
  cases known : indexes.executorResponsibilitiesBegan.lookup plannedAttempt.attemptId with
  | some prior => simp [validateResponsibilityBegan, known] at accepted
  | none => simp [validateResponsibilityBegan, known]

theorem kernelStep_of_accepted {index : Nat} {indexes : KernelIndexes}
    (accepted : (validateKernelRecord record index runId source indexes).issues = []) :
    KernelStep indexes (validateKernelRecord record index runId source indexes).indexes record := by
  obtain ⟨checked, _, worked, kept⟩ := validateKernelRecord_accepted accepted
  rw [kept]
  refine ⟨responsibilities_validateExecutorWork, fun _ began => began_of_accepted began worked, ?_⟩
  intro attemptId
  have abandoned : (indexes.fold.advance record).abandonedExecutorAttempts =
      indexes.fold.abandonedExecutorAttempts.add?
        ((stoppedAttempt? record.event).map (·.attemptId)) := rfl
  have superseded : (indexes.fold.advance record).supersededExecutorAttempts =
      (indexes.fold.supersededExecutorAttempts.add?
        ((recoveredAttempt? record.event).map (·.attemptId))).add?
          ((restartedAttempt? record.event).map (·.attemptId)) := rfl
  simp only [attemptIsFinished, Bool.or_eq_true, decide_eq_true_eq, abandoned, superseded,
    mem_terminal_validateExecutorWork, KeySet.mem_add?, FinishesAttempt]
  constructor
  · rintro (((earlier | terminal) | stopped | earlier) | restarted | recovered | earlier)
    · exact .inl (.inl (.inl earlier))
    · exact .inr (.inl terminal)
    · exact .inr (.inr (.inl stopped))
    · exact .inl (.inl (.inr earlier))
    · exact .inr (.inr (.inr (.inr restarted)))
    · exact .inr (.inr (.inr (.inl recovered)))
    · exact .inl (.inr earlier)
  · rintro (((earlier | earlier) | earlier) | terminal | stopped | recovered | restarted)
    · exact .inl (.inl (.inl earlier))
    · exact .inl (.inr (.inr earlier))
    · exact .inr (.inr (.inr earlier))
    · exact .inl (.inl (.inr terminal))
    · exact .inl (.inr (.inl stopped))
    · exact .inr (.inr (.inl recovered))
    · exact .inr (.inl restarted)

end

/-! ## The unfinished attempts -/

def UnfinishedTracks (indexes : KernelIndexes) (unfinished : KeyedMap TaskId ExecutorResponsibility) :
    Prop :=
  ∀ taskId responsibility, unfinished.lookup taskId = some responsibility ↔
    ∃ attemptId,
      indexes.executor.executorResponsibilitiesBegan.lookup attemptId = some responsibility ∧
        attemptIsFinished indexes attemptId = false ∧
          responsibility.plannedAttempt.taskId = taskId

theorem unfinishedTracks_empty : UnfinishedTracks emptyKernel ∅ := by
  intro taskId responsibility
  simp [emptyKernel, ExecutorIndexes.empty]

section

variable {indexes next : KernelIndexes} {prior : KeyedMap TaskId ExecutorResponsibility}
  {record : JournalRecord} {attemptId : AttemptId}

theorem mem_unfinishedResponsibilities {taskId : TaskId} {responsibility : ExecutorResponsibility} :
    (taskId, responsibility) ∈ unfinishedResponsibilities indexes ↔
      ∃ attemptId,
        indexes.executor.executorResponsibilitiesBegan.lookup attemptId = some responsibility ∧
          attemptIsFinished indexes attemptId = false ∧
            responsibility.plannedAttempt.taskId = taskId := by
  rw [unfinishedResponsibilities, List.mem_filterMap]
  constructor
  · rintro ⟨⟨attemptId, responsibility'⟩, listed, shown⟩
    dsimp only at shown
    split at shown
    · cases shown
    · next unfinished =>
        cases shown
        exact ⟨attemptId, AList.mem_lookup_iff.mpr listed, Bool.eq_false_iff.mpr unfinished, rfl⟩
  · rintro ⟨attemptId, known, unfinished, rfl⟩
    exact ⟨⟨attemptId, responsibility⟩, AList.mem_lookup_iff.mp known, by simp [unfinished]⟩

theorem UnfinishedTracks.lookup_eq (tracks : UnfinishedTracks indexes prior) (taskId : TaskId) :
    prior.lookup taskId = (unfinishedTasksFrom indexes).lookup taskId := by
  have listed : ∀ responsibility, (taskId, responsibility) ∈ unfinishedResponsibilities indexes ↔
      prior.lookup taskId = some responsibility := fun responsibility =>
    mem_unfinishedResponsibilities.trans (tracks taskId responsibility).symm
  cases kept : prior.lookup taskId with
  | none =>
      refine (KeyedMap.lookup_ofEntries_eq_none fun entry member same => ?_).symm
      obtain ⟨task, responsibility⟩ := entry
      obtain rfl : task = taskId := same
      rw [(listed responsibility).mp member] at kept
      cases kept
  | some responsibility =>
      refine (KeyedMap.lookup_ofEntries (fun entry member same => ?_)
        ((listed responsibility).mpr kept)).symm
      obtain ⟨task, other⟩ := entry
      obtain rfl : task = taskId := same
      have also := (listed other).mp member
      rw [kept, Option.some.injEq] at also
      exact also.symm

theorem affected_of_finishes (finishes : FinishesAttempt record.event attemptId) :
    unfinishedAttemptAffectedBy record.event = some attemptId ∧
      ∀ plannedAttempt,
        record.event ≠ .plannedAttemptExecutorWorkResponsibilityBegan plannedAttempt := by
  rcases finishes with terminal | stopped | recovered | restarted
  · unfold terminatedAttempt? at terminal
    split at terminal
    · next event shown =>
        split at terminal
        · rw [shown]
          exact ⟨terminal, fun _ began => by cases began⟩
        · cases terminal
    · cases terminal
  · unfold stoppedAttempt? at stopped
    split at stopped
    · next event shown =>
        rw [shown]
        exact ⟨stopped, fun _ began => by cases began⟩
    · cases stopped
  · unfold recoveredAttempt? at recovered
    split at recovered
    · next event shown =>
        rw [shown]
        exact ⟨recovered, fun _ began => by cases began⟩
    · cases recovered
  · unfold restartedAttempt? at restarted
    split at restarted
    · next event shown =>
        rw [shown]
        exact ⟨restarted, fun _ began => by cases began⟩
    · cases restarted

theorem KernelStep.finished_eq (step : KernelStep indexes next record)
    (unaffected : unfinishedAttemptAffectedBy record.event ≠ some attemptId) :
    attemptIsFinished next attemptId = attemptIsFinished indexes attemptId := by
  rw [Bool.eq_iff_iff, step.finished]
  exact or_iff_left fun finishes => unaffected (affected_of_finishes finishes).1

theorem KernelStep.unfinished_before (step : KernelStep indexes next record)
    (unfinished : attemptIsFinished next attemptId = false) :
    attemptIsFinished indexes attemptId = false := by
  rw [Bool.eq_false_iff] at unfinished ⊢
  exact fun finished => unfinished ((step.finished attemptId).mpr (.inl finished))

theorem UnfinishedTracks.keep (tracks : UnfinishedTracks indexes prior)
    (same : next.executor.executorResponsibilitiesBegan =
      indexes.executor.executorResponsibilitiesBegan)
    (finished : ∀ attemptId responsibility,
      indexes.executor.executorResponsibilitiesBegan.lookup attemptId = some responsibility →
        attemptIsFinished next attemptId = attemptIsFinished indexes attemptId) :
    UnfinishedTracks next prior := by
  intro taskId responsibility
  rw [tracks taskId responsibility, same]
  refine exists_congr fun attemptId => ?_
  constructor
  · rintro ⟨known, unfinished, task⟩
    exact ⟨known, (finished attemptId responsibility known).trans unfinished, task⟩
  · rintro ⟨known, unfinished, task⟩
    exact ⟨known, (finished attemptId responsibility known).symm.trans unfinished, task⟩

variable (own : ∀ attemptId responsibility,
  indexes.executor.executorResponsibilitiesBegan.lookup attemptId = some responsibility →
    responsibility.plannedAttempt.attemptId = attemptId)
include own

variable (tracks : UnfinishedTracks indexes prior)
include tracks

theorem UnfinishedTracks.ne_of_unknown
    (unknown : indexes.executor.executorResponsibilitiesBegan.lookup attemptId = none)
    {taskId : TaskId} {existing : ExecutorResponsibility}
    (kept : prior.lookup taskId = some existing) :
    existing.plannedAttempt.attemptId ≠ attemptId := by
  obtain ⟨other, known, _, _⟩ := (tracks taskId existing).mp kept
  rw [own other existing known]
  rintro rfl
  rw [unknown] at known
  cases known

/-- A beginning adds its attempt, or is reported as the second of its task. -/
theorem UnfinishedTracks.begin (step : KernelStep indexes next record)
    {plannedAttempt : PlannedTaskAttempt}
    (began : record.event = .plannedAttemptExecutorWorkResponsibilityBegan plannedAttempt) :
    (∃ advanced, advanceUnfinishedTasks prior next record = some advanced ∧
      UnfinishedTracks next advanced) ∨
      advanceUnfinishedTasks prior next record = none ∧
        reportDuplicateUnfinishedAttempt prior record ≠ [] := by
  obtain ⟨unknown, inserted⟩ := step.begun plannedAttempt began
  have finished : ∀ attemptId,
      attemptIsFinished next attemptId = attemptIsFinished indexes attemptId := by
    intro attemptId
    rw [Bool.eq_iff_iff, step.finished]
    exact or_iff_left fun finishes => (affected_of_finishes finishes).2 plannedAttempt began
  have known : next.executor.executorResponsibilitiesBegan.lookup plannedAttempt.attemptId =
      some ⟨plannedAttempt, record.position⟩ := by
    rw [inserted, KeyedMap.lookup_insert_eq_ite, if_pos rfl]
  have affected : unfinishedAttemptAffectedBy record.event = some plannedAttempt.attemptId := by
    rw [began]
    rfl
  have responsible : ∀ attemptId responsibility,
      next.executor.executorResponsibilitiesBegan.lookup attemptId = some responsibility ↔
        (attemptId = plannedAttempt.attemptId ∧
            responsibility = ⟨plannedAttempt, record.position⟩) ∨
          indexes.executor.executorResponsibilitiesBegan.lookup attemptId = some responsibility := by
    intro attemptId responsibility
    rw [inserted, KeyedMap.lookup_insert_eq_ite]
    by_cases same : attemptId = plannedAttempt.attemptId
    · rw [if_pos same, same, unknown]
      simp [eq_comm]
    · simp [same]
  have unnamed : ∀ existing, prior.lookup plannedAttempt.taskId = some existing →
      existing.plannedAttempt.attemptId ≠ plannedAttempt.attemptId :=
    fun existing kept => tracks.ne_of_unknown own unknown kept
  cases ended : attemptIsFinished indexes plannedAttempt.attemptId with
  | true =>
      refine .inl ⟨prior, ?_, ?_⟩
      · have another : ((prior.lookup plannedAttempt.taskId).any fun existing =>
            existing.plannedAttempt.attemptId = plannedAttempt.attemptId) = false := by
          cases kept : prior.lookup plannedAttempt.taskId with
          | none => rfl
          | some existing => simpa using unnamed existing kept
        simp [advanceUnfinishedTasks, affected, known, finished, ended, another]
      · intro taskId responsibility
        rw [tracks taskId responsibility]
        refine exists_congr fun attemptId => ?_
        rw [responsible, finished]
        constructor
        · rintro ⟨earlier, rest⟩
          exact ⟨.inr earlier, rest⟩
        · rintro ⟨⟨rfl, _⟩ | earlier, unfinished, task⟩
          · rw [ended] at unfinished
            cases unfinished
          · exact ⟨earlier, unfinished, task⟩
  | false =>
      cases existing : prior.lookup plannedAttempt.taskId with
      | some other =>
          refine .inr ⟨?_, ?_⟩
          · simp [advanceUnfinishedTasks, affected, known, finished, ended, existing,
              unnamed other existing]
          · simp [reportDuplicateUnfinishedAttempt, began, existing]
      | none =>
          refine .inl ⟨prior.insert plannedAttempt.taskId ⟨plannedAttempt, record.position⟩, ?_, ?_⟩
          · simp [advanceUnfinishedTasks, affected, known, finished, ended, existing]
          · intro taskId responsibility
            rw [KeyedMap.lookup_insert_eq_ite]
            simp only [responsible, finished]
            by_cases same : taskId = plannedAttempt.taskId
            · rw [if_pos same, Option.some.injEq, same]
              constructor
              · rintro rfl
                exact ⟨plannedAttempt.attemptId, .inl ⟨rfl, rfl⟩, ended, rfl⟩
              · rintro ⟨attemptId, ⟨_, rfl⟩ | earlier, unfinished, task⟩
                · rfl
                · rw [(tracks plannedAttempt.taskId responsibility).mpr
                    ⟨attemptId, earlier, unfinished, task⟩] at existing
                  cases existing
            · rw [if_neg same, tracks taskId responsibility]
              refine exists_congr fun attemptId => ?_
              constructor
              · rintro ⟨earlier, rest⟩
                exact ⟨.inr earlier, rest⟩
              · rintro ⟨⟨_, rfl⟩ | earlier, unfinished, task⟩
                · exact absurd task.symm same
                · exact ⟨earlier, unfinished, task⟩

theorem UnfinishedTracks.erase
    (same : next.executor.executorResponsibilitiesBegan =
      indexes.executor.executorResponsibilitiesBegan)
    (apart : ∀ other, other ≠ attemptId →
      attemptIsFinished next other = attemptIsFinished indexes other)
    {responsibility : ExecutorResponsibility}
    (known : indexes.executor.executorResponsibilitiesBegan.lookup attemptId = some responsibility)
    (kept : prior.lookup responsibility.plannedAttempt.taskId = some responsibility)
    (ended : attemptIsFinished next attemptId = true) :
    UnfinishedTracks next (prior.erase responsibility.plannedAttempt.taskId) := by
  intro taskId candidate
  rw [KeyedMap.lookup_erase_eq_ite, same]
  split
  · next task =>
      refine iff_of_false (by simp) ?_
      rintro ⟨other, found, unfinished, about⟩
      by_cases differs : other = attemptId
      · rw [differs, ended] at unfinished
        cases unfinished
      · rw [apart other differs] at unfinished
        have also := (tracks taskId candidate).mpr ⟨other, found, unfinished, about⟩
        rw [task, kept, Option.some.injEq] at also
        have named := own other candidate found
        rw [← also, own attemptId responsibility known] at named
        exact differs named.symm
  · next task =>
      rw [tracks taskId candidate]
      refine exists_congr fun other => and_congr_right fun found => ?_
      by_cases differs : other = attemptId
      · rw [differs, known, Option.some.injEq] at found
        subst found
        exact iff_of_false (fun about => task about.2.symm) (fun about => task about.2.symm)
      · rw [apart other differs]

/-- Any other record removes the attempt that it finishes. -/
theorem UnfinishedTracks.advance (step : KernelStep indexes next record)
    (other : ∀ plannedAttempt,
      record.event ≠ .plannedAttemptExecutorWorkResponsibilityBegan plannedAttempt) :
    ∃ advanced, advanceUnfinishedTasks prior next record = some advanced ∧
      UnfinishedTracks next advanced := by
  have same := step.others other
  unfold advanceUnfinishedTasks
  cases affected : unfinishedAttemptAffectedBy record.event with
  | none =>
      exact ⟨prior, rfl, tracks.keep same fun attemptId _ _ =>
        step.finished_eq (by rw [affected]; exact Option.some_ne_none attemptId |>.symm)⟩
  | some attemptId =>
      have apart : ∀ attemptId', attemptId' ≠ attemptId →
          attemptIsFinished next attemptId' = attemptIsFinished indexes attemptId' := by
        intro attemptId' differs
        refine step.finished_eq ?_
        rw [affected, ne_eq, Option.some.injEq]
        exact fun one => differs one.symm
      dsimp only
      rw [same]
      cases known : indexes.executor.executorResponsibilitiesBegan.lookup attemptId with
      | none =>
          refine ⟨prior, rfl, tracks.keep same fun attemptId' responsibility found => apart _ ?_⟩
          rintro rfl
          rw [known] at found
          cases found
      | some responsibility =>
          have mine := own attemptId responsibility known
          -- an attempt that was unfinished is the one that its task has
          have held : attemptIsFinished indexes attemptId = false →
              prior.lookup responsibility.plannedAttempt.taskId = some responsibility :=
            fun unfinished => (tracks _ responsibility).mpr ⟨attemptId, known, unfinished, rfl⟩
          dsimp only
          cases ended : attemptIsFinished next attemptId with
          | true =>
              rw [if_pos rfl]
              refine ⟨_, rfl, ?_⟩
              split
              · next here =>
                  obtain ⟨existing, kept, named⟩ := Option.any_eq_true _ _ |>.mp here
                  rw [decide_eq_true_eq] at named
                  obtain ⟨attemptId', found, _, _⟩ := (tracks _ existing).mp kept
                  obtain rfl : attemptId = attemptId' := named.symm.trans (own attemptId' existing found)
                  rw [known, Option.some.injEq] at found
                  rw [← found] at kept
                  exact tracks.erase own same apart known kept ended
              · next elsewhere =>
                  refine tracks.keep same fun attemptId' responsibility' found => ?_
                  by_cases differs : attemptId' = attemptId
                  · rw [differs, ended]
                    cases before : attemptIsFinished indexes attemptId with
                    | true => rfl
                    | false => simp [held before, mine] at elsewhere
                  · exact apart attemptId' differs
          | false =>
              have before := step.unfinished_before ended
              have advanced := tracks.keep same fun attemptId' responsibility' found => by
                by_cases differs : attemptId' = attemptId
                · rw [differs, ended, before]
                · exact apart attemptId' differs
              refine ⟨prior.insert responsibility.plannedAttempt.taskId responsibility, ?_, ?_⟩
              · simp [held before, mine]
              · intro taskId candidate
                rw [← advanced taskId candidate, KeyedMap.lookup_insert_eq_ite]
                split
                · next task => rw [task, held before]
                · rfl

end

/-! ## Histories built by successors -/

/-- What is true of a history with its kernel state. -/
structure HistoryTracks {checks : RemainingChecks} (history : ValidWorkflowJournalHistory checks)
    (kernel : ValidatedKernelState checks) : Prop where
  kept : history.kernel = some kernel
  tracks : KernelTracks history.runId history.records kernel.indexes.kernel
  unfinished : UnfinishedTracks kernel.indexes.kernel kernel.unfinished

section

variable {checks : RemainingChecks} {runId : RunId} {before records : List JournalRecord}
  {record : JournalRecord}

theorem replayKernel_of_raw {rest : List JournalRecord} {index : Nat}
    {indexes : HistoryIndexes checks}
    (accepted : (replayRawFrom checks runId records index rest indexes).issues = []) :
    (replayKernelFrom .raw runId records index rest indexes.kernel).issues = [] := by
  induction rest generalizing index indexes with
  | nil => rfl
  | cons record rest induction =>
      simp only [replayRawFrom, validateHistoryRecord, List.append_eq_nil_iff] at accepted
      simp only [replayKernelFrom, List.append_eq_nil_iff]
      exact ⟨accepted.1.1, induction accepted.2⟩

variable {indexes : KernelIndexes}

theorem hasCanonicalJournalEnvelope_iff :
    hasCanonicalJournalEnvelope runId record (before.length + 1) indexes = true ↔
      (validateRecordEnvelope record before.length runId indexes.fold).issues = [] := by
  rw [validateRecordEnvelope_issues_eq_nil, hasCanonicalJournalEnvelope]
  simp only [Bool.and_eq_true, decide_eq_true_eq, Bool.not_eq_true', decide_eq_false_iff_not,
    and_assoc]

theorem raw_invalid_of_envelope (tracks : KernelTracks runId before indexes)
    (envelope : hasCanonicalJournalEnvelope runId record (before.length + 1) indexes = false) :
    ∃ issues, reduceRawDiagnosticHistory checks runId (before ++ [record]) = .invalid issues := by
  unfold reduceRawDiagnosticHistory
  dsimp only
  split
  · next accepted =>
      rw [List.isEmpty_iff, List.append_eq_nil_iff] at accepted
      have replayed : KernelReplayed .raw runId (before ++ [record]) :=
        replayKernel_of_raw accepted.1
      have canonical := replayed.accepted.canonical
      have unseen : ¬ record.key ∈ indexes.fold.seenKeys := by
        rw [tracks.fold.seenKeys]
        rintro ⟨earlier, member, same⟩
        have distinct := canonical.distinctKeys
        rw [List.map_append, List.nodup_append] at distinct
        exact distinct.2.2 _ (List.mem_map_of_mem member) _ (by simp) same
      have accepted_ : (validateRecordEnvelope record before.length runId indexes.fold).issues = [] :=
        validateRecordEnvelope_issues_eq_nil.mpr ⟨canonical.position_eq,
          canonical.owned record (by simp), canonical.keyed record (by simp), unseen⟩
      rw [hasCanonicalJournalEnvelope_iff.mpr accepted_] at envelope
      cases envelope
  · exact ⟨_, rfl⟩

theorem UnfinishedTracks.step {next : KernelIndexes}
    {prior : KeyedMap TaskId ExecutorResponsibility} (unfinished : UnfinishedTracks indexes prior)
    (tracks : ExecutorTracks before indexes.executor) (step : KernelStep indexes next record) :
    (∃ advanced, advanceUnfinishedTasks prior next record = some advanced ∧
      UnfinishedTracks next advanced) ∨
      advanceUnfinishedTasks prior next record = none ∧
        reportDuplicateUnfinishedAttempt prior record ≠ [] := by
  by_cases begins : ∃ plannedAttempt,
      record.event = .plannedAttemptExecutorWorkResponsibilityBegan plannedAttempt
  · obtain ⟨plannedAttempt, began⟩ := begins
    exact unfinished.begin tracks.responsible step began
  · exact .inl (unfinished.advance tracks.responsible step fun plannedAttempt began =>
      begins ⟨plannedAttempt, began⟩)

/-- An exact history has an exact successor or rejects the record; it never meets a defect. -/
theorem HistoryTracks.advance {prior : ValidWorkflowJournalHistory checks}
    {kernel : ValidatedKernelState checks} (history : HistoryTracks prior kernel)
    (record : JournalRecord) :
    (∃ issues, advanceWorkflowJournalHistory prior record = .invalid issues) ∨
      ∃ next nextKernel, advanceWorkflowJournalHistory prior record = .valid next ∧
        HistoryTracks next nextKernel := by
  obtain ⟨kept, tracks, unfinished⟩ := history
  unfold advanceWorkflowJournalHistory
  rw [kept]
  dsimp only
  cases envelope : hasCanonicalJournalEnvelope prior.runId record (prior.records.length + 1)
      kernel.indexes.kernel with
  | false =>
      exact .inl (raw_invalid_of_envelope tracks envelope)
  | true =>
      have canonical :=
        tracks.canonical.concat tracks.fold (hasCanonicalJournalEnvelope_iff.mp envelope)
      have shown : (prior.records ++ [record]).take (prior.records.length + 1) =
          prior.records ++ [record] := by
        simp
      have presents := canonical.presents_prior .indexed
      rw [HistoryReplay.source, shown] at presents
      rw [if_neg (by decide)]
      let checked := validateHistoryRecord checks prior.runId record prior.records.length
        (.indexed (journalEvidenceFrom (prior.records ++ [record]))) kernel.indexes
      have accepted : checked.issues = [] →
          KernelTracks prior.runId (prior.records ++ [record]) checked.indexes.kernel ∧
            KernelStep kernel.indexes.kernel checked.indexes.kernel record := by
        intro silent
        have kernelSilent := (List.append_eq_nil_iff.mp silent).1
        exact ⟨tracks.step presents kernelSilent, kernelStep_of_accepted kernelSilent⟩
      cases found : advanceUnfinishedTasks kernel.unfinished checked.indexes.kernel record with
      | none =>
          simp only [Option.isNone_none, if_true]
          split
          · exact .inl ⟨_, rfl⟩
          · next silent =>
              rw [Bool.not_eq_true', Bool.not_eq_false, List.isEmpty_iff, List.append_eq_nil_iff,
                List.append_eq_nil_iff] at silent
              rcases unfinished.step tracks.executor (accepted silent.1.1).2 with advanced | duplicate
              · obtain ⟨after, advanced, _⟩ := advanced
                rw [found] at advanced
                cases advanced
              · exact absurd silent.1.2 duplicate.2
      | some after =>
          simp only [Option.isNone_some, Bool.false_eq_true, if_false, List.append_nil]
          split
          · exact .inl ⟨_, rfl⟩
          · next silent =>
              rw [Bool.not_eq_true', Bool.not_eq_false, List.isEmpty_iff, List.append_eq_nil_iff]
                at silent
              obtain ⟨advancedTracks, step⟩ := accepted silent.1
              refine .inr ⟨_, ⟨checked.indexes, after⟩, rfl, rfl, advancedTracks, ?_⟩
              rcases unfinished.step tracks.executor step with advanced | ⟨refused, _⟩
              · obtain ⟨after', advanced, exact_⟩ := advanced
                rw [found, Option.some.injEq] at advanced
                rw [advanced]
                exact exact_
              · rw [found] at refused
                cases refused

theorem historyTracks_empty {start : ValidWorkflowJournalHistory checks}
    (empty : reduceWorkflowJournalHistory checks runId [] = .valid start) :
    ∃ kernel, HistoryTracks start kernel := by
  have exact_ : HistoryTracks (coldHistory checks runId [] (emptyHistoryIndexes checks))
      ⟨emptyHistoryIndexes checks, ∅⟩ :=
    ⟨rfl, kernelTracks_empty runId, unfinishedTracks_empty⟩
  rw [reduceWorkflowJournalHistory, reduceIndexedFrom, reduceRawDiagnosticHistory] at empty
  split at empty
  · rw [← HistoryResult.valid.inj empty]
    exact ⟨_, exact_⟩
  · split at empty
    · rw [← HistoryResult.valid.inj empty]
      exact ⟨_, exact_⟩
    · cases empty

theorem historyTracks_through {start history : ValidWorkflowJournalHistory checks}
    (exact_ : ∃ kernel, HistoryTracks start kernel)
    (built : advanceThrough start records = some history) :
    ∃ kernel, HistoryTracks history kernel := by
  induction records generalizing start with
  | nil =>
      rw [← Option.some.inj built]
      exact exact_
  | cons record records induction =>
      obtain ⟨kernel, exact_⟩ := exact_
      rw [advanceThrough] at built
      rcases exact_.advance record with ⟨issues, invalid⟩ | ⟨next, nextKernel, valid, advanced⟩
      · rw [invalid] at built
        cases built
      · rw [valid] at built
        exact induction ⟨nextKernel, advanced⟩ built

/-- In every history that successors build from the empty one, the unfinished attempts kept with it
are those that its indexes give, and no record leads to a defect of the kernel. -/
theorem unfinished_exact {start history : ValidWorkflowJournalHistory checks}
    (empty : reduceWorkflowJournalHistory checks runId [] = .valid start)
    (built : advanceThrough start records = some history) :
    (∃ kernel, history.kernel = some kernel ∧ ∀ taskId,
      kernel.unfinished.lookup taskId = (unfinishedTasksFrom kernel.indexes.kernel).lookup taskId) ∧
      ∀ record detail, advanceWorkflowJournalHistory history record ≠ .defect detail := by
  obtain ⟨kernel, exact_⟩ := historyTracks_through (historyTracks_empty empty) built
  refine ⟨⟨kernel, exact_.kept, exact_.unfinished.lookup_eq⟩, fun record detail defect => ?_⟩
  rcases exact_.advance record with ⟨issues, invalid⟩ | ⟨next, nextKernel, valid, _⟩
  · rw [invalid] at defect
    cases defect
  · rw [valid] at defect
    cases defect

end

namespace ExecutingHistory

open EstablishedRun

def silentChecks : RemainingChecks := ⟨Unit, (), fun _ _ _ _ _ _ => ((), []), fun _ _ => []⟩

def start : ValidWorkflowJournalHistory silentChecks :=
  coldHistory silentChecks runId [] (emptyHistoryIndexes silentChecks)

theorem reduced : reduceWorkflowJournalHistory silentChecks runId [] = .valid start := by
  have none_ : unfinishedResponsibilities emptyKernel = [] := rfl
  have unopposed : finalIssues silentChecks runId (.indexed (journalEvidenceFrom []))
      (emptyHistoryIndexes silentChecks) = [] := by
    simp [finalIssues, validateOneUnfinishedAttemptPerTask, emptyHistoryIndexes, none_,
      duplicateUnfinishedFrom, silentChecks]
  rw [reduceWorkflowJournalHistory, reduceIndexedFrom, unopposed]
  rfl

theorem built_isSome : (advanceThrough start (recordsFrom events)).isSome = true := by
  decide +kernel

/-- While the executor works, its attempt is the unfinished one of the task. -/
theorem unfinished_exact_executing :
    ∃ history, advanceThrough start (recordsFrom events) = some history ∧
      (∃ kernel, history.kernel = some kernel ∧ ∀ taskId, kernel.unfinished.lookup taskId =
        (unfinishedTasksFrom kernel.indexes.kernel).lookup taskId) ∧
      ∀ record detail, advanceWorkflowJournalHistory history record ≠ .defect detail :=
  ⟨_, (Option.some_get built_isSome).symm,
    @unfinished_exact silentChecks runId _ start _ reduced (Option.some_get built_isSome).symm⟩

end ExecutingHistory

end Dalph
