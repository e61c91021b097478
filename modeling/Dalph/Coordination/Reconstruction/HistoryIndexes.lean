import Dalph.Coordination.Reconstruction.History

/-!
# What a replay keeps

Behind accepted records, the indexes of a replay hold exactly the keys, the plans, the choices and
the ended attempts of those records.
-/

namespace Dalph

def choiceOf? : WorkflowJournalEvent → Option AttemptChoiceApplied
  | .attemptChoiceApplied event => some event
  | _ => none

def restartedAttempt? : WorkflowJournalEvent → Option PlannedTaskAttempt
  | .plannedAttemptReplaced event => some event.subject.plannedAttempt
  | _ => none

def recoveredAttempt? : WorkflowJournalEvent → Option PlannedTaskAttempt
  | .resultRecoveryAttemptReplaced event => some event.subject.plannedAttempt
  | _ => none

def stoppedAttempt? : WorkflowJournalEvent → Option PlannedTaskAttempt
  | .attemptImplementationAbandoned event => some event.subject.plannedAttempt
  | _ => none

def cancelledAttempt? : WorkflowJournalEvent → Option PlannedTaskAttempt
  | .cancelledAttemptImplementationAbandoned event => some event.plannedAttempt
  | _ => none

namespace FoldIndexes

def withKey (indexes : FoldIndexes) (key : JournalRecordKey) : FoldIndexes :=
  { indexes with seenKeys := indexes.seenKeys.add key }

def superseding (indexes : FoldIndexes) (attempt : Option PlannedTaskAttempt) : FoldIndexes :=
  { indexes with
    supersededExecutorAttempts :=
      indexes.supersededExecutorAttempts.add? (attempt.map (·.attemptId)) }

def abandoning (indexes : FoldIndexes) (attempt : Option PlannedTaskAttempt) : FoldIndexes :=
  { indexes with
    abandonedExecutorAttempts :=
      indexes.abandonedExecutorAttempts.add? (attempt.map (·.attemptId)) }

def choosing (indexes : FoldIndexes) (choice : Option AttemptChoiceApplied) : FoldIndexes :=
  { indexes with
    attemptChoiceSubjects :=
      indexes.attemptChoiceSubjects.add? (choice.map (attemptChoiceSubjectKey ·.subject))
    attemptStopDirections :=
      (choice.map (indexes.withChoice ·)).elim indexes.attemptStopDirections (·.attemptStopDirections)
    attemptRestartDirections :=
      (choice.map (indexes.withChoice ·)).elim indexes.attemptRestartDirections
        (·.attemptRestartDirections) }

def planning (indexes : FoldIndexes) (plan : Option PlannedAttemptOperation) : FoldIndexes :=
  { indexes with
    plans := plan.elim indexes.plans fun plan =>
      indexes.plans.insert plan.plannedAttempt.attemptId plan.plannedAttempt }

def settled (indexes : FoldIndexes) (record : JournalRecord) : FoldIndexes :=
  (((indexes.withKey record.key).superseding (recoveredAttempt? record.event)).choosing
    (choiceOf? record.event)).abandoning (stoppedAttempt? record.event)

def advance (indexes : FoldIndexes) (record : JournalRecord) : FoldIndexes :=
  ((indexes.settled record).superseding (restartedAttempt? record.event)).planning
    (recordedPlan? record)

end FoldIndexes

section

variable (record : JournalRecord) (index : Nat) (runId : RunId) (source : JournalHistorySource)
  (indexes : FoldIndexes)

theorem validateResultRecovery_indexes :
    (validateResultRecovery record runId source indexes).indexes =
      indexes.superseding (recoveredAttempt? record.event) := by
  unfold validateResultRecovery recoveredAttempt?
  split <;> simp_all [KeySet.add?, FoldIndexes.withSuperseded, FoldIndexes.superseding]

theorem validateAttemptChoice_indexes :
    (validateAttemptChoice record runId source indexes).indexes =
      indexes.choosing (choiceOf? record.event) := by
  unfold validateAttemptChoice choiceOf?
  split <;> simp_all [FoldIndexes.choosing, FoldIndexes.withChoice, KeySet.add?]

theorem validateAttemptStop_indexes :
    (validateAttemptStop record runId source indexes).indexes =
      indexes.abandoning (stoppedAttempt? record.event) := by
  unfold validateAttemptStop stoppedAttempt?
  split <;> simp_all [KeySet.add?, FoldIndexes.abandoning]

variable {record runId source indexes}

theorem restartedAttempt_eq_none {event : WorkflowJournalEvent}
    (other : ∀ replaced, event = .plannedAttemptReplaced replaced → False) :
    restartedAttempt? event = none := by
  unfold restartedAttempt?
  split
  · next replaced => exact (other replaced rfl).elim
  · rfl

theorem validatePlannedAttemptReplacement_indexes
    (accepted : (validatePlannedAttemptReplacement record runId source indexes).issues = []) :
    (validatePlannedAttemptReplacement record runId source indexes).indexes =
      indexes.superseding (restartedAttempt? record.event) := by
  unfold validatePlannedAttemptReplacement at *
  split at accepted
  · next event replaced =>
      have restarted : restartedAttempt? record.event = some event.subject.plannedAttempt := by
        rw [replaced, restartedAttempt?]
      rw [restarted]
      cases applied : appliedRestartForReplacement event (priorRecords record.position source) with
      | none => simp [applied] at accepted
      | some applied =>
          simp [applied, KeySet.add?, FoldIndexes.withSuperseded, FoldIndexes.superseding]
  · next other =>
      rw [restartedAttempt_eq_none other]
      simp [KeySet.add?, FoldIndexes.superseding]

theorem validatePlannedAttemptReplacement_plans :
    (validatePlannedAttemptReplacement record runId source indexes).indexes.plans =
      indexes.plans := by
  unfold validatePlannedAttemptReplacement
  split
  · next event _ =>
      dsimp only
      cases appliedRestartForReplacement event (priorRecords record.position source) <;> rfl
  · rfl

theorem validatePlan_indexes (accepted : (validatePlan record indexes).issues = []) :
    (validatePlan record indexes).indexes = indexes.planning (recordedPlan? record) := by
  unfold validatePlan at *
  cases recorded : recordedPlan? record with
  | none => rfl
  | some plan =>
      simp only [recorded] at accepted ⊢
      cases known : indexes.plans.lookup plan.plannedAttempt.attemptId with
      | none => rfl
      | some prior => simp [known] at accepted

variable (record runId source indexes) (other : FoldIndexes)

theorem validateAttemptChoice_issues
    (subjects : other.attemptChoiceSubjects = indexes.attemptChoiceSubjects)
    (stops : other.attemptStopDirections = indexes.attemptStopDirections)
    (restarts : other.attemptRestartDirections = indexes.attemptRestartDirections) :
    (validateAttemptChoice record runId source other).issues =
      (validateAttemptChoice record runId source indexes).issues := by
  unfold validateAttemptChoice
  split
  · dsimp only
    rw [validatePriorTerminalAttemptChoice, validatePriorTerminalAttemptChoice, subjects, stops,
      restarts]
  · rfl

theorem validateResultRecovery_issues :
    (validateResultRecovery record runId source other).issues =
      (validateResultRecovery record runId source indexes).issues := by
  unfold validateResultRecovery
  split <;> rfl

theorem validateAttemptStop_issues :
    (validateAttemptStop record runId source other).issues =
      (validateAttemptStop record runId source indexes).issues := by
  unfold validateAttemptStop
  split <;> rfl

theorem validatePlannedAttemptReplacement_issues
    (same : other.supersededExecutorAttempts =
      (indexes.superseding (recoveredAttempt? record.event)).supersededExecutorAttempts) :
    (validatePlannedAttemptReplacement record runId source other).issues =
      (validatePlannedAttemptReplacement record runId source indexes).issues := by
  unfold validatePlannedAttemptReplacement
  split
  · next event replaced =>
      rw [replaced] at same
      simp only [recoveredAttempt?, Option.map_none, KeySet.add?, FoldIndexes.superseding] at same
      dsimp only
      cases applied : appliedRestartForReplacement event (priorRecords record.position source) with
      | none => rfl
      | some applied => simp [same]
  · rfl

theorem validatePlan_issues (same : other.plans = indexes.plans) :
    (validatePlan record other).issues = (validatePlan record indexes).issues := by
  unfold validatePlan
  rw [same]
  cases recordedPlan? record with
  | none => rfl
  | some plan =>
      dsimp only
      cases indexes.plans.lookup plan.plannedAttempt.attemptId <;> rfl

theorem none_of_executorCorrelation {event : WorkflowJournalEvent}
    {correlation : PlannedAttemptExecutorCorrelation}
    (executor : event.executorCorrelation? = some correlation) :
    stoppedAttempt? event = none ∧ recoveredAttempt? event = none ∧ restartedAttempt? event = none := by
  cases event <;> simp_all [WorkflowJournalEvent.executorCorrelation?, stoppedAttempt?,
    recoveredAttempt?, restartedAttempt?]

theorem validatePlan_ended :
    (validatePlan record indexes).indexes.abandonedExecutorAttempts =
        indexes.abandonedExecutorAttempts ∧
      (validatePlan record indexes).indexes.supersededExecutorAttempts =
        indexes.supersededExecutorAttempts := by
  unfold validatePlan
  cases recordedPlan? record with
  | none => exact ⟨rfl, rfl⟩
  | some plan =>
      dsimp only
      cases indexes.plans.lookup plan.plannedAttempt.attemptId <;> exact ⟨rfl, rfl⟩

theorem ended_of_executorCorrelation {correlation : PlannedAttemptExecutorCorrelation}
    (executor : record.event.executorCorrelation? = some correlation) :
    (validatePlannedAttemptReplacement record runId source
        (indexes.settled record)).indexes.abandonedExecutorAttempts =
        indexes.abandonedExecutorAttempts ∧
      (validatePlannedAttemptReplacement record runId source
        (indexes.settled record)).indexes.supersededExecutorAttempts =
        indexes.supersededExecutorAttempts := by
  obtain ⟨stopped, recovered, restarted⟩ := none_of_executorCorrelation executor
  unfold validatePlannedAttemptReplacement
  split
  · next event replaced => simp [replaced, restartedAttempt?] at restarted
  · simp [FoldIndexes.settled, FoldIndexes.superseding, FoldIndexes.abandoning,
      FoldIndexes.choosing, FoldIndexes.withKey, stopped, recovered, KeySet.add?]

theorem validateExecutorEvent_issues
    (ended : ∀ correlation, record.event.executorCorrelation? = some correlation →
      other.abandonedExecutorAttempts = indexes.abandonedExecutorAttempts ∧
        other.supersededExecutorAttempts = indexes.supersededExecutorAttempts) :
    (validateExecutorEvent record other).issues = (validateExecutorEvent record indexes).issues := by
  unfold validateExecutorEvent
  cases executor : record.event.executorCorrelation? with
  | none => rfl
  | some correlation =>
      obtain ⟨abandoned, superseded⟩ := ended correlation executor
      rw [abandoned, superseded]

/-- No check says anything against the record. -/
structure RecordAccepted : Prop where
  envelope : (validateRecordEnvelope record index runId indexes).issues = []
  recovery : (validateResultRecovery record runId source indexes).issues = []
  choice : (validateAttemptChoice record runId source indexes).issues = []
  stop : (validateAttemptStop record runId source indexes).issues = []
  cancelled : validateCancelledAttemptHistory record runId source = []
  replacement : (validatePlannedAttemptReplacement record runId source indexes).issues = []
  plan : (validatePlan record indexes).issues = []
  executor : (validateExecutorEvent record indexes).issues = []

theorem validateRecordEnvelope_eq (fresh : ¬ record.key ∈ indexes.seenKeys) :
    (validateRecordEnvelope record index runId indexes).unique = true ∧
      (validateRecordEnvelope record index runId indexes).indexes = indexes.withKey record.key := by
  simp [validateRecordEnvelope, fresh, FoldIndexes.withKey]

theorem validateRecord_issues_eq_nil :
    (validateRecord record index runId source indexes).issues = [] ↔
      RecordAccepted record index runId source indexes := by
  by_cases fresh : record.key ∈ indexes.seenKeys
  · have repeated : (validateRecordEnvelope record index runId indexes).issues ≠ [] := fun none =>
      (validateRecordEnvelope_issues_eq_nil.mp none).2.2.2 fresh
    constructor
    · intro accepted
      rw [validateRecord, List.append_eq_nil_iff] at accepted
      exact absurd accepted.1 repeated
    · exact fun accepted => absurd accepted.envelope repeated
  · obtain ⟨unique, noted⟩ := validateRecordEnvelope_eq record index runId indexes fresh
    have chosen := validateAttemptChoice_issues record runId source indexes
      ((indexes.withKey record.key).superseding (recoveredAttempt? record.event)) rfl rfl rfl
    have replaced := validatePlannedAttemptReplacement_issues record runId source indexes
      (indexes.settled record) rfl
    have planned := validatePlan_issues record indexes
      (validatePlannedAttemptReplacement record runId source (indexes.settled record)).indexes
      validatePlannedAttemptReplacement_plans
    have executed := validateExecutorEvent_issues record indexes
      (validatePlan record (validatePlannedAttemptReplacement record runId source
        (indexes.settled record)).indexes).indexes fun correlation executor => by
          rw [(validatePlan_ended record _).1, (validatePlan_ended record _).2]
          exact ended_of_executorCorrelation record runId source indexes executor
    rw [FoldIndexes.settled] at replaced planned executed
    simp only [validateRecord, unique, noted, if_true, recordChecks, uniqueRecordChecks,
      List.cons_append, List.nil_append, runChecks, List.append_nil, List.append_eq_nil_iff,
      reporting, validateResultRecovery_indexes, validateAttemptChoice_indexes,
      validateAttemptStop_indexes, chosen, replaced, planned, executed,
      validateResultRecovery_issues record runId source indexes (indexes.withKey record.key),
      validateAttemptStop_issues record runId source indexes
        (((indexes.withKey record.key).superseding (recoveredAttempt? record.event)).choosing
          (choiceOf? record.event))]
    constructor
    · rintro ⟨envelope, recovery, choice, stop, cancelled, replacement, plan, executor⟩
      exact ⟨envelope, recovery, choice, stop, cancelled, replacement, plan, executor⟩
    · rintro ⟨envelope, recovery, choice, stop, cancelled, replacement, plan, executor⟩
      exact ⟨envelope, recovery, choice, stop, cancelled, replacement, plan, executor⟩

variable {record index runId source indexes}

theorem RecordAccepted.indexes_eq (accepted : RecordAccepted record index runId source indexes) :
    (validateRecord record index runId source indexes).indexes = indexes.advance record := by
  obtain ⟨unique, noted⟩ := validateRecordEnvelope_eq record index runId indexes
    (validateRecordEnvelope_issues_eq_nil.mp accepted.envelope).2.2.2
  have replaced : (validatePlannedAttemptReplacement record runId source
      (indexes.settled record)).issues = [] := by
    rw [validatePlannedAttemptReplacement_issues record runId source indexes
      (indexes.settled record) rfl]
    exact accepted.replacement
  have planned : (validatePlan record
      ((indexes.settled record).superseding (restartedAttempt? record.event))).issues = [] := by
    rw [validatePlan_issues record indexes
      ((indexes.settled record).superseding (restartedAttempt? record.event)) rfl]
    exact accepted.plan
  have superseded := validatePlannedAttemptReplacement_indexes replaced
  have recorded := validatePlan_indexes planned
  rw [FoldIndexes.advance, ← recorded, ← superseded]
  simp only [validateRecord, unique, noted, if_true, recordChecks, uniqueRecordChecks,
    List.cons_append, List.nil_append, runChecks, reporting, validateResultRecovery_indexes,
    validateAttemptChoice_indexes, validateAttemptStop_indexes, validateExecutorEvent,
    FoldIndexes.settled]

end

/-- The indexes hold exactly what the records say. -/
structure Tracks (records : List JournalRecord) (indexes : FoldIndexes) : Prop where
  seenKeys : ∀ key, key ∈ indexes.seenKeys ↔ ∃ record ∈ records, record.key = key
  plans : ∀ attemptId plan, indexes.plans.lookup attemptId = some plan ↔
    ∃ record ∈ records, ∃ operation, recordedPlan? record = some operation ∧
      operation.plannedAttempt = plan ∧ plan.attemptId = attemptId
  superseded : ∀ attemptId, attemptId ∈ indexes.supersededExecutorAttempts ↔
    ∃ record ∈ records, ∃ attempt, (recoveredAttempt? record.event = some attempt ∨
      restartedAttempt? record.event = some attempt) ∧ attempt.attemptId = attemptId
  abandoned : ∀ attemptId, attemptId ∈ indexes.abandonedExecutorAttempts ↔
    ∃ record ∈ records, ∃ attempt, stoppedAttempt? record.event = some attempt ∧
      attempt.attemptId = attemptId
  subjects : ∀ key, key ∈ indexes.attemptChoiceSubjects ↔
    ∃ record ∈ records, ∃ choice, choiceOf? record.event = some choice ∧
      attemptChoiceSubjectKey choice.subject = key
  stops : ∀ attemptId, (indexes.attemptStopDirections.lookup attemptId).isSome = true ↔
    ∃ record ∈ records, ∃ choice, choiceOf? record.event = some choice ∧
      choice.choice = .stopTaskImplementation ∧ choice.subject.plannedAttempt.attemptId = attemptId
  restarts : ∀ attemptId, (indexes.attemptRestartDirections.lookup attemptId).isSome = true ↔
    ∃ record ∈ records, ∃ choice, choiceOf? record.event = some choice ∧
      choice.choice = .restartTaskImplementation ∧
        choice.subject.plannedAttempt.attemptId = attemptId

theorem tracks_empty : Tracks [] emptyIndexes where
  seenKeys key := by simp [emptyIndexes]
  plans attemptId plan := by simp [emptyIndexes]
  superseded attemptId := by simp [emptyIndexes]
  abandoned attemptId := by simp [emptyIndexes]
  subjects key := by simp [emptyIndexes]
  stops attemptId := by simp [emptyIndexes]
  restarts attemptId := by simp [emptyIndexes]

namespace Tracks

variable {records : List JournalRecord} {record : JournalRecord} {indexes : FoldIndexes}

theorem lookup_of_accepted (accepted : (validatePlan record indexes).issues = [])
    {operation : PlannedAttemptOperation} (recorded : recordedPlan? record = some operation) :
    indexes.plans.lookup operation.plannedAttempt.attemptId = none := by
  unfold validatePlan at accepted
  simp only [recorded] at accepted
  cases known : indexes.plans.lookup operation.plannedAttempt.attemptId with
  | none => rfl
  | some prior => simp [known] at accepted

theorem plans_advance (tracks : Tracks records indexes)
    (accepted : (validatePlan record indexes).issues = []) (attemptId : AttemptId)
    (plan : PlannedTaskAttempt) :
    (indexes.advance record).plans.lookup attemptId = some plan ↔
      ∃ other ∈ records ++ [record], ∃ operation, recordedPlan? other = some operation ∧
        operation.plannedAttempt = plan ∧ plan.attemptId = attemptId := by
  have kept : (indexes.advance record).plans = (indexes.planning (recordedPlan? record)).plans := rfl
  rw [kept, FoldIndexes.planning]
  simp only [List.mem_append, List.mem_singleton, or_and_right, exists_or, exists_eq_left]
  rw [← tracks.plans attemptId plan]
  cases recorded : recordedPlan? record with
  | none => simp
  | some operation =>
      have fresh := lookup_of_accepted accepted recorded
      simp only [Option.elim_some, KeyedMap.lookup_insert_eq_ite, Option.some.injEq,
        exists_eq_left']
      by_cases same : operation.plannedAttempt.attemptId = attemptId
      · subst same
        simp only [fresh, if_true, Option.some.injEq, reduceCtorEq, false_or]
        exact ⟨fun planned => ⟨planned, by rw [planned]⟩, And.left⟩
      · have differs : ¬ attemptId = operation.plannedAttempt.attemptId := fun other => same other.symm
        simp only [differs, if_false]
        constructor
        · exact Or.inl
        · rintro (known | ⟨rfl, again⟩)
          · exact known
          · exact absurd again same

theorem exists_append (test : JournalRecord → Prop) :
    (∃ other ∈ records ++ [record], test other) ↔ (∃ other ∈ records, test other) ∨ test record := by
  simp only [List.mem_append, List.mem_singleton, or_and_right, exists_or, exists_eq_left]

theorem directions_advance {choice : AttemptChoice}
    {directions after : KeyedMap AttemptId PlannedTaskAttempt}
    (holds : ∀ attemptId, (directions.lookup attemptId).isSome = true ↔
      ∃ other ∈ records, ∃ applied, choiceOf? other.event = some applied ∧
        applied.choice = choice ∧ applied.subject.plannedAttempt.attemptId = attemptId)
    (kept : choiceOf? record.event = none → after = directions)
    (set : ∀ applied, choiceOf? record.event = some applied → after =
      if applied.choice = choice then
        directions.insert applied.subject.plannedAttempt.attemptId applied.subject.plannedAttempt
      else directions) (attemptId : AttemptId) :
    (after.lookup attemptId).isSome = true ↔
      ∃ other ∈ records ++ [record], ∃ applied, choiceOf? other.event = some applied ∧
        applied.choice = choice ∧ applied.subject.plannedAttempt.attemptId = attemptId := by
  rw [exists_append, ← holds]
  cases chosen : choiceOf? record.event with
  | none => simp [kept chosen]
  | some applied =>
      rw [set applied chosen]
      simp only [Option.some.injEq, exists_eq_left']
      by_cases same : applied.choice = choice
      · simp only [same, if_true, KeyedMap.lookup_insert_eq_ite, true_and]
        by_cases here : attemptId = applied.subject.plannedAttempt.attemptId
        · simp [here]
        · simp [here, Ne.symm here]
      · simp [same]

theorem advance (tracks : Tracks records indexes)
    (accepted : (validatePlan record indexes).issues = []) :
    Tracks (records ++ [record]) (indexes.advance record) where
  seenKeys key := by
    have kept : (indexes.advance record).seenKeys = indexes.seenKeys.add record.key := rfl
    rw [exists_append, kept, KeySet.mem_add, tracks.seenKeys, or_comm, eq_comm]
  plans := tracks.plans_advance accepted
  superseded attemptId := by
    have kept : (indexes.advance record).supersededExecutorAttempts =
        (indexes.supersededExecutorAttempts.add?
          ((recoveredAttempt? record.event).map (·.attemptId))).add?
            ((restartedAttempt? record.event).map (·.attemptId)) := rfl
    rw [exists_append, kept, KeySet.mem_add?, KeySet.mem_add?, tracks.superseded]
    simp only [Option.map_eq_some_iff, or_and_right, exists_or]
    constructor
    · rintro (restarted | recovered | earlier)
      · exact Or.inr (Or.inr restarted)
      · exact Or.inr (Or.inl recovered)
      · exact Or.inl earlier
    · rintro (earlier | recovered | restarted)
      · exact Or.inr (Or.inr earlier)
      · exact Or.inr (Or.inl recovered)
      · exact Or.inl restarted
  abandoned attemptId := by
    have kept : (indexes.advance record).abandonedExecutorAttempts =
        indexes.abandonedExecutorAttempts.add?
          ((stoppedAttempt? record.event).map (·.attemptId)) := rfl
    rw [exists_append, kept, KeySet.mem_add?, tracks.abandoned, or_comm]
    simp only [Option.map_eq_some_iff]
  subjects key := by
    have kept : (indexes.advance record).attemptChoiceSubjects =
        indexes.attemptChoiceSubjects.add?
          ((choiceOf? record.event).map (attemptChoiceSubjectKey ·.subject)) := rfl
    rw [exists_append, kept, KeySet.mem_add?, tracks.subjects, or_comm]
    simp only [Option.map_eq_some_iff]
  stops := by
    refine directions_advance tracks.stops (fun chosen => ?_) (fun applied chosen => ?_)
    all_goals
      simp [FoldIndexes.advance, FoldIndexes.planning, FoldIndexes.superseding,
        FoldIndexes.settled, FoldIndexes.abandoning, FoldIndexes.choosing, chosen,
        FoldIndexes.withKey, FoldIndexes.withChoice]
  restarts := by
    refine directions_advance tracks.restarts (fun chosen => ?_) (fun applied chosen => ?_)
    all_goals
      simp [FoldIndexes.advance, FoldIndexes.planning, FoldIndexes.superseding,
        FoldIndexes.settled, FoldIndexes.abandoning, FoldIndexes.choosing, chosen,
        FoldIndexes.withKey, FoldIndexes.withChoice]

end Tracks

section

variable {replay : HistoryReplay} {runId : RunId} {records before after : List JournalRecord}
  {record : JournalRecord} {index : Nat} {indexes : FoldIndexes}

theorem replayFrom_append :
    replayFrom replay runId records index (before ++ after) indexes =
      { indexes := (replayFrom replay runId records (index + before.length) after
          (replayFrom replay runId records index before indexes).indexes).indexes
        issues := (replayFrom replay runId records index before indexes).issues ++
          (replayFrom replay runId records (index + before.length) after
            (replayFrom replay runId records index before indexes).indexes).issues } := by
  induction before generalizing index indexes with
  | nil => simp [replayFrom]
  | cons first before induction =>
      simp only [List.cons_append, replayFrom, induction, List.length_cons, List.append_assoc]
      rw [show index + 1 + before.length = index + (before.length + 1) by omega]

theorem tracks_replay
    (accepted : (replayFrom replay runId records 0 before emptyIndexes).issues = []) :
    Tracks before (replayFrom replay runId records 0 before emptyIndexes).indexes := by
  induction before using List.reverseRecOn with
  | nil => exact tracks_empty
  | append_singleton before record induction =>
      rw [replayFrom_append] at accepted ⊢
      obtain ⟨first, last⟩ := List.append_eq_nil_iff.mp accepted
      simp only [replayFrom, List.append_nil] at last
      have record_accepted := (validateRecord_issues_eq_nil _ _ _ _ _).mp last
      simp only [replayFrom, record_accepted.indexes_eq]
      exact (induction first).advance record_accepted.plan

end

def ReplayedBy (replay : HistoryReplay) (runId : RunId) (records : List JournalRecord) : Prop :=
  (replayHistory replay runId records).issues = []

theorem AcceptedHistory.replayed {runId : RunId} {records : List JournalRecord}
    (accepted : AcceptedHistory runId records) : ∃ replay, ReplayedBy replay runId records := by
  rcases accepted with indexed | raw
  · exact ⟨.indexed, indexed⟩
  · exact ⟨.raw, raw⟩

theorem ReplayedBy.record {replay : HistoryReplay} {runId : RunId}
    {before after : List JournalRecord} {record : JournalRecord}
    (replayed : ReplayedBy replay runId (before ++ record :: after)) :
    ∃ indexes, Tracks before indexes ∧
      RecordAccepted record before.length runId
        (HistoryReplay.source replay (before ++ record :: after) before.length) indexes := by
  rw [ReplayedBy, replayHistory, replayFrom_append] at replayed
  obtain ⟨first, last⟩ := List.append_eq_nil_iff.mp replayed
  simp only [replayFrom, List.append_eq_nil_iff, Nat.zero_add] at last
  exact ⟨_, tracks_replay first, (validateRecord_issues_eq_nil _ _ _ _ _).mp last.1⟩

theorem AcceptedHistory.record {runId : RunId} {before after : List JournalRecord}
    {record : JournalRecord} (accepted : AcceptedHistory runId (before ++ record :: after)) :
    ∃ replay indexes, Tracks before indexes ∧
      RecordAccepted record before.length runId
        (HistoryReplay.source replay (before ++ record :: after) before.length) indexes := by
  obtain ⟨replay, replayed⟩ := accepted.replayed
  exact ⟨replay, replayed.record⟩

theorem Canonical.concat {runId : RunId} {before : List JournalRecord} {record : JournalRecord}
    {indexes : FoldIndexes} (canonical : Canonical runId before) (tracks : Tracks before indexes)
    (envelope : (validateRecordEnvelope record before.length runId indexes).issues = []) :
    Canonical runId (before ++ [record]) := by
  obtain ⟨position, owned, keyed, fresh⟩ := validateRecordEnvelope_issues_eq_nil.mp envelope
  exact canonical.extended position owned keyed fun other member same =>
    fresh ((tracks.seenKeys record.key).mpr ⟨other, member, same⟩)

theorem canonical_nil (runId : RunId) : Canonical runId [] :=
  ⟨rfl, by simp, by simp, List.nodup_nil⟩

theorem AcceptedHistory.canonical_left {runId : RunId} {before after : List JournalRecord}
    (accepted : AcceptedHistory runId (before ++ after)) : Canonical runId before := by
  induction before using List.reverseRecOn generalizing after with
  | nil => exact canonical_nil runId
  | append_singleton before record induction =>
      rw [List.append_assoc, List.singleton_append] at accepted
      obtain ⟨replay, indexes, tracks, checked⟩ := accepted.record
      exact (induction accepted).concat tracks checked.envelope

theorem AcceptedHistory.canonical {runId : RunId} {records : List JournalRecord}
    (accepted : AcceptedHistory runId records) : Canonical runId records := by
  rw [← List.append_nil records] at accepted
  exact accepted.canonical_left

end Dalph
