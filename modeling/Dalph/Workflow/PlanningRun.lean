import Dalph.Workflow.AttemptPlanning

/-!
# Runs of the plan writers

Every plan of a run comes from one of the three writers through one deterministic planner.  While a
writer allocates, the journal may grow by records that plan no attempt of its task.
-/

namespace Dalph

namespace AttemptPlanWriter

def tag : AttemptPlanWriter → WorkflowJournalEventTag
  | freshWorkflow => .taskAttemptPlanned
  | restart => .plannedAttemptReplaced
  | resultRecovery => .resultRecoveryAttemptReplaced

def request (writer : AttemptPlanWriter) (baseSha : GitCommitSha) (ordinal : Nat)
    (specification : PlannedWorkSpecification) : PlannedTaskAttemptPlanRequest :=
  match writer with
  | freshWorkflow => .fresh baseSha ordinal specification
  | restart => .exactReplacement baseSha ordinal specification
  | resultRecovery => .exactReplacement baseSha ordinal specification

section

variable (writer : AttemptPlanWriter) (baseSha : GitCommitSha) (ordinal : Nat)
  (specification : PlannedWorkSpecification)

@[simp]
theorem request_ordinal : (writer.request baseSha ordinal specification).ordinal = ordinal := by
  cases writer <;> rfl

@[simp]
theorem request_specification :
    (writer.request baseSha ordinal specification).specification = specification := by
  cases writer <;> rfl

end

end AttemptPlanWriter

/-- One writer read a source, got the plan of the next ordinal and recorded it. -/
structure AllocatesPlan (options : DeterministicPlannedTaskAttemptOptions)
    (writer : AttemptPlanWriter) (source : JournalHistorySource) (taskId : TaskId)
    (record : JournalRecord) : Prop where
  kind : record.event.tag = writer.tag
  decoded : invalidPlanEvent record.event = none
  planned : ∃ baseSha fingerprint plan, recordedPlan? record = some plan ∧
    options.plan (writer.request baseSha (nextAttemptOrdinal writer source taskId)
      ⟨taskId, fingerprint⟩) = some plan.plannedAttempt

/-- The histories that the writers produce where each allocation is permitted for what it read. -/
inductive PlanningRun (options : DeterministicPlannedTaskAttemptOptions)
    (permitted : AttemptPlanWriter → List JournalRecord → TaskId → Prop) :
    List JournalRecord → Prop
  | empty : PlanningRun options permitted []
  | other {history : List JournalRecord} {record : JournalRecord}
      (run : PlanningRun options permitted history) (plansNothing : recordedPlan? record = none) :
      PlanningRun options permitted (history ++ [record])
  | plan {read meanwhile : List JournalRecord} {source : JournalHistorySource}
      {writer : AttemptPlanWriter} {taskId : TaskId} {record : JournalRecord}
      (run : PlanningRun options permitted (read ++ meanwhile)) (presents : Presents source read)
      (untouched : ∀ other ∈ meanwhile, plansFor taskId other = false)
      (permission : permitted writer read taskId)
      (allocates : AllocatesPlan options writer source taskId record) :
      PlanningRun options permitted (read ++ meanwhile ++ [record])

def RestartUnmixed (writer : AttemptPlanWriter) (records : List JournalRecord) (taskId : TaskId) :
    Prop :=
  writer = .restart → WithoutRecoveryReplacement records taskId

def OrdinalsArePlaces (options : DeterministicPlannedTaskAttemptOptions)
    (records : List JournalRecord) : Prop :=
  ∀ taskId place attempt, (attemptsPlannedFor records taskId)[place]? = some attempt →
    ∃ request : PlannedTaskAttemptPlanRequest, request.ordinal = place ∧
      request.specification.taskId = taskId ∧ attempt = options.planned request

section Append

variable {history : List JournalRecord} {record : JournalRecord}

theorem attemptsPlannedFor_append (history rest : List JournalRecord) (taskId : TaskId) :
    attemptsPlannedFor (history ++ rest) taskId =
      attemptsPlannedFor history taskId ++ attemptsPlannedFor rest taskId := by
  simp [attemptsPlannedFor]

theorem attemptsPlannedFor_of_untouched {taskId : TaskId}
    (untouched : ∀ other ∈ history, plansFor taskId other = false) :
    attemptsPlannedFor history taskId = [] := by
  rw [attemptsPlannedFor, List.filterMap_eq_nil_iff]
  intro other member
  have unplanned := untouched other member
  cases plan : recordedPlan? other with
  | none => simp [attemptPlannedFor?, plan]
  | some operation =>
      simp only [plansFor, plan, Option.any_some, decide_eq_false_iff_not] at unplanned
      simp [attemptPlannedFor?, plan, unplanned]

theorem attemptsPlannedFor_none (plansNothing : recordedPlan? record = none) (taskId : TaskId) :
    attemptsPlannedFor [record] taskId = [] :=
  attemptsPlannedFor_of_untouched (by simp [plansFor, plansNothing])

theorem attemptsPlannedFor_plan {plan : PlannedAttemptOperation}
    (recorded : recordedPlan? record = some plan) (taskId : TaskId) :
    attemptsPlannedFor [record] taskId =
      if plan.plannedAttempt.taskId = taskId then [plan.plannedAttempt] else [] := by
  by_cases task : plan.plannedAttempt.taskId = taskId
  · rw [if_pos task, attemptsPlannedFor, List.filterMap_cons, attemptPlannedFor?, recorded,
      Option.map_some, Option.filter_some, if_pos (decide_eq_true task)]
    rfl
  · rw [if_neg task, attemptsPlannedFor, List.filterMap_cons, attemptPlannedFor?, recorded,
      Option.map_some, Option.filter_some, if_neg (by simpa using task)]
    rfl

theorem decoded_of_none (plansNothing : recordedPlan? record = none) :
    invalidPlanEvent record.event = none := by
  unfold recordedPlan? at plansNothing
  unfold invalidPlanEvent
  split <;> simp_all

theorem OrdinalsArePlaces.append {options : DeterministicPlannedTaskAttemptOptions}
    (places : OrdinalsArePlaces options history) {plan : PlannedAttemptOperation}
    (recorded : recordedPlan? record = some plan) {request : PlannedTaskAttemptPlanRequest}
    (ordinal : request.ordinal =
      (attemptsPlannedFor history request.specification.taskId).length)
    (planned : plan.plannedAttempt = options.planned request) :
    OrdinalsArePlaces options (history ++ [record]) := by
  intro taskId place attempt found
  rw [attemptsPlannedFor_append, attemptsPlannedFor_plan recorded] at found
  by_cases task : plan.plannedAttempt.taskId = taskId
  · rw [if_pos task] at found
    obtain earlier | last := lt_or_ge place (attemptsPlannedFor history taskId).length
    · rw [List.getElem?_append_left earlier] at found
      exact places taskId place attempt found
    · obtain ⟨inside, value⟩ := List.getElem?_eq_some_iff.mp found
      rw [List.length_append, List.length_singleton] at inside
      have only : place = (attemptsPlannedFor history taskId).length := by omega
      subst only
      rw [List.getElem?_concat_length, Option.some.injEq] at found
      have taskOfRequest : request.specification.taskId = taskId := by
        rw [← task, planned]
        rfl
      exact ⟨request, taskOfRequest ▸ ordinal, taskOfRequest, found ▸ planned⟩
  · rw [if_neg task, List.append_nil] at found
    exact places taskId place attempt found

end Append

section Runs

variable {options : DeterministicPlannedTaskAttemptOptions}
  {permitted : AttemptPlanWriter → List JournalRecord → TaskId → Prop}
  {history : List JournalRecord}

theorem PlanningRun.decoded (run : PlanningRun options permitted history) :
    ReplacementsDecoded history := by
  induction run with
  | empty => exact fun record member => absurd member List.not_mem_nil
  | other run plansNothing decoded =>
      intro other member
      obtain earlier | last := Log.mem_concat.mp member
      · exact decoded other earlier
      · rw [last]
        exact decoded_of_none plansNothing
  | plan run presents untouched permission allocates decoded =>
      intro other member
      obtain earlier | last := Log.mem_concat.mp member
      · exact decoded other earlier
      · rw [last]
        exact allocates.decoded

theorem PlanningRun.ordinalsArePlaces (run : PlanningRun options RestartUnmixed history) :
    OrdinalsArePlaces options history := by
  induction run with
  | empty => exact fun taskId place attempt found => absurd found (by simp [attemptsPlannedFor])
  | other run plansNothing places =>
      intro taskId place attempt found
      rw [attemptsPlannedFor_append, attemptsPlannedFor_none plansNothing, List.append_nil] at found
      exact places taskId place attempt found
  | @plan read meanwhile source writer taskId record run presents untouched permission allocates
      places =>
      have decoded : ReplacementsDecoded read := fun other member =>
        run.decoded other (List.mem_append_left _ member)
      obtain ⟨baseSha, fingerprint, plan, recorded, planned⟩ := allocates.planned
      have counted : nextAttemptOrdinal writer source taskId =
          (attemptsPlannedFor read taskId).length := by
        cases writer with
        | freshWorkflow => exact freshAttemptOrdinal_eq presents taskId
        | restart => exact (ordinals_agree_iff presents decoded taskId).mpr (permission rfl) .restart
        | resultRecovery => exact resultRecoveryAttemptOrdinal_eq presents decoded taskId
      refine places.append recorded ?_ (options.planned_of_plan planned)
      rw [AttemptPlanWriter.request_ordinal, AttemptPlanWriter.request_specification, counted,
        attemptsPlannedFor_append, attemptsPlannedFor_of_untouched untouched, List.append_nil]

theorem OrdinalsArePlaces.distinct (places : OrdinalsArePlaces options history) (taskId : TaskId) :
    (attemptsPlannedFor history taskId).Pairwise DistinctResources := by
  rw [List.pairwise_iff_getElem]
  intro place other inside inside' before
  obtain ⟨request, ordinal, task, planned⟩ :=
    places taskId place _ (List.getElem?_eq_getElem inside)
  obtain ⟨request', ordinal', task', planned'⟩ :=
    places taskId other _ (List.getElem?_eq_getElem inside')
  rw [planned, planned']
  exact planned_distinct (task.trans task'.symm) (by omega)

end Runs

/-- The writers agree on the next ordinal of a task exactly when result recovery planned no attempt
of it, and where every Restart meets that condition, no two attempts of a task share anything. -/
theorem attemptOrdinals_fresh_iff (taskId : TaskId) :
    (∀ source records, Presents source records → ReplacementsDecoded records →
      ((∀ writer, nextAttemptOrdinal writer source taskId =
        (attemptsPlannedFor records taskId).length) ↔ WithoutRecoveryReplacement records taskId)) ∧
    ∀ options history, PlanningRun options RestartUnmixed history →
      (attemptsPlannedFor history taskId).Pairwise DistinctResources :=
  ⟨fun _ _ presents decoded => ordinals_agree_iff presents decoded taskId,
    fun _ _ run => run.ordinalsArePlaces.distinct taskId⟩

namespace MixedReplacements

def options : DeterministicPlannedTaskAttemptOptions where
  executor := "executor"
  runId := ⟨"mixed-replacements", by decide⟩
  worktreeRoot := "/worktrees"
  separateReplacementNamespace := false

def specification : PlannedWorkSpecification := ⟨⟨"task"⟩, ⟨"revision"⟩⟩

def base : GitCommitSha := ⟨"base"⟩

def attempt : Nat → PlannedTaskAttempt
  | 0 => options.planned (.fresh base 0 specification)
  | ordinal + 1 => options.planned (.exactReplacement base (ordinal + 1) specification)

def planned : JournalRecord :=
  ⟨.taskAttemptPlanned ⟨⟨"plan"⟩, attempt 0, []⟩, attemptPlanRecordKey (attempt 0).attemptId, 1,
    options.runId⟩

def witness (ordinal : Nat) : PlannedAttemptContinuationWitness where
  graphObservationOperationId := ⟨s!"graph:{ordinal}"⟩
  taskClaimObservationOperationId := ⟨s!"claim:{ordinal}"⟩
  taskWorkSpecificationObservationOperationId := ⟨s!"specification:{ordinal}"⟩
  targetLineageObservationOperationId := ⟨s!"lineage:{ordinal}"⟩
  worktreeObservationOperationId := ⟨s!"worktree:{ordinal}"⟩

def recovered (ordinal : Nat) : JournalRecord where
  event := .resultRecoveryAttemptReplaced
    { requestId := ⟨s!"request:{ordinal}", options.runId⟩
      subject := .rejectedResult (attempt ordinal) 1
      integrationTarget := ⟨"repository", "refs/heads/main"⟩
      witness := witness ordinal
      writerCustody := none
      successorPlan := ⟨⟨s!"plan:{ordinal}"⟩, attempt (ordinal + 1), (witness ordinal).reads⟩ }
  key := resultRecoveryAttemptReplacedRecordKey (attempt ordinal).attemptId
  position := ordinal + 2
  runId := options.runId

def history : List JournalRecord := [planned, recovered 0, recovered 1]

theorem chronological_planned : Chronological [planned] :=
  ⟨by simp [PersistentSequence.Increasing], by decide⟩

theorem chronological_history : Chronological history :=
  ⟨by unfold history PersistentSequence.Increasing; decide, by decide⟩

theorem run_planned : PlanningRun options RestartUnmixed [planned] := by
  refine @PlanningRun.plan options RestartUnmixed [] [] (.raw []) .freshWorkflow ⟨"task"⟩ planned
    .empty (.raw []) (by simp) (by simp [RestartUnmixed]) ⟨rfl, rfl, base, ⟨"revision"⟩, _, rfl, ?_⟩
  decide

/-- After one fresh plan every writer counts one attempt. -/
theorem ordinals_fresh_after_plan :
    (∀ writer, nextAttemptOrdinal writer (.indexed (journalEvidenceFrom [planned])) ⟨"task"⟩ =
      (attemptsPlannedFor [planned] ⟨"task"⟩).length) ∧
    (attemptsPlannedFor [planned] ⟨"task"⟩).Pairwise DistinctResources :=
  ⟨((attemptOrdinals_fresh_iff ⟨"task"⟩).1 (.indexed (journalEvidenceFrom [planned])) [planned]
      (presents_journalEvidenceFrom chronological_planned)
      (by unfold ReplacementsDecoded; decide)).mpr (by unfold WithoutRecoveryReplacement; decide),
    (attemptOrdinals_fresh_iff ⟨"task"⟩).2 options [planned] run_planned⟩

/-- Three attempts are planned, Restart counts one, and its plan is that of an older attempt. -/
theorem restart_repeats_attempt :
    Chronological history ∧ ReplacementsDecoded history ∧
    (attemptsPlannedFor history ⟨"task"⟩).length = 3 ∧
    nextAttemptOrdinal .restart (.indexed (journalEvidenceFrom history)) ⟨"task"⟩ = 1 ∧
    options.plan (AttemptPlanWriter.restart.request base
      (nextAttemptOrdinal .restart (.indexed (journalEvidenceFrom history)) ⟨"task"⟩)
      specification) = some (attempt 1) ∧ attempt 1 ∈ attemptsPlannedFor history ⟨"task"⟩ :=
  ⟨chronological_history, by unfold ReplacementsDecoded; decide, by decide, by decide, by decide,
    by decide⟩

end MixedReplacements

end Dalph
