import Dalph.Foundation.Closure
import Dalph.TaskTracker.Facts

/-!
# Classification of one complete Run graph

The outcome of a graph is computed from lifecycles and prerequisite edges alone.  Blockage starts
at the tasks that ended without success and spreads along prerequisite edges until nothing changes.
-/

namespace Dalph

inductive RunGraphOutcome where
  | allTasksSucceeded
  | blocked
  | unsettled
deriving DecidableEq

inductive RunTerminationDisposition where
  | completed
  | blocked
  | cancelled
deriving DecidableEq

def runTerminationDispositionOf (graphOutcome : RunGraphOutcome) (cancellationApplied : Bool) :
    Option RunTerminationDisposition :=
  if graphOutcome = .allTasksSucceeded then some .completed
  else if cancellationApplied then some .cancelled
  else if graphOutcome = .blocked then some .blocked
  else none

structure RunGraphTaskFacts where
  id : TaskId
  lifecycle : TaskLifecycle
  prerequisiteIds : List TaskId
deriving DecidableEq

structure RunGraphFactsOutcome where
  graphOutcome : RunGraphOutcome
  terminalTaskIds : List TaskId
  blockedTaskIds : List TaskId
deriving DecidableEq

def prerequisiteNodes (tasks : List RunGraphTaskFacts) : List (TaskId × List TaskId) :=
  tasks.map fun task => (task.id, task.prerequisiteIds)

def terminalTaskIds (tasks : List RunGraphTaskFacts) : List TaskId :=
  sorted ((tasks.filter (·.lifecycle = .terminalWithoutSuccess)).map (·.id))

def blockedTaskIds (tasks : List RunGraphTaskFacts) : List TaskId :=
  Closure.saturate (prerequisiteNodes tasks) (terminalTaskIds tasks).dedup

/-- Classify lifecycle and prerequisite facts. -/
def runGraphTaskFactsOutcome (tasks : List RunGraphTaskFacts) : RunGraphFactsOutcome :=
  let terminal := terminalTaskIds tasks
  let blocked := blockedTaskIds tasks
  let allTasksSucceeded := tasks.all (·.lifecycle = .completedSuccessfully)
  let allTasksSettledBySuccessOrBlockage :=
    tasks.all fun task => task.lifecycle = .completedSuccessfully ∨ task.id ∈ blocked
  { graphOutcome :=
      if allTasksSucceeded then .allTasksSucceeded
      else if terminal.length > 0 ∧ allTasksSettledBySuccessOrBlockage then .blocked
      else .unsettled
    terminalTaskIds := terminal
    blockedTaskIds := sorted blocked }

namespace TaskDagSnapshot

def taskFacts (snapshot : TaskDagSnapshot) : List RunGraphTaskFacts :=
  snapshot.wireTasks.map fun task => ⟨task.id, task.lifecycle, task.prerequisiteIds⟩

def runGraphFactsOutcome (snapshot : TaskDagSnapshot) : RunGraphFactsOutcome :=
  runGraphTaskFactsOutcome snapshot.taskFacts

end TaskDagSnapshot

/-- Fact families that a classification of the whole graph needs. -/
inductive RunFinalityFactFamily where
  | taskIdentities
  | taskLifecycles
  | taskPrerequisites
  | taskGroupings
  | taskTargetMembership
deriving DecidableEq

def requiredRunFinalityFactFamilies : List RunFinalityFactFamily :=
  [.taskIdentities, .taskLifecycles, .taskPrerequisites, .taskGroupings, .taskTargetMembership]

/-- Tracker facts that classify one fresh complete Run graph. -/
structure RunFinalityEvidenceFields where
  complete : Bool
  coverage : CompleteTargetClosureCoverage
  contentIdentity : TrackerRevision
  graphOutcome : RunGraphOutcome
  operationId : OperationId
  /-- Subjects of the read shape kept beside the coverage. -/
  readShape : List TaskId
  requiredFactFamilies : List RunFinalityFactFamily
  rootTaskId : TaskId
  runId : RunId
  blockedTaskIds : List TaskId
  target : TrackerTarget
  terminalTaskIds : List TaskId
  observedAt : JournalPosition
deriving DecidableEq

/-- First defect of finality evidence taken by itself. -/
def runFinalityEvidenceIssue (evidence : RunFinalityEvidenceFields) : Option String :=
  if !evidence.complete then some "finality evidence must be complete"
  else if taskTrackerTargetKey evidence.coverage.target ≠ taskTrackerTargetKey evidence.target then
    some "finality coverage must name the exact Run tracker target"
  else if evidence.requiredFactFamilies ≠ requiredRunFinalityFactFamilies then
    some "finality evidence must include every complete graph fact family in order"
  else if exactTaskIdSetKey evidence.readShape ≠
      exactTaskIdSetKey evidence.coverage.explicitlyCoveredTaskIds then
    some "finality evidence read shape must exactly match its coverage"
  else if evidence.rootTaskId.value.length = 0 then
    some "finality evidence must name the exact Run root"
  else if evidence.graphOutcome = .blocked ∧
      (evidence.terminalTaskIds.length = 0 ∨ evidence.blockedTaskIds.length = 0) then
    some "blocked finality evidence must name terminal and dependent unsuccessful tasks"
  else if evidence.graphOutcome = .allTasksSucceeded ∧
      (evidence.terminalTaskIds.length > 0 ∨ evidence.blockedTaskIds.length > 0) then
    some "all-success finality evidence may not name unsuccessful tasks"
  else none

structure RunFinalityEvidence extends RunFinalityEvidenceFields where
  valid : runFinalityEvidenceIssue toRunFinalityEvidenceFields = none
deriving DecidableEq

/-- What evidence of one graph observation is built from. -/
structure RunFinalityEvidenceInput where
  runId : RunId
  target : TrackerTarget
  operationId : OperationId
  observedAt : JournalPosition
  snapshot : TaskDagSnapshot
  readShape : List TaskId
  rootTaskId : TaskId
  /-- A task identity is a nonempty text. -/
  rootTaskId_nonempty : rootTaskId.value ≠ "" := by decide

def runFinalityEvidenceOf (outcome : RunGraphFactsOutcome) (input : RunFinalityEvidenceInput) :
    RunFinalityEvidenceFields :=
  { blockedTaskIds := outcome.blockedTaskIds
    complete := true
    coverage := { explicitlyCoveredTaskIds := input.readShape, target := input.target }
    contentIdentity := input.snapshot.decoded.revision
    graphOutcome := outcome.graphOutcome
    operationId := input.operationId
    readShape := input.readShape
    requiredFactFamilies := requiredRunFinalityFactFamilies
    rootTaskId := input.rootTaskId
    runId := input.runId
    target := input.target
    terminalTaskIds := outcome.terminalTaskIds
    observedAt := input.observedAt }

def makeRunFinalityEvidence (input : RunFinalityEvidenceInput) : RunFinalityEvidenceFields :=
  runFinalityEvidenceOf input.snapshot.runGraphFactsOutcome input

def DependsOnFailure (tasks : List RunGraphTaskFacts) (taskId : TaskId) : Prop :=
  ∃ failed ∈ tasks, failed.lifecycle = .terminalWithoutSuccess ∧
    Closure.Reaches (prerequisiteNodes tasks) failed.id taskId

variable {tasks : List RunGraphTaskFacts}

theorem mem_blockedTaskIds {taskId : TaskId} :
    taskId ∈ blockedTaskIds tasks ↔ DependsOnFailure tasks taskId := by
  unfold blockedTaskIds terminalTaskIds DependsOnFailure
  rw [Closure.mem_saturate_iff]
  constructor
  · rintro ⟨origin, member, reaches⟩
    obtain ⟨failed, failedMember, rfl⟩ := List.mem_map.mp (mem_sorted.mp (List.mem_dedup.mp member))
    obtain ⟨listed, terminal⟩ := List.mem_filter.mp failedMember
    exact ⟨failed, listed, of_decide_eq_true terminal, reaches⟩
  · rintro ⟨failed, member, terminal, reaches⟩
    refine ⟨failed.id, List.mem_dedup.mpr (mem_sorted.mpr (List.mem_map.mpr ⟨failed, ?_, rfl⟩)),
      reaches⟩
    exact List.mem_filter.mpr ⟨member, decide_eq_true terminal⟩

variable {tasks' : List RunGraphTaskFacts}

theorem terminalTaskIds_congr (perm : tasks.Perm tasks') :
    terminalTaskIds tasks = terminalTaskIds tasks' :=
  sorted_eq_sorted_iff.mpr ((perm.filter _).map _)

theorem blockedTaskIds_perm (perm : tasks.Perm tasks') :
    (blockedTaskIds tasks).Perm (blockedTaskIds tasks') := by
  refine (List.perm_ext_iff_of_nodup (Closure.nodup_saturate _ (List.nodup_dedup _))
    (Closure.nodup_saturate _ (List.nodup_dedup _))).mpr fun taskId => ?_
  change taskId ∈ blockedTaskIds tasks ↔ taskId ∈ blockedTaskIds tasks'
  unfold blockedTaskIds
  rw [Closure.mem_saturate_iff, Closure.mem_saturate_iff, terminalTaskIds_congr perm]
  simp only [Closure.reaches_congr (perm.map fun task => (task.id, task.prerequisiteIds)),
    prerequisiteNodes]

theorem runGraphTaskFactsOutcome_congr (perm : tasks.Perm tasks') :
    runGraphTaskFactsOutcome tasks = runGraphTaskFactsOutcome tasks' := by
  have blocked : ∀ taskId, taskId ∈ blockedTaskIds tasks ↔ taskId ∈ blockedTaskIds tasks' :=
    fun _ => (blockedTaskIds_perm perm).mem_iff
  have all : ∀ accept : RunGraphTaskFacts → Bool, tasks.all accept = tasks'.all accept :=
    fun accept => perm.all_eq
  unfold runGraphTaskFactsOutcome
  dsimp only
  rw [terminalTaskIds_congr perm, sorted_eq_sorted_iff.mpr (blockedTaskIds_perm perm)]
  simp only [all, blocked]

theorem terminal_subset_blocked (tasks : List RunGraphTaskFacts) :
    terminalTaskIds tasks ⊆ blockedTaskIds tasks := fun _ member =>
  Closure.mem_saturate_iff.mpr ⟨_, List.mem_dedup.mpr member, Closure.Reaches.refl _ _⟩

theorem blockedTaskIds_eq_nil (none : terminalTaskIds tasks = []) : blockedTaskIds tasks = [] := by
  refine List.eq_nil_iff_forall_not_mem.mpr fun taskId member => ?_
  obtain ⟨origin, seed, _⟩ := Closure.mem_saturate_iff.mp member
  rw [none] at seed
  exact List.not_mem_nil (List.mem_dedup.mp seed)

theorem blocked_names (blocked : (runGraphTaskFactsOutcome tasks).graphOutcome = .blocked) :
    (runGraphTaskFactsOutcome tasks).terminalTaskIds.length ≠ 0 ∧
      (runGraphTaskFactsOutcome tasks).blockedTaskIds.length ≠ 0 := by
  have some : (terminalTaskIds tasks).length > 0 := by
    unfold runGraphTaskFactsOutcome at blocked
    dsimp only at blocked
    split at blocked
    · cases blocked
    · split at blocked
      · rename_i settled
        exact settled.1
      · cases blocked
  obtain ⟨taskId, member⟩ := List.exists_mem_of_length_pos some
  refine ⟨Nat.ne_of_gt some, Nat.ne_of_gt (List.length_pos_of_mem (a := taskId) ?_)⟩
  exact mem_sorted.mpr (terminal_subset_blocked tasks member)

theorem succeeded_names
    (succeeded : (runGraphTaskFactsOutcome tasks).graphOutcome = .allTasksSucceeded) :
    (runGraphTaskFactsOutcome tasks).terminalTaskIds = [] ∧
      (runGraphTaskFactsOutcome tasks).blockedTaskIds = [] := by
  have all : tasks.all (·.lifecycle = .completedSuccessfully) := by
    unfold runGraphTaskFactsOutcome at succeeded
    dsimp only at succeeded
    split at succeeded
    · rename_i all
      exact all
    · split at succeeded <;> cases succeeded
  have none : terminalTaskIds tasks = [] := by
    have empty : tasks.filter (·.lifecycle = .terminalWithoutSuccess) = [] := by
      refine List.filter_eq_nil_iff.mpr fun task member failed => ?_
      have completed := of_decide_eq_true (List.all_eq_true.mp all task member)
      rw [completed] at failed
      exact absurd failed (by decide)
    unfold terminalTaskIds
    rw [empty]
    rfl
  refine ⟨none, ?_⟩
  change sorted (blockedTaskIds tasks) = []
  rw [blockedTaskIds_eq_nil none]
  rfl

theorem runFinalityEvidenceIssue_of (tasks : List RunGraphTaskFacts)
    (input : RunFinalityEvidenceInput) :
    runFinalityEvidenceIssue (runFinalityEvidenceOf (runGraphTaskFactsOutcome tasks) input) =
      none := by
  let evidence := runFinalityEvidenceOf (runGraphTaskFactsOutcome tasks) input
  have root : evidence.rootTaskId.value.length ≠ 0 := fun empty =>
    input.rootTaskId_nonempty (String.length_eq_zero_iff.mp empty)
  have blocked : ¬ (evidence.graphOutcome = .blocked ∧
      (evidence.terminalTaskIds.length = 0 ∨
        evidence.blockedTaskIds.length = 0)) := by
    rintro ⟨outcome, empty⟩
    obtain ⟨terminal, dependent⟩ := blocked_names outcome
    exact empty.elim terminal dependent
  have succeeded : ¬ (evidence.graphOutcome = .allTasksSucceeded ∧
      (evidence.terminalTaskIds.length > 0 ∨
        evidence.blockedTaskIds.length > 0)) := by
    rintro ⟨outcome, named⟩
    obtain ⟨terminal, dependent⟩ := succeeded_names outcome
    have noTerminal := congrArg List.length terminal
    have noDependent := congrArg List.length dependent
    exact named.elim (fun some => Nat.ne_of_gt some noTerminal)
      fun some => Nat.ne_of_gt some noDependent
  unfold runFinalityEvidenceIssue
  rw [if_neg (by simp [runFinalityEvidenceOf]), if_neg (by simp [runFinalityEvidenceOf]),
    if_neg (by simp [runFinalityEvidenceOf]), if_neg (by simp [runFinalityEvidenceOf]),
    if_neg root, if_neg blocked, if_neg succeeded]

/-- The loop ends at a set that another pass leaves as it is.  The set holds exactly what depends on
a task that ended without success, the outcome does not depend on the order of the facts, and the
evidence built from an outcome passes its check. -/
theorem runGraphTaskFactsOutcome_least (tasks : List RunGraphTaskFacts) :
    Closure.sweep (prerequisiteNodes tasks) (blockedTaskIds tasks) = blockedTaskIds tasks ∧
    (∀ taskId, taskId ∈ (runGraphTaskFactsOutcome tasks).blockedTaskIds ↔
      DependsOnFailure tasks taskId) ∧
    (∀ tasks', tasks.Perm tasks' →
      runGraphTaskFactsOutcome tasks = runGraphTaskFactsOutcome tasks') ∧
    ∀ input,
      runFinalityEvidenceIssue (runFinalityEvidenceOf (runGraphTaskFactsOutcome tasks) input) =
        none ∧
      runFinalityEvidenceIssue (makeRunFinalityEvidence input) = none :=
  ⟨Closure.sweep_saturate _ _, fun _ => mem_sorted.trans mem_blockedTaskIds,
    fun _ => runGraphTaskFactsOutcome_congr, fun input =>
      ⟨runFinalityEvidenceIssue_of tasks input, runFinalityEvidenceIssue_of _ input⟩⟩

theorem unsettled_iff (unfinished : ∃ task ∈ tasks, task.lifecycle ≠ .completedSuccessfully) :
    (runGraphTaskFactsOutcome tasks).graphOutcome = .unsettled ↔
      ∃ task ∈ tasks, task.lifecycle ≠ .completedSuccessfully ∧
        ¬ DependsOnFailure tasks task.id := by
  have notAll : ¬ tasks.all (·.lifecycle = .completedSuccessfully) := by
    obtain ⟨task, member, incomplete⟩ := unfinished
    intro all
    exact incomplete (of_decide_eq_true (List.all_eq_true.mp all task member))
  simp only [runGraphTaskFactsOutcome, if_neg notAll]
  constructor
  · intro outcome
    by_contra settled
    push Not at settled
    have settledAll : tasks.all fun task =>
        task.lifecycle = .completedSuccessfully ∨ task.id ∈ blockedTaskIds tasks := by
      apply List.all_eq_true.mpr
      intro task member
      apply decide_eq_true
      by_cases finished : task.lifecycle = .completedSuccessfully
      · exact Or.inl finished
      · exact Or.inr (mem_blockedTaskIds.mpr (settled task member finished))
    have someTerminal : (terminalTaskIds tasks).length > 0 := by
      obtain ⟨task, member, incomplete⟩ := unfinished
      obtain ⟨failed, failedMember, terminal, _⟩ := settled task member incomplete
      apply List.length_pos_of_mem (a := failed.id)
      apply mem_sorted.mpr
      exact List.mem_map.mpr
        ⟨failed, List.mem_filter.mpr ⟨failedMember, decide_eq_true terminal⟩, rfl⟩
    rw [if_pos ⟨someTerminal, settledAll⟩] at outcome
    cases outcome
  · rintro ⟨task, member, incomplete, independent⟩
    rw [if_neg]
    rintro ⟨_, settledAll⟩
    rcases of_decide_eq_true (List.all_eq_true.mp settledAll task member) with finished | marked
    · exact incomplete finished
    · exact independent (mem_blockedTaskIds.mp marked)

namespace TaskDagSnapshot

theorem exists_open_taskFacts {snapshot : TaskDagSnapshot}
    (eligible : snapshot.eligibleTaskIds ≠ []) :
    ∃ task ∈ snapshot.taskFacts, task.lifecycle ≠ .completedSuccessfully := by
  obtain ⟨taskId, member⟩ := List.exists_mem_of_ne_nil _ eligible
  obtain ⟨record, recordMember, _, opened⟩ := open_of_mem_eligibleTaskIds member
  refine ⟨⟨record.id, record.lifecycle, snapshot.prerequisitesOf record.id⟩, ?_, ?_⟩
  · simp only [taskFacts, wireTasks, List.map_map, List.mem_map]
    exact ⟨record, recordMember, rfl⟩
  · simp [opened]

/-- The outcome of a graph with an eligible task is unsettled exactly when some unfinished task is
independent of every failed task.  Blockage spreads through completed tasks as well, so an eligible
task need not be such a task. -/
theorem eligible_unsettled_iff (snapshot : TaskDagSnapshot) :
    (snapshot.eligibleTaskIds ≠ [] → snapshot.runGraphFactsOutcome.graphOutcome = .unsettled) ↔
      (snapshot.eligibleTaskIds = [] ∨
        ∃ task ∈ snapshot.taskFacts, task.lifecycle ≠ .completedSuccessfully ∧
          ¬ DependsOnFailure snapshot.taskFacts task.id) := by
  by_cases none : snapshot.eligibleTaskIds = []
  · simp [none]
  · have characterization := unsettled_iff (exists_open_taskFacts none)
    simp only [none, ne_eq, not_false_eq_true, forall_const, false_or]
    exact characterization

end TaskDagSnapshot

def completedAfterFailure : TrackerSnapshot :=
  { revision := ⟨"revision"⟩
    rootTaskId := none
    tasks :=
      [ ⟨none, ⟨"A"⟩, .terminalWithoutSuccess, none, []⟩
      , ⟨none, ⟨"B"⟩, .completedSuccessfully, none, [⟨"A"⟩]⟩
      , ⟨none, ⟨"C"⟩, .opened, none, [⟨"B"⟩]⟩ ] }

/-- The graph is reported blocked while its open task is eligible. -/
theorem eligible_but_blocked :
    ∃ snapshot : TaskDagSnapshot,
      TaskDagSnapshot.project completedAfterFailure = .ok snapshot ∧
        snapshot.eligibleTaskIds = [⟨"C"⟩] ∧
        snapshot.runGraphFactsOutcome.graphOutcome = .blocked := by
  refine ⟨⟨completedAfterFailure, by decide⟩, ?_, ?_, ?_⟩
  · rw [TaskDagSnapshot.project, dif_pos]
  · decide
  · decide

end Dalph
