import Dalph.Foundation.SequenceIndex
import Dalph.TaskTracker.Grouping
import Dalph.WorkflowJournal.Record

/-!
# Paused work

The Operator pauses and unpauses the Run and single tasks.  A reconstructed pause state holds the
subjects whose latest direction is Pause, and a task is paused together with the tasks that group
it.
-/

namespace Dalph

inductive ReconstructedRunPauseState where
  | runPaused
  | runUnpaused
deriving DecidableEq

/-- The tasks whose latest direction is Pause, each listed once. -/
inductive ReconstructedTaskPauseState where
  | noTaskPauses
  | taskPauses (taskIds : List TaskId) (unique : taskIds.Nodup)
deriving DecidableEq

def ReconstructedTaskPauseState.taskIds : ReconstructedTaskPauseState → List TaskId
  | noTaskPauses => []
  | taskPauses taskIds _ => taskIds

/-- What is paused in a Run. -/
structure ReconstructedPauseState where
  run : ReconstructedRunPauseState
  tasks : ReconstructedTaskPauseState
deriving DecidableEq

def taskPauseState (paused : KeySet TaskId) : ReconstructedTaskPauseState :=
  if sorted paused.items = [] then .noTaskPauses
  else .taskPauses (sorted paused.items) ((sorted_perm paused.items).nodup_iff.mpr paused.nodup)

def runPauseState (paused : Bool) : ReconstructedRunPauseState :=
  if paused then .runPaused else .runUnpaused

def directTask (paused : KeySet TaskId) (direction : ControlDirection) (taskId : TaskId) :
    KeySet TaskId :=
  if direction = .pause then paused.add taskId else paused.delete taskId

def appendPauseState (prior : ReconstructedPauseState) (record : JournalRecord) :
    ReconstructedPauseState :=
  match record.event with
  | .controlDirectionApplied event =>
      match event.subject with
      | .run _ => { run := runPauseState (event.direction = .pause), tasks := prior.tasks }
      | .task _ taskId =>
          { run := prior.run
            tasks := taskPauseState
              (directTask (.fromIterable prior.tasks.taskIds) event.direction taskId) }
  | _ => prior

/-- What a cold reduction keeps: whether the Run is paused, and the paused tasks. -/
abbrev PauseScratch := Bool × KeySet TaskId

def applyControlDirection (scratch : PauseScratch) (record : JournalRecord) : PauseScratch :=
  match record.event with
  | .controlDirectionApplied event =>
      match event.subject with
      | .run _ => (event.direction = .pause, scratch.2)
      | .task _ taskId => (scratch.1, directTask scratch.2 event.direction taskId)
  | _ => scratch

def pauseStateOf (scratch : PauseScratch) : ReconstructedPauseState :=
  { run := runPauseState scratch.1, tasks := taskPauseState scratch.2 }

def reducePauseState (records : List JournalRecord) : ReconstructedPauseState :=
  pauseStateOf (records.foldl applyControlDirection (false, .empty))

/-- The Run is paused, or the task itself, or a task whose subtree in the current graph holds it. -/
def reconstructedTaskIsPaused (pause : ReconstructedPauseState) (taskId : TaskId)
    (currentGraph : Option TaskDagSnapshot) : Bool :=
  decide (pause.run = .runPaused) ||
    pause.tasks.taskIds.any fun pausedTaskId =>
      decide (pausedTaskId = taskId) ||
        currentGraph.any fun graph => decide (taskId ∈ graph.groupingSubtreeOf pausedTaskId)

/-- What is said of a control direction, with the latest ordinal behind the record. -/
def validateControlDirection (record : JournalRecord) (runId : RunId)
    (latestControlDirectionOrdinal : Nat) : Nat × List String :=
  match record.event with
  | .controlDirectionApplied event =>
      (event.ordinal,
        (if event.subject.runId = runId then []
          else [s!"control direction {event.ordinal} binds run {event.subject.runId.value}"]) ++
        if event.ordinal = latestControlDirectionOrdinal + 1 then []
          else [s!"control direction expected ordinal {latestControlDirectionOrdinal + 1}, found {event.ordinal}"])
  | _ => (latestControlDirectionOrdinal, [])

def controlDirectionIssues (runId : RunId) : Nat → List JournalRecord → List String
  | _, [] => []
  | latest, record :: rest =>
      let checked := validateControlDirection record runId latest
      checked.2 ++ controlDirectionIssues runId checked.1 rest

def JournalRecord.directionOf? (record : JournalRecord) (subject : ControlDirectionSubject) :
    Option ControlDirection :=
  match record.event with
  | .controlDirectionApplied event =>
      if event.subject = subject then some event.direction else none
  | _ => none

def latestDirection? (records : List JournalRecord) (subject : ControlDirectionSubject) :
    Option ControlDirection :=
  (records.filterMap (·.directionOf? subject)).getLast?

def ReconstructedPauseState.Pauses (pause : ReconstructedPauseState) :
    ControlDirectionSubject → Prop
  | .run _ => pause.run = .runPaused
  | .task _ taskId => taskId ∈ pause.tasks.taskIds

instance (pause : ReconstructedPauseState) (subject : ControlDirectionSubject) :
    Decidable (pause.Pauses subject) :=
  match subject with
  | .run _ => inferInstanceAs (Decidable (pause.run = .runPaused))
  | .task _ taskId => inferInstanceAs (Decidable (taskId ∈ pause.tasks.taskIds))

section

variable {runId : RunId} {records : List JournalRecord} {record : JournalRecord}
  {subject : ControlDirectionSubject} {scratch : PauseScratch} {paused others : KeySet TaskId}
  {taskId : TaskId}

@[simp]
theorem mem_taskPauseState : taskId ∈ (taskPauseState paused).taskIds ↔ taskId ∈ paused := by
  unfold taskPauseState
  split
  · next none =>
      have empty : paused.items = [] := List.perm_nil.mp (none ▸ (sorted_perm paused.items).symm)
      constructor
      · intro listed
        cases listed
      · intro listed
        have member : taskId ∈ paused.items := listed
        rw [empty] at member
        cases member
  · exact mem_sorted

theorem taskPauseState_congr (same : ∀ taskId, taskId ∈ paused ↔ taskId ∈ others) :
    taskPauseState paused = taskPauseState others := by
  have perm : paused.items.Perm others.items :=
    (List.perm_ext_iff_of_nodup paused.nodup others.nodup).mpr same
  unfold taskPauseState
  simp only [sorted_eq_sorted_iff.mpr perm]

theorem mem_directTask {direction : ControlDirection} {other : TaskId} :
    other ∈ directTask paused direction taskId ↔
      if other = taskId then direction = .pause else other ∈ paused := by
  unfold directTask
  cases direction with
  | pause => by_cases same : other = taskId <;> simp [same]
  | unpause => by_cases same : other = taskId <;> simp [same]

theorem appendPauseState_pauseStateOf :
    appendPauseState (pauseStateOf scratch) record =
      pauseStateOf (applyControlDirection scratch record) := by
  unfold appendPauseState applyControlDirection
  split
  · next event _ =>
      split
      · rfl
      · next taskId _ =>
          have tasks := @taskPauseState_congr
            (directTask (.fromIterable (pauseStateOf scratch).tasks.taskIds) event.direction taskId)
            (directTask scratch.2 event.direction taskId) fun other => by
              rw [mem_directTask, mem_directTask]
              simp [pauseStateOf]
          rw [tasks]
          rfl
  · rfl

theorem foldl_appendPauseState (earlier later : List JournalRecord) :
    later.foldl appendPauseState (reducePauseState earlier) =
      reducePauseState (earlier ++ later) := by
  unfold reducePauseState
  rw [List.foldl_append]
  generalize earlier.foldl applyControlDirection (false, .empty) = scratch
  induction later generalizing scratch with
  | nil => rfl
  | cons record later induction =>
      rw [List.foldl_cons, List.foldl_cons, appendPauseState_pauseStateOf]
      exact induction (applyControlDirection scratch record)

theorem latestDirection?_concat :
    latestDirection? (records ++ [record]) subject =
      (record.directionOf? subject).or (latestDirection? records subject) := by
  unfold latestDirection?
  rw [List.filterMap_append]
  cases given : record.directionOf? subject with
  | none => simp [given]
  | some direction => simp [given]

theorem runId_of_controlDirectionIssues {latest : Nat} {event : ControlDirectionApplied}
    (accepted : controlDirectionIssues runId latest records = []) (member : record ∈ records)
    (applied : record.event = .controlDirectionApplied event) : event.subject.runId = runId := by
  induction records generalizing latest with
  | nil => cases member
  | cons first rest induction =>
      obtain ⟨regular, remaining⟩ := List.append_eq_nil_iff.mp accepted
      obtain rfl | later := List.mem_cons.mp member
      · unfold validateControlDirection at regular
        rw [applied] at regular
        by_contra foreign
        simp [foreign] at regular
      · exact induction remaining later

theorem pauses_of_directionOf? {direction : ControlDirection}
    (directed : record.directionOf? subject = some direction) :
    (pauseStateOf (applyControlDirection scratch record)).Pauses subject ↔ direction = .pause := by
  unfold JournalRecord.directionOf? at directed
  split at directed
  · next event applied =>
      split at directed
      · next same =>
          obtain ⟨given, ordinal, named⟩ := event
          cases directed
          obtain rfl := same
          unfold applyControlDirection
          rw [applied]
          cases named with
          | run runId => simp [pauseStateOf, runPauseState, ReconstructedPauseState.Pauses]
          | task runId taskId =>
              simp [pauseStateOf, ReconstructedPauseState.Pauses, mem_directTask]
      · cases directed
  · cases directed

theorem pauses_of_directionOf?_eq_none
    (named : ∀ event, record.event = .controlDirectionApplied event →
      event.subject.runId = subject.runId)
    (other : record.directionOf? subject = none) :
    (pauseStateOf (applyControlDirection scratch record)).Pauses subject ↔
      (pauseStateOf scratch).Pauses subject := by
  unfold JournalRecord.directionOf? at other
  unfold applyControlDirection
  split at other
  · next event applied =>
      have apart : event.subject ≠ subject := by
        intro same
        simp [same] at other
      have bound := named event applied
      obtain ⟨direction, ordinal, directed⟩ := event
      cases directed with
      | run runId =>
          cases subject with
          | run other => exact absurd (congrArg ControlDirectionSubject.run bound) apart
          | task other taskId => simp [pauseStateOf, ReconstructedPauseState.Pauses]
      | task runId taskId =>
          cases subject with
          | run other => simp [pauseStateOf, ReconstructedPauseState.Pauses]
          | task other otherTask =>
              have tasks : otherTask ≠ taskId := by
                rintro rfl
                exact apart (congrArg (ControlDirectionSubject.task · otherTask) bound)
              simp [pauseStateOf, ReconstructedPauseState.Pauses, mem_directTask, tasks]
  · exact Iff.rfl

theorem pauses_reducePauseState
    (named : ∀ record ∈ records, ∀ event, record.event = .controlDirectionApplied event →
      event.subject.runId = subject.runId) :
    (reducePauseState records).Pauses subject ↔ latestDirection? records subject = some .pause := by
  unfold reducePauseState
  induction records using List.reverseRecOn with
  | nil =>
      cases subject with
      | run runId => simp [pauseStateOf, runPauseState, ReconstructedPauseState.Pauses, latestDirection?]
      | task runId taskId =>
          simp [pauseStateOf, ReconstructedPauseState.Pauses, latestDirection?]
  | append_singleton earlier record induction =>
      have before := induction fun other member => named other (List.mem_append_left _ member)
      have last := named record (by simp)
      rw [List.foldl_append, List.foldl_cons, List.foldl_nil, latestDirection?_concat]
      cases directed : record.directionOf? subject with
      | none =>
          rw [pauses_of_directionOf?_eq_none last directed, before, Option.none_or]
      | some direction =>
          rw [pauses_of_directionOf? directed, Option.some_or, Option.some.injEq]

theorem reconstructedTaskIsPaused_iff {pause : ReconstructedPauseState}
    {currentGraph : Option TaskDagSnapshot} :
    reconstructedTaskIsPaused pause taskId currentGraph ↔
      pause.Pauses (.run runId) ∨ ∃ pausedTaskId, pause.Pauses (.task runId pausedTaskId) ∧
        (pausedTaskId = taskId ∨
          ∃ graph, currentGraph = some graph ∧ graph.IsGroupingAncestor pausedTaskId taskId) := by
  unfold reconstructedTaskIsPaused
  rw [Bool.or_eq_true, decide_eq_true_iff, List.any_eq_true]
  refine or_congr_right ⟨?_, ?_⟩
  · rintro ⟨pausedTaskId, listed, holds⟩
    refine ⟨pausedTaskId, listed, ?_⟩
    obtain same | below := (Bool.or_eq_true _ _).mp holds
    · exact .inl (of_decide_eq_true same)
    · obtain ⟨graph, current, searched⟩ := (Option.any_eq_true _ _).mp below
      obtain rfl | above := (TaskDagSnapshot.mem_groupingSubtreeOf.mp (of_decide_eq_true searched)).2
      · exact .inl rfl
      · exact .inr ⟨graph, current, above⟩
  · rintro ⟨pausedTaskId, listed, same | ⟨graph, current, above⟩⟩
    · exact ⟨pausedTaskId, listed, by simp [same]⟩
    · have below : taskId ∈ graph.groupingSubtreeOf pausedTaskId :=
        TaskDagSnapshot.mem_groupingSubtreeOf.mpr
          ⟨TaskDagSnapshot.mem_taskIds_of_isGroupingAncestor above, .inr above⟩
      exact ⟨pausedTaskId, listed, by simp [current, below]⟩

/-- In an accepted history the set kept record by record is the one reduced from all records.  It
holds exactly the subjects whose latest direction is Pause, and a task is paused exactly where the
Run, the task or a task that groups it in the current graph is in the set. -/
theorem pauseState_latest_and_grouped
    (accepted : controlDirectionIssues runId 0 records = []) :
    (∀ earlier later, records = earlier ++ later →
      later.foldl appendPauseState (reducePauseState earlier) = reducePauseState records) ∧
    (∀ subject : ControlDirectionSubject, subject.runId = runId →
      ((reducePauseState records).Pauses subject ↔
        latestDirection? records subject = some .pause)) ∧
    ∀ (taskId : TaskId) (currentGraph : Option TaskDagSnapshot),
      reconstructedTaskIsPaused (reducePauseState records) taskId currentGraph ↔
        (reducePauseState records).Pauses (.run runId) ∨
        ∃ pausedTaskId, (reducePauseState records).Pauses (.task runId pausedTaskId) ∧
          (pausedTaskId = taskId ∨
            ∃ graph, currentGraph = some graph ∧ graph.IsGroupingAncestor pausedTaskId taskId) := by
  refine ⟨?_, ?_, ?_⟩
  · rintro earlier later rfl
    exact foldl_appendPauseState earlier later
  · rintro subject rfl
    refine pauses_reducePauseState fun record member event applied => ?_
    exact runId_of_controlDirectionIssues accepted member applied
  · intro taskId currentGraph
    exact reconstructedTaskIsPaused_iff

end

namespace PausedRun

def runId : RunId := ⟨"paused-run", by decide⟩

def parent : TaskId := ⟨"parent"⟩

def child : TaskId := ⟨"child"⟩

def graph : TaskDagSnapshot where
  decoded :=
    { revision := ⟨"revision"⟩
      rootTaskId := some parent
      tasks := [⟨none, parent, .opened, none, []⟩, ⟨none, child, .opened, some parent, []⟩] }
  valid := by decide +kernel

def directed (ordinal : Nat) (direction : ControlDirection) (taskId : TaskId) : JournalRecord :=
  ⟨.controlDirectionApplied ⟨direction, ordinal, .task runId taskId⟩,
    controlDirectionAppliedRecordKey ordinal, ordinal, runId⟩

def records : List JournalRecord :=
  [directed 1 .pause child, directed 2 .unpause child, directed 3 .pause parent]

end PausedRun

open PausedRun

/-- The child is in no pause of its own and is paused with its parent. -/
theorem pausedRun_latest_and_grouped :
    ¬ (reducePauseState records).Pauses (.task runId child) ∧
      reconstructedTaskIsPaused (reducePauseState records) child (some graph) := by
  obtain ⟨-, latest, grouped⟩ := @pauseState_latest_and_grouped runId records (by decide +kernel)
  refine ⟨?_, (grouped child (some graph)).mpr (.inr ⟨parent, ?_, .inr ⟨graph, rfl, ?_⟩⟩)⟩
  · rw [latest (.task runId child) rfl]
    decide
  · rw [latest (.task runId parent) rfl]
    decide
  · exact .single (by decide +kernel)

end Dalph
