import Dalph.TaskTracker.GraphOrder

/-!
# Rearranged reads

A tracker may list the tasks of a read and the prerequisites of a task in any order.  Projection
sorts both, so rearranged reads have the same issues, or graphs with the same wire form, order and
eligible tasks.  The wire form of a graph is one rearrangement of the read it was projected from.
-/

namespace Dalph

/-- Two tasks with the same lifecycle and edges, prerequisites in any order. -/
structure SameEdges (left right : TrackerTask) : Prop where
  id : left.id = right.id
  lifecycle : left.lifecycle = right.lifecycle
  parentTaskId : left.parentTaskId = right.parentTaskId
  prerequisiteIds : left.prerequisiteIds.Perm right.prerequisiteIds

/-- Two tasks that differ in the order of their prerequisites at most. -/
structure SameTask (left right : TrackerTask) : Prop extends SameEdges left right where
  descriptor : left.descriptor = right.descriptor

def Rearranges (left right : TrackerSnapshot) : Prop :=
  left.revision = right.revision ∧ left.rootTaskId = right.rootTaskId ∧
    ∃ tasks, left.tasks.Perm tasks ∧ List.Forall₂ SameTask tasks right.tasks

variable {left right record record' : TrackerTask} {records records' : List TrackerTask}
  {known taskIds : List TaskId} {relation : TaskGraphEdge} {taskId : TaskId}
  {read read' : TrackerSnapshot}

theorem TaskLifecycle.tag_injective : Function.Injective TaskLifecycle.tag := by
  intro first second same
  cases first <;> cases second <;> first | rfl | exact absurd same (by decide)

theorem orderKey_eq_iff : left.orderKey = right.orderKey ↔ SameEdges left right := by
  unfold TrackerTask.orderKey TrackerTask.tieKey
  simp only [toLex_inj, Prod.mk.injEq]
  constructor
  · rintro ⟨id, lifecycle, ⟨some, parent⟩, prerequisites⟩
    refine
      { id
        lifecycle := TaskLifecycle.tag_injective (Utf16.units_injective lifecycle)
        parentTaskId := ?_
        prerequisiteIds := sorted_eq_sorted_iff.mp prerequisites }
    have value := Utf16.units_injective parent
    cases first : left.parentTaskId with
    | none =>
        cases second : right.parentTaskId with
        | none => rfl
        | some _ => rw [first, second] at some; cases some
    | some parent =>
        cases second : right.parentTaskId with
        | none => rw [first, second] at some; cases some
        | some parent' =>
            rw [first, second] at value
            cases parent
            cases parent'
            exact congrArg Option.some (congrArg TaskId.mk value)
  · intro same
    rw [same.lifecycle, same.parentTaskId, sorted_eq_sorted_iff.mpr same.prerequisiteIds]
    exact ⟨same.id, rfl, ⟨rfl, rfl⟩, rfl⟩

theorem map_orderKey_eq_iff :
    records.map TrackerTask.orderKey = records'.map TrackerTask.orderKey ↔
      List.Forall₂ SameEdges records records' := by
  rw [← List.forall₂_eq_eq_eq, List.forall₂_map_left_iff, List.forall₂_map_right_iff]
  simp only [orderKey_eq_iff]

theorem Rearranges.ordered (same : Rearranges read read') :
    List.Forall₂ SameEdges (read.tasks.insertionSort (· ≤ ·)) (read'.tasks.insertionSort (· ≤ ·)) := by
  obtain ⟨_, _, tasks, perm, tasksSame⟩ := same
  have keys : tasks.map TrackerTask.orderKey = read'.tasks.map TrackerTask.orderKey :=
    map_orderKey_eq_iff.mpr (tasksSame.imp fun _ _ task => task.toSameEdges)
  have sorted : ∀ records : List TrackerTask,
      ((records.insertionSort (· ≤ ·)).map TrackerTask.orderKey).Pairwise (· ≤ ·) := fun records =>
    List.pairwise_map.mpr (List.pairwise_insertionSort (· ≤ ·) records)
  have whole : ∀ records : List TrackerTask, ((records.insertionSort (· ≤ ·)).map
      TrackerTask.orderKey).Perm (records.map TrackerTask.orderKey) := fun records =>
    (List.perm_insertionSort (· ≤ ·) records).map _
  have rearranged : (read.tasks.map TrackerTask.orderKey).Perm
      (read'.tasks.map TrackerTask.orderKey) := (perm.map _).trans (.of_eq keys)
  exact map_orderKey_eq_iff.mp (((whole read.tasks).trans
    (rearranged.trans (whole read'.tasks).symm)).eq_of_pairwise'
      (sorted read.tasks) (sorted read'.tasks))

theorem map_id_eq (same : List.Forall₂ SameEdges records records') :
    records.map (·.id) = records'.map (·.id) := by
  rw [← List.forall₂_eq_eq_eq, List.forall₂_map_left_iff, List.forall₂_map_right_iff]
  exact same.imp fun _ _ record => record.id

theorem forall₂_collectTaskRecord {collected collected' : List TrackerTask × List ProjectionIssue}
    (same : List.Forall₂ SameEdges records records')
    (collectedSame : List.Forall₂ SameEdges collected.1 collected'.1)
    (issues : collected.2 = collected'.2) :
    List.Forall₂ SameEdges (records.foldl collectTaskRecord collected).1
        (records'.foldl collectTaskRecord collected').1 ∧
      (records.foldl collectTaskRecord collected).2 =
        (records'.foldl collectTaskRecord collected').2 := by
  induction same generalizing collected collected' with
  | nil => exact ⟨collectedSame, issues⟩
  | @cons record record' records records' first rest induction =>
      rw [List.foldl_cons, List.foldl_cons]
      unfold collectTaskRecord
      rw [map_id_eq collectedSame, first.id]
      split
      · exact induction collectedSame (by rw [issues])
      · exact induction (List.rel_append collectedSame (.cons first .nil)) issues

theorem prerequisiteIssues_congr (id : record.id = record'.id) (previous : Option TaskId) :
    prerequisiteIssues record known previous taskIds =
      prerequisiteIssues record' known previous taskIds := by
  induction taskIds generalizing previous with
  | nil => rfl
  | cons taskId taskIds induction => rw [prerequisiteIssues, prerequisiteIssues, induction, id]

theorem validate_congr (same : SameEdges record record') :
    validatePrerequisites record known ++ validateParent record known =
      validatePrerequisites record' known ++ validateParent record' known := by
  unfold validatePrerequisites validateParent
  rw [sorted_eq_sorted_iff.mpr same.prerequisiteIds, prerequisiteIssues_congr same.id,
    same.parentTaskId, same.id]

theorem incomingTaskIds_congr (same : SameEdges record record') :
    incomingTaskIds known relation record = incomingTaskIds known relation record' := by
  cases relation with
  | prerequisite => exact sorted_eq_sorted_iff.mpr (same.prerequisiteIds.filter _)
  | grouping =>
      unfold incomingTaskIds
      rw [same.parentTaskId]

theorem find?_congr (same : List.Forall₂ SameEdges records records') :
    Option.Rel SameEdges (records.find? (·.id = taskId)) (records'.find? (·.id = taskId)) := by
  induction same with
  | nil => exact .none
  | cons first rest induction =>
      rw [List.find?_cons, List.find?_cons, first.id]
      split
      · exact .some first
      · exact induction

theorem adjacentTaskIds_congr (same : List.Forall₂ SameEdges records records') :
    adjacentTaskIds records relation taskId = adjacentTaskIds records' relation taskId := by
  have found := @find?_congr _ _ taskId same
  unfold adjacentTaskIds
  rw [map_id_eq same]
  generalize records.find? (·.id = taskId) = first at found ⊢
  generalize records'.find? (·.id = taskId) = second at found ⊢
  cases found with
  | none => rfl
  | some same => exact incomingTaskIds_congr same

theorem cycleTaskIds_congr (same : List.Forall₂ SameEdges records records') :
    cycleTaskIds records relation = cycleTaskIds records' relation := by
  unfold cycleTaskIds
  have adjacent : adjacentTaskIds records relation = adjacentTaskIds records' relation :=
    funext fun _ => adjacentTaskIds_congr same
  rw [map_id_eq same, adjacent]

theorem Rearranges.records_alike (same : Rearranges read read') :
    List.Forall₂ SameEdges read.records read'.records :=
  (forall₂_collectTaskRecord same.ordered .nil rfl).1

theorem Rearranges.projectionIssues_eq (same : Rearranges read read') :
    projectionIssues read = projectionIssues read' := by
  have known := map_id_eq same.records_alike
  have duplicates : (collectTaskRecords (read.tasks.insertionSort (· ≤ ·))).2 =
      (collectTaskRecords (read'.tasks.insertionSort (· ≤ ·))).2 :=
    (forall₂_collectTaskRecord same.ordered .nil rfl).2
  have edges : ∀ {records records' : List TrackerTask}, List.Forall₂ SameEdges records records' →
      records.flatMap (fun record =>
        validatePrerequisites record (read.records.map (·.id)) ++
          validateParent record (read.records.map (·.id))) =
      records'.flatMap (fun record =>
        validatePrerequisites record (read.records.map (·.id)) ++
          validateParent record (read.records.map (·.id))) := by
    intro records records' same
    induction same with
    | nil => rfl
    | cons first rest induction =>
        rw [List.flatMap_cons, List.flatMap_cons, induction, validate_congr first]
  have root : missingRootIssues read = missingRootIssues read' := by
    unfold missingRootIssues
    rw [same.2.1, known]
  rw [Dalph.projectionIssues_eq, Dalph.projectionIssues_eq, duplicates, edges same.ordered, root,
    known, cycleTaskIds_congr same.records_alike, cycleTaskIds_congr same.records_alike]

namespace TaskDagSnapshot

variable {snapshot graph graph' : TaskDagSnapshot}

def wireTask (record : TrackerTask) : TrackerTask :=
  { record with prerequisiteIds := sorted record.prerequisiteIds }

theorem wireTasks_eq (snapshot : TaskDagSnapshot) :
    snapshot.wireTasks = snapshot.records.map wireTask := by
  unfold wireTasks
  refine List.map_congr_left fun record member => ?_
  rw [parentTaskIdOf_id member, prerequisitesOf_id member]
  rfl

theorem pairwise_wireTasks (snapshot : TaskDagSnapshot) :
    snapshot.wireTasks.Pairwise fun left right => left.id < right.id := by
  rw [wireTasks_eq]
  exact List.pairwise_map.mpr snapshot.pairwise_records

theorem map_wireTask_eq (same : List.Forall₂ SameTask records records') :
    records.map wireTask = records'.map wireTask := by
  rw [← List.forall₂_eq_eq_eq, List.forall₂_map_left_iff, List.forall₂_map_right_iff]
  refine same.imp fun left right task => ?_
  unfold wireTask
  cases left
  cases right
  obtain ⟨⟨rfl, rfl, rfl, prerequisites⟩, rfl⟩ := task
  rw [sorted_eq_sorted_iff.mpr prerequisites]

theorem wireTasks_congr (same : Rearranges graph.decoded graph'.decoded) :
    graph.wireTasks = graph'.wireTasks := by
  obtain ⟨_, _, tasks, perm, tasksSame⟩ := same
  have rearranged : graph.wireTasks.Perm graph'.wireTasks := by
    rw [wireTasks_eq, wireTasks_eq]
    refine ((graph.records_perm.trans perm).map wireTask).trans ?_
    rw [map_wireTask_eq tasksSame]
    exact (graph'.records_perm.map wireTask).symm
  exact rearranged.eq_of_pairwise (fun _ _ _ _ less more => absurd (lt_trans less more) (lt_irrefl _))
    graph.pairwise_wireTasks graph'.pairwise_wireTasks

section

variable (snapshot : TaskDagSnapshot)

theorem find?_wireTasks (taskId : TaskId) :
    snapshot.wireTasks.find? (·.id = taskId) = (snapshot.node? taskId).map wireTask := by
  rw [wireTasks_eq, List.find?_map]
  rfl

theorem taskIds_eq : snapshot.taskIds = snapshot.wireTasks.map (·.id) := by
  rw [wireTasks_eq, List.map_map]
  rfl

theorem lifecycleOf_eq (taskId : TaskId) :
    snapshot.lifecycleOf taskId =
      (snapshot.wireTasks.find? (·.id = taskId)).map (·.lifecycle) := by
  rw [find?_wireTasks, Option.map_map]
  rfl

theorem prerequisitesOf_eq (taskId : TaskId) :
    snapshot.prerequisitesOf taskId =
      (snapshot.wireTasks.find? (·.id = taskId)).elim [] (·.prerequisiteIds) := by
  rw [find?_wireTasks]
  cases found : snapshot.node? taskId with
  | none =>
      unfold prerequisitesOf
      rw [found]
      rfl
  | some record =>
      obtain ⟨member, rfl⟩ := mem_of_node? found
      rw [prerequisitesOf_id member]
      rfl

theorem prerequisiteEdges_eq :
    snapshot.prerequisiteEdges =
      snapshot.wireTasks.flatMap fun task => task.prerequisiteIds.map fun source =>
        (source, task.id) := by
  unfold prerequisiteEdges
  rw [wireTasks_eq, List.flatMap_map]
  refine List.flatMap_congr fun record member => ?_
  have edges := prerequisitesOf_id member
  unfold prerequisitesOf at edges
  rw [node?_of_mem member] at edges
  exact congrArg (List.map fun source => (source, record.id)) edges

theorem eligibleTasks_eq :
    snapshot.eligibleTasks =
      snapshot.eligibleTaskIds.filterMap fun taskId =>
        snapshot.wireTasks.find? (·.id = taskId) := by
  unfold eligibleTasks
  congr 1
  funext taskId
  rw [find?_wireTasks]
  cases found : snapshot.node? taskId with
  | none => rfl
  | some record =>
      obtain ⟨member, rfl⟩ := mem_of_node? found
      rw [Option.map_some, Option.map_some, parentTaskIdOf_id member, prerequisitesOf_id member]
      rfl

end

theorem agree_of_wireTasks (same : graph.wireTasks = graph'.wireTasks) :
    graph.topologicalOrder = graph'.topologicalOrder ∧
      graph.eligibleTasks = graph'.eligibleTasks := by
  have taskIds : graph.taskIds = graph'.taskIds := by rw [taskIds_eq, taskIds_eq, same]
  have lifecycles : graph.lifecycleOf = graph'.lifecycleOf := by
    funext taskId
    rw [lifecycleOf_eq, lifecycleOf_eq, same]
  have prerequisites : graph.prerequisitesOf = graph'.prerequisitesOf := by
    funext taskId
    rw [prerequisitesOf_eq, prerequisitesOf_eq, same]
  have dependants : graph.dependantsOf = graph'.dependantsOf := by
    funext taskId
    unfold dependantsOf
    rw [prerequisiteEdges_eq, prerequisiteEdges_eq, same]
  have eligible : graph.eligibleTaskIds = graph'.eligibleTaskIds := by
    unfold eligibleTaskIds
    rw [taskIds, lifecycles, prerequisites]
  constructor
  · unfold topologicalOrder
    rw [taskIds, prerequisites, dependants]
  · rw [eligibleTasks_eq, eligibleTasks_eq, eligible, same]

def Agree (graph graph' : TaskDagSnapshot) : Prop :=
  graph.toWire = graph'.toWire ∧ graph.canonicalJson = graph'.canonicalJson ∧
    graph.topologicalOrder = graph'.topologicalOrder ∧ graph.eligibleTasks = graph'.eligibleTasks

theorem project_eq_ok_iff {read : TrackerSnapshot} :
    project read = .ok snapshot ↔ snapshot.decoded = read := by
  unfold project
  constructor
  · intro projected
    split at projected
    · cases projected
      rfl
    · cases projected
  · rintro rfl
    rw [dif_pos snapshot.valid]

theorem exists_agree {read : TrackerSnapshot} (same : Rearranges graph.decoded read) :
    ∃ graph', project read = .ok graph' ∧ Agree graph graph' := by
  have valid : projectionIssues read = [] := same.projectionIssues_eq ▸ graph.valid
  let graph' : TaskDagSnapshot := ⟨read, valid⟩
  have wire : graph.wireTasks = graph'.wireTasks := @wireTasks_congr graph graph' same
  have wires : graph.toWire = graph'.toWire := by
    unfold toWire
    rw [wire, same.1]
  refine ⟨graph', project_eq_ok_iff.mpr rfl, wires, ?_, agree_of_wireTasks wire⟩
  unfold canonicalJson
  rw [wires]

/-- Rearranged reads are refused with the same issues in the same order, or give graphs that agree
in canonical text, order and eligible tasks. -/
theorem project_rearranged (read read' : TrackerSnapshot) (same : Rearranges read read') :
    (∃ issues, project read = .error issues ∧ project read' = .error issues) ∨
      ∃ graph graph', project read = .ok graph ∧ project read' = .ok graph' ∧
        graph.canonicalJson = graph'.canonicalJson ∧
        graph.topologicalOrder = graph'.topologicalOrder ∧
        graph.eligibleTasks = graph'.eligibleTasks := by
  have issues := same.projectionIssues_eq
  by_cases valid : projectionIssues read = []
  · obtain ⟨graph', projected, _, agree⟩ := @exists_agree ⟨read, valid⟩ read' same
    exact Or.inr ⟨⟨read, valid⟩, graph', project_eq_ok_iff.mpr rfl, projected, agree⟩
  · refine Or.inl ⟨projectionIssues read, dif_neg valid, ?_⟩
    rw [issues] at valid ⊢
    exact dif_neg valid

def listedFirst : TrackerSnapshot :=
  { revision := ⟨"revision"⟩
    rootTaskId := some ⟨"C"⟩
    tasks :=
      [ ⟨none, ⟨"C"⟩, .opened, none, [⟨"A"⟩, ⟨"B"⟩]⟩
      , ⟨none, ⟨"A"⟩, .completedSuccessfully, some ⟨"C"⟩, []⟩
      , ⟨none, ⟨"B"⟩, .completedSuccessfully, some ⟨"C"⟩, []⟩ ] }

def listedLast : TrackerSnapshot :=
  { listedFirst with
    tasks :=
      [ ⟨none, ⟨"B"⟩, .completedSuccessfully, some ⟨"C"⟩, []⟩
      , ⟨none, ⟨"A"⟩, .completedSuccessfully, some ⟨"C"⟩, []⟩
      , ⟨none, ⟨"C"⟩, .opened, none, [⟨"B"⟩, ⟨"A"⟩]⟩ ] }

theorem rearranges_listed : Rearranges listedFirst listedLast :=
  ⟨rfl, rfl,
    [ ⟨none, ⟨"B"⟩, .completedSuccessfully, some ⟨"C"⟩, []⟩
    , ⟨none, ⟨"A"⟩, .completedSuccessfully, some ⟨"C"⟩, []⟩
    , ⟨none, ⟨"C"⟩, .opened, none, [⟨"A"⟩, ⟨"B"⟩]⟩ ],
    by decide,
    .cons ⟨⟨rfl, rfl, rfl, by decide⟩, rfl⟩ (.cons ⟨⟨rfl, rfl, rfl, by decide⟩, rfl⟩
      (.cons ⟨⟨rfl, rfl, rfl, by decide⟩, rfl⟩ .nil))⟩

/-- Both listings give graphs that agree. -/
theorem project_listed :
    (∃ issues, project listedFirst = .error issues ∧ project listedLast = .error issues) ∨
      ∃ graph graph', project listedFirst = .ok graph ∧ project listedLast = .ok graph' ∧
        graph.canonicalJson = graph'.canonicalJson ∧
        graph.topologicalOrder = graph'.topologicalOrder ∧
        graph.eligibleTasks = graph'.eligibleTasks :=
  project_rearranged listedFirst listedLast rearranges_listed

def wireRead (snapshot : TaskDagSnapshot) : TrackerSnapshot :=
  { revision := snapshot.toWire.revision
    rootTaskId := snapshot.decoded.rootTaskId
    tasks := snapshot.toWire.tasks }

theorem rearranges_wireRead (snapshot : TaskDagSnapshot) :
    Rearranges snapshot.decoded snapshot.wireRead := by
  refine ⟨rfl, rfl, snapshot.records, snapshot.records_perm.symm, ?_⟩
  unfold wireRead toWire
  dsimp only
  rw [wireTasks_eq, List.forall₂_map_right_iff]
  exact List.forall₂_same.mpr fun record _ =>
    ⟨⟨rfl, rfl, rfl, (sorted_perm record.prerequisiteIds).symm⟩, rfl⟩

/-- Projecting the wire form of a graph with its root gives a graph with the same wire form,
canonical text, order and eligible tasks. -/
theorem project_wireRead (snapshot : TaskDagSnapshot) :
    ∃ graph, project snapshot.wireRead = .ok graph ∧ graph.toWire = snapshot.toWire ∧
      graph.canonicalJson = snapshot.canonicalJson ∧
      graph.topologicalOrder = snapshot.topologicalOrder ∧
      graph.eligibleTasks = snapshot.eligibleTasks := by
  obtain ⟨graph, projected, wire, text, order, eligible⟩ :=
    exists_agree snapshot.rearranges_wireRead
  exact ⟨graph, projected, wire.symm, text.symm, order.symm, eligible.symm⟩

end TaskDagSnapshot
end Dalph
