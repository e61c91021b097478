import Dalph.Foundation.Worklist
import Dalph.TaskTracker.GraphOrder

/-!
# Grouping of tasks

Grouping edges point from a task to the tasks it groups.  The subtree of a task is searched breadth
first along them, and holds exactly the task and every task below it.
-/

namespace Dalph
namespace TaskDagSnapshot

variable {snapshot : TaskDagSnapshot} {taskId parent child : TaskId}

def groupingEdges (snapshot : TaskDagSnapshot) : List (TaskId × TaskId) :=
  snapshot.records.flatMap fun record =>
    (incomingTaskIds snapshot.taskIds .grouping record).map fun source => (source, record.id)

def childrenOf (snapshot : TaskDagSnapshot) (parentTaskId : TaskId) : List TaskId :=
  sorted (snapshot.groupingEdges.filterMap fun edge =>
    if edge.1 = parentTaskId then some edge.2 else none)

def groupingSubtreeOf (snapshot : TaskDagSnapshot) (taskId : TaskId) : List TaskId :=
  if taskId ∈ snapshot.taskIds then
    Worklist.search snapshot.childrenOf snapshot.taskIds [taskId]
  else []

def IsGroupingAncestor (snapshot : TaskDagSnapshot) : TaskId → TaskId → Prop :=
  Relation.TransGen fun parent child => snapshot.parentTaskIdOf child = some parent

theorem mem_childrenOf :
    child ∈ snapshot.childrenOf parent ↔ snapshot.parentTaskIdOf child = some parent := by
  unfold childrenOf groupingEdges
  rw [mem_sorted, List.mem_filterMap]
  constructor
  · rintro ⟨⟨source, target⟩, edge, kept⟩
    obtain ⟨record, member, added⟩ := List.mem_flatMap.mp edge
    obtain ⟨source, incoming, same⟩ := List.mem_map.mp added
    cases same
    dsimp only at kept
    split at kept
    · next same =>
        cases kept
        obtain rfl := same
        have grouped := (List.mem_filter.mp incoming).1
        rw [parentTaskIdOf_id member]
        simpa using grouped
    · cases kept
  · intro grouped
    obtain ⟨record, found, head⟩ := Option.bind_eq_some_iff.mp grouped
    obtain ⟨member, rfl⟩ := mem_of_node? found
    exact ⟨(parent, record.id), List.mem_flatMap.mpr
      ⟨record, member, List.mem_map.mpr ⟨parent, List.mem_of_head? head, rfl⟩⟩, by simp⟩

theorem childrenOf_of_not_mem (absent : taskId ∉ snapshot.taskIds) :
    snapshot.childrenOf taskId = [] := by
  refine List.eq_nil_iff_forall_not_mem.mpr fun child grouped => absent ?_
  have edge := mem_childrenOf.mp grouped
  obtain ⟨record, found, incoming⟩ := Option.bind_eq_some_iff.mp edge
  exact (mem_incomingTaskIds.mp (List.mem_of_head? incoming)).2

theorem mem_groupingSubtreeOf :
    child ∈ snapshot.groupingSubtreeOf taskId ↔
      taskId ∈ snapshot.taskIds ∧ (child = taskId ∨ snapshot.IsGroupingAncestor taskId child) := by
  have edges : (fun node next => next ∈ snapshot.childrenOf node) =
      fun parent child => snapshot.parentTaskIdOf child = some parent := by
    funext node next
    exact propext mem_childrenOf
  unfold groupingSubtreeOf
  split
  · next known =>
      rw [Worklist.mem_search_iff fun node absent => childrenOf_of_not_mem absent,
        Worklist.Reaches, edges]
      simp [known, Relation.reflTransGen_iff_eq_or_transGen, IsGroupingAncestor]
  · next unknown => simp [unknown]

theorem mem_taskIds_of_isGroupingAncestor (above : snapshot.IsGroupingAncestor taskId child) :
    taskId ∈ snapshot.taskIds := by
  obtain ⟨next, edge, _⟩ := Relation.TransGen.head'_iff.mp above
  by_contra unknown
  have grouped := mem_childrenOf.mpr edge
  rw [childrenOf_of_not_mem unknown] at grouped
  exact List.not_mem_nil grouped

end TaskDagSnapshot
end Dalph
