import Dalph.TaskTracker.GraphProjection

/-!
# The order of a task graph

Prerequisites and dependants of a task graph are the two directions of one acyclic relation over
tasks listed by identity.  The order that a graph gives its tasks is therefore the least one in
which every task stands behind its prerequisites.
-/

namespace Dalph

def TrackerTask.orderKey (record : TrackerTask) :
    TaskId ×ₗ List Nat ×ₗ (Bool ×ₗ List Nat) ×ₗ List TaskId :=
  toLex (record.id, record.tieKey)

instance : IsTrans TrackerTask (· ≤ ·) :=
  ⟨fun first second third => @le_trans _ _ first.orderKey second.orderKey third.orderKey⟩

instance : Std.Total (fun left right : TrackerTask => left ≤ right) :=
  ⟨fun left right => le_total left.orderKey right.orderKey⟩

theorem TrackerTask.id_le_of_le {left right : TrackerTask} (le : left ≤ right) :
    left.id ≤ right.id := by
  obtain less | ⟨same, _⟩ := Prod.Lex.toLex_le_toLex.mp le
  · exact le_of_lt less
  · exact le_of_eq same

namespace TaskDagSnapshot

variable {snapshot : TaskDagSnapshot} {record : TrackerTask} {relation : TaskGraphEdge}
  {source target taskId : TaskId}

section

variable (snapshot : TaskDagSnapshot)

theorem wellFormed : WithoutDefects snapshot.decoded :=
  projectionIssues_eq_nil_iff.mp snapshot.valid

theorem records_perm : snapshot.records.Perm snapshot.decoded.tasks := by
  unfold records
  rw [records_eq snapshot.wellFormed.distinct]
  exact List.perm_insertionSort (· ≤ ·) _

theorem pairwise_records : snapshot.records.Pairwise fun left right => left.id < right.id := by
  have ordered : snapshot.records.Pairwise fun left right => left.id ≤ right.id := by
    unfold records
    rw [records_eq snapshot.wellFormed.distinct]
    exact (List.pairwise_insertionSort (· ≤ ·) snapshot.decoded.tasks).imp
      TrackerTask.id_le_of_le
  have distinct : snapshot.records.Pairwise fun left right => left.id ≠ right.id :=
    List.pairwise_map.mp snapshot.nodup_taskIds
  exact ordered.imp₂ (fun _ _ le apart => lt_of_le_of_ne le apart) distinct

theorem pairwise_taskIds : snapshot.taskIds.Pairwise (· < ·) :=
  List.pairwise_map.mpr snapshot.pairwise_records

end

theorem mem_taskIds_of_source (member : record ∈ snapshot.records)
    (edge : source ∈ record.sources relation) : source ∈ snapshot.taskIds := by
  have known := snapshot.wellFormed.known record (snapshot.records_perm.mem_iff.mp member)
    relation source edge
  exact mem_ids_records.mpr known.2

theorem prerequisitesOf_id (member : record ∈ snapshot.records) :
    snapshot.prerequisitesOf record.id = sorted record.prerequisiteIds := by
  unfold prerequisitesOf
  rw [node?_of_mem member]
  unfold incomingTaskIds
  dsimp only
  rw [List.filter_eq_self.mpr]
  intro prerequisite edge
  exact decide_eq_true (@mem_taskIds_of_source snapshot record .prerequisite prerequisite member edge)

theorem parentTaskIdOf_id (member : record ∈ snapshot.records) :
    snapshot.parentTaskIdOf record.id = record.parentTaskId := by
  unfold parentTaskIdOf
  rw [node?_of_mem member, Option.bind_some]
  unfold incomingTaskIds
  dsimp only
  rw [List.filter_eq_self.mpr]
  · cases record.parentTaskId <;> rfl
  · intro parent edge
    exact decide_eq_true (@mem_taskIds_of_source snapshot record .grouping parent member edge)

theorem prerequisitesOf_of_not_mem (absent : taskId ∉ snapshot.taskIds) :
    snapshot.prerequisitesOf taskId = [] := by
  unfold prerequisitesOf
  cases found : snapshot.node? taskId with
  | none => rfl
  | some record =>
      obtain ⟨member, rfl⟩ := mem_of_node? found
      exact absurd (List.mem_map_of_mem member) absent

theorem mem_prerequisitesOf :
    source ∈ snapshot.prerequisitesOf target ↔
      ∃ record ∈ snapshot.records, record.id = target ∧ source ∈ record.prerequisiteIds := by
  constructor
  · intro edge
    by_cases known : target ∈ snapshot.taskIds
    · obtain ⟨record, member, rfl⟩ := List.mem_map.mp known
      rw [prerequisitesOf_id member, mem_sorted] at edge
      exact ⟨record, member, rfl, edge⟩
    · rw [prerequisitesOf_of_not_mem known] at edge
      exact absurd edge List.not_mem_nil
  · rintro ⟨record, member, rfl, edge⟩
    rw [prerequisitesOf_id member, mem_sorted]
    exact edge

theorem mem_prerequisiteEdges :
    (source, target) ∈ snapshot.prerequisiteEdges ↔ source ∈ snapshot.prerequisitesOf target := by
  rw [mem_prerequisitesOf]
  unfold prerequisiteEdges
  simp only [List.mem_flatMap, List.mem_map, Prod.mk.injEq, mem_incomingTaskIds]
  constructor
  · rintro ⟨record, member, source, ⟨edge, _⟩, rfl, rfl⟩
    exact ⟨record, member, rfl, edge⟩
  · rintro ⟨record, member, rfl, edge⟩
    exact ⟨record, member, source,
      ⟨edge, @mem_taskIds_of_source snapshot record .prerequisite source member edge⟩, rfl, rfl⟩

theorem mem_dependantsOf :
    target ∈ snapshot.dependantsOf source ↔ source ∈ snapshot.prerequisitesOf target := by
  unfold dependantsOf
  rw [mem_sorted, List.mem_filterMap, ← mem_prerequisiteEdges]
  constructor
  · rintro ⟨⟨first, second⟩, member, kept⟩
    dsimp only at kept
    split at kept
    · rename_i same
      cases kept
      exact same ▸ member
    · cases kept
  · intro member
    exact ⟨(source, target), member, if_pos rfl⟩

theorem nodup_prerequisitesOf : (snapshot.prerequisitesOf taskId).Nodup := by
  by_cases known : taskId ∈ snapshot.taskIds
  · obtain ⟨record, member, rfl⟩ := List.mem_map.mp known
    rw [prerequisitesOf_id member, (sorted_perm _).nodup_iff]
    exact snapshot.wellFormed.prerequisites_distinct record
      (snapshot.records_perm.mem_iff.mp member)
  · rw [prerequisitesOf_of_not_mem known]
    exact List.nodup_nil

theorem nodup_prerequisiteEdges (snapshot : TaskDagSnapshot) : snapshot.prerequisiteEdges.Nodup := by
  unfold prerequisiteEdges
  refine List.nodup_flatMap.mpr ⟨fun record member => ?_, ?_⟩
  · have distinct := @nodup_prerequisitesOf snapshot record.id
    unfold prerequisitesOf at distinct
    rw [node?_of_mem member] at distinct
    exact distinct.map fun first second same => (Prod.mk.inj same).1
  · refine snapshot.pairwise_records.imp fun {left right} less edge member member' => ?_
    obtain ⟨_, _, rfl⟩ := List.mem_map.mp member
    obtain ⟨_, _, same⟩ := List.mem_map.mp member'
    exact less.ne (Prod.mk.inj same).2.symm

theorem nodup_dependantsOf : (snapshot.dependantsOf source).Nodup := by
  unfold dependantsOf
  rw [(sorted_perm _).nodup_iff]
  refine snapshot.nodup_prerequisiteEdges.filterMap fun first second target kept kept' => ?_
  split at kept
  · rename_i same
    split at kept'
    · rename_i same'
      exact Prod.ext (same.trans same'.symm)
        ((Option.some.inj kept).trans (Option.some.inj kept').symm)
    · cases kept'
  · cases kept

theorem graph (snapshot : TaskDagSnapshot) :
    TopologicalOrder.Graph snapshot.prerequisitesOf snapshot.dependantsOf snapshot.taskIds where
  increasing := snapshot.pairwise_taskIds
  prerequisites_nodup := fun _ _ => nodup_prerequisitesOf
  prerequisites_subset := by
    intro taskId _ source edge
    obtain ⟨record, member, _, edge⟩ := mem_prerequisitesOf.mp edge
    exact @mem_taskIds_of_source snapshot record .prerequisite source member edge
  dependants_nodup := fun _ _ => nodup_dependantsOf
  mem_dependants_iff := by
    intro taskId _ other
    rw [mem_dependantsOf]
    refine ⟨fun edge => ⟨?_, edge⟩, fun edge => edge.2⟩
    by_contra absent
    rw [prerequisitesOf_of_not_mem absent] at edge
    exact List.not_mem_nil edge
  acyclic := by
    intro taskId cycle
    refine snapshot.wellFormed.acyclic .prerequisite taskId
      (Relation.TransGen.mono (fun source target edge => ?_) taskId taskId cycle)
    obtain ⟨record, member, same, edge⟩ := mem_prerequisitesOf.mp edge.2
    exact ⟨record, snapshot.records_perm.mem_iff.mp member, same, edge⟩

/-- The loop ends with no task ready.  Its order lists every task once behind its prerequisites,
takes the least ready task at each step, and is lexicographically least. -/
theorem topologicalOrder_canonical (snapshot : TaskDagSnapshot) :
    (TopologicalOrder.run snapshot.dependantsOf snapshot.taskIds.length
      (TopologicalOrder.start snapshot.prerequisitesOf snapshot.taskIds)).ready = [] ∧
    snapshot.topologicalOrder.Perm snapshot.taskIds ∧
    TopologicalOrder.Respects snapshot.prerequisitesOf snapshot.topologicalOrder ∧
    TopologicalOrder.Greedy snapshot.prerequisitesOf snapshot.taskIds snapshot.topologicalOrder ∧
    ∀ candidate : List TaskId, candidate.Perm snapshot.taskIds →
      TopologicalOrder.Respects snapshot.prerequisitesOf candidate →
      snapshot.topologicalOrder = candidate ∨
        List.Lex (· < ·) snapshot.topologicalOrder candidate :=
  snapshot.graph.order_spec

end TaskDagSnapshot
end Dalph
