import Dalph.TaskTracker.Graph

/-!
# What projection accepts

A tracker read becomes a task graph exactly when its identities are distinct, its edges are distinct
and lead from other known tasks, its root is known, and neither relation has a cycle.  The cycles
that projection reports are the strongly connected components with more than one task.
-/

namespace Dalph

def TrackerTask.sources (relation : TaskGraphEdge) (record : TrackerTask) : List TaskId :=
  match relation with
  | .prerequisite => record.prerequisiteIds
  | .grouping => record.parentTaskId.toList

def TaskEdge (tasks : List TrackerTask) (relation : TaskGraphEdge) (source target : TaskId) :
    Prop :=
  ∃ task ∈ tasks, task.id = target ∧ source ∈ task.sources relation

structure WithoutDefects (decoded : TrackerSnapshot) : Prop where
  distinct : (decoded.tasks.map (·.id)).Nodup
  prerequisites_distinct : ∀ task ∈ decoded.tasks, task.prerequisiteIds.Nodup
  known : ∀ task ∈ decoded.tasks, ∀ relation, ∀ source ∈ task.sources relation,
    source ≠ task.id ∧ source ∈ decoded.tasks.map (·.id)
  root_known : ∀ root ∈ decoded.rootTaskId, root ∈ decoded.tasks.map (·.id)
  acyclic : ∀ relation taskId, ¬ Relation.TransGen (TaskEdge decoded.tasks relation) taskId taskId

def RecordEdge (records : List TrackerTask) (relation : TaskGraphEdge) (source target : TaskId) :
    Prop :=
  TaskEdge records relation source target ∧ source ∈ records.map (·.id)

def IsCycle (records : List TrackerTask) (relation : TaskGraphEdge) (taskIds : List TaskId) :
    Prop :=
  1 < taskIds.length ∧ taskIds.Pairwise (· < ·) ∧
    ∀ taskId ∈ taskIds, ∀ other, other ∈ taskIds ↔
      Relation.ReflTransGen (RecordEdge records relation) taskId other ∧
        Relation.ReflTransGen (RecordEdge records relation) other taskId

def ProjectionIssue.cycleOf (relation : TaskGraphEdge) : ProjectionIssue → Option (List TaskId)
  | .cycle taskIds => if relation = .prerequisite then some taskIds else none
  | .containmentCycle taskIds => if relation = .grouping then some taskIds else none
  | _ => none

def reportedIssues : Except (List ProjectionIssue) TaskDagSnapshot → List ProjectionIssue
  | .ok _ => []
  | .error issues => issues

def reportedCycles (relation : TaskGraphEdge) (decoded : TrackerSnapshot) : List (List TaskId) :=
  (reportedIssues (TaskDagSnapshot.project decoded)).filterMap (ProjectionIssue.cycleOf relation)

variable {records : List TrackerTask} {record : TrackerTask} {relation : TaskGraphEdge}
  {known taskIds : List TaskId} {source target taskId : TaskId} {decoded : TrackerSnapshot}

section

variable (records : List TrackerTask) (collected : List TrackerTask × List ProjectionIssue)

theorem mem_ids_foldl_collectTaskRecord :
    taskId ∈ (records.foldl collectTaskRecord collected).1.map (·.id) ↔
      taskId ∈ collected.1.map (·.id) ∨ taskId ∈ records.map (·.id) := by
  induction records generalizing collected with
  | nil => simp
  | cons record records induction =>
      rw [List.foldl_cons, induction, List.map_cons, List.mem_cons]
      unfold collectTaskRecord
      split
      · rename_i repeated
        constructor
        · rintro (member | member)
          · exact Or.inl member
          · exact Or.inr (Or.inr member)
        · rintro (member | rfl | member)
          · exact Or.inl member
          · exact Or.inl repeated
          · exact Or.inr member
      · rw [List.map_append, List.mem_append, List.map_singleton, List.mem_singleton]
        exact or_assoc

theorem filterMap_cycleOf_collectTaskRecord :
    (records.foldl collectTaskRecord collected).2.filterMap (ProjectionIssue.cycleOf relation) =
      collected.2.filterMap (ProjectionIssue.cycleOf relation) := by
  induction records generalizing collected with
  | nil => rfl
  | cons record records induction =>
      rw [List.foldl_cons, induction]
      unfold collectTaskRecord
      split
      · rw [List.filterMap_append]
        exact List.append_nil _
      · rfl

end

/-- Collection reports nothing exactly when all identities are distinct, and then keeps every
record. -/
theorem foldl_collectTaskRecord (records : List TrackerTask)
    {collected : List TrackerTask × List ProjectionIssue}
    (distinct : (collected.1.map (·.id)).Nodup) :
    ((records.foldl collectTaskRecord collected).2 = [] ↔
      collected.2 = [] ∧ ((collected.1 ++ records).map (·.id)).Nodup) ∧
    (((collected.1 ++ records).map (·.id)).Nodup →
      (records.foldl collectTaskRecord collected).1 = collected.1 ++ records) := by
  induction records generalizing collected with
  | nil => simp [distinct]
  | cons record records induction =>
      rw [List.foldl_cons]
      by_cases repeated : record.id ∈ collected.1.map (·.id)
      · have step : collectTaskRecord collected record =
            (collected.1, collected.2 ++ [.duplicateTask record.id]) := if_pos repeated
        have twice : ¬ ((collected.1 ++ record :: records).map (·.id)).Nodup := by
          intro distinct
          rw [List.map_append, List.map_cons] at distinct
          exact List.disjoint_of_nodup_append distinct repeated List.mem_cons_self
        rw [step]
        refine ⟨?_, fun distinct => absurd distinct twice⟩
        rw [(@induction (collected.1,
          collected.2 ++ [ProjectionIssue.duplicateTask record.id]) distinct).1]
        constructor
        · rintro ⟨empty, _⟩
          exact absurd empty (List.append_ne_nil_of_right_ne_nil _ (List.cons_ne_nil _ _))
        · rintro ⟨_, distinct⟩
          exact absurd distinct twice
      · have step : collectTaskRecord collected record =
            (collected.1 ++ [record], collected.2) := if_neg repeated
        have joined : (collected.1 ++ [record]) ++ records = collected.1 ++ record :: records := by
          rw [List.append_assoc, List.singleton_append]
        have distinct' : ((collected.1 ++ [record]).map (·.id)).Nodup := by
          rw [List.map_append]
          refine List.nodup_append.mpr ⟨distinct, List.nodup_singleton _, ?_⟩
          rintro old member new single rfl
          have same : old = record.id := List.mem_singleton.mp single
          exact repeated (same ▸ member)
        have rest := @induction (collected.1 ++ [record], collected.2) distinct'
        dsimp only at rest
        rwa [joined, ← step] at rest

theorem mem_ids_records : taskId ∈ decoded.records.map (·.id) ↔
    taskId ∈ decoded.tasks.map (·.id) := by
  unfold TrackerSnapshot.records collectTaskRecords
  rw [mem_ids_foldl_collectTaskRecord]
  simp only [List.map_nil, List.not_mem_nil, false_or, List.mem_map,
    (List.perm_insertionSort (· ≤ ·) decoded.tasks).mem_iff]

theorem nodup_ids_records : (decoded.records.map (·.id)).Nodup :=
  TaskDagSnapshot.foldl_collectTaskRecord_nodup _ _ List.nodup_nil

theorem records_eq (distinct : (decoded.tasks.map (·.id)).Nodup) :
    decoded.records = decoded.tasks.insertionSort (· ≤ ·) := by
  have perm := (List.perm_insertionSort (· ≤ ·) decoded.tasks).map (·.id)
  exact (@foldl_collectTaskRecord _ ([], []) List.nodup_nil).2 (perm.nodup_iff.mpr distinct)

theorem mem_incomingTaskIds :
    source ∈ incomingTaskIds known relation record ↔ source ∈ record.sources relation ∧ source ∈ known := by
  cases relation <;> simp [incomingTaskIds, TrackerTask.sources]

/-- A sorted list of prerequisites passes when it repeats none and names other known tasks only. -/
theorem prerequisiteIssues_eq_nil_iff {previous : Option TaskId}
    (increasing : (previous.toList ++ taskIds).Pairwise (· ≤ ·)) :
    prerequisiteIssues record known previous taskIds = [] ↔
      (previous.toList ++ taskIds).Nodup ∧ ∀ taskId ∈ taskIds, taskId ≠ record.id ∧ taskId ∈ known := by
  induction taskIds generalizing previous with
  | nil => cases previous <;> simp [prerequisiteIssues]
  | cons taskId taskIds induction =>
      have tail : ((some taskId).toList ++ taskIds).Pairwise (· ≤ ·) :=
        (List.pairwise_append.mp increasing).2.1
      have step : prerequisiteIssues record known previous (taskId :: taskIds) = [] ↔
          (previous ≠ some taskId ∧ taskId ≠ record.id ∧ taskId ∈ known) ∧
            prerequisiteIssues record known (some taskId) taskIds = [] := by
        rw [prerequisiteIssues, List.append_eq_nil_iff]
        refine and_congr_left fun _ => ?_
        split
        · rename_i repeated
          simp [repeated]
        · split
          · rename_i self
            simp [self]
          · split
            · rename_i missing
              simp [missing]
            · rename_i fresh other present
              simp_all
      have apart : (previous.toList ++ taskId :: taskIds).Nodup ↔
          previous ≠ some taskId ∧ (taskId :: taskIds).Nodup := by
        cases previous with
        | none => simp
        | some prior =>
            have below := (List.pairwise_cons.mp increasing).1
            have above := (List.pairwise_cons.mp tail).1
            constructor
            · intro distinct
              obtain ⟨absent, rest⟩ := List.nodup_cons.mp distinct
              exact ⟨fun same => absent (Option.some.inj same ▸ List.mem_cons_self), rest⟩
            · rintro ⟨other, rest⟩
              refine List.nodup_cons.mpr ⟨fun member => ?_, rest⟩
              obtain rfl | member := List.mem_cons.mp member
              · exact other rfl
              · have same := le_antisymm (below taskId List.mem_cons_self) (above prior member)
                exact other (congrArg some same)
      rw [step, induction tail, apart, List.forall_mem_cons, Option.toList_some,
        List.singleton_append]
      tauto

theorem validatePrerequisites_eq_nil_iff :
    validatePrerequisites record known = [] ↔
      record.prerequisiteIds.Nodup ∧
        ∀ source ∈ record.sources .prerequisite, source ≠ record.id ∧ source ∈ known := by
  unfold validatePrerequisites
  rw [prerequisiteIssues_eq_nil_iff (by simpa using pairwise_sorted record.prerequisiteIds)]
  simp [(sorted_perm record.prerequisiteIds).nodup_iff, TrackerTask.sources]

theorem validateParent_eq_nil_iff :
    validateParent record known = [] ↔
      ∀ source ∈ record.sources .grouping, source ≠ record.id ∧ source ∈ known := by
  unfold validateParent TrackerTask.sources
  cases record.parentTaskId with
  | none => simp
  | some parent =>
      by_cases self : parent = record.id
      · simp [self]
      · by_cases present : parent ∈ known <;> simp [self, present]

theorem filterMap_cycleOf_prerequisiteIssues (previous : Option TaskId) :
    (prerequisiteIssues record known previous taskIds).filterMap
      (ProjectionIssue.cycleOf relation) = [] := by
  induction taskIds generalizing previous with
  | nil => rfl
  | cons taskId taskIds induction =>
      rw [prerequisiteIssues, List.filterMap_append, induction, List.append_nil]
      split
      · rfl
      · split
        · rfl
        · split <;> rfl

theorem filterMap_cycleOf_validate :
    (validatePrerequisites record known ++ validateParent record known).filterMap
      (ProjectionIssue.cycleOf relation) = [] := by
  rw [List.filterMap_append, validatePrerequisites, filterMap_cycleOf_prerequisiteIssues]
  unfold validateParent
  cases record.parentTaskId with
  | none => rfl
  | some parent =>
      dsimp only
      split
      · rfl
      · split <;> rfl

theorem mem_adjacentTaskIds (distinct : (records.map (·.id)).Nodup) :
    source ∈ adjacentTaskIds records relation target ↔ RecordEdge records relation source target := by
  unfold adjacentTaskIds RecordEdge TaskEdge
  cases found : records.find? (·.id = target) with
  | none =>
      have absent := List.find?_eq_none.mp found
      simp only [List.not_mem_nil, false_iff]
      rintro ⟨⟨task, member, same, _⟩, _⟩
      exact absent task member (decide_eq_true same)
  | some record =>
      have member := List.mem_of_find?_eq_some found
      have same : record.id = target := by simpa using List.find?_some found
      rw [mem_incomingTaskIds]
      refine and_congr_left fun _ => ⟨fun edge => ⟨record, member, same, edge⟩, ?_⟩
      rintro ⟨task, listed, same', edge⟩
      have found' := TaskDagSnapshot.find?_id_of_mem distinct listed
      rw [same', found] at found'
      exact Option.some.inj found' ▸ edge

theorem adjacent_closed (distinct : (records.map (·.id)).Nodup) :
    ∀ target ∈ sorted (records.map (·.id)), ∀ source ∈ adjacentTaskIds records relation target,
      source ∈ sorted (records.map (·.id)) :=
  fun _ _ _ edge => mem_sorted.mpr ((mem_adjacentTaskIds distinct).mp edge).2

section

variable (distinct : (records.map (·.id)).Nodup)
include distinct

theorem reaches_iff :
    Worklist.Reaches (adjacentTaskIds records relation) target source ↔
      Relation.ReflTransGen (RecordEdge records relation) source target := by
  have same : (fun node next => next ∈ adjacentTaskIds records relation node) =
      Function.swap (RecordEdge records relation) := by
    funext node next
    exact propext (mem_adjacentTaskIds distinct)
  unfold Worklist.Reaches
  rw [same]
  exact Relation.reflTransGen_swap

theorem mem_cycleTaskIds :
    taskIds ∈ cycleTaskIds records relation ↔ IsCycle records relation taskIds := by
  have recorded : taskIds ∈ cycleTaskIds records relation ↔
      1 < taskIds.length ∧ taskIds.Pairwise (· ≤ ·) ∧ ∃ component ∈
        StronglyConnected.components (adjacentTaskIds records relation)
          (sorted (records.map (·.id))), component.Perm taskIds := by
    unfold cycleTaskIds
    rw [List.mem_filterMap]
    constructor
    · rintro ⟨component, member, kept⟩
      split at kept
      · rename_i large
        cases kept
        exact ⟨(sorted_perm component).length_eq ▸ large, pairwise_sorted component, component,
          member, (sorted_perm component).symm⟩
      · cases kept
    · rintro ⟨large, increasing, component, member, perm⟩
      refine ⟨component, member, ?_⟩
      rw [if_pos (perm.length_eq ▸ large), sorted_eq_sorted_iff.mpr perm, sorted_eq_self increasing]
  rw [recorded]
  unfold IsCycle
  refine and_congr_right fun large => ?_
  have nonempty : taskIds ≠ [] := by
    rintro rfl
    exact absurd large (Nat.not_lt_zero 1)
  have whole : StronglyConnected.IsComponent (adjacentTaskIds records relation) taskIds ↔
      taskIds.Nodup ∧ ∀ taskId ∈ taskIds, ∀ other, other ∈ taskIds ↔
        Relation.ReflTransGen (RecordEdge records relation) taskId other ∧
          Relation.ReflTransGen (RecordEdge records relation) other taskId := by
    unfold StronglyConnected.IsComponent
    simp only [reaches_iff distinct, nonempty, ne_eq, not_false_eq_true, true_and]
    refine and_congr_right fun _ => forall₂_congr fun _ _ => forall_congr' fun _ => ?_
    rw [and_comm]
  have closed := @adjacent_closed records relation distinct
  constructor
  · rintro ⟨increasing, component, member, perm⟩
    have known : taskIds ⊆ sorted (records.map (·.id)) := fun taskId inside =>
      ((StronglyConnected.components_spec closed).1 component member).2 (perm.mem_iff.mpr inside)
    obtain ⟨once, connected⟩ := whole.mp
      ((StronglyConnected.mem_components_iff nonempty closed known).mp ⟨component, member, perm⟩)
    exact ⟨increasing.imp₂ (fun _ _ le apart => lt_of_le_of_ne le apart) once, connected⟩
  · rintro ⟨increasing, connected⟩
    -- each member has an edge to another one
    have known : taskIds ⊆ sorted (records.map (·.id)) := by
      intro taskId inside
      obtain ⟨other, member, apart⟩ : ∃ other ∈ taskIds, taskId ≠ other := by
        obtain ⟨first, second, rest, rfl⟩ :
            ∃ first second rest, taskIds = first :: second :: rest := by
          match taskIds, large with
          | first :: second :: rest, _ => exact ⟨first, second, rest, rfl⟩
        have less : first < second := (List.pairwise_cons.mp increasing).1 second (by simp)
        by_cases same : taskId = first
        · exact ⟨second, by simp, fun equal => less.ne (same.symm.trans equal)⟩
        · exact ⟨first, by simp, same⟩
      obtain same | ⟨next, edge, _⟩ :=
        Relation.ReflTransGen.cases_head ((connected taskId inside other).mp member).1
      · exact absurd same apart
      · exact mem_sorted.mpr edge.2
    obtain ⟨component, member, perm⟩ :=
      (StronglyConnected.mem_components_iff nonempty closed known).mpr
        (whole.mpr ⟨increasing.imp ne_of_lt, connected⟩)
    exact ⟨increasing.imp le_of_lt, component, member, perm⟩

theorem nodup_cycleTaskIds : (cycleTaskIds records relation).Nodup := by
  obtain ⟨_, _, disjoint⟩ :=
    StronglyConnected.components_spec (@adjacent_closed records relation distinct)
  refine List.Pairwise.filterMap _ (fun first second apart => ?_) disjoint
  intro taskIds listed taskIds' listed' same
  split at listed
  · rename_i large
    split at listed'
    · cases listed
      cases listed'
      obtain ⟨taskId, member⟩ := List.exists_mem_of_length_pos (Nat.lt_trans Nat.zero_lt_one large)
      exact apart member ((sorted_eq_sorted_iff.mp same).mem_iff.mp member)
    · cases listed'
  · cases listed

theorem cycleTaskIds_eq_nil_iff
    (irreflexive : ∀ taskId, ¬ RecordEdge records relation taskId taskId) :
    cycleTaskIds records relation = [] ↔
      ∀ taskId, ¬ Relation.TransGen (RecordEdge records relation) taskId taskId := by
  have large_iff : (∃ component ∈ StronglyConnected.components
        (adjacentTaskIds records relation) (sorted (records.map (·.id))), 1 < component.length) ↔
      cycleTaskIds records relation ≠ [] := by
    unfold cycleTaskIds
    rw [ne_eq, List.filterMap_eq_nil_iff]
    push Not
    refine exists_congr fun component => and_congr_right fun _ => ?_
    split <;> simp_all
  have same : (fun node next => next ∈ adjacentTaskIds records relation node) =
      Function.swap (RecordEdge records relation) := by
    funext node next
    exact propext (mem_adjacentTaskIds distinct)
  have cycle_iff := StronglyConnected.exists_cycle_iff (@adjacent_closed records relation distinct)
  rw [large_iff, same] at cycle_iff
  constructor
  · intro empty taskId cycle
    obtain ⟨next, edge, _⟩ := Relation.TransGen.head'_iff.mp cycle
    obtain ⟨self, _, loop⟩ | large := cycle_iff.mp
      ⟨taskId, mem_sorted.mpr edge.2, Relation.transGen_swap.mpr cycle⟩
    · exact irreflexive self ((mem_adjacentTaskIds distinct).mp loop)
    · exact large empty
  · intro acyclic
    by_contra large
    obtain ⟨taskId, _, cycle⟩ := cycle_iff.mpr (Or.inr large)
    exact acyclic taskId (Relation.transGen_swap.mp cycle)

end

def missingRootIssues (decoded : TrackerSnapshot) : List ProjectionIssue :=
  (decoded.rootTaskId.toList.filter (· ∉ decoded.records.map (·.id))).map .missingRootTask

theorem projectionIssues_eq :
    projectionIssues decoded =
      (collectTaskRecords (decoded.tasks.insertionSort (· ≤ ·))).2
      ++ (decoded.tasks.insertionSort (· ≤ ·)).flatMap (fun record =>
        validatePrerequisites record (decoded.records.map (·.id)) ++
          validateParent record (decoded.records.map (·.id)))
      ++ missingRootIssues decoded
      ++ (cycleTaskIds decoded.records .prerequisite).map .cycle
      ++ (cycleTaskIds decoded.records .grouping).map .containmentCycle := by
  have root : missingRootIssues decoded =
      decoded.rootTaskId.elim [] fun root =>
        if root ∉ decoded.records.map (·.id) then [.missingRootTask root] else [] := by
    unfold missingRootIssues
    cases decoded.rootTaskId with
    | none => rfl
    | some root =>
        simp only [Option.toList_some, Option.elim_some, List.filter_cons, List.filter_nil,
          decide_eq_true_iff]
        split <;> rfl
  rw [root]
  unfold projectionIssues
  cases decoded.rootTaskId <;> rfl

theorem filterMap_cycleOf_projectionIssues :
    (projectionIssues decoded).filterMap (ProjectionIssue.cycleOf relation) =
      cycleTaskIds decoded.records relation := by
  have duplicates : (collectTaskRecords (decoded.tasks.insertionSort (· ≤ ·))).2.filterMap
      (ProjectionIssue.cycleOf relation) = [] := filterMap_cycleOf_collectTaskRecord _ _
  have edges : ((decoded.tasks.insertionSort (· ≤ ·)).flatMap fun record =>
      validatePrerequisites record (decoded.records.map (·.id)) ++
        validateParent record (decoded.records.map (·.id))).filterMap
      (ProjectionIssue.cycleOf relation) = [] := by
    rw [List.filterMap_flatMap]
    exact List.flatMap_eq_nil_iff.mpr fun record _ => filterMap_cycleOf_validate
  have root : (missingRootIssues decoded).filterMap (ProjectionIssue.cycleOf relation) = [] := by
    unfold missingRootIssues
    rw [List.filterMap_map]
    exact List.filterMap_eq_nil_iff.mpr fun _ _ => rfl
  rw [projectionIssues_eq]
  simp only [List.filterMap_append, duplicates, edges, root, List.nil_append, List.filterMap_map]
  cases relation with
  | prerequisite =>
      have own : ProjectionIssue.cycleOf .prerequisite ∘ ProjectionIssue.cycle = some := rfl
      have other : (cycleTaskIds decoded.records .grouping).filterMap
          (ProjectionIssue.cycleOf .prerequisite ∘ ProjectionIssue.containmentCycle) = [] :=
        List.filterMap_eq_nil_iff.mpr fun _ _ => rfl
      rw [own, other, List.filterMap_some, List.append_nil]
  | grouping =>
      have own : ProjectionIssue.cycleOf .grouping ∘ ProjectionIssue.containmentCycle = some := rfl
      have other : (cycleTaskIds decoded.records .prerequisite).filterMap
          (ProjectionIssue.cycleOf .grouping ∘ ProjectionIssue.cycle) = [] :=
        List.filterMap_eq_nil_iff.mpr fun _ _ => rfl
      rw [own, other, List.filterMap_some, List.nil_append]

theorem reportedIssues_project :
    reportedIssues (TaskDagSnapshot.project decoded) = projectionIssues decoded := by
  unfold TaskDagSnapshot.project
  split
  · rename_i valid
    exact valid.symm
  · rfl

theorem missingRootIssues_eq_nil_iff :
    missingRootIssues decoded = [] ↔
      ∀ root ∈ decoded.rootTaskId, root ∈ decoded.tasks.map (·.id) := by
  unfold missingRootIssues
  simp only [List.map_eq_nil_iff, List.filter_eq_nil_iff, Option.mem_toList, decide_eq_true_iff,
    not_not, mem_ids_records]
  rfl

theorem recordEdge_iff (distinct : (decoded.tasks.map (·.id)).Nodup)
    (known : ∀ task ∈ decoded.tasks, ∀ source ∈ task.sources relation,
      source ∈ decoded.tasks.map (·.id)) :
    RecordEdge decoded.records relation source target ↔
      TaskEdge decoded.tasks relation source target := by
  have members : ∀ task, task ∈ decoded.records ↔ task ∈ decoded.tasks := fun task => by
    rw [records_eq distinct]
    exact (List.perm_insertionSort (· ≤ ·) decoded.tasks).mem_iff
  unfold RecordEdge TaskEdge
  simp only [members, mem_ids_records]
  refine ⟨fun edge => edge.1, fun edge => ⟨edge, ?_⟩⟩
  obtain ⟨task, member, _, inside⟩ := edge
  exact known task member source inside

theorem projectionIssues_eq_nil_iff : projectionIssues decoded = [] ↔ WithoutDefects decoded := by
  have ordered := List.perm_insertionSort (· ≤ ·) decoded.tasks
  have duplicates : (collectTaskRecords (decoded.tasks.insertionSort (· ≤ ·))).2 = [] ↔
      (decoded.tasks.map (·.id)).Nodup := by
    refine (@foldl_collectTaskRecord _ ([], []) List.nodup_nil).1.trans ?_
    simp [(ordered.map (·.id)).nodup_iff]
  have edges : (decoded.tasks.insertionSort (· ≤ ·)).flatMap (fun record =>
        validatePrerequisites record (decoded.records.map (·.id)) ++
          validateParent record (decoded.records.map (·.id))) = [] ↔
      ∀ task ∈ decoded.tasks, task.prerequisiteIds.Nodup ∧ ∀ relation,
        ∀ source ∈ task.sources relation,
          source ≠ task.id ∧ source ∈ decoded.tasks.map (·.id) := by
    simp only [List.flatMap_eq_nil_iff, List.append_eq_nil_iff, validatePrerequisites_eq_nil_iff,
      validateParent_eq_nil_iff, ordered.mem_iff, mem_ids_records]
    refine forall₂_congr fun task _ => ?_
    rw [and_assoc]
    refine and_congr_right fun _ => ⟨?_, fun all => ⟨all .prerequisite, all .grouping⟩⟩
    rintro ⟨prerequisites, parents⟩ relation
    cases relation with
    | prerequisite => exact prerequisites
    | grouping => exact parents
  rw [projectionIssues_eq]
  simp only [List.append_eq_nil_iff, List.map_eq_nil_iff, duplicates, edges,
    missingRootIssues_eq_nil_iff]
  -- no record follows itself, so what is left of acyclicity are the components
  have acyclic : (decoded.tasks.map (·.id)).Nodup → (∀ task ∈ decoded.tasks,
      task.prerequisiteIds.Nodup ∧ ∀ relation, ∀ source ∈ task.sources relation,
        source ≠ task.id ∧ source ∈ decoded.tasks.map (·.id)) →
      ∀ relation, cycleTaskIds decoded.records relation = [] ↔
        ∀ taskId, ¬ Relation.TransGen (TaskEdge decoded.tasks relation) taskId taskId := by
    intro distinct known relation
    have edge_iff : RecordEdge decoded.records relation = TaskEdge decoded.tasks relation := by
      funext source target
      exact propext (recordEdge_iff distinct fun task member source inside =>
        ((known task member).2 relation source inside).2)
    rw [← edge_iff]
    refine cycleTaskIds_eq_nil_iff nodup_ids_records fun taskId loop => ?_
    rw [edge_iff] at loop
    obtain ⟨task, member, same, inside⟩ := loop
    exact ((known task member).2 relation taskId inside).1 same.symm
  constructor
  · rintro ⟨⟨⟨⟨distinct, known⟩, root⟩, prerequisites⟩, groupings⟩
    refine
      { distinct
        prerequisites_distinct := fun task member => (known task member).1
        known := fun task member => (known task member).2
        root_known := root
        acyclic := fun relation => (acyclic distinct known relation).mp ?_ }
    cases relation with
    | prerequisite => exact prerequisites
    | grouping => exact groupings
  · intro wellFormed
    have known : ∀ task ∈ decoded.tasks, task.prerequisiteIds.Nodup ∧ ∀ relation,
        ∀ source ∈ task.sources relation,
          source ≠ task.id ∧ source ∈ decoded.tasks.map (·.id) := fun task member =>
      ⟨wellFormed.prerequisites_distinct task member, wellFormed.known task member⟩
    exact ⟨⟨⟨⟨wellFormed.distinct, known⟩, wellFormed.root_known⟩,
      (acyclic wellFormed.distinct known .prerequisite).mpr (wellFormed.acyclic .prerequisite)⟩,
      (acyclic wellFormed.distinct known .grouping).mpr (wellFormed.acyclic .grouping)⟩

namespace TaskDagSnapshot

/-- Projection accepts exactly the reads without defects, and the cycles it reports are the strongly
connected components with more than one task, each once. -/
theorem project_exact (decoded : TrackerSnapshot) :
    ((∃ snapshot, project decoded = .ok snapshot) ↔ WithoutDefects decoded) ∧
      ∀ relation, (reportedCycles relation decoded).Nodup ∧ ∀ taskIds,
        taskIds ∈ reportedCycles relation decoded ↔ IsCycle decoded.records relation taskIds := by
  constructor
  · rw [← projectionIssues_eq_nil_iff]
    unfold project
    split
    · rename_i valid
      simp [valid]
    · rename_i invalid
      simp [invalid]
  · intro relation
    have cycles : reportedCycles relation decoded = cycleTaskIds decoded.records relation := by
      rw [reportedCycles, reportedIssues_project, filterMap_cycleOf_projectionIssues]
    rw [cycles]
    exact ⟨nodup_cycleTaskIds nodup_ids_records, fun taskIds => mem_cycleTaskIds nodup_ids_records⟩

end TaskDagSnapshot
end Dalph
