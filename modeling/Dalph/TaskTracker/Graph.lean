import Dalph.Contracts
import Dalph.Foundation.Json
import Dalph.Foundation.StronglyConnected
import Dalph.Foundation.TopologicalOrder

/-!
# Task graph snapshots

A tracker snapshot is projected to a task graph with prerequisite and grouping edges.  Projection
reports every defect it finds; only a snapshot without defects becomes a `TaskDagSnapshot`.
-/

namespace Dalph

inductive TaskLifecycle where
  | opened
  | completedSuccessfully
  | terminalWithoutSuccess
deriving DecidableEq

def isTaskOpen (lifecycle : TaskLifecycle) : Bool :=
  lifecycle = .opened

def isDependencySatisfied (lifecycle : TaskLifecycle) : Bool :=
  lifecycle = .completedSuccessfully

structure TrackerTaskDescriptor where
  title : String
  issueNumber : Option Nat
deriving DecidableEq

structure TrackerTask where
  descriptor : Option TrackerTaskDescriptor
  id : TaskId
  lifecycle : TaskLifecycle
  parentTaskId : Option TaskId
  prerequisiteIds : List TaskId
deriving DecidableEq

structure TrackerSnapshot where
  revision : TrackerRevision
  rootTaskId : Option TaskId
  tasks : List TrackerTask
deriving DecidableEq

/-- Defects found while projecting a tracker snapshot. -/
inductive ProjectionIssue where
  | duplicateTask (taskId : TaskId)
  | duplicatePrerequisite (dependant prerequisite : TaskId)
  | missingPrerequisite (dependant prerequisite : TaskId)
  | selfPrerequisite (taskId : TaskId)
  | missingParent (child parent : TaskId)
  | missingRootTask (taskId : TaskId)
  | selfParent (taskId : TaskId)
  | cycle (taskIds : List TaskId)
  | containmentCycle (taskIds : List TaskId)
deriving DecidableEq

def TaskLifecycle.tag : TaskLifecycle → String
  | .opened => "Open"
  | .completedSuccessfully => "CompletedSuccessfully"
  | .terminalWithoutSuccess => "TerminalWithoutSuccess"

def TrackerTask.tieKey (record : TrackerTask) :
    List Nat ×ₗ (Bool ×ₗ List Nat) ×ₗ List TaskId :=
  toLex (Utf16.units record.lifecycle.tag,
    toLex (toLex (record.parentTaskId.isSome,
      Utf16.units (record.parentTaskId.elim "" (·.value))), sorted record.prerequisiteIds))

/-- Order of the projected records: by identity, equal identities by `compareTrackerTasks`. -/
instance : LE TrackerTask :=
  ⟨fun left right => toLex (left.id, left.tieKey) ≤ toLex (right.id, right.tieKey)⟩

instance (left right : TrackerTask) : Decidable (left ≤ right) :=
  inferInstanceAs (Decidable (toLex (left.id, left.tieKey) ≤ toLex (right.id, right.tieKey)))

def collectTaskRecord (collected : List TrackerTask × List ProjectionIssue)
    (record : TrackerTask) : List TrackerTask × List ProjectionIssue :=
  if record.id ∈ collected.1.map (·.id) then
    (collected.1, collected.2 ++ [.duplicateTask record.id])
  else (collected.1 ++ [record], collected.2)

def collectTaskRecords (records : List TrackerTask) : List TrackerTask × List ProjectionIssue :=
  records.foldl collectTaskRecord ([], [])

/-- Defects of one record's sorted prerequisites, given the prerequisite before them. -/
def prerequisiteIssues (record : TrackerTask) (known : List TaskId) :
    Option TaskId → List TaskId → List ProjectionIssue
  | _, [] => []
  | previous, prerequisite :: rest =>
      let issues : List ProjectionIssue :=
        if previous = some prerequisite then [.duplicatePrerequisite record.id prerequisite]
        else if prerequisite = record.id then [.selfPrerequisite record.id]
        else if prerequisite ∉ known then [.missingPrerequisite record.id prerequisite]
        else []
      issues ++ prerequisiteIssues record known (some prerequisite) rest

def validatePrerequisites (record : TrackerTask) (known : List TaskId) : List ProjectionIssue :=
  prerequisiteIssues record known none (sorted record.prerequisiteIds)

/-- Defects of one record's grouping edge. -/
def validateParent (record : TrackerTask) (known : List TaskId) : List ProjectionIssue :=
  match record.parentTaskId with
  | none => []
  | some parent =>
      if parent = record.id then [.selfParent record.id]
      else if parent ∉ known then [.missingParent record.id parent]
      else []

/-- Which edges of the one normalized graph a traversal follows. -/
inductive TaskGraphEdge where
  | prerequisite
  | grouping
deriving DecidableEq

def incomingTaskIds (known : List TaskId) (relation : TaskGraphEdge) (record : TrackerTask) :
    List TaskId :=
  match relation with
  | .prerequisite => sorted (record.prerequisiteIds.filter (· ∈ known))
  | .grouping => record.parentTaskId.toList.filter (· ∈ known)

def adjacentTaskIds (records : List TrackerTask) (relation : TaskGraphEdge) (taskId : TaskId) :
    List TaskId :=
  match records.find? (·.id = taskId) with
  | none => []
  | some record => incomingTaskIds (records.map (·.id)) relation record

/-- Strongly connected components with more than one member, in the order in which the search
leaves them. -/
def cycleTaskIds (records : List TrackerTask) (relation : TaskGraphEdge) : List (List TaskId) :=
  (StronglyConnected.components (adjacentTaskIds records relation)
    (sorted (records.map (·.id)))).filterMap fun component =>
      if 1 < component.length then some (sorted component) else none

def TrackerSnapshot.records (decoded : TrackerSnapshot) : List TrackerTask :=
  (collectTaskRecords (decoded.tasks.insertionSort (· ≤ ·))).1

/-- All defects of a snapshot. -/
def projectionIssues (decoded : TrackerSnapshot) : List ProjectionIssue :=
  let ordered := decoded.tasks.insertionSort (· ≤ ·)
  let (records, duplicates) := collectTaskRecords ordered
  let known := records.map (·.id)
  let missingRoot : List ProjectionIssue :=
    match decoded.rootTaskId with
    | none => []
    | some root => if root ∉ known then [.missingRootTask root] else []
  duplicates
    ++ ordered.flatMap
      (fun record => validatePrerequisites record known ++ validateParent record known)
    ++ missingRoot
    ++ (cycleTaskIds records .prerequisite).map .cycle
    ++ (cycleTaskIds records .grouping).map .containmentCycle

def taskDagSchemaVersion : Nat := 1

/-- Encoded form of a graph. -/
structure TaskDagWire where
  schemaVersion : Nat
  revision : TrackerRevision
  tasks : List TrackerTask
deriving DecidableEq

def TrackerTaskDescriptor.encode (descriptor : TrackerTaskDescriptor) : Json :=
  .obj (("title", .str descriptor.title) ::
    (descriptor.issueNumber.map fun issueNumber => ("issueNumber", Json.num issueNumber)).toList)

def TrackerTask.encode (task : TrackerTask) : Json :=
  .obj ((task.descriptor.map fun descriptor => ("descriptor", descriptor.encode)).toList ++
    [("id", .str task.id.value),
      ("lifecycle", .obj [("_tag", .str task.lifecycle.tag)]),
      ("parentTaskId", task.parentTaskId.elim .null fun parent => .str parent.value),
      ("prerequisiteIds", .arr (task.prerequisiteIds.map fun prerequisite =>
        .str prerequisite.value))])

def TaskDagWire.encode (wire : TaskDagWire) : Json :=
  .obj [("schemaVersion", .num wire.schemaVersion), ("revision", .str wire.revision.value),
    ("tasks", .arr (wire.tasks.map TrackerTask.encode))]

/-- A task graph: a tracker snapshot whose projection reports no issue. -/
structure TaskDagSnapshot where
  /-- The decoded read the graph was projected from. -/
  decoded : TrackerSnapshot
  /-- Projection found no defect. -/
  valid : projectionIssues decoded = []
deriving DecidableEq

namespace TaskDagSnapshot

def project (decoded : TrackerSnapshot) : Except (List ProjectionIssue) TaskDagSnapshot :=
  if valid : projectionIssues decoded = [] then .ok ⟨decoded, valid⟩
  else .error (projectionIssues decoded)

def records (snapshot : TaskDagSnapshot) : List TrackerTask :=
  snapshot.decoded.records

def taskIds (snapshot : TaskDagSnapshot) : List TaskId :=
  snapshot.records.map (·.id)

def node? (snapshot : TaskDagSnapshot) (taskId : TaskId) : Option TrackerTask :=
  snapshot.records.find? (·.id = taskId)

def lifecycleOf (snapshot : TaskDagSnapshot) (taskId : TaskId) : Option TaskLifecycle :=
  (snapshot.node? taskId).map (·.lifecycle)

def prerequisitesOf (snapshot : TaskDagSnapshot) (taskId : TaskId) : List TaskId :=
  match snapshot.node? taskId with
  | none => []
  | some record => incomingTaskIds snapshot.taskIds .prerequisite record

def parentTaskIdOf (snapshot : TaskDagSnapshot) (taskId : TaskId) : Option TaskId :=
  (snapshot.node? taskId).bind fun record =>
    (incomingTaskIds snapshot.taskIds .grouping record).head?

def prerequisiteEdges (snapshot : TaskDagSnapshot) : List (TaskId × TaskId) :=
  snapshot.records.flatMap fun record =>
    (incomingTaskIds snapshot.taskIds .prerequisite record).map fun source => (source, record.id)

def dependantsOf (snapshot : TaskDagSnapshot) (prerequisite : TaskId) : List TaskId :=
  sorted (snapshot.prerequisiteEdges.filterMap fun edge =>
    if edge.1 = prerequisite then some edge.2 else none)

def topologicalOrder (snapshot : TaskDagSnapshot) : List TaskId :=
  TopologicalOrder.order snapshot.prerequisitesOf snapshot.dependantsOf snapshot.taskIds

def eligibleTaskIds (snapshot : TaskDagSnapshot) : List TaskId :=
  snapshot.taskIds.filter fun taskId =>
    match snapshot.lifecycleOf taskId with
    | none => false
    | some lifecycle =>
        isTaskOpen lifecycle &&
          (snapshot.prerequisitesOf taskId).all fun prerequisite =>
            match snapshot.lifecycleOf prerequisite with
            | none => false
            | some prerequisiteLifecycle => isDependencySatisfied prerequisiteLifecycle

def wireTasks (snapshot : TaskDagSnapshot) : List TrackerTask :=
  snapshot.records.map fun record =>
    { record with
      parentTaskId := snapshot.parentTaskIdOf record.id
      prerequisiteIds := snapshot.prerequisitesOf record.id }

def eligibleTasks (snapshot : TaskDagSnapshot) : List TrackerTask :=
  snapshot.eligibleTaskIds.filterMap fun taskId =>
    (snapshot.node? taskId).map fun node =>
      { descriptor := node.descriptor
        id := taskId
        lifecycle := node.lifecycle
        parentTaskId := snapshot.parentTaskIdOf taskId
        prerequisiteIds := snapshot.prerequisitesOf taskId }

def toWire (snapshot : TaskDagSnapshot) : TaskDagWire :=
  { schemaVersion := taskDagSchemaVersion
    revision := snapshot.decoded.revision
    tasks := snapshot.wireTasks }

def canonicalJson (snapshot : TaskDagSnapshot) : String :=
  Json.stringify snapshot.toWire.encode

theorem foldl_collectTaskRecord_nodup (records : List TrackerTask)
    (collected : List TrackerTask × List ProjectionIssue)
    (nodup : (collected.1.map (·.id)).Nodup) :
    ((records.foldl collectTaskRecord collected).1.map (·.id)).Nodup := by
  induction records generalizing collected with
  | nil => exact nodup
  | cons record records ih =>
      apply ih
      unfold collectTaskRecord
      split
      · exact nodup
      · rename_i fresh
        simp only [List.map_append, List.map_cons, List.map_nil]
        refine List.nodup_append.mpr ⟨nodup, List.nodup_singleton _, ?_⟩
        rintro old oldMember new newMember rfl
        exact fresh (List.mem_singleton.mp newMember ▸ oldMember)

theorem nodup_taskIds (snapshot : TaskDagSnapshot) : snapshot.taskIds.Nodup :=
  foldl_collectTaskRecord_nodup _ _ List.nodup_nil

theorem find?_id_of_mem {records : List TrackerTask} {record : TrackerTask}
    (nodup : (records.map (·.id)).Nodup) (member : record ∈ records) :
    records.find? (·.id = record.id) = some record := by
  induction records with
  | nil => cases member
  | cons head tail ih =>
      simp only [List.map_cons, List.nodup_cons] at nodup
      rcases List.mem_cons.mp member with rfl | member
      · simp
      · have different : head.id ≠ record.id := by
          intro same
          exact nodup.1 (same ▸ List.mem_map_of_mem member)
        simp only [List.find?_cons, different, decide_false]
        exact ih nodup.2 member

variable {snapshot : TaskDagSnapshot}

theorem node?_of_mem {record : TrackerTask} (member : record ∈ snapshot.records) :
    snapshot.node? record.id = some record :=
  find?_id_of_mem snapshot.nodup_taskIds member

theorem mem_of_node? {taskId : TaskId} {record : TrackerTask}
    (found : snapshot.node? taskId = some record) :
    record ∈ snapshot.records ∧ record.id = taskId :=
  ⟨List.mem_of_find?_eq_some found, by simpa using List.find?_some found⟩

theorem open_of_mem_eligibleTaskIds {taskId : TaskId} (eligible : taskId ∈ snapshot.eligibleTaskIds)
    : ∃ record ∈ snapshot.records, record.id = taskId ∧ record.lifecycle = .opened := by
  have accepted := (List.mem_filter.mp eligible).2
  unfold lifecycleOf at accepted
  cases found : snapshot.node? taskId with
  | none => simp [found] at accepted
  | some record =>
      obtain ⟨member, same⟩ := mem_of_node? found
      simp only [found, Option.map_some, Bool.and_eq_true] at accepted
      exact ⟨record, member, same, by simpa [isTaskOpen] using accepted.1⟩

end TaskDagSnapshot
end Dalph
