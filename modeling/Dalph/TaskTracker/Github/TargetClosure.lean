import Dalph.TaskTracker.Github.ReadPrimitives

/-!
# GitHub target closure: visits

The closure of a root holds its descendants and what blocks them, transitively.  The invariant says
what a traversal knows of a fixed issue graph between two visits: every prerequisite of a recorded
issue and every child of an expanded one is settled or on the agenda.
-/

namespace Dalph

open GithubTargetClosureIssue (idOf parentNodeId)

section Closure

variable (endpoints : GithubIssueNodeId → GithubIssueRelation → List GithubIssueNodeId)

def DescendsFrom : GithubIssueNodeId → GithubIssueNodeId → Prop :=
  Relation.ReflTransGen fun parent child => child ∈ endpoints parent .subIssues

def BlockedBy : GithubIssueNodeId → GithubIssueNodeId → Prop :=
  Relation.ReflTransGen fun dependant prerequisite => prerequisite ∈ endpoints dependant .blockedBy

def InTargetClosure (root nodeId : GithubIssueNodeId) : Prop :=
  ∃ descendant, DescendsFrom endpoints root descendant ∧ BlockedBy endpoints descendant nodeId

variable {endpoints} {root nodeId other : GithubIssueNodeId}

theorem DescendsFrom.inTargetClosure (descends : DescendsFrom endpoints root nodeId) :
    InTargetClosure endpoints root nodeId :=
  ⟨nodeId, descends, .refl⟩

theorem InTargetClosure.prerequisite (member : InTargetClosure endpoints root nodeId)
    (blocks : other ∈ endpoints nodeId .blockedBy) : InTargetClosure endpoints root other := by
  obtain ⟨descendant, descends, blocked⟩ := member
  exact ⟨descendant, descends, blocked.tail blocks⟩

theorem InTargetClosure.induction
    (member : InTargetClosure endpoints root nodeId) (Holds : GithubIssueNodeId → Prop)
    (descendants : ∀ {nodeId}, DescendsFrom endpoints root nodeId → Holds nodeId)
    (prerequisites : ∀ {nodeId other}, Holds nodeId → other ∈ endpoints nodeId .blockedBy →
      Holds other) : Holds nodeId := by
  obtain ⟨descendant, descends, blocked⟩ := member
  induction blocked with
  | refl => exact descendants descends
  | tail _ blocks induction => exact prerequisites induction blocks

end Closure

variable {Issue Failure : Type} [GithubTargetClosureIssue Issue]
  {boundary : GithubTargetClosureRead (Except Failure) Issue Failure}
  {endpoints : GithubIssueNodeId → GithubIssueRelation → List GithubIssueNodeId}
  {scratch after : GithubTargetClosureScratch Issue} {issue : Issue}
  {nodeId parent child : GithubIssueNodeId} {nodeIds : List GithubIssueNodeId}

omit [GithubTargetClosureIssue Issue] in
theorem registerDiscoveredSubjects_of_nodup (distinct : nodeIds.Nodup) {stage : GithubIssueRelation} :
    registerDiscoveredSubjects (m := Except Failure) boundary scratch nodeIds stage =
      if (scratch.discovered ∪ nodeIds.toFinset).card ≤ githubSnapshotTaskLimit then
        .ok { scratch with discovered := scratch.discovered ∪ nodeIds.toFinset }
      else .error (boundary.resourceLimit stage
        s!"GitHub {boundary.closureDescription} exceeds {githubSnapshotTaskLimit} tasks") := by
  have additions : (nodeIds.filter (· ∉ scratch.discovered)).toFinset =
      nodeIds.toFinset \ scratch.discovered := by
    ext nodeId
    simp
  have joined : scratch.discovered ∪ (nodeIds.filter (· ∉ scratch.discovered)).toFinset =
      scratch.discovered ∪ nodeIds.toFinset := by
    rw [additions, Finset.union_sdiff_self_eq_union]
  have size : scratch.discovered.card + (nodeIds.filter (· ∉ scratch.discovered)).length =
      (scratch.discovered ∪ nodeIds.toFinset).card := by
    rw [← joined, Finset.card_union_of_disjoint, List.toFinset_card_of_nodup (distinct.filter _)]
    rw [additions]
    exact Finset.disjoint_sdiff
  unfold registerDiscoveredSubjects
  simp only [size, joined]
  by_cases fits : (scratch.discovered ∪ nodeIds.toFinset).card ≤ githubSnapshotTaskLimit
  · rw [if_pos fits, if_neg (by omega)]
    rfl
  · rw [if_neg fits, if_pos (by omega)]
    rfl

def ParentAgrees (scratch : GithubTargetClosureScratch Issue) (issue : Issue) : Prop :=
  ∀ expectedParent, scratch.hierarchyParents.lookup (idOf issue) = some (some expectedParent) →
    parentNodeId issue = some expectedParent

variable (boundary) in
theorem validateObservedParent_eq_ok_iff :
    validateObservedParent (m := Except Failure) boundary scratch issue = .ok () ↔
      ParentAgrees scratch issue := by
  unfold validateObservedParent ParentAgrees
  constructor
  · intro valid expectedParent known
    rw [known] at valid
    by_contra contradictory
    simp only [ne_eq, contradictory, not_false_eq_true, if_true] at valid
    exact Except.throw_ne_ok valid
  · intro agrees
    split
    · next expectedParent known =>
        rw [if_neg (not_not.mpr (agrees expectedParent known))]
        rfl
    · rfl

/-- No other parent of the child is observed or known. -/
structure ChildAllowed (scratch : GithubTargetClosureScratch Issue)
    (parent child : GithubIssueNodeId) : Prop where
  observed : ∀ issue, scratch.issues.lookup child = some issue → parentNodeId issue = some parent
  known : ∀ known, scratch.hierarchyParents.lookup child = some known → known = some parent

theorem validateChildParent_eq_ok_iff :
    validateChildParent (m := Except Failure) boundary scratch child parent = .ok () ↔
      ChildAllowed scratch parent child := by
  unfold validateChildParent
  constructor
  · intro valid
    split at valid
    · exact absurd valid Except.throw_ne_ok
    · next observed =>
        split at valid
        · exact absurd valid Except.throw_ne_ok
        · next known =>
            constructor
            · intro issue found
              simpa [found] using observed
            · intro recorded found
              simpa [found] using known
  · intro allowed
    have observed : ¬ (scratch.issues.lookup child).any (parentNodeId · ≠ some parent) := by
      cases found : scratch.issues.lookup child with
      | none => simp
      | some issue => simpa using allowed.observed issue found
    have known : ¬ (scratch.hierarchyParents.lookup child).any (· ≠ some parent) := by
      cases found : scratch.hierarchyParents.lookup child with
      | none => simp
      | some recorded => simpa using allowed.known recorded found
    rw [if_neg observed, if_neg known]
    rfl

def GithubTargetClosureScratch.withChildren (scratch : GithubTargetClosureScratch Issue)
    (parent : GithubIssueNodeId) (children : List GithubIssueNodeId) :
    GithubTargetClosureScratch Issue :=
  { scratch with
    hierarchyParents := children.foldl (fun parents child => KeyedMap.set parents child (some parent))
      scratch.hierarchyParents
    pending := scratch.pending ++ children.map (⟨true, ·⟩) }

omit [GithubTargetClosureIssue Issue] in
theorem lookup_withChildren {children : List GithubIssueNodeId} :
    (scratch.withChildren parent children).hierarchyParents.lookup nodeId =
      if nodeId ∈ children then some (some parent) else scratch.hierarchyParents.lookup nodeId := by
  unfold GithubTargetClosureScratch.withChildren
  induction children generalizing scratch with
  | nil => simp
  | cons child children induction =>
      rw [List.foldl_cons, @induction { scratch with
        hierarchyParents := KeyedMap.set scratch.hierarchyParents child (some parent) }]
      by_cases later : nodeId ∈ children
      · simp [later]
      · by_cases same : nodeId = child
        · simp [same]
        · simp [later, same]

theorem expandClosureChild_foldlM_eq_ok_iff {children : List GithubIssueNodeId} :
    children.foldlM (m := Except Failure) (expandClosureChild boundary parent) scratch = .ok after ↔
      (∀ child ∈ children, ChildAllowed scratch parent child) ∧
        after = scratch.withChildren parent children := by
  induction children generalizing scratch with
  | nil => simp [GithubTargetClosureScratch.withChildren, pure, Except.pure, eq_comm]
  | cons child children induction =>
      have same : (({ scratch with
          hierarchyParents := KeyedMap.set scratch.hierarchyParents child (some parent)
          pending := scratch.pending ++ [⟨true, child⟩] } :
            GithubTargetClosureScratch Issue).withChildren parent children) =
          scratch.withChildren parent (child :: children) := by
        simp [GithubTargetClosureScratch.withChildren]
      rw [List.foldlM_cons, Except.bind_eq_ok_iff]
      constructor
      · rintro ⟨middle, expanded, rest⟩
        obtain ⟨⟨⟩, valid, made⟩ := Except.bind_eq_ok_iff.mp expanded
        obtain rfl := Except.pure_eq_ok_iff.mp made
        obtain ⟨allowed, rfl⟩ := induction.mp rest
        have first := validateChildParent_eq_ok_iff.mp valid
        refine ⟨List.forall_mem_cons.mpr ⟨first, fun other member => ?_⟩, same⟩
        refine ⟨(allowed other member).observed, fun recorded found => ?_⟩
        by_cases repeated : other = child
        · exact first.known recorded (repeated ▸ found)
        · refine (allowed other member).known recorded ?_
          rw [KeyedMap.lookup_set, if_neg repeated]
          exact found
      · rintro ⟨allowed, rfl⟩
        obtain ⟨first, rest⟩ := List.forall_mem_cons.mp allowed
        refine ⟨_, Except.bind_eq_ok_iff.mpr
          ⟨(), validateChildParent_eq_ok_iff.mpr first, rfl⟩, induction.mpr ⟨?_, same.symm⟩⟩
        intro other member
        refine ⟨(rest other member).observed, fun recorded found => ?_⟩
        rw [KeyedMap.lookup_set] at found
        split at found
        · exact (Option.some.inj found).symm
        · exact (rest other member).known recorded found

/-- The reads answer as one fixed issue graph, and nothing is prepared. -/
structure AnswersAs (boundary : GithubTargetClosureRead (Except Failure) Issue Failure)
    (endpoints : GithubIssueNodeId → GithubIssueRelation → List GithubIssueNodeId) : Prop where
  issue : ∀ {nodeId issue}, boundary.readIssue nodeId = .ok issue → idOf issue = nodeId
  connection : ∀ {nodeId issue relation nodeIds}, boundary.readIssue nodeId = .ok issue →
    boundary.readConnection nodeId relation = .ok nodeIds →
      nodeIds = endpoints nodeId relation ∧ nodeIds.Nodup
  unprepared : ∀ pending, boundary.preparePending pending = pure ()

/-- A recorded issue is the observed one, with its exact prerequisites, and each of them is recorded
or on the agenda. -/
structure NodeExplored (boundary : GithubTargetClosureRead (Except Failure) Issue Failure)
    (scratch : GithubTargetClosureScratch Issue) (agenda : List PendingGithubIssue)
    (nodeId : GithubIssueNodeId) (node : GithubTargetClosureNode Issue) : Prop where
  observed : scratch.issues.lookup nodeId = some node.issue
  connection : boundary.readConnection nodeId .blockedBy = .ok node.prerequisiteNodeIds
  discovered : nodeId ∈ scratch.discovered
  continued : boundary.stopAfterIssue node.issue = false
  prerequisites : ∀ prerequisite ∈ node.prerequisiteNodeIds,
    prerequisite ∈ scratch.nodes ∨ ∃ entry ∈ agenda, entry.issueNodeId = prerequisite

/-- An expanded issue is a recorded descendant; each of its children has it as parent and is expanded
or on the agenda. -/
structure ChildrenExplored (boundary : GithubTargetClosureRead (Except Failure) Issue Failure)
    (endpoints : GithubIssueNodeId → GithubIssueRelation → List GithubIssueNodeId)
    (scratch : GithubTargetClosureScratch Issue) (agenda : List PendingGithubIssue)
    (nodeId : GithubIssueNodeId) : Prop where
  descends : DescendsFrom endpoints boundary.rootIssueNodeId nodeId
  recorded : nodeId ∈ scratch.nodes
  connection : ∃ nodeIds, boundary.readConnection nodeId .subIssues = .ok nodeIds
  known : ∀ child ∈ endpoints nodeId .subIssues,
    scratch.hierarchyParents.lookup child = some (some nodeId)
  children : ∀ child ∈ endpoints nodeId .subIssues,
    child ∈ scratch.expandedChildren ∨ ⟨true, child⟩ ∈ agenda

/-- What holds between two visits; the agenda is what is pending, or about to be visited. -/
structure Explored (boundary : GithubTargetClosureRead (Except Failure) Issue Failure)
    (endpoints : GithubIssueNodeId → GithubIssueRelation → List GithubIssueNodeId)
    (scratch : GithubTargetClosureScratch Issue) (agenda : List PendingGithubIssue) : Prop where
  discovered : ∀ nodeId ∈ scratch.discovered,
    InTargetClosure endpoints boundary.rootIssueNodeId nodeId
  limited : scratch.discovered.card ≤ githubSnapshotTaskLimit
  agendaDiscovered : ∀ entry ∈ agenda, entry.issueNodeId ∈ scratch.discovered
  agendaDescends : ∀ entry ∈ agenda, entry.expandChildren = true →
    DescendsFrom endpoints boundary.rootIssueNodeId entry.issueNodeId
  issueRead : ∀ {nodeId issue}, scratch.issues.lookup nodeId = some issue →
    boundary.readIssue nodeId = .ok issue
  agrees : ∀ {nodeId issue}, scratch.issues.lookup nodeId = some issue → ParentAgrees scratch issue
  node : ∀ {nodeId node}, scratch.nodes.lookup nodeId = some node →
    NodeExplored boundary scratch agenda nodeId node
  expanded : ∀ {nodeId}, nodeId ∈ scratch.expandedChildren →
    ChildrenExplored boundary endpoints scratch agenda nodeId
  parent : ∀ {child parent}, scratch.hierarchyParents.lookup child = some (some parent) →
    parent ∈ scratch.expandedChildren ∧ child ∈ endpoints parent .subIssues
  top : ∀ {nodeId}, scratch.hierarchyParents.lookup nodeId = some none ↔
    nodeId = boundary.rootIssueNodeId
  root : boundary.rootIssueNodeId ∈ scratch.expandedChildren ∨
    ⟨true, boundary.rootIssueNodeId⟩ ∈ agenda

theorem explored_initial :
    Explored boundary endpoints (initialClosureScratch boundary)
      (initialClosureScratch boundary).pending where
  discovered nodeId member := by
    rw [Finset.mem_singleton.mp member]
    exact DescendsFrom.inTargetClosure .refl
  limited := by simp [initialClosureScratch, githubSnapshotTaskLimit]
  agendaDiscovered entry member := by
    rw [List.mem_singleton.mp member]
    exact Finset.mem_singleton_self _
  agendaDescends entry member _ := by
    rw [List.mem_singleton.mp member]
    exact .refl
  issueRead found := by cases found
  agrees found := by cases found
  node found := by cases found
  expanded member := absurd member (Finset.notMem_empty _)
  parent found := by
    simp only [initialClosureScratch, KeyedMap.lookup_set] at found
    split at found <;> cases found
  top {nodeId} := by
    simp only [initialClosureScratch, KeyedMap.lookup_set]
    split
    · next same => simp [same]
    · next apart => simp [apart, AList.lookup_empty]
  root := Or.inr (List.mem_singleton_self _)

section Visits

variable {agenda rest : List PendingGithubIssue} {next : PendingGithubIssue}

/-- The issue is the one that the boundary reads, and only the observed issues grow. -/
theorem readClosureIssue_explored (explored : Explored boundary endpoints scratch agenda)
    (ran : readClosureIssue boundary scratch nodeId = .ok (issue, after)) :
    boundary.readIssue nodeId = .ok issue ∧ after.issues.lookup nodeId = some issue ∧
      (∃ issues, after = { scratch with issues := issues }) ∧
      Explored boundary endpoints after agenda := by
  unfold readClosureIssue at ran
  split at ran
  · next existing found =>
      obtain ⟨rfl, rfl⟩ := Prod.mk.inj (Except.pure_eq_ok_iff.mp ran)
      exact ⟨explored.issueRead found, found, ⟨_, rfl⟩, explored⟩
  · next absent =>
      obtain ⟨read, answered, checked⟩ := Except.bind_eq_ok_iff.mp ran
      obtain ⟨⟨⟩, valid, made⟩ := Except.bind_eq_ok_iff.mp checked
      obtain ⟨rfl, rfl⟩ := Prod.mk.inj (Except.pure_eq_ok_iff.mp made)
      have here : (KeyedMap.set scratch.issues nodeId read).lookup nodeId = some read := by simp
      have grown : ∀ {other issue}, scratch.issues.lookup other = some issue →
          (KeyedMap.set scratch.issues nodeId read).lookup other = some issue := by
        intro other issue found
        rw [KeyedMap.lookup_set]
        split
        · next same =>
            rw [same, absent] at found
            cases found
        · exact found
      refine ⟨answered, here, ⟨_, rfl⟩, { explored with
        issueRead := ?_
        agrees := ?_
        node := ?_
        expanded := ?_ }⟩
      · intro other issue found
        rw [KeyedMap.lookup_set] at found
        split at found
        · next same =>
            cases found
            exact same ▸ answered
        · exact explored.issueRead found
      · intro other issue found
        rw [KeyedMap.lookup_set] at found
        split at found
        · cases found
          exact (validateObservedParent_eq_ok_iff boundary).mp valid
        · exact explored.agrees found
      · intro other node found
        have node := explored.node found
        exact ⟨grown node.observed, node.connection, node.discovered, node.continued,
          node.prerequisites⟩
      · intro other member
        have expanded := explored.expanded member
        exact ⟨expanded.descends, expanded.recorded, expanded.connection, expanded.known,
          expanded.children⟩

/-- The scratch after an issue is recorded with its prerequisites. -/
def GithubTargetClosureScratch.withNode (scratch : GithubTargetClosureScratch Issue)
    (nodeId : GithubIssueNodeId) (issue : Issue) (nodeIds : List GithubIssueNodeId) :
    GithubTargetClosureScratch Issue :=
  { scratch with
    discovered := scratch.discovered ∪ nodeIds.toFinset
    nodes := KeyedMap.set scratch.nodes nodeId ⟨issue, nodeIds⟩
    pending := scratch.pending ++ nodeIds.map (⟨false, ·⟩) }

omit [GithubTargetClosureIssue Issue] in
theorem mem_withNode_nodes {nodeIds : List GithubIssueNodeId} {other : GithubIssueNodeId} :
    other ∈ (scratch.withNode nodeId issue nodeIds).nodes ↔ other = nodeId ∨ other ∈ scratch.nodes := by
  rw [← AList.lookup_isSome, ← AList.lookup_isSome, GithubTargetClosureScratch.withNode,
    KeyedMap.lookup_set]
  by_cases same : other = nodeId
  · simp [same]
  · simp [same]

theorem expandClosurePrerequisites_of_mem (member : idOf issue ∈ scratch.nodes) :
    expandClosurePrerequisites (m := Except Failure) boundary scratch issue = .ok scratch := by
  rw [expandClosurePrerequisites, if_pos member]
  rfl

theorem expandClosurePrerequisites_eq_ok_iff (answers : AnswersAs boundary endpoints)
    (read : boundary.readIssue (idOf issue) = .ok issue) (absent : idOf issue ∉ scratch.nodes) :
    expandClosurePrerequisites boundary scratch issue = .ok after ↔
      ∃ nodeIds, boundary.readConnection (idOf issue) .blockedBy = .ok nodeIds ∧
        (scratch.discovered ∪ nodeIds.toFinset).card ≤ githubSnapshotTaskLimit ∧
        after = scratch.withNode (idOf issue) issue nodeIds := by
  rw [expandClosurePrerequisites, if_neg absent, Except.bind_eq_ok_iff]
  refine exists_congr fun nodeIds => and_congr_right fun answered => ?_
  rw [registerDiscoveredSubjects_of_nodup (answers.connection read answered).2]
  split
  · next fits =>
      simp only [fits, true_and]
      exact Except.pure_eq_ok_iff.trans eq_comm
  · next exceeds =>
      simp only [exceeds, false_and, iff_false]
      rintro ⟨⟩

theorem mem_agenda_iff {entry : PendingGithubIssue} {pending new : List PendingGithubIssue} :
    entry ∈ next :: (pending ++ new) ↔ entry ∈ next :: pending ∨ entry ∈ new := by
  rw [← List.cons_append, List.mem_append]

theorem explored_withNode (answers : AnswersAs boundary endpoints)
    (explored : Explored boundary endpoints scratch (next :: scratch.pending))
    (observed : scratch.issues.lookup next.issueNodeId = some issue)
    (continued : boundary.stopAfterIssue issue = false)
    (answered : boundary.readConnection next.issueNodeId .blockedBy = .ok nodeIds)
    (fits : (scratch.discovered ∪ nodeIds.toFinset).card ≤ githubSnapshotTaskLimit) :
    Explored boundary endpoints (scratch.withNode next.issueNodeId issue nodeIds)
      (next :: (scratch.withNode next.issueNodeId issue nodeIds).pending) := by
  obtain ⟨rfl, distinct⟩ := answers.connection (explored.issueRead observed) answered
  have inClosure := explored.discovered _ (explored.agendaDiscovered _ List.mem_cons_self)
  have kept : ∀ {entry : PendingGithubIssue}, entry ∈ next :: scratch.pending →
      entry ∈ next :: (scratch.withNode next.issueNodeId issue
        (endpoints next.issueNodeId .blockedBy)).pending := mem_agenda_iff.mpr ∘ Or.inl
  have entries : ∀ {entry : PendingGithubIssue}, entry ∈ next :: (scratch.withNode next.issueNodeId
      issue (endpoints next.issueNodeId .blockedBy)).pending →
      entry ∈ next :: scratch.pending ∨
        entry.expandChildren = false ∧ entry.issueNodeId ∈ endpoints next.issueNodeId .blockedBy := by
    intro entry member
    refine (mem_agenda_iff.mp member).imp_right fun new => ?_
    obtain ⟨prerequisite, blocks, rfl⟩ := List.mem_map.mp new
    exact ⟨rfl, blocks⟩
  refine {
    discovered := ?_, limited := fits, agendaDiscovered := ?_, agendaDescends := ?_
    issueRead := explored.issueRead, agrees := explored.agrees, node := ?_, expanded := ?_
    parent := explored.parent, top := explored.top, root := explored.root.imp_right kept }
  · intro nodeId member
    rcases Finset.mem_union.mp member with old | new
    · exact explored.discovered nodeId old
    · exact inClosure.prerequisite (List.mem_toFinset.mp new)
  · intro entry member
    rcases entries member with old | ⟨-, new⟩
    · exact Finset.mem_union_left _ (explored.agendaDiscovered entry old)
    · exact Finset.mem_union_right _ (List.mem_toFinset.mpr new)
  · intro entry member expand
    rcases entries member with old | ⟨plain, -⟩
    · exact explored.agendaDescends entry old expand
    · rw [plain] at expand
      cases expand
  · intro nodeId node found
    simp only [GithubTargetClosureScratch.withNode, KeyedMap.lookup_set] at found
    split at found
    · next same =>
        cases found
        subst same
        refine ⟨observed, answered,
          Finset.mem_union_left _ (explored.agendaDiscovered _ List.mem_cons_self), continued, ?_⟩
        intro prerequisite member
        exact Or.inr ⟨⟨false, prerequisite⟩, List.mem_cons_of_mem _
          (List.mem_append_right _ (List.mem_map_of_mem member)), rfl⟩
    · have node := explored.node found
      refine ⟨node.observed, node.connection, Finset.mem_union_left _ node.discovered,
        node.continued, fun prerequisite member => ?_⟩
      refine (node.prerequisites prerequisite member).imp
        (fun recorded => mem_withNode_nodes.mpr (Or.inr recorded)) ?_
      rintro ⟨entry, awaited, same⟩
      exact ⟨entry, kept awaited, same⟩
  · intro nodeId member
    have expanded := explored.expanded member
    exact ⟨expanded.descends, mem_withNode_nodes.mpr (Or.inr expanded.recorded),
      expanded.connection, expanded.known,
      fun child member => (expanded.children child member).imp_right kept⟩

def GithubTargetClosureScratch.withExpanded (scratch : GithubTargetClosureScratch Issue)
    (nodeId : GithubIssueNodeId) (nodeIds : List GithubIssueNodeId) :
    GithubTargetClosureScratch Issue :=
  { scratch with
    discovered := scratch.discovered ∪ nodeIds.toFinset
    expandedChildren := insert nodeId scratch.expandedChildren }.withChildren nodeId nodeIds

theorem expandClosureChildren_eq_ok_iff (answers : AnswersAs boundary endpoints)
    (read : boundary.readIssue nodeId = .ok issue) (absent : nodeId ∉ scratch.expandedChildren) :
    expandClosureChildren boundary scratch true nodeId = .ok after ↔
      ∃ nodeIds, boundary.readConnection nodeId .subIssues = .ok nodeIds ∧
        (scratch.discovered ∪ nodeIds.toFinset).card ≤ githubSnapshotTaskLimit ∧
        (∀ child ∈ nodeIds, ChildAllowed scratch nodeId child) ∧
        after = scratch.withExpanded nodeId nodeIds := by
  rw [expandClosureChildren, if_neg (by simpa using absent), Except.bind_eq_ok_iff]
  refine exists_congr fun nodeIds => and_congr_right fun answered => ?_
  rw [registerDiscoveredSubjects_of_nodup (answers.connection read answered).2]
  split
  · next fits =>
      simp only [fits, true_and]
      refine expandClosureChild_foldlM_eq_ok_iff.trans (and_congr_left fun _ => ?_)
      exact forall₂_congr fun child _ =>
        ⟨fun allowed => ⟨allowed.observed, allowed.known⟩,
          fun allowed => ⟨allowed.observed, allowed.known⟩⟩
  · next exceeds =>
      simp only [exceeds, false_and, iff_false]
      rintro ⟨⟩

theorem expandClosureChildren_of_settled {expandChildren : Bool}
    (settled : expandChildren = true → nodeId ∈ scratch.expandedChildren) :
    expandClosureChildren (m := Except Failure) boundary scratch expandChildren nodeId =
      .ok scratch := by
  rw [expandClosureChildren, if_pos]
  · rfl
  · cases expandChildren with
    | false => simp
    | true => simpa using settled rfl

/-- Expanding the recorded issue in front of the agenda leaves nothing of it. -/
theorem explored_withExpanded (answers : AnswersAs boundary endpoints)
    (explored : Explored boundary endpoints scratch (next :: scratch.pending))
    (expand : next.expandChildren = true) (recorded : next.issueNodeId ∈ scratch.nodes)
    (answered : boundary.readConnection next.issueNodeId .subIssues = .ok nodeIds)
    (fits : (scratch.discovered ∪ nodeIds.toFinset).card ≤ githubSnapshotTaskLimit)
    (allowed : ∀ child ∈ nodeIds, ChildAllowed scratch next.issueNodeId child) :
    Explored boundary endpoints (scratch.withExpanded next.issueNodeId nodeIds)
      (next :: (scratch.withExpanded next.issueNodeId nodeIds).pending) := by
  obtain ⟨node, found⟩ := Option.isSome_iff_exists.mp (AList.lookup_isSome.mpr recorded)
  obtain ⟨rfl, distinct⟩ :=
    answers.connection (explored.issueRead (explored.node found).observed) answered
  have descends := explored.agendaDescends next List.mem_cons_self expand
  have childDescends : ∀ {child}, child ∈ endpoints next.issueNodeId .subIssues →
      DescendsFrom endpoints boundary.rootIssueNodeId child := fun member => descends.tail member
  have kept : ∀ {entry : PendingGithubIssue}, entry ∈ next :: scratch.pending →
      entry ∈ next :: (scratch.withExpanded next.issueNodeId
        (endpoints next.issueNodeId .subIssues)).pending := mem_agenda_iff.mpr ∘ Or.inl
  have entries : ∀ {entry : PendingGithubIssue}, entry ∈ next :: (scratch.withExpanded
      next.issueNodeId (endpoints next.issueNodeId .subIssues)).pending →
      entry ∈ next :: scratch.pending ∨
        entry.issueNodeId ∈ endpoints next.issueNodeId .subIssues := by
    intro entry member
    refine (mem_agenda_iff.mp member).imp_right fun new => ?_
    obtain ⟨child, descendant, rfl⟩ := List.mem_map.mp new
    exact descendant
  have lookups : ∀ {child}, (scratch.withExpanded next.issueNodeId
      (endpoints next.issueNodeId .subIssues)).hierarchyParents.lookup child =
      if child ∈ endpoints next.issueNodeId .subIssues then some (some next.issueNodeId)
      else scratch.hierarchyParents.lookup child := lookup_withChildren
  refine {
    discovered := ?_, limited := fits, agendaDiscovered := ?_, agendaDescends := ?_
    issueRead := explored.issueRead, agrees := ?_, node := ?_, expanded := ?_
    parent := ?_, top := ?_, root := ?_ }
  · intro nodeId member
    rcases Finset.mem_union.mp member with old | new
    · exact explored.discovered nodeId old
    · exact (childDescends (List.mem_toFinset.mp new)).inTargetClosure
  · intro entry member
    rcases entries member with old | new
    · exact Finset.mem_union_left _ (explored.agendaDiscovered entry old)
    · exact Finset.mem_union_right _ (List.mem_toFinset.mpr new)
  · intro entry member expand
    rcases entries member with old | new
    · exact explored.agendaDescends entry old expand
    · exact childDescends new
  · intro nodeId issue found expectedParent known
    rw [lookups] at known
    split at known
    · next member =>
        cases known
        rw [answers.issue (explored.issueRead found)] at member
        exact (allowed nodeId member).observed issue found
    · exact explored.agrees found expectedParent known
  · intro nodeId node found
    have node := explored.node found
    refine ⟨node.observed, node.connection, Finset.mem_union_left _ node.discovered,
      node.continued, fun prerequisite member => ?_⟩
    refine (node.prerequisites prerequisite member).imp_right ?_
    rintro ⟨entry, awaited, same⟩
    exact ⟨entry, kept awaited, same⟩
  · intro nodeId member
    rcases Finset.mem_insert.mp member with rfl | old
    · refine ⟨descends, recorded, ⟨_, answered⟩, fun child member => ?_, fun child member => ?_⟩
      · rw [lookups, if_pos member]
      · exact Or.inr (List.mem_cons_of_mem _
          (List.mem_append_right _ (List.mem_map_of_mem member)))
    · have expanded := explored.expanded old
      refine ⟨expanded.descends, expanded.recorded, expanded.connection,
        fun child member => ?_, fun child member => ?_⟩
      · rw [lookups]
        split
        · next here =>
            -- a child of two issues would have been refused
            exact congrArg some ((allowed child here).known _ (expanded.known child member)).symm
        · exact expanded.known child member
      · exact (expanded.children child member).imp (Finset.mem_insert_of_mem ·) kept
  · intro child parent known
    rw [lookups] at known
    split at known
    · next member =>
        cases known
        exact ⟨Finset.mem_insert_self _ _, member⟩
    · exact ⟨Finset.mem_insert_of_mem (explored.parent known).1, (explored.parent known).2⟩
  · intro nodeId
    rw [lookups]
    split
    · next member =>
        simp only [Option.some.injEq, reduceCtorEq, false_iff]
        intro same
        have known := (allowed nodeId member).known none (explored.top.mpr same)
        cases known
    · exact explored.top
  · exact explored.root.imp (Finset.mem_insert_of_mem ·) kept

theorem Explored.settle (explored : Explored boundary endpoints scratch (next :: rest))
    (recorded : next.issueNodeId ∈ scratch.nodes)
    (settled : next.expandChildren = true → next.issueNodeId ∈ scratch.expandedChildren) :
    Explored boundary endpoints scratch rest where
  discovered := explored.discovered
  limited := explored.limited
  agendaDiscovered entry member := explored.agendaDiscovered entry (List.mem_cons_of_mem _ member)
  agendaDescends entry member := explored.agendaDescends entry (List.mem_cons_of_mem _ member)
  issueRead := explored.issueRead
  agrees := explored.agrees
  node found := by
    have node := explored.node found
    refine ⟨node.observed, node.connection, node.discovered, node.continued, ?_⟩
    intro prerequisite member
    rcases node.prerequisites prerequisite member with known | ⟨entry, awaited, same⟩
    · exact Or.inl known
    · rcases List.mem_cons.mp awaited with rfl | later
      · exact Or.inl (same ▸ recorded)
      · exact Or.inr ⟨entry, later, same⟩
  expanded member := by
    have expanded := explored.expanded member
    refine ⟨expanded.descends, expanded.recorded, expanded.connection, expanded.known, ?_⟩
    intro child member
    rcases expanded.children child member with known | awaited
    · exact Or.inl known
    · rcases List.mem_cons.mp awaited with same | later
      · subst same
        exact Or.inl (settled rfl)
      · exact Or.inr later
  parent := explored.parent
  top := explored.top
  root := by
    rcases explored.root with known | awaited
    · exact Or.inl known
    · rcases List.mem_cons.mp awaited with same | later
      · subst same
        exact Or.inl (settled rfl)
      · exact Or.inr later

end Visits

end Dalph
