import Dalph.TaskTracker.Github.TargetClosure

/-!
# GitHub target closure: exactness

A traversal whose reads answer as a fixed issue graph ends, and it ends with the issues of the
closure.  It fails only when an issue of the closure cannot be read, contradicts its hierarchy or
exceeds the limit.
-/

namespace Dalph

open GithubTargetClosureIssue (idOf parentNodeId)

variable {Issue Failure : Type} [GithubTargetClosureIssue Issue]
  {boundary : GithubTargetClosureRead (Except Failure) Issue Failure}
  {endpoints : GithubIssueNodeId → GithubIssueRelation → List GithubIssueNodeId}
  {scratch after : GithubTargetClosureScratch Issue} {issue : Issue}
  {nodeId parent child : GithubIssueNodeId} {nodeIds : List GithubIssueNodeId}

/-- Upper bound of the visits left: what is pending, and the limit for every relation not read. -/
def GithubTargetClosureScratch.visitsLeft (scratch : GithubTargetClosureScratch Issue) : Nat :=
  scratch.pending.length +
    (githubSnapshotTaskLimit - KeyedMap.size scratch.nodes) * githubSnapshotTaskLimit +
    (githubSnapshotTaskLimit - scratch.expandedChildren.card) * githubSnapshotTaskLimit

section Measure

variable {agenda : List PendingGithubIssue}

theorem Explored.size_nodes_le (explored : Explored boundary endpoints scratch agenda) :
    KeyedMap.size scratch.nodes ≤ githubSnapshotTaskLimit := by
  rw [KeyedMap.size_eq_card]
  refine (Finset.card_le_card fun nodeId member => ?_).trans explored.limited
  obtain ⟨node, found⟩ := Option.isSome_iff_exists.mp
    (AList.lookup_isSome.mpr (AList.mem_keys.mpr (List.mem_toFinset.mp member)))
  exact (explored.node found).discovered

theorem Explored.card_expandedChildren_le (explored : Explored boundary endpoints scratch agenda) :
    scratch.expandedChildren.card ≤ githubSnapshotTaskLimit := by
  refine (Finset.card_le_card fun nodeId member => ?_).trans explored.limited
  obtain ⟨node, found⟩ := Option.isSome_iff_exists.mp
    (AList.lookup_isSome.mpr (explored.expanded member).recorded)
  exact (explored.node found).discovered

omit [GithubTargetClosureIssue Issue] in
theorem length_le_limit (distinct : nodeIds.Nodup)
    (fits : (scratch.discovered ∪ nodeIds.toFinset).card ≤ githubSnapshotTaskLimit) :
    nodeIds.length ≤ githubSnapshotTaskLimit := by
  rw [← List.toFinset_card_of_nodup distinct]
  exact (Finset.card_le_card Finset.subset_union_right).trans fits

omit [GithubTargetClosureIssue Issue] in
theorem visitsLeft_withNode (distinct : nodeIds.Nodup) (absent : nodeId ∉ scratch.nodes)
    (fits : (scratch.discovered ∪ nodeIds.toFinset).card ≤ githubSnapshotTaskLimit)
    (bounded : KeyedMap.size (scratch.withNode nodeId issue nodeIds).nodes ≤
      githubSnapshotTaskLimit) :
    (scratch.withNode nodeId issue nodeIds).visitsLeft ≤ scratch.visitsLeft := by
  have short := length_le_limit distinct fits
  have grown : KeyedMap.size (scratch.withNode nodeId issue nodeIds).nodes =
      KeyedMap.size scratch.nodes + 1 := KeyedMap.size_set_of_not_mem absent
  have pending : (scratch.withNode nodeId issue nodeIds).pending.length =
      scratch.pending.length + nodeIds.length := by
    simp [GithubTargetClosureScratch.withNode]
  have same : (scratch.withNode nodeId issue nodeIds).expandedChildren =
      scratch.expandedChildren := rfl
  simp only [GithubTargetClosureScratch.visitsLeft, pending, same]
  rw [grown] at bounded ⊢
  simp only [githubSnapshotTaskLimit] at *
  omega

omit [GithubTargetClosureIssue Issue] in
theorem visitsLeft_withExpanded (distinct : nodeIds.Nodup)
    (absent : nodeId ∉ scratch.expandedChildren)
    (fits : (scratch.discovered ∪ nodeIds.toFinset).card ≤ githubSnapshotTaskLimit)
    (bounded : (scratch.withExpanded nodeId nodeIds).expandedChildren.card ≤
      githubSnapshotTaskLimit) :
    (scratch.withExpanded nodeId nodeIds).visitsLeft ≤ scratch.visitsLeft := by
  have short := length_le_limit distinct fits
  have grown : (scratch.withExpanded nodeId nodeIds).expandedChildren.card =
      scratch.expandedChildren.card + 1 := Finset.card_insert_of_notMem absent
  have pending : (scratch.withExpanded nodeId nodeIds).pending.length =
      scratch.pending.length + nodeIds.length := by
    simp [GithubTargetClosureScratch.withExpanded, GithubTargetClosureScratch.withChildren]
  have same : (scratch.withExpanded nodeId nodeIds).nodes = scratch.nodes := rfl
  simp only [GithubTargetClosureScratch.visitsLeft, pending, same]
  rw [grown] at bounded ⊢
  simp only [githubSnapshotTaskLimit] at *
  omega

end Measure

section Rounds

variable {next : PendingGithubIssue}
  {outcome : GithubTargetClosureScratch Issue ⊕ GithubTargetClosureTraversal Issue}

/-- What a round leaves: a scratch with fewer visits left, or the issue that stops the traversal. -/
def RoundEnds (boundary : GithubTargetClosureRead (Except Failure) Issue Failure)
    (endpoints : GithubIssueNodeId → GithubIssueRelation → List GithubIssueNodeId)
    (visits : Nat) : GithubTargetClosureScratch Issue ⊕ GithubTargetClosureTraversal Issue → Prop
  | .inl after => Explored boundary endpoints after after.pending ∧ after.visitsLeft ≤ visits
  | .inr (.stopped issue) => boundary.stopAfterIssue issue = true ∧
      InTargetClosure endpoints boundary.rootIssueNodeId (idOf issue)
  | .inr (.complete _ _) => False

section

variable (answers : AnswersAs boundary endpoints)
include answers

section

variable (explored : Explored boundary endpoints scratch (next :: scratch.pending))
include explored

theorem expandClosurePrerequisites_explored
    (observed : scratch.issues.lookup next.issueNodeId = some issue)
    (continued : boundary.stopAfterIssue issue = false)
    (ran : expandClosurePrerequisites boundary scratch issue = .ok after) :
    Explored boundary endpoints after (next :: after.pending) ∧ next.issueNodeId ∈ after.nodes ∧
      after.visitsLeft ≤ scratch.visitsLeft := by
  have read := explored.issueRead observed
  have exact_ := answers.issue read
  by_cases recorded : next.issueNodeId ∈ scratch.nodes
  · rw [expandClosurePrerequisites_of_mem (exact_.symm ▸ recorded)] at ran
    cases ran
    exact ⟨explored, recorded, le_rfl⟩
  · rw [expandClosurePrerequisites_eq_ok_iff answers (exact_.symm ▸ read) (exact_.symm ▸ recorded),
      exact_] at ran
    obtain ⟨nodeIds, answered, fits, rfl⟩ := ran
    have explored := explored_withNode answers explored observed continued answered fits
    exact ⟨explored, mem_withNode_nodes.mpr (Or.inl rfl),
      visitsLeft_withNode (answers.connection read answered).2 recorded fits
        explored.size_nodes_le⟩

theorem expandClosureChildren_explored (recorded : next.issueNodeId ∈ scratch.nodes)
    (ran : expandClosureChildren boundary scratch next.expandChildren next.issueNodeId =
      .ok after) :
    Explored boundary endpoints after after.pending ∧ after.visitsLeft ≤ scratch.visitsLeft := by
  by_cases settled : next.expandChildren = true → next.issueNodeId ∈ scratch.expandedChildren
  · rw [expandClosureChildren_of_settled settled] at ran
    cases ran
    exact ⟨explored.settle recorded settled, le_rfl⟩
  · obtain ⟨expand, absent⟩ := Classical.not_imp.mp settled
    obtain ⟨node, found⟩ := Option.isSome_iff_exists.mp (AList.lookup_isSome.mpr recorded)
    have read := explored.issueRead (explored.node found).observed
    rw [expand, expandClosureChildren_eq_ok_iff answers read absent] at ran
    obtain ⟨nodeIds, answered, fits, allowed, rfl⟩ := ran
    have explored := explored_withExpanded answers explored expand recorded answered fits allowed
    refine ⟨explored.settle recorded fun _ => Finset.mem_insert_self _ _,
      visitsLeft_withExpanded (answers.connection read answered).2 absent fits
        explored.card_expandedChildren_le⟩

theorem visitClosureIssue_ends (ran : visitClosureIssue boundary scratch next = .ok outcome) :
    RoundEnds boundary endpoints scratch.visitsLeft outcome := by
  obtain ⟨⟨issue, observing⟩, read, ran⟩ := Except.bind_eq_ok_iff.mp ran
  obtain ⟨answered, observed, ⟨issues, rfl⟩, explored⟩ := readClosureIssue_explored explored read
  obtain ⟨⟨⟩, valid, ran⟩ := Except.bind_eq_ok_iff.mp ran
  split at ran
  · next stops =>
      obtain rfl := Except.pure_eq_ok_iff.mp ran
      refine ⟨stops, ?_⟩
      rw [answers.issue answered]
      exact explored.discovered _ (explored.agendaDiscovered _ List.mem_cons_self)
  · next continued =>
      obtain ⟨middle, prerequisites, ran⟩ := Except.bind_eq_ok_iff.mp ran
      obtain ⟨after, children, ran⟩ := Except.bind_eq_ok_iff.mp ran
      obtain rfl := Except.pure_eq_ok_iff.mp ran
      obtain ⟨explored, recorded, less⟩ := expandClosurePrerequisites_explored answers explored
        observed (by simpa using continued) prerequisites
      obtain ⟨explored, fewer⟩ := expandClosureChildren_explored answers explored recorded children
      exact ⟨explored, fewer.trans less⟩

end

theorem traverseNext_ends (explored : Explored boundary endpoints scratch scratch.pending)
    (ran : traverseNext boundary scratch = .ok outcome) :
    (scratch.pending = [] ∧ outcome = .inr (.complete scratch.hierarchyParents scratch.nodes)) ∨
      0 < scratch.visitsLeft ∧ RoundEnds boundary endpoints (scratch.visitsLeft - 1) outcome := by
  unfold traverseNext at ran
  split at ran
  · next empty => exact Or.inl ⟨empty, (Except.pure_eq_ok_iff.mp ran).symm⟩
  · next next rest pending =>
      rw [answers.unprepared] at ran
      have visited : RoundEnds boundary endpoints
          ({ scratch with pending := rest } : GithubTargetClosureScratch Issue).visitsLeft outcome := by
        refine visitClosureIssue_ends answers ?_ ran
        rw [pending] at explored
        exact { explored with
          node := fun found => { explored.node found with }
          expanded := fun member => { explored.expanded member with } }
      have left : scratch.visitsLeft = ({ scratch with pending := rest } :
          GithubTargetClosureScratch Issue).visitsLeft + 1 := by
        simp only [GithubTargetClosureScratch.visitsLeft, pending, List.length_cons]
        omega
      rw [left]
      exact Or.inr ⟨Nat.succ_pos _, visited⟩

end

end Rounds

/-- The recorded issues are the closure, each observed with its exact prerequisites, and the parents
are those of descendants. -/
structure ExactClosure (boundary : GithubTargetClosureRead (Except Failure) Issue Failure)
    (endpoints : GithubIssueNodeId → GithubIssueRelation → List GithubIssueNodeId)
    (hierarchyParents : KeyedMap GithubIssueNodeId (Option GithubIssueNodeId))
    (nodes : KeyedMap GithubIssueNodeId (GithubTargetClosureNode Issue)) : Prop where
  members : ∀ {nodeId}, nodeId ∈ nodes ↔
    InTargetClosure endpoints boundary.rootIssueNodeId nodeId
  node : ∀ {nodeId node}, nodes.lookup nodeId = some node →
    boundary.readIssue nodeId = .ok node.issue ∧
      node.prerequisiteNodeIds = endpoints nodeId .blockedBy ∧
      boundary.stopAfterIssue node.issue = false
  parent : ∀ {child parent}, hierarchyParents.lookup child = some (some parent) ↔
    DescendsFrom endpoints boundary.rootIssueNodeId parent ∧ child ∈ endpoints parent .subIssues
  top : hierarchyParents.lookup boundary.rootIssueNodeId = some none

def TraversalExact (boundary : GithubTargetClosureRead (Except Failure) Issue Failure)
    (endpoints : GithubIssueNodeId → GithubIssueRelation → List GithubIssueNodeId) :
    GithubTargetClosureTraversal Issue → Prop
  | .complete hierarchyParents nodes => ExactClosure boundary endpoints hierarchyParents nodes
  | .stopped issue => boundary.stopAfterIssue issue = true ∧
      InTargetClosure endpoints boundary.rootIssueNodeId (idOf issue)

/-- Every issue of the closure can be read, names the parent it is reached under and fits in. -/
structure ClosureReadable (boundary : GithubTargetClosureRead (Except Failure) Issue Failure)
    (endpoints : GithubIssueNodeId → GithubIssueRelation → List GithubIssueNodeId) : Prop where
  issue : ∀ {nodeId}, InTargetClosure endpoints boundary.rootIssueNodeId nodeId →
    ∃ issue, boundary.readIssue nodeId = .ok issue
  blockedBy : ∀ {nodeId}, InTargetClosure endpoints boundary.rootIssueNodeId nodeId →
    ∃ nodeIds, boundary.readConnection nodeId .blockedBy = .ok nodeIds
  subIssues : ∀ {nodeId}, DescendsFrom endpoints boundary.rootIssueNodeId nodeId →
    ∃ nodeIds, boundary.readConnection nodeId .subIssues = .ok nodeIds
  parent : ∀ {parent child issue}, DescendsFrom endpoints boundary.rootIssueNodeId parent →
    child ∈ endpoints parent .subIssues → boundary.readIssue child = .ok issue →
      parentNodeId issue = some parent
  top : ∀ {parent}, DescendsFrom endpoints boundary.rootIssueNodeId parent →
    boundary.rootIssueNodeId ∉ endpoints parent .subIssues
  limited : ∀ members : Finset GithubIssueNodeId,
    (∀ nodeId ∈ members, InTargetClosure endpoints boundary.rootIssueNodeId nodeId) →
      members.card ≤ githubSnapshotTaskLimit

section Whole

theorem Explored.expanded_of_descends (explored : Explored boundary endpoints scratch [])
    (descends : DescendsFrom endpoints boundary.rootIssueNodeId nodeId) :
    nodeId ∈ scratch.expandedChildren := by
  induction descends with
  | refl => exact explored.root.resolve_right List.not_mem_nil
  | tail _ member induction =>
      exact ((explored.expanded induction).children _ member).resolve_right List.not_mem_nil

theorem Explored.exactClosure (answers : AnswersAs boundary endpoints)
    (explored : Explored boundary endpoints scratch []) :
    ExactClosure boundary endpoints scratch.hierarchyParents scratch.nodes := by
  have exact_ : ∀ {nodeId node}, scratch.nodes.lookup nodeId = some node →
      boundary.readIssue nodeId = .ok node.issue ∧
        node.prerequisiteNodeIds = endpoints nodeId .blockedBy ∧
        boundary.stopAfterIssue node.issue = false := by
    intro nodeId node found
    have node := explored.node found
    have read := explored.issueRead node.observed
    exact ⟨read, (answers.connection read node.connection).1, node.continued⟩
  refine ⟨fun {nodeId} => ⟨fun member => ?_, fun member => ?_⟩, exact_, fun {child parent} =>
    ⟨fun known => ?_, fun descends => ?_⟩, explored.top.mpr rfl⟩
  · obtain ⟨node, found⟩ := Option.isSome_iff_exists.mp (AList.lookup_isSome.mpr member)
    exact explored.discovered _ (explored.node found).discovered
  · refine member.induction (· ∈ scratch.nodes) (fun descends => ?_) ?_
    · exact (explored.expanded (explored.expanded_of_descends descends)).recorded
    · intro nodeId prerequisite recorded blocks
      obtain ⟨node, found⟩ := Option.isSome_iff_exists.mp (AList.lookup_isSome.mpr recorded)
      rw [← (exact_ found).2.1] at blocks
      refine ((explored.node found).prerequisites prerequisite blocks).resolve_right ?_
      rintro ⟨entry, member, -⟩
      exact List.not_mem_nil member
  · have parent := explored.parent known
    exact ⟨(explored.expanded parent.1).descends, parent.2⟩
  · exact (explored.expanded (explored.expanded_of_descends descends.1)).known child descends.2

theorem Explored.closureReadable (answers : AnswersAs boundary endpoints)
    (explored : Explored boundary endpoints scratch []) : ClosureReadable boundary endpoints := by
  have closure := explored.exactClosure answers
  have recorded : ∀ {nodeId}, InTargetClosure endpoints boundary.rootIssueNodeId nodeId →
      ∃ node, scratch.nodes.lookup nodeId = some node := fun member =>
    Option.isSome_iff_exists.mp (AList.lookup_isSome.mpr (closure.members.mpr member))
  refine ⟨fun member => ?_, fun member => ?_, fun descends => ?_, fun descends member read => ?_,
    fun descends member => ?_, fun members subset => ?_⟩
  · obtain ⟨node, found⟩ := recorded member
    exact ⟨node.issue, (closure.node found).1⟩
  · obtain ⟨node, found⟩ := recorded member
    exact ⟨_, (explored.node found).connection⟩
  · exact (explored.expanded (explored.expanded_of_descends descends)).connection
  · have known := closure.parent.mpr ⟨descends, member⟩
    obtain ⟨node, found⟩ := recorded
      (DescendsFrom.inTargetClosure (Relation.ReflTransGen.tail descends member))
    have observed := (explored.node found).observed
    obtain rfl := Except.ok.inj ((explored.issueRead observed).symm.trans read)
    refine explored.agrees observed _ ?_
    rw [answers.issue read]
    exact known
  · have known := closure.parent.mpr ⟨descends, member⟩
    rw [explored.top.mpr rfl] at known
    cases known
  · refine (Finset.card_le_card fun nodeId member => ?_).trans explored.limited
    obtain ⟨node, found⟩ := recorded (subset nodeId member)
    exact (explored.node found).discovered

section Progress

variable {agenda rest : List PendingGithubIssue} {next : PendingGithubIssue}

section

variable (readable : ClosureReadable boundary endpoints)
include readable

theorem Explored.parentAgrees (answers : AnswersAs boundary endpoints)
    (explored : Explored boundary endpoints scratch agenda)
    (read : boundary.readIssue nodeId = .ok issue) : ParentAgrees scratch issue := by
  intro expectedParent known
  rw [answers.issue read] at known
  have parent := explored.parent known
  exact readable.parent (explored.expanded parent.1).descends parent.2 read

theorem Explored.childAllowed (explored : Explored boundary endpoints scratch agenda)
    (descends : DescendsFrom endpoints boundary.rootIssueNodeId parent)
    (member : child ∈ endpoints parent .subIssues) : ChildAllowed scratch parent child := by
  refine ⟨fun issue observed => readable.parent descends member (explored.issueRead observed),
    fun known found => ?_⟩
  cases known with
  | none =>
      rw [explored.top.mp found] at member
      exact absurd member (readable.top descends)
  | some other =>
      have known := explored.parent found
      obtain ⟨issue, read⟩ := readable.issue
        (DescendsFrom.inTargetClosure (Relation.ReflTransGen.tail descends member))
      rw [← readable.parent descends member read,
        ← readable.parent (explored.expanded known.1).descends known.2 read]

theorem ClosureReadable.fits (explored : Explored boundary endpoints scratch agenda)
    (members : ∀ nodeId ∈ nodeIds, InTargetClosure endpoints boundary.rootIssueNodeId nodeId) :
    (scratch.discovered ∪ nodeIds.toFinset).card ≤ githubSnapshotTaskLimit := by
  refine readable.limited _ fun nodeId member => ?_
  rcases Finset.mem_union.mp member with old | new
  · exact explored.discovered nodeId old
  · exact members nodeId (List.mem_toFinset.mp new)

variable (answers : AnswersAs boundary endpoints)
include answers

theorem readClosureIssue_progress (explored : Explored boundary endpoints scratch agenda)
    (member : InTargetClosure endpoints boundary.rootIssueNodeId nodeId) :
    ∃ issue after, readClosureIssue boundary scratch nodeId = .ok (issue, after) := by
  unfold readClosureIssue
  split
  · next existing _ => exact ⟨existing, scratch, rfl⟩
  · obtain ⟨issue, read⟩ := readable.issue member
    have valid := (validateObservedParent_eq_ok_iff boundary).mpr
      (explored.parentAgrees readable answers read)
    refine ⟨issue, { scratch with issues := KeyedMap.set scratch.issues nodeId issue },
      Except.bind_eq_ok_iff.mpr ⟨issue, read, ?_⟩⟩
    exact Except.bind_eq_ok_iff.mpr ⟨(), valid, rfl⟩

theorem expandClosurePrerequisites_progress (explored : Explored boundary endpoints scratch agenda)
    (member : InTargetClosure endpoints boundary.rootIssueNodeId (idOf issue))
    (read : boundary.readIssue (idOf issue) = .ok issue) :
    ∃ after, expandClosurePrerequisites boundary scratch issue = .ok after := by
  by_cases recorded : idOf issue ∈ scratch.nodes
  · exact ⟨scratch, expandClosurePrerequisites_of_mem recorded⟩
  · obtain ⟨nodeIds, answered⟩ := readable.blockedBy member
    refine ⟨_, (expandClosurePrerequisites_eq_ok_iff answers read recorded).mpr
      ⟨nodeIds, answered, readable.fits explored fun nodeId blocks => ?_, rfl⟩⟩
    rw [(answers.connection read answered).1] at blocks
    exact member.prerequisite blocks

theorem expandClosureChildren_progress (explored : Explored boundary endpoints scratch agenda)
    (descends : next.expandChildren = true →
      DescendsFrom endpoints boundary.rootIssueNodeId next.issueNodeId)
    (read : boundary.readIssue next.issueNodeId = .ok issue) :
    ∃ after, expandClosureChildren boundary scratch next.expandChildren next.issueNodeId =
      .ok after := by
  by_cases settled : next.expandChildren = true → next.issueNodeId ∈ scratch.expandedChildren
  · exact ⟨scratch, expandClosureChildren_of_settled settled⟩
  · obtain ⟨expand, absent⟩ := Classical.not_imp.mp settled
    have descends := descends expand
    obtain ⟨nodeIds, answered⟩ := readable.subIssues descends
    obtain ⟨rfl, -⟩ := answers.connection read answered
    rw [expand]
    refine ⟨_, (expandClosureChildren_eq_ok_iff answers read absent).mpr
      ⟨_, answered, readable.fits explored fun nodeId member => ?_, fun child member => ?_, rfl⟩⟩
    · exact DescendsFrom.inTargetClosure (Relation.ReflTransGen.tail descends member)
    · exact explored.childAllowed readable descends member

theorem visitClosureIssue_progress
    (explored : Explored boundary endpoints scratch (next :: scratch.pending)) :
    ∃ outcome, visitClosureIssue boundary scratch next = .ok outcome := by
  have member := explored.discovered _ (explored.agendaDiscovered next List.mem_cons_self)
  obtain ⟨issue, observing, reading⟩ := readClosureIssue_progress readable answers explored member
  obtain ⟨read, observed, ⟨issues, rfl⟩, explored⟩ := readClosureIssue_explored explored reading
  have valid := (validateObservedParent_eq_ok_iff boundary).mpr (explored.agrees observed)
  have exact_ := answers.issue read
  by_cases stops : boundary.stopAfterIssue issue = true
  · refine ⟨.inr (.stopped issue), Except.bind_eq_ok_iff.mpr ⟨_, reading, ?_⟩⟩
    refine Except.bind_eq_ok_iff.mpr ⟨(), valid, ?_⟩
    rw [if_pos stops]
    rfl
  · obtain ⟨middle, prerequisites⟩ := expandClosurePrerequisites_progress readable answers explored
      (exact_.symm ▸ member) (exact_.symm ▸ read)
    obtain ⟨explored, recorded, -⟩ := expandClosurePrerequisites_explored answers explored observed
      (by simpa using stops) prerequisites
    obtain ⟨after, children⟩ := expandClosureChildren_progress readable answers explored
      (explored.agendaDescends next List.mem_cons_self) read
    refine ⟨.inl after, Except.bind_eq_ok_iff.mpr ⟨_, reading, ?_⟩⟩
    refine Except.bind_eq_ok_iff.mpr ⟨(), valid, ?_⟩
    rw [if_neg stops]
    exact Except.bind_eq_ok_iff.mpr
      ⟨middle, prerequisites, Except.bind_eq_ok_iff.mpr ⟨after, children, rfl⟩⟩

theorem traverseNext_progress (explored : Explored boundary endpoints scratch scratch.pending) :
    ∃ outcome, traverseNext boundary scratch = .ok outcome := by
  unfold traverseNext
  split
  · exact ⟨_, rfl⟩
  · next next rest pending =>
      rw [answers.unprepared]
      rw [pending] at explored
      exact visitClosureIssue_progress readable answers { explored with
        node := fun found => { explored.node found with }
        expanded := fun member => { explored.expanded member with } }

end

end Progress

theorem traverseNext_explored {scratch after : GithubTargetClosureScratch Issue}
    (answers : AnswersAs boundary endpoints)
    (explored : Explored boundary endpoints scratch scratch.pending)
    (ran : traverseNext boundary scratch = .ok (.inl after)) :
    Explored boundary endpoints after after.pending ∧ after.visitsLeft < scratch.visitsLeft := by
  rcases traverseNext_ends answers explored ran with ⟨-, impossible⟩ | ⟨positive, explored, fewer⟩
  · cases impossible
  · exact ⟨explored, by omega⟩

omit [GithubTargetClosureIssue Issue] in
theorem visitsLeft_initial :
    (initialClosureScratch boundary).visitsLeft < githubTargetClosureRounds := by
  simp [GithubTargetClosureScratch.visitsLeft, initialClosureScratch, githubTargetClosureRounds,
    githubSnapshotTaskLimit, KeyedMap.size]

section

variable (answers : AnswersAs boundary endpoints)
include answers

theorem traverseGithubTargetClosure_ne_none : traverseGithubTargetClosure boundary ≠ .ok none :=
  Loop.run_ne_none (fun scratch => Explored boundary endpoints scratch scratch.pending)
    (fun explored ran => (traverseNext_explored answers explored ran).1)
    GithubTargetClosureScratch.visitsLeft
    (fun explored ran => (traverseNext_explored answers explored ran).2)
    explored_initial visitsLeft_initial

theorem traverseGithubTargetClosure_exact {traversal : GithubTargetClosureTraversal Issue}
    (ran : traverseGithubTargetClosure boundary = .ok (some traversal)) :
    TraversalExact boundary endpoints traversal := by
  refine Loop.run_post (fun scratch => Explored boundary endpoints scratch scratch.pending)
    (fun explored ran => (traverseNext_explored answers explored ran).1)
    (TraversalExact boundary endpoints) ?_ explored_initial ran
  intro scratch result explored ran
  rcases traverseNext_ends answers explored ran with ⟨empty, same⟩ | ⟨-, ends⟩
  · cases same
    rw [empty] at explored
    exact explored.exactClosure answers
  · cases result with
    | complete => exact ends.elim
    | stopped issue => exact ends

theorem closureReadable_of_complete {hierarchyParents nodes}
    (ran : traverseGithubTargetClosure boundary = .ok (some (.complete hierarchyParents nodes))) :
    ClosureReadable boundary endpoints := by
  refine Loop.run_post (fun scratch => Explored boundary endpoints scratch scratch.pending)
    (fun explored ran => (traverseNext_explored answers explored ran).1)
    (fun traversal => (∀ issue, traversal ≠ .stopped issue) → ClosureReadable boundary endpoints) ?_
    explored_initial ran (fun issue => nofun)
  intro scratch result explored ran whole
  rcases traverseNext_ends answers explored ran with ⟨empty, -⟩ | ⟨-, ends⟩
  · rw [empty] at explored
    exact explored.closureReadable answers
  · cases result with
    | complete => exact ends.elim
    | stopped issue => exact absurd rfl (whole issue)

theorem traverseGithubTargetClosure_succeeds (readable : ClosureReadable boundary endpoints) :
    ∃ traversal, traverseGithubTargetClosure boundary = .ok (some traversal) :=
  Loop.run_succeeds (fun scratch => Explored boundary endpoints scratch scratch.pending)
    (fun explored ran => (traverseNext_explored answers explored ran).1)
    GithubTargetClosureScratch.visitsLeft
    (fun explored ran => (traverseNext_explored answers explored ran).2)
    (traverseNext_progress readable answers) explored_initial visitsLeft_initial

end

end Whole

end Dalph
