import Dalph.TaskTracker.Github.GraphReader
import Dalph.TaskTracker.Github.TargetClosureExact

/-!
# GitHub target closure: reads

The readers of one fixed issue graph agree: the batched read with the plain one, and the focused
traversal with the closure that both read.
-/

namespace Dalph

open GithubTargetClosureIssue (idOf parentNodeId)

/-! ## Mirrored traversals -/

section Mirrored

variable {Issue Failure Cache : Type} [GithubTargetClosureIssue Issue] {Coherent : Cache → Prop}
  {cached : GithubTargetClosureRead (StateT Cache (Except Failure)) Issue Failure}
  {plain : GithubTargetClosureRead (Except Failure) Issue Failure}

/-- The reads of the two boundaries differ in a cache only. -/
structure MirrorsRead (Coherent : Cache → Prop)
    (cached : GithubTargetClosureRead (StateT Cache (Except Failure)) Issue Failure)
    (plain : GithubTargetClosureRead (Except Failure) Issue Failure) : Prop where
  closureDescription : cached.closureDescription = plain.closureDescription
  invalid : cached.invalid = plain.invalid
  readConnection : ∀ nodeId relation,
    Mirrors Coherent (cached.readConnection nodeId relation) (plain.readConnection nodeId relation)
  readIssue : ∀ nodeId, Mirrors Coherent (cached.readIssue nodeId) (plain.readIssue nodeId)
  resourceLimit : cached.resourceLimit = plain.resourceLimit
  rootIssueNodeId : cached.rootIssueNodeId = plain.rootIssueNodeId
  stopAfterIssue : cached.stopAfterIssue = plain.stopAfterIssue

variable (mirrors : MirrorsRead Coherent cached plain)
  (scratch : GithubTargetClosureScratch Issue)

include mirrors

omit [GithubTargetClosureIssue Issue] in
theorem MirrorsRead.registerDiscoveredSubjects (nodeIds : List GithubIssueNodeId)
    (stage : GithubIssueRelation) :
    Mirrors Coherent (registerDiscoveredSubjects cached scratch nodeIds stage)
      (registerDiscoveredSubjects plain scratch nodeIds stage) := by
  unfold Dalph.registerDiscoveredSubjects
  rw [mirrors.closureDescription, mirrors.resourceLimit]
  dsimp only
  split
  · exact .throw _
  · exact .pure _

theorem MirrorsRead.validateObservedParent (issue : Issue) :
    Mirrors Coherent (validateObservedParent cached scratch issue)
      (validateObservedParent plain scratch issue) := by
  unfold Dalph.validateObservedParent
  rw [mirrors.invalid]
  split
  · split
    · exact .throw _
    · exact .pure _
  · exact .pure _

theorem MirrorsRead.readClosureIssue (nodeId : GithubIssueNodeId) :
    Mirrors Coherent (readClosureIssue cached scratch nodeId)
      (readClosureIssue plain scratch nodeId) := by
  unfold Dalph.readClosureIssue
  split
  · exact .pure _
  · exact (mirrors.readIssue nodeId).bind fun issue =>
      (mirrors.validateObservedParent scratch issue).bind fun _ => .pure _

theorem MirrorsRead.expandClosurePrerequisites (issue : Issue) :
    Mirrors Coherent (expandClosurePrerequisites cached scratch issue)
      (expandClosurePrerequisites plain scratch issue) := by
  unfold Dalph.expandClosurePrerequisites
  split
  · exact .pure _
  · exact (mirrors.readConnection (idOf issue) .blockedBy).bind fun nodeIds =>
      (mirrors.registerDiscoveredSubjects scratch nodeIds .blockedBy).bind fun _ => .pure _

theorem MirrorsRead.validateChildParent (child parent : GithubIssueNodeId) :
    Mirrors Coherent (validateChildParent cached scratch child parent)
      (validateChildParent plain scratch child parent) := by
  unfold Dalph.validateChildParent
  rw [mirrors.invalid]
  split
  · exact .throw _
  · split
    · exact .throw _
    · exact .pure _

theorem MirrorsRead.expandClosureChildren (expandChildren : Bool) (nodeId : GithubIssueNodeId) :
    Mirrors Coherent (expandClosureChildren cached scratch expandChildren nodeId)
      (expandClosureChildren plain scratch expandChildren nodeId) := by
  unfold Dalph.expandClosureChildren
  split
  · exact .pure _
  · refine (mirrors.readConnection nodeId .subIssues).bind fun nodeIds =>
      (mirrors.registerDiscoveredSubjects _ nodeIds .subIssues).bind fun scratch =>
        Mirrors.foldlM (fun scratch child => ?_) nodeIds scratch
    exact (mirrors.validateChildParent scratch child nodeId).bind fun _ => .pure _

theorem MirrorsRead.visitClosureIssue (next : PendingGithubIssue) :
    Mirrors Coherent (visitClosureIssue cached scratch next)
      (visitClosureIssue plain scratch next) := by
  unfold Dalph.visitClosureIssue
  refine (mirrors.readClosureIssue scratch next.issueNodeId).bind fun observed =>
    (mirrors.validateObservedParent observed.2 observed.1).bind fun _ => ?_
  rw [mirrors.stopAfterIssue]
  split
  · exact .pure _
  · exact (mirrors.expandClosurePrerequisites observed.2 observed.1).bind fun scratch =>
      (mirrors.expandClosureChildren scratch next.expandChildren next.issueNodeId).bind fun _ =>
        .pure _

theorem MirrorsRead.traverseGithubTargetClosure
    (unprepared : ∀ pending, Mirrors Coherent (cached.preparePending pending)
      (plain.preparePending pending)) :
    Mirrors Coherent (traverseGithubTargetClosure cached) (traverseGithubTargetClosure plain) := by
  unfold Dalph.traverseGithubTargetClosure Dalph.traverseGithubTargetClosureWithin
  have same : initialClosureScratch cached = initialClosureScratch plain := by
    unfold initialClosureScratch
    rw [mirrors.rootIssueNodeId]
  rw [same]
  refine Loop.mirrors_run (fun scratch => ?_) _ _
  unfold traverseNext
  split
  · exact .pure _
  · next next rest _ =>
      exact (unprepared (next :: rest)).bind fun _ => mirrors.visitClosureIssue _ next

end Mirrored

/-! ## One relation -/

section Connection

variable {page : Option GithubCursor → Option GithubIssueConnectionPage}
  {cursor : Option GithubCursor} {Failure : Type}

theorem PagesList.unique {left right : List GithubIssueNodeId} (first : PagesList page cursor left)
    (second : PagesList page cursor right) : left = right := by
  induction first generalizing right with
  | last found ends =>
      cases second with
      | last again _ => rw [Option.some.inj (found.symm.trans again)]
      | next again continues =>
          rw [← Option.some.inj (found.symm.trans again), ends] at continues
          cases continues
  | next found continues located _ induction =>
      cases second with
      | last again ends =>
          rw [← Option.some.inj (found.symm.trans again), continues] at ends
          cases ends
      | next again _ relocated pages =>
          obtain rfl := Option.some.inj (found.symm.trans again)
          obtain rfl := Option.some.inj (located.symm.trans relocated)
          rw [induction pages]

variable {connection : IssueConnection} {relation : GithubIssueRelation}
  {nodeIds : List GithubIssueNodeId} {invalid : String → Failure}

theorem appendUniqueConnectionNodes_eq_ok {appended : List GithubIssueNodeId}
    (distinct : nodeIds.Nodup)
    (ran : appendUniqueConnectionNodes (m := Except Failure) connection relation nodeIds invalid =
      .ok appended) : appended = nodeIds ++ connection.nodes ∧ appended.Nodup := by
  unfold appendUniqueConnectionNodes at ran
  induction listed : connection.nodes generalizing nodeIds connection with
  | nil =>
      rw [listed] at ran
      obtain rfl := Except.pure_eq_ok_iff.mp ran
      exact ⟨(List.append_nil _).symm, distinct⟩
  | cons first rest induction =>
      rw [listed, List.foldlM_cons] at ran
      obtain ⟨middle, step, ran⟩ := Except.bind_eq_ok_iff.mp ran
      split at step
      · exact absurd step Except.throw_ne_ok
      · next absent =>
          obtain rfl := Except.pure_eq_ok_iff.mp step
          have longer : (nodeIds ++ [first]).Nodup :=
            List.nodup_append.mpr ⟨distinct, List.nodup_singleton _, by
              intro left member right same equal
              rw [List.mem_singleton.mp same] at equal
              exact absent (equal ▸ member)⟩
          obtain ⟨same, unique⟩ := @induction ⟨rest, connection.pageInfo⟩ _ longer ran rfl
          refine ⟨?_, unique⟩
          rw [same, List.append_assoc]
          rfl

theorem appendUniqueConnectionNodes_transfer {Other : Type} {otherRelation : GithubIssueRelation}
    {appended : List GithubIssueNodeId} {otherInvalid : String → Other}
    (ran : appendUniqueConnectionNodes (m := Except Failure) connection relation nodeIds invalid =
      .ok appended) :
    appendUniqueConnectionNodes (m := Except Other) connection otherRelation nodeIds otherInvalid =
      .ok appended := by
  unfold appendUniqueConnectionNodes at ran ⊢
  generalize connection.nodes = added at ran ⊢
  induction added generalizing nodeIds with
  | nil =>
      rw [← Except.pure_eq_ok_iff.mp ran]
      rfl
  | cons first rest induction =>
      rw [List.foldlM_cons] at ran ⊢
      obtain ⟨middle, step, ran⟩ := Except.bind_eq_ok_iff.mp ran
      refine Except.bind_eq_ok_iff.mpr ⟨middle, ?_, induction ran⟩
      split at step
      · exact absurd step Except.throw_ne_ok
      · next absent =>
          rw [if_neg absent, Except.pure_eq_ok_iff.mp step]
          rfl

variable {seenCursors : List GithubCursor}

theorem validateNextConnectionCursor_transfer {Other : Type} {otherRelation : GithubIssueRelation}
    {cursors : List GithubCursor} {otherInvalid : String → Other}
    (valid : validateNextConnectionCursor (m := Except Failure) connection relation seenCursors
      invalid = .ok cursors) :
    validateNextConnectionCursor (m := Except Other) connection otherRelation seenCursors
      otherInvalid = .ok cursors := by
  unfold validateNextConnectionCursor at valid ⊢
  split at valid
  · next continues =>
      rw [if_pos continues]
      split at valid
      · exact absurd valid Except.throw_ne_ok
      · split at valid
        · exact absurd valid Except.throw_ne_ok
        · next fresh =>
            rw [if_neg fresh, Except.pure_eq_ok_iff.mp valid]
            rfl
  · next ends =>
      rw [if_neg ends, Except.pure_eq_ok_iff.mp valid]
      rfl

variable {read : GithubConnectionRead (Except Failure) Failure} {listed : List GithubIssueNodeId}

section

variable
  (shown : ∀ {cursor answered}, read.readPage cursor = .ok answered → page cursor = some answered)
include shown

theorem readConnectionPages_eq_ok {remaining : Nat} (distinct : nodeIds.Nodup)
    (ran : readConnectionPages read remaining cursor seenCursors nodeIds = .ok listed) :
    ∃ rest, PagesList page cursor rest ∧ listed = nodeIds ++ rest ∧ listed.Nodup := by
  induction remaining generalizing cursor seenCursors nodeIds with
  | zero => exact absurd ran Except.throw_ne_ok
  | succ remaining induction =>
      obtain ⟨answered, found, ran⟩ := Except.bind_eq_ok_iff.mp ran
      split at ran
      · exact absurd ran Except.throw_ne_ok
      · obtain ⟨appended, appending, ran⟩ := Except.bind_eq_ok_iff.mp ran
        obtain ⟨cursors, valid, ran⟩ := Except.bind_eq_ok_iff.mp ran
        obtain ⟨rfl, unique⟩ := appendUniqueConnectionNodes_eq_ok distinct appending
        split at ran
        · next continues =>
            obtain ⟨rest, pages, same, nodup⟩ := induction unique ran
            unfold validateNextConnectionCursor at valid
            rw [if_pos continues] at valid
            split at valid
            · exact absurd valid Except.throw_ne_ok
            · next endCursor located =>
                rw [located] at pages
                exact ⟨_, .next (shown found) continues located pages,
                  by rw [same, List.append_assoc], nodup⟩
        · next ends =>
            obtain rfl := Except.pure_eq_ok_iff.mp ran
            exact ⟨_, .last (shown found) (by simpa using ends), rfl, unique⟩

theorem readCompleteGithubIssueConnection_eq_ok {endpoints : List GithubIssueNodeId}
    (pages : PagesList page none endpoints)
    (ran : readCompleteGithubIssueConnection read = .ok listed) :
    listed = endpoints ∧ listed.Nodup := by
  obtain ⟨rest, read, rfl, distinct⟩ := readConnectionPages_eq_ok shown List.nodup_nil ran
  exact ⟨read.unique pages, distinct⟩

end

theorem readConnectionPages_transfer {Other : Type}
    {other : GithubConnectionRead (Except Other) Other}
    (readPage : ∀ {cursor answered}, read.readPage cursor = .ok answered →
      other.readPage cursor = .ok answered) (issueNodeId : read.issueNodeId = other.issueNodeId)
    {remaining : Nat}
    (ran : readConnectionPages read remaining cursor seenCursors nodeIds = .ok listed) :
    readConnectionPages other remaining cursor seenCursors nodeIds = .ok listed := by
  induction remaining generalizing cursor seenCursors nodeIds with
  | zero => exact absurd ran Except.throw_ne_ok
  | succ remaining induction =>
      obtain ⟨answered, found, ran⟩ := Except.bind_eq_ok_iff.mp ran
      refine Except.bind_eq_ok_iff.mpr ⟨answered, readPage found, ?_⟩
      split at ran
      · exact absurd ran Except.throw_ne_ok
      · next same =>
          rw [if_neg (issueNodeId ▸ same)]
          obtain ⟨appended, appending, ran⟩ := Except.bind_eq_ok_iff.mp ran
          obtain ⟨cursors, valid, ran⟩ := Except.bind_eq_ok_iff.mp ran
          refine Except.bind_eq_ok_iff.mpr ⟨appended, ?_, Except.bind_eq_ok_iff.mpr ⟨cursors, ?_, ?_⟩⟩
          · exact appendUniqueConnectionNodes_transfer appending
          · exact validateNextConnectionCursor_transfer valid
          · split at ran
            · next continues =>
                rw [if_pos continues]
                exact induction ran
            · next ends =>
                rw [if_neg ends, Except.pure_eq_ok_iff.mp ran]
                rfl

theorem readCompleteGithubIssueConnection_transfer {Other : Type}
    (read : GithubConnectionRead (Except Failure) Failure)
    (other : GithubConnectionRead (Except Other) Other)
    (readPage : ∀ {cursor answered}, read.readPage cursor = .ok answered →
      other.readPage cursor = .ok answered) (issueNodeId : read.issueNodeId = other.issueNodeId)
    (ran : readCompleteGithubIssueConnection read = .ok listed) :
    readCompleteGithubIssueConnection other = .ok listed :=
  readConnectionPages_transfer readPage issueNodeId ran

theorem mirrors_readConnectionPages {Cache : Type} {Coherent : Cache → Prop}
    {cached : GithubConnectionRead (StateT Cache (Except Failure)) Failure}
    {plain : GithubConnectionRead (Except Failure) Failure}
    (readPage : ∀ cursor, Mirrors Coherent (cached.readPage cursor) (plain.readPage cursor))
    (invalid : cached.invalid = plain.invalid) (resourceLimit : cached.resourceLimit =
      plain.resourceLimit) (issueNodeId : cached.issueNodeId = plain.issueNodeId)
    (relation : cached.relation = plain.relation) (remaining : Nat) (cursor : Option GithubCursor)
    (seenCursors : List GithubCursor) (nodeIds : List GithubIssueNodeId) :
    Mirrors Coherent (readConnectionPages cached remaining cursor seenCursors nodeIds)
      (readConnectionPages plain remaining cursor seenCursors nodeIds) := by
  induction remaining generalizing cursor seenCursors nodeIds with
  | zero =>
      unfold readConnectionPages
      rw [resourceLimit, relation]
      exact .throw _
  | succ remaining induction =>
      unfold readConnectionPages
      rw [invalid, relation, issueNodeId]
      refine (readPage cursor).bind fun answered => ?_
      split
      · exact .throw _
      · refine Mirrors.bind (Mirrors.foldlM (fun nodeIds id => ?_) _ _) fun nodeIds =>
          Mirrors.bind ?_ fun seenCursors => ?_
        · split
          · exact .throw _
          · exact .pure _
        · unfold validateNextConnectionCursor
          split
          · split
            · exact .throw _
            · split
              · exact .throw _
              · exact .pure _
          · exact .pure _
        · split
          · exact induction _ _ _
          · exact .pure _

end Connection

/-! ## Issues -/

section Issues

variable {Failure : Type} {nodeId : GithubIssueNodeId} {repositoryNodeId : GithubRepositoryNodeId}
  {description : String} {shown : Option GithubIssueObservation} {invalid : String → Failure}

theorem requireGithubIssueIdentity_eq_ok_iff {observation : GithubIssueObservation} :
    requireGithubIssueIdentity (m := Except Failure) nodeId repositoryNodeId description shown
      invalid = .ok observation ↔
        shown = some observation ∧ observation.id = nodeId ∧
          observation.repositoryNodeId = repositoryNodeId := by
  unfold requireGithubIssueIdentity
  constructor
  · intro ran
    split at ran
    · exact absurd ran Except.throw_ne_ok
    · split at ran
      · exact absurd ran Except.throw_ne_ok
      · next same =>
          split at ran
          · exact absurd ran Except.throw_ne_ok
          · next home =>
              obtain rfl := Except.pure_eq_ok_iff.mp ran
              exact ⟨rfl, not_not.mp same, not_not.mp home⟩
  · rintro ⟨rfl, same, home⟩
    dsimp only
    rw [if_neg (not_not.mpr same), if_neg (not_not.mpr home)]
    rfl

theorem mirrors_requireGithubIssueIdentity {Cache : Type} {Coherent : Cache → Prop} :
    Mirrors Coherent
      (requireGithubIssueIdentity (m := StateT Cache (Except Failure)) nodeId repositoryNodeId
        description shown invalid)
      (requireGithubIssueIdentity nodeId repositoryNodeId description shown invalid) := by
  unfold requireGithubIssueIdentity
  split
  · exact .throw _
  · split
    · exact .throw _
    · split
      · exact .throw _
      · exact .pure _

end Issues

/-! ## Readers of one graph -/

section Graph

variable {graph : GithubIssueGraph} {repositoryNodeId : GithubRepositoryNodeId}
  {root nodeId : GithubIssueNodeId} {relation : GithubIssueRelation}

theorem readIssueProjection_eq_ok {issue : IssueProjection}
    (ran : readIssueProjection (m := Except TrackerAdapterReadError) graph repositoryNodeId nodeId =
      .ok issue) :
    ∃ node, graph.node nodeId = some node ∧ node.id = nodeId ∧
      node.repository = repositoryNodeId ∧ issue.id = nodeId ∧ issue.parentNodeId = node.parent := by
  obtain ⟨identity, required, ran⟩ := Except.bind_eq_ok_iff.mp ran
  obtain ⟨lifecycle, -, made⟩ := Except.bind_eq_ok_iff.mp ran
  obtain rfl := Except.pure_eq_ok_iff.mp made
  obtain ⟨found, same, home⟩ := requireGithubIssueIdentity_eq_ok_iff.mp required
  obtain ⟨node, shown, rfl⟩ := Option.map_eq_some_iff.mp found
  exact ⟨node, shown, same, home, same, rfl⟩

theorem readConnectionPage_eq_ok {cursor : Option GithubCursor} {answered : GithubIssueConnectionPage}
    (found : readConnectionPage (m := Except TrackerAdapterReadError) graph nodeId relation cursor =
      .ok answered) : graph.page nodeId relation cursor = some answered := by
  unfold readConnectionPage at found
  split at found
  · exact absurd found Except.throw_ne_ok
  · next shown =>
      rw [← Except.pure_eq_ok_iff.mp found]
      exact shown

theorem plainClosureRead_answers :
    AnswersAs (plainClosureRead graph repositoryNodeId root) graph.endpoints := by
  refine ⟨fun read => ?_, fun read ran => ?_, fun _ => rfl⟩
  · obtain ⟨node, -, -, -, same, -⟩ := readIssueProjection_eq_ok read
    exact same
  · obtain ⟨node, shown, -⟩ := readIssueProjection_eq_ok read
    exact readCompleteGithubIssueConnection_eq_ok readConnectionPage_eq_ok
      (graph.paginated _ _ (by rw [shown]; rfl)) ran

/-! ## Batched reads -/

structure GithubReadCache.Coherent (graph : GithubIssueGraph)
    (repositoryNodeId : GithubRepositoryNodeId) (cache : GithubReadCache) : Prop where
  issue : ∀ {nodeId issue}, cache.issues.lookup nodeId = some issue →
    readIssueProjection (m := Except TrackerAdapterReadError) graph repositoryNodeId nodeId =
      .ok issue
  relation : ∀ {nodeId relation nodeIds}, cache.relations.lookup (nodeId, relation) = some nodeIds →
    readConnection (m := Except TrackerAdapterReadError) graph nodeId relation = .ok nodeIds

theorem emptyReadCache_coherent : emptyReadCache.Coherent graph repositoryNodeId where
  issue found := by cases found
  relation found := by cases found

theorem mirrors_batchedIssue (nodeId : GithubIssueNodeId) :
    Mirrors (GithubReadCache.Coherent graph repositoryNodeId)
      (batchedIssue graph repositoryNodeId nodeId)
      (readIssueProjection graph repositoryNodeId nodeId) := by
  refine Mirrors.memoized (fun cache => ?_) (fun coherent found => coherent.issue found) ?_
  · unfold readIssueProjection
    refine mirrors_requireGithubIssueIdentity.bind fun identity => Mirrors.bind ?_ fun _ => .pure _
    unfold lifecycleFrom
    split
    · exact .throw _
    · exact .pure _
  · intro cache issue coherent answered
    refine ⟨fun {other found} known => ?_, coherent.relation⟩
    rw [KeyedMap.lookup_set] at known
    split at known
    · next same =>
        cases known
        exact same ▸ answered
    · exact coherent.issue known

theorem mirrors_batchedConnection (nodeId : GithubIssueNodeId) (relation : GithubIssueRelation) :
    Mirrors (GithubReadCache.Coherent graph repositoryNodeId)
      (batchedConnection graph nodeId relation) (readConnection graph nodeId relation) := by
  refine Mirrors.memoized (fun cache => ?_) (fun coherent found => coherent.relation found) ?_
  · refine mirrors_readConnectionPages (fun cursor => ?_) rfl rfl rfl rfl _ _ _ _
    change Mirrors _ (readConnectionPage graph nodeId relation cursor)
      (readConnectionPage graph nodeId relation cursor)
    unfold readConnectionPage
    split
    · exact .throw _
    · exact .pure _
  · intro cache nodeIds coherent answered
    refine ⟨coherent.issue, fun {other relation found} known => ?_⟩
    rw [KeyedMap.lookup_set] at known
    split at known
    · next same =>
        cases known
        cases same
        exact answered
    · exact coherent.relation known

theorem mirrors_batchedClosureRead :
    MirrorsRead (GithubReadCache.Coherent graph repositoryNodeId)
      (batchedClosureRead graph repositoryNodeId root)
      (plainClosureRead graph repositoryNodeId root) where
  closureDescription := rfl
  invalid := rfl
  readConnection := mirrors_batchedConnection
  readIssue := mirrors_batchedIssue
  resourceLimit := rfl
  rootIssueNodeId := rfl
  stopAfterIssue := rfl

def PendingGithubRead.plain (graph : GithubIssueGraph) (repositoryNodeId : GithubRepositoryNodeId) :
    PendingGithubRead → Except TrackerAdapterReadError Unit
  | .issue nodeId => discard (readIssueProjection graph repositoryNodeId nodeId)
  | .connection nodeId relation => discard (readConnection graph nodeId relation)

theorem mirrors_prefetch (read : PendingGithubRead) :
    Mirrors (GithubReadCache.Coherent graph repositoryNodeId)
      (prefetch graph repositoryNodeId read) (read.plain graph repositoryNodeId) := by
  cases read with
  | issue nodeId => exact (mirrors_batchedIssue nodeId).discard
  | connection nodeId relation => exact (mirrors_batchedConnection nodeId relation).discard

theorem lookup_pendingSubjects_from {pending : List PendingGithubIssue}
    {subjects : KeyedMap GithubIssueNodeId Bool} {expand : Bool}
    (found : (pending.foldl (fun subjects entry => KeyedMap.set subjects entry.issueNodeId
      (entry.expandChildren || subjects.lookup entry.issueNodeId = some true)) subjects).lookup
        nodeId = some expand) :
    (nodeId ∈ subjects ∨ ∃ entry ∈ pending, entry.issueNodeId = nodeId) ∧
      (expand = true → subjects.lookup nodeId = some true ∨ ⟨true, nodeId⟩ ∈ pending) := by
  induction pending generalizing subjects with
  | nil =>
      rw [List.foldl_nil] at found
      refine ⟨Or.inl (AList.lookup_isSome.mp ?_), fun expands => Or.inl ?_⟩
      · rw [found]
        rfl
      · rw [found, expands]
  | cons entry pending induction =>
      rw [List.foldl_cons] at found
      obtain ⟨known, asked⟩ := induction found
      constructor
      · rcases known with known | ⟨later, member, same⟩
        · rcases KeyedMap.mem_set.mp known with same | old
          · exact Or.inr ⟨entry, List.mem_cons_self, same.symm⟩
          · exact Or.inl old
        · exact Or.inr ⟨later, List.mem_cons_of_mem _ member, same⟩
      · intro expands
        rcases asked expands with marked | member
        · rw [KeyedMap.lookup_set] at marked
          split at marked
          · next same =>
              subst same
              rcases Bool.or_eq_true_iff.mp (Option.some.inj marked) with here | before
              · refine Or.inr (List.mem_cons.mpr (Or.inl ?_))
                rw [← here]
              · exact Or.inl (of_decide_eq_true before)
          · exact Or.inl marked
        · exact Or.inr (List.mem_cons_of_mem _ member)

theorem mem_pendingReads {cache : GithubReadCache} {pending : List PendingGithubIssue}
    {read : PendingGithubRead} (member : read ∈ pendingReads cache pending) :
    (∃ entry ∈ pending, read = .issue entry.issueNodeId ∨
      read = .connection entry.issueNodeId .blockedBy) ∨
      ∃ nodeId, ⟨true, nodeId⟩ ∈ pending ∧ read = .connection nodeId .subIssues := by
  obtain ⟨⟨nodeId, expand⟩, subject, listed⟩ := List.mem_flatMap.mp member
  have found : (pendingSubjects pending).lookup nodeId = some expand :=
    AList.mem_lookup_iff.mpr subject
  obtain ⟨known, asked⟩ := lookup_pendingSubjects_from found
  obtain ⟨entry, pended, same⟩ := known.resolve_left fun member => by cases member
  rcases List.mem_append.mp listed with listed | children
  · rcases List.mem_append.mp listed with issue | blockers
    · split at issue
      · cases issue
      · exact Or.inl ⟨entry, pended, Or.inl (same ▸ List.mem_singleton.mp issue)⟩
    · split at blockers
      · cases blockers
      · exact Or.inl ⟨entry, pended, Or.inr (same ▸ List.mem_singleton.mp blockers)⟩
  · split at children
    · next wanted =>
        have expands : expand = true := (Bool.and_eq_true_iff.mp wanted).1
        refine Or.inr ⟨nodeId, ?_, List.mem_singleton.mp children⟩
        exact (asked expands).resolve_left fun found => by cases found
    · cases children

section Rounds

variable {scratch : GithubTargetClosureScratch IssueProjection} {cache after : GithubReadCache}
  {rounds : Nat}
  {traversal : Option (GithubTargetClosureTraversal IssueProjection)}

theorem traverseNext_of_batched
    {outcome : GithubTargetClosureScratch IssueProjection ⊕
      GithubTargetClosureTraversal IssueProjection}
    (coherent : cache.Coherent graph repositoryNodeId)
    (ran : (traverseNext (batchedClosureRead graph repositoryNodeId root) scratch).run cache =
      .ok (outcome, after)) :
    traverseNext (plainClosureRead graph repositoryNodeId root) scratch = .ok outcome ∧
      after.Coherent graph repositoryNodeId := by
  unfold traverseNext at ran ⊢
  cases pending : scratch.pending with
  | nil =>
      rw [pending] at ran
      exact (Mirrors.pure _).eq_ok coherent ran
  | cons next rest =>
      rw [pending] at ran
      obtain ⟨⟨⟨⟩, prepared⟩, prefetching, visiting⟩ := Except.bind_eq_ok_iff.mp ran
      have kept := ((Mirrors.forM mirrors_prefetch
        (pendingReads cache (next :: rest))).eq_ok coherent prefetching).2
      exact (mirrors_batchedClosureRead.visitClosureIssue { scratch with pending := rest }
        next).eq_ok kept visiting

theorem run_of_batched (coherent : cache.Coherent graph repositoryNodeId)
    (ran : (Loop.run (traverseNext (batchedClosureRead graph repositoryNodeId root)) rounds
      scratch).run cache = .ok (traversal, after)) :
    Loop.run (traverseNext (plainClosureRead graph repositoryNodeId root)) rounds scratch =
      .ok traversal := by
  induction rounds generalizing scratch cache with
  | zero =>
      cases ran
      rfl
  | succ rounds induction =>
      obtain ⟨⟨outcome, visited⟩, stepped, rest⟩ := Except.bind_eq_ok_iff.mp ran
      obtain ⟨step, kept⟩ := traverseNext_of_batched coherent stepped
      cases outcome with
      | inl next =>
          rw [Loop.run_succ_of_inl step]
          exact induction kept rest
      | inr result =>
          rw [Loop.run_succ_of_inr step]
          cases rest
          rfl

theorem preparePending_succeeds {agenda : List PendingGithubIssue}
    (readable : ClosureReadable (plainClosureRead graph repositoryNodeId root) graph.endpoints)
    (explored : Explored (plainClosureRead graph repositoryNodeId root) graph.endpoints scratch
      agenda) (coherent : cache.Coherent graph repositoryNodeId) :
    ∃ after : GithubReadCache, after.Coherent graph repositoryNodeId ∧
      (preparePending graph repositoryNodeId agenda).run cache = .ok ((), after) := by
  have succeeds : ∀ read ∈ pendingReads cache agenda,
      read.plain graph repositoryNodeId = .ok () := by
    intro read member
    rcases mem_pendingReads member with ⟨entry, pended, same⟩ | ⟨nodeId, pended, rfl⟩
    · have inClosure := explored.discovered _ (explored.agendaDiscovered entry pended)
      rcases same with rfl | rfl
      · obtain ⟨issue, answered⟩ := readable.issue inClosure
        exact congrArg Functor.discard answered
      · obtain ⟨nodeIds, answered⟩ := readable.blockedBy inClosure
        exact congrArg Functor.discard answered
    · obtain ⟨nodeIds, answered⟩ := readable.subIssues (explored.agendaDescends _ pended rfl)
      exact congrArg Functor.discard answered
  have all : (pendingReads cache agenda).forM (PendingGithubRead.plain graph repositoryNodeId) =
      .ok () := by
    generalize pendingReads cache agenda = reads at succeeds
    induction reads with
    | nil => rfl
    | cons read reads induction =>
        rw [List.forall_mem_cons] at succeeds
        exact Except.bind_eq_ok_iff.mpr ⟨(), succeeds.1, induction succeeds.2⟩
  exact (Mirrors.forM mirrors_prefetch _).run_eq_ok coherent all

theorem run_of_plain
    (readable : ClosureReadable (plainClosureRead graph repositoryNodeId root) graph.endpoints)
    (explored : Explored (plainClosureRead graph repositoryNodeId root) graph.endpoints scratch
      scratch.pending) (coherent : cache.Coherent graph repositoryNodeId)
    (ran : Loop.run (traverseNext (plainClosureRead graph repositoryNodeId root)) rounds scratch =
      .ok traversal) :
    ∃ after, (Loop.run (traverseNext (batchedClosureRead graph repositoryNodeId root)) rounds
      scratch).run cache = .ok (traversal, after) := by
  induction rounds generalizing scratch cache with
  | zero =>
      cases ran
      exact ⟨cache, rfl⟩
  | succ rounds induction =>
      obtain ⟨outcome, step, rest⟩ := Except.bind_eq_ok_iff.mp ran
      have batched : ∃ visited : GithubReadCache, visited.Coherent graph repositoryNodeId ∧
          (traverseNext (batchedClosureRead graph repositoryNodeId root) scratch).run cache =
            .ok (outcome, visited) := by
        unfold traverseNext at step ⊢
        cases pending : scratch.pending with
        | nil =>
            rw [pending] at step
            exact (Mirrors.pure _).run_eq_ok coherent step
        | cons next rest =>
            rw [pending] at step
            obtain ⟨prepared, kept, prefetched⟩ :=
              preparePending_succeeds readable explored coherent
            rw [pending] at prefetched
            obtain ⟨visited, still, visiting⟩ := (mirrors_batchedClosureRead.visitClosureIssue
              { scratch with pending := rest } next).run_eq_ok kept step
            exact ⟨visited, still,
              Except.bind_eq_ok_iff.mpr ⟨((), prepared), prefetched, visiting⟩⟩
      obtain ⟨visited, still, stepped⟩ := batched
      cases outcome with
      | inl next =>
          have explored := (traverseNext_explored plainClosureRead_answers explored step).1
          obtain ⟨after, continued⟩ := induction explored still rest
          exact ⟨after, Except.bind_eq_ok_iff.mpr ⟨(.inl next, visited), stepped, continued⟩⟩
      | inr result =>
          cases rest
          exact ⟨visited, Except.bind_eq_ok_iff.mpr ⟨(.inr result, visited), stepped, rfl⟩⟩

theorem batched_eq_ok_iff {hierarchyParents nodes} :
    (∃ after, (traverseGithubTargetClosure (batchedClosureRead graph repositoryNodeId root)).run
      emptyReadCache = .ok (some (.complete hierarchyParents nodes), after)) ↔
    traverseGithubTargetClosure (plainClosureRead graph repositoryNodeId root) =
      .ok (some (.complete hierarchyParents nodes)) := by
  constructor
  · rintro ⟨after, ran⟩
    exact run_of_batched emptyReadCache_coherent ran
  · intro ran
    exact run_of_plain (closureReadable_of_complete plainClosureRead_answers ran)
      (@explored_initial _ _ _ (plainClosureRead graph repositoryNodeId root) _)
      emptyReadCache_coherent ran

end Rounds

/-! ## Focused membership -/

section Focused

variable {context : FocusedReadContext}

/-- The focused traversal without the projections that it keeps. -/
def uncachedClosureRead (graph : GithubIssueGraph) (context : FocusedReadContext) :
    GithubTargetClosureRead (Except FocusedTaskCompletionReadFailure) GithubIssueProjection
      FocusedTaskCompletionReadFailure where
  closureDescription := "focused membership traversal"
  invalid _ := focusedFailure context
  readConnection := focusedConnection graph context
  readIssue := focusedIssue graph context
  resourceLimit _ := focusedFailure context
  rootIssueNodeId := context.rootIssueNodeId
  stopAfterIssue issue := issue.id = context.issueNodeId

def ProjectionsCoherent (graph : GithubIssueGraph) (context : FocusedReadContext)
    (projections : KeyedMap GithubIssueNodeId GithubIssueProjection) : Prop :=
  ∀ {nodeId projection}, projections.lookup nodeId = some projection →
    focusedIssue (m := Except FocusedTaskCompletionReadFailure) graph context nodeId =
      .ok projection

theorem focusedIssue_eq_ok_iff {projection : GithubIssueProjection} :
    focusedIssue (m := Except FocusedTaskCompletionReadFailure) graph context nodeId =
      .ok projection ↔
        ∃ node, graph.node nodeId = some node ∧ node.id = nodeId ∧
          node.repository = context.repositoryNodeId ∧
          projection = ⟨node.id, node.parent, node.state, node.stateReason⟩ := by
  constructor
  · intro ran
    obtain ⟨identity, required, made⟩ := Except.bind_eq_ok_iff.mp ran
    obtain ⟨found, same, home⟩ := requireGithubIssueIdentity_eq_ok_iff.mp required
    obtain ⟨node, shown, rfl⟩ := Option.map_eq_some_iff.mp found
    exact ⟨node, shown, same, home, (Except.pure_eq_ok_iff.mp made).symm⟩
  · rintro ⟨node, shown, same, home, rfl⟩
    exact Except.bind_eq_ok_iff.mpr ⟨node.observation, requireGithubIssueIdentity_eq_ok_iff.mpr
      ⟨by rw [shown]; rfl, same, home⟩, rfl⟩

theorem uncachedClosureRead_answers :
    AnswersAs (uncachedClosureRead graph context) graph.endpoints := by
  refine ⟨fun read => ?_, fun {nodeId issue relation nodeIds} read ran => ?_, fun _ => rfl⟩
  · obtain ⟨node, -, same, -, rfl⟩ := focusedIssue_eq_ok_iff.mp read
    exact same
  · obtain ⟨node, shown, -⟩ := focusedIssue_eq_ok_iff.mp read
    refine readCompleteGithubIssueConnection_eq_ok (fun {cursor answered} found => ?_)
      (graph.paginated nodeId relation (by rw [shown]; rfl)) ran
    change focusedConnectionPage graph context nodeId relation cursor = _ at found
    unfold focusedConnectionPage at found
    split at found
    · exact absurd found Except.throw_ne_ok
    · next shown =>
        rw [← Except.pure_eq_ok_iff.mp found]
        exact shown

theorem mirrors_focusedClosureRead :
    MirrorsRead (ProjectionsCoherent graph context) (focusedClosureRead graph context)
      (uncachedClosureRead graph context) where
  closureDescription := rfl
  invalid := rfl
  readConnection nodeId relation := by
    refine mirrors_readConnectionPages (fun cursor => ?_) rfl rfl rfl rfl _ _ _ _
    change Mirrors _ (focusedConnectionPage graph context nodeId relation cursor)
      (focusedConnectionPage graph context nodeId relation cursor)
    unfold focusedConnectionPage
    split
    · exact .throw _
    · exact .pure _
  readIssue nodeId := by
    refine Mirrors.memoized (fun projections =>
      mirrors_requireGithubIssueIdentity.bind fun _ => .pure _)
      (fun coherent found => coherent found) ?_
    intro projections projection coherent answered other found known
    rw [KeyedMap.lookup_set] at known
    split at known
    · next same =>
        cases known
        exact same ▸ answered
    · exact coherent known
  resourceLimit := rfl
  rootIssueNodeId := rfl
  stopAfterIssue := rfl

theorem uncachedClosureRead_readable
    (readable : ClosureReadable
      (plainClosureRead graph context.repositoryNodeId context.rootIssueNodeId) graph.endpoints) :
    ClosureReadable (uncachedClosureRead graph context) graph.endpoints := by
  have shown : ∀ {nodeId}, InTargetClosure graph.endpoints context.rootIssueNodeId nodeId →
      ∃ node, graph.node nodeId = some node ∧ node.id = nodeId ∧
        node.repository = context.repositoryNodeId := by
    intro nodeId member
    obtain ⟨issue, read⟩ := readable.issue member
    obtain ⟨node, found, same, home, -⟩ := readIssueProjection_eq_ok read
    exact ⟨node, found, same, home⟩
  have connection : ∀ {nodeId relation nodeIds},
      readConnection (m := Except TrackerAdapterReadError) graph nodeId relation = .ok nodeIds →
        focusedConnection (m := Except FocusedTaskCompletionReadFailure) graph context nodeId
          relation = .ok nodeIds := by
    intro nodeId relation nodeIds ran
    refine readCompleteGithubIssueConnection_transfer (connectionRead graph nodeId relation)
      (focusedConnectionRead graph context nodeId relation) (fun {cursor answered} found => ?_) rfl ran
    have page := readConnectionPage_eq_ok found
    change focusedConnectionPage graph context nodeId relation cursor = _
    unfold focusedConnectionPage
    rw [page]
    rfl
  refine ⟨fun member => ?_, fun member => ?_, fun descends => ?_, fun descends member read => ?_,
    readable.top, readable.limited⟩
  · obtain ⟨node, found, same, home⟩ := shown member
    exact ⟨_, focusedIssue_eq_ok_iff.mpr ⟨node, found, same, home, rfl⟩⟩
  · obtain ⟨nodeIds, answered⟩ := readable.blockedBy member
    exact ⟨nodeIds, connection answered⟩
  · obtain ⟨nodeIds, answered⟩ := readable.subIssues descends
    exact ⟨nodeIds, connection answered⟩
  · obtain ⟨node, found, -, -, rfl⟩ := focusedIssue_eq_ok_iff.mp read
    obtain ⟨issue, plain⟩ := readable.issue
      (DescendsFrom.inTargetClosure (Relation.ReflTransGen.tail descends member))
    obtain ⟨again, refound, -, -, -, parent⟩ := readIssueProjection_eq_ok plain
    obtain rfl := Option.some.inj (found.symm.trans refound)
    exact parent.symm.trans (readable.parent descends member plain)

theorem membership_exact {traversal : GithubTargetClosureTraversal GithubIssueProjection}
    (exact_ : TraversalExact (uncachedClosureRead graph context) graph.endpoints traversal) :
    membershipOf traversal = .member ↔
      InTargetClosure graph.endpoints context.rootIssueNodeId context.issueNodeId := by
  cases traversal with
  | stopped issue =>
      obtain ⟨stops, member⟩ := exact_
      have same : issue.id = context.issueNodeId := of_decide_eq_true stops
      exact iff_of_true rfl (same ▸ member)
  | complete hierarchyParents nodes =>
      refine iff_of_false (by rintro ⟨⟩) fun member => ?_
      have closure : ExactClosure (uncachedClosureRead graph context) graph.endpoints
        hierarchyParents nodes := exact_
      obtain ⟨node, found⟩ := Option.isSome_iff_exists.mp
        (AList.lookup_isSome.mpr (closure.members.mpr member))
      obtain ⟨read, -, continued⟩ := closure.node found
      have same : node.issue.id = context.issueNodeId := uncachedClosureRead_answers.issue read
      exact of_decide_eq_false continued same

end Focused

/-! ## Normalized tasks -/

section Normalized

theorem mapM_eq_some_map {Value Image : Type} {values : List Value} {image : Value → Option Image}
    (shown : Value → Image) (defined : ∀ value ∈ values, image value = some (shown value)) :
    values.mapM image = some (values.map shown) := by
  induction values with
  | nil => rfl
  | cons value values induction =>
      obtain ⟨found, rest⟩ := List.forall_mem_cons.mp defined
      rw [List.mapM_cons, found, induction rest]
      rfl

/-- The task of an issue, with the tasks of its parent and of every prerequisite. -/
def taskOfNode (hierarchyParents : KeyedMap GithubIssueNodeId (Option GithubIssueNodeId))
    (repositoryNodeId : GithubRepositoryNodeId) (node : GithubTargetClosureNode IssueProjection) :
    TrackerTask where
  descriptor := node.issue.descriptor
  id := githubTaskIdFor repositoryNodeId node.issue.id
  lifecycle := node.issue.lifecycle
  parentTaskId :=
    (hierarchyParents.lookup node.issue.id).join.map (githubTaskIdFor repositoryNodeId)
  prerequisiteIds := node.prerequisiteNodeIds.map (githubTaskIdFor repositoryNodeId)

theorem normalizedTasks_eq_some {hierarchyParents nodes}
    (closure : ExactClosure (plainClosureRead graph repositoryNodeId root) graph.endpoints
      hierarchyParents nodes) :
    normalizedTasks nodes hierarchyParents repositoryNodeId =
      some ((nodes.entries.map (·.2)).map (taskOfNode hierarchyParents repositoryNodeId)) := by
  have identified : ∀ {nodeId node}, nodes.lookup nodeId = some node → node.issue.id = nodeId :=
    fun found => plainClosureRead_answers.issue (closure.node found).1
  have known : ∀ {nodeId}, InTargetClosure graph.endpoints root nodeId →
      (KeyedMap.ofEntries ((nodes.entries.map (·.2)).map fun node =>
        (node.issue.id, githubTaskIdFor repositoryNodeId node.issue.id))).lookup nodeId =
          some (githubTaskIdFor repositoryNodeId nodeId) := by
    intro nodeId member
    obtain ⟨node, found⟩ := Option.isSome_iff_exists.mp
      (AList.lookup_isSome.mpr (closure.members.mpr member))
    refine KeyedMap.lookup_ofEntries (fun entry listed same => ?_) ?_
    · obtain ⟨other, -, rfl⟩ := List.mem_map.mp listed
      exact congrArg (githubTaskIdFor repositoryNodeId) same
    · refine List.mem_map.mpr ⟨node, List.mem_map.mpr
        ⟨⟨nodeId, node⟩, AList.mem_lookup_iff.mp found, rfl⟩, ?_⟩
      rw [identified found]
  refine mapM_eq_some_map _ fun node listed => ?_
  obtain ⟨⟨nodeId, node⟩, entry, rfl⟩ := List.mem_map.mp listed
  have found : nodes.lookup nodeId = some node := AList.mem_lookup_iff.mpr entry
  have recorded : InTargetClosure graph.endpoints root nodeId :=
    closure.members.mp (AList.lookup_isSome.mp (by rw [found]; rfl))
  have own : node.issue.id = nodeId := identified found
  have prerequisites : node.prerequisiteNodeIds.mapM (fun prerequisite =>
      (KeyedMap.ofEntries ((nodes.entries.map (·.2)).map fun node =>
        (node.issue.id, githubTaskIdFor repositoryNodeId node.issue.id))).lookup prerequisite) =
      some (node.prerequisiteNodeIds.map (githubTaskIdFor repositoryNodeId)) := by
    refine mapM_eq_some_map _ fun prerequisite blocks => known ?_
    rw [(closure.node found).2.1] at blocks
    exact recorded.prerequisite blocks
  unfold normalizedTask
  dsimp only
  rw [own, known recorded, prerequisites]
  unfold taskOfNode
  rw [own]
  cases parent : (hierarchyParents.lookup nodeId).join with
  | none => rfl
  | some parentNodeId =>
      have reached := closure.parent.mp (Option.join_eq_some_iff.mp parent)
      have above := known reached.1.inTargetClosure
      dsimp only
      rw [above]
      rfl

end Normalized

/-! ## Exact reads -/

def PlainReads (graph : GithubIssueGraph) (repositoryNodeId : GithubRepositoryNodeId)
    (root : GithubIssueNodeId)
    (hierarchyParents : KeyedMap GithubIssueNodeId (Option GithubIssueNodeId))
    (nodes : KeyedMap GithubIssueNodeId (GithubTargetClosureNode IssueProjection)) : Prop :=
  traverseGithubTargetClosure (plainClosureRead graph repositoryNodeId root) =
    .ok (some (.complete hierarchyParents nodes))

/-- What the readers answer about one root of one graph. -/
structure ClosureReadsExact (graph : GithubIssueGraph) (repositoryNodeId : GithubRepositoryNodeId)
    (root : GithubIssueNodeId) : Prop where
  /-- A plain read ends: it fails or completes. -/
  plainEnds : ∀ outcome, traverseGithubTargetClosure (plainClosureRead graph repositoryNodeId root) =
    .ok outcome → ∃ hierarchyParents nodes, outcome = some (.complete hierarchyParents nodes)
  /-- A batched read ends: it fails or completes. -/
  batchedEnds : ∀ outcome after, (traverseGithubTargetClosure
    (batchedClosureRead graph repositoryNodeId root)).run emptyReadCache = .ok (outcome, after) →
      ∃ hierarchyParents nodes, outcome = some (.complete hierarchyParents nodes)
  members : ∀ hierarchyParents nodes,
    PlainReads graph repositoryNodeId root hierarchyParents nodes →
      ∀ nodeId, nodeId ∈ nodes ↔ InTargetClosure graph.endpoints root nodeId
  /-- No issue is returned twice. -/
  once : ∀ hierarchyParents nodes,
    PlainReads graph repositoryNodeId root hierarchyParents nodes →
      ((nodes.entries.map (·.2)).map (·.issue.id)).Nodup
  /-- Every issue stands under its own identity, with its full blocked-by list. -/
  prerequisites : ∀ hierarchyParents nodes,
    PlainReads graph repositoryNodeId root hierarchyParents nodes →
      ∀ nodeId node, nodes.lookup nodeId = some node → node.issue.id = nodeId ∧
        node.prerequisiteNodeIds = graph.endpoints nodeId .blockedBy
  parents : ∀ hierarchyParents nodes,
    PlainReads graph repositoryNodeId root hierarchyParents nodes →
      ∀ child parent, hierarchyParents.lookup child = some (some parent) ↔
        DescendsFrom graph.endpoints root parent ∧ child ∈ graph.endpoints parent .subIssues
  /-- An issue has a parent exactly when it is a proper descendant. -/
  descendants : ∀ hierarchyParents nodes,
    PlainReads graph repositoryNodeId root hierarchyParents nodes →
      ∀ child, (∃ parent, hierarchyParents.lookup child = some (some parent)) ↔
        child ≠ root ∧ DescendsFrom graph.endpoints root child
  /-- No lookup of the normalization is undefined, and each issue gives one task. -/
  normalized : ∀ hierarchyParents nodes,
    PlainReads graph repositoryNodeId root hierarchyParents nodes →
      normalizedTasks nodes hierarchyParents repositoryNodeId =
        some ((nodes.entries.map (·.2)).map (taskOfNode hierarchyParents repositoryNodeId))
  batched : ∀ hierarchyParents nodes,
    (∃ after, (traverseGithubTargetClosure (batchedClosureRead graph repositoryNodeId root)).run
      emptyReadCache = .ok (some (.complete hierarchyParents nodes), after)) ↔
    PlainReads graph repositoryNodeId root hierarchyParents nodes
  /-- A focused traversal that succeeds answers, and its answer is right. -/
  membership : ∀ taskId issueNodeId projections answer after,
    ProjectionsCoherent graph ⟨taskId, issueNodeId, repositoryNodeId, root⟩ projections →
      (readTargetMembership graph ⟨taskId, issueNodeId, repositoryNodeId, root⟩).run projections =
        .ok (answer, after) →
          (answer = some .member ∧ InTargetClosure graph.endpoints root issueNodeId) ∨
            answer = some .notMember ∧ ¬ InTargetClosure graph.endpoints root issueNodeId
  /-- A focused traversal of a closure that can be read answers. -/
  answered : ∀ hierarchyParents nodes,
    PlainReads graph repositoryNodeId root hierarchyParents nodes →
      ∀ taskId issueNodeId projections,
        ProjectionsCoherent graph ⟨taskId, issueNodeId, repositoryNodeId, root⟩ projections →
          ∃ answer after, (readTargetMembership graph
            ⟨taskId, issueNodeId, repositoryNodeId, root⟩).run projections = .ok (answer, after)

theorem ExactClosure.parent_iff_descends {hierarchyParents nodes} {child : GithubIssueNodeId}
    (closure : ExactClosure (plainClosureRead graph repositoryNodeId root) graph.endpoints
      hierarchyParents nodes) :
    (∃ parent, hierarchyParents.lookup child = some (some parent)) ↔
      child ≠ root ∧ DescendsFrom graph.endpoints root child := by
  constructor
  · rintro ⟨parent, known⟩
    obtain ⟨descends, member⟩ := closure.parent.mp known
    refine ⟨fun same => ?_, Relation.ReflTransGen.tail descends member⟩
    have top : hierarchyParents.lookup root = some none := closure.top
    rw [same, top] at known
    cases known
  · rintro ⟨apart, descends⟩
    rcases Relation.ReflTransGen.cases_tail descends with same | ⟨parent, above, member⟩
    · exact absurd same apart
    · exact ⟨parent, closure.parent.mpr ⟨above, member⟩⟩

theorem ExactClosure.nodup_ids {hierarchyParents nodes}
    (closure : ExactClosure (plainClosureRead graph repositoryNodeId root) graph.endpoints
      hierarchyParents nodes) : ((nodes.entries.map (·.2)).map (·.issue.id)).Nodup := by
  have keys : (nodes.entries.map (·.2)).map (·.issue.id) = nodes.keys := by
    rw [List.map_map]
    refine List.map_congr_left fun entry member => ?_
    exact plainClosureRead_answers.issue (closure.node (AList.mem_lookup_iff.mpr member)).1
  rw [keys]
  exact nodes.nodupKeys

theorem plainReads_ends
    {outcome : Option (GithubTargetClosureTraversal IssueProjection)}
    (ran : traverseGithubTargetClosure (plainClosureRead graph repositoryNodeId root) =
      .ok outcome) : ∃ hierarchyParents nodes, outcome = some (.complete hierarchyParents nodes) := by
  cases outcome with
  | none => exact absurd ran (traverseGithubTargetClosure_ne_none plainClosureRead_answers)
  | some traversal =>
      have exact_ := traverseGithubTargetClosure_exact plainClosureRead_answers ran
      cases traversal with
      | complete hierarchyParents nodes => exact ⟨hierarchyParents, nodes, rfl⟩
      | stopped issue =>
          obtain ⟨stops, -⟩ := exact_
          cases stops

section Membership

variable {context : FocusedReadContext}
  {projections after : KeyedMap GithubIssueNodeId GithubIssueProjection}

theorem readTargetMembership_mirrors :
    Mirrors (ProjectionsCoherent graph context) (readTargetMembership graph context)
      (traverseGithubTargetClosure (uncachedClosureRead graph context) >>= fun traversal =>
        pure (traversal.map membershipOf)) :=
  (mirrors_focusedClosureRead.traverseGithubTargetClosure fun _ => .pure ()).bind fun _ => .pure _

theorem readTargetMembership_exact {answer : Option TargetMembership}
    (coherent : ProjectionsCoherent graph context projections)
    (ran : (readTargetMembership graph context).run projections = .ok (answer, after)) :
    (answer = some .member ∧
        InTargetClosure graph.endpoints context.rootIssueNodeId context.issueNodeId) ∨
      answer = some .notMember ∧
        ¬ InTargetClosure graph.endpoints context.rootIssueNodeId context.issueNodeId := by
  obtain ⟨traversal, traversed, answered⟩ :=
    Except.bind_eq_ok_iff.mp (readTargetMembership_mirrors.eq_ok coherent ran).1
  obtain rfl := Except.pure_eq_ok_iff.mp answered
  cases traversal with
  | none =>
      exact absurd traversed (traverseGithubTargetClosure_ne_none uncachedClosureRead_answers)
  | some traversal =>
      have member := membership_exact
        (traverseGithubTargetClosure_exact uncachedClosureRead_answers traversed)
      rw [Option.map_some]
      cases decided : membershipOf traversal with
      | member => exact Or.inl ⟨rfl, member.mp decided⟩
      | notMember =>
          refine Or.inr ⟨rfl, fun inClosure => ?_⟩
          rw [member.mpr inClosure] at decided
          cases decided

theorem readTargetMembership_answers
    (readable : ClosureReadable
      (plainClosureRead graph context.repositoryNodeId context.rootIssueNodeId) graph.endpoints)
    (coherent : ProjectionsCoherent graph context projections) :
    ∃ answer after, (readTargetMembership graph context).run projections = .ok (answer, after) := by
  obtain ⟨traversal, traversed⟩ := traverseGithubTargetClosure_succeeds uncachedClosureRead_answers
    (uncachedClosureRead_readable readable)
  obtain ⟨after, -, ran⟩ := readTargetMembership_mirrors.run_eq_ok coherent
    (Except.bind_eq_ok_iff.mpr ⟨some traversal, traversed, rfl⟩)
  exact ⟨_, after, ran⟩

end Membership

end Graph

/-- The closure of every root of every fixed issue graph is read exactly. -/
theorem closure_reads_exact (graph : GithubIssueGraph) (repositoryNodeId : GithubRepositoryNodeId)
    (root : GithubIssueNodeId) : ClosureReadsExact graph repositoryNodeId root where
  plainEnds _ ran := plainReads_ends ran
  batchedEnds _ _ ran := plainReads_ends (run_of_batched emptyReadCache_coherent ran)
  members _ _ ran _ :=
    (traverseGithubTargetClosure_exact plainClosureRead_answers ran).members
  once _ _ ran := (traverseGithubTargetClosure_exact plainClosureRead_answers ran).nodup_ids
  prerequisites _ _ ran _ _ found := by
    have closure : ExactClosure _ _ _ _ :=
      traverseGithubTargetClosure_exact plainClosureRead_answers ran
    obtain ⟨read, same, -⟩ := closure.node found
    exact ⟨plainClosureRead_answers.issue read, same⟩
  parents _ _ ran _ _ := (traverseGithubTargetClosure_exact plainClosureRead_answers ran).parent
  descendants _ _ ran _ :=
    (traverseGithubTargetClosure_exact plainClosureRead_answers ran).parent_iff_descends
  normalized _ _ ran :=
    normalizedTasks_eq_some (traverseGithubTargetClosure_exact plainClosureRead_answers ran)
  batched _ _ := batched_eq_ok_iff
  membership _ _ _ _ _ coherent ran := readTargetMembership_exact coherent ran
  answered _ _ ran _ _ _ coherent :=
    readTargetMembership_answers (closureReadable_of_complete plainClosureRead_answers ran) coherent

end Dalph
