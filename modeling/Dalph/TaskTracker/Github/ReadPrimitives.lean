import Dalph.Foundation.KeyedMap
import Dalph.Foundation.Loop
import Dalph.TaskTracker.Graph

/-!
# GitHub issue reads

Bounded reads of GitHub issues: one relation of an issue, page by page, and the closure of a target,
issue by issue.  Both are written for any monad with failures, so that one traversal serves a plain
read and a read with a cache.
-/

namespace Dalph

structure GithubIssueNodeId where
  value : String
deriving DecidableEq

structure GithubRepositoryNodeId where
  value : String
deriving DecidableEq

/-- Names the place in a connection after which a page begins. -/
structure GithubCursor where
  value : String
deriving DecidableEq

def githubSnapshotTaskLimit : Nat := 1000

def githubConnectionPageLimit : Nat := 10

inductive GithubIssueRelation where
  | blockedBy
  | subIssues
deriving DecidableEq

def GithubIssueRelation.text : GithubIssueRelation → String
  | blockedBy => "blockedBy"
  | subIssues => "subIssues"

inductive GithubTargetClosureReadStage where
  | blockedBy
  | issue
  | subIssues
deriving DecidableEq

def GithubIssueRelation.stage : GithubIssueRelation → GithubTargetClosureReadStage
  | blockedBy => .blockedBy
  | subIssues => .subIssues

/-- Where the next page of a connection begins. -/
structure GithubPageInfo where
  endCursor : Option GithubCursor
  hasNextPage : Bool
deriving DecidableEq

structure IssueConnection where
  nodes : List GithubIssueNodeId
  pageInfo : GithubPageInfo
deriving DecidableEq

/-- One decoded connection page still bound to the issue GitHub says it describes. -/
structure GithubIssueConnectionPage where
  connection : IssueConnection
  issueNodeId : GithubIssueNodeId
deriving DecidableEq

inductive GithubIssueState where
  | closed
  | open_
deriving DecidableEq

inductive GithubIssueStateReason where
  | completed
  | duplicate
  | notPlanned
  | reopened
deriving DecidableEq

structure GithubIssueObservation where
  id : GithubIssueNodeId
  parentNodeId : Option GithubIssueNodeId
  repositoryNodeId : GithubRepositoryNodeId
  state : GithubIssueState
  stateReason : Option GithubIssueStateReason
deriving DecidableEq

/-- Normalizes one supported issue lifecycle; contradictory fields have none. -/
def githubTaskLifecycleFrom : GithubIssueState → Option GithubIssueStateReason → Option TaskLifecycle
  | .open_, none => some .opened
  | .open_, some .reopened => some .opened
  | .closed, some .completed => some .completedSuccessfully
  | .closed, some .duplicate => some .terminalWithoutSuccess
  | .closed, some .notPlanned => some .terminalWithoutSuccess
  | _, _ => none

section Reads

variable {m : Type → Type} [Monad m] {Failure : Type} [MonadExceptOf Failure m]

/-- Rejects inaccessible, cross-issue, and cross-repository identity observations uniformly. -/
def requireGithubIssueIdentity (issueNodeId : GithubIssueNodeId)
    (repositoryNodeId : GithubRepositoryNodeId) (repositoryDescription : String)
    (observation : Option GithubIssueObservation) (invalid : String → Failure) :
    m GithubIssueObservation :=
  match observation with
  | none => throw (invalid s!"GitHub issue {issueNodeId.value} is inaccessible")
  | some observation =>
      if observation.id ≠ issueNodeId then
        throw (invalid
          s!"GitHub returned issue {observation.id.value} while reading {issueNodeId.value}")
      else if observation.repositoryNodeId ≠ repositoryNodeId then
        throw (invalid
          s!"GitHub issue {issueNodeId.value} is outside the {repositoryDescription} repository")
      else pure observation

structure GithubConnectionRead (m : Type → Type) (Failure : Type) where
  invalid : GithubTargetClosureReadStage → String → Failure
  issueNodeId : GithubIssueNodeId
  readPage : Option GithubCursor → m GithubIssueConnectionPage
  relation : GithubIssueRelation
  resourceLimit : GithubIssueRelation → String → Failure

def appendUniqueConnectionNodes (connection : IssueConnection) (relation : GithubIssueRelation)
    (nodeIds : List GithubIssueNodeId) (invalid : String → Failure) : m (List GithubIssueNodeId) :=
  connection.nodes.foldlM (fun nodeIds id =>
    if id ∈ nodeIds then
      throw (invalid s!"GitHub returned duplicate {relation.text} endpoint {id.value}")
    else pure (nodeIds ++ [id])) nodeIds

def validateNextConnectionCursor (connection : IssueConnection) (relation : GithubIssueRelation)
    (seenCursors : List GithubCursor) (invalid : String → Failure) : m (List GithubCursor) :=
  if connection.pageInfo.hasNextPage then
    match connection.pageInfo.endCursor with
    | none => throw (invalid s!"GitHub returned an incomplete {relation.text} page")
    | some endCursor =>
        if endCursor ∈ seenCursors then
          throw (invalid
            s!"GitHub repeated a {relation.text} pagination cursor without making progress")
        else pure (seenCursors ++ [endCursor])
  else pure seenCursors

def readConnectionPages (read : GithubConnectionRead m Failure) :
    Nat → Option GithubCursor → List GithubCursor → List GithubIssueNodeId →
      m (List GithubIssueNodeId)
  | 0, _, _, _ =>
      throw (read.resourceLimit read.relation
        s!"GitHub {read.relation.text} connection exceeds {githubConnectionPageLimit} pages")
  | remaining + 1, cursor, seenCursors, nodeIds => do
      let page ← read.readPage cursor
      if page.issueNodeId ≠ read.issueNodeId then
        throw (read.invalid read.relation.stage
          s!"GitHub returned issue {page.issueNodeId.value} while reading {read.issueNodeId.value}")
      else do
        let nodeIds ← appendUniqueConnectionNodes page.connection read.relation nodeIds
          (read.invalid read.relation.stage)
        let seenCursors ← validateNextConnectionCursor page.connection read.relation seenCursors
          (read.invalid read.relation.stage)
        if page.connection.pageInfo.hasNextPage then
          readConnectionPages read remaining page.connection.pageInfo.endCursor seenCursors nodeIds
        else pure nodeIds

/-- Reads one complete bounded relation and rejects duplicate or non-progressing provider pages. -/
def readCompleteGithubIssueConnection (read : GithubConnectionRead m Failure) :
    m (List GithubIssueNodeId) :=
  readConnectionPages read githubConnectionPageLimit none [] []

end Reads

/-- Minimal issue shape required by the shared target-closure traversal. -/
class GithubTargetClosureIssue (Issue : Type) where
  idOf : Issue → GithubIssueNodeId
  parentNodeId : Issue → Option GithubIssueNodeId

open GithubTargetClosureIssue (idOf parentNodeId)

/-- An issue of the closure with the issues that block it. -/
structure GithubTargetClosureNode (Issue : Type) where
  issue : Issue
  prerequisiteNodeIds : List GithubIssueNodeId
deriving DecidableEq

/-- An issue to be visited, perhaps with its children. -/
structure PendingGithubIssue where
  expandChildren : Bool
  issueNodeId : GithubIssueNodeId
deriving DecidableEq

inductive GithubTargetClosureTraversal (Issue : Type) where
  | complete (hierarchyParents : KeyedMap GithubIssueNodeId (Option GithubIssueNodeId))
      (nodes : KeyedMap GithubIssueNodeId (GithubTargetClosureNode Issue))
  | stopped (issue : Issue)

/-- What a traversal needs; without a stop condition it is complete. -/
structure GithubTargetClosureRead (m : Type → Type) [Monad m] (Issue Failure : Type) where
  closureDescription : String
  invalid : GithubTargetClosureReadStage → String → Failure
  preparePending : List PendingGithubIssue → m Unit := fun _ => pure ()
  readConnection : GithubIssueNodeId → GithubIssueRelation → m (List GithubIssueNodeId)
  readIssue : GithubIssueNodeId → m Issue
  resourceLimit : GithubIssueRelation → String → Failure
  rootIssueNodeId : GithubIssueNodeId
  stopAfterIssue : Issue → Bool := fun _ => false

/-- What a traversal knows between two visits. -/
structure GithubTargetClosureScratch (Issue : Type) where
  discovered : Finset GithubIssueNodeId
  expandedChildren : Finset GithubIssueNodeId
  hierarchyParents : KeyedMap GithubIssueNodeId (Option GithubIssueNodeId)
  issues : KeyedMap GithubIssueNodeId Issue
  nodes : KeyedMap GithubIssueNodeId (GithubTargetClosureNode Issue)
  pending : List PendingGithubIssue

section Traversal

variable {m : Type → Type} [Monad m] {Issue Failure : Type} [MonadExceptOf Failure m]
  [GithubTargetClosureIssue Issue] (boundary : GithubTargetClosureRead m Issue Failure)

/-- Admits the endpoints of a relation to the bounded closure. -/
def registerDiscoveredSubjects (scratch : GithubTargetClosureScratch Issue)
    (issueNodeIds : List GithubIssueNodeId) (stage : GithubIssueRelation) :
    m (GithubTargetClosureScratch Issue) :=
  let additions := issueNodeIds.filter (· ∉ scratch.discovered)
  if scratch.discovered.card + additions.length > githubSnapshotTaskLimit then
    throw (boundary.resourceLimit stage
      s!"GitHub {boundary.closureDescription} exceeds {githubSnapshotTaskLimit} tasks")
  else pure { scratch with discovered := scratch.discovered ∪ additions.toFinset }

/-- An issue reached as a child must name that parent. -/
def validateObservedParent (scratch : GithubTargetClosureScratch Issue) (issue : Issue) : m Unit :=
  match scratch.hierarchyParents.lookup (idOf issue) with
  | some (some expectedParent) =>
      if parentNodeId issue ≠ some expectedParent then
        throw (boundary.invalid .issue
          s!"GitHub issue {(idOf issue).value} has a contradictory parent")
      else pure ()
  | _ => pure ()

def readClosureIssue (scratch : GithubTargetClosureScratch Issue) (issueNodeId : GithubIssueNodeId) :
    m (Issue × GithubTargetClosureScratch Issue) :=
  match scratch.issues.lookup issueNodeId with
  | some existing => pure (existing, scratch)
  | none => do
      let issue ← boundary.readIssue issueNodeId
      validateObservedParent boundary scratch issue
      pure (issue, { scratch with issues := KeyedMap.set scratch.issues issueNodeId issue })

/-- Records an issue with its prerequisites, which become pending without their children. -/
def expandClosurePrerequisites (scratch : GithubTargetClosureScratch Issue) (issue : Issue) :
    m (GithubTargetClosureScratch Issue) :=
  if idOf issue ∈ scratch.nodes then pure scratch
  else do
    let prerequisiteNodeIds ← boundary.readConnection (idOf issue) .blockedBy
    let scratch ← registerDiscoveredSubjects boundary scratch prerequisiteNodeIds .blockedBy
    pure { scratch with
      nodes := KeyedMap.set scratch.nodes (idOf issue) ⟨issue, prerequisiteNodeIds⟩
      pending := scratch.pending ++ prerequisiteNodeIds.map (⟨false, ·⟩) }

def validateChildParent (scratch : GithubTargetClosureScratch Issue)
    (childNodeId parent : GithubIssueNodeId) : m Unit :=
  if (scratch.issues.lookup childNodeId).any (parentNodeId · ≠ some parent) then
    throw (boundary.invalid .subIssues
      s!"GitHub issue {childNodeId.value} has a contradictory parent")
  else if (scratch.hierarchyParents.lookup childNodeId).any (· ≠ some parent) then
    throw (boundary.invalid .subIssues
      s!"GitHub issue {childNodeId.value} appears under multiple parents")
  else pure ()

def expandClosureChild (parent : GithubIssueNodeId) (scratch : GithubTargetClosureScratch Issue)
    (childNodeId : GithubIssueNodeId) : m (GithubTargetClosureScratch Issue) := do
  validateChildParent boundary scratch childNodeId parent
  pure { scratch with
    hierarchyParents := KeyedMap.set scratch.hierarchyParents childNodeId (some parent)
    pending := scratch.pending ++ [⟨true, childNodeId⟩] }

/-- Makes the children of an issue pending, once. -/
def expandClosureChildren (scratch : GithubTargetClosureScratch Issue) (expandChildren : Bool)
    (issueNodeId : GithubIssueNodeId) : m (GithubTargetClosureScratch Issue) :=
  if !expandChildren || issueNodeId ∈ scratch.expandedChildren then pure scratch
  else do
    let childNodeIds ← boundary.readConnection issueNodeId .subIssues
    let scratch ← registerDiscoveredSubjects boundary
      { scratch with expandedChildren := insert issueNodeId scratch.expandedChildren }
      childNodeIds .subIssues
    childNodeIds.foldlM (expandClosureChild boundary issueNodeId) scratch

def visitClosureIssue (scratch : GithubTargetClosureScratch Issue) (next : PendingGithubIssue) :
    m (GithubTargetClosureScratch Issue ⊕ GithubTargetClosureTraversal Issue) := do
  let (issue, scratch) ← readClosureIssue boundary scratch next.issueNodeId
  validateObservedParent boundary scratch issue
  if boundary.stopAfterIssue issue then pure (.inr (.stopped issue))
  else do
    let scratch ← expandClosurePrerequisites boundary scratch issue
    let scratch ← expandClosureChildren boundary scratch next.expandChildren next.issueNodeId
    pure (.inl scratch)

/-- One round of the traversal: prepare what is pending and visit the first of it. -/
def traverseNext (scratch : GithubTargetClosureScratch Issue) :
    m (GithubTargetClosureScratch Issue ⊕ GithubTargetClosureTraversal Issue) :=
  match scratch.pending with
  | [] => pure (.inr (.complete scratch.hierarchyParents scratch.nodes))
  | next :: rest => do
      boundary.preparePending (next :: rest)
      visitClosureIssue boundary { scratch with pending := rest } next

/-- The root is pending with its children and has no parent. -/
def initialClosureScratch : GithubTargetClosureScratch Issue where
  discovered := {boundary.rootIssueNodeId}
  expandedChildren := ∅
  hierarchyParents := KeyedMap.set ∅ boundary.rootIssueNodeId none
  issues := ∅
  nodes := ∅
  pending := [⟨true, boundary.rootIssueNodeId⟩]

/-- Walks the one bounded closure for a number of visits: root descendants plus prerequisite edges,
without prerequisite descendants. -/
def traverseGithubTargetClosureWithin (rounds : Nat) :
    m (Option (GithubTargetClosureTraversal Issue)) :=
  Loop.run (traverseNext boundary) rounds (initialClosureScratch boundary)

/-- More visits than any bounded closure takes: every issue makes at most the limit of issues pending
for each relation. -/
def githubTargetClosureRounds : Nat :=
  2 * githubSnapshotTaskLimit * githubSnapshotTaskLimit + 2

def traverseGithubTargetClosure : m (Option (GithubTargetClosureTraversal Issue)) :=
  traverseGithubTargetClosureWithin boundary githubTargetClosureRounds

end Traversal

end Dalph
