import Dalph.Foundation.Json
import Dalph.TaskTracker.Github.ReadPrimitives

/-!
# GitHub tracker reader

The readers over one fixed issue graph: the plain read of a target closure, the same read with
prefetched batches, and the focused membership traversal of one task.  Transport and response
decoding are left out: a read answers with the fields that GitHub shows, or with nothing.
-/

namespace Dalph

open GithubTargetClosureIssue (idOf)

structure GithubIssueNode where
  id : GithubIssueNodeId
  number : Option Nat
  parent : Option GithubIssueNodeId
  repository : GithubRepositoryNodeId
  state : GithubIssueState
  stateReason : Option GithubIssueStateReason
  title : Option String
deriving DecidableEq

inductive PagesList (page : Option GithubCursor → Option GithubIssueConnectionPage) :
    Option GithubCursor → List GithubIssueNodeId → Prop where
  | last {cursor shown} (found : page cursor = some shown)
      (ends : shown.connection.pageInfo.hasNextPage = false) :
      PagesList page cursor shown.connection.nodes
  | next {cursor shown endCursor rest} (found : page cursor = some shown)
      (continues : shown.connection.pageInfo.hasNextPage = true)
      (located : shown.connection.pageInfo.endCursor = some endCursor)
      (pages : PagesList page (some endCursor) rest) :
      PagesList page cursor (shown.connection.nodes ++ rest)

/-- A fixed issue graph as GitHub shows it.  An issue that is shown has its relations cut into some
pages. -/
structure GithubIssueGraph where
  node : GithubIssueNodeId → Option GithubIssueNode
  page : GithubIssueNodeId → GithubIssueRelation → Option GithubCursor →
    Option GithubIssueConnectionPage
  endpoints : GithubIssueNodeId → GithubIssueRelation → List GithubIssueNodeId
  paginated : ∀ nodeId relation, (node nodeId).isSome →
    PagesList (page nodeId relation) none (endpoints nodeId relation)

inductive GithubTrackerReadOperation where
  | readIssue
  | readBlockedBy
  | readSubIssues
deriving DecidableEq

inductive TrackerAdapterReadFailureReason where
  | incompleteSnapshot
  | resourceLimitExceeded
deriving DecidableEq

structure TrackerAdapterReadError where
  operation : GithubTrackerReadOperation
  detail : String
  reason : TrackerAdapterReadFailureReason
deriving DecidableEq

def incomplete (operation : GithubTrackerReadOperation) (detail : String) : TrackerAdapterReadError :=
  ⟨operation, detail, .incompleteSnapshot⟩

def resourceLimitExceeded (operation : GithubTrackerReadOperation) (detail : String) :
    TrackerAdapterReadError :=
  ⟨operation, detail, .resourceLimitExceeded⟩

def operationForRelation : GithubIssueRelation → GithubTrackerReadOperation
  | .blockedBy => .readBlockedBy
  | .subIssues => .readSubIssues

def operationForClosureStage : GithubTargetClosureReadStage → GithubTrackerReadOperation
  | .issue => .readIssue
  | .blockedBy => .readBlockedBy
  | .subIssues => .readSubIssues

/-- What the graph reader keeps of an issue. -/
structure IssueProjection where
  descriptor : Option TrackerTaskDescriptor
  id : GithubIssueNodeId
  lifecycle : TaskLifecycle
  parentNodeId : Option GithubIssueNodeId
deriving DecidableEq

instance : GithubTargetClosureIssue IssueProjection := ⟨(·.id), (·.parentNodeId)⟩

def GithubIssueNode.observation (node : GithubIssueNode) : GithubIssueObservation :=
  ⟨node.id, node.parent, node.repository, node.state, node.stateReason⟩

section Plain

variable {m : Type → Type} [Monad m] (graph : GithubIssueGraph)

section Boundary

variable [MonadExceptOf TrackerAdapterReadError m]

def readConnectionPage (nodeId : GithubIssueNodeId) (relation : GithubIssueRelation)
    (cursor : Option GithubCursor) : m GithubIssueConnectionPage :=
  match graph.page nodeId relation cursor with
  | none => throw (incomplete (operationForRelation relation)
      s!"GitHub issue {nodeId.value} is inaccessible")
  | some page => pure page

def connectionRead (nodeId : GithubIssueNodeId) (relation : GithubIssueRelation) :
    GithubConnectionRead m TrackerAdapterReadError where
  invalid _ := incomplete (operationForRelation relation)
  issueNodeId := nodeId
  readPage := readConnectionPage graph nodeId relation
  relation := relation
  resourceLimit _ := resourceLimitExceeded (operationForRelation relation)

def readConnection (nodeId : GithubIssueNodeId) (relation : GithubIssueRelation) :
    m (List GithubIssueNodeId) :=
  readCompleteGithubIssueConnection (connectionRead graph nodeId relation)

def GithubIssueState.text : GithubIssueState → String
  | closed => "CLOSED"
  | open_ => "OPEN"

def GithubIssueStateReason.text : GithubIssueStateReason → String
  | completed => "COMPLETED"
  | duplicate => "DUPLICATE"
  | notPlanned => "NOT_PLANNED"
  | reopened => "REOPENED"

def lifecycleFrom (state : GithubIssueState) (stateReason : Option GithubIssueStateReason) :
    m TaskLifecycle :=
  match githubTaskLifecycleFrom state stateReason with
  | none =>
      let reason := (stateReason.map (·.text)).getD "null"
      throw (incomplete .readIssue s!"unsupported GitHub issue lifecycle {state.text}/{reason}")
  | some lifecycle => pure lifecycle

def readIssueProjection (repositoryNodeId : GithubRepositoryNodeId) (nodeId : GithubIssueNodeId) :
    m IssueProjection := do
  let identity ← requireGithubIssueIdentity nodeId repositoryNodeId "root"
    ((graph.node nodeId).map (·.observation)) (incomplete .readIssue)
  let lifecycle ← lifecycleFrom identity.state identity.stateReason
  pure {
    descriptor := (graph.node nodeId).bind fun node =>
      node.title.map fun title => { title := title, issueNumber := node.number }
    id := identity.id
    lifecycle := lifecycle
    parentNodeId := identity.parentNodeId }

end Boundary

def plainClosureRead (repositoryNodeId : GithubRepositoryNodeId) (root : GithubIssueNodeId) :
    GithubTargetClosureRead (Except TrackerAdapterReadError) IssueProjection
      TrackerAdapterReadError where
  closureDescription := "tracker target closure"
  invalid stage := incomplete (operationForClosureStage stage)
  readConnection := readConnection graph
  readIssue := readIssueProjection graph repositoryNodeId
  resourceLimit stage := resourceLimitExceeded (operationForRelation stage)
  rootIssueNodeId := root

end Plain

/-- What one logical read has already observed. -/
structure GithubReadCache where
  issues : KeyedMap GithubIssueNodeId IssueProjection
  relations : KeyedMap (GithubIssueNodeId × GithubIssueRelation) (List GithubIssueNodeId)

/-- A read that fills the cache or may fail. -/
abbrev BatchedRead := StateT GithubReadCache (Except TrackerAdapterReadError)

section Batched

variable (graph : GithubIssueGraph) (repositoryNodeId : GithubRepositoryNodeId)

def batchedIssue (nodeId : GithubIssueNodeId) : BatchedRead IssueProjection :=
  memoize (fun cache => cache.issues.lookup nodeId)
    (fun issue cache => { cache with issues := KeyedMap.set cache.issues nodeId issue })
    (readIssueProjection graph repositoryNodeId nodeId)

def batchedConnection (nodeId : GithubIssueNodeId) (relation : GithubIssueRelation) :
    BatchedRead (List GithubIssueNodeId) :=
  memoize (fun cache => cache.relations.lookup (nodeId, relation))
    (fun nodes cache =>
      { cache with relations := KeyedMap.set cache.relations (nodeId, relation) nodes })
    (readConnection graph nodeId relation)

/-- A read that a batch may hold. -/
inductive PendingGithubRead where
  | issue (nodeId : GithubIssueNodeId)
  | connection (nodeId : GithubIssueNodeId) (relation : GithubIssueRelation)
deriving DecidableEq

def pendingSubjects (pending : List PendingGithubIssue) : KeyedMap GithubIssueNodeId Bool :=
  pending.foldl (fun subjects entry => KeyedMap.set subjects entry.issueNodeId
    (entry.expandChildren || subjects.lookup entry.issueNodeId = some true)) ∅

/-- What the pending issues need and the cache lacks. -/
def pendingReads (cache : GithubReadCache) (pending : List PendingGithubIssue) :
    List PendingGithubRead :=
  (pendingSubjects pending).entries.flatMap fun subject =>
    (if subject.1 ∈ cache.issues then [] else [.issue subject.1]) ++
      (if (subject.1, .blockedBy) ∈ cache.relations then [] else [.connection subject.1 .blockedBy]) ++
      if subject.2 && (subject.1, GithubIssueRelation.subIssues) ∉ cache.relations then
        [.connection subject.1 .subIssues]
      else []

def prefetch : PendingGithubRead → BatchedRead Unit
  | .issue nodeId => discard (batchedIssue graph repositoryNodeId nodeId)
  | .connection nodeId relation => discard (batchedConnection graph nodeId relation)

/-- Reads ahead what is pending.  The code runs the reads concurrently, in batches; each fills an
entry of its own, and a failure of one fails them all. -/
def preparePending (pending : List PendingGithubIssue) : BatchedRead Unit := do
  (pendingReads (← get) pending).forM (prefetch graph repositoryNodeId)

def batchedClosureRead (root : GithubIssueNodeId) :
    GithubTargetClosureRead BatchedRead IssueProjection TrackerAdapterReadError where
  closureDescription := "tracker target closure"
  invalid stage := incomplete (operationForClosureStage stage)
  preparePending := preparePending graph repositoryNodeId
  readConnection := batchedConnection graph
  readIssue := batchedIssue graph repositoryNodeId
  resourceLimit stage := resourceLimitExceeded (operationForRelation stage)
  rootIssueNodeId := root

def emptyReadCache : GithubReadCache := ⟨∅, ∅⟩

end Batched

def base64UrlDigit (value : Nat) : Char :=
  "ABCDEFGHIJKLMNOPQRSTUVWXYZabcdefghijklmnopqrstuvwxyz0123456789-_".toList.getD value 'A'

/-- `Encoding.encodeBase64Url` on bytes, without padding. -/
def base64UrlDigits : List Nat → List Char
  | [] => []
  | [first] => [first / 4, first % 4 * 16].map base64UrlDigit
  | [first, second] =>
      [first / 4, first % 4 * 16 + second / 16, second % 16 * 4].map base64UrlDigit
  | first :: second :: third :: rest =>
      [first / 4, first % 4 * 16 + second / 16, second % 16 * 4 + third / 64, third % 64].map
        base64UrlDigit ++ base64UrlDigits rest

def encodeBase64Url (text : String) : String :=
  String.ofList (base64UrlDigits (text.toUTF8.toList.map (·.toNat)))

def githubTaskIdFor (repositoryNodeId : GithubRepositoryNodeId) (nodeId : GithubIssueNodeId) :
    TaskId :=
  ⟨"t1." ++ encodeBase64Url
    (Json.stringify (.arr [.str repositoryNodeId.value, .str nodeId.value]))⟩

/-- One normalized task; nothing when an identity that it looks up is missing. -/
def normalizedTask (taskIds : KeyedMap GithubIssueNodeId TaskId)
    (hierarchyParents : KeyedMap GithubIssueNodeId (Option GithubIssueNodeId))
    (node : GithubTargetClosureNode IssueProjection) : Option TrackerTask := do
  let taskId ← taskIds.lookup node.issue.id
  let parentTaskId ←
    match (hierarchyParents.lookup node.issue.id).join with
    | none => some none
    | some parentNodeId => (taskIds.lookup parentNodeId).map some
  let prerequisiteIds ← node.prerequisiteNodeIds.mapM (taskIds.lookup ·)
  pure {
    descriptor := node.issue.descriptor
    id := taskId
    lifecycle := node.issue.lifecycle
    parentTaskId := parentTaskId
    prerequisiteIds := prerequisiteIds }

/-- The tasks of a closure; nothing when a lookup is undefined. -/
def normalizedTasks (nodes : KeyedMap GithubIssueNodeId (GithubTargetClosureNode IssueProjection))
    (hierarchyParents : KeyedMap GithubIssueNodeId (Option GithubIssueNodeId))
    (repositoryNodeId : GithubRepositoryNodeId) : Option (List TrackerTask) :=
  let values := nodes.entries.map (·.2)
  let taskIds := KeyedMap.ofEntries
    (values.map fun node => (node.issue.id, githubTaskIdFor repositoryNodeId node.issue.id))
  values.mapM (normalizedTask taskIds hierarchyParents)

structure FocusedTaskCompletionReadFailure where
  detail : String
  taskId : TaskId
deriving DecidableEq

/-- What the focused reader keeps of an issue. -/
structure GithubIssueProjection where
  id : GithubIssueNodeId
  parentNodeId : Option GithubIssueNodeId
  state : GithubIssueState
  stateReason : Option GithubIssueStateReason
deriving DecidableEq

instance : GithubTargetClosureIssue GithubIssueProjection := ⟨(·.id), (·.parentNodeId)⟩

inductive TargetMembership where
  | member
  | notMember
deriving DecidableEq

structure FocusedReadContext where
  taskId : TaskId
  issueNodeId : GithubIssueNodeId
  repositoryNodeId : GithubRepositoryNodeId
  rootIssueNodeId : GithubIssueNodeId

/-- A read that fills the cached projections or may fail. -/
abbrev FocusedRead :=
  StateT (KeyedMap GithubIssueNodeId GithubIssueProjection) (Except FocusedTaskCompletionReadFailure)

section Focused

variable (graph : GithubIssueGraph) (context : FocusedReadContext)

def focusedFailure (detail : String) : FocusedTaskCompletionReadFailure := ⟨detail, context.taskId⟩

section Boundary

variable {m : Type → Type} [Monad m] [MonadExceptOf FocusedTaskCompletionReadFailure m]

def focusedIssue (nodeId : GithubIssueNodeId) : m GithubIssueProjection := do
  let issue ← requireGithubIssueIdentity nodeId context.repositoryNodeId "target"
    ((graph.node nodeId).map (·.observation)) (focusedFailure context)
  pure ⟨issue.id, issue.parentNodeId, issue.state, issue.stateReason⟩

def focusedConnectionPage (nodeId : GithubIssueNodeId) (relation : GithubIssueRelation)
    (cursor : Option GithubCursor) : m GithubIssueConnectionPage :=
  match graph.page nodeId relation cursor with
  | none => throw (focusedFailure context s!"GitHub issue {nodeId.value} is inaccessible")
  | some page => pure page

def focusedConnectionRead (nodeId : GithubIssueNodeId) (relation : GithubIssueRelation) :
    GithubConnectionRead m FocusedTaskCompletionReadFailure where
  invalid _ := focusedFailure context
  issueNodeId := nodeId
  readPage := focusedConnectionPage graph context nodeId relation
  relation := relation
  resourceLimit _ := focusedFailure context

def focusedConnection (nodeId : GithubIssueNodeId) (relation : GithubIssueRelation) :
    m (List GithubIssueNodeId) :=
  readCompleteGithubIssueConnection (focusedConnectionRead graph context nodeId relation)

end Boundary

def cachedFocusedIssue (nodeId : GithubIssueNodeId) : FocusedRead GithubIssueProjection :=
  memoize (fun projections => projections.lookup nodeId)
    (fun projection projections => KeyedMap.set projections nodeId projection)
    (focusedIssue graph context nodeId)

def focusedClosureRead :
    GithubTargetClosureRead FocusedRead GithubIssueProjection FocusedTaskCompletionReadFailure where
  closureDescription := "focused membership traversal"
  invalid _ := focusedFailure context
  readConnection := focusedConnection graph context
  readIssue := cachedFocusedIssue graph context
  resourceLimit _ := focusedFailure context
  rootIssueNodeId := context.rootIssueNodeId
  stopAfterIssue issue := issue.id = context.issueNodeId

def membershipOf : GithubTargetClosureTraversal GithubIssueProjection → TargetMembership
  | .stopped _ => .member
  | .complete _ _ => .notMember

def readTargetMembership : FocusedRead (Option TargetMembership) := do
  let traversal ← traverseGithubTargetClosure (focusedClosureRead graph context)
  pure (traversal.map membershipOf)

end Focused

end Dalph
