import Dalph.TaskTracker.Graph
import Dalph.Foundation.Json

/-!
# Task-tracker targets, claims and observed facts

What one tracker read can establish.  A complete graph observation keeps five fact families over
the same task subjects; a later read may reconfirm an earlier one without repeating it.
-/

namespace Dalph

/-- Selects one tracker-native root. -/
inductive TrackerTarget where
  | fixture (locator : String)
  | githubIssue (issueNumber : Nat) (owner repository : String)
deriving DecidableEq

def TrackerTarget.encode : TrackerTarget → Json
  | .fixture locator => .str locator
  | .githubIssue issueNumber owner repository =>
      .obj [("_tag", .str "GithubIssue"), ("issueNumber", .num issueNumber),
        ("owner", .str owner), ("repository", .str repository)]

def taskTrackerTargetKey (target : TrackerTarget) : String :=
  Json.stringify target.encode

theorem taskTrackerTargetKey_injective : Function.Injective taskTrackerTargetKey := by
  have wellFormed : ∀ target : TrackerTarget, Json.WellFormed target.encode := by
    intro target
    cases target with
    | fixture locator => exact .str locator
    | githubIssue issueNumber owner repository =>
        exact .obj (by simp) (by simp [Json.WellFormed.str, Json.WellFormed.num])
  intro left right same
  have values := Json.stringify_injective (wellFormed left) (wellFormed right) same
  cases left <;> cases right <;> simp_all [TrackerTarget.encode]

def codeUnits (text : String) : Nat :=
  (text.toList.map fun char => if char.val < 0x10000 then 1 else 2).sum

def exactTaskIdSetKey (taskIds : List TaskId) : String :=
  String.intercalate "|"
    ((sorted taskIds).map fun taskId => s!"{codeUnits taskId.value}:{taskId.value}")

structure ClaimOwner where
  value : String
deriving DecidableEq

structure ClaimToken where
  value : String
deriving DecidableEq

/-- Requests atomic ownership of one task under one stable operation. -/
structure TaskClaimAcquisition where
  operationId : OperationId
  owner : ClaimOwner
  taskId : TaskId
  token : ClaimToken
deriving DecidableEq

/-- Tracker record proving that one owner and token own a task. -/
structure ActiveTaskClaim where
  operationId : OperationId
  owner : ClaimOwner
  taskId : TaskId
  token : ClaimToken
deriving DecidableEq

def TaskClaimAcquisition.claim (acquisition : TaskClaimAcquisition) : ActiveTaskClaim :=
  ⟨acquisition.operationId, acquisition.owner, acquisition.taskId, acquisition.token⟩

def isExactTaskClaim (left right : ActiveTaskClaim) : Bool :=
  left = right

structure TaskClaimRelease where
  claim : ActiveTaskClaim
  operationId : OperationId
deriving DecidableEq

inductive TaskClaimObservation where
  | activeTaskClaim (claim : ActiveTaskClaim)
  | unclaimedTask (taskId : TaskId)
deriving DecidableEq

def TaskClaimObservation.taskId : TaskClaimObservation → TaskId
  | .activeTaskClaim claim => claim.taskId
  | .unclaimedTask taskId => taskId

/-- Coverage declared by one fact family. -/
structure CompleteTargetClosureCoverage where
  explicitlyCoveredTaskIds : List TaskId
  target : TrackerTarget
deriving DecidableEq

/-- Evidence fields shared by every fact family of one logical read. -/
structure CompleteFactEvidence where
  contentIdentity : TrackerRevision
  coverage : CompleteTargetClosureCoverage
  freshnessOperationId : OperationId
deriving DecidableEq

structure TaskIdentitiesObserved where
  evidence : CompleteFactEvidence
  taskIds : List TaskId
  descriptors : List (TaskId × TrackerTaskDescriptor)
  target : TrackerTarget
deriving DecidableEq

structure TaskRowsObserved (Row : Type) where
  evidence : CompleteFactEvidence
  subjectTaskIds : List TaskId
  rows : List (TaskId × Row)
deriving DecidableEq

structure TaskTargetMembershipObserved where
  evidence : CompleteFactEvidence
  memberTaskIds : List TaskId
  target : TrackerTarget
deriving DecidableEq

structure CompleteTaskGraphFactFamilies where
  identities : TaskIdentitiesObserved
  lifecycles : TaskRowsObserved TaskLifecycle
  prerequisites : TaskRowsObserved (List TaskId)
  groupings : TaskRowsObserved (Option TaskId)
  membership : TaskTargetMembershipObserved
deriving DecidableEq

def CompleteTaskGraphFactFamilies.evidence (families : CompleteTaskGraphFactFamilies) :
    List CompleteFactEvidence :=
  [families.identities.evidence, families.lifecycles.evidence, families.prerequisites.evidence,
    families.groupings.evidence, families.membership.evidence]

/-- Some family names other task subjects, or a subject without exactly one row. -/
def completeFactFamilySubjectsDiffer (families : CompleteTaskGraphFactFamilies) : Bool :=
  let expectedTaskIds := exactTaskIdSetKey families.identities.taskIds
  let rowTaskIds := [families.lifecycles.rows.map (·.1), families.prerequisites.rows.map (·.1),
    families.groupings.rows.map (·.1)]
  exactTaskIdSetKey families.lifecycles.subjectTaskIds ≠ expectedTaskIds ||
    exactTaskIdSetKey families.prerequisites.subjectTaskIds ≠ expectedTaskIds ||
    exactTaskIdSetKey families.groupings.subjectTaskIds ≠ expectedTaskIds ||
    exactTaskIdSetKey families.membership.memberTaskIds ≠ expectedTaskIds ||
    rowTaskIds.any fun taskIds =>
      taskIds.length ≠ families.identities.taskIds.length ||
        exactTaskIdSetKey taskIds ≠ expectedTaskIds

def factFamiliesCoverTarget (evidence : List CompleteFactEvidence) (target : TrackerTarget) :
    Bool :=
  evidence.all fun family =>
    taskTrackerTargetKey family.coverage.target = taskTrackerTargetKey target

def coverageSubjectsDiffer (evidence : List CompleteFactEvidence) : Bool :=
  let subjects := evidence.map fun family => exactTaskIdSetKey family.coverage.explicitlyCoveredTaskIds
  subjects.any fun key => some key ≠ subjects.head?

def contentIdentitiesDiffer (evidence : List CompleteFactEvidence) : Bool :=
  evidence.any fun family => some family.contentIdentity ≠ (evidence.map (·.contentIdentity)).head?

/-- First defect of the declared coverage. -/
def invalidCompleteCoverage (families : CompleteTaskGraphFactFamilies) (target : TrackerTarget) :
    Option String :=
  if !factFamiliesCoverTarget families.evidence target then
    some "every graph fact family must declare complete coverage of the logical read target"
  else if coverageSubjectsDiffer families.evidence then
    some "every graph fact family must declare the same explicitly requested task subjects"
  else if taskTrackerTargetKey families.identities.target ≠ taskTrackerTargetKey target ∨
      taskTrackerTargetKey families.membership.target ≠ taskTrackerTargetKey target then
    some "identity and membership facts must cover the logical read target"
  else none

/-- First defect of a complete graph observation. -/
def invalidCompleteTaskGraphFacts (families : CompleteTaskGraphFactFamilies)
    (operationId : OperationId) (rootTaskId : Option TaskId) (target : TrackerTarget) :
    Option String :=
  if completeFactFamilySubjectsDiffer families then
    some "every complete graph fact family must cover the same task subjects exactly once"
  else if families.evidence.any (·.freshnessOperationId ≠ operationId) then
    some "every fact family freshness must name the logical read operation"
  else if contentIdentitiesDiffer families.evidence then
    some "one logical graph read must carry one normalized content identity"
  else
    match invalidCompleteCoverage families target with
    | some issue => some issue
    | none =>
        if rootTaskId.any (· ∉ families.identities.taskIds) then
          some "the selected tracker root must belong to the complete observed graph"
        else if families.prerequisites.rows.any fun row =>
            row.2.any (· ∉ families.identities.taskIds) then
          some "every prerequisite endpoint must belong to the complete observed graph"
        else none

/-- One logical graph read keeping every scheduling fact family. -/
structure CompleteTaskTrackerFactsObserved where
  factFamilies : CompleteTaskGraphFactFamilies
  operationId : OperationId
  rootTaskId : Option TaskId
  target : TrackerTarget
  valid : invalidCompleteTaskGraphFacts factFamilies operationId rootTaskId target = none
deriving DecidableEq

/-- The five reconfirmed families: subjects without their rows. -/
structure ReconfirmedTaskGraphFactFamilies where
  identities : CompleteFactEvidence
  identitiesTarget : TrackerTarget
  lifecycles : CompleteFactEvidence
  lifecycleTaskIds : List TaskId
  prerequisites : CompleteFactEvidence
  prerequisiteTaskIds : List TaskId
  groupings : CompleteFactEvidence
  groupingTaskIds : List TaskId
  membership : CompleteFactEvidence
  membershipTarget : TrackerTarget
deriving DecidableEq

def ReconfirmedTaskGraphFactFamilies.evidence (families : ReconfirmedTaskGraphFactFamilies) :
    List CompleteFactEvidence :=
  [families.identities, families.lifecycles, families.prerequisites, families.groupings,
    families.membership]

def reconfirmedGraphSubjectIssue (families : ReconfirmedTaskGraphFactFamilies)
    (rootTaskId : Option TaskId) : Option String :=
  let subjectKey := exactTaskIdSetKey families.lifecycleTaskIds
  if exactTaskIdSetKey families.prerequisiteTaskIds ≠ subjectKey ∨
      exactTaskIdSetKey families.groupingTaskIds ≠ subjectKey then
    some "every reconfirmed graph fact family must name the same task subjects"
  else if rootTaskId.any (· ∉ families.lifecycleTaskIds) then
    some "the selected tracker root must belong to the reconfirmed graph subjects"
  else none

/-- First defect of a reconfirmation. -/
def invalidReconfirmation (families : ReconfirmedTaskGraphFactFamilies)
    (operationId priorFullObservationOperationId : OperationId) (rootTaskId : Option TaskId)
    (target : TrackerTarget) : Option String :=
  if operationId = priorFullObservationOperationId then
    some "an unchanged reconfirmation must reference an earlier full observation"
  else if families.evidence.any (·.freshnessOperationId ≠ operationId) then
    some "every reconfirmed fact family freshness must name the later logical read"
  else if contentIdentitiesDiffer families.evidence then
    some "one unchanged logical read must carry one normalized content identity"
  else if !factFamiliesCoverTarget families.evidence target then
    some "every reconfirmed fact family must declare complete coverage of the logical read target"
  else if coverageSubjectsDiffer families.evidence then
    some "every reconfirmed fact family must declare the same explicitly requested task subjects"
  else if taskTrackerTargetKey families.identitiesTarget = taskTrackerTargetKey target ∧
      taskTrackerTargetKey families.membershipTarget = taskTrackerTargetKey target then
    reconfirmedGraphSubjectIssue families rootTaskId
  else some "reconfirmed identity and membership facts must cover the logical read target"

/-- A later comparable read reconfirmed one earlier full payload unchanged. -/
structure UnchangedTaskTrackerFactsReconfirmed where
  factFamilies : ReconfirmedTaskGraphFactFamilies
  operationId : OperationId
  priorFullObservationOperationId : OperationId
  rootTaskId : Option TaskId
  target : TrackerTarget
  valid : invalidReconfirmation factFamilies operationId priorFullObservationOperationId
    rootTaskId target = none
deriving DecidableEq

def reconfirmationMatchesPriorFullObservation
    (reconfirmation : UnchangedTaskTrackerFactsReconfirmed)
    (prior : CompleteTaskTrackerFactsObserved) : Bool :=
  taskTrackerTargetKey prior.target = taskTrackerTargetKey reconfirmation.target &&
    prior.rootTaskId = reconfirmation.rootTaskId &&
    prior.factFamilies.identities.evidence.contentIdentity =
      reconfirmation.factFamilies.identities.contentIdentity &&
    exactTaskIdSetKey prior.factFamilies.identities.taskIds =
      exactTaskIdSetKey reconfirmation.factFamilies.lifecycleTaskIds

/-- One focused read of authored instructions. -/
structure FocusedTaskWorkSpecificationFactsObserved where
  body : String
  fingerprint : TaskRevision
  operationId : OperationId
  target : TrackerTarget
  taskId : TaskId
  title : String
deriving DecidableEq

structure FocusedTaskClaimFactsObserved where
  observation : TaskClaimObservation
  operationId : OperationId
  target : TrackerTarget
deriving DecidableEq

structure FocusedTaskCompletionFacts where
  lifecycle : TaskLifecycle
  operationId : OperationId
  target : TrackerTarget
  /-- The task is a member of the target. -/
  targetMember : Bool
  taskId : TaskId
  taskRevision : TaskRevision
  trackerRevision : TrackerRevision
deriving DecidableEq

/-- Result of one logical tracker read. -/
inductive TaskTrackerFactsObservation where
  | completeTaskTrackerFacts (facts : CompleteTaskTrackerFactsObserved)
  | unchangedTaskTrackerFactsReconfirmed (facts : UnchangedTaskTrackerFactsReconfirmed)
  | focusedTaskWorkSpecificationFacts (facts : FocusedTaskWorkSpecificationFactsObserved)
  | focusedTaskClaimFacts (facts : FocusedTaskClaimFactsObserved)
  | focusedTaskClaimFactsUnreadable (operationId : OperationId) (target : TrackerTarget)
      (taskId : TaskId)
  | focusedTaskCompletionFacts (operationId : OperationId) (target : TrackerTarget)
      (request purpose : Payload) (facts : FocusedTaskCompletionFacts)
  | taskTrackerFactsReadFailed (operationId : OperationId) (target : TrackerTarget)
      (failure : Payload)
deriving DecidableEq

namespace TaskTrackerFactsObservation

/-- The logical read that established the facts. -/
def operationId : TaskTrackerFactsObservation → OperationId
  | completeTaskTrackerFacts facts => facts.operationId
  | unchangedTaskTrackerFactsReconfirmed facts => facts.operationId
  | focusedTaskWorkSpecificationFacts facts => facts.operationId
  | focusedTaskClaimFacts facts => facts.operationId
  | focusedTaskClaimFactsUnreadable operationId _ _ => operationId
  | focusedTaskCompletionFacts operationId _ _ _ _ => operationId
  | taskTrackerFactsReadFailed operationId _ _ => operationId

def target : TaskTrackerFactsObservation → TrackerTarget
  | completeTaskTrackerFacts facts => facts.target
  | unchangedTaskTrackerFactsReconfirmed facts => facts.target
  | focusedTaskWorkSpecificationFacts facts => facts.target
  | focusedTaskClaimFacts facts => facts.target
  | focusedTaskClaimFactsUnreadable _ target _ => target
  | focusedTaskCompletionFacts _ target _ _ _ => target
  | taskTrackerFactsReadFailed _ target _ => target

def isGraphFacts : TaskTrackerFactsObservation → Bool
  | completeTaskTrackerFacts _ => true
  | unchangedTaskTrackerFactsReconfirmed _ => true
  | _ => false

def complete? : TaskTrackerFactsObservation → Option CompleteTaskTrackerFactsObserved
  | completeTaskTrackerFacts facts => some facts
  | _ => none

end TaskTrackerFactsObservation

def rowOf {Row : Type} (rows : List (TaskId × Row)) (taskId : TaskId) : Option Row :=
  (rows.reverse.find? (·.1 = taskId)).map (·.2)

/-- Tasks of a complete observation; its validity gives every task one row in each family. -/
def graphTasksFrom (observation : CompleteTaskTrackerFactsObserved) : List TrackerTask :=
  let families := observation.factFamilies
  families.identities.taskIds.filterMap fun taskId => do
    let lifecycle ← rowOf families.lifecycles.rows taskId
    let parentTaskId ← rowOf families.groupings.rows taskId
    let prerequisiteIds ← rowOf families.prerequisites.rows taskId
    return { descriptor := rowOf families.identities.descriptors taskId
             id := taskId
             lifecycle
             parentTaskId
             prerequisiteIds }

def projectCompleteTaskGraph (observation : CompleteTaskTrackerFactsObserved) :
    Option TaskDagSnapshot :=
  (TaskDagSnapshot.project
    { revision := observation.factFamilies.identities.evidence.contentIdentity
      rootTaskId := observation.rootTaskId
      tasks := graphTasksFrom observation }).toOption

end Dalph
