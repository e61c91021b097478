import Dalph.Foundation.Utf16

/-!
# Shared identities

Branded strings of the contracts package and of the journal.  A brand is a structure of its own,
so that a task identity cannot stand where a run identity is expected.
-/

namespace Dalph

/-- Identifies one durable coordination run. -/
structure RunId where
  value : String
  nonempty : value ≠ "" := by decide
deriving DecidableEq

structure TaskId where
  value : String
deriving DecidableEq

/-- Identifies one planned attempt at a task. -/
structure AttemptId where
  value : String
deriving DecidableEq

/-- Fingerprint of tracker-observed task content. -/
structure TaskRevision where
  value : String
deriving DecidableEq

/-- Identifies tracker snapshot content. -/
structure TrackerRevision where
  value : String
deriving DecidableEq

structure GitCommitSha where
  value : String
deriving DecidableEq

structure OperationId where
  value : String
deriving DecidableEq

/-- Identifies one durable journal fact within a run. -/
structure JournalRecordKey where
  value : String
  nonempty : value ≠ "" := by simp [toString]
deriving DecidableEq

/-- Canonical text of a recorded value that no modelled function looks into. -/
structure Payload where
  text : String
deriving DecidableEq

/-- Orders committed journal facts within one run, starting at one. -/
abbrev JournalPosition := Nat

/-- `compareTaskIds`, the code-unit order on task identities. -/
instance : LinearOrder TaskId where
  le left right := Utf16.units left.value ≤ Utf16.units right.value
  le_refl _ := le_refl _
  le_trans _ _ _ := le_trans
  le_antisymm left right first second := by
    cases left
    cases right
    exact congrArg TaskId.mk (Utf16.units_injective (le_antisymm first second))
  le_total _ _ := le_total _ _
  toDecidableLE left right :=
    inferInstanceAs (Decidable (Utf16.units left.value ≤ Utf16.units right.value))
  toDecidableEq := inferInstance

def sorted (taskIds : List TaskId) : List TaskId :=
  taskIds.insertionSort (· ≤ ·)

@[simp]
theorem mem_sorted {taskIds : List TaskId} {taskId : TaskId} :
    taskId ∈ sorted taskIds ↔ taskId ∈ taskIds :=
  (List.perm_insertionSort (· ≤ ·) taskIds).mem_iff

theorem sorted_perm (taskIds : List TaskId) : (sorted taskIds).Perm taskIds :=
  List.perm_insertionSort (· ≤ ·) taskIds

theorem pairwise_sorted (taskIds : List TaskId) : (sorted taskIds).Pairwise (· ≤ ·) :=
  List.pairwise_insertionSort (· ≤ ·) taskIds

theorem sorted_eq_self {taskIds : List TaskId} (increasing : taskIds.Pairwise (· ≤ ·)) :
    sorted taskIds = taskIds :=
  (sorted_perm taskIds).eq_of_pairwise' (pairwise_sorted taskIds) increasing

theorem sorted_eq_sorted_iff {left right : List TaskId} :
    sorted left = sorted right ↔ left.Perm right := by
  constructor
  · intro same
    exact (sorted_perm left).symm.trans (same ▸ sorted_perm right)
  · intro perm
    exact ((sorted_perm left).trans (perm.trans (sorted_perm right).symm)).eq_of_pairwise'
      (pairwise_sorted left) (pairwise_sorted right)

structure PlannedTaskAttempt where
  attemptId : AttemptId
  baseSha : GitCommitSha
  branch : String
  executor : String
  runId : RunId
  taskId : TaskId
  taskRevision : TaskRevision
  worktree : String
deriving DecidableEq

def plannedTaskAttemptEquivalence (left right : PlannedTaskAttempt) : Bool :=
  left = right

structure PlannedAttemptExecutorCorrelation where
  attemptId : AttemptId
  runId : RunId
deriving DecidableEq

def plannedAttemptExecutorCorrelation (plannedAttempt : PlannedTaskAttempt) :
    PlannedAttemptExecutorCorrelation :=
  ⟨plannedAttempt.attemptId, plannedAttempt.runId⟩

/-- Locates one immutable evidence object by content. -/
structure EvidenceReference where
  byteLength : Nat
  digest : String
deriving DecidableEq

structure AcceptedResult where
  commit : GitCommitSha
  evidenceManifest : EvidenceReference
deriving DecidableEq

inductive PlannedAttemptExecutorFailureCode where
  | providerFailed
  | resultEnvelopeInvalid
  | candidateHeadMismatch
  | gitUnavailable
  | lineageUnproven
deriving DecidableEq

inductive PlannedAttemptExecutorResult where
  | accepted (acceptedResult : AcceptedResult)
  | completed
  | failed (failureCode : Option PlannedAttemptExecutorFailureCode)
      (observedHead : Option GitCommitSha)
deriving DecidableEq

/-- Proven defect of one rejected answer. -/
inductive PlannedAttemptResultRejectionReason where
  | resultEnvelopeInvalid
  | candidateHeadMismatch
  | candidateLineageInvalid
deriving DecidableEq

inductive PlannedAttemptResultResponseCount where
  | one
  | two
  | three
deriving DecidableEq

/-- Whether the executor proved its writers stopped. -/
inductive PlannedAttemptRejectedResultCustody where
  | stopped
  | unresolved
deriving DecidableEq

inductive PlannedAttemptResultRecoveryCause where
  | correctionExhausted
  | deadline
  | writerCustodyUnresolved
deriving DecidableEq

/-- Defect of a recovery cause that the response count cannot support. -/
def rejectionCycleConsistency (recoveryCause : PlannedAttemptResultRecoveryCause)
    (responseCount : PlannedAttemptResultResponseCount) : Option String :=
  if recoveryCause = .correctionExhausted ∧ responseCount ≠ .three then
    some "Correction exhaustion requires all three responses"
  else if recoveryCause = .deadline ∧ responseCount = .one then
    some "Only an additional correction response has a deadline"
  else none

structure PlannedAttemptRejectedResult where
  reason : PlannedAttemptResultRejectionReason
  recoveryCause : PlannedAttemptResultRecoveryCause
  responseCount : PlannedAttemptResultResponseCount
  custody : PlannedAttemptRejectedResultCustody
  consistent : rejectionCycleConsistency recoveryCause responseCount = none
deriving DecidableEq

inductive PlannedAttemptExecutorReport where
  | executing (correlation : PlannedAttemptExecutorCorrelation)
  | safelySuspended (correlation : PlannedAttemptExecutorCorrelation)
  | resultRejected (correlation : PlannedAttemptExecutorCorrelation)
      (rejection : PlannedAttemptRejectedResult)
  | terminal (correlation : PlannedAttemptExecutorCorrelation)
      (result : PlannedAttemptExecutorResult)
deriving DecidableEq

namespace PlannedAttemptExecutorReport

def correlation : PlannedAttemptExecutorReport → PlannedAttemptExecutorCorrelation
  | executing correlation => correlation
  | safelySuspended correlation => correlation
  | resultRejected correlation _ => correlation
  | terminal correlation _ => correlation

def isExecuting : PlannedAttemptExecutorReport → Bool
  | executing _ => true
  | _ => false

def isSafelySuspended : PlannedAttemptExecutorReport → Bool
  | safelySuspended _ => true
  | _ => false

def isResultRejected : PlannedAttemptExecutorReport → Bool
  | resultRejected _ _ => true
  | _ => false

def isTerminal : PlannedAttemptExecutorReport → Bool
  | terminal _ _ => true
  | _ => false

end PlannedAttemptExecutorReport

def samePlannedAttemptExecutorReport (left right : PlannedAttemptExecutorReport) : Bool :=
  left = right

structure PlannedAttemptResultRecoveryAuthorization where
  nonce : String
  correlation : PlannedAttemptExecutorCorrelation
deriving DecidableEq

/-- One protected branch of one repository. -/
structure IntegrationTarget where
  repository : String
  ref : String
deriving DecidableEq

end Dalph
