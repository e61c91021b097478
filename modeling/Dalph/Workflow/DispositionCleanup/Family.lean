import Dalph.Workflow.Integrator

/-!
# Disposition cleanup: families

A terminal disposition makes a worktree, its branch or an Integrator candidate disposable.  The three
cleanups share one protocol; a family says what its authorizations, observations and results are and
how it reads them.
-/

namespace Dalph

/-- The three kinds of disposable resources. -/
inductive CleanupKind where
  | worktree
  | branch
  | integratorCandidate
deriving DecidableEq

/-- The maximum number of destructive requests one exact cleanup authorization may issue. -/
def cleanupMutationRequestLimit : Nat := 3

inductive PlannedAttemptCleanupDisposition where
  | abandoned (dispositionAt : JournalPosition) (plannedAttempt : PlannedTaskAttempt)
      (requestId : String)
  | settled (dispositionAt : JournalPosition) (plannedAttempt : PlannedTaskAttempt)
      (settlementOperationId : OperationId)
  | superseded (dispositionAt : JournalPosition) (plannedAttempt successorAttempt : PlannedTaskAttempt)
deriving DecidableEq

def PlannedAttemptCleanupDisposition.plannedAttempt :
    PlannedAttemptCleanupDisposition → PlannedTaskAttempt
  | abandoned _ plannedAttempt _ | settled _ plannedAttempt _ | superseded _ plannedAttempt _ =>
      plannedAttempt

inductive IntegratorCandidateCleanupAuthorizationDisposition where
  | superseded (directionAppliedAt dispositionAt : JournalPosition)
      (predecessor successor : IntegratorSessionCorrelation)
  | automaticSuccessorSuperseded (authorizationAt dispositionAt : JournalPosition)
      (predecessor successor : IntegratorSessionCorrelation)
  | settled (dispositionAt : JournalPosition) (qualifiedCandidate : IntegratorRunQualifiedCandidate)
      (settlementOperationId : OperationId)
deriving DecidableEq

def integratorCandidateCleanupSessionOf :
    IntegratorCandidateCleanupAuthorizationDisposition → IntegratorSessionCorrelation
  | .superseded _ _ predecessor _ | .automaticSuccessorSuperseded _ _ predecessor _ => predecessor
  | .settled _ qualifiedCandidate _ => qualifiedCandidate.run.session

structure WorktreeCleanupOwner where
  attemptId : AttemptId
  branch : String
deriving DecidableEq

/-- A worktree authorization names only the planned attempt's own locator and owner. -/
structure WorktreeCleanupAuthorization where
  causalPredecessors : List OperationId
  disposition : PlannedAttemptCleanupDisposition
  evidenceRevision : Nat
  expectedHead : GitCommitSha
  locator : String
  observationAt : JournalPosition
  observationOperationId : OperationId
  operationId : OperationId
  owner : WorktreeCleanupOwner
  bound : locator = disposition.plannedAttempt.worktree ∧
    owner = ⟨disposition.plannedAttempt.attemptId, disposition.plannedAttempt.branch⟩
deriving DecidableEq

/-- A branch authorization names the worktree cleanup that has to settle first. -/
structure BranchCleanupAuthorization where
  causalPredecessors : List OperationId
  disposition : PlannedAttemptCleanupDisposition
  evidenceRevision : Nat
  expectedHead : GitCommitSha
  locator : String
  observationAt : JournalPosition
  observationOperationId : OperationId
  operationId : OperationId
  /-- The owning attempt. -/
  owner : AttemptId
  worktreeCleanupOperationId : OperationId
  bound : locator = disposition.plannedAttempt.branch ∧
    owner = disposition.plannedAttempt.attemptId
deriving DecidableEq

/-- A candidate authorization names only the resource of the disposable session. -/
structure IntegratorCandidateCleanupAuthorization where
  causalPredecessors : List OperationId
  disposition : IntegratorCandidateCleanupAuthorizationDisposition
  evidenceRevision : Nat
  locator : String
  observationAt : JournalPosition
  observationOperationId : OperationId
  operationId : OperationId
  /-- The owning session. -/
  owner : String
  bound : locator = (integratorCandidateCleanupSessionOf disposition).candidateResource ∧
    owner = (integratorCandidateCleanupSessionOf disposition).sessionId
deriving DecidableEq

inductive ForeignWorktreeReason where
  | otherBranch
  | otherOwner
  | movedRegistration
deriving DecidableEq

/-- Fresh Git evidence for the worktree named by one authorization. -/
inductive WorktreeCleanupObservation where
  | present (attemptId : AttemptId) (branch : String) (headSha : GitCommitSha) (locator : String)
      (revision : Nat)
  | absent (locator : String) (revision : Nat)
  | foreign (locator observedBranch : String) (observedHead : GitCommitSha)
      (reason : ForeignWorktreeReason) (revision : Nat)
  | unregistered (locator : String) (revision : Nat)
  | unreadable (detail locator : String)
deriving DecidableEq

inductive ForeignBranchReason where
  | differentHead
  | registeredWorktree
  | otherOwner
deriving DecidableEq

/-- Fresh Git facts for the planned branch after its worktree settled. -/
inductive BranchCleanupObservation where
  | present (branch : String) (headSha : GitCommitSha) (registeredWorktree : Option String)
      (revision : Nat)
  | absent (branch : String) (revision : Nat)
  | foreign (branch : String) (observedHead : GitCommitSha) (observedWorktree : String)
      (reason : ForeignBranchReason) (revision : Nat)
  | unreadable (branch detail : String)
deriving DecidableEq

/-- Why a candidate resource is not the authorized one. -/
inductive ForeignCandidateReason where
  | liveWriter
  | otherSession
  | transferred
deriving DecidableEq

inductive IntegratorCandidateCleanupObservation where
  | present (locator : String) (revision : Nat) (sessionId : String)
  | absent (locator : String) (revision : Nat)
  | foreign (locator observedSessionId : String) (reason : ForeignCandidateReason) (revision : Nat)
  | unreadable (detail locator : String)
deriving DecidableEq

inductive WorktreeCleanupMutationResult where
  | removed (branch locator : String) (revision : Nat)
  | alreadyAbsent (branch locator : String) (revision : Nat)
  | definitelyNotApplied (branch detail locator : String)
  | unknown (branch detail locator : String)
deriving DecidableEq

inductive BranchCleanupMutationResult where
  | removed (branch : String) (revision : Nat)
  | alreadyAbsent (branch : String) (revision : Nat)
  | definitelyNotApplied (branch detail : String)
  | unknown (branch detail : String)
deriving DecidableEq

inductive IntegratorCandidateCleanupMutationResult where
  | removed (locator : String) (revision : Nat) (sessionId : String)
  | alreadyAbsent (locator : String) (revision : Nat) (sessionId : String)
  | definitelyNotApplied (detail locator sessionId : String)
  | unknown (detail locator sessionId : String)
deriving DecidableEq

namespace CleanupKind

@[reducible]
def Authorization : CleanupKind → Type
  | worktree => WorktreeCleanupAuthorization
  | branch => BranchCleanupAuthorization
  | integratorCandidate => IntegratorCandidateCleanupAuthorization

@[reducible]
def Observation : CleanupKind → Type
  | worktree => WorktreeCleanupObservation
  | branch => BranchCleanupObservation
  | integratorCandidate => IntegratorCandidateCleanupObservation

@[reducible]
def Result : CleanupKind → Type
  | worktree => WorktreeCleanupMutationResult
  | branch => BranchCleanupMutationResult
  | integratorCandidate => IntegratorCandidateCleanupMutationResult

instance : (kind : CleanupKind) → DecidableEq kind.Authorization
  | worktree => inferInstanceAs (DecidableEq WorktreeCleanupAuthorization)
  | branch => inferInstanceAs (DecidableEq BranchCleanupAuthorization)
  | integratorCandidate => inferInstanceAs (DecidableEq IntegratorCandidateCleanupAuthorization)

instance : (kind : CleanupKind) → DecidableEq kind.Observation
  | worktree => inferInstanceAs (DecidableEq WorktreeCleanupObservation)
  | branch => inferInstanceAs (DecidableEq BranchCleanupObservation)
  | integratorCandidate => inferInstanceAs (DecidableEq IntegratorCandidateCleanupObservation)

instance : (kind : CleanupKind) → DecidableEq kind.Result
  | worktree => inferInstanceAs (DecidableEq WorktreeCleanupMutationResult)
  | branch => inferInstanceAs (DecidableEq BranchCleanupMutationResult)
  | integratorCandidate => inferInstanceAs (DecidableEq IntegratorCandidateCleanupMutationResult)

def operationId : {kind : CleanupKind} → kind.Authorization → OperationId
  | worktree, authorization => WorktreeCleanupAuthorization.operationId authorization
  | branch, authorization => BranchCleanupAuthorization.operationId authorization
  | integratorCandidate, authorization =>
      IntegratorCandidateCleanupAuthorization.operationId authorization

def isPresent : {kind : CleanupKind} → kind.Observation → Bool
  | worktree, .present .. | branch, .present .. | integratorCandidate, .present .. => true
  | _, _ => false

def absentRevision? : {kind : CleanupKind} → kind.Observation → Option Nat
  | worktree, .absent _ revision | branch, .absent _ revision
  | integratorCandidate, .absent _ revision => some revision
  | _, _ => none

def observationHasAuthorizedLocator :
    {kind : CleanupKind} → kind.Observation → kind.Authorization → Bool
  | worktree, .present _ _ _ locator _, authorization | worktree, .absent locator _, authorization
  | worktree, .foreign locator .., authorization | worktree, .unregistered locator _, authorization
  | worktree, .unreadable _ locator, authorization =>
      locator = WorktreeCleanupAuthorization.locator authorization
  | branch, .present locator .., authorization | branch, .absent locator _, authorization
  | branch, .foreign locator .., authorization | branch, .unreadable locator _, authorization =>
      locator = BranchCleanupAuthorization.locator authorization
  | integratorCandidate, .present locator .., authorization
  | integratorCandidate, .absent locator _, authorization
  | integratorCandidate, .foreign locator .., authorization
  | integratorCandidate, .unreadable _ locator, authorization =>
      locator = IntegratorCandidateCleanupAuthorization.locator authorization

/-- The observation that shows exactly the authorized resource. -/
def authorizedPresent : {kind : CleanupKind} → kind.Authorization → kind.Observation
  | worktree, authorization =>
      let worktreeAuthorization : WorktreeCleanupAuthorization := authorization
      .present worktreeAuthorization.owner.attemptId worktreeAuthorization.owner.branch
        worktreeAuthorization.expectedHead worktreeAuthorization.locator
        worktreeAuthorization.evidenceRevision
  | branch, authorization =>
      let branchAuthorization : BranchCleanupAuthorization := authorization
      .present branchAuthorization.locator branchAuthorization.expectedHead none
        branchAuthorization.evidenceRevision
  | integratorCandidate, authorization =>
      let candidateAuthorization : IntegratorCandidateCleanupAuthorization := authorization
      .present candidateAuthorization.locator candidateAuthorization.evidenceRevision
        candidateAuthorization.owner

def resultMatchesAuthorization : {kind : CleanupKind} → kind.Result → kind.Authorization → Bool
  | worktree, .removed resultBranch locator _, authorization
  | worktree, .alreadyAbsent resultBranch locator _, authorization
  | worktree, .definitelyNotApplied resultBranch _ locator, authorization
  | worktree, .unknown resultBranch _ locator, authorization =>
      let worktreeAuthorization : WorktreeCleanupAuthorization := authorization
      locator = worktreeAuthorization.locator && resultBranch = worktreeAuthorization.owner.branch
  | branch, .removed resultBranch _, authorization
  | branch, .alreadyAbsent resultBranch _, authorization
  | branch, .definitelyNotApplied resultBranch _, authorization
  | branch, .unknown resultBranch _, authorization =>
      resultBranch = BranchCleanupAuthorization.locator authorization
  | integratorCandidate, .removed locator _ sessionId, authorization
  | integratorCandidate, .alreadyAbsent locator _ sessionId, authorization
  | integratorCandidate, .definitelyNotApplied _ locator sessionId, authorization
  | integratorCandidate, .unknown _ locator sessionId, authorization =>
      let candidateAuthorization : IntegratorCandidateCleanupAuthorization := authorization
      locator = candidateAuthorization.locator && sessionId = candidateAuthorization.owner

def appliedRevision? : {kind : CleanupKind} → kind.Result → Option Nat
  | worktree, .removed _ _ revision | worktree, .alreadyAbsent _ _ revision
  | branch, .removed _ revision | branch, .alreadyAbsent _ revision
  | integratorCandidate, .removed _ revision _
  | integratorCandidate, .alreadyAbsent _ revision _ => some revision
  | _, _ => none

def unappliedReason : {kind : CleanupKind} → kind.Result → String
  | worktree, .unknown .. => "worktree remove response was lost"
  | worktree, .definitelyNotApplied _ detail _ | branch, .definitelyNotApplied _ detail
  | branch, .unknown _ detail | integratorCandidate, .definitelyNotApplied detail _ _
  | integratorCandidate, .unknown detail _ _ => detail
  | _, _ => ""

def alreadyAbsent : {kind : CleanupKind} → kind.Authorization → Nat → kind.Result
  | worktree, authorization, revision =>
      let worktreeAuthorization : WorktreeCleanupAuthorization := authorization
      .alreadyAbsent worktreeAuthorization.owner.branch worktreeAuthorization.locator revision
  | branch, authorization, revision =>
      .alreadyAbsent (BranchCleanupAuthorization.locator authorization) revision
  | integratorCandidate, authorization, revision =>
      let candidateAuthorization : IntegratorCandidateCleanupAuthorization := authorization
      .alreadyAbsent candidateAuthorization.locator revision candidateAuthorization.owner

end CleanupKind

inductive CleanupReading where
  | absent (revision : Nat)
  | present
  | pending (reason : String)
  | contradicted (detail reason : String)
deriving DecidableEq

def observationReportsLiveWriter (observation : IntegratorCandidateCleanupObservation)
    (authorization : IntegratorCandidateCleanupAuthorization) : Bool :=
  match observation with
  | .foreign _ observedSessionId .liveWriter _ => observedSessionId = authorization.owner
  | _ => false

/-- A different owner or resource, or a stale private revision. -/
def observationProvesContradiction (observation : IntegratorCandidateCleanupObservation)
    (authorization : IntegratorCandidateCleanupAuthorization) : Bool :=
  match observation with
  | .foreign locator .. => locator ≠ authorization.locator ||
      !observationReportsLiveWriter observation authorization
  | .present locator revision _ =>
      locator ≠ authorization.locator || revision ≠ authorization.evidenceRevision
  | .absent locator _ | .unreadable _ locator => locator ≠ authorization.locator

namespace CleanupKind

def contradictionDetail : {kind : CleanupKind} → kind.Observation → String
  | worktree, .unreadable detail _ | branch, .unreadable _ detail => detail
  | worktree, _ => "fresh Git facts do not match the authorization"
  | branch, _ => "fresh branch facts do not match authorization"
  | integratorCandidate, _ => "candidate ownership or revision changed"

def contradictionReason : CleanupKind → String
  | worktree => "fresh Git facts contradicted authorization"
  | branch => "fresh branch facts contradicted authorization"
  | integratorCandidate => "fresh candidate facts contradicted authorization"

/-- What the first observation of a call means, the absence of the authorized resource aside. -/
def readUnlessAbsent : {kind : CleanupKind} → kind.Authorization → kind.Observation → CleanupReading
  | integratorCandidate, _, .unreadable detail _ => .pending detail
  | integratorCandidate, authorization, observation =>
      if observationReportsLiveWriter observation authorization then
        .pending "provider still reports the authorized predecessor writer live"
      else if observationProvesContradiction observation authorization then
        .contradicted (contradictionDetail observation) (contradictionReason integratorCandidate)
      else .present
  | kind, authorization, observation =>
      -- Git-backed families compare the whole observation.
      if observation = authorizedPresent authorization then .present
      else .contradicted (contradictionDetail observation) kind.contradictionReason

/-- What the observation after an applied removal means, the confirmed absence aside. -/
def readUnlessConfirmed :
    {kind : CleanupKind} → kind.Authorization → kind.Observation → CleanupReading
  | worktree, _, _ =>
      .contradicted "worktree mutation did not receive a fresh authorized absence proof"
        "worktree mutation was not followed by a fresh authorized absence"
  | branch, _, _ =>
      .contradicted "branch mutation did not receive a fresh authorized absence proof"
        "branch mutation was not followed by a fresh authorized absence"
  | integratorCandidate, _, .unreadable detail _ => .pending detail
  | integratorCandidate, authorization, observation =>
      if observationProvesContradiction observation authorization then
        .contradicted "candidate mutation did not receive a fresh authorized absence proof"
          "candidate mutation was contradicted by fresh foreign or stale evidence"
      else .pending "candidate mutation remains unresolved while the exact resource is still present"

/-- An observation of a call; the one after an applied removal confirms the removal. -/
def read {kind : CleanupKind} (authorization : kind.Authorization) (afterRemoval : Bool)
    (observation : kind.Observation) : CleanupReading :=
  match absentRevision? observation, observationHasAuthorizedLocator observation authorization with
  | some revision, true => .absent revision
  | _, _ =>
      if afterRemoval then readUnlessConfirmed authorization observation
      else readUnlessAbsent authorization observation

def exhaustedReason : CleanupKind → String
  | worktree => "bounded worktree cleanup requests exhausted"
  | branch => "bounded branch deletion requests exhausted"
  | integratorCandidate => "bounded candidate deletion requests exhausted"

/-- Detail and reason for a result of another resource. -/
def mismatchTexts : CleanupKind → String × String
  | worktree => ("worktree mutation response identified a different locator or owning branch",
      "worktree mutation response contradicted authorization")
  | branch => ("branch mutation response identified a different branch",
      "branch mutation response contradicted authorization")
  | integratorCandidate => ("candidate mutation response identified a different resource or session",
      "candidate mutation response contradicted authorization")

/-- Detail and reason for a result of another revision than the absence. -/
def staleTexts : CleanupKind → String × String
  | worktree => ("worktree mutation result revision did not match the latest absence observation",
      "worktree mutation result was stale relative to the latest absence proof")
  | branch => ("branch mutation result revision did not match the latest absence observation",
      "branch mutation result was stale relative to the latest absence proof")
  | integratorCandidate =>
      ("candidate mutation result revision did not match the latest absence observation",
        "candidate mutation result was stale relative to the latest absence proof")

/-- Reason for a journaled authorization that differs; candidates leave it to the history. -/
def differingAuthorizationReason : CleanupKind → Option String
  | worktree => some "journaled worktree authorization differs from the requested authorization"
  | branch => some "journaled branch authorization differs from the requested authorization"
  | integratorCandidate => none

end CleanupKind

namespace CleanupKind

variable {kind : CleanupKind} {authorization : kind.Authorization}
  {observation : kind.Observation}

theorem readUnlessConfirmed_cases (authorization : kind.Authorization)
    (observation : kind.Observation) :
    (∃ detail reason, readUnlessConfirmed authorization observation = .contradicted detail reason) ∨
      ∃ reason, readUnlessConfirmed authorization observation = .pending reason := by
  cases kind with
  | worktree => exact .inl ⟨_, _, rfl⟩
  | branch => exact .inl ⟨_, _, rfl⟩
  | integratorCandidate =>
      cases observation with
      | unreadable detail locator => exact .inr ⟨_, rfl⟩
      | present _ _ _ | absent _ _ | foreign _ _ _ _ =>
          simp only [readUnlessConfirmed]
          split
          · exact .inl ⟨_, _, rfl⟩
          · exact .inr ⟨_, rfl⟩

theorem readUnlessAbsent_ne_absent (authorization : kind.Authorization)
    (observation : kind.Observation) (revision : Nat) :
    readUnlessAbsent authorization observation ≠ .absent revision := by
  cases kind with
  | worktree | branch =>
      simp only [readUnlessAbsent]
      split <;> exact CleanupReading.noConfusion
  | integratorCandidate =>
      cases observation with
      | unreadable detail locator => exact CleanupReading.noConfusion
      | present _ _ _ | absent _ _ | foreign _ _ _ _ =>
          simp only [readUnlessAbsent]
          split
          · exact CleanupReading.noConfusion
          · split <;> exact CleanupReading.noConfusion

variable {afterRemoval : Bool}

theorem absent_of_read {revision : Nat}
    (absent : read authorization afterRemoval observation = .absent revision) :
    absentRevision? observation = some revision ∧
      observationHasAuthorizedLocator observation authorization = true := by
  unfold read at absent
  split at absent
  · rename_i found located
    cases absent
    exact ⟨found, located⟩
  · split at absent
    · rcases readUnlessConfirmed_cases authorization observation with ⟨_, _, other⟩ | ⟨_, other⟩ <;>
        cases other.symm.trans absent
    · exact absurd absent (readUnlessAbsent_ne_absent authorization observation revision)

theorem present_of_read (present : read authorization afterRemoval observation = .present) :
    afterRemoval = false ∧ readUnlessAbsent authorization observation = .present ∧
      ((absentRevision? observation).isSome →
        observationHasAuthorizedLocator observation authorization = false) := by
  unfold read at present
  split at present
  · cases present
  · rename_i notAbsent
    split at present
    · rcases readUnlessConfirmed_cases authorization observation with ⟨_, _, other⟩ | ⟨_, other⟩ <;>
        cases other.symm.trans present
    · rename_i first
      refine ⟨by simpa using first, present, fun absent => ?_⟩
      obtain ⟨revision, found⟩ := Option.isSome_iff_exists.mp absent
      rw [Bool.eq_false_iff]
      exact notAbsent revision found

theorem authorizedPresent_of_read (gitBacked : kind ≠ .integratorCandidate)
    (present : read authorization afterRemoval observation = .present) :
    observation = authorizedPresent authorization := by
  obtain ⟨-, present, -⟩ := present_of_read present
  cases kind with
  | worktree | branch =>
      simp only [readUnlessAbsent] at present
      split at present
      · rename_i same
        exact same
      · cases present
  | integratorCandidate => exact absurd rfl gitBacked

/-- A candidate is taken for present at the authorized locator and revision, whatever its session. -/
theorem candidatePresent_of_read {authorization : IntegratorCandidateCleanupAuthorization}
    {observation : IntegratorCandidateCleanupObservation}
    (present : @read .integratorCandidate authorization afterRemoval observation = .present) :
    ∃ sessionId,
      observation = .present authorization.locator authorization.evidenceRevision sessionId := by
  obtain ⟨-, present, located⟩ := present_of_read present
  cases observation with
  | unreadable detail locator => cases present
  | present locator revision sessionId =>
      simp only [readUnlessAbsent] at present
      split at present
      · cases present
      · split at present
        · cases present
        · rename_i consistent
          simp only [observationProvesContradiction, Bool.or_eq_true, decide_eq_true_eq, not_or,
            not_not] at consistent
          exact ⟨sessionId, by rw [consistent.1, consistent.2]⟩
  | absent locator revision =>
      simp only [readUnlessAbsent] at present
      split at present
      · cases present
      · split at present
        · cases present
        · rename_i consistent
          simp only [observationProvesContradiction, decide_eq_true_eq, not_not] at consistent
          have elsewhere := located rfl
          simp [observationHasAuthorizedLocator, consistent] at elsewhere
  | foreign locator observedSessionId reason revision =>
      simp only [readUnlessAbsent] at present
      split at present
      · cases present
      · rename_i notLive
        split at present
        · cases present
        · rename_i consistent
          simp [observationProvesContradiction, notLive] at consistent

theorem isPresent_authorizedPresent (authorization : kind.Authorization) :
    isPresent (authorizedPresent authorization) = true := by
  cases kind <;> rfl

theorem authorizedPresent_located (authorization : kind.Authorization) :
    observationHasAuthorizedLocator (authorizedPresent authorization) authorization = true := by
  cases kind <;> exact decide_eq_true rfl

theorem isPresent_of_read (present : read authorization afterRemoval observation = .present) :
    isPresent observation = true := by
  by_cases gitBacked : kind = .integratorCandidate
  · subst gitBacked
    obtain ⟨sessionId, rfl⟩ := candidatePresent_of_read present
    rfl
  · rw [authorizedPresent_of_read gitBacked present]
    exact isPresent_authorizedPresent authorization

@[simp]
theorem appliedRevision?_alreadyAbsent (authorization : kind.Authorization) (revision : Nat) :
    appliedRevision? (alreadyAbsent authorization revision) = some revision := by
  cases kind <;> rfl

@[simp]
theorem alreadyAbsent_matches (authorization : kind.Authorization) (revision : Nat) :
    resultMatchesAuthorization (alreadyAbsent authorization revision) authorization = true := by
  cases kind <;> simp [resultMatchesAuthorization, alreadyAbsent]

end CleanupKind

end Dalph
