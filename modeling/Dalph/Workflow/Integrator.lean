import Dalph.Contracts

/-!
# Integrator sessions and candidates

An accepted result is integrated by the runs of one session.  A candidate that Git qualified is bound
to the run that produced it; its parents are the head that the session expected and the accepted
commit.
-/

namespace Dalph

structure IntegrationResponsibilityIdentity where
  queuedAt : JournalPosition
  runId : RunId
deriving DecidableEq

structure IntegrationResponsibilityFacts where
  acceptedResult : AcceptedResult
  integrationTarget : IntegrationTarget
  plannedAttempt : PlannedTaskAttempt
deriving DecidableEq

/-- Exact accepted-result responsibility after the Integrator boundary began. -/
structure StartedIntegrationResponsibility extends IntegrationResponsibilityFacts where
  queuedAt : JournalPosition
  startedAt : JournalPosition
deriving DecidableEq

structure IntegratorSessionCorrelation extends StartedIntegrationResponsibility where
  candidateResource : String
  expectedTargetHead : GitCommitSha
  sessionId : String
  /-- Position of the durable lineage observation that supplied the expected head. -/
  targetLineageObservedAt : JournalPosition
deriving DecidableEq

/-- Exact identity of one outer-Integrator run, including its owning session. -/
structure IntegratorRunCorrelation where
  ordinal : Nat
  session : IntegratorSessionCorrelation
deriving DecidableEq

structure IntegratorRunQualifiedCandidate where
  candidateCommit : GitCommitSha
  candidateText : String
  directParents : GitCommitSha × GitCommitSha
  qualifiedAt : JournalPosition
  run : IntegratorRunCorrelation
  exactParents : directParents = (run.session.expectedTargetHead, run.session.acceptedResult.commit)
  qualifiedLater : run.session.targetLineageObservedAt < qualifiedAt
deriving DecidableEq

end Dalph
