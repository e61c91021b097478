import Dalph.Workflow.Event

/-!
# Replacement events

Two events supersede an attempt and record the plan of its successor.  Each is decoded only when it
passes the filter of its schema.
-/

namespace Dalph

def PlannedAttemptReplacementWitness.requiredPredecessors
    (witness : PlannedAttemptReplacementWitness) : List OperationId :=
  [witness.expectedClaim.operationId, witness.claimObservationOperationId,
    witness.graphObservationOperationId, witness.oldWorktreeObservationOperationId,
    witness.specificationObservationOperationId, witness.targetLineageObservationOperationId]

/-- The rules of a replacement, each with what it says when it is broken. -/
def replacementValidationRules (event : PlannedAttemptReplaced) : List (Bool × String) :=
  let prior := event.subject.plannedAttempt
  let successor := event.successorPlan.plannedAttempt
  let oldWorktree := event.witness.oldWorktreeProof
  [(successor.runId = prior.runId && successor.taskId = prior.taskId,
      "replacement successor must belong to the exact Run and task"),
    (successor.taskRevision = event.subject.observedTaskRevision,
      "replacement successor must bind the exact observed task fingerprint"),
    (successor.baseSha = event.witness.targetHeadSha,
      "replacement successor Base SHA must equal the recorded target head"),
    (successor.attemptId ≠ prior.attemptId && successor.branch ≠ prior.branch &&
        successor.worktree ≠ prior.worktree,
      "replacement successor must use a distinct attempt, branch, and worktree"),
    (oldWorktree.baseSha = prior.baseSha && oldWorktree.branch = prior.branch &&
        oldWorktree.worktree = prior.worktree,
      "replacement witness must prove the exact prior planned worktree ready"),
    (event.witness.expectedClaim.taskId = prior.taskId,
      "replacement witness claim must belong to the exact task"),
    (event.witness.requiredPredecessors.all fun operationId =>
        operationId ∈ event.successorPlan.predecessorOperationIds,
      ("replacement successor plan must causally name the retained claim and every fresh authority " ++
        "witness"))]

def invalidReplacement (event : PlannedAttemptReplaced) : Option String :=
  ((replacementValidationRules event).find? fun rule => !rule.1).map (·.2)

def PlannedAttemptContinuationWitness.reads (witness : PlannedAttemptContinuationWitness) :
    List OperationId :=
  [witness.graphObservationOperationId, witness.taskWorkSpecificationObservationOperationId,
    witness.taskClaimObservationOperationId, witness.worktreeObservationOperationId,
    witness.targetLineageObservationOperationId]

/-- The rules of a result replacement, each with what it says when it is broken. -/
def resultReplacementRules (event : ResultRecoveryAttemptReplaced) : List (Bool × String) :=
  let prior := event.subject.plannedAttempt
  let next := event.successorPlan.plannedAttempt
  [(event.writerCustody.all fun custody => plannedTaskAttemptEquivalence custody prior,
      "writer custody must name the exact retained predecessor plan"),
    (event.requestId.runId = prior.runId && next.runId = prior.runId &&
        next.taskId = prior.taskId,
      "result replacement must name one exact Run and task"),
    (next.attemptId ≠ prior.attemptId && next.branch ≠ prior.branch &&
        next.worktree ≠ prior.worktree,
      ("result replacement must preserve its predecessor and use a distinct attempt, branch and " ++
        "worktree")),
    (event.witness.reads.all fun operationId =>
        operationId ∈ event.successorPlan.predecessorOperationIds,
      "result replacement plan must name every fresh authority read")]

def invalidResultReplacement (event : ResultRecoveryAttemptReplaced) : Option String :=
  ((resultReplacementRules event).find? fun rule => !rule.1).map (·.2)

def invalidPlanEvent : WorkflowJournalEvent → Option String
  | .plannedAttemptReplaced event => invalidReplacement event
  | .resultRecoveryAttemptReplaced event => invalidResultReplacement event
  | _ => none

theorem rule_of_none {rules : List (Bool × String)}
    (accepted : (rules.find? fun rule => !rule.1).map (·.2) = none) {rule : Bool × String}
    (member : rule ∈ rules) : rule.1 = true := by
  have unbroken := List.find?_eq_none.mp (Option.map_eq_none_iff.mp accepted) rule member
  simpa using unbroken

theorem replacement_keeps_task {event : PlannedAttemptReplaced}
    (accepted : invalidReplacement event = none) :
    event.successorPlan.plannedAttempt.taskId = event.subject.plannedAttempt.taskId := by
  have rule := rule_of_none accepted (List.mem_cons_self)
  simp only [Bool.and_eq_true, decide_eq_true_iff] at rule
  exact rule.2

theorem resultReplacement_keeps_task {event : ResultRecoveryAttemptReplaced}
    (accepted : invalidResultReplacement event = none) :
    event.successorPlan.plannedAttempt.taskId = event.subject.plannedAttempt.taskId := by
  have rule := rule_of_none accepted (List.mem_cons_of_mem _ List.mem_cons_self)
  simp only [Bool.and_eq_true, decide_eq_true_iff] at rule
  exact rule.2

end Dalph
