import Dalph.Workflow.EventObject
import Dalph.Workflow.Integrator

/-!
# Admission of integration

An accepted result begins one integration responsibility, and one later record starts it.  Both
events carry the plan, the result and the target; the start also names the position of its
responsibility.
-/

namespace Dalph

/-- The plan of a recorded value. -/
def plannedTaskAttempt? (value : Option Json) : Option PlannedTaskAttempt := do
  let runId ← text (field value "runId")
  if named : runId ≠ "" then
    some
      { attemptId := ← attemptId? (field value "attemptId")
        baseSha := ⟨← text (field value "baseSha")⟩
        branch := ← text (field value "branch")
        executor := ← text (field value "executor")
        runId := ⟨runId, named⟩
        taskId := ← taskId? (field value "taskId")
        taskRevision := ⟨← text (field value "taskRevision")⟩
        worktree := ← text (field value "worktree") }
  else none

def evidenceReference? (value : Option Json) : Option EvidenceReference := do
  let byteLength ← integer (field value "byteLength")
  some { byteLength := byteLength.toNat, digest := ← text (field value "digest") }

def acceptedResult? (value : Option Json) : Option AcceptedResult := do
  some
    { commit := ⟨← text (field value "commit")⟩
      evidenceManifest := ← evidenceReference? (field value "evidenceManifest") }

def integrationTarget? (value : Option Json) : Option IntegrationTarget := do
  some { repository := ← text (field value "repository"), ref := ← text (field value "ref") }

def integrationResponsibilityFacts? (value : Option Json) :
    Option IntegrationResponsibilityFacts := do
  some
    { acceptedResult := ← acceptedResult? (field value "acceptedResult")
      integrationTarget := ← integrationTarget? (field value "integrationTarget")
      plannedAttempt := ← plannedTaskAttempt? (field value "plannedAttempt") }

def journalPosition? (value : Option Json) : Option JournalPosition := do
  let position ← integer value
  if 1 ≤ position then some position.toNat else none

def integrationResponsibilityBegan? : WorkflowJournalEvent → Option IntegrationResponsibilityFacts
  | .protocol event =>
      if event.kind = .integrationResponsibilityBegan then
        integrationResponsibilityFacts? (some event.payload.object)
      else none
  | _ => none

/-- A started responsibility with the position of its beginning. -/
structure IntegrationStarted where
  facts : IntegrationResponsibilityFacts
  responsibilityBeganAt : JournalPosition
deriving DecidableEq

def integrationStarted? : WorkflowJournalEvent → Option IntegrationStarted
  | .protocol event =>
      if event.kind = .integrationStarted then do
        some
          { facts := ← integrationResponsibilityFacts? (some event.payload.object)
            responsibilityBeganAt :=
              ← journalPosition? (field (some event.payload.object) "responsibilityBeganAt") }
      else none
  | _ => none

def acceptedResultEquivalence (left right : AcceptedResult) : Bool :=
  left.commit = right.commit && left.evidenceManifest = right.evidenceManifest

def integrationResponsibilityEquivalence (left right : IntegrationResponsibilityFacts) : Bool :=
  plannedTaskAttemptEquivalence left.plannedAttempt right.plannedAttempt &&
    acceptedResultEquivalence left.acceptedResult right.acceptedResult &&
    left.integrationTarget.repository = right.integrationTarget.repository &&
    left.integrationTarget.ref = right.integrationTarget.ref

@[simp]
theorem integrationResponsibilityEquivalence_iff {left right : IntegrationResponsibilityFacts} :
    integrationResponsibilityEquivalence left right = true ↔ left = right := by
  obtain ⟨⟨commit, manifest⟩, ⟨repository, ref⟩, plan⟩ := left
  obtain ⟨⟨commit', manifest'⟩, ⟨repository', ref'⟩, plan'⟩ := right
  simp only [integrationResponsibilityEquivalence, plannedTaskAttemptEquivalence,
    acceptedResultEquivalence, Bool.and_eq_true, decide_eq_true_iff,
    IntegrationResponsibilityFacts.mk.injEq, AcceptedResult.mk.injEq, IntegrationTarget.mk.injEq]
  tauto

end Dalph
