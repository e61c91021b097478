import Dalph.Workflow.IntegrationAdmission
import Dalph.Workflow.TargetPromotion.State

/-!
# Recorded sessions and candidates

Sessions of the Integrator, their runs, the candidates that Git qualified and the promotions of these
candidates, read from recorded values.  A value that its schema refuses is read as nothing.
-/

namespace Dalph

def integratorSessionCorrelation? (value : Option Json) : Option IntegratorSessionCorrelation := do
  let facts ← integrationResponsibilityFacts? value
  some
    { facts with
      queuedAt := ← journalPosition? (field value "queuedAt")
      startedAt := ← journalPosition? (field value "startedAt")
      candidateResource := ← text (field value "candidateResource")
      expectedTargetHead := ⟨← text (field value "expectedTargetHead")⟩
      sessionId := ← text (field value "sessionId")
      targetLineageObservedAt := ← journalPosition? (field value "targetLineageObservedAt") }

def integratorRunCorrelation? (value : Option Json) : Option IntegratorRunCorrelation := do
  let ordinal ← journalPosition? (field value "ordinal")
  some { ordinal, session := ← integratorSessionCorrelation? (field value "session") }

def directParents? : Option Json → Option (GitCommitSha × GitCommitSha)
  | some (.arr [.str head, .str accepted]) => some (⟨head⟩, ⟨accepted⟩)
  | _ => none

def integratorRunQualifiedCandidate? (value : Option Json) :
    Option IntegratorRunQualifiedCandidate := do
  let run ← integratorRunCorrelation? (field value "run")
  let directParents ← directParents? (field value "directParents")
  let qualifiedAt ← journalPosition? (field value "qualifiedAt")
  let candidateCommit ← text (field value "candidateCommit")
  let candidateText ← text (field value "candidateText")
  if exact : directParents = (run.session.expectedTargetHead, run.session.acceptedResult.commit) ∧
      run.session.targetLineageObservedAt < qualifiedAt then
    some
      { candidateCommit := ⟨candidateCommit⟩
        candidateText
        directParents
        qualifiedAt
        run
        exactParents := exact.1
        qualifiedLater := exact.2 }
  else none

def targetPromotionOf? (candidate : IntegratorRunQualifiedCandidate) (requestId : String) :
    Option TargetPromotionCorrelation :=
  if derived : ⟨requestId⟩ = targetPromotionRequestIdForCandidate candidate then
    some { qualifiedCandidate := candidate, requestId := ⟨requestId⟩, derived }
  else none

def targetPromotionCorrelation? (value : Option Json) : Option TargetPromotionCorrelation := do
  targetPromotionOf? (← integratorRunQualifiedCandidate? (field value "qualifiedCandidate"))
    (← text (field value "requestId"))

section

variable {candidate : IntegratorRunQualifiedCandidate} {requestId : String} {value : Option Json}
  {correlation : TargetPromotionCorrelation}

end

end Dalph
