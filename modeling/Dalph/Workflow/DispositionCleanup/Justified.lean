import Dalph.Workflow.DispositionCleanup.Reads

/-!
# Disposition cleanup: destructive requests

Whatever calls are made, whatever the boundaries answer and wherever the process crashes, a removal
is asked for only behind its own journaled intent, and the intent stands directly behind an
observation of the authorized resource.
-/

namespace Dalph

/-- The authorized resource was seen absent, and no removal was intended since. -/
def AbsentSinceRemoval {kind : CleanupKind} (authorization : kind.Authorization)
    (family : List (CleanupEvent kind)) : Prop :=
  ∃ before observation operationId ordinal after,
    family = before ++ .observed authorization observation operationId ordinal :: after ∧
      (CleanupKind.absentRevision? observation).isSome ∧
      CleanupKind.observationHasAuthorizedLocator observation authorization ∧
      ∀ event ∈ after, event.isMutationIntended = false

def CleanupRemoval.operation (removal : CleanupRemoval) : CleanupKind × OperationId :=
  (removal.kind, CleanupKind.operationId removal.authorization)

/-- A removal may be asked for. -/
structure RemovalJustified (state : CleanupMachine) (removal : CleanupRemoval) : Prop where
  /-- The intent is the operation's last record, and the one before it shows the exact resource. -/
  intended : ∃ before operationId ordinal, state.journal.operationRecords removal.kind
      (CleanupKind.operationId removal.authorization) =
    before ++ [.observed removal.authorization
        (CleanupKind.authorizedPresent removal.authorization) operationId ordinal,
      .mutationIntended removal.attempt removal.authorization
        (mutationOperationId removal.authorization removal.attempt)]
  own : ∀ earlier ∈ state.removals, earlier.operation = removal.operation →
    earlier.attempt ≠ removal.attempt
  open_ : ∀ event ∈ state.journal.operationRecords removal.kind
    (CleanupKind.operationId removal.authorization), event.isTerminal = false
  worktreeFirst : ∀ authorization : BranchCleanupAuthorization,
    removal = ⟨.branch, authorization, removal.attempt⟩ →
      settledWorktrees state.journal authorization.worktreeCleanupOperationId ≠ []

/-- What a step may do. -/
structure CleanupConforms (provenance : CleanupProvenance) (action : CleanupAction)
    (state : CleanupMachine) : Prop where
  removal : ∀ removal,
    (cleanupStep provenance action state).2.removals = state.removals ++ [removal] →
      RemovalJustified state removal
  limit : ∀ operation, ((cleanupStep provenance action state).2.removals.filter
    (·.operation = operation)).length ≤ cleanupMutationRequestLimit
  settlement : ∀ (kind : CleanupKind) (authorization : kind.Authorization) (result : kind.Result),
    (cleanupStep provenance action state).2.journal =
      state.journal ++ [.cleanup ⟨kind, .settled authorization result⟩] →
        AbsentSinceRemoval authorization
          (state.journal.operationRecords kind (CleanupKind.operationId authorization))
  silent : ∀ (kind : CleanupKind) (authorization : kind.Authorization),
    action = .run kind authorization →
      (∃ event ∈ state.journal.records kind,
        event.isTerminal ∧ event.authorization = authorization) →
        (cleanupStep provenance action state).2 = state

/-- A candidate's first read that shows the authorized locator and revision names the authorized
session. -/
def candidateSessionNamed (action : CleanupAction) (state : CleanupMachine) : Bool :=
  match action, state.call with
  | .observe .integratorCandidate (.present locator revision sessionId),
      some ⟨.integratorCandidate, authorization, .observing none _ _⟩ =>
      let candidateAuthorization : IntegratorCandidateCleanupAuthorization := authorization
      locator ≠ candidateAuthorization.locator ||
        revision ≠ candidateAuthorization.evidenceRevision ||
        sessionId = candidateAuthorization.owner
  | _, _ => true

/-- What a call in flight has established. -/
def PhaseJustified {kind : CleanupKind} (authorization : kind.Authorization)
    (family : List (CleanupEvent kind)) (removals : List CleanupRemoval) : CleanupPhase kind → Prop
  | .observing _ operationId ordinal => FreshRead family operationId ordinal
  | .recordingObservation removal operationId ordinal observation =>
      FreshRead family operationId ordinal ∧
        (removal = none → CleanupKind.read authorization false observation = .present →
          observation = CleanupKind.authorizedPresent authorization)
  | .intendingMutation attempt observation =>
      observation = CleanupKind.authorizedPresent authorization ∧
        (∃ before operationId ordinal,
          family = before ++ [.observed authorization observation operationId ordinal]) ∧
        attempt = family.countP (·.isMutationIntended) + 1 ∧ attempt ≤ cleanupMutationRequestLimit
  | .removing attempt observation =>
      observation = CleanupKind.authorizedPresent authorization ∧
        (∃ before operationId ordinal, family =
          before ++ [.observed authorization observation operationId ordinal,
            .mutationIntended attempt authorization (mutationOperationId authorization attempt)]) ∧
        attempt = family.countP (·.isMutationIntended) ∧ attempt ≤ cleanupMutationRequestLimit ∧
        ∀ removal ∈ removals, removal.operation = (kind, CleanupKind.operationId authorization) →
          removal.attempt < attempt
  | .confirmingAbsence .. | .settling _ => AbsentSinceRemoval authorization family
  | _ => True

/-- A call in flight works on an open operation and knows what its next request needs. -/
structure CallJustified (journal : CleanupJournal) (removals : List CleanupRemoval)
    (call : CleanupCall) : Prop where
  open_ : ∀ event ∈ journal.operationRecords call.kind
    (CleanupKind.operationId call.authorization), event.isTerminal = false
  matched : ObservedMatched (journal.operationRecords call.kind
    (CleanupKind.operationId call.authorization))
  phase : PhaseJustified call.authorization (journal.operationRecords call.kind
    (CleanupKind.operationId call.authorization)) removals call.phase
  worktreeFirst : ∀ authorization : BranchCleanupAuthorization, ∀ phase,
    call = ⟨.branch, authorization, phase⟩ →
      settledWorktrees journal authorization.worktreeCleanupOperationId ≠ []

/-- What holds between any two steps. -/
structure CleanupInvariant (state : CleanupMachine) : Prop where
  numbered : ∀ kind operationId, CleanupNumbered (state.journal.operationRecords kind operationId)
  counted : ∀ removal ∈ state.removals, 1 ≤ removal.attempt ∧
    removal.attempt ≤ cleanupMutationRequestLimit ∧
    removal.attempt ≤ (state.journal.operationRecords removal.operation.1
      removal.operation.2).countP (·.isMutationIntended)
  apart : state.removals.Pairwise fun earlier later =>
    earlier.operation = later.operation → earlier.attempt ≠ later.attempt
  call : ∀ call, state.call = some call → CallJustified state.journal state.removals call

section

variable {state : CleanupMachine}

theorem CleanupInvariant.withoutCall (invariant : CleanupInvariant state) (reads : Nat) :
    CleanupInvariant { state with call := none, reads } := by
  refine ⟨invariant.numbered, invariant.counted, invariant.apart, fun call impossible => ?_⟩
  cases impossible

theorem CleanupInvariant.withCall (invariant : CleanupInvariant state) (reads : Nat)
    {call : CleanupCall} (justified : CallJustified state.journal state.removals call) :
    CleanupInvariant { state with call := some call, reads } := by
  refine ⟨invariant.numbered, invariant.counted, invariant.apart, fun other same => ?_⟩
  cases same
  exact justified

theorem CleanupInvariant.append (invariant : CleanupInvariant state) {kind : CleanupKind}
    {event : CleanupEvent kind}
    (numbered : CleanupNumbered
      (state.journal.operationRecords kind event.cleanupOperationId ++ [event]))
    {call : Option CleanupCall}
    (justified : ∀ next, call = some next →
      CallJustified (state.journal ++ [.cleanup ⟨kind, event⟩]) state.removals next) :
    CleanupInvariant
      { state with journal := state.journal ++ [.cleanup ⟨kind, event⟩], call } := by
  have grown : ∀ other operationId,
      CleanupJournal.operationRecords (state.journal ++ [.cleanup ⟨kind, event⟩]) other operationId =
          state.journal.operationRecords other operationId ∨
        ∃ same : kind = other, event.cleanupOperationId = operationId ∧
          CleanupJournal.operationRecords (state.journal ++ [.cleanup ⟨kind, event⟩]) other
            operationId = state.journal.operationRecords other operationId ++ [same ▸ event] := by
    intro other operationId
    by_cases same : (kind, event.cleanupOperationId) = (other, operationId)
    · cases same
      exact .inr ⟨rfl, rfl, CleanupJournal.operationRecords_append_own _ event⟩
    · exact .inl (CleanupJournal.operationRecords_append_other same)
  refine ⟨fun other operationId => ?_, fun removal member => ?_, invariant.apart, justified⟩
  · rcases grown other operationId with unchanged | ⟨rfl, rfl, appended⟩
    · rw [unchanged]
      exact invariant.numbered other operationId
    · rw [appended]
      exact numbered
  · obtain ⟨positive, limited, bounded⟩ := invariant.counted removal member
    refine ⟨positive, limited, bounded.trans ?_⟩
    rcases grown removal.operation.1 removal.operation.2 with unchanged | ⟨same, -, appended⟩
    · rw [unchanged]
    · rw [appended, List.countP_append]
      exact Nat.le_add_right _ _

theorem CleanupInvariant.appendPayload (invariant : CleanupInvariant state) (payload : Payload) :
    CleanupInvariant { state with journal := state.journal ++ [.other payload] } := by
  refine ⟨fun kind operationId => ?_, fun removal member => ?_, invariant.apart, fun call same => ?_⟩
  · rw [CleanupJournal.operationRecords_append_payload]
    exact invariant.numbered kind operationId
  · rw [CleanupJournal.operationRecords_append_payload]
    exact invariant.counted removal member
  · obtain ⟨open_, matched, phase, worktreeFirst⟩ := invariant.call call same
    refine ⟨?_, ?_, ?_, fun authorization phase own => ?_⟩
    · rw [CleanupJournal.operationRecords_append_payload]
      exact open_
    · rw [CleanupJournal.operationRecords_append_payload]
      exact matched
    · rw [CleanupJournal.operationRecords_append_payload]
      exact phase
    · exact settledWorktrees_append (worktreeFirst authorization phase own) _

end

section

variable {kind : CleanupKind} {authorization : kind.Authorization} {journal : CleanupJournal}
  {removals : List CleanupRemoval} {phase : CleanupPhase kind}

theorem CallJustified.move (justified : CallJustified journal removals ⟨kind, authorization, phase⟩)
    {next : CleanupPhase kind} {asked : List CleanupRemoval}
    (phaseJustified : PhaseJustified authorization
      (journal.operationRecords kind (CleanupKind.operationId authorization)) asked next) :
    CallJustified journal asked ⟨kind, authorization, next⟩ := by
  refine ⟨justified.open_, justified.matched, phaseJustified, fun branchAuthorization other same => ?_⟩
  cases same
  exact justified.worktreeFirst branchAuthorization phase rfl

theorem CallJustified.append
    (justified : CallJustified journal removals ⟨kind, authorization, phase⟩)
    {event : CleanupEvent kind} (own : event.authorization = authorization)
    (continues : event.isTerminal = false)
    (answers : ∀ recorded observation operationId ordinal,
      event = .observed recorded observation operationId ordinal →
        ∃ recorded, CleanupEvent.observationIntended recorded operationId ordinal ∈
          journal.operationRecords kind (CleanupKind.operationId authorization))
    {next : CleanupPhase kind}
    (phaseJustified : PhaseJustified authorization
      (journal.operationRecords kind (CleanupKind.operationId authorization) ++ [event]) removals
      next) :
    CallJustified (journal ++ [.cleanup ⟨kind, event⟩]) removals ⟨kind, authorization, next⟩ := by
  have ofOperation : event.cleanupOperationId = CleanupKind.operationId authorization := by
    rw [CleanupEvent.cleanupOperationId, own]
  have grown := CleanupJournal.operationRecords_append_own journal event
  rw [ofOperation] at grown
  refine ⟨?_, ?_, ?_, fun branchAuthorization other same => ?_⟩
  · intro recorded member
    rw [grown, List.mem_append, List.mem_singleton] at member
    rcases member with member | rfl
    · exact justified.open_ recorded member
    · exact continues
  · rw [grown]
    exact justified.matched.append answers
  · rw [grown]
    exact phaseJustified
  · cases same
    exact settledWorktrees_append (justified.worktreeFirst branchAuthorization phase rfl) _

def StageJustified (authorization : kind.Authorization) (family : List (CleanupEvent kind))
    (removals : List CleanupRemoval) (stage : CleanupStage kind) : Prop :=
  ∀ next, stage = .underway next → PhaseJustified authorization family removals next

variable {observation : kind.Observation}

theorem stageJustified_afterObservation {records : List (CleanupEvent kind)}
    {removal : Option (Nat × kind.Result)} {operationId : OperationId} {ordinal : Nat}
    (exact_ : removal = none → CleanupKind.read authorization false observation = .present →
      observation = CleanupKind.authorizedPresent authorization) :
    StageJustified authorization (cleanupRecordsFor authorization records ++
        [.observed authorization observation operationId ordinal]) removals
      (afterObservation authorization records removal operationId ordinal observation) := by
  intro next underway
  unfold afterObservation at underway
  split at underway
  · rename_i revision absent
    obtain ⟨found, located⟩ := CleanupKind.absent_of_read absent
    unfold settleFromAbsence at underway
    split at underway <;> cases underway
    · exact ⟨_, observation, operationId, ordinal, [], rfl, by simp [found], located, by simp⟩
    · exact trivial
  · cases underway
    exact trivial
  · cases underway
  · rename_i present
    obtain ⟨first, -⟩ := CleanupKind.present_of_read present
    rw [first] at present
    split at underway
    · cases underway
    · rename_i allowed
      cases underway
      refine ⟨exact_ (by simpa using first) present, ⟨_, operationId, ordinal, rfl⟩, ?_, ?_⟩
      · simp [mutationIntentCount, List.countP_append, CleanupEvent.isMutationIntended]
      · omega

theorem stageJustified_intendingMutation {records : List (CleanupEvent kind)} {attempt : Nat}
    (ready : PhaseJustified authorization (cleanupRecordsFor authorization records) removals
      (.intendingMutation attempt observation))
    (counted : ∀ removal ∈ removals,
      removal.operation = (kind, CleanupKind.operationId authorization) →
        removal.attempt ≤ (cleanupRecordsFor authorization records).countP (·.isMutationIntended)) :
    PhaseJustified authorization (cleanupRecordsFor authorization records ++
        [.mutationIntended attempt authorization (mutationOperationId authorization attempt)])
      removals (.removing attempt observation) := by
  obtain ⟨exact_, ⟨before, operationId, ordinal, last⟩, next, allowed⟩ := ready
  refine ⟨exact_, ⟨before, operationId, ordinal, by rw [last]; simp⟩, ?_, allowed, ?_⟩
  · rw [List.countP_append, next]
    rfl
  · intro removal member same
    have bounded := counted removal member same
    omega

theorem AbsentSinceRemoval.append {family : List (CleanupEvent kind)}
    (absent : AbsentSinceRemoval authorization family) {event : CleanupEvent kind}
    (harmless : event.isMutationIntended = false) :
    AbsentSinceRemoval authorization (family ++ [event]) := by
  obtain ⟨before, observation, operationId, ordinal, after, rfl, absent, located, since⟩ := absent
  refine ⟨before, observation, operationId, ordinal, after ++ [event], by simp, absent, located, ?_⟩
  intro other member
  rw [List.mem_append, List.mem_singleton] at member
  rcases member with member | rfl
  · exact since other member
  · exact harmless

theorem stageJustified_afterResult {attempt : Nat} {result : kind.Result}
    (family : List (CleanupEvent kind)) :
    StageJustified authorization family removals
      (afterResult authorization attempt observation result) := by
  intro next underway
  unfold afterResult at underway
  split at underway
  · cases underway
    exact trivial
  · split at underway <;> cases underway
    exact trivial

variable (justified : CallJustified journal removals ⟨kind, authorization, phase⟩)
  (numbered : CleanupNumbered
    (journal.operationRecords kind (CleanupKind.operationId authorization)))
include justified numbered

theorem stageJustified_replayed
    (known : ∀ event, cleanupEventAt authorization (journal.records kind) phase = some event →
      event ∈ journal.records kind) :
    StageJustified authorization
      (journal.operationRecords kind (CleanupKind.operationId authorization)) removals
      (cleanupStageAfter authorization (journal.records kind) phase) := by
  intro next underway
  have ready : PhaseJustified authorization
    (journal.operationRecords kind (CleanupKind.operationId authorization)) removals phase :=
    justified.phase
  cases phase with
  | authorizing =>
      cases underway
      exact trivial
  | intendingObservation removal =>
      cases underway
      rcases freshRead_next numbered justified.matched with ⟨-, fresh⟩ | ⟨unrecorded, -, -⟩
      · exact fresh
      · have member := known _ (by simp only [cleanupEventAt, unrecorded]; rfl)
        have recorded : recordedUnder (journal.records kind) ⟨CleanupKind.operationId authorization,
            .observationIntended (nextObservation authorization (journal.records kind)).2⟩ = true :=
          recordedUnder_eq_true.mpr ⟨_, mem_cleanupRecordsFor.mpr ⟨member, rfl⟩, rfl⟩
        rw [unrecorded] at recorded
        cases recorded
  | observing removal operationId ordinal =>
      cases underway
      exact ready
  | recordingObservation removal operationId ordinal observation =>
      have member := known _ rfl
      exact absurd (mem_cleanupRecordsFor.mpr ⟨member, rfl⟩)
        (ready.1.unobserved authorization observation operationId)
  | intendingMutation attempt observation =>
      have member := known _ rfl
      have bounded := numbered.attempt_le (mem_cleanupRecordsFor.mpr ⟨member, rfl⟩)
      obtain ⟨-, -, number, -⟩ := ready
      omega
  | removing attempt observation =>
      cases underway
      exact ready
  | recordingResult attempt observation result =>
      exact stageJustified_afterResult _ next underway
  | contradicting observation operationId detail reason => cases underway
  | confirmingAbsence observation operationId ordinal result =>
      cases underway
      exact ready
  | settling result => cases underway

/-- A step whose record is written now leaves the numbers in order, answers its own read intent, and
gives the next phase what it relies on. -/
theorem stageJustified_appended
    (counted : ∀ removal ∈ removals,
      removal.operation = (kind, CleanupKind.operationId authorization) → removal.attempt ≤
        (journal.operationRecords kind (CleanupKind.operationId authorization)).countP
          (·.isMutationIntended)) {event : CleanupEvent kind}
    (written : cleanupEventAt authorization (journal.records kind) phase = some event) :
    CleanupNumbered
        (journal.operationRecords kind (CleanupKind.operationId authorization) ++ [event]) ∧
      (∀ recorded observation operationId ordinal,
        event = .observed recorded observation operationId ordinal →
          ∃ recorded, CleanupEvent.observationIntended recorded operationId ordinal ∈
            journal.operationRecords kind (CleanupKind.operationId authorization)) ∧
      ∀ next, cleanupStageAfter authorization (journal.records kind) phase = .underway next →
        event.isTerminal = false ∧ PhaseJustified authorization
          (journal.operationRecords kind (CleanupKind.operationId authorization) ++ [event]) removals
          next := by
  have ready := justified.phase
  cases phase with
  | authorizing =>
      cases written
      refine ⟨numbered.append_other ⟨rfl, rfl⟩, (fun _ _ _ _ impossible => by cases impossible),
        fun next underway => ?_⟩
      cases underway
      exact ⟨rfl, trivial⟩
  | intendingObservation removal =>
      simp only [cleanupEventAt] at written
      split at written
      · cases written
      · rename_i unrecorded
        cases written
        rcases freshRead_next numbered justified.matched with ⟨recorded, -⟩ | ⟨-, number, fresh⟩
        · exact absurd recorded unrecorded
        · refine ⟨numbered.append (fun _ impossible => by cases impossible) ?_,
            (fun _ _ _ _ impossible => by cases impossible), fun next underway => ?_⟩
          · intro taken same
            cases same
            exact number
          · cases underway
            exact ⟨rfl, fresh⟩
  | recordingObservation removal operationId ordinal observation =>
      cases written
      refine ⟨numbered.append_other ⟨rfl, rfl⟩, fun recorded _ _ _ same => ?_,
        fun next underway => ⟨rfl, ?_⟩⟩
      · cases same
        exact ready.1.intent
      · exact stageJustified_afterObservation ready.2 next underway
  | intendingMutation attempt observation =>
      cases written
      refine ⟨numbered.append ?_ (fun _ impossible => by cases impossible),
        (fun _ _ _ _ impossible => by cases impossible), fun next underway => ?_⟩
      · intro taken same
        cases same
        exact ready.2.2.1
      · cases underway
        exact ⟨rfl, stageJustified_intendingMutation ready counted⟩
  | recordingResult attempt observation result =>
      cases written
      refine ⟨numbered.append_other ⟨rfl, rfl⟩, (fun _ _ _ _ impossible => by cases impossible),
        fun next underway => ⟨rfl, ?_⟩⟩
      exact stageJustified_afterResult _ next underway
  | confirmingAbsence observation operationId ordinal result =>
      simp only [cleanupEventAt] at written
      split at written
      · cases written
      · cases written
        refine ⟨numbered.append_other ⟨rfl, rfl⟩,
          (fun _ _ _ _ impossible => by cases impossible), fun next underway => ?_⟩
        cases underway
        exact ⟨rfl, AbsentSinceRemoval.append ready rfl⟩
  | contradicting _ _ _ _ | settling _ =>
      simp only [cleanupEventAt] at written
      split at written
      · cases written
      · cases written
        refine ⟨numbered.append_other ⟨rfl, rfl⟩,
          (fun _ _ _ _ impossible => by cases impossible), fun next underway => ?_⟩
        cases underway
  | observing removal operationId ordinal => cases written
  | removing attempt observation => cases written

end

section

variable {state : CleanupMachine}

variable {kind : CleanupKind}

theorem callJustified_begun {provenance : CleanupProvenance} {authorization : kind.Authorization}
    {journal : CleanupJournal} {removals : List CleanupRemoval} {phase : CleanupPhase kind}
    (begun : beginCleanup authorization (journal.records kind)
      (cleanupBlocked provenance journal kind authorization) = .underway phase) :
    CallJustified journal removals ⟨kind, authorization, phase⟩ := by
  obtain ⟨admitted, valid, ⟨uncontradicted, unsettled⟩, first⟩ := beginCleanup_underway begun
  refine ⟨fun event member => ?_, fun recorded observation operationId ordinal member => ?_, ?_, ?_⟩
  · exact open_of_begun valid uncontradicted unsettled member
  · exact observed_of_cleanupHistory valid member
  · rcases first with ⟨rfl, -⟩ | ⟨rfl, -⟩ <;> exact trivial
  · intro branchAuthorization other same
    cases same
    exact settled_of_not_blocked admitted

theorem CleanupInvariant.withStage (invariant : CleanupInvariant state)
    {authorization : kind.Authorization} {stage : CleanupStage kind}
    (justified : ∀ next, stage = .underway next →
      CallJustified state.journal state.removals ⟨kind, authorization, next⟩) :
    CleanupInvariant { state with call := stage.call authorization } := by
  cases stage with
  | ended outcome => exact invariant.withoutCall state.reads
  | underway next => exact invariant.withCall state.reads (justified next rfl)

theorem invariant_proceed (invariant : CleanupInvariant state) {authorization : kind.Authorization}
    {phase : CleanupPhase kind} (inFlight : state.call = some ⟨kind, authorization, phase⟩) :
    CleanupInvariant { state with
      journal := (proceedCleanup authorization phase state.journal).2
      call := (proceedCleanup authorization phase state.journal).1.call authorization } := by
  have justified := invariant.call _ inFlight
  have numbered := invariant.numbered kind (CleanupKind.operationId authorization)
  rcases proceedCleanup_cases authorization phase state.journal with failed | ⟨replayed, known⟩ |
    ⟨event, written, -, appended⟩
  · rw [failed]
    exact invariant.withoutCall state.reads
  · rw [replayed]
    refine invariant.withStage fun next underway => justified.move ?_
    exact stageJustified_replayed justified numbered known next underway
  · rw [appended]
    have own := authorization_cleanupEventAt written
    have counted : ∀ removal ∈ state.removals,
        removal.operation = (kind, CleanupKind.operationId authorization) → removal.attempt ≤
          (state.journal.operationRecords kind (CleanupKind.operationId authorization)).countP
            (·.isMutationIntended) := by
      intro removal member same
      have bounded := (invariant.counted removal member).2.2
      rw [same] at bounded
      exact bounded
    obtain ⟨numberedNext, answers, ready⟩ := stageJustified_appended justified numbered counted written
    refine invariant.append ?_ fun next same => ?_
    · rw [CleanupEvent.cleanupOperationId, own]
      exact numberedNext
    · cases stage : cleanupStageAfter authorization (state.journal.records kind) phase with
      | ended outcome =>
          rw [stage] at same
          cases same
      | underway following =>
          rw [stage] at same
          cases same
          obtain ⟨continues, phaseJustified⟩ := ready following stage
          exact justified.append own continues answers phaseJustified

theorem authorizedPresent_of_named {authorization : kind.Authorization}
    {removal : Option (Nat × kind.Result)} {operationId : OperationId} {ordinal : Nat}
    {observation : kind.Observation}
    (inFlight : state.call = some ⟨kind, authorization, .observing removal operationId ordinal⟩)
    (named : candidateSessionNamed (.observe kind observation) state) (first : removal = none)
    (present : CleanupKind.read authorization false observation = .present) :
    observation = CleanupKind.authorizedPresent authorization := by
  by_cases gitBacked : kind = .integratorCandidate
  · subst gitBacked
    subst first
    obtain ⟨sessionId, rfl⟩ := CleanupKind.candidatePresent_of_read present
    have same : sessionId = IntegratorCandidateCleanupAuthorization.owner authorization := by
      simpa [candidateSessionNamed, inFlight] using named
    rw [same]
    rfl
  · exact CleanupKind.authorizedPresent_of_read gitBacked present

theorem invariant_observe (invariant : CleanupInvariant state) {observation : kind.Observation}
    {call next : CleanupCall} (inFlight : state.call = some call)
    (named : candidateSessionNamed (.observe kind observation) state)
    (answered : answerObservation call kind observation = some next) :
    CleanupInvariant { state with call := some next, reads := state.reads + 1 } := by
  obtain ⟨authorization, removal, operationId, ordinal, rfl, rfl⟩ :=
    answerObservation_eq_some answered
  have justified := invariant.call _ inFlight
  refine invariant.withCall _ (justified.move ⟨justified.phase, fun first present => ?_⟩)
  exact authorizedPresent_of_named inFlight named first present

theorem invariant_remove (invariant : CleanupInvariant state) {result : Option kind.Result}
    {call : CleanupCall} {attempt : Nat} {next : Option CleanupCall}
    (inFlight : state.call = some call)
    (answered : answerRemoval call kind result = some (attempt, next)) :
    CleanupInvariant { state with
      call := next
      removals := state.removals ++ [⟨call.kind, call.authorization, attempt⟩] } := by
  obtain ⟨authorization, observation, rfl, rfl⟩ := answerRemoval_eq_some answered
  have justified := invariant.call _ inFlight
  obtain ⟨-, ⟨before, operationId, ordinal, last⟩, number, allowed, later⟩ := justified.phase
  refine ⟨invariant.numbered, fun removal member => ?_, ?_, fun next same => ?_⟩
  · rw [List.mem_append, List.mem_singleton] at member
    rcases member with member | rfl
    · exact invariant.counted removal member
    · refine ⟨?_, allowed, number.le⟩
      rw [number, Nat.one_le_iff_ne_zero, ← Nat.pos_iff_ne_zero, List.countP_pos_iff]
      exact ⟨.mutationIntended attempt authorization (mutationOperationId authorization attempt),
        by rw [last]; simp, rfl⟩
  · rw [List.pairwise_append]
    refine ⟨invariant.apart, List.pairwise_singleton _ _, fun earlier member last lastMember same => ?_⟩
    rw [List.mem_singleton] at lastMember
    subst lastMember
    exact (later earlier member same).ne
  · cases result with
    | none => cases same
    | some answer =>
        cases same
        exact justified.move trivial

theorem cleanupInvariant_step (provenance : CleanupProvenance) (action : CleanupAction)
    (named : candidateSessionNamed action state) (invariant : CleanupInvariant state) :
    CleanupInvariant (cleanupStep provenance action state).2 := by
  cases inFlight : state.call with
  | none =>
      cases action with
      | run kind authorization =>
          simp only [cleanupStep, inFlight]
          exact invariant.withStage fun next underway => callJustified_begun underway
      | crash =>
          simp only [cleanupStep]
          exact invariant.withoutCall state.reads
      | otherAppend payload =>
          simp only [cleanupStep]
          exact invariant.appendPayload payload
      | proceed | observe _ _ | remove _ _ =>
          simp only [cleanupStep, inFlight]
          exact invariant
  | some call =>
      cases action with
      | run kind authorization =>
          simp only [cleanupStep, inFlight]
          exact invariant
      | crash =>
          simp only [cleanupStep]
          exact invariant.withoutCall state.reads
      | otherAppend payload =>
          simp only [cleanupStep]
          exact invariant.appendPayload payload
      | proceed =>
          simp only [cleanupStep, inFlight]
          exact invariant_proceed invariant inFlight
      | observe kind observation =>
          simp only [cleanupStep, inFlight]
          cases answered : answerObservation call kind observation with
          | none => exact invariant
          | some next => exact invariant_observe invariant inFlight named answered
      | remove kind result =>
          simp only [cleanupStep, inFlight]
          cases answered : answerRemoval call kind result with
          | none => exact invariant
          | some answer => exact invariant_remove invariant inFlight answered

theorem removals_cleanupStep (provenance : CleanupProvenance) (action : CleanupAction) :
    (cleanupStep provenance action state).2.removals = state.removals ∨
      ∃ kind authorization attempt observation,
        state.call = some ⟨kind, authorization, .removing attempt observation⟩ ∧
          (cleanupStep provenance action state).2.removals =
            state.removals ++ [⟨kind, authorization, attempt⟩] := by
  cases inFlight : state.call with
  | none => cases action <;> exact .inl (by simp only [cleanupStep, inFlight])
  | some call =>
      cases action with
      | remove kind result =>
          cases answered : answerRemoval call kind result with
          | none => exact .inl (by simp only [cleanupStep, inFlight, answered])
          | some answer =>
              obtain ⟨attempt, next⟩ := answer
              obtain ⟨authorization, observation, rfl, -⟩ := answerRemoval_eq_some answered
              refine .inr ⟨kind, authorization, attempt, observation, rfl, ?_⟩
              simp only [cleanupStep, inFlight, answered]
      | observe kind observation =>
          left
          simp only [cleanupStep, inFlight]
          split <;> rfl
      | run _ _ | proceed | crash | otherAppend _ =>
          exact .inl (by simp only [cleanupStep, inFlight])

theorem beginCleanup_ended {authorization : kind.Authorization} {records : List (CleanupEvent kind)}
    {blocked : Option String}
    (ended : ∃ event ∈ records, event.isTerminal ∧ event.authorization = authorization) :
    ∃ outcome, beginCleanup authorization records blocked = .ended outcome := by
  obtain ⟨event, member, terminal, own⟩ := ended
  cases begun : beginCleanup authorization records blocked with
  | ended outcome => exact ⟨outcome, rfl⟩
  | underway phase =>
      obtain ⟨-, valid, ⟨uncontradicted, unsettled⟩, -⟩ := beginCleanup_underway begun
      have ofOperation : event ∈ cleanupRecordsFor authorization records :=
        mem_cleanupRecordsFor.mpr ⟨member, by rw [CleanupEvent.cleanupOperationId, own]⟩
      have open_ := open_of_begun valid uncontradicted unsettled ofOperation
      rw [terminal] at open_
      cases open_

theorem CleanupInvariant.limit (invariant : CleanupInvariant state)
    (operation : CleanupKind × OperationId) :
    (state.removals.filter (·.operation = operation)).length ≤ cleanupMutationRequestLimit := by
  have distinct : ((state.removals.filter (·.operation = operation)).map (·.attempt)).Nodup := by
    rw [List.nodup_iff_pairwise_ne, List.pairwise_map, List.pairwise_filter]
    refine invariant.apart.imp fun apart ofEarlier ofLater => apart ?_
    rw [of_decide_eq_true ofEarlier, of_decide_eq_true ofLater]
  have bounded : (state.removals.filter (·.operation = operation)).map (·.attempt) ⊆
      List.range' 1 cleanupMutationRequestLimit := by
    intro attempt member
    obtain ⟨removal, found, rfl⟩ := List.mem_map.mp member
    obtain ⟨positive, limited, -⟩ := invariant.counted removal (List.mem_filter.mp found).1
    rw [List.mem_range'_1]
    omega
  have length := (List.subperm_of_subset distinct bounded).length_le
  simpa using length

theorem cleanupConforms_of_invariant (provenance : CleanupProvenance) (action : CleanupAction)
    (named : candidateSessionNamed action state) (invariant : CleanupInvariant state) :
    CleanupConforms provenance action state := by
  refine ⟨fun removal asked => ?_, (cleanupInvariant_step provenance action named invariant).limit,
    fun kind authorization result settled => ?_, fun kind authorization again ended => ?_⟩
  · rcases removals_cleanupStep provenance action with same | ⟨kind, authorization, attempt,
      observation, inFlight, grown⟩
    · rw [same] at asked
      simp at asked
    · rw [grown, List.append_cancel_left_eq, List.singleton_inj] at asked
      subst asked
      have justified := invariant.call _ inFlight
      obtain ⟨shown, last, -, -, later⟩ := justified.phase
      refine ⟨shown ▸ last, fun earlier member same => (later earlier member same).ne, justified.open_, ?_⟩
      intro branchAuthorization same
      cases same
      exact justified.worktreeFirst branchAuthorization _ rfl
  · obtain ⟨own, phase, inFlight, written⟩ := cleanupRecord_cleanupStep settled
    obtain ⟨rfl, rfl⟩ := settling_of_written written
    exact (invariant.call _ inFlight).phase
  · subst again
    cases inFlight : state.call with
    | some call => simp only [cleanupStep, inFlight]
    | none =>
        obtain ⟨outcome, begun⟩ := beginCleanup_ended ended
        simp only [cleanupStep, inFlight]
        rw [begun, CleanupStage.call, ← inFlight]

end

/-- From a journal whose intents are numbered without gaps, every removal of every run is justified
as long as the candidate reads name the authorized session. -/
theorem cleanup_removals_justified (provenance : CleanupProvenance) {journal : CleanupJournal}
    (numbered : ∀ kind operationId, CleanupNumbered (journal.operationRecords kind operationId))
    {actions : List CleanupAction}
    (named : Machine.Guarded (cleanupStep provenance)
      (fun action state => candidateSessionNamed action state) ⟨journal, none, [], 0⟩ actions) :
    Machine.Guarded (cleanupStep provenance) (CleanupConforms provenance) ⟨journal, none, [], 0⟩
      actions := by
  have start : CleanupInvariant ⟨journal, none, [], 0⟩ := by
    refine ⟨numbered, ?_, List.Pairwise.nil, ?_⟩
    · intro removal impossible
      cases impossible
    · intro call impossible
      cases impossible
  refine Machine.Guarded.weaken ?_ ?_ start named
  · intro action state guard invariant
    exact cleanupConforms_of_invariant provenance action guard invariant
  · intro action state guard invariant
    exact cleanupInvariant_step provenance action guard invariant

namespace ForeignSession

def plannedAttempt : PlannedTaskAttempt where
  attemptId := ⟨"attempt"⟩
  baseSha := ⟨"base"⟩
  branch := "refs/heads/task"
  executor := "executor"
  runId := ⟨"cleanup-run", by decide⟩
  taskId := ⟨"task"⟩
  taskRevision := ⟨"revision"⟩
  worktree := "/task"

def session (sessionId candidateResource : String) : IntegratorSessionCorrelation where
  acceptedResult := ⟨⟨"accepted"⟩, ⟨0, "evidence"⟩⟩
  integrationTarget := ⟨"/target", "refs/heads/main"⟩
  plannedAttempt := plannedAttempt
  queuedAt := 2
  startedAt := 3
  candidateResource := candidateResource
  expectedTargetHead := ⟨"expected"⟩
  sessionId := sessionId
  targetLineageObservedAt := 4

def authorization : IntegratorCandidateCleanupAuthorization where
  causalPredecessors := [⟨"observation"⟩]
  disposition := .superseded 8 9 (session "superseded" "resource") (session "successor" "other")
  evidenceRevision := 1
  locator := "resource"
  observationAt := 10
  observationOperationId := ⟨"observation"⟩
  operationId := ⟨"cleanup"⟩
  owner := "superseded"
  bound := ⟨rfl, rfl⟩

def removing (sessionId : String) : List CleanupAction :=
  [.run .integratorCandidate authorization, .proceed, .proceed,
    .observe .integratorCandidate (.present "resource" 1 sessionId), .proceed, .proceed]

def removed : CleanupAction :=
  .remove .integratorCandidate (some (.removed "resource" 2 "superseded"))

def intended : CleanupMachine :=
  (Machine.run (cleanupStep fun _ _ _ => none) ⟨[], none, [], 0⟩ (removing "successor")).2

/-- A candidate that another session owns by now is removed. -/
theorem foreign_session_removed :
    ¬ Machine.Guarded (cleanupStep fun _ _ _ => none) (CleanupConforms fun _ _ _ => none)
      ⟨[], none, [], 0⟩ (removing "successor" ++ [removed]) := by
  intro conforms
  have last : CleanupConforms (fun _ _ _ => none) removed intended :=
    (Machine.guarded_append.mp conforms).2.1
  have asked : (cleanupStep (fun _ _ _ => none) removed intended).2.removals =
      intended.removals ++ [⟨.integratorCandidate, authorization, 1⟩] := by
    rfl
  obtain ⟨before, operationId, ordinal, shown⟩ := (last.removal _ asked).intended
  have recorded : intended.journal.operationRecords .integratorCandidate ⟨"cleanup"⟩ =
      [.authorized authorization, .observationIntended authorization ⟨"cleanup:observe:1"⟩ 1] ++
        [.observed authorization (.present "resource" 1 "successor") ⟨"cleanup:observe:1"⟩ 1,
          .mutationIntended 1 authorization ⟨"cleanup:mutation:1"⟩] := by
    decide +kernel
  have same := List.append_inj_right' (recorded.symm.trans shown) rfl
  have observed := (CleanupEvent.observed.inj (List.cons.inj same).1).2.1
  exact absurd observed (by decide)

/-- The authorized session's candidate is removed, settled and left alone. -/
theorem authorized_session_removed :
    Machine.Guarded (cleanupStep fun _ _ _ => none) (CleanupConforms fun _ _ _ => none)
      ⟨[], none, [], 0⟩
      (removing "superseded" ++ [removed, .proceed, .proceed,
        .observe .integratorCandidate (.absent "resource" 2), .proceed, .proceed, .proceed,
        .run .integratorCandidate authorization]) := by
  refine cleanup_removals_justified (fun _ _ _ => none) (fun kind operationId => ⟨rfl, rfl⟩) ?_
  decide +kernel

end ForeignSession

end Dalph
