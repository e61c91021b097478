import Dalph.Foundation.Machine
import Dalph.Workflow.DispositionCleanup.History

/-!
# Disposition cleanup: runner

One call checks what the journal says of its authorization, reads the resource, journals a removal
intent, asks for the removal and reads again.  Every append and every boundary request is a step of
its own, and the process may crash between any two of them; the next call starts from the journal.
-/

namespace Dalph

structure CleanupRecord where
  kind : CleanupKind
  event : CleanupEvent kind

/-- The journal's events; every other kind is opaque to the cleanups. -/
inductive CleanupJournalEvent where
  | cleanup (record : CleanupRecord)
  | other (payload : Payload)

/-- Accepted events of one Run, in order. -/
abbrev CleanupJournal := List CleanupJournalEvent

def CleanupJournalEvent.of? (kind : CleanupKind) : CleanupJournalEvent → Option (CleanupEvent kind)
  | cleanup record => if same : record.kind = kind then some (same ▸ record.event) else none
  | other _ => none

def CleanupJournal.records (journal : CleanupJournal) (kind : CleanupKind) :
    List (CleanupEvent kind) :=
  journal.filterMap (·.of? kind)

section

variable {kind : CleanupKind}

def observationIntentCount (authorization : kind.Authorization) (records : List (CleanupEvent kind)) :
    Nat :=
  (cleanupRecordsFor authorization records).countP (·.isObservationIntended)

def mutationIntentCount (authorization : kind.Authorization) (records : List (CleanupEvent kind)) :
    Nat :=
  (cleanupRecordsFor authorization records).countP (·.isMutationIntended)

def CleanupEvent.observes (authorization : kind.Authorization) (operationId : OperationId)
    (ordinal : Nat) : CleanupEvent kind → Bool
  | observed recorded _ recordedOperationId recordedOrdinal =>
      CleanupKind.operationId recorded = CleanupKind.operationId authorization &&
        recordedOperationId = operationId && recordedOrdinal = ordinal
  | _ => false

def CleanupEvent.unmatchedIntent? (authorization : kind.Authorization)
    (records : List (CleanupEvent kind)) : CleanupEvent kind → Option (OperationId × Nat)
  | observationIntended recorded operationId ordinal =>
      if recorded = authorization ∧ ¬ records.any (·.observes authorization operationId ordinal) then
        some (operationId, ordinal)
      else none
  | _ => none

def unmatchedObservationIntent (authorization : kind.Authorization)
    (records : List (CleanupEvent kind)) : Option (OperationId × Nat) :=
  records.findSome? (·.unmatchedIntent? authorization records)

def nextObservation (authorization : kind.Authorization) (records : List (CleanupEvent kind)) :
    OperationId × Nat :=
  (unmatchedObservationIntent authorization records).getD
    (⟨s!"{(CleanupKind.operationId authorization).value}:observe:" ++
        toString (observationIntentCount authorization records + 1)⟩,
      observationIntentCount authorization records + 1)

def mutationOperationId (authorization : kind.Authorization) (attempt : Nat) : OperationId :=
  ⟨s!"{(CleanupKind.operationId authorization).value}:mutation:{attempt}"⟩

def CleanupEvent.contradiction? (authorization : kind.Authorization) : CleanupEvent kind → Option String
  | contradicted recorded detail _ _ => if recorded = authorization then some detail else none
  | _ => none

def CleanupEvent.settlement? (authorization : kind.Authorization) :
    CleanupEvent kind → Option kind.Result
  | settled recorded result => if recorded = authorization then some result else none
  | _ => none

def existingAuthorization (authorization : kind.Authorization) (records : List (CleanupEvent kind)) :
    Option kind.Authorization :=
  ((cleanupRecordsFor authorization records).find? (·.isAuthorized)).map (·.authorization)

def recordedUnder (records : List (CleanupEvent kind)) (key : CleanupRecordKey) : Bool :=
  records.any fun event => event.key = key

/-- The journal's append within a family: an equal event is a replay, another one contradicts it. -/
def appendCleanupEvent (records : List (CleanupEvent kind)) (event : CleanupEvent kind) :
    Option (Option (CleanupEvent kind)) :=
  match records.find? fun existing => existing.key = event.key with
  | none => some (some event)
  | some existing => if existing = event then some none else none

/-- What a call ends with. -/
inductive CleanupOutcome (kind : CleanupKind) where
  | settled (result : kind.Result)
  | pending (attempts : Nat) (reason : String)
  | preserved (reason : String)
  | journalFailed
deriving DecidableEq

/-- Where a call stands.  A read behind an applied removal carries its attempt and result. -/
inductive CleanupPhase (kind : CleanupKind) where
  | authorizing
  | intendingObservation (removal : Option (Nat × kind.Result))
  | observing (removal : Option (Nat × kind.Result)) (operationId : OperationId) (ordinal : Nat)
  | recordingObservation (removal : Option (Nat × kind.Result)) (operationId : OperationId)
      (ordinal : Nat) (observation : kind.Observation)
  | intendingMutation (attempt : Nat) (observation : kind.Observation)
  | removing (attempt : Nat) (observation : kind.Observation)
  | recordingResult (attempt : Nat) (observation : kind.Observation) (result : kind.Result)
  | contradicting (observation : kind.Observation) (operationId : OperationId)
      (detail reason : String)
  | confirmingAbsence (observation : kind.Observation) (operationId : OperationId) (ordinal : Nat)
      (result : kind.Result)
  | settling (result : kind.Result)
deriving DecidableEq

/-- A call goes on or ends. -/
inductive CleanupStage (kind : CleanupKind) where
  | underway (phase : CleanupPhase kind)
  | ended (outcome : CleanupOutcome kind)
deriving DecidableEq

/-- What a call does before its first append; `blocked` is why the Run does not admit the cleanup. -/
def beginCleanup (authorization : kind.Authorization) (records : List (CleanupEvent kind))
    (blocked : Option String) : CleanupStage kind :=
  match blocked, cleanupHistoryIssue authorization records with
  | some detail, _ => .ended (.preserved detail)
  | none, some detail => .ended (.preserved detail)
  | none, none =>
      match records.findSome? (·.contradiction? authorization),
          records.findSome? (·.settlement? authorization) with
      | some detail, _ => .ended (.preserved detail)
      | none, some result => .ended (.settled result)
      | none, none =>
          match existingAuthorization authorization records, kind.differingAuthorizationReason with
          | none, _ => .underway .authorizing
          | some _, none => .underway (.intendingObservation none)
          | some recorded, some reason =>
              if recorded = authorization then .underway (.intendingObservation none)
              else .ended (.preserved reason)

def settleFromAbsence (observation : kind.Observation) (operationId : OperationId) (ordinal : Nat)
    (revision : Nat) (result : kind.Result) : CleanupStage kind :=
  if CleanupKind.appliedRevision? result = some revision then
    .underway (.confirmingAbsence observation operationId ordinal result)
  else .underway (.contradicting observation operationId kind.staleTexts.1 kind.staleTexts.2)

/-- What follows an observation that has been journaled. -/
def afterObservation (authorization : kind.Authorization) (records : List (CleanupEvent kind))
    (removal : Option (Nat × kind.Result)) (operationId : OperationId) (ordinal : Nat)
    (observation : kind.Observation) : CleanupStage kind :=
  match CleanupKind.read authorization removal.isSome observation with
  | .absent revision => settleFromAbsence observation operationId ordinal revision
      ((removal.map (·.2)).getD (CleanupKind.alreadyAbsent authorization revision))
  | .contradicted detail reason => .underway (.contradicting observation operationId detail reason)
  | .pending reason => .ended (.pending
      ((removal.map (·.1)).getD (mutationIntentCount authorization records)) reason)
  | .present =>
      if mutationIntentCount authorization records ≥ cleanupMutationRequestLimit then
        .ended (.pending (mutationIntentCount authorization records) kind.exhaustedReason)
      else .underway (.intendingMutation (mutationIntentCount authorization records + 1) observation)

/-- What follows a removal result that has been journaled. -/
def afterResult (authorization : kind.Authorization) (attempt : Nat) (observation : kind.Observation)
    (result : kind.Result) : CleanupStage kind :=
  if ¬ CleanupKind.resultMatchesAuthorization result authorization then
    .underway (.contradicting observation (mutationOperationId authorization attempt)
      kind.mismatchTexts.1 kind.mismatchTexts.2)
  else
    match CleanupKind.appliedRevision? result with
    | some _ => .underway (.intendingObservation (some (attempt, result)))
    | none => .ended (.pending attempt (CleanupKind.unappliedReason result))

def derivedCause (authorization : kind.Authorization) (records : List (CleanupEvent kind)) :
    CleanupAbsenceCause :=
  if records.any fun event => event.isMutationIntended ∧ event.authorization = authorization then
    .mutationResponseReconciliation
  else .initialAbsence

/-- The event that a journal step writes, if its record does not exist yet. -/
def cleanupEventAt (authorization : kind.Authorization) (records : List (CleanupEvent kind)) :
    CleanupPhase kind → Option (CleanupEvent kind)
  | .authorizing => some (.authorized authorization)
  | .intendingObservation _ =>
      let next := nextObservation authorization records
      if recordedUnder records
          ⟨CleanupKind.operationId authorization, .observationIntended next.2⟩ then none
      else some (.observationIntended authorization next.1 next.2)
  | .recordingObservation _ operationId ordinal observation =>
      some (.observed authorization observation operationId ordinal)
  | .intendingMutation attempt _ =>
      some (.mutationIntended attempt authorization (mutationOperationId authorization attempt))
  | .recordingResult attempt _ result => some (.mutationResultRecorded attempt authorization
      (mutationOperationId authorization attempt) result)
  | .contradicting observation operationId detail _ =>
      -- Git-backed families leave an existing contradiction alone; candidates append again.
      if kind ≠ .integratorCandidate ∧
          recordedUnder records ⟨CleanupKind.operationId authorization, .contradicted⟩ then none
      else some (.contradicted authorization detail observation operationId)
  | .confirmingAbsence observation operationId ordinal _ =>
      if recordedUnder records
          ⟨CleanupKind.operationId authorization, .absenceConfirmed ordinal⟩ then none
      else some (.absenceConfirmed authorization (derivedCause authorization records) observation
        operationId ordinal)
  | .settling result =>
      if kind ≠ .integratorCandidate ∧
          (records.findSome? (·.settlement? authorization)).isSome then none
      else some (.settled authorization result)
  | .observing .. | .removing .. => none

/-- Where a call stands after a journal step.  The records are those before the step; its own record
changes nothing of what is read here. -/
def cleanupStageAfter (authorization : kind.Authorization) (records : List (CleanupEvent kind)) :
    CleanupPhase kind → CleanupStage kind
  | .authorizing => .underway (.intendingObservation none)
  | .intendingObservation removal =>
      .underway (.observing removal (nextObservation authorization records).1
        (nextObservation authorization records).2)
  | .recordingObservation removal operationId ordinal observation =>
      afterObservation authorization records removal operationId ordinal observation
  | .intendingMutation attempt observation => .underway (.removing attempt observation)
  | .recordingResult attempt observation result =>
      afterResult authorization attempt observation result
  | .contradicting _ _ _ reason => .ended (.preserved reason)
  | .confirmingAbsence _ _ _ result => .underway (.settling result)
  | .settling result =>
      .ended (.settled ((records.findSome? (·.settlement? authorization)).getD result))
  | phase@(.observing ..) | phase@(.removing ..) => .underway phase

end

structure CleanupCall where
  kind : CleanupKind
  authorization : kind.Authorization
  phase : CleanupPhase kind

structure CleanupRemoval where
  kind : CleanupKind
  authorization : kind.Authorization
  attempt : Nat

/-- The journal, the call in flight and the requests that crossed the boundary. -/
structure CleanupMachine where
  journal : CleanupJournal
  call : Option CleanupCall
  /-- Removals asked for, in order. -/
  removals : List CleanupRemoval
  /-- How many reads were asked for. -/
  reads : Nat

/-- Steps of the callers, the boundaries and the process. -/
inductive CleanupAction where
  /-- `runWorktreeCleanup`, `runBranchCleanup` or `runIntegratorCandidateCleanup`. -/
  | run (kind : CleanupKind) (authorization : kind.Authorization)
  /-- The call in flight takes its next journal step. -/
  | proceed
  /-- The boundary is asked for a read and answers. -/
  | observe (kind : CleanupKind) (observation : kind.Observation)
  /-- The boundary is asked for the removal; no answer is a lost coordinator ownership. -/
  | remove (kind : CleanupKind) (result : Option kind.Result)
  | crash
  /-- Another owner appends. -/
  | otherAppend (payload : Payload)

/-- Provenance of an authorization in a prefix: what its upstream records do not support. -/
abbrev CleanupProvenance :=
  (kind : CleanupKind) → CleanupJournal → kind.Authorization → Option String

def settledWorktrees (journal : CleanupJournal) (operationId : OperationId) :
    List (WorktreeCleanupAuthorization × Nat) :=
  journal.zipIdx.filterMap fun entry =>
    (entry.1.of? .worktree).bind fun event =>
      match event with
      | .settled authorization _ =>
          if @CleanupKind.operationId .worktree authorization = operationId then
            some (authorization, entry.2)
          else none
      | _ => none

def worktreeAuthorizesBranch (worktree : WorktreeCleanupAuthorization)
    (authorization : BranchCleanupAuthorization) : Bool :=
  worktree.disposition = authorization.disposition &&
    worktree.locator = authorization.disposition.plannedAttempt.worktree &&
    worktree.owner.attemptId = authorization.owner &&
    worktree.owner.branch = authorization.disposition.plannedAttempt.branch &&
    worktree.expectedHead = authorization.expectedHead

def branchRecordsBehind (journal : CleanupJournal) (authorization : BranchCleanupAuthorization)
    (position : Nat) : Bool :=
  journal.zipIdx.all fun entry =>
    match entry.1.of? .branch with
    | some event => event.cleanupOperationId ≠ authorization.operationId || position < entry.2
    | none => true

/-- Why the exact worktree settlement does not admit the branch cleanup, if it does not. -/
def validateSettledWorktreeForBranch (provenance : CleanupProvenance) (journal : CleanupJournal)
    (authorization : BranchCleanupAuthorization) : Option String :=
  match settledWorktrees journal authorization.worktreeCleanupOperationId with
  | [(worktree, position)] =>
      if ¬ worktreeAuthorizesBranch worktree authorization then
        some "branch cleanup found a foreign worktree authorization"
      else
        match provenance .worktree journal worktree,
            @cleanupHistoryIssue .worktree worktree (journal.records .worktree) with
        | some detail, _ => some detail
        | none, some detail => some detail
        | none, none =>
            if branchRecordsBehind journal authorization position then none
            else some "branch cleanup authorization or event precedes exact worktree settlement"
  | _ => some "branch cleanup requires one exact settled worktree record"

/-- Why the Run does not admit a cleanup: its provenance, or a branch before its worktree. -/
def cleanupBlocked (provenance : CleanupProvenance) (journal : CleanupJournal) :
    (kind : CleanupKind) → kind.Authorization → Option String
  | .worktree, authorization => provenance .worktree journal authorization
  | .branch, authorization => (provenance .branch journal authorization).or
      (validateSettledWorktreeForBranch provenance journal authorization)
  | .integratorCandidate, authorization => provenance .integratorCandidate journal authorization

def CleanupStage.call {kind : CleanupKind} (authorization : kind.Authorization) :
    CleanupStage kind → Option CleanupCall
  | underway phase => some ⟨kind, authorization, phase⟩
  | ended _ => none

def CleanupStage.outcome {kind : CleanupKind} : CleanupStage kind → Option (CleanupOutcome kind)
  | underway _ => none
  | ended outcome => some outcome

/-- What a step reports of the call it is a step of. -/
structure CleanupReport where
  kind : CleanupKind
  authorization : kind.Authorization
  outcome : Option (CleanupOutcome kind)

/-- The next state of a call whose journal step appends. -/
def proceedCleanup {kind : CleanupKind} (authorization : kind.Authorization)
    (phase : CleanupPhase kind) (journal : CleanupJournal) : CleanupStage kind × CleanupJournal :=
  let records := journal.records kind
  match (cleanupEventAt authorization records phase).map (appendCleanupEvent records) with
  | some none => (.ended .journalFailed, journal)
  | some (some (some event)) =>
      (cleanupStageAfter authorization records phase, journal ++ [.cleanup ⟨kind, event⟩])
  | _ => (cleanupStageAfter authorization records phase, journal)

/-- A call takes a read answer of its own family while it observes. -/
def answerObservation (call : CleanupCall) (kind : CleanupKind) (observation : kind.Observation) :
    Option CleanupCall :=
  if same : kind = call.kind then
    match call.phase with
    | .observing removal operationId ordinal =>
        some { call with
          phase := .recordingObservation removal operationId ordinal (same ▸ observation) }
    | _ => none
  else none

/-- A call takes a removal answer of its own family while it removes. -/
def answerRemoval (call : CleanupCall) (kind : CleanupKind) (result : Option kind.Result) :
    Option (Nat × Option CleanupCall) :=
  if same : kind = call.kind then
    match call.phase with
    | .removing attempt observation => some (attempt, result.map fun answer =>
        { call with phase := .recordingResult attempt observation (same ▸ answer) })
    | _ => none
  else none

/-- One step of the callers, the boundaries or the process. -/
def cleanupStep (provenance : CleanupProvenance) (action : CleanupAction) (state : CleanupMachine) :
    Option CleanupReport × CleanupMachine :=
  match action, state.call with
  | .run kind authorization, none =>
      let stage := beginCleanup authorization (state.journal.records kind)
        (cleanupBlocked provenance state.journal kind authorization)
      (some ⟨kind, authorization, stage.outcome⟩, { state with call := stage.call authorization })
  | .proceed, some call =>
      let (stage, journal) := proceedCleanup call.authorization call.phase state.journal
      (some ⟨call.kind, call.authorization, stage.outcome⟩,
        { state with journal, call := stage.call call.authorization })
  | .observe kind observation, some call =>
      match answerObservation call kind observation with
      | some next => (some ⟨call.kind, call.authorization, none⟩,
          { state with call := some next, reads := state.reads + 1 })
      | none => (none, state)
  | .remove kind result, some call =>
      match answerRemoval call kind result with
      | some (attempt, next) => (some ⟨call.kind, call.authorization, none⟩,
          { state with
            call := next
            removals := state.removals ++ [⟨call.kind, call.authorization, attempt⟩] })
      | none => (none, state)
  | .crash, _ => (none, { state with call := none })
  | .otherAppend payload, _ => (none, { state with journal := state.journal ++ [.other payload] })
  | _, _ => (none, state)

end Dalph
