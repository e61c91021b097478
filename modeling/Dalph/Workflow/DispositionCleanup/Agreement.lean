import Dalph.Foundation.Log
import Dalph.Workflow.DispositionCleanup.Written

/-!
# Disposition cleanup: writers and validators

The runner writes what it finds, and the history is reduced again before every call.  Along every run
whose answers agree with what is recorded, the validators admit what the runners write, and a worktree
that was reported settled admits its branch.
-/

namespace Dalph

/-- The answer that a call is about to record agrees with its authorization and its history. -/
def CleanupCall.agrees (call : CleanupCall) (journal : CleanupJournal) : Bool :=
  match call.phase with
  | .recordingObservation removal _ _ observation => observationAgrees call.authorization
      (journal.operationRecords call.kind (CleanupKind.operationId call.authorization)) removal
      observation
  | .recordingResult _ _ result => CleanupKind.resultMatchesAuthorization result call.authorization
  | _ => true

/-- Answers for operations that have no records in the starting prefix agree. -/
def cleanupAnswersAgree (start : CleanupJournal) (action : CleanupAction) (state : CleanupMachine) :
    Bool :=
  match action, state.call with
  | .observe kind observation, some call => (answerObservation call kind observation).all (admits ·)
  | .remove kind result, some call =>
      (answerRemoval call kind result).all fun answer => answer.2.all (admits ·)
  | _, _ => true
where
  admits (next : CleanupCall) : Bool :=
    start.operationRecords next.kind (CleanupKind.operationId next.authorization) ≠ [] ||
      next.agrees state.journal

section

variable {kind : CleanupKind} {authorization : kind.Authorization}
  {family : List (CleanupEvent kind)}

/-- The records of an operation are its authorization's own, or another authorization took it. -/
structure OperationAgrees (authorization : kind.Authorization) (state : CleanupMachine) : Prop where
  history : CleanupWritten authorization
      (state.journal.operationRecords kind (CleanupKind.operationId authorization)) ∨
    (state.journal.operationRecords kind (CleanupKind.operationId authorization) ≠ [] ∧
      ∀ event ∈ state.journal.operationRecords kind (CleanupKind.operationId authorization),
        event.authorization ≠ authorization)
  call : ∀ phase, state.call = some ⟨kind, authorization, phase⟩ →
    CallWritten authorization
      (state.journal.operationRecords kind (CleanupKind.operationId authorization)) phase
  other : ∀ (other : kind.Authorization) phase, state.call = some ⟨kind, other, phase⟩ →
    CleanupKind.operationId other = CleanupKind.operationId authorization → other ≠ authorization →
      ∀ event ∈ state.journal.operationRecords kind (CleanupKind.operationId authorization),
        event.authorization ≠ authorization

theorem empty_of_unauthorized {records : List (CleanupEvent kind)}
    (valid : cleanupHistoryIssue authorization records = none)
    (unauthorized : existingAuthorization authorization records = none) :
    cleanupRecordsFor authorization records = [] := by
  rcases reduced_of_cleanupHistory valid with empty | ⟨noIssue, -⟩
  · exact empty
  · rw [existingAuthorization, Option.map_eq_none_iff, List.find?_eq_none] at unauthorized
    have none_ : (cleanupRecordsFor authorization records).filter (·.isAuthorized) = [] := by
      rw [List.filter_eq_nil_iff]
      exact unauthorized
    unfold cleanupPrefixIssue at noIssue
    rw [none_] at noIssue
    cases noIssue

namespace OperationAgrees

variable {state : CleanupMachine}

section

variable (agrees : OperationAgrees authorization state)
include agrees

theorem withoutCall (reads : Nat) (removals : List CleanupRemoval) :
    OperationAgrees authorization { state with call := none, reads, removals } := by
  refine ⟨agrees.history, fun phase impossible => ?_, fun other phase impossible => ?_⟩
  · cases impossible
  · cases impossible

theorem withForeignCall {next : CleanupCall}
    (foreign : (next.kind, CleanupKind.operationId next.authorization) ≠
      (kind, CleanupKind.operationId authorization)) (reads : Nat) (removals : List CleanupRemoval)
    : OperationAgrees authorization { state with call := some next, reads, removals } := by
  refine ⟨agrees.history, fun phase same => ?_, fun other phase same ofOperation => ?_⟩
  · cases same
    exact absurd rfl foreign
  · cases same
    exact absurd (by rw [ofOperation]) foreign

theorem withOwnCall {phase : CleanupPhase kind}
    (written : CallWritten authorization
      (state.journal.operationRecords kind (CleanupKind.operationId authorization)) phase)
    (reads : Nat) (removals : List CleanupRemoval) :
    OperationAgrees authorization
      { state with call := some ⟨kind, authorization, phase⟩, reads, removals } := by
  refine ⟨agrees.history, fun other same => ?_, fun other phase same _ different => ?_⟩
  · cases same
    exact written
  · cases same
    exact absurd rfl different

theorem withOtherCall {taken : kind.Authorization} (different : taken ≠ authorization)
    (foreign : ∀ event ∈ state.journal.operationRecords kind (CleanupKind.operationId authorization),
      event.authorization ≠ authorization) (phase : CleanupPhase kind) (reads : Nat)
    (removals : List CleanupRemoval) :
    OperationAgrees authorization { state with call := some ⟨kind, taken, phase⟩, reads, removals } := by
  refine ⟨agrees.history, fun other same => ?_, fun other phase same _ _ => foreign⟩
  cases same
  exact absurd rfl different

end

variable {callKind : CleanupKind}

section

variable (agrees : OperationAgrees authorization state)
include agrees

variable {callAuthorization : callKind.Authorization} {phase : CleanupPhase callKind}

theorem withPhase {next : CleanupPhase callKind}
    (inFlight : state.call = some ⟨callKind, callAuthorization, phase⟩)
    (own : ∀ same : callKind = kind, same ▸ callAuthorization = authorization →
      PhaseWritten authorization
        (state.journal.operationRecords kind (CleanupKind.operationId authorization)) (same ▸ next))
    (reads : Nat) (removals : List CleanupRemoval) :
    OperationAgrees authorization
      { state with call := some ⟨callKind, callAuthorization, next⟩, reads, removals } := by
  by_cases ofOperation : (callKind, CleanupKind.operationId callAuthorization) =
      (kind, CleanupKind.operationId authorization)
  · obtain ⟨sameKind, sameOperation⟩ := Prod.mk.inj ofOperation
    subst sameKind
    by_cases same : callAuthorization = authorization
    · subst same
      obtain ⟨written, open_, -⟩ := agrees.call phase inFlight
      exact agrees.withOwnCall ⟨written, open_, own rfl rfl⟩ reads removals
    · exact agrees.withOtherCall same (agrees.other _ phase inFlight sameOperation same) next reads
        removals
  · exact agrees.withForeignCall ofOperation reads removals

theorem withJournal {journal : CleanupJournal}
    (same : journal.operationRecords kind (CleanupKind.operationId authorization) =
      state.journal.operationRecords kind (CleanupKind.operationId authorization)) :
    OperationAgrees authorization { state with journal } := by
  constructor
  · rw [same]
    exact agrees.history
  · rw [same]
    exact agrees.call
  · rw [same]
    exact agrees.other

theorem begun {blocked : Option String}
    (begins : beginCleanup callAuthorization (state.journal.records callKind) blocked =
      .underway phase) :
    OperationAgrees authorization
      { state with call := some ⟨callKind, callAuthorization, phase⟩ } := by
  obtain ⟨-, valid, ⟨uncontradicted, unsettled⟩, first⟩ := beginCleanup_underway begins
  by_cases ofOperation : (callKind, CleanupKind.operationId callAuthorization) =
      (kind, CleanupKind.operationId authorization)
  · obtain ⟨sameKind, sameOperation⟩ := Prod.mk.inj ofOperation
    subst sameKind
    have own : ∀ event ∈ state.journal.operationRecords callKind
        (CleanupKind.operationId callAuthorization), event.authorization = callAuthorization :=
      fun event member => authorization_of_cleanupHistory valid member
    by_cases same : callAuthorization = authorization
    · subst same
      refine agrees.withOwnCall ⟨?_, fun event member => ?_, ?_⟩ _ _
      · rcases agrees.history with written | ⟨nonempty, foreign⟩
        · exact written
        · obtain ⟨event, member⟩ := List.exists_mem_of_ne_nil _ nonempty
          exact absurd (own event member) (foreign event member)
      · exact open_of_begun valid uncontradicted unsettled member
      · rcases first with ⟨rfl, unauthorized⟩ | ⟨rfl, authorized⟩
        · exact empty_of_unauthorized valid unauthorized
        · refine ⟨fun empty => authorized ?_, fun _ _ impossible => by cases impossible⟩
          rw [existingAuthorization, CleanupJournal.cleanupRecordsFor_records, empty]
          rfl
    · refine agrees.withOtherCall same (fun event member => ?_) phase _ _
      rw [own event (sameOperation ▸ member)]
      exact same
  · exact agrees.withForeignCall ofOperation _ _

/-- A journal step keeps the agreement. -/
theorem proceeded (inFlight : state.call = some ⟨callKind, callAuthorization, phase⟩) :
    OperationAgrees authorization { state with
      journal := (proceedCleanup callAuthorization phase state.journal).2
      call := (proceedCleanup callAuthorization phase state.journal).1.call callAuthorization } := by
  rcases proceedCleanup_cases callAuthorization phase state.journal with failed | ⟨replayed, known⟩ |
    ⟨event, written, -, appended⟩
  · rw [failed]
    exact agrees.withoutCall _ _
  · rw [replayed]
    cases stage : cleanupStageAfter callAuthorization (state.journal.records callKind) phase with
    | ended outcome => exact agrees.withoutCall _ _
    | underway next =>
        refine agrees.withPhase inFlight (fun sameKind same => ?_) _ _
        subst sameKind
        subst same
        exact phaseWritten_replayed (agrees.call phase inFlight) known stage
  · rw [appended]
    have own := authorization_cleanupEventAt written
    have ofCall : event.cleanupOperationId = CleanupKind.operationId callAuthorization := by
      rw [CleanupEvent.cleanupOperationId, own]
    by_cases ofOperation : (callKind, CleanupKind.operationId callAuthorization) =
        (kind, CleanupKind.operationId authorization)
    · obtain ⟨sameKind, sameOperation⟩ := Prod.mk.inj ofOperation
      subst sameKind
      have grown : CleanupJournal.operationRecords (state.journal ++ [.cleanup ⟨callKind, event⟩])
          callKind (CleanupKind.operationId authorization) =
            state.journal.operationRecords callKind (CleanupKind.operationId authorization) ++
              [event] := by
        rw [← sameOperation, ← ofCall]
        exact CleanupJournal.operationRecords_append_own _ event
      by_cases same : callAuthorization = authorization
      · subst same
        obtain ⟨history, next⟩ := cleanupWritten_appended (agrees.call phase inFlight) written
        refine ⟨.inl (grown ▸ history), fun following call => ?_,
          fun other following call _ different => ?_⟩
        · obtain ⟨reached, stage, same⟩ := CleanupStage.call_eq_some call
          cases same
          obtain ⟨continues, phaseWritten⟩ := next _ stage
          rw [grown]
          refine ⟨history, fun recorded member => ?_, phaseWritten⟩
          rw [List.mem_append, List.mem_singleton] at member
          rcases member with member | rfl
          · exact (agrees.call phase inFlight).open_ recorded member
          · exact continues
        · obtain ⟨reached, -, same⟩ := CleanupStage.call_eq_some call
          cases same
          exact absurd rfl different
      · have foreign : ∀ recorded ∈ CleanupJournal.operationRecords
            (state.journal ++ [.cleanup ⟨callKind, event⟩]) callKind
            (CleanupKind.operationId authorization), recorded.authorization ≠ authorization := by
          intro recorded member
          rw [grown, List.mem_append, List.mem_singleton] at member
          rcases member with member | rfl
          · exact agrees.other _ phase inFlight sameOperation same recorded member
          · exact own ▸ same
        refine ⟨.inr ⟨by rw [grown]; simp, foreign⟩, fun following call => ?_,
          fun other following call _ _ => foreign⟩
        obtain ⟨reached, -, own⟩ := CleanupStage.call_eq_some call
        cases own
        exact absurd rfl same
    · have unchanged : CleanupJournal.operationRecords (state.journal ++ [.cleanup ⟨callKind, event⟩])
          kind (CleanupKind.operationId authorization) =
            state.journal.operationRecords kind (CleanupKind.operationId authorization) :=
        CleanupJournal.operationRecords_append_other (ofCall ▸ ofOperation)
      cases cleanupStageAfter callAuthorization (state.journal.records callKind) phase with
      | ended outcome => exact (agrees.withJournal unchanged).withoutCall _ _
      | underway next => exact (agrees.withJournal unchanged).withForeignCall ofOperation _ _

end

variable {start : CleanupJournal}

section

variable (agrees : OperationAgrees authorization state)
include agrees

section

variable (unrecorded : start.operationRecords kind (CleanupKind.operationId authorization) = [])
include unrecorded

theorem observed {answerKind : CleanupKind} {observation : answerKind.Observation}
    {call next : CleanupCall} (inFlight : state.call = some call)
    (answered : answerObservation call answerKind observation = some next)
    (guard : cleanupAnswersAgree start (.observe answerKind observation) state = true) :
    OperationAgrees authorization { state with call := some next, reads := state.reads + 1 } := by
  simp only [cleanupAnswersAgree, inFlight, answered, Option.all_some] at guard
  obtain ⟨callAuthorization, removal, operationId, ordinal, rfl, rfl⟩ :=
    answerObservation_eq_some answered
  refine agrees.withPhase inFlight (fun sameKind same => ?_) _ _
  subst sameKind
  subst same
  obtain ⟨read, known⟩ := (agrees.call _ inFlight).phase
  refine ⟨read, known, ?_⟩
  simpa [cleanupAnswersAgree.admits, unrecorded, CleanupCall.agrees] using guard

theorem removed {answerKind : CleanupKind} {result : Option answerKind.Result} {call : CleanupCall}
    {attempt : Nat} {next : Option CleanupCall} (inFlight : state.call = some call)
    (answered : answerRemoval call answerKind result = some (attempt, next))
    (guard : cleanupAnswersAgree start (.remove answerKind result) state = true)
    (removals : List CleanupRemoval) :
    OperationAgrees authorization { state with call := next, removals } := by
  simp only [cleanupAnswersAgree, inFlight, answered, Option.all_some] at guard
  obtain ⟨callAuthorization, observation, rfl, rfl⟩ := answerRemoval_eq_some answered
  cases result with
  | none => exact agrees.withoutCall _ _
  | some answer =>
      refine agrees.withPhase inFlight (fun sameKind same => ?_) _ _
      subst sameKind
      subst same
      refine ⟨(agrees.call _ inFlight).phase, ?_⟩
      simpa [cleanupAnswersAgree.admits, unrecorded, CleanupCall.agrees] using guard

theorem step (provenance : CleanupProvenance) (action : CleanupAction)
    (guard : cleanupAnswersAgree start action state = true) :
    OperationAgrees authorization (cleanupStep provenance action state).2 := by
  have payload : ∀ appended, OperationAgrees authorization
      { state with journal := state.journal ++ [.other appended] } := fun appended =>
    agrees.withJournal (CleanupJournal.operationRecords_append_payload appended _)
  cases inFlight : state.call with
  | none =>
      cases action with
      | run callKind callAuthorization =>
          simp only [cleanupStep, inFlight]
          cases begins : beginCleanup callAuthorization (state.journal.records callKind)
            (cleanupBlocked provenance state.journal callKind callAuthorization) with
          | ended outcome => exact agrees.withoutCall _ _
          | underway phase => exact agrees.begun begins
      | crash =>
          simp only [cleanupStep]
          exact agrees.withoutCall _ _
      | otherAppend appended =>
          simp only [cleanupStep]
          exact payload appended
      | proceed | observe _ _ | remove _ _ =>
          simp only [cleanupStep, inFlight]
          exact agrees
  | some call =>
      cases action with
      | run callKind callAuthorization =>
          simp only [cleanupStep, inFlight]
          exact agrees
      | crash =>
          simp only [cleanupStep]
          exact agrees.withoutCall _ _
      | otherAppend appended =>
          simp only [cleanupStep]
          exact payload appended
      | proceed =>
          simp only [cleanupStep, inFlight]
          exact agrees.proceeded inFlight
      | observe answerKind observation =>
          simp only [cleanupStep, inFlight]
          cases answered : answerObservation call answerKind observation with
          | none => exact agrees
          | some next => exact agrees.observed unrecorded inFlight answered guard
      | remove answerKind result =>
          simp only [cleanupStep, inFlight]
          cases answered : answerRemoval call answerKind result with
          | none => exact agrees
          | some answer => exact agrees.removed unrecorded inFlight answered guard _

end

theorem valid (wrote : ∃ event ∈ state.journal.records kind, event.authorization = authorization) :
    CleanupWritten authorization
        (state.journal.operationRecords kind (CleanupKind.operationId authorization)) ∧
      cleanupHistoryIssue authorization (state.journal.records kind) = none := by
  obtain ⟨event, member, own⟩ := wrote
  have found : event ∈ cleanupRecordsFor authorization (state.journal.records kind) :=
    mem_cleanupRecordsFor.mpr ⟨member, by rw [CleanupEvent.cleanupOperationId, own]⟩
  rcases agrees.history with written | ⟨-, foreign⟩
  · refine ⟨written, ?_⟩
    unfold cleanupHistoryIssue
    rcases written.admitted with empty | ⟨noIssue, reducedState, reduced⟩
    · rw [CleanupJournal.cleanupRecordsFor_records, empty] at found
      cases found
    · dsimp only
      rw [CleanupJournal.cleanupRecordsFor_records, noIssue, reduced]
      split <;> rfl
  · exact absurd own (foreign event found)

end

end OperationAgrees

end

section

variable {journal : CleanupJournal} {operationId : OperationId}

def CleanupEvent.settledAuthorization? {kind : CleanupKind} :
    CleanupEvent kind → Option kind.Authorization
  | settled authorization _ => some authorization
  | _ => none

theorem map_settledWorktrees :
    (settledWorktrees journal operationId).map (·.1) =
      (journal.operationRecords .worktree operationId).filterMap (·.settledAuthorization?) := by
  induction journal using List.reverseRecOn with
  | nil => rfl
  | append_singleton journal entry induction =>
      unfold settledWorktrees at induction ⊢
      rw [List.zipIdx_append, List.filterMap_append, List.map_append, induction]
      cases entry with
      | other payload =>
          rw [CleanupJournal.operationRecords_append_payload]
          simp [CleanupJournalEvent.of?]
      | cleanup record =>
          obtain ⟨kind, event⟩ := record
          by_cases ofOperation : (kind, event.cleanupOperationId) = (.worktree, operationId)
          · cases ofOperation
            rw [CleanupJournal.operationRecords_append_own, List.filterMap_append]
            congr 1
            cases event <;> simp [CleanupJournalEvent.of?, CleanupEvent.settledAuthorization?,
              CleanupEvent.cleanupOperationId, CleanupEvent.authorization]
          · rw [CleanupJournal.operationRecords_append_other ofOperation]
            cases kind with
            | branch | integratorCandidate => simp [CleanupJournalEvent.of?]
            | worktree =>
                cases event with
                | settled authorization result =>
                    have different : @CleanupKind.operationId .worktree authorization ≠ operationId :=
                      fun same => ofOperation (by rw [← same]; rfl)
                    simp [CleanupJournalEvent.of?, different]
                | _ => simp [CleanupJournalEvent.of?]

theorem settledWorktrees_append_left {after : CleanupJournal}
    {settlement : WorktreeCleanupAuthorization × Nat}
    (member : settlement ∈ settledWorktrees journal operationId) :
    settlement ∈ settledWorktrees (journal ++ after) operationId := by
  unfold settledWorktrees at *
  rw [List.zipIdx_append, List.filterMap_append]
  exact List.mem_append_left _ member

theorem settledWorktrees_lt {settlement : WorktreeCleanupAuthorization × Nat}
    (member : settlement ∈ settledWorktrees journal operationId) : settlement.2 < journal.length := by
  obtain ⟨entry, found, selected⟩ := List.mem_filterMap.mp member
  have position := List.snd_lt_of_mem_zipIdx found
  obtain ⟨event, -, settled⟩ := Option.bind_eq_some_iff.mp selected
  cases event with
  | settled authorization result =>
      dsimp only at settled
      split at settled <;> cases settled
      simpa using position
  | _ => cases settled

theorem settled_once {kind : CleanupKind} {authorization : kind.Authorization}
    {family : List (CleanupEvent kind)} {state : CleanupHistoryState kind}
    (reduced : reduceCleanupHistory authorization family = .ok state) :
    (family.filterMap (·.settledAuthorization?)).length ≤ 1 := by
  induction family using List.reverseRecOn generalizing state with
  | nil => exact Nat.zero_le 1
  | append_singleton family event induction =>
      obtain ⟨earlier, previous, last⟩ := reduceCleanupHistory_concat_eq_ok reduced
      rw [List.filterMap_append, List.length_append]
      rcases reduceCleanupEvent_eq_ok last with ⟨isAuthorized, -⟩ | ⟨-, running, -, -⟩
      · have nothing : event.settledAuthorization? = none := by
          cases event with
          | authorized _ => rfl
          | _ => cases isAuthorized
        simpa [nothing] using induction previous
      · have open_ : family.any (·.isTerminal) = false := by
          rw [← (cleanupReduced previous).ended, running.1, running.2]
          rfl
        have nothing : family.filterMap (·.settledAuthorization?) = [] := by
          rw [List.filterMap_eq_nil_iff]
          intro other member
          rw [List.any_eq_false] at open_
          have notTerminal := open_ other member
          cases other with
          | settled _ _ => exact absurd rfl notTerminal
          | _ => rfl
        rw [nothing]
        cases event <;> simp [CleanupEvent.settledAuthorization?]

theorem settledWorktrees_written {worktree : WorktreeCleanupAuthorization}
    (written : @CleanupWritten .worktree worktree
      (journal.operationRecords .worktree worktree.operationId))
    {result : WorktreeCleanupMutationResult}
    (settled : .settled worktree result ∈ journal.records .worktree) :
    ∃ position, settledWorktrees journal worktree.operationId = [(worktree, position)] := by
  have found : CleanupEvent.settled worktree result ∈
      journal.operationRecords .worktree worktree.operationId :=
    List.mem_filter.mpr ⟨settled, decide_eq_true rfl⟩
  have listed : worktree ∈ (settledWorktrees journal worktree.operationId).map (·.1) := by
    rw [map_settledWorktrees]
    exact List.mem_filterMap.mpr ⟨_, found, rfl⟩
  obtain ⟨-, state, reduced⟩ := written.admitted.resolve_left (List.ne_nil_of_mem found)
  have once := settled_once reduced
  rw [← map_settledWorktrees, List.length_map] at once
  obtain ⟨settlement, member, same⟩ := List.mem_map.mp listed
  obtain ⟨only, single⟩ :=
    List.length_eq_one_iff.mp (Nat.le_antisymm once (List.length_pos_of_mem member))
  rw [single, List.mem_singleton] at member
  exact ⟨settlement.2, by rw [single, ← member, ← same]⟩

def BehindWorktree (branch : BranchCleanupAuthorization) (before : CleanupJournal)
    (entry : CleanupJournalEvent) : Prop :=
  ∀ event, entry = .cleanup ⟨.branch, event⟩ → event.authorization = branch →
    settledWorktrees before branch.worktreeCleanupOperationId ≠ []

/-- A branch cleanup runs behind its worktree's settlement. -/
structure BranchBehind (branch : BranchCleanupAuthorization) (state : CleanupMachine) : Prop where
  records : Log.Justified (BehindWorktree branch) state.journal
  call : ∀ phase, state.call = some ⟨.branch, branch, phase⟩ →
    settledWorktrees state.journal branch.worktreeCleanupOperationId ≠ []

namespace BranchBehind

variable {branch : BranchCleanupAuthorization} {state : CleanupMachine}

theorem step (behind : BranchBehind branch state) (provenance : CleanupProvenance)
    (action : CleanupAction) : BranchBehind branch (cleanupStep provenance action state).2 := by
  have records : Log.Justified (BehindWorktree branch) (cleanupStep provenance action state).2.journal := by
    rcases journal_cleanupStep provenance action with unchanged | ⟨payload, other⟩ |
      ⟨kind, authorization, phase, event, inFlight, written, grown⟩
    · rw [unchanged]
      exact behind.records
    · rw [other, Log.justified_concat]
      exact ⟨behind.records, fun event impossible => by cases impossible⟩
    · rw [grown, Log.justified_concat]
      refine ⟨behind.records, fun recorded same own => ?_⟩
      cases same
      rw [authorization_cleanupEventAt written] at own
      subst own
      exact behind.call phase inFlight
  refine ⟨records, fun phase after => ?_⟩
  have settled : settledWorktrees state.journal branch.worktreeCleanupOperationId ≠ [] := by
    rcases call_cleanupStep after with ⟨earlier, inFlight⟩ | admitted
    · exact behind.call earlier inFlight
    · exact settled_of_not_blocked admitted
  rcases journal_cleanupStep provenance action with unchanged | ⟨payload, other⟩ |
    ⟨kind, authorization, phase, event, -, -, grown⟩
  · rw [unchanged]
    exact settled
  · rw [other]
    exact settledWorktrees_append settled _
  · rw [grown]
    exact settledWorktrees_append settled _

theorem recordsBehind (behind : BranchBehind branch state)
    (own : ∀ event ∈ state.journal.operationRecords .branch branch.operationId,
      event.authorization = branch)
    {worktree : WorktreeCleanupAuthorization} {position : Nat}
    (once : settledWorktrees state.journal branch.worktreeCleanupOperationId =
      [(worktree, position)]) :
    branchRecordsBehind state.journal branch position = true := by
  rw [branchRecordsBehind, List.all_eq_true]
  rintro ⟨entry, index⟩ member
  obtain ⟨bound, found⟩ := List.mem_zipIdx' member
  have split : state.journal =
      state.journal.take index ++ entry :: state.journal.drop (index + 1) := by
    rw [found]
    simp
  cases entry with
  | other payload => rfl
  | cleanup record =>
      obtain ⟨kind, event⟩ := record
      cases kind with
      | worktree | integratorCandidate => rfl
      | branch =>
          by_cases ofOperation : event.cleanupOperationId = branch.operationId
          · have recorded : event ∈ state.journal.operationRecords .branch branch.operationId := by
              have listed : CleanupJournalEvent.cleanup ⟨.branch, event⟩ ∈ state.journal := by
                rw [split]
                simp
              exact List.mem_filter.mpr
                ⟨List.mem_filterMap.mpr ⟨_, listed, rfl⟩, by simp [ofOperation]⟩
            have settled := behind.records _ _ _ split event rfl (own event recorded)
            obtain ⟨settlement, earlier⟩ := List.exists_mem_of_ne_nil _ settled
            have listed := @settledWorktrees_append_left _ _
              (CleanupJournalEvent.cleanup ⟨.branch, event⟩ :: state.journal.drop (index + 1)) _ earlier
            rw [← split, once, List.mem_singleton] at listed
            subst listed
            have bounded := settledWorktrees_lt earlier
            rw [List.length_take] at bounded
            have before : position < index := by omega
            simp [CleanupJournalEvent.of?, before]
          · simp [CleanupJournalEvent.of?, ofOperation]

end BranchBehind

section

variable {kind : CleanupKind} {authorization : kind.Authorization}
  {records : List (CleanupEvent kind)} {result : kind.Result}

theorem settled_of_findSome (found : records.findSome? (·.settlement? authorization) = some result) :
    .settled authorization result ∈ records := by
  obtain ⟨event, member, settlement⟩ := List.exists_of_findSome?_eq_some found
  cases event with
  | settled recorded other =>
      simp only [CleanupEvent.settlement?] at settlement
      split at settlement
      · rename_i own
        cases settlement
        exact own ▸ member
      · cases settlement
  | _ => cases settlement

theorem settled_of_begin {blocked : Option String}
    (begun : beginCleanup authorization records blocked = .ended (.settled result)) :
    .settled authorization result ∈ records := by
  unfold beginCleanup at begun
  split at begun
  · cases begun
  · cases begun
  · split at begun
    · cases begun
    · rename_i found
      cases begun
      exact settled_of_findSome found
    · split at begun
      · cases begun
      · cases begun
      · split at begun <;> cases begun

theorem settling_of_ended {phase : CleanupPhase kind}
    (ended : cleanupStageAfter authorization records phase = .ended (.settled result)) :
    ∃ settled, phase = .settling settled := by
  cases phase with
  | settling settled => exact ⟨settled, rfl⟩
  | recordingObservation removal operationId ordinal observation =>
      simp only [cleanupStageAfter, afterObservation, settleFromAbsence] at ended
      split at ended
      · split at ended <;> cases ended
      · cases ended
      · cases ended
      · split at ended <;> cases ended
  | recordingResult attempt observation answer =>
      simp only [cleanupStageAfter, afterResult] at ended
      split at ended
      · cases ended
      · split at ended <;> cases ended
  | authorizing | intendingObservation _ | observing _ _ _ | intendingMutation _ _ | removing _ _
  | contradicting _ _ _ _ | confirmingAbsence _ _ _ _ => cases ended

theorem settled_of_proceed {phase : CleanupPhase kind} {journal : CleanupJournal}
    (ended : (proceedCleanup authorization phase journal).1 = .ended (.settled result)) :
    ∃ recorded, .settled authorization recorded ∈
      (proceedCleanup authorization phase journal).2.records kind := by
  rcases proceedCleanup_cases authorization phase journal with failed | ⟨replayed, known⟩ |
    ⟨event, written, -, appended⟩
  · rw [failed] at ended
    cases ended
  · rw [replayed] at ended ⊢
    obtain ⟨settled, rfl⟩ := settling_of_ended ended
    cases found : (journal.records kind).findSome? (·.settlement? authorization) with
    | some recorded => exact ⟨recorded, settled_of_findSome found⟩
    | none => exact ⟨settled, known _ (by simp [cleanupEventAt, found])⟩
  · rw [appended] at ended ⊢
    obtain ⟨settled, rfl⟩ := settling_of_ended ended
    rw [CleanupJournal.records_append_own]
    simp only [cleanupEventAt] at written
    split at written <;> cases written
    exact ⟨settled, List.mem_append_right _ (List.mem_singleton_self _)⟩

variable {state : CleanupMachine}

theorem settled_of_report {provenance : CleanupProvenance} {action : CleanupAction}
    (reported : (cleanupStep provenance action state).1 =
      some ⟨kind, authorization, some (.settled result)⟩) :
    ∃ recorded, .settled authorization recorded ∈
      (cleanupStep provenance action state).2.journal.records kind := by
  cases inFlight : state.call with
  | none =>
      cases action with
      | run callKind callAuthorization =>
          simp only [cleanupStep, inFlight, Option.some.injEq] at reported ⊢
          cases begun : beginCleanup callAuthorization (state.journal.records callKind)
            (cleanupBlocked provenance state.journal callKind callAuthorization) with
          | underway phase =>
              rw [begun] at reported
              cases reported
          | ended outcome =>
              rw [begun] at reported
              cases reported
              exact ⟨_, settled_of_begin begun⟩
      | proceed | observe _ _ | remove _ _ | crash | otherAppend _ =>
          simp [cleanupStep, inFlight] at reported
  | some call =>
      cases action with
      | proceed =>
          obtain ⟨callKind, callAuthorization, phase⟩ := call
          simp only [cleanupStep, inFlight, Option.some.injEq] at reported ⊢
          cases stage : (proceedCleanup callAuthorization phase state.journal).1 with
          | underway phase =>
              rw [stage] at reported
              cases reported
          | ended outcome =>
              rw [stage] at reported
              cases reported
              exact settled_of_proceed stage
      | observe _ _ | remove _ _ =>
          simp only [cleanupStep, inFlight] at reported
          split at reported <;> cases reported
      | run _ _ | crash | otherAppend _ => simp [cleanupStep, inFlight] at reported

theorem records_cleanupStep {event : CleanupEvent kind} (provenance : CleanupProvenance)
    (action : CleanupAction) (member : event ∈ state.journal.records kind) :
    event ∈ (cleanupStep provenance action state).2.journal.records kind := by
  have grows : ∀ entry, event ∈ CleanupJournal.records (state.journal ++ [entry]) kind := by
    intro entry
    rw [CleanupJournal.records, List.filterMap_append]
    exact List.mem_append_left _ member
  rcases @journal_cleanupStep state provenance action with unchanged | ⟨payload, other⟩ |
    ⟨_, _, _, written, -, -, grown⟩
  · rw [unchanged]
    exact member
  · rw [other]
    exact grows _
  · rw [grown]
    exact grows _

theorem settled_of_reported {provenance : CleanupProvenance} {actions : List CleanupAction}
    (reported : some ⟨kind, authorization, some (.settled result)⟩ ∈
      (Machine.run (cleanupStep provenance) state actions).1) :
    ∃ recorded, .settled authorization recorded ∈
      (Machine.run (cleanupStep provenance) state actions).2.journal.records kind := by
  induction actions generalizing state with
  | nil => cases reported
  | cons action actions induction =>
      rw [Machine.run_cons] at reported ⊢
      rw [List.mem_cons] at reported
      rcases reported with now | later
      · obtain ⟨recorded, member⟩ := settled_of_report now.symm
        have kept : ∀ action (state : CleanupMachine),
            .settled authorization recorded ∈ state.journal.records kind →
              .settled authorization recorded ∈
                (cleanupStep provenance action state).2.journal.records kind :=
          fun action state earlier => records_cleanupStep provenance action earlier
        exact ⟨recorded, Machine.run_preserves kept member actions⟩
      · exact induction later

end

end

/-- Along every run whose answers agree, the history of every cleanup that a runner has written is
admitted, and a worktree that was reported settled admits its branch. -/
theorem cleanup_histories_agree (provenance : CleanupProvenance) (start : CleanupJournal)
    {actions : List CleanupAction}
    (agree : Machine.Guarded (cleanupStep provenance)
      (fun action state => cleanupAnswersAgree start action state) ⟨start, none, [], 0⟩ actions) :
    (∀ (kind : CleanupKind) (authorization : kind.Authorization),
      start.operationRecords kind (CleanupKind.operationId authorization) = [] →
        (∃ event ∈ (Machine.run (cleanupStep provenance) ⟨start, none, [], 0⟩
            actions).2.journal.records kind, event.authorization = authorization) →
          cleanupHistoryIssue authorization ((Machine.run (cleanupStep provenance)
            ⟨start, none, [], 0⟩ actions).2.journal.records kind) = none) ∧
      ∀ (worktree : WorktreeCleanupAuthorization) (branch : BranchCleanupAuthorization)
        (result : WorktreeCleanupMutationResult),
        start.operationRecords .worktree worktree.operationId = [] →
        start.operationRecords .branch branch.operationId = [] →
        branch.worktreeCleanupOperationId = worktree.operationId →
        worktreeAuthorizesBranch worktree branch = true →
        some ⟨.worktree, worktree, some (.settled result)⟩ ∈
          (Machine.run (cleanupStep provenance) ⟨start, none, [], 0⟩ actions).1 →
        provenance .worktree (Machine.run (cleanupStep provenance) ⟨start, none, [], 0⟩
          actions).2.journal worktree = none →
        (∀ event ∈ (Machine.run (cleanupStep provenance) ⟨start, none, [], 0⟩
          actions).2.journal.operationRecords .branch branch.operationId,
            event.authorization = branch) →
          validateSettledWorktreeForBranch provenance (Machine.run (cleanupStep provenance)
            ⟨start, none, [], 0⟩ actions).2.journal branch = none := by
  have agrees : ∀ (kind : CleanupKind) (authorization : kind.Authorization),
      start.operationRecords kind (CleanupKind.operationId authorization) = [] →
        OperationAgrees authorization
          (Machine.run (cleanupStep provenance) ⟨start, none, [], 0⟩ actions).2 := by
    intro kind authorization unrecorded
    refine Machine.Guarded.preserves (fun action state guard agrees => ?_) ?_ agree
    · exact OperationAgrees.step agrees unrecorded provenance action guard
    · refine ⟨.inl ?_, fun phase impossible => ?_, fun other phase impossible => ?_⟩
      · rw [unrecorded]
        exact cleanupWritten_nil
      · cases impossible
      · cases impossible
  refine ⟨fun kind authorization unrecorded wrote => ?_, ?_⟩
  · exact ((agrees kind authorization unrecorded).valid wrote).2
  · intro worktree branch result noWorktree noBranch names authorizes reported supported own
    obtain ⟨recorded, settled⟩ := settled_of_reported reported
    obtain ⟨written, valid⟩ :=
      (agrees .worktree worktree noWorktree).valid ⟨_, settled, rfl⟩
    obtain ⟨position, once⟩ := settledWorktrees_written written settled
    have behind : BranchBehind branch
        (Machine.run (cleanupStep provenance) ⟨start, none, [], 0⟩ actions).2 := by
      refine Machine.run_preserves (fun action state behind => behind.step provenance action) ?_ actions
      refine ⟨fun before entry after split event same ofBranch => ?_, fun phase impossible => ?_⟩
      · subst same
        subst ofBranch
        have recorded : event ∈
            start.operationRecords .branch event.authorization.operationId := by
          have listed : CleanupJournalEvent.cleanup ⟨.branch, event⟩ ∈ start := by
            rw [show start = _ from split]
            exact List.mem_append_right _ List.mem_cons_self
          exact List.mem_filter.mpr
            ⟨List.mem_filterMap.mpr ⟨_, listed, rfl⟩, decide_eq_true rfl⟩
        rw [noBranch] at recorded
        cases recorded
      · cases impossible
    rw [← names] at once
    have recordsBehind := behind.recordsBehind own once
    simp [validateSettledWorktreeForBranch, once, authorizes, supported, valid, recordsBehind]

namespace RemovedThenAbsent

def plannedAttempt : PlannedTaskAttempt where
  attemptId := ⟨"attempt"⟩
  baseSha := ⟨"base"⟩
  branch := "refs/heads/task"
  executor := "executor"
  runId := ⟨"cleanup-agreement-run", by decide⟩
  taskId := ⟨"task"⟩
  taskRevision := ⟨"revision"⟩
  worktree := "/task"

def worktree : WorktreeCleanupAuthorization where
  causalPredecessors := [⟨"observation"⟩]
  disposition := .abandoned 4 plannedAttempt "abandon"
  evidenceRevision := 1
  expectedHead := ⟨"head"⟩
  locator := "/task"
  observationAt := 5
  observationOperationId := ⟨"observation"⟩
  operationId := ⟨"worktree-cleanup"⟩
  owner := ⟨⟨"attempt"⟩, "refs/heads/task"⟩
  bound := ⟨rfl, rfl⟩

def branch : BranchCleanupAuthorization where
  causalPredecessors := [⟨"branch-observation"⟩]
  disposition := .abandoned 4 plannedAttempt "abandon"
  evidenceRevision := 1
  expectedHead := ⟨"head"⟩
  locator := "refs/heads/task"
  observationAt := 6
  observationOperationId := ⟨"branch-observation"⟩
  operationId := ⟨"branch-cleanup"⟩
  owner := ⟨"attempt"⟩
  worktreeCleanupOperationId := ⟨"worktree-cleanup"⟩
  bound := ⟨rfl, rfl⟩

def supported : CleanupProvenance := fun _ _ _ => none

def removed : List CleanupAction :=
  [.run .worktree worktree, .proceed, .proceed,
    .observe .worktree (.present ⟨"attempt"⟩ "refs/heads/task" ⟨"head"⟩ "/task" 1), .proceed,
    .proceed, .remove .worktree (some (.removed "refs/heads/task" "/task" 2)), .proceed]

def confirmed : List CleanupAction :=
  [.proceed, .observe .worktree (.absent "/task" 2), .proceed, .proceed, .proceed]

def crashed : List CleanupAction := .crash :: .run .worktree worktree :: confirmed

/-- The second call reports a settlement that no history check admits, nor the branch behind it. -/
theorem crashed_removal_disagrees :
    (Machine.run (cleanupStep supported) ⟨[], none, [], 0⟩ (removed ++ crashed)).1.getLast? =
        some (some ⟨.worktree, worktree,
          some (.settled (.alreadyAbsent "refs/heads/task" "/task" 2))⟩) ∧
      @cleanupHistoryIssue .worktree worktree ((Machine.run (cleanupStep supported)
        ⟨[], none, [], 0⟩ (removed ++ crashed)).2.journal.records .worktree) =
          some "cleanup settlement lacks the exact preceding absence and result identity" ∧
      validateSettledWorktreeForBranch supported (Machine.run (cleanupStep supported)
        ⟨[], none, [], 0⟩ (removed ++ crashed)).2.journal branch =
          some "cleanup settlement lacks the exact preceding absence and result identity" := by
  refine ⟨rfl, ?_, ?_⟩
  · decide +kernel
  · decide +kernel

/-- Without the crash the worktree's history is admitted, and so is its branch. -/
theorem confirmed_removal_agrees :
    @cleanupHistoryIssue .worktree worktree ((Machine.run (cleanupStep supported)
        ⟨[], none, [], 0⟩ (removed ++ confirmed)).2.journal.records .worktree) = none ∧
      validateSettledWorktreeForBranch supported (Machine.run (cleanupStep supported)
        ⟨[], none, [], 0⟩ (removed ++ confirmed)).2.journal branch = none := by
  have agree : Machine.Guarded (cleanupStep supported)
      (fun action state => cleanupAnswersAgree [] action state) ⟨[], none, [], 0⟩
      (removed ++ confirmed) := by
    decide +kernel
  obtain ⟨valid, admits⟩ := cleanup_histories_agree supported [] agree
  have written : CleanupEvent.authorized worktree ∈ (Machine.run (cleanupStep supported)
      ⟨[], none, [], 0⟩ (removed ++ confirmed)).2.journal.records .worktree := by
    decide +kernel
  have reported : (Machine.run (cleanupStep supported) ⟨[], none, [], 0⟩
      (removed ++ confirmed)).1.getLast? = some (some ⟨.worktree, worktree,
        some (.settled (.removed "refs/heads/task" "/task" 2))⟩) := rfl
  refine ⟨valid .worktree worktree rfl ⟨_, written, rfl⟩, ?_⟩
  exact admits worktree branch _ rfl rfl rfl (by decide) (List.mem_of_getLast? reported) rfl
    (by decide +kernel)

end RemovedThenAbsent

end Dalph
