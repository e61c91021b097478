import Dalph.Workflow.DispositionCleanup.Runner

/-!
# Disposition cleanup: reads and journal steps

Reads and removals of an operation are numbered.  The next read reuses a journaled intent that no
observation answers, or takes the next number; a journal step fails, replays its record or writes it.
-/

namespace Dalph

def CleanupJournal.operationRecords (journal : CleanupJournal) (kind : CleanupKind)
    (operationId : OperationId) : List (CleanupEvent kind) :=
  (journal.records kind).filter fun event => event.cleanupOperationId = operationId

namespace CleanupJournal

variable {journal : CleanupJournal} {kind : CleanupKind}

theorem cleanupRecordsFor_records (authorization : kind.Authorization) :
    cleanupRecordsFor authorization (journal.records kind) =
      journal.operationRecords kind (CleanupKind.operationId authorization) := rfl

theorem records_append_own (event : CleanupEvent kind) :
    CleanupJournal.records (journal ++ [.cleanup ⟨kind, event⟩]) kind =
      journal.records kind ++ [event] := by
  simp [records, CleanupJournalEvent.of?]

theorem records_append_other {other : CleanupKind} (different : other ≠ kind)
    (event : CleanupEvent other) :
    CleanupJournal.records (journal ++ [.cleanup ⟨other, event⟩]) kind = journal.records kind := by
  simp [records, CleanupJournalEvent.of?, different]

theorem records_append_payload (payload : Payload) :
    CleanupJournal.records (journal ++ [.other payload]) kind = journal.records kind := by
  simp [records, CleanupJournalEvent.of?]

theorem operationRecords_append_own (journal : CleanupJournal) (event : CleanupEvent kind) :
    CleanupJournal.operationRecords (journal ++ [.cleanup ⟨kind, event⟩]) kind
        event.cleanupOperationId =
      journal.operationRecords kind event.cleanupOperationId ++ [event] := by
  simp [operationRecords, records_append_own]

theorem operationRecords_append_other {other : CleanupKind} {event : CleanupEvent other}
    {operationId : OperationId}
    (different : (other, event.cleanupOperationId) ≠ (kind, operationId)) :
    CleanupJournal.operationRecords (journal ++ [.cleanup ⟨other, event⟩]) kind operationId =
      journal.operationRecords kind operationId := by
  by_cases same : other = kind
  · subst same
    have apart : event.cleanupOperationId ≠ operationId := fun equal => different (by rw [equal])
    simp [operationRecords, records_append_own, apart]
  · simp [operationRecords, records_append_other same]

theorem operationRecords_append_payload (payload : Payload) (operationId : OperationId) :
    CleanupJournal.operationRecords (journal ++ [.other payload]) kind operationId =
      journal.operationRecords kind operationId := by
  simp [operationRecords, records_append_payload]

end CleanupJournal

namespace CleanupEvent

variable {kind : CleanupKind}

def mutationAttempt? : CleanupEvent kind → Option Nat
  | mutationIntended attempt _ _ => some attempt
  | _ => none

def observationOrdinal? : CleanupEvent kind → Option Nat
  | observationIntended _ _ ordinal => some ordinal
  | _ => none

end CleanupEvent

/-- The intents of an operation are numbered from one without gaps. -/
structure CleanupNumbered {kind : CleanupKind} (family : List (CleanupEvent kind)) : Prop where
  attempts : family.filterMap (·.mutationAttempt?) =
    List.range' 1 (family.countP (·.isMutationIntended))
  ordinals : family.filterMap (·.observationOrdinal?) =
    List.range' 1 (family.countP (·.isObservationIntended))

section

variable {kind : CleanupKind} {family : List (CleanupEvent kind)}

theorem eq_of_filterMap_nodup {Item Value : Type} {select : Item → Option Value} {items : List Item}
    (distinct : (items.filterMap select).Nodup) {left right : Item} (leftMember : left ∈ items)
    (rightMember : right ∈ items) {value : Value} (ofLeft : select left = some value)
    (ofRight : select right = some value) : left = right := by
  induction items with
  | nil => cases leftMember
  | cons item items induction =>
      rw [List.filterMap_cons] at distinct
      rw [List.mem_cons] at leftMember rightMember
      have later : ∀ {other}, other ∈ items → select other = some value →
          value ∈ items.filterMap select := fun member found =>
        List.mem_filterMap.mpr ⟨_, member, found⟩
      rcases leftMember with rfl | leftMember
      · rcases rightMember with rfl | rightMember
        · rfl
        · rw [ofLeft] at distinct
          exact absurd (later rightMember ofRight) (List.nodup_cons.mp distinct).1
      · rcases rightMember with rfl | rightMember
        · rw [ofRight] at distinct
          exact absurd (later leftMember ofLeft) (List.nodup_cons.mp distinct).1
        · refine induction ?_ leftMember rightMember
          cases found : select item with
          | none => simpa [found] using distinct
          | some other =>
              rw [found] at distinct
              exact (List.nodup_cons.mp distinct).2

theorem CleanupNumbered.ordinal_le (numbered : CleanupNumbered family)
    {recorded : kind.Authorization} {operationId : OperationId} {ordinal : Nat}
    (member : .observationIntended recorded operationId ordinal ∈ family) :
    ordinal ≤ family.countP (·.isObservationIntended) := by
  have found : ordinal ∈ family.filterMap (·.observationOrdinal?) :=
    List.mem_filterMap.mpr ⟨_, member, rfl⟩
  rw [numbered.ordinals, List.mem_range'_1] at found
  omega

theorem CleanupNumbered.attempt_le (numbered : CleanupNumbered family)
    {recorded : kind.Authorization} {operationId : OperationId} {attempt : Nat}
    (member : .mutationIntended attempt recorded operationId ∈ family) :
    attempt ≤ family.countP (·.isMutationIntended) := by
  have found : attempt ∈ family.filterMap (·.mutationAttempt?) :=
    List.mem_filterMap.mpr ⟨_, member, rfl⟩
  rw [numbered.attempts, List.mem_range'_1] at found
  omega

theorem CleanupNumbered.intent_unique (numbered : CleanupNumbered family)
    {left right : kind.Authorization} {leftId rightId : OperationId} {ordinal : Nat}
    (leftMember : .observationIntended left leftId ordinal ∈ family)
    (rightMember : .observationIntended right rightId ordinal ∈ family) : leftId = rightId := by
  have distinct : (family.filterMap (·.observationOrdinal?)).Nodup := by
    rw [numbered.ordinals]
    exact List.nodup_range'
  have same := eq_of_filterMap_nodup distinct leftMember rightMember rfl rfl
  exact (CleanupEvent.observationIntended.inj same).2.1

theorem CleanupNumbered.append (numbered : CleanupNumbered family) {event : CleanupEvent kind}
    (attempt : ∀ number, event.mutationAttempt? = some number →
      number = family.countP (·.isMutationIntended) + 1)
    (ordinal : ∀ number, event.observationOrdinal? = some number →
      number = family.countP (·.isObservationIntended) + 1) :
    CleanupNumbered (family ++ [event]) := by
  have nextRange : ∀ count, List.range' 1 (count + 1) = List.range' 1 count ++ [count + 1] := by
    intro count
    rw [List.range'_1_concat, Nat.add_comm]
  constructor
  · rw [List.filterMap_append, List.countP_append, numbered.attempts]
    cases event <;> simp_all [CleanupEvent.mutationAttempt?, CleanupEvent.isMutationIntended]
  · rw [List.filterMap_append, List.countP_append, numbered.ordinals]
    cases event <;> simp_all [CleanupEvent.observationOrdinal?, CleanupEvent.isObservationIntended]

theorem CleanupNumbered.append_other (numbered : CleanupNumbered family)
    {event : CleanupEvent kind}
    (notIntent : event.mutationAttempt? = none ∧ event.observationOrdinal? = none) :
    CleanupNumbered (family ++ [event]) := by
  refine numbered.append (fun number taken => ?_) (fun number taken => ?_)
  · rw [notIntent.1] at taken
    cases taken
  · rw [notIntent.2] at taken
    cases taken

def ObservedMatched (family : List (CleanupEvent kind)) : Prop :=
  ∀ recorded observation operationId ordinal,
    CleanupEvent.observed recorded observation operationId ordinal ∈ family →
      ∃ recorded, CleanupEvent.observationIntended recorded operationId ordinal ∈ family

/-- A read intent that no observation has the number of. -/
structure FreshRead (family : List (CleanupEvent kind)) (operationId : OperationId) (ordinal : Nat) :
    Prop where
  intent : ∃ recorded, CleanupEvent.observationIntended recorded operationId ordinal ∈ family
  unobserved : ∀ recorded observation other,
    CleanupEvent.observed recorded observation other ordinal ∉ family

theorem ObservedMatched.append (matched : ObservedMatched family) {event : CleanupEvent kind}
    (answers : ∀ recorded observation operationId ordinal,
      event = .observed recorded observation operationId ordinal →
        ∃ recorded, CleanupEvent.observationIntended recorded operationId ordinal ∈ family) :
    ObservedMatched (family ++ [event]) := by
  intro recorded observation operationId ordinal member
  rw [List.mem_append, List.mem_singleton] at member
  rcases member with member | same
  · obtain ⟨recorded, found⟩ := matched recorded observation operationId ordinal member
    exact ⟨recorded, List.mem_append_left _ found⟩
  · obtain ⟨recorded, found⟩ := answers recorded observation operationId ordinal same.symm
    exact ⟨recorded, List.mem_append_left _ found⟩

end

section

variable {kind : CleanupKind} {authorization : kind.Authorization}
  {records : List (CleanupEvent kind)}

theorem mem_cleanupRecordsFor {event : CleanupEvent kind} :
    event ∈ cleanupRecordsFor authorization records ↔
      event ∈ records ∧ event.cleanupOperationId = CleanupKind.operationId authorization := by
  simp [cleanupRecordsFor]

theorem unmatchedObservationIntent_eq_some {operationId : OperationId} {ordinal : Nat}
    (found : unmatchedObservationIntent authorization records = some (operationId, ordinal)) :
    .observationIntended authorization operationId ordinal ∈
        cleanupRecordsFor authorization records ∧
      ∀ recorded observation, CleanupEvent.observed recorded observation operationId ordinal ∉
        cleanupRecordsFor authorization records := by
  obtain ⟨event, member, unmatched⟩ := List.exists_of_findSome?_eq_some found
  cases event with
  | observationIntended recorded intendedId intendedOrdinal =>
      simp only [CleanupEvent.unmatchedIntent?] at unmatched
      split at unmatched
      · rename_i open_
        obtain ⟨rfl, unanswered⟩ := open_
        simp only [Option.some.injEq, Prod.mk.injEq] at unmatched
        obtain ⟨rfl, rfl⟩ := unmatched
        refine ⟨mem_cleanupRecordsFor.mpr ⟨member, rfl⟩, fun answered observation present => ?_⟩
        obtain ⟨present, ofOperation⟩ := mem_cleanupRecordsFor.mp present
        apply unanswered
        rw [List.any_eq_true]
        exact ⟨_, present, by
          simpa [CleanupEvent.observes, CleanupEvent.cleanupOperationId,
            CleanupEvent.authorization] using ofOperation⟩
      · cases unmatched
  | authorized _ | observed _ _ _ _ | absenceConfirmed _ _ _ _ _ | mutationIntended _ _ _
  | mutationResultRecorded _ _ _ _ | contradicted _ _ _ _ | settled _ _ => cases unmatched

theorem recordedUnder_eq_true {slot : CleanupRecordSlot} :
    recordedUnder records ⟨CleanupKind.operationId authorization, slot⟩ = true ↔
      ∃ event ∈ cleanupRecordsFor authorization records, event.slot = slot := by
  simp only [recordedUnder, List.any_eq_true, decide_eq_true_eq, CleanupEvent.key,
    CleanupRecordKey.mk.injEq, mem_cleanupRecordsFor]
  constructor
  · rintro ⟨event, member, ofOperation, same⟩
    exact ⟨event, ⟨member, ofOperation⟩, same⟩
  · rintro ⟨event, ⟨member, ofOperation⟩, same⟩
    exact ⟨event, member, ofOperation, same⟩

/-- The next read reuses a journaled intent or takes the next number; either way no observation has
its number yet. -/
theorem freshRead_next (numbered : CleanupNumbered (cleanupRecordsFor authorization records))
    (matched : ObservedMatched (cleanupRecordsFor authorization records)) :
    (recordedUnder records ⟨CleanupKind.operationId authorization,
          .observationIntended (nextObservation authorization records).2⟩ = true ∧
        FreshRead (cleanupRecordsFor authorization records)
          (nextObservation authorization records).1 (nextObservation authorization records).2) ∨
      (recordedUnder records ⟨CleanupKind.operationId authorization,
          .observationIntended (nextObservation authorization records).2⟩ = false ∧
        (nextObservation authorization records).2 =
          observationIntentCount authorization records + 1 ∧
        FreshRead (cleanupRecordsFor authorization records ++
            [.observationIntended authorization (nextObservation authorization records).1
              (nextObservation authorization records).2])
          (nextObservation authorization records).1 (nextObservation authorization records).2) := by
  unfold nextObservation
  cases found : unmatchedObservationIntent authorization records with
  | some next =>
      obtain ⟨operationId, ordinal⟩ := next
      obtain ⟨intent, unanswered⟩ := unmatchedObservationIntent_eq_some found
      refine .inl ⟨recordedUnder_eq_true.mpr ⟨_, intent, rfl⟩, ⟨_, intent⟩, ?_⟩
      intro recorded observation other member
      obtain ⟨intended, otherIntent⟩ := matched recorded observation other ordinal member
      have same := numbered.intent_unique intent otherIntent
      subst same
      exact unanswered recorded observation member
  | none =>
      right
      simp only [Option.getD_none]
      have noIntent : ∀ recorded operationId, CleanupEvent.observationIntended recorded operationId
          (observationIntentCount authorization records + 1) ∉
            cleanupRecordsFor authorization records := by
        intro recorded operationId member
        have bounded := numbered.ordinal_le member
        unfold observationIntentCount at bounded
        omega
      refine ⟨?_, trivial, ⟨_, List.mem_append_right _ (List.mem_singleton_self _)⟩, ?_⟩
      · rw [Bool.eq_false_iff, ne_eq, recordedUnder_eq_true]
        rintro ⟨event, member, same⟩
        cases event with
        | observationIntended recorded operationId ordinal =>
            rw [CleanupEvent.slot, CleanupRecordSlot.observationIntended.injEq] at same
            subst same
            exact noIntent recorded operationId member
        | _ => cases same
      · intro recorded observation other member
        rw [List.mem_append, List.mem_singleton] at member
        rcases member with member | same
        · obtain ⟨intended, intent⟩ := matched recorded observation other _ member
          exact noIntent intended other intent
        · cases same

end

section

variable {kind : CleanupKind} {authorization : kind.Authorization} {journal : CleanupJournal}
  {phase : CleanupPhase kind}

theorem authorization_cleanupEventAt {records : List (CleanupEvent kind)} {event : CleanupEvent kind}
    (written : cleanupEventAt authorization records phase = some event) :
    event.authorization = authorization := by
  cases phase with
  | authorizing | recordingObservation _ _ _ _ | intendingMutation _ _ | recordingResult _ _ _ =>
      cases written
      rfl
  | intendingObservation _ | contradicting _ _ _ _ | confirmingAbsence _ _ _ _ | settling _ =>
      simp only [cleanupEventAt] at written
      split at written <;> cases written
      rfl
  | observing _ _ _ | removing _ _ => cases written

theorem proceedCleanup_cases (authorization : kind.Authorization) (phase : CleanupPhase kind)
    (journal : CleanupJournal) :
    proceedCleanup authorization phase journal = (.ended .journalFailed, journal) ∨
      (proceedCleanup authorization phase journal =
          (cleanupStageAfter authorization (journal.records kind) phase, journal) ∧
        ∀ event, cleanupEventAt authorization (journal.records kind) phase = some event →
          event ∈ journal.records kind) ∨
      ∃ event, cleanupEventAt authorization (journal.records kind) phase = some event ∧
        (∀ existing ∈ journal.records kind, existing.key ≠ event.key) ∧
        proceedCleanup authorization phase journal =
          (cleanupStageAfter authorization (journal.records kind) phase,
            journal ++ [.cleanup ⟨kind, event⟩]) := by
  cases written : cleanupEventAt authorization (journal.records kind) phase with
  | none =>
      refine .inr (.inl ⟨by simp [proceedCleanup, written], fun event impossible => ?_⟩)
      cases impossible
  | some event =>
      cases found : (journal.records kind).find? fun existing => existing.key = event.key with
      | none =>
          have absent := List.find?_eq_none.mp found
          refine .inr (.inr ⟨event, rfl, fun existing member => by simpa using absent existing member,
            ?_⟩)
          simp [proceedCleanup, written, appendCleanupEvent, found]
      | some existing =>
          have member := List.mem_of_find?_eq_some found
          by_cases same : existing = event
          · refine .inr (.inl ⟨by simp [proceedCleanup, written, appendCleanupEvent, found, same],
              fun other again => ?_⟩)
            cases again
            exact same ▸ member
          · exact .inl (by simp [proceedCleanup, written, appendCleanupEvent, found, same])

theorem beginCleanup_underway {records : List (CleanupEvent kind)} {blocked : Option String}
    (begun : beginCleanup authorization records blocked = .underway phase) :
    blocked = none ∧ cleanupHistoryIssue authorization records = none ∧
      (records.findSome? (·.contradiction? authorization) = none ∧
        records.findSome? (·.settlement? authorization) = none) ∧
      ((phase = .authorizing ∧ existingAuthorization authorization records = none) ∨
        (phase = .intendingObservation none ∧
          existingAuthorization authorization records ≠ none)) := by
  unfold beginCleanup at begun
  split at begun
  · cases begun
  · cases begun
  · rename_i admitted
    split at begun
    · cases begun
    · cases begun
    · rename_i uncontradicted unsettled
      refine ⟨rfl, admitted, ⟨uncontradicted, unsettled⟩, ?_⟩
      split at begun
      · rename_i missing
        cases begun
        exact .inl ⟨rfl, missing⟩
      · rename_i found _
        cases begun
        exact .inr ⟨rfl, by simp [found]⟩
      · rename_i found _
        split at begun <;> cases begun
        exact .inr ⟨rfl, by simp [found]⟩

theorem open_of_begun {records : List (CleanupEvent kind)}
    (admitted : cleanupHistoryIssue authorization records = none)
    (uncontradicted : records.findSome? (·.contradiction? authorization) = none)
    (unsettled : records.findSome? (·.settlement? authorization) = none)
    {event : CleanupEvent kind} (member : event ∈ cleanupRecordsFor authorization records) :
    event.isTerminal = false := by
  have own := authorization_of_cleanupHistory admitted member
  have recorded := (mem_cleanupRecordsFor.mp member).1
  rw [List.findSome?_eq_none_iff] at uncontradicted unsettled
  cases event with
  | contradicted recordedAuthorization detail observation operationId =>
      have absent := uncontradicted _ recorded
      rw [CleanupEvent.authorization] at own
      simp [CleanupEvent.contradiction?, own] at absent
  | settled recordedAuthorization result =>
      have absent := unsettled _ recorded
      rw [CleanupEvent.authorization] at own
      simp [CleanupEvent.settlement?, own] at absent
  | _ => rfl

end

section

variable {state : CleanupMachine}

variable {kind : CleanupKind}

theorem CleanupStage.call_eq_some {authorization : kind.Authorization} {stage : CleanupStage kind}
    {next : CleanupCall} (left : stage.call authorization = some next) :
    ∃ phase, stage = .underway phase ∧ next = ⟨kind, authorization, phase⟩ := by
  cases stage with
  | ended outcome => cases left
  | underway phase =>
      cases left
      exact ⟨phase, rfl, rfl⟩

theorem answerObservation_eq_some {call next : CleanupCall} {observation : kind.Observation}
    (answered : answerObservation call kind observation = some next) :
    ∃ authorization removal operationId ordinal,
      call = ⟨kind, authorization, .observing removal operationId ordinal⟩ ∧
        next = ⟨kind, authorization, .recordingObservation removal operationId ordinal observation⟩ := by
  obtain ⟨callKind, authorization, phase⟩ := call
  unfold answerObservation at answered
  split at answered
  · rename_i same
    dsimp only at same
    subst same
    cases phase with
    | observing removal operationId ordinal =>
        cases answered
        exact ⟨authorization, removal, operationId, ordinal, rfl, rfl⟩
    | _ => cases answered
  · cases answered

theorem answerRemoval_eq_some {call : CleanupCall} {result : Option kind.Result} {attempt : Nat}
    {next : Option CleanupCall} (answered : answerRemoval call kind result = some (attempt, next)) :
    ∃ authorization observation, call = ⟨kind, authorization, .removing attempt observation⟩ ∧
      next = result.map fun answer =>
        ⟨kind, authorization, .recordingResult attempt observation answer⟩ := by
  obtain ⟨callKind, authorization, phase⟩ := call
  unfold answerRemoval at answered
  split at answered
  · rename_i same
    dsimp only at same
    subst same
    cases phase with
    | removing intended observation =>
        cases answered
        exact ⟨authorization, observation, rfl, rfl⟩
    | _ => cases answered
  · cases answered

theorem journal_cleanupStep (provenance : CleanupProvenance) (action : CleanupAction) :
    (cleanupStep provenance action state).2.journal = state.journal ∨
      (∃ payload, (cleanupStep provenance action state).2.journal =
        state.journal ++ [.other payload]) ∨
      ∃ kind authorization phase event, state.call = some ⟨kind, authorization, phase⟩ ∧
        cleanupEventAt authorization (state.journal.records kind) phase = some event ∧
        (cleanupStep provenance action state).2.journal =
          state.journal ++ [.cleanup ⟨kind, event⟩] := by
  cases inFlight : state.call with
  | none =>
      cases action with
      | otherAppend payload => exact .inr (.inl ⟨payload, rfl⟩)
      | run _ _ | proceed | observe _ _ | remove _ _ | crash =>
          exact .inl (by simp only [cleanupStep, inFlight])
  | some call =>
      cases action with
      | otherAppend payload => exact .inr (.inl ⟨payload, rfl⟩)
      | proceed =>
          obtain ⟨kind, authorization, phase⟩ := call
          simp only [cleanupStep, inFlight]
          rcases proceedCleanup_cases authorization phase state.journal with failed | ⟨replayed, -⟩ |
            ⟨event, written, -, appended⟩
          · exact .inl (by rw [failed])
          · exact .inl (by rw [replayed])
          · exact .inr (.inr ⟨kind, authorization, phase, event, rfl, written, by rw [appended]⟩)
      | observe _ _ | remove _ _ =>
          left
          simp only [cleanupStep, inFlight]
          split <;> rfl
      | run _ _ | crash => exact .inl (by simp only [cleanupStep, inFlight])

variable {provenance : CleanupProvenance}

theorem cleanupRecord_cleanupStep {action : CleanupAction} {event : CleanupEvent kind}
    (appended : (cleanupStep provenance action state).2.journal =
      state.journal ++ [.cleanup ⟨kind, event⟩]) :
    ∃ authorization phase, state.call = some ⟨kind, authorization, phase⟩ ∧
      cleanupEventAt authorization (state.journal.records kind) phase = some event := by
  rcases journal_cleanupStep provenance action with unchanged | ⟨payload, other⟩ |
    ⟨written, authorization, phase, recorded, inFlight, found, grown⟩
  · rw [unchanged] at appended
    simp at appended
  · rw [other, List.append_cancel_left_eq] at appended
    cases appended
  · rw [grown, List.append_cancel_left_eq] at appended
    cases appended
    exact ⟨authorization, phase, inFlight, found⟩

theorem call_cleanupStep {action : CleanupAction} {authorization : kind.Authorization}
    {phase : CleanupPhase kind}
    (after : (cleanupStep provenance action state).2.call = some ⟨kind, authorization, phase⟩) :
    (∃ earlier, state.call = some ⟨kind, authorization, earlier⟩) ∨
      cleanupBlocked provenance state.journal kind authorization = none := by
  cases inFlight : state.call with
  | none =>
      cases action with
      | run callKind callAuthorization =>
          simp only [cleanupStep, inFlight] at after
          obtain ⟨reached, begun, same⟩ := CleanupStage.call_eq_some after
          cases same
          exact .inr (beginCleanup_underway begun).1
      | proceed | observe _ _ | remove _ _ | crash | otherAppend _ =>
          simp [cleanupStep, inFlight] at after
  | some call =>
      cases action with
      | proceed =>
          simp only [cleanupStep, inFlight] at after
          obtain ⟨reached, -, same⟩ := CleanupStage.call_eq_some after
          cases same
          exact .inl ⟨call.phase, rfl⟩
      | observe answerKind observation =>
          simp only [cleanupStep, inFlight] at after
          cases answered : answerObservation call answerKind observation with
          | none =>
              rw [answered] at after
              exact .inl ⟨phase, inFlight.symm.trans after⟩
          | some next =>
              obtain ⟨own, removal, operationId, ordinal, rfl, rfl⟩ :=
                answerObservation_eq_some answered
              rw [answered] at after
              cases after
              exact .inl ⟨_, rfl⟩
      | remove answerKind result =>
          simp only [cleanupStep, inFlight] at after
          cases answered : answerRemoval call answerKind result with
          | none =>
              rw [answered] at after
              exact .inl ⟨phase, inFlight.symm.trans after⟩
          | some answer =>
              obtain ⟨attempt, next⟩ := answer
              obtain ⟨own, observation, rfl, rfl⟩ := answerRemoval_eq_some answered
              rw [answered] at after
              cases result with
              | none => cases after
              | some answer =>
                  cases after
                  exact .inl ⟨_, rfl⟩
      | crash => simp [cleanupStep] at after
      | run _ _ | otherAppend _ =>
          simp only [cleanupStep, inFlight] at after
          exact .inl ⟨phase, after⟩

theorem settling_of_written {authorization recorded : kind.Authorization}
    {records : List (CleanupEvent kind)} {phase : CleanupPhase kind} {result : kind.Result}
    (written : cleanupEventAt authorization records phase = some (.settled recorded result)) :
    recorded = authorization ∧ phase = .settling result := by
  refine ⟨authorization_cleanupEventAt written, ?_⟩
  cases phase with
  | settling settled =>
      simp only [cleanupEventAt] at written
      split at written <;> cases written
      rfl
  | intendingObservation _ | contradicting _ _ _ _ | confirmingAbsence _ _ _ _ =>
      simp only [cleanupEventAt] at written
      split at written <;> cases written
  | authorizing | observing _ _ _ | recordingObservation _ _ _ _ | intendingMutation _ _
  | removing _ _ | recordingResult _ _ _ => cases written

theorem settled_of_not_blocked {journal : CleanupJournal}
    {authorization : BranchCleanupAuthorization}
    (admitted : cleanupBlocked provenance journal .branch authorization = none) :
    settledWorktrees journal authorization.worktreeCleanupOperationId ≠ [] := by
  intro unsettled
  rw [cleanupBlocked, Option.or_eq_none_iff] at admitted
  obtain ⟨-, admitted⟩ := admitted
  rw [validateSettledWorktreeForBranch, unsettled] at admitted
  cases admitted

theorem settledWorktrees_append {journal : CleanupJournal} {operationId : OperationId}
    (settled : settledWorktrees journal operationId ≠ []) (event : CleanupJournalEvent) :
    settledWorktrees (journal ++ [event]) operationId ≠ [] := by
  unfold settledWorktrees at *
  rw [List.zipIdx_append, List.filterMap_append]
  simp [settled]

end

end Dalph
