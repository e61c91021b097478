import Dalph.Workflow.DispositionCleanup.Reads

/-!
# Disposition cleanup: histories that a runner writes

A call writes records of its own authorization, in the order that the reducer admits.  As long as the
answers name the authorized resource, and no call finds an absence that its own recorded removal
already explains otherwise, every journal step leaves a history that the next call admits.
-/

namespace Dalph

/-- The observation names the authorized resource, and an absence that a call begins with agrees with
the applied result that is recorded. -/
def observationAgrees {kind : CleanupKind} (authorization : kind.Authorization)
    (family : List (CleanupEvent kind)) (removal : Option (Nat × kind.Result))
    (observation : kind.Observation) : Bool :=
  observationIdentityMatches observation authorization &&
    match removal, CleanupKind.absentRevision? observation, latestApplied family with
    | none, some revision, some applied => applied = CleanupKind.alreadyAbsent authorization revision
    | _, _, _ => true

section

variable {kind : CleanupKind} {authorization : kind.Authorization}
  {family : List (CleanupEvent kind)}

/-- The records of an operation that its runner has written so far. -/
structure CleanupWritten (authorization : kind.Authorization) (family : List (CleanupEvent kind)) :
    Prop where
  own : ∀ event ∈ family, event.authorization = authorization
  admitted : family = [] ∨ (cleanupPrefixIssue authorization family = none ∧
    ∃ state, reduceCleanupHistory authorization family = .ok state)
  numbered : CleanupNumbered family
  /-- Only the latest read may be unanswered. -/
  reads : family.filterMap (·.observed?) = family.filterMap (·.intent?) ∨
    ∃ last, family.filterMap (·.observed?) ++ [last] = family.filterMap (·.intent?)
  absences : ∀ recorded cause observation operationId ordinal,
    CleanupEvent.absenceConfirmed recorded cause observation operationId ordinal ∈ family →
      (operationId, ordinal) ∈ family.filterMap (·.observed?)
  results : ∀ attempt ∈ family.filterMap (·.resultAttempt?),
    attempt ≤ family.countP (·.isMutationIntended)

def RemovalKnown (authorization : kind.Authorization) (family : List (CleanupEvent kind))
    (removal : Option (Nat × kind.Result)) : Prop :=
  ∀ attempt result, removal = some (attempt, result) → latestApplied family = some result ∧
    CleanupKind.resultMatchesAuthorization result authorization = true

def ReadOpen (family : List (CleanupEvent kind)) (operationId : OperationId) (ordinal : Nat) : Prop :=
  family.filterMap (·.observed?) ++ [(operationId, ordinal)] = family.filterMap (·.intent?)

def ReadAnswered (authorization : kind.Authorization) (family : List (CleanupEvent kind))
    (observation : kind.Observation) (operationId : OperationId) (ordinal : Nat) : Prop :=
  (∃ before, family = before ++ [.observed authorization observation operationId ordinal]) ∧
    family.filterMap (·.observed?) = family.filterMap (·.intent?) ∧
    CleanupKind.observationHasAuthorizedLocator observation authorization = true

def Settles (authorization : kind.Authorization) (family : List (CleanupEvent kind))
    (absence : kind.Observation) (result : kind.Result) : Prop :=
  settlementResultMatches authorization result absence (latestApplied family) = true ∧
    CleanupKind.resultMatchesAuthorization result authorization = true

def RemovalOpen (authorization : kind.Authorization) (family : List (CleanupEvent kind))
    (attempt : Nat) : Prop :=
  (∃ before, family = before ++
    [.mutationIntended attempt authorization (mutationOperationId authorization attempt)]) ∧
    ∀ recorded ∈ family.filterMap (·.resultAttempt?), recorded < attempt

/-- What a call in flight knows of the records it continues. -/
def PhaseWritten (authorization : kind.Authorization) (family : List (CleanupEvent kind)) :
    CleanupPhase kind → Prop
  | .authorizing => family = []
  | .intendingObservation removal => family ≠ [] ∧ RemovalKnown authorization family removal
  | .observing removal operationId ordinal =>
      ReadOpen family operationId ordinal ∧ RemovalKnown authorization family removal
  | .recordingObservation removal operationId ordinal observation =>
      ReadOpen family operationId ordinal ∧ RemovalKnown authorization family removal ∧
        observationAgrees authorization family removal observation = true
  | .intendingMutation attempt observation =>
      (∃ operationId ordinal, ReadAnswered authorization family observation operationId ordinal) ∧
        CleanupKind.isPresent observation = true ∧
        attempt = family.countP (·.isMutationIntended) + 1 ∧ attempt ≤ cleanupMutationRequestLimit
  | .removing attempt _ => RemovalOpen authorization family attempt
  | .recordingResult attempt _ result => RemovalOpen authorization family attempt ∧
      CleanupKind.resultMatchesAuthorization result authorization = true
  | .contradicting observation operationId _ _ =>
      ∃ ordinal, ReadAnswered authorization family observation operationId ordinal
  | .confirmingAbsence observation operationId ordinal result =>
      ReadAnswered authorization family observation operationId ordinal ∧
        (∀ recorded cause absence other,
          CleanupEvent.absenceConfirmed recorded cause absence other ordinal ∉ family) ∧
        Settles authorization family observation result
  | .settling result =>
      (∃ before cause observation operationId ordinal, family =
        before ++ [.absenceConfirmed authorization cause observation operationId ordinal] ∧
          Settles authorization family observation result)

/-- A call in flight continues an open history of its own. -/
structure CallWritten (authorization : kind.Authorization) (family : List (CleanupEvent kind))
    (phase : CleanupPhase kind) : Prop where
  written : CleanupWritten authorization family
  open_ : ∀ event ∈ family, event.isTerminal = false
  phase : PhaseWritten authorization family phase

theorem CleanupNumbered.intents (numbered : CleanupNumbered family) :
    (family.filterMap (·.intent?)).map (·.2) =
      List.range' 1 (family.countP (·.isObservationIntended)) := by
  rw [← numbered.ordinals, List.map_filterMap]
  congr 1
  funext event
  cases event <;> rfl

variable {operationId : OperationId} {ordinal : Nat}

theorem ReadOpen.fresh (read : ReadOpen family operationId ordinal)
    (numbered : CleanupNumbered family) (other : OperationId) :
    (other, ordinal) ∉ family.filterMap (·.observed?) := by
  intro member
  have distinct : ((family.filterMap (·.intent?)).map (·.2)).Nodup := by
    rw [numbered.intents]
    exact List.nodup_range'
  rw [← read, List.map_append, List.nodup_append] at distinct
  exact distinct.2.2 ordinal (List.mem_map.mpr ⟨_, member, rfl⟩) ordinal (by simp) rfl

variable {observation : kind.Observation}

theorem ReadOpen.answered (read : ReadOpen family operationId ordinal)
    (located : CleanupKind.observationHasAuthorizedLocator observation authorization = true) :
    ReadAnswered authorization
      (family ++ [.observed authorization observation operationId ordinal]) observation operationId
      ordinal := by
  refine ⟨⟨family, rfl⟩, ?_, located⟩
  rw [List.filterMap_append, List.filterMap_append]
  exact read.trans (List.append_nil _).symm

variable {records : List (CleanupEvent kind)}

theorem unmatchedObservationIntent_isSome {last : OperationId × Nat}
    (written : CleanupWritten authorization (cleanupRecordsFor authorization records))
    (unanswered : ReadOpen (cleanupRecordsFor authorization records) last.1 last.2) :
    (unmatchedObservationIntent authorization records).isSome := by
  have intended : last ∈ (cleanupRecordsFor authorization records).filterMap (·.intent?) := by
    rw [← unanswered]
    simp
  obtain ⟨event, member, same⟩ := List.mem_filterMap.mp intended
  cases event with
  | observationIntended recorded operationId ordinal =>
      cases same
      have own : recorded = authorization := written.own _ member
      rw [unmatchedObservationIntent, List.findSome?_isSome_iff]
      refine ⟨_, (mem_cleanupRecordsFor.mp member).1, ?_⟩
      have none_ : ¬ (records.any (·.observes authorization operationId ordinal)) := by
        rw [List.any_eq_true]
        rintro ⟨other, found, observes⟩
        cases other with
        | observed answered observation otherId otherOrdinal =>
            simp only [CleanupEvent.observes, Bool.and_eq_true, decide_eq_true_eq] at observes
            obtain ⟨⟨ofOperation, rfl⟩, rfl⟩ := observes
            refine unanswered.fresh written.numbered otherId ?_
            exact List.mem_filterMap.mpr ⟨_, mem_cleanupRecordsFor.mpr ⟨found, ofOperation⟩, rfl⟩
        | _ => cases observes
      simp [CleanupEvent.unmatchedIntent?, own, none_]
  | _ => cases same

/-- The next read is the unanswered one, or all reads are answered and it takes the next number. -/
theorem nextObservation_written
    (written : CleanupWritten authorization (cleanupRecordsFor authorization records)) :
    (recordedUnder records ⟨CleanupKind.operationId authorization,
          .observationIntended (nextObservation authorization records).2⟩ = true ∧
        ReadOpen (cleanupRecordsFor authorization records)
          (nextObservation authorization records).1 (nextObservation authorization records).2) ∨
      (recordedUnder records ⟨CleanupKind.operationId authorization,
          .observationIntended (nextObservation authorization records).2⟩ = false ∧
        (nextObservation authorization records).2 =
          observationIntentCount authorization records + 1 ∧
        (cleanupRecordsFor authorization records).filterMap (·.observed?) =
          (cleanupRecordsFor authorization records).filterMap (·.intent?)) := by
  have matched : ObservedMatched (cleanupRecordsFor authorization records) := by
    intro recorded observation operationId ordinal member
    have observed : (operationId, ordinal) ∈
        (cleanupRecordsFor authorization records).filterMap (·.observed?) :=
      List.mem_filterMap.mpr ⟨_, member, rfl⟩
    have intended : (operationId, ordinal) ∈
        (cleanupRecordsFor authorization records).filterMap (·.intent?) := by
      rcases written.reads with same | ⟨last, grown⟩
      · exact same ▸ observed
      · exact grown ▸ List.mem_append_left _ observed
    obtain ⟨event, found, same⟩ := List.mem_filterMap.mp intended
    cases event with
    | observationIntended recorded _ _ =>
        cases same
        exact ⟨recorded, found⟩
    | _ => cases same
  rcases freshRead_next written.numbered matched with ⟨recorded, fresh⟩ | ⟨unrecorded, number, -⟩
  · refine .inl ⟨recorded, ?_⟩
    obtain ⟨intended, member⟩ := fresh.intent
    have found : nextObservation authorization records ∈
        (cleanupRecordsFor authorization records).filterMap (·.intent?) :=
      List.mem_filterMap.mpr ⟨_, member, rfl⟩
    have unobserved : nextObservation authorization records ∉
        (cleanupRecordsFor authorization records).filterMap (·.observed?) := by
      intro observed
      obtain ⟨event, present, same⟩ := List.mem_filterMap.mp observed
      cases event with
      | observed answered observation operationId ordinal =>
          have number := congrArg Prod.snd (Option.some.inj same)
          exact fresh.unobserved answered observation operationId (number ▸ present)
      | _ => cases same
    rcases written.reads with same | ⟨last, grown⟩
    · exact absurd (same ▸ found) unobserved
    · rw [← grown, List.mem_append, List.mem_singleton] at found
      rcases found with observed | rfl
      · exact absurd observed unobserved
      · exact grown
  · refine .inr ⟨unrecorded, number, ?_⟩
    rcases written.reads with same | ⟨last, grown⟩
    · exact same
    · obtain ⟨next, found⟩ :=
        Option.isSome_iff_exists.mp (unmatchedObservationIntent_isSome written grown)
      have intended := (unmatchedObservationIntent_eq_some found).1
      have bounded := written.numbered.ordinal_le intended
      rw [nextObservation, found, Option.getD_some, observationIntentCount] at number
      omega

variable {event : CleanupEvent kind}

theorem cleanupPrefixIssue_append (nonempty : family ≠ [])
    (notAuthorized : event.isAuthorized = false) :
    cleanupPrefixIssue authorization (family ++ [event]) = cleanupPrefixIssue authorization family := by
  have authorizations : (family ++ [event]).filter (·.isAuthorized) = family.filter (·.isAuthorized) := by
    simp [List.filter_append, notAuthorized]
  have head : (family ++ [event]).head? = family.head? := List.head?_append_of_ne_nil family nonempty
  unfold cleanupPrefixIssue
  rw [authorizations, head]

variable {state : CleanupHistoryState kind}

theorem reduceCleanupEvent_open (facts : CleanupReduced authorization family state)
    (open_ : ∀ event ∈ family, event.isTerminal = false) (own : event.authorization = authorization)
    (notAuthorized : event.isAuthorized = false) (position : JournalPosition) :
    reduceCleanupEvent authorization state (event, position) =
      admitCleanupEvent authorization position state event := by
  have running : (state.settled || state.contradicted) = false := by
    rw [facts.ended, List.any_eq_false]
    intro event member
    simp [open_ event member]
  rw [Bool.or_eq_false_iff] at running
  simp [reduceCleanupEvent, notAuthorized, own, running.1, running.2]

theorem CleanupWritten.append (written : CleanupWritten authorization family)
    (nonempty : family ≠ []) (open_ : ∀ event ∈ family, event.isTerminal = false)
    {event : CleanupEvent kind} (own : event.authorization = authorization)
    (notAuthorized : event.isAuthorized = false)
    (admits : ∀ state, CleanupReduced authorization family state →
      reduceCleanupHistory authorization family = .ok state →
        ∃ next, admitCleanupEvent authorization family.length state event = .ok next)
    (numbered : CleanupNumbered (family ++ [event]))
    (reads : (family ++ [event]).filterMap (·.observed?) = (family ++ [event]).filterMap (·.intent?) ∨
      ∃ last, (family ++ [event]).filterMap (·.observed?) ++ [last] =
        (family ++ [event]).filterMap (·.intent?))
    (absence : ∀ recorded cause observation operationId ordinal,
      event = .absenceConfirmed recorded cause observation operationId ordinal →
        (operationId, ordinal) ∈ family.filterMap (·.observed?))
    (result : ∀ attempt, event.resultAttempt? = some attempt →
      attempt ≤ family.countP (·.isMutationIntended)) :
    CleanupWritten authorization (family ++ [event]) := by
  refine ⟨fun other member => ?_, .inr ?_, numbered, reads,
    fun recorded cause observation operationId ordinal member => ?_, fun attempt member => ?_⟩
  · rw [List.mem_append, List.mem_singleton] at member
    rcases member with member | rfl
    · exact written.own other member
    · exact own
  · obtain ⟨valid, state, reduced⟩ := written.admitted.resolve_left nonempty
    obtain ⟨next, admitted⟩ := admits state (cleanupReduced reduced) reduced
    refine ⟨by rw [cleanupPrefixIssue_append nonempty notAuthorized, valid], next, ?_⟩
    rw [reduceCleanupHistory_concat, reduced]
    exact (reduceCleanupEvent_open (cleanupReduced reduced) open_ own notAuthorized _).trans admitted
  · rw [List.filterMap_append]
    rw [List.mem_append, List.mem_singleton] at member
    rcases member with member | same
    · exact List.mem_append_left _
        (written.absences recorded cause observation operationId ordinal member)
    · exact List.mem_append_left _ (absence recorded cause observation operationId ordinal same.symm)
  · rw [List.countP_append]
    rw [List.filterMap_append, List.mem_append] at member
    rcases member with member | member
    · exact Nat.le_add_right_of_le (written.results attempt member)
    · refine Nat.le_add_right_of_le (result attempt ?_)
      simpa [List.mem_filterMap] using member

theorem cleanupWritten_nil : CleanupWritten authorization [] :=
  ⟨by simp, .inl rfl, ⟨rfl, rfl⟩, .inl rfl, by simp, by simp⟩

theorem cleanupWritten_authorized :
    CleanupWritten authorization [.authorized authorization] := by
  refine ⟨by simp [CleanupEvent.authorization], .inr ⟨?_, _, rfl⟩, ⟨rfl, rfl⟩, .inl rfl, ?_, ?_⟩
  · simp [cleanupPrefixIssue, CleanupEvent.isAuthorized, CleanupEvent.authorization]
  · simp
  · simp [CleanupEvent.resultAttempt?]

section

variable (written : CleanupWritten authorization family)
include written

theorem reads_append_other (notRead : event.observed? = none ∧ event.intent? = none) :
    (family ++ [event]).filterMap (·.observed?) = (family ++ [event]).filterMap (·.intent?) ∨
      ∃ last, (family ++ [event]).filterMap (·.observed?) ++ [last] =
        (family ++ [event]).filterMap (·.intent?) := by
  rw [List.filterMap_append, List.filterMap_append]
  simpa [notRead.1, notRead.2] using written.reads

theorem CleanupWritten.intended (nonempty : family ≠ [])
    (open_ : ∀ event ∈ family, event.isTerminal = false)
    (answered : family.filterMap (·.observed?) = family.filterMap (·.intent?))
    (number : ordinal = family.countP (·.isObservationIntended) + 1) :
    CleanupWritten authorization (family ++ [.observationIntended authorization operationId ordinal]) ∧
      ReadOpen (family ++ [.observationIntended authorization operationId ordinal]) operationId
        ordinal := by
  have read : ReadOpen (family ++ [.observationIntended authorization operationId ordinal])
      operationId ordinal := by
    unfold ReadOpen
    rw [List.filterMap_append, List.filterMap_append, answered]
    simp [CleanupEvent.observed?, CleanupEvent.intent?]
  refine ⟨written.append nonempty open_ rfl rfl ?_ ?_ (.inr ⟨_, read⟩)
    (fun _ _ _ _ _ impossible => by cases impossible) (fun _ impossible => by cases impossible), read⟩
  · intro state facts reduced
    have fresh : (operationId, ordinal) ∉ state.intents := by
      intro member
      rw [facts.intents] at member
      have taken : ordinal ∈ (family.filterMap (·.intent?)).map (·.2) :=
        List.mem_map.mpr ⟨_, member, rfl⟩
      rw [written.numbered.intents, List.mem_range'_1] at taken
      omega
    exact ⟨_, if_neg fresh⟩
  · refine written.numbered.append (fun _ impossible => by cases impossible) fun taken same => ?_
    cases same
    exact number

theorem CleanupWritten.observed (open_ : ∀ event ∈ family, event.isTerminal = false)
    (read : ReadOpen family operationId ordinal)
    (matches_ : observationIdentityMatches observation authorization = true) :
    CleanupWritten authorization
      (family ++ [.observed authorization observation operationId ordinal]) := by
  have intended : (operationId, ordinal) ∈ family.filterMap (·.intent?) := by
    rw [← read]
    simp
  have nonempty : family ≠ [] := by
    rintro rfl
    cases intended
  refine written.append nonempty open_ rfl rfl ?_ (written.numbered.append_other ⟨rfl, rfl⟩) ?_
    (fun _ _ _ _ _ impossible => by cases impossible) (fun _ impossible => by cases impossible)
  · intro state facts reduced
    have unobserved : ∀ fact ∈ state.observations,
        (fact.operationId, fact.ordinal) ≠ (operationId, ordinal) := by
      intro fact member same
      have found : (operationId, ordinal) ∈
          state.observations.map fun fact => (fact.operationId, fact.ordinal) :=
        List.mem_map.mpr ⟨fact, member, same⟩
      rw [facts.observations] at found
      exact read.fresh written.numbered operationId found
    exact ⟨_, if_pos ⟨facts.intents ▸ intended, matches_, unobserved⟩⟩
  · left
    rw [List.filterMap_append, List.filterMap_append]
    exact read.trans (List.append_nil _).symm

end

theorem latest_of_observed {before : List (CleanupEvent kind)}
    (reduced : reduceCleanupHistory authorization
      (before ++ [.observed authorization observation operationId ordinal]) = .ok state) :
    ∃ earlier, reduceCleanupHistory authorization before = .ok earlier ∧
      state.observations.getLast? = some ⟨before.length, observation, operationId, ordinal⟩ ∧
      state.mutations = earlier.mutations ∧ state.mutationResults = earlier.mutationResults := by
  obtain ⟨earlier, previous, last⟩ := reduceCleanupHistory_concat_eq_ok reduced
  rcases reduceCleanupEvent_eq_ok last with ⟨impossible, -⟩ | ⟨-, -, -, admitted⟩
  · cases impossible
  · simp only [admitCleanupEvent, admitObserved] at admitted
    split at admitted <;> cases admitted
    exact ⟨earlier, previous, by simp, rfl, rfl⟩

section

variable (written : CleanupWritten authorization family)
  (open_ : ∀ event ∈ family, event.isTerminal = false)
include written open_

theorem CleanupWritten.mutationIntended {observationId : OperationId}
    (answered : ReadAnswered authorization family observation observationId ordinal)
    (present : CleanupKind.isPresent observation = true) {attempt : Nat}
    (number : attempt = family.countP (·.isMutationIntended) + 1)
    (allowed : attempt ≤ cleanupMutationRequestLimit) (operationId : OperationId) :
    CleanupWritten authorization (family ++ [.mutationIntended attempt authorization operationId]) := by
  obtain ⟨⟨before, last⟩, -, -⟩ := answered
  refine written.append (by rw [last]; simp) open_ rfl rfl ?_ ?_
    (reads_append_other written ⟨rfl, rfl⟩) (fun _ _ _ _ _ impossible => by cases impossible)
    (fun _ impossible => by cases impossible)
  · intro state facts reduced
    rw [last] at reduced
    obtain ⟨-, -, latest, -, -⟩ := latest_of_observed reduced
    have fresh : ∀ mutation ∈ state.mutations, mutation.2.1 ≠ attempt := by
      intro mutation member same
      have found : mutation.2 ∈ state.mutations.map (·.2) := List.mem_map.mpr ⟨_, member, rfl⟩
      rw [facts.mutations] at found
      obtain ⟨event, recorded, taken⟩ := List.mem_filterMap.mp found
      cases event with
      | mutationIntended other _ _ =>
          have bounded := written.numbered.attempt_le recorded
          have equal : other = mutation.2.1 := congrArg Prod.fst (Option.some.inj taken)
          omega
      | _ => cases taken
    refine ⟨_, if_pos ⟨⟨by omega, allowed⟩, fresh, ?_⟩⟩
    rw [latest]
    exact present
  · refine written.numbered.append (fun taken same => ?_) fun _ impossible => by cases impossible
    cases same
    exact number

theorem CleanupWritten.resultRecorded {attempt : Nat}
    (removal : RemovalOpen authorization family attempt) {result : kind.Result}
    (matches_ : CleanupKind.resultMatchesAuthorization result authorization = true) :
    CleanupWritten authorization (family ++ [.mutationResultRecorded attempt authorization
      (mutationOperationId authorization attempt) result]) := by
  obtain ⟨⟨before, last⟩, fresh⟩ := removal
  have member : CleanupEvent.mutationIntended attempt authorization
      (mutationOperationId authorization attempt) ∈ family := by
    rw [last]
    simp
  refine written.append (by rw [last]; simp) open_ rfl rfl ?_
    (written.numbered.append_other ⟨rfl, rfl⟩) (reads_append_other written ⟨rfl, rfl⟩)
    (fun _ _ _ _ _ impossible => by cases impossible) ?_
  · intro state facts reduced
    have intended : state.mutations.any fun mutation =>
        mutation.2.1 = attempt ∧ mutation.2.2 = mutationOperationId authorization attempt := by
      have found : (attempt, mutationOperationId authorization attempt) ∈
          family.filterMap (·.mutation?) := List.mem_filterMap.mpr ⟨_, member, rfl⟩
      rw [← facts.mutations] at found
      obtain ⟨mutation, taken, same⟩ := List.mem_map.mp found
      exact List.any_eq_true.mpr ⟨mutation, taken, by simp [same]⟩
    have unrecorded : ∀ recorded ∈ state.mutationResults, recorded.2.1 ≠ attempt := by
      intro recorded taken
      have found : recorded.2.1 ∈ state.mutationResults.map (·.2.1) :=
        List.mem_map.mpr ⟨recorded, taken, rfl⟩
      rw [facts.results] at found
      exact (fresh _ found).ne
    exact ⟨_, if_pos ⟨intended, matches_, unrecorded⟩⟩
  · intro other same
    cases same
    exact written.numbered.attempt_le member

theorem CleanupWritten.contradicted
    (answered : ReadAnswered authorization family observation operationId ordinal) (detail : String)
    :
    CleanupWritten authorization
      (family ++ [.contradicted authorization detail observation operationId]) := by
  obtain ⟨⟨before, last⟩, closed, located⟩ := answered
  refine written.append (by rw [last]; simp) open_ rfl rfl ?_
    (written.numbered.append_other ⟨rfl, rfl⟩) (reads_append_other written ⟨rfl, rfl⟩)
    (fun _ _ _ _ _ impossible => by cases impossible) (fun _ impossible => by cases impossible)
  intro state facts reduced
  rw [last] at reduced
  obtain ⟨-, -, latest, -, -⟩ := latest_of_observed reduced
  have intent : state.intents.getLast? = some (operationId, ordinal) := by
    rw [facts.intents, ← closed, ← facts.observations, List.getLast?_map, latest]
    rfl
  refine ⟨{ state with contradicted := true }, ?_⟩
  simp only [admitCleanupEvent, admitContradiction, latest, intent]
  rw [if_pos ⟨trivial, trivial, located⟩]

end

theorem derivedCause_eq
    (own : ∀ event ∈ cleanupRecordsFor authorization records, event.authorization = authorization)
    (facts : CleanupReduced authorization (cleanupRecordsFor authorization records) state) :
    derivedCause authorization records = state.expectedCause := by
  have removed : (records.any fun event =>
      event.isMutationIntended ∧ event.authorization = authorization) = true ↔
        state.mutations ≠ [] := by
    rw [ne_eq, ← List.map_eq_nil_iff (f := (·.2)), facts.mutations, List.any_eq_true,
      List.filterMap_eq_nil_iff]
    push Not
    constructor
    · rintro ⟨event, member, holds⟩
      obtain ⟨intended, ofAuthorization⟩ := of_decide_eq_true holds
      refine ⟨event, mem_cleanupRecordsFor.mpr ⟨member, ?_⟩, ?_⟩
      · rw [CleanupEvent.cleanupOperationId, ofAuthorization]
      · cases event with
        | mutationIntended _ _ _ => exact Option.some_ne_none _
        | _ => cases intended
    · rintro ⟨event, member, intended⟩
      refine ⟨event, (mem_cleanupRecordsFor.mp member).1, decide_eq_true ⟨?_, own event member⟩⟩
      cases event with
      | mutationIntended _ _ _ => rfl
      | _ => exact absurd rfl intended
  unfold derivedCause CleanupHistoryState.expectedCause
  by_cases empty : state.mutations = []
  · rw [if_pos empty, if_neg (fun holds => removed.mp holds empty)]
  · rw [if_neg empty, if_pos (removed.mpr empty)]

theorem resultForLatestIntent_mem {result : JournalPosition × Nat × kind.Result}
    (found : state.resultForLatestIntent = some result) : result ∈ state.mutationResults := by
  unfold CleanupHistoryState.resultForLatestIntent at found
  split at found
  · rename_i mutation last intended recorded
    split at found <;> cases found
    exact List.mem_of_getLast? recorded
  · cases found

theorem CleanupWritten.absenceConfirmed
    (written : CleanupWritten authorization (cleanupRecordsFor authorization records))
    (open_ : ∀ event ∈ cleanupRecordsFor authorization records, event.isTerminal = false)
    (answered : ReadAnswered authorization (cleanupRecordsFor authorization records) observation
      operationId ordinal) (absent : (CleanupKind.absentRevision? observation).isSome) :
    CleanupWritten authorization (cleanupRecordsFor authorization records ++
      [.absenceConfirmed authorization (derivedCause authorization records) observation operationId
        ordinal]) := by
  obtain ⟨⟨before, last⟩, -, located⟩ := answered
  refine written.append (by rw [last]; simp) open_ rfl rfl ?_
    (written.numbered.append_other ⟨rfl, rfl⟩) (reads_append_other written ⟨rfl, rfl⟩) ?_
    (fun _ impossible => by cases impossible)
  · intro state facts reduced
    have cause := derivedCause_eq written.own facts
    rw [last] at reduced
    obtain ⟨earlier, previous, latest, sameMutations, sameResults⟩ := latest_of_observed reduced
    have after : state.observedAfterRemoval ⟨before.length, observation, operationId, ordinal⟩ =
        true := by
      have earlierFacts := cleanupReduced previous
      unfold CleanupHistoryState.observedAfterRemoval
      cases mutation : state.mutations.getLast? with
      | none => rfl
      | some mutation =>
          rw [sameMutations] at mutation
          have removed := earlierFacts.mutationsEarlier _ (List.mem_of_getLast? mutation)
          cases result : state.resultForLatestIntent with
          | none => simpa using removed
          | some result =>
              have recorded := resultForLatestIntent_mem result
              rw [sameResults] at recorded
              simpa using earlierFacts.resultsEarlier _ recorded
    refine ⟨{ state with latestAbsence := some observation }, ?_⟩
    simp only [admitCleanupEvent, admitAbsence, latest]
    rw [if_pos ⟨trivial, located, trivial, absent, after, cause⟩]
  · intro recorded cause other otherId otherOrdinal same
    cases same
    rw [last, List.filterMap_append]
    exact List.mem_append_right _ (List.mem_singleton_self _)

theorem CleanupWritten.settled (written : CleanupWritten authorization family)
    (open_ : ∀ event ∈ family, event.isTerminal = false) {before : List (CleanupEvent kind)}
    {cause : CleanupAbsenceCause}
    (last : family = before ++
      [.absenceConfirmed authorization cause observation operationId ordinal])
    {result : kind.Result} (settles : Settles authorization family observation result) :
    CleanupWritten authorization (family ++ [.settled authorization result]) := by
  refine written.append (by rw [last]; simp) open_ rfl rfl ?_
    (written.numbered.append_other ⟨rfl, rfl⟩) (reads_append_other written ⟨rfl, rfl⟩)
    (fun _ _ _ _ _ impossible => by cases impossible) (fun _ impossible => by cases impossible)
  intro state facts reduced
  have absence : state.latestAbsence = some observation := by
    rw [last] at reduced
    obtain ⟨earlier, -, confirmed⟩ := reduceCleanupHistory_concat_eq_ok reduced
    rcases reduceCleanupEvent_eq_ok confirmed with ⟨impossible, -⟩ | ⟨-, -, -, admitted⟩
    · cases impossible
    · simp only [admitCleanupEvent, admitAbsence] at admitted
      split at admitted
      · cases admitted
      · split at admitted <;> cases admitted
        rfl
  have matches_ : settlementResultMatches authorization result observation
      (state.resultForLatestIntent.map (·.2.2)) = true := by
    rw [← settles.1, ← facts.applied]
    simp only [settlementResultMatches, Option.filter_filter, Bool.and_self]
  refine ⟨{ state with settled := true }, ?_⟩
  simp only [admitCleanupEvent, admitSettlement, absence]
  rw [if_pos ⟨settles.2, matches_⟩]

theorem located_of_identity (matches_ : observationIdentityMatches observation authorization = true)
    : CleanupKind.observationHasAuthorizedLocator observation authorization = true := by
  unfold observationIdentityMatches at matches_
  split at matches_
  · rw [of_decide_eq_true matches_]
    exact CleanupKind.authorizedPresent_located authorization
  · exact matches_

theorem absent_of_settles {result : kind.Result}
    (settles : Settles authorization family observation result) :
    (CleanupKind.absentRevision? observation).isSome := by
  obtain ⟨matches_, -⟩ := settles
  cases absent : CleanupKind.absentRevision? observation with
  | some revision => rfl
  | none =>
      unfold settlementResultMatches at matches_
      rw [absent] at matches_
      cases matches_

theorem settles_of_agrees {removal : Option (Nat × kind.Result)}
    (known : RemovalKnown authorization family removal)
    (agrees : observationAgrees authorization family removal observation = true) {revision : Nat}
    (absent : CleanupKind.absentRevision? observation = some revision)
    (same : CleanupKind.appliedRevision? ((removal.map (·.2)).getD
      (CleanupKind.alreadyAbsent authorization revision)) = some revision) :
    Settles authorization family observation
      ((removal.map (·.2)).getD (CleanupKind.alreadyAbsent authorization revision)) := by
  cases removal with
  | some confirmed =>
      obtain ⟨attempt, result⟩ := confirmed
      obtain ⟨applied, matches_⟩ := known attempt result rfl
      replace same : CleanupKind.appliedRevision? result = some revision := same
      refine ⟨?_, matches_⟩
      simp [settlementResultMatches, absent, same, applied, Option.filter_some]
  | none =>
      refine ⟨?_, CleanupKind.alreadyAbsent_matches authorization revision⟩
      unfold observationAgrees at agrees
      rw [Bool.and_eq_true, absent] at agrees
      obtain ⟨-, agrees⟩ := agrees
      cases applied : latestApplied family with
      | none => simp [settlementResultMatches, absent]
      | some result =>
          rw [applied] at agrees
          have explained : result = CleanupKind.alreadyAbsent authorization revision :=
            of_decide_eq_true agrees
          simp [settlementResultMatches, absent, explained, Option.filter_some]

theorem phaseWritten_afterObservation
    (written : CleanupWritten authorization (cleanupRecordsFor authorization records))
    {removal : Option (Nat × kind.Result)}
    (read : ReadOpen (cleanupRecordsFor authorization records) operationId ordinal)
    (known : RemovalKnown authorization (cleanupRecordsFor authorization records) removal)
    (agrees : observationAgrees authorization (cleanupRecordsFor authorization records) removal
      observation = true) {next : CleanupPhase kind}
    (underway : afterObservation authorization records removal operationId ordinal observation =
      .underway next) :
    PhaseWritten authorization (cleanupRecordsFor authorization records ++
      [.observed authorization observation operationId ordinal]) next := by
  have matches_ : observationIdentityMatches observation authorization = true := by
    unfold observationAgrees at agrees
    rw [Bool.and_eq_true] at agrees
    exact agrees.1
  have answered : ReadAnswered authorization (cleanupRecordsFor authorization records ++
      [.observed authorization observation operationId ordinal]) observation operationId ordinal :=
    read.answered (located_of_identity matches_)
  unfold afterObservation at underway
  split at underway
  · rename_i revision absent
    obtain ⟨found, -⟩ := CleanupKind.absent_of_read absent
    unfold settleFromAbsence at underway
    split at underway
    · rename_i same
      cases underway
      refine ⟨answered, fun recorded cause absence other member => ?_, ?_⟩
      · rw [List.mem_append, List.mem_singleton] at member
        rcases member with member | impossible
        · exact read.fresh written.numbered other
            (written.absences recorded cause absence other ordinal member)
        · cases impossible
      · have settles := settles_of_agrees known agrees found same
        unfold Settles at settles ⊢
        rw [latestApplied_concat]
        exact settles
    · cases underway
      exact ⟨ordinal, answered⟩
  · cases underway
    exact ⟨ordinal, answered⟩
  · cases underway
  · rename_i present
    split at underway
    · cases underway
    · rename_i allowed
      cases underway
      refine ⟨⟨operationId, ordinal, answered⟩, CleanupKind.isPresent_of_read present, ?_, by omega⟩
      simp [mutationIntentCount, List.countP_append, CleanupEvent.isMutationIntended]

variable {phase : CleanupPhase kind}
  (call : CallWritten authorization (cleanupRecordsFor authorization records) phase)
include call

theorem phaseWritten_replayed
    (known : ∀ event, cleanupEventAt authorization records phase = some event → event ∈ records)
    {next : CleanupPhase kind}
    (underway : cleanupStageAfter authorization records phase = .underway next) :
    PhaseWritten authorization (cleanupRecordsFor authorization records) next := by
  have ready := call.phase
  have recorded : ∀ event, cleanupEventAt authorization records phase = some event →
      event ∈ cleanupRecordsFor authorization records := by
    intro event written
    refine mem_cleanupRecordsFor.mpr ⟨known event written, ?_⟩
    rw [CleanupEvent.cleanupOperationId, authorization_cleanupEventAt written]
  cases phase with
  | authorizing =>
      have member := recorded _ rfl
      rw [show cleanupRecordsFor authorization records = [] from ready] at member
      cases member
  | intendingObservation removal =>
      cases underway
      rcases nextObservation_written call.written with ⟨-, read⟩ | ⟨unrecorded, -, -⟩
      · exact ⟨read, ready.2⟩
      · have member := recorded _ (by simp only [cleanupEventAt, unrecorded]; rfl)
        have found : recordedUnder records ⟨CleanupKind.operationId authorization,
            .observationIntended (nextObservation authorization records).2⟩ = true :=
          recordedUnder_eq_true.mpr ⟨_, member, rfl⟩
        rw [unrecorded] at found
        cases found
  | observing removal operationId ordinal =>
      cases underway
      exact ready
  | recordingObservation removal operationId ordinal observation =>
      have member := recorded _ rfl
      refine absurd ?_ (ready.1.fresh call.written.numbered operationId)
      exact List.mem_filterMap.mpr ⟨_, member, rfl⟩
  | intendingMutation attempt observation =>
      have bounded := call.written.numbered.attempt_le (recorded _ rfl)
      obtain ⟨-, -, number, -⟩ := ready
      omega
  | removing attempt observation =>
      cases underway
      exact ready
  | recordingResult attempt observation result =>
      have member := recorded _ rfl
      have earlier := ready.1.2 attempt (List.mem_filterMap.mpr ⟨_, member, rfl⟩)
      omega
  | contradicting observation operationId detail reason => cases underway
  | confirmingAbsence observation operationId ordinal result =>
      obtain ⟨-, unconfirmed, -⟩ := ready
      have unrecorded : recordedUnder records
          ⟨CleanupKind.operationId authorization, .absenceConfirmed ordinal⟩ = false := by
        rw [Bool.eq_false_iff, ne_eq, recordedUnder_eq_true]
        rintro ⟨event, member, same⟩
        cases event with
        | absenceConfirmed recordedAuthorization cause absence other _ =>
            rw [CleanupEvent.slot, CleanupRecordSlot.absenceConfirmed.injEq] at same
            subst same
            exact unconfirmed _ _ _ _ member
        | _ => cases same
      have member := recorded _ (by simp only [cleanupEventAt, unrecorded]; rfl)
      exact absurd member (unconfirmed _ _ _ _)
  | settling result => cases underway

/-- A step whose record is written now leaves a history that is admitted. -/
theorem cleanupWritten_appended (written : cleanupEventAt authorization records phase = some event)
    :
    CleanupWritten authorization (cleanupRecordsFor authorization records ++ [event]) ∧
      ∀ next, cleanupStageAfter authorization records phase = .underway next →
        event.isTerminal = false ∧
          PhaseWritten authorization (cleanupRecordsFor authorization records ++ [event]) next := by
  obtain ⟨history, open_, ready⟩ := call
  cases phase with
  | authorizing =>
      cases written
      rw [show cleanupRecordsFor authorization records = [] from ready]
      refine ⟨cleanupWritten_authorized, fun next underway => ?_⟩
      cases underway
      exact ⟨rfl, by simp, fun _ _ impossible => by cases impossible⟩
  | intendingObservation removal =>
      obtain ⟨nonempty, known⟩ := ready
      simp only [cleanupEventAt] at written
      split at written
      · cases written
      · rename_i unrecorded
        cases written
        rcases nextObservation_written history with ⟨recorded, -⟩ | ⟨-, number, answered⟩
        · exact absurd recorded unrecorded
        · obtain ⟨intended, read⟩ := history.intended nonempty open_ answered number
          refine ⟨intended, fun next underway => ?_⟩
          cases underway
          refine ⟨rfl, read, fun attempt result same => ?_⟩
          rw [latestApplied_concat]
          exact known attempt result same
  | recordingObservation removal operationId ordinal observation =>
      obtain ⟨read, known, agrees⟩ := ready
      cases written
      have matches_ : observationIdentityMatches observation authorization = true := by
        unfold observationAgrees at agrees
        rw [Bool.and_eq_true] at agrees
        exact agrees.1
      refine ⟨history.observed open_ read matches_, fun next underway => ⟨rfl, ?_⟩⟩
      exact phaseWritten_afterObservation history read known agrees underway
  | intendingMutation attempt observation =>
      obtain ⟨⟨operationId, ordinal, answered⟩, present, number, allowed⟩ := ready
      cases written
      refine ⟨history.mutationIntended open_ answered present number allowed _,
        fun next underway => ?_⟩
      cases underway
      refine ⟨rfl, ⟨_, rfl⟩, fun recorded member => ?_⟩
      rw [List.filterMap_append] at member
      have earlier := history.results recorded (by simpa [CleanupEvent.resultAttempt?] using member)
      omega
  | recordingResult attempt observation result =>
      obtain ⟨removal, matches_⟩ := ready
      cases written
      refine ⟨history.resultRecorded open_ removal matches_, fun next underway => ⟨rfl, ?_⟩⟩
      simp only [cleanupStageAfter, afterResult, matches_, not_true_eq_false, if_false] at underway
      split at underway
      · rename_i revision applied
        cases underway
        refine ⟨by simp, fun confirmed other same => ?_⟩
        cases same
        rw [latestApplied_concat]
        exact ⟨by simp [CleanupEvent.appliedAfter, applied], matches_⟩
      · cases underway
  | contradicting observation operationId detail reason =>
      obtain ⟨ordinal, answered⟩ := ready
      simp only [cleanupEventAt] at written
      split at written
      · cases written
      · cases written
        refine ⟨history.contradicted open_ answered detail, fun next underway => ?_⟩
        cases underway
  | confirmingAbsence observation operationId ordinal result =>
      obtain ⟨answered, -, settles⟩ := ready
      simp only [cleanupEventAt] at written
      split at written
      · cases written
      · cases written
        refine ⟨history.absenceConfirmed open_ answered (absent_of_settles settles),
          fun next underway => ?_⟩
        cases underway
        refine ⟨rfl, _, _, observation, operationId, ordinal, rfl, ?_⟩
        unfold Settles at settles ⊢
        rw [latestApplied_concat]
        exact settles
  | settling result =>
      obtain ⟨before, cause, observation, operationId, ordinal, last, settles⟩ := ready
      simp only [cleanupEventAt] at written
      split at written
      · cases written
      · cases written
        refine ⟨history.settled open_ last settles, fun next underway => ?_⟩
        cases underway
  | observing removal operationId ordinal => cases written
  | removing attempt observation => cases written

end

end Dalph
