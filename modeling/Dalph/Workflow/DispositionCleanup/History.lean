import Dalph.Workflow.DispositionCleanup.Family

/-!
# Disposition cleanup: history

The records of one cleanup form a prefix of one chronology: authorized, read intent, observed facts,
bounded mutation intent and result, fresh absence, settled.  One reducer checks it for all families.
-/

namespace Dalph

/-- What made the absence of a resource certain. -/
inductive CleanupAbsenceCause where
  | initialAbsence
  | mutationResponseReconciliation
deriving DecidableEq

/-- The durable events of one cleanup family. -/
inductive CleanupEvent (kind : CleanupKind) where
  | authorized (authorization : kind.Authorization)
  | observationIntended (authorization : kind.Authorization) (operationId : OperationId)
      (ordinal : Nat)
  | observed (authorization : kind.Authorization) (observation : kind.Observation)
      (operationId : OperationId) (ordinal : Nat)
  | absenceConfirmed (authorization : kind.Authorization) (cause : CleanupAbsenceCause)
      (observation : kind.Observation) (operationId : OperationId) (ordinal : Nat)
  | mutationIntended (attempt : Nat) (authorization : kind.Authorization) (operationId : OperationId)
  | mutationResultRecorded (attempt : Nat) (authorization : kind.Authorization)
      (operationId : OperationId) (result : kind.Result)
  | contradicted (authorization : kind.Authorization) (detail : String)
      (observation : kind.Observation) (operationId : OperationId)
  | settled (authorization : kind.Authorization) (result : kind.Result)
deriving DecidableEq

/-- What a record key says behind operation and family. -/
inductive CleanupRecordSlot where
  | authorized
  | observationIntended (ordinal : Nat)
  | observed (ordinal : Nat)
  | absenceConfirmed (ordinal : Nat)
  | mutationIntended (attempt : Nat)
  | mutationResultRecorded (attempt : Nat)
  | contradicted
  | settled
deriving DecidableEq

namespace CleanupEvent

variable {kind : CleanupKind}

def authorization : CleanupEvent kind → kind.Authorization
  | authorized authorization | observationIntended authorization .. | observed authorization ..
  | absenceConfirmed authorization .. | mutationIntended _ authorization _
  | mutationResultRecorded _ authorization .. | contradicted authorization ..
  | settled authorization _ => authorization

def cleanupOperationId (event : CleanupEvent kind) : OperationId :=
  CleanupKind.operationId event.authorization

def slot : CleanupEvent kind → CleanupRecordSlot
  | authorized _ => .authorized
  | observationIntended _ _ ordinal => .observationIntended ordinal
  | observed _ _ _ ordinal => .observed ordinal
  | absenceConfirmed _ _ _ _ ordinal => .absenceConfirmed ordinal
  | mutationIntended attempt _ _ => .mutationIntended attempt
  | mutationResultRecorded attempt _ _ _ => .mutationResultRecorded attempt
  | contradicted .. => .contradicted
  | settled .. => .settled

def isAuthorized : CleanupEvent kind → Bool
  | authorized _ => true
  | _ => false

def isObservationIntended : CleanupEvent kind → Bool
  | observationIntended .. => true
  | _ => false

def isMutationIntended : CleanupEvent kind → Bool
  | mutationIntended .. => true
  | _ => false

def isTerminal : CleanupEvent kind → Bool
  | contradicted .. | settled .. => true
  | _ => false

end CleanupEvent

/-- Identity of a journaled cleanup fact. -/
structure CleanupRecordKey where
  operationId : OperationId
  slot : CleanupRecordSlot
deriving DecidableEq

def CleanupKind.keyText : CleanupKind → String
  | worktree => "worktree"
  | branch => "branch"
  | integratorCandidate => "integrator-candidate"

def CleanupRecordSlot.text : CleanupRecordSlot → String
  | authorized => "authorized"
  | observationIntended ordinal => s!"observation:{ordinal}:intent"
  | observed ordinal => s!"observation:{ordinal}"
  | absenceConfirmed ordinal => s!"absence:{ordinal}"
  | mutationIntended attempt => s!"mutation:{attempt}:intent"
  | mutationResultRecorded attempt => s!"mutation:{attempt}:result"
  | contradicted => "contradicted"
  | settled => "settled"

def CleanupRecordKey.text (kind : CleanupKind) (key : CleanupRecordKey) : JournalRecordKey :=
  { value := s!"disposition-cleanup:{key.operationId.value}:{kind.keyText}:{key.slot.text}" }

def CleanupEvent.key {kind : CleanupKind} (event : CleanupEvent kind) : CleanupRecordKey :=
  ⟨event.cleanupOperationId, event.slot⟩

section

variable {kind : CleanupKind}

/-- One journaled observation as the reducer keeps it. -/
structure ObservedFact (kind : CleanupKind) where
  position : JournalPosition
  observation : kind.Observation
  operationId : OperationId
  ordinal : Nat

/-- Maps of the reducer, in insertion order. -/
structure CleanupHistoryState (kind : CleanupKind) where
  intents : List (OperationId × Nat)
  observations : List (ObservedFact kind)
  /-- Position, attempt and operation of each removal intent. -/
  mutations : List (JournalPosition × Nat × OperationId)
  /-- Position, attempt and result of each recorded result. -/
  mutationResults : List (JournalPosition × Nat × kind.Result)
  latestAbsence : Option kind.Observation
  contradicted : Bool
  settled : Bool

def emptyCleanupHistoryState : CleanupHistoryState kind :=
  ⟨[], [], [], [], none, false, false⟩

/-- Absence or a foreign fact has the authorized locator; a present resource is the authorized one. -/
def observationIdentityMatches (observation : kind.Observation) (authorization : kind.Authorization) :
    Bool :=
  if CleanupKind.isPresent observation then
    observation = CleanupKind.authorizedPresent authorization
  else CleanupKind.observationHasAuthorizedLocator observation authorization

namespace CleanupHistoryState

def resultForLatestIntent (state : CleanupHistoryState kind) :
    Option (JournalPosition × Nat × kind.Result) :=
  match state.mutations.getLast?, state.mutationResults.getLast? with
  | some mutation, some result => if result.1 > mutation.1 then some result else none
  | _, _ => none

def expectedCause (state : CleanupHistoryState kind) : CleanupAbsenceCause :=
  if state.mutations = [] then .initialAbsence else .mutationResponseReconciliation

def observedAfterRemoval (state : CleanupHistoryState kind) (observed : ObservedFact kind) : Bool :=
  match state.mutations.getLast? with
  | none => true
  | some mutation =>
      (state.resultForLatestIntent.map (·.1)).getD mutation.1 < observed.position

end CleanupHistoryState

/-- Links a settled result to the applied removal, or to the absence that reconciles it. -/
def settlementResultMatches (authorization : kind.Authorization) (settledResult : kind.Result)
    (absence : kind.Observation) (mutationResult : Option kind.Result) : Bool :=
  match CleanupKind.absentRevision? absence, CleanupKind.appliedRevision? settledResult with
  | some absentAt, some settledAt =>
      settledAt = absentAt &&
        match mutationResult.filter fun result => (CleanupKind.appliedRevision? result).isSome with
        | some applied => settledResult = applied
        | none => settledResult = CleanupKind.alreadyAbsent authorization absentAt
  | _, _ => false

def admitObservationIntent (state : CleanupHistoryState kind) (operationId : OperationId)
    (ordinal : Nat) : Except String (CleanupHistoryState kind) :=
  if (operationId, ordinal) ∈ state.intents then
    .error "cleanup observation intent has a foreign key, authorization, or duplicate identity"
  else .ok { state with intents := state.intents ++ [(operationId, ordinal)] }

def admitObserved (authorization : kind.Authorization) (position : JournalPosition)
    (state : CleanupHistoryState kind) (observation : kind.Observation) (operationId : OperationId)
    (ordinal : Nat) : Except String (CleanupHistoryState kind) :=
  if (operationId, ordinal) ∈ state.intents ∧ observationIdentityMatches observation authorization ∧
      ∀ fact ∈ state.observations, (fact.operationId, fact.ordinal) ≠ (operationId, ordinal) then
    .ok { state with
      latestAbsence := none
      observations := state.observations ++ [⟨position, observation, operationId, ordinal⟩] }
  else .error "cleanup observation result has no exact preceding intent or subject identity"

def admitMutationIntent (position : JournalPosition) (state : CleanupHistoryState kind)
    (attempt : Nat) (operationId : OperationId) : Except String (CleanupHistoryState kind) :=
  if (1 ≤ attempt ∧ attempt ≤ cleanupMutationRequestLimit) ∧
      (∀ mutation ∈ state.mutations, mutation.2.1 ≠ attempt) ∧
      state.observations.getLast?.any fun fact => CleanupKind.isPresent fact.observation then
    .ok { state with mutations := state.mutations ++ [(position, attempt, operationId)] }
  else
    .error "cleanup mutation intent is not preceded by exact present facts or has a foreign identity"

def admitMutationResult (authorization : kind.Authorization) (position : JournalPosition)
    (state : CleanupHistoryState kind) (attempt : Nat) (operationId : OperationId)
    (result : kind.Result) : Except String (CleanupHistoryState kind) :=
  if (state.mutations.any fun mutation => mutation.2.1 = attempt ∧ mutation.2.2 = operationId) ∧
      CleanupKind.resultMatchesAuthorization result authorization ∧
      ∀ recorded ∈ state.mutationResults, recorded.2.1 ≠ attempt then
    .ok { state with mutationResults := state.mutationResults ++ [(position, attempt, result)] }
  else .error "cleanup mutation result has no exact preceding intent or subject identity"

def admitAbsence (authorization : kind.Authorization) (state : CleanupHistoryState kind)
    (cause : CleanupAbsenceCause) (observation : kind.Observation) (operationId : OperationId)
    (ordinal : Nat) : Except String (CleanupHistoryState kind) :=
  match state.observations.getLast? with
  | none => .error "cleanup absence confirmation lacks the exact fresh absence and cause"
  | some latest =>
      if (latest.operationId, latest.ordinal) = (operationId, ordinal) ∧
          CleanupKind.observationHasAuthorizedLocator observation authorization ∧
          observation = latest.observation ∧
          (CleanupKind.absentRevision? latest.observation).isSome ∧
          state.observedAfterRemoval latest ∧ cause = state.expectedCause then
        .ok { state with latestAbsence := some observation }
      else .error "cleanup absence confirmation lacks the exact fresh absence and cause"

def admitContradiction (authorization : kind.Authorization) (state : CleanupHistoryState kind)
    (observation : kind.Observation) (operationId : OperationId) :
    Except String (CleanupHistoryState kind) :=
  match state.observations.getLast?, state.intents.getLast? with
  | some latest, some intent =>
      if intent = (latest.operationId, latest.ordinal) ∧ latest.operationId = operationId ∧
          CleanupKind.observationHasAuthorizedLocator observation authorization then
        .ok { state with contradicted := true }
      else .error "cleanup contradiction requires its exact preceding observation intent and result"
  | _, _ => .error "cleanup contradiction requires its exact preceding observation intent and result"

def admitSettlement (authorization : kind.Authorization) (state : CleanupHistoryState kind)
    (result : kind.Result) : Except String (CleanupHistoryState kind) :=
  match state.latestAbsence with
  | some absence =>
      if CleanupKind.resultMatchesAuthorization result authorization ∧
          settlementResultMatches authorization result absence
            (state.resultForLatestIntent.map (·.2.2)) then
        .ok { state with settled := true }
      else .error "cleanup settlement lacks the exact preceding absence and result identity"
  | none => .error "cleanup settlement lacks the exact preceding absence and result identity"

def admitCleanupEvent (authorization : kind.Authorization) (position : JournalPosition)
    (state : CleanupHistoryState kind) : CleanupEvent kind → Except String (CleanupHistoryState kind)
  | .authorized _ => .ok state
  | .observationIntended _ operationId ordinal => admitObservationIntent state operationId ordinal
  | .observed _ observation operationId ordinal =>
      admitObserved authorization position state observation operationId ordinal
  | .mutationIntended attempt _ operationId =>
      admitMutationIntent position state attempt operationId
  | .mutationResultRecorded attempt _ operationId result =>
      admitMutationResult authorization position state attempt operationId result
  | .absenceConfirmed _ cause observation operationId ordinal =>
      admitAbsence authorization state cause observation operationId ordinal
  | .contradicted _ _ observation operationId =>
      admitContradiction authorization state observation operationId
  | .settled _ result => admitSettlement authorization state result

def reduceCleanupEvent (authorization : kind.Authorization) (state : CleanupHistoryState kind)
    (event : CleanupEvent kind × JournalPosition) : Except String (CleanupHistoryState kind) :=
  if event.1.isAuthorized then .ok state
  else if state.settled then .error "cleanup history contains an event after terminal settlement"
  else if state.contradicted then
    .error "cleanup history contains an event after terminal contradiction"
  else if event.1.authorization ≠ authorization then
    .error "cleanup history contains a conflicting authorization"
  else admitCleanupEvent authorization event.2 state event.1

def cleanupPrefixIssue (authorization : kind.Authorization) (family : List (CleanupEvent kind)) :
    Option String :=
  match family.filter (·.isAuthorized) with
  | [] => some "cleanup history contains family events without an authorization prefix"
  | [authorized] =>
      if authorized.authorization ≠ authorization then
        some "cleanup history contains a foreign or mis-keyed authorization"
      else if family.head? ≠ some authorized then
        some "cleanup history contains a family event before authorization"
      else none
  | _ => some "cleanup history contains duplicate authorization records for one operation"

def cleanupRecordsFor (authorization : kind.Authorization) (records : List (CleanupEvent kind)) :
    List (CleanupEvent kind) :=
  records.filter fun event => event.cleanupOperationId = CleanupKind.operationId authorization

def reduceCleanupHistory (authorization : kind.Authorization) (family : List (CleanupEvent kind)) :
    Except String (CleanupHistoryState kind) :=
  family.zipIdx.foldlM (reduceCleanupEvent authorization) emptyCleanupHistoryState

/-- `validateCleanupHistory`: the first issue of one operation's records, if there is one. -/
def cleanupHistoryIssue (authorization : kind.Authorization) (records : List (CleanupEvent kind)) :
    Option String :=
  let family := cleanupRecordsFor authorization records
  if family = [] then none
  else
    match cleanupPrefixIssue authorization family, reduceCleanupHistory authorization family with
    | some detail, _ => some detail
    | none, .error detail => some detail
    | none, .ok _ => none

variable {authorization : kind.Authorization} {family : List (CleanupEvent kind)}

theorem reduceCleanupHistory_concat (event : CleanupEvent kind) :
    reduceCleanupHistory authorization (family ++ [event]) =
      reduceCleanupHistory authorization family >>= fun state =>
        reduceCleanupEvent authorization state (event, family.length) := by
  unfold reduceCleanupHistory
  rw [List.zipIdx_append, List.foldlM_append]
  simp

variable {event : CleanupEvent kind} {state : CleanupHistoryState kind}

theorem reduceCleanupHistory_concat_eq_ok
    (reduced : reduceCleanupHistory authorization (family ++ [event]) = .ok state) :
    ∃ earlier, reduceCleanupHistory authorization family = .ok earlier ∧
      reduceCleanupEvent authorization earlier (event, family.length) = .ok state := by
  rw [reduceCleanupHistory_concat] at reduced
  cases previous : reduceCleanupHistory authorization family with
  | error detail =>
      rw [previous] at reduced
      cases reduced
  | ok earlier =>
      rw [previous] at reduced
      exact ⟨earlier, rfl, reduced⟩

theorem reduceCleanupEvent_eq_ok {next : CleanupHistoryState kind} {position : JournalPosition}
    (reduced : reduceCleanupEvent authorization state (event, position) = .ok next) :
    (event.isAuthorized = true ∧ next = state) ∨
      (event.isAuthorized = false ∧ (state.settled = false ∧ state.contradicted = false) ∧
        event.authorization = authorization ∧
        admitCleanupEvent authorization position state event = .ok next) := by
  unfold reduceCleanupEvent at reduced
  split at reduced
  · rename_i isAuthorized
    cases reduced
    exact .inl ⟨isAuthorized, rfl⟩
  · rename_i notAuthorized
    split at reduced
    · cases reduced
    · rename_i notSettled
      split at reduced
      · cases reduced
      · rename_i notContradicted
        split at reduced
        · cases reduced
        · rename_i same
          exact .inr ⟨by simpa using notAuthorized, ⟨by simpa using notSettled,
            by simpa using notContradicted⟩, not_not.mp same, reduced⟩

namespace CleanupEvent

def intent? : CleanupEvent kind → Option (OperationId × Nat)
  | observationIntended _ operationId ordinal => some (operationId, ordinal)
  | _ => none

def observed? : CleanupEvent kind → Option (OperationId × Nat)
  | observed _ _ operationId ordinal => some (operationId, ordinal)
  | _ => none

def mutation? : CleanupEvent kind → Option (Nat × OperationId)
  | mutationIntended attempt _ operationId => some (attempt, operationId)
  | _ => none

def resultAttempt? : CleanupEvent kind → Option Nat
  | mutationResultRecorded attempt _ _ _ => some attempt
  | _ => none

def appliedAfter (latest : Option kind.Result) : CleanupEvent kind → Option kind.Result
  | mutationIntended .. => none
  | mutationResultRecorded _ _ _ result =>
      if (CleanupKind.appliedRevision? result).isSome then some result else none
  | _ => latest

end CleanupEvent

def latestApplied (family : List (CleanupEvent kind)) : Option kind.Result :=
  family.foldl CleanupEvent.appliedAfter none

theorem latestApplied_concat (event : CleanupEvent kind) :
    latestApplied (family ++ [event]) = event.appliedAfter (latestApplied family) := by
  simp [latestApplied]

/-- What the reduction of a prefix keeps of its records. -/
structure CleanupReduced (authorization : kind.Authorization) (family : List (CleanupEvent kind))
    (state : CleanupHistoryState kind) : Prop where
  ofAuthorization : ∀ event ∈ family, event.isAuthorized = false → event.authorization = authorization
  intents : state.intents = family.filterMap (·.intent?)
  observations : (state.observations.map fun fact => (fact.operationId, fact.ordinal)) =
    family.filterMap (·.observed?)
  answered : ∀ read ∈ family.filterMap (·.observed?), read ∈ family.filterMap (·.intent?)
  mutations : state.mutations.map (·.2) = family.filterMap (·.mutation?)
  results : state.mutationResults.map (·.2.1) = family.filterMap (·.resultAttempt?)
  mutationsEarlier : ∀ mutation ∈ state.mutations, mutation.1 < family.length
  resultsEarlier : ∀ result ∈ state.mutationResults, result.1 < family.length
  applied : (state.resultForLatestIntent.map (·.2.2)).filter
    (fun result => (CleanupKind.appliedRevision? result).isSome) = latestApplied family
  ended : (state.settled || state.contradicted) = family.any (·.isTerminal)

namespace CleanupReduced

variable {state : CleanupHistoryState kind}

theorem empty : CleanupReduced authorization [] emptyCleanupHistoryState := by
  constructor <;> simp [emptyCleanupHistoryState, latestApplied,
    CleanupHistoryState.resultForLatestIntent]

variable {event : CleanupEvent kind} {next : CleanupHistoryState kind}

section

variable (facts : CleanupReduced authorization family state)
include facts

theorem extend (own : event.isAuthorized = false → event.authorization = authorization)
    (intents : next.intents = state.intents ++ event.intent?.toList)
    (observations : (next.observations.map fun fact => (fact.operationId, fact.ordinal)) =
      (state.observations.map fun fact => (fact.operationId, fact.ordinal)) ++ event.observed?.toList)
    (answered : ∀ read, event.observed? = some read → read ∈ state.intents)
    (mutations : next.mutations =
      state.mutations ++ (event.mutation?.map fun mutation => (family.length, mutation)).toList)
    (recorded : Option (Nat × kind.Result))
    (results : next.mutationResults =
      state.mutationResults ++ (recorded.map fun result => (family.length, result)).toList)
    (recordedAttempt : recorded.map (·.1) = event.resultAttempt?)
    (applied : (next.resultForLatestIntent.map (·.2.2)).filter
      (fun result => (CleanupKind.appliedRevision? result).isSome) =
        event.appliedAfter (latestApplied family))
    (ended : (next.settled || next.contradicted) =
      ((state.settled || state.contradicted) || event.isTerminal)) :
    CleanupReduced authorization (family ++ [event]) next := by
  have appended : ∀ {Value : Type} (select : CleanupEvent kind → Option Value),
      (family ++ [event]).filterMap select = family.filterMap select ++ (select event).toList := by
    intro Value select
    cases found : select event <;> simp [found]
  constructor
  · intro other member notAuthorized
    rw [List.mem_append, List.mem_singleton] at member
    rcases member with member | rfl
    · exact facts.ofAuthorization other member notAuthorized
    · exact own notAuthorized
  · rw [intents, facts.intents, appended]
  · rw [observations, facts.observations, appended]
  · intro read member
    rw [appended, List.mem_append] at member ⊢
    rcases member with member | member
    · exact .inl (facts.answered read member)
    · exact .inl (facts.intents ▸ answered read (by simpa using member))
  · rw [mutations, List.map_append, facts.mutations, appended]
    cases event.mutation? <;> rfl
  · rw [results, List.map_append, facts.results, appended, ← recordedAttempt]
    cases recorded <;> rfl
  · intro mutation member
    rw [mutations, List.mem_append] at member
    rw [List.length_append, List.length_singleton]
    rcases member with member | member
    · exact Nat.lt_succ_of_lt (facts.mutationsEarlier mutation member)
    · obtain ⟨_, -, rfl⟩ : ∃ taken, event.mutation? = some taken ∧ (family.length, taken) = mutation := by
        simpa using member
      exact Nat.lt_succ_self _
  · intro result member
    rw [results, List.mem_append] at member
    rw [List.length_append, List.length_singleton]
    rcases member with member | member
    · exact Nat.lt_succ_of_lt (facts.resultsEarlier result member)
    · obtain ⟨_, -, rfl⟩ : ∃ taken, recorded = some taken ∧ (family.length, taken) = result := by
        simpa using member
      exact Nat.lt_succ_self _
  · rw [applied, latestApplied_concat]
  · rw [ended, facts.ended, List.any_append]
    simp

theorem applied_mutationIntended (mutation : Nat × OperationId) :
    CleanupHistoryState.resultForLatestIntent
      { state with mutations := state.mutations ++ [(family.length, mutation)] } = none := by
  unfold CleanupHistoryState.resultForLatestIntent
  cases last : state.mutationResults.getLast? with
  | none => simp
  | some result =>
      have earlier := facts.resultsEarlier result (List.mem_of_getLast? last)
      simp [Nat.le_of_lt earlier]

theorem applied_mutationResult (intended : state.mutations ≠ []) (result : Nat × kind.Result) :
    CleanupHistoryState.resultForLatestIntent
        { state with mutationResults := state.mutationResults ++ [(family.length, result)] } =
      some (family.length, result) := by
  unfold CleanupHistoryState.resultForLatestIntent
  obtain ⟨mutation, last⟩ := Option.isSome_iff_exists.mp (List.getLast?_isSome.mpr intended)
  have earlier := facts.mutationsEarlier mutation (List.mem_of_getLast? last)
  simp [last, earlier]

theorem ignored (own : event.isAuthorized = false → event.authorization = authorization)
    (quiet : (event.intent? = none ∧ event.observed? = none) ∧ event.mutation? = none ∧
      event.resultAttempt? = none)
    (reads : next.intents = state.intents ∧ next.observations = state.observations)
    (removals : next.mutations = state.mutations ∧ next.mutationResults = state.mutationResults)
    (ended : (next.settled || next.contradicted) =
      ((state.settled || state.contradicted) || event.isTerminal)) :
    CleanupReduced authorization (family ++ [event]) next := by
  obtain ⟨⟨noIntent, noObserved⟩, noMutation, noResult⟩ := quiet
  have unchanged : event.appliedAfter (latestApplied family) = latestApplied family := by
    cases event with
    | mutationIntended _ _ _ => cases noMutation
    | mutationResultRecorded _ _ _ _ => cases noResult
    | _ => rfl
  refine facts.extend own ?_ ?_ ?_ ?_ none ?_ noResult.symm ?_ ended
  · simp [noIntent, reads.1]
  · simp [noObserved, reads.2]
  · simp [noObserved]
  · simp [noMutation, removals.1]
  · simp [removals.2]
  · rw [unchanged, ← facts.applied]
    simp only [CleanupHistoryState.resultForLatestIntent, removals.1, removals.2]

theorem concat (reduced : reduceCleanupEvent authorization state (event, family.length) = .ok next)
    : CleanupReduced authorization (family ++ [event]) next := by
  rcases reduceCleanupEvent_eq_ok reduced with ⟨isAuthorized, rfl⟩ | ⟨-, -, own, admitted⟩
  · cases event with
    | authorized recorded =>
        exact facts.ignored (fun impossible => by cases impossible) ⟨⟨rfl, rfl⟩, rfl, rfl⟩ ⟨rfl, rfl⟩
          ⟨rfl, rfl⟩ (by simp [CleanupEvent.isTerminal])
    | _ => cases isAuthorized
  · have owned : event.isAuthorized = false → event.authorization = authorization := fun _ => own
    cases event with
    | authorized recorded =>
        cases admitted
        exact facts.ignored owned ⟨⟨rfl, rfl⟩, rfl, rfl⟩ ⟨rfl, rfl⟩ ⟨rfl, rfl⟩
          (by simp [CleanupEvent.isTerminal])
    | observationIntended recorded operationId ordinal =>
        simp only [admitCleanupEvent, admitObservationIntent] at admitted
        split at admitted <;> cases admitted
        exact facts.extend owned rfl (by simp [CleanupEvent.observed?])
          (fun _ impossible => by cases impossible) (by simp [CleanupEvent.mutation?]) none (by simp)
          rfl facts.applied (by simp [CleanupEvent.isTerminal])
    | observed recorded observation operationId ordinal =>
        simp only [admitCleanupEvent, admitObserved] at admitted
        split at admitted
        · rename_i matched
          cases admitted
          refine facts.extend owned (by simp [CleanupEvent.intent?])
            (by simp [CleanupEvent.observed?]) ?_ (by simp [CleanupEvent.mutation?]) none (by simp)
            rfl facts.applied (by simp [CleanupEvent.isTerminal])
          intro read same
          cases same
          exact matched.1
        · cases admitted
    | absenceConfirmed recorded cause observation operationId ordinal =>
        simp only [admitCleanupEvent, admitAbsence] at admitted
        split at admitted
        · cases admitted
        · split at admitted <;> cases admitted
          exact facts.ignored owned ⟨⟨rfl, rfl⟩, rfl, rfl⟩ ⟨rfl, rfl⟩ ⟨rfl, rfl⟩
            (by simp [CleanupEvent.isTerminal])
    | mutationIntended attempt recorded operationId =>
        simp only [admitCleanupEvent, admitMutationIntent] at admitted
        split at admitted <;> cases admitted
        refine facts.extend owned (by simp [CleanupEvent.intent?]) (by simp [CleanupEvent.observed?])
          (fun _ impossible => by cases impossible) rfl none (by simp) rfl ?_
          (by simp [CleanupEvent.isTerminal])
        rw [facts.applied_mutationIntended]
        rfl
    | mutationResultRecorded attempt recorded operationId result =>
        simp only [admitCleanupEvent, admitMutationResult] at admitted
        split at admitted
        · rename_i matched
          cases admitted
          have intended : state.mutations ≠ [] := by
            intro empty
            simp [empty] at matched
          refine facts.extend owned (by simp [CleanupEvent.intent?])
            (by simp [CleanupEvent.observed?]) (fun _ impossible => by cases impossible)
            (by simp [CleanupEvent.mutation?]) (some (attempt, result)) rfl rfl ?_
            (by simp [CleanupEvent.isTerminal])
          rw [facts.applied_mutationResult intended]
          simp [CleanupEvent.appliedAfter, Option.filter]
        · cases admitted
    | contradicted recorded detail observation operationId =>
        simp only [admitCleanupEvent, admitContradiction] at admitted
        split at admitted
        · split at admitted <;> cases admitted
          exact facts.ignored owned ⟨⟨rfl, rfl⟩, rfl, rfl⟩ ⟨rfl, rfl⟩ ⟨rfl, rfl⟩
            (by simp [CleanupEvent.isTerminal])
        · cases admitted
    | settled recorded result =>
        simp only [admitCleanupEvent, admitSettlement] at admitted
        split at admitted
        · split at admitted <;> cases admitted
          exact facts.ignored owned ⟨⟨rfl, rfl⟩, rfl, rfl⟩ ⟨rfl, rfl⟩ ⟨rfl, rfl⟩
            (by simp [CleanupEvent.isTerminal])
        · cases admitted

end

end CleanupReduced

theorem cleanupReduced (reduced : reduceCleanupHistory authorization family = .ok state) :
    CleanupReduced authorization family state := by
  induction family using List.reverseRecOn generalizing state with
  | nil =>
      cases reduced
      exact CleanupReduced.empty
  | append_singleton family event induction =>
      obtain ⟨earlier, previous, last⟩ := reduceCleanupHistory_concat_eq_ok reduced
      exact (induction previous).concat last

variable {records : List (CleanupEvent kind)}

variable (valid : cleanupHistoryIssue authorization records = none)
include valid

theorem reduced_of_cleanupHistory :
    cleanupRecordsFor authorization records = [] ∨
      (cleanupPrefixIssue authorization (cleanupRecordsFor authorization records) = none ∧
        ∃ state, reduceCleanupHistory authorization (cleanupRecordsFor authorization records) =
          .ok state) := by
  unfold cleanupHistoryIssue at valid
  dsimp only at valid
  split at valid
  · rename_i empty
    exact .inl empty
  · split at valid
    · cases valid
    · cases valid
    · rename_i state noIssue reduced
      exact .inr ⟨noIssue, state, reduced⟩

theorem authorization_of_cleanupHistory (member : event ∈ cleanupRecordsFor authorization records) :
    event.authorization = authorization := by
  rcases reduced_of_cleanupHistory valid with empty | ⟨noIssue, state, reduced⟩
  · rw [empty] at member
    cases member
  · cases isAuthorized : event.isAuthorized with
    | false => exact (cleanupReduced reduced).ofAuthorization event member isAuthorized
    | true =>
        have found : event ∈ (cleanupRecordsFor authorization records).filter (·.isAuthorized) :=
          List.mem_filter.mpr ⟨member, isAuthorized⟩
        unfold cleanupPrefixIssue at noIssue
        split at noIssue
        · rename_i none_
          rw [none_] at found
          cases found
        · rename_i authorized one
          rw [one, List.mem_singleton] at found
          subst found
          split at noIssue
          · cases noIssue
          · rename_i same
            exact not_not.mp same
        · cases noIssue

theorem observed_of_cleanupHistory {recorded : kind.Authorization} {observation : kind.Observation}
    {operationId : OperationId} {ordinal : Nat}
    (member : .observed recorded observation operationId ordinal ∈
      cleanupRecordsFor authorization records) :
    ∃ recorded, CleanupEvent.observationIntended recorded operationId ordinal ∈
      cleanupRecordsFor authorization records := by
  rcases reduced_of_cleanupHistory valid with empty | ⟨-, state, reduced⟩
  · rw [empty] at member
    cases member
  · have answered := (cleanupReduced reduced).answered (operationId, ordinal)
      (List.mem_filterMap.mpr ⟨_, member, rfl⟩)
    obtain ⟨event, found, same⟩ := List.mem_filterMap.mp answered
    cases event with
    | observationIntended recorded _ _ =>
        cases same
        exact ⟨recorded, found⟩
    | _ => cases same

end

end Dalph
