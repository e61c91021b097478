import Dalph.Workflow.TargetPromotion.State
import Dalph.WorkflowJournal.StopRequestDisposition

/-!
# Settled replacements of completion claims

A promotion installs its completion claim by a replacement: an intent, and an outcome under the
operation of the intent.  The first outcome that its intent explains settles the claim for good, so
one pair for each claim answers at every cutoff.
-/

namespace Dalph

open PersistentSequence (Increasing)

/-- A temporary tracker record that binds the completion of a task to one promoted candidate. -/
structure CompletionTaskClaim where
  originalClaim : ActiveTaskClaim
  plannedAttempt : PlannedTaskAttempt
  promotionCorrelation : TargetPromotionCorrelation
deriving DecidableEq

def CompletionTaskClaim.wellBound (claim : CompletionTaskClaim) : Bool :=
  claim.originalClaim.taskId = claim.plannedAttempt.taskId &&
    claim.promotionCorrelation.qualifiedCandidate.run.session.plannedAttempt = claim.plannedAttempt

def completionTaskClaimEquals (left right : CompletionTaskClaim) : Bool :=
  left = right

inductive CompletionClaimReplacementEvent where
  | replacementIntended (claim : CompletionTaskClaim) (operationId : OperationId)
  | replaced (claim : CompletionTaskClaim) (operationId : OperationId)
  | other
deriving DecidableEq

structure ReplacementRecord where
  event : CompletionClaimReplacementEvent
  position : JournalPosition
  runId : RunId
deriving DecidableEq

namespace ReplacementRecord

def intent? (record : ReplacementRecord) : Option (CompletionTaskClaim × OperationId) :=
  match record.event with
  | .replacementIntended claim operationId => some (claim, operationId)
  | _ => none

def outcome? (record : ReplacementRecord) : Option (CompletionTaskClaim × OperationId) :=
  match record.event with
  | .replaced claim operationId => some (claim, operationId)
  | _ => none

end ReplacementRecord

/-- An intent and the outcome that it explains. -/
structure SettledCompletionClaimReplacement where
  intent : ReplacementRecord
  outcome : ReplacementRecord
deriving DecidableEq

/-- The last intent by Run and operation, and the first settlement by claim. -/
structure SettledCompletionClaimReplacementEvidence where
  intents : KeyedMap (RunId × OperationId) ReplacementRecord
  settled : KeyedMap CompletionTaskClaim SettledCompletionClaimReplacement

def emptySettledCompletionClaimReplacements : SettledCompletionClaimReplacementEvidence :=
  ⟨∅, ∅⟩

def completionClaimKey (claim : CompletionTaskClaim) : Option CompletionTaskClaim :=
  if claim.wellBound then some claim else none

/-- The settlement of an outcome by the last intent under its Run and operation. -/
def matchingReplacement (index : SettledCompletionClaimReplacementEvidence)
    (outcome : ReplacementRecord) (claim : CompletionTaskClaim) (operationId : OperationId) :
    Option SettledCompletionClaimReplacement :=
  match index.intents.lookup (outcome.runId, operationId) with
  | none => none
  | some intent =>
      if intent.position < outcome.position &&
          intent.intent?.any (completionTaskClaimEquals ·.1 claim) then
        some { intent, outcome }
      else none

def retainFirstSettlement (index : SettledCompletionClaimReplacementEvidence)
    (key : CompletionTaskClaim) (settlement : Option SettledCompletionClaimReplacement) :
    SettledCompletionClaimReplacementEvidence :=
  match settlement with
  | none => index
  | some settlement =>
      if key ∈ index.settled then index
      else { index with settled := index.settled.set key settlement }

def appendSettledCompletionClaimReplacementEvidence
    (index : SettledCompletionClaimReplacementEvidence) (record : ReplacementRecord) :
    SettledCompletionClaimReplacementEvidence :=
  match record.event with
  | .other => index
  | .replacementIntended claim operationId =>
      match completionClaimKey claim with
      | none => index
      | some _ =>
          if claim.plannedAttempt.runId ≠ record.runId then index
          else { index with intents := index.intents.set (record.runId, operationId) record }
  | .replaced claim operationId =>
      match completionClaimKey claim with
      | none => index
      | some key =>
          if claim.plannedAttempt.runId ≠ record.runId then index
          else retainFirstSettlement index key (matchingReplacement index record claim operationId)

def settledCompletionClaimReplacementsFrom (records : List ReplacementRecord) :
    SettledCompletionClaimReplacementEvidence :=
  records.foldl appendSettledCompletionClaimReplacementEvidence
    emptySettledCompletionClaimReplacements

def settledCompletionClaimReplacementAt (index : SettledCompletionClaimReplacementEvidence)
    (claim : CompletionTaskClaim) (throughPosition : Int) :
    Option SettledCompletionClaimReplacement :=
  match completionClaimKey claim with
  | none => none
  | some key =>
      (index.settled.lookup key).filter fun settled =>
        (settled.outcome.position : Int) ≤ throughPosition &&
          settled.outcome.outcome?.any (completionTaskClaimEquals ·.1 claim)

/-- The record intends a replacement under an operation for a valid claim of its own Run. -/
def intendsReplacement (runId : RunId) (operationId : OperationId) (record : ReplacementRecord) :
    Bool :=
  record.runId = runId && record.intent?.any fun intent =>
    intent.2 = operationId && intent.1.wellBound && intent.1.plannedAttempt.runId = runId

def lastReplacementIntent? (records : List ReplacementRecord) (runId : RunId)
    (operationId : OperationId) : Option ReplacementRecord :=
  (records.filter (intendsReplacement runId operationId)).getLast?

/-- The pair that an outcome makes with the last intent before it, where both have the claim. -/
def settlementOf? (records : List ReplacementRecord) (claim : CompletionTaskClaim)
    (outcome : ReplacementRecord) : Option SettledCompletionClaimReplacement := do
  let (replaced, operationId) ← outcome.outcome?
  let intent ← lastReplacementIntent?
    (records.filter fun earlier => earlier.position < outcome.position) outcome.runId operationId
  if claim.wellBound && claim.plannedAttempt.runId = outcome.runId && replaced = claim &&
      intent.intent?.any (·.1 = claim) then
    some { intent, outcome }
  else none

def firstSettlement? (records : List ReplacementRecord) (claim : CompletionTaskClaim) :
    Option SettledCompletionClaimReplacement :=
  (records.filterMap (settlementOf? records claim)).head?

section

variable {records : List ReplacementRecord} {record : ReplacementRecord}
  {index : SettledCompletionClaimReplacementEvidence} {claim : CompletionTaskClaim}

theorem settlementOf?_eq_some {settled : SettledCompletionClaimReplacement}
    (found : settlementOf? records claim record = some settled) :
    settled.outcome = record ∧ claim.wellBound = true ∧
      claim.plannedAttempt.runId = record.runId ∧
      ∃ operationId, record.event = .replaced claim operationId := by
  unfold settlementOf? at found
  simp only [Option.bind_eq_bind, Option.bind_eq_some_iff] at found
  obtain ⟨⟨replaced, operationId⟩, outcome, intent, _, settles⟩ := found
  split_ifs at settles with conditions
  simp only [Bool.and_eq_true, decide_eq_true_eq] at conditions
  obtain ⟨⟨⟨bound, owned⟩, rfl⟩, _⟩ := conditions
  cases settles
  refine ⟨rfl, bound, owned, operationId, ?_⟩
  unfold ReplacementRecord.outcome? at outcome
  split at outcome
  · next event =>
      cases outcome
      exact event
  · cases outcome

theorem lastReplacementIntent?_append (runId : RunId) (operationId : OperationId) :
    lastReplacementIntent? (records ++ [record]) runId operationId =
      if intendsReplacement runId operationId record then some record
      else lastReplacementIntent? records runId operationId := by
  unfold lastReplacementIntent?
  rw [List.filter_append, List.filter_cons]
  split_ifs <;> simp

theorem settlementOf?_congr {others : List ReplacementRecord}
    (same : (others.filter fun earlier => decide (earlier.position < record.position)) =
      records.filter fun earlier => decide (earlier.position < record.position)) :
    settlementOf? others claim record = settlementOf? records claim record := by
  unfold settlementOf?
  rw [same]

/-- The index has the last intents and the first settlements. -/
structure SettledCompletionClaimReplacementEvidence.Shows
    (index : SettledCompletionClaimReplacementEvidence) (records : List ReplacementRecord) :
    Prop where
  intents : ∀ runId operationId,
    index.intents.lookup (runId, operationId) = lastReplacementIntent? records runId operationId
  settled : ∀ claim, index.settled.lookup claim = firstSettlement? records claim

theorem settlementOf?_eq_none (other : ∀ operationId, record.event = .replaced claim operationId →
    claim.wellBound = true → claim.plannedAttempt.runId ≠ record.runId) :
    settlementOf? records claim record = none := by
  by_contra settles
  obtain ⟨settled, found⟩ := Option.ne_none_iff_exists'.mp settles
  obtain ⟨_, bound, owned, operationId, event⟩ := settlementOf?_eq_some found
  exact other operationId event bound owned

section

variable (last : ∀ earlier ∈ records, earlier.position < record.position)

include last

theorem filter_before_append_self :
    ((records ++ [record]).filter fun earlier => decide (earlier.position < record.position)) =
      records := by
  have kept : (records.filter fun earlier => decide (earlier.position < record.position)) =
      records :=
    List.filter_eq_self.mpr fun earlier member => decide_eq_true (last earlier member)
  simp [kept]

theorem firstSettlement?_append (claim : CompletionTaskClaim) :
    firstSettlement? (records ++ [record]) claim =
      (firstSettlement? records claim).or (settlementOf? (records ++ [record]) claim record) := by
  have earlier : ∀ other ∈ records, settlementOf? (records ++ [record]) claim other =
      settlementOf? records claim other := by
    intro other member
    refine settlementOf?_congr ?_
    have behind : ¬ record.position < other.position := Nat.lt_asymm (last other member)
    simp [behind]
  unfold firstSettlement?
  rw [List.filterMap_append, List.filterMap_congr earlier, List.head?_append, List.filterMap_cons,
    List.filterMap_nil]
  cases settlementOf? (records ++ [record]) claim record <;> rfl

section

variable (shows : index.Shows records)
include shows

theorem matchingReplacement_eq {operationId : OperationId}
    (replaced : record.event = .replaced claim operationId) (bound : claim.wellBound = true)
    (owned : claim.plannedAttempt.runId = record.runId) :
    matchingReplacement index record claim operationId =
      settlementOf? (records ++ [record]) claim record := by
  have outcome : record.outcome? = some (claim, operationId) := by
    rw [ReplacementRecord.outcome?, replaced]
  unfold matchingReplacement settlementOf?
  rw [shows.intents, filter_before_append_self last, outcome]
  simp only [Option.bind_eq_bind, Option.bind_some]
  cases found : lastReplacementIntent? records record.runId operationId with
  | none => rfl
  | some intent =>
      have member := (List.mem_filter.mp (List.mem_of_getLast? found)).1
      simp [bound, owned, completionTaskClaimEquals, last intent member]

theorem SettledCompletionClaimReplacementEvidence.Shows.skip
    (unintended : ∀ runId operationId, intendsReplacement runId operationId record = false)
    (unsettled : ∀ claim, settlementOf? (records ++ [record]) claim record = none) :
    index.Shows (records ++ [record]) where
  intents := by
    intro runId operationId
    rw [shows.intents, lastReplacementIntent?_append, if_neg (by simp [unintended])]
  settled := by
    intro claim
    rw [shows.settled, firstSettlement?_append last, unsettled, Option.or_none]

theorem SettledCompletionClaimReplacementEvidence.Shows.intend {operationId : OperationId}
    (event : record.event = .replacementIntended claim operationId) (bound : claim.wellBound = true)
    (owned : claim.plannedAttempt.runId = record.runId) :
    ({ index with intents := index.intents.set (record.runId, operationId) record } :
      SettledCompletionClaimReplacementEvidence).Shows (records ++ [record]) where
  intents := by
    intro runId other
    have intends : intendsReplacement runId other record = true ↔
        (runId, other) = (record.runId, operationId) := by
      simp only [intendsReplacement, ReplacementRecord.intent?, event, Option.any_some, bound,
        Bool.and_true, owned, Prod.mk.injEq, Bool.and_eq_true, decide_eq_true_eq]
      constructor
      · rintro ⟨rfl, rfl, _⟩
        exact ⟨rfl, rfl⟩
      · rintro ⟨rfl, rfl⟩
        exact ⟨rfl, rfl, rfl⟩
    dsimp only
    rw [KeyedMap.lookup_set, lastReplacementIntent?_append, shows.intents]
    simp only [intends]
  settled := by
    intro claim
    have other : settlementOf? (records ++ [record]) claim record = none :=
      settlementOf?_eq_none fun _ replaced => by rw [event] at replaced; cases replaced
    rw [firstSettlement?_append last, other, Option.or_none]
    exact shows.settled claim

theorem SettledCompletionClaimReplacementEvidence.Shows.settle {operationId : OperationId}
    (event : record.event = .replaced claim operationId) (bound : claim.wellBound = true)
    (owned : claim.plannedAttempt.runId = record.runId) :
    (retainFirstSettlement index claim
      (matchingReplacement index record claim operationId)).Shows (records ++ [record]) := by
  have unintended : ∀ runId operationId, intendsReplacement runId operationId record = false := by
    simp [intendsReplacement, ReplacementRecord.intent?, event]
  have others : ∀ other, other ≠ claim →
      settlementOf? (records ++ [record]) other record = none := by
    intro other apart
    refine settlementOf?_eq_none fun _ replaced => ?_
    rw [event] at replaced
    cases replaced
    exact absurd rfl apart
  rw [matchingReplacement_eq last shows event bound owned]
  unfold retainFirstSettlement
  cases settles : settlementOf? (records ++ [record]) claim record with
  | none =>
      refine shows.skip last unintended fun other => ?_
      by_cases own : other = claim
      · exact own ▸ settles
      · exact others other own
  | some settlement =>
      dsimp only
      refine ⟨fun runId other => ?_, fun other => ?_⟩
      · rw [lastReplacementIntent?_append, unintended, if_neg Bool.false_ne_true, ← shows.intents]
        split_ifs <;> rfl
      · rw [firstSettlement?_append last, ← shows.settled]
        by_cases own : other = claim
        · subst own
          rw [settles]
          split_ifs with before
          · obtain ⟨first, found⟩ := Option.isSome_iff_exists.mp (AList.lookup_isSome.mpr before)
            rw [found, Option.some_or]
          · rw [AList.lookup_eq_none.mpr before, Option.none_or]
            exact (KeyedMap.lookup_set).trans (if_pos rfl)
        · rw [others other own, Option.or_none]
          split_ifs with before
          · rfl
          · exact (KeyedMap.lookup_set).trans (if_neg own)

end

theorem SettledCompletionClaimReplacementEvidence.Shows.append (shows : index.Shows records) :
    (appendSettledCompletionClaimReplacementEvidence index record).Shows (records ++ [record]) := by
  unfold appendSettledCompletionClaimReplacementEvidence completionClaimKey
  cases event : record.event with
  | other =>
      refine shows.skip last (fun runId operationId => ?_) fun claim => ?_
      · simp [intendsReplacement, ReplacementRecord.intent?, event]
      · exact settlementOf?_eq_none fun _ replaced => by rw [event] at replaced; cases replaced
  | replacementIntended claim operationId =>
      have unsettled : ∀ claim, settlementOf? (records ++ [record]) claim record = none := fun _ =>
        settlementOf?_eq_none fun _ replaced => by rw [event] at replaced; cases replaced
      dsimp only
      by_cases bound : claim.wellBound = true
      · rw [if_pos bound]
        dsimp only
        split_ifs with foreign
        · refine shows.skip last (fun runId operationId => ?_) unsettled
          simp only [intendsReplacement, ReplacementRecord.intent?, event, Option.any_some]
          by_cases run : record.runId = runId
          · simp [run, run ▸ foreign]
          · simp [run]
        · exact shows.intend last event bound (not_not.mp foreign)
      · rw [if_neg bound]
        refine shows.skip last (fun runId operationId => ?_) unsettled
        simp [intendsReplacement, ReplacementRecord.intent?, event, bound]
  | replaced claim operationId =>
      have unintended : ∀ runId operationId, intendsReplacement runId operationId record = false := by
        simp [intendsReplacement, ReplacementRecord.intent?, event]
      have unsettled (invalid : claim.wellBound = true → claim.plannedAttempt.runId ≠ record.runId)
          (other : CompletionTaskClaim) :
          settlementOf? (records ++ [record]) other record = none := by
        refine settlementOf?_eq_none fun _ replaced => ?_
        rw [event] at replaced
        cases replaced
        exact invalid
      dsimp only
      by_cases bound : claim.wellBound = true
      · rw [if_pos bound]
        dsimp only
        split_ifs with foreign
        · exact shows.skip last unintended (unsettled fun _ => foreign)
        · exact shows.settle last event bound (not_not.mp foreign)
      · rw [if_neg bound]
        exact shows.skip last unintended (unsettled fun valid => absurd valid bound)

end

theorem shows_settledCompletionClaimReplacementsFrom
    (increasing : Increasing ReplacementRecord.position records) :
    (settledCompletionClaimReplacementsFrom records).Shows records := by
  induction records using List.reverseRecOn with
  | nil => exact ⟨fun _ _ => rfl, fun _ => rfl⟩
  | append_singleton records record induction =>
      obtain ⟨earlier, _, last⟩ := List.pairwise_append.mp increasing
      rw [settledCompletionClaimReplacementsFrom, List.foldl_append]
      exact (induction earlier).append fun before member => last before member record (by simp)

theorem settledCompletionClaimReplacementAt_eq
    (increasing : Increasing ReplacementRecord.position records) (claim : CompletionTaskClaim)
    (throughPosition : Int) :
    settledCompletionClaimReplacementAt (settledCompletionClaimReplacementsFrom records) claim
        throughPosition =
      firstSettlement? (records.filter fun record =>
        decide ((record.position : Int) ≤ throughPosition)) claim := by
  set visible := records.filter fun record => decide ((record.position : Int) ≤ throughPosition)
    with visible_eq
  obtain ⟨later, split⟩ : ∃ later, records = visible ++ later :=
    increasing.exists_filter_append throughPosition
  have shown : ∀ record ∈ visible,
      settlementOf? records claim record = settlementOf? visible claim record := by
    intro record member
    refine settlementOf?_congr ?_
    have through : (record.position : Int) ≤ throughPosition := by
      simpa using (List.mem_filter.mp member).2
    rw [visible_eq, List.filter_filter]
    refine List.filter_congr fun other _ => ?_
    by_cases before : other.position < record.position
    · have within : (other.position : Int) ≤ throughPosition :=
        (Int.ofNat_lt.mpr before).le.trans through
      simp [before, within]
    · simp [before]
  have hidden : ∀ record ∈ later, throughPosition < (record.position : Int) := by
    intro record member
    by_contra through
    have inside : record ∈ visible := List.mem_filter.mpr
      ⟨split ▸ List.mem_append_right visible member, decide_eq_true (not_lt.mp through)⟩
    rw [split] at increasing
    exact Nat.lt_irrefl _ ((List.pairwise_append.mp increasing).2.2 record inside record member)
  have whole : firstSettlement? records claim =
      (firstSettlement? visible claim).or
        (later.filterMap (settlementOf? records claim)).head? := by
    unfold firstSettlement?
    rw [← List.head?_append, ← List.filterMap_congr shown, ← List.filterMap_append, ← split]
  have shows := shows_settledCompletionClaimReplacementsFrom increasing
  unfold settledCompletionClaimReplacementAt completionClaimKey
  split_ifs with bound
  · dsimp only
    rw [shows.settled, whole]
    cases found : firstSettlement? visible claim with
    | some settled =>
        obtain ⟨record, member, settles⟩ := List.mem_filterMap.mp (List.mem_of_head? found)
        obtain ⟨rfl, _, _, operationId, event⟩ := settlementOf?_eq_some settles
        have through : (settled.outcome.position : Int) ≤ throughPosition := by
          simpa using (List.mem_filter.mp member).2
        rw [Option.some_or]
        simp [Option.filter, through, ReplacementRecord.outcome?, event, completionTaskClaimEquals]
    | none =>
        rw [Option.none_or, Option.filter_eq_none_iff]
        intro settled first
        obtain ⟨record, member, settles⟩ := List.mem_filterMap.mp (List.mem_of_head? first)
        obtain ⟨rfl, _⟩ := settlementOf?_eq_some settles
        simp [hidden _ member]
  · dsimp only
    refine (List.head?_eq_none_iff.mpr (List.filterMap_eq_nil_iff.mpr fun record _ => ?_)).symm
    exact settlementOf?_eq_none fun _ _ valid => absurd valid bound

end

/-- At every cutoff, a Stop request has the latest record of each kind that a scan attributes to it,
and a completion claim the first outcome that the last intent before it explains. -/
theorem dispositions_and_settlements_scanned (records : List JournalRecord)
    (increasing : Increasing JournalRecord.position records)
    (replacements : List ReplacementRecord)
    (ordered : Increasing ReplacementRecord.position replacements) (throughPosition : Int) :
    (∀ request,
      let visible := records.filter fun record => decide ((record.position : Int) ≤ throughPosition)
      stopRequestDispositionAt (stopRequestDispositionFrom records) request throughPosition =
        { abandonment := lastDisposition? visible request .attemptImplementationAbandoned
          releaseIntent := lastDisposition? visible request .taskClaimReleaseIntended
          releaseOutcome := lastDisposition? visible request .taskClaimReleased
          noRelease := lastDisposition? visible request .stoppedAttemptClaimNoReleaseObserved }) ∧
      ∀ claim,
        settledCompletionClaimReplacementAt (settledCompletionClaimReplacementsFrom replacements)
            claim throughPosition =
          firstSettlement? (replacements.filter fun record =>
            decide ((record.position : Int) ≤ throughPosition)) claim :=
  ⟨fun request => stopRequestDispositionAt_eq increasing request throughPosition,
    fun claim => settledCompletionClaimReplacementAt_eq ordered claim throughPosition⟩

namespace SettledClaims

def runId : RunId := ⟨"settled-claims", by decide⟩

def plannedAttempt : PlannedTaskAttempt where
  attemptId := ⟨"attempt"⟩
  baseSha := ⟨"base"⟩
  branch := "refs/heads/task"
  executor := "executor"
  runId := runId
  taskId := ⟨"task"⟩
  taskRevision := ⟨"revision"⟩
  worktree := "/task"

def session : IntegratorSessionCorrelation where
  acceptedResult := ⟨⟨"accepted"⟩, ⟨0, "evidence"⟩⟩
  integrationTarget := ⟨"/target", "refs/heads/main"⟩
  plannedAttempt := plannedAttempt
  queuedAt := 2
  startedAt := 3
  candidateResource := "resource"
  expectedTargetHead := ⟨"expected"⟩
  sessionId := "session"
  targetLineageObservedAt := 4

theorem parents_exact : ((⟨"expected"⟩, ⟨"accepted"⟩) : GitCommitSha × GitCommitSha) =
    (session.expectedTargetHead, session.acceptedResult.commit) := rfl

theorem lineage_earlier : session.targetLineageObservedAt < (5 : JournalPosition) :=
  Nat.lt_succ_self 4

def candidate : IntegratorRunQualifiedCandidate where
  candidateCommit := ⟨"candidate"⟩
  candidateText := "candidate"
  directParents := (⟨"expected"⟩, ⟨"accepted"⟩)
  qualifiedAt := 5
  run := ⟨1, session⟩
  exactParents := parents_exact
  qualifiedLater := lineage_earlier

def claim (token : String) : CompletionTaskClaim where
  originalClaim := ⟨⟨"claim"⟩, ⟨"dalph"⟩, ⟨"task"⟩, ⟨token⟩⟩
  plannedAttempt := plannedAttempt
  promotionCorrelation := targetPromotionCorrelationFor candidate

def operationId : OperationId := ⟨"replacement"⟩

def intended (token : String) (position : JournalPosition) : ReplacementRecord :=
  ⟨.replacementIntended (claim token) operationId, position, runId⟩

def replaced (token : String) (position : JournalPosition) : ReplacementRecord :=
  ⟨.replaced (claim token) operationId, position, runId⟩

def overwritten : List ReplacementRecord :=
  [intended "first" 1, intended "second" 2, replaced "first" 3]

theorem intent_ne : "intent" ≠ "" := by decide

theorem outcome_ne : "outcome" ≠ "" := by decide

def released : List JournalRecord :=
  [⟨.taskClaimReleaseIntended ⟨.stoppedAttempt ⟨"observation"⟩ ⟨"stop", runId⟩, [],
      ⟨(claim "first").originalClaim, ⟨"release"⟩⟩⟩, ⟨"intent", intent_ne⟩, 1, runId⟩,
    ⟨.taskClaimReleased ⟨(claim "first").originalClaim, ⟨"release"⟩⟩, ⟨"outcome", outcome_ne⟩, 2,
      runId⟩]

end SettledClaims

open SettledClaims

/-- The first intent and the outcome are an exact visible pair, and nothing is settled: the outcome
is compared with the last intent under its operation. -/
theorem settlement_overwritten :
    (∃ intent ∈ overwritten, ∃ outcome ∈ overwritten,
      intent.intent? = some (claim "first", operationId) ∧
        outcome.outcome? = some (claim "first", operationId) ∧ intent.runId = outcome.runId ∧
        intent.position < outcome.position ∧ (outcome.position : Int) ≤ 3) ∧
      settledCompletionClaimReplacementAt (settledCompletionClaimReplacementsFrom overwritten)
        (claim "first") 3 = none := by
  refine ⟨⟨intended "first" 1, by simp [overwritten], replaced "first" 3, by simp [overwritten],
    rfl, rfl, rfl, by decide, by decide⟩, ?_⟩
  decide +kernel

/-- An outcome of a release belongs to the Stop request of its intent, and an explained replacement
settles its claim. -/
theorem dispositions_and_settlements_released :
    (stopRequestDispositionAt (stopRequestDispositionFrom released) ⟨"stop", runId⟩
        2).releaseOutcome = released[1]? ∧
      settledCompletionClaimReplacementAt
          (settledCompletionClaimReplacementsFrom [intended "first" 1, replaced "first" 2])
          (claim "first") 2 =
        some ⟨intended "first" 1, replaced "first" 2⟩ := by
  have increasing : Increasing JournalRecord.position released := by
    unfold Increasing
    decide
  have ordered : Increasing ReplacementRecord.position
      [intended "first" 1, replaced "first" 2] := by
    unfold Increasing
    decide
  obtain ⟨disposed, settled⟩ :=
    dispositions_and_settlements_scanned released increasing _ ordered 2
  refine ⟨?_, ?_⟩
  · rw [disposed ⟨"stop", runId⟩]
    decide +kernel
  · rw [settled (claim "first")]
    decide +kernel

end Dalph
