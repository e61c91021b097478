import Dalph.Workflow.TaskClaimReacquisition

/-!
# The claim that an attempt may hold

An attempt holds the claim in the causal history of its plan, or the latest one acquired under a
reacquisition that was directed for its task behind the plan.  Only the last acquisition of the task
is asked for its direction, so one without a direction hides an earlier one that has it.
-/

namespace Dalph

/-- The task's claim was acquired under a reacquisition that was directed behind the plan. -/
structure DirectedAcquisition (records : List JournalRecord) (plannedAttempt : PlannedTaskAttempt)
    (plannedAt : JournalPosition) (record : JournalRecord) (claim : ActiveTaskClaim) : Prop where
  listed : record ∈ records
  acquired : acquiredClaim? record = some claim
  task : claim.taskId = plannedAttempt.taskId
  directed : ∃ intent ∈ records, ∃ operation requestId, ∃ direction ∈ records,
    acquisitionIntended? intent = some operation ∧
      acquiresClaim operation.acquisition claim = true ∧
      operation.authority = .explicitTaskClaimReacquisition requestId ∧
      intent.position < record.position ∧
      directionAuthorizes plannedAttempt plannedAt intent requestId claim direction = true

def acquiresFor (taskId : TaskId) (record : JournalRecord) : Bool :=
  (acquiredClaim? record).any (·.taskId = taskId)

def attemptPlanned? (records : List JournalRecord) (plannedAttempt : PlannedTaskAttempt) :
    Option JournalRecord :=
  (exactPlanRecordForAttempt (.raw records) plannedAttempt.attemptId).filter
    (·.runId = plannedAttempt.runId)

/-- The claim of the latest directed acquisition or, without one, the causal claim of the plan. -/
def LatestAuthorized (records : List JournalRecord) (plannedAttempt : PlannedTaskAttempt)
    (authorized : Option ActiveTaskClaim) : Prop :=
  match attemptPlanned? records plannedAttempt with
  | none => authorized = none
  | some planned =>
      (∃ record claim, DirectedAcquisition records plannedAttempt planned.position record claim ∧
        (∀ other claim, DirectedAcquisition records plannedAttempt planned.position other claim →
          other.position ≤ record.position) ∧ authorized = some claim) ∨
      (¬ ∃ record claim, DirectedAcquisition records plannedAttempt planned.position record claim) ∧
        authorized = causalClaimForAttempt (.raw records) plannedAttempt.attemptId

/-- Where the task's claim was acquired under a direction, its last acquisition was as well. -/
def LastIsDirected (records : List JournalRecord) (plannedAttempt : PlannedTaskAttempt) : Prop :=
  ∀ planned, attemptPlanned? records plannedAttempt = some planned →
    (∃ record claim, DirectedAcquisition records plannedAttempt planned.position record claim) →
      ∃ record claim, DirectedAcquisition records plannedAttempt planned.position record claim ∧
        ∀ other ∈ records, acquiresFor plannedAttempt.taskId other = true →
          other.position ≤ record.position

/-- The traversal returns exactly what the operations of a history reach from its start. -/
def PredecessorsExact (records : List JournalRecord) (cutoff : Int) : Prop :=
  ∀ predecessors operationId,
    operationId ∈ causalPredecessorOperationIdsFromEvidence (evidenceBefore records cutoff)
        predecessors ↔
      ∃ origin ∈ predecessors,
        Worklist.Reaches (predecessorsIn (evidenceBefore records cutoff)) origin operationId

section

variable {records all : List JournalRecord} {source : JournalHistorySource} {runId : RunId}
  {evidence : JournalRecordEvidence} {record planned : JournalRecord} {key : JournalRecordKey}
  {plannedAttempt : PlannedTaskAttempt} {claim : ActiveTaskClaim}

theorem Canonical.recordsBefore (canonical : Canonical runId all) (cutoff : Int) :
    Canonical runId (recordsBefore all cutoff) := by
  obtain ⟨later, split⟩ := canonical.chronological.increasing.exists_filter_append (cutoff - 1)
  simp only [Int.le_sub_one_iff] at split
  rw [split] at canonical
  exact canonical.left

theorem predecessorsIn_eq (increasing : InOrder all)
    (shows : Shows evidence all records) (operationId : OperationId) :
    predecessorsIn evidence operationId =
      ((journalOperationById operationId (.raw records)).map
        WorkflowOperation.predecessorOperationIds).getD [] := by
  rw [predecessorsIn, Shows.journalOperationById_raw, journalOperationById, indexedOperationById,
    shows.lastVisibleRecord_eq increasing (shows.indexed.operations operationId)]

theorem recordedOperationIds_eq (shows : Shows evidence all records) :
    recordedOperationIds evidence = (records.filterMap operationOf).map workflowOperationId := by
  rw [recordedOperationIds, shows.toList]

theorem predecessorsIn_eq_nil (increasing : InOrder all)
    (shows : Shows evidence all records) {operationId : OperationId}
    (unknown : operationId ∉ recordedOperationIds evidence) :
    predecessorsIn evidence operationId = [] := by
  rw [predecessorsIn_eq increasing shows, Shows.journalOperationById_raw]
  cases last : (records.filter fun record => initiatesOperation record operationId).getLast? with
  | none => rfl
  | some record =>
      obtain ⟨member, initiates⟩ := List.mem_filter.mp (List.mem_of_getLast? last)
      obtain ⟨operation, carried, named⟩ := (Option.any_eq_true _ _).mp initiates
      rw [recordedOperationIds_eq shows] at unknown
      exact absurd (List.mem_map.mpr ⟨operation, List.mem_filterMap.mpr ⟨record, member, carried⟩,
        of_decide_eq_true named⟩) unknown

theorem predecessorsExact (chronological : Chronological all) (cutoff : Int) :
    PredecessorsExact all cutoff := fun _ _ =>
  Worklist.mem_search_iff fun _ unknown => predecessorsIn_eq_nil chronological.increasing
    (shows_evidenceBefore chronological cutoff) unknown

theorem causalPredecessors_eq (presents : Presents source records)
    (increasing : InOrder records) (predecessors : List OperationId) :
    causalPredecessorOperationIds source predecessors =
      causalPredecessorOperationIds (.raw records) predecessors := by
  cases presents with
  | raw => rfl
  | indexed chronological shows =>
      have listed := shows_journalEvidenceFrom increasing
      rw [causalPredecessorOperationIds, causalPredecessorOperationIds,
        causalPredecessorOperationIdsFromEvidence, causalPredecessorOperationIdsFromEvidence,
        recordedOperationIds_eq shows, recordedOperationIds_eq listed]
      congr 1
      funext operationId
      rw [predecessorsIn_eq chronological.increasing shows, predecessorsIn_eq increasing listed]

theorem exactRecordByKey_eq (presents : Presents source records)
    (canonical : Canonical runId records) :
    exactRecordByKey source key = records.find? fun record => record.key = key := by
  cases presents with
  | indexed chronological shows => exact shows.visible_byKey chronological.increasing key
  | raw =>
      rw [exactRecordByKey, ← List.head?_filter]
      cases listed : records.filter fun record => record.key = key with
      | nil => rfl
      | cons first rest =>
          cases rest with
          | nil => rfl
          | cons second rest =>
              have distinct := canonical.distinctKeys.sublist
                (List.filter_sublist.map (JournalRecord.key ·) : List.Sublist
                  ((records.filter fun record => record.key = key).map (·.key)) _)
              have same : ∀ record ∈ first :: second :: rest, record.key = key := by
                rw [← listed]
                exact fun record member => of_decide_eq_true (List.mem_filter.mp member).2
              rw [listed, List.map_cons, List.map_cons, same first (by simp),
                same second (by simp)] at distinct
              simp at distinct

/-- A window on indexed evidence and the plain list of its records authorize the same claim. -/
theorem authorizedClaimForAttempt_eq (presents : Presents source records)
    (canonical : Canonical runId records) :
    authorizedClaimForAttempt source plannedAttempt =
      authorizedClaimForAttempt (.raw records) plannedAttempt := by
  have keyed : exactRecordByKey source = exactRecordByKey (.raw records) := by
    funext key
    rw [exactRecordByKey_eq presents canonical, exactRecordByKey_eq (.raw records) canonical]
  have plans : exactPlanRecordForAttempt source = exactPlanRecordForAttempt (.raw records) := by
    funext attemptId
    simp only [exactPlanRecordForAttempt]
    rw [presents.recordsForAttemptKind attemptId (by decide),
      presents.recordsForAttemptKind attemptId (by decide),
      presents.recordsForAttemptKind attemptId (by decide),
      (Presents.raw records).recordsForAttemptKind attemptId (by decide),
      (Presents.raw records).recordsForAttemptKind attemptId (by decide),
      (Presents.raw records).recordsForAttemptKind attemptId (by decide)]
  have outcomes : claimOutcomeBefore source = claimOutcomeBefore (.raw records) := by
    funext planRecord plan operationId
    rw [claimOutcomeBefore, claimOutcomeBefore, keyed]
  have causal : causalClaimForAttempt source = causalClaimForAttempt (.raw records) := by
    funext attemptId
    simp only [causalClaimForAttempt, keyed, plans, outcomes,
      causalPredecessors_eq presents canonical.chronological.increasing]
  simp only [authorizedClaimForAttempt, reacquiredClaimForAttempt, keyed, plans, causal,
    presents.lastRecordForTaskKind plannedAttempt.taskId (show
      WorkflowJournalEventTag.taskClaimAcquired ≠ .taskTrackerFactsObserved by decide),
    (Presents.raw records).lastRecordForTaskKind plannedAttempt.taskId (show
      WorkflowJournalEventTag.taskClaimAcquired ≠ .taskTrackerFactsObserved by decide)]

theorem lastAcquired_eq (taskId : TaskId) :
    lastJournalRecordForTaskKind taskId .taskClaimAcquired (.raw records) =
      findLast records (acquiresFor taskId) := by
  rw [(Presents.raw records).lastRecordForTaskKind taskId (by decide)]
  congr 1
  funext record
  rw [Bool.eq_iff_iff, Bool.and_eq_true, decide_eq_true_eq, decide_eq_true_eq,
    tag_eq_taskClaimAcquired_iff, acquiresFor]
  cases acquired : acquiredClaim? record with
  | none => simp
  | some claim => simp [mem_taskIdsOf_of_acquired acquired, eq_comm]

theorem directed_of_authorizes {intent direction : JournalRecord} {requestId : String}
    {plannedAt : JournalPosition}
    (authorizes :
      directionAuthorizes plannedAttempt plannedAt intent requestId claim direction = true) :
    direction.event.expectedKey = taskClaimReacquisitionDirectedRecordKey requestId ∧
      plannedAt < direction.position ∧ direction.position < intent.position := by
  unfold directionAuthorizes at authorizes
  split at authorizes
  · next event shape =>
    simp only [Bool.and_eq_true, decide_eq_true_eq] at authorizes
    obtain ⟨⟨⟨⟨⟨⟨before, behind⟩, -⟩, -⟩, -⟩, rfl⟩, -⟩ := authorizes
    exact ⟨by rw [shape]; rfl, behind, before⟩
  · cases authorizes

theorem expectedKey_of_intended {intent : JournalRecord} {operation : AcquireTaskClaimOperation}
    (intended : acquisitionIntended? intent = some operation)
    (acquires : acquiresClaim operation.acquisition claim = true) :
    intent.event.expectedKey = intentRecordKey claim.operationId := by
  unfold acquisitionIntended? at intended
  split at intended
  · next event =>
    cases intended
    simp only [acquiresClaim, Bool.and_eq_true, decide_eq_true_eq] at acquires
    rw [event, ← acquires.1.1.1]
    rfl
  · cases intended

/-- The last acquisition of the task is the one that is asked for its direction. -/
theorem reacquiredClaim_eq_some_iff (canonical : Canonical runId records)
    (run : plannedAttempt.runId = runId) :
    reacquiredClaimForAttempt (.raw records) plannedAttempt planned = some claim ↔
      ∃ record, findLast records (acquiresFor plannedAttempt.taskId) = some record ∧
        DirectedAcquisition records plannedAttempt planned.position record claim := by
  have byKey : ∀ key, exactRecordByKey (.raw records) key = records.find? (·.key = key) :=
    fun _ => exactRecordByKey_eq (.raw records) canonical
  simp only [reacquiredClaimForAttempt, lastAcquired_eq, Option.bind_eq_bind,
    Option.bind_eq_some_iff, byKey]
  refine exists_congr fun record => and_congr_right fun found => ?_
  obtain ⟨member, selected⟩ := mem_of_findLast found
  constructor
  · rintro ⟨claim', acquired, intent, known, operation, intended, result⟩
    split at result
    · cases result
    · next requestId authority =>
      obtain ⟨direction, directed, result⟩ := Option.bind_eq_some_iff.mp result
      split at result
      · next checks =>
        cases result
        simp only [Bool.and_eq_true, decide_eq_true_eq] at checks
        obtain ⟨⟨⟨⟨-, earlier⟩, -⟩, acquires⟩, authorizes⟩ := checks
        rw [acquiresFor, acquired, Option.any_some, decide_eq_true_eq] at selected
        exact ⟨member, acquired, selected, intent, List.mem_of_find?_eq_some known, operation,
          requestId, direction, List.mem_of_find?_eq_some directed, intended, acquires, authority,
          earlier, authorizes⟩
      · cases result
  · intro stands
    obtain ⟨intent, listed, operation, requestId, direction, given, intended, acquires, authority,
      earlier, authorizes⟩ := stands.directed
    obtain ⟨named, -, -⟩ := directed_of_authorizes authorizes
    have known := canonical.find_key listed
    have directed := canonical.find_key given
    rw [expectedKey_of_intended intended acquires] at known
    rw [named] at directed
    have own : record.key = outcomeRecordKey claim.operationId := by
      rw [canonical.keyed record member, event_of_acquired stands.acquired]
      rfl
    refine ⟨claim, stands.acquired, intent, known, operation, intended, ?_⟩
    simp [authority, directed, canonical.owned record member, canonical.owned intent listed, run,
      own, earlier, acquires, authorizes]

theorem theOnly?_eq_some {Item : Type} {items : List Item} {item : Item}
    (only : theOnly? items = some item) : items = [item] := by
  unfold theOnly? at only
  split at only
  · cases only
    rfl
  · cases only

theorem causalClaim_before (canonical : Canonical runId records)
    (plans : exactPlanRecordForAttempt (.raw records) plannedAttempt.attemptId = some planned)
    (causal : causalClaimForAttempt (.raw records) plannedAttempt.attemptId = some claim) :
    ∃ record ∈ records, acquiredClaim? record = some claim ∧
      record.position < planned.position := by
  simp only [causalClaimForAttempt, plans, Option.bind_eq_bind, Option.bind_some,
    Option.bind_eq_some_iff] at causal
  obtain ⟨plan, -, ⟨outcome, given⟩, only, intent, -, operation, -, result⟩ := causal
  split at result
  · cases result
    have drawn := List.mem_singleton_self (outcome, given)
    rw [← theOnly?_eq_some only] at drawn
    obtain ⟨operationId, -, before⟩ := List.mem_filterMap.mp drawn
    simp only [claimOutcomeBefore, exactRecordByKey_eq (.raw records) canonical,
      Option.bind_eq_bind, Option.bind_eq_some_iff] at before
    obtain ⟨record, found, claim', acquired, before⟩ := before
    split at before
    · next checks =>
      cases before
      simp only [Bool.and_eq_true, decide_eq_true_eq] at checks
      exact ⟨outcome, List.mem_of_find?_eq_some found, acquired, checks.2⟩
    · cases before
  · cases result

theorem DirectedAcquisition.not_causal (canonical : Canonical runId records)
    (plans : exactPlanRecordForAttempt (.raw records) plannedAttempt.attemptId = some planned)
    (stands : DirectedAcquisition records plannedAttempt planned.position record claim) :
    causalClaimForAttempt (.raw records) plannedAttempt.attemptId ≠ some claim := by
  intro causal
  obtain ⟨other, listed, acquired, before⟩ := causalClaim_before canonical plans causal
  obtain rfl := canonical.eq_of_key listed stands.listed (by
    rw [event_of_acquired acquired, event_of_acquired stands.acquired])
  obtain ⟨intent, -, _, _, direction, -, -, -, -, earlier, authorizes⟩ := stands.directed
  obtain ⟨-, behind, first⟩ := directed_of_authorizes authorizes
  exact Nat.lt_asymm before (behind.trans (first.trans earlier))

theorem DirectedAcquisition.acquiresFor {plannedAt : JournalPosition}
    (stands : DirectedAcquisition records plannedAttempt plannedAt record claim) :
    acquiresFor plannedAttempt.taskId record = true := by
  rw [Dalph.acquiresFor, stands.acquired, Option.any_some, stands.task, decide_eq_true_eq]

theorem mem_of_exactPlan {attemptId : AttemptId}
    (plans : exactPlanRecordForAttempt (.raw records) attemptId = some planned) :
    planned ∈ records := by
  have drawn := List.mem_singleton_self planned
  rw [← theOnly?_eq_some plans] at drawn
  obtain (kind | kind) | kind := (List.mem_append.mp (List.mem_of_mem_filter drawn)).imp_left
    List.mem_append.mp
  all_goals exact List.mem_of_mem_filter kind

theorem latestAuthorized_iff (canonical : Canonical runId records) :
    LatestAuthorized records plannedAttempt
        (authorizedClaimForAttempt (.raw records) plannedAttempt) ↔
      LastIsDirected records plannedAttempt := by
  rw [LatestAuthorized, LastIsDirected, authorizedClaimForAttempt, attemptPlanned?]
  cases plans : exactPlanRecordForAttempt (.raw records) plannedAttempt.attemptId with
  | none => simp
  | some planned =>
      by_cases same : planned.runId = plannedAttempt.runId
      case neg =>
        rw [Option.filter_some, if_neg (by simpa using same)]
        simp [same]
      have run : plannedAttempt.runId = runId :=
        same.symm.trans (canonical.owned planned (mem_of_exactPlan plans))
      have increasing := canonical.chronological.increasing
      simp only [Option.filter_some, same, decide_true, if_true, ne_eq, not_true_eq_false, if_false]
      cases taken : reacquiredClaimForAttempt (.raw records) plannedAttempt planned with
      | some claim =>
          obtain ⟨record, found, stands⟩ := (reacquiredClaim_eq_some_iff canonical run).mp taken
          obtain ⟨-, -, greatest⟩ := (findLast_eq_some_iff _ increasing).mp found
          constructor
          · rintro - _ ⟨rfl⟩ -
            exact ⟨record, claim, stands, greatest⟩
          · intro _
            exact .inl ⟨record, claim, stands,
              fun other _ also => greatest other also.listed also.acquiresFor, rfl⟩
      | none =>
          constructor
          · rintro (⟨record, claim, stands, -, causal⟩ | ⟨absent, -⟩)
            · exact absurd causal (stands.not_causal canonical plans)
            · rintro _ ⟨rfl⟩ present
              exact absurd present absent
          · intro lastDirected
            refine .inr ⟨fun present => ?_, rfl⟩
            obtain ⟨record, claim, stands, greatest⟩ := lastDirected planned rfl present
            have found := (findLast_eq_some_iff _ increasing).mpr
              ⟨stands.listed, stands.acquiresFor, greatest⟩
            have given := (reacquiredClaim_eq_some_iff canonical run).mpr ⟨record, found, stands⟩
            rw [taken] at given
            cases given

end

/-- At every cutoff of an accepted history, indexed evidence and the plain list authorize the same
claim, and it is the latest one that was directed or else the causal one of the plan, exactly where
the last acquisition of the task is directed if any is. -/
theorem authorizedClaim_latest_iff (runId : RunId) (records : List JournalRecord)
    (accepted : AcceptedHistory runId records) (plannedAttempt : PlannedTaskAttempt)
    (cutoff : Int) :
    let visible := recordsBefore records cutoff
    let authorized := authorizedClaimForAttempt (.raw visible) plannedAttempt
    authorizedClaimForAttempt (.indexed (evidenceBefore records cutoff)) plannedAttempt =
      authorized ∧
        LatestAuthorized visible plannedAttempt authorized ∧
          (∀ others, Chronological others → PredecessorsExact others cutoff) ↔
      LastIsDirected visible plannedAttempt := by
  intro visible authorized
  have canonical := accepted.canonical.recordsBefore cutoff
  have chronological := accepted.canonical.chronological
  have presents : Presents (.indexed (evidenceBefore records cutoff)) visible :=
    .indexed chronological (shows_evidenceBefore chronological cutoff)
  rw [← latestAuthorized_iff canonical]
  constructor
  · rintro ⟨-, latest, -⟩
    exact latest
  · intro latest
    exact ⟨authorizedClaimForAttempt_eq presents canonical, latest,
      fun others ordered => predecessorsExact ordered cutoff⟩

namespace ReselectedTask

open EstablishedRun

def reacquired : ActiveTaskClaim :=
  ⟨taskClaimReacquisitionOperationId "again", ⟨"dalph"⟩, task, ⟨"second"⟩⟩

def reselected : ActiveTaskClaim := ⟨⟨"selection"⟩, ⟨"dalph"⟩, task, ⟨"third"⟩⟩

def acquisition (claim : ActiveTaskClaim) (authority : TaskClaimAcquisitionAuthority) :
    List WorkflowJournalEvent :=
  [.taskClaimAcquisitionIntended
      ⟨⟨claim.operationId, claim.owner, claim.taskId, claim.token⟩, authority, []⟩,
    .taskClaimAcquired claim]

def lostEvents : List WorkflowJournalEvent :=
  events ++
    [.taskTrackerReadIntentRecorded (.readTaskClaim (specificationRead ⟨"claim-read"⟩ ⟨"plan"⟩)),
      .taskTrackerFactsObserved
        (.focusedTaskClaimFacts ⟨.unclaimedTask task, ⟨"claim-read"⟩, target⟩),
      .taskClaimReacquisitionDirected ⟨"again", runId, task⟩] ++
    acquisition reacquired (.explicitTaskClaimReacquisition "again")

def lost : List JournalRecord := recordsFrom lostEvents

def history : List JournalRecord :=
  recordsFrom (lostEvents ++ acquisition reselected .taskSelection)

def planned : JournalRecord :=
  ⟨.taskAttemptPlanned ⟨⟨"plan"⟩, attempt, [⟨"specification"⟩]⟩,
    attemptPlanRecordKey attempt.attemptId,
    8, runId⟩

def reacquisition : JournalRecord :=
  ⟨.taskClaimAcquired reacquired, outcomeRecordKey reacquired.operationId, 19, runId⟩

theorem directed {records : List JournalRecord} (canonical : Canonical runId records)
    (found : findLast records (acquiresFor task) = some reacquisition)
    (given : reacquiredClaimForAttempt (.raw records) attempt planned = some reacquired) :
    DirectedAcquisition records attempt planned.position reacquisition reacquired := by
  obtain ⟨record, last, stands⟩ := (reacquiredClaim_eq_some_iff canonical rfl).mp given
  rw [show findLast records (acquiresFor attempt.taskId) = some reacquisition from found] at last
  cases last
  exact stands

end ReselectedTask

open ReselectedTask EstablishedRun in
/-- The reacquired claim is authorized while it is the last one that the task acquired. -/
theorem authorizedClaim_reacquired :
    LatestAuthorized (recordsBefore lost 20) attempt
      (authorizedClaimForAttempt (.raw (recordsBefore lost 20)) attempt) := by
  have accepted : AcceptedHistory EstablishedRun.runId lost := .inr (by decide +kernel)
  refine ((authorizedClaim_latest_iff EstablishedRun.runId lost accepted attempt 20).mpr ?_).2.1
  intro plan planned _
  obtain rfl : ReselectedTask.planned = plan :=
    Option.some.inj ((show attemptPlanned? (recordsBefore lost 20) attempt =
      some ReselectedTask.planned by decide +kernel).symm.trans planned)
  exact ⟨reacquisition, reacquired, directed (accepted.canonical.recordsBefore 20)
    (by decide +kernel) (by decide +kernel), by decide +kernel⟩

open ReselectedTask EstablishedRun in
/-- A claim that the task's selection acquired later hides the reacquired one: what is authorized is
the claim of the plan, which was lost before both. -/
theorem authorizedClaim_reselected :
    AcceptedHistory EstablishedRun.runId history ∧
      (latestTaskClaimReacquisitionDirection history EstablishedRun.runId task claim 18).map
        (·.requestId) = some "again" ∧
      authorizedClaimForAttempt (.raw (recordsBefore history 22)) attempt = some claim ∧
      ¬ LatestAuthorized (recordsBefore history 22) attempt
        (authorizedClaimForAttempt (.raw (recordsBefore history 22)) attempt) := by
  have accepted : AcceptedHistory EstablishedRun.runId history := .inr (by decide +kernel)
  refine ⟨accepted, by decide +kernel, by decide +kernel, fun latest => ?_⟩
  have canonical := accepted.canonical.recordsBefore 22
  have before : DirectedAcquisition (recordsBefore history 20) attempt 8 reacquisition reacquired :=
    directed (accepted.canonical.recordsBefore 20) (by decide +kernel) (by decide +kernel)
  have within : ∀ record ∈ recordsBefore history 20, record ∈ recordsBefore history 22 := by
    decide +kernel
  obtain ⟨intent, listed, operation, request, direction, given, facts⟩ := before.directed
  obtain ⟨record, claim, stands, greatest⟩ := (latestAuthorized_iff canonical).mp latest
    ReselectedTask.planned (by decide +kernel) ⟨reacquisition, reacquired,
      within _ before.listed, before.acquired, before.task,
      intent, within _ listed, operation, request, direction, within _ given, facts⟩
  have found := (findLast_eq_some_iff _ canonical.chronological.increasing).mpr
    ⟨stands.listed, stands.acquiresFor, greatest⟩
  have reclaimed := (reacquiredClaim_eq_some_iff canonical rfl).mpr ⟨record, found, stands⟩
  have none : reacquiredClaimForAttempt (.raw (recordsBefore history 22)) attempt
      ReselectedTask.planned = none := by decide +kernel
  rw [none] at reclaimed
  cases reclaimed

end Dalph
