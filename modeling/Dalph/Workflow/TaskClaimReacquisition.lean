import Dalph.Coordination.Reconstruction.PriorResources
import Dalph.Workflow.ClaimAuthority
import Dalph.WorkflowJournal.ClaimObservationEpisodes

/-!
# Reacquisition directions

A direction to reacquire a task's claim holds as long as the loss that it followed lasts.  A plain
list is searched for the latest direction that still holds; indexed evidence is asked for the latest
direction only, and compares where the episodes of two observations began.
-/

namespace Dalph

open PersistentSequence (Increasing)

inductive ClaimLossEpisode where
  | missing
  | foreign (claim : ActiveTaskClaim)
deriving DecidableEq

def isFocusedClaimObservation (taskId : TaskId) (record : JournalRecord) : Bool :=
  (focusedObservation record).any (·.1 = taskId)

def claimLossEpisodeAt (record : JournalRecord) (expectedClaim : ActiveTaskClaim) :
    Option ClaimLossEpisode :=
  match claimObserved? record with
  | none => none
  | some (.unclaimedTask _) => some .missing
  | some (.activeTaskClaim claim) =>
      if isExactTaskClaim claim expectedClaim then none else some (.foreign claim)

def observationRemainsInEpisode (record : JournalRecord) (episode : ClaimLossEpisode)
    (expectedClaim : ActiveTaskClaim) : Bool :=
  match claimObserved? record, episode with
  | none, _ => false
  | some (.unclaimedTask _), episode => episode = .missing
  | some (.activeTaskClaim _), .missing => false
  | some (.activeTaskClaim claim), .foreign lost =>
      !isExactTaskClaim claim expectedClaim && isExactTaskClaim claim lost

def acquiresExactly (expectedClaim : ActiveTaskClaim) (record : JournalRecord) : Bool :=
  (acquiredClaim? record).any (isExactTaskClaim · expectedClaim)

/-- The direction follows a loss that no later record ends. -/
def directionFollowsCurrentLossEpisode (records : List JournalRecord) (taskId : TaskId)
    (expectedClaim : ActiveTaskClaim) (directionPosition throughPosition : JournalPosition) :
      Bool :=
  let acquired := findLast records fun record =>
    record.position < directionPosition && acquiresExactly expectedClaim record
  let lossRecord := findLast records fun record =>
    record.position < directionPosition && acquired.all (·.position < record.position) &&
      isFocusedClaimObservation taskId record
  match lossRecord with
  | none => false
  | some lossRecord =>
      match claimLossEpisodeAt lossRecord expectedClaim with
      | none => false
      | some episode =>
          (records.filter fun record => lossRecord.position < record.position &&
            record.position ≤ throughPosition &&
              (isFocusedClaimObservation taskId record || acquiresExactly expectedClaim record)).all
            fun record => record.event.tag ≠ .taskClaimAcquired &&
              observationRemainsInEpisode record episode expectedClaim

def reacquisitionDirected? (record : JournalRecord) : Option TaskClaimReacquisitionDirected :=
  match record.event with
  | .taskClaimReacquisitionDirected event => some event
  | _ => none

def latestTaskClaimReacquisitionDirection (records : List JournalRecord) (runId : RunId)
    (taskId : TaskId) (expectedClaim : ActiveTaskClaim) (throughPosition : JournalPosition) :
    Option TaskClaimReacquisitionDirected :=
  let taskRecords := journalRecordsForTask taskId (.raw records)
  (findLast taskRecords fun record =>
    ((reacquisitionDirected? record).any fun event =>
      event.runId = runId && event.taskId = taskId) &&
      record.position ≤ throughPosition &&
        directionFollowsCurrentLossEpisode taskRecords taskId expectedClaim record.position
          throughPosition).bind reacquisitionDirected?

def exactClaimAcquiredAfterLoss (records : JournalRecordEvidence) (taskId : TaskId)
    (expectedClaim : ActiveTaskClaim) (lossPosition : JournalPosition) : Bool :=
  (journalRecordByKey (outcomeRecordKey expectedClaim.operationId) (.indexed records)).any
    fun acquired =>
      ((acquiredClaim? acquired).any fun claim =>
        claim.taskId = taskId && isExactTaskClaim claim expectedClaim) &&
          lossPosition < acquired.position

def journalTaskClaimObservationAt (source : JournalRecordEvidence)
    (episodes : ClaimObservationEpisodes) (taskId : TaskId) : Option ClaimObservationEpisode :=
  claimObservationEpisodeAt episodes taskId source.throughPosition

def unchangedClaimLossBeforeDirection (through : JournalRecordEvidence)
    (episodes : ClaimObservationEpisodes) (taskId : TaskId) (expectedClaim : ActiveTaskClaim)
    (directionPosition : JournalPosition) : Option ClaimObservationEpisode := do
  let loss ← journalTaskClaimObservationAt (journalEvidenceBefore through directionPosition)
    episodes taskId
  let current ← journalTaskClaimObservationAt through episodes taskId
  if loss.episodeStartedAt ≠ current.episodeStartedAt then none
  else if (claimLossEpisodeAt loss.record expectedClaim).isNone then none
  else some loss

def latestIndexedTaskClaimReacquisitionDirection (records : JournalRecordEvidence)
    (episodes : ClaimObservationEpisodes) (runId : RunId) (taskId : TaskId)
    (expectedClaim : ActiveTaskClaim) (throughPosition : JournalPosition) :
    Option TaskClaimReacquisitionDirected := do
  let through := journalEvidenceBefore records (throughPosition + 1)
  let direction ← lastJournalRecordForTaskKind taskId .taskClaimReacquisitionDirected
    (.indexed through)
  let event ← reacquisitionDirected? direction
  if event.runId ≠ runId then none
  else
    let loss ← unchangedClaimLossBeforeDirection through episodes taskId expectedClaim
      direction.position
    if exactClaimAcquiredAfterLoss through taskId expectedClaim loss.record.position then none
    else some event

/-- Among the visible records, the last observation before a direction shows a loss of the claim that
every later observation shows as well. -/
structure UnchangedLoss (visible : List JournalRecord) (taskId : TaskId)
    (expectedClaim : ActiveTaskClaim) (direction : JournalPosition) (loss : JournalRecord) :
    Prop where
  observed : loss ∈ claimObservations taskId visible
  before : loss.position < direction
  last : ∀ other ∈ claimObservations taskId visible, other.position < direction →
    other.position ≤ loss.position
  lost : ∃ claim, claimObserved? loss = some claim ∧ claim ≠ .activeTaskClaim expectedClaim
  same : ∀ other ∈ claimObservations taskId visible, loss.position < other.position →
    ObservesSameClaim loss other

structure StandingLoss (visible : List JournalRecord) (taskId : TaskId)
    (expectedClaim : ActiveTaskClaim) (direction : JournalPosition) (loss : JournalRecord) : Prop
    extends UnchangedLoss visible taskId expectedClaim direction loss where
  acquired : expectedClaim.taskId = taskId → ∀ record ∈ visible,
    acquiredClaim? record = some expectedClaim → record.position < loss.position

def directsTask (taskId : TaskId) (record : JournalRecord) : Bool :=
  (reacquisitionDirected? record).any (·.taskId = taskId)

/-- The event is that of the latest direction, and a loss stands before it. -/
def LatestStands (visible : List JournalRecord) (taskId : TaskId) (expectedClaim : ActiveTaskClaim)
    (event : TaskClaimReacquisitionDirected) : Prop :=
  ∃ direction, findLast visible (directsTask taskId) = some direction ∧
    reacquisitionDirected? direction = some event ∧
    ∃ loss, StandingLoss visible taskId expectedClaim direction.position loss

/-- A chronology of one Run, in which a claim's operation has one outcome. -/
structure ReacquisitionChronology (runId : RunId) (records : List JournalRecord) : Prop where
  chronological : Chronological records
  run : ∀ record ∈ records, ∀ event, reacquisitionDirected? record = some event →
    event.runId = runId
  outcome : ∀ record ∈ records, ∀ claim, acquiredClaim? record = some claim →
    (records.find? fun other => other.key = outcomeRecordKey claim.operationId) = some record

section Observations

variable {all shown observations earlier later : List JournalRecord}
  {record loss other : JournalRecord}
  {source : JournalRecordEvidence} {taskId : TaskId} {start next : JournalPosition}
  {expectedClaim : ActiveTaskClaim} {episode : ClaimLossEpisode}

theorem EpisodeStarts.unique (first : EpisodeStarts observations start)
    (second : EpisodeStarts observations next) : start = next := by
  obtain ⟨before, head, run, split, final, rfl⟩ := first
  obtain ⟨before', head', run', split', final', rfl⟩ := second
  have onward := final'.longest ⟨before, split.symm.trans split'⟩ final.uniform
  have backward := final.longest ⟨before', split'.symm.trans split⟩ final'.uniform
  have equal := onward.eq_of_length (Nat.le_antisymm onward.length_le backward.length_le)
  rw [(List.cons.inj equal).1]

theorem EpisodeStarts.append (starts : EpisodeStarts (earlier ++ [loss]) start)
    (same : ∀ other ∈ later, ObservesSameClaim loss other) :
    EpisodeStarts (earlier ++ loss :: later) start := by
  induction later generalizing earlier loss with
  | nil => exact starts
  | cons other later induction =>
      obtain ⟨continues, same⟩ := List.forall_mem_cons.mp same
      obtain ⟨before, head, run, split, final, begins⟩ := starts
      rw [List.append_cons]
      refine induction
        ⟨before, head, run ++ [other], ?_, final.join (final.ends split) continues, begins⟩
        fun further member => IsTrans.trans _ _ _ (Std.Symm.symm _ _ continues)
          (same further member)
      rw [split, List.append_assoc, List.cons_append]

theorem episodeStarts_eq_iff
    (increasing : InOrder (earlier ++ loss :: later))
    (first : EpisodeStarts (earlier ++ [loss]) start)
    (second : EpisodeStarts (earlier ++ loss :: later) next) :
    start = next ↔ ∀ other ∈ later, ObservesSameClaim loss other := by
  constructor
  · rintro rfl other behind
    obtain ⟨before, head, run, split, -, begins⟩ := first
    obtain ⟨before', head', run', split', final, same⟩ := second
    have listed : head ∈ earlier ++ [loss] := by simp [split]
    have through : head.position ≤ loss.position := by
      have last := List.getLast?_concat (l := earlier) (a := loss)
      have ordered : InOrder (earlier ++ [loss]) :=
        increasing.sublist (List.Sublist.append_left (by simp) _)
      exact position_le_of_getLast? ordered last listed
    have inside : ∀ record ∈ earlier ++ loss :: later, loss.position ≤ record.position →
        record ∈ head' :: run' := by
      intro record member reached
      rw [split'] at member increasing
      refine (List.mem_append.mp member).resolve_left fun early => ?_
      have earlier' := (List.pairwise_append.mp increasing).2.2 record early head' (by simp)
      rw [same, ← begins] at earlier'
      exact absurd (Nat.lt_of_lt_of_le earlier' through) (Nat.not_lt_of_le reached)
    have after : loss.position < other.position :=
      (List.pairwise_cons.mp (List.pairwise_append.mp increasing).2.1).1 other behind
    refine final.uniform.forall (inside loss (by simp) (Nat.le_refl _))
      (inside other (by simp [behind]) (Nat.le_of_lt after)) ?_
    rintro rfl
    exact Nat.lt_irrefl _ after
  · intro same
    exact (first.append same).unique second

theorem claimObservations_filter (test : JournalRecord → Bool) :
    claimObservations taskId (all.filter test) = (claimObservations taskId all).filter test :=
  List.filter_comm ..

theorem mem_claimObservations :
    record ∈ claimObservations taskId all ↔
      record ∈ all ∧ isFocusedClaimObservation taskId record = true :=
  List.mem_filter

theorem journalTaskClaimObservationAt_eq (chronological : Chronological all)
    (shows : Shows source all shown) :
    journalTaskClaimObservationAt source (claimObservationEpisodesFrom all) taskId =
        (claimObservations taskId shown).getLast?.bind (fun record =>
          ((claimObservationEpisodesFrom all).startedAt.lookup record.position).map (⟨record, ·⟩)) ∧
      ∀ earlier record, claimObservations taskId shown = earlier ++ [record] →
        ∃ start, (claimObservationEpisodesFrom all).startedAt.lookup record.position = some start ∧
          EpisodeStarts (earlier ++ [record]) start := by
  have index := shows_claimObservationEpisodesFrom chronological.increasing
  have ordered : InOrder (claimObservations taskId all) :=
    chronological.increasing.sublist List.filter_sublist
  have cut := @claimObservations_filter all taskId
    fun record => decide (record.position ≤ source.throughPosition)
  rw [← shows.window] at cut
  constructor
  · rw [journalTaskClaimObservationAt, claimObservationEpisodeAt,
      PersistentSequence.lastThrough_eq (by rwa [index.byTask]), index.byTask, cut]
    simp only [Int.ofNat_le, Option.map_eq_bind]
    rfl
  · intro earlier record listed
    obtain ⟨later, split⟩ := ordered.exists_filter_append source.throughPosition
    simp only [Int.ofNat_le, ← cut, listed, List.append_assoc] at split
    exact index.startedAt taskId earlier record later split

theorem claimLossEpisodeAt_isSome_iff :
    (claimLossEpisodeAt record expectedClaim).isSome = true ↔
      ∃ claim, claimObserved? record = some claim ∧ claim ≠ .activeTaskClaim expectedClaim := by
  rw [claimLossEpisodeAt]
  cases claimObserved? record with
  | none => simp
  | some claim =>
      cases claim with
      | unclaimedTask task => simp
      | activeTaskClaim claim => by_cases same : claim = expectedClaim <;> simp [isExactTaskClaim,
        same]

theorem observationRemainsInEpisode_iff
    (focused : isFocusedClaimObservation taskId loss = true)
    (also : isFocusedClaimObservation taskId other = true)
    (lost : claimLossEpisodeAt loss expectedClaim = some episode) :
    observationRemainsInEpisode other episode expectedClaim = true ↔
      ObservesSameClaim loss other := by
  obtain ⟨⟨task, before⟩, found, named⟩ := (Option.any_eq_true _ _).mp focused
  obtain ⟨⟨task', after⟩, found', named'⟩ := (Option.any_eq_true _ _).mp also
  obtain rfl : task = taskId := of_decide_eq_true named
  obtain rfl : task' = task := of_decide_eq_true named'
  have shown : claimObserved? loss = before := by rw [claimObserved?, found]; rfl
  have shown' : claimObserved? other = after := by rw [claimObserved?, found']; rfl
  simp only [claimLossEpisodeAt, shown] at lost
  simp only [observationRemainsInEpisode, ObservesSameClaim, shown, shown']
  obtain _ | before := before
  · cases lost
  have own := taskId_of_focusedObservation found
  obtain _ | after := after
  · simp
  have own' := taskId_of_focusedObservation found'
  cases before with
  | unclaimedTask task =>
      cases lost
      obtain rfl : task = _ := own
      cases after with
      | unclaimedTask other =>
          obtain rfl : other = _ := own'
          simp
      | activeTaskClaim claim => simp
  | activeTaskClaim claim =>
      by_cases exact : claim = expectedClaim
      · simp [isExactTaskClaim, exact] at lost
      · simp only [isExactTaskClaim, exact, decide_false, Bool.false_eq_true, if_false] at lost
        cases lost
        cases after with
        | unclaimedTask other => simp
        | activeTaskClaim other =>
            by_cases same : other = claim <;> simp [isExactTaskClaim, same, exact, Ne.symm]

end Observations

section Indexed

variable {all shown visible : List JournalRecord} {record loss direction : JournalRecord}
  {source : JournalRecordEvidence} {taskId : TaskId} {runId : RunId} {position : JournalPosition}
  {expectedClaim : ActiveTaskClaim}

/-- The loss that indexed evidence finds before a direction is the one that stands. -/
theorem unchangedClaimLossBeforeDirection_iff (chronological : Chronological all)
    (shows : Shows source all visible) :
    (∃ start, unchangedClaimLossBeforeDirection source (claimObservationEpisodesFrom all) taskId
        expectedClaim position = some ⟨loss, start⟩) ↔
      UnchangedLoss visible taskId expectedClaim position loss := by
  have window := shows.before chronological position
  have ordered : InOrder (claimObservations taskId visible) :=
    (shows.chronological chronological).increasing.sublist List.filter_sublist
  obtain ⟨later, split⟩ := ordered.exists_filter_append (position - 1)
  simp only [Int.le_sub_one_iff, Int.ofNat_lt] at split
  have early := @claimObservations_filter visible taskId
    fun record => decide ((record.position : Int) < position)
  simp only [Int.ofNat_lt] at early window
  obtain ⟨found, begins⟩ := @journalTaskClaimObservationAt_eq _ _ _ taskId chronological window
  obtain ⟨shown, starts⟩ := @journalTaskClaimObservationAt_eq _ _ _ taskId chronological shows
  obtain none | ⟨earlier, latest, listed⟩ := List.eq_nil_or_concat
      ((claimObservations taskId visible).filter fun record => decide (record.position < position))
  · rw [none] at early
    rw [unchangedClaimLossBeforeDirection, found, early]
    constructor
    · rintro ⟨start, impossible⟩
      cases impossible
    · intro unchanged
      have inside : loss ∈ (claimObservations taskId visible).filter fun record =>
          decide (record.position < position) := List.mem_filter.mpr
            ⟨unchanged.observed, decide_eq_true unchanged.before⟩
      rw [none] at inside
      cases inside
  · rw [List.concat_eq_append] at listed
    rw [listed, List.append_assoc, List.singleton_append] at split
    obtain ⟨start, kept, first⟩ := begins earlier latest (early.trans listed)
    rw [early, listed, List.getLast?_concat, Option.bind_some, kept, Option.map_some] at found
    obtain ⟨rest, current, whole⟩ : ∃ rest current,
        claimObservations taskId visible = rest ++ [current] := by
      obtain nothing | ⟨rest, current, whole⟩ := List.eq_nil_or_concat
        (claimObservations taskId visible)
      · simp [nothing] at split
      · exact ⟨rest, current, whole.trans List.concat_eq_append⟩
    obtain ⟨next, kept, second⟩ := starts rest current whole
    rw [whole, List.getLast?_concat, Option.bind_some, kept, Option.map_some] at shown
    rw [← whole, split] at second
    rw [split] at ordered
    have same := episodeStarts_eq_iff ordered first second
    have mem_early : ∀ record, record ∈ earlier ++ [latest] ↔
        record ∈ claimObservations taskId visible ∧ record.position < position := by
      intro record
      rw [← listed, List.mem_filter, decide_eq_true_eq]
    have greatest : ∀ record ∈ earlier ++ [latest], record.position ≤ latest.position := by
      intro record member
      have ends := List.getLast?_concat (l := earlier) (a := latest)
      exact position_le_of_getLast? (ordered.sublist (List.Sublist.append_left (by simp) _)) ends
        member
    obtain ⟨member, before⟩ := (mem_early latest).mp (by simp)
    have behind : ∀ other, other ∈ later ↔
        other ∈ claimObservations taskId visible ∧ latest.position < other.position := by
      intro other
      rw [split, List.mem_append, List.mem_cons]
      constructor
      · intro after
        exact ⟨.inr (.inr after),
          (List.pairwise_cons.mp (List.pairwise_append.mp ordered).2.1).1 other after⟩
      · rintro ⟨early | rfl | after, beyond⟩
        · exact absurd beyond (Nat.not_lt_of_le (greatest other (by simp [early])))
        · exact absurd beyond (Nat.lt_irrefl _)
        · exact after
    constructor
    · rintro ⟨begun, result⟩
      rw [unchangedClaimLossBeforeDirection, found, shown] at result
      simp only [Option.bind_eq_bind, Option.bind_some] at result
      split at result
      · cases result
      · next equal =>
        split at result
        · cases result
        · next shows =>
          obtain ⟨rfl, rfl⟩ := ClaimObservationEpisode.mk.inj (Option.some.inj result)
          rw [Option.isNone_iff_eq_none, ← ne_eq, ← Option.isSome_iff_ne_none] at shows
          exact ⟨member, before, fun other listed early => greatest other ((mem_early other).mpr
            ⟨listed, early⟩), claimLossEpisodeAt_isSome_iff.mp shows, fun other listed after =>
              same.mp (not_not.mp equal) other ((behind other).mpr ⟨listed, after⟩)⟩
    · intro unchanged
      have position := Nat.le_antisymm (greatest loss ((mem_early loss).mpr
        ⟨unchanged.observed, unchanged.before⟩)) (unchanged.last latest member before)
      rw [← split] at ordered
      obtain rfl := ordered.eq_of_position unchanged.observed member position
      have equal := same.mpr fun other after =>
        unchanged.same other ((behind other).mp after).1 ((behind other).mp after).2
      obtain ⟨episode, shows⟩ :=
        Option.isSome_iff_exists.mp (claimLossEpisodeAt_isSome_iff.mpr unchanged.lost)
      refine ⟨start, ?_⟩
      rw [unchangedClaimLossBeforeDirection, found, shown]
      simp [equal, shows]

theorem acquiredClaim?_eq_none_of_focused
    (focused : isFocusedClaimObservation taskId record = true) :
    acquiredClaim? record = none := by
  rw [isFocusedClaimObservation, focusedObservation, JournalRecord.trackerFacts?] at focused
  unfold acquiredClaim?
  cases event : record.event <;> simp_all

theorem exactClaimAcquiredAfterLoss_iff (chronology : ReacquisitionChronology runId all)
    (shows : Shows source all visible) :
    exactClaimAcquiredAfterLoss source taskId expectedClaim position = true ↔
      expectedClaim.taskId = taskId ∧ ∃ record ∈ visible,
        acquiredClaim? record = some expectedClaim ∧ position < record.position := by
  have keyed : journalRecordByKey (outcomeRecordKey expectedClaim.operationId) (.indexed source) =
      visible.find? fun record => record.key = outcomeRecordKey expectedClaim.operationId :=
    shows.visible_byKey chronology.chronological.increasing _
  rw [exactClaimAcquiredAfterLoss, keyed, Option.any_eq_true]
  constructor
  · rintro ⟨record, found, acquires⟩
    obtain ⟨exact, after⟩ := (Bool.and_eq_true _ _).mp acquires
    obtain ⟨claim, shown, same⟩ := (Option.any_eq_true _ _).mp exact
    simp only [isExactTaskClaim, Bool.and_eq_true, decide_eq_true_eq] at same after
    obtain ⟨task, rfl⟩ := same
    exact ⟨task, record, List.mem_of_find?_eq_some found, shown, after⟩
  · rintro ⟨task, record, member, shown, after⟩
    refine ⟨record, ?_, by simp [shown, task, isExactTaskClaim, after]⟩
    have listed : record ∈ all := by
      rw [shows.window] at member
      exact List.mem_of_mem_filter member
    have outcome := chronology.outcome record listed expectedClaim shown
    obtain ⟨later, split⟩ :=
      chronology.chronological.increasing.exists_filter_append source.throughPosition
    simp only [Int.ofNat_le, ← shows.window] at split
    cases first : visible.find? fun record =>
        record.key = outcomeRecordKey expectedClaim.operationId with
    | none => exact absurd (List.find?_some outcome) (List.find?_eq_none.mp first record member)
    | some other =>
        rw [split, List.find?_append, first, Option.some_or] at outcome
        exact outcome

theorem ofTaskKind_reacquisition :
    (decide (record.event.tag = .taskClaimReacquisitionDirected) &&
        decide (taskId ∈ taskIdsOf record none)) =
      directsTask taskId record := by
  rw [directsTask]
  by_cases same : record.event.tag = .taskClaimReacquisitionDirected
  · obtain ⟨directed, event⟩ := reacquisition_of_tag same
    simp [reacquisitionDirected?, event, WorkflowJournalEvent.tag,
      mem_taskIdsOf_of_reacquisition event, eq_comm]
  · have other : reacquisitionDirected? record = none := by
      unfold reacquisitionDirected?
      split
      · next directed event => exact absurd (by rw [event]; rfl) same
      · rfl
    simp [other, same]

/-- Indexed evidence gives its latest direction exactly if a loss stands there. -/
theorem latestIndexed_eq_some_iff (chronology : ReacquisitionChronology runId all)
    (shows : Shows source all shown) {event : TaskClaimReacquisitionDirected} :
    latestIndexedTaskClaimReacquisitionDirection source (claimObservationEpisodesFrom all) runId
      taskId
        expectedClaim position = some event ↔
      LatestStands (shown.filter fun record => record.position ≤ position) taskId expectedClaim
        event := by
  have window := shows.before chronology.chronological (position + 1)
  simp only [Int.lt_add_one_iff, Int.ofNat_le] at window
  have latest : lastJournalRecordForTaskKind taskId .taskClaimReacquisitionDirected _ = _ :=
    (Presents.indexed chronology.chronological window).lastRecordForTaskKind taskId (by decide)
  simp only [ofTaskKind_reacquisition] at latest
  simp only [latestIndexedTaskClaimReacquisitionDirection, Option.bind_eq_bind,
    Option.bind_eq_some_iff, latest]
  generalize shown.filter (fun record => decide (record.position ≤ position)) = visible at window
  constructor
  · rintro ⟨direction, found, directed, shape, result⟩
    split at result
    · cases result
    · obtain ⟨⟨loss, start⟩, stands, result⟩ := Option.bind_eq_some_iff.mp result
      split at result
      · cases result
      · next kept =>
        cases result
        have unchanged :=
          (unchangedClaimLossBeforeDirection_iff chronology.chronological window).mp ⟨start, stands⟩
        have observed := mem_claimObservations.mp unchanged.observed
        refine ⟨direction, found, shape, loss, unchanged, fun task record member shown => ?_⟩
        rw [exactClaimAcquiredAfterLoss_iff chronology window] at kept
        refine Nat.lt_of_le_of_ne (Nat.le_of_not_lt fun after =>
          kept ⟨task, record, member, shown, after⟩) fun same => ?_
        have listed := (window.chronological chronology.chronological).increasing
        obtain rfl := listed.eq_of_position member observed.1 same
        rw [acquiredClaim?_eq_none_of_focused observed.2] at shown
        cases shown
  · rintro ⟨direction, found, shape, loss, stands⟩
    refine ⟨direction, found, event, shape, ?_⟩
    have run : event.runId = runId := by
      have member := (mem_of_findLast found).1
      rw [window.window] at member
      exact chronology.run direction (List.mem_of_mem_filter member) event shape
    obtain ⟨start, unchanged⟩ := (unchangedClaimLossBeforeDirection_iff chronology.chronological
      window).mpr stands.toUnchangedLoss
    have kept : ¬ exactClaimAcquiredAfterLoss
        (journalEvidenceBefore source (position + 1)) taskId expectedClaim loss.position =
          true := by
      rw [exactClaimAcquiredAfterLoss_iff chronology window]
      rintro ⟨task, record, member, shown, after⟩
      exact Nat.lt_asymm after (stands.acquired task record member shown)
    rw [if_neg (not_not_intro run), unchanged, Option.bind_some, if_neg kept]

end Indexed

section Listed

variable {records : List JournalRecord} {record loss : JournalRecord} {taskId : TaskId}
  {runId : RunId} {expectedClaim : ActiveTaskClaim} {position direction next : JournalPosition}

theorem event_of_acquired {claim : ActiveTaskClaim}
    (acquired : acquiredClaim? record = some claim) : record.event = .taskClaimAcquired claim := by
  unfold acquiredClaim? at acquired
  split at acquired
  · next event => rw [event, Option.some.inj acquired]
  · cases acquired

theorem mem_taskIdsOf_of_acquired {claim : ActiveTaskClaim}
    (acquired : acquiredClaim? record = some claim) :
    taskId ∈ taskIdsOf record none ↔ taskId = claim.taskId := by
  have event := event_of_acquired acquired
  simp [taskIdsOf, namedTaskIds, graphObservationTaskIds, event, WorkflowJournalEvent.tag,
    replacementKinds, baselineKinds, WorkflowJournalEvent.object, ActiveTaskClaim.object, field,
    List.lookup, taskId?, text]
  exact eq_comm

theorem mem_taskIdsOf_of_focused (focused : isFocusedClaimObservation taskId record = true) :
    taskId ∈ taskIdsOf record none := by
  obtain ⟨⟨task, claim⟩, observed, named⟩ := (Option.any_eq_true _ _).mp focused
  obtain rfl : task = taskId := of_decide_eq_true named
  rw [focusedObservation, JournalRecord.trackerFacts?] at observed
  cases event : record.event with
  | taskTrackerFactsObserved facts =>
      cases facts <;> simp_all [taskIdsOf, namedTaskIds, graphObservationTaskIds,
        WorkflowJournalEvent.tag, replacementKinds, baselineKinds]
  | _ => simp [event] at observed

theorem mem_taskRecords_of_focused (focused : isFocusedClaimObservation taskId record = true) :
    record ∈ journalRecordsForTask taskId (.raw records) ↔ record ∈ records := by
  rw [journalRecordsForTask, List.mem_filter, rawRecordConcernsTask,
    if_pos (mem_taskIdsOf_of_focused focused)]
  simp

theorem mem_taskRecords_of_acquired {claim : ActiveTaskClaim}
    (acquired : acquiredClaim? record = some claim) :
    record ∈ journalRecordsForTask taskId (.raw records) ↔
      record ∈ records ∧ claim.taskId = taskId := by
  have named : priorFullObservationOperationId? record = none := by
    unfold acquiredClaim? at acquired
    unfold priorFullObservationOperationId?
    split at acquired <;> simp_all
  rw [journalRecordsForTask, List.mem_filter, rawRecordConcernsTask_eq_of_named named,
    decide_eq_true_eq, mem_taskIdsOf_of_acquired acquired, eq_comm]

theorem acquiresExactly_iff :
    acquiresExactly expectedClaim record = true ↔ acquiredClaim? record = some expectedClaim := by
  rw [acquiresExactly]
  cases acquiredClaim? record <;> simp [isExactTaskClaim]

theorem tag_eq_taskClaimAcquired_iff :
    record.event.tag = .taskClaimAcquired ↔ (acquiredClaim? record).isSome = true := by
  rw [acquiredClaim?]
  cases record.event <;> simp [WorkflowJournalEvent.tag]

/-- The scan of the task's records finds the standing loss before a visible direction. -/
theorem directionFollowsCurrentLossEpisode_iff
    (increasing : InOrder records)
    (visible : direction ≤ position) :
    directionFollowsCurrentLossEpisode (journalRecordsForTask taskId (.raw records)) taskId
        expectedClaim direction position = true ↔
      ∃ loss, StandingLoss (records.filter fun record => record.position ≤ position) taskId
        expectedClaim direction loss := by
  have ordered : InOrder (journalRecordsForTask taskId (.raw records)) :=
    increasing.sublist List.filter_sublist
  have observed : ∀ record, record ∈ claimObservations taskId
      (records.filter fun record => record.position ≤ position) ↔
        record ∈ journalRecordsForTask taskId (.raw records) ∧ record.position ≤ position ∧
          isFocusedClaimObservation taskId record = true := by
    intro record
    rw [mem_claimObservations, List.mem_filter, decide_eq_true_eq, and_assoc]
    refine and_congr_left fun shown => ?_
    rw [mem_taskRecords_of_focused shown.2]
  have acquires : ∀ record, expectedClaim.taskId = taskId ∧
      record ∈ (records.filter fun record => record.position ≤ position) ∧
        acquiredClaim? record = some expectedClaim ↔
      record ∈ journalRecordsForTask taskId (.raw records) ∧ record.position ≤ position ∧
        acquiresExactly expectedClaim record = true := by
    intro record
    rw [acquiresExactly_iff, List.mem_filter, decide_eq_true_eq]
    constructor
    · rintro ⟨task, ⟨member, shown⟩, acquired⟩
      exact ⟨(mem_taskRecords_of_acquired acquired).mpr ⟨member, task⟩, shown, acquired⟩
    · rintro ⟨member, shown, acquired⟩
      obtain ⟨member, task⟩ := (mem_taskRecords_of_acquired acquired).mp member
      exact ⟨task, ⟨member, shown⟩, acquired⟩
  generalize journalRecordsForTask taskId (.raw records) = taskRecords at *
  rw [directionFollowsCurrentLossEpisode]
  generalize found : (findLast taskRecords fun record =>
    decide (record.position < direction) && acquiresExactly expectedClaim record) = acquisition
  have bounded : ∀ next : JournalPosition, acquisition.all (·.position < next) = true ↔
      ∀ record ∈ taskRecords, record.position < direction →
        acquiresExactly expectedClaim record = true → record.position < next := by
    intro next
    cases acquisition with
    | none =>
        simp only [Option.all_none, true_iff]
        intro record member early exact
        obtain ⟨last, -, selected, -⟩ := exists_findLast (fun record =>
          decide (record.position < direction) && acquiresExactly expectedClaim record) ordered
            member
          ((Bool.and_eq_true _ _).mpr ⟨decide_eq_true early, exact⟩)
        rw [found] at selected
        cases selected
    | some last =>
        obtain ⟨member, selected, greatest⟩ := (findLast_eq_some_iff _ ordered).mp found
        simp only [Bool.and_eq_true, decide_eq_true_eq] at selected greatest
        rw [Option.all_some, decide_eq_true_eq]
        exact ⟨fun behind record inside early exact =>
          Nat.lt_of_le_of_lt (greatest record inside ⟨early, exact⟩) behind,
          fun all => all last member selected.1 selected.2⟩
  constructor
  · intro holds
    split at holds
    · cases holds
    · next loss isLoss =>
      split at holds
      · cases holds
      · next episode lost =>
        obtain ⟨member, selected, greatest⟩ := (findLast_eq_some_iff _ ordered).mp isLoss
        simp only [Bool.and_eq_true, decide_eq_true_eq, bounded] at selected greatest
        obtain ⟨⟨before, behind⟩, focused⟩ := selected
        simp only [List.all_eq_true, List.mem_filter, Bool.and_eq_true, Bool.or_eq_true,
          decide_eq_true_eq] at holds
        refine ⟨loss, ⟨(observed loss).mpr
          ⟨member, Nat.le_trans (Nat.le_of_lt before) visible, focused⟩, before,
          fun other listed early => ?_, claimLossEpisodeAt_isSome_iff.mp (by rw [lost]; rfl),
          fun other listed after => ?_⟩, fun task record listed acquired => ?_⟩
        · obtain ⟨inside, -, shown⟩ := (observed other).mp listed
          by_contra later
          exact later (greatest other inside ⟨⟨early, fun record member earlier exact =>
            Nat.lt_trans (behind record member earlier exact) (Nat.lt_of_not_le later)⟩, shown⟩)
        · obtain ⟨inside, through, shown⟩ := (observed other).mp listed
          have kept := holds other ⟨inside, ⟨after, through⟩, .inl shown⟩
          exact (observationRemainsInEpisode_iff focused shown lost).mp kept.2
        · obtain ⟨inside, through, exact⟩ := (acquires record).mp ⟨task, listed, acquired⟩
          by_cases early : record.position < direction
          · exact behind record inside early exact
          · have after := Nat.lt_of_lt_of_le before (Nat.le_of_not_lt early)
            have kept := holds record ⟨inside, ⟨after, through⟩, .inr exact⟩
            exact absurd (tag_eq_taskClaimAcquired_iff.mpr (by rw [acquired]; rfl)) kept.1
  · rintro ⟨loss, stands⟩
    obtain ⟨member, -, focused⟩ := (observed loss).mp stands.observed
    have isLoss : (findLast taskRecords fun record => decide (record.position < direction) &&
        acquisition.all (·.position < record.position) &&
          isFocusedClaimObservation taskId record) = some loss := by
      rw [findLast_eq_some_iff _ ordered]
      simp only [Bool.and_eq_true, decide_eq_true_eq, bounded]
      refine ⟨member, ⟨⟨stands.before, fun record inside early exact => ?_⟩, focused⟩,
        fun other inside selected => ?_⟩
      · obtain ⟨task, listed, acquired⟩ :=
          (acquires record).mpr ⟨inside, Nat.le_trans (Nat.le_of_lt early) visible, exact⟩
        exact stands.acquired task record listed acquired
      · obtain ⟨⟨early, -⟩, shown⟩ := selected
        exact stands.last other ((observed other).mpr
          ⟨inside, Nat.le_trans (Nat.le_of_lt early) visible, shown⟩) early
    obtain ⟨episode, lost⟩ :=
      Option.isSome_iff_exists.mp (claimLossEpisodeAt_isSome_iff.mpr stands.lost)
    simp only [isLoss, lost, List.all_eq_true, List.mem_filter, Bool.and_eq_true, Bool.or_eq_true,
      decide_eq_true_eq]
    rintro record ⟨inside, ⟨after, through⟩, shown | exact⟩
    · refine ⟨fun acquired => ?_, (observationRemainsInEpisode_iff focused shown lost).mpr
        (stands.same record ((observed record).mpr ⟨inside, through, shown⟩) after)⟩
      rw [tag_eq_taskClaimAcquired_iff, acquiredClaim?_eq_none_of_focused shown] at acquired
      cases acquired
    · obtain ⟨task, listed, acquired⟩ := (acquires record).mpr ⟨inside, through, exact⟩
      exact absurd (stands.acquired task record listed acquired) (Nat.lt_asymm after)

theorem StandingLoss.later {visible : List JournalRecord}
    (increasing : InOrder visible)
    (stands : StandingLoss visible taskId expectedClaim direction loss)
    (onward : direction ≤ next) :
    ∃ loss, StandingLoss visible taskId expectedClaim next loss := by
  have early : (decide (loss.position < next) && isFocusedClaimObservation taskId loss) = true := by
    simp only [Bool.and_eq_true, decide_eq_true_eq]
    exact ⟨Nat.lt_of_lt_of_le stands.before onward, (mem_claimObservations.mp stands.observed).2⟩
  obtain ⟨last, member, found, selected, reached⟩ := exists_findLast
    (fun record => decide (record.position < next) && isFocusedClaimObservation taskId record)
    increasing (mem_claimObservations.mp stands.observed).1 early
  obtain ⟨-, -, greatest⟩ := (findLast_eq_some_iff _ increasing).mp found
  simp only [Bool.and_eq_true, decide_eq_true_eq] at selected greatest
  have observed := mem_claimObservations.mpr ⟨member, selected.2⟩
  have latest : ∀ other ∈ claimObservations taskId visible, other.position < next →
      other.position ≤ last.position := fun other listed before => greatest other
    (mem_claimObservations.mp listed).1 ⟨before, (mem_claimObservations.mp listed).2⟩
  obtain rfl | after := Nat.eq_or_lt_of_le reached |>.imp_left fun same =>
      increasing.eq_of_position (mem_claimObservations.mp stands.observed).1 member same
  · exact ⟨loss, ⟨observed, selected.1, latest, stands.lost, stands.same⟩, stands.acquired⟩
  · have same := stands.same last observed after
    obtain ⟨claim, shown, again⟩ := same
    obtain ⟨lost, shown', apart⟩ := stands.lost
    obtain rfl := Option.some.inj (shown.symm.trans shown')
    exact ⟨last, ⟨observed, selected.1, latest, ⟨claim, again, apart⟩, fun other listed beyond =>
        IsTrans.trans _ _ _ (Std.Symm.symm _ _ ⟨claim, shown, again⟩)
          (stands.same other listed (Nat.lt_trans after beyond))⟩,
            fun task record inside acquired =>
        Nat.lt_trans (stands.acquired task record inside acquired) after⟩

/-- A plain list gives its latest visible direction exactly if a loss stands there. -/
theorem latestListed_eq_some_iff (chronology : ReacquisitionChronology runId records)
    {event : TaskClaimReacquisitionDirected} :
    latestTaskClaimReacquisitionDirection records runId taskId expectedClaim position = some event ↔
      LatestStands (records.filter fun record => record.position ≤ position) taskId expectedClaim
        event := by
  have increasing := chronology.chronological.increasing
  have ordered : InOrder (journalRecordsForTask taskId (.raw records)) :=
    increasing.sublist List.filter_sublist
  have shown : InOrder
      (records.filter fun record => record.position ≤ position) :=
    increasing.sublist List.filter_sublist
  have directs : ∀ record, record ∈ journalRecordsForTask taskId (.raw records) ∧
      (((reacquisitionDirected? record).any fun event =>
        event.runId = runId && event.taskId = taskId) &&
        record.position ≤ position && directionFollowsCurrentLossEpisode
          (journalRecordsForTask taskId (.raw records)) taskId expectedClaim record.position
            position) = true ↔
      (record ∈ records.filter (fun record => record.position ≤ position) ∧
        directsTask taskId record = true) ∧
        ∃ loss, StandingLoss (records.filter fun record => record.position ≤ position) taskId
          expectedClaim record.position loss := by
    intro record
    rw [directsTask, journalRecordsForTask, List.mem_filter, List.mem_filter, Bool.and_eq_true,
      Bool.and_eq_true, Option.any_eq_true, Option.any_eq_true, decide_eq_true_eq]
    simp only [Bool.and_eq_true, decide_eq_true_eq]
    constructor
    · rintro ⟨⟨member, -⟩, ⟨⟨event, directed, -, task⟩, through⟩, follows⟩
      exact ⟨⟨⟨member, through⟩, event, directed, task⟩,
        (directionFollowsCurrentLossEpisode_iff increasing through).mp follows⟩
    · rintro ⟨⟨⟨member, through⟩, event, directed, task⟩, standing⟩
      have concerned : taskId ∈ taskIdsOf record none := by
        have shape := @ofTaskKind_reacquisition record taskId
        rw [directsTask, directed, Option.any_some, decide_eq_true task] at shape
        exact of_decide_eq_true ((Bool.and_eq_true _ _).mp shape).2
      exact ⟨⟨member, by rw [rawRecordConcernsTask, if_pos concerned]⟩,
        ⟨⟨event, directed, chronology.run record member event directed, task⟩, through⟩,
        (directionFollowsCurrentLossEpisode_iff increasing through).mpr standing⟩
  rw [latestTaskClaimReacquisitionDirection, Option.bind_eq_some_iff]
  refine exists_congr fun direction => ?_
  rw [findLast_eq_some_iff _ ordered, findLast_eq_some_iff _ shown, ← and_assoc, directs]
  constructor
  · rintro ⟨⟨⟨⟨member, directed⟩, loss, standing⟩, greatest⟩, shape⟩
    refine ⟨⟨member, directed, fun other listed also => ?_⟩, shape, loss, standing⟩
    by_contra beyond
    have onward := standing.later shown (Nat.le_of_not_le beyond)
    obtain ⟨inside, test⟩ := (directs other).mpr ⟨⟨listed, also⟩, onward⟩
    exact beyond (greatest other inside test)
  · rintro ⟨⟨member, directed, greatest⟩, shape, standing⟩
    refine ⟨⟨⟨⟨member, directed⟩, standing⟩, fun other inside test => ?_⟩, shape⟩
    obtain ⟨⟨listed, also⟩, -⟩ := (directs other).mp ⟨inside, test⟩
    exact greatest other listed also

end Listed

/-- Indexed evidence and a plain list give the same direction: the latest visible one, exactly if a
loss stands there, and one wherever a loss stands at some visible direction. -/
theorem latestTaskClaimReacquisitionDirection_agree (runId : RunId) (records : List JournalRecord)
    (chronology : ReacquisitionChronology runId records) (taskId : TaskId)
    (expectedClaim : ActiveTaskClaim) (throughPosition : JournalPosition) :
    let visible := records.filter fun record => record.position ≤ throughPosition
    let latest := latestTaskClaimReacquisitionDirection records runId taskId expectedClaim
      throughPosition
    latestIndexedTaskClaimReacquisitionDirection (journalEvidenceFrom records)
        (claimObservationEpisodesFrom records) runId taskId expectedClaim throughPosition = latest ∧
      (∀ event, latest = some event ↔ LatestStands visible taskId expectedClaim event) ∧
      (latest.isSome = true ↔ ∃ direction ∈ visible, directsTask taskId direction = true ∧
        ∃ loss, StandingLoss visible taskId expectedClaim direction.position loss) := by
  intro visible latest
  have listed := fun event => @latestListed_eq_some_iff records taskId runId expectedClaim
    throughPosition chronology event
  refine ⟨Option.ext fun event => ?_, listed, ?_⟩
  · rw [listed, latestIndexed_eq_some_iff chronology
      (shows_journalEvidenceFrom chronology.chronological.increasing)]
  · have increasing : Increasing JournalRecord.position visible :=
      chronology.chronological.increasing.sublist List.filter_sublist
    rw [Option.isSome_iff_exists]
    constructor
    · rintro ⟨event, given⟩
      obtain ⟨direction, found, -, standing⟩ := (listed event).mp given
      exact ⟨direction, (mem_of_findLast found).1, (mem_of_findLast found).2, standing⟩
    · rintro ⟨direction, member, directed, loss, standing⟩
      obtain ⟨last, -, found, selected, onward⟩ := exists_findLast _ increasing member directed
      obtain ⟨event, shape, -⟩ := (Option.any_eq_true _ _).mp selected
      exact ⟨event, (listed event).mpr ⟨last, found, shape, standing.later increasing onward⟩⟩

def lostClaim : ActiveTaskClaim := ⟨⟨"claim"⟩, ⟨"owner"⟩, ⟨"task"⟩, ⟨"token"⟩⟩

def directedReads : List JournalRecord :=
  [{ claimRead 1 false with event := .taskClaimAcquired lostClaim, key := outcomeRecordKey ⟨"claim"⟩ },
    claimRead 2 false, claimRead 3 true,
    { claimRead 4 true with
      event := .taskClaimReacquisitionDirected ⟨"direction", (claimRead 4 true).runId, ⟨"task"⟩⟩ },
    claimRead 5 true, claimRead 6 false]

theorem reacquisitionChronology_directedReads :
    ReacquisitionChronology (claimRead 4 true).runId directedReads where
  chronological := ⟨by unfold Increasing; decide, by decide⟩
  run := by
    simp [directedReads, claimRead, reacquisitionDirected?]
  outcome := by
    simp [directedReads, claimRead, acquiredClaim?, lostClaim]

/-- The direction stands through the repeated loss, and the failed read ends it. -/
theorem latestTaskClaimReacquisitionDirection_directedReads :
    (latestIndexedTaskClaimReacquisitionDirection (journalEvidenceFrom directedReads)
        (claimObservationEpisodesFrom directedReads) (claimRead 4 true).runId ⟨"task"⟩ lostClaim
          5).isSome = true ∧
      latestIndexedTaskClaimReacquisitionDirection (journalEvidenceFrom directedReads)
        (claimObservationEpisodesFrom directedReads) (claimRead 4 true).runId ⟨"task"⟩ lostClaim
          6 = none := by
  have agree := latestTaskClaimReacquisitionDirection_agree (claimRead 4 true).runId directedReads
    reacquisitionChronology_directedReads ⟨"task"⟩ lostClaim
  rw [(agree 5).1, (agree 6).1]
  decide +kernel

end Dalph
