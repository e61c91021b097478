import Dalph.Coordination.Reconstruction.GraphKnowledge
import Dalph.WorkflowJournal.PresentedHistory
import Dalph.WorkflowJournal.RunTarget

/-!
# Blockers observed after a promotion

After its candidate was promoted, a task may be seen blocked and then clear again.  The indexed
evidence keeps the two latest positions of every task; over a plain list of records each graph
observation is reconstructed anew from the records before it.
-/

namespace Dalph

open PersistentSequence (Increasing)

/-- What the chronology of a completion claim depends on. -/
structure PromotedTaskClaim where
  /-- Task of the planned attempt. -/
  taskId : TaskId
  /-- Members of the promotion correlation. -/
  requestId : String
  qualifiedCandidate : Json

def targetPromotionCorrelationEquals (correlation : Option Json) (claim : PromotedTaskClaim) :
    Bool :=
  text (field correlation "requestId") = some claim.requestId &&
    sameCopy (field correlation "qualifiedCandidate") (some claim.qualifiedCandidate)

def observesPromotionSuccess (claim : PromotedTaskClaim) (record : JournalRecord) : Bool :=
  record.event.tag = .protocol .targetPromotionObservedSuccess &&
    targetPromotionCorrelationEquals (field (some record.event.object) "correlation") claim

def lastSuccess (claim : PromotedTaskClaim) (candidates : List JournalRecord) :
    Option JournalPosition :=
  candidates.foldl (fun position record =>
    if observesPromotionSuccess claim record then some record.position else position) none

def promotionSucceededAt (claim : PromotedTaskClaim) :
    JournalHistorySource → Option JournalPosition
  | .raw records => lastSuccess claim records
  | .indexed evidence =>
      lastSuccess claim (journalRecordsForPromotionRequest claim.requestId (.indexed evidence))

/-- Whether a graph observation shows the task blocked, over the observations up to it. -/
def taskIsBlockedAt (records : List JournalRecord) (record : JournalRecord) (taskId : TaskId) :
    Option Bool := do
  let observation ← record.trackerFacts?
  let knowledge := reduceGraphKnowledge (records.filter (·.position ≤ record.position))
  let graph ← reconstructedTaskGraphFor knowledge observation.target
  let _ ← graph.lifecycleOf taskId
  some (hasUnfinishedPrerequisite graph taskId)

structure PostPromotionBlockerClearAuthorization extends BlockerClearEpisode where
  claim : PromotedTaskClaim

def graphRecordsAfter (records : List JournalRecord) (target : TrackerTarget)
    (promotedAt : JournalPosition) : List JournalRecord :=
  records.filter fun record =>
    promotedAt < record.position &&
      record.trackerFacts?.any fun observation =>
        observation.isGraphFacts &&
          taskTrackerTargetKey observation.target = taskTrackerTargetKey target

/-- The latest blocked and later clear observation after the promotion.  `graph` is the graph part
of the indexed evidence. -/
def postPromotionBlockerClearAuthorizationFor (graph : GraphEvidence) (claim : PromotedTaskClaim)
    (source : JournalHistorySource) : Option PostPromotionBlockerClearAuthorization := do
  let promotedAt ← promotionSucceededAt claim source
  let began ← firstJournalRecordOfKind .workflowRunBegan source
  let target ← begunTarget? began.event
  match source with
  | .indexed evidence =>
      let episode ← graphBlockerClearEpisodeAt graph
        { target
          taskId := claim.taskId
          afterPosition := promotedAt
          throughPosition := evidence.throughPosition }
      some { episode with claim }
  | .raw records =>
      let graphRecords := graphRecordsAfter records target promotedAt
      let blocked ← findLast graphRecords fun record =>
        taskIsBlockedAt records record claim.taskId = some true
      let cleared ← findLast graphRecords fun record =>
        blocked.position < record.position &&
          taskIsBlockedAt records record claim.taskId = some false
      some
        { blockerClearedAt := cleared.position
          blockerObservedAt := blocked.position
          claim }

section

variable {claim : PromotedTaskClaim} {records shown : List JournalRecord} {record : JournalRecord}
  {evidence : JournalRecordEvidence} {target : TrackerTarget} {taskId : TaskId}

theorem lastSuccess_eq (claim : PromotedTaskClaim) (candidates : List JournalRecord) :
    lastSuccess claim candidates =
      (findLast candidates (observesPromotionSuccess claim)).map (·.position) := by
  induction candidates using List.reverseRecOn with
  | nil => rfl
  | append_singleton candidates record induction =>
      rw [lastSuccess, List.foldl_append, findLast, List.reverse_append]
      by_cases success : observesPromotionSuccess claim record = true
      · simp [success]
      · simpa [success, findLast, lastSuccess] using induction

theorem promotionRequestIdOf_of_success (success : observesPromotionSuccess claim record = true) :
    promotionRequestIdOf record = some claim.requestId := by
  obtain ⟨kind, equals⟩ := Bool.and_eq_true_iff.mp success
  obtain ⟨requestId, _⟩ := Bool.and_eq_true_iff.mp equals
  have indirect : record.event.tag ∉ directPublicationKinds := by
    rw [of_decide_eq_true kind]
    decide
  rw [promotionRequestIdOf, if_neg indirect, correlationRequestId, of_decide_eq_true requestId,
    Option.some_or]

theorem promotionSucceededAt_indexed (chronological : Chronological records)
    (shows : Shows evidence records shown) (claim : PromotedTaskClaim) :
    promotionSucceededAt claim (.indexed evidence) = promotionSucceededAt claim (.raw shown) := by
  rw [promotionSucceededAt, promotionSucceededAt, shows.journalRecordsForPromotionRequest_eq chronological.increasing, lastSuccess_eq,
    lastSuccess_eq, findLast_eq_filter, findLast_eq_filter, List.filter_filter]
  refine congrArg (fun selected : List JournalRecord => selected.getLast?.map (·.position))
    (List.filter_congr fun record _ => ?_)
  by_cases success : observesPromotionSuccess claim record = true
  · simp [success, promotionRequestIdOf_of_success success]
  · simp [success]

theorem lifecycleOf_eq_none_iff (graph : TaskDagSnapshot) (taskId : TaskId) :
    graph.lifecycleOf taskId = none ↔ taskId ∉ graph.taskIds := by
  unfold TaskDagSnapshot.lifecycleOf TaskDagSnapshot.node? TaskDagSnapshot.taskIds
  simp [List.find?_eq_none]

theorem fullFacts?_eq (last : ∀ earlier ∈ records, earlier.position < record.position)
    {observation : TaskTrackerFactsObservation} (observed : record.trackerFacts? = some observation) :
    fullFacts? (reduceGraphKnowledge (records ++ [record])) observation =
      (standsFor? (records ++ [record]) record).map (·.observation) := by
  unfold fullFacts? standsFor?
  rw [observed]
  cases observation with
  | completeTaskTrackerFacts facts => rfl
  | unchangedTaskTrackerFactsReconfirmed facts =>
      have incomplete : completeEvidence? record = none := by
        simp [completeEvidence?, JournalRecord.completeFacts?, observed,
          TaskTrackerFactsObservation.complete?]
      dsimp only
      rw [keepsFull_reduceGraphKnowledge (records ++ [record]), firstComplete?_append, incomplete,
        filter_append_last last]
      cases firstComplete? records facts.priorFullObservationOperationId with
      | none => rfl
      | some prior =>
          by_cases agrees : reconfirmationMatchesPriorFullObservation facts prior.observation
          · simp [Option.filter, agrees]
          · simp [Option.filter, agrees]
  | _ => rfl

theorem shownGraph?_snapshot (member : record ∈ records) :
    (shownGraph? records record).map (·.snapshot) =
      ((standsFor? records record).map (·.observation)).bind projectCompleteTaskGraph := by
  unfold shownGraph?
  cases stands : standsFor? records record with
  | none => rfl
  | some complete =>
      obtain ⟨_, _, evidence⟩ := exists_of_standsFor? member stands
      rw [Option.bind_some, (completeEvidence?_position evidence).2, completeGraphEvidence,
        Option.map_map]
      exact congrFun Option.map_id _

section

variable {before after : List JournalRecord}
  (increasing : InOrder (before ++ record :: after))
include increasing

theorem filter_through_member :
    (before ++ record :: after).filter (·.position ≤ record.position) = before ++ [record] := by
  obtain ⟨_, behind, across⟩ := List.pairwise_append.mp increasing
  have kept : before.filter (·.position ≤ record.position) = before :=
    List.filter_eq_self.mpr fun earlier member =>
      decide_eq_true (Nat.le_of_lt (across earlier member record List.mem_cons_self))
  have dropped : after.filter (·.position ≤ record.position) = [] :=
    List.filter_eq_nil_iff.mpr fun later member selected =>
      Nat.not_lt_of_le (of_decide_eq_true selected) (List.rel_of_pairwise_cons behind member)
  rw [List.filter_append, List.filter_cons, kept, dropped, if_pos (decide_eq_true le_rfl)]

theorem standsFor?_prefix :
    standsFor? (before ++ record :: after) record = standsFor? (before ++ [record]) record := by
  have same : (before ++ record :: after).filter (·.position < record.position) =
      (before ++ [record]).filter (·.position < record.position) := by
    rw [← filter_through_member increasing, List.filter_filter]
    refine List.filter_congr fun other _ => ?_
    by_cases earlier : other.position < record.position
    · simp [earlier, Nat.le_of_lt earlier]
    · simp [earlier]
  unfold standsFor?
  rw [same]

end

section

variable (increasing : InOrder records) (member : record ∈ records)
  (observes : observesGraphOf target record = true)
include increasing member observes

theorem reconstructedTaskGraphFor_through :
    reconstructedTaskGraphFor
        (reduceGraphKnowledge (records.filter (·.position ≤ record.position))) target =
      (shownGraph? records record).map (·.snapshot) := by
  obtain ⟨before, after, rfl⟩ := List.append_of_mem member
  have last : ∀ earlier ∈ before, earlier.position < record.position := fun earlier listed =>
    (List.pairwise_append.mp increasing).2.2 earlier listed record List.mem_cons_self
  have kept := lookup_latestByTarget (before ++ [record]) target
  obtain ⟨observation, observed, _⟩ := (Option.any_eq_true _ _).mp observes
  rw [latestGraphObservation?_concat, if_pos observes, Option.bind_some, observed] at kept
  obtain ⟨latest, found, rfl⟩ := Option.map_eq_some_iff.mp kept
  rw [filter_through_member increasing, reconstructedTaskGraphFor, found,
    shownGraph?_snapshot member, standsFor?_prefix increasing, ← fullFacts?_eq last observed]

theorem taskIsBlockedAt_eq :
    taskIsBlockedAt records record taskId =
      (shownGraph? records record).bind (·.snapshot.blocked? taskId) := by
  obtain ⟨observation, observed, graph⟩ := (Option.any_eq_true _ _).mp observes
  obtain rfl := of_decide_eq_true (Bool.and_eq_true_iff.mp graph).2
  have reconstructed := reconstructedTaskGraphFor_through increasing member observes
  unfold taskIsBlockedAt
  rw [observed]
  dsimp only [Option.bind_eq_bind, Option.bind_some]
  rw [reconstructed, Option.bind_map]
  refine Option.bind_congr fun shown _ => ?_
  unfold TaskDagSnapshot.blocked?
  cases known : shown.snapshot.lifecycleOf taskId with
  | none => simp [known, (lifecycleOf_eq_none_iff shown.snapshot taskId).mp known]
  | some lifecycle =>
      have listed : taskId ∈ shown.snapshot.taskIds := by
        by_contra absent
        rw [(lifecycleOf_eq_none_iff shown.snapshot taskId).mpr absent] at known
        cases known
      simp [known, listed]

end

def showsTask (records : List JournalRecord) (target : TrackerTarget) (taskId : TaskId)
    (blocked : Bool) (record : JournalRecord) : Bool :=
  observesGraphOf target record && taskIsBlockedAt records record taskId = some blocked

theorem findLast_after (increasing : InOrder records)
    (test : JournalRecord → Bool) (position : JournalPosition) :
    findLast records (fun record => position < record.position && test record) =
      (findLast records test).filter (position < ·.position) := by
  induction records using List.reverseRecOn with
  | nil => rfl
  | append_singleton records record induction =>
      obtain ⟨rest, _, last⟩ := List.pairwise_append.mp increasing
      have append : ∀ test : JournalRecord → Bool, findLast (records ++ [record]) test =
          if test record then some record else findLast records test := by
        intro test
        rw [findLast, List.reverse_append, List.reverse_singleton, List.singleton_append,
          List.find?_cons]
        cases test record <;> rfl
      rw [append, append]
      by_cases selected : test record = true
      · by_cases behind : position < record.position
        · simp [selected, behind, Option.filter]
        · have early : ∀ other ∈ records, ¬ position < other.position := fun other member after =>
            behind (Nat.lt_trans after (last other member record (by simp)))
          have none : records.filter (fun record => position < record.position && test record) = [] :=
            List.filter_eq_nil_iff.mpr fun other member => by simp [early other member]
          rw [findLast_eq_filter, none]
          simp [selected, behind, Option.filter]
      · simpa [selected] using induction rest

theorem shownGraph?_window (shows : Shows evidence records shown) (member : record ∈ shown) :
    shownGraph? records record = shownGraph? shown record := by
  rw [shows.window] at member ⊢
  have visible := of_decide_eq_true (List.mem_filter.mp member).2
  have same : (records.filter (·.position ≤ evidence.throughPosition)).filter
      (·.position < record.position) = records.filter (·.position < record.position) := by
    rw [List.filter_filter]
    refine List.filter_congr fun other _ => ?_
    by_cases earlier : other.position < record.position
    · simp [earlier, Nat.le_of_lt (Nat.lt_of_lt_of_le earlier visible)]
    · simp [earlier]
  unfold shownGraph? standsFor?
  rw [same]

theorem lastObserved_eq (chronological : Chronological records)
    (shows : Shows evidence records shown) (afterPosition : Int) (blocked : Bool) :
    lastObserved records ⟨target, taskId, afterPosition, evidence.throughPosition⟩ blocked =
      (findLast shown (showsTask shown target taskId blocked)).map (·.position) := by
  have increasing : InOrder shown := by
    rw [shows.window]
    exact chronological.increasing.filter _
  rw [findLast_eq_filter, lastObserved]
  have window : ∀ test : JournalRecord → Bool, shown.filter test = records.filter fun record =>
      decide ((record.position : Int) ≤ evidence.throughPosition) && test record := by
    intro test
    rw [shows.window, List.filter_filter]
    refine List.filter_congr fun record _ => ?_
    rw [Bool.and_comm]
    simp
  rw [window]
  refine congrArg (fun selected : List JournalRecord => selected.getLast?.map (·.position))
    (List.filter_congr fun record listed => ?_)
  by_cases visible : (record.position : Int) ≤ evidence.throughPosition
  · have member : record ∈ shown := by
      rw [shows.window]
      exact List.mem_filter.mpr ⟨listed, by simpa using visible⟩
    by_cases observes : observesGraphOf target record = true
    · simp only [showsTask, visible, observes, decide_true, Bool.true_and,
        taskIsBlockedAt_eq increasing member observes, shownGraph?_window shows member]
    · simp [showsTask, observes]
  · simp [visible]

/-- The latest blocked and later clear observation of a window, by a scan. -/
def scannedEpisode (shown : List JournalRecord) (query : BlockerClearQuery) :
    Option BlockerClearEpisode := do
  let blocked ← (findLast shown (showsTask shown query.target query.taskId true)).filter
    (query.afterPosition < ·.position)
  let cleared ← (findLast shown (showsTask shown query.target query.taskId false)).filter
    (blocked.position < ·.position)
  some { blockerObservedAt := blocked.position, blockerClearedAt := cleared.position }

theorem scannedEpisode_eq_some_iff {query : BlockerClearQuery} {episode : BlockerClearEpisode} :
    scannedEpisode shown query = some episode ↔
      ∃ blocked, findLast shown (showsTask shown query.target query.taskId true) = some blocked ∧
        ∃ cleared, findLast shown (showsTask shown query.target query.taskId false) = some cleared ∧
          query.afterPosition < blocked.position ∧ blocked.position < cleared.position ∧
          episode = ⟨blocked.position, cleared.position⟩ := by
  unfold scannedEpisode
  constructor
  · intro found
    obtain ⟨blocked, first, found⟩ := Option.bind_eq_some_iff.mp found
    obtain ⟨cleared, second, found⟩ := Option.bind_eq_some_iff.mp found
    obtain ⟨first, after⟩ := Option.filter_eq_some_iff.mp first
    obtain ⟨second, later⟩ := Option.filter_eq_some_iff.mp second
    exact ⟨blocked, first, cleared, second, of_decide_eq_true after, of_decide_eq_true later,
      (Option.some.inj found).symm⟩
  · rintro ⟨blocked, first, cleared, second, after, later, rfl⟩
    rw [first, second]
    simp [Option.filter, after, later]

theorem graphBlockerClearEpisodeAt_shown (chronological : Chronological records)
    (shows : Shows evidence records shown) (query : BlockerClearQuery)
    (through : query.throughPosition = evidence.throughPosition) :
    graphBlockerClearEpisodeAt (graphEvidenceFrom records) query = scannedEpisode shown query := by
  obtain ⟨target, taskId, afterPosition, throughPosition⟩ := query
  obtain rfl : throughPosition = evidence.throughPosition := through
  refine Option.ext fun episode => ?_
  rw [graphBlockerClearEpisodeAt_eq_some_iff records chronological.increasing,
    lastObserved_eq chronological shows, lastObserved_eq chronological shows,
    scannedEpisode_eq_some_iff]
  constructor
  · rintro ⟨first, second, after, later⟩
    obtain ⟨blocked, first, blockedAt⟩ := Option.map_eq_some_iff.mp first
    obtain ⟨cleared, second, clearedAt⟩ := Option.map_eq_some_iff.mp second
    refine ⟨blocked, first, cleared, second, ?_, ?_, ?_⟩
    · rwa [blockedAt]
    · rwa [blockedAt, clearedAt]
    · rw [blockedAt, clearedAt]
  · rintro ⟨blocked, first, cleared, second, after, later, rfl⟩
    exact ⟨by rw [first]; rfl, by rw [second]; rfl, after, later⟩

theorem scannedEpisode_eq (increasing : InOrder shown)
    (promotedAt : JournalPosition) (throughPosition : Int) :
    scannedEpisode shown ⟨target, taskId, promotedAt, throughPosition⟩ = (do
      let graphRecords := graphRecordsAfter shown target promotedAt
      let blocked ← findLast graphRecords fun record =>
        taskIsBlockedAt shown record taskId = some true
      let cleared ← findLast graphRecords fun record =>
        blocked.position < record.position && taskIsBlockedAt shown record taskId = some false
      some { blockerObservedAt := blocked.position, blockerClearedAt := cleared.position }) := by
  have observed : ∀ record : JournalRecord, (record.trackerFacts?.any fun observation =>
      observation.isGraphFacts &&
        taskTrackerTargetKey observation.target = taskTrackerTargetKey target) =
      observesGraphOf target record := by
    intro record
    simp only [observesGraphOf, taskTrackerTargetKey_injective.eq_iff]
  have blockedScan : (findLast (graphRecordsAfter shown target promotedAt) fun record =>
      taskIsBlockedAt shown record taskId = some true) =
      (findLast shown (showsTask shown target taskId true)).filter (promotedAt < ·.position) := by
    rw [← findLast_after increasing, findLast_eq_filter, findLast_eq_filter, graphRecordsAfter,
      List.filter_filter]
    refine congrArg List.getLast? (List.filter_congr fun record _ => ?_)
    rw [observed, showsTask]
    grind
  have clearedScan : ∀ blocked : JournalRecord, promotedAt < blocked.position →
      (findLast (graphRecordsAfter shown target promotedAt) fun record =>
        blocked.position < record.position && taskIsBlockedAt shown record taskId = some false) =
      (findLast shown (showsTask shown target taskId false)).filter
        (blocked.position < ·.position) := by
    intro blocked after
    rw [← findLast_after increasing, findLast_eq_filter, findLast_eq_filter, graphRecordsAfter,
      List.filter_filter]
    refine congrArg List.getLast? (List.filter_congr fun record _ => ?_)
    rw [observed, showsTask]
    by_cases later : blocked.position < record.position
    · have behind : promotedAt < record.position := Nat.lt_trans after later
      grind
    · simp [later]
  unfold scannedEpisode
  dsimp only
  rw [blockedScan]
  simp only [Int.ofNat_lt]
  refine Option.bind_congr fun blocked found => ?_
  have after := of_decide_eq_true (Option.filter_eq_some_iff.mp found).2
  rw [clearedScan blocked after]

theorem postPromotionBlockerClearAuthorizationFor_raw
    (increasing : InOrder shown) (graph : GraphEvidence)
    (claim : PromotedTaskClaim) :
    postPromotionBlockerClearAuthorizationFor graph claim (.raw shown) = (do
      let promotedAt ← promotionSucceededAt claim (.raw shown)
      let began ← firstJournalRecordOfKind .workflowRunBegan (.raw shown)
      let target ← begunTarget? began.event
      let episode ← scannedEpisode shown ⟨target, claim.taskId, promotedAt, 0⟩
      some { episode with claim }) := by
  unfold postPromotionBlockerClearAuthorizationFor
  dsimp only
  refine Option.bind_congr fun promotedAt _ => Option.bind_congr fun began _ =>
    Option.bind_congr fun target _ => ?_
  rw [scannedEpisode_eq increasing]
  simp only [Option.bind_eq_bind, Option.bind_assoc, Option.bind_some]

theorem postPromotionBlockerClearAuthorizationFor_indexed (chronological : Chronological records)
    (shows : Shows evidence records shown) (claim : PromotedTaskClaim) :
    postPromotionBlockerClearAuthorizationFor (graphEvidenceFrom records) claim
        (.indexed evidence) =
      postPromotionBlockerClearAuthorizationFor (graphEvidenceFrom records) claim (.raw shown) := by
  have increasing : InOrder shown := by
    rw [shows.window]
    exact chronological.increasing.filter _
  have presents : Presents (.indexed evidence) shown := .indexed chronological shows
  rw [postPromotionBlockerClearAuthorizationFor_raw increasing]
  unfold postPromotionBlockerClearAuthorizationFor
  rw [promotionSucceededAt_indexed chronological shows, presents.firstRecordOfKind]
  dsimp only
  refine Option.bind_congr fun promotedAt _ => Option.bind_congr fun began _ =>
    Option.bind_congr fun target _ => ?_
  rw [graphBlockerClearEpisodeAt_shown chronological shows _ rfl]
  rfl

theorem exists_unfinished_of_blocked (blocked : taskIsBlockedAt records record taskId = some true) :
    ∃ observation ∈ record.trackerFacts?, ∃ graph ∈ reconstructedTaskGraphFor
        (reduceGraphKnowledge (records.filter (·.position ≤ record.position))) observation.target,
      ∃ prerequisite ∈ graph.prerequisitesOf taskId,
        graph.lifecycleOf prerequisite ≠ some .completedSuccessfully := by
  unfold taskIsBlockedAt at blocked
  obtain ⟨observation, observed, blocked⟩ := Option.bind_eq_some_iff.mp blocked
  obtain ⟨graph, reconstructed, blocked⟩ := Option.bind_eq_some_iff.mp blocked
  obtain ⟨lifecycle, _, blocked⟩ := Option.bind_eq_some_iff.mp blocked
  obtain ⟨prerequisite, listed, unfinished⟩ := List.any_eq_true.mp (Option.some.inj blocked)
  exact ⟨observation, observed, graph, reconstructed, prerequisite, listed,
    of_decide_eq_true unfinished⟩

/-- What an authorization tells about the window it was derived from. -/
structure BlockedThenClear (shown : List JournalRecord) (claim : PromotedTaskClaim)
    (target : TrackerTarget) (promoted blocked cleared : JournalRecord) : Prop where
  succeeded : promoted ∈ shown ∧ observesPromotionSuccess claim promoted = true
  blockedListed : blocked ∈ shown ∧ observesGraphOf target blocked = true
  blockedAfter : promoted.position < blocked.position
  /-- Some prerequisite of the task is unfinished in the graph that was observed. -/
  unfinished : ∃ observation ∈ blocked.trackerFacts?, ∃ graph ∈ reconstructedTaskGraphFor
      (reduceGraphKnowledge (shown.filter (·.position ≤ blocked.position))) observation.target,
    ∃ prerequisite ∈ graph.prerequisitesOf claim.taskId,
      graph.lifecycleOf prerequisite ≠ some .completedSuccessfully
  clearedListed : cleared ∈ shown ∧ observesGraphOf target cleared = true
  clearedAfter : blocked.position < cleared.position
  clear : taskIsBlockedAt shown cleared claim.taskId = some false
  undisturbed : ∀ later ∈ shown, observesGraphOf target later = true →
    cleared.position < later.position → taskIsBlockedAt shown later claim.taskId ≠ some true

theorem blockedThenClear_of_authorized (increasing : InOrder shown)
    {graph : GraphEvidence} {claim : PromotedTaskClaim}
    {authorization : PostPromotionBlockerClearAuthorization}
    (authorized : postPromotionBlockerClearAuthorizationFor graph claim (.raw shown) =
      some authorization) :
    ∃ target promoted blocked cleared, BlockedThenClear shown claim target promoted blocked cleared ∧
      authorization = { blockerObservedAt := blocked.position
                        blockerClearedAt := cleared.position
                        claim } := by
  rw [postPromotionBlockerClearAuthorizationFor_raw increasing] at authorized
  obtain ⟨promotedAt, succeeded, authorized⟩ := Option.bind_eq_some_iff.mp authorized
  obtain ⟨began, _, authorized⟩ := Option.bind_eq_some_iff.mp authorized
  obtain ⟨target, _, authorized⟩ := Option.bind_eq_some_iff.mp authorized
  obtain ⟨episode, scanned, authorized⟩ := Option.bind_eq_some_iff.mp authorized
  rw [promotionSucceededAt, lastSuccess_eq] at succeeded
  obtain ⟨promoted, found, rfl⟩ := Option.map_eq_some_iff.mp succeeded
  obtain ⟨blocked, first, cleared, second, after, later, rfl⟩ :=
    scannedEpisode_eq_some_iff.mp scanned
  obtain ⟨blockedListed, showsBlocked, latest⟩ :=
    (findLast_eq_some_iff _ increasing).mp first
  obtain ⟨clearedListed, showsClear⟩ := mem_of_findLast second
  obtain ⟨observesBlocked, isBlocked⟩ := Bool.and_eq_true_iff.mp showsBlocked
  obtain ⟨observesClear, isClear⟩ := Bool.and_eq_true_iff.mp showsClear
  refine ⟨target, promoted, blocked, cleared, ?_, (Option.some.inj authorized).symm⟩
  exact
    { succeeded := mem_of_findLast found
      blockedListed := ⟨blockedListed, observesBlocked⟩
      blockedAfter := Int.ofNat_lt.mp after
      unfinished := exists_unfinished_of_blocked (of_decide_eq_true isBlocked)
      clearedListed := ⟨clearedListed, observesClear⟩
      clearedAfter := later
      clear := of_decide_eq_true isClear
      undisturbed := fun other listed observes behind again => by
        have selected : showsTask shown target claim.taskId true other = true := by
          simp [showsTask, observes, again]
        exact absurd (latest other listed selected) (Nat.not_le_of_lt (Nat.lt_trans later behind)) }

/-- Indexed evidence of a history and the plain list of the records it shows authorize the same,
and what is authorized was seen blocked by an unfinished prerequisite after the promotion and clear
behind that, with no blocked observation since. -/
theorem postPromotionBlockerClearAuthorization_agrees (chronological : Chronological records)
    (shows : Shows evidence records shown) (claim : PromotedTaskClaim) :
    postPromotionBlockerClearAuthorizationFor (graphEvidenceFrom records) claim
        (.indexed evidence) =
      postPromotionBlockerClearAuthorizationFor (graphEvidenceFrom records) claim (.raw shown) ∧
    ∀ authorization, postPromotionBlockerClearAuthorizationFor (graphEvidenceFrom records) claim
        (.indexed evidence) = some authorization →
      ∃ target promoted blocked cleared,
        BlockedThenClear shown claim target promoted blocked cleared ∧
        authorization = { blockerObservedAt := blocked.position
                          blockerClearedAt := cleared.position
                          claim } := by
  have same := postPromotionBlockerClearAuthorizationFor_indexed chronological shows claim
  refine ⟨same, fun authorization authorized => ?_⟩
  rw [same] at authorized
  refine blockedThenClear_of_authorized ?_ authorized
  rw [shows.window]
  exact chronological.increasing.filter _

end

namespace PromotedBlocker

def claim : PromotedTaskClaim where
  taskId := ⟨"dependant"⟩
  requestId := "promotion"
  qualifiedCandidate := .str "candidate"

theorem run_named : "cleared run" ≠ "" := by decide

theorem success_keyed : "promotion success" ≠ "" := by decide

def began : JournalRecord :=
  makeWorkflowRunBeganRecord ⟨"cleared run", run_named⟩
    { attemptBasePolicy := none
      initialTaskExecutionCapacity := 1
      remotePublicationTarget := ⟨""⟩
      target := .fixture "tracker" }

def success : JournalRecord where
  event := .protocol
    { kind := .targetPromotionObservedSuccess
      keySubject := "promotion"
      attemptIds := []
      payload := ⟨(Json.obj [("correlation", .obj [("qualifiedCandidate", .str "candidate"),
        ("requestId", .str "promotion")])]).stringify⟩ }
  key := ⟨"promotion success", success_keyed⟩
  position := 2
  runId := ⟨"cleared run", run_named⟩

def records : List JournalRecord :=
  [began, success, prerequisiteRead ⟨"first read"⟩ .opened 3,
    prerequisiteRead ⟨"second read"⟩ .completedSuccessfully 4]

theorem chronological_records : Chronological records where
  increasing := by simp [Increasing, records, began, success, prerequisiteRead,
    makeWorkflowRunBeganRecord]
  positive := by simp [records, began, success, prerequisiteRead, makeWorkflowRunBeganRecord]

/-- Index and list authorize the same, blocked at the first read and clear at the second. -/
theorem authorization_promotedBlocker :
    postPromotionBlockerClearAuthorizationFor (graphEvidenceFrom records) claim
        (.indexed (journalEvidenceFrom records)) =
      postPromotionBlockerClearAuthorizationFor (graphEvidenceFrom records) claim (.raw records) ∧
    (postPromotionBlockerClearAuthorizationFor (graphEvidenceFrom records) claim
      (.raw records)).map (·.toBlockerClearEpisode) =
        some { blockerObservedAt := 3, blockerClearedAt := 4 } :=
  ⟨(postPromotionBlockerClearAuthorization_agrees chronological_records
      (shows_journalEvidenceFrom chronological_records.increasing) claim).1,
    by decide +kernel⟩

end PromotedBlocker

end Dalph
