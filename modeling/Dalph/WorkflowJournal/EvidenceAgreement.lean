import Dalph.WorkflowJournal.EvidenceIndex

/-!
# Agreement of indexed and raw queries

Every query on a window of indexed evidence returns what the same query on the plain list of the
visible records returns, except where index and list decide differently which records belong
together.  A worktree outcome is indexed under the attempt of the latest earlier operation with its
identity, while the list accepts any earlier worktree read with that identity.
-/

namespace Dalph

open PersistentSequence (Increasing)

def recordsBefore (records : List JournalRecord) (cutoff : Int) : List JournalRecord :=
  records.filter fun record => (record.position : Int) < cutoff

def evidenceBefore (records : List JournalRecord) (cutoff : Int) : JournalRecordEvidence :=
  journalEvidenceBefore (journalEvidenceFrom records) cutoff

variable {records : List JournalRecord}

theorem shows_evidenceBefore (chronological : Chronological records) (cutoff : Int) :
    Shows (evidenceBefore records cutoff) records (recordsBefore records cutoff) :=
  (shows_journalEvidenceFrom chronological.increasing).before chronological cutoff

theorem filter_eq_filter_iff {Item : Type} {items : List Item} {test test' : Item → Bool} :
    items.filter test = items.filter test' ↔ ∀ item ∈ items, test item = test' item := by
  refine ⟨fun same item member => ?_, List.filter_congr⟩
  have selected : item ∈ items.filter test ↔ item ∈ items.filter test' := by rw [same]
  rw [List.mem_filter, List.mem_filter, and_congr_right_iff] at selected
  exact Bool.eq_iff_iff.mpr (selected member)

namespace Shows

variable {source : JournalRecordEvidence} {records shown : List JournalRecord}
  {record : JournalRecord}

section

variable (shows : Shows source records shown) (member : record ∈ shown)
include shows member

theorem earlierThan_eq : earlierThan records record = earlierThan shown record := by
  rw [shows.window, List.mem_filter, decide_eq_true_iff] at member
  rw [earlierThan, earlierThan, shows.window, List.filter_filter]
  apply List.filter_congr
  intro earlier _
  rw [Bool.eq_iff_iff, Bool.and_eq_true, decide_eq_true_iff, decide_eq_true_iff]
  exact ⟨fun before => ⟨before, Nat.le_trans (Nat.le_of_lt before) member.2⟩, fun both => both.1⟩

theorem linkedToAttempt_eq (attemptId : AttemptId) :
    linkedToAttempt records record attemptId = linkedToAttempt shown record attemptId := by
  rw [linkedToAttempt, linkedToAttempt, shows.earlierThan_eq member]

theorem linkedToTask_eq (taskId : TaskId) :
    linkedToTask records record taskId = linkedToTask shown record taskId := by
  rw [linkedToTask, linkedToTask, shows.earlierThan_eq member]

end

end Shows

/-- The last operation with an identity before an outcome. -/
structure LatestOperation (records : List JournalRecord) (outcome : JournalRecord)
    (operationId : OperationId) (latest : JournalRecord) : Prop where
  member : latest ∈ records
  before : latest.position < outcome.position
  initiates : initiatesOperation latest operationId = true
  greatest : ∀ other ∈ records, other.position < outcome.position →
    initiatesOperation other operationId = true → other.position ≤ latest.position

/-- No operation contests the read of a worktree outcome: whenever an earlier worktree read of the
outcome's identity and Run is for an attempt, so is the latest earlier operation of that identity. -/
def WorktreeReadsUncontested (records : List JournalRecord) : Prop :=
  ∀ outcome ∈ records, ∀ operationId, worktreeOutcomeOperationId? outcome = some operationId →
    ∀ read ∈ records, read.position < outcome.position →
      ∀ attemptId, readsWorktreeOf read operationId outcome.runId attemptId = true →
        ∃ latest, LatestOperation records outcome operationId latest ∧
          readsWorktreeOf latest operationId outcome.runId attemptId = true

theorem getLast?_eq_some_of_greatest (increasing : InOrder records)
    {latest : JournalRecord} (member : latest ∈ records)
    (greatest : ∀ other ∈ records, other.position ≤ latest.position) :
    records.getLast? = some latest := by
  obtain ⟨last, found⟩ := Option.isSome_iff_exists.mp
    (List.getLast?_isSome.mpr (List.ne_nil_of_mem member))
  have inside := List.mem_of_getLast? found
  have same : last.position = latest.position :=
    Nat.le_antisymm (greatest last inside) (position_le_of_getLast? increasing found member)
  rw [found, increasing.eq_of_position inside member same]

variable {record : JournalRecord}

theorem operationOf_of_worktreeRead {operation : PlannedAttemptOperation}
    (read : taskWorktreeRead? record = some operation) :
    operationOf record = some (.gitRead (.readTaskWorktree operation)) := by
  unfold taskWorktreeRead? at read
  split at read
  · next recorded => rw [operationOf, recorded, Option.some.inj read]
  · contradiction

theorem worktreeRead_of_operationOf {operation : PlannedAttemptOperation}
    (carried : operationOf record = some (.gitRead (.readTaskWorktree operation))) :
    taskWorktreeRead? record = some operation := by
  unfold operationOf at carried
  split at carried
  all_goals simp_all [taskWorktreeRead?]

variable {operationId : OperationId}

theorem worktreeReadAttempt?_eq_some_iff (initiates : initiatesOperation record operationId = true)
    {runId : RunId} {attemptId : AttemptId} :
    ((operationOf record).bind fun operation => worktreeReadAttempt? operation runId) =
        some attemptId ↔ readsWorktreeOf record operationId runId attemptId = true := by
  simp only [readsWorktreeOf, Option.any_eq_true, Bool.and_eq_true, decide_eq_true_iff]
  constructor
  · intro answered
    obtain ⟨operation, carried, attempt⟩ := Option.bind_eq_some_iff.mp answered
    unfold worktreeReadAttempt? at attempt
    split at attempt
    · next read =>
        split at attempt
        · next sameRun =>
            rw [initiatesOperation, carried, Option.any_some, decide_eq_true_iff] at initiates
            exact ⟨read, worktreeRead_of_operationOf carried, ⟨initiates, sameRun⟩,
              Option.some.inj attempt⟩
        · contradiction
    · contradiction
  · rintro ⟨operation, read, ⟨-, sameRun⟩, sameAttempt⟩
    rw [operationOf_of_worktreeRead read, Option.bind_some, worktreeReadAttempt?, if_pos sameRun,
      sameAttempt]

variable {shown : List JournalRecord}

/-- A worktree outcome answers for an attempt exactly when the latest earlier operation of its
identity reads the worktree of that attempt in its Run. -/
theorem answeredAttempt?_eq_some_iff (increasing : InOrder shown)
    {outcome : JournalRecord} (answers : worktreeOutcomeOperationId? outcome = some operationId)
    {attemptId : AttemptId} :
    answeredAttempt? (earlierThan shown outcome) outcome = some attemptId ↔
      ∃ latest, LatestOperation shown outcome operationId latest ∧
        readsWorktreeOf latest operationId outcome.runId attemptId = true := by
  have ordered : InOrder ((earlierThan shown outcome).filter fun record =>
      initiatesOperation record operationId) :=
    increasing.sublist (List.filter_sublist.trans List.filter_sublist)
  have operation : answeredAttempt? (earlierThan shown outcome) outcome =
      ((earlierThan shown outcome).filter fun record =>
        initiatesOperation record operationId).getLast?.bind fun latest =>
          (operationOf latest).bind fun operation => worktreeReadAttempt? operation outcome.runId := by
    simp only [answeredAttempt?, answers, Option.bind_eq_bind, Option.bind_some,
      Shows.journalOperationById_raw, Option.bind_assoc]
  rw [operation]
  constructor
  · intro answered
    obtain ⟨latest, found, attempt⟩ := Option.bind_eq_some_iff.mp answered
    obtain ⟨earlier, initiates⟩ := List.mem_filter.mp (List.mem_of_getLast? found)
    obtain ⟨member, before⟩ := List.mem_filter.mp earlier
    refine ⟨latest, ⟨member, decide_eq_true_iff.mp before, initiates, ?_⟩,
      (worktreeReadAttempt?_eq_some_iff initiates).mp attempt⟩
    intro other inside otherBefore otherInitiates
    exact position_le_of_getLast? ordered found (List.mem_filter.mpr
      ⟨List.mem_filter.mpr ⟨inside, decide_eq_true otherBefore⟩, otherInitiates⟩)
  · rintro ⟨latest, ⟨member, before, initiates, greatest⟩, reads⟩
    have last := getLast?_eq_some_of_greatest ordered
      (List.mem_filter.mpr ⟨List.mem_filter.mpr ⟨member, decide_eq_true before⟩, initiates⟩)
      fun other inside => by
        obtain ⟨earlier, otherInitiates⟩ := List.mem_filter.mp inside
        obtain ⟨otherMember, otherBefore⟩ := List.mem_filter.mp earlier
        exact greatest other otherMember (decide_eq_true_iff.mp otherBefore) otherInitiates
    rw [last, Option.bind_some]
    exact (worktreeReadAttempt?_eq_some_iff initiates).mpr reads

section

variable {outcome : JournalRecord}
  (answers : worktreeOutcomeOperationId? outcome = some operationId) (attemptId : AttemptId)
include answers

theorem not_mem_attemptIdsOf_outcome : ¬ attemptId ∈ attemptIdsOf outcome := by
  unfold worktreeOutcomeOperationId? at answers
  split at answers
  · next recorded =>
      have none : attemptIdsOf outcome = .empty := by
        simp only [attemptIdsOf, descriptorAttemptIds, recorded]
        rfl
      rw [none]
      exact KeySet.not_mem_empty
  · contradiction

theorem rawRecordBelongsToAttempt_outcome :
    rawRecordBelongsToAttempt shown outcome attemptId = true ↔
      ∃ read ∈ shown, read.position < outcome.position ∧
        readsWorktreeOf read operationId outcome.runId attemptId = true := by
  rw [rawRecordBelongsToAttempt, if_neg (not_mem_attemptIdsOf_outcome answers attemptId), answers]
  simp only [List.any_eq_true, Bool.and_eq_true, decide_eq_true_iff]

end

theorem linkedToAttempt_outcome (increasing : InOrder shown)
    {outcome : JournalRecord} (answers : worktreeOutcomeOperationId? outcome = some operationId)
    (attemptId : AttemptId) :
    linkedToAttempt shown outcome attemptId = true ↔
      ∃ latest, LatestOperation shown outcome operationId latest ∧
        readsWorktreeOf latest operationId outcome.runId attemptId = true := by
  rw [linkedToAttempt, decide_eq_true_iff, KeySet.mem_add?,
    answeredAttempt?_eq_some_iff increasing answers]
  exact or_iff_left (not_mem_attemptIdsOf_outcome answers attemptId)

theorem linkedToAttempt_eq_raw_of_no_outcome (other : worktreeOutcomeOperationId? record = none)
    (attemptId : AttemptId) :
    linkedToAttempt shown record attemptId = rawRecordBelongsToAttempt shown record attemptId := by
  have unanswered : answeredAttempt? (earlierThan shown record) record = none := by
    simp [answeredAttempt?, other]
  rw [linkedToAttempt, unanswered, rawRecordBelongsToAttempt, other]
  show decide (attemptId ∈ attemptIdsOf record) = _
  split <;> simp_all

theorem linkedToAttempt_eq_raw_iff (increasing : InOrder shown) :
    (∀ attemptId, ∀ record ∈ shown,
      linkedToAttempt shown record attemptId = rawRecordBelongsToAttempt shown record attemptId) ↔
        WorktreeReadsUncontested shown := by
  constructor
  · intro agree outcome member operationId answers read inside before attemptId reads
    have raw := (rawRecordBelongsToAttempt_outcome answers attemptId).mpr ⟨read, inside, before, reads⟩
    rw [← agree attemptId outcome member] at raw
    exact (linkedToAttempt_outcome increasing answers attemptId).mp raw
  · intro uncontested attemptId record member
    cases answers : worktreeOutcomeOperationId? record with
    | none => exact linkedToAttempt_eq_raw_of_no_outcome answers attemptId
    | some operationId =>
        rw [Bool.eq_iff_iff, linkedToAttempt_outcome increasing answers,
          rawRecordBelongsToAttempt_outcome answers]
        constructor
        · rintro ⟨latest, last, reads⟩
          exact ⟨latest, last.member, last.before, reads⟩
        · rintro ⟨read, inside, before, reads⟩
          exact uncontested record member operationId answers read inside before attemptId reads

/-- Two sources answer every query of a record alike. -/
structure RecordQueriesAgree (left right : JournalHistorySource) : Prop where
  byKey : ∀ key, journalRecordByKey key left = journalRecordByKey key right
  byPosition : ∀ position, 1 ≤ position →
    journalRecordByPosition position left = journalRecordByPosition position right
  after : ∀ after, journalRecordsAfter after left = journalRecordsAfter after right
  ofKind : ∀ kind, journalRecordsOfKind kind left = journalRecordsOfKind kind right
  firstOfKind : ∀ kind, firstJournalRecordOfKind kind left = firstJournalRecordOfKind kind right
  lastOfKind : ∀ kind, lastJournalRecordOfKind kind left = lastJournalRecordOfKind kind right
  operationById : ∀ operationId,
    journalOperationById operationId left = journalOperationById operationId right
  recordForOperationId : ∀ operationId,
    journalRecordForOperationId operationId left = journalRecordForOperationId operationId right
  recordsForOperationId : ∀ operationId,
    journalRecordsForOperationId operationId left = journalRecordsForOperationId operationId right
  recordsForOperationIdKind : ∀ operationId kind,
    journalRecordsForOperationIdKind operationId kind left =
      journalRecordsForOperationIdKind operationId kind right
  forIntegratorSession : ∀ sessionId,
    journalRecordsForIntegratorSession sessionId left =
      journalRecordsForIntegratorSession sessionId right
  forQuarantineDirectionRequest : ∀ request,
    journalRecordsForQuarantineDirectionRequest request left =
      journalRecordsForQuarantineDirectionRequest request right
  forAttempt : ∀ attemptId,
    journalRecordsForAttempt attemptId left = journalRecordsForAttempt attemptId right
  forAttemptKind : ∀ attemptId kind,
    journalRecordsForAttemptKind attemptId kind left =
      journalRecordsForAttemptKind attemptId kind right
  lastForAttemptKind : ∀ attemptId kind,
    lastJournalRecordForAttemptKind attemptId kind left =
      lastJournalRecordForAttemptKind attemptId kind right
  countForAttemptKind : ∀ attemptId kind,
    journalRecordCountForAttemptKind attemptId kind left =
      journalRecordCountForAttemptKind attemptId kind right
  countForAttemptCommandKind : ∀ attemptId commandOrdinal kind,
    journalRecordCountForAttemptCommandKind attemptId commandOrdinal kind left =
      journalRecordCountForAttemptCommandKind attemptId commandOrdinal kind right

namespace Shows

variable {source : JournalRecordEvidence} {records shown : List JournalRecord}

theorem journalRecordsForAttempt_eq (shows : Shows source records shown)
    (increasing : InOrder records) (attemptId : AttemptId) :
    journalRecordsForAttempt attemptId (.indexed source) =
      shown.filter fun record => linkedToAttempt shown record attemptId := by
  rw [journalRecordsForAttempt, shows.indexedRecords_eq increasing (shows.indexed.byAttempt attemptId)]
  exact List.filter_congr fun record member => shows.linkedToAttempt_eq member attemptId

/-- Where index and list link the same records to attempts, they answer every query alike. -/
theorem recordQueriesAgree (shows : Shows source records shown) (all : Chronological records)
    (linked : ∀ attemptId, ∀ record ∈ shown,
      linkedToAttempt shown record attemptId = rawRecordBelongsToAttempt shown record attemptId) :
    RecordQueriesAgree (.indexed source) (.raw shown) := by
  have increasing := all.increasing
  have attempts : ∀ attemptId, ∀ record ∈ shown,
      linkedToAttempt records record attemptId = rawRecordBelongsToAttempt shown record attemptId :=
    fun attemptId record member => by
      rw [shows.linkedToAttempt_eq member, linked attemptId record member]
  have attemptKinds : ∀ attemptId kind,
      (shown.filter fun record =>
        decide (record.event.tag = kind) && linkedToAttempt records record attemptId) =
      shown.filter fun record =>
        decide (record.event.tag = kind) && rawRecordBelongsToAttempt shown record attemptId :=
    fun attemptId kind => List.filter_congr fun record member => by
      rw [attempts attemptId record member]
  exact
    { byKey := shows.visible_byKey increasing
      byPosition := fun position positive => shows.journalRecordByPosition_eq all positive
      after := shows.drop_firstOffsetAfter all
      ofKind := fun kind => shows.indexedRecords_eq increasing (shows.indexed.byKind kind)
      firstOfKind := fun kind =>
        (shows.visible_first increasing (shows.indexed.byKind kind)).trans List.head?_filter
      lastOfKind := fun kind =>
        (shows.lastVisibleRecord_eq increasing (shows.indexed.byKind kind)).trans
          List.getLast?_filter
      operationById := fun operationId => by
        rw [journalOperationById_raw, journalOperationById, indexedOperationById,
          shows.lastVisibleRecord_eq increasing (shows.indexed.operations operationId)]
      recordForOperationId := fun operationId =>
        (shows.lastVisibleRecord_eq increasing (shows.indexed.operations operationId)).trans
          List.getLast?_filter
      recordsForOperationId := fun operationId =>
        shows.indexedRecords_eq increasing (shows.indexed.recordsByOperation operationId)
      recordsForOperationIdKind := fun operationId kind =>
        shows.indexedRecords_eq increasing (shows.indexed.recordsByOperationKind operationId kind)
      forIntegratorSession := fun sessionId =>
        shows.indexedRecords_eq increasing (shows.indexed.byIntegratorSession sessionId)
      forQuarantineDirectionRequest := fun request =>
        shows.indexedRecords_eq increasing (shows.indexed.byQuarantineDirectionRequest request)
      forAttempt := fun attemptId =>
        (shows.journalRecordsForAttempt_eq increasing attemptId).trans
          (List.filter_congr fun record member => linked attemptId record member)
      forAttemptKind := fun attemptId kind =>
        (shows.indexedRecords_eq increasing (shows.indexed.byAttemptKind attemptId kind)).trans
          (attemptKinds attemptId kind)
      lastForAttemptKind := fun attemptId kind =>
        ((shows.lastVisibleRecord_eq increasing (shows.indexed.byAttemptKind attemptId kind)).trans
          (congrArg List.getLast? (attemptKinds attemptId kind))).trans List.getLast?_filter
      countForAttemptKind := fun attemptId kind =>
        (shows.visibleRecordCount_eq increasing (shows.indexed.byAttemptKind attemptId kind)).trans
          (congrArg List.length (attemptKinds attemptId kind))
      countForAttemptCommandKind := fun attemptId commandOrdinal kind =>
        shows.visibleRecordCount_eq increasing
          (shows.indexed.byAttemptCommandKind attemptId commandOrdinal kind) }

end Shows

/-- On every chronological history and at every cutoff, the window of the index and the list of the
visible records answer every query alike exactly when no visible worktree read is contested. -/
theorem recordQueriesAgree_iff {records : List JournalRecord} (chronological : Chronological records)
    (cutoff : Int) :
    RecordQueriesAgree (.indexed (evidenceBefore records cutoff)) (.raw (recordsBefore records cutoff)) ↔
      WorktreeReadsUncontested (recordsBefore records cutoff) := by
  have shows := shows_evidenceBefore chronological cutoff
  rw [← linkedToAttempt_eq_raw_iff (shows.chronological chronological).increasing]
  constructor
  · intro agree attemptId
    have same := agree.forAttempt attemptId
    rw [shows.journalRecordsForAttempt_eq chronological.increasing] at same
    exact filter_eq_filter_iff.mp same
  · exact shows.recordQueriesAgree chronological

namespace WorktreeReads

def attempt : PlannedTaskAttempt where
  attemptId := ⟨"attempt"⟩
  baseSha := ⟨"base"⟩
  branch := "branch"
  executor := "executor"
  runId := ⟨"evidence-run", by decide⟩
  taskId := ⟨"task"⟩
  taskRevision := ⟨"revision"⟩
  worktree := "worktree"

def operation : PlannedAttemptOperation := ⟨⟨"operation"⟩, attempt, []⟩

def intent : JournalRecord :=
  ⟨.gitReadIntentRecorded (.readTaskWorktree operation), intentRecordKey operation.operationId, 1,
    attempt.runId⟩

def outcome (position : JournalPosition) : JournalRecord :=
  ⟨.plannedAttemptWorktreeObserved operation.operationId (.contradictoryWorktreeState "worktree"),
    outcomeRecordKey operation.operationId, position, attempt.runId⟩

def plan : JournalRecord :=
  ⟨.taskAttemptPlanned operation, attemptPlanRecordKey attempt.attemptId, 2, attempt.runId⟩

theorem chronological_read : Chronological [intent, outcome 2] :=
  ⟨by simp [Increasing, intent, outcome], by simp [intent, outcome]⟩

theorem chronological_contested : Chronological [intent, plan, outcome 3] :=
  ⟨by simp [Increasing, intent, plan, outcome], by simp [intent, plan, outcome]⟩

/-- A read and its outcome with nothing between them. -/
theorem queries_agree_on_read :
    RecordQueriesAgree (.indexed (evidenceBefore [intent, outcome 2] 3))
      (.raw (recordsBefore [intent, outcome 2] 3)) := by
  refine (recordQueriesAgree_iff chronological_read 3).mpr ?_
  have shown : recordsBefore [intent, outcome 2] 3 = [intent, outcome 2] := by decide
  rw [shown]
  intro observed member operationId answers read inside before attemptId reads
  obtain rfl | rfl : observed = intent ∨ observed = outcome 2 := by simpa using member
  · exact absurd answers nofun
  obtain rfl | rfl : read = intent ∨ read = outcome 2 := by simpa using inside
  · obtain rfl : operation.operationId = operationId := Option.some.inj answers
    refine ⟨intent, ⟨by simp, before, by decide, fun other inside before _ => ?_⟩, reads⟩
    obtain rfl | rfl : other = intent ∨ other = outcome 2 := by simpa using inside
    · exact Nat.le_refl _
    · exact absurd before (by decide)
  · exact absurd before (by decide)

/-- A plan recorded under the identity of a pending read hides the read from the index: the list
returns the outcome among the records of the attempt, the index does not. -/
theorem queries_differ_on_contested_read :
    Chronological [intent, plan, outcome 3] ∧
      ([intent, plan, outcome 3].map (·.key)).Nodup ∧
      [intent, plan, outcome 3].map (·.position) = [1, 2, 3] ∧
      ¬ RecordQueriesAgree (.indexed (evidenceBefore [intent, plan, outcome 3] 4))
        (.raw (recordsBefore [intent, plan, outcome 3] 4)) := by
  refine ⟨chronological_contested, by decide, by decide, fun agree => ?_⟩
  have same := agree.forAttempt attempt.attemptId
  rw [(shows_evidenceBefore chronological_contested 4).journalRecordsForAttempt_eq
    chronological_contested.increasing] at same
  exact absurd same (by decide)

end WorktreeReads

/-- Two sources answer every query of a task or a promotion request alike. -/
structure SubjectQueriesAgree (left right : JournalHistorySource) : Prop where
  forTask : ∀ taskId, journalRecordsForTask taskId left = journalRecordsForTask taskId right
  forTaskKind : ∀ taskId kind,
    journalRecordsForTaskKind taskId kind left = journalRecordsForTaskKind taskId kind right
  lastForTaskKind : ∀ taskId kind,
    lastJournalRecordForTaskKind taskId kind left = lastJournalRecordForTaskKind taskId kind right
  forPromotionRequest : ∀ requestId,
    journalRecordsForPromotionRequest requestId left =
      journalRecordsForPromotionRequest requestId right

/-- Every reconfirmation covers the tasks of the record under the key of the observation it names. -/
def ReconfirmationsCovered (records : List JournalRecord) : Prop :=
  ∀ record ∈ records, ∀ operationId, priorFullObservationOperationId? record = some operationId →
    ∀ prior, (records.find? fun prior => prior.key = outcomeRecordKey operationId) = some prior →
      ∀ taskId, taskId ∈ taskIdsOf prior none → taskId ∈ taskIdsOf record none

/-- No direct-publication record has a request in its correlation, and a record of any other kind
carries a promotion claim only beside a correlated request. -/
def PromotionRequestsCorrelated (records : List JournalRecord) : Prop :=
  ∀ record ∈ records,
    (record.event.tag ∈ directPublicationKinds →
      correlationRequestId (some record.event.object) = none) ∧
    (record.event.tag ∉ directPublicationKinds →
      correlationRequestId (some record.event.object) = none →
        carriedClaimRequestId (some record.event.object) = none)

theorem mem_taskIdsOf_of_complete {prior : JournalRecord} {taskId : TaskId}
    (member : taskId ∈ completeTaskIds prior) : taskId ∈ taskIdsOf prior none := by
  rw [taskIdsOf, KeySet.mem_addAll]
  left
  unfold completeTaskIds at member
  split at member
  · next facts recorded =>
      rw [graphObservationTaskIds, recorded]
      exact List.mem_append_left _ member
  · exact absurd member List.not_mem_nil

theorem find?_of_find?_earlierThan (increasing : InOrder records)
    {found : JournalRecord} {test : JournalRecord → Bool}
    (earlier : (earlierThan records record).find? test = some found) :
    records.find? test = some found := by
  have cut := increasing.takeWhile_eq_filter ((record.position : Int) - 1)
  simp only [Int.le_sub_one_iff, Int.ofNat_lt] at cut
  rw [earlierThan, ← cut] at earlier
  rw [← @List.takeWhile_append_dropWhile _ (fun other : JournalRecord =>
    decide (other.position < record.position)) records, List.find?_append, earlier, Option.some_or]

section Tasks

variable {shown : List JournalRecord} {record : JournalRecord} {taskId : TaskId}

theorem linkedToTask_eq_of_covered (increasing : InOrder shown)
    (covered : ReconfirmationsCovered shown) (member : record ∈ shown) :
    linkedToTask shown record taskId = decide (taskId ∈ taskIdsOf record none) := by
  rw [linkedToTask, Bool.or_eq_left_iff_imp, Option.any_eq_true]
  rintro ⟨prior, linked, concerned⟩
  obtain ⟨operationId, reconfirms, earlier⟩ := Option.bind_eq_some_iff.mp linked
  have found := find?_of_find?_earlierThan increasing earlier
  exact decide_eq_true (covered record member operationId reconfirms prior found taskId
    (mem_taskIdsOf_of_complete (decide_eq_true_iff.mp concerned)))

theorem rawRecordConcernsTask_eq_of_covered (covered : ReconfirmationsCovered shown)
    (member : record ∈ shown) :
    rawRecordConcernsTask shown record taskId = decide (taskId ∈ taskIdsOf record none) := by
  unfold rawRecordConcernsTask
  split
  · next named => exact (decide_eq_true named).symm
  · next unnamed =>
      rw [decide_eq_false unnamed]
      cases reconfirms : priorFullObservationOperationId? record with
      | none => rfl
      | some operationId =>
          rw [Option.any_eq_false]
          intro prior found
          refine decide_eq_false fun concerned => ?_
          exact unnamed (covered record member operationId reconfirms prior found taskId concerned)

theorem rawRecordConcernsTask_of_reconfirmed {operationId : OperationId} {prior : JournalRecord}
    (reconfirms : priorFullObservationOperationId? record = some operationId)
    (found : (shown.find? fun prior => prior.key = outcomeRecordKey operationId) = some prior)
    (concerned : taskId ∈ taskIdsOf prior none) :
    rawRecordConcernsTask shown record taskId = true := by
  unfold rawRecordConcernsTask
  split
  · rfl
  · rw [reconfirms]
    simp only [found, Option.any_some, concerned, decide_true]

end Tasks

theorem promotionRequestIdOf_eq_iff (record : JournalRecord) :
    promotionRequestIdOf record = correlationRequestId (some record.event.object) ↔
      (record.event.tag ∈ directPublicationKinds →
        correlationRequestId (some record.event.object) = none) ∧
      (record.event.tag ∉ directPublicationKinds →
        correlationRequestId (some record.event.object) = none →
          carriedClaimRequestId (some record.event.object) = none) := by
  unfold promotionRequestIdOf
  by_cases direct : record.event.tag ∈ directPublicationKinds
  · simp [direct, eq_comm]
  · simp only [direct, if_false, false_implies, true_and, not_false_iff, true_implies]
    cases correlationRequestId (some record.event.object) <;> simp

namespace Shows

variable {source : JournalRecordEvidence} {records shown : List JournalRecord}

section

variable (shows : Shows source records shown)
  (increasing : InOrder records)
include shows increasing

theorem journalRecordsForTask_eq (taskId : TaskId) :
    journalRecordsForTask taskId (.indexed source) =
      shown.filter fun record => linkedToTask shown record taskId := by
  rw [journalRecordsForTask, shows.indexedRecords_eq increasing (shows.indexed.byTask taskId)]
  exact List.filter_congr fun record member => shows.linkedToTask_eq member taskId

theorem journalRecordsForTaskKind_eq (taskId : TaskId) (kind : WorkflowJournalEventTag) :
    journalRecordsForTaskKind taskId kind (.indexed source) =
      shown.filter fun record =>
        decide (record.event.tag = kind) && linkedToTask shown record taskId := by
  rw [journalRecordsForTaskKind,
    shows.indexedRecords_eq increasing (shows.indexed.byTaskKind taskId kind)]
  exact List.filter_congr fun record member => by rw [shows.linkedToTask_eq member taskId]

theorem lastJournalRecordForTaskKind_eq (taskId : TaskId) (kind : WorkflowJournalEventTag) :
    lastJournalRecordForTaskKind taskId kind (.indexed source) =
      (journalRecordsForTaskKind taskId kind (.indexed source)).getLast? := by
  rw [lastJournalRecordForTaskKind, journalRecordsForTaskKind,
    shows.lastVisibleRecord_eq increasing (shows.indexed.byTaskKind taskId kind),
    shows.indexedRecords_eq increasing (shows.indexed.byTaskKind taskId kind)]

theorem journalRecordsForPromotionRequest_eq (requestId : String) :
    journalRecordsForPromotionRequest requestId (.indexed source) =
      shown.filter fun record => promotionRequestIdOf record = some requestId :=
  shows.indexedRecords_eq increasing (shows.indexed.byPromotionRequest requestId)

theorem promotionQueriesAgree_iff :
    (∀ requestId, journalRecordsForPromotionRequest requestId (.indexed source) =
      journalRecordsForPromotionRequest requestId (.raw shown)) ↔
        PromotionRequestsCorrelated shown := by
  have each : ∀ requestId, journalRecordsForPromotionRequest requestId (.indexed source) =
      journalRecordsForPromotionRequest requestId (.raw shown) ↔ ∀ record ∈ shown,
        (promotionRequestIdOf record = some requestId ↔
          correlationRequestId (some record.event.object) = some requestId) := fun requestId => by
    rw [shows.journalRecordsForPromotionRequest_eq increasing, journalRecordsForPromotionRequest,
      filter_eq_filter_iff]
    simp only [decide_eq_decide]
  simp only [each, PromotionRequestsCorrelated, ← promotionRequestIdOf_eq_iff]
  constructor
  · intro agree record member
    exact Option.ext fun requestId => agree requestId record member
  · intro same requestId record member
    rw [same record member]

end

end Shows

/-- On every chronological history and at every cutoff, the window of the index and the list of the
visible records answer every query of tasks and promotion requests alike exactly when no visible
reconfirmation links to a task it does not cover and promotion requests are correlated. -/
theorem subjectQueriesAgree_iff {records : List JournalRecord}
    (chronological : Chronological records) (cutoff : Int) :
    SubjectQueriesAgree (.indexed (evidenceBefore records cutoff))
        (.raw (recordsBefore records cutoff)) ↔
      ReconfirmationsCovered (recordsBefore records cutoff) ∧
        PromotionRequestsCorrelated (recordsBefore records cutoff) := by
  have shows := shows_evidenceBefore chronological cutoff
  have increasing := chronological.increasing
  have ordered := (shows.chronological chronological).increasing
  rw [← shows.promotionQueriesAgree_iff increasing]
  constructor
  · intro agree
    refine ⟨fun record member operationId reconfirms prior found taskId concerned => ?_,
      agree.forPromotionRequest⟩
    -- the list links the record to the task, so the index does, and the raw kind query must too
    have raw := rawRecordConcernsTask_of_reconfirmed reconfirms found concerned
    have byTask := agree.forTask taskId
    rw [shows.journalRecordsForTask_eq increasing] at byTask
    have linked := filter_eq_filter_iff.mp byTask record member
    have byKind := agree.forTaskKind taskId record.event.tag
    rw [shows.journalRecordsForTaskKind_eq increasing] at byKind
    have named := filter_eq_filter_iff.mp byKind record member
    rw [linked, raw] at named
    simpa using named.symm
  · rintro ⟨covered, promotions⟩
    have byTask : ∀ taskId, (recordsBefore records cutoff).filter (fun record =>
          linkedToTask (recordsBefore records cutoff) record taskId) =
        (recordsBefore records cutoff).filter fun record =>
          rawRecordConcernsTask (recordsBefore records cutoff) record taskId :=
      fun taskId => List.filter_congr fun record member => by
        rw [linkedToTask_eq_of_covered ordered covered member,
          rawRecordConcernsTask_eq_of_covered covered member]
    refine
      { forTask := fun taskId => (shows.journalRecordsForTask_eq increasing taskId).trans
          (byTask taskId)
        forTaskKind := fun taskId kind => ?_
        lastForTaskKind := fun taskId kind => ?_
        forPromotionRequest := promotions }
    · rw [shows.journalRecordsForTaskKind_eq increasing]
      exact List.filter_congr fun record member => by
        rw [linkedToTask_eq_of_covered ordered covered member]
    · rw [shows.lastJournalRecordForTaskKind_eq increasing,
        shows.journalRecordsForTaskKind_eq increasing, ← List.filter_filter, byTask taskId,
        List.getLast?_filter]
      rfl

namespace Reconfirmed

def target : TrackerTarget := .fixture "reconfirmed"

def evidence (operationId : OperationId) : CompleteFactEvidence :=
  ⟨⟨"content"⟩, ⟨[], target⟩, operationId⟩

def full : OperationId := ⟨"full"⟩

def again : OperationId := ⟨"again"⟩

def task : TaskId := ⟨"task"⟩

def facts : CompleteTaskTrackerFactsObserved where
  factFamilies :=
    { identities := ⟨evidence full, [task], [], target⟩
      lifecycles := ⟨evidence full, [task], [(task, .opened)]⟩
      prerequisites := ⟨evidence full, [task], [(task, [])]⟩
      groupings := ⟨evidence full, [task], [(task, none)]⟩
      membership := ⟨evidence full, [task], target⟩ }
  operationId := full
  rootTaskId := none
  target := target
  valid := by decide

def reconfirmation : UnchangedTaskTrackerFactsReconfirmed where
  factFamilies :=
    { identities := evidence again
      identitiesTarget := target
      lifecycles := evidence again
      lifecycleTaskIds := [task]
      prerequisites := evidence again
      prerequisiteTaskIds := [task]
      groupings := evidence again
      groupingTaskIds := [task]
      membership := evidence again
      membershipTarget := target }
  operationId := again
  priorFullObservationOperationId := full
  rootTaskId := none
  target := target
  valid := by decide

def runId : RunId := ⟨"reconfirmed-run", by decide⟩

def observed : JournalRecord :=
  ⟨.taskTrackerFactsObserved (.completeTaskTrackerFacts facts), outcomeRecordKey full, 1, runId⟩

def reconfirmed : JournalRecord :=
  ⟨.taskTrackerFactsObserved (.unchangedTaskTrackerFactsReconfirmed reconfirmation),
    outcomeRecordKey again, 2, runId⟩

theorem chronological_observed : Chronological [observed] :=
  ⟨by simp [Increasing], by simp [observed]⟩

theorem chronological_reconfirmed : Chronological [observed, reconfirmed] :=
  ⟨by simp [Increasing, observed, reconfirmed], by simp [observed, reconfirmed]⟩

/-- A full observation without a reconfirmation. -/
theorem queries_agree_on_observed :
    SubjectQueriesAgree (.indexed (evidenceBefore [observed] 2))
      (.raw (recordsBefore [observed] 2)) := by
  refine (subjectQueriesAgree_iff chronological_observed 2).mpr ⟨?_, ?_⟩
  · intro record member operationId reconfirms
    obtain rfl : record = observed := by simpa using List.mem_of_mem_filter member
    exact absurd reconfirms nofun
  · intro record member
    obtain rfl : record = observed := by simpa using List.mem_of_mem_filter member
    exact ⟨fun _ => rfl, fun _ _ => rfl⟩

/-- A reconfirmation is returned for its task and kind by the index, but not by the list. -/
theorem queries_differ_on_reconfirmed :
    Chronological [observed, reconfirmed] ∧
      ([observed, reconfirmed].map (·.key)).Nodup ∧
      [observed, reconfirmed].map (·.position) = [1, 2] ∧
      ¬ SubjectQueriesAgree (.indexed (evidenceBefore [observed, reconfirmed] 3))
        (.raw (recordsBefore [observed, reconfirmed] 3)) := by
  refine ⟨chronological_reconfirmed, by decide, by decide, fun agree => ?_⟩
  have same := agree.forTaskKind task .taskTrackerFactsObserved
  rw [(shows_evidenceBefore chronological_reconfirmed 3).journalRecordsForTaskKind_eq
    chronological_reconfirmed.increasing] at same
  exact absurd same (by decide)

end Reconfirmed

end Dalph
