import Dalph.WorkflowJournal.SqliteRefinement

/-!
# Coherence of the SQLite caches

Along every run of the store, with operations that fail before or after their commit, the tables
represent a journal and both caches hold what a fresh load of the tables yields.
-/

namespace Dalph

section Coherence

variable {kernel : HistoryKernel} {platform : SqlitePlatform} {runs : RunId → StoredRun}
  {state : SqliteState} {runId : RunId}

/-- The tables represent the journal and the caches are coherent with it. -/
structure SqliteState.Keeps (kernel : HistoryKernel) (platform : SqlitePlatform)
    (runs : RunId → StoredRun) (state : SqliteState) : Prop where
  represents : Represents kernel platform state.database runs
  coherent : state.Coherent runs

def emptyJournal : RunId → StoredRun :=
  fun _ => .unknown

theorem emptySqliteState_keeps : emptySqliteState.Keeps kernel platform emptyJournal where
  represents :=
    { wellFormed := fun _ => StoredRun.unknown_consistent.toWellFormed
      encodes := fun _ => by simp [emptyJournal, StoredRun.unknown, StoredRun.records]
      reads := fun _ => by simp [emptyJournal, StoredRun.unknown, StoredRun.records]
      hot := fun _ => rfl
      cold := fun _ => rfl
      consistent := fun _ => StoredRun.unknown_consistent
      receipts := fun _ => rfl
      archived := fun _ => rfl }
  coherent :=
    { checkpoints := fun _ _ cached => by cases cached
      readSnapshots := fun _ _ cached => by cases cached }

theorem SqliteState.Coherent.invalidate (coherent : state.Coherent runs) (database : SqliteDatabase)
    (runId : RunId) (run : StoredRun) :
    ({ state with database }.invalidate runId).Coherent (Function.update runs runId run) where
  checkpoints other checkpoint cached := by
    rcases eq_or_ne other runId with rfl | apart
    · simp [SqliteState.invalidate] at cached
    · rw [Function.update_of_ne apart]
      simp only [SqliteState.invalidate, AList.lookup_erase_ne apart] at cached
      exact coherent.checkpoints other checkpoint cached
  readSnapshots other snapshot cached := by
    rcases eq_or_ne other runId with rfl | apart
    · simp [SqliteState.invalidate] at cached
    · rw [Function.update_of_ne apart]
      simp only [SqliteState.invalidate, AList.lookup_erase_ne apart] at cached
      exact coherent.readSnapshots other snapshot cached

theorem SqliteState.Coherent.invalidateAll (database : SqliteDatabase) :
    ({ state with database }.invalidateAll).Coherent runs where
  checkpoints _ _ cached := by cases cached
  readSnapshots _ _ cached := by cases cached

theorem SqliteState.Coherent.publish (coherent : state.Coherent runs) (database : SqliteDatabase)
    (runId : RunId) (run : StoredRun) :
    (({ state with database }.publish (snapshotOf runId run).checkpoint).invalidateRead
      runId).Coherent (Function.update runs runId run) where
  checkpoints other checkpoint cached := by
    simp only [SqliteState.invalidateRead, SqliteState.publish, snapshotOf] at cached
    rcases eq_or_ne other runId with rfl | apart
    · rw [AList.lookup_insert] at cached
      rw [Function.update_self, ← Option.some.inj cached]
      rfl
    · rw [AList.lookup_insert_ne apart] at cached
      rw [Function.update_of_ne apart]
      exact coherent.checkpoints other checkpoint cached
  readSnapshots other snapshot cached := by
    simp only [SqliteState.invalidateRead, SqliteState.publish] at cached
    rcases eq_or_ne other runId with rfl | apart
    · simp at cached
    · rw [AList.lookup_erase_ne apart] at cached
      rw [Function.update_of_ne apart]
      exact coherent.readSnapshots other snapshot cached

theorem SqliteState.Coherent.cacheRead (coherent : state.Coherent runs) (runId : RunId) :
    let published := state.publish (snapshotOf runId (runs runId)).checkpoint
    SqliteState.Coherent runs
      { published with
        readSnapshots :=
          published.readSnapshots.insert runId (snapshotOf runId (runs runId)) } where
  checkpoints other checkpoint cached := by
    simp only [SqliteState.publish, snapshotOf] at cached
    rcases eq_or_ne other runId with rfl | apart
    · rw [AList.lookup_insert] at cached
      rw [← Option.some.inj cached]
      rfl
    · rw [AList.lookup_insert_ne apart] at cached
      exact coherent.checkpoints other checkpoint cached
  readSnapshots other snapshot cached := by
    simp only [SqliteState.publish] at cached
    rcases eq_or_ne other runId with rfl | apart
    · rw [AList.lookup_insert] at cached
      exact (Option.some.inj cached).symm
    · rw [AList.lookup_insert_ne apart] at cached
      exact coherent.readSnapshots other snapshot cached

theorem SqliteState.Keeps.invalidate (keeps : state.Keeps kernel platform runs) (runId : RunId) :
    (state.invalidate runId).Keeps kernel platform runs := by
  refine ⟨keeps.represents, ?_⟩
  have dropped := keeps.coherent.invalidate state.database runId (runs runId)
  rwa [Function.update_eq_self] at dropped

def AnswersAlike : Except JournalStoreFailure JournalAnswer →
    Except JournalStoreFailure JournalAnswer → Prop
  | .ok left, .ok right => left = right
  | .error left, .error right => left.failureClass = right.failureClass
  | _, _ => False

theorem AnswersAlike.symm {left right : Except JournalStoreFailure JournalAnswer}
    (alike : AnswersAlike left right) : AnswersAlike right left := by
  cases left <;> cases right <;> first | exact Eq.symm alike | cases alike

theorem AnswersAlike.eq_ok {answer : JournalAnswer}
    {right : Except JournalStoreFailure JournalAnswer}
    (alike : AnswersAlike (.ok answer) right) : right = .ok answer := by
  cases right with
  | error failure => cases alike
  | ok other => exact congrArg Except.ok (show answer = other from alike).symm

@[simp]
theorem classifyJournalMethodFailure_class (operation : JournalStoreOperation)
    (failure : JournalStoreFailure) :
    (classifyJournalMethodFailure operation failure).failureClass = failure.failureClass := by
  cases failure <;> rfl

/-- An operation commits the effect of its request or nothing, and commits it when it completes. -/
def StepKeeps (kernel : HistoryKernel) (platform : SqlitePlatform) (runs : RunId → StoredRun)
    (request : JournalRequest) (cut : SqliteCut)
    (outcome : Except JournalStoreFailure JournalAnswer × SqliteState) : Prop :=
  ∃ after, (after = runs ∨ after = (journalStep kernel request runs).2) ∧
    outcome.2.Keeps kernel platform after ∧
    (cut = .completes → after = (journalStep kernel request runs).2 ∧
      AnswersAlike outcome.1 (journalStep kernel request runs).1)

section

variable (keeps : state.Keeps kernel platform runs)
include keeps

theorem stepKeeps_of_body {Result : Type} {request : JournalRequest}
    {answerOf : Result → JournalAnswer}
    {body : Except JournalStoreFailure (Result × SqliteDatabase)}
    (answers : BodyAnswers kernel platform runs request answerOf body)
    (operation : JournalStoreOperation) (cut : SqliteCut) :
    let outcome := withTransaction operation cut state.database body
    StepKeeps kernel platform runs request cut
      (outcome.1.map answerOf, { state with database := outcome.2 }.invalidate request.runId) := by
  have unchanged := keeps.invalidate request.runId
  unfold BodyAnswers at answers
  unfold StepKeeps journalStep
  cases answered : (runs request.runId).answer kernel request with
  | error failure =>
      rw [answered] at answers
      obtain ⟨cause, rfl, sameClass⟩ := answers
      exact ⟨runs, .inl rfl, unchanged,
        fun _ => ⟨rfl, (classifyJournalMethodFailure_class operation cause).trans sameClass⟩⟩
  | ok result =>
      obtain ⟨answer, run⟩ := result
      rw [answered] at answers
      obtain ⟨result, next, rfl, sameAnswer, represents⟩ := answers
      have changed : ({ state with database := next }.invalidate request.runId).Keeps kernel
          platform (Function.update runs request.runId run) :=
        ⟨represents, keeps.coherent.invalidate next request.runId run⟩
      cases cut with
      | completes => exact ⟨_, .inr rfl, changed, fun _ => ⟨rfl, sameAnswer⟩⟩
      | failsBeforeCommit => exact ⟨runs, .inl rfl, unchanged, nofun⟩
      | failsAfterCommit => exact ⟨_, .inr rfl, changed, nofun⟩

theorem sqliteAppend_keeps (cut : SqliteCut) {key : JournalRecordKey}
    {event : AppendableWorkflowJournalEvent}
    (storable : (JournalRequest.append runId key event).Storable platform) :
    StepKeeps kernel platform runs (.append runId key event) cut
      (sqliteAppend kernel platform state cut runId key event) := by
  have answers := sqliteAppendBody_answers keeps.represents keeps.coherent storable
  unfold StepKeeps journalStep JournalRequest.runId sqliteAppend
  cases answered : (runs runId).answer kernel (.append runId key event) with
  | error failure =>
      rw [answered] at answers
      rw [show sqliteAppendBody kernel platform state runId key event = .error failure from answers]
      exact ⟨runs, .inl rfl, keeps.invalidate runId,
        fun _ => ⟨rfl, classifyJournalMethodFailure_class .append failure⟩⟩
  | ok result =>
      obtain ⟨answer, run⟩ := result
      rw [answered] at answers
      obtain ⟨record, next, body, sameAnswer, represents⟩ := answers
      rw [body]
      cases cut with
      | completes =>
          exact ⟨_, .inr rfl, ⟨represents, keeps.coherent.publish next runId run⟩,
            fun _ => ⟨rfl, sameAnswer⟩⟩
      | failsBeforeCommit => exact ⟨runs, .inl rfl, keeps.invalidate runId, nofun⟩
      | failsAfterCommit =>
          exact ⟨_, .inr rfl, ⟨represents, keeps.coherent.invalidate next runId run⟩, nofun⟩

theorem sqliteRead_keeps (cut : SqliteCut) (runId : RunId) :
    StepKeeps kernel platform runs (.read runId) cut
      (sqliteRead kernel platform state cut runId) := by
  have answers := sqliteReadBody_answers keeps.represents keeps.coherent runId
  unfold StepKeeps journalStep JournalRequest.runId sqliteRead
  cases answered : (runs runId).answer kernel (.read runId) with
  | error failure =>
      rw [answered] at answers
      rw [show sqliteReadBody kernel platform state runId = .error failure from answers]
      exact ⟨runs, .inl rfl, keeps.invalidate runId,
        fun _ => ⟨rfl, classifyJournalMethodFailure_class .read failure⟩⟩
  | ok result =>
      obtain ⟨answer, run⟩ := result
      rw [answered] at answers
      obtain ⟨body, sameAnswer, rfl⟩ := answers
      rw [body]
      cases cut with
      | completes =>
          exact ⟨runs, .inl rfl, ⟨keeps.represents, keeps.coherent.cacheRead runId⟩,
            fun _ => ⟨(Function.update_eq_self runId runs).symm, sameAnswer⟩⟩
      | failsBeforeCommit => exact ⟨runs, .inl rfl, keeps.invalidate runId, nofun⟩
      | failsAfterCommit => exact ⟨runs, .inl rfl, keeps.invalidate runId, nofun⟩

theorem sqliteStoreStep_keeps (cut : SqliteCut) {request : JournalRequest}
    (storable : request.Storable platform) :
    StepKeeps kernel platform runs request cut
      (sqliteStoreStep kernel platform request cut state) := by
  cases request with
  | beginRun runId beginning =>
      exact stepKeeps_of_body keeps (sqliteBeginRunBody_answers keeps.represents storable)
        .beginRun cut
  | append runId key event => exact sqliteAppend_keeps keeps cut storable
  | read runId => exact sqliteRead_keeps keeps cut runId
  | terminateRun runId disposition evidence now =>
      exact stepKeeps_of_body keeps (sqliteTerminateRunBody_answers keeps.represents storable)
        .terminateRun cut
  | retireTerminalRun runId =>
      exact stepKeeps_of_body keeps (sqliteRetireBody_answers keeps.represents)
        .retireTerminalRun cut

end

theorem withTransaction_readOnly {Result : Type} (operation : JournalStoreOperation)
    (cut : SqliteCut) (database : SqliteDatabase) (body : Except JournalStoreFailure Result) :
    (withTransaction operation cut database (body.map fun result => (result, database))).2 =
      database := by
  cases body with
  | error failure => rfl
  | ok result => cases cut <;> rfl

theorem sqliteReadRunForRecovery_keeps (keeps : state.Keeps kernel platform runs) (cut : SqliteCut)
    (runId : RunId) (target : TrackerTarget) :
    (sqliteReadRunForRecovery kernel platform state cut runId target).2.Keeps kernel platform
      runs := by
  have published : ((state.publish (snapshotOf runId (runs runId)).checkpoint).invalidateRead
      runId).Keeps kernel platform runs := by
    refine ⟨keeps.represents, ?_⟩
    have coherent := keeps.coherent.publish state.database runId (runs runId)
    rwa [Function.update_eq_self] at coherent
  have recovered : ∀ checkpoint beginning,
      sqliteRecoverBody kernel platform state.database runId target = .ok (checkpoint, beginning) →
        checkpoint = (snapshotOf runId (runs runId)).checkpoint := by
    intro checkpoint beginning body
    unfold sqliteRecoverBody at body
    simp only [keeps.represents.readCompletionFor_eq, keeps.represents.loadRunSnapshot_eq, bind,
      Except.bind] at body
    split at body
    · cases body
    · split at body
      · cases body
      · cases body
        rfl
  unfold sqliteReadRunForRecovery
  cases body : sqliteRecoverBody kernel platform state.database runId target with
  | error failure => exact keeps.invalidate runId
  | ok result =>
      obtain ⟨checkpoint, beginning⟩ := result
      obtain rfl := recovered checkpoint beginning body
      cases cut with
      | completes => exact published
      | failsBeforeCommit => exact keeps.invalidate runId
      | failsAfterCommit => exact keeps.invalidate runId

theorem SqliteState.Keeps.invalidateAll (keeps : state.Keeps kernel platform runs) :
    state.invalidateAll.Keeps kernel platform runs :=
  ⟨keeps.represents, .invalidateAll state.database⟩

theorem scanOrder_trans (left middle right : SqliteRow) (first : scanOrder left middle)
    (second : scanOrder middle right) : scanOrder left right := by
  simp only [scanOrder, Bool.or_eq_true, Bool.and_eq_true, decide_eq_true_eq] at *
  rcases first with before | ⟨same, before⟩
  · rcases second with after | ⟨same, after⟩
    · exact .inl (lt_trans before after)
    · exact .inl (same ▸ before)
  · rcases second with after | ⟨same', after⟩
    · exact .inl (same ▸ after)
    · exact .inr ⟨same.trans same', Nat.le_trans before after⟩

theorem scanOrder_total (left right : SqliteRow) : scanOrder left right || scanOrder right left := by
  simp only [scanOrder, Bool.or_eq_true, Bool.and_eq_true, decide_eq_true_eq]
  rcases lt_trichotomy left.runId.value right.runId.value with before | same | after
  · exact .inl (.inl before)
  · rcases Nat.le_total left.position right.position with before | after
    · exact .inl (.inr ⟨same, before⟩)
    · exact .inr (.inr ⟨same.symm, after⟩)
  · exact .inr (.inl after)

variable {database : SqliteDatabase}

section

variable (represents : RowsRepresent kernel platform database runs)
include represents

theorem RowsRepresent.filter_scan (runId : RunId) :
    (database.hot.mergeSort scanOrder).filter (·.runId = runId) =
      ((runs runId).hot.getD []).map (sqliteRowOf platform) := by
  have sequence := represents.held_sequence .hot runId
  have rows : ((database.hot.mergeSort scanOrder).filter (·.runId = runId)).Perm
      (((runs runId).hot.getD []).map (sqliteRowOf platform)) := by
    rw [← represents.hot]
    exact (List.mergeSort_perm _ _).filter _
  have ordered : (((runs runId).hot.getD []).map (sqliteRowOf platform)).Pairwise
      fun left right => left.position < right.position :=
    List.pairwise_map.mpr sequence.sorted
  have scanned : ((database.hot.mergeSort scanOrder).filter (·.runId = runId)).Pairwise
      fun left right => left.position ≤ right.position := by
    have sorted := (List.pairwise_mergeSort scanOrder_trans scanOrder_total
      database.hot).filter (·.runId = runId)
    refine sorted.imp_of_mem ?_
    intro left right leftListed rightListed before
    have leftOwned : left.runId = runId := by simpa using (List.mem_filter.mp leftListed).2
    have rightOwned : right.runId = runId := by simpa using (List.mem_filter.mp rightListed).2
    simpa [scanOrder, leftOwned, rightOwned] using before
  have distinct : ((((runs runId).hot.getD []).map (sqliteRowOf platform)).map
      (·.position)).Nodup :=
    List.pairwise_map.mpr (ordered.imp fun before => Nat.ne_of_lt before)
  refine List.Perm.eq_of_pairwise ?_ scanned (ordered.imp fun before => Nat.le_of_lt before) rows
  intro left right leftListed rightListed before after
  exact List.inj_on_of_nodup_map distinct (rows.subset leftListed) rightListed
    (Nat.le_antisymm before after)

theorem RowsRepresent.decodeRow_of_hot {row : SqliteRow} (listed : row ∈ database.hot) :
    ∃ record, decodeRow platform row = .ok record ∧ record.runId = row.runId := by
  have held : row ∈ database.hot.filter (·.runId = row.runId) :=
    List.mem_filter.mpr ⟨listed, by simp⟩
  rw [represents.hot] at held
  obtain ⟨record, stored, same⟩ := List.mem_map.mp held
  obtain ⟨encodes, reads⟩ := represents.held_encodes .hot row.runId record stored
  exact ⟨record, same ▸ decodeRow_sqliteRowOf encodes reads, same ▸ rfl⟩

theorem RowsRepresent.filter_scanned (runId : RunId) :
    ((database.hot.mergeSort scanOrder).filterMap fun row =>
      (decodeRow platform row).toOption).filter (·.runId = runId) =
        (runs runId).hot.getD [] := by
  calc
    _ = ((database.hot.mergeSort scanOrder).filter (·.runId = runId)).filterMap
          fun row => (decodeRow platform row).toOption := by
      rw [List.filter_filterMap, List.filterMap_filter]
      refine List.filterMap_congr ?_
      intro row listed
      obtain ⟨record, decoded, owned⟩ :=
        represents.decodeRow_of_hot ((List.mergeSort_perm _ _).subset listed)
      simp [decoded, Except.toOption, Option.filter, owned]
    _ = ((runs runId).hot.getD []).filterMap
          fun record => (decodeRow platform (sqliteRowOf platform record)).toOption := by
      rw [represents.filter_scan, List.filterMap_map]
      rfl
    _ = (runs runId).hot.getD [] := by
      refine (List.filterMap_congr ?_).trans List.filterMap_some
      intro record listed
      obtain ⟨encodes, reads⟩ := represents.held_encodes .hot runId record listed
      rw [decodeRow_sqliteRowOf encodes reads]
      rfl

theorem RowsRepresent.retainedCheckpoint_eq {retainRunId : Option RunId}
    {checkpoint : SqliteStorageCheckpoint}
    (retained : retainedCheckpoint platform database (scanPartition kernel platform database .hot) retainRunId = .ok (some checkpoint))
    : checkpoint = (snapshotOf checkpoint.runId (runs checkpoint.runId)).checkpoint := by
  unfold retainedCheckpoint at retained
  dsimp only at retained
  split at retained
  · cases retained
  next selected found =>
    have listed := List.mem_of_find?_eq_some found
    simp only [scanPartition, List.mem_map, List.filterMap_map] at listed
    obtain ⟨runId, scanned, rfl⟩ := listed
    have records := represents.filter_scanned runId
    have nonempty : (runs runId).hot.getD [] ≠ [] := by
      rw [← records]
      obtain ⟨record, decoded, owned⟩ := List.mem_map.mp (List.mem_eraseDups.mp scanned)
      exact List.ne_nil_of_mem (List.mem_filter.mpr ⟨decoded, by simp [owned]⟩)
    have notCold : (runs runId).cold = none := by
      rcases (represents.wellFormed runId).hotOrCold with absent | absent
      · simp [absent] at nonempty
      · exact absent
    have held : (runs runId).hot.getD [] = (runs runId).records := by
      simp [StoredRun.records, notCold]
    have sequence := (represents.wellFormed runId).sequence
    rw [held] at records
    have same : ((database.rows .hot).mergeSort scanOrder).filterMap
        ((fun decoded : SqliteRow × Except String JournalRecord => decoded.2.toOption) ∘
          fun row => (row, decodeRow platform row)) =
        (database.hot.mergeSort scanOrder).filterMap fun row =>
          (decodeRow platform row).toOption := rfl
    simp only [represents.hasPartitionRows_eq, StoredRun.partitionRecords, notCold,
      Option.isSome_none, bind, Except.bind, same, records,
      makeSqliteDecodedHistoryEvidence_eq sequence, pure, Except.pure, Bool.false_eq_true,
      if_false, Except.ok.injEq, Option.some.injEq] at retained
    subst retained
    simp [snapshotOf, StoredRun.partition, notCold]

end

theorem sqliteScanHot_keeps (keeps : state.Keeps kernel platform runs) (cut : SqliteCut)
    (retainRunId : Option RunId) :
    (sqliteScanHot kernel platform state cut retainRunId).2.Keeps kernel platform runs := by
  have cleared := keeps.invalidateAll
  unfold sqliteScanHot
  dsimp only
  split
  · exact cleared
  next retained selected =>
    cases cut with
    | failsBeforeCommit => exact cleared
    | failsAfterCommit => exact cleared
    | completes =>
        cases retained with
        | none => exact cleared
        | some checkpoint =>
            refine ⟨keeps.represents, ?_, cleared.coherent.readSnapshots⟩
            intro runId held cached
            simp only [SqliteState.publish] at cached
            rcases eq_or_ne runId checkpoint.runId with rfl | apart
            · rw [AList.lookup_insert] at cached
              rw [← Option.some.inj cached]
              exact keeps.represents.retainedCheckpoint_eq selected
            · rw [AList.lookup_insert_ne apart] at cached
              exact cleared.coherent.checkpoints runId held cached

theorem sqliteAuditAll_keeps (keeps : state.Keeps kernel platform runs) (cut : SqliteCut) :
    (sqliteAuditAll kernel platform state cut).2.Keeps kernel platform runs := by
  have unchanged : ∀ body : Except JournalStoreFailure
      ((JournalScan × List RunCompletionInspection) × SqliteDatabase),
      (∀ result next, body = .ok (result, next) → next = state.database) →
        (withTransaction .auditAll cut state.database body).2 = state.database := by
    intro body reads
    cases body with
    | error failure => rfl
    | ok result =>
        obtain ⟨result, next⟩ := result
        obtain rfl := reads result next rfl
        cases cut <;> rfl
  unfold sqliteAuditAll
  dsimp only
  rw [unchanged]
  · exact keeps.invalidateAll
  · intro result next audited
    split at audited
    · cases audited
    · simp only [bind, Except.bind] at audited
      split at audited
      · cases audited
      · cases audited
        rfl

theorem removeArchivedHistory_change (represents : Represents kernel platform state.database runs)
    {now : Nat} {reasonOf : RunCompletion → Option RunHistoryDeletionReason}
    {next : SqliteDatabase}
    (removed : removeArchivedHistory kernel platform state.database runId now reasonOf =
      .ok ((), next)) :
    ∃ run, StoredRun.Change kernel runId (runs runId) run ∧
      Represents kernel platform next (Function.update runs runId run) := by
  have same : ∃ run, StoredRun.Change kernel runId (runs runId) run ∧
      Represents kernel platform state.database (Function.update runs runId run) :=
    ⟨_, .unchanged, by rw [Function.update_eq_self]; exact represents⟩
  unfold removeArchivedHistory at removed
  simp only [represents.readCompletionFor_eq, represents.loadPartitionRecords_eq, bind,
    Except.bind] at removed
  split at removed
  · cases removed
  · cases removed
    exact same
  next completion known =>
    have completed := StoredRun.completion_of_inspection_completedRun known
    split at removed
    · cases removed
    next isTerminal valid =>
      have cold : (runs runId).cold.isSome := by
        cases held : (runs runId).cold with
        | some stored => rfl
        | none =>
            -- without archived rows the history is not terminal
            rw [StoredRun.partitionRecords, held, Option.getD_none] at valid
            exact absurd valid (decideJournalPartitionHistory_cold_nil runId isTerminal)
      cases found : reasonOf completion with
      | none =>
          rw [found] at removed
          cases removed
          exact same
      | some reason =>
          obtain ⟨database, erased, deleted⟩ := represents.deleted cold
            (by simp [completed]) now reason
          rw [found, erased] at removed
          cases removed
          exact ⟨_, .deleted ⟨reason, now⟩ cold (by simp [completed]), deleted⟩

theorem sqliteRemoveArchived_keeps (keeps : state.Keeps kernel platform runs) (cut : SqliteCut)
    (candidate : ArchiveRetentionCandidate) (now : Nat) :
    ∃ after, JournalChange kernel runs after ∧
      (sqliteRemoveArchived kernel platform state cut candidate now).2.Keeps kernel platform
        after := by
  have unchanged := keeps.invalidate candidate.runId
  have committed : ∃ after, JournalChange kernel runs after ∧
      ({ state with database := (withTransaction .maintainArchive cut state.database
        (sqliteRemoveArchivedBody kernel platform state.database candidate now)).2 }.invalidate
          candidate.runId).Keeps kernel platform after := by
    cases body : sqliteRemoveArchivedBody kernel platform state.database candidate now with
    | error failure => exact ⟨runs, .unchanged, unchanged⟩
    | ok result =>
        obtain ⟨⟨⟩, next⟩ := result
        obtain ⟨run, change, represents⟩ := removeArchivedHistory_change keeps.represents body
        have changed := keeps.coherent.invalidate next candidate.runId run
        cases cut with
        | completes => exact ⟨_, .update change, represents, changed⟩
        | failsBeforeCommit => exact ⟨runs, .unchanged, unchanged⟩
        | failsAfterCommit => exact ⟨_, .update change, represents, changed⟩
  unfold sqliteRemoveArchived
  dsimp only
  split
  · exact committed
  · split
    · exact committed
    · exact committed

def SqliteRequest.Storable (platform : SqlitePlatform) : SqliteRequest → Prop
  | store request => request.Storable platform
  | _ => True

theorem sqliteStep_keeps (keeps : state.Keeps kernel platform runs)
    {request : SqliteRequest × SqliteCut} (storable : request.1.Storable platform) :
    ∃ after, JournalChange kernel runs after ∧
      (sqliteStep kernel platform request state).2.Keeps kernel platform after := by
  obtain ⟨request, cut⟩ := request
  cases request with
  | store request =>
      obtain ⟨after, effect, kept, -⟩ := sqliteStoreStep_keeps keeps cut storable
      refine ⟨after, ?_, kept⟩
      rcases effect with rfl | rfl
      · exact .unchanged
      · exact journalStep_change keeps.represents.consistent request
  | readCompletion runId =>
      refine ⟨runs, .unchanged, ?_⟩
      have unchanged := withTransaction_readOnly .readCompletion cut state.database
        (readCompletionFor kernel platform state.database runId)
      unfold sqliteStep
      dsimp only
      rw [unchanged]
      exact keeps
  | readRunForRecovery runId target =>
      exact ⟨runs, .unchanged, sqliteReadRunForRecovery_keeps keeps cut runId target⟩
  | scanHot retainRunId => exact ⟨runs, .unchanged, sqliteScanHot_keeps keeps cut retainRunId⟩
  | auditAll => exact ⟨runs, .unchanged, sqliteAuditAll_keeps keeps cut⟩
  | removeArchived candidate now => exact sqliteRemoveArchived_keeps keeps cut candidate now

def sqliteStateAfter (kernel : HistoryKernel) (platform : SqlitePlatform)
    (requests : List (SqliteRequest × SqliteCut)) : SqliteState :=
  (Machine.run (sqliteStep kernel platform) emptySqliteState requests).2

theorem sqliteStateAfter_keeps {requests : List (SqliteRequest × SqliteCut)}
    (storable : ∀ request ∈ requests, request.1.Storable platform) :
    ∃ runs, (sqliteStateAfter kernel platform requests).Keeps kernel platform runs := by
  have preserved : ∀ (request : SqliteRequest × SqliteCut) (state : SqliteState),
      request.1.Storable platform → (∃ runs, state.Keeps kernel platform runs) →
        ∃ runs, (sqliteStep kernel platform request state).2.Keeps kernel platform runs := by
    rintro request state stored ⟨runs, keeps⟩
    obtain ⟨after, -, kept⟩ := sqliteStep_keeps keeps stored
    exact ⟨after, kept⟩
  exact Machine.run_preserves_of_mem preserved ⟨emptyJournal, emptySqliteState_keeps⟩ storable

theorem SqliteState.Keeps.sqliteAppendBody_uncached (keeps : state.Keeps kernel platform runs)
    (runId : RunId) (key : JournalRecordKey) (event : AppendableWorkflowJournalEvent) :
    sqliteAppendBody kernel platform state.invalidateAll runId key event =
      sqliteAppendBody kernel platform state runId key event := by
  have cached := loadCurrentSnapshot_eq keeps.represents keeps.coherent runId .append
  have fresh : loadCurrentSnapshot kernel platform state.invalidateAll runId .append =
      .ok (snapshotOf runId (runs runId)).checkpoint :=
    loadCurrentSnapshot_eq keeps.invalidateAll.represents keeps.invalidateAll.coherent runId .append
  unfold sqliteAppendBody
  rw [cached, fresh]
  rfl

theorem SqliteState.Keeps.sqliteReadBody_uncached (keeps : state.Keeps kernel platform runs)
    (runId : RunId) :
    sqliteReadBody kernel platform state.invalidateAll runId =
      sqliteReadBody kernel platform state runId := by
  have cached := sqliteReadBody_answers keeps.represents keeps.coherent runId
  have fresh := sqliteReadBody_answers keeps.invalidateAll.represents keeps.invalidateAll.coherent
    runId
  cases answered : (runs runId).answer kernel (.read runId) with
  | error failure =>
      rw [answered] at cached fresh
      exact Eq.trans fresh cached.symm
  | ok result =>
      rw [answered] at cached fresh
      exact fresh.1.trans cached.1.symm

def SameOutcome (left right : Except JournalStoreFailure JournalAnswer × SqliteState) : Prop :=
  left.1 = right.1 ∧ left.2.database = right.2.database

theorem SqliteState.Keeps.sqliteAppend_uncached (keeps : state.Keeps kernel platform runs)
    (cut : SqliteCut) (runId : RunId) (key : JournalRecordKey)
    (event : AppendableWorkflowJournalEvent) :
    SameOutcome (sqliteAppend kernel platform state cut runId key event)
      (sqliteAppend kernel platform state.invalidateAll cut runId key event) := by
  unfold sqliteAppend
  rw [keeps.sqliteAppendBody_uncached]
  cases body : sqliteAppendBody kernel platform state runId key event with
  | error failure => exact ⟨rfl, rfl⟩
  | ok result => cases cut <;> exact ⟨rfl, rfl⟩

theorem SqliteState.Keeps.sqliteRead_uncached (keeps : state.Keeps kernel platform runs)
    (cut : SqliteCut) (runId : RunId) :
    SameOutcome (sqliteRead kernel platform state cut runId)
      (sqliteRead kernel platform state.invalidateAll cut runId) := by
  unfold sqliteRead
  rw [keeps.sqliteReadBody_uncached]
  cases body : sqliteReadBody kernel platform state runId with
  | error failure => exact ⟨rfl, rfl⟩
  | ok result => cases cut <;> exact ⟨rfl, rfl⟩

/-- Whatever is cached equals a fresh load of the committed rows, so that appends and reads answer
as they would without it. -/
theorem sqliteStateAfter_coherent {requests : List (SqliteRequest × SqliteCut)}
    (storable : ∀ request ∈ requests, request.1.Storable platform) :
    let state := sqliteStateAfter kernel platform requests
    (∀ runId checkpoint operation, state.checkpoints.lookup runId = some checkpoint →
      (loadRunSnapshot kernel platform state.database runId operation).map (·.checkpoint) =
        .ok checkpoint) ∧
    (∀ runId snapshot operation, state.readSnapshots.lookup runId = some snapshot →
      loadRunSnapshot kernel platform state.database runId operation = .ok snapshot) ∧
    (∀ cut runId key event,
      SameOutcome (sqliteAppend kernel platform state cut runId key event)
        (sqliteAppend kernel platform state.invalidateAll cut runId key event)) ∧
    ∀ cut runId,
      SameOutcome (sqliteRead kernel platform state cut runId)
        (sqliteRead kernel platform state.invalidateAll cut runId) := by
  intro state
  obtain ⟨runs, keeps⟩ : ∃ runs, state.Keeps kernel platform runs :=
    sqliteStateAfter_keeps storable
  refine ⟨?_, ?_, keeps.sqliteAppend_uncached, keeps.sqliteRead_uncached⟩
  · intro runId checkpoint operation cached
    rw [keeps.represents.loadRunSnapshot_eq, keeps.coherent.checkpoints runId checkpoint cached]
    rfl
  · intro runId snapshot operation cached
    rw [keeps.represents.loadRunSnapshot_eq, keeps.coherent.readSnapshots runId snapshot cached]

end Coherence

namespace CancelledRun

def runId : RunId := { value := "r1.cancelled" }

def beginning : RunBeginning :=
  { attemptBasePolicy := none
    initialTaskExecutionCapacity := 1
    remotePublicationTarget := ⟨"none"⟩
    target := .fixture "tasks" }

def cancellation : AppendableWorkflowJournalEvent :=
  runCancellationFact

def kernel : HistoryKernel where
  reductionIssues _ records :=
    if records.all fun record => record.key = record.event.expectedKey then []
    else ["record key must be canonical"]
  unsettledIssues _ _ := []
  canonicalKeys runId records accepted := by
    split_ifs at accepted with canonical
    simpa using canonical

def platform : SqlitePlatform where
  encode
    | .workflowRunBegan _ => ⟨⟨"WorkflowRunBegan"⟩, "beginning", workflowJournalEventVersion⟩
    | _ => ⟨⟨"RunCancellationApplied"⟩, "cancellation", workflowJournalEventVersion⟩
  decode stored :=
    if stored.kind = ⟨"WorkflowRunBegan"⟩ then .ok (.workflowRunBegan beginning)
    else .ok .runCancellationApplied
  readText text := text
  digest text := text
  receiptDigest _ _ _ := "checksum"
  boundaryDetail detail := detail

def requests : List (SqliteRequest × SqliteCut) :=
  [(.store (.beginRun runId beginning), .completes),
    (.store (.append runId runCancellationAppliedRecordKey cancellation), .completes),
    (.store (.append runId runCancellationAppliedRecordKey cancellation), .failsAfterCommit),
    (.store (.read runId), .completes)]

theorem beginning_encodes : platform.Encodes (.workflowRunBegan beginning) where
  decodes := rfl
  terminated := by decide

theorem cancellation_encodes : platform.Encodes cancellation.event where
  decodes := rfl
  terminated := by decide

theorem requests_storable : ∀ request ∈ requests, request.1.Storable platform := by
  simp only [requests, List.forall_mem_cons]
  exact ⟨⟨rfl, beginning_encodes⟩, ⟨rfl, cancellation_encodes⟩, ⟨rfl, cancellation_encodes⟩,
    trivial, by simp⟩

/-- After the lost response the cancellation is replayed as it would be without caches. -/
theorem coherent_after_lost_response :
    SameOutcome
      (sqliteAppend kernel platform (sqliteStateAfter kernel platform requests) .completes runId
        runCancellationAppliedRecordKey cancellation)
      (sqliteAppend kernel platform (sqliteStateAfter kernel platform requests).invalidateAll
        .completes runId runCancellationAppliedRecordKey cancellation) :=
  (sqliteStateAfter_coherent requests_storable).2.2.1 _ _ _ _

end CancelledRun

end Dalph
