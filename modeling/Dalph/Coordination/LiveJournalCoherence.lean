import Dalph.Coordination.LiveJournal

/-!
# The published prefix and the stored Run

Whatever storage answers, the published records are the first records of the stored Run, a
conditional append commits only at the position it expects, and a failed journal changes nothing.
A repeated append is recognised by the text of its event, so it keeps the journal open exactly when
that text is the one that was published.
-/

namespace Dalph

section Storage

variable {kernel : HistoryKernel} {runId : RunId} {run : StoredRun} {request : JournalRequest}

variable {next : StoredRun} {answer : JournalAnswer}

theorem StoredRun.answer_deletion (answered : run.answer kernel request = .ok (answer, next)) :
    next.deletion = run.deletion := by
  -- Only archive retention marks a history as deleted; no request does.
  unfold StoredRun.answer at answered
  repeat' split at answered
  all_goals cases answered
  all_goals rfl

theorem StoredRun.answer_prefix (consistent : run.Consistent kernel request.runId)
    (answered : run.answer kernel request = .ok (answer, next)) : run.records <+: next.records := by
  rcases (StoredRun.answer_change consistent answered).prefix_or_deleted with kept | deleted
  · exact kept
  · rw [StoredRun.answer_deletion answered] at deleted
    obtain ⟨-, hot, cold⟩ := consistent.deletedCompleted deleted
    simp [StoredRun.records, hot, cold]

theorem StoredRun.held_of_termination {disposition : RunTerminationDisposition}
    {evidence : RunFinalityEvidence} {now : RunCompletionTime} {record : JournalRecord}
    (answered : run.answer kernel (.terminateRun runId disposition evidence now) =
      .ok (.record record, next)) : record ∈ next.records := by
  simp only [StoredRun.answer] at answered
  split at answered
  · cases answered
  · split at answered
    · cases answered
    · split at answered
      · cases answered
      · cases answered
      · cases answered
        rw [StoredRun.records_of_hot rfl]
        simp

theorem StoredRun.records_of_read {stored : List JournalRecord}
    (answered : run.answer kernel (.read runId) = .ok (.records stored, next)) :
    next.records = stored := by
  simp only [StoredRun.answer] at answered
  split at answered
  · cases answered
  · cases answered
    rfl

theorem storageCall_ok {cut : SqliteCut}
    (called : storageCall kernel request cut run = (.ok answer, next)) :
    cut = .completes ∧ run.answer kernel request = .ok (answer, next) := by
  unfold storageCall at called
  split at called
  · cases called
  next answered =>
    split at called
    · cases called
      exact ⟨rfl, answered⟩
    · cases called
    · cases called

theorem storageCall_keeps (consistent : run.Consistent kernel request.runId) (cut : SqliteCut) :
    (storageCall kernel request cut run).2.Consistent kernel request.runId ∧
      run.records <+: (storageCall kernel request cut run).2.records := by
  unfold storageCall
  split
  · exact ⟨consistent, List.prefix_rfl⟩
  next answer next answered =>
    have committed := And.intro ((StoredRun.answer_change consistent answered).consistent consistent)
      (StoredRun.answer_prefix consistent answered)
    cases cut with
    | completes => exact committed
    | failsBeforeCommit => exact ⟨consistent, List.prefix_rfl⟩
    | failsAfterCommit => exact committed

end Storage

section Sqlite

variable {kernel : HistoryKernel} {platform : SqlitePlatform} {runs : RunId → StoredRun}
  {state : SqliteState}

theorem withTransaction_cut {Result : Type} {operation : JournalStoreOperation} {cut : SqliteCut}
    (short : cut ≠ .completes) (database : SqliteDatabase)
    (body : Except JournalStoreFailure (Result × SqliteDatabase)) :
    ∃ failure, (withTransaction operation cut database body).1 = .error failure := by
  unfold withTransaction
  cases body with
  | error failure => exact ⟨_, rfl⟩
  | ok result =>
      cases cut with
      | completes => exact absurd rfl short
      | failsBeforeCommit => exact ⟨_, rfl⟩
      | failsAfterCommit => exact ⟨_, rfl⟩

theorem sqliteStoreStep_cut {cut : SqliteCut} (short : cut ≠ .completes) (request : JournalRequest)
    (state : SqliteState) :
    ∃ failure, (sqliteStoreStep kernel platform request cut state).1 = .error failure := by
  cases request with
  | beginRun runId beginning =>
      obtain ⟨failure, failed⟩ := @withTransaction_cut _ .beginRun cut short state.database
        (sqliteBeginRunBody kernel platform state.database runId beginning)
      exact ⟨failure, by simp [sqliteStoreStep, sqliteBeginRun, failed, Except.map]⟩
  | append runId key event =>
      obtain ⟨failure, failed⟩ := @withTransaction_cut _ .append cut short state.database
        (sqliteAppendBody kernel platform state runId key event)
      exact ⟨failure, by simp [sqliteStoreStep, sqliteAppend, failed]⟩
  | read runId =>
      obtain ⟨failure, failed⟩ := @withTransaction_cut _ .read cut short state.database
        ((sqliteReadBody kernel platform state runId).map fun snapshot => (snapshot, state.database))
      exact ⟨failure, by simp [sqliteStoreStep, sqliteRead, failed]⟩
  | terminateRun runId disposition evidence now =>
      obtain ⟨failure, failed⟩ := @withTransaction_cut _ .terminateRun cut short state.database
        (sqliteTerminateRunBody kernel platform state.database runId disposition evidence now)
      exact ⟨failure, by simp [sqliteStoreStep, sqliteTerminateRun, failed, Except.map]⟩
  | retireTerminalRun runId =>
      obtain ⟨failure, failed⟩ := @withTransaction_cut _ .retireTerminalRun cut short state.database
        (sqliteRetireBody kernel platform state.database runId)
      exact ⟨failure, by simp [sqliteStoreStep, sqliteRetireTerminalRun, failed, Except.map]⟩

theorem storageCall_failsBeforeCommit (request : JournalRequest) (run : StoredRun) :
    (storageCall kernel request .failsBeforeCommit run).2 = run := by
  unfold storageCall
  split <;> rfl

theorem storageCall_failsAfterCommit (request : JournalRequest) (runs : RunId → StoredRun) :
    Function.update runs request.runId
        (storageCall kernel request .failsAfterCommit (runs request.runId)).2 =
      (journalStep kernel request runs).2 := by
  unfold storageCall journalStep
  cases (runs request.runId).answer kernel request with
  | error failure => exact Function.update_eq_self request.runId runs
  | ok answer => rfl

/-- An operation of SQLite that keeps its tables is a storage call: a response that is lost leaves
the Run as one of the two cuts does. -/
theorem sqliteStoreStep_storageCall (keeps : state.Keeps kernel platform runs) (cut : SqliteCut)
    {request : JournalRequest} (storable : request.Storable platform) :
    ∃ ended, (sqliteStoreStep kernel platform request cut state).2.Keeps kernel platform
        (Function.update runs request.runId
          (storageCall kernel request ended (runs request.runId)).2) ∧
      ∀ answer, (sqliteStoreStep kernel platform request cut state).1 = .ok answer →
        (storageCall kernel request ended (runs request.runId)).1 = .ok answer := by
  obtain ⟨after, effect, kept, completes⟩ := sqliteStoreStep_keeps keeps cut storable
  by_cases whole : cut = .completes
  · obtain ⟨rfl, alike⟩ := completes whole
    refine ⟨.completes, ?_⟩
    unfold journalStep at kept alike
    unfold storageCall
    cases answered : (runs request.runId).answer kernel request with
    | error failure =>
        rw [answered] at kept alike
        refine ⟨by rwa [Function.update_eq_self], ?_⟩
        intro answer acknowledged
        rw [acknowledged] at alike
        cases alike
    | ok result =>
        rw [answered] at kept alike
        refine ⟨kept, ?_⟩
        intro answer acknowledged
        rw [acknowledged] at alike
        exact alike.eq_ok
  · obtain ⟨failure, failed⟩ := @sqliteStoreStep_cut kernel platform cut whole request state
    rcases effect with same | committed
    · refine ⟨.failsBeforeCommit, ?_, by simp [failed]⟩
      rw [storageCall_failsBeforeCommit, Function.update_eq_self, ← same]
      exact kept
    · refine ⟨.failsAfterCommit, ?_, by simp [failed]⟩
      rw [storageCall_failsAfterCommit, ← committed]
      exact kept

/-- Storage as the live journals of all Runs use it. -/
def storageStep (kernel : HistoryKernel) (call : JournalRequest × SqliteCut)
    (runs : RunId → StoredRun) :
    Except JournalStoreFailure JournalAnswer × (RunId → StoredRun) :=
  let (answer, run) := storageCall kernel call.1 call.2 (runs call.1.runId)
  (answer, Function.update runs call.1.runId run)

def sqliteCall (kernel : HistoryKernel) (platform : SqlitePlatform)
    (call : JournalRequest × SqliteCut) (state : SqliteState) :
    Except JournalStoreFailure JournalAnswer × SqliteState :=
  sqliteStoreStep kernel platform call.1 call.2 state

def Acknowledges (answer stored : Except JournalStoreFailure JournalAnswer) : Prop :=
  ∀ acknowledged, answer = .ok acknowledged → stored = .ok acknowledged

/-- Every run of the SQLite store, whatever responses it loses, is a run of storage calls: they
acknowledge what it acknowledges, and its tables represent the Runs that they leave. -/
theorem sqliteCalls_refine_storage {calls : List (JournalRequest × SqliteCut)}
    (keeps : state.Keeps kernel platform runs)
    (storable : ∀ call ∈ calls, call.1.Storable platform) :
    ∃ stored : List (JournalRequest × SqliteCut), stored.map Prod.fst = calls.map Prod.fst ∧
      List.Forall₂ Acknowledges (Machine.run (sqliteCall kernel platform) state calls).1
        (Machine.run (storageStep kernel) runs stored).1 ∧
      (Machine.run (sqliteCall kernel platform) state calls).2.Keeps kernel platform
        (Machine.run (storageStep kernel) runs stored).2 := by
  -- the cut of each storage call is the one that its operation really came to
  induction calls generalizing state runs with
  | nil => exact ⟨[], rfl, .nil, keeps⟩
  | cons call calls induction =>
      rw [List.forall_mem_cons] at storable
      obtain ⟨ended, kept, acknowledged⟩ := sqliteStoreStep_storageCall keeps call.2 storable.1
      obtain ⟨stored, same, alike, final⟩ := induction kept storable.2
      refine ⟨(call.1, ended) :: stored, ?_, .cons acknowledged alike, final⟩
      rw [List.map_cons, List.map_cons, same]

end Sqlite

namespace CancelledRun

def lostBeginning : List (JournalRequest × SqliteCut) :=
  [(.beginRun runId beginning, .failsAfterCommit), (.read runId, .completes)]

theorem lostBeginning_refines_storage : ∃ stored : List (JournalRequest × SqliteCut),
    stored.map Prod.fst = lostBeginning.map Prod.fst ∧
      List.Forall₂ Acknowledges
        (Machine.run (sqliteCall kernel platform) emptySqliteState lostBeginning).1
        (Machine.run (storageStep kernel) emptyJournal stored).1 := by
  have storable : ∀ call ∈ lostBeginning, call.1.Storable platform := by
    simp only [lostBeginning, List.forall_mem_cons]
    exact ⟨⟨rfl, beginning_encodes⟩, trivial, by simp⟩
  obtain ⟨stored, same, alike, -⟩ := sqliteCalls_refine_storage emptySqliteState_keeps storable
  exact ⟨stored, same, alike⟩

end CancelledRun

/-- The published records are the first stored ones, numbered from one. -/
structure PublishedPrefix (records : List LiveRecord) (position : JournalPosition)
    (stored : List JournalRecord) : Prop where
  isPrefix : records.map (·.record) <+: stored
  last : position = records.length

/-- The Run is consistent and what is published of it is a prefix of it. -/
structure LiveJournal.Coherent (kernel : HistoryKernel) (runId : RunId) (journal : LiveJournal) :
    Prop where
  consistent : journal.run.Consistent kernel runId
  published : ∀ records position, journal.status = .journalOpen records position →
    PublishedPrefix records position journal.run.records

section Coherent

variable {history : LiveHistory} {runId : RunId} {records : List LiveRecord}
  {position : JournalPosition} {run : StoredRun} {journal : LiveJournal}

variable {stored : List JournalRecord}

section

variable (published : PublishedPrefix records position stored)
include published

theorem PublishedPrefix.mono {later : List JournalRecord} (kept : stored <+: later) :
    PublishedPrefix records position later :=
  ⟨published.isPrefix.trans kept, published.last⟩

variable (sequence : RecordSequence runId stored)
include sequence

theorem PublishedPrefix.positions :
    records.map (·.record.position) = List.range' 1 records.length := by
  obtain ⟨rest, split⟩ := published.isPrefix
  have counted := congrArg (List.take records.length) sequence.positions
  rw [← split, List.map_append, List.map_map, List.take_left' (by simp), List.length_append,
    List.length_map, ← List.range'_append_1, List.take_left' (by simp)] at counted
  exact counted

theorem PublishedPrefix.position_le {accepted : LiveRecord} (listed : accepted ∈ records) :
    accepted.record.position ≤ position := by
  have member : accepted.record.position ∈ records.map (·.record.position) :=
    List.mem_map_of_mem listed
  rw [published.positions sequence, List.mem_range'_1] at member
  rw [published.last]
  exact Nat.lt_add_one_iff.mp (Nat.add_comm 1 _ ▸ member.2)

theorem PublishedPrefix.extended {acknowledged : LiveRecord} (held : acknowledged.record ∈ stored)
    (next : acknowledged.record.position = position + 1) :
    PublishedPrefix (records ++ [acknowledged]) acknowledged.record.position stored := by
  obtain ⟨index, bound, found⟩ := List.mem_iff_getElem.mp held
  have offset : index = records.length := by
    have counted := sequence.position_getElem index bound
    rw [found, next, published.last] at counted
    exact (Nat.succ.inj counted).symm
  subst offset
  refine ⟨?_, ?_⟩
  · rw [List.map_append, List.map_singleton, ← found]
    have taken := List.prefix_iff_eq_take.mp published.isPrefix
    rw [List.length_map] at taken
    rw [taken, List.take_append_getElem bound]
    exact List.take_prefix _ _
  · rw [next, published.last, List.length_append, List.length_singleton]

end

section

variable (consistent : run.Consistent history.toHistoryKernel runId)
include consistent

theorem coherent_open (published : PublishedPrefix records position run.records) :
    LiveJournal.Coherent history.toHistoryKernel runId ⟨.journalOpen records position, run⟩ :=
  ⟨consistent, fun _ _ opened => by cases opened; exact published⟩

theorem coherent_failed (failure : JournalError) :
    LiveJournal.Coherent history.toHistoryKernel runId (failJournal run failure).2 :=
  ⟨consistent, nofun⟩

theorem acceptAcknowledgedRecord_coherent (published : PublishedPrefix records position run.records)
    {acknowledged : LiveRecord} (held : acknowledged.record ∈ run.records) :
    (acceptAcknowledgedRecord history runId records position run acknowledged).2.Coherent
      history.toHistoryKernel runId := by
  unfold acceptAcknowledgedRecord
  dsimp only
  split_ifs with earlier same gap
  · exact coherent_open consistent published
  · exact coherent_failed consistent _
  · exact coherent_failed consistent _
  · split
    · exact coherent_open consistent
        (published.extended consistent.sequence held (not_not.mp gap))
    · exact coherent_failed consistent _

theorem appendStored_coherent (published : PublishedPrefix records position run.records)
    (key : JournalRecordKey) (event : AppendableEventValue) (cut : SqliteCut) :
    (appendStored history runId records position run key event cut).2.Coherent
      history.toHistoryKernel runId := by
  have keeps := @storageCall_keeps history.toHistoryKernel run (.append runId key event.fact)
    consistent cut
  unfold appendStored
  split
  next record next called =>
    rw [called] at keeps
    obtain ⟨held, listed, sameAnswer, -⟩ :=
      StoredRun.held_of_append consistent (storageCall_ok called).2
    cases sameAnswer
    exact acceptAcknowledgedRecord_coherent keeps.1 (published.mono keeps.2) listed
  next called =>
    rw [called] at keeps
    exact coherent_open keeps.1 (published.mono keeps.2)
  next called =>
    rw [called] at keeps
    exact coherent_open keeps.1 (published.mono keeps.2)

end

theorem reconcileTermination_mem {failure : JournalStoreFailure} {stored : List LiveRecord}
    {terminal : LiveRecord}
    (found : reconcileTermination history runId records position failure stored =
      .inr (.inr terminal)) : terminal ∈ stored := by
  unfold reconcileTermination at found
  split at found
  · cases found
  · split at found
    · cases found
    · split at found
      · cases found
      next listed =>
        cases found
        exact List.mem_of_find?_eq_some listed

theorem terminalRecord_keeps (consistent : run.Consistent history.toHistoryKernel runId)
    {disposition : RunTerminationDisposition} {evidence : RunFinalityEvidence}
    {now : RunCompletionTime} {cut readCut : SqliteCut} {object : JournalRecord → Json}
    {outcome : JournalCallFailure ⊕ JournalError ⊕ LiveRecord} {final : StoredRun}
    (answered : terminalRecord history runId records position run disposition evidence now cut
      readCut object = (outcome, final)) :
    final.Consistent history.toHistoryKernel runId ∧ run.records <+: final.records ∧
      ∀ terminal, outcome = .inr (.inr terminal) → terminal.record ∈ final.records := by
  have keeps := @storageCall_keeps history.toHistoryKernel run
    (.terminateRun runId disposition evidence now) consistent cut
  unfold terminalRecord at answered
  split at answered
  next record next called =>
    rw [called] at keeps
    cases answered
    refine ⟨keeps.1, keeps.2, ?_⟩
    intro terminal same
    rw [Sum.inr.injEq, Sum.inr.injEq] at same
    rw [← same]
    exact StoredRun.held_of_termination (storageCall_ok called).2
  next called =>
    rw [called] at keeps
    cases answered
    exact ⟨keeps.1, keeps.2, fun _ same => absurd same Sum.inl_ne_inr⟩
  next failure next called =>
    rw [called] at keeps
    have rereads := @storageCall_keeps history.toHistoryKernel next (.read runId) keeps.1 readCut
    split at answered
    next stored read reread =>
      rw [reread] at rereads
      cases answered
      refine ⟨rereads.1, keeps.2.trans rereads.2, ?_⟩
      intro terminal found
      obtain ⟨record, held, rfl⟩ := List.mem_map.mp (reconcileTermination_mem found)
      rwa [StoredRun.records_of_read (storageCall_ok reread).2]
    next reread =>
      rw [reread] at rereads
      cases answered
      exact ⟨rereads.1, keeps.2.trans rereads.2, fun _ same => absurd same Sum.inl_ne_inr⟩
    next reread =>
      rw [reread] at rereads
      cases answered
      exact ⟨rereads.1, keeps.2.trans rereads.2, fun _ same => absurd same Sum.inl_ne_inr⟩

theorem liveTerminate_coherent (coherent : journal.Coherent history.toHistoryKernel runId)
    (disposition : RunTerminationDisposition) (evidence : RunFinalityEvidence)
    (now : RunCompletionTime) (cut readCut : SqliteCut) (object : JournalRecord → Json) :
    (liveTerminate history runId disposition evidence now cut readCut object journal).2.Coherent
      history.toHistoryKernel runId := by
  unfold liveTerminate
  split
  · exact coherent
  next records position opened =>
    have published := coherent.published records position opened
    split
    next answered =>
      obtain ⟨consistent, kept, -⟩ := terminalRecord_keeps coherent.consistent answered
      exact coherent_open consistent (published.mono kept)
    next answered =>
      exact coherent_failed (terminalRecord_keeps coherent.consistent answered).1 _
    next terminal next answered =>
      obtain ⟨consistent, kept, held⟩ := terminalRecord_keeps coherent.consistent answered
      split_ifs
      · exact acceptAcknowledgedRecord_coherent consistent (published.mono kept)
          (held terminal rfl)
      · exact coherent_failed consistent _

theorem liveStep_coherent (call : JournalCall)
    (coherent : journal.Coherent history.toHistoryKernel runId) :
    (liveStep history runId call journal).2.Coherent history.toHistoryKernel runId := by
  cases call with
  | append requested key event cut =>
      simp only [liveStep, liveAppend]
      split_ifs
      · exact coherent
      · split
        · exact coherent
        next opened =>
          exact appendStored_coherent coherent.consistent (coherent.published _ _ opened) key event
            cut
  | appendIfAcceptedPrefixCurrent requested expectedPosition key event cut =>
      simp only [liveStep, appendIfAcceptedPrefixCurrent]
      split_ifs
      · exact coherent
      · split
        · exact coherent
        next opened =>
          split_ifs
          · exact coherent
          · exact appendStored_coherent coherent.consistent (coherent.published _ _ opened) key
              event cut
  | terminate disposition evidence now cut readCut object =>
      exact liveTerminate_coherent coherent disposition evidence now cut readCut object

theorem liveAfter_coherent (coherent : journal.Coherent history.toHistoryKernel runId)
    (calls : List JournalCall) :
    (liveAfter history runId journal calls).Coherent history.toHistoryKernel runId :=
  Machine.run_preserves (fun call _ => liveStep_coherent call) coherent calls

theorem makeJournal_coherent {historyRunId : RunId}
    (opened : makeJournal runId historyRunId records run = .ok journal)
    (consistent : run.Consistent history.toHistoryKernel runId)
    (loaded : records.map (·.record) = run.records) :
    journal.Coherent history.toHistoryKernel runId := by
  unfold makeJournal at opened
  split at opened
  next first last _ ending =>
    split_ifs at opened
    cases opened
    refine coherent_open consistent ⟨by rw [loaded], ?_⟩
    have sequence := consistent.sequence
    rw [← loaded] at sequence
    rw [List.getLast?_eq_getElem?] at ending
    obtain ⟨bound, same⟩ := List.getElem?_eq_some_iff.mp ending
    have counted := sequence.position_getElem (records.length - 1) (by simpa using bound)
    rw [List.getElem_map, same] at counted
    rw [counted]
    exact Nat.succ_pred_eq_of_pos (Nat.lt_of_le_of_lt (Nat.zero_le _) bound)
  next => cases opened

end Coherent

theorem LiveRecord.text_eq_iff {left right : LiveRecord} (same : left.record = right.record) :
    left.text = right.text ↔ left.object.stringify = right.object.stringify := by
  unfold LiveRecord.text LiveRecord.json Json.stringify
  rw [same]
  simp only [Json.print, String.ofList_inj, List.cons.injEq, true_and, List.append_cancel_left_eq,
    List.append_cancel_right_eq]

/-- The call appends the key and the event of a published record again, and storage answers it. -/
structure JournalCall.Repeats (runId : RunId) (call : JournalCall) (journal : LiveJournal)
    (accepted : LiveRecord) (event : AppendableEventValue) : Prop where
  /-- The call reaches storage. -/
  appends : call = .append runId accepted.record.key event .completes ∨
    ∃ records position, journal.status = .journalOpen records position ∧
      call = .appendIfAcceptedPrefixCurrent runId position accepted.record.key event .completes
  published : ∃ records position, journal.status = .journalOpen records position ∧
    accepted ∈ records
  sameEvent : event.fact.event = accepted.record.event
  incomplete : journal.run.completion = none

/-- What one call must not break. -/
structure CallCoherent (history : LiveHistory) (runId : RunId) (journal : LiveJournal)
    (call : JournalCall) : Prop where
  /-- The published records are the first stored ones, and their positions count from one. -/
  published : ∀ records position,
    (liveStep history runId call journal).2.status = .journalOpen records position →
      records.map (·.record) <+: (liveStep history runId call journal).2.run.records ∧
        records.map (·.record.position) = List.range' 1 records.length ∧ position = records.length
  /-- A conditional append reaches storage only when no record stands after the expected one. -/
  conditional : ∀ requested expectedPosition key event cut,
    call = .appendIfAcceptedPrefixCurrent requested expectedPosition key event cut →
      ((liveStep history runId call journal).2.run ≠ journal.run ∨
        ∃ record, (liveStep history runId call journal).1 = .record record) →
      ∃ records, journal.status = .journalOpen records expectedPosition ∧
        ∀ accepted ∈ records, accepted.record.position ≤ expectedPosition
  /-- A repeated append returns the accepted record and keeps the journal open. -/
  repeated : ∀ accepted event, call.Repeats runId journal accepted event →
    (liveStep history runId call journal).2 = journal ∧
      ∃ returned, (liveStep history runId call journal).1 = .record returned ∧
        returned.record = accepted.record
  /-- A failed journal publishes nothing and writes nothing. -/
  failed : ∀ failure, journal.status = .journalFailed failure →
    (liveStep history runId call journal).2 = journal ∧
      ∃ reported, (liveStep history runId call journal).1 = .failed reported

def JournalCall.KeepsText (runId : RunId) (call : JournalCall) (journal : LiveJournal) : Prop :=
  ∀ accepted event, call.Repeats runId journal accepted event →
    event.object.stringify = accepted.object.stringify

section Calls

variable {history : LiveHistory} {runId : RunId} {records : List LiveRecord}
  {position : JournalPosition} {journal : LiveJournal} {call : JournalCall}
  {accepted : LiveRecord} {event : AppendableEventValue}

theorem liveStep_failed {failure : JournalError} (failed : journal.status = .journalFailed failure)
    (call : JournalCall) :
    (liveStep history runId call journal).2 = journal ∧
      ∃ reported, (liveStep history runId call journal).1 = .failed reported := by
  cases call with
  | append requested key event cut =>
      simp only [liveStep, liveAppend, failed]
      split_ifs <;> exact ⟨rfl, _, rfl⟩
  | appendIfAcceptedPrefixCurrent requested expectedPosition key event cut =>
      simp only [liveStep, appendIfAcceptedPrefixCurrent, failed]
      split_ifs <;> exact ⟨rfl, _, rfl⟩
  | terminate disposition evidence now cut readCut object =>
      simp only [liveStep, liveTerminate, failed]
      exact ⟨trivial, _, rfl⟩

theorem expected_of_conditional {requested : RunId} {expectedPosition : JournalPosition}
    {key : JournalRecordKey} {cut : SqliteCut}
    (reached : (appendIfAcceptedPrefixCurrent history runId requested expectedPosition key event cut
        journal).2.run ≠ journal.run ∨
      ∃ record, (appendIfAcceptedPrefixCurrent history runId requested expectedPosition key event
        cut journal).1 = .record record) :
    ∃ records, journal.status = .journalOpen records expectedPosition := by
  unfold appendIfAcceptedPrefixCurrent at reached
  split_ifs at reached
  · simp at reached
  · split at reached
    · simp at reached
    next records position opened =>
      split_ifs at reached with current
      · simp at reached
      · exact ⟨records, by rw [opened, not_not.mp current]⟩

section

variable (coherent : journal.Coherent history.toHistoryKernel runId)
include coherent

section

variable (opened : journal.status = .journalOpen records position) (listed : accepted ∈ records)
include opened listed

theorem replays_of_published (sameEvent : event.fact.event = accepted.record.event)
    (incomplete : journal.run.completion = none) :
    storageCall history.toHistoryKernel (.append runId accepted.record.key event.fact) .completes
      journal.run = (.ok (.record accepted.record), journal.run) := by
  have held : accepted.record ∈ journal.run.records :=
    (coherent.published records position opened).isPrefix.subset (List.mem_map_of_mem listed)
  have found := coherent.consistent.sequence.find_key_eq held
  simp [storageCall, StoredRun.answer, incomplete, found, sameEvent]

theorem find_published : records.find? (·.record.key = accepted.record.key) = some accepted := by
  have distinct : (records.map (·.record.key)).Nodup := by
    have kept := (coherent.published records position opened).isPrefix.sublist.map (·.key)
    rw [List.map_map] at kept
    exact kept.nodup coherent.consistent.sequence.distinctKeys
  cases found : records.find? (·.record.key = accepted.record.key) with
  | none => simpa using List.find?_eq_none.mp found accepted listed
  | some other =>
      have sameKey : other.record.key = accepted.record.key := by simpa using List.find?_some found
      rw [List.inj_on_of_nodup_map distinct (List.mem_of_find?_eq_some found) listed sameKey]

theorem appendStored_repeated (sameEvent : event.fact.event = accepted.record.event)
    (incomplete : journal.run.completion = none) :
    appendStored history runId records position journal.run accepted.record.key event .completes =
      if event.object.stringify = accepted.object.stringify then
        (.record ⟨accepted.record, event.object⟩, journal)
      else failJournal journal.run
        (.journalRecordMismatch accepted.record.position accepted.record.key runId) := by
  have published := coherent.published records position opened
  have earlier := published.position_le coherent.consistent.sequence listed
  have sameText : accepted.text = LiveRecord.text ⟨accepted.record, event.object⟩ ↔
      event.object.stringify = accepted.object.stringify :=
    (@LiveRecord.text_eq_iff accepted ⟨accepted.record, event.object⟩ rfl).trans eq_comm
  obtain ⟨status, run⟩ := journal
  subst opened
  simp only [appendStored, replays_of_published coherent rfl listed sameEvent incomplete,
    acceptAcknowledgedRecord, if_pos earlier, find_published coherent rfl listed, Option.map_some,
    Option.some.injEq, sameText]

end

theorem liveStep_repeated (repeats : call.Repeats runId journal accepted event) :
    liveStep history runId call journal =
      if event.object.stringify = accepted.object.stringify then
        (.record ⟨accepted.record, event.object⟩, journal)
      else failJournal journal.run
        (.journalRecordMismatch accepted.record.position accepted.record.key runId) := by
  obtain ⟨appends, ⟨records, position, opened, listed⟩, sameEvent, incomplete⟩ := repeats
  have stored := appendStored_repeated coherent opened listed sameEvent incomplete
  rcases appends with rfl | ⟨others, current, reopened, rfl⟩
  · simpa only [liveStep, liveAppend, ne_eq, not_true_eq_false, if_false, opened] using stored
  · rw [opened] at reopened
    cases reopened
    simpa only [liveStep, appendIfAcceptedPrefixCurrent, ne_eq, not_true_eq_false, if_false, opened]
      using stored

theorem LiveJournal.Coherent.callCoherent_iff :
    CallCoherent history runId journal call ↔ call.KeepsText runId journal := by
  constructor
  · intro kept accepted event repeats
    obtain ⟨-, returned, answered, -⟩ := kept.repeated accepted event repeats
    rw [liveStep_repeated coherent repeats] at answered
    by_contra differs
    rw [if_neg differs] at answered
    cases answered
  · intro sameText
    have after := liveStep_coherent call coherent
    refine ⟨?_, ?_, ?_, fun failure failed => liveStep_failed failed call⟩
    · intro records position opened
      have published := after.published records position opened
      exact ⟨published.isPrefix, published.positions after.consistent.sequence, published.last⟩
    · rintro requested expectedPosition key event cut rfl reached
      obtain ⟨records, opened⟩ := expected_of_conditional reached
      have published := coherent.published records expectedPosition opened
      refine ⟨records, opened, ?_⟩
      exact fun accepted => published.position_le coherent.consistent.sequence
    · intro accepted event repeats
      rw [liveStep_repeated coherent repeats, if_pos (sameText accepted event repeats)]
      exact ⟨rfl, _, rfl, rfl⟩

end

end Calls

/-- In every run of a journal that bootstrap opened, a call breaks nothing exactly when a repeated
append keeps the text of its event. -/
theorem liveJournal_callCoherent_iff {history : LiveHistory} {runId historyRunId : RunId}
    {records : List LiveRecord} {run : StoredRun} {journal : LiveJournal}
    (opened : makeJournal runId historyRunId records run = .ok journal)
    (consistent : run.Consistent history.toHistoryKernel runId)
    (loaded : records.map (·.record) = run.records) (calls : List JournalCall)
    (call : JournalCall) :
    CallCoherent history runId (liveAfter history runId journal calls) call ↔
      call.KeepsText runId (liveAfter history runId journal calls) :=
  (liveAfter_coherent (makeJournal_coherent opened consistent loaded) calls).callCoherent_iff

namespace RepeatedCancellation

def runId : RunId := ⟨"r1.repeated-cancellation", by decide⟩

def beginning : LiveRecord :=
  ⟨makeWorkflowRunBeganRecord runId CancelledRun.beginning,
    .obj [("_tag", .str "WorkflowRunBegan")]⟩

def history : LiveHistory :=
  { CancelledRun.kernel with advanceIssues := fun _ _ => [] }

def run : StoredRun :=
  { StoredRun.unknown with hot := some [beginning.record] }

def journal : LiveJournal :=
  ⟨.journalOpen [beginning] 1, run⟩

def cancellation : AppendableEventValue :=
  ⟨runCancellationFact, .obj [("_tag", .str "RunCancellationApplied"),
    ("initiatedBy", .obj [("_tag", .str "Operator")]),
    ("occurrenceClassification", .str "InitiatedAction"), ("version", .num 15)]⟩

def reordered : AppendableEventValue :=
  ⟨runCancellationFact, .obj [("version", .num 15), ("_tag", .str "RunCancellationApplied"),
    ("initiatedBy", .obj [("_tag", .str "Operator")]),
    ("occurrenceClassification", .str "InitiatedAction")]⟩

def accepted : LiveRecord :=
  ⟨⟨.runCancellationApplied, runCancellationAppliedRecordKey, 2, runId⟩, cancellation.object⟩

def calls : List JournalCall :=
  [.append runId runCancellationAppliedRecordKey cancellation .completes]

def call (event : AppendableEventValue) : JournalCall :=
  .append runId runCancellationAppliedRecordKey event .completes

theorem run_consistent : run.Consistent history.toHistoryKernel runId where
  hotOrCold := .inr rfl
  nonempty := ⟨by simp [run], nofun⟩
  archivedCold := rfl
  deletedCompleted := nofun
  sequence := .singleton rfl rfl
  completed := by
    simp [run, StoredRun.unknown, StoredRun.records, endsTerminated, beginning,
      makeWorkflowRunBeganRecord, WorkflowJournalEvent.isRunTerminated, WorkflowJournalEvent.tag]
  compacted := nofun
  coldValid := nofun

theorem opened : makeJournal runId runId [beginning] run = .ok journal := rfl

theorem cancelled : liveAfter history runId journal calls =
    ⟨.journalOpen [beginning, accepted] 2,
      { run with hot := some [beginning.record, accepted.record] }⟩ := rfl

theorem repeats (event : AppendableEventValue) (same : event.fact = runCancellationFact) :
    (call event).Repeats runId (liveAfter history runId journal calls) accepted event where
  appends := .inl rfl
  published := ⟨[beginning, accepted], 2, by rw [cancelled], by simp⟩
  sameEvent := by rw [same]; rfl
  incomplete := rfl

theorem texts_differ : reordered.object.stringify ≠ accepted.object.stringify := by
  intro same
  -- The texts differ at the first letter of the first member's name.
  have letters := congrArg (·[2]?) (String.ofList_injective same)
  simp [reordered, accepted, cancellation, Json.print, Json.printString, Json.escapeChar] at letters

/-- A cancellation repeated as it was first written keeps the journal coherent. -/
theorem coherent_when_repeated_verbatim :
    CallCoherent history runId (liveAfter history runId journal calls) (call cancellation) := by
  refine (liveJournal_callCoherent_iff opened run_consistent rfl calls (call cancellation)).mpr ?_
  intro found event repeated
  rcases repeated.appends with same | ⟨_, _, _, other⟩
  · obtain ⟨records, position, published, listed⟩ := repeated.published
    rw [cancelled] at published
    cases published
    obtain ⟨-, -, rfl, -⟩ := JournalCall.append.inj same
    simp only [List.mem_cons, List.not_mem_nil, or_false] at listed
    rcases listed with rfl | rfl
    · exact absurd repeated.sameEvent (by decide)
    · rfl
  · cases other

/-- The same cancellation with its members in another order fails the journal, although storage
replays it. -/
theorem journal_fails_on_reordered_repetition :
    ¬ CallCoherent history runId (liveAfter history runId journal calls) (call reordered) ∧
      reordered.fact = cancellation.fact ∧
      (liveStep history runId (call reordered) (liveAfter history runId journal calls)).2.status =
        .journalFailed (.journalRecordMismatch 2 runCancellationAppliedRecordKey runId) := by
  have repeated := repeats reordered rfl
  have answered := liveStep_repeated
    (liveAfter_coherent (makeJournal_coherent opened run_consistent rfl) calls) repeated
  rw [if_neg texts_differ] at answered
  refine ⟨?_, rfl, congrArg (fun outcome => outcome.2.status) answered⟩
  intro coherent
  obtain ⟨-, returned, same, -⟩ := coherent.repeated accepted reordered repeated
  rw [answered] at same
  cases same

end RepeatedCancellation

end Dalph
