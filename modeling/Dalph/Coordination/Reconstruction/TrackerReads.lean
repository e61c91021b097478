import Dalph.Coordination.Reconstruction.UnfinishedAttempts

/-!
# Tracker reads of an accepted history

The facts that a read observed need the earlier intent of the read, and must answer the read that the
intent names.  What holds of every accepted record is carried along the replay that accepted it.
-/

namespace Dalph

section

variable {checks : RemainingChecks} {runId : RunId} {replay : HistoryReplay}
  {records : List JournalRecord}

/-- The checks of the records from an index on find nothing. -/
inductive ReplayedHistory (checks : RemainingChecks) (runId : RunId) (replay : HistoryReplay)
    (records : List JournalRecord) : Nat → List JournalRecord → HistoryIndexes checks → Prop where
  | done (index : Nat) (indexes : HistoryIndexes checks) :
      ReplayedHistory checks runId replay records index [] indexes
  | step {index : Nat} {record : JournalRecord} {rest : List JournalRecord}
      {indexes : HistoryIndexes checks}
      (silent : (validateHistoryRecord checks runId record index (replay.source records index)
        indexes).issues = [])
      (remaining : ReplayedHistory checks runId replay records (index + 1) rest
        (validateHistoryRecord checks runId record index (replay.source records index)
          indexes).indexes) :
      ReplayedHistory checks runId replay records index (record :: rest) indexes

namespace ReplayedHistory

variable {rest : List JournalRecord} {indexes : HistoryIndexes checks}

variable {history : ValidWorkflowJournalHistory checks}

theorem kernel {index : Nat}
    (replayed : ReplayedHistory checks runId replay records index rest indexes) :
    (replayKernelFrom replay runId records index rest indexes.kernel).issues = [] := by
  induction replayed with
  | done => rfl
  | step silent _ induction =>
      rw [replayKernelFrom, List.append_eq_nil_iff]
      exact ⟨(List.append_eq_nil_iff.mp silent).1, induction⟩

theorem canonical
    (replayed : ReplayedHistory checks runId replay records 0 records (emptyHistoryIndexes checks)) :
    Canonical runId records := by
  have kernelReplayed : KernelReplayed replay runId records := replayed.kernel
  exact kernelReplayed.accepted.canonical

theorem invariant {Holds : List JournalRecord → HistoryIndexes checks → Prop}
    (preserved : ∀ before record after indexes, records = before ++ record :: after →
      Holds before indexes →
      (validateHistoryRecord checks runId record before.length
        (replay.source records before.length) indexes).issues = [] →
      Holds (before ++ [record]) (validateHistoryRecord checks runId record before.length
        (replay.source records before.length) indexes).indexes)
    {before rest : List JournalRecord} {indexes : HistoryIndexes checks}
    (split : records = before ++ rest)
    (replayed : ReplayedHistory checks runId replay records before.length rest indexes)
    (held : Holds before indexes) :
    ∃ last, Holds records last := by
  induction rest generalizing before indexes with
  | nil =>
      rw [List.append_nil] at split
      exact ⟨indexes, split ▸ held⟩
  | cons record rest induction =>
      cases replayed with
      | step silent remaining =>
          apply induction (by rw [split, List.append_assoc, List.singleton_append]) _
            (preserved before record rest indexes split held silent)
          rw [List.length_append]
          exact remaining

end ReplayedHistory

end

def keyedCandidates (source : JournalHistorySource) (key : JournalRecordKey) : List JournalRecord :=
  match source with
  | .raw records => records
  | .indexed _ => (journalRecordByKey key source).toList

def intendsTrackerRead (operationId : OperationId) (record : JournalRecord) : Bool :=
  record.trackerRead?.any fun read => read.operationId = operationId

def findTrackerReadIntent (source : JournalHistorySource) (operationId : OperationId)
    (observedAt : JournalPosition) : Option JournalRecord :=
  (keyedCandidates source (intentRecordKey operationId)).find? fun record =>
    record.position < observedAt && intendsTrackerRead operationId record

def answersIntent (observation : TaskTrackerFactsObservation) (intent : JournalRecord) : Bool :=
  intent.trackerRead?.any (taskTrackerObservationMatchesRead observation)

def validateTrackerObservation (record : JournalRecord) (source : JournalHistorySource) :
    List String :=
  match record.trackerFacts? with
  | none => []
  | some observation =>
      match findTrackerReadIntent source observation.operationId record.position with
      | none => []
      | some intent =>
          issueUnless (answersIntent observation intent)
            s!"task-tracker facts contradict initiating read {observation.operationId.value}"

def validateTrackerPredecessor (record : JournalRecord) (intended : KeySet OperationId) :
    List String :=
  match record.trackerFacts? with
  | none => []
  | some observation =>
      issueUnless (observation.operationId ∈ intended)
        ("event TaskTrackerFactsObserved requires prior TaskTrackerReadIntentRecorded for " ++
          s!"operation {observation.operationId.value}")

/-- The checks of tracker reads, with the operations that were intended; a repeated key ends them. -/
def trackerReadChecks : RemainingChecks where
  Kept := KeySet OperationId
  nothing := .empty
  record record _ _ source indexes intended :=
    if record.key ∈ indexes.fold.seenKeys then (intended, [])
    else
      (intended.add? (record.trackerRead?.map (·.operationId)),
        validateTrackerPredecessor record intended ++ validateTrackerObservation record source)
  lifecycle _ _ := []

def AnswersEarlierRead (records : List JournalRecord) (record : JournalRecord)
    (observation : TaskTrackerFactsObservation) : Prop :=
  ∃ intent ∈ records, intent.position < record.position ∧
    intendsTrackerRead observation.operationId intent = true ∧
      answersIntent observation intent = true

/-- What is kept and what was checked behind some records. -/
structure TrackerReadsTrack (records : List JournalRecord) (intended : KeySet OperationId) :
    Prop where
  intended : ∀ operationId ∈ intended,
    ∃ intent ∈ records, intendsTrackerRead operationId intent = true
  answered : ∀ record ∈ records, ∀ observation, record.trackerFacts? = some observation →
    AnswersEarlierRead records record observation

section

variable {runId : RunId} {replay : HistoryReplay} {before after : List JournalRecord}
  {record : JournalRecord} {operationId : OperationId}

theorem expectedKey_of_intendsTrackerRead
    (intends : intendsTrackerRead operationId record = true) :
    record.event.expectedKey = intentRecordKey operationId := by
  rw [intendsTrackerRead, JournalRecord.trackerRead?] at intends
  split at intends
  · next read recorded =>
      rw [recorded]
      exact congrArg intentRecordKey (of_decide_eq_true intends)
  · cases intends

theorem findTrackerReadIntent_isSome (canonical : Canonical runId (before ++ record :: after))
    {intent : JournalRecord} (member : intent ∈ before)
    (intends : intendsTrackerRead operationId intent = true) :
    (findTrackerReadIntent (replay.source (before ++ record :: after) before.length) operationId
      record.position).isSome = true := by
  have earlier : intent.position < record.position := by
    have ordered := canonical.chronological.increasing
    exact (List.pairwise_append.mp ordered).2.2 intent member record (by simp)
  rw [findTrackerReadIntent, List.find?_isSome]
  refine ⟨intent, ?_, by simp [earlier, intends]⟩
  cases replay with
  | raw => exact List.mem_append_left _ member
  | indexed =>
      obtain ⟨rest, through, presents⟩ := canonical.presents_source .indexed
      have found := presents.recordByKey intent.event.expectedKey
      rw [through.find_key (List.mem_append_left _ member),
        expectedKey_of_intendsTrackerRead intends, HistoryReplay.source] at found
      rw [HistoryReplay.source, keyedCandidates, found]
      exact List.mem_singleton_self intent

theorem mem_of_keyedCandidates {source : JournalHistorySource} {records : List JournalRecord}
    {key : JournalRecordKey} (presents : Presents source records)
    (candidate : record ∈ keyedCandidates source key) : record ∈ records := by
  have found := presents.recordByKey key
  cases source with
  | raw listed =>
      cases presents
      exact candidate
  | indexed evidence =>
      rw [keyedCandidates, found, Option.mem_toList] at candidate
      exact List.mem_of_find?_eq_some candidate

theorem answersEarlierRead_of_checked (canonical : Canonical runId (before ++ record :: after))
    {intended : KeySet OperationId} (tracks : TrackerReadsTrack before intended)
    {observation : TaskTrackerFactsObservation} (observed : record.trackerFacts? = some observation)
    (needed : validateTrackerPredecessor record intended = [])
    (checked : validateTrackerObservation record
      (replay.source (before ++ record :: after) before.length) = []) :
    AnswersEarlierRead before record observation := by
  rw [validateTrackerPredecessor, observed] at needed
  obtain ⟨earlier, member, intends⟩ := tracks.intended _
    (of_decide_eq_true (issueUnless_eq_nil.mp needed))
  obtain ⟨intent, found⟩ := Option.isSome_iff_exists.mp
    (@findTrackerReadIntent_isSome runId replay before after record _ canonical earlier member
      intends)
  rw [validateTrackerObservation, observed] at checked
  simp only [found] at checked
  have condition := List.find?_some found
  rw [Bool.and_eq_true, decide_eq_true_iff] at condition
  obtain ⟨rest, through, presents⟩ := canonical.presents_source replay
  have listed := mem_of_keyedCandidates presents (List.mem_of_find?_eq_some found)
  refine ⟨intent, ?_, condition.1, condition.2, issueUnless_eq_nil.mp checked⟩
  rw [← through.filter_before, List.mem_filter]
  exact ⟨listed, decide_eq_true condition.1⟩

end

section

variable {runId : RunId} {replay : HistoryReplay} {records before after : List JournalRecord}
  {record : JournalRecord}

theorem AnswersEarlierRead.append {observation : TaskTrackerFactsObservation}
    (answers : AnswersEarlierRead before record observation) :
    AnswersEarlierRead (before ++ after) record observation := by
  obtain ⟨intent, member, answered⟩ := answers
  exact ⟨intent, List.mem_append_left after member, answered⟩

theorem TrackerReadsTrack.step {indexes : HistoryIndexes trackerReadChecks}
    (canonical : Canonical runId (before ++ record :: after))
    (tracks : TrackerReadsTrack before indexes.kept)
    (silent : (validateHistoryRecord trackerReadChecks runId record before.length
      (replay.source (before ++ record :: after) before.length) indexes).issues = []) :
    TrackerReadsTrack (before ++ [record])
      (validateHistoryRecord trackerReadChecks runId record before.length
        (replay.source (before ++ record :: after) before.length) indexes).indexes.kept := by
  obtain ⟨kernel, remaining⟩ := List.append_eq_nil_iff.mp silent
  have unseen : record.key ∉ indexes.kernel.fold.seenKeys := by
    simp only [validateKernelRecord, List.append_eq_nil_iff] at kernel
    have checked := (validateRecord_issues_eq_nil _ _ _ _ _).mp kernel.1.1
    exact (validateRecordEnvelope_issues_eq_nil.mp checked.envelope).2.2.2
  simp only [trackerReadChecks, if_neg unseen, List.append_eq_nil_iff] at remaining
  have kept : (validateHistoryRecord trackerReadChecks runId record before.length
      (replay.source (before ++ record :: after) before.length) indexes).indexes.kept =
        KeySet.add? indexes.kept (record.trackerRead?.map (·.operationId)) := by
    simp only [validateHistoryRecord, trackerReadChecks, if_neg unseen]
  rw [kept]
  constructor
  · intro operationId listed
    rcases KeySet.mem_add?.mp listed with read | earlier
    · obtain ⟨operation, recorded, same⟩ := Option.map_eq_some_iff.mp read
      refine ⟨record, by simp, ?_⟩
      rw [intendsTrackerRead, recorded]
      exact decide_eq_true same
    · obtain ⟨intent, member, intends⟩ := tracks.intended operationId earlier
      exact ⟨intent, List.mem_append_left _ member, intends⟩
  · intro other member observation observed
    rcases Log.mem_concat.mp member with earlier | same
    · exact (tracks.answered other earlier observation observed).append
    · obtain rfl := same
      exact (answersEarlierRead_of_checked canonical tracks observed remaining.1 remaining.2).append

end

end Dalph
