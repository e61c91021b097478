import Dalph.WorkflowJournal.PresentedHistory
import Dalph.WorkflowJournal.RunLifecycle
import Dalph.Workflow.ReplacementEvents

/-!
# Replays of a history

A history is replayed record by record, first over evidence that grows with the replay and, after
any issue, over the complete list.  Each check reads the records before its own.
-/

namespace Dalph

def priorRecords (position : JournalPosition) : JournalHistorySource → JournalHistorySource
  | .raw records => .raw (records.filter fun record => record.position < position)
  | .indexed evidence => .indexed (journalEvidenceBefore evidence position)

def recordsThrough (position : JournalPosition) : JournalHistorySource → JournalHistorySource
  | .raw records => .raw (records.filter fun record => record.position ≤ position)
  | .indexed evidence => .indexed (journalEvidenceBefore evidence (position + 1))

inductive HistoryReplay where
  | indexed
  | raw
deriving DecidableEq

def HistoryReplay.source (replay : HistoryReplay) (records : List JournalRecord) (index : Nat) :
    JournalHistorySource :=
  match replay with
  | indexed => .indexed (journalEvidenceFrom (records.take (index + 1)))
  | raw => .raw records

/-- What a replay keeps for the checks of later records. -/
structure FoldIndexes where
  seenKeys : KeySet JournalRecordKey
  plans : KeyedMap AttemptId PlannedTaskAttempt
  supersededExecutorAttempts : KeySet AttemptId
  abandonedExecutorAttempts : KeySet AttemptId
  attemptChoiceSubjects : KeySet String
  attemptStopDirections : KeyedMap AttemptId PlannedTaskAttempt
  attemptRestartDirections : KeyedMap AttemptId PlannedTaskAttempt

def emptyIndexes : FoldIndexes where
  seenKeys := .empty
  plans := ∅
  supersededExecutorAttempts := .empty
  abandonedExecutorAttempts := .empty
  attemptChoiceSubjects := .empty
  attemptStopDirections := ∅
  attemptRestartDirections := ∅

/-- What a check leaves: the indexes behind the record and the issues it found. -/
structure CheckResult where
  indexes : FoldIndexes
  issues : List String

/-- What an envelope check finds: whether the key is new, the indexes with it, and the issues. -/
structure EnvelopeValidation where
  unique : Bool
  indexes : FoldIndexes
  issues : List String

/-- The envelope must stand at the next position, under the event's own key, which is new. -/
def validateRecordEnvelope (record : JournalRecord) (index : Nat) (runId : RunId)
    (indexes : FoldIndexes) : EnvelopeValidation :=
  let issues :=
    issueUnless (record.position = index + 1)
        s!"expected canonical position {index + 1}, found {record.position}" ++
      issueUnless (record.runId = runId) s!"record belongs to run {record.runId.value}" ++
      issueUnless (record.key = record.event.expectedKey)
        s!"event requires record key {record.event.expectedKey.value}, found {record.key.value}"
  if record.key ∈ indexes.seenKeys then
    { unique := false
      indexes
      issues := issues ++ [s!"duplicate journal record key {record.key.value}"] }
  else
    { unique := true
      indexes := { indexes with seenKeys := indexes.seenKeys.add record.key }
      issues }

theorem validateRecordEnvelope_issues_eq_nil {record : JournalRecord} {index : Nat} {runId : RunId}
    {indexes : FoldIndexes} :
    (validateRecordEnvelope record index runId indexes).issues = [] ↔
      record.position = index + 1 ∧ record.runId = runId ∧
        record.key = record.event.expectedKey ∧ ¬ record.key ∈ indexes.seenKeys := by
  unfold validateRecordEnvelope
  by_cases seen : record.key ∈ indexes.seenKeys
  · simp [seen]
  · simp [seen]

/-- Records whose envelopes a replay of the Run accepts. -/
structure Canonical (runId : RunId) (records : List JournalRecord) : Prop where
  positions : records.map (·.position) = List.range' 1 records.length
  owned : ∀ record ∈ records, record.runId = runId
  keyed : ∀ record ∈ records, record.key = record.event.expectedKey
  distinctKeys : (records.map (·.key)).Nodup

namespace Canonical

variable {runId : RunId} {records before after : List JournalRecord} {record other : JournalRecord}

theorem chronological (canonical : Canonical runId records) : Chronological records where
  increasing := by
    have ordered : (List.range' 1 records.length).Pairwise (· < ·) := List.pairwise_lt_range'
    rw [← canonical.positions] at ordered
    exact List.pairwise_map.mp ordered
  positive := by
    intro record member
    have listed := List.mem_map_of_mem (f := (·.position)) member
    rw [canonical.positions, List.mem_range'_1] at listed
    exact listed.1

theorem left (canonical : Canonical runId (before ++ after)) : Canonical runId before where
  positions := by
    have mapped := canonical.positions
    rw [List.map_append, List.length_append, ← List.range'_append_1] at mapped
    exact (List.append_inj mapped (by simp)).1
  owned := fun record member => canonical.owned record (List.mem_append_left after member)
  keyed := fun record member => canonical.keyed record (List.mem_append_left after member)
  distinctKeys := by
    have distinct := canonical.distinctKeys
    rw [List.map_append] at distinct
    exact distinct.of_append_left

theorem extended (canonical : Canonical runId records)
    (position : record.position = records.length + 1) (owned : record.runId = runId)
    (keyed : record.key = record.event.expectedKey)
    (unused : ∀ other ∈ records, other.key ≠ record.key) : Canonical runId (records ++ [record]) where
  positions := by
    rw [List.map_append, canonical.positions, List.length_append, List.length_singleton,
      List.range'_1_concat, List.map_singleton, position, Nat.add_comm 1]
  owned := by
    intro other member
    rcases Log.mem_concat.mp member with first | last
    · exact canonical.owned other first
    · rw [last, owned]
  keyed := by
    intro other member
    rcases Log.mem_concat.mp member with first | last
    · exact canonical.keyed other first
    · rw [last, keyed]
  distinctKeys := by
    rw [List.map_append, List.map_singleton, List.nodup_append]
    refine ⟨canonical.distinctKeys, List.nodup_singleton _, ?_⟩
    intro key listed last alone same
    obtain ⟨other, member, rfl⟩ := List.mem_map.mp listed
    rw [List.mem_singleton.mp alone] at same
    exact unused other member same

theorem position_eq (canonical : Canonical runId (before ++ record :: after)) :
    record.position = before.length + 1 := by
  have mapped := congrArg (·[before.length]?) canonical.positions
  simpa [Nat.add_comm] using mapped

theorem filter_before (canonical : Canonical runId (before ++ record :: after)) :
    ((before ++ record :: after).filter fun earlier => earlier.position < record.position) =
      before := by
  have ordered := List.pairwise_append.mp canonical.chronological.increasing
  have earlier : ∀ first ∈ before, first.position < record.position := fun first member =>
    ordered.2.2 first member record List.mem_cons_self
  have later : ∀ last ∈ after, record.position < last.position :=
    (List.pairwise_cons.mp ordered.2.1).1
  rw [List.filter_append, List.filter_eq_self.mpr fun first member =>
      decide_eq_true (earlier first member), List.filter_cons_of_neg (by simp),
    List.filter_eq_nil_iff.mpr fun last member => by
      simpa using Nat.le_of_lt (later last member), List.append_nil]

theorem eq_of_key (canonical : Canonical runId records) (member : record ∈ records)
    (listed : other ∈ records) (same : record.event.expectedKey = other.event.expectedKey) :
    record = other := by
  refine List.inj_on_of_nodup_map canonical.distinctKeys member listed ?_
  rw [canonical.keyed record member, canonical.keyed other listed, same]

theorem find_key (canonical : Canonical runId records) (member : record ∈ records) :
    records.find? (fun candidate => candidate.key = record.event.expectedKey) = some record := by
  cases found : records.find? fun candidate => candidate.key = record.event.expectedKey with
  | none =>
      have absent := List.find?_eq_none.mp found record member
      rw [canonical.keyed record member] at absent
      simp at absent
  | some candidate =>
      have listed := List.mem_of_find?_eq_some found
      have same : candidate.key = record.event.expectedKey := by simpa using List.find?_some found
      rw [canonical.keyed candidate listed] at same
      rw [canonical.eq_of_key listed member same]

end Canonical

namespace Presents

variable {source : JournalHistorySource} {records : List JournalRecord}

section

variable (presents : Presents source records)
include presents

theorem priorRecords (position : JournalPosition) :
    Presents (priorRecords position source)
      (records.filter fun record => record.position < position) := by
  cases presents with
  | raw => exact .raw _
  | indexed chronological shows =>
      have window := shows.before chronological position
      have same : (records.filter fun record => ((record.position : Int) < position : Bool)) =
          records.filter fun record => record.position < position :=
        List.filter_congr fun record _ => by simp
      rw [same] at window
      exact .indexed chronological window

theorem recordByKey (key : JournalRecordKey) :
    journalRecordByKey key source = records.find? fun record => record.key = key := by
  cases presents with
  | raw => rfl
  | indexed chronological shows => exact shows.visible_byKey chronological.increasing key

theorem mem_of_recordByPosition {position : JournalPosition} {record : JournalRecord}
    (found : journalRecordByPosition position source = some record) : record ∈ records := by
  cases presents with
  | raw => exact List.mem_of_find?_eq_some found
  | indexed chronological shows =>
      simp only [journalRecordByPosition] at found
      split at found
      · cases found
      · split at found
        · rw [← shows.toList]
          exact PersistentSequence.mem_toList_of_get found
        · rw [← shows.toList]
          exact PersistentSequence.mem_toList_of_get (Option.filter_eq_some_iff.mp found).1

end

end Presents

namespace Canonical

variable {runId : RunId} {before after : List JournalRecord} {record : JournalRecord}

theorem presents_source (canonical : Canonical runId (before ++ record :: after))
    (replay : HistoryReplay) :
    ∃ rest, Canonical runId (before ++ record :: rest) ∧
      Presents (replay.source (before ++ record :: after) before.length)
        (before ++ record :: rest) := by
  cases replay with
  | raw => exact ⟨after, canonical, .raw _⟩
  | indexed =>
      have shown : (before ++ record :: after).take (before.length + 1) = before ++ [record] := by
        simp [List.take_append]
      have through : Canonical runId (before ++ record :: []) := by
        rw [List.append_cons] at canonical
        exact canonical.left
      refine ⟨[], through, ?_⟩
      rw [HistoryReplay.source, shown]
      exact presents_journalEvidenceFrom through.chronological

theorem presents_prior (canonical : Canonical runId (before ++ record :: after))
    (replay : HistoryReplay) :
    Presents
      (priorRecords record.position (replay.source (before ++ record :: after) before.length))
      before := by
  obtain ⟨rest, through, presents⟩ := canonical.presents_source replay
  have prior := presents.priorRecords record.position
  rwa [through.filter_before] at prior

end Canonical

end Dalph
